import RemoteControl.Ble.GattStep
import RemoteControl.Lib.Run

/-!
# What a central can read (`gatt_attrs.c`, `gatt_server.c`, `gatt_notify.c`)

Four characteristics can be read. The stack answers a read of TX, of the error source and of the
alerts with the value it has stored, and tells the server of the read afterwards, who then stores
the current text; a read of the DHT sensor the server answers itself. The values are stored first
when the attribute table has been created, as constants, and then along with what is indicated. So
what a central can read of the error source and of the alerts is current only after the server has
been told of them, or read once (`readable_iff`): the table is created when the lifeboat comes up,
and it says `NONE` then, whatever has brought it up.
-/

namespace RemoteControl

open CString

/-! ## The values -/

/-- The stored values. -/
structure GattAttrs where
  tx : Bytes
  errsrc : Bytes
  alert : Bytes
  dht : Bytes
  deriving DecidableEq

/-- `esp_ble_gatts_set_attr_value` of an attribute with room for `max` bytes. -/
def setAttrValue (max : Nat) (value old : Bytes) : Bytes :=
  if value.length ≤ max then value else old

/-- The values that `gatt_on_attr_table_created` stores. -/
def GattAttrs.created : GattAttrs where
  tx := lit "OK"
  errsrc := lit "NONE"
  alert := lit "ALERT seq=0 code=0"
  dht := lit "DHT NA"

namespace GattAttrs

/-- The value of ERRSRC that `errsrc_notify_if_changed` stores, for what `gatt_server_notify_errsrc`
passes on. -/
def notifyErrsrc (a : GattAttrs) (err : Bytes) : GattAttrs :=
  { a with errsrc := setAttrValue 64 ((if err = [] then lit "NONE" else err).take 63) a.errsrc }

/-- That of `on_read_errsrc`. -/
def readErrsrc (err : Bytes) (a : GattAttrs) : GattAttrs :=
  { a with errsrc := setAttrValue 64 err a.errsrc }

/-- That of TX, in `gatt_server_send_status`. -/
def sendStatus (s : Bytes) (a : GattAttrs) : GattAttrs :=
  { a with tx := setAttrValue 512 s a.tx }

/-- That of ALERT, in `gatt_alert_notify` and in `on_read_alert`. -/
def alertNotify (rec : AlertRecord) (a : GattAttrs) : GattAttrs :=
  { a with alert := setAttrValue 128 rec.line a.alert }

/-- That of DHT, in `on_read_dht_and_len`. -/
def readDht (text : Bytes) (a : GattAttrs) : GattAttrs :=
  { a with dht := setAttrValue 64 (GattServer.dhtReadout text) a.dht }

/-- What an event of the server stores. -/
def hear (g : GattServer) (ev : GattEv) (a : GattAttrs) : GattAttrs :=
  match ev with
  | .cccErrsrc _ value => if GattServer.cccEnables value then a.notifyErrsrc g.errsrc.err else a
  | .cccAlert _ value => if GattServer.cccEnables value then a.alertNotify g.latest else a
  | .cccDht _ value text => if GattServer.cccEnables value then a.readDht text else a
  | .status line => a.sendStatus line
  | .setErrsrc s =>
    ((errsrcSet g.errsrc s).told.drop g.errsrc.told.length).foldl notifyErrsrc a
  | .setErrsrcEnum e =>
    ((errsrcSetEnum g.errsrc e).told.drop g.errsrc.told.length).foldl notifyErrsrc a
  | .raiseAlert code detail => a.alertNotify (g.latest.next code (detail.getD []))
  | .registered _ | .connect _ | .mtu _ _ | .disconnect _ | .cccTx _ _ => a

end GattAttrs

/-! ## The server with its attributes -/

/-- The statics, and the stored values once there is a table. -/
structure AttrServer where
  server : GattServer
  attrs : Option GattAttrs

/-- What happens: an event of the server, the creation of the table, or a read of one of three
characteristics; a read of TX means nothing to the server. -/
inductive AttrEv where
  | server (ev : GattEv)
  | tableCreated (ok : Bool)
  | readErrsrc
  | readAlert
  | readDht (text : Bytes)

/-- The event creates the table, which there is only for an application that is registered. -/
def AttrServer.creates (w : AttrServer) : AttrEv → Bool
  | .tableCreated ok => ok && w.server.tx.gattsIf.isSome
  | _ => false

/-- One of them. -/
def AttrServer.step (w : AttrServer) (ev : AttrEv) : AttrServer :=
  match ev with
  | .server ev => ⟨w.server.handle ev, w.attrs.map (·.hear w.server ev)⟩
  | .tableCreated _ => if w.creates ev then { w with attrs := some .created } else w
  | .readErrsrc => { w with attrs := w.attrs.map (·.readErrsrc w.server.errsrc.err) }
  | .readAlert => { w with attrs := w.attrs.map (·.alertNotify w.server.latest) }
  | .readDht text => { w with attrs := w.attrs.map (·.readDht text) }

/-- The server is told of the error string, or of a read of it: `errsrc.c` calls it back, or a
central turns it on or has read it. -/
def AttrEv.tellsErrsrc (g : GattServer) : AttrEv → Bool
  | .server (.cccErrsrc _ value) => GattServer.cccEnables value
  | .server ev => decide (g.errsrc.told.length < (g.handle ev).errsrc.told.length)
  | .readErrsrc => true
  | _ => false

/-- The same for the latest alert. -/
def AttrEv.tellsAlert : AttrEv → Bool
  | .server (.cccAlert _ value) => GattServer.cccEnables value
  | .server (.raiseAlert _ _) => true
  | .readAlert => true
  | _ => false

/-- Whether the server has been told of the error string, and of the latest alert, since the table
was created. -/
structure AttrWatch where
  s : AttrServer
  errsrcTold : Bool
  alertTold : Bool

/-- An event. -/
def AttrWatch.step (w : AttrWatch) (ev : AttrEv) : AttrWatch :=
  if w.s.creates ev then ⟨w.s.step ev, false, false⟩
  else ⟨w.s.step ev, w.errsrcTold || ev.tellsErrsrc w.s.server, w.alertTold || ev.tellsAlert⟩

/-- After `gatt_server_init`. -/
def AttrWatch.init (err : ErrText) (last : ErrSrc) : AttrWatch :=
  ⟨⟨.afterInit err.text last 20, none⟩, false, false⟩

/-! ## What is stored -/

/-- The values of the error source and of the alerts: current where the server has been told, and
else the constants of the table. -/
structure AttrInv (w : AttrWatch) : Prop where
  settled : ErrSettled w.s.server
  errsrc : ∀ a ∈ w.s.attrs,
    a.errsrc = if w.errsrcTold then w.s.server.errsrc.err else GattAttrs.created.errsrc
  alert : ∀ a ∈ w.s.attrs,
    a.alert = if w.alertTold then w.s.server.latest.line else GattAttrs.created.alert

/-- A string of the error source fits. -/
theorem GattAttrs.errsrc_notifyErrsrc (a : GattAttrs) {err : Bytes} (hne : err ≠ [])
    (hle : err.length ≤ 63) : (a.notifyErrsrc err).errsrc = err := by
  rw [notifyErrsrc, if_neg hne, List.take_of_length_le hle]
  exact if_pos (by omega)

theorem GattAttrs.errsrc_readErrsrc (a : GattAttrs) {err : Bytes} (hle : err.length ≤ 63) :
    (a.readErrsrc err).errsrc = err :=
  if_pos (by omega)

/-- The text of an alert fits. -/
theorem GattAttrs.alert_alertNotify (rec : AlertRecord) (a : GattAttrs) :
    (a.alertNotify rec).alert = rec.line :=
  if_pos (Nat.le_of_lt rec.length_line)

/-- A step stores the current text and the server has been told, or it leaves both the value and the
text as they are. -/
def Refreshes (tells : Bool) (value cur value' cur' : Bytes) : Prop :=
  (tells = true ∧ value' = cur') ∨ (tells = false ∧ value' = value ∧ cur' = cur)

theorem Refreshes.keep {tells told : Bool} {value cur value' cur' init : Bytes}
    (h : Refreshes tells value cur value' cur') (hvalue : value = if told then cur else init) :
    value' = if told || tells then cur' else init := by
  rcases h with ⟨rfl, rfl⟩ | ⟨rfl, rfl, rfl⟩
  · rw [Bool.or_true]
    rfl
  · rw [Bool.or_false]
    exact hvalue

/-- The error source calls the server back with the string that it holds from then on, or not at
all. -/
theorem GattAttrs.refreshes_told {old new : Errsrc} (a : GattAttrs) (hnew : old.Tells new) :
    let a' := (new.told.drop old.told.length).foldl notifyErrsrc a
    Refreshes (decide (old.told.length < new.told.length)) a.errsrc old.err a'.errsrc new.err ∧
      a'.alert = a.alert := by
  rcases hnew with ⟨htold, herr, -⟩ | ⟨htold, hne, hle, -⟩
  · rw [htold, List.drop_length]
    exact ⟨.inr ⟨decide_eq_false (Nat.lt_irrefl _), rfl, herr⟩, rfl⟩
  · rw [htold, List.drop_left, List.length_append]
    exact ⟨.inl ⟨decide_eq_true (Nat.lt_succ_self _), a.errsrc_notifyErrsrc hne hle⟩, rfl⟩

section
variable {g : GattServer}

/-- **What an event of the server does to the value of the error source.** -/
theorem ErrSettled.refreshes_errsrc (h : ErrSettled g) (ev : GattEv) (a : GattAttrs) :
    Refreshes (AttrEv.tellsErrsrc g (.server ev)) a.errsrc g.errsrc.err (a.hear g ev).errsrc
      (g.handle ev).errsrc.err := by
  rw [h.errsrc_handle]
  have hquiet : ∀ {ev : GattEv}, (g.noted ev).errsrc = g.errsrc →
      decide (g.errsrc.told.length < (g.handle ev).errsrc.told.length) = false := by
    intro ev hsame
    rw [h.errsrc_handle, hsame]
    exact decide_eq_false (Nat.lt_irrefl _)
  cases ev with
  | cccErrsrc connId value =>
    simp only [GattAttrs.hear, AttrEv.tellsErrsrc]
    split
    · next hon => exact .inl ⟨hon, a.errsrc_notifyErrsrc h.err_ne h.err_le⟩
    · next hoff => exact .inr ⟨Bool.eq_false_iff.mpr hoff, rfl, rfl⟩
  | setErrsrc s =>
    simp only [GattAttrs.hear, AttrEv.tellsErrsrc, h.errsrc_handle]
    exact (a.refreshes_told (tells_errsrcSet h.subscribed s)).1
  | setErrsrcEnum e =>
    simp only [GattAttrs.hear, AttrEv.tellsErrsrc, h.errsrc_handle]
    exact (a.refreshes_told (tells_errsrcSetEnum h.subscribed e)).1
  | connect connId =>
    have hsame : (g.noted (.connect connId)).errsrc = g.errsrc := by
      simp only [GattServer.noted]
      split <;> rfl
    exact .inr ⟨hquiet hsame, rfl, congrArg Errsrc.err hsame⟩
  | cccAlert connId value | cccDht connId value text =>
    refine .inr ⟨hquiet rfl, ?_, rfl⟩
    simp only [GattAttrs.hear]
    split <;> rfl
  | registered | mtu | disconnect | cccTx | status | raiseAlert =>
    exact .inr ⟨hquiet rfl, rfl, rfl⟩

/-- **What it does to the value of the alerts.** -/
theorem ErrSettled.refreshes_alert (h : ErrSettled g) (ev : GattEv) (a : GattAttrs) :
    Refreshes (AttrEv.tellsAlert (.server ev)) a.alert g.latest.line (a.hear g ev).alert
      (g.handle ev).latest.line := by
  rw [h.latest_handle]
  cases ev with
  | cccAlert connId value =>
    simp only [GattAttrs.hear, AttrEv.tellsAlert]
    split
    · next hon => exact .inl ⟨hon, a.alert_alertNotify g.latest⟩
    · next hoff => exact .inr ⟨Bool.eq_false_iff.mpr hoff, rfl, rfl⟩
  | raiseAlert code detail => exact .inl ⟨rfl, a.alert_alertNotify _⟩
  | setErrsrc s => exact .inr ⟨rfl, (a.refreshes_told (tells_errsrcSet h.subscribed s)).2, rfl⟩
  | setErrsrcEnum e =>
    exact .inr ⟨rfl, (a.refreshes_told (tells_errsrcSetEnum h.subscribed e)).2, rfl⟩
  | connect connId =>
    refine .inr ⟨rfl, rfl, ?_⟩
    simp only [GattServer.noted]
    split <;> rfl
  | cccErrsrc connId value | cccDht connId value text =>
    refine .inr ⟨rfl, ?_, rfl⟩
    simp only [GattAttrs.hear]
    split <;> rfl
  | registered | mtu | disconnect | cccTx | status => exact .inr ⟨rfl, rfl, rfl⟩

end

/-- What changes the values so keeps the invariant. -/
theorem AttrInv.refresh {w : AttrWatch} (h : AttrInv w) {g : GattServer} (hg : ErrSettled g)
    {f : GattAttrs → GattAttrs} {tellsErrsrc tellsAlert : Bool}
    (herrsrc : ∀ a, Refreshes tellsErrsrc a.errsrc w.s.server.errsrc.err (f a).errsrc g.errsrc.err)
    (halert : ∀ a, Refreshes tellsAlert a.alert w.s.server.latest.line (f a).alert g.latest.line) :
    AttrInv ⟨⟨g, w.s.attrs.map f⟩, w.errsrcTold || tellsErrsrc, w.alertTold || tellsAlert⟩ := by
  refine ⟨hg, fun a' ha' => ?_, fun a' ha' => ?_⟩
  · obtain ⟨a, ha, rfl⟩ := Option.map_eq_some_iff.mp ha'
    exact (herrsrc a).keep (h.errsrc a ha)
  · obtain ⟨a, ha, rfl⟩ := Option.map_eq_some_iff.mp ha'
    exact (halert a).keep (h.alert a ha)

/-- A step keeps this. -/
theorem AttrInv.step {w : AttrWatch} (h : AttrInv w) (ev : AttrEv) : AttrInv (w.step ev) := by
  have hset := h.settled
  cases ev with
  | server ev =>
    exact h.refresh (hset.handle ev) (hset.refreshes_errsrc ev) (hset.refreshes_alert ev)
  | tableCreated ok =>
    rw [AttrWatch.step, AttrServer.step]
    split
    · exact ⟨hset, fun a ha => by cases ha; rfl, fun a ha => by cases ha; rfl⟩
    · simp only [AttrEv.tellsErrsrc, AttrEv.tellsAlert, Bool.or_false]
      exact h
  | readErrsrc =>
    exact h.refresh hset (fun a => .inl ⟨rfl, a.errsrc_readErrsrc hset.err_le⟩)
      fun _ => .inr ⟨rfl, rfl, rfl⟩
  | readAlert =>
    exact h.refresh hset (fun _ => .inr ⟨rfl, rfl, rfl⟩)
      fun a => .inl ⟨rfl, a.alert_alertNotify _⟩
  | readDht text =>
    exact h.refresh hset (fun _ => .inr ⟨rfl, rfl, rfl⟩) fun _ => .inr ⟨rfl, rfl, rfl⟩

theorem attrInv_init (err : ErrText) (last : ErrSrc) : AttrInv (.init err last) :=
  ⟨errSettled_afterInit err last 20, by rintro _ ⟨⟩, by rintro _ ⟨⟩⟩

/-- No alert reads as the constant of the table. -/
theorem AlertRecord.line_ne_created (r : AlertRecord) : r.line ≠ GattAttrs.created.alert := by
  intro h
  have hlen := congrArg List.length h
  have hseq := List.length_pos_iff.mpr (formatNat_ne_nil 10 r.seq.toNat)
  have hcode := List.length_pos_iff.mpr (formatNat_ne_nil 10 r.code.toNat)
  have hfixed : (lit "ALERT seq=").length = 10 ∧ (lit " code=").length = 6 ∧
      (lit " ").length = 1 ∧ (lit "ALERT seq=0 code=0").length = 18 := by decide
  simp only [AlertRecord.line, GattAttrs.created, List.length_append] at hlen
  omega

/-- **What can be read is current.** After any history of the server, of tables created and of
reads, the stored value of the error source is the current string exactly if the server has been
told of it since the table was created, or the string is the constant that the table began with;
and that of the alerts is the latest alert exactly if the server has been told of that. Where it has
not been told, the value is the constant of the table. -/
theorem readable_iff (err : ErrText) (last : ErrSrc) (evs : List AttrEv) :
    let w := Run.exec AttrWatch.step (.init err last) evs
    ∀ a ∈ w.s.attrs,
      (a.errsrc = w.s.server.errsrc.err ↔
        w.errsrcTold = true ∨ w.s.server.errsrc.err = lit "NONE") ∧
      (a.alert = w.s.server.latest.line ↔ w.alertTold = true) ∧
      (w.errsrcTold = false → a.errsrc = lit "NONE") ∧
      (w.alertTold = false → a.alert = lit "ALERT seq=0 code=0") := by
  intro w a ha
  have h : AttrInv w := Run.exec_inv (attrInv_init err last) (fun _ ev h => h.step ev) evs
  have herrsrc := h.errsrc a ha
  have halert := h.alert a ha
  refine ⟨?_, ?_, fun htold => ?_, fun htold => ?_⟩
  · rw [herrsrc]
    cases w.errsrcTold
    · simp only [Bool.false_eq_true, if_false, false_or]
      exact eq_comm
    · simp
  · rw [halert]
    cases w.alertTold
    · simp only [Bool.false_eq_true, if_false, iff_false]
      exact (AlertRecord.line_ne_created _).symm
    · simp
  · rw [herrsrc, htold]
    rfl
  · rw [halert, htold]
    rfl

/-- The lifeboat comes up because the network is gone, and a central that connects then reads
`NONE` at first. -/
example :
    let w := Run.exec AttrWatch.step (.init ⟨lit "NO_AP", by decide, by decide⟩ .noAp)
      [.server (.registered 3), .tableCreated true, .server (.connect 0)]
    w.s.attrs.map GattAttrs.errsrc = some (lit "NONE") ∧
      (w.step .readErrsrc).s.attrs.map GattAttrs.errsrc = some (lit "NO_AP") := by
  decide

end RemoteControl
