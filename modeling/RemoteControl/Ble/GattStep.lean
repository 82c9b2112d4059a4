import RemoteControl.Ble.GattServer

/-!
# What one event makes the server do (`gatt_server.c`, `gatt_notify.c`)

The server suppresses an error string that equals the one it sent last, and takes note of a string
as sent whether or not anyone was there to get it. After `gatt_server_init` the string noted is
always the current one (`ErrSettled`). On that invariant an event does two things, which
`ErrSettled.handle_eq` says once and for all: it leaves something in the statics
(`GattServer.noted`), and it sends at most one text (`GattServer.outgoing`) to the central of
`g_conn_id`, in pieces of at most `g_mtu_payload` bytes (`GattServer.sends`).
-/

namespace RemoteControl

open CString

/-! ## The string that counts as sent -/

/-- A string that `errsrc.c` can hold. -/
structure ErrText where
  text : Bytes
  text_ne : text ≠ []
  text_le : text.length ≤ 63

/-- The errors so far have been cleared. -/
def noError : ErrText := ⟨lit "NONE", by decide, by decide⟩

/-- The current string counts as sent. -/
structure ErrSettled (g : GattServer) : Prop where
  sent : g.lastErrsrcSent = g.errsrc.err
  err_ne : g.errsrc.err ≠ []
  err_le : g.errsrc.err.length ≤ 63
  subscribed : g.errsrc.subscribed = true
  registered : g.tx.connId.isSome = true → g.tx.gattsIf.isSome = true

/-- Short strings that agree up to 64 bytes are equal. -/
theorem strnEq_of_le {a b : Bytes} (ha : a.length ≤ 63) (hb : b.length ≤ 63) :
    strnEq a b 64 = true ↔ a = b := by
  have hfits : ∀ s : Bytes, s.length ≤ 63 → (s ++ [0]).take 64 = s ++ [0] := by
    intro s hs
    refine List.take_of_length_le ?_
    rw [List.length_append]
    exact Nat.succ_le_succ hs
  rw [strnEq, beq_iff_eq, hfits a ha, hfits b hb]
  exact List.append_left_inj [0]

/-- The error source tells its subscriber nothing, or the string that is new. -/
def Errsrc.Tells (old new : Errsrc) : Prop :=
  (new.told = old.told ∧ new.err = old.err ∧ new.subscribed = true) ∨
    (new.told = old.told ++ [new.err] ∧ new.err ≠ [] ∧ new.err.length ≤ 63 ∧ new.subscribed = true)

theorem tells_errsrcSet {st : Errsrc} (hsub : st.subscribed = true) (s : Option Bytes) :
    st.Tells (errsrcSet st s) := by
  have hne : (if s.getD [] = [] then lit "NONE" else s.getD []) ≠ [] := by
    split
    · decide
    · assumption
  unfold errsrcSet
  dsimp only
  generalize (if s.getD [] = [] then lit "NONE" else s.getD []) = t at hne ⊢
  split
  · exact .inl ⟨rfl, rfl, hsub⟩
  · refine .inr ⟨by simp, ?_, ?_, hsub⟩
    · rw [Ne, List.take_eq_nil_iff]
      rintro (h0 | hnil)
      · exact absurd h0 (by decide)
      · exact hne hnil
    · rw [List.length_take]
      exact Nat.min_le_left _ _

theorem tells_errsrcSetEnum {st : Errsrc} (hsub : st.subscribed = true) (e : ErrSrc) :
    st.Tells (errsrcSetEnum st e) :=
  @tells_errsrcSet { st with last := e } hsub _

/-! ## The text of an event -/

/-- The pieces a text is sent in. -/
def pieces (payload : Nat) : IndicatedChar → Bytes → List Bytes
  | .tx, text => Chunks.cut (maxChunk payload) text ++ [[10]]
  | _, text => [text.take payload]

namespace GattServer

/-- The text that an event makes the server send to a central, uncut. -/
def outgoing (g : GattServer) : GattEv → Option (IndicatedChar × Bytes)
  | .cccAlert _ value => if cccEnables value then some (.alert, g.latest.line) else none
  | .cccDht _ value text => if cccEnables value then some (.dht, dhtReadout text) else none
  | .status line => if g.tx.txNotifyEnabled then some (.tx, line) else none
  | .setErrsrc s =>
    let err := (errsrcSet g.errsrc s).err
    if g.esNotifyEnabled ∧ err ≠ g.errsrc.err then some (.errsrc, err) else none
  | .setErrsrcEnum e =>
    let err := (errsrcSetEnum g.errsrc e).err
    if g.esNotifyEnabled ∧ err ≠ g.errsrc.err then some (.errsrc, err) else none
  | .raiseAlert code detail =>
    if g.alertNotifyEnabled then some (.alert, (g.latest.next code (detail.getD [])).line) else none
  | _ => none

/-- The pieces of the text of an event, to the link. -/
def sends (g : GattServer) (m : Option (IndicatedChar × Bytes)) : List Indication :=
  g.link.toList.flatMap fun connId => m.toList.flatMap fun m =>
    (pieces g.tx.mtuPayload m.1 m.2).map (⟨m.1, connId, ·⟩)

/-- What an event leaves in the statics, before the central is told of it. -/
def noted (g : GattServer) : GattEv → GattServer
  | .registered gattsIf => { g with tx := { g.tx with gattsIf := some gattsIf } }
  | .connect connId => if g.tx.gattsIf.isNone then g else g.allOff (some connId)
  | .mtu _ mtu => { g with tx := g.tx.onMtu mtu.mtu }
  | .disconnect _ => g.allOff none
  | .cccTx _ value => { g with tx := { g.tx with txNotifyEnabled := cccEnables value } }
  | .cccErrsrc _ value => { g with esNotifyEnabled := cccEnables value }
  | .cccAlert _ value => { g with alertNotifyEnabled := cccEnables value }
  | .cccDht _ value _ => { g with dhtNotifyEnabled := cccEnables value }
  | .status _ => g
  | .setErrsrc s => { g with errsrc := errsrcSet g.errsrc s }
  | .setErrsrcEnum e => { g with errsrc := errsrcSetEnum g.errsrc e }
  | .raiseAlert code detail => { g with latest := g.latest.next code (detail.getD []) }

section
variable {g : GattServer}

@[simp] theorem sends_none : g.sends none = [] := by
  rw [sends]
  cases g.link <;> rfl

theorem mem_sends_some {m : IndicatedChar × Bytes} {i : Indication} :
    i ∈ g.sends (some m) ↔
      i.connId ∈ g.link ∧ i.char = m.1 ∧ i.data ∈ pieces g.tx.mtuPayload m.1 m.2 := by
  obtain ⟨char, connId, data⟩ := i
  simp only [sends, List.mem_flatMap, Option.mem_toList, List.mem_map, Indication.mk.injEq]
  constructor
  · rintro ⟨_, hlink, _, hm, _, hdata, rfl, rfl, rfl⟩
    cases hm
    exact ⟨hlink, rfl, hdata⟩
  · rintro ⟨hlink, rfl, hdata⟩
    exact ⟨connId, hlink, m, rfl, data, hdata, rfl, rfl, rfl⟩

/-- A text of one piece. -/
theorem sends_some {char : IndicatedChar} (hchar : char ≠ .tx) (text : Bytes) :
    g.sends (some (char, text)) =
      g.link.toList.map (⟨char, ·, text.take g.tx.mtuPayload⟩) := by
  have hpieces : pieces g.tx.mtuPayload char text = [text.take g.tx.mtuPayload] := by
    cases char with
    | tx => exact absurd rfl hchar
    | errsrc | alert | dht => rfl
  rw [sends]
  cases g.link with
  | none => rfl
  | some connId => simp [hpieces]

/-! ## The senders -/

/-- The indication of a clamped text, where the characteristic is on. -/
theorem indicate_clamped {char : IndicatedChar} (hchar : char ≠ .tx) (enabled : Bool)
    (text : Bytes) (g : GattServer) :
    g.indicate char enabled
        (text.take (if g.tx.mtuPayload < text.length then g.tx.mtuPayload else text.length)) =
      { g with sent := g.sent ++ g.sends (if enabled then some (char, text) else none) } := by
  rw [indicate_eq, take_clamp]
  cases enabled
  · rw [if_neg Bool.false_ne_true, if_neg Bool.false_ne_true, sends_none]
  · rw [if_pos rfl, if_pos rfl, sends_some hchar]

/-- The alert characteristic sends the text of the alert, if it is on. -/
theorem alertNotify_eq (rec : AlertRecord) (g : GattServer) :
    g.alertNotify rec = { g with
      sent := g.sent ++
        g.sends (if g.alertNotifyEnabled then some (.alert, rec.line) else none) } :=
  indicate_clamped (by decide) g.alertNotifyEnabled rec.line g

/-- The indications of a status on a link. -/
theorem indications_link {connId : Nat} (hlink : g.link = some connId) (s : Bytes) :
    indications (gattServerSendStatus g.tx s) =
      if g.tx.txNotifyEnabled then pieces g.tx.mtuPayload .tx s else [] := by
  obtain ⟨gattsIf, hif, hconn⟩ := Option.bind_eq_some_iff.mp hlink
  cases hon : g.tx.txNotifyEnabled
  · simp only [gattServerSendStatus, hon]
    split <;> rfl
  · exact indications_gattServerSendStatus ⟨by rw [hif]; rfl, by rw [hconn]; rfl, hon⟩ s

/-- A status is sent where TX is on. -/
theorem sendStatus_sends (s : Bytes) (g : GattServer) :
    g.sendStatus s = { g with
      sent := g.sent ++ g.sends (if g.tx.txNotifyEnabled then some (.tx, s) else none) } := by
  rw [sendStatus_eq]
  cases hlink : g.link with
  | none => simp [sends, hlink]
  | some connId =>
    cases hon : g.tx.txNotifyEnabled <;> simp [sends, hlink, indications_link hlink, hon]

end

end GattServer

section
variable {g : GattServer}

/-- The notification of the current string does nothing, and that of another one sends it. -/
theorem ErrSettled.notify (h : ErrSettled g) {err : Bytes} (hne : err ≠ []) (hle : err.length ≤ 63)
    (new : Errsrc) :
    GattServer.notifyErrsrc err { g with errsrc := new } = { g with
      errsrc := new
      lastErrsrcSent := err
      sent := g.sent ++ g.sends
        (if g.esNotifyEnabled ∧ err ≠ g.errsrc.err then some (.errsrc, err) else none) } := by
  have hused : min err.length 63 = err.length := Nat.min_eq_left hle
  have hlast : g.lastErrsrcSent.length ≤ 63 := by
    rw [h.sent]
    exact h.err_le
  rw [GattServer.notifyErrsrc, if_neg hne, GattServer.errsrcNotifyIfChanged]
  by_cases hsame : err = g.errsrc.err
  · have heq : strnEq err g.lastErrsrcSent 64 = true :=
      (strnEq_of_le hle hlast).mpr (hsame.trans h.sent.symm)
    rw [if_pos heq, if_neg fun hand => hand.2 hsame, GattServer.sends_none, List.append_nil, hsame,
      ← h.sent]
  · have hdiff : ¬ strnEq err g.lastErrsrcSent 64 = true := fun heq =>
      hsame (((strnEq_of_le hle hlast).mp heq).trans h.sent)
    have hsend := GattServer.indicate_clamped (by decide : IndicatedChar.errsrc ≠ .tx)
      g.esNotifyEnabled err { g with errsrc := new }
    rw [if_neg hdiff]
    dsimp only
    rw [hused, hsend, List.take_of_length_le hle]
    simp only [ne_eq, hsame, not_false_eq_true, and_true]
    rfl

/-- Setting the error source leaves the new string, and sends it if it is another one. -/
theorem ErrSettled.hear (h : ErrSettled g) {new : Errsrc} (hnew : g.errsrc.Tells new) :
    g.hearErrsrc g.errsrc new = { g with
      errsrc := new
      lastErrsrcSent := new.err
      sent := g.sent ++ g.sends (if g.esNotifyEnabled ∧ new.err ≠ g.errsrc.err then
        some (.errsrc, new.err) else none) } := by
  rcases hnew with ⟨htold, herr, -⟩ | ⟨htold, hne, hle, -⟩
  · rw [GattServer.hearErrsrc, htold, List.drop_length, List.foldl_nil,
      if_neg fun hand => hand.2 herr, GattServer.sends_none, List.append_nil, herr, ← h.sent]
  · rw [GattServer.hearErrsrc, htold, List.drop_left, List.foldl_cons, List.foldl_nil,
      h.notify hne hle]

/-- An event that sends nothing, and leaves the error source alone. -/
theorem ErrSettled.quiet (h : ErrSettled g) {g' : GattServer} (herr : g'.errsrc = g.errsrc)
    (hlast : g'.lastErrsrcSent = g.lastErrsrcSent) (hsent : g'.sent = g.sent) :
    g' = { g' with lastErrsrcSent := g'.errsrc.err, sent := g.sent ++ g.sends none } := by
  have hlast' : g'.errsrc.err = g'.lastErrsrcSent := by rw [herr, ← h.sent, hlast]
  rw [GattServer.sends_none, List.append_nil, ← hsent, hlast']

/-- **What an event does**: it leaves something in the statics, and sends the text that goes out. -/
theorem ErrSettled.handle_eq (h : ErrSettled g) (ev : GattEv) :
    g.handle ev = { g.noted ev with
      lastErrsrcSent := (g.noted ev).errsrc.err
      sent := g.sent ++ g.sends (g.outgoing ev) } := by
  cases ev with
  | registered | mtu | disconnect | cccTx => exact h.quiet rfl rfl rfl
  | connect connId =>
    simp only [GattServer.handle, GattServer.noted]
    split <;> exact h.quiet rfl rfl rfl
  | cccErrsrc connId value =>
    simp only [GattServer.handle, GattServer.noted]
    cases GattServer.cccEnables value
    · exact h.quiet rfl rfl rfl
    · -- the notification that is due is suppressed
      have hset : ErrSettled { g with esNotifyEnabled := true } :=
        ⟨h.sent, h.err_ne, h.err_le, h.subscribed, h.registered⟩
      have hnone := hset.notify h.err_ne h.err_le g.errsrc
      rw [if_neg fun hand => hand.2 rfl] at hnone
      rw [if_pos rfl, hnone]
      rfl
  | cccAlert connId value =>
    simp only [GattServer.handle, GattServer.noted, GattServer.outgoing]
    cases GattServer.cccEnables value
    · exact h.quiet rfl rfl rfl
    · rw [if_pos rfl, if_pos rfl, GattServer.alertNotify_eq, ← h.sent]
      rfl
  | cccDht connId value text =>
    simp only [GattServer.handle, GattServer.noted, GattServer.outgoing]
    cases GattServer.cccEnables value
    · exact h.quiet rfl rfl rfl
    · rw [if_pos rfl, if_pos rfl, GattServer.dhtNotify, GattServer.indicate_clamped (by decide),
        ← h.sent]
      rfl
  | status line =>
    rw [GattServer.handle, GattServer.sendStatus_sends]
    simp only [GattServer.noted, GattServer.outgoing, ← h.sent]
  | setErrsrc s => exact h.hear (tells_errsrcSet h.subscribed s)
  | setErrsrcEnum e => exact h.hear (tells_errsrcSetEnum h.subscribed e)
  | raiseAlert code detail =>
    rw [GattServer.handle, GattServer.raiseAlert, GattServer.alertNotify_eq]
    simp only [GattServer.noted, GattServer.outgoing, ← h.sent]
    rfl

/-! ## The statics after an event -/

theorem ErrSettled.sent_handle (h : ErrSettled g) (ev : GattEv) :
    (g.handle ev).sent = g.sent ++ g.sends (g.outgoing ev) := by
  rw [h.handle_eq]

theorem ErrSettled.tx_handle (h : ErrSettled g) (ev : GattEv) :
    (g.handle ev).tx = (g.noted ev).tx := by
  rw [h.handle_eq]

theorem ErrSettled.errsrc_handle (h : ErrSettled g) (ev : GattEv) :
    (g.handle ev).errsrc = (g.noted ev).errsrc := by
  rw [h.handle_eq]

theorem ErrSettled.latest_handle (h : ErrSettled g) (ev : GattEv) :
    (g.handle ev).latest = (g.noted ev).latest := by
  rw [h.handle_eq]

/-- Only an MTU event sets the payload. -/
theorem ErrSettled.mtuPayload_handle (h : ErrSettled g) (ev : GattEv) :
    (g.handle ev).tx.mtuPayload =
      match ev with
      | .mtu _ mtu => payloadOfMtu mtu.mtu.toNat
      | _ => g.tx.mtuPayload := by
  rw [h.tx_handle]
  cases ev with
  | connect connId =>
    simp only [GattServer.noted]
    split <;> rfl
  | _ => rfl

/-- The error source holds a string, and has its subscriber, after any event. -/
theorem ErrSettled.noted (h : ErrSettled g) (ev : GattEv) :
    (g.noted ev).errsrc.err ≠ [] ∧ (g.noted ev).errsrc.err.length ≤ 63 ∧
      (g.noted ev).errsrc.subscribed = true := by
  have hset : ∀ {new : Errsrc}, g.errsrc.Tells new →
      new.err ≠ [] ∧ new.err.length ≤ 63 ∧ new.subscribed = true := by
    rintro new (⟨-, herr, hsub⟩ | ⟨-, hne, hle, hsub⟩)
    · exact ⟨herr ▸ h.err_ne, herr ▸ h.err_le, hsub⟩
    · exact ⟨hne, hle, hsub⟩
  cases ev with
  | setErrsrc s => exact hset (tells_errsrcSet h.subscribed s)
  | setErrsrcEnum e => exact hset (tells_errsrcSetEnum h.subscribed e)
  | connect connId =>
    simp only [GattServer.noted]
    split <;> exact ⟨h.err_ne, h.err_le, h.subscribed⟩
  | _ => exact ⟨h.err_ne, h.err_le, h.subscribed⟩

/-- A link is one of a registered application. -/
theorem ErrSettled.registered_noted (h : ErrSettled g) (ev : GattEv) :
    (g.noted ev).tx.connId.isSome = true → (g.noted ev).tx.gattsIf.isSome = true := by
  cases ev with
  | registered gattsIf => exact fun _ => rfl
  | connect connId =>
    simp only [GattServer.noted]
    split
    · exact h.registered
    · next hif =>
      have hne : g.tx.gattsIf ≠ none := by simpa using hif
      exact fun _ => Option.isSome_iff_ne_none.mpr hne
  | disconnect connId => exact fun hsome => absurd hsome Bool.false_ne_true
  | _ => exact h.registered

/-- **The step lemma.** The current string counts as sent after any event. -/
theorem ErrSettled.handle (h : ErrSettled g) (ev : GattEv) : ErrSettled (g.handle ev) := by
  obtain ⟨hne, hle, hsub⟩ := h.noted ev
  rw [h.handle_eq]
  exact ⟨rfl, hne, hle, hsub, h.registered_noted ev⟩

end

/-! ## After `gatt_server_init` -/

/-- The string counts as sent, though nobody was there to get it. -/
theorem GattServer.afterInit_eq (err : ErrText) (last : ErrSrc) (payload : Nat) :
    afterInit err.text last payload =
      ⟨⟨none, none, 0, false, payload⟩, false, false, false, err.text,
        errsrcSubscribe ⟨err.text, last, false, []⟩, .none, []⟩ := by
  have hdiff : ¬ strnEq err.text [] 64 = true := fun heq =>
    err.text_ne ((strnEq_of_le err.text_le (b := []) (Nat.zero_le 63)).mp heq)
  rw [afterInit, notifyErrsrc, if_neg err.text_ne, errsrcNotifyIfChanged, if_neg hdiff,
    List.take_of_length_le err.text_le]
  rfl

theorem errSettled_afterInit (err : ErrText) (last : ErrSrc) (payload : Nat) :
    ErrSettled (.afterInit err.text last payload) := by
  rw [GattServer.afterInit_eq]
  exact ⟨rfl, err.text_ne, err.text_le, rfl, fun hsome => absurd hsome Bool.false_ne_true⟩

end RemoteControl
