import Mathlib.Data.List.Forall2
import RemoteControl.Ble.GattStep
import RemoteControl.Lib.Run
import RemoteControl.Lib.Trace

/-!
# What has been asked for (`gatt_server.c`, `gatt_notify.c`, `alerts.c`)

The server keeps what is subscribed to as four flags and the id of the link, all of them cleared
when a link comes up and when one goes down. So whatever is indicated goes to the central whose link
came up last, and a central has asked for it since: the same one, if there is no other
(`indicated_as_asked`). The reverse holds for the alerts, which are the one stream with numbers: a
central that turns them on is sent the alert that was the latest then and, until a link changes or
the descriptor is written to again, every one after it, once and in order, and even where the
payload cuts the text the number is in what it gets (`alerts_all_arrive`).
-/

namespace RemoteControl

open CString

/-! ## The requests -/

/-- A link comes up or goes down. -/
def GattEv.changesLink : GattEv → Prop
  | .connect _ | .disconnect _ => True
  | _ => False

/-- Who writes to the descriptor of a characteristic, and what. -/
def GattEv.cccWrite : IndicatedChar → GattEv → Option (Nat × Bytes)
  | .tx, .cccTx connId value => some (connId, value)
  | .errsrc, .cccErrsrc connId value => some (connId, value)
  | .alert, .cccAlert connId value => some (connId, value)
  | .dht, .cccDht connId value _ => some (connId, value)
  | _, _ => none

/-- The link that came up last is `connId`, and none has gone down since. -/
def LinkedTo (connId : Nat) (evs : List GattEv) : Prop :=
  Trace.LastIs (fun ev => ev.changesLink) (fun _ ev => ev = .connect connId) evs

/-- The central `writer` has turned the characteristic on, and since then no central has written to
the descriptor, and no link has come up or gone down. -/
def AskedFor (writer : Nat) (char : IndicatedChar) (evs : List GattEv) : Prop :=
  Trace.LastIs (fun ev => ev.changesLink ∨ (ev.cccWrite char).isSome)
    (fun _ ev => ∃ value, ev.cccWrite char = some (writer, value) ∧
      GattServer.cccEnables value = true) evs

/-- The link has come up, and not gone down since. -/
def Connected (connId : Nat) (evs : List GattEv) : Prop :=
  Trace.LastIs (fun ev => ev = .connect connId ∨ ev = .disconnect connId)
    (fun _ ev => ev = .connect connId) evs

/-- Whoever writes to a descriptor is connected. -/
def WrittenOnLinks (evs : List GattEv) : Prop :=
  Trace.Each (fun pre ev => ∀ char, ∀ write ∈ ev.cccWrite char, Connected write.1 pre) evs

/-- The flag of a characteristic. -/
def GattServer.isOn (g : GattServer) : IndicatedChar → Bool
  | .tx => g.tx.txNotifyEnabled
  | .errsrc => g.esNotifyEnabled
  | .alert => g.alertNotifyEnabled
  | .dht => g.dhtNotifyEnabled

/-! ## What an event does to the link and the flags -/

variable {g : GattServer}

/-- An event of a link clears the flags, if the server takes it. -/
theorem GattServer.isOn_of_changesLink {ev : GattEv} (hev : ev.changesLink)
    (hif : g.tx.gattsIf.isSome = true) (char : IndicatedChar) :
    (g.handle ev).isOn char = false := by
  have hif' : g.tx.gattsIf.isNone = false := Option.isNone_eq_false_iff.mpr hif
  cases ev with
  | connect connId =>
    simp only [handle, hif', Bool.false_eq_true, if_false]
    cases char <;> rfl
  | disconnect connId => cases char <;> rfl
  | _ => exact absurd hev not_false

/-- Any other leaves the link alone, and the flags, but for the one that it writes. -/
theorem ErrSettled.handle_of_sameLink (h : ErrSettled g) {ev : GattEv} (hev : ¬ ev.changesLink) :
    (g.handle ev).tx.connId = g.tx.connId ∧ ∀ char, (g.handle ev).isOn char =
      match ev.cccWrite char with
      | some (_, value) => GattServer.cccEnables value
      | none => g.isOn char := by
  rw [h.handle_eq]
  cases ev with
  | connect | disconnect => exact absurd trivial hev
  | _ => exact ⟨rfl, fun char => by cases char <;> rfl⟩

/-! ## Whatever is indicated has been asked for -/

/-- What the server is after the events: the error string counts as sent, and the flags and the id
of the link are those of the requests. -/
structure AsAsked (evs : List GattEv) (g : GattServer) : Prop where
  settled : ErrSettled g
  linked : ∀ connId ∈ g.tx.connId, LinkedTo connId evs
  asked : g.tx.connId.isSome = true → ∀ char, g.isOn char = true →
    ∃ writer, AskedFor writer char evs

/-- An event of a link. -/
theorem AsAsked.link {evs : List GattEv} (h : AsAsked evs g) {ev : GattEv}
    (hev : ev.changesLink) : AsAsked (evs ++ [ev]) (g.handle ev) := by
  refine ⟨h.settled.handle ev, fun connId hconn => ?_, fun hsome char hon => ?_⟩
  · cases ev with
    | connect newId =>
      rw [GattServer.handle] at hconn
      split at hconn
      · next hif =>
        -- the event is not taken, and there is no link
        have hsome := h.settled.registered (Option.isSome_iff_exists.mpr ⟨connId, hconn⟩)
        rw [Option.isNone_iff_eq_none.mp hif] at hsome
        exact absurd hsome Bool.false_ne_true
      · cases hconn
        exact Trace.lastIs_concat trivial rfl
    | disconnect oldId => cases hconn
    | _ => exact absurd hev not_false
  · have hif : g.tx.gattsIf.isSome = true := by
      have hif' := (h.settled.handle ev).registered hsome
      cases ev with
      | connect newId =>
        rw [GattServer.handle] at hif'
        split at hif' <;> exact hif'
      | disconnect oldId => exact hif'
      | _ => exact absurd hev not_false
    rw [GattServer.isOn_of_changesLink hev hif char] at hon
    exact absurd hon Bool.false_ne_true

/-- Any other event. -/
theorem AsAsked.sameLink {evs : List GattEv} (h : AsAsked evs g) {ev : GattEv}
    (hev : ¬ ev.changesLink) : AsAsked (evs ++ [ev]) (g.handle ev) := by
  obtain ⟨hconn, hflags⟩ := h.settled.handle_of_sameLink hev
  refine ⟨h.settled.handle ev, fun connId hmem => ?_, fun hsome char hon => ?_⟩
  · rw [hconn] at hmem
    exact (h.linked connId hmem).append (List.forall_mem_singleton.mpr hev)
  · rw [hflags char] at hon
    cases hccc : ev.cccWrite char with
    | some write =>
      rw [hccc] at hon
      exact ⟨write.1, Trace.lastIs_concat (.inr (by rw [hccc]; rfl)) ⟨write.2, hccc, hon⟩⟩
    | none =>
      rw [hccc] at hon
      obtain ⟨writer, hasked⟩ := h.asked (hconn ▸ hsome) char hon
      refine ⟨writer, hasked.append (List.forall_mem_singleton.mpr ?_)⟩
      rintro (hlink | hwrite)
      · exact hev hlink
      · rw [hccc] at hwrite
        exact absurd hwrite Bool.false_ne_true

/-- The server of any history. -/
theorem asAsked_exec (err : ErrText) (last : ErrSrc) (payload : Nat) (evs : List GattEv) :
    AsAsked evs (Run.exec GattServer.handle (.afterInit err.text last payload) evs) := by
  have hconn : (GattServer.afterInit err.text last payload).tx.connId = none := by
    rw [GattServer.afterInit_eq]
  refine Run.exec_history (P := AsAsked) ⟨errSettled_afterInit err last payload, ?_, ?_⟩
    (fun evs g ev h => ?_) evs
  · rw [hconn]
    rintro _ ⟨⟩
  · rw [hconn]
    exact fun hsome => absurd hsome Bool.false_ne_true
  · rcases Classical.em ev.changesLink with hev | hev
    · exact h.link hev
    · exact h.sameLink hev

/-- What an event sends is of a characteristic that is on after it. -/
theorem ErrSettled.isOn_of_outgoing (h : ErrSettled g) {ev : GattEv} {m : IndicatedChar × Bytes}
    (hm : g.outgoing ev = some m) : (g.handle ev).isOn m.1 = true ∧ ¬ ev.changesLink := by
  have hsame : ¬ ev.changesLink := by
    intro hev
    cases ev with
    | connect | disconnect => cases hm
    | _ => exact hev
  refine ⟨?_, hsame⟩
  rw [(h.handle_of_sameLink hsame).2]
  cases ev with
  | cccAlert connId value | cccDht connId value text =>
    obtain ⟨hon, hm⟩ := Option.ite_none_right_eq_some.mp hm
    cases hm
    exact hon
  | status line =>
    obtain ⟨hon, hm⟩ := Option.ite_none_right_eq_some.mp hm
    cases hm
    exact hon
  | setErrsrc s | setErrsrcEnum e =>
    obtain ⟨⟨hon, -⟩, hm⟩ := Option.ite_none_right_eq_some.mp hm
    cases hm
    exact hon
  | raiseAlert code detail =>
    obtain ⟨hon, hm⟩ := Option.ite_none_right_eq_some.mp hm
    cases hm
    exact hon
  | _ => cases hm

/-- **Who has asked.** The writer is still connected; so it is the only one that is. -/
theorem AskedFor.eq_of_only {writer connId : Nat} {char : IndicatedChar} {evs : List GattEv}
    (h : AskedFor writer char evs) (hwritten : WrittenOnLinks evs)
    (honly : ∀ connId', Connected connId' evs → connId' = connId) : writer = connId := by
  obtain ⟨pre, ev, post, rfl, -, ⟨value, hwrite, -⟩, hpost⟩ := h
  have hconnected : Connected writer pre := hwritten pre ev post rfl char (writer, value) hwrite
  refine honly writer (hconnected.append ?_)
  refine List.forall_mem_cons.mpr ⟨?_, fun ev' hev' hlink => hpost ev' hev' (.inl ?_)⟩
  · rintro (rfl | rfl) <;> cases char <;> cases hwrite
  · rcases hlink with rfl | rfl <;> exact trivial

/-- **Whatever is indicated has been asked for.** After any history of registrations, connects,
disconnects, MTU events, writes to the descriptors, status lines, error strings and alerts, each
indication goes to the link that came up last, with none gone down since; and it is of a
characteristic that a central has turned on since, with no write to its descriptor after that. If
only connected centrals write, and the one that is sent to is the only one connected, it has asked
for it itself. -/
theorem indicated_as_asked (err : ErrText) (last : ErrSrc) (payload : Nat) (evs : List GattEv)
    (ev : GattEv) :
    let g := Run.exec GattServer.handle (.afterInit err.text last payload) evs
    ∀ i ∈ (g.handle ev).sent.drop g.sent.length,
      LinkedTo i.connId (evs ++ [ev]) ∧ ∃ writer, AskedFor writer i.char (evs ++ [ev]) ∧
        (WrittenOnLinks (evs ++ [ev]) →
          (∀ connId, Connected connId (evs ++ [ev]) → connId = i.connId) → writer = i.connId) := by
  intro g i hi
  have h : AsAsked evs g := asAsked_exec err last payload evs
  have h' : AsAsked (evs ++ [ev]) (g.handle ev) := by
    have := asAsked_exec err last payload (evs ++ [ev])
    rwa [Run.exec_concat] at this
  rw [h.settled.sent_handle, List.drop_left] at hi
  cases hm : g.outgoing ev with
  | none =>
    rw [hm, GattServer.sends_none] at hi
    exact absurd hi List.not_mem_nil
  | some m =>
    rw [hm, GattServer.mem_sends_some] at hi
    obtain ⟨hlink, hchar, -⟩ := hi
    obtain ⟨hon, hsame⟩ := h.settled.isOn_of_outgoing hm
    obtain ⟨-, -, hconn⟩ := Option.bind_eq_some_iff.mp hlink
    rw [← (h.settled.handle_of_sameLink hsame).1] at hconn
    obtain ⟨writer, hasked⟩ := h'.asked (Option.isSome_iff_exists.mpr ⟨_, hconn⟩) m.1 hon
    rw [← hchar] at hasked
    exact ⟨h'.linked i.connId hconn, writer, hasked, hasked.eq_of_only⟩

/-- With two centrals connected, what the first one turns on goes to the second. -/
example :
    (Run.exec GattServer.handle (.afterInit noError.text .none 20)
      [.registered 3, .connect 0, .connect 1, .cccAlert 0 [1, 0]]).sent =
      [⟨.alert, 1, lit "ALERT seq=0 code=0 "⟩] := by
  decide

/-! ## Every alert arrives -/

/-- The alerts that the events raise, after one. -/
def alertsFrom : AlertRecord → List GattEv → List AlertRecord
  | _, [] => []
  | r, .raiseAlert code detail :: evs =>
    r.next code (detail.getD []) :: alertsFrom (r.next code (detail.getD [])) evs
  | r, _ :: evs => alertsFrom r evs

/-- The number that the text of an alert begins with. -/
def alertNumber (text : Bytes) : Option Nat :=
  if text.take 10 = lit "ALERT seq=" then (scanUnsigned 10 (text.drop 10)).map (·.1) else none

/-- The indication brings the alert to the link: the beginning of its text, with the number. -/
structure Brings (connId : Nat) (i : Indication) (r : AlertRecord) : Prop where
  connId : i.connId = connId
  text : i.data <+: r.line
  number : alertNumber i.data = some r.seq.toNat

/-- A central is connected and has the alerts on. -/
structure AlertListener (connId : Nat) (g : GattServer) : Prop where
  settled : ErrSettled g
  payload : 20 ≤ g.tx.mtuPayload
  link : g.link = some connId
  on : g.alertNotifyEnabled = true

/-- **The number survives the cut.** The least payload has room for it. -/
theorem alertNumber_take (r : AlertRecord) {payload : Nat} (hpayload : 20 ≤ payload) :
    alertNumber (r.line.take payload) = some r.seq.toNat := by
  have hten : (lit "ALERT seq=").length = 10 := by decide
  have hseq : (formatNat 10 r.seq.toNat).length ≤ 5 :=
    length_formatNat_le (Nat.lt_of_lt_of_le r.seq.toNat_lt (by decide))
  set tail := lit " code=" ++ formatNat 10 r.code.toNat ++ lit " " ++ r.detail with htail
  have hline : r.line = lit "ALERT seq=" ++ (formatNat 10 r.seq.toNat ++ tail) := by
    simp only [AlertRecord.line, htail, List.append_assoc]
  have hcut : r.line.take payload = lit "ALERT seq=" ++ (formatNat 10 r.seq.toNat ++
      tail.take (payload - 10 - (formatNat 10 r.seq.toNat).length)) := by
    rw [hline, List.take_append, List.take_append, hten, List.take_of_length_le (by omega),
      List.take_of_length_le (by omega)]
  have hrest : ∀ c ∈ (tail.take (payload - 10 - (formatNat 10 r.seq.toNat).length)).head?,
      isDigit 10 c = false := by
    intro c hc
    rw [List.head?_take, if_neg (by omega)] at hc
    cases hc
    rfl
  have hscan : scanUnsigned 10 ([] ++ (formatNat 10 r.seq.toNat ++
      tail.take (payload - 10 - (formatNat 10 r.seq.toNat).length))) = some (r.seq.toNat, _) :=
    scanUnsigned_formatNat_ten (Nat.lt_trans r.seq.toNat_lt (by decide)) (List.forall_mem_nil _)
      hrest
  rw [List.nil_append] at hscan
  rw [hcut, alertNumber, List.take_left' hten, if_pos rfl, List.drop_left' hten, hscan]
  rfl

/-- The payload is never less than that of the least ATT_MTU. -/
theorem ErrSettled.payload_handle (h : ErrSettled g) (hpayload : 20 ≤ g.tx.mtuPayload)
    (ev : GattEv) : 20 ≤ (g.handle ev).tx.mtuPayload := by
  rw [h.mtuPayload_handle]
  cases ev with
  | mtu connId mtu =>
    simp only [payloadOfMtu]
    split_ifs <;> omega
  | _ => exact hpayload

/-- Of what an event sends to a link, the alerts. -/
theorem GattServer.alerts_sends {connId : Nat} (hlink : g.link = some connId)
    (m : Option (IndicatedChar × Bytes)) :
    (g.sends m).filter (·.char = .alert) =
      match m with
      | some (.alert, text) => [⟨.alert, connId, text.take g.tx.mtuPayload⟩]
      | _ => [] := by
  rcases m with _ | ⟨char, text⟩
  · rw [sends_none]
    rfl
  · rcases eq_or_ne char .alert with rfl | hchar
    · rw [sends_some (by decide), hlink]
      rfl
    · have hnone : (g.sends (some (char, text))).filter (·.char = .alert) = [] := by
        refine List.filter_eq_nil_iff.mpr fun i hi => ?_
        rw [(mem_sends_some.mp hi).2.1, decide_eq_true_iff]
        exact hchar
      rw [hnone]
      cases char <;> first | rfl | exact absurd rfl hchar

/-- An alert to a listener. -/
theorem AlertListener.brings {connId : Nat} (h : AlertListener connId g) (r : AlertRecord) :
    Brings connId ⟨.alert, connId, r.line.take g.tx.mtuPayload⟩ r :=
  ⟨rfl, List.take_prefix _ _, alertNumber_take r h.payload⟩

/-- The event neither changes a link, this one or another, nor is it a write to the descriptor of
the alerts, by this central or another. -/
def GattEv.keepsAlerts (ev : GattEv) : Prop := ¬ ev.changesLink ∧ ev.cccWrite .alert = none

/-- What an event keeps of a listener. -/
theorem AlertListener.handle {connId : Nat} (h : AlertListener connId g) {ev : GattEv}
    (hev : ev.keepsAlerts) : AlertListener connId (g.handle ev) := by
  obtain ⟨gattsIf, hif, hconn⟩ := Option.bind_eq_some_iff.mp h.link
  obtain ⟨hsame, hflags⟩ := h.settled.handle_of_sameLink hev.1
  refine ⟨h.settled.handle ev, h.settled.payload_handle h.payload ev, ?_, ?_⟩
  · have hconn' : (g.handle ev).tx.connId = some connId := hsame.trans hconn
    have hif' := (h.settled.handle ev).registered (Option.isSome_iff_exists.mpr ⟨_, hconn'⟩)
    obtain ⟨gattsIf', hif'⟩ := Option.isSome_iff_exists.mp hif'
    rw [GattServer.link, hif', hconn']
    rfl
  · have hon := hflags .alert
    rw [hev.2] at hon
    exact hon.trans h.on

/-- **One event**: an alert that is raised is sent to the listener, and nothing else is. -/
theorem AlertListener.sent_handle {connId : Nat} (h : AlertListener connId g) {ev : GattEv}
    (hev : ev.keepsAlerts) :
    ((g.handle ev).sent.drop g.sent.length).filter (·.char = .alert) =
      (alertsFrom g.latest [ev]).map
        fun r => ⟨.alert, connId, r.line.take g.tx.mtuPayload⟩ := by
  rw [h.settled.sent_handle, List.drop_left, GattServer.alerts_sends h.link]
  cases ev with
  | raiseAlert code detail =>
    simp only [GattServer.outgoing, h.on, if_true]
    rfl
  | cccAlert connId' value => cases hev.2
  | cccDht connId' value text =>
    simp only [GattServer.outgoing]
    cases GattServer.cccEnables value <;> rfl
  | status line =>
    simp only [GattServer.outgoing]
    cases g.tx.txNotifyEnabled <;> rfl
  | setErrsrc s | setErrsrcEnum e =>
    simp only [GattServer.outgoing]
    split
    · next heq => split at heq <;> cases heq
    · rfl
  | _ => rfl

/-- The latest alert after an event is the last that it raises. -/
theorem ErrSettled.alertsFrom_handle (h : ErrSettled g) (ev : GattEv) (evs : List GattEv) :
    alertsFrom g.latest (ev :: evs) =
      alertsFrom g.latest [ev] ++ alertsFrom (g.handle ev).latest evs := by
  rw [h.latest_handle ev]
  cases ev with
  | connect connId =>
    simp only [GattServer.noted]
    split <;> rfl
  | _ => rfl

/-- **A whole segment**, by induction on its events. -/
theorem AlertListener.sent_exec {connId : Nat} (h : AlertListener connId g) {seg : List GattEv}
    (hseg : ∀ ev ∈ seg, ev.keepsAlerts) :
    ∃ new, (Run.exec GattServer.handle g seg).sent = g.sent ++ new ∧
      List.Forall₂ (Brings connId) (new.filter (·.char = .alert)) (alertsFrom g.latest seg) := by
  induction seg generalizing g with
  | nil => exact ⟨[], (List.append_nil _).symm, .nil⟩
  | cons ev seg ih =>
    obtain ⟨hev, hseg⟩ := List.forall_mem_cons.mp hseg
    obtain ⟨new, hsent, hnew⟩ := ih (h.handle hev) hseg
    have hone := h.sent_handle hev
    rw [h.settled.sent_handle] at hsent hone
    rw [List.drop_left] at hone
    refine ⟨g.sends (g.outgoing ev) ++ new, ?_, ?_⟩
    · rw [Run.exec_cons, hsent, List.append_assoc]
    · rw [h.settled.alertsFrom_handle, List.filter_append, hone]
      refine List.rel_append (R := Brings connId) ?_ hnew
      exact List.forall₂_map_left_iff.mpr (List.forall₂_same.mpr fun r _ => h.brings r)

/-- The alerts are numbered one after the other. -/
theorem seq_alertsFrom (evs : List GattEv) (r : AlertRecord) {k : Nat} {r' : AlertRecord}
    (hr' : (r :: alertsFrom r evs)[k]? = some r') : r'.seq = r.seq + UInt16.ofNat k := by
  induction evs generalizing r k with
  | nil =>
    cases k with
    | zero =>
      cases hr'
      exact (UInt16.add_zero _).symm
    | succ k => cases hr'
  | cons ev evs ih =>
    cases k with
    | zero =>
      cases hr'
      exact (UInt16.add_zero _).symm
    | succ k =>
      cases ev with
      | raiseAlert code detail =>
        rw [ih (r.next code (detail.getD [])) hr', AlertRecord.next, UInt16.add_assoc,
          UInt16.ofNat_add, UInt16.add_comm 1]
        rfl
      | _ => exact ih r (k := k + 1) hr'

/-- **Every alert arrives.** After any history, a central that turns the alerts on, when its link is
the one of `g_conn_id`, is sent the one that was the latest then. As long as no link comes up or
goes down and no central writes to that descriptor again, it is sent every alert that is raised,
once, in order and nothing else on the characteristic: whatever else happens, each comes as the
beginning of its text, with its number whole; and the numbers are consecutive, modulo 2^16. -/
theorem alerts_all_arrive (err : ErrText) (last : ErrSrc) (evs seg : List GattEv) (value : Bytes)
    (connId : Nat)
    (hlink : (Run.exec GattServer.handle (.afterInit err.text last 20) evs).link = some connId)
    (hvalue : GattServer.cccEnables value = true) (hseg : ∀ ev ∈ seg, ev.keepsAlerts) :
    let g := Run.exec GattServer.handle (.afterInit err.text last 20) evs
    let g' := Run.exec GattServer.handle g (.cccAlert connId value :: seg)
    let alerts := g.latest :: alertsFrom g.latest seg
    List.Forall₂ (Brings connId) ((g'.sent.drop g.sent.length).filter (·.char = .alert)) alerts ∧
      ∀ k r, alerts[k]? = some r → r.seq = g.latest.seq + UInt16.ofNat k := by
  intro g g' alerts
  have hsettled : ErrSettled g := (asAsked_exec err last 20 evs).settled
  have hpayload : 20 ≤ g.tx.mtuPayload := by
    refine (Run.exec_history (P := fun _ g => ErrSettled g ∧ 20 ≤ g.tx.mtuPayload)
      ⟨errSettled_afterInit err last 20, ?_⟩
      (fun _ _ ev h => ⟨h.1.handle ev, h.1.payload_handle h.2 ev⟩) evs).2
    rw [GattServer.afterInit_eq]
  have hset := hsettled.handle (.cccAlert connId value)
  have hlistener : AlertListener connId (g.handle (.cccAlert connId value)) := by
    obtain ⟨gattsIf, hif, hconn⟩ := Option.bind_eq_some_iff.mp hlink
    obtain ⟨hsame, hflags⟩ := hsettled.handle_of_sameLink
      (show ¬ (GattEv.cccAlert connId value).changesLink from id)
    obtain ⟨gattsIf', hif'⟩ := Option.isSome_iff_exists.mp
      (hset.registered (Option.isSome_iff_exists.mpr ⟨_, hsame.trans hconn⟩))
    refine ⟨hset, hsettled.payload_handle hpayload _, ?_, (hflags .alert).trans hvalue⟩
    rw [GattServer.link, hif', hsame.trans hconn]
    rfl
  obtain ⟨new, hsent, hnew⟩ := hlistener.sent_exec hseg
  have hfirst : (g.handle (.cccAlert connId value)).sent =
      g.sent ++ [⟨.alert, connId, g.latest.line.take g.tx.mtuPayload⟩] := by
    rw [hsettled.sent_handle, GattServer.outgoing, if_pos hvalue,
      GattServer.sends_some (by decide), hlink]
    rfl
  refine ⟨?_, fun k r hr => seq_alertsFrom seg g.latest hr⟩
  have hall : g'.sent.drop g.sent.length =
      ⟨.alert, connId, g.latest.line.take g.tx.mtuPayload⟩ :: new := by
    change (Run.exec GattServer.handle (g.handle (.cccAlert connId value)) seg).sent.drop _ = _
    rw [hsent, hfirst, List.append_assoc, List.drop_left]
    rfl
  rw [hall, List.filter_cons_of_pos (by rfl)]
  refine .cons ⟨rfl, List.take_prefix _ _, alertNumber_take _ hpayload⟩ ?_
  rwa [hsettled.latest_handle] at hnew

/-- Two links, on which nothing has been turned on. -/
def silentLinks : List GattEv := [.registered 3, .connect 0, .connect 1]

/-- Two alerts, with other news between them, and the other central turning TX on. -/
def twoAlerts : List GattEv :=
  [.raiseAlert 1 (some (lit "rolling back")), .cccTx 0 [1, 0], .status (lit "OK"),
    .raiseAlert 2 none]

/-- The later central is sent the record from before the first alert, and both alerts. -/
theorem alerts_all_arrive_two :
    let g := Run.exec GattServer.handle (.afterInit noError.text .none 20) silentLinks
    let g' := Run.exec GattServer.handle g (.cccAlert 1 [1, 0] :: twoAlerts)
    let alerts := g.latest :: alertsFrom g.latest twoAlerts
    List.Forall₂ (Brings 1) ((g'.sent.drop g.sent.length).filter (·.char = .alert)) alerts ∧
      ∀ k r, alerts[k]? = some r → r.seq = g.latest.seq + UInt16.ofNat k := by
  refine alerts_all_arrive noError .none silentLinks twoAlerts [1, 0] 1 (by decide) (by decide) ?_
  intro ev hev
  simp only [twoAlerts, List.mem_cons, List.not_mem_nil, or_false] at hev
  rcases hev with rfl | rfl | rfl | rfl <;> exact ⟨id, rfl⟩

end RemoteControl
