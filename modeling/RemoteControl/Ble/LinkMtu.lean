import Mathlib.Logic.Function.Basic
import RemoteControl.Ble.GattStep
import RemoteControl.Lib.Run

/-!
# Indications and the MTU of the link (`gatt_server.c`, `gatt_notify.c`)

Four senders cut what they send to `g_mtu_payload`, which an MTU event sets and which nothing sets
back when the connection ends. `LinkWatch` keeps beside the server the ATT_MTU of every link, 23
until its own MTU event. An event makes the server send at most one text, in pieces of at most
`g_mtu_payload` bytes (`ErrSettled.sent_handle`); so the pieces fit the link exactly if the payload
does or the text is no longer than the link allows (`indications_fit_iff`).
-/

namespace RemoteControl

open CString

/-! ## The links -/

/-- The server, and the ATT_MTU of each link. -/
structure LinkWatch where
  server : GattServer
  mtuOf : Nat → Nat

/-- The ATT_MTU of the links after an event. -/
def GattEv.setsMtu (mtuOf : Nat → Nat) (ev : GattEv) : Nat → Nat :=
  match ev with
  | .connect connId => Function.update mtuOf connId 23
  | .mtu connId agreed => Function.update mtuOf connId agreed.mtu.toNat
  | _ => mtuOf

/-- An event. -/
def LinkWatch.step (w : LinkWatch) (ev : GattEv) : LinkWatch :=
  ⟨w.server.handle ev, ev.setsMtu w.mtuOf⟩

/-- After `gatt_server_init`. -/
def LinkWatch.init (err : ErrText) (last : ErrSrc) : LinkWatch :=
  ⟨.afterInit err.text last 20, fun _ => 23⟩

/-- How many bytes an indication may carry on a link. -/
def LinkWatch.room (w : LinkWatch) (connId : Nat) : Nat := w.mtuOf connId - 3

/-- What the event makes the server send fits the link it is sent on. -/
def IndicationsFit (w : LinkWatch) (ev : GattEv) : Prop :=
  ∀ i ∈ (w.step ev).server.sent.drop w.server.sent.length, i.data.length ≤ w.room i.connId

/-- The payload is one of the link's, or the text is short enough without being cut. -/
def FitsLink (w : LinkWatch) (ev : GattEv) : Prop :=
  ∀ connId ∈ w.server.link, w.server.tx.mtuPayload ≤ w.room connId ∨
    ∀ m ∈ w.server.outgoing ev, m.2.length ≤ w.room connId

/-- **The pieces fit** exactly if the payload does or the text. -/
theorem pieces_fit_iff {payload room : Nat} (hpos : 1 ≤ payload) (hle : payload ≤ 180)
    (hroom : 1 ≤ room) (char : IndicatedChar) (text : Bytes) :
    (∀ data ∈ pieces payload char text, data.length ≤ room) ↔
      payload ≤ room ∨ text.length ≤ room := by
  have htake : (text.take payload).length ≤ room ↔ payload ≤ room ∨ text.length ≤ room := by
    rw [List.length_take, min_le_iff]
  cases char with
  | tx =>
    have hmax : maxChunk payload = payload := by
      rw [maxChunk, if_neg (Nat.not_lt.mpr hpos), if_neg (Nat.not_lt.mpr hle)]
    simp only [pieces, hmax, List.forall_mem_append, List.forall_mem_singleton]
    constructor
    · rintro ⟨hchunks, -⟩
      rcases eq_or_ne text [] with rfl | hne
      · exact .inr (Nat.zero_le room)
      · refine htake.mp (hchunks _ ?_)
        rw [Chunks.cut_of_ne_nil hpos hne]
        exact List.mem_cons_self
    · rintro hfit
      refine ⟨fun data hdata => ?_, hroom⟩
      rcases hfit with hpayload | htext
      · exact (Chunks.length_of_mem_cut hpos hdata).2.trans hpayload
      · exact (Chunks.length_le_of_mem_cut hdata).trans htext
  | errsrc => simpa only [pieces, List.forall_mem_singleton] using htake
  | alert => simpa only [pieces, List.forall_mem_singleton] using htake
  | dht => simpa only [pieces, List.forall_mem_singleton] using htake

/-! ## The invariant -/

/-- The current error string counts as sent, the payload is one that a chunk may carry, and no link
has less than the least ATT_MTU. -/
structure LinkInv (w : LinkWatch) : Prop where
  settled : ErrSettled w.server
  payload_pos : 1 ≤ w.server.tx.mtuPayload
  payload_le : w.server.tx.mtuPayload ≤ 180
  least : ∀ connId, 23 ≤ w.mtuOf connId

/-- An event preserves this. -/
theorem LinkInv.step {w : LinkWatch} (h : LinkInv w) (ev : GattEv) : LinkInv (w.step ev) := by
  have hset : ErrSettled (w.step ev).server := h.settled.handle ev
  have hpayload : (w.step ev).server.tx.mtuPayload = _ := h.settled.mtuPayload_handle ev
  have hupdate : ∀ {connId mtu : Nat}, 23 ≤ mtu → ∀ connId',
      23 ≤ Function.update w.mtuOf connId mtu connId' := by
    intro connId mtu hmtu connId'
    rw [Function.update_apply]
    split
    · exact hmtu
    · exact h.least connId'
  cases ev with
  | mtu connId agreed =>
    exact ⟨hset, hpayload ▸ (maxChunk_payloadOfMtu _).2, hpayload ▸ payloadOfMtu_le _,
      hupdate agreed.least⟩
  | connect connId =>
    exact ⟨hset, hpayload ▸ h.payload_pos, hpayload ▸ h.payload_le, hupdate (Nat.le_refl 23)⟩
  | _ => exact ⟨hset, hpayload ▸ h.payload_pos, hpayload ▸ h.payload_le, h.least⟩

/-- It holds after `gatt_server_init`. -/
theorem linkInv_init (err : ErrText) (last : ErrSrc) : LinkInv (.init err last) := by
  have hpayload : (LinkWatch.init err last).server.tx.mtuPayload = 20 := by
    rw [LinkWatch.init, GattServer.afterInit_eq]
  exact ⟨errSettled_afterInit err last 20, by rw [hpayload]; decide, by rw [hpayload]; decide,
    fun _ => Nat.le_refl 23⟩

/-! ## Indications fit their link -/

/-- At one event. -/
theorem indicationsFit_iff {w : LinkWatch} (h : LinkInv w) (ev : GattEv) :
    IndicationsFit w ev ↔ FitsLink w ev := by
  have hroom : ∀ connId, 1 ≤ w.room connId := fun connId =>
    Nat.le_sub_of_add_le ((by decide : 1 + 3 ≤ 23).trans (h.least connId))
  have hnew : (w.step ev).server.sent.drop w.server.sent.length =
      w.server.sends (w.server.outgoing ev) := by
    change (w.server.handle ev).sent.drop _ = _
    rw [h.settled.sent_handle, List.drop_left]
  rw [IndicationsFit, hnew, FitsLink]
  cases w.server.outgoing ev with
  | none => simp
  | some m =>
    have hpieces := fun connId =>
      pieces_fit_iff h.payload_pos h.payload_le (hroom connId) m.1 m.2
    constructor
    · intro hfit connId hlink
      have hall := (hpieces connId).mp fun data hdata =>
        hfit ⟨m.1, connId, data⟩ (GattServer.mem_sends_some.mpr ⟨hlink, rfl, hdata⟩)
      exact hall.imp_right fun hle => by simpa using hle
    · intro hfit i hi
      obtain ⟨hlink, -, hdata⟩ := GattServer.mem_sends_some.mp hi
      have hone := (hfit i.connId hlink).imp_right fun hle => hle m rfl
      exact (hpieces i.connId).mpr hone i.data hdata

/-- **Indications fit the link they are sent on** in exactly the runs in which the payload is one of
the link's, or the text short enough, whenever one is sent. -/
theorem indications_fit_iff (err : ErrText) (last : ErrSrc) (evs : List GattEv) :
    Run.Along LinkWatch.step IndicationsFit (.init err last) evs ↔
      Run.Along LinkWatch.step FitsLink (.init err last) evs :=
  Run.along_congr (linkInv_init err last) (fun _ ev h _ => h.step ev)
    (fun _ ev h => indicationsFit_iff h ev) evs

/-- A link of 185, and after it one without an MTU event. -/
def secondLink : List GattEv :=
  [.registered 3, .connect 0, .mtu 0 ⟨185, by decide⟩, .disconnect 0, .connect 1, .cccTx 1 [1, 0]]

/-- The second central is sent a status of 100 bytes in one indication, on a link that takes 20. -/
theorem indication_too_long :
    let w := Run.exec LinkWatch.step (.init noError .none) secondLink
    w.server.link = some 1 ∧ w.room 1 = 20 ∧
      ¬ IndicationsFit w (.status (List.replicate 100 65)) := by
  intro w
  have hinv : LinkInv w :=
    Run.exec_inv (linkInv_init noError .none) (fun _ ev h => h.step ev) secondLink
  have hlink : w.server.link = some 1 := by decide
  have hroom : w.room 1 = 20 := by decide
  have hpayload : w.server.tx.mtuPayload = 180 := by decide
  refine ⟨hlink, hroom, fun hfit => ?_⟩
  rcases (indicationsFit_iff hinv _).mp hfit 1 hlink with hle | hle
  · rw [hpayload, hroom] at hle
    exact absurd hle (by decide)
  · have hlong := hle (.tx, List.replicate 100 65) (by decide)
    rw [hroom, List.length_replicate] at hlong
    exact absurd hlong (by decide)

end RemoteControl
