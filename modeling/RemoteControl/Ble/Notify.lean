import RemoteControl.Lib.CString
import RemoteControl.Lib.Chunks

/-!
# Replies over BLE (`gatt_notify.c`, `ble_cmd.c`, `cmd_reply.c`)

A command handler replies through the `write` of its context. Over TCP that is one `send` of the
text. Over BLE the text goes through a bounded copy without its line end and is sent as indications
of the TX characteristic, in chunks that fit the MTU, with the line end as a last one of its own.
What either transport is asked to send is a list of calls; `cmdReply_mirrored` says that the bytes
are the same.
-/

namespace RemoteControl

open CString

/-! ## The TX characteristic -/

/-- What the GATT server keeps for TX: `g_gatts_if` and `g_conn_id` (`none` for their "no such"
values), the handle of the value in `gatt_handle_table` (0 before it exists), `tx_notify_enabled`
and `g_mtu_payload`. -/
structure GattTx where
  gattsIf : Option Nat
  connId : Option Nat
  txHandle : Nat
  txNotifyEnabled : Bool
  mtuPayload : Nat
  deriving DecidableEq

/-- The calls of the Bluetooth stack that `gatt_server_send_status` makes. -/
inductive TxCall where
  | setAttrValue (handle : Nat) (value : Bytes)
  | sendIndicate (gattsIf connId handle : Nat) (data : Bytes)
  deriving DecidableEq

/-- `g_mtu_payload` for an MTU. -/
def payloadOfMtu (mtu : Nat) : Nat :=
  let payload := if 23 < mtu then mtu - 3 else 20
  let payload := if payload < 1 then 1 else payload
  if 180 < payload then 180 else payload

/-- The branch `ESP_GATTS_MTU_EVT` of `gatts_event_handler`. -/
def GattTx.onMtu (mtu : UInt16) (g : GattTx) : GattTx :=
  { g with mtuPayload := payloadOfMtu mtu.toNat }

/-- `max_chunk` of `gatt_server_send_status`. -/
def maxChunk (payload : Nat) : Nat :=
  let maxChunk := if payload < 1 then 1 else payload
  if 180 < maxChunk then 180 else maxChunk

/-- `gatt_server_send_status`. The attribute gets the string up to the cast of its length to
`uint16_t`. -/
def gattServerSendStatus (g : GattTx) (s : Bytes) : List TxCall :=
  let value :=
    if g.gattsIf.isSome ∧ g.txHandle ≠ 0 then
      [TxCall.setAttrValue g.txHandle (s.take (s.length % 2 ^ 16))]
    else []
  match g.txNotifyEnabled, g.connId, g.gattsIf with
  | true, some connId, some gattsIf =>
    value ++ (Chunks.cut (maxChunk g.mtuPayload) s ++ [[10]]).map
      (TxCall.sendIndicate gattsIf connId g.txHandle)
  | _, _, _ => value

/-! ## The writes of the contexts -/

/-- `BLE_CMD_LINE_MAX`. -/
def bleCmdLineMax : Nat := 128

/-- `ble_cmd_write_cb`: its result and its calls. -/
def bleCmdWriteCb (g : GattTx) (buf : Bytes) : Nat × List TxCall :=
  if buf = [] then (0, [])
  else
    -- without one trailing newline, because `gatt_server_send_status` ends with one
    let use := if buf.getLast? = some 10 then buf.dropLast else buf
    (min use.length (2 ^ 31 - 1),
      if use.getLast? = some 0 then gattServerSendStatus g (untilNul buf)
      else gattServerSendStatus g (untilNul (use.take bleCmdLineMax)))

/-- `tcp_write`: the bytes it gives to `send`. -/
def tcpWrite (buf : Bytes) : List Bytes := [buf]

/-- `cmd_reply` to a context with the given `write`, which may be null. -/
def cmdReply {α : Type} (write : Option (Bytes → List α)) (s : Bytes) : List α :=
  match write with
  | none => []
  | some write => write (untilNul s)

/-- The bytes of an indication. -/
def TxCall.indicated : TxCall → Option Bytes
  | .setAttrValue _ _ => none
  | .sendIndicate _ _ _ data => some data

/-- The indications among some calls, in order. -/
def indications (calls : List TxCall) : List Bytes := calls.filterMap TxCall.indicated

/-! ## What is sent -/

/-- A central is connected and has turned on the notifications of TX. -/
structure GattTx.Notifies (g : GattTx) : Prop where
  gattsIf : g.gattsIf.isSome = true
  connId : g.connId.isSome = true
  enabled : g.txNotifyEnabled = true

/-- The payload of an MTU is what one chunk may carry. -/
theorem maxChunk_payloadOfMtu (mtu : Nat) :
    maxChunk (payloadOfMtu mtu) = payloadOfMtu mtu ∧ 0 < payloadOfMtu mtu := by
  simp only [maxChunk, payloadOfMtu]
  split_ifs <;> omega

/-- The payload of an MTU is at most 180. -/
theorem payloadOfMtu_le (mtu : Nat) : payloadOfMtu mtu ≤ 180 := by
  simp only [payloadOfMtu]
  split_ifs <;> omega

theorem indications_append (xs ys : List TxCall) :
    indications (xs ++ ys) = indications xs ++ indications ys :=
  List.filterMap_append

/-- **The indications of a status**: the string in chunks, and the newline. -/
theorem indications_gattServerSendStatus {g : GattTx} (hg : g.Notifies) (s : Bytes) :
    indications (gattServerSendStatus g s) = Chunks.cut (maxChunk g.mtuPayload) s ++ [[10]] := by
  obtain ⟨gattsIf, hif⟩ := Option.isSome_iff_exists.mp hg.gattsIf
  obtain ⟨connId, hconn⟩ := Option.isSome_iff_exists.mp hg.connId
  have hdata : ∀ chunks : List Bytes,
      indications (chunks.map (TxCall.sendIndicate gattsIf connId g.txHandle)) = chunks := by
    intro chunks
    rw [indications, List.filterMap_map]
    exact List.filterMap_some
  have hvalue : indications (if g.gattsIf.isSome ∧ g.txHandle ≠ 0 then
      [TxCall.setAttrValue g.txHandle (s.take (s.length % 2 ^ 16))] else []) = [] := by
    split <;> rfl
  simp only [gattServerSendStatus, hg.enabled, hconn]
  rw [hif] at hvalue ⊢
  rw [indications_append, hvalue, hdata, List.nil_append]

/-- A text that ends in a newline and holds no NUL, short enough for the copy, is indicated without
its newline. -/
theorem indications_bleCmdWriteCb {g : GattTx} (hg : g.Notifies) {body : Bytes}
    (hlen : body.length ≤ bleCmdLineMax) (hnul : ∀ c ∈ body, c ≠ 0) :
    indications (bleCmdWriteCb g (body ++ [10])).2 =
      Chunks.cut (maxChunk g.mtuPayload) body ++ [[10]] := by
  have huse : (if (body ++ [10]).getLast? = some 10 then (body ++ [10]).dropLast
      else body ++ [10]) = body := by simp
  have hlast : body.getLast? ≠ some 0 := fun h => hnul 0 (List.mem_of_getLast? h) rfl
  have hstr : untilNul (body.take bleCmdLineMax) = body := by
    rw [List.take_of_length_le hlen]
    exact List.takeWhile_eq_self_iff.mpr fun c hc => by simpa using hnul c hc
  simp only [bleCmdWriteCb, huse, if_neg hlast, hstr]
  rw [if_neg (by simp)]
  exact indications_gattServerSendStatus hg body

/-- **BLE mirrors TCP.** A reply of up to 129 bytes that ends in a newline and holds no NUL goes
out over BLE as the bytes that TCP sends, whatever the MTU, and every indication carries at least
one byte and at most the payload of the MTU. -/
theorem cmdReply_mirrored (g : GattTx) (mtu : UInt16) (hg : g.Notifies) (text : Bytes)
    (hpos : 1 ≤ text.length) (hlen : text.length ≤ 129) (hend : text.getLast? = some 10)
    (hnul : ∀ c ∈ text, c ≠ 0) :
    let sent := indications (cmdReply (some fun buf => (bleCmdWriteCb (g.onMtu mtu) buf).2) text)
    sent.flatten = (cmdReply (some tcpWrite) text).flatten ∧
      ∀ data ∈ sent, 1 ≤ data.length ∧ data.length ≤ (g.onMtu mtu).mtuPayload := by
  have hstr : untilNul text = text :=
    List.takeWhile_eq_self_iff.mpr fun c hc => by simpa using hnul c hc
  obtain ⟨body, rfl⟩ : ∃ body, text = body ++ [10] := by
    obtain ⟨body, hbody⟩ := List.getLast?_eq_some_iff.mp hend
    exact ⟨body, hbody⟩
  obtain ⟨hchunk, hpayload⟩ := maxChunk_payloadOfMtu mtu.toNat
  have hbody : body.length ≤ bleCmdLineMax := by
    rw [List.length_append, List.length_singleton] at hlen
    exact Nat.le_of_succ_le_succ hlen
  have hsent := indications_bleCmdWriteCb (g := g.onMtu mtu) ⟨hg.1, hg.2, hg.3⟩ hbody
    fun c hc => hnul c (List.mem_append_left [10] hc)
  simp only [cmdReply, hstr, hsent]
  change maxChunk (g.onMtu mtu).mtuPayload = (g.onMtu mtu).mtuPayload at hchunk
  change 0 < (g.onMtu mtu).mtuPayload at hpayload
  rw [hchunk]
  constructor
  · rw [List.flatten_append, Chunks.flatten_cut, tcpWrite, List.flatten_singleton,
      List.flatten_singleton]
  · intro data hdata
    rcases List.mem_append.mp hdata with hdata | hdata
    · exact Chunks.length_of_mem_cut hpayload hdata
    · rw [List.mem_singleton.mp hdata]
      exact ⟨Nat.le_refl 1, hpayload⟩

/-- A central with notifications on, before any MTU event. -/
def smallLink : GattTx := ⟨some 3, some 0, 42, true, 20⟩

theorem cmdReply_mirrored_what :
    let sent := indications
      (cmdReply (some fun buf => (bleCmdWriteCb (smallLink.onMtu 517) buf).2) (lit "WHAT\n"))
    sent.flatten = (cmdReply (some tcpWrite) (lit "WHAT\n")).flatten ∧
      ∀ data ∈ sent, 1 ≤ data.length ∧ data.length ≤ (smallLink.onMtu 517).mtuPayload :=
  cmdReply_mirrored smallLink 517 ⟨rfl, rfl, rfl⟩ (lit "WHAT\n") (by decide) (by decide)
    (by decide) (by decide +kernel)

end RemoteControl
