import RemoteControl.Ble.Notify
import RemoteControl.Sys.Errsrc

/-!
# The GATT server (`gatt_server.c`, `gatt_notify.c`, `alerts.c`)

The server indicates four characteristics to one central, that of `g_conn_id`: replies on TX, the
error source, alerts and the readings of the DHT sensor. More than one may be connected: a link that
comes up takes `g_conn_id` over, and one that goes down clears it, whichever link that was. The
statics outlive a connection: the payload of the last MTU event, and the last error string that was,
or would have been, sent. `GattServer.handle` is what the handlers and the callbacks of the other
components do with them; `sent` is what the stack was asked to send so far. What a central reads
from an attribute is not part of it.
-/

namespace RemoteControl

open CString

/-! ## The data -/

/-- `alert_record_t`. -/
structure AlertRecord where
  seq : UInt16
  code : UInt32
  detail : Bytes
  /-- `ALERT_DETAIL_MAX` has room for a NUL. -/
  detail_lt : detail.length < 80

/-- `s_latest` before the first alert. -/
def AlertRecord.none : AlertRecord := ⟨0, 0, [], by decide⟩

/-- The record of the next alert, as `alert_raise` makes it. -/
def AlertRecord.next (code : UInt32) (detail : Bytes) (r : AlertRecord) : AlertRecord where
  seq := r.seq + 1
  code := code
  detail := detail.take 79
  detail_lt := by
    rw [List.length_take]
    exact Nat.lt_succ_of_le (Nat.min_le_left _ _)

/-- The text of `gatt_alert_notify`. -/
def AlertRecord.line (r : AlertRecord) : Bytes :=
  lit "ALERT seq=" ++ formatNat 10 r.seq.toNat ++ lit " code=" ++ formatNat 10 r.code.toNat ++
    lit " " ++ r.detail

/-- It fits the buffer of 128 bytes. -/
theorem AlertRecord.length_line (r : AlertRecord) : r.line.length < 128 := by
  have hseq : (formatNat 10 r.seq.toNat).length ≤ 5 :=
    length_formatNat_le (Nat.lt_of_lt_of_le r.seq.toNat_lt (by decide))
  have hcode : (formatNat 10 r.code.toNat).length ≤ 10 :=
    length_formatNat_le (Nat.lt_of_lt_of_le r.code.toNat_lt (by decide))
  have hdetail := r.detail_lt
  have hfixed : (lit "ALERT seq=").length = 10 ∧ (lit " code=").length = 6 ∧
      (lit " ").length = 1 := by decide
  simp only [AlertRecord.line, List.length_append]
  omega

/-- The characteristics that are indicated. -/
inductive IndicatedChar where
  | tx
  | errsrc
  | alert
  | dht
  deriving DecidableEq, Repr

/-- A call of `esp_ble_gatts_send_indicate`. -/
structure Indication where
  char : IndicatedChar
  connId : Nat
  data : Bytes
  deriving DecidableEq

/-- The statics of the server and of what it is told by. -/
structure GattServer where
  /-- `g_gatts_if`, `g_conn_id`, `tx_notify_enabled` and `g_mtu_payload`. -/
  tx : GattTx
  esNotifyEnabled : Bool
  alertNotifyEnabled : Bool
  dhtNotifyEnabled : Bool
  lastErrsrcSent : Bytes
  errsrc : Errsrc
  latest : AlertRecord
  sent : List Indication

namespace GattServer

/-- A central is connected, and the server registered. -/
def link (g : GattServer) : Option Nat := g.tx.gattsIf.bind fun _ => g.tx.connId

/-- An indication of an enabled characteristic to the connected central. -/
def indicate (char : IndicatedChar) (enabled : Bool) (data : Bytes) (g : GattServer) : GattServer :=
  match enabled, g.link with
  | true, some connId => { g with sent := g.sent ++ [⟨char, connId, data⟩] }
  | _, _ => g

/-! ## The senders -/

/-- `errsrc_notify_if_changed`. -/
def errsrcNotifyIfChanged (currentErr : Bytes) (g : GattServer) : GattServer :=
  let used := min currentErr.length 63
  if strnEq currentErr g.lastErrsrcSent 64 then g
  else
    let sendLen := if g.tx.mtuPayload < used then g.tx.mtuPayload else used
    { g.indicate .errsrc g.esNotifyEnabled (currentErr.take sendLen) with
      lastErrsrcSent := currentErr.take 63 }

/-- `gatt_server_notify_errsrc`. -/
def notifyErrsrc (err : Bytes) (g : GattServer) : GattServer :=
  g.errsrcNotifyIfChanged (if err = [] then lit "NONE" else err)

/-- `gatt_server_send_status`. -/
def sendStatus (s : Bytes) (g : GattServer) : GattServer :=
  match g.link with
  | none => g
  | some connId =>
    { g with
      sent := g.sent ++ (indications (gattServerSendStatus g.tx s)).map (⟨.tx, connId, ·⟩) }

/-- `gatt_alert_notify`. -/
def alertNotify (rec : AlertRecord) (g : GattServer) : GattServer :=
  let used := rec.line.length
  let sendLen := if g.tx.mtuPayload < used then g.tx.mtuPayload else used
  g.indicate .alert g.alertNotifyEnabled (rec.line.take sendLen)

/-- What `on_read_dht_and_len` leaves in its 64 bytes for a text that `snprintf` wrote. -/
def dhtReadout (text : Bytes) : Bytes := (text.take 63 ++ [0]).take (min text.length 64)

/-- The immediate notification of the DHT characteristic. The handler does not look for a link; to
none the stack sends nothing. -/
def dhtNotify (text : Bytes) (g : GattServer) : GattServer :=
  let n := (dhtReadout text).length
  let n := if g.tx.mtuPayload < n then g.tx.mtuPayload else n
  g.indicate .dht true ((dhtReadout text).take n)

/-! ## The error source -/

/-- The callback of `errsrc.c`, for each string the error source has told since `old`. -/
def hearErrsrc (old new : Errsrc) (g : GattServer) : GattServer :=
  (new.told.drop old.told.length).foldl (fun g err => g.notifyErrsrc err) { g with errsrc := new }

/-- `errsrc_set`. -/
def setErrsrc (s : Option Bytes) (g : GattServer) : GattServer :=
  g.hearErrsrc g.errsrc (errsrcSet g.errsrc s)

/-- `errsrc_set_enum`. -/
def setErrsrcEnum (e : ErrSrc) (g : GattServer) : GattServer :=
  g.hearErrsrc g.errsrc (errsrcSetEnum g.errsrc e)

/-! ## The handlers -/

/-- `gatt_ccc_decode(..) & 0x0001`. -/
def cccEnables (value : Bytes) : Bool := readLe 2 value % 2 == 1

/-- All notifications off, as on a connect and on a disconnect. -/
def allOff (connId : Option Nat) (g : GattServer) : GattServer :=
  { g with
    tx := { g.tx with connId := connId, txNotifyEnabled := false }
    esNotifyEnabled := false
    alertNotifyEnabled := false
    dhtNotifyEnabled := false }

/-- `alert_raise`, as far as the server hears of it. -/
def raiseAlert (code : UInt32) (detail : Option Bytes) (g : GattServer) : GattServer :=
  let latest := g.latest.next code (detail.getD [])
  { g with latest := latest }.alertNotify latest

/-- The server after `gatt_server_init`, which subscribes to the error source: whatever was set
before, and whatever payload. -/
def afterInit (err : Bytes) (last : ErrSrc) (payload : Nat) : GattServer :=
  let errsrc := errsrcSubscribe ⟨err, last, false, []⟩
  GattServer.notifyErrsrc err
    ⟨⟨none, none, 0, false, payload⟩, false, false, false, [], errsrc, .none, []⟩

end GattServer

/-- An MTU that two sides can agree on. -/
structure AttMtu where
  mtu : UInt16
  least : 23 ≤ mtu.toNat

/-- What happens to the server: the events of the stack that it handles, with the connection they
are of; among them the writes to its configuration descriptors (the one of the DHT sensor with the
text of the reading); and the calls of the other components. -/
inductive GattEv where
  | registered (gattsIf : Nat)
  | connect (connId : Nat)
  | mtu (connId : Nat) (mtu : AttMtu)
  | disconnect (connId : Nat)
  | cccTx (connId : Nat) (value : Bytes)
  | cccErrsrc (connId : Nat) (value : Bytes)
  | cccAlert (connId : Nat) (value : Bytes)
  | cccDht (connId : Nat) (value : Bytes) (text : Bytes)
  | status (line : Bytes)
  | setErrsrc (s : Option Bytes)
  | setErrsrcEnum (e : ErrSrc)
  | raiseAlert (code : UInt32) (detail : Option Bytes)

/-- One of them. The stack reports connections to a registered application only. But for a connect
the handler does not look at the connection: each descriptor has one flag, whoever writes to it, and
any disconnect clears them all. -/
def GattServer.handle (g : GattServer) : GattEv → GattServer
  | .registered gattsIf => { g with tx := { g.tx with gattsIf := some gattsIf } }
  | .connect connId => if g.tx.gattsIf.isNone then g else g.allOff (some connId)
  | .mtu _ mtu => { g with tx := g.tx.onMtu mtu.mtu }
  | .disconnect _ => g.allOff none
  | .cccTx _ value => { g with tx := { g.tx with txNotifyEnabled := cccEnables value } }
  | .cccErrsrc _ value =>
    let g := { g with esNotifyEnabled := cccEnables value }
    if g.esNotifyEnabled then g.notifyErrsrc g.errsrc.err else g
  | .cccAlert _ value =>
    let g := { g with alertNotifyEnabled := cccEnables value }
    if g.alertNotifyEnabled then g.alertNotify g.latest else g
  | .cccDht _ value text =>
    let g := { g with dhtNotifyEnabled := cccEnables value }
    if g.dhtNotifyEnabled then g.dhtNotify text else g
  | .status line => g.sendStatus line
  | .setErrsrc s => g.setErrsrc s
  | .setErrsrcEnum e => g.setErrsrcEnum e
  | .raiseAlert code detail => g.raiseAlert code detail

/-! ## What the senders leave alone -/

/-- The length that a sender clamps to the payload takes as much as the payload. -/
theorem take_clamp (payload : Nat) (text : Bytes) :
    text.take (if payload < text.length then payload else text.length) = text.take payload := by
  split
  · rfl
  · next hge => rw [List.take_length, List.take_of_length_le (Nat.not_lt.mp hge)]

namespace GattServer

/-- An indication goes to the link, if there is one. -/
theorem indicate_eq (char : IndicatedChar) (enabled : Bool) (data : Bytes) (g : GattServer) :
    g.indicate char enabled data = { g with
      sent := g.sent ++ if enabled then g.link.toList.map (⟨char, ·, data⟩) else [] } := by
  unfold indicate
  cases enabled <;> cases g.link <;> simp

/-- A status goes to the link, if there is one, as its indications. -/
theorem sendStatus_eq (s : Bytes) (g : GattServer) :
    g.sendStatus s = { g with
      sent := g.sent ++ g.link.toList.flatMap fun connId =>
        (indications (gattServerSendStatus g.tx s)).map (⟨.tx, connId, ·⟩) } := by
  unfold sendStatus
  cases g.link <;> simp

end GattServer

end RemoteControl
