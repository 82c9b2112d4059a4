import RemoteControl.Cmd.Handlers

/-!
# Commands over BLE (`ble_cmd.c`, `gatt_wifi_cred.c`)

There is one command context for BLE. The RX characteristic appends to its line, and so does the
WIFI characteristic, which turns a pair of credentials into a `setwifi` line. A call of
`ble_cmd_on_rx` is cut into the iterations of its loop, so that other tasks run between the lines
of one write.
-/

namespace RemoteControl

open CString

/-- `struct ble_cmd`: the flag of its context, the line collected so far, and the bytes that the
running call of `ble_cmd_on_rx` has still to go through. -/
structure BleCmd where
  authed : Bool
  line : Bytes
  rx : Bytes
  deriving DecidableEq

/-- `ble_cmd_create`. -/
def BleCmd.create : BleCmd := ⟨false, [], []⟩

/-- `ble_cmd_on_connect`. -/
def bleCmdOnConnect (_b : BleCmd) : BleCmd := ⟨false, [], []⟩

/-- `ble_cmd_on_disconnect`. -/
def bleCmdOnDisconnect (b : BleCmd) : BleCmd := { b with line := [], authed := false }

/-- The call of `ble_cmd_on_rx`. -/
def bleCmdOnRx (data : Bytes) (b : BleCmd) : BleCmd := { b with rx := data }

/-- The line that the next iteration gives to `cmd_dispatch_line`. -/
def BleCmd.dispatches (b : BleCmd) : Option Bytes :=
  match b.rx with
  | [] => none
  | c :: _ => if c = 10 ∧ b.line ≠ [] then some b.line else none

/-- One iteration of the loop in `ble_cmd_on_rx`. -/
def bleCmdByte (x : CmdAnswers) (b : BleCmd) (s : CmdState) : BleCmd × CmdState :=
  match b.rx with
  | [] => (b, s)
  | c :: rest =>
    if c ≠ 10 then ({ b with line := linePush id b.line c, rx := rest }, s)
    else if b.line = [] then ({ b with rx := rest }, s)
    else
      let o := cmdLine x .ble b.line b.authed s
      (⟨o.authed, [], rest⟩, o.state)

/-- The credentials in a write to the WIFI characteristic: two lines, or `SETWIFI <ssid> <pwd>`. -/
def wifiCreds (data : Bytes) : Option (Bytes × Bytes) :=
  let s := untilNul (data.take 199)
  match lineSplit id s with
  | some (ssid, pwd) =>
    let ssid := (trimTrailing ssid).take 32
    if ssid = [] then none else some (ssid, (trimTrailing pwd).take 64)
  | none => do
    let (cmd, rest) ← scanWord 15 s
    let (ssid, rest) ← scanWord 32 rest
    let (pwd, _) ← scanWord 64 rest
    if cmd.map toLower = (lit "SETWIFI").map toLower then some (ssid, pwd) else none

/-- `gatt_on_wifi_cred_write`: the bytes it gives to `ble_cmd_on_rx`, if any. -/
def gattOnWifiCredWrite (data : Bytes) : Option Bytes :=
  (wifiCreds data).map fun (ssid, pwd) =>
    let cmdline := (lit "setwifi " ++ ssid ++ lit " " ++ pwd).take 119
    if cmdline.length < 119 then cmdline ++ [10] else cmdline

/-- **An iteration without a dispatch** leaves the flag and the statics. -/
theorem bleCmdByte_quiet (x : CmdAnswers) {b : BleCmd} (s : CmdState) (h : b.dispatches = none) :
    (bleCmdByte x b s).1.authed = b.authed ∧ (bleCmdByte x b s).2 = s := by
  cases hrx : b.rx with
  | nil => simp only [bleCmdByte, hrx, and_self]
  | cons c rest =>
    simp only [BleCmd.dispatches, hrx] at h
    simp only [bleCmdByte, hrx]
    split
    · exact ⟨rfl, rfl⟩
    · next hc =>
      split
      · exact ⟨rfl, rfl⟩
      · next hline => simp [not_not.mp hc, hline] at h

/-- **An iteration with one** runs the line. -/
theorem bleCmdByte_dispatch (x : CmdAnswers) {b : BleCmd} (s : CmdState) {line : Bytes}
    (h : b.dispatches = some line) :
    (bleCmdByte x b s).1.authed = (cmdLine x .ble line b.authed s).authed ∧
      (bleCmdByte x b s).2 = (cmdLine x .ble line b.authed s).state := by
  cases hrx : b.rx with
  | nil => simp [BleCmd.dispatches, hrx] at h
  | cons c rest =>
    simp only [BleCmd.dispatches, hrx] at h
    split at h
    · next hc =>
      cases h
      simp only [bleCmdByte, hrx, hc.1, ne_eq, not_true_eq_false, if_false, hc.2, and_self]
    · cases h

/-- An iteration takes one byte. -/
theorem rx_bleCmdByte (x : CmdAnswers) (b : BleCmd) (s : CmdState) :
    (bleCmdByte x b s).1.rx = b.rx.tail := by
  cases hrx : b.rx with
  | nil => simp only [bleCmdByte, hrx, List.tail_nil]
  | cons c rest =>
    simp only [bleCmdByte, hrx, List.tail_cons]
    split
    · rfl
    · split <;> rfl

example : (gattOnWifiCredWrite (lit "my net\npass word\r\n")) =
    some (lit "setwifi my net pass word\n") := by decide

end RemoteControl
