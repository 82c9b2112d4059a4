import RemoteControl.Ble.Cmd
import RemoteControl.Lib.Run
import RemoteControl.Lib.Trace
import RemoteControl.Net.TcpClient

/-!
# The firmware (`gatt_server.c`, `tcp_listener.c` and what they drive)

All the ways into the device at once: the TCP clients, each a task with its own context; the BLE
links, which share one command context and one OTA adapter; and the control plane. A step runs one
of the tasks up to its next blocking call, or to the next byte of a line, so every interleaving of
connections, segments and writes is a run. The BLE task serves one GATT event after the other: no
event reaches it while it is in `ble_cmd_on_rx` or waits for `esp_restart`.

Connections are numbered, TCP sockets in the order in which they are accepted and BLE links in the
order in which they come up; the stack may give the `conn_id` of an old link to a new one. The
notification flags and the characteristics that only read are left out. `trace` is not in the code:
it says which lines were dispatched on which connection, and with which `ota_session_begin` a BLE
link opened the session.
-/

namespace RemoteControl

open CString

/-! ## State -/

/-- A connection. -/
inductive ConnId where
  | tcp (i : Nat)
  | ble (n : Nat)
  deriving DecidableEq

/-- A BLE link that is up: the `conn_id` of the stack, and its number. -/
structure BleLink where
  conn : Nat
  no : Nat
  deriving DecidableEq

/-- What the trace records: a line given to `cmd_dispatch_line`, what became of it, and the token
in force then; or a CTRL write that opened the BLE session, and the mode then. -/
inductive Happened where
  | line (conn : ConnId) (result : Dispatched) (token : Bytes)
  | bleStart (conn : ConnId) (mode : ScMode)
  deriving DecidableEq

/-- The connection it happened on. -/
def Happened.conn : Happened → ConnId
  | .line conn _ _ => conn
  | .bleStart conn _ => conn

/-- The whole device. -/
structure Firmware where
  cmd : CmdState
  log : FlashLog
  ota : BleOta
  clients : List (TcpClient UInt8)
  ble : BleCmd
  /-- The link whose write `ble_cmd_on_rx` goes through. -/
  rxLink : Nat
  links : List BleLink
  bleCount : Nat
  trace : List Happened

/-- The device at boot, with what the NVS holds. -/
def Firmware.boot (cfg : StaCfg) (nvsSsid nvsPwd : Option Bytes) (postRb : Option Nat)
    (nvsToken : Option Bytes) : Firmware where
  cmd := ⟨.boot nvsToken, .boot cfg nvsSsid nvsPwd postRb⟩
  log := []
  ota := .init
  clients := []
  ble := .create
  rxLink := 0
  links := []
  bleCount := 0
  trace := []

/-- `sc_mode_t` as `syscoord_get_mode` reads it. -/
def Firmware.mode (fw : Firmware) : ScMode := fw.cmd.control.sys.mode

/-! ## Events -/

/-- The characteristics whose writes run code: RX, WIFI, OTA_CTRL and OTA_DATA. -/
inductive GattChar where
  | rx
  | wifi
  | otaCtrl
  | otaData
  deriving DecidableEq, Repr

/-- What happens to the device. `control` is an event of the control plane that no connection
causes; `bleRun` lets `ble_cmd_on_rx` take its next byte. -/
inductive FirmwareEv where
  | control (i : ControlIn)
  | accept
  | client (i : Nat) (a : ClientAnswers UInt8)
  | bleConnect (conn : Nat)
  | bleDisconnect (conn : Nat)
  | bleWrite (conn : Nat) (char : GattChar) (data : Bytes)
  | bleRun (x : CmdAnswers)

/-- `CONFIG_BTDM_CTRL_BLE_MAX_CONN`: as many links the controller has at once. -/
def bleMaxConn : Nat := 3

/-- The BLE task waits for an event. -/
def Firmware.bleIdle (fw : Firmware) : Bool := fw.ble.rx = [] && !fw.ota.restarted

/-- The link with a `conn_id`. -/
def Firmware.link? (conn : Nat) (fw : Firmware) : Option BleLink :=
  fw.links.find? (·.conn = conn)

/-- The statics with another state of the BLE fallback. -/
def CmdState.setFallback (f : Fallback → Fallback) (s : CmdState) : CmdState :=
  { s with control := { s.control with
      sys := { s.control.sys with fallback := f s.control.sys.fallback } } }

/-- The statics with another state of the monitor. -/
def CmdState.setMonitor (m : Monitor) (s : CmdState) : CmdState :=
  { s with control := { s.control with sys := { s.control.sys with monitor := m } } }

section
variable (E : FlashEnv) (C : Crc32)

/-- A step of the `i`-th client task. -/
def Firmware.client (i : Nat) (a : ClientAnswers UInt8) (fw : Firmware) : Firmware :=
  match fw.clients[i]? with
  | none => fw
  | some c =>
    let (c', cmd, log) := c.step id E C a fw.cmd fw.log
    let lines := (c.dispatches id a.recv).toList.map fun line =>
      Happened.line (.tcp i) (cmdDispatchLine line c.authed) (tokenInForce a.cmd fw.cmd)
    { fw with
      cmd := cmd
      log := log
      clients := fw.clients.set i c'
      trace := fw.trace ++ lines }

/-- `gatts_event_handler` for `ESP_GATTS_CONNECT_EVT`. -/
def Firmware.onConnect (conn : Nat) (fw : Firmware) : Firmware :=
  { fw with
    cmd := fw.cmd.setFallback (bleSetConnected true)
    ble := bleCmdOnConnect fw.ble
    links := fw.links ++ [⟨conn, fw.bleCount⟩]
    bleCount := fw.bleCount + 1 }

/-- `gatts_event_handler` for `ESP_GATTS_DISCONNECT_EVT`; a finished update restarts before the
rest of it runs. -/
def Firmware.onDisconnect (conn : Nat) (fw : Firmware) : Firmware :=
  let (ota, log) := bleOtaOnDisconnect E fw.ota fw.log
  let fw := { fw with ota := ota, log := log }
  if ota.restarted then fw
  else
    { fw with
      cmd := fw.cmd.setFallback (bleSetConnected false)
      ble := bleCmdOnDisconnect fw.ble
      links := fw.links.filter (·.conn ≠ conn) }

/-- `ble_ota_on_ctrl_write`. -/
def Firmware.onCtrl (link : BleLink) (data : Bytes) (fw : Firmware) : Firmware :=
  let (m, ota, log) :=
    bleOtaOnCtrlWrite E fw.mode data fw.cmd.control.sys.monitor fw.ota fw.log
  let opened := !fw.ota.ble.active && ota.ble.active
  { fw with
    cmd := fw.cmd.setMonitor m
    ota := ota
    log := log
    trace := fw.trace ++ if opened then [.bleStart (.ble link.no) fw.mode] else [] }

/-- `gatts_event_handler` for `ESP_GATTS_WRITE_EVT`. -/
def Firmware.onWrite (link : BleLink) (char : GattChar) (data : Bytes) (fw : Firmware) :
    Firmware :=
  match char with
  | .rx => { fw with ble := bleCmdOnRx data fw.ble, rxLink := link.no }
  | .wifi =>
    match gattOnWifiCredWrite data with
    | none => fw
    | some line => { fw with ble := bleCmdOnRx line fw.ble, rxLink := link.no }
  | .otaCtrl => fw.onCtrl E link data
  | .otaData =>
    let (ota, log) := bleOtaOnDataWrite E C data fw.ota fw.log
    { fw with ota := ota, log := log }

/-- The next byte of `ble_cmd_on_rx`. -/
def Firmware.bleRun (x : CmdAnswers) (fw : Firmware) : Firmware :=
  let (ble, cmd) := bleCmdByte x fw.ble fw.cmd
  let lines := fw.ble.dispatches.toList.map fun line =>
    Happened.line (.ble fw.rxLink) (cmdDispatchLine line fw.ble.authed) (tokenInForce x fw.cmd)
  { fw with cmd := cmd, ble := ble, trace := fw.trace ++ lines }

/-- One step. After a rollback has rebooted the device nothing happens any more. A link comes up
once the GATT server is registered, while the stack has room for it. -/
def Firmware.step (fw : Firmware) (ev : FirmwareEv) : Firmware :=
  if fw.cmd.control.halted then fw
  else
    match ev with
    | .control i =>
      match i.ev with
      | .tcpAuth | .setwifi _ _ | .bleOtaStart => fw
      | _ => { fw with cmd := { fw.cmd with control := fw.cmd.control.step i } }
    | .accept => { fw with clients := fw.clients ++ [.start] }
    | .client i a => fw.client E C i a
    | .bleConnect conn =>
      if fw.bleIdle && fw.cmd.control.sys.fallback.stackReady && (fw.link? conn).isNone &&
          fw.links.length < bleMaxConn then fw.onConnect conn
      else fw
    | .bleDisconnect conn =>
      if fw.bleIdle && (fw.link? conn).isSome then fw.onDisconnect E conn else fw
    | .bleWrite conn char data =>
      match fw.link? conn with
      | none => fw
      | some link => if fw.bleIdle then fw.onWrite E C link char data else fw
    | .bleRun x => if fw.ota.restarted then fw else fw.bleRun x

/-! ## What a step does -/

/-- The steps by the function they run, with what has let it run. -/
inductive FirmwareStep (fw : Firmware) : FirmwareEv → Firmware → Prop
  | idle (ev : FirmwareEv) : FirmwareStep fw ev fw
  | control (i : ControlIn) :
      FirmwareStep fw (.control i)
        { fw with cmd := { fw.cmd with control := fw.cmd.control.step i } }
  | accept : FirmwareStep fw .accept { fw with clients := fw.clients ++ [.start] }
  | client (i : Nat) (a : ClientAnswers UInt8) : FirmwareStep fw (.client i a) (fw.client E C i a)
  | connect (conn : Nat) (hidle : fw.bleIdle = true) :
      FirmwareStep fw (.bleConnect conn) (fw.onConnect conn)
  | disconnect (conn : Nat) (link : BleLink) (hidle : fw.bleIdle = true)
      (hlink : fw.link? conn = some link) :
      FirmwareStep fw (.bleDisconnect conn) (fw.onDisconnect E conn)
  | write (conn : Nat) (char : GattChar) (data : Bytes) (link : BleLink)
      (hidle : fw.bleIdle = true) (hlink : fw.link? conn = some link) :
      FirmwareStep fw (.bleWrite conn char data) (fw.onWrite E C link char data)
  | run (x : CmdAnswers) : FirmwareStep fw (.bleRun x) (fw.bleRun x)

/-- **The steps.** -/
theorem Firmware.step_spec (fw : Firmware) (ev : FirmwareEv) :
    FirmwareStep E C fw ev (fw.step E C ev) := by
  unfold Firmware.step
  split
  · exact .idle ev
  · cases ev with
    | control i =>
      obtain ⟨ev, a⟩ := i
      cases ev with
      | tcpAuth | setwifi | bleOtaStart => exact .idle _
      | _ => exact .control _
    | accept => exact .accept
    | client i a => exact .client i a
    | bleConnect conn =>
      dsimp only
      split
      · next h =>
        simp only [Bool.and_eq_true] at h
        exact .connect conn h.1.1.1
      · exact .idle _
    | bleDisconnect conn =>
      dsimp only
      split
      · next h =>
        rw [Bool.and_eq_true] at h
        obtain ⟨link, hlink⟩ := Option.isSome_iff_exists.mp h.2
        exact .disconnect conn link h.1 hlink
      · exact .idle _
    | bleWrite conn char data =>
      dsimp only
      split
      · exact .idle _
      · next link hlink =>
        split
        · next hidle => exact .write conn char data link hidle hlink
        · exact .idle _
    | bleRun x =>
      dsimp only
      split
      · exact .idle _
      · exact .run x

section
variable (conn : Nat) (fw : Firmware)

/-- A disconnect leaves the adapter and the log as `ble_ota_on_disconnect` does, whether the device
restarts or not. -/
@[simp] theorem ota_onDisconnect :
    (fw.onDisconnect E conn).ota = (bleOtaOnDisconnect E fw.ota fw.log).1 := by
  unfold Firmware.onDisconnect
  dsimp only
  split <;> rfl

@[simp] theorem log_onDisconnect :
    (fw.onDisconnect E conn).log = (bleOtaOnDisconnect E fw.ota fw.log).2 := by
  unfold Firmware.onDisconnect
  dsimp only
  split <;> rfl

@[simp] theorem clients_onDisconnect : (fw.onDisconnect E conn).clients = fw.clients := by
  unfold Firmware.onDisconnect
  dsimp only
  split <;> rfl

@[simp] theorem trace_onDisconnect : (fw.onDisconnect E conn).trace = fw.trace := by
  unfold Firmware.onDisconnect
  dsimp only
  split <;> rfl

@[simp] theorem bleCount_onDisconnect : (fw.onDisconnect E conn).bleCount = fw.bleCount := by
  unfold Firmware.onDisconnect
  dsimp only
  split <;> rfl

end

/-- A write to WIFI gives its line to `ble_cmd_on_rx`, or does nothing. -/
theorem Firmware.onWrite_wifi (link : BleLink) (data : Bytes) (fw : Firmware) :
    fw.onWrite E C link .wifi data = fw ∨
      ∃ line, fw.onWrite E C link .wifi data =
        { fw with ble := bleCmdOnRx line fw.ble, rxLink := link.no } := by
  unfold Firmware.onWrite
  dsimp only
  split
  · exact .inl rfl
  · exact .inr ⟨_, rfl⟩

/-- A link found by its `conn_id` is up. -/
theorem Firmware.mem_links {fw : Firmware} {conn : Nat} {link : BleLink}
    (h : fw.link? conn = some link) : link ∈ fw.links :=
  List.mem_of_find?_eq_some h

/-- A step that is none of a client's leaves the clients as they are, or adds one, and nothing
happens on their connections. -/
theorem FirmwareStep.clients {fw fw' : Firmware} {ev : FirmwareEv}
    (h : FirmwareStep E C fw ev fw') :
    (∃ i a, ev = .client i a ∧ fw' = fw.client E C i a) ∨
      ((fw'.clients = fw.clients ∨ fw'.clients = fw.clients ++ [.start]) ∧
        ∃ new, fw'.trace = fw.trace ++ new ∧ ∀ x ∈ new, ∀ i, x.conn ≠ .tcp i) := by
  cases h with
  | idle | control | connect =>
    exact .inr ⟨.inl rfl, [], (List.append_nil _).symm, nofun⟩
  | accept => exact .inr ⟨.inr rfl, [], (List.append_nil _).symm, nofun⟩
  | client i a => exact .inl ⟨i, a, rfl, rfl⟩
  | disconnect conn => exact .inr ⟨.inl (clients_onDisconnect E conn fw), [], by simp, nofun⟩
  | write conn char data link =>
    cases char with
    | rx | otaData => exact .inr ⟨.inl rfl, [], (List.append_nil _).symm, nofun⟩
    | wifi =>
      rcases fw.onWrite_wifi E C link data with heq | ⟨line, heq⟩
      all_goals
        rw [heq]
        exact .inr ⟨.inl rfl, [], (List.append_nil _).symm, nofun⟩
    | otaCtrl =>
      refine .inr ⟨.inl rfl, _, rfl, fun x hx i => ?_⟩
      split at hx
      · rw [List.mem_singleton.mp hx]
        exact nofun
      · cases hx
  | run x =>
    refine .inr ⟨.inl rfl, _, rfl, fun y hy i => ?_⟩
    obtain ⟨line, -, rfl⟩ := List.mem_map.mp hy
    exact nofun

/-- The trace only grows. -/
theorem FirmwareStep.trace {fw fw' : Firmware} {ev : FirmwareEv} (h : FirmwareStep E C fw ev fw') :
    ∃ new, fw'.trace = fw.trace ++ new := by
  rcases h.clients with ⟨i, a, -, rfl⟩ | ⟨-, new, htrace, -⟩
  · unfold Firmware.client
    split
    · exact ⟨[], (List.append_nil _).symm⟩
    · exact ⟨_, rfl⟩
  · exact ⟨new, htrace⟩

/-- **The TCP side.** A client after a step is new; or it is as before, and nothing has happened on
its connection; or it has made a step itself, and at most the line it dispatched has. -/
theorem FirmwareStep.tcp {fw fw' : Firmware} {ev : FirmwareEv} (h : FirmwareStep E C fw ev fw')
    {i : Nat} {c : TcpClient UInt8} (hi : fw'.clients[i]? = some c) :
    c = .start ∨
      (fw.clients[i]? = some c ∧
        ∃ new, fw'.trace = fw.trace ++ new ∧ ∀ x ∈ new, x.conn ≠ .tcp i) ∨
      ∃ a c₀, fw.clients[i]? = some c₀ ∧ c = (c₀.step id E C a fw.cmd fw.log).1 ∧
        fw'.trace = fw.trace ++ (c₀.dispatches id a.recv).toList.map fun line =>
          .line (.tcp i) (cmdDispatchLine line c₀.authed) (tokenInForce a.cmd fw.cmd) := by
  rcases h.clients with ⟨j, a, -, rfl⟩ | ⟨heq | heq, new, htrace, hnew⟩
  · unfold Firmware.client at hi ⊢
    cases hj : fw.clients[j]? with
    | none =>
      rw [hj] at hi
      exact .inr (.inl ⟨hi, [], (List.append_nil _).symm, nofun⟩)
    | some c₀ =>
      rw [hj] at hi
      dsimp only at hi ⊢
      obtain ⟨hlt, -⟩ := List.getElem?_eq_some_iff.mp hj
      by_cases hij : j = i
      · subst hij
        rw [List.getElem?_set_self hlt] at hi
        exact .inr (.inr ⟨a, c₀, hj, (Option.some.inj hi).symm, rfl⟩)
      · rw [List.getElem?_set_ne hij] at hi
        refine .inr (.inl ⟨hi, _, rfl, fun x hx => ?_⟩)
        obtain ⟨line, -, rfl⟩ := List.mem_map.mp hx
        exact fun hconn => hij (ConnId.tcp.inj hconn)
  · rw [heq] at hi
    exact .inr (.inl ⟨hi, new, htrace, fun x hx => hnew x hx i⟩)
  · rw [heq] at hi
    rcases Nat.lt_or_ge i fw.clients.length with hlt | hge
    · rw [List.getElem?_append_left hlt] at hi
      exact .inr (.inl ⟨hi, new, htrace, fun x hx => hnew x hx i⟩)
    · rw [List.getElem?_append_right hge] at hi
      exact .inl (List.mem_singleton.mp (List.mem_of_getElem? hi))

end

end RemoteControl
