import RemoteControl.Ota.SessionRuns
import RemoteControl.Sys.Firmware
import RemoteControl.Sys.Recovery

/-!
# Who may run a command

The flag that opens the guarded commands sits in a command context. Over TCP each connection has a
context of its own, for as long as it lives. Over BLE there is one for all links: it is cleared when
a link comes up and when one goes down, and the handlers do not look at the `conn_id`. So a guarded
command is always one of an authenticated connection as long as no link comes up beside another
one.
-/

namespace RemoteControl

open CString

/-! ## The property -/

/-- A line of this connection was an AUTH that matched the token in force. -/
def AuthOn (conn : ConnId) : Happened → Prop
  | .line conn' result token => conn' = conn ∧ AuthMatches result token
  | .bleStart _ _ => False

/-- A guarded handler is called for a connection only after a matching AUTH on it. -/
def Authorised (pre : List Happened) (h : Happened) : Prop :=
  ∀ conn entry args token, h = .line conn (.called entry args) token → entry.needsAuth = true →
    ∃ q ∈ pre, AuthOn conn q

section
variable (E : FlashEnv) (C : Crc32)

/-- After the step, every call of a guarded handler so far was authorised; and a link that has come
up finds a context without the flag and with an empty line. -/
def CommandsAuthorised (fw : Firmware) (ev : FirmwareEv) : Prop :=
  Trace.Each Authorised (fw.step E C ev).trace ∧
    ((fw.step E C ev).bleCount ≠ fw.bleCount →
      (fw.step E C ev).ble.authed = false ∧ (fw.step E C ev).ble.line = [])

/-- No BLE link comes up while another one is up. -/
def SingleLink (fw : Firmware) (ev : FirmwareEv) : Prop :=
  ∀ conn, ev = .bleConnect conn → fw.links = []

instance decidableSingleLink (fw : Firmware) (ev : FirmwareEv) : Decidable (SingleLink fw ev) :=
  match ev with
  | .bleConnect conn => decidable_of_iff (fw.links = []) ⟨fun h _ _ => h, fun h => h conn rfl⟩
  | .control _ | .accept | .client _ _ | .bleDisconnect _ | .bleWrite _ _ _ | .bleRun _ =>
    isTrue nofun

/-! ## The invariant -/

variable {E C}

/-- The flag of a client was set by a matching AUTH on its connection. -/
def ClientFlags (fw : Firmware) : Prop :=
  ∀ i c, fw.clients[i]? = some c → c.authed = true → ∃ q ∈ fw.trace, AuthOn (.tcp i) q

/-- A flag that is set was set by a matching AUTH on the connection it belongs to. -/
structure AuthInv (fw : Firmware) : Prop where
  each : Trace.Each Authorised fw.trace
  clients : ClientFlags fw
  one : fw.links.length ≤ 1
  ble : fw.ble.authed = true → ∃ link ∈ fw.links, ∃ q ∈ fw.trace, AuthOn (.ble link.no) q
  rx : fw.ble.rx ≠ [] → ∃ link ∈ fw.links, link.no = fw.rxLink

/-- With one link at most, the link that is up is the one. -/
theorem AuthInv.link_eq {fw : Firmware} (h : AuthInv fw) {l l' : BleLink} (hl : l ∈ fw.links)
    (hl' : l' ∈ fw.links) : l = l' := by
  obtain ⟨i, hi, rfl⟩ := List.getElem_of_mem hl
  obtain ⟨j, hj, rfl⟩ := List.getElem_of_mem hl'
  have hone := h.one
  obtain rfl : i = j := by omega
  rfl

/-- What is on record stays on record. -/
theorem authOn_append {tr new : List Happened} {conn : ConnId} (h : ∃ q ∈ tr, AuthOn conn q) :
    ∃ q ∈ tr ++ new, AuthOn conn q := by
  obtain ⟨q, hq, hauth⟩ := h
  exact ⟨q, List.mem_append_left _ hq, hauth⟩

/-- The flag of the BLE context stays with its link. -/
theorem AuthInv.ble_append {fw : Firmware} (h : AuthInv fw) {new : List Happened}
    (hauth : fw.ble.authed = true) :
    ∃ link ∈ fw.links, ∃ q ∈ fw.trace ++ new, AuthOn (.ble link.no) q := by
  obtain ⟨link, hlink, hq⟩ := h.ble hauth
  exact ⟨link, hlink, authOn_append hq⟩

/-- **A line is authorised** when the flag it was dispatched with was. -/
theorem authorised_line {tr : List Happened} {conn : ConnId} {line token : Bytes} {authed : Bool}
    (h : authed = true → ∃ q ∈ tr, AuthOn conn q) :
    Authorised tr (.line conn (cmdDispatchLine line authed) token) := by
  intro conn' entry args token' heq hneeds
  obtain ⟨rfl, hcall, -⟩ : conn = conn' ∧ cmdDispatchLine line authed = .called entry args ∧
    token = token' := by simpa using heq
  exact h ((cmdDispatchLine_called hcall).2.1 hneeds)

/-- The lines of one step keep the trace authorised. -/
theorem each_append_lines {tr : List Happened} {conn : ConnId} {token : Bytes} {authed : Bool}
    (htr : Trace.Each Authorised tr) (h : authed = true → ∃ q ∈ tr, AuthOn conn q)
    (o : Option Bytes) :
    Trace.Each Authorised (tr ++ o.toList.map fun line =>
      .line conn (cmdDispatchLine line authed) token) := by
  cases o with
  | none => simpa using htr
  | some line => exact Trace.each_concat.mpr ⟨htr, authorised_line h⟩

/-- **The flags of the clients**, over any step: nothing but a matching AUTH of its own sets one. -/
theorem ClientFlags.step {fw fw' : Firmware} {ev : FirmwareEv} (h : ClientFlags fw)
    (hs : FirmwareStep E C fw ev fw') : ClientFlags fw' := by
  intro i c hi hauth
  rcases hs.tcp E C hi with rfl | ⟨hold, new, htrace, -⟩ | ⟨a, c₀, hold, rfl, htrace⟩
  · cases hauth
  · rw [htrace]
    exact authOn_append (h i c hold hauth)
  · rw [htrace]
    rcases TcpClient.authed_step hauth with hauth | ⟨line, hline, hmatch⟩
    · exact authOn_append (h i c₀ hold hauth)
    · rw [List.map_id] at hmatch
      rw [hline]
      exact ⟨_, List.mem_append_right _ (List.mem_singleton.mpr rfl), rfl, hmatch⟩

/-- A step of a client. -/
theorem AuthInv.client {fw : Firmware} (h : AuthInv fw) (i : Nat) (a : ClientAnswers UInt8) :
    AuthInv (fw.client E C i a) := by
  have hflags := h.clients.step (FirmwareStep.client (E := E) (C := C) i a)
  unfold Firmware.client at hflags ⊢
  cases hi : fw.clients[i]? with
  | none => exact h
  | some c =>
    simp only [hi] at hflags
    exact ⟨each_append_lines h.each (h.clients i c hi) _, hflags, h.one, h.ble_append, h.rx⟩

/-- A byte of `ble_cmd_on_rx`. -/
theorem AuthInv.bleRun {fw : Firmware} (h : AuthInv fw) (x : CmdAnswers) :
    AuthInv (fw.bleRun x) := by
  unfold Firmware.bleRun
  obtain ⟨⟨b, cmd⟩, hbyte⟩ : ∃ q, bleCmdByte x fw.ble fw.cmd = q := ⟨_, rfl⟩
  have hrx : b.rx = fw.ble.rx.tail := by rw [← rx_bleCmdByte x fw.ble fw.cmd, hbyte]
  simp only [hbyte]
  -- a line that is dispatched came over the link that is up
  have hlink : fw.ble.dispatches ≠ none → fw.ble.authed = true →
      ∃ q ∈ fw.trace, AuthOn (.ble fw.rxLink) q := by
    intro hne hauth
    obtain ⟨link, hmem, hq⟩ := h.ble hauth
    obtain ⟨link', hmem', heq⟩ := h.rx fun hnil => hne (by rw [BleCmd.dispatches, hnil])
    rwa [h.link_eq hmem hmem', heq] at hq
  refine ⟨?_, fun i c hi hc => authOn_append (h.clients i c hi hc), h.one, ?_, ?_⟩
  · cases hd : fw.ble.dispatches with
    | none => simpa using h.each
    | some line => exact each_append_lines h.each (hlink (by simp [hd])) (some line)
  · intro hauth
    cases hd : fw.ble.dispatches with
    | none =>
      have hsame : b.authed = fw.ble.authed := by
        rw [← (bleCmdByte_quiet x fw.cmd hd).1, hbyte]
      exact h.ble_append (hsame ▸ hauth)
    | some line =>
      have hflag : (cmdLine x .ble line fw.ble.authed fw.cmd).authed = true := by
        rw [← (bleCmdByte_dispatch x fw.cmd hd).1, hbyte]
        exact hauth
      rcases cmdLine_authed _ _ _ _ _ hflag with hold | hmatch
      · exact h.ble_append hold
      · obtain ⟨link, hmem, heq⟩ := h.rx fun hnil => by simp [BleCmd.dispatches, hnil] at hd
        refine ⟨link, hmem, _, List.mem_append_right _ (List.mem_singleton.mpr rfl), ?_, hmatch⟩
        rw [heq]
  · intro hne
    refine h.rx fun hnil => hne ?_
    rw [hrx, hnil, List.tail_nil]

/-- A write to a characteristic. -/
theorem AuthInv.onWrite {fw : Firmware} (h : AuthInv fw) {link : BleLink} (hlink : link ∈ fw.links)
    (char : GattChar) (data : Bytes) : AuthInv (fw.onWrite E C link char data) := by
  have hrx : ∀ bytes, AuthInv { fw with ble := bleCmdOnRx bytes fw.ble, rxLink := link.no } :=
    fun bytes => ⟨h.each, h.clients, h.one, h.ble, fun _ => ⟨link, hlink, rfl⟩⟩
  cases char with
  | rx => exact hrx data
  | wifi =>
    rcases fw.onWrite_wifi E C link data with heq | ⟨line, heq⟩
    · rw [heq]
      exact h
    · rw [heq]
      exact hrx line
  | otaCtrl =>
    refine ⟨?_, fun i c hi hc => authOn_append (h.clients i c hi hc), h.one, h.ble_append, h.rx⟩
    simp only [Firmware.onWrite, Firmware.onCtrl]
    split
    · exact Trace.each_concat.mpr ⟨h.each, nofun⟩
    · simpa using h.each
  | otaData => exact ⟨h.each, h.clients, h.one, h.ble, h.rx⟩

/-- **One step.** A step in which no link comes up beside another one keeps the flags with their
connections. -/
theorem AuthInv.step {fw : Firmware} (h : AuthInv fw) {ev : FirmwareEv} (hok : SingleLink fw ev) :
    AuthInv (fw.step E C ev) := by
  have hspec := fw.step_spec (E := E) (C := C) ev
  have hflags := h.clients.step hspec
  generalize fw.step E C ev = fw' at hspec hflags
  cases hspec with
  | idle => exact h
  | control | accept => exact ⟨h.each, hflags, h.one, h.ble, h.rx⟩
  | client i a => exact h.client i a
  | connect conn =>
    refine ⟨h.each, hflags, ?_, nofun, fun hne => absurd rfl hne⟩
    simp [Firmware.onConnect, hok conn rfl]
  | disconnect conn link hidle hlink =>
    unfold Firmware.onDisconnect
    dsimp only
    split
    · exact ⟨h.each, h.clients, h.one, h.ble, h.rx⟩
    · refine ⟨h.each, h.clients, (List.length_filter_le _ _).trans h.one, nofun, fun hne => ?_⟩
      rw [Firmware.bleIdle, Bool.and_eq_true, decide_eq_true_eq] at hidle
      exact absurd hidle.1 hne
  | write conn char data link hidle hlink => exact h.onWrite (Firmware.mem_links hlink) char data
  | run x => exact h.bleRun x

theorem authInv_boot (cfg : StaCfg) (nvsSsid nvsPwd : Option Bytes) (postRb : Option Nat)
    (nvsToken : Option Bytes) : AuthInv (.boot cfg nvsSsid nvsPwd postRb nvsToken) :=
  ⟨Trace.each_nil, nofun, Nat.zero_le _, nofun, fun hne => absurd rfl hne⟩

/-- Only a connect starts a new link, and it clears the context. -/
theorem ble_of_new_link {fw : Firmware} {ev : FirmwareEv}
    (h : (fw.step E C ev).bleCount ≠ fw.bleCount) :
    (fw.step E C ev).ble.authed = false ∧ (fw.step E C ev).ble.line = [] := by
  have hspec := fw.step_spec (E := E) (C := C) ev
  revert h
  generalize fw.step E C ev = fw' at hspec
  intro h
  cases hspec with
  | idle => exact absurd rfl h
  | control i => exact absurd rfl h
  | accept => exact absurd rfl h
  | client i a =>
    refine absurd ?_ h
    unfold Firmware.client
    split <;> rfl
  | connect conn => exact ⟨rfl, rfl⟩
  | disconnect conn link => exact absurd (bleCount_onDisconnect E conn fw) h
  | write conn char data link =>
    refine absurd ?_ h
    cases char with
    | wifi => rcases fw.onWrite_wifi E C link data with heq | ⟨line, heq⟩ <;> rw [heq]
    | rx | otaCtrl | otaData => rfl
  | run x => exact absurd rfl h

/-- **Command authorisation.** In every run in which no BLE link comes up beside another one, a
guarded handler is only ever called for a connection on which a line has matched the token in
force, and every BLE link starts unauthenticated with an empty line. -/
theorem commands_authorised (E : FlashEnv) (C : Crc32) (cfg : StaCfg)
    (nvsSsid nvsPwd : Option Bytes) (postRb : Option Nat) (nvsToken : Option Bytes)
    (evs : List FirmwareEv)
    (hok : Run.Along (Firmware.step E C) SingleLink
      (.boot cfg nvsSsid nvsPwd postRb nvsToken) evs) :
    Run.Along (Firmware.step E C) (CommandsAuthorised E C)
      (.boot cfg nvsSsid nvsPwd postRb nvsToken) evs :=
  hok.mono (authInv_boot cfg nvsSsid nvsPwd postRb nvsToken) (fun _ _ h hev => h.step hev)
    fun _ _ h hev => ⟨(h.step hev).each, ble_of_new_link⟩

end

/-! ## Two links -/

/-- The answers to a command when nothing fails. -/
def plainAnswers : CmdAnswers := ⟨.ok, .factory⟩

/-- A client sends one segment with one line in it: the task receives it and runs the line. -/
def clientSays (i : Nat) (line : Bytes) : List FirmwareEv :=
  [⟨.data line, plainAnswers, .zero, true⟩, ⟨.eintr, plainAnswers, .zero, true⟩].map (.client i)

/-- A write to RX, and `ble_cmd_on_rx` as it goes through it. -/
def bleSays (conn : Nat) (line : Bytes) : List FirmwareEv :=
  .bleWrite conn .rx line :: line.map fun _ => .bleRun plainAnswers

/-- Wi-Fi fails twice, and the device goes to RECOVERY and opens the lifeboat. -/
def lifeboatOpens : List FirmwareEv := (twoFailures ++ workerRun).map .control

theorem commands_authorised_reconnect :
    Run.Along (Firmware.step ota0Env romCrc32) (CommandsAuthorised ota0Env romCrc32)
      (.boot homeCfg none none none none)
      (lifeboatOpens ++ .bleConnect 0 :: bleSays 0 (lit "AUTH hunter2\n") ++
        bleSays 0 (lit "led_on\n") ++ .bleDisconnect 0 :: .bleConnect 0 ::
          bleSays 0 (lit "led_on\n")) :=
  commands_authorised ota0Env romCrc32 homeCfg none none none none _ (by decide +kernel)

/-- A phone is on the lifeboat when Wi-Fi comes back and a TCP client authenticates. The device
leaves RECOVERY, and `ble_fallback_stop` takes the link for gone; when Wi-Fi fails again, it
advertises again, and a second phone comes up beside the first one and authenticates. -/
def secondPhone : List FirmwareEv :=
  lifeboatOpens ++ [.bleConnect 0] ++
    [.control ⟨.reconnTimer, .factory⟩, .control ⟨.gotIp, .factory⟩, .accept] ++
    clientSays 0 (lit "AUTH hunter2\n") ++
    [.control ⟨.staDisconnected .beaconTimeout, .factory⟩, .control ⟨.reconnTimer, .factory⟩,
      .control ⟨.staDisconnected .noApFound, .factory⟩] ++ workerRun.map .control ++
    [.bleConnect 1] ++ bleSays 1 (lit "AUTH hunter2\n")

/-- The first phone, which never authenticated, now switches the LED on. -/
theorem commands_not_authorised :
    ¬ Run.Along (Firmware.step ota0Env romCrc32) (CommandsAuthorised ota0Env romCrc32)
      (.boot homeCfg none none none none) (secondPhone ++ bleSays 0 (lit "led_on\n")) := by
  intro h
  have hlast : bleSays 0 (lit "led_on\n") =
      .bleWrite 0 .rx (lit "led_on\n") :: List.replicate 6 (.bleRun plainAnswers) ++
        [.bleRun plainAnswers] := rfl
  have htrace : (Run.exec (Firmware.step ota0Env romCrc32) (.boot homeCfg none none none none)
      (secondPhone ++ bleSays 0 (lit "led_on\n"))).trace =
        [.line (.tcp 0) (.called ⟨lit "auth", false, .auth⟩ (lit "hunter2")) (lit "hunter2"),
          .line (.ble 1) (.called ⟨lit "auth", false, .auth⟩ (lit "hunter2")) (lit "hunter2")] ++
        [.line (.ble 0) (.called ⟨lit "led_on", true, .ledOn⟩ []) (lit "hunter2")] := by
    decide +kernel
  rw [hlast, ← List.append_assoc] at h htrace
  rw [Run.along_concat] at h
  rw [Run.exec_concat] at htrace
  obtain ⟨q, hq, hauth⟩ := h.2.1 _ _ [] htrace _ _ _ _ rfl rfl
  -- the two AUTH lines came over other connections
  rcases List.mem_pair.mp hq with rfl | rfl
  · cases hauth.1
  · cases hauth.1

end RemoteControl
