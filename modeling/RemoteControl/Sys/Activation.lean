import RemoteControl.Ble.Delivery
import RemoteControl.Ota.Interleave
import RemoteControl.Sys.Authorization

/-!
# What activates an image

Two ways lead to `esp_ota_set_boot_partition`. The command table lets `cmd_ota` run only with the
flag of its context set, so a TCP client that activates an image has authenticated. The BLE adapter
does not look at that flag: it opens its session in RECOVERY only, and whoever is on the lifeboat
may update the device.
-/

namespace RemoteControl

open CString

/-! ## The property -/

/-- A line called `cmd_ota`. -/
def OtaCalled : Happened → Prop
  | .line _ result _ => CallsOta result
  | .bleStart _ _ => False

/-- A CTRL write opened the BLE session. -/
def OpensBle : Happened → Prop
  | .line _ _ _ => False
  | .bleStart _ _ => True

/-- The last line of the client called `cmd_ota`, after a matching AUTH on the same connection. -/
def TcpOtaAuthed (i : Nat) (tr : List Happened) : Prop :=
  Trace.LastIs (·.conn = .tcp i)
    (fun pre x => OtaCalled x ∧ ∃ q ∈ pre, AuthOn (.tcp i) q) tr

/-- The BLE session was last opened by a link on which an AUTH had matched. -/
def BleOtaAuthed (tr : List Happened) : Prop :=
  Trace.LastIs OpensBle (fun pre x => ∃ q ∈ pre, AuthOn x.conn q) tr

/-- The BLE session was last opened in RECOVERY. -/
def BleOtaInRecovery (tr : List Happened) : Prop :=
  Trace.LastIs OpensBle (fun _ x => ∃ conn, x = .bleStart conn .recovery) tr

section
variable (E : FlashEnv) (C : Crc32)

/-- The step reaches `esp_ota_set_boot_partition` only in a client whose OTA command was
authenticated, or in one of the handlers of BLE-OTA (a write to CTRL or DATA, or the disconnect),
with a session that was opened as `ble` says. -/
def ActivationGated (ble : List Happened → Prop) (fw : Firmware) (ev : FirmwareEv) : Prop :=
  SetsBoot fw.log (fw.step E C ev).log →
    match ev with
    | .client i _ => TcpOtaAuthed i fw.trace
    | .bleWrite _ .otaCtrl _ | .bleWrite _ .otaData _ | .bleDisconnect _ => ble fw.trace
    | .bleWrite _ .rx _ | .bleWrite _ .wifi _ => False
    | .control _ | .accept | .bleConnect _ | .bleRun _ => False

variable {E C}

/-! ## The handlers of the BLE adapter -/

/-- A handler that begins no session does nothing without one. -/
theorem quiet_of_inactive {b b' : BleOta} {log log' : FlashLog} (hb : b.ble.active = false)
    (h : ∃ ops, (b'.ble.live, log') = WriterOp.runs E C ops (b.ble.live, log) ∧
      ∀ op ∈ ops, op.isBegin = false) : b'.ble.active = false ∧ log' = log := by
  obtain ⟨ops, hrun, hops⟩ := h
  rw [live_of_inactive hb, WriterOp.runs_none hops] at hrun
  obtain ⟨hlive, rfl⟩ := Prod.mk.inj hrun
  refine ⟨?_, rfl⟩
  cases hact : b'.ble.active with
  | false => rfl
  | true => rw [live_of_active hact] at hlive; cases hlive

/-- **A CTRL write** without a session opens one in RECOVERY only, and never touches the boot
partition. -/
theorem bleOtaOnCtrlWrite_inactive {mode : ScMode} {data : Bytes} {m : Monitor} {b : BleOta}
    {log : FlashLog} (hb : b.ble.active = false) :
    ((bleOtaOnCtrlWrite E mode data m b log).2.1.ble.active = true → mode = .recovery) ∧
      KeepsBoot log (bleOtaOnCtrlWrite E mode data m b log).2.2 := by
  obtain ⟨ops, hrun, hbegins⟩ := bleOtaOnCtrlWrite_runs (E := E) (C := softCrc32) mode data m b log
  by_cases h : BleBegins E mode data b
  · obtain ⟨-, hmode, hstart, -⟩ := h
    refine ⟨fun _ => hmode, ?_⟩
    unfold bleOtaOnCtrlWrite
    split
    · exact .refl log
    · dsimp only
      rw [if_pos hstart]
      exact bleOtaStart_keepsBoot E mode _ m b log
  · have hquiet : ∀ op ∈ ops, op.isBegin = false := by
      intro op hop
      cases hop' : op.isBegin with
      | false => rfl
      | true => exact absurd (hbegins op hop hop') h
    obtain ⟨hact, hlog⟩ := quiet_of_inactive hb ⟨ops, hrun, hquiet⟩
    rw [hact, hlog]
    exact ⟨nofun, .refl log⟩

/-! ## The invariant -/

/-- Whoever is in an OTA session was let in: a client by its own AUTH, the BLE adapter by the
mode. -/
structure ActivationInv (fw : Firmware) : Prop where
  flags : ClientFlags fw
  tcp : ∀ i c, fw.clients[i]? = some c → c.ota ≠ none → TcpOtaAuthed i fw.trace
  ble : fw.ota.ble.active = true → BleOtaInRecovery fw.trace

/-- **The clients**, over any step: a client gets into `ota_perform` by a line that its flag
allowed, and sends no other line while it is there. -/
theorem ActivationInv.tcp_step {fw fw' : Firmware} {ev : FirmwareEv} (h : ActivationInv fw)
    (hs : FirmwareStep E C fw ev fw') (i : Nat) (c : TcpClient UInt8)
    (hi : fw'.clients[i]? = some c) (hota : c.ota ≠ none) : TcpOtaAuthed i fw'.trace := by
  rcases hs.tcp E C hi with rfl | ⟨hold, new, htrace, hnew⟩ | ⟨a, c₀, hold, rfl, htrace⟩
  · exact absurd rfl hota
  · rw [htrace]
    exact (h.tcp i c hold hota).append hnew
  · rw [htrace]
    rcases TcpClient.ota_step hota with ⟨hin, hnone⟩ | ⟨line, hline, hauth, hcall⟩
    · rw [hnone]
      exact (h.tcp i c₀ hold hin).append nofun
    · rw [List.map_id] at hcall
      rw [hline]
      exact Trace.lastIs_concat rfl ⟨hcall, h.flags i c₀ hold hauth⟩

/-- **The BLE side.** A step is a CTRL write, or it opens no session of the BLE adapter. -/
theorem FirmwareStep.bleOta {fw fw' : Firmware} {ev : FirmwareEv}
    (h : FirmwareStep E C fw ev fw') :
    (∃ link data, fw' = fw.onCtrl E link data) ∨
      ((fw.ota.ble.active = false → fw'.ota.ble.active = false) ∧
        ∃ new, fw'.trace = fw.trace ++ new ∧ ∀ x ∈ new, ¬ OpensBle x) := by
  have hlines : ∀ (conn : ConnId) (o : Option Bytes) (authed : Bool) (token : Bytes),
      ∀ x ∈ o.toList.map fun line => Happened.line conn (cmdDispatchLine line authed) token,
        ¬ OpensBle x := by
    intro conn o authed token x hx
    obtain ⟨line, -, rfl⟩ := List.mem_map.mp hx
    exact id
  cases h with
  | idle | control | accept | connect =>
    exact .inr ⟨id, [], (List.append_nil _).symm, nofun⟩
  | client i a =>
    unfold Firmware.client
    split
    · exact .inr ⟨id, [], (List.append_nil _).symm, nofun⟩
    · exact .inr ⟨id, _, rfl, hlines _ _ _ _⟩
  | disconnect conn =>
    refine .inr ⟨fun hact => ?_, [], by simp, nofun⟩
    rw [ota_onDisconnect]
    exact (quiet_of_inactive hact (bleOtaOnDisconnect_runs (E := E) (C := C) _ fw.log)).1
  | write conn char data link =>
    cases char with
    | rx => exact .inr ⟨id, [], (List.append_nil _).symm, nofun⟩
    | wifi =>
      rcases fw.onWrite_wifi E C link data with heq | ⟨line, heq⟩
      all_goals
        rw [heq]
        exact .inr ⟨id, [], (List.append_nil _).symm, nofun⟩
    | otaCtrl => exact .inl ⟨link, data, rfl⟩
    | otaData =>
      exact .inr ⟨fun hact => (quiet_of_inactive hact (bleOtaOnDataWrite_runs data _ _)).1, [],
        (List.append_nil _).symm, nofun⟩
  | run x => exact .inr ⟨id, _, rfl, hlines _ _ _ _⟩

/-- **The BLE adapter**, over any step: a session is opened in RECOVERY only. -/
theorem ActivationInv.ble_step {fw fw' : Firmware} {ev : FirmwareEv} (h : ActivationInv fw)
    (hs : FirmwareStep E C fw ev fw') (hact' : fw'.ota.ble.active = true) :
    BleOtaInRecovery fw'.trace := by
  rcases hs.bleOta with ⟨link, data, rfl⟩ | ⟨hquiet, new, htrace, hnew⟩
  · simp only [Firmware.onCtrl] at hact' ⊢
    cases hact : fw.ota.ble.active with
    | true => simpa using h.ble hact
    | false =>
      have hmode := (bleOtaOnCtrlWrite_inactive hact).1 hact'
      rw [hact', hmode]
      exact Trace.lastIs_concat trivial ⟨_, rfl⟩
  · cases hact : fw.ota.ble.active with
    | true =>
      rw [htrace]
      exact Trace.LastIs.append (h.ble hact) hnew
    | false => rw [hquiet hact] at hact'; cases hact'

theorem ActivationInv.step {fw : Firmware} (h : ActivationInv fw) (ev : FirmwareEv) :
    ActivationInv (fw.step E C ev) :=
  have hs := fw.step_spec E C ev
  ⟨h.flags.step hs, h.tcp_step hs, h.ble_step hs⟩

/-- **A step to activation** is made by one of those who were let in. -/
theorem ActivationInv.gated {fw : Firmware} (h : ActivationInv fw) (ev : FirmwareEv) :
    ActivationGated E C BleOtaInRecovery fw ev := by
  intro hset
  have hs := fw.step_spec E C ev
  generalize fw.step E C ev = fw' at hs hset
  cases hs with
  | idle | control | accept | connect | run => exact absurd hset (KeepsBoot.refl _).not_setsBoot
  | client i a =>
    unfold Firmware.client at hset
    cases hi : fw.clients[i]? with
    | none =>
      rw [hi] at hset
      exact absurd hset (KeepsBoot.refl _).not_setsBoot
    | some c =>
      rw [hi] at hset
      refine h.tcp i c hi fun hota => absurd hset ?_
      exact (TcpClient.step_keepsBoot hota).not_setsBoot
  | disconnect conn link =>
    cases hact : fw.ota.ble.active with
    | true => exact h.ble hact
    | false =>
      obtain ⟨-, hlog⟩ :=
        quiet_of_inactive hact (bleOtaOnDisconnect_runs (E := E) (C := C) fw.ota fw.log)
      rw [log_onDisconnect, hlog] at hset
      exact absurd hset (KeepsBoot.refl _).not_setsBoot
  | write conn char data link =>
    cases char with
    | rx => exact absurd hset (KeepsBoot.refl _).not_setsBoot
    | wifi =>
      refine absurd hset ?_
      rcases fw.onWrite_wifi E C link data with heq | ⟨line, heq⟩
      all_goals
        rw [heq]
        exact (KeepsBoot.refl _).not_setsBoot
    | otaCtrl =>
      cases hact : fw.ota.ble.active with
      | true => exact h.ble hact
      | false => exact absurd hset (bleOtaOnCtrlWrite_inactive hact).2.not_setsBoot
    | otaData =>
      cases hact : fw.ota.ble.active with
      | true => exact h.ble hact
      | false =>
        obtain ⟨-, hlog⟩ :=
          quiet_of_inactive hact (bleOtaOnDataWrite_runs (E := E) (C := C) data fw.ota fw.log)
        simp only [Firmware.onWrite, hlog] at hset
        exact absurd hset (KeepsBoot.refl _).not_setsBoot

theorem activationInv_boot (cfg : StaCfg) (nvsSsid nvsPwd : Option Bytes) (postRb : Option Nat)
    (nvsToken : Option Bytes) : ActivationInv (.boot cfg nvsSsid nvsPwd postRb nvsToken) :=
  ⟨nofun, nofun, nofun⟩

end

/-- The host uploads an image of two bytes to the lifeboat, and sends nothing else. -/
def lifeboatUpload : List FirmwareEv :=
  lifeboatOpens ++ [.bleConnect 0, .bleWrite 0 .otaCtrl (uploadStart [0xE9, 1])]

end RemoteControl
