import RemoteControl.Sys.Firmware

/-!
# Control that is not proven is watched

In WAIT_CONTROL someone has to notice that nobody takes control: the health monitor is armed, or it
has fired and its recovery request is queued. In NORMAL the monitor is at rest and an AUTH over TCP
stands. The latch, the streak, the mode, the flag and the queue belong to four modules, so the
invariant is one of the whole device: only the BLE adapter rests the monitor without an AUTH, and
that in RECOVERY.
-/

namespace RemoteControl

/-! ## The invariant -/

/-- Unproven control is watched, and NORMAL is proven. -/
structure Watched (s : Syscoord) : Prop where
  waiting : s.mode = .waitControl → s.monitor.done = false ∨ .enterRecovery ∈ s.sysQ
  normal : s.mode = .normal → s.monitor.done = true ∧ s.tcpAuthed = true

/-- An event is in a queue that is not empty. -/
theorem enterRecovery_mem {q : List SysEvt} (h : q ≠ []) : .enterRecovery ∈ q := by
  cases q with
  | nil => exact absurd rfl h
  | cons e q => cases e; exact List.mem_cons_self

theorem watched_syscoordInit (postRb : Option Nat) : Watched (syscoordInit postRb) := by
  constructor
  · intro _
    exact .inl rfl
  · intro hm
    simp [syscoordInit] at hm

/-- The invariant reads the mode, the latch, the flag and the queue. -/
theorem Watched.frame {s s' : Syscoord} (h : Watched s) (hm : s'.mode = s.mode)
    (hd : s'.monitor.done = s.monitor.done) (ht : s'.tcpAuthed = s.tcpAuthed)
    (hq : s'.sysQ = s.sysQ) : Watched s' := by
  constructor
  · rw [hm, hd, hq]
    exact h.waiting
  · rw [hm, hd, ht]
    exact h.normal

/-- Wi-Fi going down takes the flag with it, and NORMAL, with the monitor armed anew. -/
theorem Watched.wifiState {s : Syscoord} (h : Watched s) (a : Answers) (up : Bool) :
    Watched (syscoordOnWifiState a up s) := by
  cases up with
  | true => exact h
  | false =>
    by_cases hm : s.mode = .normal
    · refine ⟨fun _ => .inl ?_, fun hn => ?_⟩
      · rw [(wifiState_down_of_normal a hm).1]
      · rw [mode_wifiDown, if_pos hm] at hn
        cases hn
    · rw [wifiState_down_of_ne a hm]
      exact ⟨h.waiting, fun hn => absurd hn hm⟩

/-- A report that latches the monitor leaves a request behind. -/
theorem Watched.report {c : Control} (h : Watched c.sys) (a : Answers) (e : ErrSrc) :
    Watched (c.report a e).sys := by
  by_cases he : e = .none
  · rw [he, Control.report_none]
    refine h.frame rfl ?_ rfl rfl
    dsimp only
    split <;> rfl
  · rcases Control.report_cases a he c with
      ⟨-, heq⟩ | ⟨hr, -⟩ | ⟨hd, -, -, heq⟩ | ⟨hd, -, m, -, heq⟩
    · rwa [heq]
    · -- a rollback keeps the mode, and an armed monitor is never one of NORMAL
      have hmode : (c.report a e).sys.mode = c.sys.mode := by
        unfold Control.report
        dsimp only
        split <;> simp
      have hdone : (c.report a e).sys.monitor.done = false := by
        unfold Control.report monitorOnWifiError
        simp only [hr.1, hr.2.1, hr.2.2.1, hr.2.2.2.1, he]
        cases hroll : monitorTryRollbackNow a <;> simp
      refine ⟨fun _ => .inl hdone, fun hn => ?_⟩
      rw [hmode] at hn
      have hdone' := (h.normal hn).1
      rw [hr.1] at hdone'
      cases hdone'
    · rw [heq]
      refine ⟨fun _ => .inl rfl, fun hn => ?_⟩
      rw [(h.normal hn).1] at hd
      cases hd
    · rw [heq]
      refine ⟨fun _ => .inr (enterRecovery_mem (sysQ_enqueueRecovery_ne_nil _)), fun hn => ?_⟩
      rw [mode_enqueueRecovery] at hn
      rw [(h.normal hn).1] at hd
      cases hd

/-- An AUTH proves control, whatever it finds. -/
theorem watched_tcpAuthOk (a : Answers) (s : Syscoord) : Watched (tcpAuthOk a s) := by
  refine ⟨fun hm => by simp at hm, fun _ => ?_⟩
  have hdone : ∀ m, (healthMonitorControlOk m).done = true := by
    intro m
    unfold healthMonitorControlOk
    split
    · assumption
    · rfl
  simp only [tcpAuthOk, syscoordControlPathOk, syscoordMarkTcpAuthed, and_self, if_true, setMode]
  split <;> split <;> exact ⟨hdone _, rfl⟩

/-- The worker takes the request and the mode together, and then brings the lifeboat up. -/
theorem Watched.worker {c : Control} (h : Watched c.sys) (a : Answers) :
    Watched (c.workerStep a).sys := by
  unfold Control.workerStep
  split
  · split
    · exact h
    · refine ⟨fun hm => ?_, fun hm => ?_⟩ <;> simp at hm
  · exact h.frame rfl rfl rfl rfl
  · exact h.frame rfl rfl rfl rfl

/-! ## The handlers -/

section
variable {c : Control} (h : Watched c.sys) (a : Answers)
include h

theorem Watched.gotIp : Watched (c.gotIp a).sys :=
  Watched.report (c := { c.onWifiState a true with errsrc := errsrcSet c.errsrc none })
    (h.wifiState a true) a .none

theorem Watched.gotIpLost : Watched (c.gotIpLost a).sys := by
  have hdown : Watched (c.onWifiState a false).sys := h.wifiState a false
  unfold Control.gotIpLost
  dsimp only
  split
  · exact hdown
  · refine Watched.report ?_ a .ipLost
    exact hdown

theorem Watched.staStart : Watched (c.staStart a).sys := by
  unfold Control.staStart
  dsimp only
  split
  · exact h
  · refine Watched.report ?_ a .noCreds
    exact h

theorem Watched.staDisconnected (reason : DisconnectReason) :
    Watched (c.staDisconnected a reason).sys := by
  have hdown : Watched (c.onWifiState a false).sys := h.wifiState a false
  unfold Control.staDisconnected
  dsimp only
  split <;>
  · refine Watched.report ?_ a reason.toErrSrc
    exact hdown

theorem Watched.setwifi (ssid pwd : Bytes) : Watched (c.wifiSetCredentials a ssid pwd).sys := by
  unfold Control.wifiSetCredentials
  dsimp only
  split
  · exact h
  · split <;> exact h

/-- **Every handler** of the control plane keeps the invariant, but for the monitor's rest at a BLE
START, which looks at no mode. -/
theorem Watched.handle {ev : ControlEv} (hev : ev ≠ .bleOtaStart) :
    Watched (c.handle a ev).sys := by
  cases ev with
  | staStart => exact h.staStart a
  | staDisconnected reason => exact h.staDisconnected a reason
  | staStop => exact h.wifiState a false
  | gotIp => exact h.gotIp a
  | lostIp => exact h.gotIpLost a
  | setwifi ssid pwd => exact h.setwifi a ssid pwd
  | tcpAuth => exact watched_tcpAuthOk a c.sys
  | worker => exact h.worker a
  | bleOtaStart => exact absurd rfl hev
  | wifiOther => exact h
  | reconnTimer | tcpTimer =>
    unfold Control.handle
    dsimp only
    split <;> exact h

end

theorem Watched.step {c : Control} (h : Watched c.sys) {i : ControlIn} (hev : i.ev ≠ .bleOtaStart) :
    Watched (c.step i).sys := by
  unfold Control.step
  split
  · exact h
  · exact h.handle i.ans hev

/-! ## The device -/

/-- What a step of the device does to the control plane: nothing, an event of the control plane
that is no BLE START, a GATT link that comes or goes, or an accepted BLE START, in RECOVERY. -/
inductive ControlChange (s : CmdState) : Control → Prop
  | same : ControlChange s s.control
  | event (i : ControlIn) (hev : i.ev ≠ .bleOtaStart) : ControlChange s (s.control.step i)
  | link (on : Bool) : ControlChange s (s.setFallback (bleSetConnected on)).control
  | bleStart (hmode : s.control.sys.mode = .recovery) :
      ControlChange s (s.setMonitor (healthMonitorControlOk s.control.sys.monitor)).control

/-- What a line does to the control plane is a change of the device. -/
theorem ControlChange.ofLine {s : CmdState} {c : Control}
    (h : c = s.control ∨ ∃ i : ControlIn, (i.ev = .tcpAuth ∨ ∃ ssid pwd, i.ev = .setwifi ssid pwd) ∧
      c = s.control.step i) : ControlChange s c := by
  rcases h with rfl | ⟨i, hev, rfl⟩
  · exact .same
  · refine .event i fun hstart => ?_
    rcases hev with hev | ⟨ssid, pwd, hev⟩ <;> rw [hev] at hstart <;> cases hstart

/-- A CTRL write rests the monitor in RECOVERY only. -/
theorem bleOtaOnCtrlWrite_monitor (E : FlashEnv) (mode : ScMode) (data : Bytes) (m : Monitor)
    (b : BleOta) (log : FlashLog) :
    (bleOtaOnCtrlWrite E mode data m b log).1 = m ∨
      (mode = .recovery ∧
        (bleOtaOnCtrlWrite E mode data m b log).1 = healthMonitorControlOk m) := by
  unfold bleOtaOnCtrlWrite
  split
  · exact .inl rfl
  · dsimp only
    split
    · rcases bleOtaStart_cases E mode (ctrlLine data) m b log with
        ⟨-, answer, -, heq⟩ | ⟨size, crc, hs, e, ble, log', -, heq⟩
      · rw [heq]
        exact .inl rfl
      · rw [heq]
        split
        · exact .inl rfl
        · exact .inr ⟨hs.recovery, rfl⟩
    · split
      · exact .inl rfl
      · split <;> exact .inl rfl

section
variable (E : FlashEnv) (C : Crc32)

/-- **What a step does to the control plane.** -/
theorem Firmware.step_control (fw : Firmware) (ev : FirmwareEv) :
    ControlChange fw.cmd (fw.step E C ev).cmd.control := by
  by_cases hi : ∃ i, ev = .control i
  · obtain ⟨⟨ev, a⟩, rfl⟩ := hi
    unfold Firmware.step
    split
    · exact .same
    · cases ev with
      | tcpAuth | setwifi | bleOtaStart => exact .same
      | _ => exact .event _ nofun
  · have hspec := fw.step_spec E C ev
    generalize fw.step E C ev = fw' at hspec
    cases hspec with
    | idle | accept => exact .same
    | control i => exact absurd ⟨i, rfl⟩ hi
    | client i a =>
      unfold Firmware.client
      split
      · exact .same
      · exact .ofLine (TcpClient.control_step a _ fw.cmd fw.log)
    | connect conn => exact .link true
    | disconnect conn =>
      unfold Firmware.onDisconnect
      dsimp only
      split
      · exact .same
      · exact .link false
    | write conn char data link =>
      cases char with
      | rx | otaData => exact .same
      | wifi =>
        rcases fw.onWrite_wifi E C link data with heq | ⟨line, heq⟩ <;>
        · rw [heq]
          exact .same
      | otaCtrl =>
        simp only [Firmware.onWrite, Firmware.onCtrl]
        rcases bleOtaOnCtrlWrite_monitor E fw.mode data fw.cmd.control.sys.monitor fw.ota
          fw.log with heq | ⟨hmode, heq⟩
        · rw [heq]
          exact .same
        · rw [heq]
          exact .bleStart hmode
    | run x =>
      cases hd : fw.ble.dispatches with
      | none =>
        simp only [Firmware.bleRun, (bleCmdByte_quiet x fw.cmd hd).2]
        exact .same
      | some line =>
        simp only [Firmware.bleRun, (bleCmdByte_dispatch x fw.cmd hd).2]
        exact .ofLine (cmdLine_control x .ble line fw.ble.authed fw.cmd)

/-- Links come and go without the coordinator; a BLE START rests the monitor where it need not
watch. -/
theorem Watched.change {s : CmdState} (h : Watched s.control.sys) {c : Control}
    (hc : ControlChange s c) : Watched c.sys := by
  cases hc with
  | same => exact h
  | event i hev => exact h.step hev
  | link on => exact h.frame rfl rfl rfl rfl
  | bleStart hmode =>
    refine ⟨fun hm => ?_, fun hm => ?_⟩ <;> cases hmode.symm.trans hm

/-- **The monitor is alive while control is unproven.** In every state that the device reaches
after `syscoord_init`: in WAIT_CONTROL the monitor is armed or a recovery request is queued, and in
NORMAL the monitor is at rest and the AUTH flag is set. -/
theorem control_watched (cfg : StaCfg) (nvsSsid nvsPwd : Option Bytes) (postRb : Option Nat)
    (nvsToken : Option Bytes) (evs : List FirmwareEv) :
    Watched (Run.exec (Firmware.step E C)
      (.boot cfg nvsSsid nvsPwd postRb nvsToken) evs).cmd.control.sys := by
  have hstep : ∀ (fw : Firmware) (ev : FirmwareEv), Watched fw.cmd.control.sys →
      Watched (fw.step E C ev).cmd.control.sys :=
    fun fw ev h => h.change (fw.step_control E C ev)
  refine Run.exec_inv ?_ hstep evs
  exact watched_syscoordInit postRb

end

end RemoteControl
