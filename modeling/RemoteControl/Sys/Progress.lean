import RemoteControl.Lib.Run
import RemoteControl.Net.Wifi

/-!
# No stranded device

A device without an IP has to have something pending: an armed reconnect timer, a connection
attempt the driver owes the outcome of, or a recovery request; or it is in RECOVERY, where the
lifeboat is up. The handlers do not see to that by themselves. `Control.StepOk` is what each of them
needs of the state it finds and of the platform's answers, and a run never strands the device
exactly when all its steps meet it.
-/

namespace RemoteControl

/-! ## States -/

/-- Something will still act on the device: the reconnect timer, the driver, the worker or the
lifeboat. -/
def Control.Pending (c : Control) : Prop :=
  c.wifi.reconn.isSome = true ∨ c.wifi.attempt = true ∨ c.sys.sysQ ≠ [] ∨ c.worker ≠ .idle ∨
    c.sys.mode = .recovery

/-- The device is not stranded: it is rebooting, has not handled `WIFI_EVENT_STA_START` yet, has
an IP, or something is pending. -/
def Control.Safe (c : Control) : Prop :=
  c.halted = true ∨ c.started = false ∨ c.lastWifi = some true ∨ c.Pending

instance (c : Control) : Decidable c.Pending := inferInstanceAs (Decidable (_ ∨ _))

instance (c : Control) : Decidable c.Safe := inferInstanceAs (Decidable (_ ∨ _))

/-- A failure report asks for recovery: the monitor is not latched and has counted a failure. -/
def Monitor.Escalates (m : Monitor) : Prop := m.done = false ∧ 1 ≤ m.failStreak

/-- What a handler needs, so that it does not strand a device that was not stranded. -/
def Control.EventOk (a : Answers) (c : Control) : ControlEv → Prop
  | .staStart =>
    (a.getConfig = true ∧ c.wifi.cfg.ssid ≠ []) ∨ c.lastWifi = some true ∨ c.Pending ∨
      Reboots a c.sys.postRb c.sys.monitor ∨ c.sys.monitor.Escalates
  | .lostIp =>
    c.started = false ∨ c.Pending ∨
      (isWifiFailure (errsrcGetCode c.errsrc) = false ∧
        if c.sys.mode = .normal then Reboots a c.sys.postRb ⟨false, 0⟩
        else Reboots a c.sys.postRb c.sys.monitor ∨ c.sys.monitor.Escalates)
  | .staStop =>
    c.started = false ∨ c.wifi.reconn.isSome = true ∨ c.sys.sysQ ≠ [] ∨ c.worker ≠ .idle ∨
      c.sys.mode = .recovery
  | .reconnTimer =>
    c.wifi.reconn = none ∨ a.connect = .ok ∨ c.started = false ∨ c.lastWifi = some true ∨
      c.wifi.attempt = true ∨ c.sys.sysQ ≠ [] ∨ c.worker ≠ .idle ∨ c.sys.mode = .recovery
  | .tcpAuth =>
    c.started = false ∨ c.lastWifi = some true ∨ c.wifi.reconn.isSome = true ∨
      c.wifi.attempt = true ∨ c.sys.sysQ ≠ [] ∨ c.worker ≠ .idle
  | .worker =>
    c.worker ≠ .fallbackUp ∨ c.started = false ∨ c.lastWifi = some true ∨
      c.wifi.reconn.isSome = true ∨ c.wifi.attempt = true ∨ c.sys.sysQ ≠ [] ∨
      c.sys.mode = .recovery
  | .staDisconnected _ | .gotIp | .setwifi _ _ | .wifiOther | .tcpTimer | .bleOtaStart => True

/-- What one step needs. -/
def Control.StepOk (c : Control) (i : ControlIn) : Prop :=
  c.halted = true ∨ c.EventOk i.ans i.ev

/-! ## One handler -/

section
variable (a : Answers) (c : Control)

/-- A failure report saves a stranded device when it reboots it or asks for recovery. -/
theorem safe_report_iff {e : ErrSrc} (he : e ≠ .none) :
    (c.report a e).Safe ↔
      c.Safe ∨ Reboots a c.sys.postRb c.sys.monitor ∨ c.sys.monitor.Escalates := by
  rcases Control.report_cases a he c with
    ⟨hd, h⟩ | ⟨hr, h⟩ | ⟨hd, h0, hr, h⟩ | ⟨hd, h1, m, -, h⟩
  · have hnr : ¬ Reboots a c.sys.postRb c.sys.monitor := fun hr => by simp [hr.1] at hd
    have hne : ¬ c.sys.monitor.Escalates := fun he => by simp [he.1] at hd
    simp only [h, hnr, hne, or_false]
  · exact ⟨fun _ => .inr (.inl hr), fun _ => .inl h⟩
  · have hne : ¬ c.sys.monitor.Escalates := fun he => by have := he.2; omega
    rw [h]
    simp only [hr, hne, or_false]
    exact Iff.rfl
  · refine ⟨fun _ => .inr (.inr ⟨hd, h1⟩), fun _ => ?_⟩
    rw [h]
    exact .inr (.inr (.inr (.inr (.inr (.inl (sysQ_enqueueRecovery_ne_nil _))))))

/-- Wi-Fi going down keeps what is pending, and leaves the device to it. -/
theorem safe_wifiDown_iff (hh : c.halted = false) :
    (c.onWifiState a false).Safe ↔ c.started = false ∨ c.Pending := by
  have hmode : (c.onWifiState a false).sys.mode = .recovery ↔ c.sys.mode = .recovery := by
    simp only [Control.onWifiState, mode_wifiDown]
    split <;> simp_all
  have hq : (c.onWifiState a false).sys.sysQ = c.sys.sysQ := by simp [Control.onWifiState]
  unfold Control.Safe Control.Pending
  rw [hmode, hq]
  simp [Control.onWifiState, hh]

/-- `WIFI_EVENT_STA_START` without credentials relies on what is pending or on its report. -/
theorem safe_staStart_iff (hh : c.halted = false) :
    (c.staStart a).Safe ↔ c.EventOk a .staStart := by
  unfold Control.staStart
  by_cases hcreds : a.getConfig = true ∧ c.wifi.cfg.ssid ≠ []
  · refine ⟨fun _ => .inl hcreds, fun _ => ?_⟩
    simp only [if_pos hcreds]
    exact .inr (.inr (.inr (.inl rfl)))
  · simp only [if_neg hcreds]
    rw [safe_report_iff a _ (by decide)]
    simp [Control.Safe, Control.Pending, Control.EventOk, hh, hcreds, or_assoc]

/-- `STA_DISCONNECTED` reboots or arms the reconnect timer. -/
theorem safe_staDisconnected (reason : DisconnectReason) : (c.staDisconnected a reason).Safe := by
  unfold Control.staDisconnected
  dsimp only
  split
  · exact .inl ‹_›
  · exact .inr (.inr (.inr (.inl rfl)))

/-- `GOT_IP` means Wi-Fi is up. -/
theorem safe_gotIp : (c.gotIp a).Safe :=
  .inr (.inr (.inl (by simp [Control.gotIp, Control.report_none, Control.onWifiState])))

/-- What `STA_STOP` leaves: everything pending but the driver. -/
theorem safe_staStop_iff (hh : c.halted = false) :
    (c.staStop a).Safe ↔ c.EventOk a .staStop := by
  refine (safe_wifiDown_iff a { c with wifi := { c.wifi with attempt := false } } hh).trans ?_
  simp [Control.Pending, Control.EventOk]

/-- What the report of a lost IP finds in the monitor: the leave of NORMAL has re-armed it. -/
theorem monitor_wifiDown :
    (c.onWifiState a false).sys.monitor =
        (if c.sys.mode = .normal then ⟨false, 0⟩ else c.sys.monitor) ∧
      (c.onWifiState a false).sys.postRb = c.sys.postRb := by
  by_cases hm : c.sys.mode = .normal
  · simp [Control.onWifiState, syscoordOnWifiState, setMode, hm, healthMonitorStart]
  · simp [Control.onWifiState, syscoordOnWifiState, hm]

/-- `LOST_IP` relies on what is pending or on its report, which some error codes suppress. -/
theorem safe_gotIpLost_iff (hh : c.halted = false) :
    (c.gotIpLost a).Safe ↔ c.EventOk a .lostIp := by
  have hcode : (c.onWifiState a false).errsrc = c.errsrc := rfl
  unfold Control.gotIpLost
  simp only [hcode]
  cases hex : isWifiFailure (errsrcGetCode c.errsrc) with
  | true => simp [safe_wifiDown_iff a c hh, Control.EventOk, hex]
  | false =>
    obtain ⟨hmon, hflag⟩ := monitor_wifiDown a c
    simp only [Bool.false_eq_true, if_false]
    refine (safe_report_iff a _ (by decide)).trans ?_
    refine (or_congr_left (safe_wifiDown_iff a c hh)).trans ?_
    simp only [hmon, hflag, Control.EventOk, hex, true_and, or_assoc]
    by_cases hm : c.sys.mode = .normal
    · simp [hm, Monitor.Escalates]
    · simp [hm]

/-- An expiry of the reconnect timer trades the armed timer for an accepted connect. -/
theorem safe_reconnTimer_iff (hh : c.halted = false) (hs : c.Safe) :
    (c.handle a .reconnTimer).Safe ↔ c.EventOk a .reconnTimer := by
  cases hr : c.wifi.reconn with
  | none => simp [Control.handle, Control.EventOk, hr, hs]
  | some d =>
    cases ha : a.connect <;>
      simp [Control.handle, wifiReconnectTimerCb, Control.EventOk, Control.Safe, Control.Pending,
        hr, ha, hh]

/-- New credentials arm the reconnect timer; a failure to store them changes nothing of the state
they would. -/
theorem safe_setwifi (ssid pwd : Bytes) (hs : c.Safe) : (c.wifiSetCredentials a ssid pwd).Safe := by
  unfold Control.wifiSetCredentials
  split
  · exact hs
  · dsimp only
    split
    · exact hs
    · exact .inr (.inr (.inr (.inl rfl)))

/-- A successful AUTH leaves RECOVERY. -/
theorem safe_tcpAuth_iff (hh : c.halted = false) :
    (c.handle a .tcpAuth).Safe ↔ c.EventOk a .tcpAuth := by
  simp [Control.handle, Control.EventOk, Control.Safe, Control.Pending, hh]

/-- The worker is busy until it has enabled the lifeboat. -/
theorem safe_worker_iff (hh : c.halted = false) (hs : c.Safe) :
    (c.workerStep a).Safe ↔ c.EventOk a .worker := by
  cases hw : c.worker with
  | idle =>
    cases hq : c.sys.sysQ with
    | nil => simp [Control.workerStep, Control.EventOk, hw, hq, hs]
    | cons ev q =>
      cases ev
      simp [Control.workerStep, Control.EventOk, Control.Safe, Control.Pending, hw, hq]
  | modeSet => simp [Control.workerStep, Control.EventOk, Control.Safe, Control.Pending, hw]
  | fallbackUp =>
    simp [Control.workerStep, Control.EventOk, Control.Safe, Control.Pending, hw, hh]

end

/-- **One step.** A step from a device that is not stranded leaves it so exactly when the step
meets its condition. -/
theorem safe_step_iff (c : Control) (i : ControlIn) (hs : c.Safe) :
    (c.step i).Safe ↔ c.StepOk i := by
  unfold Control.step Control.StepOk
  cases hh : c.halted with
  | true => simp [Control.Safe, hh]
  | false =>
    obtain ⟨ev, a⟩ := i
    simp only [Bool.false_eq_true, if_false, false_or]
    cases ev with
    | staStart => exact safe_staStart_iff a c hh
    | staDisconnected reason => exact iff_of_true (safe_staDisconnected a c reason) trivial
    | staStop => exact safe_staStop_iff a c hh
    | wifiOther => exact iff_of_true hs trivial
    | gotIp => exact iff_of_true (safe_gotIp a c) trivial
    | lostIp => exact safe_gotIpLost_iff a c hh
    | reconnTimer => exact safe_reconnTimer_iff a c hh hs
    | tcpTimer =>
      refine iff_of_true ?_ trivial
      unfold Control.handle
      dsimp only
      split <;> exact hs
    | setwifi ssid pwd => exact iff_of_true (safe_setwifi a c ssid pwd hs) trivial
    | tcpAuth => exact safe_tcpAuth_iff a c hh
    | bleOtaStart => exact iff_of_true hs trivial
    | worker => exact safe_worker_iff a c hh hs

/-! ## Runs -/

/-- **No stranded device, exactly when.** From boot, whatever the stored credentials and the boot
flag, a run never strands the device if and only if each of its steps meets its condition. -/
theorem control_safe_iff (cfg : StaCfg) (nvsSsid nvsPwd : Option Bytes) (postRb : Option Nat)
    (is : List ControlIn) :
    Run.Along Control.step (fun c i => (c.step i).Safe) (.boot cfg nvsSsid nvsPwd postRb) is ↔
      Run.Along Control.step Control.StepOk (.boot cfg nvsSsid nvsPwd postRb) is := by
  have hboot : (Control.boot cfg nvsSsid nvsPwd postRb).Safe := .inr (.inl rfl)
  exact Run.along_congr hboot (fun c i hs hok => (safe_step_iff c i hs).2 hok) safe_step_iff is

/-- A boot of the factory image without credentials: the driver starts, nothing is scheduled, and
the timer and the worker have nothing to do. -/
theorem control_stranded_no_creds :
    ¬ (Run.exec Control.step (.boot ⟨[], [], true⟩ none none none)
      [⟨.staStart, .factory⟩, ⟨.reconnTimer, .factory⟩, ⟨.worker, .factory⟩]).Safe := by
  decide

end RemoteControl
