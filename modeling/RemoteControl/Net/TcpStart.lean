import RemoteControl.Lib.Run
import RemoteControl.Net.Wifi

/-!
# The delayed start of the TCP server (`wifi_api.c`, `wifi_event.c`)

`got_ip` arms a one-shot timer, `wifi_evt` cancels it on a disconnect, and its expiry, on the timer
task, launches the server. `TcpStart` cuts the two handlers at their calls of `esp_timer`, so that
an expiry falls between any two of them; a handler that nothing falls into does to the timer what
the control plane's handler does (`Control.tcpStart_handle`).

The handlers check before they act, and an `ESP_ERROR_CHECK` on the call aborts the device. That is
safe in `got_ip`, as nobody else arms the timer, but `esp_timer_stop` finds a timer that has expired
since the check (`tcpStart_iff`). And an expired timer is no longer active, which is all `got_ip`
looks at, so the server is launched again after a later one (`tcp_launched_once_iff`).
-/

namespace RemoteControl

/-! ## The timer and the handlers' calls -/

/-- Where the event task stands: outside the two handlers, or before one of their calls on the
timer; or an `ESP_ERROR_CHECK` has failed. -/
inductive TcpTimerPc where
  | idle
  /-- `got_ip`, at `wifi_tcp_timer_is_active`. -/
  | gotIp
  /-- `wifi_tcp_timer_schedule_us`, at `esp_timer_start_once`. -/
  | schedule
  /-- `wifi_evt`, at `wifi_tcp_timer_is_active`. -/
  | disconnected
  /-- `wifi_tcp_timer_stop_if_active`, at `esp_timer_is_active`. -/
  | stopIfActive
  /-- `wifi_tcp_timer_stop_if_active`, at `esp_timer_stop`. -/
  | stop
  | aborted
  deriving DecidableEq, Repr

/-- The timer, the event task, and how often `launch_tcp_server` has been called. -/
structure TcpStart where
  armed : Bool
  pc : TcpTimerPc
  launches : Nat
  deriving DecidableEq, Repr

/-- After `wifi_start`, which creates the timer. -/
def TcpStart.boot : TcpStart := ⟨false, .idle, 0⟩

/-- `esp_timer_start_once`: what it returns, and whether the timer is armed then. -/
def espTimerStartOnce (armed : Bool) : EspErr × Bool :=
  if armed then (.invalidState, armed) else (.ok, true)

/-- `esp_timer_stop`. -/
def espTimerStop (armed : Bool) : EspErr × Bool :=
  if armed then (.ok, false) else (.invalidState, armed)

/-- `ESP_ERROR_CHECK` of the last call of a handler. -/
def TcpStart.errorCheck (t : TcpStart) (r : EspErr × Bool) : TcpStart :=
  if r.1 = .ok then { t with armed := r.2, pc := .idle } else { t with pc := .aborted }

/-- The call the event task stands at. -/
def TcpStart.call (t : TcpStart) : TcpStart :=
  match t.pc with
  | .idle | .aborted => t
  | .gotIp => { t with pc := if t.armed then .idle else .schedule }
  | .schedule => t.errorCheck (espTimerStartOnce t.armed)
  | .disconnected => { t with pc := if t.armed then .stopIfActive else .idle }
  | .stopIfActive => { t with pc := if t.armed then .stop else .idle }
  | .stop => t.errorCheck (espTimerStop t.armed)

/-- What happens: an event is handed to its handler, the handler makes its next call, or the timer
expires. -/
inductive TcpStartEv where
  | gotIp
  | disconnected
  | call
  | expire
  deriving DecidableEq, Repr

/-- One step. The event task takes an event when it has returned from the last one, and an expiry
needs an armed timer and a device that runs. -/
def TcpStart.step (t : TcpStart) : TcpStartEv → TcpStart
  | .gotIp => if t.pc = .idle then { t with pc := .gotIp } else t
  | .disconnected => if t.pc = .idle then { t with pc := .disconnected } else t
  | .call => t.call
  | .expire =>
    if t.armed ∧ t.pc ≠ .aborted then { t with armed := false, launches := t.launches + 1 } else t

/-! ## The control plane's handlers -/

/-- `wifi_tcp_timer_is_active`. -/
def wifiTcpTimerIsActive (w : Wifi) : Bool := w.tcpTimer

/-- The timer in the control plane, whose handlers run whole. -/
def Control.tcpStart (c : Control) : TcpStart := ⟨c.wifi.tcpTimer, .idle, c.wifi.tcpLaunches⟩

/-- A handler with its calls on the timer, and nothing between them. -/
def ControlEv.timerCalls : ControlEv → List TcpStartEv
  | .gotIp => [.gotIp, .call, .call]
  | .staDisconnected _ => [.disconnected, .call, .call, .call]
  | .tcpTimer => [.expire]
  | .staStart | .staStop | .wifiOther | .lostIp | .reconnTimer | .setwifi _ _ | .tcpAuth
  | .bleOtaStart | .worker => []

@[simp] theorem Control.tcpStart_report (a : Answers) (e : ErrSrc) (c : Control) :
    (c.report a e).tcpStart = c.tcpStart := by
  rw [Control.report_frame]
  rfl

/-- `got_ip` leaves the timer armed, whether it was or not. -/
theorem exec_gotIp (t : TcpStart) (h : t.pc = .idle) :
    Run.exec TcpStart.step t [.gotIp, .call, .call] = { t with armed := true } := by
  obtain ⟨armed, pc, launches⟩ := t
  cases h
  cases armed <;> rfl

/-- `wifi_evt` leaves it unarmed on a disconnect. -/
theorem exec_disconnected (t : TcpStart) (h : t.pc = .idle) :
    Run.exec TcpStart.step t [.disconnected, .call, .call, .call] = { t with armed := false } := by
  obtain ⟨armed, pc, launches⟩ := t
  cases h
  cases armed <;> rfl

/-- **A handler of the control plane does its calls on the timer.** -/
theorem Control.tcpStart_handle (a : Answers) (c : Control) (ev : ControlEv) :
    (c.handle a ev).tcpStart = Run.exec TcpStart.step c.tcpStart ev.timerCalls := by
  cases ev with
  | gotIp =>
    rw [ControlEv.timerCalls, exec_gotIp _ rfl]
    simp only [Control.handle, Control.gotIp]
    have hreport := Control.tcpStart_report a .none
      { c.onWifiState a true with errsrc := errsrcSet (c.onWifiState a true).errsrc none }
    exact congrArg (fun t : TcpStart => { t with armed := true }) hreport
  | staDisconnected reason =>
    rw [ControlEv.timerCalls, exec_disconnected _ rfl]
    simp only [Control.handle, Control.staDisconnected]
    split
    · exact Control.tcpStart_report ..
    · exact Control.tcpStart_report ..
  | tcpTimer =>
    rw [ControlEv.timerCalls, Run.exec_cons, Run.exec_nil]
    cases htimer : c.wifi.tcpTimer <;>
      simp [Control.handle, TcpStart.step, Control.tcpStart, htimer]
  | staStart =>
    simp only [Control.handle, Control.staStart]
    split
    · rfl
    · exact Control.tcpStart_report ..
  | lostIp =>
    simp only [Control.handle, Control.gotIpLost]
    split
    · rfl
    · exact Control.tcpStart_report ..
  | setwifi ssid pwd =>
    simp only [Control.handle, Control.wifiSetCredentials]
    split
    · rfl
    · split <;> rfl
  | worker =>
    simp only [Control.handle, Control.workerStep]
    split
    · split <;> rfl
    · rfl
    · rfl
  | reconnTimer =>
    simp only [Control.handle, wifiReconnectTimerCb]
    split
    · split <;> rfl
    · rfl
  | staStop | wifiOther | tcpAuth | bleOtaStart => rfl

/-! ## Aborts -/

/-- The timer does not expire between the check in `wifi_tcp_timer_stop_if_active` and the call of
`esp_timer_stop` behind it. -/
def TcpStart.CheckHolds (t : TcpStart) (e : TcpStartEv) : Prop :=
  ¬ (e = .expire ∧ t.pc = .stop)

/-- The handler's check still holds where it acts. -/
structure TcpStart.Safe (t : TcpStart) : Prop where
  runs : t.pc ≠ .aborted
  schedule : t.pc = .schedule → t.armed = false
  stop : t.pc = .stop → t.armed = true

/-- The next call aborts, or one has. -/
def TcpStart.Doomed (t : TcpStart) : Prop :=
  t.pc = .aborted ∨ t.pc = .stop ∧ t.armed = false

/-- A call whose check holds passes, and leaves the handler at one whose check holds. -/
theorem TcpStart.Safe.call {t : TcpStart} (h : t.Safe) : t.call.Safe := by
  obtain ⟨armed, pc, launches⟩ := t
  obtain ⟨hruns, hsched, hstop⟩ := h
  cases pc with
  | idle => exact ⟨hruns, hsched, hstop⟩
  | aborted => exact absurd rfl hruns
  | schedule =>
    cases hsched rfl
    exact ⟨nofun, nofun, nofun⟩
  | stop =>
    cases hstop rfl
    exact ⟨nofun, nofun, nofun⟩
  | gotIp | disconnected | stopIfActive =>
    cases armed <;> refine ⟨?_, ?_, ?_⟩ <;> simp [TcpStart.call]

/-- A step keeps the check, unless the timer expires behind it. -/
theorem TcpStart.Safe.step {t : TcpStart} (h : t.Safe) {e : TcpStartEv} (hok : t.CheckHolds e) :
    (t.step e).Safe := by
  cases e with
  | gotIp | disconnected =>
    rw [TcpStart.step]
    split
    · exact ⟨nofun, nofun, nofun⟩
    · exact h
  | call => exact h.call
  | expire =>
    rw [TcpStart.step]
    split
    · exact ⟨h.runs, fun _ => rfl, fun hpc => absurd ⟨rfl, hpc⟩ hok⟩
    · exact h

/-- An expiry behind the check dooms the handler. -/
theorem TcpStart.Safe.doomed {t : TcpStart} (h : t.Safe) {e : TcpStartEv}
    (hbad : ¬ t.CheckHolds e) : (t.step e).Doomed := by
  obtain ⟨rfl, hpc⟩ := not_not.mp hbad
  rw [TcpStart.step, if_pos ⟨h.stop hpc, h.runs⟩]
  exact .inr ⟨hpc, rfl⟩

/-- The call that it is about to make aborts. -/
theorem TcpStart.Doomed.call {t : TcpStart} (h : t.Doomed) : t.call.pc = .aborted := by
  obtain ⟨armed, pc, launches⟩ := t
  rcases h with h | ⟨h, harmed⟩
  · cases h
    rfl
  · cases h
    cases harmed
    rfl

/-- Nothing else saves it. -/
theorem TcpStart.Doomed.step {t : TcpStart} (h : t.Doomed) (e : TcpStartEv) :
    (t.step e).Doomed := by
  have hbusy : t.pc ≠ .idle := by
    rcases h with h | ⟨h, -⟩ <;> simp [h]
  cases e with
  | call => exact .inl h.call
  | gotIp | disconnected =>
    rw [TcpStart.step, if_neg hbusy]
    exact h
  | expire =>
    rw [TcpStart.step, if_neg]
    · exact h
    · rintro ⟨harmed, hpc⟩
      rcases h with h | ⟨-, hunarmed⟩
      · exact hpc h
      · exact absurd (hunarmed.symm.trans harmed) (by decide)

/-- **When a check of the timer calls fails.** For every interleaving of the handlers' calls with
expiries: none fails in it, nor in the handler's next call, exactly if the timer never expires
between the check in `wifi_tcp_timer_stop_if_active` and its `esp_timer_stop`. -/
theorem tcpStart_iff (evs : List TcpStartEv) :
    Run.Along TcpStart.step (fun t e => (t.step e).pc ≠ .aborted) .boot (evs ++ [.call]) ↔
      Run.Along TcpStart.step TcpStart.CheckHolds .boot evs := by
  have hboot : TcpStart.boot.Safe := ⟨nofun, nofun, nofun⟩
  rw [Run.along_concat]
  constructor
  · rintro ⟨-, hlast⟩
    by_contra hstale
    have hdoomed : (Run.exec TcpStart.step .boot evs).Doomed :=
      Run.exec_of_not_along hstale hboot (fun t e hs hok => hs.step hok)
        (fun t e hs hbad => hs.doomed hbad) fun t e ht => ht.step e
    exact hlast hdoomed.call
  · intro h
    have hsafe : (Run.exec TcpStart.step .boot evs).Safe :=
      h.exec_inv hboot fun t e hs hok => hs.step hok
    exact ⟨h.mono hboot (fun t e hs hok => hs.step hok) fun t e hs hok => (hs.step hok).runs,
      hsafe.call.runs⟩

/-- A disconnect 800 ms after the address came: the timer expires behind the check. -/
theorem stop_of_expired_aborts :
    ¬ Run.Along TcpStart.step (fun t e => (t.step e).pc ≠ .aborted) .boot
      [.gotIp, .call, .call, .disconnected, .call, .call, .expire, .call] := by
  rintro ⟨-, -, -, -, -, -, -, hlast, -⟩
  exact hlast rfl

/-! ## Launches -/

/-- `launch_tcp_server` has been called at most once after the step, and a `got_ip` that is handled
after a launch takes the branch for a server that has been started. -/
def Control.LaunchedOnce (c : Control) (i : ControlIn) : Prop :=
  (c.step i).wifi.tcpLaunches ≤ 1 ∧
    (c.halted = false → i.ev = .gotIp → 0 < c.wifi.tcpLaunches →
      wifiTcpTimerIsActive c.wifi = true)

/-- GOT_IP is handled only before the first launch. -/
def Control.GotIpBeforeLaunch (c : Control) (i : ControlIn) : Prop :=
  c.halted = false → i.ev = .gotIp → c.wifi.tcpLaunches = 0

/-- There has been at most one launch, and after it the timer is not armed. -/
structure TcpStart.FirstLaunch (t : TcpStart) : Prop where
  once : t.launches ≤ 1
  unarmed : 0 < t.launches → t.armed = false

/-- A step that handles a GOT_IP only before the launch launches once. -/
theorem Control.firstLaunch_step {c : Control} (h : c.tcpStart.FirstLaunch) {i : ControlIn}
    (hok : c.GotIpBeforeLaunch i) : (c.step i).tcpStart.FirstLaunch := by
  unfold Control.step
  split
  · exact h
  · next hruns =>
    rw [Control.tcpStart_handle]
    obtain ⟨ev, a⟩ := i
    cases ev with
    | gotIp =>
      have hnone : c.tcpStart.launches = 0 := hok (by simpa using hruns) rfl
      rw [ControlEv.timerCalls, exec_gotIp _ rfl]
      exact ⟨h.once, fun hpos => absurd hnone (Nat.ne_of_gt hpos)⟩
    | staDisconnected reason =>
      rw [ControlEv.timerCalls, exec_disconnected _ rfl]
      exact ⟨h.once, fun _ => rfl⟩
    | tcpTimer =>
      rw [ControlEv.timerCalls, Run.exec_cons, Run.exec_nil, TcpStart.step]
      split
      · next harmed =>
        have hnone : c.tcpStart.launches = 0 := by
          by_contra hpos
          have hunarmed := h.unarmed (Nat.pos_of_ne_zero hpos)
          exact absurd (hunarmed.symm.trans harmed.1) (by decide)
        exact ⟨Nat.le_of_eq (congrArg (· + 1) hnone), fun _ => rfl⟩
      · exact h
    | staStart | staStop | wifiOther | lostIp | reconnTimer | setwifi | tcpAuth | bleOtaStart
    | worker => exact h

/-- **When the TCP server is launched once.** In every run of the control plane: the server is
launched at most once and every later GOT_IP finds it started, exactly if no GOT_IP is handled
after the launch. -/
theorem tcp_launched_once_iff (cfg : StaCfg) (nvsSsid nvsPwd : Option Bytes)
    (postRb : Option Nat) (is : List ControlIn) :
    Run.Along Control.step Control.LaunchedOnce (.boot cfg nvsSsid nvsPwd postRb) is ↔
      Run.Along Control.step Control.GotIpBeforeLaunch (.boot cfg nvsSsid nvsPwd postRb) is := by
  have hboot : (Control.boot cfg nvsSsid nvsPwd postRb).tcpStart.FirstLaunch :=
    ⟨Nat.zero_le 1, fun h => absurd h (Nat.lt_irrefl 0)⟩
  refine @Run.along_congr _ _ Control.step Control.GotIpBeforeLaunch Control.LaunchedOnce
    (·.tcpStart.FirstLaunch) _ hboot (fun c i h hok => Control.firstLaunch_step h hok) ?_ is
  intro c i h
  constructor
  · rintro ⟨-, hactive⟩ hruns hev
    by_contra hpos
    have hlater : 0 < c.wifi.tcpLaunches := Nat.pos_of_ne_zero hpos
    have hunarmed : c.wifi.tcpTimer = false := h.unarmed hlater
    exact absurd (hunarmed.symm.trans (hactive hruns hev hlater)) (by decide)
  · intro hok
    refine ⟨(Control.firstLaunch_step h hok).once, ?_⟩
    intro hruns hev hlater
    exact absurd (hok hruns hev) (Nat.ne_of_gt hlater)

/-- An address that is lost and comes back: the server is launched twice. -/
theorem tcp_launched_twice :
    ¬ (Run.exec Control.step (.boot ⟨[104], [], true⟩ none none none)
      [⟨.gotIp, .factory⟩, ⟨.tcpTimer, .factory⟩, ⟨.lostIp, .factory⟩, ⟨.gotIp, .factory⟩,
        ⟨.tcpTimer, .factory⟩]).wifi.tcpLaunches ≤ 1 := by
  decide +kernel

end RemoteControl
