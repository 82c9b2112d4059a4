import RemoteControl.Sys.ErrsrcCode
import RemoteControl.Sys.Syscoord

/-!
# Wi-Fi events and the control plane (`wifi_api.c`, `wifi_backoff.c`, `wifi_event.c`)

The handlers of the Wi-Fi and IP events, the reconnect timer and `wifi_set_credentials`, over the
error source, the monitor and the coordinator; and the control plane they make up: `Control.step`
runs one handler, one timer expiry, one successful TCP AUTH or one of the three steps of
`syscoord_worker`, with the platform's answers to it. Handlers run whole; the worker's bring-up of
the lifeboat is cut into its three calls, so that other handlers fall between them.

Three fields are not in the code. `attempt` is what the Wi-Fi driver owes: it accepted an
`esp_wifi_connect` and has not reported its outcome. `lastWifi` is the argument of the latest
`syscoord_on_wifi_state` call. `halted` says that a rollback rebooted the device, which ends the
run. FreeRTOS takes the timer commands, and the handlers' texts for BLE and the alerts are left out.
-/

namespace RemoteControl

open CString

/-! ## State -/

/-- The station configuration given to the driver. -/
structure StaCfg where
  ssid : Bytes
  password : Bytes
  openAuth : Bool
  deriving DecidableEq, Repr

/-- The Wi-Fi statics, the driver's configuration and the stored credentials. -/
structure Wifi where
  cfg : StaCfg
  nvsSsid : Option Bytes
  nvsPwd : Option Bytes
  /-- `s_reconn_tmr`: the delay in ms it is armed with. -/
  reconn : Option Nat
  retries : Nat
  /-- `s_tcp_start_timer` is pending. -/
  tcpTimer : Bool
  /-- How often `launch_tcp_server` has been called. -/
  tcpLaunches : Nat
  /-- The driver accepted a connect and owes GOT_IP or STA_DISCONNECTED. -/
  attempt : Bool
  deriving DecidableEq, Repr

/-- Where `syscoord_worker` stands: waiting for an event, or after `set_mode(SC_MODE_RECOVERY)`, or
after `ble_fallback_init()`. -/
inductive WorkerPc where
  | idle
  | modeSet
  | fallbackUp
  deriving DecidableEq, Repr

/-- The control plane. -/
structure Control where
  sys : Syscoord
  errsrc : Errsrc
  wifi : Wifi
  worker : WorkerPc
  lastWifi : Option Bool
  /-- `WIFI_EVENT_STA_START` has been handled. -/
  started : Bool
  halted : Bool
  deriving DecidableEq

/-- The control plane after `syscoord_init` and `wifi_start`, with the credentials the NVS holds. -/
def Control.boot (cfg : StaCfg) (nvsSsid nvsPwd : Option Bytes) (postRb : Option Nat) :
    Control where
  sys := syscoordInit postRb
  errsrc := .init
  wifi :=
    { cfg := cfg
      nvsSsid := nvsSsid
      nvsPwd := nvsPwd
      reconn := none
      retries := 0
      tcpTimer := false
      tcpLaunches := 0
      attempt := false }
  worker := .idle
  lastWifi := none
  started := false
  halted := false

/-! ## Back-off (`wifi_backoff.c`) -/

/-- `WIFI_RECONN_BASE_MS`. -/
def wifiReconnBaseMs : Nat := 500

/-- `WIFI_RECONN_MAX_MS`. -/
def wifiReconnMaxMs : Nat := 30000

/-- `WIFI_RECONN_JITTER_PCT`. -/
def wifiReconnJitterPct : Nat := 10

/-- The delay `wifi_backoff_schedule` computes from the retry count and a random number. -/
def reconnDelayMs (retries random : Nat) : Nat :=
  let raw := (wifiReconnBaseMs <<< (if retries < 6 then retries else 6)) % 2 ^ 32
  let capped := if wifiReconnMaxMs < raw then wifiReconnMaxMs else raw
  let span := (capped * wifiReconnJitterPct) % 2 ^ 32 / 100
  if span = 0 then capped
  else
    let off : Int := (random % span : Nat) - (span / 2 : Nat)
    ((capped : Int) + off).toNat

/-- `wifi_backoff_schedule`. -/
def wifiBackoffSchedule (a : Answers) (w : Wifi) : Wifi :=
  { w with reconn := some (reconnDelayMs w.retries a.random), retries := w.retries + 1 }

/-- `wifi_backoff_reset`. -/
def wifiBackoffReset (w : Wifi) : Wifi := { w with retries := 0 }

/-- `wifi_backoff_stop_timer`. -/
def wifiBackoffStopTimer (w : Wifi) : Wifi := { w with reconn := none }

/-- `wifi_reconnect_timer_cb`, run by the expiry of the armed timer. -/
def wifiReconnectTimerCb (a : Answers) (w : Wifi) : Wifi :=
  match a.connect with
  | .ok => { w with reconn := none, attempt := true }
  | .wifiConn | .error => { w with reconn := none }

/-! ## Reports -/

/-- `monitor_on_wifi_error` with `enqueue_recovery` as its callback. A rollback that works reboots;
the manual one has set the boot flag before. -/
def Control.report (a : Answers) (e : ErrSrc) (c : Control) : Control :=
  let (m, v) := monitorOnWifiError a c.sys.postRb e c.sys.monitor
  let sys := { c.sys with monitor := m }
  match v with
  | .quiet | .rollback .returned => { c with sys := sys }
  | .escalate => { c with sys := enqueueRecovery sys }
  | .rollback .official => { c with sys := sys, halted := true }
  | .rollback (.manual _) =>
    { c with
      sys := { sys with postRb := bootflagSetPostRollback a true sys.postRb }
      halted := true }

/-- `syscoord_on_wifi_state`. -/
def Control.onWifiState (a : Answers) (up : Bool) (c : Control) : Control :=
  { c with sys := syscoordOnWifiState a up c.sys, lastWifi := some up }

/-! ## Event handlers (`wifi_event.c`) -/

/-- The disconnect reasons `wifi_evt` tells apart. -/
inductive DisconnectReason where
  | authExpire
  | authFail
  | noApFound
  | handshakeTimeout
  | assocExpire
  | beaconTimeout
  | other
  deriving DecidableEq, Repr

/-- The error a disconnect reason is reported as. -/
def DisconnectReason.toErrSrc : DisconnectReason → ErrSrc
  | .authExpire => .authExpire
  | .authFail => .authFail
  | .noApFound => .noAp
  | .handshakeTimeout => .fourWayTimeout
  | .assocExpire => .assocExpire
  | .beaconTimeout => .beaconTo
  | .other => .disconnected

/-- `got_ip`. -/
def Control.gotIp (a : Answers) (c : Control) : Control :=
  let c := c.onWifiState a true
  let c := { c with errsrc := errsrcSet c.errsrc none }
  let c := c.report a .none
  let w := wifiBackoffStopTimer (wifiBackoffReset c.wifi)
  { c with wifi := { w with attempt := false, tcpTimer := true } }

/-- The codes after which `got_ip_lost` does not report the loss again. -/
def isWifiFailure (e : ErrSrc) : Bool :=
  e = .noAp ∨ e = .authFail ∨ e = .assocExpire ∨ e = .fourWayTimeout ∨ e = .beaconTo

/-- `got_ip_lost`. -/
def Control.gotIpLost (a : Answers) (c : Control) : Control :=
  let c := c.onWifiState a false
  if isWifiFailure (errsrcGetCode c.errsrc) then c
  else { c with errsrc := errsrcSetEnum c.errsrc .ipLost }.report a .ipLost

/-- `wifi_evt` for `WIFI_EVENT_STA_START`. -/
def Control.staStart (a : Answers) (c : Control) : Control :=
  let c := { c with started := true }
  if a.getConfig ∧ c.wifi.cfg.ssid ≠ [] then
    { c with
      errsrc := errsrcSet c.errsrc (some (lit "SCANNING"))
      wifi := wifiBackoffSchedule a c.wifi }
  else { c with errsrc := errsrcSetEnum c.errsrc .noCreds }.report a .noCreds

/-- `wifi_evt` for `WIFI_EVENT_STA_DISCONNECTED`. -/
def Control.staDisconnected (a : Answers) (reason : DisconnectReason) (c : Control) : Control :=
  let c := { c with wifi := { c.wifi with attempt := false, tcpTimer := false } }
  let c := c.onWifiState a false
  let err := reason.toErrSrc
  let c := { c with errsrc := errsrcSetEnum c.errsrc err }.report a err
  if c.halted then c else { c with wifi := wifiBackoffSchedule a c.wifi }

/-- `wifi_evt` for `WIFI_EVENT_STA_STOP`; a stopped driver owes nothing. -/
def Control.staStop (a : Answers) (c : Control) : Control :=
  { c with wifi := { c.wifi with attempt := false } }.onWifiState a false

/-! ## Credentials (`wifi_api.c`) -/

/-- The `sta_cfg` made of a pair of credentials. -/
def staCfgOf (ssid pwd : Bytes) : StaCfg := ⟨ssid.take 31, pwd.take 63, pwd = []⟩

/-- `wifi_set_credentials`. A stored string is durable at once. -/
def Control.wifiSetCredentials (a : Answers) (ssid pwd : Bytes) (c : Control) : Control :=
  if !a.credOpen then c
  else
    let w := { c.wifi with
      nvsSsid := if a.credSsid then some ssid else c.wifi.nvsSsid
      nvsPwd := if a.credPwd then some pwd else c.wifi.nvsPwd }
    if !(a.credSsid && a.credPwd && a.credCommit) then { c with wifi := w }
    else
      let w := wifiBackoffReset (wifiBackoffStopTimer { w with cfg := staCfgOf ssid pwd })
      { c with
        errsrc := errsrcSet c.errsrc (some (lit "TRYING"))
        wifi := wifiBackoffSchedule a w }

/-! ## The worker (`sys_policy.c`) -/

/-- One step of `syscoord_worker`: receive a request and switch the mode, bring the fallback up, or
enable the lifeboat. Nothing while the queue is empty. -/
def Control.workerStep (a : Answers) (c : Control) : Control :=
  match c.worker with
  | .idle =>
    match c.sys.sysQ with
    | [] => c
    | .enterRecovery :: q =>
      { c with sys := setMode a .recovery { c.sys with sysQ := q }, worker := .modeSet }
  | .modeSet =>
    { c with
      sys := { c.sys with fallback := bleFallbackInit c.sys.fallback }
      worker := .fallbackUp }
  | .fallbackUp =>
    { c with sys := { c.sys with fallback := bleLifeboatSet true c.sys.fallback }, worker := .idle }

/-! ## The machine -/

/-- What happens to the control plane. `tcpAuth` is a `cmd_auth` on a TCP connection whose token
matches; `bleOtaStart` is an accepted BLE-OTA START, which latches the monitor. -/
inductive ControlEv where
  | staStart
  | staDisconnected (reason : DisconnectReason)
  | staStop
  | wifiOther
  | gotIp
  | lostIp
  | reconnTimer
  | tcpTimer
  | setwifi (ssid pwd : Bytes)
  | tcpAuth
  | bleOtaStart
  | worker
  deriving DecidableEq, Repr

/-- An event with the platform's answers to its handler. -/
structure ControlIn where
  ev : ControlEv
  ans : Answers

/-- The handler of an event. -/
def Control.handle (a : Answers) (c : Control) : ControlEv → Control
  | .staStart => c.staStart a
  | .staDisconnected reason => c.staDisconnected a reason
  | .staStop => c.staStop a
  | .wifiOther => c
  | .gotIp => c.gotIp a
  | .lostIp => c.gotIpLost a
  | .reconnTimer =>
    if c.wifi.reconn.isSome then { c with wifi := wifiReconnectTimerCb a c.wifi } else c
  | .tcpTimer =>
    if c.wifi.tcpTimer then
      { c with wifi := { c.wifi with tcpTimer := false, tcpLaunches := c.wifi.tcpLaunches + 1 } }
    else c
  | .setwifi ssid pwd => c.wifiSetCredentials a ssid pwd
  | .tcpAuth => { c with sys := tcpAuthOk a c.sys }
  | .bleOtaStart => { c with sys := { c.sys with monitor := healthMonitorControlOk c.sys.monitor } }
  | .worker => c.workerStep a

/-- One step of the control plane; after a reboot nothing happens any more. -/
def Control.step (c : Control) (i : ControlIn) : Control :=
  if c.halted then c else c.handle i.ans i.ev

/-! ## What a report changes -/

/-- A report of an error, case by case: ignored by a latched monitor; a reboot; the counted first
failure; or the request for recovery. -/
theorem Control.report_cases (a : Answers) {e : ErrSrc} (he : e ≠ .none) (c : Control) :
    (c.sys.monitor.done = true ∧ c.report a e = c) ∨
    (Reboots a c.sys.postRb c.sys.monitor ∧ (c.report a e).halted = true) ∨
    (c.sys.monitor.done = false ∧ c.sys.monitor.failStreak = 0 ∧
      ¬ Reboots a c.sys.postRb c.sys.monitor ∧
      c.report a e = { c with sys := { c.sys with monitor := ⟨false, 1⟩ } }) ∨
    (c.sys.monitor.done = false ∧ 1 ≤ c.sys.monitor.failStreak ∧ ∃ m : Monitor, m.done = true ∧
      c.report a e = { c with sys := enqueueRecovery { c.sys with monitor := m } }) := by
  rcases monitorOnWifiError_cases a c.sys.postRb he c.sys.monitor with
    ⟨hd, h⟩ | ⟨hr, how, hhow, h⟩ | ⟨hd, h0, hr, hm, h⟩ | ⟨hd, h1, hm, h⟩
  · exact .inl ⟨hd, by simp only [Control.report, h]⟩
  · refine .inr (.inl ⟨hr, ?_⟩)
    simp only [Control.report, h]
    cases how with
    | official => rfl
    | manual t => rfl
    | returned => exact absurd rfl hhow
  · refine .inr (.inr (.inl ⟨hd, h0, hr, ?_⟩))
    rcases h with h | h <;> simp only [Control.report, h, hm]
  · exact .inr (.inr (.inr ⟨hd, h1, _, hm, by simp only [Control.report, h]⟩))

/-- Clearing the error only touches the failure streak. -/
theorem Control.report_none (a : Answers) (c : Control) :
    c.report a .none =
      { c with sys := { c.sys with monitor :=
        if c.sys.monitor.done then c.sys.monitor
        else { c.sys.monitor with failStreak := 0 } } } := by
  unfold Control.report monitorOnWifiError
  cases hd : c.sys.monitor.done <;> simp [hd]

/-- A report changes the coordinator, and may reboot. -/
theorem Control.report_frame (a : Answers) (e : ErrSrc) (c : Control) :
    c.report a e = { c with sys := (c.report a e).sys, halted := (c.report a e).halted } := by
  unfold Control.report
  dsimp only
  split <;> rfl

@[simp] theorem Control.errsrc_report (a : Answers) (e : ErrSrc) (c : Control) :
    (c.report a e).errsrc = c.errsrc := by
  rw [Control.report_frame]

/-! ## The error source -/

/-- `got_ip_lost` in a Wi-Fi failure that it knows. -/
theorem Control.gotIpLost_of_failure (a : Answers) {c : Control}
    (h : isWifiFailure (errsrcGetCode c.errsrc) = true) :
    c.gotIpLost a = c.onWifiState a false :=
  if_pos h

/-- What `got_ip_lost` makes of the error source otherwise. -/
theorem Control.errsrc_gotIpLost (a : Answers) {c : Control}
    (h : isWifiFailure (errsrcGetCode c.errsrc) = false) :
    (c.gotIpLost a).errsrc = errsrcSetEnum c.errsrc .ipLost := by
  have hno : ¬ isWifiFailure (errsrcGetCode (c.onWifiState a false).errsrc) = true := by
    rw [Bool.not_eq_true]
    exact h
  rw [Control.gotIpLost, if_neg hno, Control.errsrc_report]
  rfl

/-- The call on the error source that an event's handler makes. -/
def Control.errsrcCall (a : Answers) (c : Control) : ControlEv → Option ErrsrcCall
  | .staStart =>
    some (if a.getConfig ∧ c.wifi.cfg.ssid ≠ [] then .set (some (lit "SCANNING"))
      else .setEnum .noCreds)
  | .staDisconnected reason => some (.setEnum reason.toErrSrc)
  | .gotIp => some (.set none)
  | .lostIp => if isWifiFailure (errsrcGetCode c.errsrc) then none else some (.setEnum .ipLost)
  | .setwifi _ _ =>
    if a.credOpen && (a.credSsid && a.credPwd && a.credCommit) then
      some (.set (some (lit "TRYING")))
    else none
  | .staStop | .wifiOther | .reconnTimer | .tcpTimer | .tcpAuth | .bleOtaStart | .worker => none

/-- A handler changes the error source by that call only. -/
theorem Control.errsrc_handle (a : Answers) (c : Control) (ev : ControlEv) :
    (c.handle a ev).errsrc = ((c.errsrcCall a ev).map c.errsrc.call).getD c.errsrc := by
  cases ev with
  | staStart =>
    simp only [Control.handle, Control.staStart, Control.errsrcCall]
    split
    · rfl
    · rw [Control.errsrc_report]
      rfl
  | staDisconnected reason =>
    simp only [Control.handle, Control.staDisconnected]
    split <;> rw [Control.errsrc_report] <;> rfl
  | gotIp =>
    simp only [Control.handle, Control.gotIp, Control.errsrc_report]
    rfl
  | lostIp =>
    rw [Control.handle, Control.errsrcCall]
    cases hcode : isWifiFailure (errsrcGetCode c.errsrc)
    · rw [Control.errsrc_gotIpLost a hcode]
      rfl
    · rw [Control.gotIpLost_of_failure a hcode]
      rfl
  | setwifi ssid pwd =>
    simp only [Control.handle, Control.wifiSetCredentials, Control.errsrcCall]
    cases a.credOpen
    · rfl
    · cases a.credSsid && a.credPwd && a.credCommit <;> rfl
  | worker =>
    simp only [Control.handle, Control.workerStep]
    split
    · split <;> rfl
    · rfl
    · rfl
  | reconnTimer =>
    simp only [Control.handle]
    split <;> rfl
  | tcpTimer =>
    simp only [Control.handle]
    split <;> rfl
  | staStop | wifiOther | tcpAuth | bleOtaStart => rfl

/-- The code and the string agree in the control plane. -/
theorem Control.codeFits_step {c : Control} (h : CodeFits c.errsrc) (i : ControlIn) :
    CodeFits (c.step i).errsrc := by
  unfold Control.step
  split
  · exact h
  · rw [Control.errsrc_handle]
    cases c.errsrcCall i.ans i.ev with
    | none => exact h
    | some call => exact (h.call call).1

/-- The handlers set names of `errTexts`, or by code. -/
theorem Control.errsrcCall_cases {a : Answers} {c : Control} {ev : ControlEv} {call : ErrsrcCall}
    (h : c.errsrcCall a ev = some call) :
    (∃ s, call = .set s ∧ ∀ t ∈ s, t ∈ errTexts) ∨ ∃ e, call = .setEnum e := by
  cases ev with
  | staStart =>
    rw [Control.errsrcCall, Option.some.injEq] at h
    split at h
    · exact .inl ⟨_, h.symm, by rintro t ⟨⟩; decide⟩
    · exact .inr ⟨_, h.symm⟩
  | staDisconnected reason => exact .inr ⟨_, (Option.some.inj h).symm⟩
  | gotIp => exact .inl ⟨_, (Option.some.inj h).symm, nofun⟩
  | lostIp =>
    rw [Control.errsrcCall] at h
    split at h
    · cases h
    · exact .inr ⟨_, (Option.some.inj h).symm⟩
  | setwifi ssid pwd =>
    rw [Control.errsrcCall] at h
    split at h
    · exact .inl ⟨_, (Option.some.inj h).symm, by rintro t ⟨⟩; decide⟩
    · cases h
  | staStop | wifiOther | reconnTimer | tcpTimer | tcpAuth | bleOtaStart | worker => cases h

/-- The string of the error source is one of `errTexts` in every run of the control plane. -/
theorem Control.step_mem_errTexts {c : Control} (i : ControlIn) (h : c.errsrc.err ∈ errTexts) :
    (c.step i).errsrc.err ∈ errTexts := by
  unfold Control.step
  split
  · exact h
  · rw [Control.errsrc_handle]
    cases hcall : c.errsrcCall i.ans i.ev with
    | none => exact h
    | some call =>
      rcases Control.errsrcCall_cases hcall with ⟨s, rfl, hs⟩ | ⟨e, rfl⟩
      · exact errsrcSet_mem_errTexts h hs
      · exact errsrcSetEnum_mem_errTexts e h

end RemoteControl
