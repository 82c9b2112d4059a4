import RemoteControl.Lib.Run
import RemoteControl.Net.Wifi

/-!
# Recovery requests, the lifeboat and the proof of control

A recovery request waits in the queue while other tasks run, and the worker takes three steps to
serve it. A TCP AUTH does not look at the queue, at the worker or at the Wi-Fi state, so three
properties of the coordinator depend on what an AUTH finds: the lifeboat it switches off may come up
again behind it, it may prove control over a link that is down, and a request made before it may
override it later. Each theorem is about the runs whose AUTHs find a state that rules this out.
-/

namespace RemoteControl

open CString

/-! ## What the handlers do to the coordinator -/

/-- What every handler but AUTH and the worker does to the coordinator: it may append one request,
and it may take NORMAL to WAIT_CONTROL, which hides the lifeboat. -/
structure EventEffect (c c' : Control) : Prop where
  worker : c'.worker = c.worker
  validMarks : c'.sys.validMarks = c.sys.validMarks
  sysQ : c'.sys.sysQ = c.sys.sysQ ∨ c'.sys.sysQ = c.sys.sysQ ++ [.enterRecovery]
  mode :
    (c'.sys.mode = c.sys.mode ∧
      c'.sys.fallback.lifeboatEnabled = c.sys.fallback.lifeboatEnabled ∧
      (c.sys.mode = .normal → c'.lastWifi = c.lastWifi ∨ c'.lastWifi = some true)) ∨
    (c.sys.mode = .normal ∧ c'.sys.mode = .waitControl ∧
      c'.sys.fallback.lifeboatEnabled = false)

theorem EventEffect.refl (c : Control) : EventEffect c c :=
  ⟨rfl, rfl, .inl rfl, .inl ⟨rfl, rfl, fun _ => .inl rfl⟩⟩

/-- The effect does not look at the error source and the Wi-Fi statics. -/
theorem EventEffect.frame {c c₁ c₂ : Control} (h : EventEffect c c₁) (hs : c₂.sys = c₁.sys)
    (hw : c₂.worker = c₁.worker) (hl : c₂.lastWifi = c₁.lastWifi) : EventEffect c c₂ := by
  obtain ⟨h1, h2, h3, h4⟩ := h
  constructor
  · rw [hw, h1]
  · rw [hs, h2]
  · rwa [hs]
  · rwa [hs, hl]

/-- A report at most requests recovery. -/
theorem EventEffect.report {c c₁ : Control} (h : EventEffect c c₁) (hq : c₁.sys.sysQ = c.sys.sysQ)
    (a : Answers) (e : ErrSrc) : EventEffect c (c₁.report a e) := by
  have hrep : (c₁.report a e).worker = c₁.worker ∧
      (c₁.report a e).sys.validMarks = c₁.sys.validMarks ∧
      ((c₁.report a e).sys.sysQ = c₁.sys.sysQ ∨
        (c₁.report a e).sys.sysQ = c₁.sys.sysQ ++ [.enterRecovery]) ∧
      (c₁.report a e).sys.mode = c₁.sys.mode ∧
      (c₁.report a e).sys.fallback = c₁.sys.fallback ∧ (c₁.report a e).lastWifi = c₁.lastWifi := by
    unfold Control.report
    dsimp only
    split
    case h_3 =>
      refine ⟨rfl, ?_, sysQ_enqueueRecovery _, ?_, ?_, rfl⟩ <;> simp
    all_goals exact ⟨rfl, rfl, .inl rfl, rfl, rfl, rfl⟩
  obtain ⟨hw, hv, hq', hm, hl, hup⟩ := hrep
  refine ⟨hw.trans h.worker, hv.trans h.validMarks, hq ▸ hq', ?_⟩
  rw [hm, hl, hup]
  exact h.mode

/-- Wi-Fi going down leaves NORMAL. -/
theorem eventEffect_wifiDown (a : Answers) (c : Control) :
    EventEffect c (c.onWifiState a false) := by
  refine ⟨rfl, by simp [Control.onWifiState], .inl (by simp [Control.onWifiState]), ?_⟩
  by_cases hm : c.sys.mode = .normal
  · refine .inr ⟨hm, ?_, (wifiState_down_of_normal a hm).2⟩
    simp only [Control.onWifiState, mode_wifiDown, if_pos hm]
  · refine .inl ⟨?_, ?_, fun h => absurd h hm⟩ <;>
      simp only [Control.onWifiState, wifiState_down_of_ne a hm]

theorem eventEffect_gotIp (a : Answers) (c : Control) : EventEffect c (c.gotIp a) := by
  simp only [Control.gotIp, Control.report_none]
  exact ⟨rfl, rfl, .inl rfl, .inl ⟨rfl, rfl, fun _ => .inr rfl⟩⟩

theorem eventEffect_gotIpLost (a : Answers) (c : Control) : EventEffect c (c.gotIpLost a) := by
  have hd := eventEffect_wifiDown a c
  unfold Control.gotIpLost
  dsimp only
  split
  · exact hd
  · refine EventEffect.report ?_ ?_ a _
    · exact hd.frame rfl rfl rfl
    · simp [Control.onWifiState]

theorem eventEffect_staStart (a : Answers) (c : Control) : EventEffect c (c.staStart a) := by
  have hr := EventEffect.refl c
  unfold Control.staStart
  dsimp only
  split
  · exact hr.frame rfl rfl rfl
  · refine EventEffect.report ?_ ?_ a _
    · exact hr.frame rfl rfl rfl
    · rfl

theorem eventEffect_staDisconnected (a : Answers) (reason : DisconnectReason) (c : Control) :
    EventEffect c (c.staDisconnected a reason) := by
  have hd : EventEffect c (c.onWifiState a false) := eventEffect_wifiDown a c
  unfold Control.staDisconnected
  dsimp only
  split
  · refine EventEffect.report ?_ ?_ a _
    · exact hd.frame rfl rfl rfl
    · simp [Control.onWifiState]
  · refine EventEffect.frame (EventEffect.report ?_ ?_ a _) rfl rfl rfl
    · exact hd.frame rfl rfl rfl
    · simp [Control.onWifiState]

theorem eventEffect_setwifi (a : Answers) (ssid pwd : Bytes) (c : Control) :
    EventEffect c (c.wifiSetCredentials a ssid pwd) := by
  unfold Control.wifiSetCredentials
  dsimp only
  split
  · exact .refl c
  · split <;> exact (EventEffect.refl c).frame rfl rfl rfl

/-- **What a step does to the coordinator.** It is an AUTH, a step of the worker, or an event with
the effect above. -/
theorem Control.step_cases (c : Control) (i : ControlIn) :
    (i.ev = .tcpAuth ∧ c.halted = false ∧ c.step i = { c with sys := tcpAuthOk i.ans c.sys }) ∨
    (i.ev = .worker ∧ c.halted = false ∧ c.step i = c.workerStep i.ans) ∨
    ((c.halted = false → i.ev ≠ .tcpAuth ∧ i.ev ≠ .worker) ∧ EventEffect c (c.step i)) := by
  unfold Control.step
  rcases Bool.eq_false_or_eq_true c.halted with hh | hh
  · rw [if_pos hh]
    exact .inr (.inr ⟨fun h => by simp [hh] at h, .refl c⟩)
  · rw [if_neg (by simp [hh])]
    obtain ⟨ev, a⟩ := i
    have hr := EventEffect.refl c
    cases ev with
    | tcpAuth => exact .inl ⟨rfl, hh, rfl⟩
    | worker => exact .inr (.inl ⟨rfl, hh, rfl⟩)
    | staStart => exact .inr (.inr ⟨fun _ => ⟨nofun, nofun⟩, eventEffect_staStart a c⟩)
    | staDisconnected reason =>
      exact .inr (.inr ⟨fun _ => ⟨nofun, nofun⟩, eventEffect_staDisconnected a reason c⟩)
    | staStop =>
      exact .inr (.inr ⟨fun _ => ⟨nofun, nofun⟩, (eventEffect_wifiDown a c).frame rfl rfl rfl⟩)
    | wifiOther => exact .inr (.inr ⟨fun _ => ⟨nofun, nofun⟩, hr⟩)
    | gotIp => exact .inr (.inr ⟨fun _ => ⟨nofun, nofun⟩, eventEffect_gotIp a c⟩)
    | lostIp => exact .inr (.inr ⟨fun _ => ⟨nofun, nofun⟩, eventEffect_gotIpLost a c⟩)
    | reconnTimer =>
      refine .inr (.inr ⟨fun _ => ⟨nofun, nofun⟩, ?_⟩)
      unfold Control.handle
      dsimp only
      split
      · exact hr.frame rfl rfl rfl
      · exact hr
    | tcpTimer =>
      refine .inr (.inr ⟨fun _ => ⟨nofun, nofun⟩, ?_⟩)
      unfold Control.handle
      dsimp only
      split
      · exact hr.frame rfl rfl rfl
      · exact hr
    | setwifi ssid pwd =>
      exact .inr (.inr ⟨fun _ => ⟨nofun, nofun⟩, eventEffect_setwifi a ssid pwd c⟩)
    | bleOtaStart =>
      exact .inr (.inr ⟨fun _ => ⟨nofun, nofun⟩, rfl, rfl, .inl rfl,
        .inl ⟨rfl, rfl, fun _ => .inl rfl⟩⟩)

/-- The worker's steps: nothing to do, the switch to RECOVERY, the bring-up, the lifeboat. -/
theorem Control.workerStep_cases (a : Answers) (c : Control) :
    (c.worker = .idle ∧ c.sys.sysQ = [] ∧ c.workerStep a = c) ∨
    (c.worker = .idle ∧ ∃ q, c.sys.sysQ = .enterRecovery :: q ∧
      (c.workerStep a).sys.sysQ = q ∧ (c.workerStep a).worker = .modeSet ∧
      (c.workerStep a).sys.mode = .recovery) ∨
    (c.worker ≠ .idle ∧ (c.workerStep a).sys.mode = c.sys.mode ∧
      (c.workerStep a).sys.sysQ = c.sys.sysQ ∧
      ((c.workerStep a).worker = .idle →
        (c.workerStep a).sys.fallback.lifeboatEnabled = true)) := by
  cases hw : c.worker with
  | idle =>
    cases hq : c.sys.sysQ with
    | nil => exact .inl ⟨rfl, rfl, by simp [Control.workerStep, hw, hq]⟩
    | cons ev q =>
      cases ev
      refine .inr (.inl ⟨rfl, q, rfl, ?_⟩)
      simp [Control.workerStep, hw, hq]
  | modeSet =>
    refine .inr (.inr ⟨?_, by simp [Control.workerStep, hw]⟩)
    intro hidle
    cases hidle
  | fallbackUp =>
    refine .inr (.inr ⟨?_, by simp [Control.workerStep, hw]⟩)
    intro hidle
    cases hidle

/-- The worker does not mark the image and does not see the Wi-Fi state. -/
theorem Control.workerStep_frame (a : Answers) (c : Control) :
    (c.workerStep a).sys.validMarks = c.sys.validMarks ∧
      (c.workerStep a).lastWifi = c.lastWifi ∧
      ((c.workerStep a).sys.mode = c.sys.mode ∨ (c.workerStep a).sys.mode = .recovery) := by
  unfold Control.workerStep
  split
  · split <;> simp
  · simp
  · simp

/-! ## The lifeboat -/

/-- No handler is mid-way and no request is queued. -/
def Control.AtRest (c : Control) : Prop := c.worker = .idle ∧ c.sys.sysQ = []

/-- At rest, the lifeboat is enabled in RECOVERY and nowhere else. -/
def Control.LifeboatFollows (c : Control) : Prop :=
  c.AtRest → (c.sys.fallback.lifeboatEnabled = true ↔ c.sys.mode = .recovery)

/-- An AUTH finds the worker idle, or busy with another request queued. -/
def AuthOffBringUp (c : Control) (i : ControlIn) : Prop :=
  i.ev = .tcpAuth → c.halted = false → c.worker = .idle ∨ c.sys.sysQ ≠ []

instance (c : Control) : Decidable c.LifeboatFollows :=
  inferInstanceAs (Decidable (_ ∧ _ → (_ ↔ _)))

instance (c : Control) (i : ControlIn) : Decidable (AuthOffBringUp c i) :=
  inferInstanceAs (Decidable (_ → _ → _ ∨ _))

/-- The lifeboat follows the mode at rest, and a worker that serves the last request is still in
RECOVERY. -/
structure LifeboatInv (c : Control) : Prop where
  atRest : c.LifeboatFollows
  bringUp : c.worker ≠ .idle → c.sys.sysQ = [] → c.sys.mode = .recovery

theorem LifeboatInv.event {c c' : Control} (h : LifeboatInv c) (he : EventEffect c c') :
    LifeboatInv c' := by
  have hq : c'.sys.sysQ = [] → c.sys.sysQ = [] := by
    rcases he.sysQ with hq | hq <;> simp [hq]
  constructor
  · rintro ⟨hw, hq'⟩
    have hrest := h.atRest ⟨he.worker ▸ hw, hq hq'⟩
    rcases he.mode with ⟨hm, hl, -⟩ | ⟨hm, hm', hl⟩
    · rw [hm, hl]; exact hrest
    · simp [hm', hl]
  · intro hw hq'
    have hrec := h.bringUp (he.worker ▸ hw) (hq hq')
    rcases he.mode with ⟨hm, -, -⟩ | ⟨hm, -, -⟩
    · rw [hm]; exact hrec
    · rw [hm] at hrec; cases hrec

theorem LifeboatInv.tcpAuth {c : Control} (h : LifeboatInv c) (a : Answers)
    (hok : c.worker = .idle ∨ c.sys.sysQ ≠ []) :
    LifeboatInv { c with sys := tcpAuthOk a c.sys } := by
  constructor
  · rintro ⟨hw, hq⟩
    rw [sysQ_tcpAuthOk] at hq
    have hrest := h.atRest ⟨hw, hq⟩
    simp only [mode_tcpAuthOk, reduceCtorEq, iff_false]
    by_cases hm : c.sys.mode = .normal
    · rw [fallback_tcpAuthOk_normal a hm]
      rw [hm] at hrest
      simpa using hrest
    · simp [lifeboat_tcpAuthOk a hm]
  · intro hw hq
    rw [sysQ_tcpAuthOk] at hq
    rcases hok with hidle | hne
    · exact absurd hidle hw
    · exact absurd hq hne

theorem LifeboatInv.worker {c : Control} (h : LifeboatInv c) (a : Answers) :
    LifeboatInv (c.workerStep a) := by
  rcases c.workerStep_cases a with ⟨-, -, heq⟩ | ⟨-, q, -, -, hw, hm⟩ | ⟨hw, hm, hq, hl⟩
  · rwa [heq]
  · refine ⟨fun hrest => ?_, fun _ _ => hm⟩
    rw [hrest.1] at hw
    cases hw
  · have hrec : (c.workerStep a).sys.sysQ = [] → (c.workerStep a).sys.mode = .recovery := by
      intro hq'
      rw [hm]
      exact h.bringUp hw (hq ▸ hq')
    refine ⟨fun ⟨hw', hq'⟩ => ?_, fun _ => hrec⟩
    exact iff_of_true (hl hw') (hrec hq')

theorem LifeboatInv.step {c : Control} (h : LifeboatInv c) (i : ControlIn)
    (hok : AuthOffBringUp c i) : LifeboatInv (c.step i) := by
  rcases c.step_cases i with ⟨hev, hh, heq⟩ | ⟨-, -, heq⟩ | ⟨-, he⟩
  · rw [heq]; exact h.tcpAuth i.ans (hok hev hh)
  · rw [heq]; exact h.worker i.ans
  · exact h.event he

theorem lifeboatInv_boot (cfg : StaCfg) (nvsSsid nvsPwd : Option Bytes) (postRb : Option Nat) :
    LifeboatInv (.boot cfg nvsSsid nvsPwd postRb) :=
  ⟨fun _ => by simp [Control.boot, syscoordInit, setMode], fun hw _ => absurd rfl hw⟩

/-- **The lifeboat follows the mode** in every run in which no AUTH falls into the bring-up that
serves the last queued request. -/
theorem lifeboat_follows_mode (cfg : StaCfg) (nvsSsid nvsPwd : Option Bytes) (postRb : Option Nat)
    (is : List ControlIn)
    (hok : Run.Along Control.step AuthOffBringUp (.boot cfg nvsSsid nvsPwd postRb) is) :
    (Run.exec Control.step (.boot cfg nvsSsid nvsPwd postRb) is).LifeboatFollows :=
  (hok.exec_inv (lifeboatInv_boot cfg nvsSsid nvsPwd postRb) fun _ i h => h.step i).atRest

/-- The configuration of a provisioned device. -/
def homeCfg : StaCfg := staCfgOf (lit "home") (lit "hunter22")

/-- A provisioned factory image connects, loses the access point twice, and asks for recovery. -/
def twoFailures : List ControlIn :=
  [.staStart, .reconnTimer, .gotIp, .tcpTimer, .staDisconnected .beaconTimeout, .reconnTimer,
    .staDisconnected .noApFound].map (⟨·, .factory⟩)

/-- The three steps of the worker. -/
def workerRun : List ControlIn := [.worker, .worker, .worker].map (⟨·, .factory⟩)

theorem lifeboat_follows_mode_recovery :
    (Run.exec Control.step (.boot homeCfg none none none)
      (⟨.tcpAuth, .factory⟩ :: twoFailures ++ workerRun)).LifeboatFollows :=
  lifeboat_follows_mode homeCfg none none none _ (by decide)

/-- An AUTH after the switch to RECOVERY and before `ble_lifeboat_set(true)`: the device comes to
rest in NORMAL with the lifeboat enabled. -/
theorem lifeboat_not_follows_mode :
    ¬ (Run.exec Control.step (.boot homeCfg none none none)
      (twoFailures ++ [⟨.reconnTimer, .factory⟩, ⟨.gotIp, .factory⟩, ⟨.worker, .factory⟩,
        ⟨.tcpAuth, .factory⟩, ⟨.worker, .factory⟩, ⟨.worker, .factory⟩])).LifeboatFollows := by
  decide

/-! ## The proof of control -/

/-- The step marks the image VALID, or takes the device to NORMAL. -/
def ProvesControl (c : Control) (i : ControlIn) : Prop :=
  c.sys.validMarks < (c.step i).sys.validMarks ∨
    (c.sys.mode ≠ .normal ∧ (c.step i).sys.mode = .normal)

/-- Control is proven only while the latest `syscoord_on_wifi_state` said up. -/
def ProofIsOnline (c : Control) (i : ControlIn) : Prop :=
  ProvesControl c i → (c.step i).lastWifi = some true

/-- An AUTH finds Wi-Fi up. -/
def AuthOnline (c : Control) (i : ControlIn) : Prop :=
  i.ev = .tcpAuth → c.halted = false → c.lastWifi = some true

instance (c : Control) (i : ControlIn) : Decidable (ProofIsOnline c i) :=
  inferInstanceAs (Decidable (_ ∨ _ ∧ _ → _))

/-- NORMAL is left when Wi-Fi goes down. -/
def NormalOnline (c : Control) : Prop := c.sys.mode = .normal → c.lastWifi = some true

theorem NormalOnline.step {c : Control} (h : NormalOnline c) (i : ControlIn)
    (hok : AuthOnline c i) : NormalOnline (c.step i) := by
  rcases c.step_cases i with ⟨hev, hh, heq⟩ | ⟨-, -, heq⟩ | ⟨-, he⟩
  · rw [heq]; exact fun _ => hok hev hh
  · obtain ⟨-, hup, hm⟩ := c.workerStep_frame i.ans
    intro hn
    rw [heq] at hn ⊢
    rcases hm with hm | hm <;> rw [hm] at hn
    · rw [hup]; exact h hn
    · cases hn
  · intro hn
    rcases he.mode with ⟨hm, -, hup⟩ | ⟨-, hm, -⟩ <;> rw [hm] at hn
    · rcases hup hn with hup | hup <;> rw [hup]
      exact h hn
    · cases hn

/-- Only an AUTH proves control, and then it is online exactly when the AUTH is. -/
theorem proofIsOnline_iff (c : Control) (i : ControlIn) (h : NormalOnline c) :
    ProofIsOnline c i ↔ AuthOnline c i := by
  unfold ProofIsOnline ProvesControl AuthOnline
  rcases c.step_cases i with ⟨hev, hh, heq⟩ | ⟨hev, -, heq⟩ | ⟨hev, he⟩
  · rw [heq]
    refine ⟨fun hp _ _ => ?_, fun hok _ => hok hev hh⟩
    by_cases hm : c.sys.mode = .normal
    · exact h hm
    · exact hp (.inr ⟨hm, mode_tcpAuthOk _ _⟩)
  · obtain ⟨hv, -, hm⟩ := c.workerStep_frame i.ans
    refine iff_of_true (fun hp => ?_) fun h' => by rw [hev] at h'; cases h'
    rw [heq] at hp
    rcases hp with hp | ⟨hne, hn⟩
    · omega
    · rcases hm with hm | hm <;> rw [hm] at hn
      · exact absurd hn hne
      · cases hn
  · refine iff_of_true (fun hp => ?_) fun h' hh => absurd h' (hev hh).1
    rcases hp with hp | ⟨hne, hn⟩
    · have := he.validMarks; omega
    · rcases he.mode with ⟨hm, -, -⟩ | ⟨-, hm, -⟩ <;> rw [hm] at hn
      · exact absurd hn hne
      · cases hn

/-- **Proof of control, exactly when.** From boot, every step of a run that marks the image VALID
or reaches NORMAL does so with Wi-Fi up if and only if every AUTH of the run finds Wi-Fi up. -/
theorem control_proof_iff (cfg : StaCfg) (nvsSsid nvsPwd : Option Bytes) (postRb : Option Nat)
    (is : List ControlIn) :
    Run.Along Control.step ProofIsOnline (.boot cfg nvsSsid nvsPwd postRb) is ↔
      Run.Along Control.step AuthOnline (.boot cfg nvsSsid nvsPwd postRb) is := by
  have hboot : NormalOnline (.boot cfg nvsSsid nvsPwd postRb) := by
    intro hn
    simp [Control.boot, syscoordInit] at hn
  exact Run.along_congr hboot (fun c i h hok => h.step i hok) proofIsOnline_iff is

/-- A fresh image after a rollback: the link drops, and an AUTH that was already received marks the
image VALID and reaches NORMAL over it. -/
theorem control_proof_offline :
    ¬ Run.Along Control.step ProofIsOnline (.boot homeCfg none none (some 1))
      ([.staStart, .reconnTimer, .gotIp, .tcpTimer, .staDisconnected .beaconTimeout,
        .tcpAuth].map (⟨·, { Answers.factory with
          running := some .ota0, imgState := some .pendingVerify }⟩)) := by
  decide

/-! ## Requests made before a proof of control -/

/-- The control plane with a clock: when each queued request was made, and when control was last
proven. -/
structure Traced where
  ctl : Control
  stamps : List Nat
  provedAt : Option Nat
  clock : Nat

/-- The control plane before its first step. -/
def Traced.init (c : Control) : Traced := ⟨c, [], none, 0⟩

/-- One step, with the queue's growth and shrinking noted. -/
def Traced.step (t : Traced) (i : ControlIn) : Traced where
  ctl := t.ctl.step i
  stamps :=
    if (t.ctl.step i).sys.sysQ.length < t.ctl.sys.sysQ.length then t.stamps.tail
    else if t.ctl.sys.sysQ.length < (t.ctl.step i).sys.sysQ.length then t.stamps ++ [t.clock]
    else t.stamps
  provedAt := if i.ev = .tcpAuth ∧ t.ctl.halted = false then some t.clock else t.provedAt
  clock := t.clock + 1

/-- Whenever a step takes the device to RECOVERY, the request being handled was made after the last
proof of control. -/
def RecoveryFresh (t : Traced) (i : ControlIn) : Prop :=
  t.ctl.sys.mode ≠ .recovery → (t.step i).ctl.sys.mode = .recovery →
    ∃ s ∈ t.stamps.head?, ∀ p ∈ t.provedAt, p < s

/-- An AUTH finds no request in the queue. -/
def AuthFindsNoRequest (t : Traced) (i : ControlIn) : Prop :=
  i.ev = .tcpAuth → t.ctl.halted = false → t.ctl.sys.sysQ = []

instance (t : Traced) (i : ControlIn) : Decidable (RecoveryFresh t i) :=
  inferInstanceAs (Decidable (_ → _ → ∃ s ∈ t.stamps.head?, ∀ p ∈ t.provedAt, p < s))

instance (t : Traced) (i : ControlIn) : Decidable (AuthFindsNoRequest t i) :=
  inferInstanceAs (Decidable (_ → _ → _ = _))

/-- The clock does not act on the control plane. -/
theorem ctl_traced_exec (t : Traced) (is : List ControlIn) :
    (Run.exec Traced.step t is).ctl = Run.exec Control.step t.ctl is := by
  have hstep : ∀ t i, Traced.ctl (Traced.step t i) = Control.step (Traced.ctl t) (id i) :=
    fun _ _ => rfl
  rw [Run.exec_map hstep, List.map_id]

/-- Every queued request has a stamp, and was made after the last proof of control. -/
structure StampsInv (t : Traced) : Prop where
  length : t.stamps.length = t.ctl.sys.sysQ.length
  fresh : ∀ s ∈ t.stamps, s < t.clock ∧ ∀ p ∈ t.provedAt, p < s
  proved : ∀ p ∈ t.provedAt, p < t.clock

/-- A step that is no AUTH keeps the queue, appends a request, or takes the first one; the stamps
follow. -/
theorem StampsInv.follow {t : Traced} (h : StampsInv t) {i : ControlIn}
    (hev : ¬ (i.ev = .tcpAuth ∧ t.ctl.halted = false))
    (hq : (t.ctl.step i).sys.sysQ = t.ctl.sys.sysQ ∨
      (∃ e, (t.ctl.step i).sys.sysQ = t.ctl.sys.sysQ ++ [e]) ∨
      (∃ e, t.ctl.sys.sysQ = e :: (t.ctl.step i).sys.sysQ)) : StampsInv (t.step i) := by
  obtain ⟨hlen, hfresh, hproved⟩ := h
  have hp : (t.step i).provedAt = t.provedAt := if_neg hev
  have hc : (t.step i).clock = t.clock + 1 := rfl
  have hproved' : ∀ p ∈ (t.step i).provedAt, p < (t.step i).clock := by
    rw [hp, hc]
    exact fun p hp => Nat.lt_succ_of_lt (hproved p hp)
  have hold : ∀ s ∈ t.stamps, s < t.clock + 1 ∧ ∀ p ∈ t.provedAt, p < s := fun s hs =>
    ⟨Nat.lt_succ_of_lt (hfresh s hs).1, (hfresh s hs).2⟩
  rcases hq with hq | ⟨e, hq⟩ | ⟨e, hq⟩
  · have hst : (t.step i).stamps = t.stamps := by simp [Traced.step, hq]
    refine ⟨?_, ?_, hproved'⟩
    · rw [hst, hlen]; exact (congrArg List.length hq).symm
    · rw [hst, hp, hc]; exact hold
  · have hst : (t.step i).stamps = t.stamps ++ [t.clock] := by simp [Traced.step, hq]
    refine ⟨?_, ?_, hproved'⟩
    · rw [hst, List.length_append, hlen]
      have := congrArg List.length hq
      simpa [Traced.step] using this.symm
    · rw [hst, hp, hc]
      intro s hs
      rcases List.mem_append.mp hs with hs | hs
      · exact hold s hs
      · rw [List.mem_singleton.mp hs]
        exact ⟨Nat.lt_succ_self _, hproved⟩
  · have hst : (t.step i).stamps = t.stamps.tail := by simp [Traced.step, hq]
    refine ⟨?_, ?_, hproved'⟩
    · rw [hst, List.length_tail, hlen, hq]
      simp [Traced.step]
    · rw [hst, hp, hc]
      exact fun s hs => hold s (List.mem_of_mem_tail hs)

/-- An AUTH that finds the queue empty leaves it so. -/
theorem StampsInv.tcpAuth {t : Traced} (h : StampsInv t) {i : ControlIn} (hev : i.ev = .tcpAuth)
    (hh : t.ctl.halted = false) (hq : t.ctl.sys.sysQ = [])
    (hq' : (t.ctl.step i).sys.sysQ = []) : StampsInv (t.step i) := by
  have hnil : t.stamps = [] := List.eq_nil_of_length_eq_zero (by rw [h.length, hq]; rfl)
  have hst : (t.step i).stamps = [] := by simp [Traced.step, hq, hq', hnil]
  have hp : (t.step i).provedAt = some t.clock := if_pos ⟨hev, hh⟩
  refine ⟨?_, ?_, ?_⟩
  · rw [hst]; simp [Traced.step, hq']
  · rw [hst]; nofun
  · rw [hp]
    intro p hp
    cases hp
    exact Nat.lt_succ_self _

theorem StampsInv.step {t : Traced} (h : StampsInv t) (i : ControlIn)
    (hok : AuthFindsNoRequest t i) : StampsInv (t.step i) := by
  rcases t.ctl.step_cases i with ⟨hev, hh, heq⟩ | ⟨hev, -, heq⟩ | ⟨hev, he⟩
  · have hq := hok hev hh
    refine h.tcpAuth hev hh hq ?_
    rw [heq]
    exact (sysQ_tcpAuthOk _ _).trans hq
  · refine h.follow (fun h' => by rw [hev] at h'; cases h'.1) ?_
    rw [heq]
    rcases t.ctl.workerStep_cases i.ans with ⟨-, -, hs⟩ | ⟨-, q, hq, hq', -, -⟩ | ⟨-, -, hs, -⟩
    · exact .inl (by rw [hs])
    · exact .inr (.inr ⟨_, by rw [hq', hq]⟩)
    · exact .inl hs
  · refine h.follow (fun h' => (hev h'.2).1 h'.1) ?_
    exact he.sysQ.imp_right fun hq => .inl ⟨_, hq⟩

/-- A step that enters RECOVERY serves the first request of the queue. -/
theorem StampsInv.recoveryFresh {t : Traced} (h : StampsInv t) (i : ControlIn) :
    RecoveryFresh t i := by
  intro hne hrec
  have hrec : (t.ctl.step i).sys.mode = .recovery := hrec
  rcases t.ctl.step_cases i with ⟨-, -, heq⟩ | ⟨-, -, heq⟩ | ⟨-, he⟩
  · rw [heq, mode_tcpAuthOk] at hrec
    cases hrec
  · rw [heq] at hrec
    rcases t.ctl.workerStep_cases i.ans with ⟨-, -, hs⟩ | ⟨-, q, hq, -⟩ | ⟨-, hm, -⟩
    · exact absurd (hs ▸ hrec) hne
    · cases hst : t.stamps with
      | nil => have := h.length; simp [hst, hq] at this
      | cons s ss => exact ⟨s, rfl, (h.fresh s (by simp [hst])).2⟩
    · exact absurd (hm ▸ hrec) hne
  · rcases he.mode with ⟨hm, -, -⟩ | ⟨-, hm, -⟩
    · exact absurd (hm ▸ hrec) hne
    · rw [hm] at hrec; cases hrec

/-- **A request never overrides a later proof of control** in the runs in which no AUTH finds a
request in the queue. -/
theorem recovery_not_stale (cfg : StaCfg) (nvsSsid nvsPwd : Option Bytes) (postRb : Option Nat)
    (is : List ControlIn)
    (hok : Run.Along Traced.step AuthFindsNoRequest (.init (.boot cfg nvsSsid nvsPwd postRb)) is) :
    Run.Along Traced.step RecoveryFresh (.init (.boot cfg nvsSsid nvsPwd postRb)) is := by
  have hinit : StampsInv (.init (.boot cfg nvsSsid nvsPwd postRb)) :=
    ⟨by simp [Traced.init, Control.boot, syscoordInit], nofun, nofun⟩
  exact hok.mono hinit (fun t i h hi => h.step i hi) fun t i h _ => h.recoveryFresh i

theorem recovery_not_stale_twoFailures :
    Run.Along Traced.step RecoveryFresh (.init (.boot homeCfg none none none))
      (⟨.tcpAuth, .factory⟩ :: twoFailures ++ workerRun) :=
  recovery_not_stale homeCfg none none none _ (by decide)

/-- Wi-Fi comes back and an AUTH proves control while the request waits; the worker then enters
RECOVERY all the same. -/
theorem recovery_stale :
    ¬ Run.Along Traced.step RecoveryFresh (.init (.boot homeCfg none none none))
      (twoFailures ++ [⟨.reconnTimer, .factory⟩, ⟨.gotIp, .factory⟩, ⟨.tcpAuth, .factory⟩,
        ⟨.worker, .factory⟩]) := by
  decide

end RemoteControl
