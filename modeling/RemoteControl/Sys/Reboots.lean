import RemoteControl.Sys.Recovery

/-!
# Rollbacks across reboots (`main.c`, `monitor_policy.c`, `bootflag.c`)

What outlives a reboot is the flash: the states of the two OTA slots, the partition that boots, the
flag of the manual fallback, and the credentials. `Device` has the running control plane beside
them. An official rollback marks the running image INVALID; a manual one sets the flag and may mark
its target NEW, so that the number of images that are eligible for a rollback can grow again. The
flag holds further rollbacks off, but `app_main` clears it on the factory image, which is none of
the eligible ones.

The NVS calls on the flag succeed here, so a flag that was written is read back. The bootloader
boots the partition last set; it may turn a NEW image into a PENDING_VERIFY one. `officials` and
`manuals` count the rollbacks and are not in the code.
-/

namespace RemoteControl

/-! ## What a step of the control plane reboots -/

/-- What a handler other than AUTH does to the boot flag: nothing, unless it reboots the device by
one of the two rollbacks, from an eligible image with the flag clear. -/
inductive RollbackEffect (a : Answers) (c c' : Control) : Prop
  | runs (hh : c'.halted = c.halted) (hflag : c'.sys.postRb = c.sys.postRb)
  | official (helig : monitorIsRollbackEligible a = true)
      (hclear : bootflagIsPostRollback a c.sys.postRb = false)
      (how : monitorTryRollbackNow a = .official) (hh : c'.halted = true)
      (hflag : c'.sys.postRb = c.sys.postRb)
  | manual (helig : monitorIsRollbackEligible a = true)
      (hclear : bootflagIsPostRollback a c.sys.postRb = false) (target : AppPart)
      (how : monitorTryRollbackNow a = .manual target) (hh : c'.halted = true)
      (hflag : c'.sys.postRb = bootflagSetPostRollback a true c.sys.postRb)

theorem RollbackEffect.refl (a : Answers) (c : Control) : RollbackEffect a c c := .runs rfl rfl

/-- The effect looks at the flag before and at the halt and the flag after. -/
theorem RollbackEffect.before {a : Answers} {c c₀ c' : Control} (h : RollbackEffect a c₀ c')
    (hh : c₀.halted = c.halted) (hf : c₀.sys.postRb = c.sys.postRb) : RollbackEffect a c c' := by
  cases h with
  | runs hh' hf' => exact .runs (hh'.trans hh) (hf'.trans hf)
  | official helig hclear how hh' hf' => exact .official helig (hf ▸ hclear) how hh' (hf'.trans hf)
  | manual helig hclear t how hh' hf' => exact .manual helig (hf ▸ hclear) t how hh' (hf ▸ hf')

theorem RollbackEffect.after {a : Answers} {c c₁ c' : Control} (h : RollbackEffect a c c₁)
    (hh : c'.halted = c₁.halted) (hf : c'.sys.postRb = c₁.sys.postRb) : RollbackEffect a c c' := by
  cases h with
  | runs hh' hf' => exact .runs (hh.trans hh') (hf.trans hf')
  | official helig hclear how hh' hf' =>
    exact .official helig hclear how (hh.trans hh') (hf.trans hf')
  | manual helig hclear t how hh' hf' =>
    exact .manual helig hclear t how (hh.trans hh') (hf.trans hf')

/-- **A report.** -/
theorem rollbackEffect_report (a : Answers) (e : ErrSrc) (c : Control) :
    RollbackEffect a c (c.report a e) := by
  by_cases he : e = .none
  · rw [he, Control.report_none]
    exact .runs rfl rfl
  · by_cases hr : Reboots a c.sys.postRb c.sys.monitor
    · have heq : monitorOnWifiError a c.sys.postRb e c.sys.monitor =
          (⟨false, 1⟩, .rollback (monitorTryRollbackNow a)) := by
        obtain ⟨hdone, hstreak, helig, hclear, -⟩ := hr
        simp [monitorOnWifiError, hdone, hstreak, helig, hclear, he]
      obtain ⟨-, -, helig, hclear, hret⟩ := hr
      cases how : monitorTryRollbackNow a with
      | official =>
        refine .official helig hclear how ?_ ?_ <;> simp only [Control.report, heq, how]
      | manual t =>
        refine .manual helig hclear t how ?_ ?_ <;> simp only [Control.report, heq, how]
      | returned => exact absurd how hret
    · rcases Control.report_cases a he c with
        ⟨-, heq⟩ | ⟨hr', -⟩ | ⟨-, -, -, heq⟩ | ⟨-, -, m, -, heq⟩
      · rw [heq]
        exact .refl a c
      · exact absurd hr' hr
      · rw [heq]
        exact .runs rfl rfl
      · rw [heq]
        refine .runs rfl ?_
        unfold enqueueRecovery
        split <;> rfl

/-- Wi-Fi going up or down does not touch the flag. -/
@[simp] theorem postRb_wifiState (a : Answers) (up : Bool) (s : Syscoord) :
    (syscoordOnWifiState a up s).postRb = s.postRb := by
  unfold syscoordOnWifiState setMode
  split
  · dsimp only
    split
    · split <;> rfl
    · rfl
  · rfl

/-- **The handlers.** -/
theorem rollbackEffect_handle (a : Answers) (c : Control) {ev : ControlEv} (hev : ev ≠ .tcpAuth) :
    RollbackEffect a c (c.handle a ev) := by
  cases ev with
  | tcpAuth => exact absurd rfl hev
  | staStart =>
    simp only [Control.handle, Control.staStart]
    split
    · exact .runs rfl rfl
    · refine .before (rollbackEffect_report a .noCreds _) ?_ ?_ <;> rfl
  | staDisconnected reason =>
    simp only [Control.handle, Control.staDisconnected]
    split
    · refine .before (rollbackEffect_report a reason.toErrSrc _) ?_ ?_
      · rfl
      · simp [Control.onWifiState]
    · refine .after (.before (rollbackEffect_report a reason.toErrSrc _) ?_ ?_) rfl rfl
      · rfl
      · simp [Control.onWifiState]
  | staStop => exact .runs rfl (by simp [Control.handle, Control.staStop, Control.onWifiState])
  | gotIp =>
    refine .after (.before (rollbackEffect_report a .none _) ?_ ?_) rfl rfl <;> rfl
  | lostIp =>
    simp only [Control.handle, Control.gotIpLost]
    split
    · exact .runs rfl (by simp [Control.onWifiState])
    · refine .before (rollbackEffect_report a .ipLost _) ?_ ?_
      · rfl
      · simp [Control.onWifiState]
  | setwifi ssid pwd =>
    simp only [Control.handle, Control.wifiSetCredentials]
    split
    · exact .refl a c
    · split <;> exact .runs rfl rfl
  | worker =>
    simp only [Control.handle, Control.workerStep]
    split
    · split
      · exact .refl a c
      · refine .runs rfl ?_
        unfold setMode
        split <;> rfl
    · exact .runs rfl rfl
    · exact .runs rfl rfl
  | wifiOther => exact .refl a c
  | bleOtaStart => exact .runs rfl rfl
  | reconnTimer | tcpTimer =>
    simp only [Control.handle]
    split
    · exact .runs rfl rfl
    · exact .refl a c

/-! ## The device -/

/-- The flash, the running image, and the control plane it runs. -/
structure Device where
  /-- `esp_ota_get_state_partition` of the slots; `none` where it fails. -/
  ota0 : Option ImgState
  ota1 : Option ImgState
  /-- The partition last set for booting. -/
  boot : AppPart
  running : AppPart
  control : Control
  officials : Nat
  manuals : Nat

/-- What the platform decides when the device restarts. -/
structure Restart where
  /-- The partition an official rollback goes back to. -/
  next : AppPart
  /-- `esp_ota_set_boot_partition` succeeds, and whether it marks its target NEW. -/
  setBoot : Bool
  markNew : Bool
  /-- The bootloader turns NEW into PENDING_VERIFY. -/
  verify : Bool
  /-- The configuration that `wifi_start` gives to the driver. -/
  cfg : StaCfg

/-- The state of an image. -/
def Device.img (d : Device) : AppPart → Option ImgState
  | .ota0 => d.ota0
  | .ota1 => d.ota1
  | .factory | .other => none

/-- A new state for an image in an OTA slot. -/
def Device.setImg (p : AppPart) (s : ImgState) (d : Device) : Device :=
  match p with
  | .ota0 => { d with ota0 := some s }
  | .ota1 => { d with ota1 := some s }
  | .factory | .other => d

/-- The first thing `app_main` does to the boot flag. -/
def appMain (running : AppPart) (flag : Option Nat) : Option Nat :=
  if running = .factory then bootflagSetPostRollback .factory false flag else flag

/-- The bootloader and `app_main`. -/
def Device.restart (r : Restart) (d : Device) : Device :=
  let d := if r.verify ∧ d.img d.boot = some .new then d.setImg d.boot .pendingVerify else d
  { d with
    running := d.boot
    control := .boot r.cfg d.control.wifi.nvsSsid d.control.wifi.nvsPwd
      (appMain d.boot d.control.sys.postRb) }

/-- The end of `monitor_try_rollback_now`, whose handler has set the boot flag if it had to. -/
def Device.rollback (r : Restart) (how : RollbackEnd) (d : Device) : Device :=
  match how with
  | .official =>
    ({ d with boot := r.next, officials := d.officials + 1 }.setImg d.running .invalid).restart r
  | .manual target =>
    let d := { d with manuals := d.manuals + 1 }
    if r.setBoot then
      let d := if r.markNew then d.setImg target .new else d
      { d with boot := target }.restart r
    else d.restart r
  | .returned => d

/-- The answers to a handler of the running image; its state may still be refused. -/
def Device.answers (a : Answers) (d : Device) : Answers :=
  { a with
    running := some d.running
    imgState := a.imgState.bind fun _ => d.img d.running
    flagNvs := true }

/-- A handler runs, with what happens if it reboots the device; or the device loses its power. -/
inductive DeviceEv where
  | event (i : ControlIn) (r : Restart)
  | reset (r : Restart)

/-- One step. -/
def Device.step (d : Device) : DeviceEv → Device
  | .event i r =>
    let a := d.answers i.ans
    let d := { d with control := d.control.step ⟨i.ev, a⟩ }
    if d.control.halted then d.rollback r (monitorTryRollbackNow a) else d
  | .reset r => d.restart r

/-- The device with this flash, powered on. -/
def Device.powerOn (ota0 ota1 : Option ImgState) (boot : AppPart) (postRb : Option Nat)
    (nvsSsid nvsPwd : Option Bytes) (r : Restart) : Device :=
  Device.restart r ⟨ota0, ota1, boot, boot, .boot r.cfg nvsSsid nvsPwd postRb, 0, 0⟩

section
variable (p : AppPart) (s : ImgState) (r : Restart) (d : Device)

@[simp] theorem boot_setImg : (d.setImg p s).boot = d.boot := by cases p <;> rfl

@[simp] theorem control_setImg : (d.setImg p s).control = d.control := by cases p <;> rfl

@[simp] theorem officials_setImg : (d.setImg p s).officials = d.officials := by cases p <;> rfl

@[simp] theorem manuals_setImg : (d.setImg p s).manuals = d.manuals := by cases p <;> rfl

/-- What a restart leaves of the device: the boot partition runs, with the flag `app_main` leaves
it; and the counters. -/
theorem Device.restart_frame :
    (d.restart r).boot = d.boot ∧ (d.restart r).running = d.boot ∧
      (d.restart r).control.halted = false ∧
      (d.restart r).control.sys.postRb = appMain d.boot d.control.sys.postRb ∧
      (d.restart r).officials = d.officials ∧ (d.restart r).manuals = d.manuals := by
  unfold Device.restart
  dsimp only
  split
  · simp [Control.boot, syscoordInit, setMode]
  · simp [Control.boot, syscoordInit, setMode]

end

/-! ## The measure -/

/-- 1 for an image that is NEW or PENDING_VERIFY. -/
def freshImg (s : Option ImgState) : Nat := if s = some .new ∨ s = some .pendingVerify then 1 else 0

/-- How many OTA slots hold such an image. -/
def freshSlots (ota0 ota1 : Option ImgState) : Nat := freshImg ota0 + freshImg ota1

/-- The factory image, or an image that came out of a manual fallback: no further rollback. -/
def Device.Settled (d : Device) : Prop := d.running = .factory ∨ d.control.sys.postRb.getD 0 ≠ 0

/-- Every rollback so far is paid for by a slot that was fresh at the start: an official one by the
slot it has invalidated, the manual one by the slot it has left. -/
structure Budget (e : Nat) (d : Device) : Prop where
  running : d.running = d.boot
  awake : d.control.halted = false
  paid :
    (d.manuals = 0 ∧ d.officials + freshSlots d.ota0 d.ota1 ≤ e) ∨
    (d.manuals = 1 ∧ d.officials + 1 ≤ e ∧ d.Settled)

/-- The bootloader turns fresh images into fresh images. -/
theorem freshSlots_restart (r : Restart) (d : Device) :
    freshSlots (d.restart r).ota0 (d.restart r).ota1 = freshSlots d.ota0 d.ota1 := by
  unfold Device.restart
  dsimp only
  split
  · next h =>
    obtain ⟨-, himg⟩ := h
    cases hb : d.boot <;> simp_all [Device.img, Device.setImg, freshSlots, freshImg]
  · rfl

/-- A restart into the factory image settles the device; another one leaves the flag. -/
theorem settled_restart (r : Restart) {d : Device}
    (h : d.boot = .factory ∨ d.control.sys.postRb.getD 0 ≠ 0) : (d.restart r).Settled := by
  obtain ⟨-, hrun, -, hflag, -, -⟩ := d.restart_frame r
  by_cases hb : d.boot = .factory
  · exact .inl (hrun.trans hb)
  · refine .inr ?_
    rw [hflag, appMain, if_neg hb]
    exact h.resolve_left hb

/-- An eligible image is fresh. -/
theorem freshImg_of_eligible {a : Answers} {d : Device}
    (h : monitorIsRollbackEligible (d.answers a) = true) : freshImg (d.img d.running) = 1 := by
  unfold freshImg
  rw [if_pos]
  cases ha : a.imgState <;> cases hrun : d.running <;>
    simp_all [monitorIsRollbackEligible, Device.answers]

/-- A fresh image fills a fresh slot, which is one no more when the image is invalid. -/
theorem freshSlots_invalid {d : Device} (h : freshImg (d.img d.running) = 1) :
    freshSlots (d.setImg d.running .invalid).ota0 (d.setImg d.running .invalid).ota1 + 1 =
      freshSlots d.ota0 d.ota1 := by
  have hinvalid : freshImg (some .invalid) = 0 := rfl
  cases hrun : d.running with
  | ota0 =>
    rw [hrun] at h
    simp only [Device.img] at h
    simp only [freshSlots, Device.setImg, h, hinvalid]
    omega
  | ota1 =>
    rw [hrun] at h
    simp only [Device.img] at h
    simp only [freshSlots, Device.setImg, h, hinvalid]
  | factory | other =>
    rw [hrun] at h
    simp [Device.img, freshImg] at h

/-- Nothing is eligible on a settled device while its flag is clear. -/
theorem Device.Settled.keeps {a : Answers} {d : Device} (h : d.Settled)
    (helig : monitorIsRollbackEligible (d.answers a) = true) :
    bootflagIsPostRollback (d.answers a) d.control.sys.postRb = true := by
  rcases h with h | h
  · rw [monitorIsRollbackEligible] at helig
    simp [Device.answers, h] at helig
  · simpa [bootflagIsPostRollback, Device.answers] using h

/-- **A restart** that runs the boot partition keeps the account. -/
theorem Budget.restart {e : Nat} {d : Device} (h : Budget e d) (r : Restart) :
    Budget e (d.restart r) := by
  obtain ⟨hboot, hrun, hawake, -, hoff, hman⟩ := d.restart_frame r
  refine ⟨hrun.trans hboot.symm, hawake, ?_⟩
  rw [hoff, hman, freshSlots_restart]
  refine h.paid.imp_right fun ⟨h1, h2, hs⟩ => ⟨h1, h2, settled_restart r ?_⟩
  rwa [← h.running]

/-- An eligible image with the flag clear is on a device that has not fallen back by hand. -/
theorem Budget.unsettled {e : Nat} {d : Device} {a : Answers} (h : Budget e d)
    (helig : monitorIsRollbackEligible (d.answers a) = true)
    (hclear : bootflagIsPostRollback (d.answers a) d.control.sys.postRb = false) :
    d.manuals = 0 ∧ d.officials + freshSlots d.ota0 d.ota1 ≤ e := by
  rcases h.paid with hpaid | ⟨-, -, hs⟩
  · exact hpaid
  · rw [hs.keeps helig] at hclear
    cases hclear

/-- **The official rollback** empties a fresh slot. -/
theorem Budget.official {e : Nat} {d : Device} {a : Answers} (h : Budget e d)
    (helig : monitorIsRollbackEligible (d.answers a) = true)
    (hclear : bootflagIsPostRollback (d.answers a) d.control.sys.postRb = false) (c : Control)
    (r : Restart) : Budget e (Device.rollback r .official { d with control := c }) := by
  obtain ⟨hman, hpaid⟩ := h.unsettled helig hclear
  obtain ⟨d₁, hd₁⟩ : ∃ d₁ : Device,
      { d with control := c, boot := r.next, officials := d.officials + 1 } = d₁ := ⟨_, rfl⟩
  have hinv : freshSlots (d₁.setImg d₁.running .invalid).ota0
      (d₁.setImg d₁.running .invalid).ota1 + 1 = freshSlots d.ota0 d.ota1 := by
    subst hd₁
    exact freshSlots_invalid (freshImg_of_eligible helig)
  have heq : Device.rollback r .official { d with control := c } =
      (d₁.setImg d₁.running .invalid).restart r := by subst hd₁; rfl
  have hoff' : d₁.officials = d.officials + 1 := by subst hd₁; rfl
  have hman' : d₁.manuals = d.manuals := by subst hd₁; rfl
  obtain ⟨hboot, hrun, hawake, -, hoff, hmans⟩ :=
    (d₁.setImg d₁.running .invalid).restart_frame r
  rw [heq]
  refine ⟨hrun.trans hboot.symm, hawake, .inl ⟨?_, ?_⟩⟩
  · rw [hmans, manuals_setImg, hman', hman]
  · rw [hoff, freshSlots_restart, officials_setImg, hoff']
    omega

/-- **The manual fallback** settles the device: in the factory image, or with the flag set. -/
theorem Budget.manual {e : Nat} {d : Device} {a : Answers} (h : Budget e d)
    (helig : monitorIsRollbackEligible (d.answers a) = true)
    (hclear : bootflagIsPostRollback (d.answers a) d.control.sys.postRb = false) {c : Control}
    (hflag : c.sys.postRb = some 1) (t : AppPart) (r : Restart) :
    Budget e (Device.rollback r (.manual t) { d with control := c }) := by
  obtain ⟨hman, hpaid⟩ := h.unsettled helig hclear
  have hfresh : 1 ≤ freshSlots d.ota0 d.ota1 := by
    have := freshSlots_invalid (freshImg_of_eligible helig)
    omega
  obtain ⟨d₁, heq, hoff', hman', hflag'⟩ : ∃ d₁ : Device,
      Device.rollback r (.manual t) { d with control := c } = d₁.restart r ∧
        d₁.officials = d.officials ∧ d₁.manuals = d.manuals + 1 ∧
        d₁.control.sys.postRb = some 1 := by
    unfold Device.rollback
    dsimp only
    split
    · refine ⟨_, rfl, ?_⟩
      split <;> simp [hflag]
    · exact ⟨_, rfl, rfl, rfl, hflag⟩
  obtain ⟨hboot, hrun, hawake, -, hoff, hmans⟩ := d₁.restart_frame r
  rw [heq]
  refine ⟨hrun.trans hboot.symm, hawake, .inr ⟨?_, ?_, settled_restart r ?_⟩⟩
  · rw [hmans, hman', hman]
  · rw [hoff, hoff']
    omega
  · simp [hflag']

/-- The event is no AUTH. -/
def DeviceEv.NoAuth : DeviceEv → Prop
  | .event i _ => i.ev ≠ .tcpAuth
  | .reset _ => True

instance decidableNoAuth : (ev : DeviceEv) → Decidable ev.NoAuth
  | .event i _ => inferInstanceAs (Decidable (i.ev ≠ .tcpAuth))
  | .reset _ => isTrue trivial

/-- **One step** without an AUTH keeps the account. -/
theorem Budget.step {e : Nat} {d : Device} (h : Budget e d) {ev : DeviceEv} (hauth : ev.NoAuth) :
    Budget e (d.step ev) := by
  cases ev with
  | reset r => exact h.restart r
  | event i r =>
    have heff : RollbackEffect (d.answers i.ans) d.control
        (d.control.step ⟨i.ev, d.answers i.ans⟩) := by
      unfold Control.step
      rw [h.awake]
      exact rollbackEffect_handle _ _ hauth
    unfold Device.step
    dsimp only
    cases heff with
    | runs hh hf =>
      rw [hh, h.awake]
      refine ⟨h.running, hh.trans h.awake, ?_⟩
      refine h.paid.imp_right fun ⟨h1, h2, hs⟩ => ⟨h1, h2, ?_⟩
      exact hs.imp_right fun hs => hf ▸ hs
    | official helig hclear how hh hf =>
      rw [hh, how]
      exact h.official helig hclear _ r
    | manual helig hclear t how hh hf =>
      rw [hh, how]
      exact h.manual helig hclear hf t r

/-- **No rollback loop.** Whatever the flash holds when the device is powered on: over all boots,
handlers and power cycles without an accepted AUTH, the rollbacks reboot the device at most once
more than there were fresh slots, and at most one of them is a manual fallback. -/
theorem rollbacks_bounded (ota0 ota1 : Option ImgState) (boot : AppPart) (postRb : Option Nat)
    (nvsSsid nvsPwd : Option Bytes) (r : Restart) (evs : List DeviceEv)
    (hauth : ∀ ev ∈ evs, ev.NoAuth) :
    let d := Run.exec Device.step (.powerOn ota0 ota1 boot postRb nvsSsid nvsPwd r) evs
    d.officials + d.manuals ≤ freshSlots ota0 ota1 + 1 ∧ d.manuals ≤ 1 := by
  have hinit : Budget (freshSlots ota0 ota1)
      (.powerOn ota0 ota1 boot postRb nvsSsid nvsPwd r) := by
    refine Budget.restart ⟨rfl, rfl, .inl ⟨rfl, ?_⟩⟩ r
    exact (Nat.zero_add _).le
  intro d
  have hend : Budget (freshSlots ota0 ota1) d :=
    (Run.along_of_forall_mem _ hauth).exec_inv hinit fun _ _ h hok => h.step hok
  rcases hend.paid with ⟨h1, h2⟩ | ⟨h1, h2, -⟩
  · omega
  · omega

/-- A disconnect of a running device, and the restart that may follow. -/
def linkLost (answers : Answers) (next : AppPart) : DeviceEv :=
  .event ⟨.staDisconnected .beaconTimeout, answers⟩ ⟨next, true, true, true, homeCfg⟩

/-- Two fresh images: the official rollback leaves the first one; the second one falls back to it
by hand, where the flag holds the next failure off. -/
theorem rollbacks_bounded_twoSlots :
    let d := Run.exec Device.step
      (.powerOn (some .pendingVerify) (some .new) .ota0 none none none
        ⟨.ota0, true, true, true, homeCfg⟩)
      [linkLost { Answers.factory with official := none, imgState := some .valid } .ota1,
        linkLost { Answers.factory with find := (· = .ota0), imgState := some .valid } .ota0,
        linkLost { Answers.factory with official := none, imgState := some .valid } .ota1]
    d.officials + d.manuals ≤ freshSlots (some .pendingVerify) (some .new) + 1 ∧ d.manuals ≤ 1 :=
  rollbacks_bounded _ _ _ _ _ _ _ _ (by decide)

end RemoteControl
