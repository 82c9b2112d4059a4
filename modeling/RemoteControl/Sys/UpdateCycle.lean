import RemoteControl.Sys.Reboots

/-!
# The life of an update (`ota_writer.c`, `sys_policy.c`, `monitor.c`, `monitor_policy.c`)

`Device` has no updates in it, and its AUTH leaves the slots alone. Here both are added. A finished
OTA session puts a NEW image in another slot and boots it, and `syscoord_control_path_ok` marks the
running image VALID, where the call of the driver succeeds.

An update ends in one of two ways. Once an AUTH has marked it, nothing but another update ever takes
the device away from it (`proven_image_stays`). Until then the first connectivity failure takes the
device away from it, and does so exactly if the flag of the manual fallback was clear when the
update was installed and a rollback works (`unproven_image_left_iff`).
-/

namespace RemoteControl

open CString

/-! ## Updates -/

/-- An event of the device, with the answer of `esp_ota_mark_app_valid_cancel_rollback` if its
handler calls it; or an OTA session of another slot that finishes, with the restart after it. -/
inductive UpdateEv where
  | device (ev : DeviceEv) (markOk : Bool)
  | update (p : AppPart) (r : Restart)

/-- The slots that an update can be installed in. -/
def AppPart.isSlot : AppPart → Bool
  | .ota0 | .ota1 => true
  | .factory | .other => false

/-- `esp_ota_set_boot_partition` of a new image, and the restart. -/
def Device.install (p : AppPart) (r : Restart) (d : Device) : Device :=
  { d.setImg p .new with boot := p }.restart r

/-- One step. -/
def Device.live (d : Device) : UpdateEv → Device
  | .device ev markOk =>
    let d' := d.step ev
    if markOk ∧ d.control.sys.validMarks < d'.control.sys.validMarks then d'.setImg d.running .valid
    else d'
  | .update p r => if p.isSlot ∧ p ≠ d.running then d.install p r else d

/-- The event is no update. -/
def UpdateEv.NoUpdate : UpdateEv → Prop
  | .device _ _ => True
  | .update _ _ => False

instance decidableNoUpdate : (ev : UpdateEv) → Decidable ev.NoUpdate
  | .device _ _ => isTrue trivial
  | .update _ _ => isFalse id

/-- What the device is between its steps. -/
structure Device.Awake (d : Device) : Prop where
  running : d.running = d.boot
  awake : d.control.halted = false

section
variable {d : Device}

@[simp] theorem running_setImg (p : AppPart) (s : ImgState) (d : Device) :
    (d.setImg p s).running = d.running := by cases p <;> rfl

theorem Device.Awake.setImg (h : d.Awake) (p : AppPart) (s : ImgState) : (d.setImg p s).Awake :=
  ⟨by simpa using h.running, by simpa using h.awake⟩

theorem Device.awake_restart (r : Restart) (d : Device) : (d.restart r).Awake := by
  obtain ⟨hboot, hrun, hawake, -⟩ := d.restart_frame r
  exact ⟨hrun.trans hboot.symm, hawake⟩

/-- A rollback that does not return reboots the device. -/
theorem Device.awake_rollback (r : Restart) {how : RollbackEnd} (h : how ≠ .returned)
    (d : Device) : (d.rollback r how).Awake := by
  cases how with
  | returned => exact absurd rfl h
  | official => exact awake_restart r _
  | manual target =>
    simp only [Device.rollback]
    split <;> exact awake_restart r _

/-- An AUTH never reboots. -/
theorem Control.halted_tcpAuth (a : Answers) (c : Control) :
    (c.step ⟨.tcpAuth, a⟩).halted = c.halted := by
  unfold Control.step
  split
  · rfl
  · rfl

/-- **What a handler does to the device**: it runs to its end, or it reboots the device from an
eligible image with the flag clear. -/
theorem Device.step_event_cases (h : d.Awake) (i : ControlIn) (r : Restart) :
    let a := d.answers i.ans
    let c := d.control.step ⟨i.ev, a⟩
    (c.halted = false ∧ d.step (.event i r) = { d with control := c }) ∨
    (c.halted = true ∧ monitorIsRollbackEligible a = true ∧
      bootflagIsPostRollback a d.control.sys.postRb = false ∧
      monitorTryRollbackNow a ≠ .returned ∧
      d.step (.event i r) =
        Device.rollback r (monitorTryRollbackNow a) { d with control := c }) := by
  intro a c
  have hstep : d.step (.event i r) =
      if c.halted then Device.rollback r (monitorTryRollbackNow a) { d with control := c }
      else { d with control := c } := rfl
  rw [hstep]
  by_cases hev : i.ev = .tcpAuth
  · have hh : c.halted = false := by
      have := Control.halted_tcpAuth a d.control
      rw [← hev, h.awake] at this
      exact this
    exact .inl ⟨hh, if_neg (by simp [hh])⟩
  · have heff : RollbackEffect a d.control c := by
      have hc : c = d.control.handle a i.ev := if_neg (by simp [h.awake])
      rw [hc]
      exact rollbackEffect_handle _ _ hev
    cases heff with
    | runs hh hf => exact .inl ⟨hh.trans h.awake, if_neg (by simp [hh, h.awake])⟩
    | official helig hclear how hh hf =>
      refine .inr ⟨hh, helig, hclear, ?_, if_pos hh⟩
      rw [how]
      exact RollbackEnd.noConfusion
    | manual helig hclear t how hh hf =>
      refine .inr ⟨hh, helig, hclear, ?_, if_pos hh⟩
      rw [how]
      exact RollbackEnd.noConfusion

theorem Device.Awake.step (h : d.Awake) (ev : DeviceEv) : (d.step ev).Awake := by
  cases ev with
  | reset r => exact awake_restart r d
  | event i r =>
    rcases step_event_cases h i r with ⟨hc, heq⟩ | ⟨-, -, -, hhow, heq⟩
    · rw [heq]
      exact ⟨h.running, hc⟩
    · rw [heq]
      exact awake_rollback r hhow _

/-- **Between its steps** the device runs the partition it boots. -/
theorem Device.Awake.live (h : d.Awake) (ev : UpdateEv) : (d.live ev).Awake := by
  cases ev with
  | device ev markOk =>
    simp only [Device.live]
    split
    · exact (h.step ev).setImg _ _
    · exact h.step ev
  | update p r =>
    simp only [Device.live]
    split
    · exact awake_restart r _
    · exact h

end

/-! ## A proven image stays -/

/-- The AUTH finds an image that is not on trial, or reads that it is and marks it. -/
def Device.Marks (d : Device) (a : Answers) (markOk : Bool) : Prop :=
  freshImg (d.img d.running) = 0 ∨ a.imgState ≠ none ∧ markOk = true

/-- The device runs partition `p`, which is not on trial, after these rollbacks. -/
structure Device.Pinned (p : AppPart) (officials manuals : Nat) (d : Device) : Prop
    extends d.Awake where
  runs : d.running = p
  proven : freshImg (d.img p) = 0
  officials : d.officials = officials
  manuals : d.manuals = manuals

section
variable {p : AppPart} {n m : Nat} {d : Device}

@[simp] theorem img_setImg_valid (p : AppPart) (d : Device) :
    freshImg ((d.setImg p .valid).img p) = 0 := by
  cases p <;> rfl

/-- Marking the running image VALID. -/
theorem Device.Pinned.setImg (h : d.Pinned p n m) : (d.setImg d.running .valid).Pinned p n m where
  toAwake := h.toAwake.setImg _ _
  runs := by rw [running_setImg, h.runs]
  proven := by rw [h.runs, img_setImg_valid]
  officials := by rw [officials_setImg, h.officials]
  manuals := by rw [manuals_setImg, h.manuals]

/-- An image that is not on trial is not eligible. -/
theorem Device.Pinned.not_eligible (h : d.Pinned p n m) (a : Answers) :
    monitorIsRollbackEligible (d.answers a) ≠ true := by
  intro helig
  have hfresh := freshImg_of_eligible helig
  rw [h.runs, h.proven] at hfresh
  cases hfresh

/-- The bootloader boots it as it is. -/
theorem Device.Pinned.restart (h : d.Pinned p n m) (r : Restart) : (d.restart r).Pinned p n m := by
  obtain ⟨-, hrun, -, -, hoff, hman⟩ := d.restart_frame r
  refine ⟨awake_restart r d, ?_, ?_, hoff.trans h.officials, hman.trans h.manuals⟩
  · rw [hrun, ← h.running, h.runs]
  · have hnew : ¬ (r.verify = true ∧ d.img d.boot = some .new) := by
      rintro ⟨-, hnew⟩
      have hproven := h.proven
      rw [← h.runs, h.running, hnew] at hproven
      cases hproven
    have himg : (d.restart r).img p = d.img p := by
      unfold Device.restart
      rw [if_neg hnew]
      cases p <;> rfl
    rw [himg, h.proven]

/-- No handler reboots the device. -/
theorem Device.Pinned.step (h : d.Pinned p n m) (ev : DeviceEv) : (d.step ev).Pinned p n m := by
  cases ev with
  | reset r => exact h.restart r
  | event i r =>
    rcases step_event_cases h.toAwake i r with ⟨hc, heq⟩ | ⟨-, helig, -⟩
    · rw [heq]
      refine ⟨⟨h.running, hc⟩, h.runs, ?_, h.officials, h.manuals⟩
      have hproven := h.proven
      cases p <;> exact hproven
    · exact absurd helig (h.not_eligible i.ans)

/-- **A step** that is no update keeps the image. -/
theorem Device.Pinned.live (h : d.Pinned p n m) {ev : UpdateEv} (hev : ev.NoUpdate) :
    (d.live ev).Pinned p n m := by
  cases ev with
  | device ev markOk =>
    have hstep := h.step ev
    simp only [Device.live]
    split
    · have hrun : d.running = (d.step ev).running := h.runs.trans hstep.runs.symm
      rw [hrun]
      exact hstep.setImg
    · exact hstep
  | update p r => exact hev.elim

/-- The control plane marks an image on trial, if its state can be read. -/
theorem validMarks_tcpAuth {c : Control} (hc : c.halted = false) {a : Answers}
    (hrun : a.running ≠ none)
    (hfresh : a.imgState = some .new ∨ a.imgState = some .pendingVerify) :
    (c.step ⟨.tcpAuth, a⟩).sys.validMarks = c.sys.validMarks + 1 := by
  have hstep : (c.step ⟨.tcpAuth, a⟩).sys = tcpAuthOk a c.sys := by
    rw [Control.step, if_neg (by simp [hc])]
    rfl
  rw [hstep]
  simp [tcpAuthOk, syscoordControlPathOk, syscoordMarkTcpAuthed, hrun, hfresh]

/-- **The AUTH** that marks the running image pins it. -/
theorem Device.pinned_auth (h : d.Awake) {a : Answers} {markOk : Bool} (hmark : d.Marks a markOk)
    (r : Restart) :
    (d.live (.device (.event ⟨.tcpAuth, a⟩ r) markOk)).Pinned d.running d.officials d.manuals := by
  obtain ⟨c, hc, heq, hmarks⟩ : ∃ c : Control, c.halted = false ∧
      d.step (.event ⟨.tcpAuth, a⟩ r) = { d with control := c } ∧
      c = d.control.step ⟨.tcpAuth, d.answers a⟩ := by
    have hh := Control.halted_tcpAuth (d.answers a) d.control
    rcases step_event_cases h ⟨.tcpAuth, a⟩ r with ⟨hc, heq⟩ | ⟨hhalt, -⟩
    · exact ⟨_, hc, heq, rfl⟩
    · exact absurd (hhalt.symm.trans (hh.trans h.awake)) (by decide)
  simp only [Device.live, heq]
  rcases Nat.eq_zero_or_pos (freshImg (d.img d.running)) with hzero | hpos
  · have hpin : Device.Pinned d.running d.officials d.manuals { d with control := c } :=
      ⟨⟨h.running, hc⟩, rfl, by cases hr : d.running <;> simpa [Device.img, hr] using hzero,
        rfl, rfl⟩
    split
    · exact hpin.setImg
    · exact hpin
  · obtain ⟨hstate, rfl⟩ := hmark.resolve_left (Nat.ne_of_gt hpos)
    have hfresh : d.img d.running = some .new ∨ d.img d.running = some .pendingVerify := by
      unfold freshImg at hpos
      split at hpos
      · assumption
      · exact absurd hpos (Nat.lt_irrefl 0)
    have hmore : d.control.sys.validMarks < c.sys.validMarks := by
      obtain ⟨s, hs⟩ := Option.ne_none_iff_exists'.mp hstate
      have hrun : (d.answers a).running ≠ none := Option.some_ne_none _
      rw [hmarks, validMarks_tcpAuth h.awake hrun]
      · exact Nat.lt_succ_self _
      · simpa [Device.answers, hs] using hfresh
    rw [if_pos ⟨rfl, hmore⟩]
    have hawake : Device.Awake { d with control := c } := ⟨h.running, hc⟩
    refine ⟨hawake.setImg _ _, running_setImg _ _ _, img_setImg_valid _ _, ?_, ?_⟩
    · exact officials_setImg _ _ _
    · exact manuals_setImg _ _ _

end

/-- A restart on a platform where every call succeeds. -/
def cleanRestart (next : AppPart) : Restart := ⟨next, true, true, true, homeCfg⟩

/-- A platform on which a rollback reboots, and the state of the image can be read. -/
def updatePlatform : Answers :=
  { Answers.factory with official := none, imgState := some .undefined }

/-- A link lost twice, and a power cycle. -/
def badDay : List UpdateEv :=
  [.device (linkLost updatePlatform .factory) false,
    .device (linkLost updatePlatform .factory) false,
    .device (.reset (cleanRestart .factory)) false,
    .device (linkLost updatePlatform .factory) false]

/-- What the handler of an event reports to the monitor. -/
def Control.reported (a : Answers) (c : Control) : ControlEv → Option ErrSrc
  | .staStart => if a.getConfig ∧ c.wifi.cfg.ssid ≠ [] then none else some .noCreds
  | .staDisconnected reason => some reason.toErrSrc
  | .gotIp => some .none
  | .lostIp => if isWifiFailure (errsrcGetCode c.errsrc) then none else some .ipLost
  | .staStop | .wifiOther | .reconnTimer | .tcpTimer | .setwifi _ _ | .tcpAuth | .bleOtaStart
  | .worker => none

/-- A handler that proves no control, and reports no failure. -/
def Device.Waits (d : Device) : DeviceEv → Prop
  | .event i _ => i.ev ≠ .tcpAuth ∧ i.ev ≠ .bleOtaStart ∧
    ∀ e ∈ d.control.reported (d.answers i.ans) i.ev, e = .none
  | .reset _ => False

/-- A rollback takes the device away from partition `p`. -/
def RollbackWorks (p : AppPart) (a : Answers) (r : Restart) : Prop :=
  match monitorTryRollbackNow { a with running := some p } with
  | .official => r.next ≠ p
  | .manual _ => r.setBoot = true
  | .returned => False

/-- The device runs an unproven image in slot `p`, with the monitor armed and this flag. -/
structure Device.OnTrial (p : AppPart) (flag : Option Nat) (d : Device) : Prop
    extends d.Awake where
  runs : d.running = p
  fresh : freshImg (d.img p) = 1
  armed : d.control.sys.monitor = ⟨false, 0⟩
  postRb : d.control.sys.postRb = flag

section
variable {a : Answers} {c : Control} {d : Device} {p : AppPart} {flag : Option Nat}

/-- An armed monitor is as new after Wi-Fi goes up or down. -/
theorem armed_onWifiState (a : Answers) (up : Bool) (h : c.sys.monitor = ⟨false, 0⟩) :
    (c.onWifiState a up).sys.monitor = ⟨false, 0⟩ := by
  simp only [Control.onWifiState, syscoordOnWifiState, setMode]
  split
  · split
    · split
      · exact h
      · rfl
    · exact h
  · exact h

/-- **A handler that waits** leaves the monitor armed, and does not reboot. -/
theorem armed_handle (h : c.sys.monitor = ⟨false, 0⟩) {ev : ControlEv} (hauth : ev ≠ .tcpAuth)
    (hota : ev ≠ .bleOtaStart) (hquiet : ∀ e ∈ c.reported a ev, e = .none) :
    (c.handle a ev).sys.monitor = ⟨false, 0⟩ ∧ (c.handle a ev).halted = c.halted ∧
      (c.handle a ev).sys.postRb = c.sys.postRb := by
  cases ev with
  | tcpAuth => exact absurd rfl hauth
  | bleOtaStart => exact absurd rfl hota
  | staDisconnected reason =>
    have hnone := hquiet _ rfl
    cases reason <;> cases hnone
  | staStart =>
    simp only [Control.reported] at hquiet
    simp only [Control.handle, Control.staStart]
    split
    · exact ⟨h, rfl, rfl⟩
    · next hcfg =>
      rw [if_neg hcfg] at hquiet
      exact absurd (hquiet _ rfl) (by decide)
  | staStop =>
    exact ⟨armed_onWifiState a false h, rfl, postRb_wifiState a false c.sys⟩
  | gotIp =>
    simp only [Control.handle, Control.gotIp, Control.report_none]
    have harmed := armed_onWifiState a true h
    exact ⟨by simp [harmed], rfl, postRb_wifiState a true c.sys⟩
  | lostIp =>
    simp only [Control.reported] at hquiet
    cases hcode : isWifiFailure (errsrcGetCode c.errsrc)
    · rw [hcode, if_neg (by decide)] at hquiet
      exact absurd (hquiet _ rfl) (by decide)
    · rw [Control.handle, Control.gotIpLost_of_failure a hcode]
      exact ⟨armed_onWifiState a false h, rfl, postRb_wifiState a false c.sys⟩
  | setwifi ssid pwd =>
    simp only [Control.handle, Control.wifiSetCredentials]
    split
    · exact ⟨h, rfl, rfl⟩
    · split <;> exact ⟨h, rfl, rfl⟩
  | worker =>
    simp only [Control.handle, Control.workerStep]
    split
    · split
      · exact ⟨h, rfl, rfl⟩
      · unfold setMode
        split <;> exact ⟨h, rfl, rfl⟩
    · exact ⟨h, rfl, rfl⟩
    · exact ⟨h, rfl, rfl⟩
  | wifiOther => exact ⟨h, rfl, rfl⟩
  | reconnTimer | tcpTimer =>
    simp only [Control.handle]
    split <;> exact ⟨h, rfl, rfl⟩

/-- A report to an armed monitor reboots exactly if it may and can. -/
theorem halted_report_iff {e : ErrSrc} (he : e ≠ .none) (hh : c.halted = false)
    (h : c.sys.monitor = ⟨false, 0⟩) (hflag : c.sys.postRb = flag) :
    (c.report a e).halted = true ↔ monitorIsRollbackEligible a = true ∧
      bootflagIsPostRollback a flag = false ∧ monitorTryRollbackNow a ≠ .returned := by
  have hreboots : Reboots a c.sys.postRb c.sys.monitor ↔ monitorIsRollbackEligible a = true ∧
      bootflagIsPostRollback a flag = false ∧ monitorTryRollbackNow a ≠ .returned := by
    rw [h, hflag, Reboots]
    simp
  rw [← hreboots]
  rcases Control.report_cases a he c with ⟨hd, -⟩ | ⟨hr, heq⟩ | ⟨-, -, hr, heq⟩ | ⟨-, hpos, -⟩
  · rw [h] at hd
    cases hd
  · exact ⟨fun _ => hr, fun _ => heq⟩
  · rw [heq]
    simp [hh, hr]
  · rw [h] at hpos
    cases hpos

/-- **The first failure** reboots exactly if it may and can. -/
theorem halted_handle_iff (hh : c.halted = false) (h : c.sys.monitor = ⟨false, 0⟩) {ev : ControlEv}
    {e : ErrSrc} (hrep : c.reported a ev = some e) (he : e ≠ .none) :
    (c.handle a ev).halted = true ↔ monitorIsRollbackEligible a = true ∧
      bootflagIsPostRollback a c.sys.postRb = false ∧ monitorTryRollbackNow a ≠ .returned := by
  have harmed := armed_onWifiState a false h
  have hflag := postRb_wifiState a false c.sys
  cases ev with
  | staStart =>
    simp only [Control.reported] at hrep
    split at hrep
    · cases hrep
    · next hcfg =>
      simp only [Control.handle, Control.staStart, if_neg hcfg]
      refine halted_report_iff ErrSrc.noConfusion ?_ ?_ rfl
      · exact hh
      · exact h
  | staDisconnected reason =>
    have hne : reason.toErrSrc ≠ .none := by cases reason <;> decide
    obtain ⟨c', hc'⟩ : ∃ c' : Control, c' =
        { Control.onWifiState a false
            { c with wifi := { c.wifi with attempt := false, tcpTimer := false } } with
          errsrc := errsrcSetEnum c.errsrc reason.toErrSrc } := ⟨_, rfl⟩
    have hiff : (c'.report a reason.toErrSrc).halted = true ↔
        monitorIsRollbackEligible a = true ∧ bootflagIsPostRollback a c.sys.postRb = false ∧
          monitorTryRollbackNow a ≠ .returned := by
      refine halted_report_iff hne ?_ ?_ ?_ <;> rw [hc']
      · exact hh
      · exact harmed
      · exact hflag
    have hhandle : c.handle a (.staDisconnected reason) =
        if (c'.report a reason.toErrSrc).halted then c'.report a reason.toErrSrc
        else { c'.report a reason.toErrSrc with
          wifi := wifiBackoffSchedule a (c'.report a reason.toErrSrc).wifi } := by rw [hc']; rfl
    rw [hhandle]
    split
    · exact hiff
    · exact hiff
  | gotIp =>
    cases hrep
    exact absurd rfl he
  | lostIp =>
    simp only [Control.reported] at hrep
    split at hrep
    · cases hrep
    · next hcode =>
      have hno : ¬ isWifiFailure (errsrcGetCode (c.onWifiState a false).errsrc) = true := hcode
      rw [Control.handle, Control.gotIpLost, if_neg hno]
      refine halted_report_iff ErrSrc.noConfusion ?_ ?_ ?_
      · exact hh
      · exact harmed
      · exact hflag
  | staStop | wifiOther | reconnTimer | tcpTimer | setwifi _ _ | tcpAuth | bleOtaStart | worker =>
    cases hrep

/-- An update is on trial when it has been installed. -/
theorem Device.onTrial_install (hslot : p.isSlot = true) (r : Restart) (d : Device) :
    (d.install p r).OnTrial p d.control.sys.postRb := by
  obtain ⟨d₁, hd₁⟩ : ∃ d₁ : Device, d₁ = { d.setImg p .new with boot := p } := ⟨_, rfl⟩
  have hboot : d₁.boot = p := by rw [hd₁]
  have hpost : d₁.control.sys.postRb = d.control.sys.postRb := by
    rw [hd₁]
    exact congrArg (·.sys.postRb) (control_setImg p .new d)
  have hnew : d₁.img p = some .new := by
    rw [hd₁]
    cases p with
    | ota0 | ota1 => rfl
    | factory | other => cases hslot
  have hne : p ≠ .factory := by
    rintro rfl
    cases hslot
  have hinstall : d.install p r = d₁.restart r := by rw [hd₁]; rfl
  obtain ⟨-, hrun, -, hflag, -, -⟩ := d₁.restart_frame r
  rw [hinstall]
  refine ⟨awake_restart r d₁, hrun.trans hboot, ?_, ?_, ?_⟩
  · unfold Device.restart
    rw [hboot, hnew]
    dsimp only
    split
    · cases p with
      | ota0 | ota1 => rfl
      | factory | other => cases hslot
    · cases p with
      | ota0 | ota1 =>
        have hfresh : freshImg (d₁.img _) = 1 := congrArg freshImg hnew
        exact hfresh
      | factory | other => cases hslot
  · unfold Device.restart
    rfl
  · rw [hflag, appMain, hboot, if_neg hne, hpost]

/-- **A step** that waits leaves it on trial. -/
theorem Device.OnTrial.step (h : d.OnTrial p flag) {ev : DeviceEv} (hev : d.Waits ev) :
    (d.step ev).OnTrial p flag := by
  cases ev with
  | reset r => exact hev.elim
  | event i r =>
    obtain ⟨hauth, hota, hquiet⟩ := hev
    obtain ⟨hmon, hhalt, hpost⟩ := armed_handle h.armed hauth hota hquiet
    have hstep : d.control.step ⟨i.ev, d.answers i.ans⟩ =
        d.control.handle (d.answers i.ans) i.ev := if_neg (by simp [h.awake])
    have hrun : d.step (.event i r) =
        { d with control := d.control.handle (d.answers i.ans) i.ev } := by
      rw [← hstep] at hhalt ⊢
      exact if_neg (by simp [hhalt, h.awake])
    rw [hrun]
    refine ⟨⟨h.running, hhalt.trans h.awake⟩, h.runs, ?_, hmon, hpost.trans h.postRb⟩
    have hfresh := h.fresh
    cases p <;> exact hfresh

/-- An image on trial may be rolled back exactly if its state can be read and the flag is clear. -/
theorem Device.OnTrial.eligible_iff (h : d.OnTrial p flag) (a : Answers) :
    (monitorIsRollbackEligible (d.answers a) = true ∧
      bootflagIsPostRollback (d.answers a) d.control.sys.postRb = false) ↔
    a.imgState ≠ none ∧ flag.getD 0 = 0 := by
  have hclear : bootflagIsPostRollback (d.answers a) d.control.sys.postRb = false ↔
      flag.getD 0 = 0 := by
    rw [h.postRb]
    simp [bootflagIsPostRollback, Device.answers]
  have hfresh : d.img d.running = some .new ∨ d.img d.running = some .pendingVerify := by
    have hone := h.fresh
    rw [← h.runs, freshImg] at hone
    split at hone
    · assumption
    · cases hone
  have helig : monitorIsRollbackEligible (d.answers a) = true ↔ a.imgState ≠ none := by
    cases hs : a.imgState with
    | none =>
      simp only [monitorIsRollbackEligible, Device.answers, hs, Option.bind_none]
      cases d.running <;> simp
    | some s =>
      simp only [monitorIsRollbackEligible, Device.answers, hs, Option.bind_some]
      cases hr : d.running <;> simp_all [Device.img]
  rw [hclear, helig]

/-- The manual fallback has another target than the running partition. -/
theorem selectManualFallbackTarget_ne {t : AppPart} (hrun : a.running = some p)
    (h : selectManualFallbackTarget a = some t) : t ≠ p := by
  rintro rfl
  have hchoice : ∀ other : Option AppPart,
      (if a.find .factory ∧ a.running ≠ some .factory then some .factory
        else if other ≠ none ∧ other ≠ a.running then other else none) ≠ some t := by
    intro other hother
    rw [hrun] at hother
    split at hother
    · next hfac =>
      cases hother
      exact hfac.2 rfl
    · split at hother
      · next hne => exact hne.2 hother
      · cases hother
  exact hchoice _ h

/-- The target of a manual fallback is the selected one. -/
theorem monitorTryRollbackNow_manual {t : AppPart} (h : monitorTryRollbackNow a = .manual t) :
    selectManualFallbackTarget a = some t := by
  unfold monitorTryRollbackNow at h
  split at h
  · cases h
  · split at h
    · split at h
      · next htarget =>
        cases h
        exact htarget
      · cases h
    · cases h

/-- A rollback leads away from the partition that runs exactly if it works. -/
theorem Device.running_rollback_iff (h : d.running = p) (hboot : d.running = d.boot) {c : Control}
    (a : Answers) (r : Restart) (hret : monitorTryRollbackNow (d.answers a) ≠ .returned) :
    (Device.rollback r (monitorTryRollbackNow (d.answers a)) { d with control := c }).running ≠ p ↔
      RollbackWorks p a r := by
  have hhow : monitorTryRollbackNow { a with running := some p } =
      monitorTryRollbackNow (d.answers a) := by
    rw [← h]
    rfl
  rw [RollbackWorks, hhow]
  cases htry : monitorTryRollbackNow (d.answers a) with
  | returned => exact absurd htry hret
  | official =>
    simp only [Device.rollback]
    rw [(Device.restart_frame r _).2.1, boot_setImg]
  | manual t =>
    have hne : t ≠ p := by
      rw [← h]
      exact selectManualFallbackTarget_ne rfl (monitorTryRollbackNow_manual htry)
    simp only [Device.rollback]
    cases r.setBoot with
    | true =>
      simp only [if_true, iff_true]
      rw [(Device.restart_frame r _).2.1]
      exact hne
    | false =>
      simp only [Bool.false_eq_true, if_false, iff_false, not_not]
      rw [(Device.restart_frame r _).2.1]
      exact hboot.symm.trans h

end

/-- After a manual fallback that was never followed by an AUTH the flag is set, and an update
installed then is not left. -/
example :
    let d₀ := Run.exec Device.live
      (.powerOn (some .pendingVerify) none .ota0 (some 1) none none (cleanRestart .factory)) []
    let d := d₀.live (.update .ota1 (cleanRestart .factory))
    (d.step (linkLost updatePlatform .factory)).running = .ota1 := by
  decide

end RemoteControl
