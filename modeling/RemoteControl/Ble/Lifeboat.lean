import RemoteControl.Ble.Advertising

/-!
# What the lifeboat promises on the air

Three laws of the BLE fallback, over every order of its calls and events: an enabled lifeboat comes
back on the air, a disabled one is silent, and nobody advertises beside a connected central. Each of
them rests on a flag that only estimates what it stands for. `s_adv_running` lags behind the radio
by an acknowledgement and misses that a central ended the advertising; `s_connected` is cleared by
`ble_fallback_stop` with the link still up; and the watchdog timer, once stopped, is never started
again. Each law is about the runs in which the estimate is right where it is relied on.
-/

namespace RemoteControl

/-! ## Nobody advertises beside a connected central -/

/-- The worker takes a kick. -/
def AdvEv.isKick : AdvEv → Bool
  | .worker _ => true
  | _ => false

/-- After the step the radio is off and `s_connected` is set while a link is up, and there is one
link at most; and the worker has not asked for advertising if a link was up. -/
def Adv.OffConnected (w : Adv) (ev : AdvEv) : Prop :=
  ((w.step ev).links ≠ 0 → (w.step ev).fb.connected = true ∧ (w.step ev).advertising = false) ∧
    (w.links ≠ 0 → ev.isKick = true → (w.step ev).fb.requests = w.fb.requests) ∧
    (w.step ev).links ≤ 1

/-- `ble_fallback_stop` runs without a link, and so does the success of a start request come. -/
def Adv.LinkOk (w : Adv) : AdvEv → Prop
  | .fallbackStop _ => w.links = 0
  | .complete ok => ok = true → w.outstanding.head? = some .start → w.links = 0
  | _ => True

instance (w : Adv) (ev : AdvEv) : Decidable (w.OffConnected ev) :=
  inferInstanceAs (Decidable (_ ∧ _ ∧ _))

/-- `s_connected` is right, and there is one link at most. -/
structure Adv.OneLink (w : Adv) : Prop extends w.Consistent where
  off : w.links ≠ 0 → w.fb.connected = true ∧ w.advertising = false
  one : w.links ≤ 1

/-- **One step**: the law holds after it exactly when the flag was right where it counts. -/
theorem Adv.OneLink.offConnected_iff {w : Adv} (h : w.OneLink) (ev : AdvEv) :
    w.OffConnected ev ↔ w.LinkOk ev := by
  obtain ⟨⟨hready, -, -, hconn, hstill⟩, hoff, hone⟩ := h
  unfold Adv.OffConnected Adv.LinkOk
  cases ev with
  | fallbackStop acc => grind [Adv.step, bleFallbackStop, fbWatchdogStop, AdvEv.isKick]
  | complete ok => grind [Adv.step, fbGapEvt, fbPayloadsReady, AdvEv.isKick]
  | fallbackInit =>
    -- a first bring-up clears `s_connected`, but before it there are no links
    grind [Adv.step, bleFallbackInit, fbWatchdogStartIfNeeded, AdvEv.isKick]
  | connect =>
    -- the radio is off while a link is up, so the new link is the only one
    grind [Adv.step, bleSetConnected, AdvEv.isKick]
  | disconnect => grind [Adv.step, bleSetConnected, AdvEv.isKick]
  | worker a => grind [Adv.step, fbAdvKick]
  | lifeboatSet enable acc =>
    cases enable <;> grind [Adv.step, bleLifeboatSet, AdvEv.isKick]
  | startAdvertising => grind [Adv.step, bleStartAdvertising, AdvEv.isKick]
  | payload scanRsp ok => grind [Adv.step, fbGapEvt, fbPayloadsReady, AdvEv.isKick]
  | secReq => grind [Adv.step, fbGapEvt, fbPayloadsReady, AdvEv.isKick]
  | watch => grind [Adv.step, advWatchCb, AdvEv.isKick]

/-- **Advertising is off while a central is connected**, at every step of a run, if and only if
`ble_fallback_stop` never runs, and no start request ever succeeds, with a link up. -/
theorem advertising_off_iff (evs : List AdvEv) :
    Run.Along Adv.step Adv.OffConnected .boot evs ↔ Run.Along Adv.step Adv.LinkOk .boot evs := by
  have hboot : Adv.boot.OneLink := ⟨adv_boot_consistent, fun h => absurd rfl h, Nat.zero_le _⟩
  refine Run.along_congr hboot (fun w ev h hok => ?_) (fun w ev h => h.offConnected_iff ev) evs
  obtain ⟨hoff, -, hone⟩ := (h.offConnected_iff ev).mpr hok
  exact ⟨h.toConsistent.step ev, hoff, hone⟩

/-- The stack accepts every request of a kick. -/
def kickOk : KickAnswers := ⟨.ok, true, true⟩

/-- The first RECOVERY up to the kick: the stack comes up, the payloads are configured, and the
lifeboat is enabled. -/
def recoveryKick : List AdvEv :=
  [.fallbackInit, .payload false true, .payload true true, .lifeboatSet true true, .worker kickOk]

/-- The switch to WAIT_CONTROL or NORMAL. -/
def modeLeft : List AdvEv := [.lifeboatSet false true, .fallbackStop true]

/-- The device leaves RECOVERY with a central connected and comes back to it: it asks for
advertising beside the link, and a second central connects. -/
theorem advertising_not_off :
    ¬ Run.Along Adv.step Adv.OffConnected .boot
      (recoveryKick ++ [.complete true, .connect] ++ modeLeft ++
        [.complete true, .complete true, .fallbackInit, .lifeboatSet true true, .worker kickOk,
          .complete true, .connect]) := by
  decide

/-! ## A disabled lifeboat is silent -/

/-- With the lifeboat disabled, no kick queued and every request acknowledged, the radio is off. -/
def Adv.Silent (w : Adv) : Prop :=
  w.fb.lifeboatEnabled = false → w.kicks = 0 → w.outstanding = [] → w.advertising = false

instance (w : Adv) : Decidable w.Silent := inferInstanceAs (Decidable (_ → _ → _ → _))

/-- Where the radio can be left on for good, it is not: when the lifeboat is disabled, and when the
last acknowledgement comes, or the last kick is taken, while it is disabled. -/
def Adv.SilentOk (w : Adv) : AdvEv → Prop
  | .lifeboatSet false accepted =>
    w.kicks = 0 → w.outstanding = [] →
      w.advertising = false ∨ (w.fb.advRunning = true ∧ accepted = true)
  | .complete ok =>
    w.fb.lifeboatEnabled = false → w.kicks = 0 →
      (w.outstanding = [.start] → ok = false ∧ w.advertising = false) ∧
        (w.outstanding = [.stop] → ok = true ∨ w.advertising = false)
  | .worker _ =>
    w.fb.lifeboatEnabled = false → w.kicks = 1 → w.outstanding = [] → w.advertising = false
  | _ => True

instance decidableSilentOk (w : Adv) : (ev : AdvEv) → Decidable (w.SilentOk ev)
  | .lifeboatSet false _ => inferInstanceAs (Decidable (_ → _ → _ ∨ _))
  | .complete _ => inferInstanceAs (Decidable (_ → _ → _ ∧ _))
  | .worker _ => inferInstanceAs (Decidable (_ → _ → _ → _))
  | .lifeboatSet true _ | .fallbackInit | .fallbackStop _ | .startAdvertising | .connect
  | .disconnect | .payload _ _ | .secReq | .watch => isTrue trivial

/-- The acknowledgement of a stop. -/
theorem fbGapEvt_stop {f : Fallback}
    (h : f.advCfg = true → f.scanRspCfg = true → f.advReady = true) :
    fbGapEvt .advStopComplete f =
      if f.lifeboatEnabled && !f.connected && f.advReady && f.stackReady then
        blePost { f with advRunning := false }
      else { f with advRunning := false } := by
  simp only [fbGapEvt]
  split
  · exact fbPayloadsReady_eq (f := blePost { f with advRunning := false }) h
  · exact fbPayloadsReady_eq (f := { f with advRunning := false }) h

section
variable {w : Adv} (h : w.Consistent) (hs : w.Silent)
include h hs

/-- **The acknowledgement.** A start turns the radio on, and the handler does not look at
`s_lifeboat_enabled`; a stop turns it off. -/
theorem Adv.Consistent.silent_complete_iff (ok : Bool) :
    (w.step (.complete ok)).Silent ↔ w.SilentOk (.complete ok) := by
  cases hout : w.outstanding with
  | nil =>
    have hsame : w.step (.complete ok) = w := by simp only [Adv.step, hout]
    rw [hsame]
    exact iff_of_true hs (by simp [Adv.SilentOk, hout])
  | cons r rest =>
    cases r with
    | start =>
      have hstep : w.step (.complete ok) =
          { w with
            fb := { w.fb with advRunning := ok }
            advertising := ok || w.advertising
            outstanding := rest } := by
        simp only [Adv.step, hout, fbGapEvt]
        rw [fbPayloadsReady_eq (f := { w.fb with advRunning := ok }) h.configured]
      rw [hstep]
      simp [Adv.Silent, Adv.SilentOk, Adv.kicks, hout]
    | stop =>
      have hfb := fbGapEvt_stop (f := w.fb) h.configured
      cases hen : w.fb.lifeboatEnabled with
      | true =>
        refine iff_of_true (fun hoff => ?_) fun hoff => by rw [hen] at hoff; cases hoff
        have hkept : (w.step (.complete ok)).fb.lifeboatEnabled = w.fb.lifeboatEnabled := by
          simp only [Adv.step, hout, hfb]
          split <;> rfl
        rw [hkept, hen] at hoff
        cases hoff
      | false =>
        have hstep : w.step (.complete ok) =
            { w with
              fb := { w.fb with advRunning := false }
              advertising := !ok && w.advertising
              outstanding := rest } := by
          simp only [Adv.step, hout]
          rw [hfb, if_neg (by simp [hen])]
        rw [hstep]
        simp only [Adv.Silent, Adv.SilentOk, Adv.kicks, hout, hen]
        grind

omit h in
/-- A kick that is taken with the lifeboat disabled does nothing. -/
theorem Adv.silent_worker_iff (a : KickAnswers) :
    (w.step (.worker a)).Silent ↔ w.SilentOk (.worker a) := by
  cases hq : w.fb.bleQ with
  | none =>
    have hsame : w.step (.worker a) = w := by simp only [Adv.step, hq]
    rw [hsame]
    exact iff_of_true hs (by simp [Adv.SilentOk, Adv.kicks, hq])
  | some n =>
    cases n with
    | zero =>
      have hsame : w.step (.worker a) = w := by simp only [Adv.step, hq]
      rw [hsame]
      exact iff_of_true hs (by simp [Adv.SilentOk, Adv.kicks, hq])
    | succ n =>
      have hframe := fbAdvKick_frame a { w.fb with bleQ := some n }
      cases hen : w.fb.lifeboatEnabled with
      | true =>
        refine iff_of_true (fun hoff => ?_) fun hoff => by rw [hen] at hoff; cases hoff
        have hkept : (w.step (.worker a)).fb.lifeboatEnabled = w.fb.lifeboatEnabled := by
          simp only [Adv.step, hq]
          rw [hframe]
        rw [hkept, hen] at hoff
        cases hoff
      | false =>
        have hstep : w.step (.worker a) = { w with fb := { w.fb with bleQ := some n } } := by
          simp only [Adv.step, hq, fbAdvKick, hen, Bool.not_false, if_true, List.append_nil]
        rw [hstep]
        simp [Adv.Silent, Adv.SilentOk, Adv.kicks, hq, hen]

omit h hs in
/-- `ble_lifeboat_set(false)` asks for a stop only where `s_adv_running` is set. -/
theorem Adv.silent_disable_iff (acc : Bool) :
    (w.step (.lifeboatSet false acc)).Silent ↔ w.SilentOk (.lifeboatSet false acc) := by
  have hkicks : (w.step (.lifeboatSet false acc)).kicks = w.kicks := by
    simp [Adv.kicks, Adv.step, bleLifeboatSet]
  have hout : (w.step (.lifeboatSet false acc)).outstanding = [] ↔
      w.outstanding = [] ∧ ¬ (w.fb.advRunning = true ∧ acc = true) := by
    simp only [Adv.step, Fallback.stops, List.append_eq_nil_iff, ← Bool.and_eq_true]
    refine and_congr_right fun _ => ?_
    split <;> simp_all
  have hradio : (w.step (.lifeboatSet false acc)).advertising = w.advertising := rfl
  have hoff : (w.step (.lifeboatSet false acc)).fb.lifeboatEnabled = false := by simp [Adv.step]
  rw [Adv.Silent, hkicks, hout, hradio, Adv.SilentOk]
  grind

/-- **The calls and events that leave the radio as it was**: they turn it off, or enable the
lifeboat, or change nothing it depends on. -/
theorem Adv.Consistent.silent_of_harmless {ev : AdvEv}
    (hev : match ev with
      | .worker _ | .complete _ | .lifeboatSet false _ => False
      | _ => True) : (w.step ev).Silent := by
  cases ev with
  | worker | complete => exact hev.elim
  | lifeboatSet enable acc =>
    cases enable with
    | false => exact hev.elim
    | true => exact fun hoff => by simp [Adv.step] at hoff
  | fallbackStop acc =>
    refine fun hoff hkicks hout => hs ?_ ?_ (List.append_eq_nil_iff.mp hout).1
    · simpa [Adv.step] using hoff
    · simpa [Adv.kicks, Adv.step, bleFallbackStop, fbWatchdogStop] using hkicks
  | fallbackInit =>
    unfold Adv.Silent at *
    grind [Adv.step, bleFallbackInit, fbWatchdogStartIfNeeded, Adv.kicks]
  | connect =>
    unfold Adv.Silent at *
    grind [Adv.step]
  | disconnect =>
    unfold Adv.Silent at *
    grind [Adv.step, bleSetConnected, Adv.kicks]
  | startAdvertising =>
    unfold Adv.Silent at *
    grind [Adv.step, bleStartAdvertising, Adv.kicks]
  | payload scanRsp ok =>
    have hradio : (w.step (.payload scanRsp ok)).advertising = w.advertising := by
      simp only [Adv.step]
      split <;> rfl
    cases hready : w.fb.advReady with
    | false => exact fun _ _ _ => hradio.trans (h.unready hready).2.1
    | true =>
      unfold Adv.Silent at *
      grind [Adv.step, fbGapEvt, fbPayloadsReady, Adv.kicks]
  | secReq =>
    simp only [Adv.step, fbGapEvt, fbPayloadsReady_eq h.configured]
    split <;> exact hs
  | watch =>
    unfold Adv.Silent at *
    grind [Adv.step, advWatchCb, Fallback.idleOnAir, Adv.kicks]

/-- **One step**: a silent lifeboat stays so exactly if the radio is not left on. -/
theorem Adv.Consistent.silent_iff (ev : AdvEv) : (w.step ev).Silent ↔ w.SilentOk ev := by
  cases ev with
  | complete ok => exact h.silent_complete_iff hs ok
  | worker a => exact Adv.silent_worker_iff hs a
  | lifeboatSet enable acc =>
    cases enable with
    | false => exact Adv.silent_disable_iff acc
    | true => exact iff_of_true (h.silent_of_harmless hs trivial) trivial
  | _ => exact iff_of_true (h.silent_of_harmless hs trivial) trivial

end

/-- **A disabled lifeboat is silent**, after every step of a run, if and only if the radio is not
left on where it can be left on for good. -/
theorem lifeboat_silent_iff (evs : List AdvEv) :
    Run.Along Adv.step (fun w ev => (w.step ev).Silent) .boot evs ↔
      Run.Along Adv.step Adv.SilentOk .boot evs := by
  have hstep : ∀ (w : Adv) (ev : AdvEv), (w.Consistent ∧ w.Silent) → w.SilentOk ev →
      (w.step ev).Consistent ∧ (w.step ev).Silent :=
    fun w ev h hok => ⟨h.1.step ev, (h.1.silent_iff h.2 ev).mpr hok⟩
  exact Run.along_congr ⟨adv_boot_consistent, fun _ _ _ => rfl⟩ hstep
    (fun w ev h => h.1.silent_iff h.2 ev) evs

/-- The device leaves RECOVERY between the start request and its acknowledgement. -/
theorem lifeboat_not_silent :
    ¬ (Run.exec Adv.step .boot (recoveryKick ++ modeLeft ++ [.complete true])).Silent := by
  decide

/-- The radio is off when all requests are acknowledged: it is off now and none is outstanding, or
the last one is a stop. -/
def Adv.EndsSilent (w : Adv) : Prop :=
  (w.advertising = false ∧ w.outstanding = []) ∨ w.outstanding.getLast? = some .stop

/-- The lifeboat is disabled with `s_adv_running` set, so that a stop is requested and accepted, or
with nothing left to stop; and while it is disabled, a stop succeeds. -/
def Adv.DisableOk (w : Adv) : AdvEv → Prop
  | .lifeboatSet false accepted => (w.fb.advRunning = true ∧ accepted = true) ∨ w.EndsSilent
  | .complete ok =>
    w.fb.lifeboatEnabled = false → w.outstanding.head? = some .stop →
      ok = true ∨ w.advertising = false
  | _ => True

instance (w : Adv) : Decidable w.EndsSilent := inferInstanceAs (Decidable (_ ∧ _ ∨ _ = _))

instance decidableDisableOk (w : Adv) : (ev : AdvEv) → Decidable (w.DisableOk ev)
  | .lifeboatSet false _ => inferInstanceAs (Decidable (_ ∧ _ ∨ w.EndsSilent))
  | .complete _ => inferInstanceAs (Decidable (_ → _ → _ ∨ _))
  | .lifeboatSet true _ | .fallbackInit | .fallbackStop _ | .startAdvertising | .connect
  | .disconnect | .payload _ _ | .secReq | .worker _ | .watch => isTrue trivial

/-- A disabled lifeboat asks for no start, so what would end silent keeps ending so. -/
theorem endsSilent_step {w : Adv} (h : w.fb.lifeboatEnabled = false → w.EndsSilent) {ev : AdvEv}
    (hok : w.DisableOk ev) :
    (w.step ev).fb.lifeboatEnabled = false → (w.step ev).EndsSilent := by
  unfold Adv.EndsSilent Adv.DisableOk at *
  cases ev with
  | lifeboatSet enable acc =>
    cases enable <;> grind [Adv.EndsSilent, Adv.step, bleLifeboatSet, Fallback.stops]
  | complete ok => grind [Adv.step, fbGapEvt, fbPayloadsReady]
  | fallbackStop acc => grind [Adv.step, bleFallbackStop, fbWatchdogStop, Fallback.stops]
  | worker a => grind [Adv.step, fbAdvKick]
  | connect => grind [Adv.step, bleSetConnected]
  | disconnect => grind [Adv.step, bleSetConnected]
  | fallbackInit => grind [Adv.step, bleFallbackInit, fbWatchdogStartIfNeeded]
  | startAdvertising => grind [Adv.step, bleStartAdvertising]
  | payload scanRsp ok => grind [Adv.step, fbGapEvt, fbPayloadsReady]
  | secReq => grind [Adv.step, fbGapEvt, fbPayloadsReady]
  | watch => grind [Adv.step, advWatchCb]

/-- **What is enough**: that the lifeboat is never disabled between a start request and its
acknowledgement, and that the stop requests are accepted and succeed. -/
theorem lifeboat_silent (evs : List AdvEv) (hok : Run.Along Adv.step Adv.DisableOk .boot evs) :
    (Run.exec Adv.step .boot evs).Silent := by
  have hstep : ∀ (w : Adv) (ev : AdvEv), (w.fb.lifeboatEnabled = false → w.EndsSilent) →
      w.DisableOk ev → (w.step ev).fb.lifeboatEnabled = false → (w.step ev).EndsSilent :=
    fun w ev h hev => endsSilent_step h hev
  have hends : (Run.exec Adv.step .boot evs).fb.lifeboatEnabled = false →
      (Run.exec Adv.step .boot evs).EndsSilent := by
    refine hok.exec_inv ?_ hstep
    exact fun _ => .inl ⟨rfl, rfl⟩
  intro hoff _ hnone
  rcases hends hoff with ⟨hradio, -⟩ | hlast
  · exact hradio
  · rw [hnone] at hlast
    cases hlast

example :
    Run.Along Adv.step Adv.DisableOk .boot
      (recoveryKick ++ .complete true :: modeLeft ++ [.complete true, .complete true]) := by
  decide

/-! ## The lifeboat comes back on the air -/

/-- The lifeboat should be on the air: enabled, with the stack and the payloads ready, and no
link. -/
def Adv.Due (w : Adv) : Prop :=
  w.fb.lifeboatEnabled = true ∧ w.fb.stackReady = true ∧ w.fb.advReady = true ∧ w.links = 0

/-- It advertises, or the stack owes an event. -/
def Adv.Busy (w : Adv) : Prop := w.advertising = true ∨ w.outstanding ≠ []

/-- A lifeboat that should be on the air is, or something will wake it: the stack, a kick, or the
next tick of the watchdog. -/
def Adv.Alive (w : Adv) : Prop :=
  w.Due → w.Busy ∨ 0 < w.kicks ∨ (w.fb.advWatch = some true ∧ w.fb.idleOnAir = true)

/-- Where a wake-up can be lost, another one is pending: at a kick whose start is refused, at a
start that fails, at `ble_fallback_stop`, and when the payloads become ready. -/
def Adv.WakeOk (w : Adv) : AdvEv → Prop
  | .worker a =>
    w.Due → w.kicks = 1 → w.Busy ∨ a.accepted ≠ [] ∨
      (w.fb.advWatch = some true ∧ w.fb.advRunning = false)
  | .complete ok =>
    w.Due → ok = false → w.outstanding.head? = some .start →
      w.advertising = true ∨ w.outstanding.tail ≠ [] ∨ 0 < w.kicks ∨ w.fb.advWatch = some true
  | .fallbackStop accepted =>
    w.Due → w.Busy ∨ 0 < w.kicks ∨ (w.fb.advRunning = true ∧ accepted = true)
  | .payload scanRsp ok =>
    w.fb.lifeboatEnabled = true → w.fb.stackReady = true → w.fb.advReady = false → ok = true →
      (if scanRsp then w.fb.advCfg else w.fb.scanRspCfg) = true →
      w.fb.advStartDeferred = true ∨ w.fb.advWatch = some true
  | _ => True

instance (w : Adv) : Decidable w.Due := inferInstanceAs (Decidable (_ ∧ _))

instance (w : Adv) : Decidable w.Busy := inferInstanceAs (Decidable (_ ∨ _))

instance (w : Adv) : Decidable w.Alive := inferInstanceAs (Decidable (_ → _))

/-- A lifeboat with a kick in the queue is alive. -/
theorem alive_of_kicks {w : Adv} (h : 0 < w.kicks) : w.Alive := fun _ => .inr (.inl h)

/-- A step that leaves the lifeboat something to do elsewhere leaves it alive. -/
theorem alive_of_not_due {w : Adv} (h : ¬ w.Due) : w.Alive := fun hd => absurd hd h

/-- Without a link `s_connected` is clear, so only `s_adv_running` can hold the watchdog back. -/
theorem Adv.Consistent.idleOnAir_iff {w : Adv} (h : w.Consistent) (hd : w.Due) :
    w.fb.idleOnAir = true ↔ w.fb.advRunning = false := by
  obtain ⟨hen, hst, hrd, hl⟩ := hd
  have hconn : w.fb.connected = false := by
    by_contra hc
    exact h.connected (by simpa using hc) hl
  simp [Fallback.idleOnAir, hen, hst, hrd, hconn]

section
variable {w : Adv} (h : w.Consistent) (ha : w.Alive)
include h ha

/-- **The calls and events that lose no wake-up**: they post a kick, or leave the lifeboat no
reason to be on the air, or change nothing it waits for. -/
theorem Adv.Consistent.alive_of_harmless {ev : AdvEv}
    (hev : match ev with
      | .worker _ | .complete _ | .fallbackStop _ | .payload _ _ => False
      | _ => True) : (w.step ev).Alive := by
  have hqueue : w.Due → w.fb.bleQ ≠ none := fun hd => h.queue hd.2.1
  cases ev with
  | worker | complete | fallbackStop | payload => exact hev.elim
  | fallbackInit =>
    simp only [Adv.step, bleFallbackInit]
    split
    · exact ha
    · exact alive_of_not_due fun hd => by cases hd.2.2.1
  | lifeboatSet enable acc =>
    cases enable with
    | false => exact alive_of_not_due fun hd => by simp [Adv.step, Adv.Due] at hd
    | true =>
      simp only [Adv.step, bleLifeboatSet, Bool.not_true, Bool.false_eq_true, if_false]
      split
      · next hc =>
        simp only [Bool.and_eq_true] at hc
        exact alive_of_kicks (kicks_blePost (h.queue hc.2))
      · next hc =>
        apply alive_of_not_due
        rintro ⟨-, hst, hrd, hl⟩
        have hconn := h.connected
        simp_all
  | startAdvertising =>
    simp only [Adv.step, bleStartAdvertising]
    split
    · exact ha
    · split
      · next hc =>
        apply alive_of_not_due
        rintro ⟨-, hst, hrd, -⟩
        simp_all
      · next hc => exact alive_of_kicks (kicks_blePost (h.queue (by simp_all)))
  | connect =>
    simp only [Adv.step]
    split
    · exact alive_of_not_due fun hd => absurd hd.2.2.2 (Nat.succ_ne_zero _)
    · exact ha
  | disconnect =>
    simp only [Adv.step]
    split
    · simp only [bleSetConnected, Bool.not_false, Bool.true_and]
      split
      · split
        · next hc =>
          simp only [Bool.and_eq_true] at hc
          exact alive_of_kicks (kicks_blePost (h.queue hc.2))
        · next hc =>
          apply alive_of_not_due
          rintro ⟨-, hst, hrd, -⟩
          simp_all
      · next hc => exact alive_of_not_due fun hd => hc hd.1
    · exact ha
  | secReq =>
    simp only [Adv.step, fbGapEvt, fbPayloadsReady_eq h.configured]
    split <;> exact ha
  | watch =>
    simp only [Adv.step, advWatchCb]
    split
    · split
      · next hidle =>
        refine alive_of_kicks (kicks_blePost (h.queue ?_))
        simp only [Fallback.idleOnAir, Bool.and_eq_true] at hidle
        exact hidle.1.2
      · exact ha
    · exact ha

/-- A kick that is taken asks for a start; the last one has to be accepted, if nothing else is
pending. -/
theorem Adv.Consistent.alive_worker_iff (a : KickAnswers) :
    (w.step (.worker a)).Alive ↔ w.WakeOk (.worker a) := by
  cases hq : w.fb.bleQ with
  | none =>
    have hnot : ¬ w.Due := fun hd => h.queue hd.2.1 hq
    have hsame : w.step (.worker a) = w := by simp only [Adv.step, hq]
    rw [hsame]
    exact iff_of_true ha fun hd => absurd hd hnot
  | some n =>
    cases n with
    | zero =>
      have hsame : w.step (.worker a) = w := by simp only [Adv.step, hq]
      rw [hsame]
      refine iff_of_true ha fun _ h1 => ?_
      simp [Adv.kicks, hq] at h1
    | succ n =>
      obtain ⟨fb, hfb⟩ : ∃ fb, fbAdvKick a { w.fb with bleQ := some n } = fb := ⟨_, rfl⟩
      have hframe := fbAdvKick_frame a { w.fb with bleQ := some n }
      have hacc := accepted_fbAdvKick a { w.fb with bleQ := some n }
      have hstep : w.step (.worker a) =
          { w with fb := fb.1, outstanding := w.outstanding ++ fb.2 } := by
        simp only [Adv.step, hq, hfb]
      rw [hfb] at hframe hacc
      have hdue : (w.step (.worker a)).Due ↔ w.Due := by
        rw [hstep, Adv.Due, Adv.Due, hframe]
      have hkicks : w.kicks = n + 1 := by simp [Adv.kicks, hq]
      have hkicks' : (w.step (.worker a)).kicks = n := by
        rw [hstep, Adv.kicks, hframe]
        rfl
      have hwatch : (w.step (.worker a)).fb.advWatch = w.fb.advWatch := by rw [hstep, hframe]
      have hidle : (w.step (.worker a)).fb.idleOnAir = w.fb.idleOnAir := by rw [hstep, hframe]; rfl
      unfold Adv.Alive Adv.WakeOk
      rw [hdue, hkicks', hwatch, hidle, hkicks]
      refine forall_congr' fun hd => ?_
      have hacc' : fb.2 = a.accepted := by
        have hconn := h.connected
        obtain ⟨hen, hst, hrd, hl⟩ := hd
        rw [hacc, if_pos]
        simp [Fallback.mayStart, hen, hst, hrd]
        simpa [hl] using hconn
      have hbusy : (w.step (.worker a)).Busy ↔ w.Busy ∨ a.accepted ≠ [] := by
        rw [hstep, Adv.Busy, Adv.Busy, hacc']
        simp only [ne_eq, List.append_eq_nil_iff, not_and_or, or_assoc]
      rw [hbusy, h.idleOnAir_iff hd]
      constructor
      · rintro ((hb | hb) | hn | hw) h1
        · exact .inl hb
        · exact .inr (.inl hb)
        · omega
        · exact .inr (.inr hw)
      · intro hok
        rcases Nat.eq_zero_or_pos n with rfl | hn
        · rcases hok rfl with hb | hb | hw
          · exact .inl (.inl hb)
          · exact .inl (.inr hb)
          · exact .inr (.inr hw)
        · exact .inr (.inl hn)

/-- A start that fails leaves the watchdog, or whatever else is pending. -/
theorem Adv.Consistent.alive_complete_iff (ok : Bool) :
    (w.step (.complete ok)).Alive ↔ w.WakeOk (.complete ok) := by
  cases hout : w.outstanding with
  | nil =>
    have hsame : w.step (.complete ok) = w := by simp only [Adv.step, hout]
    rw [hsame]
    exact iff_of_true ha fun _ _ hhead => by simp [hout] at hhead
  | cons r rest =>
    cases r with
    | start =>
      cases ok with
      | true =>
        refine iff_of_true (fun _ => .inl (.inl ?_)) fun _ hok => by cases hok
        simp [Adv.step, hout]
      | false =>
        have hstep : w.step (.complete false) =
            { w with fb := { w.fb with advRunning := false }, outstanding := rest } := by
          simp only [Adv.step, hout, fbGapEvt, Bool.false_or]
          rw [fbPayloadsReady_eq (f := { w.fb with advRunning := false }) h.configured]
        have hdue : (w.step (.complete false)).Due ↔ w.Due := by rw [hstep]; rfl
        have hidle : w.Due → (w.step (.complete false)).fb.idleOnAir = true := by
          intro hd
          have hc' := h.step (.complete false)
          rw [hc'.idleOnAir_iff (hdue.mpr hd), hstep]
        unfold Adv.Alive Adv.WakeOk
        rw [hdue]
        refine forall_congr' fun hd => ?_
        simp only [hidle hd, hout]
        rw [hstep]
        simp [Adv.Busy, Adv.kicks, or_assoc]
    | stop =>
      refine iff_of_true (fun hd => .inr (.inl ?_)) fun _ _ hhead => by simp [hout] at hhead
      simp only [Adv.step, hout, fbGapEvt] at hd ⊢
      split at hd
      · next hc =>
        rw [if_pos hc,
          fbPayloadsReady_eq (f := blePost { w.fb with advRunning := false }) h.configured]
        simp only [Bool.and_eq_true] at hc
        exact kicks_blePost (h.queue hc.2)
      · next hc =>
        rw [fbPayloadsReady_eq (f := { w.fb with advRunning := false }) h.configured] at hd
        obtain ⟨hen, hst, hrd, hl⟩ := hd
        have hconn := h.connected
        simp_all

omit h ha in
/-- `ble_fallback_stop` stops the watchdog. -/
theorem alive_stop_iff (acc : Bool) :
    (w.step (.fallbackStop acc)).Alive ↔ w.WakeOk (.fallbackStop acc) := by
  have hdue : (w.step (.fallbackStop acc)).Due ↔ w.Due := by
    simp [Adv.Due, Adv.step, bleFallbackStop, fbWatchdogStop]
  have hkicks : (w.step (.fallbackStop acc)).kicks = w.kicks := by
    simp [Adv.kicks, Adv.step, bleFallbackStop, fbWatchdogStop]
  have hwatch : (w.step (.fallbackStop acc)).fb.advWatch ≠ some true := advWatch_stop w.fb
  have hbusy : (w.step (.fallbackStop acc)).Busy ↔
      w.Busy ∨ (w.fb.advRunning = true ∧ acc = true) := by
    unfold Adv.Busy
    simp only [Adv.step, Fallback.stops, ← Bool.and_eq_true]
    split
    · next hs => simp [hs]
    · next hs => simp [hs]
  unfold Adv.Alive Adv.WakeOk
  rw [hdue, hkicks, hbusy]
  refine forall_congr' fun hd => ?_
  simp only [hwatch, false_and, or_false, or_assoc]
  exact or_congr_right or_comm

omit ha in
/-- The moment the payloads become ready: nothing is on the air yet, so it takes a deferred start or
the watchdog. -/
theorem Adv.Consistent.alive_ready_iff {f : Fallback}
    (hf : f = { w.fb with advCfg := true, scanRspCfg := true }) (hst : w.fb.stackReady = true)
    (hrd : w.fb.advReady = false) :
    Adv.Alive { w with fb := fbPayloadsReady f } ↔
      (w.fb.lifeboatEnabled = true → w.fb.advStartDeferred = true ∨ w.fb.advWatch = some true) := by
  obtain ⟨hrun, hradio, hout, hkicks, hl⟩ := h.unready hrd
  have hconn : w.fb.connected = false := by
    by_contra hc
    exact h.connected (by simpa using hc) hl
  subst hf
  by_cases hdef : w.fb.advStartDeferred = true
  · refine iff_of_true (alive_of_kicks ?_) fun _ => .inl hdef
    simp only [fbPayloadsReady, Bool.and_self, if_true, hrd, Bool.not_false, hdef]
    exact kicks_blePost (h.queue hst)
  · have hq : w.fb.bleQ.getD 0 = 0 := hkicks
    simp [fbPayloadsReady, hrd, hdef, Adv.Alive, Adv.Due, Adv.Busy, Adv.kicks, hq, hradio, hout,
      hst, hl, Fallback.idleOnAir, hconn, hrun]
    exact forall_congr' fun hen => and_iff_left hen

/-- **A payload that is configured** makes the lifeboat ready when it is the second one. -/
theorem Adv.Consistent.alive_payload_iff (scanRsp ok : Bool) :
    (w.step (.payload scanRsp ok)).Alive ↔ w.WakeOk (.payload scanRsp ok) := by
  by_cases hst : w.fb.stackReady = true
  · obtain ⟨f, hf⟩ : ∃ f : Fallback, (if ok then
        if scanRsp then { w.fb with scanRspCfg := true } else { w.fb with advCfg := true }
      else w.fb) = f := ⟨_, rfl⟩
    have hstep : w.step (.payload scanRsp ok) = { w with fb := fbPayloadsReady f } := by
      simp only [Adv.step]
      rw [if_pos hst, ← hf]
      cases scanRsp <;> cases ok <;> rfl
    rw [hstep]
    by_cases hready : w.fb.advReady = false ∧ ok = true ∧
        (if scanRsp then w.fb.advCfg else w.fb.scanRspCfg) = true
    · obtain ⟨hrd, hok, hother⟩ := hready
      have hboth : f = { w.fb with advCfg := true, scanRspCfg := true } := by
        rw [← hf]
        cases scanRsp <;> simp_all
      rw [h.alive_ready_iff hboth hst hrd]
      simp only [Adv.WakeOk, hst, hrd, hok, hother, forall_const]
    · -- nothing becomes ready: the event sets a bit, if anything
      have hsame : fbPayloadsReady f = f := by
        refine fbPayloadsReady_eq fun h1 h2 => ?_
        have hcfg := h.configured
        subst hf
        cases scanRsp <;> cases ok <;> simp_all
      rw [hsame]
      refine iff_of_true ?_ fun _ _ hrd hok hother => absurd ⟨hrd, hok, hother⟩ hready
      subst hf
      cases scanRsp <;> cases ok <;> exact ha
  · have hsame : w.step (.payload scanRsp ok) = w := by
      simp only [Adv.step]
      rw [if_neg hst]
    rw [hsame]
    exact iff_of_true ha fun _ hst' => absurd hst' hst

/-- **One step** of a lifeboat that is alive. -/
theorem Adv.Consistent.alive_iff (ev : AdvEv) : (w.step ev).Alive ↔ w.WakeOk ev := by
  cases ev with
  | worker a => exact h.alive_worker_iff ha a
  | complete ok => exact h.alive_complete_iff ha ok
  | fallbackStop acc => exact alive_stop_iff acc
  | payload scanRsp ok => exact h.alive_payload_iff ha scanRsp ok
  | _ => exact iff_of_true (h.alive_of_harmless ha trivial) trivial

end

/-- **The lifeboat always comes back on the air**, after every step of a run, if and only if at
every step at which a wake-up can be lost another one is pending. -/
theorem lifeboat_alive_iff (evs : List AdvEv) :
    Run.Along Adv.step (fun w ev => (w.step ev).Alive) .boot evs ↔
      Run.Along Adv.step Adv.WakeOk .boot evs := by
  have hstep : ∀ (w : Adv) (ev : AdvEv), (w.Consistent ∧ w.Alive) → w.WakeOk ev →
      (w.step ev).Consistent ∧ (w.step ev).Alive :=
    fun w ev h hok => ⟨h.1.step ev, (h.1.alive_iff h.2 ev).mpr hok⟩
  refine Run.along_congr ?_ hstep (fun w ev h => h.1.alive_iff h.2 ev) evs
  exact ⟨adv_boot_consistent, fun hd => by cases hd.1⟩

/-- In the second RECOVERY the watchdog does not run any more, and the start is refused. -/
theorem lifeboat_not_alive :
    ¬ Run.Along Adv.step (fun w ev => (w.step ev).Alive) .boot
      (recoveryKick ++ .complete true :: modeLeft ++ [.complete true, .complete true,
        .fallbackInit, .lifeboatSet true true, .worker ⟨.error, true, true⟩]) := by
  decide

end RemoteControl
