import RemoteControl.Lib.Run
import RemoteControl.Lib.Trace
import RemoteControl.Sys.Monitor

/-!
# The escalation automaton of `monitor.c`

Three functions move the two latches of the monitor, in any order and with any answers of the
platform. A run keeps a trace of the calls and what each asked for; a rollback that works ends in a
boot, with the latches as a boot finds them. `Escalation` says from the trace alone when the
recovery callback is invoked and when a rollback is attempted: the latches are not in it. That the
code does so is the agreement of the latches with the trace (`MonitorAgrees`), which every call
preserves (`MonitorAgrees.step`).
-/

namespace RemoteControl

open Trace

/-! ## The calls -/

/-- The functions that move the latches. -/
inductive MonitorCall where
  | start
  | controlOk
  | wifiError (e : ErrSrc)
  deriving DecidableEq, Repr

/-- A call, with the answers of the platform and the stored boot flag at that time. -/
structure MonitorInput where
  call : MonitorCall
  answers : Answers
  flag : Option Nat

/-- What the call does to the latches, and what it asks for. -/
def MonitorInput.apply (i : MonitorInput) (m : Monitor) : Monitor × Verdict :=
  match i.call with
  | .start => (healthMonitorStart m, .quiet)
  | .controlOk => (healthMonitorControlOk m, .quiet)
  | .wifiError e => monitorOnWifiError i.answers i.flag e m

/-- The rollback reboots. -/
def Verdict.reboots : Verdict → Bool
  | .rollback .official | .rollback (.manual _) => true
  | _ => false

/-- A call that was made, and what it asked for. -/
structure MonitorItem where
  input : MonitorInput
  verdict : Verdict

/-- The latches, and the calls made so far. -/
structure MonitorRun where
  latches : Monitor
  trace : List MonitorItem

/-- The first boot. -/
def MonitorRun.init : MonitorRun := ⟨⟨false, 0⟩, []⟩

/-- A call. After a reboot the latches are those of a boot. -/
def MonitorRun.step (r : MonitorRun) (i : MonitorInput) : MonitorRun :=
  let (m, v) := i.apply r.latches
  ⟨if v.reboots then ⟨false, 0⟩ else m, r.trace ++ [⟨i, v⟩]⟩

/-! ## What the trace says -/

namespace MonitorItem

/-- A start, or a boot. -/
def arms (x : MonitorItem) : Bool := x.input.call == .start || x.verdict.reboots

/-- A start, a boot, or a report of `ES_NONE`. -/
def clears (x : MonitorItem) : Bool := x.arms || x.input.call == .wifiError .none

/-- A report of an error other than `ES_NONE`. -/
def fails (x : MonitorItem) : Bool :=
  match x.input.call with
  | .wifiError e => e != .none
  | _ => false

/-- The callback was invoked. -/
def escalated (x : MonitorItem) : Bool := x.verdict == .escalate

/-- A rollback was attempted. -/
def attempted (x : MonitorItem) : Bool :=
  match x.verdict with
  | .rollback _ => true
  | _ => false

/-- Control was proven, or the callback invoked. -/
def settles (x : MonitorItem) : Bool := x.input.call == .controlOk || x.escalated

end MonitorItem

/-- No control and no callback since the latest start or boot. -/
def Unlatched (tr : List MonitorItem) : Prop :=
  ∀ x ∈ since MonitorItem.arms tr, x.settles = false

/-- The errors since the latest start, boot or `ES_NONE`. -/
def errorsSince (tr : List MonitorItem) : Nat :=
  (since MonitorItem.clears tr).countP MonitorItem.fails

/-- What the history says about one call: the callback is invoked at the second of two errors, a
rollback is attempted at the first one, of an eligible image without the boot flag. -/
structure CallOk (pre : List MonitorItem) (x : MonitorItem) : Prop where
  escalates : x.escalated = true ↔ x.fails = true ∧ Unlatched pre ∧ errorsSince pre = 1
  attempts : x.attempted = true ↔ x.fails = true ∧ Unlatched pre ∧ errorsSince pre = 0 ∧
    monitorIsRollbackEligible x.input.answers = true ∧
    bootflagIsPostRollback x.input.answers x.input.flag = false
  /-- Not at the first error since the latest start or boot. -/
  not_first : (∀ y ∈ since MonitorItem.arms pre, y.fails = false) → x.escalated = false
  /-- Not missed at the second of two errors in a row. -/
  not_missed : x.fails = true → 1 ≤ errorsSince pre →
    x.escalated = true ∨ ∃ y ∈ since MonitorItem.arms pre, y.settles = true

/-- The trace of a monitor that escalates as it should. -/
structure Escalation (tr : List MonitorItem) : Prop where
  each : Each CallOk tr
  /-- At most one callback per arming. -/
  once : (since MonitorItem.arms tr).countP MonitorItem.escalated ≤ 1

/-! ## One more call -/

section
variable {tr : List MonitorItem} {x : MonitorItem}

/-- A start or boot unlatches; any other call keeps the latch unless it settles the matter. -/
theorem unlatched_concat :
    Unlatched (tr ++ [x]) ↔ x.arms = true ∨ Unlatched tr ∧ x.settles = false := by
  unfold Unlatched
  cases hx : x.arms
  · rw [since_concat_of_neg hx]
    constructor
    · intro h
      exact .inr ⟨fun y hy => h y (List.mem_append_left _ hy), h x (by simp)⟩
    · rintro (h | ⟨h, hsettles⟩) y hy
      · exact absurd h (by decide)
      · rcases List.mem_append.mp hy with hy | hy
        · exact h y hy
        · rw [List.mem_singleton.mp hy]
          exact hsettles
  · rw [since_concat_of_pos hx]
    exact ⟨fun _ => .inl rfl, fun _ _ hy => absurd hy List.not_mem_nil⟩

/-- The count begins anew, or goes on. -/
theorem errorsSince_concat :
    errorsSince (tr ++ [x]) =
      if x.clears then 0 else errorsSince tr + if x.fails then 1 else 0 :=
  countP_since_concat

/-- Without a callback or control there was no callback. -/
theorem Unlatched.no_escalation (h : Unlatched tr) :
    (since MonitorItem.arms tr).countP MonitorItem.escalated = 0 := by
  refine List.countP_eq_zero.mpr fun y hy hesc => ?_
  have hsettles := h y hy
  rw [MonitorItem.settles, hesc, Bool.or_true] at hsettles
  exact absurd hsettles (by decide)

/-- Errors that are counted came after the latest start or boot. -/
theorem errorsSince_eq_zero (h : ∀ y ∈ since MonitorItem.arms tr, y.fails = false) :
    errorsSince tr = 0 := by
  refine List.countP_eq_zero.mpr fun y hy hfails => ?_
  have harms : ∀ x : MonitorItem, x.arms = true → x.clears = true := fun x hx => by
    rw [MonitorItem.clears, hx, Bool.true_or]
  rw [h y (mem_since_of_imp harms hy)] at hfails
  exact absurd hfails (by decide)

end

/-! ## The latches agree with the trace -/

/-- **What a call does.** A start arms, and control latches; an error is ignored by a latched
monitor; `ES_NONE` clears the count; the first error is counted, with a rollback where the image is
eligible and the flag clear; the second one latches and escalates. -/
theorem MonitorInput.apply_cases (i : MonitorInput) (m : Monitor) :
    (i.call = .start ∧ i.apply m = (⟨false, 0⟩, .quiet)) ∨
    (i.call = .controlOk ∧ ∃ m', m'.done = true ∧ i.apply m = (m', .quiet)) ∨
    (∃ e, i.call = .wifiError e ∧ m.done = true ∧ i.apply m = (m, .quiet)) ∨
    (i.call = .wifiError .none ∧ m.done = false ∧ i.apply m = (⟨false, 0⟩, .quiet)) ∨
    (∃ e, i.call = .wifiError e ∧ e ≠ .none ∧ m.done = false ∧ m.failStreak = 0 ∧
      i.apply m = (⟨false, 1⟩,
        if monitorIsRollbackEligible i.answers = true ∧
            bootflagIsPostRollback i.answers i.flag = false then
          .rollback (monitorTryRollbackNow i.answers)
        else .quiet)) ∨
    ∃ e, i.call = .wifiError e ∧ e ≠ .none ∧ m.done = false ∧ 1 ≤ m.failStreak ∧
      ∃ m', m'.done = true ∧ i.apply m = (m', .escalate) := by
  obtain ⟨call, a, flag⟩ := i
  cases call with
  | start => exact .inl ⟨rfl, rfl⟩
  | controlOk =>
    refine .inr (.inl ⟨rfl, healthMonitorControlOk m, ?_, rfl⟩)
    unfold healthMonitorControlOk
    split
    · assumption
    · rfl
  | wifiError e =>
    by_cases hdone : m.done = true
    · refine .inr (.inr (.inl ⟨e, rfl, hdone, ?_⟩))
      simp [MonitorInput.apply, monitorOnWifiError, hdone]
    · rw [Bool.not_eq_true] at hdone
      by_cases he : e = .none
      · subst he
        refine .inr (.inr (.inr (.inl ⟨rfl, hdone, ?_⟩)))
        simp [MonitorInput.apply, monitorOnWifiError, hdone]
      · rcases Nat.eq_zero_or_pos m.failStreak with hzero | hpos
        · refine .inr (.inr (.inr (.inr (.inl ⟨e, rfl, he, hdone, hzero, ?_⟩))))
          have hone : (if 0 < 0x7fff then 0 + 1 else 0) = 1 := rfl
          simp only [MonitorInput.apply, monitorOnWifiError, hdone, hzero, hone, Bool.false_eq_true,
            if_false, if_true, if_neg he, Bool.not_eq_true']
          split <;> rfl
        · -- a count that is not 0 is at least 2 with this error
          have hstreak : ∀ n, n = (if m.failStreak < 0x7fff then m.failStreak + 1
              else m.failStreak) → n ≠ 1 ∧ 2 ≤ n := by
            intro n hn
            split at hn <;> omega
          obtain ⟨h1, h2⟩ := hstreak _ rfl
          have hlast : MonitorInput.apply ⟨.wifiError e, a, flag⟩ m =
              (⟨true, if m.failStreak < 0x7fff then m.failStreak + 1 else m.failStreak⟩,
                .escalate) := by
            simp only [MonitorInput.apply, monitorOnWifiError, hdone, Bool.false_eq_true, if_false,
              if_neg he, if_neg h1, if_pos h2]
          exact .inr (.inr (.inr (.inr (.inr ⟨e, rfl, he, hdone, hpos, _, rfl, hlast⟩))))

/-- What the latches say about the trace. -/
structure MonitorAgrees (r : MonitorRun) : Prop where
  unlatched : r.latches.done = false ↔ Unlatched r.trace
  streak : r.latches.done = false → r.latches.failStreak = errorsSince r.trace
  small : r.latches.done = false → errorsSince r.trace ≤ 1

section
variable {r : MonitorRun} {tr : List MonitorItem} {x : MonitorItem} {m : Monitor}

/-- The latches of a start or a boot. -/
theorem agrees_armed (harms : x.arms = true) : MonitorAgrees ⟨⟨false, 0⟩, tr ++ [x]⟩ := by
  have hzero : errorsSince (tr ++ [x]) = 0 := by
    rw [errorsSince_concat, MonitorItem.clears, harms, Bool.true_or, if_pos rfl]
  exact ⟨⟨fun _ => unlatched_concat.mpr (.inl harms), fun _ => rfl⟩, fun _ => hzero.symm,
    fun _ => hzero.le.trans (Nat.zero_le 1)⟩

/-- Latches that stay or become closed. -/
theorem agrees_latched (hdone : m.done = true) (harms : x.arms = false)
    (h : ¬ Unlatched tr ∨ x.settles = true) : MonitorAgrees ⟨m, tr ++ [x]⟩ := by
  have hno : ¬ Unlatched (tr ++ [x]) := by
    rw [unlatched_concat, harms]
    rintro (habs | ⟨hun, hsettles⟩)
    · exact absurd habs (by decide)
    · rcases h with h | h
      · exact h hun
      · exact absurd (h.symm.trans hsettles) (by decide)
  have hopen : ¬ m.done = false := by
    rw [hdone]
    decide
  exact ⟨⟨fun habs => absurd habs hopen, fun habs => absurd habs hno⟩,
    fun habs => absurd habs hopen, fun habs => absurd habs hopen⟩

/-- Latches that stay open, with the count of the trace. -/
theorem agrees_open (hsettles : x.settles = false) (hun : Unlatched tr)
    {n : Nat} (hn : errorsSince (tr ++ [x]) = n) (hsmall : n ≤ 1) :
    MonitorAgrees ⟨⟨false, n⟩, tr ++ [x]⟩ :=
  ⟨⟨fun _ => unlatched_concat.mpr (.inr ⟨hun, hsettles⟩), fun _ => rfl⟩, fun _ => hn.symm,
    fun _ => hn.le.trans hsmall⟩

/-- A call that reports no error and asks for nothing. -/
theorem callOk_quiet (hfails : x.fails = false) (hesc : x.escalated = false)
    (hatt : x.attempted = false) : CallOk tr x := by
  have hno : ¬ x.fails = true := by
    rw [hfails]
    decide
  refine ⟨⟨fun h => ?_, fun h => absurd h.1 hno⟩, ⟨fun h => ?_, fun h => absurd h.1 hno⟩,
    fun _ => hesc, fun h => absurd h hno⟩
  · exact absurd (hesc.symm.trans h) (by decide)
  · exact absurd (hatt.symm.trans h) (by decide)

/-- A call of a latched monitor that asks for nothing. -/
theorem callOk_latched (hno : ¬ Unlatched tr) (hesc : x.escalated = false)
    (hatt : x.attempted = false) : CallOk tr x := by
  refine ⟨⟨fun h => ?_, fun h => absurd h.2.1 hno⟩, ⟨fun h => ?_, fun h => absurd h.2.1 hno⟩,
    fun _ => hesc, fun _ _ => .inr ?_⟩
  · exact absurd (hesc.symm.trans h) (by decide)
  · exact absurd (hatt.symm.trans h) (by decide)
  · unfold Unlatched at hno
    push Not at hno
    obtain ⟨y, hy, hsettles⟩ := hno
    exact ⟨y, hy, by simpa using hsettles⟩

/-- The first error: the trace counts it, and asks for a rollback if that is due. -/
theorem MonitorAgrees.first_error (h : MonitorAgrees ⟨m, tr⟩) {i : MonitorInput} {e : ErrSrc}
    (hcall : i.call = .wifiError e) (he : e ≠ .none) (hopen : m.done = false)
    (hzero : m.failStreak = 0) :
    let v : Verdict := if monitorIsRollbackEligible i.answers = true ∧
        bootflagIsPostRollback i.answers i.flag = false then
      .rollback (monitorTryRollbackNow i.answers) else .quiet
    MonitorAgrees ⟨if v.reboots then ⟨false, 0⟩ else ⟨false, 1⟩, tr ++ [⟨i, v⟩]⟩ ∧
      CallOk tr ⟨i, v⟩ := by
  dsimp only
  have hun := h.unlatched.mp hopen
  have hcount : errorsSince tr = 0 := (h.streak hopen).symm.trans hzero
  generalize hv : (if monitorIsRollbackEligible i.answers = true ∧
      bootflagIsPostRollback i.answers i.flag = false then
    .rollback (monitorTryRollbackNow i.answers) else .quiet : Verdict) = v
  have hfails : (⟨i, v⟩ : MonitorItem).fails = true := by simp [MonitorItem.fails, hcall, he]
  have hesc : (⟨i, v⟩ : MonitorItem).escalated = false := by
    rw [← hv]
    split <;> rfl
  have hatt : (⟨i, v⟩ : MonitorItem).attempted = true ↔
      monitorIsRollbackEligible i.answers = true ∧
        bootflagIsPostRollback i.answers i.flag = false := by
    rw [← hv]
    split
    · next hroll => exact ⟨fun _ => hroll, fun _ => rfl⟩
    · next hroll =>
      exact ⟨fun habs => absurd habs Bool.false_ne_true, fun habs => absurd habs hroll⟩
  refine ⟨?_, ⟨fun habs => absurd (hesc.symm.trans habs) (by decide), fun habs => ?_⟩,
    ⟨fun habs => ⟨hfails, hun, hcount, hatt.mp habs⟩, fun habs => hatt.mpr habs.2.2.2⟩,
    fun _ => hesc, fun _ habs => ?_⟩
  · -- a rollback that works boots, any other verdict counts the error
    cases hreboots : v.reboots
    · have harms : (⟨i, v⟩ : MonitorItem).arms = false := by
        simp [MonitorItem.arms, hcall, hreboots]
      have hclears : (⟨i, v⟩ : MonitorItem).clears = false := by
        simp [MonitorItem.clears, harms, hcall, he]
      have hsettles : (⟨i, v⟩ : MonitorItem).settles = false := by
        simp [MonitorItem.settles, hesc, hcall]
      have hone : errorsSince (tr ++ [⟨i, v⟩]) = 1 := by
        rw [errorsSince_concat, hclears, hfails, hcount]
        rfl
      exact agrees_open hsettles hun hone (Nat.le_refl 1)
    · have harms : (⟨i, v⟩ : MonitorItem).arms = true := by
        simp [MonitorItem.arms, hreboots]
      exact agrees_armed harms
  · exact absurd (hcount.symm.trans habs.2.2) (by decide)
  · rw [hcount] at habs
    exact absurd habs (by decide)

/-- The second error: the trace has counted one, and the callback is due. -/
theorem MonitorAgrees.second_error (h : MonitorAgrees ⟨m, tr⟩) {i : MonitorInput} {e : ErrSrc}
    (hcall : i.call = .wifiError e) (he : e ≠ .none) (hopen : m.done = false)
    (hpos : 1 ≤ m.failStreak) {m' : Monitor} (hdone : m'.done = true) :
    MonitorAgrees ⟨m', tr ++ [⟨i, .escalate⟩]⟩ ∧ CallOk tr ⟨i, .escalate⟩ := by
  have hun := h.unlatched.mp hopen
  have hcount : errorsSince tr = 1 := by
    have hstreak : m.failStreak = errorsSince tr := h.streak hopen
    have hsmall : errorsSince tr ≤ 1 := h.small hopen
    omega
  have harms : (⟨i, .escalate⟩ : MonitorItem).arms = false := by
    simp [MonitorItem.arms, hcall, Verdict.reboots]
  have hfails : (⟨i, .escalate⟩ : MonitorItem).fails = true := by
    simp [MonitorItem.fails, hcall, he]
  have hsettles : (⟨i, .escalate⟩ : MonitorItem).settles = true := by
    simp [MonitorItem.settles, MonitorItem.escalated]
  refine ⟨agrees_latched hdone harms (.inr hsettles), ⟨fun _ => ⟨hfails, hun, hcount⟩,
    fun _ => rfl⟩, ⟨fun habs => absurd habs Bool.false_ne_true, fun habs => ?_⟩, fun hnone => ?_,
    fun _ _ => .inl rfl⟩
  · exact absurd (hcount.symm.trans habs.2.2.1) (by decide)
  · exact absurd (hcount.symm.trans (errorsSince_eq_zero hnone)) (by decide)

/-- The latches after a call, and what it asks for, are those of the trace. -/
theorem MonitorAgrees.step (h : MonitorAgrees r) (i : MonitorInput) :
    MonitorAgrees (r.step i) ∧ CallOk r.trace ⟨i, (i.apply r.latches).2⟩ := by
  obtain ⟨m, tr⟩ := r
  rcases i.apply_cases m with ⟨hcall, happ⟩ | ⟨hcall, m', hdone, happ⟩ | ⟨e, hcall, hdone, happ⟩ |
    ⟨hcall, hopen, happ⟩ | ⟨e, hcall, he, hopen, hzero, happ⟩ |
    ⟨e, hcall, he, hopen, hpos, m', hdone, happ⟩
  · -- a start
    have harms : (⟨i, .quiet⟩ : MonitorItem).arms = true := by simp [MonitorItem.arms, hcall]
    have hfails : (⟨i, .quiet⟩ : MonitorItem).fails = false := by simp [MonitorItem.fails, hcall]
    rw [MonitorRun.step, happ]
    exact ⟨agrees_armed harms, callOk_quiet hfails rfl rfl⟩
  · -- control
    have harms : (⟨i, .quiet⟩ : MonitorItem).arms = false := by
      simp [MonitorItem.arms, hcall, Verdict.reboots]
    have hfails : (⟨i, .quiet⟩ : MonitorItem).fails = false := by simp [MonitorItem.fails, hcall]
    have hsettles : (⟨i, .quiet⟩ : MonitorItem).settles = true := by
      simp [MonitorItem.settles, hcall]
    rw [MonitorRun.step, happ]
    exact ⟨agrees_latched hdone harms (.inr hsettles), callOk_quiet hfails rfl rfl⟩
  · -- an error report to a latched monitor
    have harms : (⟨i, .quiet⟩ : MonitorItem).arms = false := by
      simp [MonitorItem.arms, hcall, Verdict.reboots]
    have hno : ¬ Unlatched tr := by
      rw [← h.unlatched, hdone]
      decide
    rw [MonitorRun.step, happ]
    exact ⟨agrees_latched hdone harms (.inl hno), callOk_latched hno rfl rfl⟩
  · -- the error is gone
    have hfails : (⟨i, .quiet⟩ : MonitorItem).fails = false := by simp [MonitorItem.fails, hcall]
    have hsettles : (⟨i, .quiet⟩ : MonitorItem).settles = false := by
      simp [MonitorItem.settles, MonitorItem.escalated, hcall]
    have hclears : (⟨i, .quiet⟩ : MonitorItem).clears = true := by
      simp [MonitorItem.clears, hcall]
    have hcount : errorsSince (tr ++ [⟨i, .quiet⟩]) = 0 := by
      rw [errorsSince_concat, hclears, if_pos rfl]
    rw [MonitorRun.step, happ]
    exact ⟨agrees_open hsettles (h.unlatched.mp hopen) hcount (Nat.zero_le 1),
      callOk_quiet hfails rfl rfl⟩
  · rw [MonitorRun.step, happ]
    exact h.first_error hcall he hopen hzero
  · rw [MonitorRun.step, happ]
    exact h.second_error hcall he hopen hpos hdone

end

/-! ## Every run -/

/-- The latches agree with the trace, and the trace is as it should be. -/
def MonitorRun.Sound (r : MonitorRun) : Prop := MonitorAgrees r ∧ Escalation r.trace

/-- A call preserves both: the callbacks of an arming stay at one because an invocation finds the
monitor unlatched. -/
theorem MonitorRun.Sound.step {r : MonitorRun} (h : r.Sound) (i : MonitorInput) :
    (r.step i).Sound := by
  obtain ⟨hagrees, hok⟩ := h.1.step i
  refine ⟨hagrees, each_concat.mpr ⟨h.2.each, hok⟩, ?_⟩
  change (since MonitorItem.arms (r.trace ++ [⟨i, (i.apply r.latches).2⟩])).countP
    MonitorItem.escalated ≤ 1
  generalize (⟨i, (i.apply r.latches).2⟩ : MonitorItem) = x at hok ⊢
  rw [countP_since_concat]
  split
  · exact Nat.zero_le 1
  · split
    · next hesc =>
      rw [(hok.escalates.mp hesc).2.1.no_escalation]
    · exact h.2.once

/-- **The escalation automaton.** After any calls of `health_monitor_start`,
`health_monitor_control_ok` and `monitor_on_wifi_error`, with any answers of the platform and the
boot flag, the callback was invoked and a rollback attempted exactly where the history says. -/
theorem monitor_escalation (calls : List MonitorInput) :
    Escalation (Run.exec MonitorRun.step .init calls).trace := by
  have hinit : MonitorRun.init.Sound :=
    ⟨⟨⟨fun _ _ hy => absurd hy List.not_mem_nil, fun _ => rfl⟩, fun _ => rfl,
      fun _ => Nat.zero_le 1⟩, each_nil, Nat.zero_le 1⟩
  exact (Run.exec_inv hinit (fun _ i h => h.step i) calls).2

end RemoteControl
