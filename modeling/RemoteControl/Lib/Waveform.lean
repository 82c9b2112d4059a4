import Mathlib.Data.List.Basic

/-!
# Signals and polling

A signal has a level at every instant; the instants are natural numbers. `Stays sig v a b` says that
it has the level `v` from `a` on and before `b`, and `Follows sig t ps` that from `t` on it runs
through the phases `ps`, each a level and a duration. `poll` looks at a signal at one instant after
the other until it has a level, `n` times more at the most. On a phase of the other level that is
not longer than that, it comes to the phase's end (`poll_of_stays`).
-/

namespace Waveform

variable {sig : ℕ → Bool} {v : Bool} {a b t n : ℕ} {ps : List (Bool × ℕ)}

/-! ## Levels over time -/

/-- The level from `a` on and before `b`. -/
def Stays (sig : ℕ → Bool) (v : Bool) (a b : ℕ) : Prop := ∀ u, a ≤ u → u < b → sig u = v

/-- From `t` on the signal runs through the phases. -/
def Follows (sig : ℕ → Bool) : ℕ → List (Bool × ℕ) → Prop
  | _, [] => True
  | t, (v, d) :: ps => Stays sig v t (t + d) ∧ Follows sig (t + d) ps

/-- The signal with these phases from 0 on, low behind them. -/
def ofPhases : List (Bool × ℕ) → ℕ → Bool
  | [], _ => false
  | (v, d) :: ps, u => if u < d then v else ofPhases ps (u - d)

/-- A signal that agrees with it from `t` on follows them. -/
theorem follows_ofPhases (h : ∀ u, t ≤ u → sig u = ofPhases ps (u - t)) : Follows sig t ps := by
  induction ps generalizing t with
  | nil => trivial
  | cons p ps ih =>
    obtain ⟨v, d⟩ := p
    refine ⟨fun u hle hlt => ?_, ih fun u hle => ?_⟩
    · rw [h u hle, ofPhases, if_pos (by omega)]
    · rw [h u (by omega), ofPhases, if_neg (by omega), Nat.sub_sub]

/-! ## Polling -/

/-- Look at the signal at `t` and at `n` further instants, until it has the level: whether it has,
and when that is found. -/
def poll (sig : ℕ → Bool) (v : Bool) : ℕ → ℕ → Bool × ℕ
  | 0, t => (sig t == v, t)
  | n + 1, t => if sig t = v then (true, t) else poll sig v n (t + 1)

theorem le_poll : t ≤ (poll sig v n t).2 := by
  induction n generalizing t with
  | zero => exact Nat.le_refl t
  | succ n ih =>
    rw [poll]
    split
    · exact Nat.le_refl t
    · exact Nat.le_trans (Nat.le_succ t) ih

theorem poll_le : (poll sig v n t).2 ≤ t + n := by
  induction n generalizing t with
  | zero => exact Nat.le_refl t
  | succ n ih =>
    rw [poll]
    split
    · exact Nat.le_add_right t (n + 1)
    · have hle := ih (t := t + 1)
      omega

/-- It comes to the end of a phase. -/
theorem poll_of_stays (hab : a ≤ b) (hn : b ≤ a + n) (hphase : Stays sig (!v) a b)
    (hend : sig b = v) : poll sig v n a = (true, b) := by
  induction n generalizing a with
  | zero =>
    obtain rfl : a = b := Nat.le_antisymm hab hn
    rw [poll, hend, beq_self_eq_true]
  | succ n ih =>
    rw [poll]
    rcases Nat.eq_or_lt_of_le hab with rfl | hlt
    · rw [if_pos hend]
    · have hne : sig a ≠ v := by
        rw [hphase a (Nat.le_refl a) hlt]
        cases v <;> decide
      rw [if_neg hne]
      exact ih hlt (by omega) fun u hle => hphase u (Nat.le_of_succ_le hle)

end Waveform
