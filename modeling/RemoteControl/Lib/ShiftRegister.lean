import Mathlib.Data.Nat.Prime.Basic
import Mathlib.Dynamics.PeriodicPts.Defs

/-!
# Linear maps on words, and the shift register of a CRC

A map on words is linear when it commutes with exclusive or. The state of such a register after
`n` steps is computed with few steps when one start word generates all others: then the word
reached from there says what `n` steps do to every word (`iterate_of_generates`), and doubling the
number of steps is one pass over the bits of that word (`jump_eq`). `round` is the register of a
reflected CRC with polynomial `poly`; it is linear, and the word with only the top bit set generates
(`combine_round`).

The period of a word is settled by its prime divisors (`minimalPeriod_eq_of_prime`).
-/

namespace ShiftRegister

open Function

/-! ## Periods -/

/-- A period that no prime divides further is the least one. -/
theorem minimalPeriod_eq_of_prime {α : Type*} {f : α → α} {x : α} {n : ℕ}
    (hper : IsPeriodicPt f n x)
    (hprime : ∀ p, p.Prime → p ∣ n → ¬ IsPeriodicPt f (n / p) x) :
    minimalPeriod f x = n := by
  obtain ⟨k, hk⟩ := hper.minimalPeriod_dvd
  by_contra hne
  have hk1 : k ≠ 1 := by
    rintro rfl
    exact hne (by rw [hk, Nat.mul_one])
  obtain ⟨q, hq⟩ := Nat.minFac_dvd k
  have hdvd : k.minFac ∣ n := (Nat.minFac_dvd k).trans ⟨_, (hk.trans (Nat.mul_comm _ _))⟩
  refine hprime _ (Nat.minFac_prime hk1) hdvd ?_
  -- what is left of the period is a multiple of the least one
  have hdiv : n / k.minFac = minimalPeriod f x * q := by
    refine Nat.div_eq_of_eq_mul_right (Nat.minFac_pos k) ?_
    calc n = minimalPeriod f x * k := hk
      _ = minimalPeriod f x * (k.minFac * q) := by rw [← hq]
      _ = k.minFac * (minimalPeriod f x * q) := Nat.mul_left_comm _ _ _
  rw [hdiv]
  exact (isPeriodicPt_minimalPeriod f x).mul_const q

/-! ## Linear maps -/

variable {w : Nat}

/-- A map on words that commutes with exclusive or. -/
def Linear (f : BitVec w → BitVec w) : Prop := ∀ a b, f (a ^^^ b) = f a ^^^ f b

namespace Linear

variable {f : BitVec w → BitVec w} (hf : Linear f)

include hf

theorem map_zero : f 0#w = 0#w := by
  have h := hf 0#w 0#w
  rw [BitVec.xor_self, BitVec.xor_self] at h
  exact h

/-- Any number of steps is linear. -/
theorem iterate (n : ℕ) : Linear f^[n] := by
  intro a b
  induction n generalizing a b with
  | zero => rfl
  | succ n ih => rw [iterate_succ_apply, iterate_succ_apply, iterate_succ_apply, hf, ih]

/-- A linear map passes a choice between a word and nothing. -/
theorem map_ite (p : Bool) (a : BitVec w) : f (if p then a else 0#w) = if p then f a else 0#w := by
  cases p
  · exact hf.map_zero
  · rfl

end Linear

/-- The sum of the states that the low `n` bits of `u` select, of those a register passes through
from `v` on: bit `n - 1` selects `v` itself, each lower bit a later state. -/
def combine (f : BitVec w → BitVec w) (v u : BitVec w) : ℕ → BitVec w
  | 0 => 0#w
  | n + 1 => f (combine f v u n) ^^^ (if u.getLsbD n then v else 0#w)

/-- The sum moves with its first state. -/
theorem iterate_combine {f : BitVec w → BitVec w} (hf : Linear f) (m : ℕ) (v u : BitVec w)
    (n : ℕ) : f^[m] (combine f v u n) = combine f (f^[m] v) u n := by
  induction n with
  | zero => exact (hf.iterate m).map_zero
  | succ n ih =>
    rw [combine, (hf.iterate m), (hf.iterate m).map_ite, combine, ← ih]
    rw [← iterate_succ_apply, iterate_succ_apply']

/-- The start word generates every other. -/
def Generates (f : BitVec w → BitVec w) (e : BitVec w) : Prop := ∀ u, combine f e u w = u

/-- What `n` steps do to the generator says what they do to every word. -/
theorem iterate_of_generates {f : BitVec w → BitVec w} (hf : Linear f) {e : BitVec w}
    (he : Generates f e) (n : ℕ) (u : BitVec w) : f^[n] u = combine f (f^[n] e) u w := by
  calc f^[n] u = f^[n] (combine f e u w) := by rw [he u]
    _ = combine f (f^[n] e) u w := iterate_combine hf n e u w

/-- The number with the given bits, the highest one first. -/
def ofBits (bits : List Bool) : ℕ := bits.foldl (fun n b => 2 * n + b.toNat) 0

/-- The state of the register after as many steps as `bits` spells, from the generator: one
doubling for each bit, and a step more where it is set. -/
def jump (f : BitVec w → BitVec w) (e : BitVec w) (bits : List Bool) : BitVec w :=
  bits.foldl (fun v b => if b then f (combine f v v w) else combine f v v w) e

theorem jump_eq {f : BitVec w → BitVec w} (hf : Linear f) {e : BitVec w} (he : Generates f e)
    (bits : List Bool) : jump f e bits = f^[ofBits bits] e := by
  -- the steps made so far are a parameter of the induction
  have hgo : ∀ (bits : List Bool) (n : ℕ),
      bits.foldl (fun v b => if b then f (combine f v v w) else combine f v v w) (f^[n] e) =
        f^[bits.foldl (fun n b => 2 * n + b.toNat) n] e := by
    intro bits
    induction bits with
    | nil => intro n; rfl
    | cons b bits ih =>
      intro n
      have hdouble : combine f (f^[n] e) (f^[n] e) w = f^[2 * n] e := by
        rw [← iterate_of_generates hf he n, ← iterate_add_apply, Nat.two_mul]
      rw [List.foldl_cons, List.foldl_cons, hdouble, ← ih]
      cases b
      · rfl
      · rw [Bool.toNat_true, iterate_succ_apply']
        rfl
  exact hgo bits 0

/-! ## The register of a reflected CRC -/

/-- One step: the word moves down one place, and a bit that leaves it adds the polynomial. -/
def round (poly : BitVec w) (x : BitVec w) : BitVec w :=
  (x >>> 1) ^^^ (if x.getLsbD 0 then poly else 0#w)

theorem linear_round (poly : BitVec w) : Linear (round poly) := by
  intro a b
  have hbit : (if (a ^^^ b).getLsbD 0 then poly else 0#w) =
      (if a.getLsbD 0 then poly else 0#w) ^^^ (if b.getLsbD 0 then poly else 0#w) := by
    rw [BitVec.getLsbD_xor]
    cases a.getLsbD 0 <;> cases b.getLsbD 0 <;> simp
  simp only [round, hbit, BitVec.ushiftRight_xor_distrib]
  ac_rfl

/-- The low `n` bits of a word, read into the register from the lowest on, stand at its top. -/
theorem combine_round (poly u : BitVec w) {n : ℕ} (hn : n ≤ w) :
    combine (round poly) (BitVec.intMin w) u n = u <<< (w - n) := by
  induction n with
  | zero => rw [combine, Nat.sub_zero, BitVec.shiftLeft_eq_zero (Nat.le_refl w)]
  | succ n ih =>
    have hlow : (u <<< (w - n)).getLsbD 0 = false := by
      rw [BitVec.getLsbD_shiftLeft]
      simp [Nat.sub_pos_of_lt hn]
    rw [combine, ih (by omega), round, hlow]
    apply BitVec.eq_of_getLsbD_eq
    intro i hi
    -- bit `n` of `u` enters at the top, the bits below it have moved down one place
    have htop : (if u.getLsbD n then BitVec.intMin w else 0#w).getLsbD i =
        (u.getLsbD n && decide (i + 1 = w)) := by
      cases u.getLsbD n
      · exact BitVec.getLsbD_zero
      · rw [if_pos rfl, BitVec.getLsbD_intMin, Bool.true_and]
    simp only [BitVec.getLsbD_xor, htop, BitVec.getLsbD_ushiftRight, BitVec.getLsbD_shiftLeft,
      Bool.false_eq_true, if_false, BitVec.getLsbD_zero, Bool.xor_false]
    by_cases hi1 : i + 1 = w
    · have hpos : i - (w - (n + 1)) = n := by omega
      have hout : ¬ 1 + i < w := by omega
      have hin : ¬ i < w - (n + 1) := by omega
      simp [hpos, hout, hin, hi, hi1]
    · have hpos : 1 + i - (w - n) = i - (w - (n + 1)) := by omega
      have hin : 1 + i < w := by omega
      have hlt : (1 + i < w - n) = (i < w - (n + 1)) := propext (by omega)
      simp [hpos, hlt, hin, hi, hi1]

/-- The top bit generates. -/
theorem generates_round (poly : BitVec w) : Generates (round poly) (BitVec.intMin w) := by
  intro u
  rw [combine_round poly u (Nat.le_refl w), Nat.sub_self, BitVec.shiftLeft_zero]

end ShiftRegister
