import Mathlib.Data.List.Basic
import Mathlib.Order.Bounds.Basic

/-!
# The longest prefix of one list inside another

A receiver that waits for the items of `fs` in order and skips everything else has, after a
delivery `ws`, seen `matched fs ws` of them. That number is the length of the longest prefix of `fs`
that is a subsequence of `ws` (`matched_isGreatest`), and it grows by one exactly when the next
expected item arrives (`matched_concat`).
-/

namespace Subsequence

variable {α : Type*} [DecidableEq α]

/-- How many items of `fs` a receiver that takes them in order finds in `ws`. -/
def matched : List α → List α → Nat
  | [], _ => 0
  | _ :: _, [] => 0
  | f :: fs, w :: ws => if w = f then matched fs ws + 1 else matched (f :: fs) ws

@[simp] theorem matched_nil_left (ws : List α) : matched [] ws = 0 := by
  cases ws <;> rfl

@[simp] theorem matched_nil_right (fs : List α) : matched fs [] = 0 := by
  cases fs <;> rfl

/-- No more items are found than there are. -/
theorem matched_le_length (fs ws : List α) : matched fs ws ≤ fs.length := by
  fun_induction matched fs ws with
  | case1 => simp
  | case2 => simp
  | case3 f fs ws ih => simpa using ih
  | case4 f fs w ws hne ih => exact ih

/-- The items found are a subsequence of the delivery. -/
theorem take_matched_sublist (fs ws : List α) : (fs.take (matched fs ws)).Sublist ws := by
  fun_induction matched fs ws with
  | case1 => simp
  | case2 => simp
  | case3 f fs ws ih => simpa using ih
  | case4 f fs w ws hne ih => exact ih.cons w

/-- A prefix that is a subsequence of the delivery is found whole. -/
theorem le_matched_of_sublist {fs ws : List α} {k : Nat} (hk : k ≤ fs.length)
    (h : (fs.take k).Sublist ws) : k ≤ matched fs ws := by
  fun_induction matched fs ws generalizing k with
  | case1 => simpa using hk
  | case2 f fs =>
    have : (f :: fs).take k = [] := List.sublist_nil.mp h
    rcases List.take_eq_nil_iff.mp this with rfl | h
    · exact Nat.le_refl 0
    · exact nomatch h
  | case3 f fs ws ih =>
    cases k with
    | zero => exact Nat.zero_le _
    | succ k =>
      rw [List.take_succ_cons] at h
      exact Nat.succ_le_succ (ih (by simpa using hk) (List.cons_sublist_cons.mp h))
  | case4 f fs w ws hne ih =>
    cases k with
    | zero => exact Nat.zero_le _
    | succ k =>
      refine ih hk ?_
      rw [List.take_succ_cons] at h ⊢
      cases h with
      | cons _ h => exact h
      | cons_cons => exact absurd rfl hne

/-- **`matched` is the length of the longest prefix that is a subsequence of the delivery.** -/
theorem matched_isGreatest (fs ws : List α) :
    IsGreatest {k | k ≤ fs.length ∧ (fs.take k).Sublist ws} (matched fs ws) :=
  ⟨⟨matched_le_length fs ws, take_matched_sublist fs ws⟩,
    fun _ hk => le_matched_of_sublist hk.1 hk.2⟩

/-- One more delivered item is found exactly when it is the next one expected. -/
theorem matched_concat (fs ws : List α) (w : α) :
    matched fs (ws ++ [w]) = matched fs ws + if fs[matched fs ws]? = some w then 1 else 0 := by
  fun_induction matched fs ws with
  | case1 => simp
  | case2 f fs =>
    simp only [List.nil_append, matched, List.length_cons, Nat.zero_add, Nat.zero_lt_succ,
      List.getElem?_eq_getElem, List.getElem_cons_zero, Option.some.injEq, matched_nil_right]
    simp only [eq_comm]
  | case3 f fs ws ih =>
    rw [List.cons_append, matched, if_pos rfl, ih, List.getElem?_cons_succ]
    omega
  | case4 f fs w' ws hne ih =>
    rw [List.cons_append, matched, if_neg hne, ih]

end Subsequence
