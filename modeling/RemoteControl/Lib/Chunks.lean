import Mathlib.Data.List.Basic

/-!
# Lists cut into chunks

`cut n` takes a list apart into chunks of `n` items, of which the last one may be shorter: what a
loop does that sends or stores a buffer piece by piece. The chunks are the list again
(`flatten_cut`), each has between one and `n` items (`length_of_mem_cut`), and there are as many as
the list needs (`length_cut`). A loop that has cut a whole number of chunks off goes on with the
chunks of the rest (`cut_append`).
-/

namespace Chunks

variable {α : Type*}

/-- The chunks of a list, `n` items each up to the last one. A size of 0 counts as 1. -/
def cut (n : Nat) : List α → List (List α)
  | [] => []
  | x :: xs => (x :: xs.take (n - 1)) :: cut n (xs.drop (n - 1))
termination_by xs => xs.length
decreasing_by simp only [List.length_drop, List.length_cons]; omega

@[simp] theorem cut_nil (n : Nat) : cut n ([] : List α) = [] := by rw [cut]

/-- The first chunk and the others. -/
theorem cut_of_ne_nil {n : Nat} (hn : 0 < n) {xs : List α} (hxs : xs ≠ []) :
    cut n xs = xs.take n :: cut n (xs.drop n) := by
  obtain ⟨x, xs, rfl⟩ := List.exists_cons_of_ne_nil hxs
  obtain ⟨m, rfl⟩ := Nat.exists_eq_add_of_lt hn
  rw [cut, Nat.zero_add, Nat.add_sub_cancel, List.take_succ_cons, List.drop_succ_cons]

/-- The chunks make up the list. -/
theorem flatten_cut (n : Nat) (xs : List α) : (cut n xs).flatten = xs := by
  induction xs using cut.induct n with
  | case1 => rw [cut_nil, List.flatten_nil]
  | case2 x xs ih => rw [cut, List.flatten_cons, ih, List.cons_append, List.take_append_drop]

/-- No chunk is empty, and none is longer than `n`. -/
theorem length_of_mem_cut {n : Nat} (hn : 0 < n) {xs c : List α} (hc : c ∈ cut n xs) :
    1 ≤ c.length ∧ c.length ≤ n := by
  induction xs using cut.induct n with
  | case1 => simp at hc
  | case2 x xs ih =>
    rw [cut] at hc
    rcases List.mem_cons.mp hc with rfl | hc
    · rw [List.length_cons, List.length_take]
      omega
    · exact ih hc

/-- No chunk is longer than the list. -/
theorem length_le_of_mem_cut {n : Nat} {xs c : List α} (hc : c ∈ cut n xs) :
    c.length ≤ xs.length := by
  have hsub := (List.sublist_flatten_of_mem hc).length_le
  rwa [flatten_cut] at hsub

/-- There are as many chunks as it takes. -/
theorem length_cut {n : Nat} (hn : 0 < n) (xs : List α) :
    (cut n xs).length = (xs.length + (n - 1)) / n := by
  induction xs using cut.induct n with
  | case1 =>
    rw [cut_nil, List.length_nil, List.length_nil, Nat.zero_add,
      Nat.div_eq_of_lt (Nat.sub_one_lt_of_lt hn)]
  | case2 x xs ih =>
    have hround : xs.length + 1 + (n - 1) = xs.length + n := by omega
    rw [cut, List.length_cons, ih, List.length_cons, List.length_drop, hround,
      Nat.add_div_right _ hn]
    rcases Nat.lt_or_ge xs.length n with hlt | hge
    · rw [Nat.div_eq_of_lt hlt, Nat.div_eq_of_lt (by omega)]
    · rw [Nat.sub_add_cancel (by omega)]

/-- A list that fits into one chunk is it. -/
theorem cut_of_length_le {n : Nat} {xs : List α} (hxs : xs ≠ []) (hle : xs.length ≤ n) :
    cut n xs = [xs] := by
  have hn : 0 < n := Nat.lt_of_lt_of_le (List.length_pos_of_ne_nil hxs) hle
  rw [cut_of_ne_nil hn hxs, List.take_of_length_le hle, List.drop_eq_nil_of_le hle, cut_nil]

/-- Behind a whole number of chunks the cutting starts afresh. -/
theorem cut_append {n : Nat} (hn : 0 < n) {xs : List α} (hdvd : n ∣ xs.length) (ys : List α) :
    cut n (xs ++ ys) = cut n xs ++ cut n ys := by
  induction xs using cut.induct n with
  | case1 => rw [cut_nil, List.nil_append, List.nil_append]
  | case2 x xs ih =>
    have hle : n ≤ (x :: xs).length := Nat.le_of_dvd (Nat.succ_pos _) hdvd
    have hdrop : (x :: xs).drop n = xs.drop (n - 1) := by
      obtain ⟨m, rfl⟩ := Nat.exists_eq_add_of_lt hn
      rw [Nat.zero_add, Nat.add_sub_cancel, List.drop_succ_cons]
    have hrest : n ∣ (xs.drop (n - 1)).length := by
      rw [← hdrop, List.length_drop]
      exact Nat.dvd_sub hdvd (Nat.dvd_refl n)
    have hne : x :: xs ++ ys ≠ [] := List.cons_ne_nil x _
    rw [cut_of_ne_nil hn (List.cons_ne_nil x xs), cut_of_ne_nil hn hne,
      List.take_append_of_le_length hle, List.drop_append_of_le_length hle, hdrop, ih hrest,
      List.cons_append]

end Chunks
