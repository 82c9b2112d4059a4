import Mathlib.Data.List.DropRight
import Mathlib.Data.List.Induction

/-!
# Traces

A trace is the list of what has happened so far, oldest first. `Each ok` says that everything in it
was allowed after what had happened before, and `LastIs p ok` that the last item of a kind was.
Both are kept from one item to the next (`each_concat`, `LastIs.append`), which is how a run
establishes them. `since p` is what came after the last item of the kind `p`.
-/

namespace Trace

variable {α : Type*} {ok : List α → α → Prop} {p : α → Prop} {tr : List α} {x : α}

/-- Every item is allowed after those before it. -/
def Each (ok : List α → α → Prop) (tr : List α) : Prop :=
  ∀ pre x post, tr = pre ++ x :: post → ok pre x

/-- There is an item of the kind `p`, and the last one was allowed after those before it. -/
def LastIs (p : α → Prop) (ok : List α → α → Prop) (tr : List α) : Prop :=
  ∃ pre x post, tr = pre ++ x :: post ∧ p x ∧ ok pre x ∧ ∀ y ∈ post, ¬ p y

theorem each_nil : Each ok [] := by
  intro pre x post h
  cases pre <;> cases h

/-- One more item has to be allowed after all the others. -/
theorem each_concat : Each ok (tr ++ [x]) ↔ Each ok tr ∧ ok tr x := by
  constructor
  · intro h
    refine ⟨fun pre y post heq => h pre y (post ++ [x]) (by simp [heq]), h tr x [] rfl⟩
  · rintro ⟨h, hx⟩ pre y post heq
    rcases List.eq_nil_or_concat post with rfl | ⟨post', z, rfl⟩
    · obtain ⟨rfl, hxy⟩ := List.append_inj' heq rfl
      cases hxy
      exact hx
    · rw [List.concat_eq_append, ← List.cons_append, ← List.append_assoc] at heq
      obtain ⟨rfl, -⟩ := List.append_inj' heq rfl
      exact h pre y post' rfl

/-- More items that are allowed anywhere. -/
theorem Each.append {new : List α} (h : Each ok tr) (hnew : ∀ y ∈ new, ∀ pre, ok pre y) :
    Each ok (tr ++ new) := by
  induction new generalizing tr with
  | nil => rwa [List.append_nil]
  | cons y new ih =>
    rw [← List.singleton_append, ← List.append_assoc]
    refine ih (each_concat.mpr ⟨h, hnew y List.mem_cons_self tr⟩) fun z hz => ?_
    exact hnew z (List.mem_cons_of_mem y hz)

/-- A kind of item that is allowed only when there was none before occurs at most once. -/
theorem Each.countP_le_one {q : α → Bool} (h : Each ok tr)
    (hq : ∀ pre x, ok pre x → q x = true → pre.any q = false) : tr.countP q ≤ 1 := by
  induction tr using List.reverseRecOn with
  | nil => exact Nat.zero_le 1
  | append_singleton tr x ih =>
    obtain ⟨htr, hx⟩ := each_concat.mp h
    rw [List.countP_append, List.countP_singleton]
    split
    · next hqx =>
      have hnone : tr.countP q = 0 := by
        have hany := hq tr x hx hqx
        rw [List.any_eq_false] at hany
        exact List.countP_eq_zero.mpr hany
      omega
    · exact ih htr

/-- A kind of item that is allowed only after at most `n` others of it occurs at most once more. -/
theorem Each.countP_le_succ {q : α → Bool} {n : ℕ} (h : Each ok tr)
    (hq : ∀ pre x, ok pre x → q x = true → pre.countP q ≤ n) : tr.countP q ≤ n + 1 := by
  induction tr using List.reverseRecOn with
  | nil => exact Nat.zero_le _
  | append_singleton tr x ih =>
    obtain ⟨htr, hx⟩ := each_concat.mp h
    rw [List.countP_append, List.countP_singleton]
    split
    · next hqx => exact Nat.succ_le_succ (hq tr x hx hqx)
    · exact ih htr

/-- What is allowed only after items that stand in a relation to it. -/
theorem Each.pairwise {R : α → α → Prop} (h : Each ok tr)
    (hR : ∀ pre x, ok pre x → ∀ y ∈ pre, R y x) : tr.Pairwise R := by
  induction tr using List.reverseRecOn with
  | nil => exact List.Pairwise.nil
  | append_singleton tr x ih =>
    obtain ⟨htr, hx⟩ := each_concat.mp h
    refine List.pairwise_append.mpr ⟨ih htr, List.pairwise_singleton R x, fun y hy z hz => ?_⟩
    rw [List.mem_singleton.mp hz]
    exact hR tr x hx y hy

/-- A new item of the kind is the last one. -/
theorem lastIs_concat (hp : p x) (hx : ok tr x) : LastIs p ok (tr ++ [x]) :=
  ⟨tr, x, [], rfl, hp, hx, nofun⟩

/-- Items of other kinds leave the last one as it is. -/
theorem LastIs.append {new : List α} (h : LastIs p ok tr) (hnew : ∀ y ∈ new, ¬ p y) :
    LastIs p ok (tr ++ new) := by
  obtain ⟨pre, x, post, rfl, hp, hx, hpost⟩ := h
  refine ⟨pre, x, post ++ new, by simp, hp, hx, fun y hy => ?_⟩
  rcases List.mem_append.mp hy with hy | hy
  · exact hpost y hy
  · exact hnew y hy

/-! ## Since the last item of a kind -/

/-- The items after the last one of the kind, all of them if there is none. -/
def since (p : α → Bool) (tr : List α) : List α := tr.rtakeWhile fun x => !p x

@[simp] theorem since_nil (p : α → Bool) : since p [] = [] := List.rtakeWhile_nil _

/-- An item of the kind begins anew. -/
theorem since_concat_of_pos {p : α → Bool} (h : p x = true) : since p (tr ++ [x]) = [] :=
  List.rtakeWhile_concat_neg _ _ _ (by simp [h])

/-- Any other is added. -/
theorem since_concat_of_neg {p : α → Bool} (h : p x = false) :
    since p (tr ++ [x]) = since p tr ++ [x] :=
  List.rtakeWhile_concat_pos _ _ _ (by simp [h])

/-- A count of what came after it begins anew, or goes on. -/
theorem countP_since_concat {p q : α → Bool} :
    (since p (tr ++ [x])).countP q =
      if p x then 0 else (since p tr).countP q + if q x then 1 else 0 := by
  cases hx : p x
  · rw [since_concat_of_neg hx, List.countP_append, List.countP_singleton]
    rfl
  · rw [since_concat_of_pos hx]
    rfl

/-- What came after the last item of a wider kind came after the last one of a narrower kind. -/
theorem mem_since_of_imp {p q : α → Bool} (hpq : ∀ x, p x = true → q x = true) {y : α}
    (h : y ∈ since q tr) : y ∈ since p tr := by
  induction tr using List.reverseRecOn with
  | nil => exact absurd h List.not_mem_nil
  | append_singleton tr x ih =>
    cases hq : q x
    · have hp : p x = false := by
        cases hp : p x
        · rfl
        · exact absurd ((hpq x hp).symm.trans hq) (by decide)
      rw [since_concat_of_neg hq] at h
      rw [since_concat_of_neg hp]
      rcases List.mem_append.mp h with h | h
      · exact List.mem_append_left _ (ih h)
      · exact List.mem_append_right _ h
    · rw [since_concat_of_pos hq] at h
      exact absurd h List.not_mem_nil

end Trace
