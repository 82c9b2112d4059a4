import Mathlib.Data.List.Basic

/-!
# Lists cut at a separator

`split p` finds the first item of a list that is a separator (`p`), as `memchr` does. A list of
pieces, each ended by a separator, is read back from its beginning: what has no separator in it and
agrees with the list is the beginning of the first piece (`prefix_of_append_prefix`), and up to the
first separator it is that piece (`eq_of_cons_prefix`). So the pieces that have been read are the
first of those that have been written (`joined_prefix`).
-/

namespace Separator

variable {α : Type*} {p : α → Bool}

/-- The items before the first separator, and those after it. -/
def split (p : α → Bool) : List α → Option (List α × List α)
  | [] => none
  | a :: as => if p a then some ([], as) else (split p as).map fun r => (a :: r.1, r.2)

/-- Where a separator is found, the items before it are none. -/
theorem split_eq_some {as xs ys : List α} (h : split p as = some (xs, ys)) :
    ∃ s, p s = true ∧ as = xs ++ s :: ys ∧ ∀ x ∈ xs, p x = false := by
  induction as generalizing xs with
  | nil => cases h
  | cons a as ih =>
    rw [split] at h
    split at h
    · next ha =>
      cases h
      exact ⟨a, ha, rfl, nofun⟩
    · next ha =>
      obtain ⟨⟨xs', ys'⟩, hsplit, heq⟩ := Option.map_eq_some_iff.mp h
      cases heq
      obtain ⟨s, hs, rfl, hxs⟩ := ih hsplit
      exact ⟨s, hs, rfl, by simpa [ha] using hxs⟩

/-- The first separator is found. -/
theorem split_append {xs ys : List α} {s : α} (hxs : ∀ x ∈ xs, p x = false) (hs : p s = true) :
    split p (xs ++ s :: ys) = some (xs, ys) := by
  induction xs with
  | nil => rw [List.nil_append, split, if_pos hs]
  | cons x xs ih =>
    rw [List.cons_append, split, if_neg (by simp [hxs x List.mem_cons_self]),
      ih fun y hy => hxs y (List.mem_cons_of_mem x hy)]
    rfl

/-- Where none is found, there is none. -/
theorem split_eq_none {as : List α} (h : split p as = none) : ∀ a ∈ as, p a = false := by
  induction as with
  | nil => exact nofun
  | cons a as ih =>
    rw [split] at h
    split at h
    · cases h
    · next ha =>
      intro x hx
      rcases List.mem_cons.mp hx with rfl | hx
      · simpa using ha
      · exact ih (Option.map_eq_none_iff.mp h) x hx

/-- Items without a separator at the beginning of a list are the beginning of its first piece. -/
theorem prefix_of_append_prefix {xs ys as bs : List α} {s : α} (hxs : ∀ x ∈ xs, p x = false)
    (hs : p s = true) (h : xs ++ ys <+: as ++ s :: bs) : xs <+: as := by
  induction xs generalizing as with
  | nil => exact List.nil_prefix
  | cons x xs ih =>
    cases as with
    | nil =>
      obtain ⟨rfl, -⟩ := List.cons_prefix_cons.mp h
      rw [hxs x (by simp)] at hs
      cases hs
    | cons a as =>
      obtain ⟨rfl, hrest⟩ := List.cons_prefix_cons.mp h
      exact List.cons_prefix_cons.mpr ⟨rfl, ih (fun y hy => hxs y (by simp [hy])) hrest⟩

/-- **The first piece.** Up to the first separator two lists that agree are the same. -/
theorem eq_of_cons_prefix {xs ys as bs : List α} {r s : α} (hxs : ∀ x ∈ xs, p x = false)
    (hr : p r = true) (has : ∀ a ∈ as, p a = false) (hs : p s = true)
    (h : xs ++ r :: ys <+: as ++ s :: bs) : xs = as ∧ ys <+: bs := by
  induction xs generalizing as with
  | nil =>
    cases as with
    | nil => exact ⟨rfl, (List.cons_prefix_cons.mp h).2⟩
    | cons a as =>
      obtain ⟨rfl, -⟩ := List.cons_prefix_cons.mp h
      rw [has r (by simp)] at hr
      cases hr
  | cons x xs ih =>
    cases as with
    | nil =>
      obtain ⟨rfl, -⟩ := List.cons_prefix_cons.mp h
      rw [hxs x (by simp)] at hs
      cases hs
    | cons a as =>
      obtain ⟨rfl, hrest⟩ := List.cons_prefix_cons.mp h
      obtain ⟨rfl, htail⟩ :=
        ih (fun y hy => hxs y (by simp [hy])) (fun y hy => has y (by simp [hy])) hrest
      exact ⟨rfl, htail⟩

/-! ## Pieces that are each ended by a separator -/

/-- The pieces, each with a separator behind it. -/
def joined (s : α) (pieces : List (List α)) : List α := pieces.flatMap (· ++ [s])

@[simp] theorem joined_nil (s : α) : joined s [] = [] := rfl

@[simp] theorem joined_cons (s : α) (q : List α) (pieces : List (List α)) :
    joined s (q :: pieces) = q ++ s :: joined s pieces := by
  rw [joined, List.flatMap_cons, List.append_assoc]
  rfl

theorem joined_append (s : α) (pieces pieces' : List (List α)) :
    joined s (pieces ++ pieces') = joined s pieces ++ joined s pieces' := List.flatMap_append

/-- **The first pieces.** Where pieces and a rest without a separator are a list, any pieces and a
part of one that begin it are the first of them and the beginning of the next. -/
theorem joined_prefix {s : α} (hs : p s = true) {ps qs : List (List α)} {part rest last : List α}
    (hps : ∀ q ∈ ps, ∀ x ∈ q, p x = false) (hqs : ∀ q ∈ qs, ∀ x ∈ q, p x = false)
    (hpart : ∀ x ∈ part, p x = false) (hlast : ∀ x ∈ last, p x = false)
    (h : joined s ps ++ (part ++ rest) = joined s qs ++ last) :
    ps <+: qs ∧ part <+: qs[ps.length]?.getD last := by
  induction ps generalizing qs with
  | nil =>
    refine ⟨List.nil_prefix, ?_⟩
    cases qs with
    | nil => exact ⟨rest, h⟩
    | cons q qs =>
      rw [joined_nil, List.nil_append, joined_cons, List.append_assoc, List.cons_append] at h
      exact prefix_of_append_prefix hpart hs ⟨[], (List.append_nil _).trans h⟩
  | cons a ps ih =>
    cases qs with
    | nil =>
      have hmem : s ∈ last := by
        rw [joined_nil, List.nil_append] at h
        rw [← h, joined_cons]
        simp
      rw [hlast s hmem] at hs
      cases hs
    | cons q qs =>
      rw [joined_cons, joined_cons, List.append_assoc, List.append_assoc, List.cons_append,
        List.cons_append] at h
      obtain ⟨rfl, -⟩ := eq_of_cons_prefix (hps a List.mem_cons_self) hs
        (hqs q List.mem_cons_self) hs ⟨[], (List.append_nil _).trans h⟩
      obtain ⟨hpre, htail⟩ := ih (fun x hx => hps x (List.mem_cons_of_mem _ hx))
        (fun x hx => hqs x (List.mem_cons_of_mem _ hx))
        (List.cons.inj (List.append_cancel_left h)).2
      exact ⟨List.cons_prefix_cons.mpr ⟨rfl, hpre⟩, htail⟩

end Separator
