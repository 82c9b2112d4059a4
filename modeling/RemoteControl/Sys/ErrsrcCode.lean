import RemoteControl.Lib.Run
import RemoteControl.Sys.Errsrc

/-!
# The code and the string of the error source (`errsrc.c`)

One setter writes the code before it looks whether the string changes, the other one computes it
from a string that it has not yet cut. Between calls the code is nevertheless the one that
`str_to_enum` finds for the string that is held (`CodeFits`): a string is left alone only if it is
the one held, and a string that is cut is longer than all the names in the table. So
`errsrc_get_code` says of `errsrc_get` what the table says of it (`errsrc_agrees`).
-/

namespace RemoteControl

open CString

/-! ## Calls -/

/-- The calls that change the error source, and `errsrc_subscribe`. -/
inductive ErrsrcCall where
  | set (s : Option Bytes)
  | setEnum (e : ErrSrc)
  | subscribe
  deriving DecidableEq

/-- The statics after a call. -/
def Errsrc.call (st : Errsrc) : ErrsrcCall → Errsrc
  | .set s => errsrcSet st s
  | .setEnum e => errsrcSetEnum st e
  | .subscribe => errsrcSubscribe st

/-- `errsrc_get`. -/
def errsrcGet (st : Errsrc) : Bytes := st.err

/-- What a call sets `s_err` to: its string, which reads as `NONE` where there is none, cut to 63
bytes. -/
def ErrsrcCall.text : ErrsrcCall → Option Bytes
  | .set s => some ((if s.getD [] = [] then lit "NONE" else s.getD []).take 63)
  | .setEnum e => some (errsrcToString e)
  | .subscribe => none

/-- The string set last; at boot it is `NONE`. -/
def lastSet (calls : List ErrsrcCall) : Bytes :=
  ((calls.filterMap ErrsrcCall.text).getLast?).getD (lit "NONE")

/-- The code of a string: the one whose name it is, or `ES_NONE` if it is the name of none. -/
inductive IsCodeOf (s : Bytes) : ErrSrc → Prop
  | named {e : ErrSrc} : errsrcToString e = s → (∀ e', errsrcToString e' = s → e' = e) →
      IsCodeOf s e
  | unnamed : (∀ e, errsrcToString e ≠ s) → IsCodeOf s .none

/-! ## Names -/

/-- The names are different. -/
theorem errsrcToString_injective {e e' : ErrSrc} (h : errsrcToString e = errsrcToString e') :
    e = e' := by
  rw [← strToEnum_errsrcToString e, h, strToEnum_errsrcToString]

/-- `str_to_enum` finds the code of a string. -/
theorem isCodeOf_strToEnum {s : Bytes} (hs : s ≠ []) : IsCodeOf s (strToEnum s) := by
  rw [strToEnum, if_neg hs]
  cases hfind : ErrSrc.all.find? fun e => errsrcToString e == s with
  | none =>
    refine .unnamed fun e he => ?_
    have hall : e ∈ ErrSrc.all := by cases e <;> decide
    exact absurd he (by simpa using List.find?_eq_none.mp hfind e hall)
  | some e =>
    have he : errsrcToString e = s := by simpa using List.find?_some hfind
    exact .named he fun e' he' => errsrcToString_injective (he'.trans he.symm)

/-- A string that is cut has no name, before or after. -/
theorem strToEnum_take (s : Bytes) : strToEnum (s.take 63) = strToEnum s := by
  rcases Nat.lt_or_ge 63 s.length with hlong | hshort
  · have hnone : ∀ t : Bytes, 63 ≤ t.length → strToEnum t = .none := by
      intro t ht
      have hshort : ∀ e, (errsrcToString e).length < 63 := by
        intro e
        cases e <;> decide
      have hne : t ≠ [] := by
        rintro rfl
        exact absurd ht (by decide)
      have hcode := isCodeOf_strToEnum hne
      generalize strToEnum t = c at hcode ⊢
      cases hcode with
      | unnamed => rfl
      | named he _ =>
        have hlt := hshort c
        rw [he] at hlt
        exact absurd ht (Nat.not_le.mpr hlt)
    have hcut : (s.take 63).length = 63 := by
      rw [List.length_take]
      exact Nat.min_eq_left (Nat.le_of_lt hlong)
    rw [hnone _ (Nat.le_of_lt hlong), hnone _ (Nat.le_of_eq hcut.symm)]
  · rw [List.take_of_length_le hshort]

/-! ## The setters -/

/-- A string that the comparison takes for the one that is held is that one, cut. -/
theorem eq_take_of_strnEq {err s : Bytes} (herr : err.length ≤ 63)
    (h : strnEq err s errsrcStrMax = true) : err = s.take 63 := by
  have hheld : (err ++ [0]).take 64 = err ++ [0] := by
    refine List.take_of_length_le ?_
    rw [List.length_append]
    exact Nat.succ_le_succ herr
  rw [strnEq, beq_iff_eq, errsrcStrMax, hheld] at h
  rcases Nat.lt_or_ge s.length 64 with hlt | hge
  · have hs : (s ++ [0]).take 64 = s ++ [0] := by
      refine List.take_of_length_le ?_
      rw [List.length_append]
      exact hlt
    rw [hs] at h
    rw [List.append_cancel_right h, List.take_of_length_le (Nat.le_of_lt_succ hlt)]
  · rw [List.take_append_of_le_length hge] at h
    have hlen := congrArg List.length h
    rw [List.length_append, List.length_take, Nat.min_eq_left hge] at hlen
    have hcut := congrArg (List.take err.length) h
    rw [List.take_left, List.take_take] at hcut
    rw [hcut]
    congr 1
    simp only [List.length_singleton] at hlen
    omega

/-- The string is one that is held, and the code is that of the string. -/
structure CodeFits (st : Errsrc) : Prop where
  err_ne : st.err ≠ []
  err_le : st.err.length ≤ 63
  code : st.last = strToEnum st.err

/-- A setter leaves the cut of its string, with its code. -/
theorem CodeFits.set {st : Errsrc} (h : CodeFits st) {s : Bytes} (hs : s ≠ []) :
    CodeFits (errsrcSet st (some s)) ∧ (errsrcSet st (some s)).err = s.take 63 := by
  rw [errsrcSet, Option.getD_some, if_neg hs]
  by_cases hsame : strnEq st.err s errsrcStrMax = true
  · rw [if_pos hsame]
    exact ⟨h, eq_take_of_strnEq h.err_le hsame⟩
  · rw [if_neg hsame]
    refine ⟨⟨?_, ?_, (strToEnum_take s).symm⟩, rfl⟩
    · rw [Ne, List.take_eq_nil_iff]
      rintro (habs | habs)
      · exact absurd habs (by decide)
      · exact hs habs
    · exact List.length_take_le _ _

/-- The null pointer and the empty string set `NONE`. -/
theorem errsrcSet_normal (st : Errsrc) (s : Option Bytes) :
    errsrcSet st s = errsrcSet st (some (if s.getD [] = [] then lit "NONE" else s.getD [])) := by
  have hnone : lit "NONE" ≠ [] := by decide
  unfold errsrcSet
  split
  · rw [Option.getD_some, if_neg hnone]
  · next hs => rw [Option.getD_some, if_neg hs]

/-- The code that is written first is that of its name, whether or not the string changes. -/
theorem CodeFits.setEnum {st : Errsrc} (h : CodeFits st) (e : ErrSrc) :
    CodeFits (errsrcSetEnum st e) ∧ (errsrcSetEnum st e).err = errsrcToString e := by
  obtain ⟨hne, hlen⟩ : errsrcToString e ≠ [] ∧ (errsrcToString e).length ≤ 63 := by
    cases e <;> decide
  rw [errsrcSetEnum, errsrcSet, Option.getD_some, if_neg hne]
  split
  · next hsame =>
    have herr := eq_take_of_strnEq h.err_le hsame
    rw [List.take_of_length_le hlen] at herr
    refine ⟨⟨h.err_ne, h.err_le, ?_⟩, herr⟩
    exact (congrArg strToEnum herr).trans (strToEnum_errsrcToString e) |>.symm
  · have hcut : (errsrcToString e).take (errsrcStrMax - 1) = errsrcToString e :=
      List.take_of_length_le hlen
    rw [hcut]
    exact ⟨⟨hne, hlen, rfl⟩, rfl⟩

/-! ## All calls -/

/-- A call keeps the agreement, and leaves its string if it sets one. -/
theorem CodeFits.call {st : Errsrc} (h : CodeFits st) (c : ErrsrcCall) :
    CodeFits (st.call c) ∧ (st.call c).err = c.text.getD st.err := by
  cases c with
  | set s =>
    rw [Errsrc.call, errsrcSet_normal]
    refine h.set ?_
    split
    · decide
    · assumption
  | setEnum e => exact h.setEnum e
  | subscribe => exact ⟨⟨h.err_ne, h.err_le, h.code⟩, rfl⟩

/-- A further call sets its own string, if any. -/
theorem lastSet_concat (calls : List ErrsrcCall) (c : ErrsrcCall) :
    lastSet (calls ++ [c]) = c.text.getD (lastSet calls) := by
  rw [lastSet, List.filterMap_append, List.getLast?_append]
  cases htext : c.text with
  | none => simp [htext, lastSet]
  | some s => simp [htext]

/-- After all calls the string is the one set last, with its code. -/
theorem codeFits_exec (calls : List ErrsrcCall) :
    CodeFits (Run.exec Errsrc.call .init calls) ∧
      (Run.exec Errsrc.call .init calls).err = lastSet calls := by
  induction calls using List.reverseRecOn with
  | nil => exact ⟨⟨by decide, by decide, by decide⟩, rfl⟩
  | append_singleton calls c ih =>
    obtain ⟨hfits, herr⟩ := ih
    obtain ⟨hfits', herr'⟩ := hfits.call c
    rw [Run.exec_concat]
    refine ⟨hfits', ?_⟩
    rw [herr', herr, lastSet_concat]

/-- **The code and the string agree.** Whatever has been set, by string or by code, the string is
the one that was set last, and the code is the only one of that name, or `ES_NONE` if there is
none. -/
theorem errsrc_agrees (calls : List ErrsrcCall) :
    errsrcGet (Run.exec Errsrc.call .init calls) = lastSet calls ∧
      IsCodeOf (errsrcGet (Run.exec Errsrc.call .init calls))
        (errsrcGetCode (Run.exec Errsrc.call .init calls)) := by
  obtain ⟨hfits, herr⟩ := codeFits_exec calls
  refine ⟨herr, ?_⟩
  rw [errsrcGet, errsrcGetCode, hfits.code]
  exact isCodeOf_strToEnum hfits.err_ne

end RemoteControl
