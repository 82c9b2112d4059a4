import RemoteControl.Lib.CString

/-!
# The error source (`errsrc.c`)

The last connectivity error, kept twice: as a code of the enumeration and as a string of at most 63
bytes, which a subscriber is told about. Wi-Fi code sets it by code (`errsrcSetEnum`) or by string
(`errsrcSet`), and `got_ip_lost` decides by the code.
-/

namespace RemoteControl

open CString

/-- `errsrc_t`. -/
inductive ErrSrc where
  | none
  | noCreds
  | ipLost
  | authExpire
  | authFail
  | noAp
  | fourWayTimeout
  | assocExpire
  | beaconTo
  | disconnected
  deriving DecidableEq, Repr

/-- The declared codes, in the order of the table `s_tab`. -/
def ErrSrc.all : List ErrSrc :=
  [.none, .noCreds, .ipLost, .authExpire, .authFail, .noAp, .fourWayTimeout, .assocExpire,
    .beaconTo, .disconnected]

/-- `errsrc_to_string` on the declared codes: the entries of `s_tab`. -/
def errsrcToString : ErrSrc → Bytes
  | .none => lit "NONE"
  | .noCreds => lit "NO_CREDS"
  | .ipLost => lit "IP_LOST"
  | .authExpire => lit "AUTH_EXPIRE"
  | .authFail => lit "AUTH_FAIL"
  | .noAp => lit "NO_AP"
  | .fourWayTimeout => lit "4WAY_TIMEOUT"
  | .assocExpire => lit "ASSOC_EXPIRE"
  | .beaconTo => lit "BEACON_TO"
  | .disconnected => lit "DISCONNECTED"

/-- `str_to_enum`. -/
def strToEnum (s : Bytes) : ErrSrc :=
  if s = [] then .none else (ErrSrc.all.find? fun e => errsrcToString e == s).getD .none

/-- `ERRSRC_STR_MAX`. -/
def errsrcStrMax : Nat := 64

/-- The statics of `errsrc.c`: the string, the code, whether a subscriber is set, and what it has
been told so far. -/
structure Errsrc where
  err : Bytes
  last : ErrSrc
  subscribed : Bool
  told : List Bytes
  deriving DecidableEq

/-- The statics at boot. -/
def Errsrc.init : Errsrc := ⟨lit "NONE", .none, false, []⟩

/-- `errsrc_set`; `none` is the null pointer. -/
def errsrcSet (st : Errsrc) (s : Option Bytes) : Errsrc :=
  let s := if s.getD [] = [] then lit "NONE" else s.getD []
  if strnEq st.err s errsrcStrMax then st
  else
    let err := s.take (errsrcStrMax - 1)
    { st with
      err := err
      last := strToEnum s
      told := if st.subscribed then st.told ++ [err] else st.told }

/-- `errsrc_set_enum`. -/
def errsrcSetEnum (st : Errsrc) (e : ErrSrc) : Errsrc :=
  errsrcSet { st with last := e } (some (errsrcToString e))

/-- `errsrc_subscribe`, which tells the subscriber the current string at once. -/
def errsrcSubscribe (st : Errsrc) : Errsrc :=
  { st with subscribed := true, told := st.told ++ [st.err] }

/-- `errsrc_get_code`. -/
def errsrcGetCode (st : Errsrc) : ErrSrc := st.last

/-- Every declared code is the code of its own string. -/
theorem strToEnum_errsrcToString (e : ErrSrc) : strToEnum (errsrcToString e) = e := by
  cases e <;> decide

/-- Setting a code makes it the current code, whether or not the string changes. -/
@[simp] theorem errsrcGetCode_setEnum (st : Errsrc) (e : ErrSrc) :
    errsrcGetCode (errsrcSetEnum st e) = e := by
  have hne : errsrcToString e ≠ [] := by cases e <;> decide
  simp only [errsrcGetCode, errsrcSetEnum, errsrcSet, Option.getD_some, if_neg hne]
  split
  · rfl
  · exact strToEnum_errsrcToString e

/-! ## The strings that are set -/

/-- The strings that occur as the error source: those of the codes, and the two that Wi-Fi code sets
by name. -/
def errTexts : List Bytes :=
  ErrSrc.all.map errsrcToString ++ [lit "TRYING", lit "SCANNING"]

theorem errsrcToString_mem_errTexts (e : ErrSrc) : errsrcToString e ∈ errTexts := by
  cases e <;> decide

/-- Setting one of these strings, or none, leaves one of them. -/
theorem errsrcSet_mem_errTexts {st : Errsrc} {s : Option Bytes} (h : st.err ∈ errTexts)
    (hs : ∀ t ∈ s, t ∈ errTexts) : (errsrcSet st s).err ∈ errTexts := by
  have htake : ∀ t ∈ errTexts, t.take (errsrcStrMax - 1) = t := by decide
  have hset : (if s.getD [] = [] then lit "NONE" else s.getD []) ∈ errTexts := by
    split
    · decide
    · next hne =>
      cases s with
      | none => exact absurd rfl hne
      | some t => exact hs t rfl
  unfold errsrcSet
  dsimp only
  generalize (if s.getD [] = [] then lit "NONE" else s.getD []) = t at hset ⊢
  split
  · exact h
  · rwa [htake t hset]

theorem errsrcSetEnum_mem_errTexts {st : Errsrc} (e : ErrSrc) (h : st.err ∈ errTexts) :
    (errsrcSetEnum st e).err ∈ errTexts := by
  have h' : { st with last := e }.err ∈ errTexts := h
  refine errsrcSet_mem_errTexts h' ?_
  rintro t ⟨⟩
  exact errsrcToString_mem_errTexts e

end RemoteControl
