import Mathlib.Data.List.DropRight
import Mathlib.Data.Nat.Bitwise
import Mathlib.Tactic.IntervalCases

/-!
# Byte strings as C and Python programs handle them

Buffers are lists of bytes. A C string is the part of a buffer before its first NUL (`untilNul`);
the functions of `<string.h>` used on such strings become list functions with the same cut-offs
(`strnEq`). `scanUnsigned` is the `%u` / `%x` conversion of `sscanf`, and `formatNat` writes the
digits that `printf` or a Python format string writes; `scanUnsigned_formatNat` says that the
first reads back what the second wrote. `packLe` and `readLe` are little-endian numbers of a given
width, with `readLe_packLe` for their round trip.
-/

/-- A byte buffer. -/
abbrev Bytes := List UInt8

namespace CString

/-! ## Strings -/

/-- The bytes of an ASCII literal. -/
def lit (s : String) : Bytes := s.toList.map fun c => UInt8.ofNat c.toNat

/-- The C string at the start of a buffer: the bytes before the first NUL. -/
def untilNul (b : Bytes) : Bytes := b.takeWhile (· ≠ 0)

/-- `strncmp(a, b, n) == 0` for two C strings: equal up to `n` bytes, the NUL included. -/
def strnEq (a b : Bytes) (n : Nat) : Bool := (a ++ [0]).take n == (b ++ [0]).take n

/-- `tolower` in the C locale. -/
def toLower (c : UInt8) : UInt8 := if 65 ≤ c ∧ c ≤ 90 then c + 32 else c

/-- `strncasecmp(a, b, n) == 0` for two C strings. -/
def strnCaseEq (a b : Bytes) (n : Nat) : Bool := strnEq (a.map toLower) (b.map toLower) n

/-- `isspace` in the C locale. -/
def isSpace (c : UInt8) : Bool := c == 32 || (9 ≤ c && c ≤ 13)

/-- The bytes the repository's parsers trim: everything up to the blank. -/
def isBlank (c : UInt8) : Bool := c ≤ 32

/-- A string without its trailing blanks. -/
def trimTrailing (s : Bytes) : Bytes := s.rdropWhile isBlank

/-! ## Little-endian numbers -/

/-- The `w` bytes of `n`, least significant first. -/
def packLe : Nat → Nat → Bytes
  | 0, _ => []
  | w + 1, n => UInt8.ofNat (n % 256) :: packLe w (n / 256)

/-- The number whose bytes, least significant first, are the first `w` of a buffer. -/
def readLe : Nat → Bytes → Nat
  | 0, _ => 0
  | _ + 1, [] => 0
  | w + 1, b :: bs => b.toNat + 256 * readLe w bs

@[simp] theorem length_packLe (w n : Nat) : (packLe w n).length = w := by
  induction w generalizing n with
  | zero => rfl
  | succ w ih => simp [packLe, ih]

/-- Reading back a packed number gives it modulo the width. -/
theorem readLe_packLe (w n : Nat) (rest : Bytes) :
    readLe w (packLe w n ++ rest) = n % 256 ^ w := by
  induction w generalizing n with
  | zero => simp [readLe, Nat.mod_one]
  | succ w ih =>
    rw [packLe, List.cons_append, readLe, ih, Nat.pow_succ', Nat.mod_mul]
    simp

/-- `w` bytes hold a number below `256 ^ w`. -/
theorem readLe_lt (w : Nat) (bs : Bytes) : readLe w bs < 256 ^ w := by
  induction w generalizing bs with
  | zero => exact Nat.one_pos
  | succ w ih =>
    cases bs with
    | nil => exact Nat.pow_pos (by omega)
    | cons b bs =>
      have hb := b.toNat_lt
      have hrest := ih bs
      rw [readLe, Nat.pow_succ']
      omega

/-! ## Numbers as text -/

/-- The digit character of `d`, upper case above nine. -/
def digitChar (d : Nat) : UInt8 := if d < 10 then UInt8.ofNat (48 + d) else UInt8.ofNat (55 + d)

/-- The value of a hexadecimal digit character. -/
def digitVal (c : UInt8) : Option Nat :=
  if 48 ≤ c ∧ c ≤ 57 then some (c.toNat - 48)
  else if 65 ≤ c ∧ c ≤ 70 then some (c.toNat - 55)
  else if 97 ≤ c ∧ c ≤ 102 then some (c.toNat - 87)
  else none

/-- `c` is a digit of the base. -/
def isDigit (base : Nat) (c : UInt8) : Bool :=
  match digitVal c with
  | some d => d < base
  | none => false

/-- The number a digit string denotes. -/
def digitsValue (base : Nat) (ds : Bytes) : Nat :=
  ds.foldl (fun acc c => acc * base + (digitVal c).getD 0) 0

/-- An optional sign: whether it was a minus, and the rest. -/
def scanSign : Bytes → Bool × Bytes
  | 45 :: s => (true, s)
  | 43 :: s => (false, s)
  | s => (false, s)

/-- The optional `0x` of base sixteen, taken only where a digit follows. -/
def scanPrefix (base : Nat) : Bytes → Bytes
  | 48 :: x :: c :: s =>
    if base = 16 ∧ (x = 120 ∨ x = 88) ∧ isDigit 16 c then c :: s else 48 :: x :: c :: s
  | s => s

/-- The `%u` (`base = 10`) and `%x` (`base = 16`) conversions of `sscanf` into a `uint32_t`:
white space, a sign, the digits, with `strtoul`'s saturation and negation. `none` when no digit is
there. -/
def scanUnsigned (base : Nat) (s : Bytes) : Option (Nat × Bytes) :=
  let (neg, s₁) := scanSign (s.dropWhile isSpace)
  let s₂ := scanPrefix base s₁
  let ds := s₂.takeWhile (isDigit base)
  if ds = [] then none
  else
    let v := digitsValue base ds
    let r := if 2 ^ 32 ≤ v then 2 ^ 32 - 1 else if neg then (2 ^ 32 - v) % 2 ^ 32 else v
    some (r, s₂.drop ds.length)

/-- The `%<width>s` conversion of `sscanf`: white space, then at most `width` bytes that are none.
`none` when no such byte is there. -/
def scanWord (width : Nat) (s : Bytes) : Option (Bytes × Bytes) :=
  let s := s.dropWhile isSpace
  let word := (s.takeWhile fun c => !isSpace c).take width
  if word = [] then none else some (word, s.drop word.length)

/-- The digits of `n`, least significant first. -/
def digitsRev (base : Nat) : Nat → Nat → Bytes
  | 0, _ => []
  | fuel + 1, n =>
    digitChar (n % base) :: if n / base = 0 then [] else digitsRev base fuel (n / base)

/-- `n` written in the base. -/
def formatNat (base n : Nat) : Bytes := (digitsRev base (n + 1) n).reverse

/-- `n` written in the base with at least `width` digits (`%0<width>`). -/
def formatNatPad (width base n : Nat) : Bytes :=
  List.replicate (width - (formatNat base n).length) 48 ++ formatNat base n

/-- A digit character has the value it was made from. -/
theorem digitVal_digitChar {d : Nat} (h : d < 16) : digitVal (digitChar d) = some d := by
  interval_cases d <;> rfl

/-- A digit character of a base is a digit of that base. -/
theorem isDigit_digitChar {base d : Nat} (hb : base ≤ 16) (h : d < base) :
    isDigit base (digitChar d) = true := by
  rw [isDigit, digitVal_digitChar (by omega)]; simpa using h

/-- The reversed digits of a number are digits of the base. -/
theorem isDigit_of_mem_digitsRev {base : Nat} (h2 : 2 ≤ base) (hb : base ≤ 16) :
    ∀ {fuel n : Nat}, ∀ c ∈ digitsRev base fuel n, isDigit base c = true
  | 0, _, _, hc => nomatch hc
  | fuel + 1, n, c, hc => by
    rw [digitsRev, List.mem_cons] at hc
    rcases hc with rfl | hc
    · exact isDigit_digitChar hb (Nat.mod_lt _ (by omega))
    · split at hc
      · exact nomatch hc
      · exact isDigit_of_mem_digitsRev h2 hb c hc

/-- The digits of `formatNat` are digits of the base. -/
theorem isDigit_of_mem_formatNat {base n : Nat} (h2 : 2 ≤ base) (hb : base ≤ 16) {c : UInt8}
    (hc : c ∈ formatNat base n) : isDigit base c = true :=
  isDigit_of_mem_digitsRev h2 hb c (List.mem_reverse.mp hc)

theorem formatNat_ne_nil (base n : Nat) : formatNat base n ≠ [] := by
  simp [formatNat, digitsRev]

/-- A number below `base ^ k` has at most `k` digits. -/
theorem length_digitsRev_le {base : Nat} :
    ∀ {k fuel n : Nat}, n < base ^ (k + 1) → (digitsRev base fuel n).length ≤ k + 1
  | _, 0, _, _ => Nat.zero_le _
  | 0, fuel + 1, n, hn => by
    rw [Nat.zero_add, Nat.pow_one] at hn
    simp [digitsRev, Nat.div_eq_of_lt hn]
  | k + 1, fuel + 1, n, hn => by
    have hdiv : n / base < base ^ (k + 1) := Nat.div_lt_of_lt_mul (by rwa [← Nat.pow_succ'])
    rw [digitsRev, List.length_cons]
    split
    · simp
    · exact Nat.succ_le_succ (length_digitsRev_le hdiv)

theorem length_formatNat_le {base n k : Nat} (hn : n < base ^ (k + 1)) :
    (formatNat base n).length ≤ k + 1 := by
  rw [formatNat, List.length_reverse]
  exact length_digitsRev_le hn

/-- One more digit at the end multiplies by the base and adds the digit. -/
theorem digitsValue_concat (base : Nat) (ds : Bytes) (c : UInt8) :
    digitsValue base (ds ++ [c]) = digitsValue base ds * base + (digitVal c).getD 0 := by
  simp [digitsValue]

/-- The reversed digits, read back most significant first, give the number. -/
theorem digitsValue_digitsRev {base : Nat} (h2 : 2 ≤ base) (hb : base ≤ 16) :
    ∀ {fuel n : Nat}, n < fuel → digitsValue base (digitsRev base fuel n).reverse = n
  | fuel + 1, n, hn => by
    have hd : (digitVal (digitChar (n % base))).getD 0 = n % base := by
      rw [digitVal_digitChar (lt_of_lt_of_le (Nat.mod_lt _ (by omega)) hb)]; rfl
    rw [digitsRev, List.reverse_cons, digitsValue_concat, hd]
    have hdiv : base * (n / base) + n % base = n := Nat.div_add_mod n base
    split
    · next h0 =>
      rw [h0] at hdiv
      simpa [digitsValue] using hdiv
    · next h0 =>
      have hlt : n / base < n := Nat.div_lt_self (by by_contra h; simp at h; subst h; simp at h0) h2
      rw [digitsValue_digitsRev h2 hb (by omega), Nat.mul_comm]
      exact hdiv

/-- `formatNat` denotes its number. -/
theorem digitsValue_formatNat (base n : Nat) (h2 : 2 ≤ base) (hb : base ≤ 16) :
    digitsValue base (formatNat base n) = n :=
  digitsValue_digitsRev h2 hb (Nat.lt_succ_self n)

/-- Leading zeros do not change the number. -/
theorem digitsValue_replicate_zero (base k : Nat) (ds : Bytes) :
    digitsValue base (List.replicate k 48 ++ ds) = digitsValue base ds := by
  induction k with
  | zero => rfl
  | succ k ih =>
    rw [List.replicate_succ, List.cons_append]
    rw [← ih]
    simp [digitsValue, digitVal]

/-- A digit is no white space and no sign. -/
theorem not_isSpace_of_isDigit {base : Nat} {c : UInt8} (h : isDigit base c = true) :
    isSpace c = false ∧ c ≠ 45 ∧ c ≠ 43 := by
  have hne : digitVal c ≠ none := by
    intro hn; rw [isDigit, hn] at h; exact Bool.false_ne_true h
  have hlo : 48 ≤ c.toNat := by
    by_contra hlt
    apply hne
    simp only [digitVal, UInt8.le_iff_toNat_le, UInt8.toNat_ofNat]
    rw [if_neg (by omega), if_neg (by omega), if_neg (by omega)]
  refine ⟨?_, ?_, ?_⟩
  · simp only [isSpace, Bool.or_eq_false_iff, beq_eq_false_iff_ne, Bool.and_eq_false_iff,
      decide_eq_false_iff_not, UInt8.le_iff_toNat_le, UInt8.toNat_ofNat]
    exact ⟨fun h => by subst h; exact absurd hlo (by decide), .inr (by omega)⟩
  all_goals intro h; subst h; exact absurd hlo (by decide)

/-- Base ten has no prefix. -/
@[simp] theorem scanPrefix_ten (s : Bytes) : scanPrefix 10 s = s := by
  unfold scanPrefix; split <;> simp

/-- A string of digits alone has no prefix: its second byte is a digit, not an `x`. -/
theorem scanPrefix_of_digits {base : Nat} {ds : Bytes} (h : ∀ c ∈ ds, isDigit 16 c = true) :
    scanPrefix base ds = ds := by
  unfold scanPrefix
  split
  · next x c s =>
    have hx : isDigit 16 x = true := h x (by simp)
    rw [if_neg]
    rintro ⟨-, rfl | rfl, -⟩ <;> exact absurd hx (by decide)
  · rfl

/-- What `scanUnsigned` makes of white space, a digit string and a rest that starts with no
digit. -/
theorem scanUnsigned_of_digits {base : Nat} {sp ds rest : Bytes}
    (hsp : ∀ c ∈ sp, isSpace c = true) (hne : ds ≠ [])
    (hds : ∀ c ∈ ds, isDigit base c = true) (hrest : ∀ c ∈ rest.head?, isDigit base c = false)
    (hpre : scanPrefix base (ds ++ rest) = ds ++ rest) (hlt : digitsValue base ds < 2 ^ 32) :
    scanUnsigned base (sp ++ (ds ++ rest)) = some (digitsValue base ds, rest) := by
  obtain ⟨d, ds', rfl⟩ := List.exists_cons_of_ne_nil hne
  obtain ⟨hd, hminus, hplus⟩ := not_isSpace_of_isDigit (hds d (by simp))
  have hdrop : (sp ++ (d :: ds' ++ rest)).dropWhile isSpace = d :: ds' ++ rest := by
    rw [List.dropWhile_append_of_pos hsp]
    simp [hd]
  have hsign : scanSign (d :: ds' ++ rest) = (false, d :: ds' ++ rest) := by
    unfold scanSign
    split
    · next heq => exact absurd (List.cons.inj heq).1 hminus
    · next heq => exact absurd (List.cons.inj heq).1 hplus
    · rfl
  have htake : (d :: ds' ++ rest).takeWhile (isDigit base) = d :: ds' := by
    rw [List.takeWhile_append_of_pos hds]
    cases rest with
    | nil => simp
    | cons r rest => simp [hrest r (by simp)]
  simp only [scanUnsigned, hdrop, hsign, hpre, htake]
  rw [if_neg (by simp), if_neg (by omega)]
  simp

/-- **Decimal round trip.** `%u` reads back a number written in base ten before a non-digit. -/
theorem scanUnsigned_formatNat_ten {n : Nat} {sp rest : Bytes} (hn : n < 2 ^ 32)
    (hsp : ∀ c ∈ sp, isSpace c = true) (hrest : ∀ c ∈ rest.head?, isDigit 10 c = false) :
    scanUnsigned 10 (sp ++ (formatNat 10 n ++ rest)) = some (n, rest) := by
  have hv := digitsValue_formatNat 10 n (by omega) (by omega)
  rw [scanUnsigned_of_digits hsp (formatNat_ne_nil 10 n)
    (fun c => isDigit_of_mem_formatNat (by omega) (by omega)) hrest (by simp)
    (by rw [hv]; exact hn), hv]

/-- **Hexadecimal round trip.** `%x` reads back a number written as `%0<width>X` at the end of the
string. -/
theorem scanUnsigned_formatNatPad_sixteen {n width : Nat} {sp : Bytes} (hn : n < 2 ^ 32)
    (hsp : ∀ c ∈ sp, isSpace c = true) :
    scanUnsigned 16 (sp ++ formatNatPad width 16 n) = some (n, []) := by
  have hv : digitsValue 16 (formatNatPad width 16 n) = n := by
    rw [formatNatPad, digitsValue_replicate_zero]
    exact digitsValue_formatNat 16 n (by omega) (by omega)
  have hds : ∀ c ∈ formatNatPad width 16 n, isDigit 16 c = true := by
    intro c hc
    rcases List.mem_append.mp hc with hc | hc
    · rw [List.eq_of_mem_replicate hc]; decide
    · exact isDigit_of_mem_formatNat (by omega) (by omega) hc
  have h : scanUnsigned 16 (sp ++ (formatNatPad width 16 n ++ [])) =
      some (digitsValue 16 (formatNatPad width 16 n), []) :=
    scanUnsigned_of_digits hsp (by simp [formatNatPad, formatNat_ne_nil]) hds (by simp)
      (by rw [List.append_nil]; exact scanPrefix_of_digits hds) (by rw [hv]; exact hn)
  rwa [List.append_nil, hv] at h

/-! ## Blanks and words -/

/-- A part without a NUL is before the NUL. -/
theorem untilNul_append {s : Bytes} (h : ∀ c ∈ s, c ≠ 0) (t : Bytes) :
    untilNul (s ++ t) = s ++ untilNul t :=
  List.takeWhile_append_of_pos fun c hc => by simpa using h c hc

theorem isBlank_of_isSpace {c : UInt8} (h : isSpace c = true) : isBlank c = true := by
  simp only [isSpace, isBlank, Bool.or_eq_true, Bool.and_eq_true, beq_iff_eq, decide_eq_true_eq,
    UInt8.le_iff_toNat_le] at h ⊢
  rcases h with rfl | ⟨-, h⟩
  · decide
  · exact h.trans (by decide)

theorem trimTrailing_eq_nil {s : Bytes} : trimTrailing s = [] ↔ ∀ c ∈ s, isBlank c = true :=
  List.rdropWhile_eq_nil_iff

/-- Lower case keeps blanks and the others apart. -/
theorem isBlank_toLower (c : UInt8) : isBlank (toLower c) = isBlank c := by
  rw [Bool.eq_iff_iff, isBlank, isBlank, toLower, decide_eq_true_iff, decide_eq_true_iff]
  split
  · next h =>
    simp only [UInt8.le_iff_toNat_le, UInt8.toNat_add] at h ⊢
    have hlt := c.toNat_lt
    simp at h hlt ⊢
    omega
  · exact Iff.rfl

/-- A word stays one in lower case. -/
theorem word_map_toLower {s : Bytes} :
    (∀ c ∈ s.map toLower, isBlank c = false) ↔ ∀ c ∈ s, isBlank c = false := by
  simp only [List.forall_mem_map, isBlank_toLower]

theorem toLower_of_isBlank {c : UInt8} (h : isBlank c = true) : toLower c = c := by
  rw [isBlank, decide_eq_true_iff] at h
  refine if_neg fun hupper => ?_
  exact absurd (UInt8.le_trans hupper.1 h) (by decide)

/-- Nothing else becomes a blank. -/
theorem toLower_eq_blank {c d : UInt8} (hd : isBlank d = true) (h : toLower c = d) : c = d := by
  have hc : isBlank c = true := by rw [← isBlank_toLower, h]; exact hd
  rwa [toLower_of_isBlank hc] at h

/-- `strncasecmp` with the length of a string compares a prefix. -/
theorem strnCaseEq_length_iff {s t : Bytes} (ht : ∀ c ∈ t, c ≠ 0) :
    strnCaseEq s t t.length = true ↔ t.map toLower <+: s.map toLower := by
  have htake : (t.map toLower ++ [0]).take t.length = t.map toLower :=
    List.take_left' (List.length_map _)
  have hzero : (0 : UInt8) ∉ t.map toLower := by
    intro hmem
    obtain ⟨c, hc, hlower⟩ := List.mem_map.mp hmem
    exact ht c hc (toLower_eq_blank (by decide) hlower)
  have hpre : t.map toLower <+: s.map toLower ++ [0] ↔
      t.map toLower = (s.map toLower ++ [0]).take t.length := by
    rw [List.prefix_iff_eq_take, List.length_map]
  rw [strnCaseEq, strnEq, htake, beq_iff_eq, eq_comm, ← hpre, List.prefix_concat_iff]
  constructor
  · rintro (heq | hpre)
    · exact absurd (heq ▸ by simp) hzero
    · exact hpre
  · exact .inr

/-- Trimming reaches the first of two strings only if the second one is blank. -/
theorem trimTrailing_append (a b : Bytes) :
    trimTrailing (a ++ b) =
      if trimTrailing b = [] then trimTrailing a else a ++ trimTrailing b := by
  simp only [trimTrailing, List.rdropWhile, List.reverse_append, List.dropWhile_append,
    List.isEmpty_iff, List.reverse_eq_nil_iff]
  split
  · rfl
  · simp

/-- A string is its trimmed part and blanks. -/
theorem trimTrailing_append_blanks (s : Bytes) :
    ∃ t, s = trimTrailing s ++ t ∧ ∀ c ∈ t, isBlank c = true :=
  ⟨s.rtakeWhile isBlank, List.rdropWhile_append_rtakeWhile.symm,
    fun _ hc => List.mem_rtakeWhile_imp hc⟩

/-- Trimming leaves the first word. -/
theorem takeWhile_trimTrailing (s : Bytes) :
    (trimTrailing s).takeWhile (fun c => !isBlank c) = s.takeWhile fun c => !isBlank c := by
  obtain ⟨t, hs, ht⟩ := trimTrailing_append_blanks s
  have hnil : t.takeWhile (fun c => !isBlank c) = [] := by
    cases t with
    | nil => rfl
    | cons c t => simp [ht c List.mem_cons_self]
  conv_rhs => rw [hs, List.takeWhile_append, hnil, List.append_nil]
  split
  · next hlen =>
    exact (List.takeWhile_prefix _).eq_of_length hlen
  · rfl

/-- Trimming is the identity on a string that does not end in a blank. -/
theorem trimTrailing_of_getLast {s : Bytes} (h : ∀ c ∈ s.getLast?, isBlank c = false) :
    trimTrailing s = s := by
  refine List.rdropWhile_eq_self_iff.mpr fun hne => ?_
  rw [h _ (List.getLast?_eq_some_getLast hne)]
  decide

/-- What a trimmed string ends in. -/
theorem getLast_of_trimTrailing {s : Bytes} (h : trimTrailing s = s) :
    ∀ c ∈ s.getLast?, isBlank c = false := by
  intro c hc
  obtain ⟨hne, rfl⟩ := List.mem_getLast?_eq_getLast hc
  simpa using List.rdropWhile_eq_self_iff.mp h hne

/-- Where `dropWhile` stops. -/
theorem head?_dropWhile_of {p : UInt8 → Bool} {s : List UInt8} :
    ∀ c ∈ (s.dropWhile p).head?, p c = false := by
  intro c hc
  have h := List.head?_dropWhile_not p s
  rw [Option.mem_def.mp hc] at h
  exact h

/-- **What `%s` reads**: behind white space, a word that ends at its width, at white space or with
the string. -/
theorem scanWord_eq_some_iff {width : Nat} {s word rest : Bytes} :
    scanWord width s = some (word, rest) ↔
      ∃ blanks, s = blanks ++ (word ++ rest) ∧ (∀ c ∈ blanks, isSpace c = true) ∧
        word ≠ [] ∧ word.length ≤ width ∧ (∀ c ∈ word, isSpace c = false) ∧
        (word.length < width → ∀ c ∈ rest.head?, isSpace c = true) := by
  constructor
  · intro h
    unfold scanWord at h
    dsimp only at h
    split at h
    · cases h
    · next hne =>
      cases h
      have hpre : ((s.dropWhile isSpace).takeWhile fun c => !isSpace c).take width <+:
          s.dropWhile isSpace := (List.take_prefix _ _).trans (List.takeWhile_prefix _)
      refine ⟨s.takeWhile isSpace, ?_, fun c hc => List.mem_takeWhile_imp hc, hne,
        List.length_take_le _ _, ?_, ?_⟩
      · rw [List.prefix_iff_eq_append.mp hpre, List.takeWhile_append_dropWhile]
      · intro c hc
        simpa using List.mem_takeWhile_imp (List.mem_of_mem_take hc)
      · intro hlt c hc
        -- a word shorter than the width is all there was
        have hall : ((s.dropWhile isSpace).takeWhile fun c => !isSpace c).length ≤ width := by
          rw [List.length_take] at hlt
          omega
        rw [List.take_of_length_le hall] at hc
        have hsplit := @List.drop_left _ ((s.dropWhile isSpace).takeWhile fun c => !isSpace c)
          ((s.dropWhile isSpace).dropWhile fun c => !isSpace c)
        rw [List.takeWhile_append_dropWhile] at hsplit
        rw [hsplit] at hc
        simpa using head?_dropWhile_of c hc
  · rintro ⟨blanks, rfl, hblanks, hne, hle, hword, hrest⟩
    have hskip : (blanks ++ (word ++ rest)).dropWhile isSpace = word ++ rest := by
      rw [List.dropWhile_append_of_pos hblanks]
      obtain ⟨c, word', rfl⟩ := List.exists_cons_of_ne_nil hne
      rw [List.cons_append, List.dropWhile_cons, if_neg (by simp [hword c])]
    have htake : ((word ++ rest).takeWhile fun c => !isSpace c).take width = word := by
      rw [List.takeWhile_append_of_pos (by simpa using hword)]
      rcases Nat.lt_or_ge word.length width with hlt | hge
      · have hnil : rest.takeWhile (fun c => !isSpace c) = [] := by
          cases rest with
          | nil => rfl
          | cons c rest => simp [hrest hlt c rfl]
        rw [hnil, List.append_nil, List.take_of_length_le hle]
      · rw [List.take_append_of_le_length hge, List.take_of_length_le hle]
    unfold scanWord
    dsimp only
    rw [hskip, htake, if_neg hne, List.drop_left]

/-- `%s` reads a word up to the white space behind it. -/
theorem scanWord_word {width : Nat} {word rest : Bytes} (hne : word ≠ [])
    (hlen : word.length ≤ width) (hword : ∀ c ∈ word, isSpace c = false)
    (hrest : ∀ c ∈ rest.head?, isSpace c = true) :
    scanWord width (word ++ rest) = some (word, rest) :=
  scanWord_eq_some_iff.mpr
    ⟨[], rfl, List.forall_mem_nil _, hne, hlen, hword, fun _ => hrest⟩

/-- It skips a blank before it. -/
theorem scanWord_blank (width : Nat) (s : Bytes) :
    scanWord width (32 :: s) = scanWord width s := rfl

theorem scanWord_nil (width : Nat) : scanWord width [] = none := by
  unfold scanWord
  simp

end CString
