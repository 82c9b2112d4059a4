import RemoteControl.Ble.WifiWrite
import RemoteControl.Net.Credentials

/-!
# The arguments of `setwifi` (`cmd_wifi.c`)

`SetwifiWords` is the format of the command: an SSID, white space and a password, with nothing but
blanks behind them. `cmd_setwifi` reads it with `sscanf`, whose widths do not reject a word that is
too long but leave the rest of it to the next conversion, which skips white space in front and does
not look at what comes after. It meets the format exactly on arguments that are a pair with nothing
that `sscanf` would add to the password, or that have no second word for it to find
(`setwifi_meets_iff`).
-/

namespace RemoteControl

open CString

/-! ## The format -/

/-- The arguments without trailing blanks are an SSID, white space, and a password. -/
structure SetwifiWords (args ssid gap pwd : Bytes) : Prop where
  text : trimTrailing args = ssid ++ (gap ++ pwd)
  ssid_ne : ssid ≠ []
  ssid_le : ssid.length ≤ 32
  ssid_word : ∀ c ∈ ssid, isSpace c = false
  gap_ne : gap ≠ []
  gap_space : ∀ c ∈ gap, isSpace c = true
  pwd_ne : pwd ≠ []
  pwd_le : pwd.length ≤ 64
  pwd_word : ∀ c ∈ pwd, isSpace c = false

/-- The arguments are this pair. -/
def IsPair (args ssid pwd : Bytes) : Prop := ∃ gap, SetwifiWords args ssid gap pwd

/-- `cmd_setwifi` calls `wifi_set_credentials` with the pair and says so. -/
def SetsPair (args ssid pwd : Bytes) : Prop :=
  ∀ a c, cmdSetwifi a args c = (lit "WIFI_UPDATED\n", c.step ⟨.setwifi ssid pwd, a⟩)

/-- `cmd_setwifi` refuses the arguments and does nothing else. -/
def RefusesArgs (args : Bytes) : Prop := ∀ a c, cmdSetwifi a args c = (lit "BADFMT\n", c)

/-- `cmd_setwifi` accepts exactly the format. -/
structure SetwifiMeets (args : Bytes) : Prop where
  accepts : ∀ ssid pwd, IsPair args ssid pwd → SetsPair args ssid pwd
  refuses : (∀ ssid pwd, ¬ IsPair args ssid pwd) → RefusesArgs args
  whole : ∀ ssid pwd, SetsPair args ssid pwd → IsPair args ssid pwd

/-- At most one word, of at most 32 bytes. -/
def OneWord (args : Bytes) : Prop :=
  ∃ pre word post, args = pre ++ (word ++ post) ∧ (∀ c ∈ pre, isSpace c = true) ∧
    word.length ≤ 32 ∧ (∀ c ∈ word, isSpace c = false) ∧ ∀ c ∈ post, isSpace c = true

/-- The trailing blanks do not add to the password: white space comes first, or the password is as
long as it may be. -/
def TailApart (args pwd : Bytes) : Prop :=
  pwd.length = 64 ∨ ∀ c ∈ (args.drop (trimTrailing args).length).head?, isSpace c = true

/-! ## What is read -/

/-- White space holds no word, and anything else does. -/
theorem scanWord_eq_none_iff {width : Nat} (hwidth : 0 < width) {s : Bytes} :
    scanWord width s = none ↔ ∀ c ∈ s, isSpace c = true := by
  have hnone : scanWord width s = none ↔
      ((s.dropWhile isSpace).takeWhile fun c => !isSpace c).take width = [] := by
    unfold scanWord
    dsimp only
    split
    · next h => exact ⟨fun _ => h, fun _ => rfl⟩
    · next h => exact ⟨fun habs => absurd habs (Option.some_ne_none _), fun habs => absurd habs h⟩
  rw [hnone, List.take_eq_nil_iff, ← List.dropWhile_eq_nil_iff]
  constructor
  · rintro (h0 | hnil)
    · omega
    · cases hs : s.dropWhile isSpace with
      | nil => rfl
      | cons c rest =>
        have hc : isSpace c = false := head?_dropWhile_of c (by rw [hs]; rfl)
        rw [hs, List.takeWhile_cons, hc] at hnil
        exact absurd hnil (List.cons_ne_nil _ _)
  · intro hnil
    rw [hnil]
    exact .inr rfl

section
variable {args ssid gap pwd : Bytes}

/-- The reply, and the call. -/
theorem cmdSetwifi_eq (a : Answers) (c : Control) :
    cmdSetwifi a args c =
      match setwifiPair args with
      | none => (lit "BADFMT\n", c)
      | some (ssid, pwd) => (lit "WIFI_UPDATED\n", c.step ⟨.setwifi ssid pwd, a⟩) :=
  rfl

theorem replies_ne : lit "BADFMT\n" ≠ lit "WIFI_UPDATED\n" := by decide

theorem refusesArgs_iff : RefusesArgs args ↔ setwifiPair args = none := by
  constructor
  · intro h
    have hreply := h .factory blankControl
    rw [cmdSetwifi_eq] at hreply
    cases hpair : setwifiPair args with
    | none => rfl
    | some p =>
      rw [hpair] at hreply
      exact absurd (congrArg Prod.fst hreply) replies_ne.symm
  · intro h a c
    rw [cmdSetwifi_eq, h]

theorem setsPair_iff : SetsPair args ssid pwd ↔ setwifiPair args = some (ssid, pwd) := by
  constructor
  · intro h
    have hreply := h .factory blankControl
    rw [cmdSetwifi_eq] at hreply
    cases hpair : setwifiPair args with
    | none =>
      rw [hpair] at hreply
      exact absurd (congrArg Prod.fst hreply) replies_ne
    | some p =>
      -- on a platform that fails nowhere the NVS shows which pair it was
      obtain ⟨u, v⟩ := p
      rw [hpair] at hreply
      have hcontrol : blankControl.wifiSetCredentials .factory u v =
          blankControl.wifiSetCredentials .factory ssid pwd := congrArg Prod.snd hreply
      obtain ⟨-, hu, hv⟩ := blankControl.wifiSetCredentials_stored (a := .factory) rfl u v
      obtain ⟨-, hssid, hpwd⟩ :=
        blankControl.wifiSetCredentials_stored (a := .factory) rfl ssid pwd
      rw [hcontrol] at hu hv
      rw [Option.some.inj (hu.symm.trans hssid), Option.some.inj (hv.symm.trans hpwd)]
  · intro h a c
    rw [cmdSetwifi_eq, h]

/-- No pair is read exactly from at most one word that is not too long. -/
theorem setwifiPair_eq_none_iff : setwifiPair args = none ↔ OneWord args := by
  constructor
  · intro h
    cases hfirst : scanWord 32 args with
    | none =>
      have hspace := (scanWord_eq_none_iff (by decide)).mp hfirst
      exact ⟨args, [], [], by rw [List.append_nil, List.append_nil], hspace, by decide,
        List.forall_mem_nil _, List.forall_mem_nil _⟩
    | some p =>
      obtain ⟨word, rest⟩ := p
      have hsecond : scanWord 64 rest = none := by
        cases hsecond : scanWord 64 rest with
        | none => rfl
        | some q =>
          have hsome := setwifiPair_eq_some_iff.mpr ⟨rest, q.2, hfirst, hsecond⟩
          exact absurd (h.symm.trans hsome) (Option.some_ne_none _).symm
      obtain ⟨pre, hargs, hpre, -, hle, hword, -⟩ := scanWord_eq_some_iff.mp hfirst
      exact ⟨pre, word, rest, hargs, hpre, hle, hword,
        (scanWord_eq_none_iff (by decide)).mp hsecond⟩
  · rintro ⟨pre, word, post, rfl, hpre, hle, hword, hpost⟩
    rw [setwifiPair]
    by_cases hne : word = []
    · have hnone : scanWord 32 (pre ++ (word ++ post)) = none := by
        rw [scanWord_eq_none_iff (by decide), hne, List.nil_append]
        intro c hc
        exact (List.mem_append.mp hc).elim (hpre c) (hpost c)
      rw [hnone]
      rfl
    · have hfirst : scanWord 32 (pre ++ (word ++ post)) = some (word, post) :=
        scanWord_eq_some_iff.mpr ⟨pre, rfl, hpre, hne, hle, hword,
          fun _ c hc => hpost c (List.mem_of_mem_head? hc)⟩
      have hsecond : scanWord 64 post = none := (scanWord_eq_none_iff (by decide)).mpr hpost
      simp only [hfirst, hsecond, Option.bind_eq_bind, Option.bind_some, Option.bind_none]

variable (h : SetwifiWords args ssid gap pwd)
include h

/-- The arguments, with what was trimmed. -/
theorem SetwifiWords.args_eq :
    args = ssid ++ (gap ++ (pwd ++ args.drop (trimTrailing args).length)) := by
  have hpre : trimTrailing args <+: args := List.rdropWhile_prefix _ _
  conv_lhs => rw [← List.prefix_iff_eq_append.mp hpre, h.text]
  simp only [List.append_assoc, h.text]

/-- The SSID is the first word. -/
theorem SetwifiWords.ssid_eq : ssid = (trimTrailing args).takeWhile fun c => !isSpace c := by
  obtain ⟨c, gap', rfl⟩ := List.exists_cons_of_ne_nil h.gap_ne
  have hc : isSpace c = true := h.gap_space c List.mem_cons_self
  rw [h.text, List.takeWhile_append_of_pos (fun d hd => by simpa using h.ssid_word d hd),
    List.cons_append, List.takeWhile_cons, hc]
  exact (List.append_nil _).symm

/-- The password is what follows the white space behind it. -/
theorem SetwifiWords.pwd_eq :
    pwd = ((trimTrailing args).dropWhile fun c => !isSpace c).dropWhile isSpace := by
  obtain ⟨c, gap', hgap⟩ := List.exists_cons_of_ne_nil h.gap_ne
  obtain ⟨d, pwd', hpwd⟩ := List.exists_cons_of_ne_nil h.pwd_ne
  have hc : isSpace c = true := h.gap_space c (by rw [hgap]; exact List.mem_cons_self)
  have hd : isSpace d = false := h.pwd_word d (by rw [hpwd]; exact List.mem_cons_self)
  have hfirst : (trimTrailing args).dropWhile (fun c => !isSpace c) = gap ++ pwd := by
    rw [h.text, List.dropWhile_append_of_pos (fun d hd => by simpa using h.ssid_word d hd), hgap,
      List.cons_append, List.dropWhile_cons, hc]
    rfl
  rw [hfirst, List.dropWhile_append_of_pos h.gap_space, hpwd, List.dropWhile_cons, hd]
  rfl

/-- The first conversion reads the SSID. -/
theorem SetwifiWords.scan_ssid :
    scanWord 32 args = some (ssid, gap ++ (pwd ++ args.drop (trimTrailing args).length)) := by
  refine scanWord_eq_some_iff.mpr ⟨[], h.args_eq, List.forall_mem_nil _, h.ssid_ne, h.ssid_le,
    h.ssid_word, fun _ c hc => ?_⟩
  obtain ⟨d, gap', hgap⟩ := List.exists_cons_of_ne_nil h.gap_ne
  rw [hgap] at hc
  cases hc
  exact h.gap_space _ (by rw [hgap]; exact List.mem_cons_self)

/-- The second one finds a word. -/
theorem SetwifiWords.not_refused : setwifiPair args ≠ none := by
  intro hnone
  obtain ⟨c, pwd', hpwd⟩ := List.exists_cons_of_ne_nil h.pwd_ne
  cases hsecond : scanWord 64 (gap ++ (pwd ++ args.drop (trimTrailing args).length)) with
  | none =>
    have hspace := (scanWord_eq_none_iff (by decide)).mp hsecond c (by simp [hpwd])
    rw [h.pwd_word c (by simp [hpwd])] at hspace
    exact absurd hspace (by decide)
  | some q =>
    have hsome := setwifiPair_eq_some_iff.mpr ⟨_, q.2, h.scan_ssid, hsecond⟩
    exact absurd (hnone.symm.trans hsome) (Option.some_ne_none _).symm

/-- It reads the password exactly if nothing sticks to it. -/
theorem SetwifiWords.read_iff : setwifiPair args = some (ssid, pwd) ↔ TailApart args pwd := by
  have hscan : setwifiPair args = some (ssid, pwd) ↔ ∃ tail,
      scanWord 64 (gap ++ (pwd ++ args.drop (trimTrailing args).length)) = some (pwd, tail) := by
    rw [setwifiPair_eq_some_iff]
    constructor
    · rintro ⟨rest, tail, hfirst, hsecond⟩
      cases hfirst.symm.trans h.scan_ssid
      exact ⟨tail, hsecond⟩
    · rintro ⟨tail, hsecond⟩
      exact ⟨_, tail, h.scan_ssid, hsecond⟩
  have hskip : ∀ (gap' tail : Bytes), (∀ c ∈ gap', isSpace c = true) →
      (gap' ++ (pwd ++ tail)).dropWhile isSpace = pwd ++ tail := by
    intro gap' tail hgap
    obtain ⟨d, pwd', hpwd⟩ := List.exists_cons_of_ne_nil h.pwd_ne
    have hd : isSpace d = false := h.pwd_word d (by rw [hpwd]; exact List.mem_cons_self)
    rw [List.dropWhile_append_of_pos hgap, hpwd, List.cons_append, List.dropWhile_cons, hd]
    rfl
  rw [hscan]
  constructor
  · rintro ⟨tail, hsecond⟩
    obtain ⟨gap', heq, hgap, -, -, -, htail⟩ := scanWord_eq_some_iff.mp hsecond
    -- both splits begin with all the white space there is
    have hsame : pwd ++ args.drop (trimTrailing args).length = pwd ++ tail := by
      rw [← hskip gap _ h.gap_space, heq, hskip gap' tail hgap]
    rw [TailApart, List.append_cancel_left hsame]
    rcases Nat.lt_or_ge pwd.length 64 with hlt | hge
    · exact .inr (htail hlt)
    · exact .inl (Nat.le_antisymm h.pwd_le hge)
  · intro hapart
    refine ⟨_, scanWord_eq_some_iff.mpr ⟨gap, rfl, h.gap_space, h.pwd_ne, h.pwd_le, h.pwd_word, ?_⟩⟩
    intro hlt
    exact hapart.resolve_left (Nat.ne_of_lt hlt)

end

/-- A format has one reading. -/
theorem IsPair.unique {args ssid pwd ssid' pwd' : Bytes} (h : IsPair args ssid pwd)
    (h' : IsPair args ssid' pwd') : ssid' = ssid ∧ pwd' = pwd := by
  obtain ⟨gap, h⟩ := h
  obtain ⟨gap', h'⟩ := h'
  exact ⟨h'.ssid_eq.trans h.ssid_eq.symm, h'.pwd_eq.trans h.pwd_eq.symm⟩

/-! ## When the format is met -/

/-- **`setwifi` against its format.** For every argument string, `cmd_setwifi` accepts exactly the
format if and only if there is at most one word, of at most 32 bytes, or the arguments are a pair
with nothing that sticks to its password. -/
theorem setwifi_meets_iff (args : Bytes) :
    SetwifiMeets args ↔ OneWord args ∨ ∃ ssid pwd, IsPair args ssid pwd ∧ TailApart args pwd := by
  constructor
  · intro h
    cases hpair : setwifiPair args with
    | none => exact .inl (setwifiPair_eq_none_iff.mp hpair)
    | some p =>
      obtain ⟨gap, hwords⟩ := h.whole p.1 p.2 (setsPair_iff.mpr hpair)
      exact .inr ⟨p.1, p.2, ⟨gap, hwords⟩, hwords.read_iff.mp hpair⟩
  · rintro (hone | ⟨ssid, pwd, hpair, hapart⟩)
    · have hnone := setwifiPair_eq_none_iff.mpr hone
      refine ⟨fun ssid pwd ⟨gap, hwords⟩ => absurd hnone hwords.not_refused,
        fun _ => refusesArgs_iff.mpr hnone, fun ssid pwd hsets => ?_⟩
      exact absurd (hnone.symm.trans (setsPair_iff.mp hsets)) (Option.some_ne_none _).symm
    · obtain ⟨gap, hwords⟩ := hpair
      have hread := hwords.read_iff.mpr hapart
      refine ⟨fun ssid' pwd' hpair' => ?_, fun hno => absurd ⟨gap, hwords⟩ (hno ssid pwd),
        fun ssid' pwd' hsets => ?_⟩
      · obtain ⟨rfl, rfl⟩ := IsPair.unique ⟨gap, hwords⟩ hpair'
        exact setsPair_iff.mpr hread
      · cases (setsPair_iff.mp hsets).symm.trans hread
        exact ⟨gap, hwords⟩

/-- An SSID of 33 bytes: the last byte becomes the password, and the password is dropped. -/
theorem setwifi_split_ssid :
    let args := List.replicate 33 65 ++ lit " password"
    SetsPair args (List.replicate 32 65) [65] ∧ ¬ SetwifiMeets args := by
  intro args
  have hsets : SetsPair args (List.replicate 32 65) [65] := setsPair_iff.mpr (by decide)
  refine ⟨hsets, fun h => ?_⟩
  obtain ⟨gap, hwords⟩ := h.whole _ _ hsets
  exact absurd (congrArg List.length hwords.ssid_eq) (by decide)

example : setwifiPair (lit "ssid pwd more") = some (lit "ssid", lit "pwd") := by decide

end RemoteControl
