import RemoteControl.Cmd.Grammar
import RemoteControl.Lib.Separator

/-!
# What the TCP log shows of a secret (`tcp_client.c`)

The client logs every line before it dispatches it, and masks the lines that begin with `AUTH ` or
`SETWIFI `. The dispatcher accepts more: blanks in front, any byte up to 32 behind the name, and a
third command with a secret. A `SecretHead` is a line of such a command up to its arguments, in any
spelling that the dispatcher accepts (`SecretHead.effects`, `exists_secretHead`). The log is the
same for all arguments if the head is one that is masked, or has a NUL; else it shows them
(`logLine_conceals_iff`).
-/

namespace RemoteControl

open CString

/-! ## The log -/

/-- `log_sanitized_line`: the text it logs for a C string. -/
def logSanitizedLine : Option Bytes → Bytes
  | none => lit "(null)"
  | some line =>
    if strnCaseEq line (lit "AUTH ") 5 then lit "Received: 'AUTH ****'"
    else if strnCaseEq line (lit "SETWIFI ") 8 then lit "Received: 'SETWIFI **** ****'"
    else lit "Received: '" ++ (line ++ lit "'")

/-- What the client logs of the bytes of a line. -/
def loggedLine (line : Bytes) : Bytes := logSanitizedLine (some (untilNul line))

/-! ## Secrets -/

/-- The handlers whose arguments are a secret. -/
def secretFns : List CmdFn := [.auth, .settoken, .setwifi]

/-- A line for one of them up to its arguments: blanks, the name in any letter case, and blanks. -/
structure SecretHead where
  entry : CmdEntry
  entry_mem : entry ∈ cmds
  secret : entry.fn ∈ secretFns
  lead : Bytes
  lead_blank : ∀ c ∈ lead, isBlank c = true
  name : Bytes
  spelled : entry.Spelled name
  sep : Bytes
  sep_ne : sep ≠ []
  sep_blank : ∀ c ∈ sep, isBlank c = true

/-- What spells a name of the table is a word. -/
theorem spelled_word {e : CmdEntry} (he : e ∈ cmds) {name : Bytes} (h : e.Spelled name) :
    name ≠ [] ∧ ∀ c ∈ name, isBlank c = false := by
  have hcmds : ∀ e ∈ cmds, e.name.map toLower ≠ [] ∧ ∀ c ∈ e.name.map toLower,
      isBlank c = false := by decide +kernel
  obtain ⟨hne, hword⟩ := hcmds e he
  rw [← h] at hne hword
  exact ⟨fun hnil => hne (by rw [hnil]; rfl), word_map_toLower.mp hword⟩

namespace SecretHead

/-- Its bytes. -/
def bytes (h : SecretHead) : Bytes := h.lead ++ (h.name ++ h.sep)

/-- It begins as the log expects: with the name, which is not that of `settoken`, and a space. -/
def Masked (h : SecretHead) : Prop :=
  h.lead = [] ∧ h.entry.fn ≠ .settoken ∧ h.sep.head? = some 32

variable (h : SecretHead)

instance : Decidable h.Masked := inferInstanceAs (Decidable (_ ∧ _ ∧ _))

theorem name_ne : h.name ≠ [] := (spelled_word h.entry_mem h.spelled).1

theorem name_word : ∀ c ∈ h.name, isBlank c = false := (spelled_word h.entry_mem h.spelled).2

/-! ## What the dispatcher accepts -/

/-- A line with this head has its parts, whatever the arguments. -/
theorem lineParts (args : Bytes) :
    ∃ rest trail, LineParts (h.bytes ++ args) h.lead h.name rest trail ∧
      restArgs rest = untilNul (lskipN (rtrimN args)) := by
  obtain ⟨trail, hargs, htrail⟩ := trimTrailing_append_blanks args
  by_cases hnil : trimTrailing args = []
  · have hall : ∀ c ∈ h.sep ++ args, isBlank c = true := by
      intro c hc
      rcases List.mem_append.mp hc with hc | hc
      · exact h.sep_blank c hc
      · exact trimTrailing_eq_nil.mp hnil c hc
    refine ⟨[], h.sep ++ args,
      ⟨?_, h.lead_blank, hall, h.name_ne, h.name_word, ?_, ?_⟩, ?_⟩
    · simp only [bytes, List.append_assoc, List.nil_append]
    · exact fun c hc => absurd hc (Option.not_mem_none c)
    · exact fun c hc => absurd hc (Option.not_mem_none c)
    · rw [rtrimN, hnil]
      rfl
  · refine ⟨h.sep ++ trimTrailing args, trail,
      ⟨?_, h.lead_blank, htrail, h.name_ne, h.name_word, ?_, ?_⟩, ?_⟩
    · conv_lhs => rw [hargs]
      simp only [bytes, List.append_assoc]
    · obtain ⟨c, sep, hsep⟩ := List.exists_cons_of_ne_nil h.sep_ne
      intro d hd
      rw [hsep] at hd
      cases hd
      exact h.sep_blank c (hsep ▸ List.mem_cons_self)
    · intro c hc
      rw [List.getLast?_append_of_ne_nil _ hnil] at hc
      exact getLast_of_trimTrailing (List.rdropWhile_idempotent _ _) c hc
    · rw [restArgs, rtrimN, lskipN, List.dropWhile_append_of_pos h.sep_blank]

/-- **The head of a line decides what it is for**: the dispatcher calls the handler of its entry
with the arguments, or denies the line. -/
theorem effects (args : Bytes) (authed : Bool) :
    (cmdDispatchLine (h.bytes ++ args) authed).effects =
      if h.entry.needsAuth && !authed then [.reply (lit "DENIED\n")]
      else [.call h.entry.fn (untilNul (lskipN (rtrimN args)))] := by
  obtain ⟨rest, trail, hparts, hrest⟩ := h.lineParts args
  rw [hparts.effects_of_spelled h.entry_mem h.spelled, hrest]

end SecretHead

/-- Every line for one of these commands with something behind the name has such a head. -/
theorem exists_secretHead {line lead name rest trail : Bytes} {e : CmdEntry}
    (hparts : LineParts line lead name rest trail) (he : e ∈ cmds) (hspelled : e.Spelled name)
    (hsecret : e.fn ∈ secretFns) (hrest : rest ++ trail ≠ []) :
    ∃ (h : SecretHead) (args : Bytes), line = h.bytes ++ args ∧ h.entry = e := by
  have hsep : (rest ++ trail).takeWhile isBlank ≠ [] := by
    obtain ⟨c, s, hs⟩ := List.exists_cons_of_ne_nil hrest
    have hc : isBlank c = true := by
      cases hcase : rest with
      | nil =>
        rw [hcase, List.nil_append] at hs
        exact hparts.trail_blank c (hs ▸ List.mem_cons_self)
      | cons d rest' =>
        rw [hcase, List.cons_append, List.cons.injEq] at hs
        exact hparts.rest_head c (by rw [hcase, hs.1]; rfl)
    rw [hs, List.takeWhile_cons, if_pos hc]
    exact List.cons_ne_nil c _
  refine ⟨⟨e, he, hsecret, lead, hparts.lead_blank, name, hspelled,
    (rest ++ trail).takeWhile isBlank, hsep, fun c hc => List.mem_takeWhile_imp hc⟩,
    (rest ++ trail).dropWhile isBlank, ?_, rfl⟩
  rw [SecretHead.bytes, List.append_assoc, List.append_assoc, List.takeWhile_append_dropWhile]
  exact hparts.text

/-! ## What is masked -/

namespace SecretHead

variable (h : SecretHead)

/-- What begins with a word has no blanks in front. -/
theorem lead_nil_of_prefix {word args : Bytes} (hclean : ∀ c ∈ word, isBlank c = false)
    (hne : word ≠ []) (hpre : (word ++ [32]).map toLower <+: (h.bytes ++ args).map toLower) :
    h.lead = [] := by
  obtain ⟨x, word, rfl⟩ := List.exists_cons_of_ne_nil hne
  rcases hlead : h.lead with _ | ⟨b, lead⟩
  · rfl
  · rw [bytes, hlead, List.cons_append, List.cons_append, List.cons_append, List.map_cons,
      List.map_cons, List.cons_prefix_cons] at hpre
    have hx := hclean x List.mem_cons_self
    have hb := h.lead_blank b (hlead ▸ List.mem_cons_self)
    rw [← isBlank_toLower, hpre.1, isBlank_toLower, hb] at hx
    cases hx

/-- The entries of the commands that the log knows. -/
def authEntry : CmdEntry := ⟨lit "auth", false, .auth⟩

def setwifiEntry : CmdEntry := ⟨lit "setwifi", true, .setwifi⟩

/-- A line begins with the name of a command, as the log writes it, and a space exactly if it is for
this command, with nothing in front and a space behind. -/
theorem masks_iff {e : CmdEntry} (he : e ∈ cmds) {word : Bytes} (hword : e.Spelled word)
    (args : Bytes) :
    strnCaseEq (h.bytes ++ args) (word ++ [32]) (word ++ [32]).length = true ↔
      h.lead = [] ∧ h.entry = e ∧ h.sep.head? = some 32 := by
  obtain ⟨hne, hclean⟩ := spelled_word he hword
  have hnul : ∀ c ∈ word ++ [32], c ≠ 0 := by
    intro c hc h0
    rcases List.mem_append.mp hc with hc | hc
    · exact absurd (h0 ▸ hclean c hc) (by decide)
    · exact absurd (h0 ▸ List.mem_singleton.mp hc) (by decide)
  rw [strnCaseEq_length_iff hnul]
  constructor
  · intro hpre
    obtain ⟨c, sep, hsep⟩ := List.exists_cons_of_ne_nil h.sep_ne
    have hc : isBlank c = true := h.sep_blank c (hsep ▸ List.mem_cons_self)
    have hlead : h.lead = [] := h.lead_nil_of_prefix hclean hne hpre
    have hcut : word.map toLower ++ 32 :: [] <+:
        h.name.map toLower ++ toLower c :: (sep ++ args).map toLower := by
      have hspace : toLower 32 = 32 := toLower_of_isBlank (by decide)
      simpa [bytes, hlead, hsep, hspace] using hpre
    obtain ⟨hname, -⟩ := Separator.eq_of_cons_prefix (word_map_toLower.mpr hclean) (by decide)
      (word_map_toLower.mpr h.name_word) (by rwa [isBlank_toLower]) hcut
    rw [hname, List.prefix_append_right_inj, List.cons_prefix_cons] at hcut
    have hspace : c = 32 := toLower_eq_blank (by decide) hcut.1.symm
    refine ⟨hlead, spelled_unique h.entry_mem he h.spelled (hname.symm.trans hword), ?_⟩
    rw [hsep, hspace]
    rfl
  · rintro ⟨hlead, rfl, hsep⟩
    obtain ⟨sep, hsep⟩ := List.head?_eq_some_iff.mp hsep
    rw [bytes, hlead, hsep, List.nil_append, List.map_append, List.map_append, List.map_append,
      hword.trans h.spelled.symm]
    simp

/-- The log of a line whose head has no NUL. -/
theorem loggedLine_bytes (hnul : 0 ∉ h.bytes) (args : Bytes) :
    loggedLine (h.bytes ++ args) =
      if h.Masked then
        if h.entry.fn = .auth then lit "Received: 'AUTH ****'"
        else lit "Received: 'SETWIFI **** ****'"
      else lit "Received: '" ++ (h.bytes ++ untilNul args ++ lit "'") := by
  have hstr : untilNul (h.bytes ++ args) = h.bytes ++ untilNul args :=
    untilNul_append (fun c hc h0 => hnul (h0 ▸ hc)) args
  have hauth : strnCaseEq (h.bytes ++ untilNul args) (lit "AUTH ") 5 = true ↔
      h.lead = [] ∧ h.entry = authEntry ∧ h.sep.head? = some 32 := h.masks_iff (by decide)
    (show authEntry.Spelled (lit "AUTH") by unfold CmdEntry.Spelled; decide) (untilNul args)
  have hsetwifi : strnCaseEq (h.bytes ++ untilNul args) (lit "SETWIFI ") 8 = true ↔
      h.lead = [] ∧ h.entry = setwifiEntry ∧ h.sep.head? = some 32 := h.masks_iff (by decide)
    (show setwifiEntry.Spelled (lit "SETWIFI") by unfold CmdEntry.Spelled; decide) (untilNul args)
  have hentry : ∀ e ∈ cmds, e.fn ∈ secretFns → e.fn = .settoken ∨ e = authEntry ∨
      e = setwifiEntry := by decide
  have hother : authEntry ≠ setwifiEntry := by decide
  rw [loggedLine, hstr, logSanitizedLine]
  by_cases hmasked : h.Masked
  · rw [if_pos hmasked]
    rcases hentry h.entry h.entry_mem h.secret with hset | he | he
    · exact absurd hset hmasked.2.1
    · rw [if_pos (hauth.mpr ⟨hmasked.1, he, hmasked.2.2⟩), he]
      rfl
    · rw [if_neg fun habs => hother ((hauth.mp habs).2.1.symm.trans he),
        if_pos (hsetwifi.mpr ⟨hmasked.1, he, hmasked.2.2⟩), he]
      rfl
  · have hunmasked : ∀ e : CmdEntry, e.fn ≠ .settoken →
        ¬ (h.lead = [] ∧ h.entry = e ∧ h.sep.head? = some 32) := by
      rintro e hfn ⟨hlead, rfl, hsep⟩
      exact hmasked ⟨hlead, hfn, hsep⟩
    rw [if_neg hmasked, if_neg fun habs => hunmasked authEntry (by decide) (hauth.mp habs),
      if_neg fun habs => hunmasked setwifiEntry (by decide) (hsetwifi.mp habs)]

end SecretHead

/-! ## Secrets in the log -/

/-- **The log conceals the arguments** exactly of the heads that are masked, or in which a NUL ends
what is logged; of any other head it shows them, up to a NUL. -/
theorem logLine_conceals_iff (h : SecretHead) (args₁ args₂ : Bytes) :
    loggedLine (h.bytes ++ args₁) = loggedLine (h.bytes ++ args₂) ↔
      h.Masked ∨ 0 ∈ h.bytes ∨ untilNul args₁ = untilNul args₂ := by
  by_cases hnul : 0 ∈ h.bytes
  · obtain ⟨before, behind, hbytes⟩ := List.append_of_mem hnul
    have hstr : ∀ args, untilNul (h.bytes ++ args) = untilNul before := by
      intro args
      rw [hbytes, List.append_assoc, List.cons_append, untilNul_line]
    rw [loggedLine, loggedLine, hstr, hstr]
    exact ⟨fun _ => .inr (.inl hnul), fun _ => rfl⟩
  · rw [h.loggedLine_bytes hnul, h.loggedLine_bytes hnul]
    by_cases hmasked : h.Masked
    · rw [if_pos hmasked, if_pos hmasked]
      exact ⟨fun _ => .inl hmasked, fun _ => rfl⟩
    · rw [if_neg hmasked, if_neg hmasked, List.append_cancel_left_eq, List.append_cancel_right_eq,
        List.append_cancel_left_eq]
      constructor
      · exact fun heq => .inr (.inr heq)
      · rintro (habs | habs | heq)
        · exact absurd habs hmasked
        · exact absurd habs hnul
        · exact heq

/-- Two lines that set a token, and what is logged of them. -/
theorem settoken_logged :
    cmdDispatchLine (lit "settoken a") true =
        .called ⟨lit "settoken", true, .settoken⟩ (lit "a") ∧
      cmdDispatchLine (lit "settoken b") true =
        .called ⟨lit "settoken", true, .settoken⟩ (lit "b") ∧
      loggedLine (lit "settoken a") ≠ loggedLine (lit "settoken b") := by
  decide +kernel

end RemoteControl
