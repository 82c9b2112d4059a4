import RemoteControl.Cmd.Dispatch

/-!
# The dispatcher against its grammar (`command.c`)

`cmdDispatchInPlace` is `cmd_dispatch_line` on the buffer it works in: the loops move indices and
lengths, the one that trims the end writes NULs, and the lookup leaves at the first entry that
answers to the name. `Dispatches` says what a line is for, without any of that: blanks, a name,
the rest and blanks (`LineParts`), and what is done with the name. The two agree on every line
(`cmdDispatchInPlace_grammar`), by way of the functions on lists that `cmdDispatchLine` is made of.
-/

namespace RemoteControl

open CString

/-! ## The code -/

/-- What a dispatched line does: replies of the dispatcher itself, and calls of handlers. -/
inductive DispatchEffect where
  | reply (text : Bytes)
  | call (fn : CmdFn) (args : Bytes)
  deriving DecidableEq

/-- `rtrim_n` on the first `len` bytes of the buffer: the buffer it leaves, and the new length. -/
def rtrimAt (buf : Bytes) : Nat → Bytes × Nat
  | 0 => (buf, 0)
  | len + 1 => if isBlank (buf.getD len 0) then rtrimAt (buf.set len 0) len else (buf, len + 1)

/-- `lskip_n` on the `len` bytes from the index `s` on: the new index and the new length. -/
def lskipAt (buf : Bytes) (s : Nat) : Nat → Nat × Nat
  | 0 => (s, 0)
  | len + 1 => if isBlank (buf.getD s 0) then lskipAt buf (s + 1) len else (s, len + 1)

/-- The loop that counts the bytes of the name. -/
def cmdLenAt (buf : Bytes) (line : Nat) : Nat → Nat
  | 0 => 0
  | len + 1 => if isBlank (buf.getD line 0) then 0 else cmdLenAt buf (line + 1) len + 1

/-- The C string at an index. -/
def cstrAt (buf : Bytes) (p : Nat) : Bytes := untilNul (buf.drop p)

/-- The loop over the table. -/
def lookupAt (buf : Bytes) (line cmdLen : Nat) (args : Bytes) (authed : Bool) :
    List CmdEntry → List DispatchEffect
  | [] => [.reply (lit "WHAT\n")]
  | e :: entries =>
    if e.name.length == cmdLen && strnCaseEq (cstrAt buf line) e.name cmdLen then
      if e.needsAuth && !authed then [.reply (lit "DENIED\n")] else [.call e.fn args]
    else lookupAt buf line cmdLen args authed entries

/-- `cmd_dispatch_line(line, len, ctx)`, with the memory from `line` on. -/
def cmdDispatchInPlace (buf : Bytes) (len : Nat) (authed : Bool) : List DispatchEffect :=
  let (buf, len) := rtrimAt buf len
  let (line, len) := lskipAt buf 0 len
  if len = 0 then []
  else
    let cmdLen := cmdLenAt buf line len
    let args : Option Nat :=
      if cmdLen < len then some (lskipAt buf (line + cmdLen) (len - cmdLen)).1 else none
    lookupAt buf line cmdLen ((args.map (cstrAt buf)).getD []) authed cmds

/-! ## The grammar -/

/-- The parts of a line that is not blank: blanks, the name, the rest up to the last byte that is
not blank, and blanks. -/
structure LineParts (line lead name rest trail : Bytes) : Prop where
  text : line = lead ++ (name ++ (rest ++ trail))
  lead_blank : ∀ c ∈ lead, isBlank c = true
  trail_blank : ∀ c ∈ trail, isBlank c = true
  name_ne : name ≠ []
  name_word : ∀ c ∈ name, isBlank c = false
  /-- The name is the longest prefix without a blank. -/
  rest_head : ∀ c ∈ rest.head?, isBlank c = true
  rest_last : ∀ c ∈ rest.getLast?, isBlank c = false

/-- The name of the entry, in any letter case. -/
def CmdEntry.Spelled (e : CmdEntry) (name : Bytes) : Prop := name.map toLower = e.name.map toLower

/-- The arguments in the rest of a line. -/
def restArgs (rest : Bytes) : Bytes := untilNul (rest.dropWhile isBlank)

/-- What a line is for. -/
inductive Dispatches (line : Bytes) (authed : Bool) : List DispatchEffect → Prop
  | blank : (∀ c ∈ line, isBlank c = true) → Dispatches line authed []
  | unknown {lead name rest trail : Bytes} : LineParts line lead name rest trail →
      (∀ e ∈ cmds, ¬ e.Spelled name) → Dispatches line authed [.reply (lit "WHAT\n")]
  | denied {lead name rest trail : Bytes} {e : CmdEntry} : LineParts line lead name rest trail →
      e ∈ cmds → e.Spelled name → e.needsAuth = true → authed = false →
      Dispatches line authed [.reply (lit "DENIED\n")]
  | called {lead name rest trail : Bytes} {e : CmdEntry} : LineParts line lead name rest trail →
      e ∈ cmds → e.Spelled name → (e.needsAuth = true → authed = true) →
      Dispatches line authed [.call e.fn (restArgs rest)]

/-! ## The loops -/

/-- The byte behind a prefix. -/
theorem getD_length_append (pre : Bytes) (c : UInt8) (s : Bytes) :
    (pre ++ c :: s).getD pre.length 0 = c := by
  rw [List.getD_eq_getElem?_getD, List.getElem?_append_right (Nat.le_refl _), Nat.sub_self]
  rfl

/-- Trimming leaves the trimmed line in front, and a NUL behind it. -/
theorem rtrimAt_eq (line beyond : Bytes) :
    ∃ beyond', rtrimAt (line ++ 0 :: beyond) line.length =
      (rtrimN line ++ 0 :: beyond', (rtrimN line).length) := by
  induction line using List.reverseRecOn generalizing beyond with
  | nil => exact ⟨beyond, rfl⟩
  | append_singleton init c ih =>
    have hlast : (init ++ [c] ++ 0 :: beyond).getD init.length 0 = c := by
      rw [List.append_assoc]
      exact getD_length_append init c _
    have htrim : rtrimN (init ++ [c]) = if isBlank c then rtrimN init else init ++ [c] :=
      List.rdropWhile_concat ..
    rw [List.length_append, List.length_singleton, rtrimAt, hlast, htrim]
    by_cases hc : isBlank c = true
    · rw [if_pos hc, if_pos hc, List.append_assoc, List.set_append_right (h := Nat.le_refl _),
        Nat.sub_self]
      exact ih (0 :: beyond)
    · rw [if_neg hc, if_neg hc]
      exact ⟨beyond, by rw [List.length_append, List.length_singleton]⟩

/-- Skipping stops at the first byte that is not blank. -/
theorem lskipAt_eq (pre s tail : Bytes) :
    ∃ blanks, s = blanks ++ lskipN s ∧
      lskipAt (pre ++ (s ++ tail)) pre.length s.length =
        ((pre ++ blanks).length, (lskipN s).length) := by
  induction s generalizing pre with
  | nil => exact ⟨[], rfl, by rw [List.append_nil]; rfl⟩
  | cons c s ih =>
    rw [List.length_cons, lskipAt, List.cons_append, getD_length_append, lskipN,
      List.dropWhile_cons]
    by_cases hc : isBlank c = true
    · rw [if_pos hc, if_pos hc]
      obtain ⟨blanks, hs, hskip⟩ := ih (pre ++ [c])
      refine ⟨c :: blanks, congrArg (c :: ·) hs, ?_⟩
      rw [List.append_assoc, List.singleton_append, List.length_append,
        List.length_singleton] at hskip
      rw [hskip, List.append_assoc, List.singleton_append]
      rfl
    · rw [if_neg hc, if_neg hc]
      exact ⟨[], rfl, by rw [List.append_nil]; rfl⟩

/-- The count is that of the first word. -/
theorem cmdLenAt_eq (pre s tail : Bytes) :
    cmdLenAt (pre ++ (s ++ tail)) pre.length s.length =
      (s.takeWhile fun c => !isBlank c).length := by
  induction s generalizing pre with
  | nil => rfl
  | cons c s ih =>
    rw [List.length_cons, cmdLenAt, List.cons_append, getD_length_append, List.takeWhile_cons]
    cases hc : isBlank c
    · have hnext := ih (pre ++ [c])
      rw [List.append_assoc, List.singleton_append, List.length_append,
        List.length_singleton] at hnext
      rw [if_neg (by decide), hnext]
      rfl
    · rfl

/-- The test of the lookup at an index where a name stands. -/
theorem lookup_test {name : Bytes} (hname : ∀ c ∈ name, isBlank c = false) (tail : Bytes)
    (e : CmdEntry) :
    (e.name.length == name.length && strnCaseEq (untilNul (name ++ tail)) e.name name.length) =
      e.named name := by
  have hnul : ∀ c ∈ name, c ≠ 0 := by
    intro c hc h0
    rw [h0] at hc
    exact absurd (hname 0 hc) (by decide)
  rw [untilNul_append hnul, CmdEntry.named]
  by_cases hlen : e.name.length = name.length
  · -- as many bytes are compared as either name has
    have hleft : ((name ++ untilNul tail).map toLower ++ [0]).take name.length =
        name.map toLower := by
      rw [List.map_append, List.append_assoc]
      exact List.take_left' (List.length_map _)
    have hright : (e.name.map toLower ++ [0]).take name.length = e.name.map toLower :=
      List.take_left' (by rw [List.length_map, hlen])
    rw [strnCaseEq, strnEq, hleft, hright]
  · rw [beq_false_of_ne hlen, Bool.false_and, Bool.false_and]

/-- The loop over the table is a search. -/
theorem lookupAt_eq (pre tail args : Bytes) {name : Bytes}
    (hname : ∀ c ∈ name, isBlank c = false) (authed : Bool) (entries : List CmdEntry) :
    lookupAt (pre ++ (name ++ tail)) pre.length name.length args authed entries =
      match entries.find? (·.named name) with
      | none => [.reply (lit "WHAT\n")]
      | some e =>
        if e.needsAuth && !authed then [.reply (lit "DENIED\n")] else [.call e.fn args] := by
  induction entries with
  | nil => rfl
  | cons e entries ih =>
    have htest := lookup_test hname tail e
    rw [lookupAt, cstrAt, List.drop_left, htest, List.find?_cons]
    cases e.named name
    · exact ih
    · rfl

/-! ## The code is the function on lists -/

/-- The effects of what a line is dispatched to. -/
def Dispatched.effects : Dispatched → List DispatchEffect
  | .ignored => []
  | .replied text => [.reply text]
  | .called e args => [.call e.fn args]

/-- A C string ends at the NUL behind the line. -/
theorem untilNul_line (s beyond : Bytes) : untilNul (s ++ 0 :: beyond) = untilNul s := by
  rw [untilNul, List.takeWhile_append]
  split
  · next h =>
    have hself : s.takeWhile (· ≠ 0) = s := (List.takeWhile_prefix _).eq_of_length h
    rw [untilNul, hself, List.takeWhile_cons, if_neg (by decide), List.append_nil]
  · rfl

/-- The arguments that the handler gets are those behind the name. -/
theorem args_eq (pre name rest beyond : Bytes) :
    ((if name.length < (name ++ rest).length then
        some (lskipAt (pre ++ (name ++ rest ++ 0 :: beyond)) (pre.length + name.length)
          ((name ++ rest).length - name.length)).1
      else none).map (cstrAt (pre ++ (name ++ rest ++ 0 :: beyond)))).getD [] =
      untilNul (lskipN rest) := by
  have hlen : (name ++ rest).length - name.length = rest.length := by
    rw [List.length_append, Nat.add_sub_cancel_left]
  have hbuf : pre ++ (name ++ rest ++ 0 :: beyond) = pre ++ name ++ (rest ++ 0 :: beyond) := by
    simp only [List.append_assoc]
  by_cases hrest : rest = []
  · rw [if_neg (by rw [hrest, List.append_nil]; exact Nat.lt_irrefl _), hrest]
    rfl
  · have hpos : name.length < (name ++ rest).length := by
      rw [List.length_append]
      exact Nat.lt_add_of_pos_right (List.length_pos_iff.mpr hrest)
    obtain ⟨blanks, hsplit, hskip⟩ := lskipAt_eq (pre ++ name) rest (0 :: beyond)
    rw [List.length_append] at hskip
    have hdrop : (pre ++ name ++ (rest ++ 0 :: beyond)).drop (pre ++ name ++ blanks).length =
        lskipN rest ++ 0 :: beyond := by
      conv_lhs => rw [hsplit]
      rw [List.append_assoc blanks, ← List.append_assoc (pre ++ name)]
      exact List.drop_left
    rw [if_pos hpos, hlen, hbuf, hskip, Option.map_some, Option.getD_some, cstrAt, hdrop,
      untilNul_line]

/-- The loops in the buffer do what `cmdDispatchLine` says. -/
theorem cmdDispatchInPlace_eq (line beyond : Bytes) (authed : Bool) :
    cmdDispatchInPlace (line ++ 0 :: beyond) line.length authed =
      (cmdDispatchLine line authed).effects := by
  obtain ⟨beyond', htrim⟩ := rtrimAt_eq line beyond
  obtain ⟨blanks, hsplit, hskip⟩ := lskipAt_eq [] (rtrimN line) (0 :: beyond')
  rw [List.nil_append, List.length_nil, List.nil_append] at hskip
  simp only [cmdDispatchInPlace, htrim, hskip, cmdDispatchLine]
  generalize hs : lskipN (rtrimN line) = s at hsplit hskip ⊢
  by_cases hnil : s = []
  · rw [if_pos (by rw [hnil]; rfl), if_pos hnil]
    rfl
  rw [if_neg (fun h => hnil (List.length_eq_zero_iff.mp h)), if_neg hnil]
  -- the buffer from the line on, cut behind the name
  have hbuf : rtrimN line ++ 0 :: beyond' = blanks ++ (s ++ 0 :: beyond') := by
    rw [hsplit, List.append_assoc]
  have hlen := cmdLenAt_eq blanks s (0 :: beyond')
  rw [hbuf, hlen]
  generalize hname : (s.takeWhile fun c => !isBlank c) = name
  have hword : ∀ c ∈ name, isBlank c = false := by
    intro c hc
    rw [← hname] at hc
    simpa using List.mem_takeWhile_imp hc
  obtain ⟨rest, rfl⟩ : name <+: s := hname ▸ List.takeWhile_prefix _
  rw [args_eq, List.append_assoc, lookupAt_eq blanks _ _ hword, List.drop_left]
  cases cmds.find? (·.named name) with
  | none => rfl
  | some e =>
    dsimp only
    split <;> rfl

/-! ## The function on lists and the grammar -/

/-- The table has no name twice, whatever the letter case. -/
theorem spelled_unique {name : Bytes} {e e' : CmdEntry} (he : e ∈ cmds) (he' : e' ∈ cmds)
    (h : e.Spelled name) (h' : e'.Spelled name) : e = e' := by
  have hcmds : ∀ e ∈ cmds, ∀ e' ∈ cmds, e.name.map toLower = e'.name.map toLower → e = e' := by
    decide
  exact hcmds e he e' he' (h.symm.trans h')

/-- A line that is not blank has parts. -/
theorem exists_lineParts {line : Bytes} (h : ¬ ∀ c ∈ line, isBlank c = true) :
    ∃ lead name rest trail, LineParts line lead name rest trail := by
  obtain ⟨trail, hline, htrail⟩ := trimTrailing_append_blanks line
  obtain ⟨lead, htrim, hlead, hhead⟩ := lskipN_cases (trimTrailing line)
  have hlast : ∀ c ∈ (trimTrailing line).getLast?, isBlank c = false :=
    getLast_of_trimTrailing (List.rdropWhile_idempotent _ _)
  generalize lskipN (trimTrailing line) = s at htrim hhead
  have hs : s = (s.takeWhile fun c => !isBlank c) ++ s.dropWhile fun c => !isBlank c :=
    List.takeWhile_append_dropWhile.symm
  refine ⟨lead, s.takeWhile fun c => !isBlank c, s.dropWhile fun c => !isBlank c, trail, ?_, hlead,
    htrail, ?_, ?_, ?_, ?_⟩
  · rw [← List.append_assoc (s.takeWhile _), ← hs, ← List.append_assoc, ← htrim]
    exact hline
  · intro hnil
    cases s with
    | nil =>
      refine h (trimTrailing_eq_nil.mp ?_)
      rw [← trimTrailing_of_getLast hlast]
      exact trimTrailing_eq_nil.mpr (by rw [htrim, List.append_nil]; exact hlead)
    | cons c s =>
      rw [List.takeWhile_cons, hhead c rfl] at hnil
      exact absurd hnil (List.cons_ne_nil _ _)
  · intro c hc
    simpa using List.mem_takeWhile_imp hc
  · intro c hc
    simpa using head?_dropWhile_of c hc
  · intro c hc
    refine hlast c ?_
    rw [htrim, hs, List.getLast?_append, List.getLast?_append, Option.mem_def.mp hc]
    rfl

section
variable {line lead name rest trail : Bytes} (h : LineParts line lead name rest trail)
include h

theorem LineParts.head : ∀ c ∈ (name ++ rest).head?, isBlank c = false := by
  obtain ⟨c, name, rfl⟩ := List.exists_cons_of_ne_nil h.name_ne
  intro d hd
  cases hd
  exact h.name_word c List.mem_cons_self

theorem LineParts.last : ∀ c ∈ (lead ++ (name ++ rest)).getLast?, isBlank c = false := by
  intro c hc
  rw [List.getLast?_append, List.getLast?_append] at hc
  cases hrest : rest.getLast? with
  | some d =>
    rw [hrest] at hc
    cases hc
    exact h.rest_last _ hrest
  | none =>
    obtain ⟨d, hd⟩ : ∃ d, name.getLast? = some d := ⟨_, List.getLast?_eq_some_getLast h.name_ne⟩
    rw [hrest, hd] at hc
    cases hc
    exact h.name_word _ (List.mem_of_getLast? hd)

/-- The dispatcher trims the line to the name and the rest. -/
theorem LineParts.trimmed : lskipN (rtrimN line) = name ++ rest := by
  have htrim : rtrimN line = lead ++ (name ++ rest) := by
    rw [h.text, ← List.append_assoc name, ← List.append_assoc lead, rtrimN, trimTrailing_append,
      if_pos (trimTrailing_eq_nil.mpr h.trail_blank)]
    exact trimTrailing_of_getLast h.last
  rw [htrim, lskipN_append h.lead_blank h.head]

/-- The name is the first word. -/
theorem LineParts.firstWord : ((name ++ rest).takeWhile fun c => !isBlank c) = name := by
  have hrest : rest.takeWhile (fun c => !isBlank c) = [] := by
    cases hc : rest with
    | nil => rfl
    | cons c rest' =>
      have hblank := h.rest_head c (by rw [hc]; rfl)
      rw [List.takeWhile_cons, hblank]
      rfl
  rw [List.takeWhile_append_of_pos (fun c hc => by simpa using h.name_word c hc), hrest,
    List.append_nil]

/-- The lookup decides what such a line does. -/
theorem LineParts.effects (authed : Bool) :
    (cmdDispatchLine line authed).effects =
      match cmds.find? (·.named name) with
      | none => [.reply (lit "WHAT\n")]
      | some e =>
        if e.needsAuth && !authed then [.reply (lit "DENIED\n")]
        else [.call e.fn (restArgs rest)] := by
  have hne : name ++ rest ≠ [] := by
    intro hnil
    exact h.name_ne (List.append_eq_nil_iff.mp hnil).1
  simp only [cmdDispatchLine, h.trimmed, if_neg hne, h.firstWord, List.drop_left]
  cases cmds.find? (·.named name) with
  | none => rfl
  | some e =>
    dsimp only
    split <;> rfl

/-- The entry that is spelled is the one that is found. -/
theorem LineParts.effects_of_spelled {e : CmdEntry} (he : e ∈ cmds) (hspelled : e.Spelled name)
    (authed : Bool) :
    (cmdDispatchLine line authed).effects =
      if e.needsAuth && !authed then [.reply (lit "DENIED\n")]
      else [.call e.fn (restArgs rest)] := by
  rw [h.effects]
  cases hfind : cmds.find? (·.named name) with
  | none => exact absurd (named_iff.mpr hspelled) (List.find?_eq_none.mp hfind e he)
  | some found =>
    have hsome : found.named name = true := by
      simpa using List.find?_some hfind
    rw [spelled_unique (List.mem_of_find?_eq_some hfind) he (named_iff.mp hsome) hspelled]

end

/-- What the dispatcher does with a line is what the grammar says. -/
theorem effects_iff (line : Bytes) (authed : Bool) (effects : List DispatchEffect) :
    (cmdDispatchLine line authed).effects = effects ↔ Dispatches line authed effects := by
  constructor
  · rintro rfl
    by_cases hblank : ∀ c ∈ line, isBlank c = true
    · have hnil : lskipN (rtrimN line) = [] := by
        rw [rtrimN, trimTrailing_eq_nil.mpr hblank]
        rfl
      rw [cmdDispatchLine, if_pos hnil]
      exact .blank hblank
    obtain ⟨lead, name, rest, trail, hparts⟩ := exists_lineParts hblank
    by_cases hsome : ∃ e ∈ cmds, e.Spelled name
    · obtain ⟨e, he, hspelled⟩ := hsome
      rw [hparts.effects_of_spelled he hspelled]
      split
      · next hgate =>
        rw [Bool.and_eq_true, Bool.not_eq_true'] at hgate
        exact .denied hparts he hspelled hgate.1 hgate.2
      · next hgate =>
        refine .called hparts he hspelled fun hneeds => ?_
        simpa [hneeds] using hgate
    · have hnone : cmds.find? (·.named name) = none :=
        List.find?_eq_none.mpr fun e he hnamed => hsome ⟨e, he, named_iff.mp hnamed⟩
      rw [hparts.effects, hnone]
      exact .unknown hparts fun e he hspelled => hsome ⟨e, he, hspelled⟩
  · intro h
    cases h with
    | blank hblank =>
      have hnil : lskipN (rtrimN line) = [] := by
        rw [rtrimN, trimTrailing_eq_nil.mpr hblank]
        rfl
      rw [cmdDispatchLine, if_pos hnil]
      rfl
    | @unknown lead name rest trail hparts hno =>
      have hnone : cmds.find? (·.named name) = none :=
        List.find?_eq_none.mpr fun e he hnamed => hno e he (named_iff.mp hnamed)
      rw [hparts.effects, hnone]
    | denied hparts he hspelled hneeds hauth =>
      rw [hparts.effects_of_spelled he hspelled, hneeds, hauth]
      rfl
    | called hparts he hspelled hgate =>
      rw [hparts.effects_of_spelled he hspelled, if_neg]
      intro hboth
      rw [Bool.and_eq_true, Bool.not_eq_true'] at hboth
      rw [hgate hboth.1] at hboth
      exact absurd hboth.2 (by decide)

/-- Blanks on either side of a line change nothing. -/
theorem cmdDispatchLine_padded {pre post : Bytes} (hpre : ∀ c ∈ pre, isBlank c = true)
    (hpost : ∀ c ∈ post, isBlank c = true) (line : Bytes) (authed : Bool) :
    cmdDispatchLine (pre ++ (line ++ post)) authed = cmdDispatchLine line authed := by
  have htrim : rtrimN (line ++ post) = rtrimN line := by
    rw [rtrimN, trimTrailing_append, if_pos (trimTrailing_eq_nil.mpr hpost), rtrimN]
  rw [cmdDispatchLine, lskipN_rtrimN_append hpre, htrim, cmdDispatchLine]

/-- **The dispatcher meets its grammar.** On a line of any length and content with a NUL behind it,
`cmd_dispatch_line` does what the grammar says and nothing else; a name belongs to one entry; and
blanks on either side change nothing. -/
theorem cmdDispatchInPlace_grammar (line beyond : Bytes) (authed : Bool) :
    (∀ effects, cmdDispatchInPlace (line ++ 0 :: beyond) line.length authed = effects ↔
      Dispatches line authed effects) ∧
    (∀ name, ∀ e ∈ cmds, ∀ e' ∈ cmds, e.Spelled name → e'.Spelled name → e = e') ∧
    ∀ pre post beyond' : Bytes, (∀ c ∈ pre, isBlank c = true) → (∀ c ∈ post, isBlank c = true) →
      cmdDispatchInPlace (pre ++ (line ++ post) ++ 0 :: beyond') (pre ++ (line ++ post)).length
          authed =
        cmdDispatchInPlace (line ++ 0 :: beyond) line.length authed := by
  refine ⟨fun effects => ?_, fun name e he e' he' => spelled_unique he he', ?_⟩
  · rw [cmdDispatchInPlace_eq]
    exact effects_iff line authed effects
  · intro pre post beyond' hpre hpost
    rw [cmdDispatchInPlace_eq, cmdDispatchInPlace_eq, cmdDispatchLine_padded hpre hpost]

example : cmdDispatchInPlace (lit "\x00 sETwifi a\x00b\t" ++ [0, 65]) 14 true =
    [.call .setwifi (lit "a")] := by
  decide +kernel

end RemoteControl
