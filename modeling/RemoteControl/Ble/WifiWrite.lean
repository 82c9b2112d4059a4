import RemoteControl.Ble.Cmd
import RemoteControl.Lib.Run

/-!
# A write of credentials over BLE (`gatt_wifi_cred.c`, `ble_cmd.c`, `cmd_wifi.c`)

A write `<ssid>\n<pwd>` to the WIFI characteristic becomes a line `setwifi <ssid> <pwd>`, which goes
through the line buffer of the RX characteristic, behind whatever is in it, and is taken apart again
by `cmd_dispatch_line` and by `sscanf`. Each of these has delimiters of its own. `RxCall` is a call
of `ble_cmd_on_rx` with a record of what it dispatches; in between its iterations the statics may
become anything.
-/

namespace RemoteControl

open CString

/-! ## The write and its effect -/

/-- What `cmd_setwifi` reads. -/
def setwifiPair (args : Bytes) : Option (Bytes × Bytes) := do
  let (ssid, rest) ← scanWord 32 args
  let (pwd, _) ← scanWord 64 rest
  return (ssid, pwd)

/-- It calls `wifi_set_credentials` with this pair. -/
theorem control_cmdSetwifi (a : Answers) (args : Bytes) (c : Control) :
    (cmdSetwifi a args c).2 =
      match setwifiPair args with
      | none => c
      | some (ssid, pwd) => c.step ⟨.setwifi ssid pwd, a⟩ := by
  unfold cmdSetwifi
  change (match setwifiPair args with
    | none => (lit "BADFMT\n", c)
    | some (ssid, pwd) => (lit "WIFI_UPDATED\n", c.step ⟨.setwifi ssid pwd, a⟩)).2 = _
  cases setwifiPair args <;> rfl

/-- What the line buffer can hold before a write. -/
structure UnfinishedLine where
  bytes : Bytes
  noBreak : ∀ c ∈ bytes, c ≠ 10 ∧ c ≠ 13
  short : bytes.length ≤ lineMax

/-- The buffer is always one of these. -/
theorem unfinished_bleCmdByte (x : CmdAnswers) (s : CmdState) {b : BleCmd}
    (h : (∀ c ∈ b.line, c ≠ 10 ∧ c ≠ 13) ∧ b.line.length ≤ lineMax) :
    (∀ c ∈ (bleCmdByte x b s).1.line, c ≠ 10 ∧ c ≠ 13) ∧
      (bleCmdByte x b s).1.line.length ≤ lineMax := by
  cases hrx : b.rx with
  | nil => simpa only [bleCmdByte, hrx] using h
  | cons c rest =>
    simp only [bleCmdByte, hrx]
    split
    · next hc =>
      simp only [linePush, id]
      split
      · exact h
      · next hcr =>
        split
        · next hlt =>
          constructor
          · intro d hd
            rcases List.mem_append.mp hd with hd | hd
            · exact h.1 d hd
            · rw [List.mem_singleton.mp hd]
              exact ⟨hc, hcr⟩
          · rw [List.length_append]
            exact hlt
        · exact h
    · split
      · exact h
      · exact ⟨List.forall_mem_nil _, Nat.zero_le _⟩

/-- A pair to write, with no white space around either part. -/
structure WifiPair where
  ssid : Bytes
  pwd : Bytes
  ssid_ne : ssid ≠ []
  ssid_le : ssid.length ≤ 32
  pwd_le : pwd.length ≤ 64
  noLineEnd : 10 ∉ ssid
  ssid_head : ∀ c ∈ ssid.head?, isSpace c = false
  ssid_last : ∀ c ∈ ssid.getLast?, isSpace c = false
  pwd_head : ∀ c ∈ pwd.head?, isSpace c = false
  pwd_last : ∀ c ∈ pwd.getLast?, isSpace c = false

/-- The write. -/
def WifiPair.write (p : WifiPair) : Bytes := p.ssid ++ 10 :: p.pwd

/-- A call of `ble_cmd_on_rx`, and what it has given to `cmd_dispatch_line`. -/
structure RxCall where
  cli : BleCmd
  calls : List Dispatched

/-- One iteration, with the answers to it and the statics at that time. -/
def RxCall.step (w : RxCall) (i : CmdAnswers × CmdState) : RxCall where
  cli := (bleCmdByte i.1 w.cli i.2).1
  calls := w.calls ++ w.cli.dispatches.toList.map (cmdDispatchLine · w.cli.authed)

/-- The call that a write to WIFI makes, if it makes one. -/
def RxCall.wifi (data : Bytes) (cli : BleCmd) : RxCall where
  cli := match gattOnWifiCredWrite data with
    | none => cli
    | some bytes => bleCmdOnRx bytes cli
  calls := []

/-- One command has been dispatched, and it calls `wifi_set_credentials` with the pair. -/
def StoresExactly (p : WifiPair) (calls : List Dispatched) : Prop :=
  ∃ entry args, calls = [.called entry args] ∧ entry.fn = .setwifi ∧
    setwifiPair args = some (p.ssid, p.pwd)

/-- On an authenticated link this is what the write does. -/
def WifiWriteOk (q : UnfinishedLine) (p : WifiPair) : Prop :=
  ∀ is : List (CmdAnswers × CmdState),
    is.length = (RxCall.wifi p.write ⟨true, q.bytes, []⟩).cli.rx.length →
    StoresExactly p (Run.exec RxCall.step (.wifi p.write ⟨true, q.bytes, []⟩) is).calls

/-! ## When it does -/

/-- The text of the line, with what `rstrip_crlf` leaves of the pair. -/
def WifiPair.cmdline (p : WifiPair) : Bytes :=
  lit "setwifi " ++ (trimTrailing p.ssid ++ lit " " ++ trimTrailing p.pwd)

/-- The buffer holds only blanks, with room for the line; neither part has white space or a NUL in
it; the password is not empty; and no part is trimmed. -/
structure WifiWriteFits (q : UnfinishedLine) (p : WifiPair) : Prop where
  buffer : ∀ c ∈ q.bytes, isBlank c = true
  ssid : ∀ c ∈ p.ssid, isSpace c = false ∧ c ≠ 0
  pwd : ∀ c ∈ p.pwd, isSpace c = false ∧ c ≠ 0
  pwd_ne : p.pwd ≠ []
  ssid_head : ∀ c ∈ p.ssid.head?, isBlank c = false
  ssid_last : ∀ c ∈ p.ssid.getLast?, isBlank c = false
  pwd_last : ∀ c ∈ p.pwd.getLast?, isBlank c = false
  room : q.bytes.length + p.ssid.length + p.pwd.length + 9 ≤ lineMax

/-- The first word of a line. -/
def firstWord (line : Bytes) : Bytes := (lskipN line).takeWhile fun c => !isBlank c

/-- The arguments of a line whose first word is `setwifi`. -/
def setwifiArgs (line : Bytes) : Bytes := untilNul (lskipN ((lskipN (rtrimN line)).drop 7))

/-- A `setwifi` command with the pair, as it is written: blanks, the name, blanks, the SSID, white
space, the password, and what comes behind it. A word as long as the format admits ends without
white space. -/
structure SetwifiText (p : WifiPair) where
  lead : Bytes
  name : Bytes
  gap : Bytes
  sep : Bytes
  tail : Bytes
  lead_blank : ∀ c ∈ lead, isBlank c = true
  name_eq : name.map toLower = lit "setwifi"
  gap_blank : ∀ c ∈ gap, isBlank c = true
  gap_ne : gap ≠ []
  ssid_head : ∀ c ∈ p.ssid.head?, isBlank c = false
  sep_space : ∀ c ∈ sep, isSpace c = true
  sep_ne : p.ssid.length < 32 → sep ≠ []
  tail_head : p.pwd.length < 64 → ∀ c ∈ tail.head?, isSpace c = true ∨ c = 0

/-- The text of the command. -/
def SetwifiText.text {p : WifiPair} (t : SetwifiText p) : Bytes :=
  t.lead ++ (t.name ++ (t.gap ++ (p.ssid ++ (t.sep ++ (p.pwd ++ t.tail)))))

/-- The buffer holds the beginning of a `setwifi` command, past the name, and with the line of the
write behind it, as far as there is room, the text happens to be one with the pair. -/
structure WifiWriteCompletes (q : UnfinishedLine) (p : WifiPair) : Prop where
  ssid : ∀ c ∈ p.ssid, isSpace c = false ∧ c ≠ 0
  pwd : ∀ c ∈ p.pwd, isSpace c = false ∧ c ≠ 0
  pwd_ne : p.pwd ≠ []
  name : (firstWord q.bytes).map toLower = lit "setwifi"
  past : ∃ c ∈ lskipN q.bytes, isBlank c = true
  text : ∃ t : SetwifiText p, rtrimN ((q.bytes ++ p.cmdline).take lineMax) = t.text

/-! ## The line buffer -/

/-- The lines that `ble_cmd_on_rx` completes. -/
def bleLines : Bytes → Bytes → List Bytes
  | _, [] => []
  | line, c :: rx =>
    if c = 10 then (if line = [] then bleLines [] rx else line :: bleLines [] rx)
    else bleLines (linePush id line c) rx

/-- No line takes the flag away. -/
theorem authed_cmdLine (x : CmdAnswers) (xport : CmdXport) (line : Bytes) (s : CmdState) :
    (cmdLine x xport line true s).authed = true := by
  unfold cmdLine
  split
  · rfl
  · rfl
  · next entry args _ =>
    cases entry.fn with
    | auth =>
      simp only [cmdRun, cmdAuth]
      split <;> rfl
    | _ => rfl

/-- **What the call dispatches** does not depend on what happens in between. -/
theorem calls_exec (is : List (CmdAnswers × CmdState)) {w : RxCall} (hauth : w.cli.authed = true)
    (hlen : is.length = w.cli.rx.length) :
    (Run.exec RxCall.step w is).calls =
      w.calls ++ (bleLines w.cli.line w.cli.rx).map (cmdDispatchLine · true) := by
  induction is generalizing w with
  | nil =>
    have hrx : w.cli.rx = [] := List.eq_nil_of_length_eq_zero hlen.symm
    simp [hrx, bleLines]
  | cons i is ih =>
    obtain ⟨⟨authed, line, rx⟩, calls⟩ := w
    cases rx with
    | nil => cases hlen
    | cons c rx =>
      obtain rfl : authed = true := hauth
      rw [Run.exec_cons, ih]
      · by_cases hc : c = 10
        · by_cases hline : line = []
          · simp [RxCall.step, bleCmdByte, BleCmd.dispatches, bleLines, hc, hline]
          · simp [RxCall.step, bleCmdByte, BleCmd.dispatches, bleLines, hc, hline]
        · simp [RxCall.step, bleCmdByte, BleCmd.dispatches, bleLines, hc]
      · simp only [RxCall.step, bleCmdByte]
        split
        · rfl
        · split
          · rfl
          · exact authed_cmdLine _ _ _ _
      · simpa [RxCall.step, rx_bleCmdByte] using hlen

/-- Bytes that are no carriage returns go into the buffer up to its size. -/
theorem lineFill_eq_take {line bytes : Bytes} (h : ∀ c ∈ bytes, c ≠ 13)
    (hline : line.length ≤ lineMax) :
    lineFill id line bytes = (line ++ bytes).take lineMax := by
  induction bytes generalizing line with
  | nil => simp [lineFill, List.take_of_length_le hline]
  | cons c bytes ih =>
    have hpush : lineFill id line (c :: bytes) = lineFill id (linePush id line c) bytes := rfl
    have hbytes : ∀ c ∈ bytes, c ≠ 13 := fun c hc => h c (List.mem_cons_of_mem _ hc)
    rw [hpush, linePush, id, if_neg (h c List.mem_cons_self)]
    split
    · next hlt =>
      have hle : (line ++ [c]).length ≤ lineMax := by
        rw [List.length_append]
        exact hlt
      rw [ih hbytes hle, List.append_assoc, List.singleton_append]
    · next hge =>
      have hfull : line.length = lineMax := by omega
      rw [ih hbytes hline, ← hfull, List.take_left, List.take_left]

/-- One line goes through the buffer. -/
theorem bleLines_line {bytes : Bytes} (h : 10 ∉ bytes) (line : Bytes) :
    bleLines line (bytes ++ [10]) =
      if lineFill id line bytes = [] then [] else [lineFill id line bytes] := by
  induction bytes generalizing line with
  | nil => by_cases hline : line = [] <;> simp [bleLines, lineFill, hline]
  | cons c bytes ih =>
    have hc : c ≠ 10 := fun hc => h (by simp [hc])
    rw [List.cons_append, bleLines, if_neg hc, ih fun hmem => h (List.mem_cons_of_mem _ hmem)]
    rfl

/-! ## The dispatcher -/

theorem isBlank_false_of_mem_takeWhile {s : Bytes} :
    ∀ c ∈ s.takeWhile (fun c => !isBlank c), isBlank c = false := by
  intro c hc
  simpa using List.mem_takeWhile_imp hc

/-- Trimming does not change the first word. -/
@[simp] theorem firstWord_rtrimN (s : Bytes) : firstWord (rtrimN s) = firstWord s := by
  obtain ⟨blanks, hs, hblanks, hhead⟩ := lskipN_cases s
  have hskip : lskipN (rtrimN s) = rtrimN (lskipN s) := by
    conv_lhs => rw [hs]
    rw [lskipN_rtrimN_append hblanks, lskipN_of_head (head_rtrimN hhead)]
  rw [firstWord, hskip, firstWord]
  exact takeWhile_trimTrailing _

theorem length_name {name : Bytes} (h : name.map toLower = lit "setwifi") : name.length = 7 :=
  (List.length_map toLower).symm.trans (congrArg List.length h)

/-- **The lines that call `cmd_setwifi`**, and what they call it with. -/
theorem cmdDispatchLine_setwifi_iff {line args : Bytes} :
    (∃ entry, cmdDispatchLine line true = .called entry args ∧ entry.fn = .setwifi) ↔
      (firstWord line).map toLower = lit "setwifi" ∧ args = setwifiArgs line := by
  rw [← firstWord_rtrimN line]
  have hentry : ∀ e ∈ cmds, e.fn = .setwifi → e.name.map toLower = lit "setwifi" := by decide
  constructor
  · rintro ⟨entry, h, hfn⟩
    unfold cmdDispatchLine at h
    dsimp only at h
    split at h
    · cases h
    · split at h
      · cases h
      · next found hfind =>
        split at h
        · cases h
        · cases h
          have hname := (named_iff.mp (List.find?_some hfind)).trans
            (hentry _ (List.mem_of_find?_eq_some hfind) hfn)
          refine ⟨hname, ?_⟩
          rw [length_name hname]
          rfl
  · rintro ⟨hname, rfl⟩
    have hne : lskipN (rtrimN line) ≠ [] := by
      intro hnil
      simp [firstWord, hnil, lit] at hname
    have hfind : cmds.find? (·.named (firstWord (rtrimN line))) =
        some ⟨lit "setwifi", true, .setwifi⟩ := by
      have hnamed : ∀ e : CmdEntry,
          e.named (firstWord (rtrimN line)) = e.named (lit "setwifi") := by
        intro e
        rw [Bool.eq_iff_iff, named_iff, named_iff, hname]
        rfl
      simp only [hnamed]
      decide
    refine ⟨⟨lit "setwifi", true, .setwifi⟩, ?_, rfl⟩
    unfold cmdDispatchLine
    dsimp only
    rw [if_neg hne]
    unfold firstWord at hfind hname
    rw [hfind, length_name hname]
    rfl

/-- One line stores the pair exactly if it is a `setwifi` line with it. -/
theorem storesExactly_line_iff {p : WifiPair} {line : Bytes} :
    StoresExactly p [cmdDispatchLine line true] ↔
      (firstWord line).map toLower = lit "setwifi" ∧
        setwifiPair (setwifiArgs line) = some (p.ssid, p.pwd) := by
  constructor
  · rintro ⟨entry, args, hcall, hfn, hpair⟩
    obtain ⟨hname, rfl⟩ :=
      cmdDispatchLine_setwifi_iff.mp ⟨entry, List.singleton_inj.mp hcall, hfn⟩
    exact ⟨hname, hpair⟩
  · rintro ⟨hname, hpair⟩
    obtain ⟨entry, hcall, hfn⟩ := cmdDispatchLine_setwifi_iff.mpr ⟨hname, rfl⟩
    exact ⟨entry, _, by rw [hcall], hfn, hpair⟩

/-! ## The pair -/

/-- Without white space and without a NUL. -/
def Clean (s : Bytes) : Prop := ∀ c ∈ s, isSpace c = false ∧ c ≠ 0

theorem Clean.sublist {s t : Bytes} (h : Clean t) (hs : s.Sublist t) : Clean s :=
  fun c hc => h c (hs.subset hc)

theorem Clean.untilNul_append {s : Bytes} (h : Clean s) (t : Bytes) :
    untilNul (s ++ t) = s ++ untilNul t :=
  CString.untilNul_append (fun c hc => (h c hc).2) t

theorem Clean.untilNul_eq {s : Bytes} (h : Clean s) : untilNul s = s := by
  simpa [untilNul] using h.untilNul_append []

theorem Clean.untilNul_words {u v : Bytes} (hu : Clean u) (hv : Clean v) :
    untilNul (u ++ 32 :: v) = u ++ 32 :: v := by
  rw [hu.untilNul_append, untilNul, List.takeWhile_cons, if_pos (by decide)]
  exact congrArg (fun t => u ++ 32 :: t) hv.untilNul_eq

theorem clean_trimTrailing {s : Bytes} (h : Clean s) : Clean (trimTrailing s) :=
  h.sublist (List.rdropWhile_prefix isBlank s).sublist

theorem setwifiPair_eq_some_iff {args u v : Bytes} :
    setwifiPair args = some (u, v) ↔
      ∃ rest tail, scanWord 32 args = some (u, rest) ∧ scanWord 64 rest = some (v, tail) := by
  simp only [setwifiPair, Option.bind_eq_bind, Option.bind_eq_some_iff]
  constructor
  · rintro ⟨⟨u', rest⟩, hfirst, ⟨v', tail⟩, hsecond, heq⟩
    cases heq
    exact ⟨rest, tail, hfirst, hsecond⟩
  · rintro ⟨rest, tail, hfirst, hsecond⟩
    exact ⟨(u, rest), hfirst, (v, tail), hsecond, rfl⟩

/-- Two words with a blank between them are a pair. -/
theorem setwifiPair_words {u v : Bytes} (hu : Clean u) (hune : u ≠ []) (hule : u.length ≤ 32)
    (hv : Clean v) (hvne : v ≠ []) (hvle : v.length ≤ 64) :
    setwifiPair (u ++ 32 :: v) = some (u, v) := by
  have hfirst : scanWord 32 (u ++ 32 :: v) = some (u, 32 :: v) := by
    refine scanWord_word hune hule (fun c hc => (hu c hc).1) ?_
    rintro c ⟨⟩
    rfl
  have hsecond : scanWord 64 (32 :: v) = some (v, []) := by
    rw [scanWord_blank]
    simpa using @scanWord_word 64 v [] hvne hvle (fun c hc => (hv c hc).1) nofun
  simp only [setwifiPair, hfirst, hsecond, Option.bind_eq_bind, Option.bind_some]
  rfl

/-- One word is none. -/
theorem setwifiPair_word {u : Bytes} (hu : Clean u) (hle : u.length ≤ 32) :
    setwifiPair u = none := by
  by_cases hne : u = []
  · rw [hne]
    decide
  · have hfirst : scanWord 32 u = some (u, []) := by
      simpa using @scanWord_word 32 u [] hne hle (fun c hc => (hu c hc).1) nofun
    simp only [setwifiPair, hfirst, scanWord_nil, Option.bind_eq_bind, Option.bind_some,
      Option.bind_none]

/-- The blank between two words is trimmed with the second one, when that one is trimmed away. -/
theorem rtrimN_words (a b : Bytes) :
    rtrimN (a ++ 32 :: b) =
      if trimTrailing b = [] then trimTrailing a else a ++ 32 :: trimTrailing b := by
  have hblank : trimTrailing (32 :: b) =
      if trimTrailing b = [] then [] else 32 :: trimTrailing b := trimTrailing_append [32] b
  rw [rtrimN, trimTrailing_append, hblank]
  by_cases hb : trimTrailing b = []
  · rw [if_pos hb, if_pos rfl, if_pos hb]
  · rw [if_neg hb, if_neg (List.cons_ne_nil _ _), if_neg hb]

/-- One word is no pair behind blanks either. -/
theorem setwifiPair_skipped_word {u : Bytes} (hu : Clean u) (hle : u.length ≤ 32) :
    setwifiPair (untilNul (lskipN u)) = none := by
  have hsub : (lskipN u).Sublist u := List.dropWhile_sublist _
  rw [(hu.sublist hsub).untilNul_eq]
  exact setwifiPair_word (hu.sublist hsub) (hsub.length_le.trans hle)

/-- The leading blanks of two words are no part of the pair. -/
theorem setwifiPair_skipped_words {u v : Bytes} (hu : Clean u) (hune : lskipN u ≠ [])
    (hule : u.length ≤ 32) (hv : Clean v) (hvne : v ≠ []) (hvle : v.length ≤ 64) :
    setwifiPair (untilNul (lskipN (u ++ 32 :: v))) = some (lskipN u, v) := by
  have hsub : (lskipN u).Sublist u := List.dropWhile_sublist _
  have hskip : lskipN (u ++ 32 :: v) = lskipN u ++ 32 :: v := by
    unfold lskipN at hune ⊢
    rw [List.dropWhile_append, if_neg (by simpa using hune)]
  rw [hskip, (hu.sublist hsub).untilNul_words hv]
  exact setwifiPair_words (hu.sublist hsub) hune (hsub.length_le.trans hule) hv hvne hvle

/-- A pair that is read is clean, and neither part is empty. -/
theorem clean_of_setwifiPair {args u v : Bytes} (h : setwifiPair args = some (u, v))
    (hnul : 0 ∉ args) : Clean u ∧ Clean v ∧ v ≠ [] := by
  obtain ⟨rest, tail, hfirst, hsecond⟩ := setwifiPair_eq_some_iff.mp h
  obtain ⟨_, rfl, -, -, -, hu, -⟩ := scanWord_eq_some_iff.mp hfirst
  obtain ⟨_, rfl, -, hne, -, hv, -⟩ := scanWord_eq_some_iff.mp hsecond
  refine ⟨fun c hc => ⟨hu c hc, ?_⟩, fun c hc => ⟨hv c hc, ?_⟩, hne⟩
  all_goals
    rintro rfl
    simp [hc] at hnul

theorem nul_notMem_untilNul (s : Bytes) : 0 ∉ untilNul s := by
  intro h
  simpa using List.mem_takeWhile_imp h

/-- What the arguments of the line are, when `n` bytes of them have had room. -/
def argsOf (a b : Bytes) (n : Nat) : Bytes := untilNul (lskipN (rtrimN ((a ++ 32 :: b).take n)))

/-- Where nothing is trimmed and there is room, the arguments are the two words. -/
theorem argsOf_eq {a b : Bytes} {n : Nat} (ha : Clean a) (hb : Clean b) (hbne : b ≠ [])
    (hhead : ∀ c ∈ a.head?, isBlank c = false) (hane : a ≠ []) (hblast : trimTrailing b = b)
    (hn : a.length + 1 + b.length ≤ n) : argsOf a b n = a ++ 32 :: b := by
  have htake : (a ++ 32 :: b).take n = a ++ 32 :: b := by
    refine List.take_of_length_le ?_
    simp only [List.length_append, List.length_cons]
    omega
  have htrim : rtrimN (a ++ 32 :: b) = a ++ 32 :: b := by
    rw [rtrimN_words, hblast, if_neg hbne]
  have hskip : lskipN (a ++ 32 :: b) = a ++ 32 :: b := by
    refine lskipN_of_head ?_
    obtain ⟨c, a', rfl⟩ := List.exists_cons_of_ne_nil hane
    exact hhead
  rw [argsOf, htake, htrim, hskip, ha.untilNul_words hb]

/-- Where the arguments are read as the pair they were made of, nothing has been trimmed or cut. -/
theorem of_argsOf {p : WifiPair} {n : Nat} (hssid : Clean p.ssid) (hpwd : Clean p.pwd)
    (hne : trimTrailing p.ssid ≠ [])
    (h : setwifiPair (argsOf (trimTrailing p.ssid) (trimTrailing p.pwd) n) =
      some (p.ssid, p.pwd)) :
    trimTrailing p.ssid = p.ssid ∧ (∀ c ∈ p.ssid.head?, isBlank c = false) ∧
      trimTrailing p.pwd = p.pwd ∧ p.ssid.length + 1 + p.pwd.length ≤ n := by
  have hpre : trimTrailing p.ssid <+: p.ssid := List.rdropWhile_prefix isBlank _
  have hpre' : trimTrailing p.pwd <+: p.pwd := List.rdropWhile_prefix isBlank _
  have htrim : trimTrailing (trimTrailing p.ssid) = trimTrailing p.ssid :=
    List.rdropWhile_idempotent isBlank _
  have hle := p.ssid_le
  have hle' := p.pwd_le
  generalize ha : trimTrailing p.ssid = a at *
  generalize hb : trimTrailing p.pwd = b at *
  have haclean : Clean a := hssid.sublist hpre.sublist
  have halen := hpre.length_le
  have hblen := hpre'.length_le
  rcases Nat.lt_or_ge a.length n with hn | hn
  · obtain ⟨m, rfl⟩ : ∃ m, n = a.length + (m + 1) := ⟨n - a.length - 1, by omega⟩
    have htake : (a ++ 32 :: b).take (a.length + (m + 1)) = a ++ 32 :: b.take m := by
      rw [List.take_length_add_append, List.take_succ_cons]
    rw [argsOf, htake, rtrimN_words] at h
    by_cases hP : trimTrailing (b.take m) = []
    · rw [if_pos hP, htrim, setwifiPair_skipped_word haclean (halen.trans hle)] at h
      cases h
    · rw [if_neg hP] at h
      have hPpre : trimTrailing (b.take m) <+: b.take m := List.rdropWhile_prefix isBlank _
      have hPclean : Clean (trimTrailing (b.take m)) :=
        hpwd.sublist ((hPpre.sublist.trans (List.take_sublist m b)).trans hpre'.sublist)
      have hPlen := hPpre.length_le
      have hmlen : (b.take m).length = min m b.length := List.length_take
      have hvne : lskipN a ≠ [] := by
        intro hnil
        have hblank : ∀ c ∈ a, isBlank c = true := List.dropWhile_eq_nil_iff.mp hnil
        exact hne (htrim ▸ trimTrailing_eq_nil.mpr hblank)
      rw [setwifiPair_skipped_words haclean hvne (halen.trans hle) hPclean hP (by omega)] at h
      obtain ⟨hv, hw⟩ : lskipN a = p.ssid ∧ trimTrailing (b.take m) = p.pwd := by simpa using h
      -- the words are as long as the pair only if nothing is missing
      have hvlen : (lskipN a).length ≤ a.length := (List.dropWhile_sublist _).length_le
      have hvlen' := congrArg List.length hv
      have hwlen := congrArg List.length hw
      have hassid : a = p.ssid := hpre.eq_of_length (by omega)
      have hbpwd : b = p.pwd := hpre'.eq_of_length (by omega)
      refine ⟨hassid, ?_, hbpwd, by omega⟩
      obtain ⟨-, -, -, hhead⟩ := lskipN_cases a
      rwa [hv] at hhead
  · -- what comes before the cut is one word
    have hcut : (a ++ 32 :: b).take n = a.take n := List.take_append_of_le_length hn
    have hsub : (rtrimN (a.take n)).Sublist a :=
      (List.rdropWhile_prefix isBlank _).sublist.trans (List.take_sublist n a)
    rw [argsOf, hcut, setwifiPair_skipped_word (haclean.sublist hsub)
      ((hsub.length_le.trans halen).trans hle)] at h
    cases h

/-! ## The text of a command -/

/-- A blank is no letter of the name. -/
theorem isBlank_name {name : Bytes} (h : name.map toLower = lit "setwifi") :
    ∀ c ∈ name, isBlank c = false := by
  rw [← word_map_toLower, h]
  decide +kernel

section
variable {p : WifiPair}

/-- Behind the leading blanks the text begins with the name. -/
theorem SetwifiText.lskipN_text (t : SetwifiText p) :
    lskipN t.text = t.name ++ (t.gap ++ (p.ssid ++ (t.sep ++ (p.pwd ++ t.tail)))) := by
  refine lskipN_append t.lead_blank fun c hc => isBlank_name t.name_eq c ?_
  have hne : t.name ≠ [] := List.ne_nil_of_length_eq_add_one (length_name t.name_eq)
  rw [List.head?_append_of_ne_nil _ hne] at hc
  exact List.mem_of_mem_head? hc

/-- The first word of the text is the name. -/
theorem SetwifiText.firstWord_text (t : SetwifiText p) : firstWord t.text = t.name := by
  have hname := isBlank_name t.name_eq
  obtain ⟨b, gap, hgap⟩ := List.exists_cons_of_ne_nil t.gap_ne
  have hb : isBlank b = true := t.gap_blank b (by simp [hgap])
  rw [firstWord, t.lskipN_text, List.takeWhile_append_of_pos (by simpa using hname), hgap,
    List.cons_append, List.takeWhile_cons, if_neg (by simp [hb]), List.append_nil]

/-- `cmd_setwifi` reads the pair from it. -/
theorem SetwifiText.pair_text (t : SetwifiText p) (hssid : Clean p.ssid) (hpwd : Clean p.pwd)
    (hne : p.pwd ≠ []) :
    setwifiPair (untilNul (lskipN ((lskipN t.text).drop 7))) = some (p.ssid, p.pwd) := by
  have hargs : lskipN ((lskipN t.text).drop 7) =
      p.ssid ++ (t.sep ++ (p.pwd ++ t.tail)) := by
    rw [t.lskipN_text, ← length_name t.name_eq, List.drop_left]
    refine lskipN_append t.gap_blank fun c hc => t.ssid_head c ?_
    rwa [List.head?_append_of_ne_nil _ p.ssid_ne] at hc
  have hsep : ∀ c ∈ t.sep, c ≠ 0 := by
    rintro c hc rfl
    exact absurd (t.sep_space 0 hc) (by decide)
  have hnul : untilNul (p.ssid ++ (t.sep ++ (p.pwd ++ t.tail))) =
      p.ssid ++ (t.sep ++ (p.pwd ++ untilNul t.tail)) := by
    rw [hssid.untilNul_append, CString.untilNul_append hsep, hpwd.untilNul_append]
  rw [hargs, hnul]
  refine setwifiPair_eq_some_iff.mpr ⟨t.sep ++ (p.pwd ++ untilNul t.tail), untilNul t.tail, ?_, ?_⟩
  · refine scanWord_eq_some_iff.mpr ⟨[], rfl, List.forall_mem_nil _, p.ssid_ne, p.ssid_le,
      fun c hc => (hssid c hc).1, fun hlt c hc => t.sep_space c ?_⟩
    rw [List.head?_append_of_ne_nil _ (t.sep_ne hlt)] at hc
    exact List.mem_of_mem_head? hc
  · refine scanWord_eq_some_iff.mpr ⟨t.sep, rfl, t.sep_space, hne, p.pwd_le,
      fun c hc => (hpwd c hc).1, fun hlt c hc => ?_⟩
    -- what is left begins as the tail does, or is cut off by a NUL
    have hc0 : c ≠ 0 := fun h0 => nul_notMem_untilNul t.tail (h0 ▸ List.mem_of_mem_head? hc)
    have htail : c ∈ t.tail.head? := by
      cases htl : t.tail with
      | nil => simp [htl, untilNul] at hc
      | cons b tail =>
        by_cases hb : b = 0
        · simp [htl, hb, untilNul] at hc
        · simpa [htl, hb, untilNul] using hc
    exact (t.tail_head hlt c htail).resolve_right hc0

/-- Arguments from which `cmd_setwifi` reads the pair. -/
theorem args_of_pair {args : Bytes} (hhead : ∀ c ∈ args.head?, isBlank c = false)
    (hpair : setwifiPair (untilNul args) = some (p.ssid, p.pwd)) :
    ∃ sep tail, args = p.ssid ++ (sep ++ (p.pwd ++ tail)) ∧ (∀ c ∈ sep, isSpace c = true) ∧
      (p.ssid.length < 32 → sep ≠ []) ∧
      (p.pwd.length < 64 → ∀ c ∈ tail.head?, isSpace c = true ∨ c = 0) := by
  obtain ⟨-, hpwd, hne⟩ := clean_of_setwifiPair hpair (nul_notMem_untilNul _)
  obtain ⟨rest, tail, hfirst, hsecond⟩ := setwifiPair_eq_some_iff.mp hpair
  obtain ⟨skipped, heq, hskipped, -, -, -, hrest⟩ := scanWord_eq_some_iff.mp hfirst
  obtain ⟨sep, rfl, hsep, -, -, -, htail⟩ := scanWord_eq_some_iff.mp hsecond
  obtain ⟨cut, hcut⟩ : ∃ cut, args.dropWhile (· ≠ 0) = cut := ⟨_, rfl⟩
  have hargs : args = untilNul args ++ cut := by
    rw [← hcut]
    exact List.takeWhile_append_dropWhile.symm
  have hnil : skipped = [] := by
    cases skipped with
    | nil => rfl
    | cons c skipped =>
      have hspace := isBlank_of_isSpace (hskipped c List.mem_cons_self)
      rw [hhead c (by rw [hargs, heq]; rfl)] at hspace
      cases hspace
  rw [hnil, List.nil_append] at heq
  refine ⟨sep, tail ++ cut, ?_, hsep, ?_, ?_⟩
  · rw [heq] at hargs
    simpa only [List.append_assoc] using hargs
  · rintro hlt rfl
    obtain ⟨c, pwd, hcons⟩ := List.exists_cons_of_ne_nil hne
    have hspace := hrest hlt c (by rw [hcons]; rfl)
    rw [(hpwd c (by simp [hcons])).1] at hspace
    cases hspace
  · -- the arguments go on with white space, or with the NUL that has cut them off
    intro hlt c hc
    cases tail with
    | nil =>
      rw [List.nil_append, ← hcut] at hc
      exact .inr (by simpa using head?_dropWhile_of c hc)
    | cons d tail => exact .inl (htail hlt c hc)

/-- A text from which `cmd_setwifi` reads the pair is one of these. -/
theorem setwifiText_of_pair {s : Bytes} (hname : (firstWord s).map toLower = lit "setwifi")
    (hpair : setwifiPair (untilNul (lskipN ((lskipN s).drop 7))) = some (p.ssid, p.pwd)) :
    ∃ t : SetwifiText p, s = t.text := by
  obtain ⟨b, ssid, hcons⟩ := List.exists_cons_of_ne_nil p.ssid_ne
  obtain ⟨lead, hlead, hleadb, -⟩ := lskipN_cases s
  obtain ⟨r, hr⟩ : ∃ r, (lskipN s).dropWhile (fun c => !isBlank c) = r := ⟨_, rfl⟩
  have hword : lskipN s = firstWord s ++ r := by
    rw [← hr]
    exact List.takeWhile_append_dropWhile.symm
  rw [hword, ← length_name hname, List.drop_left] at hpair
  obtain ⟨gap, hgap, hgapb, hhead⟩ := lskipN_cases r
  obtain ⟨sep, tail, hargs, hsep, hsepne, htail⟩ := args_of_pair hhead hpair
  have hssid : ∀ c ∈ p.ssid.head?, isBlank c = false := by
    rw [hargs, List.head?_append_of_ne_nil _ p.ssid_ne] at hhead
    exact hhead
  have hgapne : gap ≠ [] := by
    -- the name has ended at a blank
    rintro rfl
    rw [List.nil_append] at hgap
    have hend : (!isBlank b) = false :=
      head?_dropWhile_of b (by rw [hr, hgap, hargs, hcons]; rfl)
    rw [hssid b (by rw [hcons]; rfl)] at hend
    cases hend
  refine ⟨⟨lead, firstWord s, gap, sep, tail, hleadb, hname, hgapb, hgapne, hssid, hsep, hsepne,
    htail⟩, ?_⟩
  rw [SetwifiText.text, ← hargs, ← hgap, ← hword, ← hlead]

/-- The lines that store the pair, by their text. -/
theorem setwifiText_iff {line : Bytes} :
    ((firstWord line).map toLower = lit "setwifi" ∧
      setwifiPair (setwifiArgs line) = some (p.ssid, p.pwd)) ↔
    Clean p.ssid ∧ Clean p.pwd ∧ p.pwd ≠ [] ∧ ∃ t : SetwifiText p, rtrimN line = t.text := by
  rw [← firstWord_rtrimN, setwifiArgs]
  constructor
  · rintro ⟨hname, hpair⟩
    obtain ⟨hssid, hpwd, hne⟩ := clean_of_setwifiPair hpair (nul_notMem_untilNul _)
    exact ⟨hssid, hpwd, hne, setwifiText_of_pair hname hpair⟩
  · rintro ⟨hssid, hpwd, hne, t, ht⟩
    rw [ht, t.firstWord_text]
    exact ⟨t.name_eq, t.pair_text hssid hpwd hne⟩

end

/-! ## The line of a write -/

/-- What the write does, without the statics in between. -/
theorem wifiWriteOk_iff {q : UnfinishedLine} {p : WifiPair} :
    WifiWriteOk q p ↔
      StoresExactly p (((gattOnWifiCredWrite p.write).elim [] (bleLines q.bytes)).map
        (cmdDispatchLine · true)) := by
  have hcalls : ∀ is : List (CmdAnswers × CmdState),
      is.length = (RxCall.wifi p.write ⟨true, q.bytes, []⟩).cli.rx.length →
      (Run.exec RxCall.step (.wifi p.write ⟨true, q.bytes, []⟩) is).calls =
        ((gattOnWifiCredWrite p.write).elim [] (bleLines q.bytes)).map
          (cmdDispatchLine · true) := by
    intro is hlen
    rw [calls_exec is ?_ hlen]
    · unfold RxCall.wifi
      cases gattOnWifiCredWrite p.write <;> rfl
    · unfold RxCall.wifi
      cases gattOnWifiCredWrite p.write <;> rfl
  constructor
  · intro h
    let i : CmdAnswers × CmdState :=
      ⟨⟨.ok, .factory⟩, .boot none, .boot (staCfgOf [] []) none none none⟩
    have hlen := List.length_replicate (α := CmdAnswers × CmdState)
      (n := (RxCall.wifi p.write ⟨true, q.bytes, []⟩).cli.rx.length) (a := i)
    rw [← hcalls _ hlen]
    exact h _ hlen
  · intro h is hlen
    rw [hcalls is hlen]
    exact h

/-- A write that does what it should has a clean pair. -/
theorem WifiWriteOk.clean {q : UnfinishedLine} {p : WifiPair} (h : WifiWriteOk q p) :
    Clean p.ssid ∧ Clean p.pwd ∧ p.pwd ≠ [] := by
  obtain ⟨entry, args, hcalls, hfn, hpair⟩ := wifiWriteOk_iff.mp h
  have hmem : Dispatched.called entry args ∈
      ((gattOnWifiCredWrite p.write).elim [] (bleLines q.bytes)).map (cmdDispatchLine · true) := by
    rw [hcalls]
    exact List.mem_singleton.mpr rfl
  obtain ⟨line, -, hline⟩ := List.mem_map.mp hmem
  obtain ⟨-, rfl⟩ := cmdDispatchLine_setwifi_iff.mp ⟨entry, hline, hfn⟩
  exact clean_of_setwifiPair hpair (nul_notMem_untilNul _)

/-- The line that is made of a clean pair. -/
theorem gattOnWifiCredWrite_clean {p : WifiPair} (hssid : Clean p.ssid) (hpwd : Clean p.pwd) :
    gattOnWifiCredWrite p.write =
      if trimTrailing p.ssid = [] then none else some (p.cmdline ++ [10]) := by
  have hle := p.ssid_le
  have hle' := p.pwd_le
  have halen := (List.rdropWhile_prefix isBlank p.ssid).length_le
  have hblen := (List.rdropWhile_prefix isBlank p.pwd).length_le
  have hwrite : untilNul (p.write.take 199) = p.write := by
    have htake : p.write.take 199 = p.write := by
      refine List.take_of_length_le ?_
      simp only [WifiPair.write, List.length_append, List.length_cons]
      omega
    rw [htake, WifiPair.write, hssid.untilNul_append, untilNul, List.takeWhile_cons,
      if_pos (by decide)]
    exact congrArg (fun t => p.ssid ++ 10 :: t) hpwd.untilNul_eq
  have hsplit : lineSplit id p.write = some (p.ssid, p.pwd) := by
    refine Separator.split_append (fun c hc => ?_) (by decide)
    exact decide_eq_false fun heq => p.noLineEnd (heq ▸ hc)
  have htakeA : (trimTrailing p.ssid).take 32 = trimTrailing p.ssid :=
    List.take_of_length_le (halen.trans hle)
  have htakeB : (trimTrailing p.pwd).take 64 = trimTrailing p.pwd :=
    List.take_of_length_le (hblen.trans hle')
  unfold gattOnWifiCredWrite wifiCreds
  simp only [hwrite, hsplit, htakeA, htakeB]
  split
  · rfl
  · have hlen : (lit "setwifi " ++ trimTrailing p.ssid ++ lit " " ++ trimTrailing p.pwd).length <
        119 := by
      have h₁ : (lit "setwifi ").length = 8 := rfl
      have h₂ : (lit " ").length = 1 := rfl
      change (trimTrailing p.ssid).length ≤ _ at halen
      change (trimTrailing p.pwd).length ≤ _ at hblen
      simp only [List.length_append]
      omega
    rw [Option.map_some, List.take_of_length_le hlen.le, if_pos hlen]
    simp [WifiPair.cmdline]

/-- The one line that a write with a clean pair completes. -/
theorem wifiWriteOk_clean_iff {q : UnfinishedLine} {p : WifiPair} (hssid : Clean p.ssid)
    (hpwd : Clean p.pwd) :
    WifiWriteOk q p ↔ trimTrailing p.ssid ≠ [] ∧
      (firstWord ((q.bytes ++ p.cmdline).take lineMax)).map toLower = lit "setwifi" ∧
      setwifiPair (setwifiArgs ((q.bytes ++ p.cmdline).take lineMax)) = some (p.ssid, p.pwd) := by
  have hbreak : ∀ c ∈ p.cmdline, c ≠ 10 ∧ c ≠ 13 := by
    have hclean : ∀ s : Bytes, Clean s → ∀ c ∈ s, c ≠ 10 ∧ c ≠ 13 := by
      refine fun s hs c hc => ⟨?_, ?_⟩
      all_goals
        rintro rfl
        exact absurd (hs _ hc).1 (by decide)
    intro c hc
    simp only [WifiPair.cmdline, List.mem_append] at hc
    have hname : ∀ c ∈ lit "setwifi ", c ≠ 10 ∧ c ≠ 13 := by decide +kernel
    have hblank : ∀ c ∈ lit " ", c ≠ 10 ∧ c ≠ 13 := by decide +kernel
    rcases hc with hc | (hc | hc) | hc
    · exact hname c hc
    · exact hclean _ (clean_trimTrailing hssid) c hc
    · exact hblank c hc
    · exact hclean _ (clean_trimTrailing hpwd) c hc
  rw [wifiWriteOk_iff, gattOnWifiCredWrite_clean hssid hpwd]
  by_cases hne : trimTrailing p.ssid = []
  · rw [if_pos hne]
    refine ⟨?_, fun h => absurd hne h.1⟩
    rintro ⟨entry, args, hcalls, -⟩
    cases hcalls
  · have hfill := lineFill_eq_take (fun c hc => (hbreak c hc).2) q.short
    have hline : (q.bytes ++ p.cmdline).take lineMax ≠ [] := by
      intro hnil
      have hzero := congrArg List.length hnil
      simp [WifiPair.cmdline, lineMax, lit] at hzero
    rw [if_neg hne, Option.elim_some, bleLines_line fun hmem => (hbreak 10 hmem).1 rfl, hfill,
      if_neg hline, List.map_singleton, storesExactly_line_iff]
    exact (and_iff_right hne).symm

/-! ### Behind blanks -/

section
variable {q : UnfinishedLine} {p : WifiPair}

theorem take_line (q : UnfinishedLine) (t : Bytes) :
    (q.bytes ++ t).take lineMax = q.bytes ++ t.take (lineMax - q.bytes.length) := by
  rw [List.take_append, List.take_of_length_le q.short]

theorem setwifiArgs_append (hq : ∀ c ∈ q.bytes, isBlank c = true) (t : Bytes) :
    setwifiArgs (q.bytes ++ t) = setwifiArgs t := by
  rw [setwifiArgs, lskipN_rtrimN_append hq, setwifiArgs]

theorem firstWord_append (hq : ∀ c ∈ q.bytes, isBlank c = true) (t : Bytes) :
    firstWord (q.bytes ++ t) = firstWord t := by
  rw [firstWord, lskipN, List.dropWhile_append_of_pos hq, firstWord, lskipN]

/-- The arguments behind the name. -/
theorem setwifiArgs_name (t : Bytes) :
    setwifiArgs (lit "setwifi " ++ t) = untilNul (lskipN (rtrimN t)) := by
  rw [setwifiArgs, rtrimN, trimTrailing_append]
  split
  · next hnil =>
    rw [rtrimN, hnil]
    decide
  · rfl

/-- With room for the name, the line is a `setwifi` line. -/
theorem line_behind_blanks (hq : ∀ c ∈ q.bytes, isBlank c = true)
    (hroom : q.bytes.length + 8 ≤ lineMax) :
    firstWord ((q.bytes ++ p.cmdline).take lineMax) = lit "setwifi" ∧
      setwifiArgs ((q.bytes ++ p.cmdline).take lineMax) =
        argsOf (trimTrailing p.ssid) (trimTrailing p.pwd) (lineMax - q.bytes.length - 8) := by
  have htake : p.cmdline.take (lineMax - q.bytes.length) = lit "setwifi " ++
      (trimTrailing p.ssid ++ 32 :: trimTrailing p.pwd).take (lineMax - q.bytes.length - 8) := by
    have height : (lit "setwifi ").length = 8 := rfl
    rw [WifiPair.cmdline, List.take_append, height, List.take_of_length_le (by omega),
      List.append_assoc]
    rfl
  rw [take_line, firstWord_append hq, setwifiArgs_append hq, htake, setwifiArgs_name]
  exact ⟨rfl, rfl⟩

/-- Without it, nothing is stored. -/
theorem line_without_room (hq : ∀ c ∈ q.bytes, isBlank c = true)
    (hroom : lineMax < q.bytes.length + 8) :
    setwifiPair (setwifiArgs ((q.bytes ++ p.cmdline).take lineMax)) = none := by
  have hcut : ∀ n < 8, setwifiPair (setwifiArgs ((lit "setwifi ").take n)) = none := by decide
  have htake : p.cmdline.take (lineMax - q.bytes.length) =
      (lit "setwifi ").take (lineMax - q.bytes.length) := by
    have height : (lit "setwifi ").length = 8 := rfl
    exact List.take_append_of_le_length (by omega)
  rw [take_line, setwifiArgs_append hq, htake]
  exact hcut _ (by omega)

/-! ### Behind other bytes -/

/-- The first word of a buffer that is not blank begins the first word of the line. -/
theorem firstWord_of_not_blank (hq : lskipN q.bytes ≠ []) (t : Bytes) :
    firstWord (q.bytes ++ t) = (lskipN q.bytes ++ t).takeWhile fun c => !isBlank c := by
  unfold lskipN at hq
  rw [firstWord, lskipN, List.dropWhile_append, if_neg (by simpa using hq), lskipN]

/-- A buffer that is past its first word keeps it. -/
theorem firstWord_of_past (hpast : ∃ c ∈ lskipN q.bytes, isBlank c = true) (t : Bytes) :
    firstWord (q.bytes ++ t) = firstWord q.bytes := by
  obtain ⟨b, hb, hblank⟩ := hpast
  rw [firstWord_of_not_blank (List.ne_nil_of_mem hb), List.takeWhile_append, firstWord]
  split
  · next hlen =>
    have hall := (List.takeWhile_prefix _).eq_of_length hlen
    rw [← hall] at hb
    rw [isBlank_false_of_mem_takeWhile b hb] at hblank
    cases hblank
  · rfl

/-- A buffer that is in its first word does not become a `setwifi` command with a pair. -/
theorem not_pair_of_inside (hq : lskipN q.bytes ≠ [])
    (hin : ∀ c ∈ lskipN q.bytes, isBlank c = false)
    (hname : (firstWord ((q.bytes ++ p.cmdline).take lineMax)).map toLower = lit "setwifi") :
    setwifiPair (setwifiArgs ((q.bytes ++ p.cmdline).take lineMax)) = none := by
  have hword : ∀ t, firstWord (q.bytes ++ t) =
      lskipN q.bytes ++ t.takeWhile fun c => !isBlank c := by
    intro t
    rw [firstWord_of_not_blank hq]
    exact List.takeWhile_append_of_pos fun c hc => by simp [hin c hc]
  rw [take_line] at hname ⊢
  cases hroom : lineMax - q.bytes.length with
  | zero =>
    -- the line is the buffer, a word of seven letters
    rw [hroom, List.take_zero, hword, List.takeWhile_nil, List.append_nil] at hname
    obtain ⟨blanks, heq, hblanks, hhead⟩ := lskipN_cases q.bytes
    have hlast : rtrimN (lskipN q.bytes) = lskipN q.bytes :=
      trimTrailing_of_getLast fun c hc => hin c (List.mem_of_getLast? hc)
    have hseven : (lskipN q.bytes).length = 7 := length_name hname
    have hargs : setwifiArgs q.bytes = [] := by
      rw [setwifiArgs]
      conv_lhs => rw [heq]
      rw [lskipN_rtrimN_append hblanks, hlast, lskipN_of_head hhead,
        List.drop_of_length_le hseven.le]
      rfl
    rw [List.take_zero, List.append_nil, hargs]
    decide
  | succ n =>
    -- the name goes on with the first letter of `setwifi`, which is not inside it again
    obtain ⟨c, word, hcons⟩ := List.exists_cons_of_ne_nil hq
    have hs : (p.cmdline.take (n + 1)).takeWhile (fun c => !isBlank c) =
        115 :: ((p.cmdline.drop 1).take n).takeWhile fun c => !isBlank c := rfl
    rw [hroom, hword, hs, hcons, List.cons_append, List.map_cons, List.map_append,
      List.map_cons] at hname
    have hmem : 115 ∈ lit "etwifi" := by
      rw [show lit "etwifi" = (lit "setwifi").tail from rfl, ← hname]
      exact List.mem_append_right _ List.mem_cons_self
    exact absurd hmem (by decide)

/-! ## The result -/

/-- The write stores its pair if it fits. -/
theorem WifiWriteFits.ok (h : WifiWriteFits q p) : WifiWriteOk q p := by
  have hssid : trimTrailing p.ssid = p.ssid := trimTrailing_of_getLast h.ssid_last
  have hpwd : trimTrailing p.pwd = p.pwd := trimTrailing_of_getLast h.pwd_last
  have hroom := h.room
  obtain ⟨hname, hargs⟩ := @line_behind_blanks q p h.buffer (by omega)
  rw [wifiWriteOk_clean_iff h.ssid h.pwd, hssid, hname, hargs, hssid, hpwd]
  refine ⟨p.ssid_ne, by decide, ?_⟩
  rw [argsOf_eq h.ssid h.pwd h.pwd_ne h.ssid_head p.ssid_ne hpwd (by omega)]
  exact setwifiPair_words h.ssid p.ssid_ne p.ssid_le h.pwd h.pwd_ne p.pwd_le

/-- It does so too if it happens to complete a command with the pair. -/
theorem WifiWriteCompletes.ok (h : WifiWriteCompletes q p) : WifiWriteOk q p := by
  obtain ⟨t, ht⟩ := h.text
  refine (wifiWriteOk_clean_iff h.ssid h.pwd).mpr
    ⟨?_, setwifiText_iff.mpr ⟨h.ssid, h.pwd, h.pwd_ne, t, ht⟩⟩
  intro hnil
  obtain ⟨c, ssid, hcons⟩ := List.exists_cons_of_ne_nil p.ssid_ne
  have hblank := trimTrailing_eq_nil.mp hnil c (by simp [hcons])
  rw [t.ssid_head c (by simp [hcons])] at hblank
  cases hblank

/-- In no other case does it. -/
theorem WifiWriteOk.cases (h : WifiWriteOk q p) : WifiWriteFits q p ∨ WifiWriteCompletes q p := by
  obtain ⟨hssid, hpwd, hpwdne⟩ := h.clean
  obtain ⟨hne, hname, hpair⟩ := (wifiWriteOk_clean_iff hssid hpwd).mp h
  by_cases hq : lskipN q.bytes = []
  · left
    have hblank : ∀ c ∈ q.bytes, isBlank c = true := List.dropWhile_eq_nil_iff.mp hq
    rcases Nat.lt_or_ge lineMax (q.bytes.length + 8) with hroom | hroom
    · rw [line_without_room hblank hroom] at hpair
      cases hpair
    · rw [(line_behind_blanks hblank hroom).2] at hpair
      obtain ⟨htrim, hhead, htrim', hlen⟩ := of_argsOf hssid hpwd hne hpair
      exact
        { buffer := hblank
          ssid := hssid
          pwd := hpwd
          pwd_ne := hpwdne
          ssid_head := hhead
          ssid_last := getLast_of_trimTrailing htrim
          pwd_last := getLast_of_trimTrailing htrim'
          room := by omega }
  · right
    by_cases hpast : ∃ c ∈ lskipN q.bytes, isBlank c = true
    · obtain ⟨-, -, -, htext⟩ := setwifiText_iff.mp ⟨hname, hpair⟩
      refine ⟨hssid, hpwd, hpwdne, ?_, hpast, htext⟩
      rwa [take_line, firstWord_of_past hpast] at hname
    · have hin : ∀ c ∈ lskipN q.bytes, isBlank c = false := by
        intro c hc
        by_contra hblank
        exact hpast ⟨c, hc, by simpa using hblank⟩
      rw [not_pair_of_inside hq hin hname] at hpair
      cases hpair

end

/-- A write to WIFI on an authenticated link dispatches one command and stores exactly its pair in
these cases and in no other: the line of the write fits behind a blank buffer, or it completes a
command in the buffer to one with this pair. -/
theorem wifi_write_iff (q : UnfinishedLine) (p : WifiPair) :
    WifiWriteOk q p ↔ WifiWriteFits q p ∨ WifiWriteCompletes q p :=
  ⟨fun h => h.cases, fun h => h.elim WifiWriteFits.ok WifiWriteCompletes.ok⟩

/-- The second case is a coincidence: `setwifi` is sent as name and password. -/
example :
    WifiWriteCompletes ⟨lit "setwifi ", by decide +kernel, by decide⟩
      ⟨lit "setwifi", lit "setwifi", by decide, by decide, by decide, by decide, by decide +kernel,
        by decide +kernel, by decide +kernel, by decide +kernel⟩ where
  ssid := by decide +kernel
  pwd := by decide +kernel
  pwd_ne := by decide
  name := by decide
  past := by decide +kernel
  text := ⟨⟨[], lit "setwifi", lit " ", lit " ", lit " setwifi", List.forall_mem_nil _, rfl,
    by decide +kernel, by decide, by decide +kernel, by decide +kernel, fun _ => by decide,
    fun _ => by decide +kernel⟩, by decide⟩

/-- The empty buffer. -/
def emptyLine : UnfinishedLine := ⟨[], nofun, Nat.zero_le _⟩

/-- A network with a space in its name. -/
def spacedPair : WifiPair where
  ssid := lit "my net"
  pwd := lit "password"
  ssid_ne := List.cons_ne_nil _ _
  ssid_le := Nat.le_of_ble_eq_true rfl
  pwd_le := Nat.le_of_ble_eq_true rfl
  noLineEnd := mt List.contains_iff_mem.mpr (ne_true_of_eq_false (by decide))
  ssid_head := by rintro c ⟨⟩; rfl
  ssid_last := by rintro c ⟨⟩; rfl
  pwd_head := by rintro c ⟨⟩; rfl
  pwd_last := by rintro c ⟨⟩; rfl

/-- An open network. -/
def openPair : WifiPair where
  ssid := lit "net"
  pwd := []
  ssid_ne := List.cons_ne_nil _ _
  ssid_le := Nat.le_of_ble_eq_true rfl
  pwd_le := Nat.zero_le _
  noLineEnd := mt List.contains_iff_mem.mpr (ne_true_of_eq_false (by decide))
  ssid_head := by rintro c ⟨⟩; rfl
  ssid_last := by rintro c ⟨⟩; rfl
  pwd_head := nofun
  pwd_last := nofun

/-- The name with a space is stored as a name and a password; the open network is not stored. -/
theorem wifi_write_not_ok :
    (∃ entry args, bleLines [] (lit "setwifi my net password\n") = [lit "setwifi my net password"] ∧
      gattOnWifiCredWrite spacedPair.write = some (lit "setwifi my net password\n") ∧
      cmdDispatchLine (lit "setwifi my net password") true = .called entry args ∧
      setwifiPair args = some (lit "my", lit "net")) ∧
    (∃ entry args, gattOnWifiCredWrite openPair.write = some (lit "setwifi net \n") ∧
      cmdDispatchLine (lit "setwifi net ") true = .called entry args ∧ setwifiPair args = none) ∧
    ¬ WifiWriteOk emptyLine spacedPair ∧ ¬ WifiWriteOk emptyLine openPair := by
  refine ⟨⟨⟨lit "setwifi", true, .setwifi⟩, lit "my net password", by decide⟩,
    ⟨⟨lit "setwifi", true, .setwifi⟩, lit "net", by decide⟩, fun h => ?_, fun h => ?_⟩
  · obtain ⟨hssid, -, -⟩ := h.clean
    cases (hssid 32 (by decide)).1
  · exact h.clean.2.2 rfl

end RemoteControl
