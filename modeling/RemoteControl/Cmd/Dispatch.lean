import RemoteControl.Lib.CString
import RemoteControl.Lib.Separator

/-!
# The command table and the dispatcher (`cmd_table.c`, `command.c`)

`cmdDispatchLine` is `cmd_dispatch_line` up to the call of a handler: what it does with a line is
a value, and the handlers are in `RemoteControl.Cmd.Handlers`. A line is the bytes that the length
argument covers; the arguments a handler gets are a C string.
-/

namespace RemoteControl

open CString

/-! ## The line buffer of the transports

The TCP client and the BLE link collect a line in the same way: 127 bytes at most, the carriage
returns left out. The bytes are of any type `β` with a value, as in `RemoteControl.Ota.Perform`. -/

/-- The length `sizeof(line) - 1` of both line buffers. -/
def lineMax : Nat := 127

section
variable {β : Type} (val : β → UInt8)

/-- One byte, not a line end, goes into the line buffer. -/
def linePush (line : List β) (b : β) : List β :=
  if val b = 13 then line else if line.length < lineMax then line ++ [b] else line

/-- A chunk goes into the line buffer. -/
def lineFill (line chunk : List β) : List β := chunk.foldl (linePush val) line

/-- `memchr(bs, '\n', ..)`: the bytes before the first line end and those after it. -/
def lineSplit (bs : List β) : Option (List β × List β) := Separator.split (val · = 10) bs

variable {val}

/-- The line buffer holds bytes that were put into it. -/
theorem mem_lineFill {line chunk : List β} {b : β} (h : b ∈ lineFill val line chunk) :
    b ∈ line ∨ b ∈ chunk := by
  induction chunk generalizing line with
  | nil => exact .inl h
  | cons c chunk ih =>
    have hpush : ∀ x ∈ linePush val line c, x ∈ line ∨ x = c := by
      intro x hx
      unfold linePush at hx
      split at hx
      · exact .inl hx
      · split at hx
        · simpa using hx
        · exact .inl hx
    rcases ih h with h | h
    · exact (hpush b h).imp_right fun hc => by simp [hc]
    · exact .inr (by simp [h])

/-- The values in the buffer are what the same bytes without their marks would leave. -/
theorem map_lineFill (line chunk : List β) :
    (lineFill val line chunk).map val = lineFill id (line.map val) (chunk.map val) := by
  induction chunk generalizing line with
  | nil => rfl
  | cons c chunk ih =>
    have hpush : (linePush val line c).map val = linePush id (line.map val) (val c) := by
      unfold linePush
      simp only [id, List.length_map]
      split
      · rfl
      · split <;> simp
    simp only [lineFill, List.map_cons, List.foldl_cons] at ih ⊢
    rw [ih, hpush]

theorem lineFill_append (line xs ys : List β) :
    lineFill val line (xs ++ ys) = lineFill val (lineFill val line xs) ys :=
  List.foldl_append

end

/-! ## The table -/

/-- The handlers that the table names, without their prefix `cmd_`. -/
inductive CmdFn where
  | ping
  | auth
  | settoken
  | diag
  | ledOn
  | ledOff
  | version
  | ota
  | setwifi
  | errsrc
  | dht
  | dhtstream
  | dhtstate
  deriving DecidableEq, Repr

/-- `cmd_entry_t`; its `name_len` is the length of the name. -/
structure CmdEntry where
  name : Bytes
  needsAuth : Bool
  fn : CmdFn
  deriving DecidableEq

/-- `CMDS`. -/
def cmds : List CmdEntry :=
  [⟨lit "ping", false, .ping⟩, ⟨lit "auth", false, .auth⟩, ⟨lit "settoken", true, .settoken⟩,
    ⟨lit "diag", true, .diag⟩, ⟨lit "led_on", true, .ledOn⟩, ⟨lit "led_off", true, .ledOff⟩,
    ⟨lit "version", false, .version⟩, ⟨lit "ota", true, .ota⟩, ⟨lit "setwifi", true, .setwifi⟩,
    ⟨lit "errsrc", false, .errsrc⟩, ⟨lit "dht?", false, .dht⟩, ⟨lit "dhtstream", true, .dhtstream⟩,
    ⟨lit "dhtstate", false, .dhtstate⟩]

/-! ## The dispatcher -/

/-- `rtrim_n`. -/
def rtrimN (s : Bytes) : Bytes := trimTrailing s

/-- `lskip_n`. -/
def lskipN (s : Bytes) : Bytes := s.dropWhile isBlank

/-- A line is blanks and the part from its first word on. -/
theorem lskipN_cases (s : Bytes) :
    ∃ blanks, s = blanks ++ lskipN s ∧ (∀ c ∈ blanks, isBlank c = true) ∧
      ∀ c ∈ (lskipN s).head?, isBlank c = false :=
  ⟨s.takeWhile isBlank, List.takeWhile_append_dropWhile.symm,
    fun _ hc => List.mem_takeWhile_imp hc, head?_dropWhile_of⟩

/-- Blanks before a line change nothing. -/
theorem lskipN_rtrimN_append {q : Bytes} (hq : ∀ c ∈ q, isBlank c = true) (t : Bytes) :
    lskipN (rtrimN (q ++ t)) = lskipN (rtrimN t) := by
  have hskip : ∀ t, lskipN (q ++ t) = lskipN t := fun t => List.dropWhile_append_of_pos hq
  unfold rtrimN
  rw [trimTrailing_append]
  split
  · next hnil =>
    rw [hnil, trimTrailing_eq_nil.mpr hq]
  · exact hskip _

/-- A line that begins with a word is not skipped into. -/
theorem lskipN_of_head {s : Bytes} (h : ∀ c ∈ s.head?, isBlank c = false) : lskipN s = s := by
  cases s with
  | nil => rfl
  | cons c s => rw [lskipN, List.dropWhile_cons, if_neg (by simp [h c rfl])]

/-- Blanks before such a line are skipped. -/
theorem lskipN_append {blanks s : Bytes} (hblanks : ∀ c ∈ blanks, isBlank c = true)
    (h : ∀ c ∈ s.head?, isBlank c = false) : lskipN (blanks ++ s) = s := by
  rw [lskipN, List.dropWhile_append_of_pos hblanks, ← lskipN, lskipN_of_head h]

/-- Trimming does not change the beginning of such a line. -/
theorem head_rtrimN {s : Bytes} (h : ∀ c ∈ s.head?, isBlank c = false) :
    ∀ c ∈ (rtrimN s).head?, isBlank c = false := by
  obtain ⟨t, hs, -⟩ := trimTrailing_append_blanks s
  intro c hc
  refine h c ?_
  rw [Option.mem_def] at hc ⊢
  rw [hs, List.head?_append, show (trimTrailing s).head? = some c from hc]
  rfl

/-- The test of the lookup: the lengths agree and `strncasecmp` returns 0. -/
def CmdEntry.named (name : Bytes) (e : CmdEntry) : Bool :=
  e.name.length == name.length && name.map toLower == e.name.map toLower

/-- The lookup goes by the lower-case name. -/
theorem named_iff {name : Bytes} {e : CmdEntry} :
    e.named name = true ↔ name.map toLower = e.name.map toLower := by
  simp only [CmdEntry.named, Bool.and_eq_true, beq_iff_eq, and_iff_right_iff_imp]
  intro h
  simpa using (congrArg List.length h).symm

/-- What `cmd_dispatch_line` does with a line: nothing, a reply of its own, or the call of a
handler. -/
inductive Dispatched where
  | ignored
  | replied (text : Bytes)
  | called (entry : CmdEntry) (args : Bytes)
  deriving DecidableEq

/-- `cmd_dispatch_line`, with the `authed` flag of its context. -/
def cmdDispatchLine (line : Bytes) (authed : Bool) : Dispatched :=
  let s := lskipN (rtrimN line)
  if s = [] then .ignored
  else
    let name := s.takeWhile fun c => !isBlank c
    let args := untilNul (lskipN (s.drop name.length))
    match cmds.find? (·.named name) with
    | none => .replied (lit "WHAT\n")
    | some entry =>
      if entry.needsAuth && !authed then .replied (lit "DENIED\n") else .called entry args

/-- **What is called.** The entry is one of the table; the flag is set if the entry needs it; and
with the flag set the line calls the same. -/
theorem cmdDispatchLine_called {line : Bytes} {authed : Bool} {entry : CmdEntry} {args : Bytes}
    (h : cmdDispatchLine line authed = .called entry args) :
    entry ∈ cmds ∧ (entry.needsAuth = true → authed = true) ∧
      cmdDispatchLine line true = .called entry args := by
  unfold cmdDispatchLine at h ⊢
  dsimp only at h ⊢
  split at h
  · cases h
  · next hne =>
    rw [if_neg hne]
    split at h
    · cases h
    · next found hfind =>
      split at h
      · cases h
      · next hgate =>
        cases h
        refine ⟨List.mem_of_find?_eq_some hfind, fun hneeds => ?_, by simp⟩
        simpa [hneeds] using hgate

/-- The table marks the OTA command. -/
theorem needsAuth_of_ota {entry : CmdEntry} (h : entry ∈ cmds) (hfn : entry.fn = .ota) :
    entry.needsAuth = true := by
  revert hfn
  revert entry
  decide

example : cmdDispatchLine (lit " Auth  hunter2 ") false =
    .called ⟨lit "auth", false, .auth⟩ (lit "hunter2") := by
  decide

end RemoteControl
