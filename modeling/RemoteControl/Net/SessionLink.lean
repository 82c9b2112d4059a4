import Mathlib.Logic.Function.Basic
import RemoteControl.Cmd.Lines
import RemoteControl.Net.SessionOrder

/-!
# The sockets of a session (`app/session.py` and `tcp_client.c`)

The session of the host and the tasks of its sockets, in any interleaving. A task takes what has
gone out on its socket, in pieces of any size, until a `recv` fails. It cuts the stream at the line
ends and runs each line when it is complete, and behind a stream that breaks off also the part of a
line that it has (`TaskInv.step`); and once its first line was an AUTH that has been accepted, the
flag stays (`SocketTask.FlagKept.step`).
-/

namespace RemoteControl

open CString

/-! ## The two ends -/

/-- What the session has given to a socket. -/
def TcpSession.on (k : Nat) (w : TcpSession) : List WireItem := w.sent.filter (·.sock = k)

/-- The bytes that have gone out. -/
def WireItem.bytes (x : WireItem) : Bytes := x.text.take x.out

/-- The line, without its end. -/
def WireItem.command (x : WireItem) : Bytes := x.text.dropLast

/-- The number of a command line that was typed. -/
def WireItem.typedNumber (x : WireItem) : Option Nat :=
  match x.kind with
  | .typed n => some n
  | _ => none

/-- What has gone out on a socket. -/
def TcpSession.stream (k : Nat) (w : TcpSession) : Bytes := (w.on k).flatMap WireItem.bytes

/-- A line given to `cmd_dispatch_line`, with the flag and the statics that it finds. -/
structure RanLine where
  line : Bytes
  authed : Bool
  cmd : CmdAnswers
  state : CmdState

/-- The task of a socket: how much of the stream it has taken, and the lines it has given to
`cmd_dispatch_line`. -/
structure SocketTask where
  taken : Nat
  client : TcpClient UInt8
  ran : List RanLine

/-- It has just been created. -/
def SocketTask.start : SocketTask := ⟨0, .start, []⟩

section
variable (E : FlashEnv) (R : Crc32)

/-- A step in which a `recv` returns `r`. -/
def SocketTask.next (r : Recv UInt8) (taken : Nat) (i : FeedIn) (t : SocketTask) : SocketTask where
  taken := taken
  client := (t.client.step id E R ⟨r, i.cmd, i.stack, i.mallocOk⟩ i.state i.log).1
  ran := t.ran ++ ((t.client.dispatches id r).map fun line =>
    ⟨line, t.client.authed, i.cmd, i.state⟩).toList

/-- One step. A `recv` returns at most `n` bytes of the stream, and waits where there are none; or
it fails. -/
def SocketTask.step (stream : Bytes) (arrives : Option Nat) (i : FeedIn) (t : SocketTask) :
    SocketTask :=
  if t.client.asks = 0 then t.next E R (.data []) t.taken i
  else
    match arrives with
    | none => t.next E R .err t.taken i
    | some n =>
      let seg := (stream.drop t.taken).take (min n t.client.asks)
      if seg = [] then t else t.next E R (.data seg) (t.taken + seg.length) i

/-- The session, and the task of each socket. -/
structure SessionLink where
  host : TcpSession
  tasks : Nat → SocketTask

/-- A call of the session returns, or a task takes a step. -/
inductive SessionLinkEv where
  | host (ev : SessionEv)
  | task (k : Nat) (arrives : Option Nat) (i : FeedIn)

/-- Nothing has been sent. -/
def SessionLink.start : SessionLink := ⟨.start, fun _ => .start⟩

/-- One of them. -/
def SessionLink.step (C : HostConfig) (w : SessionLink) : SessionLinkEv → SessionLink
  | .host ev => { w with host := w.host.step C ev }
  | .task k arrives i =>
    { w with
      tasks := Function.update w.tasks k ((w.tasks k).step E R (w.host.stream k) arrives i) }

end

/-! ## The session goes on -/

/-- What has been typed and sent stays, and a typed line is not empty. -/
structure TcpSession.Grows (w w' : TcpSession) : Prop where
  sent : w.sent <+: w'.sent
  lines : w'.lines = w.lines ∨
    ∃ text, pyStrip text ≠ [] ∧ w'.lines = w.lines ++ [pyEncode (pyStrip text)]

section
variable {C : HostConfig} {w : TcpSession}

theorem TcpSession.Grows.of_same {w' : TcpSession} (hsent : w.sent <+: w'.sent)
    (hlines : w'.lines = w.lines) : w.Grows w' := ⟨hsent, .inl hlines⟩

/-- After `send_line` or `send_ping` nothing more is sent. -/
theorem TcpSession.failed_same (w : TcpSession) :
    (w.failed C).sent = w.sent ∧ (w.failed C).lines = w.lines := by
  unfold failed
  split <;> exact ⟨rfl, rfl⟩

theorem TcpSession.replied_same (replied : Bool) (w : TcpSession) :
    (w.replied replied).sent = w.sent ∧ (w.replied replied).lines = w.lines := by
  unfold TcpSession.replied
  cases w.pc with
  | otaVersion k => cases replied <;> exact ⟨rfl, rfl⟩
  | _ => exact ⟨rfl, rfl⟩

theorem TcpSession.grows_connected (o : ConnectOutcome) (w : TcpSession) :
    w.Grows (w.connected C o) := by
  unfold connected
  split
  · exact .of_same (List.prefix_refl _) rfl
  · cases o with
    | refused => exact .of_same (List.prefix_refl _) rfl
    | broken out => exact .of_same ⟨_, rfl⟩ rfl
    | up => exact .of_same (by dsimp only; split <;> exact ⟨_, rfl⟩) (by dsimp only; split <;> rfl)

theorem TcpSession.grows_returned (o : SendOutcome) (w : TcpSession) :
    w.Grows (w.returned C o) := by
  cases hs : w.pc.sends (w.sock.getD 0) with
  | none =>
    rw [returned, hs]
    exact .of_same (List.prefix_refl _) rfl
  | some item =>
    obtain ⟨k, kind, text⟩ := item
    rcases w.returned_cases (C := C) o hs with ⟨out, hret⟩ | ⟨replied, hret⟩
    · obtain ⟨hsent, hlines⟩ := (w.log k kind text out true).failed_same (C := C)
      rw [hret]
      exact .of_same ⟨_, hsent.symm⟩ hlines
    · obtain ⟨hsent, hlines⟩ := (w.log k kind text text.length false).replied_same replied
      rw [hret]
      exact .of_same ⟨_, hsent.symm⟩ hlines

theorem TcpSession.grows_typed (text : List Char) (file : Option Bytes) (w : TcpSession) :
    w.Grows (w.typed text file) := by
  unfold TcpSession.typed
  dsimp only
  split
  · exact .of_same (List.prefix_refl _) rfl
  · next hne =>
    split
    · exact .of_same (List.prefix_refl _) rfl
    · split
      · cases file <;> exact .of_same (List.prefix_refl _) rfl
      · exact ⟨List.prefix_refl _, .inr ⟨text, hne, rfl⟩⟩

/-- **A step of the session.** -/
theorem TcpSession.grows_step (w : TcpSession) (ev : SessionEv) : w.Grows (w.step C ev) := by
  have hsame : w.Grows w := .of_same (List.prefix_refl _) rfl
  cases ev with
  | connected o => exact w.grows_connected o
  | returned o => exact w.grows_returned o
  | ble wifiUp =>
    simp only [step]
    split
    · exact hsame
    · exact .of_same (List.prefix_refl _) rfl
  | pingDue | deadline =>
    simp only [step]
    split
    · exact .of_same (List.prefix_refl _) rfl
    · exact hsame
  | typed text file =>
    simp only [step]
    split
    · exact w.grows_typed text file
    · exact hsame
  | uploaded out complete =>
    simp only [step]
    split
    · split <;> exact .of_same ⟨_, rfl⟩ rfl
    · exact hsame
  | interrupt out =>
    simp only [step]
    split
    · exact hsame
    · exact .of_same ⟨_, rfl⟩ rfl
    · exact .of_same ⟨_, rfl⟩ rfl
    · exact .of_same ⟨_, rfl⟩ rfl
    · exact .of_same (List.prefix_refl _) rfl

end

/-! ## The flag -/

/-- A matching AUTH sets it. -/
theorem cmdLine_authed_of_matches {x : CmdAnswers} (xport : CmdXport) {line : Bytes} {authed : Bool}
    {s : CmdState} (h : AuthMatches (cmdDispatchLine line authed) (tokenInForce x s)) :
    (cmdLine x xport line authed s).authed = true := by
  obtain ⟨entry, args, hcall, hfn, hmatch⟩ := h
  have htoken : authArg args = (authTokenLoad x.nvs s.auth).token := hmatch
  simp only [cmdLine, hcall, hfn, cmdRun, cmdAuth, if_pos htoken]

section
variable {E : FlashEnv} {R : Crc32}

/-- **The flag after a step** is the one that the line leaves, if one is dispatched. -/
theorem TcpClient.authed_step_eq (a : ClientAnswers UInt8) (c : TcpClient UInt8) (s : CmdState)
    (log : FlashLog) :
    (c.step id E R a s log).1.authed =
      match c.dispatches id a.recv with
      | none => c.authed
      | some line => (cmdLine a.cmd .tcp line c.authed s).authed := by
  unfold TcpClient.step TcpClient.dispatches
  split
  · next hpc => simp [hpc]
  · next hpc hota => simp [hpc]
  · next t hota hpc => simp [hota]
  · next hpc hota =>
    obtain ⟨⟨c', found⟩, hadv⟩ : ∃ q, c.advance id a.recv = q := ⟨_, rfl⟩
    have hauth : c'.authed = c.authed := by
      have h : (c.advance id a.recv).1.authed = c.authed := authed_advance a.recv c
      rwa [hadv] at h
    simp only [hadv, hpc, hota]
    cases found with
    | true =>
      rw [if_pos rfl, if_pos rfl]
      rw [authed_dispatch, hauth, List.map_id]
    | false =>
      rw [if_neg (by simp), if_neg (by simp)]
      exact hauth

/-- The first line that was run is an AUTH that has been accepted. -/
def SocketTask.Accepted (t : SocketTask) : Prop :=
  ∃ r ∈ t.ran.head?, AuthMatches (cmdDispatchLine r.line r.authed) (tokenInForce r.cmd r.state)

/-- What that means for the flag. -/
def SocketTask.FlagKept (t : SocketTask) : Prop :=
  t.Accepted → t.client.authed = true ∧ ∀ r ∈ t.ran.tail, r.authed = true

theorem SocketTask.FlagKept.next {t : SocketTask} (h : t.FlagKept) (r : Recv UInt8) (taken : Nat)
    (i : FeedIn) : (t.next E R r taken i).FlagKept := by
  have hauthed := t.client.authed_step_eq (E := E) (R := R) ⟨r, i.cmd, i.stack, i.mallocOk⟩
    i.state i.log
  dsimp only at hauthed
  cases hd : t.client.dispatches id r with
  | none =>
    have hran : (t.next E R r taken i).ran = t.ran := by simp [SocketTask.next, hd]
    rw [hd] at hauthed
    rw [FlagKept, Accepted, hran]
    intro hacc
    exact ⟨hauthed.trans (h hacc).1, (h hacc).2⟩
  | some line =>
    have hran : (t.next E R r taken i).ran =
        t.ran ++ [⟨line, t.client.authed, i.cmd, i.state⟩] := by
      simp [SocketTask.next, hd]
    rw [hd] at hauthed
    dsimp only at hauthed
    rw [FlagKept, Accepted, hran]
    rintro ⟨r₀, hr₀, hmatch⟩
    cases hts : t.ran with
    | nil =>
      -- the line is the first
      rw [hts] at hr₀
      cases hr₀
      refine ⟨hauthed.trans (cmdLine_authed_of_matches .tcp hmatch), ?_⟩
      exact List.forall_mem_nil _
    | cons r₁ rs =>
      rw [hts] at hr₀
      obtain ⟨hflag, htail⟩ := h ⟨r₀, by rw [hts]; exact hr₀, hmatch⟩
      rw [hflag] at hauthed
      refine ⟨hauthed.trans (authed_cmdLine _ _ _ _), ?_⟩
      rw [hts] at htail
      rw [List.cons_append, List.tail_cons]
      exact List.forall_mem_append.mpr ⟨htail, List.forall_mem_singleton.mpr hflag⟩

theorem SocketTask.FlagKept.step {t : SocketTask} (h : t.FlagKept) (stream : Bytes)
    (arrives : Option Nat) (i : FeedIn) : (t.step E R stream arrives i).FlagKept := by
  unfold SocketTask.step
  split
  · exact h.next _ _ _
  · split
    · exact h.next _ _ _
    · dsimp only
      split
      · exact h
      · exact h.next _ _ _

end

/-! ## A task takes its stream apart -/

/-- Bytes without a line end. -/
def NoLineEnd (bs : Bytes) : Prop := ∀ c ∈ bs, decide (c = 10) = false

/-- The lines that pieces of a stream amount to. -/
def keptLines (pieces : List Bytes) : List Bytes := (pieces.map keptLine).filter (· ≠ [])

theorem keptLines_append (pieces pieces' : List Bytes) :
    keptLines (pieces ++ pieces') = keptLines pieces ++ keptLines pieces' := by
  rw [keptLines, List.map_append, List.filter_append]
  rfl

/-- The stream is pieces with their line ends, a part of the next one, and a rest. -/
structure CutAt (stream : Bytes) (pieces : List Bytes) (part rest : Bytes) : Prop where
  eq : stream = Separator.joined 10 pieces ++ (part ++ rest)
  free : ∀ q ∈ pieces, NoLineEnd q
  partFree : NoLineEnd part

/-- The task is in its loop: it has run the lines of the pieces, and holds the part. -/
structure TaskReading (stream : Bytes) (t : SocketTask) (pieces : List Bytes) (part rest : Bytes) :
    Prop where
  cut : CutAt stream pieces part (t.client.buf ++ rest)
  taken : t.taken + rest.length = stream.length
  pc : t.client.pc = .reading
  ota : t.client.ota = none
  line : t.client.line = keptLine part
  ran : t.ran.map (·.line) = keptLines pieces

/-- It has left its loop, and run the part as well. -/
structure TaskLeft (stream : Bytes) (t : SocketTask) (pieces : List Bytes) (part rest : Bytes) :
    Prop where
  cut : CutAt stream pieces part rest
  pc : t.client.pc ≠ .reading
  ran : t.ran.map (·.line) = keptLines (pieces ++ [part])

/-- The one or the other. -/
def TaskInv (stream : Bytes) (t : SocketTask) : Prop :=
  ∃ pieces part rest, TaskReading stream t pieces part rest ∨ TaskLeft stream t pieces part rest

/-- No line of the stream is an OTA command. -/
def NoOtaLine (stream : Bytes) : Prop :=
  ∀ pieces rest, stream = Separator.joined 10 pieces ++ rest → (∀ q ∈ pieces, NoLineEnd q) →
    ∀ q ∈ pieces, NotOta (keptLine q)

theorem NoLineEnd.append {bs bs' : Bytes} (h : NoLineEnd bs) (h' : NoLineEnd bs') :
    NoLineEnd (bs ++ bs') := List.forall_mem_append.mpr ⟨h, h'⟩

/-- A line that goes on. -/
theorem lineFill_keptLine (part piece : Bytes) :
    lineFill id (keptLine part) piece = keptLine (part ++ piece) := by
  rw [← lineFill_eq_keptLine, ← lineFill_eq_keptLine, lineFill_append]

section
variable {E : FlashEnv} {R : Crc32} {stream : Bytes} {t : SocketTask} {pieces : List Bytes}
  {part rest : Bytes}

/-- The stream grows. -/
theorem CutAt.append (h : CutAt stream pieces part rest) (more : Bytes) :
    CutAt (stream ++ more) pieces part (rest ++ more) := by
  refine ⟨?_, h.free, h.partFree⟩
  rw [h.eq]
  simp only [List.append_assoc]

theorem TaskInv.append (h : TaskInv stream t) (more : Bytes) : TaskInv (stream ++ more) t := by
  obtain ⟨pieces, part, rest, h | h⟩ := h
  · refine ⟨pieces, part, rest ++ more, .inl ⟨?_, ?_, h.pc, h.ota, h.line, h.ran⟩⟩
    · rw [← List.append_assoc]
      exact h.cut.append more
    · rw [List.length_append, List.length_append, ← h.taken, Nat.add_assoc]
  · exact ⟨pieces, part, rest ++ more, .inr ⟨h.cut.append more, h.pc, h.ran⟩⟩

/-- Outside its loop a task does not come back into it, and dispatches nothing. -/
theorem TcpClient.step_of_left {c : TcpClient UInt8} (hpc : c.pc ≠ .reading)
    (a : ClientAnswers UInt8) (s : CmdState) (log : FlashLog) :
    (c.step id E R a s log).1.pc ≠ .reading ∧ c.dispatches id a.recv = none := by
  have hresume : c.resume.pc ≠ .reading := by
    unfold TcpClient.resume
    split
    · next h => exact absurd h hpc
    · exact fun h => by cases h
    · exact fun h => by cases h
  have hin : ∀ t : TcpOta UInt8, (c.inOta t).pc ≠ .reading := by
    intro t
    unfold TcpClient.inOta
    split
    · exact hresume
    · exact hpc
    · exact hpc
    · exact hpc
  unfold TcpClient.step TcpClient.dispatches
  constructor
  · split
    · exact hpc
    · exact hpc
    · exact hin _
    · next h _ => exact absurd h hpc
  · split
    · next h _ => exact absurd h hpc
    · rfl

theorem TaskLeft.next (h : TaskLeft stream t pieces part rest) (r : Recv UInt8) (taken : Nat)
    (i : FeedIn) : TaskLeft stream (t.next E R r taken i) pieces part rest := by
  obtain ⟨hpc, hnone⟩ := t.client.step_of_left (E := E) (R := R) h.pc
    ⟨r, i.cmd, i.stack, i.mallocOk⟩ i.state i.log
  refine ⟨h.cut, hpc, ?_⟩
  dsimp only at hnone
  simp only [SocketTask.next, hnone, Option.map_none, Option.toList_none, List.append_nil, h.ran]

/-- A line that is complete. -/
theorem CutAt.lineEnd {piece rest' : Bytes} (h : CutAt stream pieces part rest)
    (hrest : rest = piece ++ 10 :: rest') (hpiece : NoLineEnd piece) :
    CutAt stream (pieces ++ [part ++ piece]) [] rest' := by
  refine ⟨?_, ?_, List.forall_mem_nil _⟩
  · rw [h.eq, hrest, Separator.joined_append, Separator.joined_cons, Separator.joined_nil]
    simp only [List.append_assoc, List.cons_append, List.nil_append]
  · exact List.forall_mem_append.mpr
      ⟨h.free, List.forall_mem_singleton.mpr (h.partFree.append hpiece)⟩

/-- The segment goes into the line, without a line end. -/
theorem TaskReading.keep (h : TaskReading stream t pieces part rest) {b : UInt8} {bs : Bytes}
    (hbuf : t.client.buf = b :: bs) (hsplit : lineSplit id (b :: bs) = none) (i : FeedIn) :
    TaskReading stream (t.next E R (.data []) t.taken i) pieces (part ++ (b :: bs)) rest := by
  have hfree : NoLineEnd (b :: bs) := Separator.split_eq_none hsplit
  have hadv : t.client.advance id (.data []) =
      ({ t.client with line := lineFill id t.client.line (b :: bs), buf := [] }, false) := by
    rw [TcpClient.advance.eq_def, hbuf]
    simp only [hsplit]
  have hnext : t.next E R (.data []) t.taken i =
      ⟨t.taken, { t.client with line := lineFill id t.client.line (b :: bs), buf := [] },
        t.ran⟩ := by
    simp [SocketTask.next, TcpClient.step, TcpClient.dispatches, h.pc, h.ota, hadv]
  rw [hnext]
  refine ⟨⟨?_, h.cut.free, h.cut.partFree.append hfree⟩, h.taken, h.pc, h.ota, ?_, h.ran⟩
  · rw [h.cut.eq, hbuf]
    simp only [List.append_assoc, List.nil_append]
  · rw [h.line]
    exact lineFill_keptLine part (b :: bs)

/-- A line ends in the segment, and is dispatched unless it is empty. -/
theorem TaskReading.lineEnd (h : TaskReading stream t pieces part rest) (hota : NoOtaLine stream)
    {b : UInt8} {bs piece buf : Bytes} (hbuf : t.client.buf = b :: bs)
    (hsplit : lineSplit id (b :: bs) = some (piece, buf)) (i : FeedIn) :
    TaskReading stream (t.next E R (.data []) t.taken i) (pieces ++ [part ++ piece]) [] rest := by
  obtain ⟨c, hc, hcut, hfree⟩ := Separator.split_eq_some hsplit
  obtain rfl : c = 10 := of_decide_eq_true hc
  have hcut' : CutAt stream (pieces ++ [part ++ piece]) [] (buf ++ rest) := by
    refine h.cut.lineEnd ?_ hfree
    rw [hbuf, hcut, List.append_assoc, List.cons_append]
  have hline : lineFill id t.client.line piece = keptLine (part ++ piece) := by
    rw [h.line, lineFill_keptLine]
  have hadv : t.client.advance id (.data []) =
      ({ t.client with line := keptLine (part ++ piece), buf := buf },
        decide (keptLine (part ++ piece) ≠ [])) := by
    rw [TcpClient.advance.eq_def, hbuf]
    simp only [hsplit, hline]
  by_cases hnil : keptLine (part ++ piece) = []
  · have hnext : t.next E R (.data []) t.taken i =
        ⟨t.taken, { t.client with line := [], buf := buf }, t.ran⟩ := by
      simp [SocketTask.next, TcpClient.step, TcpClient.dispatches, h.pc, h.ota, hadv, hnil]
    have hran : keptLines (pieces ++ [part ++ piece]) = keptLines pieces := by
      rw [keptLines_append, keptLines, keptLines, List.map_singleton,
        List.filter_cons_of_neg (by simp [hnil]), List.filter_nil, List.append_nil]
    rw [hnext]
    exact ⟨hcut', h.taken, h.pc, h.ota, rfl, h.ran.trans hran.symm⟩
  · have hnot : NotOta (keptLine (part ++ piece)) :=
      hota _ (buf ++ rest) hcut'.eq hcut'.free _ (List.mem_append_right _ List.mem_cons_self)
    obtain ⟨authed, hdispatch⟩ := dispatch_of_notOta (E := E)
      ⟨.data [], i.cmd, i.stack, i.mallocOk⟩
      (c := { t.client with line := keptLine (part ++ piece), buf := buf }) i.state i.log h.pc hnot
    have hnext : t.next E R (.data []) t.taken i =
        ⟨t.taken, { t.client with authed := authed, line := [], buf := buf, ota := none },
          t.ran ++ [⟨keptLine (part ++ piece), t.client.authed, i.cmd, i.state⟩]⟩ := by
      simp only [SocketTask.next, TcpClient.step, TcpClient.dispatches, hadv]
      simp only [h.pc, h.ota, hnil, ne_eq, not_false_eq_true, decide_true, if_true]
      simp only [h.pc, h.ota] at hdispatch
      rw [hdispatch]
      rfl
    have hran : keptLines (pieces ++ [part ++ piece]) =
        keptLines pieces ++ [keptLine (part ++ piece)] := by
      rw [keptLines_append, keptLines, keptLines, List.map_singleton,
        List.filter_cons_of_pos (by simp [hnil]), List.filter_nil]
    rw [hnext]
    refine ⟨hcut', h.taken, h.pc, rfl, rfl, ?_⟩
    rw [List.map_append, h.ran, hran]
    rfl

/-- A segment arrives. -/
theorem TaskReading.recv (h : TaskReading stream t pieces part rest) (hbuf : t.client.buf = [])
    {seg rest' : Bytes} (hseg : seg ≠ []) (hle : seg.length ≤ clientBufSz)
    (hrest : rest = seg ++ rest') (i : FeedIn) :
    TaskReading stream (t.next E R (.data seg) (t.taken + seg.length) i) pieces part rest' := by
  obtain ⟨b, bs, rfl⟩ := List.exists_cons_of_ne_nil hseg
  have hadv : t.client.advance id (.data (b :: bs)) =
      ({ t.client with buf := b :: bs }, false) := by
    rw [TcpClient.advance.eq_def, hbuf]
    dsimp only
    rw [List.take_of_length_le hle]
  have hnext : t.next E R (.data (b :: bs)) (t.taken + (b :: bs).length) i =
      ⟨t.taken + (b :: bs).length, { t.client with buf := b :: bs }, t.ran⟩ := by
    simp [SocketTask.next, TcpClient.step, TcpClient.dispatches, h.pc, h.ota, hadv]
  have htaken := h.taken
  have hcut := h.cut
  rw [hrest, List.length_append] at htaken
  rw [hbuf, hrest, List.nil_append] at hcut
  rw [hnext]
  exact ⟨hcut, (Nat.add_assoc _ _ _).trans htaken, h.pc, h.ota, h.line, h.ran⟩

/-- The stream breaks off. -/
theorem TaskReading.fail (h : TaskReading stream t pieces part rest) (hbuf : t.client.buf = [])
    (taken : Nat) (i : FeedIn) :
    TaskLeft stream (t.next E R .err taken i) pieces part rest := by
  have hcut : CutAt stream pieces part rest := by
    have hcut := h.cut
    rwa [hbuf, List.nil_append] at hcut
  have hran : keptLines (pieces ++ [part]) =
      keptLines pieces ++ [keptLine part].filter (· ≠ []) := keptLines_append _ _
  by_cases hnil : t.client.line = []
  · have hadv : t.client.advance id .err = ({ t.client with pc := .closed, buf := [] }, false) := by
      rw [TcpClient.advance.eq_def, hbuf]
      exact if_pos hnil
    refine ⟨hcut, ?_, ?_⟩
    · simp [SocketTask.next, TcpClient.step, h.pc, h.ota, hadv]
    · rw [hran, ← h.line, hnil, ← h.ran]
      simp [SocketTask.next, TcpClient.dispatches, h.pc, h.ota, hadv]
  · have hadv : t.client.advance id .err = ({ t.client with pc := .leaving, buf := [] }, true) := by
      rw [TcpClient.advance.eq_def, hbuf]
      exact if_neg hnil
    refine ⟨hcut, ?_, ?_⟩
    · simp only [SocketTask.next, TcpClient.step, h.pc, h.ota, hadv, if_true]
      unfold TcpClient.dispatch
      dsimp only
      split
      · exact fun hpc => by cases hpc
      · unfold TcpClient.inOta
        split <;> exact fun hpc => by cases hpc
    · rw [hran, ← h.line, List.filter_cons_of_pos (by simp [hnil]), ← h.ran]
      simp [SocketTask.next, TcpClient.dispatches, h.pc, h.ota, hadv]

/-- **A step of a task.** -/
theorem TaskInv.step (h : TaskInv stream t) (hota : NoOtaLine stream) (arrives : Option Nat)
    (i : FeedIn) : TaskInv stream (t.step E R stream arrives i) := by
  obtain ⟨pieces, part, rest, h | h⟩ := h
  · have hasks : t.client.asks = 0 ↔ t.client.buf ≠ [] := by
      unfold TcpClient.asks
      rw [h.pc, h.ota]
      cases t.client.buf with
      | nil => simp [clientBufSz]
      | cons b bs => simp
    unfold SocketTask.step
    split
    · next hzero =>
      obtain ⟨b, bs, hbuf⟩ := List.exists_cons_of_ne_nil (hasks.mp hzero)
      cases hsplit : lineSplit id (b :: bs) with
      | none => exact ⟨_, _, _, .inl (h.keep hbuf hsplit i)⟩
      | some cut => exact ⟨_, _, _, .inl (h.lineEnd hota hbuf hsplit i)⟩
    · next hne =>
      have hbuf : t.client.buf = [] := by
        by_contra hfull
        exact hne (hasks.mpr hfull)
      split
      · exact ⟨_, _, _, .inr (h.fail hbuf _ i)⟩
      · next n =>
        have hdrop : stream.drop t.taken = rest := by
          have htaken := h.taken
          have heq := h.cut.eq
          rw [hbuf, List.nil_append, ← List.append_assoc] at heq
          rw [heq]
          refine List.drop_left' ?_
          rw [heq, List.length_append] at htaken
          omega
        have hmax : t.client.asks ≤ clientBufSz := by
          unfold TcpClient.asks
          rw [h.pc, h.ota, hbuf]
        rw [hdrop]
        dsimp only
        split
        · exact ⟨_, _, _, .inl h⟩
        · next hseg =>
          refine ⟨_, _, _, .inl (h.recv hbuf hseg ?_ (List.take_append_drop _ rest).symm i)⟩
          exact (List.length_take_le _ _).trans ((Nat.min_le_right _ _).trans hmax)
  · unfold SocketTask.step
    split
    · exact ⟨_, _, _, .inr (h.next _ _ i)⟩
    · split
      · exact ⟨_, _, _, .inr (h.next _ _ i)⟩
      · dsimp only
        split
        · exact ⟨_, _, _, .inr h⟩
        · exact ⟨_, _, _, .inr (h.next _ _ i)⟩

end

end RemoteControl
