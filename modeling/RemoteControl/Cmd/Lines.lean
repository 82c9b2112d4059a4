import RemoteControl.Ble.WifiWrite
import RemoteControl.Cmd.Replies
import RemoteControl.Lib.Run
import RemoteControl.Net.TcpClient
import RemoteControl.Ota.SessionRuns

/-!
# The same lines on both transports (`tcp_client.c`, `ble_cmd.c`)

`client_task` takes lines apart segment by segment with `memchr`, `ble_cmd_on_rx` byte by byte.
`textLines` says what lines a text has, and `TcpFeed` and `BleFeed` feed a text to the one and to
the other, cut into pieces. In both, the lines already dispatched and those that the buffer and the
bytes to come make up are together the lines of the text, whatever the commands answer and whatever
the other tasks do meanwhile (`FeedsTcp.step`, `FeedsBle.step`).
-/

namespace RemoteControl

open CString

/-! ## The lines of a text -/

/-- The bytes of a line that are kept. -/
def keptLine (piece : Bytes) : Bytes := (piece.filter (· ≠ 13)).take lineMax

/-- The lines of a text: what is before each line end, without carriage returns and up to the size
of the buffer, and not empty. -/
def textLines (text : Bytes) : List Bytes :=
  ((text.splitOn 10).dropLast.map keptLine).filter (· ≠ [])

/-- Pieces of a text, none of them empty or longer than `n`. -/
structure CutInto (n : Nat) (text : Bytes) (pieces : List Bytes) : Prop where
  flatten : pieces.flatten = text
  piece : ∀ p ∈ pieces, p ≠ [] ∧ p.length ≤ n

/-- A cut has at most as many pieces as the text has bytes. -/
theorem CutInto.length_le {n : Nat} {text : Bytes} {pieces : List Bytes}
    (h : CutInto n text pieces) : pieces.length ≤ text.length := by
  obtain ⟨rfl, hpiece⟩ := h
  induction pieces with
  | nil => exact Nat.zero_le _
  | cons p pieces ih =>
    have hpos := List.length_pos_of_ne_nil (hpiece p List.mem_cons_self).1
    have hrest := ih fun q hq => hpiece q (List.mem_cons_of_mem p hq)
    rw [List.flatten_cons, List.length_append, List.length_cons]
    omega

/-- Carriage returns are left out. -/
theorem lineFill_filter (line piece : Bytes) :
    lineFill id line piece = lineFill id line (piece.filter (· ≠ 13)) := by
  induction piece generalizing line with
  | nil => rfl
  | cons c piece ih =>
    by_cases hc : c = 13
    · rw [List.filter_cons_of_neg (by simp [hc]), ← ih]
      have hskip : linePush id line c = line := if_pos hc
      rw [lineFill, List.foldl_cons, hskip]
      rfl
    · rw [List.filter_cons_of_pos (by simp [hc])]
      exact ih _

/-- What an empty buffer keeps of a piece. -/
theorem lineFill_eq_keptLine (piece : Bytes) : lineFill id [] piece = keptLine piece := by
  rw [lineFill_filter, lineFill_eq_take (by simp) (Nat.zero_le _)]
  rfl

/-- A text without a line end has no line. -/
theorem textLines_of_not_mem {piece : Bytes} (h : 10 ∉ piece) : textLines piece = [] := by
  rw [textLines, List.splitOn_eq_singleton h]
  rfl

/-- The first line of a text, unless it is empty, and those of the rest. -/
theorem textLines_append_cons {piece : Bytes} (h : 10 ∉ piece) (rest : Bytes) :
    textLines (piece ++ 10 :: rest) = [keptLine piece].filter (· ≠ []) ++ textLines rest := by
  have hsplit : (piece ++ 10 :: rest).splitOn 10 = piece :: rest.splitOn 10 := by
    rw [List.splitOn_append_cons_of_beq _ _ (beq_self_eq_true _), List.splitOn_eq_singleton h,
      List.singleton_append]
  rw [textLines, hsplit, List.dropLast_cons_of_ne_nil (List.splitOn_ne_nil _ _), List.map_cons,
    ← List.singleton_append, List.filter_append]
  rfl

/-! ## What a buffer makes of the bytes to come -/

/-- Bytes without a line end go into the buffer. -/
theorem bleLines_append {piece : Bytes} (h : 10 ∉ piece) (line rest : Bytes) :
    bleLines line (piece ++ rest) = bleLines (lineFill id line piece) rest := by
  induction piece generalizing line with
  | nil => rfl
  | cons c piece ih =>
    have hc : c ≠ 10 := fun hc => h (by simp [hc])
    rw [List.cons_append, bleLines, if_neg hc, ih fun hmem => h (List.mem_cons_of_mem _ hmem)]
    rfl

/-- A line end completes the line in the buffer, unless that is empty. -/
theorem bleLines_cons (line rest : Bytes) :
    bleLines line (10 :: rest) = [line].filter (· ≠ []) ++ bleLines [] rest := by
  rw [bleLines, if_pos rfl]
  by_cases hline : line = []
  · rw [if_pos hline, List.filter_cons_of_neg (by simp [hline])]
    rfl
  · rw [if_neg hline, List.filter_cons_of_pos (by simp [hline])]
    rfl

/-- An empty buffer makes the lines of the text. -/
theorem bleLines_eq_textLines (text : Bytes) : bleLines [] text = textLines text := by
  -- on the length of the text: behind its first line end there is a shorter one
  induction hn : text.length using Nat.strong_induction_on generalizing text with
  | h n ih =>
    cases hsplit : lineSplit id text with
    | none =>
      have hno : 10 ∉ text := fun hmem => by
        simpa using Separator.split_eq_none hsplit 10 hmem
      have hnil := bleLines_append hno [] []
      rw [List.append_nil] at hnil
      rw [hnil, textLines_of_not_mem hno]
      rfl
    | some cut =>
      obtain ⟨piece, rest⟩ := cut
      obtain ⟨c, hc, rfl, hpiece⟩ := Separator.split_eq_some hsplit
      obtain rfl : c = 10 := by simpa using hc
      have hno : 10 ∉ piece := fun hmem => by simpa using hpiece 10 hmem
      have hlt : rest.length < n := by
        rw [← hn, List.length_append, List.length_cons]
        omega
      rw [bleLines_append hno, bleLines_cons, lineFill_eq_keptLine, textLines_append_cons hno,
        ih rest.length hlt rest rfl]

/-! ## The text over TCP -/

/-- What a step meets: the answers to the command, what a call of `ota_perform` would find, and the
statics and the flash log that the other tasks have left. -/
structure FeedIn where
  cmd : CmdAnswers
  stack : OtaSession
  mallocOk : Bool
  state : CmdState
  log : FlashLog

/-- A client whose stream arrives in segments: those that are still to come, the task, and the lines
it has given to `cmd_dispatch_line`. A line is its bytes, and its length their number. -/
structure TcpFeed where
  segments : List Bytes
  client : TcpClient UInt8
  lines : List Bytes

/-- A new connection. -/
def TcpFeed.start (segments : List Bytes) : TcpFeed := ⟨segments, .start, []⟩

section
variable (E : FlashEnv) (C : Crc32)

/-- A step of the task, when a `recv` in it returns `r`. -/
def TcpFeed.next (r : Recv UInt8) (segments : List Bytes) (i : FeedIn) (w : TcpFeed) : TcpFeed where
  segments := segments
  client := (w.client.step id E C ⟨r, i.cmd, i.stack, i.mallocOk⟩ i.state i.log).1
  lines := w.lines ++ (w.client.dispatches id r).toList

/-- One step. A `recv` returns the next segment; behind the last one it waits. -/
def TcpFeed.step (w : TcpFeed) (i : FeedIn) : TcpFeed :=
  if w.client.asks = 0 then w.next E C (.data []) w.segments i
  else
    match w.segments with
    | [] => w
    | seg :: segments => w.next E C (.data seg) segments i

end

/-- The task reads lines: those dispatched, and those its buffer and the bytes to come make up, are
the lines of the text. -/
structure FeedsTcp (text : Bytes) (w : TcpFeed) : Prop where
  pc : w.client.pc = .reading
  ota : w.client.ota = none
  segments : ∀ p ∈ w.segments, p ≠ [] ∧ p.length ≤ clientBufSz
  lines : w.lines ++ bleLines w.client.line (w.client.buf ++ w.segments.flatten) = textLines text

/-- The bytes and the segments that are still to be taken. -/
def TcpFeed.todo (w : TcpFeed) : Nat :=
  w.client.buf.length + w.segments.length + w.segments.flatten.length

section
variable {E : FlashEnv} {C : Crc32} {text : Bytes} {w : TcpFeed}

/-- The task is in `recv` exactly when its segment is used up. -/
theorem FeedsTcp.asks (h : FeedsTcp text w) : w.client.asks = 0 ↔ w.client.buf ≠ [] := by
  unfold TcpClient.asks
  rw [h.pc, h.ota]
  cases hbuf : w.client.buf with
  | nil => simp [clientBufSz]
  | cons b bs => simp

/-- A line that is no OTA command leaves the task where it was, with an empty buffer. -/
theorem dispatch_of_notOta (a : ClientAnswers UInt8) {c : TcpClient UInt8} (s : CmdState)
    (log : FlashLog) (hpc : c.pc = .reading) (hline : NotOta c.line) :
    ∃ authed, (c.dispatch id E a s log).1 =
      { c with authed := authed, line := [], ota := none } := by
  have hnone : (cmdLine a.cmd .tcp (c.line.map id) c.authed s).ota = none := by
    cases hota : (cmdLine a.cmd .tcp (c.line.map id) c.authed s).ota with
    | none => rfl
    | some size =>
      obtain ⟨-, -, hauth, -, -, hcalls⟩ := cmdLine_ota _ _ _ _ _ hota
      rw [hauth, List.map_id] at hcalls
      exact absurd hcalls hline
  refine ⟨(cmdLine a.cmd .tcp (c.line.map id) c.authed s).authed, ?_⟩
  simp only [TcpClient.dispatch, hnone, TcpClient.resume, hpc]

/-- A segment arrives. -/
theorem FeedsTcp.recv (h : FeedsTcp text w) (hbuf : w.client.buf = []) {seg : Bytes}
    {segments : List Bytes} (hseg : w.segments = seg :: segments) (i : FeedIn) :
    FeedsTcp text (w.next E C (.data seg) segments i) ∧
      (w.next E C (.data seg) segments i).todo ≤ w.todo - 1 := by
  obtain ⟨hne, hle⟩ := h.segments seg (by simp [hseg])
  obtain ⟨b, bs, rfl⟩ := List.exists_cons_of_ne_nil hne
  have hadv : w.client.advance id (.data (b :: bs)) =
      ({ w.client with buf := b :: bs }, false) := by
    rw [TcpClient.advance.eq_def, hbuf]
    dsimp only
    rw [List.take_of_length_le hle]
  have hnext : w.next E C (.data (b :: bs)) segments i =
      ⟨segments, { w.client with buf := b :: bs }, w.lines⟩ := by
    simp [TcpFeed.next, TcpClient.step, TcpClient.dispatches, h.pc, h.ota, hadv]
  rw [hnext]
  constructor
  · exact {
      pc := h.pc
      ota := h.ota
      segments := fun p hp => h.segments p (by simp [hseg, hp])
      lines := by
        have hlines := h.lines
        rw [hbuf, hseg] at hlines
        simpa using hlines }
  · simp only [TcpFeed.todo, hbuf, hseg, List.length_cons, List.flatten_cons, List.length_append,
      List.length_nil]
    omega

/-- Without a line end, the segment goes into the line. -/
theorem FeedsTcp.keep (h : FeedsTcp text w) {b : UInt8} {bs : Bytes}
    (hbuf : w.client.buf = b :: bs) (hsplit : lineSplit id (b :: bs) = none) (i : FeedIn) :
    FeedsTcp text (w.next E C (.data []) w.segments i) ∧
      (w.next E C (.data []) w.segments i).todo ≤ w.todo - 1 := by
  have hlines := h.lines
  have hno : 10 ∉ b :: bs := fun hmem => by simpa using Separator.split_eq_none hsplit 10 hmem
  have hadv : w.client.advance id (.data []) =
      ({ w.client with line := lineFill id w.client.line (b :: bs), buf := [] }, false) := by
    rw [TcpClient.advance.eq_def, hbuf]
    simp only [hsplit]
  have hnext : w.next E C (.data []) w.segments i =
      ⟨w.segments, { w.client with line := lineFill id w.client.line (b :: bs), buf := [] },
        w.lines⟩ := by
    simp [TcpFeed.next, TcpClient.step, TcpClient.dispatches, h.pc, h.ota, hadv]
  rw [hnext]
  constructor
  · exact {
      pc := h.pc
      ota := h.ota
      segments := h.segments
      lines := by
        rw [hbuf, bleLines_append hno] at hlines
        exact hlines }
  · simp only [TcpFeed.todo, hbuf, List.length_cons, List.length_nil]
    omega

/-- At a line end, the line is dispatched unless it is empty. -/
theorem FeedsTcp.lineEnd (h : FeedsTcp text w) (hota : ∀ line ∈ textLines text, NotOta line)
    {b : UInt8} {bs piece rest : Bytes} (hbuf : w.client.buf = b :: bs)
    (hsplit : lineSplit id (b :: bs) = some (piece, rest)) (i : FeedIn) :
    FeedsTcp text (w.next E C (.data []) w.segments i) ∧
      (w.next E C (.data []) w.segments i).todo ≤ w.todo - 1 := by
  have hlines := h.lines
  obtain ⟨c, hc, hcut, hpiece⟩ := Separator.split_eq_some hsplit
  obtain rfl : c = 10 := by simpa using hc
  have hno : 10 ∉ piece := fun hmem => by simpa using hpiece 10 hmem
  rw [hbuf, hcut, List.append_assoc, bleLines_append hno, List.cons_append, bleLines_cons]
    at hlines
  have hlen : (b :: bs).length = piece.length + (rest.length + 1) := by
    rw [hcut, List.length_append, List.length_cons]
  generalize hline : lineFill id w.client.line piece = line at hlines
  have hadv : w.client.advance id (.data []) =
      ({ w.client with line := line, buf := rest }, decide (line ≠ [])) := by
    rw [TcpClient.advance.eq_def, hbuf]
    simp only [hsplit, hline]
  by_cases hnil : line = []
  · subst hnil
    have hnext : w.next E C (.data []) w.segments i =
        ⟨w.segments, { w.client with line := [], buf := rest }, w.lines⟩ := by
      simp [TcpFeed.next, TcpClient.step, TcpClient.dispatches, h.pc, h.ota, hadv]
    rw [hnext]
    constructor
    · exact {
        pc := h.pc
        ota := h.ota
        segments := h.segments
        lines := by simpa using hlines }
    · simp only [TcpFeed.todo, hbuf, hlen]
      omega
  · have hnot : NotOta line := hota line (by rw [← hlines]; simp [hnil])
    obtain ⟨authed, hdispatch⟩ := dispatch_of_notOta (E := E)
      ⟨.data [], i.cmd, i.stack, i.mallocOk⟩ (c := { w.client with line := line, buf := rest })
      i.state i.log h.pc hnot
    have hnext : w.next E C (.data []) w.segments i =
        ⟨w.segments, { w.client with authed := authed, line := [], buf := rest, ota := none },
          w.lines ++ [line]⟩ := by
      simp only [TcpFeed.next, TcpClient.step, TcpClient.dispatches, hadv]
      simp only [h.pc, h.ota, hnil, ne_eq, not_false_eq_true, decide_true, if_true]
      simp only [h.pc, h.ota] at hdispatch
      rw [hdispatch]
      rfl
    rw [hnext]
    constructor
    · exact {
        pc := h.pc
        ota := rfl
        segments := h.segments
        lines := by
          rw [List.filter_cons_of_pos (by simpa using hnil), List.filter_nil] at hlines
          rw [List.append_assoc]
          exact hlines }
    · simp only [TcpFeed.todo, hbuf, hlen]
      omega

/-- The segment is searched for the next line end. -/
theorem FeedsTcp.scan (h : FeedsTcp text w) (hota : ∀ line ∈ textLines text, NotOta line)
    (hbuf : w.client.buf ≠ []) (i : FeedIn) :
    FeedsTcp text (w.next E C (.data []) w.segments i) ∧
      (w.next E C (.data []) w.segments i).todo ≤ w.todo - 1 := by
  obtain ⟨b, bs, hbuf⟩ := List.exists_cons_of_ne_nil hbuf
  cases hsplit : lineSplit id (b :: bs) with
  | none => exact h.keep hbuf hsplit i
  | some cut =>
    obtain ⟨piece, rest⟩ := cut
    exact h.lineEnd hota hbuf hsplit i

/-- **A step over TCP** keeps the lines, and takes a byte or a segment. -/
theorem FeedsTcp.step (h : FeedsTcp text w) (hota : ∀ line ∈ textLines text, NotOta line)
    (i : FeedIn) :
    FeedsTcp text (w.step E C i) ∧ (w.step E C i).todo ≤ w.todo - 1 := by
  unfold TcpFeed.step
  split
  · next hasks => exact h.scan hota (h.asks.mp hasks) i
  · next hasks =>
    have hbuf : w.client.buf = [] := by
      by_contra hne
      exact hasks (h.asks.mpr hne)
    split
    · next hseg =>
      refine ⟨h, ?_⟩
      simp [TcpFeed.todo, hbuf, hseg]
    · next seg segments hseg => exact h.recv hbuf hseg i

end

/-! ## The text over BLE -/

/-- A link whose text arrives in writes to the RX characteristic: those that are still to come, the
command context, and the lines it has given to `cmd_dispatch_line`. -/
structure BleFeed where
  writes : List Bytes
  cli : BleCmd
  lines : List Bytes

/-- A new connection, whatever the context was before. -/
def BleFeed.start (b : BleCmd) (writes : List Bytes) : BleFeed := ⟨writes, bleCmdOnConnect b, []⟩

/-- One step: an iteration of the loop in `ble_cmd_on_rx`, or the call with the next write. -/
def BleFeed.step (w : BleFeed) (i : FeedIn) : BleFeed :=
  match w.cli.rx, w.writes with
  | [], [] => w
  | [], data :: writes => { w with writes := writes, cli := bleCmdOnRx data w.cli }
  | _ :: _, _ =>
    { w with
      cli := (bleCmdByte i.cmd w.cli i.state).1
      lines := w.lines ++ w.cli.dispatches.toList }

/-- The lines dispatched, and those the buffer and the bytes to come make up, are the lines of the
text. -/
structure FeedsBle (text : Bytes) (w : BleFeed) : Prop where
  lines : w.lines ++ bleLines w.cli.line (w.cli.rx ++ w.writes.flatten) = textLines text

/-- The bytes and the writes that are still to be taken. -/
def BleFeed.todo (w : BleFeed) : Nat :=
  w.cli.rx.length + w.writes.length + w.writes.flatten.length

/-- What an iteration does with the line. -/
theorem bleLines_byte (x : CmdAnswers) {b : BleCmd} (s : CmdState) (hrx : b.rx ≠ [])
    (rest : Bytes) :
    bleLines b.line (b.rx ++ rest) = b.dispatches.toList ++
      bleLines (bleCmdByte x b s).1.line ((bleCmdByte x b s).1.rx ++ rest) := by
  obtain ⟨c, rx, hrx⟩ := List.exists_cons_of_ne_nil hrx
  rw [BleCmd.dispatches.eq_def, bleCmdByte.eq_def, hrx, List.cons_append]
  by_cases hc : c = 10
  · rw [hc, bleLines_cons]
    by_cases hline : b.line = []
    · simp [hline]
    · simp [hline]
  · simp [bleLines, hc]

/-- **A step over BLE** keeps the lines, and takes a byte or a write. -/
theorem FeedsBle.step {text : Bytes} {w : BleFeed} (h : FeedsBle text w) (i : FeedIn) :
    FeedsBle text (w.step i) ∧ (w.step i).todo ≤ w.todo - 1 := by
  have hlines := h.lines
  unfold BleFeed.step
  split
  · next hrx hwrites =>
    refine ⟨h, ?_⟩
    simp [BleFeed.todo, hrx, hwrites]
  · next data writes hrx hwrites =>
    constructor
    · refine ⟨?_⟩
      rw [hrx, hwrites] at hlines
      exact hlines
    · simp only [BleFeed.todo, bleCmdOnRx, hrx, hwrites, List.length_cons, List.flatten_cons,
        List.length_append, List.length_nil]
      omega
  · next c rx hrx =>
    constructor
    · refine ⟨?_⟩
      rw [bleLines_byte i.cmd i.state (by simp [hrx]), ← List.append_assoc] at hlines
      exact hlines
    · simp only [BleFeed.todo, rx_bleCmdByte, hrx, List.tail_cons, List.length_cons]
      omega

/-! ## Both -/

section
variable (E : FlashEnv) (C : Crc32) {text : Bytes} {segments writes : List Bytes}

/-- Once the stream is read, the task has dispatched the lines of the text. -/
theorem tcpFeed_lines (hsegments : CutInto clientBufSz text segments)
    (hota : ∀ line ∈ textLines text, NotOta line) {is : List FeedIn}
    (hlen : 2 * text.length ≤ is.length) :
    (Run.exec (TcpFeed.step E C) (.start segments) is).lines = textLines text := by
  have hstart : FeedsTcp text (.start segments) := {
    pc := rfl
    ota := rfl
    segments := hsegments.piece
    lines := by
      rw [← bleLines_eq_textLines, ← hsegments.flatten]
      rfl }
  have htodo : (TcpFeed.start segments).todo ≤ is.length := by
    have hle := hsegments.length_le
    simp only [TcpFeed.todo, TcpFeed.start, TcpClient.start, List.length_nil, hsegments.flatten]
    omega
  obtain ⟨hend, hzero⟩ := Run.exec_exhausts (fun w i (h : FeedsTcp text w) => h.step hota i)
    hstart htodo
  -- nothing is left, and what the buffer holds is no line
  generalize Run.exec (TcpFeed.step E C) (.start segments) is = w at hend hzero ⊢
  have hbuf : w.client.buf ++ w.segments.flatten = [] := by
    rw [← List.length_eq_zero_iff, List.length_append]
    rw [TcpFeed.todo] at hzero
    omega
  have hlines := hend.lines
  rw [hbuf] at hlines
  simpa [bleLines] using hlines

/-- Once the writes are gone through, the link has dispatched the lines of the text. -/
theorem bleFeed_lines (hwrites : CutInto 65535 text writes) (b : BleCmd) {is : List FeedIn}
    (hlen : 2 * text.length ≤ is.length) :
    (Run.exec BleFeed.step (.start b writes) is).lines = textLines text := by
  have hstart : FeedsBle text (.start b writes) := {
    lines := by
      rw [← bleLines_eq_textLines, ← hwrites.flatten]
      rfl }
  have htodo : (BleFeed.start b writes).todo ≤ is.length := by
    have hle := hwrites.length_le
    simp only [BleFeed.todo, BleFeed.start, bleCmdOnConnect, List.length_nil, hwrites.flatten]
    omega
  obtain ⟨hend, hzero⟩ := Run.exec_exhausts (fun w i (h : FeedsBle text w) => h.step i)
    hstart htodo
  generalize Run.exec BleFeed.step (.start b writes) is = w at hend hzero ⊢
  have hrx : w.cli.rx ++ w.writes.flatten = [] := by
    rw [← List.length_eq_zero_iff, List.length_append]
    rw [BleFeed.todo] at hzero
    omega
  have hlines := hend.lines
  rw [hrx] at hlines
  simpa [bleLines] using hlines

/-- **The same lines.** For every text without an OTA command, however it is cut into segments of at
most 256 bytes and into writes of at most 65535, both transports give the same lines to
`cmd_dispatch_line`: those of the text. The commands may answer anything, and other tasks may run in
between. -/
theorem same_lines (hsegments : CutInto clientBufSz text segments)
    (hwrites : CutInto 65535 text writes) (hota : ∀ line ∈ textLines text, NotOta line)
    (b : BleCmd) {tcpIn bleIn : List FeedIn} (htcp : 2 * text.length ≤ tcpIn.length)
    (hble : 2 * text.length ≤ bleIn.length) :
    (Run.exec (TcpFeed.step E C) (.start segments) tcpIn).lines = textLines text ∧
      (Run.exec BleFeed.step (.start b writes) bleIn).lines = textLines text :=
  ⟨tcpFeed_lines E C hsegments hota htcp, bleFeed_lines hwrites b hble⟩

end

/-- A platform on which nothing fails. -/
def feedIn : FeedIn where
  cmd := ⟨.ok, .factory⟩
  stack := .zero
  mallocOk := true
  state := ⟨.boot none, .boot ⟨[], [], true⟩ none none none⟩
  log := []

/-- A line, an empty one and the beginning of a third, in two segments and in one write. -/
theorem same_lines_small :
    let text := lit "ping\r\n\r\nver"
    (Run.exec (TcpFeed.step ota0Env romCrc32) (.start [text.take 5, text.drop 5])
        (List.replicate 22 feedIn)).lines = [lit "ping"] ∧
      (Run.exec BleFeed.step (.start .create [text]) (List.replicate 22 feedIn)).lines =
        [lit "ping"] := by
  have hlines : textLines (lit "ping\r\n\r\nver") = [lit "ping"] := by decide
  have hcall : cmdDispatchLine (lit "ping") true = .called ⟨lit "ping", false, .ping⟩ [] := by
    decide
  have hota : ∀ line ∈ textLines (lit "ping\r\n\r\nver"), NotOta line := by
    intro line hline
    rw [hlines, List.mem_singleton] at hline
    rw [hline]
    exact notOta_of_called hcall (by decide)
  have hsegments : CutInto clientBufSz (lit "ping\r\n\r\nver")
      [(lit "ping\r\n\r\nver").take 5, (lit "ping\r\n\r\nver").drop 5] :=
    ⟨List.take_append_drop .., by decide⟩
  have hwrites : CutInto 65535 (lit "ping\r\n\r\nver") [lit "ping\r\n\r\nver"] :=
    ⟨List.flatten_singleton, by decide⟩
  have hlen : 2 * (lit "ping\r\n\r\nver").length ≤ (List.replicate 22 feedIn).length := by decide
  have hsame := same_lines ota0Env romCrc32 hsegments hwrites hota .create hlen hlen
  rw [hlines] at hsame
  exact hsame

end RemoteControl
