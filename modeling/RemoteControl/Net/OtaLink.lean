import RemoteControl.Ble.Delivery
import RemoteControl.Cmd.Grammar
import RemoteControl.Net.RequestReply
import RemoteControl.Ota.EndToEnd

/-!
# An update over TCP, both ends (`ota_tcp` in `app/tcp_client.py`, `tcp_client.c`, `ota_handler.c`)

The host sends a header line, waits for a line with `ACK` in it, sends the image in chunks and its
CRC, reads one more line and closes the socket. On the device the same bytes go through
`client_task`, which takes the header, and through the call of `ota_perform` it makes. `OtaLink` is
one connection with both ends and the bytes under way in either direction. The network cuts and
delays them as it likes, every call on the host can fail in the middle, and the connection can
break. What `cmd_dispatch_line` answers goes back as well, so that the host may take it for the
`ACK`.

`calls` is not in the code: it counts the calls of `ota_perform`.
-/

namespace RemoteControl

open CString

/-! ## The host -/

/-- The line `OTA {size} {crc32:08X}`. -/
def otaHeader (data : Bytes) : Bytes :=
  lit "OTA" ++ (lit " " ++
    (formatNat 10 data.length ++ (lit " " ++ formatNatPad 8 16 (zlibCrc32 data).toNat)))

/-- `struct.pack("<I", crc32)`. -/
def otaTrailer (data : Bytes) : Bytes := packLe 4 (zlibCrc32 data).toNat

/-- `CHUNK`. -/
def hostChunk : Nat := 16 * 1024

/-- The call `ota_tcp` is at: `sendall` of the header; `_recvline` of the answer; `sendall` of the
chunk at `off`, or of the CRC behind the last one; `_recvline` of the result. Or it has closed the
socket, with the upload complete or not. -/
inductive OtaTcpPc where
  | header
  | ack
  | chunk (off : Nat)
  | result
  | left (complete : Bool)
  deriving DecidableEq

/-- `"ACK" in ack.upper()`. No character but those of ASCII has a letter of `ACK` next to another in
its upper case. -/
def acked (text : List Char) : Bool :=
  (text.map Char.toUpper).tails.any fun tail => "ACK".toList.isPrefixOf tail

section
variable (data : Bytes)

/-- What a `sendall` sends. -/
def OtaTcpPc.sends : OtaTcpPc → Bytes
  | .header => otaHeader data ++ [10]
  | .chunk off => if off < data.length then (data.drop off).take hostChunk else otaTrailer data
  | .ack | .result | .left _ => []

/-- Where `ota_tcp` goes on, after a `_recvline` with the line it has read. -/
def OtaTcpPc.next (text : List Char) : OtaTcpPc → OtaTcpPc
  | .header => .ack
  | .ack => if acked text then .chunk 0 else .left false
  | .chunk off => if off < data.length then .chunk (off + hostChunk) else .result
  | .result => .left true
  | .left complete => .left complete

/-- The payload and the trailer that are still to be sent. -/
def OtaTcpPc.rest : OtaTcpPc → Bytes
  | .header | .ack => data ++ otaTrailer data
  | .chunk off => data.drop off ++ otaTrailer data
  | .result | .left _ => []

end

/-! ## The connection -/

/-- A connection: the host, what is under way to the device and to the host, whether the connection
is broken, the task of the device with the flash log, and its messages on the bus. -/
structure OtaLink where
  host : OtaTcpPc
  up : Bytes
  down : Bytes
  broken : Bool
  client : TcpClient UInt8
  log : FlashLog
  posted : Nat
  calls : Nat

/-- What a step of the task gets from the rest of the device: the answers to the handlers, whether
there is a bus and whether it is full, what `ota_perform` finds in its session object and gets from
`malloc`, and the statics. -/
structure DeviceIn where
  cmd : CmdAnswers
  image : ImageAnswers
  ready : Bool
  full : Bool
  stack : OtaSession
  mallocOk : Bool
  state : CmdState

/-- A connection on which every reply has been read. -/
def OtaLink.open (authed : Bool) (log : FlashLog) : OtaLink :=
  ⟨.header, [], [], false, ⟨.reading, authed, [], [], none⟩, log, 0, 0⟩

/-- Lines with their line ends. -/
def wireLines (lines : List Bytes) : Bytes := (lines.map (· ++ [10])).flatten

section
variable (E : FlashEnv) (data : Bytes)

/-- The size with which a step of the task calls `ota_perform`. -/
def TcpClient.enters (i : DeviceIn) (r : Recv UInt8) (c : TcpClient UInt8) : Option Nat :=
  (c.dispatches id r).bind fun line => (cmdLine i.cmd .tcp line c.authed i.state).ota

/-- What a step of the task sends, and how many messages it posts. -/
def TcpClient.out (i : DeviceIn) (r : Recv UInt8) (c : TcpClient UInt8) (log : FlashLog) :
    Bytes × Nat :=
  match c.dispatches id r, c.ota with
  | some line, _ =>
    match (cmdLine i.cmd .tcp line c.authed i.state).ota with
    | some size =>
      (wireLines (otaPerformEnter (β := UInt8) E i.stack i.mallocOk size log).1.sent, 0)
    | none =>
      match lineAnswer i.ready i.cmd i.image line c.authed i.state with
      | none => ([], 0)
      | some (.now text) => (text, 0)
      | some (.posted _ _) => if i.full then (lit "BUS_FULL\n", 0) else ([], 1)
  | none, some t =>
    (wireLines ((otaPerformRecv id E romCrc32 r t log).1.sent.drop t.sent.length), 0)
  | none, none => ([], 0)

/-- What the device sends is under way, unless the connection is broken. -/
def OtaLink.send (text : Bytes) (w : OtaLink) : OtaLink :=
  if w.broken then w else { w with down := w.down ++ text }

/-- A step of the task in which `recv` returns `r`. -/
def OtaLink.deviceStep (i : DeviceIn) (r : Recv UInt8) (w : OtaLink) : OtaLink :=
  let (c, _, log) := w.client.step id E romCrc32 ⟨r, i.cmd, i.stack, i.mallocOk⟩ i.state w.log
  let (text, posted) := w.client.out E i r w.log
  { w with
    client := c
    log := log
    up := w.up.drop r.taken
    posted := w.posted + posted
    calls := w.calls + if (w.client.enters i r).isSome then 1 else 0 }.send text

/-- What `recv` returns, of what has arrived at most `n + 1` bytes; `none` while it waits. Where the
task is at no `recv`, the answer is not used. -/
def OtaLink.recv (n : Nat) (w : OtaLink) : Option (Recv UInt8) :=
  if w.client.asks = 0 then some .eintr
  else if w.broken then some .err
  else if w.up ≠ [] then some (.data (w.up.take (min (n + 1) w.client.asks)))
  else
    match w.host with
    | .left _ => some (.data [])
    | .header | .ack | .chunk _ | .result => none

/-- The device has closed the socket: the task is done, or `ota_perform` has succeeded. -/
def OtaLink.deviceClosed (w : OtaLink) : Bool :=
  w.client.pc = .closed || w.client.ota.any (·.pc = .restarting)

/-- `_recvline`: what it collects and what it leaves; `none` while it waits. -/
def OtaLink.hostLine (w : OtaLink) : Option (Bytes × Bytes) :=
  match recvLine recvlineMax w.down with
  | some r => some r
  | none => if w.deviceClosed then some (w.down.filter (· ≠ 13), []) else none

/-- The call the host is at, if it does not wait in it. -/
def OtaLink.hostStep (w : OtaLink) : OtaLink :=
  match w.host with
  | .header | .chunk _ =>
    { w with up := w.up ++ w.host.sends data, host := w.host.next data [] }
  | .ack | .result =>
    match w.hostLine with
    | none => w
    | some (got, rest) => { w with down := rest, host := w.host.next data (pyText got) }
  | .left _ => w

/-- What happens: the call of the host, or its failure, a timeout, a lost connection or Ctrl-C, with
`n` bytes of a `sendall` gone out; a step of the task on the device, or a timeout of its `recv`,
which `ota_perform` has set for the socket; the connection breaks; the router replies. -/
inductive OtaLinkEv where
  | host
  | hostFails (n : Nat)
  | device (i : DeviceIn) (n : Nat)
  | timeout (i : DeviceIn)
  | reset
  | reply (text : Bytes)

/-- One step. -/
def OtaLink.step (w : OtaLink) : OtaLinkEv → OtaLink
  | .host => w.hostStep data
  | .hostFails n =>
    match w.host with
    | .left _ => w
    | .header | .ack | .chunk _ | .result =>
      { w with up := w.up ++ (w.host.sends data).take n, host := .left false }
  | .device i n =>
    match w.recv n with
    | none => w
    | some r => w.deviceStep E i r
  | .timeout i => if w.calls = 0 ∨ w.client.asks = 0 then w else w.deviceStep E i .err
  | .reset => { w with broken := true }
  | .reply text => if w.posted = 0 then w else { w with posted := w.posted - 1 }.send text

/-- The device is about to restart: the update has succeeded. -/
def OtaLink.Restarting (w : OtaLink) : Prop := ∃ t, w.client.ota = some t ∧ t.pc = .restarting

end

/-! ## The header -/

/-- A digit is no blank. -/
theorem isBlank_of_isDigit {base : Nat} {c : UInt8} (h : isDigit base c = true) :
    isBlank c = false := by
  by_contra hblank
  have hle : c ≤ 32 := by simpa [isBlank] using hblank
  have hnone : digitVal c = none := by
    simp only [UInt8.le_iff_toNat_le, UInt8.toNat_ofNat] at hle
    simp only [digitVal, UInt8.le_iff_toNat_le, UInt8.toNat_ofNat]
    rw [if_neg (by omega), if_neg (by omega), if_neg (by omega)]
  rw [isDigit, hnone] at h
  cases h

/-- The digits of the CRC. -/
theorem isDigit_of_mem_formatNatPad {width n : Nat} {c : UInt8} (h : c ∈ formatNatPad width 16 n) :
    isDigit 16 c = true := by
  rcases List.mem_append.mp h with h | h
  · rw [List.eq_of_mem_replicate h]
    decide
  · exact isDigit_of_mem_formatNat (by decide) (by decide) h

section
variable {data : Bytes}

/-- The header is blanks and bytes above them. -/
theorem mem_otaHeader {c : UInt8} (h : c ∈ otaHeader data) : c = 32 ∨ isBlank c = false := by
  have hword : ∀ c ∈ lit "OTA" ++ lit " ", c = 32 ∨ isBlank c = false := by decide +kernel
  simp only [otaHeader, List.mem_append] at h
  rcases h with h | h | h | h | h
  · exact hword c (List.mem_append_left _ h)
  · exact hword c (List.mem_append_right _ h)
  · exact .inr (isBlank_of_isDigit (isDigit_of_mem_formatNat (by decide) (by decide) h))
  · exact hword c (List.mem_append_right _ h)
  · exact .inr (isBlank_of_isDigit (isDigit_of_mem_formatNatPad h))

/-- The header has no line end. -/
theorem lineEnd_notMem_otaHeader : 10 ∉ otaHeader data := by
  intro h
  rcases mem_otaHeader h with h | h <;> cases h

theorem length_otaHeader (hsize : data.length < 2 ^ 32) : (otaHeader data).length ≤ 23 := by
  have h10 : (formatNat 10 data.length).length ≤ 10 := length_formatNat_le (by omega)
  have h16 : (formatNat 16 (zlibCrc32 data).toNat).length ≤ 8 :=
    length_formatNat_le (zlibCrc32 data).toNat_lt
  have hlits : (lit "OTA").length = 3 ∧ (lit " ").length = 1 := by decide
  simp only [otaHeader, formatNatPad, List.length_append, List.length_replicate, hlits]
  omega

/-- The header goes into the line buffer as it is, in whatever pieces it comes. -/
theorem lineFill_otaHeader (hsize : data.length < 2 ^ 32) {line piece rest : Bytes}
    (h : line ++ (piece ++ rest) = otaHeader data) : lineFill id line piece = line ++ piece := by
  have hlen := length_otaHeader hsize
  induction piece generalizing line with
  | nil => rw [List.append_nil]; rfl
  | cons b piece ih =>
    have hb : b ∈ otaHeader data := by rw [← h]; simp
    have hcr : b ≠ 13 := by
      rintro rfl
      rcases mem_otaHeader hb with hb | hb <;> cases hb
    have hroom : line.length < lineMax := by
      have := congrArg List.length h
      simp only [List.length_append, List.length_cons] at this
      simp only [lineMax]
      omega
    have hpush : linePush id line b = line ++ [b] := by
      rw [linePush, id, if_neg hcr, if_pos hroom]
    rw [lineFill, List.foldl_cons, hpush, ← lineFill, ih (by rw [← h]; simp)]
    simp

/-- The parts of the header, as the dispatcher sees it. -/
theorem otaHeader_parts (data : Bytes) :
    LineParts (otaHeader data) [] (lit "OTA")
      (lit " " ++ (formatNat 10 data.length ++
        (lit " " ++ formatNatPad 8 16 (zlibCrc32 data).toNat))) [] where
  text := by simp only [otaHeader, List.nil_append, List.append_nil]
  lead_blank := List.forall_mem_nil _
  trail_blank := List.forall_mem_nil _
  name_ne := by decide
  name_word := by decide +kernel
  rest_head := by
    rintro _ ⟨⟩
    rfl
  rest_last := by
    intro c hc
    have hne : formatNatPad 8 16 (zlibCrc32 data).toNat ≠ [] := by
      simp [formatNatPad, formatNat_ne_nil]
    rw [Option.mem_def, List.getLast?_append, List.getLast?_append, List.getLast?_append,
      List.getLast?_eq_some_getLast hne] at hc
    cases hc
    exact isBlank_of_isDigit (isDigit_of_mem_formatNatPad (List.getLast_mem hne))

/-- The header is a call of `cmd_ota`, if the flag is set. -/
theorem otaHeader_effects (data : Bytes) (authed : Bool) :
    (cmdDispatchLine (otaHeader data) authed).effects =
      if !authed then [.reply (lit "DENIED\n")]
      else [.call .ota (formatNat 10 data.length ++
        (lit " " ++ formatNatPad 8 16 (zlibCrc32 data).toNat))] := by
  have hspelled : (⟨lit "ota", true, .ota⟩ : CmdEntry).Spelled (lit "OTA") := by
    show List.map toLower _ = _
    decide
  have hargs : restArgs (lit " " ++ (formatNat 10 data.length ++
      (lit " " ++ formatNatPad 8 16 (zlibCrc32 data).toNat))) = formatNat 10 data.length ++
        (lit " " ++ formatNatPad 8 16 (zlibCrc32 data).toNat) := by
    have hhead : ∀ c ∈ (formatNat 10 data.length ++
        (lit " " ++ formatNatPad 8 16 (zlibCrc32 data).toNat)).head?, isBlank c = false := by
      obtain ⟨d, ds, hds⟩ := List.exists_cons_of_ne_nil (formatNat_ne_nil 10 data.length)
      have hd : d ∈ formatNat 10 data.length := by rw [hds]; exact List.mem_cons_self
      rw [hds]
      rintro _ ⟨⟩
      exact isBlank_of_isDigit (isDigit_of_mem_formatNat (by decide) (by decide) hd)
    have hblank : ∀ c ∈ lit " ", isBlank c = true := by decide +kernel
    have hskip := lskipN_append hblank hhead
    rw [lskipN] at hskip
    rw [restArgs, hskip, untilNul]
    refine List.takeWhile_eq_self_iff.mpr fun c hc => ?_
    have hmem : c ∈ otaHeader data := by
      rw [otaHeader]
      exact List.mem_append_right _ (List.mem_append_right _ hc)
    have hne : c ≠ 0 := by
      rintro rfl
      rcases mem_otaHeader hmem with h | h <;> cases h
    simpa using hne
  rw [(otaHeader_parts data).effects_of_spelled (by decide) hspelled, hargs]
  rfl

/-- **What the header asks for.** -/
theorem otaArgs_otaHeader (hsize : data.length < 2 ^ 32) :
    otaArgs (otaHeader data) = some (data.length, (zlibCrc32 data).toNat) := by
  have heffects := otaHeader_effects data true
  have hsp : ∀ c ∈ lit " ", isSpace c = true := by decide +kernel
  have hten : scanUnsigned 10 ([] ++ (formatNat 10 data.length ++
      (lit " " ++ formatNatPad 8 16 (zlibCrc32 data).toNat))) =
        some (data.length, lit " " ++ formatNatPad 8 16 (zlibCrc32 data).toNat) :=
    scanUnsigned_formatNat_ten hsize (List.forall_mem_nil _) fun c hc => by cases hc; decide
  have hsixteen : scanUnsigned 16 (lit " " ++ formatNatPad 8 16 (zlibCrc32 data).toNat) =
      some ((zlibCrc32 data).toNat, []) :=
    scanUnsigned_formatNatPad_sixteen (zlibCrc32 data).toNat_lt hsp
  rw [List.nil_append] at hten
  cases hcall : cmdDispatchLine (otaHeader data) true with
  | ignored | replied => rw [hcall] at heffects; cases heffects
  | called entry args =>
    rw [hcall] at heffects
    obtain ⟨hfn, rfl⟩ := DispatchEffect.call.inj (List.singleton_inj.mp heffects)
    simp [otaArgs, hcall, hfn, scanSizeCrc, hten, hsixteen]

/-- A size of 0 is badly formed. -/
theorem cmdOta_zero {args : Bytes} {crc : Nat} (h : scanSizeCrc args = some (0, crc))
    (xport : CmdXport) : cmdOta xport args = .error (lit "BADFMT\n") := by
  rw [cmdOta, h]
  split <;> rfl

/-- The header of an empty image is answered at once. -/
theorem otaHeader_empty (hsize : data.length = 0) (i : CmdAnswers) (ready : Bool)
    (v : ImageAnswers) (s : CmdState) :
    cmdLine i .tcp (otaHeader data) true s = ⟨true, s, none⟩ ∧
      lineAnswer ready i v (otaHeader data) true s = some (.now (lit "BADFMT\n")) := by
  have hargs : otaArgs (otaHeader data) = some (data.length, (zlibCrc32 data).toNat) :=
    otaArgs_otaHeader (by omega)
  rw [hsize, otaArgs] at hargs
  split at hargs
  · next entry args hcall =>
    split at hargs
    · next hfn =>
      simp [cmdLine, lineAnswer, hcall, hfn, cmdRun, cmdAnswer, cmdOta_zero hargs, Except.toOption]
    · cases hargs
  · cases hargs
  · cases hargs

/-- Without the flag it is denied. -/
theorem otaHeader_denied (data : Bytes) :
    cmdDispatchLine (otaHeader data) false = .replied (lit "DENIED\n") := by
  have heffects := otaHeader_effects data false
  cases hcall : cmdDispatchLine (otaHeader data) false with
  | ignored | called => rw [hcall] at heffects; cases heffects
  | replied text =>
    rw [hcall] at heffects
    rw [DispatchEffect.reply.inj (List.singleton_inj.mp heffects)]

end

/-! ## The steps of the host -/

section
variable {data : Bytes}

/-- The payload and the trailer follow what is sent. -/
theorem OtaTcpPc.sends_prefix {pc : OtaTcpPc} (h : pc ≠ .header) :
    pc.sends data <+: pc.rest data := by
  cases pc with
  | header => exact absurd rfl h
  | ack | result | left => exact List.nil_prefix
  | chunk off =>
    simp only [sends, rest]
    split
    · exact (List.take_prefix _ _).trans (List.prefix_append _ _)
    · next hoff =>
      exact ⟨[], by
        rw [List.drop_eq_nil_of_le (Nat.not_lt.mp hoff), List.nil_append, List.append_nil]⟩

/-- A chunk leaves the next ones. -/
theorem OtaTcpPc.rest_chunk (off : Nat) (text : List Char) :
    (OtaTcpPc.chunk off).rest data =
      (OtaTcpPc.chunk off).sends data ++ ((OtaTcpPc.chunk off).next data text).rest data := by
  simp only [sends, next]
  split
  · simp only [rest]
    rw [← List.append_assoc, ← List.drop_drop, List.take_append_drop]
  · next hoff =>
    simp only [rest, List.drop_eq_nil_of_le (Nat.not_lt.mp hoff), List.nil_append, List.append_nil]

end

/-! ## The steps of the device -/

/-- What a `recv` takes of what has arrived. -/
theorem take_recv {up : Bytes} (hup : up ≠ []) (n : Nat) {m : Nat} (hm : 0 < m) :
    ∃ b bs rest, up.take (min (n + 1) m) = b :: bs ∧ up = b :: bs ++ rest ∧
      (b :: bs).length ≤ m ∧ up.drop (b :: bs).length = rest := by
  have hne : up.take (min (n + 1) m) ≠ [] := by
    have := List.length_pos_of_ne_nil hup
    refine List.ne_nil_of_length_pos ?_
    rw [List.length_take]
    omega
  obtain ⟨b, bs, hbs⟩ := List.exists_cons_of_ne_nil hne
  have hsplit : up = b :: bs ++ up.drop (min (n + 1) m) := by
    rw [← hbs, List.take_append_drop]
  have hlen : (b :: bs).length ≤ m := by
    rw [← hbs, List.length_take]
    omega
  refine ⟨b, bs, _, hbs, hsplit, hlen, ?_⟩
  conv_lhs => rw [hsplit]
  exact List.drop_left

section
variable {E : FlashEnv} {i : DeviceIn} {r : Recv UInt8} {w : OtaLink}

@[simp] theorem OtaLink.send_nil (w : OtaLink) : w.send [] = w := by
  unfold OtaLink.send
  split
  · rfl
  · rw [List.append_nil]

/-- What is sent changes only what is under way. -/
theorem OtaLink.send_eq (text : Bytes) (w : OtaLink) :
    ∃ down, w.send text = { w with down := down } := by
  unfold OtaLink.send
  split
  · exact ⟨w.down, rfl⟩
  · exact ⟨_, rfl⟩

/-- A step in `ota_perform`. -/
theorem OtaLink.deviceStep_inOta {t t' : TcpOta UInt8} {log' : FlashLog}
    (hpc : w.client.pc ≠ .closed) (hota : w.client.ota = some t)
    (h : otaPerformRecv id E romCrc32 r t w.log = (t', log')) :
    w.deviceStep E i r = { w with
      client := w.client.inOta t'
      log := log'
      up := w.up.drop r.taken }.send (wireLines (t'.sent.drop t.sent.length)) := by
  have hnone : w.client.dispatches id r = none := by
    unfold TcpClient.dispatches
    rw [hota]
    split <;> simp_all
  cases hc : w.client.pc with
  | closed => exact absurd hc hpc
  | reading | leaving =>
    simp [OtaLink.deviceStep, TcpClient.step, TcpClient.enters, TcpClient.out, hc, hota, hnone, h]

/-- A step of the loop that dispatches nothing. -/
theorem OtaLink.deviceStep_quiet {c : TcpClient UInt8} (hpc : w.client.pc = .reading)
    (hota : w.client.ota = none) (hadv : w.client.advance id r = (c, false)) :
    w.deviceStep E i r = { w with client := c, up := w.up.drop r.taken } := by
  have hnone : w.client.dispatches id r = none := by
    simp [TcpClient.dispatches, hpc, hota, hadv]
  simp [OtaLink.deviceStep, TcpClient.step, TcpClient.enters, TcpClient.out, hpc, hota, hadv, hnone]

/-- A step that dispatches a line which calls `ota_perform`. -/
theorem OtaLink.deviceStep_enters {c : TcpClient UInt8} {size : Nat} {t : TcpOta UInt8}
    {log' : FlashLog} (hpc : w.client.pc = .reading) (hota : w.client.ota = none)
    (hadv : w.client.advance id r = (c, true))
    (hline : cmdLine i.cmd .tcp c.line c.authed i.state = ⟨c.authed, i.state, some size⟩)
    (h : otaPerformEnter E i.stack i.mallocOk size w.log = (t, log')) :
    w.deviceStep E i r = { w with
      client := c.inOta t
      log := log'
      up := w.up.drop r.taken
      calls := w.calls + 1 }.send (wireLines t.sent) := by
  have hauth : c.authed = w.client.authed := by
    simpa [hadv] using @authed_advance UInt8 id r w.client
  have hsome : w.client.dispatches id r = some c.line := by
    simp [TcpClient.dispatches, hpc, hota, hadv]
  rw [hauth] at hline
  have hself : { c with authed := w.client.authed } = c := by rw [← hauth]
  simp [OtaLink.deviceStep, TcpClient.step, TcpClient.enters, TcpClient.out, TcpClient.dispatch,
    hpc, hota, hadv, hsome, hline, h, hauth, hself]

/-- The parts of a step of the task. -/
theorem OtaLink.deviceStep_parts (i : DeviceIn) (r : Recv UInt8) (w : OtaLink) :
    ∃ posted down, w.deviceStep E i r =
      ⟨w.host, w.up.drop r.taken, down, w.broken,
        (w.client.step id E romCrc32 ⟨r, i.cmd, i.stack, i.mallocOk⟩ i.state w.log).1,
        (w.client.step id E romCrc32 ⟨r, i.cmd, i.stack, i.mallocOk⟩ i.state w.log).2.2, posted,
        w.calls + if (w.client.enters i r).isSome then 1 else 0⟩ := by
  simp only [OtaLink.deviceStep]
  obtain ⟨down, hdown⟩ := OtaLink.send_eq (w.client.out E i r w.log).1 { w with
    client := (w.client.step id E romCrc32 ⟨r, i.cmd, i.stack, i.mallocOk⟩ i.state w.log).1
    log := (w.client.step id E romCrc32 ⟨r, i.cmd, i.stack, i.mallocOk⟩ i.state w.log).2.2
    up := w.up.drop r.taken
    posted := w.posted + (w.client.out E i r w.log).2
    calls := w.calls + if (w.client.enters i r).isSome then 1 else 0 }
  exact ⟨_, down, hdown⟩

/-- A step that dispatches a line which is answered at once. -/
theorem OtaLink.deviceStep_answers {c : TcpClient UInt8} {text : Bytes}
    (hpc : w.client.pc = .reading) (hota : w.client.ota = none)
    (hadv : w.client.advance id r = (c, true))
    (hline : cmdLine i.cmd .tcp c.line c.authed i.state = ⟨c.authed, i.state, none⟩)
    (hans : lineAnswer i.ready i.cmd i.image c.line c.authed i.state = some (.now text)) :
    w.deviceStep E i r = { w with client := c.resume, up := w.up.drop r.taken }.send text := by
  have hauth : c.authed = w.client.authed := by
    simpa [hadv] using @authed_advance UInt8 id r w.client
  have hsome : w.client.dispatches id r = some c.line := by
    simp [TcpClient.dispatches, hpc, hota, hadv]
  rw [hauth] at hline hans
  have hself : { c with authed := w.client.authed } = c := by rw [← hauth]
  simp [OtaLink.deviceStep, TcpClient.step, TcpClient.enters, TcpClient.out, TcpClient.dispatch,
    hpc, hota, hadv, hsome, hline, hans, hauth, hself]

/-- A task that has left its loop does not come back to it. -/
theorem TcpClient.inOta_left {c : TcpClient UInt8} (hpc : c.pc ≠ .reading) {t : TcpOta UInt8}
    (ht : t.pc ≠ .restarting) :
    (c.inOta t).pc ≠ .reading ∧ ∀ t', (c.inOta t).ota = some t' → t'.pc ≠ .restarting := by
  unfold TcpClient.inOta
  split
  · refine ⟨?_, by simp⟩
    unfold TcpClient.resume
    split
    · next hreading => exact absurd hreading hpc
    · simp
    · simp
  · exact ⟨hpc, fun t' ht' => Option.some.inj ht' ▸ ht⟩
  · exact ⟨hpc, fun t' ht' => Option.some.inj ht' ▸ ht⟩
  · next hres => exact absurd hres ht

/-- No `ota_perform` that such a task calls has succeeded when it is entered. -/
theorem TcpClient.dispatch_leaving {c : TcpClient UInt8} (hpc : c.pc = .leaving)
    (a : ClientAnswers UInt8) (s : CmdState) (log : FlashLog) :
    (c.dispatch id E a s log).1.pc ≠ .reading ∧
      ∀ t, (c.dispatch id E a s log).1.ota = some t → t.pc ≠ .restarting := by
  unfold TcpClient.dispatch
  dsimp only
  split
  · simp [TcpClient.resume, hpc]
  · next size _ =>
    obtain ⟨⟨t, log'⟩, henter⟩ :
      ∃ q, otaPerformEnter (β := UInt8) E a.stack a.mallocOk size log = q := ⟨_, rfl⟩
    rw [henter]
    refine TcpClient.inOta_left (by simp [hpc]) fun hres => ?_
    obtain ⟨-, -, ⟨e, ht⟩ | ⟨ht, -⟩⟩ := otaPerformEnter_cases _ _ _ _ henter
    · rw [ht] at hres; cases hres
    · rw [ht] at hres; cases hres

end

/-! ## The call of `ota_perform` -/

section
variable {E : FlashEnv} {C : Crc32} {mallocOk : Bool} {size : Nat} {stream : Bytes}
  {log₀ : FlashLog} {t t' : TcpOta UInt8} {log log' : FlashLog} {heap : List HeapCall}

/-- A call that has not come to its end waits for bytes. -/
theorem PerformState.asks_pos {unread : Bytes}
    (h : PerformState E C mallocOk size stream log₀ ⟨t, log, unread, heap⟩)
    (hloop : t.pc.ended = false) : 0 < t.asks := by
  cases h with
  | payload dst got hw hpc hgot =>
    change t.pc = _ at hpc
    simp only [TcpOta.asks, hpc]
    exact Nat.sub_pos_of_lt hgot
  | tail dst got hw hpc hgot =>
    change t.pc = _ at hpc
    simp only [TcpOta.asks, hpc]
    exact Nat.sub_pos_of_lt hgot
  | returned e hpc | restarting dst hpc =>
    rw [show t.pc = _ from hpc] at hloop
    cases hloop

/-- **Bytes that arrive** keep the call in one of its states. -/
theorem PerformState.recv {bs unread : Bytes}
    (h : PerformState E C mallocOk size stream log₀ ⟨t, log, bs ++ unread, heap⟩)
    (hne : bs ≠ []) (hle : bs.length ≤ t.asks)
    (hrecv : otaPerformRecv id E C (.data bs) t log = (t', log')) :
    ∃ heap', PerformState E C mallocOk size stream log₀ ⟨t', log', unread, heap'⟩ := by
  have hpos : 0 < bs.length := List.length_pos_of_ne_nil hne
  have hmin : min (bs.length - 1 + 1) t.asks = bs.length := by omega
  have hsock : sockRecv false t.asks (bs ++ unread) (some (bs.length - 1)) = .data bs := by
    rw [sockRecv, if_neg (by simp [hne]), hmin, List.take_left]
  have hstep := h.step false (some (bs.length - 1))
  simp only [PerformRun.step, hsock, hrecv, Recv.taken, List.drop_left] at hstep
  exact ⟨_, hstep⟩

/-- **A `recv` without bytes** ends it, and the boot partition is what it was. -/
theorem PerformState.recv_failed {r : Recv UInt8} {unread : Bytes}
    (h : PerformState E C mallocOk size stream log₀ ⟨t, log, unread, heap⟩)
    (hloop : t.pc.ended = false) (hr : r = .err ∨ r = .data [])
    (hrecv : otaPerformRecv id E C r t log = (t', log')) :
    (∃ e, t'.pc = .returned e) ∧ bootPartition log' = bootPartition log₀ := by
  -- the exit does not depend on what the stream would have brought
  have hcut : ∀ {dst} (hw : PerformRun.Writing E C mallocOk size log₀ dst ⟨t, log, unread, heap⟩)
      (line : Bytes), bootPartition (t.fail line .fail log).2 = bootPartition log₀ := by
    intro dst hw line
    have hshort : ([] : Bytes).length < size + 4 := Nat.succ_pos _
    cases hw.cutOff hshort line [] with
    | payload _ _ _ hpc | tail _ _ _ hpc | restarting _ hpc => cases hpc
    | returned e hpc hexit => exact hexit.leaves.1.boot
  cases h with
  | payload dst got hw hpc =>
    change t.pc = _ at hpc
    rcases hr with rfl | rfl
    all_goals
      simp only [otaPerformRecv, hpc] at hrecv
      have ht := congrArg Prod.fst hrecv
      have hlog := congrArg Prod.snd hrecv
      dsimp only at ht hlog
      rw [← ht, ← hlog]
      exact ⟨⟨.fail, rfl⟩, hcut hw _⟩
  | tail dst got hw hpc =>
    change t.pc = _ at hpc
    rcases hr with rfl | rfl
    all_goals
      simp only [otaPerformRecv, hpc] at hrecv
      have ht := congrArg Prod.fst hrecv
      have hlog := congrArg Prod.snd hrecv
      dsimp only at ht hlog
      rw [← ht, ← hlog]
      exact ⟨⟨.fail, rfl⟩, hcut hw _⟩
  | returned e hpc | restarting dst hpc =>
    rw [show t.pc = _ from hpc] at hloop
    cases hloop

/-- While it is in its loops, it has switched nothing. -/
theorem PerformState.boot {p : PerformRun} (h : PerformState E C mallocOk size stream log₀ p)
    (hpc : p.t.pc ≠ .restarting) : bootPartition p.log = bootPartition log₀ := by
  cases h with
  | payload dst got hw | tail dst got hw =>
    rw [hw.log_eq, openedLog]
    refine bootPartition_append _ fun q hq => ?_
    simp at hq
  | returned e hret hexit => exact hexit.leaves.1.boot
  | restarting dst hres => exact absurd hres hpc

end

end RemoteControl
