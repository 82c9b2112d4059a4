import RemoteControl.Ble.OtaAdapter
import RemoteControl.Lib.Subsequence
import RemoteControl.Ota.SessionRuns

/-!
# BLE-OTA delivery (`ble_client.py`, `ble_ota.c`)

The host announces an image with a START line and sends it as numbered frames, without waiting for
anything; the link may lose, duplicate and reorder them. The device takes a frame only when it
carries the next sequence number. `Delivered` says what that amounts to: whatever was delivered,
the flash driver was handed the payloads of the longest prefix of the frames that occurs in the
delivery in order, and the transfer is finished, once, when that prefix is all of them.
-/

namespace RemoteControl

open CString

/-! ## The host (`ble_ota_upload`) -/

/-- `zlib.crc32(data)`: the same fold as the ROM's, from 0. -/
def zlibCrc32 (data : Bytes) : UInt32 := romUpdate 0 data

/-- The line `BL_OTA START {size} {crc32:08X}`. -/
def startLine (size crc32 : Nat) : Bytes :=
  lit "BL_OTA START" ++ (lit " " ++ (formatNat 10 size ++ (lit " " ++ formatNatPad 8 16 crc32)))

/-- The CTRL write `ble_ota_upload` starts with. -/
def uploadStart (data : Bytes) : Bytes := startLine data.length (zlibCrc32 data).toNat

/-- `max(8, min(180, mtu - 3 - 6))`. -/
def framePayload (mtu : Nat) : Nat := max 8 (min 180 (mtu - 3 - 6))

/-- `struct.pack("<IH", seq, len(chunk)) + chunk`. -/
def uploadFrame (seq : Nat) (chunk : Bytes) : Bytes :=
  packLe 4 seq ++ (packLe 2 chunk.length ++ chunk)

/-- The `while off < size` loop, with the frames it writes; each turn advances `off`, so `size`
turns are enough. -/
def uploadLoop (data : Bytes) (payload : Nat) : Nat → Nat → Nat → List Bytes
  | 0, _, _ => []
  | fuel + 1, seq, off =>
    if off < data.length then
      let chunk := (data.drop off).take payload
      uploadFrame seq chunk :: uploadLoop data payload fuel (seq + 1) (off + chunk.length)
    else []

/-- The DATA writes of `ble_ota_upload`. -/
def uploadFrames (data : Bytes) (mtu : Nat) : List Bytes :=
  uploadLoop data (framePayload mtu) data.length 0 0

/-- The chunk a frame carries. -/
def frameChunk (frame : Bytes) : Bytes := frame.drop 6

/-! ## What the host sends -/

/-- The chunk of a frame is read back. -/
theorem frameChunk_uploadFrame (seq : Nat) (chunk : Bytes) :
    frameChunk (uploadFrame seq chunk) = chunk := by
  rw [frameChunk, uploadFrame, ← List.append_assoc]
  exact List.drop_left' (by rw [List.length_append, length_packLe, length_packLe])

/-- The device reads the fields of a frame back. -/
theorem uploadFrame_fields {seq : Nat} {chunk : Bytes} (hseq : seq < 2 ^ 32)
    (hlen : chunk.length < 2 ^ 16) :
    readLe 4 (uploadFrame seq chunk) = seq ∧
      readLe 2 ((uploadFrame seq chunk).drop 4) = chunk.length ∧
      (uploadFrame seq chunk).length = 6 + chunk.length ∧
      frameChunk (uploadFrame seq chunk) = chunk := by
  have h4 : (uploadFrame seq chunk).drop 4 = packLe 2 chunk.length ++ chunk :=
    List.drop_left' (length_packLe 4 seq)
  refine ⟨?_, ?_, ?_, ?_⟩
  · rw [uploadFrame, readLe_packLe]
    exact Nat.mod_eq_of_lt hseq
  · rw [h4, readLe_packLe]
    exact Nat.mod_eq_of_lt hlen
  · simp only [uploadFrame, List.length_append, length_packLe]
    omega
  · exact frameChunk_uploadFrame seq chunk

/-- The frames of an image: numbered from 0, not empty, at most 180 bytes each, and together the
image. -/
structure IsUpload (data : Bytes) (frames : List Bytes) : Prop where
  frame : ∀ i f, frames[i]? = some f →
    f = uploadFrame i (frameChunk f) ∧ frameChunk f ≠ [] ∧ (frameChunk f).length ≤ 180
  chunks : (frames.map frameChunk).flatten = data

/-- The loop numbers its frames from `seq` and sends the data from `off` on. -/
theorem uploadLoop_spec (data : Bytes) {payload : Nat} (hpos : 0 < payload) (hle : payload ≤ 180) :
    ∀ (fuel seq off : Nat), data.length ≤ off + fuel →
      (∀ i f, (uploadLoop data payload fuel seq off)[i]? = some f →
        f = uploadFrame (seq + i) (frameChunk f) ∧ frameChunk f ≠ [] ∧
          (frameChunk f).length ≤ 180) ∧
      ((uploadLoop data payload fuel seq off).map frameChunk).flatten = data.drop off
  | 0, seq, off, hfuel => by
    refine ⟨by simp [uploadLoop], ?_⟩
    rw [uploadLoop, List.drop_eq_nil_of_le (by omega)]
    rfl
  | fuel + 1, seq, off, hfuel => by
    rw [uploadLoop]
    split
    · next hoff =>
      generalize hc : (data.drop off).take payload = chunk
      have hlen : chunk.length = min payload (data.length - off) := by
        rw [← hc, List.length_take, List.length_drop]
      have hne : chunk ≠ [] := List.ne_nil_of_length_pos (by omega)
      have hfc := frameChunk_uploadFrame seq chunk
      have hpos' : 0 < chunk.length := List.length_pos_of_ne_nil hne
      obtain ⟨ihf, ihc⟩ := uploadLoop_spec data hpos hle fuel (seq + 1) (off + chunk.length)
        (by omega)
      refine ⟨?_, ?_⟩
      · intro i f hf
        cases i with
        | zero =>
          obtain rfl : uploadFrame seq chunk = f := by simpa using hf
          rw [hfc]
          exact ⟨rfl, hne, by omega⟩
        | succ i =>
          have := ihf i f (by simpa using hf)
          rwa [Nat.add_right_comm, Nat.add_assoc] at this
      · have hpre : chunk <+: data.drop off := hc ▸ List.take_prefix _ _
        rw [List.map_cons, List.flatten_cons, ihc, hfc, ← List.drop_drop]
        exact (List.prefix_iff_eq_append.mp hpre)
    · next hoff =>
      refine ⟨by simp, ?_⟩
      rw [List.drop_eq_nil_of_le (by omega)]
      rfl

theorem uploadFrames_isUpload (data : Bytes) (mtu : Nat) :
    IsUpload data (uploadFrames data mtu) := by
  have hpos : 0 < framePayload mtu := by unfold framePayload; omega
  have hle : framePayload mtu ≤ 180 := by unfold framePayload; omega
  obtain ⟨hf, hc⟩ := uploadLoop_spec data hpos hle data.length 0 0 (by omega)
  refine ⟨fun i f h => ?_, ?_⟩
  · have := hf i f h
    rwa [Nat.zero_add] at this
  · exact hc.trans (List.drop_zero ..)

/-- A line of the host's bytes reaches the parser as it is. -/
theorem ctrlLine_of_clean {line : Bytes} (hlen : line.length ≤ 127)
    (hclean : ∀ c ∈ line, c ≠ 0 ∧ c ≠ 13 ∧ c ≠ 10) : ctrlLine line = line := by
  have hnul : untilNul line = line :=
    List.takeWhile_eq_self_iff.mpr fun c hc => by simpa using (hclean c hc).1
  have hends : ∀ c ∈ line, (if c = 13 ∨ c = 10 then 32 else c) = id c := by
    intro c hc
    obtain ⟨-, hcr, hlf⟩ := hclean c hc
    exact if_neg (not_or.mpr ⟨hcr, hlf⟩)
  rw [ctrlLine, List.take_of_length_le hlen, hnul, List.map_congr_left hends, List.map_id]

/-- The START line is printable and fits the buffer. -/
theorem startLine_clean {size crc : Nat} (hsize : size < 2 ^ 32) (hcrc : crc < 2 ^ 32) :
    (startLine size crc).length ≤ 127 ∧ ∀ c ∈ startLine size crc, c ≠ 0 ∧ c ≠ 13 ∧ c ≠ 10 := by
  constructor
  · have h10 : (formatNat 10 size).length ≤ 10 := length_formatNat_le (by omega)
    have h16 : (formatNat 16 crc).length ≤ 8 := length_formatNat_le (by omega)
    have hs : (lit "BL_OTA START").length = 12 ∧ (lit " ").length = 1 := by decide
    simp only [startLine, formatNatPad, List.length_append, List.length_replicate, hs.1, hs.2]
    omega
  · have hdigit : ∀ {base : Nat} {c : UInt8}, isDigit base c = true →
        c ≠ 0 ∧ c ≠ 13 ∧ c ≠ 10 := by
      intro base c h
      refine ⟨?_, ?_, ?_⟩ <;> (rintro rfl; simp [isDigit, digitVal] at h)
    have hword : ∀ c ∈ lit "BL_OTA START" ++ lit " ", c ≠ 0 ∧ c ≠ 13 ∧ c ≠ 10 := by
      decide +kernel
    intro c hc
    simp only [startLine, formatNatPad, List.mem_append] at hc
    rcases hc with hc | hc | hc | hc | hc | hc
    · exact hword c (List.mem_append_left _ hc)
    · exact hword c (List.mem_append_right _ hc)
    · exact hdigit (isDigit_of_mem_formatNat (by decide) (by decide) hc)
    · exact hword c (List.mem_append_right _ hc)
    · rw [List.eq_of_mem_replicate hc]
      decide
    · exact hdigit (isDigit_of_mem_formatNat (by decide) (by decide) hc)

/-- The device reads the image's size and CRC from the host's START line. -/
theorem scanSizeCrc_startLine {size crc : Nat} (hsize : size < 2 ^ 32) (hcrc : crc < 2 ^ 32) :
    scanSizeCrc ((ctrlLine (startLine size crc)).drop 12) = some (size, crc) := by
  obtain ⟨hlen, hclean⟩ := startLine_clean hsize hcrc
  have hsp : ∀ c ∈ lit " ", isSpace c = true := by decide +kernel
  have hten : scanUnsigned 10 (lit " " ++ (formatNat 10 size ++
      (lit " " ++ formatNatPad 8 16 crc))) = some (size, lit " " ++ formatNatPad 8 16 crc) :=
    scanUnsigned_formatNat_ten hsize hsp fun c hc => by cases hc; decide
  have hsixteen : scanUnsigned 16 (lit " " ++ formatNatPad 8 16 crc) = some (crc, []) :=
    scanUnsigned_formatNatPad_sixteen hcrc hsp
  rw [ctrlLine_of_clean hlen hclean, startLine, List.drop_left' (by decide)]
  simp [scanSizeCrc, hten, hsixteen]

/-! ## The device -/

section
variable (E : FlashEnv) (C : Crc32)

/-- A DATA write, on the adapter and the flash. -/
def deliver (r : BleOta × FlashLog) (frame : Bytes) : BleOta × FlashLog :=
  bleOtaOnDataWrite E C frame r.1 r.2

/-- The chunks of the first `k` frames. -/
def sentChunks (frames : List Bytes) (k : Nat) : List Bytes := (frames.take k).map frameChunk

/-- The calls that hand these chunks to `esp_ota_write` on a handle, when all of them succeed. -/
def writeCalls (handle : Nat) (chunks : List Bytes) : FlashLog :=
  chunks.map fun c => .otaWrite handle c .ok

/-- The device has taken the first `k` frames of an unfinished transfer: the adapter, the session
and the flash agree on their chunks. -/
structure Receiving (data : Bytes) (frames : List Bytes) (start : BleOta × FlashLog)
    (k : Nat) (r : BleOta × FlashLog) : Prop where
  active : r.1.bo.active = true
  total : r.1.bo.total = data.length
  written : r.1.bo.written = (sentChunks frames k).flatten.length
  expectSeq : r.1.bo.expectSeq = k
  session : r.1.ble.active = true
  wr : r.1.ble.wr = start.1.ble.wr
  bytesExpected : r.1.ble.bytesExpected = data.length
  bytesWritten : r.1.ble.bytesWritten = (sentChunks frames k).flatten.length
  log : r.2 = start.2 ++ writeCalls start.1.ble.wr.handle (sentChunks frames k)
  finishes : r.1.finishes = start.1.finishes

/-- The device has taken all frames and finished the transfer in the state `last`. -/
structure Received (frames : List Bytes) (start : BleOta × FlashLog) (r : BleOta × FlashLog) :
    Prop where
  inactive : r.1.bo.active = false
  finishes : ∃ last : BleOtaState, last.expectSeq = frames.length ∧
    r.1.finishes = start.1.finishes ++ [last]
  log : ∃ tail, r.2 =
    start.2 ++ writeCalls start.1.ble.wr.handle (sentChunks frames frames.length) ++ tail ∧
      ∀ c ∈ tail, c.touches = false

/-- What the delivery `ws` of `frames` amounts to, `k` being the length of the longest prefix of the
frames that is a subsequence of it. The flash driver was handed exactly the chunks of that prefix,
in order. While frames are missing, the transfer is active, expects frame `k`, and the finish was
not called; when none is missing, the finish was called once, expecting frame `k`, and the transfer
is over. -/
structure Delivered (frames : List Bytes) (start : BleOta × FlashLog) (ws : List Bytes) (k : Nat) :
    Prop where
  longest : IsGreatest {k | k ≤ frames.length ∧ (frames.take k).Sublist ws} k
  handed : ∃ tail, (Run.exec (deliver E C) start ws).2 =
    start.2 ++ writeCalls start.1.ble.wr.handle (sentChunks frames k) ++ tail ∧
      ∀ c ∈ tail, c.touches = false
  ongoing : k < frames.length →
    (Run.exec (deliver E C) start ws).1.bo.active = true ∧
    (Run.exec (deliver E C) start ws).1.bo.expectSeq = k ∧
    (Run.exec (deliver E C) start ws).1.finishes = start.1.finishes
  finished : k = frames.length →
    (Run.exec (deliver E C) start ws).1.bo.active = false ∧
    ∃ last : BleOtaState, last.expectSeq = k ∧
      (Run.exec (deliver E C) start ws).1.finishes = start.1.finishes ++ [last]

variable {E C}

/-- The chunks of one more frame. -/
theorem sentChunks_succ {frames : List Bytes} {k : Nat} {f : Bytes} (h : frames[k]? = some f) :
    sentChunks frames (k + 1) = sentChunks frames k ++ [frameChunk f] := by
  simp [sentChunks, List.take_add_one, h]

theorem sentChunks_all {data : Bytes} {frames : List Bytes} (hu : IsUpload data frames) :
    (sentChunks frames frames.length).flatten = data := by
  rw [sentChunks, List.take_length, hu.chunks]

/-- What the first `k` frames carry is a part of the image, and all of it only for all frames. -/
theorem sentChunks_lt {data : Bytes} {frames : List Bytes} (hu : IsUpload data frames) {k : Nat}
    (hk : k < frames.length) : (sentChunks frames k).flatten.length < data.length := by
  obtain ⟨-, hne, -⟩ := hu.frame k frames[k] (List.getElem?_eq_getElem hk)
  have hsplit : frames = frames.take k ++ frames[k] :: frames.drop (k + 1) := by simp
  have hlen := congrArg (fun fs => ((fs.map frameChunk).flatten).length) hsplit
  have hpos := List.length_pos_of_ne_nil hne
  simp only [hu.chunks, List.map_append, List.map_cons, List.flatten_append, List.flatten_cons,
    List.length_append] at hlen
  rw [sentChunks]
  omega

/-- There are no more frames than bytes. -/
theorem IsUpload.length_le {data : Bytes} {frames : List Bytes} (hu : IsUpload data frames) :
    ∀ {k : Nat}, k ≤ frames.length → k ≤ (sentChunks frames k).flatten.length
  | 0, _ => Nat.zero_le _
  | k + 1, hk => by
    have hf := List.getElem?_eq_getElem (show k < frames.length by omega)
    obtain ⟨-, hne, -⟩ := hu.frame k _ hf
    have hpos := List.length_pos_of_ne_nil hne
    have ih := hu.length_le (show k ≤ frames.length by omega)
    rw [sentChunks_succ hf, List.flatten_append, List.length_append]
    simp only [List.flatten_cons, List.flatten_nil, List.append_nil]
    omega

variable {data : Bytes} {frames : List Bytes} {start r : BleOta × FlashLog}
  {k : Nat}

/-- What the device reads from the frame number `j` of an image that fits the partition. -/
theorem IsUpload.fields (hu : IsUpload data frames) (hdata : data.length < 2 ^ 32) {j : Nat}
    {f : Bytes} (hf : frames[j]? = some f) :
    j < frames.length ∧ j < 2 ^ 32 ∧ readLe 4 f = j ∧
      readLe 2 (f.drop 4) = (frameChunk f).length ∧ f.length = 6 + (frameChunk f).length := by
  obtain ⟨hlt, -⟩ := List.getElem?_eq_some_iff.mp hf
  have hj : j < 2 ^ 32 := by
    have := hu.length_le (Nat.le_of_lt hlt)
    have := sentChunks_lt hu hlt
    omega
  obtain ⟨heq, -, hle⟩ := hu.frame j f hf
  obtain ⟨h4, h2, hlen, -⟩ := uploadFrame_fields hj
    (show (frameChunk f).length < 2 ^ 16 by omega)
  rw [← heq] at h4 h2 hlen
  exact ⟨hlt, hj, h4, h2, hlen⟩

/-- A frame out of turn is dropped. -/
theorem Receiving.skip (h : Receiving data frames start k r) (hu : IsUpload data frames)
    (hdata : data.length < 2 ^ 32) {f : Bytes} (hmem : f ∈ frames) (hne : frames[k]? ≠ some f) :
    deliver E C r f = r := by
  obtain ⟨j, hj, rfl⟩ := List.mem_iff_getElem.mp hmem
  obtain ⟨-, -, h4, -, -⟩ := hu.fields hdata (List.getElem?_eq_getElem hj)
  have hnext : ¬ NextFrame r.1 frames[j] := by
    intro hf
    have hjk : j = k := (h4.symm.trans hf.seq).trans h.expectSeq
    subst hjk
    exact hne (List.getElem?_eq_getElem hj)
  exact bleOtaOnDataWrite_dropped E C hnext r.2

/-- The next frame is taken: its chunk is handed to `esp_ota_write`, and the last one finishes the
transfer. -/
theorem Receiving.take (h : Receiving data frames start k r) (hu : IsUpload data frames)
    (hdata : data.length < 2 ^ 32) (hwrite : ∀ i, E.fate .otaWrite i = .ok)
    (hhandle : start.1.ble.wr.handle ≠ 0) {f : Bytes} (hf : frames[k]? = some f) :
    (k + 1 < frames.length → Receiving data frames start (k + 1) (deliver E C r f)) ∧
      (k + 1 = frames.length → Received frames start (deliver E C r f)) := by
  obtain ⟨hk, hk32, h4, h2, hlen⟩ := hu.fields hdata hf
  obtain ⟨-, hne, -⟩ := hu.frame k f hf
  have hsucc := sentChunks_succ hf
  have hcount : (sentChunks frames (k + 1)).flatten.length =
      (sentChunks frames k).flatten.length + (frameChunk f).length := by
    rw [hsucc, List.flatten_append, List.length_append]
    simp
  have hle : (sentChunks frames (k + 1)).flatten.length ≤ data.length := by
    rcases Nat.lt_or_ge (k + 1) frames.length with hlt | hge
    · exact Nat.le_of_lt (sentChunks_lt hu hlt)
    · rw [show k + 1 = frames.length by omega, sentChunks_all hu]
  have hmod : (r.1.bo.written + (frameChunk f).length) % 2 ^ 32 =
      (sentChunks frames (k + 1)).flatten.length := by
    rw [h.written, ← hcount]
    exact Nat.mod_eq_of_lt (by omega)
  have hmod' : (r.1.ble.bytesWritten + (frameChunk f).length) % 2 ^ 32 =
      (sentChunks frames (k + 1)).flatten.length := by
    rw [h.bytesWritten, ← hcount]
    exact Nat.mod_eq_of_lt (by omega)
  obtain ⟨since, hw⟩ := otaSessionWrite_ok E C h.session hne (h.wr ▸ hhandle)
    (by rw [hmod', h.bytesExpected]; exact hle) (hwrite r.2.length)
  -- the frame passes every test of the handler, and the session takes its chunk
  have hstep : deliver E C r f = bleOtaTaken E (frameChunk f).length
      { r.1 with ble := { r.1.ble with
        bytesWritten := (sentChunks frames (k + 1)).flatten.length
        crcRunning := C.update r.1.ble.crcRunning (frameChunk f)
        sinceYield := since } }
      (start.2 ++ writeCalls start.1.ble.wr.handle (sentChunks frames (k + 1))) := by
    have hlog : r.2 ++ [FlashCall.otaWrite r.1.ble.wr.handle (frameChunk f) .ok] =
        start.2 ++ writeCalls start.1.ble.wr.handle (sentChunks frames (k + 1)) := by
      rw [h.log, h.wr, hsucc, writeCalls, writeCalls, List.map_append, List.append_assoc]
      rfl
    have hnext : NextFrame r.1 f := by
      refine ⟨h.active, by rw [h2, hlen], h4.trans h.expectSeq.symm, ?_⟩
      rw [h2, hmod, h.total]
      exact hle
    have hdata := bleOtaOnDataWrite_next E C hnext hw
    rw [if_neg (by simp), hmod', hlog] at hdata
    exact hdata
  obtain ⟨mark, sent, htaken⟩ := bleOtaTaken_spec E (frameChunk f).length
    { r.1 with ble := { r.1.ble with
      bytesWritten := (sentChunks frames (k + 1)).flatten.length
      crcRunning := C.update r.1.ble.crcRunning (frameChunk f)
      sinceYield := since } }
    (start.2 ++ writeCalls start.1.ble.wr.handle (sentChunks frames (k + 1)))
  have hseq : (r.1.bo.expectSeq + 1) % 2 ^ 32 = k + 1 := by
    rw [h.expectSeq]
    have := hu.length_le (show k + 1 ≤ frames.length from hk)
    exact Nat.mod_eq_of_lt (by omega)
  rw [hstep, htaken]
  dsimp only
  rw [hmod, h.total]
  constructor
  · intro hlt
    have hpart := sentChunks_lt hu hlt
    rw [if_neg (by omega)]
    exact {
      active := h.active
      total := h.total
      written := hmod
      expectSeq := hseq
      session := h.session
      wr := h.wr
      bytesExpected := h.bytesExpected
      bytesWritten := rfl
      log := rfl
      finishes := h.finishes }
  · intro hall
    rw [if_pos (by rw [hall, sentChunks_all hu])]
    obtain ⟨hbo, -, hfin, tail, htail, hclean⟩ := bleOtaFinalize_spec E _ _
    exact {
      inactive := by rw [hbo]; rfl
      finishes := ⟨_, hseq.trans hall, hfin.trans (congrArg (· ++ _) h.finishes)⟩
      log := ⟨tail, by rw [htail, hall], hclean⟩ }

/-- After the transfer nothing is taken any more. -/
theorem Received.skip (h : Received frames start r) (f : Bytes) : deliver E C r f = r := by
  have hnext : ¬ NextFrame r.1 f := fun hf => absurd (h.inactive.symm.trans hf.active) (by simp)
  exact bleOtaOnDataWrite_dropped E C hnext r.2

/-- **The run.** After any delivery of an image's frames the device has taken as many of them as a
receiver in order finds. -/
theorem receiving_exec (hu : IsUpload data frames) (hdata : data.length < 2 ^ 32)
    (hne : frames ≠ []) (hwrite : ∀ i, E.fate .otaWrite i = .ok)
    (hhandle : start.1.ble.wr.handle ≠ 0) (h0 : Receiving data frames start 0 start)
    (ws : List Bytes) (hws : ∀ w ∈ ws, w ∈ frames) :
    (Subsequence.matched frames ws < frames.length →
      Receiving data frames start (Subsequence.matched frames ws)
        (Run.exec (deliver E C) start ws)) ∧
    (Subsequence.matched frames ws = frames.length →
      Received frames start (Run.exec (deliver E C) start ws)) := by
  have hpos := List.length_pos_of_ne_nil hne
  induction ws using List.reverseRecOn with
  | nil =>
    rw [Subsequence.matched_nil_right]
    exact ⟨fun _ => h0, fun h => by omega⟩
  | append_singleton ws w ih =>
    obtain ⟨ihlt, iheq⟩ := ih fun v hv => hws v (by simp [hv])
    have hw : w ∈ frames := hws w (by simp)
    have hle := Subsequence.matched_le_length frames ws
    rw [Run.exec_concat, Subsequence.matched_concat]
    generalize Subsequence.matched frames ws = k at ihlt iheq hle ⊢
    generalize Run.exec (deliver E C) start ws = r at ihlt iheq ⊢
    rcases Nat.lt_or_eq_of_le hle with hlt | heq
    · have hr := ihlt hlt
      split
      · next hf => exact hr.take hu hdata hwrite hhandle hf
      · next hf =>
        rw [hr.skip hu hdata hw hf]
        exact ⟨fun _ => hr, fun h => by omega⟩
    · have hr := iheq heq
      have hnone : frames[k]? = none := by simp [heq]
      rw [if_neg (by simp [hnone]), hr.skip]
      exact ⟨fun h => by omega, fun _ => hr⟩

/-- An accepted START of the host leaves the device with nothing taken yet. -/
theorem receiving_start {mode : ScMode} {m m' : Monitor} {b b' : BleOta} {log log' : FlashLog}
    (hdata : data.length < 2 ^ 32)
    (hstart : bleOtaOnCtrlWrite E mode (uploadStart data) m b log = (m', b', log'))
    (hack : b'.sent = b.sent ++ [lit "ACK START"]) :
    Receiving data frames (b', log') 0 (b', log') ∧ b'.ble.wr.handle ≠ 0 := by
  obtain ⟨-, -, size, crc, dst, hscan, -, -, -, -, hb, hbo, -⟩ :=
    bleOtaOnCtrlWrite_accepted E hstart hack
  obtain ⟨rfl, rfl⟩ : data.length = size ∧ (zlibCrc32 data).toNat = crc := by
    rw [uploadStart, scanSizeCrc_startLine hdata (UInt32.toNat_lt _)] at hscan
    simpa using hscan
  constructor
  · exact {
      active := by rw [hbo]
      total := by rw [hbo]
      written := by rw [hbo]; rfl
      expectSeq := by rw [hbo]
      session := hb.active
      wr := rfl
      bytesExpected := hb.expected
      bytesWritten := hb.written
      log := (List.append_nil _).symm
      finishes := rfl }
  · rw [hb.wr]
    exact Nat.succ_ne_zero _

/-- **BLE-OTA delivery.** Let the device have accepted the host's START for a non-empty image that
fits the update partition, and let `esp_ota_write` not fail. Then after any sequence of DATA writes
that are frames of the image, however lost, repeated or reordered, the delivery is accounted for. -/
theorem bleOta_delivery (hwrite : ∀ i, E.fate .otaWrite i = .ok) {dst : Partition}
    (_hdst : E.next = some dst) (hne : data ≠ []) (hfit : data.length ≤ dst.size) (mtu : Nat)
    {mode : ScMode} {m : Monitor} {b : BleOta} {log : FlashLog}
    (hack : (bleOtaOnCtrlWrite E mode (uploadStart data) m b log).2.1.sent =
      b.sent ++ [lit "ACK START"])
    (ws : List Bytes) (hws : ∀ w ∈ ws, w ∈ uploadFrames data mtu) :
    ∃ k, Delivered E C (uploadFrames data mtu)
      (bleOtaOnCtrlWrite E mode (uploadStart data) m b log).2 ws k := by
  obtain ⟨⟨m', b', log'⟩, hstart⟩ :
    ∃ q, bleOtaOnCtrlWrite E mode (uploadStart data) m b log = q := ⟨_, rfl⟩
  rw [hstart] at hack ⊢
  have hdata : data.length < 2 ^ 32 := Nat.lt_of_le_of_lt hfit dst.size_lt
  have hu := uploadFrames_isUpload data mtu
  generalize uploadFrames data mtu = frames at hu hws ⊢
  have hframes : frames ≠ [] := by
    rintro rfl
    exact hne hu.chunks.symm
  obtain ⟨h0, hhandle⟩ := receiving_start hdata hstart hack
  obtain ⟨hlt, heq⟩ := receiving_exec (C := C) hu hdata hframes hwrite hhandle h0 ws hws
  have hlongest := Subsequence.matched_isGreatest frames ws
  have hle := Subsequence.matched_le_length frames ws
  generalize Subsequence.matched frames ws = k at hlt heq hlongest hle
  rcases Nat.lt_or_eq_of_le hle with hk | hk
  · have hr := hlt hk
    exact ⟨k, {
      longest := hlongest
      handed := ⟨[], by rw [hr.log, List.append_nil], nofun⟩
      ongoing := fun _ => ⟨hr.active, hr.expectSeq, hr.finishes⟩
      finished := fun h => absurd h (Nat.ne_of_lt hk) }⟩
  · have hr := heq hk
    obtain ⟨last, hlast, hfin⟩ := hr.finishes
    obtain ⟨tail, htail, hclean⟩ := hr.log
    exact ⟨k, {
      longest := hlongest
      handed := ⟨tail, by rw [htail, hk], hclean⟩
      ongoing := fun h => absurd hk (Nat.ne_of_lt h)
      finished := fun _ => ⟨hr.inactive, last, by rw [hlast, hk], hfin⟩ }⟩

/-- An image of fifteen bytes: two frames at the least MTU. -/
def smallImage : Bytes := List.replicate 15 0xE9

/-- The second frame overtakes the first, and both are repeated. -/
theorem bleOta_delivery_small :
    ∃ k, Delivered ota0Env romCrc32 (uploadFrames smallImage 23)
      (bleOtaOnCtrlWrite ota0Env .recovery (uploadStart smallImage) ⟨true, 0⟩ .init []).2
      (uploadFrames smallImage 23 ++ uploadFrames smallImage 23).reverse k :=
  bleOta_delivery (fun _ => rfl) rfl (by decide) (by decide) 23 (by decide +kernel) _ (by simp)

end

end RemoteControl
