import RemoteControl.Ota.Session
import RemoteControl.Sys.Syscoord

/-!
# OTA over BLE (`ble_ota.c`, the transport half of `ota_handler.c`)

The CTRL characteristic carries text lines, the DATA characteristic frames of a sequence number, a
length and a payload; both drive the one session object `s_ble`. The handlers take the adapter's
state and the flash log and return them. Two fields are not in the code: `finishes` collects `s_bo`
at every call of `ota_finish_xport`, and `restarted` says that `esp_restart` has been called, after
which the BLE task runs no handler any more.
-/

namespace RemoteControl

open CString

/-! ## State -/

/-- `ble_ota_state_t`. -/
structure BleOtaState where
  active : Bool
  total : Nat
  written : Nat
  expectCrc : Nat
  expectSeq : Nat
  nextProgMark : Nat
  deriving DecidableEq, Repr

/-- `s_bo` after `ble_ota_reset`. -/
def BleOtaState.zero : BleOtaState := ⟨false, 0, 0, 0, 0, 0⟩

/-- The statics `s_bo` and `s_ble`, and the lines sent through `ble_tx_send`. -/
structure BleOta where
  bo : BleOtaState
  ble : OtaSession
  sent : List Bytes
  finishes : List BleOtaState
  restarted : Bool
  deriving DecidableEq

/-- The adapter at boot. -/
def BleOta.init : BleOta := ⟨.zero, .zero, [], [], false⟩

/-- `ble_tx_send`. -/
def BleOta.send (line : Bytes) (b : BleOta) : BleOta := { b with sent := b.sent ++ [line] }

/-- `ble_ota_reset`. -/
def BleOta.reset (b : BleOta) : BleOta := { b with bo := .zero }

/-- The distance of the progress marks. -/
def progStep : Nat := 256 * 1024

variable (E : FlashEnv) (C : Crc32)

/-! ## The session behind it -/

/-- `ota_begin_xport`. -/
def otaBeginXport (totalSize : Nat) (crc32Expect : UInt32) (source : Bytes) (b : BleOta)
    (log : FlashLog) : EspErr × BleOta × FlashLog :=
  let (e, ble, log) := otaSessionBegin E b.ble totalSize crc32Expect
    (if source = [] then lit "BLE" else source) log
  (e, { b with ble := ble }, log)

/-- `ota_write_xport`. -/
def otaWriteXport (data : Bytes) (b : BleOta) (log : FlashLog) : EspErr × BleOta × FlashLog :=
  let (e, ble, log) := otaSessionWrite E C b.ble data log
  (e, { b with ble := ble }, log)

/-- `ota_finish_xport`. -/
def otaFinishXport (b : BleOta) (log : FlashLog) : EspErr × BleOta × FlashLog :=
  let (e, ble, log) := otaSessionFinish E b.ble log
  (e, { b with ble := ble, finishes := b.finishes ++ [b.bo] }, log)

/-- `ota_abort_xport`. -/
def otaAbortXport (b : BleOta) (log : FlashLog) : BleOta × FlashLog :=
  let (ble, log) := otaSessionAbort b.ble log
  ({ b with ble := ble }, log)

/-! ## The handlers -/

/-- The C string `ble_ota_on_ctrl_write` makes of the written bytes: at most 127 of them, with the
line ends blanked. -/
def ctrlLine (data : Bytes) : Bytes :=
  (untilNul (data.take 127)).map fun c => if c = 13 ∨ c = 10 then 32 else c

/-- `sscanf(s, "%u %x", &size, &crc)`, `none` unless both are converted. -/
def scanSizeCrc (s : Bytes) : Option (Nat × Nat) := do
  let (size, rest) ← scanUnsigned 10 s
  let (crc, _) ← scanUnsigned 16 rest
  return (size, crc)

/-- The START branch of `ble_ota_on_ctrl_write`. -/
def bleOtaStart (mode : ScMode) (line : Bytes) (m : Monitor) (b : BleOta) (log : FlashLog) :
    Monitor × BleOta × FlashLog :=
  if b.bo.active then (m, b.send (lit "ERR BUSY"), log)
  else
    match scanSizeCrc (line.drop 12) with
    | none => (m, b.send (lit "ERR BADFMT"), log)
    | some (size, crc) =>
      if size = 0 then (m, b.send (lit "ERR BADFMT"), log)
      else if mode ≠ .recovery then (m, b.send (lit "ERR FORBIDDEN"), log)
      else
        let (e, b, log) := otaBeginXport E size (UInt32.ofNat crc) (lit "BLE") b log
        if e ≠ .ok then (m, b.send (lit "ERR BEGIN"), log)
        else
          (healthMonitorControlOk m,
            { b with bo := ⟨true, size, 0, crc, 0, progStep⟩ }.send (lit "ACK START"), log)

/-- The FINISH branch of `ble_ota_on_ctrl_write`. -/
def bleOtaFinish (b : BleOta) (log : FlashLog) : BleOta × FlashLog :=
  if !b.bo.active then (b.send (lit "ERR NOACTIVE"), log)
  else
    let (e, b, log) := otaFinishXport E b log
    if e ≠ .ok then ((b.send (lit "ERR FINISH")).reset, log)
    else ({ (b.send (lit "OK REBOOTING")).reset with restarted := true }, log)

/-- The ABORT branch of `ble_ota_on_ctrl_write`. -/
def bleOtaAbort (b : BleOta) (log : FlashLog) : BleOta × FlashLog :=
  if !b.bo.active then (b.send (lit "ERR NOACTIVE"), log)
  else
    let (b, log) := otaAbortXport b log
    (b.reset.send (lit "OK ABORTED"), log)

/-- `ble_ota_on_ctrl_write`. -/
def bleOtaOnCtrlWrite (mode : ScMode) (data : Bytes) (m : Monitor) (b : BleOta) (log : FlashLog) :
    Monitor × BleOta × FlashLog :=
  if data = [] then (m, b, log)
  else
    let line := ctrlLine data
    if strnEq line (lit "BL_OTA START") 12 then bleOtaStart E mode line m b log
    else if strnEq line (lit "BL_OTA FINISH") 13 then (m, bleOtaFinish E b log)
    else if strnEq line (lit "BL_OTA ABORT") 12 then (m, bleOtaAbort b log)
    else (m, b.send (lit "ERR UNKNOWN"), log)

/-- The line `PROG <written>/<total>`. -/
def progLine (written total : Nat) : Bytes :=
  lit "PROG " ++ formatNat 10 written ++ lit "/" ++ formatNat 10 total

/-- The end of `ble_ota_on_data_write`, when the image is complete. -/
def bleOtaFinalize (b : BleOta) (log : FlashLog) : BleOta × FlashLog :=
  let (e, b, log) := otaFinishXport E b log
  if e ≠ .ok then
    let (b, log) := otaAbortXport (b.send (lit "ERR FINISH")) log
    (b.reset, log)
  else ({ (b.send (lit "OK REBOOTING")).reset with restarted := true }, log)

/-- What `ble_ota_on_data_write` does after a chunk of `blen` bytes was taken. -/
def bleOtaTaken (blen : Nat) (b : BleOta) (log : FlashLog) : BleOta × FlashLog :=
  let written := (b.bo.written + blen) % 2 ^ 32
  let bo : BleOtaState :=
    { b.bo with expectSeq := (b.bo.expectSeq + 1) % 2 ^ 32, written := written }
  let b : BleOta :=
    if bo.nextProgMark ≤ written ∨ written = bo.total then
      { b with bo := { bo with nextProgMark := (bo.nextProgMark + progStep) % 2 ^ 32 } }.send
        (progLine written bo.total)
    else { b with bo := bo }
  if written = b.bo.total then bleOtaFinalize E b log else (b, log)

/-- `ble_ota_on_data_write`. -/
def bleOtaOnDataWrite (data : Bytes) (b : BleOta) (log : FlashLog) : BleOta × FlashLog :=
  if !b.bo.active ∨ data.length < 6 then (b, log)
  else
    let seq := readLe 4 data
    let blen := readLe 2 (data.drop 4)
    if data.length ≠ 6 + blen then (b, log)
    else if seq ≠ b.bo.expectSeq then (b, log)
    else if b.bo.total < (b.bo.written + blen) % 2 ^ 32 then (b, log)
    else
      let (e, b, log) := otaWriteXport E C (data.drop 6) b log
      if e ≠ .ok then
        let (b, log) := otaAbortXport (b.send (lit "ERR WRITE")) log
        (b.reset, log)
      else bleOtaTaken E blen b log

/-- `ble_ota_on_disconnect`. -/
def bleOtaOnDisconnect (b : BleOta) (log : FlashLog) : BleOta × FlashLog :=
  if !b.bo.active then (b, log)
  else if b.bo.total ≤ b.bo.written ∧ 0 < b.bo.total then
    let (e, b, log) := otaFinishXport E b log
    if e = .ok then ({ b with restarted := true }, log)
    else
      let (b, log) := otaAbortXport b log
      (b.reset, log)
  else
    let (b, log) := otaAbortXport b log
    (b.reset, log)

/-! ## What the data path does -/

/-- The frame carries the next chunk of the transfer: it passes every test of the handler. -/
structure NextFrame (b : BleOta) (data : Bytes) : Prop where
  active : b.bo.active = true
  length : data.length = 6 + readLe 2 (data.drop 4)
  seq : readLe 4 data = b.bo.expectSeq
  fits : (b.bo.written + readLe 2 (data.drop 4)) % 2 ^ 32 ≤ b.bo.total

/-- The length field of such a frame is that of its chunk. -/
theorem NextFrame.length_chunk {b : BleOta} {data : Bytes} (h : NextFrame b data) :
    readLe 2 (data.drop 4) = (data.drop 6).length := by
  rw [List.length_drop, h.length]
  omega

/-- Any other frame is dropped. -/
theorem bleOtaOnDataWrite_dropped {b : BleOta} {data : Bytes} (h : ¬ NextFrame b data)
    (log : FlashLog) : bleOtaOnDataWrite E C data b log = (b, log) := by
  unfold bleOtaOnDataWrite
  split
  · rfl
  · next h1 =>
    dsimp only
    split
    · rfl
    · next h2 =>
      split
      · rfl
      · next h3 =>
        split
        · rfl
        · next h4 =>
          rw [not_or] at h1
          exact absurd
            ⟨by simpa using h1.1, not_not.mp h2, not_not.mp h3, Nat.not_lt.mp h4⟩ h

/-- The chunk of the next frame goes to the session; when that refuses it, the transfer is
aborted. -/
theorem bleOtaOnDataWrite_next {b : BleOta} {data : Bytes} (h : NextFrame b data) {log : FlashLog}
    {e : EspErr} {ble : OtaSession} {log' : FlashLog}
    (hw : otaSessionWrite E C b.ble (data.drop 6) log = (e, ble, log')) :
    bleOtaOnDataWrite E C data b log =
      if e ≠ .ok then
        (({ b.send (lit "ERR WRITE") with ble := (otaSessionAbort ble log').1 }).reset,
          (otaSessionAbort ble log').2)
      else bleOtaTaken E (data.drop 6).length { b with ble := ble } log' := by
  unfold bleOtaOnDataWrite otaWriteXport
  have hlong : ¬ data.length < 6 := by
    have := h.length
    omega
  rw [if_neg (by rw [h.active]; simpa using hlong)]
  dsimp only
  rw [if_neg (not_not.mpr h.length), if_neg (not_not.mpr h.seq),
    if_neg (Nat.not_lt.mpr h.fits), hw, h.length_chunk]
  rfl

/-- **The end of the data path.** The transfer is over, `ota_finish_xport` was called once, and no
byte is written any more. -/
theorem bleOtaFinalize_spec (b : BleOta) (log : FlashLog) :
    (bleOtaFinalize E b log).1.bo = .zero ∧ (bleOtaFinalize E b log).1.ble.active = false ∧
      (bleOtaFinalize E b log).1.finishes = b.finishes ++ [b.bo] ∧
      ∃ tail, (bleOtaFinalize E b log).2 = log ++ tail ∧ ∀ c ∈ tail, c.touches = false := by
  obtain ⟨⟨e, ble, log₁⟩, hf⟩ : ∃ q, otaSessionFinish E b.ble log = q := ⟨_, rfl⟩
  obtain ⟨hact, tail, rfl, htail⟩ := otaSessionFinish_log E b.ble log hf
  have habort : otaSessionAbort ble (log ++ tail) = (ble, log ++ tail) := by
    rw [otaSessionAbort_eq, hact]
    rfl
  simp only [bleOtaFinalize, otaFinishXport, otaAbortXport, BleOta.send, hf, habort]
  split <;> exact ⟨rfl, hact, rfl, tail, rfl, htail⟩

/-- The adapter after a chunk of `blen` bytes was taken: the counters advance, up to the progress
mark and the lines sent. -/
def BleOta.advance (blen mark : Nat) (sent : List Bytes) (b : BleOta) : BleOta :=
  { b with
    bo := { b.bo with
      expectSeq := (b.bo.expectSeq + 1) % 2 ^ 32
      written := (b.bo.written + blen) % 2 ^ 32
      nextProgMark := mark }
    sent := sent }

/-- After a chunk was taken, the counters advance; the transfer goes on or is finalized. -/
theorem bleOtaTaken_spec (blen : Nat) (b : BleOta) (log : FlashLog) :
    ∃ mark sent, bleOtaTaken E blen b log =
      if (b.bo.written + blen) % 2 ^ 32 = b.bo.total then
        bleOtaFinalize E (b.advance blen mark sent) log
      else (b.advance blen mark sent, log) := by
  by_cases hmark : b.bo.nextProgMark ≤ (b.bo.written + blen) % 2 ^ 32 ∨
      (b.bo.written + blen) % 2 ^ 32 = b.bo.total
  · refine ⟨(b.bo.nextProgMark + progStep) % 2 ^ 32,
      b.sent ++ [progLine ((b.bo.written + blen) % 2 ^ 32) b.bo.total], ?_⟩
    simp only [bleOtaTaken, if_pos hmark]
    rfl
  · refine ⟨b.bo.nextProgMark, b.sent, ?_⟩
    simp only [bleOtaTaken, if_neg hmark]
    rfl

/-! ## A START -/

/-- A START that gets as far as the session: it announces an image in RECOVERY, and no transfer is
under way. -/
structure StartsTransfer (mode : ScMode) (line : Bytes) (b : BleOta) (size crc : Nat) : Prop where
  idle : b.bo.active = false
  scan : scanSizeCrc (line.drop 12) = some (size, crc)
  size_ne : size ≠ 0
  recovery : mode = .recovery

/-- The transfer that a START announces is the one its line reads. -/
theorem StartsTransfer.unique {mode : ScMode} {line : Bytes} {b : BleOta}
    {size crc size' crc' : Nat} (h : StartsTransfer mode line b size crc)
    (h' : StartsTransfer mode line b size' crc') :
    size' = size ∧ crc' = crc := by
  have heq := h'.scan.symm.trans h.scan
  cases heq
  exact ⟨rfl, rfl⟩

/-- **What a START does.** It is answered with an error and leaves everything as it was; or the
session is asked to begin, and its result is answered. -/
theorem bleOtaStart_cases (mode : ScMode) (line : Bytes) (m : Monitor) (b : BleOta)
    (log : FlashLog) :
    ((∀ size crc, ¬ StartsTransfer mode line b size crc) ∧
      ∃ answer, answer ≠ lit "ACK START" ∧
        bleOtaStart E mode line m b log = (m, b.send answer, log)) ∨
    ∃ size crc, StartsTransfer mode line b size crc ∧
      ∃ e ble log', otaSessionBegin E b.ble size (UInt32.ofNat crc) (lit "BLE") log =
          (e, ble, log') ∧
        bleOtaStart E mode line m b log =
          if e ≠ .ok then (m, { b with ble := ble }.send (lit "ERR BEGIN"), log')
          else (healthMonitorControlOk m,
            { b with ble := ble, bo := ⟨true, size, 0, crc, 0, progStep⟩ }.send (lit "ACK START"),
            log') := by
  unfold bleOtaStart
  by_cases hact : b.bo.active = true
  · rw [if_pos hact]
    exact .inl ⟨fun _ _ h => absurd (hact.symm.trans h.idle) (by simp), _, by decide, rfl⟩
  rw [if_neg hact]
  cases hscan : scanSizeCrc (line.drop 12) with
  | none => exact .inl ⟨fun _ _ h => absurd (hscan.symm.trans h.scan) (by simp), _, by decide, rfl⟩
  | some read =>
    obtain ⟨size, crc⟩ := read
    dsimp only
    by_cases hsize : size = 0
    · rw [if_pos hsize]
      refine .inl ⟨fun _ _ h => ?_, _, by decide, rfl⟩
      cases hscan.symm.trans h.scan
      exact h.size_ne hsize
    rw [if_neg hsize]
    by_cases hmode : mode = .recovery
    · rw [if_neg (not_not.mpr hmode)]
      obtain ⟨⟨e, ble, log'⟩, hb⟩ : ∃ q, otaSessionBegin E b.ble size (UInt32.ofNat crc)
        (lit "BLE") log = q := ⟨_, rfl⟩
      have hsrc : (if lit "BLE" = [] then lit "BLE" else lit "BLE") = lit "BLE" := by decide
      simp only [otaBeginXport, hsrc, hb]
      exact .inr ⟨size, crc, ⟨by simpa using hact, hscan, hsize, hmode⟩, e, ble, log', hb, rfl⟩
    · rw [if_pos hmode]
      exact .inl ⟨fun _ _ h => hmode h.recovery, _, by decide, rfl⟩

/-- A START does not touch the boot partition. -/
theorem bleOtaStart_keepsBoot (mode : ScMode) (line : Bytes) (m : Monitor) (b : BleOta)
    (log : FlashLog) : KeepsBoot log (bleOtaStart E mode line m b log).2.2 := by
  rcases bleOtaStart_cases E mode line m b log with
    ⟨-, answer, -, hstart⟩ | ⟨size, crc, -, e, ble, log', hb, hstart⟩
  · rw [hstart]
    exact .refl log
  · have hbegin := otaSessionBegin_keepsBoot E b.ble size (UInt32.ofNat crc) (lit "BLE") log
    rw [hb] at hbegin
    rw [hstart]
    split <;> exact hbegin

/-- FINISH and ABORT send one line, and it is not the acknowledgement of a START. -/
theorem sent_finish_abort (b : BleOta) (log : FlashLog) :
    (∃ line, line ≠ lit "ACK START" ∧ (bleOtaFinish E b log).1.sent = b.sent ++ [line]) ∧
      ∃ line, line ≠ lit "ACK START" ∧ (bleOtaAbort b log).1.sent = b.sent ++ [line] := by
  constructor
  · unfold bleOtaFinish
    split
    · exact ⟨lit "ERR NOACTIVE", by decide, rfl⟩
    · dsimp only
      split
      · exact ⟨lit "ERR FINISH", by decide, rfl⟩
      · exact ⟨lit "OK REBOOTING", by decide, rfl⟩
  · unfold bleOtaAbort
    split
    · exact ⟨lit "ERR NOACTIVE", by decide, rfl⟩
    · exact ⟨lit "OK ABORTED", by decide, rfl⟩

/-- **What an accepted START leaves.** A CTRL write that is answered with `ACK START` found no
transfer, read a size and a CRC from its line in RECOVERY, and began a session for them. -/
theorem bleOtaOnCtrlWrite_accepted {mode : ScMode} {data : Bytes} {m m' : Monitor} {b b' : BleOta}
    {log log' : FlashLog} (h : bleOtaOnCtrlWrite E mode data m b log = (m', b', log'))
    (hack : b'.sent = b.sent ++ [lit "ACK START"]) :
    b.bo.active = false ∧ mode = .recovery ∧
      ∃ size crc dst, scanSizeCrc ((ctrlLine data).drop 12) = some (size, crc) ∧ size ≠ 0 ∧
        E.next = some dst ∧ size ≤ dst.size ∧ log' = log ++ [.otaBegin dst size .ok] ∧
        Begun b'.ble size (UInt32.ofNat crc) dst (begun log + 1) ∧
        b'.bo = ⟨true, size, 0, crc, 0, progStep⟩ ∧ b'.finishes = b.finishes := by
  -- every other line the handler sends differs from the acknowledgement
  have hother : ∀ {line}, line ≠ lit "ACK START" →
      b'.sent = b.sent ++ [line] → False := fun hne heq => hne (by simpa [hack] using heq.symm)
  unfold bleOtaOnCtrlWrite at h
  split at h
  · cases h
    exact absurd (congrArg List.length hack) (by simp)
  · dsimp only at h
    by_cases hstart : strnEq (ctrlLine data) (lit "BL_OTA START") 12 = true
    · rw [if_pos hstart] at h
      rcases bleOtaStart_cases E mode (ctrlLine data) m b log with
        ⟨-, answer, hne, heq⟩ | ⟨size, crc, hs, e, ble, log₁, hb, heq⟩
      · cases heq.symm.trans h
        exact (hother hne rfl).elim
      · rw [heq] at h
        by_cases he : e = .ok
        · rw [if_neg (not_not.mpr he)] at h
          cases h
          rcases otaSessionBegin_cases E _ _ _ _ _ hb with
            ⟨-, -, dst, hdst, hle, -, rfl, hbegun⟩ | ⟨hne, -, -⟩ | ⟨hne, -⟩
          · exact ⟨hs.idle, hs.recovery, size, crc, dst, hs.scan, hs.size_ne, hdst, hle, rfl,
              hbegun, rfl, rfl⟩
          · exact absurd he hne
          · exact absurd he hne
        · rw [if_pos he] at h
          cases h
          exact (hother (by decide) rfl).elim
    · rw [if_neg hstart] at h
      obtain ⟨⟨line, hne, hline⟩, ⟨line', hne', hline'⟩⟩ := sent_finish_abort E b log
      split at h
      · have hs := congrArg (fun r => r.2.1.sent) h
        exact (hother hne (hs.symm.trans hline)).elim
      · split at h
        · have hs := congrArg (fun r => r.2.1.sent) h
          exact (hother hne' (hs.symm.trans hline')).elim
        · cases h
          exact (hother (by decide) rfl).elim

end RemoteControl
