import RemoteControl.Ota.Flash

/-!
# The OTA writer and session (`ota_writer.c`, `ota_session.c`)

The writer opens, fills and closes one `esp_ota` handle; the session on top of it keeps the bounds,
the running CRC and the byte counters. Both are translated function by function: a function takes
the object and the flash log and returns its `esp_err_t`, the object and the log. Pointers are to
existing objects (every caller passes the address of one), so the null tests of the source are not
modelled. `size_t` and `uint32_t` sums are taken modulo `2 ^ 32`.

Each session operation has one theorem that lists what it can do (`otaSessionBegin_cases`,
`otaSessionWrite_cases`, `otaSessionFinish_cases`, `otaSessionAbort_eq`); the later modules read
the operations through these.
-/

namespace RemoteControl

open CString

/-! ## The writer -/

/-- `ota_writer_t`: the open handle (0 when there is none) and the target partition. -/
structure OtaWriter where
  handle : Nat
  dst : Option Partition
  deriving DecidableEq

variable (E : FlashEnv) (C : Crc32)

/-- `ota_writer_begin`. -/
def otaWriterBegin (totalSize : Nat) (log : FlashLog) : EspErr × OtaWriter × FlashLog :=
  match E.next with
  | none => (.notFound, ⟨0, none⟩, log)
  | some dst =>
    if dst.size < totalSize then (.invalidSize, ⟨0, some dst⟩, log)
    else
      let (e, handle, log') := espOtaBegin E dst totalSize log
      (e, ⟨handle, some dst⟩, log')

/-- `ota_writer_write`. -/
def otaWriterWrite (wr : OtaWriter) (data : Bytes) (log : FlashLog) : EspErr × FlashLog :=
  if wr.handle = 0 ∨ data = [] then (.invalidArg, log)
  else espOtaWrite E wr.handle data log

/-- `ota_writer_end`: close the handle and, when that succeeds, boot from the partition. -/
def otaWriterEnd (wr : OtaWriter) (log : FlashLog) : EspErr × FlashLog :=
  match wr.dst with
  | none => (.invalidState, log)
  | some dst =>
    if wr.handle = 0 then (.invalidState, log)
    else
      let (e, log') := espOtaEnd E wr.handle log
      if e ≠ .ok then (e, log') else espOtaSetBootPartition E dst log'

/-- `ota_writer_abort`. -/
def otaWriterAbort (wr : OtaWriter) (log : FlashLog) : OtaWriter × FlashLog :=
  (⟨0, none⟩, if wr.handle = 0 then log else espOtaAbort wr.handle log)

/-! ## The session -/

/-- `ota_session_t`. -/
structure OtaSession where
  active : Bool
  wr : OtaWriter
  bytesExpected : Nat
  bytesWritten : Nat
  crcExpect : UInt32
  crcRunning : UInt32
  source : Bytes
  yieldBytes : Nat
  sinceYield : Nat
  deriving DecidableEq

/-- A session object after `memset(s, 0, sizeof(*s))`. -/
def OtaSession.zero : OtaSession where
  active := false
  wr := ⟨0, none⟩
  bytesExpected := 0
  bytesWritten := 0
  crcExpect := 0
  crcRunning := 0
  source := []
  yieldBytes := 0
  sinceYield := 0

/-- `OTA_SESSION_YIELD_BYTES`. -/
def otaSessionYieldBytes : Nat := 64 * 1024

/-- `ota_session_begin`. An empty `source` stands for a null or empty one. -/
def otaSessionBegin (s : OtaSession) (totalSize : Nat) (crc32Expect : UInt32) (source : Bytes)
    (log : FlashLog) : EspErr × OtaSession × FlashLog :=
  if totalSize = 0 then (.invalidArg, s, log)
  else if s.active then (.invalidState, s, log)
  else
    let (e, wr, log') := otaWriterBegin E totalSize log
    let s₀ := { OtaSession.zero with wr := wr }
    if e ≠ .ok then (e, s₀, log')
    else
      (.ok,
        { s₀ with
          active := true
          bytesExpected := totalSize
          crcExpect := crc32Expect
          crcRunning := 0
          yieldBytes := otaSessionYieldBytes
          sinceYield := 0
          source := (if source = [] then lit "XPORT" else source).take 7 }, log')

/-- `ota_session_write`. -/
def otaSessionWrite (s : OtaSession) (data : Bytes) (log : FlashLog) :
    EspErr × OtaSession × FlashLog :=
  if !s.active ∨ data = [] then (.invalidArg, s, log)
  else if s.bytesExpected < (s.bytesWritten + data.length) % 2 ^ 32 then (.invalidSize, s, log)
  else
    let (e, log') := otaWriterWrite E s.wr data log
    if e ≠ .ok then (e, s, log')
    else
      let since := (s.sinceYield + data.length) % 2 ^ 32
      (.ok,
        { s with
          bytesWritten := (s.bytesWritten + data.length) % 2 ^ 32
          crcRunning := C.update s.crcRunning data
          sinceYield := if s.yieldBytes ≤ since then 0 else since }, log')

/-- `ota_session_finish`. -/
def otaSessionFinish (s : OtaSession) (log : FlashLog) : EspErr × OtaSession × FlashLog :=
  if !s.active then (.invalidState, s, log)
  else if s.bytesWritten ≠ s.bytesExpected then
    let (wr, log') := otaWriterAbort s.wr log
    (.invalidSize, { s with wr := wr, active := false }, log')
  else if s.crcExpect ≠ 0 ∧ s.crcRunning ≠ s.crcExpect then
    let (wr, log') := otaWriterAbort s.wr log
    (.invalidCrc, { s with wr := wr, active := false }, log')
  else
    let (e, log') := otaWriterEnd E s.wr log
    (e, { s with active := false }, log')

/-- `ota_session_abort`. -/
def otaSessionAbort (s : OtaSession) (log : FlashLog) : OtaSession × FlashLog :=
  if !s.active then (s, log)
  else
    let (wr, log') := otaWriterAbort s.wr log
    ({ s with wr := wr, active := false }, log')

/-! ## What the operations can do -/

/-- The session a successful `ota_session_begin` leaves. -/
structure Begun (s : OtaSession) (totalSize : Nat) (crc : UInt32) (dst : Partition)
    (handle : Nat) : Prop where
  active : s.active = true
  wr : s.wr = ⟨handle, some dst⟩
  expected : s.bytesExpected = totalSize
  written : s.bytesWritten = 0
  crcExpect : s.crcExpect = crc
  crcRunning : s.crcRunning = 0

/-- **Begin.** The call opens a fresh handle on the update partition; or it is refused and changes
nothing; or it fails on an inactive session, which stays inactive and has no handle, with at most a
failed `esp_ota_begin` more in the log. -/
theorem otaSessionBegin_cases (s : OtaSession) (totalSize : Nat) (crc : UInt32) (source : Bytes)
    (log : FlashLog) {e : EspErr} {s' : OtaSession} {log' : FlashLog}
    (h : otaSessionBegin E s totalSize crc source log = (e, s', log')) :
    (e = .ok ∧ s.active = false ∧ ∃ dst, E.next = some dst ∧ totalSize ≤ dst.size ∧
      totalSize ≠ 0 ∧ log' = log ++ [.otaBegin dst totalSize .ok] ∧
      Begun s' totalSize crc dst (begun log + 1)) ∨
    (e ≠ .ok ∧ s' = s ∧ log' = log) ∨
    (e ≠ .ok ∧ s.active = false ∧ s'.active = false ∧ s'.wr.handle = 0 ∧
      (log' = log ∨ ∃ dst r, r ≠ .ok ∧ log' = log ++ [.otaBegin dst totalSize r])) := by
  unfold otaSessionBegin at h
  split at h
  · cases h; exact .inr (.inl ⟨by simp, rfl, rfl⟩)
  · next h0 =>
    split at h
    · cases h; exact .inr (.inl ⟨by simp, rfl, rfl⟩)
    · next hact =>
      have hact : s.active = false := by simpa using hact
      unfold otaWriterBegin espOtaBegin at h
      cases hn : E.next with
      | none =>
        rw [hn] at h
        simp only [ne_eq, reduceCtorEq, not_false_eq_true, if_true] at h
        cases h
        exact .inr (.inr ⟨by simp, hact, rfl, rfl, .inl rfl⟩)
      | some dst =>
        rw [hn] at h
        by_cases hsz : dst.size < totalSize
        · simp only [if_pos hsz, ne_eq, reduceCtorEq, not_false_eq_true, if_true] at h
          cases h
          exact .inr (.inr ⟨by simp, hact, rfl, rfl, .inl rfl⟩)
        · simp only [if_neg hsz] at h
          by_cases he : E.fate .otaBegin log.length = .ok
          · simp only [he, ne_eq, not_true_eq_false, if_false, if_true] at h
            cases h
            exact .inl ⟨rfl, hact, dst, rfl, by omega, h0, rfl, rfl, rfl, rfl, rfl, rfl, rfl⟩
          · simp only [he, ne_eq, not_false_eq_true, if_true] at h
            cases h
            exact .inr (.inr ⟨he, hact, rfl, rfl, .inr ⟨dst, _, he, rfl⟩⟩)

/-- A begin succeeds for a size that is not zero and fits, on an inactive session object, when
`esp_ota_begin` does not fail. -/
theorem otaSessionBegin_ok_iff (s : OtaSession) (totalSize : Nat) (crc : UInt32) (source : Bytes)
    (log : FlashLog) :
    (otaSessionBegin E s totalSize crc source log).1 = .ok ↔
      s.active = false ∧ totalSize ≠ 0 ∧ (∃ dst, E.next = some dst ∧ totalSize ≤ dst.size) ∧
        E.fate .otaBegin log.length = .ok := by
  unfold otaSessionBegin otaWriterBegin espOtaBegin
  by_cases h0 : totalSize = 0
  · simp [h0]
  · by_cases hact : s.active = true
    · simp [h0, hact]
    · cases hn : E.next with
      | none => simp [h0, hact]
      | some dst =>
        by_cases hsz : dst.size < totalSize
        · simp [h0, hact, hsz]
        · by_cases he : E.fate .otaBegin log.length = .ok
          · simpa [h0, hact, hsz, he] using Nat.not_lt.mp hsz
          · simp [h0, hact, hsz, he]

/-- **Write.** Either the chunk fits, is handed to `esp_ota_write` on the session's handle and is
taken, and the counters advance by it; or nothing of the session changes and the log has at most a
failed `esp_ota_write` more. -/
theorem otaSessionWrite_cases (s : OtaSession) (data : Bytes) (log : FlashLog) {e : EspErr}
    {s' : OtaSession} {log' : FlashLog} (h : otaSessionWrite E C s data log = (e, s', log')) :
    (e = .ok ∧ s.active = true ∧ data ≠ [] ∧ s.wr.handle ≠ 0 ∧
      (s.bytesWritten + data.length) % 2 ^ 32 ≤ s.bytesExpected ∧
      log' = log ++ [.otaWrite s.wr.handle data .ok] ∧
      ∃ since, s' = { s with
        bytesWritten := (s.bytesWritten + data.length) % 2 ^ 32
        crcRunning := C.update s.crcRunning data
        sinceYield := since }) ∨
    (e ≠ .ok ∧ s' = s ∧
      (log' = log ∨ ∃ r, r ≠ .ok ∧ log' = log ++ [.otaWrite s.wr.handle data r])) := by
  unfold otaSessionWrite at h
  split at h
  · cases h; exact .inr ⟨by simp, rfl, .inl rfl⟩
  · next h0 =>
    rw [not_or] at h0
    split at h
    · cases h; exact .inr ⟨by simp, rfl, .inl rfl⟩
    · next hfit =>
      unfold otaWriterWrite espOtaWrite at h
      by_cases hh : s.wr.handle = 0 ∨ data = []
      · simp only [if_pos hh, ne_eq, reduceCtorEq, not_false_eq_true, if_true] at h
        cases h
        exact .inr ⟨by simp, rfl, .inl rfl⟩
      · simp only [if_neg hh] at h
        by_cases he : E.fate .otaWrite log.length = .ok
        · simp only [he, ne_eq, not_true_eq_false, if_false] at h
          cases h
          exact .inl ⟨rfl, by simpa using h0.1, h0.2, fun h => hh (.inl h), by omega, rfl, _, rfl⟩
        · simp only [he, ne_eq, not_false_eq_true, if_true] at h
          cases h
          exact .inr ⟨he, rfl, .inr ⟨_, he, rfl⟩⟩

/-- A chunk that fits an open session is taken when `esp_ota_write` does not fail. -/
theorem otaSessionWrite_ok {s : OtaSession} {data : Bytes} {log : FlashLog}
    (hact : s.active = true) (hne : data ≠ []) (hh : s.wr.handle ≠ 0)
    (hfit : (s.bytesWritten + data.length) % 2 ^ 32 ≤ s.bytesExpected)
    (hok : E.fate .otaWrite log.length = .ok) :
    ∃ since, otaSessionWrite E C s data log = (.ok,
      { s with
        bytesWritten := (s.bytesWritten + data.length) % 2 ^ 32
        crcRunning := C.update s.crcRunning data
        sinceYield := since }, log ++ [.otaWrite s.wr.handle data .ok]) := by
  refine ⟨if s.yieldBytes ≤ (s.sinceYield + data.length) % 2 ^ 32 then 0
    else (s.sinceYield + data.length) % 2 ^ 32, ?_⟩
  simp only [otaSessionWrite, otaWriterWrite, espOtaWrite, hact, hne, hh, hok, Bool.not_true,
    Bool.false_eq_true, or_self, if_false, if_neg (Nat.not_lt.mpr hfit), ne_eq, not_true_eq_false]

/-- What a run of `ota_writer_end` adds to the log: nothing for a writer without a target; else the
close of the handle and, only when that succeeded, the switch of the boot partition, whose result
is the call's. -/
theorem otaWriterEnd_cases (wr : OtaWriter) (log : FlashLog) {e : EspErr} {log' : FlashLog}
    (h : otaWriterEnd E wr log = (e, log')) :
    (e ≠ .ok ∧ log' = log ∧ (wr.handle = 0 ∨ wr.dst = none)) ∨
    (wr.handle ≠ 0 ∧ ∃ dst, wr.dst = some dst ∧
      ((e ≠ .ok ∧ log' = log ++ [.otaEnd wr.handle e]) ∨
        log' = log ++ [.otaEnd wr.handle .ok, .setBoot dst e])) := by
  unfold otaWriterEnd at h
  split at h
  · next hd => cases h; exact .inl ⟨by simp, rfl, .inr hd⟩
  · next dst hd =>
    split at h
    · next hh => cases h; exact .inl ⟨by simp, rfl, .inl hh⟩
    · next hh =>
      refine .inr ⟨hh, dst, hd, ?_⟩
      simp only [espOtaEnd, espOtaSetBootPartition] at h
      by_cases he : E.fate .otaEnd log.length = .ok
      · simp only [he, ne_eq, not_true_eq_false, if_false] at h
        cases h
        exact .inr (by simp)
      · simp only [he, ne_eq, not_false_eq_true, if_true] at h
        cases h
        exact .inl ⟨he, rfl⟩

/-- What `ota_writer_abort` adds to the log: the abort of the handle, if there is one. -/
def abortCalls (wr : OtaWriter) : FlashLog := if wr.handle = 0 then [] else [.otaAbort wr.handle]

theorem otaWriterAbort_eq (wr : OtaWriter) (log : FlashLog) :
    otaWriterAbort wr log = (⟨0, none⟩, log ++ abortCalls wr) := by
  unfold otaWriterAbort abortCalls espOtaAbort
  split <;> simp

/-- **Finish.** On an inactive session nothing happens. An active one is inactive afterwards; its
handle was aborted, because the image is short or its CRC is not the announced one, or else it went
through `ota_writer_end`, whose result is the call's. -/
theorem otaSessionFinish_cases (s : OtaSession) (log : FlashLog) {e : EspErr} {s' : OtaSession}
    {log' : FlashLog} (h : otaSessionFinish E s log = (e, s', log')) :
    (s.active = false ∧ e = .invalidState ∧ s' = s ∧ log' = log) ∨
    (s.active = true ∧ s'.active = false ∧ (e = .invalidSize ∨ e = .invalidCrc) ∧
      s' = { s with wr := ⟨0, none⟩, active := false } ∧ log' = log ++ abortCalls s.wr) ∨
    (s.active = true ∧ s' = { s with active := false } ∧ s.bytesWritten = s.bytesExpected ∧
      (s.crcExpect = 0 ∨ s.crcRunning = s.crcExpect) ∧ otaWriterEnd E s.wr log = (e, log')) := by
  unfold otaSessionFinish at h
  split at h
  · next h0 => cases h; exact .inl ⟨by simpa using h0, rfl, rfl, rfl⟩
  · next h0 =>
    have h0 : s.active = true := by simpa using h0
    split at h
    · rw [otaWriterAbort_eq] at h
      cases h
      exact .inr (.inl ⟨h0, rfl, .inl rfl, rfl, rfl⟩)
    · next hw =>
      split at h
      · rw [otaWriterAbort_eq] at h
        cases h
        exact .inr (.inl ⟨h0, rfl, .inr rfl, rfl, rfl⟩)
      · next hc =>
        refine .inr (.inr ⟨h0, ?_⟩)
        have hcrc : s.crcExpect = 0 ∨ s.crcRunning = s.crcExpect := by
          by_contra hne
          rw [not_or] at hne
          exact hc hne
        cases h
        exact ⟨rfl, not_not.mp hw, hcrc, rfl⟩

/-- **Abort.** Nothing on an inactive session; an active one loses its handle. -/
theorem otaSessionAbort_eq (s : OtaSession) (log : FlashLog) :
    otaSessionAbort s log =
      if s.active then ({ s with wr := ⟨0, none⟩, active := false }, log ++ abortCalls s.wr)
      else (s, log) := by
  unfold otaSessionAbort
  rw [otaWriterAbort_eq]
  cases s.active <;> rfl

/-- A begin does not touch the boot partition. -/
theorem otaSessionBegin_keepsBoot (s : OtaSession) (totalSize : Nat) (crc : UInt32)
    (source : Bytes) (log : FlashLog) :
    KeepsBoot log (otaSessionBegin E s totalSize crc source log).2.2 := by
  obtain ⟨⟨e, s', log'⟩, h⟩ : ∃ q, otaSessionBegin E s totalSize crc source log = q := ⟨_, rfl⟩
  rw [h]
  rcases otaSessionBegin_cases E s totalSize crc source log h with
    ⟨-, -, dst, -, -, -, rfl, -⟩ | ⟨-, -, rfl⟩ | ⟨-, -, -, -, rfl | ⟨dst, res, -, rfl⟩⟩
  · exact ⟨_, rfl, by simp⟩
  · exact .refl _
  · exact .refl _
  · exact ⟨_, rfl, by simp⟩

/-- A write does not touch it. -/
theorem otaSessionWrite_keepsBoot (s : OtaSession) (data : Bytes) (log : FlashLog) :
    KeepsBoot log (otaSessionWrite E C s data log).2.2 := by
  obtain ⟨⟨e, s', log'⟩, h⟩ : ∃ q, otaSessionWrite E C s data log = q := ⟨_, rfl⟩
  rw [h]
  rcases otaSessionWrite_cases E C s data log h with
    ⟨-, -, -, -, -, rfl, -⟩ | ⟨-, -, rfl | ⟨res, -, rfl⟩⟩
  · exact ⟨_, rfl, by simp⟩
  · exact .refl _
  · exact ⟨_, rfl, by simp⟩

/-- Nor does an abort. -/
theorem otaSessionAbort_keepsBoot (s : OtaSession) (log : FlashLog) :
    KeepsBoot log (otaSessionAbort s log).2 := by
  rw [otaSessionAbort_eq]
  cases s.active with
  | false => exact .refl _
  | true => exact ⟨_, rfl, by unfold abortCalls; split <;> simp⟩

/-- A finish leaves the session inactive and the contents of the partitions alone. -/
theorem otaSessionFinish_log (s : OtaSession) (log : FlashLog) {e : EspErr} {s' : OtaSession}
    {log' : FlashLog} (h : otaSessionFinish E s log = (e, s', log')) :
    s'.active = false ∧ ∃ tail, log' = log ++ tail ∧ ∀ c ∈ tail, c.touches = false := by
  rcases otaSessionFinish_cases E s log h with
    ⟨hact, -, rfl, rfl⟩ | ⟨-, hact, -, -, rfl⟩ | ⟨-, rfl, -, -, hend⟩
  · exact ⟨hact, [], by simp, nofun⟩
  · refine ⟨hact, _, rfl, ?_⟩
    unfold abortCalls
    split <;> simp [FlashCall.touches]
  · refine ⟨rfl, ?_⟩
    rcases otaWriterEnd_cases E s.wr log hend with ⟨-, rfl, -⟩ | ⟨-, dst, -, ⟨-, rfl⟩ | rfl⟩
    · exact ⟨[], by simp, nofun⟩
    · exact ⟨_, rfl, by simp [FlashCall.touches]⟩
    · exact ⟨_, rfl, by simp [FlashCall.touches]⟩

/-- So does an abort. -/
theorem otaSessionAbort_log (s : OtaSession) (log : FlashLog) :
    (otaSessionAbort s log).1.active = false ∧
      ∃ tail, (otaSessionAbort s log).2 = log ++ tail ∧ ∀ c ∈ tail, c.touches = false := by
  rw [otaSessionAbort_eq]
  cases hact : s.active with
  | false => exact ⟨hact, [], by simp, nofun⟩
  | true =>
    refine ⟨rfl, _, rfl, ?_⟩
    unfold abortCalls
    split <;> simp [FlashCall.touches]

end RemoteControl
