import RemoteControl.Lib.Chunks
import RemoteControl.Ota.Perform
import RemoteControl.Ota.SessionRuns

/-!
# A whole call of `ota_perform`

`PerformRun` is a call of `ota_perform` with the socket it reads and the heap it uses. The socket
delivers a byte stream in pieces of any size, with interruptions, and then fails or reports its end.
`PerformState` says where such a call can stand: in the payload or in the trailer, with everything
received so far written in chunks of 4096 bytes, at one of its exits, or before `esp_restart`. It
holds at the entry (`performState_enter`) and is kept by every `recv` (`PerformState.step`); the
results about whole calls are read off the exits (`PerformExit`).
-/

namespace RemoteControl

open CString

/-! ## The socket and the heap -/

/-- A call of `malloc` for the buffer, or of `free`. -/
inductive HeapCall where
  | malloc (ok : Bool)
  | free
  deriving DecidableEq

/-- What `recv` returns for at most `n` bytes when `unread` are still to arrive. It is interrupted
(`none`), or it delivers at least one byte and at most `m + 1` (`some m`); with nothing left it
fails, with a timeout or another error, or reports the end of the stream. -/
def sockRecv (fault : Bool) (n : Nat) (unread : Bytes) : Option Nat → Recv UInt8
  | none => .eintr
  | some m =>
    if unread = [] then (if fault then .err else .data [])
    else .data (unread.take (min (m + 1) n))

/-- How many bytes a `recv` has taken from the stream. -/
def Recv.taken {β : Type} : Recv β → Nat
  | .data bs => bs.length
  | .err | .eintr => 0

/-- A call of `ota_perform`: its state, the flash log, the bytes still to arrive, and its calls of
`malloc` and `free`. -/
structure PerformRun where
  t : TcpOta UInt8
  log : FlashLog
  unread : Bytes
  heap : List HeapCall

section
variable (E : FlashEnv) (C : Crc32)

/-- The calls of `malloc` and `free` in `otaPerformEnter`. -/
def otaPerformEnterHeap (s : OtaSession) (mallocOk : Bool) (size : Nat) (log : FlashLog) :
    List HeapCall :=
  if size = 0 then []
  else if (otaSessionBegin E s size 0 (lit "TCP") log).1 ≠ .ok then []
  else [.malloc mallocOk]

/-- The calls of `free` in `otaPerformRecv`. -/
def otaPerformRecvHeap (r : Recv UInt8) (t : TcpOta UInt8) (log : FlashLog) : List HeapCall :=
  match t.pc, r with
  | .returned _, _ | .restarting, _ | _, .eintr => []
  | .payload _, .err | .payload _, .data [] | .tail _, .err | .tail _, .data [] => [.free]
  | .payload got, .data (b :: bs) =>
    let got := got ++ (b :: bs).take t.asks
    if got.length < t.want then []
    else if (otaSessionWrite E C t.s (got.map id) log).1 ≠ .ok then [.free]
    else []
  | .tail got, .data (b :: bs) =>
    if (got ++ (b :: bs).take t.asks).length < 4 then [] else [.free]

/-- The call up to its first `recv`. -/
def PerformRun.enter (s : OtaSession) (mallocOk : Bool) (size : Nat) (stream : Bytes)
    (log : FlashLog) : PerformRun :=
  let (t, log') := otaPerformEnter E s mallocOk size log
  ⟨t, log', stream, otaPerformEnterHeap E s mallocOk size log⟩

/-- One `recv`, and what follows up to the next. -/
def PerformRun.step (fault : Bool) (p : PerformRun) (a : Option Nat) : PerformRun :=
  let r := sockRecv fault p.t.asks p.unread a
  let (t, log) := otaPerformRecv id E C r p.t p.log
  ⟨t, log, p.unread.drop r.taken, p.heap ++ otaPerformRecvHeap E C r p.t p.log⟩

/-- The call calls `recv` no more. -/
def PerformRun.Done (p : PerformRun) : Prop := p.t.pc.ended = true

instance (p : PerformRun) : Decidable p.Done := inferInstanceAs (Decidable (_ = true))

/-! ## The calls of the driver, exactly -/

variable {E C}

/-- **A fresh begin.** No partition fits, or `esp_ota_begin` is called and decides. -/
theorem otaSessionBegin_fresh {s : OtaSession} (hact : s.active = false) {size : Nat}
    (hsize : size ≠ 0) (crc : UInt32) (src : Bytes) (log : FlashLog) {e : EspErr}
    {s' : OtaSession} {log' : FlashLog}
    (h : otaSessionBegin E s size crc src log = (e, s', log')) :
    (e ≠ .ok ∧ e ≠ .invalidState ∧ log' = log ∧ ¬ ∃ dst, E.next = some dst ∧ size ≤ dst.size) ∨
    ∃ dst, E.next = some dst ∧ size ≤ dst.size ∧ e = E.fate .otaBegin log.length ∧
      log' = log ++ [.otaBegin dst size e] ∧
      (e = .ok → Begun s' size crc dst (begun log + 1)) := by
  unfold otaSessionBegin at h
  rw [if_neg hsize, if_neg (by simp [hact])] at h
  unfold otaWriterBegin espOtaBegin at h
  cases hn : E.next with
  | none =>
    simp only [hn, ne_eq, reduceCtorEq, not_false_eq_true, if_true] at h
    cases h
    exact .inl ⟨by decide, by decide, rfl, fun ⟨_, hd, _⟩ => nomatch hd⟩
  | some dst =>
    by_cases hsz : dst.size < size
    · simp only [hn, if_pos hsz, ne_eq, reduceCtorEq, not_false_eq_true, if_true] at h
      cases h
      refine .inl ⟨by decide, by decide, rfl, ?_⟩
      rintro ⟨_, ⟨⟩, hle⟩
      omega
    · refine .inr ⟨dst, rfl, Nat.not_lt.mp hsz, ?_⟩
      simp only [hn, if_neg hsz] at h
      by_cases he : E.fate .otaBegin log.length = .ok
      · simp only [he, ne_eq, not_true_eq_false, if_false, if_true] at h
        cases h
        exact ⟨he.symm, rfl, fun _ => ⟨rfl, rfl, rfl, rfl, rfl, rfl⟩⟩
      · simp only [ne_eq, he, not_false_eq_true, if_true] at h
        cases h
        exact ⟨rfl, rfl, fun hok => absurd hok he⟩

/-- A chunk that fits an open session is refused when `esp_ota_write` fails. -/
theorem otaSessionWrite_refused {s : OtaSession} {data : Bytes} {log : FlashLog}
    (hact : s.active = true) (hne : data ≠ []) (hh : s.wr.handle ≠ 0)
    (hfit : (s.bytesWritten + data.length) % 2 ^ 32 ≤ s.bytesExpected)
    (hfail : E.fate .otaWrite log.length ≠ .ok) :
    otaSessionWrite E C s data log = (E.fate .otaWrite log.length, s,
      log ++ [.otaWrite s.wr.handle data (E.fate .otaWrite log.length)]) := by
  simp only [otaSessionWrite, otaWriterWrite, espOtaWrite, hact, hne, hh, Bool.not_true,
    Bool.false_eq_true, or_self, if_false, if_neg (Nat.not_lt.mpr hfit), ne_eq, hfail,
    not_false_eq_true, if_true]

/-- **A finish of a whole image**: its CRC is wrong, the close fails, or the switch of the boot
partition decides. -/
theorem otaSessionFinish_whole {s : OtaSession} {log : FlashLog} {handle : Nat} {dst : Partition}
    (hact : s.active = true) (hwr : s.wr = ⟨handle, some dst⟩) (hh : handle ≠ 0)
    (hall : s.bytesWritten = s.bytesExpected) {e : EspErr} {s' : OtaSession} {log' : FlashLog}
    (h : otaSessionFinish E s log = (e, s', log')) :
    (s.crcExpect ≠ 0 ∧ s.crcRunning ≠ s.crcExpect ∧ e = .invalidCrc ∧
      log' = log ++ [.otaAbort handle]) ∨
    ((s.crcExpect = 0 ∨ s.crcRunning = s.crcExpect) ∧
      ((e ≠ .ok ∧ e = E.fate .otaEnd log.length ∧ log' = log ++ [.otaEnd handle e]) ∨
        (E.fate .otaEnd log.length = .ok ∧ e = E.fate .setBoot (log.length + 1) ∧
          log' = log ++ [.otaEnd handle .ok, .setBoot dst e]))) := by
  simp only [otaSessionFinish, hact, Bool.not_true, Bool.false_eq_true, if_false, hall, ne_eq,
    not_true_eq_false, otaWriterAbort_eq, abortCalls, hwr, hh] at h
  by_cases hcrc : ¬ s.crcExpect = 0 ∧ ¬ s.crcRunning = s.crcExpect
  · rw [if_pos hcrc] at h
    cases h
    exact .inl ⟨hcrc.1, hcrc.2, rfl, rfl⟩
  · rw [if_neg hcrc] at h
    rw [not_and_not_right] at hcrc
    refine .inr ⟨Decidable.or_iff_not_imp_left.mpr hcrc, ?_⟩
    simp only [otaWriterEnd, hh, if_false, espOtaEnd, espOtaSetBootPartition] at h
    by_cases he : E.fate .otaEnd log.length = .ok
    · simp only [he, ne_eq, not_true_eq_false, if_false, List.length_append,
        List.length_singleton] at h
      cases h
      exact .inr ⟨he, rfl, by simp⟩
    · simp only [ne_eq, he, not_false_eq_true, if_true] at h
      cases h
      exact .inl ⟨he, rfl, rfl⟩

end

/-! ## Where a call can stand -/

/-- The log after the partition was opened and the bytes `w` were written, chunk by chunk. -/
def openedLog (dst : Partition) (size : Nat) (log : FlashLog) (w : Bytes) : FlashLog :=
  log ++ (.otaBegin dst size .ok ::
    (Chunks.cut otaWriteBufSz w).map (.otaWrite (begun log + 1) · .ok))

/-- The little-endian value behind the payload. -/
def trailerCrc (size : Nat) (stream : Bytes) : UInt32 :=
  UInt32.ofNat (readLe 4 (stream.drop size))

section
variable (E : FlashEnv) (C : Crc32) (mallocOk : Bool) (size : Nat) (stream : Bytes)
  (log : FlashLog)

/-- The trailer is 0, or the CRC of the payload. -/
def TrailerOk : Prop :=
  trailerCrc size stream = 0 ∨ C.update 0 (stream.take size) = trailerCrc size stream

/-- The image fits `dst`, the driver opens it and takes every chunk of `w`, and there is a
buffer. -/
structure Opened (dst : Partition) (w : Bytes) : Prop where
  next : E.next = some dst
  fits : size ≤ dst.size
  begins : E.fate .otaBegin log.length = .ok
  buffer : mallocOk = true
  writes : ∀ i < (Chunks.cut otaWriteBufSz w).length, E.fate .otaWrite (log.length + 1 + i) = .ok

/-- The call is in its loops. -/
structure PerformRun.Writing (dst : Partition) (p : PerformRun) : Prop where
  opened : Opened E mallocOk size log dst p.t.written
  receiving : p.t.Receiving
  size_eq : p.t.size = size
  wr : p.t.s.wr = ⟨begun log + 1, some dst⟩
  crcRunning : p.t.s.crcRunning = C.update 0 p.t.written
  sent : p.t.sent = [lit "ACK"]
  log_eq : p.log = openedLog dst size log p.t.written
  heap : p.heap = [.malloc true]

/-- **The exits**, each with its reason, its reply, its calls of the driver and of the heap. -/
inductive PerformExit (p : PerformRun) : EspErr → Prop
  /-- No partition fits. -/
  | refused {e} (hne : e ≠ .invalidState)
      (hno : ¬ ∃ dst, E.next = some dst ∧ size ≤ dst.size)
      (hsent : p.t.sent = [lit "ACK", lit "ERR ota_begin"]) (hlog : p.log = log)
      (hheap : p.heap = []) : PerformExit p e
  /-- `esp_ota_begin` fails. -/
  | beginFailed (dst : Partition) (hfail : E.fate .otaBegin log.length ≠ .ok)
      (hsent : p.t.sent = [lit "ACK", lit "ERR ota_begin"])
      (hlog : p.log = log ++ [.otaBegin dst size (E.fate .otaBegin log.length)])
      (hheap : p.heap = []) : PerformExit p (E.fate .otaBegin log.length)
  /-- `malloc` fails. -/
  | noBuffer (dst : Partition) (hmalloc : mallocOk = false)
      (hsent : p.t.sent = [lit "ACK", lit "ERR nomem"])
      (hlog : p.log = openedLog dst size log [] ++ [.otaAbort (begun log + 1)])
      (hheap : p.heap = [.malloc false]) : PerformExit p .noMem
  /-- The stream ends before the payload and the trailer do. -/
  | cutOff (dst : Partition) (w line : Bytes) (hshort : stream.length < size + 4)
      (hsent : p.t.sent = [lit "ACK", line])
      (hlog : p.log = openedLog dst size log w ++ [.otaAbort (begun log + 1)])
      (hheap : p.heap = [.malloc true, .free]) : PerformExit p .fail
  /-- `esp_ota_write` fails. -/
  | writeFailed {e} (dst : Partition) (w data : Bytes) (hw : w.length < size)
      (hdvd : otaWriteBufSz ∣ w.length) (he : e ≠ .ok)
      (hfail : E.fate .otaWrite (log.length + 1 + (Chunks.cut otaWriteBufSz w).length) = e)
      (hsent : p.t.sent = [lit "ACK", lit "ERR ota_write"])
      (hlog : p.log = openedLog dst size log w ++
        [.otaWrite (begun log + 1) data e, .otaAbort (begun log + 1)])
      (hheap : p.heap = [.malloc true, .free]) : PerformExit p e
  /-- The trailer is neither 0 nor the CRC. -/
  | crcFailed (dst : Partition) (hcrc : ¬ TrailerOk C size stream)
      (hsent : p.t.sent = [lit "ACK", lit "CRCFAIL"])
      (hlog : p.log = openedLog dst size log (stream.take size) ++ [.otaAbort (begun log + 1)])
      (hheap : p.heap = [.malloc true, .free]) : PerformExit p .invalidCrc
  /-- The trailer is good, and `esp_ota_end` or `esp_ota_set_boot_partition` fails. -/
  | endFailed {e} (dst : Partition) (hcrc : TrailerOk C size stream) (he : e ≠ .ok)
      (hsent : p.t.sent = [lit "ACK", if e = EspErr.invalidCrc then lit "CRCFAIL" else
        lit "ERR ota_end"])
      (hlog : (E.fate .otaEnd (openedLog dst size log (stream.take size)).length = e ∧ p.log =
          openedLog dst size log (stream.take size) ++ [.otaEnd (begun log + 1) e]) ∨
        (E.fate .setBoot ((openedLog dst size log (stream.take size)).length + 1) = e ∧ p.log =
          openedLog dst size log (stream.take size) ++
            [.otaEnd (begun log + 1) .ok, .setBoot dst e]))
      (hheap : p.heap = [.malloc true, .free]) : PerformExit p e

/-- **The states.** In its loops the call has written what it received, up to the chunk or the
trailer it is reading. -/
inductive PerformState : PerformRun → Prop
  | payload {p} (dst : Partition) (got : Bytes) (h : p.Writing E C mallocOk size log dst)
      (hpc : p.t.pc = .payload got) (hgot : got.length < p.t.want)
      (hdvd : otaWriteBufSz ∣ p.t.written.length)
      (hstream : stream = p.t.written ++ (got ++ p.unread)) : PerformState p
  | tail {p} (dst : Partition) (got : Bytes) (h : p.Writing E C mallocOk size log dst)
      (hpc : p.t.pc = .tail got) (hgot : got.length < 4) (hall : p.t.written.length = size)
      (hstream : stream = p.t.written ++ (got ++ p.unread)) : PerformState p
  | returned {p} (e : EspErr) (hpc : p.t.pc = .returned e)
      (hexit : PerformExit E C mallocOk size stream log p e) : PerformState p
  | restarting {p} (dst : Partition) (hpc : p.t.pc = .restarting)
      (h : Opened E mallocOk size log dst (stream.take size))
      (hlen : size + 4 ≤ stream.length) (hcrc : TrailerOk C size stream)
      (hend : E.fate .otaEnd (openedLog dst size log (stream.take size)).length = .ok)
      (hboot : E.fate .setBoot ((openedLog dst size log (stream.take size)).length + 1) = .ok)
      (hsent : p.t.sent = [lit "ACK", lit "OK"]) (hunread : p.unread = stream.drop (size + 4))
      (hlog : p.log = openedLog dst size log (stream.take size) ++
        [.otaEnd (begun log + 1) .ok, .setBoot dst .ok])
      (hheap : p.heap = [.malloc true, .free]) : PerformState p

end

/-! ## The entry -/

section
variable {E : FlashEnv} {C : Crc32} {mallocOk : Bool} {size : Nat} {stream : Bytes}
  {log : FlashLog}

theorem openedLog_nil (dst : Partition) :
    openedLog dst size log [] = log ++ [.otaBegin dst size .ok] := by
  rw [openedLog, Chunks.cut_nil, List.map_nil]

/-- **A call on an inactive session object** starts in one of the states. -/
theorem performState_enter {s : OtaSession} (hact : s.active = false) (hsize : size ≠ 0) :
    PerformState E C mallocOk size stream log (.enter E s mallocOk size stream log) := by
  obtain ⟨⟨e, s', log'⟩, hb⟩ : ∃ q, otaSessionBegin E s size 0 (lit "TCP") log = q := ⟨_, rfl⟩
  have henter : PerformRun.enter E s mallocOk size stream log =
      if e ≠ .ok then
        ⟨⟨size, s', 0, .returned e, [lit "ACK", lit "ERR ota_begin"], []⟩, log', stream, []⟩
      else if !mallocOk then
        ⟨⟨size, (otaSessionAbort s' log').1, 0, .returned .noMem, [lit "ACK", lit "ERR nomem"], []⟩,
          (otaSessionAbort s' log').2, stream, [.malloc false]⟩
      else ⟨⟨size, s', 0, .payload [], [lit "ACK"], []⟩, log', stream, [.malloc true]⟩ := by
    simp only [PerformRun.enter, otaPerformEnter, otaPerformEnterHeap, if_neg hsize, hb]
    by_cases he : e = .ok
    · cases mallocOk <;> simp [he, TcpOta.fail, TcpOta.send]
    · simp [he, TcpOta.send]
  rw [henter]
  rcases otaSessionBegin_fresh hact hsize 0 (lit "TCP") log hb with
    ⟨hne, hinv, rfl, hno⟩ | ⟨dst, hnext, hfits, he, rfl, hbegun⟩
  · rw [if_pos hne]
    exact .returned e rfl (.refused hinv hno rfl rfl rfl)
  · by_cases hok : e = .ok
    · subst hok
      have hbegun := hbegun rfl
      rw [if_neg (by simp)]
      cases mallocOk with
      | false =>
        have habort : otaSessionAbort s' (log ++ [.otaBegin dst size .ok]) =
            ({ s' with wr := ⟨0, none⟩, active := false },
              openedLog dst size log [] ++ [.otaAbort (begun log + 1)]) := by
          rw [otaSessionAbort_eq, hbegun.active, openedLog_nil, hbegun.wr]
          rfl
        rw [if_pos (Bool.not_false), habort]
        exact .returned .noMem rfl (.noBuffer dst rfl rfl rfl rfl)
      | true =>
        rw [if_neg (by simp)]
        refine .payload dst [] ?_ rfl ?_ (Nat.dvd_zero _) rfl
        · exact {
            opened := ⟨hnext, hfits, he.symm, rfl, by simp⟩
            receiving := ⟨hbegun.active, by rw [hbegun.wr]; exact Nat.succ_ne_zero _,
              hbegun.expected, hbegun.written, rfl, Nat.zero_le _,
              Nat.lt_of_le_of_lt hfits dst.size_lt⟩
            size_eq := rfl
            wr := hbegun.wr
            crcRunning := hbegun.crcRunning.trans (C.update_nil 0).symm
            sent := rfl
            log_eq := (openedLog_nil dst).symm
            heap := rfl }
        · simp only [TcpOta.want, otaWriteBufSz, List.length_nil]
          omega
    · rw [if_pos hok]
      subst he
      exact .returned _ rfl (.beginFailed dst hok rfl rfl rfl)

/-! ## One `recv` -/

theorem length_openedLog (dst : Partition) (w : Bytes) :
    (openedLog dst size log w).length =
      log.length + 1 + (Chunks.cut otaWriteBufSz w).length := by
  rw [openedLog, List.length_append, List.length_cons, List.length_map]
  omega

/-- A further chunk behind whole ones. -/
theorem cut_concat {w chunk : Bytes} (hdvd : otaWriteBufSz ∣ w.length) (hne : chunk ≠ [])
    (hle : chunk.length ≤ otaWriteBufSz) :
    Chunks.cut otaWriteBufSz (w ++ chunk) = Chunks.cut otaWriteBufSz w ++ [chunk] := by
  rw [Chunks.cut_append (by decide) hdvd, Chunks.cut_of_length_le hne hle]

section
variable {dst : Partition} {p : PerformRun}

/-- What the loop asks for next. -/
theorem PerformRun.Writing.want (h : p.Writing E C mallocOk size log dst) :
    p.t.want = min (size - p.t.written.length) otaWriteBufSz := by
  rw [TcpOta.want, h.receiving.received, h.size_eq]

/-- An abort closes the handle of the call. -/
theorem PerformRun.Writing.abort (h : p.Writing E C mallocOk size log dst) (log' : FlashLog) :
    otaSessionAbort p.t.s log' =
      ({ p.t.s with wr := ⟨0, none⟩, active := false }, log' ++ [.otaAbort (begun log + 1)]) := by
  rw [otaSessionAbort_eq, h.receiving.active, h.wr]
  rfl

/-- **A failed `recv`** ends the call. -/
theorem PerformRun.Writing.cutOff (h : p.Writing E C mallocOk size log dst)
    (hshort : stream.length < size + 4) (line unread : Bytes) :
    PerformState E C mallocOk size stream log
      ⟨(p.t.fail line .fail p.log).1, (p.t.fail line .fail p.log).2, unread,
        p.heap ++ [.free]⟩ := by
  refine .returned .fail rfl (.cutOff dst p.t.written line hshort ?_ ?_ ?_)
  · exact congrArg (· ++ [line]) h.sent
  · simp only [TcpOta.fail, h.abort, h.log_eq]
  · exact congrArg (· ++ [HeapCall.free]) h.heap

/-- One chunk more. -/
theorem Opened.concat {w chunk : Bytes} (h : Opened E mallocOk size log dst w)
    (hdvd : otaWriteBufSz ∣ w.length) (hne : chunk ≠ []) (hle : chunk.length ≤ otaWriteBufSz)
    (hok : E.fate .otaWrite (log.length + 1 + (Chunks.cut otaWriteBufSz w).length) = .ok) :
    Opened E mallocOk size log dst (w ++ chunk) := by
  refine ⟨h.next, h.fits, h.begins, h.buffer, fun i hi => ?_⟩
  rw [cut_concat hdvd hne hle, List.length_append, List.length_singleton] at hi
  rcases Nat.lt_succ_iff_lt_or_eq.mp hi with hi | rfl
  · exact h.writes i hi
  · exact hok

/-- **A whole chunk** is written, or `esp_ota_write` fails and ends the call. -/
theorem PerformRun.Writing.chunk (h : p.Writing E C mallocOk size log dst)
    (hdvd : otaWriteBufSz ∣ p.t.written.length) (hlt : p.t.written.length < size) {chunk : Bytes}
    (hlen : chunk.length = p.t.want) {t' : TcpOta UInt8} {log' : FlashLog}
    (heq : p.t.chunk id E C chunk p.log = (t', log')) (unread : Bytes) :
    ((otaSessionWrite E C p.t.s (chunk.map id) p.log).1 = .ok ∧
      PerformRun.Writing E C mallocOk size log dst ⟨t', log', unread, p.heap⟩ ∧
      t'.written = p.t.written ++ chunk ∧
      t'.pc = if t'.written.length < size then .payload [] else .tail []) ∨
    ((otaSessionWrite E C p.t.s (chunk.map id) p.log).1 ≠ .ok ∧
      PerformState E C mallocOk size stream log ⟨t', log', unread, p.heap ++ [.free]⟩) := by
  obtain ⟨hact, hhandle, hexp, hcount, hrecv, hle, hbound⟩ := h.receiving
  have hwant := h.want
  have hsize := h.size_eq
  have hbuf : 0 < otaWriteBufSz := by decide
  have hne : chunk ≠ [] := List.ne_nil_of_length_pos (by omega)
  have hle' : chunk.length ≤ otaWriteBufSz := by omega
  have hmod : (p.t.written.length + chunk.length) % 2 ^ 32 = p.t.written.length + chunk.length :=
    Nat.mod_eq_of_lt (by omega)
  have hfit : (p.t.s.bytesWritten + chunk.length) % 2 ^ 32 ≤ p.t.s.bytesExpected := by
    rw [hcount, hmod, hexp]
    omega
  have hpos : p.log.length = log.length + 1 + (Chunks.cut otaWriteBufSz p.t.written).length := by
    rw [h.log_eq, length_openedLog]
  have hhandle' : p.t.s.wr.handle = begun log + 1 := congrArg OtaWriter.handle h.wr
  rw [TcpOta.chunk] at heq
  rw [List.map_id] at heq ⊢
  by_cases hok : E.fate .otaWrite p.log.length = .ok
  · obtain ⟨since, hw⟩ := otaSessionWrite_ok E C hact hne hhandle hfit hok
    rw [hw] at heq ⊢
    cases heq
    have hlog : openedLog dst size log (p.t.written ++ chunk) =
        openedLog dst size log p.t.written ++ [.otaWrite (begun log + 1) chunk .ok] := by
      rw [openedLog, openedLog, cut_concat hdvd hne hle', List.map_append, List.append_assoc,
        List.cons_append]
      rfl
    refine .inl ⟨rfl, ?_, rfl, ?_⟩
    · exact {
        opened := h.opened.concat hdvd hne hle' (by rw [← hpos]; exact hok)
        receiving := ⟨hact, hhandle, hexp, by simp only [hcount, hmod, List.length_append],
          by simp only [hrecv, hmod, List.length_append],
          by simp only [List.length_append]; omega, hbound⟩
        size_eq := h.size_eq
        wr := h.wr
        crcRunning := by simp only [h.crcRunning, C.update_append]
        sent := h.sent
        log_eq := by simp only [hlog, h.log_eq, hhandle']
        heap := h.heap }
    · simp only [hrecv, hmod, h.size_eq, List.length_append]
  · have hw := otaSessionWrite_refused (C := C) hact hne hhandle hfit hok
    rw [hw] at heq ⊢
    refine .inr ⟨hok, ?_⟩
    dsimp only at heq
    rw [if_pos hok] at heq
    cases heq
    refine .returned _ rfl
      (.writeFailed dst p.t.written chunk hlt hdvd hok (by rw [← hpos]) ?_ ?_ ?_)
    · exact congrArg (· ++ [lit "ERR ota_write"]) h.sent
    · change (otaSessionAbort p.t.s (p.log ++ [_])).2 = _
      rw [h.abort, h.log_eq, hhandle', List.append_assoc]
      rfl
    · exact congrArg (· ++ [HeapCall.free]) h.heap

/-- The trailer is what stands behind the payload. -/
theorem trailerCrc_append {w tail : Bytes} (hw : w.length = size) (htail : tail.length = 4)
    (rest : Bytes) :
    trailerCrc size (w ++ (tail ++ rest)) = UInt32.ofNat (readLe 4 tail) := by
  match tail, htail with
  | [_, _, _, _], _ =>
    rw [trailerCrc, List.drop_left' hw]
    rfl

/-- **The whole trailer** decides: the handle is aborted, or closed and the boot partition
switched. -/
theorem PerformRun.Writing.finish (h : p.Writing E C mallocOk size log dst)
    (hall : p.t.written.length = size) {tail rest : Bytes} (htail : tail.length = 4)
    (hstream : stream = p.t.written ++ (tail ++ rest)) {t' : TcpOta UInt8} {log' : FlashLog}
    (heq : p.t.finish id E tail p.log = (t', log')) :
    PerformState E C mallocOk size stream log ⟨t', log', rest, p.heap ++ [.free]⟩ := by
  have htake : stream.take size = p.t.written := by rw [hstream, List.take_left' hall]
  have hdrop : rest = stream.drop (size + 4) := by
    rw [hstream, ← List.append_assoc, List.drop_left' (by rw [List.length_append, hall, htail])]
  have hlen : size + 4 ≤ stream.length := by
    rw [hstream, List.length_append, List.length_append, hall, htail]
    omega
  have hcrc : UInt32.ofNat (readLe 4 (tail.map id)) = trailerCrc size stream := by
    rw [List.map_id, hstream, trailerCrc_append hall htail]
  have hlog : p.log = openedLog dst size log (stream.take size) := by rw [htake, h.log_eq]
  have hopened : Opened E mallocOk size log dst (stream.take size) := by
    rw [htake]
    exact h.opened
  have hrunning : p.t.s.crcRunning = C.update 0 (stream.take size) := by rw [htake, h.crcRunning]
  have hheap : p.heap ++ [.free] = [.malloc true, .free] := congrArg (· ++ [HeapCall.free]) h.heap
  have hcounted : p.t.s.bytesWritten = p.t.s.bytesExpected := by
    rw [h.receiving.counted, h.receiving.expected, hall, h.size_eq]
  obtain ⟨⟨e, s', log₁⟩, hf⟩ :
    ∃ q, otaSessionFinish E { p.t.s with crcExpect := trailerCrc size stream } p.log = q :=
    ⟨_, rfl⟩
  have hcases := otaSessionFinish_whole (s := { p.t.s with crcExpect := trailerCrc size stream })
    h.receiving.active h.wr (Nat.succ_ne_zero _) hcounted hf
  simp only [TcpOta.finish, hcrc, hf] at heq
  simp only [hrunning, hlog] at hcases
  rw [hheap]
  rcases hcases with
    ⟨hzero, hne, rfl, rfl⟩ | ⟨hgood, ⟨hne, he, rfl⟩ | ⟨hend, he, rfl⟩⟩
  · rw [if_neg (by decide)] at heq
    cases heq
    refine .returned _ rfl (.crcFailed dst (not_or.mpr ⟨hzero, hne⟩) ?_ rfl rfl)
    exact congrArg (· ++ [lit "CRCFAIL"]) h.sent
  · rw [if_neg hne] at heq
    cases heq
    refine .returned _ rfl (.endFailed dst hgood hne ?_ (.inl ⟨he.symm, rfl⟩) rfl)
    exact congrArg (· ++ [_]) h.sent
  · by_cases hok : e = .ok
    · rw [if_pos hok] at heq
      cases heq
      subst hok
      refine .restarting dst rfl hopened hlen hgood hend he.symm ?_ hdrop rfl rfl
      exact congrArg (· ++ [lit "OK"]) h.sent
    · rw [if_neg hok] at heq
      cases heq
      refine .returned _ rfl (.endFailed dst hgood hok ?_ (.inr ⟨he.symm, rfl⟩) rfl)
      exact congrArg (· ++ [_]) h.sent

/-- An interrupted `recv` changes nothing. -/
theorem PerformRun.step_eintr (fault : Bool) : p.step E C fault none = p := by
  have hrecv : otaPerformRecv id E C .eintr p.t p.log = (p.t, p.log) := by
    unfold otaPerformRecv
    cases p.t.pc <;> rfl
  have hheap : otaPerformRecvHeap E C .eintr p.t p.log = [] := by
    unfold otaPerformRecvHeap
    cases p.t.pc <;> rfl
  simp only [PerformRun.step, sockRecv, hrecv, hheap, Recv.taken, List.drop_zero, List.append_nil]

/-- A call that is done calls `recv` no more. -/
theorem PerformRun.Done.step (hdone : p.Done) (fault : Bool) (a : Option Nat) :
    p.step E C fault a = p := by
  have hrecv : ∀ r, otaPerformRecv id E C r p.t p.log = (p.t, p.log) ∧
      otaPerformRecvHeap E C r p.t p.log = [] ∧ p.t.asks = 0 := by
    intro r
    unfold PerformRun.Done at hdone
    unfold otaPerformRecv otaPerformRecvHeap TcpOta.asks
    cases hpc : p.t.pc <;> simp_all [TcpPc.ended]
  have htaken : (sockRecv fault p.t.asks p.unread a).taken = 0 := by
    rw [(hrecv .err).2.2]
    cases a with
    | none => rfl
    | some m =>
      unfold sockRecv
      dsimp only
      split
      · split <;> rfl
      · simp [Recv.taken]
  simp only [PerformRun.step, (hrecv _).1, (hrecv _).2.1, htaken, List.drop_zero, List.append_nil]

/-- With nothing left on the stream, `recv` fails or reports the end. -/
theorem PerformRun.step_end (hun : p.unread = []) (fault : Bool) (m : Nat) :
    ∃ r, (r = .err ∨ r = .data []) ∧ p.step E C fault (some m) =
      ⟨(otaPerformRecv id E C r p.t p.log).1, (otaPerformRecv id E C r p.t p.log).2, [],
        p.heap ++ otaPerformRecvHeap E C r p.t p.log⟩ := by
  cases fault with
  | true => exact ⟨.err, .inl rfl, by simp [PerformRun.step, sockRecv, hun]⟩
  | false => exact ⟨.data [], .inr rfl, by simp [PerformRun.step, sockRecv, hun]⟩

/-- Otherwise it takes some bytes off it, at most those that it asks for. -/
theorem PerformRun.step_data (hun : p.unread ≠ []) (hasks : 0 < p.t.asks) (fault : Bool) (m : Nat) :
    ∃ b bs rest, p.unread = (b :: bs) ++ rest ∧ (b :: bs).length ≤ p.t.asks ∧
      p.step E C fault (some m) =
        ⟨(otaPerformRecv id E C (.data (b :: bs)) p.t p.log).1,
          (otaPerformRecv id E C (.data (b :: bs)) p.t p.log).2, rest,
          p.heap ++ otaPerformRecvHeap E C (.data (b :: bs)) p.t p.log⟩ := by
  have hne : p.unread.take (min (m + 1) p.t.asks) ≠ [] := by
    have := List.length_pos_of_ne_nil hun
    refine List.ne_nil_of_length_pos ?_
    rw [List.length_take]
    omega
  have hlen : (p.unread.take (min (m + 1) p.t.asks)).length ≤ p.t.asks := by
    rw [List.length_take]
    omega
  have hsplit : p.unread = p.unread.take (min (m + 1) p.t.asks) ++
      p.unread.drop (p.unread.take (min (m + 1) p.t.asks)).length := by
    conv_lhs => rw [← List.take_append_drop (min (m + 1) p.t.asks) p.unread]
    congr 1
    rcases Nat.le_total (min (m + 1) p.t.asks) p.unread.length with hle | hge
    · rw [List.length_take_of_le hle]
    · rw [List.take_of_length_le hge, List.drop_eq_nil_of_le hge, List.drop_length]
  obtain ⟨b, bs, hbs⟩ := List.exists_cons_of_ne_nil hne
  rw [hbs] at hlen hsplit
  refine ⟨b, bs, _, hsplit, hlen, ?_⟩
  simp only [PerformRun.step, sockRecv, if_neg hun, hbs, Recv.taken]

/-- Bytes that do not complete a chunk or the trailer are only collected. -/
theorem PerformRun.Writing.collect (h : p.Writing E C mallocOk size log dst) (pc : TcpPc UInt8)
    (unread : Bytes) :
    PerformRun.Writing E C mallocOk size log dst ⟨{ p.t with pc := pc }, p.log, unread, p.heap⟩ :=
  have hr := h.receiving
  ⟨h.opened, ⟨hr.active, hr.handle, hr.expected, hr.counted, hr.received, hr.le, hr.bound⟩,
    h.size_eq, h.wr, h.crcRunning, h.sent, h.log_eq, h.heap⟩

/-- When the stream has ended, the call is cut off. -/
theorem PerformRun.Writing.step_ended (hw : p.Writing E C mallocOk size log dst) {got : Bytes}
    (hpc : p.t.pc = .payload got ∨ p.t.pc = .tail got) (hun : p.unread = [])
    (hshort : stream.length < size + 4) (fault : Bool) (m : Nat) :
    PerformState E C mallocOk size stream log (p.step E C fault (some m)) := by
  obtain ⟨r, hr, hstep⟩ := PerformRun.step_end (E := E) (C := C) hun fault m
  rw [hstep]
  rcases hpc with hpc | hpc <;> rcases hr with rfl | rfl
  all_goals
    simp only [otaPerformRecv, otaPerformRecvHeap, hpc]
    exact hw.cutOff hshort _ _

/-- Bytes of the payload are collected, and a chunk that they complete is written. -/
theorem PerformRun.Writing.step_payload (hw : p.Writing E C mallocOk size log dst) {got : Bytes}
    (hpc : p.t.pc = .payload got) (hgot : got.length < p.t.want)
    (hdvd : otaWriteBufSz ∣ p.t.written.length)
    (hstream : stream = p.t.written ++ (got ++ p.unread)) (hun : p.unread ≠ []) (fault : Bool)
    (m : Nat) : PerformState E C mallocOk size stream log (p.step E C fault (some m)) := by
  have hwant := hw.want
  have hasks : p.t.asks = p.t.want - got.length := by simp only [TcpOta.asks, hpc]
  obtain ⟨b, bs, rest, hunread, hlen, hstep⟩ :=
    PerformRun.step_data (E := E) (C := C) hun (by omega) fault m
  have htake := List.take_of_length_le hlen
  have hstream' : stream = p.t.written ++ ((got ++ b :: bs) ++ rest) := by
    rw [hstream, hunread, List.append_assoc got]
  rw [hstep]
  simp only [otaPerformRecv, otaPerformRecvHeap, hpc, htake]
  by_cases hshort : (got ++ b :: bs).length < p.t.want
  · simp only [if_pos hshort, List.append_nil]
    exact .payload dst _ (hw.collect _ _) rfl hshort hdvd hstream'
  · have hfull : (got ++ b :: bs).length = p.t.want := by
      rw [List.length_append] at hshort ⊢
      omega
    obtain ⟨⟨t', log'⟩, hc⟩ : ∃ q, p.t.chunk id E C (got ++ b :: bs) p.log = q := ⟨_, rfl⟩
    simp only [if_neg hshort, hc]
    rcases hw.chunk hdvd (by omega) hfull hc rest with
      ⟨hok, hw', hwritten, hpc'⟩ | ⟨hne, hreturned⟩
    · have hgrown : t'.written.length = p.t.written.length + p.t.want := by
        rw [hwritten, List.length_append, hfull]
      have hstream'' : stream = t'.written ++ ([] ++ rest) := by
        rw [hstream', hwritten, List.nil_append, List.append_assoc p.t.written]
      rw [if_neg (not_not.mpr hok), List.append_nil]
      by_cases hmore : t'.written.length < size
      · rw [if_pos hmore] at hpc'
        have hbuf : 0 < otaWriteBufSz := by decide
        have hwant' : p.t.want = otaWriteBufSz := by omega
        refine .payload dst [] hw' hpc' ?_ ?_ hstream''
        · rw [hw'.want]
          exact Nat.lt_min.mpr ⟨Nat.sub_pos_of_lt hmore, hbuf⟩
        · change otaWriteBufSz ∣ t'.written.length
          rw [hgrown, hwant']
          exact Nat.dvd_add hdvd (Nat.dvd_refl _)
      · rw [if_neg hmore] at hpc'
        refine .tail dst [] hw' hpc' (by decide) ?_ hstream''
        change t'.written.length = size
        omega
    · rw [if_pos hne]
      exact hreturned

/-- Bytes of the trailer are collected, and behind it the session is finished. -/
theorem PerformRun.Writing.step_tail (hw : p.Writing E C mallocOk size log dst) {got : Bytes}
    (hpc : p.t.pc = .tail got) (hgot : got.length < 4) (hall : p.t.written.length = size)
    (hstream : stream = p.t.written ++ (got ++ p.unread)) (hun : p.unread ≠ []) (fault : Bool)
    (m : Nat) : PerformState E C mallocOk size stream log (p.step E C fault (some m)) := by
  have hasks : p.t.asks = 4 - got.length := by simp only [TcpOta.asks, hpc]
  obtain ⟨b, bs, rest, hunread, hlen, hstep⟩ :=
    PerformRun.step_data (E := E) (C := C) hun (by omega) fault m
  have htake := List.take_of_length_le hlen
  have hstream' : stream = p.t.written ++ ((got ++ b :: bs) ++ rest) := by
    rw [hstream, hunread, List.append_assoc got]
  rw [hstep]
  simp only [otaPerformRecv, otaPerformRecvHeap, hpc, htake]
  by_cases hshort : (got ++ b :: bs).length < 4
  · simp only [if_pos hshort, List.append_nil]
    exact .tail dst _ (hw.collect _ _) rfl hshort hall hstream'
  · have hfull : (got ++ b :: bs).length = 4 := by
      rw [List.length_append] at hshort ⊢
      omega
    simp only [if_neg hshort]
    exact hw.finish hall hfull hstream' rfl

/-- **Every `recv` keeps the call in one of its states.** -/
theorem PerformState.step (h : PerformState E C mallocOk size stream log p) (fault : Bool)
    (a : Option Nat) : PerformState E C mallocOk size stream log (p.step E C fault a) := by
  cases a with
  | none =>
    rw [PerformRun.step_eintr]
    exact h
  | some m =>
    cases h with
    | returned e hpc hexit =>
      rw [PerformRun.Done.step (by rw [PerformRun.Done, hpc]; rfl)]
      exact .returned e hpc hexit
    | restarting dst hpc hopened hlen hcrc hend hboot hsent hunread hlog hheap =>
      rw [PerformRun.Done.step (by rw [PerformRun.Done, hpc]; rfl)]
      exact .restarting dst hpc hopened hlen hcrc hend hboot hsent hunread hlog hheap
    | payload dst got hw hpc hgot hdvd hstream =>
      by_cases hun : p.unread = []
      · refine hw.step_ended (.inl hpc) hun ?_ fault m
        have hwant := hw.want
        rw [hstream, hun, List.append_nil, List.length_append]
        omega
      · exact hw.step_payload hpc hgot hdvd hstream hun fault m
    | tail dst got hw hpc hgot hall hstream =>
      by_cases hun : p.unread = []
      · refine hw.step_ended (.inr hpc) hun ?_ fault m
        rw [hstream, hun, List.append_nil, List.length_append]
        omega
      · exact hw.step_tail hpc hgot hall hstream hun fault m

/-- A call that was entered stands in one of the states, however `recv` has answered so far. -/
theorem performState_exec {s : OtaSession} (hact : s.active = false) (hsize : size ≠ 0)
    (fault : Bool) (plan : List (Option Nat)) :
    PerformState E C mallocOk size stream log
      (Run.exec (PerformRun.step E C fault) (.enter E s mallocOk size stream log) plan) :=
  Run.exec_inv (performState_enter hact hsize) (fun _ a h => h.step fault a) plan

/-! ## The call comes to an end -/

/-- A `recv` that is not interrupted ends the call or shortens the stream. -/
theorem PerformState.progress (h : PerformState E C mallocOk size stream log p) (fault : Bool)
    (m : Nat) : (p.step E C fault (some m)).Done ∨
      (p.step E C fault (some m)).unread.length < p.unread.length := by
  have hloop : (∃ got, p.t.pc = .payload got) ∨ (∃ got, p.t.pc = .tail got) → 0 < p.t.asks →
      (p.step E C fault (some m)).Done ∨
        (p.step E C fault (some m)).unread.length < p.unread.length := by
    intro hpc hasks
    by_cases hun : p.unread = []
    · obtain ⟨r, hr, hstep⟩ := PerformRun.step_end (E := E) (C := C) hun fault m
      rw [hstep]
      rcases hr with rfl | rfl <;> rcases hpc with ⟨got, hpc⟩ | ⟨got, hpc⟩ <;>
        exact .inl (by simp [PerformRun.Done, TcpPc.ended, otaPerformRecv, hpc, TcpOta.fail])
    · obtain ⟨b, bs, rest, hunread, -, hstep⟩ :=
        PerformRun.step_data (E := E) (C := C) hun hasks fault m
      rw [hstep, hunread, List.length_append, List.length_cons]
      exact .inr (by dsimp only; omega)
  cases h with
  | payload dst got hw hpc hgot =>
    exact hloop (.inl ⟨got, hpc⟩) (by simp only [TcpOta.asks, hpc]; omega)
  | tail dst got hw hpc hgot =>
    exact hloop (.inr ⟨got, hpc⟩) (by simp only [TcpOta.asks, hpc]; omega)
  | returned e hpc hexit =>
    have hdone : p.Done := by rw [PerformRun.Done, hpc]; rfl
    rw [hdone.step]
    exact .inl hdone
  | restarting dst hpc =>
    have hdone : p.Done := by rw [PerformRun.Done, hpc]; rfl
    rw [hdone.step]
    exact .inl hdone

/-- A call that is done stays as it is. -/
theorem PerformRun.Done.exec (hdone : p.Done) (fault : Bool) (plan : List (Option Nat)) :
    Run.exec (PerformRun.step E C fault) p plan = p := by
  induction plan with
  | nil => rfl
  | cons a plan ih => rw [Run.exec_cons, hdone.step, ih]

/-- After more uninterrupted `recv`s than there are bytes on the stream the call is done. -/
theorem PerformState.exec_done (h : PerformState E C mallocOk size stream log p) (fault : Bool)
    {plan : List (Option Nat)} (hplan : p.unread.length < plan.countP (·.isSome)) :
    (Run.exec (PerformRun.step E C fault) p plan).Done := by
  induction plan generalizing p with
  | nil => simp at hplan
  | cons a plan ih =>
    rw [Run.exec_cons]
    cases a with
    | none =>
      rw [PerformRun.step_eintr]
      exact ih h (by simpa using hplan)
    | some m =>
      rcases h.progress (E := E) (C := C) fault m with hdone | hlt
      · rw [hdone.exec]
        exact hdone
      · refine ih (h.step fault _) ?_
        rw [List.countP_cons_of_pos rfl] at hplan
        omega

/-- Where `recv` is not interrupted from the `K`-th call on, at most `K` of its answers are
interruptions. -/
theorem countP_answers {f : Nat → Option Nat} {K : Nat} (hf : ∀ k, K ≤ k → f k ≠ none) (n : Nat) :
    n ≤ K + ((List.range n).map f).countP (·.isSome) := by
  induction n with
  | zero => exact Nat.zero_le _
  | succ n ih =>
    rw [List.range_succ, List.map_append, List.countP_append]
    by_cases hk : K ≤ n
    · have hsome : (f n).isSome = true := Option.isSome_iff_ne_none.mpr (hf n hk)
      rw [List.map_singleton, List.countP_cons_of_pos hsome]
      omega
    · omega

end

end

end RemoteControl
