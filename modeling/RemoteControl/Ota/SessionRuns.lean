import RemoteControl.Lib.Run
import RemoteControl.Ota.Session

/-!
# Runs of one OTA session

A session object that starts zeroed is taken through any sequence of begin, write, finish and abort
calls, under any pattern of driver failures. `SessionRun` adds to the object and the flash log the
chunks that `ota_session_write` accepted since the last successful begin. `SessionInv` says that an
active session is resumable: its handle is open, and its counters, its CRC and what
`esp_ota_write` took on its handle are all those of the accepted chunks. Every operation preserves
it (`SessionInv.step`), and `otaSession_activation_safe` reads off it when the boot partition can
change.
-/

namespace RemoteControl

open CString

/-- A call on the session object. -/
inductive SessionOp where
  | begin (totalSize : Nat) (crc : UInt32) (source : Bytes)
  | write (data : Bytes)
  | finish
  | abort

/-- The session object, the flash log, and the chunks accepted since its last begin. -/
structure SessionRun where
  s : OtaSession
  log : FlashLog
  accepted : List Bytes

/-- A zeroed object on a device whose flash has not been touched. -/
def SessionRun.init : SessionRun := ⟨.zero, [], []⟩

variable (E : FlashEnv) (C : Crc32)

/-- The result of the call in a state. -/
def SessionRun.result (r : SessionRun) : SessionOp → EspErr
  | .begin n crc src => (otaSessionBegin E r.s n crc src r.log).1
  | .write d => (otaSessionWrite E C r.s d r.log).1
  | .finish => (otaSessionFinish E r.s r.log).1
  | .abort => .ok

/-- The state after the call. -/
def SessionRun.step (r : SessionRun) : SessionOp → SessionRun
  | .begin n crc src =>
    let (e, s, log) := otaSessionBegin E r.s n crc src r.log
    ⟨s, log, if e = .ok then [] else r.accepted⟩
  | .write d =>
    let (e, s, log) := otaSessionWrite E C r.s d r.log
    ⟨s, log, if e = .ok then r.accepted ++ [d] else r.accepted⟩
  | .finish =>
    let (_, s, log) := otaSessionFinish E r.s r.log
    ⟨s, log, r.accepted⟩
  | .abort =>
    let (s, log) := otaSessionAbort r.s r.log
    ⟨s, log, r.accepted⟩

/-- The callers' bound on a chunk (a `uint16_t` length on BLE, a 4096 byte buffer on TCP). -/
def SessionOp.Bounded : SessionOp → Prop
  | .write d => d.length ≤ 65535
  | _ => True

/-- A session that can take the next chunk: its handle is open, and what it has counted is exactly
what it has accepted and what the flash driver has taken. -/
structure Resumable (r : SessionRun) : Prop where
  handle : handleOpen r.s.wr.handle r.log = true
  target : ∃ dst, E.next = some dst ∧ r.s.wr.dst = some dst ∧ r.s.bytesExpected ≤ dst.size
  written : r.s.bytesWritten = r.accepted.flatten.length
  fits : r.s.bytesWritten ≤ r.s.bytesExpected
  crc : r.s.crcRunning = C.update 0 r.accepted.flatten
  stored : stored r.s.wr.handle r.log = r.accepted

/-- The invariant of session runs. -/
structure SessionInv (r : SessionRun) : Prop where
  numbered : Numbered r.log
  handle_le : r.s.wr.handle ≤ begun r.log
  resumable : r.s.active = true → Resumable E C r

variable {E C}

theorem handleOpen_append_write {h h' : Nat} {d : Bytes} {res : EspErr} {log : FlashLog} :
    handleOpen h (log ++ [.otaWrite h' d res]) = handleOpen h log := by
  simp [handleOpen, FlashCall.closes]

/-- The handle of a successful begin is open. -/
theorem Numbered.handleOpen_fresh {log : FlashLog} (hn : Numbered log) (p : Partition) (n : Nat) :
    handleOpen (begun log + 1) (log ++ [.otaBegin p n .ok]) = true := by
  have hc := hn.not_closes_fresh (Nat.lt_succ_self (begun log))
  simp only [handleOpen, begun_append, begun_begin, if_true, List.any_append, hc, Bool.false_or]
  simp [FlashCall.closes]

/-- A begin, whatever it returns, keeps the log numbered. -/
theorem Numbered.begin {log : FlashLog} (hn : Numbered log) (p : Partition) (n : Nat)
    (res : EspErr) : Numbered (log ++ [.otaBegin p n res]) :=
  hn.append (by simp [FlashCall.handle])

/-- What `ota_writer_end` adds keeps the log numbered and opens nothing. -/
theorem otaWriterEnd_numbered {wr : OtaWriter} {log log' : FlashLog} {e : EspErr}
    (hn : Numbered log) (hle : wr.handle ≤ begun log) (h : otaWriterEnd E wr log = (e, log')) :
    Numbered log' ∧ begun log' = begun log := by
  rcases otaWriterEnd_cases E wr log h with ⟨-, rfl, -⟩ | ⟨-, dst, -, ⟨-, rfl⟩ | rfl⟩
  · exact ⟨hn, rfl⟩
  · exact ⟨hn.append (by simpa [FlashCall.handle] using hle), by simp⟩
  · exact ⟨hn.append (by simpa [FlashCall.handle] using hle), by simp [begun]⟩

/-- What `ota_writer_abort` adds keeps the log numbered and opens nothing. -/
theorem abortCalls_numbered {wr : OtaWriter} {log : FlashLog} (hn : Numbered log)
    (hle : wr.handle ≤ begun log) :
    Numbered (log ++ abortCalls wr) ∧ begun (log ++ abortCalls wr) = begun log := by
  unfold abortCalls
  split
  · simpa using hn
  · exact ⟨hn.append (by simpa [FlashCall.handle] using hle), by simp⟩

/-- **A begin preserves the invariant.** -/
theorem SessionInv.begin {r : SessionRun} (hi : SessionInv E C r) (n : Nat) (crc : UInt32)
    (src : Bytes) : SessionInv E C (r.step E C (.begin n crc src)) := by
  obtain ⟨⟨e, s', log'⟩, h⟩ : ∃ q, otaSessionBegin E r.s n crc src r.log = q := ⟨_, rfl⟩
  simp only [SessionRun.step, h]
  rcases otaSessionBegin_cases E r.s n crc src r.log h with
    ⟨rfl, -, dst, hdst, hsz, -, rfl, hb⟩ | ⟨hne, rfl, rfl⟩ | ⟨hne, -, hact, hh, hlog⟩
  · -- a fresh handle, nothing accepted on it yet
    refine ⟨hi.numbered.begin _ _ _, by simp [hb.wr], fun _ => ?_⟩
    exact {
      handle := by rw [hb.wr]; exact hi.numbered.handleOpen_fresh dst n
      target := ⟨dst, hdst, by rw [hb.wr], by rw [hb.expected]; exact hsz⟩
      written := by simp [hb.written]
      fits := by rw [hb.written]; exact Nat.zero_le _
      crc := by simp [hb.crcRunning, C.update_nil]
      stored := by rw [hb.wr]; simp [hi.numbered.stored_fresh (Nat.lt_succ_self _)] }
  · rw [if_neg hne]; exact hi
  · refine ⟨?_, by rw [hh]; exact Nat.zero_le _, fun h' => by simp [hact] at h'⟩
    rcases hlog with rfl | ⟨dst, res, -, rfl⟩
    · exact hi.numbered
    · exact hi.numbered.begin _ _ _

/-- **A write preserves the invariant**, for a chunk that cannot wrap the counter. -/
theorem SessionInv.write {r : SessionRun} (hi : SessionInv E C r)
    (hp : ∀ dst, E.next = some dst → dst.size < 2 ^ 32 - 65536) {d : Bytes}
    (hd : d.length ≤ 65535) : SessionInv E C (r.step E C (.write d)) := by
  obtain ⟨⟨e, s', log'⟩, h⟩ : ∃ q, otaSessionWrite E C r.s d r.log = q := ⟨_, rfl⟩
  simp only [SessionRun.step, h]
  rcases otaSessionWrite_cases E C r.s d r.log h with
    ⟨rfl, hact, -, -, hfit, rfl, since, rfl⟩ | ⟨hne, rfl, hlog⟩
  · obtain ⟨hopen, ⟨dst, hdst, hwr, hsz⟩, hw, hle, hcrc, hst⟩ := hi.resumable hact
    have hmod : (r.s.bytesWritten + d.length) % 2 ^ 32 = r.s.bytesWritten + d.length :=
      Nat.mod_eq_of_lt (by have := hp dst hdst; omega)
    rw [hmod] at hfit
    refine ⟨hi.numbered.append (by simpa [FlashCall.handle] using hi.handle_le),
      by simpa using hi.handle_le, fun _ => ?_⟩
    exact {
      handle := by rw [handleOpen_append_write]; exact hopen
      target := ⟨dst, hdst, hwr, hsz⟩
      written := by simp only [hmod]; simp [hw]
      fits := by simp only [hmod]; exact hfit
      crc := by simp [hcrc, C.update_append]
      stored := by simp [hst] }
  · rw [if_neg hne]
    rcases hlog with rfl | ⟨res, hres, rfl⟩
    · exact hi
    · -- a failed `esp_ota_write` is in the log but took nothing
      refine ⟨hi.numbered.append (by simpa [FlashCall.handle] using hi.handle_le),
        by simpa using hi.handle_le, fun hact => ?_⟩
      have hr := hi.resumable hact
      exact {
        handle := by rw [handleOpen_append_write]; exact hr.handle
        target := hr.target
        written := hr.written
        fits := hr.fits
        crc := hr.crc
        stored := by simp [hr.stored, hres] }

/-- **A finish preserves the invariant**: the session is inactive afterwards. -/
theorem SessionInv.finish {r : SessionRun} (hi : SessionInv E C r) :
    SessionInv E C (r.step E C .finish) := by
  obtain ⟨⟨e, s', log'⟩, h⟩ : ∃ q, otaSessionFinish E r.s r.log = q := ⟨_, rfl⟩
  simp only [SessionRun.step, h]
  rcases otaSessionFinish_cases E r.s r.log h with
    ⟨-, -, rfl, rfl⟩ | ⟨-, -, -, rfl, rfl⟩ | ⟨-, rfl, -, -, hend⟩
  · exact hi
  · exact ⟨(abortCalls_numbered hi.numbered hi.handle_le).1, Nat.zero_le _, nofun⟩
  · obtain ⟨hn, hb⟩ := otaWriterEnd_numbered hi.numbered hi.handle_le hend
    exact ⟨hn, hb ▸ hi.handle_le, nofun⟩

/-- **An abort preserves the invariant.** -/
theorem SessionInv.abort {r : SessionRun} (hi : SessionInv E C r) :
    SessionInv E C (r.step E C .abort) := by
  simp only [SessionRun.step, otaSessionAbort_eq]
  cases hact : r.s.active with
  | false => exact hi
  | true => exact ⟨(abortCalls_numbered hi.numbered hi.handle_le).1, Nat.zero_le _, nofun⟩

/-- **Every call preserves the invariant.** -/
theorem SessionInv.step {r : SessionRun} (hi : SessionInv E C r)
    (hp : ∀ dst, E.next = some dst → dst.size < 2 ^ 32 - 65536) {op : SessionOp}
    (hop : op.Bounded) : SessionInv E C (r.step E C op) := by
  cases op with
  | begin n crc src => exact hi.begin n crc src
  | write d => exact hi.write hp hop
  | finish => exact hi.finish
  | abort => exact hi.abort

/-- The invariant holds after every sequence of calls on a session object that starts zeroed. -/
theorem sessionInv_exec (hp : ∀ dst, E.next = some dst → dst.size < 2 ^ 32 - 65536)
    {ops : List SessionOp} (hops : ∀ op ∈ ops, op.Bounded) :
    SessionInv E C (Run.exec (SessionRun.step E C) .init ops) :=
  (Run.along_of_forall_mem _ hops).exec_inv ⟨nofun, Nat.zero_le _, nofun⟩
    fun _ _ hi hop => hi.step hp hop

/-! ## Activation -/

/-- The session of a state may activate its image: it is active, the accepted chunks have exactly
the announced length, `esp_ota_write` took each of them on the session's handle in order, and the
announced CRC is 0 or theirs. -/
structure Complete (C : Crc32) (r : SessionRun) : Prop where
  active : r.s.active = true
  length : r.accepted.flatten.length = r.s.bytesExpected
  taken : stored r.s.wr.handle r.log = r.accepted
  crc : r.s.crcExpect = 0 ∨ r.s.crcExpect = C.update 0 r.accepted.flatten

/-- No call but a finish touches the boot partition. -/
theorem SessionRun.step_keepsBoot (r : SessionRun) {op : SessionOp} (hop : op ≠ .finish) :
    KeepsBoot r.log (r.step E C op).log := by
  cases op with
  | begin n crc src => exact otaSessionBegin_keepsBoot E r.s n crc src r.log
  | write d => exact otaSessionWrite_keepsBoot E C r.s d r.log
  | finish => exact absurd rfl hop
  | abort => exact otaSessionAbort_keepsBoot r.s r.log

/-- **What a finish does to the boot partition.** It calls `esp_ota_set_boot_partition` only on a
complete session, and only a call that returns `ESP_OK` has switched it. -/
theorem SessionInv.finish_log {r : SessionRun} (hi : SessionInv E C r) :
    ∃ new, (r.step E C .finish).log = r.log ++ new ∧
      (∀ p res, FlashCall.setBoot p res ∈ new → Complete C r ∧ res = r.result E C .finish) := by
  obtain ⟨⟨e, s', log'⟩, h⟩ : ∃ q, otaSessionFinish E r.s r.log = q := ⟨_, rfl⟩
  simp only [SessionRun.step, SessionRun.result, h]
  rcases otaSessionFinish_cases E r.s r.log h with
    ⟨-, -, -, rfl⟩ | ⟨-, -, -, -, rfl⟩ | ⟨hact, -, hw, hcrc, hend⟩
  · exact ⟨[], by simp, by simp⟩
  · exact ⟨_, rfl, by unfold abortCalls; split <;> simp⟩
  · have hr := hi.resumable hact
    have hc : Complete C r :=
      { active := hact
        length := by rw [← hr.written, hw]
        taken := hr.stored
        crc := hcrc.imp id fun h => by rw [← h, hr.crc] }
    rcases otaWriterEnd_cases E r.s.wr r.log hend with ⟨-, rfl, -⟩ | ⟨-, dst, -, ⟨-, rfl⟩ | rfl⟩
    · exact ⟨[], by simp, by simp⟩
    · exact ⟨_, rfl, by simp⟩
    · refine ⟨_, rfl, fun p res hm => ⟨hc, ?_⟩⟩
      exact (by simpa using hm : p = dst ∧ res = e).2

/-- A call in the state `r` is safe for activation: it reaches `esp_ota_set_boot_partition` only as
a finish of a complete session; and unless it is a finish that returns `ESP_OK`, it leaves the boot
partition as it was and the session inactive or resumable. -/
def ActivationSafe (E : FlashEnv) (C : Crc32) (r : SessionRun) (op : SessionOp) : Prop :=
  ∃ new, (r.step E C op).log = r.log ++ new ∧
    (∀ p res, FlashCall.setBoot p res ∈ new → op = .finish ∧ Complete C r) ∧
    ((op = .finish ∧ r.result E C op = .ok) ∨
      (bootPartition (r.step E C op).log = bootPartition r.log ∧
        ((r.step E C op).s.active = false ∨ Resumable E C (r.step E C op))))

/-- **Activation safety of one session object.** After any sequence of calls on an object that
started zeroed, under any driver failures, the next call is safe for activation. Chunks are as long
as the callers' bound allows, and the partition leaves room for one above its size. -/
theorem otaSession_activation_safe (E : FlashEnv) (C : Crc32)
    (hp : ∀ dst, E.next = some dst → dst.size < 2 ^ 32 - 65536) (ops : List SessionOp)
    (op : SessionOp) (hops : ∀ o ∈ ops ++ [op], o.Bounded) :
    ActivationSafe E C (Run.exec (SessionRun.step E C) .init ops) op := by
  have hi : SessionInv E C (Run.exec (SessionRun.step E C) .init ops) :=
    sessionInv_exec hp fun o ho => hops o (by simp [ho])
  generalize Run.exec (SessionRun.step E C) .init ops = r at hi
  have hi' : SessionInv E C (r.step E C op) := hi.step hp (hops op (by simp))
  have hres : (r.step E C op).s.active = false ∨ Resumable E C (r.step E C op) := by
    cases hact : (r.step E C op).s.active with
    | false => exact .inl rfl
    | true => exact .inr (hi'.resumable hact)
  by_cases hop : op = .finish
  · subst hop
    obtain ⟨new, hlog, hnew⟩ := hi.finish_log
    refine ⟨new, hlog, fun p res hm => ⟨rfl, (hnew p res hm).1⟩, ?_⟩
    by_cases hok : r.result E C .finish = .ok
    · exact .inl ⟨rfl, hok⟩
    · refine .inr ⟨?_, hres⟩
      rw [hlog]
      exact bootPartition_append _ fun p hm => hok (hnew p .ok hm).2.symm
  · obtain ⟨new, hlog, hnew⟩ := r.step_keepsBoot (E := E) (C := C) hop
    refine ⟨new, hlog, fun p res hm => absurd hm (hnew p res), .inr ⟨?_, hres⟩⟩
    rw [hlog]
    exact bootPartition_append _ fun p hm => hnew p .ok hm

/-- The slot `ota_0` of `partitions.csv`. -/
def ota0 : Partition := ⟨0x220000, 0x200000, by decide⟩

/-- A driver that updates `ota_0` and never fails. -/
def ota0Env : FlashEnv := ⟨some ota0, fun _ _ => .ok⟩

/-- A two byte image, complete: its finish is safe, and it switches the boot partition. -/
theorem otaSession_activation_safe_ota0 :
    let r := Run.exec (SessionRun.step ota0Env romCrc32) .init
      [.begin 2 0 (lit "TCP"), .write [0xE9, 1]]
    ActivationSafe ota0Env romCrc32 r .finish ∧
      bootPartition (r.step ota0Env romCrc32 .finish).log = some ota0 :=
  ⟨otaSession_activation_safe ota0Env romCrc32 (by rintro _ ⟨⟩; decide) _ .finish
    (by simp [SessionOp.Bounded]), by decide⟩

end RemoteControl
