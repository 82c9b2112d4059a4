import RemoteControl.Ble.OtaAdapter
import RemoteControl.Lib.Run
import RemoteControl.Ota.Memory
import RemoteControl.Ota.Perform
import RemoteControl.Ota.SessionRuns

/-!
# TCP and BLE updates side by side

Every run of `ota_perform` has a session object of its own, and the BLE adapter has `s_ble`; all of
them open the same update partition through one driver. `OtaWorld` interleaves their handlers in
any order. Underneath, each handler is a short list of session calls (`WriterOp`) on its own
session, and `OtaInv` says when that is safe: at most one session is open, and it is the sole writer
of its image. Only a begin can break it, because no handler looks at the sessions of the others.
-/

namespace RemoteControl

open CString

/-! ## Calls on one session -/

/-- What the transports do with a session: begin it, write a chunk and abort when that fails, set
the expected CRC, finish it, abort it. -/
inductive WriterOp where
  | begin (size : Nat) (crc : UInt32) (source : Bytes)
  | put (data : Bytes)
  | expect (crc : UInt32)
  | finish
  | abort

/-- A begin, rather than a call on an open session. -/
def WriterOp.isBegin : WriterOp → Bool
  | .begin _ _ _ => true
  | _ => false

/-- A session while it is active. -/
def OtaSession.live (s : OtaSession) : Option OtaSession := if s.active then some s else none

section
variable (E : FlashEnv) (C : Crc32)

/-- The call on a session that is open or not, and on the log. -/
def WriterOp.run : WriterOp → Option OtaSession × FlashLog → Option OtaSession × FlashLog
  | .begin n crc src, (none, log) =>
    let (_, s, log) := otaSessionBegin E .zero n crc src log
    (s.live, log)
  | .put data, (some s, log) =>
    let (e, s, log) := otaSessionWrite E C s data log
    if e = .ok then (some s, log) else (none, (otaSessionAbort s log).2)
  | .expect crc, (some s, log) => (some { s with crcExpect := crc }, log)
  | .finish, (some s, log) => (none, (otaSessionFinish E s log).2.2)
  | .abort, (some s, log) => (none, (otaSessionAbort s log).2)
  | _, r => r

/-- A list of calls. -/
def WriterOp.runs (ops : List WriterOp) (r : Option OtaSession × FlashLog) :
    Option OtaSession × FlashLog :=
  ops.foldl (fun r op => op.run E C r) r

variable {E C}

/-- Without an open session, calls that begin none do nothing. -/
theorem WriterOp.runs_none {ops : List WriterOp} (hops : ∀ op ∈ ops, op.isBegin = false)
    (log : FlashLog) : WriterOp.runs E C ops (none, log) = (none, log) := by
  induction ops with
  | nil => rfl
  | cons op ops ih =>
    have hop : op.run E C (none, log) = (none, log) := by
      cases op with
      | begin => exact absurd (hops _ List.mem_cons_self) (by simp [WriterOp.isBegin])
      | put | expect | finish | abort => rfl
    rw [WriterOp.runs, List.foldl_cons, hop]
    exact ih fun o ho => hops o (List.mem_cons_of_mem _ ho)

theorem live_of_active {s : OtaSession} (h : s.active = true) : s.live = some s := if_pos h

theorem live_of_inactive {s : OtaSession} (h : s.active = false) : s.live = none := by
  simp [OtaSession.live, h]

/-- An aborted session is not open. -/
theorem live_abort (s : OtaSession) (log : FlashLog) :
    ((otaSessionAbort s log).1.live, (otaSessionAbort s log).2) =
      WriterOp.abort.run E C (s.live, log) := by
  rw [live_of_inactive (otaSessionAbort_log s log).1]
  cases hact : s.active with
  | false =>
    rw [live_of_inactive hact, otaSessionAbort_eq, hact]
    rfl
  | true =>
    rw [live_of_active hact]
    rfl

/-- A finished session is not open. -/
theorem live_finish {s : OtaSession} {log : FlashLog} {e : EspErr} {s' : OtaSession}
    {log' : FlashLog} (h : otaSessionFinish E s log = (e, s', log')) :
    (s'.live, log') = WriterOp.finish.run E C (s.live, log) := by
  rw [live_of_inactive (otaSessionFinish_log E s log h).1]
  cases hact : s.active with
  | false =>
    have hfin : otaSessionFinish E s log = (.invalidState, s, log) := by
      simp [otaSessionFinish, hact]
    rw [hfin] at h
    cases h
    rw [live_of_inactive hact]
    rfl
  | true =>
    rw [live_of_active hact]
    simp only [WriterOp.run, h]

/-- A session object that is not active is begun like a zeroed one. -/
theorem live_begin {s : OtaSession} (hact : s.active = false) (n : Nat) (crc : UInt32)
    (src : Bytes) (log : FlashLog) {e : EspErr} {s' : OtaSession} {log' : FlashLog}
    (h : otaSessionBegin E s n crc src log = (e, s', log')) :
    (s'.live, log') = (WriterOp.begin n crc src).run E C (none, log) ∧
      (e ≠ .ok → s'.live = none) := by
  by_cases hn : n = 0
  · have hbad : ∀ s₀ : OtaSession, otaSessionBegin E s₀ n crc src log = (.invalidArg, s₀, log) :=
      fun _ => if_pos hn
    rw [hbad] at h
    cases h
    refine ⟨?_, fun _ => live_of_inactive hact⟩
    simp only [WriterOp.run, hbad, live_of_inactive hact]
    rfl
  · have hzero : otaSessionBegin E s n crc src log = otaSessionBegin E .zero n crc src log := by
      simp [otaSessionBegin, hn, hact, OtaSession.zero]
    refine ⟨by simp only [WriterOp.run, ← hzero, h], fun hne => ?_⟩
    rcases otaSessionBegin_cases E s n crc src log h with ⟨he, -⟩ | ⟨-, hs, -⟩ | ⟨-, -, hs, -⟩
    · exact absurd he hne
    · rw [hs, live_of_inactive hact]
    · exact live_of_inactive hs

/-- A chunk that is taken leaves the session open; one that is not closes it, once it is aborted. -/
theorem live_put {s : OtaSession} (data : Bytes) (log : FlashLog) {e : EspErr} {s' : OtaSession}
    {log' : FlashLog} (h : otaSessionWrite E C s data log = (e, s', log')) :
    (e = .ok → (s'.live, log') = (WriterOp.put data).run E C (s.live, log)) ∧
      (e ≠ .ok → ((otaSessionAbort s' log').1.live, (otaSessionAbort s' log').2) =
        (WriterOp.put data).run E C (s.live, log)) := by
  rcases otaSessionWrite_cases E C s data log h with
    ⟨he, hact, -, -, -, -, since, hs⟩ | ⟨hne, hs, -⟩
  · refine ⟨fun _ => ?_, fun hne => absurd he hne⟩
    have hact' : s'.active = true := by rw [hs]; exact hact
    rw [live_of_active hact, live_of_active hact']
    simp only [WriterOp.run, h, he, if_true]
  · refine ⟨fun he => absurd he hne, fun _ => ?_⟩
    rw [live_of_inactive (otaSessionAbort_log s' log').1]
    cases hact : s.active with
    | false =>
      have hwrite : otaSessionWrite E C s data log = (.invalidArg, s, log) := by
        simp [otaSessionWrite, hact]
      rw [hwrite] at h
      cases h
      rw [live_of_inactive hact, otaSessionAbort_eq, hact]
      rfl
    | true =>
      rw [live_of_active hact]
      simp only [WriterOp.run, h, if_neg hne]

/-! ## The transports as lists of calls -/

/-- The session of a run of `ota_perform`, while the run is in its loops. -/
def TcpOta.live {β : Type} (t : TcpOta β) : Option OtaSession :=
  match t.pc with
  | .payload _ | .tail _ => t.s.live
  | .returned _ | .restarting => none

/-- `ota_session_begin` gets as far as `esp_ota_begin`. -/
def Begins (E : FlashEnv) (s : OtaSession) (size : Nat) : Prop :=
  s.active = false ∧ size ≠ 0 ∧ ∃ dst, E.next = some dst ∧ size ≤ dst.size

/-- A begin that does not get as far as `esp_ota_begin` fails, and the session and the log stay. -/
theorem begin_refused {s : OtaSession} {size : Nat} (h : ¬ Begins E s size) (crc : UInt32)
    (src : Bytes) (log : FlashLog) {e : EspErr} {s' : OtaSession} {log' : FlashLog}
    (hb : otaSessionBegin E s size crc src log = (e, s', log')) :
    e ≠ .ok ∧ s'.live = s.live ∧ log' = log := by
  unfold otaSessionBegin at hb
  split at hb
  · cases hb
    exact ⟨by simp, rfl, rfl⟩
  · next hsize =>
    split at hb
    · cases hb
      exact ⟨by simp, rfl, rfl⟩
    · next hact =>
      have hact : s.active = false := by simpa using hact
      rw [live_of_inactive hact]
      unfold otaWriterBegin at hb
      cases hn : E.next with
      | none =>
        rw [hn] at hb
        simp only [ne_eq, reduceCtorEq, not_false_eq_true, if_true] at hb
        cases hb
        exact ⟨by simp, rfl, rfl⟩
      | some dst =>
        have hlt : dst.size < size := by
          by_contra hge
          exact h ⟨hact, hsize, dst, hn, by omega⟩
        rw [hn] at hb
        simp only [if_pos hlt, ne_eq, reduceCtorEq, not_false_eq_true, if_true] at hb
        cases hb
        exact ⟨by simp, rfl, rfl⟩

/-- An error exit closes the session. -/
theorem fail_live {β : Type} (line : Bytes) (e : EspErr) (t : TcpOta β) (log : FlashLog) :
    ((t.fail line e log).1.live, (t.fail line e log).2) =
      WriterOp.abort.run E C (t.s.live, log) := by
  rw [← live_abort, live_of_inactive (otaSessionAbort_log t.s log).1]
  rfl

/-- **The entry of `ota_perform`** begins a session, and aborts it again without a buffer. -/
theorem otaPerformEnter_runs {β : Type} (s : OtaSession) (mallocOk : Bool) (size : Nat)
    (log : FlashLog) {t : TcpOta β} {log' : FlashLog}
    (h : otaPerformEnter E s mallocOk size log = (t, log')) :
    ∃ ops, (t.live, log') = WriterOp.runs E C ops (none, log) ∧
      (∀ op ∈ ops, op.isBegin = true → Begins E s size) := by
  unfold otaPerformEnter at h
  dsimp only at h
  split at h
  · cases h
    exact ⟨[], rfl, nofun⟩
  · obtain ⟨⟨e, s', log₁⟩, hb⟩ : ∃ q, otaSessionBegin E s size 0 (lit "TCP") log = q := ⟨_, rfl⟩
    rw [hb] at h
    dsimp only at h
    by_cases hbegins : Begins E s size
    · obtain ⟨hrun, hdead⟩ := live_begin (C := C) hbegins.1 size 0 (lit "TCP") log hb
      split at h
      · next hne =>
        cases h
        refine ⟨[.begin size 0 (lit "TCP")], ?_, fun _ _ _ => hbegins⟩
        rw [hdead hne] at hrun
        exact hrun
      · split at h
        · have hfail := fail_live (E := E) (C := C) (lit "ERR nomem") .noMem
            { (TcpOta.mk size s 0 (.returned .invalidSize) [] [] : TcpOta β).send (lit "ACK") with
              s := s' } log₁
          rw [h] at hfail
          refine ⟨[.begin size 0 (lit "TCP"), .abort], ?_, fun _ _ _ => hbegins⟩
          exact hfail.trans (congrArg (WriterOp.abort.run E C) hrun)
        · cases h
          exact ⟨[.begin size 0 (lit "TCP")], hrun, fun _ _ _ => hbegins⟩
    · obtain ⟨hne, -, rfl⟩ := begin_refused hbegins 0 (lit "TCP") log hb
      rw [if_pos hne] at h
      cases h
      exact ⟨[], rfl, nofun⟩

/-- A whole chunk is one write. -/
theorem chunk_live {β : Type} (val : β → UInt8) (got : List β) (t : TcpOta β) (log : FlashLog)
    {t' : TcpOta β} {log' : FlashLog} (h : t.chunk val E C got log = (t', log')) :
    (t'.live, log') = (WriterOp.put (got.map val)).run E C (t.s.live, log) := by
  obtain ⟨⟨e, s', log₁⟩, hw⟩ : ∃ q, otaSessionWrite E C t.s (got.map val) log = q := ⟨_, rfl⟩
  obtain ⟨hok, hne⟩ := live_put (got.map val) log hw
  unfold TcpOta.chunk at h
  rw [hw] at h
  dsimp only at h
  by_cases he : e = .ok
  · rw [if_neg (not_not.mpr he)] at h
    cases h
    rw [← hok he, TcpOta.live]
    by_cases hlt : (t.received + got.length) % 2 ^ 32 < t.size
    · simp only [if_pos hlt]
    · simp only [if_neg hlt]
  · rw [if_pos he] at h
    have hfail := fail_live (E := E) (C := C) (lit "ERR ota_write") e { t with s := s' } log₁
    rw [h, ← live_abort] at hfail
    exact hfail.trans (hne he)

/-- The trailer sets the expected CRC and finishes. -/
theorem finish_live {β : Type} (val : β → UInt8) (tail : List β) (t : TcpOta β) (log : FlashLog)
    {t' : TcpOta β} {log' : FlashLog} (h : t.finish val E tail log = (t', log')) :
    (t'.live, log') = WriterOp.runs E C
      [.expect (UInt32.ofNat (readLe 4 (tail.map val))), .finish] (t.s.live, log) := by
  generalize hc : UInt32.ofNat (readLe 4 (tail.map val)) = crc
  have hexpect : (WriterOp.expect crc).run E C (t.s.live, log) =
      ({ t.s with crcExpect := crc }.live, log) := by
    cases hact : t.s.active <;> simp [OtaSession.live, hact, WriterOp.run]
  obtain ⟨⟨e, s', log₁⟩, hf⟩ :
    ∃ q, otaSessionFinish E { t.s with crcExpect := crc } log = q := ⟨_, rfl⟩
  have hrun := live_finish (C := C) hf
  rw [live_of_inactive (otaSessionFinish_log E _ _ hf).1, ← hexpect] at hrun
  unfold TcpOta.finish at h
  rw [hc] at h
  dsimp only at h
  rw [hf] at h
  dsimp only at h
  split at h <;> cases h <;> exact hrun

/-- **A `recv` of `ota_perform`** is followed by a write, by the finish, by an abort or by
nothing. -/
theorem otaPerformRecv_runs {β : Type} (val : β → UInt8) (r : Recv β) (t : TcpOta β)
    (log : FlashLog) {t' : TcpOta β} {log' : FlashLog}
    (h : otaPerformRecv val E C r t log = (t', log')) :
    ∃ ops, (t'.live, log') = WriterOp.runs E C ops (t.live, log) ∧
      ∀ op ∈ ops, op.isBegin = false := by
  have hidle : ∀ t₀ : TcpOta β, t₀.live = t.live → (t₀, log) = (t', log') →
      ∃ ops, (t'.live, log') = WriterOp.runs E C ops (t.live, log) ∧
        ∀ op ∈ ops, op.isBegin = false := by
    intro t₀ hlive heq
    cases heq
    exact ⟨[], by rw [hlive]; rfl, nofun⟩
  have hfail : ∀ line e, t.live = t.s.live → t.fail line e log = (t', log') →
      ∃ ops, (t'.live, log') = WriterOp.runs E C ops (t.live, log) ∧
        ∀ op ∈ ops, op.isBegin = false := by
    intro line e hlive heq
    have hrun := fail_live (E := E) (C := C) line e t log
    rw [heq] at hrun
    exact ⟨[.abort], by rw [hlive]; exact hrun, by simp [WriterOp.isBegin]⟩
  unfold otaPerformRecv at h
  split at h
  · exact hidle t rfl h
  · exact hidle t rfl h
  · exact hidle t rfl h
  · next hpc => exact hfail _ _ (by rw [TcpOta.live, hpc]) h
  · next hpc => exact hfail _ _ (by rw [TcpOta.live, hpc]) h
  · next hpc => exact hfail _ _ (by rw [TcpOta.live, hpc]) h
  · next hpc => exact hfail _ _ (by rw [TcpOta.live, hpc]) h
  · next got b bs hpc =>
    dsimp only at h
    split at h
    · exact hidle _ (by rw [TcpOta.live, TcpOta.live, hpc]) h
    · refine ⟨[.put ((got ++ (b :: bs).take t.asks).map val)], ?_, by simp [WriterOp.isBegin]⟩
      have hlive : t.live = t.s.live := by rw [TcpOta.live, hpc]
      rw [hlive]
      exact chunk_live val _ t log h
  · next got b bs hpc =>
    dsimp only at h
    split at h
    · exact hidle _ (by rw [TcpOta.live, TcpOta.live, hpc]) h
    · refine ⟨[.expect (UInt32.ofNat (readLe 4 ((got ++ (b :: bs).take t.asks).map val))), .finish],
        ?_, by simp [WriterOp.isBegin]⟩
      have hlive : t.live = t.s.live := by rw [TcpOta.live, hpc]
      rw [hlive]
      exact finish_live val _ t log h

/-- The finish of a complete image, on either path of its result. -/
theorem bleOtaFinalize_live (b : BleOta) (log : FlashLog) :
    ((bleOtaFinalize E b log).1.ble.live, (bleOtaFinalize E b log).2) =
      WriterOp.finish.run E C (b.ble.live, log) := by
  obtain ⟨⟨e, ble, log₁⟩, hf⟩ : ∃ q, otaSessionFinish E b.ble log = q := ⟨_, rfl⟩
  have habort : otaSessionAbort ble log₁ = (ble, log₁) := by
    rw [otaSessionAbort_eq, (otaSessionFinish_log E b.ble log hf).1]
    rfl
  rw [← live_finish hf]
  simp only [bleOtaFinalize, otaFinishXport, otaAbortXport, BleOta.send, hf, habort]
  split <;> rfl

/-- **A DATA write** is a write, with the finish after the last one, or nothing. -/
theorem bleOtaOnDataWrite_runs (data : Bytes) (b : BleOta) (log : FlashLog) :
    ∃ ops, ((bleOtaOnDataWrite E C data b log).1.ble.live, (bleOtaOnDataWrite E C data b log).2) =
      WriterOp.runs E C ops (b.ble.live, log) ∧ ∀ op ∈ ops, op.isBegin = false := by
  by_cases hnext : NextFrame b data
  swap
  · rw [bleOtaOnDataWrite_dropped E C hnext]
    exact ⟨[], rfl, nofun⟩
  obtain ⟨⟨e, ble, log₁⟩, hw⟩ : ∃ q, otaSessionWrite E C b.ble (data.drop 6) log = q := ⟨_, rfl⟩
  obtain ⟨hok, hne⟩ := live_put (data.drop 6) log hw
  rw [bleOtaOnDataWrite_next E C hnext hw]
  by_cases he : e = .ok
  · rw [if_neg (not_not.mpr he)]
    obtain ⟨mark, sent, htaken⟩ :=
      bleOtaTaken_spec E (data.drop 6).length { b with ble := ble } log₁
    rw [htaken]
    split
    · refine ⟨[.put (data.drop 6), .finish], ?_, by simp [WriterOp.isBegin]⟩
      rw [bleOtaFinalize_live (C := C)]
      exact congrArg (WriterOp.finish.run E C) (hok he)
    · exact ⟨[.put (data.drop 6)], hok he, by simp [WriterOp.isBegin]⟩
  · rw [if_pos he]
    exact ⟨[.put (data.drop 6)], hne he, by simp [WriterOp.isBegin]⟩

/-- **A disconnect** finishes a complete image, aborts another, or finds no transfer. -/
theorem bleOtaOnDisconnect_runs (b : BleOta) (log : FlashLog) :
    ∃ ops, ((bleOtaOnDisconnect E b log).1.ble.live, (bleOtaOnDisconnect E b log).2) =
      WriterOp.runs E C ops (b.ble.live, log) ∧ ∀ op ∈ ops, op.isBegin = false := by
  unfold bleOtaOnDisconnect
  split
  · exact ⟨[], rfl, nofun⟩
  · split
    · obtain ⟨⟨e, ble, log₁⟩, hf⟩ : ∃ q, otaSessionFinish E b.ble log = q := ⟨_, rfl⟩
      have habort : otaSessionAbort ble log₁ = (ble, log₁) := by
        rw [otaSessionAbort_eq, (otaSessionFinish_log E b.ble log hf).1]
        rfl
      refine ⟨[.finish], ?_, by simp [WriterOp.isBegin]⟩
      refine Eq.trans ?_ (live_finish (C := C) hf)
      simp only [otaFinishXport, otaAbortXport, hf, habort]
      split <;> rfl
    · exact ⟨[.abort], live_abort b.ble log, by simp [WriterOp.isBegin]⟩

/-- The CTRL write is a START that gets as far as `esp_ota_begin`. -/
def BleBegins (E : FlashEnv) (mode : ScMode) (data : Bytes) (b : BleOta) : Prop :=
  b.bo.active = false ∧ mode = .recovery ∧ strnEq (ctrlLine data) (lit "BL_OTA START") 12 = true ∧
    ∃ size crc, scanSizeCrc ((ctrlLine data).drop 12) = some (size, crc) ∧ Begins E b.ble size

/-- **A CTRL write** begins, finishes or aborts the session, or sends a line only. -/
theorem bleOtaOnCtrlWrite_runs (mode : ScMode) (data : Bytes) (m : Monitor) (b : BleOta)
    (log : FlashLog) :
    ∃ ops, ((bleOtaOnCtrlWrite E mode data m b log).2.1.ble.live,
        (bleOtaOnCtrlWrite E mode data m b log).2.2) = WriterOp.runs E C ops (b.ble.live, log) ∧
      ∀ op ∈ ops, op.isBegin = true → BleBegins E mode data b := by
  unfold bleOtaOnCtrlWrite
  split
  · exact ⟨[], rfl, nofun⟩
  dsimp only
  by_cases hstart : strnEq (ctrlLine data) (lit "BL_OTA START") 12 = true
  · rw [if_pos hstart]
    rcases bleOtaStart_cases E mode (ctrlLine data) m b log with
      ⟨-, answer, -, heq⟩ | ⟨size, crc, hs, e, ble, log₁, hb, heq⟩
    · rw [heq]
      exact ⟨[], rfl, nofun⟩
    · rw [heq]
      by_cases hbegins : Begins E b.ble size
      · refine ⟨[.begin size (UInt32.ofNat crc) (lit "BLE")], ?_, fun _ _ _ =>
          ⟨hs.idle, hs.recovery, hstart, size, crc, hs.scan, hbegins⟩⟩
        obtain ⟨hrun, -⟩ := live_begin (C := C) hbegins.1 _ _ _ _ hb
        rw [live_of_inactive hbegins.1]
        split <;> exact hrun
      · obtain ⟨hne, hlive, rfl⟩ := begin_refused hbegins _ _ _ hb
        rw [if_pos hne]
        exact ⟨[], congrArg (·, log₁) hlive, nofun⟩
  · rw [if_neg hstart]
    split
    · unfold bleOtaFinish
      split
      · exact ⟨[], rfl, nofun⟩
      · obtain ⟨⟨e, ble, log₁⟩, hf⟩ : ∃ q, otaSessionFinish E b.ble log = q := ⟨_, rfl⟩
        refine ⟨[.finish], ?_, by simp [WriterOp.isBegin]⟩
        refine Eq.trans ?_ (live_finish (C := C) hf)
        simp only [otaFinishXport, hf]
        split <;> rfl
    · split
      · unfold bleOtaAbort
        split
        · exact ⟨[], rfl, nofun⟩
        · exact ⟨[.abort], live_abort b.ble log, by simp [WriterOp.isBegin]⟩
      · exact ⟨[], rfl, nofun⟩

/-! ## At most one writer -/

/-- An open session is the sole writer of its image, and has counted what it wrote. -/
structure Owns (E : FlashEnv) (s : OtaSession) (log : FlashLog) : Prop where
  active : s.active = true
  target : ∃ dst, E.next = some dst ∧ s.wr.dst = some dst ∧
    SoleWriter dst s.bytesExpected s.wr.handle log
  written : s.bytesWritten = (stored s.wr.handle log).flatten.length % 2 ^ 32

/-- The log ends with a finish that returned `ESP_OK`: it closed the handle and switched to `p`. -/
def Finished (handle : Nat) (p : Partition) (log : FlashLog) : Prop :=
  [.otaEnd handle .ok, .setBoot p .ok] <:+ log

/-- The image on the update partition `p` was opened and written by the handle alone, and the chunks
it took have the announced length. -/
def FinishedAlone (E : FlashEnv) (handle : Nat) (p : Partition) (log : FlashLog) : Prop :=
  ∃ size, E.next = some p ∧ SoleWriter p size handle log ∧
    (stored handle log).flatten.length % 2 ^ 32 = size

/-- **The invariant.** At most one of the sessions is open, it owns its image, and a finish that has
just succeeded was alone. -/
structure OtaInv {ι : Type} (E : FlashEnv) (sess : ι → Option OtaSession) (log : FlashLog) :
    Prop where
  numbered : Numbered log
  one : ∀ i j s t, sess i = some s → sess j = some t → i = j
  own : ∀ i s, sess i = some s → Owns E s log
  alone : ∀ handle p, Finished handle p log → FinishedAlone E handle p log

/-- A log that ends with another call than the switch does not end with a finish. -/
theorem Finished.eq_setBoot {handle : Nat} {p : Partition} {log : FlashLog} {c : FlashCall}
    (h : Finished handle p (log ++ [c])) : c = .setBoot p .ok := by
  obtain ⟨t, ht⟩ := h
  have hlast := congrArg List.getLast? ht
  simpa using hlast.symm

/-- An abort is no finish. -/
theorem alone_abortCalls {log : FlashLog}
    (h : ∀ handle p, Finished handle p log → FinishedAlone E handle p log) (wr : OtaWriter)
    (handle : Nat) (p : Partition) (hf : Finished handle p (log ++ abortCalls wr)) :
    FinishedAlone E handle p (log ++ abortCalls wr) := by
  by_cases h0 : wr.handle = 0
  · have hnil : abortCalls wr = [] := if_pos h0
    rw [hnil, List.append_nil] at hf ⊢
    exact h handle p hf
  · have hone : abortCalls wr = [.otaAbort wr.handle] := if_neg h0
    rw [hone] at hf
    exact absurd hf.eq_setBoot (by simp)

/-- The sole writer of an image has a handle that was handed out. -/
theorem SoleWriter.handle_le {dst : Partition} {size handle : Nat} {log : FlashLog}
    (h : SoleWriter dst size handle log) : handle ≤ begun log := by
  obtain ⟨pre, post, rfl, -, rfl, -⟩ := h
  have : begun (.otaBegin dst size .ok :: post) = 1 + begun post := by
    rw [show FlashCall.otaBegin dst size .ok :: post = [.otaBegin dst size .ok] ++ post from rfl,
      begun_append, begun_begin, if_pos rfl]
  rw [begun_append, this]
  omega

/-- It stays so when calls of its own are added. -/
theorem SoleWriter.append {dst : Partition} {size handle : Nat} {log new : FlashLog}
    (h : SoleWriter dst size handle log) (hnew : ∀ c ∈ new, c.ownedBy handle) :
    SoleWriter dst size handle (log ++ new) := by
  obtain ⟨pre, post, rfl, hpre, hhandle, hpost⟩ := h
  refine ⟨pre, post ++ new, by simp, hpre, hhandle, fun c hc => ?_⟩
  rcases List.mem_append.mp hc with hc | hc
  · exact hpost c hc
  · exact hnew c hc

section
variable {ι : Type} {sess : ι → Option OtaSession} {log : FlashLog} {i : ι}

/-- When one session is open, the others are not. -/
theorem OtaInv.others (h : OtaInv E sess log) {s : OtaSession} (hs : sess i = some s) {j : ι}
    (hj : j ≠ i) : sess j = none := by
  cases ht : sess j with
  | none => rfl
  | some t => exact absurd (h.one j i t s ht hs) hj

variable [DecidableEq ι]

/-- After a call on session `i` that leaves all others closed, the invariant is one about it. -/
theorem OtaInv.update {log' : FlashLog} {o : Option OtaSession} (hn : Numbered log')
    (hother : ∀ j, j ≠ i → sess j = none) (hown : ∀ s, o = some s → Owns E s log')
    (halone : ∀ handle p, Finished handle p log' → FinishedAlone E handle p log') :
    OtaInv E (Function.update sess i o) log' := by
  have hkey : ∀ j s, Function.update sess i o j = some s → j = i ∧ o = some s := by
    intro j s hs
    by_cases hj : j = i
    · subst hj
      exact ⟨rfl, by simpa using hs⟩
    · rw [Function.update_of_ne hj, hother j hj] at hs
      cases hs
  refine ⟨hn, fun j k s t hs ht => ?_, fun j s hs => hown s (hkey j s hs).2, halone⟩
  exact (hkey j s hs).1.trans (hkey k t ht).1.symm

/-- A begin with all other sessions closed. -/
theorem OtaInv.begin (h : OtaInv E sess log) (hother : ∀ j, j ≠ i → sess j = none)
    (n : Nat) (crc : UInt32) (src : Bytes) :
    OtaInv E (Function.update sess i ((WriterOp.begin n crc src).run E C (none, log)).1)
      ((WriterOp.begin n crc src).run E C (none, log)).2 := by
  obtain ⟨⟨e, s, log'⟩, hb⟩ : ∃ q, otaSessionBegin E .zero n crc src log = q := ⟨_, rfl⟩
  simp only [WriterOp.run, hb]
  rcases otaSessionBegin_cases E .zero n crc src log hb with
    ⟨-, -, dst, hdst, -, -, rfl, hbegun⟩ | ⟨-, rfl, rfl⟩ | ⟨-, -, hact, -, hlog⟩
  · rw [live_of_active hbegun.active]
    refine .update (h.numbered.begin _ _ _) hother ?_ fun _ _ hf => absurd hf.eq_setBoot (by simp)
    rintro s ⟨⟩
    refine ⟨hbegun.active, ⟨dst, hdst, by rw [hbegun.wr], ?_⟩, ?_⟩
    · rw [hbegun.expected, hbegun.wr]
      exact ⟨log, [], rfl, h.numbered, rfl, nofun⟩
    · rw [hbegun.written, hbegun.wr, stored_append, h.numbered.stored_fresh (Nat.lt_succ_self _)]
      rfl
  · exact .update h.numbered hother nofun h.alone
  · rw [live_of_inactive hact]
    rcases hlog with rfl | ⟨dst, r, -, rfl⟩
    · exact .update h.numbered hother nofun h.alone
    · refine .update (h.numbered.begin _ _ _) hother ?_ fun _ _ hf => absurd hf.eq_setBoot (by simp)
      rintro _ ⟨⟩

/-- A chunk, taken or refused. -/
theorem OtaInv.put (h : OtaInv E sess log) {s : OtaSession} (hs : sess i = some s) (data : Bytes) :
    OtaInv E (Function.update sess i ((WriterOp.put data).run E C (some s, log)).1)
      ((WriterOp.put data).run E C (some s, log)).2 := by
  obtain ⟨hact, ⟨dst, hdst, hwr, hsole⟩, hwritten⟩ := h.own i s hs
  have hother := fun j (hj : j ≠ i) => h.others hs hj
  have hle := hsole.handle_le
  obtain ⟨⟨e, s', log'⟩, hw⟩ : ∃ q, otaSessionWrite E C s data log = q := ⟨_, rfl⟩
  simp only [WriterOp.run, hw]
  rcases otaSessionWrite_cases E C s data log hw with
    ⟨rfl, -, -, -, -, rfl, since, rfl⟩ | ⟨hne, rfl, hlog⟩
  · rw [if_pos rfl]
    refine .update (h.numbered.append (by simpa [FlashCall.handle] using hle)) hother ?_
      fun _ _ hf => absurd hf.eq_setBoot (by simp)
    rintro _ ⟨⟩
    refine ⟨hact, ⟨dst, hdst, hwr, hsole.append (by simp [FlashCall.ownedBy])⟩, ?_⟩
    simp [hwritten, Nat.add_mod]
  · -- the write failed, and the abort closes the session
    rw [if_neg hne, otaSessionAbort_eq, hact]
    have hlog' : Numbered log' ∧ begun log' = begun log ∧
        ∀ handle p, Finished handle p log' → FinishedAlone E handle p log' := by
      rcases hlog with rfl | ⟨r, -, rfl⟩
      · exact ⟨h.numbered, rfl, h.alone⟩
      · refine ⟨h.numbered.append (by simpa [FlashCall.handle] using hle), by simp, ?_⟩
        exact fun _ _ hf => absurd hf.eq_setBoot (by simp)
    obtain ⟨hn, hbegun, halone⟩ := hlog'
    refine .update (abortCalls_numbered hn (by omega)).1 hother ?_ (alone_abortCalls halone _)
    rintro _ ⟨⟩

/-- An abort. -/
theorem OtaInv.abort (h : OtaInv E sess log) {s : OtaSession} (hs : sess i = some s) :
    OtaInv E (Function.update sess i none) (otaSessionAbort s log).2 := by
  obtain ⟨hact, ⟨dst, -, -, hsole⟩, -⟩ := h.own i s hs
  rw [otaSessionAbort_eq, hact]
  exact .update (abortCalls_numbered h.numbered hsole.handle_le).1 (fun j hj => h.others hs hj)
    nofun (alone_abortCalls h.alone _)

/-- **A finish.** When it succeeds, the image is that of its session alone. -/
theorem OtaInv.finish (h : OtaInv E sess log) {s : OtaSession} (hs : sess i = some s) :
    OtaInv E (Function.update sess i none) (otaSessionFinish E s log).2.2 := by
  obtain ⟨hact, ⟨dst, hdst, hwr, hsole⟩, hwritten⟩ := h.own i s hs
  have hother := fun j (hj : j ≠ i) => h.others hs hj
  have hle := hsole.handle_le
  obtain ⟨⟨e, s', log'⟩, hf⟩ : ∃ q, otaSessionFinish E s log = q := ⟨_, rfl⟩
  rw [hf]
  rcases otaSessionFinish_cases E s log hf with
    ⟨-, -, -, rfl⟩ | ⟨-, -, -, -, rfl⟩ | ⟨-, -, hall, -, hend⟩
  · exact .update h.numbered hother nofun h.alone
  · exact .update (abortCalls_numbered h.numbered hle).1 hother nofun (alone_abortCalls h.alone _)
  · refine .update (otaWriterEnd_numbered h.numbered hle hend).1 hother nofun ?_
    rcases otaWriterEnd_cases E s.wr log hend with
      ⟨-, rfl, -⟩ | ⟨-, dst', hdst', ⟨-, rfl⟩ | rfl⟩
    · exact h.alone
    · exact fun _ _ hf => absurd hf.eq_setBoot (by simp)
    · intro handle p hfin
      obtain rfl : dst = dst' := Option.some.inj (hwr.symm.trans hdst')
      obtain ⟨t, ht⟩ := hfin
      obtain ⟨-, heq⟩ := List.append_inj' ht rfl
      obtain ⟨rfl, rfl, -⟩ : handle = s.wr.handle ∧ p = dst ∧ EspErr.ok = e := by simpa using heq
      refine ⟨s.bytesExpected, hdst, hsole.append (by simp [FlashCall.ownedBy]), ?_⟩
      rw [← hall, hwritten]
      simp [stored]

/-- **One call.** Every call preserves the invariant, a begin with the other sessions closed. -/
theorem OtaInv.op (h : OtaInv E sess log) (op : WriterOp)
    (hbegin : op.isBegin = true → ∀ j, j ≠ i → sess j = none) :
    OtaInv E (Function.update sess i (op.run E C (sess i, log)).1)
      (op.run E C (sess i, log)).2 := by
  have hsame : OtaInv E (Function.update sess i (sess i)) log := by rwa [Function.update_eq_self]
  cases hs : sess i with
  | none =>
    rw [hs] at hsame
    cases op with
    | begin n crc src => exact h.begin (hbegin rfl) n crc src
    | put data => exact hsame
    | expect crc => exact hsame
    | finish => exact hsame
    | abort => exact hsame
  | some s =>
    rw [hs] at hsame
    cases op with
    | begin n crc src => exact hsame
    | put data => exact h.put hs data
    | expect crc =>
      obtain ⟨hact, htarget, hwritten⟩ := h.own i s hs
      refine .update h.numbered (fun j hj => h.others hs hj) ?_ h.alone
      rintro _ ⟨⟩
      exact ⟨hact, htarget, hwritten⟩
    | finish => exact h.finish hs
    | abort => exact h.abort hs

/-- **A handler.** So does every list of calls on one session. -/
theorem OtaInv.runs (h : OtaInv E sess log) (ops : List WriterOp)
    (hbegin : ∀ op ∈ ops, op.isBegin = true → ∀ j, j ≠ i → sess j = none) :
    OtaInv E (Function.update sess i (WriterOp.runs E C ops (sess i, log)).1)
      (WriterOp.runs E C ops (sess i, log)).2 := by
  induction ops generalizing sess log with
  | nil => rw [WriterOp.runs, List.foldl_nil, Function.update_eq_self]; exact h
  | cons op ops ih =>
    have hstep := h.op (C := C) (i := i) op (hbegin op (by simp))
    have hrest := ih hstep fun op' hop' hb j hj => by
      rw [Function.update_of_ne hj]
      exact hbegin op' (by simp [hop']) hb j hj
    rw [Function.update_self, Function.update_idem] at hrest
    exact hrest

end

end

/-! ## The interleaving -/

/-- The runs of `ota_perform` started so far, the BLE adapter, and the driver they share. -/
structure OtaWorld where
  log : FlashLog
  ble : BleOta
  tcp : List (TcpOta UInt8)

/-- The world at boot. -/
def OtaWorld.init : OtaWorld := ⟨[], .init, []⟩

/-- A handler that runs: a client task enters `ota_perform`, one of its runs gets a `recv` outcome,
or the BLE task serves a write or the end of the link. The mode and the monitor are the
coordinator's. -/
inductive OtaEv where
  | tcpEnter (s : OtaSession) (mallocOk : Bool) (size : Nat)
  | tcpRecv (i : Nat) (r : Recv UInt8)
  | bleCtrl (mode : ScMode) (m : Monitor) (data : Bytes)
  | bleData (data : Bytes)
  | bleDisconnect

/-- Whose session it is. -/
inductive Owner where
  | ble
  | tcp (i : Nat)
  deriving DecidableEq

/-- The open session of an owner. -/
def OtaWorld.session (w : OtaWorld) : Owner → Option OtaSession
  | .ble => w.ble.ble.live
  | .tcp i => w.tcp[i]?.bind TcpOta.live

section
variable (E : FlashEnv) (C : Crc32)

/-- One handler. After `esp_restart` the BLE task runs none. -/
def OtaWorld.step (w : OtaWorld) : OtaEv → OtaWorld
  | .tcpEnter s mallocOk size =>
    let (t, log) := otaPerformEnter E s mallocOk size w.log
    { w with tcp := w.tcp ++ [t], log := log }
  | .tcpRecv i r =>
    match w.tcp[i]? with
    | none => w
    | some t =>
      let (t, log) := otaPerformRecv id E C r t w.log
      { w with tcp := w.tcp.set i t, log := log }
  | .bleCtrl mode m data =>
    if w.ble.restarted then w
    else
      let (_, ble, log) := bleOtaOnCtrlWrite E mode data m w.ble w.log
      { w with ble := ble, log := log }
  | .bleData data =>
    if w.ble.restarted then w
    else
      let (ble, log) := bleOtaOnDataWrite E C data w.ble w.log
      { w with ble := ble, log := log }
  | .bleDisconnect =>
    if w.ble.restarted then w
    else
      let (ble, log) := bleOtaOnDisconnect E w.ble w.log
      { w with ble := ble, log := log }

/-- The handler calls `ota_session_begin` and gets as far as `esp_ota_begin`. -/
def OtaWorld.Begins (w : OtaWorld) : OtaEv → Prop
  | .tcpEnter s _ size => RemoteControl.Begins E s size
  | .bleCtrl mode _ data => BleBegins E mode data w.ble
  | _ => False

/-- No session is open. -/
def OtaWorld.Free (w : OtaWorld) : Prop :=
  w.ble.ble.active = false ∧ ∀ t ∈ w.tcp, t.live.isNone = true

/-- A session is begun only when no other is open. -/
def BeginsFree (w : OtaWorld) (ev : OtaEv) : Prop := w.Begins E ev → w.Free

/-- After the handler, if the driver's last calls are those of a finish that returned `ESP_OK`: its
image was opened and written by its own handle alone, and the cells of the update partition are
exactly the bytes of that session, whatever they were before. -/
def FinishIsSole (junk : FlashCall → (Nat → UInt8) → Nat → UInt8) (blank : Nat → UInt8)
    (w : OtaWorld) (ev : OtaEv) : Prop :=
  ∀ handle p, Finished handle p (w.step E C ev).log →
    FinishedAlone E handle p (w.step E C ev).log ∧
    ∀ i, i < (stored handle (w.step E C ev).log).flatten.length % 2 ^ 32 →
      some ((FlashMem.replay junk blank (w.step E C ev).log).cells (p.address + i)) =
        (stored handle (w.step E C ev).log).flatten[i]?

variable {E C}

/-- A new run of `ota_perform` is a new owner. -/
theorem session_append (w : OtaWorld) (t : TcpOta UInt8) (log : FlashLog) :
    ({ w with tcp := w.tcp ++ [t], log := log } : OtaWorld).session =
      Function.update w.session (.tcp w.tcp.length) t.live := by
  funext o
  cases o with
  | ble => rfl
  | tcp j =>
    simp only [OtaWorld.session]
    rcases Nat.lt_trichotomy j w.tcp.length with hlt | rfl | hgt
    · rw [Function.update_of_ne (by simp; omega), List.getElem?_append_left hlt]
      rfl
    · simp
    · rw [Function.update_of_ne (by simp; omega), List.getElem?_eq_none (by simp; omega)]
      simp [OtaWorld.session, List.getElem?_eq_none (Nat.le_of_lt hgt)]

/-- A step of one run is a step of its owner. -/
theorem session_set (w : OtaWorld) {i : Nat} (hi : i < w.tcp.length) (t : TcpOta UInt8)
    (log : FlashLog) :
    ({ w with tcp := w.tcp.set i t, log := log } : OtaWorld).session =
      Function.update w.session (.tcp i) t.live := by
  funext o
  cases o with
  | ble => rfl
  | tcp j =>
    simp only [OtaWorld.session]
    by_cases hj : j = i
    · subst hj
      simp [hi]
    · rw [Function.update_of_ne (by simpa using hj), List.getElem?_set_ne (Ne.symm hj)]
      rfl

/-- A step of the adapter is a step of its owner. -/
theorem session_ble (w : OtaWorld) (b : BleOta) (log : FlashLog) :
    ({ w with ble := b, log := log } : OtaWorld).session =
      Function.update w.session .ble b.ble.live := by
  funext o
  cases o with
  | ble => simp [OtaWorld.session]
  | tcp j => rfl

/-- **What a handler does**: session calls of one owner. -/
theorem OtaWorld.step_runs (w : OtaWorld) (ev : OtaEv) :
    ∃ o ops, (w.step E C ev).session =
        Function.update w.session o (WriterOp.runs E C ops (w.session o, w.log)).1 ∧
      (w.step E C ev).log = (WriterOp.runs E C ops (w.session o, w.log)).2 ∧
      ∀ op ∈ ops, op.isBegin = true → w.Begins E ev := by
  have hidle : ∀ w' : OtaWorld, w' = w → ∃ o ops, w'.session =
        Function.update w.session o (WriterOp.runs E C ops (w.session o, w.log)).1 ∧
      w'.log = (WriterOp.runs E C ops (w.session o, w.log)).2 ∧
      ∀ op ∈ ops, op.isBegin = true → w.Begins E ev := by
    rintro _ rfl
    exact ⟨.ble, [], (Function.update_eq_self _ _).symm, rfl, nofun⟩
  have hfalse : ∀ {ops : List WriterOp}, (∀ op ∈ ops, op.isBegin = false) →
      ∀ op ∈ ops, op.isBegin = true → w.Begins E ev := fun h op hop hb => by simp [h op hop] at hb
  cases ev with
  | tcpEnter s mallocOk size =>
    obtain ⟨⟨t, log⟩, h⟩ : ∃ q : TcpOta UInt8 × FlashLog,
      otaPerformEnter E s mallocOk size w.log = q := ⟨_, rfl⟩
    obtain ⟨ops, hrun, hbegins⟩ := otaPerformEnter_runs (C := C) s mallocOk size w.log h
    have hnone : w.session (.tcp w.tcp.length) = none := by simp [OtaWorld.session]
    refine ⟨.tcp w.tcp.length, ops, ?_, ?_, hbegins⟩
    · simp only [OtaWorld.step, h, session_append, hnone, ← hrun]
    · simp only [OtaWorld.step, h, hnone, ← hrun]
  | tcpRecv i r =>
    cases hi : w.tcp[i]? with
    | none => exact hidle _ (by simp only [OtaWorld.step, hi])
    | some t =>
      obtain ⟨⟨t', log⟩, h⟩ : ∃ q, otaPerformRecv id E C r t w.log = q := ⟨_, rfl⟩
      obtain ⟨ops, hrun, hops⟩ := otaPerformRecv_runs id r t w.log h
      have hlive : w.session (.tcp i) = t.live := by simp [OtaWorld.session, hi]
      obtain ⟨hlt, -⟩ := List.getElem?_eq_some_iff.mp hi
      refine ⟨.tcp i, ops, ?_, ?_, hfalse hops⟩
      · simp only [OtaWorld.step, hi, h, session_set w hlt, hlive, ← hrun]
      · simp only [OtaWorld.step, hi, h, hlive, ← hrun]
  | bleCtrl mode m data =>
    by_cases hr : w.ble.restarted = true
    · exact hidle _ (by simp only [OtaWorld.step, if_pos hr])
    · obtain ⟨ops, hrun, hbegins⟩ := bleOtaOnCtrlWrite_runs (C := C) mode data m w.ble w.log
      refine ⟨.ble, ops, ?_, ?_, hbegins⟩
      · simp only [OtaWorld.step, if_neg hr, session_ble]
        exact congrArg (fun r => Function.update w.session .ble r.1) hrun
      · simp only [OtaWorld.step, if_neg hr]
        exact congrArg Prod.snd hrun
  | bleData data =>
    by_cases hr : w.ble.restarted = true
    · exact hidle _ (by simp only [OtaWorld.step, if_pos hr])
    · obtain ⟨ops, hrun, hops⟩ := bleOtaOnDataWrite_runs (E := E) (C := C) data w.ble w.log
      refine ⟨.ble, ops, ?_, ?_, hfalse hops⟩
      · simp only [OtaWorld.step, if_neg hr, session_ble]
        exact congrArg (fun r => Function.update w.session .ble r.1) hrun
      · simp only [OtaWorld.step, if_neg hr]
        exact congrArg Prod.snd hrun
  | bleDisconnect =>
    by_cases hr : w.ble.restarted = true
    · exact hidle _ (by simp only [OtaWorld.step, if_pos hr])
    · obtain ⟨ops, hrun, hops⟩ := bleOtaOnDisconnect_runs (E := E) (C := C) w.ble w.log
      refine ⟨.ble, ops, ?_, ?_, hfalse hops⟩
      · simp only [OtaWorld.step, if_neg hr, session_ble]
        exact congrArg (fun r => Function.update w.session .ble r.1) hrun
      · simp only [OtaWorld.step, if_neg hr]
        exact congrArg Prod.snd hrun

/-- In a free world no owner has an open session. -/
theorem OtaWorld.Free.session {w : OtaWorld} (h : w.Free) (o : Owner) : w.session o = none := by
  cases o with
  | ble => exact live_of_inactive h.1
  | tcp i =>
    simp only [OtaWorld.session, Option.bind_eq_none_iff]
    exact fun t ht => Option.isNone_iff_eq_none.mp (h.2 t (List.mem_of_getElem? ht))

/-- The invariant of the world. -/
def OtaWorld.Sound (E : FlashEnv) (w : OtaWorld) : Prop := OtaInv E w.session w.log

/-- A handler that begins only in a free world preserves the invariant. -/
theorem OtaWorld.Sound.step {w : OtaWorld} (h : w.Sound E) {ev : OtaEv}
    (hok : BeginsFree E w ev) : (w.step E C ev).Sound E := by
  obtain ⟨o, ops, hsession, hlog, hbegins⟩ := w.step_runs (E := E) (C := C) ev
  unfold OtaWorld.Sound
  rw [hsession, hlog]
  exact OtaInv.runs h ops fun op hop hb o' _ => (hok (hbegins op hop hb)).session o'

theorem otaWorld_init_sound : OtaWorld.init.Sound E := by
  have hnone : ∀ o, OtaWorld.init.session o = none :=
    OtaWorld.Free.session ⟨rfl, nofun⟩
  refine ⟨nofun, fun i j s t hs => ?_, fun i s hs => ?_, fun handle p hf => ?_⟩
  · rw [hnone] at hs
    cases hs
  · rw [hnone] at hs
    cases hs
  · exact nomatch List.eq_nil_of_suffix_nil hf

/-- A finish that was alone left exactly its session's bytes in the flash. -/
theorem FinishedAlone.cells {handle : Nat} {p : Partition} {log : FlashLog}
    (h : FinishedAlone E handle p log) (junk : FlashCall → (Nat → UInt8) → Nat → UInt8)
    (blank : Nat → UInt8) {i : Nat} (hi : i < (stored handle log).flatten.length % 2 ^ 32) :
    some ((FlashMem.replay junk blank log).cells (p.address + i)) =
      (stored handle log).flatten[i]? := by
  obtain ⟨size, -, hsole, rfl⟩ := h
  have hlt : i < (stored handle log).flatten.length := Nat.lt_of_lt_of_le hi (Nat.mod_le _ _)
  rw [hsole.cells junk blank hi, List.getD_eq_getElem?_getD, List.getElem?_eq_getElem hlt]
  rfl

/-- **One writer at a time.** In every interleaving of any number of runs of `ota_perform` and of
the BLE-OTA handlers in which a session is begun only while no other is open, every finish that
returns `ESP_OK` is alone: the update partition holds the bytes of its own session. -/
theorem ota_finish_is_sole (E : FlashEnv) (C : Crc32)
    (junk : FlashCall → (Nat → UInt8) → Nat → UInt8) (blank : Nat → UInt8) (evs : List OtaEv)
    (hok : Run.Along (OtaWorld.step E C) (BeginsFree E) .init evs) :
    Run.Along (OtaWorld.step E C) (FinishIsSole E C junk blank) .init evs := by
  refine hok.mono otaWorld_init_sound (fun w ev h hev => h.step hev)
    fun w ev h hev handle p hf => ?_
  have halone := (h.step (C := C) hev).alone handle p hf
  exact ⟨halone, fun i hi => halone.cells junk blank hi⟩

/-- A TCP update that breaks off after one byte, and then one of two bytes: the entry, the payload,
the trailer with its CRC. -/
def smallTcp : List OtaEv :=
  [.tcpEnter .zero true 2, .tcpRecv 0 (.data [0xE9]), .tcpRecv 0 .err, .tcpEnter .zero true 2,
    .tcpRecv 1 (.data [0xE9, 1]),
    .tcpRecv 1 (.data (packLe 4 (romUpdate 0 [0xE9, 1]).toNat))]

/-- The second session is begun when the first one is closed, and its finish returns `ESP_OK`. -/
theorem ota_finish_is_sole_small :
    Finished 2 ota0 (Run.exec (OtaWorld.step ota0Env romCrc32) .init smallTcp).log ∧
      Run.Along (OtaWorld.step ota0Env romCrc32)
        (FinishIsSole ota0Env romCrc32 (fun _ c => c) fun _ => 0) .init smallTcp := by
  refine ⟨by unfold Finished; decide +kernel, ota_finish_is_sole ota0Env romCrc32 _ _ smallTcp ?_⟩
  have hfree : (Run.exec (OtaWorld.step ota0Env romCrc32) .init (smallTcp.take 3)).Free :=
    ⟨rfl, by decide +kernel⟩
  exact ⟨fun _ => ⟨rfl, nofun⟩, nofun, nofun, fun _ => hfree, nofun, nofun, trivial⟩

/-- Two clients update at once: the second one's begin erases the partition, and its chunk is
programmed, between the first one's chunk and trailer. -/
def mixedTcp : List OtaEv :=
  [.tcpEnter .zero true 2, .tcpRecv 0 (.data [0xE9, 1]), .tcpEnter .zero true 2,
    .tcpRecv 1 (.data [0xF0, 2])]

/-- The first client's finish returns `ESP_OK`, and its image is not in the flash. -/
theorem ota_finish_not_sole :
    ¬ FinishIsSole ota0Env romCrc32 (fun _ c => c) (fun _ => 0)
      (Run.exec (OtaWorld.step ota0Env romCrc32) .init mixedTcp)
      (.tcpRecv 0 (.data (packLe 4 (romUpdate 0 [0xE9, 1]).toNat))) := by
  intro h
  obtain ⟨-, hcells⟩ := h 1 ota0 (by unfold Finished; decide +kernel)
  exact absurd (hcells 0 (by decide +kernel)) (by decide +kernel)

end

end RemoteControl
