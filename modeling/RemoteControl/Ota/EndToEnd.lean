import RemoteControl.Ota.PerformRun

/-!
# `ota_perform` end to end

What a whole call of `ota_perform` amounts to, read off the states it can stand in: when it reaches
`esp_restart`, what it has consumed and written then, and what it leaves otherwise
(`otaPerform_end_to_end`); which trailers it rejects (`otaPerform_crc_binding_iff`); and what it
owes to the session object it finds on its stack (`otaPerform_stack_iff`).
-/

namespace RemoteControl

open CString

section
variable {E : FlashEnv} {C : Crc32} {mallocOk : Bool} {size : Nat} {stream : Bytes}
  {log : FlashLog} {p : PerformRun}

/-! ## What an exit leaves -/

/-- The data of the calls of `esp_ota_write`, whatever they returned. -/
def handed (log : FlashLog) : List Bytes :=
  log.filterMap fun
    | .otaWrite _ data _ => some data
    | _ => none

/-- Nothing was allocated, or nothing that has to be freed, or the buffer was freed once. -/
def FreedOnce (heap : List HeapCall) : Prop :=
  heap = [] ∨ heap = [.malloc false] ∨ heap = [.malloc true, .free]

/-- The call has left the boot partition, and no handle open that was not open before it. -/
structure LeavesFlash (log log' : FlashLog) : Prop where
  boot : bootPartition log' = bootPartition log
  handles : ∀ k, handleOpen k log' = true → handleOpen k log = true

/-- Calls that open nothing, close what was opened before them, and switch nothing. -/
theorem leavesFlash_opened {tail : FlashLog} (dst : Partition) (w : Bytes)
    (hbegun : begun tail = 0) (hcloses : tail.any (·.closes (begun log + 1)) = true)
    (hboot : ∀ q, FlashCall.setBoot q .ok ∉ tail) :
    LeavesFlash log (openedLog dst size log w ++ tail) := by
  have hwrites :
      begun ((Chunks.cut otaWriteBufSz w).map (.otaWrite (begun log + 1) · .ok)) = 0 := by
    rw [begun, List.countP_eq_zero]
    intro c hc
    obtain ⟨d, -, rfl⟩ := List.mem_map.mp hc
    exact Bool.false_ne_true
  generalize hws : (Chunks.cut otaWriteBufSz w).map (FlashCall.otaWrite (begun log + 1) · .ok) = ws
    at hwrites
  have hnew : openedLog dst size log w ++ tail =
      log ++ ([.otaBegin dst size .ok] ++ (ws ++ tail)) := by
    rw [openedLog, hws, List.append_assoc]
    rfl
  rw [hnew]
  constructor
  · refine bootPartition_append log fun q hq => ?_
    rcases List.mem_append.mp hq with hq | hq
    · simp at hq
    · rcases List.mem_append.mp hq with hq | hq
      · rw [← hws] at hq
        obtain ⟨d, -, hd⟩ := List.mem_map.mp hq
        cases hd
      · exact hboot q hq
  · intro k hk
    simp only [handleOpen, begun_append, begun_begin, if_true, hwrites, hbegun, List.any_append,
      Bool.and_eq_true, decide_eq_true_eq, Bool.not_eq_true', Bool.or_eq_false_iff] at hk ⊢
    obtain ⟨⟨hpos, hle⟩, hnot, -, -, htail⟩ := hk
    refine ⟨⟨hpos, ?_⟩, hnot⟩
    by_contra hgt
    obtain rfl : k = begun log + 1 := by omega
    rw [hcloses] at htail
    cases htail

/-- **Every exit** leaves the boot partition and the handles, and frees what it allocated. -/
theorem PerformExit.leaves {e : EspErr} (h : PerformExit E C mallocOk size stream log p e) :
    LeavesFlash log p.log ∧ FreedOnce p.heap := by
  cases h with
  | refused hne hno hsent hlog hheap =>
    rw [hlog, hheap]
    exact ⟨⟨rfl, fun _ h => h⟩, .inl rfl⟩
  | beginFailed dst hfail hsent hlog hheap =>
    rw [hlog, hheap]
    refine ⟨⟨bootPartition_append log (by simp), fun k hk => ?_⟩, .inl rfl⟩
    simpa [handleOpen, hfail, FlashCall.closes] using hk
  | noBuffer dst hmalloc hsent hlog hheap =>
    rw [hlog, hheap]
    exact ⟨leavesFlash_opened dst [] rfl (by simp [FlashCall.closes]) (by simp), .inr (.inl rfl)⟩
  | cutOff dst w line hshort hsent hlog hheap =>
    rw [hlog, hheap]
    exact ⟨leavesFlash_opened dst w rfl (by simp [FlashCall.closes]) (by simp), .inr (.inr rfl)⟩
  | writeFailed dst w data hw hdvd he hfail hsent hlog hheap =>
    rw [hlog, hheap]
    exact ⟨leavesFlash_opened dst w rfl (by simp [FlashCall.closes]) (by simp), .inr (.inr rfl)⟩
  | crcFailed dst hcrc hsent hlog hheap =>
    rw [hlog, hheap]
    exact ⟨leavesFlash_opened dst _ rfl (by simp [FlashCall.closes]) (by simp), .inr (.inr rfl)⟩
  | endFailed dst hcrc he hsent hlog hheap =>
    rw [hheap]
    refine ⟨?_, .inr (.inr rfl)⟩
    rcases hlog with ⟨-, hlog⟩ | ⟨-, hlog⟩
    · rw [hlog]
      exact leavesFlash_opened dst _ rfl (by simp [FlashCall.closes]) (by simp)
    · rw [hlog]
      refine leavesFlash_opened dst _ rfl (by simp [FlashCall.closes]) fun q hq => ?_
      simp at hq
      exact he hq.2.symm

/-! ## End to end -/

/-- How many chunks an image is written in. -/
def chunkCount (size : Nat) : Nat := (size + (otaWriteBufSz - 1)) / otaWriteBufSz

/-- **What a call needs to reach `esp_restart`**: the image fits the partition, the buffer is
allocated, payload and trailer arrive, every call of the driver succeeds, and the trailer is 0 or
the CRC of the payload. -/
structure Restarts (E : FlashEnv) (C : Crc32) (mallocOk : Bool) (size : Nat) (stream : Bytes)
    (log : FlashLog) : Prop where
  fits : ∃ dst, E.next = some dst ∧ size ≤ dst.size
  buffer : mallocOk = true
  arrives : size + 4 ≤ stream.length
  begins : E.fate .otaBegin log.length = .ok
  writes : ∀ i < chunkCount size, E.fate .otaWrite (log.length + 1 + i) = .ok
  ends : E.fate .otaEnd (log.length + 1 + chunkCount size) = .ok
  boots : E.fate .setBoot (log.length + 1 + chunkCount size + 1) = .ok
  trailer : TrailerOk C size stream

/-- A payload that has arrived is written in that many chunks. -/
theorem length_openedLog_take (hlen : size ≤ stream.length) (dst : Partition) :
    (openedLog dst size log (stream.take size)).length = log.length + 1 + chunkCount size := by
  rw [length_openedLog, Chunks.length_cut (by decide), List.length_take_of_le hlen, chunkCount]

/-- A whole number of chunks that is not the whole image is fewer. -/
theorem length_cut_lt_chunkCount {w : Bytes} (hdvd : otaWriteBufSz ∣ w.length)
    (hw : w.length < size) : (Chunks.cut otaWriteBufSz w).length < chunkCount size := by
  obtain ⟨k, hk⟩ := hdvd
  rw [Chunks.length_cut (by decide), hk, chunkCount]
  rw [hk] at hw
  simp only [otaWriteBufSz] at hw ⊢
  omega

/-- **No exit is taken** when all of it is there. -/
theorem PerformExit.not_restarts {e : EspErr} (h : PerformExit E C mallocOk size stream log p e) :
    ¬ Restarts E C mallocOk size stream log := by
  intro hr
  have hlen : size ≤ stream.length := Nat.le_of_add_right_le hr.arrives
  cases h with
  | refused hne hno => exact hno hr.fits
  | beginFailed dst hfail => exact hfail hr.begins
  | noBuffer dst hmalloc => exact absurd (hmalloc.symm.trans hr.buffer) Bool.false_ne_true
  | cutOff dst w line hshort => exact absurd hr.arrives (Nat.not_le.mpr hshort)
  | writeFailed dst w data hw hdvd he hfail =>
    exact he (hfail.symm.trans (hr.writes _ (length_cut_lt_chunkCount hdvd hw)))
  | crcFailed dst hcrc => exact hcrc hr.trailer
  | endFailed dst hcrc he hsent hlog =>
    rw [length_openedLog_take hlen] at hlog
    rcases hlog with ⟨hend, -⟩ | ⟨hboot, -⟩
    · exact he (hend.symm.trans hr.ends)
    · exact he (hboot.symm.trans hr.boots)

/-- The data that was handed to `esp_ota_write` is what was written. -/
theorem handed_openedLog (dst : Partition) (w : Bytes) (tail : FlashLog)
    (htail : handed tail = []) :
    ∃ new, openedLog dst size log w ++ tail = log ++ new ∧ (handed new).flatten = w := by
  refine ⟨.otaBegin dst size .ok ::
    (Chunks.cut otaWriteBufSz w).map (.otaWrite (begun log + 1) · .ok) ++ tail,
    List.append_assoc _ _ _, ?_⟩
  have hwrites : ∀ chunks : List Bytes,
      handed (chunks.map (.otaWrite (begun log + 1) · .ok)) = chunks := by
    intro chunks
    rw [handed, List.filterMap_map]
    exact List.filterMap_some
  have hsplit : ∀ l₁ l₂, handed (l₁ ++ l₂) = handed l₁ ++ handed l₂ := fun _ _ =>
    List.filterMap_append
  rw [hsplit, htail, List.append_nil]
  exact (congrArg List.flatten (hwrites _)).trans (Chunks.flatten_cut _ w)

/-- **`ota_perform` end to end**, with a zeroed session object and a size that is not zero. Once
`recv` is interrupted no more, the call comes to an end. However it comes to an end, it reaches
`esp_restart` exactly if it has all that this needs; it has then consumed the payload and the
trailer, and handed the payload, in order, to `esp_ota_write`; otherwise it has left the boot
partition and the handles as they were; and it has freed what it allocated. -/
theorem otaPerform_end_to_end (E : FlashEnv) (C : Crc32) (mallocOk fault : Bool) (size : Nat)
    (hsize : size ≠ 0) (stream : Bytes) (log : FlashLog) :
    let run := fun plan => Run.exec (PerformRun.step E C fault)
      (.enter E .zero mallocOk size stream log) plan
    (∀ f : Nat → Option Nat, (∃ K, ∀ k, K ≤ k → f k ≠ none) →
      ∃ N, ∀ n, N ≤ n → (run ((List.range n).map f)).Done) ∧
    ∀ plan, (run plan).Done →
      ((run plan).t.pc = .restarting ↔ Restarts E C mallocOk size stream log) ∧
      ((run plan).t.pc = .restarting → (run plan).unread = stream.drop (size + 4) ∧
        ∃ new, (run plan).log = log ++ new ∧ (handed new).flatten = stream.take size) ∧
      ((run plan).t.pc ≠ .restarting → LeavesFlash log (run plan).log) ∧
      FreedOnce (run plan).heap := by
  intro run
  constructor
  · rintro f ⟨K, hf⟩
    refine ⟨K + stream.length + 1, fun n hn => ?_⟩
    refine (performState_enter (C := C) rfl hsize).exec_done fault ?_
    have := countP_answers hf n
    change stream.length < _
    omega
  · intro plan hdone
    have hstate : PerformState E C mallocOk size stream log (run plan) :=
      performState_exec rfl hsize fault plan
    generalize run plan = p at hstate hdone
    cases hstate with
    | payload dst got hw hpc => simp [PerformRun.Done, TcpPc.ended, hpc] at hdone
    | tail dst got hw hpc => simp [PerformRun.Done, TcpPc.ended, hpc] at hdone
    | returned e hpc hexit =>
      have hne : p.t.pc ≠ .restarting := by simp [hpc]
      exact ⟨iff_of_false hne hexit.not_restarts, fun h => absurd h hne,
        fun _ => hexit.leaves.1, hexit.leaves.2⟩
    | restarting dst hpc hopened hlen hcrc hend hboot hsent hunread hlog hheap =>
      have hle : size ≤ stream.length := Nat.le_of_add_right_le hlen
      rw [length_openedLog_take hle] at hend hboot
      have hwrites : ∀ i < chunkCount size, E.fate .otaWrite (log.length + 1 + i) = .ok := by
        intro i hi
        refine hopened.writes i ?_
        rwa [Chunks.length_cut (by decide), List.length_take_of_le hle]
      refine ⟨iff_of_true hpc ⟨⟨dst, hopened.next, hopened.fits⟩, hopened.buffer, hlen,
        hopened.begins, hwrites, hend, hboot, hcrc⟩, fun _ => ⟨hunread, ?_⟩,
        fun h => absurd hpc h, .inr (.inr hheap)⟩
      rw [hlog]
      exact handed_openedLog dst _ _ rfl

end

/-- Two bytes and a trailer of 0, in two pieces with an interruption between them. -/
theorem otaPerform_end_to_end_small :
    let run := fun plan => Run.exec (PerformRun.step ota0Env romCrc32 false)
      (.enter ota0Env .zero true 2 [0xE9, 1, 0, 0, 0, 0] []) plan
    (run [some 7, none, some 7]).t.pc = .restarting ∧
      Restarts ota0Env romCrc32 true 2 [0xE9, 1, 0, 0, 0, 0] [] := by
  intro run
  have hpc : (run [some 7, none, some 7]).t.pc = .restarting := by decide +kernel
  have hdone : (run [some 7, none, some 7]).Done := by
    rw [PerformRun.Done, hpc]
    rfl
  exact ⟨hpc, ((otaPerform_end_to_end ota0Env romCrc32 true false 2 (by decide) _ []).2
    [some 7, none, some 7] hdone).1.mp hpc⟩

/-! ## The trailer -/

/-- The call rejects the trailer: it replies `CRCFAIL`, its last call of the driver aborts its
handle, and the boot partition is what it was. -/
structure Rejects (log : FlashLog) (p : PerformRun) : Prop where
  sent : p.t.sent = [lit "ACK", lit "CRCFAIL"]
  aborts : p.log.getLast? = some (.otaAbort (begun log + 1))
  boot : bootPartition p.log = bootPartition log

/-- **Which wrong trailers are rejected.** A payload has arrived, was opened and written, and is
followed by a trailer that is not its CRC: the call rejects it exactly if it is not 0. -/
theorem otaPerform_crc_binding_iff (E : FlashEnv) (C : Crc32) (fault : Bool) (size : Nat)
    (hsize : size ≠ 0) (payload trailer rest : Bytes) (hpayload : payload.length = size)
    (htrailer : trailer.length = 4)
    (hwrong : UInt32.ofNat (readLe 4 trailer) ≠ C.update 0 payload) (log : FlashLog)
    (hfits : ∃ dst, E.next = some dst ∧ size ≤ dst.size)
    (hbegins : E.fate .otaBegin log.length = .ok)
    (hwrites : ∀ i < chunkCount size, E.fate .otaWrite (log.length + 1 + i) = .ok)
    (plan : List (Option Nat))
    (hdone : (Run.exec (PerformRun.step E C fault)
      (.enter E .zero true size (payload ++ (trailer ++ rest)) log) plan).Done) :
    Rejects log (Run.exec (PerformRun.step E C fault)
      (.enter E .zero true size (payload ++ (trailer ++ rest)) log) plan) ↔
      UInt32.ofNat (readLe 4 trailer) ≠ 0 := by
  have hstate := @performState_exec E C true size (payload ++ (trailer ++ rest)) log .zero rfl hsize
    fault plan
  generalize Run.exec _ _ plan = p at hstate hdone
  have hlen : size + 4 ≤ (payload ++ (trailer ++ rest)).length := by
    simp only [List.length_append]
    omega
  have hok : TrailerOk C size (payload ++ (trailer ++ rest)) ↔
      UInt32.ofNat (readLe 4 trailer) = 0 := by
    rw [TrailerOk, trailerCrc_append hpayload htrailer, List.take_left' hpayload]
    exact or_iff_left fun h => hwrong h.symm
  cases hstate with
  | payload dst got hw hpc => simp [PerformRun.Done, TcpPc.ended, hpc] at hdone
  | tail dst got hw hpc => simp [PerformRun.Done, TcpPc.ended, hpc] at hdone
  | restarting dst hpc hopened _ hcrc hend hboot hsent =>
    refine iff_of_false (fun h => ?_) (not_not.mpr (hok.mp hcrc))
    exact absurd (hsent.symm.trans h.sent) (by decide)
  | returned e hpc hexit =>
    have hleaves := hexit.leaves.1
    cases hexit with
    | refused hne hno => exact absurd hfits hno
    | beginFailed dst hfail => exact absurd hbegins hfail
    | noBuffer dst hmalloc => exact absurd hmalloc (by decide)
    | cutOff dst w line hshort => exact absurd hlen (Nat.not_le.mpr hshort)
    | writeFailed dst w data hw hdvd he hfail =>
      exact absurd (hfail.symm.trans (hwrites _ (length_cut_lt_chunkCount hdvd hw))) he
    | crcFailed dst hcrc hsent hlog hheap =>
      refine iff_of_true ⟨hsent, ?_, hleaves.boot⟩ fun h => hcrc (hok.mpr h)
      rw [hlog, List.getLast?_append]
      rfl
    | endFailed dst hcrc he hsent hlog hheap =>
      refine iff_of_false (fun h => ?_) (not_not.mpr (hok.mp hcrc))
      have hlast := h.aborts
      rcases hlog with ⟨-, hlog⟩ | ⟨-, hlog⟩
      · rw [hlog, List.getLast?_append] at hlast
        cases hlast
      · rw [hlog, List.getLast?_append] at hlast
        cases hlast

/-- A trailer that is neither 0 nor the CRC. -/
theorem otaPerform_crc_binding_1234 :
    Rejects [] (Run.exec (PerformRun.step ota0Env romCrc32 false)
        (.enter ota0Env .zero true 2 ([0xE9, 1] ++ ([1, 2, 3, 4] ++ [])) []) [some 1, some 3]) ↔
      UInt32.ofNat (readLe 4 [1, 2, 3, 4]) ≠ 0 :=
  otaPerform_crc_binding_iff ota0Env romCrc32 false 2 (by decide) [0xE9, 1] [1, 2, 3, 4] [] rfl rfl
    (by decide +kernel) [] ⟨ota0, rfl, by decide⟩ rfl (fun _ _ => rfl) [some 1, some 3]
    (by decide +kernel)

/-- The trailer 0 is taken for "no CRC": the image is booted. -/
theorem otaPerform_crc_not_binding :
    UInt32.ofNat (readLe 4 [0, 0, 0, 0]) ≠ romCrc32.update 0 [0xE9, 1] ∧
      (Run.exec (PerformRun.step ota0Env romCrc32 false)
        (.enter ota0Env .zero true 2 ([0xE9, 1] ++ ([0, 0, 0, 0] ++ [])) [])
        [some 1, some 3]).t.pc = .restarting ∧
      ¬ Rejects [] (Run.exec (PerformRun.step ota0Env romCrc32 false)
        (.enter ota0Env .zero true 2 ([0xE9, 1] ++ ([0, 0, 0, 0] ++ [])) [])
        [some 1, some 3]) := by
  refine ⟨by decide +kernel, by decide +kernel, fun h => ?_⟩
  exact absurd h.sent (by decide +kernel)

/-! ## The session object on the stack -/

/-- The same replies, the same calls of the driver, the same result. -/
structure PerformRun.SameOutcome (p q : PerformRun) : Prop where
  sent : p.t.sent = q.t.sent
  result : p.t.pc = q.t.pc
  log : p.log = q.log

/-- The result of a call of the driver. -/
def FlashCall.res : FlashCall → EspErr
  | .otaBegin _ _ res => res
  | .otaWrite _ _ res => res
  | .otaEnd _ res => res
  | .otaAbort _ => .ok
  | .setBoot _ res => res

/-- The call fails with `ESP_ERR_INVALID_STATE` only if the driver has. -/
def PerformRun.NotStale (log : FlashLog) (p : PerformRun) : Prop :=
  p.t.pc = .returned .invalidState →
    ∃ new, p.log = log ++ new ∧ ∃ c ∈ new, c.res = .invalidState

/-- A call on an inactive session object is not stale. -/
theorem PerformState.notStale {E : FlashEnv} {C : Crc32} {mallocOk : Bool} {size : Nat}
    {stream : Bytes} {log : FlashLog} {p : PerformRun}
    (h : PerformState E C mallocOk size stream log p) : p.NotStale log := by
  intro hstale
  -- a call behind the opening is behind what was there before
  have hfound : ∀ {dst w} {tail : FlashLog} {c}, p.log = openedLog dst size log w ++ tail →
      c ∈ tail → ∃ new, p.log = log ++ new ∧ ∃ c' ∈ new, c'.res = c.res := by
    intro dst w tail c hlog hc
    rw [openedLog, List.append_assoc] at hlog
    exact ⟨_, hlog, c, List.mem_append_right _ hc, rfl⟩
  cases h with
  | payload dst got hw hpc => rw [hpc] at hstale; cases hstale
  | tail dst got hw hpc => rw [hpc] at hstale; cases hstale
  | restarting dst hpc => rw [hpc] at hstale; cases hstale
  | returned e hpc hexit =>
    obtain rfl : e = .invalidState := TcpPc.returned.inj (hpc.symm.trans hstale)
    generalize he : EspErr.invalidState = e at hexit
    cases hexit with
    | refused hne => exact absurd he.symm hne
    | beginFailed dst hfail hsent hlog hheap =>
      exact ⟨_, hlog, _, List.mem_singleton_self _, rfl⟩
    | noBuffer | cutOff | crcFailed => cases he
    | writeFailed dst w data hw hdvd hne hfail hsent hlog hheap =>
      exact hfound hlog List.mem_cons_self
    | endFailed dst hcrc hne hsent hlog hheap =>
      rcases hlog with ⟨-, hlog⟩ | ⟨-, hlog⟩
      · exact hfound hlog (List.mem_singleton_self _)
      · exact hfound hlog (List.mem_cons_of_mem _ (List.mem_singleton_self _))

/-- An active session object is refused at once. -/
theorem PerformRun.enter_active {E : FlashEnv} {s : OtaSession} (hact : s.active = true)
    (mallocOk : Bool) {size : Nat} (hsize : size ≠ 0) (stream : Bytes) (log : FlashLog) :
    PerformRun.enter E s mallocOk size stream log =
      ⟨⟨size, s, 0, .returned .invalidState, [lit "ACK", lit "ERR ota_begin"], []⟩, log, stream,
        []⟩ := by
  have hbegin : otaSessionBegin E s size 0 (lit "TCP") log = (.invalidState, s, log) := by
    rw [otaSessionBegin, if_neg hsize, if_pos hact]
  simp only [PerformRun.enter, otaPerformEnter, otaPerformEnterHeap, if_neg hsize, hbegin]
  rfl

/-- An inactive one is as good as a zeroed one. -/
theorem PerformRun.enter_inactive {E : FlashEnv} {s : OtaSession} (hact : s.active = false)
    (mallocOk : Bool) {size : Nat} (hsize : size ≠ 0) (stream : Bytes) (log : FlashLog) :
    PerformRun.enter E s mallocOk size stream log =
      PerformRun.enter E .zero mallocOk size stream log := by
  have hbegin : otaSessionBegin E s size 0 (lit "TCP") log =
      otaSessionBegin E .zero size 0 (lit "TCP") log := by
    simp [otaSessionBegin, hsize, hact, OtaSession.zero]
  simp only [PerformRun.enter, otaPerformEnter, otaPerformEnterHeap, if_neg hsize, hbegin]
  rfl

/-- A size of 0 is refused before the object is looked at. -/
theorem PerformRun.enter_zero (E : FlashEnv) (s : OtaSession) (mallocOk : Bool) (stream : Bytes)
    (log : FlashLog) :
    PerformRun.enter E s mallocOk 0 stream log =
      ⟨⟨0, s, 0, .returned .invalidSize, [lit "ERR bad_size"], []⟩, log, stream, []⟩ := rfl

/-- **What a call owes to the stack.** With two contents of its session object, it has the same
outcome, and is not stale, exactly if the size is 0 or neither object looks active. -/
theorem otaPerform_stack_iff (E : FlashEnv) (C : Crc32) (mallocOk : Bool) (size : Nat)
    (stream : Bytes) (log : FlashLog) (s₁ s₂ : OtaSession) :
    (∀ fault plan,
      let p₁ := Run.exec (PerformRun.step E C fault) (.enter E s₁ mallocOk size stream log) plan
      let p₂ := Run.exec (PerformRun.step E C fault) (.enter E s₂ mallocOk size stream log) plan
      p₁.SameOutcome p₂ ∧ p₁.NotStale log ∧ p₂.NotStale log) ↔
      size = 0 ∨ (s₁.active = false ∧ s₂.active = false) := by
  have hstale : ∀ {s : OtaSession}, s.active = true → size ≠ 0 →
      ¬ (PerformRun.enter E s mallocOk size stream log).NotStale log := by
    intro s hact hsize h
    rw [PerformRun.enter_active hact mallocOk hsize] at h
    obtain ⟨new, hlog, c, hc, -⟩ := h rfl
    rw [List.self_eq_append_right.mp hlog] at hc
    cases hc
  constructor
  · intro h
    by_cases hsize : size = 0
    · exact .inl hsize
    · obtain ⟨-, h₁, h₂⟩ := h false []
      refine .inr ⟨?_, ?_⟩
      · exact Bool.eq_false_iff.mpr fun hact => hstale hact hsize h₁
      · exact Bool.eq_false_iff.mpr fun hact => hstale hact hsize h₂
  · intro h fault plan
    dsimp only
    by_cases hsize : size = 0
    · subst hsize
      have hdone : ∀ s, (PerformRun.enter E s mallocOk 0 stream log).Done := fun _ => rfl
      rw [(hdone s₁).exec, (hdone s₂).exec, PerformRun.enter_zero, PerformRun.enter_zero]
      have hne : (TcpPc.returned .invalidSize : TcpPc UInt8) ≠ .returned .invalidState := by decide
      exact ⟨⟨rfl, rfl, rfl⟩, fun h => absurd h hne, fun h => absurd h hne⟩
    · obtain ⟨h₁, h₂⟩ := h.resolve_left hsize
      rw [PerformRun.enter_inactive h₁ mallocOk hsize, PerformRun.enter_inactive h₂ mallocOk hsize]
      have hstate := @performState_exec E C mallocOk size stream log .zero rfl hsize fault plan
      exact ⟨⟨rfl, rfl, rfl⟩, hstate.notStale, hstate.notStale⟩

/-- A stack on which the flag happens to be set. -/
def dirtySession : OtaSession := { OtaSession.zero with active := true }

/-- The same small update succeeds on a clean stack and fails on that one. -/
theorem otaPerform_stack_matters :
    let run := fun s => Run.exec (PerformRun.step ota0Env romCrc32 false)
      (.enter ota0Env s true 2 [0xE9, 1, 0, 0, 0, 0] []) [some 1, some 3]
    (run .zero).t.pc = .restarting ∧ (run dirtySession).t.pc = .returned .invalidState ∧
      ¬ (run .zero).SameOutcome (run dirtySession) := by
  intro run
  have hclean : (run .zero).t.pc = .restarting := by decide +kernel
  have hdirty : (run dirtySession).t.pc = .returned .invalidState := by decide +kernel
  refine ⟨hclean, hdirty, fun h => ?_⟩
  have hpc := h.result
  rw [hclean, hdirty] at hpc
  cases hpc

end RemoteControl
