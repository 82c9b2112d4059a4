import RemoteControl.Ota.Session

/-!
# OTA over TCP (`ota_perform` in `ota_handler.c`)

`ota_perform` runs in the task of one client and takes the payload and the trailer from its socket.
It is cut at its `recv` calls: `otaPerformEnter` runs up to the first one, and each
`otaPerformRecv` takes the outcome of one `recv` and runs up to the next. The bytes of the stream
are of any type `β` with a value, so that a caller can follow where they came from. `written` is
not in the code: it collects the stream bytes of the chunks the session took.
-/

namespace RemoteControl

open CString

/-- What `recv` returns: some bytes (none when the peer has closed), an error, or `EINTR`. -/
inductive Recv (β : Type) where
  | data (bs : List β)
  | err
  | eintr
  deriving DecidableEq

/-- Where a run of `ota_perform` stands: in `recv_fully` for a chunk or for the trailer, with the
bytes got so far; returned; or, after a success, waiting for `esp_restart`. -/
inductive TcpPc (β : Type) where
  | payload (got : List β)
  | tail (got : List β)
  | returned (e : EspErr)
  | restarting
  deriving DecidableEq

/-- The call has returned, or it has succeeded and waits for `esp_restart`. -/
def TcpPc.ended {β : Type} : TcpPc β → Bool
  | .returned _ | .restarting => true
  | .payload _ | .tail _ => false

/-- A run of `ota_perform`: its arguments and locals, and the lines it sent. -/
structure TcpOta (β : Type) where
  size : Nat
  s : OtaSession
  received : Nat
  pc : TcpPc β
  sent : List Bytes
  written : List β
  deriving DecidableEq

/-- `OTA_WRITE_BUF_SZ`. -/
def otaWriteBufSz : Nat := 4096

section
variable {β : Type} (val : β → UInt8) (E : FlashEnv) (C : Crc32)

/-- `send_line`. -/
def TcpOta.send (line : Bytes) (t : TcpOta β) : TcpOta β := { t with sent := t.sent ++ [line] }

/-- An error exit after a successful begin: the line, the abort, the return. -/
def TcpOta.fail (line : Bytes) (e : EspErr) (t : TcpOta β) (log : FlashLog) :
    TcpOta β × FlashLog :=
  let (s, log) := otaSessionAbort t.s log
  ({ t.send line with s := s, pc := .returned e }, log)

/-- `ota_perform` up to its first `recv`. The session object `s` is an uninitialised local, so it
starts as anything. -/
def otaPerformEnter (s : OtaSession) (mallocOk : Bool) (size : Nat) (log : FlashLog) :
    TcpOta β × FlashLog :=
  let t : TcpOta β := ⟨size, s, 0, .returned .invalidSize, [], []⟩
  if size = 0 then (t.send (lit "ERR bad_size"), log)
  else
    let (e, s, log) := otaSessionBegin E s size 0 (lit "TCP") log
    let t := { t.send (lit "ACK") with s := s }
    if e ≠ .ok then ({ t.send (lit "ERR ota_begin") with pc := .returned e }, log)
    else if !mallocOk then t.fail (lit "ERR nomem") .noMem log
    else ({ t with pc := .payload [] }, log)

/-- The chunk the payload loop reads next: `want`. -/
def TcpOta.want (t : TcpOta β) : Nat := min (t.size - t.received) otaWriteBufSz

/-- How many bytes the next `recv` asks for. -/
def TcpOta.asks (t : TcpOta β) : Nat :=
  match t.pc with
  | .payload got => t.want - got.length
  | .tail got => 4 - got.length
  | .returned _ | .restarting => 0

/-- A whole chunk has been read: write it and go on to the next chunk or the trailer. -/
def TcpOta.chunk (got : List β) (t : TcpOta β) (log : FlashLog) : TcpOta β × FlashLog :=
  let (e, s, log) := otaSessionWrite E C t.s (got.map val) log
  let t := { t with s := s }
  if e ≠ .ok then t.fail (lit "ERR ota_write") e log
  else
    let received := (t.received + got.length) % 2 ^ 32
    ({ t with
      received := received
      written := t.written ++ got
      pc := if received < t.size then .payload [] else .tail [] }, log)

/-- The trailer has been read: expect its CRC and finish. -/
def TcpOta.finish (tail : List β) (t : TcpOta β) (log : FlashLog) : TcpOta β × FlashLog :=
  let s := { t.s with crcExpect := UInt32.ofNat (readLe 4 (tail.map val)) }
  let (e, s, log) := otaSessionFinish E s log
  let t := { t with s := s }
  if e = .ok then ({ t.send (lit "OK") with pc := .restarting }, log)
  else
    (({ t with pc := .returned e }).send
      (if e = EspErr.invalidCrc then lit "CRCFAIL" else lit "ERR ota_end"), log)

/-- One `recv` of a run of `ota_perform`, and what follows up to the next. -/
def otaPerformRecv (r : Recv β) (t : TcpOta β) (log : FlashLog) : TcpOta β × FlashLog :=
  match t.pc, r with
  | .returned _, _ | .restarting, _ | _, .eintr => (t, log)
  | .payload _, .err | .payload _, .data [] => t.fail (lit "ERR recv_payload") .fail log
  | .tail _, .err | .tail _, .data [] => t.fail (lit "ERR recv_crc") .fail log
  | .payload got, .data (b :: bs) =>
    let got := got ++ (b :: bs).take t.asks
    if got.length < t.want then ({ t with pc := .payload got }, log) else t.chunk val E C got log
  | .tail got, .data (b :: bs) =>
    let got := got ++ (b :: bs).take t.asks
    if got.length < 4 then ({ t with pc := .tail got }, log) else t.finish val E got log

/-! ## A run in its loops -/

/-- The session of the run is open, and its counters say how much it has written. -/
structure TcpOta.Receiving (t : TcpOta β) : Prop where
  active : t.s.active = true
  handle : t.s.wr.handle ≠ 0
  expected : t.s.bytesExpected = t.size
  counted : t.s.bytesWritten = t.written.length
  received : t.received = t.written.length
  le : t.written.length ≤ t.size
  bound : t.size < 2 ^ 32

variable {E C val}

/-- **The entry.** The run has returned, or it waits for its first chunk with an open session. -/
theorem otaPerformEnter_cases (s : OtaSession) (mallocOk : Bool) (size : Nat) (log : FlashLog)
    {t : TcpOta β} {log' : FlashLog} (h : otaPerformEnter E s mallocOk size log = (t, log')) :
    t.written = [] ∧ t.size = size ∧
      ((∃ e, t.pc = .returned e) ∨ (t.pc = .payload [] ∧ t.Receiving ∧ size ≠ 0)) := by
  unfold otaPerformEnter at h
  dsimp only at h
  split at h
  · cases h
    exact ⟨rfl, rfl, .inl ⟨_, rfl⟩⟩
  · next hsize =>
    obtain ⟨⟨e, s', log₁⟩, hb⟩ : ∃ q, otaSessionBegin E s size 0 (lit "TCP") log = q := ⟨_, rfl⟩
    rw [hb] at h
    dsimp only at h
    split at h
    · cases h
      exact ⟨rfl, rfl, .inl ⟨_, rfl⟩⟩
    · next hok =>
      split at h
      · cases h
        exact ⟨rfl, rfl, .inl ⟨_, rfl⟩⟩
      · cases h
        refine ⟨rfl, rfl, .inr ⟨rfl, ?_, hsize⟩⟩
        rcases otaSessionBegin_cases E s size 0 (lit "TCP") log hb with
          ⟨-, -, dst, -, hle, -, -, hbegun⟩ | ⟨hne, -⟩ | ⟨hne, -⟩
        · have hlt : size < 2 ^ 32 := Nat.lt_of_le_of_lt hle dst.size_lt
          exact ⟨hbegun.active, by simp [hbegun.wr], hbegun.expected, hbegun.written, rfl,
            Nat.zero_le _, hlt⟩
        · exact absurd hne hok
        · exact absurd hne hok

/-- The run waits for its first chunk exactly when the begin succeeds and there is a buffer. -/
theorem otaPerformEnter_payload_iff {s : OtaSession} {mallocOk : Bool} {size : Nat}
    {log : FlashLog} {t : TcpOta β} {log' : FlashLog}
    (h : otaPerformEnter E s mallocOk size log = (t, log')) :
    t.pc = .payload [] ↔ (s.active = false ∧ size ≠ 0 ∧
      (∃ dst, E.next = some dst ∧ size ≤ dst.size) ∧ E.fate .otaBegin log.length = .ok) ∧
        mallocOk = true := by
  rw [← otaSessionBegin_ok_iff E s size 0 (lit "TCP") log]
  unfold otaPerformEnter at h
  dsimp only at h
  split at h
  · next h0 =>
    cases h
    simp [otaSessionBegin, h0, TcpOta.send]
  · split at h
    · next hne =>
      cases h
      simp [hne]
    · next hok =>
      rw [not_not] at hok
      split at h
      · next hmalloc =>
        cases h
        simpa [TcpOta.fail] using fun _ => hmalloc
      · next hmalloc =>
        cases h
        simpa [hok] using hmalloc

/-- **Payload bytes.** They go to the chunk. A chunk that is whole is written, and the run goes on
to the next chunk or to the trailer; it returns only when `esp_ota_write` fails. -/
theorem otaPerformRecv_payload {t : TcpOta β} {got bs : List β} {log : FlashLog}
    (hpc : t.pc = .payload got) (ht : t.Receiving) (hgot : got.length < t.want) (hbs : bs ≠ [])
    (hlen : bs.length ≤ t.asks) {t' : TcpOta β} {log' : FlashLog}
    (h : otaPerformRecv val E C (.data bs) t log = (t', log')) :
    (t.want ≤ got.length + bs.length ∧ E.fate .otaWrite log.length ≠ .ok ∧
      ∃ e, t'.pc = .returned e) ∨
    (t'.size = t.size ∧ t'.Receiving ∧
      ((t'.pc = .payload (got ++ bs) ∧ t'.written = t.written ∧ (got ++ bs).length < t'.want) ∨
        (t'.written = t.written ++ (got ++ bs) ∧
          ((t'.pc = .payload [] ∧ t'.written.length < t'.size) ∨
            (t'.pc = .tail [] ∧ t'.written.length = t'.size))))) := by
  have hasks : t.asks = t.want - got.length := by simp only [TcpOta.asks, hpc]
  obtain ⟨b, bs, rfl⟩ := List.exists_cons_of_ne_nil hbs
  have htake : (b :: bs).take t.asks = b :: bs := List.take_of_length_le hlen
  simp only [otaPerformRecv, hpc, htake] at h
  by_cases hshort : (got ++ b :: bs).length < t.want
  · rw [if_pos hshort] at h
    cases h
    exact .inr ⟨rfl, ⟨ht.1, ht.2, ht.3, ht.4, ht.5, ht.6, ht.7⟩, .inl ⟨rfl, rfl, hshort⟩⟩
  · rw [if_neg hshort] at h
    obtain ⟨hact, hhandle, hexp, hcount, hrecv, hle, hbound⟩ := ht
    have hwant : t.want = min (t.size - t.written.length) otaWriteBufSz := by
      rw [TcpOta.want, hrecv]
    have hfull : (got ++ b :: bs).length = t.want := by
      rw [List.length_append] at hshort ⊢
      omega
    have hroom : t.written.length + (got ++ b :: bs).length ≤ t.size := by omega
    have hmod : (t.written.length + (got ++ b :: bs).length) % 2 ^ 32 =
        t.written.length + (got ++ b :: bs).length := Nat.mod_eq_of_lt (by omega)
    obtain ⟨⟨e, s, log₁⟩, hw⟩ :
      ∃ q, otaSessionWrite E C t.s ((got ++ b :: bs).map val) log = q := ⟨_, rfl⟩
    have hdone : E.fate .otaWrite log.length = .ok → e = .ok := by
      intro hfate
      have hne : (got ++ b :: bs).map val ≠ [] := by simp
      obtain ⟨since, hok⟩ := otaSessionWrite_ok E C hact hne hhandle
        (by rw [List.length_map, hcount, hexp, hmod]; exact hroom) hfate
      rw [hok] at hw
      cases hw
      rfl
    simp only [TcpOta.chunk, hw] at h
    rcases otaSessionWrite_cases E C t.s _ log hw with
      ⟨rfl, -, -, -, -, -, since, rfl⟩ | ⟨hne, -, -⟩
    · rw [if_neg (by simp)] at h
      cases h
      have hrec : (t.received + (got ++ b :: bs).length) % 2 ^ 32 =
          (t.written ++ (got ++ b :: bs)).length := by
        rw [hrecv, hmod]
        exact List.length_append.symm
      refine .inr ⟨rfl, ⟨hact, hhandle, hexp, ?_, hrec, List.length_append.trans_le hroom, hbound⟩,
        .inr ⟨rfl, ?_⟩⟩
      · simp only [List.length_map, hcount]
        rw [hmod]
        exact List.length_append.symm
      · rw [hrec]
        by_cases hmore : (t.written ++ (got ++ b :: bs)).length < t.size
        · exact .inl ⟨if_pos hmore, hmore⟩
        · have hall : (t.written ++ (got ++ b :: bs)).length ≤ t.size :=
            List.length_append.trans_le hroom
          exact .inr ⟨if_neg hmore, Nat.le_antisymm hall (Nat.not_lt.mp hmore)⟩
    · rw [if_pos hne] at h
      cases h
      refine .inl ⟨?_, fun hfate => hne (hdone hfate), e, rfl⟩
      rw [← hfull, List.length_append]

/-- **Trailer bytes.** They go to the trailer; when it is whole, the run is over. -/
theorem otaPerformRecv_tail {t : TcpOta β} {got bs : List β} {log : FlashLog}
    (hpc : t.pc = .tail got) (hbs : bs ≠ []) (hlen : bs.length ≤ t.asks) {t' : TcpOta β}
    {log' : FlashLog} (h : otaPerformRecv val E C (.data bs) t log = (t', log')) :
    t'.written = t.written ∧
      ((t' = { t with pc := .tail (got ++ bs) } ∧ (got ++ bs).length < 4) ∨
        (4 ≤ (got ++ bs).length ∧ ((∃ e, t'.pc = .returned e) ∨ t'.pc = .restarting))) := by
  obtain ⟨b, bs, rfl⟩ := List.exists_cons_of_ne_nil hbs
  have htake : (b :: bs).take t.asks = b :: bs := List.take_of_length_le hlen
  simp only [otaPerformRecv, hpc, htake] at h
  by_cases hshort : (got ++ b :: bs).length < 4
  · rw [if_pos hshort] at h
    cases h
    exact ⟨rfl, .inl ⟨rfl, hshort⟩⟩
  · rw [if_neg hshort] at h
    unfold TcpOta.finish at h
    dsimp only at h
    split at h <;> cases h
    · exact ⟨rfl, .inr ⟨Nat.not_lt.mp hshort, .inr rfl⟩⟩
    · exact ⟨rfl, .inr ⟨Nat.not_lt.mp hshort, .inl ⟨_, rfl⟩⟩⟩

/-- **No bytes.** An interrupted `recv` changes nothing; any other failure ends the run. -/
theorem otaPerformRecv_failed {t : TcpOta β} {r : Recv β} {log : FlashLog}
    (hr : r = .data [] ∨ r = .err ∨ r = .eintr) {t' : TcpOta β} {log' : FlashLog}
    (h : otaPerformRecv val E C r t log = (t', log')) :
    t' = t ∨ ((r ≠ .eintr) ∧ ∃ e, t'.pc = .returned e) := by
  unfold otaPerformRecv at h
  rcases hr with rfl | rfl | rfl <;> cases hpc : t.pc <;> rw [hpc] at h <;> cases h <;>
    first
    | exact .inl rfl
    | exact .inr ⟨by simp, _, rfl⟩

end

end RemoteControl
