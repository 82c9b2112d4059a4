import Mathlib.Order.Bounds.Basic
import RemoteControl.Ble.Delivery
import RemoteControl.Ota.Interleave

/-!
# The two copies of a BLE transfer

`ble_ota.c` keeps a transfer in `s_bo`, `ota_session.c` the same transfer in `s_ble`. `BleChange`
lists what a handler can do to the two, and every handler does one of these things
(`OtaWorld.ble_step`). Two invariants follow: the copies are active together and count alike
(`BleAgree`); and for a partition that leaves room for one more frame below `2 ^ 32`, no frame that
can arrive next makes a counter wrap, and the progress mark is the next multiple of `progStep` as
long as that fits 32 bits (`Paced`).
-/

namespace RemoteControl

open CString

variable {E : FlashEnv} {C : Crc32} {b b' : BleOta}

/-! ## The DATA writes -/

/-- The progress mark after a chunk of `blen` bytes that does not complete the image. -/
def BleOtaState.markAfter (blen : Nat) (bo : BleOtaState) : Nat :=
  if bo.nextProgMark ≤ (bo.written + blen) % 2 ^ 32 then (bo.nextProgMark + progStep) % 2 ^ 32
  else bo.nextProgMark

/-- `s_bo` after a chunk of `blen` bytes that does not complete the image. -/
def BleOtaState.advance (blen : Nat) (bo : BleOtaState) : BleOtaState :=
  { bo with
    expectSeq := (bo.expectSeq + 1) % 2 ^ 32
    written := (bo.written + blen) % 2 ^ 32
    nextProgMark := bo.markAfter blen }

/-- A chunk that does not complete the image advances the counters. -/
theorem bleOtaTaken_advance (blen : Nat) (h : (b.bo.written + blen) % 2 ^ 32 ≠ b.bo.total)
    (log : FlashLog) :
    ∃ sent, bleOtaTaken E blen b log = ({ b with bo := b.bo.advance blen, sent := sent }, log) := by
  by_cases hmark : b.bo.nextProgMark ≤ (b.bo.written + blen) % 2 ^ 32
  · refine ⟨b.sent ++ [progLine ((b.bo.written + blen) % 2 ^ 32) b.bo.total], ?_⟩
    simp only [bleOtaTaken, if_pos (Or.inl hmark), BleOta.send, BleOtaState.advance,
      BleOtaState.markAfter, if_pos hmark]
    rw [if_neg h]
  · refine ⟨b.sent, ?_⟩
    have hno : ¬ (b.bo.nextProgMark ≤ (b.bo.written + blen) % 2 ^ 32 ∨
        (b.bo.written + blen) % 2 ^ 32 = b.bo.total) := not_or.mpr ⟨hmark, h⟩
    simp only [bleOtaTaken, if_neg hno, BleOtaState.advance, BleOtaState.markAfter, if_neg hmark]
    rw [if_neg h]

/-- **What a DATA write can do.** It does nothing; or both copies become idle, because the chunk was
refused or completed the image; or the session takes the chunk and both copies advance by it. -/
theorem bleOtaOnDataWrite_cases (data : Bytes) (b : BleOta) (log : FlashLog) {b' : BleOta}
    {log' : FlashLog} (h : bleOtaOnDataWrite E C data b log = (b', log')) :
    (b' = b ∧ log' = log) ∨
    (NextFrame b data ∧ b'.bo = .zero ∧ b'.ble.active = false) ∨
    (NextFrame b data ∧ b.ble.active = true ∧ frameChunk data ≠ [] ∧ b.ble.wr.handle ≠ 0 ∧
      (b.bo.written + (frameChunk data).length) % 2 ^ 32 ≠ b.bo.total ∧
      b'.bo = b.bo.advance (frameChunk data).length ∧
      (∃ since, b'.ble = { b.ble with
        bytesWritten := (b.ble.bytesWritten + (frameChunk data).length) % 2 ^ 32
        crcRunning := C.update b.ble.crcRunning (frameChunk data)
        sinceYield := since }) ∧
      b'.finishes = b.finishes ∧ b'.restarted = b.restarted ∧
      log' = log ++ [.otaWrite b.ble.wr.handle (frameChunk data) .ok]) := by
  by_cases hnext : NextFrame b data
  swap
  · rw [bleOtaOnDataWrite_dropped E C hnext] at h
    cases h
    exact .inl ⟨rfl, rfl⟩
  obtain ⟨⟨e, ble, log₁⟩, hw⟩ : ∃ q, otaSessionWrite E C b.ble (data.drop 6) log = q := ⟨_, rfl⟩
  rw [bleOtaOnDataWrite_next E C hnext hw, ← frameChunk] at h
  rcases otaSessionWrite_cases E C b.ble (data.drop 6) log hw with
    ⟨rfl, hact, hne, hh, -, rfl, since, rfl⟩ | ⟨hne, rfl, -⟩
  · rw [if_neg (by simp)] at h
    by_cases hall : (b.bo.written + (frameChunk data).length) % 2 ^ 32 = b.bo.total
    · obtain ⟨mark, sent, htaken⟩ := bleOtaTaken_spec E (frameChunk data).length
        { b with ble := { b.ble with
          bytesWritten := (b.ble.bytesWritten + (frameChunk data).length) % 2 ^ 32
          crcRunning := C.update b.ble.crcRunning (frameChunk data)
          sinceYield := since } }
        (log ++ [.otaWrite b.ble.wr.handle (data.drop 6) .ok])
      rw [if_pos hall] at htaken
      obtain ⟨hbo, hble, -⟩ := bleOtaFinalize_spec E
        (({ b with ble := { b.ble with
          bytesWritten := (b.ble.bytesWritten + (frameChunk data).length) % 2 ^ 32
          crcRunning := C.update b.ble.crcRunning (frameChunk data)
          sinceYield := since } } : BleOta).advance (frameChunk data).length mark sent)
        (log ++ [.otaWrite b.ble.wr.handle (data.drop 6) .ok])
      obtain rfl : _ = b' := congrArg Prod.fst (htaken.symm.trans h)
      exact .inr (.inl ⟨hnext, hbo, hble⟩)
    · obtain ⟨sent, htaken⟩ := bleOtaTaken_advance (E := E) (frameChunk data).length
        (b := { b with ble := { b.ble with
          bytesWritten := (b.ble.bytesWritten + (frameChunk data).length) % 2 ^ 32
          crcRunning := C.update b.ble.crcRunning (frameChunk data)
          sinceYield := since } }) hall
        (log ++ [.otaWrite b.ble.wr.handle (data.drop 6) .ok])
      have hr := htaken.symm.trans h
      cases hr
      exact .inr (.inr ⟨hnext, hact, hne, hh, hall, rfl, ⟨since, rfl⟩, rfl, rfl, rfl⟩)
  · rw [if_pos hne] at h
    cases h
    exact .inr (.inl ⟨hnext, rfl, (otaSessionAbort_log _ log₁).1⟩)

/-! ## What a handler does to the two copies -/

/-- The two copies before and after a handler: they stay as they are; a refused START leaves another
idle session; both become idle; a START opens a transfer; or both advance by a chunk. -/
inductive BleChange (E : FlashEnv) (b b' : BleOta) : Prop
  | kept (bo : b'.bo = b.bo) (ble : b'.ble = b.ble)
  | refused (off : b.bo.active = false) (bo : b'.bo = b.bo) (ble : b'.ble.active = false)
  | idle (bo : b'.bo = .zero) (ble : b'.ble.active = false)
  | started (size crc : Nat) (dst : Partition) (handle : Nat) (size_ne : size ≠ 0)
      (next : E.next = some dst) (fits : size ≤ dst.size)
      (begun : Begun b'.ble size (UInt32.ofNat crc) dst handle)
      (bo : b'.bo = ⟨true, size, 0, crc, 0, progStep⟩)
  | advanced (data : Bytes) (frame : NextFrame b data) (chunk : frameChunk data ≠ [])
      (part : (b.bo.written + (frameChunk data).length) % 2 ^ 32 ≠ b.bo.total)
      (bo : b'.bo = b.bo.advance (frameChunk data).length)
      (active : b'.ble.active = b.ble.active)
      (expected : b'.ble.bytesExpected = b.ble.bytesExpected)
      (written : b'.ble.bytesWritten =
        (b.ble.bytesWritten + (frameChunk data).length) % 2 ^ 32)

/-- A START. -/
theorem bleOtaStart_change (mode : ScMode) (line : Bytes) (m : Monitor) (log : FlashLog)
    (hsync : b.bo.active = b.ble.active) :
    BleChange E b (bleOtaStart E mode line m b log).2.1 := by
  rcases bleOtaStart_cases E mode line m b log with
    ⟨-, answer, -, heq⟩ | ⟨size, crc, hs, e, ble, log', hb, heq⟩
  · rw [heq]
    exact .kept rfl rfl
  · rw [heq]
    rcases otaSessionBegin_cases E _ _ _ _ _ hb with
      ⟨rfl, -, dst, hdst, hle, -, -, hbegun⟩ | ⟨hne, rfl, -⟩ | ⟨hne, -, hble, -⟩
    · rw [if_neg (by simp)]
      exact .started size crc dst _ hs.size_ne hdst hle hbegun rfl
    · rw [if_pos hne]
      exact .refused hs.idle rfl (hsync.symm.trans hs.idle)
    · rw [if_pos hne]
      exact .refused hs.idle rfl hble

/-- A FINISH. -/
theorem bleOtaFinish_change (log : FlashLog) : BleChange E b (bleOtaFinish E b log).1 := by
  unfold bleOtaFinish
  split
  · exact .kept rfl rfl
  · obtain ⟨⟨e, ble, log'⟩, hf⟩ : ∃ q, otaSessionFinish E b.ble log = q := ⟨_, rfl⟩
    obtain ⟨hble, -⟩ := otaSessionFinish_log E b.ble log hf
    simp only [otaFinishXport, hf]
    split <;> exact .idle rfl hble

/-- An ABORT. -/
theorem bleOtaAbort_change (log : FlashLog) : BleChange E b (bleOtaAbort b log).1 := by
  unfold bleOtaAbort
  split
  · exact .kept rfl rfl
  · exact .idle rfl (otaSessionAbort_log b.ble log).1

/-- A CTRL write. -/
theorem bleOtaOnCtrlWrite_change (mode : ScMode) (data : Bytes) (m : Monitor) (log : FlashLog)
    (hsync : b.bo.active = b.ble.active) :
    BleChange E b (bleOtaOnCtrlWrite E mode data m b log).2.1 := by
  unfold bleOtaOnCtrlWrite
  split
  · exact .kept rfl rfl
  · dsimp only
    split
    · exact bleOtaStart_change mode _ m log hsync
    · split
      · exact bleOtaFinish_change log
      · split
        · exact bleOtaAbort_change log
        · exact .kept rfl rfl

/-- A DATA write. -/
theorem bleOtaOnDataWrite_change (data : Bytes) (log : FlashLog) :
    BleChange E b (bleOtaOnDataWrite E C data b log).1 := by
  obtain ⟨⟨b', log'⟩, hr⟩ : ∃ q, bleOtaOnDataWrite E C data b log = q := ⟨_, rfl⟩
  rw [hr]
  rcases bleOtaOnDataWrite_cases data b log hr with
    ⟨rfl, -⟩ | ⟨-, hbo, hble⟩ | ⟨hnext, -, hne, -, hpart, hbo, ⟨since, hble⟩, -⟩
  · exact .kept rfl rfl
  · exact .idle hbo hble
  · exact .advanced data hnext hne hpart hbo (by rw [hble]) (by rw [hble]) (by rw [hble])

/-- A disconnect, while the image is not complete. -/
theorem bleOtaOnDisconnect_change (log : FlashLog)
    (hpart : b.bo.active = true → b.bo.written < b.bo.total) :
    BleChange E b (bleOtaOnDisconnect E b log).1 := by
  unfold bleOtaOnDisconnect
  split
  · exact .kept rfl rfl
  · next hact =>
    have hlt := hpart (by simpa using hact)
    rw [if_neg (by omega)]
    exact .idle rfl (otaSessionAbort_log b.ble log).1

/-! ## They agree -/

/-- A transfer that is under way: the counters of `s_bo` are those of `s_ble`, and the image is not
complete. -/
structure Transfer (E : FlashEnv) (b : BleOta) : Prop where
  written : b.bo.written = b.ble.bytesWritten
  total : b.bo.total = b.ble.bytesExpected
  incomplete : b.bo.written < b.bo.total
  fits : ∃ dst, E.next = some dst ∧ b.bo.total ≤ dst.size

/-- `s_bo` and `s_ble` are active together, and then they agree. -/
structure BleAgree (E : FlashEnv) (b : BleOta) : Prop where
  active : b.bo.active = b.ble.active
  transfer : b.bo.active = true → Transfer E b

/-- Without a transfer there is nothing to agree on. -/
theorem bleAgree_idle (hbo : b.bo.active = false) (hble : b.ble.active = false) :
    BleAgree E b :=
  ⟨hbo.trans hble.symm, fun hact => absurd (hbo.symm.trans hact) (by simp)⟩

/-- **Every change** preserves the agreement. -/
theorem BleAgree.change (h : BleAgree E b) (hc : BleChange E b b') : BleAgree E b' := by
  cases hc with
  | kept hbo hble =>
    refine ⟨by rw [hbo, hble]; exact h.active, fun hact => ?_⟩
    rw [hbo] at hact
    obtain ⟨hw, ht, hlt, hfits⟩ := h.transfer hact
    exact ⟨by rw [hbo, hble, hw], by rw [hbo, hble, ht], by rw [hbo]; exact hlt,
      by rw [hbo]; exact hfits⟩
  | refused hoff hbo hble => exact bleAgree_idle (by rw [hbo]; exact hoff) hble
  | idle hbo hble => exact bleAgree_idle (by rw [hbo]; rfl) hble
  | started size crc dst handle hsize hnext hfits hbegun hbo =>
    refine ⟨by rw [hbo, hbegun.active], fun _ => ?_⟩
    exact ⟨by rw [hbo, hbegun.written], by rw [hbo, hbegun.expected],
      by rw [hbo]; exact Nat.pos_of_ne_zero hsize, ⟨dst, hnext, by rw [hbo]; exact hfits⟩⟩
  | advanced data hnext hne hpart hbo hact hexpected hwritten =>
    refine ⟨by rw [hbo, hact]; exact h.active, fun _ => ?_⟩
    obtain ⟨hw, ht, -, hfits⟩ := h.transfer hnext.active
    have hle := hnext.fits
    rw [hnext.length_chunk] at hle
    refine ⟨by rw [hbo, hwritten, ← hw]; rfl, by rw [hbo, hexpected]; exact ht, ?_,
      by rw [hbo]; exact hfits⟩
    rw [hbo]
    exact Nat.lt_of_le_of_ne hle hpart

/-! ## No counter wraps -/

/-- The mark stays a multiple of `progStep`, whether or not it wraps. -/
theorem markAfter_dvd (blen : Nat) (hdvd : progStep ∣ b.bo.nextProgMark) :
    progStep ∣ b.bo.markAfter blen := by
  unfold BleOtaState.markAfter
  split
  · have hpow : progStep ∣ 2 ^ 32 := by decide
    exact (Nat.dvd_mod_iff hpow).mpr (Nat.dvd_add hdvd (Nat.dvd_refl progStep))
  · exact hdvd

/-- A frame is shorter than `progStep`, so the mark moves by one step at most. -/
theorem markAfter_eq {blen : Nat} (hblen : blen < 65536)
    (hmark : b.bo.nextProgMark = progStep * (b.bo.written / progStep + 1))
    (hfit : b.bo.written + blen + progStep < 2 ^ 32) :
    b.bo.markAfter blen = progStep * ((b.bo.written + blen) / progStep + 1) := by
  have hstep : progStep = 262144 := rfl
  have hmod : (b.bo.written + blen) % 2 ^ 32 = b.bo.written + blen :=
    Nat.mod_eq_of_lt (by omega)
  rw [BleOtaState.markAfter, hmod, hmark]
  rw [hstep] at hfit ⊢
  split
  · rw [Nat.mod_eq_of_lt (by omega)]
    omega
  · omega

/-- The sequence number and the progress mark follow the bytes written. -/
structure Paced (b : BleOta) : Prop where
  seq : b.bo.expectSeq ≤ b.bo.written
  markDvd : progStep ∣ b.bo.nextProgMark
  mark : b.bo.written + progStep < 2 ^ 32 →
    b.bo.nextProgMark = progStep * (b.bo.written / progStep + 1)

/-- Both invariants, where the second one holds too. -/
structure BlePaced (E : FlashEnv) (b : BleOta) : Prop where
  agree : BleAgree E b
  paced : b.bo.active = true → Paced b

/-- **Every change** preserves the pace, for a partition that leaves room for one more frame below
`2 ^ 32`. -/
theorem BlePaced.change (h : BlePaced E b) (hc : BleChange E b b')
    (hp : ∀ dst, E.next = some dst → dst.size < 2 ^ 32 - 65536) : BlePaced E b' := by
  refine ⟨h.agree.change hc, fun hact => ?_⟩
  cases hc with
  | kept hbo _ | refused _ hbo _ =>
    rw [hbo] at hact
    obtain ⟨hseq, hdvd, hmark⟩ := h.paced hact
    exact ⟨by rw [hbo]; exact hseq, by rw [hbo]; exact hdvd, by rw [hbo]; exact hmark⟩
  | idle hbo hble =>
    rw [hbo] at hact
    cases hact
  | started size crc dst handle hsize hnext hfits hbegun hbo =>
    refine ⟨by rw [hbo], by rw [hbo], fun _ => ?_⟩
    rw [hbo]
    change progStep = progStep * (0 / progStep + 1)
    rw [Nat.zero_div, Nat.zero_add, Nat.mul_one]
  | advanced data hnext hne hpart hbo _ _ _ =>
    obtain ⟨hseq, hdvd, hmark⟩ := h.paced hnext.active
    have ht := h.agree.transfer hnext.active
    obtain ⟨dst, hdst, hle⟩ := ht.fits
    have hsmall := hp dst hdst
    have hincomplete := ht.incomplete
    have hblen : (frameChunk data).length < 65536 := by
      have hlt := readLe_lt 2 (data.drop 4)
      rwa [hnext.length_chunk] at hlt
    have hpos := List.length_pos_of_ne_nil hne
    have hmod : (b.bo.written + (frameChunk data).length) % 2 ^ 32 =
        b.bo.written + (frameChunk data).length := Nat.mod_eq_of_lt (by omega)
    have hmodSeq : (b.bo.expectSeq + 1) % 2 ^ 32 = b.bo.expectSeq + 1 :=
      Nat.mod_eq_of_lt (by omega)
    refine ⟨?_, by rw [hbo]; exact markAfter_dvd _ hdvd, ?_⟩
    · rw [hbo]
      change _ % _ ≤ _ % _
      omega
    · rw [hbo]
      change _ % _ + _ < _ → b.bo.markAfter _ = progStep * (_ % _ / progStep + 1)
      rw [hmod]
      exact fun hfit => markAfter_eq hblen (hmark (by omega)) hfit

/-! ## Over all runs -/

/-- What holds of the two copies between two handlers: they are active together; and while they are,
they count alike, the image is incomplete, no counter wraps in the next DATA write, and the progress
mark is a multiple of `progStep`, the next one after `written` as long as that is below `2 ^ 32`. -/
structure BleTracks (b : BleOta) : Prop where
  active : b.bo.active = true ↔ b.ble.active = true
  written : b.bo.active = true → b.bo.written = b.ble.bytesWritten
  incomplete : b.bo.active = true → b.bo.written < b.bo.total
  total : b.bo.active = true → b.bo.total = b.ble.bytesExpected
  seq : b.bo.active = true → b.bo.expectSeq ≤ b.bo.written
  noWrap : b.bo.active = true → ∀ len, len ≤ 65535 →
    b.bo.written + len < 2 ^ 32 ∧ b.ble.bytesWritten + len < 2 ^ 32 ∧ b.bo.expectSeq + 1 < 2 ^ 32
  markDvd : b.bo.active = true → progStep ∣ b.bo.nextProgMark
  mark : b.bo.active = true → b.bo.written < 2 ^ 32 - progStep →
    IsLeast {m | progStep ∣ m ∧ b.bo.written < m} b.bo.nextProgMark

/-- The next multiple of a number. -/
theorem isLeast_nextMultiple {d : Nat} (hd : 0 < d) (n : Nat) :
    IsLeast {m | d ∣ m ∧ n < m} (d * (n / d + 1)) := by
  refine ⟨⟨Nat.dvd_mul_right _ _, Nat.lt_mul_div_succ n hd⟩, ?_⟩
  rintro _ ⟨⟨k, rfl⟩, hlt⟩
  exact Nat.mul_le_mul_left d (Nat.div_lt_of_lt_mul hlt)

/-- The invariants give all of it. -/
theorem BlePaced.tracks (h : BlePaced E b)
    (hp : ∀ dst, E.next = some dst → dst.size < 2 ^ 32 - 65536) : BleTracks b where
  active := by rw [h.agree.active]
  written := fun hact => (h.agree.transfer hact).written
  incomplete := fun hact => (h.agree.transfer hact).incomplete
  total := fun hact => (h.agree.transfer hact).total
  seq := fun hact => (h.paced hact).seq
  noWrap := by
    intro hact len hlen
    have ht := h.agree.transfer hact
    obtain ⟨dst, hdst, hle⟩ := ht.fits
    have hsmall := hp dst hdst
    have hincomplete := ht.incomplete
    have hseq := (h.paced hact).seq
    rw [← ht.written]
    omega
  markDvd := fun hact => (h.paced hact).markDvd
  mark := by
    intro hact hlt
    have hstep : progStep = 262144 := rfl
    rw [(h.paced hact).mark (by omega)]
    exact isLeast_nextMultiple (by decide) _

/-- **A handler.** The runs of `ota_perform` do not touch the two copies. -/
theorem OtaWorld.ble_step {w : OtaWorld} (h : BleAgree E w.ble) (ev : OtaEv) :
    BleChange E w.ble (w.step E C ev).ble := by
  cases ev with
  | tcpEnter s mallocOk size => exact .kept rfl rfl
  | tcpRecv i r =>
    simp only [OtaWorld.step]
    split <;> exact .kept rfl rfl
  | bleCtrl mode m data =>
    simp only [OtaWorld.step]
    split
    · exact .kept rfl rfl
    · exact bleOtaOnCtrlWrite_change mode data m w.log h.active
  | bleData data =>
    simp only [OtaWorld.step]
    split
    · exact .kept rfl rfl
    · exact bleOtaOnDataWrite_change data w.log
  | bleDisconnect =>
    simp only [OtaWorld.step]
    split
    · exact .kept rfl rfl
    · exact bleOtaOnDisconnect_change w.log fun hact => (h.transfer hact).incomplete

/-- The agreement in the world. -/
def OtaWorld.Agrees (E : FlashEnv) (w : OtaWorld) : Prop := BleAgree E w.ble

/-- The agreement and the pace in the world. -/
def OtaWorld.Paced (E : FlashEnv) (w : OtaWorld) : Prop := BlePaced E w.ble

/-- `s_bo` and `s_ble` agree in every reachable state, whatever the partition. -/
theorem otaWorld_agrees (E : FlashEnv) (C : Crc32) (evs : List OtaEv) :
    (Run.exec (OtaWorld.step E C) .init evs).Agrees E :=
  Run.exec_inv (show OtaWorld.init.Agrees E from bleAgree_idle rfl rfl)
    (fun _ ev h => h.change (OtaWorld.ble_step h ev)) evs

/-- **The adapter and its session agree** after any CTRL writes, DATA writes and disconnects, in any
modes, beside any runs of `ota_perform` and under every pattern of driver failures. -/
theorem bleOta_tracks (E : FlashEnv) (C : Crc32)
    (hp : ∀ dst, E.next = some dst → dst.size < 2 ^ 32 - 65536) (evs : List OtaEv) :
    BleTracks (Run.exec (OtaWorld.step E C) .init evs).ble := by
  have hinit : OtaWorld.init.Paced E := ⟨bleAgree_idle rfl rfl, nofun⟩
  have hrun : (Run.exec (OtaWorld.step E C) .init evs).Paced E :=
    Run.exec_inv hinit (fun _ ev h => h.change (OtaWorld.ble_step h.agree ev) hp) evs
  exact hrun.tracks hp

/-- One START and one frame. -/
theorem bleOta_tracks_small :
    BleTracks (Run.exec (OtaWorld.step ota0Env romCrc32) .init
      [.bleCtrl .recovery ⟨true, 0⟩ (startLine 15 0), .bleData (uploadFrame 0 [0xE9])]).ble :=
  bleOta_tracks ota0Env romCrc32
    (fun dst h => by rw [← Option.some.inj h]; decide) _

/-! ## The progress mark of an image of nearly 4 GiB -/

/-- A device with the largest update partition allowed, on which nothing fails. -/
def hugeEnv : FlashEnv := ⟨some ⟨0, 2 ^ 32 - 65537, by decide⟩, fun _ _ => .ok⟩

/-- The chunks of a huge image. -/
def hugeChunk : Bytes := List.replicate 32768 0

/-- A START for an image that fills the partition, and the first `n` frames. -/
def hugeUpload (n : Nat) : List OtaEv :=
  .bleCtrl .recovery ⟨true, 0⟩ (startLine (2 ^ 32 - 65537) 0) ::
    (List.range n).map fun k => .bleData (uploadFrame k hugeChunk)

/-- The state after `n` of the frames. -/
structure HugeTaken (n : Nat) (b : BleOta) : Prop where
  bo : b.bo = ⟨true, 2 ^ 32 - 65537, 32768 * n, 0, n, progStep * (n / 8 + 1) % 2 ^ 32⟩
  active : b.ble.active = true
  handle : b.ble.wr.handle ≠ 0
  expected : b.ble.bytesExpected = 2 ^ 32 - 65537
  written : b.ble.bytesWritten = 32768 * n
  running : b.restarted = false

/-- The START is accepted. -/
theorem hugeTaken_start :
    HugeTaken 0 (OtaWorld.init.step hugeEnv C
      (.bleCtrl .recovery ⟨true, 0⟩ (startLine (2 ^ 32 - 65537) 0))).ble := by
  obtain ⟨⟨m', b', log'⟩, hr⟩ : ∃ q, bleOtaOnCtrlWrite hugeEnv .recovery
    (startLine (2 ^ 32 - 65537) 0) ⟨true, 0⟩ .init [] = q := ⟨_, rfl⟩
  have hack : (bleOtaOnCtrlWrite hugeEnv .recovery (startLine (2 ^ 32 - 65537) 0) ⟨true, 0⟩ .init
      []).2.1.sent = [lit "ACK START"] := by decide +kernel
  have hrunning : (bleOtaOnCtrlWrite hugeEnv .recovery (startLine (2 ^ 32 - 65537) 0) ⟨true, 0⟩
      .init []).2.1.restarted = false := by decide +kernel
  rw [hr] at hack hrunning
  obtain ⟨-, -, size, crc, dst, hscan, -, -, -, -, hb, hbo, -⟩ :=
    bleOtaOnCtrlWrite_accepted hugeEnv hr hack
  rw [scanSizeCrc_startLine (by decide) (by decide)] at hscan
  cases hscan
  have hble : (OtaWorld.init.step hugeEnv C
      (.bleCtrl .recovery ⟨true, 0⟩ (startLine (2 ^ 32 - 65537) 0))).ble = b' := by
    simp only [OtaWorld.step, OtaWorld.init, BleOta.init, Bool.false_eq_true, if_false]
    exact congrArg (fun r => r.2.1) hr
  rw [hble]
  exact {
    bo := hbo
    active := hb.active
    handle := by rw [hb.wr]; exact Nat.succ_ne_zero _
    expected := hb.expected
    written := hb.written
    running := hrunning }

/-- The next frame is taken, and every eighth moves the mark. -/
theorem HugeTaken.frame {n : Nat} {w : OtaWorld} (h : HugeTaken n w.ble) (hn : n < 131064)
    {c : Bytes} (hsize : c.length = 32768) :
    HugeTaken (n + 1) (w.step hugeEnv C (.bleData (uploadFrame n c))).ble := by
  obtain ⟨h4, h2, hlen, hchunk⟩ := uploadFrame_fields (show n < 2 ^ 32 by omega)
    (show c.length < 2 ^ 16 by omega)
  rw [hsize] at h2 hlen
  have hmod : (32768 * n + 32768) % 2 ^ 32 = 32768 * (n + 1) := by omega
  have hnext : NextFrame w.ble (uploadFrame n c) := by
    refine ⟨by rw [h.bo], by rw [h2, hlen], by rw [h4, h.bo], ?_⟩
    rw [h2, h.bo]
    change (32768 * n + 32768) % 2 ^ 32 ≤ 2 ^ 32 - 65537
    omega
  have hne : c ≠ [] := List.ne_nil_of_length_pos (by omega)
  have hfits : (w.ble.ble.bytesWritten + c.length) % 2 ^ 32 ≤
      w.ble.ble.bytesExpected := by
    rw [h.written, h.expected, hsize]
    omega
  have hfate : hugeEnv.fate .otaWrite w.log.length = .ok := rfl
  obtain ⟨since, hw⟩ := otaSessionWrite_ok hugeEnv C h.active hne h.handle hfits hfate
  have hstep := bleOtaOnDataWrite_next hugeEnv C hnext (hchunk.symm ▸ hw)
  obtain ⟨sent, htaken⟩ := bleOtaTaken_advance (E := hugeEnv) c.length
    (b := { w.ble with ble := { w.ble.ble with
      bytesWritten := (w.ble.ble.bytesWritten + c.length) % 2 ^ 32
      crcRunning := C.update w.ble.ble.crcRunning c
      sinceYield := since } })
    (by
      rw [hsize, h.bo]
      change (32768 * n + 32768) % 2 ^ 32 ≠ 2 ^ 32 - 65537
      omega)
    (w.log ++ [.otaWrite w.ble.ble.wr.handle c .ok])
  rw [if_neg (by simp), ← frameChunk, hchunk, htaken] at hstep
  have hble : (w.step hugeEnv C (.bleData (uploadFrame n c))).ble =
      { w.ble with
        bo := w.ble.bo.advance c.length
        ble := { w.ble.ble with
          bytesWritten := (w.ble.ble.bytesWritten + c.length) % 2 ^ 32
          crcRunning := C.update w.ble.ble.crcRunning c
          sinceYield := since }
        sent := sent } := by
    simp only [OtaWorld.step, h.running, Bool.false_eq_true, if_false, hstep]
  have hmark : w.ble.bo.markAfter c.length =
      progStep * ((n + 1) / 8 + 1) % 2 ^ 32 := by
    have hstep : progStep = 262144 := rfl
    rw [BleOtaState.markAfter, h.bo, hsize, hstep]
    change (if 262144 * (n / 8 + 1) % 2 ^ 32 ≤ (32768 * n + 32768) % 2 ^ 32 then
      (262144 * (n / 8 + 1) % 2 ^ 32 + 262144) % 2 ^ 32
      else 262144 * (n / 8 + 1) % 2 ^ 32) = _
    split <;> omega
  rw [hble]
  exact {
    bo := by
      change w.ble.bo.advance c.length = _
      rw [BleOtaState.advance, hmark, h.bo, hsize]
      change BleOtaState.mk _ _ _ _ ((n + 1) % 2 ^ 32) _ = _
      rw [Nat.mod_eq_of_lt (show n + 1 < 2 ^ 32 by omega), hmod]
    active := h.active
    handle := h.handle
    expected := h.expected
    written := by
      change (w.ble.ble.bytesWritten + c.length) % 2 ^ 32 = _
      rw [h.written, hsize, hmod]
    running := h.running }

/-- After `n` frames the device has taken all of them. -/
theorem hugeTaken_exec {n : Nat} (hn : n ≤ 131064) :
    HugeTaken n (Run.exec (OtaWorld.step hugeEnv C) .init (hugeUpload n)).ble := by
  induction n with
  | zero => exact hugeTaken_start (C := C)
  | succ n ih =>
    have hlast : hugeUpload (n + 1) = hugeUpload n ++ [.bleData (uploadFrame n hugeChunk)] := by
      simp [hugeUpload, List.range_succ]
    rw [hlast, Run.exec_concat]
    exact (ih (by omega)).frame (by omega) List.length_replicate

/-- After 131064 frames, `2 ^ 32 - progStep` bytes are written. The next multiple of `progStep` is
`2 ^ 32`, and the mark is 0. -/
theorem bleOta_mark_wraps :
    let b := (Run.exec (OtaWorld.step hugeEnv romCrc32) .init (hugeUpload 131064)).ble
    (∀ dst, hugeEnv.next = some dst → dst.size < 2 ^ 32 - 65536) ∧
      b.bo.active = true ∧ ¬ IsLeast {m | progStep ∣ m ∧ b.bo.written < m} b.bo.nextProgMark := by
  have h := hugeTaken_exec (C := romCrc32) (Nat.le_refl 131064)
  generalize (Run.exec (OtaWorld.step hugeEnv romCrc32) .init (hugeUpload 131064)).ble = b at h ⊢
  dsimp only
  rw [h.bo]
  refine ⟨fun dst hdst => by rw [← Option.some.inj hdst]; decide, rfl, fun hleast => ?_⟩
  have hlt : 32768 * 131064 < progStep * (131064 / 8 + 1) % 2 ^ 32 := hleast.1.2
  exact absurd hlt (by decide)

end RemoteControl
