import Mathlib.Data.List.Prime
import Mathlib.Data.Nat.GCD.Basic
import Mathlib.Tactic.NormNum.Prime
import RemoteControl.Ble.Delivery
import RemoteControl.Lib.ShiftRegister

/-!
# The built-in CRC against the host's

`ota_session.c` has three builds of its CRC. Two call ESP-IDF and give the value the clients send,
`zlib.crc32` (`crcRom_chunks`). The third, compiled where neither header is found, is a loop of its
own that starts at 0 and returns the register as it is, while the host starts with every bit set and
inverts the result. The register is linear in its start value (`softUpdate_linear`), so the two
agree on a string exactly when the register brings the word of all ones back to itself over its
bits. That word has the full period of the polynomial, `2 ^ 32 - 1` (`minimalPeriod_allOnes`), which
no power of two divides: the two agree only on lengths that are multiples of it
(`softCrc_eq_zlib_iff`).
-/

namespace RemoteControl

open ShiftRegister Function

/-! ## The fallback -/

/-- `crc32_init`. -/
def crc32Init : UInt32 := 0

/-- `crc32_final`. -/
def crc32Final (crc : UInt32) : UInt32 := crc

/-- The fallback over the chunks of a string in turn. -/
def softCrcOf (chunks : List Bytes) : UInt32 := crc32Final (chunks.foldl softUpdate crc32Init)

/-- Cutting a string into chunks does not change the register. -/
theorem softCrcOf_eq (chunks : List Bytes) : softCrcOf chunks = softUpdate 0 chunks.flatten := by
  have hgo : ∀ (chunks : List Bytes) (c : UInt32),
      chunks.foldl softUpdate c = softUpdate c chunks.flatten := by
    intro chunks
    induction chunks with
    | nil => intro c; rfl
    | cons d chunks ih =>
      intro c
      rw [List.foldl_cons, ih, List.flatten_cons]
      exact softCrc32.update_append c d chunks.flatten
  exact hgo chunks 0

/-- The build with the ROM's helper gives the host's value over any chunks. -/
theorem crcRom_chunks (chunks : List Bytes) :
    crc32Final (chunks.foldl romUpdate crc32Init) = zlibCrc32 chunks.flatten := by
  have hgo : ∀ (chunks : List Bytes) (c : UInt32),
      chunks.foldl romUpdate c = romUpdate c chunks.flatten := by
    intro chunks
    induction chunks with
    | nil => intro c; exact (romCrc32.update_nil c).symm
    | cons d chunks ih =>
      intro c
      rw [List.foldl_cons, ih, List.flatten_cons]
      exact romCrc32.update_append c d chunks.flatten
  exact hgo chunks 0

/-! ## The register -/

/-- The polynomial of the CRC, its bits reflected. -/
def crcPoly : BitVec 32 := 0xEDB88320#32

/-- The loop body of the fallback is a step of the register. -/
theorem crcRound_toBitVec (c : UInt32) : (crcRound c).toBitVec = round crcPoly c.toBitVec := by
  have hbit : (c &&& 1 = 1) ↔ c.toBitVec.getLsbD 0 = true := by
    rw [← UInt32.toBitVec_inj, UInt32.toBitVec_and]
    change c.toBitVec &&& 1#32 = 1#32 ↔ _
    rw [BitVec.and_one_eq_setWidth_ofBool_getLsbD]
    cases c.toBitVec.getLsbD 0 <;> decide
  rw [crcRound, UInt32.toBitVec_xor, ShiftRegister.round]
  by_cases h : c &&& 1 = 1
  · rw [if_pos h, if_pos (hbit.mp h)]
    rfl
  · rw [if_neg h, if_neg (fun h' => h (hbit.mpr h'))]
    rfl

/-- A byte is eight steps. -/
theorem crcByte_toBitVec (c : UInt32) (b : UInt8) :
    (crcByte c b).toBitVec = (round crcPoly)^[8] (c.toBitVec ^^^ b.toUInt32.toBitVec) := by
  have hgo : ∀ (n : ℕ) (x : UInt32), ((List.range n).foldl (fun c _ => crcRound c) x).toBitVec =
      (round crcPoly)^[n] x.toBitVec := by
    intro n x
    induction n with
    | zero => rfl
    | succ n ih =>
      rw [List.range_succ, List.foldl_append, List.foldl_cons, List.foldl_nil, crcRound_toBitVec,
        ih, iterate_succ_apply']
  rw [crcByte, hgo, UInt32.toBitVec_xor]

/-- The start value goes through the register apart from the bytes. -/
theorem softUpdate_linear (c : UInt32) (d : Bytes) :
    (softUpdate c d).toBitVec =
      (round crcPoly)^[8 * d.length] c.toBitVec ^^^ (softUpdate 0 d).toBitVec := by
  induction d generalizing c with
  | nil => exact (BitVec.xor_zero).symm
  | cons b d ih =>
    have hT := linear_round crcPoly
    have hzero : (crcByte 0 b).toBitVec = (round crcPoly)^[8] b.toUInt32.toBitVec := by
      rw [crcByte_toBitVec]
      exact congrArg _ BitVec.zero_xor
    have hlen : 8 * (b :: d).length = 8 * d.length + 8 := by rw [List.length_cons]; omega
    calc (softUpdate c (b :: d)).toBitVec
        = (softUpdate (crcByte c b) d).toBitVec := rfl
      _ = (round crcPoly)^[8 * d.length] (crcByte c b).toBitVec ^^^
            (softUpdate 0 d).toBitVec := ih _
      _ = (round crcPoly)^[8 * (b :: d).length] c.toBitVec ^^^
            ((round crcPoly)^[8 * d.length] (crcByte 0 b).toBitVec ^^^
              (softUpdate 0 d).toBitVec) := by
          rw [crcByte_toBitVec, (hT.iterate 8), (hT.iterate _), ← iterate_add_apply, ← hlen,
            ← hzero, BitVec.xor_assoc]
      _ = (round crcPoly)^[8 * (b :: d).length] c.toBitVec ^^^
            (softUpdate (crcByte 0 b) d).toBitVec := by rw [← ih]

/-! ## The period of the start value -/

/-- The bits of a 32-bit number, the highest first. -/
def bits32 (n : ℕ) : List Bool := (List.range 32).map fun i => n.testBit (31 - i)

/-- The word of all ones after `n` steps, `n` of 32 bits, by doubling. -/
theorem iterate_allOnes {n : ℕ} (hn : ofBits (bits32 n) = n) :
    (round crcPoly)^[n] (BitVec.allOnes 32) =
      combine (round crcPoly) (jump (round crcPoly) (BitVec.intMin 32) (bits32 n))
        (BitVec.allOnes 32) 32 := by
  rw [jump_eq (linear_round crcPoly) (generates_round crcPoly), hn,
    iterate_of_generates (linear_round crcPoly) (generates_round crcPoly)]

/-- The prime factors of `2 ^ 32 - 1` are the Fermat primes. -/
theorem eq_fermat_of_prime {p : ℕ} (hp : p.Prime) (hdvd : p ∣ 2 ^ 32 - 1) :
    p ∈ [3, 5, 17, 257, 65537] := by
  have hfactor : 2 ^ 32 - 1 = [3, 5, 17, 257, 65537].prod := by decide
  rw [hfactor] at hdvd
  obtain ⟨q, hq, hpq⟩ := (Prime.dvd_prod_iff hp.prime).mp hdvd
  have hqprime : q.Prime := by
    simp only [List.mem_cons, List.not_mem_nil, or_false] at hq
    rcases hq with rfl | rfl | rfl | rfl | rfl <;> norm_num
  rwa [(Nat.prime_dvd_prime_iff_eq hp hqprime).mp hpq]

/-- The word of all ones comes back after `2 ^ 32 - 1` steps and not before. -/
theorem minimalPeriod_allOnes :
    minimalPeriod (round crcPoly) (BitVec.allOnes 32) = 2 ^ 32 - 1 := by
  have hsteps : ∀ n ∈ [1, 3, 5, 17, 257, 65537],
      ofBits (bits32 ((2 ^ 32 - 1) / n)) = (2 ^ 32 - 1) / n ∧
        (combine (round crcPoly)
          (jump (round crcPoly) (BitVec.intMin 32) (bits32 ((2 ^ 32 - 1) / n)))
          (BitVec.allOnes 32) 32 = BitVec.allOnes 32 ↔ n = 1) := by
    decide +kernel
  refine minimalPeriod_eq_of_prime ?_ ?_
  · obtain ⟨hbits, hback⟩ := hsteps 1 (by decide)
    rw [Nat.div_one] at hbits hback
    exact (iterate_allOnes hbits).trans (hback.mpr rfl)
  · intro p hp hdvd hper
    obtain ⟨hbits, hback⟩ := hsteps p (List.mem_cons_of_mem _ (eq_fermat_of_prime hp hdvd))
    exact hp.one_lt.ne' (hback.mp ((iterate_allOnes hbits).symm.trans hper))

/-- The register brings all ones back over `n` bytes exactly for the multiples of `2 ^ 32 - 1`. -/
theorem isPeriodicPt_bytes_iff (n : ℕ) :
    IsPeriodicPt (round crcPoly) (8 * n) (BitVec.allOnes 32) ↔ 2 ^ 32 - 1 ∣ n := by
  have hcoprime : Nat.Coprime (2 ^ 32 - 1) 8 := by decide
  rw [isPeriodicPt_iff_minimalPeriod_dvd, minimalPeriod_allOnes]
  exact Nat.Coprime.dvd_mul_left hcoprime

/-! ## The two CRCs -/

/-- The fallback gives the host's CRC of a string, however it is cut, exactly when the length of
the string is a multiple of `2 ^ 32 - 1`. -/
theorem softCrc_eq_zlib_iff (chunks : List Bytes) :
    softCrcOf chunks = zlibCrc32 chunks.flatten ↔ 2 ^ 32 - 1 ∣ chunks.flatten.length := by
  rw [← isPeriodicPt_bytes_iff, softCrcOf_eq]
  generalize chunks.flatten = d
  have hhost : (zlibCrc32 d).toBitVec =
      ~~~ ((round crcPoly)^[8 * d.length] (BitVec.allOnes 32)) ^^^ (softUpdate 0 d).toBitVec := by
    calc (zlibCrc32 d).toBitVec = ~~~ (softUpdate (~~~ 0) d).toBitVec := rfl
      _ = ~~~ ((round crcPoly)^[8 * d.length] (BitVec.allOnes 32) ^^^
            (softUpdate 0 d).toBitVec) := by rw [softUpdate_linear]; rfl
      _ = _ := BitVec.not_xor_left
  -- the bytes cancel, and what is left speaks of the start value alone
  rw [← UInt32.toBitVec_inj, hhost]
  calc (softUpdate 0 d).toBitVec =
        ~~~ ((round crcPoly)^[8 * d.length] (BitVec.allOnes 32)) ^^^ (softUpdate 0 d).toBitVec
      ↔ ~~~ (BitVec.allOnes 32) ^^^ (softUpdate 0 d).toBitVec =
        ~~~ ((round crcPoly)^[8 * d.length] (BitVec.allOnes 32)) ^^^
          (softUpdate 0 d).toBitVec := by rw [BitVec.not_allOnes, BitVec.zero_xor]
    _ ↔ BitVec.allOnes 32 = (round crcPoly)^[8 * d.length] (BitVec.allOnes 32) := by
        rw [BitVec.xor_left_inj, BitVec.not_inj]
    _ ↔ IsPeriodicPt (round crcPoly) (8 * d.length) (BitVec.allOnes 32) := eq_comm

/-- One zero byte: the register stays 0, the host sends `0xD202EF8D`. -/
theorem softCrc_zero_byte :
    softCrcOf [[0]] = 0 ∧ zlibCrc32 [0] = 0xD202EF8D ∧
      ¬ ∀ chunks, softCrcOf chunks = zlibCrc32 chunks.flatten := by
  have hsoft : softCrcOf [[0]] = 0 := by decide +kernel
  have hhost : zlibCrc32 [0] = 0xD202EF8D := by decide +kernel
  refine ⟨hsoft, hhost, ?_⟩
  intro h
  have hboth := h [[0]]
  rw [hsoft] at hboth
  exact absurd (hboth.trans hhost) (by decide)

end RemoteControl
