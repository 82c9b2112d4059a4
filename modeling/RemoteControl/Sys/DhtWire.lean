import RemoteControl.Lib.Waveform
import RemoteControl.Sys.DhtSampler

/-!
# The wire of the DHT sensor (`dht.c`)

`dht_read_raw_bytes` reads the response and the 40 bits of a transaction by waiting for edges of the
line: three waits a bit, the last of which measures how long the line is high. The line is a signal
here, with its level at every microsecond, and `wait_for_level` looks at it every microsecond, so
that it sees an edge when it happens. Every wait leaves the reader at an edge: at the fall with
which the next slot begins, or for the first slot at the rise of the response, whose high phase it
then waits out. That carries the induction over the slots (`dhtReadBits_slots`), and the shifts put
the bits back into the bytes they come from (`shiftInAll_bytes`).
-/

namespace RemoteControl

open Waveform

/-! ## The transaction -/

/-- `DHT_INITIAL_LOW_TIMEOUT_US`. -/
def dhtInitialLowTimeoutUs : Nat := 2000

/-- `DHT_INITIAL_HIGH_TIMEOUT_US`. -/
def dhtInitialHighTimeoutUs : Nat := 400

/-- `DHT_BIT_LOW_WAIT_US`. -/
def dhtBitLowWaitUs : Nat := 200

/-- `DHT_BIT_RISE_WAIT_US`. -/
def dhtBitRiseWaitUs : Nat := 200

/-- `DHT_BIT_HIGH_END_US`. -/
def dhtBitHighEndUs : Nat := 320

/-- `DHT_ONE_THRESHOLD_US`. -/
def dhtOneThresholdUs : Nat := 50

/-- A call of `wait_for_level`: its timeout, and when it began and returned. -/
structure DhtWait where
  timeoutUs : Nat
  start : Nat
  stop : Nat
  deriving DecidableEq, Repr

/-- A transaction under way: the time in microseconds, `out`, and the waits so far, which are not in
the code. -/
structure DhtBus where
  now : Nat
  out : List UInt8
  waits : List DhtWait
  deriving DecidableEq, Repr

/-- `wait_for_level`. The last look at the line is in the first microsecond past the timeout. -/
def DhtBus.waitForLevel (sig : Nat → Bool) (level : Bool) (timeoutUs : Nat) (b : DhtBus) :
    Bool × DhtBus :=
  let r := poll sig level (timeoutUs + 1) b.now
  (r.1, { b with now := r.2, waits := b.waits ++ [⟨timeoutUs, b.now, r.2⟩] })

/-- A wait, `return false` if it fails, and else the rest. -/
def orReturn (r : Bool × DhtBus) (rest : DhtBus → Bool × DhtBus) : Bool × DhtBus :=
  if r.1 then rest r.2 else (false, r.2)

/-- A bit goes into a byte from the right. -/
def pushBit (byte : UInt8) (one : Bool) : UInt8 :=
  if one then byte <<< 1 ||| 1 else byte <<< 1

/-- The bit of this number goes into its byte of `out`. -/
def shiftIn (bit : Nat) (one : Bool) (out : List UInt8) : List UInt8 :=
  out.modify (bit / 8) (pushBit · one)

/-- A round of the loop over the bits. -/
def dhtReadBit (sig : Nat → Bool) (bit : Nat) (b : DhtBus) : Bool × DhtBus :=
  orReturn (b.waitForLevel sig false dhtBitLowWaitUs) fun b =>
  orReturn (b.waitForLevel sig true dhtBitRiseWaitUs) fun b =>
    let t0 := b.now
    orReturn (b.waitForLevel sig false dhtBitHighEndUs) fun b =>
      let highUs := b.now - t0
      (true, { b with out := shiftIn bit (dhtOneThresholdUs < highUs) b.out })

/-- The loop, with so many rounds left, from the bit of this number on. -/
def dhtReadBits (sig : Nat → Bool) : Nat → Nat → DhtBus → Bool × DhtBus
  | 0, _, b => (true, b)
  | left + 1, bit, b => orReturn (dhtReadBit sig bit b) (dhtReadBits sig left (bit + 1))

/-- From the release of the line, after the start pulse, to the last bit. -/
def dhtReceive (sig : Nat → Bool) (b : DhtBus) : Bool × DhtBus :=
  orReturn (b.waitForLevel sig false dhtInitialLowTimeoutUs) fun b =>
  orReturn (b.waitForLevel sig true dhtInitialHighTimeoutUs) (dhtReadBits sig 40 0)

/-- The checksum test. -/
def dhtChecksumOk (out : List UInt8) : Bool :=
  out.getD 0 0 + out.getD 1 0 + out.getD 2 0 + out.getD 3 0 == out.getD 4 0

/-- `dht_read_raw_bytes`, called at `t`: what it returns, and the transaction when it does. The
start pulse takes 18010 µs. -/
def dhtReadRawBytesAt (sig : Nat → Bool) (t : Nat) : Bool × DhtBus :=
  orReturn (dhtReceive sig ⟨t + 18010, List.replicate 5 0, []⟩) fun b => (dhtChecksumOk b.out, b)

/-! ## Waits -/

/-- A wait ends by its timeout. -/
def DhtWait.Timely (w : DhtWait) : Prop := w.start ≤ w.stop ∧ w.stop ≤ w.start + w.timeoutUs + 1

/-- From one state of a transaction to another there are at most so many waits, all timely. -/
def DhtBus.Within (k : Nat) (b b' : DhtBus) : Prop :=
  ∃ new, b'.waits = b.waits ++ new ∧ new.length ≤ k ∧ ∀ w ∈ new, w.Timely

theorem DhtBus.Within.refl (k : Nat) (b : DhtBus) : b.Within k b :=
  ⟨[], (List.append_nil _).symm, Nat.zero_le k, nofun⟩

theorem DhtBus.Within.trans {j k : Nat} {b b' b'' : DhtBus} (h : b.Within j b')
    (h' : b'.Within k b'') : b.Within (j + k) b'' := by
  obtain ⟨new, hnew, hlen, htimely⟩ := h
  obtain ⟨new', hnew', hlen', htimely'⟩ := h'
  refine ⟨new ++ new', ?_, ?_, ?_⟩
  · rw [hnew', hnew, List.append_assoc]
  · rw [List.length_append]
    exact Nat.add_le_add hlen hlen'
  · exact List.forall_mem_append.mpr ⟨htimely, htimely'⟩

theorem DhtBus.Within.mono {j k : Nat} {b b' : DhtBus} (h : b.Within j b') (hjk : j ≤ k) :
    b.Within k b' := by
  obtain ⟨new, hnew, hlen, htimely⟩ := h
  exact ⟨new, hnew, Nat.le_trans hlen hjk, htimely⟩

/-- `wait_for_level` is one timely wait. -/
theorem DhtBus.within_waitForLevel (sig : Nat → Bool) (level : Bool) (timeoutUs : Nat)
    (b : DhtBus) : b.Within 1 (b.waitForLevel sig level timeoutUs).2 := by
  have htimely : DhtWait.Timely ⟨timeoutUs, b.now, (poll sig level (timeoutUs + 1) b.now).2⟩ :=
    ⟨le_poll, poll_le⟩
  refine ⟨_, rfl, Nat.le_refl 1, ?_⟩
  intro w hw
  rw [List.mem_singleton.mp hw]
  exact htimely

/-- What comes after a wait adds its own. -/
theorem DhtBus.Within.followed {j k : Nat} {b : DhtBus} {r : Bool × DhtBus} (h : b.Within j r.2)
    {rest : DhtBus → Bool × DhtBus} (hrest : ∀ b' : DhtBus, b'.Within k (rest b').2) :
    b.Within (j + k) (orReturn r rest).2 := by
  unfold orReturn
  split
  · exact h.trans (hrest r.2)
  · exact h.mono (Nat.le_add_right j k)

/-- A bit takes three waits. -/
theorem within_dhtReadBit (sig : Nat → Bool) (bit : Nat) (b : DhtBus) :
    b.Within 3 (dhtReadBit sig bit b).2 := by
  refine (b.within_waitForLevel sig false _).followed (k := 2) fun b₁ => ?_
  refine (b₁.within_waitForLevel sig true _).followed (k := 1) fun b₂ => ?_
  refine (b₂.within_waitForLevel sig false _).followed (k := 0) fun b₃ => ?_
  exact .refl 0 b₃

/-- So many bits take three waits each. -/
theorem within_dhtReadBits (sig : Nat → Bool) (left bit : Nat) (b : DhtBus) :
    b.Within (3 * left) (dhtReadBits sig left bit b).2 := by
  induction left generalizing bit b with
  | zero => exact .refl 0 b
  | succ left ih =>
    have hbit := (within_dhtReadBit sig bit b).followed (ih (bit + 1))
    rwa [Nat.mul_succ, Nat.add_comm]

/-- The response takes two. -/
theorem within_dhtReceive (sig : Nat → Bool) (b : DhtBus) :
    b.Within 122 (dhtReceive sig b).2 := by
  refine (b.within_waitForLevel sig false _).followed (k := 121) fun b₁ => ?_
  refine (b₁.within_waitForLevel sig true _).followed (k := 120) fun b₂ => ?_
  exact within_dhtReadBits sig 40 0 b₂

/-- A transaction is at most 122 waits, whatever the line does. -/
theorem within_dhtReadRawBytesAt (sig : Nat → Bool) (t : Nat) :
    DhtBus.Within 122 ⟨t + 18010, List.replicate 5 0, []⟩ (dhtReadRawBytesAt sig t).2 :=
  (within_dhtReceive sig _).followed (k := 0) fun b' => .refl 0 b'

/-- It reports true only for bytes that pass the test. -/
theorem checksumOk_of_dhtReadRawBytesAt {sig : Nat → Bool} {t : Nat}
    (h : (dhtReadRawBytesAt sig t).1 = true) :
    dhtChecksumOk (dhtReadRawBytesAt sig t).2.out = true := by
  unfold dhtReadRawBytesAt orReturn at h ⊢
  split at h
  · next hok =>
    rw [if_pos hok]
    exact h
  · cases h

/-! ## The bytes -/

/-- The bits of a byte, the most significant one first. -/
def msbBits (byte : UInt8) : List Bool := (List.range 8).map fun i => byte.toNat.testBit (7 - i)

/-- All bits go into `out`, from the bit of this number on. -/
def shiftInAll : List Bool → Nat → List UInt8 → List UInt8
  | [], _, out => out
  | one :: bits, bit, out => shiftInAll bits (bit + 1) (shiftIn bit one out)

/-- Eight pushes make the byte. -/
theorem foldl_pushBit_msbBits (byte : UInt8) : (msbBits byte).foldl pushBit 0 = byte := by
  have hall : ∀ n : Fin 256, (msbBits (UInt8.ofNat n)).foldl pushBit 0 = UInt8.ofNat n := by
    decide +kernel
  have hbyte := hall ⟨byte.toNat, byte.toNat_lt⟩
  rwa [UInt8.ofNat_toNat] at hbyte

/-- A bit goes into the byte of its number and leaves the others. -/
theorem shiftIn_append {bit : Nat} {done : List UInt8} (h : bit / 8 = done.length) (one : Bool)
    (byte : UInt8) (rest : List UInt8) :
    shiftIn bit one (done ++ byte :: rest) = done ++ pushBit byte one :: rest := by
  rw [shiftIn, h]
  clear h
  induction done with
  | nil => rfl
  | cons d done ih => rw [List.length_cons, List.cons_append, List.modify_succ_cons, ih]; rfl

/-- The bits up to the end of a byte go into it. -/
theorem shiftInAll_byte {k : Nat} {bits : List Bool} (h : k + bits.length ≤ 8)
    (done : List UInt8) (byte : UInt8) (rest : List UInt8) :
    shiftInAll bits (8 * done.length + k) (done ++ byte :: rest) =
      done ++ bits.foldl pushBit byte :: rest := by
  induction bits generalizing k byte with
  | nil => rfl
  | cons one bits ih =>
    rw [List.length_cons] at h
    have hbyte : (8 * done.length + k) / 8 = done.length := by omega
    rw [shiftInAll, shiftIn_append hbyte, Nat.add_assoc, ih (by omega), List.foldl_cons]

theorem shiftInAll_append (bits bits' : List Bool) (bit : Nat) (out : List UInt8) :
    shiftInAll (bits ++ bits') bit out =
      shiftInAll bits' (bit + bits.length) (shiftInAll bits bit out) := by
  induction bits generalizing bit out with
  | nil => rfl
  | cons one bits ih =>
    rw [List.cons_append, shiftInAll, shiftInAll, ih, List.length_cons, Nat.add_right_comm]
    rfl

/-- **The shifts undo the serialisation.** -/
theorem shiftInAll_bytes (bytes done : List UInt8) :
    shiftInAll (bytes.flatMap msbBits) (8 * done.length)
      (done ++ List.replicate bytes.length 0) = done ++ bytes := by
  induction bytes generalizing done with
  | nil => rfl
  | cons byte bytes ih =>
    have hlen : 0 + (msbBits byte).length ≤ 8 := Nat.le_refl 8
    have hbyte := shiftInAll_byte hlen done 0 (List.replicate bytes.length 0)
    have hnext : 8 * done.length + (msbBits byte).length = 8 * (done ++ [byte]).length := by
      rw [List.length_append]
      exact (Nat.mul_succ 8 done.length).symm
    rw [Nat.add_zero, foldl_pushBit_msbBits] at hbyte
    have hrest := ih (done ++ [byte])
    rw [List.append_assoc, List.append_assoc, List.singleton_append, List.singleton_append] at hrest
    rw [List.flatMap_cons, shiftInAll_append, List.length_cons, List.replicate_succ, hbyte, hnext,
      hrest]

/-! ## The slots -/

/-- The slot of a bit: the line is low, then high, each for less than the timeout of its wait. -/
structure DhtSlot where
  low : Nat
  high : Nat
  low_pos : 0 < low
  low_lt : low < dhtBitRiseWaitUs
  high_pos : 0 < high
  high_lt : high < dhtBitHighEndUs

/-- The bit: a long high phase is a 1. -/
def DhtSlot.one (s : DhtSlot) : Bool := dhtOneThresholdUs < s.high

/-- Its phases. -/
def DhtSlot.phases (s : DhtSlot) : List (Bool × Nat) := [(false, s.low), (true, s.high)]

/-- A wait for the end of the phase that the line is in succeeds there. -/
theorem orReturn_waitForLevel {sig : Nat → Bool} {level : Bool} {timeoutUs d : Nat} {b : DhtBus}
    (hd : d ≤ timeoutUs) (hphase : Stays sig (!level) b.now (b.now + d))
    (hend : sig (b.now + d) = level) (rest : DhtBus → Bool × DhtBus) :
    orReturn (b.waitForLevel sig level timeoutUs) rest =
      rest { b with now := b.now + d, waits := b.waits ++ [⟨timeoutUs, b.now, b.now + d⟩] } := by
  have hpoll := poll_of_stays (Nat.le_add_right b.now d)
    (Nat.add_le_add_left (Nat.le_succ_of_le hd) b.now) hphase hend
  rw [DhtBus.waitForLevel, hpoll]
  exact if_pos rfl

/-- **One slot.** From an instant where the line is high for up to 200 µs more, the round waits for
the slot, reads its bit, and ends with its fall. -/
theorem dhtReadBit_slot {sig : Nat → Bool} {b : DhtBus} {rest : Nat} (s : DhtSlot) (bit : Nat)
    (hrest : rest ≤ dhtBitLowWaitUs) (h : Follows sig b.now ((true, rest) :: s.phases))
    (hend : sig (b.now + rest + s.low + s.high) = false) :
    ∃ b', dhtReadBit sig bit b = (true, b') ∧ b'.now = b.now + rest + s.low + s.high ∧
      b'.out = shiftIn bit s.one b.out := by
  obtain ⟨hhigh, hlow, hone, -⟩ := h
  have hfall : sig (b.now + rest) = false :=
    hlow _ (Nat.le_refl _) (Nat.lt_add_of_pos_right s.low_pos)
  have hrise : sig (b.now + rest + s.low) = true :=
    hone _ (Nat.le_refl _) (Nat.lt_add_of_pos_right s.high_pos)
  have hlowWait := orReturn_waitForLevel hrest hhigh hfall
  refine ⟨_, (hlowWait _).trans ((orReturn_waitForLevel (Nat.le_of_lt s.low_lt) hlow hrise _).trans
    (orReturn_waitForLevel (Nat.le_of_lt s.high_lt) hone hend _)), rfl, ?_⟩
  dsimp only
  rw [Nat.add_sub_cancel_left]
  rfl

/-- The phases of the slots, and the fall behind the last one. -/
def slotPhases (slots : List DhtSlot) : List (Bool × Nat) :=
  slots.flatMap DhtSlot.phases ++ [(false, 1)]

/-- A slot, or the end of the last one, begins with a fall. -/
theorem low_of_slotPhases {sig : Nat → Bool} {t : Nat} {slots : List DhtSlot}
    (h : Follows sig t (slotPhases slots)) : sig t = false := by
  cases slots with
  | nil => exact h.1 t (Nat.le_refl t) (Nat.lt_succ_self t)
  | cons s slots => exact h.1 t (Nat.le_refl t) (Nat.lt_add_of_pos_right s.low_pos)

/-- **All slots.** The loop reads the bits of the slots. -/
theorem dhtReadBits_slots {sig : Nat → Bool} (slots : List DhtSlot) {b : DhtBus} {rest : Nat}
    (bit : Nat) (hrest : rest ≤ dhtBitLowWaitUs)
    (h : Follows sig b.now ((true, rest) :: slotPhases slots)) :
    ∃ b', dhtReadBits sig slots.length bit b = (true, b') ∧
      b'.out = shiftInAll (slots.map DhtSlot.one) bit b.out := by
  induction slots generalizing b rest bit with
  | nil => exact ⟨b, rfl, rfl⟩
  | cons s slots ih =>
    obtain ⟨hhigh, hlow, hone, hslots⟩ := h
    obtain ⟨b', hread, hnow, hout⟩ :=
      dhtReadBit_slot s bit hrest ⟨hhigh, hlow, hone, trivial⟩ (low_of_slotPhases hslots)
    have hnext : Follows sig b'.now ((true, 0) :: slotPhases slots) := by
      refine ⟨fun u hle hlt => absurd hlt (Nat.not_lt.mpr hle), ?_⟩
      rw [hnow]
      exact hslots
    obtain ⟨b'', hread', hout'⟩ := ih (bit + 1) (Nat.zero_le _) hnext
    refine ⟨b'', ?_, ?_⟩
    · rw [List.length_cons, dhtReadBits, hread]
      exact hread'
    · rw [hout', hout]
      rfl

/-! ## The frame -/

/-- What the sensor sends after the release of the line, each phase shorter than the timeout of the
wait for its end: the line may still be high, then the response, and the slots. -/
structure DhtFrame where
  idle : Nat
  respLow : Nat
  respHigh : Nat
  slots : List DhtSlot
  idle_lt : idle < dhtInitialLowTimeoutUs
  respLow_pos : 0 < respLow
  respLow_lt : respLow < dhtInitialHighTimeoutUs
  respHigh_pos : 0 < respHigh
  respHigh_lt : respHigh < dhtBitLowWaitUs

/-- Its phases. -/
def DhtFrame.phases (f : DhtFrame) : List (Bool × Nat) :=
  (true, f.idle) :: (false, f.respLow) :: (true, f.respHigh) :: slotPhases f.slots

/-- The bytes of a transaction, in order. -/
def DhtRaw.bytes (raw : DhtRaw) : List UInt8 :=
  [raw.rh, raw.rhDec, raw.temp, raw.tempDec, raw.sum]

/-- The slots of the frame are the bits of the bytes. -/
def DhtFrame.Encodes (f : DhtFrame) (raw : DhtRaw) : Prop :=
  f.slots.map DhtSlot.one = raw.bytes.flatMap msbBits

/-- A frame of five bytes has 40 slots. -/
theorem DhtFrame.Encodes.length_slots {f : DhtFrame} {raw : DhtRaw} (h : f.Encodes raw) :
    f.slots.length = 40 := by
  rw [← List.length_map DhtSlot.one, h]
  rfl

/-- The frame is received. -/
theorem dhtReceive_frame {sig : Nat → Bool} {b : DhtBus} {f : DhtFrame} {raw : DhtRaw}
    (hbits : f.Encodes raw) (h : Follows sig b.now f.phases)
    (hout : b.out = List.replicate 5 0) :
    ∃ b', dhtReceive sig b = (true, b') ∧ b'.out = raw.bytes := by
  obtain ⟨hidle, hlow, hhigh, hslots⟩ := h
  have hresponse : sig (b.now + f.idle) = false :=
    hlow _ (Nat.le_refl _) (Nat.lt_add_of_pos_right f.respLow_pos)
  have hrise : sig (b.now + f.idle + f.respLow) = true :=
    hhigh _ (Nat.le_refl _) (Nat.lt_add_of_pos_right f.respHigh_pos)
  have hidleWait := orReturn_waitForLevel (Nat.le_of_lt f.idle_lt) hidle hresponse
  have hlowWait := orReturn_waitForLevel
    (b := ⟨b.now + f.idle, b.out, b.waits ++ [⟨dhtInitialLowTimeoutUs, b.now, b.now + f.idle⟩]⟩)
    (Nat.le_of_lt f.respLow_lt) hlow hrise
  obtain ⟨b', hread, hbytes⟩ := dhtReadBits_slots f.slots 0 (Nat.le_of_lt f.respHigh_lt)
    (b := ⟨b.now + f.idle + f.respLow, b.out, _⟩) ⟨hhigh, hslots⟩
  rw [hbits.length_slots] at hread
  refine ⟨b', (hidleWait _).trans ((hlowWait _).trans hread), ?_⟩
  rw [hbytes, hout, hbits]
  exact shiftInAll_bytes raw.bytes []

/-- The checksum test is on sums modulo 256. -/
theorem dhtChecksumOk_iff (out : List UInt8) :
    dhtChecksumOk out = true ↔
      ((out.getD 0 0).toNat + (out.getD 1 0).toNat + (out.getD 2 0).toNat +
        (out.getD 3 0).toNat) % 256 = (out.getD 4 0).toNat := by
  rw [dhtChecksumOk, beq_iff_eq, ← UInt8.toNat_inj, UInt8.toNat_add, UInt8.toNat_add,
    UInt8.toNat_add]
  omega

/-! ## Sending a frame -/

/-- A slot as the sensor times it. -/
def DhtSlot.ofBit (one : Bool) : DhtSlot where
  low := 54
  high := if one then 70 else 24
  low_pos := by decide
  low_lt := by decide
  high_pos := by cases one <;> decide
  high_lt := by cases one <;> decide

/-- A frame as the sensor times it. -/
def dhtEncode (raw : DhtRaw) : DhtFrame where
  idle := 30
  respLow := 80
  respHigh := 80
  slots := (raw.bytes.flatMap msbBits).map DhtSlot.ofBit
  idle_lt := by decide
  respLow_pos := by decide
  respLow_lt := by decide
  respHigh_pos := by decide
  respHigh_lt := by decide

theorem dhtEncode_encodes (raw : DhtRaw) : (dhtEncode raw).Encodes raw := by
  have hone : DhtSlot.one ∘ DhtSlot.ofBit = id := by
    funext one
    cases one <;> rfl
  rw [DhtFrame.Encodes, dhtEncode, List.map_map, hone, List.map_id]

/-- The line while a frame is sent from `t` on. -/
def dhtSend (raw : DhtRaw) (t : Nat) (u : Nat) : Bool := ofPhases (dhtEncode raw).phases (u - t)

theorem follows_dhtSend (raw : DhtRaw) (t : Nat) :
    Follows (dhtSend raw t) t (dhtEncode raw).phases :=
  follows_ofPhases fun _ _ => rfl

/-- **The round trip.** What is sent is received, for every transaction. -/
theorem dhtReceive_dhtSend (raw : DhtRaw) (t : Nat) :
    ∃ b, dhtReceive (dhtSend raw t) ⟨t, List.replicate 5 0, []⟩ = (true, b) ∧
      b.out = raw.bytes :=
  dhtReceive_frame (b := ⟨t, List.replicate 5 0, []⟩) (dhtEncode_encodes raw)
    (follows_dhtSend raw t) rfl

/-! ## The sampler's transaction -/

/-- The bytes of `out` as the record that `dht_hw_read` makes its values of. -/
def rawOf (out : List UInt8) : DhtRaw :=
  ⟨out.getD 0 0, out.getD 1 0, out.getD 2 0, out.getD 3 0, out.getD 4 0⟩

/-- The bits that a transaction finds on the line, if they come in time. -/
def dhtBitsAt (sig : Nat → Bool) (t : Nat) : Option DhtRaw :=
  let (ok, b) := dhtReceive sig ⟨t + 18010, List.replicate 5 0, []⟩
  if ok then some (rawOf b.out) else none

/-- The sampler's `dht_read_raw_bytes` on these bits is the one on the line. -/
theorem dhtReadRawBytes_dhtBitsAt (sig : Nat → Bool) (t : Nat) :
    dhtReadRawBytes (dhtBitsAt sig t) =
      if (dhtReadRawBytesAt sig t).1 then some (rawOf (dhtReadRawBytesAt sig t).2.out)
      else none := by
  unfold dhtBitsAt dhtReadRawBytesAt orReturn
  generalize dhtReceive sig ⟨t + 18010, List.replicate 5 0, []⟩ = r
  obtain ⟨ok, b⟩ := r
  cases ok with
  | false => rfl
  | true =>
    dsimp only [if_true]
    exact Option.filter_some

/-! ## The law -/

/-- **`dht_read_raw_bytes` inverts the wire format.** A frame of five bytes fills `out` with them,
and it returns true exactly if the fifth is the sum of the others. Whatever the line does, there are
at most 122 waits, each ended by its timeout, and true is only reported for bytes with their
checksum. -/
theorem dht_inverts_wire (sig : Nat → Bool) (t : Nat) :
    (∀ (f : DhtFrame) (raw : DhtRaw), f.Encodes raw → Follows sig (t + 18010) f.phases →
      (dhtReadRawBytesAt sig t).2.out = raw.bytes ∧
      ((dhtReadRawBytesAt sig t).1 = true ↔
        (raw.rh.toNat + raw.rhDec.toNat + raw.temp.toNat + raw.tempDec.toNat) % 256 =
          raw.sum.toNat)) ∧
    (dhtReadRawBytesAt sig t).2.waits.length ≤ 122 ∧
    (∀ w ∈ (dhtReadRawBytesAt sig t).2.waits, w.Timely) ∧
    ((dhtReadRawBytesAt sig t).1 = true →
      let out := (dhtReadRawBytesAt sig t).2.out
      ((out.getD 0 0).toNat + (out.getD 1 0).toNat + (out.getD 2 0).toNat +
        (out.getD 3 0).toNat) % 256 = (out.getD 4 0).toNat) := by
  obtain ⟨waits, hwaits, hlen, htimely⟩ := within_dhtReadRawBytesAt sig t
  rw [List.nil_append] at hwaits
  rw [hwaits]
  refine ⟨?_, hlen, htimely,
    fun htrue => (dhtChecksumOk_iff _).mp (checksumOk_of_dhtReadRawBytesAt htrue)⟩
  intro f raw hbits hfollows
  obtain ⟨b, hread, hout⟩ := dhtReceive_frame
    (b := ⟨t + 18010, List.replicate 5 0, []⟩) hbits hfollows rfl
  have hresult : dhtReadRawBytesAt sig t = (dhtChecksumOk b.out, b) := by
    rw [dhtReadRawBytesAt, hread]
    exact if_pos rfl
  rw [hresult]
  refine ⟨hout, ?_⟩
  rw [dhtChecksumOk_iff, hout]
  rfl

/-- A frame of 40 %, 25 °C, for which the checksum is 65. -/
theorem dht_inverts_wire_sample :
    (dhtReadRawBytesAt (dhtSend ⟨40, 0, 25, 0, 65⟩ 18010) 0).1 = true := by
  have hframe := (dht_inverts_wire (dhtSend ⟨40, 0, 25, 0, 65⟩ 18010) 0).1
    (dhtEncode ⟨40, 0, 25, 0, 65⟩) ⟨40, 0, 25, 0, 65⟩ (dhtEncode_encodes _) (follows_dhtSend _ _)
  exact hframe.2.mpr (by decide)

end RemoteControl
