import RemoteControl.Cmd.Router
import RemoteControl.Lib.Run
import Mathlib.Data.List.Chain

/-!
# How often the DHT sensor is read (`dht.c`)

The sampler task reads the sensor and sleeps for the period, of which two seconds are the least. But
a notification of `dht_set_stream` ends the sleep, and a read that fails is repeated after 1200 µs.
`Sampler` is the task with the time in µs: every step of the task, every call and every passing of
time is an event, in any order, so that the task may be late anywhere. Transactions start at least
two seconds apart in the runs in which no transaction fails and the stream is turned on only when
two seconds have passed (`starts_apart`).
-/

namespace RemoteControl

open CString

/-! ## The sensor -/

/-- `DHT_MIN_PERIOD_MS`. -/
def dhtMinPeriodMs : Nat := 2000

/-- `DHT_RETRIES`. -/
def dhtRetries : Nat := 3

/-- The 40 bits of a transaction. -/
structure DhtRaw where
  rh : UInt8
  rhDec : UInt8
  temp : UInt8
  tempDec : UInt8
  sum : UInt8
  deriving DecidableEq

/-- The result of `dht_read_raw_bytes`, where the sensor sent these bits in time, or none. -/
def dhtReadRawBytes (bits : Option DhtRaw) : Option DhtRaw :=
  bits.filter fun raw => raw.rh + raw.rhDec + raw.temp + raw.tempDec == raw.sum

/-- What `dht_hw_read` makes of the bytes: the temperature and the humidity. -/
def dhtDecode (raw : DhtRaw) : Nat × Nat :=
  (if 50 < raw.temp.toNat then 0 else raw.temp.toNat,
    if raw.rh.toNat < 20 ∨ 90 < raw.rh.toNat then 0 else raw.rh.toNat)

/-- `S.last` after a read. -/
def dhtSample : Option DhtRaw → DhtSample
  | none => ⟨false, 0, 0, 0⟩
  | some raw => ⟨true, (dhtDecode raw).1, (dhtDecode raw).2, 0⟩

/-! ## The task -/

/-- Where the task is: at the head of its loop; in the take of a notification without a limit; about
to make an attempt; in a transaction since a time; in the delay after a failed one, until a time; or
in the take that is its sleep, until a tick. -/
inductive SamplerPos where
  | top
  | parked
  | attempt (n : Nat)
  | bus (n since : Nat)
  | pause (n until' : Nat)
  | asleep (wake : Nat)
  deriving DecidableEq

/-- The task and the statics it works with, at a time in µs. -/
structure Sampler where
  now : Nat
  dht : Dht
  defPeriodMs : Nat
  last : DhtSample
  lastTick : Nat
  /-- Its notification count is not 0. -/
  notified : Bool
  pos : SamplerPos
  /-- The times at which transactions started. -/
  starts : List Nat

namespace Sampler

/-- `xTaskGetTickCount`; a tick is `portTICK_PERIOD_MS`, 10 ms. -/
def tick (w : Sampler) : Nat := w.now / 10000

/-- The `ms` that the task sleeps. -/
def sleepMs (w : Sampler) : Nat :=
  let ms := if w.dht.periodMs ≠ 0 then w.dht.periodMs else w.defPeriodMs
  if ms < dhtMinPeriodMs then dhtMinPeriodMs else ms

/-- The end of the loop, after `dht_hw_read`. -/
def sampled (raw : Option DhtRaw) (w : Sampler) : Sampler :=
  { w with last := dhtSample raw, lastTick := w.tick, pos := .asleep (w.tick + w.sleepMs / 10) }

/-- A step of the task. A transaction takes at least its start pulse, and ends with these bits. -/
def run (bits : Option DhtRaw) (w : Sampler) : Sampler :=
  match w.pos with
  | .top => { w with pos := if w.dht.streamOn then .attempt 0 else .parked }
  | .parked => if w.notified then { w with notified := false, pos := .top } else w
  | .attempt n => { w with pos := .bus n w.now, starts := w.starts ++ [w.now] }
  | .bus n since =>
    if w.now < since + 18010 then w
    else match dhtReadRawBytes bits with
      | some raw => w.sampled (some raw)
      | none => { w with pos := .pause n (w.now + 1200) }
  | .pause n until' =>
    if w.now < until' then w
    else if n + 1 < dhtRetries then { w with pos := .attempt (n + 1) }
    else w.sampled none
  | .asleep wake =>
    if w.notified ∨ wake ≤ w.tick then { w with notified := false, pos := .top } else w

/-- After `dht_init` and `dht_start`. -/
def init (cfgPeriodMs : Nat) : Sampler :=
  let period := if cfgPeriodMs ≠ 0 then cfgPeriodMs else dhtMinPeriodMs
  ⟨0, ⟨false, period⟩, period, ⟨false, 0, 0, 0⟩, 0, false, .top, []⟩

end Sampler

/-- Time passes; `dht_set_stream` sets its flag and its period, and gives its notification; and the
task goes on. -/
inductive SamplerEv where
  | wait (us : Nat)
  | setStream (on : Bool) (everyMs : UInt32)
  | giveNotify
  | run (bits : Option DhtRaw)

/-- An event. -/
def Sampler.step (w : Sampler) : SamplerEv → Sampler
  | .wait us => { w with now := w.now + us }
  | .setStream on everyMs => { w with dht := dhtSetStream on everyMs.toNat w.dht }
  | .giveNotify => { w with notified := true }
  | .run bits => w.run bits

/-! ## The condition -/

/-- The task is in one of its takes. -/
def SamplerPos.blocked : SamplerPos → Bool
  | .parked | .asleep _ => true
  | _ => false

/-- A transaction is under way. -/
def SamplerPos.onBus : SamplerPos → Bool
  | .bus _ _ => true
  | _ => false

/-- Two seconds have passed since the last transaction started. -/
def Sampler.Rested (w : Sampler) : Prop := ∀ t ∈ w.starts.getLast?, t + 2000000 ≤ w.now

/-- No transaction fails, and the stream is turned on, or notified of while it is on, only when the
task is blocked and two seconds have passed. -/
def Calm (w : Sampler) : SamplerEv → Prop
  | .wait _ => True
  | .setStream on _ => on = true → w.pos.blocked = true ∧ w.Rested
  | .giveNotify => w.dht.streamOn = true → w.pos.blocked = true ∧ w.Rested
  | .run bits => w.pos.onBus = true → (dhtReadRawBytes bits).isSome = true

instance (w : Sampler) : Decidable w.Rested :=
  inferInstanceAs (Decidable (∀ t ∈ w.starts.getLast?, t + 2000000 ≤ w.now))

instance (w : Sampler) : DecidablePred (Calm w)
  | .wait _ => isTrue trivial
  | .setStream on _ =>
    inferInstanceAs (Decidable (on = true → w.pos.blocked = true ∧ w.Rested))
  | .giveNotify =>
    inferInstanceAs (Decidable (w.dht.streamOn = true → w.pos.blocked = true ∧ w.Rested))
  | .run bits =>
    inferInstanceAs (Decidable (w.pos.onBus = true → (dhtReadRawBytes bits).isSome = true))

/-! ## The invariant -/

namespace Sampler

/-- What holds at each position: the task comes to a transaction only when two seconds have passed,
and with no notification that would end the sleep after it. -/
def Paced (w : Sampler) : Prop :=
  match w.pos with
  | .top => w.dht.streamOn = true → w.Rested ∧ w.notified = false
  | .parked => w.dht.streamOn = true → w.Rested
  | .attempt n => n = 0 ∧ w.Rested ∧ (w.dht.streamOn = true → w.notified = false)
  | .bus n since =>
    n = 0 ∧ w.starts.getLast? = some since ∧ (w.dht.streamOn = true → w.notified = false)
  | .pause _ _ => False
  | .asleep wake => (∀ t ∈ w.starts.getLast?, t + 2000000 ≤ wake * 10000) ∧
    (w.dht.streamOn = true → w.notified = true → w.Rested)

/-- The starts so far are two seconds apart, and the next one will be. -/
structure Inv (w : Sampler) : Prop where
  apart : w.starts.IsChain fun t t' => t + 2000000 ≤ t'
  paced : w.Paced

variable {w : Sampler}

/-- The clamp of the period. -/
theorem minPeriod_le_sleepMs (w : Sampler) : dhtMinPeriodMs ≤ w.sleepMs := by
  rw [sleepMs]
  generalize (if w.dht.periodMs ≠ 0 then w.dht.periodMs else w.defPeriodMs) = ms
  split
  · exact Nat.le_refl _
  · next hge => exact Nat.not_lt.mp hge

/-- The sleep lasts until two seconds after the start of the transaction before it: a tick may be
about to come when the sleep begins, but the transaction takes longer than that. -/
theorem asleep_long {since : Nat} (h : since + 18010 ≤ w.now) :
    since + 2000000 ≤ (w.tick + w.sleepMs / 10) * 10000 := by
  have hticks : 200 ≤ w.sleepMs / 10 := Nat.div_le_div_right (c := 10) w.minPeriod_le_sleepMs
  have hnow : w.now < (w.tick + 1) * 10000 := Nat.lt_mul_of_div_lt (Nat.lt_succ_self _) (by decide)
  calc since + 2000000 ≤ (w.tick + 200) * 10000 := by omega
    _ ≤ (w.tick + w.sleepMs / 10) * 10000 :=
      Nat.mul_le_mul_right 10000 (Nat.add_le_add_left hticks w.tick)

/-- A step of the task preserves the invariant. -/
theorem Inv.run (h : Inv w) {bits : Option DhtRaw} (hcalm : Calm w (.run bits)) :
    Inv (w.run bits) := by
  obtain ⟨hapart, hpaced⟩ := h
  cases hpos : w.pos with
  | top =>
    simp only [Paced, hpos] at hpaced
    rw [Sampler.run, hpos]
    refine ⟨hapart, ?_⟩
    cases hon : w.dht.streamOn
    · exact fun habs => absurd (hon.symm.trans habs) Bool.false_ne_true
    · exact ⟨rfl, (hpaced hon).1, fun _ => (hpaced hon).2⟩
  | parked =>
    simp only [Paced, hpos] at hpaced
    simp only [Sampler.run, hpos]
    split
    · exact ⟨hapart, fun hon => ⟨hpaced hon, rfl⟩⟩
    · exact ⟨hapart, by simpa only [Paced, hpos] using hpaced⟩
  | attempt n =>
    simp only [Paced, hpos] at hpaced
    obtain ⟨hfirst, hrested, hquiet⟩ := hpaced
    rw [Sampler.run, hpos]
    refine ⟨?_, hfirst, List.getLast?_concat, hquiet⟩
    refine List.isChain_append.mpr ⟨hapart, List.isChain_singleton _, fun t ht t' ht' => ?_⟩
    cases ht'
    exact hrested t ht
  | bus n since =>
    simp only [Paced, hpos] at hpaced
    obtain ⟨hfirst, hsince, hquiet⟩ := hpaced
    simp only [Sampler.run, hpos]
    split
    · exact ⟨hapart, by simpa only [Paced, hpos] using ⟨hfirst, hsince, hquiet⟩⟩
    · next hdone =>
      obtain ⟨raw, hraw⟩ := Option.isSome_iff_exists.mp (hcalm (by rw [hpos]; rfl))
      simp only [hraw]
      refine ⟨hapart, fun t ht => ?_, fun hon hnotified => ?_⟩
      · cases hsince.symm.trans ht
        exact asleep_long (Nat.not_lt.mp hdone)
      · exact absurd ((hquiet hon).symm.trans hnotified) Bool.false_ne_true
  | pause n until' =>
    simp only [Paced, hpos] at hpaced
  | asleep wake =>
    simp only [Paced, hpos] at hpaced
    obtain ⟨hlong, hcut⟩ := hpaced
    simp only [Sampler.run, hpos]
    split
    · next hwake =>
      refine ⟨hapart, fun hon => ⟨?_, rfl⟩⟩
      rcases hwake with hnotified | hover
      · exact hcut hon hnotified
      · intro t ht
        calc t + 2000000 ≤ wake * 10000 := hlong t ht
          _ ≤ w.tick * 10000 := Nat.mul_le_mul_right 10000 hover
          _ ≤ w.now := Nat.div_mul_le_self w.now 10000
    · exact ⟨hapart, by simpa only [Paced, hpos] using ⟨hlong, hcut⟩⟩

/-- Time passing preserves it. -/
theorem Inv.wait (h : Inv w) (us : Nat) : Inv { w with now := w.now + us } := by
  have hrested : w.Rested → Rested { w with now := w.now + us } := fun hr t ht =>
    (hr t ht).trans (Nat.le_add_right _ _)
  refine ⟨h.apart, ?_⟩
  have hpaced := h.paced
  cases hpos : w.pos with
  | top =>
    simp only [Paced, hpos] at hpaced ⊢
    exact fun hon => (hpaced hon).imp_left hrested
  | parked =>
    simp only [Paced, hpos] at hpaced ⊢
    exact fun hon => hrested (hpaced hon)
  | attempt n =>
    simp only [Paced, hpos] at hpaced ⊢
    exact hpaced.imp_right (And.imp_left hrested)
  | bus n since => simpa only [Paced, hpos] using hpaced
  | pause n until' => simp only [Paced, hpos] at hpaced
  | asleep wake =>
    simp only [Paced, hpos] at hpaced ⊢
    exact hpaced.imp_right fun hcut hon hnotified => hrested (hcut hon hnotified)

/-- A call that changes the flag and the notification preserves it, where it leaves the stream off,
or finds the task blocked and two seconds gone. -/
theorem Inv.call (h : Inv w) {w' : Sampler} (hnow : w'.now = w.now) (hpos : w'.pos = w.pos)
    (hstarts : w'.starts = w.starts)
    (hcalm : w'.dht.streamOn = true → w.pos.blocked = true ∧ w.Rested) : Inv w' := by
  have hrested : w.Rested → w'.Rested := fun hr => by
    rwa [Rested, hstarts, hnow]
  refine ⟨hstarts ▸ h.apart, ?_⟩
  have hpaced := h.paced
  rw [Paced, hpos]
  cases hcase : w.pos with
  | top =>
    rw [hcase] at hcalm
    exact fun hon => absurd (hcalm hon).1 Bool.false_ne_true
  | parked => exact fun hon => hrested (hcalm hon).2
  | attempt n =>
    rw [hcase] at hcalm
    simp only [Paced, hcase] at hpaced
    exact ⟨hpaced.1, hrested hpaced.2.1,
      fun hon => absurd (hcalm hon).1 Bool.false_ne_true⟩
  | bus n since =>
    rw [hcase] at hcalm
    simp only [Paced, hcase] at hpaced
    exact ⟨hpaced.1, hstarts ▸ hpaced.2.1,
      fun hon => absurd (hcalm hon).1 Bool.false_ne_true⟩
  | pause n until' => simp only [Paced, hcase] at hpaced
  | asleep wake =>
    simp only [Paced, hcase] at hpaced
    exact ⟨hstarts ▸ hpaced.1, fun hon _ => hrested (hcalm hon).2⟩

/-- Any event preserves it. -/
theorem Inv.step (h : Inv w) {ev : SamplerEv} (hcalm : Calm w ev) : Inv (w.step ev) := by
  cases ev with
  | wait us => exact h.wait us
  | setStream on everyMs => exact h.call rfl rfl rfl hcalm
  | giveNotify => exact h.call rfl rfl rfl hcalm
  | run bits => exact h.run hcalm

end Sampler

/-! ## The starts are apart -/

/-- **Transactions start two seconds apart** in every run that meets the condition. -/
theorem starts_apart (cfgPeriodMs : Nat) (evs : List SamplerEv)
    (h : Run.Along Sampler.step Calm (.init cfgPeriodMs) evs) :
    (Run.exec Sampler.step (.init cfgPeriodMs) evs).starts.IsChain
      fun t t' => t + 2000000 ≤ t' := by
  have hinit : Sampler.Inv (.init cfgPeriodMs) :=
    ⟨List.IsChain.nil, fun habs => absurd habs Bool.false_ne_true⟩
  have hinv : Sampler.Inv (Run.exec Sampler.step (.init cfgPeriodMs) evs) :=
    h.exec_inv hinit fun _ _ hinv hcalm => hinv.step hcalm
  exact hinv.apart

/-- 40 bits with the right checksum. -/
def goodBits : DhtRaw := ⟨45, 0, 21, 0, 66⟩

/-- The stream is turned on and the sensor read. -/
def firstRead : List SamplerEv :=
  [.run none, .setStream true 0, .giveNotify, .run none, .run none, .run none, .wait 20000,
    .run (some goodBits)]

/-- It is read again after the sleep. -/
theorem starts_apart_twice :
    (Run.exec Sampler.step (.init 2000)
        (firstRead ++ [.wait 2000000, .run none, .run none, .run none])).starts = [0, 2020000] ∧
      (Run.exec Sampler.step (.init 2000)
        (firstRead ++ [.wait 2000000, .run none, .run none, .run none])).starts.IsChain
        fun t t' => t + 2000000 ≤ t' :=
  ⟨by decide, starts_apart 2000 _ (by decide)⟩

/-- A second command 80 ms later wakes the task, and the sensor is read 100 ms after the first
time. -/
theorem starts_close :
    let w := Run.exec Sampler.step (.init 2000) (firstRead ++ [.wait 80000, .setStream true 0,
      .giveNotify, .run none, .run none, .run none])
    w.starts = [0, 100000] ∧ ¬ w.starts.IsChain fun t t' => t + 2000000 ≤ t' := by
  intro w
  have hstarts : w.starts = [0, 100000] := by decide
  refine ⟨hstarts, fun hapart => ?_⟩
  rw [hstarts, List.isChain_pair] at hapart
  exact absurd hapart (by decide)

/-- A transaction that fails is repeated without any call. -/
example :
    (Run.exec Sampler.step (.init 2000) [.run none, .setStream true 0, .giveNotify, .run none,
      .run none, .run none, .wait 18010, .run none, .wait 1200, .run none, .run none]).starts =
      [0, 19210] := by
  decide

end RemoteControl
