import RemoteControl.Lib.Run
import RemoteControl.Lib.Trace
import RemoteControl.Net.Wifi

/-!
# The reconnect delay (`wifi_backoff.c`)

The delay doubles with every `wifi_backoff_schedule` since the last `wifi_backoff_reset` up to the
sixth, is capped at `WIFI_RECONN_MAX_MS`, and is then moved by a random offset of up to half of
`WIFI_RECONN_JITTER_PCT` percent. The arithmetic is exact (`wifiBackoffExprs_fit`) and the offset
stays within the percentage, but it is added behind the cap: from the sixth retry on, every upward
offset passes the maximum (`reconnDelay_iff`).
-/

namespace RemoteControl

/-! ## Arithmetic -/

/-- The integer types of `wifi_backoff_schedule`. -/
inductive CInt where
  | int32
  | uint32
  deriving DecidableEq, Repr

/-- The values of a type. -/
def CInt.Fits : CInt → Int → Prop
  | .int32, x => -2 ^ 31 ≤ x ∧ x < 2 ^ 31
  | .uint32, x => 0 ≤ x ∧ x < 2 ^ 32

/-- The delay before the jitter: the doubled base, capped. -/
def reconnTargetMs (k : Nat) : Nat := min (wifiReconnBaseMs * 2 ^ min k 6) wifiReconnMaxMs

/-- `CONFIG_FREERTOS_HZ`. -/
def configTickRateHz : Nat := 100

/-- `pdMS_TO_TICKS`. -/
def pdMsToTicks (ms : Nat) : Nat := ms * configTickRateHz / 1000

/-- The expressions of `wifi_backoff_schedule` that could leave their types, in the order in which
they are evaluated, with the values that exact arithmetic gives them: the shifted base and its
conversion, the product for the span, the two terms of the offset, the offset, its sum with the
delay, the product in `pdMS_TO_TICKS` and the next retry count. -/
def wifiBackoffExprs (retries random : Nat) : List (CInt × Int) :=
  let raw : Int := wifiReconnBaseMs * 2 ^ min retries 6
  let delay : Int := min raw wifiReconnMaxMs
  let span : Int := delay * wifiReconnJitterPct / 100
  let off : Int := random % span - span / 2
  let d2 : Int := delay + off
  let delay2 : Int := max d2 0
  [(.int32, raw), (.uint32, raw), (.uint32, delay * wifiReconnJitterPct),
    (.int32, random % span), (.int32, span / 2), (.int32, off), (.int32, delay), (.int32, d2),
    (.uint32, delay2), (.uint32, delay2 * configTickRateHz), (.int32, retries + 1)]

/-- The base is doubled up to six times. -/
theorem shifted_le (k : Nat) : wifiReconnBaseMs * 2 ^ min k 6 ≤ 32000 :=
  Nat.mul_le_mul_left 500 (Nat.pow_le_pow_right (by decide) (Nat.min_le_right k 6))

theorem reconnTargetMs_le (k : Nat) : reconnTargetMs k ≤ 30000 := Nat.min_le_right _ _

theorem le_reconnTargetMs (k : Nat) : 500 ≤ reconnTargetMs k :=
  Nat.le_min.mpr ⟨Nat.le_mul_of_pos_right 500 (Nat.two_pow_pos _), by decide⟩

/-- The first six targets are below the maximum by more than their jitter. -/
theorem reconnTargetMs_of_lt {k : Nat} (h : k < 6) : reconnTargetMs k ≤ 16000 := by
  have hpow : 2 ^ min k 6 ≤ 2 ^ 5 :=
    Nat.pow_le_pow_right (by decide) (Nat.le_trans (Nat.min_le_left k 6) (Nat.le_of_lt_succ h))
  exact Nat.le_trans (Nat.min_le_left _ _) (Nat.mul_le_mul_left 500 hpow)

/-- From the sixth on they are the maximum. -/
theorem reconnTargetMs_of_le {k : Nat} (h : 6 ≤ k) : reconnTargetMs k = 30000 := by
  rw [reconnTargetMs, Nat.min_eq_right h]
  rfl

/-- The delay is the target, moved by the offset: the arithmetic modulo 2^32 is exact. -/
theorem reconnDelayMs_eq (k random : Nat) :
    reconnDelayMs k random =
      reconnTargetMs k + random % (reconnTargetMs k / 10) - reconnTargetMs k / 10 / 2 := by
  have hshift : (if k < 6 then k else 6) = min k 6 := by split <;> omega
  have hraw : (wifiReconnBaseMs <<< min k 6) % 2 ^ 32 = wifiReconnBaseMs * 2 ^ min k 6 := by
    rw [Nat.shiftLeft_eq]
    exact Nat.mod_eq_of_lt (Nat.lt_of_le_of_lt (shifted_le k) (by decide))
  have hcap : (if wifiReconnMaxMs < wifiReconnBaseMs * 2 ^ min k 6 then wifiReconnMaxMs
      else wifiReconnBaseMs * 2 ^ min k 6) = reconnTargetMs k := by
    rw [reconnTargetMs]
    split <;> omega
  have hle := reconnTargetMs_le k
  have hge := le_reconnTargetMs k
  have hspan : reconnTargetMs k * wifiReconnJitterPct % 2 ^ 32 / 100 = reconnTargetMs k / 10 := by
    rw [wifiReconnJitterPct]
    omega
  have hpos : ¬ reconnTargetMs k / 10 = 0 := by omega
  simp only [reconnDelayMs, hshift, hraw, hcap, hspan, if_neg hpos]
  omega

/-- **No expression leaves its type**, as long as the retry count does not. -/
theorem wifiBackoffExprs_fit {retries : Nat} (hret : retries + 1 < 2 ^ 31) (random : Nat) :
    ∀ e ∈ wifiBackoffExprs retries random, e.1.Fits e.2 := by
  have hraw : (wifiReconnBaseMs * 2 ^ min retries 6 : Int) ≤ 32000 := by
    exact_mod_cast shifted_le retries
  have hraw0 : (500 : Int) ≤ wifiReconnBaseMs * 2 ^ min retries 6 := by
    exact_mod_cast Nat.le_mul_of_pos_right 500 (Nat.two_pow_pos _)
  simp only [wifiBackoffExprs, wifiReconnMaxMs, wifiReconnJitterPct, configTickRateHz,
    List.forall_mem_cons, CInt.Fits, List.not_mem_nil, false_imp_iff, implies_true, and_true]
  generalize (wifiReconnBaseMs * 2 ^ min retries 6 : Int) = raw at hraw hraw0 ⊢
  push_cast
  obtain ⟨delay, hdelay⟩ : ∃ delay : Int, delay = min raw 30000 := ⟨_, rfl⟩
  rw [← hdelay]
  have hrem0 : 0 ≤ (random : Int) % (delay * 10 / 100) := Int.emod_nonneg _ (by omega)
  have hrem : (random : Int) % (delay * 10 / 100) < delay * 10 / 100 :=
    Int.emod_lt_of_pos _ (by omega)
  generalize (random : Int) % (delay * 10 / 100) = rem at hrem0 hrem ⊢
  omega

/-- The delay of the model is the value among them that is converted back. -/
theorem reconnDelayMs_mem (retries random : Nat) :
    (.uint32, (reconnDelayMs retries random : Int)) ∈ wifiBackoffExprs retries random := by
  have hval : (reconnDelayMs retries random : Int) =
      max ((reconnTargetMs retries : Int) + ((random : Int) %
        ((reconnTargetMs retries : Int) * wifiReconnJitterPct / 100) -
          (reconnTargetMs retries : Int) * wifiReconnJitterPct / 100 / 2)) 0 := by
    have hge := le_reconnTargetMs retries
    have hspan : (reconnTargetMs retries : Int) * wifiReconnJitterPct / 100 =
        ((reconnTargetMs retries / 10 : Nat) : Int) := by
      rw [wifiReconnJitterPct]
      omega
    rw [reconnDelayMs_eq, hspan, ← Int.natCast_mod]
    omega
  rw [hval]
  simp [wifiBackoffExprs, reconnTargetMs]

/-! ## The bound -/

/-- What is asked of the delay of the `k`-th schedule: within the percentage of the target, and no
more than the maximum. -/
def DelayMeets (k ms : Nat) : Prop :=
  100 * ((ms : Int) - reconnTargetMs k).natAbs ≤ wifiReconnJitterPct * reconnTargetMs k ∧
    ms ≤ wifiReconnMaxMs

/-- The delay meets it exactly if no upward offset is added to the maximum. -/
theorem reconnDelay_iff (k random : Nat) :
    DelayMeets k (reconnDelayMs k random) ↔ ¬ (6 ≤ k ∧ 1500 < random % 3000) := by
  have hge := le_reconnTargetMs k
  have hrem : random % (reconnTargetMs k / 10) < reconnTargetMs k / 10 :=
    Nat.mod_lt _ (by omega)
  rw [DelayMeets, reconnDelayMs_eq, wifiReconnJitterPct, wifiReconnMaxMs]
  rcases Nat.lt_or_ge k 6 with hk | hk
  · have hle := reconnTargetMs_of_lt hk
    omega
  · rw [reconnTargetMs_of_le hk]
    omega

/-- So does the period in ticks that the timer is given, but for the rounding. -/
theorem reconnTicks_iff (k random : Nat) :
    DelayMeets k (pdMsToTicks (reconnDelayMs k random) * (1000 / configTickRateHz)) ↔
      ¬ (6 ≤ k ∧ 1510 ≤ random % 3000) := by
  have hge := le_reconnTargetMs k
  have hrem : random % (reconnTargetMs k / 10) < reconnTargetMs k / 10 :=
    Nat.mod_lt _ (by omega)
  rw [DelayMeets, reconnDelayMs_eq, wifiReconnJitterPct, wifiReconnMaxMs, pdMsToTicks,
    configTickRateHz]
  rcases Nat.lt_or_ge k 6 with hk | hk
  · have hle := reconnTargetMs_of_lt hk
    omega
  · rw [reconnTargetMs_of_le hk]
    omega

/-! ## Runs -/

/-- A call of `wifi_backoff_schedule`, with what `esp_random` returns, or of
`wifi_backoff_reset`. -/
inductive BackoffCall where
  | schedule (random : UInt32)
  | reset
  deriving DecidableEq

/-- The Wi-Fi statics after a call. -/
def Wifi.backoff (w : Wifi) : BackoffCall → Wifi
  | .schedule random => wifiBackoffSchedule { Answers.factory with random := random.toNat } w
  | .reset => wifiBackoffReset w

/-- It is a reset. -/
def BackoffCall.isReset : BackoffCall → Bool
  | .schedule _ => false
  | .reset => true

/-- How many schedules there have been since the last reset. -/
def schedulesInRow (calls : List BackoffCall) : Nat :=
  (Trace.since BackoffCall.isReset calls).length

/-- `s_retries` counts them. -/
theorem retries_exec {w : Wifi} (hw : w.retries = 0) (calls : List BackoffCall) :
    (Run.exec Wifi.backoff w calls).retries = schedulesInRow calls := by
  induction calls using List.reverseRecOn with
  | nil => exact hw
  | append_singleton calls c ih =>
    rw [Run.exec_concat, schedulesInRow]
    cases c with
    | schedule random =>
      rw [Trace.since_concat_of_neg rfl, List.length_append]
      exact congrArg (· + 1) ih
    | reset =>
      rw [Trace.since_concat_of_pos rfl]
      rfl

/-- **When the reconnect delay stays within its cap.** In every run of schedules and resets, with
fewer than 2^31 schedules in a row, the arithmetic of the next schedule is exact, and the delay it
arms the timer with meets the bound exactly if the target is not the maximum or the random offset
does not point upwards; the period in ticks does so up to the length of a tick. -/
theorem backoff_delay_iff {w : Wifi} (hw : w.retries = 0) (calls : List BackoffCall)
    (random : UInt32) (hrow : schedulesInRow calls + 1 < 2 ^ 31) :
    (∀ e ∈ wifiBackoffExprs (Run.exec Wifi.backoff w calls).retries random.toNat,
      e.1.Fits e.2) ∧
    ∃ ms, (Run.exec Wifi.backoff w (calls ++ [.schedule random])).reconn = some ms ∧
      (DelayMeets (schedulesInRow calls) ms ↔
        ¬ (6 ≤ schedulesInRow calls ∧ 1500 < random.toNat % 3000)) ∧
      (DelayMeets (schedulesInRow calls) (pdMsToTicks ms * (1000 / configTickRateHz)) ↔
        ¬ (6 ≤ schedulesInRow calls ∧ 1510 ≤ random.toNat % 3000)) := by
  have hret := retries_exec hw calls
  refine ⟨?_, reconnDelayMs (schedulesInRow calls) random.toNat, ?_,
    reconnDelay_iff _ _, reconnTicks_iff _ _⟩
  · rw [hret]
    exact wifiBackoffExprs_fit hrow random.toNat
  · rw [Run.exec_concat, ← hret]
    rfl

/-- Six retries, and an offset of 0. -/
theorem backoff_delay_held :
    ∃ ms, (Run.exec Wifi.backoff (Control.boot ⟨[104], [], true⟩ none none none).wifi
        (List.replicate 6 (.schedule 0) ++ [.schedule 1500])).reconn = some ms ∧
      DelayMeets (schedulesInRow (List.replicate 6 (.schedule 0))) ms := by
  have hboot : (Control.boot ⟨[104], [], true⟩ none none none).wifi.retries = 0 := rfl
  obtain ⟨-, ms, hms, hiff, -⟩ :=
    backoff_delay_iff hboot (List.replicate 6 (.schedule 0)) 1500 (by decide)
  exact ⟨ms, hms, hiff.mpr (by decide)⟩

/-- Six retries, and the largest offset: 31499 ms. -/
theorem backoff_delay_passes_cap :
    ∃ ms, (Run.exec Wifi.backoff (Control.boot ⟨[104], [], true⟩ none none none).wifi
        (List.replicate 6 (.schedule 0) ++ [.schedule 2999])).reconn = some ms ∧
      ¬ DelayMeets (schedulesInRow (List.replicate 6 (.schedule 0))) ms := by
  refine ⟨31499, by decide +kernel, ?_⟩
  rintro ⟨-, hmax⟩
  exact absurd hmax (by decide)

end RemoteControl
