import RemoteControl.Ota.Flash
import RemoteControl.Sys.Errsrc

/-!
# The health monitor (`monitor.c`, `monitor_policy.c`, `bootflag.c`)

The monitor counts connectivity failures until control is proven: the first one on a fresh OTA
image rolls back, the second one asks for RECOVERY through the timeout callback. A call of
`monitor_on_wifi_error` returns the new latches and a verdict; what the callback does with
`escalate`, and that a rollback reboots, is for the caller (`RemoteControl.Net.Wifi`).

What ESP-IDF and the NVS answer while a handler runs is an `Answers` record, chosen anew for every
handler, so that a statement for all runs covers every pattern of answers.
-/

namespace RemoteControl

/-! ## What the platform answers -/

/-- The app partitions by subtype. -/
inductive AppPart where
  | factory
  | ota0
  | ota1
  | other
  deriving DecidableEq, Repr

/-- `esp_ota_img_states_t`. -/
inductive ImgState where
  | new
  | pendingVerify
  | valid
  | invalid
  | aborted
  | undefined
  deriving DecidableEq, Repr

/-- What `esp_wifi_connect` returns: accepted, `ESP_ERR_WIFI_CONN`, or another error. -/
inductive ConnectRes where
  | ok
  | wifiConn
  | error
  deriving DecidableEq, Repr

/-- The answers of the platform to the calls of one handler. -/
structure Answers where
  /-- `esp_ota_get_running_partition`. -/
  running : Option AppPart
  /-- `esp_ota_get_state_partition` of the running partition; `none` for an error. -/
  imgState : Option ImgState
  /-- `esp_ota_mark_app_invalid_rollback_and_reboot`; `none` when it reboots. -/
  official : Option EspErr
  /-- `esp_partition_find_first` finds the partition. -/
  find : AppPart → Bool
  /-- The NVS calls on the boot flag succeed. -/
  flagNvs : Bool
  /-- `esp_wifi_get_config` succeeds. -/
  getConfig : Bool
  /-- `esp_wifi_connect`. -/
  connect : ConnectRes
  /-- `esp_random`. -/
  random : Nat
  /-- `nvs_open` of the credentials succeeds. -/
  credOpen : Bool
  /-- `nvs_set_str` of the SSID succeeds. -/
  credSsid : Bool
  /-- `nvs_set_str` of the password succeeds. -/
  credPwd : Bool
  /-- `nvs_commit` of the credentials succeeds. -/
  credCommit : Bool

/-- A factory image on a platform where every call succeeds. -/
def Answers.factory : Answers where
  running := some .factory
  imgState := none
  official := some .fail
  find p := p ≠ .other
  flagNvs := true
  getConfig := true
  connect := .ok
  random := 0
  credOpen := true
  credSsid := true
  credPwd := true
  credCommit := true

/-! ## The boot flag -/

/-- `bootflag_set_post_rollback` on the stored byte. -/
def bootflagSetPostRollback (a : Answers) (on : Bool) (flag : Option Nat) : Option Nat :=
  if a.flagNvs then some (if on then 1 else 0) else flag

/-- `bootflag_is_post_rollback` of the stored byte. -/
def bootflagIsPostRollback (a : Answers) (flag : Option Nat) : Bool :=
  a.flagNvs && flag.getD 0 != 0

/-! ## The policy -/

/-- `monitor_is_rollback_eligible`. -/
def monitorIsRollbackEligible (a : Answers) : Bool :=
  match a.running with
  | some .ota0 | some .ota1 => a.imgState = some .new ∨ a.imgState = some .pendingVerify
  | _ => false

/-- `select_manual_fallback_target`. -/
def selectManualFallbackTarget (a : Answers) : Option AppPart :=
  let other := match a.running with
    | some .ota0 => if a.find .ota1 then some .ota1 else none
    | some .ota1 => if a.find .ota0 then some .ota0 else none
    | _ => none
  if a.find .factory ∧ a.running ≠ some .factory then some .factory
  else if other ≠ none ∧ other ≠ a.running then other
  else none

/-- How `monitor_try_rollback_now` ends: the official rollback rebooted, the manual one set the
boot flag and rebooted into a target, or neither was possible and it returned. -/
inductive RollbackEnd where
  | official
  | manual (target : AppPart)
  | returned
  deriving DecidableEq, Repr

/-- `monitor_try_rollback_now`. -/
def monitorTryRollbackNow (a : Answers) : RollbackEnd :=
  match a.official with
  | none => .official
  | some e =>
    if e ≠ .ok then
      match selectManualFallbackTarget a with
      | some target => .manual target
      | none => .returned
    else .returned

/-! ## The monitor -/

/-- The latches of `monitor.c`. -/
structure Monitor where
  done : Bool
  failStreak : Nat
  deriving DecidableEq, Repr

/-- `health_monitor_start`. -/
def healthMonitorStart (_m : Monitor) : Monitor := ⟨false, 0⟩

/-- `health_monitor_control_ok`. -/
def healthMonitorControlOk (m : Monitor) : Monitor := if m.done then m else ⟨true, 0⟩

/-- What a report asks for: nothing, a rollback that ended so, or the timeout callback. -/
inductive Verdict where
  | quiet
  | rollback (how : RollbackEnd)
  | escalate
  deriving DecidableEq, Repr

/-- `monitor_on_wifi_error`. -/
def monitorOnWifiError (a : Answers) (flag : Option Nat) (e : ErrSrc) (m : Monitor) :
    Monitor × Verdict :=
  if m.done then (m, .quiet)
  else if e = .none then ({ m with failStreak := 0 }, .quiet)
  else
    let streak := if m.failStreak < 0x7fff then m.failStreak + 1 else m.failStreak
    let canRollback := monitorIsRollbackEligible a
    if streak = 1 then
      if canRollback ∧ !bootflagIsPostRollback a flag then
        ({ m with failStreak := streak }, .rollback (monitorTryRollbackNow a))
      else ({ m with failStreak := streak }, .quiet)
    else if 2 ≤ streak then ({ m with failStreak := streak, done := true }, .escalate)
    else ({ m with failStreak := streak }, .quiet)

/-- A report reboots the device: it is the first failure, of an eligible image that did not come
out of a rollback, and one of the two rollbacks works. -/
def Reboots (a : Answers) (flag : Option Nat) (m : Monitor) : Prop :=
  m.done = false ∧ m.failStreak = 0 ∧ monitorIsRollbackEligible a = true ∧
    bootflagIsPostRollback a flag = false ∧ monitorTryRollbackNow a ≠ .returned

/-- **What a failure report does.** A latched monitor ignores it; the first failure reboots or is
counted; a later one latches the monitor and escalates. -/
theorem monitorOnWifiError_cases (a : Answers) (flag : Option Nat) {e : ErrSrc} (he : e ≠ .none)
    (m : Monitor) :
    (m.done = true ∧ monitorOnWifiError a flag e m = (m, .quiet)) ∨
    (Reboots a flag m ∧ ∃ how, how ≠ .returned ∧
      (monitorOnWifiError a flag e m).2 = .rollback how) ∨
    (m.done = false ∧ m.failStreak = 0 ∧ ¬ Reboots a flag m ∧
      (monitorOnWifiError a flag e m).1 = ⟨false, 1⟩ ∧
      ((monitorOnWifiError a flag e m).2 = .quiet ∨
        (monitorOnWifiError a flag e m).2 = .rollback .returned)) ∨
    (m.done = false ∧ 1 ≤ m.failStreak ∧ (monitorOnWifiError a flag e m).1.done = true ∧
      (monitorOnWifiError a flag e m).2 = .escalate) := by
  obtain ⟨done, streak⟩ := m
  cases done with
  | true => exact .inl ⟨rfl, by simp [monitorOnWifiError]⟩
  | false =>
    rcases Nat.eq_zero_or_pos streak with rfl | hpos
    · by_cases hroll : monitorIsRollbackEligible a ∧ !bootflagIsPostRollback a flag
      · have heq : monitorOnWifiError a flag e ⟨false, 0⟩ =
            (⟨false, 1⟩, .rollback (monitorTryRollbackNow a)) := by
          simp [monitorOnWifiError, he, hroll]
        by_cases hret : monitorTryRollbackNow a = .returned
        · exact .inr (.inr (.inl ⟨rfl, rfl, fun h => h.2.2.2.2 hret, by rw [heq],
            .inr (by rw [heq, hret])⟩))
        · exact .inr (.inl ⟨⟨rfl, rfl, hroll.1, by simpa using hroll.2, hret⟩, _, hret,
            by rw [heq]⟩)
      · have heq : monitorOnWifiError a flag e ⟨false, 0⟩ = (⟨false, 1⟩, .quiet) := by
          simp only [monitorOnWifiError, Bool.false_eq_true, if_false, if_neg he]
          simpa using hroll
        exact .inr (.inr (.inl ⟨rfl, rfl, fun h => hroll ⟨h.2.2.1, by simp [h.2.2.2.1]⟩,
          by rw [heq], .inl (by rw [heq])⟩))
    · have hstreak : ∀ n, n = (if streak < 0x7fff then streak + 1 else streak) → n ≠ 1 ∧ 2 ≤ n := by
        intro n hn
        split at hn <;> omega
      obtain ⟨h1, h2⟩ := hstreak _ rfl
      refine .inr (.inr (.inr ⟨rfl, hpos, ?_⟩))
      simp only [monitorOnWifiError, Bool.false_eq_true, if_false, if_neg he, if_neg h1, if_pos h2,
        and_self]

end RemoteControl
