import RemoteControl.Ble.HostSession
import RemoteControl.Lib.Run

/-!
# What `ble_session` returns

`tcp_session` and `try_reconnect` go back to TCP when `ble_session` returns `True`. It does so only
behind a write of credentials that has returned, and only if the device has told it that Wi-Fi is
up, in an indication or in a read of TX (`ble_session_true`). The event is not cleared, so the news
may be older than the write.
-/

namespace RemoteControl

open CString

namespace BleSession

/-- A write of credentials returns. -/
def WroteWifi (w : BleSession) : BleEv → Prop
  | .wrote _ ok => ok = true ∧ ∃ payload, w.pc = .setwifi payload
  | _ => False

/-- The device tells that Wi-Fi is up: in an indication that `_notify` gets while the event loop
runs, or in what a read of TX brings. A bare `NONE` counts until `expect_none_until`. -/
def News (w : BleSession) : BleEv → Prop
  | .notified char data =>
    w.pc.awaits = true ∧ char ∈ w.callbacks ∧ char ≠ .dht ∧
      (isWifiOk (pyText data) = true ∨ pyLower (pyText data) = "none".toList ∧ w.now < w.noneUntil)
  | .read data =>
    ∃ n bytes, (w.pc = .authRead n ∨ w.pc = .commandRead n) ∧ data = some bytes ∧
      isWifiOk (pyText bytes) = true
  | _ => False

/-- The event is set, or a call of `_notify` is about to set it. -/
def Told (w : BleSession) : Prop := w.wifiOk = true ∨ 0 < w.asleep

/-- A write of credentials has returned that may end the session. -/
def Waits (w : BleSession) : Prop :=
  w.pc = .waitWifi ∨ w.pc = .unsubscribe true ∨ w.pc = .done true

/-- The session is about to return `True`, or has. -/
def Returns (w : BleSession) : Prop := w.pc = .unsubscribe true ∨ w.pc = .done true

section
variable {C : HostConfig} {D : BleChars} {w : BleSession}

/-! ## The event -/

theorem told_calls (reached : Bool) : (w.calls C reached).Told ↔ w.Told := by
  unfold calls
  split <;> rfl

/-- A write changes nothing about it. -/
theorem told_afterWrite (reached ok : Bool) : (w.afterWrite D reached ok).Told ↔ w.Told := by
  obtain ⟨pc, notifyOk, callbacks, asleep, wifiOk, now, noneUntil, typed, asked⟩ := w
  cases pc with
  | subscribe char => cases reached <;> cases ok <;> rfl
  | auth | command line => cases ok <;> rfl
  | setwifi payload => cases ok <;> cases wifiOk <;> rfl
  | _ => rfl

theorem told_line (text : List Char) (file : Bool) : (w.line D text file).Told ↔ w.Told := by
  unfold line
  split <;> first | rfl | (split <;> rfl)

/-- What a read brings is news, if it sets the event. -/
theorem news_of_readTx {data : Bytes} (h : ¬ w.Told) (h' : (w.readTx data).Told) :
    isWifiOk (pyText data) = true := by
  obtain ⟨hok, hasleep⟩ := not_or.mp h
  rcases h' with h' | h'
  · exact (Bool.or_eq_true _ _ ▸ h').resolve_left hok
  · exact absurd h' hasleep

/-- **Only news** sets it. -/
theorem news_of_told (ev : BleEv) (h : ¬ w.Told) (h' : (w.step C D ev).Told) : w.News ev := by
  cases ev with
  | wrote reached ok =>
    simp only [step, wrote] at h'
    exact absurd ((told_calls reached).mp ((told_afterWrite reached ok).mp h')) h
  | read data =>
    have hsome : ∀ {bytes : Bytes}, data.filter (· ≠ []) = some bytes → data = some bytes :=
      fun hbytes => (Option.filter_eq_some_iff.mp hbytes).1
    simp only [step, read] at h'
    split at h'
    · next n bytes hpc hbytes => exact ⟨n, bytes, .inl hpc, hsome hbytes, news_of_readTx h h'⟩
    · next n bytes hpc hbytes => exact ⟨n, bytes, .inr hpc, hsome hbytes, news_of_readTx h h'⟩
    · exact absurd h' h
    · exact absurd h' h
    · exact absurd h' h
    · exact absurd h' h
  | notified char data =>
    simp only [step, notified] at h'
    split at h'
    · next hawaits =>
      split at h'
      · next hheard =>
        obtain ⟨hchar, hdht, -, htakes⟩ := hheard
        refine ⟨hawaits, hchar, hdht, ?_⟩
        simpa only [takes, Bool.or_eq_true, Bool.and_eq_true, decide_eq_true_eq] using htakes
      · exact absurd h' h
    · exact absurd h' h
  | woke =>
    simp only [step] at h'
    split at h'
    · next hawake =>
      rw [Bool.and_eq_true, decide_eq_true_eq] at hawake
      exact absurd (.inr hawake.2) h
    · exact absurd h' h
  | goesOn =>
    simp only [step] at h'
    split at h' <;> exact absurd h' h
  | typed text file =>
    simp only [step] at h'
    split at h'
    · exact absurd ((told_line text file).mp h') h
    · exact absurd h' h
  | leave | wifiUp | timeout =>
    simp only [step] at h'
    split at h' <;> exact absurd h' h
  | tick ms => exact absurd h' h
  | raises reached =>
    simp only [step] at h'
    split at h'
    · exact absurd ((told_calls (C := C) reached).mp h') h
    · exact absurd h' h

/-! ## The verdict -/

theorem pc_leaves (verdict : Bool) :
    (w.leaves verdict).pc = .unsubscribe verdict ∨ (w.leaves verdict).pc = .done verdict := by
  unfold leaves
  cases w.notifyOk
  · exact .inr rfl
  · exact .inl rfl

/-- The loop ends without the verdict. -/
theorem not_waits_leaves : ¬ (w.leaves false).Waits := by
  unfold Waits
  rcases w.pc_leaves false with hpc | hpc <;> rw [hpc] <;> simp

/-- Only a write of credentials that returns comes to wait for Wi-Fi. -/
theorem wroteWifi_of_afterWrite {reached ok : Bool} (h : ¬ w.Waits)
    (h' : (w.afterWrite D reached ok).Waits) : ok = true ∧ ∃ payload, w.pc = .setwifi payload := by
  obtain ⟨pc, notifyOk, callbacks, asleep, wifiOk, now, noneUntil, typed, asked⟩ := w
  cases pc with
  | setwifi payload =>
    cases ok with
    | true => exact ⟨rfl, payload, rfl⟩
    | false => simp [afterWrite, Waits] at h'
  | subscribe char =>
    obtain ⟨alert, ota, dht⟩ := D
    cases char <;> cases reached <;> cases ok <;> cases alert <;> cases dht <;>
      simp [afterWrite, IndicatedChar.afterSubscribe, Waits] at h'
  | auth => cases ok <;> cases notifyOk <;> simp [afterWrite, Waits] at h'
  | command line => cases ok <;> cases notifyOk <;> simp [afterWrite, leaves, Waits] at h'
  | _ => exact absurd h' h

theorem wroteWifi_of_waits (ev : BleEv) (h : ¬ w.Waits) (h' : (w.step C D ev).Waits) :
    w.WroteWifi ev := by
  have hcalls : ∀ reached, (w.calls C reached).pc = w.pc := by
    intro reached
    unfold calls
    split <;> rfl
  cases ev with
  | wrote reached ok =>
    have hbefore : ¬ (w.calls C reached).Waits := by rwa [Waits, hcalls reached]
    obtain ⟨hok, payload, hpc⟩ := wroteWifi_of_afterWrite hbefore h'
    exact ⟨hok, payload, (hcalls reached).symm.trans hpc⟩
  | read data =>
    simp only [step, read] at h'
    split at h' <;> first | exact absurd h' h | simp [readTx, Waits] at h'
    · split at h' <;> simp at h'
    · split at h' <;> simp at h'
  | goesOn =>
    simp only [step] at h'
    split at h'
    · simp [Waits] at h'
    · simp [Waits] at h'
    · next verdict hpc =>
      cases verdict with
      | true => exact absurd (.inr (.inl hpc)) h
      | false => simp [Waits] at h'
    · exact absurd h' h
  | typed text file =>
    simp only [step, line] at h'
    split at h'
    · split at h'
      · exact absurd h' h
      · exact absurd h' h
      · exact absurd h' not_waits_leaves
      · split at h'
        · simp [Waits] at h'
        · exact absurd h' h
      · simp [Waits] at h'
      · split at h'
        · simp [Waits] at h'
        · exact absurd h' h
      · simp [Waits] at h'
    · exact absurd h' h
  | leave =>
    simp only [step] at h'
    split at h'
    · exact absurd h' not_waits_leaves
    · exact absurd h' h
  | notified char data =>
    simp only [step, notified] at h'
    split at h'
    · split at h' <;> exact absurd h' h
    · exact absurd h' h
  | woke =>
    simp only [step] at h'
    split at h' <;> exact absurd h' h
  | wifiUp =>
    simp only [step] at h'
    split at h'
    · next hwait => exact absurd (.inl hwait.1) h
    · exact absurd h' h
  | timeout =>
    simp only [step] at h'
    split at h'
    · simp [Waits] at h'
    · exact absurd h' h
  | tick ms => exact absurd h' h
  | raises reached =>
    simp only [step] at h'
    split at h'
    · simp [Waits] at h'
    · refine absurd h' h

/-- The event stays set. -/
theorem told_step (ev : BleEv) (h : w.Told) : (w.step C D ev).Told := by
  cases ev with
  | wrote reached ok => exact (told_afterWrite reached ok).mpr ((told_calls reached).mpr h)
  | read data =>
    have hread : ∀ bytes, (w.readTx bytes).Told := fun bytes =>
      h.imp_left fun hok => by rw [readTx, hok, Bool.true_or]
    simp only [step, read]
    split
    · exact hread _
    · exact hread _
    · exact h
    · exact h
    · exact h
    · exact h
  | notified char data =>
    simp only [step, notified]
    split
    · split
      · exact .inr (Nat.succ_pos _)
      · exact h
    · exact h
  | woke =>
    simp only [step]
    split
    · exact .inl rfl
    · exact h
  | typed text file =>
    simp only [step]
    split
    · exact (told_line text file).mpr h
    · exact h
  | goesOn | leave | wifiUp | timeout =>
    simp only [step]
    split <;> exact h
  | tick ms => exact h
  | raises reached =>
    simp only [step]
    split
    · exact (told_calls (C := C) reached).mpr h
    · exact h

/-- **The session returns `True`** only where the event is set. -/
theorem told_of_returns (ev : BleEv) (h : ¬ w.Returns) (h' : (w.step C D ev).Returns) : w.Told := by
  by_cases hwaits : w.Waits
  · -- it waits for the event
    have hpc : w.pc = .waitWifi := hwaits.resolve_right h
    cases ev with
    | wifiUp =>
      simp only [step] at h'
      split at h'
      · next hup => exact .inl hup.2
      · exact absurd h' h
    | notified char data =>
      simp only [step, notified] at h'
      split at h'
      · split at h' <;> exact absurd h' h
      · exact absurd h' h
    | wrote reached ok =>
      simp only [step, wrote, calls, afterWrite, hpc, BlePc.writes] at h'
      exact absurd h' h
    | read data =>
      simp only [step, read, hpc] at h'
      exact absurd h' h
    | raises reached => simp [step, hpc, BlePc.awaits, Returns] at h'
    | woke =>
      simp only [step] at h'
      split at h' <;> exact absurd h' h
    | goesOn | typed | leave =>
      simp only [step, hpc] at h'
      exact absurd h' h
    | tick ms => exact absurd h' h
    | timeout => simp [step, hpc, Returns] at h'
  · -- the write itself finds the event set
    have hwrote := wroteWifi_of_waits ev hwaits (.inr h')
    cases ev with
    | wrote reached ok =>
      obtain ⟨rfl, payload, hpc⟩ := hwrote
      cases hok : w.wifiOk with
      | true => exact .inl hok
      | false => simp [step, wrote, calls, afterWrite, hpc, BlePc.writes, hok, Returns] at h'
    | _ => cases hwrote

end

end BleSession

/-- **The verdict of `ble_session`.** In every run that is about to return `True`, or has returned
it, a write of credentials has returned, and the device has told the session that Wi-Fi is up. -/
theorem ble_session_true (C : HostConfig) (D : BleChars) (now : Nat) (evs : List BleEv)
    (h : (Run.exec (BleSession.step C D) (.start now) evs).Returns) :
    Run.Sometime (BleSession.step C D) BleSession.WroteWifi (.start now) evs ∧
      Run.Sometime (BleSession.step C D) BleSession.News (.start now) evs := by
  have hwaits : ¬ (BleSession.start now).Waits := by simp [BleSession.start, BleSession.Waits]
  have htold : ¬ (BleSession.start now).Told := by simp [BleSession.start, BleSession.Told]
  have hstart : (BleSession.start now).Returns → (BleSession.start now).Told :=
    fun hret => absurd (.inr hret) hwaits
  have hstep : ∀ (w : BleSession) (ev : BleEv), (w.Returns → w.Told) →
      (w.step C D ev).Returns → (w.step C D ev).Told := by
    intro w ev hw hret
    refine BleSession.told_step ev ?_
    by_cases hbefore : w.Returns
    · exact hw hbefore
    · exact BleSession.told_of_returns ev hbefore hret
  have hinv := Run.exec_inv hstart hstep evs
  exact ⟨Run.exec_cause hwaits (fun _ ev => BleSession.wroteWifi_of_waits ev) (.inr h),
    Run.exec_cause htold (fun _ ev => BleSession.news_of_told ev) (hinv h)⟩

/-- Credentials are typed, and the device tells of its address in two indications. -/
def provisioned : List BleEv :=
  [.wrote true true, .wrote true true, .wrote true true, .goesOn,
    .typed "setwifi home letmein".toList false, .wrote true true, .tick 3000,
    .notified .tx (lit "WIFI: GOT IP ip=192."), .notified .tx (lit "168.10.125"), .woke, .wifiUp]

theorem ble_session_true_provisioned :
    Run.Sometime (BleSession.step ⟨lit "hunter2", 12⟩ ⟨false, false, false⟩) BleSession.WroteWifi
        (.start 0) provisioned ∧
      Run.Sometime (BleSession.step ⟨lit "hunter2", 12⟩ ⟨false, false, false⟩) BleSession.News
        (.start 0) provisioned := by
  refine ble_session_true ⟨lit "hunter2", 12⟩ ⟨false, false, false⟩ 0 provisioned (.inl ?_)
  decide +kernel

end RemoteControl
