import RemoteControl.Ble.Fallback
import RemoteControl.Sys.Monitor

/-!
# The system coordinator (`sys_core.c`, `sys_events.c`, `sys_policy.c`, `sys_priv.h`)

The mode, the global TCP authentication flag and the queue of recovery requests, with the functions
that move them. A mode switch acts on the monitor, the BLE fallback and the boot flag, so their
state is part of the coordinator's here. The queue was created by `syscoord_init`; it holds one kind
of event, `SYS_EVT_ENTER_RECOVERY`, and drops what does not fit.
-/

namespace RemoteControl

open CString

/-- `sc_mode_t`. -/
inductive ScMode where
  | startup
  | waitControl
  | normal
  | recovery
  deriving DecidableEq, Repr

/-- `sys_evt_t`. -/
inductive SysEvt where
  | enterRecovery
  deriving DecidableEq, Repr

/-- The state the coordinator owns or moves. -/
structure Syscoord where
  mode : ScMode
  tcpAuthed : Bool
  sysQ : List SysEvt
  monitor : Monitor
  fallback : Fallback
  /-- The byte `post_rb` in the NVS. -/
  postRb : Option Nat
  /-- How often `esp_ota_mark_app_valid_cancel_rollback` has been called. -/
  validMarks : Nat
  deriving DecidableEq, Repr

/-- The depth `syscoord_init` creates the queue with. -/
def sysQueueDepth : Nat := 4

/-- `enqueue_recovery`. -/
def enqueueRecovery (s : Syscoord) : Syscoord :=
  if s.sysQ.length < sysQueueDepth then { s with sysQ := s.sysQ ++ [.enterRecovery] } else s

/-- `set_mode`. -/
def setMode (a : Answers) (m : ScMode) (s : Syscoord) : Syscoord :=
  if s.mode = m then s
  else
    match m with
    | .startup => { s with mode := m }
    | .waitControl =>
      { s with
        mode := m
        fallback := bleFallbackStop (bleLifeboatSet false s.fallback)
        monitor := healthMonitorStart s.monitor }
    | .normal =>
      { s with
        mode := m
        fallback := bleFallbackStop (bleLifeboatSet false s.fallback)
        postRb := bootflagSetPostRollback a false s.postRb }
    | .recovery => { s with mode := m }

/-- `syscoord_init` on the statics at boot. -/
def syscoordInit (postRb : Option Nat) : Syscoord :=
  setMode .factory .waitControl
    { mode := .startup
      tcpAuthed := false
      sysQ := []
      monitor := ⟨false, 0⟩
      fallback := .init
      postRb := postRb
      validMarks := 0 }

/-- `syscoord_mark_tcp_authed`. -/
def syscoordMarkTcpAuthed (s : Syscoord) : Syscoord := { s with tcpAuthed := true }

/-- `syscoord_control_path_ok`. -/
def syscoordControlPathOk (a : Answers) (source : Bytes) (s : Syscoord) : Syscoord :=
  if source = lit "TCP" ∧ s.tcpAuthed then
    let fresh := a.running ≠ none ∧ (a.imgState = some .new ∨ a.imgState = some .pendingVerify)
    let s := if fresh then { s with validMarks := s.validMarks + 1 } else s
    setMode a .normal { s with monitor := healthMonitorControlOk s.monitor }
  else s

/-- `syscoord_on_wifi_state`. -/
def syscoordOnWifiState (a : Answers) (up : Bool) (s : Syscoord) : Syscoord :=
  if !up then
    let s := { s with tcpAuthed := false }
    if s.mode = .normal then setMode a .waitControl s else s
  else s

/-- What a successful `cmd_auth` does over TCP: mark, then prove the control path. -/
def tcpAuthOk (a : Answers) (s : Syscoord) : Syscoord :=
  syscoordControlPathOk a (lit "TCP") (syscoordMarkTcpAuthed s)

/-! ## What they do to the mode, the queue and the lifeboat -/

@[simp] theorem mode_setMode (a : Answers) (m : ScMode) (s : Syscoord) :
    (setMode a m s).mode = m := by
  unfold setMode
  split
  · assumption
  · cases m <;> rfl

@[simp] theorem sysQ_setMode (a : Answers) (m : ScMode) (s : Syscoord) :
    (setMode a m s).sysQ = s.sysQ := by
  unfold setMode
  split
  · rfl
  · cases m <;> rfl

@[simp] theorem validMarks_setMode (a : Answers) (m : ScMode) (s : Syscoord) :
    (setMode a m s).validMarks = s.validMarks := by
  unfold setMode
  split
  · rfl
  · cases m <;> rfl

/-- Leaving RECOVERY for one of the quiet modes switches the lifeboat off. -/
theorem lifeboat_setMode_quiet (a : Answers) {m : ScMode} (hm : m = .waitControl ∨ m = .normal)
    {s : Syscoord} (h : s.mode ≠ m) :
    (setMode a m s).fallback.lifeboatEnabled = false := by
  unfold setMode
  rw [if_neg h]
  rcases hm with rfl | rfl <;> simp

@[simp] theorem mode_enqueueRecovery (s : Syscoord) : (enqueueRecovery s).mode = s.mode := by
  unfold enqueueRecovery; split <;> rfl

@[simp] theorem fallback_enqueueRecovery (s : Syscoord) :
    (enqueueRecovery s).fallback = s.fallback := by
  unfold enqueueRecovery; split <;> rfl

@[simp] theorem validMarks_enqueueRecovery (s : Syscoord) :
    (enqueueRecovery s).validMarks = s.validMarks := by
  unfold enqueueRecovery; split <;> rfl

/-- After a request the queue is not empty: it took the request or was full. -/
theorem sysQ_enqueueRecovery_ne_nil (s : Syscoord) : (enqueueRecovery s).sysQ ≠ [] := by
  unfold enqueueRecovery
  split
  · simp
  · next h =>
    intro hnil
    rw [hnil] at h
    exact h (by decide)

/-- A request keeps the queue or adds one event to it. -/
theorem sysQ_enqueueRecovery (s : Syscoord) :
    (enqueueRecovery s).sysQ = s.sysQ ∨ (enqueueRecovery s).sysQ = s.sysQ ++ [.enterRecovery] := by
  unfold enqueueRecovery
  split
  · exact .inr rfl
  · exact .inl rfl

/-- A successful AUTH over TCP always reaches NORMAL. -/
@[simp] theorem mode_tcpAuthOk (a : Answers) (s : Syscoord) : (tcpAuthOk a s).mode = .normal := by
  simp [tcpAuthOk, syscoordControlPathOk, syscoordMarkTcpAuthed]

@[simp] theorem sysQ_tcpAuthOk (a : Answers) (s : Syscoord) : (tcpAuthOk a s).sysQ = s.sysQ := by
  simp only [tcpAuthOk, syscoordControlPathOk, syscoordMarkTcpAuthed, and_self, if_true,
    sysQ_setMode]
  split <;> rfl

/-- An AUTH that leaves another mode switches the lifeboat off. -/
theorem lifeboat_tcpAuthOk (a : Answers) {s : Syscoord} (h : s.mode ≠ .normal) :
    (tcpAuthOk a s).fallback.lifeboatEnabled = false := by
  simp only [tcpAuthOk, syscoordControlPathOk, syscoordMarkTcpAuthed, and_self, if_true]
  refine lifeboat_setMode_quiet a (.inr rfl) ?_
  split <;> exact h

/-- An AUTH in NORMAL leaves the lifeboat as it is. -/
theorem fallback_tcpAuthOk_normal (a : Answers) {s : Syscoord} (h : s.mode = .normal) :
    (tcpAuthOk a s).fallback = s.fallback := by
  simp only [tcpAuthOk, syscoordControlPathOk, syscoordMarkTcpAuthed, and_self, if_true, setMode]
  split <;> simp

/-- Wi-Fi going down takes NORMAL to WAIT_CONTROL and leaves every other mode. -/
theorem mode_wifiDown (a : Answers) (s : Syscoord) :
    (syscoordOnWifiState a false s).mode = if s.mode = .normal then .waitControl else s.mode := by
  simp only [syscoordOnWifiState, Bool.not_false, if_true]
  split <;> simp_all

@[simp] theorem sysQ_wifiState (a : Answers) (up : Bool) (s : Syscoord) :
    (syscoordOnWifiState a up s).sysQ = s.sysQ := by
  unfold syscoordOnWifiState
  split
  · dsimp only; split <;> simp
  · rfl

@[simp] theorem validMarks_wifiState (a : Answers) (up : Bool) (s : Syscoord) :
    (syscoordOnWifiState a up s).validMarks = s.validMarks := by
  unfold syscoordOnWifiState
  split
  · dsimp only; split <;> simp
  · rfl

/-- Outside NORMAL, Wi-Fi going down only clears the TCP flag. -/
theorem wifiState_down_of_ne (a : Answers) {s : Syscoord} (h : s.mode ≠ .normal) :
    syscoordOnWifiState a false s = { s with tcpAuthed := false } := by
  simp [syscoordOnWifiState, h]

/-- In NORMAL, Wi-Fi going down re-arms the monitor and hides the lifeboat. -/
theorem wifiState_down_of_normal (a : Answers) {s : Syscoord} (h : s.mode = .normal) :
    (syscoordOnWifiState a false s).monitor = ⟨false, 0⟩ ∧
      (syscoordOnWifiState a false s).fallback.lifeboatEnabled = false := by
  simp [syscoordOnWifiState, setMode, h, healthMonitorStart]

end RemoteControl
