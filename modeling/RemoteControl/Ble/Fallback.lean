import Mathlib.Data.List.Basic

/-!
# The BLE lifeboat (`fb_core.c`, `fb_gap.c`, `fb_worker.c`)

The flags of the BLE fallback and the functions that the mode switch and the recovery worker call:
enabling the lifeboat, bringing the stack up, and stopping it. The worker's queue carries one kind
of event, so it is the number of kicks in it; requests to the GAP layer are recorded in the order
in which they are made. The `ESP_ERROR_CHECK`ed calls of the bring-up either succeed or reboot the
device; they are taken to succeed.
-/

namespace RemoteControl

/-- A request to the GAP layer. -/
inductive GapRequest where
  | configAdv
  | configScanRsp
  | startAdv
  | stopAdv
  deriving DecidableEq, Repr

/-- The statics of the BLE fallback. -/
structure Fallback where
  stackReady : Bool
  advReady : Bool
  advRunning : Bool
  connected : Bool
  lifeboatEnabled : Bool
  advStartDeferred : Bool
  /-- The two bits of `s_adv_cfg_done`. -/
  advCfg : Bool
  scanRspCfg : Bool
  /-- `s_adv_watch`: not created, or whether it runs. -/
  advWatch : Option Bool
  /-- `s_ble_q`: not created, or the number of `BLE_EVT_ADV_KICK` in it. -/
  bleQ : Option Nat
  requests : List GapRequest
  deriving DecidableEq, Repr

/-- The statics at boot. -/
def Fallback.init : Fallback where
  stackReady := false
  advReady := false
  advRunning := false
  connected := false
  lifeboatEnabled := false
  advStartDeferred := false
  advCfg := false
  scanRspCfg := false
  advWatch := none
  bleQ := none
  requests := []

/-- `BLE_QUEUE_DEPTH`. -/
def bleQueueDepth : Nat := 8

/-- `ble_post(BLE_EVT_ADV_KICK)`: dropped without a queue or with a full one. -/
def blePost (f : Fallback) : Fallback :=
  { f with bleQ := f.bleQ.map fun n => if n < bleQueueDepth then n + 1 else n }

/-- `fb_adv_stop`. -/
def fbAdvStop (f : Fallback) : Fallback :=
  if !f.advRunning then f else { f with requests := f.requests ++ [.stopAdv] }

/-- `ble_lifeboat_set`. -/
def bleLifeboatSet (enable : Bool) (f : Fallback) : Fallback :=
  let f := { f with lifeboatEnabled := enable }
  if !enable then fbAdvStop { f with advStartDeferred := false }
  else if !f.connected && f.advReady && f.stackReady then blePost f
  else { f with advStartDeferred := true }

/-- `fb_watchdog_start_if_needed`: creates and starts the timer, once. -/
def fbWatchdogStartIfNeeded (f : Fallback) : Fallback :=
  { f with advWatch := some (f.advWatch.getD true) }

/-- `fb_watchdog_stop`. -/
def fbWatchdogStop (f : Fallback) : Fallback := { f with advWatch := f.advWatch.map fun _ => false }

/-- `ble_fallback_init`. -/
def bleFallbackInit (f : Fallback) : Fallback :=
  if f.stackReady then f
  else
    fbWatchdogStartIfNeeded
      { f with
        bleQ := some (f.bleQ.getD 0)
        stackReady := true
        advReady := false
        advStartDeferred := false
        connected := false
        advRunning := false
        advCfg := false
        scanRspCfg := false
        requests := f.requests ++ [.configAdv, .configScanRsp] }

/-- `ble_fallback_stop`. -/
def bleFallbackStop (f : Fallback) : Fallback :=
  { fbWatchdogStop (fbAdvStop f) with
    connected := false
    advRunning := false
    advStartDeferred := false }

/-- `ble_set_connected`. -/
def bleSetConnected (on : Bool) (f : Fallback) : Fallback :=
  let f := { f with connected := on }
  if !on && f.lifeboatEnabled then
    if f.advReady && f.stackReady then blePost f else { f with advStartDeferred := true }
  else f

/-! ## What they leave alone -/

section
variable (f : Fallback)

@[simp, grind =] theorem stackReady_blePost : (blePost f).stackReady = f.stackReady := rfl

@[simp, grind =] theorem advReady_blePost : (blePost f).advReady = f.advReady := rfl

@[simp, grind =] theorem advRunning_blePost : (blePost f).advRunning = f.advRunning := rfl

@[simp, grind =] theorem connected_blePost : (blePost f).connected = f.connected := rfl

@[simp, grind =] theorem lifeboatEnabled_blePost :
    (blePost f).lifeboatEnabled = f.lifeboatEnabled := rfl

@[simp, grind =] theorem advCfg_blePost : (blePost f).advCfg = f.advCfg := rfl

@[simp, grind =] theorem scanRspCfg_blePost : (blePost f).scanRspCfg = f.scanRspCfg := rfl

@[simp, grind =] theorem advWatch_blePost : (blePost f).advWatch = f.advWatch := rfl

@[simp, grind =] theorem bleQ_blePost_eq_none : (blePost f).bleQ = none ↔ f.bleQ = none := by
  simp [blePost]

/-- After a post to a queue there is a kick in it: it took the kick or was full. -/
theorem kicks_blePost {f : Fallback} (h : f.bleQ ≠ none) : 0 < (blePost f).bleQ.getD 0 := by
  obtain ⟨n, hn⟩ := Option.ne_none_iff_exists'.mp h
  simp only [blePost, hn, Option.map_some, Option.getD_some]
  split
  · omega
  · next hfull => unfold bleQueueDepth at hfull; omega

@[simp, grind =] theorem stackReady_fbAdvStop : (fbAdvStop f).stackReady = f.stackReady := by
  unfold fbAdvStop; split <;> rfl

@[simp, grind =] theorem advReady_fbAdvStop : (fbAdvStop f).advReady = f.advReady := by
  unfold fbAdvStop; split <;> rfl

@[simp, grind =] theorem advRunning_fbAdvStop : (fbAdvStop f).advRunning = f.advRunning := by
  unfold fbAdvStop; split <;> rfl

@[simp, grind =] theorem connected_fbAdvStop : (fbAdvStop f).connected = f.connected := by
  unfold fbAdvStop; split <;> rfl

@[simp, grind =] theorem lifeboatEnabled_fbAdvStop :
    (fbAdvStop f).lifeboatEnabled = f.lifeboatEnabled := by
  unfold fbAdvStop; split <;> rfl

@[simp, grind =] theorem advCfg_fbAdvStop : (fbAdvStop f).advCfg = f.advCfg := by
  unfold fbAdvStop; split <;> rfl

@[simp, grind =] theorem scanRspCfg_fbAdvStop : (fbAdvStop f).scanRspCfg = f.scanRspCfg := by
  unfold fbAdvStop; split <;> rfl

@[simp, grind =] theorem advWatch_fbAdvStop : (fbAdvStop f).advWatch = f.advWatch := by
  unfold fbAdvStop; split <;> rfl

@[simp, grind =] theorem bleQ_fbAdvStop : (fbAdvStop f).bleQ = f.bleQ := by
  unfold fbAdvStop; split <;> rfl

/-- A stopped watchdog does not run. -/
theorem advWatch_stop : (bleFallbackStop f).advWatch ≠ some true := by
  simp [bleFallbackStop, fbWatchdogStop]

end

@[simp] theorem lifeboatEnabled_lifeboatSet (b : Bool) (f : Fallback) :
    (bleLifeboatSet b f).lifeboatEnabled = b := by
  cases b
  · simp only [bleLifeboatSet, fbAdvStop, Bool.not_false, if_true]; split <;> rfl
  · simp only [bleLifeboatSet, Bool.not_true, Bool.false_eq_true, if_false]; split <;> rfl

@[simp] theorem lifeboatEnabled_stop (f : Fallback) :
    (bleFallbackStop f).lifeboatEnabled = f.lifeboatEnabled := by
  simp only [bleFallbackStop, fbWatchdogStop, fbAdvStop]; split <;> rfl

end RemoteControl
