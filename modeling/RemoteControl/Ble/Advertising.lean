import RemoteControl.Ble.Fallback
import RemoteControl.Lib.Run

/-!
# Advertising (`fb_gap.c`, `fb_worker.c`, `fb_core.c`)

The BLE fallback together with what it cannot see: whether the radio advertises, which start and
stop requests the stack has accepted and not acknowledged yet, and how many GATT links are up. A
step is one call of the fallback, one GAP or GATT event, one kick taken by `ble_worker`, or one tick
of the watchdog timer, in any order; a mode switch is the calls it makes.

The stack may refuse a request, and acknowledges the accepted ones in their order, each with a
status of its own; an acknowledged start or stop takes effect with its event, unless the status says
that it failed. A central connects to a radio that advertises, which then stops without an event.
-/

namespace RemoteControl

/-! ## The functions -/

/-- `ble_start_advertising`. -/
def bleStartAdvertising (f : Fallback) : Fallback :=
  if !f.lifeboatEnabled then f
  else if !f.advReady || !f.stackReady then { f with advStartDeferred := true }
  else blePost f

/-- What `esp_ble_gap_start_advertising` returns: accepted, `ESP_ERR_INVALID_STATE`, or another
error. -/
inductive StartRes where
  | ok
  | invalidState
  | error
  deriving DecidableEq, Repr

/-- The stack's answers to one call of `fb_adv_kick`: to the first start, and, after
`ESP_ERR_INVALID_STATE`, whether it accepts the stop and the second start. -/
structure KickAnswers where
  start : StartRes
  stop : Bool
  restart : Bool
  deriving DecidableEq, Repr

/-- A request that the stack has accepted. -/
inductive AdvRequest where
  | start
  | stop
  deriving DecidableEq, Repr

/-- The requests of a kick that the stack accepts. -/
def KickAnswers.accepted (a : KickAnswers) : List AdvRequest :=
  match a.start with
  | .ok => [.start]
  | .invalidState => (if a.stop then [.stop] else []) ++ if a.restart then [.start] else []
  | .error => []

/-- A call of `fb_adv_kick` reaches `esp_ble_gap_start_advertising`. -/
def Fallback.mayStart (f : Fallback) : Bool :=
  f.lifeboatEnabled && f.stackReady && f.advReady && !f.connected

/-- `fb_adv_kick`, with the requests that the stack accepts. -/
def fbAdvKick (a : KickAnswers) (f : Fallback) : Fallback × List AdvRequest :=
  if !f.lifeboatEnabled then (f, [])
  else if !f.stackReady || !f.advReady then ({ f with advStartDeferred := true }, [])
  else if f.connected then (f, [])
  else
    let calls : List GapRequest :=
      match a.start with
      | .ok | .error => [.startAdv]
      | .invalidState => [.startAdv, .stopAdv, .startAdv]
    ({ f with requests := f.requests ++ calls }, a.accepted)

/-- A kick changes none of the flags but `s_adv_start_deferred`, neither the timer nor the queue. -/
theorem fbAdvKick_frame (a : KickAnswers) (f : Fallback) :
    (fbAdvKick a f).1 = { f with
      advStartDeferred := (fbAdvKick a f).1.advStartDeferred
      requests := (fbAdvKick a f).1.requests } := by
  unfold fbAdvKick
  split
  · rfl
  · split
    · rfl
    · split <;> rfl

/-- A kick asks for a start exactly when it may. -/
theorem accepted_fbAdvKick (a : KickAnswers) (f : Fallback) :
    (fbAdvKick a f).2 = if f.mayStart then a.accepted else [] := by
  unfold fbAdvKick Fallback.mayStart
  cases f.lifeboatEnabled <;> cases f.stackReady <;> cases f.advReady <;> cases f.connected <;> rfl

/-- The condition of `adv_watch_cb`. -/
def Fallback.idleOnAir (f : Fallback) : Bool :=
  f.lifeboatEnabled && !f.connected && f.advReady && f.stackReady && !f.advRunning

/-- `adv_watch_cb`. -/
def advWatchCb (f : Fallback) : Fallback := if f.idleOnAir then blePost f else f

/-- The GAP events `fb_gap_evt` tells apart, with whether their status is a success. The status of
`ADV_STOP_COMPLETE` is not looked at. -/
inductive GapEvt where
  | advDataSet (ok : Bool)
  | scanRspDataSet (ok : Bool)
  | advStartComplete (ok : Bool)
  | advStopComplete
  | secReq
  | other
  deriving DecidableEq, Repr

/-- The end of `fb_gap_evt`: once both payloads are configured, a deferred start is honoured. -/
def fbPayloadsReady (f : Fallback) : Fallback :=
  if f.advCfg && f.scanRspCfg then
    if !f.advReady then
      let f := { f with advReady := true }
      if f.advStartDeferred then blePost { f with advStartDeferred := false } else f
    else f
  else f

/-- `fb_gap_evt`. -/
def fbGapEvt (ev : GapEvt) (f : Fallback) : Fallback :=
  fbPayloadsReady <|
    match ev with
    | .advDataSet ok => if ok then { f with advCfg := true } else f
    | .scanRspDataSet ok => if ok then { f with scanRspCfg := true } else f
    | .advStartComplete ok => { f with advRunning := ok }
    | .advStopComplete =>
      let f := { f with advRunning := false }
      if f.lifeboatEnabled && !f.connected && f.advReady && f.stackReady then blePost f else f
    | .secReq | .other => f

/-- Payloads that were ready are no news. -/
theorem fbPayloadsReady_eq {f : Fallback}
    (h : f.advCfg = true → f.scanRspCfg = true → f.advReady = true) : fbPayloadsReady f = f := by
  unfold fbPayloadsReady
  split
  · split
    · next hboth hready => simp_all
    · rfl
  · rfl

/-! ## The fallback and the radio -/

/-- The fallback, the radio, the accepted requests that have not been acknowledged, oldest first,
and the GATT links. -/
structure Adv where
  fb : Fallback
  advertising : Bool
  outstanding : List AdvRequest
  links : Nat
  deriving DecidableEq

/-- At boot. -/
def Adv.boot : Adv := ⟨.init, false, [], 0⟩

/-- The `BLE_EVT_ADV_KICK` in the queue. -/
def Adv.kicks (w : Adv) : Nat := w.fb.bleQ.getD 0

/-- What happens. `accepted` says whether the stack accepts the stop request, if one is made. -/
inductive AdvEv where
  | fallbackInit
  | fallbackStop (accepted : Bool)
  | lifeboatSet (enable accepted : Bool)
  | startAdvertising
  | connect
  | disconnect
  | payload (scanRsp ok : Bool)
  | complete (ok : Bool)
  | secReq
  | worker (a : KickAnswers)
  | watch
  deriving DecidableEq

/-- The stop request of `fb_adv_stop`, if it makes one and the stack accepts it. -/
def Fallback.stops (accepted : Bool) (f : Fallback) : List AdvRequest :=
  if f.advRunning && accepted then [.stop] else []

/-- One step. -/
def Adv.step (w : Adv) : AdvEv → Adv
  | .fallbackInit => { w with fb := bleFallbackInit w.fb }
  | .fallbackStop acc =>
    { w with fb := bleFallbackStop w.fb, outstanding := w.outstanding ++ w.fb.stops acc }
  | .lifeboatSet true _ => { w with fb := bleLifeboatSet true w.fb }
  | .lifeboatSet false acc =>
    { w with fb := bleLifeboatSet false w.fb, outstanding := w.outstanding ++ w.fb.stops acc }
  | .startAdvertising => { w with fb := bleStartAdvertising w.fb }
  | .connect =>
    if w.advertising then
      { w with fb := bleSetConnected true w.fb, advertising := false, links := w.links + 1 }
    else w
  | .disconnect =>
    if 0 < w.links then { w with fb := bleSetConnected false w.fb, links := w.links - 1 } else w
  | .payload scanRsp ok =>
    if w.fb.stackReady then
      { w with fb := fbGapEvt (if scanRsp then .scanRspDataSet ok else .advDataSet ok) w.fb }
    else w
  | .complete ok =>
    match w.outstanding with
    | [] => w
    | .start :: rest =>
      { w with
        fb := fbGapEvt (.advStartComplete ok) w.fb
        advertising := ok || w.advertising
        outstanding := rest }
    | .stop :: rest =>
      { w with
        fb := fbGapEvt .advStopComplete w.fb
        advertising := !ok && w.advertising
        outstanding := rest }
  | .secReq => if w.fb.stackReady then { w with fb := fbGapEvt .secReq w.fb } else w
  | .worker a =>
    match w.fb.bleQ with
    | some (n + 1) =>
      let (fb, accepted) := fbAdvKick a { w.fb with bleQ := some n }
      { w with fb := fb, outstanding := w.outstanding ++ accepted }
    | some 0 | none => w
  | .watch => if w.fb.advWatch = some true then { w with fb := advWatchCb w.fb } else w

/-! ## What holds in every order of events -/

/-- The flags agree with each other, `s_connected` is never set without a link, and nothing has
happened on the air before the payloads were ready. -/
structure Adv.Consistent (w : Adv) : Prop where
  ready : w.fb.advReady = true → w.fb.stackReady = true
  configured : w.fb.advCfg = true → w.fb.scanRspCfg = true → w.fb.advReady = true
  queue : w.fb.stackReady = true → w.fb.bleQ ≠ none
  connected : w.fb.connected = true → w.links ≠ 0
  unready : w.fb.advReady = false →
    w.fb.advRunning = false ∧ w.advertising = false ∧ w.outstanding = [] ∧ w.kicks = 0 ∧ w.links = 0

theorem adv_boot_consistent : Adv.boot.Consistent :=
  ⟨nofun, nofun, nofun, nofun, fun _ => ⟨rfl, rfl, rfl, rfl, rfl⟩⟩

section
variable {w : Adv}

/-- The first bring-up finds the air still; a later one does nothing. -/
theorem Adv.Consistent.fallbackInit (h : w.Consistent) : (w.step .fallbackInit).Consistent := by
  obtain ⟨hready, hcfg, hqueue, hconn, hstill⟩ := h
  constructor <;> grind [Adv.step, bleFallbackInit, fbWatchdogStartIfNeeded, Adv.kicks]

theorem Adv.Consistent.fallbackStop (h : w.Consistent) (acc : Bool) :
    (w.step (.fallbackStop acc)).Consistent := by
  obtain ⟨hready, hcfg, hqueue, hconn, hstill⟩ := h
  constructor <;> grind [Adv.step, bleFallbackStop, fbWatchdogStop, Fallback.stops, Adv.kicks]

theorem Adv.Consistent.lifeboatSet (h : w.Consistent) (enable acc : Bool) :
    (w.step (.lifeboatSet enable acc)).Consistent := by
  obtain ⟨hready, hcfg, hqueue, hconn, hstill⟩ := h
  cases enable <;> constructor <;>
    grind [Adv.step, bleLifeboatSet, Fallback.stops, Adv.kicks]

/-- The GATT server: it starts advertising, and links come and go. -/
theorem Adv.Consistent.gatts (h : w.Consistent) {ev : AdvEv}
    (hev : ev = .startAdvertising ∨ ev = .connect ∨ ev = .disconnect) :
    (w.step ev).Consistent := by
  obtain ⟨hready, hcfg, hqueue, hconn, hstill⟩ := h
  rcases hev with rfl | rfl | rfl
  · constructor <;> grind [Adv.step, bleStartAdvertising, Adv.kicks]
  · constructor <;> grind [Adv.step, bleSetConnected, Adv.kicks]
  · constructor <;> grind [Adv.step, bleSetConnected, Adv.kicks]

theorem Adv.Consistent.payload (h : w.Consistent) (scanRsp ok : Bool) :
    (w.step (.payload scanRsp ok)).Consistent := by
  obtain ⟨hready, hcfg, hqueue, hconn, hstill⟩ := h
  constructor <;> grind [Adv.step, fbGapEvt, fbPayloadsReady, Adv.kicks]

theorem Adv.Consistent.complete (h : w.Consistent) (ok : Bool) :
    (w.step (.complete ok)).Consistent := by
  obtain ⟨hready, hcfg, hqueue, hconn, hstill⟩ := h
  constructor <;> grind [Adv.step, fbGapEvt, fbPayloadsReady, Adv.kicks]

theorem Adv.Consistent.secReq (h : w.Consistent) : (w.step .secReq).Consistent := by
  obtain ⟨hready, hcfg, hqueue, hconn, hstill⟩ := h
  constructor <;> grind [Adv.step, fbGapEvt, fbPayloadsReady, Adv.kicks]

theorem Adv.Consistent.worker (h : w.Consistent) (a : KickAnswers) :
    (w.step (.worker a)).Consistent := by
  obtain ⟨hready, hcfg, hqueue, hconn, hstill⟩ := h
  constructor <;> grind [Adv.step, fbAdvKick, Adv.kicks]

theorem Adv.Consistent.watch (h : w.Consistent) : (w.step .watch).Consistent := by
  obtain ⟨hready, hcfg, hqueue, hconn, hstill⟩ := h
  constructor <;> grind [Adv.step, advWatchCb, Fallback.idleOnAir, Adv.kicks]

/-- **One step.** -/
theorem Adv.Consistent.step (h : w.Consistent) (ev : AdvEv) : (w.step ev).Consistent := by
  cases ev with
  | fallbackInit => exact h.fallbackInit
  | fallbackStop acc => exact h.fallbackStop acc
  | lifeboatSet enable acc => exact h.lifeboatSet enable acc
  | startAdvertising => exact h.gatts (.inl rfl)
  | connect => exact h.gatts (.inr (.inl rfl))
  | disconnect => exact h.gatts (.inr (.inr rfl))
  | payload scanRsp ok => exact h.payload scanRsp ok
  | complete ok => exact h.complete ok
  | secReq => exact h.secReq
  | worker a => exact h.worker a
  | watch => exact h.watch

end

end RemoteControl
