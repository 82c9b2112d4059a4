import RemoteControl.Cmd.Router
import RemoteControl.Lib.Fifo

/-!
# What the bus makes of the commands (`cmd_bus.c`, `cmd_router.c`, `led.c`)

Any number of clients and links post to the bus; one task takes the messages and drives the LED and
the sampler. `BusBoard` adds the pin of the LED to `RouterWorld`, and two histories that are not in
the code: the messages the bus accepted, and those the router is done with. The bus is a queue with
one server (`Fifo.Ledger`). So, however the commands, the connections and the router interleave, the
LED and the sampler are set as if the accepted messages were run one after the other in the order of
acceptance, but for the last few (`bus_runs_in_order`).
-/

namespace RemoteControl

open CString

/-! ## The LED (`led.c`) -/

/-- `CONFIG_APP_LED_ACTIVE_HIGH`. -/
def configAppLedActiveHigh : Bool := true

/-- The level `led_on` gives the pin. -/
def ledOn : Bool := configAppLedActiveHigh

/-- The level `led_off` gives it. -/
def ledOff : Bool := !configAppLedActiveHigh

/-- The level `led_init` leaves it at. -/
def ledInit : Bool := !configAppLedActiveHigh

/-- What a message does to the pin. -/
def ledSwitch (m : BusMsg) : Option Bool :=
  match m.cmd with
  | .ledOn => some ledOn
  | .ledOff => some ledOff
  | .dhtQuery | .dhtStreamOn | .dhtStreamOff | .dhtState => none

/-- What it does to the sampler. -/
def dhtSwitch (m : BusMsg) (d : Dht) : Dht :=
  match m.cmd with
  | .dhtStreamOn => dhtSetStream true m.u32 d
  | .dhtStreamOff => dhtSetStream false 0 d
  | .ledOn | .ledOff | .dhtQuery | .dhtState => d

/-- The two together: what the router does with a message, but for its reply. -/
def busRun (b : Bool × Dht) (m : BusMsg) : Bool × Dht :=
  ((ledSwitch m).getD b.1, dhtSwitch m b.2)

/-! ## The bus, the router and the pin -/

/-- The message that an event makes the bus accept. -/
def RouterWorld.accepts (w : RouterWorld) : RouterEv → Option BusMsg
  | .tcpCommand i cmd u32 =>
    if w.clients[i]? = some .serving ∧ w.queue.length < cmdBusDepth then
      some ⟨cmd, .tcp i, u32, .tcp i⟩
    else none
  | .bleCommand n cmd u32 =>
    if n ∈ w.links ∧ w.queue.length < cmdBusDepth then some ⟨cmd, .ble, u32, .ble n⟩ else none
  | .accept | .tcpLeave _ | .tcpEnd _ | .bleConnect | .bleDisconnect _ | .bleNotify _ _ | .bleRead _
  | .bleStatus | .receive | .reply _ => none

/-- The message that an event finishes. -/
def RouterWorld.finishes (w : RouterWorld) : RouterEv → Option BusMsg
  | .reply _ => w.handling
  | _ => none

/-- The bus and the router, the pin, and the two histories. -/
structure BusBoard where
  router : RouterWorld
  pin : Bool
  accepted : List BusMsg
  done : List BusMsg

/-- After `led_init` and `cmd_router_start`. -/
def BusBoard.boot (d : Dht) : BusBoard := ⟨.boot d, ledInit, [], []⟩

/-- One step. -/
def BusBoard.step (w : BusBoard) (ev : RouterEv) : BusBoard where
  router := w.router.step ev
  pin := ((w.router.finishes ev).bind ledSwitch).getD w.pin
  accepted := w.accepted ++ (w.router.accepts ev).toList
  done := w.done ++ (w.router.finishes ev).toList

/-- The account of the bus. -/
def BusBoard.Ordered (d : Dht) (w : BusBoard) : Prop :=
  Fifo.Ledger cmdBusDepth busRun (ledInit, d) w.router.queue w.router.handling
    (w.pin, w.router.dht) w.accepted w.done

section
variable {d : Dht} {w : BusBoard}

/-- An event that neither posts nor is one of the router leaves the bus as it is. -/
theorem BusBoard.Ordered.frame (h : w.Ordered d) {ev : RouterEv}
    (haccepts : w.router.accepts ev = none) (hfinishes : w.router.finishes ev = none)
    (hqueue : (w.router.step ev).queue = w.router.queue)
    (hhandling : (w.router.step ev).handling = w.router.handling)
    (hdht : (w.router.step ev).dht = w.router.dht) : (w.step ev).Ordered d := by
  unfold BusBoard.Ordered BusBoard.step
  simp only [haccepts, hfinishes, hqueue, hhandling, hdht, Option.toList_none, List.append_nil,
    Option.bind_none, Option.getD_none]
  exact h

/-- A message that is posted is accepted where there is room. -/
theorem BusBoard.Ordered.post (h : w.Ordered d) {ev : RouterEv} {m : BusMsg}
    (hstep : w.router.step ev = w.router.send m)
    (haccepts : w.router.accepts ev = if w.router.queue.length < cmdBusDepth then some m else none)
    (hfinishes : w.router.finishes ev = none) : (w.step ev).Ordered d := by
  by_cases hroom : w.router.queue.length < cmdBusDepth
  · unfold BusBoard.Ordered BusBoard.step
    rw [if_pos hroom] at haccepts
    simp only [hstep, haccepts, hfinishes, RouterWorld.send, if_pos hroom, Option.toList_some,
      Option.toList_none, List.append_nil, Option.bind_none, Option.getD_none]
    exact Fifo.Ledger.offer h hroom m
  · rw [if_neg hroom] at haccepts
    have hsend : w.router.send m = w.router := if_neg hroom
    refine h.frame haccepts hfinishes ?_ ?_ ?_ <;> rw [hstep, hsend]

/-- **The step lemma.** -/
theorem BusBoard.Ordered.step (h : w.Ordered d) (ev : RouterEv) : (w.step ev).Ordered d := by
  cases ev with
  | accept | bleConnect | bleStatus => exact h.frame rfl rfl rfl rfl rfl
  | tcpCommand i cmd u32 =>
    by_cases hi : w.router.clients[i]? = some .serving
    · refine h.post (m := ⟨cmd, .tcp i, u32, .tcp i⟩) ?_ ?_ rfl
      · rw [RouterWorld.step, if_pos hi]
      · simp only [RouterWorld.accepts, hi, true_and]
    · have hstep : w.router.step (.tcpCommand i cmd u32) = w.router := if_neg hi
      refine h.frame ?_ rfl ?_ ?_ ?_
      · exact if_neg fun hand => hi hand.1
      · rw [hstep]
      · rw [hstep]
      · rw [hstep]
  | bleCommand n cmd u32 =>
    by_cases hn : n ∈ w.router.links
    · refine h.post (m := ⟨cmd, .ble, u32, .ble n⟩) ?_ ?_ rfl
      · rw [RouterWorld.step, if_pos hn]
      · simp only [RouterWorld.accepts, hn, true_and]
    · have hstep : w.router.step (.bleCommand n cmd u32) = w.router := if_neg hn
      refine h.frame ?_ rfl ?_ ?_ ?_
      · exact if_neg fun hand => hn hand.1
      · rw [hstep]
      · rw [hstep]
      · rw [hstep]
  | tcpLeave i | tcpEnd i | bleDisconnect n | bleNotify n on | bleRead n =>
    refine h.frame rfl rfl ?_ ?_ ?_ <;> rw [RouterWorld.step] <;> split <;> rfl
  | receive =>
    cases hh : w.router.handling with
    | some m => refine h.frame rfl rfl ?_ ?_ ?_ <;> simp only [RouterWorld.step, hh]
    | none =>
      cases hq : w.router.queue with
      | nil => refine h.frame rfl rfl ?_ ?_ ?_ <;> simp only [RouterWorld.step, hh, hq]
      | cons m q =>
        unfold BusBoard.Ordered at h ⊢
        rw [hh, hq] at h
        simp only [BusBoard.step, RouterWorld.step, RouterWorld.accepts, RouterWorld.finishes, hh,
          hq, Option.toList_none, List.append_nil, Option.bind_none, Option.getD_none]
        exact h.take
  | reply s =>
    cases hh : w.router.handling with
    | none =>
      refine h.frame rfl ?_ ?_ ?_ ?_
      · exact hh
      · simp only [RouterWorld.step, hh]
      · simp only [RouterWorld.step, hh]
      · simp only [RouterWorld.step, hh]
    | some m =>
      have hdht : (cmdRouterRun s m.cmd m.u32 w.router.dht).2 = dhtSwitch m w.router.dht := by
        unfold cmdRouterRun dhtSwitch
        cases m.cmd <;> rfl
      unfold BusBoard.Ordered at h ⊢
      rw [hh] at h
      simp only [BusBoard.step, RouterWorld.step, RouterWorld.cmdReply, RouterWorld.accepts,
        RouterWorld.finishes, hh, hdht, Option.toList_none, List.append_nil, Option.bind_some,
        Option.toList_some]
      exact h.finish

/-- The pin is what the last message for the LED made of it. -/
theorem pin_foldl (b : Bool × Dht) (ms : List BusMsg) :
    (ms.foldl busRun b).1 = ((ms.filterMap ledSwitch).getLast?).getD b.1 := by
  rw [← Fifo.foldl_overwrite ledSwitch b.1 ms]
  induction ms generalizing b with
  | nil => rfl
  | cons m ms ih => exact ih (busRun b m)

end

/-- **The bus runs the commands in order.** However connections, commands and the router interleave:
what the bus accepted is what the router is done with and what is pending, in this order; the LED
and the sampler are set as the messages that are done, run in this order, set them; and once nothing
is pending, the LED is as the last message for it that was accepted has put it. -/
theorem bus_runs_in_order (d : Dht) (evs : List RouterEv) :
    let w := Run.exec BusBoard.step (.boot d) evs
    w.accepted = w.done ++ w.router.pending ∧ w.router.queue.length ≤ cmdBusDepth ∧
      (w.pin, w.router.dht) = w.done.foldl busRun (ledInit, d) ∧
      (w.router.pending = [] →
        w.pin = ((w.accepted.filterMap ledSwitch).getLast?).getD ledInit) := by
  intro w
  have hboot : (BusBoard.boot d).Ordered d := Fifo.Ledger.empty
  have h : w.Ordered d := Run.exec_inv hboot (fun _ ev h => h.step ev) evs
  refine ⟨h.order, h.bounded, h.state_eq, fun hnone => ?_⟩
  obtain ⟨hhandling, hqueue⟩ := List.append_eq_nil_iff.mp hnone
  rw [Option.toList_eq_nil_iff] at hhandling
  unfold BusBoard.Ordered at h
  rw [hhandling, hqueue] at h
  rw [← pin_foldl (ledInit, d), ← h.drained]

end RemoteControl
