import RemoteControl.Lib.CString
import RemoteControl.Lib.Run
import RemoteControl.Sys.Firmware

/-!
# The command bus and its router (`cmd_bus.c`, `cmd_router.c`, `cmd_reply.c`)

Six commands are not answered by their handler: it posts a message to the bus, and the router task
replies later. The message carries a pointer to the context of the connection it came from. The
context of a TCP client is on the stack of its task and ends with it; there is one context for BLE,
which every link uses in turn. And a reply over BLE is not only sent to a link: it is stored in TX,
which any link can read. So whether a reply goes to the connection that asked is a matter of what
has happened while the message was queued, and of what happens until TX gets another text.

`RouterWorld` is the bus with the connections around it. The router is cut between
`cmd_bus_receive_msg` and `cmd_reply`. Who asked is not in the code: `conn` in a message is the
connection that the command came over, and `tx` names it beside the text. A second BLE link may come
up beside the first one.
-/

namespace RemoteControl

open CString

/-! ## Messages -/

/-- `cmd_t`, as far as it is sent. -/
inductive BusCmd where
  | ledOn
  | ledOff
  | dhtQuery
  | dhtStreamOn
  | dhtStreamOff
  | dhtState
  deriving DecidableEq, Repr

/-- A `cmd_ctx_t *`: into the stack of a client task, or the one of `g_ble_cli`. -/
inductive CtxRef where
  | tcp (i : Nat)
  | ble
  deriving DecidableEq

/-- `cmd_msg_t`. -/
structure BusMsg where
  cmd : BusCmd
  ctx : CtxRef
  u32 : Nat
  conn : ConnId
  deriving DecidableEq

/-- `CMD_BUS_DEPTH`. -/
def cmdBusDepth : Nat := 16

/-! ## The DHT sampler, as the router sees it -/

/-- The flag and the period of the sampler. -/
structure Dht where
  streamOn : Bool
  periodMs : Nat
  deriving DecidableEq, Repr

/-- What `dht_read_latest` gives. The driver makes its floats of whole numbers. -/
structure DhtSample where
  valid : Bool
  tempC : Nat
  rh : Nat
  ageMs : Nat
  deriving DecidableEq, Repr

/-- `dht_set_stream`. -/
def dhtSetStream (on : Bool) (everyMs : Nat) (d : Dht) : Dht :=
  ⟨on, if everyMs ≠ 0 then everyMs else d.periodMs⟩

/-- The reply to `DHT?`. -/
def dhtLine (s : DhtSample) : Bytes :=
  if !s.valid then lit "DHT NA\n"
  else
    (lit "DHT T=" ++ formatNat 10 s.tempC ++ lit ".0C RH=" ++ formatNat 10 s.rh ++ lit ".0% age=" ++
      formatNat 10 s.ageMs ++ lit " ms\n").take 63

/-- The reply to `DHTSTATE`. -/
def dhtStateLine (s : DhtSample) (d : Dht) : Bytes :=
  (lit "DHTSTATE stream=" ++ formatNat 10 d.streamOn.toNat ++ lit " interval=" ++
    formatNat 10 d.periodMs ++ lit " valid=" ++ formatNat 10 s.valid.toNat ++ lit " age=" ++
    formatNat 10 s.ageMs ++ lit " ms\n").take 95

/-- A `switch` of `cmd_router_task`: the text it replies with, and the sampler. -/
def cmdRouterRun (s : DhtSample) (cmd : BusCmd) (u32 : Nat) (d : Dht) : Bytes × Dht :=
  match cmd with
  | .ledOn => (lit "LED_ON\n", d)
  | .ledOff => (lit "LED_OFF\n", d)
  | .dhtQuery => (dhtLine s, d)
  | .dhtStreamOn => (lit "DHTSTREAM ON\n", dhtSetStream true u32 d)
  | .dhtStreamOff => (lit "DHTSTREAM OFF\n", dhtSetStream false 0 d)
  | .dhtState => (dhtStateLine s d, d)

/-! ## The connections around the bus -/

/-- A client task: it serves its socket; it has cleared `ctx.write` and is closing; or it is gone,
and its stack with it. -/
inductive ClientLife where
  | serving
  | closing
  | gone
  deriving DecidableEq, Repr

/-- The bus, the message the router holds, and the connections. -/
structure RouterWorld where
  queue : List BusMsg
  handling : Option BusMsg
  dht : Dht
  clients : List ClientLife
  /-- The BLE links that are up, by number. -/
  links : List Nat
  bleCount : Nat
  /-- `g_conn_id`; `none` for 0xFFFF. -/
  connId : Option Nat
  /-- `tx_notify_enabled`. -/
  txNotify : Bool
  /-- `ctx.write` of the BLE context is set. -/
  bleWrite : Bool
  /-- The reply of the router that TX holds, and who asked for it; `none` for any other text. -/
  tx : Option (ConnId × Bytes)
  /-- A text has been stored in TX since the last link came up. -/
  txStored : Bool
  /-- What has been delivered of the router's replies, and to which connection: what was sent to it,
  and what it has read. -/
  delivered : List (ConnId × Bytes)

/-- At boot. -/
def RouterWorld.boot (d : Dht) : RouterWorld where
  queue := []
  handling := none
  dht := d
  clients := []
  links := []
  bleCount := 0
  connId := none
  txNotify := false
  bleWrite := false
  tx := none
  txStored := false
  delivered := []

/-- The messages that the router has not replied to yet. -/
def RouterWorld.pending (w : RouterWorld) : List BusMsg := w.handling.toList ++ w.queue

/-- `cmd_bus_send_msg`; what does not fit is answered with `BUS_FULL` at once. -/
def RouterWorld.send (m : BusMsg) (w : RouterWorld) : RouterWorld :=
  if w.queue.length < cmdBusDepth then { w with queue := w.queue ++ [m] } else w

/-- The memory a context pointer points to is still that context. -/
def RouterWorld.Live (w : RouterWorld) : CtxRef → Prop
  | .tcp i => ∃ c ∈ w.clients[i]?, c ≠ .gone
  | .ble => True

/-- Where the bytes of a `cmd_reply` through a context are sent, if they are. -/
def RouterWorld.reach (w : RouterWorld) : CtxRef → Option ConnId
  | .tcp i => if w.clients[i]? = some .serving then some (.tcp i) else none
  | .ble => if w.bleWrite && w.txNotify then w.connId.map .ble else none

/-- A `cmd_reply` through the context stores its text in TX: `gatt_server_send_status` does so
before it looks at `tx_notify_enabled` and `g_conn_id`. The callback is set once a link has come up,
and then there is an attribute. -/
def RouterWorld.stores (w : RouterWorld) : CtxRef → Bool
  | .tcp _ => false
  | .ble => w.bleWrite

/-- A text as TX holds it: `ble_cmd_write_cb` takes one line end off. -/
def bleTxText (text : Bytes) : Bytes := if text.getLast? = some 10 then text.dropLast else text

/-- `cmd_reply` to the context of a message. -/
def RouterWorld.cmdReply (m : BusMsg) (text : Bytes) (w : RouterWorld) : RouterWorld :=
  { w with
    tx := if w.stores m.ctx then some (m.conn, bleTxText text) else w.tx
    txStored := w.txStored || w.stores m.ctx
    delivered := w.delivered ++ (w.reach m.ctx).toList.map (·, text) }

/-- What happens: connections come, ask and go, a link turns the notifications of TX on or off or
reads TX, TX gets a text that is not of the router (`bleStatus`), and the router takes a message and
replies to it. -/
inductive RouterEv where
  | accept
  | tcpCommand (i : Nat) (cmd : BusCmd) (u32 : Nat)
  | tcpLeave (i : Nat)
  | tcpEnd (i : Nat)
  | bleConnect
  | bleDisconnect (n : Nat)
  | bleNotify (n : Nat) (on : Bool)
  | bleCommand (n : Nat) (cmd : BusCmd) (u32 : Nat)
  | bleRead (n : Nat)
  | bleStatus
  | receive
  | reply (s : DhtSample)
  deriving DecidableEq

/-- One step. -/
def RouterWorld.step (w : RouterWorld) : RouterEv → RouterWorld
  | .accept => { w with clients := w.clients ++ [.serving] }
  | .tcpCommand i cmd u32 =>
    if w.clients[i]? = some .serving then w.send ⟨cmd, .tcp i, u32, .tcp i⟩ else w
  | .tcpLeave i =>
    if w.clients[i]? = some .serving then { w with clients := w.clients.set i .closing } else w
  | .tcpEnd i =>
    if w.clients[i]? = some .closing then { w with clients := w.clients.set i .gone } else w
  | .bleConnect =>
    { w with
      links := w.links ++ [w.bleCount]
      bleCount := w.bleCount + 1
      connId := some w.bleCount
      txNotify := false
      bleWrite := true
      txStored := false }
  | .bleDisconnect n =>
    if n ∈ w.links then
      { w with links := w.links.erase n, connId := none, txNotify := false }
    else w
  | .bleNotify n on => if n ∈ w.links then { w with txNotify := on } else w
  | .bleCommand n cmd u32 => if n ∈ w.links then w.send ⟨cmd, .ble, u32, .ble n⟩ else w
  | .bleRead n =>
    if n ∈ w.links then
      { w with delivered := w.delivered ++ w.tx.toList.map fun r => (.ble n, r.2) }
    else w
  | .bleStatus => { w with tx := none, txStored := true }
  | .receive =>
    match w.handling, w.queue with
    | none, m :: q => { w with handling := some m, queue := q }
    | _, _ => w
  | .reply s =>
    match w.handling with
    | none => w
    | some m =>
      let (text, dht) := cmdRouterRun s m.cmd m.u32 w.dht
      { w with handling := none, dht := dht }.cmdReply m text

/-! ## Replies go to the connection that asked -/

/-- Who asked for the reply of which a step delivers something. -/
def RouterWorld.asker (w : RouterWorld) : RouterEv → Option ConnId
  | .reply _ => w.handling.map (·.conn)
  | .bleRead _ => w.tx.map (·.1)
  | _ => none

/-- When the router uses the context of a message, it is still there; and whatever a step delivers,
sent or read, it delivers to the connection that asked. -/
def RouterWorld.UseOk (w : RouterWorld) (ev : RouterEv) : Prop :=
  (∀ s, ev = .reply s → ∀ m ∈ w.handling, w.Live m.ctx) ∧
    ∀ out ∈ (w.step ev).delivered.drop w.delivered.length, w.asker ev = some out.1

/-- No client task ends while a message of it is pending, and no BLE link comes up while one of BLE
is. While there is a link in `g_conn_id`, BLE commands come over it only; and only that link reads
TX, once something has been stored there since it came up. -/
def RouterWorld.LifetimeOk (w : RouterWorld) : RouterEv → Prop
  | .tcpEnd i => ∀ m ∈ w.pending, m.ctx ≠ .tcp i
  | .bleConnect => ∀ m ∈ w.pending, m.ctx ≠ .ble
  | .bleCommand n _ _ => ∀ k ∈ w.connId, n = k
  | .bleRead n => w.connId = some n ∧ w.txStored = true
  | _ => True

/-! ### The messages that are pending -/

variable {w : RouterWorld} {m m' : BusMsg}

@[simp] theorem RouterWorld.send_clients : (w.send m).clients = w.clients := by
  unfold RouterWorld.send; split <;> rfl

@[simp] theorem RouterWorld.send_connId : (w.send m).connId = w.connId := by
  unfold RouterWorld.send; split <;> rfl

@[simp] theorem RouterWorld.send_tx : (w.send m).tx = w.tx := by
  unfold RouterWorld.send; split <;> rfl

@[simp] theorem RouterWorld.send_txStored : (w.send m).txStored = w.txStored := by
  unfold RouterWorld.send; split <;> rfl

@[simp] theorem RouterWorld.send_delivered : (w.send m).delivered = w.delivered := by
  unfold RouterWorld.send; split <;> rfl

/-- Sending adds the message at most. -/
theorem RouterWorld.mem_pending_send (h : m' ∈ (w.send m).pending) : m' ∈ w.pending ∨ m' = m := by
  unfold RouterWorld.send at h
  split at h
  · simpa [RouterWorld.pending, or_assoc] using h
  · exact Or.inl h

/-- The router takes pending messages away, and nothing else. -/
theorem RouterWorld.mem_pending_router {ev : RouterEv} (hev : ev = .receive ∨ ∃ s, ev = .reply s)
    (h : m ∈ (w.step ev).pending) : m ∈ w.pending := by
  revert h
  rcases hev with rfl | ⟨s, rfl⟩
  · cases hh : w.handling <;> cases hq : w.queue <;>
      simp [RouterWorld.step, RouterWorld.pending, hh, hq]
  · cases hh : w.handling <;>
      simp +contextual [RouterWorld.step, RouterWorld.cmdReply, RouterWorld.pending, hh]

/-- What a step delivers: the reply to the message that the router holds, to where it is sent; or
the text of TX, to the link that reads it. -/
theorem RouterWorld.delivered_step {out : ConnId × Bytes} {ev : RouterEv}
    (h : out ∈ (w.step ev).delivered.drop w.delivered.length) :
    (∃ s, ev = .reply s ∧ ∃ m ∈ w.handling, w.reach m.ctx = some out.1) ∨
      ∃ n, ev = .bleRead n ∧ out.1 = .ble n ∧ ∃ r ∈ w.tx, out.2 = r.2 := by
  have hnone : ∀ {w' : RouterWorld}, w'.delivered = w.delivered →
      out ∉ w'.delivered.drop w.delivered.length := by
    intro w' heq hout
    rw [heq, List.drop_length] at hout
    exact absurd hout List.not_mem_nil
  cases ev with
  | reply s =>
    cases hm : w.handling with
    | none =>
      rw [RouterWorld.step, hm] at h
      exact absurd h (hnone rfl)
    | some m =>
      simp only [RouterWorld.step, hm, RouterWorld.cmdReply, List.drop_left, List.mem_map,
        Option.mem_toList] at h
      obtain ⟨c, hc, rfl⟩ := h
      exact .inl ⟨s, rfl, m, rfl, hc⟩
  | bleRead n =>
    simp only [RouterWorld.step] at h
    split at h
    · rw [List.drop_left, List.mem_map] at h
      obtain ⟨r, hr, rfl⟩ := h
      exact .inr ⟨n, rfl, rfl, r, Option.mem_toList.mp hr, rfl⟩
    · exact absurd h (hnone rfl)
  | accept | bleConnect | bleStatus => exact absurd h (hnone rfl)
  | tcpCommand i cmd u32 | bleCommand n cmd u32 =>
    refine absurd h (hnone ?_)
    simp only [RouterWorld.step]
    split
    · exact RouterWorld.send_delivered
    · rfl
  | tcpLeave i | tcpEnd i | bleDisconnect n | bleNotify n on | receive =>
    refine absurd h (hnone ?_)
    simp only [RouterWorld.step]
    split <;> rfl

/-! ### The invariant -/

/-- A pending message of a client task names that task, which is not gone. Where there is a link in
`g_conn_id`, the pending messages of BLE are from it, and so is what TX holds, if that has been
stored since the link came up. -/
structure RouterWorld.Inv (w : RouterWorld) : Prop where
  tcp : ∀ m ∈ w.pending, ∀ i, m.ctx = .tcp i → m.conn = .tcp i ∧ w.Live (.tcp i)
  ble : ∀ n ∈ w.connId, ∀ m ∈ w.pending, m.ctx = .ble → m.conn = .ble n
  tx : ∀ n ∈ w.connId, w.txStored = true → ∀ r ∈ w.tx, r.1 = .ble n

theorem RouterWorld.inv_boot (d : Dht) : (RouterWorld.boot d).Inv :=
  ⟨nofun, nofun, nofun⟩

/-- With other clients as alive as before, no other link in `g_conn_id` and no other text in TX, the
invariant stays. -/
theorem RouterWorld.Inv.frame {w' : RouterWorld} (h : w.Inv)
    (hpending : ∀ m ∈ w'.pending, m ∈ w.pending)
    (hlive : ∀ m ∈ w'.pending, ∀ i, m.ctx = .tcp i → w.Live (.tcp i) → w'.Live (.tcp i))
    (hconn : ∀ n ∈ w'.connId, n ∈ w.connId)
    (htx : w'.txStored = true → ∀ r ∈ w'.tx, w.txStored = true ∧ r ∈ w.tx) : w'.Inv where
  tcp m hm i hi :=
    have ⟨hfrom, hold⟩ := h.tcp m (hpending m hm) i hi
    ⟨hfrom, hlive m hm i hi hold⟩
  ble n hn m hm hctx := h.ble n (hconn n hn) m (hpending m hm) hctx
  tx n hn hstored r hr :=
    have ⟨hstored', hr'⟩ := htx hstored r hr
    h.tx n (hconn n hn) hstored' r hr'

/-- A message that its connection sends keeps the invariant. -/
theorem RouterWorld.Inv.send (h : w.Inv)
    (htcp : ∀ i, m.ctx = .tcp i → m.conn = .tcp i ∧ w.Live (.tcp i))
    (hble : ∀ n ∈ w.connId, m.ctx = .ble → m.conn = .ble n) : (w.send m).Inv where
  tcp m' hm' i hi := by
    have hlive : (w.send m).Live (.tcp i) ↔ w.Live (.tcp i) := by simp [RouterWorld.Live]
    rw [hlive]
    rcases RouterWorld.mem_pending_send hm' with hm' | rfl
    · exact h.tcp m' hm' i hi
    · exact htcp i hi
  ble n hn m' hm' hctx := by
    rw [RouterWorld.send_connId] at hn
    rcases RouterWorld.mem_pending_send hm' with hm' | rfl
    · exact h.ble n hn m' hm' hctx
    · exact hble n hn hctx
  tx n hn hstored r hr := by
    rw [RouterWorld.send_connId] at hn
    rw [RouterWorld.send_txStored] at hstored
    rw [RouterWorld.send_tx] at hr
    exact h.tx n hn hstored r hr

/-- A client task that has not ended after a step of another one is as alive as before. -/
theorem RouterWorld.Live.set {i j : Nat} {c : ClientLife} (h : w.Live (.tcp i))
    (hc : i = j → c ≠ .gone) :
    RouterWorld.Live { w with clients := w.clients.set j c } (.tcp i) := by
  obtain ⟨c', hc', hgone⟩ := h
  by_cases hij : i = j
  · refine ⟨c, ?_, hc hij⟩
    have hlt : j < w.clients.length := by
      have := (List.getElem?_eq_some_iff.mp hc').1
      omega
    simp [hij, hlt]
  · refine ⟨c', ?_, hgone⟩
    simpa [List.getElem?_set_ne (Ne.symm hij)] using hc'

/-- The reply to the message that the router holds keeps the invariant: what it stores in TX is of
the link in `g_conn_id`, like the message. -/
theorem RouterWorld.Inv.reply (h : w.Inv) (s : DhtSample) : (w.step (.reply s)).Inv := by
  cases hm : w.handling with
  | none =>
    have hstep : w.step (.reply s) = w := by simp only [RouterWorld.step, hm]
    rwa [hstep]
  | some m =>
    have hmem : m ∈ w.pending := by simp [RouterWorld.pending, hm]
    have hsub : ∀ m' ∈ (w.step (.reply s)).pending, m' ∈ w.pending := fun m' =>
      RouterWorld.mem_pending_router (.inr ⟨s, rfl⟩)
    have hclients : (w.step (.reply s)).clients = w.clients := by
      simp [RouterWorld.step, RouterWorld.cmdReply, hm]
    have hconn : (w.step (.reply s)).connId = w.connId := by
      simp [RouterWorld.step, RouterWorld.cmdReply, hm]
    refine ⟨fun m' hm' i hi => ?_, fun n hn m' hm' => ?_, fun n hn hstored r hr => ?_⟩
    · rw [RouterWorld.Live, hclients]
      exact h.tcp m' (hsub m' hm') i hi
    · exact h.ble n (hconn ▸ hn) m' (hsub m' hm')
    · rw [hconn] at hn
      simp only [RouterWorld.step, hm, RouterWorld.cmdReply] at hstored hr
      cases hctx : m.ctx with
      | tcp i =>
        simp only [hctx, RouterWorld.stores, Bool.or_false, Bool.false_eq_true, if_false]
          at hstored hr
        exact h.tx n hn hstored r hr
      | ble =>
        simp only [hctx, RouterWorld.stores] at hstored hr
        split at hr
        · cases hr
          exact h.ble n hn m hmem hctx
        · next hwrite => exact h.tx n hn (by simpa [hwrite] using hstored) r hr

/-- **The step lemma.** -/
theorem RouterWorld.Inv.step {ev : RouterEv} (h : w.Inv) (hok : w.LifetimeOk ev) :
    (w.step ev).Inv := by
  cases ev with
  | accept =>
    refine h.frame (fun m hm => hm) ?_ (fun _ hn => hn) fun hstored _ hr => ⟨hstored, hr⟩
    rintro m - i - ⟨c, hc, hgone⟩
    have hlt : i < w.clients.length := (List.getElem?_eq_some_iff.mp hc).1
    exact ⟨c, by simpa [RouterWorld.step, List.getElem?_append_left hlt] using hc, hgone⟩
  | tcpCommand i cmd u32 =>
    simp only [RouterWorld.step]
    split
    · next hi =>
      refine h.send ?_ nofun
      rintro _ ⟨⟩
      exact ⟨rfl, .serving, hi, nofun⟩
    · exact h
  | tcpLeave i =>
    simp only [RouterWorld.step]
    split
    · exact h.frame (fun m hm => hm) (fun m _ j _ hlive => hlive.set nofun) (fun _ hn => hn)
        fun hstored _ hr => ⟨hstored, hr⟩
    · exact h
  | tcpEnd i =>
    simp only [RouterWorld.step]
    split
    · refine h.frame (fun m hm => hm) ?_ (fun _ hn => hn) fun hstored _ hr => ⟨hstored, hr⟩
      intro m hm j hj hlive
      refine hlive.set fun hji => absurd ?_ (hok m hm)
      rw [hj, hji]
    · exact h
  | bleConnect =>
    -- no message of BLE is pending, and nothing has been stored since
    exact ⟨h.tcp, fun n _ m hm hctx => absurd hctx (hok m hm), nofun⟩
  | bleDisconnect n =>
    simp only [RouterWorld.step]
    split
    · exact ⟨h.tcp, nofun, nofun⟩
    · exact h
  | bleNotify n on =>
    simp only [RouterWorld.step]
    split
    · exact ⟨h.tcp, h.ble, h.tx⟩
    · exact h
  | bleCommand n cmd u32 =>
    simp only [RouterWorld.step]
    split
    · refine h.send nofun fun k hk _ => ?_
      rw [hok k hk]
    · exact h
  | bleRead n =>
    simp only [RouterWorld.step]
    split
    · exact ⟨h.tcp, h.ble, h.tx⟩
    · exact h
  | bleStatus => exact ⟨h.tcp, h.ble, nofun⟩
  | receive =>
    have hsub : ∀ m ∈ (w.step .receive).pending, m ∈ w.pending := fun m =>
      RouterWorld.mem_pending_router (.inl rfl)
    revert hsub
    simp only [RouterWorld.step]
    split
    · exact fun hsub => h.frame hsub (fun _ _ _ _ hlive => hlive) (fun _ hn => hn)
        fun hstored _ hr => ⟨hstored, hr⟩
    · exact fun _ => h
  | reply s => exact h.reply s

/-! ### The result -/

/-- Where the router sends the reply to a pending message is the connection that asked. -/
theorem RouterWorld.Inv.reach_eq (h : w.Inv) (hm : m ∈ w.pending) {c : ConnId}
    (hc : w.reach m.ctx = some c) : m.conn = c := by
  cases hctx : m.ctx with
  | tcp i =>
    rw [hctx, RouterWorld.reach] at hc
    split at hc
    · cases hc
      exact (h.tcp m hm i hctx).1
    · cases hc
  | ble =>
    rw [hctx, RouterWorld.reach] at hc
    split at hc
    · obtain ⟨n, hn, rfl⟩ := Option.map_eq_some_iff.mp hc
      exact h.ble n hn m hm hctx
    · cases hc

/-- On the invariant, the use of a context and what is delivered are what they should be. -/
theorem RouterWorld.Inv.useOk {ev : RouterEv} (h : w.Inv) (hok : w.LifetimeOk ev) : w.UseOk ev := by
  have hmem : ∀ m ∈ w.handling, m ∈ w.pending := fun m hm =>
    List.mem_append_left _ (Option.mem_toList.mpr hm)
  constructor
  · rintro s rfl m hm
    cases hctx : m.ctx with
    | tcp i => exact (h.tcp m (hmem m hm) i hctx).2
    | ble => trivial
  · intro out hout
    rcases RouterWorld.delivered_step hout with ⟨s, rfl, m, hm, hc⟩ | ⟨n, rfl, hn, r, hr, -⟩
    · rw [RouterWorld.asker, hm, Option.map_some, h.reach_eq (hmem m hm) hc]
    · obtain ⟨hconn, hstored⟩ := hok
      rw [RouterWorld.asker, hr, Option.map_some, h.tx n hconn hstored r hr, hn]

/-- In a run whose steps all meet `LifetimeOk`, every reply of the router goes to the connection
that asked, through a context that is still there. -/
theorem replies_to_asker (d : Dht) (evs : List RouterEv)
    (hok : Run.Along RouterWorld.step RouterWorld.LifetimeOk (.boot d) evs) :
    Run.Along RouterWorld.step RouterWorld.UseOk (.boot d) evs :=
  hok.mono (RouterWorld.inv_boot d) (fun _ _ h hok => h.step hok) fun _ _ h hok => h.useOk hok

instance (w : RouterWorld) (c : CtxRef) : Decidable (w.Live c) :=
  match c with
  | .tcp i => decidable_of_iff ((w.clients[i]?).any (· ≠ .gone)) (by
      cases h : w.clients[i]? <;> simp [RouterWorld.Live, h])
  | .ble => isTrue trivial

instance (w : RouterWorld) (ev : RouterEv) : Decidable (w.LifetimeOk ev) := by
  cases ev <;> unfold RouterWorld.LifetimeOk <;> infer_instance

/-- A client and a BLE link ask, each while the message of the other one is pending, get their
replies and leave; the next link asks and reads the reply. -/
def orderlyAskers : List RouterEv :=
  [.accept, .bleConnect, .bleNotify 0 true, .tcpCommand 0 .ledOn 0, .bleCommand 0 .ledOff 0,
    .receive, .reply ⟨false, 0, 0, 0⟩, .tcpLeave 0, .tcpEnd 0, .receive, .reply ⟨false, 0, 0, 0⟩,
    .bleDisconnect 0, .bleConnect, .bleCommand 1 .dhtStreamOn 500, .receive,
    .reply ⟨false, 0, 0, 0⟩, .bleRead 1]

theorem replies_to_asker_orderly :
    Run.Along RouterWorld.step RouterWorld.LifetimeOk (.boot ⟨false, 1000⟩) orderlyAskers ∧
      Run.Along RouterWorld.step RouterWorld.UseOk (.boot ⟨false, 1000⟩) orderlyAskers ∧
      (Run.exec RouterWorld.step (.boot ⟨false, 1000⟩) orderlyAskers).delivered =
        [(.tcp 0, lit "LED_ON\n"), (.ble 0, lit "LED_OFF\n"), (.ble 1, lit "DHTSTREAM ON")] :=
  have hok :
      Run.Along RouterWorld.step RouterWorld.LifetimeOk (.boot ⟨false, 1000⟩) orderlyAskers := by
    decide
  ⟨hok, replies_to_asker _ _ hok, by decide⟩

/-- A client asks and closes its socket before the router takes the message. -/
def clientGone : List RouterEv :=
  [.accept, .tcpCommand 0 .ledOn 0, .tcpLeave 0, .tcpEnd 0, .receive, .reply ⟨false, 0, 0, 0⟩]

/-- A link asks and is lost, and another one comes and enables notifications before the router
takes the message. -/
def linkReplaced : List RouterEv :=
  [.bleConnect, .bleCommand 0 .ledOn 0, .bleDisconnect 0, .bleConnect, .bleNotify 1 true,
    .receive, .reply ⟨false, 0, 0, 0⟩]

/-- A link asks and gets its reply, and the next one reads TX. -/
def replyLeft : List RouterEv :=
  [.bleConnect, .bleNotify 0 true, .bleCommand 0 .dhtQuery 0, .receive, .reply ⟨true, 21, 40, 0⟩,
    .bleDisconnect 0, .bleConnect, .bleRead 1]

/-- The router replies through the context of a client that is gone; it sends a link the reply to
the command of another one; and a link reads the reply to the command of another one. -/
theorem replies_not_to_asker :
    (∃ w : RouterWorld, w = Run.exec RouterWorld.step (.boot ⟨false, 1000⟩) clientGone.dropLast ∧
      w.handling = some ⟨.ledOn, .tcp 0, 0, .tcp 0⟩ ∧ ¬ w.Live (.tcp 0)) ∧
    (∃ w : RouterWorld, w = Run.exec RouterWorld.step (.boot ⟨false, 1000⟩) linkReplaced.dropLast ∧
      w.handling = some ⟨.ledOn, .ble, 0, .ble 0⟩ ∧
      (w.step (.reply ⟨false, 0, 0, 0⟩)).delivered = w.delivered ++ [(.ble 1, lit "LED_ON\n")]) ∧
    (∃ w : RouterWorld, w = Run.exec RouterWorld.step (.boot ⟨false, 1000⟩) replyLeft.dropLast ∧
      w.asker (.bleRead 1) = some (.ble 0) ∧ (w.step (.bleRead 1)).delivered =
        w.delivered ++ [(.ble 1, lit "DHT T=21.0C RH=40.0% age=0 ms")]) ∧
    ¬ Run.Along RouterWorld.step RouterWorld.UseOk (.boot ⟨false, 1000⟩) clientGone ∧
    ¬ Run.Along RouterWorld.step RouterWorld.UseOk (.boot ⟨false, 1000⟩) linkReplaced ∧
    ¬ Run.Along RouterWorld.step RouterWorld.UseOk (.boot ⟨false, 1000⟩) replyLeft := by
  refine ⟨⟨_, rfl, by decide⟩, ⟨_, rfl, by decide⟩, ⟨_, rfl, by decide⟩, ?_, ?_, ?_⟩
  · intro h
    have hlive := h.2.2.2.2.2.1.1 _ rfl ⟨.ledOn, .tcp 0, 0, .tcp 0⟩ rfl
    revert hlive
    decide
  · intro h
    have hasker := h.2.2.2.2.2.2.1.2 (.ble 1, lit "LED_ON\n") (by decide)
    revert hasker
    decide
  · intro h
    have hasker := h.2.2.2.2.2.2.2.1.2 (.ble 1, lit "DHT T=21.0C RH=40.0% age=0 ms") (by decide)
    revert hasker
    decide

end RemoteControl
