import RemoteControl.Cmd.Replies

/-!
# Requests and replies over TCP (`app/tcp_client.py`, `tcp_client.c`, `cmd_router.c`)

On the host, `send_line` and `send_ping` send a line and read one. On the device a line is answered
by its handler or, later, by the router (`RemoteControl.Cmd.Replies`). `Exchange` is one connection
with both ends of it, the bus and the statics; the other connections, Wi-Fi and the router are steps
between those of the host. The connection stays up and no call of the host times out.

The replies are numbered by the call they answer, and `owed` are the calls whose message is on the
bus: these two are not in the code. The bus is FIFO, so the first of `owed` is answered first.
-/

namespace RemoteControl

open CString

/-! ## The host -/

/-- `bytes.decode(errors="ignore")`; the number says how many bytes belong to the last character. -/
def pyDecode : Nat → Bytes → List Char
  | _, [] => []
  | skip + 1, _ :: bs => pyDecode skip bs
  | 0, b :: bs =>
    match ByteArray.utf8DecodeChar? ⟨(b :: bs).toArray⟩ 0 with
    | some c => c :: pyDecode (c.utf8Size - 1) bs
    | none => pyDecode 0 bs

/-- `str.isspace` of one character. -/
def pyIsSpace (c : Char) : Bool :=
  let n := c.toNat
  (9 ≤ n && n ≤ 13) || (28 ≤ n && n ≤ 32) || n = 0x85 || n = 0xA0 || n = 0x1680 ||
    (0x2000 ≤ n && n ≤ 0x200A) || n = 0x2028 || n = 0x2029 || n = 0x202F || n = 0x205F || n = 0x3000

/-- `str.strip`. -/
def pyStrip (s : List Char) : List Char := (s.dropWhile pyIsSpace).rdropWhile pyIsSpace

/-- What `_recvline` returns of the bytes it has collected. -/
def pyText (data : Bytes) : List Char := pyStrip (pyDecode 0 data)

/-- `maxlen` of `_recvline`. -/
def recvlineMax : Nat := 512

/-- The loop of `_recvline` with room for `n` bytes: what it collects and what it leaves; `none`
while it waits. -/
def recvLine : Nat → Bytes → Option (Bytes × Bytes)
  | 0, rx => some ([], rx)
  | _ + 1, [] => none
  | n + 1, b :: rx =>
    if b = 10 then some ([], rx)
    else if b = 13 then recvLine (n + 1) rx
    else (recvLine n rx).map fun r => (b :: r.1, r.2)

/-- A command line of the host: not empty, and for the device no OTA command. -/
structure HostLine where
  text : Bytes
  nonempty : text ≠ []
  noLineEnd : 10 ∉ text
  notOta : NotOta (lineFill id [] text)

/-- A call on the host. -/
inductive HostCall where
  | sendLine (line : HostLine)
  | sendPing

/-- What a call returns. -/
inductive HostValue where
  | reply (text : List Char)
  | alive (ok : Bool)
  deriving DecidableEq

/-- The line it sends. -/
def HostCall.line : HostCall → Bytes
  | .sendLine line => line.text
  | .sendPing => lit "PING"

/-- What it makes of the line it has read. `upper` agrees with that of ASCII on the letters of
`PONG`. -/
def HostCall.returns (text : List Char) : HostCall → HostValue
  | .sendLine _ => .reply text
  | .sendPing => .alive (text.map Char.toUpper = "PONG".toList)

/-! ## The exchange -/

/-- A connection with its two ends. -/
structure Exchange where
  /-- `cmd_bus_is_ready`. -/
  ready : Bool
  /-- The number of the client task. -/
  me : Nat
  /-- `ctx.authed`. -/
  authed : Bool
  state : CmdState
  router : RouterWorld
  owed : List Nat
  replies : List (Nat × Bytes)
  /-- What the device has sent and the host has not read. -/
  rx : Bytes
  calls : List HostCall
  returned : List HostValue

/-- The event is one of the task of client `me`, outside its commands. -/
def RouterEv.isOf (me : Nat) : RouterEv → Bool
  | .tcpCommand i _ _ | .tcpLeave i | .tcpEnd i => i == me
  | _ => false

/-- The numbers of the event are of their types. -/
def RouterEv.Fits : RouterEv → Prop
  | .tcpCommand _ _ u32 | .bleCommand _ _ u32 => u32 < 2 ^ 32
  | .reply s => s.Fits
  | _ => True

/-- An event around the bus. -/
structure BusEv where
  ev : RouterEv
  fits : ev.Fits

/-- What happens: a call on the host, which reaches the device; the end of the read in it; an event
around the bus; one of the control plane; or a line on another connection. -/
inductive ExchangeEv where
  | call (c : HostCall) (x : CmdAnswers) (v : ImageAnswers)
  | read
  | bus (b : BusEv)
  | control (i : ControlIn)
  | other (x : CmdAnswers) (xport : CmdXport) (line : Bytes) (authed : Bool)

/-- A reply to call `n` goes out. -/
def Exchange.emit (n : Nat) (text : Bytes) (w : Exchange) : Exchange :=
  { w with replies := w.replies ++ [(n, text)], rx := w.rx ++ text }

/-- The answer to call `n`. -/
def Exchange.answer (n : Nat) (ans : Option Answered) (w : Exchange) : Exchange :=
  match ans with
  | none => w
  | some (.now text) => w.emit n text
  | some (.posted cmd u32) =>
    if w.router.queue.length < cmdBusDepth then
      { w with router := w.router.step (.tcpCommand w.me cmd u32), owed := w.owed ++ [n] }
    else w.emit n (lit "BUS_FULL\n")

/-- What a step of the router sends over the connection. -/
def RouterWorld.news (me : Nat) (w w' : RouterWorld) : Option Bytes :=
  ((w'.delivered.drop w.delivered.length).find? (·.1 = .tcp me)).map (·.2)

/-- One step. -/
def Exchange.step (w : Exchange) : ExchangeEv → Exchange
  | .call c x v =>
    if w.returned.length = w.calls.length then
      let line := lineFill id [] c.line
      let o := cmdLine x .tcp line w.authed w.state
      { w with calls := w.calls ++ [c], authed := o.authed, state := o.state }.answer
        w.calls.length (lineAnswer w.ready x v line w.authed w.state)
    else w
  | .read =>
    match w.calls[w.returned.length]?, recvLine recvlineMax w.rx with
    | some c, some (data, rest) =>
      { w with rx := rest, returned := w.returned ++ [c.returns (pyText data)] }
    | _, _ => w
  | .bus b =>
    if b.ev.isOf w.me then w
    else
      let router := w.router.step b.ev
      let w' := { w with router := router }
      match w.router.news w.me router with
      | none => w'
      | some text => { w' with owed := w.owed.tail }.emit (w.owed.headD 0) text
  | .control i => { w with state := { w.state with control := w.state.control.step i } }
  | .other x xport line authed => { w with state := (cmdLine x xport line authed w.state).state }

/-- `DHT_PERIOD_MS` and the flag of the sampler at boot. -/
def dhtBoot : Dht := ⟨false, 2000⟩

/-- What the device is when the connection is accepted: with or without a bus, with the token it has
and the credentials of the boot, and after other clients. -/
structure DeviceStart where
  ready : Bool
  auth : AuthStore
  cfg : StaCfg
  nvsSsid : Option Bytes
  nvsPwd : Option Bytes
  postRb : Option Nat
  others : List ClientLife

/-- The connection at that time; its flag may be one or the other. -/
def Exchange.open (d : DeviceStart) (authed : Bool) : Exchange where
  ready := d.ready
  me := d.others.length
  authed := authed
  state := ⟨d.auth, .boot d.cfg d.nvsSsid d.nvsPwd d.postRb⟩
  router := { RouterWorld.boot dhtBoot with clients := d.others ++ [.serving] }
  owed := []
  replies := []
  rx := []
  calls := []
  returned := []

/-- The replies to a call. -/
def Exchange.repliesTo (n : Nat) (w : Exchange) : List Bytes :=
  (w.replies.filter (·.1 = n)).map (·.2)

/-- What a call should return for the reply it got, given without its line end: `_recvline` leaves
carriage returns out; and a ping succeeds. -/
def HostCall.Returned (text : Bytes) (value : HostValue) : HostCall → Prop
  | .sendLine _ => value = .reply (pyText (text.filter (· ≠ 13)))
  | .sendPing => value = .alive true

/-- **Requests and replies are paired.** Each call has got exactly one line from the device, or the
router owes it one; and each call that has returned, has returned its own. -/
structure Exchange.Paired (w : Exchange) : Prop where
  owed : ∀ n ∈ w.owed, w.repliesTo n = []
  one : ∀ n < w.calls.length, n ∉ w.owed → ∃ t, IsLine t ∧ w.repliesTo n = [t]
  returned : ∀ n c value, w.calls[n]? = some c → w.returned[n]? = some value →
    ∃ text, 10 ∉ text ∧ w.repliesTo n = [text ++ [10]] ∧ c.Returned text value

/-- A call sends only a line that is not ignored and does not call `cmd_diag`. -/
def Exchange.SendsOk (w : Exchange) : ExchangeEv → Prop
  | .call c _ _ =>
    w.returned.length = w.calls.length → AnsweredInOne (lineFill id [] c.line) w.authed
  | _ => True

/-! ## The read -/

/-- `_recvline` reads a line to its end, without the carriage returns. -/
theorem recvLine_line {text : Bytes} (h : 10 ∉ text) (rest : Bytes) {n : Nat}
    (hn : text.length < n) :
    recvLine n (text ++ 10 :: rest) = some (text.filter (· ≠ 13), rest) := by
  obtain ⟨n, rfl⟩ : ∃ m, n = m + 1 := ⟨n - 1, by omega⟩
  induction text generalizing n with
  | nil => rfl
  | cons b text ih =>
    have hb : b ≠ 10 := fun hb => h (by simp [hb])
    have htext : 10 ∉ text := fun hmem => h (by simp [hmem])
    obtain ⟨n, rfl⟩ : ∃ m, n = m + 1 := ⟨n - 1, by rw [List.length_cons] at hn; omega⟩
    rw [List.length_cons] at hn
    rw [List.cons_append, recvLine, if_neg hb]
    by_cases hcr : b = 13
    · rw [if_pos hcr, ih htext (n + 1) (by omega)]
      simp [hcr]
    · rw [if_neg hcr, ih htext n (by omega)]
      simp [hcr]

/-! ## The bus -/

section
variable {w w' : RouterWorld} {me : Nat}

/-- The pending messages of client `me`. -/
def RouterWorld.mine (me : Nat) (w : RouterWorld) : List BusMsg :=
  w.pending.filter (·.ctx = .tcp me)

/-- The numbers in the router and in its messages are of their types. -/
structure RouterWorld.Numbers (w : RouterWorld) : Prop where
  period : w.dht.periodMs < 2 ^ 32
  pending : ∀ m ∈ w.pending, m.u32 < 2 ^ 32

theorem RouterWorld.send_pending (m : BusMsg) (w : RouterWorld) :
    (w.send m).pending = if w.queue.length < cmdBusDepth then w.pending ++ [m] else w.pending := by
  unfold RouterWorld.send
  split <;> simp [RouterWorld.pending]

@[simp] theorem RouterWorld.send_dht (m : BusMsg) (w : RouterWorld) : (w.send m).dht = w.dht := by
  unfold RouterWorld.send
  split <;> rfl

/-- What a step leaves alone that is of no concern to client `me`. -/
structure RouterWorld.Quiet (me : Nat) (w w' : RouterWorld) : Prop where
  serving : w'.clients[me]? = some .serving
  mine : w'.mine me = w.mine me
  dht : w'.dht = w.dht

/-- A message of another connection. -/
theorem RouterWorld.Quiet.send {m : BusMsg} (hserving : w.clients[me]? = some .serving)
    (hm : m.ctx ≠ .tcp me) : w.Quiet me (w.send m) where
  serving := by rwa [RouterWorld.send_clients]
  mine := by
    rw [RouterWorld.mine, RouterWorld.send_pending]
    split
    · simp [RouterWorld.mine, hm]
    · rfl
  dht := by simp

/-- The steps that are neither of client `me` nor a reply. -/
theorem RouterWorld.quiet_step {ev : RouterEv} (hserving : w.clients[me]? = some .serving)
    (hev : ev.isOf me = false) (hreply : ∀ s, ev ≠ .reply s) : w.Quiet me (w.step ev) := by
  have hset : ∀ {i : Nat} {c : ClientLife}, i ≠ me → (w.clients.set i c)[me]? = some .serving := by
    intro i c hi
    rwa [List.getElem?_set_ne hi]
  cases ev with
  | accept =>
    have hlt : me < w.clients.length := (List.getElem?_eq_some_iff.mp hserving).1
    exact ⟨by simpa [RouterWorld.step, List.getElem?_append_left hlt] using hserving, rfl, rfl⟩
  | tcpCommand i cmd u32 =>
    rw [RouterWorld.step]
    split
    · refine .send hserving ?_
      simpa [RouterEv.isOf] using hev
    · exact ⟨hserving, rfl, rfl⟩
  | tcpLeave i | tcpEnd i =>
    rw [RouterWorld.step]
    split
    · exact ⟨hset (by simpa [RouterEv.isOf] using hev), rfl, rfl⟩
    · exact ⟨hserving, rfl, rfl⟩
  | bleConnect | bleStatus => exact ⟨hserving, rfl, rfl⟩
  | bleDisconnect n | bleNotify n on | bleRead n =>
    rw [RouterWorld.step]
    split <;> exact ⟨hserving, rfl, rfl⟩
  | bleCommand n cmd u32 =>
    rw [RouterWorld.step]
    split
    · refine .send hserving ?_
      intro hctx
      cases hctx
    · exact ⟨hserving, rfl, rfl⟩
  | receive =>
    rw [RouterWorld.step]
    split
    · next hhandling hqueue =>
      exact ⟨hserving, by simp [RouterWorld.mine, RouterWorld.pending, hhandling, hqueue], rfl⟩
    · exact ⟨hserving, rfl, rfl⟩
  | reply s => exact absurd rfl (hreply s)

/-- They send nothing over the connection: what a link reads is not sent to a client. -/
theorem RouterWorld.news_eq_none {ev : RouterEv} (hreply : ∀ s, ev ≠ .reply s) :
    w.news me (w.step ev) = none := by
  rw [RouterWorld.news, Option.map_eq_none_iff, List.find?_eq_none]
  intro out hout
  rcases RouterWorld.delivered_step hout with ⟨s, rfl, -⟩ | ⟨n, rfl, hn, -⟩
  · exact absurd rfl (hreply s)
  · simp [hn]

/-- **A step of another one.** It leaves the messages of client `me` alone and sends it nothing, or
it is the reply to the first of them. -/
theorem RouterWorld.step_mine {ev : RouterEv} (hserving : w.clients[me]? = some .serving)
    (hev : ev.isOf me = false) :
    (w.step ev).clients[me]? = some .serving ∧
      (((w.step ev).mine me = w.mine me ∧ w.news me (w.step ev) = none) ∨
        ∃ m s, ev = .reply s ∧ w.mine me = m :: (w.step ev).mine me ∧
          w.news me (w.step ev) = some (cmdRouterRun s m.cmd m.u32 w.dht).1) := by
  by_cases hreply : ∃ s, ev = .reply s
  · obtain ⟨s, rfl⟩ := hreply
    cases hm : w.handling with
    | none =>
      have hstep : w.step (.reply s) = w := by simp [RouterWorld.step, hm]
      rw [hstep]
      exact ⟨hserving, .inl ⟨rfl, by simp [RouterWorld.news]⟩⟩
    | some m =>
      have hnew : (w.step (.reply s)).delivered =
          w.delivered ++ (w.reach m.ctx).toList.map (·, (cmdRouterRun s m.cmd m.u32 w.dht).1) := by
        simp only [RouterWorld.step, RouterWorld.cmdReply, hm]
        rfl
      have hpending : w.pending = m :: (w.step (.reply s)).pending := by
        simp [RouterWorld.step, RouterWorld.cmdReply, RouterWorld.pending, hm]
      have hclients : (w.step (.reply s)).clients = w.clients := by
        simp [RouterWorld.step, RouterWorld.cmdReply, hm]
      refine ⟨by rwa [hclients], ?_⟩
      rw [RouterWorld.news, hnew, List.drop_left]
      by_cases hctx : m.ctx = .tcp me
      · refine .inr ⟨m, s, rfl, by simp [RouterWorld.mine, hpending, hctx], ?_⟩
        simp [RouterWorld.reach, hctx, hserving]
      · refine .inl ⟨by simp [RouterWorld.mine, hpending, hctx], ?_⟩
        have hreach : ∀ c ∈ w.reach m.ctx, c ≠ .tcp me := by
          cases hc : m.ctx with
          | tcp i =>
            simp only [RouterWorld.reach]
            split <;> simp_all
          | ble =>
            simp only [RouterWorld.reach]
            split <;> simp_all
        cases hout : w.reach m.ctx with
        | none => rfl
        | some c => simp [hreach c hout]
  · have hquiet := RouterWorld.quiet_step hserving hev fun s hs => hreply ⟨s, hs⟩
    exact ⟨hquiet.serving, .inl ⟨hquiet.mine, RouterWorld.news_eq_none fun s hs => hreply ⟨s, hs⟩⟩⟩

/-- Events whose numbers are of their types keep those of the router so. -/
theorem RouterWorld.Numbers.step {ev : RouterEv} (h : w.Numbers) (hfits : ev.Fits) :
    (w.step ev).Numbers := by
  have hsend : ∀ m : BusMsg, m.u32 < 2 ^ 32 → (w.send m).Numbers := by
    intro m hm
    refine ⟨by simpa using h.period, fun m' hm' => ?_⟩
    rcases RouterWorld.mem_pending_send hm' with hm' | rfl
    · exact h.pending m' hm'
    · exact hm
  cases ev with
  | accept | bleConnect | bleStatus => exact ⟨h.period, h.pending⟩
  | tcpCommand i cmd u32 | bleCommand n cmd u32 =>
    rw [RouterWorld.step]
    split
    · exact hsend _ hfits
    · exact h
  | tcpLeave i | tcpEnd i | bleDisconnect n | bleNotify n on | bleRead n =>
    rw [RouterWorld.step]
    split
    · exact ⟨h.period, h.pending⟩
    · exact h
  | receive =>
    refine ⟨?_, fun m hm => h.pending m (RouterWorld.mem_pending_router (.inl rfl) hm)⟩
    rw [RouterWorld.step]
    split <;> exact h.period
  | reply s =>
    refine ⟨?_, fun m hm => h.pending m (RouterWorld.mem_pending_router (.inr ⟨s, rfl⟩) hm)⟩
    cases hm : w.handling with
    | none => simpa [RouterWorld.step, hm] using h.period
    | some m =>
      have hmem : m ∈ w.pending := by simp [RouterWorld.pending, hm]
      simpa [RouterWorld.step, RouterWorld.cmdReply, hm] using
        periodMs_cmdRouterRun h.period (h.pending m hmem) s m.cmd

/-- A message of client `me` that the queue takes is the last of its messages. -/
theorem RouterWorld.mine_post (hserving : w.clients[me]? = some .serving)
    (hqueue : w.queue.length < cmdBusDepth) (cmd : BusCmd) (u32 : Nat) :
    (w.step (.tcpCommand me cmd u32)).clients[me]? = some .serving ∧
      (w.step (.tcpCommand me cmd u32)).mine me =
        w.mine me ++ [⟨cmd, .tcp me, u32, .tcp me⟩] := by
  rw [RouterWorld.step, if_pos hserving]
  refine ⟨by rwa [RouterWorld.send_clients], ?_⟩
  rw [RouterWorld.mine, RouterWorld.send_pending, if_pos hqueue]
  simp [RouterWorld.mine]

end

/-! ## The invariant -/

section
variable {w : Exchange}

/-- Whose turn it is: the host's, to call; the router's, to reply; or the host's, to read. -/
inductive Exchange.Turn (w : Exchange) : Prop
  | call (hcalls : w.calls.length = w.returned.length) (howed : w.owed = [])
      (hmine : w.router.mine w.me = []) (hrx : w.rx = [])
  | router (hcalls : w.calls.length = w.returned.length + 1) (howed : w.owed = [w.returned.length])
      (m : BusMsg) (hmine : w.router.mine w.me = [m]) (hrx : w.rx = [])
      (hping : w.calls[w.returned.length]? ≠ some .sendPing)
  | read (hcalls : w.calls.length = w.returned.length + 1) (howed : w.owed = [])
      (hmine : w.router.mine w.me = []) (hline : IsLine w.rx)
      (hreplies : w.repliesTo w.returned.length = [w.rx])
      (hping : w.calls[w.returned.length]? = some .sendPing → w.rx = cmdPing)

/-- The invariant. -/
structure Exchange.Inv (w : Exchange) : Prop where
  err : w.state.control.errsrc.err ∈ errTexts
  numbers : w.router.Numbers
  serving : w.router.clients[w.me]? = some .serving
  fresh : ∀ r ∈ w.replies, r.1 < w.calls.length
  paired : w.Paired
  turn : w.Turn

theorem Exchange.inv_open (d : DeviceStart) (authed : Bool) : (Exchange.open d authed).Inv where
  err := by
    show (Errsrc.init).err ∈ errTexts
    decide
  numbers := by
    refine ⟨?_, nofun⟩
    show dhtBoot.periodMs < 2 ^ 32
    decide
  serving := by simp [Exchange.open]
  fresh := nofun
  paired := ⟨nofun, nofun, nofun⟩
  turn := .call rfl rfl rfl rfl

/-! ### Replies -/

theorem Exchange.repliesTo_emit (n k : Nat) (text : Bytes) :
    (w.emit n text).repliesTo k = w.repliesTo k ++ if n = k then [text] else [] := by
  unfold Exchange.repliesTo Exchange.emit
  by_cases h : n = k <;> simp [h]

/-- No call from `n` on has a reply. -/
theorem Exchange.repliesTo_fresh {n : Nat} (h : ∀ r ∈ w.replies, r.1 < n) :
    w.repliesTo n = [] := by
  unfold Exchange.repliesTo
  rw [List.map_eq_nil_iff, List.filter_eq_nil_iff]
  intro r hr
  have hlt := h r hr
  simp only [decide_eq_true_eq]
  omega

/-- The last call waits, and nothing has come for it; those before it are done. -/
structure Exchange.Waits (w : Exchange) : Prop where
  calls : w.calls.length = w.returned.length + 1
  rx : w.rx = []
  none : w.repliesTo w.returned.length = []
  fresh : ∀ r ∈ w.replies, r.1 < w.calls.length
  done : ∀ n < w.returned.length, ∃ t, IsLine t ∧ w.repliesTo n = [t]
  returned : ∀ n c value, w.calls[n]? = some c → w.returned[n]? = some value →
    ∃ text, 10 ∉ text ∧ w.repliesTo n = [text ++ [10]] ∧ c.Returned text value

/-- A call with the reply on its way is paired. -/
theorem Exchange.Waits.owed (h : w.Waits) (howed : w.owed = [w.returned.length]) : w.Paired where
  owed n hn := by
    rw [howed, List.mem_singleton] at hn
    rw [hn]
    exact h.none
  one n hn hnot := by
    have hcalls := h.calls
    rw [howed, List.mem_singleton] at hnot
    exact h.done n (by omega)
  returned := h.returned

/-- The reply to the call that waits. -/
theorem Exchange.Waits.emit (h : w.Waits) {text : Bytes} (hline : IsLine text)
    (howed : w.owed = []) (hmine : w.router.mine w.me = [])
    (hping : w.calls[w.returned.length]? = some .sendPing → text = cmdPing) :
    (w.emit w.returned.length text).Paired ∧ (w.emit w.returned.length text).Turn := by
  have hcalls := h.calls
  have hlast : (w.emit w.returned.length text).repliesTo w.returned.length = [text] := by
    rw [Exchange.repliesTo_emit, h.none]
    simp
  have hother : ∀ n < w.returned.length,
      (w.emit w.returned.length text).repliesTo n = w.repliesTo n := by
    intro n hn
    rw [Exchange.repliesTo_emit, if_neg (by omega), List.append_nil]
  have hrx : (w.emit w.returned.length text).rx = text := by
    show w.rx ++ text = text
    rw [h.rx, List.nil_append]
  constructor
  · refine ⟨fun n hn => ?_, fun n hn _ => ?_, fun n c value hc hvalue => ?_⟩
    · change n ∈ w.owed at hn
      simp [howed] at hn
    · change n < w.calls.length at hn
      by_cases hlt : n < w.returned.length
      · rw [hother n hlt]
        exact h.done n hlt
      · obtain rfl : n = w.returned.length := by omega
        exact ⟨text, hline, hlast⟩
    · rw [hother n (List.getElem?_eq_some_iff.mp hvalue).1]
      exact h.returned n c value hc hvalue
  · refine .read hcalls howed hmine ?_ ?_ ?_
    · rwa [hrx]
    · rw [hrx]
      exact hlast
    · rw [hrx]
      exact hping

/-- Where it is the host's turn to call, a new call waits. -/
theorem Exchange.Inv.waits (h : w.Inv) (hturn : w.calls.length = w.returned.length)
    (howed : w.owed = []) (hrx : w.rx = []) (c : HostCall) (authed : Bool) (state : CmdState) :
    { w with calls := w.calls ++ [c], authed := authed, state := state }.Waits where
  calls := by simp [hturn]
  rx := hrx
  none := Exchange.repliesTo_fresh (by simpa [← hturn] using h.fresh)
  fresh r hr := by
    have hlt := h.fresh r hr
    simp only [List.length_append, List.length_singleton]
    omega
  done n hn := h.paired.one n (by rw [hturn]; exact hn) (by simp [howed])
  returned n c' value hc hvalue := by
    have hlt : n < w.calls.length := by
      rw [hturn]
      exact (List.getElem?_eq_some_iff.mp hvalue).1
    exact h.paired.returned n c' value (by rwa [List.getElem?_append_left hlt] at hc) hvalue

/-- The reply to the call that waits keeps the invariant. -/
theorem Exchange.Waits.inv (h : w.Waits) {text : Bytes} (hline : IsLine text)
    (howed : w.owed = []) (hmine : w.router.mine w.me = [])
    (hping : w.calls[w.returned.length]? = some .sendPing → text = cmdPing)
    (herr : w.state.control.errsrc.err ∈ errTexts) (hnumbers : w.router.Numbers)
    (hserving : w.router.clients[w.me]? = some .serving) :
    (w.emit w.returned.length text).Inv := by
  obtain ⟨hpaired, hturn⟩ := h.emit hline howed hmine hping
  refine ⟨herr, hnumbers, hserving, fun r hr => ?_, hpaired, hturn⟩
  have hcalls := h.calls
  rcases List.mem_append.mp hr with hr | hr
  · exact h.fresh r hr
  · rw [List.mem_singleton.mp hr]
    show w.returned.length < w.calls.length
    omega

/-! ### The steps -/

/-- What happens beside the exchange. -/
theorem Exchange.Inv.beside (h : w.Inv) {state : CmdState} {router : RouterWorld}
    (herr : state.control.errsrc.err ∈ errTexts) (hnumbers : router.Numbers)
    (hserving : router.clients[w.me]? = some .serving)
    (hmine : router.mine w.me = w.router.mine w.me) :
    { w with state := state, router := router }.Inv where
  err := herr
  numbers := hnumbers
  serving := hserving
  fresh := h.fresh
  paired := ⟨h.paired.owed, h.paired.one, h.paired.returned⟩
  turn := by
    cases h.turn with
    | call hcalls howed hno hrx => exact .call hcalls howed (hmine.trans hno) hrx
    | router hcalls howed m hm hrx hping => exact .router hcalls howed m (hmine.trans hm) hrx hping
    | read hcalls howed hno hline hreplies hping =>
      exact .read hcalls howed (hmine.trans hno) hline hreplies hping

/-- The error source of the statics after a line is one of `errTexts`. -/
theorem cmdLine_mem_errTexts {s : CmdState} (h : s.control.errsrc.err ∈ errTexts) (x : CmdAnswers)
    (xport : CmdXport) (line : Bytes) (authed : Bool) :
    (cmdLine x xport line authed s).state.control.errsrc.err ∈ errTexts := by
  rcases cmdLine_control x xport line authed s with heq | ⟨i, -, heq⟩
  · rwa [heq]
  · rw [heq]
    exact Control.step_mem_errTexts i h

/-- `PING` is answered by its handler. -/
theorem lineAnswer_ping (ready : Bool) (x : CmdAnswers) (v : ImageAnswers) (authed : Bool)
    (s : CmdState) :
    lineAnswer ready x v (lineFill id [] (lit "PING")) authed s = some (.now cmdPing) := by
  have hcall : ∀ authed, cmdDispatchLine (lineFill id [] (lit "PING")) authed =
      .called ⟨lit "ping", false, .ping⟩ [] := by decide
  simp only [lineAnswer, hcall, cmdAnswer]

theorem HostCall.notOta (c : HostCall) : NotOta (lineFill id [] c.line) := by
  cases c with
  | sendLine line => exact line.notOta
  | sendPing =>
    have hcall : cmdDispatchLine (lineFill id [] (lit "PING")) true =
        .called ⟨lit "ping", false, .ping⟩ [] := by decide
    exact notOta_of_called hcall nofun

/-- A call whose line is answered in one. -/
theorem Exchange.Inv.call (h : w.Inv) (c : HostCall) (x : CmdAnswers) (v : ImageAnswers)
    (hok : w.SendsOk (.call c x v)) : (w.step (.call c x v)).Inv := by
  rw [Exchange.step]
  split
  case isFalse => exact h
  case isTrue hturn =>
    obtain ⟨ans, hans, hansOk⟩ :=
      Answered.ok_lineAnswer w.ready x v c.notOta h.err (hok hturn)
    have herr := cmdLine_mem_errTexts h.err x .tcp (lineFill id [] c.line) w.authed
    cases h.turn with
    | router hcalls | read hcalls => omega
    | call hcalls howed hmine hrx =>
      have hwaits := h.waits hcalls howed hrx c
        (cmdLine x .tcp (lineFill id [] c.line) w.authed w.state).authed
        (cmdLine x .tcp (lineFill id [] c.line) w.authed w.state).state
      have hlast : (w.calls ++ [c])[w.returned.length]? = some c := by simp [← hcalls]
      have hping : c = .sendPing → ans = .now cmdPing := by
        rintro rfl
        exact Option.some.inj (hans.symm.trans (lineAnswer_ping _ _ _ _ _))
      dsimp only
      rw [hans, hcalls]
      cases ans with
      | now text =>
        refine hwaits.inv hansOk howed hmine ?_ herr h.numbers h.serving
        intro heq
        exact Answered.now.inj (hping (Option.some.inj (hlast.symm.trans heq)))
      | posted cmd u32 =>
        have hno : c ≠ .sendPing := fun hc => nomatch hping hc
        have hnot : (w.calls ++ [c])[w.returned.length]? ≠ some .sendPing := by
          rw [hlast]
          exact fun heq => hno (Option.some.inj heq)
        dsimp only [Exchange.answer]
        split
        · next hqueue =>
          obtain ⟨hserving, hposted⟩ := RouterWorld.mine_post h.serving hqueue cmd u32
          rw [hmine, List.nil_append] at hposted
          have hfits : (RouterEv.tcpCommand w.me cmd u32).Fits := hansOk
          refine ⟨herr, h.numbers.step hfits, hserving, hwaits.fresh, ?_, ?_⟩
          · refine Exchange.Waits.owed ⟨hwaits.calls, hwaits.rx, hwaits.none, hwaits.fresh,
              hwaits.done, hwaits.returned⟩ ?_
            show w.owed ++ [w.returned.length] = _
            rw [howed, List.nil_append]
          · refine .router hwaits.calls ?_ _ hposted hrx hnot
            show w.owed ++ [w.returned.length] = _
            rw [howed, List.nil_append]
        · refine hwaits.inv (by decide) howed hmine ?_ herr h.numbers h.serving
          exact fun heq => absurd heq hnot

/-- The read of the host. -/
theorem Exchange.Inv.read (h : w.Inv) : (w.step .read).Inv := by
  cases h.turn with
  | call hcalls =>
    have hnone : w.calls[w.returned.length]? = none := by simp [hcalls]
    simpa only [Exchange.step, hnone] using h
  | router _ _ _ _ hrx =>
    have hblock : recvLine recvlineMax w.rx = none := by rw [hrx]; rfl
    simp only [Exchange.step, hblock]
    split
    · simp_all
    · exact h
  | read hcalls howed hmine hline hreplies hping =>
    obtain ⟨text, hnot, hlen, hrx⟩ := hline
    have hread : recvLine recvlineMax w.rx = some (text.filter (· ≠ 13), []) := by
      rw [hrx]
      refine recvLine_line hnot [] (lt_trans (Nat.lt_succ_self _) (lt_trans hlen ?_))
      decide
    obtain ⟨c, hc⟩ : ∃ c, w.calls[w.returned.length]? = some c :=
      ⟨_, List.getElem?_eq_getElem (by omega)⟩
    simp only [Exchange.step, hc, hread]
    have hreturned : c.Returned text (c.returns (pyText (text.filter (· ≠ 13)))) := by
      cases c with
      | sendLine line => rfl
      | sendPing =>
        have hpong : text ++ [10] = lit "PONG" ++ [10] := hrx.symm.trans (hping hc)
        rw [(List.append_inj' hpong rfl).1]
        show HostValue.alive _ = .alive true
        decide
    refine ⟨h.err, h.numbers, h.serving, h.fresh, ⟨h.paired.owed, h.paired.one, ?_⟩, ?_⟩
    · intro n c' value hc' hvalue
      rcases Nat.lt_or_ge n w.returned.length with hlt | hge
      · exact h.paired.returned n c' value hc' (by rwa [List.getElem?_append_left hlt] at hvalue)
      · obtain rfl : n = w.returned.length := by
          have hlt := (List.getElem?_eq_some_iff.mp hvalue).1
          simp only [List.length_append, List.length_singleton] at hlt
          omega
        cases hc.symm.trans hc'
        simp only [List.getElem?_concat_length, Option.some.injEq] at hvalue
        rw [← hvalue]
        exact ⟨text, hnot, hrx ▸ hreplies, hreturned⟩
    · refine .call ?_ howed hmine rfl
      simpa using hcalls

/-- An event around the bus. -/
theorem Exchange.Inv.bus (h : w.Inv) (b : BusEv) : (w.step (.bus b)).Inv := by
  rw [Exchange.step]
  split
  · exact h
  · next hof =>
    have hnumbers := h.numbers.step b.fits
    obtain ⟨hserving, ⟨hmine, hnews⟩ | ⟨m, s, hev, hmine, hnews⟩⟩ :=
      RouterWorld.step_mine h.serving (Bool.eq_false_iff.mpr hof)
    · dsimp only
      rw [hnews]
      exact h.beside h.err hnumbers hserving hmine
    · dsimp only
      rw [hnews]
      cases h.turn with
      | call _ _ hno | read _ _ hno =>
        rw [hno] at hmine
        cases hmine
      | router hcalls howed m' hm' hrx hping =>
        rw [hm'] at hmine
        obtain ⟨rfl, hnil⟩ := List.cons.inj hmine
        have hmem : w.returned.length ∈ w.owed := by simp [howed]
        have hfits : s.Fits := by
          have hfits := b.fits
          rwa [hev] at hfits
        have hline : IsLine (cmdRouterRun s m'.cmd m'.u32 w.router.dht).1 :=
          isLine_cmdRouterRun hfits h.numbers.period _ _
        have hwaits : { w with router := w.router.step b.ev, owed := [] }.Waits := by
          refine ⟨hcalls, hrx, h.paired.owed _ hmem, h.fresh, fun n hn => ?_, h.paired.returned⟩
          change n < w.returned.length at hn
          refine h.paired.one n (by omega) ?_
          rw [howed, List.mem_singleton]
          omega
        rw [howed]
        exact hwaits.inv hline rfl hnil.symm (fun heq => absurd heq hping) h.err hnumbers hserving

/-- **The step lemma.** -/
theorem Exchange.Inv.step {ev : ExchangeEv} (h : w.Inv) (hok : w.SendsOk ev) :
    (w.step ev).Inv := by
  cases ev with
  | call c x v => exact h.call c x v hok
  | read => exact h.read
  | bus b => exact h.bus b
  | control i => exact h.beside (Control.step_mem_errTexts i h.err) h.numbers h.serving rfl
  | other x xport line authed =>
    exact h.beside (cmdLine_mem_errTexts h.err x xport line authed) h.numbers h.serving rfl

end

/-! ## The result -/

/-- A call with another line leaves its reply unpaired. -/
theorem Exchange.Inv.not_paired {w : Exchange} (h : w.Inv) {c : HostCall} {x : CmdAnswers}
    {v : ImageAnswers} (hturn : w.returned.length = w.calls.length)
    (hnot : ¬ AnsweredInOne (lineFill id [] c.line) w.authed) :
    ¬ (w.step (.call c x v)).Paired := by
  cases h.turn with
  | router hcalls | read hcalls => omega
  | call hcalls howed =>
    rw [Exchange.step, if_pos hturn]
    intro hpaired
    have hfresh : w.repliesTo w.calls.length = [] := Exchange.repliesTo_fresh h.fresh
    dsimp only at hpaired
    rcases lineAnswer_of_not_answeredInOne w.ready x v w.state hnot with
      hans | ⟨text, hans, hline⟩
    · rw [hans] at hpaired
      obtain ⟨t, -, ht⟩ := hpaired.one w.calls.length
        (by simp [Exchange.answer]) (by simp [Exchange.answer, howed])
      cases hfresh.symm.trans ht
    · rw [hans] at hpaired
      obtain ⟨t, hline', ht⟩ := hpaired.one w.calls.length
        (by simp [Exchange.answer, Exchange.emit]) (by simp [Exchange.answer, Exchange.emit, howed])
      rw [Exchange.answer, Exchange.repliesTo_emit, if_pos rfl] at ht
      have heq : text = t := List.singleton_inj.mp ((congrArg (· ++ [text]) hfresh).symm.trans ht)
      exact hline (heq ▸ hline')

/-- On the invariant a step leaves everything paired exactly if it meets the condition. -/
theorem Exchange.Inv.paired_step_iff {w : Exchange} (h : w.Inv) (ev : ExchangeEv) :
    (w.step ev).Paired ↔ w.SendsOk ev := by
  refine ⟨fun hpaired => ?_, fun hok => (h.step hok).paired⟩
  cases ev with
  | call c x v =>
    intro hturn
    by_contra hnot
    exact h.not_paired hturn hnot hpaired
  | read | bus | control | other => trivial

/-- Requests and replies stay paired in exactly the runs in which every line of the host is answered
in one: none is ignored, and none calls `cmd_diag`. -/
theorem requests_paired_iff (d : DeviceStart) (authed : Bool) (evs : List ExchangeEv) :
    Run.Along Exchange.step (fun w ev => (w.step ev).Paired) (.open d authed) evs ↔
      Run.Along Exchange.step Exchange.SendsOk (.open d authed) evs :=
  Run.along_congr (Exchange.inv_open d authed) (fun _ _ h hok => h.step hok)
    (fun _ ev h => h.paired_step_iff ev) evs

/-- The factory image at boot, with a bus. -/
def factoryStart : DeviceStart :=
  ⟨true, .boot none, staCfgOf [] [], none, none, none, []⟩

/-- The factory partition. -/
def factoryPart : PartInfo where
  label := lit "factory"
  subtype := 0
  address := 0x20000
  size := 0x200000
  labelShort := Nat.le_of_ble_eq_true rfl
  subtypeByte := Nat.le_of_ble_eq_true rfl
  addressWord := Nat.le_of_ble_eq_true rfl
  sizeWord := Nat.le_of_ble_eq_true rfl

/-- `send_line("DIAG")`. -/
def hostDiag : HostCall :=
  have hcall : cmdDispatchLine (lineFill id [] (lit "DIAG")) true =
      .called ⟨lit "diag", true, .diag⟩ [] := by decide
  .sendLine ⟨lit "DIAG", by decide, by decide, notOta_of_called hcall nofun⟩

/-- On an authenticated connection the host asks for the diagnosis and then pings. -/
def diagThenPing : List ExchangeEv :=
  [.call hostDiag ⟨.ok, .factory⟩ ⟨none, factoryPart⟩, .read,
    .call .sendPing ⟨.ok, .factory⟩ ⟨none, factoryPart⟩, .read]

/-- The ping reads the second line of the diagnosis and fails. -/
theorem requests_not_paired :
    (Run.exec Exchange.step (.open factoryStart true) diagThenPing).returned =
        [.reply "PART=factory SUB=0 OFF=0x020000 SIZE=2097152".toList, .alive false] ∧
      ¬ Run.Along Exchange.step (fun w ev => (w.step ev).Paired) (.open factoryStart true)
        diagThenPing := by
  refine ⟨by decide +kernel, ?_⟩
  rintro ⟨hpaired, -⟩
  refine (Exchange.inv_open factoryStart true).not_paired rfl ?_ hpaired
  decide +kernel

end RemoteControl
