import RemoteControl.Lib.Run
import RemoteControl.Net.TcpClient
import RemoteControl.Ota.Interleave

/-!
# Lines and OTA payloads on one socket

A client sends command lines and OTA units: an OTA line, its payload, a trailer. On the device two
readers take the bytes, `client_task` in segments and `ota_perform` in chunks, and the network cuts
the stream where it likes. Every byte is marked with its place in what was sent, so that one can see
where it ends up. The two readers keep to the framing in the runs whose hand-overs all work out
(`TcpStream.HandOver`): the segment ends with the OTA line, and no call of `ota_perform` returns
before it has read its payload and trailer.
-/

namespace RemoteControl

open CString

/-! ## What the client sends -/

/-- A command line without its line end, or an OTA line with payload and trailer. -/
inductive Sent where
  | line (l : Bytes)
  | ota (l payload trailer : Bytes)
  deriving DecidableEq

/-- The bytes up to the line end. -/
def Sent.head : Sent → Bytes
  | .line l => l
  | .ota l _ _ => l

/-- A line has no line end in it; a command line is no OTA line; an OTA line announces the length of
its payload, and a trailer has four bytes. -/
def Sent.Valid : Sent → Prop
  | .line l => 10 ∉ l ∧ otaArgs (lineFill id [] l) = none
  | .ota l payload trailer =>
    10 ∉ l ∧ (∃ crc, otaArgs (lineFill id [] l) = some (payload.length, crc)) ∧ trailer.length = 4

/-- The place of a byte: in the line, the payload or the trailer of the `u`-th thing sent. -/
inductive Place where
  | line (u : Nat)
  | payload (u i : Nat)
  | trailer (u : Nat)
  deriving DecidableEq

/-- The byte is part of a line. -/
def Place.isLine : Place → Bool
  | .line _ => true
  | .payload _ _ | .trailer _ => false

/-- A byte and its place. -/
abbrev Marked := UInt8 × Place

def markLine (u : Nat) (l : Bytes) : List Marked := l.map (·, .line u)

def markPayload (u : Nat) (payload : Bytes) : List Marked :=
  payload.zipIdx.map fun bi => (bi.1, .payload u bi.2)

def markTrailer (u : Nat) (trailer : Bytes) : List Marked := trailer.map (·, .trailer u)

/-- The payload and the trailer of the `u`-th thing sent. -/
def Sent.tail (u : Nat) : Sent → List Marked
  | .line _ => []
  | .ota _ payload trailer => markPayload u payload ++ markTrailer u trailer

/-- The stream, from the `u`-th thing sent on. -/
def markStream (u : Nat) : List Sent → List Marked
  | [] => []
  | s :: ss => markLine u s.head ++ (10, .line u) :: (s.tail u ++ markStream (u + 1) ss)

/-! ## The connection -/

/-- What the network does at a `recv`: some of the bytes that are still to come arrive; none will
come any more; or the call fails, and they may still come. -/
inductive NetEv where
  | bytes (n : Nat)
  | eof
  | err
  | eintr
  deriving DecidableEq

/-- The bytes that are still to come, and the task that takes them. -/
structure TcpStream where
  unread : List Marked
  client : TcpClient Marked
  deriving DecidableEq

/-- One step of the task: what the network and the platform answer, and the statics and the flash
log that the other tasks have left. -/
structure StreamIn where
  net : NetEv
  cmd : CmdAnswers
  stack : OtaSession
  mallocOk : Bool
  state : CmdState
  log : FlashLog

/-- A new connection. -/
def TcpStream.open (sent : List Sent) : TcpStream := ⟨markStream 0 sent, .start⟩

/-- What a `recv` returns, and what is still to come. At least one byte arrives, and no more than
the call asks for. -/
def TcpStream.receive (net : NetEv) (w : TcpStream) : Recv Marked × List Marked :=
  match net with
  | .bytes n =>
    let k := min (n + 1) w.client.asks
    (.data (w.unread.take k), w.unread.drop k)
  | .eof => (.data [], [])
  | .err => (.err, w.unread)
  | .eintr => (.eintr, w.unread)

/-- The task waits in `recv` for bytes that are not there. -/
def TcpStream.Blocked (net : NetEv) (w : TcpStream) : Prop :=
  (∃ n, net = .bytes n) ∧ w.client.asks ≠ 0 ∧ w.unread = []

instance (net : NetEv) (w : TcpStream) : Decidable (w.Blocked net) :=
  match net with
  | .bytes n => decidable_of_iff (w.client.asks ≠ 0 ∧ w.unread = []) (by simp [TcpStream.Blocked])
  | .eof | .err | .eintr => isFalse (by simp [TcpStream.Blocked])

section
variable (E : FlashEnv) (C : Crc32)

/-- One step. -/
def TcpStream.step (w : TcpStream) (i : StreamIn) : TcpStream :=
  if w.Blocked i.net then w
  else
    let (r, unread) := w.receive i.net
    let (c, _, _) := w.client.step Prod.fst E C ⟨r, i.cmd, i.stack, i.mallocOk⟩ i.state i.log
    ⟨unread, c⟩

/-- **The framing.** A line that the step dispatches has only bytes of lines; and what the session
of the running `ota_perform` has written so far is the beginning of the payload that was sent with
the line which started it. -/
def FramingOk (sent : List Sent) (w : TcpStream) (i : StreamIn) : Prop :=
  (∀ line, ¬ w.Blocked i.net → w.client.dispatches Prod.fst (w.receive i.net).1 = some line →
    ∀ b ∈ line, b.2.isLine = true) ∧
  ∀ t, (w.step E C i).client.ota = some t → t.written ≠ [] →
    ∃ u l payload trailer, sent[u]? = some (.ota l payload trailer) ∧
      (∀ b ∈ (w.step E C i).client.line, b.2 = .line u) ∧ t.written <+: markPayload u payload

/-- An OTA line of this size starts its session: the connection is authenticated,
`ota_session_begin` opens the partition, `esp_ota_begin` does not fail, and there is a buffer. -/
def StreamIn.Accepts (i : StreamIn) (size : Nat) (c : TcpClient Marked) : Prop :=
  c.authed = true ∧ Begins E i.stack size ∧ E.fate .otaBegin i.log.length = .ok ∧
    i.mallocOk = true

/-- The bytes that arrive complete a chunk of the payload. -/
def TcpStream.completes (net : NetEv) (t : TcpOta Marked) (w : TcpStream) : Bool :=
  match t.pc, net with
  | .payload got, .bytes n =>
    t.want ≤ got.length + (w.unread.take (min (n + 1) w.client.asks)).length
  | _, _ => false

/-- **The condition.** At the line end of an OTA line the segment is used up and, unless nothing
follows, the session starts. A failing `recv` in the middle of an OTA line starts no session. While
`ota_perform` reads, `recv` does not fail, and `esp_ota_write` takes the chunk that the received
bytes complete; unless nothing follows. -/
def TcpStream.HandOver (w : TcpStream) (i : StreamIn) : Prop :=
  (w.client.ota = none →
    (∀ cr ∈ lineSplit Prod.fst w.client.buf,
      ∀ sc ∈ otaArgs ((lineFill Prod.fst w.client.line cr.1).map Prod.fst),
        cr.2 = [] ∧ (w.unread = [] ∨ i.Accepts E sc.1 w.client)) ∧
    (w.client.buf = [] → i.net = .err ∨ i.net = .eintr →
      ∀ sc ∈ otaArgs (w.client.line.map Prod.fst),
        w.unread = [] ∨ ¬ i.Accepts E sc.1 w.client)) ∧
  ∀ t ∈ w.client.ota, (w.receive i.net).2 = [] ∨
    (i.net ≠ .err ∧ (w.completes i.net t = true → E.fate .otaWrite i.log.length = .ok))

instance (s : OtaSession) (size : Nat) : Decidable (Begins E s size) :=
  decidable_of_iff (s.active = false ∧ size ≠ 0 ∧ ∃ dst ∈ E.next, size ≤ dst.size) Iff.rfl

instance (i : StreamIn) (size : Nat) (c : TcpClient Marked) : Decidable (i.Accepts E size c) :=
  inferInstanceAs (Decidable (_ ∧ _ ∧ _ ∧ _))

instance (w : TcpStream) (i : StreamIn) : Decidable (w.HandOver E i) :=
  inferInstanceAs (Decidable (_ ∧ _))

/-! ## Where the readers stand -/

/-- **The invariant.** `client_task` is in the middle of a line, of which it has read `raw`; or
`ota_perform` is in the payload or in the trailer of an OTA unit, or has succeeded; or it was
entered by the last line there is; or the socket is closed. What is still to come continues the
stream; it may have been cut off. -/
inductive Framed (sent : List Sent) : TcpStream → Prop
  | line {unread c} (u : Nat) (raw : List Marked) (hpc : c.pc = .reading) (hota : c.ota = none)
      (hraw : ∀ b ∈ raw, b.1 ≠ 10) (hline : c.line = lineFill Prod.fst [] raw)
      (hnext : raw ++ (c.buf ++ unread) <+: markStream u (sent.drop u)) : Framed sent ⟨unread, c⟩
  | payload {unread c t} (u : Nat) (l payload trailer : Bytes) (got : List Marked)
      (hsent : sent[u]? = some (.ota l payload trailer)) (hpc : c.pc = .reading)
      (hota : c.ota = some t) (hbuf : c.buf = []) (hline : ∀ b ∈ c.line, b.2 = .line u)
      (ht : t.Receiving) (hsize : t.size = payload.length) (hgot : t.pc = .payload got)
      (hlt : got.length < t.want)
      (hnext : t.written ++ (got ++ unread) <+:
        markPayload u payload ++
          (markTrailer u trailer ++ markStream (u + 1) (sent.drop (u + 1)))) :
      Framed sent ⟨unread, c⟩
  | tail {unread c t} (u : Nat) (l payload trailer : Bytes) (got : List Marked)
      (hsent : sent[u]? = some (.ota l payload trailer)) (hpc : c.pc = .reading)
      (hota : c.ota = some t) (hbuf : c.buf = []) (hline : ∀ b ∈ c.line, b.2 = .line u)
      (hwritten : t.written = markPayload u payload) (hgot : t.pc = .tail got)
      (hlt : got.length < 4)
      (hnext : got ++ unread <+: markTrailer u trailer ++ markStream (u + 1) (sent.drop (u + 1))) :
      Framed sent ⟨unread, c⟩
  | restarting {unread c t} (u : Nat) (l payload trailer : Bytes)
      (hsent : sent[u]? = some (.ota l payload trailer)) (hpc : c.pc = .reading)
      (hota : c.ota = some t) (hline : ∀ b ∈ c.line, b.2 = .line u)
      (hwritten : t.written = markPayload u payload) (hgot : t.pc = .restarting) :
      Framed sent ⟨unread, c⟩
  | starved {c t} (hpc : c.pc ≠ .closed) (hota : c.ota = some t) (hbuf : c.buf = [])
      (hwritten : t.written = []) (hgot : t.pc = .payload []) : Framed sent ⟨[], c⟩
  | closed {unread c} (hpc : c.pc = .closed) (hota : c.ota = none) : Framed sent ⟨unread, c⟩

@[simp] theorem length_markPayload (u : Nat) (payload : Bytes) :
    (markPayload u payload).length = payload.length := by
  simp [markPayload]

/-- A line without a line end has none when it is marked. -/
theorem markLine_ne {u : Nat} {l : Bytes} (h : 10 ∉ l) : ∀ b ∈ markLine u l, b.1 ≠ 10 := by
  intro b hb
  obtain ⟨x, hx, rfl⟩ := List.mem_map.mp hb
  rintro rfl
  exact h hx

/-- What the line buffer makes of the marked line is what it makes of the line. -/
theorem map_lineFill_markLine (u : Nat) (l : Bytes) :
    (lineFill Prod.fst [] (markLine u l)).map Prod.fst = lineFill id [] l := by
  rw [map_lineFill, markLine, List.map_map]
  simp [Function.comp_def]

/-- What has been read of a line is in that line. -/
theorem place_of_raw {sent : List Sent} {u : Nat} {raw rest : List Marked}
    (hraw : ∀ b ∈ raw, b.1 ≠ 10) (h : raw ++ rest <+: markStream u (sent.drop u)) :
    ∀ b ∈ raw, b.2 = .line u := by
  intro b hb
  cases hs : sent.drop u with
  | nil =>
    rw [hs] at h
    have hnil : raw ++ rest = [] := List.prefix_nil.mp h
    rw [(List.append_eq_nil_iff.mp hnil).1] at hb
    cases hb
  | cons s ss =>
    rw [hs, markStream] at h
    have hpre : raw <+: markLine u s.head :=
      Separator.prefix_of_append_prefix (p := fun b : Marked => b.1 = 10)
        (fun x hx => by simpa using hraw x hx) (by simp) h
    obtain ⟨x, -, rfl⟩ := List.mem_map.mp (hpre.subset hb)
    rfl

/-- **At a line end** the line is that of the thing sent, and its payload or the next line
follows. -/
theorem at_lineEnd {sent : List Sent} (hvalid : ∀ s ∈ sent, s.Valid) {u : Nat}
    {raw rest : List Marked} {nl : Marked} (hraw : ∀ b ∈ raw, b.1 ≠ 10) (hnl : nl.1 = 10)
    (h : raw ++ nl :: rest <+: markStream u (sent.drop u)) :
    ∃ s, sent[u]? = some s ∧ s.Valid ∧ raw = markLine u s.head ∧
      rest <+: s.tail u ++ markStream (u + 1) (sent.drop (u + 1)) := by
  cases hs : sent.drop u with
  | nil =>
    rw [hs] at h
    simp [markStream] at h
  | cons s ss =>
    have hget : sent[u]? = some s := by
      have := congrArg List.head? hs
      rwa [List.head?_drop, List.head?_cons] at this
    have hdrop : sent.drop (u + 1) = ss := by
      rw [← List.drop_drop, hs, List.drop_one, List.tail_cons]
    have hv : s.Valid := hvalid s (List.mem_of_getElem? hget)
    have hhead : 10 ∉ s.head := by
      cases s with
      | line l => exact hv.1
      | ota l payload trailer => exact hv.1
    rw [hs, markStream, ← hdrop] at h
    obtain ⟨heq, hrest⟩ := Separator.eq_of_cons_prefix (p := fun b : Marked => b.1 = 10)
      (fun x hx => by simpa using hraw x hx) (by simpa using hnl)
      (fun x hx => by simpa using markLine_ne hhead x hx) (by simp) h
    exact ⟨s, hget, hv, heq, hrest⟩

/-- A line that is left empty is no OTA line. -/
theorem otaArgs_nil : otaArgs [] = none := by decide

/-! ## The network -/

/-- A `recv`: the task is not at one; or some bytes arrive; or the call returns none. -/
theorem TcpStream.receive_cases {net : NetEv} {w : TcpStream} (h : ¬ w.Blocked net) :
    (w.client.asks = 0 ∧ (w.receive net).2 <+: w.unread) ∨
    (∃ n bs rest, net = .bytes n ∧ bs = w.unread.take (min (n + 1) w.client.asks) ∧ bs ≠ [] ∧
      bs.length ≤ w.client.asks ∧ w.receive net = (.data bs, rest) ∧ w.unread = bs ++ rest) ∨
    (w.receive net = (.data [], [])) ∨
    ((net = .err ∧ w.receive net = (.err, w.unread)) ∨
      (net = .eintr ∧ w.receive net = (.eintr, w.unread))) := by
  cases net with
  | bytes n =>
    by_cases hasks : w.client.asks = 0
    · refine .inl ⟨hasks, ?_⟩
      simp [TcpStream.receive, hasks]
    · have hne : w.unread ≠ [] := fun hnil => h ⟨⟨n, rfl⟩, hasks, hnil⟩
      refine .inr (.inl ⟨n, _, w.unread.drop (min (n + 1) w.client.asks), rfl, rfl, ?_, ?_, rfl,
        (List.take_append_drop _ _).symm⟩)
      · simp [hne, hasks]
      · simp
  | eof => exact .inr (.inr (.inl rfl))
  | err => exact .inr (.inr (.inr (.inl ⟨rfl, rfl⟩)))
  | eintr => exact .inr (.inr (.inr (.inr ⟨rfl, rfl⟩)))

/-! ## A dispatched line -/

variable {E C} {sent : List Sent}

/-- With nothing left to read, a task that has dispatched a line is in no line, or done. -/
theorem Framed.resume {c : TcpClient Marked} (hbuf : c.buf = []) : Framed sent ⟨[], c.resume⟩ := by
  unfold TcpClient.resume
  split
  · next hpc => exact .line 0 [] hpc rfl nofun rfl (by simp [hbuf])
  · exact .closed rfl rfl
  · exact .closed rfl rfl

/-- **The line at a line end.** A command line gives way to what follows it. An OTA line enters
`ota_perform`, which is at the beginning of the payload. -/
theorem Framed.dispatch {i : StreamIn} {r : Recv Marked} {c : TcpClient Marked}
    {unread : List Marked} {u : Nat} {s : Sent} (hpc : c.pc = .reading) (hget : sent[u]? = some s)
    (hv : s.Valid) (hline : c.line = lineFill Prod.fst [] (markLine u s.head))
    (hnext : c.buf ++ unread <+: s.tail u ++ markStream (u + 1) (sent.drop (u + 1)))
    (hover : ∀ size crc, otaArgs (c.line.map Prod.fst) = some (size, crc) →
      c.buf = [] ∧ (unread = [] ∨ i.Accepts E size c)) :
    Framed sent ⟨unread,
      (c.dispatch Prod.fst E ⟨r, i.cmd, i.stack, i.mallocOk⟩ i.state i.log).1⟩ := by
  have hplace : ∀ b ∈ c.line, b.2 = .line u := by
    intro b hb
    rw [hline] at hb
    rcases mem_lineFill hb with hb | hb
    · cases hb
    · obtain ⟨x, -, rfl⟩ := List.mem_map.mp hb
      rfl
  have hargs : otaArgs (c.line.map Prod.fst) = otaArgs (lineFill id [] s.head) := by
    rw [hline, map_lineFill_markLine]
  obtain ⟨o, ho⟩ : ∃ o, cmdLine i.cmd .tcp (c.line.map Prod.fst) c.authed i.state = o := ⟨_, rfl⟩
  simp only [TcpClient.dispatch, ho]
  cases s with
  | line l =>
    cases hota : o.ota with
    | none =>
      simp only [TcpClient.resume, hpc]
      refine .line (u + 1) [] rfl rfl ?_ rfl (by simpa [Sent.tail] using hnext)
      intro b hb
      cases hb
    | some size =>
      obtain ⟨-, -, -, -, ⟨crc, hsome⟩, -⟩ := cmdLine_ota _ _ _ _ _ ((congrArg _ ho).trans hota)
      rw [hargs, Sent.head, hv.2] at hsome
      cases hsome
  | ota l payload trailer =>
    obtain ⟨-, ⟨crc, hcrc⟩, -⟩ := hv
    have hsome := hargs.trans hcrc
    obtain ⟨hbuf, hover⟩ := hover _ _ hsome
    rw [hbuf, List.nil_append, Sent.tail, List.append_assoc] at hnext
    cases hota : o.ota with
    | none =>
      rcases hover with rfl | ⟨hauth, ⟨-, hsize, -⟩, -⟩
      · exact .resume hbuf
      · have := cmdLine_ota_of_args i.cmd i.state hsome hsize
        rw [← hauth, ho] at this
        rw [this] at hota
        cases hota
    | some size =>
      obtain ⟨-, -, -, -, ⟨crc', hsome'⟩, -⟩ := cmdLine_ota _ _ _ _ _ ((congrArg _ ho).trans hota)
      rw [hsome] at hsome'
      obtain ⟨rfl, -⟩ : payload.length = size ∧ crc = crc' := by simpa using hsome'
      obtain ⟨⟨t, log⟩, henter⟩ : ∃ q : TcpOta Marked × FlashLog,
        otaPerformEnter E i.stack i.mallocOk payload.length i.log = q := ⟨_, rfl⟩
      obtain ⟨hwritten, hsize, hcase⟩ := otaPerformEnter_cases _ _ _ _ henter
      simp only [henter]
      rcases hcase with ⟨e, he⟩ | ⟨hpay, ht, hne⟩
      · simp only [TcpClient.inOta, he]
        rcases hover with rfl | ⟨-, ⟨hact, hne, dst, hdst, hle⟩, hfate, hmalloc⟩
        · exact .resume hbuf
        · rw [hmalloc] at henter
          have hpay := (otaPerformEnter_payload_iff henter).mpr
            ⟨⟨hact, hne, ⟨dst, hdst, hle⟩, hfate⟩, rfl⟩
          rw [he] at hpay
          cases hpay
      · simp only [TcpClient.inOta, hpay]
        refine .payload u l payload trailer [] hget hpc rfl hbuf hplace ht hsize hpay ?_ ?_
        · rw [TcpOta.want, hsize, ht.received, hwritten, otaWriteBufSz]
          simp only [List.length_nil]
          omega
        · rw [hwritten]
          exact hnext

/-- **The line at the end of the loop.** The socket is closed after it, unless it is an OTA line,
and then nothing follows. -/
theorem Framed.dispatch_last {i : StreamIn} {r : Recv Marked} {c : TcpClient Marked}
    {unread : List Marked} (hpc : c.pc = .leaving) (hbuf : c.buf = [])
    (hover : ∀ sc ∈ otaArgs (c.line.map Prod.fst), unread = [] ∨ ¬ i.Accepts E sc.1 c) :
    Framed sent ⟨unread,
      (c.dispatch Prod.fst E ⟨r, i.cmd, i.stack, i.mallocOk⟩ i.state i.log).1⟩ := by
  obtain ⟨o, ho⟩ : ∃ o, cmdLine i.cmd .tcp (c.line.map Prod.fst) c.authed i.state = o := ⟨_, rfl⟩
  simp only [TcpClient.dispatch, ho]
  cases hota : o.ota with
  | none =>
    simp only [TcpClient.resume, hpc]
    exact .closed rfl rfl
  | some size =>
    obtain ⟨-, -, hauth, -, ⟨crc, hsome⟩, -⟩ :=
      cmdLine_ota _ _ _ _ _ ((congrArg _ ho).trans hota)
    obtain ⟨⟨t, log⟩, henter⟩ : ∃ q : TcpOta Marked × FlashLog,
      otaPerformEnter E i.stack i.mallocOk size i.log = q := ⟨_, rfl⟩
    obtain ⟨hwritten, -, hcase⟩ := otaPerformEnter_cases _ _ _ _ henter
    simp only [henter]
    rcases hcase with ⟨e, he⟩ | ⟨hpay, -, -⟩
    · simp only [TcpClient.inOta, he, TcpClient.resume, hpc]
      exact .closed rfl rfl
    · obtain ⟨⟨hact, hsize, hfits, hfate⟩, hmalloc⟩ := (otaPerformEnter_payload_iff henter).mp hpay
      obtain rfl := (hover _ hsome).resolve_right
        (not_not.mpr ⟨hauth, ⟨hact, hsize, hfits⟩, hfate, hmalloc⟩)
      simp only [TcpClient.inOta, hpay]
      exact .starved (by simp [hpc]) rfl hbuf hwritten hpay

/-! ## One step -/

/-- What is still to come after a step that does not read is what was, or is cut off. -/
theorem prefix_append_left {α : Type*} {as xs ys bs : List α} (h : xs <+: ys)
    (hys : as ++ ys <+: bs) : as ++ xs <+: bs :=
  ((List.prefix_append_right_inj as).mpr h).trans hys

/-- The part of a prefix that is as long as the first part of the list is that part. -/
theorem eq_of_prefix_append {α : Type*} {as xs bs ys : List α} (h : as ++ xs <+: bs ++ ys)
    (hlen : as.length = bs.length) : as = bs :=
  (List.prefix_of_prefix_length_le ((List.prefix_append _ _).trans h) (List.prefix_append _ _)
    hlen.le).eq_of_length hlen

/-- A step of a task that is in its loop. -/
theorem TcpStream.step_reading {unread : List Marked} {c : TcpClient Marked} {i : StreamIn}
    (hb : ¬ TcpStream.Blocked i.net ⟨unread, c⟩) (hpc : c.pc = .reading) (hota : c.ota = none)
    {r : Recv Marked} {rest : List Marked}
    (hr : TcpStream.receive i.net ⟨unread, c⟩ = (r, rest)) :
    TcpStream.step E C ⟨unread, c⟩ i =
      ⟨rest, (if (c.advance Prod.fst r).2 then
        (c.advance Prod.fst r).1.dispatch Prod.fst E ⟨r, i.cmd, i.stack, i.mallocOk⟩ i.state i.log
        else ((c.advance Prod.fst r).1, i.state, i.log)).1⟩ := by
  simp only [TcpStream.step, if_neg hb, TcpClient.step, hpc, hota, hr]

/-- **A `recv` in the loop.** -/
theorem Framed.step_recv {unread : List Marked} {c : TcpClient Marked} {i : StreamIn}
    (hb : ¬ TcpStream.Blocked i.net ⟨unread, c⟩) (hok : TcpStream.HandOver E ⟨unread, c⟩ i)
    {u : Nat} {raw : List Marked} (hpc : c.pc = .reading) (hota : c.ota = none)
    (hbuf : c.buf = []) (hraw : ∀ b ∈ raw, b.1 ≠ 10) (hline : c.line = lineFill Prod.fst [] raw)
    (hnext : raw ++ unread <+: markStream u (sent.drop u)) :
    Framed sent (TcpStream.step E C ⟨unread, c⟩ i) := by
  obtain ⟨⟨r, rest⟩, hr⟩ : ∃ q, TcpStream.receive i.net ⟨unread, c⟩ = q := ⟨_, rfl⟩
  have hcases := TcpStream.receive_cases hb
  have hleave := (hok.1 hota).2
  have hasks : c.asks = clientBufSz := by simp only [TcpClient.asks, hpc, hota, hbuf]
  rw [TcpStream.step_reading hb hpc hota hr]
  dsimp only at hleave
  simp only [hr] at hcases
  -- without bytes the task leaves its loop, and dispatches what the line has
  have hhang : ∀ r, (r = .data [] ∨ r = .err ∨ r = .eintr) →
      (∀ sc ∈ otaArgs (c.line.map Prod.fst), rest = [] ∨ ¬ i.Accepts E sc.1 c) →
      Framed sent ⟨rest, (if (c.advance Prod.fst r).2 then
        (c.advance Prod.fst r).1.dispatch Prod.fst E ⟨r, i.cmd, i.stack, i.mallocOk⟩ i.state i.log
        else ((c.advance Prod.fst r).1, i.state, i.log)).1⟩ := by
    intro r hr hrest
    have hadv : c.advance Prod.fst r = if c.line = [] then ({ c with pc := .closed }, false)
        else ({ c with pc := .leaving }, true) := by
      rcases hr with rfl | rfl | rfl <;> simp only [TcpClient.advance, hbuf]
    rw [hadv]
    by_cases hnil : c.line = []
    · rw [if_pos hnil]
      exact .closed rfl hota
    · rw [if_neg hnil]
      exact Framed.dispatch_last rfl hbuf hrest
  rcases hcases with ⟨h0, -⟩ | ⟨n, bs, rest', hn, -, hne, hle, heq, hun⟩ | heq |
    ⟨hn, heq⟩ | ⟨hn, heq⟩
  · rw [hasks] at h0
    cases h0
  · cases heq
    obtain ⟨b, bs, rfl⟩ := List.exists_cons_of_ne_nil hne
    rw [hasks] at hle
    simp only [TcpClient.advance, hbuf, List.take_of_length_le hle]
    rw [hun] at hnext
    exact .line u raw hpc hota hraw hline hnext
  · cases heq
    exact hhang _ (.inl rfl) fun _ _ => .inl rfl
  · cases heq
    exact hhang _ (.inr (.inl rfl)) (hleave hbuf (.inl hn))
  · cases heq
    exact hhang _ (.inr (.inr rfl)) (hleave hbuf (.inr hn))

/-- A step with a segment in the buffer reads nothing. -/
theorem TcpStream.receive_segment {net : NetEv} {unread : List Marked} {c : TcpClient Marked}
    (hb : ¬ TcpStream.Blocked net ⟨unread, c⟩) (hpc : c.pc = .reading) (hota : c.ota = none)
    (hbuf : c.buf ≠ []) : (TcpStream.receive net ⟨unread, c⟩).2 <+: unread := by
  have hasks : c.asks = 0 := by
    obtain ⟨b, bs, hcons⟩ := List.exists_cons_of_ne_nil hbuf
    simp only [TcpClient.asks, hpc, hota, hcons]
  rcases TcpStream.receive_cases hb with
    ⟨-, h⟩ | ⟨n, bs, rest, -, -, hne, hle, -⟩ | heq | ⟨-, heq⟩ | ⟨-, heq⟩
  · exact h
  · rw [hasks, Nat.le_zero] at hle
    exact absurd (List.eq_nil_of_length_eq_zero hle) hne
  · rw [heq]
    exact List.nil_prefix
  · exact heq.symm ▸ List.prefix_rfl
  · exact heq.symm ▸ List.prefix_rfl

/-- An empty line is not dispatched; it is a command line, and the next line follows. -/
theorem Framed.empty_line {unread : List Marked} {c : TcpClient Marked} {u : Nat} {s : Sent}
    (hpc : c.pc = .reading) (hota : c.ota = none) (hv : s.Valid)
    (hempty : lineFill Prod.fst [] (markLine u s.head) = []) (hline : c.line = [])
    (hnext : c.buf ++ unread <+: s.tail u ++ markStream (u + 1) (sent.drop (u + 1))) :
    Framed sent ⟨unread, c⟩ := by
  refine .line (u + 1) [] hpc hota nofun hline ?_
  cases s with
  | line l => exact hnext
  | ota l payload trailer =>
    obtain ⟨-, ⟨crc, hcrc⟩, -⟩ := hv
    have hnil : lineFill id [] l = [] := by
      rw [← map_lineFill_markLine u l]
      exact congrArg (List.map Prod.fst) hempty
    rw [hnil, otaArgs_nil] at hcrc
    cases hcrc

/-- **A segment in the buffer.** Up to its line end, or as a whole, it goes into the line. -/
theorem Framed.step_segment (hvalid : ∀ s ∈ sent, s.Valid) {unread : List Marked}
    {c : TcpClient Marked} {i : StreamIn} (hb : ¬ TcpStream.Blocked i.net ⟨unread, c⟩)
    (hok : TcpStream.HandOver E ⟨unread, c⟩ i) {u : Nat} {raw : List Marked} {b : Marked}
    {bs : List Marked} (hpc : c.pc = .reading) (hota : c.ota = none) (hbuf : c.buf = b :: bs)
    (hraw : ∀ b ∈ raw, b.1 ≠ 10) (hline : c.line = lineFill Prod.fst [] raw)
    (hnext : raw ++ (b :: bs ++ unread) <+: markStream u (sent.drop u)) :
    Framed sent (TcpStream.step E C ⟨unread, c⟩ i) := by
  obtain ⟨⟨r, rest⟩, hr⟩ : ∃ q, TcpStream.receive i.net ⟨unread, c⟩ = q := ⟨_, rfl⟩
  have hrest : rest <+: unread := by
    have h := TcpStream.receive_segment hb hpc hota (by simp [hbuf])
    rwa [hr] at h
  have hsplit := (hok.1 hota).1
  rw [TcpStream.step_reading hb hpc hota hr]
  dsimp only at hsplit
  simp only [TcpClient.advance, hbuf]
  rw [hbuf] at hsplit
  cases hls : lineSplit Prod.fst (b :: bs) with
  | none =>
    have hseg : ∀ x ∈ b :: bs, x.1 ≠ 10 := fun x hx => by
      simpa using Separator.split_eq_none hls x hx
    show Framed sent ⟨rest, { c with line := lineFill Prod.fst c.line (b :: bs), buf := [] }⟩
    refine .line u (raw ++ b :: bs) hpc hota ?_ ?_ ?_
    · intro x hx
      rcases List.mem_append.mp hx with hx | hx
      · exact hraw x hx
      · exact hseg x hx
    · rw [lineFill_append, ← hline]
    · rw [← List.append_assoc] at hnext
      exact prefix_append_left hrest hnext
  | some cr =>
    obtain ⟨chunk, after⟩ := cr
    obtain ⟨nl, hnl, heq, hchunk⟩ := Separator.split_eq_some hls
    have hchunk' : ∀ x ∈ raw ++ chunk, x.1 ≠ 10 := by
      intro x hx
      rcases List.mem_append.mp hx with hx | hx
      · exact hraw x hx
      · simpa using hchunk x hx
    have hcut : (raw ++ chunk) ++ nl :: (after ++ rest) <+: markStream u (sent.drop u) := by
      rw [heq] at hnext
      refine (?_ : _ <+: _).trans hnext
      simp only [List.append_assoc, List.cons_append, List.prefix_append_right_inj,
        List.cons_prefix_cons, true_and]
      exact hrest
    obtain ⟨s, hget, hv, hmark, hfollow⟩ :=
      at_lineEnd hvalid hchunk' (by simpa using hnl) hcut
    have hfill : lineFill Prod.fst c.line chunk = lineFill Prod.fst [] (markLine u s.head) := by
      rw [hline, ← lineFill_append, hmark]
    dsimp only
    by_cases hnil : lineFill Prod.fst c.line chunk = []
    · rw [if_neg (by simp [hnil])]
      exact Framed.empty_line hpc hota hv (hfill.symm.trans hnil) hnil hfollow
    · rw [if_pos (by simp [hnil])]
      refine Framed.dispatch
        (c := { c with line := lineFill Prod.fst c.line chunk, buf := after })
        hpc hget hv hfill hfollow fun size crc hsome => ?_
      obtain ⟨rfl, h⟩ := hsplit (chunk, after) hls (size, crc) hsome
      refine ⟨rfl, h.imp (fun hnil => ?_) fun h => h⟩
      rw [hnil] at hrest
      exact List.prefix_nil.mp hrest

/-- **A step in the loop.** -/
theorem Framed.step_line (hvalid : ∀ s ∈ sent, s.Valid) {unread : List Marked}
    {c : TcpClient Marked} {i : StreamIn} (hb : ¬ TcpStream.Blocked i.net ⟨unread, c⟩)
    (hok : TcpStream.HandOver E ⟨unread, c⟩ i) {u : Nat} {raw : List Marked}
    (hpc : c.pc = .reading) (hota : c.ota = none) (hraw : ∀ b ∈ raw, b.1 ≠ 10)
    (hline : c.line = lineFill Prod.fst [] raw)
    (hnext : raw ++ (c.buf ++ unread) <+: markStream u (sent.drop u)) :
    Framed sent (TcpStream.step E C ⟨unread, c⟩ i) := by
  cases hbuf : c.buf with
  | nil =>
    rw [hbuf] at hnext
    exact Framed.step_recv hb hok hpc hota hbuf hraw hline hnext
  | cons b bs =>
    rw [hbuf] at hnext
    exact Framed.step_segment hvalid hb hok hpc hota hbuf hraw hline hnext

/-- A step of a task that is in `ota_perform`. -/
theorem TcpStream.step_inOta {unread : List Marked} {c : TcpClient Marked} {i : StreamIn}
    {t t' : TcpOta Marked} {log' : FlashLog} (hb : ¬ TcpStream.Blocked i.net ⟨unread, c⟩)
    (hpc : c.pc ≠ .closed) (hota : c.ota = some t) {r : Recv Marked} {rest : List Marked}
    (hr : TcpStream.receive i.net ⟨unread, c⟩ = (r, rest))
    (h : otaPerformRecv Prod.fst E C r t i.log = (t', log')) :
    TcpStream.step E C ⟨unread, c⟩ i = ⟨rest, c.inOta t'⟩ := by
  simp only [TcpStream.step, if_neg hb, hr, TcpClient.step, hota]
  cases hc : c.pc with
  | closed => exact absurd hc hpc
  | reading => simp only [h]
  | leaving => simp only [h]

/-- A task whose `ota_perform` has returned reads on with an empty line. -/
theorem Framed.returned {unread : List Marked} {c : TcpClient Marked} {t : TcpOta Marked}
    {e : EspErr} (hpc : c.pc = .reading) (hbuf : c.buf = []) (ht : t.pc = .returned e) {u : Nat}
    (hnext : unread <+: markStream u (sent.drop u)) : Framed sent ⟨unread, c.inOta t⟩ := by
  simp only [TcpClient.inOta, ht, TcpClient.resume, hpc]
  exact .line u [] rfl rfl nofun rfl (by simpa [hbuf] using hnext)

/-- A `recv` without bytes leaves the run where it is, or ends it with nothing to come. -/
theorem Framed.failed {rest : List Marked} {c : TcpClient Marked} {t t' : TcpOta Marked}
    {r : Recv Marked} {log log' : FlashLog} (hpc : c.pc = .reading) (hbuf : c.buf = [])
    (hr : r = .data [] ∨ r = .err ∨ r = .eintr) (hstay : Framed sent ⟨rest, c.inOta t⟩)
    (hrest : r ≠ .eintr → rest = []) (h : otaPerformRecv Prod.fst E C r t log = (t', log')) :
    Framed sent ⟨rest, c.inOta t'⟩ := by
  rcases otaPerformRecv_failed hr h with rfl | ⟨hne, e, he⟩
  · exact hstay
  · obtain rfl := hrest hne
    exact .returned (u := 0) hpc hbuf he List.nil_prefix

/-- **A step in `ota_perform`.** Only a `recv` that returns bytes moves the run on; the others leave
it where it is, or end it with nothing to come. -/
theorem Framed.step_inOta {unread : List Marked} {c : TcpClient Marked} {i : StreamIn}
    (hb : ¬ TcpStream.Blocked i.net ⟨unread, c⟩) (hok : TcpStream.HandOver E ⟨unread, c⟩ i)
    {t : TcpOta Marked} (hpc : c.pc = .reading) (hota : c.ota = some t) (hbuf : c.buf = [])
    (hasks : t.asks ≠ 0) (hstay : ∀ rest, rest <+: unread → Framed sent ⟨rest, c.inOta t⟩)
    (hdata : ∀ bs rest t' log', bs ≠ [] → bs.length ≤ t.asks → unread = bs ++ rest →
      otaPerformRecv Prod.fst E C (.data bs) t i.log = (t', log') →
      (rest = [] ∨ ∀ got, t.pc = .payload got → t.want ≤ got.length + bs.length →
        E.fate .otaWrite i.log.length = .ok) →
      Framed sent ⟨rest, c.inOta t'⟩) :
    Framed sent (TcpStream.step E C ⟨unread, c⟩ i) := by
  have hcasks : c.asks = t.asks := by simp only [TcpClient.asks, hpc, hota]
  have hok := hok.2 t hota
  obtain ⟨⟨r, rest⟩, hr⟩ : ∃ q, TcpStream.receive i.net ⟨unread, c⟩ = q := ⟨_, rfl⟩
  obtain ⟨⟨t', log'⟩, h⟩ : ∃ q, otaPerformRecv Prod.fst E C r t i.log = q := ⟨_, rfl⟩
  rw [TcpStream.step_inOta hb (by simp [hpc]) hota hr h]
  have hcases := TcpStream.receive_cases hb
  simp only [hr] at hcases hok
  rcases hcases with ⟨h0, -⟩ | ⟨n, bs, rest', hn, hbs, hne, hle, heq, hun⟩ | heq |
    ⟨hn, heq⟩ | ⟨-, heq⟩
  · exact absurd (hcasks.symm.trans h0) hasks
  · cases heq
    rw [hcasks] at hle
    refine hdata bs rest t' log' hne hle hun h (hok.imp id ?_)
    rintro ⟨-, hfate⟩ got hgot hfull
    refine hfate ?_
    rw [hbs] at hfull
    simp only [TcpStream.completes, hgot, hn]
    exact decide_eq_true hfull
  · cases heq
    exact .failed hpc hbuf (.inl rfl) (hstay _ List.nil_prefix) (fun _ => rfl) h
  · cases heq
    refine .failed hpc hbuf (.inr (.inl rfl)) (hstay _ List.prefix_rfl) (fun _ => ?_) h
    exact hok.resolve_right fun h => h.1 hn
  · cases heq
    exact .failed hpc hbuf (.inr (.inr rfl)) (hstay _ List.prefix_rfl) (absurd rfl) h

/-- **A step in the payload.** -/
theorem Framed.step_payload {unread : List Marked} {c : TcpClient Marked} {i : StreamIn}
    (hb : ¬ TcpStream.Blocked i.net ⟨unread, c⟩) (hok : TcpStream.HandOver E ⟨unread, c⟩ i)
    {t : TcpOta Marked} {u : Nat} {l payload trailer : Bytes} {got : List Marked}
    (hsent : sent[u]? = some (.ota l payload trailer)) (hpc : c.pc = .reading)
    (hota : c.ota = some t) (hbuf : c.buf = []) (hline : ∀ b ∈ c.line, b.2 = .line u)
    (ht : t.Receiving) (hsize : t.size = payload.length) (hgot : t.pc = .payload got)
    (hlt : got.length < t.want)
    (hnext : t.written ++ (got ++ unread) <+:
      markPayload u payload ++ (markTrailer u trailer ++ markStream (u + 1) (sent.drop (u + 1)))) :
    Framed sent (TcpStream.step E C ⟨unread, c⟩ i) := by
  refine Framed.step_inOta hb hok hpc hota hbuf ?_ ?_ ?_
  · simp only [TcpOta.asks, hgot]
    omega
  · intro rest hpre
    simp only [TcpClient.inOta, hgot]
    refine .payload u l payload trailer got hsent hpc rfl hbuf hline ht hsize hgot hlt ?_
    rw [← List.append_assoc] at hnext ⊢
    exact prefix_append_left hpre hnext
  · intro bs rest t' log' hne hle hun h hover
    rcases otaPerformRecv_payload hgot ht hlt hne hle h with
      ⟨hfull, hfate, e, he⟩ | ⟨hsize', ht', ⟨hpc', hw, hlt'⟩ | ⟨hw, ⟨hpc', hmore⟩ | ⟨hpc', hall⟩⟩⟩
    · -- the chunk was not taken, which the condition allows only when nothing follows
      rw [hover.resolve_right fun hfates => hfate (hfates got hgot hfull)]
      exact Framed.returned (u := 0) hpc hbuf he List.nil_prefix
    · simp only [TcpClient.inOta, hpc']
      refine .payload u l payload trailer (got ++ bs) hsent hpc rfl hbuf hline ht'
        (hsize'.trans hsize) hpc' hlt' ?_
      rwa [hw, List.append_assoc, ← hun]
    · simp only [TcpClient.inOta, hpc']
      refine .payload u l payload trailer [] hsent hpc rfl hbuf hline ht' (hsize'.trans hsize) hpc'
        ?_ ?_
      · rw [TcpOta.want, ht'.received, otaWriteBufSz]
        simp only [List.length_nil]
        omega
      · rw [hun] at hnext
        rwa [hw, List.nil_append, List.append_assoc, List.append_assoc]
    · -- the payload is complete
      rw [hun] at hnext
      have hsplit : t'.written ++ rest <+: markPayload u payload ++
          (markTrailer u trailer ++ markStream (u + 1) (sent.drop (u + 1))) := by
        rwa [hw, List.append_assoc, List.append_assoc]
      have hlen : t'.written.length = (markPayload u payload).length := by
        rw [hall, hsize', hsize, length_markPayload]
      have hwritten : t'.written = markPayload u payload := eq_of_prefix_append hsplit hlen
      rw [hwritten, List.prefix_append_right_inj] at hsplit
      simp only [TcpClient.inOta, hpc']
      exact .tail u l payload trailer [] hsent hpc rfl hbuf hline hwritten hpc' (by simp) hsplit

/-- **A step in the trailer.** -/
theorem Framed.step_tail {unread : List Marked} {c : TcpClient Marked} {i : StreamIn}
    (hvalid : ∀ s ∈ sent, s.Valid) (hb : ¬ TcpStream.Blocked i.net ⟨unread, c⟩)
    (hok : TcpStream.HandOver E ⟨unread, c⟩ i) {t : TcpOta Marked} {u : Nat}
    {l payload trailer : Bytes} {got : List Marked}
    (hsent : sent[u]? = some (.ota l payload trailer)) (hpc : c.pc = .reading)
    (hota : c.ota = some t) (hbuf : c.buf = []) (hline : ∀ b ∈ c.line, b.2 = .line u)
    (hwritten : t.written = markPayload u payload) (hgot : t.pc = .tail got) (hlt : got.length < 4)
    (hnext : got ++ unread <+: markTrailer u trailer ++ markStream (u + 1) (sent.drop (u + 1))) :
    Framed sent (TcpStream.step E C ⟨unread, c⟩ i) := by
  have hasks : t.asks = 4 - got.length := by simp only [TcpOta.asks, hgot]
  refine Framed.step_inOta hb hok hpc hota hbuf (by omega) ?_ ?_
  · intro rest hpre
    simp only [TcpClient.inOta, hgot]
    exact .tail u l payload trailer got hsent hpc rfl hbuf hline hwritten hgot hlt
      (prefix_append_left hpre hnext)
  · intro bs rest t' log' hne hle hun h _
    rw [hun, ← List.append_assoc] at hnext
    obtain ⟨hw, ⟨rfl, hshort⟩ | ⟨hfull, hend⟩⟩ := otaPerformRecv_tail hgot hne hle h
    · simp only [TcpClient.inOta]
      exact .tail u l payload trailer (got ++ bs) hsent hpc rfl hbuf hline hwritten rfl hshort hnext
    · -- the trailer is complete
      have htrailer : trailer.length = 4 := (hvalid _ (List.mem_of_getElem? hsent)).2.2
      have hlen : (got ++ bs).length = (markTrailer u trailer).length := by
        rw [markTrailer, List.length_map, htrailer]
        rw [List.length_append] at hfull ⊢
        omega
      have heq : got ++ bs = markTrailer u trailer := eq_of_prefix_append hnext hlen
      rw [heq, List.prefix_append_right_inj] at hnext
      rcases hend with ⟨e, he⟩ | hre
      · exact Framed.returned hpc hbuf he hnext
      · simp only [TcpClient.inOta, hre]
        exact .restarting u l payload trailer hsent hpc rfl hline (hw.trans hwritten) hre

/-- **One step.** A step that meets the condition keeps the readers in their places. -/
theorem Framed.step (hvalid : ∀ s ∈ sent, s.Valid) {w : TcpStream} {i : StreamIn}
    (h : Framed sent w) (hok : w.HandOver E i) : Framed sent (w.step E C i) := by
  by_cases hb : w.Blocked i.net
  · rwa [TcpStream.step, if_pos hb]
  · cases h with
    | line u raw hpc hota hraw hline hnext =>
      exact Framed.step_line hvalid hb hok hpc hota hraw hline hnext
    | payload u l payload trailer got hsent hpc hota hbuf hline ht hsize hgot hlt hnext =>
      exact Framed.step_payload hb hok hsent hpc hota hbuf hline ht hsize hgot hlt hnext
    | tail u l payload trailer got hsent hpc hota hbuf hline hwritten hgot hlt hnext =>
      exact Framed.step_tail hvalid hb hok hsent hpc hota hbuf hline hwritten hgot hlt hnext
    | @restarting unread c t u l payload trailer hsent hpc hota hline hwritten hgot =>
      obtain ⟨⟨r, rest⟩, hr⟩ : ∃ q, TcpStream.receive i.net ⟨unread, c⟩ = q := ⟨_, rfl⟩
      have hsame : otaPerformRecv Prod.fst E C r t i.log = (t, i.log) := by
        simp only [otaPerformRecv, hgot]
      rw [TcpStream.step_inOta hb (by simp [hpc]) hota hr hsame]
      simp only [TcpClient.inOta, hgot]
      exact .restarting u l payload trailer hsent hpc rfl hline hwritten hgot
    | @starved c t hpc hota hbuf hwritten hgot =>
      obtain ⟨⟨r, rest⟩, hr⟩ : ∃ q, TcpStream.receive i.net ⟨[], c⟩ = q := ⟨_, rfl⟩
      obtain ⟨⟨t', log'⟩, h⟩ : ∃ q, otaPerformRecv Prod.fst E C r t i.log = q := ⟨_, rfl⟩
      rw [TcpStream.step_inOta hb hpc hota hr h]
      have hnone : rest = [] ∧ (r = .data [] ∨ r = .err ∨ r = .eintr) := by
        cases hn : i.net <;> rw [hn] at hr <;> cases hr <;> simp
      obtain ⟨rfl, hrf⟩ := hnone
      rcases otaPerformRecv_failed hrf h with rfl | ⟨-, e, he⟩
      · simp only [TcpClient.inOta, hgot]
        exact .starved hpc rfl hbuf hwritten hgot
      · simp only [TcpClient.inOta, he]
        exact .resume hbuf
    | closed hpc hota =>
      simp only [TcpStream.step, if_neg hb, TcpClient.step, hpc]
      exact .closed hpc hota

/-- In its place, a step dispatches bytes of lines only. -/
theorem Framed.dispatches {w : TcpStream} (h : Framed sent w) {r : Recv Marked}
    {line : List Marked} (hline : w.client.dispatches Prod.fst r = some line) :
    ∀ b ∈ line, b.2.isLine = true := by
  have hother : w.client.ota ≠ none ∨ w.client.pc = .closed →
      w.client.dispatches Prod.fst r = none := by
    rintro (hota | hpc)
    · unfold TcpClient.dispatches
      split
      · next hnone => exact absurd hnone hota
      · rfl
    · simp [TcpClient.dispatches, hpc]
  cases h with
  | @line unread c u raw hpc hota hraw hfill hnext =>
    simp only [TcpClient.dispatches, hpc, hota] at hline
    have hadv : ∃ chunk rest, (c.advance Prod.fst r).1.line = lineFill Prod.fst [] (raw ++ chunk) ∧
        (raw ++ chunk) ++ rest <+: markStream u (sent.drop u) ∧ ∀ b ∈ raw ++ chunk, b.1 ≠ 10 := by
      unfold TcpClient.advance
      split
      · exact ⟨[], _, by simpa using hfill, by simpa using hnext, by simpa using hraw⟩
      · refine ⟨[], _, ?_, by simpa using hnext, by simpa using hraw⟩
        split <;> simpa using hfill
      · refine ⟨[], _, ?_, by simpa using hnext, by simpa using hraw⟩
        split <;> simpa using hfill
      · refine ⟨[], _, ?_, by simpa using hnext, by simpa using hraw⟩
        split <;> simpa using hfill
      · next b bs hbuf =>
        rw [hbuf] at hnext
        cases hls : lineSplit Prod.fst (b :: bs) with
        | none =>
          refine ⟨b :: bs, unread, ?_, by simpa using hnext, ?_⟩
          · rw [lineFill_append, ← hfill]
          · intro x hx
            rcases List.mem_append.mp hx with hx | hx
            · exact hraw x hx
            · simpa using Separator.split_eq_none hls x hx
        | some cr =>
          obtain ⟨chunk, after⟩ := cr
          obtain ⟨nl, -, heq, hchunk⟩ := Separator.split_eq_some hls
          refine ⟨chunk, nl :: (after ++ unread), ?_, by simpa [heq] using hnext, ?_⟩
          · rw [lineFill_append, ← hfill]
          · intro x hx
            rcases List.mem_append.mp hx with hx | hx
            · exact hraw x hx
            · simpa using hchunk x hx
    obtain ⟨chunk, rest, hl, hpre, hne⟩ := hadv
    split at hline
    · cases hline
      intro b hb
      rw [hl] at hb
      rcases mem_lineFill hb with hb | hb
      · cases hb
      · rw [place_of_raw hne hpre b hb]
        rfl
    · cases hline
  | payload _ _ _ _ _ _ _ hota => simp [hother (.inl (by simp [hota]))] at hline
  | tail _ _ _ _ _ _ _ hota => simp [hother (.inl (by simp [hota]))] at hline
  | restarting _ _ _ _ _ _ hota => simp [hother (.inl (by simp [hota]))] at hline
  | starved _ hota => simp [hother (.inl (by simp [hota]))] at hline
  | closed hpc => simp [hother (.inr hpc)] at hline

/-- In its place, a session has written the beginning of the payload of its unit. -/
theorem Framed.written {w : TcpStream} (h : Framed sent w) {t : TcpOta Marked}
    (ht : w.client.ota = some t) (hne : t.written ≠ []) :
    ∃ u l payload trailer, sent[u]? = some (.ota l payload trailer) ∧
      (∀ b ∈ w.client.line, b.2 = .line u) ∧ t.written <+: markPayload u payload := by
  cases h with
  | line u raw hpc hota => simp [hota] at ht
  | payload u l payload trailer got hsent hpc hota hbuf hline hrec hsize hgot hlt hnext =>
    obtain rfl : _ = t := Option.some.inj (hota.symm.trans ht)
    refine ⟨u, l, payload, trailer, hsent, hline, ?_⟩
    refine List.prefix_of_prefix_length_le ((List.prefix_append _ _).trans hnext)
      (List.prefix_append _ _) ?_
    rw [length_markPayload, ← hsize]
    exact hrec.le
  | tail u l payload trailer got hsent hpc hota hbuf hline hwritten =>
    obtain rfl : _ = t := Option.some.inj (hota.symm.trans ht)
    exact ⟨u, l, payload, trailer, hsent, hline, hwritten ▸ List.prefix_rfl⟩
  | restarting u l payload trailer hsent hpc hota hline hwritten =>
    obtain rfl : _ = t := Option.some.inj (hota.symm.trans ht)
    exact ⟨u, l, payload, trailer, hsent, hline, hwritten ▸ List.prefix_rfl⟩
  | starved hpc hota hbuf hwritten =>
    obtain rfl : _ = t := Option.some.inj (hota.symm.trans ht)
    exact absurd hwritten hne
  | closed hpc hota => simp [hota] at ht

/-! ## Runs -/

theorem framed_open (sent : List Sent) : Framed sent (.open sent) :=
  .line 0 [] rfl rfl nofun rfl List.prefix_rfl

/-- **Framing.** In every run whose steps all meet the condition, however the network cuts the
stream, every dispatched line has only bytes of lines, and every session writes the payload of its
OTA unit from its beginning on. -/
theorem tcpStream_framed (E : FlashEnv) (C : Crc32) (sent : List Sent)
    (hvalid : ∀ s ∈ sent, s.Valid) (is : List StreamIn)
    (hok : Run.Along (TcpStream.step E C) (TcpStream.HandOver E) (.open sent) is) :
    Run.Along (TcpStream.step E C) (FramingOk E C sent) (.open sent) is := by
  refine hok.mono (framed_open sent) (fun w i h hi => h.step hvalid hi) fun w i h hi => ⟨?_, ?_⟩
  · exact fun line _ hline => h.dispatches hline
  · exact fun t ht hne => (h.step hvalid hi).written ht hne

end

/-! ### A small upload -/

/-- An authentication and a two byte image, with a trailer that is not its CRC. -/
def smallSent : List Sent :=
  [.line (lit "AUTH hunter2"), .ota (lit "OTA 2 0") [0xE9, 1] [1, 2, 3, 4]]

/-- The default token, and nothing else that matters. -/
def streamIn (net : NetEv) : StreamIn where
  net := net
  cmd := ⟨.ok, .factory⟩
  stack := .zero
  mallocOk := true
  state := ⟨.boot none, .boot ⟨[], [], true⟩ none none none⟩
  log := []

theorem smallSent_valid : ∀ s ∈ smallSent, s.Valid := by
  intro s hs
  rcases List.mem_cons.mp hs with rfl | hs
  · exact ⟨by decide, by decide⟩
  · rw [List.mem_singleton] at hs
    subst hs
    exact ⟨by decide, ⟨0, by decide⟩, rfl⟩

/-- Each line arrives in a segment of its own, and the OTA unit in pieces. -/
def smallRun : List StreamIn :=
  [streamIn (.bytes 12), streamIn (.bytes 0), streamIn (.bytes 7), streamIn (.bytes 0),
    streamIn (.bytes 0), streamIn (.bytes 5), streamIn (.bytes 3)]

theorem tcpStream_framed_small :
    Run.Along (TcpStream.step ota0Env romCrc32) (FramingOk ota0Env romCrc32 smallSent)
        (.open smallSent) smallRun ∧
      (Run.exec (TcpStream.step ota0Env romCrc32) (.open smallSent) smallRun).unread = [] :=
  ⟨tcpStream_framed ota0Env romCrc32 smallSent smallSent_valid smallRun (by decide +kernel),
    by decide +kernel⟩

/-- The first byte of the payload arrives in the segment of the OTA line. -/
def sharedSegment : List StreamIn :=
  [streamIn (.bytes 12), streamIn (.bytes 0), streamIn (.bytes 8), streamIn (.bytes 0)]

/-- There is no update partition: the begin is rejected after `ACK`, and the payload and the trailer
go into the line buffer. -/
def rejectedBegin : List StreamIn :=
  [streamIn (.bytes 12), streamIn (.bytes 0), streamIn (.bytes 7), streamIn (.bytes 0),
    streamIn (.bytes 5), streamIn (.bytes 0)]

/-- After a shared segment the session writes the second byte of the payload and the first of the
trailer; after a rejected begin the payload is dispatched as a line. -/
theorem tcpStream_not_framed :
    (∀ s ∈ smallSent, s.Valid) ∧
    ¬ FramingOk ota0Env romCrc32 smallSent
      (Run.exec (TcpStream.step ota0Env romCrc32) (.open smallSent) sharedSegment)
      (streamIn (.bytes 1)) ∧
    ¬ FramingOk ⟨none, fun _ _ => .ok⟩ romCrc32 smallSent
      (Run.exec (TcpStream.step ⟨none, fun _ _ => .ok⟩ romCrc32) (.open smallSent) rejectedBegin)
      (streamIn .eof) := by
  refine ⟨smallSent_valid, fun h => ?_, fun h => ?_⟩
  · have hrun : ((Run.exec (TcpStream.step ota0Env romCrc32) (.open smallSent)
        sharedSegment).step ota0Env romCrc32 (streamIn (.bytes 1))).client.ota.map (·.written) =
        some [(1, .payload 1 1), (1, .trailer 1)] := by decide +kernel
    obtain ⟨t, ht, hw⟩ := Option.map_eq_some_iff.mp hrun
    obtain ⟨u, l, payload, trailer, -, -, hpre⟩ := h.2 t ht (by simp [hw])
    have hmem : ((1, .trailer 1) : Marked) ∈ markPayload u payload := hpre.subset (by simp [hw])
    obtain ⟨x, -, hx⟩ := List.mem_map.mp hmem
    exact nomatch congrArg Prod.snd hx
  · have hline : ((1, .payload 1 1) : Marked) ∈ [((0xE9, .payload 1 0) : Marked), (1, .payload 1 1),
        (1, .trailer 1), (2, .trailer 1), (3, .trailer 1), (4, .trailer 1)] := by decide
    exact absurd (h.1 _ (by decide +kernel) (by decide +kernel) _ hline) (by decide)

end RemoteControl
