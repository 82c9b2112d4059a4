import RemoteControl.Net.OtaAtomic

/-!
# An update over TCP goes through

Where nothing fails, an update over TCP neither stops nor goes on for ever. `OtaLink.OnTrack` says
where such an update can stand; in each of these places but the last some step of the host or of the
device has an effect (`OtaLink.OnTrack.moves`), and every step with an effect takes from
`OtaLink.todo`, what is still to be sent and received (`OtaLink.OnTrack.step`). So an update that
nobody stops is through after at most so many steps, in whatever order they come and however the
network cuts the bytes.
-/

namespace RemoteControl

open CString

/-- A step in which nothing fails. -/
def OtaLinkEv.Fine : OtaLinkEv → Prop
  | .host => True
  | .device i _ => i.stack.active = false ∧ i.mallocOk = true
  | .hostFails _ | .timeout _ | .reset | .reply _ => False

/-- How many calls the host has before it, at most. -/
def OtaTcpPc.todo (data : Bytes) : OtaTcpPc → Nat
  | .header => data.length + 4
  | .ack => data.length + 3
  | .chunk off => data.length - off + 2
  | .result => 1
  | .left _ => 0

/-- What the device has before it: to receive and to search what is left of the header, and to
receive the payload and the trailer. -/
def OtaLink.deviceTodo (data : Bytes) (w : OtaLink) : Nat :=
  match w.client.ota with
  | none =>
    2 * (w.up.length + if w.host = .header then (otaHeader data).length + 1 else 0) +
      (if w.client.buf = [] then 0 else 1) + (data.length + 4)
  | some t => if t.pc = .restarting then 0 else w.up.length + (w.host.rest data).length

/-- What is still to be done. -/
def OtaLink.todo (data : Bytes) (w : OtaLink) : Nat := w.host.todo data + w.deviceTodo data

/-- The call goes on, and its host has not closed the socket. -/
structure OtaLink.Running (E : FlashEnv) (data : Bytes) (log₀ : FlashLog) (t : TcpOta UInt8)
    (w : OtaLink) : Prop extends w.Calling E data log₀ t where
  sound : w.broken = false
  loop : t.pc.ended = false
  stays : ∀ complete, w.host ≠ .left complete

/-- **Where an update can stand** in which nothing fails. -/
inductive OtaLink.OnTrack (E : FlashEnv) (data : Bytes) (log₀ : FlashLog) (w : OtaLink) : Prop
  | start (h : w = .open true log₀)
  | header (h : w.Collecting data log₀) (hhost : w.host = .ack) (hauth : w.client.authed = true)
      (hsound : w.broken = false)
  | acking (t : TcpOta UInt8) (h : w.Running E data log₀ t) (hhost : w.host = .ack)
      (hdown : w.down = lit "ACK\n") (hup : w.up = [])
  | sending (t : TcpOta UInt8) (h : w.Running E data log₀ t) (hhost : w.host ≠ .ack)
      (hdown : w.down = [])
  | told (t : TcpOta UInt8) (h : w.Calling E data log₀ t) (hhost : w.host = .result)
      (hdown : w.down = lit "OK\n") (hres : t.pc = .restarting) (hsound : w.broken = false)
  | through (t : TcpOta UInt8) (h : w.Calling E data log₀ t) (hhost : w.host = .left true)
      (hres : t.pc = .restarting)

section
variable {E : FlashEnv} {data : Bytes} {log₀ : FlashLog} {w : OtaLink} {i : DeviceIn}

/-- The trailer has four bytes. -/
theorem length_otaTrailer (data : Bytes) : (otaTrailer data).length = 4 := length_packLe 4 _

/-- The trailer is the CRC that the device computes. -/
theorem trailerOk_otaTrailer (data : Bytes) :
    TrailerOk romCrc32 data.length (data ++ otaTrailer data) := by
  have hcrc : trailerCrc data.length (data ++ (otaTrailer data ++ [])) =
      UInt32.ofNat (readLe 4 (otaTrailer data)) :=
    trailerCrc_append rfl (length_otaTrailer data) []
  have hread : readLe 4 (packLe 4 (zlibCrc32 data).toNat ++ []) = (zlibCrc32 data).toNat := by
    rw [readLe_packLe]
    exact Nat.mod_eq_of_lt (zlibCrc32 data).toNat_lt
  rw [List.append_nil] at hcrc hread
  refine .inr ?_
  rw [hcrc, List.take_left' rfl, otaTrailer, hread, UInt32.ofNat_toNat]
  rfl

/-- A call in its loops has sent its `ACK` and nothing else. -/
theorem PerformState.sent_ack {C : Crc32} {mallocOk : Bool} {size : Nat} {stream : Bytes}
    {p : PerformRun} (h : PerformState E C mallocOk size stream log₀ p)
    (hloop : p.t.pc.ended = false) : p.t.sent = [lit "ACK"] := by
  cases h with
  | payload dst got hw | tail dst got hw => exact hw.sent
  | returned e hpc | restarting dst hpc =>
    rw [hpc] at hloop
    cases hloop

/-- What such a call still waits for is not there yet or under way. -/
theorem PerformState.unread_ne {C : Crc32} {mallocOk : Bool} {size : Nat} {stream : Bytes}
    {p : PerformRun} (h : PerformState E C mallocOk size stream log₀ p)
    (hloop : p.t.pc.ended = false) (hlen : stream.length = size + 4) : p.unread ≠ [] := by
  intro hun
  cases h with
  | payload dst got hw hpc hgot hdvd hstream =>
    have hwant := hw.want
    rw [hstream, hun] at hlen
    simp only [List.length_append, List.length_nil] at hlen
    omega
  | tail dst got hw hpc hgot hall hstream =>
    rw [hstream, hun] at hlen
    simp only [List.length_append, List.length_nil] at hlen
    omega
  | returned e hpc | restarting dst hpc =>
    rw [hpc] at hloop
    cases hloop

/-- The places of a running call. -/
theorem OtaLink.Running.parts {t : TcpOta UInt8} (h : w.Running E data log₀ t) :
    ∃ authed line heap, w.client = ⟨.reading, authed, line, [], some t⟩ ∧ w.host ≠ .header ∧
      PerformState E romCrc32 true data.length (data ++ otaTrailer data) log₀
        ⟨t, w.log, w.up ++ w.host.rest data, heap⟩ := by
  obtain ⟨authed, line, hclient⟩ := h.client
  obtain ⟨rest, heap, ⟨complete, hleft⟩ | ⟨hne, rfl⟩, hstate⟩ := h.state
  · exact absurd hleft (h.stays complete)
  · exact ⟨authed, line, heap, hclient, hne, hstate⟩

/-! ## The device -/

/-- **Bytes that arrive in the call.** The call goes on, or it is about to restart and says `OK`;
and less is under way. -/
theorem OtaLink.Running.recv {t : TcpOta UInt8} (h : w.Running E data log₀ t)
    (hflash : Restarts E romCrc32 true data.length (data ++ otaTrailer data) log₀)
    (hup : w.up ≠ []) (hdown : w.down = []) (n : Nat) :
    ∃ w', w.step E data (.device i n) = w' ∧ w'.host = w.host ∧ w'.up.length < w.up.length ∧
      ((∃ t', w'.Running E data log₀ t' ∧ w'.down = []) ∨
        ∃ t', w'.Calling E data log₀ t' ∧ w'.down = lit "OK\n" ∧ t'.pc = .restarting ∧
          w'.broken = false ∧ w'.host = .result) := by
  obtain ⟨authed, line, heap, hclient, hheader, hstate⟩ := h.parts
  have hasks : w.client.asks = t.asks := by rw [hclient]; rfl
  have hpos : 0 < t.asks := hstate.asks_pos h.loop
  obtain ⟨b, bs, left, htake, hleft, hlen, hdrop⟩ := take_recv hup n hpos
  obtain ⟨⟨t', log'⟩, hrecv⟩ :
    ∃ q, otaPerformRecv id E romCrc32 (.data (b :: bs)) t w.log = q := ⟨_, rfl⟩
  have hstep : w.step E data (.device i n) = { w with
      client := w.client.inOta t'
      log := log'
      up := left
      down := w.down ++ wireLines (t'.sent.drop t.sent.length) } := by
    have hsome : w.recv n = some (.data (b :: bs)) := by
      rw [OtaLink.recv, hasks, if_neg (Nat.ne_of_gt hpos), h.sound, if_neg Bool.false_ne_true,
        if_pos hup, htake]
    simp only [OtaLink.step, hsome]
    rw [OtaLink.deviceStep_inOta (by simp [hclient]) (by rw [hclient]) hrecv, Recv.taken, hdrop,
      OtaLink.send]
    rw [if_neg (by simp [h.sound])]
  have hstate₀ := hstate
  rw [hleft, List.append_assoc] at hstate
  obtain ⟨heap', hstate'⟩ := hstate.recv (List.cons_ne_nil b bs) hlen hrecv
  have hsent : t.sent = [lit "ACK"] := hstate₀.sent_ack h.loop
  have hgoes : ∀ e, t'.pc ≠ .returned e := by
    intro e he
    cases hstate' with
    | payload _ _ _ hpc | tail _ _ _ hpc | restarting _ hpc =>
      cases (show t'.pc = _ from hpc).symm.trans he
    | returned e' hpc hexit => exact hexit.not_restarts hflash
  have hcalling : ∀ down, OtaLink.Calling E data log₀ t'
      { w with client := w.client.inOta t', log := log', up := left, down := down } :=
    h.toCalling.goes_on (.inr ⟨hheader, rfl⟩) hgoes hstate'
  refine ⟨_, hstep, rfl, ?_, ?_⟩
  · dsimp only
    rw [hleft, List.length_append, List.length_cons]
    omega
  · cases hended : t'.pc.ended with
    | false =>
      have hsent' : t'.sent = [lit "ACK"] := hstate'.sent_ack hended
      refine .inl ⟨t', ⟨hcalling _, h.sound, hended, h.stays⟩, ?_⟩
      rw [hsent', hsent, hdown]
      rfl
    | true =>
      refine .inr ⟨t', hcalling _, ?_⟩
      cases hstate' with
      | payload _ _ _ hpc | tail _ _ _ hpc =>
        rw [show t'.pc = _ from hpc] at hended
        cases hended
      | returned e hpc => exact absurd hpc (hgoes e)
      | restarting dst hpc hopened hlen' hcrc hend hboot hsent' hunread =>
        refine ⟨?_, hpc, h.sound, ?_⟩
        · rw [show t'.sent = _ from hsent', hsent, hdown]
          rfl
        · -- everything has arrived, so everything has been sent
          have hnil : left ++ w.host.rest data = [] := by
            rw [show left ++ w.host.rest data = _ from hunread]
            refine List.drop_eq_nil_of_le ?_
            rw [List.length_append, length_otaTrailer]
          have hrest := (List.append_eq_nil_iff.mp hnil).2
          cases hhost : w.host with
          | header => exact absurd hhost hheader
          | left complete => exact absurd hhost (h.stays complete)
          | result => rfl
          | ack | chunk off =>
            rw [hhost] at hrest
            have := congrArg List.length (List.append_eq_nil_iff.mp hrest).2
            rw [length_otaTrailer] at this
            cases this

/-- What a running call has before it. -/
theorem OtaLink.Running.todo_eq {t : TcpOta UInt8} (h : w.Running E data log₀ t) :
    w.todo data = w.host.todo data + (w.up.length + (w.host.rest data).length) := by
  obtain ⟨authed, line, hclient⟩ := h.client
  have hres : t.pc ≠ .restarting := by
    intro hres
    have hloop := h.loop
    rw [hres] at hloop
    cases hloop
  simp only [OtaLink.todo, OtaLink.deviceTodo, hclient, if_neg hres]

/-- And one that has succeeded. -/
theorem OtaLink.Calling.todo_eq {t : TcpOta UInt8} (h : w.Calling E data log₀ t)
    (hres : t.pc = .restarting) : w.todo data = w.host.todo data := by
  obtain ⟨authed, line, hclient⟩ := h.client
  simp only [OtaLink.todo, OtaLink.deviceTodo, hclient, if_pos hres, Nat.add_zero]

/-- What a device that collects the header has before it. -/
theorem OtaLink.Collecting.todo_eq (h : w.Collecting data log₀) (hhost : w.host = .ack) :
    w.todo data = data.length + 3 + (2 * w.up.length + (if w.client.buf = [] then 0 else 1) +
      (data.length + 4)) := by
  simp only [OtaLink.todo, OtaLink.deviceTodo, hhost, h.ota, OtaTcpPc.todo]
  rw [if_neg (by decide)]
  rfl

/-- A device about to restart does nothing more. -/
theorem OtaLink.Calling.stands {t : TcpOta UInt8} (h : w.Calling E data log₀ t)
    (hres : t.pc = .restarting) (n : Nat) : w.step E data (.device i n) = w := by
  obtain ⟨authed, line, hclient⟩ := h.client
  have hasks : w.client.asks = 0 := by simp [hclient, TcpClient.asks, TcpOta.asks, hres]
  have hrecv : otaPerformRecv id E romCrc32 .eintr t w.log = (t, w.log) := by
    simp only [otaPerformRecv, hres]
  have hin : w.client.inOta t = w.client := by simp [TcpClient.inOta, hres, hclient]
  simp only [OtaLink.step, OtaLink.recv, hasks, if_true]
  rw [OtaLink.deviceStep_inOta (by simp [hclient]) (by rw [hclient]) hrecv, hin,
    List.drop_length]
  exact OtaLink.send_nil w

/-- **The device while it collects the header** always has something to do. -/
theorem OtaLink.Collecting.moves (h : w.Collecting data log₀) (hsize : data.length < 2 ^ 32)
    (hne : data ≠ []) (hflash : Restarts E romCrc32 true data.length (data ++ otaTrailer data) log₀)
    (hhost : w.host = .ack) (hauth : w.client.authed = true) (hsound : w.broken = false)
    (hact : i.stack.active = false) (hmalloc : i.mallocOk = true) (n : Nat) :
    (w.step E data (.device i n)).OnTrack E data log₀ ∧
      (w.step E data (.device i n)).todo data < w.todo data := by
  have hwhole : w.client.line ++ (w.client.buf ++ w.up) = otaHeader data ++ [10] := by
    rcases h.host with ⟨hheader, -⟩ | ⟨-, hwhole⟩ | ⟨complete, hleft⟩
    · rw [hhost] at hheader
      cases hheader
    · exact hwhole
    · rw [hhost] at hleft
      cases hleft
  by_cases hbuf : w.client.buf = []
  · have hup : w.up ≠ [] := by
      intro hup
      rw [hbuf, hup, List.append_nil] at hwhole
      exact h.line (by rw [← List.append_nil w.client.line, hwhole]; simp)
    have hasks : w.client.asks = clientBufSz := by simp only [TcpClient.asks, h.pc, h.ota, hbuf]
    obtain ⟨b, bs, rest, htake, hrest, hlen, hdrop⟩ :=
      take_recv hup n (show 0 < clientBufSz by decide)
    have hadv : w.client.advance id (.data (b :: bs)) =
        ({ w.client with buf := b :: bs }, false) := by
      simp only [TcpClient.advance, hbuf, List.take_of_length_le hlen]
    have hstep : w.step E data (.device i n) =
        { w with client := { w.client with buf := b :: bs }, up := rest } := by
      have hsome : w.recv n = some (.data (b :: bs)) := by
        rw [OtaLink.recv, hasks, if_neg (by decide), hsound, if_neg Bool.false_ne_true, if_pos hup,
          htake]
      simp only [OtaLink.step, hsome]
      rw [OtaLink.deviceStep_quiet h.pc h.ota hadv, Recv.taken, hdrop]
    have hcollect := h.collect h.line
      (show w.client.line ++ (b :: bs ++ rest) = _ by rw [hbuf, hrest, List.nil_append])
    rw [hstep]
    refine ⟨.header hcollect hhost hauth hsound, ?_⟩
    rw [h.todo_eq hhost, hcollect.todo_eq hhost, hrest]
    simp only [hbuf, if_true, if_neg (List.cons_ne_nil b bs), List.length_append, List.length_cons]
    omega
  · have hasks : w.client.asks = 0 := by
      obtain ⟨b, bs, hbs⟩ := List.exists_cons_of_ne_nil hbuf
      simp only [TcpClient.asks, h.pc, h.ota, hbs]
    have hstep : w.step E data (.device i n) = w.deviceStep E i .eintr := by
      simp only [OtaLink.step, OtaLink.recv, hasks, if_true]
    rw [hstep, h.todo_eq hhost, if_neg hbuf]
    rcases h.scan_cases hsize hbuf with ⟨hadv, hline⟩ | ⟨hadv, hup, -⟩
    · have hcollect := h.collect hline
        (show (w.client.line ++ w.client.buf) ++ ([] ++ w.up) = _ by simp)
      rw [OtaLink.deviceStep_quiet h.pc h.ota hadv, Recv.taken, List.drop_zero]
      refine ⟨.header hcollect hhost hauth hsound, ?_⟩
      rw [hcollect.todo_eq hhost]
      dsimp only
      rw [if_pos rfl]
      omega
    · have hcmd := cmdLine_ota_of_args i.cmd i.state (otaArgs_otaHeader hsize)
        (Nat.ne_of_gt (List.length_pos_of_ne_nil hne))
      rw [← hauth] at hcmd
      obtain ⟨⟨t, log'⟩, henter⟩ :
        ∃ q, otaPerformEnter (β := UInt8) E i.stack i.mallocOk data.length w.log = q := ⟨_, rfl⟩
      have hsizes : data.length ≠ 0 := Nat.ne_of_gt (List.length_pos_of_ne_nil hne)
      have ht : t.pc = .payload [] := by
        refine (otaPerformEnter_payload_iff henter).mpr ⟨⟨hact, hsizes, hflash.fits, ?_⟩, hmalloc⟩
        rw [h.log]
        exact hflash.begins
      have hloop : t.pc.ended = false := by rw [ht]; rfl
      have hcalling := h.calling (.inl hhost) hsizes henter ht w.client.authed (lit "ACK\n")
      have hsent : t.sent = [lit "ACK"] := by
        obtain ⟨rest, heap, -, hstate⟩ := hcalling.state
        exact hstate.sent_ack hloop
      have hdown : wireLines t.sent = lit "ACK\n" := by
        rw [hsent]
        rfl
      have hstays : ∀ complete, w.host ≠ .left complete := by simp [hhost]
      rw [OtaLink.deviceStep_enters h.pc h.ota hadv hcmd henter, OtaLink.send,
        if_neg (by simp [hsound]), hdown, h.down, hup, List.drop_nil, List.nil_append]
      have hrunning : OtaLink.Running E data log₀ t _ := ⟨hcalling, hsound, hloop, hstays⟩
      refine ⟨.acking t hrunning hhost rfl rfl, ?_⟩
      rw [hrunning.todo_eq]
      simp only [hhost, OtaTcpPc.todo, OtaTcpPc.rest, List.length_append, List.length_nil,
        length_otaTrailer]
      omega

/-! ## The host -/

/-- The header goes out. -/
theorem OtaLink.start_host (data : Bytes) (log₀ : FlashLog) :
    ((OtaLink.open true log₀).step E data .host).OnTrack E data log₀ ∧
      ((OtaLink.open true log₀).step E data .host).todo data <
        (OtaLink.open true log₀).todo data := by
  have hopen : (OtaLink.open true log₀).Collecting data log₀ :=
    ⟨rfl, rfl, rfl, rfl, rfl, rfl, List.not_mem_nil, List.nil_prefix, .inl ⟨rfl, rfl⟩⟩
  have hnext : ((OtaLink.open true log₀).step E data .host).Collecting data log₀ :=
    hopen.other fun i n hev => by cases hev
  refine ⟨.header hnext rfl rfl rfl, ?_⟩
  rw [hnext.todo_eq rfl]
  simp only [OtaLink.todo, OtaLink.deviceTodo, OtaLink.step, OtaLink.hostStep, OtaLink.open,
    OtaTcpPc.sends, OtaTcpPc.todo, List.nil_append, List.length_append, List.length_singleton,
    List.length_nil, if_true]
  omega

/-- The host reads the `ACK` and turns to the first chunk. -/
theorem OtaLink.Running.host_ack {t : TcpOta UInt8} (h : w.Running E data log₀ t)
    (hhost : w.host = .ack) (hdown : w.down = lit "ACK\n") :
    (w.step E data .host).OnTrack E data log₀ ∧
      (w.step E data .host).todo data < w.todo data := by
  have hstep : w.step E data .host = { w with down := [], host := .chunk 0 } := by
    have hread : recvLine recvlineMax (lit "ACK\n") = some (lit "ACK", []) := by decide
    have hacked : acked (pyText (lit "ACK")) = true := by decide +kernel
    simp only [OtaLink.step, OtaLink.hostStep, hhost, OtaLink.hostLine, hdown, hread,
      OtaTcpPc.next, hacked, if_true]
  have hcalling : (w.step E data .host).Calling E data log₀ t :=
    h.toCalling.other (fun i n hev => by cases hev) (fun i hev => by cases hev)
  rw [hstep] at hcalling ⊢
  have hrunning : OtaLink.Running E data log₀ t { w with down := [], host := .chunk 0 } :=
    ⟨hcalling, h.sound, h.loop, by simp⟩
  refine ⟨.sending t hrunning (by simp) rfl, ?_⟩
  rw [h.todo_eq, hrunning.todo_eq]
  simp only [hhost, OtaTcpPc.todo, OtaTcpPc.rest, List.drop_zero]
  omega

/-- The next chunk goes out, or the trailer. -/
theorem OtaLink.Running.host_chunk {t : TcpOta UInt8} (h : w.Running E data log₀ t) {off : Nat}
    (hhost : w.host = .chunk off) (hdown : w.down = []) :
    (w.step E data .host).OnTrack E data log₀ ∧
      (w.step E data .host).todo data < w.todo data := by
  have hcalling : (w.step E data .host).Calling E data log₀ t :=
    h.toCalling.other (fun i n hev => by cases hev) (fun i hev => by cases hev)
  have hstep : w.step E data .host =
      { w with up := w.up ++ w.host.sends data, host := w.host.next data [] } := by
    simp only [OtaLink.step, OtaLink.hostStep, hhost]
  have hnext : ∀ complete, (w.host.next data []) ≠ .left complete ∧ w.host.next data [] ≠ .ack := by
    intro complete
    rw [hhost]
    simp only [OtaTcpPc.next]
    split <;> simp
  have htodo : (w.host.next data []).todo data < w.host.todo data := by
    rw [hhost, OtaTcpPc.next]
    by_cases hoff : off < data.length
    · rw [if_pos hoff]
      simp only [OtaTcpPc.todo, hostChunk]
      omega
    · rw [if_neg hoff]
      simp only [OtaTcpPc.todo]
      omega
  rw [hstep] at hcalling ⊢
  have hrunning : OtaLink.Running E data log₀ t
      { w with up := w.up ++ w.host.sends data, host := w.host.next data [] } :=
    ⟨hcalling, h.sound, h.loop, fun complete => (hnext complete).1⟩
  refine ⟨.sending t hrunning (hnext true).2 hdown, ?_⟩
  have hrest : (w.host.rest data).length =
      (w.host.sends data).length + ((w.host.next data []).rest data).length := by
    rw [hhost, OtaTcpPc.rest_chunk off [], List.length_append]
  rw [h.todo_eq, hrunning.todo_eq]
  simp only [List.length_append]
  omega

/-- The host reads the `OK` and closes the socket. -/
theorem OtaLink.Calling.host_result {t : TcpOta UInt8} (h : w.Calling E data log₀ t)
    (hhost : w.host = .result) (hdown : w.down = lit "OK\n") (hres : t.pc = .restarting) :
    (w.step E data .host).OnTrack E data log₀ ∧
      (w.step E data .host).todo data < w.todo data := by
  have hstep : w.step E data .host = { w with down := [], host := .left true } := by
    have hread : recvLine recvlineMax (lit "OK\n") = some (lit "OK", []) := by decide
    simp only [OtaLink.step, OtaLink.hostStep, hhost, OtaLink.hostLine, hdown, hread,
      OtaTcpPc.next]
  have hcalling : (w.step E data .host).Calling E data log₀ t :=
    h.other (fun i n hev => by cases hev) (fun i hev => by cases hev)
  rw [hstep] at hcalling ⊢
  refine ⟨.through t hcalling rfl hres, ?_⟩
  rw [h.todo_eq hres, hcalling.todo_eq hres]
  simp only [hhost, OtaTcpPc.todo]
  exact Nat.one_pos

/-- A host at a `_recvline` waits for the device while that is in the call. -/
theorem OtaLink.Running.host_waits {t : TcpOta UInt8} (h : w.Running E data log₀ t)
    (hhost : w.host = .result) (hdown : w.down = []) : w.step E data .host = w := by
  obtain ⟨authed, line, hclient⟩ := h.client
  have hopen : w.deviceClosed = false := by
    have hres : t.pc ≠ .restarting := by
      intro hres
      have hloop := h.loop
      rw [hres] at hloop
      cases hloop
    simp [OtaLink.deviceClosed, hclient, hres]
  have hnone : recvLine recvlineMax [] = none := rfl
  simp only [OtaLink.step, OtaLink.hostStep, hhost, OtaLink.hostLine, hdown, hnone, hopen,
    Bool.false_eq_true, if_false]

/-! ## Every step -/

/-- A device in the call waits for bytes while the host may still send some. -/
theorem OtaLink.Running.device_waits {t : TcpOta UInt8} (h : w.Running E data log₀ t)
    (hup : w.up = []) (n : Nat) : w.step E data (.device i n) = w := by
  obtain ⟨authed, line, heap, hclient, hheader, hstate⟩ := h.parts
  have hasks : w.client.asks ≠ 0 := by
    rw [hclient]
    exact Nat.ne_of_gt (hstate.asks_pos h.loop)
  have hnone : w.recv n = none := by
    rw [OtaLink.recv, if_neg hasks, h.sound, if_neg Bool.false_ne_true, if_neg (not_not.mpr hup)]
    cases hhost : w.host with
    | left complete => exact absurd hhost (h.stays complete)
    | header | ack | chunk | result => rfl
  simp only [OtaLink.step, hnone]

/-- A device with bytes before it in the call takes some of them. -/
theorem OtaLink.Running.device_moves {t : TcpOta UInt8} (h : w.Running E data log₀ t)
    (hflash : Restarts E romCrc32 true data.length (data ++ otaTrailer data) log₀)
    (hhost : w.host ≠ .ack) (hdown : w.down = []) (hup : w.up ≠ []) (n : Nat) :
    (w.step E data (.device i n)).OnTrack E data log₀ ∧
      (w.step E data (.device i n)).todo data < w.todo data := by
  obtain ⟨w', hstep, hsame, hless, ⟨t', h', hdown'⟩ | ⟨t', h', hdown', hres, hsound, hhost'⟩⟩ :=
    h.recv (i := i) hflash hup hdown n
  · rw [hstep]
    refine ⟨.sending t' h' (by rwa [hsame]) hdown', ?_⟩
    rw [h.todo_eq, h'.todo_eq, hsame]
    omega
  · rw [hstep]
    refine ⟨.told t' h' hhost' hdown' hres hsound, ?_⟩
    rw [h.todo_eq, h'.todo_eq hres, hsame]
    have := List.length_pos_of_ne_nil hup
    omega

/-- **The step lemma.** A step changes nothing, or the update goes on and less is to be done. -/
theorem OtaLink.OnTrack.step (h : w.OnTrack E data log₀) (hsize : data.length < 2 ^ 32)
    (hne : data ≠ []) (hflash : Restarts E romCrc32 true data.length (data ++ otaTrailer data) log₀)
    {ev : OtaLinkEv} (hfine : ev.Fine) :
    w.step E data ev = w ∨
      (w.step E data ev).OnTrack E data log₀ ∧ (w.step E data ev).todo data < w.todo data := by
  cases ev with
  | hostFails | timeout | reset | reply => cases hfine
  | host =>
    cases h with
    | start h =>
      subst h
      exact .inr (OtaLink.start_host data log₀)
    | header h hhost =>
      have hwaits : w.hostLine = none := by
        simp [OtaLink.hostLine, h.down, OtaLink.deviceClosed, h.pc, h.ota, recvLine, recvlineMax]
      exact .inl (by simp only [OtaLink.step, OtaLink.hostStep, hhost, hwaits])
    | acking t h hhost hdown hup => exact .inr (h.host_ack hhost hdown)
    | sending t h hhost hdown =>
      obtain ⟨-, -, -, -, hheader, -⟩ := h.parts
      cases hpc : w.host with
      | header => exact absurd hpc hheader
      | ack => exact absurd hpc hhost
      | left complete => exact absurd hpc (h.stays complete)
      | chunk off => exact .inr (h.host_chunk hpc hdown)
      | result => exact .inl (h.host_waits hpc hdown)
    | told t h hhost hdown hres => exact .inr (h.host_result hhost hdown hres)
    | through t h hhost => exact .inl (by simp only [OtaLink.step, OtaLink.hostStep, hhost])
  | device i n =>
    obtain ⟨hact, hmalloc⟩ := hfine
    cases h with
    | start h =>
      subst h
      exact .inl rfl
    | header h hhost hauth hsound =>
      exact .inr (h.moves hsize hne hflash hhost hauth hsound hact hmalloc n)
    | acking t h hhost hdown hup => exact .inl (h.device_waits hup n)
    | sending t h hhost hdown =>
      by_cases hup : w.up = []
      · exact .inl (h.device_waits hup n)
      · exact .inr (h.device_moves hflash hhost hdown hup n)
    | told t h hhost hdown hres => exact .inl (h.stands hres n)
    | through t h hhost hres => exact .inl (h.stands hres n)

/-- **No deadlock.** Until the update is through, some step takes it further. -/
theorem OtaLink.OnTrack.moves (h : w.OnTrack E data log₀) (hsize : data.length < 2 ^ 32)
    (hne : data ≠ [])
    (hflash : Restarts E romCrc32 true data.length (data ++ otaTrailer data) log₀) :
    (∃ ev : OtaLinkEv, ev.Fine ∧ (w.step E data ev).todo data < w.todo data) ∨
      ∃ t, w.Calling E data log₀ t ∧ w.host = .left true ∧ t.pc = .restarting := by
  have hgood : ∀ n, (OtaLinkEv.device goodDevice n).Fine := fun _ => ⟨rfl, rfl⟩
  cases h with
  | start h =>
    subst h
    exact .inl ⟨.host, trivial, (OtaLink.start_host data log₀).2⟩
  | header h hhost hauth hsound =>
    exact .inl ⟨.device goodDevice 0, hgood 0,
      (h.moves hsize hne hflash hhost hauth hsound rfl rfl 0).2⟩
  | acking t h hhost hdown hup => exact .inl ⟨.host, trivial, (h.host_ack hhost hdown).2⟩
  | sending t h hhost hdown =>
    by_cases hup : w.up = []
    · obtain ⟨-, -, heap, -, hheader, hstate⟩ := h.parts
      have hunread : w.up ++ w.host.rest data ≠ [] := by
        refine hstate.unread_ne h.loop ?_
        rw [List.length_append, length_otaTrailer]
      cases hpc : w.host with
      | header => exact absurd hpc hheader
      | ack => exact absurd hpc hhost
      | left complete => exact absurd hpc (h.stays complete)
      | chunk off => exact .inl ⟨.host, trivial, (h.host_chunk hpc hdown).2⟩
      | result =>
        rw [hup, hpc] at hunread
        exact absurd rfl hunread
    · exact .inl ⟨.device goodDevice 0, hgood 0, (h.device_moves hflash hhost hdown hup 0).2⟩
  | told t h hhost hdown hres => exact .inl ⟨.host, trivial, (h.host_result hhost hdown hres).2⟩
  | through t h hhost hres => exact .inr ⟨t, h, hhost, hres⟩

end

/-- **An update over TCP goes through.** On an authenticated connection, with an image that the
flash takes, and where nothing fails: in whatever order the host and the device take their steps,
and however the network cuts the bytes, a run in which every step has an effect is no longer than
twice the image and 56 steps more; and where no step has an effect any more, the host has closed the
socket after its upload, and the device is about to restart with the image installed. -/
theorem otaTcp_goes_through (E : FlashEnv) (data : Bytes) (hsize : data.length < 2 ^ 32)
    (hne : data ≠ []) (log₀ : FlashLog)
    (hflash : Restarts E romCrc32 true data.length (data ++ otaTrailer data) log₀)
    (evs : List OtaLinkEv) (hfine : ∀ ev ∈ evs, ev.Fine) :
    let w := Run.exec (OtaLink.step E data) (.open true log₀) evs
    (Run.Along (OtaLink.step E data) (fun w ev => w.step E data ev ≠ w) (.open true log₀) evs →
        evs.length ≤ 2 * data.length + 56) ∧
      ((∀ ev : OtaLinkEv, ev.Fine → w.step E data ev = w) →
        w.host = .left true ∧ w.Restarting ∧ Installed E data log₀ w.log) := by
  intro w
  have hstart : (OtaLink.open true log₀).OnTrack E data log₀ := .start rfl
  have halong : Run.Along (OtaLink.step E data) (fun _ ev => ev.Fine) (.open true log₀) evs :=
    Run.along_of_forall_mem _ hfine
  constructor
  · intro heffect
    have hlen : evs.length ≤ (OtaLink.open true log₀).todo data := by
      refine Run.Along.length_le ((Run.along_and _ _ _ _).mpr ⟨halong, heffect⟩) hstart ?_
      rintro w ev h ⟨hok, hmoved⟩
      exact (h.step hsize hne hflash hok).resolve_left hmoved
    have hheader := length_otaHeader hsize
    simp only [OtaLink.todo, OtaLink.deviceTodo, OtaLink.open, OtaTcpPc.todo, List.length_nil,
      if_true] at hlen
    omega
  · intro hstuck
    have htrack : w.OnTrack E data log₀ := by
      refine halong.exec_inv hstart fun w ev h hok => ?_
      rcases h.step hsize hne hflash hok with heq | ⟨h', -⟩
      · rwa [heq]
      · exact h'
    rcases htrack.moves hsize hne hflash with ⟨ev, hev, hlt⟩ | ⟨t, h, hhost, hres⟩
    · rw [hstuck ev hev] at hlt
      exact absurd hlt (Nat.lt_irrefl _)
    · obtain ⟨authed, line, hclient⟩ := h.client
      exact ⟨hhost, ⟨t, by rw [hclient], hres⟩, h.installed hres⟩

/-- Two bytes go through, in the order of `smallUpdate`. -/
theorem otaTcp_goes_through_small :
    let w := Run.exec (OtaLink.step ota0Env [0xE9, 1]) (.open true []) smallUpdate
    w.host = .left true ∧
      (Run.Along (OtaLink.step ota0Env [0xE9, 1])
          (fun w ev => w.step ota0Env [0xE9, 1] ev ≠ w) (.open true []) smallUpdate →
        smallUpdate.length ≤ 60) ∧
      ((∀ ev : OtaLinkEv, ev.Fine → w.step ota0Env [0xE9, 1] ev = w) →
        w.host = .left true ∧ w.Restarting ∧ Installed ota0Env [0xE9, 1] [] w.log) := by
  have hflash : Restarts ota0Env romCrc32 true 2 ([0xE9, 1] ++ otaTrailer [0xE9, 1]) [] :=
    ⟨⟨ota0, rfl, by decide⟩, rfl,
      by rw [List.length_append, length_otaTrailer]; exact Nat.le_refl _,
      rfl, fun _ _ => rfl, rfl, rfl, trailerOk_otaTrailer [0xE9, 1]⟩
  have hfine : ∀ ev ∈ smallUpdate, ev.Fine := by
    simp [smallUpdate, OtaLinkEv.Fine, goodDevice, OtaSession.zero]
  exact ⟨by decide +kernel,
    otaTcp_goes_through ota0Env [0xE9, 1] (by decide) (by decide) [] hflash smallUpdate hfine⟩

end RemoteControl
