import RemoteControl.Net.OtaLink

/-!
# An update over TCP is all or nothing

`OtaLink.Course` says where an update can stand, whatever the network does to its bytes and whatever
fails on either side: the device collects the header, or has refused it; the call of `ota_perform`
that the header has opened goes on, with the rest of the image before it on the stream; or it is
over. Every event keeps the connection in one of these places (`OtaLink.Course.step`), up to a
second call of `ota_perform`. The device acts on the image only at the end of the call, when the
whole of it is written.
-/

namespace RemoteControl

open CString

/-! ## The places -/

/-- No byte reaches the device any more. -/
def OtaLink.Silent (w : OtaLink) : Prop :=
  w.broken = true ∨ (w.up = [] ∧ ∃ complete, w.host = .left complete)

/-- The device collects the header, or what goes out of it. -/
structure OtaLink.Collecting (data : Bytes) (log₀ : FlashLog) (w : OtaLink) : Prop where
  calls : w.calls = 0
  posted : w.posted = 0
  pc : w.client.pc = .reading
  ota : w.client.ota = none
  log : w.log = log₀
  down : w.down = []
  line : 10 ∉ w.client.line
  part : w.client.line ++ (w.client.buf ++ w.up) <+: otaHeader data ++ [10]
  host : (w.host = .header ∧ w.client.line ++ (w.client.buf ++ w.up) = []) ∨
    (w.host = .ack ∧ w.client.line ++ (w.client.buf ++ w.up) = otaHeader data ++ [10]) ∨
    ∃ complete, w.host = .left complete

/-- The device has answered the header without a call, and the host reads no `ACK`. -/
structure OtaLink.Refused (log₀ : FlashLog) (w : OtaLink) : Prop where
  calls : w.calls = 0
  posted : w.posted = 0
  client : ∃ authed, w.client = ⟨.reading, authed, [], [], none⟩
  up : w.up = []
  log : w.log = log₀
  host : (w.host = .ack ∧ w.down ∈ [[], lit "DENIED\n", lit "BADFMT\n"]) ∨
    ∃ complete, w.host = .left complete

/-- The call that the header has opened goes on, and what is to come on the stream is what is under
way and what the host has not sent; or it is about to restart. -/
structure OtaLink.Calling (E : FlashEnv) (data : Bytes) (log₀ : FlashLog) (t : TcpOta UInt8)
    (w : OtaLink) : Prop where
  calls : w.calls = 1
  client : ∃ authed line, w.client = ⟨.reading, authed, line, [], some t⟩
  goes : ∀ e, t.pc ≠ .returned e
  state : ∃ rest heap, ((∃ complete, w.host = .left complete) ∨
      (w.host ≠ .header ∧ rest = w.host.rest data)) ∧
    PerformState E romCrc32 true data.length (data ++ otaTrailer data) log₀
      ⟨t, w.log, w.up ++ rest, heap⟩

/-- The task has left its loop. -/
structure OtaLink.Gone (log₀ : FlashLog) (w : OtaLink) : Prop where
  calls : w.calls ≤ 1
  pc : w.client.pc ≠ .reading
  ota : ∀ t, w.client.ota = some t → t.pc ≠ .restarting
  silent : w.Silent
  boot : bootPartition w.log = bootPartition log₀

/-- The call has returned, and the task reads lines again. -/
structure OtaLink.Spent (log₀ : FlashLog) (w : OtaLink) : Prop where
  calls : w.calls = 1
  ota : w.client.ota = none
  boot : bootPartition w.log = bootPartition log₀

/-- **Where an update can stand**, up to a second call of `ota_perform`. -/
inductive OtaLink.Course (E : FlashEnv) (data : Bytes) (log₀ : FlashLog) (w : OtaLink) : Prop
  | collecting (h : w.Collecting data log₀)
  | refused (h : w.Refused log₀)
  | calling (t : TcpOta UInt8) (h : w.Calling E data log₀ t)
  | gone (h : w.Gone log₀)
  | spent (h : w.Spent log₀)
  | again (h : 2 ≤ w.calls)

section
variable {E : FlashEnv} {data : Bytes} {log₀ : FlashLog} {w : OtaLink} {i : DeviceIn}
  {r : Recv UInt8}

/-- What leaves the boot partition alone. -/
theorem KeepsBoot.bootPartition_eq {log log' : FlashLog} (h : KeepsBoot log log') :
    bootPartition log' = bootPartition log := by
  obtain ⟨new, rfl, hnew⟩ := h
  exact bootPartition_append log fun q => hnew q .ok

/-- The device breaks off while it collects the header. -/
theorem OtaLink.Collecting.leave (h : w.Collecting data log₀) (hbuf : w.client.buf = [])
    (hsilent : w.Silent) (hr : r = .err ∨ r = .data []) : (w.deviceStep E i r).Gone log₀ := by
  have htaken : r.taken = 0 := by rcases hr with rfl | rfl <;> rfl
  have hadv : w.client.advance id r = if w.client.line = []
      then ({ w.client with pc := .closed }, false)
      else ({ w.client with pc := .leaving }, true) := by
    rcases hr with rfl | rfl <;> simp only [TcpClient.advance, hbuf]
  have hboot : KeepsBoot w.log (w.client.step id E romCrc32 ⟨r, i.cmd, i.stack, i.mallocOk⟩
      i.state w.log).2.2 := TcpClient.step_keepsBoot h.ota
  have hgone : (w.client.step id E romCrc32 ⟨r, i.cmd, i.stack, i.mallocOk⟩ i.state w.log).1.pc ≠
        .reading ∧
      ∀ t, (w.client.step id E romCrc32 ⟨r, i.cmd, i.stack, i.mallocOk⟩ i.state w.log).1.ota =
        some t → t.pc ≠ .restarting := by
    simp only [TcpClient.step, h.pc, h.ota, hadv]
    by_cases hnil : w.client.line = []
    · simp [hnil]
    · simp only [if_neg hnil, if_true]
      exact TcpClient.dispatch_leaving rfl _ _ _
  obtain ⟨posted, down, hstep⟩ := OtaLink.deviceStep_parts (E := E) i r w
  rw [hstep, htaken, List.drop_zero]
  refine ⟨?_, ?_, ?_, hsilent, ?_⟩
  · dsimp only
    rw [h.calls]
    split <;> omega
  · exact hgone.1
  · exact hgone.2
  · rw [← h.log]
    exact hboot.bootPartition_eq

/-- `ota_perform` is called with the size of the image, and waits for its first chunk. -/
theorem OtaLink.Collecting.calling (h : w.Collecting data log₀)
    (hhost : w.host = .ack ∨ ∃ complete, w.host = .left complete) (hnil : data.length ≠ 0)
    {t : TcpOta UInt8} {log' : FlashLog}
    (henter : otaPerformEnter E i.stack i.mallocOk data.length w.log = (t, log'))
    (ht : t.pc = .payload []) (authed : Bool) (down : Bytes) :
    OtaLink.Calling E data log₀ t { w with
      client := TcpClient.inOta t ⟨.reading, authed, otaHeader data, [], none⟩
      log := log'
      up := []
      down := down
      calls := w.calls + 1 } := by
  obtain ⟨⟨hact, -⟩, hmalloc⟩ := (otaPerformEnter_payload_iff henter).mp ht
  have hstate : PerformState E romCrc32 true data.length (data ++ otaTrailer data) log₀
      (.enter E i.stack true data.length (data ++ otaTrailer data) log₀) :=
    performState_enter hact hnil
  rw [hmalloc, h.log] at henter
  rw [PerformRun.enter, henter] at hstate
  refine ⟨by simp [h.calls], ⟨authed, otaHeader data, by simp [TcpClient.inOta, ht]⟩, by simp [ht],
    data ++ otaTrailer data, otaPerformEnterHeap E i.stack true data.length log₀, ?_, hstate⟩
  refine hhost.symm.imp_right fun hack => ?_
  dsimp only
  rw [hack]
  exact ⟨by decide, rfl⟩

/-- **The header is dispatched.** It is refused, or `ota_perform` is called with the size of the
image. -/
theorem OtaLink.Collecting.dispatch (h : w.Collecting data log₀) (hsize : data.length < 2 ^ 32)
    {c : TcpClient UInt8} (hadv : w.client.advance id r = (c, true))
    (hline : c = ⟨.reading, w.client.authed, otaHeader data, [], none⟩) (hup : w.up = [])
    (hhost : w.host = .ack ∨ ∃ complete, w.host = .left complete) :
    (w.deviceStep E i r).Course E data log₀ := by
  have hrefused : ∀ {text : Bytes}, text ∈ [[], lit "DENIED\n", lit "BADFMT\n"] →
      OtaLink.Refused log₀ ({ w with client := c.resume, up := w.up.drop r.taken }.send text) := by
    intro text htext
    have hclient : c.resume = ⟨.reading, w.client.authed, [], [], none⟩ := by rw [hline]; rfl
    have hfields : ∀ down, down ∈ [[], lit "DENIED\n", lit "BADFMT\n"] →
        OtaLink.Refused log₀
          { w with client := c.resume, up := w.up.drop r.taken, down := down } := by
      intro down hdown
      refine ⟨h.calls, h.posted, ⟨_, hclient⟩, by rw [hup, List.drop_nil], h.log, ?_⟩
      exact hhost.imp_left fun hack => ⟨hack, hdown⟩
    unfold OtaLink.send
    split
    · rw [← h.down] at htext
      have hnil : w.down ∈ [[], lit "DENIED\n", lit "BADFMT\n"] := by simp [h.down]
      exact hfields _ hnil
    · dsimp only
      rw [h.down, List.nil_append]
      exact hfields _ htext
  have hargs := otaArgs_otaHeader hsize
  have hcline : c.line = otaHeader data ∧ c.authed = w.client.authed := by
    rw [hline]
    exact ⟨rfl, rfl⟩
  cases hauth : w.client.authed with
  | false =>
    have hcmd : cmdLine i.cmd .tcp c.line c.authed i.state = ⟨c.authed, i.state, none⟩ := by
      rw [hcline.1, hcline.2, hauth, cmdLine, otaHeader_denied]
    have hans : lineAnswer i.ready i.cmd i.image c.line c.authed i.state =
        some (.now (lit "DENIED\n")) := by
      rw [hcline.1, hcline.2, hauth, lineAnswer, otaHeader_denied]
    rw [OtaLink.deviceStep_answers h.pc h.ota hadv hcmd hans]
    exact .refused (hrefused (by simp))
  | true =>
    by_cases hnil : data.length = 0
    · obtain ⟨hcmd, hans⟩ := otaHeader_empty hnil i.cmd i.ready i.image i.state
      rw [← hauth, ← hcline.1, ← hcline.2] at hcmd hans
      rw [OtaLink.deviceStep_answers h.pc h.ota hadv hcmd hans]
      exact .refused (hrefused (by simp))
    · have hcmd : cmdLine i.cmd .tcp c.line c.authed i.state =
          ⟨c.authed, i.state, some data.length⟩ := by
        rw [hcline.1, hcline.2, hauth]
        exact cmdLine_ota_of_args i.cmd i.state hargs hnil
      obtain ⟨⟨t, log'⟩, henter⟩ :
        ∃ q, otaPerformEnter (β := UInt8) E i.stack i.mallocOk data.length w.log = q := ⟨_, rfl⟩
      rw [OtaLink.deviceStep_enters h.pc h.ota hadv hcmd henter]
      obtain ⟨down, hsend⟩ := OtaLink.send_eq (wireLines t.sent) { w with
        client := c.inOta t
        log := log'
        up := w.up.drop r.taken
        calls := w.calls + 1 }
      rw [hsend, h.calls]
      obtain ⟨-, -, ⟨e, ht⟩ | ⟨ht, -⟩⟩ := otaPerformEnter_cases _ _ _ _ henter
      · refine .spent ⟨rfl, ?_, ?_⟩
        · simp only [TcpClient.inOta, ht]
          exact ota_resume c
        · have hboot := otaPerformEnter_keepsBoot (β := UInt8) (E := E) i.stack i.mallocOk
            data.length w.log
          rw [henter, h.log] at hboot
          exact hboot.bootPartition_eq
      · have hcalling := h.calling hhost hnil henter ht w.client.authed down
        rw [h.calls] at hcalling
        rw [hline, hup, List.drop_nil]
        exact .calling t hcalling

/-- **The device looks for the line end in its segment.** It collects the segment, or it has the
header. -/
theorem OtaLink.Collecting.scan_cases (h : w.Collecting data log₀) (hsize : data.length < 2 ^ 32)
    (hbuf : w.client.buf ≠ []) :
    (w.client.advance id .eintr =
        ({ w.client with line := w.client.line ++ w.client.buf, buf := [] }, false) ∧
      10 ∉ w.client.line ++ w.client.buf) ∨
    (w.client.advance id .eintr = (⟨.reading, w.client.authed, otaHeader data, [], none⟩, true) ∧
      w.up = [] ∧ (w.host = .ack ∨ ∃ complete, w.host = .left complete)) := by
  obtain ⟨b, bs, hbs⟩ := List.exists_cons_of_ne_nil hbuf
  have hpart := h.part
  have hsep : ∀ {s : Bytes}, 10 ∉ s ↔ ∀ c ∈ s, (c == 10) = false := by
    intro s
    simp only [beq_eq_false_iff_ne]
    exact ⟨fun hs c hc heq => hs (heq ▸ hc), fun hs hc => hs 10 hc rfl⟩
  cases hsplit : lineSplit id (b :: bs) with
  | none =>
    have hall : 10 ∉ w.client.line ++ b :: bs := by
      rw [List.mem_append, not_or]
      exact ⟨h.line, hsep.mpr fun c hc => by simpa using Separator.split_eq_none hsplit c hc⟩
    rw [hbs, ← List.append_assoc] at hpart
    obtain ⟨rest, hrest⟩ :=
      Separator.prefix_of_append_prefix (p := (· == 10)) (hsep.mp hall) (by decide) hpart
    have hfill : lineFill id w.client.line (b :: bs) = w.client.line ++ b :: bs :=
      lineFill_otaHeader hsize (by rw [← hrest, List.append_assoc])
    refine .inl ⟨?_, hbs ▸ hall⟩
    simp only [TcpClient.advance, hbs, hsplit, hfill]
  | some cr =>
    obtain ⟨chunk, rest⟩ := cr
    obtain ⟨s, hs, hcut, hchunk⟩ := Separator.split_eq_some hsplit
    obtain rfl : s = 10 := by simpa using hs
    have hall : 10 ∉ w.client.line ++ chunk := by
      rw [List.mem_append, not_or]
      exact ⟨h.line, hsep.mpr fun c hc => by simpa using hchunk c hc⟩
    have hwhole : w.client.line ++ (w.client.buf ++ w.up) =
        (w.client.line ++ chunk) ++ 10 :: (rest ++ w.up) := by simp [hbs, hcut]
    rw [hwhole] at hpart
    obtain ⟨heq, hnil⟩ := Separator.eq_of_cons_prefix (p := (· == 10)) (hsep.mp hall) (by decide)
      (hsep.mp lineEnd_notMem_otaHeader) (by decide) hpart
    obtain ⟨rfl, hup⟩ := List.append_eq_nil_iff.mp (List.prefix_nil.mp hnil)
    have hfill : lineFill id w.client.line chunk = otaHeader data := by
      have hend : w.client.line ++ (chunk ++ []) = otaHeader data := by rwa [List.append_nil]
      rw [lineFill_otaHeader hsize hend, heq]
    refine .inr ⟨?_, hup, ?_⟩
    · have hne : otaHeader data ≠ [] := List.append_ne_nil_of_left_ne_nil (by decide) _
      simp only [TcpClient.advance, hbs, hsplit, hfill, h.pc, h.ota]
      simp [hne]
    · rcases h.host with ⟨-, hzero⟩ | ⟨hack, -⟩ | hleft
      · rw [hwhole] at hzero
        simp at hzero
      · exact .inl hack
      · exact .inr hleft

/-- What it has collected is still the beginning of the header. -/
theorem OtaLink.Collecting.collect (h : w.Collecting data log₀) {line buf up : Bytes}
    (hline : 10 ∉ line) (hsame : line ++ (buf ++ up) = w.client.line ++ (w.client.buf ++ w.up)) :
    OtaLink.Collecting data log₀
      { w with client := { w.client with line := line, buf := buf }, up := up } :=
  ⟨h.calls, h.posted, h.pc, h.ota, h.log, h.down, hline, hsame ▸ h.part, hsame ▸ h.host⟩

/-- **The device while it collects the header.** -/
theorem OtaLink.Collecting.device (h : w.Collecting data log₀) (hsize : data.length < 2 ^ 32)
    (n : Nat) : (w.step E data (.device i n)).Course E data log₀ := by
  by_cases hbuf : w.client.buf = []
  · have hasks : w.client.asks = clientBufSz := by simp only [TcpClient.asks, h.pc, h.ota, hbuf]
    simp only [OtaLink.step, OtaLink.recv, hasks, if_neg (show clientBufSz ≠ 0 by decide)]
    cases hbroken : w.broken with
    | true => exact .gone (h.leave hbuf (.inl hbroken) (.inl rfl))
    | false =>
      rw [if_neg Bool.false_ne_true]
      by_cases hup : w.up = []
      · rw [if_neg (not_not.mpr hup)]
        cases hhost : w.host with
        | header | ack | chunk | result => exact .collecting h
        | left complete => exact .gone (h.leave hbuf (.inr ⟨hup, complete, hhost⟩) (.inr rfl))
      · obtain ⟨b, bs, rest, htake, hrest, hlen, hdrop⟩ :=
          take_recv hup n (show 0 < clientBufSz by decide)
        have hadv : w.client.advance id (.data (b :: bs)) =
            ({ w.client with buf := b :: bs }, false) := by
          simp only [TcpClient.advance, hbuf, List.take_of_length_le hlen]
        rw [if_pos hup, htake]
        dsimp only
        rw [OtaLink.deviceStep_quiet h.pc h.ota hadv, Recv.taken, hdrop]
        exact .collecting (h.collect h.line (by rw [hbuf, hrest, List.nil_append]))
  · have hasks : w.client.asks = 0 := by
      obtain ⟨b, bs, hbs⟩ := List.exists_cons_of_ne_nil hbuf
      simp only [TcpClient.asks, h.pc, h.ota, hbs]
    simp only [OtaLink.step, OtaLink.recv, hasks, if_true]
    rcases h.scan_cases hsize hbuf with ⟨hadv, hline⟩ | ⟨hadv, hup, hhost⟩
    · rw [OtaLink.deviceStep_quiet h.pc h.ota hadv]
      exact .collecting (h.collect hline (by simp [Recv.taken]))
    · exact h.dispatch hsize hadv rfl hup hhost

/-- **The host while the device collects the header**, and what else happens. -/
theorem OtaLink.Collecting.other (h : w.Collecting data log₀) {ev : OtaLinkEv}
    (hev : ∀ i n, ev ≠ .device i n) : (w.step E data ev).Collecting data log₀ := by
  cases ev with
  | device i n => exact absurd rfl (hev i n)
  | timeout i => simpa only [OtaLink.step, h.calls, true_or, if_true] using h
  | reply text => simpa only [OtaLink.step, h.posted, if_true] using h
  | reset =>
    exact ⟨h.calls, h.posted, h.pc, h.ota, h.log, h.down, h.line, h.part, h.host⟩
  | host =>
    rcases h.host with ⟨hhost, hnil⟩ | ⟨hhost, hwhole⟩ | ⟨complete, hhost⟩
    · have hline := List.append_eq_nil_iff.mp hnil
      have hup := List.append_eq_nil_iff.mp hline.2
      have hsame : w.client.line ++ (w.client.buf ++ (w.up ++ (otaHeader data ++ [10]))) =
          otaHeader data ++ [10] := by simp [hline.1, hup.1, hup.2]
      simp only [OtaLink.step, OtaLink.hostStep, hhost, OtaTcpPc.sends, OtaTcpPc.next]
      exact ⟨h.calls, h.posted, h.pc, h.ota, h.log, h.down, h.line,
        hsame.symm ▸ List.prefix_rfl, .inr (.inl ⟨rfl, hsame⟩)⟩
    · have hwaits : w.hostLine = none := by
        simp [OtaLink.hostLine, h.down, OtaLink.deviceClosed, h.pc, h.ota, recvLine, recvlineMax]
      simpa only [OtaLink.step, OtaLink.hostStep, hhost, hwaits] using h
    · simpa only [OtaLink.step, OtaLink.hostStep, hhost] using h
  | hostFails n =>
    have hleft : ∀ up, w.client.line ++ (w.client.buf ++ up) <+: otaHeader data ++ [10] →
        OtaLink.Collecting data log₀ { w with up := up, host := .left false } := fun up hpart =>
      ⟨h.calls, h.posted, h.pc, h.ota, h.log, h.down, h.line, hpart, .inr (.inr ⟨false, rfl⟩)⟩
    rcases h.host with ⟨hhost, hnil⟩ | ⟨hhost, -⟩ | ⟨complete, hhost⟩
    · have hline := List.append_eq_nil_iff.mp hnil
      have hup := List.append_eq_nil_iff.mp hline.2
      simp only [OtaLink.step, hhost, OtaTcpPc.sends]
      refine hleft _ ?_
      rw [hline.1, hup.1, hup.2, List.nil_append, List.nil_append, List.nil_append]
      exact List.take_prefix _ _
    · simp only [OtaLink.step, hhost, OtaTcpPc.sends, List.take_nil, List.append_nil]
      exact hleft _ h.part
    · simpa only [OtaLink.step, hhost] using h

/-- A task in its loop without a line takes the end of the stream for the end. -/
theorem OtaLink.deviceStep_end {authed : Bool}
    (hclient : w.client = ⟨.reading, authed, [], [], none⟩) (hr : r = .err ∨ r = .data []) :
    w.deviceStep E i r = { w with client := ⟨.closed, authed, [], [], none⟩ } := by
  have hadv : w.client.advance id r = (⟨.closed, authed, [], [], none⟩, false) := by
    rw [hclient]
    rcases hr with rfl | rfl <;> rfl
  rw [OtaLink.deviceStep_quiet (by rw [hclient]) (by rw [hclient]) hadv]
  rcases hr with rfl | rfl <;> rfl

/-- **After a refusal** nothing is sent any more. -/
theorem OtaLink.Refused.step (h : w.Refused log₀) (ev : OtaLinkEv) :
    (w.step E data ev).Course E data log₀ := by
  obtain ⟨authed, hclient⟩ := h.client
  have hasks : w.client.asks = clientBufSz := by rw [hclient]; rfl
  cases ev with
  | timeout i => exact .refused (by simpa only [OtaLink.step, h.calls, true_or, if_true] using h)
  | reply text => exact .refused (by simpa only [OtaLink.step, h.posted, if_true] using h)
  | reset => exact .refused ⟨h.calls, h.posted, h.client, h.up, h.log, h.host⟩
  | host =>
    rcases h.host with ⟨hhost, hdown⟩ | ⟨complete, hhost⟩
    · have hlines : ∀ down ∈ [[], lit "DENIED\n", lit "BADFMT\n"],
          recvLine recvlineMax down = none ∨ ∃ got rest,
            recvLine recvlineMax down = some (got, rest) ∧ acked (pyText got) = false := by
        simp only [List.forall_mem_cons]
        exact ⟨.inl rfl, .inr ⟨lit "DENIED", [], by decide, by decide +kernel⟩,
          .inr ⟨lit "BADFMT", [], by decide, by decide +kernel⟩,
          List.forall_mem_nil _⟩
      have hopen : w.deviceClosed = false := by rw [OtaLink.deviceClosed, hclient]; rfl
      rcases hlines _ hdown with hnone | ⟨got, rest, hsome, hack⟩
      · simp only [OtaLink.step, OtaLink.hostStep, hhost, OtaLink.hostLine, hnone, hopen,
          Bool.false_eq_true, if_false]
        exact .refused h
      · simp only [OtaLink.step, OtaLink.hostStep, hhost, OtaLink.hostLine, hsome, OtaTcpPc.next,
          hack, Bool.false_eq_true, if_false]
        exact .refused ⟨h.calls, h.posted, h.client, h.up, h.log, .inr ⟨false, rfl⟩⟩
    · simp only [OtaLink.step, OtaLink.hostStep, hhost]
      exact .refused h
  | hostFails n =>
    rcases h.host with ⟨hhost, -⟩ | ⟨complete, hhost⟩
    · simp only [OtaLink.step, hhost, OtaTcpPc.sends, List.take_nil, List.append_nil]
      exact .refused ⟨h.calls, h.posted, h.client, h.up, h.log, .inr ⟨false, rfl⟩⟩
    · simp only [OtaLink.step, hhost]
      exact .refused h
  | device i n =>
    have hgone' : w.Silent →
        OtaLink.Gone log₀ { w with client := ⟨.closed, authed, [], [], none⟩ } := fun hsilent =>
      ⟨by simp [h.calls], by simp, by simp, hsilent, by rw [h.log]⟩
    simp only [OtaLink.step, OtaLink.recv, hasks, if_neg (show clientBufSz ≠ 0 by decide), h.up]
    cases hbroken : w.broken with
    | true =>
      rw [if_pos rfl]
      dsimp only
      rw [OtaLink.deviceStep_end hclient (.inl rfl)]
      exact .gone (hgone' (.inl hbroken))
    | false =>
      rw [if_neg Bool.false_ne_true, if_neg (not_not.mpr rfl)]
      cases hhost : w.host with
      | header | ack | chunk | result => exact .refused h
      | left complete =>
        dsimp only
        rw [OtaLink.deviceStep_end hclient (.inr rfl)]
        exact .gone (hgone' (.inr ⟨h.up, complete, hhost⟩))

/-- The call goes on from where a step has taken it. -/
theorem OtaLink.Calling.goes_on {t t' : TcpOta UInt8} {up rest : Bytes} {heap : List HeapCall}
    {log' : FlashLog} (h : w.Calling E data log₀ t)
    (hrest : (∃ complete, w.host = .left complete) ∨
      (w.host ≠ .header ∧ rest = w.host.rest data)) (hgoes : ∀ e, t'.pc ≠ .returned e)
    (hstate : PerformState E romCrc32 true data.length (data ++ otaTrailer data) log₀
      ⟨t', log', up ++ rest, heap⟩) (down : Bytes) :
    OtaLink.Calling E data log₀ t'
      { w with client := w.client.inOta t', log := log', up := up, down := down } := by
  obtain ⟨authed, line, hclient⟩ := h.client
  refine ⟨h.calls, ⟨authed, line, ?_⟩, hgoes, rest, heap, hrest, hstate⟩
  dsimp only
  rw [hclient]
  unfold TcpClient.inOta
  split
  · next e he => exact absurd he (hgoes e)
  · rfl
  · rfl
  · rfl

/-- The call goes on, or it has returned. -/
theorem OtaLink.Calling.next {t t' : TcpOta UInt8} {up down rest : Bytes}
    {log' : FlashLog} (h : w.Calling E data log₀ t)
    (hrest : (∃ complete, w.host = .left complete) ∨
      (w.host ≠ .header ∧ rest = w.host.rest data))
    (hboot : t'.pc ≠ .restarting → bootPartition log' = bootPartition log₀)
    (hstate : (∀ e, t'.pc ≠ .returned e) → ∃ heap, PerformState E romCrc32 true data.length
      (data ++ otaTrailer data) log₀ ⟨t', log', up ++ rest, heap⟩) :
    OtaLink.Course E data log₀
      { w with client := w.client.inOta t', log := log', up := up, down := down } := by
  by_cases hret : ∃ e, t'.pc = .returned e
  · obtain ⟨e, he⟩ := hret
    refine .spent ⟨h.calls, ?_, hboot (by simp [he])⟩
    simp [TcpClient.inOta, he]
  · have hgoes : ∀ e, t'.pc ≠ .returned e := fun e he => hret ⟨e, he⟩
    obtain ⟨heap, hstate⟩ := hstate hgoes
    exact .calling t' (h.goes_on hrest hgoes hstate down)

/-- **The device in the call.** -/
theorem OtaLink.Calling.device {t : TcpOta UInt8} (h : w.Calling E data log₀ t)
    (hr : (r = .eintr ∧ w.client.asks = 0) ∨ ((r = .err ∨ r = .data []) ∧ w.client.asks ≠ 0) ∨
      ∃ n, w.client.asks ≠ 0 ∧ w.up ≠ [] ∧ r = .data (w.up.take (min (n + 1) w.client.asks))) :
    (w.deviceStep E i r).Course E data log₀ := by
  obtain ⟨authed, line, hclient⟩ := h.client
  obtain ⟨rest, heap, hrest, hstate⟩ := h.state
  have hpc : w.client.pc ≠ .closed := by simp [hclient]
  have hota : w.client.ota = some t := by rw [hclient]
  have hasks : w.client.asks = t.asks := by rw [hclient]; rfl
  have hended : t.pc.ended = true → t.pc = .restarting := by
    intro hended
    cases htpc : t.pc with
    | payload | tail => rw [htpc] at hended; cases hended
    | returned e => exact absurd htpc (h.goes e)
    | restarting => rfl
  obtain ⟨⟨t', log'⟩, hrecv⟩ : ∃ q, otaPerformRecv id E romCrc32 r t w.log = q := ⟨_, rfl⟩
  rw [OtaLink.deviceStep_inOta hpc hota hrecv]
  obtain ⟨down, hsend⟩ := OtaLink.send_eq (wireLines (t'.sent.drop t.sent.length))
    { w with client := w.client.inOta t', log := log', up := w.up.drop r.taken }
  rw [hsend]
  rcases hr with ⟨rfl, hzero⟩ | ⟨hfail, hne⟩ | ⟨n, hne, hup, rfl⟩
  · -- it asks for nothing, since it is about to restart
    have hres : t.pc = .restarting := by
      refine hended (Bool.not_eq_false _ ▸ fun hloop => ?_)
      have := hstate.asks_pos hloop
      omega
    have hsame : (t, w.log) = (t', log') := by
      rw [← hrecv]
      simp only [otaPerformRecv, hres]
    obtain ⟨rfl, rfl⟩ := Prod.mk.inj hsame
    exact h.next hrest (fun hnot => absurd hres hnot) fun _ => ⟨heap, hstate⟩
  · have hloop : t.pc.ended = false := by
      refine Bool.eq_false_iff.mpr fun hend => hne ?_
      rw [hasks, TcpOta.asks, hended hend]
    obtain ⟨⟨e, he⟩, hboot⟩ := hstate.recv_failed hloop hfail hrecv
    exact h.next hrest (fun _ => hboot) fun hgoes => absurd he (hgoes e)
  · rw [hasks] at hne hrecv ⊢
    obtain ⟨b, bs, left, htake, hleft, hlen, hdrop⟩ := take_recv hup n (Nat.pos_of_ne_zero hne)
    rw [htake] at hrecv ⊢
    rw [hleft, List.append_assoc] at hstate
    obtain ⟨heap', hstate'⟩ := hstate.recv (List.cons_ne_nil b bs) hlen hrecv
    rw [Recv.taken, hdrop]
    exact h.next hrest (fun hnot => hstate'.boot hnot) fun _ => ⟨heap', hstate'⟩

/-- **The host in the call**, and what else happens. -/
theorem OtaLink.Calling.other {t : TcpOta UInt8} (h : w.Calling E data log₀ t) {ev : OtaLinkEv}
    (hdevice : ∀ i n, ev ≠ .device i n) (htimeout : ∀ i, ev ≠ .timeout i) :
    (w.step E data ev).Calling E data log₀ t := by
  obtain ⟨rest, heap, hrest, hstate⟩ := h.state
  cases ev with
  | device i n => exact absurd rfl (hdevice i n)
  | timeout i => exact absurd rfl (htimeout i)
  | reset => exact ⟨h.calls, h.client, h.goes, rest, heap, hrest, hstate⟩
  | reply text =>
    simp only [OtaLink.step]
    split
    · exact h
    · obtain ⟨down, hsend⟩ := OtaLink.send_eq text { w with posted := w.posted - 1 }
      rw [hsend]
      exact ⟨h.calls, h.client, h.goes, rest, heap, hrest, hstate⟩
  | host =>
    simp only [OtaLink.step, OtaLink.hostStep]
    cases hhost : w.host with
    | header =>
      rcases hrest with ⟨complete, hleft⟩ | ⟨hne, -⟩
      · rw [hhost] at hleft
        cases hleft
      · exact absurd hhost hne
    | left complete => exact h
    | chunk off =>
      rcases hrest with ⟨complete, hleft⟩ | ⟨-, hrest⟩
      · rw [hhost] at hleft
        cases hleft
      · rw [hrest, hhost, OtaTcpPc.rest_chunk off [], ← List.append_assoc] at hstate
        have hne : (OtaTcpPc.chunk off).next data [] ≠ .header := by
          simp only [OtaTcpPc.next]
          split <;> simp
        exact ⟨h.calls, h.client, h.goes, _, heap, .inr ⟨hne, rfl⟩, hstate⟩
    | ack | result =>
      dsimp only
      split
      · exact h
      · next got left _ =>
        rw [hhost] at hrest
        have hkeep : ∀ pc : OtaTcpPc, ((∃ complete, pc = .left complete) ∨
            (pc ≠ .header ∧ rest = pc.rest data)) →
            OtaLink.Calling E data log₀ t { w with down := left, host := pc } := fun pc hpc =>
          ⟨h.calls, h.client, h.goes, rest, heap, hpc, hstate⟩
        refine hkeep _ ?_
        simp only [OtaTcpPc.next]
        first
        | exact .inl ⟨true, rfl⟩
        | split
          · rcases hrest with ⟨complete, hleft⟩ | ⟨-, hrest⟩
            · cases hleft
            · exact .inr ⟨by decide, hrest⟩
          · exact .inl ⟨false, rfl⟩
  | hostFails n =>
    simp only [OtaLink.step]
    split
    · exact h
    all_goals
      rcases hrest with ⟨complete, hleft⟩ | ⟨hne, hrest⟩
      · simp_all
      · obtain ⟨later, hlater⟩ : (w.host.sends data).take n <+: w.host.rest data :=
          (List.take_prefix n _).trans (OtaTcpPc.sends_prefix hne)
        rw [hrest, ← hlater, ← List.append_assoc] at hstate
        exact ⟨h.calls, h.client, h.goes, later, heap, .inl ⟨false, rfl⟩, by simp_all⟩

/-- A `recv` without bytes leaves the call where it is or ends it, and switches nothing. -/
theorem otaPerformRecv_failed_keepsBoot {t : TcpOta UInt8} {log : FlashLog}
    (hr : r = .eintr ∨ r = .err ∨ r = .data []) :
    KeepsBoot log (otaPerformRecv id E romCrc32 r t log).2 := by
  have hfail : ∀ line, KeepsBoot log (t.fail line .fail log).2 := fun line =>
    otaSessionAbort_keepsBoot t.s log
  unfold otaPerformRecv
  rcases hr with rfl | rfl | rfl <;> cases t.pc <;> first | exact .refl log | exact hfail _

/-- A task that has left its loop reads nothing more. -/
theorem OtaLink.Gone.device (h : w.Gone log₀)
    (hr : r = .eintr ∨ r = .err ∨ r = .data []) : (w.deviceStep E i r).Gone log₀ := by
  have htaken : r.taken = 0 := by rcases hr with rfl | rfl | rfl <;> rfl
  have hnone : w.client.dispatches id r = none := by
    unfold TcpClient.dispatches
    split
    · next hpc _ => exact absurd hpc h.pc
    · rfl
  have hstep : ((w.client.step id E romCrc32 ⟨r, i.cmd, i.stack, i.mallocOk⟩ i.state w.log).1.pc ≠
        .reading ∧
      ∀ t, (w.client.step id E romCrc32 ⟨r, i.cmd, i.stack, i.mallocOk⟩ i.state w.log).1.ota =
        some t → t.pc ≠ .restarting) ∧
      bootPartition
        (w.client.step id E romCrc32 ⟨r, i.cmd, i.stack, i.mallocOk⟩ i.state w.log).2.2 =
          bootPartition log₀ := by
    unfold TcpClient.step
    split
    · exact ⟨⟨h.pc, h.ota⟩, h.boot⟩
    · exact ⟨⟨h.pc, h.ota⟩, h.boot⟩
    · next t hota _ =>
      obtain ⟨⟨t', log'⟩, hrecv⟩ : ∃ q, otaPerformRecv id E romCrc32 r t w.log = q := ⟨_, rfl⟩
      have hboot : KeepsBoot w.log (otaPerformRecv id E romCrc32 r t w.log).2 :=
        otaPerformRecv_failed_keepsBoot hr
      rw [hrecv] at hboot
      rw [hrecv]
      refine ⟨TcpClient.inOta_left h.pc ?_, hboot.bootPartition_eq.trans h.boot⟩
      rcases otaPerformRecv_failed (hr.elim (.inr ∘ .inr) fun h => h.elim (.inr ∘ .inl) .inl) hrecv
        with rfl | ⟨-, e, he⟩
      · exact h.ota _ hota
      · simp [he]
    · next hpc _ => exact absurd hpc h.pc
  obtain ⟨posted, down, hparts⟩ := OtaLink.deviceStep_parts (E := E) i r w
  have hno : w.client.enters i r = none := by rw [TcpClient.enters, hnone]; rfl
  rw [hparts, hno, htaken, List.drop_zero]
  exact ⟨h.calls, hstep.1.1, hstep.1.2, h.silent, hstep.2⟩

/-- A step of the task counts the calls of `ota_perform`. -/
theorem OtaLink.calls_deviceStep : w.calls ≤ (w.deviceStep E i r).calls := by
  obtain ⟨posted, down, hparts⟩ := OtaLink.deviceStep_parts (E := E) i r w
  rw [hparts]
  exact Nat.le_add_right _ _

/-- The calls are never taken back. -/
theorem OtaLink.calls_step (ev : OtaLinkEv) : w.calls ≤ (w.step E data ev).calls := by
  cases ev with
  | host =>
    simp only [OtaLink.step, OtaLink.hostStep]
    split
    · exact Nat.le_refl _
    · exact Nat.le_refl _
    all_goals first
      | exact Nat.le_refl _
      | (split <;> exact Nat.le_refl _)
  | hostFails n =>
    simp only [OtaLink.step]
    split <;> exact Nat.le_refl _
  | device i n =>
    simp only [OtaLink.step]
    split
    · exact Nat.le_refl _
    · exact OtaLink.calls_deviceStep
  | timeout i =>
    simp only [OtaLink.step]
    split
    · exact Nat.le_refl _
    · exact OtaLink.calls_deviceStep
  | reset => exact Nat.le_refl _
  | reply text =>
    simp only [OtaLink.step]
    split
    · exact Nat.le_refl _
    · obtain ⟨down, hsend⟩ := OtaLink.send_eq text { w with posted := w.posted - 1 }
      rw [hsend]

/-- A step that calls no `ota_perform` leaves the task outside it. -/
theorem TcpClient.ota_of_enters_none {c : TcpClient UInt8} (hota : c.ota = none)
    (h : c.enters i r = none) (log : FlashLog) :
    (c.step id E romCrc32 ⟨r, i.cmd, i.stack, i.mallocOk⟩ i.state log).1.ota = none := by
  unfold TcpClient.step
  split
  · exact hota
  · exact hota
  · next hsome _ => rw [hota] at hsome; cases hsome
  · next hpc _ =>
    obtain ⟨⟨c', found⟩, hadv⟩ : ∃ q, c.advance id r = q := ⟨_, rfl⟩
    have hkeep : c'.ota = none := by simpa [hadv, hota] using @ota_advance UInt8 id r c
    have hauth : c'.authed = c.authed := by simpa [hadv] using @authed_advance UInt8 id r c
    rw [hadv]
    cases found with
    | false => exact hkeep
    | true =>
      have hline : (cmdLine i.cmd .tcp c'.line c'.authed i.state).ota = none := by
        simpa [TcpClient.enters, TcpClient.dispatches, hpc, hota, hadv, hauth] using h
      simp [TcpClient.dispatch, hline]

/-- **After the call** the task reads lines, until one of them makes another call. -/
theorem OtaLink.Spent.device (h : w.Spent log₀) : (w.deviceStep E i r).Course E data log₀ := by
  have hboot : KeepsBoot w.log (w.client.step id E romCrc32 ⟨r, i.cmd, i.stack, i.mallocOk⟩
      i.state w.log).2.2 := TcpClient.step_keepsBoot h.ota
  obtain ⟨posted, down, hparts⟩ := OtaLink.deviceStep_parts (E := E) i r w
  rw [hparts]
  cases henters : w.client.enters i r with
  | none =>
    exact .spent ⟨h.calls, TcpClient.ota_of_enters_none h.ota henters w.log,
      hboot.bootPartition_eq.trans h.boot⟩
  | some size =>
    refine .again ?_
    dsimp only
    rw [h.calls]
    exact Nat.le_refl 2

/-- What else happens does not reach the task or the flash. -/
theorem OtaLink.other_step {ev : OtaLinkEv} (hdevice : ∀ i n, ev ≠ .device i n)
    (htimeout : ∀ i, ev ≠ .timeout i) :
    (w.step E data ev).client = w.client ∧ (w.step E data ev).log = w.log ∧
      (w.step E data ev).calls = w.calls ∧ (w.Silent → (w.step E data ev).Silent) := by
  cases ev with
  | device i n => exact absurd rfl (hdevice i n)
  | timeout i => exact absurd rfl (htimeout i)
  | reset => exact ⟨rfl, rfl, rfl, fun _ => .inl rfl⟩
  | reply text =>
    simp only [OtaLink.step]
    split
    · exact ⟨rfl, rfl, rfl, id⟩
    · obtain ⟨down, hsend⟩ := OtaLink.send_eq text { w with posted := w.posted - 1 }
      rw [hsend]
      exact ⟨rfl, rfl, rfl, id⟩
  | host =>
    have hstays : ∀ {w' : OtaLink}, w'.broken = w.broken → (∀ complete, w.host ≠ .left complete) →
        w.Silent → w'.Silent := by
      rintro w' hsame hstays (hbroken | ⟨-, complete, hleft⟩)
      · exact .inl (hsame.trans hbroken)
      · exact absurd hleft (hstays complete)
    simp only [OtaLink.step, OtaLink.hostStep]
    cases hhost : w.host with
    | left complete => exact ⟨rfl, rfl, rfl, id⟩
    | header | chunk off => exact ⟨rfl, rfl, rfl, hstays rfl (by simp [hhost])⟩
    | ack | result =>
      dsimp only
      split
      · exact ⟨rfl, rfl, rfl, id⟩
      · exact ⟨rfl, rfl, rfl, hstays rfl (by simp [hhost])⟩
  | hostFails n =>
    simp only [OtaLink.step]
    cases hhost : w.host with
    | left complete => exact ⟨rfl, rfl, rfl, id⟩
    | header | ack | chunk off | result =>
      refine ⟨rfl, rfl, rfl, ?_⟩
      rintro (hbroken | ⟨-, complete, hleft⟩)
      · exact .inl hbroken
      · rw [hhost] at hleft
        cases hleft

/-- What a `recv` can return. -/
theorem OtaLink.recv_cases {n : Nat} (h : w.recv n = some r) :
    (r = .eintr ∧ w.client.asks = 0) ∨
      ((r = .err ∨ r = .data []) ∧ w.client.asks ≠ 0 ∧ w.Silent) ∨
      (w.client.asks ≠ 0 ∧ w.broken = false ∧ w.up ≠ [] ∧
        r = .data (w.up.take (min (n + 1) w.client.asks))) := by
  unfold OtaLink.recv at h
  split at h
  · next hasks => exact .inl ⟨(Option.some.inj h).symm, hasks⟩
  · next hasks =>
    refine .inr ?_
    split at h
    · next hbroken => exact .inl ⟨.inl (Option.some.inj h).symm, hasks, .inl hbroken⟩
    · next hbroken =>
      split at h
      · next hup => exact .inr ⟨hasks, by simpa using hbroken, hup, (Option.some.inj h).symm⟩
      · next hup =>
        split at h
        · next complete hhost =>
          exact .inl ⟨.inr (Option.some.inj h).symm, hasks, .inr ⟨not_not.mp hup, _, hhost⟩⟩
        all_goals cases h

/-- The step lemma, for a step of the task. -/
theorem OtaLink.Course.device (h : w.Course E data log₀) (hsize : data.length < 2 ^ 32)
    (i : DeviceIn) (n : Nat) : (w.step E data (.device i n)).Course E data log₀ := by
  cases h with
  | collecting h => exact h.device hsize n
  | refused h => exact h.step _
  | calling t h =>
    cases hrecv : w.recv n with
    | none => simpa only [OtaLink.step, hrecv] using .calling t h
    | some r =>
      simp only [OtaLink.step, hrecv]
      rcases OtaLink.recv_cases hrecv with hzero | ⟨hfail, hasks, -⟩ | ⟨hasks, -, hup, hr⟩
      · exact h.device (.inl hzero)
      · exact h.device (.inr (.inl ⟨hfail, hasks⟩))
      · exact h.device (.inr (.inr ⟨n, hasks, hup, hr⟩))
  | gone h =>
    cases hrecv : w.recv n with
    | none => simpa only [OtaLink.step, hrecv] using .gone h
    | some r =>
      simp only [OtaLink.step, hrecv]
      rcases OtaLink.recv_cases hrecv with ⟨hr, -⟩ | ⟨hfail, -⟩ | ⟨-, hbroken, hup, -⟩
      · exact .gone (h.device (.inl hr))
      · exact .gone (h.device (.inr hfail))
      · rcases h.silent with hsilent | ⟨hnil, -⟩
        · rw [hbroken] at hsilent
          cases hsilent
        · exact absurd hnil hup
  | spent h =>
    simp only [OtaLink.step]
    split
    · exact .spent h
    · exact h.device
  | again h => exact .again (Nat.le_trans h (OtaLink.calls_step _))

/-- The step lemma, for a timeout on the device. -/
theorem OtaLink.Course.timeout (h : w.Course E data log₀) (i : DeviceIn) :
    (w.step E data (.timeout i)).Course E data log₀ := by
  simp only [OtaLink.step]
  split
  · exact h
  · next hno =>
    obtain ⟨hcalls, hasks⟩ := not_or.mp hno
    cases h with
    | collecting h => exact absurd h.calls hcalls
    | refused h => exact absurd h.calls hcalls
    | calling t h => exact h.device (.inr (.inl ⟨.inl rfl, hasks⟩))
    | gone h => exact .gone (h.device (.inr (.inl rfl)))
    | spent h => exact h.device
    | again h => exact .again (Nat.le_trans h OtaLink.calls_deviceStep)

/-- **The step lemma.** -/
theorem OtaLink.Course.step (h : w.Course E data log₀) (hsize : data.length < 2 ^ 32)
    (ev : OtaLinkEv) : (w.step E data ev).Course E data log₀ := by
  by_cases hev : (∃ i n, ev = .device i n) ∨ ∃ i, ev = .timeout i
  · rcases hev with ⟨i, n, rfl⟩ | ⟨i, rfl⟩
    · exact h.device hsize i n
    · exact h.timeout i
  · have hdevice : ∀ i n, ev ≠ .device i n := fun i n hi => hev (.inl ⟨i, n, hi⟩)
    have htimeout : ∀ i, ev ≠ .timeout i := fun i hi => hev (.inr ⟨i, hi⟩)
    obtain ⟨hclient, hlog, hcalls, hsilent⟩ : (w.step E data ev).client = w.client ∧
        (w.step E data ev).log = w.log ∧ (w.step E data ev).calls = w.calls ∧
        (w.Silent → (w.step E data ev).Silent) := OtaLink.other_step hdevice htimeout
    cases h with
    | collecting h => exact .collecting (h.other hdevice)
    | refused h => exact h.step ev
    | calling t h => exact .calling t (h.other hdevice htimeout)
    | gone h =>
      refine .gone ⟨?_, ?_, ?_, hsilent h.silent, ?_⟩
      · rw [hcalls]
        exact h.calls
      · rw [hclient]
        exact h.pc
      · rw [hclient]
        exact h.ota
      · rw [hlog]
        exact h.boot
    | spent h =>
      refine .spent ⟨hcalls.trans h.calls, ?_, ?_⟩
      · rw [hclient]
        exact h.ota
      · rw [hlog]
        exact h.boot
    | again h => exact .again (Nat.le_trans h (OtaLink.calls_step ev))

/-- The last switch is the one in force. -/
theorem bootPartition_concat (log : FlashLog) (dst : Partition) :
    bootPartition (log ++ [.setBoot dst .ok]) = some dst := by
  rw [bootPartition, List.filterMap_append]
  exact List.getLast?_concat

end

/-- The whole image is in the partition that boots next: the data handed to `esp_ota_write` since
`log₀` is the image. -/
def Installed (E : FlashEnv) (data : Bytes) (log₀ log : FlashLog) : Prop :=
  ∃ dst new, E.next = some dst ∧ log = log₀ ++ new ∧ (handed new).flatten = data ∧
    bootPartition log = some dst

/-- A call that is about to restart has installed the image. -/
theorem OtaLink.Calling.installed {E : FlashEnv} {data : Bytes} {log₀ : FlashLog}
    {t : TcpOta UInt8} {w : OtaLink} (h : w.Calling E data log₀ t) (hres : t.pc = .restarting) :
    Installed E data log₀ w.log := by
  obtain ⟨rest, heap, -, hstate⟩ := h.state
  cases hstate with
  | payload dst got hw hpc | tail dst got hw hpc | returned e hpc =>
    cases (show t.pc = _ from hpc).symm.trans hres
  | restarting dst hpc hopened hlen hcrc hend hboot hsent hunread hlog =>
    rw [List.take_left' rfl] at hlog hopened
    obtain ⟨new, hnew, hhanded⟩ : ∃ new, openedLog dst data.length log₀ data ++
        [.otaEnd (begun log₀ + 1) .ok, .setBoot dst .ok] = log₀ ++ new ∧
          (handed new).flatten = data := handed_openedLog dst data _ rfl
    refine ⟨dst, new, hopened.next, hlog.trans hnew, hhanded, ?_⟩
    rw [show w.log = _ from hlog, List.append_cons]
    exact bootPartition_concat _ dst

/-- **All or nothing.** However the network cuts and delays the bytes of an update over TCP, and
whatever fails on either side: up to a second call of `ota_perform` on the connection, either the
device is about to restart, and the whole image is installed, or the boot partition is what it
was. -/
theorem otaTcp_all_or_nothing (E : FlashEnv) (data : Bytes) (hsize : data.length < 2 ^ 32)
    (authed : Bool) (log₀ : FlashLog) (evs : List OtaLinkEv) :
    let w := Run.exec (OtaLink.step E data) (.open authed log₀) evs
    w.calls ≤ 1 →
      (w.Restarting ∧ Installed E data log₀ w.log) ∨
        (¬ w.Restarting ∧ bootPartition w.log = bootPartition log₀) := by
  intro w hcalls
  have hopen : (OtaLink.open authed log₀).Course E data log₀ :=
    .collecting ⟨rfl, rfl, rfl, rfl, rfl, rfl, List.not_mem_nil, List.nil_prefix, .inl ⟨rfl, rfl⟩⟩
  have hcourse : w.Course E data log₀ := Run.exec_inv hopen (fun _ ev h => h.step hsize ev) evs
  have hno : w.client.ota = none → ¬ w.Restarting := by
    rintro hnone ⟨t, ht, -⟩
    rw [hnone] at ht
    cases ht
  cases hcourse with
  | collecting h => exact .inr ⟨hno h.ota, by rw [h.log]⟩
  | refused h =>
    obtain ⟨a, hclient⟩ := h.client
    exact .inr ⟨hno (by rw [hclient]), by rw [h.log]⟩
  | gone h =>
    refine .inr ⟨?_, h.boot⟩
    rintro ⟨t, ht, hres⟩
    exact h.ota t ht hres
  | spent h => exact .inr ⟨hno h.ota, h.boot⟩
  | again h => omega
  | calling t h =>
    obtain ⟨a, line, hclient⟩ := h.client
    have hota : w.client.ota = some t := by rw [hclient]
    obtain ⟨rest, heap, -, hstate⟩ := h.state
    by_cases hres : t.pc = .restarting
    · exact .inl ⟨⟨t, hota, hres⟩, h.installed hres⟩
    · refine .inr ⟨?_, hstate.boot hres⟩
      rintro ⟨t', ht', hres'⟩
      rw [hota] at ht'
      cases ht'
      exact hres hres'

/-- What the rest of the device answers when all is well. -/
def goodDevice : DeviceIn where
  cmd := ⟨.ok, .factory⟩
  image := ⟨none, factoryPart⟩
  ready := true
  full := false
  stack := .zero
  mallocOk := true
  state := ⟨.boot none, .boot (staCfgOf [] []) none none none⟩

/-- The host and the device take turns, and two bytes go through. -/
def smallUpdate : List OtaLinkEv :=
  [.host, .device goodDevice 5, .device goodDevice 0, .device goodDevice 255, .device goodDevice 0,
    .host, .host, .device goodDevice 0, .host, .device goodDevice 7, .device goodDevice 1,
    .device goodDevice 7, .host]

theorem otaTcp_all_or_nothing_small :
    let w := Run.exec (OtaLink.step ota0Env [0xE9, 1]) (.open true []) smallUpdate
    w.calls ≤ 1 ∧ w.host = .left true ∧
      ((w.Restarting ∧ Installed ota0Env [0xE9, 1] [] w.log) ∨
        (¬ w.Restarting ∧ bootPartition w.log = bootPartition [])) := by
  intro w
  have hcalls : w.calls ≤ 1 := by decide +kernel
  exact ⟨hcalls, by decide +kernel,
    otaTcp_all_or_nothing ota0Env [0xE9, 1] (by decide) true [] smallUpdate hcalls⟩

/-- A partition of 13 bytes. -/
def narrowEnv : FlashEnv := ⟨some ⟨0x220000, 13, by decide⟩, fun _ _ => .ok⟩

/-- The `ACK` is sent before `ota_session_begin`, which refuses an image of 14 bytes. The host sends
it all the same, the task takes it for lines, and an OTA line in it opens a second call: a byte of
the image is installed as an image of its own. -/
example :
    let w := Run.exec (OtaLink.step narrowEnv (lit "\nOTA 1 0\n" ++ [0xE9, 0, 0, 0, 0]))
      (.open true [])
      ([.host, .device goodDevice 255, .device goodDevice 0, .host, .host, .host,
        .device goodDevice 8] ++ List.replicate 4 (.device goodDevice 3))
    w.calls = 2 ∧ w.client.ota.any (·.pc = .restarting) ∧ handed w.log = [[0xE9]] := by
  decide +kernel

end RemoteControl
