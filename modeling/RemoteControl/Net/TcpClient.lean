import RemoteControl.Cmd.Handlers
import RemoteControl.Ota.Perform

/-!
# A TCP client (`tcp_client.c`)

`client_task` reads segments of at most 256 bytes and takes them apart into lines, which it gives
to `cmd_dispatch_line`; an OTA command blocks it in `ota_perform`, which reads the same socket. The
task is cut where other tasks can run: a step is the outcome of one `recv` or the search for the
next line end in the segment, with the line dispatched that was found. As in
`RemoteControl.Ota.Perform`, the bytes of the socket are of any type `β` with a value.
-/

namespace RemoteControl

open CString

/-! ## State -/

/-- Where the task is: in the `for` loop; behind it, where an unterminated line is dispatched; or
done, with the socket closed. -/
inductive ClientPc where
  | reading
  | leaving
  | closed
  deriving DecidableEq, Repr

/-- The locals of `client_task`: the flag of its context, the line collected so far, what is left of
the segment; and the call of `ota_perform` it is in. During that call `line` is the OTA line. -/
structure TcpClient (β : Type) where
  pc : ClientPc
  authed : Bool
  line : List β
  buf : List β
  ota : Option (TcpOta β)
  deriving DecidableEq

/-- `sizeof(buf)`. -/
def clientBufSz : Nat := 256

/-- The answers to one step: of `recv`, of the handlers, and what a call of `ota_perform` finds in
its uninitialised session object and gets from `malloc`. -/
structure ClientAnswers (β : Type) where
  recv : Recv β
  cmd : CmdAnswers
  stack : OtaSession
  mallocOk : Bool

section
variable {β : Type}

/-- The task of a new client. -/
def TcpClient.start : TcpClient β := ⟨.reading, false, [], [], none⟩

/-! ## Steps -/

/-- After a line was dispatched: read on, or close the socket. -/
def TcpClient.resume (c : TcpClient β) : TcpClient β :=
  match c.pc with
  | .reading => { c with line := [], ota := none }
  | .leaving | .closed => { c with pc := .closed, ota := none }

/-- The call of `ota_perform` stands at `t`: it has returned, or it goes on. -/
def TcpClient.inOta (t : TcpOta β) (c : TcpClient β) : TcpClient β :=
  match t.pc with
  | .returned _ => c.resume
  | .payload _ | .tail _ | .restarting => { c with ota := some t }

/-- How many bytes the task's next `recv` asks for; 0 when it is not at one. -/
def TcpClient.asks (c : TcpClient β) : Nat :=
  match c.pc, c.ota, c.buf with
  | .closed, _, _ => 0
  | _, some t, _ => t.asks
  | .reading, none, [] => clientBufSz
  | .reading, none, _ :: _ | .leaving, none, _ => 0

variable (val : β → UInt8) (E : FlashEnv) (C : Crc32)

/-- A step outside `ota_perform` up to the call of `cmd_dispatch_line`, and whether it gets there:
the segment up to its next line end goes into the line; without a segment, the next one is received,
or the task leaves the loop. -/
def TcpClient.advance (r : Recv β) (c : TcpClient β) : TcpClient β × Bool :=
  match c.buf, r with
  | [], .data (b :: bs) => ({ c with buf := (b :: bs).take clientBufSz }, false)
  | [], .data [] | [], .err | [], .eintr =>
    if c.line = [] then ({ c with pc := .closed }, false) else ({ c with pc := .leaving }, true)
  | b :: bs, _ =>
    match lineSplit val (b :: bs) with
    | some (chunk, rest) =>
      let line := lineFill val c.line chunk
      ({ c with line := line, buf := rest }, line ≠ [])
    | none => ({ c with line := lineFill val c.line (b :: bs), buf := [] }, false)

/-- The line in the buffer is dispatched. -/
def TcpClient.dispatch (a : ClientAnswers β) (c : TcpClient β) (s : CmdState) (log : FlashLog) :
    TcpClient β × CmdState × FlashLog :=
  let o := cmdLine a.cmd .tcp (c.line.map val) c.authed s
  let c := { c with authed := o.authed }
  match o.ota with
  | none => (c.resume, o.state, log)
  | some size =>
    let (t, log) := otaPerformEnter E a.stack a.mallocOk size log
    (c.inOta t, o.state, log)

/-- One step of `client_task`. -/
def TcpClient.step (a : ClientAnswers β) (c : TcpClient β) (s : CmdState) (log : FlashLog) :
    TcpClient β × CmdState × FlashLog :=
  match c.pc, c.ota with
  | .closed, _ | .leaving, none => (c, s, log)
  | _, some t =>
    let (t, log) := otaPerformRecv val E C a.recv t log
    (c.inOta t, s, log)
  | .reading, none =>
    let (c, found) := c.advance val a.recv
    if found then c.dispatch val E a s log else (c, s, log)

/-- The line that a step gives to `cmd_dispatch_line`. -/
def TcpClient.dispatches (r : Recv β) (c : TcpClient β) : Option (List β) :=
  match c.pc, c.ota with
  | .reading, none =>
    let (c, found) := c.advance val r
    if found then some c.line else none
  | _, _ => none

/-! ## What a step does to the flag -/

variable {val E C}

@[simp] theorem authed_resume (c : TcpClient β) : c.resume.authed = c.authed := by
  unfold TcpClient.resume
  split <;> rfl

@[simp] theorem authed_inOta (t : TcpOta β) (c : TcpClient β) : (c.inOta t).authed = c.authed := by
  unfold TcpClient.inOta
  split <;> simp

@[simp] theorem authed_advance (r : Recv β) (c : TcpClient β) :
    (c.advance val r).1.authed = c.authed := by
  unfold TcpClient.advance
  split
  · rfl
  · split <;> rfl
  · split <;> rfl
  · split <;> rfl
  · split <;> rfl

/-- The flag after a dispatch is the one the line leaves. -/
theorem authed_dispatch (a : ClientAnswers β) (c : TcpClient β) (s : CmdState) (log : FlashLog) :
    (c.dispatch val E a s log).1.authed =
      (cmdLine a.cmd .tcp (c.line.map val) c.authed s).authed := by
  unfold TcpClient.dispatch
  dsimp only
  split <;> simp

/-- **The flag.** A step that dispatches no line leaves it, and a line sets it only by a matching
AUTH. -/
theorem TcpClient.authed_step {a : ClientAnswers β} {c : TcpClient β} {s : CmdState}
    {log : FlashLog} (h : (c.step val E C a s log).1.authed = true) :
    c.authed = true ∨ ∃ line, c.dispatches val a.recv = some line ∧
      AuthMatches (cmdDispatchLine (line.map val) c.authed) (tokenInForce a.cmd s) := by
  unfold TcpClient.step at h
  unfold TcpClient.dispatches
  split at h
  · exact .inl h
  · exact .inl h
  · exact .inl (by simpa using h)
  · next hpc hota =>
    obtain ⟨⟨c', found⟩, hadv⟩ : ∃ q, c.advance val a.recv = q := ⟨_, rfl⟩
    have hauth : c'.authed = c.authed := by simpa [hadv] using @authed_advance β val a.recv c
    rw [hadv] at h
    dsimp only at h
    simp only [hpc, hota, hadv]
    cases found with
    | true =>
      rw [if_pos rfl] at h ⊢
      rw [authed_dispatch, hauth] at h
      exact (cmdLine_authed _ _ _ _ _ h).imp_right fun hm => ⟨_, rfl, hm⟩
    | false =>
      rw [if_neg (by simp)] at h
      exact .inl (by rwa [← hauth])

/-- A flag that is set stays so. -/
theorem TcpClient.authed_stays {a : ClientAnswers β} {c : TcpClient β} {s : CmdState}
    {log : FlashLog} (h : c.authed = true) : (c.step val E C a s log).1.authed = true := by
  unfold TcpClient.step
  split
  · exact h
  · exact h
  · simpa using h
  · obtain ⟨⟨c', found⟩, hadv⟩ : ∃ q, c.advance val a.recv = q := ⟨_, rfl⟩
    have hauth : c'.authed = true := by
      rw [← h, ← @authed_advance β val a.recv c, hadv]
    rw [hadv]
    cases found with
    | true =>
      show (c'.dispatch val E a s log).1.authed = true
      rw [authed_dispatch, hauth]
      exact cmdLine_authed_stays _ _ _ _
    | false => exact hauth

/-- A step does to the control plane what the line it dispatches does. -/
theorem TcpClient.control_step (a : ClientAnswers β) (c : TcpClient β) (s : CmdState)
    (log : FlashLog) :
    (c.step val E C a s log).2.1.control = s.control ∨
      ∃ i : ControlIn, (i.ev = .tcpAuth ∨ ∃ ssid pwd, i.ev = .setwifi ssid pwd) ∧
        (c.step val E C a s log).2.1.control = s.control.step i := by
  unfold TcpClient.step
  split
  · exact .inl rfl
  · exact .inl rfl
  · exact .inl rfl
  · obtain ⟨⟨c', found⟩, hadv⟩ : ∃ q, c.advance val a.recv = q := ⟨_, rfl⟩
    rw [hadv]
    cases found with
    | true =>
      have hline := cmdLine_control a.cmd .tcp (c'.line.map val) c'.authed s
      simp only [if_true, TcpClient.dispatch]
      split <;> exact hline
    | false => exact .inl rfl

/-! ## What a step does to the OTA call and the boot partition -/

@[simp] theorem ota_resume (c : TcpClient β) : c.resume.ota = none := by
  unfold TcpClient.resume
  split <;> rfl

@[simp] theorem ota_advance (r : Recv β) (c : TcpClient β) :
    (c.advance val r).1.ota = c.ota := by
  unfold TcpClient.advance
  split
  · rfl
  · split <;> rfl
  · split <;> rfl
  · split <;> rfl
  · split <;> rfl

/-- **The OTA call.** The task is in `ota_perform` after a step only if it was before, and no line
was dispatched, or if a line has called `cmd_ota` with the flag set. -/
theorem TcpClient.ota_step {a : ClientAnswers β} {c : TcpClient β} {s : CmdState}
    {log : FlashLog} (h : (c.step val E C a s log).1.ota ≠ none) :
    (c.ota ≠ none ∧ c.dispatches val a.recv = none) ∨
      ∃ line, c.dispatches val a.recv = some line ∧ c.authed = true ∧
        CallsOta (cmdDispatchLine (line.map val) c.authed) := by
  unfold TcpClient.step at h
  unfold TcpClient.dispatches
  split at h
  · next hpc => exact .inl ⟨h, by simp [hpc]⟩
  · next hota => exact absurd hota h
  · next t hota _ => exact .inl ⟨by simp [hota], by rw [hota]; split <;> simp_all⟩
  · next hpc hota =>
    obtain ⟨⟨c', found⟩, hadv⟩ : ∃ q, c.advance val a.recv = q := ⟨_, rfl⟩
    have hauth : c'.authed = c.authed := by simpa [hadv] using @authed_advance β val a.recv c
    have hnone : c'.ota = none := by rw [← hota, ← @ota_advance β val a.recv c, hadv]
    rw [hadv] at h
    dsimp only at h
    simp only [hpc, hota, hadv]
    cases found with
    | true =>
      rw [if_pos rfl] at h ⊢
      unfold TcpClient.dispatch at h
      dsimp only at h
      split at h
      · exact absurd (ota_resume _) h
      · next size hsize =>
        obtain ⟨-, -, hflag, -, -, hcall⟩ := cmdLine_ota _ _ _ _ _ hsize
        rw [hauth] at hflag hcall
        exact .inr ⟨_, rfl, hflag, hcall⟩
    | false =>
      rw [if_neg (by simp)] at h
      exact absurd hnone h

/-- The entry of `ota_perform` does not touch the boot partition. -/
theorem otaPerformEnter_keepsBoot (s : OtaSession) (mallocOk : Bool) (size : Nat)
    (log : FlashLog) :
    KeepsBoot log (otaPerformEnter (β := β) E s mallocOk size log).2 := by
  have hbegin := otaSessionBegin_keepsBoot E s size 0 (lit "TCP") log
  unfold otaPerformEnter
  dsimp only
  split
  · exact .refl log
  · split
    · exact hbegin
    · split
      · exact hbegin.trans (otaSessionAbort_keepsBoot _ _)
      · exact hbegin

/-- Outside `ota_perform` no step touches the boot partition. -/
theorem TcpClient.step_keepsBoot {a : ClientAnswers β} {c : TcpClient β} {s : CmdState}
    {log : FlashLog} (h : c.ota = none) : KeepsBoot log (c.step val E C a s log).2.2 := by
  unfold TcpClient.step
  split
  · exact .refl log
  · exact .refl log
  · next hota _ => exact absurd (h.symm.trans hota) (by simp)
  · dsimp only
    split
    · unfold TcpClient.dispatch
      dsimp only
      split
      · exact .refl log
      · exact otaPerformEnter_keepsBoot _ _ _ _
    · exact .refl log

end

end RemoteControl
