import RemoteControl.Lib.Trace
import RemoteControl.Net.HostSession

/-!
# What the session of the host sends (`app/session.py`)

An `AUTH` comes first on every socket, nothing goes out on one that the session has left, and what
is typed goes out in order, each line at most twice: a second time only after the first has failed,
and then on a newer socket (`session_sends_in_order`). `InOrder` says what may be sent after what;
the invariant adds to it what is known at each call (`AtPc`), most of all of the line that is under
way. There is a lemma for each call of the session, and for each way in which it can return. `Moves`
says what a step does to the sockets, and `Former` what is known of those that the session has had.
-/

namespace RemoteControl

open CString

/-! ## What is sent, in which order -/

/-- A call on the socket of the session. -/
def SendKind.own : SendKind → Prop
  | .ping | .typed _ | .ota => True
  | .auth | .version => False

/-- The token has gone out on the socket. -/
def HasAuth (sent : List WireItem) (k : Nat) : Prop :=
  ∃ y ∈ sent, y.sock = k ∧ y.kind = .auth ∧ y.failed = false

/-- What may be sent after other things: the token on a new socket; anything else where the token
has gone out; on the socket of the session not after it has been left; and a command line after all
those before it, or a second time, after it has failed and on a newer socket. -/
structure InOrder (pre : List WireItem) (x : WireItem) : Prop where
  opens : x.kind = .auth → ∀ y ∈ pre, y.sock < x.sock
  authed : x.kind ≠ .auth → HasAuth pre x.sock
  newest : x.kind.own → ∀ y ∈ pre, y.kind.own → y.sock ≤ x.sock
  typed : ∀ n, x.kind = .typed n → ∀ y ∈ pre, ∀ m, y.kind = .typed m →
    m < n ∨ (m = n ∧ y.failed = true ∧ y.sock < x.sock)
  twice : ∀ n, x.kind = .typed n → pre.countP (·.kind = .typed n) ≤ 1

/-- The bytes that go out for something. -/
def SendKind.Text (C : HostConfig) (lines : List Bytes) (text : Bytes) : SendKind → Prop
  | .auth => text = C.authLine
  | .version => text = lit "version" ++ [10]
  | .ping => text = lit "PING" ++ [10]
  | .typed n => ∃ line, lines[n]? = some line ∧ text = line ++ [10]
  | .ota => True

/-- The log of a session, wherever it is. -/
structure SessionLog (C : HostConfig) (w : TcpSession) : Prop where
  each : Trace.Each InOrder w.sent
  sock_lt : ∀ y ∈ w.sent, y.sock < w.opened
  text : ∀ y ∈ w.sent, y.kind.Text C w.lines y.text
  own : ∀ k ∈ w.sock, HasAuth w.sent k ∧ ∀ y ∈ w.sent, y.kind.own → y.sock ≤ k

section
variable (lines : List Bytes) (sent : List WireItem)

/-- Every line has been sent, or tried to. -/
def AllTried : Prop := ∀ n < lines.length, ∃ y ∈ sent, y.kind = .typed n

/-- The line is the last that was typed. -/
structure IsLast (line : TypedLine) : Prop where
  text : lines[line.1]? = some line.2
  last : lines.length = line.1 + 1

/-- It has not been sent. -/
structure NotTried (line : TypedLine) : Prop extends IsLast lines line where
  before : ∀ n < line.1, ∃ y ∈ sent, y.kind = .typed n
  unsent : ∀ y ∈ sent, ∀ n, y.kind = .typed n → n < line.1

/-- It has been tried once, in vain, and so have all. -/
structure TriedOnce (line : TypedLine) : Prop extends IsLast lines line where
  failed : ∀ y ∈ sent, y.kind = .typed line.1 → y.failed = true
  once : sent.countP (·.kind = .typed line.1) ≤ 1

/-- A socket on which the token has gone out, and newer than those the session has used. -/
structure NewSock (opened k : Nat) : Prop where
  auth : HasAuth sent k
  lt : k < opened
  newer : ∀ y ∈ sent, y.kind.own → y.sock < k

end

namespace SessionPc

/-- The line that is to be sent. -/
def unsent : SessionPc → Option TypedLine
  | .send line => some line
  | _ => none

/-- The line that is to be sent now for the second time. -/
def resends : SessionPc → Option TypedLine
  | .resend line => some line
  | _ => none

/-- The line that is to be sent again. -/
def waiting : SessionPc → Option TypedLine
  | .resend line => some line
  | .reconnect _ line | .reconnectVersion _ line | .reconnectBle line | .reconnectLast line => line
  | _ => none

/-- The session has a socket. -/
def hasSock : SessionPc → Bool
  | .connect | .openBle | .openRetry _ | .ended _ => false
  | _ => true

/-- The socket that is tried with a `version`. -/
def probes : SessionPc → Option Nat
  | .reconnectVersion k _ | .otaVersion k => some k
  | _ => none

end SessionPc

/-- What holds at a call. -/
structure AtPc (w : TcpSession) (pc : SessionPc) : Prop where
  first : ∀ line ∈ pc.unsent, NotTried w.lines w.sent line
  tried : pc.unsent = none → AllTried w.lines w.sent
  again : ∀ line ∈ pc.waiting, TriedOnce w.lines w.sent line
  sock : pc.hasSock = true → w.sock.isSome = true
  probe : ∀ k ∈ pc.probes, NewSock w.sent w.opened k
  newer : ∀ line ∈ pc.resends, ∀ k ∈ w.sock, ∀ y ∈ w.sent,
    y.kind = .typed line.1 → y.sock < k

/-- What the invariant is about, besides the call. -/
def TcpSession.hist (w : TcpSession) : Option Nat × Nat × List Bytes × List WireItem :=
  (w.sock, w.opened, w.lines, w.sent)

theorem SessionLog.congr {C : HostConfig} {w w' : TcpSession} (h : SessionLog C w)
    (hw : w'.hist = w.hist) : SessionLog C w' := by
  obtain ⟨pc, sock, closed, opened, lines, sent⟩ := w
  obtain ⟨pc', sock', closed', opened', lines', sent'⟩ := w'
  cases hw
  exact ⟨h.each, h.sock_lt, h.text, h.own⟩

theorem AtPc.congr {w w' : TcpSession} {pc : SessionPc} (h : AtPc w pc) (hw : w'.hist = w.hist) :
    AtPc w' pc := by
  obtain ⟨pc, sock, closed, opened, lines, sent⟩ := w
  obtain ⟨pc', sock', closed', opened', lines', sent'⟩ := w'
  cases hw
  exact ⟨h.first, h.tried, h.again, h.sock, h.probe, h.newer⟩

/-- The invariant. -/
structure HostInv (C : HostConfig) (w : TcpSession) : Prop where
  log : SessionLog C w
  pc : AtPc w w.pc

/-! ## Adding to the log -/

section
variable {C : HostConfig} {w : TcpSession}

theorem SessionLog.token (h : SessionLog C w) : ∀ y ∈ w.sent, y.kind = .auth →
    y.text = C.authLine := by
  intro y hy hkind
  have htext := h.text y hy
  rw [hkind] at htext
  exact htext

theorem SessionLog.typed (h : SessionLog C w) : ∀ y ∈ w.sent, ∀ n, y.kind = .typed n →
    ∃ line, w.lines[n]? = some line ∧ y.text = line ++ [10] := by
  intro y hy n hkind
  have htext := h.text y hy
  rw [hkind] at htext
  exact htext

theorem HasAuth.append {sent : List WireItem} {k : Nat} (h : HasAuth sent k)
    (new : List WireItem) : HasAuth (sent ++ new) k := by
  obtain ⟨y, hy, hauth⟩ := h
  exact ⟨y, List.mem_append_left _ hy, hauth⟩

/-- A new item. -/
theorem SessionLog.concat (h : SessionLog C w) {x : WireItem} (hin : InOrder w.sent x)
    (hlt : x.sock < w.opened) (htext : x.kind.Text C w.lines x.text)
    (hown : x.kind.own → ∀ k ∈ w.sock, x.sock ≤ k) :
    SessionLog C { w with sent := w.sent ++ [x] } := by
  refine ⟨Trace.each_concat.mpr ⟨h.each, hin⟩, ?_, ?_, fun k hk => ⟨?_, ?_⟩⟩
  · exact List.forall_mem_append.mpr ⟨h.sock_lt, List.forall_mem_singleton.mpr hlt⟩
  · exact List.forall_mem_append.mpr ⟨h.text, List.forall_mem_singleton.mpr htext⟩
  · exact (h.own k hk).1.append [x]
  · exact List.forall_mem_append.mpr
      ⟨(h.own k hk).2, List.forall_mem_singleton.mpr fun ho => hown ho k hk⟩

/-- The number of the next socket is larger than all. -/
theorem SessionLog.opens (h : SessionLog C w) :
    SessionLog C { w with opened := w.opened + 1 } :=
  ⟨h.each, fun y hy => Nat.lt_succ_of_lt (h.sock_lt y hy), h.text, h.own⟩

/-- The token goes out on a new socket. -/
theorem SessionLog.auth (h : SessionLog C w) (out : Nat) (failed : Bool) :
    SessionLog C ({ w with opened := w.opened + 1 }.log w.opened .auth C.authLine out failed) := by
  refine h.opens.concat ⟨fun _ y hy => h.sock_lt y hy, fun hne => absurd rfl hne, ?_, ?_, ?_⟩
    (Nat.lt_succ_self _) rfl ?_
  · exact fun ho => absurd ho not_false
  · rintro n ⟨⟩
  · rintro n ⟨⟩
  · exact fun ho => absurd ho not_false

/-- A `version` goes out where the token has. -/
theorem SessionLog.version (h : SessionLog C w) {k : Nat} (hk : HasAuth w.sent k)
    (hlt : k < w.opened) (out : Nat) (failed : Bool) :
    SessionLog C (w.log k .version (lit "version" ++ [10]) out failed) := by
  refine h.concat ⟨?_, fun _ => hk, ?_, ?_, ?_⟩ hlt rfl ?_
  · rintro ⟨⟩
  · exact fun ho => absurd ho not_false
  · rintro n ⟨⟩
  · rintro n ⟨⟩
  · exact fun ho => absurd ho not_false

/-- The socket of the session is one that has been opened. -/
theorem SessionLog.sock_opened (h : SessionLog C w) {k : Nat} (hk : k ∈ w.sock) : k < w.opened := by
  obtain ⟨⟨y, hy, rfl, -⟩, -⟩ := h.own k hk
  exact h.sock_lt y hy

/-- Something that is not a line goes out on the socket of the session. -/
theorem SessionLog.other (h : SessionLog C w) {k : Nat} (hk : k ∈ w.sock) {kind : SendKind}
    (hauth : kind ≠ .auth) (hkind : ∀ n, kind ≠ .typed n) {text : Bytes}
    (htext : kind.Text C w.lines text) (out : Nat) (failed : Bool) :
    SessionLog C (w.log k kind text out failed) := by
  obtain ⟨hhas, hown⟩ := h.own k hk
  refine h.concat ⟨fun ha => absurd ha hauth, fun _ => hhas, fun _ => hown, ?_, ?_⟩
    (h.sock_opened hk) htext ?_
  · exact fun n hn => absurd hn (hkind n)
  · exact fun n hn => absurd hn (hkind n)
  · intro _ k' hk'
    cases hk.symm.trans hk'
    exact Nat.le_refl _

/-- A line goes out for the first time. -/
theorem SessionLog.first (h : SessionLog C w) {k : Nat} (hk : k ∈ w.sock) {line : TypedLine}
    (hline : NotTried w.lines w.sent line) (out : Nat) (failed : Bool) :
    SessionLog C (w.log k (.typed line.1) (line.2 ++ [10]) out failed) := by
  obtain ⟨hhas, hown⟩ := h.own k hk
  refine h.concat ⟨?_, fun _ => hhas, fun _ => hown, ?_, ?_⟩ (h.sock_opened hk)
    ⟨line.2, hline.text, rfl⟩ ?_
  · rintro ⟨⟩
  · rintro n ⟨⟩ y hy m hm
    exact .inl (hline.unsent y hy m hm)
  · rintro n ⟨⟩
    have hnone : w.sent.countP (·.kind = .typed line.1) = 0 := by
      refine List.countP_eq_zero.mpr fun y hy hm => ?_
      exact Nat.lt_irrefl _ (hline.unsent y hy _ (of_decide_eq_true hm))
    rw [hnone]
    exact Nat.zero_le 1
  · intro _ k' hk'
    cases hk.symm.trans hk'
    exact Nat.le_refl _

/-- A line goes out for the second time. -/
theorem SessionLog.second (h : SessionLog C w) {k : Nat} (hk : k ∈ w.sock) {line : TypedLine}
    (hline : TriedOnce w.lines w.sent line)
    (hnewer : ∀ y ∈ w.sent, y.kind = .typed line.1 → y.sock < k) (out : Nat) (failed : Bool) :
    SessionLog C (w.log k (.typed line.1) (line.2 ++ [10]) out failed) := by
  obtain ⟨hhas, hown⟩ := h.own k hk
  refine h.concat ⟨?_, fun _ => hhas, fun _ => hown, ?_, ?_⟩ (h.sock_opened hk)
    ⟨line.2, hline.text, rfl⟩ ?_
  · rintro ⟨⟩
  · rintro n ⟨⟩ y hy m hm
    obtain ⟨text, htext, -⟩ := h.typed y hy m hm
    have hle : m < line.1 + 1 := hline.last ▸ (List.getElem?_eq_some_iff.mp htext).1
    rcases Nat.lt_succ_iff_lt_or_eq.mp hle with hlt | rfl
    · exact .inl hlt
    · exact .inr ⟨rfl, hline.failed y hy hm, hnewer y hy hm⟩
  · rintro n ⟨⟩
    exact hline.once
  · intro _ k' hk'
    cases hk.symm.trans hk'
    exact Nat.le_refl _

/-! ## Where the calls lead -/

theorem AllTried.concat {lines : List Bytes} {sent : List WireItem} (h : AllTried lines sent)
    (x : WireItem) : AllTried lines (sent ++ [x]) := by
  intro n hn
  obtain ⟨y, hy, hkind⟩ := h n hn
  exact ⟨y, List.mem_append_left _ hy, hkind⟩

theorem TriedOnce.concat {lines : List Bytes} {sent : List WireItem} {line : TypedLine}
    (h : TriedOnce lines sent line) {x : WireItem} (hx : x.kind ≠ .typed line.1) :
    TriedOnce lines (sent ++ [x]) line := by
  refine ⟨h.toIsLast, ?_, ?_⟩
  · exact List.forall_mem_append.mpr
      ⟨h.failed, List.forall_mem_singleton.mpr fun hkind => absurd hkind hx⟩
  · have hzero : [x].countP (·.kind = .typed line.1) = 0 := by
      rw [List.countP_singleton, if_neg]
      exact fun hkind => hx (of_decide_eq_true hkind)
    rw [List.countP_append, hzero]
    exact h.once

/-- After the first try every line has been tried. -/
theorem NotTried.allTried {lines : List Bytes} {sent : List WireItem} {line : TypedLine}
    (h : NotTried lines sent line) {x : WireItem} (hx : x.kind = .typed line.1) :
    AllTried lines (sent ++ [x]) := by
  intro n hn
  rw [h.last] at hn
  rcases Nat.lt_succ_iff_lt_or_eq.mp hn with hlt | rfl
  · obtain ⟨y, hy, hkind⟩ := h.before n hlt
    exact ⟨y, List.mem_append_left _ hy, hkind⟩
  · exact ⟨x, List.mem_append_right _ List.mem_cons_self, hx⟩

/-- Where it has failed, that was once. -/
theorem NotTried.triedOnce {lines : List Bytes} {sent : List WireItem} {line : TypedLine}
    (h : NotTried lines sent line) {x : WireItem} (hfailed : x.failed = true) :
    TriedOnce lines (sent ++ [x]) line := by
  refine ⟨h.toIsLast, ?_, ?_⟩
  · refine List.forall_mem_append.mpr ⟨fun y hy hkind => ?_,
      List.forall_mem_singleton.mpr fun _ => hfailed⟩
    exact absurd (h.unsent y hy _ hkind) (Nat.lt_irrefl _)
  · have hnone : sent.countP (·.kind = .typed line.1) = 0 := by
      refine List.countP_eq_zero.mpr fun y hy hm => ?_
      exact Nat.lt_irrefl _ (h.unsent y hy _ (of_decide_eq_true hm))
    rw [List.countP_append, hnone, Nat.zero_add]
    exact List.countP_le_length

/-- A call that has to do with no line and no probe. -/
theorem AtPc.plain {pc : SessionPc} (htried : AllTried w.lines w.sent)
    (hsock : pc.hasSock = true → w.sock.isSome = true) (hunsent : pc.unsent = none)
    (hresends : pc.resends = none) (hwaiting : pc.waiting = none) (hprobes : pc.probes = none) :
    AtPc w pc := by
  refine ⟨?_, fun _ => htried, ?_, hsock, ?_, ?_⟩
  · simp [hunsent]
  · simp [hwaiting]
  · simp [hprobes]
  · simp [hresends]

/-- A call for the same line, which probes a new socket or none. -/
theorem AtPc.again_at {pc pc' : SessionPc} (h : AtPc w pc) (hu : pc.unsent = none)
    (hwaiting : pc'.waiting = pc.waiting) (hsock : pc'.hasSock = true → w.sock.isSome = true)
    (hunsent : pc'.unsent = none) (hresends : pc'.resends = none)
    (hprobes : ∀ k ∈ pc'.probes, NewSock w.sent w.opened k) : AtPc w pc' := by
  refine ⟨?_, fun _ => h.tried hu, hwaiting ▸ h.again, hsock, hprobes, ?_⟩
  · simp [hunsent]
  · simp [hresends]

/-- Something that is not a line goes out, and the call is the same. -/
theorem AtPc.log {pc : SessionPc} (h : AtPc w pc) (hu : pc.unsent = none) {x : WireItem}
    (hkind : ∀ n, x.kind ≠ .typed n) (hprobe : ∀ k ∈ pc.probes, ¬ x.kind.own) :
    AtPc { w with sent := w.sent ++ [x] } pc where
  first := by simp [hu]
  tried := fun _ => (h.tried hu).concat _
  again := fun line hline => (h.again line hline).concat (hkind _)
  sock := h.sock
  probe := fun k hk => by
    obtain ⟨hauth, hlt, hnewer⟩ := h.probe k hk
    refine ⟨hauth.append _, hlt, ?_⟩
    exact List.forall_mem_append.mpr
      ⟨hnewer, List.forall_mem_singleton.mpr fun ho => absurd ho (hprobe k hk)⟩
  newer := fun line hline k hk => by
    refine List.forall_mem_append.mpr ⟨h.newer line hline k hk, ?_⟩
    exact List.forall_mem_singleton.mpr fun hx => absurd hx (hkind _)

/-- The number of the next socket goes up. -/
theorem AtPc.opens {pc : SessionPc} (h : AtPc w pc) :
    AtPc { w with opened := w.opened + 1 } pc :=
  ⟨h.first, h.tried, h.again, h.sock,
    fun k hk => ⟨(h.probe k hk).auth, Nat.lt_succ_of_lt (h.probe k hk).lt, (h.probe k hk).newer⟩,
    h.newer⟩

/-- A socket on which the token has just gone out is new. -/
theorem SessionLog.newSock (h : SessionLog C w) (text : Bytes) (out : Nat) :
    NewSock (({ w with opened := w.opened + 1 } : TcpSession).log w.opened .auth text out
      false).sent (w.opened + 1) w.opened where
  auth := ⟨_, List.mem_append_right _ List.mem_cons_self, rfl, rfl, rfl⟩
  lt := Nat.lt_succ_self _
  newer := List.forall_mem_append.mpr
    ⟨fun y hy _ => h.sock_lt y hy, List.forall_mem_singleton.mpr fun ho => absurd ho not_false⟩

/-- A new socket becomes that of the session. -/
theorem SessionLog.adopt (h : SessionLog C w) {k : Nat} (hk : NewSock w.sent w.opened k) :
    SessionLog C (w.adopt k) := by
  refine ⟨h.each, h.sock_lt, h.text, fun k' hk' => ?_⟩
  cases hk'
  exact ⟨hk.auth, fun y hy ho => Nat.le_of_lt (hk.newer y hy ho)⟩

/-- With a new socket the session goes on, or sends the line again. -/
theorem AtPc.resume {pc : SessionPc} (h : AtPc w pc) (hu : pc.unsent = none) {k : Nat}
    (hk : NewSock w.sent w.opened k) : AtPc (w.adopt k) (.resume pc.waiting) := by
  cases hline : pc.waiting with
  | none => exact .plain (h.tried hu) (fun _ => rfl) rfl rfl rfl rfl
  | some line =>
    refine ⟨by simp [SessionPc.resume, SessionPc.unsent], fun _ => h.tried hu,
      fun l hl => h.again l (hline ▸ hl), fun _ => rfl,
      by simp [SessionPc.resume, SessionPc.probes], ?_⟩
    intro l hl k' hk' y hy hkind
    cases hk'
    exact hk.newer y hy (by rw [hkind]; trivial)

/-- Without one it drops the line. -/
theorem AtPc.giveUp {pc : SessionPc} (h : AtPc w pc) (hu : pc.unsent = none)
    (hsock : w.sock.isSome = true) : AtPc w (.giveUp pc.waiting) := by
  cases pc.waiting with
  | none => exact .plain (h.tried hu) (fun _ => hsock) rfl rfl rfl rfl
  | some line => exact .plain (h.tried hu) (fun _ => hsock) rfl rfl rfl rfl

/-- `try_reconnect` begins, for a ping or for a line. -/
theorem AtPc.tryReconnect {line : Option TypedLine} (htried : AllTried w.lines w.sent)
    (hsock : w.sock.isSome = true) (hagain : ∀ l ∈ line, TriedOnce w.lines w.sent l) :
    AtPc w (.tryReconnect C line) := by
  rw [SessionPc.tryReconnect]
  split <;>
    exact ⟨by simp [SessionPc.unsent], fun _ => htried, hagain, fun _ => hsock,
      by simp [SessionPc.probes], by simp [SessionPc.resends]⟩

/-! ## `connect_and_auth` -/

/-- It has returned nothing. -/
theorem HostInv.refused (h : HostInv C w) {k : Nat} {up down : SessionPc}
    (hc : w.pc.connects k = some (up, down)) : HostInv C (w.refused down) := by
  obtain ⟨hlog, hpc⟩ := h
  refine ⟨⟨hlog.each, hlog.sock_lt, hlog.text, fun k hk => hlog.own k ?_⟩, ?_⟩
  · simp only [TcpSession.refused] at hk
    split at hk
    · cases hk
    · exact hk
  · have hsame : w.pc.opening = false → (w.refused down).hist = w.hist := by
      intro hopen
      simp only [TcpSession.refused, TcpSession.hist, hopen]
      rfl
    cases hwpc : w.pc with
    | connect =>
      rw [hwpc] at hc hpc
      cases hc
      exact .plain (hpc.tried rfl) (fun hs => by cases hs) rfl rfl rfl rfl
    | openRetry n =>
      rw [hwpc] at hc hpc
      cases hc
      show AtPc _ (if n ≤ 1 then SessionPc.connect else .openRetry (n - 1))
      split <;> exact .plain (hpc.tried rfl) (fun hs => by cases hs) rfl rfl rfl rfl
    | reconnect n line =>
      rw [hwpc] at hc hpc hsame
      cases hc
      refine AtPc.congr ?_ (hsame rfl)
      show AtPc _ (if n ≤ 1 then SessionPc.reconnectBle line else .reconnect (n - 1) line)
      split <;>
        exact hpc.again_at rfl rfl (fun _ => hpc.sock rfl) rfl rfl (by simp [SessionPc.probes])
    | reconnectLast line =>
      rw [hwpc] at hc hpc hsame
      cases hc
      exact (hpc.giveUp rfl (hpc.sock rfl)).congr (hsame rfl)
    | pingLast | otaLast | otaProbe =>
      rw [hwpc] at hc hpc hsame
      cases hc
      refine AtPc.congr ?_ (hsame rfl)
      exact .plain (hpc.tried rfl) (fun _ => hpc.sock rfl) rfl rfl rfl rfl
    | _ =>
      rw [hwpc] at hc
      cases hc

/-- It has returned a socket. -/
theorem HostInv.up (h : HostInv C w) {k : Nat} {up down : SessionPc}
    (hc : w.pc.connects k = some (up, down)) (hk : NewSock w.sent w.opened k) :
    HostInv C { (if w.pc.adopts then w.adopt k else w) with pc := up } := by
  obtain ⟨hlog, hpc⟩ := h
  have hadopt := hlog.adopt hk
  have hprobe : ∀ k' ∈ some k, NewSock w.sent w.opened k' := by
    intro k' hk'
    cases hk'
    exact hk
  cases hwpc : w.pc with
  | connect | pingLast | otaLast | reconnectLast line =>
    rw [hwpc] at hc hpc
    cases hc
    exact ⟨hadopt.congr rfl, (hpc.resume rfl hk).congr rfl⟩
  | openRetry n =>
    rw [hwpc] at hc hpc
    cases hc
    exact ⟨hadopt.congr rfl, .plain (hpc.tried rfl) (fun _ => rfl) rfl rfl rfl rfl⟩
  | reconnect n line | otaProbe =>
    rw [hwpc] at hc hpc
    cases hc
    refine ⟨hlog.congr rfl, AtPc.congr (w := w) ?_ rfl⟩
    exact hpc.again_at rfl rfl (fun _ => hpc.sock rfl) rfl rfl hprobe
  | _ =>
    rw [hwpc] at hc
    cases hc

/-- The token has gone out on a new socket, or not all of it. -/
theorem HostInv.auth (h : HostInv C w) (hu : w.pc.unsent = none) (out : Nat) (failed : Bool) :
    HostInv C ({ w with opened := w.opened + 1 }.log w.opened .auth C.authLine out failed) :=
  ⟨h.log.auth out failed,
    (h.pc.opens.log (x := ⟨w.opened, .auth, C.authLine, _, failed⟩) hu (fun _ hn => by cases hn)
      fun _ _ => id).congr rfl⟩

/-- It returns. -/
theorem HostInv.connected (h : HostInv C w) (o : ConnectOutcome) : HostInv C (w.connected C o) := by
  rw [TcpSession.connected]
  split
  · exact h
  · next up down hc =>
    have hu : w.pc.unsent = none := by
      cases hwpc : w.pc with
      | send line =>
        rw [hwpc] at hc
        cases hc
      | _ => rfl
    cases o with
    | refused => exact h.refused hc
    | broken out => exact (h.auth hu out true).refused hc
    | up => exact (h.auth hu _ false).up hc (h.log.newSock _ _)

/-! ## `send_line` and `send_ping` -/

/-- What they come to. -/
theorem TcpSession.returned_cases (o : SendOutcome) {k : Nat} {kind : SendKind} {text : Bytes}
    (hs : w.pc.sends (w.sock.getD 0) = some (k, kind, text)) :
    (∃ out, w.returned C o = (w.log k kind text out true).failed C) ∨
      ∃ replied, w.returned C o = (w.log k kind text text.length false).replied replied := by
  simp only [TcpSession.returned, hs]
  split
  · exact .inl ⟨0, rfl⟩
  · cases o with
    | failed out => exact .inl ⟨out, rfl⟩
    | ok replied => exact .inr ⟨replied, rfl⟩

/-- Where there is a socket, it is the one that is used. -/
theorem HostInv.sock (h : HostInv C w) (hhas : w.pc.hasSock = true) :
    w.sock = some (w.sock.getD 0) := by
  obtain ⟨k, hk⟩ := Option.isSome_iff_exists.mp (h.pc.sock hhas)
  rw [hk]
  rfl

/-- The call sends a command line. -/
def SessionPc.sendsLine : SessionPc → Prop
  | .send _ | .resend _ => True
  | _ => False

theorem SessionPc.unsent_of_not_sendsLine {pc : SessionPc} (h : ¬ pc.sendsLine) :
    pc.unsent = none := by
  cases pc with
  | send line => exact absurd trivial h
  | _ => rfl

/-- What a call sends, that sends no command line. -/
theorem HostInv.sends (h : HostInv C w) (hline : ¬ w.pc.sendsLine) {k : Nat} {kind : SendKind}
    {text : Bytes} (hs : w.pc.sends (w.sock.getD 0) = some (k, kind, text)) (out : Nat)
    (failed : Bool) : HostInv C (w.log k kind text out failed) := by
  have hsock := h.sock
  obtain ⟨hlog, hpc⟩ := h
  have hu := SessionPc.unsent_of_not_sendsLine hline
  have hversion : ∀ {k : Nat}, HasAuth w.sent k → k < w.opened →
      HostInv C (w.log k .version (lit "version" ++ [10]) out failed) := fun hk hlt =>
    ⟨hlog.version hk hlt out failed,
      (hpc.log (x := ⟨_, .version, _, _, failed⟩) hu (fun _ hn => by cases hn)
        fun _ _ => id).congr rfl⟩
  cases hwpc : w.pc with
  | openVersion =>
    rw [hwpc] at hs hsock
    cases hs
    exact hversion (hlog.own _ (hsock rfl)).1 (hlog.sock_opened (hsock rfl))
  | ping =>
    have hprobe : ∀ k ∈ w.pc.probes, ¬ SendKind.ping.own := by simp [hwpc, SessionPc.probes]
    rw [hwpc] at hs hsock
    cases hs
    have htext : SendKind.ping.Text C w.lines (lit "PING" ++ [10]) := rfl
    exact ⟨hlog.other (hsock rfl) (by simp) (by simp) htext out failed,
      (hpc.log (x := ⟨_, .ping, _, _, failed⟩) hu (fun _ hn => by cases hn) hprobe).congr rfl⟩
  | reconnectVersion k' line | otaVersion k' =>
    have hprobe := hpc.probe
    rw [hwpc] at hs hprobe
    cases hs
    exact hversion (hprobe _ rfl).auth (hprobe _ rfl).lt
  | send line | resend line => exact absurd (by rw [hwpc]; trivial) hline
  | _ =>
    rw [hwpc] at hs
    cases hs

/-- Where the call has failed. -/
theorem HostInv.failed (h : HostInv C w) (hline : ¬ w.pc.sendsLine) : HostInv C (w.failed C) := by
  obtain ⟨hlog, hpc⟩ := h
  cases hwpc : w.pc with
  | openVersion | reconnectVersion k line =>
    rw [hwpc] at hpc
    simp only [TcpSession.failed, hwpc]
    exact ⟨hlog.congr rfl, .plain (hpc.tried rfl) (fun hs => by cases hs) rfl rfl rfl rfl⟩
  | ping =>
    rw [hwpc] at hpc
    simp only [TcpSession.failed, hwpc]
    exact ⟨hlog.congr rfl, .tryReconnect (hpc.tried rfl) (hpc.sock rfl) (by simp)⟩
  | otaVersion k =>
    rw [hwpc] at hpc
    simp only [TcpSession.failed, hwpc]
    exact ⟨hlog.congr rfl, .plain (hpc.tried rfl) (fun _ => hpc.sock rfl) rfl rfl rfl rfl⟩
  | send line | resend line => exact absurd (by rw [hwpc]; trivial) hline
  | _ =>
    simp only [TcpSession.failed, hwpc]
    exact ⟨hlog, hpc⟩

/-- Where it has returned. -/
theorem HostInv.replied (h : HostInv C w) (hline : ¬ w.pc.sendsLine) (replied : Bool) :
    HostInv C (w.replied replied) := by
  obtain ⟨hlog, hpc⟩ := h
  cases hwpc : w.pc with
  | openVersion =>
    rw [hwpc] at hpc
    simp only [TcpSession.replied, hwpc]
    exact ⟨hlog.congr rfl, .plain (hpc.tried rfl) (fun hs => by cases hs) rfl rfl rfl rfl⟩
  | ping =>
    rw [hwpc] at hpc
    simp only [TcpSession.replied, hwpc]
    exact ⟨hlog.congr rfl, .plain (hpc.tried rfl) (fun _ => hpc.sock rfl) rfl rfl rfl rfl⟩
  | reconnectVersion k line =>
    rw [hwpc] at hpc
    simp only [TcpSession.replied, hwpc]
    have hk := hpc.probe k rfl
    exact ⟨(hlog.adopt hk).congr rfl, (hpc.resume rfl hk).congr rfl⟩
  | otaVersion k =>
    rw [hwpc] at hpc
    simp only [TcpSession.replied, hwpc]
    have hk := hpc.probe k rfl
    cases replied
    · exact ⟨hlog.congr rfl, .plain (hpc.tried rfl) (fun _ => hpc.sock rfl) rfl rfl rfl rfl⟩
    · exact ⟨(hlog.adopt hk).congr rfl, (hpc.resume rfl hk).congr rfl⟩
  | send line | resend line => exact absurd (by rw [hwpc]; trivial) hline
  | _ =>
    simp only [TcpSession.replied, hwpc]
    exact ⟨hlog, hpc⟩

/-- The first try of a line: the session ends in it, or looks for another socket, or goes on. -/
theorem HostInv.first (h : HostInv C w) {line : TypedLine} (hwpc : w.pc = .send line) {k : Nat}
    (hk : w.sock = some k) (out : Nat) :
    HostInv C { w.log k (.typed line.1) (line.2 ++ [10]) out true with pc := .ended false } ∧
      HostInv C { w.log k (.typed line.1) (line.2 ++ [10]) out true with
        pc := .tryReconnect C (some line) } ∧
      HostInv C { w.log k (.typed line.1) (line.2 ++ [10]) out false with pc := .prompt } := by
  obtain ⟨hlog, hpc⟩ := h
  have hline := hpc.first line (by rw [hwpc]; rfl)
  have hlog' := fun failed => hlog.first hk hline out failed
  have htried : ∀ failed, AllTried w.lines
      (w.log k (.typed line.1) (line.2 ++ [10]) out failed).sent := fun _ => hline.allTried rfl
  have hsock : w.sock.isSome = true := by rw [hk]; rfl
  refine ⟨⟨(hlog' true).congr rfl, ?_⟩, ⟨(hlog' true).congr rfl, ?_⟩, (hlog' false).congr rfl, ?_⟩
  · exact .plain (htried true) (fun hs => by cases hs) rfl rfl rfl rfl
  · refine .tryReconnect (htried true) hsock fun l hl => ?_
    cases hl
    exact hline.triedOnce rfl
  · exact .plain (htried false) (fun _ => hsock) rfl rfl rfl rfl

/-- The second: the session ends, or goes on. -/
theorem HostInv.second (h : HostInv C w) {line : TypedLine} (hwpc : w.pc = .resend line) {k : Nat}
    (hk : w.sock = some k) (out : Nat) (failed : Bool) :
    (∀ raised, HostInv C { w.log k (.typed line.1) (line.2 ++ [10]) out failed with
        pc := .ended raised }) ∧
      HostInv C { w.log k (.typed line.1) (line.2 ++ [10]) out failed with pc := .prompt } := by
  obtain ⟨hlog, hpc⟩ := h
  have hagain := hpc.again line (by rw [hwpc]; rfl)
  have hlog' := hlog.second hk hagain (hpc.newer line (by rw [hwpc]; rfl) k hk) out failed
  have htried := (hpc.tried (by rw [hwpc]; rfl)).concat
    ⟨k, .typed line.1, line.2 ++ [10], min out (line.2 ++ [10]).length, failed⟩
  have hsock : w.sock.isSome = true := by rw [hk]; rfl
  exact ⟨fun raised => ⟨hlog'.congr rfl,
      .plain htried (fun hs => by cases hs) rfl rfl rfl rfl⟩,
    hlog'.congr rfl, .plain htried (fun _ => hsock) rfl rfl rfl rfl⟩

/-- They return. -/
theorem HostInv.returned (h : HostInv C w) (o : SendOutcome) : HostInv C (w.returned C o) := by
  cases hs : w.pc.sends (w.sock.getD 0) with
  | none =>
    rw [TcpSession.returned, hs]
    exact h
  | some item =>
    obtain ⟨k, kind, text⟩ := item
    have hret := w.returned_cases (C := C) o hs
    cases hwpc : w.pc with
    | send line =>
      have hk := h.sock (by rw [hwpc]; rfl)
      rw [hwpc] at hs
      cases hs
      rcases hret with ⟨out, hret⟩ | ⟨replied, hret⟩
      · rw [hret]
        have hfailed := (h.first (C := C) hwpc hk out).2.1
        simpa only [TcpSession.failed, TcpSession.log, hwpc] using hfailed
      · rw [hret]
        have hok := (h.first (C := C) hwpc hk (line.2 ++ [10]).length).2.2
        simpa only [TcpSession.replied, TcpSession.log, hwpc] using hok
    | resend line =>
      have hk := h.sock (by rw [hwpc]; rfl)
      rw [hwpc] at hs
      cases hs
      rcases hret with ⟨out, hret⟩ | ⟨replied, hret⟩
      · rw [hret]
        have hfailed := (h.second hwpc hk out true).1 true
        simpa only [TcpSession.failed, TcpSession.log, hwpc] using hfailed
      · rw [hret]
        have hok := (h.second hwpc hk (line.2 ++ [10]).length false).2
        simpa only [TcpSession.replied, TcpSession.log, hwpc] using hok
    | _ =>
      have hline : ¬ w.pc.sendsLine := by rw [hwpc]; exact id
      rcases hret with ⟨out, hret⟩ | ⟨replied, hret⟩
      · rw [hret]
        exact (h.sends hline hs out true).failed hline
      · rw [hret]
        exact (h.sends hline hs text.length false).replied hline replied

/-! ## The other events -/

/-- A line is typed. -/
theorem HostInv.typed (h : HostInv C w) (hwpc : w.pc = .prompt) (text : List Char)
    (file : Option Bytes) : HostInv C (w.typed text file) := by
  have hsock := h.pc.sock (by rw [hwpc]; rfl)
  have htried := h.pc.tried (by rw [hwpc]; rfl)
  obtain ⟨hlog, hpc⟩ := h
  simp only [TcpSession.typed]
  split
  · exact ⟨hlog, hpc⟩
  · split
    · exact ⟨hlog.congr rfl, .plain htried (fun hs => by cases hs) rfl rfl rfl rfl⟩
    · split
      · cases file with
        | none => exact ⟨hlog, hpc⟩
        | some data => exact ⟨hlog.congr rfl, .plain htried (fun _ => hsock) rfl rfl rfl rfl⟩
      · -- a command line: the last of the lines, and not yet sent
        generalize pyEncode (pyStrip text) = line
        have hlt : ∀ y ∈ w.sent, ∀ n, y.kind = .typed n → n < w.lines.length := by
          intro y hy n hn
          obtain ⟨l, hl, -⟩ := hlog.typed y hy n hn
          exact (List.getElem?_eq_some_iff.mp hl).1
        refine ⟨⟨hlog.each, hlog.sock_lt, fun y hy => ?_, hlog.own⟩, ?_⟩
        · have htext := hlog.text y hy
          cases hkind : y.kind with
          | typed n =>
            obtain ⟨l, hl, htext⟩ := hlog.typed y hy n hkind
            exact ⟨l, (List.getElem?_append_left (hlt y hy n hkind)).trans hl, htext⟩
          | _ =>
            rw [hkind] at htext
            exact htext
        · refine ⟨fun l hl => ?_, (fun hu => by cases hu), by simp [SessionPc.waiting],
            fun _ => hsock, by simp [SessionPc.probes], by simp [SessionPc.resends]⟩
          cases hl
          exact ⟨⟨List.getElem?_concat_length, by simp⟩, htried, hlt⟩

/-- An upload, or a part of it. -/
theorem HostInv.uploaded (h : HostInv C w) {data : Bytes} (hwpc : w.pc = .ota data) {k : Nat}
    (hk : w.sock = some k) (text : Bytes) (out : Nat) (failed : Bool) :
    HostInv C (w.log k .ota text out failed) := by
  have hprobe : ∀ k ∈ w.pc.probes, ¬ SendKind.ota.own := by simp [hwpc, SessionPc.probes]
  have htext : SendKind.ota.Text C w.lines text := trivial
  exact ⟨h.log.other hk (by simp) (by simp) htext out failed,
    (h.pc.log (x := ⟨k, .ota, text, _, failed⟩) (by rw [hwpc]; rfl) (fun _ hn => by cases hn)
      hprobe).congr rfl⟩

/-- Behind the upload. -/
theorem HostInv.afterUpload (h : HostInv C w) {data : Bytes} (hwpc : w.pc = .ota data)
    {pc : SessionPc} (hnext : pc = .otaProbe ∨ pc = .otaBle) (closed : Bool) :
    HostInv C { w with pc := pc, closed := closed } := by
  have hsock := h.pc.sock (by rw [hwpc]; rfl)
  have htried := h.pc.tried (by rw [hwpc]; rfl)
  refine ⟨h.log.congr rfl, ?_⟩
  rcases hnext with rfl | rfl <;> exact .plain htried (fun _ => hsock) rfl rfl rfl rfl

/-- `ble_session` returns. -/
theorem HostInv.ble (h : HostInv C w) {up down : SessionPc} (hb : w.pc.talksBle = some (up, down))
    (wifiUp : Bool) : HostInv C { w with pc := if wifiUp then up else down } := by
  obtain ⟨hlog, hpc⟩ := h
  refine ⟨hlog.congr rfl, AtPc.congr (w := w) ?_ rfl⟩
  cases hwpc : w.pc with
  | openBle =>
    rw [hwpc] at hb hpc
    cases hb
    cases wifiUp <;> exact .plain (hpc.tried rfl) (fun hs => by cases hs) rfl rfl rfl rfl
  | reconnectBle line =>
    rw [hwpc] at hb hpc
    cases hb
    cases wifiUp
    · exact hpc.giveUp rfl (hpc.sock rfl)
    · exact hpc.again_at rfl rfl (fun _ => hpc.sock rfl) rfl rfl (by simp [SessionPc.probes])
  | pingBle | otaBle =>
    rw [hwpc] at hb hpc
    cases hb
    cases wifiUp <;> exact .plain (hpc.tried rfl) (fun _ => hpc.sock rfl) rfl rfl rfl rfl
  | _ =>
    rw [hwpc] at hb
    cases hb

/-- The session is over. -/
theorem HostInv.ends (h : HostInv C w) (hu : w.pc.unsent = none) (raised : Bool) :
    HostInv C { w with pc := .ended raised } :=
  ⟨h.log.congr rfl, .plain (h.pc.tried hu) (fun hs => by cases hs) rfl rfl rfl rfl⟩

/-- Ctrl-C, in a call that may have sent something. -/
theorem HostInv.interrupt (h : HostInv C w) (out : Nat) :
    HostInv C (w.step C (.interrupt out)) := by
  cases hwpc : w.pc with
  | ended raised =>
    simp only [TcpSession.step, hwpc]
    exact h
  | ota data =>
    have hk := h.sock (by rw [hwpc]; rfl)
    simp only [TcpSession.step, hwpc]
    exact (h.uploaded hwpc hk _ _ true).ends (by rw [TcpSession.log, hwpc]; rfl) false
  | send line =>
    have hk := h.sock (by rw [hwpc]; rfl)
    simp only [TcpSession.step, hwpc, SessionPc.sends]
    exact (h.first (C := C) hwpc hk _).1
  | resend line =>
    have hk := h.sock (by rw [hwpc]; rfl)
    simp only [TcpSession.step, hwpc, SessionPc.sends]
    exact (h.second hwpc hk _ true).1 false
  | openVersion | ping | reconnectVersion k line | otaVersion k =>
    have hline : ¬ w.pc.sendsLine := by rw [hwpc]; exact id
    have hsent := fun out => h.sends hline (by rw [hwpc]; rfl) out true
    simp only [TcpSession.step, hwpc, SessionPc.sends]
    exact (hsent _).ends (by rw [TcpSession.log, hwpc]; rfl) false
  | connect | openRetry n | reconnect n line | reconnectLast line | pingLast | otaLast
    | otaProbe =>
    have hauth := h.auth (by rw [hwpc]; rfl) out true
    simp only [TcpSession.step, hwpc, SessionPc.sends, SessionPc.connects]
    exact hauth.ends (by rw [TcpSession.log, hwpc]; rfl) false
  | openBle | prompt | reconnectBle line | pingBle | otaBle =>
    simp only [TcpSession.step, hwpc, SessionPc.sends, SessionPc.connects]
    exact h.ends (by rw [hwpc]; rfl) false

/-- A call that is left for another, which has to do with no line. -/
theorem HostInv.leave (h : HostInv C w) {pc pc' : SessionPc} (hwpc : w.pc = pc)
    (hu : pc.unsent = none) (hsock : pc.hasSock = true) (hunsent : pc'.unsent = none)
    (hresends : pc'.resends = none) (hwaiting : pc'.waiting = none) (hprobes : pc'.probes = none) :
    HostInv C { w with pc := pc' } := by
  subst hwpc
  exact ⟨h.log.congr rfl,
    .plain (h.pc.tried hu) (fun _ => h.pc.sock hsock) hunsent hresends hwaiting hprobes⟩

/-! ## The session -/

/-- A step keeps the invariant. -/
theorem HostInv.step (h : HostInv C w) (ev : SessionEv) : HostInv C (w.step C ev) := by
  cases ev with
  | connected o => exact h.connected o
  | returned o => exact h.returned o
  | ble wifiUp =>
    simp only [TcpSession.step]
    split
    · exact h
    · next up down hb => exact h.ble hb wifiUp
  | pingDue =>
    simp only [TcpSession.step]
    split
    · next hwpc => exact h.leave hwpc rfl rfl rfl rfl rfl rfl
    · exact h
  | typed text file =>
    simp only [TcpSession.step]
    split
    · next hwpc => exact h.typed hwpc text file
    · exact h
  | uploaded out complete =>
    simp only [TcpSession.step]
    split
    · next data k hwpc hk =>
      split
      · exact (h.uploaded hwpc hk _ 0 true).afterUpload hwpc (.inr rfl) _
      · refine (h.uploaded hwpc hk _ _ _).afterUpload hwpc ?_ true
        cases complete
        · exact .inr rfl
        · exact .inl rfl
    · exact h
  | deadline =>
    simp only [TcpSession.step]
    split
    · next hwpc => exact h.leave hwpc rfl rfl rfl rfl rfl rfl
    · exact h
  | interrupt out => exact h.interrupt out

/-- The session begins with nothing sent. -/
theorem hostInv_start : HostInv C .start where
  log := ⟨Trace.each_nil, List.forall_mem_nil _, List.forall_mem_nil _,
    by simp [TcpSession.start]⟩
  pc := .plain (fun _ hn => absurd hn (Nat.not_lt_zero _)) (fun hs => by cases hs) rfl rfl rfl rfl

end

/-! ## The sockets that have been left -/

/-- A socket that a call can send on: that of the session, the one that is being tried, or the
next. -/
def TcpSession.AtHand (w : TcpSession) (k : Nat) : Prop :=
  w.sock = some k ∨ k ∈ w.pc.probes ∨ k = w.opened

/-- What a step does to the sockets: the session changes to one at hand only; another one is tried
only while the session keeps its own; and something is sent on those at hand only. -/
structure Moves (w w' : TcpSession) : Prop where
  opened : w.opened ≤ w'.opened
  sock : ∀ k ∈ w'.sock, w.AtHand k
  probe : ∀ k ∈ w'.pc.probes, w'.sock = w.sock ∧ (k ∈ w.pc.probes ∨ k = w.opened)
  sent : ∃ new, w'.sent = w.sent ++ new ∧ ∀ x ∈ new, w.AtHand x.sock

section
variable {C : HostConfig} {w w' : TcpSession}

/-- Nothing is sent, and the sockets stay. -/
theorem Moves.of_hist (hhist : w'.hist = w.hist) (hprobes : ∀ k ∈ w'.pc.probes, k ∈ w.pc.probes) :
    Moves w w' := by
  obtain ⟨pc, sock, closed, opened, lines, sent⟩ := w
  obtain ⟨pc', sock', closed', opened', lines', sent'⟩ := w'
  cases hhist
  exact ⟨Nat.le_refl _, fun k hk => .inl hk, fun k hk => ⟨rfl, .inl (hprobes k hk)⟩, [],
    (List.append_nil _).symm, List.forall_mem_nil _⟩

/-- The session goes on to a call that tries no other socket. -/
theorem Moves.leave (w : TcpSession) {pc : SessionPc} (closed : Bool) (hpc : pc.probes = none) :
    Moves w { w with pc := pc, closed := closed } :=
  .of_hist rfl (by simp [hpc])

/-- Something is sent first. -/
theorem Moves.log {k : Nat} {kind : SendKind} {text : Bytes} {out : Nat} {failed : Bool}
    (h : Moves (w.log k kind text out failed) w') (hk : w.AtHand k) : Moves w w' := by
  obtain ⟨new, hsent, hnew⟩ := h.sent
  refine ⟨h.opened, h.sock, h.probe, ⟨k, kind, text, min out text.length, failed⟩ :: new, ?_,
    List.forall_mem_cons.mpr ⟨hk, hnew⟩⟩
  rw [hsent, TcpSession.log, List.append_assoc]
  rfl

/-- The session changes to the socket it has tried. -/
theorem Moves.adopt {k : Nat} (hk : k ∈ w.pc.probes) {pc : SessionPc} (hprobes : pc.probes = none) :
    Moves w { w.adopt k with pc := pc } where
  opened := Nat.le_refl _
  sock := fun k' hk' => by
    cases hk'
    exact .inr (.inl hk)
  probe := by simp [hprobes]
  sent := ⟨[], (List.append_nil _).symm, List.forall_mem_nil _⟩

theorem SessionPc.probes_resume (line : Option TypedLine) : (resume line).probes = none := by
  cases line <;> rfl

theorem SessionPc.probes_giveUp (line : Option TypedLine) : (giveUp line).probes = none := by
  cases line <;> rfl

theorem SessionPc.probes_tryReconnect (line : Option TypedLine) :
    (tryReconnect C line).probes = none := by
  rw [tryReconnect]
  split <;> rfl

/-- `send_line` or `send_ping` has failed. -/
theorem Moves.failed : Moves w (w.failed C) := by
  simp only [TcpSession.failed]
  split
  · exact .leave w _ (SessionPc.probes_tryReconnect none)
  · exact .leave w _ (SessionPc.probes_tryReconnect _)
  · exact .leave w _ rfl
  · exact .leave w _ rfl
  · exact .leave w _ rfl
  · exact .leave w _ rfl
  · exact .of_hist rfl fun _ => id

/-- It has returned. -/
theorem Moves.replied (replied : Bool) : Moves w (w.replied replied) := by
  simp only [TcpSession.replied]
  split
  · exact .leave w _ rfl
  · exact .leave w _ rfl
  · exact .leave w _ rfl
  · exact .leave w _ rfl
  · next k line hwpc => exact .adopt (by rw [hwpc]; rfl) (SessionPc.probes_resume line)
  · next k hwpc =>
    split
    · exact .adopt (by rw [hwpc]; rfl) rfl
    · exact .leave w _ rfl
  · exact .of_hist rfl fun _ => id

/-- What a call sends, it sends on a socket at hand. -/
theorem HostInv.sends_atHand (h : HostInv C w) {k : Nat} {kind : SendKind} {text : Bytes}
    (hs : w.pc.sends (w.sock.getD 0) = some (k, kind, text)) : w.AtHand k := by
  have hsock := h.sock
  unfold TcpSession.AtHand
  cases hwpc : w.pc with
  | openVersion | ping | send line | resend line =>
    rw [hwpc] at hs hsock
    cases hs
    exact .inl (hsock rfl)
  | reconnectVersion k' line | otaVersion k' =>
    rw [hwpc] at hs
    cases hs
    exact .inr (.inl rfl)
  | _ =>
    rw [hwpc] at hs
    cases hs

/-- Where `connect_and_auth` leads: only the calls that do not adopt its socket try it first. -/
theorem SessionPc.probes_connects {pc up down : SessionPc} {k : Nat}
    (hc : pc.connects k = some (up, down)) :
    down.probes = none ∧ up.probes = if pc.adopts then none else some k := by
  cases pc with
  | connect | pingLast | otaLast | otaProbe =>
    cases hc
    exact ⟨rfl, rfl⟩
  | openRetry n | reconnect n line =>
    cases hc
    refine ⟨?_, rfl⟩
    split <;> rfl
  | reconnectLast line =>
    cases hc
    exact ⟨probes_giveUp line, probes_resume line⟩
  | _ => cases hc

/-- `connect_and_auth` returns. -/
theorem Moves.connected (o : ConnectOutcome) : Moves w (w.connected C o) := by
  rw [TcpSession.connected]
  split
  · exact .of_hist rfl fun _ => id
  · next up down hc =>
    obtain ⟨hdown, hup⟩ := SessionPc.probes_connects hc
    have hrefused : ∀ k ∈ (if w.pc.opening then none else w.sock), w.AtHand k := by
      intro k hk
      split at hk
      · cases hk
      · exact .inl hk
    have hnext : ∀ x ∈ [(⟨w.opened, .auth, C.authLine, min C.authLine.length C.authLine.length,
        false⟩ : WireItem)], w.AtHand x.sock := List.forall_mem_singleton.mpr (.inr (.inr rfl))
    cases o with
    | refused =>
      exact ⟨Nat.le_refl _, hrefused, by simp [TcpSession.refused, hdown], [],
        (List.append_nil _).symm, List.forall_mem_nil _⟩
    | broken out =>
      exact ⟨Nat.le_succ _, hrefused, by simp [TcpSession.refused, hdown], _, rfl,
        List.forall_mem_singleton.mpr (.inr (.inr rfl))⟩
    | up =>
      dsimp only
      cases hadopts : w.pc.adopts
      · rw [hadopts] at hup
        refine ⟨Nat.le_succ _, fun k hk => .inl hk, fun k hk => ⟨rfl, .inr ?_⟩, _, rfl, hnext⟩
        rw [hup] at hk
        cases hk
        rfl
      · rw [hadopts] at hup
        refine ⟨Nat.le_succ _, fun k hk => .inr (.inr ?_), by simp [hup], _, rfl, hnext⟩
        cases hk
        rfl

/-- `send_line` or `send_ping` returns. -/
theorem Moves.returned (h : HostInv C w) (o : SendOutcome) : Moves w (w.returned C o) := by
  cases hs : w.pc.sends (w.sock.getD 0) with
  | none =>
    rw [TcpSession.returned, hs]
    exact .of_hist rfl fun _ => id
  | some item =>
    obtain ⟨k, kind, text⟩ := item
    have hk := h.sends_atHand hs
    rcases w.returned_cases (C := C) o hs with ⟨out, hret⟩ | ⟨replied, hret⟩
    · rw [hret]
      exact Moves.failed.log hk
    · rw [hret]
      exact (Moves.replied replied).log hk

/-- **What a step does to the sockets.** -/
theorem Moves.step (h : HostInv C w) (ev : SessionEv) : Moves w (w.step C ev) := by
  have hsame : Moves w w := .of_hist rfl fun _ => id
  cases ev with
  | connected o => exact .connected o
  | returned o => exact .returned h o
  | ble wifiUp =>
    simp only [TcpSession.step]
    split
    · exact hsame
    · next up down hb =>
      refine .leave w _ ?_
      have hprobes : up.probes = none ∧ down.probes = none := by
        cases hwpc : w.pc with
        | reconnectBle line =>
          rw [hwpc] at hb
          cases hb
          exact ⟨rfl, SessionPc.probes_giveUp line⟩
        | openBle | pingBle | otaBle =>
          rw [hwpc] at hb
          cases hb
          exact ⟨rfl, rfl⟩
        | _ =>
          rw [hwpc] at hb
          cases hb
      cases wifiUp
      · exact hprobes.2
      · exact hprobes.1
  | pingDue =>
    simp only [TcpSession.step]
    split
    · exact .leave w _ rfl
    · exact hsame
  | typed text file =>
    simp only [TcpSession.step]
    split
    · simp only [TcpSession.typed]
      split
      · exact hsame
      · split
        · exact .leave w _ rfl
        · split
          · cases file with
            | none => exact hsame
            | some data => exact .leave w _ rfl
          · exact ⟨Nat.le_refl _, fun k hk => .inl hk, by simp [SessionPc.probes], [],
              (List.append_nil _).symm, List.forall_mem_nil _⟩
    · exact hsame
  | uploaded out complete =>
    simp only [TcpSession.step]
    split
    · next data k hwpc hk =>
      split
      · exact (Moves.leave _ _ rfl).log (.inl hk)
      · refine (Moves.leave _ _ ?_).log (.inl hk)
        cases complete <;> rfl
    · exact hsame
  | deadline =>
    simp only [TcpSession.step]
    split
    · exact .leave w _ rfl
    · exact hsame
  | interrupt out =>
    simp only [TcpSession.step]
    split
    · exact hsame
    · next data hwpc => exact (Moves.leave _ _ rfl).log (.inl (h.sock (by rw [hwpc]; rfl)))
    · next hs _ _ => exact (Moves.leave _ _ rfl).log (h.sends_atHand hs)
    · exact ⟨Nat.le_succ _, fun k hk => .inl hk, by simp [SessionPc.probes], _, rfl,
        List.forall_mem_singleton.mpr (.inr (.inr rfl))⟩
    · exact .leave w _ rfl

end

section
variable (C : HostConfig) (evs : List SessionEv)

/-- `k` has been the socket of the session. -/
def HasHadSock (k : Nat) : Prop :=
  ∃ before, before <+: evs ∧ (Run.exec (TcpSession.step C) .start before).sock = some k

/-- It has been, and later it was so no longer. -/
def HasLeftSock (k : Nat) : Prop :=
  ∃ now, now <+: evs ∧ HasHadSock C now k ∧ (Run.exec (TcpSession.step C) .start now).sock ≠ some k

/-- What is known of the sockets the session has had: their numbers have been given out, none of
them is being tried, and it does not come back to one it has left. -/
structure Former (w : TcpSession) : Prop where
  inv : HostInv C w
  had : ∀ k, HasHadSock C evs k → k < w.opened ∧ k ∉ w.pc.probes
  left : ∀ k, HasLeftSock C evs k → w.sock ≠ some k

end

section
variable {C : HostConfig} {w : TcpSession} {evs : List SessionEv} {ev : SessionEv} {k : Nat}

theorem hasHadSock_concat (h : HasHadSock C (evs ++ [ev]) k) :
    HasHadSock C evs k ∨ (Run.exec (TcpSession.step C) .start (evs ++ [ev])).sock = some k := by
  obtain ⟨before, hpre, hk⟩ := h
  rcases List.prefix_concat_iff.mp hpre with rfl | hpre
  · exact .inr hk
  · exact .inl ⟨before, hpre, hk⟩

theorem hasLeftSock_concat (h : HasLeftSock C (evs ++ [ev]) k) :
    HasLeftSock C evs k ∨ (Run.exec (TcpSession.step C) .start (evs ++ [ev])).sock ≠ some k := by
  obtain ⟨now, hpre, hhad, hne⟩ := h
  rcases List.prefix_concat_iff.mp hpre with rfl | hpre
  · exact .inr hne
  · exact .inl ⟨now, hpre, hhad, hne⟩

theorem HasLeftSock.hasHadSock (h : HasLeftSock C evs k) : HasHadSock C evs k := by
  obtain ⟨now, hpre, ⟨before, hbefore, hk⟩, -⟩ := h
  exact ⟨before, hbefore.trans hpre, hk⟩

/-- A socket that has been left is not at hand. -/
theorem Former.not_atHand (h : Former C evs w) (hk : HasLeftSock C evs k) : ¬ w.AtHand k := by
  obtain ⟨hlt, hprobe⟩ := h.had k hk.hasHadSock
  rintro (hsock | hprobes | rfl)
  · exact h.left k hk hsock
  · exact hprobe hprobes
  · exact Nat.lt_irrefl _ hlt

theorem former_exec (C : HostConfig) (evs : List SessionEv) :
    Former C evs (Run.exec (TcpSession.step C) .start evs) := by
  induction evs using List.reverseRecOn with
  | nil =>
    have hnone : ∀ k, ¬ HasHadSock C [] k := by
      rintro k ⟨before, hpre, hk⟩
      rw [List.prefix_nil.mp hpre] at hk
      cases hk
    exact ⟨hostInv_start, fun k hk => absurd hk (hnone k),
      fun k hk => absurd hk.hasHadSock (hnone k)⟩
  | append_singleton evs ev ih =>
    have hmoves := Moves.step ih.inv ev
    have hinv := ih.inv.step ev
    have hhad : ∀ k, HasHadSock C evs k →
        k ∉ ((Run.exec (TcpSession.step C) .start evs).step C ev).pc.probes := by
      intro k hk hprobes
      obtain ⟨hlt, hnot⟩ := ih.had k hk
      rcases (hmoves.probe k hprobes).2 with hold | rfl
      · exact hnot hold
      · exact Nat.lt_irrefl _ hlt
    refine ⟨?_, fun k hk => ?_, fun k hk => ?_⟩
    · rw [Run.exec_concat]
      exact hinv
    · have hnow := hasHadSock_concat hk
      rw [Run.exec_concat] at hnow ⊢
      rcases hnow with hk | hk
      · exact ⟨Nat.lt_of_lt_of_le (ih.had k hk).1 hmoves.opened, hhad k hk⟩
      · refine ⟨hinv.log.sock_opened hk, fun hprobes => ?_⟩
        -- a socket is tried only while the session keeps its own
        rw [(hmoves.probe k hprobes).1] at hk
        exact hhad k ⟨evs, List.prefix_rfl, hk⟩ hprobes
    · have hnow := hasLeftSock_concat hk
      rw [Run.exec_concat] at hnow ⊢
      rcases hnow with hk | hk
      · exact fun hsock => ih.not_atHand hk (hmoves.sock k hsock)
      · exact hk

/-- **Nothing goes out on a socket that has been left.** -/
theorem not_sent_on_left (C : HostConfig) (evs : List SessionEv) (ev : SessionEv) :
    let w := Run.exec (TcpSession.step C) .start evs
    ∀ x ∈ (w.step C ev).sent.drop w.sent.length, ¬ HasLeftSock C evs x.sock := by
  intro w x hx hleft
  have h := former_exec C evs
  obtain ⟨new, hsent, hnew⟩ := (Moves.step h.inv ev).sent
  rw [hsent, List.drop_left] at hx
  exact h.not_atHand hleft (hnew x hx)

end

/-- **What the session sends.** Whatever the network and the user do: on every socket the token goes
out first; nothing is sent, by whatever event `ev` comes next, on a socket that the session has had
and has left; the command lines go out in the order in which they were typed and as they were typed,
each at most twice, and a second time only on a newer socket and after the first has failed; and
every line but the one that is being sent has been tried. -/
theorem session_sends_in_order (C : HostConfig) (evs : List SessionEv) :
    let w := Run.exec (TcpSession.step C) .start evs
    Trace.Each InOrder w.sent ∧
      (∀ ev, ∀ x ∈ (w.step C ev).sent.drop w.sent.length, ¬ HasLeftSock C evs x.sock) ∧
      (∀ y ∈ w.sent, y.kind = .auth → y.text = C.authLine) ∧
      (∀ y ∈ w.sent, ∀ n, y.kind = .typed n →
        ∃ line, w.lines[n]? = some line ∧ y.text = line ++ [10]) ∧
      ∀ n line, w.lines[n]? = some line →
        w.sent.countP (·.kind = .typed n) ≤ 2 ∧
          (w.pc = .send (n, line) ∨ ∃ y ∈ w.sent, y.kind = .typed n) := by
  intro w
  have h : HostInv C w := Run.exec_inv hostInv_start (fun _ ev h => h.step ev) evs
  refine ⟨h.log.each, not_sent_on_left C evs, h.log.token, h.log.typed,
    fun n line hline => ⟨?_, ?_⟩⟩
  · exact h.log.each.countP_le_succ fun pre x hx hq => hx.twice n (of_decide_eq_true hq)
  · have hlt := (List.getElem?_eq_some_iff.mp hline).1
    cases hu : w.pc.unsent with
    | none => exact .inr (h.pc.tried hu n hlt)
    | some last =>
      have hlast := h.pc.first last hu
      rw [hlast.last] at hlt
      rcases Nat.lt_succ_iff_lt_or_eq.mp hlt with hbefore | rfl
      · exact .inr (hlast.before n hbefore)
      · refine .inl ?_
        cases hline.symm.trans hlast.text
        cases hwpc : w.pc with
        | send line =>
          rw [hwpc] at hu
          cases hu
          rfl
        | _ =>
          rw [hwpc] at hu
          cases hu

end RemoteControl
