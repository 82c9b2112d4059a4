import RemoteControl.Lib.Run

/-!
# The TCP listener and its clients' sockets (`tcp_listener.c`, `tcp_client.c`)

`server_task` accepts a connection and leaves its descriptor to a task that `tcp_client_spawn` is
to create; only that task closes it. What `xTaskCreate` returns is ignored, so the descriptor of a
task that was not created is closed by nobody. `Ledger` keeps the books of the open descriptors:
each is that of a client task, or of one that was never created. The count of clients is right all
along, and its correction never runs (`server_ledger`); the descriptors are as many as the client
tasks exactly as long as every task is created (`conserved_iff_spawned`).
-/

namespace RemoteControl

/-! ## The listener -/

/-- The sockets and tasks behind `server_task`, which is in its loop. The client tasks are those
that have not yet called `tcp_on_client_connected` and those that have. -/
structure TcpServer where
  /-- The descriptors that `accept` has returned and nobody has closed. -/
  fds : List Nat
  waiting : List Nat
  serving : List Nat
  /-- `s_client_count`. -/
  clientCount : Int
  /-- How often a negative count has been corrected. -/
  corrections : Nat
  deriving DecidableEq

/-- The listener before its first `accept`. -/
def TcpServer.init : TcpServer := ⟨[], [], [], 0, 0⟩

/-- `tcp_on_client_connected`; `syscoord_on_tcp_clients` does nothing. -/
def tcpOnClientConnected (s : TcpServer) : TcpServer :=
  { s with clientCount := s.clientCount + 1 }

/-- `tcp_on_client_disconnected`. -/
def tcpOnClientDisconnected (s : TcpServer) : TcpServer :=
  let newCnt := s.clientCount - 1
  if newCnt < 0 then { s with clientCount := 0, corrections := s.corrections + 1 }
  else { s with clientCount := newCnt }

/-- `tcp_client_spawn`; `created` says whether `xTaskCreate` has the memory for the task. -/
def tcpClientSpawn (fd : Nat) (created : Bool) (s : TcpServer) : TcpServer :=
  if created then { s with waiting := s.waiting ++ [fd] } else s

/-- What happens: the listener's `accept` returns a descriptor or fails, a client task begins, or it
finds its connection ended. -/
inductive TcpServerEv where
  | accept (fd : Option Nat) (created : Bool)
  | start (fd : Nat)
  | terminate (fd : Nat)
  deriving DecidableEq

/-- One step: a round of the loop in `server_task`, the head of `client_task`, or its end. The
stack gives out no descriptor that is open, and only a task that is there moves. -/
def TcpServer.step (s : TcpServer) : TcpServerEv → TcpServer
  | .accept none _ => s
  | .accept (some fd) created =>
    if fd ∈ s.fds then s else tcpClientSpawn fd created { s with fds := s.fds ++ [fd] }
  | .start fd =>
    if fd ∈ s.waiting then
      tcpOnClientConnected
        { s with waiting := s.waiting.erase fd, serving := s.serving ++ [fd] }
    else s
  | .terminate fd =>
    if fd ∈ s.serving then
      tcpOnClientDisconnected
        { s with fds := s.fds.erase fd, serving := s.serving.erase fd }
    else s

/-! ## The books -/

/-- The open descriptors are those of the client tasks and the leaked ones; the count is that of the
tasks that serve. -/
structure Ledger (s : TcpServer) (leaked : List Nat) : Prop where
  fds : s.fds.Perm (s.waiting ++ s.serving ++ leaked)
  count : s.clientCount = s.serving.length
  corrections : s.corrections = 0

/-- What a step leaks: the descriptor of a connection whose task is not created. -/
def TcpServer.leaks (s : TcpServer) : TcpServerEv → List Nat
  | .accept (some fd) false => if fd ∈ s.fds then [] else [fd]
  | .accept none _ | .accept (some _) true | .start _ | .terminate _ => []

/-- An accepted descriptor goes to its task, or is leaked. -/
theorem Ledger.accept {s : TcpServer} {leaked : List Nat} (h : Ledger s leaked) (fd : Nat)
    (created : Bool) :
    Ledger (s.step (.accept (some fd) created))
      (leaked ++ s.leaks (.accept (some fd) created)) := by
  by_cases hopen : fd ∈ s.fds
  · have hnone : s.leaks (.accept (some fd) created) = [] := by
      cases created
      · exact if_pos hopen
      · rfl
    rw [TcpServer.step, if_pos hopen, hnone, List.append_nil]
    exact h
  · rw [TcpServer.step, if_neg hopen]
    cases created with
    | false =>
      have hleak : s.leaks (.accept (some fd) false) = [fd] := if_neg hopen
      rw [hleak]
      refine ⟨?_, h.count, h.corrections⟩
      rw [← List.append_assoc]
      exact h.fds.append_right [fd]
    | true =>
      rw [TcpServer.leaks, List.append_nil]
      refine ⟨?_, h.count, h.corrections⟩
      have hopened : (s.fds ++ [fd]).Perm (fd :: (s.waiting ++ s.serving ++ leaked)) :=
        (List.perm_append_singleton fd s.fds).trans (h.fds.cons fd)
      have hmoved : (fd :: (s.waiting ++ s.serving ++ leaked)).Perm
          (s.waiting ++ [fd] ++ s.serving ++ leaked) := by
        simp only [List.append_assoc, List.singleton_append]
        exact List.perm_middle.symm
      exact hopened.trans hmoved

/-- A task that begins is counted. -/
theorem Ledger.start {s : TcpServer} {leaked : List Nat} (h : Ledger s leaked) (fd : Nat) :
    Ledger (s.step (.start fd)) leaked := by
  rw [TcpServer.step]
  split
  · next hfd =>
    refine ⟨?_, ?_, h.corrections⟩
    · have htask := List.perm_cons_erase hfd
      have hserve : (s.waiting ++ s.serving).Perm (s.waiting.erase fd ++ (s.serving ++ [fd])) := by
        refine (htask.append_right s.serving).trans ?_
        rw [← List.append_assoc]
        exact (List.perm_append_singleton fd _).symm
      exact h.fds.trans (hserve.append_right leaked)
    · have hlen : ((s.serving ++ [fd]).length : Int) = s.serving.length + 1 := by
        rw [List.length_append, List.length_singleton, Int.natCast_succ]
      exact (congrArg (· + 1) h.count).trans hlen.symm
  · exact h

/-- A task that ends closes its descriptor and is counted off; it was counted, so nothing has to be
corrected. -/
theorem Ledger.terminate {s : TcpServer} {leaked : List Nat} (h : Ledger s leaked) (fd : Nat) :
    Ledger (s.step (.terminate fd)) leaked := by
  rw [TcpServer.step]
  split
  · next hfd =>
    have hcount : s.clientCount - 1 = ((s.serving.erase fd).length : Int) := by
      have hpos := List.length_pos_of_mem hfd
      rw [h.count, List.length_erase_of_mem hfd]
      omega
    have hnonneg : ¬ s.clientCount - 1 < 0 := by
      rw [hcount]
      exact Int.not_lt.mpr (Int.natCast_nonneg _)
    rw [tcpOnClientDisconnected, if_neg hnonneg]
    refine ⟨?_, hcount, h.corrections⟩
    have htask : (s.waiting ++ s.serving).Perm (fd :: (s.waiting ++ s.serving.erase fd)) :=
      ((List.perm_cons_erase hfd).append_left s.waiting).trans List.perm_middle
    have hclosed := (h.fds.trans (htask.append_right leaked)).erase fd
    rwa [List.cons_append, List.erase_cons_head] at hclosed
  · exact h

/-- A step keeps the books. -/
theorem Ledger.step {s : TcpServer} {leaked : List Nat} (h : Ledger s leaked) (e : TcpServerEv) :
    Ledger (s.step e) (leaked ++ s.leaks e) := by
  cases e with
  | accept fd created =>
    cases fd with
    | none => rwa [TcpServer.leaks, List.append_nil]
    | some fd => exact h.accept fd created
  | start fd =>
    rw [TcpServer.leaks, List.append_nil]
    exact h.start fd
  | terminate fd =>
    rw [TcpServer.leaks, List.append_nil]
    exact h.terminate fd

/-- **The ledger.** In every run the open descriptors are those of the client tasks and those that
have leaked, the count is that of the serving tasks, and it has never been corrected; and nothing
that has leaked is ever closed. -/
theorem server_ledger {s : TcpServer} {leaked : List Nat} (h : Ledger s leaked)
    (evs : List TcpServerEv) : ∃ more, Ledger (Run.exec TcpServer.step s evs) (leaked ++ more) := by
  induction evs generalizing s leaked with
  | nil => exact ⟨[], by rwa [List.append_nil]⟩
  | cons e evs ih =>
    obtain ⟨more, hmore⟩ := ih (h.step e)
    rw [List.append_assoc] at hmore
    exact ⟨_, hmore⟩

/-! ## Conservation -/

/-- There are as many open descriptors as client tasks, the count is that of the tasks that have
called `tcp_on_client_connected` and not yet `tcp_on_client_disconnected`, and it has never been
corrected. -/
def TcpServer.Conserved (s : TcpServer) : Prop :=
  s.fds.length = s.waiting.length + s.serving.length ∧
    s.clientCount = s.serving.length ∧ s.corrections = 0

/-- A step in which no accepted connection is left without its task. -/
def TcpServer.Spawned (s : TcpServer) (e : TcpServerEv) : Prop :=
  ∀ fd, e = .accept (some fd) false → fd ∈ s.fds

instance (s : TcpServer) : Decidable s.Conserved := inferInstanceAs (Decidable (_ ∧ _ ∧ _))

/-- Nothing has leaked where the numbers agree. -/
theorem Ledger.conserved_iff {s : TcpServer} {leaked : List Nat} (h : Ledger s leaked) :
    s.Conserved ↔ leaked = [] := by
  have hlen := h.fds.length_eq
  rw [List.length_append, List.length_append] at hlen
  rw [TcpServer.Conserved, and_iff_left ⟨h.count, h.corrections⟩, hlen, Nat.add_eq_left,
    List.length_eq_zero_iff]

/-- A step leaks nothing exactly if it spawns the task it has to. -/
theorem leaks_eq_nil_iff {s : TcpServer} {e : TcpServerEv} : s.leaks e = [] ↔ s.Spawned e := by
  cases e with
  | accept fd created =>
    cases fd with
    | none => simp [TcpServer.leaks, TcpServer.Spawned]
    | some fd => cases created <;> simp [TcpServer.leaks, TcpServer.Spawned]
  | start fd => simp [TcpServer.leaks, TcpServer.Spawned]
  | terminate fd => simp [TcpServer.leaks, TcpServer.Spawned]

/-- **Sockets are conserved as long as their tasks are created.** For every run of accepts, task
creations and terminations: after each step the numbers agree exactly if `xTaskCreate` has not
failed for an accepted connection. -/
theorem conserved_iff_spawned (evs : List TcpServerEv) :
    Run.Along TcpServer.step (fun s e => (s.step e).Conserved) .init evs ↔
      Run.Along TcpServer.step TcpServer.Spawned .init evs := by
  have hstart : Ledger TcpServer.init [] := ⟨.nil, rfl, rfl⟩
  refine @Run.along_congr _ _ TcpServer.step TcpServer.Spawned _ (Ledger · []) _ hstart ?_ ?_ evs
  · intro s e h hok
    have hnext := h.step e
    rwa [leaks_eq_nil_iff.mpr hok] at hnext
  · intro s e h
    rw [(h.step e).conserved_iff, List.nil_append, leaks_eq_nil_iff]

/-- One connection without a task: its descriptor stays open, and no client task is there. -/
theorem spawn_failure_leaks :
    ¬ Run.Along TcpServer.step (fun s e => (s.step e).Conserved) .init
      [.accept (some 55) false] := by
  rintro ⟨hconserved, -⟩
  exact absurd hconserved (by decide)

end RemoteControl
