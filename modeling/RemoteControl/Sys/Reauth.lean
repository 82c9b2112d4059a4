import RemoteControl.Sys.Authorization

/-!
# Re-authentication after an outage (`sys_events.c`, `command.c`)

`syscoord_on_wifi_state(false)` clears the global flag to force a new AUTH over TCP. The dispatcher
tests another flag, the one in the context of the connection, and no Wi-Fi event reaches that one.
So a connection that outlives the outage is as authenticated as it was before.

`Outages` is the firmware with a record of these calls: how much had happened by then, how many
connections there had been, and on which open ones the flag was set. A flag that was set then, on a
connection that has seen no AUTH since, is left over (`LeftOver`); what the claim asks for fails
exactly where a guarded line meets such a flag.
-/

namespace RemoteControl

open CString

/-! ## The outages -/

/-- The handler of the event calls `syscoord_on_wifi_state(false)`. -/
def ControlEv.wifiDown : ControlEv → Bool
  | .staDisconnected _ | .staStop | .lostIp => true
  | _ => false

/-- A call of `syscoord_on_wifi_state(false)`: how much had happened, how many clients there had
been, and which of them were open with `ctx.authed` set. -/
structure Outage where
  time : Nat
  clients : Nat
  authed : List Nat
  deriving DecidableEq

/-- The firmware with its outages so far. -/
structure Outages where
  fw : Firmware
  outages : List Outage

/-- At boot. -/
def Outages.init (fw : Firmware) : Outages := ⟨fw, []⟩

namespace Firmware

/-- The step calls `syscoord_on_wifi_state(false)`. -/
def losesWifi (fw : Firmware) : FirmwareEv → Bool
  | .control i => !fw.cmd.control.halted && i.ev.wifiDown
  | _ => false

/-- The client is open with its flag set. -/
def openAuthed (fw : Firmware) (i : Nat) : Bool :=
  fw.clients[i]?.any fun c => c.pc ≠ .closed && c.authed

/-- An outage that comes now. -/
def outage (fw : Firmware) : Outage :=
  ⟨fw.trace.length, fw.clients.length, (List.range fw.clients.length).filter fw.openAuthed⟩

/-- The line that the step gives to `cmd_dispatch_line` on a TCP connection. -/
def tcpLine (fw : Firmware) : FirmwareEv → Option (Nat × Bytes)
  | .client i a =>
    if fw.cmd.control.halted then none
    else (fw.clients[i]?.bind (·.dispatches id a.recv)).map (i, ·)
  | _ => none

end Firmware

section
variable (E : FlashEnv) (C : Crc32)

/-- One step. -/
def Outages.step (w : Outages) (ev : FirmwareEv) : Outages where
  fw := w.fw.step E C ev
  outages := if w.fw.losesWifi ev then w.outages ++ [w.fw.outage] else w.outages

end

/-! ## The property -/

/-- A guarded handler is called for a TCP connection that existed at an outage only after a matching
AUTH on it since. -/
def ReauthedSince (outages : List Outage) (pre : List Happened) (h : Happened) : Prop :=
  ∀ i entry args token, h = .line (.tcp i) (.called entry args) token → entry.needsAuth = true →
    ∀ o ∈ outages, o.time ≤ pre.length → i < o.clients →
      ∃ q ∈ pre.drop o.time, AuthOn (.tcp i) q

/-- So has every call so far been. -/
def Outages.Reauthed (w : Outages) : Prop := Trace.Each (ReauthedSince w.outages) w.fw.trace

instance (conn : ConnId) (h : Happened) : Decidable (AuthOn conn h) :=
  match h with
  | .line conn' result token =>
    inferInstanceAs (Decidable (conn' = conn ∧ AuthMatches result token))
  | .bleStart _ _ => isFalse id

/-- The flag of a client is left over: it was set at an outage, and no AUTH on the connection has
been accepted since. -/
def Outages.LeftOver (w : Outages) (i : Nat) : Prop :=
  ∃ o ∈ w.outages, i ∈ o.authed ∧ ∀ q ∈ w.fw.trace.drop o.time, ¬ AuthOn (.tcp i) q

instance (w : Outages) (i : Nat) : Decidable (w.LeftOver i) :=
  inferInstanceAs (Decidable (∃ o ∈ w.outages, _ ∧ ∀ q ∈ w.fw.trace.drop o.time, _))

/-- The first word of the line is the name of a guarded command. -/
def guardedLine (line : Bytes) : Bool :=
  let name := (lskipN (rtrimN line)).takeWhile fun c => !isBlank c
  (cmds.find? (·.named name)).any (·.needsAuth)

/-- No guarded line comes from a client whose flag is left over. -/
def Outages.FlagIsNew (w : Outages) (ev : FirmwareEv) : Prop :=
  ∀ p ∈ w.fw.tcpLine ev, guardedLine p.2 = true → ¬ w.LeftOver p.1

instance (w : Outages) (ev : FirmwareEv) : Decidable (w.FlagIsNew ev) :=
  inferInstanceAs (Decidable (∀ p ∈ w.fw.tcpLine ev, _ → _))

/-- With the flag set, the guarded lines are those that call a guarded handler. -/
theorem guardedLine_iff {line : Bytes} :
    guardedLine line = true ↔
      ∃ entry args, cmdDispatchLine line true = .called entry args ∧ entry.needsAuth = true := by
  simp only [guardedLine, cmdDispatchLine]
  split
  · next hnil =>
    have hnone : cmds.find? (·.named []) = none := by decide
    rw [hnil, List.takeWhile_nil, hnone]
    simp
  · cases cmds.find? (·.named ((lskipN (rtrimN line)).takeWhile fun c => !isBlank c)) with
    | none => simp
    | some entry => simp

/-! ## The invariant -/

/-- What is known of the flags: those that are set now were so at each outage that the connection
has seen, or come from an AUTH since; and those that were set then still are. -/
structure Outages.Inv (w : Outages) : Prop where
  each : w.Reauthed
  flags : ∀ i c, w.fw.clients[i]? = some c → c.pc ≠ .closed → c.authed = true →
    ∀ o ∈ w.outages, i < o.clients → i ∈ o.authed ∨ ∃ q ∈ w.fw.trace.drop o.time, AuthOn (.tcp i) q
  kept : ∀ o ∈ w.outages, ∀ i ∈ o.authed,
    i < o.clients ∧ ∃ c, w.fw.clients[i]? = some c ∧ c.authed = true
  past : ∀ o ∈ w.outages, o.time ≤ w.fw.trace.length ∧ o.clients ≤ w.fw.clients.length

section
variable {E : FlashEnv} {C : Crc32} {w : Outages}

theorem Outages.inv_init {fw : Firmware} (h : fw.trace = []) : (Outages.init fw).Inv where
  each := by
    rw [Outages.Reauthed, Outages.init, h]
    exact Trace.each_nil
  flags := fun _ _ _ _ _ => nofun
  kept := nofun
  past := nofun

/-- A closed task stays so. -/
theorem TcpClient.pc_of_step {a : ClientAnswers UInt8} {c : TcpClient UInt8} {s : CmdState}
    {log : FlashLog} (h : (c.step id E C a s log).1.pc ≠ .closed) : c.pc ≠ .closed := by
  intro hpc
  have hstep : c.step id E C a s log = (c, s, log) := by
    unfold TcpClient.step
    rw [hpc]
  rw [hstep] at h
  exact h hpc

/-- A task that dispatches a line is open. -/
theorem TcpClient.pc_of_dispatches {r : Recv UInt8} {c : TcpClient UInt8}
    (h : c.dispatches id r ≠ none) : c.pc ≠ .closed := by
  intro hpc
  refine h ?_
  unfold TcpClient.dispatches
  rw [hpc]

/-- An AUTH since an outage stays one. -/
theorem Outages.Inv.since (h : w.Inv) {o : Outage} (ho : o ∈ w.outages) {i : Nat}
    (hq : ∃ q ∈ w.fw.trace.drop o.time, AuthOn (.tcp i) q) (new : List Happened) :
    ∃ q ∈ (w.fw.trace ++ new).drop o.time, AuthOn (.tcp i) q := by
  rw [List.drop_append_of_le_length (h.past o ho).1]
  exact authOn_append hq

/-- What is recorded of an outage that comes now. -/
theorem Firmware.mem_outage {fw : Firmware} {i : Nat} :
    i ∈ fw.outage.authed ↔ ∃ c, fw.clients[i]? = some c ∧ c.pc ≠ .closed ∧ c.authed = true := by
  simp only [Firmware.outage, Firmware.openAuthed, List.mem_filter, List.mem_range,
    Option.any_eq_true, Bool.and_eq_true, decide_eq_true_eq]
  constructor
  · rintro ⟨-, h⟩
    exact h
  · rintro ⟨c, hc, h⟩
    exact ⟨(List.getElem?_eq_some_iff.mp hc).1, c, hc, h⟩

/-- **The clients after a step**: as many or one more, and each of them as it was, or a step of its
own further. -/
theorem FirmwareStep.client_at {fw fw' : Firmware} {ev : FirmwareEv}
    (h : FirmwareStep E C fw ev fw') :
    fw.clients.length ≤ fw'.clients.length ∧ ∀ (i : Nat) (c : TcpClient UInt8),
      fw.clients[i]? = some c →
      fw'.clients[i]? = some c ∨
        ∃ a, fw'.clients[i]? = some (c.step id E C a fw.cmd fw.log).1 := by
  rcases h.clients with ⟨j, a, -, rfl⟩ | ⟨heq | heq, -⟩
  · unfold Firmware.client
    cases hj : fw.clients[j]? with
    | none => exact ⟨Nat.le_refl _, fun i c hi => .inl hi⟩
    | some c₀ =>
      refine ⟨Nat.le_of_eq List.length_set.symm, fun i c hi => ?_⟩
      dsimp only
      rcases eq_or_ne j i with rfl | hij
      · cases hj.symm.trans hi
        rw [List.getElem?_set_self (List.getElem?_eq_some_iff.mp hi).1]
        exact .inr ⟨a, rfl⟩
      · rw [List.getElem?_set_ne hij]
        exact .inl hi
  · rw [heq]
    exact ⟨Nat.le_refl _, fun i c hi => .inl hi⟩
  · rw [heq]
    refine ⟨by simp, fun i c hi => .inl ?_⟩
    rw [List.getElem?_append_left (List.getElem?_eq_some_iff.mp hi).1]
    exact hi

/-- **What a step records of the TCP connections**: the line it dispatches on one of them, if it
does. -/
theorem Firmware.trace_step (fw : Firmware) (ev : FirmwareEv) :
    (fw.tcpLine ev = none ∧
        ∃ new, (fw.step E C ev).trace = fw.trace ++ new ∧ ∀ x ∈ new, ∀ i, x.conn ≠ .tcp i) ∨
      ∃ i line c token, fw.tcpLine ev = some (i, line) ∧ fw.clients[i]? = some c ∧
        c.pc ≠ .closed ∧ (fw.step E C ev).trace =
          fw.trace ++ [.line (.tcp i) (cmdDispatchLine line c.authed) token] := by
  have hspec := fw.step_spec (E := E) (C := C) ev
  cases ev with
  | client i a =>
    simp only [Firmware.tcpLine, Firmware.step]
    split
    · exact .inl ⟨rfl, [], (List.append_nil _).symm, List.forall_mem_nil _⟩
    · simp only [Firmware.client]
      cases hi : fw.clients[i]? with
      | none => exact .inl ⟨rfl, [], (List.append_nil _).symm, List.forall_mem_nil _⟩
      | some c =>
        cases hd : c.dispatches id a.recv with
        | none => exact .inl ⟨by simp [hd], [], by simp [hd], List.forall_mem_nil _⟩
        | some line =>
          have hopen : c.pc ≠ .closed := by
            refine @TcpClient.pc_of_dispatches a.recv c ?_
            rw [hd]
            exact nofun
          exact .inr ⟨i, line, c, tokenInForce a.cmd fw.cmd, by simp [hd], hi, hopen, by simp [hd]⟩
  | _ =>
    rcases hspec.clients with ⟨i, a, hev, -⟩ | ⟨-, hnew⟩
    · cases hev
    · exact .inl ⟨rfl, hnew⟩

/-- A line on a connection whose flag, if it is set, comes from an AUTH since each outage. -/
theorem reauthedSince_line {outages : List Outage} {tr : List Happened} {i : Nat}
    {line token : Bytes} {authed : Bool}
    (h : authed = true → guardedLine line = true →
      ∀ o ∈ outages, i < o.clients → ∃ q ∈ tr.drop o.time, AuthOn (.tcp i) q) :
    ReauthedSince outages tr (.line (.tcp i) (cmdDispatchLine line authed) token) := by
  intro j entry args token' heq hneeds o ho _ hj
  obtain ⟨rfl, hcall, -⟩ : i = j ∧ cmdDispatchLine line authed = .called entry args ∧
    token = token' := by simpa using heq
  obtain ⟨-, hflag, htrue⟩ := cmdDispatchLine_called hcall
  exact h (hflag hneeds) (guardedLine_iff.mpr ⟨entry, args, htrue, hneeds⟩) o ho hj

/-- Where the flag of a client is not left over, it comes from an AUTH since each outage that the
client has seen. -/
theorem Outages.Inv.authOn (h : w.Inv) {i : Nat} (hnew : ¬ w.LeftOver i) {c : TcpClient UInt8}
    (hi : w.fw.clients[i]? = some c) (hpc : c.pc ≠ .closed) (hauth : c.authed = true) :
    ∀ o ∈ w.outages, i < o.clients → ∃ q ∈ w.fw.trace.drop o.time, AuthOn (.tcp i) q := by
  intro o ho hlt
  rcases h.flags i c hi hpc hauth o ho hlt with hin | hq
  · by_contra hnone
    exact hnew ⟨o, ho, hin, fun q hq hon => hnone ⟨q, hq, hon⟩⟩
  · exact hq

/-- Nothing happens between an outage and the end of its step. -/
theorem reauthedSince_outage {outages : List Outage} {fw : Firmware}
    (h : Trace.Each (ReauthedSince outages) fw.trace) :
    Trace.Each (ReauthedSince (outages ++ [fw.outage])) fw.trace := by
  intro pre x post heq i entry args token hx hneeds o ho hle hlt
  rcases List.mem_append.mp ho with ho | ho
  · exact h pre x post heq i entry args token hx hneeds o ho hle hlt
  · have htime : o.time = fw.trace.length := by
      rw [List.mem_singleton.mp ho]
      rfl
    rw [htime, heq, List.length_append, List.length_cons] at hle
    omega

/-- A step in which Wi-Fi goes down leaves the clients and the record as they are. -/
theorem Firmware.step_losesWifi {fw : Firmware} {ev : FirmwareEv} (h : fw.losesWifi ev = true) :
    fw.tcpLine ev = none ∧ (fw.step E C ev).trace = fw.trace ∧
      (fw.step E C ev).clients = fw.clients := by
  cases ev with
  | control i =>
    have hspec := fw.step_spec (E := E) (C := C) (.control i)
    generalize fw.step E C (.control i) = fw' at hspec
    cases hspec <;> exact ⟨rfl, rfl, rfl⟩
  | _ => cases h

/-- **What a step keeps to**: every call so far comes after a new AUTH, exactly if no guarded line
meets a flag that is left over. -/
theorem Outages.Inv.reauthed_step (h : w.Inv) (ev : FirmwareEv) :
    (w.step E C ev).Reauthed ↔ w.FlagIsNew ev := by
  have hfw : (w.step E C ev).fw = w.fw.step E C ev := rfl
  cases hw : w.fw.losesWifi ev with
  | true =>
    obtain ⟨hline, htrace, -⟩ := Firmware.step_losesWifi (E := E) (C := C) hw
    have houtages : (w.step E C ev).outages = w.outages ++ [w.fw.outage] := by
      simp [Outages.step, hw]
    refine iff_of_true ?_ (by simp [Outages.FlagIsNew, hline])
    rw [Outages.Reauthed, houtages, hfw, htrace]
    exact reauthedSince_outage h.each
  | false =>
    have houtages : (w.step E C ev).outages = w.outages := by simp [Outages.step, hw]
    rw [Outages.Reauthed, houtages, hfw]
    rcases w.fw.trace_step (E := E) (C := C) ev with
      ⟨hline, new, htrace, hnew⟩ | ⟨i, line, c, token, hline, hi, hpc, htrace⟩
    · refine iff_of_true ?_ (by simp [Outages.FlagIsNew, hline])
      rw [htrace]
      refine h.each.append fun x hx pre i entry args token heq => ?_
      exact absurd (by rw [heq]; rfl) (hnew x hx i)
    · have heach : Trace.Each (ReauthedSince w.outages) w.fw.trace := h.each
      rw [htrace, Trace.each_concat, and_iff_right heach, Outages.FlagIsNew, hline]
      constructor
      · rintro hsince p ⟨⟩ hguarded ⟨o, ho, hin, hnone⟩
        obtain ⟨hlt, c', hi', hauth⟩ := h.kept o ho i hin
        cases hi.symm.trans hi'
        obtain ⟨entry, args, hcall, hneeds⟩ := guardedLine_iff.mp hguarded
        rw [hauth, hcall] at hsince
        obtain ⟨q, hq, hon⟩ := hsince i entry args token rfl hneeds o ho (h.past o ho).1 hlt
        exact hnone q hq hon
      · intro hok
        refine reauthedSince_line fun hauth hguarded => ?_
        exact h.authOn (hok _ rfl hguarded) hi hpc hauth

/-- A step without an outage. -/
theorem Outages.Inv.stays (h : w.Inv) {ev : FirmwareEv} (hw : w.fw.losesWifi ev = false)
    (hok : w.FlagIsNew ev) : (w.step E C ev).Inv := by
  have heach := (h.reauthed_step (E := E) (C := C) ev).mpr hok
  have hspec := w.fw.step_spec (E := E) (C := C) ev
  have houtages : (w.step E C ev).outages = w.outages := by simp [Outages.step, hw]
  have hfw : (w.step E C ev).fw = w.fw.step E C ev := rfl
  refine ⟨heach, ?_, ?_, ?_⟩
  · intro i c hi hpc hauth o ho hlt
    rw [houtages] at ho
    rw [hfw] at hi ⊢
    rcases hspec.tcp E C hi with rfl | ⟨hold, new, htrace, -⟩ | ⟨a, c₀, hold, rfl, htrace⟩
    · cases hauth
    · rw [htrace]
      exact (h.flags i c hold hpc hauth o ho hlt).imp_right fun hq => h.since ho hq new
    · rw [htrace]
      rcases TcpClient.authed_step hauth with hauth | ⟨line, hline, hmatch⟩
      · exact (h.flags i c₀ hold (TcpClient.pc_of_step hpc) hauth o ho hlt).imp_right
          fun hq => h.since ho hq _
      · rw [List.map_id] at hmatch
        rw [hline, List.drop_append_of_le_length (h.past o ho).1]
        exact .inr ⟨_, List.mem_append_right _ (List.mem_singleton.mpr rfl), rfl, hmatch⟩
  · intro o ho i hin
    rw [houtages] at ho
    rw [hfw]
    obtain ⟨hlt, c, hi, hauth⟩ := h.kept o ho i hin
    rcases hspec.client_at.2 i c hi with hi | ⟨a, hi⟩
    · exact ⟨hlt, c, hi, hauth⟩
    · exact ⟨hlt, _, hi, TcpClient.authed_stays hauth⟩
  · intro o ho
    rw [houtages] at ho
    rw [hfw]
    obtain ⟨new, htrace⟩ := hspec.trace
    rw [htrace, List.length_append]
    exact ⟨(h.past o ho).1.trans (Nat.le_add_right _ _), (h.past o ho).2.trans hspec.client_at.1⟩

/-- A step in which Wi-Fi goes down. -/
theorem Outages.Inv.down (h : w.Inv) {ev : FirmwareEv} (hw : w.fw.losesWifi ev = true)
    (hok : w.FlagIsNew ev) : (w.step E C ev).Inv := by
  have heach := (h.reauthed_step (E := E) (C := C) ev).mpr hok
  obtain ⟨-, htrace, hclients⟩ := Firmware.step_losesWifi (E := E) (C := C) hw
  have houtages : (w.step E C ev).outages = w.outages ++ [w.fw.outage] := by
    simp [Outages.step, hw]
  have hfw : (w.step E C ev).fw = w.fw.step E C ev := rfl
  refine ⟨heach, ?_, ?_, ?_⟩
  · intro i c hi hpc hauth o ho hlt
    rw [hfw, hclients] at hi
    rw [hfw, htrace]
    rw [houtages] at ho
    rcases List.mem_append.mp ho with ho | ho
    · exact h.flags i c hi hpc hauth o ho hlt
    · rw [List.mem_singleton.mp ho]
      exact .inl (Firmware.mem_outage.mpr ⟨c, hi, hpc, hauth⟩)
  · intro o ho i hin
    rw [hfw, hclients]
    rw [houtages] at ho
    rcases List.mem_append.mp ho with ho | ho
    · exact h.kept o ho i hin
    · rw [List.mem_singleton.mp ho] at hin ⊢
      obtain ⟨c, hi, -, hauth⟩ := Firmware.mem_outage.mp hin
      exact ⟨(List.getElem?_eq_some_iff.mp hi).1, c, hi, hauth⟩
  · intro o ho
    rw [hfw, htrace, hclients]
    rw [houtages] at ho
    rcases List.mem_append.mp ho with ho | ho
    · exact h.past o ho
    · rw [List.mem_singleton.mp ho]
      exact ⟨Nat.le_refl _, Nat.le_refl _⟩

/-- **The step lemma.** -/
theorem Outages.Inv.step (h : w.Inv) {ev : FirmwareEv} (hok : w.FlagIsNew ev) :
    (w.step E C ev).Inv := by
  cases hw : w.fw.losesWifi ev with
  | false => exact h.stays hw hok
  | true => exact h.down hw hok

end

/-! ## The result -/

/-- In every run, every guarded command on a connection that has seen an outage comes after a new
AUTH, exactly if no guarded line comes from a client whose flag is left over from an outage. -/
theorem reauth_after_outage_iff (E : FlashEnv) (C : Crc32) (cfg : StaCfg)
    (nvsSsid nvsPwd : Option Bytes) (postRb : Option Nat) (nvsToken : Option Bytes)
    (evs : List FirmwareEv) :
    Run.Along (Outages.step E C) (fun w ev => (w.step E C ev).Reauthed)
        (.init (.boot cfg nvsSsid nvsPwd postRb nvsToken)) evs ↔
      Run.Along (Outages.step E C) Outages.FlagIsNew
        (.init (.boot cfg nvsSsid nvsPwd postRb nvsToken)) evs :=
  Run.along_congr (Outages.inv_init rfl) (fun _ _ h hev => h.step hev)
    (fun _ ev h => h.reauthed_step ev) evs

/-- Two clients authenticate. Wi-Fi goes down and comes back; one of them authenticates again and
switches the LED on, the other one asks for the version and leaves. -/
def orderlyOutage : List FirmwareEv :=
  [.control ⟨.gotIp, .factory⟩, .accept, .accept] ++ clientSays 0 (lit "AUTH hunter2\n") ++
    clientSays 1 (lit "AUTH hunter2\n") ++
    [.control ⟨.staDisconnected .beaconTimeout, .factory⟩, .control ⟨.gotIp, .factory⟩] ++
    clientSays 1 (lit "AUTH hunter2\n") ++ clientSays 1 (lit "led_on\n") ++
    clientSays 0 (lit "version\n") ++ [.client 0 ⟨.data [], plainAnswers, .zero, true⟩]

example :
    Run.Along (Outages.step ota0Env romCrc32) Outages.FlagIsNew
      (.init (.boot homeCfg none none none none)) orderlyOutage := by
  decide +kernel

/-- A client authenticates; Wi-Fi goes down and comes back. -/
def clientSurvives : List FirmwareEv :=
  [.control ⟨.gotIp, .factory⟩, .accept] ++ clientSays 0 (lit "AUTH hunter2\n") ++
    [.control ⟨.staDisconnected .beaconTimeout, .factory⟩, .control ⟨.gotIp, .factory⟩]

/-- Its next command is a guarded one, and is executed. -/
theorem no_reauth_after_outage :
    ¬ Run.Along (Outages.step ota0Env romCrc32)
      (fun w ev => (w.step ota0Env romCrc32 ev).Reauthed)
      (.init (.boot homeCfg none none none none))
      (clientSurvives ++ clientSays 0 (lit "led_on\n")) := by
  intro h
  have hauth : (Run.exec (Outages.step ota0Env romCrc32)
      (.init (.boot homeCfg none none none none))
      (clientSurvives ++ clientSays 0 (lit "led_on\n"))).fw.trace =
        [.line (.tcp 0) (.called ⟨lit "auth", false, .auth⟩ (lit "hunter2")) (lit "hunter2")] ++
        [.line (.tcp 0) (.called ⟨lit "led_on", true, .ledOn⟩ []) (lit "hunter2")] := by
    decide +kernel
  have houtage : ⟨1, 1, [0]⟩ ∈ (Run.exec (Outages.step ota0Env romCrc32)
      (.init (.boot homeCfg none none none none))
      (clientSurvives ++ clientSays 0 (lit "led_on\n"))).outages := by
    decide +kernel
  obtain ⟨first, last, hlast⟩ : ∃ first last, clientSays 0 (lit "led_on\n") = [first, last] :=
    ⟨_, _, rfl⟩
  rw [hlast, ← List.singleton_append, ← List.append_assoc] at h hauth houtage
  rw [Run.along_concat] at h
  rw [Run.exec_concat] at hauth houtage
  obtain ⟨q, hq, -⟩ := h.2 _ _ [] hauth 0 _ _ _ rfl rfl ⟨1, 1, [0]⟩ houtage (by decide) (by decide)
  cases hq

end RemoteControl
