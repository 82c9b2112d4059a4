import RemoteControl.Ble.HostSession
import RemoteControl.Ble.WifiWrite
import RemoteControl.Net.SessionLink

/-!
# From the BLE prompt of the host to the handlers

The session of the host on one link, and the command context of the device at the other end
(`ble_client.py`, `gatts_event_handler`, `ble_cmd.c`). A write reaches the device as a whole or not
at all, and those that do are handled one after the other, in their order; between two iterations of
`ble_cmd_on_rx` the host goes on, and so do the other tasks of the device, whose statics are an
input. `ran` lists the lines given to `cmd_dispatch_line`; the code has no such list.

Every write of this host ends its line, so no part of one ever runs together with a part of another
(`ble_session_runs_in_order`).
-/

namespace RemoteControl

open CString

/-! ## The writes -/

/-- It goes to RX or to WIFI. -/
def BleWrite.carries : BleWrite → Bool
  | .rx _ | .wifi _ => true
  | .subscribe _ => false

/-- The bytes that the device gives to `ble_cmd_on_rx`. -/
def BleWrite.rxBytes : BleWrite → Bytes
  | .rx data => data
  | .wifi data => (gattOnWifiCredWrite data).getD []
  | .subscribe _ => []

/-- The lines that they make of an empty buffer. -/
def BleWrite.lines (write : BleWrite) : List Bytes := bleLines [] write.rxBytes

/-- The write that a typed line calls for. -/
def BleLine.write : BleLine → Option BleWrite
  | .setwifi ssid pwd => some (.wifi (pyEncode (ssid ++ '\n' :: pwd)))
  | .command line => some (.rx (pyEncode line ++ [10]))
  | _ => none

/-- What the session has written to RX and WIFI, or tried to. -/
def BleSession.tried (w : BleSession) : List BleWrite :=
  (w.asked.map BleCall.write).filter BleWrite.carries

/-- The writes that have reached the device. -/
def BleSession.arrived (w : BleSession) : List BleWrite :=
  (w.asked.filter BleCall.reached).map BleCall.write

/-- What the lines typed so far call for, behind AUTH. -/
def BleSession.planned (C : HostConfig) (w : BleSession) : List BleWrite :=
  .rx C.authLine :: w.typed.filterMap fun text => (bleLine text).write

/-! ## The two ends -/

/-- The session, how many of the writes the device has taken, its context, and the lines it has
run. -/
structure BleHostLink where
  host : BleSession
  taken : Nat
  cli : BleCmd
  ran : List RanLine

/-- A step of the host; the device takes a write; or an iteration of `ble_cmd_on_rx`. -/
inductive BleHostLinkEv where
  | host (ev : BleEv)
  | take
  | byte (x : CmdAnswers) (s : CmdState)

namespace BleHostLink

/-- A link has come up. -/
def start (now : Nat) : BleHostLink := ⟨.start now, 0, bleCmdOnConnect .create, []⟩

/-- The device takes the next write. One without bytes for `ble_cmd_on_rx` does not call it. -/
def take (w : BleHostLink) : BleHostLink :=
  match w.host.arrived[w.taken]? with
  | none => w
  | some write => { w with taken := w.taken + 1, cli := bleCmdOnRx write.rxBytes w.cli }

/-- An iteration of `ble_cmd_on_rx`. -/
def byte (x : CmdAnswers) (s : CmdState) (w : BleHostLink) : BleHostLink :=
  { w with
    cli := (bleCmdByte x w.cli s).1
    ran := w.ran ++ w.cli.dispatches.toList.map (⟨·, w.cli.authed, x, s⟩) }

/-- One step. The stack calls the handler for a write when it has returned from the last one. -/
def step (C : HostConfig) (D : BleChars) (w : BleHostLink) : BleHostLinkEv → BleHostLink
  | .host ev => { w with host := w.host.step C D ev }
  | .take => if w.cli.rx = [] then w.take else w
  | .byte x s => w.byte x s

end BleHostLink

/-! ## The host -/

section
variable {C : HostConfig} {D : BleChars} {w w' : BleSession} {reached : Bool} {write : BleWrite}

/-- What is still to be written for AUTH and for the lines typed so far. -/
def BlePc.owed (C : HostConfig) : BlePc → List BleWrite
  | .subscribe _ | .auth => [.rx C.authLine]
  | .setwifi payload => [.wifi payload]
  | .command line => [.rx (line ++ [10])]
  | _ => []

/-- What has been written is all that was called for, but for the write the session is at. -/
def BleSession.InTurn (C : HostConfig) (w : BleSession) : Prop :=
  ∃ rest, w.tried ++ rest = w.planned C ∧ rest.length ≤ 1 ∧ (w.pc ≠ .raised → rest = w.pc.owed C)

/-- A step that writes nothing and takes no line. -/
theorem BleSession.InTurn.moves (h : w.InTurn C) (hasked : w'.asked = w.asked)
    (htyped : w'.typed = w.typed) (hpc : w'.pc = .raised ∨ w'.pc.owed C = w.pc.owed C)
    (hraised : w.pc = .raised → w'.pc = .raised) : w'.InTurn C := by
  obtain ⟨rest, hsum, hlen, howed⟩ := h
  refine ⟨rest, ?_, hlen, fun hne => ?_⟩
  · simpa only [tried, planned, hasked, htyped] using hsum
  · rw [howed fun heq => hne (hraised heq)]
    exact (hpc.resolve_left hne).symm

/-- The write of the call is what is owed, or a subscription. -/
theorem BlePc.owed_eq {pc : BlePc} (h : pc.writes C = some write) :
    pc.owed C = if write.carries then [write] else [.rx C.authLine] := by
  cases pc <;> cases h <;> rfl

/-- A subscription is made for AUTH, which is still to come. -/
theorem BleSession.owed_afterWrite (h : w.pc.writes C = some write) (D : BleChars)
    (reached ok : Bool) :
    (w.afterWrite D reached ok).pc.owed C = if write.carries then [] else [.rx C.authLine] := by
  obtain ⟨pc, notifyOk, callbacks, asleep, wifiOk, now, noneUntil, typed, asked⟩ := w
  cases pc with
  | subscribe char =>
    cases h
    obtain ⟨alert, ota, dht⟩ := D
    cases char <;> cases reached <;> cases ok <;> cases alert <;> cases dht <;> rfl
  | auth | command line =>
    cases h
    cases ok <;> cases notifyOk <;> rfl
  | setwifi payload =>
    cases h
    cases ok <;> cases wifiOk <;> cases notifyOk <;> rfl
  | _ => cases h

/-- It changes no history. -/
theorem BleSession.history_afterWrite (w : BleSession) (D : BleChars) (reached ok : Bool) :
    (w.afterWrite D reached ok).asked = w.asked ∧
      (w.afterWrite D reached ok).typed = w.typed := by
  obtain ⟨pc, notifyOk, callbacks, asleep, wifiOk, now, noneUntil, typed, asked⟩ := w
  cases pc with
  | subscribe char => cases reached <;> cases ok <;> exact ⟨rfl, rfl⟩
  | auth | command line => cases ok <;> exact ⟨rfl, rfl⟩
  | setwifi payload => cases ok <;> cases wifiOk <;> exact ⟨rfl, rfl⟩
  | _ => exact ⟨rfl, rfl⟩

/-- A write is made, and `w'` is what the session goes on with. -/
theorem BleSession.InTurn.calls (h : w.InTurn C) (hwrite : w.pc.writes C = some write)
    (hasked : w'.asked = w.asked ++ [⟨write, reached⟩]) (htyped : w'.typed = w.typed)
    (hpc : w'.pc = .raised ∨ w'.pc.owed C = if write.carries then [] else [.rx C.authLine]) :
    w'.InTurn C := by
  obtain ⟨rest, hsum, -, howed⟩ := h
  have hne : w.pc ≠ .raised := by
    intro heq
    rw [heq] at hwrite
    cases hwrite
  have hrest := (howed hne).trans (BlePc.owed_eq hwrite)
  have htried : w'.tried = w.tried ++ [write].filter BleWrite.carries := by
    simp only [tried, hasked, List.map_append, List.filter_append, List.map_cons, List.map_nil]
  have hplanned : w'.planned C = w.planned C := by simp only [planned, htyped]
  cases hcarries : write.carries with
  | true =>
    simp only [hcarries, if_true] at hrest hpc
    refine ⟨[], ?_, Nat.zero_le _, fun hne => (hpc.resolve_left hne).symm⟩
    rw [htried, hplanned, List.filter_cons_of_pos hcarries, List.filter_nil, List.append_nil,
      ← hrest]
    exact hsum
  | false =>
    simp only [hcarries, Bool.false_eq_true, if_false] at hrest hpc
    refine ⟨rest, ?_, hrest ▸ le_refl 1, fun hne => hrest.trans (hpc.resolve_left hne).symm⟩
    rw [htried, hplanned, List.filter_cons_of_neg (by simp [hcarries]), List.filter_nil,
      List.append_nil]
    exact hsum

/-- The session is at no write. -/
theorem BleSession.afterWrite_of_none (h : w.pc.writes C = none) (ok : Bool) :
    w.afterWrite D reached ok = w := by
  obtain ⟨pc, notifyOk, callbacks, asleep, wifiOk, now, noneUntil, typed, asked⟩ := w
  cases pc <;> first | rfl | cases h

theorem BleSession.InTurn.wrote (h : w.InTurn C) (reached ok : Bool) :
    (w.wrote C D reached ok).InTurn C := by
  unfold BleSession.wrote BleSession.calls
  split
  · next hwrite => rwa [afterWrite_of_none hwrite]
  · next write hwrite =>
    let w₁ : BleSession := { w with asked := w.asked ++ [⟨write, reached⟩] }
    have hwrite₁ : w₁.pc.writes C = some write := hwrite
    obtain ⟨hasked, htyped⟩ := w₁.history_afterWrite D reached ok
    exact h.calls hwrite hasked htyped (.inr (owed_afterWrite hwrite₁ D reached ok))

/-- The loop ends. -/
theorem BleSession.InTurn.leaves (h : w.InTurn C) (verdict : Bool) (howed : w.pc.owed C = [])
    (hne : w.pc ≠ .raised) : (w.leaves verdict).InTurn C := by
  refine h.moves rfl rfl (.inr ?_) (fun heq => absurd heq hne)
  rw [howed, BleSession.leaves]
  split <;> rfl

/-- A line is typed at the prompt. -/
theorem BleSession.InTurn.typed (h : w.InTurn C) (hprompt : w.pc = .prompt) (text : List Char)
    (file : Bool) : ({ w with typed := w.typed ++ [text] }.line D text file).InTurn C := by
  obtain ⟨rest, hsum, -, howed⟩ := h
  have hrest : rest = [] := by
    rw [howed (by rw [hprompt]; exact BlePc.noConfusion), hprompt]
    rfl
  have hplanned : w.tried ++ (bleLine text).write.toList =
      BleSession.planned C { w with typed := w.typed ++ [text] } := by
    rw [hrest, List.append_nil] at hsum
    rw [hsum, planned, planned, List.filterMap_append, List.cons_append, List.filterMap_cons,
      List.filterMap_nil]
    cases (bleLine text).write <;> rfl
  -- the session goes on with the write that the line calls for
  have hgoes : ∀ w' : BleSession, w'.asked = w.asked → w'.typed = w.typed ++ [text] →
      w'.pc.owed C = (bleLine text).write.toList → w'.InTurn C := by
    intro w' hasked htyped howed'
    refine ⟨(bleLine text).write.toList, ?_, Option.length_toList_le, fun _ => howed'.symm⟩
    simpa only [tried, planned, hasked, htyped] using hplanned
  have hleaves : (BleSession.leaves false { w with typed := w.typed ++ [text] }).pc.owed C =
      [] := by
    unfold BleSession.leaves
    split <;> rfl
  unfold BleSession.line
  split
  · next hline => exact hgoes _ rfl rfl (by rw [hline, hprompt]; rfl)
  · next hline => exact hgoes _ rfl rfl (by rw [hline, hprompt]; rfl)
  · next hline => exact hgoes _ rfl rfl (by rw [hline]; exact hleaves)
  · next hline =>
    split
    · exact hgoes _ rfl rfl (by rw [hline]; rfl)
    · exact hgoes _ rfl rfl (by rw [hline, hprompt]; rfl)
  · next hline => exact hgoes _ rfl rfl (by rw [hline]; rfl)
  · next hline =>
    split
    · exact hgoes _ rfl rfl (by rw [hline]; rfl)
    · exact hgoes _ rfl rfl (by rw [hline, hprompt]; rfl)
  · next hline => exact hgoes _ rfl rfl (by rw [hline]; rfl)

/-- **A step** of the session. -/
theorem BleSession.InTurn.step (h : w.InTurn C) (ev : BleEv) : (w.step C D ev).InTurn C := by
  cases ev with
  | wrote reached ok => exact h.wrote reached ok
  | read data =>
    simp only [BleSession.step, BleSession.read, BleSession.readTx]
    split
    · next hpc _ => exact h.moves rfl rfl (.inr (by rw [hpc]; rfl)) (by simp [hpc])
    · next hpc _ => exact h.moves rfl rfl (.inr (by rw [hpc]; rfl)) (by simp [hpc])
    · next hpc _ =>
      refine h.moves rfl rfl (.inr ?_) (by simp [hpc])
      rw [hpc]
      dsimp only
      split <;> rfl
    · next hpc _ =>
      refine h.moves rfl rfl (.inr ?_) (by simp [hpc])
      rw [hpc]
      dsimp only
      split <;> rfl
    · next hpc => exact h.moves rfl rfl (.inr (by rw [hpc]; rfl)) (by simp [hpc])
    · exact h
  | goesOn =>
    simp only [BleSession.step]
    split
    · next hpc => exact h.moves rfl rfl (.inr (by rw [hpc]; rfl)) (by simp [hpc])
    · next hpc => exact h.moves rfl rfl (.inr (by rw [hpc]; rfl)) (by simp [hpc])
    · next hpc => exact h.moves rfl rfl (.inr (by rw [hpc]; rfl)) (by simp [hpc])
    · exact h
  | typed text file =>
    simp only [BleSession.step]
    split
    · next hprompt => exact h.typed hprompt text file
    · exact h
  | leave =>
    simp only [BleSession.step]
    split
    · next hprompt => exact h.leaves false (by rw [hprompt]; rfl) (by simp [hprompt])
    · exact h
  | notified char data =>
    simp only [BleSession.step, BleSession.notified]
    split
    · split
      · exact h.moves rfl rfl (.inr rfl) id
      · exact h
    · exact h
  | woke =>
    simp only [BleSession.step]
    split
    · exact h.moves rfl rfl (.inr rfl) id
    · exact h
  | wifiUp =>
    simp only [BleSession.step]
    split
    · next hwait => exact h.leaves true (by rw [hwait.1]; rfl) (by simp [hwait.1])
    · exact h
  | timeout =>
    simp only [BleSession.step]
    split
    · next hwait => exact h.moves rfl rfl (.inr (by rw [hwait]; rfl)) (by simp [hwait])
    · exact h
  | tick ms => exact h.moves rfl rfl (.inr rfl) id
  | raises reached =>
    simp only [BleSession.step, BleSession.calls]
    split
    · split
      · exact h.moves rfl rfl (.inl rfl) fun _ => rfl
      · next hwrite => exact h.calls hwrite rfl rfl (.inl rfl)
    · exact h

/-- A step makes at most the write of its call. -/
theorem BleSession.asked_step (w : BleSession) (ev : BleEv) :
    (w.step C D ev).asked = w.asked ∨
      ∃ write reached, w.pc.writes C = some write ∧
        (w.step C D ev).asked = w.asked ++ [⟨write, reached⟩] := by
  cases ev with
  | wrote reached ok =>
    simp only [BleSession.step, BleSession.wrote, BleSession.calls]
    split
    · exact .inl (history_afterWrite _ _ _ _).1
    · next write hwrite => exact .inr ⟨write, reached, hwrite, (history_afterWrite _ _ _ _).1⟩
  | raises reached =>
    simp only [BleSession.step, BleSession.calls]
    split
    · split
      · exact .inl rfl
      · next write hwrite => exact .inr ⟨write, reached, hwrite, rfl⟩
    · exact .inl rfl
  | typed text file =>
    refine .inl ?_
    simp only [BleSession.step, BleSession.line]
    split
    · split <;> first | rfl | (split <;> rfl)
    · rfl
  | read data =>
    refine .inl ?_
    simp only [BleSession.step, BleSession.read, BleSession.readTx]
    split <;> rfl
  | goesOn =>
    refine .inl ?_
    simp only [BleSession.step]
    split <;> rfl
  | notified char data =>
    refine .inl ?_
    simp only [BleSession.step, BleSession.notified]
    split
    · split <;> rfl
    · rfl
  | leave | woke | wifiUp | timeout =>
    refine .inl ?_
    simp only [BleSession.step]
    split <;> rfl
  | tick ms => exact .inl rfl

/-! ## A write ends its line -/

/-- The last byte, if there is one, is a line end. -/
def EndsLine (bytes : Bytes) : Prop := ∀ c ∈ bytes.getLast?, c = 10

theorem endsLine_concat (bytes : Bytes) : EndsLine (bytes ++ [10]) := by
  intro c hc
  rw [List.getLast?_concat] at hc
  exact (Option.some.inj hc).symm

/-- The device cuts the credentials. -/
theorem length_wifiCreds {data ssid pwd : Bytes} (h : wifiCreds data = some (ssid, pwd)) :
    ssid.length ≤ 32 ∧ pwd.length ≤ 64 := by
  unfold wifiCreds at h
  dsimp only at h
  split at h
  · split at h
    · cases h
    · cases h
      exact ⟨List.length_take_le _ _, List.length_take_le _ _⟩
  · simp only [Option.bind_eq_bind, Option.bind_eq_some_iff] at h
    obtain ⟨⟨cmd, rest⟩, -, ⟨u, rest'⟩, hssid, ⟨v, rest''⟩, hpwd, hpair⟩ := h
    split at hpair
    · cases hpair
      obtain ⟨_, -, -, -, hssid, -⟩ := scanWord_eq_some_iff.mp hssid
      obtain ⟨_, -, -, -, hpwd, -⟩ := scanWord_eq_some_iff.mp hpwd
      exact ⟨hssid, hpwd⟩
    · cases hpair

/-- So there is always room for the line end. -/
theorem endsLine_gattOnWifiCredWrite {data bytes : Bytes}
    (h : gattOnWifiCredWrite data = some bytes) : EndsLine bytes := by
  obtain ⟨⟨ssid, pwd⟩, hcreds, rfl⟩ := Option.map_eq_some_iff.mp h
  obtain ⟨hssid, hpwd⟩ := length_wifiCreds hcreds
  have hlen : (lit "setwifi " ++ ssid ++ lit " " ++ pwd).length < 119 := by
    have h₁ : (lit "setwifi ").length = 8 := rfl
    have h₂ : (lit " ").length = 1 := rfl
    simp only [List.length_append]
    omega
  dsimp only
  rw [List.take_of_length_le hlen.le, if_pos hlen]
  exact endsLine_concat _

/-- What the session writes ends its line. -/
theorem BlePc.endsLine {pc : BlePc} (h : pc.writes C = some write) : EndsLine write.rxBytes := by
  cases pc with
  | subscribe char =>
    cases h
    exact fun c hc => by cases hc
  | auth | command line =>
    cases h
    exact endsLine_concat _
  | setwifi payload =>
    cases h
    cases hline : gattOnWifiCredWrite payload with
    | none =>
      rw [BleWrite.rxBytes, hline]
      exact fun c hc => by cases hc
    | some bytes =>
      rw [BleWrite.rxBytes, hline]
      exact endsLine_gattOnWifiCredWrite hline
  | _ => cases h

end

/-! ## The device -/

/-- The line is an AUTH that matches the token in force. -/
def RanLine.Accepted (r : RanLine) : Prop :=
  AuthMatches (cmdDispatchLine r.line r.authed) (tokenInForce r.cmd r.state)

/-- Behind the last line end of a write the buffer is empty. -/
theorem line_bleCmdByte (x : CmdAnswers) {b : BleCmd} (s : CmdState) (hrx : EndsLine b.rx)
    (hline : b.rx = [] → b.line = []) :
    EndsLine (bleCmdByte x b s).1.rx ∧
      ((bleCmdByte x b s).1.rx = [] → (bleCmdByte x b s).1.line = []) := by
  obtain ⟨authed, line, rx⟩ := b
  cases rx with
  | nil => exact ⟨hrx, hline⟩
  | cons c rest =>
    constructor
    · rw [rx_bleCmdByte]
      cases rest with
      | nil => exact fun c hc => by cases hc
      | cons c' rest => rwa [EndsLine, List.getLast?_cons_cons] at hrx
    · intro hrest
      rw [rx_bleCmdByte] at hrest
      obtain rfl : rest = [] := hrest
      obtain rfl : c = 10 := hrx c rfl
      unfold bleCmdByte
      dsimp only
      rw [if_neg (by simp)]
      split
      · next hempty => exact hempty
      · rfl

/-- What an iteration does to the flag. -/
theorem authed_bleCmdByte (x : CmdAnswers) (b : BleCmd) (s : CmdState) :
    (bleCmdByte x b s).1.authed =
      match b.dispatches with
      | none => b.authed
      | some line => (cmdLine x .ble line b.authed s).authed := by
  cases hd : b.dispatches with
  | none => exact (bleCmdByte_quiet x s hd).1
  | some line => exact (bleCmdByte_dispatch x s hd).1

/-! ## The link -/

section
variable {C : HostConfig} {D : BleChars} {w : BleHostLink}

/-- The lines run so far and those of the running call are those of the writes taken, the buffer is
empty between two calls, and an accepted AUTH has set the flag. -/
structure BleHostLink.Inv (C : HostConfig) (w : BleHostLink) : Prop where
  inTurn : w.host.InTurn C
  ends : ∀ write ∈ w.host.arrived, EndsLine write.rxBytes
  taken : w.taken ≤ w.host.arrived.length
  rx : EndsLine w.cli.rx
  line : w.cli.rx = [] → w.cli.line = []
  lines : w.ran.map RanLine.line ++ bleLines w.cli.line w.cli.rx =
    (w.host.arrived.take w.taken).flatMap BleWrite.lines
  flag : ∀ r ∈ w.ran, r.Accepted → w.cli.authed = true
  order : w.ran.Pairwise fun r r' => r.Accepted → r'.authed = true

theorem BleHostLink.inv_start (now : Nat) : (start now).Inv C where
  inTurn := ⟨[.rx C.authLine], rfl, le_refl 1, fun _ => rfl⟩
  ends := List.forall_mem_nil _
  taken := Nat.le_refl 0
  rx := fun c hc => by cases hc
  line := fun _ => rfl
  lines := rfl
  flag := List.forall_mem_nil _
  order := .nil

/-- The host goes on. -/
theorem BleHostLink.Inv.host (h : w.Inv C) (ev : BleEv) :
    Inv C { w with host := w.host.step C D ev } := by
  have hgrows : ∃ new, (w.host.step C D ev).arrived = w.host.arrived ++ new ∧
      ∀ write ∈ new, EndsLine write.rxBytes := by
    rcases w.host.asked_step ev with hasked | ⟨write, reached, hwrite, hasked⟩
    · refine ⟨[], ?_, List.forall_mem_nil _⟩
      rw [BleSession.arrived, hasked, List.append_nil]
      rfl
    · refine ⟨([⟨write, reached⟩].filter BleCall.reached).map BleCall.write, ?_, ?_⟩
      · rw [BleSession.arrived, hasked, List.filter_append, List.map_append]
        rfl
      · cases reached with
        | false => exact List.forall_mem_nil _
        | true => exact List.forall_mem_singleton.mpr (BlePc.endsLine hwrite)
  obtain ⟨new, harrived, hnew⟩ := hgrows
  exact {
    inTurn := h.inTurn.step ev
    ends := by
      rw [harrived]
      exact List.forall_mem_append.mpr ⟨h.ends, hnew⟩
    taken := by
      rw [harrived, List.length_append]
      exact Nat.le_add_right_of_le h.taken
    rx := h.rx
    line := h.line
    lines := by
      rw [harrived, List.take_append_of_le_length h.taken]
      exact h.lines
    flag := h.flag
    order := h.order }

/-- The device takes a write. -/
theorem BleHostLink.Inv.take (h : w.Inv C) (hrx : w.cli.rx = []) : w.take.Inv C := by
  unfold BleHostLink.take
  split
  · exact h
  · next write hwrite =>
    obtain ⟨hlt, rfl⟩ := List.getElem?_eq_some_iff.mp hwrite
    have hline := h.line hrx
    have hran : w.ran.map RanLine.line = (w.host.arrived.take w.taken).flatMap BleWrite.lines := by
      rw [← h.lines, hrx, bleLines, List.append_nil]
    exact {
      inTurn := h.inTurn
      ends := h.ends
      taken := hlt
      rx := h.ends _ (List.getElem_mem hlt)
      line := fun _ => hline
      lines := by
        rw [List.take_add_one, List.getElem?_eq_getElem hlt, List.flatMap_append, hran]
        simp [bleCmdOnRx, hline, BleWrite.lines]
      flag := h.flag
      order := h.order }

/-- An iteration of `ble_cmd_on_rx`. -/
theorem BleHostLink.Inv.byte (h : w.Inv C) (x : CmdAnswers) (s : CmdState) :
    (w.byte x s).Inv C := by
  obtain ⟨hrx, hline⟩ := line_bleCmdByte x s h.rx h.line
  have hauthed := authed_bleCmdByte x w.cli s
  have hbyte : w.cli.dispatches.toList ++
      bleLines (bleCmdByte x w.cli s).1.line (bleCmdByte x w.cli s).1.rx =
      bleLines w.cli.line w.cli.rx := by
    by_cases hrx : w.cli.rx = []
    · simp [BleCmd.dispatches, bleCmdByte, hrx]
    · simpa using (bleLines_byte x s hrx []).symm
  have hlines : (w.byte x s).ran.map RanLine.line ++
      bleLines (bleCmdByte x w.cli s).1.line (bleCmdByte x w.cli s).1.rx =
      (w.host.arrived.take w.taken).flatMap BleWrite.lines := by
    rw [← h.lines, ← hbyte]
    simp [BleHostLink.byte, Function.comp_def]
  refine ⟨h.inTurn, h.ends, h.taken, hrx, hline, hlines, ?_, ?_⟩
  · cases hd : w.cli.dispatches with
    | none =>
      rw [hd] at hauthed
      simp only [BleHostLink.byte, hd, Option.toList_none, List.map_nil, List.append_nil, hauthed]
      exact h.flag
    | some line =>
      rw [hd] at hauthed
      simp only [BleHostLink.byte, hd, Option.toList_some, List.map_cons, List.map_nil, hauthed]
      refine List.forall_mem_append.mpr ⟨fun r hr hacc => ?_, List.forall_mem_singleton.mpr ?_⟩
      · -- no line takes the flag away
        rw [h.flag r hr hacc]
        exact authed_cmdLine _ _ _ _
      · exact cmdLine_authed_of_matches .ble
  · cases hd : w.cli.dispatches with
    | none =>
      simp only [BleHostLink.byte, hd, Option.toList_none, List.map_nil, List.append_nil]
      exact h.order
    | some line =>
      simp only [BleHostLink.byte, hd, Option.toList_some, List.map_cons, List.map_nil]
      refine List.pairwise_append.mpr ⟨h.order, List.pairwise_singleton _ _, fun r hr => ?_⟩
      exact List.forall_mem_singleton.mpr (h.flag r hr)

theorem BleHostLink.Inv.step (h : w.Inv C) (ev : BleHostLinkEv) : (w.step C D ev).Inv C := by
  cases ev with
  | host ev => exact h.host ev
  | take =>
    simp only [BleHostLink.step]
    split
    · next hrx => exact h.take hrx
    · exact h
  | byte x s => exact h.byte x s

/-- What has reached the device, but for the subscriptions, is in the order of what was tried. -/
theorem BleSession.arrived_sublist (w : BleSession) :
    (w.arrived.filter BleWrite.carries).Sublist w.tried :=
  (List.filter_sublist.map BleCall.write).filter _

/-- **From the BLE prompt to the handlers.** In every interleaving of the calls of `ble_session`,
with every outcome, and the iterations of `ble_cmd_on_rx`: the session writes AUTH and then, in the
order typed, the write that each line calls for, none of them twice, and at the prompt all of them
have been tried. The lines that the device runs are those of the writes that have reached it, write
by write, whatever was lost in between; where it has nothing left to do it has run all of them.
Behind an AUTH that it accepts, every line finds the flag set. -/
theorem ble_session_runs_in_order (C : HostConfig) (D : BleChars) (now : Nat)
    (evs : List BleHostLinkEv) :
    let w := Run.exec (BleHostLink.step C D) (.start now) evs
    (∃ rest, w.host.tried ++ rest = w.host.planned C ∧ rest.length ≤ 1 ∧
        (w.host.pc = .prompt → rest = [])) ∧
      (w.host.arrived.filter BleWrite.carries).Sublist w.host.tried ∧
      (∃ rest, w.ran.map RanLine.line ++ rest = w.host.arrived.flatMap BleWrite.lines ∧
        (w.taken = w.host.arrived.length → w.cli.rx = [] → rest = [])) ∧
      w.ran.Pairwise fun r r' => r.Accepted → r'.authed = true := by
  intro w
  have hinv : w.Inv C := Run.exec_inv (BleHostLink.inv_start now) (fun _ ev h => h.step ev) evs
  refine ⟨?_, w.host.arrived_sublist, ?_, hinv.order⟩
  · obtain ⟨rest, hsum, hlen, howed⟩ := hinv.inTurn
    refine ⟨rest, hsum, hlen, fun hpc => ?_⟩
    rw [howed (by rw [hpc]; exact BlePc.noConfusion), hpc]
    rfl
  · refine ⟨bleLines w.cli.line w.cli.rx ++ (w.host.arrived.drop w.taken).flatMap BleWrite.lines,
      ?_, fun htaken hrx => ?_⟩
    · rw [← List.append_assoc, hinv.lines, ← List.flatMap_append, List.take_append_drop]
    · rw [hrx, bleLines, htaken, List.drop_length]
      rfl

end

end RemoteControl
