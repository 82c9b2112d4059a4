import RemoteControl.Ble.OtaAdapter
import RemoteControl.Cmd.Dispatch
import RemoteControl.Net.Wifi

/-!
# The command handlers (`cmd_auth.c`, `cmd_ota.c`, `cmd_wifi.c`)

The handlers that change something: the flag of their context, the token, the control plane, or,
over TCP, the flash. `cmdLine` is a whole call of `cmd_dispatch_line`. Where it reaches
`ota_perform`, which blocks in the task of its caller, it stops and says so (`ota`). The other
handlers read the state for a reply or post to the command bus, and change nothing of it.
-/

namespace RemoteControl

open CString

/-! ## The token -/

/-- `s_auth_token`, `s_auth_loaded`, and the string the NVS holds under `NVS_KEY_AUTH_TOKEN`. -/
structure AuthStore where
  token : Bytes
  loaded : Bool
  nvs : Option Bytes
  deriving DecidableEq

/-- What the NVS answers to the calls on the token. `kept` says that a string whose commit fails is
durable all the same. -/
structure AuthNvs where
  openRead : Bool
  getStr : Bool
  openWrite : Bool
  setStr : Bool
  commit : Bool
  kept : Bool

/-- Every call succeeds. -/
def AuthNvs.ok : AuthNvs := ⟨true, true, true, true, true, true⟩

/-- `APP_DEFAULT_AUTH_TOKEN`. -/
def appDefaultAuthToken : Bytes := lit "hunter2"

/-- The statics at boot. -/
def AuthStore.boot (nvs : Option Bytes) : AuthStore := ⟨appDefaultAuthToken, false, nvs⟩

/-- `auth_token_load`. A stored string that does not fit into 65 bytes is not read. -/
def authTokenLoad (n : AuthNvs) (s : AuthStore) : AuthStore :=
  if s.loaded then s
  else
    let stored := if n.openRead && n.getStr then s.nvs.filter (·.length < 65) else none
    { s with token := stored.getD s.token, loaded := true }

/-- `auth_token_save`, and whether it returns `ESP_OK`. -/
def authTokenSave (n : AuthNvs) (tok : Bytes) (s : AuthStore) : Bool × AuthStore :=
  if !n.openWrite || !n.setStr then (false, s)
  else if !n.commit then (false, { s with nvs := if n.kept then some tok else s.nvs })
  else (true, ⟨tok.take 64, true, some tok⟩)

/-- The argument of AUTH as `cmd_auth` compares it. -/
def authArg (args : Bytes) : Bytes := trimTrailing (args.take 65)

/-- `cmd_auth` without its effect on the coordinator: the flag, the reply and the token. -/
def cmdAuth (n : AuthNvs) (args : Bytes) (authed : Bool) (s : AuthStore) :
    Bool × Bytes × AuthStore :=
  let s := authTokenLoad n s
  if authArg args = s.token then (true, lit "OK\n", s) else (authed, lit "DENIED\n", s)

/-- `cmd_settoken`. -/
def cmdSettoken (n : AuthNvs) (args : Bytes) (authed : Bool) (s : AuthStore) : Bytes × AuthStore :=
  if !authed then (lit "DENIED\n", s)
  else if args = [] then (lit "usage: SETTOKEN <newtoken>\n", s)
  else
    let tok := trimTrailing (args.take 64)
    if tok = [] then (lit "ERR empty token\n", s)
    else if 65 ≤ tok.length then (lit "ERR token too long\n", s)
    else
      let (ok, s) := authTokenSave n tok s
      (if ok then lit "OK\n" else lit "ERR\n", s)

/-! ## OTA and Wi-Fi -/

/-- `cmd_xport_t` of a context that a transport has set up. -/
inductive CmdXport where
  | tcp
  | ble
  deriving DecidableEq, Repr

/-- `cmd_ota`: the size it calls `ota_perform` with, or its reply. -/
def cmdOta (xport : CmdXport) (args : Bytes) : Except Bytes Nat :=
  if args = [] then .error (lit "BADFMT\n")
  else
    match scanSizeCrc args with
    | none => .error (lit "BADFMT\n")
    | some (size, _) =>
      if size = 0 then .error (lit "BADFMT\n")
      else
        match xport with
        | .tcp => .ok size
        | .ble => .error (lit "OTA_UNSUPPORTED\n")

/-- What `cmd_ota` calls `ota_perform` with: a size that is not zero, read from two numbers. -/
theorem cmdOta_ok_iff {xport : CmdXport} {args : Bytes} {size : Nat} :
    cmdOta xport args = .ok size ↔
      xport = .tcp ∧ size ≠ 0 ∧ ∃ crc, scanSizeCrc args = some (size, crc) := by
  have hnil : scanSizeCrc [] = none := by decide
  unfold cmdOta
  by_cases hargs : args = []
  · rw [if_pos hargs, hargs, hnil]
    simp
  · rw [if_neg hargs]
    cases hscan : scanSizeCrc args with
    | none => simp
    | some sc =>
      obtain ⟨size', crc⟩ := sc
      by_cases hsize : size' = 0
      · simp [hsize]
        omega
      · cases xport <;> simp [hsize]
        rintro rfl
        exact hsize

/-- `cmd_setwifi`: its reply and the control plane. -/
def cmdSetwifi (a : Answers) (args : Bytes) (c : Control) : Bytes × Control :=
  let creds := do
    let (ssid, rest) ← scanWord 32 args
    let (pwd, _) ← scanWord 64 rest
    return (ssid, pwd)
  match creds with
  | none => (lit "BADFMT\n", c)
  | some (ssid, pwd) => (lit "WIFI_UPDATED\n", c.step ⟨.setwifi ssid pwd, a⟩)

/-! ## A line -/

/-- The statics the handlers change. -/
structure CmdState where
  auth : AuthStore
  control : Control

/-- The platform's answers to one handler. -/
structure CmdAnswers where
  nvs : AuthNvs
  ans : Answers

/-- What a line leaves: the flag of its context, the statics, and the size when it has reached
`ota_perform`. -/
structure CmdOutcome where
  authed : Bool
  state : CmdState
  ota : Option Nat

/-- The call of a handler. -/
def cmdRun (x : CmdAnswers) (xport : CmdXport) (fn : CmdFn) (args : Bytes) (authed : Bool)
    (s : CmdState) : CmdOutcome :=
  match fn with
  | .auth =>
    let (authed', _, auth) := cmdAuth x.nvs args authed s.auth
    let control :=
      if authArg args = auth.token ∧ xport = .tcp then s.control.step ⟨.tcpAuth, x.ans⟩
      else s.control
    ⟨authed', ⟨auth, control⟩, none⟩
  | .settoken => ⟨authed, { s with auth := (cmdSettoken x.nvs args authed s.auth).2 }, none⟩
  | .ota => ⟨authed, s, (cmdOta xport args).toOption⟩
  | .setwifi => ⟨authed, { s with control := (cmdSetwifi x.ans args s.control).2 }, none⟩
  | .ping | .diag | .ledOn | .ledOff | .version | .errsrc | .dht | .dhtstream | .dhtstate =>
    ⟨authed, s, none⟩

/-- `cmd_dispatch_line` with the handler it calls. -/
def cmdLine (x : CmdAnswers) (xport : CmdXport) (line : Bytes) (authed : Bool) (s : CmdState) :
    CmdOutcome :=
  match cmdDispatchLine line authed with
  | .ignored | .replied _ => ⟨authed, s, none⟩
  | .called entry args => cmdRun x xport entry.fn args authed s

/-- The token an AUTH is compared with at this moment. -/
def tokenInForce (x : CmdAnswers) (s : CmdState) : Bytes := (authTokenLoad x.nvs s.auth).token

/-- A call of `cmd_auth` that matches the token. -/
def AuthMatches (d : Dispatched) (token : Bytes) : Prop :=
  ∃ entry args, d = .called entry args ∧ entry.fn = .auth ∧ authArg args = token

instance (d : Dispatched) (token : Bytes) : Decidable (AuthMatches d token) :=
  match d with
  | .ignored | .replied _ => isFalse nofun
  | .called entry args =>
    decidable_of_iff (entry.fn = .auth ∧ authArg args = token)
      ⟨fun h => ⟨entry, args, rfl, h⟩, fun ⟨_, _, heq, h⟩ => by cases heq; exact h⟩

/-- A call of `cmd_ota`. -/
def CallsOta (d : Dispatched) : Prop := ∃ entry args, d = .called entry args ∧ entry.fn = .ota

/-- **Only a matching AUTH sets the flag.** -/
theorem cmdLine_authed (x : CmdAnswers) (xport : CmdXport) (line : Bytes) (authed : Bool)
    (s : CmdState) (h : (cmdLine x xport line authed s).authed = true) :
    authed = true ∨ AuthMatches (cmdDispatchLine line authed) (tokenInForce x s) := by
  unfold cmdLine at h
  split at h
  · exact .inl h
  · exact .inl h
  · next entry args hcall =>
    cases hfn : entry.fn with
    | auth =>
      simp only [hfn, cmdRun, cmdAuth] at h
      by_cases hmatch : authArg args = (authTokenLoad x.nvs s.auth).token
      · exact .inr ⟨entry, args, hcall, hfn, hmatch⟩
      · rw [if_neg hmatch] at h
        exact .inl h
    | _ => exact .inl (by simpa only [hfn, cmdRun] using h)

/-- **Nothing clears it.** -/
theorem cmdLine_authed_stays (x : CmdAnswers) (xport : CmdXport) (line : Bytes) (s : CmdState) :
    (cmdLine x xport line true s).authed = true := by
  unfold cmdLine
  split
  · rfl
  · rfl
  · next entry args _ =>
    cases hfn : entry.fn with
    | auth =>
      simp only [cmdRun, cmdAuth]
      split <;> rfl
    | _ => rfl

/-- **What a line does to the control plane**: nothing, or it is an event of it, an AUTH or new
credentials. -/
theorem cmdLine_control (x : CmdAnswers) (xport : CmdXport) (line : Bytes) (authed : Bool)
    (s : CmdState) :
    (cmdLine x xport line authed s).state.control = s.control ∨
      ∃ i : ControlIn, (i.ev = .tcpAuth ∨ ∃ ssid pwd, i.ev = .setwifi ssid pwd) ∧
        (cmdLine x xport line authed s).state.control = s.control.step i := by
  unfold cmdLine
  split
  · exact .inl rfl
  · exact .inl rfl
  · next entry args _ =>
    cases hfn : entry.fn with
    | auth =>
      simp only [cmdRun]
      split
      · exact .inr ⟨_, .inl rfl, rfl⟩
      · exact .inl rfl
    | setwifi =>
      simp only [cmdRun, cmdSetwifi]
      split
      · exact .inl rfl
      · exact .inr ⟨_, .inr ⟨_, _, rfl⟩, rfl⟩
    | _ => exact .inl rfl

/-- The size and the CRC of a line that calls `cmd_ota` with two numbers. -/
def otaArgs (line : Bytes) : Option (Nat × Nat) :=
  match cmdDispatchLine line true with
  | .called entry args => if entry.fn = .ota then scanSizeCrc args else none
  | .ignored | .replied _ => none

/-- **What reaches `ota_perform`**: a line with two numbers, the first not zero, over TCP, with the
flag set; and it changes nothing else. -/
theorem cmdLine_ota (x : CmdAnswers) (xport : CmdXport) (line : Bytes) (authed : Bool)
    (s : CmdState) {size : Nat} (h : (cmdLine x xport line authed s).ota = some size) :
    cmdLine x xport line authed s = ⟨authed, s, some size⟩ ∧ xport = .tcp ∧ authed = true ∧
      size ≠ 0 ∧ (∃ crc, otaArgs line = some (size, crc)) ∧
      CallsOta (cmdDispatchLine line authed) := by
  unfold cmdLine at h ⊢
  split at h
  · cases h
  · cases h
  · next entry args hcall =>
    obtain ⟨hmem, hgate, hcall'⟩ := cmdDispatchLine_called hcall
    cases hfn : entry.fn with
    | ota =>
      simp only [hfn, cmdRun] at h ⊢
      have hok : cmdOta xport args = .ok size := by
        cases hota : cmdOta xport args with
        | error text => rw [hota] at h; cases h
        | ok n => rw [hota] at h; cases h; rfl
      obtain ⟨hx, hsize, crc, hscan⟩ := cmdOta_ok_iff.mp hok
      refine ⟨by rw [h], hx, hgate (needsAuth_of_ota hmem hfn), hsize, ⟨crc, ?_⟩,
        entry, args, hcall, hfn⟩
      simp only [otaArgs, hcall', hfn, if_true, hscan]
    | _ => simp [hfn, cmdRun] at h

/-- With the flag set, a line with a size that is not zero reaches `ota_perform` over TCP. -/
theorem cmdLine_ota_of_args (x : CmdAnswers) {line : Bytes} (s : CmdState) {size crc : Nat}
    (h : otaArgs line = some (size, crc)) (hsize : size ≠ 0) :
    cmdLine x .tcp line true s = ⟨true, s, some size⟩ := by
  unfold otaArgs at h
  split at h
  · next entry args hcall =>
    split at h
    · next hfn =>
      have hok : cmdOta .tcp args = .ok size := cmdOta_ok_iff.mpr ⟨rfl, hsize, crc, h⟩
      simp only [cmdLine, hcall, hfn, cmdRun, hok]
      rfl
    · cases h
  · cases h
  · cases h

end RemoteControl
