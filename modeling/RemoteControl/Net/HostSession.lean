import RemoteControl.Net.OtaLink

/-!
# The session of the host (`app/session.py`; of `tcp_client.py`, `connect_and_auth`, `ota_tcp`)

`tcp_session` keeps a socket to the device: it opens one, sends what is typed, pings when nothing
is, and when a call fails it looks for another socket, over TCP and then with the help of a BLE
session. A step of the model is the return of one call; what the network and the user do is the
event. `sent` lists the lines that have been given to a socket, and how much of each has gone out,
and `lines` the command lines that have been typed; the code has neither.
-/

namespace RemoteControl

open CString

/-! ## The lines -/

/-- `str.encode()`. -/
def pyEncode (text : List Char) : Bytes := text.flatMap String.utf8EncodeChar

/-- `str.lower()`. For the comparisons below it agrees with that of ASCII: no other character
becomes one of their letters alone. -/
def pyLower (text : List Char) : List Char := text.map Char.toLower

/-- What is sent for: the token; the probes of the session itself; the `n`-th command line; or an
image. -/
inductive SendKind where
  | auth
  | version
  | ping
  | typed (n : Nat)
  | ota
  deriving DecidableEq

/-- Bytes given to a socket: how many have gone out, and whether the call that gave them failed, in
sending or in waiting for the reply. -/
structure WireItem where
  sock : Nat
  kind : SendKind
  text : Bytes
  out : Nat
  failed : Bool
  deriving DecidableEq

/-- The settings of `config.py` that the session uses: `TOKEN` and `RECONNECT_TRIES`. -/
structure HostConfig where
  token : Bytes
  reconnectTries : Nat

/-- `AUTH {TOKEN}` with its line end. -/
def HostConfig.authLine (C : HostConfig) : Bytes := lit "AUTH " ++ C.token ++ [10]

/-! ## The session -/

/-- A typed line: its number and its bytes. -/
abbrev TypedLine := Nat × Bytes

/-- The call the session is at. `try_reconnect` is called for a ping, or for a line that is then
sent again. -/
inductive SessionPc where
  /-- The opening loop: `connect_and_auth`; `ble_session`; up to ten more of the first, and
  `version`. -/
  | connect
  | openBle
  | openRetry (tries : Nat)
  | openVersion
  /-- The main loop: waiting for a line, and the calls it makes. -/
  | prompt
  | ping
  | send (line : TypedLine)
  | resend (line : TypedLine)
  /-- `try_reconnect`: `connect_and_auth`, and `version` on its socket; `ble_session`, and
  `connect_and_auth` again. -/
  | reconnect (tries : Nat) (line : Option TypedLine)
  | reconnectVersion (sock : Nat) (line : Option TypedLine)
  | reconnectBle (line : Option TypedLine)
  | reconnectLast (line : Option TypedLine)
  /-- Behind a ping for which `try_reconnect` found nothing. -/
  | pingBle
  | pingLast
  /-- `ota_tcp`: the upload; `connect_and_auth`, and `version`. Behind it, if that found nothing. -/
  | ota (data : Bytes)
  | otaProbe
  | otaVersion (sock : Nat)
  | otaBle
  | otaLast
  | ended (raised : Bool)
  deriving DecidableEq

/-- The session: `s`, whether `ota_tcp` has closed it, the number of the next socket, the command
lines that have been typed, and what has been sent. -/
structure TcpSession where
  pc : SessionPc
  sock : Option Nat
  closed : Bool
  opened : Nat
  lines : List Bytes
  sent : List WireItem

/-- `connect_and_auth`: no connection; an error behind it, with `out` bytes of the line gone out; or
a socket. The reply to the line is not looked at. -/
inductive ConnectOutcome where
  | refused
  | broken (out : Nat)
  | up

/-- `send_line` and `send_ping`: an error, with `out` bytes gone out, or for `send_ping` a reply
that is none; or a return, with a reply or without. -/
inductive SendOutcome where
  | failed (out : Nat)
  | ok (replied : Bool)

/-- What happens: the call returns; nothing is typed, and a ping is due; a line is typed, with what
is in the file it names, if there is one; the deadline of `ota_tcp` is reached; or Ctrl-C, with
`out` bytes gone out. -/
inductive SessionEv where
  | connected (o : ConnectOutcome)
  | returned (o : SendOutcome)
  | ble (wifiUp : Bool)
  | pingDue
  | typed (text : List Char) (file : Option Bytes)
  | uploaded (out : Nat) (complete : Bool)
  | deadline
  | interrupt (out : Nat)

/-- The bytes of `ota_tcp`, if all of it goes out. -/
def uploadBytes (data : Bytes) : Bytes := otaHeader data ++ [10] ++ data ++ otaTrailer data

namespace SessionPc

/-- The socket of a call that sends, what for, and the bytes. `s` is the socket of the session. -/
def sends (s : Nat) : SessionPc → Option (Nat × SendKind × Bytes)
  | .openVersion => some (s, .version, lit "version" ++ [10])
  | .ping => some (s, .ping, lit "PING" ++ [10])
  | .send line | .resend line => some (s, .typed line.1, line.2 ++ [10])
  | .reconnectVersion k _ | .otaVersion k => some (k, .version, lit "version" ++ [10])
  | _ => none

/-- `try_reconnect` begins. -/
def tryReconnect (C : HostConfig) (line : Option TypedLine) : SessionPc :=
  if C.reconnectTries = 0 then .reconnectBle line else .reconnect C.reconnectTries line

/-- `try_reconnect` has found a socket. -/
def resume : Option TypedLine → SessionPc
  | none => .prompt
  | some line => .resend line

/-- It has found none: behind a ping there is a BLE session, and a line is dropped. -/
def giveUp : Option TypedLine → SessionPc
  | none => .pingBle
  | some _ => .prompt

/-- A call of `connect_and_auth`, with the places where it leads: with a socket `k`, and without. -/
def connects (k : Nat) : SessionPc → Option (SessionPc × SessionPc)
  | .connect => some (.prompt, .openBle)
  | .openRetry n => some (.openVersion, if n ≤ 1 then .connect else .openRetry (n - 1))
  | .reconnect n line =>
    some (.reconnectVersion k line, if n ≤ 1 then .reconnectBle line else .reconnect (n - 1) line)
  | .reconnectLast line => some (resume line, giveUp line)
  | .pingLast | .otaLast => some (.prompt, .prompt)
  | .otaProbe => some (.otaVersion k, .otaProbe)
  | _ => none

/-- Its result is the socket of the session at once. In `try_reconnect` and in `ota_tcp` a `version`
comes first. -/
def adopts : SessionPc → Bool
  | .reconnect _ _ | .otaProbe => false
  | _ => true

/-- A call of the opening loop, which assigns the result to `s` also where it is none. -/
def opening : SessionPc → Bool
  | .connect | .openRetry _ => true
  | _ => false

/-- A call of `ble_session`, with the places where it leads. `try_reconnect` scans first, and does
the same whatever it finds. -/
def talksBle : SessionPc → Option (SessionPc × SessionPc)
  | .openBle => some (.openRetry 10, .connect)
  | .reconnectBle line => some (.reconnectLast line, giveUp line)
  | .pingBle => some (.pingLast, .prompt)
  | .otaBle => some (.otaLast, .prompt)
  | _ => none

end SessionPc

section
variable (C : HostConfig)

/-- `socket.sendall`, which fails on a socket that is closed. -/
def TcpSession.log (sock : Nat) (kind : SendKind) (text : Bytes) (out : Nat) (failed : Bool)
    (w : TcpSession) : TcpSession :=
  { w with sent := w.sent ++ [⟨sock, kind, text, min out text.length, failed⟩] }

/-- The socket of the session is `k`. -/
def TcpSession.adopt (k : Nat) (w : TcpSession) : TcpSession :=
  { w with sock := some k, closed := false }

/-- `connect_and_auth` returns nothing. -/
def TcpSession.refused (down : SessionPc) (w : TcpSession) : TcpSession :=
  { w with pc := down, sock := if w.pc.opening then none else w.sock }

/-- `connect_and_auth` returns. -/
def TcpSession.connected (o : ConnectOutcome) (w : TcpSession) : TcpSession :=
  match w.pc.connects w.opened with
  | none => w
  | some (up, down) =>
    let opened := { w with opened := w.opened + 1 }
    match o with
    | .refused => w.refused down
    | .broken out => (opened.log w.opened .auth C.authLine out true).refused down
    | .up =>
      let w' := opened.log w.opened .auth C.authLine C.authLine.length false
      { (if w.pc.adopts then w'.adopt w.opened else w') with pc := up }

/-- `send_line` or `send_ping` has failed. -/
def TcpSession.failed (w : TcpSession) : TcpSession :=
  match w.pc with
  | .ping => { w with pc := .tryReconnect C none }
  | .send line => { w with pc := .tryReconnect C (some line) }
  | .otaVersion _ => { w with pc := .otaProbe }
  | .openVersion | .resend _ | .reconnectVersion _ _ => { w with pc := .ended true }
  | _ => w

/-- It has returned. -/
def TcpSession.replied (replied : Bool) (w : TcpSession) : TcpSession :=
  match w.pc with
  | .openVersion => { w with pc := .connect }
  | .ping | .send _ | .resend _ => { w with pc := .prompt }
  | .reconnectVersion k line => { w.adopt k with pc := .resume line }
  | .otaVersion k =>
    if replied then { w.adopt k with pc := .prompt } else { w with pc := .otaProbe }
  | _ => w

/-- The call of `send_line` or `send_ping` returns. -/
def TcpSession.returned (o : SendOutcome) (w : TcpSession) : TcpSession :=
  match w.pc.sends (w.sock.getD 0) with
  | none => w
  | some (k, kind, text) =>
    if w.closed && w.sock = some k then (w.log k kind text 0 true).failed C
    else
      match o with
      | .failed out => (w.log k kind text out true).failed C
      | .ok replied => (w.log k kind text text.length false).replied replied

/-- A line is typed: nothing; the end; an image to send; or a command line. -/
def TcpSession.typed (text : List Char) (file : Option Bytes) (w : TcpSession) : TcpSession :=
  let line := pyStrip text
  let low := pyLower line
  if line = [] then w
  else if low = "/q".toList ∨ low = "/quit".toList ∨ low = "exit".toList then
    { w with pc := .ended false }
  else if "/ota ".toList.isPrefixOf low || "ota ".toList.isPrefixOf low then
    match file with
    | none => w
    | some data => { w with pc := .ota data }
  else { w with pc := .send (w.lines.length, pyEncode line), lines := w.lines ++ [pyEncode line] }

/-- One step. -/
def TcpSession.step (w : TcpSession) : SessionEv → TcpSession
  | .connected o => w.connected C o
  | .returned o => w.returned C o
  | .ble wifiUp =>
    match w.pc.talksBle with
    | none => w
    | some (up, down) => { w with pc := if wifiUp then up else down }
  | .pingDue => if w.pc = .prompt then { w with pc := .ping } else w
  | .typed text file => if w.pc = .prompt then w.typed text file else w
  | .uploaded out complete =>
    match w.pc, w.sock with
    | .ota data, some k =>
      let text := uploadBytes data
      if w.closed then { w.log k .ota text 0 true with pc := .otaBle }
      else
        { w.log k .ota text (if complete then text.length else out) (!complete) with
          pc := if complete then .otaProbe else .otaBle
          closed := true }
    | _, _ => w
  | .deadline => if w.pc = .otaProbe then { w with pc := .otaBle } else w
  | .interrupt out =>
    let ends (w : TcpSession) : TcpSession := { w with pc := .ended false }
    match w.pc, w.pc.sends (w.sock.getD 0), w.pc.connects w.opened with
    | .ended _, _, _ => w
    | .ota data, _, _ =>
      -- while it sends the header; later, `ota_tcp` returns
      let header := otaHeader data ++ [10]
      ends (w.log (w.sock.getD 0) .ota header (if w.closed then 0 else out) true)
    | _, some (k, kind, text), _ =>
      ends (w.log k kind text (if w.closed && w.sock = some k then 0 else out) true)
    | _, _, some _ =>
      ends ({ w with opened := w.opened + 1 }.log w.opened .auth C.authLine out true)
    | _, none, none => ends w

/-- `tcp_session` is called. -/
def TcpSession.start : TcpSession := ⟨.connect, none, false, 0, [], []⟩

end

end RemoteControl
