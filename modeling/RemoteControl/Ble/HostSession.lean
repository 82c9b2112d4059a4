import RemoteControl.Ble.GattServer
import RemoteControl.Net.HostSession

/-!
# The BLE session of the host (`app/ble_client.py`, `app/utils.py`)

`ble_session` is a coroutine: while it waits for a call of the stack, the notifications are handled,
and while it waits for the user, in `input`, they are not. A step of the model is the return of one
call, a notification, or time that passes. `asked` lists the writes that the session has asked for,
and which of them the device got; the code has no such list. What `ble_ota_upload` writes is in
`RemoteControl.Ble.Upload`.
-/

namespace RemoteControl

open CString

/-! ## Texts -/

/-- `str.split()`. -/
def pySplit (text : List Char) : List (List Char) := (text.splitOnP pyIsSpace).filter (· ≠ [])

/-- `sub in text`. -/
def pyIn (sub : List Char) : List Char → Bool
  | [] => sub.isEmpty
  | c :: text => sub.isPrefixOf (c :: text) || pyIn sub text

/-- `is_wifi_ok`. -/
def isWifiOk (msg : List Char) : Bool :=
  let m := pyLower (pyStrip msg)
  if m = "none".toList then false
  else
    let m := [' '].intercalate (pySplit m)
    "wifi: got ip".toList.isPrefixOf m || pyIn " ip=".toList m || pyIn "sta_got_ip".toList m ||
      pyIn "wifi_err=none".toList m

/-- `line.split(maxsplit=2)` of a line without blanks around it: the second and the third part. -/
def pySplitPair (line : List Char) : Option (List Char × List Char) :=
  let rest := (line.dropWhile fun c => !pyIsSpace c).dropWhile pyIsSpace
  let word := rest.takeWhile fun c => !pyIsSpace c
  let last := (rest.dropWhile fun c => !pyIsSpace c).dropWhile pyIsSpace
  if last = [] then none else some (word, last)

/-! ## The typed lines -/

/-- What the session makes of a typed line. -/
inductive BleLine where
  | empty
  | quit
  | ota
  | setwifi (ssid pwd : List Char)
  | usage
  | dht
  | command (line : List Char)
  deriving DecidableEq

/-- The branch that a typed line takes. -/
def bleLine (text : List Char) : BleLine :=
  let line := pyStrip text
  let low := pyLower line
  if line = [] then .empty
  else if low = "/q".toList ∨ low = "/quit".toList ∨ low = "exit".toList then .quit
  else if "/ota ".toList.isPrefixOf low || "ota ".toList.isPrefixOf low then .ota
  else if "/setwifi ".toList.isPrefixOf low || "setwifi ".toList.isPrefixOf low then
    match pySplitPair line with
    | some (ssid, pwd) => .setwifi ssid pwd
    | none => .usage
  else if low = "dht".toList ∨ low = "dht?".toList ∨ low = "/dht".toList then .dht
  else .command line

/-! ## The characteristics of the device -/

/-- The prefixes of `config.py`: RX, TX, WIFI, ERRSRC, ALERT, OTA CTRL, OTA DATA and DHT. -/
def uuidPrefixes : List (List Char) :=
  ["efbe0100".toList, "efbe0200".toList, "efbe0300".toList, "efbe0400".toList, "efbe0500".toList,
    "efbe0600".toList, "efbe0700".toList, "efbe0800".toList]

/-- A characteristic goes to the first prefix of its kind that has none yet. -/
def resolveChar (prefixes : List (List Char)) (outs : List (Option (List Char)))
    (uuid : List Char) : List (Option (List Char)) :=
  if uuid = [] then outs
  else
    List.zipWith (fun pref out =>
      if out.isNone && pref.isPrefixOf (pyLower uuid) then some uuid else out) prefixes outs

/-- The services, until all are found. -/
def resolveServices (prefixes : List (List Char)) :
    List (Option (List Char)) → List (List (List Char)) → List (Option (List Char))
  | outs, [] => outs
  | outs, service :: services =>
    let outs := service.foldl (resolveChar prefixes) outs
    if outs.all Option.isSome then outs else resolveServices prefixes outs services

/-- `resolve_by_prefix`. -/
def resolveByPrefix (services : List (List (List Char))) (prefixes : List (List Char)) :
    List (Option (List Char)) :=
  resolveServices prefixes (prefixes.map fun _ => none) services

/-- The characteristic has the prefix. -/
def matchesPrefix (pref uuid : List Char) : Bool :=
  uuid ≠ [] && pref.isPrefixOf (pyLower uuid)

section
variable (prefixes : List (List Char)) (f : List Char → Option (List Char))

theorem resolveChar_map (uuid : List Char) :
    resolveChar prefixes (prefixes.map f) uuid =
      prefixes.map fun pref => (f pref).or ([uuid].find? (matchesPrefix pref)) := by
  unfold resolveChar
  split
  · next hempty =>
    refine List.map_congr_left fun pref _ => ?_
    simp [matchesPrefix, hempty]
  · next hne =>
    rw [List.zipWith_map_right, List.zipWith_self]
    refine List.map_congr_left fun pref _ => ?_
    cases f pref with
    | none => cases hpref : pref.isPrefixOf (pyLower uuid) <;> simp [matchesPrefix, hne, hpref]
    | some found => simp

theorem foldl_resolveChar (service : List (List Char)) :
    service.foldl (resolveChar prefixes) (prefixes.map f) =
      prefixes.map fun pref => (f pref).or (service.find? (matchesPrefix pref)) := by
  induction service generalizing f with
  | nil => simp
  | cons uuid service ih =>
    rw [List.foldl_cons, resolveChar_map, ih]
    refine List.map_congr_left fun pref _ => ?_
    rw [Option.or_assoc, List.find?_cons, List.find?_cons]
    cases matchesPrefix pref uuid <;> simp

theorem resolveServices_map (services : List (List (List Char))) :
    resolveServices prefixes (prefixes.map f) services =
      prefixes.map fun pref => (f pref).or (services.flatten.find? (matchesPrefix pref)) := by
  induction services generalizing f with
  | nil => simp [resolveServices]
  | cons service services ih =>
    rw [resolveServices, foldl_resolveChar]
    split
    · next hall =>
      -- nothing is found behind the break that would be taken
      refine List.map_congr_left fun pref hpref => ?_
      have hfound := List.all_eq_true.mp hall _ (List.mem_map_of_mem hpref)
      rw [List.flatten_cons, List.find?_append, ← Option.or_assoc]
      exact (Option.or_of_isSome hfound).symm
    · rw [ih]
      refine List.map_congr_left fun pref _ => ?_
      rw [List.flatten_cons, List.find?_append, Option.or_assoc]

end

/-- **Each prefix gets the first characteristic that has it**, in the order of the services. -/
theorem resolveByPrefix_eq (services : List (List (List Char))) (prefixes : List (List Char)) :
    resolveByPrefix services prefixes =
      prefixes.map fun pref => services.flatten.find? (matchesPrefix pref) := by
  rw [resolveByPrefix, resolveServices_map prefixes fun _ => none]
  exact List.map_congr_left fun pref _ => Option.none_or

/-! ## The session -/

/-- A write, without those of an upload. A subscription is one to a descriptor. -/
inductive BleWrite where
  | rx (data : Bytes)
  | wifi (data : Bytes)
  | subscribe (char : IndicatedChar)
  deriving DecidableEq

/-- A write that was asked for, and whether the device got it. -/
structure BleCall where
  write : BleWrite
  reached : Bool
  deriving DecidableEq

/-- The call the session is at. `tries` counts the reads of TX that are still to be made. -/
inductive BlePc where
  | subscribe (char : IndicatedChar)
  | auth
  | authRead (tries : Nat)
  | authPause
  | prompt
  | setwifi (payload : Bytes)
  | waitWifi
  | readDht
  | command (line : Bytes)
  | commandRead (tries : Nat)
  | upload
  | unsubscribe (verdict : Bool)
  | done (verdict : Bool)
  | raised
  deriving DecidableEq

/-- The optional characteristics that the device has. -/
structure BleChars where
  alert : Bool
  ota : Bool
  dht : Bool

/-- What `ble_session` makes of the characteristics, if those that it needs are there. -/
def bleChars (services : List (List (List Char))) : Option BleChars :=
  match resolveByPrefix services uuidPrefixes with
  | [some _, some _, some _, some _, alert, otaCtrl, otaData, dht] =>
    some ⟨alert.isSome, otaCtrl.isSome && otaData.isSome, dht.isSome⟩
  | _ => none

/-- The session begins exactly where RX, TX, WIFI and ERRSRC are there. -/
theorem isSome_bleChars (services : List (List (List Char))) :
    (bleChars services).isSome = true ↔
      ∀ pref ∈ uuidPrefixes.take 4, ∃ uuid ∈ services.flatten, matchesPrefix pref uuid = true := by
  simp only [← List.find?_isSome]
  unfold bleChars
  rw [resolveByPrefix_eq, uuidPrefixes]
  simp only [List.map_cons, List.map_nil, List.take_succ_cons, List.take_zero, List.forall_mem_cons]
  generalize services.flatten.find? (matchesPrefix "efbe0100".toList) = rx
  generalize services.flatten.find? (matchesPrefix "efbe0200".toList) = tx
  generalize services.flatten.find? (matchesPrefix "efbe0300".toList) = wifi
  generalize services.flatten.find? (matchesPrefix "efbe0400".toList) = errsrc
  cases rx <;> cases tx <;> cases wifi <;> cases errsrc <;>
    simp only [Option.isSome_none, Option.isSome_some, Bool.false_eq_true, false_and, and_false,
      true_and, List.not_mem_nil, false_implies, implies_true]

/-- The session: `notify_ok`, the characteristics with a callback, the calls of `_notify` that are
asleep, `wifi_ok_event`, `time.monotonic()` in milliseconds and `expect_none_until`; the lines that
were typed; and the writes. -/
structure BleSession where
  pc : BlePc
  notifyOk : Bool
  callbacks : List IndicatedChar
  asleep : Nat
  wifiOk : Bool
  now : Nat
  noneUntil : Nat
  typed : List (List Char)
  asked : List BleCall

/-- What happens: a write returns or raises; a read does; a pause or an upload is over, or the
notifications are off; a line is typed, with whether the file is there that it names; the end of the
input; a notification; a callback wakes up; `wait_for` returns, or times out; time passes; or an
exception leaves the session. -/
inductive BleEv where
  | wrote (reached ok : Bool)
  | read (data : Option Bytes)
  | goesOn
  | typed (text : List Char) (file : Bool)
  | leave
  | notified (char : IndicatedChar) (data : Bytes)
  | woke
  | wifiUp
  | timeout
  | tick (ms : Nat)
  | raises (reached : Bool)

/-- The event loop runs. -/
def BlePc.awaits : BlePc → Bool
  | .prompt | .done _ | .raised => false
  | _ => true

section
variable (C : HostConfig) (D : BleChars)

/-- The write of a call. -/
def BlePc.writes : BlePc → Option BleWrite
  | .subscribe char => some (.subscribe char)
  | .auth => some (.rx C.authLine)
  | .setwifi payload => some (.wifi payload)
  | .command line => some (.rx (line ++ [10]))
  | _ => none

/-- The subscription behind that of a characteristic, or AUTH. -/
def IndicatedChar.afterSubscribe : IndicatedChar → BlePc
  | .tx => .subscribe .errsrc
  | .errsrc => if D.alert then .subscribe .alert else if D.dht then .subscribe .dht else .auth
  | .alert => if D.dht then .subscribe .dht else .auth
  | .dht => .auth

namespace BleSession

/-- Connected, with all characteristics found that are needed. -/
def start (now : Nat) : BleSession := ⟨.subscribe .tx, false, [], 0, false, now, 0, [], []⟩

/-- The end of the loop. -/
def leaves (verdict : Bool) (w : BleSession) : BleSession :=
  { w with pc := if w.notifyOk then .unsubscribe verdict else .done verdict }

/-- The write of the call is made. -/
def calls (reached : Bool) (w : BleSession) : BleSession :=
  match w.pc.writes C with
  | none => w
  | some write => { w with asked := w.asked ++ [⟨write, reached⟩] }

/-- What comes after it. -/
def afterWrite (reached ok : Bool) (w : BleSession) : BleSession :=
  match w.pc with
  | .subscribe char =>
    let w : BleSession := if reached then { w with callbacks := w.callbacks ++ [char] } else w
    if ok then { w with notifyOk := true, pc := char.afterSubscribe D }
    -- without notifications on TX there are none at all
    else { w with pc := if char = .tx then .auth else char.afterSubscribe D }
  | .auth =>
    if !ok then { w with pc := .done false }
    else { w with pc := if w.notifyOk then .authPause else .authRead 6 }
  | .setwifi _ =>
    if !ok then { w with pc := .prompt }
    else
      let w : BleSession := { w with noneUntil := w.now + 12000 }
      if w.wifiOk then w.leaves true else { w with pc := .waitWifi }
  | .command _ =>
    if !ok then w.leaves false
    else { w with pc := if w.notifyOk then .prompt else .commandRead 8 }
  | _ => w

/-- A write returns, or raises. -/
def wrote (reached ok : Bool) (w : BleSession) : BleSession :=
  (w.calls C reached).afterWrite D reached ok

/-- A read of TX has brought something: a message that tells of an IP address sets the event. -/
def readTx (data : Bytes) (w : BleSession) : BleSession :=
  { w with pc := .prompt, wifiOk := w.wifiOk || isWifiOk (pyText data) }

/-- A read returns, or raises. -/
def read (data : Option Bytes) (w : BleSession) : BleSession :=
  match w.pc, data.filter (· ≠ []) with
  | .authRead _, some data | .commandRead _, some data => w.readTx data
  | .authRead n, none => { w with pc := if n ≤ 1 then .prompt else .authRead (n - 1) }
  | .commandRead n, none => { w with pc := if n ≤ 1 then .prompt else .commandRead (n - 1) }
  | .readDht, _ => { w with pc := .prompt }
  | _, _ => w

/-- A line is typed. -/
def line (text : List Char) (file : Bool) (w : BleSession) : BleSession :=
  match bleLine text with
  | .empty | .usage => w
  | .quit => w.leaves false
  | .ota => if file && D.ota then { w with pc := .upload } else w
  | .setwifi ssid pwd => { w with pc := .setwifi (pyEncode (ssid ++ '\n' :: pwd)) }
  | .dht => if D.dht then { w with pc := .readDht } else w
  | .command line => { w with pc := .command (pyEncode line) }

/-- `_notify` takes a message for the news that Wi-Fi is up. -/
def takes (msg : List Char) (w : BleSession) : Bool :=
  isWifiOk msg || (pyLower msg = "none".toList && decide (w.now < w.noneUntil))

/-- A notification, to `_notify` or, for DHT, to `_notify_dht`. -/
def notified (char : IndicatedChar) (data : Bytes) (w : BleSession) : BleSession :=
  let msg := pyText data
  if char ∈ w.callbacks ∧ char ≠ .dht ∧ msg ≠ [] ∧ w.takes msg then
    { w with asleep := w.asleep + 1 }
  else w

/-- One step. -/
def step (w : BleSession) : BleEv → BleSession
  | .wrote reached ok => w.wrote C D reached ok
  | .read data => w.read data
  | .goesOn =>
    match w.pc with
    | .authPause => { w with pc := .prompt }
    | .upload => { w with pc := .done false }
    | .unsubscribe verdict => { w with pc := .done verdict }
    | _ => w
  | .typed text file =>
    if w.pc = .prompt then { w with typed := w.typed ++ [text] }.line D text file else w
  | .leave => if w.pc = .prompt then w.leaves false else w
  | .notified char data => if w.pc.awaits then w.notified char data else w
  | .woke =>
    if w.pc.awaits && decide (0 < w.asleep) then
      { w with asleep := w.asleep - 1, wifiOk := true }
    else w
  | .wifiUp => if w.pc = .waitWifi ∧ w.wifiOk then w.leaves true else w
  | .timeout => if w.pc = .waitWifi then { w with pc := .prompt } else w
  | .tick ms => { w with now := w.now + ms }
  | .raises reached => if w.pc.awaits then { w.calls C reached with pc := .raised } else w

end BleSession

end

end RemoteControl
