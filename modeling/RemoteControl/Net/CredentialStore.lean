import RemoteControl.Ble.WifiWrite
import RemoteControl.Net.Credentials

/-!
# A `setwifi` command in the store (`wifi_api.c`, `cmd_wifi.c`)

`wifi_set_credentials` writes the two strings of a pair under two keys, commits, and configures the
driver when all of that went well; it returns nothing, and `cmd_setwifi` answers `WIFI_UPDATED` in
any case. `CredStore` is what the flash holds of it, each string with the command that put it there.
A string that was set but not committed may be kept or lost, one apart from the other. A command is
all or nothing exactly when no call on the NVS fails (`setwifi_atomic_iff`).
-/

namespace RemoteControl

open CString

/-! ## The calls -/

/-- What `wifi_set_credentials` calls, with the result where the call can fail. -/
inductive CredCall where
  | nvsOpen (ok : Bool)
  | setSsid (value : Bytes) (ok : Bool)
  | setPwd (value : Bytes) (ok : Bool)
  | commit (ok : Bool)
  | close
  | wifiDisconnect
  | wifiSetConfig (cfg : StaCfg)
  deriving DecidableEq

/-- The calls of `wifi_set_credentials`, in their order. -/
def wifiSetCredentialsCalls (a : Answers) (ssid pwd : Bytes) : List CredCall :=
  if !a.credOpen then [.nvsOpen false]
  else
    [.nvsOpen true, .setSsid ssid a.credSsid, .setPwd pwd a.credPwd, .commit a.credCommit,
        .close] ++
      if !(a.credSsid && a.credPwd && a.credCommit) then []
      else [.wifiDisconnect, .wifiSetConfig (staCfgOf ssid pwd)]

/-! ## The store -/

/-- The stored strings, and the numbers of the commands that stored them; `none` is what was there
before the first. -/
structure CredStore where
  ssid : Option Bytes
  pwd : Option Bytes
  ssidFrom : Option Nat
  pwdFrom : Option Nat
  deriving DecidableEq

/-- Which of the strings that were set and not committed the flash keeps. -/
structure Kept where
  ssid : Bool
  pwd : Bool

/-- What a call of command `n` does to the store. -/
def CredStore.put (n : Nat) (committed : Bool) (kept : Kept) (s : CredStore) :
    CredCall → CredStore
  | .setSsid value true =>
    if committed || kept.ssid then { s with ssid := some value, ssidFrom := some n } else s
  | .setPwd value true =>
    if committed || kept.pwd then { s with pwd := some value, pwdFrom := some n } else s
  | _ => s

/-- The store after the calls of command `n`. -/
def CredStore.after (n : Nat) (kept : Kept) (calls : List CredCall) (s : CredStore) : CredStore :=
  calls.foldl (CredStore.put n (calls.contains (.commit true)) kept) s

/-- Both strings are from the same command. -/
def CredStore.SameOrigin (s : CredStore) : Prop := s.ssidFrom = s.pwdFrom

/-- The driver's configuration after a call. -/
def configured (cfg : StaCfg) : CredCall → StaCfg
  | .wifiSetConfig cfg' => cfg'
  | _ => cfg

/-- The calls leave what `wifiSetCredentials` says, where the flash keeps what was set. -/
theorem wifiSetCredentials_calls (a : Answers) (ssid pwd : Bytes) (c : Control) (n : Nat) :
    let calls := wifiSetCredentialsCalls a ssid pwd
    let store := CredStore.after n ⟨true, true⟩ calls ⟨c.wifi.nvsSsid, c.wifi.nvsPwd, none, none⟩
    (c.wifiSetCredentials a ssid pwd).wifi.nvsSsid = store.ssid ∧
      (c.wifiSetCredentials a ssid pwd).wifi.nvsPwd = store.pwd ∧
      (c.wifiSetCredentials a ssid pwd).wifi.cfg = calls.foldl configured c.wifi.cfg := by
  intro calls store
  cases hopen : a.credOpen <;> cases hssid : a.credSsid <;> cases hpwd : a.credPwd <;>
    cases hcommit : a.credCommit <;>
    simp [calls, store, wifiSetCredentialsCalls, Control.wifiSetCredentials, CredStore.after,
      CredStore.put, configured, wifiBackoffSchedule, wifiBackoffReset, wifiBackoffStopTimer,
      hopen, hssid, hpwd, hcommit]

/-! ## The commands -/

/-- A `setwifi` command, the answers of the platform, and what the flash keeps. -/
structure SetwifiIn where
  args : Bytes
  answers : Answers
  kept : Kept

/-- The calls of the command. -/
def SetwifiIn.calls (i : SetwifiIn) : List CredCall :=
  match setwifiPair i.args with
  | none => []
  | some (ssid, pwd) => wifiSetCredentialsCalls i.answers ssid pwd

/-- The answer to the client. -/
def SetwifiIn.reply (i : SetwifiIn) (c : Control) : Bytes := (cmdSetwifi i.answers i.args c).1

/-- The store and the driver, and how many commands there were. -/
structure CredWorld where
  store : CredStore
  cfg : StaCfg
  commands : Nat

/-- Both stored strings are from the same command. -/
def CredWorld.Paired (w : CredWorld) : Prop := w.store.SameOrigin

/-- Before the first command. -/
def CredWorld.boot (ssid pwd : Option Bytes) (cfg : StaCfg) : CredWorld :=
  ⟨⟨ssid, pwd, none, none⟩, cfg, 0⟩

/-- One command. -/
def CredWorld.step (w : CredWorld) (i : SetwifiIn) : CredWorld where
  store := w.store.after w.commands i.kept i.calls
  cfg := i.calls.foldl configured w.cfg
  commands := w.commands + 1

/-- The command is carried out: both strings are stored, the driver gets them and the client is
told. -/
structure SetwifiDone (w : CredWorld) (i : SetwifiIn) (ssid pwd : Bytes) : Prop where
  pair : setwifiPair i.args = some (ssid, pwd)
  storedSsid : (w.step i).store.ssid = some ssid
  storedPwd : (w.step i).store.pwd = some pwd
  configures : .wifiSetConfig (staCfgOf ssid pwd) ∈ i.calls
  cfg : (w.step i).cfg = staCfgOf ssid pwd
  told : ∀ c, i.reply c = lit "WIFI_UPDATED\n"

/-- The command is refused: the stored strings and the driver are as they were, and the client is
not told anything else. -/
structure SetwifiRefused (w : CredWorld) (i : SetwifiIn) : Prop where
  storedSsid : (w.step i).store.ssid = w.store.ssid
  storedPwd : (w.step i).store.pwd = w.store.pwd
  untouched : ∀ cfg, .wifiSetConfig cfg ∉ i.calls
  cfg : (w.step i).cfg = w.cfg
  told : ∀ c, i.reply c ≠ lit "WIFI_UPDATED\n"

/-- The command is all or nothing, and leaves no mixture of two. -/
def SetwifiAtomic (w : CredWorld) (i : SetwifiIn) : Prop :=
  ((∃ ssid pwd, SetwifiDone w i ssid pwd) ∨ SetwifiRefused w i) ∧ (w.step i).store.SameOrigin

/-- The arguments are no pair, or no call on the NVS fails. -/
def SetwifiIn.Completes (i : SetwifiIn) : Prop :=
  setwifiPair i.args = none ∨ i.answers.storesCreds = true

/-! ## When it is all or nothing -/

/-- The answer tells only whether the arguments were a pair. -/
theorem SetwifiIn.reply_eq (i : SetwifiIn) (c : Control) :
    i.reply c =
      if setwifiPair i.args = none then lit "BADFMT\n" else lit "WIFI_UPDATED\n" := by
  change (match setwifiPair i.args with
    | none => (lit "BADFMT\n", c)
    | some (ssid, pwd) => (lit "WIFI_UPDATED\n", c.step ⟨.setwifi ssid pwd, i.answers⟩)).1 = _
  cases setwifiPair i.args <;> rfl

/-- The calls of a pair that fail nowhere. -/
theorem wifiSetCredentialsCalls_stored {a : Answers} (h : a.storesCreds = true) (ssid pwd : Bytes) :
    wifiSetCredentialsCalls a ssid pwd =
      [.nvsOpen true, .setSsid ssid true, .setPwd pwd true, .commit true, .close, .wifiDisconnect,
        .wifiSetConfig (staCfgOf ssid pwd)] := by
  simp only [Answers.storesCreds, Bool.and_eq_true] at h
  obtain ⟨⟨⟨hopen, hssid⟩, hpwd⟩, hcommit⟩ := h
  simp [wifiSetCredentialsCalls, hopen, hssid, hpwd, hcommit]

/-- Where a call fails, the driver is not configured. -/
theorem wifiSetConfig_notMem {a : Answers} (h : a.storesCreds = false) (ssid pwd : Bytes)
    (cfg : StaCfg) : .wifiSetConfig cfg ∉ wifiSetCredentialsCalls a ssid pwd := by
  unfold wifiSetCredentialsCalls
  cases hopen : a.credOpen
  · simp
  · have hsome : (a.credSsid && a.credPwd && a.credCommit) = false := by
      rw [Answers.storesCreds, hopen, Bool.true_and] at h
      exact h
    rw [hsome]
    simp

/-- A command whose calls succeed is carried out, and both strings are its own. -/
theorem setwifiDone_of_stored (w : CredWorld) {i : SetwifiIn} {ssid pwd : Bytes}
    (hpair : setwifiPair i.args = some (ssid, pwd)) (h : i.answers.storesCreds = true) :
    SetwifiDone w i ssid pwd ∧ (w.step i).store.SameOrigin := by
  have hcalls : i.calls = _ :=
    (by rw [SetwifiIn.calls, hpair] : i.calls = wifiSetCredentialsCalls i.answers ssid pwd).trans
      (wifiSetCredentialsCalls_stored h ssid pwd)
  have hstore : (w.step i).store = ⟨some ssid, some pwd, some w.commands, some w.commands⟩ := by
    rw [CredWorld.step, hcalls]
    simp [CredStore.after, CredStore.put]
  refine ⟨⟨hpair, by rw [hstore], by rw [hstore], ?_, ?_, fun c => ?_⟩, by rw [hstore]; rfl⟩
  · rw [hcalls]
    simp
  · rw [CredWorld.step, hcalls]
    rfl
  · rw [i.reply_eq, hpair, if_neg (by simp)]

/-- A command without a pair calls nothing and is refused. -/
theorem setwifiRefused_of_none (w : CredWorld) {i : SetwifiIn} (hpair : setwifiPair i.args = none) :
    SetwifiRefused w i ∧ (w.step i).store = w.store := by
  have hcalls : i.calls = [] := by rw [SetwifiIn.calls, hpair]
  have hstore : (w.step i).store = w.store := by
    rw [CredWorld.step, hcalls]
    rfl
  refine ⟨⟨by rw [hstore], by rw [hstore], fun cfg => ?_, ?_, fun c => ?_⟩, hstore⟩
  · rw [hcalls]
    exact List.not_mem_nil
  · rw [CredWorld.step, hcalls]
    rfl
  · rw [i.reply_eq, hpair, if_pos rfl]
    decide

/-- A command that is all or nothing has no pair, or all its calls succeed. -/
theorem SetwifiAtomic.completes {w : CredWorld} {i : SetwifiIn} (h : SetwifiAtomic w i) :
    i.Completes := by
  obtain ⟨⟨ssid, pwd, hdone⟩ | hrefused, -⟩ := h
  · refine .inr ?_
    have hmem := hdone.configures
    rw [SetwifiIn.calls, hdone.pair] at hmem
    by_contra hfails
    exact wifiSetConfig_notMem (Bool.not_eq_true _ ▸ hfails) ssid pwd _ hmem
  · refine .inl ?_
    by_contra hpair
    refine hrefused.told blankControl ?_
    rw [i.reply_eq, if_neg hpair]

/-- **All or nothing.** Over any sequence of `setwifi` commands, with any failures and whatever the
flash keeps of uncommitted strings: every command is all or nothing, with both stored strings from
one command after it, exactly when every command has no pair in its arguments or no failing call. -/
theorem setwifi_atomic_iff (ssid pwd : Option Bytes) (cfg : StaCfg) (is : List SetwifiIn) :
    Run.Along CredWorld.step SetwifiAtomic (.boot ssid pwd cfg) is ↔
      Run.Along CredWorld.step (fun _ i => i.Completes) (.boot ssid pwd cfg) is := by
  have hatomic : ∀ (w : CredWorld) (i : SetwifiIn), w.Paired → i.Completes →
      SetwifiAtomic w i := by
    intro w i hsame hok
    cases hpair : setwifiPair i.args with
    | none =>
      obtain ⟨hrefused, hstore⟩ := setwifiRefused_of_none w hpair
      exact ⟨.inr hrefused, by rw [hstore]; exact hsame⟩
    | some p =>
      have hstores := hok.resolve_left (by rw [hpair]; exact Option.some_ne_none p)
      obtain ⟨hdone, horigin⟩ := setwifiDone_of_stored w hpair hstores
      exact ⟨.inl ⟨_, _, hdone⟩, horigin⟩
  exact Run.along_congr (show (CredWorld.boot ssid pwd cfg).Paired from rfl)
    (fun w i hsame hok => (hatomic w i hsame hok).2)
    (fun w i hsame => ⟨fun h => h.completes, hatomic w i hsame⟩) is

/-- The platform where storing the password fails. -/
def noPwd : Answers := { Answers.factory with credPwd := false }

/-- The password cannot be stored: the new SSID stands beside the old password, the driver keeps the
old pair, and the client is told `WIFI_UPDATED`. -/
theorem setwifi_mixture :
    let w := CredWorld.boot (some (lit "home")) (some (lit "oldpass")) (staCfgOf (lit "home")
      (lit "oldpass"))
    let i : SetwifiIn := ⟨lit "cabin newpass", noPwd, ⟨true, true⟩⟩
    (w.step i).store = ⟨some (lit "cabin"), some (lit "oldpass"), some 0, none⟩ ∧
      (w.step i).cfg = w.cfg ∧ i.reply blankControl = lit "WIFI_UPDATED\n" ∧
      ¬ SetwifiAtomic w i := by
  intro w i
  have hstore : (w.step i).store = ⟨some (lit "cabin"), some (lit "oldpass"), some 0, none⟩ := by
    decide
  refine ⟨hstore, by decide, by decide, fun h => ?_⟩
  have hsame := h.2
  rw [hstore] at hsame
  exact absurd hsame (Option.some_ne_none 0)

end RemoteControl
