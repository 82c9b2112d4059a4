import RemoteControl.Cmd.Handlers
import RemoteControl.Cmd.Router

/-!
# What the handlers answer (`cmd_base.c`, `cmd_diag.c`, `cmd_led.c`, `cmd_dht.c`, `cmd_reply.c`)

A handler replies at once or posts a message to the command bus, and then the router replies.
`lineAnswer` is this for a whole call of `cmd_dispatch_line`. Every answer is one line that ends
with a line end (`IsLine`), with one exception: `cmd_diag` answers with four.
-/

namespace RemoteControl

open CString

/-! ## Lines -/

/-- `sizeof(buf)` in `cmd_replyf`. -/
def replyMax : Nat := 320

/-- One line with its line end, that fits the buffer of `cmd_replyf`. -/
def IsLine (t : Bytes) : Prop := ∃ s : Bytes, 10 ∉ s ∧ s.length + 1 < replyMax ∧ t = s ++ [10]

instance (t : Bytes) : Decidable (IsLine t) :=
  decidable_of_iff (t.getLast? = some 10 ∧ 10 ∉ t.dropLast ∧ t.length < replyMax) <| by
    constructor
    · rintro ⟨hlast, hnot, hlen⟩
      have heq : t = t.dropLast ++ [10] := (List.dropLast_append_getLast? 10 hlast).symm
      refine ⟨t.dropLast, hnot, ?_, heq⟩
      rw [heq] at hlen
      simpa using hlen
    · rintro ⟨s, hnot, hlen, rfl⟩
      exact ⟨by simp, by simpa using hnot, by simpa using hlen⟩

/-- Text without a line end before a line makes a line. -/
theorem IsLine.append {a b : Bytes} (hb : IsLine b) (ha : 10 ∉ a)
    (hlen : a.length + b.length < replyMax) : IsLine (a ++ b) := by
  obtain ⟨s, hs, -, rfl⟩ := hb
  refine ⟨a ++ s, by simp [ha, hs], ?_, by simp⟩
  simp only [List.length_append, List.length_singleton] at hlen ⊢
  omega

/-- Digits hold no line end. -/
theorem lineEnd_notMem_formatNat (n : Nat) : (10 : UInt8) ∉ formatNat 10 n := by
  intro h
  have hdigit := isDigit_of_mem_formatNat (by decide) (by decide) h
  revert hdigit
  decide

/-- A `uint32_t` is written with at most ten digits. -/
theorem length_formatNat_u32 {n : Nat} (h : n < 2 ^ 32) : (formatNat 10 n).length ≤ 10 :=
  length_formatNat_le (k := 9) (lt_trans h (by decide))

/-! ## The router -/

/-- The sample is of the types the code keeps it in. -/
def DhtSample.Fits (s : DhtSample) : Prop := s.tempC < 256 ∧ s.rh < 256 ∧ s.ageMs < 2 ^ 32

theorem isLine_dhtLine {s : DhtSample} (h : s.Fits) : IsLine (dhtLine s) := by
  obtain ⟨htemp, hrh, hage⟩ := h
  have hlenTemp := length_formatNat_u32 (lt_trans htemp (by decide))
  have hlenRh := length_formatNat_u32 (lt_trans hrh (by decide))
  have hlenAge := length_formatNat_u32 hage
  have hT : (formatNat 10 s.tempC).length ≤ 3 := length_formatNat_le (k := 2) (by omega)
  have hR : (formatNat 10 s.rh).length ≤ 3 := length_formatNat_le (k := 2) (by omega)
  have h₁ : (lit "DHT T=").length = 6 := rfl
  have h₂ : (lit ".0C RH=").length = 7 := rfl
  have h₃ : (lit ".0% age=").length = 8 := rfl
  have h₄ : (lit " ms\n").length = 4 := rfl
  unfold dhtLine
  split
  · decide
  · rw [List.take_of_length_le (by simp only [List.length_append]; omega)]
    refine IsLine.append (by decide) ?_ (by simp only [List.length_append, replyMax]; omega)
    have hlits : 10 ∉ lit "DHT T=" ∧ 10 ∉ lit ".0C RH=" ∧ 10 ∉ lit ".0% age=" := by decide
    simp [hlits, lineEnd_notMem_formatNat]

theorem isLine_dhtStateLine {s : DhtSample} {d : Dht} (h : s.Fits) (hd : d.periodMs < 2 ^ 32) :
    IsLine (dhtStateLine s d) := by
  have hlenAge := length_formatNat_u32 h.2.2
  have hlenPeriod := length_formatNat_u32 hd
  have hbool : ∀ b : Bool, (formatNat 10 b.toNat).length = 1 := by decide
  have hOn := hbool d.streamOn
  have hValid := hbool s.valid
  have h₁ : (lit "DHTSTATE stream=").length = 16 := rfl
  have h₂ : (lit " interval=").length = 10 := rfl
  have h₃ : (lit " valid=").length = 7 := rfl
  have h₄ : (lit " age=").length = 5 := rfl
  have h₅ : (lit " ms\n").length = 4 := rfl
  unfold dhtStateLine
  rw [List.take_of_length_le (by simp only [List.length_append]; omega)]
  refine IsLine.append (by decide) ?_ (by simp only [List.length_append, replyMax]; omega)
  have hlits : 10 ∉ lit "DHTSTATE stream=" ∧ 10 ∉ lit " interval=" ∧ 10 ∉ lit " valid=" ∧
      10 ∉ lit " age=" := by decide
  simp [hlits, lineEnd_notMem_formatNat]

/-- **The router replies with one line.** -/
theorem isLine_cmdRouterRun {s : DhtSample} {d : Dht} (hs : s.Fits) (hd : d.periodMs < 2 ^ 32)
    (cmd : BusCmd) (u32 : Nat) : IsLine (cmdRouterRun s cmd u32 d).1 := by
  cases cmd with
  | dhtQuery => exact isLine_dhtLine hs
  | dhtState => exact isLine_dhtStateLine hs hd
  | ledOn | ledOff | dhtStreamOn | dhtStreamOff => simp only [cmdRouterRun]; decide

/-- The period of the sampler stays a `uint32_t`. -/
theorem periodMs_cmdRouterRun {d : Dht} {u32 : Nat} (hd : d.periodMs < 2 ^ 32)
    (hu : u32 < 2 ^ 32) (s : DhtSample) (cmd : BusCmd) :
    (cmdRouterRun s cmd u32 d).2.periodMs < 2 ^ 32 := by
  cases cmd with
  | dhtStreamOn =>
    simp only [cmdRouterRun, dhtSetStream]
    split <;> assumption
  | ledOn | ledOff | dhtQuery | dhtStreamOff | dhtState => exact hd

/-! ## The handlers -/

/-- The version in the description of an image: a C string in 32 bytes. It is one line. -/
structure ImageVersion where
  text : Bytes
  oneLine : 10 ∉ text
  short : text.length < 32

/-- The label, the subtype, the address and the size of a partition, within their types. -/
structure PartInfo where
  label : Bytes
  subtype : Nat
  address : Nat
  size : Nat
  labelShort : label.length ≤ 16
  subtypeByte : subtype < 2 ^ 8
  addressWord : address < 2 ^ 32
  sizeWord : size < 2 ^ 32

/-- What the platform says about the running partition; `version` is `none` where
`esp_ota_get_partition_description` fails or there is no such partition. -/
structure ImageAnswers where
  version : Option ImageVersion
  part : PartInfo

/-- What a handler does for its reply: `cmd_reply`, or a message to the bus. -/
inductive Answered where
  | now (text : Bytes)
  | posted (cmd : BusCmd) (u32 : Nat)
  deriving DecidableEq

/-- The text of a `cmd_replyf`. -/
def cmdReplyf (text : Bytes) : Bytes := text.take (replyMax - 1)

/-- `mode_to_str`. -/
def modeToStr : ScMode → Bytes
  | .waitControl => lit "WAIT_CONTROL"
  | .normal => lit "NORMAL"
  | .recovery => lit "RECOVERY"
  | .startup => lit "STARTUP"

/-- `cmd_ping`. -/
def cmdPing : Bytes := lit "PONG\n"

/-- `cmd_version`. -/
def cmdVersion (version : Option ImageVersion) : Bytes :=
  match version with
  | none => lit "unknown\n"
  | some v => if v.text = [] then lit "unknown\n" else cmdReplyf (v.text ++ lit "\n")

/-- The number of a code. -/
def ErrSrc.code (e : ErrSrc) : Nat := ErrSrc.all.idxOf e

/-- `cmd_errsrc`. -/
def cmdErrsrc (mode : ScMode) (st : Errsrc) : Bytes :=
  cmdReplyf (lit "mode=" ++ modeToStr mode ++ lit " errsrc=" ++ formatNat 10 st.last.code ++
    lit " " ++ st.err ++ lit "\n")

/-- `_ota_state_str`. -/
def otaStateStr : ImgState → Bytes
  | .new => lit "NEW"
  | .pendingVerify => lit "PENDING_VERIFY"
  | .valid => lit "VALID"
  | .invalid => lit "INVALID"
  | .aborted => lit "ABORTED"
  | .undefined => lit "UNDEFINED"

/-- `cmd_diag`. -/
def cmdDiag (a : Answers) (part : PartInfo) (sys : Syscoord) : Bytes :=
  let run := match a.running with
    | some _ =>
      lit "PART=" ++ part.label ++ lit " SUB=" ++ formatNat 10 part.subtype ++ lit " OFF=0x" ++
        (formatNatPad 6 16 part.address).map toLower ++ lit " SIZE=" ++ formatNat 10 part.size
    | none => lit "PART=? SUB=-1 OFF=0x000000 SIZE=0"
  let st := if a.running.isSome then a.imgState.getD .undefined else .undefined
  let rest := lit "OTA_STATE=" ++ otaStateStr st ++ lit "\nPOST_RB=" ++
    formatNat 10 (bootflagIsPostRollback a sys.postRb).toNat ++ lit "\nMODE=" ++
    modeToStr sys.mode ++ lit "\n"
  cmdReplyf (run ++ lit "\n" ++ rest)

/-- The end of the handlers that post: `BUS_DOWN` where there is no bus. -/
def cmdPost (ready : Bool) (cmd : BusCmd) (u32 : Nat) : Answered :=
  if !ready then .now (lit "BUS_DOWN\n") else .posted cmd u32

/-- `cmd_led_on`. -/
def cmdLedOn (ready : Bool) : Answered := cmdPost ready .ledOn 0

/-- `cmd_led_off`. -/
def cmdLedOff (ready : Bool) : Answered := cmdPost ready .ledOff 0

/-- `cmd_dht`. -/
def cmdDht (ready : Bool) : Answered := cmdPost ready .dhtQuery 0

/-- `cmd_dhtstate`. -/
def cmdDhtstate (ready : Bool) : Answered := cmdPost ready .dhtState 0

/-- The usage of `cmd_dhtstream`. -/
def dhtstreamUsage : Answered := .now (lit "usage: DHTSTREAM on|off [ms]\n")

/-- `cmd_dhtstream`. -/
def cmdDhtstream (ready : Bool) (args : Bytes) (authed : Bool) : Answered :=
  if !authed then .now (lit "DENIED\n")
  else if !ready then .now (lit "BUS_DOWN\n")
  else if args = [] then dhtstreamUsage
  else
    match scanWord 15 args with
    | none => dhtstreamUsage
    | some (opt, rest) =>
      let interval := ((scanUnsigned 10 rest).map (·.1)).getD 0
      if opt.map toLower = lit "on" then .posted .dhtStreamOn interval
      else if opt.map toLower = lit "off" then .posted .dhtStreamOff interval
      else dhtstreamUsage

/-! ## A line -/

/-- The answer of a handler over TCP; `none` where `cmd_ota` has called `ota_perform`. -/
def cmdAnswer (ready : Bool) (x : CmdAnswers) (v : ImageAnswers) (fn : CmdFn) (args : Bytes)
    (authed : Bool) (s : CmdState) : Option Answered :=
  match fn with
  | .ping => some (.now cmdPing)
  | .auth => some (.now (cmdAuth x.nvs args authed s.auth).2.1)
  | .settoken => some (.now (cmdSettoken x.nvs args authed s.auth).1)
  | .diag => some (.now (cmdDiag x.ans v.part s.control.sys))
  | .ledOn => some (cmdLedOn ready)
  | .ledOff => some (cmdLedOff ready)
  | .version => some (.now (cmdVersion v.version))
  | .ota =>
    match cmdOta .tcp args with
    | .error text => some (.now text)
    | .ok _ => none
  | .setwifi => some (.now (cmdSetwifi x.ans args s.control).1)
  | .errsrc => some (.now (cmdErrsrc s.control.sys.mode s.control.errsrc))
  | .dht => some (cmdDht ready)
  | .dhtstream => some (cmdDhtstream ready args authed)
  | .dhtstate => some (cmdDhtstate ready)

/-- The answer to a line; `none` also where the line is ignored. -/
def lineAnswer (ready : Bool) (x : CmdAnswers) (v : ImageAnswers) (line : Bytes) (authed : Bool)
    (s : CmdState) : Option Answered :=
  match cmdDispatchLine line authed with
  | .ignored => none
  | .replied text => some (.now text)
  | .called entry args => cmdAnswer ready x v entry.fn args authed s

/-- The answer is one line, or a message whose number is a `uint32_t`. -/
def Answered.Ok : Answered → Prop
  | .now text => IsLine text
  | .posted _ u32 => u32 < 2 ^ 32

/-! ### Every answer but that of `cmd_diag` is one line -/

/-- A reply that fits the buffer is not cut. -/
theorem cmdReplyf_of_isLine {t : Bytes} (h : IsLine t) : cmdReplyf t = t := by
  obtain ⟨s, -, hlen, rfl⟩ := h
  refine List.take_of_length_le ?_
  simp only [List.length_append, List.length_singleton, replyMax] at hlen ⊢
  omega

theorem isLine_cmdVersion (v : Option ImageVersion) : IsLine (cmdVersion v) := by
  unfold cmdVersion
  split
  · decide
  · next v =>
    split
    · decide
    · have hline : IsLine (v.text ++ lit "\n") := by
        have hlen := v.short
        refine IsLine.append (by decide) v.oneLine ?_
        simp only [replyMax, show (lit "\n").length = 1 from rfl]
        omega
      rwa [cmdReplyf_of_isLine hline]

theorem isLine_cmdErrsrc (mode : ScMode) {st : Errsrc} (h : st.err ∈ errTexts) :
    IsLine (cmdErrsrc mode st) := by
  have htext : ∀ t ∈ errTexts, 10 ∉ t ∧ t.length ≤ 63 := by decide
  obtain ⟨hnot, hlen⟩ := htext _ h
  have hmode : 10 ∉ modeToStr mode ∧ (modeToStr mode).length ≤ 12 := by cases mode <;> decide
  have hcode : 10 ∉ formatNat 10 st.last.code ∧ (formatNat 10 st.last.code).length ≤ 1 := by
    cases st.last <;> decide
  have hlits : 10 ∉ lit "mode=" ∧ 10 ∉ lit " errsrc=" ∧ 10 ∉ lit " " := by decide
  have h₁ : (lit "mode=").length = 5 := rfl
  have h₂ : (lit " errsrc=").length = 8 := rfl
  have h₃ : (lit " ").length = 1 := rfl
  have h₄ : (lit "\n").length = 1 := rfl
  unfold cmdErrsrc
  rw [cmdReplyf_of_isLine]
  all_goals
    refine IsLine.append (by decide) (by simp [hlits, hmode, hcode, hnot]) ?_
    simp only [List.length_append, replyMax]
    omega

theorem isLine_cmdAuth (n : AuthNvs) (args : Bytes) (authed : Bool) (s : AuthStore) :
    IsLine (cmdAuth n args authed s).2.1 := by
  unfold cmdAuth
  dsimp only
  split <;> (dsimp only; decide)

theorem isLine_cmdSettoken (n : AuthNvs) (args : Bytes) (authed : Bool) (s : AuthStore) :
    IsLine (cmdSettoken n args authed s).1 := by
  have hlits : ∀ t ∈ [lit "DENIED\n", lit "usage: SETTOKEN <newtoken>\n", lit "ERR empty token\n",
      lit "ERR token too long\n", lit "OK\n", lit "ERR\n"], IsLine t := by decide
  apply hlits
  unfold cmdSettoken
  dsimp only
  repeat' split
  all_goals simp

theorem isLine_cmdSetwifi (a : Answers) (args : Bytes) (c : Control) :
    IsLine (cmdSetwifi a args c).1 := by
  unfold cmdSetwifi
  dsimp only
  split <;> (dsimp only; decide)

theorem Answered.ok_cmdPost (ready : Bool) (cmd : BusCmd) : (cmdPost ready cmd 0).Ok := by
  cases ready
  · show IsLine _
    decide
  · show 0 < 2 ^ 32
    decide

/-- What `%u` reads is a `uint32_t`. -/
theorem scanUnsigned_lt {base : Nat} {s : Bytes} {r : Nat × Bytes}
    (h : scanUnsigned base s = some r) : r.1 < 2 ^ 32 := by
  unfold scanUnsigned at h
  dsimp only at h
  split at h
  · cases h
  · cases h
    dsimp only
    split
    · decide
    · split
      · exact Nat.mod_lt _ (by decide)
      · omega

theorem Answered.ok_cmdDhtstream (ready : Bool) (args : Bytes) (authed : Bool) :
    (cmdDhtstream ready args authed).Ok := by
  have hline : dhtstreamUsage.Ok := by
    show IsLine _
    decide
  unfold cmdDhtstream
  split
  · show IsLine _
    decide
  · split
    · show IsLine _
      decide
    · split
      · exact hline
      · split
        · exact hline
        · next opt rest _ =>
          have hu32 : ((scanUnsigned 10 rest).map (·.1)).getD 0 < 2 ^ 32 := by
            cases hscan : scanUnsigned 10 rest with
            | none => decide
            | some r => exact scanUnsigned_lt hscan
          dsimp only
          split
          · exact hu32
          · split
            · exact hu32
            · exact hline

/-- **One line.** Every handler but `cmd_diag` answers with one line, or has the router do it. -/
theorem Answered.ok_cmdAnswer {ready : Bool} {x : CmdAnswers} {v : ImageAnswers} {fn : CmdFn}
    {args : Bytes} {authed : Bool} {s : CmdState} {ans : Answered}
    (h : cmdAnswer ready x v fn args authed s = some ans) (hfn : fn ≠ .diag)
    (herr : s.control.errsrc.err ∈ errTexts) : ans.Ok := by
  cases fn with
  | diag => exact absurd rfl hfn
  | ping =>
    cases h
    show IsLine _
    decide
  | auth => cases h; exact isLine_cmdAuth _ _ _ _
  | settoken => cases h; exact isLine_cmdSettoken _ _ _ _
  | version => cases h; exact isLine_cmdVersion _
  | setwifi => cases h; exact isLine_cmdSetwifi _ _ _
  | errsrc => cases h; exact isLine_cmdErrsrc _ herr
  | dhtstream => cases h; exact Answered.ok_cmdDhtstream _ _ _
  | ledOn | ledOff | dht | dhtstate => cases h; exact Answered.ok_cmdPost _ _
  | ota =>
    simp only [cmdAnswer] at h
    split at h
    · next text hota =>
      cases h
      show IsLine text
      unfold cmdOta at hota
      repeat' split at hota
      all_goals cases hota
      all_goals decide
    · cases h

/-! ### The answer of `cmd_diag` -/

/-- Text with a line end before its end is no line, wherever after it it is cut. -/
theorem not_isLine_of_inner {a b : Bytes} {n : Nat} (ha : a.length + 1 < n) (hb : b ≠ []) :
    ¬ IsLine ((a ++ 10 :: b).take n) := by
  rintro ⟨s, hs, -, heq⟩
  obtain ⟨k, rfl⟩ : ∃ k, n = a.length + 1 + (k + 1) := ⟨n - a.length - 2, by omega⟩
  obtain ⟨c, b', rfl⟩ := List.exists_cons_of_ne_nil hb
  have hcut : (a ++ 10 :: c :: b').take (a.length + 1 + (k + 1)) = a ++ 10 :: c :: b'.take k := by
    rw [List.take_append, List.take_of_length_le (by omega)]
    simp [show a.length + 1 + (k + 1) - a.length = k + 2 by omega]
  have hdrop : s = (a ++ 10 :: c :: b'.take k).dropLast := by rw [← hcut, heq]; simp
  apply hs
  rw [hdrop, List.dropLast_append_of_ne_nil (by simp)]
  simp

theorem not_isLine_cmdDiag (a : Answers) (part : PartInfo) (sys : Syscoord) :
    ¬ IsLine (cmdDiag a part sys) := by
  have hlabel := part.labelShort
  have hsub := length_formatNat_u32 (lt_trans part.subtypeByte (by decide))
  have hsize := length_formatNat_u32 part.sizeWord
  have haddr : (formatNatPad 6 16 part.address).length ≤ 8 := by
    have hlen : (formatNat 16 part.address).length ≤ 8 :=
      length_formatNat_le (k := 7) (lt_of_lt_of_eq part.addressWord (by decide))
    simp only [formatNatPad, List.length_append, List.length_replicate]
    omega
  unfold cmdDiag cmdReplyf
  simp only [show lit "\n" = [10] from rfl, List.append_assoc, List.singleton_append]
  refine not_isLine_of_inner ?_ (by simp [lit])
  split
  · have h₁ : (lit "PART=").length = 5 := rfl
    have h₂ : (lit " SUB=").length = 5 := rfl
    have h₃ : (lit " OFF=0x").length = 7 := rfl
    have h₄ : (lit " SIZE=").length = 6 := rfl
    simp only [List.length_append, List.length_map, replyMax]
    omega
  · decide

/-! ### The answer to a line -/

/-- What the dispatcher itself replies. -/
theorem cmdDispatchLine_replied {line : Bytes} {authed : Bool} {text : Bytes}
    (h : cmdDispatchLine line authed = .replied text) : IsLine text := by
  unfold cmdDispatchLine at h
  dsimp only at h
  split at h
  · cases h
  · split at h
    · cases h
      decide
    · split at h
      · cases h
        decide
      · cases h

/-- The line is not ignored, and does not call `cmd_diag`. -/
def AnsweredInOne (line : Bytes) (authed : Bool) : Prop :=
  match cmdDispatchLine line authed with
  | .ignored => False
  | .replied _ => True
  | .called entry _ => entry.fn ≠ .diag

instance (line : Bytes) (authed : Bool) : Decidable (AnsweredInOne line authed) := by
  unfold AnsweredInOne
  cases cmdDispatchLine line authed <;> infer_instance

/-- The line, with the flag set, does not call `cmd_ota`. -/
def NotOta (line : Bytes) : Prop := ¬ CallsOta (cmdDispatchLine line true)

theorem notOta_of_called {line args : Bytes} {entry : CmdEntry}
    (h : cmdDispatchLine line true = .called entry args) (hfn : entry.fn ≠ .ota) : NotOta line := by
  rintro ⟨entry', args', heq, hfn'⟩
  cases h.symm.trans heq
  exact hfn hfn'

/-- **When a line is answered with one line**: when it is not ignored and does not call
`cmd_diag`. -/
theorem Answered.ok_lineAnswer (ready : Bool) (x : CmdAnswers) (v : ImageAnswers)
    {line : Bytes} {authed : Bool} {s : CmdState} (hota : NotOta line)
    (herr : s.control.errsrc.err ∈ errTexts) (h : AnsweredInOne line authed) :
    ∃ ans, lineAnswer ready x v line authed s = some ans ∧ ans.Ok := by
  unfold lineAnswer
  unfold AnsweredInOne at h
  cases hd : cmdDispatchLine line authed with
  | ignored =>
    rw [hd] at h
    exact h.elim
  | replied text => exact ⟨_, rfl, cmdDispatchLine_replied hd⟩
  | called entry args =>
    rw [hd] at h
    have hnot : entry.fn ≠ .ota := fun hfn =>
      hota ⟨entry, args, (cmdDispatchLine_called hd).2.2, hfn⟩
    have hsome : (cmdAnswer ready x v entry.fn args authed s).isSome := by
      cases hfn : entry.fn with
      | ota => exact absurd hfn hnot
      | _ => rfl
    obtain ⟨ans, hans⟩ := Option.isSome_iff_exists.mp hsome
    exact ⟨ans, hans, Answered.ok_cmdAnswer hans h herr⟩

/-- In the other cases nothing is answered, or text that is not one line. -/
theorem lineAnswer_of_not_answeredInOne (ready : Bool) (x : CmdAnswers) (v : ImageAnswers)
    {line : Bytes} {authed : Bool} (s : CmdState) (h : ¬ AnsweredInOne line authed) :
    lineAnswer ready x v line authed s = none ∨
      ∃ text, lineAnswer ready x v line authed s = some (.now text) ∧ ¬ IsLine text := by
  unfold lineAnswer
  unfold AnsweredInOne at h
  cases hd : cmdDispatchLine line authed with
  | ignored => exact .inl rfl
  | replied text =>
    rw [hd] at h
    exact absurd trivial h
  | called entry args =>
    rw [hd] at h
    have hdiag : entry.fn = .diag := not_not.mp h
    refine .inr ⟨_, ?_, not_isLine_cmdDiag x.ans v.part s.control.sys⟩
    simp only [hdiag, cmdAnswer]

end RemoteControl
