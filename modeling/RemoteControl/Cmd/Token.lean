import RemoteControl.Cmd.Replies
import RemoteControl.Lib.Run

/-!
# The token of AUTH and SETTOKEN (`cmd_auth.c`)

`cmd_auth` compares the first 65 bytes of its argument, trimmed, with the token; `cmd_settoken`
stores the first 64, trimmed. Both cuts come before the trim. So an argument is compared as it is
only up to what lies behind its 65th byte (`authExact_iff`), and a token that is set is the one
that AUTH looks for only when its 65th byte is blank or missing (`settoken_safe_iff`).
-/

namespace RemoteControl

open CString

/-! ## The comparison of AUTH -/

/-- The argument begins with the token, blanks that make it 65 bytes, and something more that is
not all blank. -/
def CutToToken (args token : Bytes) : Prop :=
  trimTrailing token = token ∧ ∃ pad rest, args = token ++ (pad ++ rest) ∧
    token.length + pad.length = 65 ∧ (∀ c ∈ pad, isBlank c = true) ∧ ∃ c ∈ rest, isBlank c = false

/-- AUTH does what its argument without trailing blanks says: with the token it sets the flag and
replies `OK`, with anything else it replies `DENIED` and changes neither the flag nor the control
plane. -/
def AuthExact (x : CmdAnswers) (xport : CmdXport) (args : Bytes) (authed : Bool)
    (s : CmdState) : Prop :=
  let out := cmdRun x xport .auth args authed s
  let reply := (cmdAuth x.nvs args authed s.auth).2.1
  (trimTrailing args = tokenInForce x s → out.authed = true ∧ reply = lit "OK\n") ∧
    (trimTrailing args ≠ tokenInForce x s →
      reply = lit "DENIED\n" ∧ out.authed = authed ∧ out.state.control = s.control)

/-- Trimming twice is trimming once. -/
theorem trimTrailing_trimTrailing (s : Bytes) : trimTrailing (trimTrailing s) = trimTrailing s :=
  List.rdropWhile_idempotent _ s

/-- A cut argument is longer than `s_auth_token` even without its trailing blanks. -/
theorem CutToToken.length_trim {args token : Bytes} (h : CutToToken args token) :
    65 < (trimTrailing args).length := by
  obtain ⟨-, pad, rest, rfl, hlen, -, c, hc, hblank⟩ := h
  have hrest : trimTrailing rest ≠ [] := fun hnil => by
    rw [trimTrailing_eq_nil.mp hnil c hc] at hblank
    cases hblank
  have hpos := List.length_pos_of_ne_nil hrest
  rw [← List.append_assoc, trimTrailing_append, if_neg hrest, List.length_append,
    List.length_append]
  omega

/-- So it is not the token. -/
theorem CutToToken.trim_ne {args token : Bytes} (h : CutToToken args token) :
    trimTrailing args ≠ token := by
  intro heq
  have hlong := h.length_trim
  obtain ⟨-, pad, rest, -, hlen, -⟩ := h
  rw [heq] at hlong
  omega

/-- AUTH finds the token in a cut argument. -/
theorem CutToToken.authArg_eq {args token : Bytes} (h : CutToToken args token) :
    authArg args = token := by
  obtain ⟨htrim, pad, rest, rfl, hlen, hpad, -⟩ := h
  have htake : (token ++ (pad ++ rest)).take 65 = token ++ pad := by
    rw [← List.append_assoc]
    exact List.take_left' (by rw [List.length_append, hlen])
  rw [authArg, htake, trimTrailing_append, if_pos (trimTrailing_eq_nil.mpr hpad), htrim]

/-- The comparison sees the token in its place, or in a cut argument. -/
theorem authArg_cases {args token : Bytes} (htoken : token.length ≤ 64) :
    (authArg args = token ↔ trimTrailing args = token) ∨ CutToToken args token := by
  have hsplit : trimTrailing args =
      if trimTrailing (args.drop 65) = [] then authArg args
      else args.take 65 ++ trimTrailing (args.drop 65) := by
    conv_lhs => rw [← List.take_append_drop 65 args]
    exact trimTrailing_append _ _
  by_cases hrest : trimTrailing (args.drop 65) = []
  · rw [if_pos hrest] at hsplit
    exact .inl (by rw [hsplit])
  · rw [if_neg hrest] at hsplit
    have hlong : 65 ≤ args.length := by
      by_contra hlt
      exact hrest (by rw [List.drop_eq_nil_of_le (by omega)]; rfl)
    have hne : trimTrailing args ≠ token := by
      intro heq
      rw [hsplit] at heq
      have := congrArg List.length heq
      simp only [List.length_append, List.length_take] at this
      omega
    by_cases hauth : authArg args = token
    · -- the first 65 bytes are the token and blanks
      obtain ⟨pad, hpad, hblank⟩ := trimTrailing_append_blanks (args.take 65)
      rw [show trimTrailing (args.take 65) = token from hauth] at hpad
      obtain ⟨c, hc, hcb⟩ : ∃ c ∈ args.drop 65, ¬ isBlank c = true := by
        by_contra hall
        push Not at hall
        exact hrest (trimTrailing_eq_nil.mpr hall)
      refine .inr ⟨?_, pad, args.drop 65, ?_, ?_, hblank, c, hc, by simpa using hcb⟩
      · rw [← hauth, authArg, trimTrailing_trimTrailing]
      · rw [← List.append_assoc, ← hpad, List.take_append_drop]
      · have := congrArg List.length hpad
        simp only [List.length_append, List.length_take] at this
        omega
    · exact .inl ⟨fun h => absurd h hauth, fun h => absurd h hne⟩

/-- The token in force fits its buffer when the one in RAM does. -/
theorem length_tokenInForce {x : CmdAnswers} {s : CmdState} (h : s.auth.token.length ≤ 64) :
    (tokenInForce x s).length ≤ 64 := by
  unfold tokenInForce authTokenLoad
  split
  · exact h
  · cases hstored : (if x.nvs.openRead && x.nvs.getStr then s.auth.nvs.filter (·.length < 65)
        else none) with
    | none => exact h
    | some tok =>
      have hlen : tok.length < 65 := by
        split at hstored
        · simpa using (Option.filter_eq_some_iff.mp hstored).2
        · cases hstored
      exact Nat.le_of_lt_succ hlen

/-- **When AUTH is exact**: unless its argument is cut to the token. The token fits `s_auth_token`,
which has 65 bytes. -/
theorem authExact_iff (x : CmdAnswers) (xport : CmdXport) (args : Bytes) (authed : Bool)
    (s : CmdState) (htoken : s.auth.token.length ≤ 64) :
    AuthExact x xport args authed s ↔ ¬ CutToToken args (tokenInForce x s) := by
  have hstore : (authTokenLoad x.nvs s.auth).token = tokenInForce x s := rfl
  have hlit : lit "OK\n" ≠ lit "DENIED\n" := by decide
  constructor
  · intro hexact hcut
    have hreply := (hexact.2 hcut.trim_ne).1
    simp only [cmdAuth, hstore, if_pos hcut.authArg_eq] at hreply
    exact hlit hreply
  · intro hcut
    have hiff := (authArg_cases (length_tokenInForce htoken)).resolve_right hcut
    refine ⟨fun htrim => ?_, fun htrim => ?_⟩
    · simp only [cmdRun, cmdAuth, hstore, if_pos (hiff.mpr htrim), and_self]
    · have hne : authArg args ≠ tokenInForce x s := fun h => htrim (hiff.mp h)
      simp only [cmdRun, cmdAuth, hstore, hne, false_and, if_false, and_self]

/-- The statics of a device without a stored token. -/
def freshCmd : CmdState := ⟨.boot none, .boot ⟨[], [], true⟩ none none none⟩

theorem authExact_hunter2 :
    AuthExact ⟨.ok, .factory⟩ .ble (lit "hunter2") false freshCmd ↔
      ¬ CutToToken (lit "hunter2") (tokenInForce ⟨.ok, .factory⟩ freshCmd) :=
  authExact_iff ⟨.ok, .factory⟩ .ble (lit "hunter2") false freshCmd (by decide)

/-- The default token, blanks up to the 65th byte, and one byte more. -/
def paddedToken : Bytes := lit "hunter2" ++ (List.replicate 58 32 ++ lit "x")

/-- A line of 71 bytes with it is accepted. -/
theorem not_authExact_padded :
    cmdDispatchLine (lit "auth " ++ paddedToken) false =
        .called ⟨lit "auth", false, .auth⟩ paddedToken ∧
      ¬ AuthExact ⟨.ok, .factory⟩ .ble paddedToken false freshCmd := by
  refine ⟨by decide +kernel, fun h => ?_⟩
  have hreply := (h.2 (by decide +kernel)).1
  exact absurd hreply (by decide +kernel)

/-! ## The argument of a command line -/

/-- The argument that a handler gets from the line `<word> <t>`. -/
def cmdArg (t : Bytes) : Bytes := untilNul (lskipN (rtrimN t))

/-- **A word and a blank.** The dispatcher looks the word up, and its handler gets the rest. -/
theorem cmdDispatchLine_word {w : Bytes} (hne : w ≠ []) (hw : ∀ c ∈ w, isBlank c = false)
    (t : Bytes) (authed : Bool) :
    cmdDispatchLine (w ++ ([32] ++ t)) authed =
      match cmds.find? (·.named w) with
      | none => .replied (lit "WHAT\n")
      | some entry =>
        if entry.needsAuth && !authed then .replied (lit "DENIED\n")
        else .called entry (cmdArg t) := by
  have hblank : ∀ c ∈ ([32] : Bytes), isBlank c = true := by
    intro c hc
    rw [List.mem_singleton.mp hc]
    rfl
  have hskip : lskipN (rtrimN ([32] ++ t)) = lskipN (rtrimN t) := lskipN_rtrimN_append hblank t
  obtain ⟨r, hr, hargs, hhead⟩ : ∃ r, rtrimN (w ++ ([32] ++ t)) = w ++ r ∧
      lskipN r = lskipN (rtrimN t) ∧ ∀ c ∈ r.head?, isBlank c = true := by
    have happ := trimTrailing_append w ([32] ++ t)
    by_cases hnil : trimTrailing ([32] ++ t) = []
    · refine ⟨[], ?_, ?_, fun c hc => nomatch hc⟩
      · rw [if_pos hnil] at happ
        rw [rtrimN, happ, List.append_nil]
        exact trimTrailing_of_getLast fun c hc => hw c (List.mem_of_getLast? hc)
      · rw [← hskip, rtrimN, hnil]
    · refine ⟨trimTrailing ([32] ++ t), ?_, hskip, ?_⟩
      · rw [if_neg hnil] at happ
        exact happ
      · have hcons := trimTrailing_append [32] t
        split at hcons
        · rw [hcons] at hnil
          exact absurd (trimTrailing_eq_nil.mpr hblank) hnil
        · intro c hc
          rw [hcons] at hc
          exact hblank c (by simpa using (Option.some.inj hc).symm)
  obtain ⟨b, w', rfl⟩ := List.exists_cons_of_ne_nil hne
  have hstart : lskipN (b :: w' ++ r) = b :: w' ++ r :=
    lskipN_of_head fun c hc => hw c (by cases hc; exact List.mem_cons_self)
  have hname : (b :: w' ++ r).takeWhile (fun c => !isBlank c) = b :: w' := by
    rw [List.takeWhile_append_of_pos fun c hc => by rw [hw c hc]; rfl]
    cases r with
    | nil => rw [List.takeWhile_nil, List.append_nil]
    | cons c r =>
      rw [List.takeWhile_cons, if_neg (by rw [hhead c rfl]; exact Bool.false_ne_true),
        List.append_nil]
  have hsome : b :: w' ++ r ≠ [] := List.cons_ne_nil _ _
  unfold cmdDispatchLine
  rw [hr, hstart]
  dsimp only
  rw [if_neg hsome, hname, List.drop_left, hargs]
  rfl

/-! ## What SETTOKEN leaves -/

/-- What happens to the token: a line is given to the dispatcher, on a connection with its flag and
with the NVS answering as it likes; or the device restarts. -/
inductive TokenEv where
  | line (n : AuthNvs) (line : Bytes) (authed : Bool)
  | reboot

/-- The reply to a line that calls neither handler is left out. -/
def AuthStore.line (n : AuthNvs) (line : Bytes) (authed : Bool) (s : AuthStore) :
    Option Bytes × AuthStore :=
  match cmdDispatchLine line authed with
  | .ignored => (none, s)
  | .replied text => (some text, s)
  | .called entry args =>
    match entry.fn with
    | .auth => let (_, text, s) := cmdAuth n args authed s; (some text, s)
    | .settoken => let (text, s) := cmdSettoken n args authed s; (some text, s)
    | _ => (none, s)

/-- The store after the event. A restart loses what is only in RAM. -/
def AuthStore.step (s : AuthStore) : TokenEv → AuthStore
  | .line n line authed => (s.line n line authed).2
  | .reboot => .boot s.nvs

/-- `cmdLine` does this to the store. -/
theorem cmdLine_auth (x : CmdAnswers) (xport : CmdXport) (line : Bytes) (authed : Bool)
    (s : CmdState) :
    (cmdLine x xport line authed s).state.auth = (s.auth.line x.nvs line authed).2 := by
  unfold cmdLine AuthStore.line
  cases cmdDispatchLine line authed with
  | ignored | replied => rfl
  | called entry args =>
    dsimp only
    cases entry.fn <;> rfl

/-- And these are its replies. -/
theorem lineAnswer_of_line (ready : Bool) (x : CmdAnswers) (v : ImageAnswers) {line : Bytes}
    {authed : Bool} {s : CmdState} {text : Bytes}
    (h : (s.auth.line x.nvs line authed).1 = some text) :
    lineAnswer ready x v line authed s = some (.now text) := by
  unfold AuthStore.line at h
  unfold lineAnswer
  cases hd : cmdDispatchLine line authed with
  | ignored =>
    rw [hd] at h
    cases h
  | replied =>
    rw [hd] at h
    cases h
    rfl
  | called entry args =>
    rw [hd] at h
    dsimp only at h ⊢
    cases hfn : entry.fn <;> rw [hfn] at h <;> cases h <;> rfl

/-- Should the token be loaded now, the NVS returns the string it holds. -/
def AuthStore.Reloads (n : AuthNvs) (s : AuthStore) : Prop :=
  s.loaded = true ∨ s.nvs = none ∨ (n.openRead = true ∧ n.getStr = true)

/-- The event is a SETTOKEN that replies `OK`. -/
def AuthStore.Saves (s : AuthStore) : TokenEv → Prop
  | .line n line authed => ∃ entry args, cmdDispatchLine line authed = .called entry args ∧
      entry.fn = .settoken ∧ (cmdSettoken n args authed s).1 = lit "OK\n"
  | .reboot => False

/-- No token is saved, the NVS returns what it holds, and what was not committed is not kept. -/
def AuthStore.Quiet (s : AuthStore) (ev : TokenEv) : Prop :=
  ¬ s.Saves ev ∧
    match ev with
    | .line n _ _ => s.Reloads n ∧ n.kept = false
    | .reboot => True

/-- Every call succeeds, and what is not committed is not kept. -/
def AuthNvs.committing : AuthNvs := ⟨true, true, true, true, true, false⟩

/-- A SETTOKEN does not lock its owner out. After `OK`, its argument is what AUTH accepts, on any
connection and through restarts, until the next token is saved; after anything else, no line is
answered differently, now or later. -/
def SettokenSafe (t : Bytes) (n : AuthNvs) (authed : Bool) (s : AuthStore) : Prop :=
  let r := s.line n (lit "settoken " ++ t) authed
  (r.1 = some (lit "OK\n") → ∀ evs, Run.Along AuthStore.step AuthStore.Quiet r.2 evs →
    ∀ n' authed', (Run.exec AuthStore.step r.2 evs).Reloads n' →
      ((Run.exec AuthStore.step r.2 evs).line n' (lit "auth " ++ t) authed').1 =
        some (lit "OK\n")) ∧
  (r.1 ≠ some (lit "OK\n") → ∀ evs n' line' authed',
    ((Run.exec AuthStore.step r.2 evs).line n' line' authed').1 =
      ((Run.exec AuthStore.step s evs).line n' line' authed').1)

/-- The argument has at most 64 bytes, or its 65th one is blank. -/
def SettokenFits (t : Bytes) : Prop := ∀ c ∈ (cmdArg t)[64]?, isBlank c = true

/-- What `cmd_settoken` stores fits `s_auth_token`. -/
theorem length_trim_take (args : Bytes) : (trimTrailing (args.take 64)).length ≤ 64 :=
  (List.rdropWhile_prefix isBlank (args.take 64)).length_le.trans (List.length_take_le _ _)

/-- `cmd_settoken` saves the first 64 bytes, trimmed, or changes nothing. -/
theorem cmdSettoken_cases {n : AuthNvs} (hkept : n.kept = false) (args : Bytes) (authed : Bool)
    (s : AuthStore) :
    ((cmdSettoken n args authed s).1 = lit "OK\n" ∧ (cmdSettoken n args authed s).2 =
      ⟨trimTrailing (args.take 64), true, some (trimTrailing (args.take 64))⟩) ∨
    ((cmdSettoken n args authed s).1 ≠ lit "OK\n" ∧ (cmdSettoken n args authed s).2 = s) := by
  have hlen := length_trim_take args
  unfold cmdSettoken
  split
  · exact .inr ⟨(by decide : lit "DENIED\n" ≠ lit "OK\n"), rfl⟩
  · split
    · exact .inr ⟨(by decide : lit "usage: SETTOKEN <newtoken>\n" ≠ lit "OK\n"), rfl⟩
    · dsimp only
      split
      · exact .inr ⟨(by decide : lit "ERR empty token\n" ≠ lit "OK\n"), rfl⟩
      · rw [if_neg (by omega)]
        unfold authTokenSave
        split
        · exact .inr ⟨(by decide : lit "ERR\n" ≠ lit "OK\n"), rfl⟩
        · split
          · exact .inr ⟨(by decide : lit "ERR\n" ≠ lit "OK\n"), by simp [hkept]⟩
          · exact .inl ⟨rfl, by rw [List.take_of_length_le hlen]⟩

/-- With a connection that is authenticated, an argument and an NVS that works, it saves. -/
theorem cmdSettoken_ok {args : Bytes} (hne : ∃ c ∈ args.head?, isBlank c = false)
    (s : AuthStore) {n : AuthNvs} (hopen : n.openWrite = true) (hset : n.setStr = true)
    (hcommit : n.commit = true) : (cmdSettoken n args true s).1 = lit "OK\n" := by
  obtain ⟨c, hc, hblank⟩ := hne
  obtain ⟨rest, rfl⟩ : ∃ rest, args = c :: rest := List.head?_eq_some_iff.mp hc
  have htok : trimTrailing ((c :: rest).take 64) ≠ [] := by
    intro hnil
    have := trimTrailing_eq_nil.mp hnil c (by rw [List.take_succ_cons]; exact List.mem_cons_self)
    rw [hblank] at this
    cases this
  have hlen := length_trim_take (c :: rest)
  have hfit : ¬ 65 ≤ (trimTrailing ((c :: rest).take 64)).length := by omega
  simp only [cmdSettoken, Bool.not_true, Bool.false_eq_true, if_false,
    if_neg (List.cons_ne_nil _ _), if_neg htok, if_neg hfit, authTokenSave, hopen, hset, hcommit,
    Bool.or_self, if_true]

/-- What AUTH compares is what SETTOKEN stored, when the 65th byte does not matter. -/
theorem authArg_of_fits {args : Bytes} (h : ∀ c ∈ args[64]?, isBlank c = true) :
    authArg args = trimTrailing (args.take 64) := by
  have htake : args.take 65 = args.take 64 ++ args[64]?.toList := List.take_add_one
  rw [authArg, htake, trimTrailing_append, if_pos]
  exact trimTrailing_eq_nil.mpr fun c hc => h c (Option.mem_toList.mp hc)

/-- It is not, when the 65th byte is not blank. -/
theorem authArg_of_not_fits {args : Bytes} {c : UInt8} (hc : args[64]? = some c)
    (hblank : isBlank c = false) : (authArg args).length = 65 := by
  have htake : args.take 65 = args.take 64 ++ [c] := by
    rw [List.take_add_one, hc]
    rfl
  have htrim : trimTrailing (args.take 65) = args.take 65 := by
    rw [htake]
    refine trimTrailing_of_getLast fun d hd => ?_
    rw [List.getLast?_append] at hd
    cases hd
    exact hblank
  obtain ⟨hlt, -⟩ := List.getElem?_eq_some_iff.mp hc
  rw [authArg, htrim, List.length_take]
  omega

/-- A SETTOKEN line and an AUTH line with the same rest call their handlers with one argument. -/
theorem cmdDispatchLine_settoken (t : Bytes) (authed : Bool) :
    cmdDispatchLine (lit "settoken " ++ t) authed =
      if !authed then .replied (lit "DENIED\n")
      else .called ⟨lit "settoken", true, .settoken⟩ (cmdArg t) :=
  cmdDispatchLine_word (w := lit "settoken") (by decide) (by decide +kernel) t authed

theorem cmdDispatchLine_auth (t : Bytes) (authed : Bool) :
    cmdDispatchLine (lit "auth " ++ t) authed =
      .called ⟨lit "auth", false, .auth⟩ (cmdArg t) :=
  cmdDispatchLine_word (w := lit "auth") (by decide) (by decide +kernel) t authed

/-- A SETTOKEN line is refused, or runs its handler. -/
theorem line_settoken (t : Bytes) (n : AuthNvs) (authed : Bool) (s : AuthStore) :
    s.line n (lit "settoken " ++ t) authed =
      if !authed then (some (lit "DENIED\n"), s)
      else (some (cmdSettoken n (cmdArg t) authed s).1, (cmdSettoken n (cmdArg t) authed s).2) := by
  unfold AuthStore.line
  rw [cmdDispatchLine_settoken]
  cases authed <;> rfl

/-- An AUTH line loads the token and compares its argument with it. -/
theorem line_auth (t : Bytes) (n : AuthNvs) (authed : Bool) (s : AuthStore) :
    s.line n (lit "auth " ++ t) authed =
      (some (if authArg (cmdArg t) = (authTokenLoad n s).token then lit "OK\n"
        else lit "DENIED\n"), authTokenLoad n s) := by
  unfold AuthStore.line
  rw [cmdDispatchLine_auth]
  dsimp only [cmdAuth]
  split <;> rfl

/-- The token saved last is `token`: the NVS holds it, and so does the RAM once it is loaded. -/
structure Settled (token : Bytes) (s : AuthStore) : Prop where
  fits : token.length ≤ 64
  nvs : s.nvs = some token
  ram : s.loaded = true → s.token = token

/-- It is the token that AUTH compares with. -/
theorem Settled.load {token : Bytes} {s : AuthStore} (h : Settled token s) {n : AuthNvs}
    (hn : s.Reloads n) :
    (authTokenLoad n s).token = token ∧ Settled token (authTokenLoad n s) := by
  cases hl : s.loaded with
  | true =>
    rw [show authTokenLoad n s = s from if_pos hl]
    exact ⟨h.ram hl, h⟩
  | false =>
    obtain ⟨hopen, hget⟩ : n.openRead = true ∧ n.getStr = true := by
      rcases hn with hl' | hnone | hn
      · rw [hl] at hl'
        cases hl'
      · rw [h.nvs] at hnone
        cases hnone
      · exact hn
    have hload : authTokenLoad n s = ⟨token, true, some token⟩ := by
      simp [authTokenLoad, hl, hopen, hget, h.nvs, Option.filter, Nat.lt_succ_of_le h.fits]
    rw [hload]
    exact ⟨rfl, h.fits, rfl, fun _ => rfl⟩

/-- **It stays so** as long as no other token is saved. -/
theorem Settled.step {token : Bytes} {s : AuthStore} (h : Settled token s) {ev : TokenEv}
    (hev : s.Quiet ev) : Settled token (s.step ev) := by
  cases ev with
  | reboot => exact ⟨h.fits, h.nvs, fun hl => nomatch hl⟩
  | line n line authed =>
    obtain ⟨hsave, hn, hkept⟩ := hev
    change Settled token (s.line n line authed).2
    unfold AuthStore.line
    cases hd : cmdDispatchLine line authed with
    | ignored | replied => exact h
    | called entry args =>
      dsimp only
      cases hfn : entry.fn with
      | auth =>
        have hstore : (cmdAuth n args authed s).2.2 = authTokenLoad n s := by
          unfold cmdAuth
          dsimp only
          split <;> rfl
        change Settled token (cmdAuth n args authed s).2.2
        rw [hstore]
        exact (h.load hn).2
      | settoken =>
        rcases cmdSettoken_cases hkept args authed s with ⟨hok, -⟩ | ⟨-, hsame⟩
        · exact absurd ⟨entry, args, hd, hfn, hok⟩ hsave
        · change Settled token (cmdSettoken n args authed s).2
          rw [hsame]
          exact h
      | _ => exact h

/-- The argument of a line begins with no blank. -/
theorem head_cmdArg {t : Bytes} {c : UInt8} (h : (cmdArg t)[64]? = some c) :
    ∃ b ∈ (cmdArg t).head?, isBlank b = false := by
  obtain ⟨b, rest, hargs⟩ : ∃ b rest, cmdArg t = b :: rest := by
    refine List.exists_cons_of_ne_nil fun hnil => ?_
    rw [hnil] at h
    cases h
  have hhead : (untilNul (lskipN (rtrimN t))).head? = some b := congrArg List.head? hargs
  rw [untilNul, List.head?_takeWhile, Option.filter_eq_some_iff] at hhead
  exact ⟨b, by rw [hargs]; rfl, head?_dropWhile_of b hhead.1⟩

/-- **When a token change is safe**: for an argument of at most 64 bytes, or with a blank 65th
byte, whatever the store, the connection and the NVS. Any longer argument is stored cut, and AUTH
then refuses it. -/
theorem settoken_safe_iff (t : Bytes) :
    (∀ n authed s, n.kept = false → SettokenSafe t n authed s) ↔ SettokenFits t := by
  constructor
  · intro hsafe c hc
    by_contra hblank
    rw [Bool.not_eq_true] at hblank
    have hok := cmdSettoken_ok (n := .committing) (head_cmdArg hc) (.boot none) rfl rfl rfl
    have hstore := ((cmdSettoken_cases rfl (cmdArg t) true (.boot none)).resolve_right
      fun hne => hne.1 hok).2
    have hauth := (hsafe .committing true (.boot none) rfl).1
    rw [line_settoken] at hauth
    have hreply := hauth (congrArg some hok) [] trivial .committing false
      (.inl (by rw [Run.exec_nil]; exact congrArg AuthStore.loaded hstore))
    rw [Run.exec_nil, line_auth] at hreply
    simp only [Bool.not_true, Bool.false_eq_true, if_false, hstore] at hreply
    have hne : authArg (cmdArg t) ≠ trimTrailing ((cmdArg t).take 64) := by
      intro heq
      have hlen := length_trim_take (cmdArg t)
      rw [← heq, authArg_of_not_fits hc hblank] at hlen
      omega
    have htoken : ∀ token, (authTokenLoad .committing ⟨token, true, some token⟩).token = token :=
      fun _ => rfl
    rw [htoken, if_neg hne] at hreply
    exact absurd (Option.some.inj hreply) (by decide)
  · intro hfits n authed s hkept
    unfold SettokenSafe
    rw [line_settoken]
    cases authed with
    | false => exact ⟨fun h => absurd (Option.some.inj h) (by decide), fun _ _ _ _ _ => rfl⟩
    | true =>
      simp only [Bool.not_true, Bool.false_eq_true, if_false]
      rcases cmdSettoken_cases hkept (cmdArg t) true s with ⟨hok, hstore⟩ | ⟨hne, hsame⟩
      · refine ⟨fun _ evs hquiet n' authed' hn' => ?_, fun h => absurd (congrArg some hok) h⟩
        have hsettled : Settled (trimTrailing ((cmdArg t).take 64))
            (cmdSettoken n (cmdArg t) true s).2 := by
          rw [hstore]
          exact ⟨length_trim_take _, rfl, fun _ => rfl⟩
        have hrun := hquiet.exec_inv hsettled fun _ _ h hev => h.step hev
        rw [line_auth, (hrun.load hn').1, authArg_of_fits hfits, if_pos rfl]
      · rw [hsame]
        exact ⟨fun h => absurd (Option.some.inj h) hne, fun _ _ _ _ _ => rfl⟩

/-- 65 letters: stored as 64 of them. -/
def longToken : Bytes := List.replicate 65 97

/-- They are accepted as a new token and then refused, in the same boot. -/
theorem not_settoken_safe_long :
    (lit "settoken " ++ longToken).length ≤ 127 ∧
      ¬ SettokenSafe longToken .committing true (.boot none) := by
  refine ⟨by decide, fun h => ?_⟩
  have hreply := h.1 (by decide +kernel) [] trivial .committing false (.inl (by decide +kernel))
  exact absurd hreply (by decide +kernel)

end RemoteControl
