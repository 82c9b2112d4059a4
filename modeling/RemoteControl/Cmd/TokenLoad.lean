import RemoteControl.Cmd.Token

/-!
# The default token and the stored one (`cmd_auth.c`)

`s_auth_token` begins every boot with `APP_DEFAULT_AUTH_TOKEN`, and `auth_token_load` reads the
stored token over it at the first AUTH. It ignores what `nvs_open` and `nvs_get_str` return, and
does not come back, so after a load that failed AUTH compares with the default for the rest of the
boot, whatever has been saved. `TokenWatch` follows a run with the token that was saved last and
with the outcome of this boot's load, and `auth_saved_iff` says when AUTH accepts only the former.
-/

namespace RemoteControl

open CString

/-! ## Histories -/

/-- A string whose commit fails is not durable, so that a SETTOKEN that is refused leaves nothing
behind. -/
def TokenEv.Clean : TokenEv → Prop
  | .line n _ _ => n.kept = false
  | .reboot => True

/-- Lines, with any flag and any answers of the NVS, and restarts. -/
abbrev CleanTokenEv := { ev : TokenEv // ev.Clean }

/-- The token that the event saves: that of a SETTOKEN that replies `OK`. -/
def AuthStore.savedBy (s : AuthStore) : TokenEv → Option Bytes
  | .line n line authed =>
    match cmdDispatchLine line authed with
    | .called entry args =>
      if entry.fn = .settoken ∧ (cmdSettoken n args authed s).1 = lit "OK\n" then
        some (trimTrailing (args.take 64))
      else none
    | .ignored | .replied _ => none
  | .reboot => none

/-- The store, the token saved last by a SETTOKEN that replied `OK`, and whether the load of this
boot has failed and nothing has been saved since. -/
structure TokenWatch where
  store : AuthStore
  saved : Option Bytes
  missed : Bool

/-- A device on which no token was ever saved. -/
def TokenWatch.init : TokenWatch := ⟨.boot none, none, false⟩

/-- The load, of this boot or by this AUTH, has failed. -/
def TokenWatch.misses (w : TokenWatch) (n : AuthNvs) : Bool :=
  w.missed || !w.store.loaded && !(n.openRead && n.getStr)

/-- Whether the load has failed after the event. -/
def TokenWatch.missedAfter (w : TokenWatch) : TokenEv → Bool
  | .line n line authed =>
    match cmdDispatchLine line authed with
    | .called entry _ => if entry.fn = .auth then w.misses n else w.missed
    | .ignored | .replied _ => w.missed
  | .reboot => false

/-- One event, watched. -/
def TokenWatch.step (w : TokenWatch) (ev : CleanTokenEv) : TokenWatch :=
  match w.store.savedBy ev.1 with
  | some token => ⟨w.store.step ev.1, some token, false⟩
  | none => ⟨w.store.step ev.1, w.saved, w.missedAfter ev.1⟩

/-- The token that AUTH ought to accept. -/
def TokenWatch.expected (w : TokenWatch) : Bytes := w.saved.getD appDefaultAuthToken

/-- The NVS holds the token saved last, and the RAM holds it once it has been loaded; before that,
and when the load has failed, the default. -/
structure TokenWatch.Inv (w : TokenWatch) : Prop where
  nvs : w.store.nvs = w.saved
  fits : ∀ token ∈ w.saved, token.length ≤ 64
  ram : w.store.token = if w.store.loaded = true ∧ w.missed = false then w.expected
    else appDefaultAuthToken
  missed : w.missed = true → w.store.loaded = true

/-- Every token that is saved fits `s_auth_token`. -/
theorem TokenWatch.Inv.length_expected {w : TokenWatch} (h : w.Inv) : w.expected.length ≤ 64 := by
  unfold TokenWatch.expected
  cases hsaved : w.saved with
  | none => decide
  | some token => exact h.fits token hsaved

/-- The string that the NVS returns is the token saved last, if any. -/
theorem TokenWatch.Inv.stored {w : TokenWatch} (h : w.Inv) :
    w.store.nvs.filter (·.length < 65) = w.saved := by
  rw [h.nvs]
  cases hsaved : w.saved with
  | none => rfl
  | some token =>
    have hlt : token.length < 65 := Nat.lt_succ_of_le (h.fits token hsaved)
    rw [Option.filter_some, if_pos (decide_eq_true hlt)]

/-- **What an AUTH compares with**, and what it leaves. -/
theorem TokenWatch.Inv.load {w : TokenWatch} (h : w.Inv) (n : AuthNvs) :
    authTokenLoad n w.store =
      ⟨if w.misses n then appDefaultAuthToken else w.expected, true, w.saved⟩ := by
  have hram := h.ram
  have hnvs := h.nvs
  have hstored := h.stored
  obtain ⟨⟨token, loaded, nvs⟩, saved, missed⟩ := w
  dsimp only at hram hnvs hstored
  cases loaded with
  | true =>
    rw [authTokenLoad, if_pos rfl, hram, hnvs]
    cases missed <;> rfl
  | false =>
    have hmissed : missed = false := by
      rw [← Bool.not_eq_true]
      intro habs
      exact Bool.false_ne_true (h.missed habs)
    rw [if_neg fun habs => Bool.false_ne_true habs.1] at hram
    rw [authTokenLoad, if_neg Bool.false_ne_true, hmissed]
    dsimp only [TokenWatch.misses]
    rw [hstored, hram, hnvs]
    obtain ⟨openRead, getStr, -⟩ := n
    cases openRead <;> cases getStr <;> rfl

/-- An AUTH keeps the books. -/
theorem TokenWatch.Inv.auth {w : TokenWatch} (h : w.Inv) (n : AuthNvs) :
    TokenWatch.Inv ⟨authTokenLoad n w.store, w.saved, w.misses n⟩ := by
  rw [h.load n]
  refine ⟨rfl, h.fits, ?_, fun _ => rfl⟩
  dsimp only
  cases w.misses n <;> rfl

/-- A token that is saved is the one in the NVS and in RAM. -/
theorem TokenWatch.inv_saved {token : Bytes} (hlen : token.length ≤ 64) :
    TokenWatch.Inv ⟨⟨token, true, some token⟩, some token, false⟩ := by
  refine ⟨rfl, ?_, rfl, nofun⟩
  rintro _ ⟨⟩
  exact hlen

/-- **What a step can do**: restart, load the token, save one, or nothing. -/
theorem TokenWatch.step_cases (w : TokenWatch) (ev : CleanTokenEv) :
    w.step ev = ⟨.boot w.store.nvs, w.saved, false⟩ ∨
    (∃ n, w.step ev = ⟨authTokenLoad n w.store, w.saved, w.misses n⟩) ∨
    (∃ token : Bytes, token.length ≤ 64 ∧
      w.step ev = ⟨⟨token, true, some token⟩, some token, false⟩) ∨
    w.step ev = w := by
  obtain ⟨ev, hclean⟩ := ev
  cases ev with
  | reboot => exact .inl rfl
  | line n line authed =>
    have hstep : w.step ⟨.line n line authed, hclean⟩ =
        match w.store.savedBy (.line n line authed) with
        | some token => ⟨w.store.step (.line n line authed), some token, false⟩
        | none => ⟨w.store.step (.line n line authed), w.saved,
            w.missedAfter (.line n line authed)⟩ := rfl
    simp only [AuthStore.savedBy, TokenWatch.missedAfter, AuthStore.step, AuthStore.line] at hstep
    cases hd : cmdDispatchLine line authed with
    | ignored | replied =>
      rw [hd] at hstep
      exact .inr (.inr (.inr hstep))
    | called entry args =>
      simp only [hd] at hstep
      cases hfn : entry.fn with
      | auth =>
        have hstore : (cmdAuth n args authed w.store).2.2 = authTokenLoad n w.store := by
          unfold cmdAuth
          dsimp only
          split <;> rfl
        rw [hfn] at hstep
        refine .inr (.inl ⟨n, hstep.trans ?_⟩)
        rw [← hstore]
        rfl
      | settoken =>
        rw [hfn] at hstep
        rcases cmdSettoken_cases hclean args authed w.store with ⟨hok, hnew⟩ | ⟨hno, hold⟩
        · refine .inr (.inr (.inl ⟨_, length_trim_take args, hstep.trans ?_⟩))
          rw [if_pos ⟨rfl, hok⟩, hnew]
        · refine .inr (.inr (.inr (hstep.trans ?_)))
          rw [if_neg fun habs => hno habs.2, hold]
          rfl
      | _ =>
        rw [hfn] at hstep
        exact .inr (.inr (.inr hstep))

/-- **A step keeps the books.** -/
theorem TokenWatch.Inv.step {w : TokenWatch} (h : w.Inv) (ev : CleanTokenEv) : (w.step ev).Inv := by
  rcases w.step_cases ev with heq | ⟨n, heq⟩ | ⟨token, hlen, heq⟩ | heq
  · rw [heq]
    refine ⟨h.nvs, h.fits, ?_, nofun⟩
    exact (if_neg fun habs => Bool.false_ne_true habs.1).symm
  · rw [heq]
    exact h.auth n
  · rw [heq]
    exact TokenWatch.inv_saved hlen
  · rwa [heq]

/-! ## What AUTH accepts -/

/-- A line that calls `cmd_auth` with an argument is replied to with `OK` only if the argument,
trimmed, is the token saved last, or the default where none was ever saved. -/
def TokenWatch.AuthSaved (w : TokenWatch) (ev : CleanTokenEv) : Prop :=
  ∀ n line authed entry args, ev.1 = .line n line authed →
    cmdDispatchLine line authed = .called entry args → entry.fn = .auth →
    (w.store.line n line authed).1 = some (lit "OK\n") → trimTrailing args = w.expected

/-- The argument is not one that is cut to the token compared with; and if the load has failed, then
it is not the default, unless that is the token. -/
def TokenWatch.AuthLoaded (w : TokenWatch) (ev : CleanTokenEv) : Prop :=
  ∀ n line authed entry args, ev.1 = .line n line authed →
    cmdDispatchLine line authed = .called entry args → entry.fn = .auth →
    ¬ CutToToken args (if w.misses n then appDefaultAuthToken else w.expected) ∧
    (w.misses n = true → w.expected = appDefaultAuthToken ∨
      trimTrailing args ≠ appDefaultAuthToken)

/-- The reply to an AUTH. -/
theorem reply_auth {n : AuthNvs} {line : Bytes} {authed : Bool} {entry : CmdEntry} {args : Bytes}
    (hd : cmdDispatchLine line authed = .called entry args) (hfn : entry.fn = .auth)
    (s : AuthStore) :
    (s.line n line authed).1 = some (lit "OK\n") ↔ authArg args = (authTokenLoad n s).token := by
  have hdenied : lit "DENIED\n" ≠ lit "OK\n" := by decide
  simp only [AuthStore.line, hd, hfn, cmdAuth]
  split
  · next heq => exact iff_of_true rfl heq
  · next hne => exact iff_of_false (fun habs => hdenied (Option.some.inj habs)) hne

/-- **One AUTH.** -/
theorem TokenWatch.Inv.authSaved_iff {w : TokenWatch} (h : w.Inv) (ev : CleanTokenEv) :
    w.AuthSaved ev ↔ w.AuthLoaded ev := by
  refine forall_congr' fun n => forall_congr' fun line => forall_congr' fun authed =>
    forall_congr' fun entry => forall_congr' fun args => ?_
  refine imp_congr_right fun _ => imp_congr_right fun hd => imp_congr_right fun hfn => ?_
  rw [reply_auth hd hfn, h.load n]
  dsimp only
  have hexpected := h.length_expected
  have hfits : (if w.misses n then appDefaultAuthToken else w.expected).length ≤ 64 := by
    split
    · decide
    · exact hexpected
  have hcut : CutToToken args (if w.misses n then appDefaultAuthToken else w.expected) →
      trimTrailing args ≠ w.expected := by
    intro hcut heq
    have hlong := hcut.length_trim
    rw [heq] at hlong
    omega
  cases hmiss : w.misses n with
  | false =>
    simp only [hmiss, Bool.false_eq_true, if_false] at hfits hcut ⊢
    constructor
    · intro hacc
      exact ⟨fun habs => hcut habs (hacc habs.authArg_eq), nofun⟩
    · rintro ⟨hnot, -⟩ hauth
      exact ((authArg_cases hfits).resolve_right hnot).mp hauth
  | true =>
    simp only [hmiss, if_true] at hfits hcut ⊢
    constructor
    · intro hacc
      have hnot : ¬ CutToToken args appDefaultAuthToken :=
        fun habs => hcut habs (hacc habs.authArg_eq)
      refine ⟨hnot, fun _ => or_iff_not_imp_right.mpr fun hdefault => ?_⟩
      have htrim := not_not.mp hdefault
      have hauth := ((authArg_cases hfits).resolve_right hnot).mpr htrim
      exact (hacc hauth).symm.trans htrim
    · rintro ⟨hnot, hdefault⟩ hauth
      have htrim := ((authArg_cases hfits).resolve_right hnot).mp hauth
      rcases hdefault trivial with heq | hne
      · exact htrim.trans heq.symm
      · exact absurd htrim hne

/-- **When the default is no fallback.** In every run, from a device on which no token was ever
saved, of lines and restarts with any answers of the NVS: AUTH accepts only the token saved last, or
the default where none was saved, exactly if its argument is not cut to the token, and no AUTH after
a failed load has the default for its argument while another token is saved. -/
theorem auth_saved_iff (evs : List CleanTokenEv) :
    Run.Along TokenWatch.step TokenWatch.AuthSaved .init evs ↔
      Run.Along TokenWatch.step TokenWatch.AuthLoaded .init evs := by
  have hinit : TokenWatch.init.Inv := ⟨rfl, nofun, rfl, nofun⟩
  exact Run.along_congr hinit (fun w ev h _ => h.step ev) (fun w ev h => h.authSaved_iff ev) evs

/-- A token is saved, the device restarts, and `nvs_get_str` fails at the next AUTH: the default is
accepted. -/
theorem default_accepted_after_failed_load :
    ¬ Run.Along TokenWatch.step TokenWatch.AuthSaved .init
      [⟨.line .committing (lit "auth hunter2") false, rfl⟩,
        ⟨.line .committing (lit "settoken secret") true, rfl⟩, ⟨.reboot, trivial⟩,
        ⟨.line ⟨true, false, true, true, true, false⟩ (lit "auth hunter2") false, rfl⟩] := by
  rintro ⟨-, -, -, h, -⟩
  have hsaved := h _ _ _ ⟨lit "auth", false, .auth⟩ (lit "hunter2") rfl (by decide +kernel) rfl
    (by decide +kernel)
  exact absurd hsaved (by decide +kernel)

end RemoteControl
