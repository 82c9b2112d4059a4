import RemoteControl.Net.Wifi

/-!
# One loss of the link, two events (`wifi_event.c`)

The driver reports a lost link by STA_DISCONNECTED, and the IP layer may report the same loss by
STA_LOST_IP. `got_ip_lost` leaves the second report out if the error source still holds a Wi-Fi
failure, for which it compares the code with five of the seven codes that `wifi_evt` can have set.
`LossWatch` follows a run of the control plane with the disconnect that is still open, and
`outage_counted_once_iff` says for which runs an outage is counted once.
-/

namespace RemoteControl

open CString

/-! ## The open disconnect -/

/-- A run of the control plane, with the reason of the latest STA_DISCONNECTED since the last GOT_IP
as long as no reconnect has been attempted after it, and whether STA_START or `wifi_set_credentials`
has set the error source since that disconnect. -/
structure LossWatch where
  ctl : Control
  lost : Option DisconnectReason
  renamed : Bool

/-- The watch at boot. -/
def LossWatch.boot (cfg : StaCfg) (nvsSsid nvsPwd : Option Bytes) (postRb : Option Nat) :
    LossWatch :=
  ⟨.boot cfg nvsSsid nvsPwd postRb, none, false⟩

/-- The open disconnect after an event. A reconnect is attempted where the reconnect timer
expires. -/
def LossWatch.lostAfter (w : LossWatch) : ControlEv → Option DisconnectReason
  | .staDisconnected reason => some reason
  | .gotIp => none
  | .reconnTimer => if w.ctl.wifi.reconn.isSome then none else w.lost
  | .staStart | .staStop | .wifiOther | .lostIp | .tcpTimer | .setwifi _ _ | .tcpAuth
  | .bleOtaStart | .worker => w.lost

/-- Whether the error source has been set by others after an event. -/
def LossWatch.renamedAfter (w : LossWatch) (a : Answers) : ControlEv → Bool
  | .staDisconnected _ => false
  | .staStart => true
  | .setwifi _ _ => w.renamed || a.credOpen && (a.credSsid && a.credPwd && a.credCommit)
  | .gotIp | .reconnTimer | .staStop | .wifiOther | .lostIp | .tcpTimer | .tcpAuth
  | .bleOtaStart | .worker => w.renamed

/-- One step of the control plane, watched. -/
def LossWatch.step (w : LossWatch) (i : ControlIn) : LossWatch :=
  if w.ctl.halted then w
  else ⟨w.ctl.step i, w.lostAfter i.ev, w.renamedAfter i.ans i.ev⟩

/-- Watching changes nothing. -/
theorem LossWatch.ctl_exec (w : LossWatch) (is : List ControlIn) :
    (Run.exec LossWatch.step w is).ctl = Run.exec Control.step w.ctl is := by
  have hstep : ∀ (w : LossWatch) i, (w.step i).ctl = w.ctl.step (id i) := by
    intro w i
    unfold LossWatch.step
    split
    · next h => rw [Control.step, if_pos h]
    · rfl
  have hmap := Run.exec_map hstep w is
  rwa [List.map_id] at hmap

/-- A LOST_IP behind an open disconnect leaves the code and the string of that disconnect and the
failure streak, and asks for no recovery. -/
def LossWatch.CountedOnce (w : LossWatch) (i : ControlIn) : Prop :=
  ∀ reason, w.lost = some reason → w.ctl.halted = false → i.ev = .lostIp →
    errsrcGetCode (w.ctl.step i).errsrc = reason.toErrSrc ∧
    errsrcGet (w.ctl.step i).errsrc = errsrcToString reason.toErrSrc ∧
    (w.ctl.step i).sys.monitor.failStreak = w.ctl.sys.monitor.failStreak ∧
    (w.ctl.step i).sys.sysQ = w.ctl.sys.sysQ

/-- A LOST_IP comes behind an open disconnect only if the reason is one whose code `got_ip_lost`
knows, and nothing else has set the error source since; and if the mode is NORMAL, which the LOST_IP
leaves for a monitor started anew, then with a streak of 0. -/
def LossWatch.Reconciled (w : LossWatch) (i : ControlIn) : Prop :=
  ∀ reason, w.lost = some reason → w.ctl.halted = false → i.ev = .lostIp →
    isWifiFailure reason.toErrSrc = true ∧ w.renamed = false ∧
    (w.ctl.sys.mode = .normal → w.ctl.sys.monitor.failStreak = 0)

/-- The error source holds the open disconnect, or a name that stands for no Wi-Fi failure. -/
structure LossWatch.Inv (w : LossWatch) : Prop where
  fits : CodeFits w.ctl.errsrc
  held : ∀ reason, w.lost = some reason → w.renamed = false →
    w.ctl.errsrc.err = errsrcToString reason.toErrSrc
  other : ∀ reason, w.lost = some reason → w.renamed = true →
    isWifiFailure (strToEnum w.ctl.errsrc.err) = false

/-- What neither sets the error source nor opens a disconnect keeps the books. -/
theorem LossWatch.Inv.keep {w w' : LossWatch} (h : w.Inv)
    (herr : w'.ctl.errsrc = w.ctl.errsrc)
    (hlost : ∀ reason, w'.lost = some reason → w.lost = some reason)
    (hren : w'.renamed = w.renamed) : w'.Inv where
  fits := herr ▸ h.fits
  held reason hopen hnot := herr ▸ h.held reason (hlost reason hopen) (hren ▸ hnot)
  other reason hopen hset := herr ▸ h.other reason (hlost reason hopen) (hren ▸ hset)

/-- The code is that of the open disconnect, or not a Wi-Fi failure's. -/
theorem LossWatch.Inv.code {w : LossWatch} (h : w.Inv) {reason : DisconnectReason}
    (hopen : w.lost = some reason) :
    isWifiFailure (errsrcGetCode w.ctl.errsrc) =
      (isWifiFailure reason.toErrSrc && !w.renamed) := by
  rw [errsrcGetCode, h.fits.code]
  cases hren : w.renamed
  · rw [h.held reason hopen hren, strToEnum_errsrcToString, Bool.not_false, Bool.and_true]
  · rw [h.other reason hopen hren, Bool.not_true, Bool.and_false]

/-- So does a name that others have set, and that stands for no Wi-Fi failure. -/
theorem LossWatch.inv_renamed {w : LossWatch} (hfits : CodeFits w.ctl.errsrc)
    (hren : w.renamed = true) (hname : isWifiFailure (strToEnum w.ctl.errsrc.err) = false) :
    w.Inv := by
  refine ⟨hfits, fun _ _ hnot => ?_, fun _ _ _ => hname⟩
  cases hren.symm.trans hnot

/-- The code of what a call has set. -/
theorem CodeFits.strToEnum_call {st : Errsrc} (h : CodeFits st) (call : ErrsrcCall) :
    strToEnum (st.call call).err = strToEnum (call.text.getD st.err) :=
  congrArg strToEnum (h.call call).2

/-- A watched step keeps the books if a LOST_IP in it is reconciled. -/
theorem LossWatch.Inv.step {w : LossWatch} (h : w.Inv) {i : ControlIn} (hok : w.Reconciled i) :
    (w.step i).Inv := by
  unfold LossWatch.step
  split
  · exact h
  · next hruns =>
    have hruns' : w.ctl.halted = false := by rwa [Bool.not_eq_true] at hruns
    have hfits := Control.codeFits_step h.fits i
    obtain ⟨ev, a⟩ := i
    have herr : (w.ctl.step ⟨ev, a⟩).errsrc =
        ((w.ctl.errsrcCall a ev).map w.ctl.errsrc.call).getD w.ctl.errsrc := by
      rw [Control.step, if_neg hruns, Control.errsrc_handle]
    cases ev with
    | staDisconnected reason =>
      refine ⟨hfits, ?_, nofun⟩
      rintro _ ⟨⟩ -
      exact (congrArg Errsrc.err herr).trans (h.fits.setEnum reason.toErrSrc).2
    | gotIp => exact ⟨hfits, nofun, nofun⟩
    | staStart =>
      refine LossWatch.inv_renamed hfits rfl ?_
      refine (congrArg (fun st : Errsrc => isWifiFailure (strToEnum st.err)) herr).trans ?_
      rw [Control.errsrcCall, Option.map_some, Option.getD_some]
      rw [h.fits.strToEnum_call]
      split <;> rfl
    | setwifi ssid pwd =>
      rw [Control.errsrcCall] at herr
      cases hset : a.credOpen && (a.credSsid && a.credPwd && a.credCommit)
      · rw [hset] at herr
        refine h.keep herr (fun _ hopen => hopen) ?_
        simp only [LossWatch.renamedAfter, hset, Bool.or_false]
      · rw [hset] at herr
        refine LossWatch.inv_renamed hfits ?_ ?_
        · simp only [LossWatch.renamedAfter, hset, Bool.or_true]
        · refine (congrArg (fun st : Errsrc => isWifiFailure (strToEnum st.err)) herr).trans ?_
          exact congrArg isWifiFailure (h.fits.strToEnum_call (.set (some (lit "TRYING"))))
    | lostIp =>
      cases hopen : w.lost with
      | none =>
        refine ⟨hfits, fun reason hlost => ?_, fun reason hlost => ?_⟩
        · cases hopen.symm.trans hlost
        · cases hopen.symm.trans hlost
      | some reason =>
        obtain ⟨hknown, hren, -⟩ := hok reason hopen hruns' rfl
        have hcode : isWifiFailure (errsrcGetCode w.ctl.errsrc) = true := by
          rw [h.code hopen, hknown, hren]
          rfl
        rw [Control.errsrcCall, if_pos hcode] at herr
        exact h.keep herr (fun _ hlost => hlost) rfl
    | reconnTimer =>
      refine h.keep herr (fun reason hlost => ?_) rfl
      rw [LossWatch.lostAfter] at hlost
      split at hlost
      · cases hlost
      · exact hlost
    | staStop | wifiOther | tcpTimer | tcpAuth | bleOtaStart | worker =>
      exact h.keep herr (fun _ hlost => hlost) rfl

/-- `syscoord_on_wifi_state(false)` leaves the streak, except that the mode NORMAL is left for a
monitor started anew. -/
theorem failStreak_wifiState (a : Answers) (s : Syscoord) :
    (syscoordOnWifiState a false s).monitor.failStreak =
      if s.mode = .normal then 0 else s.monitor.failStreak := by
  have hdown : (!false) = true := rfl
  rw [syscoordOnWifiState, if_pos hdown]
  dsimp only
  split
  · next hmode =>
    have hleave : ¬ s.mode = .waitControl := by
      rw [hmode]
      decide
    rw [setMode, if_neg hleave]
    rfl
  · rfl

/-- What a LOST_IP does behind an open disconnect. -/
theorem LossWatch.Inv.countedOnce_iff {w : LossWatch} (h : w.Inv) (i : ControlIn) :
    w.CountedOnce i ↔ w.Reconciled i := by
  obtain ⟨ev, a⟩ := i
  refine forall_congr' fun reason => ?_
  refine imp_congr_right fun hopen => imp_congr_right fun hruns => imp_congr_right fun hev => ?_
  cases hev
  have hruns' : ¬ w.ctl.halted = true := by rwa [Bool.not_eq_true]
  rw [Control.step, if_neg hruns', Control.handle]
  have hcode := h.code hopen
  cases hfail : isWifiFailure (errsrcGetCode w.ctl.errsrc) with
  | true =>
    obtain ⟨hknown, hren⟩ : isWifiFailure reason.toErrSrc = true ∧ w.renamed = false := by
      simpa [hfail] using hcode
    have herr := h.held reason hopen hren
    have hget : errsrcGetCode w.ctl.errsrc = reason.toErrSrc := by
      rw [errsrcGetCode, h.fits.code, herr, strToEnum_errsrcToString]
    rw [Control.gotIpLost_of_failure a hfail]
    simp only [Control.onWifiState, hget, errsrcGet, herr, failStreak_wifiState, sysQ_wifiState,
      hknown, hren, true_and, and_true]
    split
    · next hmode => simp [hmode, eq_comm]
    · next hmode => simp [hmode]
  | false =>
    have hlost := Control.errsrc_gotIpLost a hfail
    constructor
    · rintro ⟨hget, -⟩
      rw [hlost, errsrcGetCode_setEnum] at hget
      exact absurd hget.symm (by cases reason <;> decide)
    · rintro ⟨hknown, hren, -⟩
      rw [hfail, hknown, hren] at hcode
      exact absurd hcode (by decide)

/-- **When an outage is counted once.** In every run of the control plane: a LOST_IP behind a
disconnect that no reconnect attempt has followed changes nothing that the disconnect has recorded,
exactly if `got_ip_lost` knows the code of the reason, the error source has not been set by others
since, and the mode NORMAL is not left with a streak. -/
theorem outage_counted_once_iff (cfg : StaCfg) (nvsSsid nvsPwd : Option Bytes)
    (postRb : Option Nat) (is : List ControlIn) :
    Run.Along LossWatch.step LossWatch.CountedOnce (.boot cfg nvsSsid nvsPwd postRb) is ↔
      Run.Along LossWatch.step LossWatch.Reconciled (.boot cfg nvsSsid nvsPwd postRb) is := by
  have hfits : CodeFits Errsrc.init := ⟨by decide, by decide, by decide⟩
  have hboot : (LossWatch.boot cfg nvsSsid nvsPwd postRb).Inv := ⟨hfits, nofun, nofun⟩
  exact Run.along_congr hboot (fun w i h hok => h.step hok) (fun w i h => h.countedOnce_iff i) is

/-- One loss, reported as an expired authentication and as a lost address, is recorded twice. -/
theorem lost_ip_counted_twice :
    ¬ Run.Along LossWatch.step LossWatch.CountedOnce (.boot ⟨[104], [], true⟩ none none none)
      [⟨.gotIp, .factory⟩, ⟨.staDisconnected .authExpire, .factory⟩, ⟨.lostIp, .factory⟩] := by
  rintro ⟨-, -, h, -⟩
  exact absurd (h .authExpire rfl (by decide +kernel) rfl).1 (by decide +kernel)

end RemoteControl
