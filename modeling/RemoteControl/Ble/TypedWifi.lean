import RemoteControl.Ble.HostCommands
import RemoteControl.Net.SessionRuns

/-!
# Credentials, from the BLE prompt to `wifi_set_credentials`

A `setwifi` line that is typed at the prompt of `ble_session` goes to the WIFI characteristic, the
device makes a line of its own of it, and that line is parsed again. A name and a password without
blanks and control characters that fit their fields come through unchanged (`ble_setwifi_stored`).
-/

namespace RemoteControl

open CString

/-- A typed `setwifi` with a name and a password that have no blanks and no control characters in
them and fit the fields of the driver. -/
structure TypedPair where
  text : List Char
  ssid : List Char
  pwd : List Char
  typed : bleLine text = .setwifi ssid pwd
  plain_ssid : ∀ c ∈ ssid, 32 < c.toNat
  plain_pwd : ∀ c ∈ pwd, 32 < c.toNat
  ssid_le : (pyEncode ssid).length ≤ 32
  pwd_le : (pyEncode pwd).length ≤ 64

/-! ## What is typed -/

/-- Neither part is empty. -/
theorem pySplitPair_ne_nil {line ssid pwd : List Char} (h : pySplitPair line = some (ssid, pwd)) :
    ssid ≠ [] ∧ pwd ≠ [] := by
  unfold pySplitPair at h
  dsimp only at h
  split at h
  · cases h
  · next hne =>
    cases h
    refine ⟨fun hnil => hne ?_, hne⟩
    generalize hrest : (line.dropWhile fun c => !pyIsSpace c).dropWhile pyIsSpace = rest at hnil ⊢
    cases rest with
    | nil => rfl
    | cons c rest =>
      have hhead := List.head?_dropWhile_not pyIsSpace (line.dropWhile fun c => !pyIsSpace c)
      rw [hrest] at hhead
      have hc : pyIsSpace c = false := hhead
      rw [List.takeWhile_cons, if_pos (by rw [hc]; rfl)] at hnil
      cases hnil

theorem bleLine_setwifi {text ssid pwd : List Char} (h : bleLine text = .setwifi ssid pwd) :
    ssid ≠ [] ∧ pwd ≠ [] := by
  unfold bleLine at h
  dsimp only at h
  split at h
  · cases h
  split at h
  · cases h
  split at h
  · cases h
  split at h
  · split at h
    · next hpair =>
      cases h
      exact pySplitPair_ne_nil hpair
    · cases h
  split at h <;> cases h

theorem pyEncode_ne_nil {text : List Char} (h : text ≠ []) : pyEncode text ≠ [] := by
  obtain ⟨c, cs, rfl⟩ := List.exists_cons_of_ne_nil h
  exact List.append_ne_nil_of_left_ne_nil String.utf8EncodeChar_ne_nil _

/-- A byte of an encoded text is one of its characters, or none of ASCII. -/
theorem not_isBlank_pyEncode {text : List Char} (h : ∀ c ∈ text, 32 < c.toNat) :
    ∀ b ∈ pyEncode text, isBlank b = false := by
  intro b hb
  obtain ⟨c, hc, hbc⟩ := List.mem_flatMap.mp hb
  have hplain := h c hc
  have hlt : 32 < b.toNat := by
    rcases Nat.lt_or_ge b.toNat 128 with hlow | hhigh
    · rwa [← toNat_of_mem_utf8EncodeChar hbc hlow]
    · omega
  exact decide_eq_false fun hle => absurd (UInt8.le_iff_toNat_le.mp hle) (Nat.not_le.mpr hlt)

/-! ## The pair -/

section
variable {s : Bytes}

theorem clean_of_not_isBlank (h : ∀ c ∈ s, isBlank c = false) : Clean s := by
  intro c hc
  have hblank := h c hc
  refine ⟨Bool.eq_false_iff.mpr fun hspace => ?_, fun hzero => ?_⟩
  · rw [isBlank_of_isSpace hspace] at hblank
    cases hblank
  · rw [hzero] at hblank
    cases hblank

end

namespace TypedPair

variable (t : TypedPair)

theorem ssid_plain : ∀ c ∈ pyEncode t.ssid, isBlank c = false := not_isBlank_pyEncode t.plain_ssid

theorem pwd_plain : ∀ c ∈ pyEncode t.pwd, isBlank c = false := not_isBlank_pyEncode t.plain_pwd

/-- What is to be stored. -/
def pair : WifiPair where
  ssid := pyEncode t.ssid
  pwd := pyEncode t.pwd
  ssid_ne := pyEncode_ne_nil (bleLine_setwifi t.typed).1
  ssid_le := t.ssid_le
  pwd_le := t.pwd_le
  noLineEnd := fun hmem => by
    have hblank := t.ssid_plain 10 hmem
    cases hblank
  ssid_head := fun c hc => (clean_of_not_isBlank t.ssid_plain c (List.mem_of_mem_head? hc)).1
  ssid_last := fun c hc => (clean_of_not_isBlank t.ssid_plain c (List.mem_of_getLast? hc)).1
  pwd_head := fun c hc => (clean_of_not_isBlank t.pwd_plain c (List.mem_of_mem_head? hc)).1
  pwd_last := fun c hc => (clean_of_not_isBlank t.pwd_plain c (List.mem_of_getLast? hc)).1

/-- The write that the line calls for. -/
def write : BleWrite := .wifi (pyEncode (t.ssid ++ '\n' :: t.pwd))

theorem write_eq : t.write = .wifi t.pair.write := by
  rw [write, pyEncode, List.flatMap_append, List.flatMap_cons]
  rfl

theorem trim_ssid : trimTrailing t.pair.ssid = t.pair.ssid :=
  trimTrailing_of_getLast fun c hc => t.ssid_plain c (List.mem_of_getLast? hc)

theorem trim_pwd : trimTrailing t.pair.pwd = t.pair.pwd :=
  trimTrailing_of_getLast fun c hc => t.pwd_plain c (List.mem_of_getLast? hc)

/-- The line of the device has room for both, and no line end in it. -/
theorem cmdline_plain :
    t.pair.cmdline.length ≤ lineMax ∧ ∀ c ∈ t.pair.cmdline, c ≠ 10 ∧ c ≠ 13 := by
  have hne : ∀ c, isBlank c = false → c ≠ 10 ∧ c ≠ 13 := by
    rintro c hblank
    constructor <;> rintro rfl <;> cases hblank
  have hname : ∀ c ∈ lit "setwifi ", c ≠ 10 ∧ c ≠ 13 := by decide +kernel
  have hgap : ∀ c ∈ lit " ", c ≠ 10 ∧ c ≠ 13 := by decide +kernel
  rw [WifiPair.cmdline, t.trim_ssid, t.trim_pwd]
  constructor
  · have h₁ : (lit "setwifi ").length = 8 := rfl
    have h₂ : (lit " ").length = 1 := rfl
    have hssid := t.pair.ssid_le
    have hpwd := t.pair.pwd_le
    simp only [List.length_append, lineMax]
    omega
  · have hssid : ∀ c ∈ t.pair.ssid, c ≠ 10 ∧ c ≠ 13 := fun c hc => hne c (t.ssid_plain c hc)
    have hpwd : ∀ c ∈ t.pair.pwd, c ≠ 10 ∧ c ≠ 13 := fun c hc => hne c (t.pwd_plain c hc)
    exact List.forall_mem_append.mpr ⟨hname, List.forall_mem_append.mpr
      ⟨List.forall_mem_append.mpr ⟨hssid, hgap⟩, hpwd⟩⟩

/-- It is the one line of the write. -/
theorem lines_write : t.write.lines = [t.pair.cmdline] := by
  obtain ⟨hlen, hplain⟩ := t.cmdline_plain
  have hbytes : gattOnWifiCredWrite t.pair.write = some (t.pair.cmdline ++ [10]) := by
    rw [gattOnWifiCredWrite_clean (clean_of_not_isBlank t.ssid_plain)
      (clean_of_not_isBlank t.pwd_plain), t.trim_ssid, if_neg t.pair.ssid_ne]
  have hfill : lineFill id [] t.pair.cmdline = t.pair.cmdline := by
    rw [lineFill_eq_take (fun c hc => (hplain c hc).2) (Nat.zero_le _), List.nil_append,
      List.take_of_length_le hlen]
  rw [BleWrite.lines, t.write_eq, BleWrite.rxBytes, hbytes, Option.getD_some,
    bleLines_line fun hmem => (hplain 10 hmem).1 rfl, hfill, if_neg]
  exact List.append_ne_nil_of_left_ne_nil (by decide) _

/-- The line stores the pair. -/
theorem storesExactly : StoresExactly t.pair [cmdDispatchLine t.pair.cmdline true] := by
  have hfits : WifiWriteFits ⟨[], List.forall_mem_nil _, Nat.zero_le _⟩ t.pair :=
    { buffer := List.forall_mem_nil _
      ssid := clean_of_not_isBlank t.ssid_plain
      pwd := clean_of_not_isBlank t.pwd_plain
      pwd_ne := pyEncode_ne_nil (bleLine_setwifi t.typed).2
      ssid_head := fun c hc => t.ssid_plain c (List.mem_of_mem_head? hc)
      ssid_last := fun c hc => t.ssid_plain c (List.mem_of_getLast? hc)
      pwd_last := fun c hc => t.pwd_plain c (List.mem_of_getLast? hc)
      room := by
        have hssid := t.pair.ssid_le
        have hpwd := t.pair.pwd_le
        simp only [List.length_nil, lineMax]
        omega }
  obtain ⟨-, hname, hargs⟩ := (wifiWriteOk_clean_iff hfits.ssid hfits.pwd).mp hfits.ok
  rw [List.nil_append, List.take_of_length_le t.cmdline_plain.1] at hname hargs
  exact storesExactly_line_iff.mpr ⟨hname, hargs⟩

/-- No AUTH has this line, whatever the flag. -/
theorem not_accepted {r : RanLine} (h : r.line = t.pair.cmdline) : ¬ r.Accepted := by
  rintro ⟨entry, args, hcall, hfn, -⟩
  obtain ⟨entry', args', hcall', hfn', -⟩ := t.storesExactly
  have htrue := (cmdDispatchLine_called hcall).2.2
  rw [h] at htrue
  rw [htrue] at hcall'
  cases hcall'
  rw [hfn] at hfn'
  cases hfn'

end TypedPair

/-! ## The result -/

/-- **What is typed is what is stored.** In every run of the session and of the device: once the
write of a typed `setwifi` has reached the device, the device has nothing left to do on the link,
and the first line it ran was an AUTH that it accepted, it has run a line for this write that calls
`wifi_set_credentials` with the name and the password that were typed. -/
theorem ble_setwifi_stored (C : HostConfig) (D : BleChars) (now : Nat) (evs : List BleHostLinkEv)
    (t : TypedPair) :
    let w := Run.exec (BleHostLink.step C D) (.start now) evs
    t.write ∈ w.host.arrived → w.taken = w.host.arrived.length → w.cli.rx = [] →
      (∃ r ∈ w.ran.head?, r.Accepted) →
      ∃ r ∈ w.ran, StoresExactly t.pair [cmdDispatchLine r.line r.authed] := by
  intro w hmem htaken hrx hauth
  have hinv : w.Inv C := Run.exec_inv (BleHostLink.inv_start now) (fun _ ev h => h.step ev) evs
  have hlines := hinv.lines
  rw [hrx, bleLines, List.append_nil, htaken, List.take_length] at hlines
  have hline : t.pair.cmdline ∈ w.ran.map RanLine.line := by
    rw [hlines]
    refine List.mem_flatMap.mpr ⟨t.write, hmem, ?_⟩
    rw [t.lines_write]
    exact List.mem_singleton_self _
  obtain ⟨r, hr, hrline⟩ := List.mem_map.mp hline
  obtain ⟨r₀, hr₀, hacc⟩ := hauth
  obtain ⟨rs, hran⟩ := List.head?_eq_some_iff.mp hr₀
  have horder := hinv.order
  rw [hran] at horder hr
  -- the line of the write is not the AUTH, so it comes behind it
  have htail : r ∈ rs := by
    refine (List.mem_cons.mp hr).resolve_left ?_
    rintro rfl
    exact t.not_accepted hrline hacc
  have hflag : r.authed = true := List.rel_of_pairwise_cons horder htail hacc
  refine ⟨r, hran ▸ hr, ?_⟩
  rw [hrline, hflag]
  exact t.storesExactly

/-- A home network. -/
def homePair : TypedPair where
  text := "setwifi home letmein".toList
  ssid := "home".toList
  pwd := "letmein".toList
  typed := rfl
  plain_ssid := fun c hc =>
    have hall : ("home".toList.all fun c => decide (32 < c.toNat)) = true := rfl
    of_decide_eq_true (List.all_eq_true.mp hall c hc)
  plain_pwd := fun c hc =>
    have hall : ("letmein".toList.all fun c => decide (32 < c.toNat)) = true := rfl
    of_decide_eq_true (List.all_eq_true.mp hall c hc)
  ssid_le := Nat.le_of_ble_eq_true rfl
  pwd_le := Nat.le_of_ble_eq_true rfl

/-- A session in which it is typed, and the device, which gets everything. -/
def homeSession : List BleHostLinkEv :=
  [.host (.wrote true true), .host (.wrote true true), .take, .host (.wrote true true), .take,
      .take, .host .goesOn] ++
    List.replicate 13 (.byte feedIn.cmd feedIn.state) ++
    [.host (.typed homePair.text false), .host (.wrote true true), .take] ++
    List.replicate 21 (.byte feedIn.cmd feedIn.state)

theorem ble_setwifi_stored_home :
    ∃ r ∈ (Run.exec (BleHostLink.step ⟨lit "hunter2", 12⟩ ⟨false, false, false⟩) (.start 0)
        homeSession).ran,
      StoresExactly homePair.pair [cmdDispatchLine r.line r.authed] := by
  have hhead : (Run.exec (BleHostLink.step ⟨lit "hunter2", 12⟩ ⟨false, false, false⟩) (.start 0)
      homeSession).ran.head?.map (fun r => (r.line, r.authed, tokenInForce r.cmd r.state)) =
      some (lit "AUTH hunter2", false, lit "hunter2") := by decide +kernel
  obtain ⟨r, hr, hline⟩ := Option.map_eq_some_iff.mp hhead
  obtain ⟨hline, hauthed, htoken⟩ : r.line = lit "AUTH hunter2" ∧ r.authed = false ∧
      tokenInForce r.cmd r.state = lit "hunter2" := by simpa using hline
  have hcall : cmdDispatchLine r.line r.authed = .called ⟨lit "auth", false, .auth⟩
      (lit "hunter2") := by
    rw [hline, hauthed]
    decide +kernel
  refine ble_setwifi_stored ⟨lit "hunter2", 12⟩ ⟨false, false, false⟩ 0 homeSession homePair
    ?_ ?_ ?_ ⟨r, hr, ⟨lit "auth", false, .auth⟩, lit "hunter2", hcall, rfl, ?_⟩
  · decide +kernel
  · decide +kernel
  · decide +kernel
  · rw [htoken]
    decide

end RemoteControl
