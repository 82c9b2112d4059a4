import RemoteControl.Ble.HostVerdict
import RemoteControl.Ble.Notify

/-!
# The news that Wi-Fi is up, from `got_ip` to `ble_session`

`got_ip` sends a status line that `gatt_server_send_status` cuts into indications, and `is_wifi_ok`
looks at each of them alone. The beginning of the line is in the first one, whatever MTU the two
sides have agreed on, so a session that waits for Wi-Fi and gets that one returns `True`
(`gotIp_ends_session`).
-/

namespace RemoteControl

open CString

/-- The status line of `got_ip`, with the text of the address. -/
def gotIpLine (ip : Bytes) : Bytes := lit "WIFI: GOT IP ip=" ++ ip

/-! ## What is encoded is decoded -/

theorem pyDecode_skip (xs rest : Bytes) : pyDecode xs.length (xs ++ rest) = pyDecode 0 rest := by
  induction xs with
  | nil => rfl
  | cons x xs ih => exact ih

theorem pyDecode_encodeChar (c : Char) (rest : Bytes) :
    pyDecode 0 (String.utf8EncodeChar c ++ rest) = c :: pyDecode 0 rest := by
  obtain ⟨b, bs, hbs⟩ := List.exists_cons_of_ne_nil (String.utf8EncodeChar_ne_nil (c := c))
  have hdecode : ByteArray.utf8DecodeChar? ⟨(b :: (bs ++ rest)).toArray⟩ 0 = some c := by
    have h := ByteArray.utf8DecodeChar?_utf8EncodeChar_append (b := rest.toByteArray) (c := c)
    have hbytes : (String.utf8EncodeChar c).toByteArray ++ rest.toByteArray =
        ⟨(b :: (bs ++ rest)).toArray⟩ := by
      rw [hbs]
      ext1
      simp [List.data_toByteArray]
    rwa [hbytes] at h
  have hlen : c.utf8Size - 1 = bs.length := by
    rw [← String.length_utf8EncodeChar, hbs, List.length_cons, Nat.add_sub_cancel]
  rw [hbs, List.cons_append, pyDecode, hdecode]
  dsimp only
  rw [hlen, pyDecode_skip]

/-- **What is encoded is decoded**, whatever comes behind it. -/
theorem pyDecode_pyEncode (text : List Char) (rest : Bytes) :
    pyDecode 0 (pyEncode text ++ rest) = text ++ pyDecode 0 rest := by
  induction text with
  | nil => rfl
  | cons c text ih =>
    rw [pyEncode, List.flatMap_cons, List.append_assoc, pyDecode_encodeChar]
    exact congrArg (c :: ·) ih

/-! ## What `is_wifi_ok` makes of it -/

/-- A text that begins and ends with no blank keeps its place when blanks are stripped. -/
theorem pyStrip_append {c d : Char} (cs rest : List Char) (hc : pyIsSpace c = false)
    (hd : pyIsSpace d = false) :
    ∃ rest', pyStrip (c :: (cs ++ [d]) ++ rest) = c :: (cs ++ [d]) ++ rest' := by
  refine ⟨rest.rdropWhile pyIsSpace, ?_⟩
  rw [pyStrip, List.cons_append, List.dropWhile_cons, if_neg (by simp [hc]), List.rdropWhile,
    List.reverse_cons, List.reverse_append, List.reverse_append, List.reverse_singleton,
    List.append_assoc, List.dropWhile_append]
  split
  · next hempty =>
    have hnil : rest.rdropWhile pyIsSpace = [] := by
      rw [List.rdropWhile, List.isEmpty_iff.mp hempty]
      rfl
    rw [hnil]
    simp [hd]
  · simp [List.rdropWhile]

/-- The words of such a text. -/
theorem isPrefix_words (rest : List Char) :
    "wifi: got ip".toList.isPrefixOf
      ([' '].intercalate (pySplit ("wifi: got ip".toList ++ rest))) = true := by
  obtain ⟨word, words, hwords⟩ := List.exists_cons_of_ne_nil (List.splitOnP_ne_nil pyIsSpace rest)
  have hsplit : ("wifi: got ip".toList ++ rest).splitOnP pyIsSpace =
      "wifi:".toList :: "got".toList :: ("ip".toList ++ word) :: words := by
    have hlast : ('i' :: 'p' :: rest).splitOnP pyIsSpace = ("ip".toList ++ word) :: words := by
      rw [List.splitOnP_cons_eq_if_modifyHead, if_neg (by decide),
        List.splitOnP_cons_eq_if_modifyHead, if_neg (by decide), hwords]
      rfl
    rw [← hlast]
    rfl
  rw [pySplit, hsplit, List.filter_cons_of_pos (by decide), List.filter_cons_of_pos (by decide),
    List.filter_cons_of_pos (by simp)]
  cases words.filter (· ≠ []) <;> rfl

/-- A message that begins like the status line is taken. -/
theorem isWifiOk_gotIp (rest : Bytes) :
    isWifiOk (pyText (lit "WIFI: GOT IP" ++ rest)) = true := by
  have hlit : lit "WIFI: GOT IP" = pyEncode "WIFI: GOT IP".toList := by decide +kernel
  have htext : "WIFI: GOT IP".toList = 'W' :: ("IFI: GOT I".toList ++ ['P']) := rfl
  obtain ⟨x, hx⟩ := @pyStrip_append 'W' 'P' "IFI: GOT I".toList (pyDecode 0 rest) (by decide)
    (by decide)
  obtain ⟨y, hy⟩ := @pyStrip_append 'W' 'P' "IFI: GOT I".toList x (by decide) (by decide)
  have hlow : pyLower (pyStrip (pyText (lit "WIFI: GOT IP" ++ rest))) =
      "wifi: got ip".toList ++ pyLower y := by
    rw [pyText, hlit, pyDecode_pyEncode, htext, hx, hy, pyLower, List.map_append]
    rfl
  have hne : "wifi: got ip".toList ++ pyLower y ≠ "none".toList := by
    intro h
    cases h
  unfold isWifiOk
  dsimp only
  rw [hlow, if_neg hne, isPrefix_words, Bool.true_or, Bool.true_or, Bool.true_or]

/-- **The first indication of the line is taken**, and there is always one. -/
theorem gotIp_first {g : GattTx} (hg : g.Notifies) (hpayload : 20 ≤ g.mtuPayload) (ip : Bytes) :
    ∃ data, (indications (gattServerSendStatus g (gotIpLine ip))).head? = some data ∧
      isWifiOk (pyText data) = true := by
  have hchunk : 20 ≤ maxChunk g.mtuPayload := by
    simp only [maxChunk]
    split <;> split <;> omega
  have hne : gotIpLine ip ≠ [] := List.append_ne_nil_of_left_ne_nil (by decide) _
  refine ⟨(gotIpLine ip).take (maxChunk g.mtuPayload), ?_, ?_⟩
  · rw [indications_gattServerSendStatus hg, Chunks.cut_of_ne_nil (by omega) hne]
    rfl
  · have hsplit : gotIpLine ip = lit "WIFI: GOT IP" ++ (lit " ip=" ++ ip) := rfl
    rw [hsplit, List.take_append, List.take_of_length_le (Nat.le_trans (by decide) hchunk)]
    exact isWifiOk_gotIp _

/-! ## The session -/

/-- Neither the time is up nor does an exception leave the session. -/
def BleEv.Quiet (ev : BleEv) : Prop := ev ≠ .timeout ∧ ∀ reached, ev ≠ .raises reached

namespace BleSession

/-- How far a session that waits for Wi-Fi has come: it is subscribed to TX, it has got the news,
the event is set, and it returns. -/
def Stage : ℕ → BleSession → Prop
  | 0, w => w.Returns ∨ w.pc = .waitWifi ∧ .tx ∈ w.callbacks
  | 1, w => w.Returns ∨ w.pc = .waitWifi ∧ w.Told
  | 2, w => w.Returns ∨ w.pc = .waitWifi ∧ w.wifiOk = true
  | _, w => w.Returns

section
variable {C : HostConfig} {D : BleChars} {w : BleSession} {ev : BleEv}

/-- A session that returns goes on to do so. -/
theorem returns_step (hquiet : ev.Quiet) (h : w.Returns) : (w.step C D ev).Returns := by
  obtain ⟨pc, notifyOk, callbacks, asleep, wifiOk, now, noneUntil, typed, asked⟩ := w
  rcases h with rfl | rfl
  · cases ev with
    | goesOn => exact .inr rfl
    | notified char data =>
      simp only [step, notified]
      split
      · split <;> exact .inl rfl
      · exact .inl rfl
    | woke =>
      simp only [step]
      split <;> exact .inl rfl
    | raises reached => exact absurd rfl (hquiet.2 reached)
    | _ => exact .inl rfl
  · cases ev with
    | raises reached => exact absurd rfl (hquiet.2 reached)
    | _ => exact .inr rfl

/-- One that waits goes on waiting until it returns. -/
theorem waitWifi_step (hquiet : ev.Quiet) (h : w.pc = .waitWifi) :
    (w.step C D ev).Returns ∨
      (w.step C D ev).pc = .waitWifi ∧ (w.step C D ev).callbacks = w.callbacks ∧
        (w.wifiOk = true → (w.step C D ev).wifiOk = true) := by
  obtain ⟨pc, notifyOk, callbacks, asleep, wifiOk, now, noneUntil, typed, asked⟩ := w
  obtain rfl : pc = .waitWifi := h
  cases ev with
  | wifiUp =>
    simp only [step]
    split
    · exact .inl (pc_leaves true)
    · exact .inr ⟨rfl, rfl, id⟩
  | notified char data =>
    simp only [step, notified]
    split
    · split <;> exact .inr ⟨rfl, rfl, id⟩
    · exact .inr ⟨rfl, rfl, id⟩
  | woke =>
    simp only [step]
    split
    · exact .inr ⟨rfl, rfl, fun _ => rfl⟩
    · exact .inr ⟨rfl, rfl, id⟩
  | timeout => exact absurd rfl hquiet.1
  | raises reached => exact absurd rfl (hquiet.2 reached)
  | _ => exact .inr ⟨rfl, rfl, id⟩

theorem stage_step (k : ℕ) (hquiet : ev.Quiet) (h : w.Stage k) : (w.step C D ev).Stage k := by
  match k with
  | 0 =>
    rcases h with h | ⟨hpc, htx⟩
    · exact .inl (returns_step hquiet h)
    · refine (waitWifi_step hquiet hpc).imp_right fun hw => ⟨hw.1, ?_⟩
      rw [hw.2.1]
      exact htx
  | 1 =>
    rcases h with h | ⟨hpc, htold⟩
    · exact .inl (returns_step hquiet h)
    · exact (waitWifi_step hquiet hpc).imp_right fun hw => ⟨hw.1, told_step ev htold⟩
  | 2 =>
    rcases h with h | ⟨hpc, hok⟩
    · exact .inl (returns_step hquiet h)
    · exact (waitWifi_step hquiet hpc).imp_right fun hw => ⟨hw.1, hw.2.2 hok⟩
  | k + 3 => exact returns_step hquiet h

/-- The news comes. -/
theorem stage_notified {data : Bytes} (hdata : isWifiOk (pyText data) = true) (h : w.Stage 0) :
    (w.step C D (.notified .tx data)).Stage 1 := by
  have hquiet : (BleEv.notified .tx data).Quiet := ⟨by simp, by simp⟩
  rcases h with h | ⟨hpc, htx⟩
  · exact .inl (returns_step hquiet h)
  · have hne : pyText data ≠ [] := by
      intro hnil
      rw [hnil] at hdata
      revert hdata
      decide
    have htakes : w.takes (pyText data) = true := by rw [takes, hdata, Bool.true_or]
    refine .inr ?_
    simp only [step, hpc, BlePc.awaits, if_true, notified]
    rw [if_pos ⟨htx, by simp, hne, htakes⟩]
    exact ⟨rfl, .inr (Nat.succ_pos _)⟩

/-- The callback has slept. -/
theorem stage_woke (h : w.Stage 1) : (w.step C D .woke).Stage 2 := by
  have hquiet : BleEv.woke.Quiet := ⟨by simp, by simp⟩
  rcases h with h | ⟨hpc, htold⟩
  · exact .inl (returns_step hquiet h)
  · refine .inr ?_
    simp only [step, hpc, BlePc.awaits, Bool.true_and, decide_eq_true_eq]
    split
    · exact ⟨rfl, rfl⟩
    · next hasleep => exact ⟨hpc, htold.resolve_right hasleep⟩

/-- `wait_for` returns. -/
theorem stage_wifiUp (h : w.Stage 2) : (w.step C D .wifiUp).Stage 3 := by
  have hquiet : BleEv.wifiUp.Quiet := ⟨by simp, by simp⟩
  rcases h with h | ⟨hpc, hok⟩
  · exact returns_step hquiet h
  · simp only [step]
    rw [if_pos ⟨hpc, hok⟩]
    exact pc_leaves true

end

end BleSession

/-- A session that waits for Wi-Fi, subscribed to TX, and gets news that `is_wifi_ok` takes. -/
theorem BleSession.returns_of_news (C : HostConfig) (D : BleChars) {w : BleSession} {data : Bytes}
    (hdata : isWifiOk (pyText data) = true) (hwait : w.pc = .waitWifi) (htx : .tx ∈ w.callbacks)
    {evs : List BleEv} (hquiet : ∀ ev ∈ evs, ev.Quiet)
    (hin : [.notified .tx data, .woke, .wifiUp].Sublist evs) :
    (Run.exec (BleSession.step C D) w evs).Returns := by
  have hstart : BleSession.Stage 0 w := .inr ⟨hwait, htx⟩
  refine @Run.exec_milestones _ _ _ BleEv.Quiet BleSession.Stage _ _ _
    (fun k _ _ => BleSession.stage_step k) (fun k ev hev w hw => ?_) hquiet hin hstart
  match k with
  | 0 =>
    cases hev
    exact BleSession.stage_notified hdata hw
  | 1 =>
    cases hev
    exact BleSession.stage_woke hw
  | 2 =>
    cases hev
    exact BleSession.stage_wifiUp hw
  | k + 3 => cases hev

/-- **The news arrives.** On a link with any MTU, what `got_ip` sends begins with an indication that
`is_wifi_ok` takes. If a session that waits for Wi-Fi, subscribed to TX, gets it, the callback runs
to its end, and `wait_for` returns before its time is up, then the session returns `True`, whatever
else comes in between. -/
theorem gotIp_ends_session (C : HostConfig) (D : BleChars) {g : GattTx} (hg : g.Notifies)
    (hpayload : 20 ≤ g.mtuPayload) (ip : Bytes) :
    ∃ data, (indications (gattServerSendStatus g (gotIpLine ip))).head? = some data ∧
      isWifiOk (pyText data) = true ∧
      ∀ w : BleSession, w.pc = .waitWifi → .tx ∈ w.callbacks →
        ∀ evs : List BleEv, (∀ ev ∈ evs, ev.Quiet) →
          [.notified .tx data, .woke, .wifiUp].Sublist evs →
          (Run.exec (BleSession.step C D) w evs).Returns := by
  obtain ⟨data, hfirst, hdata⟩ := gotIp_first hg hpayload ip
  refine ⟨data, hfirst, hdata, fun w hwait htx evs hquiet hin => ?_⟩
  exact BleSession.returns_of_news C D hdata hwait htx hquiet hin

/-- The session of `provisioned` while it waits, and what a link with the default MTU brings it. -/
theorem gotIp_ends_session_provisioned :
    (Run.exec (BleSession.step ⟨lit "hunter2", 12⟩ ⟨false, false, false⟩)
      (Run.exec (BleSession.step ⟨lit "hunter2", 12⟩ ⟨false, false, false⟩) (.start 0)
        (provisioned.take 7))
      [.notified .tx (lit "WIFI: GOT IP ip=192."), .notified .tx (lit "168.10.125"), .tick 400,
        .woke, .wifiUp]).Returns := by
  obtain ⟨data, hfirst, -, hsession⟩ := gotIp_ends_session ⟨lit "hunter2", 12⟩
    ⟨false, false, false⟩ (g := smallLink) ⟨rfl, rfl, rfl⟩ (by decide) (lit "192.168.10.125")
  have hdata : data = lit "WIFI: GOT IP ip=192." := by
    have hhead : (indications (gattServerSendStatus smallLink
        (gotIpLine (lit "192.168.10.125")))).head? = some (lit "WIFI: GOT IP ip=192.") := by
      decide +kernel
    exact Option.some.inj (hfirst.symm.trans hhead)
  refine hsession _ (by decide +kernel) (by decide +kernel) _ ?_ ?_
  · simp [BleEv.Quiet]
  · rw [hdata]
    exact .cons_cons _ (.cons _ (.cons _ (.cons_cons _ (.cons_cons _ .slnil))))

end RemoteControl
