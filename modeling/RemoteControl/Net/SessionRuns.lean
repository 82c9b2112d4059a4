import RemoteControl.Cmd.Token
import RemoteControl.Net.SessionLink

/-!
# From the prompt to the handlers (`app/session.py` and `tcp_client.c`)

What the session puts on a socket are lines with their ends, as long as no image goes out on it. So
what its task runs are these lines, in the order in which they were sent and without a gap, the
token first; and where the token is accepted, all that follow find the flag set
(`session_runs_in_order`). Only the last one can be a part of a line, where the stream breaks off.
-/

namespace RemoteControl

open CString

/-! ## What goes out on a socket -/

/-- The token goes out as it is. -/
structure HostConfig.PlainToken (C : HostConfig) : Prop where
  fits : C.token.length ≤ 64
  bytes : ∀ c ∈ C.token, c ≠ 0 ∧ c ≠ 10 ∧ c ≠ 13
  head : ∀ c ∈ C.token.head?, isBlank c = false
  last : ∀ c ∈ C.token.getLast?, isBlank c = false

/-- The socket is used for commands: no typed line has a line end in it or is an OTA command, no
image goes out, and only the last call can have broken off. -/
structure PlainSocket (k : Nat) (w : TcpSession) : Prop where
  typed : ∀ x ∈ w.on k, ∀ n, x.kind = .typed n → 10 ∉ x.command ∧ NotOta (keptLine x.command)
  noUpload : ∀ x ∈ w.on k, x.kind ≠ .ota
  whole : ∀ x ∈ (w.on k).dropLast, x.out = x.text.length

/-- A command with its line end. -/
structure WireItem.IsCommand (x : WireItem) : Prop where
  text : x.text = x.command ++ [10]
  free : NoLineEnd x.command
  notOta : NotOta (keptLine x.command)
  kept : keptLine x.command ≠ []

theorem WireItem.IsCommand.of_text {x : WireItem} {line : Bytes} (htext : x.text = line ++ [10])
    (hfree : 10 ∉ line) (hota : NotOta (keptLine line)) (hkept : keptLine line ≠ []) :
    x.IsCommand := by
  have hcommand : x.command = line := by rw [WireItem.command, htext, List.dropLast_concat]
  refine ⟨by rw [hcommand, htext], ?_, by rwa [hcommand], by rwa [hcommand]⟩
  rw [hcommand]
  exact fun c hc => decide_eq_false fun h10 => hfree (h10 ▸ hc)

/-- The token line without its end. -/
def HostConfig.authCommand (C : HostConfig) : Bytes := lit "AUTH " ++ C.token

section
variable {C : HostConfig} {w : TcpSession} {k : Nat}

/-- It is kept as it is. -/
theorem HostConfig.PlainToken.keptLine (h : C.PlainToken) :
    keptLine C.authCommand = C.authCommand := by
  have hfilter : C.authCommand.filter (· ≠ 13) = C.authCommand := by
    refine List.filter_eq_self.mpr fun c hc => decide_eq_true ?_
    have hword : ∀ c ∈ lit "AUTH ", c ≠ 13 := by decide +kernel
    exact (List.mem_append.mp hc).elim (hword c) fun hc => (h.bytes c hc).2.2
  have hlen : C.authCommand.length ≤ lineMax := by
    have hfive : (lit "AUTH ").length = 5 := by decide
    have hfits := h.fits
    rw [authCommand, List.length_append, hfive, lineMax]
    omega
  rw [RemoteControl.keptLine, hfilter, List.take_of_length_le hlen]

/-- It calls AUTH with the token. -/
theorem HostConfig.PlainToken.dispatch (h : C.PlainToken) (authed : Bool) :
    cmdDispatchLine C.authCommand authed = .called ⟨lit "auth", false, .auth⟩ C.token := by
  have harg : cmdArg C.token = C.token := by
    rw [cmdArg, rtrimN, trimTrailing_of_getLast h.last, lskipN_of_head h.head]
    exact List.takeWhile_eq_self_iff.mpr fun c hc => decide_eq_true (h.bytes c hc).1
  have hword :=
    cmdDispatchLine_word (w := lit "AUTH") (by decide) (by decide +kernel) C.token authed
  rw [harg] at hword
  exact hword

/-- It is accepted where the token is that of the device. -/
theorem HostConfig.PlainToken.accepted (h : C.PlainToken) (authed : Bool) :
    AuthMatches (cmdDispatchLine C.authCommand authed) C.token := by
  refine ⟨_, _, h.dispatch authed, rfl, ?_⟩
  rw [authArg, List.take_of_length_le (h.fits.trans (by decide)), trimTrailing_of_getLast h.last]

/-- An encoded character has a byte below 128 only if it is that byte. -/
theorem toNat_of_mem_utf8EncodeChar {c : Char} {b : UInt8} (h : b ∈ String.utf8EncodeChar c)
    (hb : b.toNat < 128) : c.toNat = b.toNat := by
  have hhigh : ∀ n, 128 ≤ n → n < 256 → b ≠ UInt8.ofNat n := by
    intro n hle hlt heq
    rw [heq, UInt8.toNat_ofNat_of_lt' hlt] at hb
    omega
  unfold String.utf8EncodeChar at h
  dsimp only at h
  split at h
  · next hlow =>
    rw [List.mem_singleton.mp h, UInt8.toNat_ofNat_of_lt' (Nat.lt_of_le_of_lt hlow (by decide))]
    rfl
  · refine absurd h ?_
    split
    · simp only [List.mem_cons, List.not_mem_nil, or_false, not_or]
      exact ⟨hhigh _ (by omega) (by omega), hhigh _ (by omega) (by omega)⟩
    · split <;> simp only [List.mem_cons, List.not_mem_nil, or_false, not_or]
      · exact ⟨hhigh _ (by omega) (by omega), hhigh _ (by omega) (by omega),
          hhigh _ (by omega) (by omega)⟩
      · exact ⟨hhigh _ (by omega) (by omega), hhigh _ (by omega) (by omega),
          hhigh _ (by omega) (by omega), hhigh _ (by omega) (by omega)⟩

/-- A line that was typed begins with a byte that the device keeps. -/
theorem keptLine_pyEncode {text : List Char} (h : pyStrip text ≠ []) :
    keptLine (pyEncode (pyStrip text)) ≠ [] := by
  obtain ⟨c, cs, hcs⟩ := List.exists_cons_of_ne_nil h
  have hspace : pyIsSpace c = false := by
    have hpre : pyStrip text <+: text.dropWhile pyIsSpace := List.rdropWhile_prefix _ _
    rw [hcs] at hpre
    obtain ⟨rest, hrest⟩ := hpre
    have hhead := List.head?_dropWhile_not pyIsSpace text
    rw [← hrest] at hhead
    exact hhead
  obtain ⟨b, bs, hbs⟩ := List.exists_cons_of_ne_nil (String.utf8EncodeChar_ne_nil (c := c))
  have hb : b ≠ 13 := by
    rintro rfl
    have hmem : (13 : UInt8) ∈ String.utf8EncodeChar c := by
      rw [hbs]
      exact List.mem_cons_self
    have hc : c.toNat = 13 := toNat_of_mem_utf8EncodeChar hmem (by decide)
    rw [pyIsSpace, hc] at hspace
    exact absurd hspace (by decide)
  have hline : pyEncode (pyStrip text) = b :: (bs ++ pyEncode cs) := by
    rw [hcs, pyEncode, List.flatMap_cons, hbs]
    rfl
  rw [hline, keptLine, List.filter_cons_of_pos (by simp [hb]), lineMax, List.take_succ_cons]
  exact List.cons_ne_nil _ _

/-- What goes out on such a socket are commands. -/
theorem SessionLog.isCommand (h : SessionLog C w) (hC : C.PlainToken) (hk : PlainSocket k w)
    (hkept : ∀ line ∈ w.lines, keptLine line ≠ []) : ∀ x ∈ w.on k, x.IsCommand := by
  intro x hx
  have htext := h.text x (List.mem_of_mem_filter hx)
  cases hkind : x.kind with
  | auth =>
    rw [hkind] at htext
    have hline : x.text = C.authCommand ++ [10] := htext
    refine .of_text hline (fun hmem => ?_) ?_ ?_
    · rcases List.mem_append.mp hmem with hmem | hmem
      · exact absurd hmem (by decide)
      · exact (hC.bytes 10 hmem).2.1 rfl
    · rw [hC.keptLine]
      rintro ⟨entry, args, hcall, hfn⟩
      rw [hC.dispatch] at hcall
      cases hcall
      cases hfn
    · rw [hC.keptLine]
      exact List.append_ne_nil_of_left_ne_nil (by decide) _
  | version =>
    rw [hkind] at htext
    refine .of_text htext (by decide) ?_ (by decide)
    have hcall : cmdDispatchLine (keptLine (lit "version")) true =
        .called ⟨lit "version", false, .version⟩ [] := by decide +kernel
    exact notOta_of_called hcall (by decide)
  | ping =>
    rw [hkind] at htext
    refine .of_text htext (by decide) ?_ (by decide)
    have hcall : cmdDispatchLine (keptLine (lit "PING")) true =
        .called ⟨lit "ping", false, .ping⟩ [] := by decide +kernel
    exact notOta_of_called hcall (by decide)
  | typed n =>
    obtain ⟨line, hline, htext⟩ := h.typed x (List.mem_of_mem_filter hx) n hkind
    obtain ⟨hfree, hota⟩ := hk.typed x hx n hkind
    have hcommand : x.command = line := by rw [WireItem.command, htext, List.dropLast_concat]
    rw [hcommand] at hfree hota
    exact .of_text htext hfree hota (hkept line (List.mem_of_getElem? hline))
  | ota => exact absurd hkind (hk.noUpload x hx)

end

/-! ## Every line in its place -/

/-- What has gone out in full, and the last item where it has not. -/
structure SplitItems (items full last : List WireItem) : Prop where
  eq : items = full ++ last
  full : ∀ x ∈ full, x.text.length ≤ x.out
  last : last = [] ∨ ∃ x, last = [x] ∧ x.out < x.text.length

/-- A task has run the first `n` commands, and behind them at most a part of the next one, at which
it has left its loop; and it has run all that went out in full, once nothing more arrives. -/
structure RunsInOrder (items : List WireItem) (t : SocketTask) (n : Nat) (cut : Option Bytes) :
    Prop where
  lines : t.ran.map (·.line) = (items.take n).map (fun x => keptLine x.command) ++ cut.toList
  cut : ∀ line ∈ cut, t.client.pc ≠ .reading ∧
    ∃ x ∈ items[n]?, ∃ part, part <+: x.command ∧ line = keptLine part
  all : t.client.pc = .reading → t.client.buf = [] →
    t.taken = (items.flatMap WireItem.bytes).length → ∀ x ∈ items.drop n, x.out < x.text.length

section
variable {items full last : List WireItem}

theorem splitItems_of_whole (h : ∀ x ∈ items.dropLast, x.out = x.text.length) :
    ∃ full last, SplitItems items full last := by
  have hle : ∀ x ∈ items.dropLast, x.text.length ≤ x.out := fun x hx => (h x hx).ge
  rcases List.eq_nil_or_concat items with rfl | ⟨init, x, rfl⟩
  · exact ⟨[], [], rfl, List.forall_mem_nil _, .inl rfl⟩
  · rw [List.concat_eq_append, List.dropLast_concat] at hle
    rw [List.concat_eq_append]
    rcases Nat.lt_or_ge x.out x.text.length with hlt | hge
    · exact ⟨init, [x], rfl, hle, .inr ⟨x, rfl, hlt⟩⟩
    · refine ⟨init ++ [x], [], (List.append_nil _).symm, ?_, .inl rfl⟩
      exact List.forall_mem_append.mpr ⟨hle, List.forall_mem_singleton.mpr hge⟩

/-- What has gone out of a command. -/
theorem WireItem.IsCommand.bytes_full {x : WireItem} (h : x.IsCommand)
    (hout : x.text.length ≤ x.out) : x.bytes = x.command ++ [10] := by
  rw [WireItem.bytes, List.take_of_length_le hout]
  exact h.text

theorem WireItem.IsCommand.bytes_cut {x : WireItem} (h : x.IsCommand)
    (hout : x.out < x.text.length) : x.bytes <+: x.command := by
  rw [h.text, List.length_append, List.length_singleton] at hout
  rw [WireItem.bytes, h.text, List.take_append_of_le_length (Nat.le_of_lt_succ hout)]
  exact List.take_prefix _ _

theorem SplitItems.last_prefix (h : SplitItems items full last)
    (hitems : ∀ x ∈ items, x.IsCommand) :
    last.flatMap WireItem.bytes = [] ∨
      ∃ x, last = [x] ∧ last.flatMap WireItem.bytes <+: x.command := by
  rcases h.last with rfl | ⟨x, rfl, hout⟩
  · exact .inl rfl
  · refine .inr ⟨x, rfl, ?_⟩
    rw [List.flatMap_singleton]
    exact (hitems x (by simp [h.eq])).bytes_cut hout

theorem SplitItems.last_free (h : SplitItems items full last)
    (hitems : ∀ x ∈ items, x.IsCommand) : NoLineEnd (last.flatMap WireItem.bytes) := by
  rcases h.last_prefix hitems with hnil | ⟨x, rfl, hpre⟩
  · rw [hnil]
    exact List.forall_mem_nil _
  · exact fun c hc => (hitems x (by simp [h.eq])).free c (hpre.subset hc)

/-- The stream of a socket. -/
theorem SplitItems.stream (h : SplitItems items full last) (hitems : ∀ x ∈ items, x.IsCommand) :
    items.flatMap WireItem.bytes =
      Separator.joined 10 (full.map WireItem.command) ++ last.flatMap WireItem.bytes := by
  rw [h.eq, List.flatMap_append, Separator.joined, List.flatMap_map]
  congr 1
  refine List.flatMap_congr fun x hx => ?_
  exact (hitems x (by simp [h.eq, hx])).bytes_full (h.full x hx)

theorem SplitItems.free (h : SplitItems items full last) (hitems : ∀ x ∈ items, x.IsCommand) :
    ∀ q ∈ full.map WireItem.command, NoLineEnd q := by
  intro q hq
  obtain ⟨x, hx, rfl⟩ := List.mem_map.mp hq
  exact (hitems x (by simp [h.eq, hx])).free

/-- **The pieces are the first commands**, and the part is the beginning of the next one. -/
theorem SplitItems.cutAt (h : SplitItems items full last) (hitems : ∀ x ∈ items, x.IsCommand)
    {pieces : List Bytes} {part rest : Bytes}
    (hcut : CutAt (items.flatMap WireItem.bytes) pieces part rest) :
    pieces = (items.take pieces.length).map WireItem.command ∧
      (part = [] ∨ ∃ x ∈ items[pieces.length]?, part <+: x.command) := by
  have heq := hcut.eq.symm.trans (h.stream hitems)
  obtain ⟨hpre, hpart⟩ := Separator.joined_prefix (p := fun c => decide (c = 10))
    (decide_eq_true rfl) hcut.free (h.free hitems) hcut.partFree (h.last_free hitems) heq
  have hle : pieces.length ≤ full.length := by
    have := hpre.length_le
    rwa [List.length_map] at this
  constructor
  · rw [h.eq, List.take_append_of_le_length hle, List.map_take]
    exact List.prefix_iff_eq_take.mp hpre
  · rcases Nat.lt_or_eq_of_le hle with hlt | hall
    · rw [List.getElem?_map, List.getElem?_eq_getElem hlt] at hpart
      refine .inr ⟨full[pieces.length], ?_, hpart⟩
      rw [h.eq, List.getElem?_append_left hlt, List.getElem?_eq_getElem hlt]
      rfl
    · have hnone : (full.map WireItem.command)[pieces.length]? = none := by
        rw [hall]
        exact List.getElem?_eq_none (by rw [List.length_map])
      rw [hnone, Option.getD_none] at hpart
      rcases h.last_prefix hitems with hnil | ⟨x, rfl, hx⟩
      · rw [hnil] at hpart
        exact .inl (List.prefix_nil.mp hpart)
      · refine .inr ⟨x, ?_, hpart.trans hx⟩
        rw [h.eq, hall, List.getElem?_append_right (Nat.le_refl _), Nat.sub_self]
        rfl

/-- Where nothing is left, they are all that went out in full. -/
theorem SplitItems.all (h : SplitItems items full last) (hitems : ∀ x ∈ items, x.IsCommand)
    {pieces : List Bytes} {part : Bytes}
    (hcut : CutAt (items.flatMap WireItem.bytes) pieces part []) :
    ∀ x ∈ items.drop pieces.length, x.out < x.text.length := by
  have heq := (h.stream hitems).symm.trans hcut.eq
  rw [List.append_nil, ← List.append_nil (last.flatMap WireItem.bytes)] at heq
  obtain ⟨hpre, -⟩ := Separator.joined_prefix (p := fun c => decide (c = 10))
    (decide_eq_true rfl) (h.free hitems) hcut.free (h.last_free hitems) hcut.partFree heq
  have hle := hpre.length_le
  rw [List.length_map] at hle
  rw [h.eq, List.drop_append, List.drop_eq_nil_of_le hle, List.nil_append]
  intro x hx
  have hmem := List.mem_of_mem_drop hx
  rcases h.last with rfl | ⟨y, rfl, hout⟩
  · exact absurd hmem List.not_mem_nil
  · rw [List.mem_singleton.mp hmem]
    exact hout

/-- The lines of the first commands. -/
theorem keptLines_take (hitems : ∀ x ∈ items, x.IsCommand) (n : Nat) :
    keptLines ((items.take n).map WireItem.command) =
      (items.take n).map fun x => keptLine x.command := by
  rw [keptLines, List.map_map]
  refine List.filter_eq_self.mpr fun line hline => ?_
  obtain ⟨x, hx, rfl⟩ := List.mem_map.mp hline
  exact decide_eq_true (hitems x (List.mem_of_mem_take hx)).kept

/-- **What a task has run.** -/
theorem TaskInv.runs {t : SocketTask} (h : TaskInv (items.flatMap WireItem.bytes) t)
    (hitems : ∀ x ∈ items, x.IsCommand) (hsplit : SplitItems items full last) :
    ∃ n cut, RunsInOrder items t n cut := by
  obtain ⟨pieces, part, rest, h | h⟩ := h
  · obtain ⟨hpieces, -⟩ := hsplit.cutAt hitems h.cut
    refine ⟨pieces.length, none, ?_, ?_, fun _ hbuf htaken => ?_⟩
    · rw [h.ran, Option.toList_none, List.append_nil, ← keptLines_take hitems, ← hpieces]
    · rintro _ ⟨⟩
    · have hrest : rest = [] := by
        have := h.taken
        exact List.eq_nil_of_length_eq_zero (by omega)
      have hcut := h.cut
      rw [hbuf, hrest] at hcut
      exact hsplit.all hitems hcut
  · obtain ⟨hpieces, hpart⟩ := hsplit.cutAt hitems h.cut
    have hran : t.ran.map (·.line) =
        (items.take pieces.length).map (fun x => keptLine x.command) ++ keptLines [part] := by
      rw [h.ran, keptLines_append, ← keptLines_take hitems, ← hpieces]
    by_cases hnil : keptLine part = []
    · refine ⟨pieces.length, none, ?_, ?_, fun hpc => absurd hpc h.pc⟩
      · rw [hran, keptLines, List.map_singleton, List.filter_cons_of_neg (by simp [hnil])]
        rfl
      · rintro _ ⟨⟩
    · refine ⟨pieces.length, some (keptLine part), ?_, ?_, fun hpc => absurd hpc h.pc⟩
      · rw [hran, keptLines, List.map_singleton, List.filter_cons_of_pos (by simp [hnil])]
        rfl
      · rintro _ ⟨⟩
        rcases hpart with rfl | ⟨x, hx, hpre⟩
        · exact absurd rfl hnil
        · exact ⟨h.pc, x, hx, part, hpre, rfl⟩

/-- No line of such a stream is an OTA command. -/
theorem noOtaLine_of_commands (hitems : ∀ x ∈ items, x.IsCommand)
    (hsplit : SplitItems items full last) : NoOtaLine (items.flatMap WireItem.bytes) := by
  intro pieces rest heq hfree q hq
  have hcut : CutAt (items.flatMap WireItem.bytes) pieces [] rest :=
    ⟨heq, hfree, List.forall_mem_nil _⟩
  obtain ⟨hpieces, -⟩ := hsplit.cutAt hitems hcut
  rw [hpieces] at hq
  obtain ⟨x, hx, rfl⟩ := List.mem_map.mp hq
  exact (hitems x (List.mem_of_mem_take hx)).notOta

end

/-! ## Both ends -/

section
variable {C : HostConfig} {w w' : TcpSession} {k : Nat}

/-- What a socket is used for later it has been used for before. -/
theorem PlainSocket.of_grows (h : PlainSocket k w') (hw : w.Grows w') : PlainSocket k w := by
  have hon : w.on k <+: w'.on k := hw.sent.filter _
  refine ⟨fun x hx => h.typed x (hon.subset hx), fun x hx => h.noUpload x (hon.subset hx), ?_⟩
  obtain ⟨more, hmore⟩ := hon
  intro x hx
  refine h.whole x ?_
  rcases List.eq_nil_or_concat more with rfl | ⟨init, y, rfl⟩
  · rw [List.append_nil] at hmore
    rwa [← hmore]
  · rw [← hmore, List.concat_eq_append, ← List.append_assoc, List.dropLast_concat]
    exact List.mem_append_left _ ((List.dropLast_prefix _).subset hx)

/-- What has gone out on a socket stays. -/
theorem TcpSession.Grows.stream (h : w.Grows w') (k : Nat) :
    ∃ more, w'.stream k = w.stream k ++ more := by
  obtain ⟨more, hmore⟩ : w.on k <+: w'.on k := h.sent.filter _
  refine ⟨more.flatMap WireItem.bytes, ?_⟩
  rw [TcpSession.stream, ← hmore, List.flatMap_append]
  rfl

/-- The first thing on a socket is the token. -/
theorem SessionLog.head_on (h : SessionLog C w) : ∀ x ∈ (w.on k).head?, x.text = C.authLine := by
  intro x hx
  obtain ⟨rest, hon⟩ := List.head?_eq_some_iff.mp hx
  obtain ⟨pre, post, hsent, hpre, hk, -⟩ := List.filter_eq_cons_iff.mp hon
  refine h.token x (by simp [hsent]) ?_
  by_contra hkind
  obtain ⟨y, hy, hsock, -⟩ := (h.each pre x post hsent).authed hkind
  refine hpre y hy (decide_eq_true ?_)
  rw [hsock]
  exact of_decide_eq_true hk

/-- On one socket the numbers of the command lines go up. -/
theorem SessionLog.pairwise_on (h : SessionLog C w) :
    ((w.on k).filterMap WireItem.typedNumber).Pairwise (· < ·) := by
  have hkind : ∀ {x : WireItem} {n : Nat}, x.typedNumber = some n → x.kind = .typed n := by
    intro x n hn
    unfold WireItem.typedNumber at hn
    split at hn
    · next hkind =>
      cases hn
      exact hkind
    · cases hn
  have hpair : w.sent.Pairwise fun y x => y.sock = x.sock → ∀ m, y.typedNumber = some m →
      ∀ n, x.typedNumber = some n → m < n := by
    refine h.each.pairwise fun pre x hin y hy hsock m hm n hn => ?_
    rcases hin.typed n (hkind hn) y hy m (hkind hm) with hlt | ⟨-, -, hlt⟩
    · exact hlt
    · rw [hsock] at hlt
      exact absurd hlt (Nat.lt_irrefl _)
  refine List.pairwise_filterMap.mpr (List.pairwise_filter.mpr ?_)
  refine hpair.imp fun himp hy hx m hm n hn => himp ?_ m hm n hn
  exact (of_decide_eq_true hy).trans (of_decide_eq_true hx).symm

end

section
variable (E : FlashEnv) (R : Crc32) {C : HostConfig}

/-- The invariant of the session and its tasks. -/
structure SocketsInv (C : HostConfig) (w : SessionLink) : Prop where
  host : HostInv C w.host
  kept : ∀ line ∈ w.host.lines, keptLine line ≠ []
  flag : ∀ k, (w.tasks k).FlagKept
  task : ∀ k, PlainSocket k w.host → TaskInv (w.host.stream k) (w.tasks k)

/-- What is sent on a plain socket. -/
theorem SocketsInv.commands {w : SessionLink} (h : SocketsInv C w) (hC : C.PlainToken) {k : Nat}
    (hk : PlainSocket k w.host) : ∀ x ∈ w.host.on k, x.IsCommand :=
  h.host.log.isCommand hC hk h.kept

/-- Before the first step. -/
theorem socketsInv_start : SocketsInv C .start where
  host := hostInv_start
  kept := List.forall_mem_nil _
  flag := fun _ => by
    rintro ⟨r, hr, -⟩
    cases hr
  task := fun k _ => by
    have hcut : CutAt [] [] [] [] := ⟨rfl, List.forall_mem_nil _, List.forall_mem_nil _⟩
    exact ⟨[], [], [], .inl ⟨hcut, rfl, rfl, rfl, rfl, rfl⟩⟩

/-- **A step** of the session or of a task. -/
theorem SocketsInv.step {w : SessionLink} (h : SocketsInv C w) (hC : C.PlainToken)
    (ev : SessionLinkEv) : SocketsInv C (w.step E R C ev) := by
  cases ev with
  | host ev =>
    have hgrows := w.host.grows_step (C := C) ev
    refine ⟨h.host.step ev, ?_, h.flag, fun k hk => ?_⟩
    · show ∀ line ∈ (w.host.step C ev).lines, keptLine line ≠ []
      rcases hgrows.lines with hlines | ⟨text, hne, hlines⟩
      · rw [hlines]
        exact h.kept
      · rw [hlines]
        exact List.forall_mem_append.mpr
          ⟨h.kept, List.forall_mem_singleton.mpr (keptLine_pyEncode hne)⟩
    · obtain ⟨more, hmore⟩ := hgrows.stream k
      show TaskInv ((w.host.step C ev).stream k) (w.tasks k)
      rw [hmore]
      exact (h.task k (hk.of_grows hgrows)).append more
  | task k arrives i =>
    refine ⟨h.host, h.kept, fun k' => ?_, fun k' hk' => ?_⟩
    · show (Function.update w.tasks k _ k').FlagKept
      by_cases hkk : k' = k
      · subst hkk
        rw [Function.update_self]
        exact (h.flag k').step _ arrives i
      · rw [Function.update_of_ne hkk]
        exact h.flag k'
    · show TaskInv (w.host.stream k') (Function.update w.tasks k _ k')
      by_cases hkk : k' = k
      · subst hkk
        rw [Function.update_self]
        obtain ⟨full, last, hsplit⟩ := splitItems_of_whole hk'.whole
        exact (h.task k' hk').step (noOtaLine_of_commands (h.commands hC hk') hsplit) arrives i
      · rw [Function.update_of_ne hkk]
        exact h.task k' hk'

/-- **From the prompt to the handlers.** However the calls of the session and the steps of the tasks
interleave, and however the bytes are cut: on a socket that is used for commands, the token goes
out first and the command lines in the order in which they were typed, none of them twice; the task
of the socket runs what has gone out on it, in that order and without a gap, and nothing else, but
for a part of the last line where the stream breaks off; and if the device has the token of the host
when the first line arrives, all others find the flag set. -/
theorem session_runs_in_order (hC : C.PlainToken) (evs : List SessionLinkEv) (k : Nat)
    (hk : PlainSocket k (Run.exec (SessionLink.step E R C) .start evs).host) :
    let w := Run.exec (SessionLink.step E R C) .start evs
    (∀ x ∈ (w.host.on k).head?, x.text = C.authLine) ∧
      ((w.host.on k).filterMap WireItem.typedNumber).Pairwise (· < ·) ∧
      (∃ n cut, RunsInOrder (w.host.on k) (w.tasks k) n cut) ∧
      ∀ r ∈ (w.tasks k).ran.head?, tokenInForce r.cmd r.state = C.token →
        ∀ r' ∈ (w.tasks k).ran.tail, r'.authed = true := by
  intro w
  have h : SocketsInv C w := Run.exec_inv socketsInv_start (fun _ ev h => h.step E R hC ev) evs
  have hitems := h.commands hC hk
  obtain ⟨full, last, hsplit⟩ := splitItems_of_whole hk.whole
  obtain ⟨n, cut, hruns⟩ := (h.task k hk).runs hitems hsplit
  refine ⟨h.host.log.head_on, h.host.log.pairwise_on, ⟨n, cut, hruns⟩, fun r hr htoken => ?_⟩
  -- the first line is the token, unless it is the only one
  obtain ⟨rs, hran⟩ := List.head?_eq_some_iff.mp hr
  have hlines := hruns.lines
  rw [hran, List.map_cons] at hlines
  cases htake : (w.host.on k).take n with
  | nil =>
    rw [htake, List.map_nil, List.nil_append] at hlines
    have hrs : rs = [] := by
      have hlen := congrArg List.length hlines
      rw [List.length_cons, List.length_map] at hlen
      have := Option.length_toList_le (o := cut)
      exact List.eq_nil_of_length_eq_zero (by omega)
    rw [hran, hrs]
    exact List.forall_mem_nil _
  | cons x xs =>
    rw [htake, List.map_cons, List.cons_append] at hlines
    have hhead : (w.host.on k).head? = some x := by
      rw [← List.take_append_drop n (w.host.on k), htake]
      rfl
    have hcommand : x.command = C.authCommand := by
      rw [WireItem.command, h.host.log.head_on x hhead]
      exact List.dropLast_concat
    refine ((h.flag k) ⟨r, hr, ?_⟩).2
    rw [(List.cons.inj hlines).1, hcommand, hC.keptLine, htoken]
    exact hC.accepted r.authed

end

/-- A session that connects and turns the LED on, and a task that gets it in two segments. -/
def ledSession : List SessionLinkEv :=
  [.host (.connected .up), .host (.typed " led_on".toList none), .host (.returned (.ok true))] ++
    List.replicate 3 (.task 0 (some 15) feedIn) ++ List.replicate 2 (.task 0 (some 256) feedIn)

theorem session_runs_in_order_led :
    let w := Run.exec (SessionLink.step ota0Env romCrc32 ⟨lit "hunter2", 12⟩) .start ledSession
    (∀ x ∈ (w.host.on 0).head?, x.text = HostConfig.authLine ⟨lit "hunter2", 12⟩) ∧
      ((w.host.on 0).filterMap WireItem.typedNumber).Pairwise (· < ·) ∧
      (∃ n cut, RunsInOrder (w.host.on 0) (w.tasks 0) n cut) ∧
      ∀ r ∈ (w.tasks 0).ran.head?, tokenInForce r.cmd r.state = lit "hunter2" →
        ∀ r' ∈ (w.tasks 0).ran.tail, r'.authed = true := by
  have hon : (Run.exec (SessionLink.step ota0Env romCrc32 ⟨lit "hunter2", 12⟩) .start
      ledSession).host.on 0 = [⟨0, .auth, lit "AUTH hunter2\n", 13, false⟩,
        ⟨0, .typed 0, lit "led_on\n", 7, false⟩] := by decide +kernel
  have hcall : cmdDispatchLine (keptLine (lit "led_on")) true =
      .called ⟨lit "led_on", true, .ledOn⟩ [] := by decide +kernel
  have htoken : HostConfig.PlainToken ⟨lit "hunter2", 12⟩ :=
    ⟨by decide, by decide +kernel, by decide +kernel, by decide +kernel⟩
  refine session_runs_in_order ota0Env romCrc32 htoken ledSession 0 ⟨?_, ?_, ?_⟩
  · rw [hon]
    refine List.forall_mem_cons.mpr ⟨(fun n hn => by cases hn), List.forall_mem_singleton.mpr ?_⟩
    exact fun _ _ => ⟨by decide, notOta_of_called hcall (by decide)⟩
  · rw [hon]
    decide
  · rw [hon]
    decide

/-- The LED command is run with the flag. -/
example :
    ((Run.exec (SessionLink.step ota0Env romCrc32 ⟨lit "hunter2", 12⟩) .start
      ledSession).tasks 0).ran.map (fun r => (r.line, r.authed)) =
      [(lit "AUTH hunter2", false), (lit "led_on", true)] := by decide +kernel

end RemoteControl
