import RemoteControl.Lib.Trace
import RemoteControl.Ota.Interleave

/-!
# The life of an OTA handle

A handle is open from the `esp_ota_begin` that returned it to the first `esp_ota_end` or
`esp_ota_abort` on it. `HandleInv` says, of the sessions that share the driver, that every call on a
handle was made while it was open, and that the open handles are exactly those of the open sessions,
one each. Every call on a session preserves it (`HandleInv.op`), so every handler of `OtaWorld` does
(`OtaWorld.Handled.step`), whatever the other handlers did in between and whatever failed.
-/

namespace RemoteControl

open CString

/-! ## Open handles -/

/-- A call on a handle is made while the handle is open. -/
def UsesOpen (pre : FlashLog) : FlashCall → Prop
  | .otaWrite h _ _ | .otaEnd h _ | .otaAbort h => handleOpen h pre = true
  | _ => True

/-- A call that begins nothing closes the handles it closes, and leaves the others as they are. -/
theorem handleOpen_concat {c : FlashCall} (hc : begun [c] = 0) (h : Nat) (log : FlashLog) :
    handleOpen h (log ++ [c]) = (handleOpen h log && !c.closes h) := by
  simp only [handleOpen, begun_append, hc, List.any_append, List.any_cons, List.any_nil,
    Bool.or_false, Bool.not_or, Bool.and_assoc, Nat.add_zero]

/-- A successful begin opens the next handle. -/
theorem Numbered.handleOpen_begin {log : FlashLog} (hn : Numbered log) (h : Nat) (p : Partition)
    (n : Nat) : handleOpen h (log ++ [.otaBegin p n .ok]) = true ↔
      handleOpen h log = true ∨ h = begun log + 1 := by
  by_cases heq : h = begun log + 1
  · subst heq
    simp [hn.handleOpen_fresh]
  · have hle : h ≤ begun log + 1 ↔ h ≤ begun log := by omega
    simp only [handleOpen, begun_append, begun_begin, if_true, List.any_append, hle, heq, or_false]
    simp [FlashCall.closes]

/-- An open handle was returned by a begin. -/
theorem handleOpen_le {h : Nat} {log : FlashLog} (ho : handleOpen h log = true) :
    h ≠ 0 ∧ h ≤ begun log := by
  simp only [handleOpen, Bool.and_eq_true, decide_eq_true_eq] at ho
  obtain ⟨⟨hlo, hhi⟩, -⟩ := ho
  exact ⟨by omega, hhi⟩

/-- **Once.** When calls are made on open handles only, a handle that was returned has been closed
once, or is still open. -/
theorem closes_once {log : FlashLog} (hused : Trace.Each UsesOpen log) {h : Nat} (hlo : 1 ≤ h)
    (hhi : h ≤ begun log) :
    log.countP (·.closes h) = if handleOpen h log then 0 else 1 := by
  have hone : log.countP (·.closes h) ≤ 1 := by
    refine hused.countP_le_one fun pre c hc hcl => ?_
    have hopen : handleOpen h pre = true := by
      match c, hcl with
      | .otaEnd h' _, hcl | .otaAbort h', hcl =>
        obtain rfl : h' = h := by simpa [FlashCall.closes] using hcl
        exact hc
    rw [handleOpen, Bool.and_eq_true] at hopen
    simpa using hopen.2
  have hiff : handleOpen h log = true ↔ log.countP (·.closes h) = 0 := by
    simp [handleOpen, hlo, hhi, List.countP_eq_zero]
  split
  · next ho => exact hiff.mp ho
  · next ho =>
    have hne : log.countP (·.closes h) ≠ 0 := fun h0 => ho (hiff.mpr h0)
    omega

/-! ## The invariant -/

/-- Every call on a handle was made while it was open, and the open handles are exactly those of the
open sessions, each the handle of one. -/
structure HandleInv {ι : Type} (sess : ι → Option OtaSession) (log : FlashLog) : Prop where
  numbered : Numbered log
  used : Trace.Each UsesOpen log
  opened : ∀ h, handleOpen h log = true ↔ ∃ i s, sess i = some s ∧ s.wr.handle = h
  one : ∀ i j s t, sess i = some s → sess j = some t → s.wr.handle = t.wr.handle → i = j
  ready : ∀ i s, sess i = some s → s.active = true ∧ s.wr.dst ≠ none

section
variable {ι : Type} {sess : ι → Option OtaSession} {log : FlashLog} {i : ι} {s : OtaSession}

/-- The handle of an open session is open. -/
theorem HandleInv.open_of (h : HandleInv sess log) (hs : sess i = some s) :
    handleOpen s.wr.handle log = true :=
  (h.opened _).mpr ⟨i, s, hs, rfl⟩

/-- A call that begins nothing and closes nothing, on an open handle. -/
theorem HandleInv.call (h : HandleInv sess log) {c : FlashCall} (hb : begun [c] = 0)
    (hle : c.handle ≤ begun log) (hc : ∀ h', c.closes h' = false) (hu : UsesOpen log c) :
    HandleInv sess (log ++ [c]) where
  numbered := h.numbered.append fun c' hc' => by
    obtain rfl := List.mem_singleton.mp hc'
    exact hle
  used := Trace.each_concat.mpr ⟨h.used, hu⟩
  opened h' := by rw [handleOpen_concat hb, hc, Bool.not_false, Bool.and_true, h.opened h']
  one := h.one
  ready := h.ready

/-- A failed begin. -/
theorem HandleInv.begin_failed (h : HandleInv sess log) {res : EspErr} (hres : res ≠ .ok)
    (p : Partition) (n : Nat) : HandleInv sess (log ++ [.otaBegin p n res]) :=
  h.call (by rw [begun_begin, if_neg hres]) (Nat.zero_le _) (fun _ => rfl) trivial

variable [DecidableEq ι]

/-- A session whose counters change and whose writer stays. -/
theorem HandleInv.counts (h : HandleInv sess log) (hs : sess i = some s) {s' : OtaSession}
    (hwr : s'.wr = s.wr) (hact : s'.active = s.active) :
    HandleInv (Function.update sess i (some s')) log := by
  have hback : ∀ j t, Function.update sess i (some s') j = some t →
      ∃ t₀, sess j = some t₀ ∧ t.wr = t₀.wr ∧ t.active = t₀.active := by
    intro j t ht
    by_cases hj : j = i
    · subst hj
      rw [Function.update_self] at ht
      cases ht
      exact ⟨s, hs, hwr, hact⟩
    · rw [Function.update_of_ne hj] at ht
      exact ⟨t, ht, rfl, rfl⟩
  refine ⟨h.numbered, h.used, fun h' => ?_, fun j k t u ht hu heq => ?_, fun j t ht => ?_⟩
  · rw [h.opened h']
    constructor
    · rintro ⟨j, t, ht, rfl⟩
      by_cases hj : j = i
      · subst hj
        obtain rfl : s = t := Option.some.inj (hs.symm.trans ht)
        exact ⟨j, s', Function.update_self .., by rw [hwr]⟩
      · exact ⟨j, t, by rw [Function.update_of_ne hj, ht], rfl⟩
    · rintro ⟨j, t, ht, rfl⟩
      obtain ⟨t₀, ht₀, hwr₀, -⟩ := hback j t ht
      exact ⟨j, t₀, ht₀, by rw [hwr₀]⟩
  · obtain ⟨t₀, ht₀, hwr₀, -⟩ := hback j t ht
    obtain ⟨u₀, hu₀, hwr₁, -⟩ := hback k u hu
    exact h.one j k t₀ u₀ ht₀ hu₀ (by rw [← hwr₀, ← hwr₁, heq])
  · obtain ⟨t₀, ht₀, hwr₀, hact₀⟩ := hback j t ht
    rw [hwr₀, hact₀]
    exact h.ready j t₀ ht₀

/-- A successful begin on a session that is not open. -/
theorem HandleInv.begin_ok (h : HandleInv sess log) (hi : sess i = none) {p dst : Partition}
    {n : Nat} (hact : s.active = true) (hwr : s.wr = ⟨begun log + 1, some dst⟩) :
    HandleInv (Function.update sess i (some s)) (log ++ [.otaBegin p n .ok]) := by
  have hold : ∀ j t, sess j = some t → j ≠ i ∧ t.wr.handle ≠ begun log + 1 := by
    intro j t ht
    refine ⟨fun hj => by simp [hj, hi] at ht, ?_⟩
    have := (handleOpen_le (h.open_of ht)).2
    omega
  have hback : ∀ j t, Function.update sess i (some s) j = some t →
      j = i ∧ t = s ∨ sess j = some t := by
    intro j t ht
    by_cases hj : j = i
    · subst hj
      rw [Function.update_self] at ht
      cases ht
      exact .inl ⟨rfl, rfl⟩
    · rw [Function.update_of_ne hj] at ht
      exact .inr ht
  refine ⟨h.numbered.begin _ _ _, Trace.each_concat.mpr ⟨h.used, trivial⟩, fun h' => ?_,
    fun j k t u ht hu heq => ?_, fun j t ht => ?_⟩
  · rw [h.numbered.handleOpen_begin, h.opened h']
    constructor
    · rintro (⟨j, t, ht, rfl⟩ | rfl)
      · exact ⟨j, t, by rw [Function.update_of_ne (hold j t ht).1, ht], rfl⟩
      · exact ⟨i, s, Function.update_self .., by rw [hwr]⟩
    · rintro ⟨j, t, ht, rfl⟩
      rcases hback j t ht with ⟨-, rfl⟩ | ht
      · exact .inr (by rw [hwr])
      · exact .inl ⟨j, t, ht, rfl⟩
  · rcases hback j t ht with ⟨rfl, rfl⟩ | hold₁ <;> rcases hback k u hu with ⟨rfl, rfl⟩ | hold₂
    · rfl
    · exact absurd (by rw [← heq, hwr]) (hold k u hold₂).2
    · exact absurd (by rw [heq, hwr]) (hold j t hold₁).2
    · exact h.one j k t u hold₁ hold₂ heq
  · rcases hback j t ht with ⟨-, rfl⟩ | ht
    · exact ⟨hact, by simp [hwr]⟩
    · exact h.ready j t ht

/-- The call that closes the handle of an open session, which is not open any more. -/
theorem HandleInv.close (h : HandleInv sess log) (hs : sess i = some s) {c : FlashCall}
    (hb : begun [c] = 0) (hle : c.handle = s.wr.handle)
    (hc : ∀ h', c.closes h' = true ↔ h' = s.wr.handle) (hu : UsesOpen log c) :
    HandleInv (Function.update sess i none) (log ++ [c]) := by
  have hback : ∀ j t, Function.update sess i none j = some t → j ≠ i ∧ sess j = some t := by
    intro j t ht
    by_cases hj : j = i
    · subst hj
      rw [Function.update_self] at ht
      cases ht
    · rw [Function.update_of_ne hj] at ht
      exact ⟨hj, ht⟩
  have hlt := (handleOpen_le (h.open_of hs)).2
  refine ⟨h.numbered.append fun c' hc' => ?_, Trace.each_concat.mpr ⟨h.used, hu⟩, fun h' => ?_,
    fun j k t u ht hu => h.one j k t u (hback j t ht).2 (hback k u hu).2,
    fun j t ht => h.ready j t (hback j t ht).2⟩
  · obtain rfl := List.mem_singleton.mp hc'
    omega
  · rw [handleOpen_concat hb, Bool.and_eq_true, Bool.not_eq_true', h.opened h',
      Bool.eq_false_iff, ne_eq, hc]
    constructor
    · rintro ⟨⟨j, t, ht, rfl⟩, hne⟩
      have hj : j ≠ i := by
        rintro rfl
        exact hne (by rw [Option.some.inj (ht.symm.trans hs)])
      exact ⟨j, t, by rw [Function.update_of_ne hj, ht], rfl⟩
    · rintro ⟨j, t, ht, rfl⟩
      obtain ⟨hj, ht⟩ := hback j t ht
      exact ⟨⟨j, t, ht, rfl⟩, fun heq => hj (h.one j i t s ht hs heq)⟩

variable {E : FlashEnv} {C : Crc32}

/-- An abort of an open session. -/
theorem HandleInv.abort (h : HandleInv sess log) (hs : sess i = some s) :
    HandleInv (Function.update sess i none) (otaSessionAbort s log).2 := by
  have hopen := h.open_of hs
  have hcalls : abortCalls s.wr = [.otaAbort s.wr.handle] := if_neg (handleOpen_le hopen).1
  rw [otaSessionAbort_eq, (h.ready i s hs).1, if_pos rfl, hcalls]
  exact h.close hs (begun_abort _) rfl (fun h' => beq_iff_eq.trans eq_comm) hopen

/-- A begin where no session is open. -/
theorem HandleInv.begin (h : HandleInv sess log) (hi : sess i = none) (n : Nat) (crc : UInt32)
    (src : Bytes) :
    HandleInv (Function.update sess i ((WriterOp.begin n crc src).run E C (none, log)).1)
      ((WriterOp.begin n crc src).run E C (none, log)).2 := by
  have hsame : Function.update sess i none = sess := by rw [← hi, Function.update_eq_self]
  obtain ⟨⟨e, s, log'⟩, hb⟩ : ∃ q, otaSessionBegin E .zero n crc src log = q := ⟨_, rfl⟩
  simp only [WriterOp.run, hb]
  rcases otaSessionBegin_cases E .zero n crc src log hb with
    ⟨-, -, dst, -, -, -, rfl, hbegun⟩ | ⟨-, rfl, rfl⟩ | ⟨-, -, hact, -, hlog⟩
  · rw [live_of_active hbegun.active]
    exact h.begin_ok hi hbegun.active hbegun.wr
  · rw [live_of_inactive rfl, hsame]
    exact h
  · rw [live_of_inactive hact, hsame]
    rcases hlog with rfl | ⟨dst, res, hres, rfl⟩
    · exact h
    · exact h.begin_failed hres dst n

/-- A chunk, with the abort when it is refused. -/
theorem HandleInv.put (h : HandleInv sess log) (hs : sess i = some s) (data : Bytes) :
    HandleInv (Function.update sess i ((WriterOp.put data).run E C (some s, log)).1)
      ((WriterOp.put data).run E C (some s, log)).2 := by
  have hopen := h.open_of hs
  have hwrite : ∀ res, HandleInv sess (log ++ [.otaWrite s.wr.handle data res]) := fun res =>
    h.call (begun_write ..) (handleOpen_le hopen).2 (fun _ => rfl) hopen
  obtain ⟨⟨e, s', log'⟩, hw⟩ : ∃ q, otaSessionWrite E C s data log = q := ⟨_, rfl⟩
  simp only [WriterOp.run, hw]
  rcases otaSessionWrite_cases E C s data log hw with
    ⟨rfl, -, -, -, -, rfl, since, rfl⟩ | ⟨hne, rfl, hlog⟩
  · rw [if_pos rfl]
    exact (hwrite .ok).counts hs rfl rfl
  · rw [if_neg hne]
    rcases hlog with rfl | ⟨res, -, rfl⟩
    · exact h.abort hs
    · exact (hwrite res).abort hs

/-- A finish of an open session: it aborts the handle, or it ends it. -/
theorem HandleInv.finish (h : HandleInv sess log) (hs : sess i = some s) :
    HandleInv (Function.update sess i none) (otaSessionFinish E s log).2.2 := by
  have hopen := h.open_of hs
  obtain ⟨hact, hdst⟩ := h.ready i s hs
  have hnz := (handleOpen_le hopen).1
  have hend : ∀ res, HandleInv (Function.update sess i none) (log ++ [.otaEnd s.wr.handle res]) :=
    fun res => h.close hs (begun_end ..) rfl (fun h' => beq_iff_eq.trans eq_comm) hopen
  obtain ⟨⟨e, s', log'⟩, hf⟩ : ∃ q, otaSessionFinish E s log = q := ⟨_, rfl⟩
  rw [hf]
  rcases otaSessionFinish_cases E s log hf with
    ⟨hinact, -⟩ | ⟨-, -, -, -, rfl⟩ | ⟨-, -, -, -, hwr⟩
  · rw [hact] at hinact
    cases hinact
  · have habort := h.abort hs
    rw [otaSessionAbort_eq, hact, if_pos rfl] at habort
    exact habort
  · rcases otaWriterEnd_cases E s.wr log hwr with
      ⟨-, -, h0 | hnone⟩ | ⟨-, dst, -, ⟨-, rfl⟩ | rfl⟩
    · exact absurd h0 hnz
    · exact absurd hnone hdst
    · exact hend e
    · -- the switch of the boot partition is on no handle
      rw [← List.singleton_append, ← List.append_assoc]
      exact (hend .ok).call rfl (Nat.zero_le _) (fun _ => rfl) trivial

/-- **One call.** Every call on a session preserves the invariant. -/
theorem HandleInv.op (h : HandleInv sess log) (op : WriterOp) :
    HandleInv (Function.update sess i (op.run E C (sess i, log)).1)
      (op.run E C (sess i, log)).2 := by
  have hsame : HandleInv (Function.update sess i (sess i)) log := by rwa [Function.update_eq_self]
  cases hs : sess i with
  | none =>
    rw [hs] at hsame
    cases op with
    | begin n crc src => exact h.begin hs n crc src
    | put data => exact hsame
    | expect crc => exact hsame
    | finish => exact hsame
    | abort => exact hsame
  | some s =>
    rw [hs] at hsame
    cases op with
    | begin n crc src => exact hsame
    | put data => exact h.put hs data
    | expect crc => exact h.counts hs rfl rfl
    | finish => exact h.finish hs
    | abort => exact h.abort hs

/-- **A handler.** So does every list of calls on one session. -/
theorem HandleInv.runs (h : HandleInv sess log) (ops : List WriterOp) :
    HandleInv (Function.update sess i (WriterOp.runs E C ops (sess i, log)).1)
      (WriterOp.runs E C ops (sess i, log)).2 := by
  induction ops generalizing sess log with
  | nil => rw [WriterOp.runs, List.foldl_nil, Function.update_eq_self]; exact h
  | cons op ops ih =>
    have hrest := ih (h.op (E := E) (C := C) (i := i) op)
    rw [Function.update_self, Function.update_idem] at hrest
    exact hrest

end

/-! ## Over the handlers -/

section
variable {E : FlashEnv} {C : Crc32} {w : OtaWorld}

/-- The invariant of the world. -/
def OtaWorld.Handled (w : OtaWorld) : Prop := HandleInv w.session w.log

theorem otaWorld_init_handled : OtaWorld.init.Handled := by
  have hnone : ∀ o, OtaWorld.init.session o = none := OtaWorld.Free.session ⟨rfl, nofun⟩
  refine ⟨nofun, Trace.each_nil, fun h => ?_, fun i j s t hs => ?_, fun i s hs => ?_⟩
  · constructor
    · intro ho
      obtain ⟨h0, hle⟩ := handleOpen_le ho
      exact absurd (Nat.le_zero.mp hle) h0
    · rintro ⟨i, s, hs, -⟩
      rw [hnone] at hs
      cases hs
  · rw [hnone] at hs
    cases hs
  · rw [hnone] at hs
    cases hs

/-- **A step.** Every handler preserves the invariant. -/
theorem OtaWorld.Handled.step (h : w.Handled) (ev : OtaEv) : (w.step E C ev).Handled := by
  obtain ⟨o, ops, hsession, hlog, -⟩ := w.step_runs (E := E) (C := C) ev
  unfold OtaWorld.Handled
  rw [hsession, hlog]
  exact HandleInv.runs h ops

/-- Every reachable state meets it. -/
theorem otaWorld_handled (E : FlashEnv) (C : Crc32) (evs : List OtaEv) :
    (Run.exec (OtaWorld.step E C) .init evs).Handled :=
  Run.exec_inv otaWorld_init_handled (fun _ ev h => h.step ev) evs

/-- Every run of `ota_perform` is over: it has returned, or waits for the restart. -/
def OtaWorld.TcpEnded (w : OtaWorld) : Prop := ∀ t ∈ w.tcp, t.pc.ended = true

/-- A run of `ota_perform` that is over has no open session. -/
theorem live_of_ended {β : Type} {t : TcpOta β} (h : t.pc.ended = true) : t.live = none := by
  unfold TcpOta.live
  cases hpc : t.pc with
  | payload got => rw [hpc] at h; cases h
  | tail got => rw [hpc] at h; cases h
  | returned e => rfl
  | restarting => rfl

/-- With no run of `ota_perform` under way, the one open handle is that of `s_ble`. -/
theorem OtaWorld.Handled.handleOpen_iff (h : w.Handled) (hended : w.TcpEnded) (handle : Nat) :
    handleOpen handle w.log = true ↔ w.ble.ble.active = true ∧ handle = w.ble.ble.wr.handle := by
  rw [h.opened handle]
  constructor
  · rintro ⟨o, s, hs, rfl⟩
    cases o with
    | tcp i =>
      obtain ⟨t, ht, hlive⟩ := Option.bind_eq_some_iff.mp hs
      rw [live_of_ended (hended t (List.mem_of_getElem? ht))] at hlive
      cases hlive
    | ble =>
      cases hact : w.ble.ble.active with
      | false =>
        rw [OtaWorld.session, live_of_inactive hact] at hs
        cases hs
      | true =>
        rw [OtaWorld.session, live_of_active hact] at hs
        cases hs
        exact ⟨rfl, rfl⟩
  · rintro ⟨hact, rfl⟩
    exact ⟨.ble, _, live_of_active hact, rfl⟩

/-- **The life of a handle.** After every interleaving of the BLE-OTA handlers with any number of
runs of `ota_perform`, under every pattern of failures: no call was made on a handle before it was
returned or after it was closed; every handle that was returned has been closed exactly once, or is
still open; and when no run of `ota_perform` is under way, the only open handle is that of `s_ble`,
which is open exactly while `s_ble` is active. -/
theorem otaHandle_lifecycle (E : FlashEnv) (C : Crc32) (evs : List OtaEv) :
    let w := Run.exec (OtaWorld.step E C) .init evs
    Trace.Each UsesOpen w.log ∧
      (∀ handle, 1 ≤ handle → handle ≤ begun w.log →
        w.log.countP (·.closes handle) = if handleOpen handle w.log then 0 else 1) ∧
      (w.TcpEnded → ∀ handle, handleOpen handle w.log = true ↔
        w.ble.ble.active = true ∧ handle = w.ble.ble.wr.handle) := by
  intro w
  have h : w.Handled := otaWorld_handled E C evs
  exact ⟨h.used, fun handle hlo hhi => closes_once h.used hlo hhi,
    fun hended => h.handleOpen_iff hended⟩

end

end RemoteControl
