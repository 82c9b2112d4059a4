import RemoteControl.Ble.Agreement
import RemoteControl.Ota.Handles
import RemoteControl.Ota.PerformRun

/-!
# The verdict of a BLE upload (`ble_ota_upload` in `ble_client.py`)

The host takes the upload for a success when no write of the START line and of the frames raises: it
reads no answer of the device, and behind the last frame a failing FINISH no longer counts. What the
device makes of the same writes depends on the transfer they meet there (`OtaWorld.meets`): the one
that is active already, or the one the START opens. `Completes` says when frames complete such a
transfer with the image, and `upload_run` that they switch the boot partition in no other case.
-/

namespace RemoteControl

open CString

/-! ## The host and the link -/

/-- What becomes of a write with response: it is acknowledged, or it raises, and may have reached
the device. -/
inductive CtrlFate where
  | acked
  | raised (reached : Bool)
  deriving DecidableEq

/-- What becomes of a write without response: it reaches the device, is lost on the way, or
raises. -/
inductive DataFate where
  | sent
  | lost
  | raised (reached : Bool)
  deriving DecidableEq

/-- What becomes of the writes of an upload, the frames by their number; and whether the link drops
behind the last frame. -/
structure UploadLink where
  start : CtrlFate
  data : Nat → DataFate
  abort : CtrlFate
  dropped : Bool
  finish : CtrlFate

section
variable (E : FlashEnv) (C : Crc32)

/-- A CTRL write: whether it is acknowledged, and the device after it. A device that has called
`esp_restart` acknowledges nothing. -/
def OtaWorld.ctrl (mode : ScMode) (m : Monitor) (line : Bytes) (fate : CtrlFate) (w : OtaWorld) :
    Bool × OtaWorld :=
  match fate with
  | .acked => (!w.ble.restarted, w.step E C (.bleCtrl mode m line))
  | .raised true => (false, w.step E C (.bleCtrl mode m line))
  | .raised false => (false, w)

/-- The loop over the frames, from the number `seq` on: whether none of them raised. A number that
needs more than 32 bits raises in `struct.pack`. -/
def uploadData (fate : Nat → DataFate) : Nat → List Bytes → OtaWorld → Bool × OtaWorld
  | _, [], w => (true, w)
  | seq, f :: fs, w =>
    if 2 ^ 32 ≤ seq then (false, w)
    else
      match fate seq with
      | .sent => uploadData fate (seq + 1) fs (w.step E C (.bleData f))
      | .lost => uploadData fate (seq + 1) fs w
      | .raised true => (false, w.step E C (.bleData f))
      | .raised false => (false, w)

/-- `ble_ota_upload`: its verdict, and the device after it. `mode` and `m` are the device's when the
START arrives; no other handler asks for the mode. -/
def bleOtaUpload (data : Bytes) (mtu : Nat) (mode : ScMode) (m : Monitor) (link : UploadLink)
    (w : OtaWorld) : Bool × OtaWorld :=
  let (acked, w) := w.ctrl E C mode m (uploadStart data) link.start
  if !acked then (false, w)
  else
    let (sent, w) := uploadData E C link.data 0 (uploadFrames data mtu) w
    if !sent then (false, (w.ctrl E C mode m (lit "BL_OTA ABORT") link.abort).2)
    else
      let w := if link.dropped then w.step E C .bleDisconnect else w
      -- `off >= size` behind the loop, so the first attempt returns, whether or not it raises
      (true, (w.ctrl E C mode m (lit "BL_OTA FINISH") link.finish).2)

end

/-! ## What the verdict is about -/

/-- Between the two states a session was finished with `ESP_OK` and the boot partition switched, and
what the session had taken is the image. -/
def Switched (data : Bytes) (w w' : OtaWorld) : Prop :=
  ∃ new handle p, w'.log = w.log ++ new ∧ [.otaEnd handle .ok, .setBoot p .ok] <:+ new ∧
    (stored handle w'.log).flatten = data

/-- The write of the START or of a frame raises. -/
def UploadRaises (data : Bytes) (mtu : Nat) (link : UploadLink) (w : OtaWorld) : Prop :=
  link.start ≠ .acked ∨ w.ble.restarted = true ∨
    ∃ i, i < (uploadFrames data mtu).length ∧
      (2 ^ 32 ≤ i ∨ ∃ reached, link.data i = .raised reached)

/-- A transfer as the frames meet it: the sequence number it expects, the bytes written and
announced, what its session has taken, the CRC of that and the announced one, and how many calls of
the driver there have been. -/
structure Met where
  seq : Nat
  written : Nat
  total : Nat
  taken : Bytes
  running : UInt32
  crc : UInt32
  calls : Nat

/-- The transfer that the frames of an upload meet, by the state before its START. -/
def OtaWorld.meets (E : FlashEnv) (data : Bytes) (mode : ScMode) (w : OtaWorld) : Option Met :=
  if w.ble.bo.active then
    some ⟨w.ble.bo.expectSeq, w.ble.bo.written, w.ble.bo.total,
      (stored w.ble.ble.wr.handle w.log).flatten, w.ble.ble.crcRunning, w.ble.ble.crcExpect,
      w.log.length⟩
  else
    match scanSizeCrc ((ctrlLine (uploadStart data)).drop 12), E.next with
    | some (size, crc), some dst =>
      if mode = .recovery ∧ size ≠ 0 ∧ size ≤ dst.size ∧ E.fate .otaBegin w.log.length = .ok then
        some ⟨0, 0, size, [], 0, UInt32.ofNat crc, w.log.length + 1⟩
      else none
    | _, _ => none

/-- The first `k` of the chunks complete the transfer: all of them are delivered and taken by
`esp_ota_write`; they make up the announced length, and with what was there before the image; the
announced CRC is 0 or theirs; and closing the handle and switching the boot partition succeed. -/
structure CompletesAt (E : FlashEnv) (C : Crc32) (fate : Nat → DataFate) (data : Bytes) (t : Met)
    (chunks : List Bytes) (k : Nat) : Prop where
  pos : 0 < k
  le : k ≤ chunks.length
  sent : ∀ i, i < k → fate (t.seq + i) = .sent
  written : ∀ i, i < k → E.fate .otaWrite (t.calls + i) = .ok
  part : ∀ i, 0 < i → i < k → (t.written + (chunks.take i).flatten.length) % 2 ^ 32 < t.total
  full : (t.written + (chunks.take k).flatten.length) % 2 ^ 32 = t.total
  image : t.taken ++ (chunks.take k).flatten = data
  crc : t.crc = 0 ∨ C.update t.running (chunks.take k).flatten = t.crc
  closed : E.fate .otaEnd (t.calls + k) = .ok
  booted : E.fate .setBoot (t.calls + k + 1) = .ok

/-- Chunks, the first one numbered as the transfer expects, complete it with the image. -/
def Completes (E : FlashEnv) (C : Crc32) (fate : Nat → DataFate) (data : Bytes) (t : Met)
    (chunks : List Bytes) : Prop :=
  ∃ k, CompletesAt E C fate data t chunks k

/-- The transfer after one more chunk. -/
def Met.next (C : Crc32) (c : Bytes) (t : Met) : Met where
  seq := t.seq + 1
  written := (t.written + c.length) % 2 ^ 32
  total := t.total
  taken := t.taken ++ c
  running := C.update t.running c
  crc := t.crc
  calls := t.calls + 1

section
variable {E : FlashEnv} {C : Crc32} {fate : Nat → DataFate} {data : Bytes}

/-- No chunks complete nothing. -/
theorem not_completes_nil (t : Met) : ¬ Completes E C fate data t [] := by
  rintro ⟨k, h⟩
  have hpos := h.pos
  have hle := h.le
  simp only [List.length_nil] at hle
  omega

/-- The first chunk alone. -/
theorem completesAt_one (t : Met) (c : Bytes) (cs : List Bytes) :
    CompletesAt E C fate data t (c :: cs) 1 ↔
      fate t.seq = .sent ∧ E.fate .otaWrite t.calls = .ok ∧ (t.next C c).written = t.total ∧
        (t.next C c).taken = data ∧ (t.crc = 0 ∨ (t.next C c).running = t.crc) ∧
        E.fate .otaEnd (t.calls + 1) = .ok ∧ E.fate .setBoot (t.calls + 2) = .ok := by
  have hone : ((c :: cs).take 1).flatten = c := by simp
  constructor
  · intro h
    have hfull := h.full
    have himage := h.image
    have hcrc := h.crc
    rw [hone] at hfull himage hcrc
    exact ⟨h.sent 0 h.pos, h.written 0 h.pos, hfull, himage, hcrc, h.closed, h.booted⟩
  · rintro ⟨hsent, hwrite, hfull, himage, hcrc, hclosed, hbooted⟩
    exact {
      pos := Nat.one_pos
      le := by simp
      sent := fun i hi => by
        obtain rfl : i = 0 := by omega
        exact hsent
      written := fun i hi => by
        obtain rfl : i = 0 := by omega
        exact hwrite
      part := fun i hpos hi => by omega
      full := by rw [hone]; exact hfull
      image := by rw [hone]; exact himage
      crc := by rw [hone]; exact hcrc
      closed := hclosed
      booted := hbooted }

/-- The first chunk and `k` more. -/
theorem completesAt_succ (t : Met) (c : Bytes) (cs : List Bytes) {k : Nat} (hk : 0 < k) :
    CompletesAt E C fate data t (c :: cs) (k + 1) ↔
      fate t.seq = .sent ∧ E.fate .otaWrite t.calls = .ok ∧ (t.next C c).written < t.total ∧
        CompletesAt E C fate data (t.next C c) cs k := by
  -- what is said of the rest after the first chunk is the same as of the whole
  have htake : ∀ i, ((c :: cs).take (i + 1)).flatten = c ++ (cs.take i).flatten := fun i => by
    rw [List.take_succ_cons, List.flatten_cons]
  have hwritten : ∀ i, (t.written + ((c :: cs).take (i + 1)).flatten.length) % 2 ^ 32 =
      ((t.next C c).written + (cs.take i).flatten.length) % 2 ^ 32 := fun i => by
    rw [htake, List.length_append, ← Nat.add_assoc]
    exact (Nat.mod_add_mod _ _ _).symm
  have hrunning : ∀ i, C.update t.running ((c :: cs).take (i + 1)).flatten =
      C.update (t.next C c).running (cs.take i).flatten := fun i => by
    rw [htake]
    exact (C.update_append _ _ _).symm
  have htaken : ∀ i, t.taken ++ ((c :: cs).take (i + 1)).flatten =
      (t.next C c).taken ++ (cs.take i).flatten := fun i => by
    rw [htake]
    exact (List.append_assoc _ _ _).symm
  have hseq : ∀ i, t.seq + (i + 1) = (t.next C c).seq + i := fun i =>
    (Nat.add_right_comm t.seq 1 i).symm
  have hcalls : ∀ i, t.calls + (i + 1) = (t.next C c).calls + i := fun i =>
    (Nat.add_right_comm t.calls 1 i).symm
  constructor
  · intro h
    refine ⟨h.sent 0 h.pos, h.written 0 h.pos, ?_, ?_⟩
    · have hpart := h.part 1 Nat.one_pos (by omega)
      rw [hwritten, List.take_zero, List.flatten_nil, List.length_nil, Nat.add_zero] at hpart
      rwa [Met.next, Nat.mod_mod] at hpart
    · exact {
        pos := hk
        le := Nat.le_of_succ_le_succ h.le
        sent := fun i hi => by rw [← hseq]; exact h.sent (i + 1) (by omega)
        written := fun i hi => by rw [← hcalls]; exact h.written (i + 1) (by omega)
        part := fun i hpos hi => by rw [← hwritten]; exact h.part (i + 1) (by omega) (by omega)
        full := by rw [← hwritten]; exact h.full
        image := by rw [← htaken]; exact h.image
        crc := by rw [← hrunning]; exact h.crc
        closed := by rw [← hcalls]; exact h.closed
        booted := by rw [← hcalls]; exact h.booted }
  · rintro ⟨hsent, hwrite, hpart, h⟩
    exact {
      pos := Nat.succ_pos k
      le := Nat.succ_le_succ h.le
      sent := fun i hi => by
        cases i with
        | zero => exact hsent
        | succ i => rw [hseq]; exact h.sent i (by omega)
      written := fun i hi => by
        cases i with
        | zero => exact hwrite
        | succ i => rw [hcalls]; exact h.written i (by omega)
      part := fun i hpos hi => by
        match i, hpos with
        | 1, _ =>
          rw [hwritten, List.take_zero, List.flatten_nil, List.length_nil, Nat.add_zero]
          exact Nat.lt_of_le_of_lt (Nat.mod_le _ _) hpart
        | i + 2, _ => rw [hwritten]; exact h.part (i + 1) (Nat.succ_pos i) (by omega)
      full := by rw [hwritten]; exact h.full
      image := by rw [htaken]; exact h.image
      crc := by rw [hrunning]; exact h.crc
      closed := by rw [hcalls]; exact h.closed
      booted := by rw [hcalls]; exact h.booted }

/-- **The first chunk** completes the transfer, or it leaves that to the others. -/
theorem completes_cons (t : Met) (c : Bytes) (cs : List Bytes) :
    Completes E C fate data t (c :: cs) ↔
      fate t.seq = .sent ∧ E.fate .otaWrite t.calls = .ok ∧
        (((t.next C c).written = t.total ∧ (t.next C c).taken = data ∧
            (t.crc = 0 ∨ (t.next C c).running = t.crc) ∧ E.fate .otaEnd (t.calls + 1) = .ok ∧
            E.fate .setBoot (t.calls + 2) = .ok) ∨
          ((t.next C c).written < t.total ∧ Completes E C fate data (t.next C c) cs)) := by
  constructor
  · rintro ⟨k, h⟩
    obtain ⟨k, rfl⟩ := Nat.exists_eq_succ_of_ne_zero (Nat.ne_of_gt h.pos)
    cases k with
    | zero =>
      obtain ⟨hsent, hwrite, hrest⟩ := (completesAt_one t c cs).mp h
      exact ⟨hsent, hwrite, .inl hrest⟩
    | succ k =>
      obtain ⟨hsent, hwrite, hpart, hrest⟩ := (completesAt_succ t c cs k.succ_pos).mp h
      exact ⟨hsent, hwrite, .inr ⟨hpart, k + 1, hrest⟩⟩
  · rintro ⟨hsent, hwrite, hrest | ⟨hpart, k, hrest⟩⟩
    · exact ⟨1, (completesAt_one t c cs).mpr ⟨hsent, hwrite, hrest⟩⟩
    · exact ⟨k + 1, (completesAt_succ t c cs hrest.pos).mpr ⟨hsent, hwrite, hpart, hrest⟩⟩

end

/-! ## Where an upload can end -/

/-- The log grows, and no switch of the boot partition in it succeeds. -/
def NoSwitch (w w' : OtaWorld) : Prop :=
  ∃ new, w'.log = w.log ++ new ∧ ∀ p, FlashCall.setBoot p .ok ∉ new

/-- Where the device ends up, `done` being the condition under which it has switched to the image: a
session was finished with `ESP_OK`, and had taken the image just when `done` holds; or `done` does
not hold, and no switch of the boot partition succeeded. -/
inductive UploadEnd (data : Bytes) (done : Prop) (w w' : OtaWorld) : Prop
  | finished (new : FlashLog) (handle : Nat) (p : Partition) (restarted : w'.ble.restarted = true)
      (log : w'.log = w.log ++ new) (last : [.otaEnd handle .ok, .setBoot p .ok] <:+ new)
      (image : (stored handle w'.log).flatten = data ↔ done)
  | failed (fails : ¬ done) (log : NoSwitch w w')

section
variable {E : FlashEnv} {C : Crc32} {fate : Nat → DataFate} {data : Bytes} {w w' w'' : OtaWorld}

theorem NoSwitch.refl (w : OtaWorld) : NoSwitch w w := ⟨[], (List.append_nil _).symm, by simp⟩

theorem NoSwitch.trans (h : NoSwitch w w') (h' : NoSwitch w' w'') : NoSwitch w w'' := by
  obtain ⟨new, hlog, hnew⟩ := h
  obtain ⟨new', hlog', hnew'⟩ := h'
  refine ⟨new ++ new', by rw [hlog', hlog, List.append_assoc], fun p hmem => ?_⟩
  rcases List.mem_append.mp hmem with hmem | hmem
  · exact hnew p hmem
  · exact hnew' p hmem

theorem NoSwitch.of_keepsBoot (h : KeepsBoot w.log w'.log) : NoSwitch w w' := by
  obtain ⟨new, hlog, hnew⟩ := h
  exact ⟨new, hlog, fun p => hnew p .ok⟩

/-- The condition may be put in other words. -/
theorem UploadEnd.congr {done done' : Prop} (h : UploadEnd data done w w') (hiff : done ↔ done') :
    UploadEnd data done' w w' := by
  rwa [← propext hiff]

/-- What has happened before without a switch does not matter. -/
theorem UploadEnd.after {done : Prop} (h : UploadEnd data done w' w'') (hno : NoSwitch w w') :
    UploadEnd data done w w'' := by
  cases h with
  | finished new handle p hrestarted hlog hlast himage =>
    obtain ⟨new', hlog', -⟩ := hno
    exact .finished (new' ++ new) handle p hrestarted (by rw [hlog, hlog', List.append_assoc])
      (hlast.trans (List.suffix_append _ _)) himage
  | failed hfails hlog => exact .failed hfails (hno.trans hlog)

/-- **The boot partition** was switched to the image just when `done` holds. -/
theorem UploadEnd.switched_iff {done : Prop} (h : UploadEnd data done w w') :
    Switched data w w' ↔ done := by
  cases h with
  | finished new handle p _ hlog hlast himage =>
    constructor
    · rintro ⟨new', handle', p', hlog', hlast', himage'⟩
      obtain rfl : new = new' := List.append_cancel_left (hlog.symm.trans hlog')
      -- the last two calls are the same ones
      obtain ⟨pre, hpre⟩ := hlast
      obtain ⟨pre', hpre'⟩ := hlast'
      obtain ⟨-, heq⟩ := List.append_inj' (hpre.trans hpre'.symm) rfl
      obtain rfl : handle = handle' := by
        simp only [List.cons.injEq, FlashCall.otaEnd.injEq] at heq
        exact heq.1.1
      exact himage.mp himage'
    · exact fun hdone => ⟨new, handle, p, hlog, hlast, himage.mpr hdone⟩
  | failed hfails hno =>
    refine ⟨?_, fun hdone => absurd hdone hfails⟩
    rintro ⟨new, handle, p, hlog, hlast, -⟩
    obtain ⟨new', hlog', hnew'⟩ := hno
    obtain rfl : new = new' := List.append_cancel_left (hlog.symm.trans hlog')
    exact absurd (hlast.subset (by simp)) (hnew' p)

/-! ## CTRL writes and the end of the link switch nothing -/

/-- A FINISH of an incomplete image aborts it. -/
theorem bleOtaFinish_keepsBoot {b : BleOta} (h : BleAgree E b) (log : FlashLog) :
    KeepsBoot log (bleOtaFinish E b log).2 := by
  unfold bleOtaFinish
  split
  · exact .refl log
  · next hact =>
    have ht := h.transfer (by simpa using hact)
    have hpart : b.ble.bytesWritten ≠ b.ble.bytesExpected := by
      rw [← ht.written, ← ht.total]
      exact Nat.ne_of_lt ht.incomplete
    obtain ⟨⟨e, ble, log'⟩, hf⟩ : ∃ q, otaSessionFinish E b.ble log = q := ⟨_, rfl⟩
    have hkeeps : KeepsBoot log log' := by
      rcases otaSessionFinish_cases E b.ble log hf with
        ⟨-, -, -, hlog⟩ | ⟨-, -, -, -, hlog⟩ | ⟨-, -, hall, -⟩
      · rw [hlog]
        exact .refl log
      · refine ⟨abortCalls b.ble.wr, hlog, fun p res => ?_⟩
        unfold abortCalls
        split <;> simp
      · exact absurd hall hpart
    simp only [otaFinishXport, hf]
    split <;> exact hkeeps

/-- No CTRL write switches the boot partition. -/
theorem bleOtaOnCtrlWrite_keepsBoot {b : BleOta} (h : BleAgree E b) (mode : ScMode) (line : Bytes)
    (m : Monitor) (log : FlashLog) :
    KeepsBoot log (bleOtaOnCtrlWrite E mode line m b log).2.2 := by
  unfold bleOtaOnCtrlWrite
  split
  · exact .refl log
  · dsimp only
    split
    · exact bleOtaStart_keepsBoot E mode _ m b log
    · split
      · exact bleOtaFinish_keepsBoot h log
      · split
        · unfold bleOtaAbort
          split
          · exact .refl log
          · exact otaSessionAbort_keepsBoot b.ble log
        · exact .refl log

/-- A CTRL write or a disconnect switches nothing. -/
theorem noSwitch_ctrl (h : w.Agrees E) (mode : ScMode) (m : Monitor) (line : Bytes) :
    NoSwitch w (w.step E C (.bleCtrl mode m line)) := by
  simp only [OtaWorld.step]
  split
  · exact .refl w
  · exact .of_keepsBoot (bleOtaOnCtrlWrite_keepsBoot h mode line m w.log)

theorem noSwitch_disconnect (h : w.Agrees E) : NoSwitch w (w.step E C .bleDisconnect) := by
  simp only [OtaWorld.step]
  split
  · exact .refl w
  · refine .of_keepsBoot ?_
    unfold bleOtaOnDisconnect
    split
    · exact .refl w.log
    · next hact =>
      have hlt := (h.transfer (by simpa using hact)).incomplete
      rw [if_neg (by omega)]
      exact otaSessionAbort_keepsBoot w.ble.ble w.log

/-- After `esp_restart` the BLE task does nothing. -/
theorem step_restarted (h : w.ble.restarted = true) {ev : OtaEv}
    (hble : ∀ s ok size i r, ev ≠ .tcpEnter s ok size ∧ ev ≠ .tcpRecv i r) :
    w.step E C ev = w := by
  cases ev with
  | tcpEnter s ok size => exact absurd rfl (hble s ok size 0 .err).1
  | tcpRecv i r => exact absurd rfl (hble .zero true 0 i r).2
  | bleCtrl mode m line => simp only [OtaWorld.step, if_pos h]
  | bleData f => simp only [OtaWorld.step, if_pos h]
  | bleDisconnect => simp only [OtaWorld.step, if_pos h]

/-! ## A transfer takes the frames -/

/-- The transfer `t` is under way on the device. -/
structure Meeting (t : Met) (w : OtaWorld) : Prop where
  running : w.ble.restarted = false
  active : w.ble.bo.active = true
  seq : w.ble.bo.expectSeq = t.seq
  written : w.ble.bo.written = t.written
  total : w.ble.bo.total = t.total
  session : w.ble.ble.active = true
  handle : w.ble.ble.wr.handle ≠ 0
  target : w.ble.ble.wr.dst ≠ none
  bytesWritten : w.ble.ble.bytesWritten = t.written
  expected : w.ble.ble.bytesExpected = t.total
  crcRunning : w.ble.ble.crcRunning = t.running
  crcExpect : w.ble.ble.crcExpect = t.crc
  taken : (stored w.ble.ble.wr.handle w.log).flatten = t.taken
  calls : w.log.length = t.calls

/-- The step of a DATA write on a device that runs. -/
theorem step_bleData (h : w.ble.restarted = false) (f : Bytes) :
    w.step E C (.bleData f) =
      { w with
        ble := (bleOtaOnDataWrite E C f w.ble w.log).1
        log := (bleOtaOnDataWrite E C f w.ble w.log).2 } := by
  simp only [OtaWorld.step, h, Bool.false_eq_true, if_false]

/-- A frame that is not the next one changes nothing. -/
theorem step_bleData_dropped {f : Bytes} (h : ¬ NextFrame w.ble f) :
    w.step E C (.bleData f) = w := by
  cases hr : w.ble.restarted with
  | true => exact step_restarted hr (by simp)
  | false => rw [step_bleData hr, bleOtaOnDataWrite_dropped E C h]

variable {t : Met} {c : Bytes}

/-- The frame with the expected number is the next one when its chunk fits. -/
theorem Meeting.nextFrame_iff (h : Meeting t w) (hseq : t.seq < 2 ^ 32) (hc : c.length < 2 ^ 16) :
    NextFrame w.ble (uploadFrame t.seq c) ↔ (t.next C c).written ≤ t.total := by
  obtain ⟨h4, h2, hlen, -⟩ := uploadFrame_fields hseq hc
  constructor
  · intro hnext
    have hfits := hnext.fits
    rw [h2, h.written, h.total] at hfits
    exact hfits
  · intro hfits
    exact ⟨h.active, by rw [h2, hlen], by rw [h4, h.seq],
      by rw [h2, h.written, h.total]; exact hfits⟩

/-- The chunk of the next frame is handed to the session, which has room for it. -/
theorem Meeting.handed (h : Meeting t w) (hseq : t.seq < 2 ^ 32) (hc : c.length < 2 ^ 16)
    (hfits : (t.next C c).written ≤ t.total) {e : EspErr} {ble : OtaSession} {log : FlashLog}
    (hw : otaSessionWrite E C w.ble.ble c w.log = (e, ble, log)) :
    w.step E C (.bleData (uploadFrame t.seq c)) =
      (let r :=
        if e ≠ .ok then
          (({ w.ble.send (lit "ERR WRITE") with ble := (otaSessionAbort ble log).1 }).reset,
            (otaSessionAbort ble log).2)
        else bleOtaTaken E c.length { w.ble with ble := ble } log
       { w with ble := r.1, log := r.2 }) := by
  have hnext := (h.nextFrame_iff (C := C) hseq hc).mpr hfits
  have hchunk : (uploadFrame t.seq c).drop 6 = c := frameChunk_uploadFrame t.seq c
  have hdata := bleOtaOnDataWrite_next E C hnext (hchunk.symm ▸ hw)
  rw [step_bleData h.running, hdata, hchunk]

/-- The room the session has. -/
theorem Meeting.fits (h : Meeting t w) (hfits : (t.next C c).written ≤ t.total) :
    (w.ble.ble.bytesWritten + c.length) % 2 ^ 32 ≤ w.ble.ble.bytesExpected := by
  rw [h.bytesWritten, h.expected]
  exact hfits

/-- **The driver refuses the chunk**: the transfer is aborted. -/
theorem Meeting.refused (h : Meeting t w) (hseq : t.seq < 2 ^ 32) (hne : c ≠ [])
    (hc : c.length < 2 ^ 16) (hfits : (t.next C c).written ≤ t.total)
    (hfail : E.fate .otaWrite t.calls ≠ .ok) :
    (w.step E C (.bleData (uploadFrame t.seq c))).ble.bo.active = false ∧
      NoSwitch w (w.step E C (.bleData (uploadFrame t.seq c))) := by
  rw [← h.calls] at hfail
  have hw := otaSessionWrite_refused (C := C) h.session hne h.handle (h.fits hfits) hfail
  rw [h.handed hseq hc hfits hw, if_pos hfail]
  have hcall : NoSwitch w { w with
      log := w.log ++ [.otaWrite w.ble.ble.wr.handle c (E.fate .otaWrite w.log.length)] } :=
    ⟨_, rfl, by simp⟩
  exact ⟨rfl, hcall.trans (.of_keepsBoot (otaSessionAbort_keepsBoot _ _))⟩

/-- **The chunk is taken** and more are to come. -/
theorem Meeting.advance (h : Meeting t w) (hseq : t.seq < 2 ^ 32) (hne : c ≠ [])
    (hc : c.length < 2 ^ 16) (hpart : (t.next C c).written < t.total)
    (hok : E.fate .otaWrite t.calls = .ok) :
    (t.seq + 1 < 2 ^ 32 →
        Meeting (t.next C c) (w.step E C (.bleData (uploadFrame t.seq c)))) ∧
      NoSwitch w (w.step E C (.bleData (uploadFrame t.seq c))) := by
  rw [← h.calls] at hok
  obtain ⟨since, hw⟩ := otaSessionWrite_ok E C h.session hne h.handle
    (h.fits (Nat.le_of_lt hpart)) hok
  rw [h.handed hseq hc (Nat.le_of_lt hpart) hw, if_neg (by simp)]
  obtain ⟨sent, htaken⟩ := bleOtaTaken_advance (E := E) c.length
    (b := { w.ble with ble := { w.ble.ble with
      bytesWritten := (w.ble.ble.bytesWritten + c.length) % 2 ^ 32
      crcRunning := C.update w.ble.ble.crcRunning c
      sinceYield := since } })
    (by
      rw [h.written, h.total]
      exact Nat.ne_of_lt hpart)
    (w.log ++ [.otaWrite w.ble.ble.wr.handle c .ok])
  rw [htaken]
  refine ⟨fun hsucc => ?_, ⟨_, rfl, by simp⟩⟩
  exact {
    running := h.running
    active := h.active
    seq := by
      change (w.ble.bo.expectSeq + 1) % 2 ^ 32 = t.seq + 1
      rw [h.seq, Nat.mod_eq_of_lt hsucc]
    written := by
      change (w.ble.bo.written + c.length) % 2 ^ 32 = (t.written + c.length) % 2 ^ 32
      rw [h.written]
    total := h.total
    session := h.session
    handle := h.handle
    target := h.target
    bytesWritten := by
      change (w.ble.ble.bytesWritten + c.length) % 2 ^ 32 = (t.written + c.length) % 2 ^ 32
      rw [h.bytesWritten]
    expected := h.expected
    crcRunning := by
      change C.update w.ble.ble.crcRunning c = C.update t.running c
      rw [h.crcRunning]
    crcExpect := h.crcExpect
    taken := by
      change (stored w.ble.ble.wr.handle (w.log ++ [.otaWrite w.ble.ble.wr.handle c .ok])).flatten =
        t.taken ++ c
      rw [stored_append, List.flatten_append, h.taken]
      simp
    calls := by
      rw [Met.next, ← h.calls]
      exact List.length_append }

/-- The finish of a complete image: it switches the boot partition when the CRC is right and the
driver does its part, and else the transfer is over. -/
theorem bleOtaFinalize_whole {b : BleOta} (hact : b.ble.active = true) {handle : Nat}
    {dst : Partition} (hwr : b.ble.wr = ⟨handle, some dst⟩) (hh : handle ≠ 0)
    (hall : b.ble.bytesWritten = b.ble.bytesExpected) (log : FlashLog) :
    ((b.ble.crcExpect = 0 ∨ b.ble.crcRunning = b.ble.crcExpect) ∧
        E.fate .otaEnd log.length = .ok ∧ E.fate .setBoot (log.length + 1) = .ok ∧
        (bleOtaFinalize E b log).1.restarted = true ∧
        (bleOtaFinalize E b log).2 = log ++ [.otaEnd handle .ok, .setBoot dst .ok]) ∨
      (¬ ((b.ble.crcExpect = 0 ∨ b.ble.crcRunning = b.ble.crcExpect) ∧
          E.fate .otaEnd log.length = .ok ∧ E.fate .setBoot (log.length + 1) = .ok) ∧
        (bleOtaFinalize E b log).1.bo.active = false ∧
        ∃ new, (bleOtaFinalize E b log).2 = log ++ new ∧ ∀ p, FlashCall.setBoot p .ok ∉ new) := by
  obtain ⟨⟨e, ble, log'⟩, hf⟩ : ∃ q, otaSessionFinish E b.ble log = q := ⟨_, rfl⟩
  have hfail : e ≠ .ok → (bleOtaFinalize E b log).1.bo.active = false ∧
      (bleOtaFinalize E b log).2 = log' := by
    intro hne
    have habort : otaSessionAbort ble log' = (ble, log') := by
      rw [otaSessionAbort_eq, (otaSessionFinish_log E b.ble log hf).1]
      rfl
    simp only [bleOtaFinalize, otaFinishXport, otaAbortXport, BleOta.send, hf, habort, if_pos hne]
    exact ⟨rfl, trivial⟩
  rcases otaSessionFinish_whole hact hwr hh hall hf with
    ⟨hcrc, hcrc', rfl, hlog⟩ | ⟨hcrc, ⟨hne, he, hlog⟩ | ⟨hend, he, hlog⟩⟩
  · obtain ⟨hoff, hlog'⟩ := hfail (by simp)
    refine .inr ⟨fun h => h.1.elim hcrc hcrc', hoff, [.otaAbort handle], hlog'.trans hlog, by simp⟩
  · obtain ⟨hoff, hlog'⟩ := hfail hne
    refine .inr ⟨fun h => hne (he.trans h.2.1), hoff, [.otaEnd handle e], hlog'.trans hlog, by simp⟩
  · by_cases hok : e = .ok
    · subst hok
      refine .inl ⟨hcrc, hend, he.symm, ?_⟩
      simp only [bleOtaFinalize, otaFinishXport, hf, ne_eq, not_true_eq_false, if_false]
      exact ⟨trivial, hlog⟩
    · obtain ⟨hoff, hlog'⟩ := hfail hok
      refine .inr ⟨fun h => hok (he.trans h.2.2), hoff, [.otaEnd handle .ok, .setBoot dst e],
        hlog'.trans hlog, fun p hmem => ?_⟩
      simp only [List.mem_cons, reduceCtorEq, FlashCall.setBoot.injEq, List.not_mem_nil, or_false,
        false_or] at hmem
      exact hok hmem.2.symm

/-- **The chunk completes the image**, and the transfer is finished. -/
theorem Meeting.complete (h : Meeting t w) (image : Bytes) (hseq : t.seq < 2 ^ 32) (hne : c ≠ [])
    (hc : c.length < 2 ^ 16) (hall : (t.next C c).written = t.total)
    (hok : E.fate .otaWrite t.calls = .ok) :
    let w' := w.step E C (.bleData (uploadFrame t.seq c))
    (w'.ble.restarted = true ∨ w'.ble.bo.active = false) ∧
      UploadEnd image ((t.next C c).taken = image ∧ (t.crc = 0 ∨ (t.next C c).running = t.crc) ∧
        E.fate .otaEnd (t.calls + 1) = .ok ∧ E.fate .setBoot (t.calls + 2) = .ok) w w' := by
  intro w'
  have hok' : E.fate .otaWrite w.log.length = .ok := by rw [h.calls]; exact hok
  obtain ⟨since, hw⟩ := otaSessionWrite_ok E C h.session hne h.handle
    (h.fits (Nat.le_of_eq hall)) hok'
  obtain ⟨dst, hdst⟩ := Option.ne_none_iff_exists'.mp h.target
  have hstep : w' = _ := h.handed hseq hc (Nat.le_of_eq hall) hw
  rw [if_neg (by simp)] at hstep
  obtain ⟨mark, sent, htaken⟩ := bleOtaTaken_spec E c.length
    { w.ble with ble := { w.ble.ble with
      bytesWritten := (w.ble.ble.bytesWritten + c.length) % 2 ^ 32
      crcRunning := C.update w.ble.ble.crcRunning c
      sinceYield := since } }
    (w.log ++ [.otaWrite w.ble.ble.wr.handle c .ok])
  rw [if_pos (by rw [h.written, h.total]; exact hall)] at htaken
  rw [htaken] at hstep
  generalize hb₁ : BleOta.advance c.length mark sent _ = b₁ at hstep
  have hble : b₁.ble = { w.ble.ble with
      bytesWritten := (w.ble.ble.bytesWritten + c.length) % 2 ^ 32
      crcRunning := C.update w.ble.ble.crcRunning c
      sinceYield := since } := by
    rw [← hb₁]
    rfl
  have hcrc : (b₁.ble.crcExpect = 0 ∨ b₁.ble.crcRunning = b₁.ble.crcExpect) ↔
      (t.crc = 0 ∨ (t.next C c).running = t.crc) := by
    rw [hble, Met.next, ← h.crcExpect, ← h.crcRunning]
  have hlen : (w.log ++ [FlashCall.otaWrite w.ble.ble.wr.handle c .ok]).length = t.calls + 1 := by
    rw [List.length_append, h.calls]
    rfl
  have hfin := bleOtaFinalize_whole (E := E) (b := b₁) (by rw [hble]; exact h.session)
    (by rw [hble, ← hdst]) h.handle
    (by rw [hble]; exact h.bytesWritten ▸ h.expected ▸ hall)
    (w.log ++ [.otaWrite w.ble.ble.wr.handle c .ok])
  rw [hlen, hcrc] at hfin
  generalize bleOtaFinalize E b₁ _ = r at hstep hfin
  rcases hfin with ⟨hright, hend, hboot, hrestarted, hlog⟩ | ⟨hnot, hoff, new, hlog, hnew⟩
  · refine ⟨.inl (by rw [hstep]; exact hrestarted), ?_⟩
    have hlog' : w'.log = w.log ++ [.otaWrite w.ble.ble.wr.handle c .ok,
        .otaEnd w.ble.ble.wr.handle .ok, .setBoot dst .ok] := by
      rw [hstep]
      exact hlog.trans (List.append_assoc _ _ _)
    have hstored : (stored w.ble.ble.wr.handle w'.log).flatten = (t.next C c).taken := by
      rw [hlog', stored_append, List.flatten_append, h.taken, Met.next]
      simp [stored]
    refine .finished _ _ _ (by rw [hstep]; exact hrestarted) hlog' (List.suffix_cons _ _) ?_
    rw [hstored]
    exact ⟨fun himage => ⟨himage, hright, hend, hboot⟩, fun hdone => hdone.1⟩
  · refine ⟨.inr (by rw [hstep]; exact hoff), .failed (fun hdone => hnot hdone.2) ?_⟩
    refine ⟨.otaWrite w.ble.ble.wr.handle c .ok :: new, ?_, fun p hmem => ?_⟩
    · rw [hstep, ← List.singleton_append, ← List.append_assoc]
      exact hlog
    · rcases List.mem_cons.mp hmem with heq | hmem
      · cases heq
      · exact hnew p hmem

/-! ## The run over the frames -/

/-- Frames numbered from `q` on, with chunks that are not empty and fit a frame. -/
def NumberedFrom (q : Nat) (frames : List Bytes) : Prop :=
  ∀ i f, frames[i]? = some f → f = uploadFrame (q + i) (frameChunk f) ∧ frameChunk f ≠ [] ∧
    (frameChunk f).length < 2 ^ 16

/-- The first frame, and the others. -/
theorem NumberedFrom.cons {q : Nat} {f : Bytes} {fs : List Bytes}
    (h : NumberedFrom q (f :: fs)) :
    (f = uploadFrame q (frameChunk f) ∧ frameChunk f ≠ [] ∧ (frameChunk f).length < 2 ^ 16) ∧
      NumberedFrom (q + 1) fs := by
  refine ⟨h 0 f rfl, fun i g hg => ?_⟩
  have hframe := h (i + 1) g hg
  rwa [← Nat.add_assoc, Nat.add_right_comm] at hframe

/-- The loop goes on behind a frame that does not raise. -/
theorem uploadData_cons {q : Nat} {f : Bytes} {fs : List Bytes}
    (h : (uploadData E C fate q (f :: fs) w).1 = true) :
    q < 2 ^ 32 ∧
      ((fate q = .sent ∧ uploadData E C fate q (f :: fs) w =
          uploadData E C fate (q + 1) fs (w.step E C (.bleData f))) ∨
        (fate q = .lost ∧ uploadData E C fate q (f :: fs) w =
          uploadData E C fate (q + 1) fs w)) := by
  rw [uploadData] at h ⊢
  split at h
  · cases h
  · next hq =>
    rw [if_neg hq]
    refine ⟨Nat.not_le.mp hq, ?_⟩
    cases hfate : fate q with
    | sent => exact .inl ⟨rfl, rfl⟩
    | lost => exact .inr ⟨rfl, rfl⟩
    | raised reached =>
      rw [hfate] at h
      cases reached <;> cases h

/-- A device that none of the frames is next for stays as it is. -/
theorem uploadData_idle {q : Nat} {fs : List Bytes}
    (hidle : ∀ i f, fs[i]? = some f → q + i < 2 ^ 32 → ¬ NextFrame w.ble f)
    (h : (uploadData E C fate q fs w).1 = true) : (uploadData E C fate q fs w).2 = w := by
  induction fs generalizing q with
  | nil => rfl
  | cons f fs ih =>
    have hrest : ∀ i g, fs[i]? = some g → q + 1 + i < 2 ^ 32 → ¬ NextFrame w.ble g := by
      intro i g hg hlt
      exact hidle (i + 1) g hg (by omega)
    obtain ⟨hq, ⟨-, heq⟩ | ⟨-, heq⟩⟩ := uploadData_cons h
    · rw [step_bleData_dropped (hidle 0 f rfl hq)] at heq
      rw [heq] at h ⊢
      exact ih hrest h
    · rw [heq] at h ⊢
      exact ih hrest h

/-- A frame of another number is not the next one. -/
theorem NumberedFrom.not_next {q : Nat} {fs : List Bytes} (h : NumberedFrom q fs) {b : BleOta}
    (hseq : b.bo.expectSeq < q) (i : Nat) (f : Bytes) (hf : fs[i]? = some f)
    (hlt : q + i < 2 ^ 32) : ¬ NextFrame b f := by
  intro hnext
  obtain ⟨heq, -, hc⟩ := h i f hf
  obtain ⟨h4, -⟩ := uploadFrame_fields hlt hc
  have hread := hnext.seq
  rw [heq, h4] at hread
  omega

/-- After a restart, or without a transfer, there is nothing to take a frame. -/
theorem uploadData_over {q : Nat} {fs : List Bytes}
    (hover : w.ble.restarted = true ∨ w.ble.bo.active = false)
    (h : (uploadData E C fate q fs w).1 = true) : (uploadData E C fate q fs w).2 = w := by
  rcases hover with hrestarted | hoff
  · induction fs generalizing q with
    | nil => rfl
    | cons f fs ih =>
      obtain ⟨-, ⟨-, heq⟩ | ⟨-, heq⟩⟩ := uploadData_cons h
      · rw [step_restarted hrestarted (by simp)] at heq
        rw [heq] at h ⊢
        exact ih h
      · rw [heq] at h ⊢
        exact ih h
  · refine uploadData_idle (fun i f _ _ hnext => ?_) h
    exact absurd (hoff.symm.trans hnext.active) (by simp)

/-- A frame before the one that is expected changes nothing, whether it arrives or not. -/
theorem Meeting.passes_over {q : Nat} {f : Bytes} {fs : List Bytes} (hm : Meeting t w)
    (hc : (frameChunk f).length < 2 ^ 16) (hf : f = uploadFrame q (frameChunk f))
    (hlt : q < t.seq) (h : (uploadData E C fate q (f :: fs) w).1 = true) :
    uploadData E C fate q (f :: fs) w = uploadData E C fate (q + 1) fs w := by
  obtain ⟨hq32, hfate⟩ := uploadData_cons h
  have hnot : ¬ NextFrame w.ble f := by
    intro hnext
    have hread := hnext.seq
    rw [hf, (uploadFrame_fields hq32 hc).1, hm.seq] at hread
    omega
  rcases hfate with ⟨-, heq⟩ | ⟨-, heq⟩
  · rw [heq, step_bleData_dropped hnot]
  · exact heq

/-- **The run.** Frames that all went out complete the transfer, from the one it expects on, or the
boot partition is not switched to the image. -/
theorem upload_run {q : Nat} {fs : List Bytes} (hm : Meeting t w) (hpart : t.written < t.total)
    (hq : q ≤ t.seq) (hfs : NumberedFrom q fs) (h : (uploadData E C fate q fs w).1 = true) :
    UploadEnd data (Completes E C fate data t ((fs.map frameChunk).drop (t.seq - q))) w
      (uploadData E C fate q fs w).2 := by
  induction fs generalizing q t w with
  | nil =>
    rw [List.map_nil, List.drop_nil]
    exact .failed (not_completes_nil t) (.refl w)
  | cons f fs ih =>
    obtain ⟨⟨hf, hne, hc⟩, hrest⟩ := hfs.cons
    obtain ⟨hq32, hfate⟩ := uploadData_cons h
    rcases Nat.lt_or_eq_of_le hq with hlt | rfl
    · -- the transfer expects a later frame
      have hdrop : ((f :: fs).map frameChunk).drop (t.seq - q) =
          (fs.map frameChunk).drop (t.seq - (q + 1)) := by
        rw [show t.seq - q = t.seq - (q + 1) + 1 by omega, List.map_cons, List.drop_succ_cons]
      have heq := hm.passes_over hc hf hlt h
      rw [heq] at h ⊢
      rw [hdrop]
      exact ih hm hpart hlt hrest h
    · rw [Nat.sub_self, List.drop_zero, List.map_cons, completes_cons]
      generalize frameChunk f = c at hf hne hc ⊢
      subst hf
      -- when this frame is not taken, all the others have the wrong number
      have hstuck : ∀ done : Prop, ¬ done →
          uploadData E C fate t.seq (uploadFrame t.seq c :: fs) w =
            uploadData E C fate (t.seq + 1) fs w →
          UploadEnd data done w (uploadData E C fate t.seq (uploadFrame t.seq c :: fs) w).2 := by
        intro done hnot heq
        rw [heq] at h ⊢
        rw [uploadData_idle (hrest.not_next (by rw [hm.seq]; exact Nat.lt_succ_self _)) h]
        exact .failed hnot (.refl w)
      rcases hfate with ⟨hsent, heq⟩ | ⟨hlost, heq⟩
      · by_cases hfits : (t.next C c).written ≤ t.total
        swap
        · refine hstuck _ ?_ ?_
          · rintro ⟨-, -, ⟨hall, -⟩ | ⟨hpart', -⟩⟩ <;> omega
          · rw [heq, step_bleData_dropped]
            rw [hm.nextFrame_iff (C := C) hq32 hc]
            exact hfits
        by_cases hok : E.fate .otaWrite t.calls = .ok
        swap
        · obtain ⟨hoff, hno⟩ := hm.refused (C := C) hq32 hne hc hfits hok
          rw [heq] at h ⊢
          rw [uploadData_over (.inr hoff) h]
          exact .failed (fun hdone => hok hdone.2.1) hno
        rcases Nat.lt_or_eq_of_le hfits with hpart' | hall
        · -- more are to come
          obtain ⟨hnext, hno⟩ := hm.advance hq32 hne hc hpart' hok
          rw [heq] at h ⊢
          cases fs with
          | nil =>
            refine .failed ?_ hno
            rintro ⟨-, -, ⟨hall, -⟩ | ⟨-, hdone⟩⟩
            · omega
            · exact not_completes_nil _ hdone
          | cons g fs =>
            obtain ⟨hsucc, -⟩ := uploadData_cons h
            have hrun := ih (hnext hsucc) hpart' (Nat.le_refl _) hrest h
            rw [Nat.sub_self, List.drop_zero] at hrun
            refine (hrun.after hno).congr ⟨fun hdone => ⟨hsent, hok, .inr ⟨hpart', hdone⟩⟩, ?_⟩
            rintro ⟨-, -, ⟨hall, -⟩ | ⟨-, hdone⟩⟩
            · omega
            · exact hdone
        · -- it is the last one
          obtain ⟨hover, hend⟩ := hm.complete data hq32 hne hc hall hok
          rw [heq] at h ⊢
          rw [uploadData_over hover h]
          refine hend.congr ⟨fun hdone => ⟨hsent, hok, .inl ⟨hall, hdone⟩⟩, ?_⟩
          rintro ⟨-, -, ⟨-, hdone⟩ | ⟨hpart', -⟩⟩
          · exact hdone
          · omega
      · exact hstuck _ (fun hdone => by rw [hlost] at hdone; cases hdone.1) heq

/-! ## The START -/

/-- The START line of an image begins with the words the handler looks for, however long it is. -/
theorem strnEq_uploadStart (data : Bytes) :
    strnEq (ctrlLine (uploadStart data)) (lit "BL_OTA START") 12 = true := by
  have hword : (lit "BL_OTA START").length = 12 ∧ (∀ c ∈ lit "BL_OTA START", c ≠ 0) ∧
      (lit "BL_OTA START").map (fun c => if c = 13 ∨ c = 10 then 32 else c) =
        lit "BL_OTA START" := by
    decide +kernel
  obtain ⟨hlen, hnul, hmap⟩ := hword
  obtain ⟨rest, hrest⟩ : ∃ rest, uploadStart data = lit "BL_OTA START" ++ rest := ⟨_, rfl⟩
  have hline : ∃ tail, ctrlLine (uploadStart data) = lit "BL_OTA START" ++ tail := by
    refine ⟨(untilNul (rest.take 115)).map fun c => if c = 13 ∨ c = 10 then 32 else c, ?_⟩
    rw [ctrlLine, hrest, List.take_append, hlen, List.take_of_length_le (by omega),
      untilNul_append hnul, List.map_append, hmap]
  obtain ⟨tail, htail⟩ := hline
  rw [strnEq, htail, List.append_assoc, List.take_left' hlen, List.take_left' hlen]
  exact beq_self_eq_true _

/-- On a device that runs, the START is taken as one. -/
theorem step_uploadStart (h : w.ble.restarted = false) (mode : ScMode) (m : Monitor)
    (data : Bytes) :
    w.step E C (.bleCtrl mode m (uploadStart data)) =
      { w with
        ble := (bleOtaStart E mode (ctrlLine (uploadStart data)) m w.ble w.log).2.1
        log := (bleOtaStart E mode (ctrlLine (uploadStart data)) m w.ble w.log).2.2 } := by
  have hne : uploadStart data ≠ [] := by
    rw [uploadStart, startLine]
    exact List.append_ne_nil_of_left_ne_nil (by decide) _
  have hctrl : bleOtaOnCtrlWrite E mode (uploadStart data) m w.ble w.log =
      bleOtaStart E mode (ctrlLine (uploadStart data)) m w.ble w.log := by
    simp only [bleOtaOnCtrlWrite, if_neg hne, if_pos (strnEq_uploadStart data)]
  simp only [OtaWorld.step, h, Bool.false_eq_true, if_false, hctrl]

/-- A transfer that is active is not touched by the START, and the frames meet it. -/
theorem meeting_active (hagree : w.Agrees E) (hhandled : w.Handled)
    (hrunning : w.ble.restarted = false) (hact : w.ble.bo.active = true) (mode : ScMode)
    (m : Monitor) (data : Bytes) :
    ∃ t, w.meets E data mode = some t ∧
      Meeting t (w.step E C (.bleCtrl mode m (uploadStart data))) ∧ t.written < t.total := by
  have hsession : w.ble.ble.active = true := hagree.active.symm.trans hact
  have hlive : w.session .ble = some w.ble.ble := live_of_active hsession
  have ht := hagree.transfer hact
  rw [step_uploadStart hrunning]
  simp only [OtaWorld.meets, bleOtaStart, if_pos hact]
  refine ⟨_, rfl, ?_, ht.incomplete⟩
  exact {
    running := hrunning
    active := hact
    seq := rfl
    written := rfl
    total := rfl
    session := hsession
    handle := (handleOpen_le (HandleInv.open_of hhandled hlive)).1
    target := (HandleInv.ready hhandled _ _ hlive).2
    bytesWritten := ht.written.symm
    expected := ht.total.symm
    crcRunning := rfl
    crcExpect := rfl
    taken := rfl
    calls := rfl }

/-- On an idle device, the frames meet the transfer that the START opens. -/
theorem meets_idle_iff (hoff : w.ble.bo.active = false) {data : Bytes} {mode : ScMode} (t : Met) :
    w.meets E data mode = some t ↔
      ∃ size crc dst, StartsTransfer mode (ctrlLine (uploadStart data)) w.ble size crc ∧
        E.next = some dst ∧ size ≤ dst.size ∧ E.fate .otaBegin w.log.length = .ok ∧
        t = ⟨0, 0, size, [], 0, UInt32.ofNat crc, w.log.length + 1⟩ := by
  rw [OtaWorld.meets, if_neg (by simp [hoff])]
  constructor
  · intro h
    split at h
    · next size crc dst hscan hdst =>
      split at h
      · next hall =>
        obtain ⟨hmode, hsize, hle, hok⟩ := hall
        exact ⟨size, crc, dst, ⟨hoff, hscan, hsize, hmode⟩, hdst, hle, hok,
          (Option.some.inj h).symm⟩
      · cases h
    · cases h
  · rintro ⟨size, crc, dst, hs, hdst, hle, hok, rfl⟩
    rw [hs.scan, hdst]
    exact if_pos ⟨hs.recovery, hs.size_ne, hle, hok⟩

/-- A session that has just begun is the transfer the frames meet. -/
theorem meeting_begun (hhandled : w.Handled) (hrunning : w.ble.restarted = false) {size crc : Nat}
    {dst : Partition} {ble : OtaSession}
    (hbegun : Begun ble size (UInt32.ofNat crc) dst (begun w.log + 1)) :
    Meeting ⟨0, 0, size, [], 0, UInt32.ofNat crc, w.log.length + 1⟩
      { w with
        ble := { w.ble with ble := ble, bo := ⟨true, size, 0, crc, 0, progStep⟩ }.send
          (lit "ACK START")
        log := w.log ++ [.otaBegin dst size .ok] } where
  running := hrunning
  active := rfl
  seq := rfl
  written := rfl
  total := rfl
  session := hbegun.active
  handle := by
    change ble.wr.handle ≠ 0
    rw [hbegun.wr]
    exact Nat.succ_ne_zero _
  target := by
    change ble.wr.dst ≠ none
    simp [hbegun.wr]
  bytesWritten := hbegun.written
  expected := hbegun.expected
  crcRunning := hbegun.crcRunning
  crcExpect := hbegun.crcExpect
  taken := by
    change (stored ble.wr.handle (w.log ++ [.otaBegin dst size .ok])).flatten = []
    rw [hbegun.wr, stored_append, (HandleInv.numbered hhandled).stored_fresh (Nat.lt_succ_self _)]
    rfl
  calls := List.length_append

/-- **The START** leaves the transfer that the frames meet, or none. -/
theorem start_meets (hagree : w.Agrees E) (hhandled : w.Handled)
    (hrunning : w.ble.restarted = false) (mode : ScMode) (m : Monitor) (data : Bytes) :
    (∃ t, w.meets E data mode = some t ∧
        Meeting t (w.step E C (.bleCtrl mode m (uploadStart data))) ∧ t.written < t.total) ∨
      (w.meets E data mode = none ∧
        (w.step E C (.bleCtrl mode m (uploadStart data))).ble.bo.active = false) := by
  by_cases hact : w.ble.bo.active = true
  · exact .inl (meeting_active hagree hhandled hrunning hact mode m data)
  have hoff : w.ble.bo.active = false := by simpa using hact
  rw [step_uploadStart hrunning]
  rcases bleOtaStart_cases E mode (ctrlLine (uploadStart data)) m w.ble w.log with
    ⟨hnone, answer, -, heq⟩ | ⟨size, crc, hs, e, ble, log, hb, heq⟩
  · rw [heq]
    refine .inr ⟨Option.eq_none_iff_forall_ne_some.mpr fun t ht => ?_, hoff⟩
    obtain ⟨size, crc, -, hs, -⟩ := (meets_idle_iff hoff t).mp ht
    exact hnone size crc hs
  rw [heq]
  rcases otaSessionBegin_fresh (hagree.active.symm.trans hoff) hs.size_ne _ _ _ hb with
    ⟨hne, -, rfl, hfit⟩ | ⟨dst, hdst, hle, he, hlog, hbegun⟩
  · rw [if_pos hne]
    refine .inr ⟨Option.eq_none_iff_forall_ne_some.mpr fun t ht => ?_, hoff⟩
    obtain ⟨size', crc', dst, hs', hdst, hle, -⟩ := (meets_idle_iff hoff t).mp ht
    obtain ⟨rfl, rfl⟩ := hs.unique hs'
    exact hfit ⟨dst, hdst, hle⟩
  by_cases hok : e = .ok
  · subst hok
    have hbegun := hbegun rfl
    rw [if_neg (by simp)]
    rw [hlog]
    exact .inl ⟨_, (meets_idle_iff hoff _).mpr ⟨size, crc, dst, hs, hdst, hle, he.symm, rfl⟩,
      meeting_begun hhandled hrunning hbegun, Nat.pos_of_ne_zero hs.size_ne⟩
  · rw [if_pos hok]
    refine .inr ⟨Option.eq_none_iff_forall_ne_some.mpr fun t ht => ?_, hoff⟩
    obtain ⟨-, -, -, -, -, -, hbegin, -⟩ := (meets_idle_iff hoff t).mp ht
    exact hok (he.trans hbegin)

/-! ## The verdict -/

/-- None of the frames raises. -/
theorem uploadData_sent_iff (q : Nat) (fs : List Bytes) (w : OtaWorld) :
    (uploadData E C fate q fs w).1 = true ↔
      ∀ i, i < fs.length → q + i < 2 ^ 32 ∧ ∀ reached, fate (q + i) ≠ .raised reached := by
  induction fs generalizing q w with
  | nil => simp [uploadData]
  | cons f fs ih =>
    have hsplit : (∀ i, i < (f :: fs).length → q + i < 2 ^ 32 ∧
          ∀ reached, fate (q + i) ≠ .raised reached) ↔
        (q < 2 ^ 32 ∧ ∀ reached, fate q ≠ .raised reached) ∧
          ∀ i, i < fs.length → q + 1 + i < 2 ^ 32 ∧
            ∀ reached, fate (q + 1 + i) ≠ .raised reached := by
      constructor
      · intro h
        refine ⟨h 0 (Nat.succ_pos _), fun i hi => ?_⟩
        rw [Nat.add_right_comm]
        exact h (i + 1) (Nat.succ_lt_succ hi)
      · rintro ⟨h0, h⟩ i hi
        cases i with
        | zero => exact h0
        | succ i =>
          rw [← Nat.add_assoc, Nat.add_right_comm]
          exact h i (Nat.lt_of_succ_lt_succ hi)
    rw [hsplit, uploadData]
    by_cases hq : 2 ^ 32 ≤ q
    · rw [if_pos hq]
      exact ⟨nofun, fun h => absurd h.1.1 (by omega)⟩
    · have hlt : q < 2 ^ 32 := Nat.not_le.mp hq
      rw [if_neg hq]
      cases hfate : fate q with
      | sent => exact (ih _ _).trans (and_iff_right ⟨hlt, nofun⟩).symm
      | lost => exact (ih _ _).trans (and_iff_right ⟨hlt, nofun⟩).symm
      | raised reached => cases reached <;> simp

/-- **When the verdict is True**: no write up to the last frame raises. -/
theorem bleOtaUpload_verdict_iff (mtu : Nat) (mode : ScMode) (m : Monitor) (link : UploadLink) :
    (bleOtaUpload E C data mtu mode m link w).1 = true ↔ ¬ UploadRaises data mtu link w := by
  have hframes : (∀ i, i < (uploadFrames data mtu).length → 0 + i < 2 ^ 32 ∧
        ∀ reached, link.data (0 + i) ≠ .raised reached) ↔
      ¬ ∃ i, i < (uploadFrames data mtu).length ∧
        (2 ^ 32 ≤ i ∨ ∃ reached, link.data i = .raised reached) := by
    simp only [Nat.zero_add, not_exists, not_and, not_or, Nat.not_le]
  rw [UploadRaises, not_or, not_or, ← hframes, bleOtaUpload]
  cases hstart : link.start with
  | raised reached => cases reached <;> simp [OtaWorld.ctrl]
  | acked =>
    cases hr : w.ble.restarted with
    | true => simp [OtaWorld.ctrl, hr]
    | false =>
      rw [← uploadData_sent_iff (E := E) (C := C) 0 _
        (w.step E C (.bleCtrl mode m (uploadStart data)))]
      simp only [OtaWorld.ctrl, hr, Bool.not_false, Bool.not_true, Bool.false_eq_true, if_false]
      cases (uploadData E C link.data 0 (uploadFrames data mtu)
        (w.step E C (.bleCtrl mode m (uploadStart data)))).1 <;> simp

/-- The two copies of the transfer agree through the loop. -/
theorem uploadData_agrees {q : Nat} {fs : List Bytes} (h : w.Agrees E) :
    (uploadData E C fate q fs w).2.Agrees E := by
  induction fs generalizing q w with
  | nil => exact h
  | cons f fs ih =>
    have hstep : (w.step E C (.bleData f)).Agrees E := BleAgree.change h (OtaWorld.ble_step h _)
    rw [uploadData]
    split
    · exact h
    · split
      · exact ih hstep
      · exact ih h
      · exact hstep
      · exact h

/-- What comes behind the last frame does not matter. -/
theorem UploadEnd.behind {done : Prop} (h : UploadEnd data done w w') (hagree : w'.Agrees E)
    (dropped : Bool) (mode : ScMode) (m : Monitor) (line : Bytes) (fate : CtrlFate) :
    UploadEnd data done w (OtaWorld.ctrl E C mode m line fate
      (if dropped then w'.step E C .bleDisconnect else w')).2 := by
  have hstep : ∀ {w'}, UploadEnd data done w w' → w'.Agrees E → ∀ {ev : OtaEv},
      (∀ s ok size i r, ev ≠ .tcpEnter s ok size ∧ ev ≠ .tcpRecv i r) →
      NoSwitch w' (w'.step E C ev) → UploadEnd data done w (w'.step E C ev) := by
    intro w' h _ ev hble hno
    cases h with
    | finished new handle p hrestarted hlog hlast himage =>
      rw [step_restarted hrestarted hble]
      exact .finished new handle p hrestarted hlog hlast himage
    | failed hfails hlog => exact .failed hfails (hlog.trans hno)
  have hdrop : UploadEnd data done w (if dropped then w'.step E C .bleDisconnect else w') ∧
      OtaWorld.Agrees E (if dropped then w'.step E C .bleDisconnect else w') := by
    cases dropped with
    | true =>
      rw [if_pos rfl]
      exact ⟨hstep h hagree (by simp) (noSwitch_disconnect hagree),
        BleAgree.change hagree (OtaWorld.ble_step hagree _)⟩
    | false => exact ⟨h, hagree⟩
  obtain ⟨hend, hagree'⟩ := hdrop
  generalize (if dropped then w'.step E C .bleDisconnect else w') = w'' at hend hagree'
  have hctrl := hstep hend hagree' (by simp) (noSwitch_ctrl (C := C) hagree' mode m line)
  cases fate with
  | acked => exact hctrl
  | raised reached =>
    cases reached with
    | true => exact hctrl
    | false => exact hend

end

/-- **When the verdict is truthful.** From every reachable state of the device, in every mode, and
whatever becomes of the writes and of the calls of the driver: that `ble_ota_upload` returns True
only if a session was finished with `ESP_OK` for the image and the boot partition switched, holds
just when it returns False, because a write raises, or when the transfer that the frames meet is
completed by them with the image. -/
theorem bleOtaUpload_truthful_iff (E : FlashEnv) (C : Crc32) (evs : List OtaEv) (data : Bytes)
    (mtu : Nat) (mode : ScMode) (m : Monitor) (link : UploadLink) :
    let w := Run.exec (OtaWorld.step E C) .init evs
    let r := bleOtaUpload E C data mtu mode m link w
    (r.1 = true → Switched data w r.2) ↔
      UploadRaises data mtu link w ∨
        ∃ t, w.meets E data mode = some t ∧ Completes E C link.data data t
          (((uploadFrames data mtu).map frameChunk).drop t.seq) := by
  intro w r
  have hagree : w.Agrees E := otaWorld_agrees E C evs
  have hhandled : w.Handled := otaWorld_handled E C evs
  by_cases hraises : UploadRaises data mtu link w
  · refine ⟨fun _ => .inl hraises, fun _ hverdict => ?_⟩
    exact absurd hraises ((bleOtaUpload_verdict_iff mtu mode m link).mp hverdict)
  have hverdict : r.1 = true := (bleOtaUpload_verdict_iff mtu mode m link).mpr hraises
  rw [or_iff_right hraises, forall_prop_of_true hverdict]
  obtain ⟨hstart, hrunning, hframes⟩ : link.start = .acked ∧ w.ble.restarted = false ∧
      (uploadData E C link.data 0 (uploadFrames data mtu)
        (w.step E C (.bleCtrl mode m (uploadStart data)))).1 = true := by
    rw [UploadRaises, not_or, not_or] at hraises
    obtain ⟨hstart, hrunning, hframes⟩ := hraises
    refine ⟨not_not.mp hstart, by simpa using hrunning, ?_⟩
    rw [uploadData_sent_iff]
    intro i hi
    rw [Nat.zero_add]
    refine ⟨?_, fun reached hr => hframes ⟨i, hi, .inr ⟨reached, hr⟩⟩⟩
    exact Nat.not_le.mp fun hle => hframes ⟨i, hi, .inl hle⟩
  have hagree' : (w.step E C (.bleCtrl mode m (uploadStart data))).Agrees E :=
    BleAgree.change hagree (OtaWorld.ble_step hagree _)
  have hno : NoSwitch w (w.step E C (.bleCtrl mode m (uploadStart data))) :=
    noSwitch_ctrl hagree mode m (uploadStart data)
  have hmeets := start_meets (C := C) hagree hhandled hrunning mode m data
  have hr : r.2 = (OtaWorld.ctrl E C mode m (lit "BL_OTA FINISH") link.finish
      (if link.dropped then
        (uploadData E C link.data 0 (uploadFrames data mtu)
          (w.step E C (.bleCtrl mode m (uploadStart data)))).2.step E C .bleDisconnect
      else (uploadData E C link.data 0 (uploadFrames data mtu)
          (w.step E C (.bleCtrl mode m (uploadStart data)))).2)).2 := by
    simp only [r, bleOtaUpload, hstart, OtaWorld.ctrl, hrunning, Bool.not_false, Bool.not_true,
      Bool.false_eq_true, if_false, hframes]
  rw [hr]
  generalize w.step E C (.bleCtrl mode m (uploadStart data)) = w₁ at hframes hagree' hno hmeets
  have hnumbered : NumberedFrom 0 (uploadFrames data mtu) := by
    intro i f hf
    obtain ⟨heq, hne, hle⟩ := (uploadFrames_isUpload data mtu).frame i f hf
    rw [Nat.zero_add]
    exact ⟨heq, hne, by omega⟩
  have hend : UploadEnd data (∃ t, w.meets E data mode = some t ∧ Completes E C link.data data t
      (((uploadFrames data mtu).map frameChunk).drop t.seq)) w₁
      (uploadData E C link.data 0 (uploadFrames data mtu) w₁).2 := by
    rcases hmeets with ⟨t, hmeets, hm, hpart⟩ | ⟨hmeets, hoff⟩
    · refine (upload_run hm hpart (Nat.zero_le _) hnumbered hframes).congr ?_
      rw [Nat.sub_zero, hmeets]
      simp
    · rw [uploadData_over (.inr hoff) hframes, hmeets]
      exact .failed (by simp) (.refl w₁)
  exact ((hend.after hno).behind (uploadData_agrees hagree') _ _ _ _ _).switched_iff

/-- A link on which every write arrives. -/
def goodLink : UploadLink := ⟨.acked, fun _ => .sent, .acked, false, .acked⟩

/-- A link that loses the frames. -/
def lossyLink : UploadLink := { goodLink with data := fun _ => .lost }

/-- Without a switch in the log there was none in the upload. -/
theorem not_switched {data : Bytes} {w w' : OtaWorld} (h : ∀ p, FlashCall.setBoot p .ok ∉ w'.log) :
    ¬ Switched data w w' := by
  rintro ⟨new, handle, p, hlog, hlast, -⟩
  refine h p ?_
  rw [hlog]
  exact List.mem_append_right _ (hlast.subset (by simp))

/-- The upload of an image of one byte to a device in RECOVERY returns True when its frame is lost:
the FINISH aborts. So does the upload to a device in NORMAL that refuses the START. -/
theorem bleOtaUpload_untruthful :
    let lost := bleOtaUpload ota0Env romCrc32 [0xE9] 23 .recovery ⟨true, 0⟩ lossyLink .init
    let refused := bleOtaUpload ota0Env romCrc32 [0xE9] 23 .normal ⟨true, 0⟩ goodLink .init
    (lost.1 = true ∧ ¬ Switched [0xE9] .init lost.2) ∧
      refused.1 = true ∧ ¬ Switched [0xE9] .init refused.2 := by
  have hlost : (bleOtaUpload ota0Env romCrc32 [0xE9] 23 .recovery ⟨true, 0⟩ lossyLink .init).2.log =
      [.otaBegin ota0 1 .ok, .otaAbort 1] := by decide +kernel
  have hrefused : (bleOtaUpload ota0Env romCrc32 [0xE9] 23 .normal ⟨true, 0⟩ goodLink .init).2.log =
      [] := by decide +kernel
  refine ⟨⟨by decide +kernel, not_switched ?_⟩, by decide +kernel, not_switched ?_⟩
  · rw [hlost]
    simp
  · rw [hrefused]
    simp

/-- Over a link that loses nothing, a device in RECOVERY switches. -/
example : (bleOtaUpload ota0Env romCrc32 [0xE9] 23 .recovery ⟨true, 0⟩ goodLink .init).2.log =
    [.otaBegin ota0 1 .ok, .otaWrite 1 [0xE9] .ok, .otaEnd 1 .ok, .setBoot ota0 .ok] := by
  decide +kernel

end RemoteControl
