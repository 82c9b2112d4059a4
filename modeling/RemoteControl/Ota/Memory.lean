import RemoteControl.Ota.Flash

/-!
# The cells of the flash behind the driver

What the log of driver calls leaves in the flash. `esp_ota_begin` erases the sectors an image of
the announced size needs, and `esp_ota_write` programs its data at the handle's own offset;
programming a NOR cell can only clear bits. Nothing is assumed of what a failed call leaves: `junk`
is any function. `SoleWriter` says that since its begin a handle is the only one the partition was
opened or written through, and `SoleWriter.cells` that the image then reads as the handle's chunks.
-/

namespace RemoteControl

/-! ## Cells -/

/-- The cells by address, and each handle's partition and write offset, in the order of the
handles. -/
structure FlashMem where
  cells : Nat → UInt8
  handles : List (Partition × Nat)

/-- The bytes `esp_ota_begin` erases for an image of `size`: whole sectors of 4096. -/
def erasedSize (size : Nat) : Nat := (size + 4095) / 4096 * 4096

/-- Erasing from an address on. -/
def eraseCells (addr n : Nat) (cells : Nat → UInt8) : Nat → UInt8 := fun a =>
  if addr ≤ a ∧ a < addr + n then 0xFF else cells a

/-- Programming data at an address. -/
def programCells (addr : Nat) (data : Bytes) (cells : Nat → UInt8) : Nat → UInt8 := fun a =>
  if addr ≤ a then
    match data[a - addr]? with
    | some b => cells a &&& b
    | none => cells a
  else cells a

/-- What one call does to the cells. -/
def FlashMem.apply (junk : FlashCall → (Nat → UInt8) → Nat → UInt8) (m : FlashMem)
    (c : FlashCall) : FlashMem :=
  match c with
  | .otaBegin dst size res =>
    if res = .ok then
      { cells := eraseCells dst.address (erasedSize size) m.cells
        handles := m.handles ++ [(dst, 0)] }
    else { m with cells := junk c m.cells }
  | .otaWrite handle data res =>
    if res = .ok then
      match m.handles[handle - 1]? with
      | some (dst, off) =>
        { cells := programCells (dst.address + off) data m.cells
          handles := m.handles.set (handle - 1) (dst, off + data.length) }
      | none => m
    else { m with cells := junk c m.cells }
  | _ => m

/-- The cells after a log of calls on a flash that held `cells`. -/
def FlashMem.replay (junk : FlashCall → (Nat → UInt8) → Nat → UInt8) (cells : Nat → UInt8)
    (log : FlashLog) : FlashMem :=
  log.foldl (FlashMem.apply junk) ⟨cells, []⟩

section
variable (junk : FlashCall → (Nat → UInt8) → Nat → UInt8) (blank : Nat → UInt8)

theorem FlashMem.replay_append (l l' : FlashLog) :
    FlashMem.replay junk blank (l ++ l') =
      l'.foldl (FlashMem.apply junk) (FlashMem.replay junk blank l) :=
  List.foldl_append

/-- There are as many handles as successful begins. -/
theorem FlashMem.length_handles (m : FlashMem) (log : FlashLog) :
    (log.foldl (FlashMem.apply junk) m).handles.length = m.handles.length + begun log := by
  induction log generalizing m with
  | nil => rfl
  | cons c log ih =>
    have hc : begun (c :: log) = begun [c] + begun log := begun_append [c] log
    rw [List.foldl_cons, ih, hc, ← Nat.add_assoc]
    congr 1
    cases c with
    | otaBegin dst size res =>
      rw [begun_begin]
      by_cases hr : res = .ok <;> simp [FlashMem.apply, hr]
    | otaWrite handle data res =>
      rw [begun_write, FlashMem.apply]
      split
      · split <;> simp
      · rfl
    | otaEnd handle res => rfl
    | otaAbort handle => rfl
    | setBoot dst res => rfl

/-! ## One writer -/

/-- The call leaves the image of the handle alone, or is a write of it that succeeded. -/
def FlashCall.ownedBy (handle : Nat) : FlashCall → Prop
  | .otaBegin _ _ _ => False
  | .otaWrite h _ res => h = handle ∧ res = .ok
  | _ => True

/-- The image of `size` bytes on `dst` is the work of one handle: since the begin that opened it, no
other session was opened, nothing was written through another handle, and no write failed. -/
def SoleWriter (dst : Partition) (size handle : Nat) (log : FlashLog) : Prop :=
  ∃ pre post, log = pre ++ .otaBegin dst size .ok :: post ∧ Numbered pre ∧
    handle = begun pre + 1 ∧ ∀ c ∈ post, c.ownedBy handle

/-- While only its own writes come, the cells of an image are those written so far, and erased
behind them. -/
structure Holds (dst : Partition) (n handle : Nat) (image : Bytes) (m : FlashMem) : Prop where
  offset : m.handles[handle - 1]? = some (dst, image.length)
  written : ∀ i, i < n → m.cells (dst.address + i) = image.getD i 0xFF

theorem Holds.apply {dst : Partition} {n handle : Nat} {image : Bytes} {m : FlashMem}
    (h : Holds dst n handle image m) {c : FlashCall} (hc : c.ownedBy handle) :
    Holds dst n handle (image ++ (stored handle [c]).flatten) (m.apply junk c) := by
  cases c with
  | otaBegin _ _ _ => exact hc.elim
  | otaWrite handle' data res =>
    obtain ⟨rfl, rfl⟩ := hc
    have hst : (stored handle' [.otaWrite handle' data .ok]).flatten = data := by simp
    have happ : m.apply junk (.otaWrite handle' data .ok) =
        { cells := programCells (dst.address + image.length) data m.cells
          handles := m.handles.set (handle' - 1) (dst, image.length + data.length) } := by
      simp only [FlashMem.apply, if_true, h.offset]
    rw [hst, happ]
    refine ⟨?_, fun i hi => ?_⟩
    · obtain ⟨hlt, -⟩ := List.getElem?_eq_some_iff.mp h.offset
      simp [hlt]
    · have hw := h.written i hi
      simp only [programCells]
      rcases Nat.lt_or_ge i image.length with hlt | hge
      · rw [if_neg (by omega), hw]
        simp [List.getD_eq_getElem?_getD, List.getElem?_append_left hlt]
      · have hsub : dst.address + i - (dst.address + image.length) = i - image.length := by omega
        have herased : m.cells (dst.address + i) = 0xFF := by
          rw [hw, List.getD_eq_getElem?_getD, List.getElem?_eq_none hge]
          rfl
        rw [if_pos (by omega), hsub, herased, List.getD_eq_getElem?_getD,
          List.getElem?_append_right hge]
        cases data[i - image.length]? with
        | none => rfl
        | some b => exact UInt8.neg_one_and
  | otaEnd _ _ => simpa [stored, FlashMem.apply] using h
  | otaAbort _ => simpa [stored, FlashMem.apply] using h
  | setBoot _ _ => simpa [stored, FlashMem.apply] using h

theorem Holds.run {dst : Partition} {n handle : Nat} {image : Bytes} {m : FlashMem}
    (h : Holds dst n handle image m) (post : FlashLog) (hpost : ∀ c ∈ post, c.ownedBy handle) :
    Holds dst n handle (image ++ (stored handle post).flatten)
      (post.foldl (FlashMem.apply junk) m) := by
  induction post generalizing m image with
  | nil => simpa [stored] using h
  | cons c post ih =>
    have hstep := ih (h.apply junk (hpost c (by simp)))
      fun d hd => hpost d (by simp [hd])
    rwa [List.append_assoc, ← List.flatten_append, ← stored_append] at hstep

/-- **A sole writer's image is in the flash**, whatever the flash held before and whatever the
failed calls left. -/
theorem SoleWriter.cells {dst : Partition} {size handle : Nat} {log : FlashLog}
    (h : SoleWriter dst size handle log) {i : Nat} (hi : i < size) :
    (FlashMem.replay junk blank log).cells (dst.address + i) =
      (stored handle log).flatten.getD i 0xFF := by
  obtain ⟨pre, post, rfl, hpre, rfl, hpost⟩ := h
  generalize hm : FlashMem.replay junk blank pre = m
  have hlen : m.handles.length = begun pre := by
    rw [← hm, FlashMem.replay, FlashMem.length_handles]
    exact Nat.zero_add _
  -- the begin erases the image's cells and hands out a fresh offset
  have hbegin : Holds dst size (begun pre + 1) [] (m.apply junk (.otaBegin dst size .ok)) := by
    refine ⟨?_, fun j hj => ?_⟩
    · simp [FlashMem.apply, hlen]
    · have : j < erasedSize size := by unfold erasedSize; omega
      simp only [FlashMem.apply, if_true, eraseCells]
      rw [if_pos (by omega)]
      rfl
  have hend := (hbegin.run junk post hpost).written i hi
  rw [FlashMem.replay_append, hm, List.foldl_cons, hend, stored_append,
    hpre.stored_fresh (Nat.lt_succ_self _)]
  rfl

end

end RemoteControl
