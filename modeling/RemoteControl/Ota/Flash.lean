import RemoteControl.Lib.CString

/-!
# The flash driver and the CRC, as the OTA code sees them

The `esp_ota_*` functions are ESP-IDF's. Their state is the log of the calls made so far, oldest
first, each with its arguments and its result. A `FlashEnv` fixes the partition that
`esp_ota_get_next_update_partition(NULL)` returns and, for each function and each position in the
log, what the call at that position returns; a statement about every `FlashEnv` is a statement
about every pattern of failures. What a log amounts to is read off it: the handles that are open
(`handleOpen`), the chunks that `esp_ota_write` took on a handle (`stored`), and the boot partition
(`bootPartition`).

The CRC is the helper `ota_session.c` selects at build time. `Crc32` is what the code relies on:
the update is a fold over the bytes. `softCrc32` is the fallback of the source and `romCrc32` the
one of the ESP32's ROM.
-/

namespace RemoteControl

/-! ## Error codes -/

/-- The `esp_err_t` values the repository names; `other` is any further code of a library call. -/
inductive EspErr where
  | ok
  | fail
  | noMem
  | invalidArg
  | invalidState
  | invalidSize
  | notFound
  | invalidCrc
  | other (code : Nat)
  deriving DecidableEq, Repr

/-! ## CRC -/

/-- A CRC-32 update function that is a fold: nothing to do for no bytes, and chunks compose. -/
structure Crc32 where
  update : UInt32 → Bytes → UInt32
  update_nil : ∀ c, update c [] = c
  update_append : ∀ c xs ys, update (update c xs) ys = update c (xs ++ ys)

/-- One of the eight rounds of a byte in the fallback's `crc32_update`. -/
def crcRound (crc : UInt32) : UInt32 :=
  (crc >>> 1) ^^^ (if crc &&& 1 = 1 then 0xEDB88320 else 0)

/-- `crc32_update` over one byte. -/
def crcByte (crc : UInt32) (b : UInt8) : UInt32 :=
  (List.range 8).foldl (fun c _ => crcRound c) (crc ^^^ b.toUInt32)

/-- `crc32_update` of the fallback, which neither inverts its start value nor its result. -/
def softUpdate (crc : UInt32) (d : Bytes) : UInt32 := d.foldl crcByte crc

/-- The fallback of `ota_session.c`. -/
def softCrc32 : Crc32 where
  update := softUpdate
  update_nil _ := rfl
  update_append _ _ _ := List.foldl_append.symm

/-- `esp_rom_crc32_le`: the same loop on the inverted value, inverted back. -/
def romUpdate (crc : UInt32) (d : Bytes) : UInt32 := ~~~softUpdate (~~~crc) d

/-- The ROM helper that `esp_rom_crc.h` declares. -/
def romCrc32 : Crc32 where
  update := romUpdate
  update_nil c := by simp [romUpdate, softUpdate]
  update_append c xs ys := by simp [romUpdate, softUpdate]

/-! ## Calls -/

/-- An app partition: where it lies and how many bytes it has (a `uint32_t`). -/
structure Partition where
  address : Nat
  size : Nat
  size_lt : size < 2 ^ 32
  deriving DecidableEq

/-- The functions of the driver that can fail. -/
inductive FlashFn where
  | otaBegin
  | otaWrite
  | otaEnd
  | setBoot
  deriving DecidableEq, Repr

/-- A call of the driver with its arguments and result. -/
inductive FlashCall where
  | otaBegin (dst : Partition) (size : Nat) (res : EspErr)
  | otaWrite (handle : Nat) (data : Bytes) (res : EspErr)
  | otaEnd (handle : Nat) (res : EspErr)
  | otaAbort (handle : Nat)
  | setBoot (dst : Partition) (res : EspErr)
  deriving DecidableEq

/-- The calls made so far, oldest first. -/
abbrev FlashLog := List FlashCall

/-- The update partition, and what each call returns. -/
structure FlashEnv where
  next : Option Partition
  fate : FlashFn → Nat → EspErr

/-- How many `esp_ota_begin` calls have succeeded; each got the next handle, from 1 on. -/
def begun (log : FlashLog) : Nat :=
  log.countP fun
    | .otaBegin _ _ res => res = .ok
    | _ => false

variable (E : FlashEnv)

/-- `esp_ota_begin`: the result and, on success, a handle never returned before (0 otherwise, as
the caller initialised it). -/
def espOtaBegin (dst : Partition) (size : Nat) (log : FlashLog) : EspErr × Nat × FlashLog :=
  let e := E.fate .otaBegin log.length
  (e, if e = .ok then begun log + 1 else 0, log ++ [.otaBegin dst size e])

/-- `esp_ota_write`. -/
def espOtaWrite (handle : Nat) (data : Bytes) (log : FlashLog) : EspErr × FlashLog :=
  let e := E.fate .otaWrite log.length
  (e, log ++ [.otaWrite handle data e])

/-- `esp_ota_end`, which consumes the handle whatever it returns. -/
def espOtaEnd (handle : Nat) (log : FlashLog) : EspErr × FlashLog :=
  let e := E.fate .otaEnd log.length
  (e, log ++ [.otaEnd handle e])

/-- `esp_ota_abort`. -/
def espOtaAbort (handle : Nat) (log : FlashLog) : FlashLog :=
  log ++ [.otaAbort handle]

/-- `esp_ota_set_boot_partition`. -/
def espOtaSetBootPartition (dst : Partition) (log : FlashLog) : EspErr × FlashLog :=
  let e := E.fate .setBoot log.length
  (e, log ++ [.setBoot dst e])

/-! ## What a log amounts to -/

/-- The chunks `esp_ota_write` took on a handle. -/
def stored (handle : Nat) (log : FlashLog) : List Bytes :=
  log.filterMap fun
    | .otaWrite h d res => if h = handle ∧ res = .ok then some d else none
    | _ => none

/-- The call closes the handle. -/
def FlashCall.closes (handle : Nat) : FlashCall → Bool
  | .otaEnd h _ => h == handle
  | .otaAbort h => h == handle
  | _ => false

/-- A handle that some `esp_ota_begin` returned and no call has closed since. -/
def handleOpen (handle : Nat) (log : FlashLog) : Bool :=
  decide (1 ≤ handle ∧ handle ≤ begun log) && !log.any (·.closes handle)

/-- The boot partition the log leaves, `none` when it never changed it. -/
def bootPartition (log : FlashLog) : Option Partition :=
  (log.filterMap fun
    | .setBoot p res => if res = .ok then some p else none
    | _ => none).getLast?

/-- The handle a call other than `esp_ota_begin` is made on; 0 for a call without one. -/
def FlashCall.handle : FlashCall → Nat
  | .otaWrite h _ _ => h
  | .otaEnd h _ => h
  | .otaAbort h => h
  | _ => 0

/-- The call acts on the contents of a partition: `esp_ota_begin` erases, `esp_ota_write`
programs. -/
def FlashCall.touches : FlashCall → Bool
  | .otaBegin _ _ _ => true
  | .otaWrite _ _ _ => true
  | _ => false

/-- No call uses a handle that no `esp_ota_begin` had returned. -/
def Numbered (log : FlashLog) : Prop := ∀ c ∈ log, c.handle ≤ begun log

@[simp] theorem begun_append (l l' : FlashLog) : begun (l ++ l') = begun l + begun l' :=
  List.countP_append

@[simp] theorem stored_append (h : Nat) (l l' : FlashLog) :
    stored h (l ++ l') = stored h l ++ stored h l' :=
  List.filterMap_append

@[simp] theorem begun_begin (p : Partition) (n : Nat) (res : EspErr) :
    begun [.otaBegin p n res] = if res = .ok then 1 else 0 := by
  by_cases h : res = .ok <;> simp [begun, h]

@[simp] theorem begun_write (h : Nat) (d : Bytes) (res : EspErr) :
    begun [.otaWrite h d res] = 0 := rfl

@[simp] theorem begun_end (h : Nat) (res : EspErr) : begun [.otaEnd h res] = 0 := rfl

@[simp] theorem begun_abort (h : Nat) : begun [.otaAbort h] = 0 := rfl

@[simp] theorem stored_begin (h : Nat) (p : Partition) (n : Nat) (res : EspErr) :
    stored h [.otaBegin p n res] = [] := rfl

@[simp] theorem stored_write (h h' : Nat) (d : Bytes) (res : EspErr) :
    stored h [.otaWrite h' d res] = if h' = h ∧ res = .ok then [d] else [] := by
  by_cases hh : h' = h ∧ res = .ok <;> simp [stored, hh]

/-- The log grows without a call of `esp_ota_set_boot_partition`. -/
def KeepsBoot (log log' : FlashLog) : Prop :=
  ∃ new, log' = log ++ new ∧ ∀ p res, FlashCall.setBoot p res ∉ new

/-- The log grows, and `esp_ota_set_boot_partition` is called. -/
def SetsBoot (log log' : FlashLog) : Prop :=
  ∃ new, log' = log ++ new ∧ ∃ p res, FlashCall.setBoot p res ∈ new

theorem KeepsBoot.refl (log : FlashLog) : KeepsBoot log log := ⟨[], by simp, by simp⟩

theorem KeepsBoot.trans {l₁ l₂ l₃ : FlashLog} (h : KeepsBoot l₁ l₂) (h' : KeepsBoot l₂ l₃) :
    KeepsBoot l₁ l₃ := by
  obtain ⟨new, rfl, hnew⟩ := h
  obtain ⟨new', rfl, hnew'⟩ := h'
  refine ⟨new ++ new', List.append_assoc _ _ _, fun p res hmem => ?_⟩
  rcases List.mem_append.mp hmem with hmem | hmem
  · exact hnew p res hmem
  · exact hnew' p res hmem

theorem KeepsBoot.not_setsBoot {log log' : FlashLog} (h : KeepsBoot log log') :
    ¬ SetsBoot log log' := by
  obtain ⟨new, rfl, hnew⟩ := h
  rintro ⟨new', heq, p, res, hmem⟩
  rw [← List.append_cancel_left heq] at hmem
  exact hnew p res hmem

/-- A log that sets no boot partition leaves it as it was. -/
theorem bootPartition_append (l : FlashLog) {l' : FlashLog}
    (h : ∀ p, FlashCall.setBoot p .ok ∉ l') : bootPartition (l ++ l') = bootPartition l := by
  have hnil : (l'.filterMap fun
      | FlashCall.setBoot p res => if res = .ok then some p else none
      | _ => none) = [] := by
    rw [List.filterMap_eq_nil_iff]
    intro c hc
    split
    · next p res => exact if_neg fun hr => h p (by rw [← hr]; exact hc)
    · rfl
  rw [bootPartition, bootPartition, List.filterMap_append, hnil, List.append_nil]

/-- A handle that no begin has returned has nothing stored. -/
theorem Numbered.stored_fresh {log : FlashLog} (hn : Numbered log) {h : Nat}
    (hh : begun log < h) : stored h log = [] := by
  rw [stored, List.filterMap_eq_nil_iff]
  intro c hc
  have hle := hn c hc
  split
  · next h' d res =>
    have : h' ≤ begun log := hle
    rw [if_neg (by omega)]
  · rfl

/-- A handle that no begin has returned has not been closed. -/
theorem Numbered.not_closes_fresh {log : FlashLog} (hn : Numbered log) {h : Nat}
    (hh : begun log < h) : log.any (·.closes h) = false := by
  rw [List.any_eq_false]
  intro c hc hcl
  have hle := hn c hc
  match c, hcl with
  | .otaEnd h' _, hcl | .otaAbort h', hcl =>
    simp only [FlashCall.closes, beq_iff_eq] at hcl
    simp only [FlashCall.handle] at hle
    omega

/-- A log stays numbered when calls on handles already returned, or further begins, are added. -/
theorem Numbered.append {log : FlashLog} (hn : Numbered log) {l' : FlashLog}
    (h : ∀ c ∈ l', c.handle ≤ begun log) : Numbered (log ++ l') := by
  intro c hc
  rw [begun_append]
  rcases List.mem_append.mp hc with hc | hc
  · have := hn c hc; omega
  · have := h c hc; omega

end RemoteControl
