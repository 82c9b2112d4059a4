import RemoteControl.Ble.Agreement

/-!
# DATA frames that carry nothing

A DATA write that does not advance the transfer under way is tested twice. `ble_ota.c` looks at its
header (`NextFrame`) and drops what fails (`bleOtaOnDataWrite_dropped`); what passes goes to
`ota_session_write`, which refuses an empty chunk, and a refusal ends the transfer. The header tests
let an empty chunk through, so the frame of six bytes whose turn it is aborts the update
(`emptyInTurn_aborts`) where every other useless frame is ignored. The sum that the size test
compares wraps at 32 bits, which only the last frames of an image of nearly 4 GiB can meet.
-/

namespace RemoteControl

open CString

variable {E : FlashEnv} {C : Crc32} {b : BleOta} {data : Bytes}

/-- The length field of a DATA frame. -/
def frameLen (data : Bytes) : Nat := readLe 2 (data.drop 4)

/-- A frame that cannot advance the transfer: it is shorter than a header, its length field is not
that of its payload, the payload is empty, it has another sequence number than the next, or the
payload goes past the announced size. -/
def Useless (b : BleOta) (data : Bytes) : Prop :=
  data.length < 6 ∨ data.length ≠ 6 + frameLen data ∨ frameLen data = 0 ∨
    readLe 4 data ≠ b.bo.expectSeq ∨ b.bo.total < b.bo.written + frameLen data

/-- The frame leaves `s_bo`, `s_ble`, what is in flash and the open handles as they were, and the
frames after it do what they would have done without it. -/
structure Harmless (E : FlashEnv) (C : Crc32) (b : BleOta) (log : FlashLog) (data : Bytes) :
    Prop where
  bo : (bleOtaOnDataWrite E C data b log).1.bo = b.bo
  ble : (bleOtaOnDataWrite E C data b log).1.ble = b.ble
  flash : ∀ handle, stored handle (bleOtaOnDataWrite E C data b log).2 = stored handle log
  handles : ∀ handle,
    handleOpen handle (bleOtaOnDataWrite E C data b log).2 = handleOpen handle log
  rest : ∀ frames : List Bytes, frames.foldl (deliver E C) (bleOtaOnDataWrite E C data b log) =
    frames.foldl (deliver E C) (b, log)

/-- A header without payload, with the next sequence number. -/
structure EmptyInTurn (b : BleOta) (data : Bytes) : Prop where
  length : data.length = 6
  empty : frameLen data = 0
  seq : readLe 4 data = b.bo.expectSeq

/-- A payload with the next sequence number that goes so far past the announced size that the sum
wraps at 32 bits. -/
structure WrapsInTurn (b : BleOta) (data : Bytes) : Prop where
  length : data.length = 6 + frameLen data
  seq : readLe 4 data = b.bo.expectSeq
  past : b.bo.total < b.bo.written + frameLen data
  wraps : (b.bo.written + frameLen data) % 2 ^ 32 ≤ b.bo.total

/-- The frame that passes the header tests moves `s_bo`, whatever the session says to it. -/
theorem NextFrame.moves (h : NextFrame b data) (log : FlashLog) :
    (bleOtaOnDataWrite E C data b log).1.bo ≠ b.bo := by
  obtain ⟨⟨e, ble, log'⟩, hw⟩ : ∃ q, otaSessionWrite E C b.ble (data.drop 6) log = q := ⟨_, rfl⟩
  have hover : ∀ bo : BleOtaState, bo.active = false → bo ≠ b.bo := by
    intro bo hoff hsame
    rw [hsame, h.active] at hoff
    exact absurd hoff (by decide)
  rw [bleOtaOnDataWrite_next E C h hw]
  by_cases hok : e ≠ .ok
  · -- the chunk was refused: the transfer is over
    rw [if_pos hok]
    exact hover _ rfl
  · rw [if_neg hok]
    obtain ⟨mark, sent, htaken⟩ :=
      bleOtaTaken_spec E (data.drop 6).length { b with ble := ble } log'
    rw [htaken]
    split
    · rw [(bleOtaFinalize_spec E _ log').1]
      exact hover _ rfl
    · -- the chunk was taken: the number of the next frame has changed
      intro hsame
      have hseq : (b.bo.expectSeq + 1) % 2 ^ 32 = b.bo.expectSeq := congrArg (·.expectSeq) hsame
      omega

/-- A frame that is harmless is one the header tests drop, and such a frame is harmless. -/
theorem harmless_iff_dropped (log : FlashLog) : Harmless E C b log data ↔ ¬ NextFrame b data := by
  constructor
  · intro h hnext
    exact hnext.moves log h.bo
  · intro h
    have hsame := bleOtaOnDataWrite_dropped E C h log
    exact ⟨by rw [hsame], by rw [hsame], fun _ => by rw [hsame], fun _ => by rw [hsame],
      fun _ => by rw [hsame]⟩

/-- The useless frames that pass the header tests are those of the two kinds above. -/
theorem Useless.nextFrame_iff (hu : Useless b data) (hact : b.bo.active = true)
    (hle : b.bo.written ≤ b.bo.total) (htotal : b.bo.total < 2 ^ 32) :
    NextFrame b data ↔ EmptyInTurn b data ∨ WrapsInTurn b data := by
  constructor
  · intro h
    have hlen : data.length = 6 + frameLen data := h.length
    have hfits : (b.bo.written + frameLen data) % 2 ^ 32 ≤ b.bo.total := h.fits
    rcases hu with hshort | hne | hempty | hother | hpast
    · omega
    · exact absurd hlen hne
    · exact .inl ⟨by omega, hempty, h.seq⟩
    · exact absurd h.seq hother
    · exact .inr ⟨hlen, h.seq, hpast, hfits⟩
  · rintro (h | h)
    · have hfits : (b.bo.written + frameLen data) % 2 ^ 32 ≤ b.bo.total := by
        rw [h.empty, Nat.add_zero, Nat.mod_eq_of_lt (by omega)]
        exact hle
      have hlen : data.length = 6 + frameLen data := by rw [h.length, h.empty]
      exact ⟨hact, hlen, h.seq, hfits⟩
    · exact ⟨hact, h.length, h.seq, h.wraps⟩

/-- A header without payload in its turn ends the transfer: the session refuses it, and the adapter
aborts, tells the client and forgets the transfer. -/
theorem emptyInTurn_aborts (hact : b.bo.active = true) (hle : b.bo.written ≤ b.bo.total)
    (htotal : b.bo.total < 2 ^ 32) (h : EmptyInTurn b data) (log : FlashLog) :
    bleOtaOnDataWrite E C data b log =
      ({ b with bo := .zero, ble := (otaSessionAbort b.ble log).1,
                sent := b.sent ++ [lit "ERR WRITE"] }, (otaSessionAbort b.ble log).2) := by
  have hnext : NextFrame b data :=
    (Useless.nextFrame_iff (.inr (.inr (.inl h.empty))) hact hle htotal).mpr (.inl h)
  have hnone : data.drop 6 = [] := List.drop_of_length_le h.length.le
  have hrefused : otaSessionWrite E C b.ble (data.drop 6) log = (.invalidArg, b.ble, log) := by
    rw [otaSessionWrite, if_pos (.inr hnone)]
  rw [bleOtaOnDataWrite_next E C hnext hrefused, if_pos (by decide)]
  rfl

/-- In every reachable state with a transfer under way, a useless frame is harmless exactly when it
is neither a header without payload in its turn nor one whose sum wraps. -/
theorem useless_harmless_iff (E : FlashEnv) (C : Crc32) (evs : List OtaEv) (data : Bytes)
    (hact : (Run.exec (OtaWorld.step E C) .init evs).ble.bo.active = true)
    (hu : Useless (Run.exec (OtaWorld.step E C) .init evs).ble data) :
    Harmless E C (Run.exec (OtaWorld.step E C) .init evs).ble
        (Run.exec (OtaWorld.step E C) .init evs).log data ↔
      ¬ EmptyInTurn (Run.exec (OtaWorld.step E C) .init evs).ble data ∧
        ¬ WrapsInTurn (Run.exec (OtaWorld.step E C) .init evs).ble data := by
  obtain ⟨-, -, hlt, dst, -, hfits⟩ := (otaWorld_agrees E C evs).transfer hact
  have hsize := dst.size_lt
  rw [harmless_iff_dropped, hu.nextFrame_iff hact hlt.le (by omega), not_or]

/-- The update of fifteen bytes has been announced. -/
def announced : List OtaEv := [.bleCtrl .recovery ⟨true, 0⟩ (startLine 15 0)]

/-- A frame with a wrong sequence number is harmless there. -/
theorem useless_harmless_early :
    Harmless ota0Env romCrc32 (Run.exec (OtaWorld.step ota0Env romCrc32) .init announced).ble
      (Run.exec (OtaWorld.step ota0Env romCrc32) .init announced).log (uploadFrame 1 [0xE9]) :=
  (useless_harmless_iff ota0Env romCrc32 announced (uploadFrame 1 [0xE9]) (by decide +kernel)
    (.inr (.inr (.inr (.inl (by decide +kernel)))))).mpr
    ⟨fun h => absurd h.length (by decide), fun h => absurd h.seq (by decide +kernel)⟩

/-- Six zero bytes, the first DATA write after the announcement: `s_bo` is cleared, the session
closed and the handle gone. -/
theorem useless_empty_aborts :
    let w := Run.exec (OtaWorld.step ota0Env romCrc32) .init announced
    let r := bleOtaOnDataWrite ota0Env romCrc32 (uploadFrame 0 []) w.ble w.log
    w.ble.bo.active = true ∧ Useless w.ble (uploadFrame 0 []) ∧ handleOpen 1 w.log = true ∧
      r.1.bo = .zero ∧ r.1.ble.active = false ∧ handleOpen 1 r.2 = false ∧
      ¬ Harmless ota0Env romCrc32 w.ble w.log (uploadFrame 0 []) := by
  intro w r
  have hbo : r.1.bo = .zero := by decide +kernel
  have hact : w.ble.bo.active = true := by decide +kernel
  refine ⟨hact, .inr (.inr (.inl (by decide))), by decide +kernel, hbo, by decide +kernel,
    by decide +kernel, fun h => ?_⟩
  have hsame : w.ble.bo = .zero := h.bo.symm.trans hbo
  rw [hsame] at hact
  exact absurd hact (by decide)

end RemoteControl
