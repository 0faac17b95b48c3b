import FruityMesh.Library.Cells
import FruityMesh.Types

/-!
# A line from the terminal

`ReadlineUART` reads byte after byte into the buffer of `PollUART`, and takes the last character
back when it gets a backspace.  A return ends the line, and so does any other byte when the buffer
is full.

The NUL that ends the line needs a byte of its own.  When 250 characters have been read there is
none left in the buffer, and the NUL is stored behind it (`line_edited_iff`).
-/

namespace FruityMesh.Terminal

open Cells

def backspace : U8 := 127

def carriageReturn : U8 := 13

/-- The size of the buffer of `PollUART`. -/
def readBufferBytes : ℕ := 250

/-! ## Reading -/

/-- `ReadlineUART` between two bytes; `done` when it has returned. -/
structure Reading where
  readBuffer : Memory U8
  counter : U8
  done : Bool

/-- One turn of the loop of `ReadlineUART`. -/
def readByte (readBufferLength : U8) (r : Reading) (byteBuffer : U8) : Reading :=
  if r.done then r
  else if byteBuffer = backspace then
    if 0 < r.counter.toNat then
      { r with
        readBuffer := r.readBuffer.store (r.counter.toNat - 1) [0]
        counter := r.counter - 1 }
    else r
  else if byteBuffer = carriageReturn ∨ readBufferLength.toNat ≤ r.counter.toNat ∨
      250 ≤ r.counter.toNat then
    -- the counter may have reached the end of the buffer
    { r with readBuffer := r.readBuffer.store r.counter.toNat [0], done := true }
  else
    { r with
      readBuffer := r.readBuffer.store r.counter.toNat [byteBuffer]
      counter := r.counter + 1 }

/-- `ReadlineUART`, as far as it has come when these bytes have been received. -/
def readlineUART (readBuffer : Memory U8) (readBufferLength offset : U8) (bytes : List U8) :
    Reading :=
  bytes.foldl (readByte readBufferLength) ⟨readBuffer, offset, false⟩

/-- `PollUART` with a first byte, up to the end of the line. -/
def pollUART (readBuffer : Memory U8) (first : U8) (bytes : List U8) : Reading :=
  readlineUART ((readBuffer.store 0 [0]).store 0 [first]) 250 1 bytes

/-! ## Editing -/

/-- A line after one more byte. -/
def edit (line : List U8) (byte : U8) : List U8 :=
  if byte = backspace then line.dropLast else line ++ [byte]

/-- The line that is meant: all bytes up to the return. -/
def edited (line bytes : List U8) : List U8 :=
  (bytes.takeWhile (· ≠ carriageReturn)).foldl edit line

/-- Some byte, but for a backspace, finds a line that takes up all of the buffer. -/
def FillsUp (line bytes : List U8) : Prop :=
  ∃ before byte after, bytes = before ++ byte :: after ∧ carriageReturn ∉ before ∧
    byte ≠ backspace ∧ readBufferBytes ≤ (before.foldl edit line).length

/-- The buffer is not left, reading stops with a return or when the buffer is full, and then the
line is in the buffer with a NUL behind it. -/
def Reading.Edited (r : Reading) (line bytes : List U8) : Prop :=
  r.readBuffer.AccessesWithin readBufferBytes ∧
    (r.done = true ↔ carriageReturn ∈ bytes ∨ FillsUp line bytes) ∧
    (r.done = true → Holds r.readBuffer.cell 0 (edited line bytes ++ [0]))

variable {r : Reading} {line rest : List U8} {byte : U8}

theorem not_fillsUp_nil (line : List U8) : ¬ FillsUp line [] := by
  rintro ⟨before, byte, after, hsplit, -⟩
  exact absurd hsplit (by simp)

theorem fillsUp_cons :
    FillsUp line (byte :: rest) ↔
      byte ≠ backspace ∧ readBufferBytes ≤ line.length ∨
        byte ≠ carriageReturn ∧ FillsUp (edit line byte) rest := by
  constructor
  · rintro ⟨before, last, after, hsplit, hreturn, hlast, hfull⟩
    cases before with
    | nil =>
        obtain ⟨rfl, -⟩ := List.cons.inj hsplit
        exact Or.inl ⟨hlast, hfull⟩
    | cons first before =>
        obtain ⟨rfl, hrest⟩ := List.cons.inj hsplit
        obtain ⟨hfirst, hbefore⟩ := not_or.mp (List.mem_cons.not.mp hreturn)
        exact Or.inr ⟨Ne.symm hfirst, before, last, after, hrest, hbefore, hlast, hfull⟩
  · rintro (⟨hbyte, hfull⟩ | ⟨hbyte, before, last, after, rfl, hbefore, hlast, hfull⟩)
    · exact ⟨[], byte, rest, rfl, List.not_mem_nil, hbyte, hfull⟩
    · refine ⟨byte :: before, last, after, rfl, ?_, hlast, hfull⟩
      exact List.mem_cons.not.mpr (not_or.mpr ⟨Ne.symm hbyte, hbefore⟩)

theorem edited_return (line rest : List U8) : edited line (carriageReturn :: rest) = line := by
  simp [edited]

theorem edited_cons (hbyte : byte ≠ carriageReturn) :
    edited line (byte :: rest) = edited (edit line byte) rest := by
  simp [edited, hbyte]

/-! ## One byte -/

/-- The line is in the buffer, and the counter stands behind it. -/
structure Shows (r : Reading) (line : List U8) : Prop where
  reading : r.done = false
  counter : r.counter.toNat = line.length
  text : Holds r.readBuffer.cell 0 line
  within : r.readBuffer.AccessesWithin readBufferBytes
  room : line.length ≤ readBufferBytes

namespace Shows

theorem takeBack (h : Shows r line) : Shows (readByte 250 r backspace) line.dropLast := by
  have hreading : ¬ r.done = true := by simp [h.reading]
  rw [readByte, if_neg hreading, if_pos rfl]
  rcases List.eq_nil_or_concat line with rfl | ⟨start, last, rfl⟩
  · rw [if_neg (by simp [h.counter])]
    exact h
  · have hcounter : r.counter.toNat = start.length + 1 := by simpa using h.counter
    have hroom : start.length + 1 ≤ readBufferBytes := by simpa using h.room
    rw [if_pos (by omega), List.concat_eq_append, List.dropLast_concat]
    refine ⟨h.reading, ?_, ?_, ?_, by omega⟩
    · dsimp only
      have hone : (1 : U8).toNat = 1 := rfl
      bv_omega
    · have hstart := (holds_append.mp (List.concat_eq_append ▸ h.text)).1
      exact hstart.overwrite_after [0] (by omega)
    · exact h.within.store (by rw [List.length_singleton]; omega)

theorem append (h : Shows r line) (hbyte : byte ≠ backspace)
    (hreturn : byte ≠ carriageReturn) (hroom : line.length < readBufferBytes) :
    Shows (readByte 250 r byte) (line ++ [byte]) := by
  have hreading : ¬ r.done = true := by simp [h.reading]
  have hlength : (250 : U8).toNat = 250 := rfl
  have hbytes : readBufferBytes = 250 := rfl
  have hcounter := h.counter
  rw [readByte, if_neg hreading, if_neg hbyte, if_neg (by simp only [hreturn, false_or]; omega)]
  refine ⟨h.reading, ?_, ?_, ?_, ?_⟩
  · rw [List.length_append, List.length_singleton]
    dsimp only
    bv_omega
  · rw [holds_append, Nat.zero_add, ← h.counter]
    exact ⟨h.text.overwrite_after [byte] (by omega), holds_overwrite _ _ _⟩
  · exact h.within.store (by rw [List.length_singleton]; omega)
  · rw [List.length_append, List.length_singleton]
    omega

/-- The line ends, and the NUL is stored behind it. -/
theorem ends (h : Shows r line) (hbyte : byte ≠ backspace)
    (hends : byte = carriageReturn ∨ line.length = readBufferBytes) :
    readByte 250 r byte =
      { r with readBuffer := r.readBuffer.store line.length [0], done := true } := by
  have hreading : ¬ r.done = true := by simp [h.reading]
  have hlength : (250 : U8).toNat = 250 := rfl
  have hbytes : readBufferBytes = 250 := rfl
  rw [readByte, if_neg hreading, if_neg hbyte, if_pos, h.counter]
  rw [h.counter]
  exact hends.imp_right fun hfull => Or.inl (by omega)

end Shows

theorem foldl_done (h : r.done = true) (bytes : List U8) :
    bytes.foldl (readByte 250) r = r := by
  induction bytes with
  | nil => rfl
  | cons byte bytes ih => rw [List.foldl_cons, readByte, if_pos h, ih]

/-! ## The line -/

/-- What is meant by the bytes is what is meant by all but the first, for the line after it. -/
theorem Reading.edited_cons_iff (hbyte : byte ≠ carriageReturn)
    (hfills : FillsUp line (byte :: rest) ↔ FillsUp (edit line byte) rest) :
    r.Edited line (byte :: rest) ↔ r.Edited (edit line byte) rest := by
  unfold Edited
  rw [hfills, edited_cons hbyte, List.mem_cons, or_iff_right (Ne.symm hbyte)]

/-- From any moment on, the line is edited as it should if and only if it does not fill up. -/
theorem Shows.edited_iff {bytes : List U8} (h : Shows r line) :
    (bytes.foldl (readByte 250) r).Edited line bytes ↔ ¬ FillsUp line bytes := by
  induction bytes generalizing r line with
  | nil =>
      refine iff_of_true ⟨h.within, ?_, fun hdone => ?_⟩ (not_fillsUp_nil line)
      · simp [h.reading, not_fillsUp_nil]
      · exact absurd hdone (ne_true_of_eq_false h.reading)
  | cons byte rest ih =>
      rw [List.foldl_cons]
      by_cases hback : byte = backspace
      · subst hback
        have hreturn : backspace ≠ carriageReturn := by decide
        have hfills : FillsUp line (backspace :: rest) ↔ FillsUp line.dropLast rest := by
          rw [fillsUp_cons, edit, if_pos rfl]
          simp [hreturn]
        rw [Reading.edited_cons_iff hreturn hfills, hfills]
        exact ih h.takeBack
      · by_cases hfull : readBufferBytes ≤ line.length
        · -- the NUL is stored behind the buffer
          have hlength : line.length = readBufferBytes := Nat.le_antisymm h.room hfull
          rw [h.ends hback (Or.inr hlength), foldl_done rfl]
          refine iff_of_false (fun hedited => ?_) (not_not_intro (fillsUp_cons.mpr
            (Or.inl ⟨hback, hfull⟩)))
          have hfits := (Memory.accessesWithin_store_iff.mp hedited.1).2
          rw [List.length_singleton] at hfits
          omega
        · by_cases hreturn : byte = carriageReturn
          · subst hreturn
            rw [h.ends hback (Or.inl rfl), foldl_done rfl]
            have hroom : ¬ FillsUp line (carriageReturn :: rest) := by
              rw [fillsUp_cons]
              simp [hfull]
            refine iff_of_true ⟨?_, ?_, fun _ => ?_⟩ hroom
            · exact h.within.store (by rw [List.length_singleton]; omega)
            · simp
            · rw [edited_return, holds_append, Nat.zero_add]
              exact ⟨h.text.overwrite_after [0] (by omega), holds_overwrite _ _ _⟩
          · have hfills : FillsUp line (byte :: rest) ↔ FillsUp (line ++ [byte]) rest := by
              rw [fillsUp_cons, edit, if_neg hback]
              simp [hfull, hreturn]
            have hedit : edit line byte = line ++ [byte] := if_neg hback
            rw [Reading.edited_cons_iff hreturn (hedit ▸ hfills), hedit, hfills]
            exact ih (h.append hback hreturn (Nat.not_le.mp hfull))

/-- A first character in the buffer. -/
theorem Shows.first {readBuffer : Memory U8} {first : U8} (hfirst : readBuffer.cell 0 = first)
    (hwithin : readBuffer.AccessesWithin readBufferBytes) :
    Shows ⟨readBuffer, 1, false⟩ [first] :=
  ⟨rfl, rfl, holds_cons.mpr ⟨hfirst, holds_nil _ _⟩, hwithin, by simp [readBufferBytes]⟩

theorem pollUART_edited_iff (cell : ℕ → U8) (first : U8) (bytes : List U8) :
    (pollUART ⟨cell, [], []⟩ first bytes).Edited [first] bytes ↔ ¬ FillsUp [first] bytes := by
  refine Shows.edited_iff (Shows.first ?_ ?_)
  · exact (holds_cons.mp (holds_overwrite (overwrite cell 0 [0]) 0 [first])).1
  · simp [Memory.AccessesWithin, Span.Within, readBufferBytes]

/-- **The line is edited as it should, inside of the buffer, if and only if it does not fill up.**
The first character is in the buffer before, and whatever lies behind it. -/
theorem line_edited_iff (cell : ℕ → U8) (bytes : List U8) :
    (readlineUART ⟨cell, [], []⟩ 250 1 bytes).Edited [cell 0] bytes ↔
      ¬ FillsUp [cell 0] bytes :=
  Shows.edited_iff (Shows.first rfl ⟨by simp, by simp⟩)

/-- 250 characters, and then a return. -/
theorem line_overrun : ¬ ∀ cell bytes,
    (readlineUART ⟨cell, [], []⟩ 250 1 bytes).Edited [cell 0] bytes := by
  intro hclaim
  have hedited := hclaim (fun _ => 65) (List.replicate 249 65 ++ [carriageReturn])
  have hfull : FillsUp [65] (List.replicate 249 65 ++ [carriageReturn]) :=
    ⟨_, _, [], rfl, by decide, by decide, by decide +kernel⟩
  exact (Shows.first rfl ⟨by simp, by simp⟩).edited_iff.mp hedited hfull

end FruityMesh.Terminal
