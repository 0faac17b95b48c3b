import Mathlib.Control.Monad.Writer
import FruityMesh.Library.LittleEndian

/-!
# Programs that read a buffer

A program that gets a pointer and a length can read behind the buffer, and can get the number
of elements in it wrong.  A `Reads α` is a program that notes both: the index of every byte
that it reads, and every number of elements that it works out from the length.

`InBounds length` says that nothing of this is wrong for a buffer of `length` bytes.  There is
one rule for each way to put a program together, so that the lengths with which a parser stays
in bounds can be read off its definition.
-/

namespace Reads

open Cells LittleEndian

/-- What a program notes. -/
inductive Access
  | byte (index : ℕ)
  /-- It takes the buffer to hold `elements` elements of `width` bytes from `start` on. -/
  | count (elements start width : ℕ)
  deriving DecidableEq, Repr

/-- A byte is inside of the buffer; a number of elements is the number of whole ones. -/
def Access.InBounds (length : ℕ) : Access → Prop
  | .byte index => index < length
  | .count elements start width => elements = (length - start) / width

instance (length : ℕ) (access : Access) : Decidable (access.InBounds length) :=
  match access with
  | .byte _ => inferInstanceAs (Decidable (_ < _))
  | .count _ _ _ => inferInstanceAs (Decidable (_ = _))

end Reads

/-- A program that notes what it reads. -/
def Reads (α : Type) : Type := Writer (List Reads.Access) α

namespace Reads

open Cells LittleEndian

instance : Monad Reads := inferInstanceAs (Monad (Writer (List Access)))

variable {α β ι σ : Type} {length : ℕ}

def value (program : Reads α) : α := (WriterT.run program).1

def accesses (program : Reads α) : List Access := (WriterT.run program).2

def InBounds (length : ℕ) (program : Reads α) : Prop :=
  ∀ access ∈ program.accesses, access.InBounds length

instance (program : Reads α) : Decidable (program.InBounds length) :=
  inferInstanceAs (Decidable (∀ access ∈ program.accesses, access.InBounds length))

/-! ## Single accesses -/

def readByte (cell : ℕ → BitVec 8) (index : ℕ) : Reads (BitVec 8) :=
  WriterT.mk (cell index, [.byte index])

def readBlock (cell : ℕ → BitVec 8) (start length : ℕ) : Reads (List (BitVec 8)) :=
  WriterT.mk (read cell start length, (List.range length).map fun i => .byte (start + i))

def readField (width : ℕ) (cell : ℕ → BitVec 8) (offset : ℕ) : Reads (BitVec (8 * width)) := do
  let bytes ← readBlock cell offset width
  return BitVec.ofNat (8 * width) (decode bytes)

/-- The program goes on with this number of elements. -/
def noteCount (elements start width : ℕ) : Reads Unit := WriterT.mk ((), [.count elements start width])

/-- The bytes up to the first zero, but not more than `limit`. -/
def readText (cell : ℕ → BitVec 8) : (offset limit : ℕ) → Reads (List (BitVec 8))
  | _, 0 => return []
  | offset, limit + 1 => do
    let c ← readByte cell offset
    if c = 0 then return [] else return c :: (← readText cell (offset + 1) limit)

/-! ## Loops -/

def forEach (f : ι → Reads α) : List ι → Reads (List α)
  | [] => return []
  | x :: xs => do
    let y ← f x
    return y :: (← forEach f xs)

def fold (f : σ → ι → Reads σ) : List ι → σ → Reads σ
  | [], s => return s
  | x :: xs, s => do fold f xs (← f s x)

/-! ## Values

The parentheses keep these from being used by `dsimp`, which would rewrite the condition of an
`if` but not the instance that decides it. -/

@[simp] theorem value_pure (a : α) : (pure a : Reads α).value = a := (rfl)

@[simp] theorem value_bind (program : Reads α) (f : α → Reads β) :
    (program >>= f).value = (f program.value).value := (rfl)

@[simp] theorem value_readByte (cell : ℕ → BitVec 8) (index : ℕ) :
    (readByte cell index).value = cell index := (rfl)

@[simp] theorem value_readBlock (cell : ℕ → BitVec 8) (start length : ℕ) :
    (readBlock cell start length).value = read cell start length := (rfl)

@[simp] theorem value_readField (width : ℕ) (cell : ℕ → BitVec 8) (offset : ℕ) :
    (readField width cell offset).value = fieldAt width cell offset := (rfl)

@[simp] theorem value_forEach (f : ι → Reads α) (xs : List ι) :
    (forEach f xs).value = xs.map fun x => (f x).value := by
  induction xs with
  | nil => rfl
  | cons x xs ih => simp [forEach, ih]

/-! ## Bounds -/

@[simp] theorem inBounds_pure (a : α) : (pure a : Reads α).InBounds length := by
  intro access haccess
  cases haccess

@[simp] theorem inBounds_bind (program : Reads α) (f : α → Reads β) :
    (program >>= f).InBounds length ↔
      program.InBounds length ∧ (f program.value).InBounds length :=
  List.forall_mem_append

@[simp] theorem inBounds_readByte (cell : ℕ → BitVec 8) (index : ℕ) :
    (readByte cell index).InBounds length ↔ index < length :=
  List.forall_mem_singleton

@[simp] theorem inBounds_noteCount (elements start width : ℕ) :
    (noteCount elements start width).InBounds length ↔ elements = (length - start) / width :=
  List.forall_mem_singleton

/-- A block without bytes may stand anywhere. -/
@[simp] theorem inBounds_readBlock (cell : ℕ → BitVec 8) (start n : ℕ) :
    (readBlock cell start n).InBounds length ↔ n = 0 ∨ start + n ≤ length := by
  have haccesses : (readBlock cell start n).InBounds length ↔ ∀ i < n, start + i < length := by
    simp [InBounds, accesses, readBlock, Access.InBounds]
  rw [haccesses]
  constructor
  · intro hall
    rcases Nat.eq_zero_or_pos n with hzero | hpos
    · exact Or.inl hzero
    · have := hall (n - 1) (by omega)
      omega
  · intro h i hi
    omega

@[simp] theorem inBounds_readField (width : ℕ) (cell : ℕ → BitVec 8) (offset : ℕ) :
    (readField width cell offset).InBounds length ↔ width = 0 ∨ offset + width ≤ length := by
  simp [readField]

theorem inBounds_readText (cell : ℕ → BitVec 8) {offset limit : ℕ} (h : offset + limit ≤ length) :
    (readText cell offset limit).InBounds length := by
  induction limit generalizing offset with
  | zero => exact inBounds_pure _
  | succ limit ih =>
    have hrest : (readText cell (offset + 1) limit).InBounds length := ih (by omega)
    rw [readText, inBounds_bind]
    refine ⟨(inBounds_readByte _ _).mpr (by omega), ?_⟩
    split
    · exact inBounds_pure _
    · simpa using hrest

@[simp] theorem inBounds_forEach (f : ι → Reads α) (xs : List ι) :
    (forEach f xs).InBounds length ↔ ∀ x ∈ xs, (f x).InBounds length := by
  induction xs with
  | nil => simp [forEach]
  | cons x xs ih => simp [forEach, ih]

/-- A loop over a state stays in bounds exactly if each turn does, where `I` is kept by the
turns, and with it the element alone decides whether a turn stays in bounds. -/
theorem inBounds_fold {f : σ → ι → Reads σ} {I : σ → Prop} {P : ι → Prop} {xs : List ι}
    (hkept : ∀ s x, I s → I (f s x).value)
    (hturn : ∀ s x, I s → ((f s x).InBounds length ↔ P x)) {s : σ} (hs : I s) :
    (fold f xs s).InBounds length ↔ ∀ x ∈ xs, P x := by
  induction xs generalizing s with
  | nil => simp [fold]
  | cons x xs ih =>
    rw [fold, inBounds_bind, hturn s x hs, ih (hkept s x hs), List.forall_mem_cons]

end Reads
