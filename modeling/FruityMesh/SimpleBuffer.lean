import FruityMesh.Library.Cells
import FruityMesh.Library.Runs
import FruityMesh.Types

/-!
# The simple buffer

`SimpleBuffer.cpp`: items of one length, one behind the other.  Items are added behind the write
pointer, `GetNext` is to return them in order, and `PeekItemAt` is to return those that are left.

`GetNext` moves the read pointer first and returns it then, so it returns the item behind the one
that is next.  The discovery, which only adds and peeks, never calls it.  As long as `GetNext` finds
no item, the buffer acts as a bounded queue (`acts_as_queue_iff`).

As in the packet queue, pointers are offsets from `buffer`.
-/

namespace FruityMesh

open Cells Runs

structure SimpleBuffer where
  memory : Memory U8
  bufferLength : U16
  itemLength : U16
  readPointer : ℕ
  writePointer : ℕ
  numElements : U16

namespace SimpleBuffer

/-- The constructor, on memory with any contents. -/
def new (memory : ℕ → U8) (bufferLength itemLength : U16) : SimpleBuffer where
  memory := ⟨memory, [], []⟩
  bufferLength := bufferLength
  itemLength := itemLength
  readPointer := 0
  writePointer := 0
  numElements := 0

/-- The test of `Put` and `Reserve`. -/
def IsFull (b : SimpleBuffer) : Prop :=
  (b.bufferLength.toNat : ℤ) - b.writePointer < b.itemLength.toNat

instance (b : SimpleBuffer) : Decidable b.IsFull := inferInstanceAs (Decidable (_ < _))

/-- `Put` of the item that a pointer points to. -/
def put (b : SimpleBuffer) (data : ℕ → U8) : SimpleBuffer × Bool :=
  if b.IsFull then (b, false)
  else
    ({ b with
      memory := b.memory.store b.writePointer (read data 0 b.itemLength.toNat)
      writePointer := b.writePointer + b.itemLength.toNat
      numElements := b.numElements + 1 }, true)

def reserve (b : SimpleBuffer) : SimpleBuffer × Option ℕ :=
  if b.IsFull then (b, none)
  else
    let b := { b with
      writePointer := b.writePointer + b.itemLength.toNat
      numElements := b.numElements + 1 }
    (b, some (b.writePointer - b.itemLength.toNat))

def getNext (b : SimpleBuffer) : SimpleBuffer × Option ℕ :=
  if b.readPointer ≥ b.writePointer then (b, none)
  else
    let b := { b with
      readPointer := b.readPointer + b.itemLength.toNat
      numElements := b.numElements - 1 }
    -- the pointer has been moved already
    (b, some b.readPointer)

def peekItemAt (b : SimpleBuffer) (position : U16) : Option ℕ :=
  if position.toNat ≥ b.numElements.toNat then none
  -- from the first item that was added, whether it has been taken or not
  else some (b.itemLength.toNat * position.toNat)

def clean (b : SimpleBuffer) : SimpleBuffer :=
  { b with readPointer := 0, writePointer := 0, numElements := 0 }

/-! ## A bounded queue -/

/-- The items that have been added since the queue was emptied, the oldest first, and how many of
them have been taken. -/
structure Queue (α : Type*) where
  added : List α
  taken : ℕ

namespace Queue

variable {α : Type*} (q : Queue α)

/-- The items that have not been taken. -/
def left : ℕ := q.added.length - q.taken

/-- Add an item, at the position that is returned. -/
def add (capacity : ℕ) (x : α) : Queue α × Option ℕ :=
  if q.added.length < capacity then ({ q with added := q.added ++ [x] }, some q.added.length)
  else (q, none)

/-- Take the oldest item that is left. -/
def take : Queue α × Option ℕ :=
  if q.taken < q.added.length then ({ q with taken := q.taken + 1 }, some q.taken) else (q, none)

/-- The position of an item among those that are left. -/
def peek (i : ℕ) : Option ℕ := if i < q.left then some (q.taken + i) else none

end Queue

/-! ## Operations -/

inductive Operation
  | put (data : ℕ → U8)
  | reserve
  | getNext
  | peekItemAt (position : U16)
  | clean

/-- What an operation returns; a pointer is an offset. -/
inductive Answer
  | success (result : Bool)
  | pointer (result : Option ℕ)
  | nothing
  deriving DecidableEq, Repr

def operate (b : SimpleBuffer) : Operation → SimpleBuffer × Answer
  | .put data => ((b.put data).1, .success (b.put data).2)
  | .reserve => (b.reserve.1, .pointer b.reserve.2)
  | .getNext => (b.getNext.1, .pointer b.getNext.2)
  | .peekItemAt position => (b, .pointer (b.peekItemAt position))
  | .clean => (b.clean, .nothing)

/-- What stands in an item that `Put` has added; an item that was reserved belongs to the caller. -/
abbrev Item := Option (List U8)

/-- The operations as those of a queue of items of this length. -/
def Queue.operate (q : Queue Item) (capacity itemLength : ℕ) :
    Operation → Queue Item × Answer
  | .put data =>
      let result := q.add capacity (some (read data 0 itemLength))
      (result.1, .success result.2.isSome)
  | .reserve =>
      let result := q.add capacity none
      (result.1, .pointer (result.2.map (itemLength * ·)))
  | .getNext => (q.take.1, .pointer (q.take.2.map (itemLength * ·)))
  | .peekItemAt position => (q, .pointer ((q.peek position.toNat).map (itemLength * ·)))
  | .clean => (⟨[], 0⟩, .nothing)

/-- A queue returns no pointer to anything but an item that has been added. -/
theorem Queue.pointer_added {q : Queue Item} {capacity itemLength : ℕ} {operation : Operation}
    {pointer : ℕ} (h : (q.operate capacity itemLength operation).2 = .pointer (some pointer)) :
    ∃ k < (q.operate capacity itemLength operation).1.added.length, pointer = itemLength * k := by
  cases operation with
  | put data => exact absurd h (by simp [operate])
  | reserve =>
      simp only [operate, add, Answer.pointer.injEq] at h ⊢
      split_ifs at h ⊢ with hroom
      · exact ⟨q.added.length, by simp, by simpa using h.symm⟩
      · exact absurd h (by simp)
  | getNext =>
      simp only [operate, take, Answer.pointer.injEq] at h ⊢
      split_ifs at h ⊢ with hleft
      · exact ⟨q.taken, hleft, by simpa using h.symm⟩
      · exact absurd h (by simp)
  | peekItemAt position =>
      simp only [operate, peek, Answer.pointer.injEq] at h ⊢
      split_ifs at h ⊢ with hleft
      · refine ⟨q.taken + position.toNat, ?_, by simpa using h.symm⟩
        unfold left at hleft
        omega
      · exact absurd h (by simp)
  | clean => exact absurd h (by simp [operate])

def capacity (b : SimpleBuffer) : ℕ := b.bufferLength.toNat / b.itemLength.toNat

/-- A buffer, and the queue that it is meant to be. -/
structure Pair where
  buffer : SimpleBuffer
  queue : Queue Item

namespace Pair

def start (memory : ℕ → U8) (bufferLength itemLength : U16) : Pair :=
  ⟨new memory bufferLength itemLength, ⟨[], 0⟩⟩

def meant (s : Pair) (operation : Operation) : Queue Item × Answer :=
  s.queue.operate s.buffer.capacity s.buffer.itemLength.toNat operation

def apply (s : Pair) (operation : Operation) : Pair :=
  ⟨(s.buffer.operate operation).1, (s.meant operation).1⟩

/-- What `Put` has added stands in the buffer. -/
def Stores (s : Pair) : Prop :=
  ∀ (k : ℕ) (bytes : List U8), s.queue.added[k]? = some (some bytes) →
    Holds s.buffer.memory.cell (s.buffer.itemLength.toNat * k) bytes

/-- The operation returns what it should, which is no pointer to anything but an item that has been
added, and afterwards the number of elements and the items are right. -/
def ActsRight (s : Pair) (operation : Operation) : Prop :=
  (s.buffer.operate operation).2 = (s.meant operation).2 ∧
    (∀ pointer, (s.buffer.operate operation).2 = .pointer (some pointer) →
      ∃ k < (s.apply operation).queue.added.length, pointer = s.buffer.itemLength.toNat * k) ∧
    (s.apply operation).buffer.numElements.toNat = (s.apply operation).queue.left ∧
    (s.apply operation).Stores

/-- Items are added that have a length, and `GetNext` is called when no item is left. -/
def Works (s : Pair) : Operation → Prop
  | .put _ | .reserve => s.buffer.itemLength ≠ 0
  | .getNext => s.queue.left = 0
  | .peekItemAt _ | .clean => True

/-! ## The invariant -/

/-- No item has been taken, and the buffer has the items of the queue. -/
structure Represents (s : Pair) : Prop where
  taken : s.queue.taken = 0
  read : s.buffer.readPointer = 0
  write : s.buffer.writePointer = s.buffer.itemLength.toNat * s.queue.added.length
  count : s.buffer.numElements.toNat = s.queue.added.length
  room : s.queue.added.length ≤ s.buffer.capacity
  whole : ∀ bytes, some bytes ∈ s.queue.added → bytes.length = s.buffer.itemLength.toNat
  stores : s.Stores

variable {s : Pair} {operation : Operation}

theorem represents_start (memory : ℕ → U8) (bufferLength itemLength : U16) :
    Represents (start memory bufferLength itemLength) where
  taken := rfl
  read := rfl
  write := (Nat.mul_zero _).symm
  count := rfl
  room := Nat.zero_le _
  whole := by simp [start]
  stores := by simp [start, Stores]

namespace Represents

theorem isFull_iff (h : Represents s) (hlength : s.buffer.itemLength ≠ 0) :
    s.buffer.IsFull ↔ ¬ s.queue.added.length < s.buffer.capacity := by
  have hpos : 0 < s.buffer.itemLength.toNat := by
    rw [Nat.pos_iff_ne_zero]
    exact fun hzero => hlength (BitVec.eq_of_toNat_eq hzero)
  have hroom : s.queue.added.length < s.buffer.capacity ↔
      s.buffer.itemLength.toNat * s.queue.added.length + s.buffer.itemLength.toNat ≤
        s.buffer.bufferLength.toNat := by
    rw [capacity, ← Nat.succ_le_iff, Nat.le_div_iff_mul_le hpos, Nat.succ_mul, Nat.mul_comm]
  rw [hroom, IsFull, h.write]
  omega

theorem itemLength_ne (h : Represents s) (hne : s.queue.added ≠ []) :
    s.buffer.itemLength ≠ 0 := by
  intro hzero
  have hroom := h.room
  rw [capacity, hzero] at hroom
  exact hne (List.length_eq_zero_iff.mp (by simpa using hroom))

theorem left_eq (h : Represents s) : s.queue.left = s.queue.added.length := by
  rw [Queue.left, h.taken, Nat.sub_zero]

/-- One more item; the other items stand where they stood. -/
theorem added (h : Represents s) (hroom : s.queue.added.length < s.buffer.capacity)
    {memory : Memory U8} {x : Item}
    (hkept : ∀ (k : ℕ) (bytes : List U8), s.queue.added[k]? = some (some bytes) →
      Holds memory.cell (s.buffer.itemLength.toNat * k) bytes)
    (hnew : ∀ bytes, x = some bytes → bytes.length = s.buffer.itemLength.toNat ∧
      Holds memory.cell (s.buffer.itemLength.toNat * s.queue.added.length) bytes) :
    Represents
      ⟨{ s.buffer with
          memory := memory
          writePointer := s.buffer.writePointer + s.buffer.itemLength.toNat
          numElements := s.buffer.numElements + 1 },
        { s.queue with added := s.queue.added ++ [x] }⟩ where
  taken := h.taken
  read := h.read
  write := by
    rw [List.length_append, List.length_singleton]
    calc s.buffer.writePointer + s.buffer.itemLength.toNat
        = s.buffer.itemLength.toNat * s.queue.added.length + s.buffer.itemLength.toNat := by
          rw [h.write]
      _ = s.buffer.itemLength.toNat * (s.queue.added.length + 1) := (Nat.mul_succ _ _).symm
  count := by
    have hcount := h.count
    have hcapacity : s.buffer.capacity ≤ s.buffer.bufferLength.toNat := Nat.div_le_self _ _
    have hwidth := s.buffer.bufferLength.isLt
    simp only [List.length_append, List.length_singleton]
    bv_omega
  room := by
    rw [List.length_append, List.length_singleton]
    exact hroom
  whole := by
    intro bytes hmem
    rcases List.mem_append.mp hmem with hold | hlast
    · exact h.whole bytes hold
    · exact (hnew bytes (List.mem_singleton.mp hlast).symm).1
  stores := by
    intro k bytes hk
    rcases Nat.lt_trichotomy k s.queue.added.length with hlt | rfl | hgt
    · exact hkept k bytes (by rwa [List.getElem?_append_left hlt] at hk)
    · refine (hnew bytes ?_).2
      simpa using hk
    · rw [List.getElem?_eq_none (by simp; omega)] at hk
      exact absurd hk (by simp)

/-- The store of a new item leaves the others as they are. -/
theorem stores_store (h : Represents s) (item : List U8) {k : ℕ} {bytes : List U8}
    (hk : s.queue.added[k]? = some (some bytes)) :
    Holds (s.buffer.memory.store s.buffer.writePointer item).cell
      (s.buffer.itemLength.toNat * k) bytes := by
  refine (h.stores k bytes hk).overwrite_after item ?_
  obtain ⟨hlt, hget⟩ := List.getElem?_eq_some_iff.mp hk
  calc s.buffer.itemLength.toNat * k + bytes.length
      = s.buffer.itemLength.toNat * (k + 1) := by
        rw [h.whole bytes (hget ▸ List.getElem_mem hlt), Nat.mul_succ]
    _ ≤ s.buffer.itemLength.toNat * s.queue.added.length := Nat.mul_le_mul_left _ hlt
    _ = s.buffer.writePointer := h.write.symm

/-- The step lemma: an operation that works keeps the invariant, and its answer is right. -/
theorem step (h : Represents s) (hworks : s.Works operation) :
    Represents (s.apply operation) ∧ (s.buffer.operate operation).2 = (s.meant operation).2 := by
  cases operation with
  | put data =>
      by_cases hroom : s.queue.added.length < s.buffer.capacity
      · have hfree : ¬ s.buffer.IsFull := fun hfull => (h.isFull_iff hworks).mp hfull hroom
        have hnew : ∀ bytes, some (Cells.read data 0 s.buffer.itemLength.toNat) = some bytes →
            bytes.length = s.buffer.itemLength.toNat ∧
              Holds (s.buffer.memory.store s.buffer.writePointer
                (Cells.read data 0 s.buffer.itemLength.toNat)).cell
                (s.buffer.itemLength.toNat * s.queue.added.length) bytes := by
          intro bytes heq
          obtain rfl := Option.some.inj heq
          rw [← h.write]
          exact ⟨length_read _ _ _, holds_overwrite _ _ _⟩
        have hadded := h.added hroom (fun k bytes hk => h.stores_store _ hk) hnew
        simp only [apply, operate, put, if_neg hfree, meant, Queue.operate, Queue.add,
          if_pos hroom]
        exact ⟨hadded, rfl⟩
      · have hfull : s.buffer.IsFull := (h.isFull_iff hworks).mpr hroom
        simp only [apply, operate, put, if_pos hfull, meant, Queue.operate, Queue.add,
          if_neg hroom]
        exact ⟨h, rfl⟩
  | reserve =>
      by_cases hroom : s.queue.added.length < s.buffer.capacity
      · have hfree : ¬ s.buffer.IsFull := fun hfull => (h.isFull_iff hworks).mp hfull hroom
        have hadded := @added s h hroom s.buffer.memory none h.stores (by simp)
        simp only [apply, operate, reserve, if_neg hfree, meant, Queue.operate, Queue.add,
          if_pos hroom, Nat.add_sub_cancel, h.write, Option.map_some, and_true]
        rwa [h.write] at hadded
      · have hfull : s.buffer.IsFull := (h.isFull_iff hworks).mpr hroom
        simp only [apply, operate, reserve, if_pos hfull, meant, Queue.operate, Queue.add,
          if_neg hroom]
        exact ⟨h, rfl⟩
  | getNext =>
      have hnone : s.queue.added.length = 0 := h.left_eq.symm.trans hworks
      have hempty : s.buffer.readPointer ≥ s.buffer.writePointer := by
        rw [h.write, hnone, Nat.mul_zero]
        exact Nat.zero_le _
      have htaken : ¬ s.queue.taken < s.queue.added.length := by omega
      simp only [apply, operate, getNext, if_pos hempty, meant, Queue.operate, Queue.take,
        if_neg htaken]
      exact ⟨h, rfl⟩
  | peekItemAt position =>
      refine ⟨h, ?_⟩
      simp only [operate, peekItemAt, meant, Queue.operate, Queue.peek, h.left_eq, h.count, h.taken,
        Nat.zero_add]
      split_ifs with hbehind hleft hleft
      · omega
      · rfl
      · rfl
      · omega
  | clean =>
      refine ⟨⟨rfl, rfl, (Nat.mul_zero _).symm, rfl, Nat.zero_le _, ?_, ?_⟩, rfl⟩
      · simp [apply, meant, Queue.operate]
      · simp [Stores, apply, meant, Queue.operate]

/-- An operation that does not work answers wrongly. -/
theorem answer_ne (h : Represents s) (hworks : ¬ s.Works operation) :
    (s.buffer.operate operation).2 ≠ (s.meant operation).2 := by
  have hfree : s.buffer.itemLength = 0 → ¬ s.buffer.IsFull := by
    intro hzero
    rw [IsFull, h.write, hzero]
    simp
  have hnone : s.buffer.itemLength = 0 → ¬ s.queue.added.length < s.buffer.capacity := by
    intro hzero
    simp [capacity, hzero]
  cases operation with
  | put data =>
      have hzero : s.buffer.itemLength = 0 := not_not.mp hworks
      simp [operate, put, hfree hzero, meant, Queue.operate, Queue.add, hnone hzero]
  | reserve =>
      have hzero : s.buffer.itemLength = 0 := not_not.mp hworks
      simp [operate, reserve, hfree hzero, meant, Queue.operate, Queue.add, hnone hzero]
  | getNext =>
      have hitems : s.queue.added ≠ [] := by
        intro hempty
        exact hworks (h.left_eq.trans (by rw [hempty, List.length_nil]))
      have hpos : 0 < s.queue.added.length := List.length_pos_iff.mpr hitems
      have hlength : 0 < s.buffer.itemLength.toNat := by
        rw [Nat.pos_iff_ne_zero]
        exact fun hzero => h.itemLength_ne hitems (BitVec.eq_of_toNat_eq hzero)
      have hreads : ¬ s.buffer.readPointer ≥ s.buffer.writePointer := by
        rw [h.read, h.write, ge_iff_le, Nat.not_le]
        exact Nat.mul_pos hlength hpos
      -- the pointer is the one to the second item
      have hpointer : s.buffer.getNext.2 = some s.buffer.itemLength.toNat := by
        rw [getNext, if_neg hreads]
        simp [h.read]
      have htake : s.queue.take.2 = some 0 := by
        rw [Queue.take, h.taken, if_pos hpos]
      simp only [operate, meant, Queue.operate, hpointer, htake, Option.map_some, Nat.mul_zero,
        ne_eq, Answer.pointer.injEq, Option.some.injEq]
      omega
  | peekItemAt position => exact absurd trivial hworks
  | clean => exact absurd trivial hworks

theorem actsRight_iff (h : Represents s) : s.ActsRight operation ↔ s.Works operation := by
  constructor
  · intro hright
    by_contra hworks
    exact h.answer_ne hworks hright.1
  · intro hworks
    obtain ⟨hafter, hanswer⟩ := h.step hworks
    refine ⟨hanswer, fun pointer hpointer => ?_, hafter.count.trans hafter.left_eq.symm,
      hafter.stores⟩
    rw [hanswer] at hpointer
    exact Queue.pointer_added hpointer

end Represents

/-- **The buffer acts as a bounded queue in all steps of a run if and only if items are added that
have a length, and `GetNext` never finds an item.** -/
theorem acts_as_queue_iff (memory : ℕ → U8) (bufferLength itemLength : U16)
    (operations : List Operation) (s : Pair) :
    Run apply ActsRight (start memory bufferLength itemLength) operations s ↔
      Run apply Works (start memory bufferLength itemLength) operations s :=
  Run.iff_of_invariant
    (fun _ _ hrepresents hright => (hrepresents.step (hrepresents.actsRight_iff.mp hright)).1)
    (fun _ _ hrepresents => hrepresents.actsRight_iff)
    (represents_start memory bufferLength itemLength)

/-- An item is added and taken, and the pointer that is returned is to the end of the items. -/
theorem getNext_misses : ¬ ∀ memory bufferLength itemLength operations s,
    Run apply (fun _ _ => True) (start memory bufferLength itemLength) operations s →
      Run apply ActsRight (start memory bufferLength itemLength) operations s := by
  intro hclaim
  have hreplays : Replays apply (fun _ _ => True) (start (fun _ => 0) 8 4)
      ([.put fun _ => 7] ++ [.getNext]) := ⟨trivial, trivial, trivial⟩
  obtain ⟨middle, hrun, hright, -⟩ :=
    Run.concat_iff.mp (hclaim _ _ _ _ _ (Run.of_replays hreplays))
  obtain rfl := hrun.eq_foldl
  exact absurd hright.1 (by decide)

end Pair

end SimpleBuffer

end FruityMesh
