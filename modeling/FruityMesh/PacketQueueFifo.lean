import FruityMesh.PacketQueue

/-!
# The packet queue is a FIFO queue

`Represents q peeked xs` says that the buffer holds the elements `xs` as a ring
of records.  Each operation keeps it (`Represents.put`, `Represents.peekNext`,
`Represents.discardNext`, `Represents.clean`), so it holds after every run of
operations, and `Represents.contents_eq` turns it into a statement about what a
reader gets.

`DiscardNext` reads the length byte at the read pointer without looking whether
the run ends there.  `peeked` records that `PeekNext` has returned an element
since the last `DiscardNext` or `Clean`; then the read pointer stands on a
length byte, and a `Put` in between does not move it.
-/

namespace FruityMesh.PacketQueue

open Cells RecordRing

/-- An element in the buffer: its length, then its bytes. -/
def record (x : List U8) : List U8 := BitVec.ofNat 8 x.length :: x

@[simp] theorem length_record (x : List U8) : (record x).length = x.length + 1 := rfl

/-- The element that `put` makes of a packet. -/
def element (reliable : Bool) (data : List U8) : List U8 := flagByte reliable :: data

@[simp] theorem length_element (reliable : Bool) (data : List U8) :
    (element reliable data).length = data.length + 1 := rfl

/-- The buffer holds the elements `xs`, and no access has left it. -/
structure Represents (q : PacketQueue) (peeked : Bool) (xs : List (List U8)) : Prop where
  layout : Layout record 0 1 q.memory.cell q.bufferEnd q.readPointer q.writePointer xs
  count : q.numElements.toNat = xs.length
  lengths : ∀ x ∈ xs, 0 < x.length ∧ x.length < 256
  accesses : q.memory.AccessesWithin q.bufferEnd
  onElement : peeked = true → q.memory.cell q.readPointer ≠ 0

variable {q : PacketQueue} {peeked : Bool} {xs : List (List U8)}

theorem ofNat_length_ne_zero {x : List U8} (h : 0 < x.length ∧ x.length < 256) :
    BitVec.ofNat 8 x.length ≠ 0 := by
  intro hzero
  have : x.length % 256 = 0 := by simpa using congrArg BitVec.toNat hzero
  omega

theorem Represents.length_lt (h : Represents q peeked xs) : xs.length < 2 ^ 16 := by
  have hfit := h.layout.run_length_le
  have hle : xs.length ≤ (run record xs).length := length_le_run fun x _ => by simp
  have hlt : q.bufferEnd < 2 ^ 16 := q.bufferLength.isLt
  omega

/-- The first byte of a stored element is its length. -/
theorem cell_of_holds_record {cell : ℕ → U8} {start : ℕ} {x : List U8} {rest : List U8}
    (h : Holds cell start (record x ++ rest)) :
    cell start = BitVec.ofNat 8 x.length ∧ Holds cell (start + 1) x := by
  have hrecord := (holds_append.mp h).1
  exact holds_cons.mp hrecord

/-- A stored element does not look like the end of a run. -/
theorem not_begins_with_mark {x : List U8} (h : 0 < x.length ∧ x.length < 256) :
    ¬ List.replicate 1 (0 : U8) <+: record x := by
  rintro ⟨rest, hrest⟩
  exact ofNat_length_ne_zero h (List.cons.inj hrest).1.symm

/-! ## The constructor -/

theorem represents_new (memory : ℕ → U8) {bufferLength : U16} (h : 0 < bufferLength.toNat) :
    Represents (new memory bufferLength) false [] where
  layout := Layout.empty (show 0 + 1 ≤ bufferLength.toNat by omega)
  count := rfl
  lengths := by simp
  accesses := by
    refine Memory.AccessesWithin.store ⟨by simp, by simp⟩ ?_
    show 0 + 1 ≤ bufferLength.toNat
    omega
  onElement := by simp

theorem Represents.clean (h : Represents q peeked xs) : Represents q.clean false [] := by
  have hsize : 0 + 1 ≤ q.bufferEnd := by
    have := h.layout.run_length_le
    omega
  exact {
    layout := Layout.empty hsize
    count := rfl
    lengths := by simp
    accesses := h.accesses.store hsize
    onElement := by simp }

/-! ## `Put` -/

/-- The four stores of an element are one store of its record and a zero. -/
theorem writeElement_cell (q : PacketQueue) {data : List U8} (hlength : data.length < 255)
    (reliable : Bool) :
    (q.writeElement data (BitVec.ofNat 8 data.length) reliable).memory.cell =
      overwrite q.memory.cell q.writePointer
        (record (element reliable data) ++ List.replicate 1 0) := by
  have hdata : (BitVec.ofNat 8 data.length).toNat = data.length := by
    rw [BitVec.toNat_ofNat]
    omega
  have hlen : BitVec.ofNat 8 data.length + 1 = BitVec.ofNat 8 (data.length + 1) := by
    rw [BitVec.ofNat_add]
    rfl
  simp only [writeElement, Memory.store_cell, hdata, List.take_length, hlen]
  have hsplit : record (element reliable data) ++ List.replicate 1 0 =
      [BitVec.ofNat 8 (data.length + 1)] ++ ([flagByte reliable] ++ (data ++ [0])) := rfl
  rw [hsplit, ← overwrite_append, ← overwrite_append, ← overwrite_append]
  simp [Nat.add_assoc, Nat.add_comm 2]

theorem writeElement_accesses {data : List U8} (hlength : data.length < 255)
    (h : q.memory.AccessesWithin q.bufferEnd) (reliable : Bool)
    (hfit : q.writePointer + data.length + 3 ≤ q.bufferEnd) :
    (q.writeElement data (BitVec.ofNat 8 data.length) reliable).memory.AccessesWithin
      q.bufferEnd := by
  have hdata : (BitVec.ofNat 8 data.length).toNat = data.length := by
    rw [BitVec.toNat_ofNat]
    omega
  simp only [writeElement, hdata, List.take_length]
  exact (((h.store (by simp; omega)).store (by simp; omega)).store (by omega)).store
    (by simp; omega)

/-- The bytes that `put` asks for: the packet, its length, its flag and one more. -/
theorem elementSize_toNat {n : ℕ} (h : n ≤ 252) :
    (BitVec.ofNat 8 n + 1 + 1 + 1 : U8).toNat = n + 3 := by
  bv_omega

/-- What `put` does, by where the write pointer stands. -/
theorem put_cases (q : PacketQueue) {data : List U8} (hlength : data.length ≤ 252)
    (reliable : Bool) :
    (q.readPointer ≤ q.writePointer ∧ q.bufferEnd ≤ q.writePointer + data.length + 3 ∧
      data.length + 3 ≤ q.readPointer ∧
      q.put data (BitVec.ofNat 8 data.length) reliable =
        (({ q with writePointer := 0, memory := q.memory.store 0 [0] } :
          PacketQueue).writeElement data (BitVec.ofNat 8 data.length) reliable, true)) ∨
    (q.readPointer ≤ q.writePointer ∧ q.writePointer + data.length + 3 < q.bufferEnd ∧
      q.put data (BitVec.ofNat 8 data.length) reliable =
        (q.writeElement data (BitVec.ofNat 8 data.length) reliable, true)) ∨
    (q.writePointer < q.readPointer ∧ q.writePointer + data.length + 3 < q.readPointer ∧
      q.put data (BitVec.ofNat 8 data.length) reliable =
        (q.writeElement data (BitVec.ofNat 8 data.length) reliable, true)) ∨
    ((q.readPointer ≤ q.writePointer → q.bufferEnd ≤ q.writePointer + data.length + 3 ∧
        q.readPointer < data.length + 3) ∧
      (q.writePointer < q.readPointer → q.readPointer ≤ q.writePointer + data.length + 3) ∧
      q.put data (BitVec.ofNat 8 data.length) reliable = (q, false)) := by
  simp only [put, elementSize_toNat hlength]
  by_cases hturn : q.writePointer ≥ q.readPointer ∧
      q.bufferEnd - q.writePointer ≤ data.length + 3 ∧ q.readPointer ≥ data.length + 3
  · rw [if_pos hturn]
    exact .inl ⟨hturn.1, by omega, hturn.2.2, rfl⟩
  · rw [if_neg hturn]
    by_cases hend : q.readPointer ≤ q.writePointer ∧
        q.writePointer + (data.length + 3) ≥ q.bufferEnd
    · rw [if_pos hend]
      exact .inr (.inr (.inr ⟨fun _ => by omega, fun _ => by omega, rfl⟩))
    · rw [if_neg hend]
      by_cases hread : q.readPointer > q.writePointer ∧
          q.writePointer + (data.length + 3) ≥ q.readPointer
      · rw [if_pos hread]
        exact .inr (.inr (.inr ⟨fun _ => by omega, fun _ => by omega, rfl⟩))
      · rw [if_neg hread]
        rcases Nat.lt_or_ge q.writePointer q.readPointer with hlt | hge
        · exact .inr (.inr (.inl ⟨hlt, by omega, rfl⟩))
        · exact .inr (.inl ⟨hge, by omega, rfl⟩)

theorem put_bufferLength (q : PacketQueue) {data : List U8} (hlength : data.length ≤ 252)
    (reliable : Bool) :
    (q.put data (BitVec.ofNat 8 data.length) reliable).1.bufferLength = q.bufferLength := by
  rcases put_cases q hlength reliable with ⟨_, _, _, heq⟩ | ⟨_, _, heq⟩ | ⟨_, _, heq⟩ | ⟨_, _, heq⟩
  all_goals exact congrArg (fun result => result.1.bufferLength) heq

theorem count_succ {n : U16} {m : ℕ} (hn : n.toNat = m) (hm : m + 1 < 2 ^ 16) :
    (n + 1).toNat = m + 1 := by
  bv_omega

section WriteElement

variable {data : List U8} (hlength : data.length < 255) (reliable : Bool)
include hlength

theorem writePointer_writeElement (q : PacketQueue) :
    (q.writeElement data (BitVec.ofNat 8 data.length) reliable).writePointer =
      q.writePointer + (record (element reliable data)).length := by
  simp only [writeElement, BitVec.toNat_ofNat, length_record, length_element]
  omega

/-- It is enough to find the new layout, the other fields follow from it. -/
theorem Represents.append_of_layout (h : Represents q peeked xs) {q' : PacketQueue}
    (hbuffer : q'.bufferLength = q.bufferLength) (hcount : q'.numElements = q.numElements + 1)
    (hread : q'.readPointer = q.readPointer) (haccess : q'.memory.AccessesWithin q.bufferEnd)
    (hlayout : Layout record 0 1 q'.memory.cell q.bufferEnd q.readPointer q'.writePointer
      (xs ++ [element reliable data]))
    (hcell : peeked = true → q'.memory.cell q.readPointer = q.memory.cell q.readPointer) :
    Represents q' peeked (xs ++ [element reliable data]) := by
  have hlengths : ∀ x ∈ xs ++ [element reliable data], 0 < x.length ∧ x.length < 256 := by
    intro x hx
    rcases List.mem_append.mp hx with hx | hx
    · exact h.lengths x hx
    · rw [List.mem_singleton.mp hx, length_element]
      omega
  have hend : q'.bufferEnd = q.bufferEnd := by simp only [bufferEnd, hbuffer]
  have hfit := hlayout.run_length_le
  have hle : (xs ++ [element reliable data]).length ≤
      (run record (xs ++ [element reliable data])).length := length_le_run fun x _ => by simp
  have hlt : q.bufferEnd < 2 ^ 16 := q.bufferLength.isLt
  refine ⟨by rw [hend, hread]; exact hlayout, ?_, hlengths, by rw [hend]; exact haccess, ?_⟩
  · rw [hcount, List.length_append, List.length_singleton]
    refine count_succ h.count ?_
    simp only [List.length_append, List.length_singleton] at hle
    omega
  · intro hpeeked
    rw [hread, hcell hpeeked]
    exact h.onElement hpeeked

/-- The writer turns to the start of the buffer. -/
theorem Represents.write_turn (h : Represents q peeked xs) (hle : q.readPointer ≤ q.writePointer)
    (hroom : data.length + 3 ≤ q.readPointer) :
    Represents (({ q with writePointer := 0, memory := q.memory.store 0 [0] } :
      PacketQueue).writeElement data (BitVec.ofNat 8 data.length) reliable) peeked
      (xs ++ [element reliable data]) := by
  cases h.layout with
  | turned front back hxs hback hwrite hlt => omega
  | straight hwrite hsize hrun =>
      have hcell := writeElement_cell
        ({ q with writePointer := 0, memory := q.memory.store 0 [0] } : PacketQueue) hlength
        reliable
      have hkeep : Holds (overwrite q.memory.cell 0 [0]) q.readPointer
          (run record xs ++ List.replicate 1 0) :=
        hrun.overwrite_before (by simp only [List.length_singleton]; omega)
      refine h.append_of_layout hlength reliable rfl rfl rfl ?_ ?_ ?_
      · exact writeElement_accesses hlength (h.accesses.store (by simp; omega)) reliable
          (by show 0 + data.length + 3 ≤ q.bufferEnd; omega)
      · have hlayout := Layout.append_turn (x := element reliable data) hwrite hsize hkeep
          (by simp; omega) (fun _ => by simp; omega)
          (fun y hy => not_begins_with_mark (h.lengths y hy))
        rw [hcell, writePointer_writeElement hlength]
        simpa only [Nat.zero_add, Memory.store_cell] using hlayout
      · intro _
        rw [hcell, overwrite_of_ge _ (by simp; omega)]
        exact overwrite_of_ge q.memory.cell (show 0 + [(0 : U8)].length ≤ q.readPointer by
          simp only [List.length_singleton]
          omega)

/-- The element fits behind the last one, before the end of the buffer. -/
theorem Represents.write_straight (h : Represents q peeked xs)
    (hle : q.readPointer ≤ q.writePointer)
    (hroom : q.writePointer + data.length + 3 ≤ q.bufferEnd) :
    Represents (q.writeElement data (BitVec.ofNat 8 data.length) reliable) peeked
      (xs ++ [element reliable data]) := by
  cases h.layout with
  | turned front back hxs hback hwrite hlt => omega
  | straight hwrite hsize hrun =>
      have hcell := writeElement_cell q hlength reliable
      refine h.append_of_layout hlength reliable rfl rfl rfl ?_ ?_ ?_
      · exact writeElement_accesses hlength h.accesses reliable hroom
      · rw [hcell, writePointer_writeElement hlength]
        exact Layout.append_straight hwrite hrun (by simp; omega)
      · intro hpeeked
        rw [hcell]
        refine overwrite_of_lt _ _ ?_
        -- the read pointer stands on an element, so it is not the write pointer
        by_contra hnot
        have hempty : run record xs = [] := by
          apply List.eq_nil_of_length_eq_zero
          omega
        rw [hempty] at hrun
        exact h.onElement hpeeked (by simpa using hrun 0 (by simp))

/-- The element fits before the read pointer. -/
theorem Represents.write_turned (h : Represents q peeked xs)
    (hlt : q.writePointer < q.readPointer)
    (hroom : q.writePointer + data.length + 3 ≤ q.readPointer) :
    Represents (q.writeElement data (BitVec.ofNat 8 data.length) reliable) peeked
      (xs ++ [element reliable data]) := by
  cases h.layout with
  | straight hwrite => omega
  | turned front back hxs hback hwrite _ hgap hmark hsize hfront hrun =>
      have hcell := writeElement_cell q hlength reliable
      refine h.append_of_layout hlength reliable rfl rfl rfl ?_ ?_ ?_
      · exact writeElement_accesses hlength h.accesses reliable (by omega)
      · rw [hcell, writePointer_writeElement hlength]
        exact Layout.append_turned hxs hwrite hmark hsize hfront hrun (by simp; omega)
          (fun _ => by simp; omega)
      · intro _
        rw [hcell]
        exact overwrite_of_ge _ (by simp; omega)

end WriteElement

/-- A `put` that succeeds appends its element. -/
theorem Represents.put_true (h : Represents q peeked xs) {data : List U8}
    (hlength : data.length ≤ 252) (reliable : Bool)
    (hput : (q.put data (BitVec.ofNat 8 data.length) reliable).2 = true) :
    Represents (q.put data (BitVec.ofNat 8 data.length) reliable).1 peeked
      (xs ++ [element reliable data]) := by
  have hshort : data.length < 255 := by omega
  rcases put_cases q hlength reliable with ⟨hle, hend, hspace, heq⟩ | ⟨hle, hspace, heq⟩ |
      ⟨hlt, hspace, heq⟩ | ⟨-, -, heq⟩
  · rw [heq]
    exact h.write_turn hshort reliable hle hspace
  · rw [heq]
    exact h.write_straight hshort reliable hle (by omega)
  · rw [heq]
    exact h.write_turned hshort reliable hlt (by omega)
  · rw [heq] at hput
    exact absurd hput (by simp)

/-- A `put` that fails changes nothing. -/
theorem put_false {data : List U8} (hlength : data.length ≤ 252) {reliable : Bool}
    (hput : (q.put data (BitVec.ofNat 8 data.length) reliable).2 = false) :
    (q.put data (BitVec.ofNat 8 data.length) reliable).1 = q := by
  rcases put_cases q hlength reliable with ⟨_, _, _, heq⟩ | ⟨_, _, heq⟩ | ⟨_, _, heq⟩ | ⟨_, _, heq⟩
  all_goals rw [heq] at hput ⊢
  all_goals simp at hput

/-! ## `PeekNext` and `DiscardNext` -/

theorem numElements_ne_zero (h : Represents q peeked xs) (hxs : xs ≠ []) :
    q.numElements ≠ 0 := by
  intro hzero
  have hcount := h.count
  rw [hzero] at hcount
  exact hxs (List.eq_nil_of_length_eq_zero (by simpa using hcount.symm))

/-- On an empty queue `peekNext` returns the length zero and changes nothing. -/
theorem Represents.peekNext_nil (h : Represents q peeked []) :
    q.peekNext = (q, ⟨none, 0⟩) := by
  have hzero : q.numElements = 0 := by
    apply BitVec.eq_of_toNat_eq
    simpa using h.count
  simp [PacketQueue.peekNext, hzero]

/-- On a queue with elements `peekNext` puts the read pointer on the oldest one
and points to its bytes. -/
theorem Represents.peekNext_cons {x : List U8} (h : Represents q peeked (x :: xs)) :
    ∃ start, q.peekNext.2 = ⟨some (start + 1), BitVec.ofNat 16 x.length⟩ ∧
      Represents q.peekNext.1 true (x :: xs) ∧
      q.peekNext.1.readPointer = start ∧ q.peekNext.1.memory.cell = q.memory.cell ∧
      q.peekNext.1.writePointer = q.writePointer ∧
      Holds q.memory.cell (start + 1) x ∧ start + 1 + x.length < q.bufferEnd := by
  have hx := h.lengths x List.mem_cons_self
  have hne := ofNat_length_ne_zero hx
  have hnum := numElements_ne_zero h (List.cons_ne_nil x xs)
  -- the read pointer moves to `start`, where the record of `x` stands
  have close : ∀ start : ℕ,
      (if q.memory.cell q.readPointer = 0 ∧ q.writePointer < q.readPointer then 0
        else q.readPointer) = start →
      q.readPointer + 1 ≤ q.bufferEnd → start + 1 + x.length < q.bufferEnd →
      q.memory.cell start = BitVec.ofNat 8 x.length → Holds q.memory.cell (start + 1) x →
      Layout record 0 1 q.memory.cell q.bufferEnd start q.writePointer (x :: xs) →
      ∃ start, q.peekNext.2 = ⟨some (start + 1), BitVec.ofNat 16 x.length⟩ ∧
        Represents q.peekNext.1 true (x :: xs) ∧
        q.peekNext.1.readPointer = start ∧ q.peekNext.1.memory.cell = q.memory.cell ∧
        q.peekNext.1.writePointer = q.writePointer ∧
        Holds q.memory.cell (start + 1) x ∧ start + 1 + x.length < q.bufferEnd := by
    intro start hstart hread hfit hcell hholds hlayout
    have hpeek : q.peekNext =
        ({ q with
            memory := (q.memory.load q.readPointer 1).load start 1
            readPointer := start },
          ⟨some (start + 1), (q.memory.cell start).setWidth 16⟩) := by
      simp only [PacketQueue.peekNext, if_neg hnum, hstart]
    rw [hpeek]
    refine ⟨start, ?_, ⟨hlayout, h.count, h.lengths, ?_, ?_⟩, rfl, rfl, rfl, hholds, hfit⟩
    · have hwidth : (q.memory.cell start).setWidth 16 = BitVec.ofNat 16 x.length := by
        rw [hcell]
        apply BitVec.eq_of_toNat_eq
        simp only [BitVec.toNat_setWidth, BitVec.toNat_ofNat]
        omega
      rw [hwidth]
    · exact (h.accesses.load hread).load (show start + 1 ≤ q.bufferEnd by omega)
    · intro _
      rw [← hcell] at hne
      exact hne
  cases h.layout with
  | straight hwrite hsize hrun =>
      simp only [run_cons, List.append_assoc, List.length_append, length_record] at hrun hwrite
      obtain ⟨hcell, hholds⟩ := cell_of_holds_record hrun
      refine close q.readPointer ?_ (by omega) (by omega) hcell hholds h.layout
      rw [if_neg]
      rintro ⟨hzero, -⟩
      exact hne (hcell ▸ hzero)
  | turned front back hxs hback hwrite hlt hgap hmark hsize hfront hrun =>
      cases front with
      | nil =>
          -- the front run is read: the reader stands on its end and turns
          simp only [List.nil_append] at hxs
          subst hxs
          have hlayout := Layout.turn_reader hwrite
            (show q.writePointer + 1 ≤ q.bufferEnd by omega) hrun
          simp only [run_nil, List.nil_append, List.length_nil] at hfront hsize
          simp only [run_cons, List.append_assoc, List.length_append, length_record] at hrun hwrite
          obtain ⟨hcell, hholds⟩ := cell_of_holds_record hrun
          refine close 0 ?_ (by omega) (by omega) hcell hholds hlayout
          rw [if_pos]
          exact ⟨by simpa using hfront 0 (by simp), hlt⟩
      | cons y front =>
          obtain ⟨rfl, rfl⟩ := List.cons.inj hxs
          simp only [run_cons, List.append_assoc, List.length_append, length_record] at hfront hsize
          obtain ⟨hcell, hholds⟩ := cell_of_holds_record hfront
          refine close q.readPointer ?_ (by omega) (by omega) hcell hholds h.layout
          rw [if_neg]
          rintro ⟨hzero, -⟩
          exact hne (hcell ▸ hzero)

/-- After a `peekNext` that returned an element, the read pointer stands on it. -/
theorem Represents.head {x : List U8} (h : Represents q true (x :: xs)) :
    q.memory.cell q.readPointer = BitVec.ofNat 8 x.length ∧
      Holds q.memory.cell (q.readPointer + 1) x ∧
      q.readPointer + 1 + x.length < q.bufferEnd := by
  cases h.layout with
  | straight hwrite hsize hrun =>
      simp only [run_cons, List.append_assoc, List.length_append, length_record] at hrun hwrite
      obtain ⟨hcell, hholds⟩ := cell_of_holds_record hrun
      exact ⟨hcell, hholds, by omega⟩
  | turned front back hxs hback hwrite hlt hgap hmark hsize hfront hrun =>
      cases front with
      | nil =>
          have hzero : q.memory.cell q.readPointer = 0 := by
            simpa using hfront 0 (by simp)
          exact absurd hzero (h.onElement rfl)
      | cons y front =>
          obtain ⟨rfl, rfl⟩ := List.cons.inj hxs
          simp only [run_cons, List.append_assoc, List.length_append, length_record] at hfront hsize
          obtain ⟨hcell, hholds⟩ := cell_of_holds_record hfront
          exact ⟨hcell, hholds, by omega⟩

/-- After a `peekNext` that returned an element, `discardNext` removes it. -/
theorem Represents.discardNext {x : List U8} (h : Represents q true (x :: xs)) :
    Represents q.discardNext false xs := by
  have hx := h.lengths x List.mem_cons_self
  obtain ⟨hcell, -, hfit⟩ := h.head
  have hcount : (q.numElements - 1).toNat = xs.length := by
    have := h.count
    have := h.length_lt
    simp only [List.length_cons] at *
    bv_omega
  have hlength : (q.memory.cell q.readPointer).toNat = x.length := by
    rw [hcell, BitVec.toNat_ofNat]
    omega
  -- the read pointer moves over the record of `x`
  have hlayout : Layout record 0 1 q.memory.cell q.bufferEnd
      (q.readPointer + (record x).length) q.writePointer xs := by
    cases h.layout with
    | straight hwrite hsize hrun =>
        exact Layout.discard_straight hwrite hsize hrun
    | turned front back hxs hback hwrite hlt hgap hmark hsize hfront hrun =>
        cases front with
        | nil =>
            have hzero : q.memory.cell q.readPointer = 0 := by
              simpa using hfront 0 (by simp)
            exact absurd hzero (h.onElement rfl)
        | cons y front =>
            obtain ⟨rfl, rfl⟩ := List.cons.inj hxs
            exact Layout.discard_turned hback hwrite hlt (hgap (by simp)) hmark hsize hfront hrun
  refine ⟨?_, hcount, fun y hy => h.lengths y (List.mem_cons_of_mem x hy), ?_, by simp⟩
  · simp only [PacketQueue.discardNext, hlength]
    exact hlayout
  · exact h.accesses.load (by omega)

/-- After a `peekNext` that returned an element, a byte of that element may be
overwritten in place. -/
theorem Represents.store_set {x : List U8} (h : Represents q true (x :: xs)) {i : ℕ}
    (hi : i < x.length) (b : U8) :
    Represents
      { q with memory := q.memory.store (q.readPointer + 1 + i) [b] } true (x.set i b :: xs) := by
  have hx := h.lengths x List.mem_cons_self
  have hon := h.onElement rfl
  obtain ⟨hcell, hholds, hfit⟩ := h.head
  have hkeep : overwrite q.memory.cell (q.readPointer + 1 + i) [b] q.readPointer =
      q.memory.cell q.readPointer := overwrite_of_lt _ _ (by omega)
  refine ⟨?_, h.count, ?_, h.accesses.store ?_, fun _ => ?_⟩
  · refine h.layout.replace_head ?_ (by simp) (not_begins_with_mark (by simpa using hx)) ?_ ?_
    · intro hmark
      exact hon (by simpa using hmark 0 (by simp))
    · refine holds_cons.mpr ⟨?_, hholds.overwrite_set i b⟩
      rw [List.length_set]
      exact hkeep.trans hcell
    · intro j hj
      rw [length_record] at hj
      rcases hj with hj | hj
      · exact overwrite_of_lt _ _ (by omega)
      · exact overwrite_of_ge _ (by simp; omega)
  · intro y hy
    rcases List.mem_cons.mp hy with rfl | hy
    · simpa using hx
    · exact h.lengths y (List.mem_cons_of_mem x hy)
  · show q.readPointer + 1 + i + 1 ≤ q.bufferEnd
    omega
  · exact hkeep.trans_ne hon

/-- The same for several bytes of that element. -/
theorem Represents.store_within {x : List U8} (h : Represents q true (x :: xs)) {i : ℕ}
    {bytes : List U8} (hi : i + bytes.length ≤ x.length) :
    Represents
      { q with memory := q.memory.store (q.readPointer + 1 + i) bytes } true
      (read (overwrite q.memory.cell (q.readPointer + 1 + i) bytes) (q.readPointer + 1) x.length ::
        xs) := by
  have hx := h.lengths x List.mem_cons_self
  have hon := h.onElement rfl
  obtain ⟨hcell, -, hfit⟩ := h.head
  have hkeep : overwrite q.memory.cell (q.readPointer + 1 + i) bytes q.readPointer =
      q.memory.cell q.readPointer := overwrite_of_lt _ _ (by omega)
  refine ⟨?_, h.count, ?_, h.accesses.store ?_, fun _ => ?_⟩
  · refine h.layout.replace_head ?_ (by simp) (not_begins_with_mark (by simpa using hx)) ?_ ?_
    · intro hmark
      exact hon (by simpa using hmark 0 (by simp))
    · refine holds_cons.mpr ⟨?_, holds_read _ _ _⟩
      rw [length_read]
      exact hkeep.trans hcell
    · intro j hj
      rw [length_record] at hj
      rcases hj with hj | hj
      · exact overwrite_of_lt _ _ (by omega)
      · exact overwrite_of_ge _ (by omega)
  · intro y hy
    rcases List.mem_cons.mp hy with rfl | hy
    · simpa using hx
    · exact h.lengths y (List.mem_cons_of_mem x hy)
  · show q.readPointer + 1 + i + bytes.length ≤ q.bufferEnd
    omega
  · exact hkeep.trans_ne hon

/-! ## What a reader gets -/

theorem Represents.bytesAt_peekNext {x : List U8} (h : Represents q peeked (x :: xs)) :
    q.peekNext.1.bytesAt q.peekNext.2 = x := by
  obtain ⟨start, heq, -, -, hcell, -, hholds, -⟩ := h.peekNext_cons
  have hx := h.lengths x List.mem_cons_self
  have hlen : (BitVec.ofNat 16 x.length).toNat = x.length := by
    rw [BitVec.toNat_ofNat]
    omega
  rw [heq]
  simp only [bytesAt, hcell, hlen]
  exact hholds.read_eq

theorem Represents.drain_eq (h : Represents q peeked xs) : drain xs.length q = xs := by
  induction xs generalizing q peeked with
  | nil => rfl
  | cons x rest ih =>
      obtain ⟨start, -, hpeek, -⟩ := h.peekNext_cons
      rw [List.length_cons, drain, h.bytesAt_peekNext, ih hpeek.discardNext]

/-- A reader of a queue that holds `xs` gets `xs`. -/
theorem Represents.contents_eq (h : Represents q peeked xs) : q.contents = xs := by
  rw [contents, h.count, h.drain_eq]

/-! ## Runs -/

/-- The queue after some run of operations, with whether a `PeekNext` has
returned an element since the last `DiscardNext` or `Clean`.  Only then may
`DiscardNext` be called, and packets have at most 200 bytes. -/
inductive Reachable (bufferLength : U16) : PacketQueue → Bool → Prop
  | new (memory : ℕ → U8) : Reachable bufferLength (new memory bufferLength) false
  | put {q : PacketQueue} {peeked : Bool} (data : List U8) (reliable : Bool) :
      Reachable bufferLength q peeked → data.length ≤ 200 →
      Reachable bufferLength (q.put data (BitVec.ofNat 8 data.length) reliable).1 peeked
  | peekNext {q : PacketQueue} {peeked : Bool} : Reachable bufferLength q peeked →
      Reachable bufferLength q.peekNext.1 (peeked || q.peekNext.2.data.isSome)
  | discardNext {q : PacketQueue} : Reachable bufferLength q true →
      Reachable bufferLength q.discardNext false
  | clean {q : PacketQueue} {peeked : Bool} : Reachable bufferLength q peeked →
      Reachable bufferLength q.clean false

/-- After `PeekNext` returned an element the queue is not empty. -/
theorem Reachable.represents {bufferLength : U16} (hlength : 0 < bufferLength.toNat)
    (h : Reachable bufferLength q peeked) :
    q.bufferLength = bufferLength ∧
      ∃ xs, Represents q peeked xs ∧ (peeked = true → xs ≠ []) := by
  induction h with
  | new memory => exact ⟨rfl, [], represents_new memory hlength, by simp⟩
  | @put q peeked data reliable _ hdata ih =>
      obtain ⟨hbuffer, xs, hrep, hxs⟩ := ih
      have hfits : data.length ≤ 252 := hdata.trans (by decide)
      refine ⟨(put_bufferLength q hfits reliable).trans hbuffer, ?_⟩
      cases hput : (q.put data (BitVec.ofNat 8 data.length) reliable).2 with
      | false =>
          rw [put_false hfits hput]
          exact ⟨xs, hrep, hxs⟩
      | true => exact ⟨_, hrep.put_true hfits reliable hput, by simp⟩
  | @peekNext q peeked _ ih =>
      obtain ⟨hbuffer, xs, hrep, hxs⟩ := ih
      have hkeep : q.peekNext.1.bufferLength = q.bufferLength := by
        unfold PacketQueue.peekNext
        split <;> rfl
      refine ⟨hkeep.trans hbuffer, xs, ?_⟩
      cases xs with
      | nil =>
          rw [hrep.peekNext_nil]
          simpa using And.intro hrep (by simpa using hxs)
      | cons x rest =>
          obtain ⟨start, heq, hpeek, -⟩ := hrep.peekNext_cons
          rw [heq]
          simpa using hpeek
  | @discardNext q _ ih =>
      obtain ⟨hbuffer, xs, hrep, hxs⟩ := ih
      cases xs with
      | nil => exact absurd rfl (hxs rfl)
      | cons x rest => exact ⟨hbuffer, rest, hrep.discardNext, by simp⟩
  | @clean q peeked _ ih =>
      obtain ⟨hbuffer, xs, hrep, -⟩ := ih
      exact ⟨hbuffer, [], hrep.clean, by simp⟩

/-- The operations act on the contents as those of a FIFO queue do. -/
structure ActsAsFifo (q : PacketQueue) (peeked : Bool) : Prop where
  /-- A `Put` that returns true appends exactly its element. -/
  put_true : ∀ (data : List U8) (reliable : Bool), data.length ≤ 200 →
    (q.put data (BitVec.ofNat 8 data.length) reliable).2 = true →
    (q.put data (BitVec.ofNat 8 data.length) reliable).1.contents =
      q.contents ++ [element reliable data]
  /-- A `Put` that returns false leaves the contents unchanged. -/
  put_false : ∀ (data : List U8) (reliable : Bool), data.length ≤ 200 →
    (q.put data (BitVec.ofNat 8 data.length) reliable).2 = false →
    (q.put data (BitVec.ofNat 8 data.length) reliable).1.contents = q.contents
  /-- `PeekNext` of an empty queue returns the length zero. -/
  peekNext_nil : q.contents = [] → q.peekNext.2 = ⟨none, 0⟩
  /-- `PeekNext` returns the flag byte, the length and the bytes of the oldest
  element, inside the buffer. -/
  peekNext_cons : ∀ x rest, q.contents = x :: rest →
    q.peekNext.1.bytesAt q.peekNext.2 = x ∧ q.peekNext.2.length.toNat = x.length ∧
      ∃ start, q.peekNext.2.data = some start ∧ start + x.length ≤ q.bufferEnd
  peekNext_keeps : q.peekNext.1.contents = q.contents
  /-- `DiscardNext` removes exactly the oldest element. -/
  discardNext : peeked = true →
    ∃ x, q.contents = x :: q.discardNext.contents
  clean : q.clean.contents = []
  numElements : q.numElements.toNat = q.contents.length
  /-- No read or write so far fell outside the buffer. -/
  accesses : q.memory.AccessesWithin q.bufferEnd

theorem Represents.actsAsFifo (h : Represents q peeked xs) (hpeeked : peeked = true → xs ≠ []) :
    ActsAsFifo q peeked where
  put_true data reliable hdata hput := by
    have hfits : data.length ≤ 252 := hdata.trans (by decide)
    rw [(h.put_true hfits reliable hput).contents_eq, h.contents_eq]
  put_false data reliable hdata hput := by
    rw [PacketQueue.put_false (hdata.trans (by decide)) hput]
  peekNext_nil hnil := by
    rw [h.contents_eq] at hnil
    subst hnil
    rw [h.peekNext_nil]
  peekNext_cons x rest hcons := by
    rw [h.contents_eq] at hcons
    subst hcons
    obtain ⟨start, heq, -, -, -, -, -, hfit⟩ := h.peekNext_cons
    have hx := h.lengths x List.mem_cons_self
    refine ⟨h.bytesAt_peekNext, ?_, start + 1, by rw [heq], by omega⟩
    rw [heq, BitVec.toNat_ofNat]
    omega
  peekNext_keeps := by
    cases xs with
    | nil => rw [h.peekNext_nil]
    | cons x rest =>
        obtain ⟨start, -, hpeek, -⟩ := h.peekNext_cons
        rw [hpeek.contents_eq, h.contents_eq]
  discardNext hpeek := by
    subst hpeek
    cases xs with
    | nil => exact absurd rfl (hpeeked rfl)
    | cons x rest => exact ⟨x, by rw [h.contents_eq, h.discardNext.contents_eq]⟩
  clean := h.clean.contents_eq
  numElements := by rw [h.contents_eq, h.count]
  accesses := h.accesses

/-- An empty queue of 600 bytes takes every packet of up to 200 bytes, wherever
its pointers stand. -/
theorem Represents.put_on_empty (h : Represents q peeked [])
    (hbuffer : q.bufferEnd = packetSendBufferSize) {data : List U8} (hdata : data.length ≤ 200)
    (reliable : Bool) : (q.put data (BitVec.ofNat 8 data.length) reliable).2 = true := by
  have hsame : q.readPointer = q.writePointer := by
    cases h.layout with
    | straight hwrite => simpa using hwrite
    | turned front back hxs hback => simp_all
  rcases put_cases q (hdata.trans (by decide)) reliable with ⟨_, _, _, heq⟩ | ⟨_, _, heq⟩ |
    ⟨_, _, heq⟩ | ⟨hfull, _, heq⟩
  · rw [heq]
  · rw [heq]
  · rw [heq]
  · -- too little room behind the pointers and too little before them: 600 < 406
    have := hfull hsame.le
    simp only [packetSendBufferSize] at hbuffer
    omega

/-- **The packet queue refines an unbounded FIFO queue of byte strings.** -/
theorem packetQueue_refines_fifo {bufferLength : U16} (hlength : 0 < bufferLength.toNat)
    (h : Reachable bufferLength q peeked) :
    ActsAsFifo q peeked ∧
      (bufferLength.toNat = packetSendBufferSize → q.contents = [] →
        ∀ (data : List U8) (reliable : Bool), data.length ≤ 200 →
          (q.put data (BitVec.ofNat 8 data.length) reliable).2 = true) := by
  obtain ⟨hbuffer, xs, hrep, hxs⟩ := h.represents hlength
  refine ⟨hrep.actsAsFifo hxs, fun hsize hempty data reliable hdata => ?_⟩
  rw [hrep.contents_eq] at hempty
  subst hempty
  exact hrep.put_on_empty (by rw [bufferEnd, hbuffer, hsize]) hdata reliable

/-- On fourteen bytes two packets are put, the first is taken off, and a third is put at the start
of the buffer. -/
def turned : PacketQueue :=
  (((((new (fun _ => 0) 14).put [1, 2, 3, 4, 5] 5 true).1.put [6, 7, 8] 3
    false).1.peekNext.1.discardNext).put [9, 10, 11] 3 true).1

theorem packetQueue_refines_fifo_turned :
    turned.writePointer < turned.readPointer ∧
      turned.contents = [[0, 6, 7, 8], [1, 9, 10, 11]] ∧ ActsAsFifo turned.peekNext.1 true := by
  have hfirst : Reachable 14 _ false :=
    (Reachable.new fun _ => 0).put [1, 2, 3, 4, 5] true (by decide)
  have hpeeked : Reachable 14 _ true := (hfirst.put [6, 7, 8] false (by decide)).peekNext
  have hturned : Reachable 14 turned false := hpeeked.discardNext.put [9, 10, 11] true (by decide)
  exact ⟨by decide, by decide, (packetQueue_refines_fifo (by decide) hturned.peekNext).1⟩

end FruityMesh.PacketQueue
