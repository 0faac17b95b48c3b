import FruityMesh.SimpleQueue

/-!
# When the simple queue is a FIFO queue

The simple queue is a ring of records whose end of run is four bytes wide, but
`Put` reserves one byte for it.  Two things go wrong.

* The end of a run behind a new element may leave the buffer, or fall on the
  length of the oldest element (`put_leaves_buffer` is the smallest case).
* An empty string has the length zero, which is also the end of a run.  Once the
  writer has turned to the start of the buffer, a reader takes the empty string
  for the end and skips what stands behind it.

`PutFits` says that neither happens.  In every run in which it holds at each
`Put` that the code accepts, the queue acts as a FIFO queue.
-/

namespace FruityMesh.SimpleQueue

open Cells RecordRing

/-- An element in the buffer: its length, then its bytes. -/
def record (x : List U8) : List U8 := LittleEndian.encode 4 x.length ++ x

@[simp] theorem length_record (x : List U8) : (record x).length = x.length + 4 := by
  simp [record, Nat.add_comm]

/-- `Put` of a whole byte string. -/
abbrev putString (q : SimpleQueue) (data : List U8) : SimpleQueue × Bool :=
  q.put data (BitVec.ofNat 32 data.length)

/-- The space that `Put` asks for. -/
abbrev stringSize (data : List U8) : U32 := elementSize (BitVec.ofNat 32 data.length)

/-- The tests of `Put` let the string in. -/
def Accepts (q : SimpleQueue) (data : List U8) : Prop :=
  q.Turns (stringSize data) ∨
    ¬ q.OverrunsEnd (stringSize data) ∧ ¬ q.OverrunsReader (stringSize data)

/-- The string fits together with the four bytes of the end of its run. -/
structure PutFits (q : SimpleQueue) (data : List U8) : Prop where
  /-- The size of the element does not overflow. -/
  noOverflow : data.length + 5 < 2 ^ 32
  /-- Behind the last element: four bytes are left before the end of the buffer. -/
  atEnd : ¬ q.Turns (stringSize data) → q.readPointer ≤ q.writePointer →
    q.writePointer + data.length + 8 ≤ q.bufferEnd
  /-- At the start of the buffer: four bytes are left before the oldest element. -/
  atStart : q.Turns (stringSize data) → q.contents ≠ [] → data.length + 8 ≤ q.readPointer
  /-- When the writer turns, no empty string is left to read. -/
  noEmptyString : q.Turns (stringSize data) → [] ∉ q.contents
  /-- Before the read pointer: four bytes are left, unless the read pointer stands
  on the end of its run. -/
  beforeReader : q.writePointer < q.readPointer → q.lengthAt q.readPointer ≠ 0 →
    q.writePointer + data.length + 8 ≤ q.readPointer

/-- The condition on a `Put`: if the code accepts the string, then it fits.  The
length has 32 bits. -/
def PutCondition (q : SimpleQueue) (data : List U8) : Prop :=
  data.length < 2 ^ 32 ∧ (q.Accepts data → q.PutFits data)

/-! ## Runs and what is claimed of them -/

/-- The queue after some run of operations in which every `Put` was `allowed`. -/
inductive Reachable (allowed : SimpleQueue → List U8 → Prop) (bufferLength : U32) :
    SimpleQueue → Prop
  | new (memory : ℕ → U8) : Reachable allowed bufferLength (new memory bufferLength)
  | put {q : SimpleQueue} (data : List U8) : Reachable allowed bufferLength q →
      allowed q data → Reachable allowed bufferLength (q.putString data).1
  | peekNext {q : SimpleQueue} : Reachable allowed bufferLength q →
      Reachable allowed bufferLength q.peekNext.1
  | getNext {q : SimpleQueue} : Reachable allowed bufferLength q →
      Reachable allowed bufferLength q.getNext.1
  | discardNext {q : SimpleQueue} : Reachable allowed bufferLength q →
      Reachable allowed bufferLength q.discardNext
  | clean {q : SimpleQueue} : Reachable allowed bufferLength q →
      Reachable allowed bufferLength q.clean

/-- The stores made between two states: inside the buffer, and off the elements
that the first state holds. -/
def StoresSafely (q q' : SimpleQueue) : Prop :=
  ∃ new, q'.memory.stores = q.memory.stores ++ new ∧
    ∀ span ∈ new, span.Within q.bufferEnd ∧ ∀ old ∈ q.spans, span.Disjoint old

/-- The operations act on the contents as those of a FIFO queue of byte strings
do, and stores stay in the buffer and off the elements that are still in it. -/
structure ActsAsFifo (allowed : SimpleQueue → List U8 → Prop) (q : SimpleQueue) : Prop where
  put_true : ∀ data, allowed q data → (q.putString data).2 = true →
    (q.putString data).1.contents = q.contents ++ [data]
  put_false : ∀ data, allowed q data → (q.putString data).2 = false →
    (q.putString data).1 = q
  put_stores : ∀ data, allowed q data → StoresSafely q (q.putString data).1
  peekNext_nil : q.contents = [] → q.peekNext = (q, ⟨none, 0⟩)
  peekNext_cons : ∀ x rest, q.contents = x :: rest →
    q.peekNext.1.bytesAt q.peekNext.2 = x ∧ q.peekNext.2.length.toNat = x.length ∧
      q.peekNext.1.contents = q.contents
  getNext_nil : q.contents = [] → q.getNext = (q, ⟨none, 0⟩)
  getNext_cons : ∀ x rest, q.contents = x :: rest →
    q.getNext.1.bytesAt q.getNext.2 = x ∧ q.getNext.2.length.toNat = x.length ∧
      q.getNext.1.contents = rest
  discardNext_nil : q.contents = [] → q.discardNext = q
  discardNext_cons : ∀ x rest, q.contents = x :: rest → q.discardNext.contents = rest
  clean : q.clean.contents = []
  /-- Every store so far, those of the constructor and of `Clean` included, fell
  inside the buffer. -/
  stores : ∀ span ∈ q.memory.stores, span.Within q.bufferEnd

/-! ## The invariant -/

/-- The buffer holds the strings `xs`. -/
structure Represents (q : SimpleQueue) (xs : List (List U8)) : Prop where
  layout : Layout record 0 4 q.memory.cell q.bufferEnd q.readPointer q.writePointer xs
  count : q.numElements.toNat = xs.length
  small : q.bufferEnd < 2 ^ 16
  stores : ∀ span ∈ q.memory.stores, span.Within q.bufferEnd

variable {q : SimpleQueue} {xs : List (List U8)}

theorem Represents.length_lt (h : Represents q xs) : xs.length < 2 ^ 16 := by
  have hfit := h.layout.run_length_le
  have hle : xs.length ≤ (run record xs).length := length_le_run fun x _ => by simp
  have := h.small
  omega

theorem length_le_run_of_mem {x : List U8} (hx : x ∈ xs) :
    x.length ≤ (run record xs).length := by
  induction xs with
  | nil => simp at hx
  | cons y rest ih =>
      simp only [run_cons, List.length_append, length_record]
      rcases List.mem_cons.mp hx with rfl | hx
      · omega
      · have := ih hx
        omega

theorem Represents.length_lt_of_mem (h : Represents q xs) {x : List U8} (hx : x ∈ xs) :
    x.length < 2 ^ 16 := by
  have hfit := h.layout.run_length_le
  have := length_le_run_of_mem hx
  have := h.small
  omega

theorem lengthAt_of_holds {start : ℕ} {x rest : List U8} (hx : x.length < 2 ^ 16)
    (h : Holds q.memory.cell start (record x ++ rest)) :
    q.lengthAt start = x.length ∧ Holds q.memory.cell (start + 4) x := by
  obtain ⟨hlength, hdata⟩ := holds_append.mp (holds_append.mp h).1
  have hread := hlength.read_eq
  rw [LittleEndian.length_encode] at hread hdata
  refine ⟨?_, hdata⟩
  rw [lengthAt, hread, LittleEndian.decode_encode_of_lt]
  omega

theorem lengthAt_of_mark {start : ℕ} (h : Holds q.memory.cell start (List.replicate 4 0)) :
    q.lengthAt start = 0 := by
  have hread := h.read_eq
  rw [List.length_replicate] at hread
  rw [lengthAt, hread]
  exact LittleEndian.decode_replicate_zero 4

/-- Only the empty string looks like the end of a run. -/
theorem mark_prefix_iff {x : List U8} (hx : x.length < 2 ^ 16) :
    List.replicate 4 (0 : U8) <+: record x ↔ x = [] := by
  constructor
  · rintro ⟨rest, hrest⟩
    have hencode : List.replicate 4 (0 : U8) = LittleEndian.encode 4 x.length :=
      List.append_inj_left hrest (by simp)
    have hdecode := congrArg LittleEndian.decode hencode
    rw [LittleEndian.decode_encode_of_lt (by omega)] at hdecode
    exact List.eq_nil_of_length_eq_zero
      (hdecode.symm.trans (LittleEndian.decode_replicate_zero 4))
  · rintro rfl
    exact ⟨[], rfl⟩

/-! ## The constructor and `Clean` -/

theorem represents_new (memory : ℕ → U8) {bufferLength : U32}
    (hfour : 4 ≤ bufferLength.toNat) (hsmall : bufferLength.toNat < 2 ^ 16) :
    Represents (new memory bufferLength) [] where
  layout := Layout.empty (show 0 + 4 ≤ bufferLength.toNat by omega)
  count := rfl
  small := hsmall
  stores := by
    intro span hspan
    obtain rfl : span = ⟨0, 4⟩ := by simpa [new] using hspan
    exact (show 0 + 4 ≤ bufferLength.toNat by omega)

theorem Represents.clean (h : Represents q xs) : Represents q.clean [] := by
  have hfour : 0 + 4 ≤ q.bufferEnd := by
    have := h.layout.run_length_le
    omega
  refine ⟨Layout.empty hfour, rfl, h.small, ?_⟩
  intro span hspan
  rcases List.mem_append.mp hspan with hold | hnew
  · exact h.stores span hold
  · rw [List.mem_singleton.mp hnew]
    exact hfour

/-! ## The reader -/

theorem Represents.numElements_ne_zero {x : List U8} (h : Represents q (x :: xs)) :
    q.numElements ≠ 0 := by
  intro hzero
  have hcount := h.count
  rw [hzero] at hcount
  simp at hcount

theorem Represents.numElements_eq_zero (h : Represents q []) : q.numElements = 0 := by
  apply BitVec.eq_of_toNat_eq
  simpa using h.count

/-- Where the oldest element is, and the layout when a reader has stepped over it.
The element is either at the read pointer or, when the front run is read, at the
start of the buffer. -/
theorem Represents.readStart_spec {x : List U8} (h : Represents q (x :: xs)) :
    q.lengthAt q.readStart = x.length ∧ Holds q.memory.cell (q.readStart + 4) x ∧
      Layout record 0 4 q.memory.cell q.bufferEnd (q.readStart + (x.length + 4))
        q.writePointer xs ∧
      (q.readStart = q.readPointer ∧
          (q.readPointer ≤ q.writePointer ∧ q.readPointer + x.length + 4 ≤ q.writePointer ∨
            q.writePointer < q.readPointer ∧ q.lengthAt q.readPointer ≠ 0) ∨
        q.readStart = 0 ∧ q.writePointer < q.readPointer ∧ q.lengthAt q.readPointer = 0 ∧
          x.length + 4 ≤ q.writePointer) := by
  have hx := h.length_lt_of_mem List.mem_cons_self
  cases h.layout with
  | straight hwrite hsize hrun =>
      have hlayout := Layout.discard_straight hwrite hsize hrun
      simp only [run_cons, List.append_assoc, List.length_append, length_record] at hrun hwrite
      have hstart : q.readStart = q.readPointer := by
        rw [readStart, if_neg]
        omega
      obtain ⟨hlength, hdata⟩ := lengthAt_of_holds hx hrun
      rw [hstart]
      refine ⟨hlength, hdata, by simpa using hlayout, .inl ⟨rfl, .inl ⟨by omega, by omega⟩⟩⟩
  | turned front back hxs hback hwrite hlt hgap hmark hsize hfront hrun =>
      -- the run at the end of the buffer is read: the oldest element is at the start
      cases front with
      | nil =>
          simp only [List.nil_append] at hxs
          subst hxs
          have hend : q.lengthAt q.readPointer = 0 := lengthAt_of_mark (by simpa using hfront)
          have hstart : q.readStart = 0 := by rw [readStart, if_pos ⟨hend, hlt⟩]
          have hfit : q.writePointer + 4 ≤ q.bufferEnd := by
            simp only [run_nil, List.length_nil] at hsize
            omega
          have hlayout := Layout.discard_straight (by rw [hwrite, Nat.zero_add]) hfit hrun
          simp only [run_cons, List.append_assoc, List.length_append, length_record] at hrun hwrite
          obtain ⟨hlength, hdata⟩ := lengthAt_of_holds hx hrun
          rw [hstart]
          exact ⟨hlength, hdata, by simpa using hlayout, .inr ⟨rfl, hlt, hend, by omega⟩⟩
      | cons y front =>
          obtain ⟨rfl, rfl⟩ := List.cons.inj hxs
          have hlayout := Layout.discard_turned hback hwrite hlt (hgap (by simp)) hmark hsize
            hfront hrun
          have hne : x ≠ [] := fun hnil =>
            hmark x List.mem_cons_self ((mark_prefix_iff hx).mpr hnil)
          simp only [run_cons, List.append_assoc] at hfront
          obtain ⟨hlength, hdata⟩ := lengthAt_of_holds hx hfront
          have hlength_ne : q.lengthAt q.readPointer ≠ 0 := by
            rw [hlength]
            exact fun hzero => hne (List.eq_nil_of_length_eq_zero hzero)
          have hstart : q.readStart = q.readPointer := by
            rw [readStart, if_neg]
            exact fun hboth => hlength_ne hboth.1
          rw [hstart]
          exact ⟨hlength, hdata, by simpa using hlayout,
            .inl ⟨rfl, .inr ⟨hlt, hlength_ne⟩⟩⟩

theorem ofNat_sixteen_toNat {n : ℕ} (h : n < 2 ^ 16) : (BitVec.ofNat 16 n).toNat = n := by
  rw [BitVec.toNat_ofNat]
  omega

theorem Represents.count_pred {x : List U8} (h : Represents q (x :: xs)) :
    (q.numElements - 1).toNat = xs.length := by
  have hcount := h.count
  have hlt := h.length_lt
  simp only [List.length_cons] at hcount hlt
  bv_omega

theorem Represents.getNext_cons {x : List U8} (h : Represents q (x :: xs)) :
    q.getNext.2 = ⟨some (q.readStart + 4), BitVec.ofNat 16 x.length⟩ ∧
      q.getNext.1.memory.cell = q.memory.cell ∧ q.getNext.1.writePointer = q.writePointer ∧
      q.getNext.1.readPointer = q.readStart + (x.length + 4) ∧ Represents q.getNext.1 xs := by
  obtain ⟨hlength, -, hlayout, -⟩ := h.readStart_spec
  have hx := h.length_lt_of_mem List.mem_cons_self
  have hget : q.getNext =
      ({ q with
          memory := (q.memory.load q.readPointer 4).load q.readStart 4
          readPointer := q.readStart + (x.length + 4)
          numElements := q.numElements - 1 },
        ⟨some (q.readStart + 4), BitVec.ofNat 16 x.length⟩) := by
    simp only [SimpleQueue.getNext, if_neg h.numElements_ne_zero, hlength,
      ofNat_sixteen_toNat hx]
  rw [hget]
  exact ⟨rfl, rfl, rfl, rfl, hlayout, h.count_pred, h.small, h.stores⟩

theorem Represents.discardNext_cons {x : List U8} (h : Represents q (x :: xs)) :
    q.discardNext = q.getNext.1 := by
  obtain ⟨hlength, -, -, -⟩ := h.readStart_spec
  have hx := h.length_lt_of_mem List.mem_cons_self
  have hadd : (BitVec.ofNat 32 x.length + 4 : U32).toNat = x.length + 4 := by bv_omega
  simp only [SimpleQueue.discardNext, SimpleQueue.getNext, if_neg h.numElements_ne_zero, hlength,
    ofNat_sixteen_toNat hx, hadd]

theorem Represents.bytesAt_getNext {x : List U8} (h : Represents q (x :: xs)) :
    q.getNext.1.bytesAt q.getNext.2 = x := by
  obtain ⟨heq, hcell, -⟩ := h.getNext_cons
  obtain ⟨-, hdata, -⟩ := h.readStart_spec
  have hx := h.length_lt_of_mem List.mem_cons_self
  rw [heq]
  simp only [bytesAt, hcell, ofNat_sixteen_toNat hx]
  exact hdata.read_eq

theorem Represents.drain_snd (h : Represents q xs) :
    (drain xs.length q).map Prod.snd = xs := by
  induction xs generalizing q with
  | nil => rfl
  | cons x rest ih =>
      obtain ⟨-, -, -, -, hget⟩ := h.getNext_cons
      simp only [List.length_cons, drain, List.map_cons, h.bytesAt_getNext, ih hget]

theorem Represents.contents_eq (h : Represents q xs) : q.contents = xs := by
  rw [contents, h.count, h.drain_snd]

/-- Where elements may be: behind the read pointer and before the write pointer.
In a turned ring one of the two is enough, and behind the read pointer only while
its run is not read. -/
def Occupied (q : SimpleQueue) (span : Span) : Prop :=
  (q.readPointer ≤ q.writePointer → q.readPointer ≤ span.start ∧
      span.start + span.length ≤ q.writePointer) ∧
    (q.writePointer < q.readPointer → span.start + span.length ≤ q.writePointer ∨
      q.lengthAt q.readPointer ≠ 0 ∧ q.readPointer ≤ span.start)

theorem Represents.occupied_drain (h : Represents q xs) :
    ∀ span ∈ (drain xs.length q).map Prod.fst, q.Occupied span := by
  induction xs generalizing q with
  | nil => simp [drain]
  | cons x rest ih =>
      obtain ⟨heq, hcell, hwrite, hread, hget⟩ := h.getNext_cons
      obtain ⟨-, -, hlayout, hstart⟩ := h.readStart_spec
      have hx := h.length_lt_of_mem List.mem_cons_self
      have hlengthAt : ∀ p, q.getNext.1.lengthAt p = q.lengthAt p := by
        intro p
        simp only [lengthAt, hcell]
      intro span hspan
      simp only [List.length_cons, drain, List.map_cons, List.mem_cons, heq,
        ofNat_sixteen_toNat hx] at hspan
      rcases hspan with rfl | hspan
      · -- the oldest element itself
        simp only [Occupied]
        omega
      · have hrest := ih hget span hspan
        simp only [Occupied, hwrite, hread, hlengthAt] at hrest ⊢
        have hsplit := Nat.lt_or_ge q.writePointer (q.readStart + (x.length + 4))
        omega

theorem Represents.occupied_spans (h : Represents q xs) : ∀ span ∈ q.spans, q.Occupied span := by
  rw [spans, h.count]
  exact h.occupied_drain

/-! ## `Put` -/

theorem Represents.writePointer_le (h : Represents q xs) : q.writePointer ≤ q.bufferEnd := by
  cases h.layout with
  | straight hwrite hsize _ => omega
  | turned front back _ _ hwrite hlt _ _ hsize _ _ => omega

/-- The first test of `Put` on a queue whose pointers are in the buffer. -/
theorem Represents.turns_iff (h : Represents q xs) {n : ℕ} (hn : n + 5 < 2 ^ 32) :
    q.Turns (elementSize (BitVec.ofNat 32 n)) ↔
      q.readPointer ≤ q.writePointer ∧ q.bufferEnd ≤ q.writePointer + n + 5 ∧
        n + 5 ≤ q.readPointer := by
  have hwrite := h.writePointer_le
  have hsmall := h.small
  have hsize : (elementSize (BitVec.ofNat 32 n)).toNat = n + 5 := by
    simp only [elementSize]
    bv_omega
  have hspace : (BitVec.ofInt 32 ((q.bufferEnd : ℤ) - q.writePointer)).toNat =
      q.bufferEnd - q.writePointer := by
    rw [BitVec.toNat_ofInt]
    omega
  simp only [Turns, hsize, hspace, BitVec.toNat_ofNat]
  omega

/-- The stores of a new element. -/
def elementStores (start n : ℕ) : List Span := [⟨start, 4⟩, ⟨start + 4, n⟩, ⟨start + (n + 4), 4⟩]

/-- The three stores of an element are one store of its record and an end of run. -/
theorem writeElement_eq (q : SimpleQueue) {data : List U8} (hn : data.length + 5 < 2 ^ 32) :
    (q.writeElement data (BitVec.ofNat 32 data.length)).memory.cell =
        overwrite q.memory.cell q.writePointer (record data ++ List.replicate 4 0) ∧
      (q.writeElement data (BitVec.ofNat 32 data.length)).writePointer =
        q.writePointer + (record data).length ∧
      (q.writeElement data (BitVec.ofNat 32 data.length)).memory.stores =
        q.memory.stores ++ elementStores q.writePointer data.length := by
  have hdata : (BitVec.ofNat 32 data.length).toNat = data.length := by bv_omega
  have hnext : (BitVec.ofNat 32 data.length + 4 : U32).toNat = data.length + 4 := by bv_omega
  refine ⟨?_, ?_, ?_⟩
  · have hsplit : record data ++ List.replicate 4 0 =
        LittleEndian.encode 4 data.length ++ (data ++ List.replicate 4 0) := by
      simp [record]
    rw [hsplit, ← overwrite_append, ← overwrite_append]
    simp only [writeElement, Memory.store_cell, hdata, hnext, List.take_length,
      LittleEndian.length_encode, LittleEndian.encode_zero]
    rw [show q.writePointer + (data.length + 4) = q.writePointer + 4 + data.length by omega]
    rfl
  · simp only [writeElement, hnext, length_record]
  · simp only [writeElement, Memory.store_stores, hdata, hnext, List.take_length,
      LittleEndian.length_encode, List.append_assoc]
    rfl

/-- Writing an element at a place that meets no other element.  `q₀` is the state
in which the element is written: `q` itself, or `q` with the writer turned. -/
theorem Represents.place (h : Represents q xs) {q₀ : SimpleQueue} {data : List U8}
    (hn : data.length + 5 < 2 ^ 32) (hread : q₀.readPointer = q.readPointer)
    (hend : q₀.bufferEnd = q.bufferEnd) (hcount : q₀.numElements = q.numElements)
    (hbefore : ∃ before, q₀.memory.stores = q.memory.stores ++ before ∧
      ∀ span ∈ before, span.start = q₀.writePointer ∧ span.length ≤ 4)
    (hfit : q₀.writePointer + data.length + 8 ≤ q.bufferEnd)
    (hspans : ∀ old ∈ q.spans, old.start + old.length ≤ q₀.writePointer ∨
      q₀.writePointer + data.length + 8 ≤ old.start)
    (hlayout : Layout record 0 4
      (overwrite q₀.memory.cell q₀.writePointer (record data ++ List.replicate 4 0))
      q.bufferEnd q.readPointer (q₀.writePointer + (record data).length) (xs ++ [data])) :
    Represents (q₀.writeElement data (BitVec.ofNat 32 data.length)) (xs ++ [data]) ∧
      StoresSafely q (q₀.writeElement data (BitVec.ofNat 32 data.length)) := by
  obtain ⟨before, hstores, hbefore⟩ := hbefore
  obtain ⟨hcell, hwrite, hnew⟩ := writeElement_eq q₀ hn
  -- all stores are in the element and the end of run behind it
  have hwithin : ∀ span ∈ before ++ elementStores q₀.writePointer data.length,
      q₀.writePointer ≤ span.start ∧
        span.start + span.length ≤ q₀.writePointer + data.length + 8 := by
    intro span hspan
    rcases List.mem_append.mp hspan with hspan | hspan
    · obtain ⟨hstart, hlength⟩ := hbefore span hspan
      omega
    · simp only [elementStores, List.mem_cons, List.not_mem_nil, or_false] at hspan
      rcases hspan with rfl | rfl | rfl <;> constructor <;> simp only <;> omega
  have hall : (q₀.writeElement data (BitVec.ofNat 32 data.length)).memory.stores =
      q.memory.stores ++ (before ++ elementStores q₀.writePointer data.length) := by
    rw [hnew, hstores, List.append_assoc]
  have hlength : (xs ++ [data]).length < 2 ^ 16 := by
    have hle : (xs ++ [data]).length ≤ (run record (xs ++ [data])).length :=
      length_le_run fun x _ => by simp
    have := hlayout.run_length_le
    have := h.small
    omega
  have hsafe : StoresSafely q (q₀.writeElement data (BitVec.ofNat 32 data.length)) := by
    refine ⟨_, hall, fun span hspan => ?_⟩
    have hspan' := hwithin span hspan
    refine ⟨(by omega : span.start + span.length ≤ q.bufferEnd), fun old hold => ?_⟩
    rcases hspans old hold with hbefore | hafter
    · exact Span.disjoint_of_ge (by omega)
    · exact Span.disjoint_of_le (by omega)
  have hbuffer : (q₀.writeElement data (BitVec.ofNat 32 data.length)).bufferEnd =
      q.bufferEnd := hend
  refine ⟨⟨?_, ?_, hbuffer ▸ h.small, ?_⟩, hsafe⟩
  · rw [hcell, hwrite, hbuffer]
    exact hread ▸ hlayout
  · have hcount' := h.count
    simp only [writeElement, hcount]
    simp only [List.length_append, List.length_singleton] at hlength ⊢
    bv_omega
  · obtain ⟨new, hnew, hnewWithin⟩ := hsafe
    rw [hnew, hbuffer]
    intro span hspan
    rcases List.mem_append.mp hspan with hspan | hspan
    · exact h.stores span hspan
    · exact (hnewWithin span hspan).1

/-- What `put` does with a string that it accepts and that fits. -/
theorem Represents.put_accepted (h : Represents q xs) {data : List U8}
    (haccepts : q.Accepts data) (hfits : q.PutFits data) :
    (q.putString data).2 = true ∧ Represents (q.putString data).1 (xs ++ [data]) ∧
      StoresSafely q (q.putString data).1 := by
  have hn := hfits.noOverflow
  have hsize : (stringSize data).toNat = data.length + 5 := by
    simp only [stringSize, elementSize]
    bv_omega
  have hturns := h.turns_iff hn
  have hspans := h.occupied_spans
  by_cases hturn : q.Turns (stringSize data)
  · -- the writer turns to the start of the buffer
    obtain ⟨hle, hend, hspace⟩ := hturns.mp hturn
    cases h.layout with
    | turned front back hxs hback hwrite hlt => omega
    | straight hwrite hsize' hrun =>
        have hkeep : Holds (overwrite q.memory.cell 0 (List.replicate 4 0)) q.readPointer
            (run record xs ++ List.replicate 4 0) :=
          hrun.overwrite_before (by simp only [List.length_replicate]; omega)
        have hgap : xs ≠ [] → data.length + 8 ≤ q.readPointer := fun hxs =>
          hfits.atStart hturn (by rwa [h.contents_eq])
        have hmark : ∀ y ∈ xs, ¬ List.replicate 4 (0 : U8) <+: record y := by
          intro y hy hbegun
          rw [mark_prefix_iff (h.length_lt_of_mem hy)] at hbegun
          have := hfits.noEmptyString hturn
          rw [h.contents_eq] at this
          exact this (hbegun ▸ hy)
        rw [putString, put, if_pos hturn]
        refine ⟨rfl, h.place hn rfl rfl rfl ⟨[⟨0, 4⟩], rfl, by simp⟩ ?_ ?_ ?_⟩
        · show 0 + data.length + 8 ≤ q.bufferEnd
          omega
        · intro old hold
          refine .inr (show 0 + data.length + 8 ≤ old.start from ?_)
          have := (hspans old hold).1 hle
          by_cases hxs : xs = []
          · subst hxs
            simp [spans, h.count, drain] at hold
          · have := hgap hxs
            omega
        · simp only [Memory.store_cell, LittleEndian.encode_zero, Nat.zero_add]
          exact Layout.append_turn hwrite hsize' hkeep (by simp only [length_record]; omega)
            (fun hxs => by have := hgap hxs; simp only [length_record]; omega) hmark
  · have hnot : ¬ q.OverrunsEnd (stringSize data) ∧ ¬ q.OverrunsReader (stringSize data) := by
      simpa [Accepts, hturn] using haccepts
    rw [putString, put, if_neg hturn, if_neg hnot.1, if_neg hnot.2]
    obtain ⟨hnotEnd, hnotReader⟩ := hnot
    simp only [OverrunsEnd, OverrunsReader, hsize] at hnotEnd hnotReader
    -- the string goes where the write pointer is
    cases h.layout with
    | straight hwrite hsize' hrun =>
        have hfit := hfits.atEnd hturn (by omega)
        refine ⟨rfl, h.place hn rfl rfl rfl ⟨[], by simp, by simp⟩ hfit ?_ ?_⟩
        · intro old hold
          have := (hspans old hold).1 (by omega)
          omega
        · exact Layout.append_straight hwrite hrun (by simp only [length_record]; omega)
    | turned front back hxs hback hwrite hlt hgap hmark hsize' hfront hrun =>
        -- only a run that is still to be read lies in the way
        have hroom : front ≠ [] → q.writePointer + data.length + 8 ≤ q.readPointer := by
          intro hfr
          obtain ⟨x, rest, rfl⟩ := List.exists_cons_of_ne_nil hfr
          refine hfits.beforeReader hlt ?_
          have hx := h.length_lt_of_mem (hxs ▸ List.mem_append_left back List.mem_cons_self)
          simp only [run_cons, List.append_assoc] at hfront
          rw [(lengthAt_of_holds hx hfront).1]
          exact fun hzero => hmark x List.mem_cons_self
            ((mark_prefix_iff hx).mpr (List.eq_nil_of_length_eq_zero hzero))
        refine ⟨rfl, h.place hn rfl rfl rfl ⟨[], by simp, by simp⟩ ?_ ?_ ?_⟩
        · omega
        · intro old hold
          rcases (hspans old hold).2 hlt with hbefore | ⟨hne, hafter⟩
          · exact .inl hbefore
          · have := hfits.beforeReader hlt hne
            omega
        · exact Layout.append_turned hxs hwrite hmark hsize' hfront hrun
            (by simp only [length_record]; omega)
            (fun hfr => by have := hroom hfr; simp only [length_record]; omega)

/-- What `put` does with a string that it does not accept: nothing. -/
theorem put_refused {data : List U8} (h : ¬ q.Accepts data) : q.putString data = (q, false) := by
  simp only [Accepts, not_or, not_and_or, not_not] at h
  simp only [putString, put, if_neg h.1]
  rcases h.2 with hend | hreader
  · rw [if_pos hend]
  · by_cases hend : q.OverrunsEnd (stringSize data)
    · rw [if_pos hend]
    · rw [if_neg hend, if_pos hreader]

/-! ## The run -/

theorem Represents.peekNext_nil (h : Represents q []) : q.peekNext = (q, ⟨none, 0⟩) := by
  simp [SimpleQueue.peekNext, h.numElements_eq_zero]

theorem Represents.getNext_nil (h : Represents q []) : q.getNext = (q, ⟨none, 0⟩) := by
  simp [SimpleQueue.getNext, h.numElements_eq_zero]

theorem Represents.discardNext_nil (h : Represents q []) : q.discardNext = q := by
  simp [SimpleQueue.discardNext, h.numElements_eq_zero]

/-- `peekNext` returns what `getNext` returns, and changes only the record of loads. -/
theorem Represents.peekNext_cons {x : List U8} (h : Represents q (x :: xs)) :
    q.peekNext.2 = q.getNext.2 ∧ q.peekNext.1.bytesAt q.peekNext.2 = x ∧
      Represents q.peekNext.1 (x :: xs) := by
  have hne := h.numElements_ne_zero
  have hsame : q.peekNext.2 = q.getNext.2 := by
    simp only [SimpleQueue.peekNext, SimpleQueue.getNext, if_neg hne]
  have hcell : q.peekNext.1.memory.cell = q.getNext.1.memory.cell := by
    simp only [SimpleQueue.peekNext, SimpleQueue.getNext, if_neg hne, Memory.load_cell]
  refine ⟨hsame, ?_, ?_⟩
  · have hbytes := h.bytesAt_getNext
    simp only [bytesAt] at hbytes ⊢
    rw [hsame, hcell]
    exact hbytes
  · simp only [SimpleQueue.peekNext, if_neg hne]
    exact ⟨h.layout, h.count, h.small, h.stores⟩

theorem Represents.put_condition (h : Represents q xs) {data : List U8}
    (hcondition : q.PutCondition data) :
    ∃ ys, Represents (q.putString data).1 ys := by
  by_cases haccepts : q.Accepts data
  · exact ⟨_, (h.put_accepted haccepts (hcondition.2 haccepts)).2.1⟩
  · rw [put_refused haccepts]
    exact ⟨xs, h⟩

theorem Reachable.represents {bufferLength : U32} (hfour : 4 ≤ bufferLength.toNat)
    (hsmall : bufferLength.toNat < 2 ^ 16) (h : Reachable PutCondition bufferLength q) :
    ∃ xs, Represents q xs := by
  induction h with
  | new memory => exact ⟨[], represents_new memory hfour hsmall⟩
  | put data _ hcondition ih =>
      obtain ⟨xs, hrep⟩ := ih
      exact hrep.put_condition hcondition
  | peekNext _ ih =>
      obtain ⟨xs, hrep⟩ := ih
      cases xs with
      | nil => exact ⟨[], by rw [hrep.peekNext_nil]; exact hrep⟩
      | cons x rest => exact ⟨_, hrep.peekNext_cons.2.2⟩
  | getNext _ ih =>
      obtain ⟨xs, hrep⟩ := ih
      cases xs with
      | nil => exact ⟨[], by rw [hrep.getNext_nil]; exact hrep⟩
      | cons x rest => exact ⟨rest, hrep.getNext_cons.2.2.2.2⟩
  | discardNext _ ih =>
      obtain ⟨xs, hrep⟩ := ih
      cases xs with
      | nil => exact ⟨[], by rw [hrep.discardNext_nil]; exact hrep⟩
      | cons x rest =>
          exact ⟨rest, by rw [hrep.discardNext_cons]; exact hrep.getNext_cons.2.2.2.2⟩
  | clean _ ih =>
      obtain ⟨xs, hrep⟩ := ih
      exact ⟨[], hrep.clean⟩

theorem Represents.actsAsFifo (h : Represents q xs) : ActsAsFifo PutCondition q where
  put_true data hcondition hput := by
    by_cases haccepts : q.Accepts data
    · rw [(h.put_accepted haccepts (hcondition.2 haccepts)).2.1.contents_eq, h.contents_eq]
    · rw [put_refused haccepts] at hput
      exact absurd hput (by simp)
  put_false data hcondition hput := by
    by_cases haccepts : q.Accepts data
    · rw [(h.put_accepted haccepts (hcondition.2 haccepts)).1] at hput
      exact absurd hput (by simp)
    · rw [put_refused haccepts]
  put_stores data hcondition := by
    by_cases haccepts : q.Accepts data
    · exact (h.put_accepted haccepts (hcondition.2 haccepts)).2.2
    · rw [put_refused haccepts]
      exact ⟨[], by simp, by simp⟩
  peekNext_nil hnil := by
    rw [h.contents_eq] at hnil
    subst hnil
    exact h.peekNext_nil
  peekNext_cons x rest hcons := by
    rw [h.contents_eq] at hcons
    subst hcons
    obtain ⟨hsame, hbytes, hpeek⟩ := h.peekNext_cons
    refine ⟨hbytes, ?_, by rw [hpeek.contents_eq, h.contents_eq]⟩
    rw [hsame, h.getNext_cons.1]
    exact ofNat_sixteen_toNat (h.length_lt_of_mem List.mem_cons_self)
  getNext_nil hnil := by
    rw [h.contents_eq] at hnil
    subst hnil
    exact h.getNext_nil
  getNext_cons x rest hcons := by
    rw [h.contents_eq] at hcons
    subst hcons
    obtain ⟨heq, -, -, -, hget⟩ := h.getNext_cons
    refine ⟨h.bytesAt_getNext, ?_, hget.contents_eq⟩
    rw [heq]
    exact ofNat_sixteen_toNat (h.length_lt_of_mem List.mem_cons_self)
  discardNext_nil hnil := by
    rw [h.contents_eq] at hnil
    subst hnil
    exact h.discardNext_nil
  discardNext_cons x rest hcons := by
    rw [h.contents_eq] at hcons
    subst hcons
    rw [h.discardNext_cons]
    exact h.getNext_cons.2.2.2.2.contents_eq
  clean := h.clean.contents_eq
  stores := h.stores

/-- **In every run whose accepted strings fit, the simple queue is a FIFO queue.** -/
theorem simpleQueue_refines_fifo {bufferLength : U32} (hfour : 4 ≤ bufferLength.toNat)
    (hsmall : bufferLength.toNat < 2 ^ 16) (h : Reachable PutCondition bufferLength q) :
    ActsAsFifo PutCondition q := by
  obtain ⟨xs, hrep⟩ := h.represents hfour hsmall
  exact hrep.actsAsFifo

/-- On 24 bytes two strings are put, the first is read, and a third is put at the start of the
buffer. -/
def turned : SimpleQueue :=
  (((((new (fun _ => 0) 24).putString [1, 2, 3, 4, 5, 6, 7]).1.putString [8]).1.getNext).1.putString
    [9, 10, 11]).1

theorem simpleQueue_refines_fifo_turned :
    turned.writePointer < turned.readPointer ∧ turned.contents = [[8], [9, 10, 11]] ∧
      ActsAsFifo PutCondition turned := by
  have hfirst : Reachable PutCondition 24 _ :=
    .put [1, 2, 3, 4, 5, 6, 7] (.new fun _ => 0) ⟨by decide, fun _ => by constructor <;> decide⟩
  have hsecond : Reachable PutCondition 24 _ :=
    .put [8] hfirst ⟨by decide, fun _ => by constructor <;> decide⟩
  have hturned : Reachable PutCondition 24 turned :=
    .put [9, 10, 11] hsecond.getNext ⟨by decide, fun _ => by constructor <;> decide⟩
  exact ⟨by decide, by decide, simpleQueue_refines_fifo (by decide) (by decide) hturned⟩

/-- On ten bytes, a string of four bytes is accepted and the end of its run is
stored behind the buffer. -/
theorem put_leaves_buffer :
    ¬ ∀ bufferLength : U32, 4 ≤ bufferLength.toNat → bufferLength.toNat < 2 ^ 16 →
      ∀ q, Reachable (fun _ data => data.length < 2 ^ 32) bufferLength q →
        ActsAsFifo (fun _ data => data.length < 2 ^ 32) q := by
  intro hclaim
  have hfifo := hclaim 10 (by decide) (by decide) ((new (fun _ => 0) 10).putString [1, 2, 3, 4]).1
    (.put [1, 2, 3, 4] (.new _) (by decide))
  have hwithin := hfifo.stores ⟨8, 4⟩ (by decide)
  exact absurd hwithin (by decide)

end FruityMesh.SimpleQueue
