import FruityMesh.Library.LittleEndian
import FruityMesh.PacketQueue

/-!
# The simple queue

`SimpleQueue.cpp`: the packet queue without the reliable flag and with lengths
of four bytes.  An element is its length and its bytes; a length of zero ends a
run of elements.  The space checks of `Put` are those of the packet queue, so they
keep one byte behind an element where the end of a run takes four.

As in the packet queue, pointers are offsets from `bufferStart`.
-/

namespace FruityMesh

open Cells

structure SimpleQueue where
  memory : Memory U8
  bufferEnd : ℕ
  readPointer : ℕ
  writePointer : ℕ
  numElements : U16

namespace SimpleQueue

/-- The constructor, on memory with any contents. -/
def new (memory : ℕ → U8) (bufferLength : U32) : SimpleQueue where
  memory := (Memory.mk memory [] []).store 0 (LittleEndian.encode 4 0)
  bufferEnd := bufferLength.toNat
  readPointer := 0
  writePointer := 0
  numElements := 0

/-- The four-byte length at a pointer. -/
def lengthAt (q : SimpleQueue) (pointer : ℕ) : ℕ :=
  LittleEndian.decode (read q.memory.cell pointer 4)

/-- The first test of `Put`: the space at the end is not enough and that at the
beginning is, so the writer turns to the start of the buffer. -/
def Turns (q : SimpleQueue) (elementSize : U32) : Prop :=
  q.writePointer ≥ q.readPointer ∧
    (BitVec.ofInt 32 ((q.bufferEnd : ℤ) - q.writePointer)).toNat ≤ elementSize.toNat ∧
    (BitVec.ofNat 32 q.readPointer).toNat ≥ elementSize.toNat

/-- The second test: the element does not fit before the end of the buffer. -/
def OverrunsEnd (q : SimpleQueue) (elementSize : U32) : Prop :=
  q.readPointer ≤ q.writePointer ∧ q.writePointer + elementSize.toNat ≥ q.bufferEnd

/-- The third test: the element does not fit before the read pointer. -/
def OverrunsReader (q : SimpleQueue) (elementSize : U32) : Prop :=
  q.readPointer > q.writePointer ∧ q.writePointer + elementSize.toNat ≥ q.readPointer

instance (q : SimpleQueue) (elementSize : U32) : Decidable (q.Turns elementSize) :=
  inferInstanceAs (Decidable (_ ∧ _ ∧ _))

instance (q : SimpleQueue) (elementSize : U32) : Decidable (q.OverrunsEnd elementSize) :=
  inferInstanceAs (Decidable (_ ∧ _))

instance (q : SimpleQueue) (elementSize : U32) : Decidable (q.OverrunsReader elementSize) :=
  inferInstanceAs (Decidable (_ ∧ _))

/-- The space that `Put` asks for: the data, four bytes for the length and one
to keep the pointers apart. -/
def elementSize (dataLength : U32) : U32 := dataLength + 4 + 1

/-- The end of `Put`: store the element at the write pointer and a zero length
behind it. -/
def writeElement (q : SimpleQueue) (data : List U8) (dataLength : U32) : SimpleQueue :=
  { q with
    memory := ((q.memory.store q.writePointer (LittleEndian.encode 4 dataLength.toNat)).store
      (q.writePointer + 4) (data.take dataLength.toNat)).store
      (q.writePointer + (dataLength + 4).toNat) (LittleEndian.encode 4 0)
    writePointer := q.writePointer + (dataLength + 4).toNat
    numElements := q.numElements + 1 }

/-- `Put`: queue the first `dataLength` bytes of `data`. -/
def put (q : SimpleQueue) (data : List U8) (dataLength : U32) : SimpleQueue × Bool :=
  if q.Turns (elementSize dataLength) then
    (({ q with
        writePointer := 0
        memory := q.memory.store 0 (LittleEndian.encode 4 0) } : SimpleQueue).writeElement
      data dataLength, true)
  else if q.OverrunsEnd (elementSize dataLength) then (q, false)
  else if q.OverrunsReader (elementSize dataLength) then (q, false)
  else (q.writeElement data dataLength, true)

/-- Where the oldest element starts: at the start of the buffer when the read
pointer has reached the end of its run. -/
def readStart (q : SimpleQueue) : ℕ :=
  if q.lengthAt q.readPointer = 0 ∧ q.writePointer < q.readPointer then 0 else q.readPointer

/-- `PeekNext`.  The length of the result has 16 bits only. -/
def peekNext (q : SimpleQueue) : SimpleQueue × SizedData :=
  if q.numElements = 0 then
    (q, ⟨none, 0⟩)
  else
    ({ q with memory := (q.memory.load q.readPointer 4).load q.readStart 4 },
      ⟨some (q.readStart + 4), BitVec.ofNat 16 (q.lengthAt q.readStart)⟩)

/-- `GetNext`. -/
def getNext (q : SimpleQueue) : SimpleQueue × SizedData :=
  if q.numElements = 0 then
    (q, ⟨none, 0⟩)
  else
    let length : U16 := BitVec.ofNat 16 (q.lengthAt q.readStart)
    ({ q with
        memory := (q.memory.load q.readPointer 4).load q.readStart 4
        readPointer := q.readStart + (length.toNat + 4)
        numElements := q.numElements - 1 },
      ⟨some (q.readStart + 4), length⟩)

/-- `DiscardNext`. -/
def discardNext (q : SimpleQueue) : SimpleQueue :=
  if q.numElements = 0 then q
  else
    { q with
      memory := (q.memory.load q.readPointer 4).load q.readStart 4
      readPointer := q.readStart + (BitVec.ofNat 32 (q.lengthAt q.readStart) + 4 : U32).toNat
      numElements := q.numElements - 1 }

/-- `Clean`. -/
def clean (q : SimpleQueue) : SimpleQueue :=
  { q with
    memory := q.memory.store 0 (LittleEndian.encode 4 0)
    readPointer := 0
    writePointer := 0
    numElements := 0 }

/-! ### Reading the queue empty -/

/-- The bytes that a result of `peekNext` or `getNext` points to. -/
def bytesAt (q : SimpleQueue) (sized : SizedData) : List U8 :=
  match sized.data with
  | some pointer => read q.memory.cell pointer sized.length.toNat
  | none => []

/-- What a reader gets who gets `n` elements: for each the bytes it takes in the
buffer, its length field included, and its data. -/
def drain : ℕ → SimpleQueue → List (Span × List U8)
  | 0, _ => []
  | n + 1, q =>
      (⟨q.readStart, 4 + q.getNext.2.length.toNat⟩, q.getNext.1.bytesAt q.getNext.2) ::
        drain n q.getNext.1

/-- The elements of the queue, oldest first: what a reader gets who reads it empty. -/
def contents (q : SimpleQueue) : List (List U8) :=
  (drain q.numElements.toNat q).map Prod.snd

/-- Where the elements of the queue are. -/
def spans (q : SimpleQueue) : List Span :=
  (drain q.numElements.toNat q).map Prod.fst

end SimpleQueue

end FruityMesh
