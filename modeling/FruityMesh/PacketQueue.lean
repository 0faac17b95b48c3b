import FruityMesh.Library.RecordRing
import FruityMesh.Types

/-!
# The packet queue

`PacketQueue.cpp`: a ring buffer for sending packets of varying sizes.  An
element is a length byte, a byte that says whether the packet is reliable, and
the packet; a length byte of zero ends a run of elements.

Pointers are offsets from `bufferStart`, and the memory is that around the
buffer, so an access may leave the buffer and is recorded if it does.  The mutex
of the source guards against threads that do not exist and is left out.
-/

namespace FruityMesh

open Cells

/-- A pointer with a length.  The pointer of an empty result is not initialised. -/
structure SizedData where
  data : Option ℕ
  length : U16
  deriving DecidableEq, Repr

structure PacketQueue where
  memory : Memory U8
  bufferLength : U16
  readPointer : ℕ
  writePointer : ℕ
  numElements : U16

namespace PacketQueue

/-- The offset behind the last byte of the buffer. -/
def bufferEnd (q : PacketQueue) : ℕ := q.bufferLength.toNat

/-- The constructor, on memory with any contents. -/
def new (memory : ℕ → U8) (bufferLength : U16) : PacketQueue where
  memory := (Memory.mk memory [] []).store 0 [0]
  bufferLength := bufferLength
  readPointer := 0
  writePointer := 0
  numElements := 0

/-- The flag byte in front of a packet. -/
def flagByte (reliable : Bool) : U8 := if reliable then 1 else 0

/-- The end of `Put`: store the element at the write pointer and a zero length
byte behind it. -/
def writeElement (q : PacketQueue) (data : List U8) (dataLength : U8) (reliable : Bool) :
    PacketQueue :=
  { q with
    memory := (((q.memory.store q.writePointer [dataLength + 1]).store
      (q.writePointer + 1) [flagByte reliable]).store
      (q.writePointer + 2) (data.take dataLength.toNat)).store
      (q.writePointer + (dataLength.toNat + 2)) [0]
    writePointer := q.writePointer + (dataLength.toNat + 2)
    numElements := q.numElements + 1 }

/-- `Put`: queue the first `dataLength` bytes of `data`. -/
def put (q : PacketQueue) (data : List U8) (dataLength : U8) (reliable : Bool) :
    PacketQueue × Bool :=
  -- one byte for the flag, one for the length and one to keep the pointers apart
  let elementSize : U8 := dataLength + 1 + 1 + 1
  if q.writePointer ≥ q.readPointer ∧ q.bufferEnd - q.writePointer ≤ elementSize.toNat ∧
      q.readPointer ≥ elementSize.toNat then
    (({ q with writePointer := 0, memory := q.memory.store 0 [0] } : PacketQueue).writeElement
      data dataLength reliable, true)
  else if q.readPointer ≤ q.writePointer ∧ q.writePointer + elementSize.toNat ≥ q.bufferEnd then
    (q, false)
  else if q.readPointer > q.writePointer ∧
      q.writePointer + elementSize.toNat ≥ q.readPointer then
    (q, false)
  else
    (q.writeElement data dataLength reliable, true)

/-- `PeekNext`: the oldest element, flag byte included.  Moves the read pointer to
the start of the buffer when it has reached the end of its run. -/
def peekNext (q : PacketQueue) : PacketQueue × SizedData :=
  if q.numElements = 0 then
    (q, ⟨none, 0⟩)
  else
    let readPointer :=
      if q.memory.cell q.readPointer = 0 ∧ q.writePointer < q.readPointer then 0
      else q.readPointer
    ({ q with
        memory := (q.memory.load q.readPointer 1).load readPointer 1
        readPointer := readPointer },
      ⟨some (readPointer + 1), (q.memory.cell readPointer).setWidth 16⟩)

/-- `DiscardNext`: step over the element at the read pointer. -/
def discardNext (q : PacketQueue) : PacketQueue :=
  { q with
    memory := q.memory.load q.readPointer 1
    readPointer := q.readPointer + ((q.memory.cell q.readPointer).toNat + 1)
    numElements := q.numElements - 1 }

/-- `Clean`. -/
def clean (q : PacketQueue) : PacketQueue :=
  { q with
    memory := q.memory.store 0 [0]
    readPointer := 0
    writePointer := 0
    numElements := 0 }

/-! ### Reading the queue empty -/

/-- The bytes that a result of `peekNext` points to. -/
def bytesAt (q : PacketQueue) (sized : SizedData) : List U8 :=
  match sized.data with
  | some pointer => read q.memory.cell pointer sized.length.toNat
  | none => []

/-- What a reader gets who peeks and discards `n` times. -/
def drain : ℕ → PacketQueue → List (List U8)
  | 0, _ => []
  | n + 1, q =>
      q.peekNext.1.bytesAt q.peekNext.2 :: drain n q.peekNext.1.discardNext

/-- The elements of the queue, oldest first: what a reader gets who reads it empty. -/
def contents (q : PacketQueue) : List (List U8) := drain q.numElements.toNat q

end PacketQueue

end FruityMesh
