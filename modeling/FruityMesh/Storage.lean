import FruityMesh.ConnPackets
import FruityMesh.Library.Runs
import FruityMesh.SimpleQueueFifo

/-!
# Tasks for the flash storage

`Storage.cpp`: requests to load and to store wait in a simple queue, and the first one is
executed with the operations of `pstorage`.  A write clears its block and then stores; when an
operation fails the task starts again.

`PstorageEventHandler` does not learn which task an event is about, it takes it from the head of
the queue.  It calls the `ConfigurationLoadedHandler` of a read, which may make requests itself,
and goes on when that returns: these are two steps here (`completed` and `returned`).  The call of
`pstorage_load` is the last thing that `ProcessQueue` and all its callers do, so a load that
completes inside the call is one that completes next.

What has happened is kept in a log.  Without the requests it is made up of the executions of the
tasks that have left the queue, in the order of the requests, and a part of one of the first
task that is left (`storage_executes`).
-/

namespace FruityMesh

open Cells LittleEndian

/-! ## Tasks -/

def operationRead : U16 := 0
def operationWrite : U16 := 1

/-- `taskitem`, with the pointers as numbers of four bytes. -/
structure TaskItem where
  operation : U16
  dataLength : U16
  storageBlock : U32
  data : U32
  callback : U32
  deriving DecidableEq, Repr

def sizeofTaskItem : ℕ := 16

def taskBufferLength : ℕ := sizeofTaskItem * 10

namespace TaskItem

def bytes (task : TaskItem) : List U8 :=
  u16Bytes task.operation ++ u16Bytes task.dataLength ++ u32Bytes task.storageBlock ++
    u32Bytes task.data ++ u32Bytes task.callback

@[simp] theorem length_bytes (task : TaskItem) : task.bytes.length = 16 := by simp [bytes]

def ofMemory (memory : ℕ → U8) (offset : ℕ) : TaskItem where
  operation := u16At memory offset
  dataLength := u16At memory (offset + 2)
  storageBlock := u32At memory (offset + 4)
  data := u32At memory (offset + 8)
  callback := u32At memory (offset + 12)

theorem ofMemory_eq {memory : ℕ → U8} {offset : ℕ} {task : TaskItem}
    (h : Holds memory offset task.bytes) : ofMemory memory offset = task := by
  unfold bytes at h
  obtain ⟨h, hcallback⟩ := holds_append.mp h
  obtain ⟨h, hdata⟩ := holds_append.mp h
  obtain ⟨h, hblock⟩ := holds_append.mp h
  obtain ⟨hoperation, hlength⟩ := holds_append.mp h
  simp only [List.length_append, length_u16Bytes, length_u32Bytes] at hcallback hdata hblock hlength
  simp only [ofMemory, u16At_eq hoperation, u16At_eq hlength, u32At_eq hblock, u32At_eq hdata,
    u32At_eq hcallback]

end TaskItem

/-- An operation of `pstorage`. -/
inductive FlashOperation
  | clear (block : U32)
  | store (block : U32) (data : U32) (dataLength : U16)
  | load (data : U32) (block : U32) (dataLength : U16)
  deriving DecidableEq, Repr

/-- One thing that happens. -/
inductive StorageEntry
  | requested (task : TaskItem) (stored : Bool)
  | issued (operation : FlashOperation)
  | completed (operation : FlashOperation) (success : Bool)
  | removed (task : TaskItem)
  | called (callback : U32)
  deriving DecidableEq, Repr

/-! ## The storage -/

structure Storage where
  taskQueue : SimpleQueue
  bufferedOperationInProgress : Bool
  /-- `PstorageEventHandler` has called a `ConfigurationLoadedHandler` that has not returned. -/
  inCallback : Bool
  /-- The operations that have been issued and are not completed. -/
  outstanding : List FlashOperation
  log : List StorageEntry

namespace Storage

/-- The constructor. -/
def new (memory : ℕ → U8) : Storage where
  taskQueue := SimpleQueue.new memory (BitVec.ofNat 32 taskBufferLength)
  bufferedOperationInProgress := false
  inCallback := false
  outstanding := []
  log := []

/-- The task that a result of the queue points to.  There is one whenever the code looks. -/
def taskAt (q : SimpleQueue) (sized : SizedData) : TaskItem :=
  TaskItem.ofMemory q.memory.cell (sized.data.getD 0)

variable (s : Storage)

def note (entry : StorageEntry) : Storage := { s with log := s.log ++ [entry] }

/-- Hand an operation to `pstorage`. -/
def issue (operation : FlashOperation) : Storage :=
  { s with
    outstanding := s.outstanding ++ [operation]
    log := s.log ++ [.issued operation] }

def bufferedRead (data block : U32) (len : U16) : Storage := s.issue (.load data block len)

/-- A write begins with a clear. -/
def bufferedWrite (block : U32) : Storage := s.issue (.clear block)

/-- Execute the first task, unless one is executed already. -/
def processQueue : Storage :=
  if s.bufferedOperationInProgress ∨ s.taskQueue.numElements.toNat < 1 then s
  else
    let peeked := s.taskQueue.peekNext
    let task := taskAt peeked.1 peeked.2
    let begun := { s with taskQueue := peeked.1, bufferedOperationInProgress := true }
    if task.operation = operationRead then
      begun.bufferedRead task.data task.storageBlock task.dataLength
    else if task.operation = operationWrite then begun.bufferedWrite task.storageBlock
    else begun

/-- Whether there is room for the task is noted, but nothing else is made of it. -/
def put (task : TaskItem) : Storage :=
  { s with taskQueue := (s.taskQueue.putString task.bytes).1 }.note
    (.requested task (s.taskQueue.putString task.bytes).2)

/-- What `QueuedRead` and `QueuedWrite` do with their task. -/
def request (task : TaskItem) : Storage := (s.put task).processQueue

def queuedRead (data : U32) (dataLength : U16) (blockId callback : U32) : Storage :=
  s.request ⟨operationRead, dataLength, blockId, data, callback⟩

def queuedWrite (data : U32) (dataLength : U16) (blockId callback : U32) : Storage :=
  s.request ⟨operationWrite, dataLength, blockId, data, callback⟩

/-- The end of `PstorageEventHandler`. -/
def proceed : Storage :=
  { s with bufferedOperationInProgress := false, inCallback := false }.processQueue

/-- After a clear the task at the head of the queue is stored. -/
def handleClear : Storage :=
  let peeked := s.taskQueue.peekNext
  let task := taskAt peeked.1 peeked.2
  { s with taskQueue := peeked.1 }.issue (.store task.storageBlock task.data task.dataLength)

/-- After a load or a store the task leaves the queue, and the callback of a read is called. -/
def handleLast : Storage :=
  let got := s.taskQueue.getNext
  let task := taskAt got.1 got.2
  let removed := { s with taskQueue := got.1 }.note (.removed task)
  if task.operation = operationRead then
    { removed.note (.called task.callback) with inCallback := true }
  else removed.proceed

def pstorageEventHandler (operation : FlashOperation) (success : Bool) : Storage :=
  match operation, success with
  | .clear _, true => s.handleClear
  | .store _ _ _, true => s.handleLast
  | .load _ _ _, true => s.handleLast
  | _, false => s.proceed

/-- `pstorage` completes an operation and reports it. -/
def complete (operation : FlashOperation) (success : Bool) : Storage :=
  ({ s with outstanding := s.outstanding.erase operation }.note
    (.completed operation success)).pstorageEventHandler operation success

inductive Event
  | queuedRead (data : U32) (dataLength : U16) (blockId callback : U32)
  | queuedWrite (data : U32) (dataLength : U16) (blockId callback : U32)
  | completed (operation : FlashOperation) (success : Bool)
  | returned

def apply : Event → Storage
  | .queuedRead data dataLength blockId callback => s.queuedRead data dataLength blockId callback
  | .queuedWrite data dataLength blockId callback => s.queuedWrite data dataLength blockId callback
  | .completed operation success => s.complete operation success
  | .returned => s.proceed

/-- The task that an event requests. -/
def Event.task : Event → Option TaskItem
  | .queuedRead data dataLength blockId callback =>
      some ⟨operationRead, dataLength, blockId, data, callback⟩
  | .queuedWrite data dataLength blockId callback =>
      some ⟨operationWrite, dataLength, blockId, data, callback⟩
  | .completed _ _ => none
  | .returned => none

/-- What can happen, at any time: requests, the completion of an operation that is outstanding,
and the return of a callback that has been called. -/
def CanHappen : Event → Prop
  | .queuedRead .. => True
  | .queuedWrite .. => True
  | .completed operation _ => operation ∈ s.outstanding
  | .returned => s.inCallback = true

/-- There is room for what the event requests. -/
def Stores (event : Event) : Prop :=
  ∀ task, event.task = some task → (s.taskQueue.putString task.bytes).2 = true

end Storage

end FruityMesh
