import FruityMesh.Storage

/-!
# How the storage executes its tasks

The task queue takes 20 bytes for each task, so its pointers are multiples of 20 and the tasks
fit into the buffer with the end of their run whenever `Put` accepts them (`Keeps.put`): it is a
FIFO queue of tasks.

On top of it, `Failed`, `Executing` and `Executed` say what the log of a task looks like, and
`Working` is the invariant: the log is made up of executions of the tasks in the order of their
requests.
-/

namespace FruityMesh

open Cells RecordRing

/-! ## The queue of tasks -/

/-- The queue keeps these tasks, oldest first. -/
structure Keeps (q : SimpleQueue) (tasks : List TaskItem) : Prop where
  represents : SimpleQueue.Represents q (tasks.map TaskItem.bytes)
  size : q.bufferEnd = taskBufferLength
  readPointer : ∃ a, q.readPointer = 20 * a
  writePointer : ∃ b, q.writePointer = 20 * b
  /-- The tasks stand between the pointers; when the writer turns it leaves 140 bytes behind. -/
  between : (q.readPointer ≤ q.writePointer → q.writePointer = q.readPointer + 20 * tasks.length) ∧
    (q.writePointer < q.readPointer → q.writePointer + 140 = q.readPointer + 20 * tasks.length)

namespace Keeps

variable {q : SimpleQueue} {tasks : List TaskItem} {task : TaskItem}

theorem new (memory : ℕ → U8) :
    Keeps (SimpleQueue.new memory (BitVec.ofNat 32 taskBufferLength)) [] where
  represents := SimpleQueue.represents_new memory (by decide) (by decide)
  size := rfl
  readPointer := ⟨0, rfl⟩
  writePointer := ⟨0, rfl⟩
  between := ⟨fun _ => rfl, fun hlt => absurd hlt (Nat.lt_irrefl _)⟩

/-- There is room for one more task: at the end of the buffer or in front of the oldest one. -/
def HasRoom (q : SimpleQueue) : Prop :=
  (q.readPointer ≤ q.writePointer → q.writePointer ≤ 120 ∨ 40 ≤ q.readPointer) ∧
    (q.writePointer < q.readPointer → q.writePointer + 40 ≤ q.readPointer)

instance (q : SimpleQueue) : Decidable (HasRoom q) := inferInstanceAs (Decidable (_ ∧ _))

/-- The space that tasks take in the buffer. -/
theorem length_run (tasks : List TaskItem) :
    (run SimpleQueue.record (tasks.map TaskItem.bytes)).length = 20 * tasks.length := by
  induction tasks with
  | nil => rfl
  | cons task rest ih =>
      rw [List.map_cons, run_cons, List.length_append, ih, SimpleQueue.length_record,
        TaskItem.length_bytes, List.length_cons]
      omega

theorem writePointer_le (h : Keeps q tasks) : q.writePointer ≤ 140 := by
  have hle := h.represents.layout
  have hsize := h.size
  obtain ⟨b, hb⟩ := h.writePointer
  unfold taskBufferLength sizeofTaskItem at hsize
  cases hle with
  | straight hwrite hend hrun => omega
  | turned front back _ _ hwrite hlt _ _ hend _ _ => omega

theorem readPointer_le (h : Keeps q tasks) : q.readPointer ≤ 140 := by
  have hle := h.represents.layout
  have hsize := h.size
  obtain ⟨a, ha⟩ := h.readPointer
  unfold taskBufferLength sizeofTaskItem at hsize
  cases hle with
  | straight hwrite hend hrun => omega
  | turned front back _ _ hwrite hlt _ _ hend _ _ => omega

theorem turns_iff (h : Keeps q tasks) (task : TaskItem) : q.Turns (SimpleQueue.stringSize task.bytes) ↔
    q.readPointer ≤ q.writePointer ∧ 139 ≤ q.writePointer ∧ 21 ≤ q.readPointer := by
  have hsize := h.size
  unfold taskBufferLength sizeofTaskItem at hsize
  have hturns := h.represents.turns_iff (n := 16) (by decide)
  rw [SimpleQueue.stringSize, TaskItem.length_bytes, hturns, hsize]
  omega

/-- The tests of `Put` let a task in exactly if there is room. -/
theorem accepts_iff (h : Keeps q tasks) (task : TaskItem) : q.Accepts task.bytes ↔ HasRoom q := by
  have hsize := h.size
  have hwrite := h.writePointer_le
  have hread := h.readPointer_le
  have hturns := h.turns_iff task
  have helement : (SimpleQueue.stringSize task.bytes).toNat = 21 := by
    rw [SimpleQueue.stringSize, TaskItem.length_bytes]
    rfl
  obtain ⟨a, ha⟩ := h.readPointer
  obtain ⟨b, hb⟩ := h.writePointer
  unfold taskBufferLength sizeofTaskItem at hsize
  unfold SimpleQueue.Accepts HasRoom
  rw [hturns, SimpleQueue.OverrunsEnd, SimpleQueue.OverrunsReader, helement, hsize]
  omega

/-- What is accepted fits. -/
theorem putFits (h : Keeps q tasks) (haccepts : q.Accepts task.bytes) :
    q.PutFits task.bytes := by
  have hsize := h.size
  have hwrite := h.writePointer_le
  have hturns := h.turns_iff task
  have hroom := (h.accepts_iff task).mp haccepts
  obtain ⟨a, ha⟩ := h.readPointer
  obtain ⟨b, hb⟩ := h.writePointer
  unfold taskBufferLength sizeofTaskItem at hsize
  unfold HasRoom at hroom
  constructor
  · rw [TaskItem.length_bytes]
    decide
  · intro hnot hle
    rw [hturns] at hnot
    rw [TaskItem.length_bytes, hsize]
    omega
  · intro hturn _
    rw [hturns] at hturn
    rw [TaskItem.length_bytes]
    omega
  · intro _ hmem
    rw [h.represents.contents_eq, List.mem_map] at hmem
    obtain ⟨other, _, hnil⟩ := hmem
    have hlength := other.length_bytes
    rw [hnil] at hlength
    exact absurd hlength (by decide)
  · intro hlt _
    rw [TaskItem.length_bytes]
    omega

/-- Where the pointers are when a task has been stored. -/
theorem pointers_put (hstored : (q.putString task.bytes).2 = true) :
    (q.putString task.bytes).1.bufferEnd = q.bufferEnd ∧
      (q.putString task.bytes).1.readPointer = q.readPointer ∧
      (q.putString task.bytes).1.writePointer =
        if q.Turns (SimpleQueue.stringSize task.bytes) then 20 else q.writePointer + 20 := by
  have hlength : (BitVec.ofNat 32 task.bytes.length + 4 : U32).toNat = 20 := by
    rw [TaskItem.length_bytes]
    rfl
  unfold SimpleQueue.putString SimpleQueue.put at hstored ⊢
  split_ifs at hstored ⊢
  · exact ⟨rfl, rfl, by simp only [SimpleQueue.writeElement, hlength]⟩
  · exact ⟨rfl, rfl, by simp only [SimpleQueue.writeElement, hlength]⟩

/-- A task that is stored stands behind the others. -/
theorem put (h : Keeps q tasks) (hstored : (q.putString task.bytes).2 = true) :
    Keeps (q.putString task.bytes).1 (tasks ++ [task]) := by
  have haccepts : q.Accepts task.bytes := by
    by_contra hnot
    rw [SimpleQueue.put_refused hnot] at hstored
    exact absurd hstored (by simp)
  obtain ⟨_, hrep, _⟩ := h.represents.put_accepted haccepts (h.putFits haccepts)
  obtain ⟨hsize, hread, hwrite⟩ := pointers_put hstored
  obtain ⟨b, hb⟩ := h.writePointer
  obtain ⟨hstraight, hturned⟩ := h.between
  have hle := h.writePointer_le
  have hturns := h.turns_iff task
  have hroom := (h.accepts_iff task).mp haccepts
  unfold HasRoom at hroom
  refine ⟨by rwa [List.map_append, List.map_singleton], hsize.trans h.size, hread ▸ h.readPointer,
    ?_, ?_⟩
  · rw [hwrite]
    split_ifs
    · exact ⟨1, rfl⟩
    · exact ⟨b + 1, by rw [hb]; omega⟩
  · rw [hwrite, hread, List.length_append, List.length_singleton]
    split_ifs with hturn
    · rw [hturns] at hturn
      omega
    · rw [hturns] at hturn
      omega

theorem put_iff (h : Keeps q tasks) (task : TaskItem) : (q.putString task.bytes).2 = true ↔ HasRoom q := by
  rw [← h.accepts_iff task]
  constructor
  · intro hstored
    by_contra hnot
    rw [SimpleQueue.put_refused hnot] at hstored
    exact absurd hstored (by simp)
  · intro haccepts
    exact (h.represents.put_accepted haccepts (h.putFits haccepts)).1

/-- Otherwise nothing happens. -/
theorem put_refused (h : Keeps q tasks) (hrefused : (q.putString task.bytes).2 = false) :
    (q.putString task.bytes).1 = q := by
  have hnot : ¬ q.Accepts task.bytes := by
    rw [h.accepts_iff, ← h.put_iff task, hrefused]
    exact Bool.false_ne_true
  rw [SimpleQueue.put_refused hnot]

theorem empty_iff (h : Keeps q tasks) : q.numElements.toNat < 1 ↔ tasks = [] := by
  rw [h.represents.count, List.length_map]
  cases tasks <;> simp

/-- `GetNext` removes the oldest task. -/
theorem getNext (h : Keeps q (task :: tasks)) :
    Keeps q.getNext.1 tasks ∧ Storage.taskAt q.getNext.1 q.getNext.2 = task := by
  have hrep := h.represents
  rw [List.map_cons] at hrep
  obtain ⟨hresult, hcell, hwrite, hread, hrest⟩ := hrep.getNext_cons
  obtain ⟨_, hholds, hlayout, hstart⟩ := hrep.readStart_spec
  obtain ⟨a, ha⟩ := h.readPointer
  rw [TaskItem.length_bytes] at hread
  refine ⟨⟨hrest, ?_, ?_, hwrite ▸ h.writePointer, ?_⟩, ?_⟩
  · rw [← h.size]
    unfold SimpleQueue.getNext
    split_ifs <;> rfl
  · rcases hstart with ⟨hhere, _⟩ | ⟨hzero, _⟩
    · exact ⟨a + 1, by rw [hread, hhere, ha]; omega⟩
    · exact ⟨1, by rw [hread, hzero]⟩
  · obtain ⟨hstraight, hturned⟩ := h.between
    rw [List.length_cons] at hstraight hturned
    rw [hread, hwrite]
    rcases hstart with ⟨hhere, _⟩ | ⟨hzero, hlt, _, hback⟩
    · rw [hhere]
      omega
    · -- the reader has turned, too
      have hwhole : q.writePointer = 20 + 20 * tasks.length := by
        rw [hzero] at hlayout
        cases hlayout with
        | straight hend _ _ =>
            rw [length_run] at hend
            rw [← hend, TaskItem.length_bytes]
        | turned front back _ _ _ hbefore _ _ _ _ _ =>
            rw [TaskItem.length_bytes] at hback hbefore
            omega
      rw [hzero]
      omega
  · rw [hresult, Storage.taskAt, hcell]
    exact TaskItem.ofMemory_eq hholds

/-- `PeekNext` only shows it. -/
theorem peekNext (h : Keeps q (task :: tasks)) :
    Keeps q.peekNext.1 (task :: tasks) ∧ Storage.taskAt q.peekNext.1 q.peekNext.2 = task := by
  have hrep := h.represents
  rw [List.map_cons] at hrep
  have hne := hrep.numElements_ne_zero
  obtain ⟨hsame, _, hpeek⟩ := hrep.peekNext_cons
  have hpeeked : q.peekNext.1 =
      { q with memory := (q.memory.load q.readPointer 4).load q.readStart 4 } := by
    rw [SimpleQueue.peekNext, if_neg hne]
  refine ⟨⟨by rwa [List.map_cons], ?_, ?_, ?_, ?_⟩, ?_⟩
  · rw [hpeeked]
    exact h.size
  · rw [hpeeked]
    exact h.readPointer
  · rw [hpeeked]
    exact h.writePointer
  · rw [hpeeked]
    exact h.between
  · rw [← h.getNext.2, hsame, Storage.taskAt, Storage.taskAt, hpeeked, hrep.getNext_cons.2.1]
    rfl

end Keeps

/-! ## What is read from the log -/

namespace StorageEntry

def isWork : StorageEntry → Bool
  | .requested _ _ => false
  | .issued _ => true
  | .completed _ _ => true
  | .removed _ => true
  | .called _ => true

def request : StorageEntry → Option TaskItem
  | .requested task _ => some task
  | .issued _ => none
  | .completed _ _ => none
  | .removed _ => none
  | .called _ => none

def accepted : StorageEntry → Option TaskItem
  | .requested task stored => if stored then some task else none
  | .issued _ => none
  | .completed _ _ => none
  | .removed _ => none
  | .called _ => none

def gone : StorageEntry → Option TaskItem
  | .requested _ _ => none
  | .issued _ => none
  | .completed _ _ => none
  | .removed task => some task
  | .called _ => none

end StorageEntry

namespace Storage

/-- The log without the requests. -/
def work (log : List StorageEntry) : List StorageEntry := log.filter StorageEntry.isWork

/-- The tasks that have been requested. -/
def requests (log : List StorageEntry) : List TaskItem := log.filterMap StorageEntry.request

/-- The tasks that have been stored in the queue. -/
def accepted (log : List StorageEntry) : List TaskItem := log.filterMap StorageEntry.accepted

/-- The tasks that have left the queue. -/
def removed (log : List StorageEntry) : List TaskItem := log.filterMap StorageEntry.gone

@[simp] theorem work_append (log more : List StorageEntry) :
    work (log ++ more) = work log ++ work more := List.filter_append ..

@[simp] theorem accepted_append (log more : List StorageEntry) :
    accepted (log ++ more) = accepted log ++ accepted more := List.filterMap_append ..

@[simp] theorem removed_append (log more : List StorageEntry) :
    removed (log ++ more) = removed log ++ removed more := List.filterMap_append ..

end Storage

/-! ## What the log of a task looks like -/

namespace TaskItem

variable (task : TaskItem)

/-- The operation that the task begins with. -/
def first : FlashOperation :=
  if task.operation = operationRead then .load task.data task.storageBlock task.dataLength
  else .clear task.storageBlock

/-- The operation that ends a write. -/
def last : FlashOperation := .store task.storageBlock task.data task.dataLength

def IsRequest : Prop := task.operation = operationRead ∨ task.operation = operationWrite

end TaskItem

namespace Storage

/-- Attempts at a task that have all failed: the first operation, or the store that follows a
clear. -/
inductive Failed (task : TaskItem) : List StorageEntry → Prop
  | nil : Failed task []
  | first {entries : List StorageEntry} (h : Failed task entries) :
      Failed task (entries ++ [.issued task.first, .completed task.first false])
  | last {entries : List StorageEntry} (h : Failed task entries)
      (hwrite : task.operation = operationWrite) :
      Failed task (entries ++ [.issued task.first, .completed task.first true,
        .issued task.last, .completed task.last false])

/-- A task that is executed, with the operation that is outstanding. -/
inductive Executing (task : TaskItem) : List StorageEntry → List FlashOperation → Prop
  | waiting : Executing task [] []
  | first {entries : List StorageEntry} (h : Failed task entries) :
      Executing task (entries ++ [.issued task.first]) [task.first]
  | last {entries : List StorageEntry} (h : Failed task entries)
      (hwrite : task.operation = operationWrite) :
      Executing task (entries ++ [.issued task.first, .completed task.first true,
        .issued task.last]) [task.last]

/-- A task that has been executed, with the callback of a read. -/
inductive Executed (task : TaskItem) : List StorageEntry → Prop
  | read {entries : List StorageEntry} (h : Failed task entries)
      (hread : task.operation = operationRead) :
      Executed task (entries ++ [.issued task.first, .completed task.first true, .removed task,
        .called task.callback])
  | write {entries : List StorageEntry} (h : Failed task entries)
      (hwrite : task.operation = operationWrite) :
      Executed task (entries ++ [.issued task.first, .completed task.first true,
        .issued task.last, .completed task.last true, .removed task])

/-! ## The invariant -/

/-- The log is made up of the executions of the tasks that have left the queue and a part of
one for the task at its head; those in the queue are the ones that have been stored later. -/
structure Working (s : Storage) (tasks : List TaskItem) (current : List StorageEntry) : Prop where
  keeps : Keeps s.taskQueue tasks
  isRequest : ∀ task ∈ tasks, task.IsRequest
  accepted : accepted s.log = removed s.log ++ tasks
  history : ∃ runs, List.Forall₂ Executed (removed s.log) runs ∧
    work s.log = runs.flatten ++ current

/-- What the storage is doing. -/
inductive Sound (s : Storage) (tasks : List TaskItem) : Prop
  | idle (h : Working s tasks []) (hempty : tasks = []) (houtstanding : s.outstanding = [])
      (hprogress : s.bufferedOperationInProgress = false) (hcallback : s.inCallback = false)
  | callback (h : Working s tasks []) (houtstanding : s.outstanding = [])
      (hprogress : s.bufferedOperationInProgress = true) (hcallback : s.inCallback = true)
  | busy (head : TaskItem) (rest : List TaskItem) (current : List StorageEntry)
      (htasks : tasks = head :: rest) (h : Working s tasks current)
      (hcurrent : Executing head current s.outstanding) (houtstanding : s.outstanding ≠ [])
      (hprogress : s.bufferedOperationInProgress = true) (hcallback : s.inCallback = false)

variable {s : Storage} {tasks rest : List TaskItem} {current : List StorageEntry}
  {head task : TaskItem}

theorem sound_new (memory : ℕ → U8) : Sound (new memory) [] := by
  refine .idle ⟨Keeps.new memory, ?_, rfl, [], List.Forall₂.nil, rfl⟩ rfl rfl rfl rfl
  exact fun _ hmem => absurd hmem List.not_mem_nil

/-- One more entry about the task that is executed. -/
theorem Working.noted (h : Working s tasks current) {s' : Storage} (entries : List StorageEntry)
    (hkeeps : Keeps s'.taskQueue tasks) (hlog : s'.log = s.log ++ entries)
    (hwork : work entries = entries) (haccepted : Storage.accepted entries = [])
    (hremoved : removed entries = []) : Working s' tasks (current ++ entries) where
  keeps := hkeeps
  isRequest := h.isRequest
  accepted := by
    rw [hlog, accepted_append, removed_append, haccepted, hremoved, List.append_nil,
      List.append_nil, h.accepted]
  history := by
    obtain ⟨runs, hruns, hhistory⟩ := h.history
    refine ⟨runs, ?_, ?_⟩
    · rwa [hlog, removed_append, hremoved, List.append_nil]
    · rw [hlog, work_append, hwork, hhistory, List.append_assoc]

/-- The first task is finished. -/
theorem Working.finished (h : Working s (head :: rest) current) {s' : Storage}
    (entries : List StorageEntry) (hkeeps : Keeps s'.taskQueue rest)
    (hlog : s'.log = s.log ++ entries) (hwork : work entries = entries)
    (haccepted : Storage.accepted entries = []) (hremoved : removed entries = [head])
    (hexecuted : Executed head (current ++ entries)) : Working s' rest [] where
  keeps := hkeeps
  isRequest := fun task hmem => h.isRequest task (List.mem_cons_of_mem _ hmem)
  accepted := by
    rw [hlog, accepted_append, removed_append, haccepted, hremoved, List.append_nil, h.accepted,
      List.append_assoc, List.singleton_append]
  history := by
    obtain ⟨runs, hruns, hhistory⟩ := h.history
    refine ⟨runs ++ [current ++ entries], ?_, ?_⟩
    · rw [hlog, removed_append, hremoved]
      exact List.rel_append hruns (List.Forall₂.cons hexecuted List.Forall₂.nil)
    · rw [hlog, work_append, hwork, hhistory, List.flatten_append, List.flatten_singleton,
        List.append_assoc, List.append_nil]

/-- A task that is requested goes behind the others, or is lost. -/
theorem Working.requested (h : Working s tasks current) (hrequest : task.IsRequest) {s' : Storage}
    (hqueue : s'.taskQueue = (s.taskQueue.putString task.bytes).1)
    (hlog : s'.log = s.log ++ [.requested task (s.taskQueue.putString task.bytes).2]) :
    Working s' (if (s.taskQueue.putString task.bytes).2 then tasks ++ [task] else tasks)
      current where
  keeps := by
    rw [hqueue]
    split_ifs with hstored
    · exact h.keeps.put hstored
    · rw [h.keeps.put_refused (by simpa using hstored)]
      exact h.keeps
  isRequest := by
    intro other hmem
    split_ifs at hmem
    · rcases List.mem_append.mp hmem with hold | hnew
      · exact h.isRequest other hold
      · rwa [List.mem_singleton.mp hnew]
    · exact h.isRequest other hmem
  accepted := by
    rw [hlog, accepted_append, removed_append, h.accepted]
    cases (s.taskQueue.putString task.bytes).2 <;>
      simp [Storage.accepted, removed, StorageEntry.accepted, StorageEntry.gone]
  history := by
    obtain ⟨runs, hruns, hhistory⟩ := h.history
    refine ⟨runs, ?_, ?_⟩
    · have hnone : removed [.requested task (s.taskQueue.putString task.bytes).2] = [] := rfl
      rwa [hlog, removed_append, hnone, List.append_nil]
    · have hnone : work [.requested task (s.taskQueue.putString task.bytes).2] = [] := rfl
      rw [hlog, work_append, hnone, List.append_nil, hhistory]

/-! ### `ProcessQueue` -/

theorem processQueue_busy (h : s.bufferedOperationInProgress = true) : s.processQueue = s := by
  rw [processQueue, if_pos (Or.inl h)]

/-- The first task begins. -/
theorem processQueue_cons (h : Keeps s.taskQueue (head :: rest)) (hrequest : head.IsRequest)
    (hprogress : s.bufferedOperationInProgress = false) :
    s.processQueue =
      { s with taskQueue := s.taskQueue.peekNext.1, bufferedOperationInProgress := true }.issue
        head.first := by
  have hsome : ¬ (s.bufferedOperationInProgress = true ∨ s.taskQueue.numElements.toNat < 1) := by
    rw [hprogress, h.empty_iff]
    simp
  unfold processQueue TaskItem.first
  rw [if_neg hsome]
  dsimp only
  rw [h.peekNext.2]
  rcases hrequest with hread | hwrite
  · rw [if_pos hread, if_pos hread]
    rfl
  · have hother : head.operation ≠ operationRead := by
      rw [hwrite]
      decide
    rw [if_neg hother, if_pos hwrite, if_neg hother]
    rfl

/-- The next task begins, or another attempt at the same one. -/
theorem Working.processQueue (h : Working s tasks current) (houtstanding : s.outstanding = [])
    (hprogress : s.bufferedOperationInProgress = false) (hcallback : s.inCallback = false)
    (hattempts : (tasks = [] → current = []) ∧ ∀ head rest, tasks = head :: rest →
      Failed head current) : Sound s.processQueue tasks := by
  have hkeeps := h.keeps
  cases tasks with
  | nil =>
      have hnone : s.processQueue = s := if_pos (Or.inr (hkeeps.empty_iff.mpr rfl))
      rw [hattempts.1 rfl] at h
      rw [hnone]
      exact .idle h rfl houtstanding hprogress hcallback
  | cons head rest =>
      rw [processQueue_cons hkeeps (h.isRequest head List.mem_cons_self) hprogress]
      refine .busy head rest _ rfl (h.noted [.issued head.first] hkeeps.peekNext.1 rfl rfl rfl rfl) ?_ ?_ rfl hcallback
      · show Executing head _ (s.outstanding ++ [head.first])
        rw [houtstanding]
        exact .first (hattempts.2 head rest rfl)
      · exact List.append_ne_nil_of_right_ne_nil _ (List.cons_ne_nil _ _)

theorem Working.proceed (h : Working s tasks current) (houtstanding : s.outstanding = [])
    (hattempts : (tasks = [] → current = []) ∧ ∀ head rest, tasks = head :: rest →
      Failed head current) : Sound s.proceed tasks :=
  Working.processQueue ⟨h.keeps, h.isRequest, h.accepted, h.history⟩ houtstanding rfl rfl hattempts

/-! ### The steps -/

theorem Sound.request (h : Sound s tasks) (hrequest : task.IsRequest) :
    Sound (s.request task)
      (if (s.taskQueue.putString task.bytes).2 then tasks ++ [task] else tasks) := by
  have hput : ∀ {current}, Working s tasks current → Working (s.put task)
      (if (s.taskQueue.putString task.bytes).2 then tasks ++ [task] else tasks) current :=
    fun h => h.requested hrequest rfl rfl
  cases h with
  | idle h hempty houtstanding hprogress hcallback =>
      refine (hput h).processQueue houtstanding hprogress hcallback ⟨fun _ => rfl, ?_⟩
      exact fun _ _ _ => .nil
  | callback h houtstanding hprogress hcallback =>
      rw [Storage.request, processQueue_busy (s := s.put task) hprogress]
      exact .callback (hput h) houtstanding hprogress hcallback
  -- a new task never is the head while another one is executed
  | busy head rest current htasks h hcurrent houtstanding hprogress hcallback =>
      have hmore := hput h
      rw [Storage.request, processQueue_busy (s := s.put task) hprogress]
      split_ifs at hmore ⊢
      · exact .busy head (rest ++ [task]) current (by rw [htasks, List.cons_append]) hmore hcurrent
          houtstanding hprogress hcallback
      · exact .busy head rest current htasks hmore hcurrent houtstanding hprogress hcallback

/-- The state in which `PstorageEventHandler` is called. -/
def reported (s : Storage) (operation : FlashOperation) (success : Bool) : Storage :=
  { s with outstanding := s.outstanding.erase operation }.note (.completed operation success)

theorem Working.reported (h : Working s tasks current) (operation : FlashOperation)
    (success : Bool) :
    Working (s.reported operation success) tasks (current ++ [.completed operation success]) :=
  h.noted [.completed operation success] h.keeps rfl rfl rfl rfl

theorem reported_outstanding {operation : FlashOperation} (houtstanding : s.outstanding = [operation])
    (success : Bool) : (s.reported operation success).outstanding = [] := by
  show s.outstanding.erase operation = []
  rw [houtstanding, List.erase_cons_head]

/-- A task whose operation has failed starts again. -/
theorem Working.failed (h : Working s (head :: rest) current) {operation : FlashOperation}
    (houtstanding : s.outstanding = [operation])
    (hfailed : Failed head (current ++ [.completed operation false])) :
    Sound (s.complete operation false) (head :: rest) := by
  have hproceed : s.complete operation false = (s.reported operation false).proceed := by
    cases operation <;> rfl
  rw [hproceed]
  refine (h.reported operation false).proceed (reported_outstanding houtstanding false)
    ⟨fun hnil => absurd hnil (List.cons_ne_nil _ _), ?_⟩
  intro other rest' heq
  rw [← (List.cons.inj heq).1]
  exact hfailed

/-- After the clear of a write its data is stored. -/
theorem Working.cleared {attempts : List StorageEntry}
    (h : Working s (head :: rest) (attempts ++ [.issued head.first]))
    (hattempts : Failed head attempts) (hwrite : head.operation = operationWrite)
    (houtstanding : s.outstanding = [head.first])
    (hprogress : s.bufferedOperationInProgress = true) (hcallback : s.inCallback = false) :
    Sound (s.complete head.first true) (head :: rest) := by
  have hfirst : head.first = .clear head.storageBlock := by
    refine if_neg ?_
    rw [hwrite]
    decide
  have hstored : s.complete head.first true =
      ({ s.reported head.first true with taskQueue := s.taskQueue.peekNext.1 }.issue head.last) := by
    rw [hfirst]
    show Storage.handleClear (s.reported (.clear head.storageBlock) true) = _
    unfold Storage.handleClear
    dsimp only
    have hhead : taskAt (s.reported (.clear head.storageBlock) true).taskQueue.peekNext.1
        (s.reported (.clear head.storageBlock) true).taskQueue.peekNext.2 = head := h.keeps.peekNext.2
    rw [hhead]
    rfl
  rw [hstored]
  refine .busy head rest _ rfl ((h.reported head.first true).noted [.issued head.last]
    h.keeps.peekNext.1 rfl rfl rfl rfl) ?_ ?_ hprogress hcallback
  · show Executing head _ ((s.reported head.first true).outstanding ++ [head.last])
    rw [reported_outstanding houtstanding, List.append_assoc, List.append_assoc]
    exact .last hattempts hwrite
  · exact List.append_ne_nil_of_right_ne_nil _ (List.cons_ne_nil _ _)

/-- After the load of a read the task leaves the queue, and its callback is called. -/
theorem Working.loaded {attempts : List StorageEntry}
    (h : Working s (head :: rest) (attempts ++ [.issued head.first]))
    (hattempts : Failed head attempts) (hread : head.operation = operationRead)
    (houtstanding : s.outstanding = [head.first])
    (hprogress : s.bufferedOperationInProgress = true) :
    Sound (s.complete head.first true) rest := by
  have hfirst : head.first = .load head.data head.storageBlock head.dataLength := if_pos hread
  have hcalled : s.complete head.first true =
      { ({ s.reported head.first true with taskQueue := s.taskQueue.getNext.1 }.note
        (.removed head)).note (.called head.callback) with inCallback := true } := by
    rw [hfirst]
    show Storage.handleLast
      (s.reported (.load head.data head.storageBlock head.dataLength) true) = _
    unfold Storage.handleLast
    dsimp only
    have hhead : taskAt
        (s.reported (.load head.data head.storageBlock head.dataLength) true).taskQueue.getNext.1
        (s.reported (.load head.data head.storageBlock head.dataLength) true).taskQueue.getNext.2 =
        head := h.keeps.getNext.2
    rw [hhead, if_pos hread]
    rfl
  rw [hcalled]
  refine .callback ((h.reported head.first true).finished
    [.removed head, .called head.callback] h.keeps.getNext.1 ?_ rfl rfl rfl ?_)
    (reported_outstanding houtstanding true) hprogress rfl
  · exact List.append_assoc _ _ _
  · rw [List.append_assoc, List.append_assoc]
    exact .read hattempts hread

/-- After the store of a write the task leaves the queue, and the storage goes on. -/
theorem Working.stored {attempts : List StorageEntry}
    (h : Working s (head :: rest) (attempts ++ [.issued head.first, .completed head.first true,
      .issued head.last]))
    (hattempts : Failed head attempts) (hwrite : head.operation = operationWrite)
    (houtstanding : s.outstanding = [head.last]) : Sound (s.complete head.last true) rest := by
  have hother : head.operation ≠ operationRead := by
    rw [hwrite]
    decide
  have hremoved : s.complete head.last true =
      Storage.proceed ({ s.reported head.last true with taskQueue := s.taskQueue.getNext.1 }.note
        (.removed head)) := by
    show Storage.handleLast (s.reported head.last true) = _
    unfold Storage.handleLast
    dsimp only
    have hhead : taskAt (s.reported head.last true).taskQueue.getNext.1
        (s.reported head.last true).taskQueue.getNext.2 = head := h.keeps.getNext.2
    rw [hhead, if_neg hother]
    rfl
  rw [hremoved]
  refine Working.proceed ((h.reported head.last true).finished [.removed head]
    h.keeps.getNext.1 rfl rfl rfl rfl ?_) (reported_outstanding houtstanding true)
    ⟨fun _ => rfl, fun _ _ _ => .nil⟩
  rw [List.append_assoc, List.append_assoc]
  exact .write hattempts hwrite

theorem Sound.complete (h : Sound s tasks) {operation : FlashOperation} {success : Bool}
    (hcan : operation ∈ s.outstanding) : ∃ tasks', Sound (s.complete operation success) tasks' := by
  cases h with
  | idle h hempty houtstanding hprogress hcallback =>
      rw [houtstanding] at hcan
      exact absurd hcan List.not_mem_nil
  | callback h houtstanding hprogress hcallback =>
      rw [houtstanding] at hcan
      exact absurd hcan List.not_mem_nil
  | busy head rest current htasks h hcurrent houtstanding hprogress hcallback =>
      subst htasks
      generalize hoperations : s.outstanding = operations at hcurrent
      -- what is outstanding says how far the head is; when either operation fails, it starts again
      cases hcurrent with
      | waiting => exact absurd hoperations houtstanding
      | first hattempts =>
          rw [hoperations, List.mem_singleton] at hcan
          subst hcan
          cases success with
          | false => exact ⟨_, h.failed hoperations (by
              rw [List.append_assoc]
              exact .first hattempts)⟩
          | true =>
              rcases h.isRequest head List.mem_cons_self with hread | hwrite
              · exact ⟨_, h.loaded hattempts hread hoperations hprogress⟩
              · exact ⟨_, h.cleared hattempts hwrite hoperations hprogress hcallback⟩
      | last hattempts hwrite =>
          rw [hoperations, List.mem_singleton] at hcan
          subst hcan
          cases success with
          | false => exact ⟨_, h.failed hoperations (by
              rw [List.append_assoc]
              exact .last hattempts hwrite)⟩
          | true => exact ⟨_, h.stored hattempts hwrite hoperations⟩

theorem Sound.returned (h : Sound s tasks) (hcan : s.inCallback = true) : Sound s.proceed tasks := by
  cases h with
  | idle h hempty houtstanding hprogress hcallback =>
      rw [hcallback] at hcan
      exact absurd hcan Bool.false_ne_true
  | callback h houtstanding hprogress hcallback =>
      exact h.proceed houtstanding ⟨fun _ => rfl, fun _ _ _ => .nil⟩
  | busy head rest current htasks h hcurrent houtstanding hprogress hcallback =>
      rw [hcallback] at hcan
      exact absurd hcan Bool.false_ne_true

theorem Sound.apply (h : Sound s tasks) {event : Event} (hcan : s.CanHappen event) :
    ∃ tasks', Sound (s.apply event) tasks' := by
  cases event with
  | queuedRead data dataLength blockId callback => exact ⟨_, h.request (Or.inl rfl)⟩
  | queuedWrite data dataLength blockId callback => exact ⟨_, h.request (Or.inr rfl)⟩
  | completed operation success => exact h.complete hcan
  | returned => exact ⟨_, h.returned hcan⟩

theorem sound_run {memory : ℕ → U8} {events : List Event}
    (hrun : Runs.Run apply CanHappen (new memory) events s) : ∃ tasks, Sound s tasks := by
  induction hrun with
  | nil => exact ⟨[], sound_new memory⟩
  | step _ event hcan ih =>
      obtain ⟨tasks, h⟩ := ih
      exact h.apply hcan

/-- **The storage executes its tasks one after the other.**  In every state at most one operation
is outstanding, and it belongs to the task at the head of the queue.  The tasks that have been
stored are those that have left the queue, followed by those that are in it; and the log is made
up of one execution for each task that has left, in this order, and a part of one for the head. -/
theorem storage_executes {memory : ℕ → U8} {events : List Event}
    (hrun : Runs.Run apply CanHappen (new memory) events s) : ∃ tasks,
    s.taskQueue.contents = tasks.map TaskItem.bytes ∧
    accepted s.log = removed s.log ++ tasks ∧
    (s.outstanding = [] ∨ ∃ head rest operation, tasks = head :: rest ∧
      s.outstanding = [operation] ∧
      (operation = head.first ∨ head.operation = operationWrite ∧ operation = head.last)) ∧
    (∃ runs current, List.Forall₂ Executed (removed s.log) runs ∧
      work s.log = runs.flatten ++ current ∧ (tasks = [] → current = []) ∧
      ∀ head rest, tasks = head :: rest → Executing head current s.outstanding) ∧
    (tasks ≠ [] → s.inCallback = false → s.outstanding ≠ []) := by
  obtain ⟨tasks, h⟩ := sound_run hrun
  refine ⟨tasks, ?_⟩
  cases h with
  | idle h hempty houtstanding hprogress hcallback =>
      obtain ⟨runs, hruns, hhistory⟩ := h.history
      refine ⟨h.keeps.represents.contents_eq, h.accepted, Or.inl houtstanding,
        ⟨runs, [], hruns, hhistory, fun _ => rfl, ?_⟩, fun hne => absurd hempty hne⟩
      intro head rest htasks
      exact absurd (hempty.symm.trans htasks) (List.cons_ne_nil _ _).symm
  | callback h houtstanding hprogress hcallback =>
      obtain ⟨runs, hruns, hhistory⟩ := h.history
      refine ⟨h.keeps.represents.contents_eq, h.accepted, Or.inl houtstanding,
        ⟨runs, [], hruns, hhistory, fun _ => rfl, ?_⟩, ?_⟩
      · intro head rest _
        rw [houtstanding]
        exact .waiting
      · intro _ hno
        rw [hcallback] at hno
        exact absurd hno (by simp)
  | busy head rest current htasks h hcurrent houtstanding hprogress hcallback =>
      obtain ⟨runs, hruns, hhistory⟩ := h.history
      refine ⟨h.keeps.represents.contents_eq, h.accepted, Or.inr ?_,
        ⟨runs, current, hruns, hhistory, ?_, ?_⟩, fun _ _ => houtstanding⟩
      · generalize hoperations : s.outstanding = operations at hcurrent
        cases hcurrent with
        | waiting => exact absurd hoperations houtstanding
        | first hattempts => exact ⟨head, rest, _, htasks, rfl, Or.inl rfl⟩
        | last hattempts hwrite => exact ⟨head, rest, _, htasks, rfl, Or.inr ⟨hwrite, rfl⟩⟩
      · intro hnil
        exact absurd (htasks.symm.trans hnil) (List.cons_ne_nil _ _)
      · intro head' rest' htasks'
        obtain ⟨rfl, _⟩ := List.cons.inj (htasks.symm.trans htasks')
        exact hcurrent

instance (s : Storage) (event : Event) : Decidable (s.CanHappen event) := by
  cases event <;> unfold CanHappen <;> infer_instance

/-- A read whose callback requests a write, the clear of which fails once. -/
def readThenWrite : List Event :=
  [.queuedRead 8192 4 0 77, .completed (.load 8192 0 4) true, .queuedWrite 8196 8 1 78, .returned,
    .completed (.clear 1) false, .completed (.clear 1) true]

theorem storage_executes_readThenWrite :
    let s := readThenWrite.foldl apply (new fun _ => 0)
    ∃ tasks, accepted s.log = removed s.log ++ tasks ∧ tasks ≠ [] ∧
      s.outstanding = [.store 1 8196 8] := by
  intro s
  have hrun : Runs.Run apply CanHappen (new fun _ => 0) readThenWrite s :=
    Runs.Run.of_replays (by decide +kernel)
  obtain ⟨tasks, _, haccepted, houtstanding, _⟩ := storage_executes hrun
  refine ⟨tasks, haccepted, ?_, by decide +kernel⟩
  rintro rfl
  rcases houtstanding with hnone | ⟨head, rest, _, hcons, _⟩
  · exact absurd hnone (by decide +kernel)
  · exact absurd hcons (List.cons_ne_nil _ _).symm

end Storage

end FruityMesh
