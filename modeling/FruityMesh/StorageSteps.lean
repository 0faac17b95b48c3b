import FruityMesh.StorageTasks

/-!
# The storage seen from outside

What the other parts of the program see of `Storage` are the tasks that wait and the operation
that is outstanding.  One completion has four outcomes (`Advances`): an operation that has failed
is followed by another attempt, a load and a store end their task, and the clear of a write is
followed by its store.
-/

namespace FruityMesh.Storage

variable {s : Storage} {tasks rest : List TaskItem} {head task : TaskItem}
  {operation : FlashOperation} {success : Bool}

/-- The tasks that have been stored in the queue and have not left it. -/
def waiting (s : Storage) : List TaskItem := (accepted s.log).drop (removed s.log).length

/-- The operation that the first task begins with. -/
def firstOf (tasks : List TaskItem) : List FlashOperation := (tasks.head?.map TaskItem.first).toList

theorem Sound.working (h : Sound s tasks) : ∃ current, Working s tasks current := by
  cases h with
  | idle h _ _ _ _ => exact ⟨_, h⟩
  | callback h _ _ _ => exact ⟨_, h⟩
  | busy _ _ _ _ h _ _ _ _ => exact ⟨_, h⟩

theorem Sound.waiting_eq (h : Sound s tasks) : s.waiting = tasks := by
  obtain ⟨current, hworking⟩ := h.working
  rw [waiting, hworking.accepted, List.drop_left]

/-- Nothing is outstanding when no task waits. -/
theorem Sound.outstanding_nil (h : Sound s []) : s.outstanding = [] := by
  cases h with
  | idle _ _ houtstanding _ _ => exact houtstanding
  | callback _ houtstanding _ _ => exact houtstanding
  | busy _ _ _ htasks _ _ _ _ _ => exact absurd htasks (List.cons_ne_nil _ _).symm

theorem first_ne_store {block data : U32} {dataLength : U16} :
    head.first ≠ .store block data dataLength := by
  unfold TaskItem.first
  split_ifs <;> exact FlashOperation.noConfusion

theorem first_read (h : head.operation = operationRead) :
    head.first = .load head.data head.storageBlock head.dataLength := if_pos h

theorem first_write (h : head.operation = operationWrite) :
    head.first = .clear head.storageBlock := by
  refine if_neg ?_
  rw [h]
  decide

/-! ## What is outstanding after a step -/

theorem outstanding_processQueue (h : Keeps s.taskQueue tasks)
    (hrequest : ∀ task ∈ tasks, task.IsRequest) (houtstanding : s.outstanding = [])
    (hprogress : s.bufferedOperationInProgress = false) :
    s.processQueue.outstanding = firstOf tasks := by
  cases tasks with
  | nil =>
      rw [processQueue, if_pos (Or.inr (h.empty_iff.mpr rfl)), houtstanding]
      rfl
  | cons head rest =>
      rw [processQueue_cons h (hrequest head List.mem_cons_self) hprogress]
      show s.outstanding ++ [head.first] = [head.first]
      rw [houtstanding, List.nil_append]

theorem Working.outstanding_proceed {current : List StorageEntry} (h : Working s tasks current)
    (houtstanding : s.outstanding = []) : s.proceed.outstanding = firstOf tasks :=
  outstanding_processQueue
    (s := { s with bufferedOperationInProgress := false, inCallback := false }) h.keeps
    h.isRequest houtstanding rfl

/-- A request lets the next task begin, or changes nothing of what is outstanding. -/
theorem Sound.outstanding_request (h : Sound s tasks) (hrequest : task.IsRequest) :
    (s.request task).outstanding = s.outstanding ∨
      s.outstanding = [] ∧ ∃ tasks', (s.request task).outstanding = firstOf tasks' := by
  cases h with
  | idle h _ houtstanding hprogress _ =>
      have hput : Working (s.put task) _ _ := h.requested hrequest rfl rfl
      exact Or.inr ⟨houtstanding, _,
        outstanding_processQueue hput.keeps hput.isRequest houtstanding hprogress⟩
  | callback _ _ hprogress _ =>
      rw [Storage.request, processQueue_busy (s := s.put task) hprogress]
      exact Or.inl rfl
  | busy _ _ _ _ _ _ _ hprogress _ =>
      rw [Storage.request, processQueue_busy (s := s.put task) hprogress]
      exact Or.inl rfl

theorem Sound.outstanding_returned (h : Sound s tasks) (hcallback : s.inCallback = true) :
    s.outstanding = [] ∧ s.proceed.outstanding = firstOf tasks := by
  cases h with
  | idle _ _ _ _ hno => exact absurd (hno.symm.trans hcallback) Bool.false_ne_true
  | callback h houtstanding _ _ => exact ⟨houtstanding, h.outstanding_proceed houtstanding⟩
  | busy _ _ _ _ _ _ _ _ hno => exact absurd (hno.symm.trans hcallback) Bool.false_ne_true

/-! ## A completion -/

/-- What becomes of the tasks when an operation is completed, and what is outstanding then. -/
inductive Advances : List TaskItem → FlashOperation → Bool → List TaskItem →
    List FlashOperation → Prop
  | failed {head : TaskItem} {rest : List TaskItem} {operation : FlashOperation}
      (hoperation : operation = head.first ∨
        head.operation = operationWrite ∧ operation = head.last) :
      Advances (head :: rest) operation false (head :: rest) [head.first]
  | loaded {head : TaskItem} {rest : List TaskItem} (hread : head.operation = operationRead) :
      Advances (head :: rest) head.first true rest []
  | cleared {head : TaskItem} {rest : List TaskItem} (hwrite : head.operation = operationWrite) :
      Advances (head :: rest) head.first true (head :: rest) [head.last]
  | stored {head : TaskItem} {rest : List TaskItem} (hwrite : head.operation = operationWrite) :
      Advances (head :: rest) head.last true rest (firstOf rest)

theorem Working.outstanding_failed {current : List StorageEntry}
    (h : Working s (head :: rest) current) (houtstanding : s.outstanding = [operation]) :
    (s.complete operation false).outstanding = [head.first] := by
  have hproceed : s.complete operation false = (s.reported operation false).proceed := by
    cases operation <;> rfl
  rw [hproceed]
  exact (h.reported operation false).outstanding_proceed (reported_outstanding houtstanding false)

theorem Working.outstanding_loaded (hread : head.operation = operationRead)
    {current : List StorageEntry} (h : Working s (head :: rest) current)
    (houtstanding : s.outstanding = [head.first]) :
    (s.complete head.first true).outstanding = [] := by
  have hgot : taskAt (s.reported head.first true).taskQueue.getNext.1
      (s.reported head.first true).taskQueue.getNext.2 = head := h.keeps.getNext.2
  have hlast : s.complete head.first true = (s.reported head.first true).handleLast := by
    rw [first_read hread]
    rfl
  rw [hlast]
  unfold Storage.handleLast
  dsimp only
  rw [hgot, if_pos hread]
  exact reported_outstanding houtstanding true

theorem Working.outstanding_cleared (hwrite : head.operation = operationWrite)
    {current : List StorageEntry} (h : Working s (head :: rest) current)
    (houtstanding : s.outstanding = [head.first]) :
    (s.complete head.first true).outstanding = [head.last] := by
  have hpeeked : taskAt (s.reported head.first true).taskQueue.peekNext.1
      (s.reported head.first true).taskQueue.peekNext.2 = head := h.keeps.peekNext.2
  have hclear : s.complete head.first true = (s.reported head.first true).handleClear := by
    rw [first_write hwrite]
    rfl
  rw [hclear]
  unfold Storage.handleClear
  dsimp only [issue]
  rw [hpeeked, reported_outstanding houtstanding]
  rfl

theorem Working.outstanding_stored (hwrite : head.operation = operationWrite)
    {current : List StorageEntry} (h : Working s (head :: rest) current)
    (houtstanding : s.outstanding = [head.last]) :
    (s.complete head.last true).outstanding = firstOf rest := by
  have hother : head.operation ≠ operationRead := by
    rw [hwrite]
    decide
  have hgot : taskAt (s.reported head.last true).taskQueue.getNext.1
      (s.reported head.last true).taskQueue.getNext.2 = head := h.keeps.getNext.2
  have hlast : s.complete head.last true = (s.reported head.last true).handleLast := rfl
  rw [hlast]
  unfold Storage.handleLast
  dsimp only
  rw [hgot, if_neg hother]
  refine outstanding_processQueue h.keeps.getNext.1
    (fun task hmem => h.isRequest task (List.mem_cons_of_mem _ hmem)) ?_ rfl
  exact reported_outstanding houtstanding true

/-- **A completion.**  What is completed is the one operation that is outstanding. -/
theorem Sound.advances (h : Sound s tasks) (hcan : operation ∈ s.outstanding) :
    s.outstanding = [operation] ∧ ∃ tasks', Sound (s.complete operation success) tasks' ∧
      Advances tasks operation success tasks' (s.complete operation success).outstanding := by
  cases h with
  | idle _ _ houtstanding _ _ =>
      rw [houtstanding] at hcan
      exact absurd hcan List.not_mem_nil
  | callback _ houtstanding _ _ =>
      rw [houtstanding] at hcan
      exact absurd hcan List.not_mem_nil
  | busy head rest current htasks h hcurrent houtstanding hprogress hcallback =>
      subst htasks
      generalize hoperations : s.outstanding = operations at hcurrent
      cases hcurrent with
      | waiting => exact absurd hoperations houtstanding
      | first hattempts =>
          rw [hoperations, List.mem_singleton] at hcan
          subst hcan
          refine ⟨rfl, ?_⟩
          cases success with
          | false =>
              refine ⟨_, h.failed hoperations ?_, ?_⟩
              · rw [List.append_assoc]
                exact .first hattempts
              · rw [h.outstanding_failed hoperations]
                exact .failed (Or.inl rfl)
          | true =>
              rcases h.isRequest head List.mem_cons_self with hread | hwrite
              · refine ⟨_, h.loaded hattempts hread hoperations hprogress, ?_⟩
                rw [h.outstanding_loaded hread hoperations]
                exact .loaded hread
              · refine ⟨_, h.cleared hattempts hwrite hoperations hprogress hcallback, ?_⟩
                rw [h.outstanding_cleared hwrite hoperations]
                exact .cleared hwrite
      | last hattempts hwrite =>
          rw [hoperations, List.mem_singleton] at hcan
          subst hcan
          refine ⟨rfl, ?_⟩
          cases success with
          | false =>
              refine ⟨_, h.failed hoperations ?_, ?_⟩
              · rw [List.append_assoc]
                exact .last hattempts hwrite
              · rw [h.outstanding_failed hoperations]
                exact .failed (Or.inr ⟨hwrite, rfl⟩)
          | true =>
              refine ⟨_, h.stored hattempts hwrite hoperations, ?_⟩
              rw [h.outstanding_stored hwrite hoperations]
              exact .stored hwrite

end FruityMesh.Storage
