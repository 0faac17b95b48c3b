import FruityMesh.StorageTasks

/-!
# Requests that the storage loses

The task buffer has ten times the size of a task, but a task takes four bytes more in it, and
`Put` keeps another byte free.  So there may be no room for a task when seven or even six are
waiting, and then the request is lost: the result of `Put` is ignored.  All requests of a run are
done or waiting exactly if there was room for each of them (`allAccounted_iff_findsRoom`).
-/

namespace FruityMesh.Storage

variable {s : Storage} {tasks : List TaskItem}

/-! ## The requests in the log -/

/-- Both states know of the same requests. -/
def SameRequests (s s' : Storage) : Prop :=
  requests s'.log = requests s.log ∧ accepted s'.log = accepted s.log

theorem SameRequests.trans {s s' s'' : Storage} (h : SameRequests s s') (h' : SameRequests s' s'') :
    SameRequests s s'' := ⟨h'.1.trans h.1, h'.2.trans h.2⟩

@[simp] theorem requests_append (log more : List StorageEntry) :
    requests (log ++ more) = requests log ++ requests more := List.filterMap_append ..

theorem sameRequests_of_log {s s' : Storage} (entries : List StorageEntry)
    (hlog : s'.log = s.log ++ entries) (hrequests : requests entries = [])
    (haccepted : accepted entries = []) : SameRequests s s' := by
  rw [SameRequests, hlog, requests_append, accepted_append, hrequests, haccepted, List.append_nil,
    List.append_nil]
  exact ⟨rfl, rfl⟩

theorem sameRequests_processQueue (s : Storage) : SameRequests s s.processQueue := by
  unfold processQueue
  dsimp only
  split_ifs
  · exact ⟨rfl, rfl⟩
  · exact sameRequests_of_log [.issued _] rfl rfl rfl
  · exact sameRequests_of_log [.issued _] rfl rfl rfl
  · exact ⟨rfl, rfl⟩

theorem sameRequests_proceed (s : Storage) : SameRequests s s.proceed :=
  sameRequests_processQueue { s with bufferedOperationInProgress := false, inCallback := false }

theorem sameRequests_handleLast (s : Storage) : SameRequests s s.handleLast := by
  unfold handleLast
  dsimp only
  split_ifs
  · exact sameRequests_of_log [.removed _, .called _] (List.append_assoc _ _ _) rfl rfl
  · exact (sameRequests_of_log [.removed _] rfl rfl rfl).trans (sameRequests_proceed _)

theorem sameRequests_complete (s : Storage) (operation : FlashOperation) (success : Bool) :
    SameRequests s (s.complete operation success) := by
  have hreported : SameRequests s (s.reported operation success) :=
    sameRequests_of_log [.completed _ _] rfl rfl rfl
  refine hreported.trans ?_
  cases operation <;> cases success
  · exact sameRequests_proceed _
  · exact sameRequests_of_log [.issued _] rfl rfl rfl
  · exact sameRequests_proceed _
  · exact sameRequests_handleLast _
  · exact sameRequests_proceed _
  · exact sameRequests_handleLast _

/-- What an event adds to the requests, and to those that are stored. -/
theorem requests_apply (s : Storage) (event : Event) :
    requests (s.apply event).log = requests s.log ++ event.task.toList ∧
      accepted (s.apply event).log = accepted s.log ++
        event.task.toList.filter fun task => (s.taskQueue.putString task.bytes).2 := by
  have hrequest : ∀ task : TaskItem,
      requests (s.request task).log = requests s.log ++ [task] ∧
        accepted (s.request task).log = accepted s.log ++
          [task].filter fun task => (s.taskQueue.putString task.bytes).2 := by
    intro task
    have hsame := sameRequests_processQueue (s.put task)
    refine ⟨hsame.1.trans (requests_append _ _), hsame.2.trans ((accepted_append _ _).trans ?_)⟩
    cases hstored : (s.taskQueue.putString task.bytes).2 <;>
      simp [accepted, StorageEntry.accepted, hstored]
  cases event with
  | queuedRead data dataLength blockId callback => exact hrequest _
  | queuedWrite data dataLength blockId callback => exact hrequest _
  | completed operation success =>
      have hsame := sameRequests_complete s operation success
      exact ⟨hsame.1.trans (List.append_nil _).symm, hsame.2.trans (List.append_nil _).symm⟩
  | returned =>
      have hsame := sameRequests_proceed s
      exact ⟨hsame.1.trans (List.append_nil _).symm, hsame.2.trans (List.append_nil _).symm⟩

/-! ## Room for the requests -/

/-- If the event is a request, then there is room for one more task. -/
def FindsRoom (s : Storage) (event : Event) : Prop :=
  event.task ≠ none → Keeps.HasRoom s.taskQueue

def CanBeKept (s : Storage) (event : Event) : Prop := s.CanHappen event ∧ s.FindsRoom event

instance (s : Storage) (event : Event) : Decidable (s.CanBeKept event) := by
  unfold CanBeKept FindsRoom
  infer_instance

/-- Every request that has been made is either done or still in the queue. -/
def AllAccounted (s : Storage) : Prop :=
  (requests s.log).length = (removed s.log).length + s.taskQueue.numElements.toNat

theorem Sound.accounts (h : Sound s tasks) : Keeps s.taskQueue tasks ∧
    (accepted s.log).length = (removed s.log).length + s.taskQueue.numElements.toNat := by
  have hworking : ∃ current, Working s tasks current := by
    cases h with
    | idle h _ _ _ _ => exact ⟨_, h⟩
    | callback h _ _ _ => exact ⟨_, h⟩
    | busy _ _ _ _ h _ _ _ _ => exact ⟨_, h⟩
  obtain ⟨current, h⟩ := hworking
  refine ⟨h.keeps, ?_⟩
  rw [h.accepted, List.length_append, h.keeps.represents.count, List.length_map]

theorem Sound.allAccounted_iff (h : Sound s tasks) :
    s.AllAccounted ↔ (requests s.log).length = (accepted s.log).length := by
  rw [AllAccounted, h.accounts.2]

/-- No more tasks are stored than requested, and only a request without room loses one. -/
theorem length_accepted_le {memory : ℕ → U8} {events : List Event}
    (hrun : Runs.Run apply CanHappen (new memory) events s) :
    (accepted s.log).length ≤ (requests s.log).length := by
  induction hrun with
  | nil => exact Nat.le_refl _
  | @step middle events hrun event hcan ih =>
      obtain ⟨hrequests, haccepted⟩ := requests_apply middle event
      have hfilter := List.length_filter_le
        (fun task : TaskItem => (middle.taskQueue.putString task.bytes).2) event.task.toList
      rw [hrequests, haccepted, List.length_append, List.length_append]
      omega

theorem Sound.filter_length (h : Sound s tasks) (event : Event) :
    (event.task.toList.filter fun task => (s.taskQueue.putString task.bytes).2).length =
      event.task.toList.length ↔ s.FindsRoom event := by
  unfold FindsRoom
  cases htask : event.task with
  | none => simp
  | some task =>
      have hput := h.accounts.1.put_iff task
      by_cases hroom : Keeps.HasRoom s.taskQueue
      · simp [hput.mpr hroom, hroom]
      · have hrefused : (s.taskQueue.putString task.bytes).2 = false := by
          rw [← hput] at hroom
          simpa using hroom
        simp [hrefused, hroom]

/-- **Requests are lost exactly for want of room.**  All requests of a run are done or in the
queue if and only if each of them was made when there was room for one more task. -/
theorem allAccounted_iff_findsRoom {memory : ℕ → U8} {events : List Event}
    (hrun : Runs.Run apply CanHappen (new memory) events s) :
    s.AllAccounted ↔ Runs.Run apply CanBeKept (new memory) events s := by
  obtain ⟨tasks, hsound⟩ := sound_run hrun
  rw [hsound.allAccounted_iff]
  clear hsound
  constructor
  · intro heq
    induction hrun with
    | nil => exact .nil _
    | @step middle events hrun event hcan ih =>
        obtain ⟨tasks, hsound⟩ := sound_run hrun
        obtain ⟨hrequests, haccepted⟩ := requests_apply middle event
        have hle := length_accepted_le hrun
        have hfilter := List.length_filter_le
          (fun task : TaskItem => (middle.taskQueue.putString task.bytes).2) event.task.toList
        rw [hrequests, haccepted, List.length_append, List.length_append] at heq
        exact (ih (by omega)).step event ⟨hcan, (hsound.filter_length event).mp (by omega)⟩
  · intro hroomy
    clear hrun
    induction hroomy with
    | nil => rfl
    | @step middle events hroomy event hallowed ih =>
        obtain ⟨tasks, hsound⟩ := sound_run (hroomy.mono fun _ _ h => h.1)
        obtain ⟨hrequests, haccepted⟩ := requests_apply middle event
        have hfilter := (hsound.filter_length event).mpr hallowed.2
        rw [hrequests, haccepted, List.length_append, List.length_append, hfilter, ih]

/-- With at most five tasks in the queue there is room for another one. -/
theorem Sound.findsRoom (h : Sound s tasks) (hlength : tasks.length ≤ 5) (event : Event) :
    s.FindsRoom event := by
  have hkeeps := h.accounts.1
  obtain ⟨hstraight, hturned⟩ := hkeeps.between
  obtain ⟨a, ha⟩ := hkeeps.readPointer
  obtain ⟨b, hb⟩ := hkeeps.writePointer
  have hle := hkeeps.writePointer_le
  intro _
  unfold Keeps.HasRoom
  omega

/-! ### Eight requests at once -/

/-- At most ten requests are neither done nor lost. -/
def WithinTen (s : Storage) (event : Event) : Prop :=
  s.CanHappen event ∧
    (requests (s.apply event).log).length ≤ (removed (s.apply event).log).length + 10

instance (s : Storage) (event : Event) : Decidable (s.WithinTen event) :=
  inferInstanceAs (Decidable (_ ∧ _))

def eightWrites : List Event := List.replicate 8 (.queuedWrite 8192 4 0 77)

/-- Eight requests are within the ten that the buffer is for, but the last one is lost. -/
theorem request_lost : ¬ ∀ (memory : ℕ → U8) (events : List Event) (s : Storage),
    Runs.Run apply WithinTen (new memory) events s → s.AllAccounted := by
  intro h
  have hrun : Runs.Run apply WithinTen (new fun _ => 0) eightWrites
      (eightWrites.foldl apply (new fun _ => 0)) := Runs.Run.of_replays (by decide +kernel)
  have haccounted := h _ _ _ hrun
  unfold AllAccounted at haccounted
  exact absurd haccounted (by decide +kernel)

/-- Of seven requests at once none is lost. -/
theorem allAccounted_iff_findsRoom_seven :
    (List.foldl apply (new fun _ => 0) (List.replicate 7 (.queuedWrite 8192 4 0 77))).AllAccounted := by
  refine (allAccounted_iff_findsRoom (Runs.Run.of_replays (by decide +kernel))).mpr
    (Runs.Run.of_replays (by decide +kernel))

end FruityMesh.Storage
