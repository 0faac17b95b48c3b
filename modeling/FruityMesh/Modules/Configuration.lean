import FruityMesh.Mesh.JoinMe
import FruityMesh.Mesh.RetryStorage
import FruityMesh.Modules.EnrollmentModule
import FruityMesh.StorageSteps

/-!
# The configuration that survives a restart

`Node` has its configuration in RAM, with the votes that nobody has acknowledged, and writes it to
the first block of the flash whenever a vote is taken or removed and when the node is enrolled.
Such a write waits in the queue of `Storage` for its turn, and all that waits is a pointer: what
is stored in the end is what the configuration holds then, and it can change while it is stored.
The write clears the block first, so a node that loses its power in between starts with the default
configuration.

`ConfiguredNode` is the node with its storage and this block.  What `pstorage` does is not part of
the program: `Performed` says what the program relies on.  `Sane` is what holds of the tasks: the
load of the constructor comes first and once, and all other tasks for the first block are writes of
the configuration.
-/

namespace FruityMesh.Modules

open Cells Mesh

/-! ## The configuration -/

/-- `NodeConfiguration`. -/
structure NodeConfiguration where
  version : U32
  nodeAddress : BleAddress
  networkId : U16
  nodeId : NodeId
  manufacturerId : U16
  serialNumber : List U8
  networkKey : List U8
  connectionLossCounter : U16
  deviceType : U8
  dBmTX : U8
  dBmRX : U8
  reserved : U8
  votes : RetryStorage

/-- The version of a configuration that is not set. -/
def versionUnset : U32 := 0xFFFFFFFF

def meshNetworkIdentifier : U16 := 3

def meshNetworkKey : List U8 := [1, 2, 3, 4, 5, 6, 7, 8, 9, 0, 1, 2, 3, 4, 5, 6]

def deviceTypeStatic : U8 := 0
def deviceTypeSink : U8 := 2

/-- A `testDevice`, without its name. -/
structure TestDevice where
  chipId : U32
  id : NodeId
  deviceType : U8
  addr : BleAddress

/-- `BLE_GAP_ADDR_TYPE_RANDOM_STATIC`. -/
def randomStatic : U8 := 1

def testDevices : List TestDevice :=
  [⟨1650159794, 45, deviceTypeSink, ⟨randomStatic, 0xC04E52E81645⟩⟩,
    ⟨2267790660, 72, deviceTypeStatic, ⟨randomStatic, 0xC04E52E81672⟩⟩,
    ⟨931144702, 458, deviceTypeStatic, ⟨randomStatic, 0xC04E52E81658⟩⟩,
    ⟨1952379473, 635, deviceTypeStatic, ⟨randomStatic, 0xC04E52E81635⟩⟩,
    ⟨3505517882, 847, deviceTypeStatic, ⟨randomStatic, 0xC04E52E81647⟩⟩,
    ⟨0xFFFF, 667, deviceTypeStatic, ⟨randomStatic, 0xC04E52E81667⟩⟩,
    ⟨1812994605, 304, deviceTypeStatic, ⟨randomStatic, 0xC04E52E81604⟩⟩,
    ⟨449693942, 493, deviceTypeStatic, ⟨randomStatic, 0xC04E52E81693⟩⟩,
    ⟨3062062265, 309, deviceTypeStatic, ⟨randomStatic, 0xC04E52E81609⟩⟩,
    ⟨1040859205, 880, deviceTypeStatic, ⟨randomStatic, 0xC04E52E81680⟩⟩]

/-- The two numbers that a chip has, and the address that the soft device has for it. -/
structure Chip where
  deviceId : U32 × U32
  address : BleAddress

def serialAlphabet : List U8 :=
  "BCDFGHJKLMNPQRSTVWXYZ123456789".toList.map fun c => BitVec.ofNat 8 c.toNat

/-- The letters of the serial number, with the zero at its end. -/
def serialNumberOf (chip : Chip) : List U8 :=
  ((List.range serialNumberLength).map fun i =>
    serialAlphabet.getD (chip.deviceId.1 * BitVec.ofNat 32 i % 30).toNat 0) ++ [0]

section Load

variable (chip : Chip) (random : U16) (config : NodeConfiguration)

def initWithTestDeviceSettings : NodeConfiguration :=
  let device := (testDevices.find? fun device => device.chipId = chip.deviceId.2).getD
    ⟨chip.deviceId.2, chip.deviceId.2.setWidth 16 % 15000 + 1, deviceTypeStatic, chip.address⟩
  { config with
    nodeId := device.id
    deviceType := device.deviceType
    nodeAddress := device.addr
    serialNumber := serialNumberOf chip
    manufacturerId := 0xFFFF }

/-- The configuration of a node that has none. -/
def defaultConfiguration : NodeConfiguration :=
  initWithTestDeviceSettings chip
    { config with
      version := 0
      connectionLossCounter := 0
      networkId := meshNetworkIdentifier
      networkKey := meshNetworkKey
      dBmRX := 10
      dBmTX := 10
      votes := RetryStorage.empty }

/-- What a node starts with after it has loaded the configuration. -/
def restored : NodeConfiguration :=
  if config.version = versionUnset then defaultConfiguration chip config else config

/-- What `ConfigurationLoadedHandler` does with the configuration. -/
def configurationLoadedHandler : NodeConfiguration :=
  { restored chip config with connectionLossCounter := random }

end Load

/-! ## The node, its storage and its flash -/

/-- Where the configuration stands in RAM: what `Node` hands to `QueuedRead` and `QueuedWrite`. -/
structure ConfigPlace where
  data : U32
  length : U16
  callback : U32

namespace ConfigPlace

variable (place : ConfigPlace)

/-- The task of the constructor of `Node`. -/
def load : TaskItem := ⟨operationRead, place.length, 0, place.data, place.callback⟩

/-- The task of `SaveConfiguration`. -/
def save : TaskItem := ⟨operationWrite, place.length, 0, place.data, place.callback⟩

theorem load_ne_save : place.load ≠ place.save := by
  intro h
  exact absurd (congrArg TaskItem.operation h) (by decide : operationRead ≠ operationWrite)

theorem first_load : place.load.first = .load place.data 0 place.length := if_pos rfl

theorem first_save : place.save.first = .clear 0 :=
  if_neg (by decide : ¬ operationWrite = operationRead)

theorem last_save : place.save.last = .store 0 place.data place.length := rfl

end ConfigPlace

structure ConfiguredNode where
  persistentConfig : NodeConfiguration
  /-- `ConfigurationLoadedHandler` has been called. -/
  loaded : Bool
  storage : Storage
  /-- The first block of the flash. -/
  block : NodeConfiguration
  /-- What the configuration has held since the operation that is outstanding was issued. -/
  since : List NodeConfiguration

namespace ConfiguredNode

section

variable (chip : Chip) (place : ConfigPlace) (s : ConfiguredNode)

/-- The constructor of `Node` after the power came back. -/
def boot (memory : ℕ → U8) (config block : NodeConfiguration) : ConfiguredNode where
  persistentConfig := config
  loaded := false
  storage := (Storage.new memory).queuedRead place.data place.length 0 place.callback
  block := block
  since := [config]

def write (config : NodeConfiguration) : ConfiguredNode :=
  { s with
    persistentConfig := config
    since := s.since ++ [config] }

def saveConfiguration : ConfiguredNode :=
  { s with storage := s.storage.queuedWrite place.data place.length 0 place.callback }

def setVotes (votes : RetryStorage) : ConfiguredNode :=
  s.write { s.persistentConfig with votes := votes }

def retryStorageContains (globalTime : U64) (userId : U16) : ConfiguredNode × Bool :=
  let contains := s.persistentConfig.votes.retryStorageContains globalTime userId
  (if contains.2 then s.setVotes contains.1 else s, contains.2)

/-- A vote that is there already is not saved again, although its time is new. -/
def putInRetryStorage (globalTime : U64) (userId : U16) : ConfiguredNode × Bool :=
  let contains := s.retryStorageContains globalTime userId
  if contains.2 then (contains.1, true)
  else if s.persistentConfig.votes.retryStorageIsFull then (s, false)
  else
    ((s.setVotes (s.persistentConfig.votes.insert globalTime userId)).saveConfiguration place, true)

def removeFromRetryStorage (userId : U16) : ConfiguredNode :=
  (s.setVotes (s.persistentConfig.votes.removeFromRetryStorage userId)).saveConfiguration place

/-- The node as the module for enrollments sees it. -/
def enrollee (stateMachine : StateMachine) : EnrollmentModule.Enrollee :=
  ⟨⟨s.persistentConfig.networkId, s.persistentConfig.nodeId, s.persistentConfig.serialNumber,
    s.persistentConfig.networkKey⟩, stateMachine, chip.deviceId⟩

/-- A message for the enrollment; the module saves what it changes. -/
def receiveEnrollment (chance : Chance) (stateMachine : StateMachine) (data : ℕ → U8)
    (stack : ConnPacketModule) : ConfiguredNode :=
  let handled := EnrollmentModule.handleTriggerAction chance (s.enrollee chip stateMachine) data
    stack
  match handled.2 with
  | .saveConfiguration config :: _ =>
      (s.write { s.persistentConfig with
        networkId := config.networkId
        nodeId := config.nodeId
        serialNumber := config.serialNumber
        networkKey := config.networkKey }).saveConfiguration place
  | _ => s

/-- `pstorage` completes an operation, and the block holds `left`. -/
def complete (operation : FlashOperation) (success : Bool) (left : NodeConfiguration)
    (random : U16) : ConfiguredNode :=
  let loads := success && decide (operation = place.load.first)
  let config := if loads then configurationLoadedHandler chip random s.block
    else s.persistentConfig
  { persistentConfig := config
    loaded := s.loaded || loads
    storage := s.storage.complete operation success
    block := left
    since := [config] }

end

/-! ## What happens to it -/

inductive Event
  | putInRetryStorage (globalTime : U64) (userId : U16)
  | retryStorageContains (globalTime : U64) (userId : U16)
  | removeFromRetryStorage (userId : U16)
  | enrollment (chance : Chance) (stateMachine : StateMachine) (data : ℕ → U8)
      (stack : ConnPacketModule)
  /-- `connectionLossCounter` is increased, but not saved. -/
  | connectionLost
  /-- The terminal commands `set_nodeid` and `yousink`, which do not save. -/
  | setNodeId (nodeId : NodeId)
  | youSink
  | saveNode
  | clearStorage
  /-- A module reads or writes its own block. -/
  | request (event : Storage.Event)
  | completed (operation : FlashOperation) (success : Bool) (left : NodeConfiguration)
      (random : U16)
  | returned
  /-- The power is lost and comes back; nothing is known of the RAM then. -/
  | restart (memory : ℕ → U8) (config : NodeConfiguration)

variable (chip : Chip) (place : ConfigPlace)

def apply (s : ConfiguredNode) : Event → ConfiguredNode
  | .putInRetryStorage globalTime userId => (s.putInRetryStorage place globalTime userId).1
  | .retryStorageContains globalTime userId => (s.retryStorageContains globalTime userId).1
  | .removeFromRetryStorage userId => s.removeFromRetryStorage place userId
  | .enrollment chance stateMachine data stack =>
      s.receiveEnrollment chip place chance stateMachine data stack
  | .connectionLost =>
      s.write { s.persistentConfig with
        connectionLossCounter := s.persistentConfig.connectionLossCounter + 1 }
  | .setNodeId nodeId => s.write { s.persistentConfig with nodeId := nodeId }
  | .youSink => s.write { s.persistentConfig with deviceType := deviceTypeSink }
  | .saveNode => s.saveConfiguration place
  | .clearStorage =>
      (s.write { s.persistentConfig with version := versionUnset }).saveConfiguration place
  | .request event => { s with storage := s.storage.apply event }
  | .completed operation success left random => s.complete chip place operation success left random
  | .returned => { s with storage := s.storage.proceed }
  | .restart memory config => boot place memory config s.block

/-- A field that has held one value since the operation was issued is stored with it. -/
def Steady {α : Type*} (s : ConfiguredNode) (left : NodeConfiguration)
    (field : NodeConfiguration → α) : Prop :=
  (∀ config ∈ s.since, field config = field s.persistentConfig) →
    field left = field s.persistentConfig

/-- The block after a store: what becomes of the fields that change meanwhile is not known. -/
structure Stored (s : ConfiguredNode) (left : NodeConfiguration) : Prop where
  version : s.Steady left NodeConfiguration.version
  nodeAddress : s.Steady left NodeConfiguration.nodeAddress
  networkId : s.Steady left NodeConfiguration.networkId
  nodeId : s.Steady left NodeConfiguration.nodeId
  manufacturerId : s.Steady left NodeConfiguration.manufacturerId
  serialNumber : s.Steady left NodeConfiguration.serialNumber
  networkKey : s.Steady left NodeConfiguration.networkKey
  connectionLossCounter : s.Steady left NodeConfiguration.connectionLossCounter
  deviceType : s.Steady left NodeConfiguration.deviceType
  dBmTX : s.Steady left NodeConfiguration.dBmTX
  dBmRX : s.Steady left NodeConfiguration.dBmRX
  reserved : s.Steady left NodeConfiguration.reserved
  retryStorage : ∀ i < maxRetryStorageSize,
    s.Steady left fun config => config.votes.retryStorage i
  timeStorage : ∀ i < maxRetryStorageSize,
    s.Steady left fun config => config.votes.timeStorage i

/-- What `pstorage` promises about the block: a clear and a store do what they are for when they
succeed, and other operations leave it alone. -/
structure Performed (s : ConfiguredNode) (operation : FlashOperation) (success : Bool)
    (left : NodeConfiguration) : Prop where
  cleared : operation = place.save.first → success = true → left.version = versionUnset
  stored : operation = place.save.last → success = true → s.Stored left
  elsewhere : operation ≠ place.save.first → operation ≠ place.save.last → left = s.block

/-- The write of the configuration finds room in the queue, or another one is still to begin. -/
def SaveFits (s : ConfiguredNode) : Prop :=
  (s.storage.taskQueue.putString place.save.bytes).2 = true ∨ place.save ∈ s.storage.waiting.tail

/-- The configuration changes once it is loaded, modules have blocks of their own, and the power is
not lost while the configuration waits to be written. -/
def Allowed (s : ConfiguredNode) : Event → Prop
  | .putInRetryStorage _ _ | .removeFromRetryStorage _ | .enrollment _ _ _ _ | .saveNode
  | .clearStorage => s.loaded = true ∧ s.SaveFits place
  | .retryStorageContains _ _ | .connectionLost | .setNodeId _ | .youSink => s.loaded = true
  | .request event => ∃ task, event.task = some task ∧ task.storageBlock ≠ 0
  | .completed operation success left _ =>
      operation ∈ s.storage.outstanding ∧ s.Performed place operation success left
  | .returned => s.storage.inCallback = true
  | .restart _ _ => place.save ∉ s.storage.waiting

/-! ## What waits -/

section Sane

variable {chip : Chip} {place : ConfigPlace} {s : ConfiguredNode}

/-- The storage executes its tasks; those for the first block are the load of the constructor, which
comes first and only once, and the writes of `SaveConfiguration`. -/
structure Sane (place : ConfigPlace) (s : ConfiguredNode) : Prop where
  sound : Storage.Sound s.storage s.storage.waiting
  foreign : ∀ task ∈ s.storage.waiting, task = place.load ∨ task = place.save ∨
    task.storageBlock ≠ 0
  loading : s.loaded = false → ∃ rest, s.storage.waiting = place.load :: rest ∧
    place.load ∉ rest ∧ place.save ∉ rest
  running : s.loaded = true → place.load ∉ s.storage.waiting

theorem storage_request {event : Storage.Event} {task : TaskItem} (htask : event.task = some task)
    (storage : Storage) : storage.apply event = storage.request task ∧ task.IsRequest := by
  cases event with
  | queuedRead data dataLength blockId callback =>
      obtain rfl := Option.some.inj htask
      exact ⟨rfl, Or.inl rfl⟩
  | queuedWrite data dataLength blockId callback =>
      obtain rfl := Option.some.inj htask
      exact ⟨rfl, Or.inr rfl⟩
  | completed operation success => exact absurd htask (Option.some_ne_none task).symm
  | returned => exact absurd htask (Option.some_ne_none task).symm

/-- The tasks after a request: there was room for one more, or there was none. -/
theorem waiting_request {storage : Storage} (h : Storage.Sound storage storage.waiting)
    {task : TaskItem} (hrequest : task.IsRequest) :
    Storage.Sound (storage.request task) (storage.request task).waiting ∧
      (storage.request task).waiting =
        if (storage.taskQueue.putString task.bytes).2 then storage.waiting ++ [task]
        else storage.waiting := by
  have hsound := h.request hrequest
  have hwaiting := hsound.waiting_eq
  exact ⟨hwaiting ▸ hsound, hwaiting⟩

/-- A request for another block, or to save the configuration. -/
theorem Sane.request (h : s.Sane place) {task : TaskItem} (hrequest : task.IsRequest)
    (htask : task.storageBlock ≠ 0 ∨ task = place.save ∧ s.loaded = true) :
    Sane place { s with storage := s.storage.request task } := by
  obtain ⟨hsound, hwaiting⟩ := waiting_request h.sound hrequest
  have hload : task ≠ place.load := by
    rintro rfl
    rcases htask with hblock | ⟨hsave, -⟩
    · exact hblock rfl
    · exact place.load_ne_save hsave
  constructor
  · exact hsound
  · intro other hmem
    have hmem' : other ∈ (s.storage.request task).waiting := hmem
    rw [hwaiting] at hmem'
    split_ifs at hmem'
    · rcases List.mem_append.mp hmem' with hold | hnew
      · exact h.foreign other hold
      · rw [List.mem_singleton.mp hnew]
        rcases htask with hblock | ⟨hsave, -⟩
        · exact Or.inr (Or.inr hblock)
        · exact Or.inr (Or.inl hsave)
    · exact h.foreign other hmem'
  · intro hloaded
    obtain ⟨rest, hrest, hload', hsave'⟩ := h.loading hloaded
    have hblock : task.storageBlock ≠ 0 := by
      rcases htask with hblock | ⟨-, hno⟩
      · exact hblock
      · exact absurd (hloaded.symm.trans hno) Bool.false_ne_true
    have hsave : task ≠ place.save := by
      rintro rfl
      exact hblock rfl
    show ∃ rest, (s.storage.request task).waiting = place.load :: rest ∧ _
    rw [hwaiting, hrest]
    split_ifs
    · refine ⟨rest ++ [task], List.cons_append .., ?_, ?_⟩
      · rw [List.mem_append, List.mem_singleton, not_or]
        exact ⟨hload', fun heq => hload heq.symm⟩
      · rw [List.mem_append, List.mem_singleton, not_or]
        exact ⟨hsave', fun heq => hsave heq.symm⟩
    · exact ⟨rest, rfl, hload', hsave'⟩
  · intro hloaded
    have hnot := h.running hloaded
    show place.load ∉ (s.storage.request task).waiting
    rw [hwaiting]
    split_ifs
    · rw [List.mem_append, List.mem_singleton, not_or]
      exact ⟨hnot, fun heq => hload heq.symm⟩
    · exact hnot

/-- Only the storage and `loaded` matter. -/
theorem Sane.congr (h : s.Sane place) {s' : ConfiguredNode} (hstorage : s'.storage = s.storage)
    (hloaded : s'.loaded = s.loaded) : s'.Sane place := by
  constructor
  · rw [hstorage]
    exact h.sound
  · rw [hstorage]
    exact h.foreign
  · rw [hstorage, hloaded]
    exact h.loading
  · rw [hstorage, hloaded]
    exact h.running

theorem Sane.write (h : s.Sane place) (config : NodeConfiguration) : (s.write config).Sane place :=
  h.congr rfl rfl

theorem Sane.save (h : s.Sane place) (hloaded : s.loaded = true) :
    (s.saveConfiguration place).Sane place := h.request (Or.inr rfl) (Or.inr ⟨rfl, hloaded⟩)

theorem Sane.returned (h : s.Sane place) (hcallback : s.storage.inCallback = true) :
    Sane place { s with storage := s.storage.proceed } := by
  have hsound := h.sound.returned hcallback
  have hwaiting := hsound.waiting_eq
  constructor
  · exact hwaiting ▸ hsound
  · show ∀ task ∈ s.storage.proceed.waiting, _
    rw [hwaiting]
    exact h.foreign
  · show s.loaded = false → ∃ rest, s.storage.proceed.waiting = _ ∧ _
    rw [hwaiting]
    exact h.loading
  · show s.loaded = true → place.load ∉ s.storage.proceed.waiting
    rw [hwaiting]
    exact h.running

/-! ### Completions -/

theorem first_eq_load_iff {task : TaskItem}
    (htask : task = place.load ∨ task = place.save ∨ task.storageBlock ≠ 0) :
    task.first = place.load.first ↔ task = place.load := by
  constructor
  · intro hfirst
    rw [place.first_load] at hfirst
    rcases htask with rfl | rfl | hblock
    · rfl
    · rw [place.first_save] at hfirst
      exact FlashOperation.noConfusion hfirst
    · unfold TaskItem.first at hfirst
      split_ifs at hfirst
      exact absurd (FlashOperation.load.inj hfirst).2.1 hblock
  · rintro rfl
    rfl

/-- The operations of other tasks leave the block alone. -/
theorem operations_ne_save {task : TaskItem}
    (htask : task = place.load ∨ task = place.save ∨ task.storageBlock ≠ 0)
    (hsave : task ≠ place.save) {operation : FlashOperation} (hoperation : operation = task.first ∨
      task.operation = operationWrite ∧ operation = task.last) :
    operation ≠ place.save.first ∧ operation ≠ place.save.last := by
  rw [place.first_save, place.last_save]
  rcases hoperation with rfl | ⟨hwrite, rfl⟩
  · refine ⟨?_, Storage.first_ne_store⟩
    rcases htask with rfl | rfl | hblock
    · rw [place.first_load]
      exact FlashOperation.noConfusion
    · exact absurd rfl hsave
    · unfold TaskItem.first
      split_ifs
      · exact FlashOperation.noConfusion
      · exact fun h => hblock (FlashOperation.clear.inj h)
  · refine ⟨FlashOperation.noConfusion, ?_⟩
    rcases htask with rfl | rfl | hblock
    · exact absurd hwrite (by decide : ¬ operationRead = operationWrite)
    · exact absurd rfl hsave
    · exact fun h => hblock (FlashOperation.store.inj h).1

theorem complete_of_loads (left : NodeConfiguration) (random : U16) :
    s.complete chip place place.load.first true left random =
      { persistentConfig := configurationLoadedHandler chip random s.block
        loaded := true
        storage := s.storage.complete place.load.first true
        block := left
        since := [configurationLoadedHandler chip random s.block] } := by
  simp [complete]

theorem complete_of_not {operation : FlashOperation} {success : Bool}
    (hnot : success = false ∨ operation ≠ place.load.first) (left : NodeConfiguration)
    (random : U16) :
    s.complete chip place operation success left random =
      { s with
        storage := s.storage.complete operation success
        block := left
        since := [s.persistentConfig] } := by
  rcases hnot with rfl | hne
  · simp [complete]
  · simp [complete, hne]

theorem Sane.complete (h : s.Sane place) {operation : FlashOperation} {success : Bool}
    (hcan : operation ∈ s.storage.outstanding) (left : NodeConfiguration) (random : U16) :
    (s.complete chip place operation success left random).Sane place := by
  obtain ⟨-, tasks', hsound, hadvances⟩ := @Storage.Sound.advances _ _ _ success h.sound hcan
  have hwaiting := hsound.waiting_eq
  obtain ⟨-, hforeign, hloading, hrunning⟩ := h
  generalize s.storage.waiting = tasks at hadvances hforeign hloading hrunning
  generalize (s.storage.complete operation success).outstanding = outstanding at hadvances
  -- all but the load of the configuration leaves `loaded` as it is
  have hother : ∀ (hnot : success = false ∨ operation ≠ place.load.first),
      (∀ task ∈ tasks', task ∈ tasks) →
      (s.loaded = false → ∃ rest, tasks' = place.load :: rest ∧ place.load ∉ rest ∧
        place.save ∉ rest) →
      (s.complete chip place operation success left random).Sane place := by
    intro hnot hsubset hloading'
    rw [complete_of_not hnot]
    constructor
    · exact hwaiting ▸ hsound
    · show ∀ task ∈ (s.storage.complete operation success).waiting, _
      rw [hwaiting]
      exact fun task hmem => hforeign task (hsubset task hmem)
    · show s.loaded = false → ∃ rest, (s.storage.complete operation success).waiting = _ ∧ _
      rw [hwaiting]
      exact hloading'
    · show s.loaded = true → place.load ∉ (s.storage.complete operation success).waiting
      rw [hwaiting]
      exact fun hloaded hmem => hrunning hloaded (hsubset _ hmem)
  cases hadvances with
  | failed hoperation => exact hother (Or.inl rfl) (fun _ => id) hloading
  | @loaded head _ hread =>
      have hhead := hforeign head List.mem_cons_self
      by_cases hload : head = place.load
      · subst hload
        have hrest : place.load ∉ tasks' := by
          cases hloaded : s.loaded with
          | true => exact absurd List.mem_cons_self (hrunning hloaded)
          | false =>
              obtain ⟨rest', hcons, hnot, -⟩ := hloading hloaded
              rw [(List.cons.inj hcons).2]
              exact hnot
        rw [complete_of_loads]
        constructor
        · exact hwaiting ▸ hsound
        · show ∀ task ∈ (s.storage.complete place.load.first true).waiting, _
          rw [hwaiting]
          exact fun task hmem => hforeign task (List.mem_cons_of_mem _ hmem)
        · exact fun hno => absurd hno.symm Bool.false_ne_true
        · show _ → place.load ∉ (s.storage.complete place.load.first true).waiting
          rw [hwaiting]
          exact fun _ => hrest
      · refine hother (Or.inr fun heq => hload ((first_eq_load_iff hhead).mp heq))
          (fun task hmem => List.mem_cons_of_mem _ hmem) ?_
        intro hloaded
        obtain ⟨rest', hcons, -⟩ := hloading hloaded
        exact absurd (List.cons.inj hcons).1 hload
  | @cleared head rest hwrite =>
      have hhead := hforeign head List.mem_cons_self
      refine hother (Or.inr fun heq => ?_) (fun _ => id) hloading
      rw [(first_eq_load_iff hhead).mp heq] at hwrite
      exact absurd hwrite (by decide : ¬ operationRead = operationWrite)
  | @stored head _ hwrite =>
      refine hother (Or.inr ?_) (fun task hmem => List.mem_cons_of_mem _ hmem) ?_
      · rw [place.first_load]
        exact FlashOperation.noConfusion
      · intro hloaded
        obtain ⟨rest', hcons, -⟩ := hloading hloaded
        rw [(List.cons.inj hcons).1] at hwrite
        exact absurd hwrite (by decide : ¬ operationRead = operationWrite)

theorem sane_boot (memory : ℕ → U8) (config block : NodeConfiguration) :
    (boot place memory config block).Sane place := by
  have hnone : (Storage.new memory).waiting = [] := (Storage.sound_new memory).waiting_eq
  have hnew : Storage.Sound (Storage.new memory) (Storage.new memory).waiting := by
    rw [hnone]
    exact Storage.sound_new memory
  have hrequest : place.load.IsRequest := Or.inl rfl
  obtain ⟨hsound, hwaiting⟩ := waiting_request hnew hrequest
  have hroom : ((Storage.new memory).taskQueue.putString place.load.bytes).2 = true := by
    have hiff := (Keeps.new memory).put_iff place.load
    refine hiff.mpr ?_
    rw [Keeps.HasRoom]
    simp [SimpleQueue.new]
  rw [if_pos hroom, hnone, List.nil_append] at hwaiting
  have hstorage : (boot place memory config block).storage =
      (Storage.new memory).request place.load := by
    simp only [boot, Storage.queuedRead, ConfigPlace.load]
  constructor
  · rw [hstorage]
    exact hsound
  · rw [hstorage, hwaiting]
    exact fun task hmem => Or.inl (List.mem_singleton.mp hmem)
  · rw [hstorage, hwaiting]
    exact fun _ => ⟨[], rfl, List.not_mem_nil, List.not_mem_nil⟩
  · exact fun hno => absurd hno Bool.false_ne_true

end Sane

end ConfiguredNode

end FruityMesh.Modules
