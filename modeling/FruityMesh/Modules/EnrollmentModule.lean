import FruityMesh.Mesh.Discovery
import FruityMesh.Modules.VotingModule

/-!
# Enrollment

A new node learns its id and its network from an enrollment message, which addresses it by its
node id, by the id of its chip or by its serial number.  The three branches of
`EnrollmentModule::ConnectionPacketReceivedEventHandler` are meant to do the same: stop the
meshing, take the values of the message over into the configuration, save it and answer.

The branch for node ids does not take over the key of the network (`enrolled_iff`).
-/

namespace FruityMesh.Modules

open Cells Mesh Transport
open Node (sizeofConnPacketModule)

/-- The part of a `NodeConfiguration` that enrollment reads or writes. -/
structure PersistentConfig where
  networkId : U16
  nodeId : NodeId
  serialNumber : List U8
  networkKey : List U8
  deriving DecidableEq, Repr

namespace EnrollmentModule

def enrollmentModuleId : U16 := 50

def networkKeyLength : ℕ := 16

/-! ## The messages -/

def setEnrollmentByNodeId : U8 := 0
def setEnrollmentByChipId : U8 := 1
def setEnrollmentBySerial : U8 := 2

def enrollmentSuccessful : U8 := 0

inductive EnrollmentMethod
  | byNodeId
  | byChipId
  | bySerial
  deriving DecidableEq, Repr

def EnrollmentMethod.code : EnrollmentMethod → U8
  | .byNodeId => 0
  | .byChipId => 1
  | .bySerial => 2

/-- The text that is printed for the method in a response. -/
def enrollmentMethodString (method : U8) : String :=
  if method = EnrollmentMethod.byNodeId.code then "node_id"
  else if method = EnrollmentMethod.byChipId.code then "chip_id"
  else if method = EnrollmentMethod.bySerial.code then "serial"
  else ""

/-- What a node is enrolled with. -/
structure Enrollment where
  nodeId : NodeId
  networkId : U16
  networkKey : List U8
  deriving DecidableEq, Repr

/-- The three fields lie one after the other in all messages. -/
def enrollmentAt (data : ℕ → U8) (offset : ℕ) : Enrollment where
  nodeId := u16At data offset
  networkId := u16At data (offset + 2)
  networkKey := read data (offset + 4) networkKeyLength

/-- The data of a packet as the struct to which the branch for its action casts it. -/
inductive EnrollmentMessage
  | setEnrollmentByNodeId (enrollment : Enrollment)
  | setEnrollmentByChipId (chipIdA chipIdB : U32) (enrollment : Enrollment)
  | setEnrollmentBySerial (serialNumber : List U8) (enrollment : Enrollment)
  deriving DecidableEq, Repr

def messageAt (data : ℕ → U8) : Option EnrollmentMessage :=
  if data 10 = setEnrollmentByNodeId then
    some (.setEnrollmentByNodeId (enrollmentAt data moduleData))
  else if data 10 = setEnrollmentByChipId then
    some (.setEnrollmentByChipId (u32At data moduleData) (u32At data (moduleData + 4))
      (enrollmentAt data (moduleData + 8)))
  else if data 10 = setEnrollmentBySerial then
    some (.setEnrollmentBySerial (read data moduleData serialNumberLength)
      (enrollmentAt data (moduleData + serialNumberLength)))
  else none

/-! ## The handler -/

/-- A node that can be enrolled; `deviceId` are the two numbers that its chip has. -/
structure Enrollee where
  persistentConfig : PersistentConfig
  stateMachine : StateMachine
  deviceId : U32 × U32

/-- What the handler does apart from changing the node. -/
inductive Effect
  | saveConfiguration (config : PersistentConfig)
  /-- The red and the blue LED are switched off and the green one is switched on. -/
  | greenLed
  | sendMessageToReceiver (packet : ConnPacketModule) (dataLength : ℕ)
  | enrollResponse (moduleId : U16) (method : String) (requestId : U8) (newNodeId : NodeId)
      (serial : List U8)
  deriving DecidableEq, Repr

section

variable (chance : Chance) (node : Enrollee) (data : ℕ → U8) (stack : ConnPacketModule)

/-- `Node::Stop`. -/
def stop : Enrollee :=
  { node with
    stateMachine := (node.stateMachine.changeState chance .discoveryOff).disableStateMachine true }

def sendEnrollmentResponse (receiver : NodeId) (enrollmentMethod requestHandle result : U8) :
    Effect :=
  .sendMessageToReceiver
    { stack with
      header := { stack.header with
        messageType := messageTypeModuleActionResponse
        sender := node.persistentConfig.nodeId
        receiver := receiver }
      moduleId := enrollmentModuleId
      requestHandle := requestHandle
      actionType := enrollmentSuccessful
      data := [enrollmentMethod, result] ++
        node.persistentConfig.serialNumber.take serialNumberLength ++
          stack.data.drop (serialNumberLength + 2) }
    (sizeofConnPacketModule + (10 + serialNumberLength))

/-- What the branches have in common; they differ in the values that they take over. -/
def enroll (method : EnrollmentMethod) (takeOver : PersistentConfig → PersistentConfig) :
    Enrollee × List Effect :=
  let stopped := stop chance node
  let enrolled := { stopped with persistentConfig := takeOver stopped.persistentConfig }
  (enrolled,
    [.saveConfiguration enrolled.persistentConfig, .greenLed,
      sendEnrollmentResponse enrolled stack nodeIdBroadcast method.code (data 9) 0])

/-- The part of the handler that enrolls the node. -/
def handleTriggerAction : Enrollee × List Effect :=
  match messageAt data with
  | some (.setEnrollmentByNodeId enrollment) =>
      -- the key is not copied here
      enroll chance node data stack .byNodeId fun config =>
        { config with nodeId := enrollment.nodeId, networkId := enrollment.networkId }
  | some (.setEnrollmentByChipId chipIdA chipIdB enrollment) =>
      if chipIdA = node.deviceId.1 ∧ chipIdB = node.deviceId.2 then
        enroll chance node data stack .byChipId fun config =>
          { config with
            nodeId := enrollment.nodeId
            networkId := enrollment.networkId
            networkKey := enrollment.networkKey }
      else (node, [])
  | some (.setEnrollmentBySerial serialNumber enrollment) =>
      if serialNumber = node.persistentConfig.serialNumber.take serialNumberLength then
        enroll chance node data stack .bySerial fun config =>
          { config with
            nodeId := enrollment.nodeId
            networkId := enrollment.networkId
            networkKey := enrollment.networkKey }
      else (node, [])
  | none => (node, [])

/-- The part of the handler that prints the responses of others. -/
def handleActionResponse : List Effect :=
  if data 10 = enrollmentSuccessful then
    [.enrollResponse enrollmentModuleId (enrollmentMethodString (data moduleData)) (data 9)
      (senderAt data) (read data (moduleData + 2) serialNumberLength)]
  else []

/-- `EnrollmentModule::ConnectionPacketReceivedEventHandler`, but for what it inherits: that
handles no packet of these types. -/
def connectionPacketReceivedEventHandler : Enrollee × List Effect :=
  if u16At data 7 = enrollmentModuleId then
    if messageTypeAt data = messageTypeModuleTriggerAction then
      handleTriggerAction chance node data stack
    else if messageTypeAt data = messageTypeModuleActionResponse then
      (node, handleActionResponse data)
    else (node, [])
  else (node, [])

end

/-! ## The effect of an enrollment -/

namespace EnrollmentMessage

def enrollment : EnrollmentMessage → Enrollment
  | setEnrollmentByNodeId enrollment => enrollment
  | setEnrollmentByChipId _ _ enrollment => enrollment
  | setEnrollmentBySerial _ enrollment => enrollment

/-- The message is for this node.  A message by node id has been sent to it. -/
def Addresses (node : Enrollee) : EnrollmentMessage → Prop
  | setEnrollmentByNodeId _ => True
  | setEnrollmentByChipId chipIdA chipIdB _ =>
      chipIdA = node.deviceId.1 ∧ chipIdB = node.deviceId.2
  | setEnrollmentBySerial serialNumber _ =>
      serialNumber = node.persistentConfig.serialNumber.take serialNumberLength

/-- The key of a message by node id is the one that the node has already. -/
def KeepsKey (node : Enrollee) : EnrollmentMessage → Prop
  | setEnrollmentByNodeId enrollment => enrollment.networkKey = node.persistentConfig.networkKey
  | _ => True

end EnrollmentMessage

/-- The node has the values of the message, its state machine is off, the configuration was saved
with these values, and the answer has the handle of the request. -/
structure Enrolled (off : StateMachine → Prop) (enrollment : Enrollment) (requestHandle : U8)
    (outcome : Enrollee × List Effect) : Prop where
  nodeId : outcome.1.persistentConfig.nodeId = enrollment.nodeId
  networkId : outcome.1.persistentConfig.networkId = enrollment.networkId
  networkKey : outcome.1.persistentConfig.networkKey = enrollment.networkKey
  off : off outcome.1.stateMachine
  saved : .saveConfiguration outcome.1.persistentConfig ∈ outcome.2
  answered : ∃ packet dataLength, .sendMessageToReceiver packet dataLength ∈ outcome.2
  answer : ∀ packet dataLength, .sendMessageToReceiver packet dataLength ∈ outcome.2 →
    packet.header.messageType = messageTypeModuleActionResponse ∧
      packet.moduleId = enrollmentModuleId ∧ packet.actionType = enrollmentSuccessful ∧
        packet.requestHandle = requestHandle

/-- The node is enrolled if the message is for it, and nothing changes otherwise. -/
def HasEffect (off : StateMachine → Prop) (node : Enrollee) (message : EnrollmentMessage)
    (requestHandle : U8) (outcome : Enrollee × List Effect) : Prop :=
  (message.Addresses node → Enrolled off message.enrollment requestHandle outcome) ∧
    (¬ message.Addresses node → outcome.1.persistentConfig = node.persistentConfig ∧
      outcome.1.stateMachine = node.stateMachine)

/-- The state machine does not go on. -/
def Disabled (m : StateMachine) : Prop := m.stateMachineDisabled = true

/-- The state machine does not go on, and nothing is advertised or scanned. -/
def Stopped (m : StateMachine) : Prop := Disabled m ∧ m.currentDiscoveryState = .discoveryOff

/-- The state machine was not disabled before in another state. -/
def CanStop (m : StateMachine) : Prop :=
  m.stateMachineDisabled = true → m.currentDiscoveryState = .discoveryOff

section

variable {off : StateMachine → Prop} {chance : Chance} {node : Enrollee} {data : ℕ → U8}
  {stack : ConnPacketModule} {message : EnrollmentMessage} {enrollment : Enrollment}

theorem disabled_stop : Disabled (stop chance node).stateMachine := rfl

/-- `ChangeState` does nothing if the state machine is disabled already. -/
theorem stopped_stop_iff : Stopped (stop chance node).stateMachine ↔ CanStop node.stateMachine := by
  have hstate : (stop chance node).stateMachine.currentDiscoveryState =
      (node.stateMachine.changeState chance .discoveryOff).currentDiscoveryState := rfl
  unfold Stopped CanStop
  rw [hstate, and_iff_right disabled_stop]
  by_cases hignored : node.stateMachine.currentDiscoveryState = .discoveryOff ∨
      node.stateMachine.stateMachineDisabled
  · rw [StateMachine.changeState_ignored hignored]
    constructor
    · exact fun hoff _ => hoff
    · intro hcan
      exact hignored.elim id hcan
  · have hoff : (node.stateMachine.changeState chance .discoveryOff).currentDiscoveryState =
        .discoveryOff := by
      rw [StateMachine.changeState, if_neg hignored]
    exact iff_of_true hoff fun hdisabled => absurd (Or.inr hdisabled) hignored

/-- All that depends on the branch is what it takes over. -/
theorem enrolled_enroll_iff {method : EnrollmentMethod}
    {takeOver : PersistentConfig → PersistentConfig} :
    Enrolled off enrollment (data 9) (enroll chance node data stack method takeOver) ↔
      ((takeOver node.persistentConfig).nodeId = enrollment.nodeId ∧
        (takeOver node.persistentConfig).networkId = enrollment.networkId ∧
        (takeOver node.persistentConfig).networkKey = enrollment.networkKey) ∧
      off (stop chance node).stateMachine := by
  constructor
  · intro h
    exact ⟨⟨h.nodeId, h.networkId, h.networkKey⟩, h.off⟩
  · rintro ⟨⟨hnode, hnetwork, hkey⟩, hoff⟩
    have hthird : sendEnrollmentResponse
        { stop chance node with persistentConfig := takeOver node.persistentConfig } stack
          nodeIdBroadcast method.code (data 9) 0 ∈
        (enroll chance node data stack method takeOver).2 :=
      List.mem_cons_of_mem _ (List.mem_cons_of_mem _ List.mem_cons_self)
    refine ⟨hnode, hnetwork, hkey, hoff, List.mem_cons_self, ⟨_, _, hthird⟩, ?_⟩
    · intro packet dataLength hmem
      simp only [enroll, sendEnrollmentResponse, List.mem_cons, reduceCtorEq, false_or,
        Effect.sendMessageToReceiver.injEq, List.not_mem_nil, or_false] at hmem
      rw [hmem.1]
      exact ⟨rfl, rfl, rfl, rfl⟩

theorem hasEffect_handleTriggerAction_iff (hmessage : messageAt data = some message) :
    HasEffect off node message (data 9) (handleTriggerAction chance node data stack) ↔
      message.KeepsKey node ∧ (message.Addresses node → off (stop chance node).stateMachine) := by
  unfold HasEffect handleTriggerAction
  rw [hmessage]
  cases message with
  | setEnrollmentByNodeId enrollment =>
      dsimp only [EnrollmentMessage.Addresses, EnrollmentMessage.KeepsKey,
        EnrollmentMessage.enrollment]
      rw [enrolled_enroll_iff]
      simp only [true_imp_iff, not_true_eq_false, false_imp_iff, and_true, true_and]
      rw [eq_comm]
  | setEnrollmentByChipId chipIdA chipIdB enrollment =>
      dsimp only [EnrollmentMessage.Addresses, EnrollmentMessage.KeepsKey,
        EnrollmentMessage.enrollment]
      split_ifs with haddressed
      · rw [enrolled_enroll_iff]
        simp [haddressed]
      · simp [haddressed]
  | setEnrollmentBySerial serialNumber enrollment =>
      dsimp only [EnrollmentMessage.Addresses, EnrollmentMessage.KeepsKey,
        EnrollmentMessage.enrollment]
      split_ifs with haddressed
      · rw [enrolled_enroll_iff]
        simp [haddressed]
      · simp [haddressed]

/-- **All methods have the same effect, but for the key in a message by node id.**  Where the
state machine was disabled before, it stays in the state that it was in. -/
theorem enrolled_iff (hmodule : u16At data 7 = enrollmentModuleId)
    (htype : messageTypeAt data = messageTypeModuleTriggerAction)
    (hmessage : messageAt data = some message) :
    (HasEffect Disabled node message (data 9)
        (connectionPacketReceivedEventHandler chance node data stack) ↔ message.KeepsKey node) ∧
      (HasEffect Stopped node message (data 9)
          (connectionPacketReceivedEventHandler chance node data stack) ↔
        message.KeepsKey node ∧ (message.Addresses node → CanStop node.stateMachine)) := by
  rw [connectionPacketReceivedEventHandler, if_pos hmodule, if_pos htype,
    hasEffect_handleTriggerAction_iff hmessage, hasEffect_handleTriggerAction_iff hmessage,
    stopped_stop_iff]
  exact ⟨and_iff_left fun _ => disabled_stop, Iff.rfl⟩

end

/-! ### A key that is lost -/

def unenrolled : Enrollee where
  persistentConfig := ⟨0, 3, [66, 67, 68, 70, 71, 0], List.replicate networkKeyLength 0⟩
  stateMachine := StateMachine.constructed
  deviceId := (7, 8)

def emptyStack : ConnPacketModule := ⟨⟨false, 0, 0, 0, 0⟩, 0, 0, 0, []⟩

/-- The packet to node 3 with a message by node id: it becomes node 9 in network 1, with this
key. -/
def enrollByNodeId (key : U8) : ConnPacketModule where
  header := ⟨false, messageTypeModuleTriggerAction, 1, 3, 0⟩
  moduleId := enrollmentModuleId
  requestHandle := 5
  actionType := setEnrollmentByNodeId
  data := u16Bytes 9 ++ u16Bytes 1 ++ List.replicate networkKeyLength key

def inMemory (packet : ConnPacketModule) : ℕ → U8 := memory (packet.sent packet.bytes.length)

theorem key_lost :
    ¬ ∀ (chance : Chance) (node : Enrollee) (data : ℕ → U8) (stack : ConnPacketModule)
        (message : EnrollmentMessage), u16At data 7 = enrollmentModuleId →
          messageTypeAt data = messageTypeModuleTriggerAction → messageAt data = some message →
            HasEffect Disabled node message (data 9)
              (connectionPacketReceivedEventHandler chance node data stack) := by
  intro hall
  obtain ⟨heffect, _⟩ := hall ⟨.noNodesFound, 0⟩ unenrolled (inMemory (enrollByNodeId 1)) emptyStack
    (.setEnrollmentByNodeId ⟨9, 1, List.replicate networkKeyLength 1⟩) (by decide) (by decide)
    (by decide)
  have hkey := (heffect trivial).networkKey
  exact absurd hkey (by decide)

/-- With the key that the node has already, the message has its effect. -/
theorem enrolled_iff_same_key :
    HasEffect Stopped unenrolled
      (.setEnrollmentByNodeId ⟨9, 1, List.replicate networkKeyLength 0⟩) 5
        (connectionPacketReceivedEventHandler ⟨.noNodesFound, 0⟩ unenrolled
          (inMemory (enrollByNodeId 0)) emptyStack) :=
  (@enrolled_iff _ _ (inMemory (enrollByNodeId 0)) _ _ (by decide) (by decide) (by decide)).2.mpr
    ⟨rfl, fun _ hdisabled => Bool.noConfusion hdisabled⟩

end EnrollmentModule

end FruityMesh.Modules
