import FruityMesh.Modules.Module

/-!
# What is read from a packet that comes in

`Connection::ReceivePacketHandler` up to the handshake, and `Node::messageReceivedCallback`
with the modules, written so that every byte of the packet that they read is noted.

What these functions do to the node, and what it does then, is what `Mesh.Node` says
(`ofNode_receivePacketHandler`); new are the modules and the reports.
-/

namespace FruityMesh.Mesh

open Cells LittleEndian Reads Transport Modules
open Node (sizeofConnPacketModule)

/-- A node with its modules. -/
structure Device where
  node : Node
  activeModules : ActiveModules

def sizeofConnPacketData2 : ℕ := maxDataSizePerWrite

def sizeofConnPacketAdvInfo : ℕ := sizeofConnPacketHeader + 9

namespace Inbound

/-! ## `Node::messageReceivedCallback` -/

section Callback

variable (node : Node) (connection : Slot) (data : ℕ → U8) (dataLength : U16)

/-- `UpdateClusterInfo`, which looks at nothing of the header. -/
def updateClusterInfo : Reads Node := do
  let hopsToSink ← readU16 data 17
  let clusterSizeChange ← readU16 data 15
  let currentClusterId ← readU32 data 7
  let newClusterId ←
    if currentClusterId = node.clusterId then readU32 data 11 else pure 0
  return node.updateClusterInfo connection
    ⟨⟨false, 0, 0, 0, 0⟩, currentClusterId, newClusterId, clusterSizeChange, hopsToSink⟩

/-- The scan response gets as many bytes as the packet says that it has. -/
def updateScanResponsePacket : Reads (List Report) := do
  let length ← readByte data 7
  let payload ← readBlock data 8 length.toNat
  return [.setScanResponse payload]

def printAdvInfo : Reads (List Report) := do
  let sender ← readSender data
  let peerAddress ← readBlock data 7 6
  let packetCount ← readByte data 15
  let inverseRssiSum ← readU16 data 13
  return [.advInfo sender peerAddress packetCount inverseRssiSum]

/-- The messages for the node itself.  DATA_1 is only logged. -/
def handleMessage : Reads (Node × List Report) := do
  let messageType ← readMessageType data
  if messageType = messageTypeClusterInfoUpdate then
    if dataLength.toNat = sizeofConnPacketClusterInfoUpdate then
      return (← updateClusterInfo node connection data, [])
    else return (node, [])
  else if messageType = messageTypeData2 then
    if dataLength.toNat = sizeofConnPacketData2 then
      return (node, ← updateScanResponsePacket data)
    else return (node, [])
  else if messageType = messageTypeAdvInfo then
    if dataLength.toNat = sizeofConnPacketAdvInfo then return (node, ← printAdvInfo data)
    else return (node, [])
  else return (node, [])

/-- MODULE_LIST.  The division rounds towards zero, and the result is stored in a `u16`. -/
def printModuleList : Reads (List Report) := do
  let sender ← readSender data
  let moduleCount : U16 :=
    BitVec.ofInt 16 (((dataLength.toNat : ℤ) - sizeofConnPacketModule).tdiv 4)
  noteCount moduleCount.toNat moduleData 4
  let modules ← forEach (fun i => do
    let moduleId ← readU16 data (moduleData + i * 4)
    let version ← readByte data (moduleData + i * 4 + 2)
    let active ← readByte data (moduleData + i * 4 + 3)
    return (moduleId, version, active)) (List.range moduleCount.toNat)
  return [.moduleList sender (modules.filter fun listed => listed.1 ≠ 0)]

def handleModuleList : Reads (List Report) := do
  let messageType ← readMessageType data
  if messageType = messageTypeModuleConfig then
    let actionType ← readActionType data
    if actionType = ModuleConfigMessages.getModuleList then
      return [.sendModuleList (← readSender data) 7]
    else if actionType = ModuleConfigMessages.moduleList then printModuleList data dataLength
    else return []
  else return []

/-- The handler of one module; a `StatusReporterModule` also parses the responses. -/
def handleByModule (handled : ActiveModules × List Report) (n : Fin maxModuleCount) :
    Reads (ActiveModules × List Report) := do
  match handled.1 n with
  | none => return handled
  | some m =>
    let configured ← m.connectionPacketReceivedEventHandler node handled.1 n data dataLength
    let parsed ←
      if m.isStatusReporter then StatusReporterModule.parseModuleResponses m data dataLength
      else pure []
    return (configured.1, handled.2 ++ configured.2 ++ parsed)

end Callback

def messageReceivedCallback (device : Device) (connection : Slot) (data : ℕ → U8)
    (dataLength : U16) : Reads (Device × List Report) := do
  let received ← handleMessage device.node connection data dataLength
  let listed ← handleModuleList data dataLength
  let handled ← fold (handleByModule received.1 data dataLength) (List.finRange maxModuleCount)
    (device.activeModules, [])
  return (⟨received.1, handled.1⟩, received.2 ++ listed ++ handled.2)

/-! ## Routing -/

section Routing

variable (node : Node) (connection : Slot) (data : ℕ → U8) (dataLength : U16) (reliable : Bool)

/-- `QueuePacket` prints the packet and copies it into the queue. -/
def queuePacket (i : Slot) : Reads Action := do
  let bytes ← readBlock data 0 dataLength.toNat
  return .queuePacket i ⟨bytes, reliable⟩

/-- The connections that `SendMessageOverConnections` queues a packet for. -/
def otherConnections : List Slot :=
  (List.finRange meshMaxConnections).filter fun i =>
    some i ≠ some connection ∧ (node.connections i).handshakeDone

def sendMessageOverConnections : Reads (List Action) :=
  forEach (queuePacket data dataLength reliable) (otherConnections node connection)

def incrementHopsToSink : Reads (ℕ → U8) := do
  let messageType ← readMessageType data
  if messageType = messageTypeClusterInfoUpdate then
    let hopsToSink ← readU16 data 17
    return if -1 < hopsToSink.toInt then overwrite data 17 (u16Bytes (hopsToSink + 1)) else data
  else return data

/-- The changes to a packet before it is relayed. -/
def relayed : Reads (ℕ → U8) := do
  let data ← incrementHopsToSink data
  let sender ← readSender data
  if nodeIdHopsBase.toNat < sender.toNat ∧ sender.toNat < nodeIdHopsBase.toNat + 31000 then
    return setSender data (sender - 1)
  else return data

def route : Reads ((ℕ → U8) × List Action) := do
  let receiver ← readReceiver data
  if node.lastReceiver receiver then return (data, [])
  else if receiver = nodeIdShortestSink then
    match node.getConnectionToShortestSink none with
    | some i => return (data, [← queuePacket data dataLength reliable i])
    | none => return (data, [])
  else
    let data ← relayed data
    return (data, ← sendMessageOverConnections node connection data dataLength reliable)

end Routing

/-! ## `Connection::ReceivePacketHandler` -/

structure Outcome where
  device : Device
  actions : List Action
  reports : List Report

section Receive

variable (device : Device) (connection : Slot) (data : ℕ → U8)

def isHandshake (messageType : MessageType) : Bool :=
  messageType = messageTypeClusterWelcome ∨ messageType = messageTypeClusterAck1 ∨
    messageType = messageTypeClusterAck2

/-- Message processing.  What the handshake reads is not noted. -/
def process (dataLength : U16) (packet : ConnectionPacket) : Reads Outcome := do
  let messageType ← readMessageType data
  if isHandshake messageType then
    let handled := device.node.process connection data dataLength packet
    return ⟨{ device with node := handled.1 }, handled.2, []⟩
  else
    let receiver ← readReceiver data
    if device.node.caresFor receiver then
      let received ← messageReceivedCallback device connection data packet.dataLength
      return ⟨received.1,
        [.messageReceived ⟨read data 0 packet.dataLength.toNat, packet.reliable⟩], received.2⟩
    else return ⟨device, [], []⟩

def routeAndProcess (dataLength : U16) (packet : ConnectionPacket) : Reads Outcome := do
  let routed ← route device.node connection data dataLength packet.reliable
  let processed ← process device connection routed.1 dataLength packet
  return { processed with actions := routed.2 ++ processed.actions }

def readTargetNodeId : Reads NodeId := do
  let high ← readByte data 2
  let low ← readByte data 1
  return high.setWidth 16 <<< 8 ||| low.setWidth 16

/-- A UART_WRITE of the phone is turned into a LIGHT_TOGGLE, and is longer then. -/
def receiveToggle (reliable : Bool) : Reads Outcome := do
  let targetNodeId ← readTargetNodeId data
  let dataValue ← readByte data 3
  let data := overwrite
    (setSender (setReceiver (setMessageType data messageTypeLightToggle) targetNodeId)
      (bleNodeId + 1))
    (sizeofConnPacketModule + 1) [dataValue]
  let dataLength : U16 := BitVec.ofNat 16 (sizeofConnPacketModule + 2)
  if targetNodeId = device.node.nodeId then
    let received ← messageReceivedCallback device connection data dataLength
    return ⟨received.1, [.messageReceived ⟨read data 0 dataLength.toNat, reliable⟩], received.2⟩
  else
    return ⟨device,
      ← sendMessageOverConnections device.node connection data dataLength reliable, []⟩

def receivePacketHandler (packet : ConnectionPacket) : Reads Outcome := do
  let messageType ← readMessageType packet.data
  if messageType = messageTypeUartWrite then
    if device.node.phoneConnected then
      receiveToggle device connection packet.data packet.reliable
    else if device.node.inFeignHandshakeMode = false then
      routeAndProcess { device with node := { device.node with inFeignHandshakeMode := true } }
        connection
        (setMessageType (setSender (setReceiver packet.data nodeIdBroadcast) (bleNodeId + 1))
          messageTypeClusterWelcome)
        (BitVec.ofNat 16 sizeofConnPacketClusterWelcome) packet
    else
      routeAndProcess { device with node := { device.node with inFeignHandshakeMode := false } }
        connection
        (setMessageType (setSender (setReceiver packet.data device.node.nodeId) (bleNodeId + 1))
          messageTypeClusterAck1)
        (BitVec.ofNat 16 sizeofConnPacketClusterAck1) packet
  else routeAndProcess device connection packet.data packet.dataLength packet

end Receive

/-! ## The same as without notes -/

@[simp] theorem value_readTargetNodeId (data : ℕ → U8) :
    (readTargetNodeId data).value = Node.targetNodeId data := (rfl)

section Values

variable (node : Node) (device : Device) (connection : Slot) (data : ℕ → U8) (dataLength : U16)
  (reliable : Bool)

theorem value_updateClusterInfo :
    (updateClusterInfo node connection data).value =
      node.updateClusterInfo connection (.ofMemory data) := by
  simp only [updateClusterInfo, value_bind, value_readU16, value_readU32]
  split_ifs with hcluster
  · rfl
  · -- In another cluster, the id of the new cluster does not matter.
    have hother : (ConnPacketClusterInfoUpdate.ofMemory data).currentClusterId ≠
        node.clusterId := hcluster
    simp only [value_bind, value_pure, Node.updateClusterInfo, hcluster, hother, false_and,
      if_false]
    rfl

theorem value_handleMessage :
    (handleMessage node connection data dataLength).value.1 =
      node.messageReceivedCallback (some connection) data dataLength := by
  simp only [handleMessage, Node.messageReceivedCallback, value_bind, value_readMessageType]
  by_cases hupdate : messageTypeAt data = messageTypeClusterInfoUpdate
  · by_cases hlength : dataLength.toNat = sizeofConnPacketClusterInfoUpdate
    · simp [hupdate, hlength, value_updateClusterInfo]
    · simp [hupdate, hlength]
  · simp only [hupdate, false_and, if_false]
    split_ifs <;> rfl

theorem value_messageReceivedCallback :
    (messageReceivedCallback device connection data dataLength).value.1.node =
      device.node.messageReceivedCallback (some connection) data dataLength :=
  value_handleMessage device.node connection data dataLength

theorem value_sendMessageOverConnections :
    (sendMessageOverConnections node connection data dataLength reliable).value =
      node.sendMessageOverConnections (some connection)
        ⟨read data 0 dataLength.toNat, reliable⟩ := by
  rw [sendMessageOverConnections, value_forEach, otherConnections,
    Node.sendMessageOverConnections, ← List.filterMap_eq_map, List.filterMap_filter]
  congr 1
  funext i
  simp only [decide_eq_true_eq]
  rfl

theorem value_relayed : (relayed data).value = Node.relayed data := by
  have hhops : (ConnPacketClusterInfoUpdate.ofMemory data).hopsToSink = u16At data 17 := rfl
  have hincremented : (incrementHopsToSink data).value =
      if messageTypeAt data = messageTypeClusterInfoUpdate ∧ -1 < (u16At data 17).toInt then
        overwrite data 17 (u16Bytes (u16At data 17 + 1))
      else data := by
    simp only [incrementHopsToSink, value_bind, value_readMessageType]
    by_cases hupdate : messageTypeAt data = messageTypeClusterInfoUpdate
    · simp only [hupdate, if_true, true_and, value_bind, value_readU16]
      split_ifs <;> rfl
    · simp only [hupdate, if_false, false_and, value_pure]
  simp only [relayed, value_bind, value_readSender, hincremented, Node.relayed, hhops]
  split_ifs <;> rfl

theorem value_route :
    (route node connection data dataLength reliable).value =
      node.route connection data dataLength reliable := by
  simp only [route, Node.route, value_bind, value_readReceiver]
  split_ifs with hlast hsink
  · rfl
  · cases node.getConnectionToShortestSink none <;> rfl
  · simp only [value_bind, value_pure, value_relayed, value_sendMessageOverConnections]

/-- The node afterwards, and what it does. -/
def Outcome.ofNode (outcome : Outcome) : Node × List Action :=
  (outcome.device.node, outcome.actions)

theorem ofNode_process (packet : ConnectionPacket) :
    (process device connection data dataLength packet).value.ofNode =
      device.node.process connection data dataLength packet := by
  rw [process, value_bind, value_readMessageType]
  by_cases hhandshake : isHandshake (messageTypeAt data) = true
  · rw [if_pos hhandshake]
    rfl
  · have hother : messageTypeAt data ≠ messageTypeClusterWelcome ∧
        messageTypeAt data ≠ messageTypeClusterAck1 ∧
        messageTypeAt data ≠ messageTypeClusterAck2 := by
      simpa [isHandshake] using hhandshake
    rw [if_neg hhandshake]
    simp only [value_bind, value_readReceiver, Node.process, hother.1, hother.2.1, hother.2.2,
      if_false]
    split_ifs
    · simp only [value_bind, value_pure, Outcome.ofNode, value_messageReceivedCallback]
    · rfl

theorem ofNode_routeAndProcess (packet : ConnectionPacket) :
    (routeAndProcess device connection data dataLength packet).value.ofNode =
      device.node.routeAndProcess connection data dataLength packet := by
  have hprocess := ofNode_process device connection
    (device.node.route connection data dataLength packet.reliable).1 dataLength packet
  simp only [routeAndProcess, value_bind, value_pure, value_route, Node.routeAndProcess,
    ← hprocess]
  rfl

theorem ofNode_receiveToggle :
    (receiveToggle device connection data reliable).value.ofNode =
      device.node.receiveToggle connection data reliable := by
  simp only [receiveToggle, Node.receiveToggle, value_bind, value_readTargetNodeId,
    value_readByte]
  split_ifs with htarget
  · simp only [value_bind, value_pure, Outcome.ofNode, value_messageReceivedCallback]
    rfl
  · simp only [value_bind, value_pure, Outcome.ofNode, value_sendMessageOverConnections]
    rfl

/-- What the node does with a packet does not depend on the modules, nor on the notes. -/
theorem ofNode_receivePacketHandler (packet : ConnectionPacket) :
    (receivePacketHandler device connection packet).value.ofNode =
      device.node.receivePacketHandler connection packet := by
  simp only [receivePacketHandler, Node.receivePacketHandler, value_bind, value_readMessageType]
  split_ifs
  · exact ofNode_receiveToggle device connection packet.data packet.reliable
  · exact ofNode_routeAndProcess _ connection _ _ packet
  · exact ofNode_routeAndProcess _ connection _ _ packet
  · exact ofNode_routeAndProcess device connection _ _ packet

end Values

end Inbound

end FruityMesh.Mesh
