import FruityMesh.Transport.Frames

/-!
# The mesh protocol of a node

The part of `Node.cpp`, `Connection.cpp` and `ConnectionManager.cpp` that decides what a
node does with an event of the stack: a connection is established or lost, or a packet has
arrived on one of its connections.

A handler takes the node and returns the node afterwards, with what it did apart from
changing the node, in this order: packets that it put into the queue of a connection,
connections that it asked the stack to close, and packets that it handed to
`Node::messageReceivedCallback`.  A packet is a pointer into memory, and a handler that
casts the pointer to a struct reads what stands there, also behind the packet.

Logging, advertising, the discovery states and the modules are left out; none of them
changes what is modelled here.
-/

namespace FruityMesh.Mesh

open Cells Transport

inductive DeviceType
  | static
  | roaming
  | sink
  deriving DecidableEq, Repr

structure Connection where
  isConnected : Bool
  handshakeDone : Bool
  partnerId : NodeId
  connectedClusterId : ClusterId
  connectedClusterSize : ClusterSize
  hopsToSink : ClusterSize
  writeCharacteristicHandle : U16
  deriving DecidableEq, Repr

/-- `Connection::Init`.  The size of the connected cluster is kept. -/
def Connection.init (c : Connection) : Connection :=
  { c with
    isConnected := false
    handshakeDone := false
    partnerId := 0
    connectedClusterId := 0
    hopsToSink := -1
    writeCharacteristicHandle := 0 }

/-- The index of a connection in `ConnectionManager::connections`. -/
abbrev Slot := Fin meshMaxConnections

structure Node where
  nodeId : NodeId
  deviceType : DeviceType
  meshWriteHandle : U16
  connectionLossCounter : U16
  clusterId : ClusterId
  clusterSize : ClusterSize
  inFeignHandshakeMode : Bool
  connections : Slot → Connection

/-- What a handler does apart from changing the node. -/
inductive Action
  | queuePacket (i : Slot) (message : Message)
  | disconnect (i : Slot)
  | messageReceived (message : Message)
  deriving DecidableEq, Repr

/-! ## Packets in memory -/

def senderAt (data : ℕ → U8) : NodeId := u16At data 1

def receiverAt (data : ℕ → U8) : NodeId := u16At data 3

def messageTypeAt (data : ℕ → U8) : MessageType := messageTypeOf (data 0)

def setMessageType (data : ℕ → U8) (messageType : MessageType) : ℕ → U8 :=
  overwrite data 0 [firstByte (hasMorePartsOf (data 0)) messageType]

def setSender (data : ℕ → U8) (sender : NodeId) : ℕ → U8 := overwrite data 1 (u16Bytes sender)

def setReceiver (data : ℕ → U8) (receiver : NodeId) : ℕ → U8 :=
  overwrite data 3 (u16Bytes receiver)

/-- The hops in the packet increased by the hop over the connection; a negative number
means that no sink is known. -/
def hopsBehind (hops : ClusterSize) : ClusterSize := if hops.toInt < 0 then -1 else hops + 1

namespace Node

/-- Replace one connection. -/
def setConnection (node : Node) (i : Slot) (c : Connection) : Node :=
  { node with connections := Function.update node.connections i c }

/-- The header of a packet of this node.  The source leaves the bit for more parts to
`fillTransmitBuffers`, and the remote receiver unset. -/
def packetHeader (node : Node) (messageType : MessageType) (receiver : NodeId) :
    ConnPacketHeader :=
  ⟨false, messageType, node.nodeId, receiver, 0⟩

/-! ## `ConnectionManager` -/

/-- `SendMessage`, as the handshake uses it. -/
def sendMessage (i : Slot) (packet : MeshPacket) : Action := .queuePacket i ⟨packet.sent, true⟩

/-- `SendMessageOverConnections`. -/
def sendMessageOverConnections (node : Node) (ignoreConnection : Option Slot)
    (message : Message) : List Action :=
  (List.finRange meshMaxConnections).filterMap fun i =>
    if some i ≠ ignoreConnection ∧ (node.connections i).handshakeDone then
      some (.queuePacket i message)
    else none

/-- `DisconnectOtherConnections`. -/
def disconnectOtherConnections (node : Node) (connection : Slot) : List Action :=
  (List.finRange meshMaxConnections).filterMap fun i =>
    if i ≠ connection ∧ (node.connections i).isConnected then some (.disconnect i) else none

/-- The loop that finds the first connection with the fewest hops, among those that are
considered. -/
def closest (node : Node) (considered : Slot → Bool) : Option Slot :=
  ((List.finRange meshMaxConnections).foldl
    (fun (best : ClusterSize × Option Slot) i =>
      let hopsToSink := (node.connections i).hopsToSink
      if considered i ∧ -1 < hopsToSink.toInt ∧ hopsToSink.toInt < best.1.toInt then
        (hopsToSink, some i)
      else best)
    (int16Max, none)).2

/-- `GetConnectionToShortestSink`. -/
def getConnectionToShortestSink (node : Node) (excludeConnection : Option Slot) : Option Slot :=
  node.closest fun i => some i ≠ excludeConnection && (node.connections i).handshakeDone

/-- `GetHopsToShortestSink`.  Unlike the one before, it also considers connections
without a handshake. -/
def getHopsToShortestSink (node : Node) (excludeConnection : Option Slot) : ClusterSize :=
  if node.deviceType = .sink then 0
  else
    match node.closest fun i => some i ≠ excludeConnection with
    | none => -1
    | some i => (node.connections i).hopsToSink

/-- The loop that tells the other connections about a change of the cluster. -/
def sendClusterInfoUpdate (node : Node) (connection : Slot) (currentClusterId newClusterId : ClusterId)
    (clusterSizeChange : ClusterSize) : List Action :=
  (List.finRange meshMaxConnections).filterMap fun i =>
    if i = connection ∨ ¬ (node.connections i).handshakeDone then none
    else
      some (sendMessage i (.clusterInfoUpdate {
        header := node.packetHeader messageTypeClusterInfoUpdate nodeIdBroadcast
        currentClusterId := currentClusterId
        newClusterId := newClusterId
        clusterSizeChange := clusterSizeChange
        hopsToSink := node.getHopsToShortestSink (some i) }))

/-! ## `Node` -/

/-- `UpdateClusterInfo`. -/
def updateClusterInfo (node : Node) (connection : Slot) (packet : ConnPacketClusterInfoUpdate) :
    Node :=
  let c := { node.connections connection with hopsToSink := hopsBehind packet.hopsToSink }
  let sized :=
    { node with clusterSize := node.clusterSize + packet.clusterSizeChange }.setConnection
      connection { c with connectedClusterSize := c.connectedClusterSize + packet.clusterSizeChange }
  if packet.currentClusterId = node.clusterId ∧ packet.newClusterId ≠ 0 then
    { sized with clusterId := packet.newClusterId }.setConnection connection
      { sized.connections connection with connectedClusterId := packet.newClusterId }
  else sized

/-- `messageReceivedCallback`, for a packet that arrived on `connection`.  A packet that
the node sends to itself names the connection with the handle 0, if there is one; without
one, the source would follow a null pointer. -/
def messageReceivedCallback (node : Node) (connection : Option Slot) (data : ℕ → U8)
    (dataLength : U16) : Node :=
  if messageTypeAt data = messageTypeClusterInfoUpdate ∧
      dataLength.toNat = sizeofConnPacketClusterInfoUpdate then
    match connection with
    | some i => node.updateClusterInfo i (.ofMemory data)
    | none => node
  else node

/-! ## `SendMessageToReceiver` -/

/-- `SendMessageToReceiver`; `loopback` is the connection with the handle 0. -/
def sendMessageToReceiver (node : Node) (originConnection loopback : Option Slot)
    (packet : ConnectionPacket) : Node × List Action :=
  let receiver := receiverAt packet.data
  let toUs : Bool :=
    receiver = node.nodeId ∨ (originConnection = none ∧ receiver = nodeIdBroadcast)
  let handled :=
    if toUs then
      (node.messageReceivedCallback loopback packet.data packet.dataLength,
        [Action.messageReceived packet.message])
    else (node, [])
  -- one copy towards the sink, or none if no sink is known
  if receiver = nodeIdShortestSink then
    (handled.1, handled.2 ++
      ((handled.1.getConnectionToShortestSink none).map
        fun i => Action.queuePacket i packet.message).toList)
  else if receiver ≠ node.nodeId then
    (handled.1, handled.2 ++
      handled.1.sendMessageOverConnections originConnection packet.message)
  else handled

/-! ## `Connection::ReceivePacketHandler` -/

/-- We are the last receiver of a packet. -/
def lastReceiver (node : Node) (receiver : NodeId) : Bool :=
  receiver = node.nodeId ∨ receiver = nodeIdHopsBase + 1 ∨
    (receiver = nodeIdShortestSink ∧ node.deviceType = .sink)

/-- The changes to a packet before it is relayed. -/
def relayed (data : ℕ → U8) : ℕ → U8 :=
  -- the hops in the packet are increased here, and once more in `UpdateClusterInfo` of the receiver
  let data :=
    if messageTypeAt data = messageTypeClusterInfoUpdate ∧
        -1 < (ConnPacketClusterInfoUpdate.ofMemory data).hopsToSink.toInt then
      overwrite data 17 (u16Bytes ((ConnPacketClusterInfoUpdate.ofMemory data).hopsToSink + 1))
    else data
  -- the source tests and decrements the sender, where it speaks of the receiver
  if nodeIdHopsBase.toNat < (senderAt data).toNat ∧
      (senderAt data).toNat < nodeIdHopsBase.toNat + 31000 then
    setSender data (senderAt data - 1)
  else data

/-- Routing: the packet afterwards, and where it is sent. -/
def route (node : Node) (connection : Slot) (data : ℕ → U8) (dataLength : U16) (reliable : Bool) :
    (ℕ → U8) × List Action :=
  if node.lastReceiver (receiverAt data) then (data, [])
  else if receiverAt data = nodeIdShortestSink then
    (data, ((node.getConnectionToShortestSink none).map
      fun i => Action.queuePacket i ⟨read data 0 dataLength.toNat, reliable⟩).toList)
  else
    (relayed data, node.sendMessageOverConnections (some connection)
      ⟨read (relayed data) 0 dataLength.toNat, reliable⟩)

/-- `StartHandshake`. -/
def startHandshake (node : Node) (connection : Slot) : List Action :=
  if (node.connections connection).handshakeDone then []
  else
    [sendMessage connection (.clusterWelcome {
      header := node.packetHeader messageTypeClusterWelcome (nodeIdHopsBase + 1)
      clusterId := node.clusterId
      clusterSize := node.clusterSize
      meshWriteHandle := node.meshWriteHandle
      hopsToSink := node.getHopsToShortestSink (some connection) })]

/-- The cluster that the packet tells about is smaller than ours. -/
def isBigger (node : Node) (packet : ConnPacketClusterWelcome) : Bool :=
  packet.clusterSize.toInt < node.clusterSize.toInt ∨
    (packet.clusterSize = node.clusterSize ∧ packet.clusterId < node.clusterId)

/-- CLUSTER_WELCOME: the node with the smaller cluster leaves it and joins the other one. -/
def receiveClusterWelcome (node : Node) (connection : Slot) (packet : ConnPacketClusterWelcome) :
    Node × List Action :=
  let c :=
    { node.connections connection with writeCharacteristicHandle := packet.meshWriteHandle }
  -- the cluster that we are in already
  if packet.clusterId = node.clusterId then
    (node.setConnection connection c, [.disconnect connection])
  -- the peripheral has not spoken yet and starts the handshake from its side
  else if node.isBigger packet then
    (node.setConnection connection c,
      if connection = inConnection then (node.setConnection connection c).startHandshake connection
      else [])
  else
    let joining := node.setConnection connection
      { c with
        partnerId := packet.header.sender
        hopsToSink := hopsBehind packet.hopsToSink }
    (joining,
      node.disconnectOtherConnections connection ++
        [sendMessage connection (.clusterAck1 {
          header := node.packetHeader messageTypeClusterAck1 packet.header.sender
          hopsToSink := joining.getHopsToShortestSink (some connection)
          reserved := 0 })])

/-- CLUSTER_ACK_1: another node confirms that it is joining our cluster. -/
def receiveClusterAck1 (node : Node) (connection : Slot) (packet : ConnPacketClusterAck1) :
    Node × List Action :=
  let c := node.connections connection
  let joined := { node with clusterSize := node.clusterSize + 1 }.setConnection connection
    { c with
      hopsToSink := hopsBehind packet.hopsToSink
      connectedClusterId := node.clusterId
      partnerId := packet.header.sender
      connectedClusterSize := c.connectedClusterSize + 1
      handshakeDone := true }
  (joined,
    joined.sendClusterInfoUpdate connection joined.clusterId 0 1 ++
      [sendMessage connection (.clusterAck2 {
        header := joined.packetHeader messageTypeClusterAck2 packet.header.sender
        clusterId := joined.clusterId
        clusterSize := joined.clusterSize })])

/-- CLUSTER_ACK_2: we have joined the cluster. -/
def receiveClusterAck2 (node : Node) (connection : Slot) (packet : ConnPacketClusterAck2) : Node :=
  let c := node.connections connection
  { node with
    clusterId := packet.clusterId
    clusterSize := node.clusterSize + (packet.clusterSize - 1) }.setConnection connection
    { c with
      connectedClusterId := packet.clusterId
      connectedClusterSize := c.connectedClusterSize + (packet.clusterSize - 1)
      handshakeDone := true }

/-- We care for the packet. -/
def caresFor (node : Node) (receiver : NodeId) : Bool :=
  receiver = node.nodeId ∨ receiver = nodeIdBroadcast ∨
    (nodeIdHopsBase.toNat ≤ receiver.toNat ∧ receiver.toNat < nodeIdHopsBase.toNat + 1000) ∨
    (receiver = nodeIdShortestSink ∧ node.deviceType = .sink)

/-- The handshake, and the processing of all other packets.  The handshake looks at
`dataLength`; the node gets the packet with its own length. -/
def process (node : Node) (connection : Slot) (data : ℕ → U8) (dataLength : U16)
    (packet : ConnectionPacket) : Node × List Action :=
  if messageTypeAt data = messageTypeClusterWelcome then
    if dataLength.toNat = sizeofConnPacketClusterWelcome then
      node.receiveClusterWelcome connection (.ofMemory data)
    else (node, [])
  else if messageTypeAt data = messageTypeClusterAck1 then
    if dataLength.toNat = sizeofConnPacketClusterAck1 then
      node.receiveClusterAck1 connection (.ofMemory data)
    else (node, [])
  else if messageTypeAt data = messageTypeClusterAck2 then
    if dataLength.toNat = sizeofConnPacketClusterAck2 then
      (node.receiveClusterAck2 connection (.ofMemory data), [])
    else (node, [])
  -- after the handshake; a received packet of the handshake never gets here
  else if node.caresFor (receiverAt data) then
    (node.messageReceivedCallback (some connection) data packet.dataLength,
      [.messageReceived ⟨read data 0 packet.dataLength.toNat, packet.reliable⟩])
  else (node, [])

/-- Routing, handshake and message processing. -/
def routeAndProcess (node : Node) (connection : Slot) (data : ℕ → U8) (dataLength : U16)
    (packet : ConnectionPacket) : Node × List Action :=
  let routed := node.route connection data dataLength packet.reliable
  let processed := node.process connection routed.1 dataLength packet
  (processed.1, routed.2 ++ processed.2)

/-! ### Packets of the phone -/

def sizeofConnPacketModule : ℕ := sizeofConnPacketHeader + 4

/-- One of the connections that the loop looks at is to the phone. -/
def phoneConnected (node : Node) : Bool :=
  (List.finRange meshMaxConnections).any fun i =>
    i.val < meshMaxOutConnections ∧
      ((node.connections i).partnerId = bleNodeId ∨ (node.connections i).partnerId = bleNodeId + 1)

/-- The node that a UART_WRITE of the phone is meant for. -/
def targetNodeId (data : ℕ → U8) : NodeId := (data 2).setWidth 16 <<< 8 ||| (data 1).setWidth 16

/-- A UART_WRITE of the phone is turned into a LIGHT_TOGGLE. -/
def toggleLight (data : ℕ → U8) : ℕ → U8 :=
  overwrite
    (setSender (setReceiver (setMessageType data messageTypeLightToggle) (targetNodeId data))
      (bleNodeId + 1))
    (sizeofConnPacketModule + 1) [data 3]

/-- The toggle is for us, or for somebody else. -/
def receiveToggle (node : Node) (connection : Slot) (data : ℕ → U8) (reliable : Bool) :
    Node × List Action :=
  let message : Message := ⟨read (toggleLight data) 0 (sizeofConnPacketModule + 2), reliable⟩
  if targetNodeId data = node.nodeId then
    (node.messageReceivedCallback (some connection) (toggleLight data)
      (BitVec.ofNat 16 (sizeofConnPacketModule + 2)), [.messageReceived message])
  else (node, node.sendMessageOverConnections (some connection) message)

/-- `Connection::ReceivePacketHandler`.  The first two UART_WRITE packets of a phone are taken
for a WELCOME and an ACK_1 of a node that joins. -/
def receivePacketHandler (node : Node) (connection : Slot) (packet : ConnectionPacket) :
    Node × List Action :=
  if messageTypeAt packet.data = messageTypeUartWrite then
    -- once a connection has the id of the phone, its packets are toggles
    if node.phoneConnected then
      node.receiveToggle connection packet.data packet.reliable
    else if node.inFeignHandshakeMode = false then
      { node with inFeignHandshakeMode := true }.routeAndProcess connection
        (setMessageType (setSender (setReceiver packet.data nodeIdBroadcast) (bleNodeId + 1))
          messageTypeClusterWelcome)
        (BitVec.ofNat 16 sizeofConnPacketClusterWelcome) packet
    else
      { node with inFeignHandshakeMode := false }.routeAndProcess connection
        (setMessageType (setSender (setReceiver packet.data node.nodeId) (bleNodeId + 1))
          messageTypeClusterAck1)
        (BitVec.ofNat 16 sizeofConnPacketClusterAck1) packet
  else node.routeAndProcess connection packet.data packet.dataLength packet

/-! ## Establishing and losing a connection -/

/-- `ConnectAsMaster`, for the connection that it chooses. -/
def connectAsMaster (node : Node) (connection : Slot) (writeCharacteristicHandle : U16) : Node :=
  node.setConnection connection
    { (node.connections connection).init with
      writeCharacteristicHandle := writeCharacteristicHandle }

/-- `ConnectionSuccessfulHandler`: the central starts the handshake. -/
def connectionSuccessfulHandler (node : Node) (connection : Slot) : Node × List Action :=
  let connected := node.setConnection connection
    { node.connections connection with isConnected := true }
  (connected, if connection = inConnection then [] else connected.startHandshake connection)

/-- Our part of the cluster is the smaller one when the connection is lost. -/
def isSmallerPart (node : Node) (connection : Slot) : Bool :=
  let c := node.connections connection
  let ownSize := node.clusterSize.toInt - c.connectedClusterSize.toInt
  ownSize < c.connectedClusterSize.toInt ∨
    (ownSize = c.connectedClusterSize.toInt ∧ node.nodeId < c.partnerId)

/-- `Node::DisconnectionHandler`; `generated` is what `GenerateClusterID` returns. -/
def nodeDisconnectionHandler (node : Node) (connection : Slot) (generated : ClusterId) :
    Node × List Action :=
  let c := node.connections connection
  let counted := { node with connectionLossCounter := node.connectionLossCounter + 1 }
  if c.handshakeDone then
    if node.isSmallerPart connection then
      let left :=
        { counted with
          clusterId := generated
          clusterSize := node.clusterSize - c.connectedClusterSize }
      (left, left.sendClusterInfoUpdate connection c.connectedClusterId generated
        (-c.connectedClusterSize))
    else
      let left := { counted with clusterSize := node.clusterSize - c.connectedClusterSize }
      (left, left.sendClusterInfoUpdate connection c.connectedClusterId 0 (-c.connectedClusterSize))
  else (counted, [])

/-- `Connection::DisconnectionHandler`.  It subtracts the connected cluster from the size of
the cluster after it has set it to zero. -/
def connectionDisconnectionHandler (node : Node) (connection : Slot) (reason : U8) : Node :=
  let c := node.connections connection
  let node :=
    if (c.partnerId = bleNodeId ∨ c.partnerId = bleNodeId + 1) ∧ reason = 19 then
      { node with inFeignHandshakeMode := false }
    else node
  node.setConnection connection { c with connectedClusterSize := 0 }.init

/-- `ConnectionManager::DisconnectionHandler`: the node first, then the connection. -/
def disconnectionHandler (node : Node) (connection : Slot) (reason : U8) (generated : ClusterId) :
    Node × List Action :=
  let closed := node.setConnection connection
    { node.connections connection with isConnected := false }
  let left := closed.nodeDisconnectionHandler connection generated
  (left.1.connectionDisconnectionHandler connection reason, left.2)

end Node

end FruityMesh.Mesh
