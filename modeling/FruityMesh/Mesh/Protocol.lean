import FruityMesh.Mesh.Receive

/-!
# The packets of the handshake, and the UPDATE

What is on its way during a handshake and after it, and what a node does with it.  A
packet is recognised by its header and its length (`IsWelcome`, `IsAck1`, `IsAck2`,
`IsUpdate`); what its handler reads is what was written, except that the last byte of a
WELCOME, an ACK_2 and an UPDATE is what happened to lie behind the packet.
-/

namespace FruityMesh.Mesh

open Cells LittleEndian Transport
open Node (relayed)

/-! ## Packets -/

/-- A CLUSTER_WELCOME of the node `source`. -/
structure IsWelcome (source : NodeId) (message : Message) : Prop where
  type : typeOf message = messageTypeClusterWelcome
  sender : senderOf message = source
  receiver : receiverOf message = nodeIdHopsBase + 1
  length : message.bytes.length = sizeofConnPacketClusterWelcome

/-- A CLUSTER_ACK_1 of the node `source` for `destination`. -/
structure IsAck1 (source destination : NodeId) (message : Message) : Prop where
  type : typeOf message = messageTypeClusterAck1
  sender : senderOf message = source
  receiver : receiverOf message = destination
  length : message.bytes.length = sizeofConnPacketClusterAck1

/-- A CLUSTER_ACK_2 for `destination`. -/
structure IsAck2 (destination : NodeId) (message : Message) : Prop where
  type : typeOf message = messageTypeClusterAck2
  receiver : receiverOf message = destination
  length : message.bytes.length = sizeofConnPacketClusterAck2

/-- A CLUSTER_INFO_UPDATE. -/
structure IsUpdate (message : Message) : Prop where
  type : typeOf message = messageTypeClusterInfoUpdate
  receiver : receiverOf message = nodeIdBroadcast
  length : message.bytes.length = sizeofConnPacketClusterInfoUpdate

/-- The change of the cluster size that an UPDATE tells. -/
def changeOf (message : Message) : ClusterSize := u16At (memory message) 15

/-- The cluster whose id an UPDATE changes. -/
def currentOf (message : Message) : ClusterId := u32At (memory message) 7

def newOf (message : Message) : ClusterId := u32At (memory message) 11

/-- The hops in an ACK_1, or the byte of them that is transmitted in an UPDATE. -/
def hopsOfAck1 (message : Message) : ClusterSize := u16At (memory message) 7

def hopsByteOf (message : Message) : U8 := memory message 17

/-- The byte of the cluster size that is transmitted in an ACK_2. -/
def sizeByteOf (message : Message) : U8 := memory message 11

/-! ## Packets that a node writes -/

section Written

variable {header : ConnPacketHeader}

theorem holds_memory (message : Message) : Holds (memory message) 0 message.bytes := by
  intro k hk
  rw [Nat.zero_add, memory, List.getD_eq_getElem _ _ hk]

theorem header_of_holds {message : Message} (h : Holds (memory message) 0 header.bytes) :
    typeOf message = header.messageType ∧ senderOf message = header.sender ∧
      receiverOf message = header.receiver := by
  have hheader := ConnPacketHeader.ofMemory_eq h
  exact ⟨congrArg ConnPacketHeader.messageType hheader, congrArg ConnPacketHeader.sender hheader,
    congrArg ConnPacketHeader.receiver hheader⟩

/-- The bytes of a packet that is sent. -/
theorem holds_sent (packet : MeshPacket) (reliable : Bool) :
    Holds (memory ⟨packet.sent, reliable⟩) 0 packet.kept := by
  have h := holds_memory ⟨packet.sent, reliable⟩
  rwa [show (⟨packet.sent, reliable⟩ : Message).bytes = packet.kept from packet.sent_eq_kept] at h

theorem length_sent (packet : MeshPacket) : packet.sent.length = packet.size := by
  rw [packet.sent_eq_kept, packet.length_kept]

theorem isWelcome_sent {source : NodeId} (packet : ConnPacketClusterWelcome)
    (htype : packet.header.messageType = messageTypeClusterWelcome)
    (hsender : packet.header.sender = source)
    (hreceiver : packet.header.receiver = nodeIdHopsBase + 1) :
    IsWelcome source ⟨(MeshPacket.clusterWelcome packet).sent, true⟩ := by
  have hholds := holds_sent (.clusterWelcome packet) true
  simp only [MeshPacket.kept, holds_append] at hholds
  obtain ⟨htype', hsender', hreceiver'⟩ := header_of_holds hholds.1.1.1.1
  exact ⟨htype'.trans htype, hsender'.trans hsender, hreceiver'.trans hreceiver, length_sent _⟩

theorem isAck1_sent {source destination : NodeId} (packet : ConnPacketClusterAck1)
    (htype : packet.header.messageType = messageTypeClusterAck1)
    (hsender : packet.header.sender = source) (hreceiver : packet.header.receiver = destination) :
    IsAck1 source destination ⟨(MeshPacket.clusterAck1 packet).sent, true⟩ := by
  have hholds := holds_sent (.clusterAck1 packet) true
  simp only [MeshPacket.kept, holds_append] at hholds
  obtain ⟨htype', hsender', hreceiver'⟩ := header_of_holds hholds.1
  exact ⟨htype'.trans htype, hsender'.trans hsender, hreceiver'.trans hreceiver, length_sent _⟩

theorem hopsOfAck1_sent (packet : ConnPacketClusterAck1) :
    hopsOfAck1 ⟨(MeshPacket.clusterAck1 packet).sent, true⟩ = packet.hopsToSink := by
  have hholds := holds_sent (.clusterAck1 packet) true
  simp only [MeshPacket.kept, holds_append, ConnPacketHeader.length_bytes, Nat.zero_add] at hholds
  exact u16At_eq hholds.2

theorem isAck2_sent {destination : NodeId} (packet : ConnPacketClusterAck2)
    (htype : packet.header.messageType = messageTypeClusterAck2)
    (hreceiver : packet.header.receiver = destination) :
    IsAck2 destination ⟨(MeshPacket.clusterAck2 packet).sent, true⟩ := by
  have hholds := holds_sent (.clusterAck2 packet) true
  simp only [MeshPacket.kept, holds_append] at hholds
  obtain ⟨htype', _, hreceiver'⟩ := header_of_holds hholds.1.1
  exact ⟨htype'.trans htype, hreceiver'.trans hreceiver, length_sent _⟩

theorem sizeByteOf_sent (packet : ConnPacketClusterAck2) :
    [sizeByteOf ⟨(MeshPacket.clusterAck2 packet).sent, true⟩] = @lowBytes 1 packet.clusterSize := by
  have hholds := holds_sent (.clusterAck2 packet) true
  simp only [MeshPacket.kept, holds_append, ConnPacketHeader.length_bytes, length_u32Bytes,
    List.length_append, Nat.zero_add, Nat.reduceAdd] at hholds
  exact hholds.2.read_eq

theorem isUpdate_sent (packet : ConnPacketClusterInfoUpdate)
    (htype : packet.header.messageType = messageTypeClusterInfoUpdate)
    (hreceiver : packet.header.receiver = nodeIdBroadcast) :
    IsUpdate ⟨(MeshPacket.clusterInfoUpdate packet).sent, true⟩ := by
  have hholds := holds_sent (.clusterInfoUpdate packet) true
  simp only [MeshPacket.kept, holds_append] at hholds
  obtain ⟨htype', _, hreceiver'⟩ := header_of_holds hholds.1.1.1.1
  exact ⟨htype'.trans htype, hreceiver'.trans hreceiver, length_sent _⟩

/-- What an UPDATE tells arrives, but for the upper byte of the hops. -/
theorem update_sent (packet : ConnPacketClusterInfoUpdate) :
    let message : Message := ⟨(MeshPacket.clusterInfoUpdate packet).sent, true⟩
    changeOf message = packet.clusterSizeChange ∧
      currentOf message = packet.currentClusterId ∧ newOf message = packet.newClusterId ∧
        [hopsByteOf message] = @lowBytes 1 packet.hopsToSink := by
  have hholds := holds_sent (.clusterInfoUpdate packet) true
  simp only [MeshPacket.kept, holds_append, ConnPacketHeader.length_bytes, length_u32Bytes,
    length_u16Bytes, List.length_append, Nat.zero_add, Nat.reduceAdd] at hholds
  obtain ⟨⟨⟨⟨_, hcurrent⟩, hnew⟩, hchange⟩, hhops⟩ := hholds
  exact ⟨u16At_eq hchange, u32At_eq hcurrent, u32At_eq hnew, hhops.read_eq⟩

end Written

/-! ## Packets that a node receives -/

namespace Node

variable (node : Node) {i : Slot} {message : Message} {behind : ℕ → U8} {source : NodeId}

theorem lastReceiver_self : node.lastReceiver node.nodeId = true := by
  simp [lastReceiver]

theorem lastReceiver_oneHop : node.lastReceiver (nodeIdHopsBase + 1) = true := by
  simp [lastReceiver]

theorem lastReceiver_broadcast (h : node.nodeId ≠ nodeIdBroadcast) :
    node.lastReceiver nodeIdBroadcast = false := by
  have hhops : nodeIdBroadcast ≠ nodeIdHopsBase + 1 := by decide
  have hsink : nodeIdBroadcast ≠ nodeIdShortestSink := by decide
  simp only [lastReceiver, hhops, hsink, Ne.symm h, false_and, or_false, decide_false]

/-- A packet of the handshake is not relayed. -/
theorem receive_handshake (htype : typeOf message ≠ messageTypeUartWrite)
    (hlong : 5 ≤ message.bytes.length) (hlast : node.lastReceiver (receiverOf message) = true) :
    node.receivePacketHandler i (arrive message behind) =
      node.process i (arrive message behind).data (arrive message behind).dataLength
        (arrive message behind) := by
  have huart : messageTypeAt (arrive message behind).data ≠ messageTypeUartWrite :=
    type_arrive.trans_ne htype
  have hroute : node.route i (arrive message behind).data (arrive message behind).dataLength
      (arrive message behind).reliable = ((arrive message behind).data, []) := by
    unfold route
    rw [receiver_arrive hlong, if_pos hlast]
  rw [receivePacketHandler, if_neg huart, routeAndProcess, hroute]
  rfl

theorem receive_welcome (behind : ℕ → U8) (h : IsWelcome source message) :
    node.receivePacketHandler i (arrive message behind) =
        node.receiveClusterWelcome i (.ofMemory (arrive message behind).data) ∧
      senderAt (arrive message behind).data = source := by
  have hlength : message.bytes.length = 16 := h.length
  refine ⟨?_, (sender_arrive (by omega)).trans h.sender⟩
  have hlast : node.lastReceiver (receiverOf message) = true := by
    rw [h.receiver]
    exact node.lastReceiver_oneHop
  rw [node.receive_handshake (by rw [h.type]; decide) (by omega) hlast, process,
    if_pos (type_arrive.trans h.type), if_pos]
  rw [arrive_dataLength (by omega), hlength]
  rfl

theorem receive_ack1 (behind : ℕ → U8) (h : IsAck1 source node.nodeId message) :
    node.receivePacketHandler i (arrive message behind) =
        node.receiveClusterAck1 i (.ofMemory (arrive message behind).data) ∧
      senderAt (arrive message behind).data = source ∧
      u16At (arrive message behind).data 7 = hopsOfAck1 message := by
  have hlength : message.bytes.length = 9 := h.length
  have htype := h.type
  have hother : messageTypeClusterAck1 ≠ messageTypeClusterWelcome ∧
      messageTypeClusterAck1 ≠ messageTypeUpdateTimestamp := by decide
  refine ⟨?_, (sender_arrive (by omega)).trans h.sender, ?_⟩
  · have hlast : node.lastReceiver (receiverOf message) = true := by
      rw [h.receiver]
      exact node.lastReceiver_self
    rw [node.receive_handshake (by rw [htype]; decide) (by omega) hlast, process,
      if_neg (by rw [type_arrive, htype]; exact hother.1), if_pos (type_arrive.trans htype),
      if_pos]
    rw [arrive_dataLength (by omega), hlength]
    rfl
  · apply u16At_congr
    · exact arrive_data (by omega) (by omega) (Or.inr (by rw [htype]; exact hother.2))
    · exact arrive_data (by omega) (by omega) (Or.inr (by rw [htype]; exact hother.2))

theorem receive_ack2 (behind : ℕ → U8) (h : IsAck2 node.nodeId message) :
    node.receivePacketHandler i (arrive message behind) =
      (node.receiveClusterAck2 i (.ofMemory (arrive message behind).data), []) := by
  have hlength : message.bytes.length = 12 := h.length
  have htype := h.type
  have hother : messageTypeClusterAck2 ≠ messageTypeClusterWelcome ∧
      messageTypeClusterAck2 ≠ messageTypeClusterAck1 := by decide
  have hlast : node.lastReceiver (receiverOf message) = true := by
    rw [h.receiver]
    exact node.lastReceiver_self
  rw [node.receive_handshake (by rw [htype]; decide) (by omega) hlast, process,
    if_neg (by rw [type_arrive, htype]; exact hother.1),
    if_neg (by rw [type_arrive, htype]; exact hother.2), if_pos (type_arrive.trans htype), if_pos]
  rw [arrive_dataLength (by omega), hlength]
  rfl

/-- The size in an ACK_2 is read as it was written if the byte behind it is the upper one. -/
theorem ack2_size {size : ClusterSize} (h : message.bytes.length = sizeofConnPacketClusterAck2)
    (htype : typeOf message = messageTypeClusterAck2) (hbyte : [sizeByteOf message] = @lowBytes 1 size)
    (hbehind : behind 12 = @topByte 1 size) :
    u16At (arrive message behind).data 11 = size := by
  have hlength : message.bytes.length = 12 := h
  have hother : messageTypeClusterAck2 ≠ messageTypeUpdateTimestamp := by decide
  have hlow : Holds (arrive message behind).data 11 (@lowBytes 1 size) := by
    rw [← hbyte, holds_cons]
    refine ⟨?_, holds_nil _ _⟩
    exact arrive_data (by omega) (by omega) (Or.inr (by rw [htype]; exact hother))
  have hcut : (arrive message behind).data 12 = behind 12 := arrive_behind (by omega) (by omega)
  exact (@fieldAt_succ_eq_iff 1 _ 11 size hlow).mpr (hcut.trans hbehind)

/-- What a node reads from an UPDATE, after the changes that it makes before it relays it. -/
def readUpdate (message : Message) (behind : ℕ → U8) : ConnPacketClusterInfoUpdate :=
  .ofMemory (relayed (arrive message behind).data)

/-- The UPDATE that a node sends on. -/
def relayedUpdate (message : Message) (behind : ℕ → U8) : Message :=
  ⟨read (relayed (arrive message behind).data) 0 sizeofConnPacketClusterInfoUpdate,
    (arrive message behind).reliable⟩

theorem relayed_update_data (h : IsUpdate message) {k : ℕ} (hlow : 7 ≤ k) (hhigh : k < 17) :
    relayed (arrive message behind).data k = memory message k := by
  have hlength : message.bytes.length = 18 := h.length
  have hother : messageTypeClusterInfoUpdate ≠ messageTypeUpdateTimestamp := by decide
  rw [relayed_data (by omega) (by omega)]
  exact arrive_data (by omega) (by omega) (Or.inr (by rw [h.type]; exact hother))

theorem readUpdate_eq (h : IsUpdate message) :
    (readUpdate message behind).clusterSizeChange = changeOf message ∧
      (readUpdate message behind).currentClusterId = currentOf message ∧
      (readUpdate message behind).newClusterId = newOf message := by
  refine ⟨?_, ?_, ?_⟩
  · exact u16At_congr (relayed_update_data h (by omega) (by omega))
      (relayed_update_data h (by omega) (by omega))
  · exact u32At_congr fun k hk => relayed_update_data h (by omega) (by omega)
  · exact u32At_congr fun k hk => relayed_update_data h (by omega) (by omega)

/-- An UPDATE is sent on with what it tells of the cluster. -/
theorem relayedUpdate_eq (h : IsUpdate message) :
    IsUpdate (relayedUpdate message behind) ∧
      changeOf (relayedUpdate message behind) = changeOf message ∧
      currentOf (relayedUpdate message behind) = currentOf message ∧
      newOf (relayedUpdate message behind) = newOf message := by
  have hlength : message.bytes.length = 18 := h.length
  have hsize : sizeofConnPacketClusterInfoUpdate = 18 := rfl
  have hdata : ∀ k, 7 ≤ k → k < 17 → memory (relayedUpdate message behind) k = memory message k := by
    intro k hlow hhigh
    rw [relayedUpdate, memory_read (by omega), relayed_update_data h hlow hhigh]
  refine ⟨⟨?_, ?_, length_read _ _ _⟩, ?_, ?_, ?_⟩
  · rw [relayedUpdate, typeOf_read (by omega), type_relayed, type_arrive, h.type]
  · rw [relayedUpdate, receiverOf_read (by omega), receiver_relayed, receiver_arrive (by omega),
      h.receiver]
  · exact u16At_congr (hdata _ (by omega) (by omega)) (hdata _ (by omega) (by omega))
  · exact u32At_congr fun k hk => hdata _ (by omega) (by omega)
  · exact u32At_congr fun k hk => hdata _ (by omega) (by omega)

theorem receive_update (h : IsUpdate message) (hid : node.nodeId ≠ nodeIdBroadcast) :
    node.receivePacketHandler i (arrive message behind) =
      (node.updateClusterInfo i (readUpdate message behind),
        node.sendMessageOverConnections (some i) (relayedUpdate message behind) ++
          [.messageReceived (relayedUpdate message behind)]) := by
  have hlength : message.bytes.length = 18 := h.length
  have hsize : sizeofConnPacketClusterInfoUpdate = 18 := rfl
  have htype : messageTypeAt (arrive message behind).data = messageTypeClusterInfoUpdate :=
    type_arrive.trans h.type
  have hreceiver : receiverAt (arrive message behind).data = nodeIdBroadcast :=
    (receiver_arrive (by omega)).trans h.receiver
  have hdataLength : (arrive message behind).dataLength.toNat = sizeofConnPacketClusterInfoUpdate := by
    rw [arrive_dataLength (by omega), hlength, hsize]
  have hordinary : Ordinary (messageTypeAt (arrive message behind).data) := by
    rw [htype]
    unfold Ordinary
    decide
  have hsink : receiverAt (arrive message behind).data ≠ nodeIdShortestSink := by
    rw [hreceiver]
    decide
  have hcares : node.caresFor nodeIdBroadcast = true := by simp [caresFor]
  have hcallback : node.messageReceivedCallback (some i) (relayed (arrive message behind).data)
      (arrive message behind).dataLength =
        node.updateClusterInfo i (readUpdate message behind) := by
    rw [messageReceivedCallback, if_pos ⟨type_relayed.trans htype, hdataLength⟩]
    rfl
  rw [node.receive_ordinary hordinary hsink]
  simp only [hreceiver, node.lastReceiver_broadcast hid, hcares, if_true, Bool.false_eq_true,
    if_false, hcallback, hdataLength]
  rfl

end Node

end FruityMesh.Mesh
