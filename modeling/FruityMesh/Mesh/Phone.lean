import FruityMesh.Mesh.Handshake
import FruityMesh.Mesh.LightToggle

/-!
# The handshake of a phone

A phone does not know the handshake.  The node takes the first two packets that the phone
writes for a WELCOME and an ACK_1: it changes their headers in place and goes on with what
the phone wrote as their payload.

The receiver of the feigned WELCOME is everybody, so the node relays it to the mesh like any
broadcast, and its payload can tell of a bigger cluster.  Then the node leaves its own cluster
for the one of the phone, and since the relay has counted the sender down to the id that marks
a phone, it takes the second write for a light toggle (`harmless_iff`).
-/

namespace FruityMesh.Mesh

open Cells Transport
open Node (relayed)

/-! ## Headers that are changed in place -/

theorem senderAt_setSender (data : ℕ → U8) (sender : NodeId) :
    senderAt (setSender data sender) = sender := u16At_overwrite data 1 sender

theorem receiverAt_setReceiver (data : ℕ → U8) (receiver : NodeId) :
    receiverAt (setReceiver data receiver) = receiver := u16At_overwrite data 3 receiver

theorem receiverAt_setSender (data : ℕ → U8) (sender : NodeId) :
    receiverAt (setSender data sender) = receiverAt data :=
  u16At_congr (overwrite_u16Bytes data sender (by omega))
    (overwrite_u16Bytes data sender (by omega))

theorem setMessageType_of_pos (data : ℕ → U8) (messageType : MessageType) {k : ℕ} (hk : 0 < k) :
    setMessageType data messageType k = data k := overwrite_of_ge _ hk

theorem senderAt_setMessageType (data : ℕ → U8) (messageType : MessageType) :
    senderAt (setMessageType data messageType) = senderAt data :=
  u16At_congr (setMessageType_of_pos data _ (by omega)) (setMessageType_of_pos data _ (by omega))

theorem receiverAt_setMessageType (data : ℕ → U8) (messageType : MessageType) :
    receiverAt (setMessageType data messageType) = receiverAt data :=
  u16At_congr (setMessageType_of_pos data _ (by omega)) (setMessageType_of_pos data _ (by omega))

/-- A write of the phone that is taken for another packet. -/
def feigned (data : ℕ → U8) (receiver : NodeId) (messageType : MessageType) : ℕ → U8 :=
  setMessageType (setSender (setReceiver data receiver) (bleNodeId + 1)) messageType

section Feigned

variable (data : ℕ → U8) (receiver : NodeId) (messageType : MessageType)

theorem messageTypeAt_feigned : messageTypeAt (feigned data receiver messageType) = messageType :=
  messageTypeAt_setMessageType _ messageType

theorem senderAt_feigned : senderAt (feigned data receiver messageType) = bleNodeId + 1 := by
  rw [feigned, senderAt_setMessageType, senderAt_setSender]

theorem receiverAt_feigned : receiverAt (feigned data receiver messageType) = receiver := by
  rw [feigned, receiverAt_setMessageType, receiverAt_setSender, receiverAt_setReceiver]

/-- The payload is what the phone wrote. -/
theorem feigned_payload {k : ℕ} (hk : 5 ≤ k) : feigned data receiver messageType k = data k := by
  calc feigned data receiver messageType k
      = setSender (setReceiver data receiver) (bleNodeId + 1) k :=
        setMessageType_of_pos _ _ (by omega)
    _ = setReceiver data receiver k := overwrite_u16Bytes _ _ (by omega)
    _ = data k := overwrite_u16Bytes _ _ (by omega)

end Feigned

/-! ## The two writes -/

namespace Node

variable {node : Node} {i : Slot} {packet : ConnectionPacket} {data : ℕ → U8}

/-- A WELCOME for everybody is relayed before it is handled. -/
theorem routeAndProcess_welcome (htype : messageTypeAt data = messageTypeClusterWelcome)
    (hreceiver : receiverAt data = nodeIdBroadcast) (hid : node.nodeId ≠ nodeIdBroadcast) :
    node.routeAndProcess i data (BitVec.ofNat 16 sizeofConnPacketClusterWelcome) packet =
      ((node.receiveClusterWelcome i (.ofMemory (relayed data))).1,
        node.sendMessageOverConnections (some i)
            ⟨read (relayed data) 0 sizeofConnPacketClusterWelcome, packet.reliable⟩ ++
          (node.receiveClusterWelcome i (.ofMemory (relayed data))).2) := by
  have hlast : ¬ node.lastReceiver (receiverAt data) = true := by
    rw [hreceiver, node.lastReceiver_broadcast hid]
    decide
  have hsink : receiverAt data ≠ nodeIdShortestSink := by
    rw [hreceiver]
    decide
  have hsize : (BitVec.ofNat 16 sizeofConnPacketClusterWelcome).toNat =
      sizeofConnPacketClusterWelcome := by decide
  rw [routeAndProcess, route, if_neg hlast, if_neg hsink]
  simp only [process, type_relayed, if_pos htype, hsize, if_true]

/-- An ACK_1 for the node is handled, and not relayed. -/
theorem routeAndProcess_ack1 (htype : messageTypeAt data = messageTypeClusterAck1)
    (hreceiver : receiverAt data = node.nodeId) :
    node.routeAndProcess i data (BitVec.ofNat 16 sizeofConnPacketClusterAck1) packet =
      node.receiveClusterAck1 i (.ofMemory data) := by
  have hlast : node.lastReceiver (receiverAt data) = true := by
    rw [hreceiver]
    exact node.lastReceiver_self
  have hsize : (BitVec.ofNat 16 sizeofConnPacketClusterAck1).toNat =
      sizeofConnPacketClusterAck1 := by decide
  have hother : ¬ messageTypeAt data = messageTypeClusterWelcome := by
    rw [htype]
    decide
  rw [routeAndProcess, route, if_pos hlast]
  simp only [process, if_neg hother, if_pos htype, hsize, if_true, List.nil_append]

/-- The node waits for the second write of a phone, or it does not. -/
def feigning (node : Node) (mode : Bool) : Node := { node with inFeignHandshakeMode := mode }

/-- The first write is relayed as a WELCOME, and handled as one. -/
theorem receive_feignedWelcome (huart : messageTypeAt packet.data = messageTypeUartWrite)
    (hphone : node.phoneConnected = false) (hmode : node.inFeignHandshakeMode = false)
    (hid : node.nodeId ≠ nodeIdBroadcast)
    (hdata : data = relayed (feigned packet.data nodeIdBroadcast messageTypeClusterWelcome)) :
    node.receivePacketHandler i packet =
      (((node.feigning true).receiveClusterWelcome i (.ofMemory data)).1,
        node.sendMessageOverConnections (some i)
            ⟨read data 0 sizeofConnPacketClusterWelcome, packet.reliable⟩ ++
          ((node.feigning true).receiveClusterWelcome i (.ofMemory data)).2) := by
  rw [receivePacketHandler, if_pos huart, if_neg (by simp [hphone]), if_pos hmode, hdata]
  exact routeAndProcess_welcome (messageTypeAt_feigned _ _ _)
    (receiverAt_feigned _ _ _) hid

/-- The second write is handled as an ACK_1. -/
theorem receive_feignedAck1 (huart : messageTypeAt packet.data = messageTypeUartWrite)
    (hphone : node.phoneConnected = false) (hmode : node.inFeignHandshakeMode = true) :
    node.receivePacketHandler i packet =
      (node.feigning false).receiveClusterAck1 i
        (.ofMemory (feigned packet.data node.nodeId messageTypeClusterAck1)) := by
  rw [receivePacketHandler, if_pos huart, if_neg (by simp [hphone]), if_neg (by simp [hmode])]
  exact routeAndProcess_ack1 (messageTypeAt_feigned _ _ _)
    (receiverAt_feigned _ _ _)

end Node

/-! ## What the mesh notices -/

theorem closes_append (first second : List Action) (i : Slot) :
    closes (first ++ second) i = (closes first i || closes second i) :=
  List.contains_append ..

/-- On the connections other than the one to the phone, no packet of the handshake is sent, and
none of them is asked to close. -/
structure Unnoticed (actions : List Action) : Prop where
  noHandshake : ∀ k ≠ inConnection, ∀ message ∈ sends actions k, ¬ IsHandshake message
  noDisconnect : ∀ k ≠ inConnection, closes actions k = false

theorem unnoticed_append {first second : List Action} :
    Unnoticed (first ++ second) ↔ Unnoticed first ∧ Unnoticed second := by
  constructor
  · intro h
    refine ⟨⟨?_, ?_⟩, ⟨?_, ?_⟩⟩
    · intro k hk m hm
      exact h.noHandshake k hk m (by rw [sends_append]; exact List.mem_append_left _ hm)
    · intro k hk
      have := h.noDisconnect k hk
      rw [closes_append, Bool.or_eq_false_iff] at this
      exact this.1
    · intro k hk m hm
      exact h.noHandshake k hk m (by rw [sends_append]; exact List.mem_append_right _ hm)
    · intro k hk
      have := h.noDisconnect k hk
      rw [closes_append, Bool.or_eq_false_iff] at this
      exact this.2
  · rintro ⟨hfirst, hsecond⟩
    refine ⟨?_, ?_⟩
    · intro k hk m hm
      rw [sends_append] at hm
      exact (List.mem_append.mp hm).elim (hfirst.noHandshake k hk m) (hsecond.noHandshake k hk m)
    · intro k hk
      rw [closes_append, hfirst.noDisconnect k hk, hsecond.noDisconnect k hk]
      rfl

theorem unnoticed_nil : Unnoticed [] :=
  ⟨fun _ _ _ hm => absurd hm List.not_mem_nil, fun _ _ => rfl⟩

/-- The phone itself may be answered. -/
theorem unnoticed_sendMessage (packet : MeshPacket) :
    Unnoticed [Node.sendMessage inConnection packet] := by
  refine ⟨?_, fun k hk => by simp [closes, Node.sendMessage]⟩
  intro k hk m hm
  rw [Node.sendMessage, sends_queuePacket, if_neg hk.symm] at hm
  exact absurd hm List.not_mem_nil

theorem unnoticed_disconnect : Unnoticed [.disconnect inConnection] := by
  refine ⟨fun k hk m hm => absurd hm (by simp), fun k hk => ?_⟩
  simpa [closes] using hk

namespace Node

variable (node : Node)

theorem unnoticed_sendMessageOverConnections {message : Message} :
    Unnoticed (node.sendMessageOverConnections (some inConnection) message) ↔
      (∀ k ≠ inConnection, (node.connections k).handshakeDone = false) ∨ ¬ IsHandshake message := by
  constructor
  · intro h
    by_cases hmessage : IsHandshake message
    · left
      intro k hk
      by_contra hdone
      refine h.noHandshake k hk message ?_ hmessage
      rw [node.sends_sendMessageOverConnections, if_pos]
      · exact List.mem_singleton_self message
      · exact ⟨fun heq => hk (Option.some.inj heq), by simpa using hdone⟩
    · exact Or.inr hmessage
  · intro h
    refine ⟨?_, fun k _ => node.closes_sendMessageOverConnections _ _ k⟩
    intro k hk m hm
    rw [node.sends_sendMessageOverConnections] at hm
    split_ifs at hm with hsent
    · rcases h with hnone | hother
      · exact absurd hsent.2 (by simp [hnone k hk])
      · rw [List.mem_singleton.mp hm]
        exact hother
    · exact absurd hm List.not_mem_nil

theorem unnoticed_startHandshake : Unnoticed (node.startHandshake inConnection) := by
  unfold startHandshake
  split_ifs
  · exact unnoticed_nil
  · exact unnoticed_sendMessage _

/-- The mesh is told of the new node by UPDATEs. -/
theorem unnoticed_ack1 (packet : ConnPacketClusterAck1) :
    Unnoticed (node.receiveClusterAck1 inConnection packet).2 := by
  unfold receiveClusterAck1
  apply unnoticed_append.mpr
  refine ⟨⟨?_, ?_⟩, unnoticed_sendMessage _⟩
  · intro k _ m hm
    rw [sends_sendClusterInfoUpdate] at hm
    split_ifs at hm
    · exact absurd hm List.not_mem_nil
    · rw [List.mem_singleton.mp hm, IsHandshake, (isUpdate_announcement _ _ _ _ k).type]
      decide
  · intro k _
    rw [sendClusterInfoUpdate_eq, closes_loop]

/-- A node that knows a phone takes every write for a light toggle, and does not change. -/
theorem receive_toggle {packet : ConnectionPacket} {i : Slot}
    (huart : messageTypeAt packet.data = messageTypeUartWrite)
    (hphone : node.phoneConnected = true) :
    (node.receivePacketHandler i packet).1 = node ∧
      (i = inConnection → Unnoticed (node.receivePacketHandler i packet).2) := by
  have hhandled : node.receivePacketHandler i packet =
      node.receiveToggle i packet.data packet.reliable := by
    rw [receivePacketHandler, if_pos huart, if_pos hphone]
  have hother : ¬ messageTypeLightToggle = messageTypeClusterInfoUpdate := by decide
  rw [hhandled, receiveToggle]
  split_ifs with hown
  · refine ⟨?_, fun _ => ⟨fun k _ m hm => absurd hm (by simp), fun k _ => by simp [closes]⟩⟩
    rw [messageReceivedCallback, messageTypeAt_toggleLight, if_neg fun h => hother h.1]
  · refine ⟨rfl, ?_⟩
    rintro rfl
    apply node.unnoticed_sendMessageOverConnections.mpr
    right
    rw [IsHandshake, typeOf_read (by decide), messageTypeAt_toggleLight]
    decide

end Node

/-! ## The two writes -/

/-- A phone has connected to the incoming connection; none of the connections of the node was
one to a phone before. -/
structure PhoneConnects (node : Node) : Prop where
  device : 1 ≤ node.nodeId.toNat ∧ node.nodeId.toNat ≤ 19999
  unknown : ∀ i, (node.connections i).partnerId ≠ bleNodeId ∧
    (node.connections i).partnerId ≠ bleNodeId + 1
  isConnected : (node.connections inConnection).isConnected = true
  undone : (node.connections inConnection).handshakeDone = false

/-- The node handles two writes of the phone. -/
def Node.phoneGreets (node : Node) (first second : ConnectionPacket) : Node × List Action :=
  let greeted := node.receivePacketHandler inConnection first
  let joined := greeted.1.receivePacketHandler inConnection second
  (joined.1, greeted.2 ++ joined.2)

/-- The node has got one more node, the phone, and the mesh has not noticed more than that. -/
structure Harmless (node : Node) (result : Node × List Action) : Prop where
  unnoticed : Unnoticed result.2
  grown : result.1.clusterSize.toInt = node.clusterSize.toInt + 1
  handshakeDone : (result.1.connections inConnection).handshakeDone = true
  partnerId : (result.1.connections inConnection).partnerId = bleNodeId + 1
  inFeignHandshakeMode : result.1.inFeignHandshakeMode = false

theorem toInt_add_one (size : ClusterSize) :
    (size + 1).toInt = size.toInt + 1 ↔ size ≠ int16Max := by
  unfold int16Max
  rw [BitVec.toInt_eq_toNat_cond, BitVec.toInt_eq_toNat_cond]
  constructor
  · rintro h rfl
    exact absurd h (by decide)
  · intro h
    have hmax : size.toNat ≠ 32767 := fun heq => h (BitVec.eq_of_toNat_eq heq)
    have := size.isLt
    rw [BitVec.toNat_add]
    split_ifs <;> simp at * <;> omega

namespace PhoneConnects

variable {node : Node} {first second : ConnectionPacket}

theorem not_broadcast (h : PhoneConnects node) : node.nodeId ≠ nodeIdBroadcast := by
  intro heq
  have := h.device.1
  rw [heq] at this
  exact absurd this (by decide)

theorem not_phoneConnected (h : PhoneConnects node) : node.phoneConnected = false := by
  rw [Node.phoneConnected, List.any_eq_false]
  intro i _ hi
  rcases (of_decide_eq_true hi).2 with hpartner | hpartner
  · exact (h.unknown i).1 hpartner
  · exact (h.unknown i).2 hpartner

end PhoneConnects

/-- After the feigned ACK_1, the phone is known. -/
theorem ack1_phone (node : Node) (data : ℕ → U8) :
    (((node.feigning false).receiveClusterAck1 inConnection
      (.ofMemory (feigned data node.nodeId messageTypeClusterAck1))).1.connections
        inConnection).partnerId = bleNodeId + 1 := by
  simp only [Node.receiveClusterAck1, Node.setConnection_connections, if_true]
  exact senderAt_feigned data node.nodeId messageTypeClusterAck1

/-- What the feigned ACK_1 does to the node, and to the phone. -/
theorem harmless_ack1 {node node' : Node} {data : ℕ → U8} {actions : List Action}
    (hsize : node'.clusterSize = node.clusterSize) (hactions : Unnoticed actions) :
    Harmless node (((node'.feigning false).receiveClusterAck1 inConnection
        (.ofMemory (feigned data node'.nodeId messageTypeClusterAck1))).1, actions) ↔
      node.clusterSize ≠ int16Max := by
  have hgrown : ((node'.feigning false).receiveClusterAck1 inConnection
      (.ofMemory (feigned data node'.nodeId messageTypeClusterAck1))).1.clusterSize =
        node.clusterSize + 1 := congrArg (· + 1) hsize
  constructor
  · intro h
    apply (toInt_add_one node.clusterSize).mp
    rw [← hgrown]
    exact h.grown
  · intro h
    refine ⟨hactions, ?_, ?_, ack1_phone node' data, rfl⟩
    · rw [hgrown]
      exact (toInt_add_one node.clusterSize).mpr h
    · simp [Node.receiveClusterAck1]

namespace PhoneConnects

variable {node : Node} {first second : ConnectionPacket}

/-- The first write is taken for an ACK_1, and the second one for a light toggle. -/
theorem harmless_iff_of_feigning (h : PhoneConnects node)
    (hfirst : messageTypeAt first.data = messageTypeUartWrite)
    (hsecond : messageTypeAt second.data = messageTypeUartWrite)
    (hmode : node.inFeignHandshakeMode = true) :
    Harmless node (node.phoneGreets first second) ↔ node.clusterSize ≠ int16Max := by
  have hacked := @Node.receive_feignedAck1 node inConnection first hfirst h.not_phoneConnected hmode
  set joined := (node.feigning false).receiveClusterAck1 inConnection
    (.ofMemory (feigned first.data node.nodeId messageTypeClusterAck1)) with hjoined
  have hphone : joined.1.phoneConnected = true :=
    phoneConnected_of_partnerId (Or.inr (ack1_phone node first.data))
  obtain ⟨hsame, hunnoticed⟩ := joined.1.receive_toggle (i := inConnection) hsecond hphone
  have hgreets : node.phoneGreets first second =
      (joined.1, joined.2 ++ (joined.1.receivePacketHandler inConnection second).2) := by
    simp only [Node.phoneGreets, hacked, hsame]
  rw [hgreets]
  exact harmless_ack1 rfl
    (unnoticed_append.mpr ⟨Node.unnoticed_ack1 _ _, hunnoticed rfl⟩)

/-- What is read of a feigned WELCOME is what the phone wrote. -/
theorem feigned_fields (data : ℕ → U8) :
    u32At (relayed (feigned data nodeIdBroadcast messageTypeClusterWelcome)) 7 = u32At data 7 ∧
      u16At (relayed (feigned data nodeIdBroadcast messageTypeClusterWelcome)) 11 =
        u16At data 11 := by
  have hkept : ∀ k, 7 ≤ k → k < 17 →
      relayed (feigned data nodeIdBroadcast messageTypeClusterWelcome) k = data k := by
    intro k hlow hhigh
    rw [relayed_data (by omega) (by omega), feigned_payload _ _ _ (by omega)]
  refine ⟨?_, ?_⟩
  · exact u32At_congr fun k hk => hkept (7 + k) (by omega) (by omega)
  · exact u16At_congr (hkept 11 (by omega) (by omega)) (hkept 12 (by omega) (by omega))

theorem feigned_isBigger (node : Node) (data : ℕ → U8) :
    (node.feigning true).isBigger
        (.ofMemory (relayed (feigned data nodeIdBroadcast messageTypeClusterWelcome))) =
      node.isBigger (.ofMemory data) := by
  obtain ⟨hid, hsize⟩ := feigned_fields data
  unfold Node.isBigger
  simp only [ConnPacketClusterWelcome.ofMemory, hid, hsize]
  rfl

/-- The node stays in its cluster, or asks for the end of the connection to the phone, and takes
the second write for an ACK_1. -/
theorem harmless_iff_of_stays (h : PhoneConnects node)
    (hfirst : messageTypeAt first.data = messageTypeUartWrite)
    (hsecond : messageTypeAt second.data = messageTypeUartWrite)
    (hmode : node.inFeignHandshakeMode = false)
    (hstays : u32At first.data 7 = node.clusterId ∨ node.isBigger (.ofMemory first.data) = true) :
    Harmless node (node.phoneGreets first second) ↔
      node.clusterSize ≠ int16Max ∧
        ∀ k ≠ inConnection, (node.connections k).handshakeDone = false := by
  obtain ⟨hid, _⟩ := feigned_fields first.data
  have hbigger := feigned_isBigger node first.data
  have hwelcomed := @Node.receive_feignedWelcome node inConnection first _ hfirst
    h.not_phoneConnected hmode h.not_broadcast rfl
  set data := relayed (feigned first.data nodeIdBroadcast messageTypeClusterWelcome) with hdata
  set relay := node.sendMessageOverConnections (some inConnection)
    ⟨read data 0 sizeofConnPacketClusterWelcome, first.reliable⟩ with hrelay
  -- only the handle of the connection to the phone has changed
  set stayed := (node.feigning true).setConnection inConnection
    { node.connections inConnection with
      writeCharacteristicHandle := (ConnPacketClusterWelcome.ofMemory data).meshWriteHandle }
    with hstayed
  obtain ⟨answer, hanswer, hunnoticed⟩ : ∃ answer,
      (node.feigning true).receiveClusterWelcome inConnection (.ofMemory data) =
        (stayed, answer) ∧ Unnoticed answer := by
    unfold Node.receiveClusterWelcome
    by_cases hsame : (ConnPacketClusterWelcome.ofMemory data).clusterId =
        (node.feigning true).clusterId
    · rw [if_pos hsame]
      exact ⟨_, rfl, unnoticed_disconnect⟩
    · have hbig := hstays.resolve_left fun heq => hsame (hid.trans heq)
      rw [if_neg hsame, hbigger, if_pos hbig, if_pos rfl]
      exact ⟨_, rfl, Node.unnoticed_startHandshake _⟩
  have hphone : stayed.phoneConnected = false := by
    rw [← h.not_phoneConnected]
    apply phoneConnected_congr
    intro i
    rw [hstayed, Node.setConnection_connections]
    split_ifs with hi
    · rw [hi]
    · rfl
  have hacked := @Node.receive_feignedAck1 stayed inConnection second hsecond hphone rfl
  set joined := (stayed.feigning false).receiveClusterAck1 inConnection
    (.ofMemory (feigned second.data stayed.nodeId messageTypeClusterAck1)) with hjoined
  have hgreets : node.phoneGreets first second = (joined.1, relay ++ answer ++ joined.2) := by
    simp only [Node.phoneGreets, hwelcomed, hanswer, hacked]
  have hrelayed : Unnoticed relay ↔
      ∀ k ≠ inConnection, (node.connections k).handshakeDone = false := by
    rw [hrelay, node.unnoticed_sendMessageOverConnections]
    have hwelcome : IsHandshake ⟨read data 0 sizeofConnPacketClusterWelcome, first.reliable⟩ := by
      left
      rw [typeOf_read (by decide), hdata, type_relayed, messageTypeAt_feigned]
    simp only [hwelcome, not_true_eq_false, or_false]
  rw [hgreets]
  -- what is noticed is the relayed first write; the ACK_1 only counts one node more
  constructor
  · intro hharmless
    refine ⟨(@harmless_ack1 node stayed second.data _ rfl hharmless.unnoticed).mp hharmless,
      hrelayed.mp ?_⟩
    exact (unnoticed_append.mp (unnoticed_append.mp hharmless.unnoticed).1).1
  · rintro ⟨hsize, hnone⟩
    refine (@harmless_ack1 node stayed second.data _ rfl ?_).mpr hsize
    exact unnoticed_append.mpr
      ⟨unnoticed_append.mpr ⟨hrelayed.mpr hnone, hunnoticed⟩, Node.unnoticed_ack1 _ _⟩

/-- The node leaves its cluster for the one of the phone, and takes the second write for a light
toggle. -/
theorem not_harmless_of_leaves (h : PhoneConnects node)
    (hfirst : messageTypeAt first.data = messageTypeUartWrite)
    (hsecond : messageTypeAt second.data = messageTypeUartWrite)
    (hmode : node.inFeignHandshakeMode = false)
    (hleaves : ¬ (u32At first.data 7 = node.clusterId ∨
      node.isBigger (.ofMemory first.data) = true)) :
    ¬ Harmless node (node.phoneGreets first second) := by
  rw [not_or] at hleaves
  obtain ⟨hid, _⟩ := feigned_fields first.data
  have hbigger := feigned_isBigger node first.data
  have hwelcomed := @Node.receive_feignedWelcome node inConnection first _ hfirst
    h.not_phoneConnected hmode h.not_broadcast rfl
  set data := relayed (feigned first.data nodeIdBroadcast messageTypeClusterWelcome) with hdata
  obtain ⟨left, actions, hleft, hmode', hpartner⟩ : ∃ left actions,
      (node.feigning true).receiveClusterWelcome inConnection (.ofMemory data) =
        (left, actions) ∧ left.inFeignHandshakeMode = true ∧
        (left.connections inConnection).partnerId = senderAt data := by
    have hother : ¬ (ConnPacketClusterWelcome.ofMemory data).clusterId =
        (node.feigning true).clusterId := fun hsame => hleaves.1 (hid.symm.trans hsame)
    unfold Node.receiveClusterWelcome
    rw [if_neg hother, hbigger, if_neg hleaves.2]
    refine ⟨_, _, rfl, rfl, ?_⟩
    simp only [Node.setConnection_connections, if_true]
    rfl
  -- the relay has counted the sender down
  have hsender : senderAt data = bleNodeId := by
    rw [hdata, sender_relayed, senderAt_feigned]
    decide
  have hphone : left.phoneConnected = true :=
    phoneConnected_of_partnerId (Or.inl (hpartner.trans hsender))
  obtain ⟨hsame, _⟩ := left.receive_toggle (i := inConnection) hsecond hphone
  intro hharmless
  have hdone := hharmless.inFeignHandshakeMode
  simp only [Node.phoneGreets, hwelcomed, hleft, hsame] at hdone
  exact absurd hdone (ne_false_of_eq_true hmode')

end PhoneConnects

/-- **The handshake of a phone.**  The two writes with which a phone starts get the node one
more node, and the mesh notices no more than that, exactly if the node was waiting for the
second write already, or if no other handshake is done and the first write, read as a WELCOME,
tells of the own cluster or of a smaller one; the cluster must not have the greatest size. -/
theorem harmless_iff {node : Node} {first second : ConnectionPacket} (h : PhoneConnects node)
    (hfirst : messageTypeAt first.data = messageTypeUartWrite)
    (hsecond : messageTypeAt second.data = messageTypeUartWrite) :
    Harmless node (node.phoneGreets first second) ↔
      node.clusterSize ≠ int16Max ∧ (node.inFeignHandshakeMode = true ∨
        (∀ k ≠ inConnection, (node.connections k).handshakeDone = false) ∧
          (u32At first.data 7 = node.clusterId ∨
            node.isBigger (.ofMemory first.data) = true)) := by
  cases hmode : node.inFeignHandshakeMode with
  | true =>
      rw [h.harmless_iff_of_feigning hfirst hsecond hmode]
      simp only [true_or, and_true]
  | false =>
      by_cases hstays : u32At first.data 7 = node.clusterId ∨
          node.isBigger (.ofMemory first.data) = true
      · rw [h.harmless_iff_of_stays hfirst hsecond hmode hstays]
        simp only [Bool.false_eq_true, false_or, hstays, and_true]
      · have hnot := h.not_harmless_of_leaves hfirst hsecond hmode hstays
        simp only [hnot, Bool.false_eq_true, false_or, hstays, and_false]

/-- A node at the start of a chain, after a phone has connected to it. -/
def phoneAt (n : ℕ) : Node :=
  ((chainNode (n + 1) (numbered (n + 1)) 0).connectionSuccessfulHandler inConnection).1

/-- A UART_WRITE of nothing but zeros. -/
def emptyWrite : ConnectionPacket := ⟨overwrite (fun _ => 0) 0 [78], 20, true⟩

/-- A node that is alone gets a phone. -/
theorem harmless_iff_alone :
    Harmless (phoneAt 0) ((phoneAt 0).phoneGreets emptyWrite emptyWrite) := by
  have hconnects : PhoneConnects (phoneAt 0) := ⟨by decide, by decide, by decide, by decide⟩
  exact (harmless_iff hconnects (by decide) (by decide)).mpr (by decide)

/-- A node with a neighbour relays the first write to it as a WELCOME. -/
theorem harmful : ¬ Harmless (phoneAt 1) ((phoneAt 1).phoneGreets emptyWrite emptyWrite) := by
  have hconnects : PhoneConnects (phoneAt 1) := ⟨by decide, by decide, by decide, by decide⟩
  intro h
  have hnone := (hconnects.harmless_iff_of_stays (by decide) (by decide) (by decide)
    (Or.inr (by decide))).mp h
  exact absurd (hnone.2 outConnection (by decide)) (by decide)

/-! ## The phone is on the mesh -/

/-- A phone that has been greeted can toggle the lights. -/
theorem PhoneConnects.phoneOn {V : Type*} [DecidableEq V] {net : Net V} {gateway : V}
    {first second : ConnectionPacket} (h : PhoneConnects (net.node gateway))
    (hunlinked : net.peer gateway inConnection = none)
    (hharmless : Harmless (net.node gateway) ((net.node gateway).phoneGreets first second)) :
    PhoneOn (net.after gateway ((net.node gateway).phoneGreets first second)) gateway where
  unlinked := hunlinked
  isConnected := by
    rw [Net.connection, Net.after_node]
    refine ((Node.receivePacketHandler_self _ second).1.trans ?_).trans h.isConnected
    exact (Node.receivePacketHandler_self _ first).1
  handshakeDone := by
    rw [Net.connection, Net.after_node]
    exact hharmless.handshakeDone
  partnerId := by
    rw [Net.connection, Net.after_node]
    exact Or.inr hharmless.partnerId

end FruityMesh.Mesh
