import FruityMesh.Mesh.Protocol

/-!
# What a handler does to the counts of a node

Every handler of the protocol changes one connection, and changes the size of the cluster
by as much as the size of the part behind that connection.  It tells all other connections
of the change that have done their handshake (`Effect`).  An ACK_2 is the exception: nobody
is told of it, which is no harm if there is nobody to tell.
-/

namespace FruityMesh.Mesh

open Transport

/-! ## Sending -/

@[simp] theorem sends_sendMessage (i k : Slot) (packet : MeshPacket) (actions : List Action) :
    sends (Node.sendMessage i packet :: actions) k =
      if i = k then ⟨packet.sent, true⟩ :: sends actions k else sends actions k :=
  sends_queuePacket _ _ _ _

namespace Node

variable (node : Node)

theorem sends_disconnectOtherConnections (i k : Slot) :
    sends (node.disconnectOtherConnections i) k = [] := by
  unfold sends disconnectOtherConnections
  rw [List.filterMap_filterMap]
  apply List.filterMap_eq_nil_iff.mpr
  intro j _
  split_ifs <;> rfl

/-- The UPDATE that tells connection `k` of a change. -/
def announcement (currentClusterId newClusterId : ClusterId) (clusterSizeChange : ClusterSize)
    (k : Slot) : Message :=
  ⟨(MeshPacket.clusterInfoUpdate {
    header := node.packetHeader messageTypeClusterInfoUpdate nodeIdBroadcast
    currentClusterId := currentClusterId
    newClusterId := newClusterId
    clusterSizeChange := clusterSizeChange
    hopsToSink := node.getHopsToShortestSink (some k) }).sent, true⟩

theorem sendClusterInfoUpdate_eq (i : Slot) (currentClusterId newClusterId : ClusterId)
    (clusterSizeChange : ClusterSize) :
    node.sendClusterInfoUpdate i currentClusterId newClusterId clusterSizeChange =
      (List.finRange meshMaxConnections).filterMap fun j =>
        (if j = i ∨ ¬ (node.connections j).handshakeDone then none
          else some (node.announcement currentClusterId newClusterId clusterSizeChange j)).map
            fun m => .queuePacket j m := by
  unfold sendClusterInfoUpdate
  congr 1
  funext j
  split_ifs <;> rfl

theorem sends_sendClusterInfoUpdate (i k : Slot) (currentClusterId newClusterId : ClusterId)
    (clusterSizeChange : ClusterSize) :
    sends (node.sendClusterInfoUpdate i currentClusterId newClusterId clusterSizeChange) k =
      if k = i ∨ ¬ (node.connections k).handshakeDone then []
      else [node.announcement currentClusterId newClusterId clusterSizeChange k] := by
  rw [sendClusterInfoUpdate_eq, sends_loop]
  split_ifs <;> rfl

theorem isUpdate_announcement (currentClusterId newClusterId : ClusterId)
    (clusterSizeChange : ClusterSize) (k : Slot) :
    IsUpdate (node.announcement currentClusterId newClusterId clusterSizeChange k) :=
  isUpdate_sent _ rfl rfl

theorem ids_announcement (currentClusterId newClusterId : ClusterId)
    (clusterSizeChange : ClusterSize) (k : Slot) :
    currentOf (node.announcement currentClusterId newClusterId clusterSizeChange k) =
        currentClusterId ∧
      newOf (node.announcement currentClusterId newClusterId clusterSizeChange k) = newClusterId :=
  ⟨(update_sent _).2.1, (update_sent _).2.2.1⟩

end Node

/-! ## The counts -/

/-- The size of the cluster and of the part behind connection `i` have changed alike. -/
structure Counts (node : Node) (i : Slot) (node' : Node) (change : ClusterSize) : Prop where
  clusterSize : node'.clusterSize = node.clusterSize + change
  share : (node'.connections i).connectedClusterSize =
    (node.connections i).connectedClusterSize + change
  other : ∀ k, k ≠ i → node'.connections k = node.connections k

theorem Counts.sum_shares {node node' : Node} {i : Slot} {change : ClusterSize}
    (h : Counts node i node' change) :
    ∑ k, (node'.connections k).connectedClusterSize =
      ∑ k, (node.connections k).connectedClusterSize + change := by
  have hsplit : ∀ k, (node'.connections k).connectedClusterSize =
      (node.connections k).connectedClusterSize + if k = i then change else 0 := by
    intro k
    by_cases hk : k = i
    · subst hk
      rw [if_pos rfl]
      exact h.share
    · rw [if_neg hk, add_zero, h.other k hk]
  calc ∑ k, (node'.connections k).connectedClusterSize
      = ∑ k, ((node.connections k).connectedClusterSize + if k = i then change else 0) :=
        Finset.sum_congr rfl fun k _ => hsplit k
    _ = ∑ k, (node.connections k).connectedClusterSize + change := by
        rw [Finset.sum_add_distrib, Finset.sum_ite_eq' Finset.univ i, if_pos (Finset.mem_univ i)]

/-- A handler that changes connection `i` and the counts by `change`. -/
structure Effect (node : Node) (i : Slot) (result : Node × List Action) (change : ClusterSize) :
    Prop where
  nodeId : result.1.nodeId = node.nodeId
  clusterSize : result.1.clusterSize = node.clusterSize + change
  share : (result.1.connections i).connectedClusterSize =
    (node.connections i).connectedClusterSize + change
  other : ∀ k, k ≠ i → result.1.connections k = node.connections k
  silent : ∀ k, k ≠ i → (node.connections k).handshakeDone = false → sends result.2 k = []
  told : ∀ k, k ≠ i → (node.connections k).handshakeDone = true →
    (∀ message ∈ sends result.2 k, IsUpdate message) ∧
      ((sends result.2 k).map changeOf).sum = change

theorem Effect.counts {node : Node} {i : Slot} {result : Node × List Action} {change : ClusterSize}
    (h : Effect node i result change) : Counts node i result.1 change :=
  ⟨h.clusterSize, h.share, h.other⟩

namespace Node

variable (node : Node) {i : Slot}

/-- A handler that tells nobody, and has nothing to tell. -/
theorem effect_silent {result : Node × List Action} (hid : result.1.nodeId = node.nodeId)
    (hsize : result.1.clusterSize = node.clusterSize)
    (hshare : (result.1.connections i).connectedClusterSize =
      (node.connections i).connectedClusterSize)
    (hother : ∀ k, k ≠ i → result.1.connections k = node.connections k)
    (hsends : ∀ k, k ≠ i → sends result.2 k = []) : Effect node i result 0 where
  nodeId := hid
  clusterSize := by rw [hsize, add_zero]
  share := by rw [hshare, add_zero]
  other := hother
  silent := fun k hk _ => hsends k hk
  told := by
    intro k hk _
    rw [hsends k hk]
    exact ⟨fun m hm => absurd hm List.not_mem_nil, rfl⟩

/-- A handler that tells the other connections with an UPDATE, in the state `sender`. -/
theorem effect_announced {result : Node × List Action} {change : ClusterSize} (sender : Node)
    (currentClusterId newClusterId : ClusterId) (hid : result.1.nodeId = node.nodeId)
    (hsize : result.1.clusterSize = node.clusterSize + change)
    (hshare : (result.1.connections i).connectedClusterSize =
      (node.connections i).connectedClusterSize + change)
    (hother : ∀ k, k ≠ i → result.1.connections k = node.connections k)
    (hsender : ∀ k, k ≠ i → sender.connections k = node.connections k)
    (hsends : ∀ k, k ≠ i → sends result.2 k =
      sends (sender.sendClusterInfoUpdate i currentClusterId newClusterId change) k) :
    Effect node i result change where
  nodeId := hid
  clusterSize := hsize
  share := hshare
  other := hother
  silent := by
    intro k hk hdone
    rw [hsends k hk, sends_sendClusterInfoUpdate, if_pos]
    rw [hsender k hk, hdone]
    exact Or.inr Bool.false_ne_true
  told := by
    intro k hk hdone
    have hnot : ¬ (k = i ∨ ¬ (sender.connections k).handshakeDone = true) := by
      rw [hsender k hk]
      exact fun h => h.elim hk fun h => h hdone
    rw [hsends k hk, sends_sendClusterInfoUpdate, if_neg hnot]
    refine ⟨?_, ?_⟩
    · intro m hm
      rw [List.mem_singleton.mp hm]
      exact sender.isUpdate_announcement _ _ _ k
    · rw [List.map_singleton, List.sum_singleton]
      exact (update_sent _).1

theorem sends_startHandshake (i k : Slot) (hk : k ≠ i) : sends (node.startHandshake i) k = [] := by
  unfold startHandshake
  split_ifs
  · rfl
  · rw [sends_sendMessage, if_neg (Ne.symm hk)]
    rfl

theorem sends_startHandshake_self (i : Slot) :
    sends (node.startHandshake i) i = [] ∨
      ∃ message, sends (node.startHandshake i) i = [message] ∧ IsWelcome node.nodeId message := by
  unfold startHandshake
  split_ifs
  · exact Or.inl rfl
  · right
    rw [sends_sendMessage, if_pos rfl]
    exact ⟨_, rfl, isWelcome_sent _ rfl rfl rfl⟩

theorem effect_welcome (packet : ConnPacketClusterWelcome) :
    Effect node i (node.receiveClusterWelcome i packet) 0 := by
  unfold receiveClusterWelcome
  dsimp only
  split_ifs
  · exact node.effect_silent rfl rfl (by simp) (fun k hk => by simp [hk]) (fun k _ => rfl)
  · refine node.effect_silent rfl rfl (by simp) (fun k hk => by simp [hk]) ?_
    intro k hk
    exact sends_startHandshake _ i k hk
  · exact node.effect_silent rfl rfl (by simp) (fun k hk => by simp [hk]) (fun k _ => rfl)
  · refine node.effect_silent rfl rfl (by simp) (fun k hk => by simp [hk]) ?_
    intro k hk
    rw [sends_append, sends_disconnectOtherConnections, sends_sendMessage, if_neg (Ne.symm hk)]
    rfl

theorem effect_connected : Effect node i (node.connectionSuccessfulHandler i) 0 := by
  refine node.effect_silent rfl rfl ?_ ?_ ?_
  · simp [connectionSuccessfulHandler]
  · intro k hk
    simp [connectionSuccessfulHandler, hk]
  · intro k hk
    unfold connectionSuccessfulHandler
    dsimp only
    split_ifs
    · rfl
    · exact sends_startHandshake _ i k hk

theorem effect_ack1 (packet : ConnPacketClusterAck1) :
    Effect node i (node.receiveClusterAck1 i packet) 1 := by
  refine node.effect_announced (node.receiveClusterAck1 i packet).1
    (node.receiveClusterAck1 i packet).1.clusterId 0
    ?_ ?_ ?_ ?_ ?_ ?_
  · rfl
  · rfl
  · simp [receiveClusterAck1]
  · intro k hk
    simp [receiveClusterAck1, hk]
  · intro k hk
    simp [receiveClusterAck1, hk]
  · intro k hk
    unfold receiveClusterAck1
    dsimp only
    rw [sends_append, sends_sendMessage, if_neg (Ne.symm hk), sends_nil, List.append_nil]

theorem counts_ack2 (i : Slot) (packet : ConnPacketClusterAck2) :
    Counts node i (node.receiveClusterAck2 i packet) (packet.clusterSize - 1) where
  clusterSize := rfl
  share := by simp [receiveClusterAck2]
  other := by
    intro k hk
    simp [receiveClusterAck2, hk]

theorem effect_ack2 (packet : ConnPacketClusterAck2)
    (halone : ∀ k, k ≠ i → (node.connections k).handshakeDone = false) :
    Effect node i (node.receiveClusterAck2 i packet, []) (packet.clusterSize - 1) where
  nodeId := rfl
  clusterSize := (node.counts_ack2 i packet).clusterSize
  share := (node.counts_ack2 i packet).share
  other := (node.counts_ack2 i packet).other
  silent := fun _ _ _ => rfl
  told := by
    intro k hk hdone
    rw [halone k hk] at hdone
    exact absurd hdone Bool.false_ne_true

theorem updateClusterInfo_counts (packet : ConnPacketClusterInfoUpdate) :
    (node.updateClusterInfo i packet).clusterSize = node.clusterSize + packet.clusterSizeChange ∧
      ((node.updateClusterInfo i packet).connections i).connectedClusterSize =
        (node.connections i).connectedClusterSize + packet.clusterSizeChange ∧
      ∀ k, k ≠ i → (node.updateClusterInfo i packet).connections k = node.connections k := by
  refine ⟨?_, ?_, ?_⟩
  · unfold updateClusterInfo
    split_ifs <;> rfl
  · unfold updateClusterInfo
    split_ifs <;> simp
  · intro k hk
    unfold updateClusterInfo
    split_ifs <;> simp [hk]

/-- An UPDATE is sent on over all other connections. -/
theorem update_sends {message : Message} (behind : ℕ → U8) (h : IsUpdate message)
    (hid : node.nodeId ≠ nodeIdBroadcast) (k : Slot) :
    sends (node.receivePacketHandler i (arrive message behind)).2 k =
      if k ≠ i ∧ (node.connections k).handshakeDone = true then [relayedUpdate message behind]
      else [] := by
  rw [node.receive_update h hid, sends_append, sends_sendMessageOverConnections]
  simp

theorem effect_update {message : Message} (behind : ℕ → U8) (h : IsUpdate message)
    (hid : node.nodeId ≠ nodeIdBroadcast) :
    Effect node i (node.receivePacketHandler i (arrive message behind)) (changeOf message) := by
  obtain ⟨hsize, hshare, hother⟩ :=
    node.updateClusterInfo_counts (i := i) (readUpdate message behind)
  obtain ⟨hchange, _, _⟩ := @readUpdate_eq _ behind h
  obtain ⟨hupdate, hrelayed, _, _⟩ := @relayedUpdate_eq _ behind h
  have hsends := node.update_sends (i := i) behind h hid
  rw [node.receive_update h hid] at hsends ⊢
  constructor <;> dsimp only
  · exact (node.sameLinks_updateClusterInfo i _).nodeId
  · rw [hsize, hchange]
  · rw [hshare, hchange]
  · exact hother
  · intro k hk hdone
    rw [hsends k, if_neg (by simp [hdone])]
  · intro k hk hdone
    rw [hsends k, if_pos ⟨hk, hdone⟩]
    refine ⟨?_, ?_⟩
    · intro m hm
      rw [List.mem_singleton.mp hm]
      exact hupdate
    · rw [List.map_singleton, List.sum_singleton, hrelayed]

/-- What the loss of a connection takes from the counts. -/
def lost (i : Slot) : ClusterSize :=
  if (node.connections i).handshakeDone then (node.connections i).connectedClusterSize else 0

theorem disconnectionHandler_counts (i : Slot) (reason : U8) (generated : ClusterId) :
    (node.disconnectionHandler i reason generated).1.nodeId = node.nodeId ∧
      (node.disconnectionHandler i reason generated).1.clusterSize =
        node.clusterSize + -node.lost i ∧
      ((node.disconnectionHandler i reason generated).1.connections i).connectedClusterSize = 0 ∧
      ∀ k, k ≠ i →
        (node.disconnectionHandler i reason generated).1.connections k = node.connections k := by
  have hsub : node.clusterSize + -node.lost i = node.clusterSize - node.lost i :=
    (sub_eq_add_neg _ _).symm
  rw [hsub]
  unfold disconnectionHandler connectionDisconnectionHandler nodeDisconnectionHandler lost
  dsimp only
  simp only [setConnection_connections, if_true]
  refine ⟨?_, ?_, ?_, ?_⟩
  · split_ifs <;> rfl
  · split_ifs <;> simp [setConnection]
  · split_ifs <;> rfl
  · intro k hk
    simp only [if_neg hk]
    split_ifs <;> simp [hk]

/-- Where the handshake had not been done, nobody is told. -/
theorem disconnectionHandler_silent (i : Slot) (reason : U8) (generated : ClusterId)
    (hdone : (node.connections i).handshakeDone = false) :
    (node.disconnectionHandler i reason generated).2 = [] := by
  unfold disconnectionHandler nodeDisconnectionHandler
  simp [hdone]

theorem isSmallerPart_congr {node node' : Node} (hsize : node'.clusterSize = node.clusterSize)
    (hid : node'.nodeId = node.nodeId)
    (hshare : (node'.connections i).connectedClusterSize = (node.connections i).connectedClusterSize)
    (hpartner : (node'.connections i).partnerId = (node.connections i).partnerId) :
    node'.isSmallerPart i = node.isSmallerPart i := by
  unfold isSmallerPart
  dsimp only
  rw [hsize, hid, hshare, hpartner]

/-- Where it had been done, all others are told, and the smaller part gets the new id. -/
theorem disconnectionHandler_sends (i : Slot) (reason : U8) (generated : ClusterId)
    (hdone : (node.connections i).handshakeDone = true) :
    ∃ sender : Node,
      (∀ k, k ≠ i → sender.connections k = node.connections k) ∧
        (node.disconnectionHandler i reason generated).2 =
          sender.sendClusterInfoUpdate i (node.connections i).connectedClusterId
            (if node.isSmallerPart i then generated else 0)
            (-(node.connections i).connectedClusterSize) := by
  unfold disconnectionHandler nodeDisconnectionHandler
  dsimp only
  rw [@isSmallerPart_congr i node (node.setConnection i _) rfl rfl (by simp) (by simp)]
  simp only [setConnection_connections, if_true, hdone]
  split_ifs
  · refine ⟨_, ?_, rfl⟩
    intro k hk
    simp [hk]
  · refine ⟨_, ?_, rfl⟩
    intro k hk
    simp [hk]

theorem effect_disconnected (reason : U8) (generated : ClusterId)
    (hundone : (node.connections i).handshakeDone = false →
      (node.connections i).connectedClusterSize = 0) :
    Effect node i (node.disconnectionHandler i reason generated) (-node.lost i) := by
  obtain ⟨hid, hsize, hshare, hother⟩ := node.disconnectionHandler_counts i reason generated
  have hback : -node.lost i + (node.connections i).connectedClusterSize = 0 := by
    unfold lost
    split_ifs with hdone
    · exact neg_add_cancel _
    · rw [hundone (Bool.eq_false_of_not_eq_true hdone), neg_zero, add_zero]
  have hshare' : ((node.disconnectionHandler i reason generated).1.connections i).connectedClusterSize =
      (node.connections i).connectedClusterSize + -node.lost i := by
    rw [hshare, add_comm, hback]
  by_cases hdone : (node.connections i).handshakeDone = true
  · obtain ⟨sender, hsender, hsends⟩ :=
      node.disconnectionHandler_sends i reason generated hdone
    have hlost : -node.lost i = -(node.connections i).connectedClusterSize := by
      rw [lost, if_pos hdone]
    rw [hlost] at hsize hshare' ⊢
    exact node.effect_announced sender _ _ hid hsize hshare' hother hsender
      fun k _ => by rw [hsends]
  · have hlost : -node.lost i = 0 := by rw [lost, if_neg hdone, neg_zero]
    rw [hlost, add_zero] at hsize hshare'
    rw [hlost]
    refine node.effect_silent hid hsize hshare' hother ?_
    intro k _
    rw [node.disconnectionHandler_silent i reason generated (Bool.eq_false_of_not_eq_true hdone)]
    rfl

/-! ## One connection -/

theorem messageReceivedCallback_other {k : Slot} (hk : k ≠ i) (data : ℕ → U8) (dataLength : U16) :
    (node.messageReceivedCallback (some i) data dataLength).connections k = node.connections k := by
  unfold messageReceivedCallback
  split_ifs
  · exact (node.updateClusterInfo_counts _).2.2 k hk
  · rfl

/-- A packet changes the connection that it arrives on, and no other. -/
theorem receivePacketHandler_other {k : Slot} (hk : k ≠ i) (packet : ConnectionPacket) :
    (node.receivePacketHandler i packet).1.connections k = node.connections k := by
  have hprocess : ∀ (node : Node) data dataLength,
      (node.process i data dataLength packet).1.connections k = node.connections k := by
    intro node data dataLength
    unfold process
    split_ifs
    · exact (node.effect_welcome _).other k hk
    · rfl
    · exact (node.effect_ack1 _).other k hk
    · rfl
    · simp [receiveClusterAck2, hk]
    · rfl
    · exact node.messageReceivedCallback_other hk _ _
    · rfl
  unfold receivePacketHandler
  split_ifs
  · unfold receiveToggle
    dsimp only
    split_ifs
    · exact node.messageReceivedCallback_other hk _ _
    · rfl
  · exact hprocess _ _ _
  · exact hprocess _ _ _
  · exact hprocess _ _ _

/-! ## The answers of the handshake -/

theorem welcome_answer (packet : ConnPacketClusterWelcome) :
    ((node.receiveClusterWelcome i packet).1.connections i).isConnected =
        (node.connections i).isConnected ∧
      ((node.receiveClusterWelcome i packet).1.connections i).handshakeDone =
        (node.connections i).handshakeDone ∧
      (sends (node.receiveClusterWelcome i packet).2 i = [] ∨
        ∃ message, sends (node.receiveClusterWelcome i packet).2 i = [message] ∧
          (IsWelcome node.nodeId message ∨ IsAck1 node.nodeId packet.header.sender message)) := by
  unfold receiveClusterWelcome
  dsimp only
  split_ifs
  · exact ⟨by simp, by simp, Or.inl rfl⟩
  · refine ⟨by simp, by simp, ?_⟩
    exact (sends_startHandshake_self _ i).imp_right fun ⟨m, hm, h⟩ => ⟨m, hm, Or.inl h⟩
  · exact ⟨by simp, by simp, Or.inl rfl⟩
  · refine ⟨by simp, by simp, Or.inr ?_⟩
    rw [sends_append, sends_disconnectOtherConnections, sends_sendMessage, if_pos rfl]
    exact ⟨_, rfl, Or.inr (isAck1_sent _ rfl rfl rfl)⟩

/-- A WELCOME is answered, or the end of the connection is asked for, unless we are the bigger
one and the central. -/
theorem welcome_cases (packet : ConnPacketClusterWelcome)
    (hundone : (node.connections i).handshakeDone = false) :
    closes (node.receiveClusterWelcome i packet).2 i = true ∨
      (packet.clusterId ≠ node.clusterId ∧ node.isBigger packet = true ∧ i ≠ inConnection) ∨
      ∃ message, sends (node.receiveClusterWelcome i packet).2 i = [message] ∧
        (IsWelcome node.nodeId message ∨ IsAck1 node.nodeId packet.header.sender message) := by
  unfold receiveClusterWelcome
  dsimp only
  split_ifs with hsame hbigger hin
  · exact Or.inl (by simp [closes])
  · right
    right
    unfold startHandshake
    rw [if_neg (by simp [hundone]), sends_sendMessage, if_pos rfl]
    exact ⟨_, rfl, Or.inl (isWelcome_sent _ rfl rfl rfl)⟩
  · exact Or.inr (Or.inl ⟨hsame, hbigger, hin⟩)
  · right
    right
    rw [sends_append, sends_disconnectOtherConnections, sends_sendMessage, if_pos rfl]
    exact ⟨_, rfl, Or.inr (isAck1_sent _ rfl rfl rfl)⟩

theorem connected_answer :
    ((node.connectionSuccessfulHandler i).1.connections i).isConnected = true ∧
      ((node.connectionSuccessfulHandler i).1.connections i).handshakeDone =
        (node.connections i).handshakeDone ∧
      (i = inConnection → sends (node.connectionSuccessfulHandler i).2 i = []) ∧
      (sends (node.connectionSuccessfulHandler i).2 i = [] ∨
        ∃ message, sends (node.connectionSuccessfulHandler i).2 i = [message] ∧
          IsWelcome node.nodeId message) := by
  unfold connectionSuccessfulHandler
  dsimp only
  refine ⟨by simp, by simp, ?_, ?_⟩
  · intro hin
    rw [if_pos hin]
    rfl
  · split_ifs
    · exact Or.inl rfl
    · exact sends_startHandshake_self _ i

/-- The central speaks first. -/
theorem connected_speaks (hi : i ≠ inConnection)
    (hundone : (node.connections i).handshakeDone = false) :
    ∃ message, sends (node.connectionSuccessfulHandler i).2 i = [message] ∧
      IsWelcome node.nodeId message := by
  unfold connectionSuccessfulHandler startHandshake
  dsimp only
  rw [if_neg hi, if_neg (by simp [hundone]), sends_sendMessage, if_pos rfl]
  exact ⟨_, rfl, isWelcome_sent _ rfl rfl rfl⟩

theorem ack1_answer (packet : ConnPacketClusterAck1) :
    ((node.receiveClusterAck1 i packet).1.connections i).isConnected =
        (node.connections i).isConnected ∧
      ((node.receiveClusterAck1 i packet).1.connections i).handshakeDone = true ∧
      ∃ ack, sends (node.receiveClusterAck1 i packet).2 i = [ack] ∧
        IsAck2 packet.header.sender ack ∧
        [sizeByteOf ack] = @LittleEndian.lowBytes 1 (node.clusterSize + 1) := by
  unfold receiveClusterAck1
  dsimp only
  refine ⟨by simp, by simp, ?_⟩
  rw [sends_append, sends_sendClusterInfoUpdate, if_pos (Or.inl rfl), sends_sendMessage, if_pos rfl]
  exact ⟨_, rfl, isAck2_sent _ rfl rfl, sizeByteOf_sent _⟩

theorem ack2_answer (packet : ConnPacketClusterAck2) :
    ((node.receiveClusterAck2 i packet).connections i).isConnected =
        (node.connections i).isConnected ∧
      ((node.receiveClusterAck2 i packet).connections i).handshakeDone = true := by
  unfold receiveClusterAck2
  exact ⟨by simp, by simp⟩

/-- An UPDATE leaves the handshake as it is, and is not sent back. -/
theorem update_answer {message : Message} (behind : ℕ → U8) (h : IsUpdate message) :
    SameLinks node (node.receivePacketHandler i (arrive message behind)).1 ∧
      sends (node.receivePacketHandler i (arrive message behind)).2 i = [] := by
  have hlength : message.bytes.length = 18 := h.length
  have hordinary : Ordinary (messageTypeAt (arrive message behind).data) := by
    rw [type_arrive, h.type]
    unfold Ordinary
    decide
  have hsink : receiverAt (arrive message behind).data ≠ nodeIdShortestSink := by
    rw [receiver_arrive (by omega), h.receiver]
    decide
  rw [node.receive_ordinary hordinary hsink]
  constructor <;> dsimp only
  · split_ifs
    · exact node.sameLinks_messageReceivedCallback _ _ _
    · exact node.sameLinks_messageReceivedCallback _ _ _
    · exact SameLinks.refl node
  · rw [sends_append]
    split_ifs
    · rfl
    · rfl
    · rw [sends_sendMessageOverConnections, if_neg fun hne => hne.1 rfl]
      rfl
    · rw [sends_sendMessageOverConnections, if_neg fun hne => hne.1 rfl]
      rfl

/-- Whatever packet arrives, its connection stays established, and at most its handshake is
done afterwards. -/
theorem receivePacketHandler_self (packet : ConnectionPacket) :
    ((node.receivePacketHandler i packet).1.connections i).isConnected =
        (node.connections i).isConnected ∧
      (((node.receivePacketHandler i packet).1.connections i).handshakeDone =
          (node.connections i).handshakeDone ∨
        ((node.receivePacketHandler i packet).1.connections i).handshakeDone = true) := by
  have hcallback : ∀ (node : Node) data dataLength,
      ((node.messageReceivedCallback (some i) data dataLength).connections i).isConnected =
          (node.connections i).isConnected ∧
        ((node.messageReceivedCallback (some i) data dataLength).connections i).handshakeDone =
          (node.connections i).handshakeDone := by
    intro node data dataLength
    have hsame := node.sameLinks_messageReceivedCallback (some i) data dataLength
    exact ⟨hsame.isConnected i, hsame.handshakeDone i⟩
  have hprocess : ∀ (node : Node) data dataLength,
      ((node.process i data dataLength packet).1.connections i).isConnected =
          (node.connections i).isConnected ∧
        (((node.process i data dataLength packet).1.connections i).handshakeDone =
            (node.connections i).handshakeDone ∨
          ((node.process i data dataLength packet).1.connections i).handshakeDone = true) := by
    intro node data dataLength
    unfold process
    split_ifs
    · obtain ⟨hconnected, hdone, _⟩ := node.welcome_answer (.ofMemory data)
      exact ⟨hconnected, Or.inl hdone⟩
    · exact ⟨rfl, Or.inl rfl⟩
    · obtain ⟨hconnected, hdone, _⟩ := node.ack1_answer (.ofMemory data)
      exact ⟨hconnected, Or.inr hdone⟩
    · exact ⟨rfl, Or.inl rfl⟩
    · obtain ⟨hconnected, hdone⟩ := node.ack2_answer (.ofMemory data)
      exact ⟨hconnected, Or.inr hdone⟩
    · exact ⟨rfl, Or.inl rfl⟩
    · obtain ⟨hconnected, hdone⟩ := hcallback node data packet.dataLength
      exact ⟨hconnected, Or.inl hdone⟩
    · exact ⟨rfl, Or.inl rfl⟩
  unfold receivePacketHandler
  split_ifs
  -- a phone's toggle is handed to the modules at once
  · unfold receiveToggle
    dsimp only
    split_ifs
    · obtain ⟨hconnected, hdone⟩ := hcallback node (toggleLight packet.data)
        (BitVec.ofNat 16 (sizeofConnPacketModule + 2))
      exact ⟨hconnected, Or.inl hdone⟩
    · exact ⟨rfl, Or.inl rfl⟩
  · exact hprocess _ _ _
  · exact hprocess _ _ _
  · exact hprocess _ _ _

theorem disconnected_other {k : Slot} (hk : k ≠ i) (reason : U8) (generated : ClusterId) :
    (node.disconnectionHandler i reason generated).1.connections k = node.connections k := by
  have hnode : ∀ node : Node,
      (node.nodeDisconnectionHandler i generated).1.connections k = node.connections k := by
    intro node
    unfold nodeDisconnectionHandler
    dsimp only
    split_ifs <;> rfl
  have hconnection : ∀ node : Node,
      (node.connectionDisconnectionHandler i reason).connections k = node.connections k := by
    intro node
    unfold connectionDisconnectionHandler
    dsimp only
    split_ifs <;> simp [hk]
  rw [disconnectionHandler, hconnection, hnode, setConnection_connections, if_neg hk]

theorem disconnected_answer (reason : U8) (generated : ClusterId) :
    ((node.disconnectionHandler i reason generated).1.connections i).isConnected = false ∧
      ((node.disconnectionHandler i reason generated).1.connections i).handshakeDone = false := by
  unfold disconnectionHandler connectionDisconnectionHandler
  dsimp only
  simp only [setConnection_connections, if_true]
  exact ⟨rfl, rfl⟩

end Node

end FruityMesh.Mesh
