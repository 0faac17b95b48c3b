import FruityMesh.Library.Runs
import FruityMesh.Mesh.Effects

/-!
# The size of the cluster as one node counts it

A node on its own, with any packets on its connections.  A packet changes the size of the
cluster by as much as the part behind the connection it came from (`Counts`), and the end of a
connection takes that part away again, so the size is always one and the sum of the parts.
-/

namespace FruityMesh.Mesh

open Transport Runs

/-- What the stack and the node itself tell the handlers of one node. -/
inductive NodeEvent
  | connectAsMaster (i : Slot) (writeCharacteristicHandle : U16)
  | connected (i : Slot)
  | packet (i : Slot) (packet : ConnectionPacket)
  | disconnected (i : Slot) (reason : U8) (generated : ClusterId)

namespace Node

def apply (node : Node) : NodeEvent → Node
  | .connectAsMaster i handle => node.connectAsMaster i handle
  | .connected i => (node.connectionSuccessfulHandler i).1
  | .packet i packet => (node.receivePacketHandler i packet).1
  | .disconnected i reason generated => (node.disconnectionHandler i reason generated).1

/-- A packet arrives on a connection, and an UPDATE on one that has done its handshake. -/
def Accepts (node : Node) : NodeEvent → Prop
  | .connectAsMaster i _ => (node.connections i).isConnected = false
  | .connected i => (node.connections i).isConnected = false
  | .packet i packet => (node.connections i).isConnected = true ∧
      (messageTypeAt packet.data = messageTypeClusterInfoUpdate →
        (node.connections i).handshakeDone = true)
  | .disconnected i _ _ => (node.connections i).isConnected = true

/-- A node that has just been started. -/
structure Started (node : Node) : Prop where
  clusterSize : node.clusterSize = 1
  isConnected : ∀ i, (node.connections i).isConnected = false
  handshakeDone : ∀ i, (node.connections i).handshakeDone = false
  connectedClusterSize : ∀ i, (node.connections i).connectedClusterSize = 0

/-- A connection that has not been used. -/
def freeConnection : Connection := ⟨false, false, 0, 0, 0, -1, 0⟩

def startedNode (nodeId : NodeId) (clusterId : ClusterId) : Node where
  nodeId := nodeId
  deviceType := .static
  meshWriteHandle := 14
  connectionLossCounter := 0
  clusterId := clusterId
  clusterSize := 1
  inFeignHandshakeMode := false
  connections := fun _ => freeConnection

theorem started_startedNode (nodeId : NodeId) (clusterId : ClusterId) :
    Started (startedNode nodeId clusterId) :=
  ⟨rfl, fun _ => rfl, fun _ => rfl, fun _ => rfl⟩

structure Accounted (node : Node) : Prop where
  adds : node.clusterSize = 1 + ∑ i, (node.connections i).connectedClusterSize
  undone : ∀ i, (node.connections i).handshakeDone = false →
    (node.connections i).connectedClusterSize = 0
  connected : ∀ i, (node.connections i).handshakeDone = true →
    (node.connections i).isConnected = true

variable {node node' : Node} {i : Slot} {change : ClusterSize}

theorem Accounted.of_counts (h : Accounted node) (hcounts : Counts node i node' change)
    (hundone : (node'.connections i).handshakeDone = false →
      (node'.connections i).connectedClusterSize = 0)
    (hconnected : (node'.connections i).handshakeDone = true →
      (node'.connections i).isConnected = true) : Accounted node' where
  adds := by rw [hcounts.sum_shares, hcounts.clusterSize, h.adds, add_assoc]
  undone := by
    intro k
    by_cases hk : k = i
    · rw [hk]
      exact hundone
    · rw [hcounts.other k hk]
      exact h.undone k
  connected := by
    intro k
    by_cases hk : k = i
    · rw [hk]
      exact hconnected
    · rw [hcounts.other k hk]
      exact h.connected k

/-! ## A packet -/

/-- A handler counts, leaves connection `i` connected or not as it was, and where it leaves it
without a handshake, it has counted nothing. -/
def Handles (node : Node) (i : Slot) (node' : Node) : Prop :=
  ∃ change, Counts node i node' change ∧
    (node'.connections i).isConnected = (node.connections i).isConnected ∧
    ((node'.connections i).handshakeDone = false →
      (node.connections i).handshakeDone = false ∧ change = 0)

theorem Handles.refl (node : Node) (i : Slot) : Handles node i node :=
  ⟨0, ⟨(add_zero _).symm, (add_zero _).symm, fun _ _ => rfl⟩, rfl, fun hundone => ⟨hundone, rfl⟩⟩

/-- An UPDATE counts, and comes over a connection that has done its handshake. -/
theorem handles_messageReceivedCallback (node : Node) (i : Slot) (data : ℕ → U8) (dataLength : U16)
    (hupdate : messageTypeAt data = messageTypeClusterInfoUpdate →
      (node.connections i).handshakeDone = true) :
    Handles node i (node.messageReceivedCallback (some i) data dataLength) := by
  unfold messageReceivedCallback
  split_ifs with hread
  · have hlinks := node.sameLinks_updateClusterInfo i (.ofMemory data)
    obtain ⟨hsize, hshare, hother⟩ := node.updateClusterInfo_counts (i := i) (.ofMemory data)
    refine ⟨_, ⟨hsize, hshare, hother⟩, hlinks.isConnected i, ?_⟩
    dsimp only
    rw [hlinks.handshakeDone i, hupdate hread.1]
    exact fun hfalse => absurd hfalse (by decide)
  · exact Handles.refl node i

theorem handles_process (node : Node) (i : Slot) (data : ℕ → U8) (dataLength : U16)
    (packet : ConnectionPacket)
    (hupdate : messageTypeAt data = messageTypeClusterInfoUpdate →
      (node.connections i).handshakeDone = true) :
    Handles node i (node.process i data dataLength packet).1 := by
  unfold process
  split_ifs
  · obtain ⟨hconnected, hdone, _⟩ := node.welcome_answer (i := i) (.ofMemory data)
    refine ⟨0, (node.effect_welcome _).counts, hconnected, ?_⟩
    rw [hdone]
    exact fun hundone => ⟨hundone, rfl⟩
  · exact Handles.refl node i
  · obtain ⟨hconnected, hdone, _⟩ := node.ack1_answer (i := i) (.ofMemory data)
    refine ⟨1, (node.effect_ack1 _).counts, hconnected, ?_⟩
    rw [hdone]
    exact fun hfalse => absurd hfalse (by decide)
  · exact Handles.refl node i
  · obtain ⟨hconnected, hdone⟩ := node.ack2_answer (i := i) (.ofMemory data)
    refine ⟨_, node.counts_ack2 i _, hconnected, ?_⟩
    rw [hdone]
    exact fun hfalse => absurd hfalse (by decide)
  · exact Handles.refl node i
  · exact node.handles_messageReceivedCallback i data _ hupdate
  · exact Handles.refl node i

theorem handles_routeAndProcess (node : Node) (i : Slot) (data : ℕ → U8) (dataLength : U16)
    (packet : ConnectionPacket)
    (hupdate : messageTypeAt data = messageTypeClusterInfoUpdate →
      (node.connections i).handshakeDone = true) :
    Handles node i (node.routeAndProcess i data dataLength packet).1 := by
  apply node.handles_process i
  rw [(node.route_header i data dataLength packet.reliable).1]
  exact hupdate

/-- It makes no difference whether the node waits for the second packet of a phone. -/
theorem Handles.of_feigning {feigning : Bool}
    (h : Handles { node with inFeignHandshakeMode := feigning } i node') : Handles node i node' := by
  obtain ⟨change, ⟨hsize, hshare, hother⟩, hconnected, hundone⟩ := h
  exact ⟨change, ⟨hsize, hshare, hother⟩, hconnected, hundone⟩

theorem handles_receivePacketHandler (node : Node) (i : Slot) (packet : ConnectionPacket)
    (hupdate : messageTypeAt packet.data = messageTypeClusterInfoUpdate →
      (node.connections i).handshakeDone = true) :
    Handles node i (node.receivePacketHandler i packet).1 := by
  unfold receivePacketHandler
  split_ifs
  · unfold receiveToggle
    dsimp only
    split_ifs
    · apply node.handles_messageReceivedCallback i
      rw [messageTypeAt_toggleLight]
      exact fun hfalse => absurd hfalse (by decide)
    · exact Handles.refl node i
  · apply Handles.of_feigning
    apply handles_routeAndProcess
    rw [messageTypeAt_setMessageType]
    exact fun hfalse => absurd hfalse (by decide)
  · apply Handles.of_feigning
    apply handles_routeAndProcess
    rw [messageTypeAt_setMessageType]
    exact fun hfalse => absurd hfalse (by decide)
  · exact node.handles_routeAndProcess i _ _ _ hupdate

/-! ## Runs -/

theorem Accounted.step (h : Accounted node) {event : NodeEvent} (haccepts : node.Accepts event) :
    Accounted (node.apply event) := by
  cases event with
  | connectAsMaster i handle =>
      have hundone : (node.connections i).handshakeDone = false := by
        apply Bool.eq_false_of_not_eq_true
        intro hdone
        exact absurd haccepts (ne_false_of_eq_true (h.connected i hdone))
      have hshare := h.undone i hundone
      have hcounts : Counts node i (node.connectAsMaster i handle) 0 :=
        ⟨(add_zero _).symm, by simp [connectAsMaster, Connection.init],
          fun k hk => by simp [connectAsMaster, hk]⟩
      apply h.of_counts hcounts
      · intro _
        simpa [apply, connectAsMaster, Connection.init] using hshare
      · intro hdone
        simp [connectAsMaster, Connection.init] at hdone
  | connected i =>
      obtain ⟨hconnected, hdone, _⟩ := node.connected_answer (i := i)
      apply h.of_counts node.effect_connected.counts
      · intro hundone
        rw [node.effect_connected.share, add_zero]
        exact h.undone i (hdone.symm.trans hundone)
      · exact fun _ => hconnected
  | packet i packet =>
      obtain ⟨hconnected, hupdate⟩ := haccepts
      obtain ⟨change, hcounts, hconnected', hundone⟩ :=
        node.handles_receivePacketHandler i packet hupdate
      apply h.of_counts hcounts
      · intro hfalse
        obtain ⟨hundone', hchange⟩ := hundone hfalse
        have hshare := hcounts.share
        rw [hchange, add_zero, h.undone i hundone'] at hshare
        exact hshare
      · exact fun _ => hconnected'.trans hconnected
  | disconnected i reason generated =>
      obtain ⟨_, _, hshare, _⟩ := node.disconnectionHandler_counts i reason generated
      obtain ⟨_, hdone⟩ := node.disconnected_answer (i := i) reason generated
      apply h.of_counts (node.effect_disconnected reason generated (h.undone i)).counts
      · exact fun _ => hshare
      · exact fun htrue => absurd htrue (ne_true_of_eq_false hdone)

theorem Started.accounted (h : Started node) : Accounted node where
  adds := by
    rw [h.clusterSize, Finset.sum_eq_zero fun k _ => h.connectedClusterSize k, add_zero]
  undone := fun i _ => h.connectedClusterSize i
  connected := fun i hdone => absurd (h.handshakeDone i) (ne_false_of_eq_true hdone)

/-- **Accounting of one node.**  After any events, the size of the cluster is one and the sum of
the parts behind the connections, and behind a connection without a handshake is nothing. -/
theorem clusterSize_accounted (hstarted : Started node) {events : List NodeEvent}
    (hrun : Run apply Accepts node events node') :
    node'.clusterSize = 1 + ∑ i, (node'.connections i).connectedClusterSize ∧
      ∀ i, (node'.connections i).handshakeDone = false →
        (node'.connections i).connectedClusterSize = 0 := by
  have haccounted : Accounted node' :=
    hrun.preserves (fun _ _ h haccepts => h.step haccepts) hstarted.accounted
  exact ⟨haccounted.adds, haccounted.undone⟩

section Decidable

instance (node : Node) (event : NodeEvent) : Decidable (node.Accepts event) := by
  cases event <;> unfold Accepts <;> infer_instance

end Decidable

/-- Zeros behind a packet. -/
def zeros : ℕ → U8 := fun _ => 0

/-- An UPDATE of the node 9 that tells of one node more. -/
def oneMore : Message :=
  ⟨(MeshPacket.clusterInfoUpdate ⟨⟨false, messageTypeClusterInfoUpdate, 9, 0, 0⟩, 1, 0, 1, -1⟩).sent,
    true⟩

/-- An ACK_1 that comes twice, an UPDATE, and the end of the connection. -/
def ack1Twice : List NodeEvent :=
  let ack1 := arrive ⟨(MeshPacket.clusterAck1 ⟨⟨false, messageTypeClusterAck1, 2, 1, 0⟩, -1, 0⟩).sent,
    true⟩ zeros
  let update := arrive oneMore zeros
  [.connectAsMaster ⟨1, by decide⟩ 14, .connected ⟨1, by decide⟩, .packet ⟨1, by decide⟩ ack1,
    .packet ⟨1, by decide⟩ ack1, .packet ⟨1, by decide⟩ update, .disconnected ⟨1, by decide⟩ 8 7,
    .connected inConnection, .packet inConnection ack1]

theorem clusterSize_accounted_ack1Twice :
    (ack1Twice.foldl apply (startedNode 1 1)).clusterSize =
        1 + ∑ i, ((ack1Twice.foldl apply (startedNode 1 1)).connections i).connectedClusterSize ∧
      ∀ i, ((ack1Twice.foldl apply (startedNode 1 1)).connections i).handshakeDone = false →
        ((ack1Twice.foldl apply (startedNode 1 1)).connections i).connectedClusterSize = 0 :=
  clusterSize_accounted (started_startedNode 1 1) (Run.of_replays (by decide))

end Node

end FruityMesh.Mesh
