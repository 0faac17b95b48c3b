import FruityMesh.Mesh.Accounting
import FruityMesh.Mesh.ClusterIds

/-!
# The ids that a node generates

`GenerateClusterID` is to combine the connection losses of a node with its id.  It writes
`nodeId + connectionLossCounter << 16`, and since `+` comes before `<<`, the id of the node is
not beside the counter but added to it, and the sum stands in the upper half.  So two ids agree
when the sums do (`combine_eq_iff`), and an id can be 0.

A node lives from its start on with any events, also the command `loss` of the terminal.  What
it generates in its life is decided by the losses that it has counted (`counter_generations`).
-/

namespace FruityMesh.Mesh

open Transport

/-! ## The expression -/

/-- The expression in `GenerateClusterID`. -/
def combine (nodeId : NodeId) (connectionLossCounter : U16) : ClusterId :=
  (nodeId.setWidth 32 + connectionLossCounter.setWidth 32) <<< 16

theorem toNat_combine (nodeId : NodeId) (connectionLossCounter : U16) :
    (combine nodeId connectionLossCounter).toNat =
      (nodeId + connectionLossCounter).toNat * 2 ^ 16 := by
  have hid := nodeId.isLt
  have hcounter := connectionLossCounter.isLt
  simp only [combine, BitVec.toNat_shiftLeft, BitVec.toNat_add, BitVec.toNat_setWidth,
    Nat.shiftLeft_eq]
  omega

theorem combine_eq_iff {nodeId nodeId' : NodeId} {counter counter' : U16} :
    combine nodeId counter = combine nodeId' counter' ↔ nodeId + counter = nodeId' + counter' := by
  rw [← BitVec.toNat_inj, toNat_combine, toNat_combine, ← BitVec.toNat_inj]
  omega

theorem combine_eq_zero_iff {nodeId : NodeId} {counter : U16} :
    combine nodeId counter = 0 ↔ nodeId + counter = 0 := by
  rw [← BitVec.toNat_inj, toNat_combine, ← BitVec.toNat_inj]
  simp

theorem combine_injective (nodeId : NodeId) : Function.Injective (combine nodeId) :=
  fun _ _ h => add_left_cancel (combine_eq_iff.mp h)

/-! ## The life of a node -/

/-- What happens to a node.  `loss` is the command of the terminal that simulates a loss. -/
inductive LifeEvent
  | connectAsMaster (i : Slot) (writeCharacteristicHandle : U16)
  | connected (i : Slot)
  | packet (i : Slot) (packet : ConnectionPacket)
  | disconnected (i : Slot) (reason : U8)
  | loss

/-- The node counts a loss of a connection. -/
def LifeEvent.isLoss : LifeEvent → Bool
  | .disconnected _ _ => true
  | .loss => true
  | _ => false

def losses (events : List LifeEvent) : ℕ := events.countP LifeEvent.isLoss

namespace Node

/-- `GenerateClusterID`. -/
def generateClusterId (node : Node) : ClusterId := combine node.nodeId node.connectionLossCounter

def countLoss (node : Node) : Node :=
  { node with connectionLossCounter := node.connectionLossCounter + 1 }

def live (node : Node) : LifeEvent → Node
  | .connectAsMaster i handle => node.connectAsMaster i handle
  | .connected i => (node.connectionSuccessfulHandler i).1
  | .packet i packet => (node.receivePacketHandler i packet).1
  | .disconnected i reason =>
      (node.disconnectionHandler i reason node.countLoss.generateClusterId).1
  | .loss => { node.countLoss with clusterId := node.countLoss.generateClusterId }

/-- The node generates an id: a connection of the mesh is lost and ours is the smaller part, or
the loss is simulated. -/
def generates (node : Node) : LifeEvent → Bool
  | .disconnected i _ => (node.connections i).handshakeDone && node.isSmallerPart i
  | .loss => true
  | _ => false

/-- The states right after the node has generated an id. -/
def generations : Node → List LifeEvent → List Node
  | _, [] => []
  | node, event :: rest =>
      if node.generates event then node.live event :: generations (node.live event) rest
      else generations (node.live event) rest

/-- `Node::Initialize` generates the first id. -/
def Booted (node : Node) : Prop := node.clusterId = node.generateClusterId

/-- After the events, a node that has been started holds an id that it has generated. -/
def HoldsGenerated (start : Node) (events : List LifeEvent) : Prop :=
  ∃ state ∈ start :: generations start events,
    (events.foldl live start).clusterId = state.clusterId

/-- Whenever two nodes hold ids that they have generated, these are different. -/
def NeverShare (start start' : Node) (events events' : List LifeEvent) : Prop :=
  ∀ before before', before <+: events → before' <+: events' →
    HoldsGenerated start before → HoldsGenerated start' before' →
      (before.foldl live start).clusterId ≠ (before'.foldl live start').clusterId

/-! ### One event -/

/-- The parts of a node that go into an id. -/
structure SameOwner (node node' : Node) : Prop where
  nodeId : node'.nodeId = node.nodeId
  counter : node'.connectionLossCounter = node.connectionLossCounter

variable {node node' start start' : Node} {i j k : Slot} {events : List LifeEvent}

theorem SameOwner.refl (node : Node) : SameOwner node node := ⟨rfl, rfl⟩

theorem SameOwner.generateClusterId (h : SameOwner node node') :
    node'.generateClusterId = node.generateClusterId := by
  unfold Node.generateClusterId
  rw [h.nodeId, h.counter]

theorem sameOwner_messageReceivedCallback (node : Node) (connection : Option Slot) (data : ℕ → U8)
    (dataLength : U16) :
    SameOwner node (node.messageReceivedCallback connection data dataLength) := by
  unfold messageReceivedCallback
  split_ifs
  · cases connection with
    | none => exact SameOwner.refl node
    | some i =>
        dsimp only
        unfold updateClusterInfo
        split_ifs <;> exact ⟨rfl, rfl⟩
  · exact SameOwner.refl node

theorem sameOwner_receiveClusterWelcome (node : Node) (i : Slot)
    (packet : ConnPacketClusterWelcome) :
    SameOwner node (node.receiveClusterWelcome i packet).1 := by
  unfold receiveClusterWelcome
  dsimp only
  split_ifs <;> exact ⟨rfl, rfl⟩

theorem sameOwner_process (node : Node) (i : Slot) (data : ℕ → U8) (dataLength : U16)
    (packet : ConnectionPacket) : SameOwner node (node.process i data dataLength packet).1 := by
  unfold process
  split_ifs
  · exact node.sameOwner_receiveClusterWelcome i _
  · exact SameOwner.refl node
  · exact ⟨rfl, rfl⟩
  · exact SameOwner.refl node
  · exact ⟨rfl, rfl⟩
  · exact SameOwner.refl node
  · exact node.sameOwner_messageReceivedCallback (some i) data packet.dataLength
  · exact SameOwner.refl node

theorem sameOwner_receivePacketHandler (node : Node) (i : Slot) (packet : ConnectionPacket) :
    SameOwner node (node.receivePacketHandler i packet).1 := by
  unfold receivePacketHandler
  split_ifs
  · unfold receiveToggle
    dsimp only
    split_ifs
    · exact node.sameOwner_messageReceivedCallback (some i) (toggleLight packet.data) _
    · exact SameOwner.refl node
  -- whether the node waits for the second packet of a phone does not matter
  · obtain ⟨hid, hcounter⟩ := sameOwner_process { node with inFeignHandshakeMode := true } i _ _ packet
    exact ⟨hid, hcounter⟩
  · obtain ⟨hid, hcounter⟩ := sameOwner_process { node with inFeignHandshakeMode := false } i _ _ packet
    exact ⟨hid, hcounter⟩
  · exact node.sameOwner_process i _ _ packet

theorem sameOwner_disconnectionHandler (node : Node) (i : Slot) (reason : U8)
    (generated : ClusterId) :
    SameOwner node.countLoss (node.disconnectionHandler i reason generated).1 := by
  unfold disconnectionHandler connectionDisconnectionHandler nodeDisconnectionHandler
  dsimp only
  split_ifs <;> exact ⟨rfl, rfl⟩

theorem nodeId_live (node : Node) (event : LifeEvent) : (node.live event).nodeId = node.nodeId := by
  cases event with
  | connectAsMaster i handle => rfl
  | connected i => rfl
  | packet i packet => exact (node.sameOwner_receivePacketHandler i packet).nodeId
  | disconnected i reason => exact (node.sameOwner_disconnectionHandler i reason _).nodeId
  | loss => rfl

theorem counter_live (node : Node) (event : LifeEvent) :
    (node.live event).connectionLossCounter =
      node.connectionLossCounter + if event.isLoss then 1 else 0 := by
  cases event with
  | connectAsMaster i handle => exact (add_zero _).symm
  | connected i => exact (add_zero _).symm
  | packet i packet =>
      exact (node.sameOwner_receivePacketHandler i packet).counter.trans (add_zero _).symm
  | disconnected i reason => exact (node.sameOwner_disconnectionHandler i reason _).counter
  | loss => rfl

/-- The node generates ids only when it counts, and takes what it generates. -/
theorem generates_live {event : LifeEvent} (h : node.generates event = true) :
    event.isLoss = true ∧ Booted (node.live event) := by
  cases event with
  | connectAsMaster i handle => exact absurd h Bool.false_ne_true
  | connected i => exact absurd h Bool.false_ne_true
  | packet i packet => exact absurd h Bool.false_ne_true
  | disconnected i reason =>
      have howner := node.sameOwner_disconnectionHandler i reason node.countLoss.generateClusterId
      refine ⟨rfl, ?_⟩
      calc (node.live (.disconnected i reason)).clusterId
          = node.countLoss.generateClusterId := by
            rw [live, disconnected_clusterId, if_pos (by simpa [generates] using h)]
        _ = (node.live (.disconnected i reason)).generateClusterId :=
            howner.generateClusterId.symm
  | loss => exact ⟨rfl, rfl⟩

/-! ### A life -/

/-- What is generated in a life is what the node itself and the losses so far combine to. -/
theorem counter_generations {state : Node} (h : state ∈ generations node events) :
    Booted state ∧ state.nodeId = node.nodeId ∧
      ∃ count, 0 < count ∧ count ≤ losses events ∧
        state.connectionLossCounter = node.connectionLossCounter + BitVec.ofNat 16 count := by
  induction events generalizing node with
  | nil => exact absurd h List.not_mem_nil
  | cons event rest ih =>
      have hlosses : losses (event :: rest) = losses rest + if event.isLoss then 1 else 0 :=
        List.countP_cons
      have hlater : state ∈ generations (node.live event) rest → Booted state ∧
          state.nodeId = node.nodeId ∧ ∃ count, 0 < count ∧ count ≤ losses (event :: rest) ∧
            state.connectionLossCounter = node.connectionLossCounter + BitVec.ofNat 16 count := by
        intro hmem
        obtain ⟨hbooted, hid, count, hpos, hcount, hcounter⟩ := ih hmem
        refine ⟨hbooted, hid.trans (node.nodeId_live event),
          count + if event.isLoss then 1 else 0, by omega, by omega, ?_⟩
        rw [hcounter, counter_live, BitVec.ofNat_add, add_assoc, add_comm (BitVec.ofNat 16 count)]
        split_ifs <;> rfl
      unfold generations at h
      split_ifs at h with hgenerates
      · obtain ⟨hloss, hbooted⟩ := node.generates_live hgenerates
        rcases List.mem_cons.mp h with rfl | hmem
        · refine ⟨hbooted, node.nodeId_live event, 1, Nat.one_pos, ?_, ?_⟩
          · rw [hlosses, if_pos hloss]
            exact Nat.le_add_left _ _
          · rw [counter_live, if_pos hloss]
            rfl
        · exact hlater hmem
      · exact hlater h

theorem generations_append (node : Node) (before after : List LifeEvent) :
    generations node (before ++ after) =
      generations node before ++ generations (before.foldl live node) after := by
  induction before generalizing node with
  | nil => rfl
  | cons event rest ih =>
      simp only [List.cons_append, generations, List.foldl_cons, ih]
      split_ifs
      · rfl
      · rfl

/-- A state of the list is reached by the first part of the events. -/
theorem reached_of_mem_generations {state : Node} (h : state ∈ generations node events) :
    ∃ before, before <+: events ∧ before.foldl live node = state ∧
      state ∈ generations node before := by
  induction events generalizing node with
  | nil => exact absurd h List.not_mem_nil
  | cons event rest ih =>
      have hlater : state ∈ generations (node.live event) rest → ∃ before,
          before <+: event :: rest ∧ before.foldl live node = state ∧
            state ∈ generations node before := by
        intro hmem
        obtain ⟨before, hprefix, hstate, hmem'⟩ := ih hmem
        refine ⟨event :: before, (List.prefix_cons_inj event).mpr hprefix, hstate, ?_⟩
        unfold generations
        split_ifs
        · exact List.mem_cons_of_mem _ hmem'
        · exact hmem'
      have hwhole := h
      unfold generations at h
      split_ifs at h with hgenerates
      · rcases List.mem_cons.mp h with rfl | hmem
        · refine ⟨[event], ⟨rest, rfl⟩, rfl, ?_⟩
          rw [generations, if_pos hgenerates]
          exact List.mem_cons_self
        · exact hlater hmem
      · exact hlater h

theorem booted_of_mem {state : Node} (hstart : Booted start)
    (h : state ∈ start :: generations start events) : Booted state := by
  rcases List.mem_cons.mp h with rfl | hmem
  · exact hstart
  · exact (counter_generations hmem).1

theorem reached_of_mem {state : Node} (h : state ∈ start :: generations start events) :
    ∃ before, before <+: events ∧ before.foldl live start = state ∧
      HoldsGenerated start before := by
  rcases List.mem_cons.mp h with rfl | hmem
  · exact ⟨[], List.nil_prefix, rfl, _, List.mem_cons_self, rfl⟩
  · obtain ⟨before, hprefix, hstate, hmem'⟩ := reached_of_mem_generations hmem
    exact ⟨before, hprefix, hstate, _, List.mem_cons_of_mem _ hmem', by rw [hstate]⟩

theorem clusterId_eq_iff (h : Booted node) (h' : Booted node') :
    node.clusterId = node'.clusterId ↔
      node.nodeId + node.connectionLossCounter = node'.nodeId + node'.connectionLossCounter := by
  rw [h, h']
  exact combine_eq_iff

theorem neverShare_iff (hstart : Booted start) (hstart' : Booted start')
    (events events' : List LifeEvent) :
    NeverShare start start' events events' ↔
      ∀ state ∈ start :: generations start events, ∀ state' ∈ start' :: generations start' events',
        state.nodeId + state.connectionLossCounter ≠
          state'.nodeId + state'.connectionLossCounter := by
  constructor
  · intro h state hmem state' hmem' hsum
    obtain ⟨before, hprefix, hstate, hholds⟩ := reached_of_mem hmem
    obtain ⟨before', hprefix', hstate', hholds'⟩ := reached_of_mem hmem'
    apply h before before' hprefix hprefix' hholds hholds'
    rw [hstate, hstate']
    exact (clusterId_eq_iff (booted_of_mem hstart hmem) (booted_of_mem hstart' hmem')).mpr hsum
  · rintro h before before' ⟨after, rfl⟩ ⟨after', rfl⟩ ⟨state, hmem, hid⟩ ⟨state', hmem', hid'⟩ heq
    have hgrows : ∀ (start : Node) before after,
        start :: generations start before ⊆ start :: generations start (before ++ after) := by
      intro start before after
      rw [generations_append]
      exact List.cons_subset_cons _ (List.subset_append_left _ _)
    apply h state (hgrows _ _ _ hmem) state' (hgrows _ _ _ hmem')
    rw [← clusterId_eq_iff (booted_of_mem hstart hmem) (booted_of_mem hstart' hmem'), ← hid, ← hid']
    exact heq

/-- Before the counter is back, no id is generated again. -/
theorem fresh_generations {state : Node} (hlosses : losses events < 2 ^ 16)
    (h : state ∈ generations node events) : state.clusterId ≠ node.generateClusterId := by
  obtain ⟨hbooted, hid, count, hpos, hcount, hcounter⟩ := counter_generations h
  rw [hbooted, generateClusterId, generateClusterId, hid, hcounter]
  intro heq
  have hzero : BitVec.ofNat 16 count = 0 := add_eq_left.mp (combine_injective _ heq)
  have hcount' := congrArg BitVec.toNat hzero
  rw [BitVec.toNat_ofNat, Nat.mod_eq_of_lt (by omega)] at hcount'
  exact absurd hcount' (by simp; omega)

theorem nodup_generations (hlosses : losses events ≤ 2 ^ 16) :
    ((generations node events).map clusterId).Nodup := by
  induction events generalizing node with
  | nil => exact List.nodup_nil
  | cons event rest ih =>
      have hsum : losses (event :: rest) = losses rest + if event.isLoss then 1 else 0 :=
        List.countP_cons
      have hrest : ((generations (node.live event) rest).map clusterId).Nodup := ih (by omega)
      unfold generations
      split_ifs with hgenerates
      · obtain ⟨hloss, hbooted⟩ := node.generates_live hgenerates
        rw [if_pos hloss] at hsum
        rw [List.map_cons, List.nodup_cons]
        refine ⟨?_, hrest⟩
        rw [List.mem_map, hbooted]
        rintro ⟨state, hmem, heq⟩
        exact fresh_generations (by omega) hmem heq
      · exact hrest

theorem nodup_ids (hstart : Booted start) (hlosses : losses events < 2 ^ 16) :
    ((start :: generations start events).map clusterId).Nodup := by
  rw [List.map_cons, List.nodup_cons]
  refine ⟨?_, nodup_generations (by omega)⟩
  rw [List.mem_map, hstart]
  rintro ⟨state, hmem, heq⟩
  exact fresh_generations hlosses hmem heq

/-! ### The UPDATE that announces an id -/

/-- An UPDATE that tells of the loss, as the node sends it or as another node relays it. -/
inductive Announces (node : Node) (i : Slot) (reason : U8) : Message → Prop
  | sent {k : Slot} {message : Message}
      (h : message ∈
        sends (node.disconnectionHandler i reason node.countLoss.generateClusterId).2 k) :
      Announces node i reason message
  | relayed {message : Message} (h : Announces node i reason message) (behind : ℕ → U8) :
      Announces node i reason (relayedUpdate message behind)

variable {reason : U8} {message : Message}

theorem Announces.ids (h : Announces node i reason message)
    (hgenerates : node.generates (.disconnected i reason) = true) :
    IsUpdate message ∧ newOf message = (node.live (.disconnected i reason)).clusterId := by
  induction h with
  | @sent k message hmem =>
      obtain ⟨hdone, hsmaller⟩ := Bool.and_eq_true_iff.mp hgenerates
      obtain ⟨sender, _, hsends⟩ :=
        node.disconnectionHandler_sends i reason node.countLoss.generateClusterId hdone
      rw [hsends, sends_sendClusterInfoUpdate, if_pos hsmaller] at hmem
      split_ifs at hmem
      · exact absurd hmem List.not_mem_nil
      · rw [List.mem_singleton.mp hmem]
        refine ⟨sender.isUpdate_announcement _ _ _ k, (sender.ids_announcement _ _ _ k).2.trans ?_⟩
        rw [live, disconnected_clusterId, if_pos ⟨hdone, hsmaller⟩]
  | relayed h behind ih =>
      obtain ⟨hupdate, hnew⟩ := ih
      obtain ⟨hupdate', _, _, hnew'⟩ := @relayedUpdate_eq _ behind hupdate
      exact ⟨hupdate', hnew'.trans hnew⟩

/-- What an UPDATE does to the id of a node, also of one with the id for broadcasts. -/
theorem receive_clusterId (receiver : Node) (j : Slot) (behind : ℕ → U8) (h : IsUpdate message) :
    (receiver.receivePacketHandler j (arrive message behind)).1.clusterId =
      if currentOf message = receiver.clusterId ∧ newOf message ≠ 0 then newOf message
      else receiver.clusterId := by
  by_cases hid : receiver.nodeId = nodeIdBroadcast
  · have hlength : message.bytes.length = 18 := h.length
    have hother : messageTypeClusterInfoUpdate ≠ messageTypeUpdateTimestamp := by decide
    have htype : messageTypeAt (arrive message behind).data = messageTypeClusterInfoUpdate :=
      type_arrive.trans h.type
    have hreceiver : receiverAt (arrive message behind).data = nodeIdBroadcast :=
      (receiver_arrive (by omega)).trans h.receiver
    have hordinary : Ordinary (messageTypeAt (arrive message behind).data) := by
      rw [htype]
      unfold Ordinary
      decide
    have hlast : receiver.lastReceiver nodeIdBroadcast = true := by
      rw [← hid]
      exact receiver.lastReceiver_self
    have hcares : receiver.caresFor nodeIdBroadcast = true := by simp [caresFor]
    have hdata : ∀ k, 7 ≤ k → k < 18 → (arrive message behind).data k = memory message k :=
      fun k hlow hhigh => arrive_data (by omega) (by omega) (Or.inr (by rw [h.type]; exact hother))
    have hcurrent : (ConnPacketClusterInfoUpdate.ofMemory (arrive message behind).data).currentClusterId =
        currentOf message := u32At_congr fun k hk => hdata _ (by omega) (by omega)
    have hnew : (ConnPacketClusterInfoUpdate.ofMemory (arrive message behind).data).newClusterId =
        newOf message := u32At_congr fun k hk => hdata _ (by omega) (by omega)
    rw [receiver.receive_ordinary hordinary (by rw [hreceiver]; decide)]
    simp only [hreceiver, hlast, hcares, if_true]
    rw [messageReceivedCallback, if_pos ⟨htype, (arrive_dataLength (by omega)).trans hlength⟩,
      updateClusterInfo_clusterId, hcurrent, hnew]
  · exact receiver.update_clusterId behind h hid

theorem takenOver_iff {receiver : Node} (j : Slot) (behind : ℕ → U8)
    (hgenerates : node.generates (.disconnected i reason) = true)
    (hannounces : Announces node i reason message)
    (hcurrent : currentOf message = receiver.clusterId) :
    (receiver.receivePacketHandler j (arrive message behind)).1.clusterId =
        (node.live (.disconnected i reason)).clusterId ↔
      node.nodeId + (node.connectionLossCounter + 1) ≠ 0 ∨ receiver.clusterId = 0 := by
  obtain ⟨hupdate, hnew⟩ := hannounces.ids hgenerates
  have hid : (node.live (.disconnected i reason)).clusterId =
      combine node.nodeId (node.connectionLossCounter + 1) := by
    obtain ⟨_, hbooted⟩ := node.generates_live hgenerates
    rw [hbooted, generateClusterId, nodeId_live, counter_live]
    rfl
  have hzero_iff : node.nodeId + (node.connectionLossCounter + 1) = 0 ↔
      combine node.nodeId (node.connectionLossCounter + 1) = 0 := combine_eq_zero_iff.symm
  rw [receive_clusterId receiver j behind hupdate, hnew, hid]
  -- the id 0 says that nothing changes
  by_cases hzero : combine node.nodeId (node.connectionLossCounter + 1) = 0
  · rw [if_neg fun h => h.2 hzero, hzero]
    have hsum := hzero_iff.mpr hzero
    exact ⟨Or.inr, fun h => h.resolve_left (not_not_intro hsum)⟩
  · rw [if_pos ⟨hcurrent, hzero⟩]
    exact ⟨fun _ => Or.inl fun hsum => hzero (hzero_iff.mp hsum), fun _ => rfl⟩

/-- **Generated ids.**  Ids differ exactly where the sums of node id and counter differ, and are
not 0 where the sum is not; so it is the sums that decide whether two nodes ever hold the same
generated id, and whether a receiver takes over an id that is announced.  One node does not
repeat an id before its counter is back. -/
theorem generatedIds_unique_iff (hstart : Booted start) (hstart' : Booted start')
    (events events' : List LifeEvent) :
    (∀ (nodeId nodeId' : NodeId) (counter counter' : U16),
      combine nodeId counter ≠ combine nodeId' counter' ↔ nodeId + counter ≠ nodeId' + counter') ∧
    (∀ (nodeId : NodeId) (counter : U16), combine nodeId counter ≠ 0 ↔ nodeId + counter ≠ 0) ∧
    (NeverShare start start' events events' ↔
      ∀ state ∈ start :: generations start events, ∀ state' ∈ start' :: generations start' events',
        state.nodeId + state.connectionLossCounter ≠
          state'.nodeId + state'.connectionLossCounter) ∧
    (losses events < 2 ^ 16 → ((start :: generations start events).map clusterId).Nodup) ∧
    (∀ (node receiver : Node) (i j : Slot) (reason : U8) (message : Message) (behind : ℕ → U8),
      node.generates (.disconnected i reason) = true → Announces node i reason message →
        currentOf message = receiver.clusterId →
          ((receiver.receivePacketHandler j (arrive message behind)).1.clusterId =
              (node.live (.disconnected i reason)).clusterId ↔
            node.nodeId + (node.connectionLossCounter + 1) ≠ 0 ∨ receiver.clusterId = 0)) :=
  ⟨fun _ _ _ _ => not_congr combine_eq_iff, fun _ _ => not_congr combine_eq_zero_iff,
    neverShare_iff hstart hstart' events events', nodup_ids hstart,
    fun _ _ _ j _ _ behind hgenerates hannounces hcurrent =>
      takenOver_iff j behind hgenerates hannounces hcurrent⟩

/-- A node that has been started with this random counter. -/
def bootedNode (nodeId : NodeId) (counter : U16) : Node :=
  { startedNode nodeId (combine nodeId counter) with connectionLossCounter := counter }

/-- Two nodes with the same sum hold the same id, and a sum that is zero gives the id 0. -/
theorem id_shared :
    ¬ (∀ (nodeId nodeId' : NodeId) (counter counter' : U16),
      (nodeId, counter) ≠ (nodeId', counter') → combine nodeId counter ≠ combine nodeId' counter') ∧
    ¬ (∀ (nodeId : NodeId) (counter : U16), combine nodeId counter ≠ 0) ∧
    ¬ NeverShare (bootedNode 1 2) (bootedNode 2 0) [] [.loss] := by
  refine ⟨?_, ?_, ?_⟩
  · intro h
    exact h 1 2 2 1 (by decide) (by decide)
  · intro h
    exact h 1 65535 (by decide)
  · intro h
    exact h [] [.loss] List.prefix_rfl List.prefix_rfl ⟨_, List.mem_cons_self, rfl⟩
      ⟨_, List.mem_cons_of_mem _ List.mem_cons_self, rfl⟩ (by decide)

/-- A node between two others, just before its counter and its id add up to zero. -/
def middleNode : Node :=
  { bootedNode 1 65534 with
    clusterSize := 3
    connections := fun i =>
      if i = inConnection then ⟨true, true, 2, 7, 2, -1, 14⟩
      else if i = ⟨1, one_lt_meshMaxConnections⟩ then ⟨true, true, 3, 7, 1, -1, 14⟩
      else freeConnection }

/-- The UPDATE of the node in the middle when it has lost the node 2. -/
def middleUpdate : Message :=
  middleNode.countLoss.announcement 7 0 (-2) ⟨1, one_lt_meshMaxConnections⟩

theorem generatedIds_unique_iff_two :
    (NeverShare (bootedNode 1 2) (bootedNode 2 0) [] [.loss] ↔
      ∀ state ∈ bootedNode 1 2 :: generations (bootedNode 1 2) [],
        ∀ state' ∈ bootedNode 2 0 :: generations (bootedNode 2 0) [.loss],
          state.nodeId + state.connectionLossCounter ≠
            state'.nodeId + state'.connectionLossCounter) ∧
    ((bootedNode 1 2 :: generations (bootedNode 1 2) [.loss, .loss]).map clusterId).Nodup ∧
    (((startedNode 3 7).receivePacketHandler inConnection (arrive middleUpdate zeros)).1.clusterId =
        (middleNode.live (.disconnected inConnection 8)).clusterId ↔
      middleNode.nodeId + (middleNode.connectionLossCounter + 1) ≠ 0 ∨
        (startedNode 3 7).clusterId = 0) := by
  obtain ⟨_, _, hshare, _, hover⟩ :=
    @generatedIds_unique_iff (bootedNode 1 2) (bootedNode 2 0) rfl rfl [] [.loss]
  obtain ⟨_, _, _, hnodup, _⟩ :=
    @generatedIds_unique_iff (bootedNode 1 2) (bootedNode 2 0) rfl rfl [.loss, .loss] []
  refine ⟨hshare, hnodup (by decide), ?_⟩
  exact hover middleNode (startedNode 3 7) inConnection inConnection 8 middleUpdate zeros
    (by decide) (.sent (k := ⟨1, by decide⟩) (by decide +kernel)) (by decide +kernel)

end Node

end FruityMesh.Mesh
