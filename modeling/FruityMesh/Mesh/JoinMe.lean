import FruityMesh.Mesh.Discovery
import FruityMesh.Mesh.Slots

/-!
# The choice of a partner

Nodes advertise their cluster in a JOIN_ME, keep those of others in a buffer, and decide at the
end of a discovery which of them to connect to.  The larger cluster is to be the master, the
smaller one advertises a JOIN_ME that acknowledges the other: it names the other in the
`ackField`, and in place of its own size it tells the other's.

Of two nodes that have heard each other the larger decides to be the master and the smaller to
be the slave, in every round (`roles_complementary`).  But a master takes a free connection for
the attempt to connect, and without another one it decides for nobody until the attempt is over.
-/

namespace FruityMesh.Mesh

open Runs

def joinMePacketBufferMaxElements : ℕ := 10
def maxJoinMePacketAgeMs : U32 := 15 * 1000
def messageTypeJoinMe : U8 := 1
def sizeofAdvPacketJoinMe : U8 := 11 + 19

/-- The payload of a JOIN_ME.  Fields that nobody sets or nobody reads are left out. -/
structure JoinMe where
  sender : NodeId
  clusterId : ClusterId
  clusterSize : ClusterSize
  freeInConnections : BitVec 3
  freeOutConnections : BitVec 5
  meshWriteHandle : U16
  ackField : NodeId
  deriving DecidableEq, Repr

structure BleAddress where
  addrType : U8
  addr : BitVec 48
  deriving DecidableEq, Repr

/-- A `joinMeBufferPacket`. -/
structure JoinMeBufferPacket where
  bleAddress : BleAddress
  receivedTime : U32
  payload : JoinMe
  deriving DecidableEq, Repr

/-- An advertisement that the scanner has found to be of our network. -/
structure AdvReport where
  messageType : U8
  dlen : U8
  peerAddress : BleAddress
  payload : JoinMe

/-- A node with its connections, what it has heard and what it advertises. -/
structure Advertiser where
  cm : ConnectionManager
  appTimerMs : U32
  joinMePacketBuffer : List JoinMeBufferPacket
  joinMe : JoinMe
  /-- Others can connect to us. -/
  connectable : Bool

/-- What `DetermineBestClusterAvailable` returns and does: the cluster that it has chosen, and
the connections that it closes. -/
structure Decision where
  node : Advertiser
  result : DecisionResult
  bestCluster : Option JoinMeBufferPacket
  closed : List Slot

namespace Advertiser

def nodeId (node : Advertiser) : NodeId := node.cm.node.nodeId

def clusterId (node : Advertiser) : ClusterId := node.cm.node.clusterId

def clusterSize (node : Advertiser) : ClusterSize := node.cm.node.clusterSize

/-- The packet that `UpdateJoinMePacket` builds. -/
def joinMePacket (node : Advertiser) (ackCluster : Option JoinMeBufferPacket) : JoinMe :=
  let packet : JoinMe :=
    { sender := node.nodeId
      clusterId := node.clusterId
      clusterSize := node.clusterSize
      freeInConnections := node.cm.freeInConnections.setWidth 3
      freeOutConnections := node.cm.freeOutConnections.setWidth 5
      meshWriteHandle := node.cm.node.meshWriteHandle
      ackField := 0 }
  match ackCluster with
  | none => packet
  | some cluster =>
      { packet with
        clusterSize := cluster.payload.clusterSize
        ackField := cluster.payload.sender }

def updateJoinMePacket (node : Advertiser) (ackCluster : Option JoinMeBufferPacket) : Advertiser :=
  { node with
    joinMe := node.joinMePacket ackCluster
    connectable := !node.cm.isConnected inConnection }

/-- `AdvertisementMessageHandler`. -/
def advertisementMessageHandler (node : Advertiser) (report : AdvReport) : Advertiser :=
  if report.messageType = messageTypeJoinMe ∧ report.dlen = sizeofAdvPacketJoinMe then
    if report.payload.clusterId = node.clusterId then node
    else
      let packet : JoinMeBufferPacket := ⟨report.peerAddress, node.appTimerMs, report.payload⟩
      match node.joinMePacketBuffer.findIdx? fun old => old.payload.sender = report.payload.sender with
      | some k => { node with joinMePacketBuffer := node.joinMePacketBuffer.set k packet }
      | none =>
          if node.joinMePacketBuffer.length < joinMePacketBufferMaxElements then
            { node with joinMePacketBuffer := node.joinMePacketBuffer ++ [packet] }
          else node
  else node

/-- `CalculateClusterScoreAsMaster`. -/
def calculateClusterScoreAsMaster (node : Advertiser) (packet : JoinMeBufferPacket) : U32 :=
  let payload := packet.payload
  if maxJoinMePacketAgeMs < node.appTimerMs - packet.receivedTime then 0
  else if payload.clusterId = node.clusterId then 0
  else if payload.freeInConnections = 0 then 0
  else if payload.ackField = 0 ∧
      (node.clusterSize.toInt < payload.clusterSize.toInt ∨
        (payload.clusterSize = node.clusterSize ∧ node.clusterId < payload.clusterId)) then 0
  else if (payload.ackField ≠ 0 ∧ payload.ackField ≠ node.nodeId) ∧
      ¬ payload.clusterSize.toInt ≤ node.clusterSize.toInt then 0
  else payload.freeInConnections.setWidth 32 * 1000 + payload.freeOutConnections.setWidth 32 * 100

/-- `CalculateClusterScoreAsSlave`. -/
def calculateClusterScoreAsSlave (node : Advertiser) (packet : JoinMeBufferPacket) : U32 :=
  let payload := packet.payload
  if maxJoinMePacketAgeMs < node.appTimerMs - packet.receivedTime then 0
  else if payload.clusterId = node.clusterId then 0
  else if payload.ackField ≠ 0 then 0
  else if payload.freeOutConnections = 0 then 0
  else payload.clusterSize.signExtend 32 * 1000 + payload.freeOutConnections.setWidth 32

/-- The loop that finds the first packet with the best score. -/
def bestOf (score : JoinMeBufferPacket → U32) (best : U32 × Option JoinMeBufferPacket)
    (packets : List JoinMeBufferPacket) : U32 × Option JoinMeBufferPacket :=
  packets.foldl (fun best packet => if best.1 < score packet then (score packet, some packet) else best)
    best

/-- `DetermineBestClusterAvailable`; nothing if `ConnectAsMaster` follows a null pointer. -/
def determineBestClusterAvailable (node : Advertiser) : Option Decision :=
  if node.joinMePacketBuffer = [] then some ⟨node, .noNodesFound, none, []⟩
  else
    let asMaster :=
      if node.cm.freeOutConnections ≠ 0 then
        bestOf node.calculateClusterScoreAsMaster (0, none) node.joinMePacketBuffer
      else (0, none)
    match asMaster.2 with
    | some best =>
        (node.cm.connectAsMaster best.payload.meshWriteHandle).map fun cm =>
          ⟨{ node with cm := cm, joinMePacketBuffer := [] }, .connectAsMaster, some best, []⟩
    | none =>
        match (bestOf node.calculateClusterScoreAsSlave asMaster node.joinMePacketBuffer).2 with
        | some best =>
            some ⟨{ node.updateJoinMePacket (some best) with joinMePacketBuffer := [] },
              .connectAsSlave, some best,
              -- we can reach each other: only the best cluster is to be left
              if best.payload.ackField = node.nodeId then
                (List.finRange meshMaxConnections).filter fun i => node.cm.isConnected i
              else []⟩
        | none => some ⟨node, .noNodesFound, none, []⟩

/-- The timer has gone on. -/
def wait (node : Advertiser) (ms : U32) : Advertiser :=
  { node with appTimerMs := node.appTimerMs + ms }

/-- The node hears a JOIN_ME. -/
def hear (node : Advertiser) (address : BleAddress) (payload : JoinMe) : Advertiser :=
  node.advertisementMessageHandler ⟨messageTypeJoinMe, sizeofAdvPacketJoinMe, address, payload⟩

/-- The cluster of `a` is the larger one, by its size or else by its id. -/
def Bigger (a b : Advertiser) : Prop :=
  b.clusterSize.toInt < a.clusterSize.toInt ∨
    (a.clusterSize = b.clusterSize ∧ b.clusterId < a.clusterId)

/-- The node has free connections of both kinds, no more than a JOIN_ME can tell; there are one
incoming and three outgoing ones. -/
structure HasFree (cm : ConnectionManager) : Prop where
  freeIn : 0 < cm.freeInConnections.toNat ∧ cm.freeInConnections.toNat < 8
  freeOut : 0 < cm.freeOutConnections.toNat ∧ cm.freeOutConnections.toNat < 32
  unconnected : ∃ i, cm.getFreeOutConnection = some i

/-- The buffer holds the current JOIN_ME of the other node and nothing else. -/
def Hears (node other : Advertiser) : Prop :=
  ∃ packet, node.joinMePacketBuffer = [packet] ∧ packet.payload = other.joinMePacket none ∧
    node.appTimerMs - packet.receivedTime ≤ maxJoinMePacketAgeMs

/-- Two nodes of different clusters that have heard each other. -/
structure Meet (a b : Advertiser) : Prop where
  nodeIds : a.nodeId ≠ 0 ∧ b.nodeId ≠ 0
  clusterIds : a.clusterId ≠ b.clusterId
  sizes : 1 ≤ a.clusterSize.toInt ∧ 1 ≤ b.clusterSize.toInt
  free : HasFree a.cm ∧ HasFree b.cm
  hears : Hears a b ∧ Hears b a

/-- The node decides to be the master of the other one. -/
def Leads (node other : Advertiser) : Prop :=
  ∃ decision packet, node.determineBestClusterAvailable = some decision ∧
    decision.result = .connectAsMaster ∧ decision.bestCluster = some packet ∧
      packet.payload.sender = other.nodeId

/-- The node decides to be the slave of the other one, and acknowledges it. -/
def Follows (node other : Advertiser) : Prop :=
  ∃ decision, node.determineBestClusterAvailable = some decision ∧
    decision.result = .connectAsSlave ∧ decision.node.joinMe.ackField = other.nodeId

/-- Some time after, the node hears a JOIN_ME, and decides again within 15 seconds. -/
def next (node : Advertiser) (payload : JoinMe) (address : BleAddress) (gap age : U32) : Advertiser :=
  ((node.wait gap).hear address payload).wait age

/-- What happens to a slave while it hears its master only. -/
inductive SlaveEvent
  | wait (ms : U32)
  | hear (address : BleAddress) (payload : JoinMe)
  | decide

def apply (node : Advertiser) : SlaveEvent → Advertiser
  | .wait ms => node.wait ms
  | .hear address payload => node.hear address payload
  | .decide => (node.determineBestClusterAvailable.map Decision.node).getD node

/-- A JOIN_ME of the master, whatever connections it has left. -/
def Of (master : Advertiser) : Advertiser → SlaveEvent → Prop
  | _, .hear _ payload => payload.clusterId = master.clusterId ∧
      payload.clusterSize = master.clusterSize ∧ payload.ackField = 0
  | _, _ => True

/-- The roles fit together, also after the slave has advertised its new JOIN_ME. -/
structure Complementary (master slave : Advertiser) : Prop where
  leads : Leads master slave
  follows : Follows slave master
  /-- The master has not decided before it hears the new JOIN_ME. -/
  undecided : ∀ answer address gap age, slave.determineBestClusterAvailable = some answer →
    age ≤ maxJoinMePacketAgeMs → Leads (master.next answer.node.joinMe address gap age) slave
  /-- The master has decided, and is trying to connect. -/
  decided : ∀ decision answer address gap age,
    master.determineBestClusterAvailable = some decision →
    slave.determineBestClusterAvailable = some answer → age ≤ maxJoinMePacketAgeMs →
      (Leads (decision.node.next answer.node.joinMe address gap age) slave ↔
        ¬ (master.cm.freeOutConnections = 1 ∧ master.cm.pendingConnection = none))
  /-- The master has decided, and the attempt to connect has timed out. -/
  timedOut : ∀ decision answer address gap age,
    master.determineBestClusterAvailable = some decision →
    slave.determineBestClusterAvailable = some answer → age ≤ maxJoinMePacketAgeMs →
      Leads ({ decision.node with cm := decision.node.cm.timeout }.next answer.node.joinMe address
        gap age) slave
  /-- Whatever the slave hears of the master, and how often it decides. -/
  never : ∀ events node, Run apply (Of master) slave events node →
    ∀ decision, node.determineBestClusterAvailable = some decision →
      decision.result ≠ .connectAsMaster

/-! ## The scores -/

variable {node other master slave : Advertiser} {packet : JoinMeBufferPacket}

theorem scoreAsMaster_pos (hage : node.appTimerMs - packet.receivedTime ≤ maxJoinMePacketAgeMs)
    (hcluster : packet.payload.clusterId ≠ node.clusterId)
    (hfreeIn : packet.payload.freeInConnections ≠ 0)
    (hbigger : packet.payload.ackField = 0 →
      ¬ (node.clusterSize.toInt < packet.payload.clusterSize.toInt ∨
        (packet.payload.clusterSize = node.clusterSize ∧
          node.clusterId < packet.payload.clusterId)))
    (hack : packet.payload.ackField = 0 ∨ packet.payload.ackField = node.nodeId) :
    0 < node.calculateClusterScoreAsMaster packet := by
  unfold calculateClusterScoreAsMaster
  dsimp only
  rw [if_neg (BitVec.not_lt.mpr hage), if_neg hcluster, if_neg hfreeIn,
    if_neg fun h => hbigger h.1 h.2, if_neg fun h => hack.elim h.1.1 h.1.2]
  have hin := packet.payload.freeInConnections.isLt
  have hout := packet.payload.freeOutConnections.isLt
  have hpos : packet.payload.freeInConnections.toNat ≠ 0 := fun h => hfreeIn (BitVec.eq_of_toNat_eq h)
  rw [BitVec.lt_def, BitVec.toNat_add, BitVec.toNat_mul, BitVec.toNat_mul, BitVec.toNat_setWidth,
    BitVec.toNat_setWidth, show (1000 : U32).toNat = 1000 from rfl,
    show (100 : U32).toNat = 100 from rfl, show (0 : U32).toNat = 0 from rfl]
  rw [Nat.mod_eq_of_lt (a := packet.payload.freeInConnections.toNat) (by omega),
    Nat.mod_eq_of_lt (a := packet.payload.freeOutConnections.toNat) (by omega), ← Nat.add_mod,
    Nat.mod_eq_of_lt (by omega)]
  omega

/-- A node does not want to be the master of a larger cluster that is not acknowledging. -/
theorem scoreAsMaster_eq_zero (hack : packet.payload.ackField = 0)
    (hbigger : node.clusterSize.toInt < packet.payload.clusterSize.toInt ∨
      (packet.payload.clusterSize = node.clusterSize ∧ node.clusterId < packet.payload.clusterId)) :
    node.calculateClusterScoreAsMaster packet = 0 := by
  unfold calculateClusterScoreAsMaster
  dsimp only
  rw [if_pos (⟨hack, hbigger⟩ : _ ∧ _)]
  split_ifs <;> rfl

theorem scoreAsSlave_pos (hage : node.appTimerMs - packet.receivedTime ≤ maxJoinMePacketAgeMs)
    (hcluster : packet.payload.clusterId ≠ node.clusterId) (hack : packet.payload.ackField = 0)
    (hfreeOut : packet.payload.freeOutConnections ≠ 0)
    (hsize : 1 ≤ packet.payload.clusterSize.toInt) :
    0 < node.calculateClusterScoreAsSlave packet := by
  unfold calculateClusterScoreAsSlave
  dsimp only
  rw [if_neg (BitVec.not_lt.mpr hage), if_neg hcluster, if_neg (not_not_intro hack),
    if_neg hfreeOut]
  have hout := packet.payload.freeOutConnections.isLt
  have hsign : packet.payload.clusterSize.msb = false := by
    rw [BitVec.msb_eq_toInt]
    simpa using by omega
  have htoNat : 1 ≤ packet.payload.clusterSize.toNat ∧ packet.payload.clusterSize.toNat < 2 ^ 15 := by
    have hint := BitVec.toInt_eq_msb_cond packet.payload.clusterSize
    have hlow := BitVec.msb_eq_false_iff_two_mul_lt.mp hsign
    rw [hsign] at hint
    simp only [Bool.false_eq_true, if_false] at hint
    omega
  rw [BitVec.signExtend_eq_setWidth_of_msb_false hsign, BitVec.lt_def, BitVec.toNat_add,
    BitVec.toNat_mul, BitVec.toNat_setWidth, BitVec.toNat_setWidth,
    show (1000 : U32).toNat = 1000 from rfl, show (0 : U32).toNat = 0 from rfl]
  rw [Nat.mod_eq_of_lt (a := packet.payload.clusterSize.toNat) (by omega),
    Nat.mod_eq_of_lt (a := packet.payload.freeOutConnections.toNat) (by omega), Nat.mod_add_mod,
    Nat.mod_eq_of_lt (by omega)]
  omega

/-! ## The decision -/

theorem bestOf_of_zero {score : JoinMeBufferPacket → U32} {packets : List JoinMeBufferPacket}
    (h : ∀ packet ∈ packets, score packet = 0) : bestOf score (0, none) packets = (0, none) := by
  induction packets with
  | nil => rfl
  | cons packet rest ih =>
      have hnot : ¬ (0 : U32) < score packet := by
        rw [h packet List.mem_cons_self]
        exact BitVec.lt_irrefl 0
      rw [bestOf, List.foldl_cons, if_neg hnot]
      exact ih fun other hother => h other (List.mem_cons_of_mem _ hother)

theorem bestOf_singleton {score : JoinMeBufferPacket → U32} (h : 0 < score packet) :
    bestOf score (0, none) [packet] = (score packet, some packet) :=
  if_pos h

/-- The only packet gets us as its master. -/
theorem determine_leads (hbuffer : node.joinMePacketBuffer = [packet])
    (hfree : node.cm.freeOutConnections ≠ 0) (hscore : 0 < node.calculateClusterScoreAsMaster packet) :
    node.determineBestClusterAvailable =
      (node.cm.connectAsMaster packet.payload.meshWriteHandle).map fun cm =>
        ⟨{ node with cm := cm, joinMePacketBuffer := [] }, .connectAsMaster, some packet, []⟩ := by
  unfold determineBestClusterAvailable
  rw [hbuffer, if_neg (List.cons_ne_nil _ _), if_pos hfree, bestOf_singleton hscore]

/-- Nobody gets us as a master if no packet has a score, or if there is no free connection. -/
theorem determine_not_leads
    (h : node.cm.freeOutConnections = 0 ∨
      ∀ packet ∈ node.joinMePacketBuffer, node.calculateClusterScoreAsMaster packet = 0)
    {decision : Decision} (hdecision : node.determineBestClusterAvailable = some decision) :
    decision.result ≠ .connectAsMaster ∧ decision.node.cm = node.cm ∧
      decision.node.joinMePacketBuffer ⊆ node.joinMePacketBuffer := by
  have hnone : (if node.cm.freeOutConnections ≠ 0 then
      bestOf node.calculateClusterScoreAsMaster (0, none) node.joinMePacketBuffer
      else (0, none)) = (0, none) := by
    split_ifs with hfree
    · exact bestOf_of_zero (h.resolve_left hfree)
    · rfl
  unfold determineBestClusterAvailable at hdecision
  by_cases hempty : node.joinMePacketBuffer = []
  · rw [if_pos hempty] at hdecision
    rw [← Option.some.inj hdecision]
    exact ⟨fun heq => DecisionResult.noConfusion heq, rfl, List.Subset.refl _⟩
  · rw [if_neg hempty, hnone] at hdecision
    dsimp only at hdecision
    split at hdecision
    · rw [← Option.some.inj hdecision]
      exact ⟨fun heq => DecisionResult.noConfusion heq, rfl, List.nil_subset _⟩
    · rw [← Option.some.inj hdecision]
      exact ⟨fun heq => DecisionResult.noConfusion heq, rfl, List.Subset.refl _⟩

/-- The only packet gets us as its slave. -/
theorem determine_follows (hbuffer : node.joinMePacketBuffer = [packet])
    (hzero : node.calculateClusterScoreAsMaster packet = 0)
    (hscore : 0 < node.calculateClusterScoreAsSlave packet) :
    ∃ closed, node.determineBestClusterAvailable =
      some ⟨{ node.updateJoinMePacket (some packet) with joinMePacketBuffer := [] },
        .connectAsSlave, some packet, closed⟩ := by
  have hnone : (if node.cm.freeOutConnections ≠ 0 then
      bestOf node.calculateClusterScoreAsMaster (0, none) [packet] else (0, none)) = (0, none) := by
    split_ifs
    · exact bestOf_of_zero fun other hother => by rwa [List.mem_singleton.mp hother]
    · rfl
  unfold determineBestClusterAvailable
  rw [hbuffer, if_neg (List.cons_ne_nil _ _), hnone]
  dsimp only
  rw [bestOf_singleton hscore]
  exact ⟨_, rfl⟩

/-! ## Connecting -/

theorem connectAsMaster_some {cm : ConnectionManager} (handle : U16)
    (h : cm.pendingConnection ≠ none ∨ ∃ i, cm.getFreeOutConnection = some i) :
    ∃ cm', cm.connectAsMaster handle = some cm' := by
  unfold ConnectionManager.connectAsMaster
  by_cases hbusy : cm.freeOutConnections = 0 ∨ cm.pendingConnection ≠ none
  · exact ⟨cm, if_pos hbusy⟩
  · obtain ⟨i, hi⟩ := h.resolve_left fun hpending => hbusy (Or.inr hpending)
    rw [if_neg hbusy, hi]
    exact ⟨_, rfl⟩

/-- `ConnectAsMaster` of a node with a free connection: there is an attempt to connect
afterwards, and a connection less if there was none before. -/
theorem connectAsMaster_of_free {cm : ConnectionManager} (h : HasFree cm) (handle : U16) :
    ∃ cm', cm.connectAsMaster handle = some cm' ∧ cm'.pendingConnection ≠ none ∧
      cm'.freeOutConnections =
        (if cm.pendingConnection = none then cm.freeOutConnections - 1
          else cm.freeOutConnections) ∧
      (∃ i, cm'.getFreeOutConnection = some i) ∧ cm'.node.nodeId = cm.node.nodeId ∧
      cm'.node.clusterId = cm.node.clusterId := by
  have hpos : cm.freeOutConnections ≠ 0 := fun hzero => absurd h.freeOut.1 (by rw [hzero]; decide)
  unfold ConnectionManager.connectAsMaster
  by_cases hpending : cm.pendingConnection = none
  · obtain ⟨i, hi⟩ := h.unconnected
    have hunconnected := (ConnectionManager.getFreeOutConnection_eq_some hi).2
    rw [if_neg fun hor => hor.elim hpos fun hne => hne hpending, hi, if_pos hpending]
    have hstill : ∀ cm' : ConnectionManager, cm'.node = cm.node.connectAsMaster i handle →
        ∃ i, cm'.getFreeOutConnection = some i := by
      intro cm' hnode
      refine ⟨i, ?_⟩
      rw [← hi]
      unfold ConnectionManager.getFreeOutConnection ConnectionManager.isConnected
      simp only [hnode, ConnectionManager.isConnected_connectAsMaster cm.node i _ handle hunconnected]
    unfold ConnectionManager.connectToPeripheral
    dsimp only [Option.map_some]
    split_ifs
    · exact ⟨_, rfl, Option.some_ne_none i, rfl, hstill _ rfl, rfl, rfl⟩
    · exact ⟨_, rfl, Option.some_ne_none i, rfl, hstill _ rfl, rfl, rfl⟩
  · rw [if_pos (Or.inr hpending), if_neg hpending]
    exact ⟨cm, rfl, hpending, rfl, h.unconnected, rfl, rfl⟩

/-! ## Hearing -/

section Hear

variable {address : BleAddress} {payload : JoinMe}

theorem hear_kept : (node.hear address payload).cm = node.cm ∧
    (node.hear address payload).appTimerMs = node.appTimerMs := by
  unfold hear advertisementMessageHandler
  rw [if_pos ⟨rfl, rfl⟩]
  by_cases hcluster : payload.clusterId = node.clusterId
  · rw [if_pos hcluster]
    exact ⟨rfl, rfl⟩
  · rw [if_neg hcluster]
    dsimp only
    split
    · exact ⟨rfl, rfl⟩
    · split_ifs <;> exact ⟨rfl, rfl⟩

/-- A packet in the buffer was there before, or it is the one that has been heard. -/
theorem mem_hear_eq (h : packet ∈ (node.hear address payload).joinMePacketBuffer) :
    packet ∈ node.joinMePacketBuffer ∨ packet = ⟨address, node.appTimerMs, payload⟩ := by
  unfold hear advertisementMessageHandler at h
  rw [if_pos ⟨rfl, rfl⟩] at h
  by_cases hcluster : payload.clusterId = node.clusterId
  · rw [if_pos hcluster] at h
    exact Or.inl h
  · rw [if_neg hcluster] at h
    dsimp only at h
    split at h
    · exact List.mem_or_eq_of_mem_set h
    · split_ifs at h
      · exact (List.mem_append.mp h).imp id List.mem_singleton.mp
      · exact Or.inl h

theorem mem_hear (h : packet ∈ (node.hear address payload).joinMePacketBuffer) :
    packet ∈ node.joinMePacketBuffer ∨ packet.payload = payload :=
  (mem_hear_eq h).imp id fun heq => by rw [heq]

/-- Where there was nothing of another node, the new packet is the only one. -/
theorem hear_alone (hcluster : payload.clusterId ≠ node.clusterId)
    (hbuffer : node.joinMePacketBuffer = [] ∨
      ∃ old, node.joinMePacketBuffer = [old] ∧ old.payload.sender = payload.sender) :
    (node.hear address payload).joinMePacketBuffer = [⟨address, node.appTimerMs, payload⟩] := by
  unfold hear advertisementMessageHandler
  rw [if_pos ⟨rfl, rfl⟩, if_neg hcluster]
  rcases hbuffer with hempty | ⟨old, hone, hsender⟩
  · simp [hempty, joinMePacketBufferMaxElements]
  · simp [hone, hsender]

theorem next_spec {gap age : U32} (hcluster : payload.clusterId ≠ node.clusterId)
    (hbuffer : node.joinMePacketBuffer = [] ∨
      ∃ old, node.joinMePacketBuffer = [old] ∧ old.payload.sender = payload.sender) :
    (node.next payload address gap age).cm = node.cm ∧
      ∃ packet, (node.next payload address gap age).joinMePacketBuffer = [packet] ∧
        packet.payload = payload ∧
        (node.next payload address gap age).appTimerMs - packet.receivedTime = age := by
  obtain ⟨hcm, htime⟩ := @hear_kept (node.wait gap) address payload
  refine ⟨hcm, _, @hear_alone (node.wait gap) _ _ hcluster hbuffer, rfl, ?_⟩
  show ((node.wait gap).hear address payload).appTimerMs + age - (node.wait gap).appTimerMs = age
  rw [htime]
  exact add_sub_cancel_left _ _

end Hear

/-! ## Two nodes -/

theorem Bigger.asymm (h : Bigger master slave) : ¬ Bigger slave master := by
  unfold Bigger at h ⊢
  rcases h with hless | ⟨hsame, hid⟩
  · rintro (hmore | ⟨hsame', _⟩)
    · omega
    · rw [hsame'] at hless
      exact absurd hless (lt_irrefl _)
  · rintro (hmore | ⟨_, hid'⟩)
    · rw [hsame] at hmore
      exact absurd hmore (lt_irrefl _)
    · exact absurd (BitVec.lt_trans hid hid') (BitVec.lt_irrefl _)

/-- Of two clusters with different ids one is the larger one. -/
theorem bigger_or (h : master.clusterId ≠ slave.clusterId) :
    Bigger master slave ∨ Bigger slave master := by
  unfold Bigger
  rcases lt_trichotomy master.clusterSize.toInt slave.clusterSize.toInt with hless | hsame | hmore
  · exact Or.inr (Or.inl hless)
  · have hsize := BitVec.eq_of_toInt_eq hsame
    rcases Nat.lt_or_gt_of_ne fun heq => h (BitVec.eq_of_toNat_eq heq) with hid | hid
    · exact Or.inr (Or.inr ⟨hsize.symm, hid⟩)
    · exact Or.inl (Or.inr ⟨hsize, hid⟩)
  · exact Or.inl (Or.inl hmore)

theorem Meet.symm (h : Meet master slave) : Meet slave master :=
  ⟨h.nodeIds.symm, h.clusterIds.symm, h.sizes.symm, h.free.symm, h.hears.symm⟩

/-- What is free can be told in a JOIN_ME. -/
theorem HasFree.told (h : HasFree node.cm) (ackCluster : Option JoinMeBufferPacket) :
    (node.joinMePacket ackCluster).freeInConnections ≠ 0 ∧
      (node.joinMePacket ackCluster).freeOutConnections ≠ 0 := by
  obtain ⟨hinPos, hinLess⟩ := h.freeIn
  obtain ⟨houtPos, houtLess⟩ := h.freeOut
  have hin : node.cm.freeInConnections.setWidth 3 ≠ 0 := by
    intro hzero
    have := congrArg BitVec.toNat hzero
    rw [BitVec.toNat_setWidth, Nat.mod_eq_of_lt hinLess] at this
    exact absurd this (by simpa using by omega)
  have hout : node.cm.freeOutConnections.setWidth 5 ≠ 0 := by
    intro hzero
    have := congrArg BitVec.toNat hzero
    rw [BitVec.toNat_setWidth, Nat.mod_eq_of_lt houtLess] at this
    exact absurd this (by simpa using by omega)
  cases ackCluster with
  | none => exact ⟨hin, hout⟩
  | some cluster => exact ⟨hin, hout⟩

/-- A manager whose accounts are right has free connections if its counters say so. -/
theorem hasFree_of_accounts {cm : ConnectionManager} (h : ConnectionManager.Accounts cm)
    (hin : cm.freeInConnections ≠ 0) (hout : cm.freeOutConnections ≠ 0) : HasFree cm := by
  have hfreeIn := h.freeIn
  have hfreeOut := h.freeOut
  have hmax : meshMaxOutConnections = 3 := rfl
  have hinPos : cm.freeInConnections.toNat ≠ 0 := fun hzero => hin (BitVec.eq_of_toNat_eq hzero)
  have houtPos : cm.freeOutConnections.toNat ≠ 0 := fun hzero => hout (BitVec.eq_of_toNat_eq hzero)
  refine ⟨⟨by omega, by omega⟩, ⟨by omega, by omega⟩, ?_⟩
  cases hfree : cm.getFreeOutConnection with
  | some i => exact ⟨i, rfl⟩
  | none =>
      have hfull := ConnectionManager.getFreeOutConnection_eq_none hfree
      omega

/-- A node that has heard nothing yet hears another one. -/
theorem hears_next {gap age : U32} {address : BleAddress} (hempty : node.joinMePacketBuffer = [])
    (hcluster : other.clusterId ≠ node.clusterId) (hage : age ≤ maxJoinMePacketAgeMs) :
    Hears (node.next (other.joinMePacket none) address gap age) other := by
  obtain ⟨_, packet, hbuffer, hpayload, hage'⟩ :=
    @next_spec node address (other.joinMePacket none) gap age hcluster (Or.inl hempty)
  exact ⟨packet, hbuffer, hpayload, hage'.trans_le hage⟩

theorem leads_of_packet (hbuffer : node.joinMePacketBuffer = [packet])
    (hfree : node.cm.freeOutConnections ≠ 0)
    (hconnect : node.cm.pendingConnection ≠ none ∨ ∃ i, node.cm.getFreeOutConnection = some i)
    (hscore : 0 < node.calculateClusterScoreAsMaster packet)
    (hsender : packet.payload.sender = other.nodeId) : Leads node other := by
  obtain ⟨cm', hcm'⟩ := connectAsMaster_some packet.payload.meshWriteHandle hconnect
  have hdecides := determine_leads hbuffer hfree hscore
  rw [hcm', Option.map_some] at hdecides
  exact ⟨_, packet, hdecides, rfl, rfl, hsender⟩

section Pair

variable (h : Meet master slave) (hbigger : Bigger master slave)
include h hbigger

/-- What the master decides at first. -/
theorem master_decides :
    ∃ cm' packet, packet.payload.sender = slave.nodeId ∧
      master.determineBestClusterAvailable =
        some ⟨{ master with cm := cm', joinMePacketBuffer := [] }, .connectAsMaster, some packet, []⟩ ∧
      master.joinMePacketBuffer = [packet] ∧ cm'.pendingConnection ≠ none ∧
      cm'.freeOutConnections =
        (if master.cm.pendingConnection = none then master.cm.freeOutConnections - 1
          else master.cm.freeOutConnections) ∧
      (∃ i, cm'.getFreeOutConnection = some i) ∧ cm'.node.nodeId = master.nodeId ∧
      cm'.node.clusterId = master.clusterId := by
  obtain ⟨packet, hbuffer, hpayload, hage⟩ := h.hears.1
  have hfree : master.cm.freeOutConnections ≠ 0 :=
    fun hzero => absurd h.free.1.freeOut.1 (by rw [hzero]; decide)
  have hscore : 0 < master.calculateClusterScoreAsMaster packet := by
    apply scoreAsMaster_pos hage
    · rw [hpayload]
      exact h.clusterIds.symm
    · rw [hpayload]
      exact (h.free.2.told none).1
    · intro _
      rw [hpayload]
      exact hbigger.asymm
    · rw [hpayload]
      exact Or.inl rfl
  obtain ⟨cm', hcm', hpending, hfreeOut, hunconnected, hid, hcluster⟩ :=
    connectAsMaster_of_free h.free.1 packet.payload.meshWriteHandle
  refine ⟨cm', packet, by rw [hpayload]; rfl, ?_, hbuffer, hpending, hfreeOut, hunconnected, hid,
    hcluster⟩
  rw [determine_leads hbuffer hfree hscore, hcm', Option.map_some]

/-- What the slave decides at first: it answers with a JOIN_ME that names the master. -/
theorem slave_decides :
    ∃ packet closed, packet.payload.sender = master.nodeId ∧
      slave.determineBestClusterAvailable =
        some ⟨{ slave.updateJoinMePacket (some packet) with joinMePacketBuffer := [] },
          .connectAsSlave, some packet, closed⟩ := by
  obtain ⟨packet, hbuffer, hpayload, hage⟩ := h.hears.2
  have hzero : slave.calculateClusterScoreAsMaster packet = 0 := by
    apply scoreAsMaster_eq_zero
    · rw [hpayload]
      rfl
    · rw [hpayload]
      exact hbigger
  have hscore : 0 < slave.calculateClusterScoreAsSlave packet := by
    apply scoreAsSlave_pos hage
    · rw [hpayload]
      exact h.clusterIds
    · rw [hpayload]
      rfl
    · rw [hpayload]
      exact (h.free.1.told none).2
    · rw [hpayload]
      exact h.sizes.1
  obtain ⟨closed, hdecides⟩ := determine_follows hbuffer hzero hscore
  exact ⟨packet, closed, by rw [hpayload]; rfl, hdecides⟩

/-- A master that hears the answer decides for the slave, if it has a free connection. -/
theorem leads_answer {answer : Decision} (hanswer : slave.determineBestClusterAvailable = some answer)
    (hid : node.nodeId = master.nodeId) (hcluster : node.clusterId = master.clusterId)
    (hbuffer : node.joinMePacketBuffer = [] ∨
      ∃ old, node.joinMePacketBuffer = [old] ∧ old.payload.sender = slave.nodeId)
    (hfree : node.cm.freeOutConnections ≠ 0)
    (hconnect : node.cm.pendingConnection ≠ none ∨ ∃ i, node.cm.getFreeOutConnection = some i)
    (address : BleAddress) (gap : U32) {age : U32} (hage : age ≤ maxJoinMePacketAgeMs) :
    Leads (node.next answer.node.joinMe address gap age) slave := by
  obtain ⟨heard, closed, hsender, hdecides⟩ := slave_decides h hbigger
  obtain rfl := Option.some.inj (hanswer.symm.trans hdecides)
  have hother : (slave.joinMePacket (some heard)).clusterId ≠ node.clusterId := by
    rw [hcluster]
    exact h.clusterIds.symm
  obtain ⟨hcm, packet, hbuffer', hpayload, hage'⟩ :=
    @next_spec node address (slave.joinMePacket (some heard)) gap age hother hbuffer
  apply leads_of_packet hbuffer'
  · rw [hcm]
    exact hfree
  · rw [hcm]
    exact hconnect
  -- the acknowledgement names the master, so the cluster has a score for it
  · have hack : packet.payload.ackField = node.nodeId := by
      rw [hpayload, hid]
      exact hsender
    apply scoreAsMaster_pos
    · rw [hage']
      exact hage
    · rw [hpayload, clusterId, hcm]
      exact hother
    · rw [hpayload]
      exact (h.free.2.told (some heard)).1
    · intro hzero
      rw [hack, hid] at hzero
      exact absurd hzero h.nodeIds.1
    · rw [hack, nodeId, nodeId, hcm]
      exact Or.inr rfl
  · rw [hpayload]
    rfl

end Pair

/-! ### The slave in every round -/

/-- The node is still in the cluster of the slave, and has heard of the one of the master only. -/
structure Under (master slave node : Advertiser) : Prop where
  clusterId : node.clusterId = slave.clusterId
  clusterSize : node.clusterSize = slave.clusterSize
  heard : ∀ packet ∈ node.joinMePacketBuffer, packet.payload.clusterId = master.clusterId ∧
    packet.payload.clusterSize = master.clusterSize ∧ packet.payload.ackField = 0

theorem Under.start (h : Hears slave master) : Under master slave slave := by
  obtain ⟨packet, hbuffer, hpayload, _⟩ := h
  refine ⟨rfl, rfl, fun other hmem => ?_⟩
  rw [hbuffer, List.mem_singleton] at hmem
  rw [hmem, hpayload]
  exact ⟨rfl, rfl, rfl⟩

theorem Under.congr {node' : Advertiser} (h : Under master slave node) (hcm : node'.cm = node.cm)
    (hheard : ∀ packet ∈ node'.joinMePacketBuffer, packet.payload.clusterId = master.clusterId ∧
      packet.payload.clusterSize = master.clusterSize ∧ packet.payload.ackField = 0) :
    Under master slave node' where
  clusterId := by
    rw [Advertiser.clusterId, hcm]
    exact h.clusterId
  clusterSize := by
    rw [Advertiser.clusterSize, hcm]
    exact h.clusterSize
  heard := hheard

theorem Under.not_leads (h : Under master slave node) (hbigger : Bigger master slave)
    {decision : Decision} (hdecision : node.determineBestClusterAvailable = some decision) :
    decision.result ≠ .connectAsMaster ∧ decision.node.cm = node.cm ∧
      decision.node.joinMePacketBuffer ⊆ node.joinMePacketBuffer := by
  refine determine_not_leads (Or.inr fun packet hmem => ?_) hdecision
  obtain ⟨hcluster, hsize, hack⟩ := h.heard packet hmem
  apply scoreAsMaster_eq_zero hack
  rw [h.clusterId, h.clusterSize, hcluster, hsize]
  exact hbigger

theorem Under.step (h : Under master slave node) (hbigger : Bigger master slave)
    {event : SlaveEvent} (hof : Of master node event) : Under master slave (node.apply event) := by
  cases event with
  | wait ms => exact h.congr rfl h.heard
  | hear address payload =>
      apply h.congr (@hear_kept node address payload).1
      intro packet hmem
      rcases mem_hear hmem with hold | hnew
      · exact h.heard packet hold
      · rw [hnew]
        exact hof
  | decide =>
      show Under master slave ((node.determineBestClusterAvailable.map Decision.node).getD node)
      cases hdetermine : node.determineBestClusterAvailable with
      | none => exact h
      | some decision =>
          obtain ⟨_, hcm, hsubset⟩ := h.not_leads hbigger hdetermine
          exact h.congr hcm fun packet hmem => h.heard packet (hsubset hmem)

/-- Whatever the slave hears of its master, it does not decide to be a master. -/
theorem never_leads (hhears : Hears slave master) (hbigger : Bigger master slave)
    {events : List SlaveEvent} (hrun : Run apply (Of master) slave events node)
    {decision : Decision} (hdecision : node.determineBestClusterAvailable = some decision) :
    decision.result ≠ .connectAsMaster := by
  have hunder : Under master slave node :=
    hrun.preserves (fun _ _ h hof => h.step hbigger hof) (Under.start hhears)
  exact (hunder.not_leads hbigger hdecision).1

/-! ### Both -/

theorem Meet.complementary (h : Meet master slave) (hbigger : Bigger master slave) :
    Complementary master slave := by
  obtain ⟨cm', packet, hsender, hleads, hbuffer, hpending, hfreeOut, hunconnected, hid, hcluster⟩ :=
    master_decides h hbigger
  obtain ⟨heard, closed, hack, hfollows⟩ := slave_decides h hbigger
  obtain ⟨hpos, hless⟩ := h.free.1.freeOut
  have hfree : master.cm.freeOutConnections ≠ 0 := fun hzero => absurd hpos (by rw [hzero]; decide)
  constructor
  case leads => exact ⟨_, packet, hleads, rfl, rfl, hsender⟩
  case follows => exact ⟨_, hfollows, rfl, hack⟩
  case undecided =>
    intro answer address gap age hanswer hage
    exact leads_answer h hbigger hanswer rfl rfl (Or.inr ⟨packet, hbuffer, hsender⟩) hfree
      (Or.inr h.free.1.unconnected) address gap hage
  case decided =>
    intro decision answer address gap age hdecision hanswer hage
    obtain rfl := Option.some.inj (hdecision.symm.trans hleads)
    -- a connection attempt that is already pending does not use up another one
    have hleft : cm'.freeOutConnections = 0 ↔
        master.cm.freeOutConnections = 1 ∧ master.cm.pendingConnection = none := by
      rw [hfreeOut]
      split_ifs with hnone
      · rw [sub_eq_zero, and_iff_left hnone]
      · exact iff_of_false hfree fun hand => hnone hand.2
    rw [← hleft]
    constructor
    · rintro ⟨again, packet', hagain, hresult, _⟩ hzero
      refine (determine_not_leads (Or.inl ?_) hagain).1 hresult
      exact (congrArg ConnectionManager.freeOutConnections hear_kept.1).trans hzero
    · intro hleft
      refine leads_answer h hbigger hanswer ?_ ?_ (Or.inl rfl) hleft (Or.inl hpending) address gap
        hage
      · exact hid
      · exact hcluster
  case timedOut =>
    intro decision answer address gap age hdecision hanswer hage
    obtain rfl := Option.some.inj (hdecision.symm.trans hleads)
    -- the attempt has timed out and its connection is free again
    have hback : cm'.freeOutConnections + 1 ≠ 0 := by
      rw [hfreeOut]
      split_ifs
      · rwa [sub_add_cancel]
      · intro hzero
        bv_omega
    refine leads_answer h hbigger hanswer ?_ ?_ (Or.inl rfl) hback (Or.inr hunconnected) address gap
      hage
    · exact hid
    · exact hcluster
  case never =>
    intro events node hrun decision hdecision
    exact never_leads h.hears.2 hbigger hrun hdecision

/-- **The roles fit together.**  Of two nodes that have heard each other, the one with the larger
cluster leads and the other one follows and acknowledges it.  They do so again after the slave
has advertised its new JOIN_ME, unless the master is using its last free connection. -/
theorem roles_complementary {a b : Advertiser} (h : Meet a b) :
    (Bigger a b ∧ ¬ Bigger b a ∧ Complementary a b) ∨
      (Bigger b a ∧ ¬ Bigger a b ∧ Complementary b a) := by
  rcases bigger_or h.clusterIds with hbigger | hbigger
  · exact Or.inl ⟨hbigger, hbigger.asymm, h.complementary hbigger⟩
  · exact Or.inr ⟨hbigger, hbigger.asymm, h.symm.complementary hbigger⟩

/-- A node with an incoming connection free, and outgoing ones from this slot on. -/
def seeker (nodeId : NodeId) (clusterId : ClusterId) (clusterSize : ClusterSize) (freeFrom : ℕ) :
    Advertiser where
  cm :=
    { node :=
        { Node.startedNode nodeId clusterId with
          clusterSize := clusterSize
          connections := fun i =>
            { Node.freeConnection with isConnected := 0 < i.val ∧ i.val < freeFrom } }
      freeInConnections := 1
      freeOutConnections := BitVec.ofNat 8 (4 - freeFrom)
      pendingConnection := none
      currentlyConnecting := false
      outstanding := false }
  appTimerMs := 0
  joinMePacketBuffer := []
  joinMe := ⟨nodeId, clusterId, clusterSize, 1, 1, 14, 0⟩
  connectable := true

def bleAddress : BleAddress := ⟨1, 7⟩

/-- A node of a cluster of three that can connect to one node more. -/
def lastFree : Advertiser :=
  (seeker 1 10 3 3).hear bleAddress ((seeker 2 9 1 1).joinMePacket none)

def alone : Advertiser :=
  (seeker 2 9 1 1).hear bleAddress ((seeker 1 10 3 3).joinMePacket none)

theorem meet_lastFree : Meet lastFree alone where
  nodeIds := by decide
  clusterIds := by decide
  sizes := by decide
  free := ⟨⟨by decide, by decide, ⟨3, by decide⟩, by decide⟩, ⟨by decide, by decide, ⟨1, by decide⟩,
    by decide⟩⟩
  hears := ⟨⟨_, rfl, rfl, by decide⟩, ⟨_, rfl, rfl, by decide⟩⟩

/-- With its last free connection in use, the node does not decide again for the slave that has
answered. -/
theorem answer_ignored :
    Meet lastFree alone ∧ Leads lastFree alone ∧
      ∃ decision answer, lastFree.determineBestClusterAvailable = some decision ∧
        alone.determineBestClusterAvailable = some answer ∧
        ¬ Leads (decision.node.next answer.node.joinMe bleAddress 0 0) alone := by
  have hcomplementary := meet_lastFree.complementary (Or.inl (by decide))
  obtain ⟨decision, packet, hdecision, hrest⟩ := hcomplementary.leads
  obtain ⟨answer, hanswer, _⟩ := hcomplementary.follows
  refine ⟨meet_lastFree, hcomplementary.leads, decision, answer, hdecision, hanswer, ?_⟩
  rw [hcomplementary.decided decision answer bleAddress 0 0 hdecision hanswer (by decide)]
  exact not_not_intro (by decide)

theorem roles_complementary_two :
    (Bigger lastFree alone ∧ ¬ Bigger alone lastFree ∧ Complementary lastFree alone) ∨
      (Bigger alone lastFree ∧ ¬ Bigger lastFree alone ∧ Complementary alone lastFree) :=
  roles_complementary meet_lastFree

end Advertiser

end FruityMesh.Mesh
