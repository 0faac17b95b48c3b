import FruityMesh.Mesh.Relay

/-!
# The way to the shortest sink

A packet for the shortest sink is not flooded: each node hands it to the one connection that
promises the fewest hops to a sink.  The connection that it came from is among those that
are considered.  Where the tables are right (`RightHops`), the packet takes the way of
`Forest.toNearest` to a nearest sink, one step closer with every link (`sink_routed`).
-/

namespace FruityMesh.Mesh

open Cells Transport Ports Forest SimpleGraph

/-! ## The choice of a connection -/

namespace Node

variable (node : Node) (considered : Slot → Bool)

/-- One round of the loop in `closest`. -/
def closer (best : ClusterSize × Option Slot) (i : Slot) : ClusterSize × Option Slot :=
  if considered i ∧ -1 < (node.connections i).hopsToSink.toInt ∧
      (node.connections i).hopsToSink.toInt < best.1.toInt then
    ((node.connections i).hopsToSink, some i)
  else best

theorem closest_eq : node.closest considered =
    ((List.finRange meshMaxConnections).foldl (node.closer considered) (int16Max, none)).2 := rfl

/-- A connection that promises hops to a sink, and none of the connections promises fewer. -/
structure Closest (i : Slot) : Prop where
  mem : considered i = true
  hops : -1 < (node.connections i).hopsToSink.toInt
  least : ∀ k, considered k = true → -1 < (node.connections k).hopsToSink.toInt →
    (node.connections i).hopsToSink.toInt ≤ (node.connections k).hopsToSink.toInt

/-- What the loop has found after some connections. -/
structure FoundIn (slots : List Slot) (best : ClusterSize × Option Slot) : Prop where
  limit : best.1.toInt ≤ int16Max.toInt
  nothing : best.2 = none → best.1 = int16Max
  something : ∀ i, best.2 = some i → considered i = true ∧
    best.1 = (node.connections i).hopsToSink ∧ -1 < (node.connections i).hopsToSink.toInt
  least : ∀ k ∈ slots, considered k = true → -1 < (node.connections k).hopsToSink.toInt →
    best.1.toInt ≤ (node.connections k).hopsToSink.toInt

variable {node considered}

theorem FoundIn.closer {slots : List Slot} {best : ClusterSize × Option Slot}
    (h : FoundIn node considered slots best) (i : Slot) :
    FoundIn node considered (slots ++ [i]) (node.closer considered best i) := by
  unfold Node.closer
  split_ifs with hbetter
  · obtain ⟨hconsidered, hhops, hless⟩ := hbetter
    refine ⟨?_, fun hnone => absurd hnone (by simp), ?_, ?_⟩
    · exact hless.le.trans h.limit
    · intro k hk
      obtain rfl := Option.some.inj hk
      exact ⟨hconsidered, rfl, hhops⟩
    · intro k hk hconsidered' hhops'
      rcases List.mem_append.mp hk with hk | hk
      · exact hless.le.trans (h.least k hk hconsidered' hhops')
      · rw [List.mem_singleton.mp hk]
  · refine ⟨h.limit, h.nothing, h.something, ?_⟩
    intro k hk hconsidered hhops
    rcases List.mem_append.mp hk with hk | hk
    · exact h.least k hk hconsidered hhops
    · rw [List.mem_singleton.mp hk] at hconsidered hhops ⊢
      exact not_lt.mp fun hless => hbetter ⟨hconsidered, hhops, hless⟩

theorem FoundIn.foldl {slots : List Slot} {best : ClusterSize × Option Slot}
    (h : FoundIn node considered slots best) (more : List Slot) :
    FoundIn node considered (slots ++ more) (more.foldl (node.closer considered) best) := by
  induction more generalizing slots best with
  | nil => rwa [List.append_nil]
  | cons i rest ih =>
      rw [List.foldl_cons, ← List.singleton_append, ← List.append_assoc]
      exact ih (h.closer i)

theorem foundIn_closest : FoundIn node considered (List.finRange meshMaxConnections)
    ((List.finRange meshMaxConnections).foldl (node.closer considered) (int16Max, none)) := by
  have hstart : FoundIn node considered [] (int16Max, none) :=
    ⟨le_refl _, fun _ => rfl, fun _ hsome => absurd hsome (by simp),
      fun _ hk => absurd hk List.not_mem_nil⟩
  exact hstart.foldl _

/-- What `closest` finds is a closest connection. -/
theorem closest_of_eq_some {i : Slot} (h : node.closest considered = some i) :
    Closest node considered i := by
  have hfound := @foundIn_closest node considered
  rw [closest_eq] at h
  obtain ⟨hconsidered, hbest, hhops⟩ := hfound.something i h
  refine ⟨hconsidered, hhops, ?_⟩
  intro k hk hhops'
  rw [← hbest]
  exact hfound.least k (List.mem_finRange k) hk hhops'

/-- It finds one if there is one that promises fewer hops than the greatest number. -/
theorem exists_closest {k : Slot} (hk : considered k = true)
    (hhops : -1 < (node.connections k).hopsToSink.toInt)
    (hless : (node.connections k).hopsToSink.toInt < int16Max.toInt) :
    ∃ i, node.closest considered = some i := by
  apply Option.ne_none_iff_exists'.mp
  intro hnone
  have hfound := @foundIn_closest node considered
  rw [closest_eq] at hnone
  have hle := hfound.least k (List.mem_finRange k) hk hhops
  rw [hfound.nothing hnone] at hle
  omega

theorem getConnectionToShortestSink_none (node : Node) :
    node.getConnectionToShortestSink none =
      node.closest fun i => (node.connections i).handshakeDone := by
  unfold getConnectionToShortestSink
  congr 1

/-! ## A packet for the shortest sink -/

variable {packet : ConnectionPacket} {loopback : Option Slot} {i : Slot}

/-- The origin sends the packet over the closest connection. -/
theorem originate_toSink (node : Node) (hid : node.nodeId ≠ nodeIdShortestSink)
    (hreceiver : receiverAt packet.data = nodeIdShortestSink) :
    node.sendMessageToReceiver none loopback packet =
      (node, ((node.getConnectionToShortestSink none).map
        fun k => Action.queuePacket k packet.message).toList) := by
  have hnot : ¬ (nodeIdShortestSink = node.nodeId ∨ nodeIdShortestSink = nodeIdBroadcast) := by
    rintro (h | h)
    · exact hid h.symm
    · exact absurd h (by decide)
  unfold sendMessageToReceiver
  simp only [hreceiver, true_and, decide_eq_true_eq, if_neg hnot, if_true, List.nil_append]

/-- A sink keeps the packet. -/
theorem receive_atSink (node : Node) (htype : Ordinary (messageTypeAt packet.data))
    (hreceiver : receiverAt packet.data = nodeIdShortestSink) (hsink : node.deviceType = .sink) :
    (node.receivePacketHandler i packet).2 =
      [.messageReceived ⟨read packet.data 0 packet.dataLength.toNat, packet.reliable⟩] := by
  have hlast : node.lastReceiver nodeIdShortestSink = true := by simp [lastReceiver, hsink]
  have hcares : node.caresFor nodeIdShortestSink = true := by simp [caresFor, hsink]
  rw [node.receive_routed htype]
  simp only [route, hreceiver, hlast, hcares, if_true, List.nil_append]

/-- Any other node sends it over the closest connection. -/
theorem receive_toSink (node : Node) (htype : Ordinary (messageTypeAt packet.data))
    (hid : node.nodeId ≠ nodeIdShortestSink)
    (hreceiver : receiverAt packet.data = nodeIdShortestSink) (hsink : node.deviceType ≠ .sink) :
    node.receivePacketHandler i packet =
      (node, ((node.getConnectionToShortestSink none).map fun k =>
        Action.queuePacket k ⟨read packet.data 0 packet.dataLength.toNat, packet.reliable⟩).toList) := by
  have hlast : node.lastReceiver nodeIdShortestSink = false := by
    have hhops : nodeIdShortestSink ≠ nodeIdHopsBase + 1 := by decide
    simp only [lastReceiver, hsink, hhops, hid.symm, and_false, or_false, decide_false]
  have hcares : node.caresFor nodeIdShortestSink = false := by
    have hbroadcast : nodeIdShortestSink ≠ nodeIdBroadcast := by decide
    have hhops : ¬ nodeIdShortestSink.toNat < nodeIdHopsBase.toNat + 1000 := by decide
    simp [caresFor, hsink, hbroadcast, hhops, hid.symm]
  rw [node.receive_routed htype]
  simp only [route, hreceiver, hlast, hcares, Bool.false_eq_true, if_true, if_false,
    List.append_nil]

theorem sends_toSink (next : Option Slot) (message : Message) (k : Slot) :
    sends (next.map fun i => Action.queuePacket i message).toList k =
      if next = some k then [message] else [] := by
  cases next with
  | none => rfl
  | some i =>
      rw [Option.map_some, Option.toList_some, sends_queuePacket]
      by_cases hk : i = k
      · rw [if_pos hk, if_pos (congrArg some hk)]
        rfl
      · rw [if_neg hk, if_neg fun h => hk (Option.some.inj h)]
        rfl

end Node

/-! ## Right tables -/

variable {V : Type*}

def IsSink (net : Net V) (v : V) : Prop := (net.node v).deviceType = .sink

/-- Each connection records one more than the distance from its partner to the nearest sink on
the partner's side, or -1 if there is none. -/
def RightHops (net : Net V) : Prop :=
  ∀ {v i u j}, net.peer v i = some (u, j) →
    (Leading (graph net.peer) (IsSink net) v u = ∅ ∧ (net.connection v i).hopsToSink = -1) ∨
      ∃ n : ℕ, IsLeast (Leading (graph net.peer) (IsSink net) v u) n ∧
        (net.connection v i).hopsToSink.toInt = n

/-- The distance to the nearest sink. -/
noncomputable def toSink (net : Net V) (v : V) : ℕ :=
  toNearest (graph net.peer) (IsSink net) v

/-- A tree with right tables that has a sink, and in which nothing is on its way. -/
structure Guided [DecidableEq V] (net : Net V) : Prop where
  tree : HandshakenTree net
  linked : ∀ v i, (net.connection v i).handshakeDone = true → net.peer v i ≠ none
  quiet : net.Quiet
  nodeId : ∀ v, (net.node v).nodeId ≠ nodeIdShortestSink
  diameter : ∀ v u, (graph net.peer).dist v u < int16Max.toInt
  hops : RightHops net
  sink : ∃ s, IsSink net s

namespace Guided

variable [DecidableEq V] {net : Net V} {v u : V} {i j : Slot}

omit [DecidableEq V] in
/-- The connection that is chosen leads to a nearest sink. -/
theorem leading_of_chosen [DecidableEq V] (h : Guided net) (hv : ¬ IsSink net v)
    (hchosen : (net.node v).getConnectionToShortestSink none = some i) :
    ∃ u j, net.peer v i = some (u, j) ∧
      toSink net v ∈ Leading (graph net.peer) (IsSink net) v u := by
  rw [Node.getConnectionToShortestSink_none] at hchosen
  obtain ⟨hdone, hhops, hleast⟩ := Node.closest_of_eq_some hchosen
  obtain ⟨⟨u, j⟩, hpeer⟩ := Option.ne_none_iff_exists'.mp (h.linked v i hdone)
  refine ⟨u, j, hpeer, ?_⟩
  have hright := h.hops hpeer
  unfold Net.connection at hright
  rcases hright with ⟨_, hnone⟩ | ⟨n, hn, hsome⟩
  · rw [hnone] at hhops
    exact absurd hhops (by decide)
  · -- the shortest way is over some connection, and the chosen one promises no more hops
    obtain ⟨w, hadj, hnearest⟩ := exists_leading h.tree.tree h.sink hv
    obtain ⟨k, l, hlink⟩ := h.tree.wired.adj_iff.mp hadj
    have hdone' := h.tree.handshakeDone v k (by simp [hlink])
    have hle := toNearest_le_of_leading h.tree.tree.isAcyclic (h.tree.wired.adj hpeer) hn.1
    have hright' := h.hops hlink
    unfold Net.connection at hright'
    rcases hright' with ⟨hempty, _⟩ | ⟨m, hm, hsome'⟩
    · rw [hempty] at hnearest
      exact absurd hnearest (Set.notMem_empty _)
    · have hmin := hleast k hdone' (by omega)
      have hm' := hm.2 hnearest
      have heq : toSink net v = n := by
        unfold toSink
        omega
      rw [heq]
      exact hn.1

theorem exists_chosen (h : Guided net) (hv : ¬ IsSink net v) :
    ∃ i, (net.node v).getConnectionToShortestSink none = some i := by
  obtain ⟨w, hadj, hnearest⟩ := exists_leading h.tree.tree h.sink hv
  obtain ⟨k, l, hlink⟩ := h.tree.wired.adj_iff.mp hadj
  obtain ⟨s, hs, hdist⟩ := exists_nearest (G := graph net.peer) h.sink v
  have hnear := h.diameter v s
  have hright := h.hops hlink
  unfold Net.connection at hright
  rw [Node.getConnectionToShortestSink_none]
  rcases hright with ⟨hempty, _⟩ | ⟨n, hn, hsome⟩
  · rw [hempty] at hnearest
    exact absurd hnearest (Set.notMem_empty _)
  · have hle := hn.2 hnearest
    apply Node.exists_closest (k := k) (h.tree.handshakeDone v k (by simp [hlink]))
    · omega
    · omega

/-- Over the chosen connection the packet comes one step closer, and its partner does not choose
the same link. -/
theorem step (h : Guided net) (hv : ¬ IsSink net v)
    (hchosen : (net.node v).getConnectionToShortestSink none = some i) :
    ∃ u j, net.peer v i = some (u, j) ∧ toSink net v = toSink net u + 1 ∧
      (¬ IsSink net u → (net.node u).getConnectionToShortestSink none ≠ some j) := by
  obtain ⟨u, j, hpeer, hleading⟩ := h.leading_of_chosen hv hchosen
  obtain ⟨hcloser, hback⟩ :=
    toNearest_step h.tree.tree h.sink (h.tree.wired.adj hpeer) hleading
  refine ⟨u, j, hpeer, hcloser, ?_⟩
  intro hu hchosen'
  obtain ⟨w, k, hpeer', hleading'⟩ := h.leading_of_chosen hu hchosen'
  obtain ⟨rfl, rfl⟩ := Prod.mk.inj (ends_eq h.tree.wired.twoWay hpeer hpeer')
  exact hback hleading'

end Guided

/-! ## The packet on its way -/

section Run

variable [DecidableEq V] {start net : Net V} {origin v u : V} {i j : Slot}
  {loopback : Option Slot} {packet : ConnectionPacket}

/-- A packet for the shortest sink, from a node that is none. -/
structure ForSink (start : Net V) (origin : V) (packet : ConnectionPacket) : Prop where
  guided : Guided start
  origin : ¬ IsSink start origin
  type : Ordinary (messageTypeAt packet.data)
  receiver : receiverAt packet.data = nodeIdShortestSink
  header : sizeofConnPacketHeader ≤ packet.dataLength.toNat

/-- The packet, but for the bit in its first byte that the transport sets when it splits the
packet, and the time that it writes into an UPDATE_TIMESTAMP. -/
structure Same (packet : ConnectionPacket) (m : Message) : Prop where
  copy : Copy packet 1 m
  length : m.bytes.length = packet.dataLength.toNat
  tail : messageTypeAt packet.data ≠ messageTypeUpdateTimestamp →
    m.bytes.drop 1 = packet.bytes.drop 1

theorem Same.of_packet (h : sizeofConnPacketHeader ≤ packet.dataLength.toNat) :
    Same packet packet.message where
  copy := Copy.of_read rfl rfl rfl h packet.dataLength.isLt
  length := length_read _ _ _
  tail := fun _ => rfl

/-- The mesh as it was, with one message on its way. -/
def Net.carrying (start : Net V) (u : V) (j : Slot) (m : Message) : Net V :=
  { start with inbox := alone u j m }

/-- The mesh as it was, after one message has been handed over. -/
def Net.handing (start : Net V) (t : V) (result : Node × List Action) (m : Message) : Net V :=
  { start with
    node := Function.update start.node t result.1
    received := Function.update start.received t (start.received t ++ [m]) }

/-- Where the packet is after some links. -/
inductive Way (start : Net V) (origin : V) (packet : ConnectionPacket) : ℕ → Net V → Prop
  | onItsWay (v u : V) (i j : Slot) (m : Message) (links : ℕ) (hv : ¬ IsSink start v)
      (hchosen : (start.node v).getConnectionToShortestSink none = some i)
      (hpeer : start.peer v i = some (u, j)) (hsame : Same packet m)
      (hleft : toSink start u + links + 1 = toSink start origin)
      (hdist : (graph start.peer).dist origin u ≤ links + 1) :
      Way start origin packet links (start.carrying u j m)
  | handed (t : V) (result : Node × List Action) (m : Message) (links : ℕ) (ht : IsSink start t)
      (hsame : Same packet m) (hends : links = toSink start origin)
      (hdist : (graph start.peer).dist origin t = toSink start origin) :
      Way start origin packet links (start.handing t result m)

theorem Guided.inbox_eq (h : Guided start) : start.inbox = fun _ _ => [] := by
  funext v k
  exact h.quiet v k

/-- A node that is no sink sends the packet on. -/
theorem after_chosen (h : Guided start) (hpeer : start.peer v i = some (u, j)) (m : Message) :
    start.after v (start.node v,
        ((some i).map fun k => Action.queuePacket k m).toList) = start.carrying u j m := by
  have hpost : post start.peer v (sends ((some i).map fun k => Action.queuePacket k m).toList)
      start.inbox = alone u j m := by
    rw [h.inbox_eq]
    apply post_alone h.tree.wired hpeer
    intro l
    rw [Node.sends_toSink]
    simp only [Option.some.injEq, eq_comm]
  unfold Net.after Net.carrying
  rw [hpost]
  simp [closes, handled, Action.handed]

theorem ForSink.originate (h : ForSink start origin packet) :
    Way start origin packet 0 (start.originate origin loopback packet) := by
  obtain ⟨i, hchosen⟩ := h.guided.exists_chosen h.origin
  obtain ⟨u, j, hpeer, hcloser, _⟩ := h.guided.step h.origin hchosen
  have hnext : start.originate origin loopback packet = start.carrying u j packet.message := by
    rw [Net.originate, Node.originate_toSink _ (h.guided.nodeId origin) h.receiver, hchosen]
    exact after_chosen h.guided hpeer _
  rw [hnext]
  refine .onItsWay origin u i j packet.message 0 h.origin hchosen hpeer (.of_packet h.header)
    (by omega) ?_
  rw [dist_eq_one_iff_adj.mpr (h.guided.tree.wired.adj hpeer)]

/-- The packet is taken, and nothing is on its way. -/
theorem carrying_withInbox (h : Guided start) (m : Message) :
    (start.carrying u j m).withInbox u j [] = start := by
  unfold Net.carrying Net.withInbox
  rw [setInbox_alone, ← h.inbox_eq]

theorem deliver_carrying (h : Guided start) (m : Message) (memory : ℕ → U8) :
    (start.carrying u j m).apply (.deliver u j memory) =
      start.after u ((start.node u).receivePacketHandler j (arrive m memory)) := by
  have hinbox : (start.carrying u j m).inbox u j = m :: [] := alone_same
  rw [Net.apply_deliver hinbox, carrying_withInbox h]
  rfl

/-- A sink hands the packet over. -/
theorem after_atSink (h : Guided start) (result : Node × List Action) (m : Message)
    (hkept : result.2 = [.messageReceived m]) :
    start.after u result = start.handing u result m := by
  have hpost : post start.peer u (sends result.2) start.inbox = start.inbox := by
    rw [h.inbox_eq]
    exact post_nothing fun k => by rw [hkept]; rfl
  unfold Net.after Net.handing
  rw [hpost, hkept]
  simp [closes, handled, Action.handed]

/-- What arrives of the packet. -/
theorem Same.arrive {m : Message} (h : Same packet m) (memory : ℕ → U8) :
    messageTypeAt (arrive m memory).data = messageTypeAt packet.data ∧
      receiverAt (arrive m memory).data = receiverAt packet.data ∧
      Same packet ⟨read (arrive m memory).data 0 (arrive m memory).dataLength.toNat,
        (arrive m memory).reliable⟩ := by
  have hlong := h.copy.long
  obtain ⟨htype, hreceiver, -, hlength, hcopy⟩ := h.copy.arrive memory
  refine ⟨htype, hreceiver, hcopy, ?_, ?_⟩
  · rw [length_read, hlength, h.length]
  · intro huntimed
    have hkept : transmitted m = m.bytes := by
      rw [transmitted, h.copy.type, if_neg huntimed]
    have hcells := (holds_overwrite memory 0
      (firstByte (maxDataSizePerWrite < m.bytes.length) (typeOf m) :: m.bytes.drop 1)).read_eq
    have hcount : (firstByte (maxDataSizePerWrite < m.bytes.length) (typeOf m) ::
        m.bytes.drop 1).length = m.bytes.length := by
      rw [List.length_cons, List.length_drop]
      omega
    rw [hcount] at hcells
    rw [hlength]
    simp only [Mesh.arrive, hkept, hcells]
    exact h.tail huntimed

/-- One link more. -/
theorem Way.deliver (h : ForSink start origin packet) {links : ℕ} (hway : Way start origin packet links net)
    {memory : ℕ → U8} (henabled : net.Enabled (.deliver v i memory)) :
    Way start origin packet (links + 1) (net.apply (.deliver v i memory)) := by
  cases hway with
  | handed t result m _ ht hsame hends hdist => exact absurd (h.guided.quiet v i) henabled.2
  | onItsWay w u k j m _ hw hchosen hpeer hsame hleft hdist =>
      obtain ⟨m', rest, hinbox⟩ := List.exists_cons_of_ne_nil henabled.2
      obtain ⟨rfl, rfl, _, _⟩ := alone_eq_cons hinbox
      obtain ⟨htype, hreceiver, hsame'⟩ := hsame.arrive memory
      have htype' : Ordinary (messageTypeAt (arrive m memory).data) := htype ▸ h.type
      have hreceiver' := hreceiver.trans h.receiver
      rw [deliver_carrying h.guided]
      by_cases hsink : IsSink start v
      · have hzero : toSink start v = 0 :=
          (toNearest_eq_zero_iff h.guided.tree.tree.connected h.guided.sink).mpr hsink
        have hle := toNearest_le (G := graph start.peer) (v := origin) hsink
        have hends : links + 1 = toSink start origin := by omega
        rw [after_atSink h.guided _ _ (Node.receive_atSink _ htype' hreceiver' hsink)]
        refine .handed v _ _ _ hsink hsame' hends ?_
        unfold toSink at hends ⊢
        omega
      · obtain ⟨i', hchosen'⟩ := h.guided.exists_chosen hsink
        obtain ⟨u, j, hpeer', hcloser, _⟩ := h.guided.step hsink hchosen'
        rw [Node.receive_toSink _ htype' (h.guided.nodeId v) hreceiver' hsink, hchosen',
          after_chosen h.guided hpeer']
        refine .onItsWay v u i' j _ (links + 1) hsink hchosen' hpeer' hsame' (by omega) ?_
        have hone := dist_eq_one_iff_adj.mpr (h.guided.tree.wired.adj hpeer')
        calc (graph start.peer).dist origin u
            ≤ (graph start.peer).dist origin v + (graph start.peer).dist v u :=
              h.guided.tree.tree.connected.dist_triangle
          _ ≤ links + 1 + 1 := by omega

/-- The packet never goes back over the link on which it has arrived. -/
theorem Way.not_back (h : ForSink start origin packet) {links : ℕ}
    (hway : Way start origin packet links net) {memory : ℕ → U8}
    (henabled : net.Enabled (.deliver v i memory)) (hpeer : start.peer v i = some (u, j)) :
    (net.apply (.deliver v i memory)).inbox u j = [] := by
  cases hway with
  | handed t result m _ ht hsame hends hdist => exact absurd (h.guided.quiet v i) henabled.2
  | onItsWay w u' k j' m _ hw hchosen hpeer' hsame hleft hdist =>
      obtain ⟨m', rest, hinbox⟩ := List.exists_cons_of_ne_nil henabled.2
      obtain ⟨rfl, rfl, _, _⟩ := alone_eq_cons hinbox
      obtain ⟨htype, hreceiver, hsame'⟩ := hsame.arrive memory
      have htype' : Ordinary (messageTypeAt (arrive m memory).data) := htype ▸ h.type
      have hreceiver' := hreceiver.trans h.receiver
      rw [deliver_carrying h.guided]
      by_cases hsink : IsSink start v
      · rw [after_atSink h.guided _ _ (Node.receive_atSink _ htype' hreceiver' hsink)]
        exact h.guided.quiet u j
      · obtain ⟨i', hchosen'⟩ := h.guided.exists_chosen hsink
        obtain ⟨x, l, hpeer'', _⟩ := h.guided.step hsink hchosen'
        obtain ⟨x', l', hback, _, hnot⟩ := h.guided.step hw hchosen
        obtain ⟨rfl, rfl⟩ := Prod.mk.inj (Option.some.inj (hpeer'.symm.trans hback))
        -- the packet goes on to `x`; were this the link it came over, `v` would have chosen it too
        rw [Node.receive_toSink _ htype' (h.guided.nodeId v) hreceiver' hsink, hchosen',
          after_chosen h.guided hpeer'']
        refine if_neg ?_
        rintro ⟨rfl, rfl⟩
        have hsame := h.guided.tree.wired.twoWay hpeer
        have hsame' := h.guided.tree.wired.twoWay hpeer''
        have hports := (Prod.mk.inj (Option.some.inj (hsame.symm.trans hsame'))).2
        exact hnot hsink (hports ▸ hchosen')

theorem ForSink.run (h : ForSink start origin packet) {events : List (Event V)}
    (hrun : Net.Run Deliveries (start.originate origin loopback packet) events net) :
    Way start origin packet events.length net := by
  induction hrun with
  | nil => exact h.originate
  | step _ event henabled hallowed ih =>
      obtain ⟨v, i, memory, rfl⟩ := deliveries_iff _ _ hallowed
      rw [List.length_append, List.length_singleton]
      exact ih.deliver h henabled

theorem Way.length_le {links : ℕ} (hway : Way start origin packet links net) :
    links ≤ toSink start origin := by
  cases hway with
  | onItsWay v u i j m _ hv hchosen hpeer hsame hleft hdist => omega
  | handed t result m _ ht hsame hends hdist => exact hends.le

/-- As long as the packet has not come to a sink, it can be delivered. -/
theorem Way.exists_delivery (h : Guided start) {links : ℕ} (hway : Way start origin packet links net)
    (hleft : links < toSink start origin) : ∃ v i, net.Enabled (.deliver v i fun _ => 0) := by
  cases hway with
  | handed t result m _ ht hsame hends hdist => omega
  | onItsWay v u i j m _ hv hchosen hpeer hsame hleft hdist =>
      have hback : start.peer u j ≠ none := by
        rw [h.tree.wired.twoWay hpeer]
        exact Option.some_ne_none _
      refine ⟨u, j, h.tree.isConnected u j hback, ?_⟩
      have hinbox : (start.carrying u j m).inbox u j = [m] := alone_same
      rw [hinbox]
      exact List.cons_ne_nil _ _

/-- Every run can go on until the packet has come to a sink. -/
theorem ForSink.exists_arrived (h : ForSink start origin packet) {events : List (Event V)}
    (hrun : Net.Run Deliveries (start.originate origin loopback packet) events net) :
    ∃ more net', Net.Run Deliveries (start.originate origin loopback packet) (events ++ more) net' ∧
      (events ++ more).length = toSink start origin := by
  -- on the links that are left to the sink
  induction hleft : toSink start origin - events.length generalizing events net with
  | zero =>
      have hle := (h.run hrun).length_le
      exact ⟨[], net, by rwa [List.append_nil], by rw [List.append_nil]; omega⟩
  | succ left ih =>
      obtain ⟨v, i, henabled⟩ := (h.run hrun).exists_delivery h.guided (by omega)
      obtain ⟨more, net', hrun', harrived⟩ := ih (hrun.step _ henabled trivial) (by
        rw [List.length_append, List.length_singleton]
        omega)
      rw [List.append_assoc] at hrun' harrived
      exact ⟨_, net', hrun', harrived⟩

/-- **Routing to the shortest sink.**  In a tree with right tables, a packet for the shortest
sink travels as a single copy over as many links as the nearest sink is away, never back over
the link it has come from; then one nearest sink hands it over, and no other node does. -/
theorem sink_routed (h : ForSink start origin packet) {events : List (Event V)}
    (hrun : Net.Run Deliveries (start.originate origin loopback packet) events net) :
    events.length ≤ toSink start origin ∧
    (events.length < toSink start origin → ∃ v i u j m,
      start.peer v i = some (u, j) ∧ Same packet m ∧ net = start.carrying u j m) ∧
    (events.length = toSink start origin → net.Quiet ∧ ∃ t m,
      IsSink start t ∧ (graph start.peer).dist origin t = toSink start origin ∧ Same packet m ∧
        ∀ v, net.received v = start.received v ++ if v = t then [m] else []) ∧
    (∀ v i u j memory, net.Enabled (.deliver v i memory) → start.peer v i = some (u, j) →
      (net.apply (.deliver v i memory)).inbox u j = []) ∧
    ∃ more net', Net.Run Deliveries (start.originate origin loopback packet) (events ++ more) net' ∧
      (events ++ more).length = toSink start origin := by
  have hway := h.run hrun
  refine ⟨hway.length_le, ?_, ?_, ?_, h.exists_arrived hrun⟩
  · intro hless
    cases hway with
    | handed t result m _ ht hsame hends hdist => omega
    | onItsWay v u i j m _ hv hchosen hpeer hsame hleft hdist =>
        exact ⟨v, i, u, j, m, hpeer, hsame, rfl⟩
  · intro hend
    cases hway with
    | onItsWay v u i j m _ hv hchosen hpeer hsame hleft hdist => omega
    | handed t result m _ ht hsame hends hdist =>
        refine ⟨h.guided.quiet, t, m, ht, hdist, hsame, ?_⟩
        intro v
        simp only [Net.handing, Function.update_apply]
        split_ifs with hv
        · rw [hv]
        · rw [List.append_nil]
  · exact fun v i u j memory henabled hpeer => hway.not_back h henabled hpeer

end Run

/-! ## A chain with a sink at its end -/

theorem chain_adj {n : ℕ} {v u : Fin (n + 1)} :
    (graph (chainPeer (n + 1))).Adj v u ↔ u.val = v.val + 1 ∨ v.val = u.val + 1 := by
  rw [(chainPeer_wired (n + 1)).adj_iff]
  simp only [chainPeer_eq]
  constructor
  · rintro ⟨i, j, ⟨_, _, h⟩ | ⟨_, _, h⟩⟩
    · exact Or.inl h
    · exact Or.inr h
  · rintro (h | h)
    · exact ⟨_, _, Or.inl ⟨rfl, rfl, h⟩⟩
    · exact ⟨_, _, Or.inr ⟨rfl, rfl, h⟩⟩

/-- The node in a chain whose last node is a sink, after all hops are known. -/
def sinkChainNode (n : ℕ) (v : Fin (n + 1)) : Node :=
  { chainNode (n + 1) (numbered (n + 1)) v with
    deviceType := if v = Fin.last n then .sink else .static
    connections := fun i =>
      { chainConnection (n + 1) (numbered (n + 1)) v i with
        hopsToSink := if i = outConnection then BitVec.ofNat 16 (n - v) else -1 } }

/-- A chain whose last node is a sink. -/
def sinkChain (n : ℕ) : Net (Fin (n + 1)) :=
  { chain (n + 1) (numbered (n + 1)) with node := sinkChainNode n }

theorem isSink_sinkChain {n : ℕ} {v : Fin (n + 1)} : IsSink (sinkChain n) v ↔ v = Fin.last n := by
  unfold IsSink sinkChain sinkChainNode
  simp

/-- The hops to the sink at the end. -/
def chainHops (n : ℕ) (v u : Fin (n + 1)) : Option ℕ :=
  if u.val = v.val + 1 then some (n - v) else none

theorem chainHops_known {n : ℕ} {v u : Fin (n + 1)} (hadj : (graph (chainPeer (n + 1))).Adj v u) :
    Least (Known (graph (chainPeer (n + 1))) (IsSink (sinkChain n)) (chainHops n) v u)
      (chainHops n v u) := by
  rw [chain_adj] at hadj
  have hmem : ∀ k, k ∈ Known (graph (chainPeer (n + 1))) (IsSink (sinkChain n)) (chainHops n) v u ↔
      u.val = v.val + 1 ∧ k = n - v := by
    intro k
    simp only [Known, Set.mem_ofPred_eq, isSink_sinkChain, chain_adj, chainHops,
      Fin.ext_iff, Fin.val_last, ne_eq]
    constructor
    · rintro (⟨hu, rfl⟩ | ⟨w, m, hw, hne, hm, rfl⟩)
      · omega
      · split_ifs at hm with hnext
        have := Option.some.inj hm
        omega
    · rintro ⟨hu, rfl⟩
      by_cases hlast : u.val = n
      · exact Or.inl ⟨hlast, by omega⟩
      · refine Or.inr ⟨⟨u.val + 1, by omega⟩, n - u, ?_⟩
        simp only [if_true, true_or, true_and]
        omega
  unfold chainHops
  split_ifs with hnext
  · exact ⟨(hmem _).mpr ⟨hnext, rfl⟩, fun k hk => ((hmem k).mp hk).2.ge⟩
  · exact Set.eq_empty_of_forall_notMem fun k hk => hnext ((hmem k).mp hk).1

theorem sinkChain_rightHops {n : ℕ} (hn : n < 2 ^ 15) : RightHops (sinkChain n) := by
  intro v i u j hpeer
  have hpeer' : chainPeer (n + 1) v i = some (u, j) := hpeer
  have hleast := hops_eq (chainPeer_isTree n).isAcyclic (fun v u => chainHops_known (n := n))
    ((chainPeer_wired (n + 1)).adj hpeer')
  have hconnection : ((sinkChain n).connection v i).hopsToSink =
      if i = outConnection then BitVec.ofNat 16 (n - v) else -1 := rfl
  rw [hconnection]
  rw [chainPeer_eq] at hpeer'
  rcases hpeer' with ⟨rfl, _, hnext⟩ | ⟨rfl, _, hprevious⟩
  · rw [chainHops, if_pos hnext] at hleast
    refine Or.inr ⟨n - v, hleast, ?_⟩
    rw [if_pos rfl, BitVec.toInt_eq_toNat_of_lt] <;> simp only [BitVec.toNat_ofNat] <;> omega
  · rw [chainHops, if_neg (by omega)] at hleast
    exact Or.inl ⟨hleast, if_neg (by decide)⟩

theorem sinkChain_guided {n : ℕ} (hn : n + 1 < 2 ^ 15) (hids : n + 1 < 31001) :
    Guided (sinkChain n) where
  tree := { chain_handshakenTree n (numbered (n + 1)) with }
  linked := by
    intro v i hdone hnone
    have hnone' : chainPeer (n + 1) v i = none := hnone
    simp [Net.connection, sinkChain, sinkChainNode, chainConnection, hnone'] at hdone
  quiet := fun _ _ => rfl
  nodeId := by
    intro v hid
    have hvalue := congrArg BitVec.toNat hid
    simp only [sinkChain, sinkChainNode, chainNode, numbered, BitVec.toNat_ofNat] at hvalue
    have hsink : nodeIdShortestSink.toNat = 31001 := rfl
    omega
  diameter := by
    intro v u
    obtain ⟨p, hpath, hp⟩ := (chainPeer_isTree n).connected.exists_path_of_dist v u
    have hlength := hpath.length_lt
    rw [Fintype.card_fin] at hlength
    have hmax : int16Max.toInt = 2 ^ 15 - 1 := rfl
    have hdist : p.length = (graph (sinkChain n).peer).dist v u := hp
    omega
  hops := sinkChain_rightHops (by omega)
  sink := ⟨Fin.last n, isSink_sinkChain.mpr rfl⟩

/-- In a chain of three with a sink at one end, a packet goes from one end to the other. -/
theorem sink_routed_chain :
    let packet := headerPacket ⟨false, messageTypeLightToggle, 1, nodeIdShortestSink, 0⟩
    let events : List (Event (Fin 3)) :=
      [.deliver 1 inConnection fun _ => 0, .deliver 2 inConnection fun _ => 0]
    let net := events.foldl Net.apply ((sinkChain 2).originate 0 none packet)
    ∃ m, Same packet m ∧ ∀ v, net.received v = if v = 2 then [m] else [] := by
  intro packet events net
  have hrun : Net.Run Deliveries ((sinkChain 2).originate 0 none packet) events net :=
    Net.Run.of_replays (by decide)
  have hstart : ForSink (sinkChain 2) 0 packet :=
    ⟨sinkChain_guided (by decide) (by decide), by rw [isSink_sinkChain]; decide,
      by unfold Ordinary; decide, by decide, by decide⟩
  obtain ⟨hle, hcarried, harrived, _⟩ := sink_routed hstart hrun
  rcases hle.lt_or_eq with hless | hend
  · -- nothing is on its way any more
    obtain ⟨v, i, u, j, m, _, _, hnet⟩ := hcarried hless
    have hinbox : net.inbox u j = [m] := by
      rw [hnet]
      exact alone_same
    have hquiet : net.Quiet := by decide
    rw [hquiet u j] at hinbox
    exact absurd hinbox (by simp)
  · obtain ⟨_, t, m, ht, _, hsame, hreceived⟩ := harrived hend
    rw [isSink_sinkChain] at ht
    exact ⟨m, hsame, fun v => by rw [hreceived v, ht]; rfl⟩

end FruityMesh.Mesh
