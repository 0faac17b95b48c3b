import FruityMesh.Library.Runs
import FruityMesh.Library.Streams
import FruityMesh.Mesh.Relay

/-!
# Several packets at once

In a tree of handshaken links, the modules of all nodes send packets while others are still
being relayed.  `Relay` follows one packet until nothing is on its way; here a run mixes
packets that any node originates with deliveries, in any order.

The packets of one node stay a stream of `Library.Streams` whatever the other nodes send:
a node relays what it receives at once and to the end of each queue, and neither changes the
bytes nor the sender of a packet of a device (`Travelling.receive`).  So every node handles
the packets of every other node that are meant for it in the order they were sent in, and
each of them once (`handled_in_order`).

The bit for more parts in the first byte is the only thing that the transport changes;
`unmarked` leaves it out.
-/

namespace FruityMesh.Mesh

open Cells Transport Ports Streams SimpleGraph
open Node (relayed)

variable {V : Type*} [DecidableEq V]

/-! ## What a packet says -/

/-- The bytes of a packet, without the bit for more parts. -/
def unmarked (message : Message) : List U8 :=
  firstByte false (typeOf message) :: message.bytes.drop 1

/-- The node id that stands in the bytes. -/
def receiverIn (bytes : List U8) : NodeId := receiverOf ⟨bytes, true⟩

/-- What a packet says, if it is a packet of the node with the id. -/
def contentFrom (nodeId : NodeId) (message : Message) : Option (List U8) :=
  if senderOf message = nodeId then some (unmarked message) else none

theorem memory_unmarked {message : Message} {k : ℕ} (hpos : 0 < k) (reliable : Bool) :
    memory ⟨unmarked message, reliable⟩ k = memory message k := by
  obtain ⟨l, rfl⟩ : ∃ l, k = l + 1 := ⟨k - 1, by omega⟩
  simp [memory, unmarked, List.getD_eq_getElem?_getD]

@[simp] theorem receiverIn_unmarked (message : Message) :
    receiverIn (unmarked message) = receiverOf message :=
  u16At_congr (memory_unmarked (by omega) _) (memory_unmarked (by omega) _)

/-! ## A packet on its way -/

/-- What a module of a node sends: a packet of the node itself, for a device or for all. -/
structure Posted (node : Node) (packet : ConnectionPacket) : Prop where
  ordinary : Ordinary (messageTypeAt packet.data)
  unclustered : messageTypeAt packet.data ≠ messageTypeClusterInfoUpdate
  untimed : messageTypeAt packet.data ≠ messageTypeUpdateTimestamp
  sender : senderAt packet.data = node.nodeId
  receiver : (receiverAt packet.data).toNat ≤ 19999
  header : sizeofConnPacketHeader ≤ packet.dataLength.toNat

/-- What is on its way of the packets of the nodes. -/
structure Travelling (start : Net V) (message : Message) : Prop where
  ordinary : Ordinary (typeOf message)
  unclustered : typeOf message ≠ messageTypeClusterInfoUpdate
  untimed : typeOf message ≠ messageTypeUpdateTimestamp
  sender : ∃ o, senderOf message = (start.node o).nodeId
  receiver : (receiverOf message).toNat ≤ 19999
  long : 6 ≤ message.bytes.length
  short : message.bytes.length < 2 ^ 16

/-- A relay leaves the packets of a device as they are. -/
theorem relayed_eq_self {data : ℕ → U8} (htype : messageTypeAt data ≠ messageTypeClusterInfoUpdate)
    (hsender : (senderAt data).toNat ≤ 19999) : relayed data = data := by
  have hbase : nodeIdHopsBase.toNat = 30000 := rfl
  unfold relayed
  simp only [htype, false_and, if_false]
  exact if_neg fun h => by omega

/-- What a node hands on of a packet that arrives. -/
def handedOn (message : Message) (behind : ℕ → U8) : Message :=
  ⟨read (arrive message behind).data 0 (arrive message behind).dataLength.toNat,
    (arrive message behind).reliable⟩

namespace Travelling

variable {start : Net V} {message : Message}

omit [DecidableEq V] in
theorem of_posted {v : V} {packet : ConnectionPacket} (h : Posted (start.node v) packet) :
    Travelling start packet.message := by
  have hheader : 6 ≤ packet.dataLength.toNat := h.header
  have htype : typeOf packet.message = messageTypeAt packet.data := typeOf_read (by omega)
  exact ⟨htype ▸ h.ordinary, htype ▸ h.unclustered, htype ▸ h.untimed,
    ⟨v, (senderOf_read (by omega)).trans h.sender⟩,
    ((receiverOf_read (by omega)).trans rfl : receiverOf packet.message = _) ▸ h.receiver,
    hheader.trans_eq (length_read _ _ _).symm,
    (length_read _ _ _).trans_lt packet.dataLength.isLt⟩

variable (h : Travelling start message) (behind : ℕ → U8)
include h

omit [DecidableEq V] in
theorem type_handedOn : typeOf (handedOn message behind) = typeOf message := by
  have hlength := @arrive_dataLength _ behind h.short
  have := h.long
  exact (typeOf_read (by omega)).trans type_arrive

omit [DecidableEq V] in
theorem sender_handedOn : senderOf (handedOn message behind) = senderOf message := by
  have hlength := @arrive_dataLength _ behind h.short
  have := h.long
  exact (senderOf_read (by omega)).trans (sender_arrive (by omega))

omit [DecidableEq V] in
theorem receiver_handedOn : receiverOf (handedOn message behind) = receiverOf message := by
  have hlength := @arrive_dataLength _ behind h.short
  have := h.long
  exact (receiverOf_read (by omega)).trans (receiver_arrive (by omega))

omit [DecidableEq V] in
theorem bytes_handedOn : (handedOn message behind).bytes.drop 1 = message.bytes.drop 1 := by
  have hlength := @arrive_dataLength _ behind h.short
  unfold handedOn
  apply List.ext_getElem
  · rw [List.length_drop, List.length_drop, length_read, hlength]
  · intro k hk hk'
    rw [List.length_drop] at hk'
    have hbyte : (arrive message behind).data (1 + k) = memory message (1 + k) :=
      arrive_data (by omega) (by omega) (Or.inr h.untimed)
    simp only [List.getElem_drop, Cells.read, List.getElem_map, List.getElem_range, Nat.zero_add,
      hbyte]
    exact List.getD_eq_getElem _ _ (by omega)

omit [DecidableEq V] in
/-- What is handed on says what has arrived. -/
theorem unmarked_handedOn : unmarked (handedOn message behind) = unmarked message := by
  unfold unmarked
  rw [h.type_handedOn, h.bytes_handedOn]

omit [DecidableEq V] in
theorem contentFrom_handedOn (nodeId : NodeId) :
    contentFrom nodeId (handedOn message behind) = contentFrom nodeId message := by
  unfold contentFrom
  rw [h.sender_handedOn, h.unmarked_handedOn]

omit [DecidableEq V] in
theorem handedOn : Travelling start (handedOn message behind) where
  ordinary := (h.type_handedOn behind).symm ▸ h.ordinary
  unclustered := (h.type_handedOn behind).symm ▸ h.unclustered
  untimed := (h.type_handedOn behind).symm ▸ h.untimed
  sender := (h.sender_handedOn behind).symm ▸ h.sender
  receiver := (h.receiver_handedOn behind).symm ▸ h.receiver
  long := by
    rw [Mesh.handedOn, length_read, arrive_dataLength h.short]
    exact h.long
  short := by
    rw [Mesh.handedOn, length_read, arrive_dataLength h.short]
    exact h.short

end Travelling

/-! ## One node -/

section Receive

variable {start : Net V} {message : Message}

omit [DecidableEq V] in
/-- A node stays as it is, hands the packet on over its other links if it is not the receiver,
and handles it if it is meant for the node. -/
theorem Travelling.receive (h : Travelling start message)
    (hids : ∀ v, (start.node v).nodeId.toNat ≤ 19999) (node : Node) (i : Slot) (behind : ℕ → U8) :
    (node.receivePacketHandler i (arrive message behind)).1 = node ∧
      (∀ k, sends (node.receivePacketHandler i (arrive message behind)).2 k =
        if receiverOf message = node.nodeId then []
        else if k ≠ i ∧ (node.connections k).handshakeDone then [Mesh.handedOn message behind]
        else []) ∧
      handled (node.receivePacketHandler i (arrive message behind)).2 =
        if node.toUs (receiverOf message) then [Mesh.handedOn message behind] else [] := by
  have hlong := h.long
  have htype : messageTypeAt (arrive message behind).data = typeOf message := type_arrive
  have hreceiver : receiverAt (arrive message behind).data = receiverOf message :=
    receiver_arrive (by omega)
  have hordinary : Ordinary (messageTypeAt (arrive message behind).data) := htype ▸ h.ordinary
  have hsink : receiverAt (arrive message behind).data ≠ nodeIdShortestSink :=
    ne_shortestSink (hreceiver.symm ▸ h.receiver)
  have hsame : relayed (arrive message behind).data = (arrive message behind).data := by
    obtain ⟨o, ho⟩ := h.sender
    apply relayed_eq_self (htype ▸ h.unclustered)
    rw [sender_arrive (by omega), ho]
    exact hids o
  have hlast : node.lastReceiver (receiverOf message) = decide (receiverOf message = node.nodeId) :=
    node.lastReceiver_of_device h.receiver
  have hcares : node.caresFor (receiverOf message) = node.toUs (receiverOf message) := by
    by_cases hbroadcast : receiverOf message = nodeIdBroadcast
    · simp [Node.caresFor, Node.toUs, hbroadcast]
    · rw [node.caresFor_of_device h.receiver hbroadcast]
      simp [Node.toUs, hbroadcast]
  refine ⟨?_, ?_, ?_⟩
  · rw [node.receive_ordinary hordinary hsink]
    have hunclustered : ∀ data, messageTypeAt data = typeOf message →
        node.messageReceivedCallback (some i) data (arrive message behind).dataLength = node := by
      intro data hdata
      exact if_neg fun hk => h.unclustered (hdata.symm.trans hk.1)
    simp only [hsame, ite_self, hunclustered _ htype]
  · intro k
    rw [node.sends_receive_ordinary hordinary hsink, hreceiver, hlast, hsame]
    simp only [decide_eq_true_eq]
    rfl
  · rw [node.handled_receive_ordinary hordinary hsink, hreceiver, hcares, hsame, ite_self]
    rfl

/-- What a node does to send a packet of its own. -/
theorem Posted.send {node : Node} {packet : ConnectionPacket} (h : Posted node packet)
    (loopback : Option Slot) :
    (node.sendMessageToReceiver none loopback packet).1 = node ∧
      (∀ i, sends (node.sendMessageToReceiver none loopback packet).2 i =
        if receiverOf packet.message ≠ node.nodeId ∧ (node.connections i).handshakeDone then
          [packet.message]
        else []) ∧
      handled (node.sendMessageToReceiver none loopback packet).2 =
        if node.toUs (receiverOf packet.message) then [packet.message] else [] := by
  have hsink := ne_shortestSink h.receiver
  have hheader : 6 ≤ packet.dataLength.toNat := h.header
  have hreceiver : receiverOf packet.message = receiverAt packet.data :=
    receiverOf_read (by omega)
  have hsame : node.messageReceivedCallback loopback packet.data packet.dataLength = node :=
    if_neg fun hk => h.unclustered hk.1
  rw [hreceiver]
  refine ⟨?_, node.sends_sendMessageToReceiver hsink, node.handled_sendMessageToReceiver hsink⟩
  unfold Node.sendMessageToReceiver
  simp only [hsame, if_neg hsink]
  split_ifs <;> rfl

end Receive

/-! ## Activity -/

/-- A module of a node sends a packet, or a packet is delivered. -/
inductive Activity (V : Type*)
  | originate (v : V) (loopback : Option Slot) (packet : ConnectionPacket)
  | deliver (v : V) (i : Slot) (behind : ℕ → U8)

namespace Activity

def apply (net : Net V) : Activity V → Net V
  | .originate v loopback packet => net.originate v loopback packet
  | .deliver v i behind => net.apply (.deliver v i behind)

def Allowed (net : Net V) : Activity V → Prop
  | .originate v _ packet => Posted (net.node v) packet
  | .deliver v i behind => net.Enabled (.deliver v i behind)

/-- What a node sends in an event. -/
def contentOf (o : V) : Activity V → Option (List U8)
  | .originate v _ packet => if v = o then some (unmarked packet.message) else none
  | .deliver _ _ _ => none

def isDelivery : Activity V → Bool
  | .originate _ _ _ => false
  | .deliver _ _ _ => true

end Activity

/-- What the packets say that a node has sent, in this order. -/
def originated (o : V) (events : List (Activity V)) : List (List U8) :=
  events.filterMap (Activity.contentOf o)

/-- What the packets of `o` say that `v` has handled, in this order. -/
def Net.handledFrom (net : Net V) (o v : V) : List (List U8) :=
  (net.received v).filterMap (contentFrom (net.node o).nodeId)

/-- The packet is not for the node itself, which sends it on then. -/
def passesOn (start : Net V) (v : V) (bytes : List U8) : Bool :=
  receiverIn bytes ≠ (start.node v).nodeId

/-- The packets of all nodes are streams.  `sent o` is what `o` has originated, and
`passed o v` what has arrived of it at `v`. -/
structure Flowing (start net : Net V) (sent : V → List (List U8))
    (passed : V → V → List (List U8)) : Prop where
  node : net.node = start.node
  peer : net.peer = start.peer
  unlinked : ∀ v i, start.peer v i = none → net.inbox v i = []
  travelling : Carries (Travelling start) net
  streaming : ∀ o, Streaming start.peer o (passesOn start) (contentFrom (start.node o).nodeId)
    (passed o) net.inbox
  receivers : ∀ o, ∀ bytes ∈ sent o, (receiverIn bytes).toNat ≤ 19999
  root : ∀ o, passed o o = (sent o).filter (passesOn start o)
  handled : ∀ o v, (net.received v).filterMap (contentFrom (start.node o).nodeId) =
    (if v = o then sent o else passed o v).filter fun bytes =>
      (start.node v).toUs (receiverIn bytes)

/-- More of the packets of `o` has passed at `v`. -/
def passing (passed : V → V → List (List U8)) (o v : V) (new : List (List U8)) :
    V → V → List (List U8) :=
  Function.update passed o (Function.update (passed o) v (passed o v ++ new))

theorem passing_same (passed : V → V → List (List U8)) (o v : V) (new : List (List U8)) :
    passing passed o v new o = Function.update (passed o) v (passed o v ++ new) :=
  Function.update_self ..

theorem passing_other {passed : V → V → List (List U8)} {o o' v : V} {new : List (List U8)}
    (h : o' ≠ o) : passing passed o v new o' = passed o' := Function.update_of_ne h ..

theorem passing_of_ne {passed : V → V → List (List U8)} {o o' v v' : V} {new : List (List U8)}
    (h : v' ≠ v) : passing passed o v new o' v' = passed o' v' := by
  by_cases ho : o' = o
  · subst ho
    rw [passing_same, Function.update_of_ne h]
  · rw [passing_other ho]

/-- The packet of one node is no packet of another one. -/
theorem contentFrom_eq {start : Net V}
    (hdistinct : ∀ v u, (start.node v).nodeId = (start.node u).nodeId → v = u) {message : Message}
    {v : V} (hsender : senderOf message = (start.node v).nodeId) (o : V) :
    contentFrom (start.node o).nodeId message =
      if o = v then some (unmarked message) else none := by
  unfold contentFrom
  rw [hsender]
  by_cases ho : o = v
  · rw [if_pos ho, if_pos (by rw [ho])]
  · rw [if_neg ho, if_neg fun heq => ho (hdistinct o v heq.symm)]

namespace Flowing

variable {start net : Net V} {sent : V → List (List U8)} {passed : V → V → List (List U8)}

/-- Nothing has been sent yet. -/
theorem of_quiet (hquiet : start.Quiet) (hunreceived : ∀ v, start.received v = []) :
    Flowing start start (fun _ => []) (fun _ _ => []) where
  node := rfl
  peer := rfl
  unlinked := fun v i _ => hquiet v i
  travelling := Carries.of_quiet hquiet hunreceived
  streaming := fun o => Streaming.start hquiet
  receivers := by
    intro o bytes hbytes
    exact absurd hbytes List.not_mem_nil
  root := fun o => rfl
  handled := by
    intro o v
    rw [hunreceived v, ite_self]
    rfl

section Step

variable (h : Flowing start net sent passed) (htree : HandshakenTree start)
  (hdistinct : ∀ v u, (start.node v).nodeId = (start.node u).nodeId → v = u)
include h htree hdistinct

/-- A module of a node sends a packet. -/
theorem originate {v : V} {loopback : Option Slot} {packet : ConnectionPacket}
    (hposted : Posted (start.node v) packet) :
    let content := unmarked packet.message
    Flowing start (net.originate v loopback packet)
      (Function.update sent v (sent v ++ [content]))
      (passing passed v v (if passesOn start v content then [content] else [])) := by
  intro content
  have htravels := Travelling.of_posted hposted
  obtain ⟨hnode, hsends, hhandled⟩ := hposted.send loopback
  have hsender : senderOf packet.message = (start.node v).nodeId :=
    (senderOf_read (hposted.header.trans' (by decide))).trans hposted.sender
  have hcontent := contentFrom_eq hdistinct hsender
  have hresult : net.originate v loopback packet =
      net.after v ((start.node v).sendMessageToReceiver none loopback packet) := by
    unfold Net.originate
    rw [h.node]
  have hpasses : passesOn start v content =
      decide (receiverOf packet.message ≠ (start.node v).nodeId) := by
    unfold passesOn
    rw [receiverIn_unmarked]
  rw [hresult]
  -- each field of the invariant is about one of the nodes `o` whose packets are counted: for `v`
  -- itself the packet is the next one, for the others nothing changes
  constructor
  case node =>
    funext w
    by_cases hw : w = v
    · subst hw
      rw [Net.after_node, hnode]
    · rw [Net.after_node_other _ _ hw, h.node]
  case peer => exact h.peer
  case unlinked =>
    intro w i hnone
    rw [Net.after_inbox, post_of_none (h.peer ▸ hnone)]
    exact h.unlinked w i hnone
  case travelling =>
    apply h.travelling.after
    · intro i message hmessage
      rw [hsends] at hmessage
      split_ifs at hmessage
      · rw [List.mem_singleton.mp hmessage]
        exact htravels
      · exact absurd hmessage List.not_mem_nil
    · intro message hmessage
      rw [hhandled] at hmessage
      split_ifs at hmessage
      · rw [List.mem_singleton.mp hmessage]
        exact htravels
      · exact absurd hmessage List.not_mem_nil
  case streaming =>
    intro o
    rw [Net.after_inbox, h.peer]
    by_cases ho : o = v
    · subst ho
      rw [passing_same]
      apply (h.streaming o).send htree.wired
      intro i hlinked
      rw [hsends, hpasses]
      have hdone := htree.handshakeDone o i hlinked
      by_cases hown : receiverOf packet.message = (start.node o).nodeId
      · simp [hown]
      · have hdone' : ((start.node o).connections i).handshakeDone = true := hdone
        simp [hown, hdone', hcontent, content]
    · rw [passing_other ho]
      apply (h.streaming o).unrelated htree.wired
      intro i _
      rw [hsends]
      split_ifs
      · rw [List.filterMap_cons_none (by rw [hcontent, if_neg ho]), List.filterMap_nil]
      · rfl
  case receivers =>
    intro o bytes hbytes
    by_cases ho : o = v
    · subst ho
      rw [Function.update_self] at hbytes
      rcases List.mem_append.mp hbytes with hold | hnew
      · exact h.receivers o bytes hold
      · rw [List.mem_singleton.mp hnew, receiverIn_unmarked]
        exact htravels.receiver
    · rw [Function.update_of_ne ho] at hbytes
      exact h.receivers o bytes hbytes
  case root =>
    intro o
    by_cases ho : o = v
    · subst ho
      rw [passing_same, Function.update_self, Function.update_self, List.filter_append, h.root o]
      congr 1
      cases hpass : passesOn start o content <;> simp [hpass]
    · rw [passing_other ho, Function.update_of_ne ho]
      exact h.root o
  case handled =>
    intro o w
    have hold := h.handled o w
    by_cases hw : w = v
    · subst hw
      rw [Net.after_received, List.filterMap_append, hhandled, hold]
      by_cases ho : w = o
      · subst ho
        rw [if_pos rfl, if_pos rfl, Function.update_self, List.filter_append]
        congr 1
        cases hus : (start.node w).toUs (receiverOf packet.message) <;>
          simp [hus, hcontent, content]
      · rw [if_neg ho, if_neg ho, passing_other (Ne.symm ho)]
        have hnone : contentFrom (start.node o).nodeId packet.message = none := by
          rw [hcontent, if_neg (Ne.symm ho)]
        split_ifs
        · rw [List.filterMap_cons_none hnone, List.filterMap_nil, List.append_nil]
        · rw [List.filterMap_nil, List.append_nil]
    · rw [Net.after_received_other _ _ hw, hold, passing_of_ne hw]
      by_cases ho : w = o
      · subst ho
        rw [if_pos rfl, if_pos rfl, Function.update_of_ne hw]
      · rw [if_neg ho, if_neg ho]

/-- A packet is delivered, which one of the other nodes has sent. -/
theorem deliver (hids : ∀ v, (start.node v).nodeId.toNat ≤ 19999) {v : V} {i : Slot}
    (behind : ℕ → U8) (hne : net.inbox v i ≠ []) :
    ∃ o content, o ≠ v ∧
      Flowing start (net.apply (.deliver v i behind)) sent (passing passed o v [content]) := by
  obtain ⟨message, rest, hinbox⟩ := List.exists_cons_of_ne_nil hne
  obtain ⟨⟨u, j⟩, hpeer⟩ := Option.ne_none_iff_exists'.mp fun hnone => hne (h.unlinked v i hnone)
  have htravels := h.travelling.inbox v i message (by rw [hinbox]; exact List.mem_cons_self)
  obtain ⟨o, hsender⟩ := htravels.sender
  have hcontent := contentFrom_eq hdistinct hsender
  have hown : contentFrom (start.node o).nodeId message = some (unmarked message) := by
    rw [hcontent, if_pos rfl]
  -- the packet is the next one of the stream of its sender, and `v` is not the sender
  have hroot : v ≠ o :=
    (h.streaming o).ne_root htree.wired htree.tree hpeer hinbox hown
  obtain ⟨hnode, hsends, hhandled⟩ := htravels.receive hids (start.node v) i behind
  refine ⟨o, unmarked message, hroot.symm, ?_⟩
  rw [Net.apply_deliver hinbox, h.node]
  constructor
  case node =>
    funext w
    by_cases hw : w = v
    · subst hw
      rw [Net.after_node, hnode]
    · rw [Net.after_node_other _ _ hw, Net.withInbox_node, h.node]
  case peer => exact h.peer
  case unlinked =>
    intro w k hnone
    have hhere : ¬ (w = v ∧ k = i) := by
      rintro ⟨rfl, rfl⟩
      rw [hpeer] at hnone
      exact absurd hnone (by simp)
    rw [Net.after_inbox, Net.withInbox_peer, post_of_none (h.peer ▸ hnone), Net.withInbox_inbox,
      setInbox_other _ hhere]
    exact h.unlinked w k hnone
  case travelling =>
    apply (h.travelling.withInbox hinbox).after
    · intro k m hm
      rw [hsends] at hm
      split_ifs at hm
      · exact absurd hm List.not_mem_nil
      · rw [List.mem_singleton.mp hm]
        exact htravels.handedOn behind
      · exact absurd hm List.not_mem_nil
    · intro m hm
      rw [hhandled] at hm
      split_ifs at hm
      · rw [List.mem_singleton.mp hm]
        exact htravels.handedOn behind
      · exact absurd hm List.not_mem_nil
  case streaming =>
    intro o'
    rw [Net.after_inbox, Net.withInbox_peer, Net.withInbox_inbox, h.peer]
    have hkey : contentFrom (start.node o').nodeId (handedOn message behind) =
        contentFrom (start.node o').nodeId message := htravels.contentFrom_handedOn behind _
    by_cases ho : o' = o
    · subst ho
      rw [passing_same]
      apply (h.streaming o').receive htree.wired htree.tree hpeer hinbox hown
      · -- nothing goes back where the packet came from
        rw [hsends]
        simp
      · intro l hl hlinked
        have hdone : ((start.node v).connections l).handshakeDone = true :=
          htree.handshakeDone v l hlinked
        rw [hsends]
        unfold passesOn
        by_cases hreceiver : receiverOf message = (start.node v).nodeId
        · simp [hreceiver]
        · simp [hreceiver, hl, hdone, hkey, hown]
    · have hnone : contentFrom (start.node o').nodeId message = none := by
        rw [hcontent, if_neg ho]
      rw [passing_other ho]
      apply ((h.streaming o').skip hinbox hnone).unrelated htree.wired
      intro l _
      rw [hsends]
      split_ifs
      · rfl
      · rw [List.filterMap_cons_none (hkey.trans hnone), List.filterMap_nil]
      · rfl
  case receivers => exact h.receivers
  case root =>
    intro o'
    by_cases ho : o' = v
    · subst ho
      rw [passing_other hroot]
      exact h.root o'
    · rw [passing_of_ne ho]
      exact h.root o'
  case handled =>
    intro o' w
    have hold := h.handled o' w
    by_cases hw : w = v
    · subst hw
      rw [Net.after_received, Net.withInbox_received, List.filterMap_append, hold, hhandled]
      have hkey : contentFrom (start.node o').nodeId (handedOn message behind) =
          if o' = o then some (unmarked message) else none :=
        (htravels.contentFrom_handedOn behind _).trans (hcontent o')
      by_cases ho : o' = o
      · subst ho
        rw [if_neg hroot, if_neg hroot, passing_same, Function.update_self, List.filter_append]
        congr 1
        cases hus : (start.node w).toUs (receiverOf message) <;> simp [hus, hkey]
      · rw [passing_other ho]
        have hnone : (if (start.node w).toUs (receiverOf message) = true then
            [handedOn message behind] else []).filterMap
              (contentFrom (start.node o').nodeId) = [] := by
          rw [if_neg ho] at hkey
          split_ifs
          · rw [List.filterMap_cons_none hkey, List.filterMap_nil]
          · rfl
        rw [hnone, List.append_nil]
    · rw [Net.after_received_other _ _ hw, Net.withInbox_received, hold, passing_of_ne hw]

end Step

/-- What a node has handled of the packets of another one, as far as they have come. -/
theorem prefix_originated (h : Flowing start net sent passed) (htree : HandshakenTree start)
    (hids : ∀ v, 1 ≤ (start.node v).nodeId.toNat ∧ (start.node v).nodeId.toNat ≤ 19999)
    (hdistinct : ∀ v u, (start.node v).nodeId = (start.node u).nodeId → v = u) (o v : V) :
    let meant := (sent o).filter fun bytes => (start.node v).toUs (receiverIn bytes)
    net.handledFrom o v <+: meant ∧ (net.Quiet → net.handledFrom o v = meant) := by
  intro meant
  unfold Net.handledFrom
  rw [h.node, h.handled o v]
  by_cases hv : v = o
  · subst hv
    rw [if_pos rfl]
    exact ⟨List.prefix_rfl, fun _ => rfl⟩
  · rw [if_neg hv]
    -- what is meant for the node is stopped nowhere in between
    have hmeant : (Streaming.reaching start.peer o (passesOn start) (passed o o) v).filter
        (fun bytes => (start.node v).toUs (receiverIn bytes)) = meant := by
      classical
      rw [h.root o, Streaming.reaching, List.filter_filter, List.filter_filter]
      apply List.filter_congr
      intro bytes _
      cases hus : (start.node v).toUs (receiverIn bytes) with
      | false => simp
      | true =>
          have hpasses : ∀ w, w ≠ v → passesOn start w bytes = true := by
            intro w hw
            rcases of_decide_eq_true hus with heq | hbroadcast
            · exact decide_eq_true (heq ▸ fun hsame => hw (hdistinct v w hsame).symm)
            · exact decide_eq_true (hbroadcast ▸ not_broadcast hids w)
          have hopen : Flood.Open (graph start.peer) o
              (fun w => passesOn start w bytes = false) v := by
            rintro w ⟨_, hwv, _⟩ hstops
            rw [hpasses w hwv] at hstops
            exact absurd hstops (by simp)
          simp [hopen, hpasses o (Ne.symm hv)]
    constructor
    · rw [← hmeant]
      exact ((h.streaming o).prefix_of_root htree.wired htree.tree v).filter _
    · intro hquiet
      rw [← hmeant, ← (h.streaming o).passed_eq htree.wired htree.tree (fun w i => by
        have hinbox : net.inbox w i = [] := hquiet w i
        rw [hinbox, List.filterMap_nil]) v]

end Flowing

/-! ## Counting deliveries -/

section Carried

variable [Fintype V] {passed : V → V → List (List U8)} {o v : V}

/-- How often packets have arrived, at nodes that have not sent them. -/
def carried (passed : V → V → List (List U8)) : ℕ :=
  ∑ o, ∑ v, if v = o then 0 else (passed o v).length

theorem carried_passing_root (passed : V → V → List (List U8)) (v : V) (new : List (List U8)) :
    carried (passing passed v v new) = carried passed := by
  apply Finset.sum_congr rfl
  intro o _
  apply Finset.sum_congr rfl
  intro w _
  by_cases hw : w = o
  · rw [if_pos hw, if_pos hw]
  · rw [if_neg hw, if_neg hw]
    by_cases ho : o = v
    · rw [passing_of_ne (ho ▸ hw)]
    · rw [passing_other ho]

theorem carried_passing (hov : o ≠ v) (content : List U8) :
    carried (passing passed o v [content]) = carried passed + 1 := by
  have hone : ∀ o' w, (if w = o' then 0 else (passing passed o v [content] o' w).length) =
      (if w = o' then 0 else (passed o' w).length) +
        if o' = o then (if w = v then 1 else 0) else 0 := by
    intro o' w
    by_cases ho : o' = o
    · subst ho
      by_cases hw : w = v
      · subst hw
        simp [passing_same, hov.symm]
      · simp [passing_of_ne hw, hw]
    · simp [passing_other ho, ho]
  have hinner : ∀ o', ∑ w, (if o' = o then (if w = v then 1 else 0) else 0) =
      if o' = o then 1 else 0 := by
    intro o'
    split_ifs <;> simp
  unfold carried
  simp only [hone, Finset.sum_add_distrib, hinner, Finset.sum_ite_eq', Finset.mem_univ, if_true]

/-- A packet arrives at each node at most once, and not at the node that has sent it. -/
theorem carried_le {start net : Net V} {sent : V → List (List U8)}
    (h : Flowing start net sent passed) (htree : HandshakenTree start) :
    carried passed ≤ (∑ o, (sent o).length) * (Fintype.card V - 1) := by
  have hpassed : ∀ o v, (passed o v).length ≤ (sent o).length := by
    intro o v
    calc (passed o v).length
        ≤ (Streaming.reaching start.peer o (passesOn start) (passed o o) v).length :=
          ((h.streaming o).prefix_of_root htree.wired htree.tree v).length_le
      _ ≤ (passed o o).length := List.length_filter_le _ _
      _ ≤ (sent o).length := by
          rw [h.root o]
          exact List.length_filter_le _ _
  calc carried passed
      ≤ ∑ o, ∑ v ∈ Finset.univ.erase o, (sent o).length := by
        apply Finset.sum_le_sum
        intro o _
        rw [← Finset.add_sum_erase _ _ (Finset.mem_univ o), if_pos rfl, Nat.zero_add]
        apply Finset.sum_le_sum
        intro v hv
        rw [if_neg (Finset.ne_of_mem_erase hv)]
        exact hpassed o v
    _ = (∑ o, (sent o).length) * (Fintype.card V - 1) := by
        simp only [Finset.sum_const, Finset.card_erase_of_mem (Finset.mem_univ _),
          Finset.card_univ, smul_eq_mul, Finset.sum_mul]
        apply Finset.sum_congr rfl
        intro o _
        exact Nat.mul_comm _ _

end Carried

/-! ## Runs -/

section Run

variable {start net : Net V} {events : List (Activity V)}

theorem originated_concat (o : V) (events : List (Activity V)) (event : Activity V) :
    originated o (events ++ [event]) = originated o events ++ (event.contentOf o).toList := by
  unfold originated
  rw [List.filterMap_append]
  cases h : event.contentOf o <;> simp [h]

/-- Each node originates what it originates. -/
theorem originated_originate (v : V) (loopback : Option Slot) (packet : ConnectionPacket)
    (events : List (Activity V)) :
    (fun o => originated o (events ++ [.originate v loopback packet])) =
      Function.update (fun o => originated o events) v
        (originated v events ++ [unmarked packet.message]) := by
  funext o
  rw [originated_concat]
  by_cases ho : o = v
  · subst ho
    simp [Activity.contentOf]
  · simp [Activity.contentOf, ho, Ne.symm ho]

theorem originated_deliver (v : V) (i : Slot) (behind : ℕ → U8) (events : List (Activity V)) :
    (fun o => originated o (events ++ [.deliver v i behind])) = fun o => originated o events := by
  funext o
  rw [originated_concat]
  exact List.append_nil _

/-- The number of packets that are sent in a run. -/
theorem sum_originated [Fintype V] (events : List (Activity V)) :
    ∑ o, (originated o events).length = (events.filter fun event => !event.isDelivery).length := by
  induction events using List.reverseRecOn with
  | nil => simp [originated]
  | append_singleton events event ih =>
      simp only [originated_concat, List.length_append, Finset.sum_add_distrib, ih,
        List.filter_append]
      congr 1
      cases event with
      | originate v loopback packet =>
          have hterm : ∀ o, ((Activity.originate v loopback packet).contentOf o).toList.length =
              if v = o then 1 else 0 := by
            intro o
            simp only [Activity.contentOf]
            split_ifs <;> rfl
          simp only [hterm, Finset.sum_ite_eq, Finset.mem_univ, if_true]
          rfl
      | deliver v i behind => exact Finset.sum_const_zero

variable (htree : HandshakenTree start) (hquiet : start.Quiet)
  (hunreceived : ∀ v, start.received v = [])
  (hids : ∀ v, 1 ≤ (start.node v).nodeId.toNat ∧ (start.node v).nodeId.toNat ≤ 19999)
  (hdistinct : ∀ v u, (start.node v).nodeId = (start.node u).nodeId → v = u)
include htree hquiet hunreceived hids hdistinct

/-- At the end of every run the packets of all nodes are streams, and each delivery has brought
one of them on. -/
theorem flowing_run [Fintype V] (hrun : Runs.Run Activity.apply Activity.Allowed start events net) :
    ∃ passed, Flowing start net (fun o => originated o events) passed ∧
      (events.filter Activity.isDelivery).length = carried passed := by
  induction hrun with
  | nil => exact ⟨_, .of_quiet hquiet hunreceived, by simp [carried]⟩
  | @step middle events hrun event hallowed ih =>
      obtain ⟨passed, h, hcount⟩ := ih
      rw [List.filter_append, List.length_append, hcount]
      cases event with
      | originate v loopback packet =>
          have hposted : Posted (start.node v) packet := h.node ▸ hallowed
          rw [originated_originate]
          exact ⟨_, h.originate htree hdistinct hposted, (carried_passing_root ..).symm⟩
      | deliver v i behind =>
          obtain ⟨o, content, hov, h'⟩ := h.deliver htree hdistinct (fun v => (hids v).2)
            behind hallowed.2
          rw [originated_deliver]
          exact ⟨_, h', (carried_passing hov content).symm⟩

omit hquiet hunreceived hids hdistinct in
/-- What is on its way can be delivered. -/
theorem exists_delivery {sent : V → List (List U8)} {passed : V → V → List (List U8)}
    (h : Flowing start net sent passed) (hnot : ¬ net.Quiet) :
    ∃ v i, net.Enabled (.deliver v i fun _ => 0) := by
  unfold Net.Quiet at hnot
  push Not at hnot
  obtain ⟨v, i, hne⟩ := hnot
  have hpeer : start.peer v i ≠ none := fun hnone => hne (h.unlinked v i hnone)
  have hconnected : (net.connection v i).isConnected = true := by
    unfold Net.connection
    rw [h.node]
    exact htree.isConnected v i hpeer
  exact ⟨v, i, hconnected, hne⟩

theorem deliveries_bound [Fintype V]
    (hrun : Runs.Run Activity.apply Activity.Allowed start events net) :
    (events.filter Activity.isDelivery).length ≤
      (events.filter fun event => !event.isDelivery).length * (Fintype.card V - 1) := by
  obtain ⟨passed, h, hcount⟩ := flowing_run htree hquiet hunreceived hids hdistinct hrun
  rw [hcount, ← sum_originated]
  exact carried_le h htree

/-- **The traffic runs dry.**  For each packet that is sent, there are fewer deliveries than
nodes; and when the nodes stop sending, deliveries alone bring every run to an end at which
nothing is on its way any more. -/
theorem traffic_runs_dry [Fintype V]
    (hrun : Runs.Run Activity.apply Activity.Allowed start events net) :
    (events.filter Activity.isDelivery).length ≤
        (events.filter fun event => !event.isDelivery).length * (Fintype.card V - 1) ∧
      ∃ more net', (∀ event ∈ more, event.isDelivery = true) ∧
        Runs.Run Activity.apply Activity.Allowed start (events ++ more) net' ∧ net'.Quiet := by
  refine ⟨deliveries_bound htree hquiet hunreceived hids hdistinct hrun, ?_⟩
  have hmay : ∀ (net : Net V) (event : Activity V),
      event.Allowed net ∧ event.isDelivery = true → event.isDelivery = true := fun _ _ h => h.2
  have hdelivered : ∃ more net', Runs.Run Activity.apply
      (fun net event => event.Allowed net ∧ event.isDelivery = true) net more net' ∧
      net'.Quiet := by
    refine Runs.Run.exists_end
      ((events.filter fun event => !event.isDelivery).length * (Fintype.card V - 1)) ?_ ?_
    · intro more net' hmore
      have hall := hmore.forall_mem hmay
      have hbound := deliveries_bound htree hquiet hunreceived hids hdistinct
        (hrun.append (hmore.mono fun _ _ h => h.1))
      have hnone : (more.filter fun event => !event.isDelivery) = [] :=
        List.filter_eq_nil_iff.mpr fun event hevent => by simp [hall event hevent]
      rw [List.filter_append, List.filter_append, List.length_append,
        List.filter_eq_self.mpr hall, hnone, List.append_nil] at hbound
      omega
    · intro more net' hmore
      obtain ⟨passed, h, -⟩ := flowing_run htree hquiet hunreceived hids hdistinct
        (hrun.append (hmore.mono fun _ _ h => h.1))
      by_cases hend : net'.Quiet
      · exact Or.inl hend
      · obtain ⟨v, i, henabled⟩ := exists_delivery htree h hend
        exact Or.inr ⟨.deliver v i fun _ => 0, henabled, rfl⟩
  obtain ⟨more, net', hmore, hend⟩ := hdelivered
  exact ⟨more, net', hmore.forall_mem hmay, hrun.append (hmore.mono fun _ _ h => h.1), hend⟩

end Run

/-! ## A chain -/

/-- A packet of a node, with a header and zeros behind it. -/
def ownPacket (sender receiver : NodeId) (messageType : MessageType) : ConnectionPacket :=
  headerPacket ⟨false, messageType, sender, receiver, 0⟩

instance (messageType : MessageType) : Decidable (Ordinary messageType) :=
  inferInstanceAs (Decidable (_ ∧ _ ∧ _ ∧ _))

instance (node : Node) (packet : ConnectionPacket) : Decidable (Posted node packet) :=
  decidable_of_iff (Ordinary (messageTypeAt packet.data) ∧
      messageTypeAt packet.data ≠ messageTypeClusterInfoUpdate ∧
      messageTypeAt packet.data ≠ messageTypeUpdateTimestamp ∧
      senderAt packet.data = node.nodeId ∧ (receiverAt packet.data).toNat ≤ 19999 ∧
      sizeofConnPacketHeader ≤ packet.dataLength.toNat)
    ⟨fun ⟨h1, h2, h3, h4, h5, h6⟩ => ⟨h1, h2, h3, h4, h5, h6⟩,
      fun ⟨h1, h2, h3, h4, h5, h6⟩ => ⟨h1, h2, h3, h4, h5, h6⟩⟩

instance (net : Net V) (event : Activity V) : Decidable (Activity.Allowed net event) :=
  match event with
  | .originate v _ packet => inferInstanceAs (Decidable (Posted (net.node v) packet))
  | .deliver v i behind => inferInstanceAs (Decidable (net.Enabled (.deliver v i behind)))

/-- In a chain of three, the first node sends two packets to the last one, and the node in the
middle broadcasts one in between. -/
def busyChain {V : Type*} (first middle last : V) : List (Activity V) :=
  [.originate first none (ownPacket 1 3 messageTypeLightToggle),
    .originate middle none (ownPacket 2 nodeIdBroadcast messageTypeLightToggle),
    .originate first none (ownPacket 1 3 messageTypeModuleConfig),
    .deliver middle inConnection fun _ => 0,
    .deliver last inConnection fun _ => 0,
    .deliver first outConnection fun _ => 0,
    .deliver middle inConnection fun _ => 0,
    .deliver last inConnection fun _ => 0,
    .deliver last inConnection fun _ => 0]

theorem traffic_runs_dry_chain :
    ((busyChain 0 1 2).filter Activity.isDelivery).length ≤ 3 * 2 := by
  have hrun : Runs.Run Activity.apply Activity.Allowed (chain 3 (numbered 3)) (busyChain 0 1 2)
      ((busyChain 0 1 2).foldl Activity.apply (chain 3 (numbered 3))) :=
    Runs.Run.of_replays (by decide)
  exact (traffic_runs_dry (chain_handshakenTree 2 (numbered 3)) (by decide) (by decide)
    (by decide) (by decide) hrun).1

end FruityMesh.Mesh
