import FruityMesh.Library.Flood
import FruityMesh.Mesh.Receive
import FruityMesh.Mesh.Tree

/-!
# Relaying a packet through a tree

A packet that a node originates with `SendMessageToReceiver(NULL, ...)`, and what becomes
of it while the links of a tree deliver.  The mesh floods it in the sense of
`Library.Flood`: a node that is the last receiver stops it, every other node relays it
over its other connections (`Relaying`).

The connections and the id of a node stay as they are meanwhile, since an ordinary packet
changes at most what an UPDATE says about the cluster.  What does change is the sender: a
relay counts down a sender id between 30000 and 61000 (`decremented`), where it should
count down the hops that the receiver stands for.

`flooded_exactly_once`: a broadcast reaches every node once, and a packet for a node
reaches that node only.
-/

namespace FruityMesh.Mesh

open Cells Transport Ports Flood SimpleGraph
open Node (relayed)

variable {V : Type*} [DecidableEq V]

/-- All that happens is that packets are delivered. -/
def Deliveries (_ : Net V) : Event V → Prop
  | .deliver _ _ _ => True
  | _ => False

omit [DecidableEq V] in
theorem deliveries_iff (net : Net V) (event : Event V) (h : Deliveries net event) :
    ∃ v i memory, event = .deliver v i memory := by
  cases event with
  | deliver v i memory => exact ⟨v, i, memory, rfl⟩
  | establish | connected | lose | disconnected => exact h.elim

/-- `SendMessageToReceiver(NULL, ...)` at a node. -/
def Net.originate (net : Net V) (origin : V) (loopback : Option Slot)
    (packet : ConnectionPacket) : Net V :=
  net.after origin ((net.node origin).sendMessageToReceiver none loopback packet)

/-! ## What the packets have in common -/

/-- All packets that are on their way or have been handled are of one kind. -/
structure Carries (kind : Message → Prop) (net : Net V) : Prop where
  inbox : ∀ v i, ∀ message ∈ net.inbox v i, kind message
  received : ∀ v, ∀ message ∈ net.received v, kind message

namespace Carries

variable {kind : Message → Prop} {net : Net V}

omit [DecidableEq V] in
theorem of_quiet (hquiet : net.Quiet) (hunreceived : ∀ v, net.received v = []) :
    Carries kind net where
  inbox := by
    intro v i m hm
    rw [hquiet v i] at hm
    exact absurd hm List.not_mem_nil
  received := by
    intro v m hm
    rw [hunreceived v] at hm
    exact absurd hm List.not_mem_nil

theorem after (h : Carries kind net) (v : V) {result : Node × List Action}
    (hsends : ∀ i, ∀ m ∈ sends result.2 i, kind m) (hhandled : ∀ m ∈ handled result.2, kind m) :
    Carries kind (net.after v result) where
  inbox := by
    intro u j m hm
    rw [Net.after_inbox] at hm
    rcases mem_post hm with hold | ⟨i, hnew⟩
    · exact h.inbox u j m hold
    · exact hsends i m hnew
  received := by
    intro u m hm
    by_cases hu : u = v
    · subst hu
      rw [Net.after_received] at hm
      rcases List.mem_append.mp hm with hold | hnew
      · exact h.received u m hold
      · exact hhandled m hnew
    · rw [Net.after_received_other _ _ hu] at hm
      exact h.received u m hm

/-- The next packet is taken from the way. -/
theorem withInbox (h : Carries kind net) {v : V} {i : Slot} {message : Message}
    {rest : List Message} (hinbox : net.inbox v i = message :: rest) :
    Carries kind (net.withInbox v i rest) where
  inbox := by
    intro u j m hm
    rcases mem_setInbox hm with hold | hrest
    · exact h.inbox u j m hold
    · exact h.inbox v i m (by rw [hinbox]; exact List.mem_cons_of_mem _ hrest)
  received := h.received

end Carries

/-! ## One node -/

theorem SameLinks.trans {node node' node'' : Node} (h : SameLinks node node')
    (h' : SameLinks node' node'') : SameLinks node node'' where
  nodeId := h'.nodeId.trans h.nodeId
  deviceType := h'.deviceType.trans h.deviceType
  isConnected := fun i => (h'.isConnected i).trans (h.isConnected i)
  handshakeDone := fun i => (h'.handshakeDone i).trans (h.handshakeDone i)

theorem SameLinks.lastReceiver {node node' : Node} (h : SameLinks node node') (receiver : NodeId) :
    node'.lastReceiver receiver = node.lastReceiver receiver := by
  unfold Node.lastReceiver
  rw [h.nodeId, h.deviceType]

theorem SameLinks.caresFor {node node' : Node} (h : SameLinks node node') (receiver : NodeId) :
    node'.caresFor receiver = node.caresFor receiver := by
  unfold Node.caresFor
  rw [h.nodeId, h.deviceType]

namespace Node

variable (node : Node) {packet : ConnectionPacket} {loopback : Option Slot}

/-- The origin handles the packet itself. -/
def toUs (receiver : NodeId) : Bool := receiver = node.nodeId ∨ receiver = nodeIdBroadcast

theorem sameLinks_sendMessageToReceiver :
    SameLinks node (node.sendMessageToReceiver none loopback packet).1 := by
  have hcallback := node.sameLinks_messageReceivedCallback loopback packet.data packet.dataLength
  unfold sendMessageToReceiver
  dsimp only
  split_ifs <;> first | exact hcallback | exact SameLinks.refl node

theorem handled_sendMessageToReceiver
    (hsink : receiverAt packet.data ≠ nodeIdShortestSink) :
    handled (node.sendMessageToReceiver none loopback packet).2 =
      if node.toUs (receiverAt packet.data) then [packet.message] else [] := by
  unfold sendMessageToReceiver toUs
  simp only [true_and, if_neg hsink]
  split_ifs <;> simp

theorem sends_sendMessageToReceiver
    (hsink : receiverAt packet.data ≠ nodeIdShortestSink) (i : Slot) :
    sends (node.sendMessageToReceiver none loopback packet).2 i =
      if receiverAt packet.data ≠ node.nodeId ∧ (node.connections i).handshakeDone then
        [packet.message]
      else [] := by
  have hdone := (node.sameLinks_messageReceivedCallback loopback packet.data
    packet.dataLength).handshakeDone i
  unfold sendMessageToReceiver
  simp only [true_and, if_neg hsink]
  split_ifs <;>
    simp_all [sends_sendMessageOverConnections]

theorem sends_receive_ordinary {i : Slot} (htype : Ordinary (messageTypeAt packet.data))
    (hsink : receiverAt packet.data ≠ nodeIdShortestSink) (k : Slot) :
    sends (node.receivePacketHandler i packet).2 k =
      if node.lastReceiver (receiverAt packet.data) then []
      else if k ≠ i ∧ (node.connections k).handshakeDone then
        [⟨read (relayed packet.data) 0 packet.dataLength.toNat, packet.reliable⟩]
      else [] := by
  rw [node.receive_ordinary htype hsink]
  simp only [sends_append]
  split_ifs <;> simp_all [sends_sendMessageOverConnections]

theorem handled_receive_ordinary {i : Slot} (htype : Ordinary (messageTypeAt packet.data))
    (hsink : receiverAt packet.data ≠ nodeIdShortestSink) :
    handled (node.receivePacketHandler i packet).2 =
      if node.caresFor (receiverAt packet.data) then
        [⟨read (if node.lastReceiver (receiverAt packet.data) then packet.data
            else relayed packet.data) 0 packet.dataLength.toNat, packet.reliable⟩]
      else [] := by
  rw [node.receive_ordinary htype hsink]
  simp only [handled_append]
  split_ifs <;> simp_all

theorem sameLinks_receive_ordinary {i : Slot} (htype : Ordinary (messageTypeAt packet.data))
    (hsink : receiverAt packet.data ≠ nodeIdShortestSink) :
    SameLinks node (node.receivePacketHandler i packet).1 := by
  rw [node.receive_ordinary htype hsink]
  simp only
  split_ifs
  · exact node.sameLinks_messageReceivedCallback _ _ _
  · exact node.sameLinks_messageReceivedCallback _ _ _
  · exact SameLinks.refl node

end Node

/-! ## The flood -/

/-- The node does not relay the packet. -/
abbrev Stops (start : Net V) (packet : ConnectionPacket) (v : V) : Prop :=
  (start.node v).lastReceiver (receiverAt packet.data) = true

/-- What arrives of the packet at a distance from the origin. -/
structure Copy (packet : ConnectionPacket) (distance : ℕ) (message : Message) : Prop where
  type : typeOf message = messageTypeAt packet.data
  receiver : receiverOf message = receiverAt packet.data
  sender : senderOf message = decremented^[distance - 1] (senderAt packet.data)
  long : 6 ≤ message.bytes.length
  short : message.bytes.length < 2 ^ 16

/-- A packet that is sent on as it is read from memory. -/
theorem Copy.of_read {packet : ConnectionPacket} {distance length : ℕ} {reliable : Bool}
    {data : ℕ → U8} (htype : messageTypeAt data = messageTypeAt packet.data)
    (hreceiver : receiverAt data = receiverAt packet.data)
    (hsender : senderAt data = decremented^[distance - 1] (senderAt packet.data))
    (hlong : 6 ≤ length) (hshort : length < 2 ^ 16) :
    Copy packet distance ⟨read data 0 length, reliable⟩ where
  type := (typeOf_read (by omega)).trans htype
  receiver := (receiverOf_read (by omega)).trans hreceiver
  sender := (senderOf_read (by omega)).trans hsender
  long := hlong.trans_eq (length_read _ _ _).symm
  short := (length_read _ _ _).trans_lt hshort

/-- A copy arrives as it was sent. -/
theorem Copy.arrive {packet : ConnectionPacket} {distance : ℕ} {message : Message}
    (h : Copy packet distance message) (behind : ℕ → U8) :
    messageTypeAt (arrive message behind).data = messageTypeAt packet.data ∧
      receiverAt (arrive message behind).data = receiverAt packet.data ∧
      senderAt (arrive message behind).data = decremented^[distance - 1] (senderAt packet.data) ∧
      (arrive message behind).dataLength.toNat = message.bytes.length ∧
      Copy packet distance ⟨read (arrive message behind).data 0
        (arrive message behind).dataLength.toNat, (arrive message behind).reliable⟩ := by
  have hlong := h.long
  have htype : messageTypeAt (Mesh.arrive message behind).data = messageTypeAt packet.data :=
    type_arrive.trans h.type
  have hreceiver : receiverAt (Mesh.arrive message behind).data = receiverAt packet.data :=
    (receiver_arrive (by omega)).trans h.receiver
  have hsender : senderAt (Mesh.arrive message behind).data = _ :=
    (sender_arrive (by omega)).trans h.sender
  have hlength : (Mesh.arrive message behind).dataLength.toNat = message.bytes.length :=
    arrive_dataLength h.short
  exact ⟨htype, hreceiver, hsender, hlength,
    .of_read htype hreceiver hsender (hlength ▸ hlong) (Mesh.arrive message behind).dataLength.isLt⟩

/-- What is relayed of it has passed one more relay. -/
theorem Copy.relayed {packet : ConnectionPacket} {distance : ℕ} {message : Message}
    (h : Copy packet distance message) (hpos : 0 < distance) (behind : ℕ → U8) :
    Copy packet (distance + 1) ⟨read (relayed (Mesh.arrive message behind).data) 0
      (Mesh.arrive message behind).dataLength.toNat, (Mesh.arrive message behind).reliable⟩ := by
  obtain ⟨htype, hreceiver, hsender, hlength, -⟩ := h.arrive behind
  apply Copy.of_read
  · rw [type_relayed, htype]
  · rw [receiver_relayed, hreceiver]
  · rw [sender_relayed, hsender, ← Function.iterate_succ_apply' decremented,
      Nat.succ_eq_add_one, Nat.sub_add_cancel hpos, Nat.add_sub_cancel]
  · rw [hlength]
    exact h.long
  · exact (Mesh.arrive message behind).dataLength.isLt

/-- The relays that a copy has passed when the node at the distance handles it: a last
receiver does not relay it first. -/
noncomputable def relays (start : Net V) (packet : ConnectionPacket) (origin v : V) : ℕ :=
  open Classical in
  if Stops start packet v then (graph start.peer).dist origin v - 1
  else (graph start.peer).dist origin v

/-- The state of the mesh while the packet is flooded. -/
structure Relaying (start : Net V) (origin : V) (loopback : Option Slot)
    (packet : ConnectionPacket) (seen : V → ℕ) (net : Net V) : Prop where
  peer : net.peer = start.peer
  links : ∀ v, SameLinks (start.node v) (net.node v)
  flooding : Flooding start.peer origin (Stops start packet) (Copy packet) seen net.inbox
  unlinked : ∀ v i, start.peer v i = none → net.inbox v i = []
  received : ∀ v, ∃ copies,
    net.received v = (start.originate origin loopback packet).received v ++ copies ∧
      copies.length =
        (if (start.node v).caresFor (receiverAt packet.data) then seen v else 0) ∧
      ∀ message ∈ copies,
        senderOf message = decremented^[relays start packet origin v] (senderAt packet.data)

/-- What is originated: an ordinary packet with a header, in a tree in which nothing is on
its way, by a node that is not the receiver itself. -/
structure Originates (start : Net V) (packet : ConnectionPacket) : Prop where
  tree : HandshakenTree start
  quiet : start.Quiet
  unreceived : ∀ v, start.received v = []
  type : Ordinary (messageTypeAt packet.data)
  receiver : receiverAt packet.data ≠ nodeIdShortestSink
  header : sizeofConnPacketHeader ≤ packet.dataLength.toNat

namespace Originates

variable {start net : Net V} {origin : V} {loopback : Option Slot} {packet : ConnectionPacket}
  {seen : V → ℕ}

omit [DecidableEq V] in
theorem copy_message (h : Originates start packet) : Copy packet 1 packet.message :=
  Copy.of_read rfl rfl rfl h.header packet.dataLength.isLt

theorem sameLinks_originate (start : Net V) (v : V) :
    SameLinks (start.node v) ((start.originate origin loopback packet).node v) := by
  unfold Net.originate
  by_cases hv : v = origin
  · subst hv
    rw [Net.after_node]
    exact (start.node v).sameLinks_sendMessageToReceiver
  · rw [Net.after_node_other _ _ hv]
    exact SameLinks.refl _

/-- The state after the node has originated the packet. -/
theorem relaying_start (h : Originates start packet)
    (hne : receiverAt packet.data ≠ (start.node origin).nodeId) :
    Relaying start origin loopback packet (fun _ => 0)
      (start.originate origin loopback packet) where
  peer := rfl
  links := sameLinks_originate start
  flooding := by
    apply Flooding.start h.tree.wired h.quiet
    · intro i hi
      have hdone : ((start.node origin).connections i).handshakeDone = true :=
        h.tree.handshakeDone origin i hi
      rw [Node.sends_sendMessageToReceiver _ h.receiver, if_pos ⟨hne, hdone⟩]
      rfl
    · intro i message hmessage
      rw [Node.sends_sendMessageToReceiver _ h.receiver] at hmessage
      split_ifs at hmessage
      · rw [List.mem_singleton.mp hmessage]
        exact h.copy_message
      · exact absurd hmessage List.not_mem_nil
  unlinked := by
    intro v i hnone
    exact (post_of_none hnone).trans (h.quiet v i)
  received := by
    intro v
    refine ⟨[], (List.append_nil _).symm, ?_, ?_⟩
    · rw [ite_self]
      rfl
    · intro message hmessage
      exact absurd hmessage List.not_mem_nil

/-- A copy is delivered. -/
theorem relaying_deliver (h : Originates start packet)
    (hr : Relaying start origin loopback packet seen net) {v : V} {i : Slot} {behind : ℕ → U8}
    (henabled : net.Enabled (.deliver v i behind)) :
    Relaying start origin loopback packet (Function.update seen v (seen v + 1))
      (net.apply (.deliver v i behind)) := by
  obtain ⟨_, hne⟩ := henabled
  obtain ⟨message, rest, hinbox⟩ := List.exists_cons_of_ne_nil hne
  obtain ⟨⟨u, j⟩, hpeer⟩ := Option.ne_none_iff_exists'.mp fun hnone => hne (hr.unlinked v i hnone)
  have hcopy := hr.flooding.copies (by rw [hinbox]; exact List.mem_cons_self)
  have hlong := hcopy.long
  -- in a tree a copy only comes from the side of the origin
  have hdist : (graph start.peer).dist origin v = (graph start.peer).dist origin u + 1 :=
    hr.flooding.from_root h.tree.wired h.tree.tree hpeer hne
  obtain ⟨htype, hreceiver, hsender, hlength, -⟩ := hcopy.arrive behind
  have hrelayed := hcopy.relayed (by omega) behind
  rw [Net.apply_deliver hinbox]
  set arrived := arrive message behind with harrived
  have hordinary : Ordinary (messageTypeAt arrived.data) := htype ▸ h.type
  have hsink : receiverAt arrived.data ≠ nodeIdShortestSink := hreceiver ▸ h.receiver
  have hlast : (net.node v).lastReceiver (receiverAt arrived.data) =
      (start.node v).lastReceiver (receiverAt packet.data) := by
    rw [(hr.links v).lastReceiver, hreceiver]
  have hcares : (net.node v).caresFor (receiverAt arrived.data) =
      (start.node v).caresFor (receiverAt packet.data) := by
    rw [(hr.links v).caresFor, hreceiver]
  constructor
  case peer => exact hr.peer
  case links =>
    intro w
    by_cases hw : w = v
    · subst hw
      rw [Net.after_node]
      exact (hr.links w).trans (Node.sameLinks_receive_ordinary _ hordinary hsink)
    · rw [Net.after_node_other _ _ hw]
      exact hr.links w
  case flooding =>
    rw [Net.after_inbox, Net.withInbox_inbox, Net.withInbox_peer, hr.peer]
    apply hr.flooding.receive h.tree.wired h.tree.tree hpeer hinbox
    · -- nothing goes back where the copy came from
      have hnot : ¬ (i ≠ i ∧ ((net.node v).connections i).handshakeDone = true) :=
        fun hk => hk.1 rfl
      rw [Node.sends_receive_ordinary _ hordinary hsink, if_neg hnot, ite_self]
    · -- a relay sends a copy over every other link
      intro k hk hstop hlinked
      have hdone : ((net.node v).connections k).handshakeDone = true :=
        ((hr.links v).handshakeDone k).trans (h.tree.handshakeDone v k hlinked)
      rw [Node.sends_receive_ordinary _ hordinary hsink, hlast, if_neg hstop, if_pos ⟨hk, hdone⟩]
      rfl
    · intro k hstop
      rw [Node.sends_receive_ordinary _ hordinary hsink, hlast, if_pos hstop]
    · intro k message' hmessage'
      rw [Node.sends_receive_ordinary _ hordinary hsink] at hmessage'
      split_ifs at hmessage'
      · exact absurd hmessage' List.not_mem_nil
      · rw [List.mem_singleton.mp hmessage']
        exact hrelayed
      · exact absurd hmessage' List.not_mem_nil
  case unlinked =>
    intro w k hnone
    have hpeer' : (net.withInbox v i rest).peer w k = none := hr.peer ▸ hnone
    rw [Net.after_inbox, post_of_none hpeer', Net.withInbox_inbox]
    by_cases hw : w = v
    · subst hw
      have hk : k ≠ i := by
        rintro rfl
        rw [hpeer] at hnone
        exact absurd hnone (by simp)
      rw [setInbox_port _ hk]
      exact hr.unlinked w k hnone
    · rw [setInbox_node _ hw]
      exact hr.unlinked w k hnone
  case received =>
    intro w
    obtain ⟨copies, hcopies, hcount, hsenders⟩ := hr.received w
    by_cases hw : w = v
    · subst hw
      rw [Net.after_received, Node.handled_receive_ordinary _ hordinary hsink, hcares, hlast,
        Net.withInbox_received, hcopies, List.append_assoc]
      refine ⟨_, rfl, ?_, ?_⟩
      · rw [List.length_append, hcount, Function.update_self]
        split_ifs <;> simp
      · intro message' hmessage'
        rcases List.mem_append.mp hmessage' with hold | hnew
        · exact hsenders message' hold
        · -- a last receiver handles what has arrived, the others what they relay
          split_ifs at hnew with hc hs
          · rw [List.mem_singleton.mp hnew, senderOf_read (by omega), hsender, relays,
              if_pos hs]
          · rw [List.mem_singleton.mp hnew, hrelayed.sender, relays, if_neg hs]
            rfl
          · exact absurd hnew List.not_mem_nil
    · rw [Net.after_received_other _ _ hw, Function.update_of_ne hw]
      exact ⟨copies, hcopies, hcount, hsenders⟩

/-- Every state of a run is a state of the flood, and each delivery is one that a node has
seen. -/
theorem relaying_run [Fintype V] (h : Originates start packet)
    (hne : receiverAt packet.data ≠ (start.node origin).nodeId) {events : List (Event V)}
    (hrun : Net.Run Deliveries (start.originate origin loopback packet) events net) :
    ∃ seen, Relaying start origin loopback packet seen net ∧ ∑ v, seen v = events.length := by
  induction hrun with
  | nil => exact ⟨_, h.relaying_start hne, by simp⟩
  | step _ event henabled hdelivery ih =>
      obtain ⟨seen, hr, hsum⟩ := ih
      cases event with
      | deliver v i behind =>
          refine ⟨_, h.relaying_deliver hr henabled, ?_⟩
          rw [Finset.sum_update_of_mem (Finset.mem_univ v), List.length_append,
            List.length_singleton, ← hsum, ← Finset.add_sum_erase _ seen (Finset.mem_univ v),
            Finset.sdiff_singleton_eq_erase]
          omega
      | establish | connected | lose | disconnected => exact hdelivery.elim

/-- What is on its way can be delivered. -/
theorem exists_delivery (h : Originates start packet)
    (hr : Relaying start origin loopback packet seen net) (hquiet : ¬ net.Quiet) :
    ∃ v i, net.Enabled (.deliver v i fun _ => 0) := by
  unfold Net.Quiet at hquiet
  push Not at hquiet
  obtain ⟨v, i, hne⟩ := hquiet
  have hpeer : start.peer v i ≠ none := fun hnone => hne (hr.unlinked v i hnone)
  exact ⟨v, i, ((hr.links v).isConnected i).trans (h.tree.isConnected v i hpeer), hne⟩

/-- There are fewer deliveries than nodes. -/
theorem length_lt [Fintype V] (h : Originates start packet)
    (hne : receiverAt packet.data ≠ (start.node origin).nodeId) {events : List (Event V)}
    (hrun : Net.Run Deliveries (start.originate origin loopback packet) events net) :
    events.length < Fintype.card V := by
  obtain ⟨seen, hr, hsum⟩ := h.relaying_run hne hrun
  rw [← hsum]
  exact hr.flooding.sum_seen_lt h.tree.wired h.tree.tree

/-- Every run can go on until nothing is on its way. -/
theorem exists_quiet [Fintype V] (h : Originates start packet)
    (hne : receiverAt packet.data ≠ (start.node origin).nodeId) {events : List (Event V)}
    (hrun : Net.Run Deliveries (start.originate origin loopback packet) events net) :
    ∃ more net', Net.Run Deliveries (start.originate origin loopback packet) (events ++ more) net' ∧
      net'.Quiet := by
  induction hleft : Fintype.card V - events.length generalizing events net with
  | zero =>
      have := h.length_lt hne hrun
      omega
  | succ left ih =>
      by_cases hquiet : net.Quiet
      · exact ⟨[], net, by rwa [List.append_nil], hquiet⟩
      · obtain ⟨seen, hr, _⟩ := h.relaying_run hne hrun
        obtain ⟨v, i, henabled⟩ := h.exists_delivery hr hquiet
        obtain ⟨more, net', hrun', hquiet'⟩ := ih (hrun.step _ henabled trivial) (by
          rw [List.length_append, List.length_singleton]
          omega)
        rw [List.append_assoc] at hrun'
        exact ⟨_, net', hrun', hquiet'⟩

/-- A packet for the origin itself is not sent at all. -/
theorem quiet_of_own (h : Originates start packet)
    (heq : receiverAt packet.data = (start.node origin).nodeId) :
    (start.originate origin loopback packet).Quiet := by
  intro v i
  unfold Net.originate
  rw [Net.after_inbox]
  cases hpeer : start.peer v i with
  | none => rw [post_of_none hpeer, h.quiet v i]
  | some p =>
      obtain ⟨u, j⟩ := p
      by_cases hu : u = origin
      · subst hu
        have hnot : ¬ (receiverAt packet.data ≠ (start.node u).nodeId ∧
            ((start.node u).connections j).handshakeDone = true) := fun hk => hk.1 heq
        rw [post_of_peer hpeer, Node.sends_sendMessageToReceiver _ h.receiver, h.quiet v i,
          if_neg hnot]
        rfl
      · rw [post_of_ne hpeer hu, h.quiet v i]

omit [DecidableEq V] in
theorem received_start [DecidableEq V] (h : Originates start packet) (v : V) :
    (start.originate origin loopback packet).received v =
      if v = origin ∧ (start.node v).toUs (receiverAt packet.data) then [packet.message] else [] := by
  unfold Net.originate
  by_cases hv : v = origin
  · subst hv
    rw [Net.after_received, Node.handled_sendMessageToReceiver _ h.receiver, h.unreceived v,
      List.nil_append]
    simp
  · rw [Net.after_received_other _ _ hv, h.unreceived v, if_neg (fun hk => hv hk.1)]

/-- How often a node has handled the packet when nothing is on its way any more. -/
theorem received_length [Fintype V] (h : Originates start packet)
    (hne : receiverAt packet.data ≠ (start.node origin).nodeId) {events : List (Event V)}
    (hrun : Net.Run Deliveries (start.originate origin loopback packet) events net)
    (hquiet : net.Quiet) (v : V) :
    (net.received v).length =
      if v = origin then
        if (start.node v).toUs (receiverAt packet.data) then 1 else 0
      else
        open Classical in
        if (start.node v).caresFor (receiverAt packet.data) ∧
          Open (graph start.peer) origin (Stops start packet) v then 1 else 0 := by
  obtain ⟨seen, hr, _⟩ := h.relaying_run hne hrun
  obtain ⟨copies, hcopies, hcount, _⟩ := hr.received v
  have hseen := hr.flooding.seen_eq_one_iff h.tree.wired h.tree.tree hquiet v
  have hle := hr.flooding.seen_le_one h.tree.wired h.tree.tree v
  rw [hcopies, h.received_start, List.length_append, hcount]
  by_cases hv : v = origin
  · subst hv
    rw [hr.flooding.root_seen, ite_self, add_zero]
    split_ifs <;> simp_all
  · have hnot : ¬ (v = origin ∧ (start.node v).toUs (receiverAt packet.data) = true) :=
      fun hk => hv hk.1
    rw [if_neg hnot, if_neg hv, List.length_nil, Nat.zero_add]
    by_cases hopen : Open (graph start.peer) origin (Stops start packet) v
    · have hone : seen v = 1 := hseen.mpr ⟨hv, hopen⟩
      simp only [hone, hopen, and_true]
    · have hzero : seen v = 0 := by
        have : seen v ≠ 1 := fun hone => hopen (hseen.mp hone).2
        omega
      simp [hzero, hopen]

/-- Whoever the packet is for, the links run empty. -/
theorem terminates [Fintype V] (h : Originates start packet) {events : List (Event V)}
    (hrun : Net.Run Deliveries (start.originate origin loopback packet) events net) :
    events.length < Fintype.card V ∧ ∃ more net',
      Net.Run Deliveries (start.originate origin loopback packet) (events ++ more) net' ∧
        net'.Quiet := by
  by_cases hown : receiverAt packet.data = (start.node origin).nodeId
  · obtain ⟨rfl, rfl⟩ := hrun.eq_of_quiet deliveries_iff (h.quiet_of_own hown)
    exact ⟨Fintype.card_pos_iff.mpr ⟨origin⟩, [], _, hrun, h.quiet_of_own hown⟩
  · exact ⟨h.length_lt hown hrun, h.exists_quiet hown hrun⟩

/-- Whoever the packet is for, no node changes its id or its links. -/
theorem sameLinks_run [Fintype V] (h : Originates start packet) {events : List (Event V)}
    (hrun : Net.Run Deliveries (start.originate origin loopback packet) events net) (v : V) :
    SameLinks (start.node v) (net.node v) := by
  by_cases hown : receiverAt packet.data = (start.node origin).nodeId
  · obtain ⟨_, rfl⟩ := hrun.eq_of_quiet deliveries_iff (h.quiet_of_own hown)
    exact sameLinks_originate start v
  · obtain ⟨seen, hr, _⟩ := h.relaying_run hown hrun
    exact hr.links v

/-- A packet for the origin itself is handled there, and nowhere else. -/
theorem received_own (h : Originates start packet)
    (hown : receiverAt packet.data = (start.node origin).nodeId) {events : List (Event V)}
    (hrun : Net.Run Deliveries (start.originate origin loopback packet) events net) (v : V) :
    net.received v = if v = origin then [packet.message] else [] := by
  obtain ⟨rfl, rfl⟩ := hrun.eq_of_quiet deliveries_iff (h.quiet_of_own hown)
  rw [h.received_start]
  by_cases hv : v = origin
  · subst hv
    simp [Node.toUs, hown]
  · simp [hv]

end Originates

/-! ## Broadcasts, and packets for one node -/

namespace Node

variable (node : Node) {receiver : NodeId}

theorem lastReceiver_of_device (h : receiver.toNat ≤ 19999) :
    node.lastReceiver receiver = decide (receiver = node.nodeId) := by
  have hhops : receiver ≠ nodeIdHopsBase + 1 := by
    rintro rfl
    exact absurd h (by decide)
  have hsink : receiver ≠ nodeIdShortestSink := by
    rintro rfl
    exact absurd h (by decide)
  simp only [lastReceiver, hhops, hsink, false_and, or_false]

theorem caresFor_of_device (h : receiver.toNat ≤ 19999) (hbroadcast : receiver ≠ nodeIdBroadcast) :
    node.caresFor receiver = decide (receiver = node.nodeId) := by
  have hhops : ¬ nodeIdHopsBase.toNat ≤ receiver.toNat := by
    have : nodeIdHopsBase.toNat = 30000 := rfl
    omega
  have hsink : receiver ≠ nodeIdShortestSink := by
    rintro rfl
    exact absurd h (by decide)
  simp [caresFor, hhops, hsink, hbroadcast]

end Node

omit [DecidableEq V] in
/-- The id of a device is not the one for broadcasts. -/
theorem not_broadcast {start : Net V}
    (hids : ∀ v, 1 ≤ (start.node v).nodeId.toNat ∧ (start.node v).nodeId.toNat ≤ 19999) (v : V) :
    nodeIdBroadcast ≠ (start.node v).nodeId := by
  intro hv
  have := (hids v).1
  rw [← hv] at this
  exact absurd this (by decide)

theorem ne_shortestSink {receiver : NodeId} (h : receiver.toNat ≤ 19999) :
    receiver ≠ nodeIdShortestSink := by
  rintro rfl
  exact absurd h (by decide)

/-- A packet for one node is handled once by that node, and by no other node. -/
theorem Originates.received_addressed [Fintype V] {start net : Net V} {origin x : V}
    {loopback : Option Slot} {packet : ConnectionPacket} {events : List (Event V)}
    (h : Originates start packet)
    (hids : ∀ v, 1 ≤ (start.node v).nodeId.toNat ∧ (start.node v).nodeId.toNat ≤ 19999)
    (hdistinct : ∀ v u, (start.node v).nodeId = (start.node u).nodeId → v = u)
    (hx : receiverAt packet.data = (start.node x).nodeId)
    (hrun : Net.Run Deliveries (start.originate origin loopback packet) events net)
    (hend : net.Quiet) (v : V) : (net.received v).length = if v = x then 1 else 0 := by
  have hdevice : (receiverAt packet.data).toNat ≤ 19999 := hx ▸ (hids x).2
  by_cases hown : x = origin
  · subst hown
    rw [h.received_own hx hrun]
    split_ifs <;> rfl
  · have hne : receiverAt packet.data ≠ (start.node origin).nodeId :=
      fun heq => hown (hdistinct x origin (hx.symm.trans heq))
    have hbroadcast : receiverAt packet.data ≠ nodeIdBroadcast :=
      fun heq => not_broadcast hids x (heq.symm.trans hx)
    have hcares : (start.node v).caresFor (receiverAt packet.data) = decide (v = x) := by
      rw [Node.caresFor_of_device _ hdevice hbroadcast, hx]
      exact decide_eq_decide.mpr ⟨fun heq => (hdistinct x v heq).symm, fun heq => by rw [heq]⟩
    rw [h.received_length hne hrun hend, hcares]
    by_cases hv : v = x
    · subst hv
      have hopen : Open (graph start.peer) origin (Stops start packet) v := by
        rintro w ⟨_, hwv, _⟩ hstops
        rw [Stops, Node.lastReceiver_of_device _ hdevice, hx, decide_eq_true_eq] at hstops
        exact hwv (hdistinct v w hstops).symm
      rw [if_neg hown, if_pos ⟨decide_eq_true rfl, hopen⟩, if_pos rfl]
    · have hus : (start.node origin).toUs (receiverAt packet.data) = false := by
        simp [Node.toUs, hne, hbroadcast]
      by_cases hvo : v = origin
      · subst hvo
        rw [if_pos rfl, hus, if_neg hv]
        rfl
      · rw [if_neg hvo, if_neg (fun hk => hv (of_decide_eq_true hk.1)), if_neg hv]

/-- **Flooding a tree.**  A packet that a node originates in a tree of handshaken links is
handled once by every node if it is a broadcast, and once by the node it is for and by no
other node otherwise; and after fewer deliveries than there are nodes nothing is on its
way any more. -/
theorem flooded_exactly_once [Fintype V] {start net : Net V} {origin : V}
    {loopback : Option Slot} {packet : ConnectionPacket} {events : List (Event V)}
    (htree : HandshakenTree start) (hquiet : start.Quiet) (hunreceived : ∀ v, start.received v = [])
    (hids : ∀ v, 1 ≤ (start.node v).nodeId.toNat ∧ (start.node v).nodeId.toNat ≤ 19999)
    (hdistinct : ∀ v u, (start.node v).nodeId = (start.node u).nodeId → v = u)
    (htype : Ordinary (messageTypeAt packet.data))
    (hheader : sizeofConnPacketHeader ≤ packet.dataLength.toNat)
    (hreceiver : receiverAt packet.data = nodeIdBroadcast ∨
      ∃ x, receiverAt packet.data = (start.node x).nodeId)
    (hrun : Net.Run Deliveries (start.originate origin loopback packet) events net) :
    (net.Quiet → receiverAt packet.data = nodeIdBroadcast →
      ∀ v, (net.received v).length = 1) ∧
    (net.Quiet → ∀ x, receiverAt packet.data = (start.node x).nodeId →
      ∀ v, (net.received v).length = if v = x then 1 else 0) ∧
    events.length < Fintype.card V ∧
    ∃ more net', Net.Run Deliveries (start.originate origin loopback packet) (events ++ more) net' ∧
      net'.Quiet := by
  have hdevice : (receiverAt packet.data).toNat ≤ 19999 := by
    rcases hreceiver with hbroadcast | ⟨x, hx⟩
    · rw [hbroadcast]
      decide
    · rw [hx]
      exact (hids x).2
  have hnobody := not_broadcast hids
  have h : Originates start packet :=
    ⟨htree, hquiet, hunreceived, htype, ne_shortestSink hdevice, hheader⟩
  refine ⟨?_, ?_, h.terminates hrun⟩
  · intro hend hbroadcast v
    rw [h.received_length (hbroadcast ▸ hnobody origin) hrun hend]
    -- nobody stops a broadcast, so it reaches every node
    have hopen : Open (graph start.peer) origin (Stops start packet) v := by
      intro w _ hstops
      rw [Stops, Node.lastReceiver_of_device _ hdevice, hbroadcast, decide_eq_true_eq] at hstops
      exact hnobody w hstops
    have hus : (start.node v).toUs (receiverAt packet.data) = true := by
      simp [Node.toUs, hbroadcast]
    have hcares : (start.node v).caresFor (receiverAt packet.data) = true := by
      simp [Node.caresFor, hbroadcast]
    split_ifs with hv hnone
    · rfl
    · rfl
    · exact absurd ⟨hcares, hopen⟩ hnone
  · exact fun hend x hx => h.received_addressed hids hdistinct hx hrun hend

/-- A packet with a header and zeros behind it. -/
def headerPacket (header : ConnPacketHeader) : ConnectionPacket where
  data := overwrite (fun _ => 0) 0 header.bytes
  dataLength := 8
  reliable := true

instance (net : Net V) (event : Event V) : Decidable (Deliveries net event) :=
  match event with
  | .deliver _ _ _ => isTrue trivial
  | .establish _ _ _ _ => isFalse id
  | .connected _ _ => isFalse id
  | .lose _ _ _ _ => isFalse id
  | .disconnected _ _ _ _ => isFalse id

/-- The node in the middle of a chain of three broadcasts a packet. -/
theorem flooded_exactly_once_chain :
    let packet := headerPacket ⟨false, messageTypeLightToggle, 2, nodeIdBroadcast, 0⟩
    let events : List (Event (Fin 3)) :=
      [.deliver 2 inConnection fun _ => 0, .deliver 0 outConnection fun _ => 0]
    let net := events.foldl Net.apply ((chain 3 (numbered 3)).originate 1 none packet)
    ∀ v, (net.received v).length = 1 := by
  intro packet events net
  have hrun : Net.Run Deliveries ((chain 3 (numbered 3)).originate 1 none packet) events net :=
    Net.Run.of_replays (by decide)
  exact (flooded_exactly_once (chain_handshakenTree 2 (numbered 3)) (by decide) (by decide)
    (by decide) (by decide) (by unfold Ordinary; decide) (by decide) (Or.inl (by decide))
    hrun).1 (by decide) (by decide)

end FruityMesh.Mesh
