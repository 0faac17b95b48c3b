import FruityMesh.Library.Ports
import FruityMesh.Mesh.Node

/-!
# A mesh of nodes

Nodes that are linked connection to connection, and what is on its way between them.  One
end of a link is an outgoing connection of the central, the other the incoming connection
of the peripheral.

An event is one call of a handler at one node, or something that happens to a link.  A
packet that a node queues travels to the other end in the order it was queued in; that
the transport does this is the subject of `Transport.Link`, and `arrive_message` connects
the packet that arrives here with the one there.  No queue refuses a packet.  A link is
lost in one moment, and both ends learn of it later: what the stack of an end had
received by then is still handled, the rest is lost.
-/

namespace FruityMesh.Mesh

open Cells Transport Ports

/-! ## Packets on their way -/

/-- The bytes of the message, and zeros behind them. -/
def memory (message : Message) : ℕ → U8 := fun k => message.bytes.getD k 0

def senderOf (message : Message) : NodeId := senderAt (memory message)

def receiverOf (message : Message) : NodeId := receiverAt (memory message)

def typeOf (message : Message) : MessageType := messageTypeAt (memory message)

/-- The bytes of a packet that arrive as they were queued: not the time in an
UPDATE_TIMESTAMP, which `fillTransmitBuffers` writes when it sends the packet. -/
def transmitted (message : Message) : List U8 :=
  if typeOf message = messageTypeUpdateTimestamp then message.bytes.take 7 else message.bytes

/-- The packet as it arrives, on memory with any contents: the transport sets the bit for
more parts if it has split the packet, and then all parts are sent with write requests. -/
def arrive (message : Message) (memory : ℕ → U8) : ConnectionPacket where
  data := overwrite memory 0
    (firstByte (maxDataSizePerWrite < message.bytes.length) (typeOf message) ::
      (transmitted message).drop 1)
  dataLength := BitVec.ofNat 16 message.bytes.length
  reliable := message.reliable || maxDataSizePerWrite < message.bytes.length

theorem typeOf_eq_packetType (message : Message) : typeOf message = packetType message.bytes := by
  unfold typeOf messageTypeAt memory packetType
  cases message.bytes with
  | nil => rfl
  | cons first rest => rfl

/-- A packet arrives here as the transport delivers it. -/
theorem arrive_message (p : Packet) (behind : ℕ → U8) :
    (arrive ⟨p.bytes, p.reliable⟩ behind).message = p.message := by
  have htype : typeOf ⟨p.bytes, p.reliable⟩ = packetType p.bytes :=
    typeOf_eq_packetType ⟨p.bytes, p.reliable⟩
  have hkept : transmitted ⟨p.bytes, p.reliable⟩ = p.bytes := by
    rw [transmitted, htype, if_neg p.untimed]
  have hlength : (BitVec.ofNat 16 p.bytes.length).toNat =
      (firstByte p.split (packetType p.bytes) :: p.bytes.drop 1).length := by
    have := p.short
    have := p.nonempty
    simp only [BitVec.toNat_ofNat, List.length_cons, List.length_drop]
    omega
  simp only [arrive, ConnectionPacket.message, ConnectionPacket.bytes, Packet.message, htype,
    hkept, hlength]
  congr 1
  exact (holds_overwrite behind 0 _).read_eq

/-! ## What a handler sends and hands over -/

def Action.queued (i : Slot) : Action → Option Message
  | .queuePacket j message => if j = i then some message else none
  | .disconnect _ => none
  | .messageReceived _ => none

def Action.handed : Action → Option Message
  | .queuePacket _ _ => none
  | .disconnect _ => none
  | .messageReceived message => some message

/-- The packets that a handler queues on a connection. -/
def sends (actions : List Action) (i : Slot) : List Message := actions.filterMap (Action.queued i)

/-- The connections that a handler asks the stack to close. -/
def closes (actions : List Action) (i : Slot) : Bool := actions.contains (.disconnect i)

/-- The packets that a handler hands to `Node::messageReceivedCallback`. -/
def handled (actions : List Action) : List Message := actions.filterMap Action.handed

/-! ## The mesh -/

structure Net (V : Type*) where
  node : V → Node
  peer : Links V Slot
  /-- What is on its way to a connection, the next packet first. -/
  inbox : V → Slot → List Message
  /-- The node has asked the stack to close the connection. -/
  closing : V → Slot → Bool
  /-- What has been handed to `Node::messageReceivedCallback`. -/
  received : V → List Message

/-- One thing that happens. -/
inductive Event (V : Type*)
  | establish (central : V) (i : Slot) (peripheral : V) (writeCharacteristicHandle : U16)
  | connected (v : V) (i : Slot)
  | deliver (v : V) (i : Slot) (memory : ℕ → U8)
  | lose (v : V) (i : Slot) (received : ℕ) (receivedThere : ℕ)
  | disconnected (v : V) (i : Slot) (reason : U8) (generated : ClusterId)

namespace Net

variable {V : Type*} [DecidableEq V]

/-- The connection `i` of the node `v`. -/
def connection (net : Net V) (v : V) (i : Slot) : Connection := (net.node v).connections i

/-- The mesh after a handler of `v`. -/
def after (net : Net V) (v : V) (result : Node × List Action) : Net V where
  node := Function.update net.node v result.1
  peer := net.peer
  inbox := post net.peer v (sends result.2) net.inbox
  closing := fun u i => net.closing u i || (u = v && closes result.2 i)
  received := Function.update net.received v (net.received v ++ handled result.2)

@[simp] theorem after_node (net : Net V) (v : V) (result : Node × List Action) :
    (net.after v result).node v = result.1 := Function.update_self ..

theorem after_node_other (net : Net V) {v w : V} (result : Node × List Action) (h : w ≠ v) :
    (net.after v result).node w = net.node w := Function.update_of_ne h ..

@[simp] theorem after_peer (net : Net V) (v : V) (result : Node × List Action) :
    (net.after v result).peer = net.peer := rfl

@[simp] theorem after_inbox (net : Net V) (v : V) (result : Node × List Action) :
    (net.after v result).inbox = post net.peer v (sends result.2) net.inbox := rfl

@[simp] theorem after_received (net : Net V) (v : V) (result : Node × List Action) :
    (net.after v result).received v = net.received v ++ handled result.2 :=
  Function.update_self ..

theorem after_received_other (net : Net V) {v w : V} (result : Node × List Action) (h : w ≠ v) :
    (net.after v result).received w = net.received w := Function.update_of_ne h ..

/-- Replace what is on its way to a connection. -/
def withInbox (net : Net V) (v : V) (i : Slot) (messages : List Message) : Net V :=
  { net with inbox := setInbox net.inbox v i messages }

@[simp] theorem withInbox_inbox (net : Net V) (v : V) (i : Slot) (messages : List Message) :
    (net.withInbox v i messages).inbox = setInbox net.inbox v i messages := rfl

@[simp] theorem withInbox_node (net : Net V) (v : V) (i : Slot) (messages : List Message) :
    (net.withInbox v i messages).node = net.node := rfl

@[simp] theorem withInbox_peer (net : Net V) (v : V) (i : Slot) (messages : List Message) :
    (net.withInbox v i messages).peer = net.peer := rfl

@[simp] theorem withInbox_received (net : Net V) (v : V) (i : Slot) (messages : List Message) :
    (net.withInbox v i messages).received = net.received := rfl

theorem withInbox_self (net : Net V) (v : V) (i : Slot) :
    net.withInbox v i (net.inbox v i) = net := by
  unfold withInbox setInbox
  rw [Function.update_eq_self, Function.update_eq_self]

/-- A request to close a connection is done with. -/
def withoutRequest (net : Net V) (v : V) (i : Slot) : Net V :=
  { net with closing := Function.update net.closing v (Function.update (net.closing v) i false) }

/-- Remove the link at a port, if there is one. -/
def unlink (peer : Links V Slot) (v : V) (i : Slot) : Links V Slot := fun u j =>
  if (u = v ∧ j = i) ∨ peer u j = some (v, i) then none else peer u j

/-- Link the connection `i` of `v` to the incoming connection of `u`. -/
def link (peer : Links V Slot) (v : V) (i : Slot) (u : V) : Links V Slot := fun w j =>
  if w = v ∧ j = i then some (u, inConnection)
  else if w = u ∧ j = inConnection then some (v, i)
  else peer w j

theorem unlink_eq_some {peer : Links V Slot} {v w : V} {i k : Slot} {p : V × Slot} :
    unlink peer v i w k = some p ↔ peer w k = some p ∧ (w, k) ≠ (v, i) ∧ p ≠ (v, i) := by
  unfold unlink
  split_ifs with h
  · constructor
    · exact fun hnone => absurd hnone (by simp)
    · rintro ⟨hpeer, hhere, hthere⟩
      rcases h with ⟨rfl, rfl⟩ | h
      · exact absurd rfl hhere
      · exact absurd (Option.some.inj (hpeer.symm.trans h)) hthere
  · rw [not_or] at h
    constructor
    · intro hpeer
      refine ⟨hpeer, fun heq => h.1 (Prod.mk.inj heq), ?_⟩
      rintro rfl
      exact h.2 hpeer
    · exact fun hpeer => hpeer.1

theorem unlink_eq_none {peer : Links V Slot} {v w : V} {i k : Slot} :
    unlink peer v i w k = none ↔ (w, k) = (v, i) ∨ peer w k = some (v, i) ∨ peer w k = none := by
  unfold unlink
  split_ifs with h
  · refine iff_of_true rfl ?_
    rcases h with ⟨rfl, rfl⟩ | h
    · exact Or.inl rfl
    · exact Or.inr (Or.inl h)
  · rw [not_or] at h
    constructor
    · exact fun hnone => Or.inr (Or.inr hnone)
    · rintro (heq | hpeer | hnone)
      · exact absurd (Prod.mk.inj heq) h.1
      · exact absurd hpeer h.2
      · exact hnone

theorem link_eq_some {peer : Links V Slot} {v u w : V} {i k : Slot} {p : V × Slot} :
    link peer v i u w k = some p ↔
      ((w, k) = (v, i) ∧ p = (u, inConnection)) ∨
        ((w, k) ≠ (v, i) ∧ (w, k) = (u, inConnection) ∧ p = (v, i)) ∨
        ((w, k) ≠ (v, i) ∧ (w, k) ≠ (u, inConnection) ∧ peer w k = some p) := by
  simp only [ne_eq, Prod.mk.injEq]
  unfold link
  split_ifs with hhere hthere
  · simp only [hhere, and_self, true_and, not_true_eq_false, false_and, or_false, Option.some.injEq]
    exact eq_comm
  · constructor
    · exact fun h => Or.inr (Or.inl ⟨hhere, hthere, (Option.some.inj h).symm⟩)
    · rintro (⟨h, _⟩ | ⟨_, _, rfl⟩ | ⟨_, h, _⟩)
      · exact absurd h hhere
      · rfl
      · exact absurd hthere h
  · simp only [hhere, hthere, not_false_eq_true, false_and, and_false, true_and, false_or]

/-! ### A new link between two free connections -/

section Link

variable {peer : Links V Slot} {v u w x y : V} {i k l m : Slot}

omit [DecidableEq V] in
/-- A free connection is not the end of a link. -/
theorem ne_of_linked (htwoWay : ∀ {v i u j}, peer v i = some (u, j) → peer u j = some (v, i))
    (hlink : peer w k = some (x, l)) (hfree : peer y m = none) : (x, l) ≠ (y, m) := by
  intro heq
  have hback := htwoWay hlink
  rw [(Prod.mk.inj heq).1, (Prod.mk.inj heq).2] at hback
  exact absurd (hfree.symm.trans hback) (by simp)

theorem link_twoWay (htwoWay : ∀ {v i u j}, peer v i = some (u, j) → peer u j = some (v, i))
    (hvu : v ≠ u) (hfree : peer v i = none) (hfree' : peer u inConnection = none)
    (hlink : link peer v i u w k = some (x, l)) : link peer v i u x l = some (w, k) := by
  apply link_eq_some.mpr
  rcases link_eq_some.mp hlink with ⟨heq, hx⟩ | ⟨_, heq, hx⟩ | ⟨_, _, hlink⟩
  · rw [hx]
    exact Or.inr (Or.inl ⟨fun hsame => hvu (Prod.mk.inj hsame).1.symm, rfl, heq⟩)
  · exact Or.inl ⟨hx, heq⟩
  · exact Or.inr (Or.inr ⟨ne_of_linked htwoWay hlink hfree, ne_of_linked htwoWay hlink hfree',
      htwoWay hlink⟩)

theorem link_loopless (hloopless : ∀ {v i u j}, peer v i = some (u, j) → v ≠ u) (hvu : v ≠ u)
    (hlink : link peer v i u w k = some (x, l)) : w ≠ x := by
  rcases link_eq_some.mp hlink with ⟨heq, hx⟩ | ⟨_, heq, hx⟩ | ⟨_, _, hlink⟩
  · rw [(Prod.mk.inj heq).1, (Prod.mk.inj hx).1]
    exact hvu
  · rw [(Prod.mk.inj heq).1, (Prod.mk.inj hx).1]
    exact hvu.symm
  · exact hloopless hlink

theorem eq_none_of_link (hlink : link peer v i u w k = none) : peer w k = none := by
  unfold link at hlink
  split_ifs at hlink
  exact hlink

end Link

/-- When a link is lost, each end has received a part of what was on its way. -/
def cut (net : Net V) (v : V) (i : Slot) (received receivedThere : ℕ) :
    V → Slot → List Message := fun u j =>
  if u = v ∧ j = i then (net.inbox u j).take received
  else if net.peer u j = some (v, i) then (net.inbox u j).take receivedThere
  else net.inbox u j

/-- What an event does. -/
def apply (net : Net V) : Event V → Net V
  | .establish v i u handle =>
      { net with
        node := Function.update net.node v ((net.node v).connectAsMaster i handle)
        peer := link net.peer v i u }
  | .connected v i => net.after v ((net.node v).connectionSuccessfulHandler i)
  | .deliver v i memory =>
      match net.inbox v i with
      | [] => net
      | message :: rest =>
          (net.withInbox v i rest).after v
            ((net.node v).receivePacketHandler i (arrive message memory))
  | .lose v i received receivedThere =>
      { net with
        peer := unlink net.peer v i
        inbox := net.cut v i received receivedThere }
  | .disconnected v i reason generated =>
      ((net.withInbox v i []).after v
        ((net.node v).disconnectionHandler i reason generated)).withoutRequest v i

theorem apply_deliver {net : Net V} {v : V} {i : Slot} {message : Message} {rest : List Message}
    (h : net.inbox v i = message :: rest) (memory : ℕ → U8) :
    net.apply (.deliver v i memory) = (net.withInbox v i rest).after v
      ((net.node v).receivePacketHandler i (arrive message memory)) := by
  simp only [apply, h]

theorem apply_disconnected_node (net : Net V) (v : V) (i : Slot) (reason : U8)
    (generated : ClusterId) : (net.apply (.disconnected v i reason generated)).node =
      Function.update net.node v ((net.node v).disconnectionHandler i reason generated).1 := rfl

/-- An event can happen.  A link is established between two connections that are free, and
is lost after both ends have seen it established. -/
def Enabled (net : Net V) : Event V → Prop
  | .establish v i u _ =>
      v ≠ u ∧ i ≠ inConnection ∧ net.peer v i = none ∧ (net.connection v i).isConnected = false ∧
        net.peer u inConnection = none ∧ (net.connection u inConnection).isConnected = false
  | .connected v i => net.peer v i ≠ none ∧ (net.connection v i).isConnected = false
  | .deliver v i _ => (net.connection v i).isConnected = true ∧ net.inbox v i ≠ []
  | .lose v i _ _ =>
      ∃ p, net.peer v i = some p ∧ (net.connection v i).isConnected = true ∧
        (net.connection p.1 p.2).isConnected = true
  | .disconnected v i _ _ => net.peer v i = none ∧ (net.connection v i).isConnected = true

/-- A run in which every event is one of the allowed ones, with its events. -/
inductive Run (allowed : Net V → Event V → Prop) : Net V → List (Event V) → Net V → Prop
  | nil (net : Net V) : Run allowed net [] net
  | step {net middle : Net V} {events : List (Event V)} (h : Run allowed net events middle)
      (event : Event V) (enabled : middle.Enabled event) (ok : allowed middle event) :
      Run allowed net (events ++ [event]) (middle.apply event)

/-- The events can happen one after the other. -/
def Replays (allowed : Net V → Event V → Prop) : Net V → List (Event V) → Prop
  | _, [] => True
  | net, event :: rest => net.Enabled event ∧ allowed net event ∧ Replays allowed (net.apply event) rest

theorem Run.append {allowed : Net V → Event V → Prop} {net middle net' : Net V}
    {first second : List (Event V)} (h : Run allowed net first middle)
    (h' : Run allowed middle second net') : Run allowed net (first ++ second) net' := by
  induction h' with
  | nil => rwa [List.append_nil]
  | step _ event enabled ok ih =>
      rw [← List.append_assoc]
      exact ih.step event enabled ok

theorem Run.of_replays {allowed : Net V → Event V → Prop} {net : Net V} {events : List (Event V)}
    (h : Replays allowed net events) : Run allowed net events (events.foldl apply net) := by
  induction events generalizing net with
  | nil => exact Run.nil net
  | cons event rest ih =>
      obtain ⟨henabled, hallowed, hrest⟩ := h
      exact ((Run.nil net).step event henabled hallowed).append (ih hrest)

/-- What every step preserves holds at the end of a run. -/
theorem Run.preserves {allowed : Net V → Event V → Prop} {I : Net V → Prop}
    (hstep : ∀ net event, I net → net.Enabled event → allowed net event → I (net.apply event))
    {net net' : Net V} {events : List (Event V)} (h : Run allowed net events net')
    (hinv : I net) : I net' := by
  induction h with
  | nil => exact hinv
  | step h event enabled ok ih => exact hstep _ event ih enabled ok

theorem Run.mono {allowed allowed' : Net V → Event V → Prop}
    (hmono : ∀ net event, allowed net event → allowed' net event)
    {net net' : Net V} {events : List (Event V)} (h : Run allowed net events net') :
    Run allowed' net events net' := by
  induction h with
  | nil => exact Run.nil _
  | step h event enabled ok ih => exact ih.step event enabled (hmono _ _ ok)

/-- Nothing is on its way. -/
def Quiet (net : Net V) : Prop := ∀ v i, net.inbox v i = []

/-- Where nothing is on its way, nothing is delivered. -/
theorem Run.eq_of_quiet {allowed : Net V → Event V → Prop}
    (hdelivery : ∀ net event, allowed net event → ∃ v i memory, event = .deliver v i memory)
    {net net' : Net V} {events : List (Event V)} (h : Run allowed net events net')
    (hquiet : net.Quiet) : events = [] ∧ net' = net := by
  induction h with
  | nil => exact ⟨rfl, rfl⟩
  | step _ event henabled hallowed ih =>
      obtain ⟨_, rfl⟩ := ih
      obtain ⟨v, i, memory, rfl⟩ := hdelivery _ _ hallowed
      exact absurd (hquiet v i) henabled.2

/-- Both ends of every lost link know of the loss. -/
def Settled (net : Net V) : Prop :=
  ∀ v i, net.peer v i = none → (net.connection v i).isConnected = false

section Decidable

variable [Fintype V]

instance (net : Net V) (event : Event V) : Decidable (net.Enabled event) := by
  cases event <;> unfold Enabled <;> infer_instance

instance (net : Net V) : Decidable net.Quiet :=
  inferInstanceAs (Decidable (∀ v i, net.inbox v i = []))

instance (net : Net V) : Decidable net.Settled :=
  inferInstanceAs
    (Decidable (∀ v i, net.peer v i = none → (net.connection v i).isConnected = false))

instance decidableReplays {allowed : Net V → Event V → Prop}
    [∀ net event, Decidable (allowed net event)] :
    (net : Net V) → (events : List (Event V)) → Decidable (Replays allowed net events)
  | _, [] => isTrue trivial
  | net, event :: rest =>
      have : Decidable (Replays allowed (net.apply event) rest) := decidableReplays _ rest
      inferInstanceAs (Decidable (_ ∧ _ ∧ _))

end Decidable

end Net

end FruityMesh.Mesh
