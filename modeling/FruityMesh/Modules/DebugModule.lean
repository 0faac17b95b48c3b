import FruityMesh.Mesh.Accounting
import FruityMesh.Modules.VotingModule
import FruityMesh.Transport.Room

/-!
# The debug module

In flood mode the timer handler sends packets as long as fewer than six are pending.  The number
of pending packets is a counter of `ConnectionManager`, and in the loop it only changes where
`QueuePacket` finds room in the queue of a connection whose handshake is done: what the stack has
transmitted is taken from it in an event of its own, and no event is handled before the loop ends.

So the loop ends exactly if six packets are pending already or can be (`FloodEnds`).  `enough_iff`
does the counting: a turn takes from the room of the connections what it adds to the pending
packets.
-/

namespace FruityMesh.Modules

open Cells Mesh Runs StateTransition
open Transport hiding Slot
open Node (sizeofConnPacketModule startedNode freeConnection)
open PacketQueue (element)

/-- The configuration of the module and its counters. -/
structure DebugModule where
  moduleId : U16
  moduleActive : U8
  rebootTimeMs : U32
  flood : U8
  packetsOut : U32
  packetsIn : U32
  deriving DecidableEq

/-- The node, as far as the debug module reaches. -/
structure DebugNode where
  node : Node
  manager : Transport.ConnectionManager
  debug : DebugModule

namespace DebugModule

def resetNode : U8 := 0
def resetConnectionLossCounter : U8 := 1
def floodMessage : U8 := 2

/-- The constructor, with `ResetToDefaultConfiguration`. -/
def new (moduleId : U16) : DebugModule where
  moduleId := moduleId
  moduleActive := 1
  rebootTimeMs := 0
  flood := 0
  packetsOut := 0
  packetsIn := 0

/-- The command `action this <module> flood`: off, reliable packets, unreliable ones. -/
def toggleFlood (m : DebugModule) : DebugModule := { m with flood := (m.flood + 1) % 3 }

end DebugModule

namespace DebugNode

open DebugModule

/-- What a call of the timer handler meets, in each turn of its loop. -/
structure Surroundings where
  /-- The time that a timestamp packet gets. -/
  now : ℕ → Slot → U64
  /-- What lies where the packet is built. -/
  stack : ℕ → ConnPacketModule
  /-- The connection with the handle 0. -/
  loopback : Option Slot
  appTimerMs : U32

/-- `ConnectionPacketReceivedEventHandler`, for a packet that is a module action. -/
def connectionPacketReceivedEventHandler (appTimerMs : U32) (data : ℕ → U8) (s : DebugNode) :
    DebugNode :=
  if messageTypeAt data = messageTypeModuleTriggerAction ∧ u16At data 7 = s.debug.moduleId then
    if data 10 = floodMessage then
      { s with debug := { s.debug with packetsIn := s.debug.packetsIn + 1 } }
    else if data 10 = resetNode then
      { s with debug := { s.debug with rebootTimeMs := appTimerMs + 10 * 1000 } }
    else if data 10 = resetConnectionLossCounter then
      { s with node := { s.node with connectionLossCounter := 0 } }
    else s
  else s

/-- What the node does with a packet: it is queued, or handled by the module itself. -/
def perform (appTimerMs : U32) (data : ℕ → U8) (s : DebugNode) : Action → DebugNode
  | .queuePacket i message =>
      { s with
        manager := (s.manager.queuePacket i message.bytes (BitVec.ofNat 16 message.bytes.length)
          message.reliable).1 }
  | .messageReceived _ => connectionPacketReceivedEventHandler appTimerMs data s
  | .disconnect _ => s

/-- The packet of one turn.  The fields that are not set keep what lies on the stack. -/
def floodPacket (s : DebugNode) (stack : ConnPacketModule) : ConnPacketModule :=
  { stack with
    header := { stack.header with
      messageType := messageTypeModuleTriggerAction
      sender := s.node.nodeId
      receiver := nodeIdHopsBase + 2 }
    moduleId := s.debug.moduleId
    actionType := floodMessage
    data := 1 :: stack.data.drop 1 }

/-- The packet, as `SendMessageToReceiver` is called with it. -/
def floodMessagePacket (s : DebugNode) (stack : ConnPacketModule) : ConnectionPacket where
  data := fun k => (s.floodPacket stack).bytes.getD k 0
  dataLength := BitVec.ofNat 16 sizeofConnPacketModule
  reliable := s.debug.flood = 1

/-- One turn of the loop.  A packet that is not for the node itself goes over the connections,
and `SendMessageOverConnections` ends with `fillTransmitBuffers`. -/
def floodOnce (e : Surroundings) (turn : ℕ) (s : DebugNode) : DebugNode :=
  let packet := s.floodMessagePacket (e.stack turn)
  let counted := { s with debug := { s.debug with packetsOut := s.debug.packetsOut + 1 } }
  let handled := s.node.sendMessageToReceiver none e.loopback packet
  let sent := handled.2.foldl (perform e.appTimerMs packet.data) { counted with node := handled.1 }
  if receiverAt packet.data ≠ s.node.nodeId then
    { sent with manager := (sent.manager.fillTransmitBuffers (e.now turn)).1 }
  else sent

/-- `while(cm->pendingPackets < 6)`, with the number of turns. -/
def floodTurn (e : Surroundings) (state : ℕ × DebugNode) : Option (ℕ × DebugNode) :=
  if state.2.manager.pendingPackets < 6 then some (state.1 + 1, floodOnce e state.1 state.2)
  else none

/-- `TimerEventHandler`, with `none` for a reset of the node.  It has no value if its loop does not
end. -/
def timerEventHandler (e : Surroundings) (appTimer : U32) (s : DebugNode) :
    Part (Option DebugNode) :=
  if s.debug.moduleActive = 0 then Part.some (some s)
  else
    (if s.debug.flood ≠ 0 then (eval (floodTurn e) (0, s)).map Prod.snd else Part.some s).map
      fun s =>
        if s.debug.rebootTimeMs ≠ 0 ∧ s.debug.rebootTimeMs < appTimer then none else some s

/-! ## When the loop ends -/

/-- The connections that a packet is sent over. -/
def links (s : DebugNode) : List Slot :=
  (List.finRange meshMaxConnections).filter fun i => (s.node.connections i).handshakeDone

/-- Six packets are pending, or there is room for as many as are missing on the connections that
they go over. -/
def FloodEnds (s : DebugNode) : Prop :=
  6 ≤ s.manager.pendingPackets.toNat ∨
    s.node.nodeId ≠ nodeIdHopsBase + 2 ∧
      6 ≤ s.manager.pendingPackets.toNat +
        (s.links.map fun i => (s.manager.connections i).room sizeofConnPacketModule).sum

instance (s : DebugNode) : Decidable s.FloodEnds := inferInstanceAs (Decidable (_ ∨ _))

/-- What is taken from the room is added to what is pending, unless there is more than enough. -/
theorem enough_iff {ι : Type*} {l : List ι} {goal pending : ℕ} {room room' taken : ι → ℕ}
    (h : ∀ i ∈ l, room' i + taken i = room i ∨ goal ≤ room' i + taken i ∧ goal ≤ room i) :
    goal ≤ pending + (l.map taken).sum + (l.map room').sum ↔ goal ≤ pending + (l.map room).sum := by
  have htotal : (l.map taken).sum + (l.map room').sum = (l.map fun i => room' i + taken i).sum := by
    rw [← List.sum_map_add]
    congr 2
    funext i
    exact Nat.add_comm _ _
  rw [Nat.add_assoc, htotal]
  by_cases hmore : ∃ i ∈ l, goal ≤ room' i + taken i ∧ goal ≤ room i
  · -- one summand is enough on both sides
    obtain ⟨i, hi, hroom', hroom⟩ := hmore
    have hle : room i ≤ (l.map room).sum := List.le_sum_of_mem (List.mem_map_of_mem hi)
    have hle' : room' i + taken i ≤ (l.map fun i => room' i + taken i).sum :=
      List.le_sum_of_mem (List.mem_map_of_mem (f := fun i => room' i + taken i) hi)
    constructor <;> intro _ <;> omega
  · have hsame : (l.map fun i => room' i + taken i) = l.map room := by
      apply List.map_congr_left
      intro i hi
      exact (h i hi).resolve_right fun hboth => hmore ⟨i, hi, hboth⟩
    rw [hsame]

/-! ### The packet -/

section Packet

variable (s : DebugNode) (stack : ConnPacketModule)

theorem received_floodMessagePacket : (s.floodPacket stack).Received
    (s.floodPacket stack).bytes.length (s.floodMessagePacket stack).data := by
  have hdata : (s.floodMessagePacket stack).data =
      memory ((s.floodPacket stack).sent (s.floodPacket stack).bytes.length) := by
    funext k
    rw [memory, ConnPacketModule.sent, List.take_length]
    rfl
  rw [hdata]
  exact ConnPacketModule.received_memory (by rw [ConnPacketModule.length_bytes]; omega)

theorem receiverAt_floodMessagePacket :
    receiverAt (s.floodMessagePacket stack).data = nodeIdHopsBase + 2 :=
  (s.received_floodMessagePacket stack).receiver

theorem messageTypeAt_floodMessagePacket :
    messageTypeAt (s.floodMessagePacket stack).data = messageTypeModuleTriggerAction :=
  (s.received_floodMessagePacket stack).messageType

/-- The packet that is queued. -/
def floodBytes : List U8 := (s.floodMessagePacket stack).message.bytes

theorem length_floodBytes : (s.floodBytes stack).length = 10 := by
  unfold floodBytes ConnectionPacket.message ConnectionPacket.bytes
  rw [length_read]
  rfl

/-- It has room for what is written into it. -/
theorem fits_floodBytes (reliable : Bool) : Fits (element reliable (s.floodBytes stack)) := by
  have htail : (element reliable (s.floodBytes stack)).tail.length = 10 := s.length_floodBytes stack
  refine ⟨by omega, by omega, fun _ htype => ?_⟩
  have htype' : packetType (element reliable (s.floodBytes stack)).tail =
      messageTypeModuleTriggerAction := s.messageTypeAt_floodMessagePacket stack
  rw [htype'] at htype
  exact absurd htype (by decide)

end Packet

/-! ### Sending it -/

section Sending

variable {s : DebugNode}

theorem sendMessageOverConnections_eq (message : Message) :
    s.node.sendMessageOverConnections none message =
      s.links.map fun i => Action.queuePacket i message := by
  unfold Node.sendMessageOverConnections links
  rw [← List.filterMap_eq_map, ← List.filterMap_eq_filter, List.filterMap_filterMap]
  congr 1
  funext i
  cases hdone : (s.node.connections i).handshakeDone <;> simp [Option.guard, hdone]

/-- Queue a message on connections, one after the other. -/
def queueOver (message : Message) (manager : Transport.ConnectionManager) (l : List Slot) :
    Transport.ConnectionManager :=
  l.foldl (fun manager i => (manager.queuePacket i message.bytes
    (BitVec.ofNat 16 message.bytes.length) message.reliable).1) manager

theorem foldl_perform (appTimerMs : U32) (data : ℕ → U8) (message : Message) (l : List Slot)
    (s : DebugNode) :
    (l.map fun i => Action.queuePacket i message).foldl (perform appTimerMs data) s =
      { s with manager := queueOver message s.manager l } := by
  induction l generalizing s with
  | nil => rfl
  | cons i l ih =>
      rw [List.map_cons, List.foldl_cons, ih]
      rfl

theorem queuePacket_spec (manager : Transport.ConnectionManager) (j : Slot) (message : Message) :
    let queued := (manager.queuePacket j message.bytes (BitVec.ofNat 16 message.bytes.length)
      message.reliable).1
    queued.connections = Function.update manager.connections j
        ((manager.connections j).queued message.bytes message.reliable) ∧
      queued.pendingPackets = manager.pendingPackets +
        BitVec.ofNat 16 ((manager.connections j).taken message.bytes message.reliable) := by
  rw [Transport.ConnectionManager.queuePacket_eq]
  refine ⟨rfl, ?_⟩
  dsimp only
  unfold Connection.taken
  cases ((manager.connections j).packetSendQueue.put message.bytes
    (BitVec.ofNat 8 message.bytes.length) message.reliable).2 with
  | false => exact (BitVec.add_zero _).symm
  | true => rfl

/-- Each of the connections has the message once, and the others are left alone. -/
theorem queueOver_spec (message : Message) {l : List Slot} (hl : l.Nodup)
    (manager : Transport.ConnectionManager) :
    (∀ i, (queueOver message manager l).connections i =
      if i ∈ l then (manager.connections i).queued message.bytes message.reliable
      else manager.connections i) ∧
    (queueOver message manager l).pendingPackets = manager.pendingPackets + BitVec.ofNat 16
      (l.map fun i => (manager.connections i).taken message.bytes message.reliable).sum := by
  induction l generalizing manager with
  | nil => exact ⟨fun i => by simp [queueOver], by simp [queueOver]⟩
  | cons j l ih =>
      obtain ⟨hj, hl⟩ := List.nodup_cons.mp hl
      obtain ⟨hconnections, hpending⟩ := queuePacket_spec manager j message
      obtain ⟨ihconnections, ihpending⟩ := ih hl (manager.queuePacket j message.bytes
        (BitVec.ofNat 16 message.bytes.length) message.reliable).1
      rw [hpending] at ihpending
      rw [hconnections] at ihconnections ihpending
      refine ⟨fun i => ?_, ?_⟩
      · refine (ihconnections i).trans ?_
        by_cases hi : i = j
        · subst hi
          rw [if_neg hj, if_pos List.mem_cons_self, Function.update_self]
        · rw [Function.update_of_ne hi]
          simp only [List.mem_cons, hi, false_or]
      · refine ihpending.trans ?_
        have hsame : (l.map fun i => (Function.update manager.connections j
            ((manager.connections j).queued message.bytes message.reliable) i).taken message.bytes
              message.reliable) =
            l.map fun i => (manager.connections i).taken message.bytes message.reliable := by
          apply List.map_congr_left
          intro i hi
          rw [Function.update_of_ne (fun heq : i = j => hj (heq ▸ hi))]
        rw [hsame, List.map_cons, List.sum_cons, BitVec.ofNat_add, BitVec.add_assoc]

/-- A packet for the node itself is handled and not queued. -/
theorem floodOnce_own (e : Surroundings) (turn : ℕ)
    (hown : s.node.nodeId = nodeIdHopsBase + 2) :
    (floodOnce e turn s).manager = s.manager ∧
      (floodOnce e turn s).node.nodeId = s.node.nodeId ∧
        (floodOnce e turn s).node.connections = s.node.connections := by
  have hreceiver := s.receiverAt_floodMessagePacket (e.stack turn)
  have htype := s.messageTypeAt_floodMessagePacket (e.stack turn)
  have hmessage :
      s.node.sendMessageToReceiver none e.loopback (s.floodMessagePacket (e.stack turn)) =
      (s.node, [.messageReceived (s.floodMessagePacket (e.stack turn)).message]) := by
    unfold Node.sendMessageToReceiver Node.messageReceivedCallback
    rw [hreceiver, htype, hown]
    rfl
  unfold floodOnce
  dsimp only
  rw [hmessage, hreceiver, if_neg fun hne => hne hown.symm]
  dsimp only [List.foldl_cons, List.foldl_nil, perform]
  -- whatever the packet asks for, the connections are left alone
  unfold connectionPacketReceivedEventHandler
  split_ifs <;> exact ⟨rfl, rfl, rfl⟩

/-- A packet for others is queued for each connection with a finished handshake, and then all
connections are served. -/
theorem floodOnce_other (e : Surroundings) (turn : ℕ)
    (hother : s.node.nodeId ≠ nodeIdHopsBase + 2) :
    let data := s.floodBytes (e.stack turn)
    let reliable : Bool := s.debug.flood = 1
    (floodOnce e turn s).node = s.node ∧
      (∀ i ∈ s.links, (floodOnce e turn s).manager.connections i =
        ((s.manager.connections i).queued data reliable).settled (e.now turn i)) ∧
      (floodOnce e turn s).manager.pendingPackets = s.manager.pendingPackets +
        BitVec.ofNat 16
          (s.links.map fun i => (s.manager.connections i).taken data reliable).sum := by
  intro data reliable
  have hreceiver := s.receiverAt_floodMessagePacket (e.stack turn)
  have hmessage :
      s.node.sendMessageToReceiver none e.loopback (s.floodMessagePacket (e.stack turn)) =
      (s.node, s.links.map fun i =>
        .queuePacket i (s.floodMessagePacket (e.stack turn)).message) := by
    rw [← sendMessageOverConnections_eq]
    have hlocal : ¬ (nodeIdHopsBase + 2 = s.node.nodeId ∨
        (none : Option Slot) = none ∧ (nodeIdHopsBase + 2 : NodeId) = nodeIdBroadcast) := by
      rintro (heq | ⟨-, heq⟩)
      · exact hother heq.symm
      · exact absurd heq (by decide)
    unfold Node.sendMessageToReceiver
    dsimp only
    rw [hreceiver, decide_eq_false hlocal, if_neg Bool.false_ne_true, if_neg (by decide),
      if_pos hother.symm, List.nil_append]
  have hnodup : s.links.Nodup := (List.nodup_finRange _).filter _
  obtain ⟨hconnections, hpending⟩ := queueOver_spec
    (s.floodMessagePacket (e.stack turn)).message hnodup s.manager
  unfold floodOnce
  dsimp only
  rw [hmessage, hreceiver, if_pos hother.symm]
  dsimp only
  rw [foldl_perform]
  refine ⟨rfl, fun i hi => ?_, hpending⟩
  have hqueued := hconnections i
  rw [if_pos hi] at hqueued
  unfold Transport.ConnectionManager.fillTransmitBuffers
  dsimp only
  rw [hqueued]
  rfl

end Sending

/-! ### The loop -/

section Loop

variable {s : DebugNode} {e : Surroundings} {turn : ℕ}

/-- What holds in the loop.  From the second turn on the buffers are filled before a packet is
queued. -/
structure Flooding (state : ℕ × DebugNode) : Prop where
  slot : ∀ i ∈ state.2.links, ∃ requests,
    Traffic.IntactSlot (state.2.manager.connections i) requests
  quiet : state.2.node.nodeId ≠ nodeIdHopsBase + 2 → 0 < state.1 →
    ∀ i ∈ state.2.links, (state.2.manager.connections i).Quiet

/-- How many connections take the packet of a turn. -/
def takenOnce (e : Surroundings) (turn : ℕ) (s : DebugNode) : ℕ :=
  (s.links.map fun i =>
    (s.manager.connections i).taken (s.floodBytes (e.stack turn)) (s.debug.flood = 1)).sum

theorem takenOnce_le : takenOnce e turn s ≤ meshMaxConnections := by
  have hlinks : s.links.length ≤ meshMaxConnections :=
    (List.length_filter_le _ _).trans_eq (List.length_finRange)
  have htaken : takenOnce e turn s ≤ s.links.length * 1 := by
    rw [← List.length_map (f := fun i =>
      (s.manager.connections i).taken (s.floodBytes (e.stack turn)) (s.debug.flood = 1))]
    refine List.sum_le_card_nsmul _ 1 ?_
    intro n hn
    obtain ⟨i, -, rfl⟩ := List.mem_map.mp hn
    exact Bool.toNat_le _
  omega

theorem pendingPackets_floodOnce (e : Surroundings) (turn : ℕ)
    (hother : s.node.nodeId ≠ nodeIdHopsBase + 2)
    (hpending : s.manager.pendingPackets < 6) :
    (floodOnce e turn s).manager.pendingPackets.toNat =
      s.manager.pendingPackets.toNat + takenOnce e turn s := by
  obtain ⟨-, -, hsum⟩ := floodOnce_other e turn hother
  have hle : takenOnce e turn s ≤ 4 := takenOnce_le
  have hless : s.manager.pendingPackets.toNat < 6 := hpending
  -- at most four packets more, so the counter does not wrap
  refine (congrArg BitVec.toNat hsum).trans ?_
  show (s.manager.pendingPackets + BitVec.ofNat 16 (takenOnce e turn s)).toNat = _
  rw [BitVec.toNat_add, BitVec.toNat_ofNat]
  omega

/-- With room on some connection, a turn adds to the pending packets. -/
theorem takenOnce_pos (hquiet : ∀ i ∈ s.links, (s.manager.connections i).Quiet)
    (hroom : 0 < (s.links.map fun i => (s.manager.connections i).room sizeofConnPacketModule).sum) :
    0 < takenOnce e turn s := by
  obtain ⟨_, hn, hpos⟩ := List.sum_pos_iff_exists_pos_nat.mp hroom
  obtain ⟨i, hi, rfl⟩ := List.mem_map.mp hn
  have hlength := s.length_floodBytes (e.stack turn)
  have hput : (s.manager.connections i).taken (s.floodBytes (e.stack turn))
      (s.debug.flood = 1) = 1 := by
    have hfree : ((s.manager.connections i).packetSendQueue.put (s.floodBytes (e.stack turn))
        (BitVec.ofNat 8 (s.floodBytes (e.stack turn)).length) (s.debug.flood = 1)).2 = true := by
      refine (put_iff_room (hquiet i hi) (by omega) _).mpr ?_
      rw [hlength]
      exact hpos
    unfold Transport.Connection.taken
    rw [hfree]
    rfl
  calc
    0 < 1 := Nat.one_pos
    _ ≤ takenOnce e turn s := List.le_sum_of_mem (List.mem_map.mpr ⟨i, hi, hput⟩)

theorem links_floodOnce (e : Surroundings) (turn : ℕ) (s : DebugNode) :
    (floodOnce e turn s).links = s.links := by
  by_cases hown : s.node.nodeId = nodeIdHopsBase + 2
  · obtain ⟨-, -, hconnections⟩ := floodOnce_own e turn hown
    rw [links, hconnections, links]
  · obtain ⟨hnode, -⟩ := floodOnce_other e turn hown
    rw [links, hnode, links]

/-- What a turn does to a connection that the packet goes over. -/
theorem link_floodOnce (hother : s.node.nodeId ≠ nodeIdHopsBase + 2) {i : Slot} (hi : i ∈ s.links)
    (hintact : ∃ requests, Traffic.IntactSlot (s.manager.connections i) requests) :
    let c := s.manager.connections i
    let c' := (floodOnce e turn s).manager.connections i
    let taken := c.taken (s.floodBytes (e.stack turn)) (s.debug.flood = 1)
    (∃ requests, Traffic.IntactSlot c' requests) ∧ c'.Quiet ∧
      (c'.room sizeofConnPacketModule + taken = c.room sizeofConnPacketModule ∨
        6 ≤ c'.room sizeofConnPacketModule + taken ∧ 6 ≤ c.room sizeofConnPacketModule) := by
  intro c c' taken
  obtain ⟨-, hconnections, -⟩ := floodOnce_other e turn hother
  obtain ⟨requests, hslot⟩ := hintact
  obtain ⟨hqueued, hroom⟩ := hslot.queued (s.length_floodBytes (e.stack turn))
    (s.fits_floodBytes (e.stack turn) (s.debug.flood = 1))
  obtain ⟨hsettled, hquiet, hsame⟩ := hqueued.settled (e.now turn i)
  rw [← hconnections i hi] at hsettled hquiet hsame
  rw [← hsame] at hroom
  exact ⟨hsettled, hquiet, hroom⟩

theorem Flooding.floodOnce (h : Flooding (turn, s)) :
    Flooding (turn + 1, floodOnce e turn s) := by
  have hlinks := links_floodOnce e turn s
  by_cases hown : s.node.nodeId = nodeIdHopsBase + 2
  · obtain ⟨hmanager, hnodeId, -⟩ := floodOnce_own e turn hown
    refine ⟨?_, fun hother => absurd (hnodeId.trans hown) hother⟩
    dsimp only
    rw [hlinks, hmanager]
    exact h.slot
  · refine ⟨?_, fun _ _ => ?_⟩
    · dsimp only
      rw [hlinks]
      exact fun i hi => (link_floodOnce hown hi (h.slot i hi)).1
    · dsimp only
      rw [hlinks]
      exact fun i hi => (link_floodOnce hown hi (h.slot i hi)).2.1

/-- No turn makes six packets possible, or impossible. -/
theorem floodEnds_floodOnce (h : Flooding (turn, s)) (hpending : s.manager.pendingPackets < 6) :
    (floodOnce e turn s).FloodEnds ↔ s.FloodEnds := by
  by_cases hown : s.node.nodeId = nodeIdHopsBase + 2
  · obtain ⟨hmanager, hnodeId, -⟩ := floodOnce_own e turn hown
    have hown' := hnodeId.trans hown
    unfold FloodEnds
    rw [hmanager]
    constructor
    · exact fun hends => .inl (hends.resolve_right fun hother => hother.1 hown')
    · exact fun hends => .inl (hends.resolve_right fun hother => hother.1 hown)
  · obtain ⟨hnode, -⟩ := floodOnce_other e turn hown
    have hcount := pendingPackets_floodOnce e turn hown hpending
    have henough : 6 ≤ s.manager.pendingPackets.toNat + takenOnce e turn s + (s.links.map fun i =>
          ((floodOnce e turn s).manager.connections i).room sizeofConnPacketModule).sum ↔
        6 ≤ s.manager.pendingPackets.toNat +
          (s.links.map fun i => (s.manager.connections i).room sizeofConnPacketModule).sum := by
      apply enough_iff
      exact fun i hi => (link_floodOnce hown hi (h.slot i hi)).2.2
    unfold FloodEnds
    rw [hnode, links_floodOnce, hcount]
    constructor
    · rintro (hfull | ⟨-, hroom⟩)
      · exact .inr ⟨hown, henough.mp (hfull.trans (Nat.le_add_right _ _))⟩
      · exact .inr ⟨hown, henough.mp hroom⟩
    · rintro (hfull | ⟨-, hroom⟩)
      · exact .inl (hfull.trans (Nat.le_add_right _ _))
      · exact .inr ⟨hown, henough.mpr hroom⟩

theorem mem_floodTurn {state state' : ℕ × DebugNode} (h : state' ∈ floodTurn e state) :
    state.2.manager.pendingPackets < 6 ∧ state' = (state.1 + 1, floodOnce e state.1 state.2) := by
  unfold floodTurn at h
  split_ifs at h with hpending
  · exact ⟨hpending, (Option.mem_some_iff.mp h).symm⟩
  · exact absurd h (Option.not_mem_none _)

/-- The packets that are missing.  The first turn may add none, but it fills the buffers. -/
def missing (state : ℕ × DebugNode) : ℕ :=
  2 * (6 - state.2.manager.pendingPackets.toNat) + if state.1 = 0 then 1 else 0

theorem missing_floodOnce (h : Flooding (turn, s)) (hends : s.FloodEnds)
    (hpending : s.manager.pendingPackets < 6) :
    missing (turn + 1, floodOnce e turn s) < missing (turn, s) := by
  have hless : s.manager.pendingPackets.toNat < 6 := hpending
  obtain ⟨hother, hroom⟩ := hends.resolve_left (by omega)
  have hcount := pendingPackets_floodOnce e turn hother hpending
  unfold missing
  dsimp only
  rw [hcount, if_neg (Nat.succ_ne_zero turn)]
  rcases Nat.eq_zero_or_pos turn with rfl | hturn
  · -- nothing may be queued in this turn, if the buffers have not been filled
    rw [if_pos rfl]
    omega
  · have hpos : 0 < takenOnce e turn s := takenOnce_pos (h.quiet hother hturn) (by omega)
    omega

/-- **The loop.**  It ends exactly if there is room for the packets that are missing. -/
theorem floodLoop_dom_iff (hslot : ∀ i ∈ s.links, ∃ requests,
    Traffic.IntactSlot (s.manager.connections i) requests) :
    (eval (floodTurn e) (0, s)).Dom ↔ s.FloodEnds := by
  refine Endings.dom_iff (I := Flooding) (fun state => state.2.FloodEnds) missing ?keeps ?same ?left
    ?less ⟨hslot, fun _ hpos => absurd hpos (Nat.lt_irrefl 0)⟩
  case keeps =>
    intro state state' hstate hturn
    obtain ⟨-, rfl⟩ := mem_floodTurn hturn
    exact hstate.floodOnce
  case same =>
    intro state state' hstate hturn
    obtain ⟨hpending, rfl⟩ := mem_floodTurn hturn
    exact floodEnds_floodOnce hstate hpending
  case left =>
    intro state _ hleft
    unfold floodTurn at hleft
    split_ifs at hleft with hpending
    exact .inl (Nat.le_of_not_lt hpending)
  case less =>
    intro state state' hstate hends hturn
    obtain ⟨hpending, rfl⟩ := mem_floodTurn hturn
    exact missing_floodOnce hstate hends hpending

/-- The timer handler comes back if the loop does. -/
theorem timerEventHandler_dom_iff (appTimer : U32) (hslot : ∀ i ∈ s.links, ∃ requests,
    Traffic.IntactSlot (s.manager.connections i) requests) :
    (timerEventHandler e appTimer s).Dom ↔
      s.debug.moduleActive = 0 ∨ s.debug.flood = 0 ∨ s.FloodEnds := by
  unfold timerEventHandler
  split_ifs with hactive hflood
  · exact ⟨fun _ => .inl hactive, fun _ => trivial⟩
  · rw [Part.map_Dom, Part.map_Dom, floodLoop_dom_iff hslot]
    constructor
    · exact fun hends => .inr (.inr hends)
    · rintro (habsurd | habsurd | hends)
      · exact absurd habsurd hactive
      · exact absurd habsurd hflood
      · exact hends
  · exact ⟨fun _ => .inr (.inl (not_not.mp hflood)), fun _ => trivial⟩

end Loop

/-! ## Flood mode in a run -/

/-- **Flood mode.**  In every run in which all packets that are queued have room for what is
written into them, the timer handler comes back exactly if the module is not active or six packets
can be pending. -/
theorem timerEventHandler_returns_iff {txBuffersPerLink : U8} {start t : Traffic}
    {events : List TrafficEvent} (hstart : Traffic.Initial txBuffersPerLink start)
    (hrun : Run (Traffic.apply txBuffersPerLink)
      (fun t event => Traffic.May t event ∧ Traffic.Fitting t event) start events t)
    {s : DebugNode} (hmanager : s.manager = t.manager)
    (hflood : s.debug.flood = 1 ∨ s.debug.flood = 2) (e : Surroundings) (appTimer : U32) :
    (timerEventHandler e appTimer s).Dom ↔ s.debug.moduleActive = 0 ∨ s.FloodEnds := by
  have hintact := hstart.intact.run hrun
  have hslot : ∀ i ∈ s.links, ∃ requests,
      Traffic.IntactSlot (s.manager.connections i) requests := by
    intro i _
    rw [hmanager]
    exact ⟨t.requests i, hintact.slot i⟩
  have hon : s.debug.flood ≠ 0 := by
    rcases hflood with hflood | hflood <;> rw [hflood] <;> decide
  rw [timerEventHandler_dom_iff appTimer hslot, or_iff_right hon]

/-- Nothing in particular lies on the stack, and the time stands still. -/
def Surroundings.still : Surroundings := ⟨fun _ _ => 0, fun _ => Voting.zeros, none, 0⟩

/-- A node with a link on the first connection. -/
def linked : Traffic := Traffic.apply 7 Traffic.fresh (.connected inConnection 4)

/-- It has been told to flood. -/
def floodingNode (links : Bool) (manager : Transport.ConnectionManager) : DebugNode where
  node := { startedNode 5 7 with
    connections := fun i => { freeConnection with
      isConnected := links && i = inConnection
      handshakeDone := links && i = inConnection } }
  manager := manager
  debug := (DebugModule.new 9).toggleFlood

theorem timerEventHandler_returns_linked :
    (timerEventHandler .still 0 (floodingNode true linked.manager)).Dom := by
  have hrun : Run (Traffic.apply 7) (fun t event => Traffic.May t event ∧ Traffic.Fitting t event)
      Traffic.fresh [TrafficEvent.connected inConnection 4] linked :=
    Run.step (.nil Traffic.fresh) (TrafficEvent.connected inConnection 4) ⟨⟨rfl, rfl⟩, trivial⟩
  exact (timerEventHandler_returns_iff Traffic.fresh_initial hrun rfl (.inl rfl) .still 0).mpr
    (.inr (by decide))

/-- Without a link the node that is told to flood does nothing else any more. -/
theorem timerEventHandler_hangs :
    ¬ ∀ (txBuffersPerLink : U8) (start t : Traffic) (events : List TrafficEvent),
      Traffic.Initial txBuffersPerLink start →
      Run (Traffic.apply txBuffersPerLink) Traffic.May start events t →
      ∀ s : DebugNode, s.manager = t.manager → (s.debug.flood = 1 ∨ s.debug.flood = 2) →
        ∀ (e : Surroundings) (appTimer : U32), (timerEventHandler e appTimer s).Dom := by
  intro hreturns
  have hdom := hreturns 7 Traffic.fresh Traffic.fresh [] Traffic.fresh_initial (.nil _)
    (floodingNode false Traffic.fresh.manager) rfl (.inl rfl) .still 0
  have hslot : ∀ i ∈ (floodingNode false Traffic.fresh.manager).links, ∃ requests,
      Traffic.IntactSlot (Traffic.fresh.connection i) requests :=
    fun i _ => ⟨0, Traffic.fresh_initial.intact.slot i⟩
  have hends := (timerEventHandler_dom_iff 0 hslot).mp hdom
  revert hends
  decide

end DebugNode

end FruityMesh.Modules
