import Mathlib.Logic.Relation
import FruityMesh.Transport.Sender

/-!
# Delivery over one link

A node sends on its connection `i`, and the peer receives.  Between them is the stack,
which keeps the writes in order, answers each write request and counts each write
command in a TX_COMPLETE event.  A step of the link is a call of `QueuePacket` or
`fillTransmitBuffers`, an event of the stack, or something that happens on another
connection of the same node.

`InOrder` is the invariant: what has been delivered, followed by what the receiver will
make of the writes in flight and those still to be made, are the packets that the queue has
accepted.  No step but `QueuePacket` changes the right-hand side, and no step changes
the equation.
-/

namespace FruityMesh.Transport

open Cells

/-- The sending node, the receiving connection, and what is between them. -/
structure Link where
  sender : ConnectionManager
  receiver : Connection
  inFlight : List Write
  /-- Write requests that have no response yet. -/
  unanswered : ℕ
  /-- Write commands that are in no TX_COMPLETE yet. -/
  uncounted : ℕ
  accepted : List Packet
  delivered : List Message

namespace Link

variable (i : Fin meshMaxConnections)

/-- What the sender does, with the writes it makes handed to the stack. -/
def send (l : Link) (result : ConnectionManager × (Fin meshMaxConnections → List Write)) : Link :=
  { l with
    sender := result.1
    inFlight := l.inFlight ++ result.2 i
    unanswered := l.unanswered + (result.2 i).countP (·.reliable)
    uncounted := l.uncounted + (result.2 i).countP (!·.reliable) }

def queuePacket (l : Link) (p : Packet) : Link :=
  let result := l.sender.queuePacket i p.bytes (BitVec.ofNat 16 p.bytes.length) p.reliable
  { l with
    sender := result.1
    accepted := if result.2 then l.accepted ++ [p] else l.accepted }

/-- The receiver's stack reports a write, in memory with any contents. -/
def deliver (l : Link) (write : Write) (rest : List Write) (memory : ℕ → U8) : Link :=
  let reception := l.receiver.messageReceivedCallback (write.event memory)
  { l with
    receiver := reception.connection
    inFlight := rest
    delivered := l.delivered ++ (reception.packet.map ConnectionPacket.message).toList }

inductive Step : Link → Link → Prop
  | queuePacket (l : Link) (p : Packet) : Step l (l.queuePacket i p)
  | fillTransmitBuffers (l : Link) (now : Fin meshMaxConnections → U64) :
      Step l (l.send i (l.sender.fillTransmitBuffers now))
  | txComplete (l : Link) (now : Fin meshMaxConnections → U64) (count : U8)
      (hcount : count.toNat ≤ l.uncounted) :
      Step l ({ l with uncounted := l.uncounted - count.toNat }.send i
        (l.sender.txComplete now i count))
  | writeRsp (l : Link) (now : Fin meshMaxConnections → U64) (hunanswered : 0 < l.unanswered) :
      Step l ({ l with unanswered := l.unanswered - 1 }.send i (l.sender.writeRsp now i 0))
  | deliver (l : Link) (write : Write) (rest : List Write) (memory : ℕ → U8)
      (hwrite : l.inFlight = write :: rest) : Step l (l.deliver write rest memory)
  | queueOther (l : Link) (j : Fin meshMaxConnections) (hj : j ≠ i) (data : List U8)
      (dataLength : U16) (reliable : Bool) :
      Step l { l with sender := (l.sender.queuePacket j data dataLength reliable).1 }
  | txCompleteOther (l : Link) (now : Fin meshMaxConnections → U64)
      (j : Fin meshMaxConnections) (hj : j ≠ i) (count : U8) :
      Step l (l.send i (l.sender.txComplete now j count))
  | writeRspOther (l : Link) (now : Fin meshMaxConnections → U64)
      (j : Fin meshMaxConnections) (hj : j ≠ i) (gattStatus : U16) :
      Step l (l.send i (l.sender.writeRsp now j gattStatus))

/-- The connection is up, has nothing to send and has no part of a packet received, and
`buffers` write commands may be under way. -/
structure Initial (buffers : U8) (l : Link) : Prop where
  usable : (l.sender.connections i).Usable
  queue : ∃ peeked, PacketQueue.Reachable (BitVec.ofNat 16 packetSendBufferSize)
    (l.sender.connections i).packetSendQueue peeked
  empty : (l.sender.connections i).packetSendQueue.contents = []
  sendPosition : (l.sender.connections i).packetSendPosition = 0
  reliableBuffersFree : (l.sender.connections i).reliableBuffersFree = 1
  unreliableBuffersFree : (l.sender.connections i).unreliableBuffersFree = buffers
  reassemblyPosition : l.receiver.packetReassemblyPosition = 0
  reassemblyBuffer :
    l.receiver.packetReassemblyBuffer.AccessesWithin packetReassemblyBufferSize
  inFlight : l.inFlight = []
  unanswered : l.unanswered = 0
  uncounted : l.uncounted = 0
  accepted : l.accepted = []
  delivered : l.delivered = []

end Link

/-! ## What the operations of the sending node do on the connection -/

variable {i : Fin meshMaxConnections} {cm : ConnectionManager} {s : Sender}

/-- The result of an operation that sends: the connection has moved on by the writes that
were made on it. -/
def Sends (i : Fin meshMaxConnections) (c : Connection) (s : Sender)
    (result : ConnectionManager × (Fin meshMaxConnections → List Write)) : Prop :=
  ∃ s', Emits c s (result.2 i) (result.1.connections i) s'

theorem sends_fillTransmitBuffers (h : Transmits (cm.connections i) s)
    (now : Fin meshMaxConnections → U64) :
    Sends i (cm.connections i) s (cm.fillTransmitBuffers now) := by
  have hconnected : (cm.connections i).isConnected = true := h.usable.1
  simp only [Sends, ConnectionManager.fillTransmitBuffers, hconnected, if_true]
  exact (h.fill (now i)).1

theorem sends_continueSending {c : Connection} (h : Transmits c s) (hc : cm.connections i = c)
    (now : Fin meshMaxConnections → U64) : Sends i c s (cm.continueSending now) := by
  subst hc
  unfold ConnectionManager.continueSending
  split
  · exact sends_fillTransmitBuffers h now
  · exact ⟨s, Emits.refl h⟩

/-- What happens on another connection lets this one go on sending at most. -/
theorem sends_txComplete_other (h : Transmits (cm.connections i) s)
    (now : Fin meshMaxConnections → U64) {j : Fin meshMaxConnections} (hj : j ≠ i) (count : U8) :
    Sends i (cm.connections i) s (cm.txComplete now j count) := by
  unfold ConnectionManager.txComplete
  refine sends_continueSending h ?_ now
  exact ConnectionManager.setConnection_other cm hj _

theorem sends_writeRsp_other (h : Transmits (cm.connections i) s)
    (now : Fin meshMaxConnections → U64) {j : Fin meshMaxConnections} (hj : j ≠ i)
    (gattStatus : U16) : Sends i (cm.connections i) s (cm.writeRsp now j gattStatus) := by
  unfold ConnectionManager.writeRsp
  split
  · exact ⟨s, Emits.refl h⟩
  · dsimp only
    split
    · exact ⟨s, Emits.refl h⟩
    · refine sends_continueSending h ?_ now
      split <;> exact ConnectionManager.setConnection_other cm hj _

/-! ## The invariant -/

/-- What is delivered, what is in flight and what is still to be sent make up what was
accepted. -/
structure InOrder (i : Fin meshMaxConnections) (buffers : U8) (l : Link) (s : Sender) : Prop where
  transmits : Transmits (l.sender.connections i) s
  unanswered : l.unanswered = s.outstanding.toNat
  uncounted :
    (l.sender.connections i).unreliableBuffersFree + BitVec.ofNat 8 l.uncounted = buffers
  sizes : ∀ w ∈ l.inFlight ++ s.unsent, 0 < w.data.length ∧ w.data.length ≤ 20
  order : ∃ part remaining, Assembling l.receiver part ∧
    assembleAll part (l.inFlight ++ s.unsent) = ([], remaining) ∧
    l.delivered ++ remaining = l.accepted.map Packet.message

/-- What bounds the events that are still to come if nothing more is queued. -/
def Link.work (l : Link) (s : Sender) : ℕ :=
  3 * s.unsent.length + l.inFlight.length + l.unanswered + l.uncounted

variable {buffers : U8} {l : Link}

theorem Link.work_send {s' : Sender}
    {result : ConnectionManager × (Fin meshMaxConnections → List Write)} {c : Connection}
    (hemits : Emits c s (result.2 i) (result.1.connections i) s') :
    (l.send i result).work s' + (result.2 i).length = l.work s := by
  have hunsent : s.unsent.length = (result.2 i).length + s'.unsent.length := by
    rw [hemits.unsent, List.length_append]
  have hkinds := List.length_eq_countP_add_countP (·.reliable) (l := result.2 i)
  have hcommands : (result.2 i).countP (fun w => decide ¬w.reliable = true) =
      (result.2 i).countP (!·.reliable) := by
    congr 1
    funext w
    cases w.reliable <;> rfl
  rw [hcommands] at hkinds
  simp only [Link.work, Link.send, List.length_append]
  omega

namespace InOrder

/-- Writes that are made move from what is still to be sent to what is in flight. -/
theorem send (h : InOrder i buffers l s) {s' : Sender}
    {result : ConnectionManager × (Fin meshMaxConnections → List Write)}
    (hemits : Emits (l.sender.connections i) s (result.2 i) (result.1.connections i) s') :
    InOrder i buffers (l.send i result) s' := by
  have hwrites : (l.send i result).inFlight ++ s'.unsent = l.inFlight ++ s.unsent := by
    rw [hemits.unsent]
    exact List.append_assoc _ _ _
  refine ⟨hemits.transmits, ?_, ?_, ?_, ?_⟩
  · rw [hemits.requests, ← h.unanswered]
    rfl
  · rw [← h.uncounted, hemits.commands]
    simp only [Link.send, BitVec.ofNat_add]
    ac_rfl
  · rw [hwrites]
    exact h.sizes
  · rw [hwrites]
    exact h.order

/-- Replacing the connection by one that has the same to send. -/
theorem replace (h : InOrder i buffers l s) {s' : Sender} {cm : ConnectionManager}
    {unanswered uncounted : ℕ} (htransmits : Transmits (cm.connections i) s')
    (hunsent : s'.unsent = s.unsent) (hunanswered : unanswered = s'.outstanding.toNat)
    (huncounted :
      (cm.connections i).unreliableBuffersFree + BitVec.ofNat 8 uncounted = buffers) :
    InOrder i buffers
      { l with sender := cm, unanswered := unanswered, uncounted := uncounted } s' := by
  refine ⟨htransmits, hunanswered, huncounted, ?_, ?_⟩
  · rw [hunsent]
    exact h.sizes
  · rw [hunsent]
    exact h.order

theorem fillTransmitBuffers (h : InOrder i buffers l s) (now : Fin meshMaxConnections → U64) :
    ∃ s', InOrder i buffers (l.send i (l.sender.fillTransmitBuffers now)) s' := by
  obtain ⟨s', hemits⟩ := sends_fillTransmitBuffers h.transmits now
  exact ⟨s', h.send hemits⟩

theorem txComplete (h : InOrder i buffers l s) (now : Fin meshMaxConnections → U64) {count : U8}
    (hcount : count.toNat ≤ l.uncounted) :
    ∃ s', InOrder i buffers ({ l with uncounted := l.uncounted - count.toNat }.send i
        (l.sender.txComplete now i count)) s' ∧
      ({ l with uncounted := l.uncounted - count.toNat }.send i
        (l.sender.txComplete now i count)).work s' + count.toNat ≤ l.work s := by
  let c := l.sender.connections i
  let cm := l.sender.setConnection i
    { c with unreliableBuffersFree := c.unreliableBuffersFree + count }
  have hsame : cm.connections i =
      { c with unreliableBuffersFree := c.unreliableBuffersFree + count } :=
    ConnectionManager.setConnection_same _ i _
  have htransmits : Transmits (cm.connections i) s := by
    rw [hsame]
    exact ⟨h.transmits.stored, h.transmits.position, h.transmits.buffers, h.transmits.usable⟩
  have huncounted : (cm.connections i).unreliableBuffersFree +
      BitVec.ofNat 8 (l.uncounted - count.toNat) = buffers := by
    rw [hsame, ← h.uncounted]
    show c.unreliableBuffersFree + count + _ = c.unreliableBuffersFree + _
    bv_omega
  have hcounted := @replace i s buffers l h s
    { cm with pendingPackets := cm.pendingPackets - count.setWidth 16 } _ _ htransmits rfl
    h.unanswered huncounted
  obtain ⟨s', hemits⟩ := sends_continueSending hcounted.transmits rfl now
  refine ⟨s', hcounted.send hemits, ?_⟩
  have hsent : Emits (cm.connections i) s ((l.sender.txComplete now i count).2 i)
    ((l.sender.txComplete now i count).1.connections i) s' := hemits
  have hwork := Link.work_send (l := { l with uncounted := l.uncounted - count.toNat }) hsent
  have hless : Link.work { l with uncounted := l.uncounted - count.toNat } s + count.toNat =
      l.work s := by
    simp only [Link.work]
    omega
  omega

theorem writeRsp (h : InOrder i buffers l s) (now : Fin meshMaxConnections → U64)
    (hunanswered : 0 < l.unanswered) :
    ∃ s', InOrder i buffers ({ l with unanswered := l.unanswered - 1 }.send i
        (l.sender.writeRsp now i 0)) s' ∧
      ({ l with unanswered := l.unanswered - 1 }.send i (l.sender.writeRsp now i 0)).work s' <
        l.work s := by
  have houtstanding : s.outstanding = true := by
    by_contra hidle
    rw [h.unanswered, Bool.eq_false_of_not_eq_true hidle] at hunanswered
    exact absurd hunanswered (by simp)
  obtain ⟨pointer, hpointer, s', hidle, hunsent, htransmits⟩ := h.transmits.answered houtstanding
  -- the connection moves on, and then there is the loop again
  have hresult : ∃ cm : ConnectionManager, l.sender.writeRsp now i 0 = cm.continueSending now ∧
      cm.connections i =
        (if hasMorePartsOf ((l.sender.connections i).peekQueue.sendByte
            (pointer + 1 + (l.sender.connections i).peekQueue.packetSendPosition.toNat)) then
          (l.sender.connections i).peekQueue.partSent
        else (l.sender.connections i).peekQueue.packetSent) := by
    unfold ConnectionManager.writeRsp
    rw [if_neg (by simp)]
    dsimp only
    rw [hpointer]
    refine ⟨_, rfl, ?_⟩
    split
    · exact ConnectionManager.setConnection_same _ i _
    · exact ConnectionManager.setConnection_same _ i _
  obtain ⟨cm, heq, hcm⟩ := hresult
  rw [← hcm] at htransmits
  have hfree : (cm.connections i).unreliableBuffersFree =
      (l.sender.connections i).unreliableBuffersFree := by
    rw [hcm]
    split <;> rfl
  have hmoved := h.replace htransmits hunsent.symm
    (show l.unanswered - 1 = s'.outstanding.toNat by
      rw [h.unanswered, houtstanding, hidle]
      rfl)
    (by rw [hfree]; exact h.uncounted)
  obtain ⟨s'', hemits⟩ := sends_continueSending hmoved.transmits rfl now
  rw [heq]
  refine ⟨s'', hmoved.send hemits, ?_⟩
  have hwork := Link.work_send (l := { l with unanswered := l.unanswered - 1 }) hemits
  have hless : Link.work { l with unanswered := l.unanswered - 1 } s' < l.work s := by
    simp only [Link.work, hunsent]
    omega
  exact (Nat.le_add_right _ _).trans_lt (hwork.trans_lt hless)

theorem queuePacket (h : InOrder i buffers l s) (p : Packet) :
    ∃ s', InOrder i buffers (l.queuePacket i p) s' := by
  let c := l.sender.connections i
  let put := c.packetSendQueue.put p.bytes (BitVec.ofNat 8 p.bytes.length) p.reliable
  have hconnection : (l.queuePacket i p).sender.connections i =
      { c with packetSendQueue := put.1 } := by
    simp only [Link.queuePacket, ConnectionManager.queuePacket_eq]
    exact ConnectionManager.setConnection_same _ i _
  have haccepted : (l.queuePacket i p).accepted =
      if put.2 then l.accepted ++ [p] else l.accepted := by
    simp only [Link.queuePacket, ConnectionManager.queuePacket_eq]
    rfl
  obtain ⟨part, remaining, hassembling, hall, hsofar⟩ := h.order
  cases hput : put.2 with
  | false =>
      have hsame : put.1 = c.packetSendQueue := by rw [PacketQueue.put_false (p.short.trans (by decide)) hput]
      rw [hsame] at hconnection
      rw [hput, if_neg (by simp)] at haccepted
      exact ⟨s, hconnection ▸ h.transmits, h.unanswered, hconnection ▸ h.uncounted, h.sizes,
        part, remaining, hassembling, hall, haccepted ▸ hsofar⟩
  | true =>
      rw [hput, if_pos rfl] at haccepted
      obtain ⟨htransmits, hunsent⟩ := h.transmits.put p hput
      refine ⟨{ s with queue := s.queue ++ [p] }, ?_, h.unanswered, ?_, ?_, part,
        remaining ++ [p.message], hassembling, ?_, ?_⟩
      · rw [hconnection]
        exact htransmits
      · rw [hconnection]
        exact h.uncounted
      · rw [hunsent, ← List.append_assoc]
        intro w hw
        rcases List.mem_append.mp hw with hw | hw
        · exact h.sizes w hw
        · exact p.length_of_mem_writes hw
      · have hinFlight : (l.queuePacket i p).inFlight = l.inFlight := rfl
        rw [hunsent, hinFlight, ← List.append_assoc, assembleAll_append, hall,
          assembleAll_writes]
      · show l.delivered ++ _ = _
        rw [← List.append_assoc, hsofar, haccepted, List.map_append]
        rfl

theorem deliver (h : InOrder i buffers l s) {write : Write} {rest : List Write}
    (memory : ℕ → U8) (hwrite : l.inFlight = write :: rest) :
    InOrder i buffers (l.deliver write rest memory) s := by
  obtain ⟨part, remaining, hassembling, hall, haccepted⟩ := h.order
  have hsize := h.sizes write (by simp [hwrite])
  rw [hwrite, List.cons_append] at hall
  -- what is put together is the beginning of a packet that was accepted
  have hfit : (extend part write).length ≤ 200 := by
    refine length_extend_le hall fun message hmessage => ?_
    have hmem : message ∈ l.accepted.map Packet.message := by
      rw [← haccepted]
      exact List.mem_append_right _ hmessage
    obtain ⟨p, -, rfl⟩ := List.mem_map.mp hmem
    rw [p.arrives_message.length]
    exact p.short
  obtain ⟨hnext, hpacket⟩ := hassembling.messageReceivedCallback memory hsize hfit
  obtain ⟨hidle, hremaining⟩ := Prod.mk.inj hall
  refine ⟨h.transmits, h.unanswered, h.uncounted, ?_, _,
    (assembleAll (assemble part write).1 (rest ++ s.unsent)).2, hnext, Prod.ext hidle rfl, ?_⟩
  · intro w hw
    exact h.sizes w (by rw [hwrite]; exact List.mem_cons_of_mem _ hw)
  · show (l.delivered ++ _) ++ _ = _
    rw [hpacket, List.append_assoc]
    exact (congrArg (l.delivered ++ ·) hremaining).trans haccepted

/-- What happens on other connections. -/
theorem sends (h : InOrder i buffers l s)
    {result : ConnectionManager × (Fin meshMaxConnections → List Write)}
    (hsends : Sends i (l.sender.connections i) s result) :
    ∃ s', InOrder i buffers (l.send i result) s' := by
  obtain ⟨s', hemits⟩ := hsends
  exact ⟨s', h.send hemits⟩

theorem queueOther (h : InOrder i buffers l s) {j : Fin meshMaxConnections} (hj : j ≠ i)
    (data : List U8) (dataLength : U16) (reliable : Bool) :
    InOrder i buffers
      { l with sender := (l.sender.queuePacket j data dataLength reliable).1 } s := by
  have hkeep : (l.sender.queuePacket j data dataLength reliable).1.connections i =
      l.sender.connections i := by
    simp only [ConnectionManager.queuePacket]
    split <;> exact ConnectionManager.setConnection_other _ hj _
  exact h.replace (hkeep ▸ h.transmits) rfl h.unanswered (hkeep ▸ h.uncounted)

/-- One step of the link keeps the invariant. -/
theorem step {l' : Link} (h : InOrder i buffers l s) (hstep : Link.Step i l l') :
    ∃ s', InOrder i buffers l' s' := by
  cases hstep with
  | queuePacket p => exact h.queuePacket p
  | fillTransmitBuffers now => exact h.sends (sends_fillTransmitBuffers h.transmits now)
  | txComplete now count hcount =>
      obtain ⟨s', hs', -⟩ := h.txComplete now hcount
      exact ⟨s', hs'⟩
  | writeRsp now hunanswered =>
      obtain ⟨s', hs', -⟩ := h.writeRsp now hunanswered
      exact ⟨s', hs'⟩
  | deliver write rest memory hwrite => exact ⟨s, h.deliver memory hwrite⟩
  | queueOther j hj data dataLength reliable =>
      exact ⟨s, h.queueOther hj data dataLength reliable⟩
  | txCompleteOther now j hj count => exact h.sends (sends_txComplete_other h.transmits now hj count)
  | writeRspOther now j hj gattStatus =>
      exact h.sends (sends_writeRsp_other h.transmits now hj gattStatus)

theorem run {l' : Link} (h : InOrder i buffers l s)
    (hrun : Relation.ReflTransGen (Link.Step i) l l') : ∃ s', InOrder i buffers l' s' := by
  induction hrun with
  | refl => exact ⟨s, h⟩
  | tail _ hstep ih =>
      obtain ⟨s', hs'⟩ := ih
      exact hs'.step hstep

end InOrder

/-- At the start nothing is sent and nothing is received. -/
theorem Link.Initial.inOrder (h : Link.Initial i buffers l) :
    InOrder i buffers l ⟨[], 0, false⟩ := by
  obtain ⟨peeked, hreachable⟩ := h.queue
  obtain ⟨-, xs, hrep, -⟩ := hreachable.represents (by decide)
  have hxs : xs = [] := by rw [← hrep.contents_eq, h.empty]
  subst hxs
  refine ⟨⟨⟨peeked, [], hrep, .empty⟩, ?_, h.reliableBuffersFree, h.usable⟩, h.unanswered, ?_,
    ?_, [], [], ⟨?_, holds_nil _ 0, h.reassemblyBuffer⟩, ?_, ?_⟩
  · rw [h.sendPosition]
    rfl
  · rw [h.unreliableBuffersFree, h.uncounted]
    exact BitVec.add_zero buffers
  · simp [h.inFlight, Sender.unsent]
  · rw [h.reassemblyPosition]
    rfl
  · simp [h.inFlight, Sender.unsent, assembleAll]
  · simp [h.accepted, h.delivered]

/-! ## What is delivered -/

namespace InOrder

theorem forall₂_arrives (packets : List Packet) :
    List.Forall₂ Arrives packets (packets.map Packet.message) := by
  rw [List.forall₂_map_right_iff, List.forall₂_same]
  exact fun p _ => p.arrives_message

theorem delivered_in_order (h : InOrder i buffers l s) :
    ∃ received, received <+: l.accepted ∧ List.Forall₂ Arrives received l.delivered := by
  obtain ⟨part, remaining, -, -, hall⟩ := h.order
  refine ⟨l.accepted.take l.delivered.length, List.take_prefix _ _, ?_⟩
  have hdelivered : (l.accepted.take l.delivered.length).map Packet.message = l.delivered := by
    rw [List.map_take, ← hall, List.take_left]
  have harrives := forall₂_arrives (l.accepted.take l.delivered.length)
  rwa [hdelivered] at harrives

theorem delivered_all (h : InOrder i buffers l s) (hunsent : s.unsent = [])
    (hinFlight : l.inFlight = []) : List.Forall₂ Arrives l.accepted l.delivered := by
  obtain ⟨part, remaining, -, hnone, hall⟩ := h.order
  rw [hunsent, hinFlight] at hnone
  obtain ⟨-, hremaining⟩ := Prod.mk.inj hnone
  subst hremaining
  rw [List.append_nil] at hall
  rw [hall]
  exact forall₂_arrives l.accepted

/-- An empty queue has nothing to send. -/
theorem unsent_of_contents (h : InOrder i buffers l s)
    (hempty : (l.sender.connections i).packetSendQueue.contents = []) : s.unsent = [] := by
  obtain ⟨peeked, xs, hrep, hstored⟩ := h.transmits.stored
  rw [hrep.contents_eq] at hempty
  subst hempty
  cases hstored
  rfl

/-- If the stack is idle and `fillTransmitBuffers` makes no write, there is nothing to send. -/
theorem unsent_of_fill (h : InOrder i buffers l s) (hbuffers : buffers ≠ 0)
    (hunanswered : l.unanswered = 0) (huncounted : l.uncounted = 0)
    {now : Fin meshMaxConnections → U64}
    (hfill : (l.sender.fillTransmitBuffers now).2 i = []) : s.unsent = [] := by
  have hconnected : (l.sender.connections i).isConnected = true := h.transmits.usable.1
  simp only [ConnectionManager.fillTransmitBuffers, hconnected, if_true] at hfill
  have hfree : (l.sender.connections i).unreliableBuffersFree ≠ 0 := by
    have hall := h.uncounted
    rw [huncounted] at hall
    rw [← hall] at hbuffers
    exact fun hzero => hbuffers (by rw [hzero]; rfl)
  have hidle : ¬ s.outstanding = true := by
    intro houtstanding
    rw [h.unanswered, houtstanding] at hunanswered
    exact absurd hunanswered (by simp)
  rcases (h.transmits.fill (now i)).2 hfill with hqueue | houtstanding | hnone
  · rw [Sender.unsent, hqueue]
  · exact absurd houtstanding hidle
  · exact absurd hnone hfree

/-- If nothing more is queued, the events of the stack bring all packets over. -/
theorem exists_completion (h : InOrder i buffers l s) (hbuffers : buffers ≠ 0) :
    ∃ l' s', Relation.ReflTransGen (Link.Step i) l l' ∧ InOrder i buffers l' s' ∧
      l'.accepted = l.accepted ∧ s'.unsent = [] ∧ l'.inFlight = [] := by
  induction hwork : l.work s using Nat.strong_induction_on generalizing l s with
  | _ n ih =>
      subst hwork
      let now : Fin meshMaxConnections → U64 := fun _ => 0
      -- a step that leaves less work is followed by what completes the rest
      have close : ∀ l₁ s₁, Link.Step i l l₁ → InOrder i buffers l₁ s₁ →
          l₁.accepted = l.accepted → l₁.work s₁ < l.work s →
          ∃ l' s', Relation.ReflTransGen (Link.Step i) l l' ∧ InOrder i buffers l' s' ∧
            l'.accepted = l.accepted ∧ s'.unsent = [] ∧ l'.inFlight = [] := by
        intro l₁ s₁ hstep hinv haccepted hless
        obtain ⟨l', s', hrun, hinv', haccepted', hdone⟩ := ih _ hless hinv rfl
        exact ⟨l', s', .head hstep hrun, hinv', haccepted'.trans haccepted, hdone⟩
      cases hinFlight : l.inFlight with
      | cons write rest =>
          refine close _ s (.deliver l write rest (fun _ => 0) hinFlight)
            (h.deliver (fun _ => 0) hinFlight) rfl ?_
          simp only [Link.work, Link.deliver, hinFlight, List.length_cons]
          omega
      | nil =>
          rcases Nat.eq_zero_or_pos l.unanswered with hunanswered | hunanswered
          · rcases Nat.eq_zero_or_pos l.uncounted with huncounted | huncounted
            · cases hfill : (l.sender.fillTransmitBuffers now).2 i with
              | nil =>
                  exact ⟨l, s, .refl, h, rfl,
                    h.unsent_of_fill hbuffers hunanswered huncounted hfill, hinFlight⟩
              | cons write rest =>
                  obtain ⟨s', hemits⟩ := sends_fillTransmitBuffers h.transmits now
                  refine close _ s' (.fillTransmitBuffers l now) (h.send hemits) rfl ?_
                  have hsend := Link.work_send (l := l) hemits
                  rw [hfill, List.length_cons] at hsend
                  omega
            · have hcount : (1 : U8).toNat ≤ l.uncounted := huncounted
              obtain ⟨s', hinv, hless⟩ := h.txComplete now hcount
              exact close _ s' (.txComplete l now 1 hcount) hinv rfl hless
          · obtain ⟨s', hinv, hless⟩ := h.writeRsp now hunanswered
            exact close _ s' (.writeRsp l now hunanswered) hinv rfl hless

end InOrder

/-- **In-order exactly-once delivery over one link.**  What is delivered is at every moment
a prefix of what the queue has accepted.  It is all of it once the queue is empty and
nothing is in flight, and also when the stack has nothing left to do and
`fillTransmitBuffers` makes no write; and from every state the events of the stack lead
there. -/
theorem packets_delivered_in_order {start : Link} (hbuffers : buffers ≠ 0)
    (hstart : Link.Initial i buffers start)
    (hrun : Relation.ReflTransGen (Link.Step i) start l) :
    (∃ received, received <+: l.accepted ∧ List.Forall₂ Arrives received l.delivered) ∧
    ((l.sender.connections i).packetSendQueue.contents = [] → l.inFlight = [] →
      List.Forall₂ Arrives l.accepted l.delivered) ∧
    (l.inFlight = [] → l.unanswered = 0 → l.uncounted = 0 →
      (∃ now, (l.sender.fillTransmitBuffers now).2 i = []) →
      List.Forall₂ Arrives l.accepted l.delivered) ∧
    ∃ l', Relation.ReflTransGen (Link.Step i) l l' ∧ l'.accepted = l.accepted ∧
      List.Forall₂ Arrives l.accepted l'.delivered := by
  obtain ⟨s, h⟩ := hstart.inOrder.run hrun
  refine ⟨h.delivered_in_order, ?_, ?_, ?_⟩
  · exact fun hempty hinFlight => h.delivered_all (h.unsent_of_contents hempty) hinFlight
  · rintro hinFlight hunanswered huncounted ⟨now, hfill⟩
    exact h.delivered_all (h.unsent_of_fill hbuffers hunanswered huncounted hfill) hinFlight
  · obtain ⟨l', s', hcompletion, h', haccepted, hunsent, hinFlight⟩ := h.exists_completion hbuffers
    exact ⟨l', hcompletion, haccepted, haccepted ▸ h'.delivered_all hunsent hinFlight⟩

/-- A connection that has just been set up, on memory with only zeros. -/
def Connection.ready : Connection where
  isConnected := true
  connectionHandle := 0
  writeCharacteristicHandle := 14
  unreliableBuffersFree := 7
  reliableBuffersFree := 1
  packetSendQueue := PacketQueue.new (fun _ => 0) (BitVec.ofNat 16 packetSendBufferSize)
  packetSendPosition := 0
  packetReassemblyBuffer := ⟨fun _ => 0, [], []⟩
  packetReassemblyPosition := 0

/-- A link between two such connections. -/
def Link.ready : Link where
  sender := ⟨fun _ => .ready, 0⟩
  receiver := .ready
  inFlight := []
  unanswered := 0
  uncounted := 0
  accepted := []
  delivered := []

theorem Link.ready_initial : Link.Initial inConnection 7 Link.ready where
  usable := ⟨rfl, by decide, by decide⟩
  queue := ⟨false, .new _⟩
  empty := rfl
  sendPosition := rfl
  reliableBuffersFree := rfl
  unreliableBuffersFree := rfl
  reassemblyPosition := rfl
  reassemblyBuffer := ⟨by simp [ready, Connection.ready], by simp [ready, Connection.ready]⟩
  inFlight := rfl
  unanswered := rfl
  uncounted := rfl
  accepted := rfl
  delivered := rfl

/-- A reliable packet of 21 bytes, which is split. -/
def Packet.twentyOne : Packet where
  bytes := 182 :: List.replicate 20 7
  reliable := true
  nonempty := by decide
  short := by decide
  untimed := by decide

/-- It is queued and sent, and the events of the stack bring it over. -/
theorem packets_delivered_in_order_twentyOne :
    ∃ l', Relation.ReflTransGen (Link.Step inConnection)
        (Link.send inConnection (Link.ready.queuePacket inConnection .twentyOne)
          ((Link.ready.queuePacket inConnection .twentyOne).sender.fillTransmitBuffers
            fun _ => 0)) l' ∧
      l'.accepted = [.twentyOne] ∧ List.Forall₂ Arrives [.twentyOne] l'.delivered := by
  have haccepted : (Link.ready.queuePacket inConnection .twentyOne).accepted = [.twentyOne] := rfl
  have hrun := (Relation.ReflTransGen.single
    (Link.Step.queuePacket (i := inConnection) Link.ready .twentyOne)).tail
    (.fillTransmitBuffers _ fun _ => 0)
  obtain ⟨-, -, -, l', hcompletion, hsame, hdelivered⟩ :=
    packets_delivered_in_order (show (7 : U8) ≠ 0 by decide) Link.ready_initial hrun
  exact ⟨l', hcompletion, hsame.trans haccepted, hdelivered⟩

end FruityMesh.Transport
