import FruityMesh.Transport.Connection

/-!
# Splitting a packet and putting it together

What a packet looks like on the link, and what the receiving end makes of it.
A packet of up to 20 bytes is one write; a longer one is a row of writes, each of
them a byte that says whether more follow and up to 19 more bytes (`writes`).

The receiver is described without its buffer: `assemble` takes what has been put
together so far and one more write.  `assembleAll_writes` says that the writes of a
packet give exactly that packet, with the bit for more parts set in its first byte
if it was split.  `Assembling` connects this to `messageReceivedCallback`.
-/

namespace FruityMesh.Transport

open Cells

/-! ## The writes of a packet -/

/-- The message type in the first byte of a packet. -/
def packetType (packet : List U8) : MessageType := messageTypeOf (packet.headD 0)

/-- A packet that the queue takes and that is transmitted as it is. -/
structure Packet where
  bytes : List U8
  reliable : Bool
  nonempty : 0 < bytes.length
  short : bytes.length ≤ 200
  untimed : packetType bytes ≠ messageTypeUpdateTimestamp

namespace Packet

/-- The packet does not fit into one write. -/
def split (p : Packet) : Bool := maxDataSizePerWrite < p.bytes.length

/-- The packet is sent with write requests. -/
def byRequest (p : Packet) : Bool := p.reliable || p.split

end Packet

/-- The parts of what is left of a packet, each with a header of one byte. -/
def parts (messageType : MessageType) (payload : List U8) : List (List U8) :=
  if payload.length < maxDataSizePerWrite then [firstByte false messageType :: payload]
  else
    (firstByte true messageType :: payload.take (maxDataSizePerWrite - 1)) ::
      parts messageType (payload.drop (maxDataSizePerWrite - 1))
termination_by payload.length
decreasing_by
  simp only [maxDataSizePerWrite, List.length_drop] at *
  omega

namespace Packet

/-- The writes of the packet from the byte at `position` on, which is a header: of the
packet itself or of one of its parts. -/
def writesFrom (p : Packet) (position : ℕ) : List Write :=
  (parts (packetType p.bytes) (p.bytes.drop (position + 1))).map fun data => ⟨data, p.byRequest⟩

/-- The writes of the packet. -/
def writes (p : Packet) : List Write := p.writesFrom 0

end Packet

theorem parts_of_lt {messageType : MessageType} {payload : List U8} (h : payload.length < 20) :
    parts messageType payload = [firstByte false messageType :: payload] := by
  rw [parts, if_pos (by simpa [maxDataSizePerWrite] using h)]

theorem parts_of_ge {messageType : MessageType} {payload : List U8} (h : 20 ≤ payload.length) :
    parts messageType payload =
      (firstByte true messageType :: payload.take 19) :: parts messageType (payload.drop 19) := by
  rw [parts, if_neg (by simpa [maxDataSizePerWrite] using h)]
  rfl

/-- No part is empty or too long for a write. -/
theorem length_of_mem_parts {messageType : MessageType} {payload part : List U8}
    (h : part ∈ parts messageType payload) : 0 < part.length ∧ part.length ≤ 20 := by
  induction payload using parts.induct with
  | case1 payload hlt =>
      simp only [maxDataSizePerWrite] at hlt
      rw [parts_of_lt hlt, List.mem_singleton] at h
      subst h
      simp only [List.length_cons]
      omega
  | case2 payload hge ih =>
      simp only [maxDataSizePerWrite, Nat.not_lt] at hge
      rw [parts_of_ge hge] at h
      rcases List.mem_cons.mp h with rfl | h
      · simp only [List.length_cons, List.length_take]
        omega
      · exact ih h

theorem Packet.length_of_mem_writes {p : Packet} {write : Write} (h : write ∈ p.writes) :
    0 < write.data.length ∧ write.data.length ≤ 20 := by
  obtain ⟨part, hpart, rfl⟩ := List.mem_map.mp h
  exact length_of_mem_parts hpart

/-! ## What the receiver makes of them -/

/-- A packet that is handed to `ReceivePacketHandler`. -/
structure Message where
  bytes : List U8
  reliable : Bool
  deriving DecidableEq, Repr

/-- The packet with the bit for more parts as it arrives: set if the packet was split. -/
def Packet.message (p : Packet) : Message :=
  ⟨firstByte p.split (packetType p.bytes) :: p.bytes.drop 1, p.byRequest⟩

/-- The packet arrives as it was queued, except for the bit for more parts. -/
structure Arrives (p : Packet) (message : Message) : Prop where
  length : message.bytes.length = p.bytes.length
  type : packetType message.bytes = packetType p.bytes
  bytes : message.bytes.drop 1 = p.bytes.drop 1
  hasMoreParts : hasMorePartsOf (message.bytes.headD 0) = decide (20 < p.bytes.length)

theorem Packet.arrives_message (p : Packet) : Arrives p p.message := by
  refine ⟨?_, by simp [message, packetType], rfl, hasMorePartsOf_firstByte _ _⟩
  have := p.nonempty
  simp only [message, List.length_cons, List.length_drop]
  omega

/-- What a write adds to a part of a packet: all of it if it is the first one, else all
but the header. -/
def extend (part : List U8) (write : Write) : List U8 :=
  if part = [] then write.data else part ++ write.data.drop sizeofConnPacketSplitHeader

/-- Receive a write: what is put together then, and the packet that is complete. -/
def assemble (part : List U8) (write : Write) : List U8 × Option Message :=
  if hasMorePartsOf (write.data.headD 0) then (extend part write, none)
  else ([], some ⟨extend part write, write.reliable⟩)

/-- Receive writes one after the other. -/
def assembleAll : List U8 → List Write → List U8 × List Message
  | part, [] => (part, [])
  | part, write :: rest =>
      ((assembleAll (assemble part write).1 rest).1,
        (assemble part write).2.toList ++ (assembleAll (assemble part write).1 rest).2)

theorem assembleAll_append (part : List U8) (first second : List Write) :
    assembleAll part (first ++ second) =
      ((assembleAll (assembleAll part first).1 second).1,
        (assembleAll part first).2 ++ (assembleAll (assembleAll part first).1 second).2) := by
  induction first generalizing part with
  | nil => rfl
  | cons write rest ih =>
      simp only [List.cons_append, assembleAll, ih, List.append_assoc]

/-- A part that has begun is completed by the parts behind it. -/
theorem assembleAll_parts {part : List U8} (hpart : part ≠ []) (messageType : MessageType)
    (payload : List U8) (reliable : Bool) :
    assembleAll part ((parts messageType payload).map fun data => ⟨data, reliable⟩) =
      ([], [⟨part ++ payload, reliable⟩]) := by
  induction payload using parts.induct generalizing part with
  | case1 payload hlt =>
      simp only [maxDataSizePerWrite] at hlt
      rw [parts_of_lt hlt]
      simp [assembleAll, assemble, extend, hpart, sizeofConnPacketSplitHeader]
  | case2 payload hge ih =>
      simp only [maxDataSizePerWrite, Nat.not_lt] at hge
      rw [parts_of_ge hge, List.map_cons, assembleAll]
      have hstep : assemble part ⟨firstByte true messageType :: payload.take 19, reliable⟩ =
          (part ++ payload.take 19, none) := by
        simp [assemble, extend, hpart, sizeofConnPacketSplitHeader]
      have hrest := ih (show part ++ payload.take 19 ≠ [] by simp [hpart])
      simp only [maxDataSizePerWrite, Nat.add_one_sub_one] at hrest
      rw [hstep, hrest]
      simp [List.append_assoc, List.take_append_drop]

/-- The writes of a packet give that packet. -/
theorem assembleAll_writes (p : Packet) : assembleAll [] p.writes = ([], [p.message]) := by
  have hlength : (p.bytes.drop 1).length + 1 = p.bytes.length := by
    have := p.nonempty
    simp only [List.length_drop]
    omega
  rw [Packet.writes, Packet.writesFrom, Nat.zero_add]
  rcases Nat.lt_or_ge (p.bytes.drop 1).length 20 with hlt | hge
  · rw [parts_of_lt hlt]
    have hsplit : p.split = false :=
      decide_eq_false (show ¬ 20 < p.bytes.length by omega)
    simp [assembleAll, assemble, extend, Packet.message, hsplit]
  · rw [parts_of_ge hge, List.map_cons, assembleAll]
    have hsplit : p.split = true := decide_eq_true (show 20 < p.bytes.length by omega)
    have hstep : assemble [] ⟨firstByte true (packetType p.bytes) ::
        (p.bytes.drop 1).take 19, p.byRequest⟩ =
        (firstByte true (packetType p.bytes) :: (p.bytes.drop 1).take 19, none) := by
      simp [assemble, extend]
    rw [hstep, assembleAll_parts (List.cons_ne_nil _ _)]
    simp only [Option.toList_none, List.nil_append, Packet.message, hsplit, List.cons_append,
      List.take_append_drop]

/-- Whoever has begun a packet and comes to its end has begun the packet that is
completed next. -/
theorem assembleAll_begun {part : List U8} {ws : List Write} {messages : List Message}
    (h : assembleAll part ws = ([], messages)) :
    part = [] ∨ ∃ message ∈ messages, part <+: message.bytes := by
  induction ws generalizing part messages with
  | nil => exact .inl (congrArg Prod.fst h)
  | cons write rest ih =>
      by_cases hpart : part = []
      · exact .inl hpart
      have hextend : part <+: extend part write := by
        rw [extend, if_neg hpart]
        exact List.prefix_append _ _
      obtain ⟨hfst, hsnd⟩ := Prod.mk.inj h
      subst hsnd
      refine .inr ?_
      by_cases hmore : hasMorePartsOf (write.data.headD 0)
      · have hstep : assemble part write = (extend part write, none) := by
          rw [assemble, if_pos hmore]
        rw [hstep] at hfst ⊢
        rcases ih (Prod.ext hfst rfl) with hnil | ⟨message, hmem, hbegun⟩
        · rw [show extend part write = [] from hnil] at hextend
          exact absurd (List.prefix_nil.mp hextend) hpart
        · exact ⟨message, by simpa using hmem, hextend.trans hbegun⟩
      · have hstep : assemble part write = ([], some ⟨extend part write, write.reliable⟩) := by
          rw [assemble, if_neg hmore]
        rw [hstep]
        exact ⟨⟨extend part write, write.reliable⟩, by simp, hextend⟩

/-- What is put together is never longer than the packets that are completed. -/
theorem length_extend_le {part : List U8} {write : Write} {rest : List Write}
    {messages : List Message} {n : ℕ} (h : assembleAll part (write :: rest) = ([], messages))
    (hmessages : ∀ message ∈ messages, message.bytes.length ≤ n) :
    (extend part write).length ≤ n := by
  obtain ⟨hfst, rfl⟩ := Prod.mk.inj h
  by_cases hmore : hasMorePartsOf (write.data.headD 0)
  · have hstep : assemble part write = (extend part write, none) := by
      rw [assemble, if_pos hmore]
    rw [hstep] at hfst hmessages
    rcases assembleAll_begun (Prod.ext hfst rfl) with hnil | ⟨message, hmem, hbegun⟩
    · rw [show extend part write = [] from hnil]
      exact Nat.zero_le n
    · exact hbegun.length_le.trans (hmessages message (by simpa using hmem))
  · have hstep : assemble part write = ([], some ⟨extend part write, write.reliable⟩) := by
      rw [assemble, if_neg hmore]
    rw [hstep] at hmessages
    exact hmessages ⟨extend part write, write.reliable⟩ (by simp)

/-! ## `messageReceivedCallback` -/

/-- The event of a write, on memory with any contents. -/
def Write.event (write : Write) (memory : ℕ → U8) : WriteEvent where
  data := overwrite memory 0 write.data
  len := BitVec.ofNat 16 write.data.length
  writeCommand := !write.reliable

/-- The packet, as its handler reads it. -/
def ConnectionPacket.message (packet : ConnectionPacket) : Message :=
  ⟨packet.bytes, packet.reliable⟩

/-- The reassembly buffer holds `part`, and no store has left it. -/
structure Assembling (c : Connection) (part : List U8) : Prop where
  position : c.packetReassemblyPosition.toNat = part.length
  buffer : Holds c.packetReassemblyBuffer.cell 0 part
  accesses : c.packetReassemblyBuffer.AccessesWithin packetReassemblyBufferSize

variable {c : Connection} {part : List U8} {write : Write}

/-- `messageReceivedCallback` does what `assemble` says, provided that a write has 1 to 20
bytes and that a part and a packet have at most 200. -/
theorem Assembling.messageReceivedCallback (h : Assembling c part) (memory : ℕ → U8)
    (hwrite : 0 < write.data.length ∧ write.data.length ≤ 20)
    (hfit : (extend part write).length ≤ 200) :
    Assembling (c.messageReceivedCallback (write.event memory)).connection
        (assemble part write).1 ∧
      (c.messageReceivedCallback (write.event memory)).packet.map ConnectionPacket.message =
        (assemble part write).2 := by
  have hdata : Holds (write.event memory).data 0 write.data := holds_overwrite memory 0 write.data
  have hfirst : (write.event memory).data 0 = write.data.headD 0 := by
    obtain ⟨first, rest, heq⟩ := List.exists_cons_of_length_pos hwrite.1
    rw [heq] at hdata ⊢
    exact (holds_cons.mp hdata).1
  have hlen : (write.event memory).len.toNat = write.data.length := by
    simp only [Write.event, BitVec.toNat_ofNat]
    omega
  have hreliable : (!(write.event memory).writeCommand) = write.reliable :=
    Bool.not_not write.reliable
  -- the first write goes to the start of the buffer
  by_cases hpart : part = []
  · subst hpart
    have hposition : c.packetReassemblyPosition = 0 := BitVec.eq_of_toNat_eq h.position
    have hread : read (write.event memory).data 0 (write.event memory).len.toNat = write.data := by
      rw [hlen]
      exact hdata.read_eq
    simp only [Connection.messageReceivedCallback, if_pos hposition, hfirst, assemble, extend,
      if_true]
    by_cases hmore : hasMorePartsOf (write.data.headD 0)
    · simp only [if_pos hmore, hread]
      refine ⟨⟨?_, holds_overwrite _ 0 write.data, h.accesses.store ?_⟩, rfl⟩
      · show (c.packetReassemblyPosition + (write.event memory).len.setWidth 8 : U8).toNat =
          write.data.length
        rw [hposition]
        bv_omega
      · simp only [packetReassemblyBufferSize]
        omega
    · simp only [if_neg hmore]
      refine ⟨h, ?_⟩
      simp only [Option.map_some, ConnectionPacket.message, ConnectionPacket.bytes, hread,
        hreliable]
  · have hposition : c.packetReassemblyPosition ≠ 0 := by
      intro hzero
      have := h.position
      rw [hzero] at this
      exact hpart (List.eq_nil_of_length_eq_zero this.symm)
    rw [extend, if_neg hpart, List.length_append, List.length_drop,
      sizeofConnPacketSplitHeader] at hfit
    have hpartLength : ((write.event memory).len.setWidth 32 -
        BitVec.ofNat 32 sizeofConnPacketSplitHeader : U32).toNat = write.data.length - 1 := by
      simp only [sizeofConnPacketSplitHeader]
      bv_omega
    have hread : read (write.event memory).data sizeofConnPacketSplitHeader
        (write.data.length - 1) = write.data.drop sizeofConnPacketSplitHeader := by
      obtain ⟨first, rest, heq⟩ := List.exists_cons_of_length_pos hwrite.1
      rw [heq] at hdata ⊢
      exact (holds_cons.mp hdata).2.read_eq
    -- the bytes behind the header are stored behind the part
    have hbuffer : Holds (overwrite c.packetReassemblyBuffer.cell
        c.packetReassemblyPosition.toNat (write.data.drop sizeofConnPacketSplitHeader)) 0
        (part ++ write.data.drop sizeofConnPacketSplitHeader) := by
      refine holds_append.mpr ⟨h.buffer.overwrite_after _ (by rw [h.position]; omega), ?_⟩
      rw [Nat.zero_add, ← h.position]
      exact holds_overwrite _ _ _
    have haccesses : (c.packetReassemblyBuffer.store c.packetReassemblyPosition.toNat
        (write.data.drop sizeofConnPacketSplitHeader)).AccessesWithin
          packetReassemblyBufferSize := by
      refine h.accesses.store ?_
      simp only [h.position, List.length_drop, sizeofConnPacketSplitHeader,
        packetReassemblyBufferSize]
      omega
    simp only [Connection.messageReceivedCallback, if_neg hposition, hfirst, assemble, extend,
      if_neg hpart, hpartLength, hread]
    have hpos := h.position
    by_cases hmore : hasMorePartsOf (write.data.headD 0)
    · simp only [if_pos hmore]
      refine ⟨⟨?_, hbuffer, haccesses⟩, rfl⟩
      simp only [List.length_append, List.length_drop, sizeofConnPacketSplitHeader] at *
      bv_omega
    -- the last write: the whole buffer is handed on, and the position is reset
    · simp only [if_neg hmore]
      refine ⟨⟨rfl, holds_nil _ 0, haccesses⟩, ?_⟩
      have hlength : ((write.event memory).len + c.packetReassemblyPosition.setWidth 16 -
          BitVec.ofNat 16 sizeofConnPacketSplitHeader).toNat =
          (part ++ write.data.drop sizeofConnPacketSplitHeader).length := by
        simp only [List.length_append, List.length_drop, sizeofConnPacketSplitHeader] at *
        bv_omega
      simp only [Option.map_some, ConnectionPacket.message, ConnectionPacket.bytes, hlength,
        Memory.store_cell, hbuffer.read_eq, hreliable]

end FruityMesh.Transport
