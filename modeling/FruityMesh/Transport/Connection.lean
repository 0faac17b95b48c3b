import FruityMesh.ConnPackets
import FruityMesh.PacketQueue

/-!
# Transmitting and receiving packets

The part of `Connection` and `ConnectionManager.cpp` that moves packets: a packet
is put into the send queue of its connection, `fillTransmitBuffers` hands what is
in the queues to the stack, and the stack's acknowledgements come back to
`dataTransmittedCallback`.  A packet of more than 20 bytes is split: its first write
is its first 20 bytes, every later one is a split header of one byte, written into
the queue over a byte that is already transmitted, and 19 more bytes.  At the other
end `messageReceivedCallback` puts the parts together again.

The stack takes every write that it is given: a failing call ends in
`app_error_handler`, which resets the node.
-/

namespace FruityMesh.Transport

open Cells

structure Connection where
  isConnected : Bool
  connectionHandle : U16
  writeCharacteristicHandle : U16
  unreliableBuffersFree : U8
  reliableBuffersFree : U8
  packetSendQueue : PacketQueue
  packetSendPosition : U8
  packetReassemblyBuffer : Memory U8
  packetReassemblyPosition : U8

/-- A write to the mesh characteristic: a write request if it is reliable, a write
command if not. -/
structure Write where
  data : List U8
  reliable : Bool
  deriving DecidableEq, Repr

/-! ## Sending -/

/-- The error codes that `bleWriteCharacteristic` takes for invalid handles. -/
def bleErrorInvalidConnHandle : U16 := 0x3002
def bleErrorInvalidAttrHandle : U16 := 0x3003

/-- `GATTController::bleWriteCharacteristic`: the write that reaches the stack.  With an
invalid handle or no data there is none, and the caller is told the same as after
a success. -/
def bleWriteCharacteristic (connectionHandle characteristicHandle : U16) (data : List U8)
    (reliable : Bool) : Option Write :=
  if connectionHandle = bleErrorInvalidConnHandle ∨
      characteristicHandle = bleErrorInvalidAttrHandle ∨ data.length = 0 then
    none
  else
    some ⟨data, reliable⟩

/-- What one pass of the loop in `fillTransmitBuffers` leaves behind. -/
structure Pass where
  connection : Connection
  write : Option Write
  packetCouldNotBeSent : Bool

namespace Connection

/-- Overwrite bytes of the send buffer. -/
def editQueue (c : Connection) (pointer : ℕ) (bytes : List U8) : Connection :=
  { c with
    packetSendQueue :=
      { c.packetSendQueue with memory := c.packetSendQueue.memory.store pointer bytes } }

/-- The byte of the send buffer that a pointer points to. -/
def sendByte (c : Connection) (pointer : ℕ) : U8 := c.packetSendQueue.memory.cell pointer

/-- The connection after `PeekNext` on its send queue. -/
def peekQueue (c : Connection) : Connection :=
  { c with packetSendQueue := c.packetSendQueue.peekNext.1 }

/-- Choose the part of a packet of more than 20 bytes that is sent next, with the
pointer to it and its size.  A part that is not the first one gets a split header. -/
def nextPart (c : Connection) (data : ℕ) (dataSize : U16) : Connection × ℕ × U16 :=
  if c.packetSendPosition ≠ 0 then
    let newHeader := data + c.packetSendPosition.toNat
    let hasMoreParts : Bool := dataSize.toNat > c.packetSendPosition.toNat + maxDataSizePerWrite
    (c.editQueue newHeader [firstByte hasMoreParts (messageTypeOf (c.sendByte data))], newHeader,
      if hasMoreParts then BitVec.ofNat 16 maxDataSizePerWrite
      else dataSize - c.packetSendPosition.setWidth 16)
  else
    (c.editQueue data [firstByte true (messageTypeOf (c.sendByte data))], data,
      BitVec.ofNat 16 maxDataSizePerWrite)

/-- Send the packet at `data`, or the next part of it, with a write request. -/
def sendReliable (now : U64) (c : Connection) (data : ℕ) (dataSize : U16) : Pass :=
  if c.reliableBuffersFree = 0 then ⟨c, none, true⟩
  else
    let part :=
      if dataSize.toNat > maxDataSizePerWrite then c.nextPart data dataSize else (c, data, dataSize)
    -- the time is filled in as close as possible to the sending
    let stamped :=
      if messageTypeOf (part.1.sendByte part.2.1) = messageTypeUpdateTimestamp then
        part.1.editQueue (part.2.1 + 7) (u64Bytes now)
      else part.1
    ⟨{ stamped with reliableBuffersFree := stamped.reliableBuffersFree - 1 },
      bleWriteCharacteristic stamped.connectionHandle stamped.writeCharacteristicHandle
        (read stamped.packetSendQueue.memory.cell part.2.1 part.2.2.toNat) true,
      false⟩

/-- Send the packet at `data` with a write command. -/
def sendUnreliable (c : Connection) (data : ℕ) (dataSize : U16) : Pass :=
  if c.unreliableBuffersFree = 0 then ⟨c, none, true⟩
  else
    ⟨{ c with
        unreliableBuffersFree := c.unreliableBuffersFree - 1
        packetSendQueue := c.packetSendQueue.discardNext },
      bleWriteCharacteristic c.connectionHandle c.writeCharacteristicHandle
        (read c.packetSendQueue.memory.cell data dataSize.toNat) false,
      false⟩

/-- One pass of the loop in `fillTransmitBuffers`: peek at the oldest packet and send
it, or the next part of it, if a buffer of its kind is free. -/
def transmitNext (now : U64) (c : Connection) : Pass :=
  let packet := c.packetSendQueue.peekNext.2
  match packet.data with
  | none => ⟨c, none, true⟩ -- the queue is not empty here
  | some pointer =>
      let c := c.peekQueue
      let dataSize := packet.length - 1
      if dataSize.toNat > maxDataSizePerWrite then
        -- multi-part messages are only supported reliable
        c.sendReliable now (pointer + 1) dataSize
      else
        let first := firstByte false (messageTypeOf (c.sendByte (pointer + 1)))
        let c' := c.editQueue (pointer + 1) [first]
        if c.sendByte pointer ≠ (0 : U8) then c'.sendReliable now (pointer + 1) dataSize
        else c'.sendUnreliable (pointer + 1) dataSize

/-- What bounds the number of passes: each one uses up a packet or the buffer for a
write request. -/
def passesLeft (c : Connection) : ℕ :=
  c.packetSendQueue.numElements.toNat + c.reliableBuffersFree.toNat

@[simp] theorem editQueue_passesLeft (c : Connection) (pointer : ℕ) (bytes : List U8) :
    (c.editQueue pointer bytes).passesLeft = c.passesLeft := rfl

@[simp] theorem editQueue_reliableBuffersFree (c : Connection) (pointer : ℕ) (bytes : List U8) :
    (c.editQueue pointer bytes).reliableBuffersFree = c.reliableBuffersFree := rfl

theorem passesLeft_reliable {c : Connection} (h : c.reliableBuffersFree ≠ 0) :
    ({ c with reliableBuffersFree := c.reliableBuffersFree - 1 } : Connection).passesLeft <
      c.passesLeft := by
  simp only [passesLeft]
  bv_omega

theorem nextPart_passesLeft (c : Connection) (data : ℕ) (dataSize : U16) :
    (c.nextPart data dataSize).1.passesLeft = c.passesLeft ∧
      (c.nextPart data dataSize).1.reliableBuffersFree = c.reliableBuffersFree := by
  unfold nextPart
  split <;> simp

theorem sendReliable_passesLeft {now : U64} {c : Connection} {data : ℕ} {dataSize : U16}
    (h : (c.sendReliable now data dataSize).packetCouldNotBeSent = false) :
    (c.sendReliable now data dataSize).connection.passesLeft < c.passesLeft := by
  unfold sendReliable at h ⊢
  by_cases hfree : c.reliableBuffersFree = 0
  · rw [if_pos hfree] at h
    exact absurd h (by simp)
  · rw [if_neg hfree]
    have hpart := c.nextPart_passesLeft data dataSize
    -- neither the choice of the part nor the timestamp changes the two counters
    have hkeep : ∀ c' : Connection, c'.passesLeft = c.passesLeft →
        c'.reliableBuffersFree = c.reliableBuffersFree →
        ({ c' with reliableBuffersFree := c'.reliableBuffersFree - 1 } :
          Connection).passesLeft < c.passesLeft := by
      intro c' hleft hbuffers
      rw [← hleft]
      exact passesLeft_reliable (by rwa [hbuffers])
    dsimp only
    split <;> split <;> exact hkeep _ (by simp [hpart]) (by simp [hpart])

theorem sendUnreliable_passesLeft {c : Connection} {data : ℕ} {dataSize : U16}
    (hnum : c.packetSendQueue.numElements ≠ 0)
    (h : (c.sendUnreliable data dataSize).packetCouldNotBeSent = false) :
    (c.sendUnreliable data dataSize).connection.passesLeft < c.passesLeft := by
  unfold sendUnreliable at h ⊢
  by_cases hfree : c.unreliableBuffersFree = 0
  · rw [if_pos hfree] at h
    exact absurd h (by simp)
  · rw [if_neg hfree]
    simp only [passesLeft, PacketQueue.discardNext]
    bv_omega

theorem transmitNext_passesLeft {now : U64} {c : Connection}
    (hnum : c.packetSendQueue.numElements ≠ 0)
    (h : (c.transmitNext now).packetCouldNotBeSent = false) :
    (c.transmitNext now).connection.passesLeft < c.passesLeft := by
  have hpeek : c.packetSendQueue.peekNext.1.numElements = c.packetSendQueue.numElements := by
    unfold PacketQueue.peekNext
    split <;> rfl
  have hleft : c.peekQueue.passesLeft = c.passesLeft := by
    simp only [passesLeft, peekQueue, hpeek]
  unfold transmitNext at h ⊢
  dsimp only at h ⊢
  split at h
  · simp at h
  · split at h
    · rw [if_pos ‹_›, ← hleft]
      exact sendReliable_passesLeft h
    · rw [if_neg ‹_›]
      split at h
      · rw [if_pos ‹_›, ← hleft]
        exact sendReliable_passesLeft h
      · rw [if_neg ‹_›, ← hleft]
        exact sendUnreliable_passesLeft (by simpa [editQueue, peekQueue, hpeek] using hnum) h

/-- The loop over the packets of one connection: the connection and the writes made. -/
def fill (now : U64) (c : Connection) : Connection × List Write :=
  if _hnum : c.packetSendQueue.numElements = 0 then (c, [])
  else
    if _hsent : (c.transmitNext now).packetCouldNotBeSent = false then
      let rest := fill now (c.transmitNext now).connection
      (rest.1, (c.transmitNext now).write.toList ++ rest.2)
    else
      ((c.transmitNext now).connection, [])
termination_by c.passesLeft
decreasing_by exact transmitNext_passesLeft _hnum _hsent

/-! ### The response to a write request -/

/-- The oldest packet, or its last part, is transmitted: discard it. -/
def packetSent (c : Connection) : Connection :=
  { c with
    packetSendPosition := 0
    packetSendQueue := c.packetSendQueue.discardNext
    reliableBuffersFree := c.reliableBuffersFree + 1 }

/-- A part of the oldest packet is transmitted: go on behind it. -/
def partSent (c : Connection) : Connection :=
  { c with
    packetSendPosition := c.packetSendPosition +
      BitVec.ofNat 8 (maxDataSizePerWrite - sizeofConnPacketSplitHeader)
    reliableBuffersFree := c.reliableBuffersFree + 1 }

end Connection

structure ConnectionManager where
  connections : Fin meshMaxConnections → Connection
  pendingPackets : U16

namespace ConnectionManager

/-- Replace one connection. -/
def setConnection (cm : ConnectionManager) (i : Fin meshMaxConnections) (c : Connection) :
    ConnectionManager :=
  { cm with connections := Function.update cm.connections i c }

theorem setConnection_same (cm : ConnectionManager) (i : Fin meshMaxConnections)
    (c : Connection) : (cm.setConnection i c).connections i = c := by
  simp [setConnection]

theorem setConnection_other (cm : ConnectionManager) {i j : Fin meshMaxConnections}
    (hj : j ≠ i) (c : Connection) : (cm.setConnection j c).connections i = cm.connections i := by
  simp [setConnection, Function.update_of_ne hj.symm]

/-- `QueuePacket`.  `Put` takes the length as a byte. -/
def queuePacket (cm : ConnectionManager) (i : Fin meshMaxConnections) (data : List U8)
    (dataLength : U16) (reliable : Bool) : ConnectionManager × Bool :=
  let result := (cm.connections i).packetSendQueue.put data (dataLength.setWidth 8) reliable
  let cm := cm.setConnection i { cm.connections i with packetSendQueue := result.1 }
  (if result.2 then { cm with pendingPackets := cm.pendingPackets + 1 } else cm, result.2)

/-- The length is cut to a byte at once. -/
theorem queuePacket_eq (cm : ConnectionManager) (i : Fin meshMaxConnections) (data : List U8)
    (reliable : Bool) :
    cm.queuePacket i data (BitVec.ofNat 16 data.length) reliable =
      let result := (cm.connections i).packetSendQueue.put data (BitVec.ofNat 8 data.length) reliable
      ({ cm.setConnection i { cm.connections i with packetSendQueue := result.1 } with
          pendingPackets := if result.2 then cm.pendingPackets + 1 else cm.pendingPackets },
        result.2) := by
  have hlength : (BitVec.ofNat 16 data.length).setWidth 8 = BitVec.ofNat 8 data.length := by
    bv_omega
  unfold queuePacket
  rw [hlength]
  dsimp only
  split <;> rfl

/-- `fillTransmitBuffers`: the loops over the connections do not depend on each other.
`now i` is the time that a timestamp packet of connection `i` gets.  Returns the
writes made on each connection. -/
def fillTransmitBuffers (now : Fin meshMaxConnections → U64) (cm : ConnectionManager) :
    ConnectionManager × (Fin meshMaxConnections → List Write) :=
  ({ cm with
      connections := fun i =>
        if (cm.connections i).isConnected then ((cm.connections i).fill (now i)).1
        else cm.connections i },
    fun i => if (cm.connections i).isConnected then ((cm.connections i).fill (now i)).2 else [])

/-- Go on sending if there are packets left. -/
def continueSending (now : Fin meshMaxConnections → U64) (cm : ConnectionManager) :
    ConnectionManager × (Fin meshMaxConnections → List Write) :=
  if cm.pendingPackets ≠ 0 then cm.fillTransmitBuffers now else (cm, fun _ => [])

/-- `dataTransmittedCallback` for a TX_COMPLETE event: the stack has transmitted
`count` write commands of the connection. -/
def txComplete (now : Fin meshMaxConnections → U64) (cm : ConnectionManager)
    (i : Fin meshMaxConnections) (count : U8) :
    ConnectionManager × (Fin meshMaxConnections → List Write) :=
  let c := cm.connections i
  let cm := cm.setConnection i { c with unreliableBuffersFree := c.unreliableBuffersFree + count }
  { cm with pendingPackets := cm.pendingPackets - count.setWidth 16 }.continueSending now

/-- `dataTransmittedCallback` for a WRITE_RSP event with its GATT status, which is zero
after a success.  The header of the part that was sent still stands in the queue and
says whether there are more. -/
def writeRsp (now : Fin meshMaxConnections → U64) (cm : ConnectionManager)
    (i : Fin meshMaxConnections) (gattStatus : U16) :
    ConnectionManager × (Fin meshMaxConnections → List Write) :=
  if gattStatus ≠ 0 then (cm, fun _ => [])
  else
    let c := (cm.connections i).peekQueue
    match (cm.connections i).packetSendQueue.peekNext.2.data with
    | none => (cm, fun _ => []) -- there is no write request without a packet
    | some pointer =>
        let header := c.sendByte (pointer + 1 + c.packetSendPosition.toNat)
        (if hasMorePartsOf header then cm.setConnection i c.partSent
          else
            { cm.setConnection i c.packetSent with
              pendingPackets := cm.pendingPackets - 1 }).continueSending now

end ConnectionManager

/-! ## Receiving -/

/-- A packet on its way to `ReceivePacketHandler`: a pointer to it, and its length. -/
structure ConnectionPacket where
  data : ℕ → U8
  dataLength : U16
  reliable : Bool

/-- The bytes of the packet. -/
def ConnectionPacket.bytes (packet : ConnectionPacket) : List U8 :=
  read packet.data 0 packet.dataLength.toNat

/-- A write event: a pointer to the data, its length, and whether it is a write
command. -/
structure WriteEvent where
  data : ℕ → U8
  len : U16
  writeCommand : Bool

/-- What a write event leads to: the packet that is complete, if any, and the time
that a timestamp packet sets. -/
structure Reception where
  connection : Connection
  packet : Option ConnectionPacket
  globalTime : Option U64

/-- `messageReceivedCallback`, on the connection that the event belongs to. -/
def Connection.messageReceivedCallback (c : Connection) (event : WriteEvent) : Reception :=
  let hasMoreParts := hasMorePartsOf (event.data 0)
  let globalTime :=
    if messageTypeOf (event.data 0) = messageTypeUpdateTimestamp then
      some (ConnPacketUpdateTimestamp.ofMemory event.data).timestamp
    else none
  -- `len - SIZEOF_CONN_PACKET_SPLIT_HEADER`, as the size that `memcpy` takes
  let partLength : U32 := event.len.setWidth 32 - BitVec.ofNat 32 sizeofConnPacketSplitHeader
  if c.packetReassemblyPosition = 0 then
    if hasMoreParts then
      -- first of a multipart packet
      ⟨{ c with
          packetReassemblyBuffer :=
            c.packetReassemblyBuffer.store 0 (read event.data 0 event.len.toNat)
          packetReassemblyPosition := c.packetReassemblyPosition + event.len.setWidth 8 },
        none, globalTime⟩
    else
      -- single packet, no more data
      ⟨c, some ⟨event.data, event.len, !event.writeCommand⟩, globalTime⟩
  else
    -- intermediate or last part
    let buffer := c.packetReassemblyBuffer.store c.packetReassemblyPosition.toNat
      (read event.data sizeofConnPacketSplitHeader partLength.toNat)
    if hasMoreParts then
      ⟨{ c with
          packetReassemblyBuffer := buffer
          packetReassemblyPosition := c.packetReassemblyPosition + partLength.setWidth 8 },
        none, globalTime⟩
    else
      ⟨{ c with packetReassemblyBuffer := buffer, packetReassemblyPosition := 0 },
        some ⟨buffer.cell,
          event.len + c.packetReassemblyPosition.setWidth 16 -
            BitVec.ofNat 16 sizeofConnPacketSplitHeader,
          !event.writeCommand⟩,
        globalTime⟩

end FruityMesh.Transport
