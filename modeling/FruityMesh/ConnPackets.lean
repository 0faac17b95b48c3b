import FruityMesh.Library.LittleEndian
import FruityMesh.Types

/-!
# The packets of the mesh

`conn_packets.h` defines each packet twice: as a packed struct, and as a
hand-written size that the sender transmits and the receiver checks.  Here a
struct is a structure with its `bytes`, in the order and width of its fields, and
`ofMemory` reads it from the memory that a pointer to it points to.

The header struct has 7 bytes, a byte with two bit fields and three node ids; its
size constant is 6.  Every size constant of a packet adds the one of the header to
that of its payload, so the last byte of each struct is not transmitted
(`MeshPacket.bytes_eq_kept_append`), and a receiver takes what lies behind the
packet for it (`MeshPacket.recovered_iff`).
-/

namespace FruityMesh

open Cells LittleEndian

/-! ## Fields in memory -/

def u16At (memory : ℕ → U8) (offset : ℕ) : U16 := fieldAt 2 memory offset

def u32At (memory : ℕ → U8) (offset : ℕ) : U32 := fieldAt 4 memory offset

def u64At (memory : ℕ → U8) (offset : ℕ) : U64 := fieldAt 8 memory offset

def u16Bytes (value : U16) : List U8 := encode 2 value.toNat

def u32Bytes (value : U32) : List U8 := encode 4 value.toNat

def u64Bytes (value : U64) : List U8 := encode 8 value.toNat

@[simp] theorem length_u16Bytes (value : U16) : (u16Bytes value).length = 2 := length_encode 2 _

@[simp] theorem length_u32Bytes (value : U32) : (u32Bytes value).length = 4 := length_encode 4 _

@[simp] theorem length_u64Bytes (value : U64) : (u64Bytes value).length = 8 := length_encode 8 _

theorem u16At_eq {memory : ℕ → U8} {offset : ℕ} {value : U16}
    (h : Holds memory offset (u16Bytes value)) : u16At memory offset = value :=
  fieldAt_eq_iff.mpr h

theorem u32At_eq {memory : ℕ → U8} {offset : ℕ} {value : U32}
    (h : Holds memory offset (u32Bytes value)) : u32At memory offset = value :=
  fieldAt_eq_iff.mpr h

/-! ## The header -/

/-- The first byte of a packet: bit 0 says whether more parts follow. -/
def firstByte (hasMoreParts : Bool) (messageType : MessageType) : U8 :=
  BitVec.ofNat 8 (2 * messageType.toNat + hasMoreParts.toNat)

def hasMorePartsOf (first : U8) : Bool := first.toNat % 2 = 1

def messageTypeOf (first : U8) : MessageType := BitVec.ofNat 7 (first.toNat / 2)

@[simp] theorem messageTypeOf_firstByte (hasMoreParts : Bool) (messageType : MessageType) :
    messageTypeOf (firstByte hasMoreParts messageType) = messageType := by
  apply BitVec.eq_of_toNat_eq
  have hbit : hasMoreParts.toNat < 2 := hasMoreParts.toNat_lt
  have htype : messageType.toNat < 2 ^ 7 := messageType.isLt
  simp only [messageTypeOf, firstByte, BitVec.toNat_ofNat]
  omega

@[simp] theorem hasMorePartsOf_firstByte (hasMoreParts : Bool) (messageType : MessageType) :
    hasMorePartsOf (firstByte hasMoreParts messageType) = hasMoreParts := by
  have htype : messageType.toNat < 2 ^ 7 := messageType.isLt
  have hmod : (2 * messageType.toNat + hasMoreParts.toNat) % 2 ^ 8 =
      2 * messageType.toNat + hasMoreParts.toNat := by
    have := hasMoreParts.toNat_lt
    omega
  simp only [hasMorePartsOf, firstByte, BitVec.toNat_ofNat, hmod]
  cases hasMoreParts <;> simp

structure ConnPacketHeader where
  hasMoreParts : Bool
  messageType : MessageType
  sender : NodeId
  receiver : NodeId
  remoteReceiver : NodeId
  deriving DecidableEq, Repr

namespace ConnPacketHeader

def bytes (header : ConnPacketHeader) : List U8 :=
  firstByte header.hasMoreParts header.messageType ::
    (u16Bytes header.sender ++ u16Bytes header.receiver ++ u16Bytes header.remoteReceiver)

@[simp] theorem length_bytes (header : ConnPacketHeader) : header.bytes.length = 7 := by
  simp [bytes]

def ofMemory (memory : ℕ → U8) : ConnPacketHeader where
  hasMoreParts := hasMorePartsOf (memory 0)
  messageType := messageTypeOf (memory 0)
  sender := u16At memory 1
  receiver := u16At memory 3
  remoteReceiver := u16At memory 5

theorem ofMemory_eq {memory : ℕ → U8} {header : ConnPacketHeader}
    (h : Holds memory 0 header.bytes) : ofMemory memory = header := by
  obtain ⟨hfirst, hids⟩ := holds_cons.mp h
  obtain ⟨hpair, hremote⟩ := holds_append.mp hids
  obtain ⟨hsender, hreceiver⟩ := holds_append.mp hpair
  simp only [List.length_append, length_u16Bytes] at hremote hreceiver
  simp only [ofMemory, hfirst, hasMorePartsOf_firstByte, messageTypeOf_firstByte,
    u16At_eq hsender, u16At_eq hreceiver, u16At_eq hremote]

end ConnPacketHeader

def sizeofConnPacketHeader : ℕ := 6

def sizeofConnPacketSplitHeader : ℕ := 1

/-! ## The packets -/

structure ConnPacketClusterWelcome where
  header : ConnPacketHeader
  clusterId : ClusterId
  clusterSize : ClusterSize
  meshWriteHandle : U16
  hopsToSink : ClusterSize
  deriving DecidableEq, Repr

def sizeofConnPacketClusterWelcome : ℕ := sizeofConnPacketHeader + 10

structure ConnPacketClusterAck1 where
  header : ConnPacketHeader
  hopsToSink : ClusterSize
  reserved : U8
  deriving DecidableEq, Repr

def sizeofConnPacketClusterAck1 : ℕ := sizeofConnPacketHeader + 3

structure ConnPacketClusterAck2 where
  header : ConnPacketHeader
  clusterId : ClusterId
  clusterSize : ClusterSize
  deriving DecidableEq, Repr

def sizeofConnPacketClusterAck2 : ℕ := sizeofConnPacketHeader + 6

structure ConnPacketClusterInfoUpdate where
  header : ConnPacketHeader
  currentClusterId : ClusterId
  newClusterId : ClusterId
  clusterSizeChange : ClusterSize
  hopsToSink : ClusterSize
  deriving DecidableEq, Repr

def sizeofConnPacketClusterInfoUpdate : ℕ := sizeofConnPacketHeader + 12

structure ConnPacketUpdateTimestamp where
  header : ConnPacketHeader
  timestamp : U64
  deriving DecidableEq, Repr

def sizeofConnPacketUpdateTimestamp : ℕ := sizeofConnPacketHeader + 8

namespace ConnPacketClusterWelcome

def bytes (packet : ConnPacketClusterWelcome) : List U8 :=
  packet.header.bytes ++ u32Bytes packet.clusterId ++ u16Bytes packet.clusterSize ++
    u16Bytes packet.meshWriteHandle ++ u16Bytes packet.hopsToSink

def ofMemory (memory : ℕ → U8) : ConnPacketClusterWelcome where
  header := .ofMemory memory
  clusterId := u32At memory 7
  clusterSize := u16At memory 11
  meshWriteHandle := u16At memory 13
  hopsToSink := u16At memory 15

end ConnPacketClusterWelcome

namespace ConnPacketClusterAck1

def bytes (packet : ConnPacketClusterAck1) : List U8 :=
  packet.header.bytes ++ u16Bytes packet.hopsToSink ++ [packet.reserved]

def ofMemory (memory : ℕ → U8) : ConnPacketClusterAck1 where
  header := .ofMemory memory
  hopsToSink := u16At memory 7
  reserved := memory 9

end ConnPacketClusterAck1

namespace ConnPacketClusterAck2

def bytes (packet : ConnPacketClusterAck2) : List U8 :=
  packet.header.bytes ++ u32Bytes packet.clusterId ++ u16Bytes packet.clusterSize

def ofMemory (memory : ℕ → U8) : ConnPacketClusterAck2 where
  header := .ofMemory memory
  clusterId := u32At memory 7
  clusterSize := u16At memory 11

end ConnPacketClusterAck2

namespace ConnPacketClusterInfoUpdate

def bytes (packet : ConnPacketClusterInfoUpdate) : List U8 :=
  packet.header.bytes ++ u32Bytes packet.currentClusterId ++ u32Bytes packet.newClusterId ++
    u16Bytes packet.clusterSizeChange ++ u16Bytes packet.hopsToSink

def ofMemory (memory : ℕ → U8) : ConnPacketClusterInfoUpdate where
  header := .ofMemory memory
  currentClusterId := u32At memory 7
  newClusterId := u32At memory 11
  clusterSizeChange := u16At memory 15
  hopsToSink := u16At memory 17

end ConnPacketClusterInfoUpdate

namespace ConnPacketUpdateTimestamp

def bytes (packet : ConnPacketUpdateTimestamp) : List U8 :=
  packet.header.bytes ++ u64Bytes packet.timestamp

def ofMemory (memory : ℕ → U8) : ConnPacketUpdateTimestamp where
  header := .ofMemory memory
  timestamp := u64At memory 7

end ConnPacketUpdateTimestamp

/-! ## Sending and receiving -/

/-- The packets of fixed size. -/
inductive MeshPacket
  | clusterWelcome (packet : ConnPacketClusterWelcome)
  | clusterAck1 (packet : ConnPacketClusterAck1)
  | clusterAck2 (packet : ConnPacketClusterAck2)
  | clusterInfoUpdate (packet : ConnPacketClusterInfoUpdate)
  | updateTimestamp (packet : ConnPacketUpdateTimestamp)
  deriving DecidableEq, Repr

namespace MeshPacket

/-- The packed struct. -/
def bytes : MeshPacket → List U8
  | clusterWelcome packet => packet.bytes
  | clusterAck1 packet => packet.bytes
  | clusterAck2 packet => packet.bytes
  | clusterInfoUpdate packet => packet.bytes
  | updateTimestamp packet => packet.bytes

/-- The size that is handed to `SendMessage` and checked by the receiver. -/
def size : MeshPacket → ℕ
  | clusterWelcome _ => sizeofConnPacketClusterWelcome
  | clusterAck1 _ => sizeofConnPacketClusterAck1
  | clusterAck2 _ => sizeofConnPacketClusterAck2
  | clusterInfoUpdate _ => sizeofConnPacketClusterInfoUpdate
  | updateTimestamp _ => sizeofConnPacketUpdateTimestamp

/-- The bytes that are transmitted. -/
def sent (packet : MeshPacket) : List U8 := packet.bytes.take packet.size

/-- What the receiver's pointer points to: the bytes of the packet, and behind
them what the memory held before. -/
def memoryOf (packet : MeshPacket) (behind : ℕ → U8) : ℕ → U8 := overwrite behind 0 packet.sent

/-- The packet that the receiver reads through a pointer to the struct. -/
def received (packet : MeshPacket) (behind : ℕ → U8) : MeshPacket :=
  match packet with
  | clusterWelcome _ => clusterWelcome (.ofMemory (packet.memoryOf behind))
  | clusterAck1 _ => clusterAck1 (.ofMemory (packet.memoryOf behind))
  | clusterAck2 _ => clusterAck2 (.ofMemory (packet.memoryOf behind))
  | clusterInfoUpdate _ => clusterInfoUpdate (.ofMemory (packet.memoryOf behind))
  | updateTimestamp _ => updateTimestamp (.ofMemory (packet.memoryOf behind))

/-- The packet without what its handler does not read: the reserved byte of an
ACK_1 and the remote receiver of any of them. -/
def read : MeshPacket → MeshPacket
  | clusterWelcome p => clusterWelcome { p with header := { p.header with remoteReceiver := 0 } }
  | clusterAck1 p =>
      clusterAck1 { p with header := { p.header with remoteReceiver := 0 }, reserved := 0 }
  | clusterAck2 p => clusterAck2 { p with header := { p.header with remoteReceiver := 0 } }
  | clusterInfoUpdate p =>
      clusterInfoUpdate { p with header := { p.header with remoteReceiver := 0 } }
  | updateTimestamp p => updateTimestamp { p with header := { p.header with remoteReceiver := 0 } }

/-- The receiver recovers every field that the handler of the packet reads. -/
def Recovered (packet : MeshPacket) (behind : ℕ → U8) : Prop :=
  (packet.received behind).read = packet.read

/-- The byte behind the received ones is the byte of the struct that was cut off,
unless that is the reserved byte of an ACK_1. -/
def CutByteBehind (packet : MeshPacket) (behind : ℕ → U8) : Prop :=
  match packet with
  | clusterWelcome p => behind packet.size = @topByte 1 p.hopsToSink
  | clusterAck1 _ => True
  | clusterAck2 p => behind packet.size = @topByte 1 p.clusterSize
  | clusterInfoUpdate p => behind packet.size = @topByte 1 p.hopsToSink
  | updateTimestamp p => behind packet.size = @topByte 7 p.timestamp

/-- The bytes of the struct that come before the one that is cut off. -/
def kept : MeshPacket → List U8
  | clusterWelcome p =>
      p.header.bytes ++ u32Bytes p.clusterId ++ u16Bytes p.clusterSize ++
        u16Bytes p.meshWriteHandle ++ @lowBytes 1 p.hopsToSink
  | clusterAck1 p => p.header.bytes ++ u16Bytes p.hopsToSink
  | clusterAck2 p => p.header.bytes ++ u32Bytes p.clusterId ++ @lowBytes 1 p.clusterSize
  | clusterInfoUpdate p =>
      p.header.bytes ++ u32Bytes p.currentClusterId ++ u32Bytes p.newClusterId ++
        u16Bytes p.clusterSizeChange ++ @lowBytes 1 p.hopsToSink
  | updateTimestamp p => p.header.bytes ++ @lowBytes 7 p.timestamp

/-- The byte of the struct that is cut off. -/
def cut : MeshPacket → U8
  | clusterWelcome p => @topByte 1 p.hopsToSink
  | clusterAck1 p => p.reserved
  | clusterAck2 p => @topByte 1 p.clusterSize
  | clusterInfoUpdate p => @topByte 1 p.hopsToSink
  | updateTimestamp p => @topByte 7 p.timestamp

theorem length_kept (packet : MeshPacket) : packet.kept.length = packet.size := by
  cases packet <;> simp [kept, size] <;> rfl

/-- The struct of every packet is one byte longer than what is transmitted. -/
theorem bytes_eq_kept_append (packet : MeshPacket) :
    packet.bytes = packet.kept ++ [packet.cut] := by
  cases packet with
  | clusterWelcome p =>
      have hlast := @fieldBytes_eq_append 1 p.hopsToSink
      simp only [bytes, ConnPacketClusterWelcome.bytes, kept, cut, List.append_assoc, ← hlast]
      rfl
  | clusterAck1 p => rfl
  | clusterAck2 p =>
      have hlast := @fieldBytes_eq_append 1 p.clusterSize
      simp only [bytes, ConnPacketClusterAck2.bytes, kept, cut, List.append_assoc, ← hlast]
      rfl
  | clusterInfoUpdate p =>
      have hlast := @fieldBytes_eq_append 1 p.hopsToSink
      simp only [bytes, ConnPacketClusterInfoUpdate.bytes, kept, cut, List.append_assoc, ← hlast]
      rfl
  | updateTimestamp p =>
      have hlast := @fieldBytes_eq_append 7 p.timestamp
      simp only [bytes, ConnPacketUpdateTimestamp.bytes, kept, cut, List.append_assoc, ← hlast]
      rfl

theorem sent_eq_kept (packet : MeshPacket) : packet.sent = packet.kept := by
  rw [sent, bytes_eq_kept_append, ← length_kept, List.take_left]

theorem holds_memoryOf (packet : MeshPacket) (behind : ℕ → U8) :
    Holds (packet.memoryOf behind) 0 packet.kept := by
  rw [memoryOf, sent_eq_kept]
  exact holds_overwrite behind 0 packet.kept

theorem memoryOf_size (packet : MeshPacket) (behind : ℕ → U8) :
    packet.memoryOf behind packet.size = behind packet.size := by
  rw [memoryOf, sent_eq_kept, overwrite_of_ge]
  rw [length_kept, Nat.zero_add]

/-- **What a receiver recovers.**  The fields that the handler reads have the values
that the sender wrote exactly if the byte behind the packet is the one that was cut
off; of an ACK_1 it is not read. -/
theorem recovered_iff (packet : MeshPacket) (behind : ℕ → U8) :
    packet.Recovered behind ↔ packet.CutByteBehind behind := by
  have hholds := holds_memoryOf packet behind
  have hcut := memoryOf_size packet behind
  cases packet with
  | clusterWelcome p =>
      simp only [kept, holds_append, Nat.zero_add, ConnPacketHeader.length_bytes,
        length_u16Bytes, length_u32Bytes, List.length_append, Nat.reduceAdd] at hholds
      obtain ⟨⟨⟨⟨hheader, hid⟩, hsize⟩, hhandle⟩, hhops⟩ := hholds
      have hlast := @fieldAt_succ_eq_iff 1 _ 15 p.hopsToSink hhops
      simp only [Recovered, received, read, ConnPacketClusterWelcome.ofMemory, CutByteBehind,
        ConnPacketHeader.ofMemory_eq hheader, u32At_eq hid, u16At_eq hsize, u16At_eq hhandle,
        ← hcut, clusterWelcome.injEq, ConnPacketClusterWelcome.mk.injEq, true_and]
      exact hlast
  | clusterAck1 p =>
      simp only [kept, holds_append, Nat.zero_add, ConnPacketHeader.length_bytes] at hholds
      obtain ⟨hheader, hhops⟩ := hholds
      simp only [Recovered, received, read, ConnPacketClusterAck1.ofMemory, CutByteBehind,
        ConnPacketHeader.ofMemory_eq hheader, u16At_eq hhops]
  | clusterAck2 p =>
      simp only [kept, holds_append, Nat.zero_add, ConnPacketHeader.length_bytes,
        length_u32Bytes, List.length_append, Nat.reduceAdd] at hholds
      obtain ⟨⟨hheader, hid⟩, hsize⟩ := hholds
      have hlast := @fieldAt_succ_eq_iff 1 _ 11 p.clusterSize hsize
      simp only [Recovered, received, read, ConnPacketClusterAck2.ofMemory, CutByteBehind,
        ConnPacketHeader.ofMemory_eq hheader, u32At_eq hid, ← hcut, clusterAck2.injEq,
        ConnPacketClusterAck2.mk.injEq, true_and]
      exact hlast
  | clusterInfoUpdate p =>
      simp only [kept, holds_append, Nat.zero_add, ConnPacketHeader.length_bytes,
        length_u16Bytes, length_u32Bytes, List.length_append, Nat.reduceAdd] at hholds
      obtain ⟨⟨⟨⟨hheader, hcurrent⟩, hnew⟩, hchange⟩, hhops⟩ := hholds
      have hlast := @fieldAt_succ_eq_iff 1 _ 17 p.hopsToSink hhops
      simp only [Recovered, received, read, ConnPacketClusterInfoUpdate.ofMemory, CutByteBehind,
        ConnPacketHeader.ofMemory_eq hheader, u32At_eq hcurrent, u32At_eq hnew,
        u16At_eq hchange, ← hcut, clusterInfoUpdate.injEq, ConnPacketClusterInfoUpdate.mk.injEq,
        true_and]
      exact hlast
  | updateTimestamp p =>
      simp only [kept, holds_append, Nat.zero_add, ConnPacketHeader.length_bytes] at hholds
      obtain ⟨hheader, htime⟩ := hholds
      have hlast := @fieldAt_succ_eq_iff 7 _ 7 p.timestamp htime
      simp only [Recovered, received, read, ConnPacketUpdateTimestamp.ofMemory, CutByteBehind,
        ConnPacketHeader.ofMemory_eq hheader, ← hcut, updateTimestamp.injEq,
        ConnPacketUpdateTimestamp.mk.injEq, true_and]
      exact hlast

/-- An ACK_2 of a cluster of 256 nodes, with zeros behind it, tells the joining node
that the cluster has no nodes. -/
theorem not_recovered_clusterAck2 :
    ¬ ∀ (packet : MeshPacket) (behind : ℕ → U8), packet.Recovered behind := by
  intro hclaim
  have hrecovered := (hclaim (clusterAck2 ⟨⟨false, messageTypeClusterAck2, 1, 2, 0⟩, 7, 256⟩)
    fun _ => 0)
  exact absurd hrecovered (by unfold Recovered; decide)

end MeshPacket

end FruityMesh
