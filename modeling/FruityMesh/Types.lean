import Mathlib.Data.BitVec

/-!
# Types and constants

The fixed-width integers of `types.h` and the constants of `types.h`, `Config.h`,
`conn_packets.h` and `adv_packets.h` that the modelled functions read.  An unsigned
integer of `w` bits is a `BitVec w`; a `clusterSIZE` is a signed 16-bit integer,
so it is a `BitVec 16` whose order is that of `toInt`.
-/

namespace FruityMesh

abbrev U8 := BitVec 8
abbrev U16 := BitVec 16
abbrev U32 := BitVec 32
abbrev U64 := BitVec 64

/-- The seven bits of a packet's first byte that say what the packet is. -/
abbrev MessageType := BitVec 7

abbrev NodeId := U16
abbrev ClusterId := U32
abbrev ClusterSize := BitVec 16

/-- Maximum data that can be transmitted with one write. -/
def maxDataSizePerWrite : ℕ := 20

/-- Each of the connections has a buffer for outgoing packets, this is its size. -/
def packetSendBufferSize : ℕ := 600

/-- Each connection has a buffer to assemble packets that were split. -/
def packetReassemblyBufferSize : ℕ := 200

/-- Size of the mesh write attribute. -/
def meshCharacteristicMaxLength : ℕ := 100

def meshMaxOutConnections : ℕ := 3

/-- One incoming and three outgoing connections. -/
def meshMaxConnections : ℕ := 4

/-- The connection in which this node is the peripheral; the others are outgoing ones. -/
def inConnection : Fin meshMaxConnections := ⟨0, by decide⟩

theorem one_lt_meshMaxConnections : 1 < meshMaxConnections := by decide

/-! ### Node ids -/

def nodeIdBroadcast : NodeId := 0
def nodeIdHopsBase : NodeId := 30000
def nodeIdShortestSink : NodeId := 31001

/-- The phone is known by this id or the next one, and its packets get the next one. -/
def bleNodeId : NodeId := 57000

def int16Max : ClusterSize := 32767

/-- The slots for modules of a node. -/
def maxModuleCount : ℕ := 10

def serialNumberLength : ℕ := 5

/-- `BLE_CONN_HANDLE_INVALID`. -/
def bleConnHandleInvalid : U16 := 0xFFFF

/-! ### Message types -/

def messageTypeClusterWelcome : MessageType := 20
def messageTypeClusterAck1 : MessageType := 21
def messageTypeClusterAck2 : MessageType := 22
def messageTypeClusterInfoUpdate : MessageType := 23
def messageTypeUpdateTimestamp : MessageType := 30
def messageTypeUartWrite : MessageType := 39
def messageTypeModuleConfig : MessageType := 50
def messageTypeModuleActionResponse : MessageType := 52
def messageTypeAdvInfo : MessageType := 60
def messageTypeData2 : MessageType := 81
def messageTypeLightToggle : MessageType := 91

/-! ### Advertising packets -/

def companyIdentifier : U16 := 0x024D
def meshIdentifier : U8 := 0xF0
def sizeofAdvPacketHeader : ℕ := 11

end FruityMesh
