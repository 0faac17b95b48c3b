import FruityMesh.Mesh.Receive
import FruityMesh.Modules.Module

/-!
# The packets that modules send

A module fills a `connPacketModule` and hands it to `ConnectionManager` with a length.  What is
sent are that many bytes of the struct (`sent`); where they arrive, the same fields are read
from them, and as much of the data as the length covers (`received_arrive`).
-/

namespace FruityMesh.Modules

open Cells LittleEndian Mesh Transport

namespace ConnPacketModule

variable (packet : ConnPacketModule)

/-- The fields behind the first byte, up to the data. -/
def fields : List U8 :=
  u16Bytes packet.header.sender ++ u16Bytes packet.header.receiver ++
    u16Bytes packet.header.remoteReceiver ++ u16Bytes packet.moduleId ++
    [packet.requestHandle, packet.actionType]

def bytes : List U8 :=
  firstByte packet.header.hasMoreParts packet.header.messageType :: (packet.fields ++ packet.data)

@[simp] theorem length_fields : packet.fields.length = 10 := by simp [fields]

@[simp] theorem length_bytes : packet.bytes.length = moduleData + packet.data.length := by
  simp [bytes, moduleData]
  omega

/-- The packet that is sent with this length. -/
def sent (dataLength : ℕ) : Message := ⟨packet.bytes.take dataLength, true⟩

/-- What of a packet of this length is read from the memory. -/
structure Received (dataLength : ℕ) (data : ℕ → U8) : Prop where
  messageType : messageTypeAt data = packet.header.messageType
  sender : senderAt data = packet.header.sender
  receiver : receiverAt data = packet.header.receiver
  moduleId : u16At data 7 = packet.moduleId
  requestHandle : data 9 = packet.requestHandle
  actionType : data 10 = packet.actionType
  data : Holds data moduleData (packet.data.take (dataLength - moduleData))

variable {packet}

theorem received_of_holds {dataLength : ℕ} {data : ℕ → U8}
    (htype : messageTypeAt data = packet.header.messageType)
    (hbehind : Holds data 1 (packet.fields ++ packet.data.take (dataLength - moduleData))) :
    packet.Received dataLength data := by
  obtain ⟨hfields, hdata⟩ := holds_append.mp hbehind
  rw [length_fields] at hdata
  unfold fields at hfields
  obtain ⟨hids, hlast⟩ := holds_append.mp hfields
  obtain ⟨hheader, hmodule⟩ := holds_append.mp hids
  obtain ⟨hpair, hremote⟩ := holds_append.mp hheader
  obtain ⟨hsender, hreceiver⟩ := holds_append.mp hpair
  simp only [List.length_append, length_u16Bytes] at hlast hmodule hreceiver
  obtain ⟨hhandle, haction⟩ := holds_cons.mp hlast
  obtain ⟨haction, _⟩ := holds_cons.mp haction
  exact ⟨htype, u16At_eq hsender, u16At_eq hreceiver, u16At_eq hmodule, hhandle, haction, hdata⟩

theorem bytes_sent {dataLength : ℕ} (hlong : moduleData ≤ dataLength) :
    (packet.sent dataLength).bytes =
      firstByte packet.header.hasMoreParts packet.header.messageType ::
        (packet.fields ++ packet.data.take (dataLength - moduleData)) := by
  obtain ⟨n, rfl⟩ : ∃ n, dataLength = n + 11 := ⟨dataLength - 11, by unfold moduleData at hlong; omega⟩
  have hfields : packet.fields.length ≤ n + 10 := by rw [length_fields]; omega
  rw [sent, bytes, List.take_succ_cons, List.take_append, List.take_of_length_le hfields, length_fields]
  rfl

theorem typeOf_sent {dataLength : ℕ} (hlong : moduleData ≤ dataLength) :
    typeOf (packet.sent dataLength) = packet.header.messageType := by
  unfold typeOf messageTypeAt memory
  rw [bytes_sent hlong]
  exact messageTypeOf_firstByte _ _

/-- What a packet is before it is transmitted. -/
theorem received_memory {dataLength : ℕ} (hlong : moduleData ≤ dataLength) :
    packet.Received dataLength (memory (packet.sent dataLength)) := by
  apply received_of_holds (typeOf_sent hlong)
  intro k hk
  unfold memory
  rw [bytes_sent hlong, Nat.add_comm, List.getD_cons_succ, List.getD_eq_getElem _ _ hk]

/-- What arrives of a packet. -/
theorem received_arrive {dataLength : ℕ} (hlong : moduleData ≤ dataLength)
    (htype : packet.header.messageType ≠ messageTypeUpdateTimestamp) (behind : ℕ → U8) :
    packet.Received dataLength (arrive (packet.sent dataLength) behind).data := by
  have hsent : typeOf (packet.sent dataLength) = packet.header.messageType := typeOf_sent hlong
  apply received_of_holds (type_arrive.trans hsent)
  intro k hk
  have hlength : k + 1 < (packet.sent dataLength).bytes.length := by
    rw [bytes_sent hlong, List.length_cons]
    omega
  rw [Nat.add_comm, arrive_data (by omega) hlength (Or.inr (by rwa [hsent])), memory,
    bytes_sent hlong, List.getD_cons_succ, List.getD_eq_getElem _ _ hk]

end ConnPacketModule

end FruityMesh.Modules
