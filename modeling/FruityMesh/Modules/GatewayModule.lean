import FruityMesh.Library.Loops
import FruityMesh.Mesh.Accounting
import FruityMesh.Modules.TagId
import FruityMesh.Modules.VotingModule

/-!
# Messages to and from the gateway

The command "action" of the gateway module has two forms.  The gateway sends a message to a node,
or a node sends one to the gateway, with the id of a node far away that it is meant for.

The sender stores the characters of the message in the data of the packet, however many there are,
and transmits as many.  The receiver makes a message of all ten bytes of the data.  So only a
message of ten characters comes through (`roundTrips_iff`).

Whether a device is the gateway is a constant of the build.  `GatewayModule.cpp` sets it to false,
for all devices.
-/

namespace FruityMesh.Modules

open Cells LittleEndian Mesh Transport Reads NumberText NFCModule
open Node (sizeofConnPacketModule startedNode)

namespace GatewayModule

/-- `IS_GATEWAY_DEVICE`, as `GatewayModule.cpp` defines it. -/
def isGatewayDevice : Bool := false

def triggerGateway : U8 := 0

/-- `sizeof(packet->data)`. -/
def dataBytes : ℕ := maxDataSizePerWrite - sizeofConnPacketHeader - 4

/-- `sizeof(connPacketModule)`. -/
def connPacketModuleBytes : ℕ := moduleData + dataBytes

/-- A packet in the memory of the sender, with the length that `SendMessageToReceiver` gets. -/
structure Sending where
  packet : Memory U8
  dataLength : U16

def Sending.message (sending : Sending) : Message :=
  ⟨read sending.packet.cell 0 sending.dataLength.toNat, true⟩

section Sender

variable (node : Node) (moduleId : U16)

/-- The fields in front of the data.  The packet is not initialised, and only the form for the
gateway stores a remote receiver. -/
def fillFields (packet : Memory U8) (receiver : NodeId) (remoteReceiver : Option NodeId) :
    Memory U8 :=
  let packet := ((packet.store 0
    [firstByte (hasMorePartsOf (packet.cell 0)) messageTypeModuleTriggerAction]).store 1
    (u16Bytes node.nodeId)).store 3
    (u16Bytes receiver)
  let packet :=
    match remoteReceiver with
    | some remote => packet.store 5 (u16Bytes remote)
    | none => packet
  (packet.store 7 (u16Bytes moduleId)).store 10 [triggerGateway]

/-- Both forms of the command, from the packet on. -/
def send (packet : Memory U8) (receiver : NodeId) (remoteReceiver : Option NodeId)
    (text : List U8) : Sending where
  packet := (fillFields node moduleId packet receiver remoteReceiver).storeEach moduleData text
  -- `sizeofConnPacketModule` is one byte less than what stands in front of the data
  dataLength := BitVec.ofNat 16 (sizeofConnPacketModule + text.length + 1)

/-- `atoi` of an argument, as an id. -/
def idOf (argument : List U8) : NodeId := BitVec.ofInt 16 (atoi (characters argument))

/-- `GatewayModule::TerminalCommandHandler`, with `none` where it calls the handler of `Module`.
`packet` is what lies where the local packet will be. -/
def terminalCommandHandler (isGatewayDevice : Bool) (moduleName : List U8) (packet : Memory U8)
    (commandName : String) (commandArgs : List (List U8)) : Option Sending :=
  if commandName = "uart_module_trigger_action" ∨ commandName = "action" then
    match commandArgs with
    | [target, name, text] =>
        if isGatewayDevice ∧ name = moduleName then
          some (send node moduleId packet (idOf target) none text)
        else none
    | [gateway, name, remote, text] =>
        if name = moduleName then
          some (send node moduleId packet (idOf gateway) (some (idOf remote)) text)
        else none
    | _ => none
  else none

end Sender

/-- What is printed of a message. -/
inductive Printed
  | outbound (sender receiver : NodeId) (message : List U8)
  | inbound (message : List U8)
  deriving DecidableEq, Repr

def Printed.message : Printed → List U8
  | .outbound _ _ message => message
  | .inbound message => message

/-- The remote receiver that was read. -/
def Printed.remoteReceiver : Printed → Option NodeId
  | .outbound _ receiver _ => some receiver
  | .inbound _ => none

/-- `GatewayModule::ConnectionPacketReceivedEventHandler`, behind the call of that of `Module`,
which does nothing with an action. -/
def connectionPacketReceivedEventHandler (isGatewayDevice : Bool) (moduleId : U16)
    (data : ℕ → U8) : Reads (List Printed) := do
  let messageType ← readMessageType data
  if messageType = messageTypeModuleTriggerAction then
    let packetModuleId ← readModuleId data
    let actionType ← readActionType data
    if packetModuleId = moduleId ∧ actionType = triggerGateway then
      let message ← readBlock data moduleData dataBytes
      if isGatewayDevice then
        let sender ← readSender data
        let remoteReceiver ← readU16 data 5
        return [.outbound sender remoteReceiver message]
      else return [.inbound message]
    else return []
  else return []

/-! ## The way of a message -/

/-- The arguments that a user gives. -/
inductive Command
  | toNode (target text : List U8)
  | toGateway (gateway remote text : List U8)

namespace Command

def args (moduleName : List U8) : Command → List (List U8)
  | toNode target text => [target, moduleName, text]
  | toGateway gateway remote text => [gateway, moduleName, remote, text]

def text : Command → List U8
  | toNode _ text => text
  | toGateway _ _ text => text

def receiver : Command → NodeId
  | toNode target _ => idOf target
  | toGateway gateway _ _ => idOf gateway

def remote : Command → Option NodeId
  | toNode _ _ => none
  | toGateway _ remote _ => some (idOf remote)

/-- The device that is to be the gateway is one. -/
def GatewayIsOne (senderIsGateway receiverIsGateway : Bool) : Command → Prop
  | toNode _ _ => senderIsGateway = true
  | toGateway _ _ _ => receiverIsGateway = true

end Command

section RoundTrip

variable {node : Node} {moduleId : U16} {senderIsGateway receiverIsGateway : Bool}
  {moduleName : List U8} {cell : ℕ → U8} {commandName : String} {command : Command}

/-- What the receiver prints of the bytes that were transmitted. -/
def printed (receiverIsGateway : Bool) (moduleId : U16) (sending : Sending) (behind : ℕ → U8) :
    List Printed :=
  (connectionPacketReceivedEventHandler receiverIsGateway moduleId
    (arrive sending.message behind).data).value

/-- The message is stored inside of the packet, and the receiver gets it as it was given, and for
the gateway also the remote receiver. -/
def RoundTrips (node : Node) (moduleId : U16) (senderIsGateway receiverIsGateway : Bool)
    (moduleName : List U8) (cell : ℕ → U8) (commandName : String) (command : Command) : Prop :=
  ∃ sending, terminalCommandHandler node moduleId senderIsGateway moduleName ⟨cell, [], []⟩
      commandName (command.args moduleName) = some sending ∧
    sending.packet.AccessesWithin connPacketModuleBytes ∧
    ∀ behind, ∃ p, printed receiverIsGateway moduleId sending behind = [p] ∧
      p.message = command.text ∧ ∀ remote ∈ command.remote, p.remoteReceiver = some remote

/-! ### The packet -/

/-- What stands in the packet in front of the data. -/
structure Filled (moduleId : U16) (remoteReceiver : Option NodeId) (cell : ℕ → U8) : Prop where
  type : messageTypeAt cell = messageTypeModuleTriggerAction
  moduleId : u16At cell 7 = moduleId
  action : cell 10 = triggerGateway
  remote : ∀ remote ∈ remoteReceiver, u16At cell 5 = remote

theorem messageTypeAt_overwrite (cell : ℕ → U8) (bytes : List U8) {start : ℕ} (h : 0 < start) :
    messageTypeAt (overwrite cell start bytes) = messageTypeAt cell :=
  congrArg messageTypeOf (overwrite_of_lt cell bytes h)

theorem filled_fillFields (packet : Memory U8) (receiver : NodeId)
    (remoteReceiver : Option NodeId) :
    Filled moduleId remoteReceiver
      (fillFields node moduleId packet receiver remoteReceiver).cell := by
  have htype := messageTypeAt_setMessageType packet.cell messageTypeModuleTriggerAction
  -- the stores behind the type, up to the module
  obtain ⟨front, hfront, hremote, hcell⟩ : ∃ front : ℕ → U8,
      messageTypeAt front = messageTypeModuleTriggerAction ∧
      (∀ remote ∈ remoteReceiver, Holds front 5 (u16Bytes remote)) ∧
      (fillFields node moduleId packet receiver remoteReceiver).cell =
        overwrite (overwrite front 7 (u16Bytes moduleId)) 10 [triggerGateway] := by
    cases remoteReceiver with
    | none =>
        refine ⟨_, ?_, by simp, rfl⟩
        rw [Memory.store_cell, messageTypeAt_overwrite _ _ (by decide), Memory.store_cell,
          messageTypeAt_overwrite _ _ (by decide)]
        exact htype
    | some remote =>
        refine ⟨_, ?_, ?_, rfl⟩
        · rw [Memory.store_cell, messageTypeAt_overwrite _ _ (by decide), Memory.store_cell,
            messageTypeAt_overwrite _ _ (by decide), Memory.store_cell,
            messageTypeAt_overwrite _ _ (by decide)]
          exact htype
        · rintro _ ⟨rfl⟩
          exact holds_overwrite _ 5 _
  rw [hcell]
  refine ⟨?_, ?_, (holds_cons.mp (holds_overwrite _ 10 [triggerGateway])).1, fun remote hmem => ?_⟩
  · rw [messageTypeAt_overwrite _ _ (by decide), messageTypeAt_overwrite _ _ (by decide)]
    exact hfront
  · exact u16At_eq ((holds_overwrite front 7 (u16Bytes moduleId)).overwrite_after _ (by simp))
  · exact u16At_eq (((hremote remote hmem).overwrite_after _ (by simp)).overwrite_after _
      (by simp))

theorem Filled.storeEach {remoteReceiver : Option NodeId} {packet : Memory U8}
    (h : Filled moduleId remoteReceiver packet.cell) (text : List U8) :
    Filled moduleId remoteReceiver (packet.storeEach moduleData text).cell := by
  have hkept : ∀ k, k < moduleData → (packet.storeEach moduleData text).cell k = packet.cell k := by
    intro k hk
    rw [storeEach_cell, overwrite_of_lt _ _ hk]
  refine ⟨?_, ?_, (hkept 10 (by decide)).trans h.action, fun remote hmem => ?_⟩
  · rw [storeEach_cell, messageTypeAt_overwrite _ _ (by decide)]
    exact h.type
  · exact (u16At_congr (hkept 7 (by decide)) (hkept 8 (by decide))).trans h.moduleId
  · exact (u16At_congr (hkept 5 (by decide)) (hkept 6 (by decide))).trans (h.remote remote hmem)

theorem within_send_iff (receiver : NodeId) (remoteReceiver : Option NodeId) (text : List U8) :
    (send node moduleId ⟨cell, [], []⟩ receiver remoteReceiver text).packet.AccessesWithin
      connPacketModuleBytes ↔ text.length ≤ dataBytes := by
  have hfields : (fillFields node moduleId ⟨cell, [], []⟩ receiver remoteReceiver).AccessesWithin
      connPacketModuleBytes := by
    have hsize : connPacketModuleBytes = 21 := rfl
    cases remoteReceiver <;> simp [fillFields, Memory.AccessesWithin, Span.Within, hsize]
  rw [send, accessesWithin_storeEach_iff, and_iff_right hfields]
  unfold connPacketModuleBytes
  constructor
  · rintro (rfl | hfits)
    · exact Nat.zero_le _
    · omega
  · exact fun hfits => Or.inr (by omega)

/-! ### The round trip -/

theorem terminalCommandHandler_args
    (hname : commandName = "uart_module_trigger_action" ∨ commandName = "action")
    {sending : Sending} :
    terminalCommandHandler node moduleId senderIsGateway moduleName ⟨cell, [], []⟩ commandName
        (command.args moduleName) = some sending ↔
      (∀ target text, command = .toNode target text → senderIsGateway = true) ∧
        sending =
          send node moduleId ⟨cell, [], []⟩ command.receiver command.remote command.text := by
  unfold terminalCommandHandler
  rw [if_pos hname]
  cases command with
  | toNode target text =>
      cases senderIsGateway with
      | true => simp [Command.args, Command.receiver, Command.remote, Command.text, eq_comm]
      | false => simp [Command.args]
  | toGateway gateway remote text =>
      simp [Command.args, Command.receiver, Command.remote, Command.text, eq_comm]

/-- What is printed of any packet: nothing, or a message with all bytes of the data. -/
theorem length_message {moduleId : U16} {data : ℕ → U8} {p : Printed}
    (hp : p ∈ (connectionPacketReceivedEventHandler receiverIsGateway moduleId data).value) :
    p.message.length = dataBytes ∧ (p.remoteReceiver.isSome → receiverIsGateway = true) := by
  rw [connectionPacketReceivedEventHandler, value_bind] at hp
  by_cases htype : (readMessageType data).value = messageTypeModuleTriggerAction
  · rw [if_pos htype, value_bind, value_bind] at hp
    by_cases hfor : (readModuleId data).value = moduleId ∧
        (readActionType data).value = triggerGateway
    · rw [if_pos hfor, value_bind] at hp
      cases receiverIsGateway with
      | true =>
          obtain rfl := List.mem_singleton.mp hp
          exact ⟨length_read .., fun _ => rfl⟩
      | false =>
          obtain rfl := List.mem_singleton.mp hp
          exact ⟨length_read .., fun hsome => hsome⟩
    · rw [if_neg hfor] at hp
      exact absurd hp List.not_mem_nil
  · rw [if_neg htype] at hp
    exact absurd hp List.not_mem_nil

/-- What arrives of a packet with ten characters. -/
theorem filled_arrive {receiver : NodeId} {remoteReceiver : Option NodeId} {text : List U8}
    (hlength : text.length = dataBytes) (behind : ℕ → U8) :
    let sending := send node moduleId ⟨cell, [], []⟩ receiver remoteReceiver text
    Filled moduleId remoteReceiver (arrive sending.message behind).data ∧
      Holds (arrive sending.message behind).data moduleData text := by
  intro sending
  have hsize : sending.dataLength.toNat = connPacketModuleBytes := by
    show (BitVec.ofNat 16 (sizeofConnPacketModule + text.length + 1)).toNat = connPacketModuleBytes
    rw [hlength]
    decide
  have hbytes : sending.message.bytes.length = connPacketModuleBytes :=
    (length_read ..).trans hsize
  have hfilled : Filled moduleId remoteReceiver sending.packet.cell :=
    (filled_fillFields ⟨cell, [], []⟩ receiver remoteReceiver).storeEach text
  have hstored : Holds sending.packet.cell moduleData text := by
    show Holds ((fillFields node moduleId ⟨cell, [], []⟩ receiver remoteReceiver).storeEach
      moduleData text).cell moduleData text
    rw [storeEach_cell]
    exact holds_overwrite _ _ _
  have hmemory : ∀ k, k < connPacketModuleBytes →
      memory sending.message k = sending.packet.cell k := by
    intro k hk
    exact memory_read (by rwa [hsize])
  have htype : typeOf sending.message = messageTypeModuleTriggerAction := by
    unfold typeOf messageTypeAt
    rw [hmemory 0 (by decide)]
    exact hfilled.type
  have hdata : ∀ k, 0 < k → k < connPacketModuleBytes →
      (arrive sending.message behind).data k = sending.packet.cell k := by
    intro k hpos hk
    rw [arrive_data hpos (by rwa [hbytes]) (Or.inr (by rw [htype]; decide)), hmemory k hk]
  refine ⟨⟨type_arrive.trans htype, ?_, ?_, fun given hmem => ?_⟩, ?_⟩
  · exact (u16At_congr (hdata 7 (by decide) (by decide)) (hdata 8 (by decide) (by decide))).trans
      hfilled.moduleId
  · exact (hdata 10 (by decide) (by decide)).trans hfilled.action
  · exact (u16At_congr (hdata 5 (by decide) (by decide)) (hdata 6 (by decide) (by decide))).trans
      (hfilled.remote given hmem)
  · refine hstored.congr fun k hlow hhigh => hdata k ?_ ?_
    · unfold moduleData at hlow
      omega
    · rw [hlength] at hhigh
      exact hhigh

/-- What is printed of a packet with ten characters. -/
theorem printed_send {receiver : NodeId} {remoteReceiver : Option NodeId} {text : List U8}
    (hlength : text.length = dataBytes) (behind : ℕ → U8) :
    let sending := send node moduleId ⟨cell, [], []⟩ receiver remoteReceiver text
    ∃ sender remote, (∀ given ∈ remoteReceiver, remote = given) ∧
      printed receiverIsGateway moduleId sending behind =
        [if receiverIsGateway then .outbound sender remote text else .inbound text] := by
  intro sending
  obtain ⟨hfilled, htext⟩ : Filled moduleId remoteReceiver (arrive sending.message behind).data ∧
      Holds (arrive sending.message behind).data moduleData text := filled_arrive hlength behind
  have hmessage : read (arrive sending.message behind).data moduleData dataBytes = text := by
    rw [← hlength, htext.read_eq]
  refine ⟨senderAt (arrive sending.message behind).data,
    u16At (arrive sending.message behind).data 5, hfilled.remote, ?_⟩
  simp only [printed, connectionPacketReceivedEventHandler, value_bind, value_readMessageType,
    hfilled.type, value_readModuleId, value_readActionType, hfilled.moduleId, hfilled.action,
    and_self, if_true, value_readBlock, hmessage]
  split_ifs <;> rfl

theorem roundTrips_iff_of_flags
    (hname : commandName = "uart_module_trigger_action" ∨ commandName = "action") :
    RoundTrips node moduleId senderIsGateway receiverIsGateway moduleName cell commandName command ↔
      command.text.length = dataBytes ∧
        command.GatewayIsOne senderIsGateway receiverIsGateway := by
  unfold RoundTrips
  simp only [terminalCommandHandler_args hname]
  constructor
  · rintro ⟨sending, ⟨hsends, -⟩, -, hprinted⟩
    obtain ⟨p, hp, hmessage, hremote⟩ := hprinted fun _ => 0
    obtain ⟨hlength, hgateway⟩ := length_message (hp ▸ List.mem_singleton_self p)
    refine ⟨hmessage ▸ hlength, ?_⟩
    cases command with
    | toNode target text => exact hsends target text rfl
    | toGateway gateway remote text =>
        exact hgateway (by rw [hremote (idOf remote) rfl]; rfl)
  · rintro ⟨hlength, hgateway⟩
    refine ⟨_, ⟨?_, rfl⟩, (within_send_iff ..).mpr hlength.le, fun behind => ?_⟩
    · rintro target text rfl
      exact hgateway
    · obtain ⟨sender, remote, hremote, hprinted⟩ := @printed_send node moduleId receiverIsGateway
        cell command.receiver command.remote command.text hlength behind
      refine ⟨_, hprinted, ?_, fun given hgiven => ?_⟩
      · split_ifs <;> rfl
      · cases command with
        | toNode target text => exact absurd hgiven (Option.not_mem_none _)
        | toGateway gateway remote' text =>
            have hone : receiverIsGateway = true := hgateway
            rw [if_pos hone, Printed.remoteReceiver, hremote given hgiven]

/-- **A message comes through if and only if it has ten characters, and the device that is to be
the gateway is one;** so with the constant of the source none does. -/
theorem roundTrips_iff
    (hname : commandName = "uart_module_trigger_action" ∨ commandName = "action") :
    (RoundTrips node moduleId senderIsGateway receiverIsGateway moduleName cell commandName
        command ↔
      command.text.length = dataBytes ∧
        command.GatewayIsOne senderIsGateway receiverIsGateway) ∧
    ¬ RoundTrips node moduleId isGatewayDevice isGatewayDevice moduleName cell commandName
      command := by
  refine ⟨roundTrips_iff_of_flags hname, fun hround => ?_⟩
  have hgateway := ((roundTrips_iff_of_flags hname).mp hround).2
  cases command <;> exact absurd hgateway Bool.false_ne_true

/-- A message of ten characters from a node to a device that is built as the gateway. -/
theorem roundTrips_iff_ten :
    RoundTrips (startedNode 5 1) 9 false true [103] (fun _ => 0) "action"
      (.toGateway [49] [55] (List.replicate 10 65)) :=
  (roundTrips_iff (Or.inr rfl)).1.mpr ⟨rfl, rfl⟩

/-- A message of two characters does not come through, whichever devices are gateways. -/
theorem roundTrips_short : ¬ ∀ node moduleId senderIsGateway receiverIsGateway moduleName cell
    commandName command, commandName = "uart_module_trigger_action" ∨ commandName = "action" →
      RoundTrips node moduleId senderIsGateway receiverIsGateway moduleName cell commandName
        command := by
  intro hclaim
  have hround := hclaim (startedNode 5 1) 9 true true [103] (fun _ => 0) "action"
    (.toGateway [49] [55] [104, 105]) (Or.inr rfl)
  exact absurd ((roundTrips_iff_of_flags (Or.inr rfl)).mp hround).1 (by decide)

end RoundTrip

end GatewayModule

end FruityMesh.Modules
