import FruityMesh.Logger
import FruityMesh.Modules.Packet

/-!
# Messages from one module to another

The functions of `Module.cpp` that send SET_CONFIG, GET_CONFIG, SET_ACTIVE and module actions,
and what the handlers of `Modules.Module` make of the bytes that are transmitted.

All of these packets are as long as `SIZEOF_CONN_PACKET_MODULE` and the data together, but the
data starts one byte later than that.  So the last byte is not transmitted, and the receiver
takes the one that lies behind the packet for it (`received_found`).
-/

namespace FruityMesh.Modules

open Cells LittleEndian Mesh Transport Reads NumberText
open Node (sizeofConnPacketModule)

/-! ## The senders -/

/-- A packet and the length with which `SendMessageToReceiver` is called. -/
structure Sending where
  packet : ConnPacketModule
  dataLength : ℕ

namespace Sending

def message (sending : Sending) : Message := sending.packet.sent sending.dataLength

def report (sending : Sending) : Report :=
  .sendMessageToReceiver sending.packet sending.dataLength

theorem report_injective : Function.Injective report := by
  rintro ⟨packet, dataLength⟩ ⟨packet', dataLength'⟩ heq
  injection heq with hpacket hlength
  exact congrArg₂ mk hpacket hlength

end Sending

namespace Module

section Senders

variable (node : Node) (moduleId : U16)

/-- `SendModuleActionMessage`. -/
def sendModuleActionMessage (messageType : MessageType) (toNode : NodeId)
    (actionType requestHandle : U8) (additionalData : List U8) : Sending where
  packet := ⟨node.packetHeader messageType toNode, moduleId, requestHandle, actionType,
    additionalData⟩
  dataLength := sizeofConnPacketModule + additionalData.length

def sendSetConfig (receiver : NodeId) (config : List U8) (requestHandle : U8) : Sending where
  packet := ⟨node.packetHeader messageTypeModuleConfig receiver, moduleId, requestHandle,
    ModuleConfigMessages.setConfig, config⟩
  dataLength := sizeofConnPacketModule + config.length

/-- The handle of the request is what lies on the stack. -/
def sendGetConfig (receiver : NodeId) (requestHandle : U8) : Sending where
  packet := ⟨node.packetHeader messageTypeModuleConfig receiver, moduleId, requestHandle,
    ModuleConfigMessages.getConfig, []⟩
  dataLength := sizeofConnPacketModule

def sendSetActive (receiver : NodeId) (moduleState requestHandle : U8) : Sending where
  packet := ⟨node.packetHeader messageTypeModuleConfig receiver, moduleId, requestHandle,
    ModuleConfigMessages.setActive, [moduleState]⟩
  dataLength := sizeofConnPacketModule + 1

/-- The argument with the handle of the request may be missing. -/
def requestHandleOf (argument : Option String) : U8 :=
  argument.elim 0 fun text => BitVec.ofInt 8 (atoi text.toList)

/-- `TerminalCommandHandler`: what is sent, or `none` if the command is not handled.  The source
reads the state of `set_active` from the third argument without a check that there is one. -/
def terminalCommandHandler (moduleName : String) (stackHandle : U8) (commandName : String)
    (commandArgs : List String) : Option Sending :=
  match commandArgs with
  | destination :: name :: arguments =>
      if name = moduleName then
        let receiver : NodeId := 
          if destination = "this" then node.nodeId else BitVec.ofInt 16 (atoi destination.toList)
        if commandName = "set_config" then
          arguments.head?.map fun configString =>
            sendSetConfig node moduleId receiver
              (Logger.parseHexStringToBuffer configString.toList) (requestHandleOf arguments[1]?)
        else if commandName = "get_config" then
          if arguments = [] then some (sendGetConfig node moduleId receiver stackHandle) else none
        else if commandName = "set_active" then
          some (sendSetActive node moduleId receiver (if arguments.head? = some "on" then 1 else 0)
            (requestHandleOf arguments[1]?))
        else none
      else none
  | _ => none

/-- A configuration that is typed in as `convertBufferToHexString` writes it is sent. -/
theorem terminalCommandHandler_setConfig (moduleName : String) (stackHandle : U8)
    {destination handle : String} (hother : destination ≠ "this") (config : List U8) :
    terminalCommandHandler node moduleId moduleName stackHandle "set_config"
        [destination, moduleName, String.ofList (Logger.hexText config), handle] =
      some (sendSetConfig node moduleId (BitVec.ofInt 16 (atoi destination.toList)) config
        (BitVec.ofInt 8 (atoi handle.toList))) := by
  simp [terminalCommandHandler, hother, requestHandleOf, Logger.parseHexStringToBuffer_hexText]

end Senders

end Module

/-! ## The bytes that are transmitted -/

theorem sizeofConnPacketModule_eq : sizeofConnPacketModule = 10 := rfl

namespace Sending

/-- The length does not cover the last byte of the packet. -/
structure CutShort (sending : Sending) : Prop where
  dataLength : sending.dataLength = sizeofConnPacketModule + sending.packet.data.length
  fits : sending.dataLength < 2 ^ 16
  messageType : sending.packet.header.messageType ≠ messageTypeUpdateTimestamp

/-- The byte that is not transmitted. -/
def lastByte (sending : Sending) : U8 := sending.packet.data.getLastD sending.packet.actionType

/-- The byte that the receiver takes for it. -/
def foundByte (sending : Sending) (behind : ℕ → U8) : U8 := behind sending.dataLength

/-- The packet that the receiver finds. -/
def found (sending : Sending) (behind : ℕ → U8) : ConnPacketModule :=
  if sending.packet.data = [] then
    { sending.packet with actionType := sending.foundByte behind }
  else { sending.packet with data := sending.packet.data.dropLast ++ [sending.foundByte behind] }

variable {sending : Sending}

theorem found_of_nil (hdata : sending.packet.data = []) (behind : ℕ → U8) :
    sending.found behind = { sending.packet with actionType := sending.foundByte behind } :=
  if_pos hdata

theorem found_of_ne (hdata : sending.packet.data ≠ []) (behind : ℕ → U8) :
    sending.found behind =
      { sending.packet with data := sending.packet.data.dropLast ++ [sending.foundByte behind] } :=
  if_neg hdata

theorem header_found (behind : ℕ → U8) : (sending.found behind).header = sending.packet.header := by
  unfold found
  split_ifs <;> rfl

theorem moduleId_found (behind : ℕ → U8) :
    (sending.found behind).moduleId = sending.packet.moduleId := by
  unfold found
  split_ifs <;> rfl

theorem length_data_found (behind : ℕ → U8) :
    (sending.found behind).data.length = sending.packet.data.length := by
  by_cases hdata : sending.packet.data = []
  · rw [found_of_nil hdata]
  · have := List.length_pos_iff.mpr hdata
    rw [found_of_ne hdata]
    simp only [List.length_append, List.length_dropLast, List.length_singleton]
    omega

/-- The bytes behind the first one, in the packet that is found. -/
theorem fields_found (behind : ℕ → U8) :
    (sending.found behind).fields ++ (sending.found behind).data =
      (sending.packet.fields ++ sending.packet.data).dropLast ++ [sending.foundByte behind] := by
  by_cases hdata : sending.packet.data = []
  · rw [found_of_nil hdata, hdata, List.append_nil, List.append_nil]
    rfl
  · rw [found_of_ne hdata, List.dropLast_append_of_ne_nil hdata, List.append_assoc]
    rfl

namespace CutShort

variable (h : sending.CutShort)
include h

theorem bytes_message :
    sending.message.bytes =
      firstByte sending.packet.header.hasMoreParts sending.packet.header.messageType ::
        (sending.packet.fields ++ sending.packet.data).dropLast := by
  have hlength : (sending.packet.fields ++ sending.packet.data).length - 1 =
      9 + sending.packet.data.length := by
    rw [List.length_append, ConnPacketModule.length_fields]
    omega
  rw [message, ConnPacketModule.sent, ConnPacketModule.bytes, h.dataLength,
    List.dropLast_eq_take, hlength, show sizeofConnPacketModule + sending.packet.data.length =
      9 + sending.packet.data.length + 1 by rw [sizeofConnPacketModule_eq]; omega,
    List.take_succ_cons]

theorem length_message : sending.message.bytes.length = sending.dataLength := by
  rw [h.bytes_message, h.dataLength, List.length_cons, List.length_dropLast, List.length_append,
    ConnPacketModule.length_fields, sizeofConnPacketModule_eq]
  omega

theorem typeOf_message : typeOf sending.message = sending.packet.header.messageType := by
  unfold typeOf messageTypeAt memory
  rw [h.bytes_message]
  exact messageTypeOf_firstByte _ _

theorem dataLength_arrive (behind : ℕ → U8) :
    (arrive sending.message behind).dataLength.toNat = sending.dataLength := by
  rw [arrive_dataLength (h.length_message ▸ h.fits), h.length_message]

/-- **What arrives is the packet with another last byte.** -/
theorem received_found (behind : ℕ → U8) :
    (sending.found behind).Received (moduleData + sending.packet.data.length)
      (arrive sending.message behind).data := by
  have hlength := h.length_message
  have htype := h.typeOf_message
  apply ConnPacketModule.received_of_holds
  · rw [type_arrive, htype, header_found]
  · rw [Nat.add_sub_cancel_left, ← length_data_found behind, List.take_length, fields_found,
      holds_append]
    have hinit : (sending.packet.fields ++ sending.packet.data).dropLast.length + 1 =
        sending.dataLength := by
      rw [← hlength, h.bytes_message, List.length_cons]
    constructor
    · intro k hk
      rw [Nat.add_comm 1 k, arrive_data (by omega) (by omega) (Or.inr (htype ▸ h.messageType)), memory,
        h.bytes_message, List.getD_cons_succ, List.getD_eq_getElem _ _ hk]
    · rw [Nat.add_comm 1, hinit, holds_cons]
      exact ⟨arrive_behind (by omega) (le_of_eq hlength),
        holds_nil _ _⟩

end CutShort

end Sending

/-! ## What the receiver does -/

/-- The packet has arrived at a node with this module. -/
structure ArrivedFor (m : Module) (p : ConnPacketModule) (data : ℕ → U8) (dataLength : U16) :
    Prop where
  received : p.Received (moduleData + p.data.length) data
  messageType : p.header.messageType = messageTypeModuleConfig
  moduleId : p.moduleId = m.moduleId
  dataLength : dataLength.toNat = sizeofConnPacketModule + p.data.length

theorem Sending.CutShort.arrivedFor {sending : Sending} (h : sending.CutShort) {m : Module}
    (htype : sending.packet.header.messageType = messageTypeModuleConfig)
    (hmodule : sending.packet.moduleId = m.moduleId) (behind : ℕ → U8) :
    ArrivedFor m (sending.found behind) (arrive sending.message behind).data
      (arrive sending.message behind).dataLength where
  received := by
    rw [length_data_found]
    exact h.received_found behind
  messageType := by rw [header_found, htype]
  moduleId := by rw [moduleId_found, hmodule]
  dataLength := by rw [h.dataLength_arrive, h.dataLength, length_data_found]

namespace ArrivedFor

variable {node : Node} {modules : ActiveModules} {n : Fin maxModuleCount} {m : Module}
  {p : ConnPacketModule} {data : ℕ → U8} {dataLength : U16}

theorem holds_data (h : ArrivedFor m p data dataLength) : Holds data moduleData p.data := by
  have hdata := h.received.data
  rwa [Nat.add_sub_cancel_left, List.take_length] at hdata

theorem read_data (h : ArrivedFor m p data dataLength) :
    Cells.read data moduleData p.data.length = p.data := h.holds_data.read_eq

/-- The data field is as long as the data. -/
theorem dataFieldLength (h : ArrivedFor m p data dataLength) :
    (dataLength - BitVec.ofNat 16 sizeofConnPacketModule).toNat = p.data.length := by
  have hlength := h.dataLength
  have hlt := dataLength.isLt
  rw [sizeofConnPacketModule_eq] at hlength
  rw [sizeofConnPacketModule_eq, BitVec.toNat_sub, BitVec.toNat_ofNat]
  omega

theorem value_handler (h : ArrivedFor m p data dataLength) :
    (m.connectionPacketReceivedEventHandler node modules n data dataLength).value =
      let dataFieldLength := dataLength - BitVec.ofNat 16 sizeofConnPacketModule
      ((m.handleRequest node modules n data dataFieldLength).value.1,
        (m.handleRequest node modules n data dataFieldLength).value.2 ++
          (m.handleResponse data dataFieldLength).value) := by
  rw [Module.connectionPacketReceivedEventHandler, value_bind, value_readMessageType,
    h.received.messageType, if_pos h.messageType, value_bind, value_readModuleId,
    h.received.moduleId, if_pos h.moduleId]
  rfl

/-- **The handler reads behind the packet.**  The data field is taken to be one byte longer than
it is, and without data the action is not in the packet. -/
theorem not_inBounds (h : ArrivedFor m p data dataLength) (node : Node)
    (modules : ActiveModules) (n : Fin maxModuleCount) :
    ¬ (m.connectionPacketReceivedEventHandler node modules n data dataLength).InBounds
      dataLength.toNat := by
  have hlength := h.dataLength
  rw [Module.connectionPacketReceivedEventHandler, inBounds_bind, value_readMessageType,
    h.received.messageType, if_pos h.messageType, inBounds_bind, value_readModuleId,
    h.received.moduleId, if_pos h.moduleId]
  dsimp only
  rw [inBounds_bind, inBounds_noteCount, h.dataFieldLength, inBounds_bind, Module.handleRequest,
    inBounds_bind, inBounds_readActionType, hlength, sizeofConnPacketModule_eq, Nat.div_one]
  unfold moduleData
  omega

/-! ### Requests -/

theorem value_request (h : ArrivedFor m p data dataLength)
    (haction : p.actionType = ModuleConfigMessages.setConfig ∨
      p.actionType = ModuleConfigMessages.getConfig ∨
      p.actionType = ModuleConfigMessages.setActive) :
    (m.connectionPacketReceivedEventHandler node modules n data dataLength).value =
      (m.handleRequest node modules n data
        (dataLength - BitVec.ofNat 16 sizeofConnPacketModule)).value := by
  have hresponse : (m.handleResponse data
      (dataLength - BitVec.ofNat 16 sizeofConnPacketModule)).value = [] := by
    rw [Module.handleResponse, value_bind, value_readActionType, h.received.actionType]
    rcases haction with haction | haction | haction <;> rw [haction] <;> rfl
  rw [h.value_handler]
  dsimp only
  rw [hresponse, List.append_nil]

theorem dataFieldLength_eq_iff (h : ArrivedFor m p data dataLength) :
    dataLength - BitVec.ofNat 16 sizeofConnPacketModule = m.configurationLength ↔
      p.data.length = m.configurationLength.toNat := by
  rw [← BitVec.toNat_inj, h.dataFieldLength]

/-- SET_CONFIG, if version and length are right. -/
theorem fst_setConfig (h : ArrivedFor m p data dataLength)
    (haction : p.actionType = ModuleConfigMessages.setConfig)
    (hversion : data (moduleData + 2) = m.moduleVersion)
    (hlength : p.data.length = m.configurationLength.toNat) :
    (m.connectionPacketReceivedEventHandler node modules n data dataLength).value.1 =
      Function.update modules n (some (m.loadConfiguration p.data)) := by
  rw [h.value_request (Or.inl haction), Module.handleRequest, value_bind, value_readActionType,
    h.received.actionType, if_pos haction, Module.handleSetConfig, value_bind, value_readByte,
    if_pos ⟨hversion, h.dataFieldLength_eq_iff.mpr hlength⟩, value_bind, value_readBlock, ← hlength,
    h.read_data]
  rfl

/-- SET_CONFIG, if one of them is not. -/
theorem fst_setConfig_refused (h : ArrivedFor m p data dataLength)
    (haction : p.actionType = ModuleConfigMessages.setConfig)
    (hwrong : data (moduleData + 2) = m.moduleVersion →
      p.data.length ≠ m.configurationLength.toNat) :
    (m.connectionPacketReceivedEventHandler node modules n data dataLength).value.1 = modules := by
  have hrefused : ¬ (data (moduleData + 2) = m.moduleVersion ∧
      dataLength - BitVec.ofNat 16 sizeofConnPacketModule = m.configurationLength) :=
    fun hfits => hwrong hfits.1 (h.dataFieldLength_eq_iff.mp hfits.2)
  rw [h.value_request (Or.inl haction), Module.handleRequest, value_bind, value_readActionType,
    h.received.actionType, if_pos haction, Module.handleSetConfig, value_bind, value_readByte,
    if_neg hrefused, value_bind]
  split_ifs <;> rfl

/-- GET_CONFIG. -/
theorem value_getConfig (h : ArrivedFor m p data dataLength)
    (haction : p.actionType = ModuleConfigMessages.getConfig) (node : Node)
    (modules : ActiveModules) (n : Fin maxModuleCount) :
    (m.connectionPacketReceivedEventHandler node modules n data dataLength).value =
      (modules, [(⟨⟨Module.answerHeader node p.header.sender, m.moduleId, p.requestHandle,
        ModuleConfigMessages.config, m.configurationBytes⟩,
        sizeofConnPacketModule + m.configurationLength.toNat⟩ : Sending).report]) := by
  have hother : p.actionType ≠ ModuleConfigMessages.setConfig := by rw [haction]; decide
  rw [h.value_request (Or.inr (Or.inl haction)), Module.handleRequest, value_bind,
    value_readActionType, h.received.actionType, if_neg hother, if_pos haction,
    Module.handleGetConfig, value_bind, value_bind, value_readSender, h.received.sender,
    readRequestHandle, value_readByte, h.received.requestHandle]
  rfl

/-- SET_ACTIVE. -/
theorem value_setActive (h : ArrivedFor m p data dataLength)
    (haction : p.actionType = ModuleConfigMessages.setActive) {i : Fin maxModuleCount}
    (hfind : modules.find m.moduleId = some i) :
    (m.connectionPacketReceivedEventHandler node modules n data dataLength).value.1 =
      modules.setModuleActive i (data moduleData) := by
  have hset : p.actionType ≠ ModuleConfigMessages.setConfig := by rw [haction]; decide
  have hget : p.actionType ≠ ModuleConfigMessages.getConfig := by rw [haction]; decide
  rw [h.value_request (Or.inr (Or.inr haction)), Module.handleRequest, value_bind,
    value_readActionType, h.received.actionType, if_neg hset, if_neg hget, if_pos haction,
    Module.handleSetActive, value_bind, value_readModuleId, h.received.moduleId, h.moduleId, hfind]
  rfl

/-- Any other action changes nothing. -/
theorem fst_other (h : ArrivedFor m p data dataLength)
    (hset : p.actionType ≠ ModuleConfigMessages.setConfig)
    (hactive : p.actionType ≠ ModuleConfigMessages.setActive) :
    (m.connectionPacketReceivedEventHandler node modules n data dataLength).value.1 = modules := by
  rw [h.value_handler]
  simp only [Module.handleRequest, value_bind, value_readActionType, h.received.actionType,
    if_neg hset, if_neg hactive]
  split_ifs <;> rfl

/-! ### Responses -/

/-- CONFIG. -/
theorem value_config (h : ArrivedFor m p data dataLength)
    (haction : p.actionType = ModuleConfigMessages.config) :
    (m.connectionPacketReceivedEventHandler node modules n data dataLength).value =
      (modules, [.config p.header.sender m.moduleId p.data]) := by
  have hrequest : (m.handleRequest node modules n data
      (dataLength - BitVec.ofNat 16 sizeofConnPacketModule)).value = (modules, []) := by
    rw [Module.handleRequest, value_bind, value_readActionType, h.received.actionType, haction]
    rfl
  have hresponse : (m.handleResponse data
      (dataLength - BitVec.ofNat 16 sizeofConnPacketModule)).value =
      [.config p.header.sender m.moduleId p.data] := by
    have hread := h.read_data
    rw [← h.dataFieldLength] at hread
    rw [Module.handleResponse, value_bind, value_readActionType, h.received.actionType, haction]
    show [Report.config (readSender data).value m.moduleId
      (Cells.read data moduleData (dataLength - BitVec.ofNat 16 sizeofConnPacketModule).toNat)] = _
    rw [hread, value_readSender, h.received.sender]
  rw [h.value_handler]
  dsimp only
  rw [hrequest, hresponse]
  rfl

/-! ### All that is reported -/

/-- What a module reports when a packet has arrived for it. -/
inductive Reported (node : Node) (m : Module) (p : ConnPacketModule) : Report → Prop
  | wrongConfigVersion : Reported node m p (.wrongConfigVersion m.moduleId)
  | wrongConfigurationLength : Reported node m p (.wrongConfigurationLength m.moduleId)
  /-- A request other than GET_CONFIG is answered with a single byte. -/
  | answered {moduleId : U16} {requestHandle actionType : U8}
      (haction : actionType ≠ ModuleConfigMessages.config) :
      Reported node m p
        (Sending.report ⟨⟨Module.answerHeader node p.header.sender, moduleId, requestHandle,
          actionType, [0]⟩, sizeofConnPacketModule + 1⟩)
  | answeredConfig (haction : p.actionType = ModuleConfigMessages.getConfig) :
      Reported node m p
        (Sending.report ⟨⟨Module.answerHeader node p.header.sender, m.moduleId, p.requestHandle,
          ModuleConfigMessages.config, m.configurationBytes⟩,
          sizeofConnPacketModule + m.configurationLength.toNat⟩)
  | printedConfigResult {nodeId : NodeId} {moduleId : U16} {requestHandle code : U8} :
      Reported node m p (.setConfigResult nodeId moduleId requestHandle code)
  | printedActiveResult {nodeId : NodeId} {moduleId : U16} {requestHandle code : U8} :
      Reported node m p (.setActiveResult nodeId moduleId requestHandle code)
  | printedConfig (haction : p.actionType = ModuleConfigMessages.config) :
      Reported node m p (.config p.header.sender m.moduleId p.data)

theorem Reported.of_config {node : Node} {m : Module} {p : ConnPacketModule} {nodeId : NodeId}
    {moduleId : U16} {config : List U8} (h : Reported node m p (.config nodeId moduleId config)) :
    p.actionType = ModuleConfigMessages.config ∧ config = p.data := by
  cases h with
  | printedConfig haction => exact ⟨haction, rfl⟩

theorem reported_request (h : ArrivedFor m p data dataLength) {report : Report}
    (hmem : report ∈ (m.handleRequest node modules n data
      (dataLength - BitVec.ofNat 16 sizeofConnPacketModule)).value.2) : Reported node m p report := by
  have hsender : (readSender data).value = p.header.sender := h.received.sender
  simp only [Module.handleRequest, value_bind] at hmem
  split_ifs at hmem with _ haction
  · simp only [Module.handleSetConfig, value_bind] at hmem
    split_ifs at hmem
    · simp only [value_bind, value_pure, hsender, List.mem_singleton] at hmem
      rw [hmem]
      exact .answered (by decide)
    · simp only [value_bind] at hmem
      split_ifs at hmem <;> rw [List.mem_singleton.mp hmem]
      · exact .wrongConfigVersion
      · exact .wrongConfigurationLength
  · have haction' : p.actionType = ModuleConfigMessages.getConfig := by
      rwa [value_readActionType, h.received.actionType] at haction
    have hvalue := h.value_getConfig haction' node modules n
    rw [h.value_request (Or.inr (Or.inl haction')), Module.handleRequest, value_bind,
      if_neg (by assumption), if_pos haction] at hvalue
    rw [hvalue] at hmem
    rw [List.mem_singleton.mp hmem]
    exact .answeredConfig haction'
  · simp only [Module.handleSetActive, value_bind] at hmem
    split at hmem
    · exact absurd hmem List.not_mem_nil
    · simp only [value_bind, value_pure, hsender, List.mem_singleton] at hmem
      rw [hmem]
      exact .answered (by decide)
  · exact absurd hmem List.not_mem_nil

theorem reported_response (h : ArrivedFor m p data dataLength) {report : Report}
    (hmem : report ∈ (m.handleResponse data
      (dataLength - BitVec.ofNat 16 sizeofConnPacketModule)).value) : Reported node m p report := by
  simp only [Module.handleResponse, value_bind, value_readActionType, h.received.actionType] at hmem
  split_ifs at hmem with _ _ haction
  · rw [List.mem_singleton.mp hmem]
    exact .printedConfigResult
  · rw [List.mem_singleton.mp hmem]
    exact .printedActiveResult
  · simp only [Module.printConfig, value_bind, value_readBlock, value_readSender, value_pure,
      h.dataFieldLength, h.read_data, h.received.sender, List.mem_singleton] at hmem
    rw [hmem]
    exact .printedConfig haction
  · exact absurd hmem List.not_mem_nil

/-- **All that a handler reports.** -/
theorem reported (h : ArrivedFor m p data dataLength) {report : Report}
    (hmem : report ∈
      (m.connectionPacketReceivedEventHandler node modules n data dataLength).value.2) :
    Reported node m p report := by
  rw [h.value_handler] at hmem
  rcases List.mem_append.mp hmem with hrequest | hresponse
  · exact h.reported_request hrequest
  · exact h.reported_response hresponse

end ArrivedFor

end FruityMesh.Modules
