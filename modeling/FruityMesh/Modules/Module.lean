import FruityMesh.Library.Reads
import FruityMesh.Mesh.Node

/-!
# How a module handles a packet

`Module::ConnectionPacketReceivedEventHandler`, which every module inherits, and the part of
`StatusReporterModule`'s handler that parses responses.  Both cast the packet to
`connPacketModule` and its data to further structs, so what they read is noted (`Reads`).

A handler returns the modules afterwards, with what it printed on the UART, asked
`ConnectionManager` to send or set (`Report`).  Only the parameters of what is printed are
kept, not the text around them.
-/

namespace FruityMesh.Modules

open Cells LittleEndian Mesh Reads
open Node (sizeofConnPacketModule)

/-! ## Modules -/

structure Module where
  moduleId : U16
  /-- The memory behind `configurationPointer`: the id of the module, the version, whether the
  module is active, and what the module itself keeps there. -/
  configuration : ℕ → U8
  configurationLength : U16
  /-- What the `ConfigurationLoadedHandler` of the module does to its configuration. -/
  configurationLoadedHandler : (ℕ → U8) → ℕ → U8
  /-- The module is a `StatusReporterModule`. -/
  isStatusReporter : Bool

/-- `activeModules`, with `none` for a null pointer. -/
abbrev ActiveModules := Fin maxModuleCount → Option Module

namespace Module

def moduleVersion (m : Module) : U8 := m.configuration 2

def configurationBytes (m : Module) : List U8 :=
  read m.configuration 0 m.configurationLength.toNat

/-- A new configuration is copied over the old one, but for the id of the module. -/
def loadConfiguration (m : Module) (newConfig : List U8) : Module :=
  { m with
    configuration := m.configurationLoadedHandler
      (overwrite (overwrite m.configuration 0 newConfig) 0 (u16Bytes (u16At m.configuration 0))) }

def setModuleActive (m : Module) (active : U8) : Module :=
  { m with configuration := overwrite m.configuration 3 [active] }

end Module

namespace ActiveModules

/-- The first module with this id. -/
def find (modules : ActiveModules) (moduleId : U16) : Option (Fin maxModuleCount) :=
  (List.finRange maxModuleCount).find? fun i => (modules i).any (·.moduleId = moduleId)

def setModuleActive (modules : ActiveModules) (i : Fin maxModuleCount) (active : U8) :
    ActiveModules :=
  Function.update modules i ((modules i).map (·.setModuleActive active))

end ActiveModules

/-! ## Packets -/

structure ConnPacketModule where
  header : ConnPacketHeader
  moduleId : U16
  requestHandle : U8
  actionType : U8
  data : List U8
  deriving DecidableEq, Repr

/-- Where the data of a `connPacketModule` starts.  The header has seven bytes, one more than
`SIZEOF_CONN_PACKET_HEADER`. -/
def moduleData : ℕ := 11

namespace ModuleConfigMessages

def setConfig : U8 := 0
def setConfigResult : U8 := 1
def setActive : U8 := 2
def setActiveResult : U8 := 3
def getConfig : U8 := 4
def config : U8 := 5
def getModuleList : U8 := 6
def moduleList : U8 := 7

end ModuleConfigMessages

namespace StatusModuleActionResponseMessages

def status : U8 := 1
def deviceInfo : U8 := 2
def allConnections : U8 := 3
def nearbyNodes : U8 := 4

end StatusModuleActionResponseMessages

/-- `StatusReporterModuleDeviceInfoMessage`. -/
structure DeviceInfo where
  dBmRX : U8
  dBmTX : U8
  deviceType : U8
  manufacturerId : U16
  networkId : U16
  nodeVersion : U32
  chipId : List U8
  serialNumber : List U8
  accessAddress : List U8
  deriving DecidableEq, Repr

/-- `StatusReporterModuleStatusMessage`; `freeInOut` is the byte with both numbers. -/
structure Status where
  batteryInfo : U8
  clusterSize : ClusterSize
  connectionLossCounter : U8
  freeInOut : U8
  inConnectionPartner : NodeId
  inConnectionRSSI : U8
  deriving DecidableEq, Repr

/-- What a handler prints, asks to send or sets. -/
inductive Report
  | sendMessageToReceiver (packet : ConnPacketModule) (dataLength : ℕ)
  | sendModuleList (toNode : NodeId) (requestHandle : U8)
  | setScanResponse (payload : List U8)
  | advInfo (sender : NodeId) (addr : List U8) (count : U8) (rssiSum : U16)
  | moduleList (nodeId : NodeId) (modules : List (U16 × U8 × U8))
  | wrongConfigVersion (moduleId : U16)
  | wrongConfigurationLength (moduleId : U16)
  | setConfigResult (nodeId : NodeId) (moduleId : U16) (requestHandle code : U8)
  | setActiveResult (nodeId : NodeId) (moduleId : U16) (requestHandle code : U8)
  | config (nodeId : NodeId) (moduleId : U16) (config : List U8)
  | connections (nodeId : NodeId) (moduleId : U16) (partners : List NodeId) (rssiValues : List U8)
  | deviceInfo (nodeId : NodeId) (moduleId : U16) (info : DeviceInfo)
  | status (nodeId : NodeId) (moduleId : U16) (status : Status)
  | nearbyNodes (nodeId : NodeId) (moduleId : U16) (nodes : List (NodeId × U8))
  deriving DecidableEq, Repr

/-! ### The fields of a packet -/

section Fields

variable (data : ℕ → U8)

def readU16 (offset : ℕ) : Reads U16 := readField 2 data offset

def readU32 (offset : ℕ) : Reads U32 := readField 4 data offset

def readMessageType : Reads MessageType := do return messageTypeOf (← readByte data 0)

def readSender : Reads NodeId := readU16 data 1

def readReceiver : Reads NodeId := readU16 data 3

def readModuleId : Reads U16 := readU16 data 7

def readRequestHandle : Reads U8 := readByte data 9

def readActionType : Reads U8 := readByte data 10

/-! What the fields are, and how long a packet is that has them. -/

variable {length : ℕ} (offset : ℕ)

@[simp] theorem value_readU16 : (readU16 data offset).value = u16At data offset := (rfl)

@[simp] theorem value_readU32 : (readU32 data offset).value = u32At data offset := (rfl)

@[simp] theorem value_readMessageType : (readMessageType data).value = messageTypeAt data := (rfl)

@[simp] theorem value_readSender : (readSender data).value = senderAt data := (rfl)

@[simp] theorem value_readReceiver : (readReceiver data).value = receiverAt data := (rfl)

@[simp] theorem value_readModuleId : (readModuleId data).value = u16At data 7 := (rfl)

@[simp] theorem value_readActionType : (readActionType data).value = data 10 := (rfl)

@[simp] theorem inBounds_readU16 :
    (readU16 data offset).InBounds length ↔ offset + 2 ≤ length := by
  rw [readU16, inBounds_readField]
  simp

@[simp] theorem inBounds_readU32 :
    (readU32 data offset).InBounds length ↔ offset + 4 ≤ length := by
  rw [readU32, inBounds_readField]
  simp

@[simp] theorem inBounds_readMessageType :
    (readMessageType data).InBounds length ↔ 1 ≤ length := by
  simp [readMessageType, Nat.one_le_iff_ne_zero, Nat.pos_iff_ne_zero]

@[simp] theorem inBounds_readSender : (readSender data).InBounds length ↔ 3 ≤ length :=
  inBounds_readU16 data 1

@[simp] theorem inBounds_readReceiver : (readReceiver data).InBounds length ↔ 5 ≤ length :=
  inBounds_readU16 data 3

@[simp] theorem inBounds_readModuleId : (readModuleId data).InBounds length ↔ 9 ≤ length :=
  inBounds_readU16 data 7

@[simp] theorem inBounds_readRequestHandle :
    (readRequestHandle data).InBounds length ↔ 10 ≤ length := inBounds_readByte data 9

@[simp] theorem inBounds_readActionType :
    (readActionType data).InBounds length ↔ 11 ≤ length := inBounds_readByte data 10

end Fields

/-! ## `Module` -/

namespace Module

section Handler

variable (node : Node) (modules : ActiveModules) (n : Fin maxModuleCount) (m : Module)
  (data : ℕ → U8)

/-- The header of an answer. -/
def answerHeader (receiver : NodeId) : ConnPacketHeader :=
  node.packetHeader messageTypeModuleConfig receiver

/-- SET_CONFIG.  The answer names the id that stands in the configuration. -/
def handleSetConfig (dataFieldLength : U16) : Reads (ActiveModules × List Report) := do
  let moduleVersion ← readByte data (moduleData + 2)
  if moduleVersion = m.moduleVersion ∧ dataFieldLength = m.configurationLength then
    let newConfig ← readBlock data moduleData m.configurationLength.toNat
    let sender ← readSender data
    let requestHandle ← readRequestHandle data
    return (Function.update modules n (some (m.loadConfiguration newConfig)),
      [.sendMessageToReceiver
        ⟨answerHeader node sender, u16At m.configuration 0, requestHandle,
          ModuleConfigMessages.setConfigResult, [0]⟩ (sizeofConnPacketModule + 1)])
  else
    let moduleVersion ← readByte data (moduleData + 2)
    if moduleVersion ≠ m.moduleVersion then return (modules, [.wrongConfigVersion m.moduleId])
    else return (modules, [.wrongConfigurationLength m.moduleId])

/-- GET_CONFIG. -/
def handleGetConfig : Reads (ActiveModules × List Report) := do
  let sender ← readSender data
  let requestHandle ← readRequestHandle data
  return (modules,
    [.sendMessageToReceiver
      ⟨answerHeader node sender, m.moduleId, requestHandle, ModuleConfigMessages.config,
        m.configurationBytes⟩ (sizeofConnPacketModule + m.configurationLength.toNat)])

/-- SET_ACTIVE: the first module with the id of the packet is set active or inactive. -/
def handleSetActive : Reads (ActiveModules × List Report) := do
  let moduleId ← readModuleId data
  match modules.find moduleId with
  | none => return (modules, [])
  | some i =>
    let active ← readByte data moduleData
    let sender ← readSender data
    let requestHandle ← readRequestHandle data
    return (modules.setModuleActive i active,
      [.sendMessageToReceiver
        ⟨answerHeader node sender, m.moduleId, requestHandle,
          ModuleConfigMessages.setActiveResult, [0]⟩ (sizeofConnPacketModule + 1)])

def handleRequest (dataFieldLength : U16) : Reads (ActiveModules × List Report) := do
  let actionType ← readActionType data
  if actionType = ModuleConfigMessages.setConfig then
    handleSetConfig node modules n m data dataFieldLength
  else if actionType = ModuleConfigMessages.getConfig then handleGetConfig node modules m data
  else if actionType = ModuleConfigMessages.setActive then handleSetActive node modules m data
  else return (modules, [])

/-- The results of setting a configuration and of setting a module active. -/
def printResult (report : NodeId → U16 → U8 → U8 → Report) : Reads (List Report) := do
  let sender ← readSender data
  let moduleId ← readModuleId data
  let requestHandle ← readRequestHandle data
  let code ← readByte data moduleData
  return [report sender moduleId requestHandle code]

/-- CONFIG: the data field is printed. -/
def printConfig (dataFieldLength : U16) : Reads (List Report) := do
  let config ← readBlock data moduleData dataFieldLength.toNat
  let sender ← readSender data
  return [.config sender m.moduleId config]

def handleResponse (dataFieldLength : U16) : Reads (List Report) := do
  let actionType ← readActionType data
  if actionType = ModuleConfigMessages.setConfigResult then printResult data .setConfigResult
  else if actionType = ModuleConfigMessages.setActiveResult then printResult data .setActiveResult
  else if actionType = ModuleConfigMessages.config then printConfig m data dataFieldLength
  else return []

/-- `Module::ConnectionPacketReceivedEventHandler`, of the module in slot `n`.  The length of
the data field is what is left behind `SIZEOF_CONN_PACKET_MODULE`. -/
def connectionPacketReceivedEventHandler (dataLength : U16) :
    Reads (ActiveModules × List Report) := do
  let messageType ← readMessageType data
  if messageType = messageTypeModuleConfig then
    let moduleId ← readModuleId data
    if moduleId = m.moduleId then
      let dataFieldLength := dataLength - BitVec.ofNat 16 sizeofConnPacketModule
      noteCount dataFieldLength.toNat moduleData 1
      let request ← handleRequest node modules n m data dataFieldLength
      let response ← handleResponse m data dataFieldLength
      return (request.1, request.2 ++ response)
    else return (modules, [])
  else return (modules, [])

end Handler

end Module

/-! ## `StatusReporterModule` -/

namespace StatusReporterModule

section Responses

variable (m : Module) (data : ℕ → U8)

/-- ALL_CONNECTIONS. -/
def printConnections : Reads (List Report) := do
  let sender ← readSender data
  let partners ← forEach (fun i => readU16 data (moduleData + 2 * i)) (List.range 4)
  let rssiValues ← readBlock data (moduleData + 8) 4
  return [.connections sender m.moduleId partners rssiValues]

/-- DEVICE_INFO.  The address is a `ble_gap_addr_t`, whose first byte is its type. -/
def printDeviceInfo : Reads (List Report) := do
  let sender ← readSender data
  let dBmRX ← readByte data (moduleData + 28)
  let dBmTX ← readByte data (moduleData + 29)
  let deviceType ← readByte data (moduleData + 30)
  let manufacturerId ← readU16 data moduleData
  let networkId ← readU16 data (moduleData + 22)
  let nodeVersion ← readU32 data (moduleData + 24)
  let chipId ← readBlock data (moduleData + 7) 8
  let serialNumber ← readText data (moduleData + 2) serialNumberLength
  let accessAddress ← readBlock data (moduleData + 16) 6
  return [.deviceInfo sender m.moduleId {
    dBmRX, dBmTX, deviceType, manufacturerId, networkId, nodeVersion, chipId, serialNumber,
    accessAddress }]

/-- STATUS. -/
def printStatus : Reads (List Report) := do
  let sender ← readSender data
  let clusterSize ← readU16 data moduleData
  let inConnectionPartner ← readU16 data (moduleData + 2)
  let inConnectionRSSI ← readByte data (moduleData + 4)
  let freeInOut ← readByte data (moduleData + 5)
  let batteryInfo ← readByte data (moduleData + 6)
  let connectionLossCounter ← readByte data (moduleData + 7)
  return [.status sender m.moduleId {
    batteryInfo, clusterSize, connectionLossCounter, freeInOut, inConnectionPartner,
    inConnectionRSSI }]

/-- NEARBY_NODES.  The division rounds towards zero, and the result is stored in a `u16`. -/
def printNearbyNodes (dataLength : U16) : Reads (List Report) := do
  let sender ← readSender data
  let nodeCount : U16 :=
    BitVec.ofInt 16 (((dataLength.toNat : ℤ) - sizeofConnPacketModule).tdiv 3)
  noteCount nodeCount.toNat moduleData 3
  let nodes ← forEach (fun i => do
    let nodeId ← readU16 data (moduleData + i * 3)
    let rssi ← readByte data (moduleData + i * 3 + 2)
    return (nodeId, rssi)) (List.range nodeCount.toNat)
  return [.nearbyNodes sender m.moduleId nodes]

def printResponse (dataLength : U16) : Reads (List Report) := do
  let actionType ← readActionType data
  if actionType = StatusModuleActionResponseMessages.allConnections then printConnections m data
  else if actionType = StatusModuleActionResponseMessages.deviceInfo then printDeviceInfo m data
  else if actionType = StatusModuleActionResponseMessages.status then printStatus m data
  else if actionType = StatusModuleActionResponseMessages.nearbyNodes then
    printNearbyNodes m data dataLength
  else return []

/-- The part of `StatusReporterModule::ConnectionPacketReceivedEventHandler` that parses the
responses. -/
def parseModuleResponses (dataLength : U16) : Reads (List Report) := do
  let messageType ← readMessageType data
  if messageType = messageTypeModuleActionResponse then
    let moduleId ← readModuleId data
    if moduleId = m.moduleId then printResponse m data dataLength else return []
  else return []

end Responses

end StatusReporterModule

end FruityMesh.Modules
