import FruityMesh.Mesh.Accounting
import FruityMesh.Modules.Sending

/-!
# Configuring a module from another node

A node sends SET_CONFIG to another one and asks for the configuration with GET_CONFIG, or it
sends SET_ACTIVE or a module action.  As the last byte of each packet is not transmitted, all
this depends on the memory behind the packets: `remoteConfiguration_iff` says for each message
when it goes well.
-/

namespace FruityMesh.Modules

open Cells LittleEndian Mesh Transport Reads
open Node (sizeofConnPacketModule startedNode)

/-! ## Loading a configuration -/

namespace Module

/-- `Module::ConfigurationLoadedHandler`.  The handlers of the modules call it, and do nothing
else to the configuration. -/
def baseConfigurationLoadedHandler (resetToDefaultConfiguration : (ℕ → U8) → ℕ → U8)
    (configuration : ℕ → U8) : ℕ → U8 :=
  if u16At configuration 0 = 0xFF then resetToDefaultConfiguration configuration else configuration

/-- The module loads its configuration in this way, and its default configuration has its id. -/
structure LoadsConfiguration (m : Module) (resetToDefaultConfiguration : (ℕ → U8) → ℕ → U8) :
    Prop where
  handler : m.configurationLoadedHandler = baseConfigurationLoadedHandler resetToDefaultConfiguration
  moduleId_reset : ∀ configuration, u16At (resetToDefaultConfiguration configuration) 0 = m.moduleId
  moduleId_ne : m.moduleId ≠ 0xFF

/-- The bytes of a new configuration, with the id of the old one. -/
def withModuleId (m : Module) (config : List U8) : List U8 :=
  u16Bytes (u16At m.configuration 0) ++ config.drop 2

def moduleActive (m : Module) : U8 := m.configuration 3

variable {m : Module} {reset : (ℕ → U8) → ℕ → U8} {config : List U8}

theorem holds_loadConfiguration (m : Module) (config : List U8) :
    Holds (overwrite (overwrite m.configuration 0 config) 0 (u16Bytes (u16At m.configuration 0))) 0
      (m.withModuleId config) := by
  rw [withModuleId, holds_append, length_u16Bytes, Nat.zero_add]
  refine ⟨holds_overwrite _ _ _, ?_⟩
  have hrest := (holds_overwrite m.configuration 0 config).drop 2
  intro k hk
  rw [overwrite_u16Bytes _ _ (Or.inr (by omega)), ← hrest k hk, Nat.zero_add]

/-- **A configuration is loaded as it came,** but for the id, if the old one had a valid id. -/
theorem configurationBytes_loadConfiguration (hloads : m.LoadsConfiguration reset)
    (hlength : config.length = m.configurationLength.toNat) (hlong : 2 ≤ config.length)
    (wanted : List U8) :
    (m.loadConfiguration config).configurationBytes = m.withModuleId wanted ↔
      u16At m.configuration 0 ≠ 0xFF ∧ config.drop 2 = wanted.drop 2 := by
  have hholds := holds_loadConfiguration m config
  have hlengths : (m.withModuleId config).length = m.configurationLength.toNat := by
    rw [withModuleId, List.length_append, length_u16Bytes, List.length_drop]
    omega
  have hid : u16At (overwrite (overwrite m.configuration 0 config) 0
      (u16Bytes (u16At m.configuration 0))) 0 = u16At m.configuration 0 := u16At_overwrite _ 0 _
  simp only [configurationBytes, loadConfiguration, hloads.handler, baseConfigurationLoadedHandler,
    hid]
  split_ifs with hinvalid
  · -- the default configuration has the id of the module, which is a valid one
    refine iff_of_false (fun heq => ?_) (fun hvalid => hvalid.1 hinvalid)
    have hreset := hloads.moduleId_reset (overwrite (overwrite m.configuration 0 config) 0
      (u16Bytes (u16At m.configuration 0)))
    have hbytes := holds_read (reset (overwrite (overwrite m.configuration 0 config) 0
      (u16Bytes (u16At m.configuration 0)))) 0 m.configurationLength.toNat
    rw [heq, withModuleId, holds_append] at hbytes
    rw [u16At_eq hbytes.1, hinvalid] at hreset
    exact hloads.moduleId_ne hreset.symm
  · rw [← hlengths, hholds.read_eq, withModuleId, withModuleId, List.append_cancel_left_eq,
      and_iff_right hinvalid]

end Module

/-! ## From one node to another -/

section Exchange

variable (requester target : Node) (modules others : ActiveModules) (n l : Fin maxModuleCount)
  (m other : Module)

/-- What module `m` in slot `n` makes of a packet of which these bytes were transmitted. -/
def receive (node : Node) (modules : ActiveModules) (n : Fin maxModuleCount) (m : Module)
    (sending : Sending) (behind : ℕ → U8) : Reads (ActiveModules × List Report) :=
  m.connectionPacketReceivedEventHandler node modules n (arrive sending.message behind).data
    (arrive sending.message behind).dataLength

/-- The target answers a GET_CONFIG of the requester, which then prints this configuration. -/
def Returns (config : List U8) (stackHandle : U8) (behindGet behindConfig : ℕ → U8) : Prop :=
  ∃ answer : Sending,
    answer.report ∈ (receive target modules n m
      (Module.sendGetConfig requester m.moduleId target.nodeId stackHandle) behindGet).value.2 ∧
    answer.packet.header.receiver = requester.nodeId ∧
    .config target.nodeId m.moduleId config ∈
      (receive requester others l other answer behindConfig).value.2

/-- After a SET_CONFIG of the requester the target has the configuration, but for the id of the
module, and returns it. -/
def RoundTrip (config : List U8) (requestHandle stackHandle : U8)
    (behindSet behindGet behindConfig : ℕ → U8) : Prop :=
  ∃ m' : Module,
    (receive target modules n m
      (Module.sendSetConfig requester m.moduleId target.nodeId config requestHandle)
        behindSet).value.1 = Function.update modules n (some m') ∧
    m'.configurationBytes = m.withModuleId config ∧
    Returns requester target (Function.update modules n (some m')) others n l m' other
      (m.withModuleId config) stackHandle behindGet behindConfig

/-- A SET_CONFIG of the requester changes nothing. -/
def Unchanged (config : List U8) (requestHandle : U8) (behind : ℕ → U8) : Prop :=
  (receive target modules n m
    (Module.sendSetConfig requester m.moduleId target.nodeId config requestHandle)
      behind).value.1 = modules

/-- A SET_ACTIVE of the requester sets the module with this id to this state. -/
def SetsActive (moduleState requestHandle : U8) (behind : ℕ → U8) : Prop :=
  ∃ i m', modules.find m.moduleId = some i ∧
    (receive target modules n m
      (Module.sendSetActive requester m.moduleId target.nodeId moduleState requestHandle)
        behind).value.1 i = some m' ∧ m'.moduleActive = moduleState

end Exchange

/-- The receiver finds the packet that was sent, with all its data. -/
def Sending.Delivered (sending : Sending) (behind : ℕ → U8) : Prop :=
  sending.packet.Received (moduleData + sending.packet.data.length)
    (arrive sending.message behind).data

/-- The stores with which a packet is built in a buffer. -/
def ConnPacketModule.fill (packet : ConnPacketModule) (buffer : Memory U8) : Memory U8 :=
  (((((((buffer.store 0
    [firstByte packet.header.hasMoreParts packet.header.messageType]).store 1
    (u16Bytes packet.header.sender)).store 3
    (u16Bytes packet.header.receiver)).store 7
    (u16Bytes packet.moduleId)).store 9
    [packet.requestHandle]).store 10
    [packet.actionType]).store moduleData
    packet.data)

section

variable {sending : Sending} {behind : ℕ → U8}

theorem not_within_fill (cell : ℕ → U8) (packet : ConnPacketModule) :
    ¬ (packet.fill ⟨cell, [], []⟩).AccessesWithin
      (sizeofConnPacketModule + packet.data.length) := by
  intro h
  simp only [ConnPacketModule.fill, Memory.accessesWithin_store_iff, List.length_singleton] at h
  obtain ⟨⟨-, haction⟩, hdata⟩ := h
  rw [sizeofConnPacketModule_eq] at haction hdata
  unfold moduleData at hdata
  omega

theorem dropLast_append_eq_iff {α : Type*} {xs : List α} (hne : xs ≠ []) {x : α} (d : α) :
    xs.dropLast ++ [x] = xs ↔ x = xs.getLastD d := by
  have hlast : xs.getLastD d = xs.getLast hne := by
    rw [List.getLastD_eq_getLast?, List.getLast?_eq_some_getLast hne, Option.getD_some]
  rw [hlast]
  constructor
  · intro heq
    have hlasts := congrArg List.getLast? heq
    rw [List.getLast?_concat, List.getLast?_eq_some_getLast hne] at hlasts
    exact Option.some.inj hlasts
  · rintro rfl
    exact List.dropLast_append_getLast hne

theorem Sending.found_eq_iff : sending.found behind = sending.packet ↔
    sending.foundByte behind = sending.lastByte := by
  unfold lastByte
  by_cases hdata : sending.packet.data = []
  · rw [found_of_nil hdata, hdata]
    exact ⟨fun heq => congrArg ConnPacketModule.actionType heq, fun heq => by rw [heq]; rfl⟩
  · rw [found_of_ne hdata, ← dropLast_append_eq_iff hdata]
    exact ⟨fun heq => congrArg ConnPacketModule.data heq, fun heq => by rw [heq]⟩

/-- **A packet is delivered exactly if the byte behind it happens to be its last one.** -/
theorem Sending.CutShort.delivered_iff (h : sending.CutShort) :
    sending.Delivered behind ↔ sending.foundByte behind = sending.lastByte := by
  have hfound := h.received_found behind
  rw [← found_eq_iff]
  constructor
  · intro hdelivered
    unfold found
    split_ifs with hdata
    · have haction := hfound.actionType.symm.trans hdelivered.actionType
      rw [found_of_nil hdata] at haction
      have hbyte : sending.foundByte behind = sending.packet.actionType := haction
      rw [hbyte]
    · have hread := hfound.data.read_eq
      have hread' := hdelivered.data.read_eq
      rw [Nat.add_sub_cancel_left] at hread hread'
      rw [← length_data_found behind, List.take_length] at hread
      rw [List.take_length, ← length_data_found behind, hread, found_of_ne hdata] at hread'
      have hbytes : sending.packet.data.dropLast ++ [sending.foundByte behind] =
          sending.packet.data := hread'
      rw [hbytes]
  · intro hsame
    rw [hsame] at hfound
    exact hfound

end

/-! ### The messages of the senders -/

theorem messageTypeModuleConfig_ne : messageTypeModuleConfig ≠ messageTypeUpdateTimestamp := by
  decide

section Senders

variable (node : Node) (moduleId : U16) (receiver : NodeId) (requestHandle : U8)

theorem cutShort_sendModuleActionMessage {messageType : MessageType}
    (htype : messageType ≠ messageTypeUpdateTimestamp) (actionType : U8) {additionalData : List U8}
    (hfits : sizeofConnPacketModule + additionalData.length < 2 ^ 16) :
    (Module.sendModuleActionMessage node moduleId messageType receiver actionType requestHandle
      additionalData).CutShort := ⟨rfl, hfits, htype⟩

theorem cutShort_sendSetConfig {config : List U8}
    (hfits : sizeofConnPacketModule + config.length < 2 ^ 16) :
    (Module.sendSetConfig node moduleId receiver config requestHandle).CutShort :=
  ⟨rfl, hfits, messageTypeModuleConfig_ne⟩

theorem cutShort_sendGetConfig :
    (Module.sendGetConfig node moduleId receiver requestHandle).CutShort :=
  ⟨rfl, of_decide_eq_true rfl, messageTypeModuleConfig_ne⟩

theorem cutShort_sendSetActive (moduleState : U8) :
    (Module.sendSetActive node moduleId receiver moduleState requestHandle).CutShort :=
  ⟨rfl, of_decide_eq_true rfl, messageTypeModuleConfig_ne⟩

end Senders

section

variable {requester target : Node} {modules others : ActiveModules} {n l : Fin maxModuleCount}
  {m other : Module} {config : List U8} {requestHandle stackHandle : U8}

theorem arrivedFor_sendSetConfig (requester target : Node) (m : Module) (requestHandle : U8)
    (hne : config ≠ []) (hfits : sizeofConnPacketModule + config.length < 2 ^ 16) (behind : ℕ → U8) :
    ArrivedFor m
      { (Module.sendSetConfig requester m.moduleId target.nodeId config requestHandle).packet with
        data := config.dropLast ++ [behind (sizeofConnPacketModule + config.length)] }
      (arrive (Module.sendSetConfig requester m.moduleId target.nodeId config requestHandle).message
        behind).data
      (arrive (Module.sendSetConfig requester m.moduleId target.nodeId config requestHandle).message
        behind).dataLength := by
  have harrived := (cutShort_sendSetConfig requester m.moduleId target.nodeId requestHandle
    hfits).arrivedFor (m := m) rfl rfl behind
  rwa [Sending.found_of_ne hne] at harrived

/-- The version is transmitted, unless it is the last byte. -/
theorem version_arrive (requester target : Node) (m : Module) (requestHandle : U8)
    (hwhole : 4 ≤ config.length) (hfits : sizeofConnPacketModule + config.length < 2 ^ 16) (behind : ℕ → U8) :
    config[2]? = some ((arrive (Module.sendSetConfig requester m.moduleId target.nodeId config
      requestHandle).message behind).data (moduleData + 2)) := by
  have hne : config ≠ [] := List.length_pos_iff.mp (by omega)
  have hinit : 2 < config.dropLast.length := by
    rw [List.length_dropLast]
    omega
  have hlong : 2 < (config.dropLast ++ [behind (sizeofConnPacketModule + config.length)]).length := by
    rw [List.length_append]
    omega
  have hdata := (arrivedFor_sendSetConfig requester target m requestHandle hne hfits
    behind).holds_data 2 hlong
  rw [hdata, List.getElem_append_left hinit, List.getElem_dropLast, List.getElem?_eq_getElem]

theorem length_dropLast_concat {b : U8} (hne : config ≠ []) :
    (config.dropLast ++ [b]).length = config.length := by
  have := List.length_pos_iff.mpr hne
  rw [List.length_append, List.length_dropLast, List.length_singleton]
  omega

/-- What a SET_CONFIG with the right version and length makes of the configuration. -/
theorem receive_setConfig (requester target : Node) (modules : ActiveModules)
    (n : Fin maxModuleCount) (requestHandle : U8) (hlength : config.length = m.configurationLength.toNat)
    (hversion : config[2]? = some m.moduleVersion) (hwhole : 4 ≤ config.length)
    (hfits : sizeofConnPacketModule + config.length < 2 ^ 16) (behind : ℕ → U8) :
    (receive target modules n m
      (Module.sendSetConfig requester m.moduleId target.nodeId config requestHandle)
        behind).value.1 =
      Function.update modules n (some (m.loadConfiguration
        (config.dropLast ++ [behind (sizeofConnPacketModule + config.length)]))) := by
  have hne : config ≠ [] := List.length_pos_iff.mp (by omega)
  have hsame := version_arrive requester target m requestHandle hwhole hfits behind
  rw [hversion, Option.some_inj] at hsame
  exact (arrivedFor_sendSetConfig requester target m requestHandle hne hfits behind).fst_setConfig
    rfl hsame.symm
    ((length_dropLast_concat hne).trans hlength)

/-- A module does not handle the packets of other modules. -/
theorem receive_of_moduleId_ne {node : Node} {sending : Sending} (hshort : sending.CutShort)
    (htype : sending.packet.header.messageType = messageTypeModuleConfig)
    (hne : sending.packet.moduleId ≠ m.moduleId) (behind : ℕ → U8) :
    (receive node modules n m sending behind).value = (modules, []) := by
  have hfound := hshort.received_found behind
  have htype' := hfound.messageType
  have hmodule := hfound.moduleId
  rw [Sending.header_found, htype] at htype'
  rw [Sending.moduleId_found] at hmodule
  rw [receive, Module.connectionPacketReceivedEventHandler, value_bind, value_readMessageType,
    htype', if_pos rfl, value_bind, value_readModuleId, hmodule, if_neg hne, value_pure]

/-- An answer of a single byte is not printed as a configuration. -/
theorem not_config_of_answered {receiver nodeId : NodeId} {moduleId moduleId' : U16}
    {actionType : U8} (haction : actionType ≠ ModuleConfigMessages.config) {behind : ℕ → U8} :
    .config nodeId moduleId' config ∉ (receive requester others l other
      ⟨⟨Module.answerHeader target receiver, moduleId, requestHandle, actionType, [0]⟩,
        sizeofConnPacketModule + 1⟩ behind).value.2 := by
  intro hmem
  have hshort : Sending.CutShort ⟨⟨Module.answerHeader target receiver, moduleId, requestHandle,
      actionType, [0]⟩, sizeofConnPacketModule + 1⟩ :=
    ⟨rfl, of_decide_eq_true rfl, messageTypeModuleConfig_ne⟩
  by_cases hmodule : moduleId = other.moduleId
  · have harrived := hshort.arrivedFor (m := other) rfl hmodule behind
    rw [Sending.found_of_ne (List.cons_ne_nil _ _)] at harrived
    exact haction (harrived.reported hmem).of_config.1
  · rw [receive_of_moduleId_ne hshort rfl hmodule] at hmem
    exact absurd hmem List.not_mem_nil

/-- The answer to a GET_CONFIG. -/
def configAnswer (target : Node) (m : Module) (receiver : NodeId) (requestHandle : U8) : Sending :=
  ⟨⟨Module.answerHeader target receiver, m.moduleId, requestHandle, ModuleConfigMessages.config,
    m.configurationBytes⟩, sizeofConnPacketModule + m.configurationLength.toNat⟩

theorem length_configurationBytes : m.configurationBytes.length = m.configurationLength.toNat :=
  length_read _ _ _

theorem cutShort_configAnswer (target : Node) (receiver : NodeId) (requestHandle : U8)
    (hfits : sizeofConnPacketModule + m.configurationLength.toNat < 2 ^ 16) :
    (configAnswer target m receiver requestHandle).CutShort :=
  ⟨congrArg (sizeofConnPacketModule + ·) length_configurationBytes.symm, hfits,
    messageTypeModuleConfig_ne⟩

theorem found_configAnswer (receiver : NodeId) (hlong : 0 < m.configurationLength.toNat)
    (behind : ℕ → U8) :
    (configAnswer target m receiver requestHandle).found behind =
      { (configAnswer target m receiver requestHandle).packet with
        data := m.configurationBytes.dropLast ++
          [behind (sizeofConnPacketModule + m.configurationLength.toNat)] } := by
  apply Sending.found_of_ne
  rw [← List.length_pos_iff]
  exact length_configurationBytes (m := m) ▸ hlong

theorem arrivedFor_sendGetConfig (requester target : Node) (m : Module) (stackHandle : U8)
    (behind : ℕ → U8) :
    ArrivedFor m { (Module.sendGetConfig requester m.moduleId target.nodeId stackHandle).packet with
        actionType := behind sizeofConnPacketModule }
      (arrive (Module.sendGetConfig requester m.moduleId target.nodeId stackHandle).message behind).data
      (arrive (Module.sendGetConfig requester m.moduleId target.nodeId stackHandle).message
        behind).dataLength :=
  (cutShort_sendGetConfig requester m.moduleId target.nodeId stackHandle).arrivedFor rfl rfl behind

/-- **When a GET_CONFIG is answered,** and with what. -/
theorem returns_iff (hother : m.moduleId = other.moduleId) (hlong : 0 < m.configurationLength.toNat)
    (hfits : sizeofConnPacketModule + m.configurationLength.toNat < 2 ^ 16)
    (behindGet behindConfig : ℕ → U8) :
    Returns requester target modules others n l m other config stackHandle behindGet behindConfig ↔
      behindGet sizeofConnPacketModule = ModuleConfigMessages.getConfig ∧
        config = m.configurationBytes.dropLast ++
          [behindConfig (sizeofConnPacketModule + m.configurationLength.toNat)] := by
  have hget := arrivedFor_sendGetConfig requester target m stackHandle behindGet
  have hanswer := (cutShort_configAnswer target requester.nodeId stackHandle hfits).arrivedFor rfl hother behindConfig
  rw [found_configAnswer _ hlong] at hanswer
  constructor
  · rintro ⟨answer, hmem, -, hprinted⟩
    have hreported := hget.reported hmem
    generalize hreport : answer.report = report at hreported
    cases hreported with
    | wrongConfigVersion => exact Report.noConfusion hreport
    | wrongConfigurationLength => exact Report.noConfusion hreport
    | printedConfigResult => exact Report.noConfusion hreport
    | printedActiveResult => exact Report.noConfusion hreport
    | printedConfig => exact Report.noConfusion hreport
    | answered haction =>
        -- the requester does not take this for a configuration
        obtain rfl := Sending.report_injective hreport
        exact absurd hprinted (not_config_of_answered haction)
    | answeredConfig haction =>
        obtain rfl := Sending.report_injective hreport
        exact ⟨haction, (hanswer.reported hprinted).of_config.2⟩
  · rintro ⟨haction, rfl⟩
    refine ⟨configAnswer target m requester.nodeId stackHandle, ?_, rfl, ?_⟩
    · rw [receive, hget.value_getConfig haction _ _ _]
      exact List.mem_singleton_self _
    · rw [receive, hanswer.value_config rfl, hother]
      exact List.mem_singleton_self _

theorem getLastD_drop (hwhole : 4 ≤ config.length) : (config.drop 2).getLastD 0 = config.getLastD 0 := by
  rw [List.getLastD_eq_getLast?, List.getLastD_eq_getLast?, List.getLast?_drop, if_neg (by omega)]

theorem drop_dropLast_eq_iff (hwhole : 4 ≤ config.length) (b : U8) :
    (config.dropLast ++ [b]).drop 2 = config.drop 2 ↔ b = config.getLastD 0 := by
  have hne : config.drop 2 ≠ [] := by
    rw [← List.length_pos_iff, List.length_drop]
    omega
  rw [List.drop_append_of_le_length (by rw [List.length_dropLast]; omega), 
    ← List.dropLast_drop_eq_drop_dropLast, dropLast_append_eq_iff hne 0, getLastD_drop hwhole]

theorem getLastD_withModuleId (hwhole : 4 ≤ config.length) :
    (m.withModuleId config).getLastD 0 = config.getLastD 0 := by
  have hne : config.drop 2 ≠ [] := by
    rw [← List.length_pos_iff, List.length_drop]
    omega
  rw [← getLastD_drop hwhole, Module.withModuleId, List.getLastD_eq_getLast?,
    List.getLast?_append, List.getLast?_eq_some_getLast hne, List.getLastD_eq_getLast?,
    List.getLast?_eq_some_getLast hne]
  rfl

/-- **When a configuration makes the way there and back.** -/
theorem roundTrip_iff {reset : (ℕ → U8) → ℕ → U8} (hloads : m.LoadsConfiguration reset)
    (hother : m.moduleId = other.moduleId) (hlength : config.length = m.configurationLength.toNat)
    (hversion : config[2]? = some m.moduleVersion) (hwhole : 4 ≤ config.length)
    (hfits : sizeofConnPacketModule + config.length < 2 ^ 16)
    (behindSet behindGet behindConfig : ℕ → U8) :
    RoundTrip requester target modules others n l m other config requestHandle stackHandle
        behindSet behindGet behindConfig ↔
      u16At m.configuration 0 ≠ 0xFF ∧
        behindSet (sizeofConnPacketModule + config.length) = config.getLastD 0 ∧
        behindGet sizeofConnPacketModule = ModuleConfigMessages.getConfig ∧
        behindConfig (sizeofConnPacketModule + config.length) = config.getLastD 0 := by
  have hset := receive_setConfig requester target modules n requestHandle hlength hversion hwhole
    hfits behindSet
  set found := config.dropLast ++ [behindSet (sizeofConnPacketModule + config.length)] with hfound
  have hlengthFound : found.length = config.length :=
    length_dropLast_concat (List.length_pos_iff.mp (by omega))
  have hloaded := Module.configurationBytes_loadConfiguration hloads (hlengthFound.trans hlength)
    (by omega) config
  rw [hfound, drop_dropLast_eq_iff hwhole, ← hfound] at hloaded
  have hreturns : (m.loadConfiguration found).configurationBytes = m.withModuleId config →
      (Returns requester target (Function.update modules n (some (m.loadConfiguration found)))
        others n l (m.loadConfiguration found) other (m.withModuleId config) stackHandle behindGet
        behindConfig ↔ behindGet sizeofConnPacketModule = ModuleConfigMessages.getConfig ∧
          behindConfig (sizeofConnPacketModule + config.length) = config.getLastD 0) := by
    intro hbytes
    have hne : m.withModuleId config ≠ [] := by
      rw [← List.length_pos_iff, Module.withModuleId, List.length_append, length_u16Bytes]
      omega
    rw [returns_iff (m := m.loadConfiguration found) hother (hlength ▸ by omega) (hlength ▸ hfits),
      hbytes, eq_comm (a := m.withModuleId config), dropLast_append_eq_iff hne 0,
      getLastD_withModuleId hwhole, hlength]
    rfl
  calc RoundTrip requester target modules others n l m other config requestHandle stackHandle
        behindSet behindGet behindConfig
      ↔ (m.loadConfiguration found).configurationBytes = m.withModuleId config ∧
          Returns requester target (Function.update modules n (some (m.loadConfiguration found)))
            others n l (m.loadConfiguration found) other (m.withModuleId config) stackHandle
            behindGet behindConfig := by
        constructor
        · rintro ⟨m', heq, hbytes, hgets⟩
          obtain rfl : m.loadConfiguration found = m' := by
            have hslot := congrFun (hset.symm.trans heq) n
            rwa [Function.update_self, Function.update_self, Option.some_inj] at hslot
          exact ⟨hbytes, hgets⟩
        · rintro ⟨hbytes, hgets⟩
          exact ⟨_, hset, hbytes, hgets⟩
    _ ↔ _ := by rw [and_congr_right hreturns, hloaded, and_assoc]

/-! ### The module with an id -/

theorem exists_find (hslot : modules n = some m) : ∃ i, modules.find m.moduleId = some i := by
  rw [← Option.isSome_iff_exists, ActiveModules.find, List.find?_isSome]
  exact ⟨n, List.mem_finRange n, by rw [hslot]; simp⟩

theorem exists_module_of_find {i : Fin maxModuleCount} (hfind : modules.find m.moduleId = some i) :
    ∃ m', modules i = some m' := by
  have hany := List.find?_some hfind
  rw [Option.any_eq_true] at hany
  obtain ⟨m', hm', _⟩ := hany
  exact ⟨m', hm'⟩

theorem moduleActive_setModuleActive (m : Module) (active : U8) :
    (m.setModuleActive active).moduleActive = active :=
  (holds_cons.mp (holds_overwrite m.configuration 3 [active])).1

theorem setModuleActive_eq_iff {i : Fin maxModuleCount} {m' : Module} (hslot : modules i = some m')
    (active : U8) : modules.setModuleActive i active = modules ↔ m'.moduleActive = active := by
  rw [ActiveModules.setModuleActive, Function.update_eq_self_iff, hslot, Option.map_some,
    Option.some_inj]
  constructor
  · intro heq
    rw [← heq, moduleActive_setModuleActive]
  · intro heq
    have hsame : overwrite m'.configuration 3 [active] = m'.configuration := by
      funext k
      by_cases hk : k = 3
      · rw [hk]
        exact (moduleActive_setModuleActive m' active).trans heq.symm
      · rcases Nat.lt_or_gt_of_ne hk with hlt | hgt
        · exact overwrite_of_lt _ _ hlt
        · exact overwrite_of_ge _ (by rw [List.length_singleton]; omega)
    rw [Module.setModuleActive, hsame]

/-! ### Requests that are refused -/

/-- **When a wrong configuration changes nothing.**  Without data the action is not transmitted, and
the packet can be taken for a SET_ACTIVE. -/
theorem unchanged_iff (hslot : modules n = some m) (hwhole : 4 ≤ m.configurationLength.toNat)
    (hfits : sizeofConnPacketModule + config.length < 2 ^ 16)
    (hwrong : config.length = m.configurationLength.toNat → config[2]? ≠ some m.moduleVersion)
    (behind : ℕ → U8) :
    Unchanged requester target modules n m config requestHandle behind ↔
      (config = [] → behind sizeofConnPacketModule = ModuleConfigMessages.setActive →
        ∀ i ∈ modules.find m.moduleId, ∀ m' ∈ modules i, m'.moduleActive = behind moduleData) := by
  by_cases hne : config = []
  · subst hne
    have hshort := cutShort_sendSetConfig requester m.moduleId target.nodeId requestHandle hfits
    have harrived := hshort.arrivedFor (m := m) rfl rfl behind
    rw [Sending.found_of_nil rfl] at harrived
    rw [forall_prop_of_true rfl]
    by_cases hactive : behind sizeofConnPacketModule = ModuleConfigMessages.setActive
    · obtain ⟨i, hfind⟩ := exists_find hslot
      obtain ⟨m', hm'⟩ := exists_module_of_find hfind
      have hbyte : (arrive (Module.sendSetConfig requester m.moduleId target.nodeId []
          requestHandle).message behind).data moduleData = behind moduleData :=
        arrive_behind (by decide) (hshort.length_message.trans_le (Nat.le_succ 10))
      rw [Unchanged, receive, harrived.value_setActive hactive hfind, hbyte,
        setModuleActive_eq_iff hm', forall_prop_of_true hactive, hfind]
      simp [hm']
    · refine iff_of_true ?_ fun h => absurd h hactive
      by_cases hset : behind sizeofConnPacketModule = ModuleConfigMessages.setConfig
      · exact harrived.fst_setConfig_refused hset fun _ hlength => by
          have hzero : 0 = m.configurationLength.toNat := hlength
          omega
      · exact harrived.fst_other hset hactive
  · refine iff_of_true ?_ fun h => absurd h hne
    have hlengthFound := length_dropLast_concat
      (b := behind (sizeofConnPacketModule + config.length)) hne
    refine (arrivedFor_sendSetConfig requester target m requestHandle hne hfits
      behind).fst_setConfig_refused rfl fun hversion hlength => ?_
    have hlength' := hlengthFound.symm.trans hlength
    apply hwrong hlength'
    rw [version_arrive requester target m requestHandle (hlength' ▸ hwhole) hfits behind, hversion]

/-- **When SET_ACTIVE sets the state.** -/
theorem setsActive_iff (hslot : modules n = some m) (moduleState : U8) (behind : ℕ → U8) :
    SetsActive requester target modules n m moduleState requestHandle behind ↔
      behind (sizeofConnPacketModule + 1) = moduleState := by
  obtain ⟨i, hfind⟩ := exists_find hslot
  obtain ⟨m', hm'⟩ := exists_module_of_find hfind
  have harrived := (cutShort_sendSetActive requester m.moduleId target.nodeId requestHandle
    moduleState).arrivedFor (m := m) rfl rfl behind
  rw [Sending.found_of_ne (List.cons_ne_nil _ _)] at harrived
  have hbyte := (holds_cons.mp harrived.holds_data).1
  have hresult : (receive target modules n m (Module.sendSetActive requester m.moduleId
      target.nodeId moduleState requestHandle) behind).value.1 i =
      some (m'.setModuleActive (behind (sizeofConnPacketModule + 1))) := by
    rw [receive, harrived.value_setActive rfl hfind, hbyte, ActiveModules.setModuleActive,
      Function.update_self, hm']
    rfl
  constructor
  · rintro ⟨j, m'', hj, hset, hactive⟩
    obtain rfl : i = j := Option.some_inj.mp (hfind.symm.trans hj)
    rw [hresult, Option.some_inj] at hset
    rwa [← hset, moduleActive_setModuleActive] at hactive
  · rintro rfl
    exact ⟨i, _, hfind, hresult, moduleActive_setModuleActive _ _⟩

end

/-! ## All messages together -/

/-- **A message arrives exactly if the byte behind it is the one that was cut off.**

1. A configuration makes the way there and back,
2. a wrong configuration changes nothing,
3. SET_ACTIVE sets the state, and
4. a module action is delivered, each exactly if the memory behind the packets holds the bytes
   that were not transmitted (and, for 1, if the configuration has a valid id).
5. No packet fits into the buffer that it is built in, and
6. no packet is handled without reading behind it. -/
theorem remoteConfiguration_iff {requester target : Node} {modules others : ActiveModules}
    {n l : Fin maxModuleCount} {m other : Module} {reset : (ℕ → U8) → ℕ → U8}
    (hslot : modules n = some m) (hloads : m.LoadsConfiguration reset)
    (hother : m.moduleId = other.moduleId) (hwhole : 4 ≤ m.configurationLength.toNat) :
    (∀ (config : List U8) (requestHandle stackHandle : U8)
        (behindSet behindGet behindConfig : ℕ → U8),
      config.length = m.configurationLength.toNat → config[2]? = some m.moduleVersion →
      sizeofConnPacketModule + config.length < 2 ^ 16 →
      (RoundTrip requester target modules others n l m other config requestHandle stackHandle
          behindSet behindGet behindConfig ↔
        u16At m.configuration 0 ≠ 0xFF ∧
          behindSet (sizeofConnPacketModule + config.length) = config.getLastD 0 ∧
          behindGet sizeofConnPacketModule = ModuleConfigMessages.getConfig ∧
          behindConfig (sizeofConnPacketModule + config.length) = config.getLastD 0)) ∧
    (∀ (config : List U8) (requestHandle : U8) (behind : ℕ → U8),
      (config.length = m.configurationLength.toNat → config[2]? ≠ some m.moduleVersion) →
      sizeofConnPacketModule + config.length < 2 ^ 16 →
      (Unchanged requester target modules n m config requestHandle behind ↔
        (config = [] → behind sizeofConnPacketModule = ModuleConfigMessages.setActive →
          ∀ i ∈ modules.find m.moduleId, ∀ m' ∈ modules i,
            m'.moduleActive = behind moduleData))) ∧
    (∀ (moduleState requestHandle : U8) (behind : ℕ → U8),
      SetsActive requester target modules n m moduleState requestHandle behind ↔
        behind (sizeofConnPacketModule + 1) = moduleState) ∧
    (∀ (messageType : MessageType) (toNode : NodeId) (actionType requestHandle : U8)
        (additionalData : List U8) (behind : ℕ → U8),
      messageType ≠ messageTypeUpdateTimestamp →
      sizeofConnPacketModule + additionalData.length < 2 ^ 16 →
      ((Module.sendModuleActionMessage requester m.moduleId messageType toNode actionType
          requestHandle additionalData).Delivered behind ↔
        behind (sizeofConnPacketModule + additionalData.length) =
          additionalData.getLastD actionType)) ∧
    (∀ (packet : ConnPacketModule) (cell : ℕ → U8),
      ¬ (packet.fill ⟨cell, [], []⟩).AccessesWithin
        (sizeofConnPacketModule + packet.data.length)) ∧
    ∀ (sending : Sending) (behind : ℕ → U8), sending.CutShort →
      sending.packet.header.messageType = messageTypeModuleConfig →
      sending.packet.moduleId = m.moduleId →
      ¬ (receive target modules n m sending behind).InBounds sending.dataLength := by
  refine ⟨?_, ?_, ?_, ?_, ?_, ?_⟩
  · intro config requestHandle stackHandle behindSet behindGet behindConfig hlength hversion hfits
    exact roundTrip_iff hloads hother hlength hversion (hlength ▸ hwhole) hfits behindSet behindGet
      behindConfig
  · intro config requestHandle behind hwrong hfits
    exact unchanged_iff hslot hwhole hfits hwrong behind
  · intro moduleState requestHandle behind
    exact setsActive_iff hslot moduleState behind
  · intro messageType toNode actionType requestHandle additionalData behind htype hfits
    exact (cutShort_sendModuleActionMessage requester m.moduleId toNode requestHandle htype
      actionType hfits).delivered_iff
  · intro packet cell
    exact not_within_fill cell packet
  -- the byte that was cut is read at the receiver
  · intro sending behind hshort htype hmodule
    have harrived := hshort.arrivedFor htype hmodule behind
    have hnot := harrived.not_inBounds target modules n
    rwa [hshort.dataLength_arrive] at hnot

/-- A module with nothing but a `ModuleConfiguration`, active and with version 1. -/
def smallModule : Module where
  moduleId := 60
  configuration := fun k => [60, 0, 1, 1].getD k 0
  configurationLength := 4
  configurationLoadedHandler :=
    Module.baseConfigurationLoadedHandler fun configuration => overwrite configuration 0 (u16Bytes 60)
  isStatusReporter := false

theorem smallModule_loadsConfiguration :
    smallModule.LoadsConfiguration fun configuration => overwrite configuration 0 (u16Bytes 60) where
  handler := rfl
  moduleId_reset := fun configuration => u16At_overwrite configuration 0 60
  moduleId_ne := by decide

/-- The configuration that deactivates the module makes the way, if the memory of the two nodes
happens to hold what was cut off. -/
theorem remoteConfiguration_iff_smallModule :
    RoundTrip (startedNode 1 5) (startedNode 2 6) (fun _ => some smallModule)
      (fun _ => some smallModule) ⟨0, by decide⟩ ⟨0, by decide⟩ smallModule smallModule
      [0, 0, 1, 0] 9 9 (fun _ => 0) (fun _ => 4) (fun _ => 0) :=
  ((remoteConfiguration_iff rfl smallModule_loadsConfiguration rfl (by decide)).1 [0, 0, 1, 0] 9 9
    (fun _ => 0) (fun _ => 4) (fun _ => 0) rfl rfl (by decide)).mpr
      ⟨by decide, by decide, by decide, by decide⟩

/-- If it does not, the module becomes active with a state that nobody sent. -/
theorem configuration_cut_off :
    ¬ ∀ (requester target : Node) (modules others : ActiveModules) (n l : Fin maxModuleCount)
        (m other : Module) (reset : (ℕ → U8) → ℕ → U8) (config : List U8)
        (requestHandle stackHandle : U8) (behindSet behindGet behindConfig : ℕ → U8),
      modules n = some m → m.LoadsConfiguration reset → m.moduleId = other.moduleId →
      u16At m.configuration 0 = m.moduleId → config.length = m.configurationLength.toNat →
      config[2]? = some m.moduleVersion →
      RoundTrip requester target modules others n l m other config requestHandle stackHandle
        behindSet behindGet behindConfig := by
  intro h
  have hround := h (startedNode 1 5) (startedNode 2 6) (fun _ => some smallModule)
    (fun _ => some smallModule) ⟨0, by decide⟩ ⟨0, by decide⟩ smallModule smallModule _
    [0, 0, 1, 0] 9 9 (fun _ => 7) (fun _ => 4) (fun _ => 0) rfl smallModule_loadsConfiguration rfl
    (by decide) rfl rfl
  rw [roundTrip_iff smallModule_loadsConfiguration rfl rfl rfl (by decide) (by decide)] at hround
  exact absurd hround.2.1 (by decide)

end FruityMesh.Modules
