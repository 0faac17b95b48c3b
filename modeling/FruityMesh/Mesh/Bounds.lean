import FruityMesh.Mesh.Inbound
import FruityMesh.Mesh.Phone

/-!
# The packets that are parsed within their length

Most handlers cast a packet to a struct without looking at its length.  `FitsLength` lists, for
each kind of packet, how long it has to be for that; `parsed_within_length` says that these
packets, and no others, are read within their length and with the right number of elements.

Three of the conditions rule out packets that nodes send themselves.  A header takes one byte
more than `SIZEOF_CONN_PACKET_HEADER` says, so the last byte of a CLUSTER_INFO_UPDATE or of an
ADVINFO of the only accepted length lies behind the packet, and a MODULE_CONFIG packet for a
module of the node has one byte less of data than is worked out for it.
-/

namespace FruityMesh.Mesh.Inbound

open Cells LittleEndian Reads Transport Modules
open Node (sizeofConnPacketModule)

/-! ## Numbers of elements -/

/-- The elements are counted as if there was one byte more; it completes an element or not. -/
theorem div_eq_pred_div_iff {n width : ℕ} (hn : 0 < n) :
    n / width = (n - 1) / width ↔ ¬ width ∣ n := by
  obtain ⟨k, rfl⟩ : ∃ k, n = k + 1 := ⟨n - 1, by omega⟩
  rw [Nat.succ_div, Nat.add_sub_cancel]
  split_ifs with hdvd <;> simp [hdvd]

/-- A number of elements that is worked out from a packet with an action type. -/
theorem toNat_elements {dataLength : U16} (hlength : 11 ≤ dataLength.toNat) (width : ℕ) :
    (BitVec.ofInt 16 (((dataLength.toNat : ℤ) - sizeofConnPacketModule).tdiv width)).toNat =
      (dataLength.toNat - 10) / width := by
  have hsize : ((dataLength.toNat : ℤ) - sizeofConnPacketModule) =
      ((dataLength.toNat - 10 : ℕ) : ℤ) := by
    have : sizeofConnPacketModule = 10 := rfl
    omega
  have hlt : (dataLength.toNat - 10) / width < 2 ^ 16 := by
    have := Nat.div_le_self (dataLength.toNat - 10) width
    have := dataLength.isLt
    omega
  rw [hsize, ← Int.ofNat_tdiv, BitVec.ofInt_natCast, BitVec.toNat_ofNat, Nat.mod_eq_of_lt hlt]

/-- The loop over the elements stays in bounds if their number is right. -/
theorem elements_fit {length width : ℕ} (hlength : 11 ≤ length) (hwidth : 0 < width) :
    ((length - 10) / width = (length - moduleData) / width ∧
      ∀ i < (length - 10) / width, moduleData + i * width + width ≤ length) ↔
      ¬ width ∣ length - 10 := by
  have hpred : length - moduleData = length - 10 - 1 := by
    have : moduleData = 11 := rfl
    omega
  rw [hpred, div_eq_pred_div_iff (by omega), and_iff_left_iff_imp]
  intro hdvd i hi
  rw [(div_eq_pred_div_iff (by omega)).mpr hdvd, Nat.lt_iff_add_one_le,
    Nat.le_div_iff_mul_le hwidth] at hi
  have : moduleData = 11 := rfl
  have : (i + 1) * width = i * width + width := by ring
  omega

/-! ## The lengths that the handlers need -/

section Fits

variable (data : ℕ → U8) (length : ℕ)

/-- The responses for a `StatusReporterModule`: a struct, or elements of three bytes. -/
def ResponseFits (actionType : U8) : Prop :=
  (actionType = StatusModuleActionResponseMessages.allConnections → moduleData + 12 ≤ length) ∧
    (actionType = StatusModuleActionResponseMessages.deviceInfo → moduleData + 31 ≤ length) ∧
    (actionType = StatusModuleActionResponseMessages.status → moduleData + 8 ≤ length) ∧
    (actionType = StatusModuleActionResponseMessages.nearbyNodes →
      ¬ 3 ∣ length - sizeofConnPacketModule)

/-- A module needs the id to see whether it is meant.  What is meant for it is
counted wrong, whatever the length. -/
def ConfigFits (m : Module) : Prop :=
  messageTypeAt data = messageTypeModuleConfig → 9 ≤ length ∧ u16At data 7 ≠ m.moduleId

def ActionResponseFits (m : Module) : Prop :=
  messageTypeAt data = messageTypeModuleActionResponse → m.isStatusReporter = true →
    9 ≤ length ∧ (u16At data 7 = m.moduleId → 11 ≤ length ∧ ResponseFits length (data 10))

/-- The messages for the node itself. -/
def MessageFits : Prop :=
  (messageTypeAt data = messageTypeClusterInfoUpdate →
      length ≠ sizeofConnPacketClusterInfoUpdate) ∧
    (messageTypeAt data = messageTypeData2 → length = sizeofConnPacketData2 →
      8 + (data 7).toNat ≤ sizeofConnPacketData2) ∧
    (messageTypeAt data = messageTypeAdvInfo → length ≠ sizeofConnPacketAdvInfo)

/-- The list of modules: elements of four bytes. -/
def ModuleListFits : Prop :=
  messageTypeAt data = messageTypeModuleConfig →
    11 ≤ length ∧
      (data 10 = ModuleConfigMessages.moduleList → ¬ 4 ∣ length - sizeofConnPacketModule)

def CallbackFits (modules : ActiveModules) : Prop :=
  1 ≤ length ∧ MessageFits data length ∧ ModuleListFits data length ∧
    ∀ n, ∀ m ∈ modules n, ConfigFits data length m ∧ ActionResponseFits data length m

end Fits

/-! ## Modules -/

section Modules

variable {node : Node} {modules : ActiveModules} {n : Fin maxModuleCount} {m : Module}
  {data : ℕ → U8} {dataLength : U16} {length : ℕ}

/-- The length of the data field counts a byte that is not there.  Only without any byte of
data it does not, and then the type of the action is missing. -/
theorem inBounds_connectionPacketReceivedEventHandler
    (hlength : messageTypeAt data = messageTypeModuleConfig → length = dataLength.toNat) :
    (m.connectionPacketReceivedEventHandler node modules n data dataLength).InBounds length ↔
      1 ≤ length ∧ ConfigFits data length m := by
  simp only [Module.connectionPacketReceivedEventHandler, ConfigFits, inBounds_bind,
    inBounds_readMessageType, value_readMessageType]
  refine and_congr_right fun _ => ?_
  by_cases hconfig : messageTypeAt data = messageTypeModuleConfig
  · rw [if_pos hconfig, forall_prop_of_true hconfig, inBounds_bind, inBounds_readModuleId,
      value_readModuleId]
    refine and_congr_right fun _ => ?_
    by_cases hid : u16At data 7 = m.moduleId
    · rw [if_pos hid]
      refine iff_of_false ?_ (not_not_intro hid)
      intro hbounds
      simp only [Module.handleRequest, inBounds_bind, inBounds_noteCount,
        inBounds_readActionType, Nat.div_one] at hbounds
      have haction : 11 ≤ length := hbounds.2.1.1
      have hcount := hbounds.1
      have hsub : (dataLength - BitVec.ofNat 16 sizeofConnPacketModule).toNat = length - 10 := by
        have hten : (BitVec.ofNat 16 sizeofConnPacketModule).toNat = 10 := rfl
        rw [hlength hconfig] at haction ⊢
        rw [BitVec.toNat_sub_of_le (by rw [BitVec.le_def]; omega), hten]
      have : moduleData = 11 := rfl
      omega
    · rw [if_neg hid]
      exact iff_of_true (inBounds_pure _) hid
  · rw [if_neg hconfig]
    exact iff_of_true (inBounds_pure _) fun h => absurd h hconfig

theorem inBounds_printConnections :
    (StatusReporterModule.printConnections m data).InBounds length ↔
      moduleData + 12 ≤ length := by
  simp only [StatusReporterModule.printConnections, inBounds_bind, inBounds_readSender,
    inBounds_forEach, inBounds_readU16, inBounds_readBlock, inBounds_pure, List.mem_range,
    and_true]
  have : moduleData = 11 := rfl
  constructor
  · rintro ⟨-, -, h⟩
    omega
  · intro h
    refine ⟨by omega, fun i hi => by omega, by omega⟩

theorem inBounds_printDeviceInfo :
    (StatusReporterModule.printDeviceInfo m data).InBounds length ↔
      moduleData + 31 ≤ length := by
  simp only [StatusReporterModule.printDeviceInfo, inBounds_bind, inBounds_readSender,
    inBounds_readByte, inBounds_readU16, inBounds_readU32, inBounds_readBlock, inBounds_pure,
    and_true]
  constructor
  · rintro ⟨-, -, -, h, -⟩
    omega
  · intro h
    have hserial : (readText data (moduleData + 2) serialNumberLength).InBounds length := by
      have : serialNumberLength = 5 := rfl
      exact inBounds_readText data (by omega)
    have : moduleData = 11 := rfl
    refine ⟨?_, ?_, ?_, ?_, ?_, ?_, ?_, ?_, hserial, ?_⟩ <;> omega

theorem inBounds_printStatus :
    (StatusReporterModule.printStatus m data).InBounds length ↔ moduleData + 8 ≤ length := by
  simp only [StatusReporterModule.printStatus, inBounds_bind, inBounds_readSender,
    inBounds_readByte, inBounds_readU16, inBounds_pure, and_true]
  have : moduleData = 11 := rfl
  omega

theorem inBounds_printNearbyNodes (haction : 11 ≤ dataLength.toNat) :
    (StatusReporterModule.printNearbyNodes m data dataLength).InBounds dataLength.toNat ↔
      ¬ 3 ∣ dataLength.toNat - sizeofConnPacketModule := by
  have hcount := toNat_elements haction 3
  simp only [Nat.cast_ofNat] at hcount
  simp only [StatusReporterModule.printNearbyNodes, inBounds_bind, inBounds_readSender,
    inBounds_noteCount, inBounds_forEach, inBounds_readU16, inBounds_readByte, inBounds_pure,
    List.mem_range, and_true, hcount]
  rw [show sizeofConnPacketModule = 10 from rfl, ← elements_fit haction (by omega)]
  constructor
  · rintro ⟨-, hnumber, hall⟩
    refine ⟨hnumber, fun i hi => ?_⟩
    have := (hall i hi).2
    omega
  · rintro ⟨hnumber, hall⟩
    refine ⟨by omega, hnumber, fun i hi => ?_⟩
    have := hall i hi
    omega

theorem inBounds_printResponse (haction : 11 ≤ dataLength.toNat) :
    (StatusReporterModule.printResponse m data dataLength).InBounds dataLength.toNat ↔
      ResponseFits dataLength.toNat (data 10) := by
  rw [StatusReporterModule.printResponse, inBounds_bind, inBounds_readActionType,
    value_readActionType, and_iff_right haction]
  split_ifs with hconnections hinfo hstatus hnodes
  · simp +decide [inBounds_printConnections, hconnections, ResponseFits]
  · simp +decide [inBounds_printDeviceInfo, hinfo, ResponseFits]
  · simp +decide [inBounds_printStatus, hstatus, ResponseFits]
  · simp +decide [inBounds_printNearbyNodes haction, hnodes, ResponseFits]
  · simp [hconnections, hinfo, hstatus, hnodes, ResponseFits]

theorem inBounds_parseModuleResponses
    (hlength : messageTypeAt data = messageTypeModuleActionResponse →
      length = dataLength.toNat) (hreporter : m.isStatusReporter = true) :
    (StatusReporterModule.parseModuleResponses m data dataLength).InBounds length ↔
      1 ≤ length ∧ ActionResponseFits data length m := by
  simp only [StatusReporterModule.parseModuleResponses, ActionResponseFits, inBounds_bind,
    inBounds_readMessageType, value_readMessageType]
  refine and_congr_right fun _ => ?_
  by_cases hresponse : messageTypeAt data = messageTypeModuleActionResponse
  · rw [if_pos hresponse, forall_prop_of_true hresponse, forall_prop_of_true hreporter,
      inBounds_bind, inBounds_readModuleId, value_readModuleId, hlength hresponse]
    refine and_congr_right fun _ => ?_
    by_cases hid : u16At data 7 = m.moduleId
    · rw [if_pos hid, forall_prop_of_true hid]
      constructor
      · intro hbounds
        have haction : 11 ≤ dataLength.toNat := by
          rw [StatusReporterModule.printResponse, inBounds_bind] at hbounds
          exact (inBounds_readActionType data).mp hbounds.1
        exact ⟨haction, (inBounds_printResponse haction).mp hbounds⟩
      · rintro ⟨haction, hfits⟩
        exact (inBounds_printResponse haction).mpr hfits
    · rw [if_neg hid]
      exact iff_of_true (inBounds_pure _) fun h => absurd h hid
  · rw [if_neg hresponse]
    exact iff_of_true (inBounds_pure _) fun h => absurd h hresponse

/-- What decides whether a packet is meant for a module. -/
def identity (m : Module) : U16 × Bool := (m.moduleId, m.isStatusReporter)

/-- The slots hold the same modules, perhaps with other configurations. -/
def SameModules (modules modules' : ActiveModules) : Prop :=
  ∀ n, (modules n).map identity = (modules' n).map identity

theorem SameModules.trans {first second third : ActiveModules} (h : SameModules first second)
    (h' : SameModules second third) : SameModules first third := fun n => (h n).trans (h' n)

theorem sameModules_update {slot : Option Module}
    (h : slot.map identity = (modules n).map identity) :
    SameModules (Function.update modules n slot) modules := by
  intro i
  rcases eq_or_ne i n with rfl | hne
  · rw [Function.update_self, h]
  · rw [Function.update_of_ne hne]

theorem sameModules_setModuleActive (active : U8) :
    SameModules (modules.setModuleActive n active) modules := by
  apply sameModules_update
  rw [Option.map_map]
  rfl

theorem sameModules_handleRequest (hm : modules n = some m) (dataFieldLength : U16) :
    SameModules (Module.handleRequest node modules n m data dataFieldLength).value.1 modules := by
  rw [Module.handleRequest, value_bind]
  split_ifs
  · rw [Module.handleSetConfig, value_bind]
    split_ifs
    · apply sameModules_update
      rw [hm]
      rfl
    · rw [value_bind]
      split_ifs <;> exact fun _ => rfl
  · exact fun _ => rfl
  · rw [Module.handleSetActive, value_bind]
    cases modules.find (readModuleId data).value with
    | none => exact fun _ => rfl
    | some i => exact sameModules_setModuleActive _
  · exact fun _ => rfl

theorem sameModules_connectionPacketReceivedEventHandler (hm : modules n = some m) :
    SameModules
      (m.connectionPacketReceivedEventHandler node modules n data dataLength).value.1 modules := by
  rw [Module.connectionPacketReceivedEventHandler, value_bind]
  split_ifs
  · rw [value_bind]
    split_ifs
    · exact sameModules_handleRequest hm _
    · exact fun _ => rfl
  · exact fun _ => rfl

variable {handled : ActiveModules × List Report}

theorem sameModules_handleByModule :
    SameModules (handleByModule node data dataLength handled n).value.1 handled.1 := by
  rw [handleByModule]
  split
  · exact fun _ => rfl
  · rename_i m hm
    have hsame : SameModules
        (m.connectionPacketReceivedEventHandler node handled.1 n data dataLength).value.1
        handled.1 := sameModules_connectionPacketReceivedEventHandler hm
    rw [value_bind]
    split_ifs <;> exact hsame

/-- Only a toggle that was a write of the phone has another length than it came with. -/
def OwnLength (data : ℕ → U8) (dataLength : U16) (length : ℕ) : Prop :=
  messageTypeAt data ≠ messageTypeLightToggle → length = dataLength.toNat

theorem OwnLength.of_type (h : OwnLength data dataLength length) {messageType : MessageType}
    (hother : messageType ≠ messageTypeLightToggle) (htype : messageTypeAt data = messageType) :
    length = dataLength.toNat :=
  h (by rwa [htype])

theorem inBounds_handleByModule (hlength : OwnLength data dataLength length)
    (hsame : SameModules handled.1 modules) :
    (handleByModule node data dataLength handled n).InBounds length ↔
      ∀ m ∈ modules n, 1 ≤ length ∧ ConfigFits data length m ∧ ActionResponseFits data length m := by
  have hslot := hsame n
  rw [handleByModule]
  split
  · rename_i hnone
    rw [hnone, Option.map_none, eq_comm, Option.map_eq_none_iff] at hslot
    rw [hslot]
    exact iff_of_true (inBounds_pure _) fun _ hm => absurd hm (Option.not_mem_none _)
  · rename_i m hm
    rw [hm, Option.map_some, eq_comm, Option.map_eq_some_iff] at hslot
    obtain ⟨m', hm', hidentity⟩ := hslot
    obtain ⟨hid, hreporter⟩ := Prod.mk.inj hidentity
    have hconfig : ConfigFits data length m' ↔ ConfigFits data length m := by
      rw [ConfigFits, ConfigFits, hid]
    have hresponse : ActionResponseFits data length m' ↔ ActionResponseFits data length m := by
      rw [ActionResponseFits, ActionResponseFits, hid, hreporter]
    simp only [hm', Option.mem_some_iff, forall_eq', hconfig, hresponse]
    rw [inBounds_bind,
      inBounds_connectionPacketReceivedEventHandler (hlength.of_type (by decide))]
    split_ifs with hparses
    · rw [inBounds_bind,
        inBounds_parseModuleResponses (hlength.of_type (by decide)) hparses]
      simp only [inBounds_pure, and_true]
      tauto
    · have hnone : ActionResponseFits data length m := fun _ h => absurd h hparses
      simp only [inBounds_bind, inBounds_pure, hnone, and_true]

theorem inBounds_handleByModules (hlength : OwnLength data dataLength length) :
    (fold (handleByModule node data dataLength) (List.finRange maxModuleCount)
        (modules, [])).InBounds length ↔
      ∀ n, ∀ m ∈ modules n,
        1 ≤ length ∧ ConfigFits data length m ∧ ActionResponseFits data length m := by
  rw [inBounds_fold (f := handleByModule node data dataLength)
    (I := fun handled => SameModules handled.1 modules)
    (fun handled n hsame => (sameModules_handleByModule (n := n)).trans hsame)
    (fun handled n hsame => inBounds_handleByModule hlength hsame) (fun _ => rfl)]
  simp only [List.mem_finRange, forall_true_left]

end Modules

/-! ## The node -/

section Callback

variable {node : Node} {connection : Slot} {data : ℕ → U8} {dataLength : U16} {length : ℕ}

theorem inBounds_updateClusterInfo :
    (updateClusterInfo node connection data).InBounds length ↔ 19 ≤ length := by
  simp only [updateClusterInfo, inBounds_bind, inBounds_readU16, inBounds_readU32]
  split_ifs
  · simp only [inBounds_bind, inBounds_readU32, inBounds_pure, and_true]
    omega
  · simp only [inBounds_bind, inBounds_pure, and_true]
    omega

theorem inBounds_updateScanResponsePacket :
    (updateScanResponsePacket data).InBounds length ↔
      8 ≤ length ∧ ((data 7).toNat = 0 ∨ 8 + (data 7).toNat ≤ length) := by
  simp only [updateScanResponsePacket, inBounds_bind, inBounds_readByte, value_readByte,
    inBounds_readBlock, inBounds_pure, and_true, Nat.succ_le_iff]

theorem inBounds_printAdvInfo : (printAdvInfo data).InBounds length ↔ 16 ≤ length := by
  simp only [printAdvInfo, inBounds_bind, inBounds_readSender, inBounds_readBlock,
    inBounds_readByte, inBounds_readU16, inBounds_pure, and_true]
  omega

/-- Of the three messages, each is accepted with one length only. -/
theorem inBounds_handleMessage (hlength : OwnLength data dataLength length) :
    (handleMessage node connection data dataLength).InBounds length ↔
      1 ≤ length ∧ MessageFits data length := by
  rw [handleMessage, inBounds_bind, inBounds_readMessageType, value_readMessageType]
  refine and_congr_right fun _ => ?_
  -- the handler accepts the packed length, and the struct that it reads is one byte longer
  by_cases hupdate : messageTypeAt data = messageTypeClusterInfoUpdate
  · rw [if_pos hupdate, hlength.of_type (by decide) hupdate]
    have hfits : MessageFits data dataLength.toNat ↔
        dataLength.toNat ≠ sizeofConnPacketClusterInfoUpdate := by
      simp +decide [MessageFits, hupdate]
    rw [hfits]
    split_ifs with hsize
    · have : sizeofConnPacketClusterInfoUpdate = 18 := rfl
      simp only [inBounds_bind, inBounds_updateClusterInfo, inBounds_pure]
      omega
    · exact iff_of_true (inBounds_pure _) hsize
  rw [if_neg hupdate]
  by_cases hdata2 : messageTypeAt data = messageTypeData2
  · rw [if_pos hdata2, hlength.of_type (by decide) hdata2]
    have hfits : MessageFits data dataLength.toNat ↔
        (dataLength.toNat = sizeofConnPacketData2 →
          8 + (data 7).toNat ≤ sizeofConnPacketData2) := by
      simp +decide [MessageFits, hdata2]
    rw [hfits]
    split_ifs with hsize
    · have : sizeofConnPacketData2 = 20 := rfl
      simp only [inBounds_bind, inBounds_updateScanResponsePacket, inBounds_pure, and_true]
      omega
    · exact iff_of_true (inBounds_pure _) fun h => absurd h hsize
  rw [if_neg hdata2]
  by_cases hadv : messageTypeAt data = messageTypeAdvInfo
  · rw [if_pos hadv, hlength.of_type (by decide) hadv]
    have hfits : MessageFits data dataLength.toNat ↔
        dataLength.toNat ≠ sizeofConnPacketAdvInfo := by
      simp +decide [MessageFits, hadv]
    rw [hfits]
    split_ifs with hsize
    · have : sizeofConnPacketAdvInfo = 15 := rfl
      simp only [inBounds_bind, inBounds_printAdvInfo, inBounds_pure]
      omega
    · exact iff_of_true (inBounds_pure _) hsize
  · rw [if_neg hadv]
    exact iff_of_true (inBounds_pure _)
      ⟨fun h => absurd h hupdate, fun h => absurd h hdata2, fun h => absurd h hadv⟩

theorem inBounds_printModuleList (haction : 11 ≤ dataLength.toNat) :
    (printModuleList data dataLength).InBounds dataLength.toNat ↔
      ¬ 4 ∣ dataLength.toNat - sizeofConnPacketModule := by
  have hcount := toNat_elements haction 4
  simp only [Nat.cast_ofNat] at hcount
  simp only [printModuleList, inBounds_bind, inBounds_readSender, inBounds_noteCount,
    inBounds_forEach, inBounds_readU16, inBounds_readByte, inBounds_pure, List.mem_range,
    and_true, hcount]
  rw [show sizeofConnPacketModule = 10 from rfl, ← elements_fit haction (by omega)]
  constructor
  · rintro ⟨-, hnumber, hall⟩
    refine ⟨hnumber, fun i hi => ?_⟩
    have := (hall i hi).2.2
    omega
  · rintro ⟨hnumber, hall⟩
    refine ⟨by omega, hnumber, fun i hi => ?_⟩
    have := hall i hi
    omega

theorem inBounds_handleModuleList (hlength : OwnLength data dataLength length) :
    (handleModuleList data dataLength).InBounds length ↔
      1 ≤ length ∧ ModuleListFits data length := by
  rw [handleModuleList, inBounds_bind, inBounds_readMessageType, value_readMessageType]
  refine and_congr_right fun _ => ?_
  by_cases hconfig : messageTypeAt data = messageTypeModuleConfig
  · rw [if_pos hconfig, ModuleListFits, forall_prop_of_true hconfig,
      hlength.of_type (by decide) hconfig, inBounds_bind, inBounds_readActionType,
      value_readActionType]
    refine and_congr_right fun haction => ?_
    split_ifs with hget hlist
    · -- A request has no list, and the sender stands before the type of the action.
      have hother : data 10 ≠ ModuleConfigMessages.moduleList := by
        rw [hget]
        decide
      simp only [inBounds_bind, inBounds_readSender, inBounds_pure, and_true, hother,
        false_imp_iff, iff_true]
      omega
    · rw [inBounds_printModuleList haction, forall_prop_of_true hlist]
    · exact iff_of_true (inBounds_pure _) fun h => absurd h hlist
  · rw [if_neg hconfig]
    exact iff_of_true (inBounds_pure _) fun h => absurd h hconfig

theorem inBounds_messageReceivedCallback {device : Device}
    (hlength : OwnLength data dataLength length) :
    (messageReceivedCallback device connection data dataLength).InBounds length ↔
      CallbackFits data length device.activeModules := by
  simp only [messageReceivedCallback, inBounds_bind, inBounds_handleMessage hlength,
    inBounds_handleModuleList hlength, inBounds_handleByModules hlength, inBounds_pure,
    CallbackFits, and_true]
  constructor
  · rintro ⟨⟨hpos, hmessage⟩, ⟨-, hlist⟩, hmodules⟩
    exact ⟨hpos, hmessage, hlist, fun n m hm => (hmodules n m hm).2⟩
  · rintro ⟨hpos, hmessage, hlist, hmodules⟩
    exact ⟨⟨hpos, hmessage⟩, ⟨hpos, hlist⟩, fun n m hm => ⟨hpos, hmodules n m hm⟩⟩

end Callback

/-! ## Routing -/

/-- Another connection than the one that the packet came on gets what is relayed. -/
def HasOther (node : Node) (connection : Slot) : Prop :=
  ∃ i ≠ connection, (node.connections i).handshakeDone = true

/-- The packet goes on to the other connections. -/
def IsRelayed (node : Node) (receiver : NodeId) : Prop :=
  node.lastReceiver receiver = false ∧ receiver ≠ nodeIdShortestSink

section Routing

variable {node : Node} {connection : Slot} {data : ℕ → U8} {dataLength : U16} {reliable : Bool}
  {length : ℕ}

theorem inBounds_sendMessageOverConnections :
    (sendMessageOverConnections node connection data dataLength reliable).InBounds length ↔
      (HasOther node connection → dataLength.toNat ≤ length) := by
  have hqueue (i : Slot) : (queuePacket data dataLength reliable i).InBounds length ↔
      dataLength.toNat ≤ length := by
    simp only [queuePacket, inBounds_bind, inBounds_readBlock, inBounds_pure, and_true]
    omega
  have hother : (∃ i, i ∈ otherConnections node connection) ↔ HasOther node connection := by
    simp [otherConnections, HasOther]
  rw [sendMessageOverConnections, inBounds_forEach, ← hother, exists_imp]
  simp only [hqueue]

/-- Only the hops to a sink stand further back than the sender. -/
theorem inBounds_relayed :
    (relayed data).InBounds length ↔
      3 ≤ length ∧ (messageTypeAt data = messageTypeClusterInfoUpdate → 19 ≤ length) := by
  have hincrement : (incrementHopsToSink data).InBounds length ↔
      1 ≤ length ∧ (messageTypeAt data = messageTypeClusterInfoUpdate → 19 ≤ length) := by
    rw [incrementHopsToSink, inBounds_bind, inBounds_readMessageType, value_readMessageType]
    refine and_congr_right fun _ => ?_
    split_ifs with hupdate
    · rw [forall_prop_of_true hupdate, inBounds_bind, inBounds_readU16]
      split_ifs <;> simp
    · exact iff_of_true (inBounds_pure _) fun h => absurd h hupdate
  have hrest : (relayed data).InBounds length ↔
      (incrementHopsToSink data).InBounds length ∧ 3 ≤ length := by
    rw [relayed, inBounds_bind, inBounds_bind, inBounds_readSender]
    split_ifs <;> simp only [inBounds_pure, and_true]
  rw [hrest, hincrement]
  constructor
  · rintro ⟨⟨-, hupdate⟩, hsender⟩
    exact ⟨hsender, hupdate⟩
  · rintro ⟨hsender, hupdate⟩
    exact ⟨⟨by omega, hupdate⟩, hsender⟩

/-- What is passed on is `dataLength` bytes long. -/
theorem inBounds_route :
    (route node connection data dataLength reliable).InBounds length ↔
      5 ≤ length ∧
        (receiverAt data = nodeIdShortestSink → node.lastReceiver (receiverAt data) = false →
          node.getConnectionToShortestSink none ≠ none → dataLength.toNat ≤ length) ∧
        (IsRelayed node (receiverAt data) →
          (messageTypeAt data = messageTypeClusterInfoUpdate → 19 ≤ length) ∧
            (HasOther node connection → dataLength.toNat ≤ length)) := by
  rw [route, inBounds_bind, inBounds_readReceiver, value_readReceiver]
  refine and_congr_right fun hlength => ?_
  split_ifs with hlast hsink
  · simp [IsRelayed, hlast]
  · have hnot : ¬ IsRelayed node (receiverAt data) := fun h => h.2 hsink
    simp only [hnot, false_imp_iff, and_true, forall_prop_of_true hsink,
      forall_prop_of_true (Bool.eq_false_of_not_eq_true hlast)]
    cases hsome : node.getConnectionToShortestSink none with
    | none => simp
    | some i =>
      simp only [queuePacket, inBounds_bind, inBounds_readBlock, inBounds_pure, and_true, ne_eq,
        reduceCtorEq, not_false_eq_true, forall_true_left]
      omega
  · have hrelayed : IsRelayed node (receiverAt data) :=
      ⟨Bool.eq_false_of_not_eq_true hlast, hsink⟩
    simp only [inBounds_bind, inBounds_relayed, inBounds_sendMessageOverConnections,
      inBounds_pure, and_true, hsink, false_imp_iff, true_and, forall_prop_of_true hrelayed]
    exact and_congr_left fun _ => and_iff_right (by omega)

/-- Behind the sender, a packet is passed on as it came. -/
theorem route_data {k : ℕ} (hlow : 3 ≤ k) (hhigh : k < 17) :
    (node.route connection data dataLength reliable).1 k = data k := by
  unfold Node.route
  split_ifs
  · rfl
  · rfl
  · exact relayed_data (by omega) (by omega)

theorem callbackFits_route {modules : ActiveModules} :
    CallbackFits (node.route connection data dataLength reliable).1 length modules ↔
      CallbackFits data length modules := by
  have htype := (node.route_header connection data dataLength reliable).1
  have hid : u16At (node.route connection data dataLength reliable).1 7 = u16At data 7 :=
    u16At_congr (route_data (by omega) (by omega)) (route_data (by omega) (by omega))
  simp only [CallbackFits, MessageFits, ModuleListFits, ConfigFits, ActionResponseFits, htype,
    hid, route_data (show 3 ≤ 7 by omega) (show 7 < 17 by omega),
    route_data (show 3 ≤ 10 by omega) (show 10 < 17 by omega)]

end Routing

/-! ## `Connection::ReceivePacketHandler` -/

/-- The packets that are not handled in the connection, for a node that cares for them. -/
def ProcessFits (device : Device) (data : ℕ → U8) (length : ℕ) : Prop :=
  isHandshake (messageTypeAt data) = false → device.node.caresFor (receiverAt data) = true →
    CallbackFits data length device.activeModules

/-- A write of the phone has no length of its own: it is passed on with the length of the packet
that it is turned into. -/
def WriteFits (node : Node) (connection : Slot) (data : ℕ → U8) (length : ℕ) : Prop :=
  if node.phoneConnected then
    4 ≤ length ∧
      (Node.targetNodeId data ≠ node.nodeId → HasOther node connection →
        sizeofConnPacketModule + 2 ≤ length)
  else
    5 ≤ length ∧
      (node.inFeignHandshakeMode = false → node.nodeId ≠ nodeIdBroadcast →
        HasOther node connection → sizeofConnPacketClusterWelcome ≤ length)

/-- The packets that are long enough for what is read of them, and whose elements are counted
right. -/
def FitsLength (device : Device) (connection : Slot) (packet : ConnectionPacket) : Prop :=
  if messageTypeAt packet.data = messageTypeUartWrite then
    WriteFits device.node connection packet.data packet.dataLength.toNat
  else
    5 ≤ packet.dataLength.toNat ∧
      (IsRelayed device.node (receiverAt packet.data) →
        messageTypeAt packet.data = messageTypeClusterInfoUpdate →
          19 ≤ packet.dataLength.toNat) ∧
      ProcessFits device packet.data packet.dataLength.toNat

section Receive

variable {device : Device} {connection : Slot} {data : ℕ → U8} {packet : ConnectionPacket}
  {dataLength : U16} {length : ℕ}

theorem inBounds_process (hlength : length = packet.dataLength.toNat) :
    (process device connection data dataLength packet).InBounds length ↔
      1 ≤ length ∧
        (isHandshake (messageTypeAt data) = false → 5 ≤ length) ∧
        ProcessFits device data length := by
  rw [process, inBounds_bind, inBounds_readMessageType, value_readMessageType, ProcessFits]
  refine and_congr_right fun _ => ?_
  split_ifs with hhandshake
  · simp only [inBounds_pure, hhandshake, reduceCtorEq, false_imp_iff, and_true]
  · have hother := Bool.eq_false_of_not_eq_true hhandshake
    rw [inBounds_bind, inBounds_readReceiver, value_readReceiver, forall_prop_of_true hother,
      forall_prop_of_true hother]
    refine and_congr_right fun _ => ?_
    split_ifs with hcares
    · rw [inBounds_bind, inBounds_messageReceivedCallback fun _ => hlength,
        forall_prop_of_true hcares]
      simp only [inBounds_pure, and_true]
    · exact iff_of_true (inBounds_pure _) fun h => absurd h hcares

theorem inBounds_routeAndProcess (hlength : length = packet.dataLength.toNat) :
    (routeAndProcess device connection data dataLength packet).InBounds length ↔
      (route device.node connection data dataLength packet.reliable).InBounds length ∧
        ProcessFits device data length := by
  have htype := (device.node.route_header connection data dataLength packet.reliable).1
  have hreceiver := (device.node.route_header connection data dataLength packet.reliable).2
  have hfits : ProcessFits device
      (device.node.route connection data dataLength packet.reliable).1 length ↔
        ProcessFits device data length := by
    rw [ProcessFits, ProcessFits, htype, hreceiver, callbackFits_route]
  simp only [routeAndProcess, inBounds_bind, inBounds_process hlength, value_route, hfits,
    inBounds_pure, and_true]
  refine and_congr_right fun hroute => ?_
  -- The routing has read the receiver, and with it the type.
  have hfive := (inBounds_route.mp hroute).1
  exact ⟨fun h => h.2.2, fun h => ⟨by omega, fun _ => hfive, h⟩⟩

theorem processFits_handshake (h : isHandshake (messageTypeAt data) = true) :
    ProcessFits device data length := by
  intro hother
  rw [h] at hother
  cases hother

/-- The modules only look at the type of a toggle. -/
theorem callbackFits_toggle {modules : ActiveModules}
    (h : messageTypeAt data = messageTypeLightToggle) :
    CallbackFits data length modules ↔ 1 ≤ length := by
  have hupdate : messageTypeAt data ≠ messageTypeClusterInfoUpdate := by rw [h]; decide
  have hdata2 : messageTypeAt data ≠ messageTypeData2 := by rw [h]; decide
  have hadv : messageTypeAt data ≠ messageTypeAdvInfo := by rw [h]; decide
  have hconfig : messageTypeAt data ≠ messageTypeModuleConfig := by rw [h]; decide
  have hresponse : messageTypeAt data ≠ messageTypeModuleActionResponse := by rw [h]; decide
  simp [CallbackFits, MessageFits, ModuleListFits, ConfigFits, ActionResponseFits, hupdate,
    hdata2, hadv, hconfig, hresponse]

theorem inBounds_readTargetNodeId : (readTargetNodeId data).InBounds length ↔ 3 ≤ length := by
  simp only [readTargetNodeId, inBounds_bind, inBounds_readByte, inBounds_pure, and_true]
  omega

theorem inBounds_receiveToggle {reliable : Bool} :
    (receiveToggle device connection data reliable).InBounds length ↔
      4 ≤ length ∧
        (Node.targetNodeId data ≠ device.node.nodeId → HasOther device.node connection →
          sizeofConnPacketModule + 2 ≤ length) := by
  have htoggle := messageTypeAt_toggleLight data
  have hsize : (BitVec.ofNat 16 (sizeofConnPacketModule + 2)).toNat =
      sizeofConnPacketModule + 2 := by decide
  simp only [receiveToggle, inBounds_bind, inBounds_readTargetNodeId, inBounds_readByte,
    value_readTargetNodeId, value_readByte]
  split_ifs with htarget
  · have hown : OwnLength (Node.toggleLight data)
        (BitVec.ofNat 16 (sizeofConnPacketModule + 2)) length := fun h => absurd htoggle h
    have hreceived : (messageReceivedCallback device connection (Node.toggleLight data)
        (BitVec.ofNat 16 (sizeofConnPacketModule + 2))).InBounds length ↔ 1 ≤ length :=
      (inBounds_messageReceivedCallback hown).trans (callbackFits_toggle htoggle)
    constructor
    · rintro ⟨-, hvalue, -⟩
      exact ⟨hvalue, fun hother => absurd htarget hother⟩
    · rintro ⟨hvalue, -⟩
      exact ⟨by omega, hvalue,
        (inBounds_bind _ _).mpr ⟨hreceived.mpr (by omega), inBounds_pure _⟩⟩
  · rw [inBounds_bind, inBounds_sendMessageOverConnections, hsize,
      forall_prop_of_true (Ne.intro htarget)]
    simp only [inBounds_pure, and_true, Nat.lt_iff_add_one_le]
    constructor
    · rintro ⟨-, hvalue, hrelay⟩
      exact ⟨hvalue, hrelay⟩
    · rintro ⟨hvalue, hrelay⟩
      exact ⟨by omega, hvalue, hrelay⟩

/-- The first write is relayed with the length of a WELCOME. -/
theorem inBounds_feignedWelcome (node : Node) (hnode : device.node = node.feigning true)
    (hlength : length = packet.dataLength.toNat) :
    (routeAndProcess device connection
        (feigned data nodeIdBroadcast messageTypeClusterWelcome)
        (BitVec.ofNat 16 sizeofConnPacketClusterWelcome) packet).InBounds length ↔
      5 ≤ length ∧
        (node.nodeId ≠ nodeIdBroadcast → HasOther node connection →
          sizeofConnPacketClusterWelcome ≤ length) := by
  have htype := messageTypeAt_feigned data nodeIdBroadcast messageTypeClusterWelcome
  have hprocess : ProcessFits device (feigned data nodeIdBroadcast messageTypeClusterWelcome)
      length := by
    apply processFits_handshake
    rw [htype]
    decide
  have hsize : (BitVec.ofNat 16 sizeofConnPacketClusterWelcome).toNat =
      sizeofConnPacketClusterWelcome := by decide
  have hsink : nodeIdBroadcast ≠ nodeIdShortestSink := by decide
  have hupdate : messageTypeClusterWelcome ≠ messageTypeClusterInfoUpdate := by decide
  have hrelayed : IsRelayed device.node nodeIdBroadcast ↔ node.nodeId ≠ nodeIdBroadcast := by
    have hid : device.node.nodeId = node.nodeId := by rw [hnode]; rfl
    rw [← hid]
    constructor
    · rintro ⟨hlast, -⟩ heq
      rw [← heq, Node.lastReceiver_self] at hlast
      cases hlast
    · exact fun hne => ⟨device.node.lastReceiver_broadcast hne, hsink⟩
  have hother : HasOther device.node connection ↔ HasOther node connection := by
    rw [hnode]
    rfl
  rw [inBounds_routeAndProcess hlength, and_iff_left hprocess, inBounds_route, htype,
    receiverAt_feigned, hsize, hrelayed, hother]
  simp only [hsink, hupdate, false_imp_iff, true_and]

/-- The second write is not relayed. -/
theorem inBounds_feignedAck1 (hlength : length = packet.dataLength.toNat) :
    (routeAndProcess device connection
        (feigned data device.node.nodeId messageTypeClusterAck1)
        (BitVec.ofNat 16 sizeofConnPacketClusterAck1) packet).InBounds length ↔ 5 ≤ length := by
  have htype := messageTypeAt_feigned data device.node.nodeId messageTypeClusterAck1
  have hprocess : ProcessFits device (feigned data device.node.nodeId messageTypeClusterAck1)
      length := by
    apply processFits_handshake
    rw [htype]
    decide
  have hlast := device.node.lastReceiver_self
  rw [inBounds_routeAndProcess hlength, and_iff_left hprocess, inBounds_route,
    receiverAt_feigned]
  simp only [IsRelayed, hlast, reduceCtorEq, false_and, false_imp_iff, implies_true, and_true]

/-- A packet is read within its length, and its elements are counted right, exactly if it is
as long as the handlers for it take for granted. -/
theorem parsed_within_length (device : Device) (connection : Slot) (packet : ConnectionPacket) :
    (receivePacketHandler device connection packet).InBounds packet.dataLength.toNat ↔
      FitsLength device connection packet := by
  rw [receivePacketHandler, inBounds_bind, inBounds_readMessageType, value_readMessageType,
    FitsLength]
  split_ifs with huart hphone hfeign
  · rw [inBounds_receiveToggle, WriteFits, if_pos hphone]
    exact and_iff_right_of_imp fun h => by omega
  · rw [WriteFits, if_neg hphone, forall_prop_of_true hfeign]
    refine Iff.trans (and_congr_right fun _ => inBounds_feignedWelcome device.node rfl rfl) ?_
    exact and_iff_right_of_imp fun h => by omega
  · rw [WriteFits, if_neg hphone]
    refine Iff.trans (and_congr_right fun _ => inBounds_feignedAck1 rfl) ?_
    rw [and_iff_left fun h => absurd h hfeign]
    omega
  · rw [inBounds_routeAndProcess rfl, inBounds_route]
    simp only [le_refl, implies_true, and_true, true_and]
    constructor
    · rintro ⟨-, ⟨hfive, hrelayed⟩, hfits⟩
      exact ⟨hfive, hrelayed, hfits⟩
    · rintro ⟨hfive, hrelayed, hfits⟩
      exact ⟨by omega, ⟨hfive, hrelayed⟩, hfits⟩

/-- What a node tells the others when a third one has joined is read one byte too far. -/
theorem update_read_too_far :
    ¬ (receivePacketHandler ⟨Node.startedNode 2 1, fun _ => none⟩ inConnection
      ⟨(MeshPacket.clusterInfoUpdate {
          header := (Node.startedNode 1 1).packetHeader messageTypeClusterInfoUpdate nodeIdBroadcast
          currentClusterId := 1
          newClusterId := 0
          clusterSizeChange := 1
          hopsToSink := -1 }).memoryOf fun _ => 0, 18, true⟩).InBounds 18 := by
  decide +kernel

end Receive

end FruityMesh.Mesh.Inbound
