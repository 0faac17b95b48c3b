import FruityMesh.Modules.Stations
import FruityMesh.Modules.VotingModule

/-!
# Counting advertisements

`ScanningModule` counts the advertisements of one kind of device that a node receives and adds
up their signal strengths.  From time to time it broadcasts both numbers and starts again from
zero; whoever receives the report prints them.

The report is one byte too short (`Modules.Sending`): the last byte of the signal strengths is
not transmitted.  The count is.  So what the reports say that have come through, what those say
that are on their way, and what the module has counted since the last one, is what has been
received altogether (`counted_somewhere`): each advertisement is counted by one report, and no
report is lost or comes twice.
-/

namespace FruityMesh.Modules

open Cells LittleEndian Mesh Transport
open Node (sizeofConnPacketModule)

/-! ## The code of the module -/

inductive GroupingType
  | groupByAddress
  | noGrouping
  deriving DecidableEq, Repr

/-- What the handler looks at of a `scanFilterEntry`. -/
structure ScanFilterEntry where
  active : Bool
  grouping : GroupingType
  addrType : U8
  minRSSI : U8
  maxRSSI : U8
  advertisingType : U8
  deriving DecidableEq, Repr

structure ScanningModule where
  moduleId : U16
  moduleActive : Bool
  reportingIntervalMs : U16
  lastReportingTimerMs : U32
  /-- `SCAN_FILTER_NUMBER` is one. -/
  scanFilter : ScanFilterEntry
  totalMessages : U32
  totalRSSI : U32
  deriving DecidableEq, Repr

namespace ScanningModule

def totalScannedPackets : U8 := 0

/-- The event BLE_GAP_EVT_ADV_REPORT. -/
structure AdvReport where
  scanRsp : Bool
  type : U8
  data : ℕ → U8
  dlen : U8
  addrType : U8
  addr : List U8
  rssi : U8

/-- The advertisement is one of our network. -/
def AdvReport.isMeshPacket (report : AdvReport) (networkId : U16) : Bool :=
  sizeofAdvPacketHeader ≤ report.dlen.toNat ∧ u16At report.data 5 = companyIdentifier ∧
    report.data 7 = meshIdentifier ∧ u16At report.data 8 = networkId

/-- The advertisement is one of the devices that are counted. -/
def AdvReport.isCounted (report : AdvReport) : Bool :=
  report.data 3 = 0x06 ∧ report.data 4 = 0x09 ∧ report.data 5 = 0x44 ∧ report.data 6 = 0x55

/-- The advertisement passes the filter. -/
def passes (filter : ScanFilterEntry) (report : AdvReport) : Bool :=
  filter.active ∧ (filter.addrType = 0xFF ∨ filter.addrType = report.addrType) ∧
    (filter.advertisingType = 0xFF ∨ filter.advertisingType = report.type) ∧
    filter.minRSSI.toInt ≤ report.rssi.toInt ∧ report.rssi.toInt ≤ filter.maxRSSI.toInt

/-- `connPacketAdvInfo`: its last byte, the number of packets, is not sent. -/
def advInfo (node : Node) (stack : ConnPacketHeader) (report : AdvReport) : Message :=
  ⟨({ stack with
      messageType := messageTypeAdvInfo
      sender := node.nodeId
      receiver := nodeIdBroadcast : ConnPacketHeader }.bytes ++ report.addr.take 6 ++
        u16Bytes (-report.rssi.signExtend 16) ++ [1]).take (sizeofConnPacketHeader + 9), false⟩

/-- `SendReport`. -/
def sendReport (s : ScanningModule) (node : Node) (stack : ConnPacketModule) : List Message :=
  if 0 < s.totalMessages then
    let packet : ConnPacketModule :=
      { stack with
        header :=
          { stack.header with
            messageType := messageTypeModuleTriggerAction
            sender := node.nodeId
            receiver := nodeIdBroadcast }
        moduleId := s.moduleId
        actionType := totalScannedPackets
        data := u32Bytes s.totalMessages ++ u32Bytes s.totalRSSI }
    [⟨(packet.sent (sizeofConnPacketModule + 8)).bytes, false⟩]
  else []

/-- `TimerEventHandler`; it is called for active modules. -/
def timerEventHandler (s : ScanningModule) (node : Node) (appTimerMs : U32)
    (stack : ConnPacketModule) : ScanningModule × List Message :=
  if s.moduleActive ∧ s.reportingIntervalMs ≠ 0 ∧
      s.reportingIntervalMs.setWidth 32 < appTimerMs - s.lastReportingTimerMs then
    ({ s with totalMessages := 0, totalRSSI := 0, lastReportingTimerMs := appTimerMs },
      s.sendReport node stack)
  else (s, [])

/-- The report is looked at. -/
def considers (s : ScanningModule) (networkId : U16) (report : AdvReport) : Bool :=
  s.moduleActive ∧ report.isMeshPacket networkId = false ∧ report.scanRsp = false

/-- `BleEventHandler`.  The loop over the filters ends after the only one; packets that are
grouped are not sent. -/
def bleEventHandler (s : ScanningModule) (node : Node) (networkId : U16) (report : AdvReport)
    (stack : ConnPacketHeader) : ScanningModule × List Message :=
  if s.considers networkId report then
    (if report.isCounted then
        { s with
          totalMessages := s.totalMessages + 1
          totalRSSI := s.totalRSSI + report.rssi.signExtend 32 }
      else s,
      if passes s.scanFilter report ∧ s.scanFilter.grouping = .noGrouping then
        [advInfo node stack report]
      else [])
  else (s, [])

/-- What `ConnectionPacketReceivedEventHandler` prints: the sender, the number of messages and
the sum of their signal strengths. -/
def connectionPacketReceivedEventHandler (moduleId : U16) (data : ℕ → U8) :
    Option (NodeId × U32 × U32) :=
  if messageTypeAt data = messageTypeModuleTriggerAction ∧ u16At data 7 = moduleId ∧
      data 10 = totalScannedPackets then
    some (senderAt data, u32At data 11, u32At data 15)
  else none

/-! ## The module in the mesh -/

/-- What the module of a node gets, and what lies on the stack then. -/
inductive Event
  | timer (appTimerMs : U32) (stack : ConnPacketModule)
  | advReport (report : AdvReport) (stack : ConnPacketHeader)

def step (networkId : U16) (node : Node) (s : ScanningModule) (event : Event) :
    ScanningModule × List ConnectionPacket :=
  let result :=
    match event with
    | .timer appTimerMs stack => s.timerEventHandler node appTimerMs stack
    | .advReport report stack => s.bleEventHandler node networkId report stack
  (result.1, result.2.map Mesh.Message.packet)

/-- The part of the sum that is transmitted. -/
abbrev LowRssi := BitVec 24

/-- What of a report does not depend on the byte behind it. -/
def value (moduleId : U16) (bytes : List U8) : Option (U32 × LowRssi) :=
  (connectionPacketReceivedEventHandler moduleId (memory ⟨bytes, true⟩)).map fun printed =>
    (printed.2.1, printed.2.2.setWidth 24)

/-- The signal strengths that the event adds. -/
def countedBy (networkId : U16) (s : ScanningModule) : Event → List U8
  | .timer _ _ => []
  | .advReport report _ =>
      if s.considers networkId report ∧ report.isCounted then [report.rssi] else []

/-- The signal strengths of all advertisements that have been counted. -/
def counted (networkId : U16) (node : Node) : ScanningModule → List Event → List U8
  | _, [] => []
  | s, event :: events =>
      countedBy networkId s event ++ counted networkId node (step networkId node s event).1 events

section

variable {networkId : U16} {node : Node}

@[simp] theorem counted_nil (s : ScanningModule) : counted networkId node s [] = [] := rfl

theorem counted_concat (s : ScanningModule) (events : List Event) (event : Event) :
    counted networkId node s (events ++ [event]) =
      counted networkId node s events ++
        countedBy networkId (stateAfter (step networkId) node s events) event := by
  induction events generalizing s with
  | nil => simp [counted]
  | cons first rest ih =>
      rw [List.cons_append, counted, counted, ih, List.append_assoc]
      rfl

end

/-! ## A report -/

section Report

variable (s : ScanningModule) (node : Node) (stack : ConnPacketModule)

/-- The packet with the report, without the length. -/
def reportPacket : ConnPacketModule :=
  { stack with
    header :=
      { stack.header with
        messageType := messageTypeModuleTriggerAction
        sender := node.nodeId
        receiver := nodeIdBroadcast }
    moduleId := s.moduleId
    actionType := totalScannedPackets
    data := u32Bytes s.totalMessages ++ u32Bytes s.totalRSSI }

theorem sendReport_eq : s.sendReport node stack =
    if 0 < s.totalMessages then
      [⟨((s.reportPacket node stack).sent 18).bytes, false⟩] else [] := rfl

/-- The first bytes of the report can be read, wherever it lies. -/
theorem printed_report {data : ℕ → U8}
    (h : (s.reportPacket node stack).Received 18 data) :
    ((connectionPacketReceivedEventHandler s.moduleId data).map fun printed =>
      (printed.2.1, printed.2.2.setWidth 24)) =
      some (s.totalMessages, s.totalRSSI.setWidth 24) := by
  have hhandles : messageTypeAt data = messageTypeModuleTriggerAction ∧
      u16At data 7 = s.moduleId ∧ data 10 = totalScannedPackets :=
    ⟨h.messageType, h.moduleId, h.actionType⟩
  have hdata : Holds data 11 (u32Bytes s.totalMessages ++ encode 3 s.totalRSSI.toNat) := h.data
  obtain ⟨hmessages, hrssi⟩ := holds_append.mp hdata
  have hlow : fieldAt 3 data 15 = s.totalRSSI.setWidth 24 := by
    have hread : Cells.read data 15 3 = encode 3 s.totalRSSI.toNat := hrssi.read_eq
    apply BitVec.eq_of_toNat_eq
    rw [fieldAt, hread, decode_encode, BitVec.toNat_ofNat, BitVec.toNat_setWidth]
    exact Nat.mod_mod _ _
  rw [connectionPacketReceivedEventHandler, if_pos hhandles, Option.map_some, u32At_eq hmessages]
  congr 2
  exact setWidth_fieldAt_succ.trans hlow

theorem length_sent_report : ((s.reportPacket node stack).sent 18).bytes.length = 18 := rfl

end Report

/-- The bit for more parts makes no difference. -/
theorem value_unmarked (moduleId : U16) (message : Message) :
    value moduleId (unmarked message) =
      (connectionPacketReceivedEventHandler moduleId (memory message)).map fun printed =>
        (printed.2.1, printed.2.2.setWidth 24) := by
  have hcell : ∀ k, 0 < k → memory ⟨unmarked message, true⟩ k = memory message k :=
    fun k hk => memory_unmarked hk true
  have hid : u16At (memory ⟨unmarked message, true⟩) 7 = u16At (memory message) 7 :=
    u16At_congr (hcell _ (by omega)) (hcell _ (by omega))
  have hmessages : u32At (memory ⟨unmarked message, true⟩) 11 = u32At (memory message) 11 :=
    u32At_congr fun k _ => hcell _ (by omega)
  have hrssi : u32At (memory ⟨unmarked message, true⟩) 15 = u32At (memory message) 15 :=
    u32At_congr fun k _ => hcell _ (by omega)
  unfold value connectionPacketReceivedEventHandler
  rw [type_unmarked, hid, hcell 10 (by omega), hmessages, hrssi]
  split_ifs
  · rfl
  · rfl

/-! ## What the module sends -/

section Step

variable {networkId : U16} {node : Node} {s : ScanningModule}

/-- The header of an ADV_INFO. -/
theorem header_advInfo (stack : ConnPacketHeader) (report : AdvReport) :
    typeOf (advInfo node stack report) = messageTypeAdvInfo ∧
      senderOf (advInfo node stack report) = node.nodeId ∧
      receiverOf (advInfo node stack report) = nodeIdBroadcast ∧
      7 ≤ (advInfo node stack report).bytes.length ∧
      (advInfo node stack report).bytes.length ≤ 15 := by
  set header : ConnPacketHeader :=
    { stack with
      messageType := messageTypeAdvInfo
      sender := node.nodeId
      receiver := nodeIdBroadcast } with hheader
  set rest := report.addr.take 6 ++ u16Bytes (-report.rssi.signExtend 16) ++ [1] with hrest
  have hbytes : (advInfo node stack report).bytes = header.bytes ++ rest.take 8 := by
    have hall : (advInfo node stack report).bytes = (header.bytes ++ rest).take 15 := by
      rw [hrest, ← List.append_assoc, ← List.append_assoc]
      rfl
    rw [hall, List.take_append, header.length_bytes, List.take_of_length_le (by simp)]
  have hholds : Holds (memory (advInfo node stack report)) 0 header.bytes := by
    intro k hk
    have hlength : k < (header.bytes ++ rest.take 8).length := by
      rw [List.length_append]
      omega
    rw [Nat.zero_add, memory, hbytes, List.getD_eq_getElem _ _ hlength,
      List.getElem_append_left hk]
  have hread := ConnPacketHeader.ofMemory_eq hholds
  refine ⟨congrArg ConnPacketHeader.messageType hread, congrArg ConnPacketHeader.sender hread,
    congrArg ConnPacketHeader.receiver hread, ?_, ?_⟩
  · rw [hbytes, List.length_append, header.length_bytes]
    omega
  · rw [hbytes, List.length_append, header.length_bytes, List.length_take]
    omega

/-- The messages of the module are broadcasts that modules send. -/
theorem posted_step (s : ScanningModule) (event : Event) :
    ∀ packet ∈ (step networkId node s event).2,
      Posted node packet ∧ receiverIn (unmarked packet.message) = nodeIdBroadcast := by
  intro packet hpacket
  obtain ⟨message, hmessage, rfl⟩ := List.mem_map.mp hpacket
  -- every message has the header of a broadcast
  have hheader : Ordinary (typeOf message) ∧ typeOf message ≠ messageTypeClusterInfoUpdate ∧
      typeOf message ≠ messageTypeUpdateTimestamp ∧ senderOf message = node.nodeId ∧
      receiverOf message = nodeIdBroadcast ∧ 7 ≤ message.bytes.length ∧
      message.bytes.length ≤ 18 := by
    cases event with
    | timer appTimerMs stack =>
        have hmem : message ∈ s.sendReport node stack := by
          simp only [timerEventHandler] at hmessage
          split_ifs at hmessage
          · exact hmessage
          · exact absurd hmessage List.not_mem_nil
        rw [sendReport_eq] at hmem
        split_ifs at hmem
        · have hreceived := @ConnPacketModule.received_memory
            (s.reportPacket node stack) 18 (by decide)
          have htype : typeOf message = messageTypeModuleTriggerAction := by
            rw [List.mem_singleton.mp hmem]
            exact hreceived.messageType
          rw [htype]
          refine ⟨by decide, by decide, by decide, ?_⟩
          rw [List.mem_singleton.mp hmem]
          exact ⟨hreceived.sender, hreceived.receiver, Nat.le_add_right 7 11, Nat.le_refl 18⟩
        · exact absurd hmem List.not_mem_nil
    | advReport report stack =>
        have hmem : message = advInfo node stack report := by
          simp only [bleEventHandler] at hmessage
          split_ifs at hmessage <;>
            first
              | exact List.mem_singleton.mp hmessage
              | exact absurd hmessage List.not_mem_nil
        obtain ⟨htype, hsender, hreceiver, hlong, hshort⟩ :=
          @header_advInfo node stack report
        rw [← hmem] at htype hsender hreceiver hlong hshort
        rw [htype]
        exact ⟨by decide, by decide, by decide, hsender, hreceiver, hlong, by omega⟩
  obtain ⟨hordinary, hunclustered, huntimed, hsender, hreceiver, hlong, hshort⟩ := hheader
  refine ⟨posted_packet hordinary hunclustered huntimed hsender ?_ ?_ (by omega), ?_⟩
  · rw [hreceiver]
    decide
  · show 6 ≤ message.bytes.length
    omega
  · rw [message_packet (by omega), receiverIn_unmarked, hreceiver]

/-- What is read of a report of the module. -/
theorem readOf_report (s : ScanningModule) (stack : ConnPacketModule) :
    readOf (value s.moduleId) ((s.sendReport node stack).map Message.packet) =
      if 0 < s.totalMessages then [(s.totalMessages, s.totalRSSI.setWidth 24)] else [] := by
  rw [sendReport_eq]
  split_ifs
  · have hreceived := @ConnPacketModule.received_memory
      (s.reportPacket node stack) 18 (by decide)
    apply readOf_singleton
    have hlength : ((s.reportPacket node stack).sent 18).bytes.length < 2 ^ 16 := by
      rw [length_sent_report]
      omega
    rw [@message_packet ⟨_, false⟩ hlength, value_unmarked]
    exact s.printed_report node stack hreceived
  · rfl

/-- Other advertisements are no reports. -/
theorem readOf_advInfo (moduleId : U16) (stack : ConnPacketHeader) (report : AdvReport) :
    readOf (value moduleId) [Message.packet (advInfo node stack report)] = [] := by
  obtain ⟨htype, -, -, -, hshort⟩ := @header_advInfo node stack report
  apply List.filterMap_cons_none
  have hother : ¬ (messageTypeAt (memory (advInfo node stack report)) =
      messageTypeModuleTriggerAction ∧ u16At (memory (advInfo node stack report)) 7 = moduleId ∧
      memory (advInfo node stack report) 10 = totalScannedPackets) := by
    rintro ⟨hother, -⟩
    exact absurd (htype.symm.trans hother) (by decide)
  rw [message_packet (by omega), value_unmarked, connectionPacketReceivedEventHandler,
    if_neg hother]
  rfl

end Step

/-! ## The tally -/

section Tally

variable {networkId : U16} {node : Node} {s : ScanningModule}

/-- The sum of signal strengths in a number of bits. -/
def rssiSum (width : ℕ) (rssis : List U8) : BitVec width :=
  (rssis.map fun rssi => rssi.signExtend width).sum

theorem rssiSum_append (width : ℕ) (first second : List U8) :
    rssiSum width (first ++ second) = rssiSum width first + rssiSum width second := by
  unfold rssiSum
  rw [List.map_append, List.sum_append]

/-- The low bits of a sum are the sum of the low bits. -/
theorem setWidth_rssiSum (rssis : List U8) :
    (rssiSum 32 rssis).setWidth 24 = rssiSum 24 rssis := by
  induction rssis with
  | nil => rfl
  | cons rssi rest ih =>
      have hlow : (rssi.signExtend 32).setWidth 24 = rssi.signExtend 24 := by
        revert rssi
        decide
      have hsum : (rssiSum 32 (rssi :: rest)) = rssi.signExtend 32 + rssiSum 32 rest := rfl
      rw [hsum, BitVec.setWidth_add _ _ (by omega), hlow, ih]
      rfl

/-- The variables hold what has been counted since the last report. -/
structure Recent (recent : List U8) (s : ScanningModule) : Prop where
  messages : s.totalMessages = BitVec.ofNat 32 recent.length
  rssi : s.totalRSSI = rssiSum 32 recent

/-- What has been said is the count and the sum of what has been reported. -/
structure Reported (reported : List U8) (said : List (U32 × LowRssi)) : Prop where
  messages : (said.map fun report => report.1.toNat).sum = reported.length
  rssi : (said.map Prod.snd).sum = rssiSum 24 reported

theorem Recent.advReport {recent : List U8} (h : Recent recent s) (report : AdvReport)
    (stack : ConnPacketHeader) :
    Recent (recent ++ countedBy networkId s (.advReport report stack))
      (s.bleEventHandler node networkId report stack).1 := by
  simp only [countedBy, bleEventHandler]
  by_cases hconsiders : s.considers networkId report = true
  · by_cases hcounted : report.isCounted = true
    · simp only [hconsiders, hcounted, and_self, if_true]
      constructor
      · show s.totalMessages + 1 = _
        rw [h.messages, List.length_append, List.length_singleton, BitVec.ofNat_add]
        rfl
      · show s.totalRSSI + report.rssi.signExtend 32 = _
        rw [h.rssi, rssiSum_append]
        congr 1
        exact (add_zero _).symm
    · simpa [hconsiders, hcounted] using h
  · simpa [hconsiders] using h

/-- A report says what has been counted since the last one. -/
theorem Reported.report {reported recent : List U8} {said : List (U32 × LowRssi)}
    (h : Reported reported said) (hrecent : Recent recent s) (hfew : recent.length < 2 ^ 32)
    (stack : ConnPacketModule) :
    Reported (reported ++ recent)
      (said ++ readOf (value s.moduleId) ((s.sendReport node stack).map Message.packet)) := by
  have hmessages : s.totalMessages.toNat = recent.length := by
    rw [hrecent.messages, BitVec.toNat_ofNat]
    exact Nat.mod_eq_of_lt hfew
  rw [readOf_report]
  by_cases hsome : 0 < s.totalMessages
  · rw [if_pos hsome]
    constructor
    · simp [h.messages, hmessages]
    · rw [List.map_append, List.sum_append, h.rssi, rssiSum_append, ← setWidth_rssiSum recent,
        ← hrecent.rssi]
      simp
  · -- nothing has been counted
    have hnone : recent = [] := by
      rw [BitVec.lt_def, hmessages] at hsome
      exact List.length_eq_zero_iff.mp (by simpa using hsome)
    rw [if_neg hsome, hnone, List.append_nil, List.append_nil]
    exact h

/-- Everything that has been counted has been reported, or is in the variables. -/
theorem tally (hstart : Recent [] s) (events : List Event)
    (hfew : (counted networkId node s events).length < 2 ^ 32) :
    ∃ reported recent, counted networkId node s events = reported ++ recent ∧
      Reported reported (said (step networkId) (value s.moduleId) node s events) ∧
      Recent recent (stateAfter (step networkId) node s events) ∧
      (stateAfter (step networkId) node s events).moduleId = s.moduleId := by
  induction events using List.reverseRecOn with
  | nil => exact ⟨[], [], rfl, ⟨rfl, rfl⟩, hstart, rfl⟩
  | append_singleton events event ih =>
      rw [counted_concat, List.length_append] at hfew
      obtain ⟨reported, recent, hcounted, hreported, hrecent, hid⟩ := ih (by omega)
      rw [counted_concat, said_concat, stateAfter_concat, hcounted]
      set now := stateAfter (step networkId) node s events with hnow
      rw [hcounted, List.length_append] at hfew
      cases event with
      | advReport report stack =>
          refine ⟨reported, recent ++ countedBy networkId now (.advReport report stack),
            List.append_assoc _ _ _, ?_, hrecent.advReport report stack, ?_⟩
          · have hnothing : readOf (value s.moduleId)
                (step networkId node now (.advReport report stack)).2 = [] := by
              simp only [step, bleEventHandler]
              split_ifs <;> first | exact readOf_advInfo _ stack report | rfl
            rwa [hnothing, List.append_nil]
          · rw [← hid]
            simp only [step, bleEventHandler]
            split_ifs <;> rfl
      | timer appTimerMs stack =>
          have hnone : countedBy networkId now (.timer appTimerMs stack) = [] := rfl
          rw [hnone, List.append_nil]
          simp only [step, timerEventHandler]
          split_ifs
          · refine ⟨reported ++ recent, [], (List.append_nil _).symm, ?_, ⟨rfl, rfl⟩, hid⟩
            rw [← hid]
            exact (hid ▸ hreported).report hrecent (by omega) stack
          · exact ⟨reported, recent, rfl, by rwa [List.map_nil, readOf_nil, List.append_nil],
              hrecent, hid⟩

end Tally

/-! ## The reports in the mesh -/

/-- The module with the default interval, switched on. -/
def switchedOn : ScanningModule :=
  ⟨20, true, 20000, 0, ⟨true, .groupByAddress, 0xFF, BitVec.ofInt 8 (-100), 100, 0xFF⟩, 0, 0⟩

/-- An advertisement of a device that is counted. -/
def countedReport (rssi : U8) : AdvReport :=
  ⟨false, 0, overwrite (fun _ => 0) 3 [0x06, 0x09, 0x44, 0x55], 20, 1, [1, 2, 3, 4, 5, 6], rssi⟩

/-- The first of two nodes counts two advertisements, reports them and counts a third one. -/
def threeReports {V : Type*} (first second : V) : List (Happening V Event) :=
  let stack : ConnPacketModule := ⟨⟨false, 0, 0, 0, 7⟩, 0, 0, 0, []⟩
  [.own first (.advReport (countedReport (BitVec.ofInt 8 (-60))) stack.header) none,
    .own first (.advReport (countedReport (BitVec.ofInt 8 (-70))) stack.header) none,
    .own first (.timer 20200 stack) none,
    .traffic (.deliver second inConnection fun _ => 0),
    .own first (.advReport (countedReport (BitVec.ofInt 8 (-50))) stack.header) none]

end ScanningModule

end FruityMesh.Modules
