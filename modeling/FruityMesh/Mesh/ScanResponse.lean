import FruityMesh.Mesh.Accounting
import FruityMesh.Mesh.Bounds
import FruityMesh.Mesh.Relay

/-!
# Scan responses for the whole mesh

`SetScanResponseData` packs a text into a DATA_2 packet, sends it over all connections, and sets
it as the scan response of the node itself; a node that gets the packet sets its own from it.

Four bounds meet here.  A text of up to 20 characters is accepted, the packet has room for 13,
12 of them are transmitted, and a receiver takes as many as the length byte of the packet says.
`intact_iff` and `copiesWithin_iff` say when these agree.
-/

namespace FruityMesh.Mesh

open Cells LittleEndian Reads Transport Modules
open Node (startedNode)

namespace AdvertisingController

/-- The bytes of a `connPacketData1`: the header, the length, and the data, which is as long as if
the header had `SIZEOF_CONN_PACKET_HEADER` bytes. -/
def connPacketData1Bytes : ℕ := 7 + 1 + (maxDataSizePerWrite - sizeofConnPacketHeader - 1)

def sizeofScanPacketHeader : ℕ := 8

/-- The size of `currentScanResponsePacket`. -/
def scanResponsePacketBytes : ℕ := 40

/-- `SetScanResponse`, on `currentScanResponsePacket`: the length of the manufacturer data, and the
payload behind the header. -/
def setScanResponse (currentScanResponsePacket : Memory U8) (payload : List U8) : Memory U8 :=
  (currentScanResponsePacket.store 4 [BitVec.ofNat 8 (3 + payload.length)]).store
    sizeofScanPacketHeader payload

/-- The local packet of `SetScanResponseData` once everything has been stored in it. -/
def fillData (node : Node) (data : Memory U8) (dataString : List U8) : Memory U8 :=
  let length : U8 := BitVec.ofNat 8 dataString.length
  ((((data.store 0 [firstByte (hasMorePartsOf (data.cell 0)) messageTypeData2]).store 1
    (u16Bytes node.nodeId)).store 3
    (u16Bytes nodeIdBroadcast)).store 7
    [length]).store 8
    (dataString.take length.toNat)

/-- What `SetScanResponseData` leaves behind and does. -/
structure Campaign where
  data : Memory U8
  message : Message
  actions : List Action
  /-- What the node sets for itself. -/
  payload : List U8

/-- `SetScanResponseData`, with `none` where it answers that the arguments are wrong.  The memory
of the packet is not initialised. -/
def setScanResponseData (node : Node) (data : Memory U8) (dataString : List U8) :
    Option Campaign :=
  if dataString = [] ∨ 20 < dataString.length then none
  else
    let data := fillData node data dataString
    -- the struct has one byte more
    let message : Message := ⟨read data.cell 0 sizeofConnPacketData2, true⟩
    some {
      data := data.load 0 sizeofConnPacketData2
      message := message
      actions := node.sendMessageOverConnections none message
      payload := dataString.take (data.cell 7).toNat }

/-- The packets with which the message comes to a node, directly or through other nodes. -/
inductive Carried (message : Message) : ConnectionPacket → Prop
  | arrived (behind : ℕ → U8) : Carried message (arrive message behind)
  | relayed {packet : ConnectionPacket} (h : Carried message packet) (node : Node)
      (connection i : Slot) (relay : Message)
      (hrelay : relay ∈ sends (node.receivePacketHandler connection packet).2 i)
      (behind : ℕ → U8) : Carried message (arrive relay behind)

/-- A campaign arrives intact: the packet is built inside of its struct, and each node that
handles it sets the scan response that the sending node has. -/
def Campaign.Intact (campaign : Campaign) : Prop :=
  campaign.data.AccessesWithin connPacketData1Bytes ∧
    ∀ packet, Carried campaign.message packet → ∀ device connection,
      (Inbound.receivePacketHandler device connection packet).value.reports =
        [.setScanResponse campaign.payload]

/-- A node that handles the packet reads bytes of the packet only, and sets its scan response
inside of the buffer for it. -/
def CopiesWithin (node : Node) (connection : Slot) (packet : ConnectionPacket)
    (currentScanResponsePacket : Memory U8) : Prop :=
  let handled := Inbound.handleMessage node connection packet.data packet.dataLength
  handled.InBounds packet.dataLength.toNat ∧
    ∀ payload, .setScanResponse payload ∈ handled.value.2 →
      (setScanResponse currentScanResponsePacket payload).AccessesWithin scanResponsePacketBytes

/-! ## A node that gets a DATA_2 packet -/

section Handled

variable {device : Device} {connection : Slot} {data : ℕ → U8} {dataLength : U16}

theorem value_fold {σ ι : Type} {f : σ → ι → Reads σ} {s : σ} (h : ∀ x, (f s x).value = s)
    (xs : List ι) : (Reads.fold f xs s).value = s := by
  induction xs with
  | nil => rfl
  | cons x xs ih => rw [Reads.fold, value_bind, h, ih]

/-- The modules leave a packet alone that is not meant for them. -/
theorem handleByModule_other {node : Node} {handled : ActiveModules × List Report}
    {n : Fin maxModuleCount} (hconfig : messageTypeAt data ≠ messageTypeModuleConfig)
    (hresponse : messageTypeAt data ≠ messageTypeModuleActionResponse) :
    (Inbound.handleByModule node data dataLength handled n).value = handled := by
  rw [Inbound.handleByModule]
  split
  · rfl
  · rename_i m hm
    have hconfigured : (m.connectionPacketReceivedEventHandler node handled.1 n data
        dataLength).value = (handled.1, []) := by
      rw [Module.connectionPacketReceivedEventHandler, value_bind, value_readMessageType,
        if_neg hconfig, value_pure]
    have hparsed : (StatusReporterModule.parseModuleResponses m data dataLength).value = [] := by
      rw [StatusReporterModule.parseModuleResponses, value_bind, value_readMessageType,
        if_neg hresponse, value_pure]
    simp only [value_bind, hconfigured]
    split_ifs <;> simp [hparsed]

theorem reports_messageReceivedCallback (htype : messageTypeAt data = messageTypeData2)
    (hlength : dataLength.toNat = sizeofConnPacketData2) :
    (Inbound.messageReceivedCallback device connection data dataLength).value.2 =
      [.setScanResponse (read data 8 (data 7).toNat)] := by
  have hmodules : ∀ node,
      (Reads.fold (Inbound.handleByModule node data dataLength) (List.finRange maxModuleCount)
        (device.activeModules, [])).value = (device.activeModules, []) := fun node =>
    value_fold (fun n => handleByModule_other (by rw [htype]; decide) (by rw [htype]; decide)) _
  have hlisted : (Inbound.handleModuleList data dataLength).value = [] := by
    rw [Inbound.handleModuleList, value_bind, value_readMessageType, htype, if_neg (by decide),
      value_pure]
  have hreceived : (Inbound.handleMessage device.node connection data dataLength).value.2 =
      [.setScanResponse (read data 8 (data 7).toNat)] := by
    rw [Inbound.handleMessage, value_bind, value_readMessageType, htype, if_neg (by decide),
      if_pos rfl, if_pos hlength]
    rfl
  simp only [Inbound.messageReceivedCallback, value_bind, value_pure, hmodules, hlisted, hreceived,
    List.append_nil]

/-- A relay changes the sender of a packet that is not a CLUSTER_INFO_UPDATE, and nothing else. -/
theorem relayed_data_of_type {k : ℕ} (hsender : 3 ≤ k)
    (htype : messageTypeAt data ≠ messageTypeClusterInfoUpdate) : Node.relayed data k = data k := by
  simp only [Node.relayed, htype, false_and, if_false]
  split_ifs
  · exact overwrite_u16Bytes _ _ (Or.inr hsender)
  · rfl

theorem route_data_of_type {node : Node} {reliable : Bool} {k : ℕ} (hsender : 3 ≤ k)
    (htype : messageTypeAt data ≠ messageTypeClusterInfoUpdate) :
    (node.route connection data dataLength reliable).1 k = data k := by
  unfold Node.route
  split_ifs
  · rfl
  · rfl
  · exact relayed_data_of_type hsender htype

/-- What a node reports that gets a DATA_2 packet for everybody. -/
theorem reports_receivePacketHandler {packet : ConnectionPacket}
    (htype : messageTypeAt packet.data = messageTypeData2)
    (hreceiver : receiverAt packet.data = nodeIdBroadcast)
    (hlength : packet.dataLength.toNat = sizeofConnPacketData2) :
    (Inbound.receivePacketHandler device connection packet).value.reports =
      [.setScanResponse (read packet.data 8 (packet.data 7).toNat)] := by
  set routed := (device.node.route connection packet.data packet.dataLength packet.reliable).1
    with hrouted
  obtain ⟨htype', hreceiver'⟩ := device.node.route_header connection packet.data packet.dataLength
    packet.reliable
  have hcares : device.node.caresFor (receiverAt routed) = true := by
    rw [hrouted, hreceiver', hreceiver]
    simp [Node.caresFor]
  have hupdate : messageTypeAt packet.data ≠ messageTypeClusterInfoUpdate := by
    rw [htype]
    decide
  have hdata : ∀ k, 3 ≤ k → routed k = packet.data k := fun k hk => route_data_of_type hk hupdate
  have hread : read routed 8 (routed 7).toNat = read packet.data 8 (packet.data 7).toNat := by
    rw [hdata 7 (by omega)]
    exact List.map_congr_left fun k _ => hdata (8 + k) (by omega)
  have hhandshake : ¬ Inbound.isHandshake (messageTypeAt routed) = true := by
    rw [hrouted, htype', htype]
    decide
  rw [Inbound.receivePacketHandler, value_bind, value_readMessageType, htype,
    if_neg (by decide), Inbound.routeAndProcess, value_bind, Inbound.value_route, value_bind,
    value_pure, ← hrouted, Inbound.process, value_bind, value_readMessageType, if_neg hhandshake,
    value_bind, value_readReceiver, if_pos hcares, value_bind, value_pure]
  rw [← hread]
  exact reports_messageReceivedCallback (htype'.trans htype) hlength

end Handled

/-! ## The packet on its way -/

/-- A packet with the fields of the message, whoever sent it on. -/
structure Conveys (message : Message) (packet : ConnectionPacket) : Prop where
  type : messageTypeAt packet.data = messageTypeData2
  receiver : receiverAt packet.data = nodeIdBroadcast
  length : packet.dataLength.toNat = sizeofConnPacketData2
  data : ∀ k, 3 ≤ k → k < sizeofConnPacketData2 → packet.data k = memory message k

section OnItsWay

variable {message : Message} {packet : ConnectionPacket} {behind : ℕ → U8}

theorem Conveys.arrive (htype : typeOf message = messageTypeData2)
    (hreceiver : receiverOf message = nodeIdBroadcast)
    (hlength : message.bytes.length = sizeofConnPacketData2) :
    Conveys message (arrive message behind) where
  type := type_arrive.trans htype
  receiver := (receiver_arrive (by rw [hlength]; decide)).trans hreceiver
  length := (arrive_dataLength (by rw [hlength]; decide)).trans hlength
  data := fun k hlow hhigh => arrive_data (by omega) (by rwa [hlength])
    (Or.inr (by rw [htype]; decide))

/-- A relay sends a packet on with the same fields. -/
theorem Conveys.relay (h : Conveys message packet) {node : Node} {connection i : Slot}
    {relay : Message}
    (hrelay : relay ∈ sends (node.receivePacketHandler connection packet).2 i) :
    Conveys message (Mesh.arrive relay behind) := by
  have hsink : receiverAt packet.data ≠ nodeIdShortestSink := by
    rw [h.receiver]
    decide
  have hordinary : Ordinary (messageTypeAt packet.data) := by
    rw [h.type]
    exact ⟨by decide, by decide, by decide, by decide⟩
  have hupdate : messageTypeAt packet.data ≠ messageTypeClusterInfoUpdate := by
    rw [h.type]
    decide
  rw [node.sends_receive_ordinary hordinary hsink] at hrelay
  obtain rfl : relay = ⟨read (Node.relayed packet.data) 0 packet.dataLength.toNat,
      packet.reliable⟩ := by
    split_ifs at hrelay
    · exact absurd hrelay List.not_mem_nil
    · exact List.mem_singleton.mp hrelay
    · exact absurd hrelay List.not_mem_nil
  rw [h.length]
  have hsent := @Conveys.arrive ⟨read (Node.relayed packet.data) 0 sizeofConnPacketData2,
    packet.reliable⟩ behind
    ((typeOf_read (by decide)).trans (type_relayed.trans h.type))
    ((receiverOf_read (by decide)).trans (receiver_relayed.trans h.receiver)) (length_read ..)
  refine ⟨hsent.type, hsent.receiver, hsent.length, fun k hlow hhigh => ?_⟩
  rw [hsent.data k hlow hhigh, memory_read hhigh, relayed_data_of_type hlow hupdate,
    h.data k hlow hhigh]

theorem Carried.conveys (h : Carried message packet) (htype : typeOf message = messageTypeData2)
    (hreceiver : receiverOf message = nodeIdBroadcast)
    (hlength : message.bytes.length = sizeofConnPacketData2) : Conveys message packet := by
  induction h with
  | arrived behind => exact Conveys.arrive htype hreceiver hlength
  | relayed h node connection i relay hrelay behind ih => exact ih.relay hrelay

end OnItsWay

/-! ## The packet of a campaign -/

section Campaigns

variable {node : Node} {cell : ℕ → U8} {dataString : List U8} {campaign : Campaign}

/-- What stands in the local packet. -/
structure Filled (node : Node) (dataString : List U8) (cell : ℕ → U8) : Prop where
  type : messageTypeAt cell = messageTypeData2
  sender : senderAt cell = node.nodeId
  receiver : receiverAt cell = nodeIdBroadcast
  length : cell 7 = BitVec.ofNat 8 dataString.length
  data : Holds cell 8 dataString

theorem toNat_length (hshort : dataString.length ≤ 20) :
    (BitVec.ofNat 8 dataString.length).toNat = dataString.length := by
  rw [BitVec.toNat_ofNat]
  omega

theorem filled_fillData (data : Memory U8) (hshort : dataString.length ≤ 20) :
    Filled node dataString (fillData node data dataString).cell := by
  have hwhole : dataString.take (BitVec.ofNat 8 dataString.length).toNat = dataString := by
    rw [toNat_length hshort, List.take_length]
  set header : List U8 := [firstByte (hasMorePartsOf (data.cell 0)) messageTypeData2] ++
    u16Bytes node.nodeId ++ u16Bytes nodeIdBroadcast with hheader
  have hcell : (fillData node data dataString).cell =
      overwrite (overwrite data.cell 0 header) 7
        ([BitVec.ofNat 8 dataString.length] ++ dataString) := by
    rw [hheader, ← overwrite_append, ← overwrite_append, ← overwrite_append]
    simp only [fillData, Memory.store_cell, hwhole]
    rfl
  have hfront : Holds (fillData node data dataString).cell 0 header := by
    rw [hcell]
    exact (holds_overwrite _ 0 header).overwrite_after _ (by simp [hheader])
  have hback : Holds (fillData node data dataString).cell 7
      ([BitVec.ofNat 8 dataString.length] ++ dataString) := by
    rw [hcell]
    exact holds_overwrite _ 7 _
  obtain ⟨hids, hreceiver⟩ := holds_append.mp hfront
  obtain ⟨hfirst, hsender⟩ := holds_append.mp hids
  obtain ⟨hlength, hdata⟩ := holds_append.mp hback
  refine ⟨?_, u16At_eq hsender, u16At_eq hreceiver, (holds_cons.mp hlength).1, hdata⟩
  unfold messageTypeAt
  rw [(holds_cons.mp hfirst).1]
  exact messageTypeOf_firstByte _ _

theorem eq_of_accepted {data : Memory U8}
    (h : setScanResponseData node data dataString = some campaign) :
    dataString.length ≤ 20 ∧ campaign.payload = dataString ∧
      campaign.data = (fillData node data dataString).load 0 sizeofConnPacketData2 ∧
      campaign.message =
        ⟨read (fillData node data dataString).cell 0 sizeofConnPacketData2, true⟩ := by
  unfold setScanResponseData at h
  split_ifs at h with hwrong
  obtain ⟨-, hshort⟩ := not_or.mp hwrong
  obtain rfl := Option.some.inj h
  have hshort := Nat.not_lt.mp hshort
  refine ⟨hshort, ?_, rfl, rfl⟩
  dsimp only
  rw [(@filled_fillData node dataString data hshort).length, toNat_length hshort,
    List.take_length]

theorem within_fillData (hshort : dataString.length ≤ 13) :
    ((fillData node ⟨cell, [], []⟩ dataString).load 0 sizeofConnPacketData2).AccessesWithin
      connPacketData1Bytes := by
  have hnone : Memory.AccessesWithin connPacketData1Bytes (⟨cell, [], []⟩ : Memory U8) :=
    ⟨by simp, by simp⟩
  refine Memory.AccessesWithin.load ?_ (by decide)
  simp only [fillData, Memory.accessesWithin_store_iff, List.length_singleton, length_u16Bytes,
    List.length_take]
  refine ⟨⟨⟨⟨⟨hnone, by decide⟩, by decide⟩, by decide⟩, by decide⟩, ?_⟩
  have hbytes : connPacketData1Bytes = 21 := rfl
  omega

/-- **A campaign arrives intact if and only if its text has at most 12 characters.** -/
theorem intact_iff
    (haccepted : setScanResponseData node ⟨cell, [], []⟩ dataString = some campaign) :
    campaign.Intact ↔ dataString.length ≤ 12 := by
  obtain ⟨hlength, hpayload, hdata, hmessage⟩ := eq_of_accepted haccepted
  have hfilled := @filled_fillData node dataString ⟨cell, [], []⟩ hlength
  set filled := (fillData node ⟨cell, [], []⟩ dataString).cell
  have hmemory : ∀ k, k < sizeofConnPacketData2 → memory campaign.message k = filled k := by
    intro k hk
    rw [hmessage]
    exact memory_read hk
  have htype : typeOf campaign.message = messageTypeData2 := by
    rw [hmessage, typeOf_read (by decide)]
    exact hfilled.type
  have hreceiver : receiverOf campaign.message = nodeIdBroadcast := by
    rw [hmessage, receiverOf_read (by decide)]
    exact hfilled.receiver
  have hbytes : campaign.message.bytes.length = sizeofConnPacketData2 := by
    rw [hmessage]
    exact length_read ..
  have hreports : ∀ packet, Carried campaign.message packet → ∀ device connection,
      (Inbound.receivePacketHandler device connection packet).value.reports =
        [.setScanResponse (read packet.data 8 dataString.length)] := by
    intro packet hcarried device connection
    have hconveys := hcarried.conveys htype hreceiver hbytes
    have hbyte : (packet.data 7).toNat = dataString.length := by
      rw [hconveys.data 7 (by decide) (by decide), hmemory 7 (by decide), hfilled.length,
        toNat_length hlength]
    rw [reports_receivePacketHandler hconveys.type hconveys.receiver hconveys.length, hbyte]
  constructor
  · intro hintact
    by_contra hlong
    -- behind the packet lies another character than the one that was not transmitted
    have htwelve : 12 < dataString.length := by omega
    have harrived := @Carried.arrived campaign.message fun _ => dataString[12] + 1
    have hsame := hintact.2 _ harrived ⟨node, fun _ => none⟩ inConnection
    rw [hreports _ harrived, hpayload] at hsame
    have hholds := holds_read (arrive campaign.message fun _ => dataString[12] + 1).data 8
      dataString.length
    rw [Report.setScanResponse.inj (List.cons.inj hsame).1] at hholds
    have hbehind : (arrive campaign.message fun _ => dataString[12] + 1).data 20 =
        dataString[12] + 1 := arrive_behind (by decide) (by rw [hbytes]; decide)
    have hlast := hbehind.symm.trans (hholds 12 htwelve)
    exact absurd hlast (by bv_omega)
  · intro hshort
    refine ⟨?_, fun packet hcarried device connection => ?_⟩
    · rw [hdata]
      exact within_fillData (by omega)
    · have hconveys := hcarried.conveys htype hreceiver hbytes
      have hholds : Holds packet.data 8 dataString := by
        intro k hk
        have hsize : sizeofConnPacketData2 = 20 := rfl
        rw [hconveys.data (8 + k) (by omega) (by omega), hmemory (8 + k) (by omega)]
        exact hfilled.data k hk
      rw [hreports packet hcarried, hholds.read_eq, hpayload]

end Campaigns

/-- **A packet is copied within its bounds if and only if its length byte is at most 12.** -/
theorem copiesWithin_iff {node : Node} {connection : Slot} {packet : ConnectionPacket}
    {cell : ℕ → U8} (htype : messageTypeAt packet.data = messageTypeData2)
    (hlength : packet.dataLength.toNat = sizeofConnPacketData2) :
    CopiesWithin node connection packet ⟨cell, [], []⟩ ↔ (packet.data 7).toNat ≤ 12 := by
  have hsize : sizeofConnPacketData2 = 20 := rfl
  have hpayload : (Inbound.handleMessage node connection packet.data packet.dataLength).value.2 =
      [.setScanResponse (read packet.data 8 (packet.data 7).toNat)] := by
    rw [Inbound.handleMessage, value_bind, value_readMessageType, htype, if_neg (by decide),
      if_pos rfl, if_pos hlength]
    rfl
  have hbounds : (Inbound.handleMessage node connection packet.data packet.dataLength).InBounds
      packet.dataLength.toNat ↔ (packet.data 7).toNat ≤ 12 := by
    rw [Inbound.handleMessage, inBounds_bind, value_readMessageType, htype, if_neg (by decide),
      if_pos rfl, if_pos hlength, inBounds_bind, Inbound.inBounds_updateScanResponsePacket,
      inBounds_readMessageType, hlength, hsize]
    simp only [inBounds_pure, and_true]
    omega
  simp only [CopiesWithin, hbounds, hpayload]
  refine and_iff_left_of_imp fun hshort payload hmem => ?_
  obtain rfl : payload = _ := Report.setScanResponse.inj (List.mem_singleton.mp hmem)
  unfold setScanResponse
  rw [Memory.accessesWithin_store_iff, Memory.accessesWithin_store_iff]
  refine ⟨⟨⟨by simp, by simp⟩, ?_⟩, ?_⟩
  · rw [List.length_singleton]
    decide
  rw [length_read]
  unfold sizeofScanPacketHeader scanResponsePacketBytes
  omega

/-- **A scan response arrives intact if and only if the text has at most 12 characters, and is
copied within its bounds if and only if the length byte is at most 12.** -/
theorem scanResponse_intact_iff {node : Node} {cell response : ℕ → U8} {dataString : List U8}
    {campaign : Campaign} {connection : Slot} {packet : ConnectionPacket}
    (haccepted : setScanResponseData node ⟨cell, [], []⟩ dataString = some campaign)
    (htype : messageTypeAt packet.data = messageTypeData2)
    (hlength : packet.dataLength.toNat = sizeofConnPacketData2) :
    (campaign.Intact ↔ dataString.length ≤ 12) ∧
      (CopiesWithin node connection packet ⟨response, [], []⟩ ↔ (packet.data 7).toNat ≤ 12) :=
  ⟨intact_iff haccepted, copiesWithin_iff htype hlength⟩

theorem scanResponse_intact_iff_short :
    ∃ campaign,
      setScanResponseData (startedNode 1 1) ⟨fun _ => 0, [], []⟩ [72, 105] = some campaign ∧
        campaign.Intact ∧
        CopiesWithin (startedNode 1 1) inConnection (arrive campaign.message fun _ => 0)
          ⟨fun _ => 0, [], []⟩ := by
  refine ⟨_, rfl, ?_⟩
  have hboth := @scanResponse_intact_iff (startedNode 1 1) (fun _ => 0) (fun _ => 0) [72, 105] _
    inConnection (arrive ⟨read (fillData (startedNode 1 1) ⟨fun _ => 0, [], []⟩ [72, 105]).cell 0
      sizeofConnPacketData2, true⟩ fun _ => 0) rfl (by decide) (by decide)
  exact ⟨hboth.1.mpr (by decide), hboth.2.mpr (by decide)⟩

/-- A text of 20 characters, and a packet that says that it has 255 bytes. -/
theorem scanResponse_broken :
    (¬ ∀ node cell dataString campaign,
      setScanResponseData node ⟨cell, [], []⟩ dataString = some campaign → campaign.Intact) ∧
    ¬ ∀ node connection packet cell, messageTypeAt packet.data = messageTypeData2 →
      packet.dataLength.toNat = sizeofConnPacketData2 →
        CopiesWithin node connection packet ⟨cell, [], []⟩ := by
  constructor
  · intro hclaim
    have hintact := hclaim (startedNode 1 1) (fun _ => 0) (List.replicate 20 65) _ rfl
    have hshort :=
      (@intact_iff (startedNode 1 1) (fun _ => 0) (List.replicate 20 65) _ rfl).mp hintact
    exact absurd hshort (by decide)
  · intro hclaim
    set packet : ConnectionPacket :=
      ⟨fun k => if k = 0 then firstByte false messageTypeData2 else 255, 20, true⟩ with hpacket
    have htype : messageTypeAt packet.data = messageTypeData2 := by
      rw [hpacket]
      decide
    have hcopies := hclaim (startedNode 1 1) inConnection packet (fun _ => 0) htype rfl
    exact absurd ((copiesWithin_iff htype rfl).mp hcopies) (by decide)

end AdvertisingController

end FruityMesh.Mesh
