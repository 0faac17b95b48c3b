import FruityMesh.Mesh.Neighbours

/-!
# Advertisements on the air

`UpdateJoinMePacket` has `AdvertisingController` write a JOIN_ME behind a header that was filled in
once, and the scanner of another node looks at the bytes of everything that advertises around it:
other networks, phones, and the messages that `AdvertisingModule` advertises in between.

`Air` is the neighbourhood with these bytes, `Neighbourhood` the one in which nodes hear the
JOIN_MEs of others.  The first behaves like the second (`bytes_refine`): so what is known about
the choice of a partner from JOIN_MEs holds of the bytes, and a node remembers nothing that
nobody has advertised (`heard_was_advertised`).
-/

namespace FruityMesh.Mesh

open Cells LittleEndian Runs

def sizeofAdvPacketStuffAfterManufacturer : ℕ := 7

/-! ## The packets -/

/-- The fields of the payload that nobody sets: they keep what lies on the stack. -/
structure Unset where
  batteryRuntime : U8
  txPower : U8
  deviceType : U8
  hopsToSink : U16

/-- The two numbers of free connections share a byte. -/
def freeByte (freeIn : BitVec 3) (freeOut : BitVec 5) : U8 :=
  BitVec.ofNat 8 (freeIn.toNat + 8 * freeOut.toNat)

/-- The payload with version 0. -/
def JoinMe.bytes (packet : JoinMe) (unset : Unset) : List U8 :=
  u16Bytes packet.sender ++ (u32Bytes packet.clusterId ++ (u16Bytes packet.clusterSize ++
    ([freeByte packet.freeInConnections packet.freeOutConnections, 0, unset.batteryRuntime,
      unset.txPower, unset.deviceType] ++ (u16Bytes unset.hopsToSink ++
        (u16Bytes packet.meshWriteHandle ++ u16Bytes packet.ackField)))))

/-- The fields of an `advPacketJoinMeV0` that are read. -/
def JoinMe.ofMemory (data : ℕ → U8) : JoinMe where
  sender := u16At data 11
  clusterId := u32At data 13
  clusterSize := u16At data 17
  freeInConnections := (data 19).setWidth 3
  freeOutConnections := (data 19 >>> 3).setWidth 5
  meshWriteHandle := u16At data 26
  ackField := u16At data 28

/-- The AD structure with the flags. -/
def advFlags : List U8 := [2, 0x01, 0x06]

/-- What is filled in once of the manufacturer specific data. -/
def advNetwork (networkId : U16) : List U8 :=
  0xFF :: (u16Bytes companyIdentifier ++ (meshIdentifier :: u16Bytes networkId))

/-- `Initialize`: the header without the length and the message type. -/
def initialPacket (networkId : U16) : ℕ → U8 :=
  overwrite (overwrite (fun _ => 0) 0 advFlags) 4 (advNetwork networkId)

/-- `UpdateAdvertisingData`: the packet, and the bytes that the stack is given. -/
def updateAdvertisingData (packet : ℕ → U8) (messageType : U8) (payload : List U8) :
    (ℕ → U8) × List U8 :=
  let packet := overwrite packet 10 [messageType]
  let packet := overwrite packet 3
    [BitVec.ofNat 8 (payload.length + sizeofAdvPacketStuffAfterManufacturer)]
  let packet := overwrite packet sizeofAdvPacketHeader payload
  (packet, read packet 0 (sizeofAdvPacketHeader + payload.length))

/-- A JOIN_ME as it is advertised. -/
def JoinMe.packet (joinMe : JoinMe) (networkId : U16) (unset : Unset) : List U8 :=
  advFlags ++ (26 :: (advNetwork networkId ++ (messageTypeJoinMe :: joinMe.bytes unset)))

/-- The bytes are AD structures one behind the other: each begins with its length. -/
inductive AdStructures : List U8 → Prop
  | nil : AdStructures []
  | cons (len : U8) (body rest : List U8) (hlength : body.length = len.toNat) (hpos : body ≠ [])
      (hrest : AdStructures rest) : AdStructures (len :: (body ++ rest))

/-! ## The scanner -/

/-- The parameters of `BLE_GAP_EVT_ADV_REPORT`. -/
structure ScanReport where
  data : ℕ → U8
  dlen : U8
  peerAddress : BleAddress

/-- The packet is one of the mesh network. -/
def OfNetwork (networkId : U16) (report : ScanReport) : Prop :=
  sizeofAdvPacketHeader ≤ report.dlen.toNat ∧ u16At report.data 5 = companyIdentifier ∧
    report.data 7 = meshIdentifier ∧ u16At report.data 8 = networkId

instance (networkId : U16) (report : ScanReport) : Decidable (OfNetwork networkId report) :=
  inferInstanceAs (Decidable (_ ∧ _))

/-- `ScanEventHandler`, and what `AdvertisementMessageHandler` reads of the packet. -/
def scanEventHandler (networkId : U16) (node : Advertiser) (report : ScanReport) : Advertiser :=
  if OfNetwork networkId report then
    node.advertisementMessageHandler
      ⟨report.data 10, report.dlen, report.peerAddress, .ofMemory report.data⟩
  else node

/-- The packet is taken for a JOIN_ME of the network. -/
def Imitates (networkId : U16) (report : ScanReport) : Prop :=
  OfNetwork networkId report ∧ report.data 10 = messageTypeJoinMe ∧
    report.dlen = sizeofAdvPacketJoinMe

instance (networkId : U16) (report : ScanReport) : Decidable (Imitates networkId report) :=
  inferInstanceAs (Decidable (_ ∧ _))

/-- The report of a packet, with anything behind it. -/
def reportOf (bytes : List U8) (address : BleAddress) (behind : ℕ → U8) : ScanReport where
  data := overwrite behind 0 bytes
  dlen := BitVec.ofNat 8 bytes.length
  peerAddress := address

section Packet

variable {joinMe : JoinMe} {networkId networkId' : U16} {unset : Unset} {node : Advertiser}
  {report : ScanReport}

theorem freeByte_in (freeIn : BitVec 3) (freeOut : BitVec 5) :
    (freeByte freeIn freeOut).setWidth 3 = freeIn := by
  apply BitVec.eq_of_toNat_eq
  have hin := freeIn.isLt
  rw [BitVec.toNat_setWidth, freeByte, BitVec.toNat_ofNat]
  omega

theorem freeByte_out (freeIn : BitVec 3) (freeOut : BitVec 5) :
    (freeByte freeIn freeOut >>> 3).setWidth 5 = freeOut := by
  apply BitVec.eq_of_toNat_eq
  have hin := freeIn.isLt
  have hout := freeOut.isLt
  rw [BitVec.toNat_setWidth, BitVec.toNat_ushiftRight, freeByte, BitVec.toNat_ofNat,
    Nat.shiftRight_eq_div_pow]
  omega

theorem JoinMe.length_bytes (joinMe : JoinMe) (unset : Unset) : (joinMe.bytes unset).length = 19 :=
  rfl

theorem JoinMe.length_packet (joinMe : JoinMe) (networkId : U16) (unset : Unset) :
    (joinMe.packet networkId unset).length = 30 := rfl

/-- The flags, and the rest as manufacturer specific data. -/
theorem JoinMe.adStructures_packet (joinMe : JoinMe) (networkId : U16) (unset : Unset) :
    AdStructures (joinMe.packet networkId unset) := by
  have hmanufacturer := AdStructures.cons 26
    (advNetwork networkId ++ (messageTypeJoinMe :: joinMe.bytes unset)) [] rfl
    (by simp [advNetwork]) .nil
  rw [List.append_nil] at hmanufacturer
  exact AdStructures.cons 2 [0x01, 0x06] _ rfl (by simp) hmanufacturer

/-- The payload is read as it was written. -/
theorem JoinMe.ofMemory_eq {data : ℕ → U8} (h : Holds data 11 (joinMe.bytes unset)) :
    JoinMe.ofMemory data = joinMe := by
  obtain ⟨hsender, h⟩ := holds_append.mp h
  obtain ⟨hid, h⟩ := holds_append.mp h
  obtain ⟨hsize, h⟩ := holds_append.mp h
  obtain ⟨hbytes, h⟩ := holds_append.mp h
  obtain ⟨-, h⟩ := holds_append.mp h
  obtain ⟨hhandle, hack⟩ := holds_append.mp h
  obtain ⟨hfree, -⟩ := holds_cons.mp hbytes
  have hfree' : data 19 = freeByte joinMe.freeInConnections joinMe.freeOutConnections := hfree
  simp only [ofMemory, hfree', freeByte_in, freeByte_out]
  rw [@u16At_eq _ 11 _ hsender, @u32At_eq _ 13 _ hid, @u16At_eq _ 17 _ hsize,
    @u16At_eq _ 26 _ hhandle, @u16At_eq _ 28 _ hack]

/-- A JOIN_ME in memory. -/
theorem JoinMe.packet_fields {data : ℕ → U8} (h : Holds data 0 (joinMe.packet networkId unset)) :
    u16At data 5 = companyIdentifier ∧ data 7 = meshIdentifier ∧ u16At data 8 = networkId ∧
      data 10 = messageTypeJoinMe ∧ JoinMe.ofMemory data = joinMe := by
  obtain ⟨-, h⟩ := holds_append.mp h
  obtain ⟨-, h⟩ := holds_cons.mp h
  obtain ⟨hnetwork, h⟩ := holds_append.mp h
  obtain ⟨htype, hpayload⟩ := holds_cons.mp h
  obtain ⟨-, hnetwork⟩ := holds_cons.mp hnetwork
  obtain ⟨hcompany, hnetwork⟩ := holds_append.mp hnetwork
  obtain ⟨hmesh, hid⟩ := holds_cons.mp hnetwork
  exact ⟨@u16At_eq _ 5 _ hcompany, hmesh, @u16At_eq _ 8 _ hid, htype, JoinMe.ofMemory_eq hpayload⟩

/-- The scanner of a node of the network hears the JOIN_ME, whatever lies behind it; the others
drop it. -/
theorem scanEventHandler_joinMe (node : Advertiser) (address : BleAddress) (behind : ℕ → U8) :
    scanEventHandler networkId' node (reportOf (joinMe.packet networkId unset) address behind) =
      if networkId = networkId' then node.hear address joinMe else node := by
  set report := reportOf (joinMe.packet networkId unset) address behind
  have hholds : Holds report.data 0 (joinMe.packet networkId unset) := holds_overwrite behind 0 _
  have hdlen : report.dlen = sizeofAdvPacketJoinMe := rfl
  obtain ⟨hcompany, hmesh, hid, htype, hpayload⟩ := JoinMe.packet_fields hholds
  have hnetwork : OfNetwork networkId' report ↔ networkId = networkId' := by
    unfold OfNetwork
    rw [hcompany, hmesh, hid, hdlen]
    exact ⟨fun h => h.2.2.2, fun h => ⟨by decide, rfl, rfl, h⟩⟩
  unfold scanEventHandler
  simp only [hnetwork, htype, hdlen, hpayload]
  rfl

/-- All other packets leave the node as it is. -/
theorem scanEventHandler_of_not (h : ¬ Imitates networkId report) :
    scanEventHandler networkId node report = node := by
  unfold scanEventHandler
  split_ifs with hnetwork
  · exact if_neg fun hjoinMe => h ⟨hnetwork, hjoinMe⟩
  · rfl

/-! ## The packet of the controller -/

/-- What is filled in once is in place. -/
structure Prefilled (networkId : U16) (packet : ℕ → U8) : Prop where
  flags : Holds packet 0 advFlags
  network : Holds packet 4 (advNetwork networkId)

theorem prefilled_initialPacket (networkId : U16) :
    Prefilled networkId (initialPacket networkId) where
  flags := (holds_overwrite _ 0 advFlags).overwrite_after _ (by decide)
  network := holds_overwrite _ 4 _

/-- The stack is given a JOIN_ME, and the next one can be written over it. -/
theorem Prefilled.update {packet : ℕ → U8} (h : Prefilled networkId packet) (joinMe : JoinMe)
    (unset : Unset) :
    let result := updateAdvertisingData packet messageTypeJoinMe (joinMe.bytes unset)
    Prefilled networkId result.1 ∧ result.2 = joinMe.packet networkId unset := by
  intro result
  have hnetworkLength : (advNetwork networkId).length = 6 := rfl
  have hflagsLength : advFlags.length = 3 := rfl
  have hflags : Holds result.1 0 advFlags :=
    ((h.flags.overwrite_after _ (by rw [hflagsLength]; omega)).overwrite_after _
      (by rw [hflagsLength])).overwrite_after _ (by rw [hflagsLength]; decide)
  have hnetwork : Holds result.1 4 (advNetwork networkId) :=
    ((h.network.overwrite_after _ (by rw [hnetworkLength])).overwrite_before
      (by simp)).overwrite_after _ (by rw [hnetworkLength]; decide)
  have hlength : result.1 3 = 26 := rfl
  have htype : result.1 10 = messageTypeJoinMe := rfl
  have hpayload : Holds result.1 11 (joinMe.bytes unset) := holds_overwrite _ 11 _
  have hall : Holds result.1 0 (joinMe.packet networkId unset) :=
    holds_append.mpr ⟨hflags, holds_cons.mpr ⟨hlength,
      holds_append.mpr ⟨hnetwork, holds_cons.mpr ⟨htype, hpayload⟩⟩⟩⟩
  exact ⟨⟨hflags, hnetwork⟩, hall.read_eq⟩

end Packet

/-! ## The neighbourhood -/

/-- A node with the packet of its `AdvertisingController` and what its stack advertises. -/
structure AirNode where
  advertiser : Advertiser
  currentAdvertisementPacket : ℕ → U8
  onAir : List U8

/-- Nodes in range of each other, of one network or several. -/
structure Air (V : Type*) where
  node : V → AirNode

/-- The same without the bytes: what each node advertises, if it is a JOIN_ME. -/
structure Neighbourhood (V : Type*) where
  node : V → Advertiser
  onAir : V → Option JoinMe

inductive AirEvent (V : Type*)
  /-- `UpdateJoinMePacket`. -/
  | update (v : V) (ackCluster : Option JoinMeBufferPacket) (unset : Unset)
  /-- `DetermineBestClusterAvailable`, which calls it for a slave. -/
  | decide (v : V) (unset : Unset)
  /-- Other handlers change the connections and the cluster. -/
  | change (v : V) (cm : ConnectionManager)
  | wait (v : V) (ms : U32)
  /-- `AdvertisingModule` has the stack advertise something else. -/
  | message (v : V) (bytes : List U8)
  /-- The scanner of `v` reports what `u` advertises. -/
  | hear (v u : V) (behind : ℕ → U8)
  /-- It reports the packet of a device that is no node. -/
  | foreign (v : V) (report : ScanReport)

/-- The stack advertises the JOIN_ME of the node. -/
def AirNode.advertise (node : AirNode) (advertiser : Advertiser) (unset : Unset) : AirNode :=
  let result := updateAdvertisingData node.currentAdvertisementPacket messageTypeJoinMe
    (advertiser.joinMe.bytes unset)
  ⟨advertiser, result.1, result.2⟩

section Run

variable {V : Type*} [DecidableEq V] (networkId : V → U16) (address : V → BleAddress)

def Air.setNode (s : Air V) (v : V) (node : AirNode) : Air V := ⟨Function.update s.node v node⟩

def Air.setAdvertiser (s : Air V) (v : V) (advertiser : Advertiser) : Air V :=
  s.setNode v { s.node v with advertiser := advertiser }

def Air.apply (s : Air V) : AirEvent V → Air V
  | .update v ackCluster unset =>
      s.setNode v
        ((s.node v).advertise ((s.node v).advertiser.updateJoinMePacket ackCluster) unset)
  | .decide v unset =>
      match (s.node v).advertiser.determineBestClusterAvailable with
      | none => s
      | some decision =>
          if decision.result = .connectAsSlave then
            s.setNode v ((s.node v).advertise decision.node unset)
          else s.setAdvertiser v decision.node
  | .change v cm => s.setAdvertiser v { (s.node v).advertiser with cm := cm }
  | .wait v ms => s.setAdvertiser v ((s.node v).advertiser.wait ms)
  | .message v bytes => s.setNode v { s.node v with onAir := bytes }
  | .hear v u behind =>
      s.setAdvertiser v (scanEventHandler (networkId v) (s.node v).advertiser
        (reportOf (s.node u).onAir (address u) behind))
  | .foreign v report =>
      s.setAdvertiser v (scanEventHandler (networkId v) (s.node v).advertiser report)

/-- Nobody imitates a JOIN_ME, and enrolment, which restarts a node, does not happen. -/
def Air.Allowed (s : Air V) : AirEvent V → Prop
  | .change v cm => cm.node.nodeId = (s.node v).advertiser.nodeId
  | .message _ bytes => bytes.length ≤ 31 ∧
      ∀ u, ¬ Imitates (networkId u) (reportOf bytes ⟨0, 0⟩ fun _ => 0)
  | .foreign v report => ¬ Imitates (networkId v) report
  | _ => True

def Neighbourhood.setNode (a : Neighbourhood V) (v : V) (node : Advertiser) : Neighbourhood V :=
  { a with node := Function.update a.node v node }

/-- The node advertises its JOIN_ME. -/
def Neighbourhood.advertise (a : Neighbourhood V) (v : V) (node : Advertiser) :
    Neighbourhood V where
  node := Function.update a.node v node
  onAir := Function.update a.onAir v (some node.joinMe)

def Neighbourhood.apply (a : Neighbourhood V) : AirEvent V → Neighbourhood V
  | .update v ackCluster _ => a.advertise v ((a.node v).updateJoinMePacket ackCluster)
  | .decide v _ =>
      match (a.node v).determineBestClusterAvailable with
      | none => a
      | some decision =>
          if decision.result = .connectAsSlave then a.advertise v decision.node
          else a.setNode v decision.node
  | .change v cm => a.setNode v { a.node v with cm := cm }
  | .wait v ms => a.setNode v ((a.node v).wait ms)
  | .message v _ => { a with onAir := Function.update a.onAir v none }
  | .hear v u _ =>
      match a.onAir u with
      | none => a
      | some joinMe =>
          if networkId u = networkId v then a.setNode v ((a.node v).hear (address u) joinMe) else a
  | .foreign _ _ => a

/-- The bytes that a node advertises. -/
def OnAir (bytes : List U8) (u : V) : Option JoinMe → Prop
  | some joinMe => ∃ unset, bytes = joinMe.packet (networkId u) unset
  | none => ∀ v behind, ¬ Imitates (networkId v) (reportOf bytes (address u) behind)

/-- The bytes are those of the neighbourhood. -/
structure Represents (s : Air V) (a : Neighbourhood V) : Prop where
  advertiser : ∀ v, (s.node v).advertiser = a.node v
  prefilled : ∀ v, Prefilled (networkId v) (s.node v).currentAdvertisementPacket
  onAir : ∀ v, OnAir networkId address (s.node v).onAir v (a.onAir v)

/-- The nodes after `Initialize`. -/
def Neighbourhood.started (node : V → Advertiser) : Neighbourhood V := ⟨node, fun _ => none⟩

def Air.started (node : V → Advertiser) : Air V :=
  ⟨fun v => ⟨node v, initialPacket (networkId v), []⟩⟩

end Run

section Refine

variable {V : Type*} [DecidableEq V] {networkId : V → U16} {address : V → BleAddress}
  {s : Air V} {a : Neighbourhood V} {v u : V} {event : AirEvent V}

/-- What lies behind a packet does not make a JOIN_ME of it. -/
theorem not_imitates {networkId : U16} {bytes : List U8} (hlength : bytes.length ≤ 31)
    (h : ¬ Imitates networkId (reportOf bytes ⟨0, 0⟩ fun _ => 0)) (address : BleAddress)
    (behind : ℕ → U8) : ¬ Imitates networkId (reportOf bytes address behind) := by
  rintro ⟨⟨hlong, hcompany, hmesh, hid⟩, htype, hdlen⟩
  apply h
  have hsize : bytes.length = 30 := by
    have hnat := congrArg BitVec.toNat hdlen
    have hdlen' : (BitVec.ofNat 8 bytes.length).toNat = 30 := hnat
    rw [BitVec.toNat_ofNat] at hdlen'
    omega
  have hsame : ∀ k < 30, (reportOf bytes ⟨0, 0⟩ fun _ => 0).data k =
      (reportOf bytes address behind).data k := by
    intro k hk
    have hold := holds_overwrite behind 0 bytes k (by omega)
    have hnew := holds_overwrite (fun _ => 0) 0 bytes k (by omega)
    rw [Nat.zero_add] at hold hnew
    exact hnew.trans hold.symm
  refine ⟨⟨hlong, ?_, ?_, ?_⟩, ?_, hdlen⟩
  · rw [← hcompany]
    exact u16At_congr (hsame 5 (by omega)) (hsame 6 (by omega))
  · rw [← hmesh]
    exact hsame 7 (by omega)
  · rw [← hid]
    exact u16At_congr (hsame 8 (by omega)) (hsame 9 (by omega))
  · rw [← htype]
    exact hsame 10 (by omega)

@[simp] theorem Neighbourhood.setNode_node (a : Neighbourhood V) (v : V) (node : Advertiser) :
    (a.setNode v node).node v = node := Function.update_self ..

@[simp] theorem Neighbourhood.advertise_node (a : Neighbourhood V) (v : V) (node : Advertiser) :
    (a.advertise v node).node v = node := Function.update_self ..

theorem Neighbourhood.setNode_self (a : Neighbourhood V) (v : V) : a.setNode v (a.node v) = a := by
  unfold Neighbourhood.setNode
  rw [Function.update_eq_self]

/-- One node changes. -/
theorem Represents.setNode (h : Represents networkId address s a) {a' : Neighbourhood V}
    {node : AirNode} (hnode : node.advertiser = a'.node v)
    (hprefilled : Prefilled (networkId v) node.currentAdvertisementPacket)
    (honAir : OnAir networkId address node.onAir v (a'.onAir v))
    (hother : ∀ w ≠ v, a'.node w = a.node w ∧ a'.onAir w = a.onAir w) :
    Represents networkId address (s.setNode v node) a' := by
  have hself : (s.setNode v node).node v = node := Function.update_self ..
  have hrest : ∀ w ≠ v, (s.setNode v node).node w = s.node w :=
    fun w hw => Function.update_of_ne hw ..
  constructor
  · intro w
    by_cases hw : w = v
    · rw [hw, hself, hnode]
    · rw [hrest w hw, (hother w hw).1, h.advertiser]
  · intro w
    by_cases hw : w = v
    · rw [hw, hself]
      exact hprefilled
    · rw [hrest w hw]
      exact h.prefilled w
  · intro w
    by_cases hw : w = v
    · rw [hw, hself]
      exact honAir
    · rw [hrest w hw, (hother w hw).2]
      exact h.onAir w

/-- The node changes, but not what it advertises. -/
theorem Represents.setAdvertiser (h : Represents networkId address s a) (v : V)
    (node : Advertiser) :
    Represents networkId address (s.setAdvertiser v node) (a.setNode v node) :=
  h.setNode (a.setNode_node v node).symm (h.prefilled v) (h.onAir v)
    fun _ hw => ⟨Function.update_of_ne hw .., rfl⟩

/-- The node advertises its JOIN_ME. -/
theorem Represents.advertise (h : Represents networkId address s a) (v : V) (node : Advertiser)
    (unset : Unset) :
    Represents networkId address (s.setNode v ((s.node v).advertise node unset))
      (a.advertise v node) := by
  obtain ⟨hprefilled, hbytes⟩ := (h.prefilled v).update node.joinMe unset
  have honAir : (a.advertise v node).onAir v = some node.joinMe := Function.update_self ..
  refine h.setNode (a.advertise_node v node).symm hprefilled ?_
    fun _ hw => ⟨Function.update_of_ne hw .., Function.update_of_ne hw ..⟩
  rw [honAir]
  exact ⟨unset, hbytes⟩

omit [DecidableEq V] in
/-- What the scanner makes of a packet on the air. -/
theorem Represents.hear (h : Represents networkId address s a) (v u : V) (behind : ℕ → U8) :
    scanEventHandler (networkId v) (s.node v).advertiser
        (reportOf (s.node u).onAir (address u) behind) =
      match a.onAir u with
      | none => a.node v
      | some joinMe =>
          if networkId u = networkId v then (a.node v).hear (address u) joinMe else a.node v := by
  have honAir := h.onAir u
  rw [h.advertiser v]
  cases hu : a.onAir u with
  | none =>
      rw [hu] at honAir
      exact scanEventHandler_of_not (honAir v behind)
  | some joinMe =>
      rw [hu] at honAir
      obtain ⟨unset, hbytes⟩ := honAir
      rw [hbytes]
      exact scanEventHandler_joinMe (a.node v) (address u) behind

/-- Every event does to the bytes what it does without them. -/
theorem Represents.apply (h : Represents networkId address s a)
    (hallowed : s.Allowed networkId event) :
    Represents networkId address (s.apply networkId address event)
      (a.apply networkId address event) := by
  cases event with
  | update v ackCluster unset =>
      simp only [Air.apply, Neighbourhood.apply, ← h.advertiser v]
      exact h.advertise v _ unset
  | decide v unset =>
      simp only [Air.apply, Neighbourhood.apply, h.advertiser v]
      cases (a.node v).determineBestClusterAvailable with
      | none => exact h
      | some decision =>
          dsimp only
          split_ifs
          · exact h.advertise v decision.node unset
          · exact h.setAdvertiser v decision.node
  | change v cm =>
      simp only [Air.apply, Neighbourhood.apply, h.advertiser v]
      exact h.setAdvertiser v _
  | wait v ms =>
      simp only [Air.apply, Neighbourhood.apply, h.advertiser v]
      exact h.setAdvertiser v _
  | message v bytes =>
      have honAir : (a.apply networkId address (.message v bytes)).onAir v = none :=
        Function.update_self ..
      refine h.setNode (h.advertiser v) (h.prefilled v) ?_
        fun _ hw => ⟨rfl, Function.update_of_ne hw ..⟩
      rw [honAir]
      exact fun w behind => not_imitates hallowed.1 (hallowed.2 w) (address v) behind
  | hear v u behind =>
      simp only [Air.apply, Neighbourhood.apply, h.hear v u behind]
      have hnothing := h.setAdvertiser v (a.node v)
      rw [a.setNode_self] at hnothing
      cases a.onAir u with
      | none => exact hnothing
      | some joinMe =>
          dsimp only
          split_ifs
          · exact h.setAdvertiser v _
          · exact hnothing
  | foreign v report =>
      -- no handler of the bytes takes the report for a JOIN_ME
      have hnothing := h.setAdvertiser v (a.node v)
      rw [a.setNode_self] at hnothing
      simp only [Air.apply, Neighbourhood.apply, scanEventHandler_of_not hallowed, h.advertiser v]
      exact hnothing

omit [DecidableEq V] in
theorem represents_started (node : V → Advertiser) :
    Represents networkId address (Air.started networkId node) (.started node) where
  advertiser := fun _ => rfl
  prefilled := fun v => prefilled_initialPacket (networkId v)
  onAir := fun _ _ _ h => absurd h.2.2 (show ¬ (BitVec.ofNat 8 0 : U8) = sizeofAdvPacketJoinMe by
    decide)

/-- Every state of a run is one of the neighbourhood. -/
theorem represents_run {node : V → Advertiser} {events : List (AirEvent V)}
    (hrun : Run (Air.apply networkId address) (Air.Allowed networkId)
      (Air.started networkId node) events s) :
    Represents networkId address s
      (events.foldl (Neighbourhood.apply networkId address) (.started node)) := by
  induction hrun with
  | nil => exact represents_started node
  | step _ event hallowed ih =>
      rw [List.foldl_append]
      exact ih.apply hallowed

/-- **The bytes on the air refine the JOIN_MEs.**  In every run, whatever the fields hold that
nobody sets, whatever lies behind the packets, and whatever else is advertised around that does
not imitate a JOIN_ME, each node is in the state that it would be in if it heard the JOIN_MEs of
the others in its network themselves.  A JOIN_ME on the air consists of whole AD structures and
has no more bytes than an advertisement can have. -/
theorem bytes_refine {node : V → Advertiser} {events : List (AirEvent V)}
    (hrun : Run (Air.apply networkId address) (Air.Allowed networkId)
      (Air.started networkId node) events s) :
    let a := events.foldl (Neighbourhood.apply networkId address) (.started node)
    (∀ v, (s.node v).advertiser = a.node v) ∧
      ∀ v joinMe, a.onAir v = some joinMe →
        (∃ unset, (s.node v).onAir = joinMe.packet (networkId v) unset) ∧
          AdStructures (s.node v).onAir ∧ (s.node v).onAir.length ≤ 31 := by
  have h := represents_run hrun
  refine ⟨h.advertiser, ?_⟩
  intro v joinMe hjoinMe
  have honAir := h.onAir v
  rw [hjoinMe] at honAir
  obtain ⟨unset, hbytes⟩ := honAir
  rw [hbytes]
  exact ⟨⟨unset, rfl⟩, joinMe.adStructures_packet _ unset, by rw [JoinMe.length_packet]; omega⟩

end Refine

/-! ## What a node remembers -/

section Remember

variable {V : Type*} [DecidableEq V] {networkId : V → U16} {address : V → BleAddress}
  {node : V → Advertiser} {events : List (AirEvent V)} {s : Air V}

/-- A decision keeps the node's id, and the JOIN_ME of a slave is its own. -/
theorem Advertiser.determine_own {node : Advertiser} {decision : Decision}
    (h : node.determineBestClusterAvailable = some decision) :
    decision.node.nodeId = node.nodeId ∧
      (decision.result = .connectAsSlave → decision.node.joinMe.sender = node.nodeId) := by
  unfold determineBestClusterAvailable at h
  dsimp only at h
  split at h
  · rw [← Option.some.inj h]
    exact ⟨rfl, fun heq => DecisionResult.noConfusion heq⟩
  · split at h
    · obtain ⟨cm, hcm, hdecision⟩ := Option.map_eq_some_iff.mp h
      rw [← hdecision]
      refine ⟨?_, fun heq => DecisionResult.noConfusion heq⟩
      unfold ConnectionManager.connectAsMaster at hcm
      split_ifs at hcm
      · rw [← Option.some.inj hcm]
        rfl
      · obtain ⟨i, -, hi⟩ := Option.map_eq_some_iff.mp hcm
        rw [← hi]
        unfold ConnectionManager.connectToPeripheral
        split_ifs <;> rfl
    · split at h
      · rw [← Option.some.inj h]
        exact ⟨rfl, fun _ => rfl⟩
      · rw [← Option.some.inj h]
        exact ⟨rfl, fun heq => DecisionResult.noConfusion heq⟩

variable (networkId address node) in
/-- The packet is a JOIN_ME that a node of the network has built for itself; `past` says which ones
it has advertised. -/
def HeardOf (past : V → JoinMe → Prop) (v : V) (packet : JoinMeBufferPacket) : Prop :=
  ∃ u, networkId u = networkId v ∧ packet.bleAddress = address u ∧
    packet.payload.sender = (node u).nodeId ∧ past u packet.payload

variable (networkId address node) in
structure Remembers (past : V → JoinMe → Prop) (a : Neighbourhood V) : Prop where
  nodeId : ∀ v, (a.node v).nodeId = (node v).nodeId
  own : ∀ u joinMe, a.onAir u = some joinMe → joinMe.sender = (node u).nodeId
  buffer : ∀ v, ∀ packet ∈ (a.node v).joinMePacketBuffer,
    HeardOf networkId address node past v packet

variable {past past' : V → JoinMe → Prop} {a : Neighbourhood V} {v : V}

omit [DecidableEq V] in
theorem Remembers.mono (h : Remembers networkId address node past a)
    (hpast : ∀ u joinMe, past u joinMe → past' u joinMe) :
    Remembers networkId address node past' a where
  nodeId := h.nodeId
  own := h.own
  buffer := by
    intro v packet hpacket
    obtain ⟨u, hnetwork, haddress, hsender, hpayload⟩ := h.buffer v packet hpacket
    exact ⟨u, hnetwork, haddress, hsender, hpast u _ hpayload⟩

theorem Remembers.setNode (h : Remembers networkId address node past a) {changed : Advertiser}
    (hid : changed.nodeId = (node v).nodeId)
    (hbuffer : ∀ packet ∈ changed.joinMePacketBuffer,
      HeardOf networkId address node past v packet) :
    Remembers networkId address node past (a.setNode v changed) := by
  have hrest : ∀ w ≠ v, (a.setNode v changed).node w = a.node w :=
    fun w hw => Function.update_of_ne hw ..
  refine ⟨?_, h.own, ?_⟩
  · intro w
    by_cases hw : w = v
    · rw [hw, a.setNode_node, hid]
    · rw [hrest w hw, h.nodeId]
  · intro w
    by_cases hw : w = v
    · rw [hw, a.setNode_node]
      exact hbuffer
    · rw [hrest w hw]
      exact h.buffer w

theorem Remembers.advertise (h : Remembers networkId address node past a) {changed : Advertiser}
    (hid : changed.nodeId = (node v).nodeId) (hown : changed.joinMe.sender = (node v).nodeId)
    (hbuffer : ∀ packet ∈ changed.joinMePacketBuffer,
      HeardOf networkId address node past v packet) :
    Remembers networkId address node past (a.advertise v changed) := by
  have hset := h.setNode hid hbuffer
  refine ⟨hset.nodeId, ?_, hset.buffer⟩
  intro u joinMe hjoinMe
  by_cases hu : u = v
  · subst hu
    have hsome : (a.advertise u changed).onAir u = some changed.joinMe := Function.update_self ..
    rw [← Option.some.inj (hsome.symm.trans hjoinMe)]
    exact hown
  · have hsame : (a.advertise v changed).onAir u = a.onAir u := Function.update_of_ne hu ..
    exact h.own u joinMe (hsame ▸ hjoinMe)

/-- No event adds anything to a buffer but what is on the air. -/
theorem Remembers.apply (h : Remembers networkId address node past a)
    (honAir : ∀ u joinMe, a.onAir u = some joinMe → past u joinMe) {event : AirEvent V}
    (hid : ∀ v cm, event = .change v cm → cm.node.nodeId = (a.node v).nodeId) :
    Remembers networkId address node past (a.apply networkId address event) := by
  cases event with
  | update v ackCluster unset =>
      refine h.advertise (h.nodeId v) ?_ (h.buffer v)
      rw [← h.nodeId v]
      cases ackCluster <;> rfl
  | decide v unset =>
      unfold Neighbourhood.apply
      dsimp only
      split
      · exact h
      · rename_i decision hdecision
        obtain ⟨hkept, hown⟩ := Advertiser.determine_own hdecision
        obtain ⟨-, hcases⟩ := Advertiser.determine_cases hdecision
        have hbuffer : ∀ packet ∈ decision.node.joinMePacketBuffer,
            HeardOf networkId address node past v packet := by
          intro packet hpacket
          -- a decision empties the buffer or leaves it as it is
          have hclean : decision.node.joinMePacketBuffer = [] ∨ decision.node = a.node v := by
            rcases hcases with ⟨-, hempty, -⟩ | ⟨-, hclean, -⟩
            · exact Or.inl hempty
            · exact hclean
          rcases hclean with hempty | hsame
          · rw [hempty] at hpacket
            exact absurd hpacket List.not_mem_nil
          · rw [hsame] at hpacket
            exact h.buffer v packet hpacket
        split_ifs with hslave
        · exact h.advertise (hkept.trans (h.nodeId v)) ((hown hslave).trans (h.nodeId v)) hbuffer
        · exact h.setNode (hkept.trans (h.nodeId v)) hbuffer
  | change v cm => exact h.setNode ((hid v cm rfl).trans (h.nodeId v)) (h.buffer v)
  | wait v ms => exact h.setNode (h.nodeId v) (h.buffer v)
  | message v bytes =>
      -- a module's advertisement takes the place of the JOIN_ME on the air
      refine ⟨h.nodeId, ?_, h.buffer⟩
      intro u joinMe hjoinMe
      by_cases hu : u = v
      · subst hu
        have hnone : (a.apply networkId address (.message u bytes)).onAir u = none :=
          Function.update_self ..
        rw [hnone] at hjoinMe
        exact absurd hjoinMe (by simp)
      · have hsame : (a.apply networkId address (.message v bytes)).onAir u = a.onAir u :=
          Function.update_of_ne hu ..
        exact h.own u joinMe (hsame ▸ hjoinMe)
  | hear v u behind =>
      unfold Neighbourhood.apply
      dsimp only
      split
      · exact h
      · rename_i joinMe hjoinMe
        split_ifs with hnetwork
        · refine h.setNode ?_ ?_
          · rw [← h.nodeId v]
            exact congrArg (fun cm : ConnectionManager => cm.node.nodeId) Advertiser.hear_kept.1
          -- what is new in the buffer is what `u` has on the air
          · intro packet hpacket
            rcases Advertiser.mem_hear_eq hpacket with hold | rfl
            · exact h.buffer v packet hold
            · exact ⟨u, hnetwork, rfl, h.own u joinMe hjoinMe, honAir u joinMe hjoinMe⟩
        · exact h
  | foreign v report => exact h

variable (networkId address) in
/-- The node has had the JOIN_ME on the air. -/
def Advertised (start : Air V) (events : List (AirEvent V)) (u : V) (joinMe : JoinMe) : Prop :=
  ∃ before unset, before <+: events ∧
    ((before.foldl (Air.apply networkId address) start).node u).onAir =
      joinMe.packet (networkId u) unset

/-- **What a node remembers has been advertised.**  In every run from empty buffers, each packet
in the buffer of a node is a JOIN_ME that a node of its network has had on the air, with the
sender, the address and all fields as they were. -/
theorem heard_was_advertised (hempty : ∀ v, (node v).joinMePacketBuffer = [])
    (hrun : Run (Air.apply networkId address) (Air.Allowed networkId)
      (Air.started networkId node) events s) (v : V) :
    ∀ packet ∈ (s.node v).advertiser.joinMePacketBuffer, HeardOf networkId address node
      (Advertised networkId address (Air.started networkId node) events) v packet := by
  have hremembers : Remembers networkId address node
      (Advertised networkId address (Air.started networkId node) events)
      (events.foldl (Neighbourhood.apply networkId address) (.started node)) := by
    induction hrun with
    | nil =>
        refine ⟨fun _ => rfl,
          fun _ _ hjoinMe => absurd hjoinMe (by simp [Neighbourhood.started]), ?_⟩
        intro v packet hpacket
        have hnone : packet ∈ (node v).joinMePacketBuffer := hpacket
        rw [hempty v] at hnone
        exact absurd hnone List.not_mem_nil
    | @step middle events hrun event hallowed ih =>
        have hrepresents : Represents networkId address middle _ := represents_run hrun
        rw [List.foldl_append]
        -- what has been on the air stays in the past of a longer run
        have hlonger : ∀ u joinMe,
            Advertised networkId address (Air.started networkId node) events u joinMe →
            Advertised networkId address (Air.started networkId node) (events ++ [event]) u
              joinMe := by
          rintro u joinMe ⟨before, unset, hbefore, hbytes⟩
          exact ⟨before, unset, hbefore.trans (List.prefix_append _ _), hbytes⟩
        apply (ih.mono hlonger).apply
        · intro u joinMe hjoinMe
          have honAir := hrepresents.onAir u
          rw [hjoinMe] at honAir
          obtain ⟨unset, hbytes⟩ := honAir
          refine ⟨events, unset, List.prefix_append _ _, ?_⟩
          rw [← hrun.eq_foldl]
          exact hbytes
        · rintro v cm rfl
          rw [← hrepresents.advertiser v]
          exact hallowed
  rw [(represents_run hrun).advertiser v]
  exact hremembers.buffer v

end Remember

instance {V : Type*} [Fintype V] (networkId : V → U16) (s : Air V) (event : AirEvent V) :
    Decidable (s.Allowed networkId event) :=
  match event with
  | .change v cm => inferInstanceAs (Decidable (cm.node.nodeId = (s.node v).advertiser.nodeId))
  | .message _ bytes => inferInstanceAs (Decidable (bytes.length ≤ 31 ∧
      ∀ u, ¬ Imitates (networkId u) (reportOf bytes ⟨0, 0⟩ fun _ => 0)))
  | .foreign v report => inferInstanceAs (Decidable (¬ Imitates (networkId v) report))
  | .update _ _ _ | .decide _ _ | .wait _ _ | .hear _ _ _ => isTrue trivial

/-- Two nodes in range of each other. -/
def twoSeekers (v : Fin 2) : Advertiser :=
  if v.val = 0 then Advertiser.seeker 1 10 3 3 else Advertiser.seeker 2 9 1 1

/-- The network both of them belong to. -/
def oneNetwork (_ : Fin 2) : U16 := 7

def addressOf (v : Fin 2) : BleAddress := ⟨1, BitVec.ofNat 48 v⟩

/-- A node advertises its JOIN_ME and later something else; the other one hears both, and a device
that is no node. -/
def heardOnAir {V : Type*} (scanner advertiser : V) : List (AirEvent V) :=
  [.update advertiser none ⟨0xAA, 0xBB, 0xCC, 0xDDEE⟩, .hear scanner advertiser fun _ => 0xFF,
    .foreign scanner ⟨fun _ => 0x4D, 30, ⟨0, 9⟩⟩,
    .message advertiser (advFlags ++ [3, 0x09, 0x41, 0x42]), .hear scanner advertiser fun _ => 0]

theorem bytes_refine_two :
    let s := (heardOnAir 0 1).foldl (Air.apply oneNetwork addressOf)
      (Air.started oneNetwork twoSeekers)
    (s.node 0).advertiser.joinMePacketBuffer = [⟨⟨1, 1⟩, 0, ⟨2, 9, 1, 1, 3, 14, 0⟩⟩] := by
  intro s
  have hrun : Run (Air.apply oneNetwork addressOf) (Air.Allowed oneNetwork)
      (Air.started oneNetwork twoSeekers) (heardOnAir 0 1) s := Run.of_replays (by decide)
  rw [(bytes_refine hrun).1 0]
  decide

theorem heard_was_advertised_two :
    let s := (heardOnAir 0 1).foldl (Air.apply oneNetwork addressOf)
      (Air.started oneNetwork twoSeekers)
    ∀ packet ∈ (s.node 0).advertiser.joinMePacketBuffer, ∃ u, Advertised oneNetwork addressOf
      (Air.started oneNetwork twoSeekers) (heardOnAir 0 1) u packet.payload := by
  intro s packet hpacket
  have hrun : Run (Air.apply oneNetwork addressOf) (Air.Allowed oneNetwork)
      (Air.started oneNetwork twoSeekers) (heardOnAir 0 1) s := Run.of_replays (by decide)
  obtain ⟨u, -, -, -, hadvertised⟩ := heard_was_advertised (by decide) hrun 0 packet hpacket
  exact ⟨u, hadvertised⟩

end FruityMesh.Mesh
