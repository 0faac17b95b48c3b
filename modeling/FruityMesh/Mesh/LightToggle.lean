import FruityMesh.Mesh.Relay

/-!
# Toggling a light from the phone

The phone writes a node id and a value to the node that it is connected to.  This node makes
a LIGHT_TOGGLE of the write, in place, and handles or relays it as if it had originated it
(`phoneWrites_eq`), although it takes the size of a module packet for the place of the value
and the module takes the last byte.  On the way only the sender of the packet changes
(`Toggle`), and the module of the node it is for acts on the value.
-/

namespace FruityMesh.Mesh

open Cells LittleEndian Transport Ports
open Node (relayed toggleLight targetNodeId sizeofConnPacketModule)

/-! ## `LightToggleModule` -/

/-- The packet that a message is to a module. -/
def Message.packet (message : Message) : ConnectionPacket :=
  ⟨memory message, BitVec.ofNat 16 message.bytes.length, message.reliable⟩

/-- What the module switches. -/
structure Outputs where
  ledRed : Bool
  ledBlue : Bool
  ledGreen : Bool
  relay : Bool
  deriving DecidableEq, Repr

namespace LightToggleModule

/-- The value that the handler reads from a packet, unless it returns before. -/
def dataValue (nodeId : NodeId) (packet : ConnectionPacket) : Option U8 :=
  if messageTypeAt packet.data ≠ messageTypeLightToggle then none
  else if senderAt packet.data = nodeId then none
  else if receiverAt packet.data ≠ nodeId then none
  else some (packet.data (packet.dataLength.toNat - 1))

/-- What the handler does with a value. -/
def act (dataValue : U8) (outputs : Outputs) : Outputs :=
  let outputs := if dataValue = 255 then ⟨true, true, true, true⟩ else outputs
  if dataValue = 0 then ⟨false, false, false, false⟩ else outputs

/-- `ConnectionPacketReceivedEventHandler`. -/
def connectionPacketReceivedEventHandler (nodeId : NodeId) (packet : ConnectionPacket)
    (outputs : Outputs) : Outputs :=
  match dataValue nodeId packet with
  | none => outputs
  | some value => act value outputs

theorem act_relay (value : U8) (outputs : Outputs) :
    (act value outputs).relay =
      if value = 255 then true else if value = 0 then false else outputs.relay := by
  unfold act
  by_cases hon : value = 255
  · subst hon
    rfl
  · by_cases hoff : value = 0
    · subst hoff
      rfl
    · simp only [if_neg hon, if_neg hoff]

end LightToggleModule

variable {V : Type*} [DecidableEq V]

namespace Net

/-- The values that the module of a node has acted on. -/
def acted (net : Net V) (v : V) : List U8 :=
  (net.received v).filterMap fun message =>
    LightToggleModule.dataValue (net.node v).nodeId (Message.packet message)

/-- What the module of a node has switched. -/
def outputs (net : Net V) (initially : V → Outputs) (v : V) : Outputs :=
  (net.received v).foldl
    (fun outputs message => LightToggleModule.connectionPacketReceivedEventHandler
      (net.node v).nodeId (Message.packet message) outputs)
    (initially v)

omit [DecidableEq V] in
/-- What is switched depends only on the values that the module has acted on. -/
theorem outputs_eq (net : Net V) (initially : V → Outputs) (v : V) :
    net.outputs initially v =
      (net.acted v).foldl (fun outputs value => LightToggleModule.act value outputs)
        (initially v) := by
  unfold outputs acted
  generalize initially v = first
  induction net.received v generalizing first with
  | nil => rfl
  | cons message rest ih =>
      rw [List.foldl_cons, ih, LightToggleModule.connectionPacketReceivedEventHandler,
        List.filterMap_cons]
      cases LightToggleModule.dataValue (net.node v).nodeId (Message.packet message) with
      | none => rfl
      | some value => rfl

/-- A write of the phone is handled at the node that it is connected to. -/
def phoneWrites (net : Net V) (gateway : V) (packet : ConnectionPacket) : Net V :=
  net.after gateway ((net.node gateway).receivePacketHandler inConnection packet)

end Net

/-! ## The write of the phone -/

/-- A write of the phone, which is not split, for the light of a node. -/
structure ToggleWrite (packet : ConnectionPacket) (target : NodeId) (value : U8) : Prop where
  type : messageTypeAt packet.data = messageTypeUartWrite
  unsplit : hasMorePartsOf (packet.data 0) = false
  long : 4 ≤ packet.dataLength.toNat
  short : packet.dataLength.toNat ≤ maxDataSizePerWrite
  target : u16At packet.data 1 = target
  value : packet.data 3 = value

/-- A phone has done the handshake on the incoming connection. -/
structure PhoneOn (net : Net V) (gateway : V) : Prop where
  unlinked : net.peer gateway inConnection = none
  isConnected : (net.connection gateway inConnection).isConnected = true
  handshakeDone : (net.connection gateway inConnection).handshakeDone = true
  partnerId : (net.connection gateway inConnection).partnerId = bleNodeId ∨
    (net.connection gateway inConnection).partnerId = bleNodeId + 1

/-- Where no part of a packet waits for the rest, the write is handed on as it is. -/
theorem callback_unsplit {c : Transport.Connection} (hposition : c.packetReassemblyPosition = 0)
    {event : WriteEvent} (hunsplit : hasMorePartsOf (event.data 0) = false) :
    (c.messageReceivedCallback event).packet =
      some ⟨event.data, event.len, !event.writeCommand⟩ := by
  unfold Transport.Connection.messageReceivedCallback
  simp only [if_pos hposition, hunsplit, Bool.false_eq_true, if_false]

/-- The two bytes that the gateway puts together are a little-endian number. -/
theorem targetNodeId_eq (data : ℕ → U8) : targetNodeId data = u16At data 1 := by
  have hfirst : (data 1).toNat < 2 ^ 8 := (data 1).isLt
  have hsecond : (data 2).toNat < 2 ^ 8 := (data 2).isLt
  have hread : read data 1 2 = [data 1, data 2] := rfl
  apply BitVec.eq_of_toNat_eq
  calc (targetNodeId data).toNat
      = (data 2).toNat <<< 8 % 2 ^ 16 ||| (data 1).toNat := by
        simp only [targetNodeId, BitVec.toNat_or, BitVec.toNat_shiftLeft, BitVec.toNat_setWidth]
        rw [Nat.mod_eq_of_lt (a := (data 1).toNat) (by omega),
          Nat.mod_eq_of_lt (a := (data 2).toNat) (by omega)]
    _ = (data 2).toNat <<< 8 + (data 1).toNat := by
        rw [Nat.mod_eq_of_lt (by rw [Nat.shiftLeft_eq]; omega),
          Nat.shiftLeft_add_eq_or_of_lt hfirst]
    _ = (data 1).toNat + 256 * ((data 2).toNat + 256 * 0) := by
        rw [Nat.shiftLeft_eq]
        omega
    _ = (u16At data 1).toNat := by
        rw [u16At, fieldAt, hread, BitVec.toNat_ofNat]
        simp only [decode]
        omega

/-! ## The toggle -/

/-- The LIGHT_TOGGLE that the gateway makes of the write. -/
def toggled (packet : ConnectionPacket) : ConnectionPacket :=
  ⟨toggleLight packet.data, BitVec.ofNat 16 (sizeofConnPacketModule + 2), packet.reliable⟩

theorem receiverAt_toggleLight (data : ℕ → U8) :
    receiverAt (toggleLight data) = targetNodeId data := by
  have hkept : ∀ k, 3 ≤ k → k < 5 → toggleLight data k = setReceiver (setMessageType data
      messageTypeLightToggle) (targetNodeId data) k := by
    intro k hlow hhigh
    calc toggleLight data k
        = setSender (setReceiver (setMessageType data messageTypeLightToggle)
            (targetNodeId data)) (bleNodeId + 1) k :=
          overwrite_of_lt _ _ (show k < sizeofConnPacketModule + 1 from by
            simp only [sizeofConnPacketModule, sizeofConnPacketHeader]
            omega)
      _ = setReceiver (setMessageType data messageTypeLightToggle) (targetNodeId data) k :=
          overwrite_u16Bytes _ _ (by omega)
  exact (u16At_congr (hkept 3 (by omega) (by omega)) (hkept 4 (by omega) (by omega))).trans
    (u16At_overwrite _ 3 _)

theorem senderAt_toggleLight (data : ℕ → U8) : senderAt (toggleLight data) = bleNodeId + 1 :=
  (u16At_congr (overwrite_of_lt _ _ (by decide)) (overwrite_of_lt _ _ (by decide))).trans
    (u16At_overwrite _ 1 _)

theorem value_toggleLight (data : ℕ → U8) :
    toggleLight data (sizeofConnPacketModule + 1) = data 3 :=
  (holds_cons.mp (holds_overwrite _ (sizeofConnPacketModule + 1) [data 3])).1

/-- What is on its way, and what is handed to the module: the LIGHT_TOGGLE, with a sender that
the relays have counted down. -/
structure Toggle (target : NodeId) (value : U8) (message : Message) : Prop where
  type : typeOf message = messageTypeLightToggle
  receiver : receiverOf message = target
  sender : nodeIdHopsBase.toNat ≤ (senderOf message).toNat
  length : message.bytes.length = sizeofConnPacketModule + 2
  value : memory message (sizeofConnPacketModule + 1) = value

theorem le_decremented {sender : NodeId} (h : nodeIdHopsBase.toNat ≤ sender.toNat) :
    nodeIdHopsBase.toNat ≤ (decremented sender).toNat := by
  unfold decremented
  split_ifs with hcounted
  · have := hcounted.1
    bv_omega
  · exact h

namespace Toggle

variable {target : NodeId} {value : U8} {message : Message}

/-- A packet that is sent on as it is read from memory. -/
theorem of_read {data : ℕ → U8} {reliable : Bool}
    (htype : messageTypeAt data = messageTypeLightToggle) (hreceiver : receiverAt data = target)
    (hsender : nodeIdHopsBase.toNat ≤ (senderAt data).toNat)
    (hvalue : data (sizeofConnPacketModule + 1) = value) :
    Toggle target value ⟨read data 0 (sizeofConnPacketModule + 2), reliable⟩ where
  type := (typeOf_read (by decide)).trans htype
  receiver := (receiverOf_read (by decide)).trans hreceiver
  sender := by
    rw [senderOf_read (by decide)]
    exact hsender
  length := length_read _ _ _
  value := (memory_read (by decide)).trans hvalue

/-- The module of the node that it is for acts on the value. -/
theorem dataValue_eq (h : Toggle target value message) (hdevice : target.toNat ≤ 19999) :
    LightToggleModule.dataValue target (Message.packet message) = some value := by
  have htype : messageTypeAt (Message.packet message).data = messageTypeLightToggle := h.type
  have hreceiver : receiverAt (Message.packet message).data = target := h.receiver
  have hsender : senderAt (Message.packet message).data ≠ target := by
    have hbase : nodeIdHopsBase.toNat = 30000 := rfl
    have hle : nodeIdHopsBase.toNat ≤ (senderAt (Message.packet message).data).toNat := h.sender
    intro heq
    rw [heq] at hle
    omega
  have hlength : (Message.packet message).dataLength.toNat - 1 = sizeofConnPacketModule + 1 := by
    show (BitVec.ofNat 16 message.bytes.length).toNat - 1 = _
    rw [h.length]
    rfl
  unfold LightToggleModule.dataValue
  rw [if_neg (not_not_intro htype), if_neg hsender, if_neg (not_not_intro hreceiver), hlength]
  exact congrArg some h.value

/-- A node that receives the toggle relays it and hands it on as a toggle. -/
theorem receive (h : Toggle target value message) (hdevice : target.toNat ≤ 19999) (node : Node)
    (i : Slot) (behind : ℕ → U8) :
    (∀ k, ∀ m ∈ sends (node.receivePacketHandler i (arrive message behind)).2 k,
        Toggle target value m) ∧
      ∀ m ∈ handled (node.receivePacketHandler i (arrive message behind)).2,
        Toggle target value m := by
  have hlength : message.bytes.length = 12 := h.length
  set arrived := arrive message behind with harrived
  have hsize : arrived.dataLength.toNat = sizeofConnPacketModule + 2 :=
    (arrive_dataLength (by omega)).trans h.length
  have htype : messageTypeAt arrived.data = messageTypeLightToggle := type_arrive.trans h.type
  have hreceiver : receiverAt arrived.data = target :=
    (receiver_arrive (by omega)).trans h.receiver
  have hsender : nodeIdHopsBase.toNat ≤ (senderAt arrived.data).toNat := by
    rw [harrived, sender_arrive (by omega)]
    exact h.sender
  have hvalue : arrived.data (sizeofConnPacketModule + 1) = value := by
    have huntimed : typeOf message ≠ messageTypeUpdateTimestamp := by
      rw [h.type]
      decide
    exact (arrive_data (by decide) (by rw [h.length]; decide) (Or.inr huntimed)).trans h.value
  have hordinary : Ordinary (messageTypeAt arrived.data) := by
    rw [htype]
    unfold Ordinary
    decide
  have hsink : receiverAt arrived.data ≠ nodeIdShortestSink := by
    rw [hreceiver]
    exact ne_shortestSink hdevice
  -- the node handles the packet as it came, or as it is relayed
  have hkept : Toggle target value
      ⟨read arrived.data 0 arrived.dataLength.toNat, arrived.reliable⟩ := by
    rw [hsize]
    exact of_read htype hreceiver hsender hvalue
  have hrelayed : Toggle target value
      ⟨read (relayed arrived.data) 0 arrived.dataLength.toNat, arrived.reliable⟩ := by
    rw [hsize]
    apply of_read
    · rw [type_relayed, htype]
    · rw [receiver_relayed, hreceiver]
    · rw [sender_relayed]
      exact le_decremented hsender
    · rw [relayed_data (Or.inr (by decide)) (Or.inl (by decide)), hvalue]
  constructor
  · intro k m hm
    rw [Node.sends_receive_ordinary _ hordinary hsink] at hm
    split_ifs at hm
    · exact absurd hm List.not_mem_nil
    · rw [List.mem_singleton.mp hm]
      exact hrelayed
    · exact absurd hm List.not_mem_nil
  · intro m hm
    rw [Node.handled_receive_ordinary _ hordinary hsink] at hm
    split_ifs at hm
    · rw [List.mem_singleton.mp hm]
      exact hkept
    · rw [List.mem_singleton.mp hm]
      exact hrelayed
    · exact absurd hm List.not_mem_nil

end Toggle

/-! ## The gateway -/

namespace ToggleWrite

variable {packet : ConnectionPacket} {target : NodeId} {value : U8}

theorem target_eq (h : ToggleWrite packet target value) : targetNodeId packet.data = target :=
  (targetNodeId_eq packet.data).trans h.target

theorem receiver_toggled (h : ToggleWrite packet target value) :
    receiverAt (toggled packet).data = target :=
  (receiverAt_toggleLight packet.data).trans h.target_eq

theorem toggle_message (h : ToggleWrite packet target value) :
    Toggle target value (toggled packet).message := by
  apply Toggle.of_read
  · exact messageTypeAt_toggleLight packet.data
  · exact h.receiver_toggled
  · show nodeIdHopsBase.toNat ≤ (senderAt (toggleLight packet.data)).toNat
    rw [senderAt_toggleLight]
    decide
  · exact (value_toggleLight packet.data).trans h.value

end ToggleWrite

/-- The gateway handles the write as if it had originated the toggle.  It sends the toggle over
the same links, since the connection to the phone, which it leaves out, is no link of the mesh. -/
theorem phoneWrites_eq {start : Net V} {gateway : V} {packet : ConnectionPacket} {value : U8}
    {target : NodeId} (hwired : Wired start.peer) (hphone : PhoneOn start gateway)
    (hwrite : ToggleWrite packet target value) (hdevice : target.toNat ≤ 19999)
    (hbroadcast : target ≠ nodeIdBroadcast) :
    start.phoneWrites gateway packet =
      start.originate gateway (some inConnection) (toggled packet) := by
  have hreceiver := hwrite.receiver_toggled
  have hhandled : (start.node gateway).receivePacketHandler inConnection packet =
      (start.node gateway).receiveToggle inConnection packet.data packet.reliable := by
    rw [Node.receivePacketHandler, if_pos hwrite.type, if_pos (phoneConnected_of_partnerId hphone.partnerId)]
  have hsame : (start.node gateway).messageReceivedCallback (some inConnection)
      (toggleLight packet.data) (BitVec.ofNat 16 (sizeofConnPacketModule + 2)) =
        start.node gateway := by
    rw [Node.messageReceivedCallback, messageTypeAt_toggleLight, if_neg fun h => by
      exact absurd h.1 (by decide)]
  unfold Net.phoneWrites Net.originate Node.sendMessageToReceiver
  simp only [hhandled, Node.receiveToggle, hwrite.target_eq, hreceiver,
    if_neg (ne_shortestSink hdevice), hbroadcast, and_false, or_false]
  by_cases hown : target = (start.node gateway).nodeId
  · simp only [hown, if_true, ne_eq, not_true_eq_false, if_false, decide_true]
    rfl
  · simp only [hown, if_false, ne_eq, not_false_eq_true, if_true, decide_false,
      Bool.false_eq_true, List.nil_append]
    unfold Net.after
    congr 1
    · apply post_congr hwired
      intro i hlinked
      have hi : some i ≠ some inConnection := by
        intro heq
        rw [Option.some.inj heq] at hlinked
        exact hlinked hphone.unlinked
      simp only [Node.sends_sendMessageOverConnections, hi, ne_eq, not_false_eq_true, true_and,
        Option.some_ne_none]
      rfl
    · funext v i
      simp only [Node.closes_sendMessageOverConnections]
    · simp only [Node.handled_sendMessageOverConnections]

/-! ## From the phone to the light -/

section Run

variable {start net : Net V} {gateway target : V} {packet : ConnectionPacket} {value : U8}
  {events : List (Event V)}

/-- All that is on its way, and all that has been handled, is the toggle. -/
theorem carries_toggle {target : NodeId} (hquiet : start.Quiet)
    (hunreceived : ∀ v, start.received v = []) (hwrite : ToggleWrite packet target value)
    (hdevice : target.toNat ≤ 19999)
    (hrun : Net.Run Deliveries (start.originate gateway (some inConnection) (toggled packet))
      events net) : Carries (Toggle target value) net := by
  have hsink : receiverAt (toggled packet).data ≠ nodeIdShortestSink := by
    rw [hwrite.receiver_toggled]
    exact ne_shortestSink hdevice
  refine hrun.preserves (I := Carries (Toggle target value)) ?_ ?_
  · intro net event hcarries henabled hdelivery
    obtain ⟨v, i, behind, rfl⟩ := deliveries_iff _ _ hdelivery
    obtain ⟨message, rest, hinbox⟩ := List.exists_cons_of_ne_nil henabled.2
    have hmessage := hcarries.inbox v i message (by rw [hinbox]; exact List.mem_cons_self)
    obtain ⟨hsends, hhandled⟩ := hmessage.receive hdevice (net.node v) i behind
    rw [Net.apply_deliver hinbox]
    exact (hcarries.withInbox hinbox).after v hsends hhandled
  · refine (Carries.of_quiet hquiet hunreceived).after gateway ?_ ?_
    · intro i m hm
      rw [Node.sends_sendMessageToReceiver _ hsink] at hm
      split_ifs at hm
      · rw [List.mem_singleton.mp hm]
        exact hwrite.toggle_message
      · exact absurd hm List.not_mem_nil
    · intro m hm
      rw [Node.handled_sendMessageToReceiver _ hsink] at hm
      split_ifs at hm
      · rw [List.mem_singleton.mp hm]
        exact hwrite.toggle_message
      · exact absurd hm List.not_mem_nil

omit [DecidableEq V] in
/-- The toggle is a packet that a node could have originated. -/
theorem ToggleWrite.originates {target : NodeId} (hwrite : ToggleWrite packet target value)
    (hdevice : target.toNat ≤ 19999) (htree : HandshakenTree start) (hquiet : start.Quiet)
    (hunreceived : ∀ v, start.received v = []) : Originates start (toggled packet) where
  tree := htree
  quiet := hquiet
  unreceived := hunreceived
  type := by
    have htype : messageTypeAt (toggled packet).data = messageTypeLightToggle :=
      messageTypeAt_toggleLight packet.data
    rw [htype]
    unfold Ordinary
    decide
  receiver := by
    rw [hwrite.receiver_toggled]
    exact ne_shortestSink hdevice
  header := by
    show sizeofConnPacketHeader ≤ (BitVec.ofNat 16 (sizeofConnPacketModule + 2)).toNat
    decide

/-- The module of the node that the write is for acts once, and no other module acts. -/
theorem acted_eq [Fintype V] (htree : HandshakenTree start) (hquiet : start.Quiet)
    (hunreceived : ∀ v, start.received v = [])
    (hids : ∀ v, 1 ≤ (start.node v).nodeId.toNat ∧ (start.node v).nodeId.toNat ≤ 19999)
    (hdistinct : ∀ v u, (start.node v).nodeId = (start.node u).nodeId → v = u)
    (hwrite : ToggleWrite packet (start.node target).nodeId value)
    (hrun : Net.Run Deliveries (start.originate gateway (some inConnection) (toggled packet))
      events net) (hend : net.Quiet) (v : V) :
    net.acted v = if v = target then [value] else [] := by
  have hdevice : (start.node target).nodeId.toNat ≤ 19999 := (hids target).2
  have h := hwrite.originates hdevice htree hquiet hunreceived
  have hcount := h.received_addressed hids hdistinct hwrite.receiver_toggled hrun hend v
  unfold Net.acted
  by_cases hv : v = target
  · subst hv
    rw [if_pos rfl] at hcount
    obtain ⟨message, hmessage⟩ := List.length_eq_one_iff.mp hcount
    have htoggle := (carries_toggle hquiet hunreceived hwrite hdevice hrun).received v message
      (by rw [hmessage]; exact List.mem_singleton_self _)
    rw [if_pos rfl, hmessage, (h.sameLinks_run hrun v).nodeId, List.filterMap_cons,
      htoggle.dataValue_eq hdevice]
    rfl
  · rw [if_neg hv] at hcount
    rw [if_neg hv, List.length_eq_zero_iff.mp hcount]
    rfl

end Run

/-- **Toggling a light.**  In a tree of handshaken links, a phone on the incoming connection
of a node writes the id of a node and a value.  The light toggle module of that node acts
once, on the value, which switches its relay on or off or leaves it as it is; the modules of
all other nodes do nothing; and after fewer deliveries than there are nodes nothing is on its
way any more. -/
theorem light_toggled [Fintype V] {start net : Net V} {gateway target : V}
    {packet : ConnectionPacket} {value : U8} {events : List (Event V)}
    (htree : HandshakenTree start) (hquiet : start.Quiet) (hunreceived : ∀ v, start.received v = [])
    (hids : ∀ v, 1 ≤ (start.node v).nodeId.toNat ∧ (start.node v).nodeId.toNat ≤ 19999)
    (hdistinct : ∀ v u, (start.node v).nodeId = (start.node u).nodeId → v = u)
    (hphone : PhoneOn start gateway)
    (hwrite : ToggleWrite packet (start.node target).nodeId value)
    (hrun : Net.Run Deliveries (start.phoneWrites gateway packet) events net) :
    (net.Quiet → ∀ v, net.acted v = if v = target then [value] else []) ∧
    (net.Quiet → ∀ initially v, (net.outputs initially v).relay =
      if v = target ∧ value = 255 then true
      else if v = target ∧ value = 0 then false
      else (initially v).relay) ∧
    events.length < Fintype.card V ∧
    ∃ more net', Net.Run Deliveries (start.phoneWrites gateway packet) (events ++ more) net' ∧
      net'.Quiet := by
  have hdevice : (start.node target).nodeId.toNat ≤ 19999 := (hids target).2
  have h := hwrite.originates hdevice htree hquiet hunreceived
  rw [phoneWrites_eq htree.wired hphone hwrite hdevice (not_broadcast hids target).symm] at hrun ⊢
  have hacted : net.Quiet → ∀ v, net.acted v = if v = target then [value] else [] :=
    acted_eq htree hquiet hunreceived hids hdistinct hwrite hrun
  refine ⟨hacted, ?_, h.terminates hrun⟩
  intro hend initially v
  rw [net.outputs_eq, hacted hend]
  by_cases hv : v = target
  · simp only [hv, if_true, true_and, List.foldl_cons, List.foldl_nil]
    exact LightToggleModule.act_relay value _
  · simp only [hv, if_false, false_and, List.foldl_nil]

/-- The mesh with a phone on the incoming connection of a node. -/
def Net.withPhone (net : Net V) (gateway : V) : Net V :=
  { net with
    node := Function.update net.node gateway ((net.node gateway).setConnection inConnection
      { net.connection gateway inConnection with
        isConnected := true
        handshakeDone := true
        partnerId := bleNodeId + 1 }) }

theorem HandshakenTree.withPhone {net : Net V} (h : HandshakenTree net) {gateway : V}
    (hunlinked : net.peer gateway inConnection = none) :
    HandshakenTree (net.withPhone gateway) := by
  -- the links of the mesh are on other connections
  have hkept : ∀ v i, net.peer v i ≠ none →
      (net.withPhone gateway).connection v i = net.connection v i := by
    intro v i hlinked
    by_cases hv : v = gateway
    · subst hv
      have hi : i ≠ inConnection := by
        rintro rfl
        exact hlinked hunlinked
      simp [Net.withPhone, Net.connection, hi]
    · simp [Net.withPhone, Net.connection, hv]
  refine ⟨h.wired, h.tree, ?_, ?_⟩
  · intro v i hlinked
    rw [hkept v i hlinked]
    exact h.isConnected v i hlinked
  · intro v i hlinked
    rw [hkept v i hlinked]
    exact h.handshakeDone v i hlinked

/-- A phone at one end of a chain of three switches the light at the other end on. -/
theorem light_toggled_chain :
    let packet : ConnectionPacket := ⟨overwrite (fun _ => 0) 0 [78, 3, 0, 255], 4, true⟩
    let events : List (Event (Fin 3)) :=
      [.deliver 1 inConnection fun _ => 0, .deliver 2 inConnection fun _ => 0]
    let net := events.foldl Net.apply (((chain 3 (numbered 3)).withPhone 0).phoneWrites 0 packet)
    net.acted 2 = [255] := by
  intro packet events net
  have hrun : Net.Run Deliveries (((chain 3 (numbered 3)).withPhone 0).phoneWrites 0 packet)
      events net := Net.Run.of_replays (by decide)
  have hphone : PhoneOn ((chain 3 (numbered 3)).withPhone 0) 0 :=
    ⟨by decide, by decide, by decide, by decide⟩
  have hwrite : ToggleWrite packet (((chain 3 (numbered 3)).withPhone 0).node 2).nodeId 255 :=
    ⟨by decide, by decide, by decide, by decide, by decide, by decide⟩
  exact (light_toggled ((chain_handshakenTree 2 (numbered 3)).withPhone (by decide))
    (by decide) (by decide) (by decide) (by decide) hphone hwrite hrun).1 (by decide) 2

end FruityMesh.Mesh
