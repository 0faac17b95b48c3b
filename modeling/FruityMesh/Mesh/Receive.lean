import FruityMesh.Mesh.Net

/-!
# What a handler reads and sends

The header of a packet survives the way to the other end (`type_arrive`, `sender_arrive`,
`receiver_arrive`) and all that a relay does to a packet, except that a relay changes some
sender ids (`decremented`).

`receive_ordinary` says what `ReceivePacketHandler` does with a packet that is neither a
part of the handshake nor a packet of a phone, and not on its way to the shortest sink.
-/

namespace FruityMesh.Mesh

open Cells LittleEndian Transport
open Node (relayed)

/-! ## Fields in memory -/

theorem u16At_congr {first second : ℕ → U8} {offset : ℕ} (h0 : first offset = second offset)
    (h1 : first (offset + 1) = second (offset + 1)) : u16At first offset = u16At second offset := by
  have hread : read first offset 2 = read second offset 2 := by
    simp only [read_succ, h0, h1]
    rfl
  unfold u16At fieldAt
  rw [hread]

theorem u32At_congr {first second : ℕ → U8} {offset : ℕ}
    (h : ∀ k < 4, first (offset + k) = second (offset + k)) :
    u32At first offset = u32At second offset := by
  have hread : read first offset 4 = read second offset 4 := by
    apply List.map_congr_left
    intro k hk
    exact h k (List.mem_range.mp hk)
  unfold u32At fieldAt
  rw [hread]

theorem u16At_overwrite (data : ℕ → U8) (offset : ℕ) (value : U16) :
    u16At (overwrite data offset (u16Bytes value)) offset = value :=
  u16At_eq (holds_overwrite data offset _)

theorem overwrite_u16Bytes (data : ℕ → U8) {offset k : ℕ} (value : U16)
    (h : k < offset ∨ offset + 2 ≤ k) : overwrite data offset (u16Bytes value) k = data k := by
  rcases h with h | h
  · exact overwrite_of_lt data _ h
  · exact overwrite_of_ge data (by rw [length_u16Bytes]; exact h)

/-! ## A packet that arrives -/

section Arrive

variable {message : Message} {behind : ℕ → U8}

theorem arrive_dataLength (h : message.bytes.length < 2 ^ 16) :
    (arrive message behind).dataLength.toNat = message.bytes.length := by
  simp only [arrive, BitVec.toNat_ofNat]
  exact Nat.mod_eq_of_lt h

theorem type_arrive : messageTypeAt (arrive message behind).data = typeOf message := by
  have hfirst := (holds_cons.mp (holds_overwrite behind 0
    (firstByte (maxDataSizePerWrite < message.bytes.length) (typeOf message) ::
      (transmitted message).drop 1))).1
  calc messageTypeAt (arrive message behind).data
      = messageTypeOf (firstByte (maxDataSizePerWrite < message.bytes.length) (typeOf message)) :=
        congrArg messageTypeOf hfirst
    _ = typeOf message := messageTypeOf_firstByte _ _

/-- A byte that is transmitted arrives. -/
theorem arrive_data {k : ℕ} (hpos : 0 < k) (hk : k < message.bytes.length)
    (hkept : k < 7 ∨ typeOf message ≠ messageTypeUpdateTimestamp) :
    (arrive message behind).data k = memory message k := by
  have hlength : k < (transmitted message).length := by
    unfold transmitted
    split_ifs with htype
    · rw [List.length_take]
      have := hkept.resolve_right (not_not_intro htype)
      omega
    · exact hk
  have hbyte : (transmitted message)[k] = message.bytes[k] := by
    simp only [transmitted]
    split_ifs
    · rw [List.getElem_take]
    · rfl
  obtain ⟨l, rfl⟩ : ∃ l, k = l + 1 := ⟨k - 1, by omega⟩
  have hcell := holds_overwrite behind 0
    (firstByte (maxDataSizePerWrite < message.bytes.length) (typeOf message) ::
      (transmitted message).drop 1) (l + 1) (by simp; omega)
  rw [Nat.zero_add] at hcell
  simp only [arrive, hcell, memory, List.getElem_cons_succ, List.getElem_drop,
    List.getD_eq_getElem _ _ hk]
  rw [← hbyte]
  congr 1
  omega

/-- Behind the packet lies what the memory held before. -/
theorem arrive_behind {k : ℕ} (hpos : 0 < k) (hk : message.bytes.length ≤ k) :
    (arrive message behind).data k = behind k := by
  have hlength : (transmitted message).length ≤ message.bytes.length := by
    unfold transmitted
    split_ifs
    · rw [List.length_take]
      exact Nat.min_le_right _ _
    · exact Nat.le_refl _
  show overwrite behind 0 _ k = behind k
  apply overwrite_of_ge
  rw [List.length_cons, List.length_drop]
  omega

theorem sender_arrive (h : 3 ≤ message.bytes.length) :
    senderAt (arrive message behind).data = senderOf message :=
  u16At_congr (arrive_data (by omega) (by omega) (Or.inl (by omega)))
    (arrive_data (by omega) (by omega) (Or.inl (by omega)))

theorem receiver_arrive (h : 5 ≤ message.bytes.length) :
    receiverAt (arrive message behind).data = receiverOf message :=
  u16At_congr (arrive_data (by omega) (by omega) (Or.inl (by omega)))
    (arrive_data (by omega) (by omega) (Or.inl (by omega)))

end Arrive

/-! ## A packet that is sent on -/

section Sent

variable {data : ℕ → U8} {length : ℕ} {reliable : Bool}

theorem memory_read {k : ℕ} (h : k < length) :
    memory ⟨read data 0 length, reliable⟩ k = data k := by
  have hk : k < (read data 0 length).length := by rwa [length_read]
  have hcell := holds_read data 0 length k hk
  rw [Nat.zero_add] at hcell
  rw [memory, List.getD_eq_getElem _ _ hk, hcell]

theorem typeOf_read (h : 0 < length) :
    typeOf ⟨read data 0 length, reliable⟩ = messageTypeAt data := by
  unfold typeOf messageTypeAt
  rw [memory_read h]

theorem senderOf_read (h : 3 ≤ length) :
    senderOf ⟨read data 0 length, reliable⟩ = senderAt data :=
  u16At_congr (memory_read (by omega)) (memory_read (by omega))

theorem receiverOf_read (h : 5 ≤ length) :
    receiverOf ⟨read data 0 length, reliable⟩ = receiverAt data :=
  u16At_congr (memory_read (by omega)) (memory_read (by omega))

/-- What a relay makes of a sender id. -/
def decremented (sender : NodeId) : NodeId :=
  if nodeIdHopsBase.toNat < sender.toNat ∧ sender.toNat < nodeIdHopsBase.toNat + 31000 then
    sender - 1
  else sender

/-- A relay changes the sender and the hops of a packet, and nothing else. -/
theorem relayed_data {k : ℕ} (hsender : k < 1 ∨ 3 ≤ k) (hhops : k < 17 ∨ 19 ≤ k) :
    relayed data k = data k := by
  have hset : ∀ data' sender, setSender data' sender k = data' k :=
    fun data' sender => overwrite_u16Bytes data' sender hsender
  unfold relayed
  split_ifs
  · rw [hset, overwrite_u16Bytes _ _ hhops]
  · exact overwrite_u16Bytes _ _ hhops
  · exact hset _ _
  · rfl

theorem type_relayed : messageTypeAt (relayed data) = messageTypeAt data := by
  unfold messageTypeAt
  rw [relayed_data (by omega) (by omega)]

theorem receiver_relayed : receiverAt (relayed data) = receiverAt data :=
  u16At_congr (relayed_data (by omega) (by omega)) (relayed_data (by omega) (by omega))

theorem sender_relayed : senderAt (relayed data) = decremented (senderAt data) := by
  have hkept : ∀ value, senderAt (overwrite data 17 (u16Bytes value)) = senderAt data :=
    fun value => u16At_congr (overwrite_u16Bytes _ _ (by omega)) (overwrite_u16Bytes _ _ (by omega))
  have hchanged : ∀ data', senderAt data' = senderAt data →
      senderAt (if nodeIdHopsBase.toNat < (senderAt data').toNat ∧
          (senderAt data').toNat < nodeIdHopsBase.toNat + 31000 then
        setSender data' (senderAt data' - 1) else data') = decremented (senderAt data) := by
    intro data' hsame
    rw [hsame]
    unfold decremented
    split_ifs
    · exact u16At_overwrite data' 1 _
    · exact hsame
  unfold relayed
  apply hchanged
  split_ifs
  · exact hkept _
  · rfl

end Sent

/-! ## A packet of the phone -/

section Phone

open Node (toggleLight targetNodeId)

theorem messageTypeAt_setMessageType (data : ℕ → U8) (messageType : MessageType) :
    messageTypeAt (setMessageType data messageType) = messageType := by
  have hfirst := (holds_cons.mp (holds_overwrite data 0
    [firstByte (hasMorePartsOf (data 0)) messageType])).1
  calc messageTypeAt (setMessageType data messageType)
      = messageTypeOf (firstByte (hasMorePartsOf (data 0)) messageType) :=
        congrArg messageTypeOf hfirst
    _ = messageType := messageTypeOf_firstByte _ _

theorem messageTypeAt_toggleLight (data : ℕ → U8) :
    messageTypeAt (toggleLight data) = messageTypeLightToggle := by
  have hvalue : toggleLight data 0 = setSender (setReceiver (setMessageType data
      messageTypeLightToggle) (targetNodeId data)) (bleNodeId + 1) 0 :=
    overwrite_of_lt _ _ (by decide)
  have hsender : ∀ data' sender, setSender data' sender 0 = data' 0 :=
    fun data' sender => overwrite_of_lt data' _ (by decide)
  have hreceiver : ∀ data' receiver, setReceiver data' receiver 0 = data' 0 :=
    fun data' receiver => overwrite_of_lt data' _ (by decide)
  unfold messageTypeAt
  rw [hvalue, hsender, hreceiver]
  exact messageTypeAt_setMessageType data messageTypeLightToggle

/-- A node that has a phone as the partner of its incoming connection looks there for it. -/
theorem phoneConnected_of_partnerId {node : Node}
    (h : (node.connections inConnection).partnerId = bleNodeId ∨
      (node.connections inConnection).partnerId = bleNodeId + 1) : node.phoneConnected = true :=
  List.any_eq_true.mpr ⟨inConnection, List.mem_finRange _, decide_eq_true ⟨by decide, h⟩⟩

theorem phoneConnected_congr {node node' : Node}
    (h : ∀ i, (node'.connections i).partnerId = (node.connections i).partnerId) :
    node'.phoneConnected = node.phoneConnected := by
  unfold Node.phoneConnected
  simp only [h]

end Phone

/-! ## The actions of a handler -/

section Actions

variable {first second : List Action}

theorem sends_append (first second : List Action) (i : Slot) :
    sends (first ++ second) i = sends first i ++ sends second i := by
  simp [sends, List.filterMap_append]

theorem handled_append (first second : List Action) :
    handled (first ++ second) = handled first ++ handled second := by
  simp [handled, List.filterMap_append]

@[simp] theorem sends_nil (i : Slot) : sends [] i = [] := rfl

@[simp] theorem handled_nil : handled [] = [] := rfl

@[simp] theorem sends_messageReceived (message : Message) (actions : List Action) (i : Slot) :
    sends (.messageReceived message :: actions) i = sends actions i := rfl

@[simp] theorem handled_messageReceived (message : Message) (actions : List Action) :
    handled (.messageReceived message :: actions) = message :: handled actions := rfl

@[simp] theorem sends_disconnect (i j : Slot) (actions : List Action) :
    sends (.disconnect i :: actions) j = sends actions j := rfl

@[simp] theorem handled_disconnect (i : Slot) (actions : List Action) :
    handled (.disconnect i :: actions) = handled actions := rfl

@[simp] theorem sends_queuePacket (message : Message) (i j : Slot) (actions : List Action) :
    sends (.queuePacket i message :: actions) j =
      if i = j then message :: sends actions j else sends actions j := by
  by_cases h : i = j <;> simp [sends, Action.queued, h]

@[simp] theorem handled_queuePacket (message : Message) (i : Slot) (actions : List Action) :
    handled (.queuePacket i message :: actions) = handled actions := rfl

/-- In a loop over the connections, each connection gets what the loop queues on it. -/
theorem sends_loop (message : Slot → Option Message) (i : Slot) :
    sends ((List.finRange meshMaxConnections).filterMap fun j =>
      (message j).map fun m => .queuePacket j m) i = (message i).toList := by
  have hterm : ∀ j, ((message j).map fun m => Action.queuePacket j m).bind (Action.queued i) =
      if j = i then message i else none := by
    intro j
    cases hj : message j with
    | none =>
        by_cases hji : j = i
        · subst hji
          simp [hj]
        · simp [hji]
    | some m =>
        by_cases hji : j = i
        · subst hji
          simp [hj, Action.queued]
        · simp [hji, Action.queued]
  unfold sends
  rw [List.filterMap_filterMap]
  simp only [hterm]
  -- the slot comes up once in the loop
  have hone : ∀ l : List Slot, l.Nodup → i ∈ l →
      l.filterMap (fun j => if j = i then message i else none) = (message i).toList := by
    intro l hnodup hmem
    obtain ⟨before, behind, rfl⟩ := List.append_of_mem hmem
    have hni := List.nodup_append.mp hnodup
    have hout : ∀ l' : List Slot, i ∉ l' →
        l'.filterMap (fun j => if j = i then message i else none) = [] := by
      intro l' hnot
      apply List.filterMap_eq_nil_iff.mpr
      intro j hj
      have hji : j ≠ i := fun heq => hnot (heq ▸ hj)
      exact if_neg hji
    have hbefore : i ∉ before := fun h => hni.2.2 i h i List.mem_cons_self rfl
    have hbehind : i ∉ behind := (List.nodup_cons.mp hni.2.1).1
    rw [List.filterMap_append, hout before hbefore, List.filterMap_cons, hout behind hbehind]
    cases h : message i <;> simp
  exact hone _ (List.nodup_finRange _) (List.mem_finRange i)

theorem handled_loop (message : Slot → Option Message) :
    handled ((List.finRange meshMaxConnections).filterMap fun j =>
      (message j).map fun m => .queuePacket j m) = [] := by
  unfold handled
  rw [List.filterMap_filterMap]
  apply List.filterMap_eq_nil_iff.mpr
  intro j _
  cases message j <;> rfl

theorem closes_loop (message : Slot → Option Message) (i : Slot) :
    closes ((List.finRange meshMaxConnections).filterMap fun j =>
      (message j).map fun m => .queuePacket j m) i = false := by
  rw [closes, List.contains_eq_mem, decide_eq_false_iff_not]
  intro hmem
  obtain ⟨j, _, hj⟩ := List.mem_filterMap.mp hmem
  obtain ⟨m, _, hm⟩ := Option.map_eq_some_iff.mp hj
  exact absurd hm (by simp)

namespace Node

variable (node : Node)

theorem sendMessageOverConnections_eq (ignoreConnection : Option Slot) (message : Message) :
    node.sendMessageOverConnections ignoreConnection message =
      (List.finRange meshMaxConnections).filterMap fun i =>
        (if some i ≠ ignoreConnection ∧ (node.connections i).handshakeDone then some message
          else none).map fun m => .queuePacket i m := by
  unfold sendMessageOverConnections
  congr 1
  funext i
  split_ifs <;> rfl

theorem sends_sendMessageOverConnections (ignoreConnection : Option Slot) (message : Message)
    (i : Slot) :
    sends (node.sendMessageOverConnections ignoreConnection message) i =
      if some i ≠ ignoreConnection ∧ (node.connections i).handshakeDone then [message] else [] := by
  rw [sendMessageOverConnections_eq, sends_loop]
  split_ifs <;> rfl

@[simp] theorem handled_sendMessageOverConnections (ignoreConnection : Option Slot)
    (message : Message) :
    handled (node.sendMessageOverConnections ignoreConnection message) = [] := by
  rw [sendMessageOverConnections_eq, handled_loop]

@[simp] theorem closes_sendMessageOverConnections (ignoreConnection : Option Slot)
    (message : Message) (i : Slot) :
    closes (node.sendMessageOverConnections ignoreConnection message) i = false := by
  rw [sendMessageOverConnections_eq, closes_loop]

end Node

end Actions

/-! ## An ordinary packet -/

/-- The connections of a node that decide where its packets go. -/
structure SameLinks (node node' : Node) : Prop where
  nodeId : node'.nodeId = node.nodeId
  deviceType : node'.deviceType = node.deviceType
  isConnected : ∀ i, (node'.connections i).isConnected = (node.connections i).isConnected
  handshakeDone : ∀ i, (node'.connections i).handshakeDone = (node.connections i).handshakeDone

theorem SameLinks.refl (node : Node) : SameLinks node node :=
  ⟨rfl, rfl, fun _ => rfl, fun _ => rfl⟩

/-- The packet is neither a part of the handshake nor from a phone. -/
def Ordinary (messageType : MessageType) : Prop :=
  messageType ≠ messageTypeClusterWelcome ∧ messageType ≠ messageTypeClusterAck1 ∧
    messageType ≠ messageTypeClusterAck2 ∧ messageType ≠ messageTypeUartWrite

namespace Node

variable (node : Node)

@[simp] theorem setConnection_connections (i j : Slot) (c : Connection) :
    (node.setConnection i c).connections j = if j = i then c else node.connections j := by
  unfold setConnection
  simp only [Function.update_apply]

theorem sameLinks_updateClusterInfo (i : Slot) (packet : ConnPacketClusterInfoUpdate) :
    SameLinks node (node.updateClusterInfo i packet) := by
  unfold updateClusterInfo
  refine ⟨?_, ?_, ?_, ?_⟩
  · split_ifs <;> rfl
  · split_ifs <;> rfl
  · intro j
    by_cases hj : j = i
    · subst hj
      split_ifs <;> simp
    · split_ifs <;> simp [hj]
  · intro j
    by_cases hj : j = i
    · subst hj
      split_ifs <;> simp
    · split_ifs <;> simp [hj]

theorem sameLinks_messageReceivedCallback (connection : Option Slot) (data : ℕ → U8)
    (dataLength : U16) : SameLinks node (node.messageReceivedCallback connection data dataLength) := by
  unfold messageReceivedCallback
  split_ifs
  · cases connection with
    | none => exact SameLinks.refl node
    | some i => exact node.sameLinks_updateClusterInfo i _
  · exact SameLinks.refl node

/-- Routing leaves the type and the receiver of a packet as they are. -/
theorem route_header (i : Slot) (data : ℕ → U8) (dataLength : U16) (reliable : Bool) :
    messageTypeAt (node.route i data dataLength reliable).1 = messageTypeAt data ∧
      receiverAt (node.route i data dataLength reliable).1 = receiverAt data := by
  unfold route
  split_ifs
  · exact ⟨rfl, rfl⟩
  · exact ⟨rfl, rfl⟩
  · exact ⟨type_relayed, receiver_relayed⟩

/-- What `ReceivePacketHandler` does with an ordinary packet: it routes the packet, and hands
it to the node if the node cares for it. -/
theorem receive_routed {i : Slot} {packet : ConnectionPacket}
    (htype : Ordinary (messageTypeAt packet.data)) :
    let routed := node.route i packet.data packet.dataLength packet.reliable
    node.receivePacketHandler i packet =
      (if node.caresFor (receiverAt packet.data) then
          node.messageReceivedCallback (some i) routed.1 packet.dataLength
        else node,
        routed.2 ++
          (if node.caresFor (receiverAt packet.data) then
            [.messageReceived ⟨read routed.1 0 packet.dataLength.toNat, packet.reliable⟩]
          else [])) := by
  obtain ⟨hwelcome, hack1, hack2, huart⟩ := htype
  obtain ⟨htype', hreceiver⟩ := node.route_header i packet.data packet.dataLength packet.reliable
  rw [receivePacketHandler, if_neg huart, routeAndProcess]
  simp only [process, htype', if_neg hwelcome, if_neg hack1, if_neg hack2, hreceiver]
  split_ifs <;> rfl

/-- What `ReceivePacketHandler` does with an ordinary packet that is not on its way to the
shortest sink. -/
theorem receive_ordinary {i : Slot} {packet : ConnectionPacket}
    (htype : Ordinary (messageTypeAt packet.data))
    (hsink : receiverAt packet.data ≠ nodeIdShortestSink) :
    let data := if node.lastReceiver (receiverAt packet.data) then packet.data
      else relayed packet.data
    node.receivePacketHandler i packet =
      (if node.caresFor (receiverAt packet.data) then
          node.messageReceivedCallback (some i) data packet.dataLength
        else node,
        (if node.lastReceiver (receiverAt packet.data) then []
          else node.sendMessageOverConnections (some i)
            ⟨read (relayed packet.data) 0 packet.dataLength.toNat, packet.reliable⟩) ++
          (if node.caresFor (receiverAt packet.data) then
            [.messageReceived ⟨read data 0 packet.dataLength.toNat, packet.reliable⟩]
          else [])) := by
  rw [node.receive_routed htype]
  simp only [route, if_neg hsink]
  split_ifs <;> rfl

end Node

end FruityMesh.Mesh
