import FruityMesh.Mesh.HopTables

/-!
# Right tables

Every event of a run in which a tree is built, and everything is told in time, leaves the two
ends of each link in agreement (`Agreeing.step`).  When nothing is on its way any more, each end
has recorded one more than what the other one tells, and this is the distance to the nearest
sink (`tables_right`).

In a chain that a sink joins at its end, the others learn of it from UPDATEs, and record too many
hops (`tables_wrong`).
-/

namespace FruityMesh.Mesh

open Cells LittleEndian Transport Ports SimpleGraph
open Node (relayed readUpdate relayedUpdate zeros)

/-! ## The handlers -/

/-- The upper byte of a number has its sign. -/
theorem u16At_neg {data : ℕ → U8} {offset : ℕ} (h : 128 ≤ (data (offset + 1)).toNat) :
    (u16At data offset).toInt < 0 := by
  have hvalue : (u16At data offset).toNat =
      (data offset).toNat + 256 * (data (offset + 1)).toNat := by
    have hlow := (data offset).isLt
    have hhigh := (data (offset + 1)).isLt
    have hread : read data offset 2 = [data offset, data (offset + 1)] := rfl
    simp only [u16At, fieldAt, hread, decode, BitVec.toNat_ofNat]
    omega
  apply BitVec.toInt_neg_iff.mpr
  omega

namespace Node

variable {node : Node} {i : Slot} {message : Message} {behind : ℕ → U8}

/-- An UPDATE tells of no sink if the byte behind it has the sign. -/
theorem readUpdate_neg (h : IsUpdate message) (hbehind : 128 ≤ (behind 18).toNat) :
    (readUpdate message behind).hopsToSink.toInt < 0 := by
  have hlength : message.bytes.length = 18 := h.length
  have hbyte : (arrive message behind).data 18 = behind 18 := arrive_behind (by omega) (by omega)
  have hneg : (u16At (arrive message behind).data 17).toInt < 0 := by
    apply u16At_neg
    rwa [hbyte]
  have hkept : (readUpdate message behind).hopsToSink = u16At (arrive message behind).data 17 := by
    -- a negative number is relayed as it is
    have hhops : ¬ -1 < (ConnPacketClusterInfoUpdate.ofMemory
        (arrive message behind).data).hopsToSink.toInt := by
      have hle : (u16At (arrive message behind).data 17).toInt ≤ -1 := by omega
      exact not_lt.mpr hle
    show u16At (relayed (arrive message behind).data) 17 = _
    unfold relayed
    simp only [hhops, and_false, if_false]
    split_ifs
    · exact u16At_congr (overwrite_u16Bytes _ _ (by omega)) (overwrite_u16Bytes _ _ (by omega))
    · rfl
  rwa [hkept]

theorem updateClusterInfo_hops (packet : ConnPacketClusterInfoUpdate) :
    ((node.updateClusterInfo i packet).connections i).hopsToSink = hopsBehind packet.hopsToSink ∧
      ((node.updateClusterInfo i packet).connections i).partnerId =
        (node.connections i).partnerId := by
  unfold updateClusterInfo
  split_ifs
  · exact ⟨by simp, by simp⟩
  · exact ⟨by simp, by simp⟩

theorem startHandshake_silent (node : Node) {l : Slot} {m : Message}
    (hm : m ∈ sends (node.startHandshake i) l) : typeOf m ≠ messageTypeClusterAck1 := by
  by_cases hl : l = i
  · subst hl
    rcases node.sends_startHandshake_self l with hnil | ⟨welcome, hone, hwelcome⟩
    · rw [hnil] at hm
      exact absurd hm List.not_mem_nil
    · rw [hone] at hm
      rw [List.mem_singleton.mp hm, hwelcome.type]
      decide
  · rw [node.sends_startHandshake i l hl] at hm
    exact absurd hm List.not_mem_nil

theorem connected_silent (l : Slot) (m : Message)
    (hm : m ∈ sends (node.connectionSuccessfulHandler i).2 l) :
    typeOf m ≠ messageTypeClusterAck1 := by
  unfold connectionSuccessfulHandler at hm
  dsimp only at hm
  split_ifs at hm
  · exact absurd hm List.not_mem_nil
  · exact startHandshake_silent _ hm

/-- A node that does not join leaves its tables as they are, and sends no ACK_1. -/
theorem welcome_stays {packet : ConnPacketClusterWelcome} (h : ¬ node.Joins packet) :
    ((node.receiveClusterWelcome i packet).1.connections i).hopsToSink =
        (node.connections i).hopsToSink ∧
      ((node.receiveClusterWelcome i packet).1.connections i).partnerId =
        (node.connections i).partnerId ∧
      ∀ l m, m ∈ sends (node.receiveClusterWelcome i packet).2 l →
        typeOf m ≠ messageTypeClusterAck1 := by
  unfold receiveClusterWelcome
  dsimp only
  split_ifs with hsame hbigger hin
  · exact ⟨by simp, by simp, fun l m hm => absurd hm List.not_mem_nil⟩
  · exact ⟨by simp, by simp, fun l m hm => startHandshake_silent _ hm⟩
  · exact ⟨by simp, by simp, fun l m hm => absurd hm List.not_mem_nil⟩
  · exact absurd ⟨hsame, Bool.eq_false_of_not_eq_true hbigger⟩ h

/-- A node that joins tells in the ACK_1 what it knows from its other connections. -/
theorem welcome_joins {packet : ConnPacketClusterWelcome} (h : node.Joins packet) :
    ((node.receiveClusterWelcome i packet).1.connections i).partnerId = packet.header.sender ∧
      (∃ ack, sends (node.receiveClusterWelcome i packet).2 i = [ack] ∧
        typeOf ack = messageTypeClusterAck1 ∧
          hopsOfAck1 ack = node.getHopsToShortestSink (some i)) ∧
      ∀ l, l ≠ i → sends (node.receiveClusterWelcome i packet).2 l = [] := by
  obtain ⟨hdiffers, hsmaller⟩ := h
  unfold receiveClusterWelcome
  simp only [if_neg hdiffers, hsmaller, Bool.false_eq_true, if_false]
  refine ⟨by simp, ?_, ?_⟩
  · rw [sends_append, sends_disconnectOtherConnections, sends_sendMessage, if_pos rfl]
    refine ⟨_, rfl, (isAck1_sent _ rfl rfl rfl).type, ?_⟩
    rw [hopsOfAck1_sent]
    exact getHopsToShortestSink_congr rfl fun k hk => by simp [hk]
  · intro l hl
    rw [sends_append, sends_disconnectOtherConnections, sends_sendMessage, if_neg hl.symm]
    rfl

theorem ack1_hops (packet : ConnPacketClusterAck1) :
    ((node.receiveClusterAck1 i packet).1.connections i).hopsToSink = hopsBehind packet.hopsToSink ∧
      ((node.receiveClusterAck1 i packet).1.connections i).partnerId = packet.header.sender := by
  unfold receiveClusterAck1
  exact ⟨by simp, by simp⟩

/-- After an ACK_1 the other partners are told with an UPDATE. -/
theorem ack1_sends (packet : ConnPacketClusterAck1) :
    (∀ l m, m ∈ sends (node.receiveClusterAck1 i packet).2 l → typeOf m ≠ messageTypeClusterAck1) ∧
      ∀ l, l ≠ i → (node.connections l).handshakeDone = true →
        ∃ m ∈ sends (node.receiveClusterAck1 i packet).2 l,
          typeOf m = messageTypeClusterInfoUpdate := by
  have hsame : ∀ l, l ≠ i →
      ((node.receiveClusterAck1 i packet).1.connections l).handshakeDone =
        (node.connections l).handshakeDone := by
    intro l hl
    simp [receiveClusterAck1, hl]
  have hsends : ∀ l, sends (node.receiveClusterAck1 i packet).2 l =
      (if l = i ∨ ¬ ((node.receiveClusterAck1 i packet).1.connections l).handshakeDone then []
        else [(node.receiveClusterAck1 i packet).1.announcement
          (node.receiveClusterAck1 i packet).1.clusterId 0 1 l]) ++
        sends [sendMessage i (.clusterAck2 {
          header := (node.receiveClusterAck1 i packet).1.packetHeader messageTypeClusterAck2
            packet.header.sender
          clusterId := (node.receiveClusterAck1 i packet).1.clusterId
          clusterSize := (node.receiveClusterAck1 i packet).1.clusterSize })] l := by
    intro l
    rw [← sends_sendClusterInfoUpdate, ← sends_append]
    rfl
  constructor
  · intro l m hm
    rw [hsends, List.mem_append] at hm
    rcases hm with hm | hm
    · split_ifs at hm
      · exact absurd hm List.not_mem_nil
      · rw [List.mem_singleton.mp hm, (isUpdate_announcement _ _ _ _ l).type]
        decide
    · rw [sends_sendMessage] at hm
      split_ifs at hm
      · rw [List.mem_singleton.mp hm, (isAck2_sent _ rfl rfl).type]
        decide
      · exact absurd hm List.not_mem_nil
  · intro l hl hdone
    rw [← hsame l hl] at hdone
    have hnot : ¬ (l = i ∨
        ¬ ((node.receiveClusterAck1 i packet).1.connections l).handshakeDone = true) := by
      rintro (heq | hundone)
      · exact hl heq
      · exact hundone hdone
    rw [hsends, if_neg hnot]
    exact ⟨_, List.mem_append_left _ (List.mem_singleton_self _),
      (isUpdate_announcement _ _ _ _ l).type⟩

theorem ack2_hops (packet : ConnPacketClusterAck2) :
    ((node.receiveClusterAck2 i packet).connections i).hopsToSink =
        (node.connections i).hopsToSink ∧
      ((node.receiveClusterAck2 i packet).connections i).partnerId =
        (node.connections i).partnerId := by
  unfold receiveClusterAck2
  exact ⟨by simp, by simp⟩

/-- No packet changes what kind of device a node is. -/
theorem receivePacketHandler_deviceType (node : Node) (packet : ConnectionPacket) :
    (node.receivePacketHandler i packet).1.deviceType = node.deviceType := by
  have hwelcome : ∀ (node : Node) packet,
      (node.receiveClusterWelcome i packet).1.deviceType = node.deviceType := by
    intro node packet
    unfold receiveClusterWelcome
    dsimp only
    split_ifs <;> rfl
  have hprocess : ∀ (node : Node) data dataLength,
      (node.process i data dataLength packet).1.deviceType = node.deviceType := by
    intro node data dataLength
    unfold process
    split_ifs
    · exact hwelcome node _
    · rfl
    · rfl
    · rfl
    · rfl
    · rfl
    · exact (node.sameLinks_messageReceivedCallback _ _ _).deviceType
    · rfl
  unfold receivePacketHandler
  split_ifs
  · unfold receiveToggle
    dsimp only
    split_ifs
    · exact (node.sameLinks_messageReceivedCallback _ _ _).deviceType
    · rfl
  · exact hprocess _ _ _
  · exact hprocess _ _ _
  · exact hprocess _ _ _

end Node

/-! ## The events -/

namespace Net

variable {V : Type*} {net net' : Net V} {v : V} {i : Slot}

/-- A node without another partner has no other connection with a handshake. -/
theorem Agreeing.single (h : Agreeing net) (halone : ∀ k, k ≠ i → (net.connection v k).partnerId = 0) :
    net.Single v i := by
  intro k hk
  by_contra hdone
  exact h.partner v k (by simpa using hdone) (halone k hk)

section Events

variable [DecidableEq V]

section Deliver

variable {message : Message} {rest : List Message} {u : V} {j : Slot} {memory : ℕ → U8}

/-- An UPDATE that tells of no sink, over a link behind which there is none. -/
theorem Agreeing.deliver_update (h : Agreeing net) (hinbox : net.inbox v i = message :: rest)
    (hpaired : Paired (net.handling v i rest
      ((net.node v).receivePacketHandler i (arrive message memory))))
    (hdone : (net.connection v i).handshakeDone = true) (hpeer : net.peer v i = some (u, j))
    (hnone : (net.told u j).toInt < 0) (hbehind : 128 ≤ (memory 18).toNat) :
    Agreeing (net.handling v i rest
      ((net.node v).receivePacketHandler i (arrive message memory))) := by
  have hstaged := h.paired.staged hpeer
  have hmem : message ∈ net.inbox v i := hinbox ▸ List.mem_cons_self
  have hupdate : IsUpdate message := hstaged.isUpdate hdone message hmem
  have hpartner : (net.connection u j).handshakeDone = true := by
    by_contra hundone
    have hnil : net.inbox v i = [] :=
      hstaged.inbox_eq_nil hdone (Bool.eq_false_of_not_eq_true hundone)
    exact List.cons_ne_nil _ _ (hinbox.symm.trans hnil)
  -- no sink has been recorded before either
  have hrecorded : (net.connection v i).hopsToSink = -1 := by
    rcases h.recorded hpeer hpartner with heq | ⟨_, hsink⟩
    · rw [heq, hopsBehind_of_neg hnone]
    · exact absurd hnone (not_lt.mpr hsink)
  have hid := h.paired.nodeId v
  obtain ⟨hlinks, _⟩ := (net.node v).update_answer (i := i) memory hupdate
  obtain ⟨hrelayed, _⟩ := @Node.relayedUpdate_eq _ memory hupdate
  have hsends := (net.node v).update_sends (i := i) memory hupdate hid
  have hreceive := @Node.receive_update (net.node v) i message memory hupdate hid
  obtain ⟨hhops, hpartnerId⟩ :=
    (net.node v).updateClusterInfo_hops (i := i) (Node.readUpdate message memory)
  apply h.handle hpaired
  · intro m hm
    rw [hinbox]
    exact List.mem_cons_of_mem _ hm
  · intro m hm
    rw [hinbox] at hm
    rcases List.mem_cons.mp hm with rfl | hm
    · right
      refine ⟨by rw [hupdate.type]; decide, ?_⟩
      intro x l hlink _
      obtain ⟨rfl, rfl⟩ := Prod.mk.inj (Option.some.inj (hlink.symm.trans hpeer))
      exact hnone
    · exact Or.inl hm
  · intro l m hm
    rw [hsends] at hm
    split_ifs at hm
    · rw [List.mem_singleton.mp hm, hrelayed.type]
      decide
    · exact absurd hm List.not_mem_nil
  · exact hlinks.deviceType
  · exact fun m hm => Node.receivePacketHandler_other _ hm _
  · exact hlinks.handshakeDone i
  · rw [hreceive, hhops, hopsBehind_of_neg (Node.readUpdate_neg hupdate hbehind), hrecorded]
  · rw [hreceive, hpartnerId]
    rfl

/-- A WELCOME.  The node joins, or it leaves its tables as they are. -/
theorem Agreeing.deliver_welcome (h : Agreeing net) (hinbox : net.inbox v i = [message])
    (hpaired : Paired (net.handling v i []
      ((net.node v).receivePacketHandler i (arrive message memory))))
    (hundone : (net.connection v i).handshakeDone = false) (hpeer : net.peer v i = some (u, j))
    {source : NodeId} (hwelcome : IsWelcome source message)
    (halone : (net.node v).Joins (.ofMemory (arrive message memory).data) →
      ∀ k, k ≠ i → (net.connection v k).partnerId = 0) :
    Agreeing (net.handling v i []
      ((net.node v).receivePacketHandler i (arrive message memory))) := by
  have hstaged := h.paired.staged hpeer
  obtain ⟨_, hundone'⟩ := hstaged.undone_of_greeting hinbox
    (Or.inl hwelcome : IsGreeting source (net.node v).nodeId message)
  obtain ⟨hreceive, hsource⟩ := (net.node v).receive_welcome (i := i) memory hwelcome
  obtain ⟨_, hdone, _⟩ :=
    (net.node v).welcome_answer (i := i) (.ofMemory (arrive message memory).data)
  have hdevice := (net.node v).receivePacketHandler_deviceType (i := i) (arrive message memory)
  have hother := fun m (hm : m ≠ i) =>
    (net.node v).receivePacketHandler_other hm (arrive message memory)
  rw [hreceive] at hpaired hdevice hother ⊢
  by_cases hjoins : (net.node v).Joins (.ofMemory (arrive message memory).data)
  · obtain ⟨hpartnerId, ⟨ack, hsends, hack, hhops⟩, hsilent⟩ := Node.welcome_joins (i := i) hjoins
    have hid : ((((net.node v).receiveClusterWelcome i
        (.ofMemory (arrive message memory).data)).1).connections i).partnerId ≠ 0 := by
      rw [hpartnerId]
      obtain ⟨_, hgreeting, _⟩ := hstaged.greeting hundone hundone' hinbox
      rcases hgreeting with hgreeting | hgreeting
      · have hsender := hsource.trans (hwelcome.sender.symm.trans hgreeting.sender)
        exact fun hzero => h.paired.nodeId u (hsender.symm.trans hzero)
      · exact absurd (hwelcome.type.symm.trans hgreeting.type) (by decide)
    exact h.joins hpaired hinbox hwelcome.type hundone hpeer hundone' (halone hjoins) hsends hsilent
      hack hhops hdevice hother (hdone.trans hundone) hid
  · obtain ⟨hhops, hpartnerId, hsilent⟩ := Node.welcome_stays (i := i) hjoins
    have htaken : ∀ m ∈ net.inbox v i, m ∈ [] ∨ typeOf m ≠ messageTypeClusterAck1 ∧
        ∀ u j, net.peer v i = some (u, j) → typeOf m = messageTypeClusterInfoUpdate →
          (net.told u j).toInt < 0 := by
      intro m hm
      rw [hinbox] at hm
      obtain rfl := List.mem_singleton.mp hm
      right
      refine ⟨by rw [hwelcome.type]; decide, ?_⟩
      intro x l _ htype
      exact absurd (hwelcome.type.symm.trans htype) (by decide)
    exact h.handle hpaired (fun m hm => absurd hm List.not_mem_nil) htaken hsilent hdevice hother
      hdone hhops hpartnerId

/-- An ACK_1, in time. -/
theorem Agreeing.deliver_ack1 (h : Agreeing net) (hinbox : net.inbox v i = [message])
    (hpaired : Paired (net.handling v i []
      ((net.node v).receivePacketHandler i (arrive message memory))))
    (hundone : (net.connection v i).handshakeDone = false) (hpeer : net.peer v i = some (u, j))
    {source : NodeId} (hack1 : IsAck1 source (net.node v).nodeId message)
    (hintime : (net.connection u j).hopsToSink = hopsBehind (net.told v i)) :
    Agreeing (net.handling v i []
      ((net.node v).receivePacketHandler i (arrive message memory))) := by
  have hstaged := h.paired.staged hpeer
  obtain ⟨_, hundone'⟩ := hstaged.undone_of_greeting hinbox
    (Or.inr hack1 : IsGreeting source (net.node v).nodeId message)
  obtain ⟨_, hgreeting, hempty, _⟩ := hstaged.greeting hundone hundone' hinbox
  obtain ⟨hreceive, hsource, hread⟩ := (net.node v).receive_ack1 (i := i) memory hack1
  obtain ⟨_, hdone, _⟩ := (net.node v).ack1_answer (i := i) (.ofMemory (arrive message memory).data)
  obtain ⟨hsilent, htells⟩ :=
    (net.node v).ack1_sends (i := i) (.ofMemory (arrive message memory).data)
  obtain ⟨hhops, hpartnerId⟩ :=
    (net.node v).ack1_hops (i := i) (.ofMemory (arrive message memory).data)
  have hdevice := (net.node v).receivePacketHandler_deviceType (i := i) (arrive message memory)
  have hother := fun m (hm : m ≠ i) =>
    (net.node v).receivePacketHandler_other hm (arrive message memory)
  rw [hreceive] at hpaired hdevice hother ⊢
  have hid : ((((net.node v).receiveClusterAck1 i
      (.ofMemory (arrive message memory).data)).1).connections i).partnerId ≠ 0 := by
    rw [hpartnerId]
    rcases hgreeting with hgreeting | hgreeting
    · exact absurd (hack1.type.symm.trans hgreeting.type) (by decide)
    · have hsender := hsource.trans (hack1.sender.symm.trans hgreeting.sender)
      exact fun hzero => h.paired.nodeId u (hsender.symm.trans hzero)
  exact h.ack1 hpaired hinbox hack1.type hundone hpeer hundone' hempty hintime hsilent htells hdevice
    hother hdone (hhops.trans (congrArg hopsBehind hread)) hid

/-- An ACK_2. -/
theorem Agreeing.deliver_ack2 (h : Agreeing net) (hinbox : net.inbox v i = message :: rest)
    (hpaired : Paired (net.handling v i rest
      ((net.node v).receivePacketHandler i (arrive message memory))))
    (hundone : (net.connection v i).handshakeDone = false) (hpeer : net.peer v i = some (u, j))
    (hack2 : IsAck2 (net.node v).nodeId message) (hsingle : net.Single v i) :
    Agreeing (net.handling v i rest
      ((net.node v).receivePacketHandler i (arrive message memory))) := by
  have hpartner : (net.connection u j).handshakeDone = true := by
    by_contra hundone'
    obtain ⟨_, hgreeting, _⟩ :=
      (h.paired.staged hpeer).greeting hundone (Bool.eq_false_of_not_eq_true hundone') hinbox
    exact hack2.not_greeting hgreeting
  have hreceive := (net.node v).receive_ack2 (i := i) memory hack2
  obtain ⟨hhops, hpartnerId⟩ :=
    (net.node v).ack2_hops (i := i) (.ofMemory (arrive message memory).data)
  have hdevice := (net.node v).receivePacketHandler_deviceType (i := i) (arrive message memory)
  have hother := fun m (hm : m ≠ i) =>
    (net.node v).receivePacketHandler_other hm (arrive message memory)
  rw [hreceive] at hpaired hdevice hother ⊢
  apply h.ack2 hpaired hinbox hack2.type hundone hsingle (by simp [hpeer]) ?_ (fun _ => rfl) hdevice
    hother hhops hpartnerId
  intro x l hlink
  obtain ⟨rfl, rfl⟩ := Prod.mk.inj (Option.some.inj (hlink.symm.trans hpeer))
  exact hpartner

end Deliver

theorem Agreeing.deliver (h : Agreeing net) {memory : ℕ → U8}
    (henabled : net.Enabled (.deliver v i memory)) (hbuilds : net.Builds (.deliver v i memory))
    (hintime : net.ToldInTime (.deliver v i memory)) :
    Agreeing (net.apply (.deliver v i memory)) := by
  obtain ⟨message, rest, hinbox⟩ := List.exists_cons_of_ne_nil henabled.2
  simp only [Builds, hinbox] at hbuilds
  simp only [ToldInTime, hinbox] at hintime
  have hpaired := h.paired.deliver henabled fun m _ hcons htype => by
    obtain ⟨rfl, _⟩ := List.cons_eq_cons.mp (hinbox.symm.trans hcons)
    exact h.single (hbuilds (Or.inl htype))
  have hlinked : net.peer v i ≠ none := fun hnone => henabled.2 (h.paired.unlinked v i hnone)
  obtain ⟨⟨u, j⟩, hpeer⟩ := Option.ne_none_iff_exists'.mp hlinked
  obtain ⟨hack1, hupdate⟩ := hintime u j hpeer
  rw [apply_deliver hinbox] at hpaired ⊢
  have horderly := (h.paired.staged hpeer).orderly henabled.1
  by_cases hdone : (net.connection v i).handshakeDone = true
  · have hmem : message ∈ net.inbox v i := hinbox ▸ List.mem_cons_self
    obtain ⟨hnone, hbehind⟩ := hupdate (horderly.updates hdone message hmem).type
    exact h.deliver_update hinbox hpaired hdone hpeer hnone hbehind
  · have hundone := Bool.eq_false_of_not_eq_true hdone
    rcases horderly.handshake hundone with hnil | ⟨m, source, hone, hgreeting⟩ |
      ⟨ack, rest', hcons, hack, _⟩
    · exact absurd (hinbox.symm.trans hnil) (List.cons_ne_nil _ _)
    · obtain ⟨rfl, rfl⟩ := List.cons_eq_cons.mp (hinbox.symm.trans hone)
      rcases hgreeting with hwelcome | hisAck1
      · exact h.deliver_welcome hinbox hpaired hundone hpeer hwelcome
          fun hjoins => hbuilds (Or.inr ⟨hwelcome.type, hjoins⟩)
      · exact h.deliver_ack1 hinbox hpaired hundone hpeer hisAck1 (hack1 hisAck1.type)
    · obtain ⟨rfl, rfl⟩ := List.cons_eq_cons.mp (hinbox.symm.trans hcons)
      exact h.deliver_ack2 hinbox hpaired hundone hpeer hack (h.single (hbuilds (Or.inl hack.type)))

theorem Agreeing.connect (h : Agreeing net) (henabled : net.Enabled (.connected v i)) :
    Agreeing (net.apply (.connected v i)) := by
  have hpaired := h.paired.connect henabled
  have hagreeing : Agreeing (net.handling v i (net.inbox v i)
      ((net.node v).connectionSuccessfulHandler i)) := by
    apply h.handle (by rwa [handling, withInbox_self]) (fun m hm => hm) (fun m hm => Or.inl hm)
    · exact Node.connected_silent
    · rfl
    · exact (net.node v).effect_connected.other
    · exact (net.node v).connected_answer.2.1
    · simp [Node.connectionSuccessfulHandler, connection]
    · simp [Node.connectionSuccessfulHandler, connection]
  rwa [handling, withInbox_self] at hagreeing

/-- Nothing is recorded, or on its way, at the two ends of a link that has just been established. -/
theorem Agreeing.establish (h : Agreeing net) {u : V} {handle : U16}
    (henabled : net.Enabled (.establish v i u handle)) :
    Agreeing (net.apply (.establish v i u handle)) := by
  have hpaired := h.paired.establish henabled
  obtain ⟨_, _, hpeer, hunconnected, hpeer', hunconnected'⟩ := henabled
  have hundone : ∀ {w k}, (net.connection w k).isConnected = false →
      (net.connection w k).handshakeDone = false := fun {w k} => h.paired.undone w k
  have hhops : ∀ w k, ((net.apply (.establish v i u handle)).connection w k).hopsToSink =
      (net.connection w k).hopsToSink :=
    establish_field (·.hopsToSink) net v u i handle (h.unlinked v i hpeer).symm
  have hdone : ∀ w k, ((net.apply (.establish v i u handle)).connection w k).handshakeDone =
      (net.connection w k).handshakeDone :=
    establish_field (·.handshakeDone) net v u i handle (hundone hunconnected).symm
  have htold : ∀ w k, (net.apply (.establish v i u handle)).told w k = net.told w k := by
    intro w k
    apply told_congr
    · by_cases hw : w = v
      · subst hw
        simp [apply, Node.connectAsMaster, Node.setConnection]
      · rw [show (net.apply (.establish v i u handle)).node w = net.node w from
          Function.update_of_ne hw _ _]
    · exact fun m _ => hhops w m
  have hsingle : ∀ {w k}, (net.apply (.establish v i u handle)).Single w k → net.Single w k :=
    fun hsingle m hm => (hdone _ m).symm.trans (hsingle m hm)
  -- a link is the one that is new, or it has been there
  have hcases : ∀ {w k x l}, (net.apply (.establish v i u handle)).peer w k = some (x, l) →
      ((net.connection x l).handshakeDone = false ∧ (net.connection w k).hopsToSink = -1 ∧
        net.inbox x l = []) ∨ ((w, k) ≠ (v, i) ∧ net.peer w k = some (x, l)) := by
    intro w k x l hlink
    rcases link_eq_some.mp hlink with ⟨heq, hx⟩ | ⟨_, heq, hx⟩ | ⟨hne, _, hlink⟩
    · obtain ⟨rfl, rfl⟩ := Prod.mk.inj heq
      obtain ⟨rfl, rfl⟩ := Prod.mk.inj hx
      exact Or.inl ⟨hundone hunconnected', h.unlinked _ _ hpeer,
        h.paired.unlinked _ _ hpeer'⟩
    · obtain ⟨rfl, rfl⟩ := Prod.mk.inj heq
      obtain ⟨rfl, rfl⟩ := Prod.mk.inj hx
      exact Or.inl ⟨hundone hunconnected, h.unlinked _ _ hpeer',
        h.paired.unlinked _ _ hpeer⟩
    · exact Or.inr ⟨hne, hlink⟩
  constructor
  case paired => exact hpaired
  case unlinked =>
    intro w k hnone
    rw [hhops]
    exact h.unlinked w k (eq_none_of_link hnone)
  case partner =>
    intro w k hw
    rw [hdone] at hw
    by_cases hhere : (w, k) = (v, i)
    · obtain ⟨rfl, rfl⟩ := Prod.mk.inj hhere
      exact absurd (hundone hunconnected) (ne_false_of_eq_true hw)
    · rw [establish_other net u handle hhere]
      exact h.partner w k hw
  case asked =>
    intro w k x l hlink hw hx hrecorded
    rw [hdone] at hw hx
    rw [hhops] at hrecorded
    rcases hcases hlink with ⟨_, hnone, _⟩ | ⟨_, hlink⟩
    · exact absurd hnone hrecorded
    · exact h.asked hlink hw hx hrecorded
  case joining =>
    intro w k x l hlink hw hx
    rw [hdone] at hw hx
    rcases hcases hlink with ⟨hundone', _, hempty⟩ | ⟨hhere, hlink⟩
    · rcases hx with hx | ⟨m, hm, _⟩
      · exact absurd hundone' (ne_false_of_eq_true hx)
      · have hm : m ∈ net.inbox x l := hm
        rw [hempty] at hm
        exact absurd hm List.not_mem_nil
    · rw [establish_other net u handle hhere]
      exact h.joining hlink hw hx
  case answer =>
    intro w k x l hlink hw hlone m hm hack1
    rw [hdone] at hw
    rw [htold]
    rcases hcases hlink with ⟨_, _, hempty⟩ | ⟨_, hlink⟩
    · have hm : m ∈ net.inbox x l := hm
      rw [hempty] at hm
      exact absurd hm List.not_mem_nil
    · exact h.answer hlink hw (hsingle hlone) m hm hack1
  case joined =>
    intro w k x l hlink hw hx hlone
    rw [hdone] at hw hx
    rw [hhops, htold]
    rcases hcases hlink with ⟨hundone', _, _⟩ | ⟨_, hlink⟩
    · exact absurd hundone' (ne_false_of_eq_true hx)
    · exact h.joined hlink hw hx (hsingle hlone)
  case recorded =>
    intro w k x l hlink hx
    rw [hdone] at hx
    rw [hhops, htold]
    rcases hcases hlink with ⟨hundone', _, _⟩ | ⟨_, hlink⟩
    · exact absurd hundone' (ne_false_of_eq_true hx)
    · exact h.recorded hlink hx

theorem Agreeing.step (h : Agreeing net) {event : Event V} (henabled : net.Enabled event)
    (hbuilds : net.Builds event) (hintime : net.ToldInTime event) : Agreeing (net.apply event) := by
  cases event with
  | establish v i u handle => exact h.establish henabled
  | connected v i => exact h.connect henabled
  | deliver v i memory => exact h.deliver henabled hbuilds hintime
  | lose _ _ _ _ => exact absurd hbuilds id
  | disconnected _ _ _ _ => exact absurd hbuilds id

end Events

/-! ## When nothing is on its way -/

/-- The hops that a connection has recorded, if it knows of a sink. -/
def recordedHops (net : Net V) (v : V) (i : Slot) : Option ℕ :=
  if (net.connection v i).hopsToSink.toInt < 0 then none
  else some (net.connection v i).hopsToSink.toInt.toNat

theorem recordedHops_eq_some {n : ℕ} :
    net.recordedHops v i = some n ↔ (net.connection v i).hopsToSink.toInt = n := by
  unfold recordedHops
  split_ifs with hneg
  · exact iff_of_false (by simp) (by omega)
  · rw [Option.some_inj]
    omega

theorem recordedHops_eq_none :
    net.recordedHops v i = none ↔ (net.connection v i).hopsToSink.toInt < 0 := by
  unfold recordedHops
  split_ifs with hneg
  · exact iff_of_true rfl hneg
  · exact iff_of_false (by simp) hneg

/-- Each connection of a link with a handshake has recorded one more than the distance from its
partner to the nearest sink on the partner's side, or -1 if there is none. -/
def RightTables (net : Net V) : Prop :=
  ∀ v i u j, net.handshaken v i = some (u, j) →
    (Forest.Leading (graph net.handshaken) (IsSink net) v u = ∅ ∧
        (net.connection v i).hopsToSink = -1) ∨
      ∃ n : ℕ, IsLeast (Forest.Leading (graph net.handshaken) (IsSink net) v u) n ∧
        (net.connection v i).hopsToSink.toInt = n

section Quiet

variable {u : V} {j : Slot}

/-- Only over a link with a handshake a way has been recorded. -/
theorem Agreeing.exists_handshaken (h : Agreeing net) (hquiet : net.Quiet) {n : ℕ}
    (hn : net.recordedHops v i = some n) : ∃ u j, net.handshaken v i = some (u, j) := by
  have hrecorded : (net.connection v i).hopsToSink ≠ -1 := by
    intro hnone
    rw [recordedHops_eq_some, hnone] at hn
    exact absurd (Int.natCast_nonneg n) (hn ▸ by decide)
  have hlinked : net.peer v i ≠ none := fun hnone => hrecorded (h.unlinked v i hnone)
  obtain ⟨⟨u, j⟩, hpeer⟩ := Option.ne_none_iff_exists'.mp hlinked
  have hwaits : ∀ {w k x l}, net.peer w k = some (x, l) → (net.connection w k).handshakeDone = false →
      (net.connection x l).handshakeDone = false := by
    intro w k x l hlink hundone
    apply Bool.eq_false_of_not_eq_true
    intro hdone
    obtain ⟨ack, rest, hinbox, _⟩ := (h.paired.staged hlink).confirming hundone hdone
    exact List.cons_ne_nil _ _ (hinbox.symm.trans (hquiet w k))
  refine ⟨u, j, handshaken_eq_some.mpr ⟨hpeer, ?_⟩⟩
  by_contra hnot
  -- who has recorded something before the handshake is done waits for the answer to an ACK_1
  have hundone : (net.connection v i).handshakeDone = false ∧
      (net.connection u j).handshakeDone = false := by
    by_cases hv : (net.connection v i).handshakeDone = true
    · have hu := Bool.eq_false_of_not_eq_true fun hu => hnot ⟨hv, hu⟩
      exact absurd (hwaits (h.paired.twoWay hpeer) hu) (ne_false_of_eq_true hv)
    · have hv := Bool.eq_false_of_not_eq_true hv
      exact ⟨hv, hwaits hpeer hv⟩
  obtain ⟨m, hm, _⟩ := h.asked hpeer hundone.1 hundone.2 hrecorded
  rw [hquiet u j] at hm
  exact absurd hm List.not_mem_nil

theorem Agreeing.hops_eq_told (h : Agreeing net) (hquiet : net.Quiet)
    (hlink : net.handshaken v i = some (u, j)) :
    (net.connection v i).hopsToSink = hopsBehind (net.told u j) := by
  obtain ⟨hpeer, _, hdone⟩ := handshaken_eq_some.mp hlink
  rcases h.recorded hpeer hdone with heq | ⟨⟨m, hm, _⟩, _⟩
  · exact heq
  · rw [hquiet v i] at hm
    exact absurd hm List.not_mem_nil

/-- What a node has recorded about its other links is what the end of a link knows of. -/
theorem Agreeing.known_iff (h : Agreeing net) (hquiet : net.Quiet)
    (hlink : net.handshaken v i = some (u, j)) {n : ℕ} :
    n ∈ Forest.Known (graph net.handshaken) (IsSink net)
        (toward net.handshaken net.recordedHops) v u ↔
      (IsSink net u ∧ n = 1) ∨ ∃ k m, k ≠ j ∧ net.recordedHops u k = some m ∧ n = m + 1 := by
  have hwired := h.paired.wired
  have hback := hwired.twoWay hlink
  apply or_congr_right
  constructor
  · rintro ⟨w, m, hadj, hne, hm, rfl⟩
    obtain ⟨k, l, hpeer⟩ := hwired.adj_iff.mp hadj
    rw [hwired.toward_eq _ hpeer] at hm
    refine ⟨k, m, ?_, hm, rfl⟩
    rintro rfl
    exact hne (Prod.mk.inj (Option.some.inj (hpeer.symm.trans hback))).1
  · rintro ⟨k, m, hne, hm, rfl⟩
    obtain ⟨w, l, hpeer⟩ := h.exists_handshaken hquiet hm
    refine ⟨w, m, hwired.adj hpeer, ?_, ?_, rfl⟩
    · rintro rfl
      exact hne (hwired.single hpeer hback)
    · rw [hwired.toward_eq _ hpeer, hm]

/-- A way that is recorded is one that the other end knows of. -/
theorem Agreeing.known (h : Agreeing net) (hquiet : net.Quiet)
    (hlink : net.handshaken v i = some (u, j)) {n : ℕ} (hn : net.recordedHops v i = some n) :
    n ∈ Forest.Known (graph net.handshaken) (IsSink net)
      (toward net.handshaken net.recordedHops) v u := by
  rw [h.known_iff hquiet hlink]
  rw [recordedHops_eq_some, h.hops_eq_told hquiet hlink, told] at hn
  rcases (net.node u).hopsBehind_cases j with ⟨hsink, hone⟩ | ⟨_, k, hk, ⟨hpromise, _⟩, hhops, _⟩ |
    ⟨_, hnone, _⟩
  · exact Or.inl ⟨hsink, by omega⟩
  · refine Or.inr ⟨k, n - 1, hk, recordedHops_eq_some.mpr ?_, by omega⟩
    unfold connection
    omega
  · -- a way has been recorded, and so the partner knew of one
    rw [hnone] at hn
    omega

variable [Fintype V]

/-- So it leads to a sink, and is not longer than there are nodes. -/
theorem Agreeing.recorded_le_card (h : Agreeing net) (hquiet : net.Quiet) {n : ℕ}
    (hn : net.recordedHops v i = some n) : n ≤ Fintype.card V := by
  obtain ⟨u, j, hlink⟩ := h.exists_handshaken hquiet hn
  have hwired := h.paired.wired
  have hknown : ∀ w x, (graph net.handshaken).Adj w x → ∀ m,
      toward net.handshaken net.recordedHops w x = some m →
        m ∈ Forest.Known (graph net.handshaken) (IsSink net)
          (toward net.handshaken net.recordedHops) w x := by
    intro w x hadj m hm
    obtain ⟨k, l, hpeer⟩ := hwired.adj_iff.mp hadj
    rw [hwired.toward_eq _ hpeer] at hm
    exact h.known hquiet hpeer hm
  have htoward := hwired.toward_eq net.recordedHops hlink
  exact Forest.le_card_of_leading
    (Forest.mem_leading h.paired.acyclic hknown (hwired.adj hlink) (htoward.trans hn))

/-- Each end has recorded the shortest way that the other one knows of. -/
theorem Agreeing.least (h : Agreeing net) (hquiet : net.Quiet)
    (hcard : Fintype.card V < 2 ^ 15 - 1) (hlink : net.handshaken v i = some (u, j)) :
    Forest.Least (Forest.Known (graph net.handshaken) (IsSink net)
      (toward net.handshaken net.recordedHops) v u) (net.recordedHops v i) := by
  have hmax : int16Max.toInt = 32767 := rfl
  have hpromises : ∀ {k m}, net.recordedHops u k = some m → (net.node u).Promises k := by
    intro k m hm
    have hle := h.recorded_le_card hquiet hm
    rw [recordedHops_eq_some] at hm
    unfold connection at hm
    exact ⟨by omega, by omega⟩
  have hcases := (net.node u).hopsBehind_cases j
  cases hrecorded : net.recordedHops v i with
  | some n =>
      refine ⟨h.known hquiet hlink hrecorded, ?_⟩
      intro m hm
      rw [h.known_iff hquiet hlink] at hm
      rw [recordedHops_eq_some, h.hops_eq_told hquiet hlink, told] at hrecorded
      rcases hcases with ⟨_, hone⟩ | ⟨hsink, k, _, _, hhops, hleast⟩ | ⟨_, hnone, _⟩
      · -- no way is shorter than the one to a sink that is the partner
        rcases hm with ⟨_, rfl⟩ | ⟨_, _, _, _, rfl⟩ <;> omega
      · rcases hm with ⟨hsink', _⟩ | ⟨l, m, hl, hm, rfl⟩
        · exact absurd hsink' hsink
        · have hmin := hleast l hl (hpromises hm).1
          rw [recordedHops_eq_some] at hm
          unfold connection at hm
          omega
      · omega
  | none =>
      apply Set.eq_empty_of_forall_notMem
      intro m hm
      rw [h.known_iff hquiet hlink] at hm
      rw [recordedHops_eq_none, h.hops_eq_told hquiet hlink, told] at hrecorded
      rcases hcases with ⟨_, hone⟩ | ⟨_, k, _, hpromise, hhops, _⟩ | ⟨hsink, _, hnobody⟩
      · omega
      · have hhops' := hpromise.1
        omega
      · rcases hm with ⟨hsink', _⟩ | ⟨l, m, hl, hm, _⟩
        · exact hsink hsink'
        · exact hnobody l hl (hpromises hm)

theorem Agreeing.rightTables (h : Agreeing net) (hquiet : net.Quiet)
    (hcard : Fintype.card V < 2 ^ 15 - 1) : RightTables net := by
  intro v i u j hlink
  have hwired := h.paired.wired
  have hknown : ∀ w x, (graph net.handshaken).Adj w x →
      Forest.Least (Forest.Known (graph net.handshaken) (IsSink net)
        (toward net.handshaken net.recordedHops) w x)
          (toward net.handshaken net.recordedHops w x) := by
    intro w x hadj
    obtain ⟨k, l, hpeer⟩ := hwired.adj_iff.mp hadj
    have hleast := h.least hquiet hcard hpeer
    rwa [← hwired.toward_eq net.recordedHops hpeer] at hleast
  have hright := Forest.hops_eq h.paired.acyclic hknown (hwired.adj hlink)
  rw [hwired.toward_eq net.recordedHops hlink] at hright
  cases hrecorded : net.recordedHops v i with
  | some n =>
      rw [hrecorded] at hright
      exact Or.inr ⟨n, hright, recordedHops_eq_some.mp hrecorded⟩
  | none =>
      rw [hrecorded] at hright
      refine Or.inl ⟨hright, ?_⟩
      rw [recordedHops_eq_none, h.hops_eq_told hquiet hlink] at hrecorded
      rw [h.hops_eq_told hquiet hlink]
      exact hopsBehind_eq_of_neg (Node.getHopsToShortestSink_lt _ j) hrecorded

end Quiet

/-! ## Runs -/

section Runs

variable [DecidableEq V]

theorem Alone.agreeing (h : Alone net) (hhops : ∀ v i, (net.connection v i).hopsToSink = -1) :
    Agreeing net := by
  have hnone : ∀ {v i p}, net.peer v i ≠ some p := by
    intro v i p hpeer
    exact absurd ((h.peer v i).symm.trans hpeer) (by simp)
  constructor
  case paired => exact h.paired
  case unlinked => exact fun v i _ => hhops v i
  case partner => exact fun v i hdone => absurd (h.handshakeDone v i) (ne_false_of_eq_true hdone)
  case asked => exact fun hpeer => absurd hpeer hnone
  case joining => exact fun hpeer => absurd hpeer hnone
  case answer => exact fun hpeer => absurd hpeer hnone
  case joined => exact fun hpeer => absurd hpeer hnone
  case recorded => exact fun hpeer => absurd hpeer hnone

theorem Agreeing.run (h : Agreeing net) {events : List (Event V)}
    (hrun : Run (fun net event => net.Builds event ∧ net.ToldInTime event) net events net') :
    Agreeing net' :=
  hrun.preserves (fun _ _ h henabled ⟨hbuilds, hintime⟩ => h.step henabled hbuilds hintime) h

/-- **Tables of hops.**  From nodes that start alone, in every run in which a tree is built and
everything is told in time, whenever nothing is on its way each connection has recorded the
distance to the nearest sink behind it. -/
theorem tables_right [Fintype V] (halone : Alone net)
    (hhops : ∀ v i, (net.connection v i).hopsToSink = -1) (hcard : Fintype.card V < 2 ^ 15 - 1)
    {events : List (Event V)}
    (hrun : Run (fun net event => net.Builds event ∧ net.ToldInTime event) net events net')
    (hquiet : net'.Quiet) : RightTables net' :=
  ((halone.agreeing hhops).run hrun).rightTables hquiet hcard

section Decidable

instance (node : Node) (packet : ConnPacketClusterWelcome) : Decidable (node.Joins packet) :=
  inferInstanceAs (Decidable (_ ∧ _))

instance (net : Net V) (event : Event V) : Decidable (net.Builds event) :=
  match event with
  | .deliver v i memory => by
      unfold Builds
      dsimp only
      generalize net.inbox v i = messages
      exact match messages with
        | [] => isTrue trivial
        | _ :: _ => by dsimp only; infer_instance
  | .establish _ _ _ _ => isTrue trivial
  | .connected _ _ => isTrue trivial
  | .lose _ _ _ _ => isFalse id
  | .disconnected _ _ _ _ => isFalse id

instance [Fintype V] (net : Net V) (event : Event V) : Decidable (net.ToldInTime event) :=
  match event with
  | .deliver v i memory => by
      unfold ToldInTime
      dsimp only
      generalize net.inbox v i = messages
      exact match messages with
        | [] => isTrue trivial
        | _ :: _ => by dsimp only; infer_instance
  | .establish _ _ _ _ => isTrue trivial
  | .connected _ _ => isTrue trivial
  | .lose _ _ _ _ => isTrue trivial
  | .disconnected _ _ _ _ => isTrue trivial

end Decidable

end Runs

/-- Three nodes that have just been started, one of them a sink. -/
def startedSink (s : Fin 3) : Net (Fin 3) :=
  { started 3 with
    node := fun v => { (started 3).node v with deviceType := if v = s then .sink else .static } }

theorem startedSink_alone (s : Fin 3) : Alone (startedSink s) where
  nodeId := started_alone.nodeId
  clusterSize := fun _ => rfl
  isConnected := fun _ _ => rfl
  handshakeDone := fun _ _ => rfl
  connectedClusterSize := fun _ _ => rfl
  peer := fun _ _ => rfl
  inbox := fun _ _ => rfl
  closing := fun _ _ => rfl

/-- Memory in which a number is negative. -/
def ones : ℕ → U8 := fun _ => 255

/-- Node 1 joins node 2, a sink, then node 0 joins them. -/
def joinsSink : List (Event (Fin 3)) := joining zeros zeros ones

theorem tables_right_joins :
    RightTables (joinsSink.foldl apply (startedSink 2)) ∧
      ((joinsSink.foldl apply (startedSink 2)).connection 0 inConnection).hopsToSink = 2 :=
  ⟨tables_right (startedSink_alone 2) (by decide) (by decide) (Run.of_replays (by decide))
    (by decide), by decide⟩

/-- Node 1 joins node 2, then node 0, a sink, joins them. -/
def sinkJoins : List (Event (Fin 3)) := joining ones ones zeros

/-- Node 2 learns of the sink, two links away, and records three hops. -/
theorem tables_wrong : ¬ ∀ events (net' : Net (Fin 3)),
    Run Builds (startedSink 0) events net' → net'.Quiet → RightTables net' := by
  intro h
  have hlink : (sinkJoins.foldl apply (startedSink 0)).handshaken 2 outConnection =
      some (1, inConnection) := by decide
  have hlink' : (sinkJoins.foldl apply (startedSink 0)).handshaken 1 outConnection =
      some (0, inConnection) := by decide
  have hthree : ((sinkJoins.foldl apply (startedSink 0)).connection 2 outConnection).hopsToSink = 3 := by
    decide
  have hsink : ((sinkJoins.foldl apply (startedSink 0)).node 0).deviceType = .sink := by decide
  have hadj : (graph (sinkJoins.foldl apply (startedSink 0)).handshaken).Adj 1 0 := by
    rw [graph, fromRel_adj]
    exact ⟨by decide, Or.inl ⟨_, _, hlink'⟩⟩
  have hbeyond : Forest.Beyond (graph (sinkJoins.foldl apply (startedSink 0)).handshaken) 2 1 0 :=
    (deleteEdges_adj.mpr ⟨hadj, by decide⟩).reachable
  rcases h sinkJoins _ (Run.of_replays (by decide)) (by decide) _ _ _ _ hlink with
    ⟨_, hnone⟩ | ⟨n, hleast, hn⟩
  · rw [hthree] at hnone
    exact absurd hnone (by decide)
  · -- the sink is one link away from node 1
    have htwo := hleast.2 ⟨0, hsink, hbeyond, rfl⟩
    rw [dist_eq_one_iff_adj.mpr hadj] at htwo
    rw [hthree, show (3 : ClusterSize).toInt = 3 from rfl] at hn
    omega

end Net

end FruityMesh.Mesh
