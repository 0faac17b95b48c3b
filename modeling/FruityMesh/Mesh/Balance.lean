import FruityMesh.Mesh.Ends

/-!
# The counts of a mesh in balance

Every node counts itself and what it believes about the parts behind its connections, and
the two ends of every link are at some stage of `Flow`.  Every event keeps this (`Balanced`),
with one exception: a node that handles an ACK_2 while it still has other connections with a
handshake, or that reads another size in it than the one that was sent, has not been counted
as what it is.  `JoinsAlone` excludes this step, and nothing else.
-/

namespace FruityMesh.Mesh

open LittleEndian Transport Ports

namespace Net

variable {V : Type*} [DecidableEq V]

/-- What the node at connection `i` of `v` knows, and what is on its way to it. -/
def endAt (net : Net V) (v : V) (i : Slot) : End where
  nodeId := (net.node v).nodeId
  outgoing := i ≠ inConnection
  isConnected := (net.connection v i).isConnected
  handshakeDone := (net.connection v i).handshakeDone
  clusterSize := (net.node v).clusterSize
  connectedClusterSize := (net.connection v i).connectedClusterSize
  inbox := net.inbox v i

structure Balanced (net : Net V) : Prop where
  nodeId : ∀ v, (net.node v).nodeId ≠ nodeIdBroadcast
  twoWay : ∀ {v i u j}, net.peer v i = some (u, j) → net.peer u j = some (v, i)
  loopless : ∀ {v i u j}, net.peer v i = some (u, j) → v ≠ u
  adds : ∀ v, (net.node v).clusterSize = 1 + ∑ i, (net.connection v i).connectedClusterSize
  undone : ∀ v i, (net.connection v i).handshakeDone = false →
    (net.connection v i).connectedClusterSize = 0
  connected : ∀ v i, (net.connection v i).handshakeDone = true →
    (net.connection v i).isConnected = true
  unlinked : ∀ {v i}, net.peer v i = none → Orderly (net.endAt v i)
  linked : ∀ {v i u j}, net.peer v i = some (u, j) → Flow (net.endAt v i) (net.endAt u j)

/-! ## A handler -/

section Handler

variable {net : Net V} {v u : V} {i j k : Slot} {rest : List Message}
  {result : Node × List Action} {change : ClusterSize}

theorem endAt_after_self (hself : ∀ {u j}, net.peer v i = some (u, j) → v ≠ u)
    (heffect : Effect (net.node v) i result change) :
    ((net.withInbox v i rest).after v result).endAt v i =
      { net.endAt v i with
        isConnected := (result.1.connections i).isConnected
        handshakeDone := (result.1.connections i).handshakeDone
        clusterSize := (net.node v).clusterSize + change
        connectedClusterSize := (net.connection v i).connectedClusterSize + change
        inbox := rest } := by
  have hinbox : ((net.withInbox v i rest).after v result).inbox v i = rest := by
    rw [after_inbox, withInbox_peer, withInbox_inbox]
    cases hpeer : net.peer v i with
    | none => rw [post_of_none hpeer, setInbox_same]
    | some p => rw [post_of_ne hpeer (hself hpeer).symm, setInbox_same]
  simp only [endAt, connection, after_node, hinbox, heffect.nodeId, heffect.clusterSize,
    heffect.share]

theorem endAt_after_peer (hpeer : net.peer u j = some (v, i)) (hne : u ≠ v) :
    ((net.withInbox v k rest).after v result).endAt u j =
      { net.endAt u j with inbox := net.inbox u j ++ sends result.2 i } := by
  have hinbox : ((net.withInbox v k rest).after v result).inbox u j =
      net.inbox u j ++ sends result.2 i := by
    rw [after_inbox, withInbox_peer, withInbox_inbox, post_of_peer hpeer, setInbox_node _ hne]
  simp only [endAt, connection, after_node_other _ _ hne, withInbox_node, hinbox]

theorem endAt_after_elsewhere (hself : ∀ {u j}, net.peer v k = some (u, j) → v ≠ u)
    (heffect : Effect (net.node v) i result change) (hk : k ≠ i) :
    ((net.withInbox v i rest).after v result).endAt v k =
      { net.endAt v k with clusterSize := (net.node v).clusterSize + change } := by
  have hinbox : ((net.withInbox v i rest).after v result).inbox v k = net.inbox v k := by
    rw [after_inbox, withInbox_peer, withInbox_inbox]
    cases hpeer : net.peer v k with
    | none => rw [post_of_none hpeer, setInbox_port _ hk]
    | some p => rw [post_of_ne hpeer (hself hpeer).symm, setInbox_port _ hk]
  simp only [endAt, connection, after_node, hinbox, heffect.nodeId, heffect.clusterSize,
    heffect.other k hk]

theorem endAt_after_other (hpeer : ∀ {k}, net.peer u j ≠ some (v, k)) (hne : u ≠ v) :
    ((net.withInbox v i rest).after v result).endAt u j = net.endAt u j := by
  have hinbox : ((net.withInbox v i rest).after v result).inbox u j = net.inbox u j := by
    rw [after_inbox, withInbox_peer, withInbox_inbox]
    rw [post_of_forall_ne fun _ => hpeer, setInbox_node _ hne]
  simp only [endAt, connection, after_node_other _ _ hne, withInbox_node, hinbox]

theorem nodeId_after (heffect : Effect (net.node v) i result change)
    (hid : ∀ w, (net.node w).nodeId ≠ nodeIdBroadcast) (w : V) :
    (((net.withInbox v i rest).after v result).node w).nodeId ≠ nodeIdBroadcast := by
  by_cases hw : w = v
  · subst hw
    rw [after_node, heffect.nodeId]
    exact hid w
  · rw [after_node_other _ _ hw]
    exact hid w

theorem connected_after (heffect : Effect (net.node v) i result change)
    (hother : ∀ w k, (net.connection w k).handshakeDone = true →
      (net.connection w k).isConnected = true)
    (hself : (result.1.connections i).handshakeDone = true →
      (result.1.connections i).isConnected = true) (w : V) (k : Slot) :
    (((net.withInbox v i rest).after v result).connection w k).handshakeDone = true →
      (((net.withInbox v i rest).after v result).connection w k).isConnected = true := by
  unfold connection
  by_cases hw : w = v
  · subst hw
    rw [after_node]
    by_cases hk : k = i
    · subst hk
      exact hself
    · rw [heffect.other k hk]
      exact hother w k
  · rw [after_node_other _ _ hw]
    exact hother w k

/-- The step lemma of every handler: what is to be shown is about its own connection. -/
theorem Balanced.after (h : Balanced net) (heffect : Effect (net.node v) i result change)
    (hundone : (result.1.connections i).handshakeDone = false →
      (result.1.connections i).connectedClusterSize = 0)
    (hconnected : (result.1.connections i).handshakeDone = true →
      (result.1.connections i).isConnected = true)
    (hunlinked : net.peer v i = none →
      Orderly (((net.withInbox v i rest).after v result).endAt v i))
    (hlinked : ∀ {u j}, net.peer v i = some (u, j) →
      Flow (((net.withInbox v i rest).after v result).endAt v i)
          { net.endAt u j with inbox := net.inbox u j ++ sends result.2 i } ∧
        Flow { net.endAt u j with inbox := net.inbox u j ++ sends result.2 i }
          (((net.withInbox v i rest).after v result).endAt v i)) :
    Balanced ((net.withInbox v i rest).after v result) where
  nodeId := nodeId_after heffect h.nodeId
  twoWay := h.twoWay
  loopless := h.loopless
  adds := by
    intro w
    unfold connection
    by_cases hw : w = v
    · subst hw
      rw [after_node, heffect.counts.sum_shares, heffect.clusterSize, h.adds w, add_assoc]
      rfl
    · rw [after_node_other _ _ hw]
      exact h.adds w
  undone := by
    intro w k
    unfold connection
    by_cases hw : w = v
    · subst hw
      rw [after_node]
      by_cases hk : k = i
      · subst hk
        exact hundone
      · rw [heffect.other k hk]
        exact h.undone w k
    · rw [after_node_other _ _ hw]
      exact h.undone w k
  connected := connected_after heffect h.connected hconnected
  unlinked := by
    intro w k hpeer
    have hpeer' : net.peer w k = none := hpeer
    by_cases hw : w = v
    · subst hw
      by_cases hk : k = i
      · subst hk
        exact hunlinked hpeer'
      · rw [endAt_after_elsewhere h.loopless heffect hk]
        exact (h.unlinked hpeer').resize _
    · have hapart : ∀ {m}, net.peer w k ≠ some (v, m) := by
        intro m hm
        exact absurd (hpeer'.symm.trans hm) (by simp)
      rw [endAt_after_other hapart hw]
      exact h.unlinked hpeer'
  linked := by
    intro w k x l hpeer
    have hpeer' : net.peer w k = some (x, l) := hpeer
    have hwx := h.loopless hpeer'
    by_cases hw : w = v
    · subst hw
      by_cases hk : k = i
      · subst hk
        rw [endAt_after_peer (h.twoWay hpeer') hwx.symm]
        exact (hlinked hpeer').1
      · rw [endAt_after_peer (h.twoWay hpeer') hwx.symm, endAt_after_elsewhere h.loopless heffect hk]
        exact (Flow.elsewhere (h.linked (h.twoWay hpeer')) (h.linked hpeer') change
          (heffect.silent k hk) (heffect.told k hk)).2
    -- the handler can also be the one at the other end of the link
    · by_cases hx : x = v
      · subst hx
        by_cases hl : l = i
        · subst hl
          rw [endAt_after_peer hpeer' hwx]
          exact (hlinked (h.twoWay hpeer')).2
        · rw [endAt_after_peer hpeer' hwx, endAt_after_elsewhere h.loopless heffect hl]
          exact (Flow.elsewhere (h.linked hpeer') (h.linked (h.twoWay hpeer')) change
            (heffect.silent l hl) (heffect.told l hl)).1
      · have hapart : ∀ {m}, net.peer w k ≠ some (v, m) := by
          intro m hm
          exact hx (Prod.mk.inj (Option.some.inj (hpeer'.symm.trans hm))).1
        have hapart' : ∀ {m}, net.peer x l ≠ some (v, m) := by
          intro m hm
          exact hw (Prod.mk.inj (ends_eq h.twoWay hpeer' hm)).1
        rw [endAt_after_other hapart hw, endAt_after_other hapart' hx]
        exact h.linked hpeer'

end Handler

/-! ## The events -/

/-- The joining node has no other connection with a handshake when it handles an ACK_2, and
reads the size in it that was sent. -/
def JoinsAlone (net : Net V) : Event V → Prop
  | .deliver v i memory =>
      match net.inbox v i with
      | [] => True
      | ack :: rest =>
          typeOf ack = messageTypeClusterAck2 →
            (∀ k, k ≠ i → (net.connection v k).handshakeDone = false) ∧
              ∀ u j, net.peer v i = some (u, j) →
                memory 12 = @topByte 1 ((net.node u).clusterSize - changes rest)
  | .establish _ _ _ _ => True
  | .connected _ _ => True
  | .lose _ _ _ _ => True
  | .disconnected _ _ _ _ => True

section Events

variable {net : Net V} {v : V} {i : Slot} {message : Message} {rest : List Message}

omit [DecidableEq V] in
theorem Balanced.orderly (h : Balanced net) (hconnected : (net.connection v i).isConnected = true) :
    Orderly (net.endAt v i) := by
  cases hpeer : net.peer v i with
  | none => exact h.unlinked hpeer
  | some p => exact (h.linked hpeer).orderly (h.linked (h.twoWay hpeer)) hconnected

omit [DecidableEq V] in
/-- A node that has no connection with a handshake counts itself only. -/
theorem Balanced.clusterSize_eq_one (h : Balanced net)
    (halone : ∀ k, (net.connection v k).handshakeDone = false) : (net.node v).clusterSize = 1 := by
  rw [h.adds v, Finset.sum_eq_zero fun k _ => h.undone v k (halone k), add_zero]

theorem Balanced.deliver_update (h : Balanced net) (hinbox : net.inbox v i = message :: rest)
    (hdone : (net.connection v i).handshakeDone = true) (hupdates : ∀ m ∈ message :: rest, IsUpdate m)
    (memory : ℕ → U8) :
    Balanced ((net.withInbox v i rest).after v
      ((net.node v).receivePacketHandler i (arrive message memory))) := by
  have hupdate := hupdates message List.mem_cons_self
  have heffect := (net.node v).effect_update (i := i) memory hupdate (h.nodeId v)
  obtain ⟨hlinks, hsends⟩ := (net.node v).update_answer (i := i) memory hupdate
  have hconnected := h.connected v i hdone
  apply h.after heffect
  · intro hundone
    rw [hlinks.handshakeDone] at hundone
    exact absurd hundone (ne_false_of_eq_true hdone)
  · intro _
    rw [hlinks.isConnected]
    exact hconnected
  · intro _
    rw [endAt_after_self h.loopless heffect, hlinks.handshakeDone, hlinks.isConnected]
    exact Orderly.of_updates hconnected hdone fun m hm => hupdates m (List.mem_cons_of_mem _ hm)
  · intro u j hpeer
    rw [endAt_after_self h.loopless heffect, hlinks.handshakeDone, hlinks.isConnected, hsends,
      List.append_nil]
    exact (h.linked hpeer).update (h.linked (h.twoWay hpeer)) hdone hinbox

theorem Balanced.deliver_welcome (h : Balanced net) (hinbox : net.inbox v i = [message])
    (hconnected : (net.connection v i).isConnected = true)
    (hundone : (net.connection v i).handshakeDone = false) {source : NodeId}
    (hwelcome : IsWelcome source message) (memory : ℕ → U8) :
    Balanced ((net.withInbox v i []).after v
      ((net.node v).receivePacketHandler i (arrive message memory))) := by
  obtain ⟨hreceive, hsource⟩ := (net.node v).receive_welcome (i := i) memory hwelcome
  rw [hreceive]
  have heffect := (net.node v).effect_welcome (i := i) (.ofMemory (arrive message memory).data)
  obtain ⟨hconnected', hdone', hanswer⟩ :=
    (net.node v).welcome_answer (i := i) (.ofMemory (arrive message memory).data)
  apply h.after heffect
  · intro _
    rw [heffect.share, add_zero]
    exact h.undone v i hundone
  · intro hdone
    rw [hdone'] at hdone
    exact absurd hdone (ne_true_of_eq_false hundone)
  · intro _
    rw [endAt_after_self h.loopless heffect]
    exact Orderly.of_nil rfl
  · intro u j hpeer
    have hflow := h.linked hpeer
    have hback := h.linked (h.twoWay hpeer)
    obtain ⟨_, hpartner⟩ := hflow.undone_of_greeting hback hinbox
      (Or.inl hwelcome : IsGreeting source (net.node v).nodeId message)
    -- of a link in the handshake, one greeting is on its way in one of the directions
    rcases hflow.greeting hundone hpartner with hnil | ⟨m, hone, hgreeting, hempty, hspoken⟩
    · exact absurd (hinbox.symm.trans hnil) (List.cons_ne_nil _ _)
    · obtain rfl : message = m := List.singleton_inj.mp (hinbox.symm.trans hone)
      have hsender : (ConnPacketClusterWelcome.ofMemory (arrive message memory).data).header.sender =
          (net.node u).nodeId := by
        rcases hgreeting with hgreeting | hgreeting
        · exact hsource.trans (hwelcome.sender.symm.trans hgreeting.sender)
        · exact absurd (hwelcome.type.symm.trans hgreeting.type) (by decide)
      rw [hsender] at hanswer
      have hmoved := hflow.greet hundone hpartner hempty _ hanswer
        fun _ hfalse => absurd hfalse (ne_false_of_eq_true hspoken)
      rw [endAt_after_self h.loopless heffect, hconnected', hdone', add_zero, add_zero]
      rw [← hconnected] at hmoved
      exact hmoved

theorem Balanced.deliver_ack1 (h : Balanced net) (hinbox : net.inbox v i = [message])
    (hconnected : (net.connection v i).isConnected = true)
    (hundone : (net.connection v i).handshakeDone = false) {source : NodeId}
    (hack1 : IsAck1 source (net.node v).nodeId message) (memory : ℕ → U8) :
    Balanced ((net.withInbox v i []).after v
      ((net.node v).receivePacketHandler i (arrive message memory))) := by
  obtain ⟨hreceive, hsource, _⟩ := (net.node v).receive_ack1 (i := i) memory hack1
  rw [hreceive]
  have heffect := (net.node v).effect_ack1 (i := i) (.ofMemory (arrive message memory).data)
  obtain ⟨hconnected', hdone', ack, hsends, hack, hsize⟩ :=
    (net.node v).ack1_answer (i := i) (.ofMemory (arrive message memory).data)
  apply h.after heffect
  · exact fun hfalse => absurd hfalse (ne_false_of_eq_true hdone')
  · exact fun _ => hconnected'.trans hconnected
  · intro _
    rw [endAt_after_self h.loopless heffect]
    exact Orderly.of_nil rfl
  · intro u j hpeer
    have hflow := h.linked hpeer
    have hback := h.linked (h.twoWay hpeer)
    obtain ⟨_, hpartner⟩ := hflow.undone_of_greeting hback hinbox
      (Or.inr hack1 : IsGreeting source (net.node v).nodeId message)
    rcases hflow.greeting hundone hpartner with hnil | ⟨m, hone, hgreeting, hempty, hspoken⟩
    · exact absurd (hinbox.symm.trans hnil) (List.cons_ne_nil _ _)
    · obtain rfl : message = m := List.singleton_inj.mp (hinbox.symm.trans hone)
      have hsender : (ConnPacketClusterAck1.ofMemory (arrive message memory).data).header.sender =
          (net.node u).nodeId := by
        rcases hgreeting with hgreeting | hgreeting
        · exact absurd (hack1.type.symm.trans hgreeting.type) (by decide)
        · exact hsource.trans (hack1.sender.symm.trans hgreeting.sender)
      rw [hsender] at hack
      rw [endAt_after_self h.loopless heffect, hconnected', hdone', hsends]
      exact Flow.of_ack1 hpartner hconnected hspoken hempty (h.undone v i hundone) hack hsize

theorem Balanced.deliver_ack2 (h : Balanced net) (hinbox : net.inbox v i = message :: rest)
    (hconnected : (net.connection v i).isConnected = true)
    (hundone : (net.connection v i).handshakeDone = false)
    (hack2 : IsAck2 (net.node v).nodeId message) (hrest : ∀ m ∈ rest, IsUpdate m)
    {memory : ℕ → U8} (halone : ∀ k, k ≠ i → (net.connection v k).handshakeDone = false)
    (hbyte : ∀ u j, net.peer v i = some (u, j) →
      memory 12 = @topByte 1 ((net.node u).clusterSize - changes rest)) :
    Balanced ((net.withInbox v i rest).after v
      ((net.node v).receivePacketHandler i (arrive message memory))) := by
  rw [(net.node v).receive_ack2 (i := i) memory hack2]
  have heffect := (net.node v).effect_ack2 (i := i) (.ofMemory (arrive message memory).data) halone
  obtain ⟨hconnected', hdone'⟩ :=
    (net.node v).ack2_answer (i := i) (.ofMemory (arrive message memory).data)
  apply h.after heffect
  · exact fun hfalse => absurd hfalse (ne_false_of_eq_true hdone')
  · exact fun _ => hconnected'.trans hconnected
  · intro _
    rw [endAt_after_self h.loopless heffect, hdone']
    exact Orderly.of_updates (hconnected'.trans hconnected) rfl hrest
  · intro u j hpeer
    have hflow := h.linked hpeer
    have hpartner : (net.endAt u j).handshakeDone = true := by
      by_contra hpartner
      rcases hflow.greeting hundone (Bool.eq_false_of_not_eq_true hpartner) with hnil |
        ⟨m, hone, hgreeting, _, _⟩
      · exact List.cons_ne_nil _ _ (hinbox.symm.trans hnil)
      · obtain rfl : message = m := (List.cons_eq_cons.mp (hinbox.symm.trans hone)).1
        exact hack2.not_greeting hgreeting
    obtain ⟨_, _, _, ack, rest', hinbox', _, _, hsize⟩ := hflow.confirming hundone hpartner
    obtain ⟨rfl, rfl⟩ := List.cons_eq_cons.mp (hinbox.symm.trans hinbox')
    have hread := Node.ack2_size hack2.length hack2.type hsize (hbyte u j hpeer)
    have hone : (net.node v).clusterSize = 1 := by
      apply h.clusterSize_eq_one
      intro k
      by_cases hk : k = i
      · rw [hk]
        exact hundone
      · exact halone k hk
    rw [endAt_after_self h.loopless heffect, hconnected', hdone', sends_nil, List.append_nil]
    exact hflow.ack2 (h.linked (h.twoWay hpeer)) hundone hpartner hone (h.undone v i hundone)
      hinbox hread

theorem Balanced.deliver (h : Balanced net) {memory : ℕ → U8}
    (henabled : net.Enabled (.deliver v i memory)) (hjoins : net.JoinsAlone (.deliver v i memory)) :
    Balanced (net.apply (.deliver v i memory)) := by
  obtain ⟨hconnected, hsome⟩ := henabled
  obtain ⟨message, rest, hinbox⟩ := List.exists_cons_of_ne_nil hsome
  rw [apply_deliver hinbox]
  have horderly := h.orderly hconnected
  by_cases hdone : (net.connection v i).handshakeDone = true
  · exact h.deliver_update hinbox hdone (hinbox ▸ horderly.updates hdone) memory
  · have hundone := Bool.eq_false_of_not_eq_true hdone
    rcases horderly.handshake hundone with hnil | ⟨m, source, hone, hgreeting⟩ |
      ⟨ack, rest', hcons, hack, hrest⟩
    · exact absurd (hinbox.symm.trans hnil) (List.cons_ne_nil _ _)
    · obtain ⟨rfl, rfl⟩ := List.cons_eq_cons.mp (hinbox.symm.trans hone)
      rcases hgreeting with hwelcome | hack1
      · exact h.deliver_welcome hinbox hconnected hundone hwelcome memory
      · exact h.deliver_ack1 hinbox hconnected hundone hack1 memory
    · obtain ⟨rfl, rfl⟩ := List.cons_eq_cons.mp (hinbox.symm.trans hcons)
      simp only [JoinsAlone, hinbox] at hjoins
      obtain ⟨halone, hbyte⟩ := hjoins hack.type
      exact h.deliver_ack2 hinbox hconnected hundone hack hrest halone hbyte

theorem Balanced.connect (h : Balanced net) (henabled : net.Enabled (.connected v i)) :
    Balanced (net.apply (.connected v i)) := by
  obtain ⟨hpeer, hunconnected⟩ := henabled
  have hundone : (net.connection v i).handshakeDone = false := by
    apply Bool.eq_false_of_not_eq_true
    intro hdone
    exact absurd hunconnected (ne_false_of_eq_true (h.connected v i hdone))
  have heffect := (net.node v).effect_connected (i := i)
  obtain ⟨hconnected', hdone', hincoming, hanswer⟩ := (net.node v).connected_answer (i := i)
  have hbalanced : Balanced ((net.withInbox v i (net.inbox v i)).after v
      ((net.node v).connectionSuccessfulHandler i)) := by
    apply h.after heffect
    · intro _
      rw [heffect.share, add_zero]
      exact h.undone v i hundone
    · exact fun _ => hconnected'
    · exact fun hnone => absurd hnone hpeer
    · intro u j hlink
      have hflow := h.linked hlink
      have hback := h.linked (h.twoWay hlink)
      rw [endAt_after_self h.loopless heffect, hconnected', hdone', add_zero, add_zero]
      by_cases hi : i = inConnection
      · rw [hincoming hi, List.append_nil]
        exact hflow.connect hback
      · obtain ⟨hempty, hempty'⟩ := hflow.unconnected (decide_eq_true hi) hunconnected
        have hempty : net.inbox v i = [] := hempty
        have hmoved := hflow.greet hundone (hflow.undone_of_unconnected hunconnected).2 hempty' _
          (hanswer.imp_right fun ⟨m, hm, hwelcome⟩ => ⟨m, hm, Or.inl hwelcome⟩) (by
            intro houtgoing
            have hdirection := hflow.direction hundone (hflow.undone_of_unconnected hunconnected).2
            rw [houtgoing] at hdirection
            exact absurd (of_decide_eq_false hdirection) (not_not_intro hi))
        rw [hempty]
        exact hmoved
  rwa [withInbox_self] at hbalanced

theorem Balanced.disconnect (h : Balanced net) {reason : U8} {generated : ClusterId}
    (henabled : net.Enabled (.disconnected v i reason generated)) :
    Balanced (net.apply (.disconnected v i reason generated)) := by
  obtain ⟨hpeer, _⟩ := henabled
  have heffect := (net.node v).effect_disconnected (i := i) reason generated (h.undone v i)
  obtain ⟨_, _, hshare, _⟩ := (net.node v).disconnectionHandler_counts i reason generated
  obtain ⟨_, hdone⟩ := (net.node v).disconnected_answer (i := i) reason generated
  have hbalanced : Balanced ((net.withInbox v i []).after v
      ((net.node v).disconnectionHandler i reason generated)) := by
    apply h.after heffect
    · exact fun _ => hshare
    · exact fun htrue => absurd htrue (ne_true_of_eq_false hdone)
    · intro _
      rw [endAt_after_self h.loopless heffect]
      exact Orderly.of_nil rfl
    · exact fun hlink => absurd (hpeer.symm.trans hlink) (by simp)
  exact ⟨hbalanced.nodeId, hbalanced.twoWay, hbalanced.loopless, hbalanced.adds, hbalanced.undone,
    hbalanced.connected, hbalanced.unlinked, hbalanced.linked⟩

theorem Balanced.lose (h : Balanced net) {received receivedThere : ℕ}
    (henabled : net.Enabled (.lose v i received receivedThere)) :
    Balanced (net.apply (.lose v i received receivedThere)) := by
  obtain ⟨p, hp, hconnected, hconnected'⟩ := henabled
  have hkept : ∀ {w k x l}, unlink net.peer v i w k = some (x, l) →
      (net.apply (.lose v i received receivedThere)).endAt w k = net.endAt w k := by
    intro w k x l hpeer
    obtain ⟨hpeer, hhere, hthere⟩ := unlink_eq_some.mp hpeer
    have hinbox : net.cut v i received receivedThere w k = net.inbox w k := by
      unfold cut
      rw [if_neg fun heq => hhere (Prod.ext heq.1 heq.2), if_neg]
      exact fun heq => hthere (Option.some.inj (hpeer.symm.trans heq))
    simp only [endAt, connection, Net.apply, hinbox]
  refine ⟨h.nodeId, ?_, ?_, h.adds, h.undone, h.connected, ?_, ?_⟩
  · intro w k x l hpeer
    obtain ⟨hpeer, hhere, hthere⟩ := unlink_eq_some.mp hpeer
    exact unlink_eq_some.mpr ⟨h.twoWay hpeer, hthere, hhere⟩
  · intro w k x l hpeer
    exact h.loopless (unlink_eq_some.mp hpeer).1
  · intro w k hpeer
    have horderly : ∀ n, net.cut v i received receivedThere w k = (net.inbox w k).take n →
        Orderly (net.endAt w k) →
          Orderly ((net.apply (.lose v i received receivedThere)).endAt w k) := by
      intro n hcut horderly
      have htake : Orderly { net.endAt w k with inbox := (net.inbox w k).take n } :=
        horderly.take n
      rwa [← hcut] at htake
    -- what is cut off is the end of each of the two queues; their beginnings are still orderly
    rcases unlink_eq_none.mp hpeer with heq | hlink | hlink
    · obtain ⟨rfl, rfl⟩ := Prod.mk.inj heq
      exact horderly received (if_pos ⟨rfl, rfl⟩) (h.orderly hconnected)
    · by_cases heq : w = v ∧ k = i
      · obtain ⟨rfl, rfl⟩ := heq
        exact horderly received (if_pos ⟨rfl, rfl⟩) (h.orderly hconnected)
      · have hp' : p = (w, k) := Option.some.inj (hp.symm.trans (h.twoWay hlink))
        rw [hp'] at hconnected'
        refine horderly receivedThere ?_ (h.orderly hconnected')
        unfold cut
        rw [if_neg heq, if_pos hlink]
    · by_cases heq : w = v ∧ k = i
      · obtain ⟨rfl, rfl⟩ := heq
        exact horderly received (if_pos ⟨rfl, rfl⟩) (h.orderly hconnected)
      · refine horderly (net.inbox w k).length ?_ (h.unlinked hlink)
        unfold cut
        rw [if_neg heq, if_neg (by rw [hlink]; simp), List.take_length]
  · intro w k x l hpeer
    have hpeer' : unlink net.peer v i w k = some (x, l) := hpeer
    obtain ⟨hlink, hhere, hthere⟩ := unlink_eq_some.mp hpeer'
    have hback : unlink net.peer v i x l = some (w, k) :=
      unlink_eq_some.mpr ⟨h.twoWay hlink, hthere, hhere⟩
    rw [hkept hpeer', hkept hback]
    exact h.linked hlink

theorem establish_self (net : Net V) (v u : V) (i : Slot) (handle : U16) :
    (net.apply (.establish v i u handle)).connection v i =
      { (net.connection v i).init with writeCharacteristicHandle := handle } := by
  simp [connection, Net.apply, Node.connectAsMaster]

theorem establish_other (net : Net V) {v w : V} (u : V) {i k : Slot} (handle : U16)
    (hne : (w, k) ≠ (v, i)) :
    (net.apply (.establish v i u handle)).connection w k = net.connection w k := by
  by_cases hw : w = v
  · subst hw
    have hk : k ≠ i := fun heq => hne (heq ▸ rfl)
    simp [connection, Net.apply, Node.connectAsMaster, hk]
  · unfold connection
    rw [show (net.apply (.establish v i u handle)).node w = net.node w from
      Function.update_of_ne hw _ _]

/-- A field that is the same after the connection has been reset. -/
theorem establish_field {α : Type} (field : Connection → α) (net : Net V) (v u : V) (i : Slot)
    (handle : U16) (hsame : field { (net.connection v i).init with
      writeCharacteristicHandle := handle } = field (net.connection v i)) (w : V) (k : Slot) :
    field ((net.apply (.establish v i u handle)).connection w k) = field (net.connection w k) := by
  by_cases hhere : (w, k) = (v, i)
  · obtain ⟨rfl, rfl⟩ := Prod.mk.inj hhere
    rw [establish_self, hsame]
  · rw [establish_other net u handle hhere]

theorem establish_node (net : Net V) (v u w : V) (i : Slot) (handle : U16) :
    ((net.apply (.establish v i u handle)).node w).nodeId = (net.node w).nodeId ∧
      ((net.apply (.establish v i u handle)).node w).clusterSize = (net.node w).clusterSize := by
  by_cases hw : w = v
  · subst hw
    simp [Net.apply, Node.connectAsMaster, Node.setConnection]
  · rw [show (net.apply (.establish v i u handle)).node w = net.node w from
      Function.update_of_ne hw _ _]
    exact ⟨rfl, rfl⟩

theorem establish_share (net : Net V) (v u w : V) (i k : Slot) (handle : U16) :
    ((net.apply (.establish v i u handle)).connection w k).connectedClusterSize =
      (net.connection w k).connectedClusterSize :=
  establish_field (·.connectedClusterSize) net v u i handle rfl w k

theorem establish_endAt_other (net : Net V) {v w : V} (u : V) {i k : Slot} (handle : U16)
    (hne : (w, k) ≠ (v, i)) :
    (net.apply (.establish v i u handle)).endAt w k = net.endAt w k := by
  obtain ⟨hid, hsize⟩ := establish_node net v u w i handle
  simp only [endAt, hid, hsize, establish_other net u handle hne]
  rfl

theorem Balanced.establish (h : Balanced net) {u : V} {handle : U16}
    (henabled : net.Enabled (.establish v i u handle)) :
    Balanced (net.apply (.establish v i u handle)) := by
  obtain ⟨hvu, hi, hpeer, hunconnected, hpeer', hunconnected'⟩ := henabled
  have hundone : ∀ {w k}, (net.connection w k).isConnected = false →
      (net.connection w k).handshakeDone = false := by
    intro w k hfalse
    apply Bool.eq_false_of_not_eq_true
    intro hdone
    exact absurd hfalse (ne_false_of_eq_true (h.connected w k hdone))
  have hinbox : net.inbox v i = [] := (h.unlinked hpeer).unconnected hunconnected
  have hinbox' : net.inbox u inConnection = [] := (h.unlinked hpeer').unconnected hunconnected'
  have hfree : (u, inConnection) ≠ (v, i) := fun heq => hvu (Prod.mk.inj heq).1.symm
  have hdone : ((net.apply (.establish v i u handle)).endAt v i).handshakeDone = false := by
    simp only [endAt, establish_self]
    rfl
  have houtgoing : ((net.apply (.establish v i u handle)).endAt v i).outgoing = true :=
    decide_eq_true hi
  have hincoming : (net.endAt u inConnection).outgoing = false :=
    decide_eq_false fun hne : inConnection ≠ inConnection => hne rfl
  constructor
  case nodeId =>
    intro w
    rw [(establish_node net v u w i handle).1]
    exact h.nodeId w
  case twoWay => exact link_twoWay h.twoWay hvu hpeer hpeer'
  case loopless => exact link_loopless h.loopless hvu
  case adds =>
    intro w
    rw [(establish_node net v u w i handle).2, h.adds w]
    simp only [establish_share]
  case undone =>
    intro w k
    rw [establish_share]
    by_cases hne : (w, k) = (v, i)
    · obtain ⟨rfl, rfl⟩ := Prod.mk.inj hne
      exact fun _ => h.undone w k (hundone hunconnected)
    · rw [establish_other net u handle hne]
      exact h.undone w k
  case connected =>
    intro w k
    by_cases hne : (w, k) = (v, i)
    · obtain ⟨rfl, rfl⟩ := Prod.mk.inj hne
      exact fun htrue => absurd htrue (ne_true_of_eq_false hdone)
    · rw [establish_other net u handle hne]
      exact h.connected w k
  case unlinked =>
    intro w k hlink
    have hlink : link net.peer v i u w k = none := hlink
    have hhere : (w, k) ≠ (v, i) := by
      intro heq
      rw [link, if_pos (Prod.mk.inj heq)] at hlink
      exact absurd hlink (by simp)
    rw [establish_endAt_other net u handle hhere]
    exact h.unlinked (eq_none_of_link hlink)
  case linked =>
    intro w k x l hlink
    -- the new link seen from either of its ends, and all other links
    rcases link_eq_some.mp hlink with ⟨heq, hx⟩ | ⟨_, heq, hx⟩ | ⟨hne, hne', hlink⟩
    · obtain ⟨rfl, rfl⟩ := Prod.mk.inj heq
      obtain ⟨rfl, rfl⟩ := Prod.mk.inj hx
      rw [establish_endAt_other net _ handle hfree]
      exact Flow.fresh (by rw [houtgoing, hincoming]; rfl) hdone (hundone hunconnected')
        hinbox hinbox'
    · obtain ⟨rfl, rfl⟩ := Prod.mk.inj heq
      obtain ⟨rfl, rfl⟩ := Prod.mk.inj hx
      rw [establish_endAt_other net _ handle hfree]
      exact Flow.fresh (by rw [houtgoing, hincoming]; rfl) (hundone hunconnected') hdone
        hinbox' hinbox
    · rw [establish_endAt_other net u handle hne,
        establish_endAt_other net u handle (ne_of_linked h.twoWay hlink hpeer)]
      exact h.linked hlink

end Events

end Net

end FruityMesh.Mesh
