import FruityMesh.Library.Spread
import FruityMesh.Mesh.Sizes

/-!
# The id of a cluster

When a link is lost, the end with the smaller part generates a new id for it and floods an
UPDATE that renames the cluster.  A node follows if the UPDATE names the id that it has
itself, and the UPDATE names what the end has recorded as `connectedClusterId` for the lost
link.  That record is only renewed on connections over which an UPDATE arrives, so it can be
out of date; then nobody follows.  `clusterIds_agree` is about the losses at which it is not.

A round is a loss and all that follows from it.  During a round every node has its old id or
the one that it will have (`Converging`), and the new one spreads as in `Library.Spread`.
-/

namespace FruityMesh.Mesh

open Transport Ports SimpleGraph
open Node (zeros)

/-! ## What a handler does to the id -/

namespace Node

variable (node : Node) {i : Slot} {message : Message}

theorem updateClusterInfo_clusterId (packet : ConnPacketClusterInfoUpdate) :
    (node.updateClusterInfo i packet).clusterId =
      if packet.currentClusterId = node.clusterId ∧ packet.newClusterId ≠ 0 then
        packet.newClusterId
      else node.clusterId := by
  unfold updateClusterInfo
  split_ifs <;> rfl

theorem updateClusterInfo_partnerId (packet : ConnPacketClusterInfoUpdate) (k : Slot) :
    ((node.updateClusterInfo i packet).connections k).partnerId =
      (node.connections k).partnerId := by
  unfold updateClusterInfo
  by_cases hk : k = i
  · subst hk
    split_ifs <;> simp
  · split_ifs <;> simp [hk]

theorem update_clusterId (behind : ℕ → U8) (h : IsUpdate message)
    (hid : node.nodeId ≠ nodeIdBroadcast) :
    (node.receivePacketHandler i (arrive message behind)).1.clusterId =
      if currentOf message = node.clusterId ∧ newOf message ≠ 0 then newOf message
      else node.clusterId := by
  obtain ⟨_, hcurrent, hnew⟩ := @readUpdate_eq _ behind h
  rw [node.receive_update h hid]
  dsimp only
  rw [updateClusterInfo_clusterId, hcurrent, hnew]

theorem update_partnerId (behind : ℕ → U8) (h : IsUpdate message)
    (hid : node.nodeId ≠ nodeIdBroadcast) (k : Slot) :
    ((node.receivePacketHandler i (arrive message behind)).1.connections k).partnerId =
      (node.connections k).partnerId := by
  rw [node.receive_update h hid]
  dsimp only
  exact node.updateClusterInfo_partnerId _ k

theorem disconnected_clusterId (reason : U8) (generated : ClusterId) :
    (node.disconnectionHandler i reason generated).1.clusterId =
      if (node.connections i).handshakeDone = true ∧ node.isSmallerPart i = true then generated
      else node.clusterId := by
  have hconnection : ∀ node : Node,
      (node.connectionDisconnectionHandler i reason).clusterId = node.clusterId := by
    intro node
    unfold connectionDisconnectionHandler
    dsimp only
    split_ifs <;> rfl
  unfold disconnectionHandler
  dsimp only
  rw [hconnection]
  unfold nodeDisconnectionHandler
  dsimp only
  rw [@isSmallerPart_congr i node (node.setConnection i _) rfl rfl (by simp) (by simp)]
  simp only [setConnection_connections, if_true]
  split_ifs with hdone hsmaller h h h
  · rfl
  · exact absurd ⟨hdone, hsmaller⟩ h
  · exact absurd h.2 hsmaller
  · rfl
  · exact absurd h.1 hdone
  · rfl

/-- The end that has lost a link tells the others. -/
theorem disconnected_told (reason : U8) (generated : ClusterId) {k : Slot}
    (hdone : (node.connections i).handshakeDone = true) (hk : k ≠ i)
    (hdone' : (node.connections k).handshakeDone = true) :
    ∃ message, sends (node.disconnectionHandler i reason generated).2 k = [message] ∧
      currentOf message = (node.connections i).connectedClusterId ∧
      newOf message = if node.isSmallerPart i = true then generated else 0 := by
  obtain ⟨sender, hsender, hsends⟩ := node.disconnectionHandler_sends i reason generated hdone
  have hnot : ¬ (k = i ∨ ¬ (sender.connections k).handshakeDone = true) := by
    rw [hsender k hk]
    exact fun h => h.elim hk fun h => h hdone'
  rw [hsends, sends_sendClusterInfoUpdate, if_neg hnot]
  exact ⟨_, rfl, sender.ids_announcement _ _ _ k⟩

theorem isSmallerPart_iff : node.isSmallerPart i = true ↔
    node.clusterSize.toInt - (node.connections i).connectedClusterSize.toInt <
        (node.connections i).connectedClusterSize.toInt ∨
      (node.clusterSize.toInt - (node.connections i).connectedClusterSize.toInt =
          (node.connections i).connectedClusterSize.toInt ∧
        node.nodeId < (node.connections i).partnerId) := by
  unfold isSmallerPart
  dsimp only
  rw [decide_eq_true_iff]

end Node

namespace Net

variable {V : Type*} [DecidableEq V] {net net' : Net V}

/-! ## One loss after the other -/

/-- No node holds the id, and none has recorded it. -/
structure Fresh (net : Net V) (generated : ClusterId) : Prop where
  ne_zero : generated ≠ 0
  clusterId : ∀ v, generated ≠ (net.node v).clusterId
  connectedClusterId : ∀ v i, generated ≠ (net.connection v i).connectedClusterId

/-- A tree in which all sizes are right, all nodes hold one id and have recorded it on their
links. -/
structure Agreed [Fintype V] (net : Net V) : Prop where
  counted : Counted net
  partnerId : ∀ {v i u j}, net.peer v i = some (u, j) →
    (net.connection v i).partnerId = (net.node u).nodeId
  clusterId : ∀ v u, (net.node v).clusterId = (net.node u).clusterId
  connectedClusterId : ∀ v i, net.peer v i ≠ none →
    (net.connection v i).connectedClusterId = (net.node v).clusterId

/-- A link is lost only when nothing is left to be done about the ones before, and each id that
is generated is fresh. -/
def LosesInTurn (net : Net V) : Event V → Prop
  | .establish _ _ _ _ => False
  | .connected _ _ => False
  | .deliver _ _ _ => True
  | .lose _ _ _ _ => net.Quiet ∧ net.Settled
  | .disconnected _ _ _ generated => Fresh net generated

/-- An UPDATE about the loss of the connection names the id of the cluster, if it is sent to
anybody. -/
def Heard (net : Net V) (v : V) (i : Slot) : Prop :=
  (net.connection v i).connectedClusterId = (net.node v).clusterId ∨
    ∀ k, k ≠ i → (net.connection v k).handshakeDone = false

/-- Where a link is lost, one part is the smaller one, and whichever end finds that its part is
will be heard in it. -/
def RenamesPart (net : Net V) : Event V → Prop
  | .establish _ _ _ _ => True
  | .connected _ _ => True
  | .deliver _ _ _ => True
  | .lose v i _ _ => ∀ p, net.peer v i = some p →
      ((net.node v).nodeId ≠ (net.node p.1).nodeId ∨
          (net.connection v i).connectedClusterSize ≠ (net.connection p.1 p.2).connectedClusterSize) ∧
        ((net.node v).isSmallerPart i = true → Heard net v i) ∧
        ((net.node p.1).isSmallerPart p.2 = true → Heard net p.1 p.2)
  | .disconnected _ _ _ _ => True

omit [DecidableEq V] in
theorem LosesInTurn.loses {event : Event V} (h : net.LosesInTurn event) : net.Loses event := by
  cases event with
  | establish _ _ _ _ => exact h
  | connected _ _ => exact h
  | deliver _ _ _ => trivial
  | lose _ _ _ _ => trivial
  | disconnected _ _ _ _ => trivial

omit [DecidableEq V] in
/-- The links that are left when a link is lost. -/
theorem graph_unlink [DecidableEq V] {peer : Links V Slot} (h : Wired peer) {v u : V} {i j : Slot}
    (hpeer : peer v i = some (u, j)) :
    graph (unlink peer v i) = (graph peer).deleteEdges {s(v, u)} := by
  have hback := h.twoWay hpeer
  have hwired : Wired (unlink peer v i) := by
    apply h.restrict
    · intro w k x l hlink
      obtain ⟨hold, hhere, hthere⟩ := unlink_eq_some.mp hlink
      exact unlink_eq_some.mpr ⟨h.twoWay hold, hthere, hhere⟩
    · exact fun hlink => (unlink_eq_some.mp hlink).1
  ext w x
  rw [hwired.adj_iff, deleteEdges_adj, h.adj_iff, Set.mem_singleton_iff]
  constructor
  · rintro ⟨k, l, hlink⟩
    obtain ⟨hold, hhere, hthere⟩ := unlink_eq_some.mp hlink
    refine ⟨⟨k, l, hold⟩, ?_⟩
    intro hedge
    rcases Sym2.eq_iff.mp hedge with ⟨rfl, rfl⟩ | ⟨rfl, rfl⟩
    · exact hhere (by rw [h.single hold hpeer])
    · exact hthere (by rw [h.single (h.twoWay hold) hpeer])
  · rintro ⟨⟨k, l, hold⟩, hedge⟩
    refine ⟨k, l, unlink_eq_some.mpr ⟨hold, ?_, ?_⟩⟩
    · intro heq
      obtain ⟨rfl, rfl⟩ := Prod.mk.inj heq
      rw [hpeer] at hold
      obtain ⟨rfl, rfl⟩ := Prod.mk.inj (Option.some.inj hold)
      exact hedge rfl
    · intro heq
      obtain ⟨rfl, rfl⟩ := Prod.mk.inj heq
      obtain ⟨rfl, rfl⟩ := Prod.mk.inj (ends_eq h.twoWay hold hpeer)
      exact hedge Sym2.eq_swap

theorem Losing.wired (h : Losing net) : Wired net.peer := by
  rw [← h.handshaken]
  exact h.sound.wired

/-- When nothing is left to be done, the two ends of a link do not both find that their part
is the bigger one. -/
theorem Losing.isSmallerPart_or [Fintype V] (h : Losing net) (hquiet : net.Quiet)
    (hsettled : net.Settled) (hcard : Fintype.card V < 2 ^ 15) {v u : V} {i j : Slot}
    (hpeer : net.peer v i = some (u, j))
    (hv : (net.connection v i).partnerId = (net.node u).nodeId)
    (hu : (net.connection u j).partnerId = (net.node v).nodeId)
    (hdiffer : (net.node v).nodeId ≠ (net.node u).nodeId ∨
      (net.connection v i).connectedClusterSize ≠ (net.connection u j).connectedClusterSize) :
    (net.node v).isSmallerPart i = true ∨ (net.node u).isSmallerPart j = true := by
  have hlink : net.handshaken v i = some (u, j) := by rwa [h.handshaken]
  have hback := handshaken_twoWay h.sound.balanced.twoWay hlink
  have hagree := (h.sound.tallied hquiet hsettled).agree hlink
  have hagree' := (h.sound.tallied hquiet hsettled).agree hback
  have hsize := h.sound.clusterSize_eq hquiet hsettled hcard v
  have hshare := h.sound.share_eq hquiet hsettled hcard hlink
  have hshare' := h.sound.share_eq hquiet hsettled hcard hback
  unfold connection at hv hu hdiffer hagree hagree' hshare hshare'
  rw [Node.isSmallerPart_iff, Node.isSmallerPart_iff, hv, hu, ← hagree', ← hagree,
    add_comm ((net.node u).connections j).connectedClusterSize]
  rw [← hagree] at hsize
  generalize ((net.node v).connections i).connectedClusterSize = a at *
  generalize ((net.node u).connections j).connectedClusterSize = b at *
  have hsum : (a + b).toInt = a.toInt + b.toInt := by
    rw [BitVec.toInt_add]
    rw [BitVec.toInt_add] at hsize
    have ha := BitVec.toInt_lt (x := a)
    have hb := BitVec.toInt_lt (x := b)
    rw [Int.bmod_def] at hsize ⊢
    split_ifs at hsize ⊢ <;> omega
  rw [hsum, add_sub_cancel_left, add_sub_cancel_right]
  rcases hdiffer with hids | hsizes
  · have hne : (net.node v).nodeId.toNat ≠ (net.node u).nodeId.toNat :=
      fun heq => hids (BitVec.eq_of_toNat_eq heq)
    rw [BitVec.lt_def, BitVec.lt_def]
    omega
  · have hne : a.toInt ≠ b.toInt := fun heq => hsizes (BitVec.eq_of_toInt_eq heq)
    omega

/-! ## A round -/

/-- The link at the connection is lost, and the node does not know it yet. -/
def Unaware (net : Net V) (v : V) (i : Slot) : Prop :=
  net.peer v i = none ∧ (net.connection v i).isConnected = true

/-- Every node has its old id or the one that it will have at the end of the round.  Where an
end does not know of the loss, nothing has happened yet. -/
structure Converging (net : Net V) (old target : V → ClusterId) : Prop where
  old_eq : ∀ {v i u j}, net.peer v i = some (u, j) → old v = old u
  target_eq : ∀ {v i u j}, net.peer v i = some (u, j) → target v = target u
  clusterId : ∀ v, (net.node v).clusterId = target v ∨ (net.node v).clusterId = old v
  message : ∀ {v i m}, m ∈ net.inbox v i → newOf m ≠ 0 → currentOf m = old v ∧ newOf m = target v
  spreading : Spreading net.peer (fun v => (net.node v).clusterId = target v)
    (fun m => newOf m ≠ 0) net.inbox
  silent : ∀ {v i w}, Unaware net v i → (graph net.peer).Reachable v w → ∀ k, net.inbox w k = []
  untouched : ∀ {v i w}, Unaware net v i → (graph net.peer).Reachable v w →
    (net.node w).clusterId = target w ∧ (net.node w).clusterId = old w
  heard : ∀ {v i}, Unaware net v i → (net.node v).isSmallerPart i = true → Heard net v i
  apart : ∀ {v i u j}, Unaware net v i → Unaware net u j → (graph net.peer).Reachable v u →
    (v, i) = (u, j)
  /-- Parts with one id are still to be told apart. -/
  separated : ∀ {v w}, target v = target w → (graph net.peer).Reachable v w ∨
    ∃ x k, Unaware net x k ∧ (net.node x).isSmallerPart k = true ∧
      ¬ ((graph net.peer).Reachable x v ↔ (graph net.peer).Reachable x w)

omit [DecidableEq V] in
/-- What is constant along the links is constant in a component. -/
theorem eq_of_reachable {peer : Links V Slot} (hw : Wired peer) {value : V → ClusterId}
    (hvalue : ∀ {v i u j}, peer v i = some (u, j) → value v = value u) {v w : V}
    (h : (graph peer).Reachable v w) : value v = value w := by
  obtain ⟨p⟩ := h
  induction p with
  | nil => rfl
  | cons hadj _ ih =>
      obtain ⟨i, j, hpeer⟩ := hw.adj_iff.mp hadj
      exact (hvalue hpeer).trans ih

section Round

variable {old target : V → ClusterId} {v : V} {i : Slot}

omit [DecidableEq V] in
/-- At the end of a round. -/
theorem Converging.clusterId_eq_iff (h : Converging net old target) (hw : Wired net.peer)
    (hquiet : net.Quiet) (hsettled : net.Settled) (v w : V) :
    (net.node v).clusterId = (net.node w).clusterId ↔ (graph net.peer).Reachable v w := by
  have htarget := h.spreading.all_informed hw hquiet
  rw [htarget v, htarget w]
  constructor
  · intro hsame
    rcases h.separated hsame with hreach | ⟨x, k, hunaware, _⟩
    · exact hreach
    · exact absurd (hsettled x k hunaware.1) (ne_false_of_eq_true hunaware.2)
  · exact eq_of_reachable hw h.target_eq

section Lost

variable {u : V} {j : Slot} {received receivedThere : ℕ}

theorem graph_lose (h : Losing net) (hpeer : net.peer v i = some (u, j)) :
    graph (net.apply (.lose v i received receivedThere)).peer =
      (graph net.peer).deleteEdges {s(v, u)} :=
  graph_unlink h.wired hpeer

/-- The two ends of the link that is lost are in different parts. -/
theorem Losing.lose_unreachable (h : Losing net) (hpeer : net.peer v i = some (u, j)) :
    ¬ (graph (net.apply (.lose v i received receivedThere)).peer).Reachable v u := by
  have hacyclic := h.sound.acyclic
  rw [h.handshaken] at hacyclic
  rw [graph_lose h hpeer]
  exact fun hreach => Forest.not_beyond_self hacyclic (h.wired.adj hpeer) hreach.symm

/-- Nobody but them has something to learn. -/
theorem Losing.lose_unaware (h : Losing net) (hsettled : net.Settled)
    (hpeer : net.peer v i = some (u, j)) {w : V} {k : Slot}
    (hunaware : Unaware (net.apply (.lose v i received receivedThere)) w k) :
    (w, k) = (v, i) ∨ (w, k) = (u, j) := by
  rcases unlink_eq_none.mp hunaware.1 with heq | hlink | hnone
  · exact Or.inl heq
  · exact Or.inr (ends_eq h.wired.twoWay hlink hpeer)
  · exact absurd hunaware.2 (ne_true_of_eq_false (hsettled w k hnone))

/-- Of the two parts, one will find that it is the smaller one. -/
theorem Losing.lose_separates [Fintype V] (h : Losing net) (hcard : Fintype.card V < 2 ^ 15)
    (hpartner : ∀ {v i u j}, net.peer v i = some (u, j) →
      (net.connection v i).partnerId = (net.node u).nodeId)
    (hquiet : net.Quiet) (hsettled : net.Settled) (hpeer : net.peer v i = some (u, j))
    (hdiffer : (net.node v).nodeId ≠ (net.node u).nodeId ∨
      (net.connection v i).connectedClusterSize ≠ (net.connection u j).connectedClusterSize)
    {y z : V} (hy : (graph (net.apply (.lose v i received receivedThere)).peer).Reachable y v)
    (hz : (graph (net.apply (.lose v i received receivedThere)).peer).Reachable z u) :
    ∃ x k, Unaware (net.apply (.lose v i received receivedThere)) x k ∧
      (net.node x).isSmallerPart k = true ∧
      ¬ ((graph (net.apply (.lose v i received receivedThere)).peer).Reachable x y ↔
        (graph (net.apply (.lose v i received receivedThere)).peer).Reachable x z) := by
  have hback := h.wired.twoWay hpeer
  have hcut : ¬ (graph (net.apply (.lose v i received receivedThere)).peer).Reachable v u :=
    h.lose_unreachable hpeer
  rcases h.isSmallerPart_or hquiet hsettled hcard hpeer (hpartner hpeer) (hpartner hback)
    hdiffer with hsmaller | hsmaller
  · refine ⟨v, i, ⟨unlink_eq_none.mpr (Or.inl rfl), ?_⟩, hsmaller, ?_⟩
    · exact h.linked v i (by simp [hpeer])
    · exact fun hiff => hcut ((hiff.mp hy.symm).trans hz)
  · refine ⟨u, j, ⟨unlink_eq_none.mpr (Or.inr (Or.inl hback)), ?_⟩, hsmaller, ?_⟩
    · exact h.linked u j (by simp [hback])
    · exact fun hiff => hcut ((hiff.mpr hz.symm).trans hy).symm

end Lost

/-- A round begins with the loss of a link. -/
theorem Converging.lose [Fintype V] (hlosing : Losing net) (hcard : Fintype.card V < 2 ^ 15)
    (hpartner : ∀ {v i u j}, net.peer v i = some (u, j) →
      (net.connection v i).partnerId = (net.node u).nodeId)
    (hids : ∀ v w, (net.node v).clusterId = (net.node w).clusterId ↔ (graph net.peer).Reachable v w)
    (hquiet : net.Quiet) (hsettled : net.Settled) {received receivedThere : ℕ}
    (henabled : net.Enabled (.lose v i received receivedThere))
    (hrenames : net.RenamesPart (.lose v i received receivedThere)) :
    Converging (net.apply (.lose v i received receivedThere))
      (fun w => (net.node w).clusterId) (fun w => (net.node w).clusterId) := by
  obtain ⟨⟨u, j⟩, hpeer, _⟩ := henabled
  obtain ⟨hdiffer, hheard, hheard'⟩ := hrenames _ hpeer
  have hcut : ¬ (graph (net.apply (.lose v i received receivedThere)).peer).Reachable v u :=
    hlosing.lose_unreachable hpeer
  have hends : ∀ {w k}, Unaware (net.apply (.lose v i received receivedThere)) w k →
      (w, k) = (v, i) ∨ (w, k) = (u, j) := hlosing.lose_unaware hsettled hpeer
  have hinbox : ∀ w k, (net.apply (.lose v i received receivedThere)).inbox w k = [] := by
    intro w k
    simp only [apply, cut, hquiet w k, List.take_nil, ite_self]
  have hsame : ∀ {w k x l}, (net.apply (.lose v i received receivedThere)).peer w k = some (x, l) →
      (net.node w).clusterId = (net.node x).clusterId := by
    intro w k x l hlink
    exact (hids w x).mpr (hlosing.wired.adj (unlink_eq_some.mp hlink).1).reachable
  constructor
  case old_eq => exact hsame
  case target_eq => exact hsame
  case clusterId => exact fun w => Or.inl rfl
  case spreading => exact Spreading.of_informed fun w => rfl
  case silent => exact fun _ _ k => hinbox _ k
  case untouched => exact fun _ _ => ⟨rfl, rfl⟩
  case message =>
    intro w k m hm
    rw [hinbox] at hm
    exact absurd hm List.not_mem_nil
  -- only the two ends of the lost link are unaware of it, and each of them is heard in its part
  case heard =>
    intro w k hunaware hsmaller
    rcases hends hunaware with heq | heq
    · obtain ⟨rfl, rfl⟩ := Prod.mk.inj heq
      exact hheard hsmaller
    · obtain ⟨rfl, rfl⟩ := Prod.mk.inj heq
      exact hheard' hsmaller
  case apart =>
    intro w k x l hunaware hunaware' hreach
    rcases hends hunaware with heq | heq <;> rcases hends hunaware' with heq' | heq'
    · exact heq.trans heq'.symm
    · rw [(Prod.mk.inj heq).1, (Prod.mk.inj heq').1] at hreach
      exact absurd hreach hcut
    · rw [(Prod.mk.inj heq).1, (Prod.mk.inj heq').1] at hreach
      exact absurd hreach.symm hcut
    · exact heq.trans heq'.symm
  case separated =>
    intro w x hsame
    have hreach := (hids w x).mp hsame
    have hgraph : graph (net.apply (.lose v i received receivedThere)).peer = _ :=
      graph_lose hlosing hpeer
    -- two nodes with one id are still connected, or on the two sides of the lost link
    rcases Forest.reachable_deleteEdges_cases v u hreach with hkept | ⟨hw, hx⟩ | ⟨hw, hx⟩
    · rw [← hgraph] at hkept
      exact Or.inl hkept
    · rw [← hgraph] at hw hx
      exact Or.inr (hlosing.lose_separates hcard hpartner hquiet hsettled hpeer hdiffer hw hx)
    · rw [← hgraph] at hw hx
      obtain ⟨y, k, hunaware, hsmaller, hnot⟩ :=
        hlosing.lose_separates hcard hpartner hquiet hsettled hpeer hdiffer hx hw
      exact Or.inr ⟨y, k, hunaware, hsmaller, fun hiff => hnot hiff.symm⟩

theorem Converging.deliver (h : Converging net old target) (hlosing : Losing net)
    {memory : ℕ → U8} (henabled : net.Enabled (.deliver v i memory)) :
    Converging (net.apply (.deliver v i memory)) old target := by
  obtain ⟨message, rest, hinbox⟩ := List.exists_cons_of_ne_nil henabled.2
  have hmem : message ∈ net.inbox v i := hinbox ▸ List.mem_cons_self
  have hupdate : IsUpdate message := (hlosing.sound.balanced.orderly henabled.1).updates
    (hlosing.handshakeDone v i henabled.1) message hmem
  have hid := hlosing.sound.balanced.nodeId v
  have hw := hlosing.wired
  obtain ⟨hrelayed, _, hcurrent, hnew⟩ := @Node.relayedUpdate_eq _ memory hupdate
  obtain ⟨hlinks, _⟩ := (net.node v).update_answer (i := i) memory hupdate
  have hsends := (net.node v).update_sends (i := i) memory hupdate hid
  have hclusterId := (net.node v).update_clusterId (i := i) memory hupdate hid
  rw [apply_deliver hinbox]
  generalize (net.node v).receivePacketHandler i (arrive message memory) = result at *
  have hsent : ∀ k, ∀ m ∈ sends result.2 k, m = Node.relayedUpdate message memory := by
    intro k m hm
    rw [hsends] at hm
    split_ifs at hm
    · exact List.mem_singleton.mp hm
    · exact absurd hm List.not_mem_nil
  have hother : ∀ {w}, w ≠ v → ((net.withInbox v i rest).after v result).node w = net.node w :=
    fun hw => after_node_other _ _ hw
  have hself : newOf message ≠ 0 → result.1.clusterId = target v := by
    intro hrenames
    obtain ⟨hold, htarget⟩ := h.message hmem hrenames
    rw [hclusterId, hold, htarget]
    split_ifs with hfollows
    · rfl
    · exact (h.clusterId v).resolve_right fun heq => hfollows ⟨heq.symm, htarget ▸ hrenames⟩
  have hkept : newOf message = 0 → result.1.clusterId = (net.node v).clusterId := by
    intro hrenames
    rw [hclusterId, if_neg fun hfollows => hfollows.2 hrenames]
  have hunaware : ∀ {w k}, Unaware ((net.withInbox v i rest).after v result) w k →
      Unaware net w k := by
    intro w k hunaware
    refine ⟨hunaware.1, ?_⟩
    have hconnected := hunaware.2
    unfold connection at hconnected ⊢
    by_cases hwv : w = v
    · subst hwv
      rwa [after_node, hlinks.isConnected] at hconnected
    · rwa [hother hwv] at hconnected
  -- a part whose end is still unaware is silent, and `v` has got a message
  have haway : ∀ {w k x}, Unaware net w k → (graph net.peer).Reachable w x → x ≠ v := by
    rintro w k x hlost hreach rfl
    have hnone := h.silent hlost hreach i
    rw [hinbox] at hnone
    exact List.cons_ne_nil _ _ hnone
  constructor
  case old_eq => exact h.old_eq
  case target_eq => exact h.target_eq
  case clusterId =>
    intro w
    by_cases hwv : w = v
    · subst hwv
      rw [after_node]
      by_cases hrenames : newOf message = 0
      · rw [hkept hrenames]
        exact h.clusterId w
      · exact Or.inl (hself hrenames)
    · rw [hother hwv]
      exact h.clusterId w
  case message =>
    intro w k m hm hrenames
    rcases mem_post_cases hm with hm | ⟨l, hpeer, hm⟩
    · refine h.message (mem_of_mem_setInbox ?_ hm) hrenames
      rw [hinbox]
      exact List.subset_cons_self _ _
    · -- what is relayed says what the UPDATE said
      rw [hsent l m hm, hnew] at hrenames
      have hpeer : net.peer w k = some (v, l) := hpeer
      rw [hsent l m hm, hcurrent, hnew, h.old_eq hpeer, h.target_eq hpeer]
      exact h.message hmem hrenames
  case spreading =>
    apply h.spreading.receive hw hinbox
    · intro w
      by_cases hwv : w = v
      · subst hwv
        rw [after_node]
        by_cases hrenames : newOf message = 0
        · rw [hkept hrenames]
          exact ⟨Or.inl, fun h => h.resolve_right fun hnews => hnews.2 hrenames⟩
        · exact iff_of_true (hself hrenames) (Or.inr ⟨rfl, hrenames⟩)
      · rw [hother hwv]
        exact ⟨Or.inl, fun h => h.resolve_right fun hnews => hwv hnews.1⟩
    · -- the news goes on over all the other links
      intro hrenames k hk hlinked
      have hdone := hlosing.handshakeDone v k (hlosing.linked v k hlinked)
      rw [hsends, if_pos ⟨hk, hdone⟩]
      exact ⟨_, List.mem_singleton_self _, by rwa [hnew]⟩
    · intro k m hm hrenames
      rwa [hsent k m hm, hnew] at hrenames
  case silent =>
    -- where an end does not know of the loss, nothing is delivered
    intro w k x hw' hreach l
    have hxv := haway (hunaware hw') hreach
    rw [after_inbox, withInbox_inbox, withInbox_peer, post_of_forall_ne, setInbox_node _ hxv]
    · exact h.silent (hunaware hw') hreach l
    · intro k hpeer
      exact haway (hunaware hw') (hreach.trans (hw.adj hpeer).reachable) rfl
  case untouched =>
    intro w k x hw' hreach
    rw [hother (haway (hunaware hw') hreach)]
    exact h.untouched (hunaware hw') hreach
  case heard =>
    intro w k hw'
    have hwv := haway (hunaware hw') (Reachable.refl w)
    unfold Heard connection
    rw [hother hwv]
    exact h.heard (hunaware hw')
  case apart =>
    intro w k x l hw' hx' hreach
    exact h.apart (hunaware hw') (hunaware hx') hreach
  case separated =>
    intro w x hsame
    refine (h.separated hsame).imp_right ?_
    rintro ⟨y, k, hy, hsmaller, hnot⟩
    have hyv := haway hy (Reachable.refl y)
    refine ⟨y, k, ⟨hy.1, ?_⟩, ?_, hnot⟩
    · unfold connection
      rw [hother hyv]
      exact hy.2
    · rw [hother hyv]
      exact hsmaller

omit [DecidableEq V] in
/-- What all nodes of a component will hold, one of them holds. -/
theorem Converging.exists_clusterId (h : Converging net old target) (hw : Wired net.peer) (w : V) :
    ∃ x, (net.node x).clusterId = target w := by
  obtain ⟨x, hreach, hx⟩ := h.spreading.source w
  exact ⟨x, hx.trans (eq_of_reachable hw h.target_eq hreach).symm⟩

open Classical in
/-- What the nodes will hold after the loss of connection `i` of `v` has been noticed. -/
noncomputable def renamed (net : Net V) (v : V) (i : Slot) (generated : ClusterId)
    (target : V → ClusterId) (w : V) : ClusterId :=
  if (net.node v).isSmallerPart i = true ∧ (graph net.peer).Reachable v w then generated
  else target w

omit [DecidableEq V] in
theorem renamed_here {generated : ClusterId} {w : V}
    (hsmaller : (net.node v).isSmallerPart i = true) (hreach : (graph net.peer).Reachable v w) :
    net.renamed v i generated target w = generated := if_pos ⟨hsmaller, hreach⟩

omit [DecidableEq V] in
theorem renamed_away {generated : ClusterId} {w : V} (hreach : ¬ (graph net.peer).Reachable v w) :
    net.renamed v i generated target w = target w := if_neg fun h => hreach h.2

omit [DecidableEq V] in
theorem renamed_bigger {generated : ClusterId} (hbigger : ¬ (net.node v).isSmallerPart i = true) :
    net.renamed v i generated target = target := by
  funext w
  exact if_neg fun h => hbigger h.1

/-! ### An end notices the loss -/

section Noticed

variable {reason : U8} {generated : ClusterId}

theorem node_disconnected {w : V} (hwv : w ≠ v) :
    (net.apply (.disconnected v i reason generated)).node w = net.node w := by
  rw [apply_disconnected_node, Function.update_of_ne hwv]

theorem clusterId_disconnected (hdone : (net.connection v i).handshakeDone = true) :
    ((net.apply (.disconnected v i reason generated)).node v).clusterId =
      if (net.node v).isSmallerPart i = true then generated else (net.node v).clusterId := by
  rw [apply_disconnected_node, Function.update_self, Node.disconnected_clusterId]
  simp only [show ((net.node v).connections i).handshakeDone = true from hdone, true_and]

/-- What the end sends; nothing else was on its way in its part. -/
theorem Converging.inbox_disconnected (h : Converging net old target) (hlost : Unaware net v i) :
    (net.apply (.disconnected v i reason generated)).inbox =
      post net.peer v (sends ((net.node v).disconnectionHandler i reason generated).2)
        net.inbox := by
  have hempty := h.silent hlost (Reachable.refl v) i
  calc (net.apply (.disconnected v i reason generated)).inbox
      = post net.peer v (sends ((net.node v).disconnectionHandler i reason generated).2)
          (setInbox net.inbox v i []) := rfl
    _ = _ := by rw [setInbox_eq_self hempty]

/-- The end tells all its neighbours. -/
theorem Losing.told (hlosing : Losing net) (hlost : Unaware net v i) {k : Slot}
    (hlinked : net.peer v k ≠ none) :
    ∃ m, sends ((net.node v).disconnectionHandler i reason generated).2 k = [m] ∧
      currentOf m = (net.connection v i).connectedClusterId ∧
      newOf m = if (net.node v).isSmallerPart i = true then generated else 0 := by
  have hki : k ≠ i := by
    rintro rfl
    exact hlinked hlost.1
  exact Node.disconnected_told _ reason generated (hlosing.handshakeDone v i hlost.2) hki
    (hlosing.handshakeDone v k (hlosing.linked v k hlinked))

/-- Who is unaware afterwards was so before, and is in another part. -/
theorem Converging.unaware_disconnected (h : Converging net old target) (hlost : Unaware net v i)
    {w : V} {k : Slot}
    (hunaware : Unaware (net.apply (.disconnected v i reason generated)) w k) :
    Unaware net w k ∧ ¬ (graph net.peer).Reachable v w := by
  have hne : (w, k) ≠ (v, i) := by
    intro heq
    obtain ⟨rfl, rfl⟩ := Prod.mk.inj heq
    have hclosed : ((net.apply (.disconnected w k reason generated)).connection w k).isConnected =
        false := by
      unfold connection
      rw [apply_disconnected_node, Function.update_self]
      exact (Node.disconnected_answer _ reason generated).1
    exact absurd hunaware.2 (ne_true_of_eq_false hclosed)
  have hold : Unaware net w k := by
    refine ⟨hunaware.1, ?_⟩
    have hconnected := hunaware.2
    rwa [disconnected_other hne] at hconnected
  exact ⟨hold, fun hreach => hne (h.apart hlost hold hreach).symm⟩

/-- Two parts that this end does not tell apart are still to be told apart by the same end as
before. -/
theorem Converging.witness_disconnected (h : Converging net old target) (hlost : Unaware net v i)
    {w x : V}
    (hex : ∃ y k, Unaware net y k ∧ (net.node y).isSmallerPart k = true ∧
      ¬ ((graph net.peer).Reachable y w ↔ (graph net.peer).Reachable y x))
    (hhere : (net.node v).isSmallerPart i = true →
      ((graph net.peer).Reachable v w ↔ (graph net.peer).Reachable v x)) :
    ∃ y k, Unaware (net.apply (.disconnected v i reason generated)) y k ∧
      ((net.apply (.disconnected v i reason generated)).node y).isSmallerPart k = true ∧
      ¬ ((graph net.peer).Reachable y w ↔ (graph net.peer).Reachable y x) := by
  obtain ⟨y, k, hy, hsmaller, hnot⟩ := hex
  have hyv : y ≠ v := by
    rintro rfl
    have hk := (Prod.mk.inj (h.apart hlost hy (Reachable.refl y))).2
    exact hnot (hhere (by rwa [hk]))
  refine ⟨y, k, ⟨hy.1, ?_⟩, ?_, hnot⟩
  · unfold connection
    rw [node_disconnected hyv]
    exact hy.2
  · rw [node_disconnected hyv]
    exact hsmaller

theorem Converging.clusterId_noticed (h : Converging net old target) (hlosing : Losing net)
    (hlost : Unaware net v i) (w : V) :
    ((net.apply (.disconnected v i reason generated)).node w).clusterId =
        net.renamed v i generated target w ∨
      ((net.apply (.disconnected v i reason generated)).node w).clusterId = old w := by
  by_cases hwv : w = v
  · subst hwv
    rw [clusterId_disconnected (hlosing.handshakeDone w i hlost.2)]
    split_ifs with hsmaller
    · exact Or.inl (renamed_here hsmaller (Reachable.refl w)).symm
    · rw [renamed_bigger hsmaller]
      exact h.clusterId w
  · rw [node_disconnected hwv]
    by_cases hreach : (graph net.peer).Reachable v w
    · exact Or.inr (h.untouched hlost hreach).2
    · rw [renamed_away hreach]
      exact h.clusterId w

/-- An UPDATE on its way is an old one in another part, or it is from this end. -/
theorem Converging.message_noticed (h : Converging net old target) (hlosing : Losing net)
    (hlost : Unaware net v i) {w : V} {k : Slot} {m : Message}
    (hm : m ∈ (net.apply (.disconnected v i reason generated)).inbox w k) (hrenames : newOf m ≠ 0) :
    currentOf m = old w ∧ newOf m = net.renamed v i generated target w := by
  have hw := hlosing.wired
  rw [h.inbox_disconnected hlost] at hm
  rcases mem_post_cases hm with hold | ⟨l, hpeer, hnew⟩
  · have hreach : ¬ (graph net.peer).Reachable v w := by
      intro hreach
      rw [h.silent hlost hreach] at hold
      exact List.not_mem_nil hold
    rw [renamed_away hreach]
    exact h.message hold hrenames
  · have hback := hw.twoWay hpeer
    have hlinked : net.peer v l ≠ none := by simp [hback]
    obtain ⟨m', hsends, hcurrent, hnewOf⟩ := hlosing.told hlost hlinked
    obtain rfl : m = m' := by rwa [hsends, List.mem_singleton] at hnew
    by_cases hsmaller : (net.node v).isSmallerPart i = true
    · rw [if_pos hsmaller] at hnewOf
      rw [hcurrent, hnewOf, renamed_here hsmaller (hw.adj hback).reachable]
      refine ⟨?_, rfl⟩
      rcases h.heard hlost hsmaller with hrecorded | halone
      · rw [hrecorded, (h.untouched hlost (Reachable.refl v)).2, h.old_eq hback]
      · have hli : l ≠ i := by
          rintro rfl
          exact absurd (hlost.1.symm.trans hback) (by simp)
        have hdone' := hlosing.handshakeDone v l (hlosing.linked v l hlinked)
        exact absurd (halone l hli) (ne_false_of_eq_true hdone')
    · rw [if_neg hsmaller] at hnewOf
      exact absurd hnewOf hrenames

/-- The news starts to spread in the smaller part; the bigger one has no news. -/
theorem Converging.spreading_noticed (h : Converging net old target) (hlosing : Losing net)
    (hlost : Unaware net v i) (hfresh : Fresh net generated) :
    Spreading net.peer
      (fun w => ((net.apply (.disconnected v i reason generated)).node w).clusterId =
        net.renamed v i generated target w)
      (fun m => newOf m ≠ 0) (net.apply (.disconnected v i reason generated)).inbox := by
  have hw := hlosing.wired
  have hself := @clusterId_disconnected _ _ net v i reason generated
    (hlosing.handshakeDone v i hlost.2)
  rw [h.inbox_disconnected hlost]
  by_cases hsmaller : (net.node v).isSmallerPart i = true
  · apply h.spreading.start hw fun w hreach => h.silent hlost hreach
    · rw [hself, if_pos hsmaller, renamed_here hsmaller (Reachable.refl v)]
    · intro w hreach hsame
      by_contra hwv
      rw [node_disconnected hwv, renamed_here hsmaller hreach] at hsame
      exact hfresh.clusterId w hsame.symm
    · intro w hreach
      rw [node_disconnected fun heq : w = v => hreach (heq ▸ Reachable.refl w), renamed_away hreach]
    · intro k hlinked
      obtain ⟨m, hsends, _, hnewOf⟩ := hlosing.told hlost hlinked
      rw [if_pos hsmaller] at hnewOf
      exact ⟨m, hsends ▸ List.mem_singleton_self m, hnewOf ▸ hfresh.ne_zero⟩
  · have hsame : ∀ w, ((net.apply (.disconnected v i reason generated)).node w).clusterId =
        (net.node w).clusterId := by
      intro w
      by_cases hwv : w = v
      · rw [hwv, hself, if_neg hsmaller]
      · rw [node_disconnected hwv]
    simp only [hsame, renamed_bigger hsmaller]
    apply h.spreading.without_news hw
    intro k hlinked m hm
    obtain ⟨m', hsends, _, hnewOf⟩ := hlosing.told hlost hlinked
    rw [hsends, List.mem_singleton] at hm
    rw [if_neg hsmaller] at hnewOf
    exact fun hrenames => hrenames (hm ▸ hnewOf)

/-- The new id is nobody's, so it tells the smaller part apart from all others. -/
theorem Converging.separated_noticed (h : Converging net old target) (hlosing : Losing net)
    (hlost : Unaware net v i) (hfresh : Fresh net generated) {w x : V}
    (hsame : net.renamed v i generated target w = net.renamed v i generated target x) :
    (graph net.peer).Reachable w x ∨
      ∃ y k, Unaware (net.apply (.disconnected v i reason generated)) y k ∧
        ((net.apply (.disconnected v i reason generated)).node y).isSmallerPart k = true ∧
        ¬ ((graph net.peer).Reachable y w ↔ (graph net.peer).Reachable y x) := by
  by_cases hsmaller : (net.node v).isSmallerPart i = true
  · have hnew : ∀ {y z}, (graph net.peer).Reachable v y → ¬ (graph net.peer).Reachable v z →
        net.renamed v i generated target y ≠ net.renamed v i generated target z := by
      intro y z hy hz
      rw [renamed_here hsmaller hy, renamed_away hz]
      obtain ⟨x, hx⟩ := h.exists_clusterId hlosing.wired z
      rw [← hx]
      exact hfresh.clusterId x
    by_cases hvw : (graph net.peer).Reachable v w
    · by_cases hvx : (graph net.peer).Reachable v x
      · exact Or.inl (hvw.symm.trans hvx)
      · exact absurd hsame (hnew hvw hvx)
    · by_cases hvx : (graph net.peer).Reachable v x
      · exact absurd hsame.symm (hnew hvx hvw)
      · rw [renamed_away hvw, renamed_away hvx] at hsame
        exact (h.separated hsame).imp_right fun hex =>
          h.witness_disconnected hlost hex fun _ => iff_of_false hvw hvx
  · rw [renamed_bigger hsmaller] at hsame
    exact (h.separated hsame).imp_right fun hex =>
      h.witness_disconnected hlost hex fun hsmaller' => absurd hsmaller' hsmaller

theorem Converging.disconnect (h : Converging net old target) (hlosing : Losing net)
    (henabled : net.Enabled (.disconnected v i reason generated)) (hfresh : Fresh net generated) :
    Converging (net.apply (.disconnected v i reason generated)) old
      (net.renamed v i generated target) := by
  have hlost : Unaware net v i := henabled
  have hw := hlosing.wired
  constructor
  case old_eq => exact h.old_eq
  case target_eq =>
    intro w k x l hpeer
    have hiff : (graph net.peer).Reachable v w ↔ (graph net.peer).Reachable v x :=
      ⟨fun hreach => hreach.trans (hw.adj hpeer).reachable,
        fun hreach => hreach.trans (hw.adj hpeer).symm.reachable⟩
    unfold renamed
    rw [hiff, h.target_eq hpeer]
  case clusterId => exact h.clusterId_noticed hlosing hlost
  case message => exact fun hm hrenames => h.message_noticed hlosing hlost hm hrenames
  case spreading => exact h.spreading_noticed hlosing hlost hfresh
  case silent =>
    intro w k x hunaware hreach l
    obtain ⟨hold, haway⟩ := h.unaware_disconnected hlost hunaware
    rw [h.inbox_disconnected hlost, post_of_forall_ne]
    · exact h.silent hold hreach l
    · intro k hpeer
      exact haway (hreach.trans (hw.adj hpeer).reachable).symm
  case untouched =>
    intro w k x hunaware hreach
    obtain ⟨hold, haway⟩ := h.unaware_disconnected hlost hunaware
    have hx : ¬ (graph net.peer).Reachable v x := fun hvx => haway (hvx.trans hreach.symm)
    rw [renamed_away hx, node_disconnected fun heq : x = v => hx (heq ▸ Reachable.refl x)]
    exact h.untouched hold hreach
  case heard =>
    intro w k hunaware
    obtain ⟨hold, haway⟩ := h.unaware_disconnected hlost hunaware
    unfold Heard connection
    rw [node_disconnected fun heq : w = v => haway (heq ▸ Reachable.refl w)]
    exact h.heard hold
  case apart =>
    intro w k x l hunaware hunaware' hreach
    exact h.apart (h.unaware_disconnected hlost hunaware).1
      (h.unaware_disconnected hlost hunaware').1 hreach
  case separated => exact fun hsame => h.separated_noticed hlosing hlost hfresh hsame

end Noticed

end Round

/-! ## All rounds -/

structure Renaming (net : Net V) : Prop where
  losing : Losing net
  partnerId : ∀ {v i u j}, net.peer v i = some (u, j) →
    (net.connection v i).partnerId = (net.node u).nodeId
  converging : ∃ old target, Converging net old target

theorem Agreed.renaming [Fintype V] (h : Agreed net) : Renaming net := by
  refine ⟨h.counted.losing, h.partnerId, fun v => (net.node v).clusterId,
    fun v => (net.node v).clusterId, ?_⟩
  have haware : ∀ {v i}, ¬ Unaware net v i := by
    intro v i hunaware
    have hunconnected := (h.counted.unlinked v i hunaware.1).1
    exact absurd hunaware.2 (ne_true_of_eq_false hunconnected)
  refine ⟨fun _ => h.clusterId _ _, fun _ => h.clusterId _ _, fun _ => Or.inl rfl, ?_,
    Spreading.of_informed fun _ => rfl, fun hv => absurd hv haware, fun hv => absurd hv haware,
    fun hv => absurd hv haware, fun hv => absurd hv haware, ?_⟩
  · intro v i m hm
    rw [h.counted.quiet] at hm
    exact absurd hm List.not_mem_nil
  · exact fun {v w} _ => Or.inl (h.counted.tree.tree.connected.preconnected v w)

/-- The partner of a connection is the node at its other end. -/
theorem Renaming.partnerId_apply (h : Renaming net) {event : Event V} (henabled : net.Enabled event)
    (hloses : net.Loses event) {v u : V} {i j : Slot}
    (hpeer : (net.apply event).peer v i = some (u, j)) :
    ((net.apply event).connection v i).partnerId = ((net.apply event).node u).nodeId := by
  cases event with
  | establish _ _ _ _ => exact absurd hloses id
  | connected _ _ => exact absurd hloses id
  | deliver w k memory =>
      obtain ⟨message, rest, hinbox⟩ := List.exists_cons_of_ne_nil henabled.2
      have hmem : message ∈ net.inbox w k := hinbox ▸ List.mem_cons_self
      have hupdate : IsUpdate message := (h.losing.sound.balanced.orderly henabled.1).updates
        (h.losing.handshakeDone w k henabled.1) message hmem
      have hid := h.losing.sound.balanced.nodeId w
      rw [apply_deliver hinbox] at hpeer ⊢
      have hpeer : net.peer v i = some (u, j) := hpeer
      have hpartner : ∀ x l, (((net.withInbox w k rest).after w
          ((net.node w).receivePacketHandler k (arrive message memory))).connection x l).partnerId =
            (net.connection x l).partnerId := by
        intro x l
        unfold connection
        by_cases hx : x = w
        · subst hx
          rw [after_node]
          exact Node.update_partnerId _ memory hupdate hid l
        · rw [after_node_other _ _ hx, withInbox_node]
      -- an UPDATE changes neither the partner of a connection nor the id of a node
      have hnode : ∀ x, (((net.withInbox w k rest).after w
          ((net.node w).receivePacketHandler k (arrive message memory))).node x).nodeId =
            (net.node x).nodeId := by
        intro x
        by_cases hx : x = w
        · subst hx
          rw [after_node]
          exact ((net.node x).update_answer memory hupdate).1.nodeId
        · rw [after_node_other _ _ hx, withInbox_node]
      rw [hpartner, hnode]
      exact h.partnerId hpeer
  | lose w k received receivedThere => exact h.partnerId (unlink_eq_some.mp hpeer).1
  | disconnected w k reason generated =>
      have hpeer : net.peer v i = some (u, j) := hpeer
      have hne : (v, i) ≠ (w, k) := by
        intro heq
        rw [(Prod.mk.inj heq).1, (Prod.mk.inj heq).2, henabled.1] at hpeer
        exact absurd hpeer (by simp)
      rw [disconnected_other hne, h.partnerId hpeer, apply_disconnected_node]
      by_cases hu : u = w
      · subst hu
        rw [Function.update_self]
        exact ((net.node u).disconnectionHandler_counts k reason generated).1.symm
      · rw [Function.update_of_ne hu]

theorem Renaming.step [Fintype V] (h : Renaming net) (hcard : Fintype.card V < 2 ^ 15)
    {event : Event V} (henabled : net.Enabled event) (hturn : net.LosesInTurn event)
    (hrenames : net.RenamesPart event) : Renaming (net.apply event) := by
  refine ⟨h.losing.step henabled hturn.loses,
    fun hpeer => h.partnerId_apply henabled hturn.loses hpeer, ?_⟩
  obtain ⟨old, target, hconverging⟩ := h.converging
  cases event with
  | establish _ _ _ _ => exact absurd hturn id
  | connected _ _ => exact absurd hturn id
  | deliver v i memory => exact ⟨old, target, hconverging.deliver h.losing henabled⟩
  | lose v i received receivedThere =>
      obtain ⟨hquiet, hsettled⟩ := hturn
      exact ⟨_, _, Converging.lose h.losing hcard h.partnerId
        (hconverging.clusterId_eq_iff h.losing.wired hquiet hsettled) hquiet hsettled henabled
        hrenames⟩
  | disconnected v i reason generated =>
      exact ⟨old, _, hconverging.disconnect h.losing henabled hturn⟩

theorem Renaming.run [Fintype V] (h : Renaming net) (hcard : Fintype.card V < 2 ^ 15)
    {events : List (Event V)}
    (hrun : Run (fun net event => net.LosesInTurn event ∧ net.RenamesPart event) net events net') :
    Renaming net' :=
  hrun.preserves (fun _ _ hrenaming henabled hallowed =>
    hrenaming.step hcard henabled hallowed.1 hallowed.2) h

/-- **Cluster ids after losses.**  From a tree with one id, in every run in which links are lost
one after the other, and in which the smaller part is renamed by an end that is heard in it,
when nothing is left to be done two nodes have the same id if and only if they are still
connected. -/
theorem clusterIds_agree [Fintype V] (hagreed : Agreed net) {events : List (Event V)}
    (hrun : Run (fun net event => net.LosesInTurn event ∧ net.RenamesPart event) net events net')
    (hquiet : net'.Quiet) (hsettled : net'.Settled) (v w : V) :
    (net'.node v).clusterId = (net'.node w).clusterId ↔ (graph net'.peer).Reachable v w := by
  have hcard : Fintype.card V < 2 ^ 15 := by
    have hsize := hagreed.counted.clusterSize v
    have hlt := BitVec.toInt_lt (x := (net.node v).clusterSize)
    omega
  have hrenaming := hagreed.renaming.run hcard hrun
  obtain ⟨_, _, hconverging⟩ := hrenaming.converging
  exact hconverging.clusterId_eq_iff hrenaming.losing.wired hquiet hsettled v w

section Decidable

variable [Fintype V]

instance (net : Net V) (generated : ClusterId) : Decidable (Fresh net generated) :=
  decidable_of_iff (generated ≠ 0 ∧ (∀ v, generated ≠ (net.node v).clusterId) ∧
      ∀ v i, generated ≠ (net.connection v i).connectedClusterId)
    ⟨fun ⟨hzero, hid, hrecorded⟩ => ⟨hzero, hid, hrecorded⟩,
      fun h => ⟨h.ne_zero, h.clusterId, h.connectedClusterId⟩⟩

instance (net : Net V) (event : Event V) : Decidable (net.LosesInTurn event) :=
  match event with
  | .establish _ _ _ _ => isFalse id
  | .connected _ _ => isFalse id
  | .deliver _ _ _ => isTrue trivial
  | .lose _ _ _ _ => inferInstanceAs (Decidable (net.Quiet ∧ net.Settled))
  | .disconnected _ _ _ generated => inferInstanceAs (Decidable (Fresh net generated))

instance (net : Net V) (v : V) (i : Slot) : Decidable (net.Heard v i) := by
  unfold Heard
  infer_instance

instance (net : Net V) (event : Event V) : Decidable (net.RenamesPart event) :=
  match event with
  | .lose v i _ _ => inferInstanceAs (Decidable (∀ p, net.peer v i = some p → _ ∧ _ ∧ _))
  | .establish _ _ _ _ => isTrue trivial
  | .connected _ _ => isTrue trivial
  | .deliver _ _ _ => isTrue trivial
  | .disconnected _ _ _ _ => isTrue trivial

end Decidable

theorem chain_agreed : Agreed (chain 3 (numbered 3)) where
  counted := chain_counted
  partnerId := by decide
  clusterId := fun _ _ => rfl
  connectedClusterId := by decide

theorem clusterIds_agree_chain :
    ((losesLink.foldl apply (chain 3 (numbered 3))).node 0).clusterId =
        ((losesLink.foldl apply (chain 3 (numbered 3))).node 2).clusterId ↔
      (graph (losesLink.foldl apply (chain 3 (numbered 3))).peer).Reachable 0 2 :=
  clusterIds_agree chain_agreed (Run.of_replays (by decide +kernel)) (by decide +kernel)
    (by decide +kernel) 0 2

/-- Ten nodes lose the link between 4 and 5, and node 4 renames the nodes 0 to 4.  The record of
node 3 for its connection to node 2 is not renewed, and names the old id when this link is
lost, too: node 4 does not follow. -/
def losesTwo : List (Event (Fin 10)) :=
  [.lose 4 outConnection 0 0, .disconnected 4 outConnection 8 100, .disconnected 5 inConnection 8 101,
    .deliver 3 outConnection zeros, .deliver 2 outConnection zeros, .deliver 1 outConnection zeros,
    .deliver 0 outConnection zeros, .deliver 6 inConnection zeros, .deliver 7 inConnection zeros,
    .deliver 8 inConnection zeros, .deliver 9 inConnection zeros,
    .lose 2 outConnection 0 0, .disconnected 2 outConnection 8 102, .disconnected 3 inConnection 8 103,
    .deliver 1 outConnection zeros, .deliver 0 outConnection zeros, .deliver 4 inConnection zeros]

theorem chain_agreed_ten : Agreed (chain 10 (numbered 10)) where
  counted := .of_tallied (chain_handshakenTree 9 (numbered 10)) (by decide) (by decide)
    (fun _ _ => rfl) (by decide +kernel) (by decide) ⟨by decide +kernel, by decide +kernel,
      by decide +kernel⟩
  partnerId := by decide +kernel
  clusterId := fun _ _ => rfl
  connectedClusterId := by decide +kernel

/-- The nodes 3 and 4 are linked, and have different ids. -/
theorem clusterIds_disagree : ¬ ∀ (net : Net (Fin 10)), Agreed net → ∀ events net',
    Run LosesInTurn net events net' → net'.Quiet → net'.Settled → ∀ v w,
      (net'.node v).clusterId = (net'.node w).clusterId ↔ (graph net'.peer).Reachable v w := by
  intro h
  have hrun := h _ chain_agreed_ten losesTwo _ (Run.of_replays (by decide +kernel))
    (by decide +kernel) (by decide +kernel) 3 4
  have hadj : (graph (losesTwo.foldl apply (chain 10 (numbered 10))).peer).Adj 3 4 := by
    rw [graph, fromRel_adj]
    exact ⟨by decide, Or.inl ⟨outConnection, inConnection, by decide +kernel⟩⟩
  have hne : ((losesTwo.foldl apply (chain 10 (numbered 10))).node 3).clusterId ≠
      ((losesTwo.foldl apply (chain 10 (numbered 10))).node 4).clusterId := by decide +kernel
  exact hne (hrun.mpr hadj.reachable)

end Net

end FruityMesh.Mesh
