import FruityMesh.Mesh.Accounting
import FruityMesh.Mesh.Balance
import FruityMesh.Mesh.Tree

/-!
# The size of a cluster

What `clusterSize` and `connectedClusterSize` are worth when nothing is on its way: the
counts of a mesh in balance are the numbers of nodes, as long as the links with a handshake
form a forest (`Sound`).  A node that joins alone adds a leaf to it, so it stays one.

`sizes_agree` is about nodes that start alone and join, `sizes_recover` about a tree
that loses links.
-/

namespace FruityMesh.Mesh

open LittleEndian Transport Ports SimpleGraph
open Node (zeros)

namespace Net

variable {V : Type*}

/-- The links of which both ends have done the handshake. -/
def handshaken (net : Net V) : Links V Slot := fun v i =>
  (net.peer v i).filter fun p =>
    (net.connection v i).handshakeDone && (net.connection p.1 p.2).handshakeDone

theorem handshaken_eq_some {net : Net V} {v u : V} {i j : Slot} :
    net.handshaken v i = some (u, j) ↔ net.peer v i = some (u, j) ∧
      (net.connection v i).handshakeDone = true ∧ (net.connection u j).handshakeDone = true := by
  simp [handshaken, Option.filter_eq_some_iff]

/-- The counts are in balance, and the links with a handshake form a forest. -/
structure Sound [DecidableEq V] (net : Net V) : Prop where
  balanced : Balanced net
  wired : Wired net.handshaken
  acyclic : (graph net.handshaken).IsAcyclic

variable [DecidableEq V] {net net' : Net V}

omit [DecidableEq V] in
theorem handshaken_twoWay
    (htwoWay : ∀ {v i u j}, net.peer v i = some (u, j) → net.peer u j = some (v, i)) {v u : V}
    {i j : Slot} (hlink : net.handshaken v i = some (u, j)) : net.handshaken u j = some (v, i) := by
  obtain ⟨hpeer, hv, hu⟩ := handshaken_eq_some.mp hlink
  exact handshaken_eq_some.mpr ⟨htwoWay hpeer, hu, hv⟩

omit [DecidableEq V] in
/-- An event after which no link has a handshake that had none before. -/
theorem handshaken_restrict (hwired : Wired net.handshaken)
    (hacyclic : (graph net.handshaken).IsAcyclic)
    (htwoWay : ∀ {v i u j}, net'.peer v i = some (u, j) → net'.peer u j = some (v, i))
    (hsome : ∀ {v i u j}, net'.peer v i = some (u, j) →
      (net'.connection v i).handshakeDone = true → (net'.connection u j).handshakeDone = true →
        net.peer v i = some (u, j) ∧ (net.connection v i).handshakeDone = true ∧
          (net.connection u j).handshakeDone = true) :
    Wired net'.handshaken ∧ (graph net'.handshaken).IsAcyclic := by
  have hkept : ∀ {v i p}, net'.handshaken v i = some p → net.handshaken v i = some p := by
    intro v i p hlink
    obtain ⟨hpeer, hv, hu⟩ := handshaken_eq_some.mp hlink
    exact handshaken_eq_some.mpr (hsome hpeer hv hu)
  have hwired' := hwired.restrict (handshaken_twoWay htwoWay) hkept
  exact ⟨hwired', hacyclic.anti (hwired.graph_le hwired' hkept)⟩

theorem Sound.restrict (h : Sound net) (hbalanced : Balanced net')
    (hsome : ∀ {v i u j}, net'.peer v i = some (u, j) →
      (net'.connection v i).handshakeDone = true → (net'.connection u j).handshakeDone = true →
        net.peer v i = some (u, j) ∧ (net.connection v i).handshakeDone = true ∧
          (net.connection u j).handshakeDone = true) : Sound net' := by
  obtain ⟨hwired, hacyclic⟩ := handshaken_restrict h.wired h.acyclic hbalanced.twoWay hsome
  exact ⟨hbalanced, hwired, hacyclic⟩

/-! ## One step -/

section Step

variable {v : V} {i : Slot}

theorem deliver_other {message : Message} {rest : List Message} {memory : ℕ → U8}
    (hinbox : net.inbox v i = message :: rest) {w : V} {k : Slot} (hne : (w, k) ≠ (v, i)) :
    (net.apply (.deliver v i memory)).connection w k = net.connection w k := by
  rw [apply_deliver hinbox]
  unfold connection
  by_cases hw : w = v
  · subst hw
    have hk : k ≠ i := fun heq => hne (heq ▸ rfl)
    rw [after_node, Node.receivePacketHandler_other _ hk]
  · rw [after_node_other _ _ hw, withInbox_node]

theorem disconnected_other {reason : U8} {generated : ClusterId} {w : V} {k : Slot}
    (hne : (w, k) ≠ (v, i)) :
    (net.apply (.disconnected v i reason generated)).connection w k = net.connection w k := by
  unfold connection
  rw [apply_disconnected_node]
  by_cases hw : w = v
  · subst hw
    have hk : k ≠ i := fun heq => hne (heq ▸ rfl)
    rw [Function.update_self]
    exact (Node.disconnectionHandler_counts _ i _ _).2.2.2 k hk
  · rw [Function.update_of_ne hw]

/-- A packet arrives.  It is only at a node without a handshake that the last packet of one makes
another node its partner, so the links with a handshake stay a forest. -/
theorem handshaken_deliver (hwired : Wired net.handshaken)
    (hacyclic : (graph net.handshaken).IsAcyclic)
    (htwoWay : ∀ {v i u j}, net.peer v i = some (u, j) → net.peer u j = some (v, i))
    (hloopless : ∀ {v i u j}, net.peer v i = some (u, j) → v ≠ u) {message : Message}
    {rest : List Message} {memory : ℕ → U8} (hinbox : net.inbox v i = message :: rest)
    (halone : ∀ {u j}, net.peer v i = some (u, j) → (net.connection v i).handshakeDone = false →
      (net.connection u j).handshakeDone = true → ∀ k, (net.connection v k).handshakeDone = false) :
    Wired (net.apply (.deliver v i memory)).handshaken ∧
      (graph (net.apply (.deliver v i memory)).handshaken).IsAcyclic := by
  have hpeers : (net.apply (.deliver v i memory)).peer = net.peer := by
    rw [apply_deliver hinbox]
    rfl
  have htwoWay' : ∀ {w k x l}, (net.apply (.deliver v i memory)).peer w k = some (x, l) →
      (net.apply (.deliver v i memory)).peer x l = some (w, k) := by
    intro w k x l hpeer
    rw [hpeers] at hpeer ⊢
    exact htwoWay hpeer
  have hother : ∀ {w k}, (w, k) ≠ (v, i) → (net.apply (.deliver v i memory)).connection w k =
      net.connection w k := deliver_other hinbox
  by_cases hnew : ∃ u j, (net.apply (.deliver v i memory)).handshaken v i = some (u, j) ∧
      (net.connection v i).handshakeDone = false
  · obtain ⟨u, j, hlink, hundone⟩ := hnew
    obtain ⟨hpeer, hdone, hpartner⟩ := handshaken_eq_some.mp hlink
    rw [hpeers] at hpeer
    have hvu := hloopless hpeer
    rw [hother fun heq => hvu (Prod.mk.inj heq).1.symm] at hpartner
    -- the packet completes the handshake: one link is new, at a node that had none
    have hjoined : Joined net.handshaken (net.apply (.deliver v i memory)).handshaken v i u j := by
      refine ⟨handshaken_twoWay htwoWay', hlink, hvu, ?_, ?_⟩
      · intro k
        by_contra hsome
        obtain ⟨p, hp⟩ := Option.ne_none_iff_exists'.mp hsome
        obtain ⟨_, hk, _⟩ := handshaken_eq_some.mp hp
        exact absurd (halone hpeer hundone hpartner k) (ne_false_of_eq_true hk)
      · rintro w k ⟨x, l⟩ hwx
        obtain ⟨hpeer', hw, hx⟩ := handshaken_eq_some.mp hwx
        rw [hpeers] at hpeer'
        by_cases hhere : (w, k) = (v, i)
        · exact Or.inr (Or.inl hhere)
        · by_cases hthere : (x, l) = (v, i)
          · obtain ⟨rfl, rfl⟩ := Prod.mk.inj hthere
            have hback := htwoWay hpeer'
            exact Or.inr (Or.inr (Option.some.inj (hback.symm.trans hpeer)))
          · rw [hother hhere] at hw
            rw [hother hthere] at hx
            exact Or.inl (handshaken_eq_some.mpr ⟨hpeer', hw, hx⟩)
    exact ⟨hjoined.wired hwired, hjoined.isAcyclic hwired hacyclic⟩
  -- no handshake is completed, so every link with one has had it before
  · apply handshaken_restrict hwired hacyclic htwoWay'
    have hold : ∀ {w k x l}, (net.apply (.deliver v i memory)).handshaken w k = some (x, l) →
        (net.connection w k).handshakeDone = true := by
      intro w k x l hlink
      by_cases hhere : (w, k) = (v, i)
      · obtain ⟨rfl, rfl⟩ := Prod.mk.inj hhere
        by_contra hundone
        exact hnew ⟨x, l, hlink, Bool.eq_false_of_not_eq_true hundone⟩
      · obtain ⟨_, hdone, _⟩ := handshaken_eq_some.mp hlink
        rwa [hother hhere] at hdone
    intro w k x l hpeer hw hx
    have hlink := handshaken_eq_some.mpr ⟨hpeer, hw, hx⟩
    exact ⟨by rwa [hpeers] at hpeer, hold hlink, hold (handshaken_twoWay htwoWay' hlink)⟩

theorem Sound.deliver (h : Sound net) {memory : ℕ → U8}
    (henabled : net.Enabled (.deliver v i memory)) (hjoins : net.JoinsAlone (.deliver v i memory)) :
    Sound (net.apply (.deliver v i memory)) := by
  have hbalanced := h.balanced.deliver henabled hjoins
  obtain ⟨message, rest, hinbox⟩ := List.exists_cons_of_ne_nil henabled.2
  have halone : ∀ {u j}, net.peer v i = some (u, j) →
      (net.connection v i).handshakeDone = false → (net.connection u j).handshakeDone = true →
        ∀ k, (net.connection v k).handshakeDone = false := by
    intro u j hpeer hundone hpartner k
    -- it is an ACK_2 that has arrived
    obtain ⟨_, _, _, ack, rest', hack, hisAck, _⟩ :=
      (h.balanced.linked hpeer).confirming hundone hpartner
    have hack : net.inbox v i = ack :: rest' := hack
    simp only [JoinsAlone, hack] at hjoins
    by_cases hk : k = i
    · rw [hk]
      exact hundone
    · exact (hjoins hisAck.type).1 k hk
  obtain ⟨hwired, hacyclic⟩ := handshaken_deliver h.wired h.acyclic h.balanced.twoWay
    h.balanced.loopless hinbox halone
  exact ⟨hbalanced, hwired, hacyclic⟩

/-- Where a link is established there is no handshake yet. -/
theorem handshaken_establish {u : V} {handle : U16}
    (henabled : net.Enabled (.establish v i u handle))
    (hundone : ∀ w k, (net.connection w k).isConnected = false →
      (net.connection w k).handshakeDone = false) :
    (net.apply (.establish v i u handle)).handshaken = net.handshaken := by
  obtain ⟨hvu, _, hpeer, hunconnected, hpeer', hunconnected'⟩ := henabled
  have hdone : ∀ w k, ((net.apply (.establish v i u handle)).connection w k).handshakeDone =
      (net.connection w k).handshakeDone :=
    establish_field (·.handshakeDone) net v u i handle (hundone v i hunconnected).symm
  funext w k
  apply Option.ext
  rintro ⟨x, l⟩
  rw [handshaken_eq_some, handshaken_eq_some, hdone, hdone]
  refine and_congr_left fun ⟨hw, hx⟩ => ?_
  have hfree : (w, k) ≠ (v, i) ∧ (w, k) ≠ (u, inConnection) := by
    constructor
    · rintro heq
      rw [(Prod.mk.inj heq).1, (Prod.mk.inj heq).2, hundone v i hunconnected] at hw
      exact absurd hw (by decide)
    · rintro heq
      rw [(Prod.mk.inj heq).1, (Prod.mk.inj heq).2, hundone u _ hunconnected'] at hw
      exact absurd hw (by decide)
  constructor
  · intro hlink
    rcases link_eq_some.mp hlink with ⟨heq, _⟩ | ⟨_, heq, _⟩ | ⟨_, _, hlink⟩
    · exact absurd heq hfree.1
    · exact absurd heq hfree.2
    · exact hlink
  · exact fun hlink => link_eq_some.mpr (Or.inr (Or.inr ⟨hfree.1, hfree.2, hlink⟩))

theorem handshaken_connected (net : Net V) (v : V) (i : Slot) :
    (net.apply (.connected v i)).handshaken = net.handshaken := by
  have hdone : ∀ w k, ((net.apply (.connected v i)).connection w k).handshakeDone =
      (net.connection w k).handshakeDone := by
    intro w k
    unfold connection
    by_cases hw : w = v
    · subst hw
      rw [Net.apply, after_node]
      by_cases hk : k = i
      · subst hk
        exact (Node.connected_answer _).2.1
      · rw [(Node.effect_connected _).other k hk]
    · rw [Net.apply, after_node_other _ _ hw]
  funext w k
  simp only [handshaken, hdone]
  rfl

theorem Sound.step (h : Sound net) {event : Event V} (henabled : net.Enabled event)
    (hjoins : net.JoinsAlone event) : Sound (net.apply event) := by
  cases event with
  | establish v i u handle =>
      have hsame := handshaken_establish henabled fun w k hunconnected =>
        Bool.eq_false_of_not_eq_true fun hdone =>
          absurd hunconnected (ne_false_of_eq_true (h.balanced.connected w k hdone))
      exact ⟨h.balanced.establish henabled, hsame ▸ h.wired, hsame ▸ h.acyclic⟩
  | connected v i =>
      have hsame := handshaken_connected net v i
      exact ⟨h.balanced.connect henabled, hsame ▸ h.wired, hsame ▸ h.acyclic⟩
  | deliver v i memory => exact h.deliver henabled hjoins
  | lose v i received receivedThere =>
      apply h.restrict (h.balanced.lose henabled)
      intro w k x l hpeer hw hx
      exact ⟨(unlink_eq_some.mp hpeer).1, hw, hx⟩
  | disconnected v i reason generated =>
      have hkept : ∀ {w k x l}, net.peer w k = some (x, l) →
          (net.apply (.disconnected v i reason generated)).connection w k = net.connection w k := by
        intro w k x l hpeer
        apply disconnected_other
        intro heq
        rw [(Prod.mk.inj heq).1, (Prod.mk.inj heq).2] at hpeer
        exact absurd (henabled.1.symm.trans hpeer) (by simp)
      apply h.restrict (h.balanced.disconnect henabled)
      intro w k x l hpeer hw hx
      have hpeer : net.peer w k = some (x, l) := hpeer
      rw [hkept hpeer] at hw
      rw [hkept (h.balanced.twoWay hpeer)] at hx
      exact ⟨hpeer, hw, hx⟩

end Step

theorem Sound.run (h : Sound net) {events : List (Event V)} (hrun : Run JoinsAlone net events net') :
    Sound net' :=
  hrun.preserves (fun _ _ hsound henabled hjoins => hsound.step henabled hjoins) h

/-! ## When nothing is on its way -/

theorem Sound.tallied (h : Sound net) (hquiet : net.Quiet) (hsettled : net.Settled) :
    Tallied net.handshaken (fun v => (net.node v).clusterSize)
      (fun v i => (net.connection v i).connectedClusterSize) where
  adds := h.balanced.adds
  unlinked := by
    intro v i hnone
    by_contra hshare
    have hdone : (net.connection v i).handshakeDone = true := by
      by_contra hundone
      exact hshare (h.balanced.undone v i (Bool.eq_false_of_not_eq_true hundone))
    cases hpeer : net.peer v i with
    | none =>
        have hconnected := h.balanced.connected v i hdone
        exact absurd (hsettled v i hpeer) (ne_false_of_eq_true hconnected)
    | some p =>
        obtain ⟨u, j⟩ := p
        by_cases hpartner : (net.connection u j).handshakeDone = true
        · exact absurd (hnone.symm.trans (handshaken_eq_some.mpr ⟨hpeer, hdone, hpartner⟩)) (by simp)
        · obtain ⟨_, _, _, ack, rest, hinbox, _⟩ :=
            (h.balanced.linked (h.balanced.twoWay hpeer)).confirming
              (Bool.eq_false_of_not_eq_true hpartner) hdone
          exact List.cons_ne_nil _ _ (hinbox.symm.trans (hquiet u j))
  agree := by
    intro v i u j hlink
    obtain ⟨hpeer, hv, hu⟩ := handshaken_eq_some.mp hlink
    have hagree := (h.balanced.linked (h.balanced.twoWay hpeer)).agree hu hv
    have hinbox : (net.endAt u j).inbox = [] := hquiet u j
    rw [hinbox, changes_nil, add_zero] at hagree
    exact eq_sub_iff_add_eq'.mp hagree

theorem toInt_natCast {n : ℕ} {size : ClusterSize} (h : size = n) (hn : n < 2 ^ 15) :
    size.toInt = n := by
  have hsize : size.toNat = n := by
    rw [h, BitVec.natCast_eq_ofNat, BitVec.toNat_ofNat]
    omega
  rw [BitVec.toInt_eq_toNat_of_lt (by omega), hsize]

theorem natCast_of_toInt {n : ℕ} {size : ClusterSize} (h : size.toInt = n) : size = n := by
  rw [← BitVec.ofInt_toInt (x := size), h]
  rfl

section Finite

variable [Fintype V]

theorem Sound.clusterSize_eq (h : Sound net) (hquiet : net.Quiet) (hsettled : net.Settled)
    (hcard : Fintype.card V < 2 ^ 15) (v : V) :
    (net.node v).clusterSize.toInt = ((graph net.handshaken).connectedComponentMk v).supp.ncard := by
  apply toInt_natCast ((h.tallied hquiet hsettled).total_eq_card h.wired h.acyclic v)
  exact (Set.ncard_le_card _).trans_lt (by rwa [Nat.card_eq_fintype_card])

theorem Sound.share_eq (h : Sound net) (hquiet : net.Quiet) (hsettled : net.Settled)
    (hcard : Fintype.card V < 2 ^ 15) {v u : V} {i j : Slot}
    (hlink : net.handshaken v i = some (u, j)) :
    (net.connection v i).connectedClusterSize.toInt =
      {s | Forest.Beyond (graph net.handshaken) v u s}.ncard := by
  apply toInt_natCast ((h.tallied hquiet hsettled).share_eq_card h.wired h.acyclic hlink)
  exact (Set.ncard_le_card _).trans_lt (by rwa [Nat.card_eq_fintype_card])

end Finite

/-! ## Joining -/

/-- All nodes are alone. -/
structure Alone (net : Net V) : Prop where
  nodeId : ∀ v, (net.node v).nodeId ≠ nodeIdBroadcast
  clusterSize : ∀ v, (net.node v).clusterSize = 1
  isConnected : ∀ v i, (net.connection v i).isConnected = false
  handshakeDone : ∀ v i, (net.connection v i).handshakeDone = false
  connectedClusterSize : ∀ v i, (net.connection v i).connectedClusterSize = 0
  peer : ∀ v i, net.peer v i = none
  inbox : ∀ v i, net.inbox v i = []
  closing : ∀ v i, net.closing v i = false

/-- Nothing is on its way, no handshake is in progress and no disconnect is pending. -/
structure Idle (net : Net V) : Prop where
  quiet : net.Quiet
  settled : net.Settled
  handshakeDone : ∀ v i, net.peer v i ≠ none → (net.connection v i).handshakeDone = true
  closing : ∀ v i, net.closing v i = false

theorem Alone.sound (h : Alone net) : Sound net := by
  have hnone : ∀ {v i p}, net.peer v i ≠ some p := by
    intro v i p hpeer
    exact absurd ((h.peer v i).symm.trans hpeer) (by simp)
  have hnone' : ∀ {v i p}, net.handshaken v i ≠ some p := by
    rintro v i ⟨u, j⟩ hlink
    exact hnone (handshaken_eq_some.mp hlink).1
  refine ⟨⟨h.nodeId, fun hpeer => absurd hpeer hnone, fun hpeer => absurd hpeer hnone, ?_,
    fun v i _ => h.connectedClusterSize v i, ?_, ?_, fun hpeer => absurd hpeer hnone⟩, ?_, ?_⟩
  · intro v
    rw [h.clusterSize, Finset.sum_eq_zero fun k _ => h.connectedClusterSize v k, add_zero]
  · intro v i hdone
    exact absurd (h.handshakeDone v i) (ne_false_of_eq_true hdone)
  · intro v i _
    exact Orderly.of_nil (h.inbox v i)
  · exact ⟨fun hlink => absurd hlink hnone', fun hlink => absurd hlink hnone',
      fun hlink => absurd hlink hnone'⟩
  · have hbot : graph net.handshaken = ⊥ := by
      ext v u
      rw [graph, fromRel_adj, bot_adj, iff_false]
      rintro ⟨_, ⟨i, j, hlink⟩ | ⟨i, j, hlink⟩⟩
      · exact hnone' hlink
      · exact hnone' hlink
    rw [hbot]
    exact isAcyclic_bot

/-- **Cluster sizes after joins.**  From nodes that start alone, in every run in which every
node joins alone, when nothing is left to be done each `clusterSize` is the number of nodes
in the component. -/
theorem sizes_agree [Fintype V] (halone : Alone net) (hcard : Fintype.card V < 2 ^ 15)
    {events : List (Event V)} (hrun : Run JoinsAlone net events net') (hidle : Idle net') (v : V) :
    (net'.node v).clusterSize.toInt =
      ((graph net'.handshaken).connectedComponentMk v).supp.ncard :=
  (halone.sound.run hrun).clusterSize_eq hidle.quiet hidle.settled hcard v

/-- Nodes that have just been started, with the ids and the cluster ids 1, 2 and so on. -/
def started (n : ℕ) : Net (Fin n) where
  node := fun v => Node.startedNode (numbered n v) (BitVec.ofNat 32 (v + 1))
  peer := fun _ _ => none
  inbox := fun _ _ => []
  closing := fun _ _ => false
  received := fun _ => []

theorem started_alone : Alone (started 3) where
  nodeId := by decide
  clusterSize := fun _ => rfl
  isConnected := fun _ _ => rfl
  handshakeDone := fun _ _ => rfl
  connectedClusterSize := fun _ _ => rfl
  peer := fun _ _ => rfl
  inbox := fun _ _ => rfl
  closing := fun _ _ => rfl

/-- A link is lost only if one of its ends has asked for it. -/
def LosesRequested (net : Net V) : Event V → Prop
  | .lose v i _ _ =>
      net.closing v i = true ∨ ((net.peer v i).any fun p => net.closing p.1 p.2) = true
  | .establish _ _ _ _ => True
  | .connected _ _ => True
  | .deliver _ _ _ => True
  | .disconnected _ _ _ _ => True

section Decidable

instance (net : Net V) (event : Event V) : Decidable (net.LosesRequested event) :=
  match event with
  | .lose _ _ _ _ => inferInstanceAs (Decidable (_ ∨ _))
  | .establish _ _ _ _ => isTrue trivial
  | .connected _ _ => isTrue trivial
  | .deliver _ _ _ => isTrue trivial
  | .disconnected _ _ _ _ => isTrue trivial

instance [Fintype V] (net : Net V) (event : Event V) : Decidable (net.JoinsAlone event) :=
  match event with
  | .deliver v i memory => by
      unfold JoinsAlone
      dsimp only
      generalize net.inbox v i = messages
      exact match messages with
        | [] => isTrue trivial
        | _ :: _ => by dsimp only; infer_instance
  | .establish _ _ _ _ => isTrue trivial
  | .connected _ _ => isTrue trivial
  | .lose _ _ _ _ => isTrue trivial
  | .disconnected _ _ _ _ => isTrue trivial

instance [Fintype V] (net : Net V) : Decidable (Idle net) :=
  decidable_of_iff (net.Quiet ∧ net.Settled ∧
      (∀ v i, net.peer v i ≠ none → (net.connection v i).handshakeDone = true) ∧
        ∀ v i, net.closing v i = false)
    ⟨fun ⟨hquiet, hsettled, hdone, hclosing⟩ => ⟨hquiet, hsettled, hdone, hclosing⟩,
      fun h => ⟨h.quiet, h.settled, h.handshakeDone, h.closing⟩⟩

end Decidable

/-- Node 1 joins node 2, then node 0 joins them, and node 2 hears of it.  What lies behind the two
WELCOMEs, and behind the UPDATE. -/
def joining (first second update : ℕ → U8) : List (Event (Fin 3)) :=
  [.establish 2 outConnection 1 14, .connected 2 outConnection, .connected 1 inConnection,
    .deliver 1 inConnection first, .deliver 2 outConnection zeros, .deliver 1 inConnection zeros,
    .establish 1 outConnection 0 14, .connected 1 outConnection, .connected 0 inConnection,
    .deliver 0 inConnection second, .deliver 1 outConnection zeros, .deliver 0 inConnection zeros,
    .deliver 2 outConnection update]

def joins : List (Event (Fin 3)) := joining zeros zeros zeros

theorem sizes_agree_joins : Fintype.card (Fin 3) < 2 ^ 15 ∧
    ∀ v, ((joins.foldl apply (started 3)).node v).clusterSize.toInt =
      ((graph (joins.foldl apply (started 3)).handshaken).connectedComponentMk v).supp.ncard :=
  ⟨by decide, sizes_agree started_alone (by decide) (Run.of_replays (by decide)) (by decide)⟩

/-- Node 0 joins node 1 while node 1 joins node 2: node 1 asks for the end of its link to node
0 before it has counted that node, and learns of the end of the link after the ACK_2. -/
def joinsBusy : List (Event (Fin 3)) :=
  [.establish 1 outConnection 0 14, .connected 1 outConnection, .connected 0 inConnection,
    .establish 2 outConnection 1 14, .connected 2 outConnection, .connected 1 inConnection,
    .deliver 0 inConnection zeros, .deliver 1 inConnection zeros, .deliver 1 outConnection zeros,
    .deliver 2 outConnection zeros, .deliver 0 inConnection zeros, .deliver 1 inConnection zeros,
    .lose 1 outConnection 0 0, .disconnected 1 outConnection 22 7, .disconnected 0 inConnection 19 8,
    .deliver 2 outConnection zeros]

/-- Node 2 counts one node, and there are two. -/
theorem sizes_disagree : ¬ ∀ events (net' : Net (Fin 3)),
    Run LosesRequested (started 3) events net' → Idle net' → ∀ v,
      (net'.node v).clusterSize.toInt =
        ((graph net'.handshaken).connectedComponentMk v).supp.ncard := by
  intro h
  have hsize := h joinsBusy _ (Run.of_replays (by decide)) (by decide) 2
  have hone : ((joinsBusy.foldl apply (started 3)).node 2).clusterSize.toInt = 1 := by decide
  have hlink : (joinsBusy.foldl apply (started 3)).handshaken 2 outConnection =
      some (1, inConnection) := by decide
  have hadj : (graph (joinsBusy.foldl apply (started 3)).handshaken).Adj 2 1 := by
    rw [graph, fromRel_adj]
    exact ⟨by decide, Or.inl ⟨_, _, hlink⟩⟩
  have htwo : ({1, 2} : Set (Fin 3)).ncard ≤
      ((graph (joinsBusy.foldl apply (started 3)).handshaken).connectedComponentMk 2).supp.ncard := by
    refine Set.ncard_le_ncard ?_ (Set.toFinite _)
    rintro w (rfl | rfl)
    · exact ConnectedComponent.sound hadj.symm.reachable
    · rfl
  rw [Set.ncard_pair (by decide)] at htwo
  omega

/-! ## Losing links -/

/-- A tree in which all sizes are right and nothing is on its way. -/
structure Counted [Fintype V] (net : Net V) : Prop where
  tree : HandshakenTree net
  nodeId : ∀ v, (net.node v).nodeId ≠ nodeIdBroadcast
  quiet : net.Quiet
  unlinked : ∀ v i, net.peer v i = none → (net.connection v i).isConnected = false ∧
    (net.connection v i).handshakeDone = false ∧ (net.connection v i).connectedClusterSize = 0
  clusterSize : ∀ v, (net.node v).clusterSize.toInt = Fintype.card V
  connectedClusterSize : ∀ {v i u j}, net.peer v i = some (u, j) →
    (net.connection v i).connectedClusterSize.toInt =
      {s | Forest.Beyond (graph net.peer) v u s}.ncard

/-- A link is lost, one end learns of it, or a packet arrives. -/
def Loses (_ : Net V) : Event V → Prop
  | .establish _ _ _ _ => False
  | .connected _ _ => False
  | .deliver _ _ _ => True
  | .lose _ _ _ _ => True
  | .disconnected _ _ _ _ => True

/-- Every connection that is in use has done its handshake. -/
structure Losing (net : Net V) : Prop where
  sound : Sound net
  handshakeDone : ∀ v i, (net.connection v i).isConnected = true →
    (net.connection v i).handshakeDone = true
  linked : ∀ v i, net.peer v i ≠ none → (net.connection v i).isConnected = true

omit [DecidableEq V] in
theorem Losing.handshaken [DecidableEq V] (h : Losing net) : net.handshaken = net.peer := by
  funext v i
  cases hpeer : net.peer v i with
  | none => simp [Net.handshaken, hpeer]
  | some p =>
      obtain ⟨u, j⟩ := p
      have hback := h.sound.balanced.twoWay hpeer
      have hne : ∀ {w k q}, net.peer w k = some q → net.peer w k ≠ none := by
        intro w k q hsome hnone
        exact absurd (hnone.symm.trans hsome) (by simp)
      exact handshaken_eq_some.mpr ⟨hpeer, h.handshakeDone v i (h.linked v i (hne hpeer)),
        h.handshakeDone u j (h.linked u j (hne hback))⟩

/-- No ACK_2 arrives where all handshakes are done. -/
theorem Losing.joinsAlone (h : Losing net) {event : Event V} (henabled : net.Enabled event) :
    net.JoinsAlone event := by
  cases event with
  | deliver v i memory =>
      obtain ⟨message, rest, hinbox⟩ := List.exists_cons_of_ne_nil henabled.2
      simp only [JoinsAlone, hinbox]
      intro htype
      have hupdates := (h.sound.balanced.orderly henabled.1).updates (h.handshakeDone v i henabled.1)
      have hmem : message ∈ net.inbox v i := hinbox ▸ List.mem_cons_self
      exact absurd htype (hupdates message hmem).not_ack2
  | establish _ _ _ _ => trivial
  | connected _ _ => trivial
  | lose _ _ _ _ => trivial
  | disconnected _ _ _ _ => trivial

theorem Losing.step (h : Losing net) {event : Event V} (henabled : net.Enabled event)
    (hloses : net.Loses event) : Losing (net.apply event) := by
  have hsound := h.sound.step henabled (h.joinsAlone henabled)
  cases event with
  | establish _ _ _ _ => exact absurd hloses id
  | connected _ _ => exact absurd hloses id
  | deliver v i memory =>
      obtain ⟨message, rest, hinbox⟩ := List.exists_cons_of_ne_nil henabled.2
      have hmem : message ∈ net.inbox v i := hinbox ▸ List.mem_cons_self
      -- without joins only UPDATEs are on their way, and they leave every handshake as it is
      have hupdate := (h.sound.balanced.orderly henabled.1).updates
        (h.handshakeDone v i henabled.1) message hmem
      obtain ⟨hlinks, _⟩ :=
        (net.node v).update_answer (i := i) memory hupdate
      have hkept : ∀ w k, ((net.apply (.deliver v i memory)).connection w k).isConnected =
            (net.connection w k).isConnected ∧
          ((net.apply (.deliver v i memory)).connection w k).handshakeDone =
            (net.connection w k).handshakeDone := by
        intro w k
        by_cases hne : (w, k) = (v, i)
        · obtain ⟨rfl, rfl⟩ := Prod.mk.inj hne
          rw [apply_deliver hinbox]
          unfold connection
          rw [after_node]
          exact ⟨hlinks.isConnected k, hlinks.handshakeDone k⟩
        · rw [deliver_other hinbox hne]
          exact ⟨rfl, rfl⟩
      refine ⟨hsound, ?_, ?_⟩
      · intro w k hconnected
        rw [(hkept w k).1] at hconnected
        rw [(hkept w k).2]
        exact h.handshakeDone w k hconnected
      · intro w k hpeer
        rw [(hkept w k).1]
        rw [apply_deliver hinbox] at hpeer
        exact h.linked w k hpeer
  | lose v i received receivedThere =>
      refine ⟨hsound, h.handshakeDone, ?_⟩
      intro w k hpeer
      obtain ⟨p, hp⟩ := Option.ne_none_iff_exists'.mp hpeer
      have hold := (unlink_eq_some.mp hp).1
      exact h.linked w k fun hnone => absurd (hnone.symm.trans hold) (by simp)
  | disconnected v i reason generated =>
      -- only the end that learns of the loss is closed
      have hclosed : ((net.apply (.disconnected v i reason generated)).connection v i).isConnected =
          false := by
        unfold connection
        rw [apply_disconnected_node, Function.update_self]
        exact (Node.disconnected_answer _ reason generated).1
      refine ⟨hsound, ?_, ?_⟩
      · intro w k hconnected
        by_cases hne : (w, k) = (v, i)
        · obtain ⟨rfl, rfl⟩ := Prod.mk.inj hne
          exact absurd hclosed (ne_false_of_eq_true hconnected)
        · rw [disconnected_other hne] at hconnected ⊢
          exact h.handshakeDone w k hconnected
      · intro w k hpeer
        have hne : (w, k) ≠ (v, i) := by
          intro heq
          obtain ⟨rfl, rfl⟩ := Prod.mk.inj heq
          exact hpeer henabled.1
        rw [disconnected_other hne]
        exact h.linked w k hpeer

theorem Losing.run (h : Losing net) {events : List (Event V)} (hrun : Run Loses net events net') :
    Losing net' :=
  hrun.preserves (fun _ _ hlosing henabled hloses => hlosing.step henabled hloses) h

theorem Counted.losing [Fintype V] (h : Counted net) : Losing net := by
  have hdone : ∀ v i, (net.connection v i).isConnected = true →
      (net.connection v i).handshakeDone = true := by
    intro v i hconnected
    by_cases hpeer : net.peer v i = none
    · exact absurd ((h.unlinked v i hpeer).1) (ne_false_of_eq_true hconnected)
    · exact h.tree.handshakeDone v i hpeer
  have hlinked : ∀ {v i p}, net.peer v i = some p → net.peer v i ≠ none := by
    intro v i p hsome hnone
    exact absurd (hnone.symm.trans hsome) (by simp)
  -- in a tree the right sizes add up over every node, and agree over every link
  have htallied : Tallied net.peer (fun v => (net.node v).clusterSize)
      (fun v i => (net.connection v i).connectedClusterSize) := by
    apply h.tree.wired.tallied h.tree.tree
    · exact fun v => natCast_of_toInt (h.clusterSize v)
    · exact fun v i hnone => (h.unlinked v i hnone).2.2
    · exact fun hpeer => natCast_of_toInt (h.connectedClusterSize hpeer)
  -- every link of the tree has its handshake
  have hsame : net.handshaken = net.peer := by
    funext v i
    cases hpeer : net.peer v i with
    | none => simp [Net.handshaken, hpeer]
    | some p =>
        obtain ⟨u, j⟩ := p
        exact handshaken_eq_some.mpr ⟨hpeer, h.tree.handshakeDone v i (hlinked hpeer),
          h.tree.handshakeDone u j (hlinked (h.tree.wired.twoWay hpeer))⟩
  refine ⟨⟨⟨h.nodeId, h.tree.wired.twoWay, h.tree.wired.loopless, htallied.adds, ?_, ?_, ?_, ?_⟩, ?_, ?_⟩,
    hdone, h.tree.isConnected⟩
  · intro v i hundone
    by_cases hpeer : net.peer v i = none
    · exact (h.unlinked v i hpeer).2.2
    · exact absurd hundone (ne_false_of_eq_true (h.tree.handshakeDone v i hpeer))
  · intro v i hdone
    by_cases hpeer : net.peer v i = none
    · exact absurd ((h.unlinked v i hpeer).2.1) (ne_false_of_eq_true hdone)
    · exact h.tree.isConnected v i hpeer
  · exact fun _ => Orderly.of_nil (h.quiet _ _)
  · intro v i u j hpeer
    have hv := h.tree.handshakeDone v i (hlinked hpeer)
    have hu := h.tree.handshakeDone u j (hlinked (h.tree.wired.twoWay hpeer))
    refine ⟨fun hfalse => absurd hfalse (ne_false_of_eq_true hv),
      fun _ => h.tree.isConnected v i (hlinked hpeer), ?_, ?_,
      fun hfalse => absurd hfalse (ne_false_of_eq_true hv),
      fun hfalse => absurd hfalse (ne_false_of_eq_true hv),
      fun _ _ => ⟨h.quiet v i, h.quiet u j⟩⟩
    · intro _ _ m hm
      exact absurd ((h.quiet v i) ▸ hm : m ∈ []) List.not_mem_nil
    · intro _ _
      have hinbox : (net.endAt v i).inbox = [] := h.quiet v i
      have hagree := htallied.agree (h.tree.wired.twoWay hpeer)
      rw [hinbox, changes_nil, add_zero]
      exact eq_sub_of_add_eq' hagree
  · rw [hsame]
    exact h.tree.wired
  · rw [hsame]
    exact h.tree.tree.isAcyclic

/-- **Cluster sizes after losses.**  From a tree in which all sizes are right, in every run of
losses and deliveries, when nothing is on its way and both ends know of every loss, all
sizes are right again. -/
theorem sizes_recover [Fintype V] (hcounted : Counted net) {events : List (Event V)}
    (hrun : Run Loses net events net') (hquiet : net'.Quiet) (hsettled : net'.Settled) :
    (∀ v, (net'.node v).clusterSize.toInt =
        ((graph net'.peer).connectedComponentMk v).supp.ncard) ∧
      ∀ v i u j, net'.peer v i = some (u, j) →
        (net'.connection v i).connectedClusterSize.toInt =
          {s | Forest.Beyond (graph net'.peer) v u s}.ncard := by
  have hlosing := hcounted.losing.run hrun
  have hcard : ∀ _ : V, Fintype.card V < 2 ^ 15 := by
    intro v
    have hsize := hcounted.clusterSize v
    have hlt := BitVec.toInt_lt (x := (net.node v).clusterSize)
    omega
  refine ⟨?_, ?_⟩
  · intro v
    rw [hlosing.sound.clusterSize_eq hquiet hsettled (hcard v) v, hlosing.handshaken]
  · intro v i u j hpeer
    rw [← hlosing.handshaken] at hpeer
    rw [hlosing.sound.share_eq hquiet hsettled (hcard v) hpeer, hlosing.handshaken]

instance (net : Net V) (event : Event V) : Decidable (net.Loses event) :=
  match event with
  | .establish _ _ _ _ => isFalse id
  | .connected _ _ => isFalse id
  | .deliver _ _ _ => isTrue trivial
  | .lose _ _ _ _ => isTrue trivial
  | .disconnected _ _ _ _ => isTrue trivial

omit [DecidableEq V] in
/-- The sizes are right if they add up. -/
theorem Counted.of_tallied [Fintype V] (h : HandshakenTree net)
    (hcard : Fintype.card V < 2 ^ 15)
    (hnodeId : ∀ v, (net.node v).nodeId ≠ nodeIdBroadcast) (hquiet : net.Quiet)
    (hunlinked : ∀ v i, net.peer v i = none → (net.connection v i).isConnected = false ∧
      (net.connection v i).handshakeDone = false ∧ (net.connection v i).connectedClusterSize = 0)
    (hsize : ∀ v, (net.node v).clusterSize.toInt = Fintype.card V)
    (htallied : Tallied net.peer (fun v => (net.node v).clusterSize)
      fun v i => (net.connection v i).connectedClusterSize) : Counted net where
  tree := h
  nodeId := hnodeId
  quiet := hquiet
  unlinked := hunlinked
  clusterSize := hsize
  connectedClusterSize := by
    intro v i u j hpeer
    apply toInt_natCast (htallied.share_eq_card h.wired h.tree.isAcyclic hpeer)
    exact (Set.ncard_le_card _).trans_lt (by rwa [Nat.card_eq_fintype_card])

theorem chain_counted : Counted (chain 3 (numbered 3)) :=
  .of_tallied (chain_handshakenTree 2 (numbered 3)) (by decide) (by decide) (fun _ _ => rfl)
    (by decide) (by decide) ⟨by decide, by decide, by decide⟩

/-- The link between the nodes 1 and 2 is lost. -/
def losesLink : List (Event (Fin 3)) :=
  [.lose 1 outConnection 0 0, .disconnected 1 outConnection 8 7, .disconnected 2 inConnection 8 9,
    .deliver 0 outConnection zeros]

theorem sizes_recover_chain :
    ((losesLink.foldl apply (chain 3 (numbered 3))).node 0).clusterSize.toInt =
      ((graph (losesLink.foldl apply (chain 3 (numbered 3))).peer).connectedComponentMk 0).supp.ncard :=
  (sizes_recover chain_counted (Run.of_replays (by decide)) (by decide) (by decide)).1 0

end Net

end FruityMesh.Mesh
