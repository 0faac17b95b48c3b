import FruityMesh.Library.Forest
import Mathlib.Algebra.BigOperators.Group.List.Basic

/-!
# Nodes with ports

Nodes that are linked port to port.  `peer v i` is the port at the other end of the link
at port `i` of `v`, and `graph peer` says which nodes are linked.  A port has an inbox for
what is on its way to it; `post` is how the messages get there that a node sends.

The facts of `Forest` about the edges of a graph are stated here for ports.
-/

namespace FruityMesh.Ports

open SimpleGraph

variable {V P M α : Type*}

/-- The port at the other end of the link, if there is a link. -/
abbrev Links (V P : Type*) := V → P → Option (V × P)

/-- The nodes that are linked. -/
def graph (peer : Links V P) : SimpleGraph V :=
  SimpleGraph.fromRel fun v u => ∃ i j, peer v i = some (u, j)

/-- Both ends of a link name each other, and there is at most one link between two nodes
and none between a node and itself. -/
structure Wired (peer : Links V P) : Prop where
  twoWay : ∀ {v i u j}, peer v i = some (u, j) → peer u j = some (v, i)
  loopless : ∀ {v i u j}, peer v i = some (u, j) → v ≠ u
  single : ∀ {v i i' u j j'}, peer v i = some (u, j) → peer v i' = some (u, j') → i = i'

variable {peer : Links V P}

/-- Where both ends name each other, the end that names a port is the one that the port names. -/
theorem ends_eq (htwoWay : ∀ {v i u j}, peer v i = some (u, j) → peer u j = some (v, i))
    {v w u : V} {i k j : P} (hlink : peer w k = some (v, i)) (hpeer : peer v i = some (u, j)) :
    (w, k) = (u, j) :=
  Option.some.inj ((htwoWay hlink).symm.trans hpeer)

theorem Wired.adj_iff (h : Wired peer) {v u : V} :
    (graph peer).Adj v u ↔ ∃ i j, peer v i = some (u, j) := by
  rw [graph, fromRel_adj]
  constructor
  · rintro ⟨_, ⟨i, j, hpeer⟩ | ⟨j, i, hpeer⟩⟩
    · exact ⟨i, j, hpeer⟩
    · exact ⟨i, j, h.twoWay hpeer⟩
  · rintro ⟨i, j, hpeer⟩
    exact ⟨h.loopless hpeer, Or.inl ⟨i, j, hpeer⟩⟩

theorem Wired.adj (h : Wired peer) {v u : V} {i j : P} (hpeer : peer v i = some (u, j)) :
    (graph peer).Adj v u :=
  h.adj_iff.mpr ⟨i, j, hpeer⟩

/-! ## Changing the links -/

/-- Some of the links are links without loops, too. -/
theorem Wired.restrict {peer' : Links V P} (h : Wired peer)
    (htwoWay : ∀ {v i u j}, peer' v i = some (u, j) → peer' u j = some (v, i))
    (hsome : ∀ {v i p}, peer' v i = some p → peer v i = some p) : Wired peer' where
  twoWay := htwoWay
  loopless := fun hpeer => h.loopless (hsome hpeer)
  single := fun hpeer hpeer' => h.single (hsome hpeer) (hsome hpeer')

theorem Wired.graph_le {peer' : Links V P} (h : Wired peer) (h' : Wired peer')
    (hsome : ∀ {v i p}, peer' v i = some p → peer v i = some p) : graph peer' ≤ graph peer := by
  intro v u hadj
  obtain ⟨i, j, hpeer⟩ := h'.adj_iff.mp hadj
  exact h.adj (hsome hpeer)

/-- A node without links is linked to another one: the links are what they were, and the
new one. -/
structure Joined (peer peer' : Links V P) (v : V) (i : P) (u : V) (j : P) : Prop where
  twoWay : ∀ {w k x l}, peer' w k = some (x, l) → peer' x l = some (w, k)
  new : peer' v i = some (u, j)
  ne : v ≠ u
  alone : ∀ k, peer v k = none
  old : ∀ {w k p}, peer' w k = some p → peer w k = some p ∨ (w, k) = (v, i) ∨ (w, k) = (u, j)

namespace Joined

variable {peer' : Links V P} {v u w : V} {i j k : P} {p : V × P}

/-- The only link of the new node is the new one. -/
theorem only (h : Joined peer peer' v i u j) (hpeer : peer' v k = some p) : k = i ∧ p = (u, j) := by
  have hk : k = i := by
    rcases h.old hpeer with hold | heq | heq
    · exact absurd ((h.alone k).symm.trans hold) (by simp)
    · exact (Prod.mk.inj heq).2
    · exact absurd (Prod.mk.inj heq).1 h.ne
  subst hk
  exact ⟨rfl, Option.some.inj (hpeer.symm.trans h.new)⟩

theorem wired (h : Joined peer peer' v i u j) (hwired : Wired peer) : Wired peer' := by
  -- a link of the new graph is an old one, or the new one from either end
  have hcases : ∀ {w k x l}, peer' w k = some (x, l) →
      (peer w k = some (x, l) ∧ w ≠ v ∧ x ≠ v) ∨ (w = v ∧ k = i ∧ x = u ∧ l = j) ∨
        (w = u ∧ k = j ∧ x = v ∧ l = i) := by
    intro w k x l hpeer
    by_cases hw : w = v
    · subst hw
      obtain ⟨hk, hp⟩ := h.only hpeer
      exact Or.inr (Or.inl ⟨rfl, hk, Prod.mk.inj hp⟩)
    · by_cases hx : x = v
      · subst hx
        obtain ⟨hl, hp⟩ := h.only (h.twoWay hpeer)
        obtain ⟨hw, hk⟩ := Prod.mk.inj hp
        exact Or.inr (Or.inr ⟨hw, hk, rfl, hl⟩)
      · left
        rcases h.old hpeer with hold | heq | heq
        · exact ⟨hold, hw, hx⟩
        · exact absurd (Prod.mk.inj heq).1 hw
        · obtain ⟨rfl, rfl⟩ := Prod.mk.inj heq
          have hback := h.twoWay h.new
          exact absurd (Prod.mk.inj (Option.some.inj (hpeer.symm.trans hback))).1 hx
  refine ⟨h.twoWay, ?_, ?_⟩
  · intro w k x l hpeer
    rcases hcases hpeer with ⟨hold, _, _⟩ | ⟨rfl, _, rfl, _⟩ | ⟨rfl, _, rfl, _⟩
    · exact hwired.loopless hold
    · exact h.ne
    · exact h.ne.symm
  · intro w k k' x l l' hpeer hpeer'
    rcases hcases hpeer with ⟨hold, hw, hx⟩ | ⟨rfl, rfl, _, _⟩ | ⟨_, rfl, rfl, _⟩
    · rcases hcases hpeer' with ⟨hold', _, _⟩ | ⟨hw', _⟩ | ⟨_, _, hx', _⟩
      · exact hwired.single hold hold'
      · exact absurd hw' hw
      · exact absurd hx' hx
    · exact (h.only hpeer').1.symm
    · rcases hcases hpeer' with ⟨_, _, hx'⟩ | ⟨_, _, hx', _⟩ | ⟨_, rfl, _, _⟩
      · exact absurd rfl hx'
      · exact absurd hx' h.ne
      · rfl

theorem isAcyclic (h : Joined peer peer' v i u j) (hwired : Wired peer)
    (hacyclic : (graph peer).IsAcyclic) : (graph peer').IsAcyclic := by
  have hnot : ¬ (graph peer).Reachable v u := by
    rintro ⟨p⟩
    cases p with
    | nil => exact h.ne rfl
    | cons hadj _ =>
        obtain ⟨k, l, hpeer⟩ := hwired.adj_iff.mp hadj
        exact absurd ((h.alone k).symm.trans hpeer) (by simp)
  refine (hacyclic.sup_edge_of_not_reachable hnot).anti ?_
  intro w x hadj
  obtain ⟨k, l, hpeer⟩ := (h.wired hwired).adj_iff.mp hadj
  rw [sup_adj, edge_adj]
  rcases h.old hpeer with hold | heq | heq
  · exact Or.inl (hwired.adj hold)
  · obtain ⟨rfl, rfl⟩ := Prod.mk.inj heq
    exact Or.inr ⟨Or.inl ⟨rfl, (Prod.mk.inj (h.only hpeer).2).1⟩, hadj.ne⟩
  · obtain ⟨rfl, rfl⟩ := Prod.mk.inj heq
    have hback := Option.some.inj (hpeer.symm.trans (h.twoWay h.new))
    exact Or.inr ⟨Or.inr ⟨rfl, (Prod.mk.inj hback).1⟩, hadj.ne⟩

end Joined

/-! ## Values at ports -/

/-- The value at the port of `v` that leads to `u`. -/
noncomputable def toward [Inhabited α] (peer : Links V P) (value : V → P → α) (v u : V) : α :=
  open Classical in if h : ∃ i j, peer v i = some (u, j) then value v h.choose else default

theorem Wired.toward_eq [Inhabited α] (h : Wired peer) (value : V → P → α) {v u : V} {i j : P}
    (hpeer : peer v i = some (u, j)) : toward peer value v u = value v i := by
  have hex : ∃ i j, peer v i = some (u, j) := ⟨i, j, hpeer⟩
  rw [toward, dif_pos hex]
  obtain ⟨j', hpeer'⟩ := hex.choose_spec
  rw [h.single hpeer' hpeer]

section Counting

variable [Fintype V] [Fintype P] {R : Type*} [CommRing R] {total : V → R} {share : V → P → R}

theorem Wired.sum_toward [Inhabited R] [DecidableRel (graph peer).Adj] (h : Wired peer)
    (hunlinked : ∀ v i, peer v i = none → share v i = 0) (v : V) :
    ∑ u ∈ (graph peer).neighborFinset v, toward peer share v u = ∑ i, share v i := by
  classical
  have hlinked : ∑ i, share v i = ∑ i with (peer v i).isSome, share v i := by
    symm
    apply Finset.sum_filter_of_ne
    intro i _ hne
    rw [Option.isSome_iff_ne_none]
    exact fun hnone => hne (hunlinked v i hnone)
  rw [hlinked]
  symm
  apply Finset.sum_bij (fun i hi => ((peer v i).get (Finset.mem_filter.mp hi).2).1)
  · intro i hi
    rw [mem_neighborFinset, h.adj_iff]
    exact ⟨i, _, (Option.some_get _).symm⟩
  · intro i hi i' hi' hsame
    have hpeer := (Option.some_get (Finset.mem_filter.mp hi).2).symm
    have hpeer' := (Option.some_get (Finset.mem_filter.mp hi').2).symm
    rw [← Prod.mk.eta (p := (peer v i).get _)] at hpeer
    rw [← Prod.mk.eta (p := (peer v i').get _), ← hsame] at hpeer'
    exact h.single hpeer hpeer'
  · intro u hu
    rw [mem_neighborFinset, h.adj_iff] at hu
    obtain ⟨i, j, hpeer⟩ := hu
    exact ⟨i, by simp [hpeer], by simp [hpeer]⟩
  · intro i hi
    exact (h.toward_eq share (Option.some_get (Finset.mem_filter.mp hi).2).symm).symm

/-- Where every node adds up one for itself and the shares of its links, and the ends of
each link agree on the total, the totals and the shares count nodes. -/
structure Tallied (peer : Links V P) (total : V → R) (share : V → P → R) : Prop where
  adds : ∀ v, total v = 1 + ∑ i, share v i
  unlinked : ∀ v i, peer v i = none → share v i = 0
  agree : ∀ {v i u j}, peer v i = some (u, j) → share v i + share u j = total v

omit [Fintype V] in
theorem Tallied.agree_toward [Inhabited R] (ht : Tallied peer total share) (h : Wired peer)
    {v u : V} (hadj : (graph peer).Adj v u) :
    toward peer share v u + toward peer share u v = total v := by
  obtain ⟨i, j, hpeer⟩ := h.adj_iff.mp hadj
  rw [h.toward_eq share hpeer, h.toward_eq share (h.twoWay hpeer), ht.agree hpeer]

theorem Tallied.total_eq_card (ht : Tallied peer total share) (h : Wired peer)
    (hacyclic : (graph peer).IsAcyclic) (v : V) :
    total v = ((graph peer).connectedComponentMk v).supp.ncard := by
  classical
  have : Inhabited R := ⟨0⟩
  have hcard := Forest.total_eq_card hacyclic total (toward peer share) 0
    (C := (graph peer).connectedComponentMk v) (r := v) rfl (by
      intro w _
      rw [h.sum_toward ht.unlinked, ite_self, add_zero]
      exact ht.adds w)
    fun w _ u hadj => ht.agree_toward h hadj
  rwa [add_zero] at hcard

theorem Tallied.share_eq_card (ht : Tallied peer total share) (h : Wired peer)
    (hacyclic : (graph peer).IsAcyclic) {v u : V} {i j : P} (hpeer : peer v i = some (u, j)) :
    share v i = {s | Forest.Beyond (graph peer) v u s}.ncard := by
  classical
  have : Inhabited R := ⟨0⟩
  rw [← h.toward_eq share hpeer]
  apply Forest.share_eq_card hacyclic total
  · intro w
    rw [h.sum_toward ht.unlinked]
    exact ht.adds w
  · intro w x hadj
    exact ht.agree_toward h hadj
  · exact h.adj hpeer

/-- The other direction: in a tree, one and the sizes of the far sides add up to its size, and
so do the two sides of a link. -/
theorem Wired.tallied (h : Wired peer) (htree : (graph peer).IsTree)
    (htotal : ∀ v, total v = Fintype.card V) (hunlinked : ∀ v i, peer v i = none → share v i = 0)
    (hshare : ∀ {v i u j}, peer v i = some (u, j) →
      share v i = {s | Forest.Beyond (graph peer) v u s}.ncard) : Tallied peer total share where
  adds := by
    classical
    intro v
    have : Inhabited R := ⟨0⟩
    rw [htotal, ← h.sum_toward hunlinked v, ← Forest.card_neighbours htree v, Nat.cast_add,
      Nat.cast_one, Nat.cast_sum]
    congr 1
    apply Finset.sum_congr rfl
    intro u hu
    obtain ⟨i, j, hpeer⟩ := h.adj_iff.mp ((mem_neighborFinset ..).mp hu)
    rw [h.toward_eq share hpeer, hshare hpeer]
  unlinked := hunlinked
  agree := by
    intro v i u j hpeer
    rw [hshare hpeer, hshare (h.twoWay hpeer), htotal, ← Nat.cast_add,
      Forest.card_sides htree (h.adj hpeer)]

end Counting

/-! ## Messages -/

/-- Replace what is in one inbox. -/
def setInbox [DecidableEq V] [DecidableEq P] (inbox : V → P → List M) (v : V) (i : P)
    (messages : List M) : V → P → List M :=
  Function.update inbox v (Function.update (inbox v) i messages)

/-- The inboxes after `v` has sent the messages `out i` over each port `i`.  What is sent
over a port without a link is lost. -/
def post [DecidableEq V] (peer : Links V P) (v : V) (out : P → List M)
    (inbox : V → P → List M) : V → P → List M := fun u j =>
  match peer u j with
  | some (w, i) => if w = v then inbox u j ++ out i else inbox u j
  | none => inbox u j

section Post

variable [DecidableEq V] {v u w : V} {i j : P} {out : P → List M} {inbox : V → P → List M}

theorem setInbox_same [DecidableEq P] (messages : List M) :
    setInbox inbox v i messages v i = messages := by
  simp [setInbox]

theorem setInbox_node [DecidableEq P] (messages : List M) (h : u ≠ v) (j : P) :
    setInbox inbox v i messages u j = inbox u j := by
  simp [setInbox, h]

theorem setInbox_port [DecidableEq P] (messages : List M) (h : j ≠ i) :
    setInbox inbox v i messages v j = inbox v j := by
  simp [setInbox, h]

theorem setInbox_eq_self [DecidableEq P] {messages : List M} (h : inbox v i = messages) :
    setInbox inbox v i messages = inbox := by
  rw [← h, setInbox, Function.update_eq_self, Function.update_eq_self]

theorem setInbox_other [DecidableEq P] (messages : List M) (h : ¬ (u = v ∧ j = i)) :
    setInbox inbox v i messages u j = inbox u j := by
  by_cases hu : u = v
  · subst hu
    exact setInbox_port _ fun hj => h ⟨rfl, hj⟩
  · exact setInbox_node _ hu j

theorem post_of_peer (h : peer u j = some (v, i)) :
    post peer v out inbox u j = inbox u j ++ out i := by
  simp [post, h]

theorem post_of_ne (h : peer u j = some (w, i)) (hne : w ≠ v) :
    post peer v out inbox u j = inbox u j := by
  simp [post, h, hne]

theorem post_of_none (h : peer u j = none) : post peer v out inbox u j = inbox u j := by
  simp [post, h]

theorem post_of_forall_ne (h : ∀ i, peer u j ≠ some (v, i)) :
    post peer v out inbox u j = inbox u j := by
  cases hpeer : peer u j with
  | none => exact post_of_none hpeer
  | some p =>
      obtain ⟨w, i⟩ := p
      apply post_of_ne hpeer
      rintro rfl
      exact h i hpeer

/-- What is in an inbox was there before, or has been sent over the link. -/
theorem mem_post_cases {m : M} (hm : m ∈ post peer v out inbox u j) :
    m ∈ inbox u j ∨ ∃ i, peer u j = some (v, i) ∧ m ∈ out i := by
  cases hpeer : peer u j with
  | none =>
      rw [post_of_none hpeer] at hm
      exact Or.inl hm
  | some p =>
      obtain ⟨w, i⟩ := p
      by_cases hw : w = v
      · subst hw
        rw [post_of_peer hpeer] at hm
        exact (List.mem_append.mp hm).imp_right fun hnew => ⟨i, rfl, hnew⟩
      · rw [post_of_ne hpeer hw] at hm
        exact Or.inl hm

theorem mem_post {m : M} (hm : m ∈ post peer v out inbox u j) :
    m ∈ inbox u j ∨ ∃ i, m ∈ out i :=
  (mem_post_cases hm).imp_right fun ⟨i, _, hnew⟩ => ⟨i, hnew⟩

theorem subset_post {m : M} (hm : m ∈ inbox u j) : m ∈ post peer v out inbox u j := by
  unfold post
  split
  · split_ifs
    · exact List.mem_append_left _ hm
    · exact hm
  · exact hm

/-- Only what is sent over a link matters. -/
theorem post_congr (h : Wired peer) {out' : P → List M}
    (hsame : ∀ i, peer v i ≠ none → out i = out' i) :
    post peer v out inbox = post peer v out' inbox := by
  funext u j
  cases hpeer : peer u j with
  | none => rw [post_of_none hpeer, post_of_none hpeer]
  | some p =>
      obtain ⟨w, i⟩ := p
      by_cases hw : w = v
      · subst hw
        have hlinked : peer w i ≠ none := by
          rw [h.twoWay hpeer]
          exact Option.some_ne_none _
        rw [post_of_peer hpeer, post_of_peer hpeer, hsame i hlinked]
      · rw [post_of_ne hpeer hw, post_of_ne hpeer hw]

theorem mem_setInbox [DecidableEq P] {m : M} {messages : List M}
    (hm : m ∈ setInbox inbox v i messages u j) : m ∈ inbox u j ∨ m ∈ messages := by
  by_cases hu : u = v
  · subst hu
    by_cases hj : j = i
    · subst hj
      rw [setInbox_same] at hm
      exact Or.inr hm
    · rw [setInbox_port _ hj] at hm
      exact Or.inl hm
  · rw [setInbox_node _ hu] at hm
    exact Or.inl hm

theorem mem_of_mem_setInbox [DecidableEq P] {m : M} {messages : List M}
    (hsub : messages ⊆ inbox v i) (hm : m ∈ setInbox inbox v i messages u j) : m ∈ inbox u j := by
  by_cases hhere : u = v ∧ j = i
  · obtain ⟨rfl, rfl⟩ := hhere
    rw [setInbox_same] at hm
    exact hsub hm
  · rwa [setInbox_other _ hhere] at hm

/-- One message is on its way, to port `i` of `v`. -/
def alone [DecidableEq P] (v : V) (i : P) (m : M) : V → P → List M := fun u j =>
  if u = v ∧ j = i then [m] else []

section Alone

variable [DecidableEq P] {m m' : M}

theorem alone_same : alone v i m v i = [m] := if_pos ⟨rfl, rfl⟩

theorem alone_eq_cons {rest : List M} (h : alone v i m u j = m' :: rest) :
    u = v ∧ j = i ∧ m' = m ∧ rest = [] := by
  unfold alone at h
  split_ifs at h with hhere
  obtain ⟨rfl, rfl⟩ := List.cons_eq_cons.mp h
  exact ⟨hhere.1, hhere.2, rfl, rfl⟩

theorem setInbox_alone : setInbox (alone v i m) v i [] = fun _ _ => [] := by
  funext u j
  by_cases hhere : u = v ∧ j = i
  · obtain ⟨rfl, rfl⟩ := hhere
    exact setInbox_same _
  · rw [setInbox_other _ hhere]
    exact if_neg hhere

/-- The only message that is sent is the only one on its way. -/
theorem post_alone (h : Wired peer) {k : P} (hpeer : peer v k = some (u, j))
    (hout : ∀ l, out l = if l = k then [m] else []) :
    post peer v out (fun _ _ => []) = alone u j m := by
  funext w l
  by_cases hhere : w = u ∧ l = j
  · obtain ⟨rfl, rfl⟩ := hhere
    rw [post_of_peer (h.twoWay hpeer), hout, if_pos rfl, alone_same]
    rfl
  · rw [alone, if_neg hhere]
    cases hlink : peer w l with
    | none => exact post_of_none hlink
    | some p =>
        obtain ⟨x, k'⟩ := p
        by_cases hx : x = v
        · subst hx
          rw [post_of_peer hlink, hout, if_neg]
          · rfl
          rintro rfl
          have hsame := Option.some.inj (hpeer.symm.trans (h.twoWay hlink))
          exact hhere ⟨(Prod.mk.inj hsame).1.symm, (Prod.mk.inj hsame).2.symm⟩
        · exact post_of_ne hlink hx

omit [DecidableEq P] in
/-- Where nothing is sent, nothing is on its way. -/
theorem post_nothing (hout : ∀ l, out l = []) :
    post peer v out (fun _ _ => []) = fun _ _ => [] := by
  funext w l
  unfold post
  split
  · split_ifs
    · rw [hout]
      rfl
    · rfl
  · rfl

end Alone

end Post

end FruityMesh.Ports
