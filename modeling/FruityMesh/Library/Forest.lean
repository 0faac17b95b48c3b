import Mathlib.Combinatorics.SimpleGraph.Acyclic
import Mathlib.Combinatorics.SimpleGraph.DegreeSum
import Mathlib.Tactic.LinearCombination
import Mathlib.Tactic.Ring

/-!
# Forests

What the two sides of an edge of a forest are, and three ways to learn about a side
from the edge alone.

* `beyond_iff_dist`: the vertices on the side of `u` are those that are one step
  farther from `v` than from `u`.
* `total_eq_card`: where every vertex adds up what it believes about the sides of its
  edges, and the two ends of each edge agree with each other, every total is the number
  of vertices of the component; `share_eq_card` says that the beliefs are right, too.
* `hops_eq`: where the two ends agree about the way to the nearest of some marked vertices,
  what is believed is the distance.
-/

namespace FruityMesh.Forest

open SimpleGraph

variable {V : Type*} {G : SimpleGraph V}

/-! ## Distances -/

theorem dist_eq_length (hG : G.IsAcyclic) {u v : V} {p : G.Walk u v} (hp : p.IsPath) :
    G.dist u v = p.length := by
  obtain ⟨q, hq, hlength⟩ := p.reachable.exists_path_of_dist
  have hsame : (⟨q, hq⟩ : G.Path u v) = ⟨p, hp⟩ := (hG.subsingleton_path u v).elim _ _
  rw [← hlength, Subtype.mk.inj hsame]

/-- Every vertex but the root has a neighbour that is closer to the root. -/
theorem exists_closer {r u : V} (hreach : G.Reachable r u) (hne : u ≠ r) :
    ∃ v, G.Adj u v ∧ G.dist r u = G.dist r v + 1 := by
  obtain ⟨p, hlength⟩ := hreach.symm.exists_walk_length_eq_dist
  cases p with
  | nil => exact absurd rfl hne
  | @cons _ v _ hadj rest =>
      refine ⟨v, hadj, ?_⟩
      have hrest : G.dist v r ≤ rest.length := dist_le rest
      have hstep : G.dist u r ≤ G.dist v r + 1 := by
        obtain ⟨q, hq⟩ := rest.reachable.exists_walk_length_eq_dist
        rw [← hq]
        exact dist_le (Walk.cons hadj q)
      rw [Walk.length_cons] at hlength
      rw [dist_comm, dist_comm (u := r) (v := v)]
      omega

/-- There is only one of them. -/
theorem closer_unique (hG : G.IsAcyclic) {r u v w : V} (hreach : G.Reachable r u)
    (huv : G.Adj u v) (huw : G.Adj u w) (hv : G.dist r u = G.dist r v + 1)
    (hw : G.dist r u = G.dist r w + 1) : v = w := by
  have extend : ∀ x, G.Adj u x → G.dist r u = G.dist r x + 1 →
      ∃ p : G.Walk u r, p.IsPath ∧ p.snd = x := by
    intro x hadj hx
    obtain ⟨q, hq⟩ := (hreach.trans hadj.reachable).symm.exists_walk_length_eq_dist
    refine ⟨Walk.cons hadj q, ?_, Walk.snd_cons ..⟩
    apply Walk.isPath_of_length_eq_dist
    rw [Walk.length_cons, hq, dist_comm, dist_comm (u := u), hx]
  obtain ⟨p, hp, rfl⟩ := extend v huv hv
  obtain ⟨q, hq, rfl⟩ := extend w huw hw
  have hsame : (⟨p, hp⟩ : G.Path u r) = ⟨q, hq⟩ := (hG.subsingleton_path u r).elim _ _
  rw [Subtype.mk.inj hsame]

/-- A path that meets a neighbour of its start begins with the edge to it. -/
theorem edge_mem (hG : G.IsAcyclic) {u v s : V} {p : G.Walk u s} (hp : p.IsPath)
    (hadj : G.Adj u v) (hmem : v ∈ p.support) : s(u, v) ∈ p.edges := by
  have hsnd := hG.eq_snd_of_adj_start hp hadj hmem
  rw [hsnd]
  apply Walk.mk_start_snd_mem_edges
  intro hnil
  have hend : u = s := hnil.eq
  subst hend
  rw [Walk.nil_iff_support_eq.mp hnil, List.mem_singleton] at hmem
  exact hadj.ne hmem.symm

/-- A graph is a tree if its edges lead from each vertex but the root to a parent, which has
a lower rank. -/
theorem isTree_of_parent [Finite V] (root : V) (parent : V → V) (rank : V → ℕ)
    (hrank : ∀ v, v ≠ root → rank (parent v) < rank v)
    (hadj : ∀ v u, G.Adj v u ↔ (v ≠ root ∧ u = parent v) ∨ (u ≠ root ∧ v = parent u)) :
    G.IsTree := by
  -- every vertex reaches the root, by induction on its rank
  have hreach : ∀ n v, rank v = n → G.Reachable v root := by
    intro n
    induction n using Nat.strong_induction_on with
    | _ n ih =>
        intro v hv
        by_cases hroot : v = root
        · rw [hroot]
        · have hstep : G.Adj v (parent v) := (hadj v _).mpr (Or.inl ⟨hroot, rfl⟩)
          have hlower := hrank v hroot
          exact hstep.reachable.trans (ih _ (hv ▸ hlower) _ rfl)
  have hconnected : G.Connected :=
    { preconnected := fun v u => (hreach _ v rfl).trans (hreach _ u rfl).symm
      nonempty := ⟨root⟩ }
  rw [isTree_iff_connected_and_card]
  refine ⟨hconnected, ?_⟩
  -- each vertex but the root is the lower end of one edge
  let edge : {v // v ≠ root} → G.edgeSet := fun v =>
    ⟨s(v.val, parent v.val), (hadj _ _).mpr (Or.inl ⟨v.property, rfl⟩)⟩
  have hbijective : Function.Bijective edge := by
    constructor
    · rintro ⟨v, hv⟩ ⟨u, hu⟩ hsame
      rcases Sym2.eq_iff.mp (congrArg Subtype.val hsame) with ⟨h, _⟩ | ⟨h, h'⟩
      · exact Subtype.ext h
      · -- each would be the parent of the other
        have hvu := hrank v hv
        have huv := hrank u hu
        simp only at h h'
        rw [← h] at huv
        rw [h'] at hvu
        omega
    · rintro ⟨e, he⟩
      induction e using Sym2.ind with
      | _ v u =>
          rcases (hadj v u).mp he with ⟨hv, rfl⟩ | ⟨hu, rfl⟩
          · exact ⟨⟨v, hv⟩, rfl⟩
          · exact ⟨⟨u, hu⟩, Subtype.ext Sym2.eq_swap⟩
  rw [← Nat.card_congr (Equiv.ofBijective edge hbijective)]
  have := Fintype.ofFinite V
  classical
  rw [Nat.card_eq_fintype_card, Nat.card_eq_fintype_card, Fintype.card_subtype_compl,
    Fintype.card_subtype_eq]
  have : 0 < Fintype.card V := Fintype.card_pos_iff.mpr ⟨root⟩
  omega

/-! ## The sides of an edge -/

/-- The vertex `s` is on the side of `u` of the edge between `v` and `u`. -/
def Beyond (G : SimpleGraph V) (v u s : V) : Prop := (G.deleteEdges {s(v, u)}).Reachable u s

theorem Beyond.reachable {v u s : V} (h : Beyond G v u s) : G.Reachable u s :=
  h.mono (deleteEdges_le _)

theorem beyond_self (v u : V) : Beyond G v u u := Reachable.refl u

/-- The vertices on the side of `u` are one step farther from `v`. -/
theorem beyond_iff_dist (hG : G.IsAcyclic) {v u s : V} (hadj : G.Adj v u) :
    Beyond G v u s ↔ G.Reachable u s ∧ G.dist s v = G.dist s u + 1 := by
  constructor
  · intro h
    refine ⟨h.reachable, ?_⟩
    obtain ⟨p, hp⟩ := h.exists_isPath
    have hle : G.deleteEdges {s(v, u)} ≤ G := deleteEdges_le _
    have hpath : (p.mapLe hle).IsPath := hp.mapLe hle
    have hv : v ∉ (p.mapLe hle).support := by
      intro hmem
      have hedge := edge_mem hG hpath hadj.symm hmem
      rw [Walk.edges_mapLe_eq_edges] at hedge
      have hkept := p.edges_subset_edgeSet hedge
      rw [edgeSet_deleteEdges] at hkept
      exact hkept.2 (by rw [Set.mem_singleton_iff, Sym2.eq_swap])
    rw [dist_comm, dist_comm (u := s) (v := u), dist_eq_length hG hpath,
      dist_eq_length hG (hpath.cons hv (h := hadj)), Walk.length_cons]
  · rintro ⟨hreach, hdist⟩
    obtain ⟨p, hp, hlength⟩ := hreach.exists_path_of_dist
    refine reachable_deleteEdges_iff_exists_walk.mpr ⟨p, ?_⟩
    intro hmem
    have hv : v ∈ p.support := p.fst_mem_support_of_mem_edges hmem
    have hshort : G.dist v s + 1 ≤ p.length := by
      classical
      have htake := p.take_spec hv
      have hlen := congrArg Walk.length htake
      rw [Walk.length_append] at hlen
      have hpos : 0 < (p.takeUntil v hv).length := by
        rw [Nat.pos_iff_ne_zero]
        intro hzero
        exact hadj.ne (Walk.eq_of_length_eq_zero hzero).symm
      have hle : G.dist v s ≤ (p.dropUntil v hv).length := dist_le _
      omega
    rw [dist_comm, dist_comm (u := s) (v := u)] at hdist
    omega

/-- What is beyond an edge is not on the near side. -/
theorem not_beyond_self (hG : G.IsAcyclic) {v u : V} (hadj : G.Adj v u) : ¬ Beyond G v u v := by
  intro h
  have hdist := ((beyond_iff_dist hG hadj).mp h).2
  rw [dist_self] at hdist
  omega

/-- The two sides of an edge are what can be reached from it. -/
theorem beyond_swap_iff (hG : G.IsAcyclic) {v u s : V} (hadj : G.Adj v u) :
    Beyond G u v s ↔ G.Reachable v s ∧ ¬ Beyond G v u s := by
  rw [beyond_iff_dist hG hadj, beyond_iff_dist hG hadj.symm]
  constructor
  · rintro ⟨hreach, hdist⟩
    refine ⟨hreach, ?_⟩
    rintro ⟨_, hdist'⟩
    omega
  · rintro ⟨hreach, hnot⟩
    refine ⟨hreach, ?_⟩
    have hreach' : G.Reachable u s := hadj.symm.reachable.trans hreach
    rcases hG.dist_eq_dist_add_one_of_adj_of_reachable s hadj hreach.symm with h | h
    · exact absurd ⟨hreach', h⟩ hnot
    · exact h

/-- Without an edge, what was connected is connected, or is on the two sides of it. -/
theorem reachable_deleteEdges_cases (a b : V) {v w : V} (h : G.Reachable v w) :
    (G.deleteEdges {s(a, b)}).Reachable v w ∨
      ((G.deleteEdges {s(a, b)}).Reachable v a ∧ (G.deleteEdges {s(a, b)}).Reachable w b) ∨
        (G.deleteEdges {s(a, b)}).Reachable v b ∧ (G.deleteEdges {s(a, b)}).Reachable w a := by
  obtain ⟨p⟩ := h
  induction p with
  | nil => exact Or.inl (Reachable.refl _)
  | @cons x y w hadj rest ih =>
      by_cases hedge : s(x, y) = s(a, b)
      · -- only the last time that the walk takes the edge matters
        rcases Sym2.eq_iff.mp hedge with ⟨rfl, rfl⟩ | ⟨rfl, rfl⟩
        · rcases ih with hrest | ⟨_, hrest⟩ | ⟨_, hrest⟩
          · exact Or.inr (Or.inl ⟨Reachable.refl _, hrest.symm⟩)
          · exact Or.inr (Or.inl ⟨Reachable.refl _, hrest⟩)
          · exact Or.inl hrest.symm
        · rcases ih with hrest | ⟨_, hrest⟩ | ⟨_, hrest⟩
          · exact Or.inr (Or.inr ⟨Reachable.refl _, hrest.symm⟩)
          · exact Or.inl hrest.symm
          · exact Or.inr (Or.inr ⟨Reachable.refl _, hrest⟩)
      · have hkept : (G.deleteEdges {s(a, b)}).Adj x y := deleteEdges_adj.mpr ⟨hadj, hedge⟩
        rcases ih with hrest | ⟨hy, hw⟩ | ⟨hy, hw⟩
        · exact Or.inl (hkept.reachable.trans hrest)
        · exact Or.inr (Or.inl ⟨hkept.reachable.trans hy, hw⟩)
        · exact Or.inr (Or.inr ⟨hkept.reachable.trans hy, hw⟩)

/-! ## Counting -/

section Sides

variable [Fintype V]

theorem card_sides (hG : G.IsTree) {v u : V} (hadj : G.Adj v u) :
    {s | Beyond G v u s}.ncard + {s | Beyond G u v s}.ncard = Fintype.card V := by
  have hsides : {s | Beyond G u v s} = {s | Beyond G v u s}ᶜ := by
    ext s
    rw [Set.mem_ofPred_eq, beyond_swap_iff hG.isAcyclic hadj]
    exact and_iff_right (hG.connected.preconnected v s)
  rw [hsides, Set.ncard_add_ncard_compl, Nat.card_eq_fintype_card]

/-- A vertex and what lies beyond its edges is the whole tree. -/
theorem card_neighbours (hG : G.IsTree) (v : V) [Fintype (G.neighborSet v)] :
    1 + ∑ u ∈ G.neighborFinset v, {s | Beyond G v u s}.ncard = Fintype.card V := by
  classical
  have hdisjoint : (G.neighborFinset v : Set V).PairwiseDisjoint
      fun u => ({s | Beyond G v u s}.toFinset : Finset V) := by
    intro u hu w hw hne
    rw [Function.onFun, Finset.disjoint_left]
    intro s hs hs'
    rw [Set.mem_toFinset, Set.mem_ofPred_eq] at hs hs'
    rw [Finset.mem_coe, mem_neighborFinset] at hu hw
    have hdist := ((beyond_iff_dist hG.isAcyclic hu).mp hs).2
    have hdist' := ((beyond_iff_dist hG.isAcyclic hw).mp hs').2
    exact hne (closer_unique hG.isAcyclic (hG.connected.preconnected s v) hu hw hdist hdist')
  have hcover : (Finset.univ : Finset V) =
      insert v ((G.neighborFinset v).biUnion fun u => {s | Beyond G v u s}.toFinset) := by
    symm
    rw [Finset.eq_univ_iff_forall]
    intro s
    rw [Finset.mem_insert, Finset.mem_biUnion]
    by_cases hs : s = v
    · exact Or.inl hs
    · right
      obtain ⟨u, hu, hdist⟩ := exists_closer (hG.connected.preconnected s v) fun h => hs h.symm
      refine ⟨u, (mem_neighborFinset ..).mpr hu, ?_⟩
      rw [Set.mem_toFinset, Set.mem_ofPred_eq, beyond_iff_dist hG.isAcyclic hu]
      exact ⟨hG.connected.preconnected u s, hdist⟩
  have hnot : v ∉ (G.neighborFinset v).biUnion fun u => {s | Beyond G v u s}.toFinset := by
    rw [Finset.mem_biUnion]
    rintro ⟨u, hu, hv⟩
    rw [Set.mem_toFinset] at hv
    exact not_beyond_self hG.isAcyclic ((mem_neighborFinset ..).mp hu) hv
  rw [← Finset.card_univ, hcover, Finset.card_insert_of_notMem hnot, Finset.card_biUnion hdisjoint,
    add_comm]
  simp only [Set.ncard_eq_toFinset_card']

end Sides

section Counting

variable {R : Type*} [CommRing R]

/-- The two ends of each edge of a tree contribute `t` together. -/
theorem sum_shares {W : Type*} [Fintype W] [DecidableEq W] {H : SimpleGraph W}
    [DecidableRel H.Adj] (hH : H.IsTree) (share : W → W → R) (t : R)
    (hshare : ∀ v u, H.Adj v u → share v u + share u v = t) :
    ∑ v, ∑ u ∈ H.neighborFinset v, share v u + t = Fintype.card W * t := by
  have hdarts : ∑ v, ∑ u ∈ H.neighborFinset v, share v u =
      ∑ d : H.Dart, share d.fst d.snd := by
    rw [Finset.sum_sigma']
    refine Finset.sum_bij' (fun p hp => ⟨(p.1, p.2), by simpa using hp⟩)
      (fun d _ => ⟨d.fst, d.snd⟩) ?_ ?_ ?_ ?_ ?_
    all_goals simp [Dart.adj]
  have hedges : ∑ d : H.Dart, share d.fst d.snd = H.edgeFinset.card * t := by
    rw [← Finset.sum_fiberwise_of_maps_to (g := fun d => d.edge)
      (t := H.edgeFinset) (fun d _ => by simp [d.edge_mem]), Finset.card_eq_sum_ones,
      Nat.cast_sum, Finset.sum_mul]
    apply Finset.sum_congr rfl
    intro e he
    obtain ⟨v, u⟩ := e
    have hadj : H.Adj v u := by simpa using he
    let d : H.Dart := ⟨(v, u), hadj⟩
    calc ∑ x : H.Dart with x.edge = s(v, u), share x.fst x.snd
        = ∑ x ∈ {d, d.symm}, share x.fst x.snd := by
          congr 1
          convert d.edge_fiber
          rfl
      _ = share v u + share u v := Finset.sum_pair d.symm_ne.symm
      _ = (1 : ℕ) * t := by rw [hshare v u hadj, Nat.cast_one, one_mul]
  rw [hdarts, hedges, ← hH.card_edgeFinset]
  push_cast
  ring

/-- The totals of a component are the same at all of its vertices if the ends of each edge
agree on them. -/
theorem total_eq_of_mem {C : G.ConnectedComponent} {total : V → R} {share : V → V → R}
    (hshare : ∀ v ∈ C, ∀ u, G.Adj v u → share v u + share u v = total v) {v w : V}
    (hv : v ∈ C) (hw : w ∈ C) : total v = total w := by
  obtain ⟨p⟩ := ConnectedComponent.exact (hv.trans hw.symm)
  induction p with
  | nil => rfl
  | @cons a b c hadj rest ih =>
      have hb : b ∈ C := (C.mem_supp_congr_adj hadj).mp hv
      calc total a = share a b + share b a := (hshare a hv b hadj).symm
        _ = share b a + share a b := add_comm _ _
        _ = total b := hshare b hb a hadj.symm
        _ = total c := ih hb hw

variable [Fintype V] [DecidableEq V] [DecidableRel G.Adj]

/-- A vertex's total is one for itself and its shares; one vertex has something extra.
Where the ends of each edge agree, every total is the number of vertices of the component
and what is extra. -/
theorem total_eq_card (hG : G.IsAcyclic) (total : V → R) (share : V → V → R) (extra : R)
    {C : G.ConnectedComponent} {r : V} (hr : r ∈ C)
    (htotal : ∀ v ∈ C, total v =
      1 + ∑ u ∈ G.neighborFinset v, share v u + if v = r then extra else 0)
    (hshare : ∀ v ∈ C, ∀ u, G.Adj v u → share v u + share u v = total v) :
    total r = C.supp.ncard + extra := by
  classical
  have hsame : ∀ w ∈ C, total w = total r := fun w hw => total_eq_of_mem hshare hw hr
  -- all shares of the component: each of its edges gives the total once
  have hsum := sum_shares (hG.isTree_connectedComponent C) (fun w u => share w u) (total r) (by
    intro w u hadj
    rw [← hsame w w.property]
    exact hshare w w.property u (C.toSimpleGraph_hom.map_adj hadj))
  have hneighbours : ∀ w : C, ∑ u ∈ C.toSimpleGraph.neighborFinset w, share w u =
      ∑ u ∈ G.neighborFinset w, share w u := by
    intro w
    apply Finset.sum_bij (fun u _ => u.val)
    · intro u hu
      rw [mem_neighborFinset] at hu ⊢
      exact C.toSimpleGraph_hom.map_adj hu
    · intro u _ u' _ h
      exact Subtype.ext h
    · intro u hu
      rw [mem_neighborFinset] at hu
      refine ⟨⟨u, (C.mem_supp_congr_adj hu).mp w.property⟩, ?_, rfl⟩
      rw [mem_neighborFinset]
      exact hu
    · intro u _
      rfl
  -- all totals of the component
  have hadd : ∑ w : C, total w =
      Fintype.card C + ∑ w : C, ∑ u ∈ G.neighborFinset w, share w u +
        ∑ w : C, if w.val = r then extra else 0 := by
    rw [Finset.sum_congr rfl fun (w : C) _ => htotal w w.property, Finset.sum_add_distrib,
      Finset.sum_add_distrib, Finset.sum_const, Finset.card_univ, nsmul_one]
  have hextra : (∑ w : C, if w.val = r then extra else 0) = extra := by
    rw [Finset.sum_eq_single (⟨r, hr⟩ : C)]
    · exact if_pos rfl
    · intro w _ hne
      exact if_neg fun h => hne (Subtype.ext h)
    · intro hnot
      exact absurd (Finset.mem_univ _) hnot
  have hcard : C.supp.ncard = Fintype.card C := by
    rw [← Nat.card_coe_set_eq, ← Nat.card_eq_fintype_card]
    rfl
  rw [Finset.sum_congr rfl fun (w : C) _ => hsame w w.property, Finset.sum_const, Finset.card_univ,
    nsmul_eq_mul, hextra] at hadd
  rw [Finset.sum_congr rfl fun (w : C) _ => hneighbours w] at hsum
  rw [hcard]
  linear_combination hadd + hsum

/-- Where every total is one and the shares, a share is the number of vertices on the other
side of the edge. -/
theorem share_eq_card (hG : G.IsAcyclic) (total : V → R) (share : V → V → R)
    (htotal : ∀ w, total w = 1 + ∑ x ∈ G.neighborFinset w, share w x)
    (hshare : ∀ w x, G.Adj w x → share w x + share x w = total w) {v u : V} (hadj : G.Adj v u) :
    share v u = {s | Beyond G v u s}.ncard := by
  classical
  -- without the edge, `u` has the share of `v` as an extra
  let side := G.deleteEdges {s(v, u)}
  have hle : side ≤ G := deleteEdges_le _
  have hv : ∀ w ∈ side.connectedComponentMk u, w ≠ v := by
    rintro w hw rfl
    exact not_beyond_self hG hadj (ConnectedComponent.exact hw).symm
  have hsides : ∀ w ∈ side.connectedComponentMk u,
      total w = 1 + ∑ x ∈ side.neighborFinset w, share w x + if w = u then share u v else 0 := by
    intro w hw
    rw [htotal w, add_assoc]
    congr 1
    by_cases hwu : w = u
    · subst hwu
      have hneighbours : G.neighborFinset w = insert v (side.neighborFinset w) := by
        ext x
        simp only [mem_neighborFinset, Finset.mem_insert, side, deleteEdges_adj,
          Set.mem_singleton_iff, Sym2.eq_iff]
        have := hadj.symm
        have := hadj.ne
        grind
      have hnot : v ∉ side.neighborFinset w := by simp [side, Sym2.eq_swap]
      rw [hneighbours, Finset.sum_insert hnot, if_pos rfl, add_comm]
    · have hneighbours : G.neighborFinset w = side.neighborFinset w := by
        ext x
        have hwv := hv w hw
        simp only [mem_neighborFinset, side, deleteEdges_adj, Set.mem_singleton_iff, Sym2.eq_iff]
        grind
      rw [hneighbours, if_neg hwu, add_zero]
  have htotal_u := total_eq_card (hG.anti hle) total share _ (C := side.connectedComponentMk u) rfl hsides
    fun w _ x hwx => hshare w x (hle hwx)
  have hsupp : (side.connectedComponentMk u).supp = {s | Beyond G v u s} := by
    ext w
    rw [ConnectedComponent.mem_supp_iff, ConnectedComponent.eq]
    exact ⟨Reachable.symm, Reachable.symm⟩
  have hedge := hshare u v hadj.symm
  rw [hsupp] at htotal_u
  linear_combination hedge + htotal_u

end Counting

/-! ## The way to the nearest marked vertex -/

/-- What lies beyond the next edge lies beyond the edge before, one step farther away. -/
theorem Beyond.step (hG : G.IsAcyclic) {v u w s : V} (hvu : G.Adj v u) (huw : G.Adj u w)
    (hne : w ≠ v) (h : Beyond G u w s) : Beyond G v u s ∧ G.dist s u = G.dist s w + 1 := by
  obtain ⟨hreach, hdist⟩ := (beyond_iff_dist hG huw).mp h
  have hu : G.Reachable u s := huw.reachable.trans hreach
  refine ⟨(beyond_iff_dist hG hvu).mpr ⟨hu, ?_⟩, hdist⟩
  rcases hG.dist_eq_dist_add_one_of_adj_of_reachable s hvu.symm hu.symm with hcloser | hfarther
  · exact absurd (closer_unique hG hu.symm huw hvu.symm hdist hcloser) hne
  · exact hfarther

/-- What lies beyond an edge is its end or lies beyond another edge of the end. -/
theorem Beyond.cases (hG : G.IsAcyclic) {v u s : V} (hvu : G.Adj v u) (h : Beyond G v u s)
    (hne : u ≠ s) :
    ∃ w, G.Adj u w ∧ w ≠ v ∧ Beyond G u w s ∧ G.dist s u = G.dist s w + 1 := by
  obtain ⟨hreach, hdist⟩ := (beyond_iff_dist hG hvu).mp h
  obtain ⟨w, huw, hw⟩ := exists_closer hreach.symm hne
  refine ⟨w, huw, ?_, (beyond_iff_dist hG huw).mpr ⟨huw.symm.reachable.trans hreach, hw⟩, hw⟩
  rintro rfl
  omega

/-- The least number of a set, or nothing if there is none. -/
def Least (S : Set ℕ) : Option ℕ → Prop
  | none => S = ∅
  | some n => IsLeast S n

theorem Least.mem {S : Set ℕ} {least : Option ℕ} (h : Least S least) {n : ℕ}
    (hn : least = some n) : n ∈ S := by
  subst hn
  exact h.1

theorem Least.exists_le {S : Set ℕ} {least : Option ℕ} (h : Least S least) {n : ℕ} (hn : n ∈ S) :
    ∃ m ≤ n, least = some m := by
  cases least with
  | none => exact absurd hn (by rw [show S = ∅ from h]; exact Set.notMem_empty n)
  | some m => exact ⟨m, h.2 hn, rfl⟩

/-- The least elements of two sets agree if each element of one set has an element of the
other that is at most as great. -/
theorem Least.of_le {S T : Set ℕ} {least : Option ℕ} (h : Least S least)
    (hST : ∀ n, least = some n → n ∈ T) (hTS : ∀ n ∈ T, ∃ m ≤ n, least = some m) :
    Least T least := by
  cases least with
  | none =>
      apply Set.eq_empty_of_forall_notMem
      intro n hn
      obtain ⟨m, _, hm⟩ := hTS n hn
      exact absurd hm (by simp)
  | some n =>
      refine ⟨hST n rfl, ?_⟩
      intro k hk
      obtain ⟨m, hle, hm⟩ := hTS k hk
      rw [Option.some.inj hm]
      exact hle

variable {marked : V → Prop} {hops : V → V → Option ℕ}

/-- The numbers of hops over the edge from `v` to `u` that the end `u` knows of. -/
def Known (G : SimpleGraph V) (marked : V → Prop) (hops : V → V → Option ℕ) (v u : V) : Set ℕ :=
  {n | (marked u ∧ n = 1) ∨ ∃ w m, G.Adj u w ∧ w ≠ v ∧ hops u w = some m ∧ n = m + 1}

/-- The numbers of hops over the edge from `v` to `u` that lead to a marked vertex. -/
def Leading (G : SimpleGraph V) (marked : V → Prop) (v u : V) : Set ℕ :=
  {n | ∃ s, marked s ∧ Beyond G v u s ∧ n = G.dist u s + 1}

/-- A number of hops that the end of each edge knows of leads to a marked vertex. -/
theorem mem_leading (hG : G.IsAcyclic)
    (hknown : ∀ v u, G.Adj v u → ∀ n, hops v u = some n → n ∈ Known G marked hops v u) {v u : V}
    (hadj : G.Adj v u) {n : ℕ} (hn : hops v u = some n) : n ∈ Leading G marked v u := by
  induction n using Nat.strong_induction_on generalizing v u with
  | _ n ih =>
      rcases hknown v u hadj n hn with ⟨hmarked, rfl⟩ | ⟨w, m, huw, hne, hm, rfl⟩
      · exact ⟨u, hmarked, beyond_self v u, by rw [dist_self]⟩
      · obtain ⟨s, hs, hbeyond, rfl⟩ := ih m (Nat.lt_succ_self m) huw hm
        obtain ⟨hbefore, hdist⟩ := hbeyond.step hG hadj huw hne
        refine ⟨s, hs, hbefore, ?_⟩
        rw [dist_comm (u := u), hdist, dist_comm (u := w)]

/-- There is no shorter way to a marked vertex. -/
theorem exists_le_of_leading (hG : G.IsAcyclic)
    (hknown : ∀ v u, G.Adj v u → Least (Known G marked hops v u) (hops v u)) {v u : V}
    (hadj : G.Adj v u) {n : ℕ} (hn : n ∈ Leading G marked v u) :
    ∃ m ≤ n, hops v u = some m := by
  obtain ⟨s, hs, hbeyond, rfl⟩ := hn
  induction hk : G.dist u s generalizing v u with
  | zero =>
      apply (hknown v u hadj).exists_le
      rcases dist_eq_zero_iff_eq_or_not_reachable.mp hk with rfl | hnot
      · exact Or.inl ⟨hs, rfl⟩
      · exact absurd hbeyond.reachable hnot
  | succ k ih =>
      have hne : u ≠ s := by
        rintro rfl
        rw [dist_self] at hk
        omega
      obtain ⟨w, huw, hwv, hw, hdist⟩ := hbeyond.cases hG hadj hne
      rw [dist_comm (u := s) (v := u), hk, dist_comm (u := s)] at hdist
      obtain ⟨m, hm, hhops⟩ := ih huw hw (by omega)
      obtain ⟨l, hl, hhops'⟩ := (hknown v u hadj).exists_le (Or.inr ⟨w, m, huw, hwv, hhops, rfl⟩)
      exact ⟨l, by omega, hhops'⟩

/-- **What the ends agree on is right.**  If every end tells the shortest way that it knows,
not using the edge itself, then that is the shortest way there is. -/
theorem hops_eq (hG : G.IsAcyclic)
    (hknown : ∀ v u, G.Adj v u → Least (Known G marked hops v u) (hops v u)) {v u : V}
    (hadj : G.Adj v u) : Least (Leading G marked v u) (hops v u) :=
  (hknown v u hadj).of_le
    (fun _ hn => mem_leading hG (fun v u hadj _ hn => (hknown v u hadj).mem hn) hadj hn)
    fun _ hn => exists_le_of_leading hG hknown hadj hn

/-- The vertices on a way are not too many for it. -/
theorem le_card_of_leading [Fintype V] {v u : V} {n : ℕ}
    (hn : n ∈ Leading G marked v u) : n ≤ Fintype.card V := by
  obtain ⟨s, _, hbeyond, rfl⟩ := hn
  obtain ⟨p, hp, hlength⟩ := hbeyond.reachable.exists_path_of_dist
  rw [← hlength]
  exact hp.length_lt

/-! ## Going to the nearest marked vertex -/

/-- The distance to the nearest marked vertex. -/
noncomputable def toNearest (G : SimpleGraph V) (marked : V → Prop) (v : V) : ℕ :=
  sInf {n | ∃ s, marked s ∧ n = G.dist v s}

section Nearest

variable {u v : V}

theorem toNearest_le {s : V} (hs : marked s) : toNearest G marked v ≤ G.dist v s :=
  Nat.sInf_le ⟨s, hs, rfl⟩

theorem exists_nearest (hmarked : ∃ s, marked s) (v : V) :
    ∃ s, marked s ∧ toNearest G marked v = G.dist v s := by
  obtain ⟨s, hs⟩ := hmarked
  exact Nat.sInf_mem (s := {n | ∃ s, marked s ∧ n = G.dist v s}) ⟨_, s, hs, rfl⟩

theorem toNearest_eq_zero_iff (hG : G.Connected) (hmarked : ∃ s, marked s) :
    toNearest G marked v = 0 ↔ marked v := by
  constructor
  · intro hzero
    obtain ⟨s, hs, hdist⟩ := exists_nearest (G := G) hmarked v
    rw [hzero] at hdist
    rwa [hG.dist_eq_zero_iff.mp hdist.symm]
  · intro hv
    have hle := toNearest_le (G := G) (v := v) hv
    rw [dist_self] at hle
    exact Nat.le_zero.mp hle

theorem toNearest_le_succ (hG : G.Connected) (hmarked : ∃ s, marked s) (hadj : G.Adj v u) :
    toNearest G marked v ≤ toNearest G marked u + 1 := by
  obtain ⟨s, hs, hdist⟩ := exists_nearest (G := G) hmarked u
  calc toNearest G marked v ≤ G.dist v s := toNearest_le hs
    _ ≤ G.dist v u + G.dist u s := hG.dist_triangle
    _ = toNearest G marked u + 1 := by rw [dist_eq_one_iff_adj.mpr hadj, hdist, add_comm]

/-- No edge leads to a marked vertex that is nearer than the nearest one. -/
theorem toNearest_le_of_leading (hG : G.IsAcyclic) (hadj : G.Adj v u) {n : ℕ}
    (hn : n ∈ Leading G marked v u) : toNearest G marked v ≤ n := by
  obtain ⟨s, hs, hbeyond, rfl⟩ := hn
  have hdist := ((beyond_iff_dist hG hadj).mp hbeyond).2
  rw [dist_comm (u := u), ← hdist, dist_comm]
  exact toNearest_le hs

/-- From a vertex that is not marked an edge leads to the nearest one. -/
theorem exists_leading (hG : G.IsTree) (hmarked : ∃ s, marked s) (hv : ¬ marked v) :
    ∃ u, G.Adj v u ∧ toNearest G marked v ∈ Leading G marked v u := by
  obtain ⟨s, hs, hdist⟩ := exists_nearest (G := G) hmarked v
  have hne : v ≠ s := by
    rintro rfl
    exact hv hs
  obtain ⟨u, hadj, hcloser⟩ := exists_closer (hG.connected.preconnected s v) hne
  have hbeyond : Beyond G v u s :=
    (beyond_iff_dist hG.isAcyclic hadj).mpr ⟨hG.connected.preconnected u s, hcloser⟩
  refine ⟨u, hadj, s, hs, hbeyond, ?_⟩
  rw [hdist, dist_comm, hcloser, dist_comm]

/-- An edge that leads to the nearest marked vertex leads one step closer, and the way back
over it leads to none that is as near. -/
theorem toNearest_step (hG : G.IsTree) (hmarked : ∃ s, marked s) (hadj : G.Adj v u)
    (hleading : toNearest G marked v ∈ Leading G marked v u) :
    toNearest G marked v = toNearest G marked u + 1 ∧
      toNearest G marked u ∉ Leading G marked u v := by
  have hcloser : toNearest G marked v = toNearest G marked u + 1 := by
    obtain ⟨s, hs, _, hdist⟩ := hleading
    have hu := toNearest_le (G := G) (v := u) hs
    have hv := toNearest_le_succ hG.connected hmarked hadj
    omega
  refine ⟨hcloser, ?_⟩
  rintro ⟨s, hs, _, hdist⟩
  have hv := toNearest_le (G := G) (v := v) hs
  omega

end Nearest

end FruityMesh.Forest
