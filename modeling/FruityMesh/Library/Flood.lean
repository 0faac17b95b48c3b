import FruityMesh.Library.Ports

/-!
# Flooding a tree

A node sends a message over all of its links, and every node that receives a copy relays
it over all of its other links, unless the node is one that stops the message.

`seen v` is the number of copies that `v` has received.  The invariant `Flooding` says for
each link in the direction away from the root that what has arrived and what is on its
way is what the node before has sent, and that nothing is ever on its way back.
`Flooding.start` and `Flooding.receive` establish and preserve it.  So no node receives a
second copy (`seen_le_one`), and when nothing is on its way any more, the copies have
reached the nodes that no stopping node cuts off from the root (`seen_eq_one_iff`).

A copy may change with the distance it has travelled: `copy d m` says that `m` is what
arrives at distance `d`.
-/

namespace FruityMesh.Flood

open SimpleGraph Ports Forest

variable {V P M : Type*} {peer : Links V P} {root : V} {stops : V → Prop}

/-! ## The nodes in between -/

/-- The node `w` is strictly between `r` and `v`. -/
def Between (G : SimpleGraph V) (r v w : V) : Prop :=
  w ≠ r ∧ w ≠ v ∧ G.dist r w + G.dist w v = G.dist r v

/-- A node is between the root and `v` if it is the node before `v`, or between the root
and the node before `v`. -/
theorem between_iff {G : SimpleGraph V} (hG : G.IsTree) {r u v w : V} (hadj : G.Adj v u)
    (hdist : G.dist r v = G.dist r u + 1) :
    Between G r v w ↔ Between G r u w ∨ (w = u ∧ u ≠ r) := by
  constructor
  · rintro ⟨hwr, hwv, hsum⟩
    obtain ⟨u', hadj', hu'⟩ := exists_closer (hG.connected w v) hwv.symm
    have htriangle : G.dist r u' ≤ G.dist r w + G.dist w u' := hG.connected.dist_triangle
    have hcloser : G.dist r v = G.dist r u' + 1 := by
      rcases hG.dist_eq_dist_add_one_of_adj r hadj' with h | h <;> omega
    obtain rfl : u' = u :=
      closer_unique hG.isAcyclic (hG.connected r v) hadj' hadj hcloser hdist
    by_cases hwu : w = u'
    · exact Or.inr ⟨hwu, hwu ▸ hwr⟩
    · exact Or.inl ⟨hwr, hwu, by omega⟩
  · rintro (⟨hwr, _, hsum⟩ | ⟨rfl, hur⟩)
    · have hstep : G.dist w v ≤ G.dist w u + G.dist u v := hG.connected.dist_triangle
      have hwhole : G.dist r v ≤ G.dist r w + G.dist w v := hG.connected.dist_triangle
      have hone : G.dist u v = 1 := dist_eq_one_iff_adj.mpr hadj.symm
      refine ⟨hwr, ?_, by omega⟩
      rintro rfl
      omega
    · exact ⟨hur, hadj.ne', by rw [dist_eq_one_iff_adj.mpr hadj.symm, hdist]⟩

/-- No node between the root and `v` stops the message. -/
def Open (G : SimpleGraph V) (root : V) (stops : V → Prop) (v : V) : Prop :=
  ∀ w, Between G root v w → ¬ stops w

theorem open_iff {G : SimpleGraph V} (hG : G.IsTree) {r u v : V} (hadj : G.Adj v u)
    (hdist : G.dist r v = G.dist r u + 1) :
    Open G r stops v ↔ Open G r stops u ∧ (u = r ∨ ¬ stops u) := by
  constructor
  · intro h
    refine ⟨fun w hw => h w ((between_iff hG hadj hdist).mpr (Or.inl hw)), ?_⟩
    by_cases hur : u = r
    · exact Or.inl hur
    · exact Or.inr (h u ((between_iff hG hadj hdist).mpr (Or.inr ⟨rfl, hur⟩)))
  · rintro ⟨hopen, hu⟩ w hw
    rcases (between_iff hG hadj hdist).mp hw with hw | ⟨rfl, hur⟩
    · exact hopen w hw
    · exact hu.resolve_left hur

/-! ## The invariant -/

/-- The copies that `u` has sent over each link away from the root. -/
noncomputable def sent (root : V) (stops : V → Prop) (seen : V → ℕ) (u : V) : ℕ :=
  open Classical in if u = root then 1 else if stops u then 0 else seen u

structure Flooding (peer : Links V P) (root : V) (stops : V → Prop) (copy : ℕ → M → Prop)
    (seen : V → ℕ) (inbox : V → P → List M) : Prop where
  root_seen : seen root = 0
  away : ∀ {u j v i}, peer u j = some (v, i) →
    (graph peer).dist root v = (graph peer).dist root u + 1 →
      seen v + (inbox v i).length = sent root stops seen u
  back : ∀ {u j v i}, peer u j = some (v, i) →
    (graph peer).dist root u = (graph peer).dist root v + 1 → inbox v i = []
  copies : ∀ {v i m}, m ∈ inbox v i → copy ((graph peer).dist root v) m

variable {copy : ℕ → M → Prop} {seen : V → ℕ} {inbox : V → P → List M}

/-- The root sends a copy over each of its links. -/
theorem Flooding.start [DecidableEq V] (hw : Wired peer) {out : P → List M}
    (hempty : ∀ v i, inbox v i = []) (hlength : ∀ i, peer root i ≠ none → (out i).length = 1)
    (hcopy : ∀ i, ∀ m ∈ out i, copy 1 m) :
    Flooding peer root stops copy (fun _ => 0) (post peer root out inbox) where
  root_seen := rfl
  away := by
    intro u j v i hpeer _
    unfold sent
    by_cases hu : u = root
    · subst hu
      have hlinked : peer u j ≠ none := by simp [hpeer]
      rw [post_of_peer (hw.twoWay hpeer), hempty, if_pos rfl, List.nil_append, hlength j hlinked]
    · rw [post_of_ne (hw.twoWay hpeer) hu, hempty, if_neg hu]
      simp
  back := by
    intro u j v i hpeer hdist
    have hu : u ≠ root := by
      rintro rfl
      rw [dist_self] at hdist
      omega
    rw [post_of_ne (hw.twoWay hpeer) hu, hempty]
  copies := by
    intro v i m hm
    cases hpeer : peer v i with
    | none => simp [post_of_none hpeer, hempty] at hm
    | some p =>
        obtain ⟨u, j⟩ := p
        by_cases hu : u = root
        · subst hu
          rw [post_of_peer hpeer, hempty, List.nil_append] at hm
          rw [dist_eq_one_iff_adj.mpr (hw.adj (hw.twoWay hpeer))]
          exact hcopy j m hm
        · simp [post_of_ne hpeer hu, hempty] at hm

namespace Flooding

variable {v u : V} {i j : P} {m : M} {rest : List M}

/-- What has arrived comes from the direction of the root. -/
theorem from_root (h : Flooding peer root stops copy seen inbox) (hw : Wired peer)
    (hG : (graph peer).IsTree) (hpeer : peer v i = some (u, j)) (hinbox : inbox v i ≠ []) :
    (graph peer).dist root v = (graph peer).dist root u + 1 := by
  rcases hG.dist_eq_dist_add_one_of_adj root (hw.adj hpeer) with hv | hu
  · exact hv
  · exact absurd (h.back (hw.twoWay hpeer) hu) hinbox

/-- The node that something has arrived at is not the root. -/
theorem ne_root (h : Flooding peer root stops copy seen inbox) (hw : Wired peer)
    (hG : (graph peer).IsTree) (hpeer : peer v i = some (u, j)) (hinbox : inbox v i ≠ []) :
    v ≠ root := by
  have hdown := h.from_root hw hG hpeer hinbox
  rintro rfl
  rw [dist_self] at hdown
  omega

/-- The other neighbours of a node that something has arrived at are farther away. -/
theorem farther (h : Flooding peer root stops copy seen inbox) (hw : Wired peer)
    (hG : (graph peer).IsTree) (hpeer : peer v i = some (u, j)) (hinbox : inbox v i ≠ []) {k : P}
    {w : V} {l : P} (hk : peer v k = some (w, l)) (hne : k ≠ i) :
    (graph peer).dist root w = (graph peer).dist root v + 1 := by
  rcases hG.dist_eq_dist_add_one_of_adj root (hw.adj hk) with hcloser | hfarther
  · have hsameNode : w = u := closer_unique hG.isAcyclic (hG.connected root v) (hw.adj hk)
      (hw.adj hpeer) hcloser (h.from_root hw hG hpeer hinbox)
    subst hsameNode
    exact absurd (hw.single hk hpeer) hne
  · exact hfarther

variable [DecidableEq V] [DecidableEq P] {out : P → List M}

section Receive

variable (h : Flooding peer root stops copy seen inbox) (hw : Wired peer)
  (hG : (graph peer).IsTree) (hpeer : peer v i = some (u, j)) (hinbox : inbox v i = m :: rest)
include h hw hG hpeer hinbox

theorem receive_away (hlength : ∀ k ≠ i, ¬ stops v → peer v k ≠ none → (out k).length = 1)
    (hstop : ∀ k, stops v → out k = []) {a b : V} {k l : P} (hlink : peer a k = some (b, l))
    (hdist : (graph peer).dist root b = (graph peer).dist root a + 1) :
    Function.update seen v (seen v + 1) b +
        (post peer v out (setInbox inbox v i rest) b l).length =
      sent root stops (Function.update seen v (seen v + 1)) a := by
  have hsome : inbox v i ≠ [] := by simp [hinbox]
  have hdown := h.from_root hw hG hpeer hsome
  have hroot := h.ne_root hw hG hpeer hsome
  have hback := hw.twoWay hlink
  have hold := h.away hlink hdist
  by_cases hb : b = v
  · -- the link over which the copy has arrived
    subst hb
    have hl : l = i := by
      by_contra hne
      have := h.farther hw hG hpeer hsome hback hne
      omega
    subst hl
    obtain ⟨rfl, rfl⟩ : a = u ∧ k = j := by
      rw [hpeer] at hback
      exact ⟨(Prod.mk.inj (Option.some.inj hback)).1.symm,
        (Prod.mk.inj (Option.some.inj hback)).2.symm⟩
    have hab := hw.loopless hlink
    rw [hinbox, List.length_cons] at hold
    unfold sent at hold ⊢
    rw [Function.update_self, Function.update_of_ne hab, post_of_ne hback hab, setInbox_same]
    omega
  · have hinb : setInbox inbox v i rest b l = inbox b l := setInbox_node _ hb _
    rw [Function.update_of_ne hb]
    by_cases ha : a = v
    · -- a link over which the copy is relayed
      subst ha
      have hki : k ≠ i := by
        rintro rfl
        rw [hpeer] at hlink
        obtain ⟨rfl, -⟩ := Prod.mk.inj (Option.some.inj hlink)
        omega
      rw [post_of_peer hback, hinb, List.length_append]
      unfold sent at hold ⊢
      rw [if_neg hroot] at hold ⊢
      by_cases hs : stops a
      · rw [if_pos hs] at hold ⊢
        rw [hstop k hs, List.length_nil, add_zero, hold]
      · rw [if_neg hs] at hold ⊢
        rw [Function.update_self, hlength k hki hs (by simp [hlink])]
        omega
    -- nothing changes on the other links
    · rw [post_of_ne hback ha, hinb]
      unfold sent at hold ⊢
      rw [Function.update_of_ne ha]
      exact hold

theorem receive_back (hsame : out i = []) {a b : V} {k l : P} (hlink : peer a k = some (b, l))
    (hdist : (graph peer).dist root a = (graph peer).dist root b + 1) :
    post peer v out (setInbox inbox v i rest) b l = [] := by
  have hsome : inbox v i ≠ [] := by simp [hinbox]
  have hback := hw.twoWay hlink
  have hold := h.back hlink hdist
  have hinb : setInbox inbox v i rest b l = [] := by
    apply List.eq_nil_iff_forall_not_mem.mpr
    intro m' hmem
    have hmem' : m' ∈ inbox b l := by
      refine mem_of_mem_setInbox ?_ hmem
      rw [hinbox]
      exact List.subset_cons_self m rest
    rw [hold] at hmem'
    exact List.not_mem_nil hmem'
  by_cases ha : a = v
  · subst ha
    have hki : k = i := by
      by_contra hne
      have := h.farther hw hG hpeer hsome hlink hne
      omega
    subst hki
    rw [post_of_peer hback, hinb, hsame, List.append_nil]
  · rw [post_of_ne hback ha, hinb]

theorem receive_copies (hsame : out i = [])
    (hcopy : ∀ k, ∀ m' ∈ out k, copy ((graph peer).dist root v + 1) m') {b : V} {l : P} {m' : M}
    (hm' : m' ∈ post peer v out (setInbox inbox v i rest) b l) :
    copy ((graph peer).dist root b) m' := by
  have hsome : inbox v i ≠ [] := by simp [hinbox]
  have hkept : ∀ m' ∈ setInbox inbox v i rest b l, copy ((graph peer).dist root b) m' := by
    intro m' hmem
    refine h.copies (mem_of_mem_setInbox ?_ hmem)
    rw [hinbox]
    exact List.subset_cons_self m rest
  cases hback : peer b l with
  | none =>
      rw [post_of_none hback] at hm'
      exact hkept m' hm'
  | some p =>
      obtain ⟨a, k⟩ := p
      by_cases ha : a = v
      · subst ha
        rw [post_of_peer hback] at hm'
        rcases List.mem_append.mp hm' with hold | hnew
        · exact hkept m' hold
        · have hki : k ≠ i := by
            rintro rfl
            rw [hsame] at hnew
            exact absurd hnew List.not_mem_nil
          rw [h.farther hw hG hpeer hsome (hw.twoWay hback) hki]
          exact hcopy k m' hnew
      · rw [post_of_ne hback ha] at hm'
        exact hkept m' hm'

/-- A node receives a copy and relays it over its other links, or stops it. -/
theorem receive (hsame : out i = [])
    (hlength : ∀ k ≠ i, ¬ stops v → peer v k ≠ none → (out k).length = 1)
    (hstop : ∀ k, stops v → out k = [])
    (hcopy : ∀ k, ∀ m' ∈ out k, copy ((graph peer).dist root v + 1) m') :
    Flooding peer root stops copy (Function.update seen v (seen v + 1))
      (post peer v out (setInbox inbox v i rest)) where
  root_seen := by
    have hroot := h.ne_root hw hG hpeer (by simp [hinbox])
    rw [Function.update_of_ne hroot.symm, h.root_seen]
  away := fun hlink hdist => h.receive_away hw hG hpeer hinbox hlength hstop hlink hdist
  back := fun hlink hdist => h.receive_back hw hG hpeer hinbox hsame hlink hdist
  copies := fun hm' => h.receive_copies hw hG hpeer hinbox hsame hcopy hm'

end Receive

end Flooding

/-! ## What the nodes have seen -/

namespace Flooding

/-- No node receives a second copy. -/
theorem seen_le_one (h : Flooding peer root stops copy seen inbox) (hw : Wired peer)
    (hG : (graph peer).IsTree) (v : V) : seen v ≤ 1 := by
  induction hd : (graph peer).dist root v generalizing v with
  | zero =>
      obtain rfl : root = v := (hG.connected.dist_eq_zero_iff).mp hd
      rw [h.root_seen]
      exact Nat.zero_le 1
  | succ d ih =>
      have hne : v ≠ root := by
        rintro rfl
        rw [dist_self] at hd
        omega
      obtain ⟨u, hadj, hu⟩ := exists_closer (hG.connected root v) hne
      obtain ⟨i, j, hpeer⟩ := hw.adj_iff.mp hadj
      have hsent := h.away (hw.twoWay hpeer) hu
      have hbefore := ih u (by omega)
      unfold sent at hsent
      split_ifs at hsent <;> omega

/-- A node that has received a copy is not cut off. -/
theorem open_of_seen (h : Flooding peer root stops copy seen inbox) (hw : Wired peer)
    (hG : (graph peer).IsTree) (v : V) (hseen : 0 < seen v) :
    v ≠ root ∧ Open (graph peer) root stops v := by
  induction hd : (graph peer).dist root v generalizing v with
  | zero =>
      obtain rfl : root = v := (hG.connected.dist_eq_zero_iff).mp hd
      rw [h.root_seen] at hseen
      omega
  | succ d ih =>
      have hne : v ≠ root := by
        rintro rfl
        rw [dist_self] at hd
        omega
      obtain ⟨u, hadj, hu⟩ := exists_closer (hG.connected root v) hne
      obtain ⟨i, j, hpeer⟩ := hw.adj_iff.mp hadj
      have hsent := h.away (hw.twoWay hpeer) hu
      refine ⟨hne, (open_iff hG hadj hu).mpr ?_⟩
      unfold sent at hsent
      split_ifs at hsent with hroot hs
      · subst hroot
        refine ⟨?_, Or.inl rfl⟩
        rintro w ⟨hwr, _, hsum⟩
        rw [dist_self] at hsum
        exact absurd (hG.connected.dist_eq_zero_iff.mp (by omega)) hwr.symm
      · omega
      · exact ⟨(ih u (by omega) (by omega)).2, Or.inr hs⟩

/-- When nothing is on its way, the copies have reached the nodes that are not cut off. -/
theorem seen_eq_one_iff (h : Flooding peer root stops copy seen inbox) (hw : Wired peer)
    (hG : (graph peer).IsTree) (hempty : ∀ v i, inbox v i = []) (v : V) :
    seen v = 1 ↔ v ≠ root ∧ Open (graph peer) root stops v := by
  refine ⟨fun hone => h.open_of_seen hw hG v (by omega), ?_⟩
  rintro ⟨hne, hopen⟩
  induction hd : (graph peer).dist root v generalizing v with
  | zero => exact absurd (hG.connected.dist_eq_zero_iff.mp hd).symm hne
  | succ d ih =>
      obtain ⟨u, hadj, hu⟩ := exists_closer (hG.connected root v) hne
      obtain ⟨i, j, hpeer⟩ := hw.adj_iff.mp hadj
      have hsent := h.away (hw.twoWay hpeer) hu
      rw [hempty, List.length_nil, add_zero] at hsent
      obtain ⟨hbefore, hu'⟩ := (open_iff hG hadj hu).mp hopen
      rw [hsent]
      unfold sent
      by_cases hroot : u = root
      · rw [if_pos hroot]
      · rw [if_neg hroot, if_neg (hu'.resolve_left hroot)]
        exact ih u hroot hbefore (by omega)

/-- Every node but the root receives at most one copy. -/
theorem sum_seen_lt [Fintype V] (h : Flooding peer root stops copy seen inbox) (hw : Wired peer)
    (hG : (graph peer).IsTree) : ∑ v, seen v < Fintype.card V := by
  calc ∑ v, seen v < ∑ _v : V, 1 := by
        apply Finset.sum_lt_sum
        · intro v _
          exact h.seen_le_one hw hG v
        · exact ⟨root, Finset.mem_univ root, by rw [h.root_seen]; exact Nat.zero_lt_one⟩
    _ = Fintype.card V := by simp

end Flooding

end FruityMesh.Flood
