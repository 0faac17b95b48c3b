import FruityMesh.Library.Flood

/-!
# Flooding a tree with a stream of messages

A root sends one message after the other over all of its links, and every node relays what
it receives over its other links, unless the node is one that stops the message.  Meanwhile
other messages are on their way, in both directions and over the same links.

`key m` is what the message `m` of the root says, and `none` for all other messages.
`passed v` is what `v` has received of the root so far, for the root itself what it has
sent.  The invariant `Streaming` says for each link in the direction away from the root that
what has passed at the far end and what is on its way is what the near end has sent on, in
this order, and that nothing of the root is ever on its way back.  So what has passed at a
node is a prefix of what the root has sent and no node in between stops (`prefix_of_root`),
and all of it when nothing is on its way any more (`passed_eq`).

In contrast to `Flood`, which is about one message and counts its copies, the order of the
messages on each link matters here.
-/

namespace FruityMesh.Streams

open SimpleGraph Ports Forest Flood

variable {V P M K : Type*} {peer : Links V P} {root : V} {relays : V → K → Bool}
  {key : M → Option K} {passed : V → List K} {inbox : V → P → List M}

/-- What a node sends on of what has passed. -/
noncomputable def sentOn (root : V) (relays : V → K → Bool) (passed : V → List K) (u : V) :
    List K :=
  open Classical in if u = root then passed u else (passed u).filter (relays u)

theorem sentOn_root : sentOn root relays passed root = passed root := if_pos rfl

theorem sentOn_of_ne {u : V} (h : u ≠ root) :
    sentOn root relays passed u = (passed u).filter (relays u) := if_neg h

theorem sentOn_congr {passed' : V → List K} {u : V} (h : passed' u = passed u) :
    sentOn root relays passed' u = sentOn root relays passed u := by
  unfold sentOn
  rw [h]

structure Streaming (peer : Links V P) (root : V) (relays : V → K → Bool) (key : M → Option K)
    (passed : V → List K) (inbox : V → P → List M) : Prop where
  away : ∀ {u j v i}, peer u j = some (v, i) →
    (graph peer).dist root v = (graph peer).dist root u + 1 →
      passed v ++ (inbox v i).filterMap key = sentOn root relays passed u
  back : ∀ {u j v i}, peer u j = some (v, i) →
    (graph peer).dist root u = (graph peer).dist root v + 1 → (inbox v i).filterMap key = []

namespace Streaming

/-- Nothing has been sent yet. -/
theorem start (hempty : ∀ v i, inbox v i = []) :
    Streaming peer root relays key (fun _ => []) inbox where
  away := by
    intro u j v i _ _
    unfold sentOn
    split_ifs <;> simp [hempty]
  back := by
    intro u j v i _ _
    rw [hempty, List.filterMap_nil]

/-! ## Sending -/

section Send

variable [DecidableEq V] {out : P → List M}

/-- The root sends messages over all of its links. -/
theorem send (h : Streaming peer root relays key passed inbox) (hw : Wired peer) {sent : List K}
    (hout : ∀ i, peer root i ≠ none → (out i).filterMap key = sent) :
    Streaming peer root relays key (Function.update passed root (passed root ++ sent))
      (post peer root out inbox) where
  away := by
    intro u j v i hpeer hdist
    have hv : v ≠ root := by
      rintro rfl
      rw [dist_self] at hdist
      omega
    have hold := h.away hpeer hdist
    rw [Function.update_of_ne hv]
    by_cases hu : u = root
    · subst hu
      rw [sentOn_root] at hold
      rw [sentOn_root, Function.update_self, post_of_peer (hw.twoWay hpeer), List.filterMap_append,
        hout j (by simp [hpeer]), ← List.append_assoc, hold]
    · rw [post_of_ne (hw.twoWay hpeer) hu, sentOn_congr (Function.update_of_ne hu _ _)]
      exact hold
  back := by
    intro u j v i hpeer hdist
    have hu : u ≠ root := by
      rintro rfl
      rw [dist_self] at hdist
      omega
    rw [post_of_ne (hw.twoWay hpeer) hu]
    exact h.back hpeer hdist

/-- A node sends messages that are not messages of the root. -/
theorem unrelated (h : Streaming peer root relays key passed inbox) (hw : Wired peer) {w : V}
    (hout : ∀ i, peer w i ≠ none → (out i).filterMap key = []) :
    Streaming peer root relays key passed (post peer w out inbox) := by
  have hkept : ∀ {u j v i}, peer u j = some (v, i) →
      (post peer w out inbox v i).filterMap key = (inbox v i).filterMap key := by
    intro u j v i hpeer
    by_cases hu : u = w
    · subst hu
      rw [post_of_peer (hw.twoWay hpeer), List.filterMap_append, hout j (by simp [hpeer]),
        List.append_nil]
    · rw [post_of_ne (hw.twoWay hpeer) hu]
  constructor
  · intro u j v i hpeer hdist
    rw [hkept hpeer]
    exact h.away hpeer hdist
  · intro u j v i hpeer hdist
    rw [hkept hpeer]
    exact h.back hpeer hdist

end Send

/-! ## Receiving -/

section Receive

variable [DecidableEq V] [DecidableEq P] {v u : V} {i j : P} {m : M} {rest : List M} {k : K}
  {out : P → List M}

/-- A node takes a message that is not a message of the root. -/
theorem skip (h : Streaming peer root relays key passed inbox) (hinbox : inbox v i = m :: rest)
    (hkey : key m = none) :
    Streaming peer root relays key passed (setInbox inbox v i rest) := by
  have hkept : ∀ w l, (setInbox inbox v i rest w l).filterMap key = (inbox w l).filterMap key := by
    intro w l
    by_cases hhere : w = v ∧ l = i
    · obtain ⟨rfl, rfl⟩ := hhere
      rw [setInbox_same, hinbox, List.filterMap_cons_none hkey]
    · rw [setInbox_other _ hhere]
  constructor
  · intro a l b l' hpeer hdist
    rw [hkept]
    exact h.away hpeer hdist
  · intro a l b l' hpeer hdist
    rw [hkept]
    exact h.back hpeer hdist

variable (h : Streaming peer root relays key passed inbox) (hw : Wired peer)
  (hG : (graph peer).IsTree) (hpeer : peer v i = some (u, j)) (hinbox : inbox v i = m :: rest)
  (hkey : key m = some k)
include h hw hG hpeer hinbox hkey

omit [DecidableEq V] [DecidableEq P] in
/-- A message of the root comes from the direction of the root. -/
theorem from_root : (graph peer).dist root v = (graph peer).dist root u + 1 := by
  rcases hG.dist_eq_dist_add_one_of_adj root (hw.adj hpeer) with hv | hu
  · exact hv
  · have hnone := h.back (hw.twoWay hpeer) hu
    rw [hinbox, List.filterMap_cons_some hkey] at hnone
    exact absurd hnone (List.cons_ne_nil _ _)

omit [DecidableEq V] [DecidableEq P] in
theorem ne_root : v ≠ root := by
  have hdown := h.from_root hw hG hpeer hinbox hkey
  rintro rfl
  rw [dist_self] at hdown
  omega

omit [DecidableEq V] [DecidableEq P] in
/-- The other neighbours of the node are farther away. -/
theorem farther {l l' : P} {w : V} (hl : peer v l = some (w, l')) (hne : l ≠ i) :
    (graph peer).dist root w = (graph peer).dist root v + 1 := by
  rcases hG.dist_eq_dist_add_one_of_adj root (hw.adj hl) with hcloser | hfarther
  · have hsameNode : w = u := closer_unique hG.isAcyclic (hG.connected root v) (hw.adj hl)
      (hw.adj hpeer) hcloser (h.from_root hw hG hpeer hinbox hkey)
    subst hsameNode
    exact absurd (hw.single hl hpeer) hne
  · exact hfarther

/-- A node takes a message of the root, and relays it over its other links or stops it. -/
theorem receive (hsame : (out i).filterMap key = [])
    (hrelay : ∀ l ≠ i, peer v l ≠ none →
      (out l).filterMap key = if relays v k then [k] else []) :
    Streaming peer root relays key (Function.update passed v (passed v ++ [k]))
      (post peer v out (setInbox inbox v i rest)) where
  away := by
    intro a l b l' hlink hdist
    have hback := hw.twoWay hlink
    have hold := h.away hlink hdist
    by_cases hb : b = v
    · -- the link over which the message has arrived
      subst hb
      have hl' : l' = i := by
        by_contra hne
        have := h.farther hw hG hpeer hinbox hkey hback hne
        omega
      subst hl'
      have hab := hw.loopless hlink
      rw [Function.update_self, post_of_ne hback hab, setInbox_same,
        sentOn_congr (Function.update_of_ne hab _ _), ← hold, hinbox,
        List.filterMap_cons_some hkey, List.append_assoc, List.singleton_append]
    · rw [Function.update_of_ne hb]
      by_cases ha : a = v
      · -- a link over which the message is relayed
        subst ha
        have hroot := h.ne_root hw hG hpeer hinbox hkey
        have hli : l ≠ i := by
          rintro rfl
          have hdown := h.from_root hw hG hpeer hinbox hkey
          rw [hpeer] at hlink
          obtain ⟨rfl, -⟩ := Prod.mk.inj (Option.some.inj hlink)
          omega
        rw [post_of_peer hback, setInbox_node _ hb, List.filterMap_append,
          hrelay l hli (by simp [hlink]), ← List.append_assoc, hold, sentOn_of_ne hroot,
          sentOn_of_ne hroot, Function.update_self, List.filter_append]
        congr 1
        cases hk : relays a k <;> simp [hk]
      · rw [post_of_ne hback ha, setInbox_node _ hb, sentOn_congr (Function.update_of_ne ha _ _)]
        exact hold
  back := by
    intro a l b l' hlink hdist
    have hback := hw.twoWay hlink
    have hold := h.back hlink hdist
    have hinb : (setInbox inbox v i rest b l').filterMap key = [] := by
      by_cases hhere : b = v ∧ l' = i
      · obtain ⟨rfl, rfl⟩ := hhere
        rw [hinbox, List.filterMap_cons_some hkey] at hold
        exact absurd hold (List.cons_ne_nil _ _)
      · rw [setInbox_other _ hhere, hold]
    by_cases ha : a = v
    · subst ha
      have hli : l = i := by
        by_contra hne
        have := h.farther hw hG hpeer hinbox hkey hlink hne
        omega
      subst hli
      rw [post_of_peer hback, List.filterMap_append, hinb, hsame, List.append_nil]
    · rw [post_of_ne hback ha, hinb]

end Receive

/-! ## What has passed at a node -/

section Passed

/-- What the root has sent, but for what a node in between stops. -/
noncomputable def reaching (peer : Links V P) (root : V) (relays : V → K → Bool) (sent : List K)
    (v : V) : List K :=
  open Classical in sent.filter fun k => Open (graph peer) root (fun w => relays w k = false) v

theorem open_root (hG : (graph peer).IsTree) (stops : V → Prop) :
    Open (graph peer) root stops root := by
  rintro w ⟨hwr, _, hsum⟩
  rw [dist_self] at hsum
  exact absurd (hG.connected.dist_eq_zero_iff.mp (by omega)) hwr.symm

theorem reaching_root (hG : (graph peer).IsTree) (sent : List K) :
    reaching peer root relays sent root = sent := by
  classical
  unfold reaching
  rw [List.filter_eq_self]
  intro k _
  exact decide_eq_true (open_root hG _)

/-- What reaches a node is what the node before sends on of what reaches it. -/
theorem reaching_succ (hG : (graph peer).IsTree) {u v : V} (hadj : (graph peer).Adj v u)
    (hdist : (graph peer).dist root v = (graph peer).dist root u + 1) (sent : List K) :
    reaching peer root relays sent v =
      sentOn root relays (reaching peer root relays sent) u := by
  classical
  by_cases hu : u = root
  · subst hu
    rw [sentOn_root, reaching_root hG, reaching, List.filter_eq_self]
    intro k _
    exact decide_eq_true ((open_iff hG hadj hdist).mpr ⟨open_root hG _, Or.inl rfl⟩)
  · rw [sentOn_of_ne hu]
    unfold reaching
    rw [List.filter_filter]
    apply List.filter_congr
    intro k _
    rw [Bool.eq_iff_iff, Bool.and_eq_true, decide_eq_true_iff, decide_eq_true_iff,
      open_iff hG hadj hdist, and_comm]
    simp only [hu, false_or, Bool.not_eq_false]

theorem prefix_sentOn {passed passed' : V → List K} {u : V} (h : passed u <+: passed' u) :
    sentOn root relays passed u <+: sentOn root relays passed' u := by
  unfold sentOn
  split_ifs
  · exact h
  · exact h.filter _

variable (h : Streaming peer root relays key passed inbox) (hw : Wired peer)
  (hG : (graph peer).IsTree)
include h hw hG

/-- What has passed at a node is a prefix of what reaches it. -/
theorem prefix_of_root (v : V) :
    passed v <+: reaching peer root relays (passed root) v := by
  induction hd : (graph peer).dist root v generalizing v with
  | zero =>
      obtain rfl : root = v := (hG.connected.dist_eq_zero_iff).mp hd
      rw [reaching_root hG]
  | succ d ih =>
      have hne : v ≠ root := by
        rintro rfl
        rw [dist_self] at hd
        omega
      obtain ⟨u, hadj, hu⟩ := exists_closer (hG.connected root v) hne
      obtain ⟨i, j, hpeer⟩ := hw.adj_iff.mp hadj
      rw [reaching_succ hG hadj hu]
      calc passed v
          <+: passed v ++ (inbox v i).filterMap key := List.prefix_append _ _
        _ = sentOn root relays passed u := h.away (hw.twoWay hpeer) hu
        _ <+: sentOn root relays (reaching peer root relays (passed root)) u :=
          prefix_sentOn (ih u (by omega))

/-- When nothing of the root is on its way, what has passed at a node is all that reaches it. -/
theorem passed_eq (hempty : ∀ v i, (inbox v i).filterMap key = []) (v : V) :
    passed v = reaching peer root relays (passed root) v := by
  induction hd : (graph peer).dist root v generalizing v with
  | zero =>
      obtain rfl : root = v := (hG.connected.dist_eq_zero_iff).mp hd
      rw [reaching_root hG]
  | succ d ih =>
      have hne : v ≠ root := by
        rintro rfl
        rw [dist_self] at hd
        omega
      obtain ⟨u, hadj, hu⟩ := exists_closer (hG.connected root v) hne
      obtain ⟨i, j, hpeer⟩ := hw.adj_iff.mp hadj
      calc passed v
          = passed v ++ (inbox v i).filterMap key := by rw [hempty, List.append_nil]
        _ = sentOn root relays passed u := h.away (hw.twoWay hpeer) hu
        _ = sentOn root relays (reaching peer root relays (passed root)) u :=
          sentOn_congr (ih u (by omega)).symm |>.symm
        _ = reaching peer root relays (passed root) v := (reaching_succ hG hadj hu _).symm

end Passed

end Streaming

end FruityMesh.Streams
