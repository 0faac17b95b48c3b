import FruityMesh.Library.Ports

/-!
# News that spreads

Something that one node of each component knows, and that every node tells all its other
neighbours when it learns it.  `Spreading` is what holds while it does; when nothing is on
its way any more, every node knows (`all_informed`).
-/

namespace FruityMesh.Ports

open SimpleGraph

variable {V P M : Type*}

/-- Who is informed has been told by somebody who is, and has told all neighbours; in each
component somebody is informed. -/
structure Spreading (peer : Links V P) (informed : V → Prop) (news : M → Prop)
    (inbox : V → P → List M) : Prop where
  sender : ∀ {v i u j m}, peer v i = some (u, j) → m ∈ inbox v i → news m → informed u
  told : ∀ {v i u j}, peer v i = some (u, j) → informed v →
    informed u ∨ ∃ m ∈ inbox u j, news m
  source : ∀ v, ∃ w, (graph peer).Reachable v w ∧ informed w

variable {peer : Links V P} {informed informed' : V → Prop} {news : M → Prop}
  {inbox : V → P → List M} {out : P → List M}

/-- Everybody knows. -/
theorem Spreading.of_informed (hinformed : ∀ v, informed v) :
    Spreading peer informed news inbox where
  sender := fun {_ _ u _ _} _ _ _ => hinformed u
  told := fun {_ _ u _} _ _ => Or.inl (hinformed u)
  source := fun v => ⟨v, Reachable.refl v, hinformed v⟩

theorem Spreading.all_informed (h : Spreading peer informed news inbox) (hw : Wired peer)
    (hquiet : ∀ v i, inbox v i = []) (v : V) : informed v := by
  obtain ⟨w, ⟨p⟩, hw'⟩ := h.source v
  induction p with
  | nil => exact hw'
  | cons hadj _ ih =>
      obtain ⟨i, j, hpeer⟩ := hw.adj_iff.mp hadj
      rcases h.told (hw.twoWay hpeer) (ih hw') with hknows | ⟨m, hm, _⟩
      · exact hknows
      · rw [hquiet] at hm
        exact absurd hm List.not_mem_nil

section Post

variable [DecidableEq V] {v : V}

/-- A node sends something else. -/
theorem Spreading.without_news (h : Spreading peer informed news inbox) (hw : Wired peer)
    (hout : ∀ k, peer v k ≠ none → ∀ m ∈ out k, ¬ news m) :
    Spreading peer informed news (post peer v out inbox) where
  sender := by
    intro w k u l m hpeer hm hnews
    rcases mem_post_cases hm with hold | ⟨k', hlink, hnew⟩
    · exact h.sender hpeer hold hnews
    · have hlinked : peer v k' ≠ none := by simp [hw.twoWay hlink]
      exact absurd hnews (hout k' hlinked m hnew)
  told := by
    intro w k u l hpeer hinformed
    refine (h.told hpeer hinformed).imp_right ?_
    rintro ⟨m, hm, hnews⟩
    exact ⟨m, subset_post hm, hnews⟩
  source := h.source

/-- A node takes a message, and passes on the news in it. -/
theorem Spreading.receive [DecidableEq P] (h : Spreading peer informed news inbox)
    (hw : Wired peer) {i : P} {message : M} {rest : List M}
    (hinbox : inbox v i = message :: rest)
    (hinformed : ∀ w, informed' w ↔ informed w ∨ (w = v ∧ news message))
    (htells : news message → ∀ k, k ≠ i → peer v k ≠ none → ∃ m ∈ out k, news m)
    (hnews : ∀ k, ∀ m ∈ out k, news m → news message) :
    Spreading peer informed' news (post peer v out (setInbox inbox v i rest)) where
  sender := by
    intro w k u l m hpeer hm hcarried
    have hold : m ∈ setInbox inbox v i rest w k → informed' u := by
      intro hm
      refine (hinformed u).mpr (Or.inl (h.sender hpeer ?_ hcarried))
      exact mem_of_mem_setInbox (by rw [hinbox]; exact List.subset_cons_self _ _) hm
    by_cases hu : u = v
    · subst hu
      rw [post_of_peer hpeer] at hm
      rcases List.mem_append.mp hm with hm | hm
      · exact hold hm
      · exact (hinformed u).mpr (Or.inr ⟨rfl, hnews l m hm hcarried⟩)
    · rw [post_of_ne hpeer hu] at hm
      exact hold hm
  told := by
    intro w k u l hpeer hknows
    have hback := hw.twoWay hpeer
    rcases (hinformed w).mp hknows with hknows | ⟨rfl, hcarried⟩
    · rcases h.told hpeer hknows with hknows | ⟨m, hm, hcarried⟩
      · exact Or.inl ((hinformed u).mpr (Or.inl hknows))
      · by_cases hhere : u = v ∧ l = i
        · obtain ⟨rfl, rfl⟩ := hhere
          rw [hinbox] at hm
          rcases List.mem_cons.mp hm with rfl | hm
          · exact Or.inl ((hinformed u).mpr (Or.inr ⟨rfl, hcarried⟩))
          · right
            exact ⟨m, subset_post (by rw [setInbox_same]; exact hm), hcarried⟩
        · right
          exact ⟨m, subset_post (by rw [setInbox_other _ hhere]; exact hm), hcarried⟩
    · by_cases hk : k = i
      · -- the news has come from there
        subst hk
        have hmem : message ∈ inbox w k := hinbox ▸ List.mem_cons_self
        exact Or.inl ((hinformed u).mpr (Or.inl (h.sender hpeer hmem hcarried)))
      · have hlinked : peer w k ≠ none := by simp [hpeer]
        obtain ⟨m, hm, hnew⟩ := htells hcarried k hk hlinked
        right
        exact ⟨m, by rw [post_of_peer hback]; exact List.mem_append_right _ hm, hnew⟩
  source := by
    intro w
    obtain ⟨x, hreach, hx⟩ := h.source w
    exact ⟨x, hreach, (hinformed x).mpr (Or.inl hx)⟩

/-- A node has news in a component where nothing is on its way. -/
theorem Spreading.start (h : Spreading peer informed news inbox) (hw : Wired peer)
    (hsilent : ∀ w, (graph peer).Reachable v w → ∀ k, inbox w k = [])
    (hself : informed' v)
    (hhere : ∀ w, (graph peer).Reachable v w → informed' w → w = v)
    (helsewhere : ∀ w, ¬ (graph peer).Reachable v w → (informed' w ↔ informed w))
    (htells : ∀ k, peer v k ≠ none → ∃ m ∈ out k, news m) :
    Spreading peer informed' news (post peer v out inbox) where
  sender := by
    intro w k u l m hpeer hm hcarried
    by_cases hu : u = v
    · rwa [hu]
    · rw [post_of_ne hpeer hu] at hm
      have hreach : ¬ (graph peer).Reachable v u := by
        intro hreach
        have hw' := hreach.trans (hw.adj hpeer).symm.reachable
        rw [hsilent w hw'] at hm
        exact List.not_mem_nil hm
      exact (helsewhere u hreach).mpr (h.sender hpeer hm hcarried)
  told := by
    intro w k u l hpeer hknows
    by_cases hreach : (graph peer).Reachable v w
    · obtain rfl := hhere w hreach hknows
      obtain ⟨m, hm, hcarried⟩ := htells k (by simp [hpeer])
      right
      exact ⟨m, by rw [post_of_peer (hw.twoWay hpeer)]; exact List.mem_append_right _ hm, hcarried⟩
    · have hreach' : ¬ (graph peer).Reachable v u :=
        fun hvu => hreach (hvu.trans (hw.adj hpeer).symm.reachable)
      rcases h.told hpeer ((helsewhere w hreach).mp hknows) with hknows | ⟨m, hm, hcarried⟩
      · exact Or.inl ((helsewhere u hreach').mpr hknows)
      · exact Or.inr ⟨m, subset_post hm, hcarried⟩
  source := by
    intro w
    by_cases hreach : (graph peer).Reachable v w
    · exact ⟨v, hreach.symm, hself⟩
    · obtain ⟨x, hwx, hx⟩ := h.source w
      exact ⟨x, hwx, (helsewhere x fun hvx => hreach (hvx.trans hwx.symm)).mpr hx⟩

end Post

end FruityMesh.Ports
