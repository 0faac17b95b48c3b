import Mathlib.Computability.StateTransition

/-!
# Loops that end

A loop is a function that gives the state after one turn, or `none` where the loop is left;
`StateTransition.eval` runs it to its end, if there is one.  A loop ends if every turn lowers
some number (`dom_of_measure`).  If a loop ends only with enough of something, and no turn makes
more or less of it, then it ends exactly if there is enough at the start (`dom_iff`).
-/

namespace FruityMesh.Endings

open StateTransition

variable {σ : Type*} {turn : σ → Option σ} {s s' : σ} {I : σ → Prop}

theorem dom_eval_iff : (eval turn s).Dom ↔ ∃ s', Reaches turn s s' ∧ turn s' = none := by
  simp only [Part.dom_iff_mem, mem_eval]

/-- What every turn keeps holds wherever the loop comes to. -/
theorem preserves (hkeeps : ∀ s s', I s → s' ∈ turn s → I s') (h : Reaches turn s s')
    (hstart : I s) : I s' := by
  induction h with
  | refl => exact hstart
  | tail _ hturn ih => exact hkeeps _ _ ih hturn

theorem dom_of_mem (hturn : s' ∈ turn s) (h : (eval turn s').Dom) : (eval turn s).Dom := by
  obtain ⟨last, hreaches, hend⟩ := dom_eval_iff.mp h
  exact dom_eval_iff.mpr ⟨last, .head hturn hreaches, hend⟩

theorem dom_of_measure (measure : σ → ℕ) (hkeeps : ∀ s s', I s → s' ∈ turn s → I s')
    (hless : ∀ s s', I s → s' ∈ turn s → measure s' < measure s) (hstart : I s) :
    (eval turn s).Dom := by
  induction hn : measure s using Nat.strong_induction_on generalizing s with
  | h n ih =>
      subst hn
      cases hturn : turn s with
      | none => exact dom_eval_iff.mpr ⟨s, .refl, hturn⟩
      | some s' =>
          have hlower := ih _ (hless s s' hstart hturn) (hkeeps s s' hstart hturn) rfl
          exact dom_of_mem hturn hlower

theorem dom_iff (Enough : σ → Prop) (measure : σ → ℕ) (hkeeps : ∀ s s', I s → s' ∈ turn s → I s')
    (hsame : ∀ s s', I s → s' ∈ turn s → (Enough s' ↔ Enough s))
    (hend : ∀ s, I s → turn s = none → Enough s)
    (hless : ∀ s s', I s → Enough s → s' ∈ turn s → measure s' < measure s) (hstart : I s) :
    (eval turn s).Dom ↔ Enough s := by
  constructor
  · intro h
    obtain ⟨last, hreaches, hlast⟩ := dom_eval_iff.mp h
    have hinvariant : I last ∧ (Enough last ↔ Enough s) := by
      refine preserves (I := fun s' => I s' ∧ (Enough s' ↔ Enough s)) ?_ hreaches ⟨hstart, Iff.rfl⟩
      rintro a b ⟨ha, henough⟩ hturn
      exact ⟨hkeeps a b ha hturn, (hsame a b ha hturn).trans henough⟩
    exact hinvariant.2.mp (hend last hinvariant.1 hlast)
  · intro henough
    refine dom_of_measure (I := fun s => I s ∧ Enough s) measure ?_ ?_ ⟨hstart, henough⟩
    · rintro a b ⟨ha, hb⟩ hturn
      exact ⟨hkeeps a b ha hturn, (hsame a b ha hturn).mpr hb⟩
    · rintro a b ⟨ha, hb⟩ hturn
      exact hless a b ha hb hturn

end FruityMesh.Endings
