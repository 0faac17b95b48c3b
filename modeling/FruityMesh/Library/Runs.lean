import Mathlib.Data.List.Infix
import Mathlib.Logic.Basic

/-!
# Runs of a machine

A machine takes one event after the other; `Allowed` says which events can come in a state.
What every step preserves holds at the end of every run (`Run.preserves`), what is to hold in
every state on the way is a condition on the steps (`Run.forall_prefix_iff`,
`Run.forall_prefix_iff_steps`), runs that cannot go on for ever come to an end
(`Run.exists_end`), and a list of events can be tried out (`Replays`, `Run.of_replays`).
-/

namespace FruityMesh.Runs

variable {S E : Type*} {apply : S → E → S} {Allowed Allowed' : S → E → Prop}

/-- A run from one state to another, with its events. -/
inductive Run (apply : S → E → S) (Allowed : S → E → Prop) : S → List E → S → Prop
  | nil (s : S) : Run apply Allowed s [] s
  | step {s middle : S} {events : List E} (h : Run apply Allowed s events middle) (event : E)
      (ok : Allowed middle event) : Run apply Allowed s (events ++ [event]) (apply middle event)

theorem Run.preserves {I : S → Prop}
    (hstep : ∀ s event, I s → Allowed s event → I (apply s event)) {s s' : S} {events : List E}
    (h : Run apply Allowed s events s') (hstart : I s) : I s' := by
  induction h with
  | nil => exact hstart
  | step h event ok ih => exact hstep _ event ih ok

theorem Run.mono (hmono : ∀ s event, Allowed s event → Allowed' s event) {s s' : S}
    {events : List E} (h : Run apply Allowed s events s') : Run apply Allowed' s events s' := by
  induction h with
  | nil => exact Run.nil _
  | step h event ok ih => exact ih.step event (hmono _ _ ok)

theorem Run.congr (hiff : ∀ s event, Allowed s event ↔ Allowed' s event) {s s' : S}
    {events : List E} : Run apply Allowed s events s' ↔ Run apply Allowed' s events s' :=
  ⟨Run.mono fun s event => (hiff s event).mp, Run.mono fun s event => (hiff s event).mpr⟩

/-- Where an invariant holds, two conditions on the steps that agree allow the same runs. -/
theorem Run.iff_of_invariant {I : S → Prop}
    (hstep : ∀ s event, I s → Allowed s event → I (apply s event))
    (hiff : ∀ s event, I s → (Allowed s event ↔ Allowed' s event)) {s s' : S} {events : List E}
    (hstart : I s) : Run apply Allowed s events s' ↔ Run apply Allowed' s events s' := by
  constructor
  · intro h
    induction h with
    | nil => exact Run.nil _
    | step h event ok ih =>
        have hmiddle := h.preserves hstep hstart
        exact ih.step event ((hiff _ event hmiddle).mp ok)
  · intro h
    induction h with
    | nil => exact Run.nil _
    | step h event ok ih =>
        -- the invariant comes from the run that has been built so far
        have hmiddle := ih.preserves hstep hstart
        exact ih.step event ((hiff _ event hmiddle).mpr ok)

theorem Run.append {s middle s' : S} {first second : List E}
    (h : Run apply Allowed s first middle) (h' : Run apply Allowed middle second s') :
    Run apply Allowed s (first ++ second) s' := by
  induction h' with
  | nil => rwa [List.append_nil]
  | step _ event ok ih =>
      rw [← List.append_assoc]
      exact ih.step event ok

theorem Run.concat_iff {s s' : S} {events : List E} {event : E} :
    Run apply Allowed s (events ++ [event]) s' ↔
      ∃ middle, Run apply Allowed s events middle ∧ Allowed middle event ∧
        apply middle event = s' := by
  constructor
  · intro h
    generalize hall : events ++ [event] = all at h
    cases h with
    | nil => simp at hall
    | step h last ok =>
        obtain ⟨rfl, hlast⟩ := List.append_inj' hall rfl
        obtain rfl : event = last := by simpa using hlast
        exact ⟨_, h, ok, rfl⟩
  · rintro ⟨middle, h, ok, rfl⟩
    exact h.step event ok

theorem Run.eq_foldl {s s' : S} {events : List E} (h : Run apply Allowed s events s') :
    s' = events.foldl apply s := by
  induction h with
  | nil => rfl
  | step h event ok ih => rw [List.foldl_append, ← ih, List.foldl_cons, List.foldl_nil]

theorem Run.initial {s s' : S} {events first : List E} (h : Run apply Allowed s events s')
    (hfirst : first <+: events) : Run apply Allowed s first (first.foldl apply s) := by
  induction h with
  | nil =>
      rw [List.prefix_nil.mp hfirst]
      exact Run.nil _
  | step h event ok ih =>
      rcases List.prefix_concat_iff.mp hfirst with rfl | hfirst
      · have hall := h.step event ok
        rwa [← hall.eq_foldl]
      · exact ih hfirst

theorem Run.forall_mem {May : E → Prop} (hmay : ∀ s event, Allowed s event → May event) {s s' : S}
    {events : List E} (h : Run apply Allowed s events s') : ∀ event ∈ events, May event := by
  induction h with
  | nil => exact fun _ hmem => absurd hmem List.not_mem_nil
  | step h event ok ih =>
      intro other hmem
      rcases List.mem_append.mp hmem with hold | hnew
      · exact ih other hold
      · rw [List.mem_singleton.mp hnew]
        exact hmay _ event ok

/-- Where no run is longer than some number, and there is always something left to do until the
end, some run comes to the end. -/
theorem Run.exists_end {Done : S → Prop} {s : S} (bound : ℕ)
    (hbound : ∀ events s', Run apply Allowed s events s' → events.length ≤ bound)
    (hgoesOn : ∀ events s', Run apply Allowed s events s' → Done s' ∨ ∃ event, Allowed s' event) :
    ∃ events s', Run apply Allowed s events s' ∧ Done s' := by
  have hfrom : ∀ left events s', Run apply Allowed s events s' → bound - events.length = left →
      ∃ events s', Run apply Allowed s events s' ∧ Done s' := by
    intro left
    induction left with
    | zero =>
        intro events s' h hleft
        rcases hgoesOn events s' h with hdone | ⟨event, hallowed⟩
        · exact ⟨events, s', h, hdone⟩
        · -- one more event would be one too many
          have hmore := hbound _ _ (h.step event hallowed)
          rw [List.length_append, List.length_singleton] at hmore
          omega
    | succ left ih =>
        intro events s' h hleft
        rcases hgoesOn events s' h with hdone | ⟨event, hallowed⟩
        · exact ⟨events, s', h, hdone⟩
        · refine ih _ _ (h.step event hallowed) ?_
          rw [List.length_append, List.length_singleton]
          omega
  exact hfrom _ [] s (Run.nil s) rfl

/-- What holds in every state of a run is a condition on its steps and on its end. -/
theorem Run.forall_prefix_iff {P : S → Prop} {s s' : S} {events : List E}
    (h : Run apply Allowed s events s') :
    (∀ first, first <+: events → P (first.foldl apply s)) ↔
      Run apply (fun s event => Allowed s event ∧ P s) s events s' ∧ P s' := by
  induction h with
  | nil =>
      simp only [List.prefix_nil, forall_eq, List.foldl_nil]
      exact (and_iff_right (Run.nil _)).symm
  | step h event ok ih =>
      have hend := (h.step event ok).eq_foldl
      simp only [List.prefix_concat_iff, or_imp, forall_and, forall_eq]
      rw [ih, ← hend, Run.concat_iff]
      constructor
      · rintro ⟨hlast, hrun, hmiddle⟩
        exact ⟨⟨_, hrun, ⟨ok, hmiddle⟩, rfl⟩, hlast⟩
      · rintro ⟨⟨middle, hrun, ⟨-, hmiddle⟩, -⟩, hlast⟩
        obtain rfl := hrun.eq_foldl.trans h.eq_foldl.symm
        exact ⟨hlast, hrun, hmiddle⟩

/-- Where an invariant holds, and each step that is allowed keeps a property if and only if it may
be taken, the property holds on the way of the runs whose steps all may be taken. -/
theorem Run.forall_prefix_iff_steps {I P : S → Prop} {May : S → E → Prop}
    (hinvariant : ∀ s event, I s → Allowed s event → I (apply s event))
    (hkeeps : ∀ s event, I s → Allowed s event → P s → (P (apply s event) ↔ May s event))
    {s s' : S} {events : List E} (h : Run apply Allowed s events s') (hstart : I s) :
    (∀ first, first <+: events → P (first.foldl apply s)) ↔
      P s ∧ Run apply (fun s event => Allowed s event ∧ May s event) s events s' := by
  induction h with
  | nil =>
      simp only [List.prefix_nil, forall_eq, List.foldl_nil]
      exact (and_iff_left (Run.nil _)).symm
  | step h event ok ih =>
      have hmiddle := h.preserves hinvariant hstart
      have hend := (h.step event ok).eq_foldl
      simp only [List.prefix_concat_iff, or_imp, forall_and, forall_eq]
      rw [ih, ← hend, Run.concat_iff]
      constructor
      · rintro ⟨hlast, hfirst, hrun⟩
        -- the property holds before the step, since that is on the way
        have hbefore := (ih.mpr ⟨hfirst, hrun⟩) _ List.prefix_rfl
        rw [← h.eq_foldl] at hbefore
        exact ⟨hfirst, _, hrun, ⟨ok, (hkeeps _ event hmiddle ok hbefore).mp hlast⟩, rfl⟩
      · rintro ⟨hfirst, middle, hrun, ⟨-, hmay⟩, -⟩
        obtain rfl := hrun.eq_foldl.trans h.eq_foldl.symm
        have hbefore := (ih.mpr ⟨hfirst, hrun⟩) _ List.prefix_rfl
        rw [← h.eq_foldl] at hbefore
        exact ⟨(hkeeps _ event hmiddle ok hbefore).mpr hmay, hfirst, hrun⟩

/-- The events can come one after the other. -/
def Replays (apply : S → E → S) (Allowed : S → E → Prop) : S → List E → Prop
  | _, [] => True
  | s, event :: rest => Allowed s event ∧ Replays apply Allowed (apply s event) rest

theorem Run.of_replays {s : S} {events : List E} (h : Replays apply Allowed s events) :
    Run apply Allowed s events (events.foldl apply s) := by
  induction events generalizing s with
  | nil => exact Run.nil s
  | cons event rest ih =>
      obtain ⟨hallowed, hrest⟩ := h
      exact ((Run.nil s).step event hallowed).append (ih hrest)

instance decidableReplays [∀ s event, Decidable (Allowed s event)] :
    (s : S) → (events : List E) → Decidable (Replays apply Allowed s events)
  | _, [] => isTrue trivial
  | s, event :: rest =>
      have : Decidable (Replays apply Allowed (apply s event) rest) := decidableReplays _ rest
      inferInstanceAs (Decidable (_ ∧ _))

end FruityMesh.Runs
