import FruityMesh.Mesh.StateChanges

/-!
# Discovery that is switched off, and discovery that slows down

`discovery off` leads to a state that no timeout leaves.  Four handlers leave it all the same,
those that hear of a connection: each calls `ChangeState`, whatever state the node is in
(`discoveryOff_stays_iff`).

When no nodes have been found for a while, `ChangeState` is to go from DISCOVERY to DISCOVERY_LOW.
It does, and then goes on to DISCOVERY_HIGH (`discovery_slows_iff`).
-/

namespace FruityMesh.Mesh

open Runs

namespace Announcer

variable {n : Announcer} {chance : Chance} {newState : DiscoveryState} {happening : Happening}

/-! ## Discovery that is switched off -/

/-- No timeout leaves the state of a node whose discovery is switched off. -/
def OffDisarmed (n : Announcer) : Prop :=
  n.currentDiscoveryState = .discoveryOff → n.nextDiscoveryState = .invalidState

/-- The ways in which discovery is switched on. -/
def Cause.switchesOn : Cause → Bool
  | .configurationLoaded | .discovery .high | .discovery .low => true
  | _ => false

/-- What can follow once discovery is off: anything but that it is switched on again. -/
def FollowsOff (n : Announcer) (happening : Happening) : Prop :=
  n.Enabled happening ∧ happening.cause.switchesOn = false

/-- The state machine is stopped when the node hears of a connection. -/
def Undisturbed (n : Announcer) (happening : Happening) : Prop :=
  match happening.cause with
  | .trigger (.connectionSuccessful _) | .trigger (.handshakeDone _)
  | .trigger .connectionTimeout | .trigger (.disconnected _) => n.stateMachineDisabled = true
  | _ => True

/-- A change to another state leaves the state of the node, unless the state machine is stopped. -/
theorem changeState_off_iff (hoff : n.currentDiscoveryState = .discoveryOff)
    (hstate : newState = .handshake ∨ newState = .discovery) :
    (n.changeState chance newState).currentDiscoveryState = .discoveryOff ↔
      n.stateMachineDisabled = true := by
  rw [toStateMachine_changeState]
  cases hdisabled : n.stateMachineDisabled with
  | true => simp [StateMachine.changeState_ignored (Or.inr hdisabled), hoff]
  | false =>
      rcases hstate with rfl | rfl
      · rw [StateMachine.changeState_handshake hdisabled (by simp [hoff])]
        simp
      · rw [StateMachine.changeState_discovery hdisabled (by simp [hoff])]
        simp

theorem changeState_discoveryOff_iff :
    (n.changeState chance .discoveryOff).currentDiscoveryState = .discoveryOff ↔
      n.stateMachineDisabled = false ∨ n.currentDiscoveryState = .discoveryOff := by
  by_cases hignored : n.Ignores .discoveryOff
  · rw [changeState_ignored hignored, iff_or_self]
    intro hdisabled
    exact hignored.resolve_right (by simp [hdisabled])
  · have hstate := (@state_settles n chance _ hignored (by decide)).1
    exact iff_of_true hstate (Or.inl (by simpa using (not_or.mp hignored).2))

namespace OffDisarmed

theorem changeState (h : n.OffDisarmed) (chance : Chance) (newState : DiscoveryState) :
    (n.changeState chance newState).OffDisarmed := by
  by_cases hignored : n.Ignores newState
  · rwa [changeState_ignored hignored]
  · by_cases hleads : Leads newState
    · intro hoff
      have hdisabled : n.stateMachineDisabled = false := by simpa using (not_or.mp hignored).2
      rw [toStateMachine_changeState] at hoff
      -- these changes end in a state with a timeout
      rcases hleads with rfl | rfl
      · rw [StateMachine.changeState_discovery hdisabled (not_or.mp hignored).1] at hoff
        simp at hoff
      · obtain ⟨state, timeout, next, counter, heq, hcases⟩ :=
          @StateMachine.changeState_deciding n.toStateMachine chance hdisabled
            (not_or.mp hignored).1
        rw [heq] at hoff
        rcases hcases with hcase | hcase | hcase <;> obtain ⟨rfl, -⟩ := Prod.mk.inj hcase <;>
          simp at hoff
    · rw [OffDisarmed, changeState_settles hignored hleads, toStateMachine_inform]
      cases newState with
      | discovery | deciding => exact absurd (by decide) hleads
      | discoveryOff => exact fun _ => rfl
      | _ => exact fun hoff => absurd hoff (by simp [settle, setAdvertisingState, setScanState])

/-- The step lemma. -/
theorem step (h : n.OffDisarmed) : (n.apply happening).OffDisarmed := by
  obtain ⟨cause, chance⟩ := happening
  cases cause with
  | configurationLoaded => exact h.changeState _ _
  | trigger trigger =>
      cases trigger with
      | tick timerMs =>
          dsimp only [apply, timerTickHandler]
          split_ifs
          · exact changeState (n := { n with
              currentStateTimeoutMs := n.currentStateTimeoutMs - timerMs.setWidth 32 }) h _ _
          · exact h
      | connectionSuccessful i =>
          exact changeState (n := { n.setLink i _ with quiet := 0 }) h _ _
      | handshakeDone i => exact changeState (n := { n.setLink i _ with quiet := 0 }) h _ _
      | connectionTimeout => exact changeState (n := { n with quiet := 0 }) h _ _
      | disconnected i =>
          exact changeState (n := { n.setLink i _ with noNodesFoundCounter := 0, quiet := 0 }) h _ _
      | stop | start => exact h
  | discovery mode =>
      cases mode with
      | high => exact changeState (n := { n with noNodesFoundCounter := 0, quiet := 0 }) h _ _
      | low => exact changeState (n := { n with noNodesFoundCounter := 50, quiet := 0 }) h _ _
      | off => exact changeState (n := { n with quiet := 0 }) h _ _
  | enrolled => exact h.changeState chance .discoveryOff
  | radio advertisingState scanningState => exact h
  | configured activeModules => exact h

end OffDisarmed

/-- Discovery stays off during one step if and only if the step does not disturb it. -/
theorem apply_off_iff (hdisarmed : n.OffDisarmed) (hfollows : n.FollowsOff happening)
    (hoff : n.currentDiscoveryState = .discoveryOff) :
    (n.apply happening).currentDiscoveryState = .discoveryOff ↔ n.Undisturbed happening := by
  obtain ⟨cause, chance⟩ := happening
  obtain ⟨-, hon⟩ := hfollows
  cases cause with
  | configurationLoaded => exact absurd hon (by simp [Cause.switchesOn])
  | trigger trigger =>
      cases trigger with
      | tick timerMs =>
          dsimp only [apply, timerTickHandler]
          rw [if_neg (fun hdue => hdue.1 (hdisarmed hoff))]
          exact iff_of_true hoff trivial
      | connectionSuccessful i =>
          exact changeState_off_iff (n := { n.setLink i _ with quiet := 0 }) hoff (Or.inl rfl)
      | handshakeDone i =>
          exact changeState_off_iff (n := { n.setLink i _ with quiet := 0 }) hoff (Or.inr rfl)
      | connectionTimeout =>
          exact changeState_off_iff (n := { n with quiet := 0 }) hoff (Or.inr rfl)
      | disconnected i =>
          exact changeState_off_iff
            (n := { n.setLink i _ with noNodesFoundCounter := 0, quiet := 0 }) hoff (Or.inr rfl)
      | stop | start => exact iff_of_true hoff trivial
  | discovery mode =>
      cases mode with
      | high | low => exact absurd hon (by simp [Cause.switchesOn])
      | off =>
          exact iff_of_true (changeState_discoveryOff_iff.mpr (Or.inr hoff)) trivial
  | enrolled =>
      exact iff_of_true (changeState_discoveryOff_iff.mpr (Or.inr hoff)) trivial
  | radio advertisingState scanningState => exact iff_of_true hoff trivial
  | configured activeModules => exact iff_of_true hoff trivial

theorem offDisarmed_of_run {modules : Fin maxModuleCount → Option StateModule}
    {happenings : List Happening} (hrun : Run apply Enabled (constructed modules) happenings n) :
    n.OffDisarmed :=
  hrun.preserves (fun _ _ hdisarmed _ => hdisarmed.step) fun _ => rfl

/-- **Discovery that is switched off stays off, if the node was not stopped at that time, and as
long as it is stopped whenever it hears of a connection.** -/
theorem discoveryOff_stays_iff {modules : Fin maxModuleCount → Option StateModule}
    {earlier happenings : List Happening} {n' : Announcer}
    (hreach : Run apply Enabled (constructed modules) earlier n)
    (hrun : Run apply FollowsOff (n.discoveryCommand chance .off) happenings n') :
    (∀ first, first <+: happenings →
        (first.foldl apply (n.discoveryCommand chance .off)).currentDiscoveryState =
          .discoveryOff) ↔
      (n.stateMachineDisabled = false ∨ n.currentDiscoveryState = .discoveryOff) ∧
        Run apply (fun n happening => n.FollowsOff happening ∧ n.Undisturbed happening)
          (n.discoveryCommand chance .off) happenings n' := by
  have hoff : (n.discoveryCommand chance .off).OffDisarmed :=
    @OffDisarmed.step n ⟨.discovery .off, chance⟩ (offDisarmed_of_run hreach)
  have hcommand : (n.discoveryCommand chance .off).currentDiscoveryState = .discoveryOff ↔
      n.stateMachineDisabled = false ∨ n.currentDiscoveryState = .discoveryOff :=
    @changeState_discoveryOff_iff { n with quiet := 0 } chance
  rw [← hcommand]
  exact hrun.forall_prefix_iff_steps (fun _ _ hdisarmed _ => hdisarmed.step)
    (fun _ _ hdisarmed hfollows => apply_off_iff hdisarmed hfollows) hoff

instance (n : Announcer) (happening : Happening) : Decidable (n.FollowsOff happening) :=
  inferInstanceAs (Decidable (_ ∧ _))

instance (n : Announcer) (happening : Happening) : Decidable (n.Undisturbed happening) :=
  match happening with
  | ⟨.trigger (.connectionSuccessful _), _⟩ | ⟨.trigger (.handshakeDone _), _⟩
  | ⟨.trigger .connectionTimeout, _⟩ | ⟨.trigger (.disconnected _), _⟩ =>
      inferInstanceAs (Decidable (_ = _))
  | ⟨.trigger (.tick _), _⟩ | ⟨.trigger .stop, _⟩ | ⟨.trigger .start, _⟩
  | ⟨.configurationLoaded, _⟩ | ⟨.discovery _, _⟩ | ⟨.enrolled, _⟩ | ⟨.radio _ _, _⟩
  | ⟨.configured _, _⟩ => isTrue trivial

/-- Something that needs no decision. -/
def Cause.undecided (cause : Cause) : Happening := ⟨cause, ⟨.noNodesFound, 0⟩⟩

/-- The node is enrolled while discovery is off; the end of its connection does not disturb it
then. -/
theorem discoveryOff_stays_iff_enrolled :
    let n := (constructed oneModule).apply
      (Cause.trigger (.connectionSuccessful inConnection)).undecided
    let happenings :=
      [Cause.enrolled.undecided, (Cause.trigger (.disconnected inConnection)).undecided]
    ∀ first, first <+: happenings →
      (first.foldl apply (n.discoveryCommand ⟨.noNodesFound, 0⟩ .off)).currentDiscoveryState =
        .discoveryOff := by
  intro n happenings
  have hreach : Replays apply Enabled (constructed oneModule)
      [(Cause.trigger (.connectionSuccessful inConnection)).undecided] := by decide +kernel
  have hundisturbed : Replays apply (fun n happening => n.FollowsOff happening ∧
      n.Undisturbed happening) (n.discoveryCommand ⟨.noNodesFound, 0⟩ .off) happenings := by
    decide +kernel
  have hrun := Run.of_replays hundisturbed
  exact (discoveryOff_stays_iff (Run.of_replays hreach) (hrun.mono fun _ _ h => h.1)).mpr
    ⟨Or.inl (by decide +kernel), hrun⟩

/-- Discovery is switched off, and then a connection is lost. -/
theorem discoveryOff_disturbed : ¬ ∀ modules earlier n,
    Run apply Enabled (constructed modules) earlier n → ∀ chance happenings n',
      Run apply FollowsOff (n.discoveryCommand chance .off) happenings n' →
        ∀ first, first <+: happenings →
          (first.foldl apply (n.discoveryCommand chance .off)).currentDiscoveryState =
            .discoveryOff := by
  intro hclaim
  have hreach : Replays apply Enabled (constructed oneModule)
      [(Cause.trigger (.connectionSuccessful inConnection)).undecided] := by decide +kernel
  have hfollows : Replays apply FollowsOff
      (((constructed oneModule).apply
        (Cause.trigger (.connectionSuccessful inConnection)).undecided).discoveryCommand
          ⟨.noNodesFound, 0⟩ .off)
      [(Cause.trigger (.disconnected inConnection)).undecided] := by decide +kernel
  have hstays := hclaim _ _ _ (Run.of_replays hreach) _ _ _ (Run.of_replays hfollows) _
    List.prefix_rfl
  exact absurd hstays (by decide +kernel)

/-! ## Discovery that slows down -/

/-- Slow discovery, with its radio and its timeout. -/
def IsLow (n : Announcer) : Prop :=
  n.currentDiscoveryState = .discoveryLow ∧ n.advertisingState = .low ∧ n.scanningState = .low ∧
    n.currentStateTimeoutMs = meshStateTimeoutLow

/-- A node that has entered DISCOVERY between the two is in DISCOVERY_LOW, if it has been quiet
for a while, and in DISCOVERY_HIGH if it has not. -/
def SlowsDown (n n' : Announcer) : Prop :=
  .discovery ∈ n'.entered.drop n.entered.length →
    if discoveryHighToLowTransitionDuration ≤ n'.quiet then n'.IsLow
    else n'.currentDiscoveryState = .discoveryHigh

/-- The node has been quiet for a while, and now it enters DISCOVERY, by itself or when it is
started. -/
def EntersQuiet (n : Announcer) (happening : Happening) : Prop :=
  discoveryHighToLowTransitionDuration ≤ n.quiet ∧ ¬ n.Ignores .discovery ∧
    match happening.cause with
    | .configurationLoaded => True
    | .trigger (.tick timerMs) =>
        n.nextDiscoveryState = .discovery ∧
          (n.currentStateTimeoutMs - timerMs.setWidth 32).toInt ≤ 0
    | _ => False

theorem quiet_inform (n : Announcer) (newState : DiscoveryState) :
    (n.inform newState).quiet = n.quiet := by
  obtain ⟨_, _, heq, _⟩ := n.inform_eq newState
  rw [heq]
  rfl

theorem quiet_settles (hstate : ¬ Leads newState) :
    (n.changeState chance newState).quiet = n.quiet := by
  by_cases hignored : n.Ignores newState
  · rw [changeState_ignored hignored]
  · rw [changeState_settles hignored hstate, quiet_inform]
    cases newState <;> rfl

theorem quiet_discovery : (n.changeState chance .discovery).quiet = n.quiet := by
  by_cases hignored : n.Ignores .discovery
  · rw [changeState_ignored hignored]
  · rw [changeState, if_neg hignored, quiet_inform, quiet_settles (by decide)]
    split_ifs <;> rw [quiet_settles (by decide)]

theorem entered_inform (n : Announcer) (newState : DiscoveryState) :
    (n.inform newState).entered = n.entered :=
  (changes_inform n newState).entered.trans (List.append_nil _)

theorem state_discovery (h : ¬ n.Ignores .discovery) :
    (n.changeState chance .discovery).currentDiscoveryState = .discoveryHigh := by
  have hdisabled : n.stateMachineDisabled = false := by simpa using (not_or.mp h).2
  rw [toStateMachine_changeState, StateMachine.changeState_discovery hdisabled (not_or.mp h).1]

/-- A node that enters other states only. -/
theorem slowsDown_of_others {n' : Announcer} {states : List DiscoveryState}
    (hentered : n'.entered = n.entered ++ states) (hothers : .discovery ∉ states) :
    SlowsDown n n' := by
  intro hmem
  rw [hentered, List.drop_left] at hmem
  exact absurd hmem hothers

theorem slowsDown_of_busy {n' : Announcer} (hstate : n'.currentDiscoveryState = .discoveryHigh)
    (hquiet : n'.quiet < discoveryHighToLowTransitionDuration) : SlowsDown n n' := by
  intro _
  rwa [if_neg (Nat.not_le.mpr hquiet)]

theorem slowsDown_deciding : SlowsDown n (n.changeState chance .deciding) := by
  by_cases hignored : n.Ignores .deciding
  · rw [changeState_ignored hignored]
    exact slowsDown_of_others (List.append_nil _).symm List.not_mem_nil
  · have hgoes : ∀ (entered : Announcer) (state : DiscoveryState),
        entered.currentDiscoveryState = .deciding →
        entered.stateMachineDisabled = n.stateMachineDisabled → state ≠ .deciding →
        ¬ entered.Ignores state :=
      fun _ _ => not_ignores_next hignored
    rw [changeState, if_neg hignored]
    cases chance.decision with
    | noNodesFound =>
        refine @slowsDown_of_others _ _ [.deciding, .backOff] ?_ (by decide)
        dsimp only
        rw [entered_inform]
        refine (changes_settles ?_ (by decide)).entered.trans (List.append_assoc ..)
        exact hgoes _ _ rfl rfl (by decide)
    | connectAsMaster =>
        refine @slowsDown_of_others _ _ [.deciding, .connecting] ?_ (by decide)
        dsimp only
        rw [entered_inform]
        refine (changes_settles ?_ (by decide)).entered.trans (List.append_assoc ..)
        exact hgoes _ _ rfl rfl (by decide)
    | connectAsSlave =>
        refine slowsDown_of_busy ?_ ?_
        · rw [toStateMachine_inform]
          exact state_discovery (hgoes _ _ rfl rfl (by decide))
        · rw [quiet_inform, quiet_discovery]
          exact Nat.zero_lt_succ 9

/-- A change slows discovery down as it should, unless it is one to DISCOVERY after a while
without nodes. -/
theorem slowsDown_changeState : SlowsDown n (n.changeState chance newState) ↔
    ¬ (discoveryHighToLowTransitionDuration ≤ n.quiet ∧ ¬ n.Ignores .discovery ∧
      newState = .discovery) := by
  by_cases hignored : n.Ignores newState
  · rw [changeState_ignored hignored]
    refine iff_of_true (slowsDown_of_others (List.append_nil _).symm List.not_mem_nil) ?_
    rintro ⟨-, hgoes, rfl⟩
    exact hgoes hignored
  · by_cases hleads : Leads newState
    · rcases hleads with rfl | rfl
      · have hstate := @state_discovery n chance hignored
        obtain ⟨states, -, -, hchange⟩ := @changes_discovery n chance hignored
        have henters : .discovery ∈
            (n.changeState chance .discovery).entered.drop n.entered.length := by
          rw [hchange.entered, List.drop_left]
          exact List.mem_cons_self
        constructor
        · rintro hslows ⟨hquiet, -⟩
          have hlow := hslows henters
          rw [quiet_discovery, if_pos hquiet] at hlow
          -- it went on to the high state
          exact absurd (hstate.symm.trans hlow.1) (by decide)
        · intro hbusy
          refine slowsDown_of_busy hstate ?_
          rw [quiet_discovery]
          exact Nat.not_le.mp fun hquiet => hbusy ⟨hquiet, hignored, rfl⟩
      · exact iff_of_true slowsDown_deciding fun hquiet => absurd hquiet.2.2 (by decide)
    · refine iff_of_true
        (slowsDown_of_others (changes_settles hignored hleads).entered ?_) ?_
      · intro hmem
        exact hleads (Or.inl (List.mem_singleton.mp hmem).symm)
      · rintro ⟨-, -, rfl⟩
        exact hleads (Or.inl rfl)

/-- Something has happened just now. -/
theorem slowsDown_of_noise (h : n.quiet = 0) : SlowsDown n (n.changeState chance newState) := by
  rw [slowsDown_changeState, h]
  exact fun hquiet => absurd hquiet.1 (by decide)

/-- The step lemma. -/
theorem slowsDown_apply : SlowsDown n (n.apply happening) ↔ ¬ n.EntersQuiet happening := by
  have hnothing : ∀ n' : Announcer, n'.entered = n.entered → SlowsDown n n' :=
    fun n' hentered =>
      slowsDown_of_others (hentered.trans (List.append_nil _).symm) List.not_mem_nil
  obtain ⟨cause, chance⟩ := happening
  cases cause with
  | configurationLoaded => exact slowsDown_changeState.trans (by simp [EntersQuiet])
  | trigger trigger =>
      cases trigger with
      | tick timerMs =>
          dsimp only [apply, timerTickHandler]
          split_ifs with hdue
          · refine (slowsDown_changeState (n := { n with
              currentStateTimeoutMs := n.currentStateTimeoutMs - timerMs.setWidth 32 })).trans ?_
            simp only [EntersQuiet, and_iff_left hdue.2]
          · refine iff_of_true (hnothing _ rfl) ?_
            rintro ⟨-, -, hnext, htimeout⟩
            exact hdue ⟨by simp [hnext], htimeout⟩
      | connectionSuccessful i =>
          exact iff_of_true (slowsDown_of_noise (n := { n.setLink i _ with quiet := 0 }) rfl)
            fun hquiet => hquiet.2.2
      | handshakeDone i =>
          exact iff_of_true (slowsDown_of_noise (n := { n.setLink i _ with quiet := 0 }) rfl)
            fun hquiet => hquiet.2.2
      | connectionTimeout =>
          exact iff_of_true (slowsDown_of_noise (n := { n with quiet := 0 }) rfl)
            fun hquiet => hquiet.2.2
      | disconnected i =>
          exact iff_of_true (slowsDown_of_noise
            (n := { n.setLink i _ with noNodesFoundCounter := 0, quiet := 0 }) rfl)
            fun hquiet => hquiet.2.2
      | stop | start => exact iff_of_true (hnothing _ rfl) fun hquiet => hquiet.2.2
  | discovery mode =>
      refine iff_of_true ?_ fun hquiet => hquiet.2.2
      cases mode with
      | high => exact slowsDown_of_noise (n := { n with noNodesFoundCounter := 0, quiet := 0 }) rfl
      | low => exact slowsDown_of_noise (n := { n with noNodesFoundCounter := 50, quiet := 0 }) rfl
      | off => exact slowsDown_of_noise (n := { n with quiet := 0 }) rfl
  | enrolled =>
      exact iff_of_true (slowsDown_changeState.mpr (by simp)) fun hquiet => hquiet.2.2
  | radio advertisingState scanningState =>
      exact iff_of_true (hnothing _ rfl) fun hquiet => hquiet.2.2
  | configured activeModules => exact iff_of_true (hnothing _ rfl) fun hquiet => hquiet.2.2

/-- **Discovery slows down in all steps of a run if and only if the node never enters DISCOVERY
after a while without nodes.** -/
theorem discovery_slows_iff (modules : Fin maxModuleCount → Option StateModule)
    (happenings : List Happening) (n : Announcer) :
    Run apply (fun n happening => n.Enabled happening ∧ SlowsDown n (n.apply happening))
        (constructed modules) happenings n ↔
      Run apply (fun n happening => n.Enabled happening ∧ ¬ n.EntersQuiet happening)
        (constructed modules) happenings n :=
  Run.congr fun _ _ => and_congr_right fun _ => slowsDown_apply

instance (n : Announcer) (happening : Happening) : Decidable (n.EntersQuiet happening) :=
  match happening with
  | ⟨.configurationLoaded, _⟩ => inferInstanceAs (Decidable (_ ∧ _ ∧ True))
  | ⟨.trigger (.tick _), _⟩ => inferInstanceAs (Decidable (_ ∧ _ ∧ _ ∧ _))
  | ⟨.trigger (.connectionSuccessful _), _⟩ | ⟨.trigger (.handshakeDone _), _⟩
  | ⟨.trigger .connectionTimeout, _⟩ | ⟨.trigger (.disconnected _), _⟩ | ⟨.trigger .stop, _⟩
  | ⟨.trigger .start, _⟩ | ⟨.discovery _, _⟩ | ⟨.enrolled, _⟩ | ⟨.radio _ _, _⟩
  | ⟨.configured _, _⟩ => inferInstanceAs (Decidable (_ ∧ _ ∧ False))

/-- Ten times no node is found, and each time discovery begins anew after a back-off.  The timer
ticks every 200 ms. -/
def quietTicks : List Happening :=
  Cause.configurationLoaded.undecided ::
    List.replicate 199 (Cause.trigger (.tick 200)).undecided

theorem discovery_stays_high : ¬ ∀ modules happenings n,
    Run apply Enabled (constructed modules) happenings n →
      Run apply (fun n happening => n.Enabled happening ∧ SlowsDown n (n.apply happening))
        (constructed modules) happenings n := by
  intro hclaim
  have hreplays : Replays apply Enabled (constructed oneModule)
      (quietTicks ++ [(Cause.trigger (.tick 200)).undecided]) := by decide +kernel
  obtain ⟨middle, hrun, ⟨-, hslows⟩, -⟩ :=
    Run.concat_iff.mp (hclaim _ _ _ (Run.of_replays hreplays))
  have henters : (quietTicks.foldl apply (constructed oneModule)).EntersQuiet
      (Cause.trigger (.tick 200)).undecided := by decide +kernel
  rw [← hrun.eq_foldl] at henters
  exact slowsDown_apply.mp hslows henters

end Announcer

end FruityMesh.Mesh
