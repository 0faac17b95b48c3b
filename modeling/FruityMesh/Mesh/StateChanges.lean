import FruityMesh.Mesh.Discovery

/-!
# What a change of the state does

`ChangeState` in full: apart from what `StateMachine.changeState` says, it switches advertising and
scanning, and it tells the modules of the new state.  The modules are told at the end, after the
changes that `ChangeState` makes itself, so they hear of DISCOVERY and of DECIDING later than of the
states that these lead to (`modules_informed_iff`).

`StateMachine` is the part of this that does not depend on the radio and the modules
(`toStateMachine_changeState`, `toStateMachine_apply`).
-/

namespace FruityMesh.Mesh

open Runs

inductive AdvState
  | off
  | low
  | medium
  | high
  deriving DecidableEq, Repr

inductive ScanState
  | off
  | low
  | medium
  | high
  deriving DecidableEq, Repr

/-- The modules with a `NodeStateChangedHandler` of their own, with what it reads. -/
inductive StateListener
  | advertisingModule (broadcastDebugPackets : Bool) (messageCount : U8)
  | scanningModule
  | otherModule
  deriving DecidableEq, Repr

/-- A module in one of the slots of the node. -/
structure StateModule where
  moduleActive : Bool
  listener : StateListener
  deriving DecidableEq, Repr

/-- A state machine with the radio and the modules that it controls. -/
structure Announcer extends StateMachine where
  advertisingState : AdvState
  scanningState : ScanState
  activeModules : Fin maxModuleCount → Option StateModule
  /-- The states that the node has entered, the first one first. -/
  entered : List DiscoveryState
  /-- The states that the module in a slot has been told of. -/
  received : Fin maxModuleCount → List DiscoveryState
  /-- The decisions in a row that found no node, since something else happened. -/
  quiet : ℕ

namespace Announcer

def setAdvertisingState (n : Announcer) (newState : AdvState) : Announcer :=
  { n with advertisingState := newState }

def setScanState (n : Announcer) (newState : ScanState) : Announcer :=
  { n with scanningState := newState }

/-- `NodeStateChangedHandler`.  In DISCOVERY the `AdvertisingModule` calls `UpdateJoinMePacket`,
which leaves the state of advertising as it is. -/
def nodeStateChangedHandler (n : Announcer) (newState : DiscoveryState) :
    StateListener → Announcer
  | .advertisingModule broadcastDebugPackets messageCount =>
      if newState = .backOff ∨ newState = .discoveryOff then
        if broadcastDebugPackets ∨ 0 < messageCount.toNat then n.setAdvertisingState .high else n
      else n
  | .scanningModule => if newState = .backOff then n.setScanState .high else n
  | .otherModule => n

/-- The part of the loop at the end of `ChangeState` for one slot. -/
def informModule (newState : DiscoveryState) (n : Announcer) (i : Fin maxModuleCount) : Announcer :=
  match n.activeModules i with
  | some m =>
      if m.moduleActive then
        { n with
          received := Function.update n.received i (n.received i ++ [newState])
          }.nodeStateChangedHandler newState m.listener
      else n
  | none => n

def inform (n : Announcer) (newState : DiscoveryState) : Announcer :=
  (List.finRange maxModuleCount).foldl (informModule newState) n

/-- The branches of `ChangeState` for the states that lead nowhere by themselves. -/
def settle (chance : Chance) (n : Announcer) : DiscoveryState → Announcer
  | .discoveryHigh =>
      { (n.setAdvertisingState .high).setScanState .high with
        currentStateTimeoutMs := meshStateTimeoutHigh
        nextDiscoveryState := .deciding }
  | .discoveryLow =>
      { (n.setAdvertisingState .low).setScanState .low with
        currentStateTimeoutMs := meshStateTimeoutLow
        nextDiscoveryState := .deciding }
  | .backOff =>
      { (n.setAdvertisingState .off).setScanState .off with
        currentStateTimeoutMs :=
          chance.random % meshStateTimeoutBackOff + meshStateTimeoutBackOffVariance
        nextDiscoveryState := .discovery }
  | .connecting =>
      { (n.setAdvertisingState .off).setScanState .off with
        currentStateTimeoutMs := 30000
        nextDiscoveryState := .deciding }
  | .handshake | .discoveryOff =>
      { (n.setAdvertisingState .off).setScanState .off with nextDiscoveryState := .invalidState }
  | .invalidState | .bootup | .discovery | .deciding => n

/-- `ChangeState`. -/
def changeState (chance : Chance) (n : Announcer) (newState : DiscoveryState) : Announcer :=
  if n.currentDiscoveryState = newState ∨ n.stateMachineDisabled then n
  else
    let n := { n with currentDiscoveryState := newState, entered := n.entered ++ [newState] }
    let n :=
      match newState with
      | .discovery =>
          let n := { n with nextDiscoveryState := .invalidState }
          let n :=
            if n.noNodesFoundCounter.toNat < discoveryHighToLowTransitionDuration then
              n.changeState chance .discoveryHigh
            else n.changeState chance .discoveryLow
          -- in both cases
          n.changeState chance .discoveryHigh
      | .deciding =>
          let n := (n.setAdvertisingState .off).setScanState .off
          let n := { n with nextDiscoveryState := .invalidState }
          match chance.decision with
          | .noNodesFound =>
              { n with
                noNodesFoundCounter :=
                  if n.noNodesFoundCounter.toNat < 100 then n.noNodesFoundCounter + 1
                  else n.noNodesFoundCounter
                quiet := n.quiet + 1 }.changeState chance .backOff
          | .connectAsMaster =>
              { n.changeState chance .connecting with noNodesFoundCounter := 0, quiet := 0 }
          | .connectAsSlave =>
              { n with noNodesFoundCounter := 0, quiet := 0 }.changeState chance .discovery
      | state => n.settle chance state
    -- the states that this one has led to have been announced by now
    n.inform newState
termination_by StateMachine.rank newState
decreasing_by all_goals decide

def active (n : Announcer) (i : Fin maxModuleCount) : Bool :=
  (n.activeModules i).any StateModule.moduleActive

/-- The state machine has stopped, or it is in this state already. -/
abbrev Ignores (n : Announcer) (newState : DiscoveryState) : Prop :=
  n.currentDiscoveryState = newState ∨ n.stateMachineDisabled = true

section

variable {n : Announcer} {chance : Chance} {newState : DiscoveryState}

/-! ## Telling the modules -/

/-- The node after its modules in the slots `l` have been told, with another radio. -/
def informed (n : Announcer) (newState : DiscoveryState) (l : List (Fin maxModuleCount))
    (advertising : AdvState) (scanning : ScanState) : Announcer :=
  { n with
    advertisingState := advertising
    scanningState := scanning
    received := fun i =>
      if i ∈ l ∧ n.active i then n.received i ++ [newState] else n.received i }

/-- The modules leave the radio as it is, but for two states. -/
def LeavesRadio (newState : DiscoveryState) : Prop :=
  newState ≠ .backOff ∧ newState ≠ .discoveryOff

theorem nodeStateChangedHandler_eq (n : Announcer) (newState : DiscoveryState)
    (listener : StateListener) : ∃ advertising scanning,
      n.nodeStateChangedHandler newState listener =
        { n with advertisingState := advertising, scanningState := scanning } ∧
      (LeavesRadio newState →
        advertising = n.advertisingState ∧ scanning = n.scanningState) := by
  cases listener with
  | advertisingModule broadcastDebugPackets messageCount =>
      dsimp only [nodeStateChangedHandler]
      split_ifs with hstate
      · refine ⟨.high, n.scanningState, rfl, fun hleaves => ?_⟩
        exact absurd hstate (not_or.mpr hleaves)
      · exact ⟨_, _, rfl, fun _ => ⟨rfl, rfl⟩⟩
      · exact ⟨_, _, rfl, fun _ => ⟨rfl, rfl⟩⟩
  | scanningModule =>
      dsimp only [nodeStateChangedHandler]
      split_ifs with hstate
      · exact ⟨n.advertisingState, .high, rfl, fun hleaves => absurd hstate hleaves.1⟩
      · exact ⟨_, _, rfl, fun _ => ⟨rfl, rfl⟩⟩
  | otherModule => exact ⟨_, _, rfl, fun _ => ⟨rfl, rfl⟩⟩

theorem informModule_eq (n : Announcer) (newState : DiscoveryState) (i : Fin maxModuleCount) :
    ∃ advertising scanning,
      informModule newState n i = n.informed newState [i] advertising scanning ∧
      (LeavesRadio newState →
        advertising = n.advertisingState ∧ scanning = n.scanningState) := by
  by_cases hactive : n.active i = true
  · obtain ⟨m, hm, hmodule⟩ : ∃ m, n.activeModules i = some m ∧ m.moduleActive = true := by
      rw [active, Option.any_eq_true] at hactive
      exact hactive
    obtain ⟨advertising, scanning, heq, hleaves⟩ := nodeStateChangedHandler_eq
      { n with received := Function.update n.received i (n.received i ++ [newState]) } newState
      m.listener
    refine ⟨advertising, scanning, ?_, hleaves⟩
    simp only [informModule, hm, hmodule, if_true, heq, informed, List.mem_singleton]
    congr 1
    funext j
    by_cases hj : j = i
    · subst hj
      simp [hactive]
    · simp [hj]
  · refine ⟨n.advertisingState, n.scanningState, ?_, fun _ => ⟨rfl, rfl⟩⟩
    have hsame : informModule newState n i = n := by
      unfold informModule
      cases hm : n.activeModules i with
      | none => rfl
      | some m =>
          have hmodule : ¬ m.moduleActive = true := by
            simpa [active, hm] using hactive
          exact if_neg hmodule
    have hreceived : (fun j => if j ∈ [i] ∧ n.active j then n.received j ++ [newState]
        else n.received j) = n.received := by
      funext j
      rw [if_neg]
      rintro ⟨hj, hactive'⟩
      rw [List.mem_singleton.mp hj] at hactive'
      exact hactive hactive'
    rw [hsame, informed, hreceived]

theorem inform_eq (n : Announcer) (newState : DiscoveryState) : ∃ advertising scanning,
    n.inform newState = n.informed newState (List.finRange maxModuleCount) advertising scanning ∧
      (LeavesRadio newState →
        advertising = n.advertisingState ∧ scanning = n.scanningState) := by
  suffices hslots : ∀ (l : List (Fin maxModuleCount)) (n : Announcer), l.Nodup →
      ∃ advertising scanning,
        l.foldl (informModule newState) n = n.informed newState l advertising scanning ∧
          (LeavesRadio newState →
            advertising = n.advertisingState ∧ scanning = n.scanningState) from
    hslots _ n (List.nodup_finRange _)
  intro l
  induction l with
  | nil =>
      intro n _
      exact ⟨n.advertisingState, n.scanningState, by simp [informed], fun _ => ⟨rfl, rfl⟩⟩
  | cons i rest ih =>
      intro n hnodup
      obtain ⟨hi, hrest⟩ := List.nodup_cons.mp hnodup
      obtain ⟨advertising, scanning, heq, hleaves⟩ := n.informModule_eq newState i
      obtain ⟨advertising', scanning', heq', hleaves'⟩ := ih (informModule newState n i) hrest
      refine ⟨advertising', scanning', ?_, fun hstate => ?_⟩
      · rw [List.foldl_cons, heq', heq]
        simp only [informed]
        congr 1
        funext j
        by_cases hj : j = i
        · subst hj
          simp [hi, active]
        · simp [hj, active]
      · rw [(hleaves' hstate).1, (hleaves' hstate).2, heq]
        exact hleaves hstate

@[simp] theorem toStateMachine_inform (n : Announcer) (newState : DiscoveryState) :
    (n.inform newState).toStateMachine = n.toStateMachine := by
  obtain ⟨_, _, heq, _⟩ := n.inform_eq newState
  rw [heq]
  rfl

/-! ## The state machine in it -/

/-- The states that `ChangeState` leaves by itself. -/
def Leads (newState : DiscoveryState) : Prop := newState = .discovery ∨ newState = .deciding

instance (newState : DiscoveryState) : Decidable (Leads newState) :=
  inferInstanceAs (Decidable (_ ∨ _))

theorem changeState_ignored (h : n.Ignores newState) : n.changeState chance newState = n := by
  rw [changeState, if_pos h]

theorem changeState_settles (h : ¬ n.Ignores newState) (hstate : ¬ Leads newState) :
    n.changeState chance newState =
      ({ n with
        currentDiscoveryState := newState
        entered := n.entered ++ [newState] }.settle chance newState).inform newState := by
  rw [changeState, if_neg h]
  cases newState with
  | discovery => exact absurd (Or.inl rfl) hstate
  | deciding => exact absurd (Or.inr rfl) hstate
  | _ => rfl

theorem toStateMachine_settles (hstate : ¬ Leads newState) :
    (n.changeState chance newState).toStateMachine =
      n.toStateMachine.changeState chance newState := by
  by_cases h : n.Ignores newState
  · rw [changeState_ignored h, StateMachine.changeState_ignored h]
  · rw [changeState_settles h hstate, StateMachine.changeState, if_neg h, toStateMachine_inform]
    cases newState with
    | discovery => exact absurd (Or.inl rfl) hstate
    | deciding => exact absurd (Or.inr rfl) hstate
    | _ => rfl

theorem toStateMachine_discovery :
    (n.changeState chance .discovery).toStateMachine =
      n.toStateMachine.changeState chance .discovery := by
  by_cases h : n.Ignores .discovery
  · rw [changeState_ignored h, StateMachine.changeState_ignored h]
  · rw [changeState, if_neg h, StateMachine.changeState, if_neg h]
    simp only [toStateMachine_inform]
    rw [toStateMachine_settles (by decide)]
    split_ifs
    · rw [toStateMachine_settles (by decide)]
    · rw [toStateMachine_settles (by decide)]

/-- **`ChangeState` acts on the state machine as `StateMachine.changeState` does.** -/
theorem toStateMachine_changeState (n : Announcer) (chance : Chance)
    (newState : DiscoveryState) :
    (n.changeState chance newState).toStateMachine =
      n.toStateMachine.changeState chance newState := by
  by_cases hstate : Leads newState
  · rcases hstate with rfl | rfl
    · exact toStateMachine_discovery
    · by_cases h : n.Ignores .deciding
      · rw [changeState_ignored h, StateMachine.changeState_ignored h]
      · rw [changeState, if_neg h, StateMachine.changeState, if_neg h]
        simp only [toStateMachine_inform]
        cases chance.decision with
        | noNodesFound => exact toStateMachine_settles (by decide)
        | connectAsMaster =>
            dsimp only
            rw [toStateMachine_settles (by decide)]
            rfl
        | connectAsSlave => exact toStateMachine_discovery
  · exact toStateMachine_settles hstate

/-! ## What is entered and what is told -/

/-- Between the two the node entered these states, and told its active modules of those. -/
structure Changes (n n' : Announcer) (states news : List DiscoveryState) : Prop where
  entered : n'.entered = n.entered ++ states
  received : ∀ i, n.active i = true → n'.received i = n.received i ++ news
  activeModules : n'.activeModules = n.activeModules

theorem Changes.of_same {n' : Announcer} (hentered : n'.entered = n.entered)
    (hreceived : n'.received = n.received) (hmodules : n'.activeModules = n.activeModules) :
    Changes n n' [] [] :=
  ⟨by rw [hentered, List.append_nil], fun i _ => by rw [hreceived, List.append_nil], hmodules⟩

theorem Changes.entering {n' : Announcer} (hentered : n'.entered = n.entered ++ [newState])
    (hreceived : n'.received = n.received) (hmodules : n'.activeModules = n.activeModules) :
    Changes n n' [newState] [] :=
  ⟨hentered, fun i _ => by rw [hreceived, List.append_nil], hmodules⟩

theorem Changes.trans {n' n'' : Announcer} {states news states' news' : List DiscoveryState}
    (h : Changes n n' states news) (h' : Changes n' n'' states' news') :
    Changes n n'' (states ++ states') (news ++ news') where
  entered := by rw [h'.entered, h.entered, List.append_assoc]
  received := by
    intro i hactive
    have hactive' : n'.active i = true := by rwa [active, h.activeModules]
    rw [h'.received i hactive', h.received i hactive, List.append_assoc]
  activeModules := h'.activeModules.trans h.activeModules

theorem changes_inform (n : Announcer) (newState : DiscoveryState) :
    Changes n (n.inform newState) [] [newState] := by
  obtain ⟨_, _, heq, _⟩ := n.inform_eq newState
  rw [heq]
  refine ⟨(List.append_nil _).symm, fun i hactive => ?_, rfl⟩
  simp [informed, hactive]

theorem changes_settle (n : Announcer) (chance : Chance) (newState : DiscoveryState) :
    Changes n (n.settle chance newState) [] [] := by
  cases newState <;> exact Changes.of_same rfl rfl rfl

theorem changes_settles (h : ¬ n.Ignores newState) (hstate : ¬ Leads newState) :
    Changes n (n.changeState chance newState) [newState] [newState] := by
  rw [changeState_settles h hstate]
  have henter : Changes n
      { n with currentDiscoveryState := newState, entered := n.entered ++ [newState] }
      [newState] [] := Changes.entering rfl rfl rfl
  exact (henter.trans (changes_settle _ chance newState)).trans (changes_inform _ newState)

theorem state_settles (h : ¬ n.Ignores newState) (hstate : ¬ Leads newState) :
    (n.changeState chance newState).currentDiscoveryState = newState ∧
      (n.changeState chance newState).stateMachineDisabled = n.stateMachineDisabled := by
  rw [changeState_settles h hstate, toStateMachine_inform]
  cases newState <;> exact ⟨rfl, rfl⟩

/-- A node that has entered a state goes on to any other one. -/
theorem not_ignores_next {n' : Announcer} {next : DiscoveryState} (h : ¬ n.Ignores newState)
    (hstate : n'.currentDiscoveryState = newState)
    (hdisabled : n'.stateMachineDisabled = n.stateMachineDisabled) (hnext : next ≠ newState) :
    ¬ n'.Ignores next := by
  rintro (heq | hstopped)
  · exact hnext (heq.symm.trans hstate)
  · exact (not_or.mp h).2 (hdisabled.symm.trans hstopped)

theorem changes_discovery (h : ¬ n.Ignores .discovery) : ∃ states, states ≠ [] ∧
    (∀ state ∈ states, ¬ Leads state) ∧
      Changes n (n.changeState chance .discovery) (.discovery :: states)
        (states ++ [.discovery]) := by
  have hdisabled : n.stateMachineDisabled ≠ true := (not_or.mp h).2
  rw [changeState, if_neg h]
  set entered : Announcer :=
    { n with
      currentDiscoveryState := .discovery
      entered := n.entered ++ [.discovery]
      nextDiscoveryState := .invalidState } with hentered
  have henter : Changes n entered [.discovery] [] := Changes.entering rfl rfl rfl
  have hgoes : ∀ state, state ≠ .discovery → ¬ entered.Ignores state :=
    fun _ hstate => not_ignores_next h rfl rfl hstate
  simp only
  rw [← hentered]
  split_ifs
  · have hhigh := hgoes .discoveryHigh (by decide)
    -- the second change is ignored
    rw [changeState_ignored (Or.inl (state_settles hhigh (by decide)).1)]
    exact ⟨[.discoveryHigh], by simp, by decide,
      (henter.trans (changes_settles hhigh (by decide))).trans (changes_inform _ _)⟩
  · have hlow := hgoes .discoveryLow (by decide)
    have hhigh : ¬ (entered.changeState chance .discoveryLow).Ignores .discoveryHigh := by
      obtain ⟨hstate, hsame⟩ := @state_settles entered chance _ hlow (by decide)
      rw [Ignores, hstate, hsame]
      simpa using hdisabled
    exact ⟨[.discoveryLow, .discoveryHigh], by simp, by decide,
      ((henter.trans (changes_settles hlow (by decide))).trans
        (changes_settles hhigh (by decide))).trans (changes_inform _ _)⟩

theorem changes_deciding (h : ¬ n.Ignores .deciding) : ∃ states news, news ≠ [] ∧
    .deciding ∉ news ∧
      Changes n (n.changeState chance .deciding) (.deciding :: states) (news ++ [.deciding]) := by
  set entered : ℕ → U8 → Announcer := fun quiet noNodesFoundCounter =>
    { n with
      currentDiscoveryState := .deciding
      entered := n.entered ++ [.deciding]
      advertisingState := .off
      scanningState := .off
      nextDiscoveryState := .invalidState
      noNodesFoundCounter := noNodesFoundCounter
      quiet := quiet }
  have henter : ∀ quiet counter, Changes n (entered quiet counter) [.deciding] [] :=
    fun _ _ => Changes.entering rfl rfl rfl
  have hgoes : ∀ quiet counter state, state ≠ .deciding →
      ¬ (entered quiet counter).Ignores state :=
    fun _ _ _ hstate => not_ignores_next h rfl rfl hstate
  rw [changeState, if_neg h]
  cases chance.decision with
  | noNodesFound =>
      have hback := hgoes (n.quiet + 1) (if n.noNodesFoundCounter.toNat < 100 then
        n.noNodesFoundCounter + 1 else n.noNodesFoundCounter) .backOff (by decide)
      exact ⟨[.backOff], [.backOff], by simp, by simp,
        ((henter _ _).trans (changes_settles hback (by decide))).trans (changes_inform _ _)⟩
  | connectAsMaster =>
      have hconnecting := hgoes n.quiet n.noNodesFoundCounter .connecting (by decide)
      have hchange := (henter _ _).trans (@changes_settles _ chance _ hconnecting (by decide))
      have hconnected : Changes n
          { (entered n.quiet n.noNodesFoundCounter).changeState chance .connecting with
            noNodesFoundCounter := 0
            quiet := 0 } [.deciding, .connecting] [.connecting] :=
        ⟨hchange.entered, hchange.received, hchange.activeModules⟩
      exact ⟨[.connecting], [.connecting], by simp, by simp,
        hconnected.trans (changes_inform _ _)⟩
  | connectAsSlave =>
      dsimp only [setAdvertisingState, setScanState]
      obtain ⟨states, -, hstates, hchange⟩ :=
        @changes_discovery _ chance (hgoes 0 0 .discovery (by decide))
      have hall := ((henter _ _).trans hchange).trans (changes_inform _ .deciding)
      rw [List.append_nil, List.nil_append, List.singleton_append] at hall
      refine ⟨.discovery :: states, states ++ [.discovery], by simp, ?_, hall⟩
      intro hmem
      rcases List.mem_append.mp hmem with hmem | hmem
      · exact hstates _ hmem (Or.inr rfl)
      · exact absurd hmem (by decide)

/-- A state that leads on is entered first and told last. -/
theorem changes_leads (h : ¬ n.Ignores newState) (hstate : Leads newState) : ∃ states news,
    news ≠ [] ∧ newState ∉ news ∧
      Changes n (n.changeState chance newState) (newState :: states) (news ++ [newState]) := by
  rcases hstate with rfl | rfl
  · obtain ⟨states, hne, hstates, hchange⟩ := @changes_discovery _ chance h
    exact ⟨states, states, hne, fun hmem => hstates _ hmem (Or.inl rfl), hchange⟩
  · exact changes_deciding h

/-! ## Whether the modules know the state -/

/-- During a change all active modules are told of the states that the node enters, in order. -/
def InOrder (n n' : Announcer) : Prop :=
  ∃ states, n'.entered = n.entered ++ states ∧
    ∀ i, n.active i = true → n'.received i = n.received i ++ states

/-- The last state that an active module was told of is the one that the node is in. -/
def UpToDate (n : Announcer) : Prop :=
  ∀ i, n.active i = true → (n.received i).getLast? = some n.currentDiscoveryState

/-- A change that `ChangeState` does not take further itself, and that is not ignored by a node
whose modules do not know its state. -/
def InformsAll (n : Announcer) (newState : DiscoveryState) : Prop :=
  (∀ i, n.active i = false) ∨ n.Ignores newState ∧ n.UpToDate ∨
    ¬ n.Ignores newState ∧ ¬ Leads newState

theorem exists_changes : ∃ states news, Changes n (n.changeState chance newState) states news := by
  by_cases hignored : n.Ignores newState
  · rw [changeState_ignored hignored]
    exact ⟨[], [], Changes.of_same rfl rfl rfl⟩
  · by_cases hleads : Leads newState
    · obtain ⟨_, _, _, _, hchange⟩ := @changes_leads _ chance _ hignored hleads
      exact ⟨_, _, hchange⟩
    · exact ⟨_, _, changes_settles hignored hleads⟩

theorem changeState_leads_ne (h : ¬ n.Ignores newState) (hstate : Leads newState) :
    (n.changeState chance newState).currentDiscoveryState ≠ newState := by
  have hdisabled : n.stateMachineDisabled = false := by simpa using (not_or.mp h).2
  rw [toStateMachine_changeState]
  rcases hstate with rfl | rfl
  · rw [StateMachine.changeState_discovery hdisabled (not_or.mp h).1]
    simp
  · obtain ⟨state, timeout, next, counter, heq, hcases⟩ :=
      @StateMachine.changeState_deciding n.toStateMachine chance hdisabled (not_or.mp h).1
    rw [heq]
    rcases hcases with hcase | hcase | hcase <;> obtain ⟨rfl, rfl⟩ := Prod.mk.inj hcase <;> simp

/-- A state that leads on: its modules learn of it after the states that it leads to. -/
theorem misinformed_leads (h : ¬ n.Ignores newState) (hstate : Leads newState)
    {i : Fin maxModuleCount} (hactive : n.active i = true) :
    ¬ InOrder n (n.changeState chance newState) ∧ ¬ (n.changeState chance newState).UpToDate := by
  obtain ⟨tail, news, hne, hnot, hchange⟩ := @changes_leads _ chance _ h hstate
  have hnews := hchange.received i hactive
  constructor
  · rintro ⟨states, hentered, hreceived⟩
    -- the first state that is entered is not the first that is told
    have htail : states = newState :: tail :=
      List.append_cancel_left (hentered.symm.trans hchange.entered)
    have hsame : states = news ++ [newState] :=
      List.append_cancel_left ((hreceived i hactive).symm.trans hnews)
    obtain ⟨first, rest, rfl⟩ := List.exists_cons_of_ne_nil hne
    rw [htail, List.cons_append] at hsame
    exact hnot (by rw [(List.cons.inj hsame).1]; exact List.mem_cons_self)
  · intro hupToDate
    have hactive' : (n.changeState chance newState).active i = true := by
      rwa [active, hchange.activeModules]
    have hlast := hupToDate i hactive'
    rw [hnews, ← List.append_assoc, List.getLast?_concat, Option.some_inj] at hlast
    exact changeState_leads_ne h hstate hlast.symm

/-- **The modules know the state, and were told of all states in order, if the change needed no
further one.** -/
theorem changeState_informs_iff (n : Announcer) (chance : Chance) (newState : DiscoveryState) :
    InOrder n (n.changeState chance newState) ∧ (n.changeState chance newState).UpToDate ↔
      n.InformsAll newState := by
  unfold InformsAll
  by_cases hsilent : ∀ i, n.active i = false
  · -- there is nobody to be told
    have hnobody : ∀ n' : Announcer, n'.activeModules = n.activeModules → ∀ i,
        n'.active i ≠ true := by
      intro n' hmodules i hactive
      rw [active, hmodules] at hactive
      exact absurd hactive (ne_true_of_eq_false (hsilent i))
    obtain ⟨states, news, hchange⟩ := @exists_changes n chance newState
    refine iff_of_true ⟨⟨states, hchange.entered, fun i hactive => ?_⟩, fun i hactive => ?_⟩
      (Or.inl hsilent)
    · exact absurd hactive (hnobody n rfl i)
    · exact absurd hactive (hnobody _ hchange.activeModules i)
  · rw [or_iff_right hsilent]
    by_cases hignored : n.Ignores newState
    · -- nothing is entered, and nothing is told
      rw [changeState_ignored hignored]
      have hinorder : InOrder n n :=
        ⟨[], (List.append_nil _).symm, fun i _ => (List.append_nil _).symm⟩
      simp [hignored, hinorder]
    · by_cases hleads : Leads newState
      · refine iff_of_false ?_ (by simp [hignored, hleads])
        obtain ⟨i, hactive⟩ : ∃ i, n.active i = true := by simpa using hsilent
        exact fun hboth => (misinformed_leads hignored hleads hactive).1 hboth.1
      · have hchange := @changes_settles _ chance _ hignored hleads
        refine iff_of_true ⟨⟨_, hchange.entered, hchange.received⟩, fun i hactive => ?_⟩
          (Or.inr ⟨hignored, hleads⟩)
        have hactive' : n.active i = true := by rwa [active, ← hchange.activeModules]
        rw [hchange.received i hactive', List.getLast?_concat, (state_settles hignored hleads).1]

end

/-! ## The handlers -/

/-- The node after its constructor; its modules are there, and advertising and scanning are off. -/
def constructed (activeModules : Fin maxModuleCount → Option StateModule) : Announcer where
  toStateMachine := StateMachine.constructed
  advertisingState := .off
  scanningState := .off
  activeModules := activeModules
  entered := []
  received := fun _ => []
  quiet := 0

section

variable (chance : Chance) (i : Slot) (n : Announcer)

def setLink (link : LinkState) : Announcer :=
  { n with toStateMachine := n.toStateMachine.setLink i link }

def configurationLoadedHandler : Announcer := n.changeState chance .discovery

def timerTickHandler (timerMs : U16) : Announcer :=
  let n := { n with currentStateTimeoutMs := n.currentStateTimeoutMs - timerMs.setWidth 32 }
  if n.nextDiscoveryState ≠ .invalidState ∧ n.currentStateTimeoutMs.toInt ≤ 0 then
    n.changeState chance n.nextDiscoveryState
  else n

def connectionSuccessfulHandler : Announcer :=
  { n.setLink i { n.link i with isConnected := true } with
    quiet := 0 }.changeState chance .handshake

def handshakeDoneHandler : Announcer :=
  { n.setLink i { n.link i with handshakeDone := true } with
    quiet := 0 }.changeState chance .discovery

def connectionTimeoutHandler : Announcer := { n with quiet := 0 }.changeState chance .discovery

def disconnectionHandler : Announcer :=
  ({ n.setLink i { n.link i with isConnected := false } with
    noNodesFoundCounter := 0
    quiet := 0 }.changeState chance .discovery).setLink i ⟨false, false⟩

end

/-- The argument of the terminal command `discovery`. -/
inductive DiscoveryMode
  | high
  | low
  | off
  deriving DecidableEq, Repr

/-- The part of `TerminalCommandHandler` for `discovery`. -/
def discoveryCommand (chance : Chance) (n : Announcer) : DiscoveryMode → Announcer
  | .high => { n with noNodesFoundCounter := 0, quiet := 0 }.changeState chance .discoveryHigh
  | .low => { n with noNodesFoundCounter := 50, quiet := 0 }.changeState chance .discoveryLow
  | .off => { n with quiet := 0 }.changeState chance .discoveryOff

/-- `Stop`. -/
def stop (chance : Chance) (n : Announcer) : Announcer :=
  let n := n.changeState chance .discoveryOff
  { n with toStateMachine := n.toStateMachine.disableStateMachine true }

inductive Cause
  | configurationLoaded
  | trigger (trigger : StateMachine.Trigger)
  | discovery (mode : DiscoveryMode)
  /-- A packet enrolls the node. -/
  | enrolled
  /-- Something apart from `ChangeState` sets the radio: a connection that is being set up. -/
  | radio (advertisingState : AdvState) (scanningState : ScanState)
  /-- A packet changes the modules. -/
  | configured (activeModules : Fin maxModuleCount → Option StateModule)

/-- Something happens, and while the node handles it, this is what `ChangeState` learns. -/
structure Happening where
  cause : Cause
  chance : Chance

def apply (n : Announcer) (happening : Happening) : Announcer :=
  match happening.cause with
  | .configurationLoaded => n.configurationLoadedHandler happening.chance
  | .trigger (.tick timerMs) => n.timerTickHandler happening.chance timerMs
  | .trigger (.connectionSuccessful i) => n.connectionSuccessfulHandler happening.chance i
  | .trigger (.handshakeDone i) => n.handshakeDoneHandler happening.chance i
  | .trigger .connectionTimeout => n.connectionTimeoutHandler happening.chance
  | .trigger (.disconnected i) => n.disconnectionHandler happening.chance i
  | .trigger .stop => { n with toStateMachine := n.toStateMachine.disableStateMachine true }
  | .trigger .start => { n with toStateMachine := n.toStateMachine.disableStateMachine false }
  | .discovery mode => n.discoveryCommand happening.chance mode
  | .enrolled => n.stop happening.chance
  | .radio advertisingState scanningState =>
      (n.setAdvertisingState advertisingState).setScanState scanningState
  | .configured activeModules => { n with activeModules := activeModules }

def Enabled (n : Announcer) (happening : Happening) : Prop :=
  match happening.cause with
  | .trigger trigger => n.toStateMachine.Enabled ⟨trigger, happening.chance⟩
  | _ => True

instance (n : Announcer) (happening : Happening) : Decidable (n.Enabled happening) := by
  unfold Enabled
  split <;> infer_instance

/-- **The handlers act on the state machine as those of `StateMachine` do.** -/
theorem toStateMachine_apply (n : Announcer) (trigger : StateMachine.Trigger) (chance : Chance) :
    (n.apply ⟨.trigger trigger, chance⟩).toStateMachine =
      n.toStateMachine.apply ⟨trigger, chance⟩ := by
  cases trigger with
  | tick timerMs =>
      simp only [apply, timerTickHandler, StateMachine.apply, StateMachine.timerTickHandler]
      split_ifs
      · exact toStateMachine_changeState _ _ _
      · rfl
  | connectionSuccessful i => exact toStateMachine_changeState _ _ _
  | handshakeDone i => exact toStateMachine_changeState _ _ _
  | connectionTimeout => exact toStateMachine_changeState _ _ _
  | disconnected i =>
      exact congrArg (fun m => StateMachine.setLink m i ⟨false, false⟩)
        (toStateMachine_changeState _ _ _)
  | stop => rfl
  | start => rfl

/-! ## Whether a handler leaves the modules informed -/

/-- The state that the handler calls `ChangeState` for. -/
def requested (n : Announcer) (happening : Happening) : Option DiscoveryState :=
  match happening.cause with
  | .trigger (.tick timerMs) =>
      if n.nextDiscoveryState ≠ .invalidState ∧
          (n.currentStateTimeoutMs - timerMs.setWidth 32).toInt ≤ 0 then
        some n.nextDiscoveryState
      else none
  | .trigger (.connectionSuccessful _) => some .handshake
  | .configurationLoaded | .trigger (.handshakeDone _) | .trigger .connectionTimeout
  | .trigger (.disconnected _) => some .discovery
  | .discovery .high => some .discoveryHigh
  | .discovery .low => some .discoveryLow
  | .discovery .off | .enrolled => some .discoveryOff
  | .trigger .stop | .trigger .start | .radio _ _ | .configured _ => none

/-- All active modules are told of the states that the node enters, in order, and after a call of
`ChangeState` they know the state. -/
def Informs (n : Announcer) (happening : Happening) : Prop :=
  InOrder n (n.apply happening) ∧
    (n.requested happening ≠ none → (n.apply happening).UpToDate)

/-- Two nodes that differ in nothing that is told. -/
structure SameNews (n n' : Announcer) : Prop where
  state : n'.currentDiscoveryState = n.currentDiscoveryState
  entered : n'.entered = n.entered
  received : n'.received = n.received
  activeModules : n'.activeModules = n.activeModules

section

variable {n n' m m' : Announcer} {newState : DiscoveryState} {happening : Happening}

namespace SameNews

theorem active (h : SameNews n m) (i : Fin maxModuleCount) : m.active i = n.active i := by
  rw [Announcer.active, Announcer.active, h.activeModules]

theorem upToDate_iff (h : SameNews n m) : m.UpToDate ↔ n.UpToDate := by
  simp only [UpToDate, h.active, h.received, h.state]

theorem inOrder_iff (h : SameNews n m) (h' : SameNews n' m') :
    InOrder n m' ↔ InOrder m n' := by
  simp only [InOrder, h.active, h.entered, h.received, h'.entered, h'.received]

theorem informsAll_iff (h : SameNews n m)
    (hdisabled : m.stateMachineDisabled = n.stateMachineDisabled) :
    m.InformsAll newState ↔ n.InformsAll newState := by
  have hignores : m.Ignores newState ↔ n.Ignores newState := by
    rw [Ignores, Ignores, h.state, hdisabled]
  simp only [InformsAll, h.active, hignores, h.upToDate_iff]

end SameNews

/-- A handler prepares a call of `ChangeState`, and does something behind it, but neither is
told. -/
theorem apply_requested (h : n.requested happening = some newState) : ∃ m, SameNews n m ∧
    m.stateMachineDisabled = n.stateMachineDisabled ∧
      SameNews (m.changeState happening.chance newState) (n.apply happening) := by
  obtain ⟨cause, chance⟩ := happening
  cases cause with
  | configurationLoaded =>
      obtain rfl := Option.some.inj h
      exact ⟨n, ⟨rfl, rfl, rfl, rfl⟩, rfl, rfl, rfl, rfl, rfl⟩
  | trigger trigger =>
      cases trigger with
      | tick timerMs =>
          dsimp only [requested] at h
          split_ifs at h with hdue
          obtain rfl := Option.some.inj h
          refine ⟨{ n with currentStateTimeoutMs := n.currentStateTimeoutMs - timerMs.setWidth 32 },
            ⟨rfl, rfl, rfl, rfl⟩, rfl, ?_⟩
          dsimp only [apply, timerTickHandler]
          rw [if_pos hdue]
          exact ⟨rfl, rfl, rfl, rfl⟩
      | connectionSuccessful i =>
          obtain rfl := Option.some.inj h
          exact ⟨{ n.setLink i { n.link i with isConnected := true } with quiet := 0 },
            ⟨rfl, rfl, rfl, rfl⟩, rfl, rfl, rfl, rfl, rfl⟩
      | handshakeDone i =>
          obtain rfl := Option.some.inj h
          exact ⟨{ n.setLink i { n.link i with handshakeDone := true } with quiet := 0 },
            ⟨rfl, rfl, rfl, rfl⟩, rfl, rfl, rfl, rfl, rfl⟩
      | connectionTimeout =>
          obtain rfl := Option.some.inj h
          exact ⟨{ n with quiet := 0 }, ⟨rfl, rfl, rfl, rfl⟩, rfl, rfl, rfl, rfl, rfl⟩
      | disconnected i =>
          obtain rfl := Option.some.inj h
          exact ⟨{ n.setLink i { n.link i with isConnected := false } with
              noNodesFoundCounter := 0
              quiet := 0 }, ⟨rfl, rfl, rfl, rfl⟩, rfl, rfl, rfl, rfl, rfl⟩
      | stop | start => exact absurd h (by simp [requested])
  | discovery mode =>
      cases mode with
      | high =>
          obtain rfl := Option.some.inj h
          exact ⟨{ n with noNodesFoundCounter := 0, quiet := 0 }, ⟨rfl, rfl, rfl, rfl⟩, rfl,
            rfl, rfl, rfl, rfl⟩
      | low =>
          obtain rfl := Option.some.inj h
          exact ⟨{ n with noNodesFoundCounter := 50, quiet := 0 }, ⟨rfl, rfl, rfl, rfl⟩, rfl,
            rfl, rfl, rfl, rfl⟩
      | off =>
          obtain rfl := Option.some.inj h
          exact ⟨{ n with quiet := 0 }, ⟨rfl, rfl, rfl, rfl⟩, rfl, rfl, rfl, rfl, rfl⟩
  | enrolled =>
      obtain rfl := Option.some.inj h
      exact ⟨n, ⟨rfl, rfl, rfl, rfl⟩, rfl, rfl, rfl, rfl, rfl⟩
  | radio advertisingState scanningState => exact absurd h (by simp [requested])
  | configured activeModules => exact absurd h (by simp [requested])

theorem apply_not_requested (h : n.requested happening = none) :
    (n.apply happening).entered = n.entered ∧ (n.apply happening).received = n.received := by
  obtain ⟨cause, chance⟩ := happening
  cases cause with
  | configurationLoaded | enrolled => exact absurd h (by simp [requested])
  | trigger trigger =>
      cases trigger with
      | tick timerMs =>
          dsimp only [requested] at h
          split_ifs at h with hdue
          dsimp only [apply, timerTickHandler]
          rw [if_neg hdue]
          exact ⟨rfl, rfl⟩
      | connectionSuccessful i | handshakeDone i | connectionTimeout | disconnected i =>
          exact absurd h (by simp [requested])
      | stop | start => exact ⟨rfl, rfl⟩
  | discovery mode => cases mode <;> exact absurd h (by simp [requested])
  | radio advertisingState scanningState | configured activeModules => exact ⟨rfl, rfl⟩

/-- The step lemma. -/
theorem informs_iff :
    n.Informs happening ↔ ∀ newState ∈ n.requested happening, n.InformsAll newState := by
  cases hrequested : n.requested happening with
  | none =>
      obtain ⟨hentered, hreceived⟩ := apply_not_requested hrequested
      refine iff_of_true ⟨⟨[], ?_, fun i _ => ?_⟩, fun hne => absurd hrequested hne⟩ (by simp)
      · rw [hentered, List.append_nil]
      · rw [hreceived, List.append_nil]
  | some newState =>
      obtain ⟨m, hbefore, hdisabled, hafter⟩ := apply_requested hrequested
      have hcall := m.changeState_informs_iff happening.chance newState
      rw [hbefore.informsAll_iff hdisabled] at hcall
      rw [Informs, hafter.upToDate_iff, hbefore.inOrder_iff hafter, hrequested]
      simpa using hcall

end
/-! ### Runs -/

section

variable {modules : Fin maxModuleCount → Option StateModule} {happenings : List Happening}
  {n : Announcer} {i : Fin maxModuleCount}

/-- A module that is active all the time has been told of all states, if it was informed in each
step. -/
theorem received_eq_entered
    (hrun : Run apply (fun n happening => n.Enabled happening ∧ n.Informs happening)
      (constructed modules) happenings n)
    (hactive : ∀ first, first <+: happenings →
      (first.foldl apply (constructed modules)).active i = true) :
    n.received i = n.entered := by
  have hboth := (@Run.forall_prefix_iff _ _ _ _ (fun n => n.active i = true) _ _ _ hrun).mp hactive
  refine hboth.1.preserves (I := fun n => n.received i = n.entered) ?_ rfl
  rintro n happening hsame ⟨⟨-, ⟨states, hentered, hreceived⟩, -⟩, hactive⟩
  rw [hreceived i hactive, hentered, hsame]

end

/-- **In all steps of a run the modules are informed if and only if each call of `ChangeState`
informs them,** and then the modules that are active all the time have been told of all states, in
order. -/
theorem modules_informed_iff (modules : Fin maxModuleCount → Option StateModule)
    (happenings : List Happening) (n : Announcer) :
    (Run apply (fun n happening => n.Enabled happening ∧ n.Informs happening)
        (constructed modules) happenings n ↔
      Run apply (fun n happening => n.Enabled happening ∧
          ∀ newState ∈ n.requested happening, n.InformsAll newState)
        (constructed modules) happenings n) ∧
    (Run apply (fun n happening => n.Enabled happening ∧
          ∀ newState ∈ n.requested happening, n.InformsAll newState)
        (constructed modules) happenings n →
      ∀ i, (∀ first, first <+: happenings →
          (first.foldl apply (constructed modules)).active i = true) →
        n.received i = n.entered) := by
  have hsteps : Run apply (fun n happening => n.Enabled happening ∧ n.Informs happening)
        (constructed modules) happenings n ↔
      Run apply (fun n happening => n.Enabled happening ∧
          ∀ newState ∈ n.requested happening, n.InformsAll newState)
        (constructed modules) happenings n :=
    Run.congr fun _ _ => and_congr_right fun _ => informs_iff
  exact ⟨hsteps, fun hrun i hactive => received_eq_entered (hsteps.mpr hrun) hactive⟩

/-- One active module. -/
def oneModule : Fin maxModuleCount → Option StateModule :=
  fun i => if i = ⟨0, by decide⟩ then some ⟨true, .otherModule⟩ else none

/-- When the configuration is loaded, the node ends in DISCOVERY_HIGH, and the module is told of
DISCOVERY last. -/
theorem modules_misinformed : ¬ ∀ modules happenings n,
    Run apply Enabled (constructed modules) happenings n →
      Run apply (fun n happening => n.Enabled happening ∧ n.Informs happening)
        (constructed modules) happenings n := by
  intro hclaim
  have hloaded : Replays apply Enabled (constructed oneModule)
      ([] ++ [⟨.configurationLoaded, ⟨.noNodesFound, 0⟩⟩]) := by decide
  obtain ⟨middle, hrun, ⟨-, hinforms⟩, -⟩ :=
    Run.concat_iff.mp (hclaim _ _ _ (Run.of_replays hloaded))
  obtain rfl := hrun.eq_foldl
  have hactive : (constructed oneModule).active ⟨0, by decide⟩ = true := rfl
  exact (misinformed_leads (by decide) (Or.inl rfl) hactive).1 hinforms.1

end Announcer

end FruityMesh.Mesh
