import FruityMesh.Library.Runs
import FruityMesh.Mesh.Effects

/-!
# The discovery states of a node

A node looks for partners, decides for one, connects, and does the handshake; `ChangeState`
moves it from one state to the next.  Most states arm a timeout that leads on.  The state
HANDSHAKE does not: it waits for the end of a handshake or of a connection.  While the state
machine is stopped, `ChangeState` does nothing, so a node that is stopped in HANDSHAKE misses
that end, and when it is started again nothing leads on.

Scanning, advertising and the notification of the modules are left out; none of them changes
what is modelled here.
-/

namespace FruityMesh.Mesh

open Runs

inductive DiscoveryState
  | invalidState
  | bootup
  | discovery
  | discoveryHigh
  | discoveryLow
  | deciding
  | handshake
  | connecting
  | backOff
  | discoveryOff
  deriving DecidableEq, Repr

inductive DecisionResult
  | connectAsMaster
  | connectAsSlave
  | noNodesFound
  deriving DecidableEq, Repr

def meshStateTimeoutHigh : U32 := 3000
def meshStateTimeoutLow : U32 := 10000
def meshStateTimeoutBackOff : U32 := 1000
def meshStateTimeoutBackOffVariance : U32 := 1000
def discoveryHighToLowTransitionDuration : ℕ := 10

/-- What `ChangeState` cannot know beforehand: the results of `DetermineBestClusterAvailable`
and of `GetRandomInteger`. -/
structure Chance where
  decision : DecisionResult
  random : U32

/-- What the discovery reads of a connection. -/
structure LinkState where
  isConnected : Bool
  handshakeDone : Bool
  deriving DecidableEq, Repr

/-- The part of a node that is its state machine.  The timeout is a signed integer. -/
structure StateMachine where
  currentDiscoveryState : DiscoveryState
  nextDiscoveryState : DiscoveryState
  currentStateTimeoutMs : U32
  stateMachineDisabled : Bool
  noNodesFoundCounter : U8
  link : Slot → LinkState

namespace StateMachine

/-- `ChangeState` calls itself only with states of a lower rank. -/
def rank : DiscoveryState → ℕ
  | .deciding => 2
  | .discovery => 1
  | _ => 0

/-- `ChangeState`. -/
def changeState (chance : Chance) (m : StateMachine) (newState : DiscoveryState) : StateMachine :=
  if m.currentDiscoveryState = newState ∨ m.stateMachineDisabled then m
  else
    let m := { m with currentDiscoveryState := newState }
    match newState with
    | .discovery =>
        let m := { m with nextDiscoveryState := .invalidState }
        -- low discovery, if no nodes have been found for a while, is left at once
        let m :=
          if m.noNodesFoundCounter.toNat < discoveryHighToLowTransitionDuration then
            m.changeState chance .discoveryHigh
          else m.changeState chance .discoveryLow
        m.changeState chance .discoveryHigh
    | .discoveryHigh =>
        { m with currentStateTimeoutMs := meshStateTimeoutHigh, nextDiscoveryState := .deciding }
    | .discoveryLow =>
        { m with currentStateTimeoutMs := meshStateTimeoutLow, nextDiscoveryState := .deciding }
    | .deciding =>
        let m := { m with nextDiscoveryState := .invalidState }
        match chance.decision with
        | .noNodesFound =>
            { m with
              noNodesFoundCounter :=
                if m.noNodesFoundCounter.toNat < 100 then m.noNodesFoundCounter + 1
                else m.noNodesFoundCounter }.changeState chance .backOff
        | .connectAsMaster => { m.changeState chance .connecting with noNodesFoundCounter := 0 }
        | .connectAsSlave => { m with noNodesFoundCounter := 0 }.changeState chance .discovery
    | .backOff =>
        { m with
          currentStateTimeoutMs :=
            chance.random % meshStateTimeoutBackOff + meshStateTimeoutBackOffVariance
          nextDiscoveryState := .discovery }
    | .connecting => { m with currentStateTimeoutMs := 30000, nextDiscoveryState := .deciding }
    | .handshake => { m with nextDiscoveryState := .invalidState }
    | .discoveryOff => { m with nextDiscoveryState := .invalidState }
    | .invalidState => m
    | .bootup => m
termination_by rank newState
decreasing_by all_goals decide

def disableStateMachine (m : StateMachine) (disable : Bool) : StateMachine :=
  { m with stateMachineDisabled := disable }

def setLink (m : StateMachine) (i : Slot) (link : LinkState) : StateMachine :=
  { m with link := Function.update m.link i link }

/-! ## The handlers -/

/-- The node after its constructor. -/
def constructed : StateMachine where
  currentDiscoveryState := .bootup
  nextDiscoveryState := .invalidState
  currentStateTimeoutMs := 0
  stateMachineDisabled := false
  noNodesFoundCounter := 0
  link := fun _ => ⟨false, false⟩

def configurationLoadedHandler (chance : Chance) (m : StateMachine) : StateMachine :=
  m.changeState chance .discovery

def timerTickHandler (chance : Chance) (timerMs : U16) (m : StateMachine) : StateMachine :=
  let m := { m with currentStateTimeoutMs := m.currentStateTimeoutMs - timerMs.setWidth 32 }
  if m.nextDiscoveryState ≠ .invalidState ∧ m.currentStateTimeoutMs.toInt ≤ 0 then
    m.changeState chance m.nextDiscoveryState
  else m

/-- The connection is established, before the handshake. -/
def connectionSuccessfulHandler (chance : Chance) (i : Slot) (m : StateMachine) : StateMachine :=
  (m.setLink i { m.link i with isConnected := true }).changeState chance .handshake

def handshakeDoneHandler (chance : Chance) (i : Slot) (m : StateMachine) : StateMachine :=
  (m.setLink i { m.link i with handshakeDone := true }).changeState chance .discovery

def connectionTimeoutHandler (chance : Chance) (m : StateMachine) : StateMachine :=
  m.changeState chance .discovery

/-- The node is told of the loss before the connection is reset. -/
def disconnectionHandler (chance : Chance) (i : Slot) (m : StateMachine) : StateMachine :=
  ({ m.setLink i { m.link i with isConnected := false } with
    noNodesFoundCounter := 0 }.changeState chance .discovery).setLink i ⟨false, false⟩

/-! ## Events -/

inductive Trigger
  | tick (timerMs : U16)
  | connectionSuccessful (i : Slot)
  | handshakeDone (i : Slot)
  | connectionTimeout
  | disconnected (i : Slot)
  | stop
  | start

/-- Something happens, and while the node handles it, this is what `ChangeState` learns. -/
structure Event where
  trigger : Trigger
  chance : Chance

def apply (m : StateMachine) (event : Event) : StateMachine :=
  match event.trigger with
  | .tick timerMs => m.timerTickHandler event.chance timerMs
  | .connectionSuccessful i => m.connectionSuccessfulHandler event.chance i
  | .handshakeDone i => m.handshakeDoneHandler event.chance i
  | .connectionTimeout => m.connectionTimeoutHandler event.chance
  | .disconnected i => m.disconnectionHandler event.chance i
  | .stop => m.disableStateMachine true
  | .start => m.disableStateMachine false

/-- A connection is established if it is not, and a handshake or a connection ends that is
established. -/
def Enabled (m : StateMachine) (event : Event) : Prop :=
  match event.trigger with
  | .connectionSuccessful i => (m.link i).isConnected = false
  | .handshakeDone i => (m.link i).isConnected = true
  | .disconnected i => (m.link i).isConnected = true
  | _ => True

/-! ## What `ChangeState` does -/

section ChangeState

variable {m : StateMachine} {chance : Chance} {newState : DiscoveryState}

theorem changeState_ignored (h : m.currentDiscoveryState = newState ∨ m.stateMachineDisabled) :
    m.changeState chance newState = m := by
  rw [changeState, if_pos h]

theorem changeState_handshake (henabled : m.stateMachineDisabled = false)
    (hne : m.currentDiscoveryState ≠ .handshake) :
    m.changeState chance .handshake =
      { m with currentDiscoveryState := .handshake, nextDiscoveryState := .invalidState } := by
  rw [changeState, if_neg (by simp [henabled, hne])]

theorem changeState_backOff (henabled : m.stateMachineDisabled = false)
    (hne : m.currentDiscoveryState ≠ .backOff) :
    m.changeState chance .backOff =
      { m with
        currentDiscoveryState := .backOff
        currentStateTimeoutMs :=
          chance.random % meshStateTimeoutBackOff + meshStateTimeoutBackOffVariance
        nextDiscoveryState := .discovery } := by
  rw [changeState, if_neg (by simp [henabled, hne])]

theorem changeState_connecting (henabled : m.stateMachineDisabled = false)
    (hne : m.currentDiscoveryState ≠ .connecting) :
    m.changeState chance .connecting =
      { m with
        currentDiscoveryState := .connecting
        currentStateTimeoutMs := 30000
        nextDiscoveryState := .deciding } := by
  rw [changeState, if_neg (by simp [henabled, hne])]

theorem changeState_discoveryHigh (henabled : m.stateMachineDisabled = false)
    (hne : m.currentDiscoveryState ≠ .discoveryHigh) :
    m.changeState chance .discoveryHigh =
      { m with
        currentDiscoveryState := .discoveryHigh
        currentStateTimeoutMs := meshStateTimeoutHigh
        nextDiscoveryState := .deciding } := by
  rw [changeState, if_neg (by simp [henabled, hne])]

theorem changeState_discoveryLow (henabled : m.stateMachineDisabled = false)
    (hne : m.currentDiscoveryState ≠ .discoveryLow) :
    m.changeState chance .discoveryLow =
      { m with
        currentDiscoveryState := .discoveryLow
        currentStateTimeoutMs := meshStateTimeoutLow
        nextDiscoveryState := .deciding } := by
  rw [changeState, if_neg (by simp [henabled, hne])]

/-- However long no nodes have been found, discovery ends in the high state. -/
theorem changeState_discovery (henabled : m.stateMachineDisabled = false)
    (hne : m.currentDiscoveryState ≠ .discovery) :
    m.changeState chance .discovery =
      { m with
        currentDiscoveryState := .discoveryHigh
        currentStateTimeoutMs := meshStateTimeoutHigh
        nextDiscoveryState := .deciding } := by
  rw [changeState, if_neg (by simp [henabled, hne])]
  set entered : StateMachine :=
    { m with currentDiscoveryState := .discovery, nextDiscoveryState := .invalidState }
  have henabled' : entered.stateMachineDisabled = false := henabled
  have hne' : ∀ state, state ≠ .discovery → entered.currentDiscoveryState ≠ state :=
    fun state hstate => hstate.symm
  simp only
  split_ifs
  · rw [changeState_discoveryHigh henabled' (hne' _ (by decide))]
    exact changeState_ignored (Or.inl rfl)
  · rw [changeState_discoveryLow henabled' (hne' _ (by decide))]
    exact changeState_discoveryHigh henabled' (by simp)

/-- A decision leads to a state with a timeout, whatever it is. -/
theorem changeState_deciding (henabled : m.stateMachineDisabled = false)
    (hne : m.currentDiscoveryState ≠ .deciding) :
    ∃ state timeout next counter, m.changeState chance .deciding =
      { m with
        currentDiscoveryState := state
        currentStateTimeoutMs := timeout
        nextDiscoveryState := next
        noNodesFoundCounter := counter } ∧
      ((state, next) = (.backOff, .discovery) ∨ (state, next) = (.connecting, .deciding) ∨
        (state, next) = (.discoveryHigh, .deciding)) := by
  rw [changeState, if_neg (by simp [henabled, hne])]
  simp only
  cases chance.decision with
  | noNodesFound =>
      exact ⟨_, _, _, _, changeState_backOff henabled (by simp), Or.inl rfl⟩
  | connectAsMaster =>
      refine ⟨.connecting, 30000, .deciding, 0, ?_, Or.inr (Or.inl rfl)⟩
      exact congrArg (fun m : StateMachine => { m with noNodesFoundCounter := 0 })
        (changeState_connecting
          (m := { m with currentDiscoveryState := .deciding, nextDiscoveryState := .invalidState })
          henabled (by simp))
  | connectAsSlave =>
      exact ⟨_, _, _, _, changeState_discovery henabled (by simp), Or.inr (Or.inr rfl)⟩

end ChangeState

/-! ## Who leads on -/

/-- The link is established, and its handshake is not done. -/
def Handshaking (m : StateMachine) (i : Slot) : Prop :=
  (m.link i).isConnected = true ∧ (m.link i).handshakeDone = false

/-- A timeout is armed, or a handshake goes on. -/
def LeadsOn (m : StateMachine) : Prop :=
  m.nextDiscoveryState ≠ .invalidState ∨ ∃ i, m.Handshaking i

/-- The state machine leads on, unless it has been stopped or discovery has been switched off. -/
def Unwedged (m : StateMachine) : Prop :=
  m.stateMachineDisabled = false → m.currentDiscoveryState ≠ .discoveryOff → m.LeadsOn

/-- The node does not miss the end of its last handshake: while it is stopped in HANDSHAKE,
neither that handshake nor its connection ends. -/
def May (m : StateMachine) (event : Event) : Prop :=
  match event.trigger with
  | .handshakeDone i | .disconnected i =>
      m.stateMachineDisabled = true → m.currentDiscoveryState = .handshake →
        ∃ j ≠ i, m.Handshaking j
  | _ => True

/-- The state that the timeout of a state leads to. -/
def armed : DiscoveryState → DiscoveryState
  | .discoveryHigh => .deciding
  | .connecting => .deciding
  | .backOff => .discovery
  | _ => .invalidState

/-- Between two events the node is in a state with a timeout, or it is in HANDSHAKE and a
handshake goes on. -/
structure Resting (m : StateMachine) : Prop where
  state : m.currentDiscoveryState ∈
    [DiscoveryState.discoveryHigh, .connecting, .backOff, .handshake]
  next : m.nextDiscoveryState = armed m.currentDiscoveryState
  handshaking : m.currentDiscoveryState = .handshake → ∃ i, m.Handshaking i
  closed : ∀ i, (m.link i).isConnected = false → (m.link i).handshakeDone = false

namespace Resting

variable {m : StateMachine} {chance : Chance} {event : Event}

theorem ne_of_not_mem (h : Resting m) {state : DiscoveryState}
    (hstate : state ∉ [DiscoveryState.discoveryHigh, .connecting, .backOff, .handshake]) :
    m.currentDiscoveryState ≠ state := by
  rintro rfl
  exact hstate h.state

theorem leadsOn (h : Resting m) : m.LeadsOn := by
  by_cases hhandshake : m.currentDiscoveryState = .handshake
  · exact Or.inr (h.handshaking hhandshake)
  · have hstate := h.state
    have hnext := h.next
    simp only [List.mem_cons, List.not_mem_nil, or_false] at hstate
    left
    rcases hstate with hstate | hstate | hstate | hstate
    · rw [hnext, hstate]
      decide
    · rw [hnext, hstate]
      decide
    · rw [hnext, hstate]
      decide
    · exact absurd hstate hhandshake

/-- The states that `ChangeState` is called with, apart from HANDSHAKE, lead to a state with a
timeout. -/
theorem of_discovery (henabled : m.stateMachineDisabled = false)
    (hne : m.currentDiscoveryState ≠ .discovery)
    (hclosed : ∀ i, (m.link i).isConnected = false → (m.link i).handshakeDone = false) :
    Resting (m.changeState chance .discovery) := by
  rw [changeState_discovery henabled hne]
  exact ⟨by simp, rfl, fun hstate => absurd hstate (by simp), hclosed⟩

theorem of_deciding (henabled : m.stateMachineDisabled = false)
    (hne : m.currentDiscoveryState ≠ .deciding)
    (hclosed : ∀ i, (m.link i).isConnected = false → (m.link i).handshakeDone = false) :
    Resting (m.changeState chance .deciding) := by
  obtain ⟨state, timeout, next, counter, heq, hcases⟩ :=
    @changeState_deciding m chance henabled hne
  rw [heq]
  rcases hcases with hcase | hcase | hcase <;> obtain ⟨rfl, rfl⟩ := Prod.mk.inj hcase
  · exact ⟨by simp, rfl, fun hstate => absurd hstate (by simp), hclosed⟩
  · exact ⟨by simp, rfl, fun hstate => absurd hstate (by simp), hclosed⟩
  · exact ⟨by simp, rfl, fun hstate => absurd hstate (by simp), hclosed⟩

theorem tick (h : Resting m) (timerMs : U16) : Resting (m.timerTickHandler chance timerMs) := by
  unfold timerTickHandler
  set ticked : StateMachine :=
    { m with currentStateTimeoutMs := m.currentStateTimeoutMs - timerMs.setWidth 32 }
  have hticked : Resting ticked := ⟨h.state, h.next, h.handshaking, h.closed⟩
  simp only
  split_ifs with hfires
  · cases hdisabled : ticked.stateMachineDisabled with
    | true =>
        rw [changeState_ignored (Or.inr hdisabled)]
        exact hticked
    | false =>
        have hnext := hticked.next
        have hstate := hticked.state
        simp only [List.mem_cons, List.not_mem_nil, or_false] at hstate
        -- the timeout of the state has been reached
        rcases hstate with hstate | hstate | hstate | hstate
        · rw [hnext, hstate]
          exact of_deciding hdisabled (hticked.ne_of_not_mem (by simp)) hticked.closed
        · rw [hnext, hstate]
          exact of_deciding hdisabled (hticked.ne_of_not_mem (by simp)) hticked.closed
        · rw [hnext, hstate]
          exact of_discovery hdisabled (hticked.ne_of_not_mem (by simp)) hticked.closed
        · rw [hnext, hstate] at hfires
          exact absurd rfl hfires.1
  · exact hticked

theorem setLink_closed (h : Resting m) {i : Slot} {link : LinkState}
    (hlink : link.isConnected = false → link.handshakeDone = false) (j : Slot)
    (hclosed : ((m.setLink i link).link j).isConnected = false) :
    ((m.setLink i link).link j).handshakeDone = false := by
  by_cases hj : j = i
  · subst hj
    simp only [setLink, Function.update_self] at hclosed ⊢
    exact hlink hclosed
  · simp only [setLink, Function.update_of_ne hj] at hclosed ⊢
    exact h.closed j hclosed

theorem connectionSuccessful (h : Resting m) {i : Slot} (hfree : (m.link i).isConnected = false) :
    Resting (m.connectionSuccessfulHandler chance i) := by
  unfold connectionSuccessfulHandler
  set connected := m.setLink i { m.link i with isConnected := true }
  have hhandshaking : ∃ j, connected.Handshaking j := by
    refine ⟨i, ?_⟩
    simp only [Handshaking, connected, setLink, Function.update_self]
    exact ⟨trivial, h.closed i hfree⟩
  have hclosed : ∀ j, (connected.link j).isConnected = false →
      (connected.link j).handshakeDone = false :=
    h.setLink_closed fun hfalse => absurd hfalse (by simp)
  have hkept : Resting connected := ⟨h.state, h.next, fun _ => hhandshaking, hclosed⟩
  by_cases hignored : connected.currentDiscoveryState = .handshake ∨
      connected.stateMachineDisabled = true
  · rw [changeState_ignored hignored]
    exact hkept
  · rw [not_or, Bool.not_eq_true] at hignored
    rw [changeState_handshake hignored.2 hignored.1]
    exact ⟨by simp, rfl, fun _ => hhandshaking, hclosed⟩

theorem of_same (h : Resting m) {m' : StateMachine}
    (hstate : m'.currentDiscoveryState = m.currentDiscoveryState)
    (hnext : m'.nextDiscoveryState = m.nextDiscoveryState) (hlink : m'.link = m.link) :
    Resting m' := by
  refine ⟨hstate ▸ h.state, by rw [hnext, hstate, h.next], ?_, by rw [hlink]; exact h.closed⟩
  unfold Handshaking
  rw [hstate, hlink]
  exact h.handshaking

/-- The end of a handshake or of a connection, if it is not the one that the node waits for and
misses. -/
theorem ended (h : Resting m) {i : Slot} {link : LinkState}
    (hmay : m.stateMachineDisabled = true → m.currentDiscoveryState = .handshake →
      ∃ j ≠ i, m.Handshaking j)
    (hlink : link.isConnected = false → link.handshakeDone = false)
    (hdisabled : m.stateMachineDisabled = true) : Resting (m.setLink i link) := by
  refine ⟨h.state, h.next, ?_, h.setLink_closed hlink⟩
  intro hstate
  obtain ⟨j, hj, hhandshaking⟩ := hmay hdisabled hstate
  refine ⟨j, ?_⟩
  simp only [Handshaking, setLink, Function.update_of_ne hj]
  exact hhandshaking

theorem handshakeDone (h : Resting m) {i : Slot} (hconnected : (m.link i).isConnected = true)
    (hmay : m.stateMachineDisabled = true → m.currentDiscoveryState = .handshake →
      ∃ j ≠ i, m.Handshaking j) : Resting (m.handshakeDoneHandler chance i) := by
  unfold handshakeDoneHandler
  set done : LinkState := { m.link i with handshakeDone := true }
  have hlink : done.isConnected = false → done.handshakeDone = false := by
    intro hfalse
    exact absurd (hconnected.symm.trans hfalse) (by simp)
  cases hdisabled : m.stateMachineDisabled with
  | true =>
      rw [changeState_ignored (Or.inr (show (m.setLink i done).stateMachineDisabled from hdisabled))]
      exact h.ended hmay hlink hdisabled
  | false =>
      exact of_discovery hdisabled (h.ne_of_not_mem (by simp)) (h.setLink_closed hlink)

theorem disconnected (h : Resting m) {i : Slot}
    (hmay : m.stateMachineDisabled = true → m.currentDiscoveryState = .handshake →
      ∃ j ≠ i, m.Handshaking j) : Resting (m.disconnectionHandler chance i) := by
  set lost : StateMachine :=
    { m.setLink i { m.link i with isConnected := false } with noNodesFoundCounter := 0 }
  have hlink : ∀ state timeout next, ({ lost with
      currentDiscoveryState := state
      currentStateTimeoutMs := timeout
      nextDiscoveryState := next }.setLink i ⟨false, false⟩).link =
        (m.setLink i ⟨false, false⟩).link :=
    fun _ _ _ => Function.update_idem ..
  show Resting ((lost.changeState chance .discovery).setLink i ⟨false, false⟩)
  cases hdisabled : m.stateMachineDisabled with
  | true =>
      rw [changeState_ignored (Or.inr (show lost.stateMachineDisabled from hdisabled))]
      exact (h.ended hmay (fun _ => rfl) hdisabled).of_same rfl rfl (hlink _ _ _)
  | false =>
      rw [changeState_discovery (m := lost) hdisabled (h.ne_of_not_mem (by simp))]
      refine ⟨by simp [setLink], rfl, fun hstate => absurd hstate (by simp [setLink]), ?_⟩
      intro j hj
      rw [hlink] at hj ⊢
      exact h.setLink_closed (fun _ => rfl) j hj

/-- The step lemma. -/
theorem step (h : Resting m) (henabled : m.Enabled event) (hmay : m.May event) :
    Resting (m.apply event) := by
  obtain ⟨trigger, chance⟩ := event
  cases trigger with
  | tick timerMs => exact h.tick timerMs
  | connectionSuccessful i => exact h.connectionSuccessful henabled
  | handshakeDone i => exact h.handshakeDone henabled hmay
  | connectionTimeout =>
      show Resting (m.changeState chance .discovery)
      cases hdisabled : m.stateMachineDisabled with
      | true =>
          rw [changeState_ignored (Or.inr hdisabled)]
          exact h
      | false => exact of_discovery hdisabled (h.ne_of_not_mem (by simp)) h.closed
  | disconnected i => exact h.disconnected hmay
  | stop => exact h.of_same rfl rfl rfl
  | start => exact h.of_same rfl rfl rfl

/-- The run lemma. -/
theorem run {m' : StateMachine} {events : List Event} (h : Resting m)
    (hrun : Run apply (fun m event => m.Enabled event ∧ m.May event) m events m') : Resting m' :=
  hrun.preserves (fun _ _ hresting hallowed => hresting.step hallowed.1 hallowed.2) h

theorem not_unwedged {m' : StateMachine} (hstate : m'.currentDiscoveryState = .handshake)
    (hnext : m'.nextDiscoveryState = .invalidState) (hidle : ∀ j, ¬ m'.Handshaking j) :
    ¬ (m'.apply ⟨.start, chance⟩).Unwedged := by
  intro hunwedged
  have hon : m'.currentDiscoveryState ≠ .discoveryOff := by
    rw [hstate]
    decide
  rcases hunwedged rfl hon with harmed | ⟨j, hj⟩
  · exact harmed hnext
  · exact hidle j hj

theorem idle_setLink {i : Slot} {link : LinkState}
    (hlast : ¬ ∃ j ≠ i, m.Handshaking j)
    (hlink : link.isConnected = true → link.handshakeDone = true) (j : Slot) :
    ¬ (m.setLink i link).Handshaking j := by
  rintro ⟨hconnected, hundone⟩
  by_cases hj : j = i
  · subst hj
    simp only [setLink, Function.update_self] at hconnected hundone
    exact absurd (hundone.symm.trans (hlink hconnected)) (by simp)
  · simp only [setLink, Function.update_of_ne hj] at hconnected hundone
    exact hlast ⟨j, hj, hconnected, hundone⟩

/-- A node that has missed the end of its last handshake is wedged when it is started. -/
theorem wedged (h : Resting m) (hmay : ¬ m.May event) :
    ¬ ((m.apply event).apply ⟨.start, chance⟩).Unwedged := by
  obtain ⟨trigger, chance'⟩ := event
  have hnext : m.currentDiscoveryState = .handshake → m.nextDiscoveryState = .invalidState := by
    intro hstate
    rw [h.next, hstate]
    rfl
  cases trigger with
  | handshakeDone i =>
      simp only [May, Classical.not_imp] at hmay
      obtain ⟨hdisabled, hstate, hlast⟩ := hmay
      have hmissed : m.apply ⟨.handshakeDone i, chance'⟩ =
          m.setLink i { m.link i with handshakeDone := true } :=
        changeState_ignored (Or.inr hdisabled)
      rw [hmissed]
      exact not_unwedged hstate (hnext hstate) (idle_setLink hlast fun _ => rfl)
  | disconnected i =>
      simp only [May, Classical.not_imp] at hmay
      obtain ⟨hdisabled, hstate, hlast⟩ := hmay
      set lost : StateMachine :=
        { m.setLink i { m.link i with isConnected := false } with noNodesFoundCounter := 0 }
      have hmissed : m.apply ⟨.disconnected i, chance'⟩ = lost.setLink i ⟨false, false⟩ :=
        congrArg (fun m : StateMachine => m.setLink i ⟨false, false⟩)
          (changeState_ignored (m := lost) (Or.inr hdisabled))
      have hlast' : ¬ ∃ j ≠ i, lost.Handshaking j := by
        rintro ⟨j, hj, hhandshaking⟩
        simp only [Handshaking, lost, setLink, Function.update_of_ne hj] at hhandshaking
        exact hlast ⟨j, hj, hhandshaking⟩
      rw [hmissed]
      exact not_unwedged hstate (hnext hstate) (idle_setLink hlast' fun hfalse => hfalse)
  | tick | connectionSuccessful | connectionTimeout | stop | start => exact absurd trivial hmay

end Resting

theorem resting_loaded (chance : Chance) :
    Resting (constructed.configurationLoadedHandler chance) :=
  Resting.of_discovery rfl (by decide) fun _ _ => rfl

/-- **Discovery does not wedge.**  In every state of a run after the configuration has been
loaded, a timeout is armed or a handshake goes on, unless the state machine is stopped, as long
as the node does not miss the end of its last handshake.  If it does, it is wedged when it is
started. -/
theorem discovery_unwedged {m : StateMachine} {chance : Chance} {events : List Event}
    (hrun : Run apply (fun m event => m.Enabled event ∧ m.May event)
      (constructed.configurationLoadedHandler chance) events m) :
    m.Unwedged ∧ ∀ event chance, ¬ m.May event →
      ¬ ((m.apply event).apply ⟨.start, chance⟩).Unwedged := by
  have hresting := (resting_loaded chance).run hrun
  exact ⟨fun _ _ => hresting.leadsOn, fun event chance hmay => hresting.wedged hmay⟩

instance (m : StateMachine) (event : Event) : Decidable (m.Enabled event) := by
  unfold Enabled
  split <;> infer_instance

instance (m : StateMachine) (i : Slot) : Decidable (m.Handshaking i) :=
  inferInstanceAs (Decidable (_ ∧ _))

instance (m : StateMachine) (event : Event) : Decidable (m.May event) := by
  unfold May
  split <;> infer_instance

instance (m : StateMachine) : Decidable m.Unwedged :=
  inferInstanceAs (Decidable (_ → _ → (_ ∨ _)))

/-- An event that needs no decision. -/
def Trigger.event (trigger : Trigger) : Event := ⟨trigger, ⟨.noNodesFound, 0⟩⟩

/-- A connection is established, its handshake is done, and the state machine goes on. -/
theorem discovery_unwedged_handshake :
    let events := [Trigger.event (.connectionSuccessful inConnection),
      Trigger.event (.handshakeDone inConnection)]
    (events.foldl apply
      (constructed.configurationLoadedHandler ⟨.noNodesFound, 0⟩)).Unwedged := by
  intro events
  have hreplays : Replays apply (fun m event => m.Enabled event ∧ m.May event)
      (constructed.configurationLoadedHandler ⟨.noNodesFound, 0⟩) events := by decide +kernel
  exact (discovery_unwedged (Run.of_replays hreplays)).1

/-- The node is stopped during a handshake, and started after it. -/
theorem discovery_wedges :
    ∃ events m, Run apply Enabled (constructed.configurationLoadedHandler ⟨.noNodesFound, 0⟩)
      events m ∧ ¬ m.Unwedged := by
  refine ⟨_, _, Run.of_replays (?_ : Replays apply Enabled _
    [Trigger.event (.connectionSuccessful inConnection), Trigger.event .stop,
      Trigger.event (.handshakeDone inConnection), Trigger.event .start]), ?_⟩
  · decide +kernel
  · decide +kernel

/-! ## The connections of the node -/

theorem changeState_link {m : StateMachine} {chance : Chance} {newState : DiscoveryState}
    (hstate : newState = .handshake ∨ newState = .discovery) :
    (m.changeState chance newState).link = m.link := by
  by_cases hignored : m.currentDiscoveryState = newState ∨ m.stateMachineDisabled = true
  · rw [changeState_ignored hignored]
  · rw [not_or, Bool.not_eq_true] at hignored
    rcases hstate with rfl | rfl
    · rw [changeState_handshake hignored.2 hignored.1]
    · rw [changeState_discovery hignored.2 hignored.1]

end StateMachine

/-- What the discovery reads of the connections of a node. -/
def Node.linkState (node : Node) (i : Slot) : LinkState :=
  ⟨(node.connections i).isConnected, (node.connections i).handshakeDone⟩

namespace Node

open StateMachine

variable {node : Node} {m : StateMachine} {i : Slot} {chance : Chance}

theorem linkState_setConnection (c : Connection) :
    (node.setConnection i c).linkState =
      Function.update node.linkState i ⟨c.isConnected, c.handshakeDone⟩ := by
  funext j
  by_cases hj : j = i
  · subst hj
    simp [linkState]
  · simp [linkState, hj]

/-- The events are what the handlers of the node do to its connections. -/
theorem linkState_connected (h : m.link = node.linkState) :
    (m.apply ⟨.connectionSuccessful i, chance⟩).link =
      (node.connectionSuccessfulHandler i).1.linkState := by
  show (changeState _ _ _).link = _
  rw [changeState_link (Or.inl rfl), connectionSuccessfulHandler, linkState_setConnection, setLink,
    h]
  rfl

theorem linkState_disconnected (h : m.link = node.linkState) (reason : U8)
    (generated : ClusterId) : (m.apply ⟨.disconnected i, chance⟩).link =
      (node.disconnectionHandler i reason generated).1.linkState := by
  obtain ⟨hconnected, hdone⟩ := node.disconnected_answer (i := i) reason generated
  have hlink : (m.apply ⟨.disconnected i, chance⟩).link =
      Function.update m.link i ⟨false, false⟩ := by
    show Function.update (changeState _ _ _).link i _ = _
    rw [changeState_link (Or.inr rfl)]
    exact Function.update_idem ..
  rw [hlink, h]
  funext j
  by_cases hj : j = i
  · subst hj
    rw [Function.update_self, linkState, hconnected, hdone]
  · rw [Function.update_of_ne hj, linkState, linkState, node.disconnected_other hj]

theorem linkState_received (h : m.link = node.linkState) (packet : Transport.ConnectionPacket) :
    (node.receivePacketHandler i packet).1.linkState = m.link ∨
      (node.receivePacketHandler i packet).1.linkState =
        (m.apply ⟨.handshakeDone i, chance⟩).link := by
  have hdone : (m.apply ⟨.handshakeDone i, chance⟩).link =
      Function.update m.link i { m.link i with handshakeDone := true } := by
    show (changeState _ _ _).link = _
    rw [changeState_link (Or.inr rfl)]
    rfl
  obtain ⟨hconnected, hcases⟩ := node.receivePacketHandler_self (i := i) packet
  rw [hdone, h]
  refine hcases.imp ?_ ?_
  · intro hsame
    funext j
    by_cases hj : j = i
    · subst hj
      rw [linkState, linkState, hconnected, hsame]
    · rw [linkState, linkState, node.receivePacketHandler_other hj]
  · intro htrue
    funext j
    by_cases hj : j = i
    · subst hj
      rw [Function.update_self, linkState, hconnected, htrue]
      rfl
    · rw [Function.update_of_ne hj, linkState, linkState, node.receivePacketHandler_other hj]

end Node

end FruityMesh.Mesh
