import FruityMesh.Mesh.Accounting

/-!
# The slots of the connection manager

`ConnectionManager` counts its free connections and remembers the outgoing connection that it
is setting up.  The stack knows for itself whether an attempt to connect is under way, and
`GAPController` keeps a flag about it.

The counts are right as long as nobody connects to us during such an attempt
(`slots_accounted`): `ConnectionSuccessfulHandler` forgets the pending connection whatever the
role is, so that the result of the attempt then meets a null pointer.
-/

namespace FruityMesh.Mesh

open Transport Runs

structure ConnectionManager where
  node : Node
  freeInConnections : U8
  freeOutConnections : U8
  /-- An outgoing connection that is being set up, or the null pointer. -/
  pendingConnection : Option Slot
  /-- The flag of `GAPController`. -/
  currentlyConnecting : Bool
  /-- The stack is trying to connect to a peripheral. -/
  outstanding : Bool

/-- A call of `ConnectAsMaster`, or a GAP event. -/
inductive GapEvent
  | connectAsMaster (writeCharacteristicHandle : U16)
  | connectedPeripheral
  | connectedCentral
  | timeout
  | disconnected (i : Slot) (reason : U8) (generated : ClusterId)

namespace ConnectionManager

def isConnected (cm : ConnectionManager) (i : Slot) : Bool := (cm.node.connections i).isConnected

/-- `GetFreeOutConnection`. -/
def getFreeOutConnection (cm : ConnectionManager) : Option Slot :=
  (List.finRange meshMaxConnections).find? fun i => i ≠ inConnection ∧ cm.isConnected i = false

/-- `GAPController::connectToPeripheral`. -/
def connectToPeripheral (cm : ConnectionManager) : ConnectionManager :=
  if cm.currentlyConnecting then cm
  else { cm with currentlyConnecting := true, outstanding := true }

/-- `ConnectAsMaster`; nothing if it follows a null pointer. -/
def connectAsMaster (cm : ConnectionManager) (writeCharacteristicHandle : U16) :
    Option ConnectionManager :=
  if cm.freeOutConnections = 0 ∨ cm.pendingConnection ≠ none then some cm
  else
    cm.getFreeOutConnection.map fun i =>
      { cm with
        freeOutConnections := cm.freeOutConnections - 1
        pendingConnection := some i
        node := cm.node.connectAsMaster i writeCharacteristicHandle }.connectToPeripheral

/-- `ConnectionSuccessfulHandler`, where we are the peripheral. -/
def connectedPeripheral (cm : ConnectionManager) : ConnectionManager :=
  { cm with
    currentlyConnecting := false
    freeInConnections := cm.freeInConnections - 1
    node := (cm.node.connectionSuccessfulHandler inConnection).1
    pendingConnection := none }

/-- `ConnectionSuccessfulHandler`, where we are the central; nothing if it follows a null
pointer. -/
def connectedCentral (cm : ConnectionManager) : Option ConnectionManager :=
  cm.pendingConnection.map fun i =>
    { cm with
      currentlyConnecting := false
      outstanding := false
      node := (cm.node.connectionSuccessfulHandler i).1
      pendingConnection := none }

/-- `ConnectionTimeoutHandler`. -/
def timeout (cm : ConnectionManager) : ConnectionManager :=
  { cm with
    currentlyConnecting := false
    outstanding := false
    pendingConnection := none
    freeOutConnections := cm.freeOutConnections + 1 }

/-- `DisconnectionHandler`. -/
def disconnected (cm : ConnectionManager) (i : Slot) (reason : U8) (generated : ClusterId) :
    ConnectionManager :=
  let counted :=
    if i = inConnection then { cm with freeInConnections := cm.freeInConnections + 1 }
    else { cm with freeOutConnections := cm.freeOutConnections + 1 }
  { counted with node := (cm.node.disconnectionHandler i reason generated).1 }

def handle (cm : ConnectionManager) : GapEvent → Option ConnectionManager
  | .connectAsMaster handle => cm.connectAsMaster handle
  | .connectedPeripheral => some cm.connectedPeripheral
  | .connectedCentral => cm.connectedCentral
  | .timeout => some cm.timeout
  | .disconnected i reason generated => some (cm.disconnected i reason generated)

/-- What the stack may deliver. -/
def Delivers (cm : ConnectionManager) : GapEvent → Prop
  | .connectAsMaster _ => True
  | .connectedPeripheral => cm.isConnected inConnection = false
  | .connectedCentral => cm.outstanding = true
  | .timeout => cm.outstanding = true
  | .disconnected i _ _ => cm.isConnected i = true

/-- Nobody connects to us while we try to connect to somebody. -/
def Separate (cm : ConnectionManager) : GapEvent → Prop
  | .connectedPeripheral => cm.outstanding = false
  | .connectAsMaster _ => True
  | .connectedCentral => True
  | .timeout => True
  | .disconnected _ _ _ => True

/-- The outgoing connections that are connected. -/
def outConnected (cm : ConnectionManager) : Finset Slot :=
  Finset.univ.filter fun i => i ≠ inConnection ∧ cm.isConnected i = true

/-- The accounts of the slots. -/
structure Accounts (cm : ConnectionManager) : Prop where
  freeIn : cm.freeInConnections.toNat + (if cm.isConnected inConnection then 1 else 0) = 1
  freeOut : cm.freeOutConnections.toNat + cm.outConnected.card + (if cm.outstanding then 1 else 0) =
    meshMaxOutConnections
  pending : cm.outstanding = true →
    ∃ i, cm.pendingConnection = some i ∧ i ≠ inConnection ∧ cm.isConnected i = false

/-- A manager that has just been constructed. -/
structure Constructed (cm : ConnectionManager) : Prop where
  isConnected : ∀ i, cm.isConnected i = false
  freeInConnections : cm.freeInConnections.toNat = 1
  freeOutConnections : cm.freeOutConnections.toNat = meshMaxOutConnections
  pendingConnection : cm.pendingConnection = none
  currentlyConnecting : cm.currentlyConnecting = false
  outstanding : cm.outstanding = false

/-! ## Which connections are connected -/

section Connected

variable (node : Node) (i k : Slot)

theorem isConnected_connectAsMaster (handle : U16) (h : (node.connections i).isConnected = false) :
    ((node.connectAsMaster i handle).connections k).isConnected =
      (node.connections k).isConnected := by
  unfold Node.connectAsMaster
  rw [Node.setConnection_connections]
  split_ifs with hk
  · rw [hk, h]
    rfl
  · rfl

theorem isConnected_connectionSuccessfulHandler :
    ((node.connectionSuccessfulHandler i).1.connections k).isConnected =
      (decide (k = i) || (node.connections k).isConnected) := by
  by_cases hk : k = i
  · rw [hk, node.connected_answer.1, decide_eq_true rfl, Bool.true_or]
  · rw [node.effect_connected.other k hk, decide_eq_false hk, Bool.false_or]

theorem isConnected_disconnectionHandler (reason : U8) (generated : ClusterId) :
    ((node.disconnectionHandler i reason generated).1.connections k).isConnected =
      (decide (k ≠ i) && (node.connections k).isConnected) := by
  by_cases hk : k = i
  · rw [hk, (node.disconnected_answer reason generated).1, decide_eq_false (not_not_intro rfl),
      Bool.false_and]
  · rw [(node.disconnectionHandler_counts i reason generated).2.2.2 k hk, decide_eq_true hk,
      Bool.true_and]

end Connected

variable {cm cm' : ConnectionManager} {i : Slot}

theorem mem_outConnected :
    i ∈ cm.outConnected ↔ i ≠ inConnection ∧ cm.isConnected i = true := by
  simp [outConnected]

theorem getFreeOutConnection_eq_some (h : cm.getFreeOutConnection = some i) :
    i ≠ inConnection ∧ cm.isConnected i = false := by
  simpa using List.find?_some h

/-- All outgoing connections are connected if there is no free one. -/
theorem getFreeOutConnection_eq_none (h : cm.getFreeOutConnection = none) :
    cm.outConnected.card = meshMaxOutConnections := by
  have hall : cm.outConnected = Finset.univ.erase inConnection := by
    ext k
    rw [mem_outConnected, Finset.mem_erase]
    refine and_congr_right fun hk => iff_of_true ?_ (Finset.mem_univ k)
    have hbusy := List.find?_eq_none.mp h k (List.mem_finRange k)
    simpa [hk] using hbusy
  rw [hall]
  decide

/-- The accounts, and what the flag and the pointer are while nothing is being set up. -/
structure InOrder (cm : ConnectionManager) : Prop extends Accounts cm where
  idle : cm.outstanding = false → cm.pendingConnection = none
  flag : cm.currentlyConnecting = cm.outstanding

theorem Constructed.inOrder (h : Constructed cm) : InOrder cm where
  freeIn := by rw [h.freeInConnections, h.isConnected]; rfl
  freeOut := by
    have hnone : cm.outConnected = ∅ := by
      ext k
      simp [mem_outConnected, h.isConnected k]
    rw [h.freeOutConnections, hnone, h.outstanding]
    rfl
  pending := fun houtstanding => absurd h.outstanding (ne_false_of_eq_true houtstanding)
  idle := fun _ => h.pendingConnection
  flag := h.currentlyConnecting.trans h.outstanding.symm

/-! ## The handlers -/

theorem InOrder.connectAsMaster (h : InOrder cm) (handle : U16) :
    ∃ cm', cm.connectAsMaster handle = some cm' ∧ InOrder cm' := by
  unfold ConnectionManager.connectAsMaster
  by_cases hbusy : cm.freeOutConnections = 0 ∨ cm.pendingConnection ≠ none
  · exact ⟨cm, if_pos hbusy, h⟩
  · rw [if_neg hbusy]
    rw [not_or, not_not] at hbusy
    have houtstanding : cm.outstanding = false := by
      apply Bool.eq_false_of_not_eq_true
      intro htrue
      obtain ⟨i, hi, _⟩ := h.pending htrue
      exact absurd (hbusy.2.symm.trans hi) (by simp)
    have hfreeOut := h.freeOut
    rw [houtstanding] at hfreeOut
    -- the count says that a connection is free, so the search finds one
    cases hfree : cm.getFreeOutConnection with
    | none =>
        have hfull := getFreeOutConnection_eq_none hfree
        have hnone : cm.freeOutConnections.toNat ≠ 0 := by
          intro hzero
          exact hbusy.1 (BitVec.eq_of_toNat_eq hzero)
        simp at hfreeOut
        omega
    | some i =>
        obtain ⟨hi, hunconnected⟩ := getFreeOutConnection_eq_some hfree
        have hflag : cm.currentlyConnecting = false := h.flag.trans houtstanding
        let cm' : ConnectionManager :=
          { cm with
            freeOutConnections := cm.freeOutConnections - 1
            pendingConnection := some i
            node := cm.node.connectAsMaster i handle
            currentlyConnecting := true
            outstanding := true }
        have hsame : ∀ k, cm'.isConnected k = cm.isConnected k :=
          fun k => isConnected_connectAsMaster cm.node i k handle hunconnected
        have hset : cm'.outConnected = cm.outConnected := by
          ext k
          rw [mem_outConnected, mem_outConnected, hsame]
        refine ⟨cm', ?_, ⟨?_, ?_, ?_⟩, ?_, rfl⟩
        · simp [connectToPeripheral, hflag, cm']
        · rw [hsame]
          exact h.freeIn
        · have hpos : cm.freeOutConnections ≠ 0 := hbusy.1
          have hless : (cm.freeOutConnections - 1).toNat + 1 = cm.freeOutConnections.toNat := by
            bv_omega
          rw [hset]
          show (cm.freeOutConnections - 1).toNat + cm.outConnected.card + 1 = meshMaxOutConnections
          simp only [Bool.false_eq_true, if_false] at hfreeOut
          omega
        · exact fun _ => ⟨i, rfl, hi, (hsame i).trans hunconnected⟩
        · exact fun hfalse : true = false => absurd hfalse (by decide)

theorem InOrder.connectedPeripheral (h : InOrder cm) (hfree : cm.isConnected inConnection = false)
    (hseparate : cm.outstanding = false) : InOrder cm.connectedPeripheral := by
  have hconnected : ∀ k, cm.connectedPeripheral.isConnected k =
      (decide (k = inConnection) || cm.isConnected k) :=
    fun k => isConnected_connectionSuccessfulHandler cm.node inConnection k
  -- without an attempt under way, the pending connection that is forgotten is none
  have hset : cm.connectedPeripheral.outConnected = cm.outConnected := by
    ext k
    rw [mem_outConnected, mem_outConnected]
    refine and_congr_right fun hk => ?_
    rw [hconnected, decide_eq_false hk, Bool.false_or]
  refine ⟨⟨?_, ?_, ?_⟩, fun _ => rfl, hseparate.symm⟩
  · have hfreeIn := h.freeIn
    rw [hfree] at hfreeIn
    simp only [Bool.false_eq_true, if_false, add_zero] at hfreeIn
    rw [hconnected, decide_eq_true rfl, Bool.true_or, if_pos rfl]
    show (cm.freeInConnections - 1).toNat + 1 = 1
    bv_omega
  · rw [hset]
    exact h.freeOut
  · exact fun htrue => absurd hseparate (ne_false_of_eq_true htrue)

theorem InOrder.connectedCentral (h : InOrder cm) (houtstanding : cm.outstanding = true) :
    ∃ cm', cm.connectedCentral = some cm' ∧ InOrder cm' := by
  obtain ⟨i, hpending, hi, hunconnected⟩ := h.pending houtstanding
  let cm' : ConnectionManager :=
    { cm with
      currentlyConnecting := false
      outstanding := false
      node := (cm.node.connectionSuccessfulHandler i).1
      pendingConnection := none }
  have hconnected : ∀ k, cm'.isConnected k = (decide (k = i) || cm.isConnected k) :=
    fun k => isConnected_connectionSuccessfulHandler cm.node i k
  -- the connection was taken for the attempt; now it counts as connected instead
  have hset : cm'.outConnected = insert i cm.outConnected := by
    ext k
    rw [mem_outConnected, Finset.mem_insert, mem_outConnected, hconnected]
    by_cases hk : k = i
    · simp [hk, hi]
    · simp [hk]
  have hnot : i ∉ cm.outConnected := by
    rw [mem_outConnected, hunconnected]
    exact fun hmem => absurd hmem.2 (by decide)
  refine ⟨cm', ?_, ⟨?_, ?_, ?_⟩, fun _ => rfl, rfl⟩
  · unfold ConnectionManager.connectedCentral
    rw [hpending]
    rfl
  · rw [hconnected, decide_eq_false hi.symm, Bool.false_or]
    exact h.freeIn
  · have hfreeOut := h.freeOut
    rw [houtstanding, if_pos rfl] at hfreeOut
    rw [hset, Finset.card_insert_of_notMem hnot]
    show cm.freeOutConnections.toNat + (cm.outConnected.card + 1) + 0 = meshMaxOutConnections
    omega
  · exact fun hfalse : false = true => absurd hfalse (by decide)

theorem InOrder.timeout (h : InOrder cm) (houtstanding : cm.outstanding = true) :
    InOrder cm.timeout := by
  refine ⟨⟨h.freeIn, ?_, fun hfalse : false = true => absurd hfalse (by decide)⟩, fun _ => rfl, rfl⟩
  have hfreeOut := h.freeOut
  rw [houtstanding, if_pos rfl] at hfreeOut
  have hmore : (cm.freeOutConnections + 1).toNat = cm.freeOutConnections.toNat + 1 := by
    unfold meshMaxOutConnections at hfreeOut
    bv_omega
  show (cm.freeOutConnections + 1).toNat + cm.outConnected.card + 0 = meshMaxOutConnections
  omega

/-- What the loss of a connection has nothing to do with. -/
theorem disconnected_frame (cm : ConnectionManager) (i : Slot) (reason : U8)
    (generated : ClusterId) :
    (cm.disconnected i reason generated).pendingConnection = cm.pendingConnection ∧
      (cm.disconnected i reason generated).outstanding = cm.outstanding ∧
      (cm.disconnected i reason generated).currentlyConnecting = cm.currentlyConnecting := by
  unfold ConnectionManager.disconnected
  split_ifs <;> exact ⟨rfl, rfl, rfl⟩

theorem InOrder.disconnected (h : InOrder cm) (hconnected : cm.isConnected i = true) (reason : U8)
    (generated : ClusterId) : InOrder (cm.disconnected i reason generated) := by
  have hclosed : ∀ k, (cm.disconnected i reason generated).isConnected k =
      (decide (k ≠ i) && cm.isConnected k) :=
    fun k => isConnected_disconnectionHandler cm.node i k reason generated
  obtain ⟨hpending, houtstanding, hflag⟩ := disconnected_frame cm i reason generated
  refine ⟨⟨?_, ?_, ?_⟩, ?_, ?_⟩
  · have hfreeIn := h.freeIn
    rw [hclosed]
    by_cases hi : i = inConnection
    · subst hi
      rw [hconnected, if_pos rfl] at hfreeIn
      rw [decide_eq_false (not_not_intro rfl), Bool.false_and]
      have hcount : (cm.disconnected inConnection reason generated).freeInConnections =
          cm.freeInConnections + 1 := rfl
      rw [hcount]
      show (cm.freeInConnections + 1).toNat + 0 = 1
      bv_omega
    · have hcount : (cm.disconnected i reason generated).freeInConnections =
          cm.freeInConnections := by
        unfold ConnectionManager.disconnected
        rw [if_neg hi]
      rw [hcount, decide_eq_true (Ne.symm hi), Bool.true_and]
      exact hfreeIn
  · have hfreeOut := h.freeOut
    rw [houtstanding]
    -- an outgoing connection gives its place back, the incoming one leaves these counts alone
    by_cases hi : i = inConnection
    · have hset : (cm.disconnected i reason generated).outConnected = cm.outConnected := by
        ext k
        rw [mem_outConnected, mem_outConnected, hclosed]
        refine and_congr_right fun hk => ?_
        rw [decide_eq_true (hi ▸ hk), Bool.true_and]
      have hcount : (cm.disconnected i reason generated).freeOutConnections =
          cm.freeOutConnections := by
        unfold ConnectionManager.disconnected
        rw [if_pos hi]
      rw [hset, hcount]
      exact hfreeOut
    · have hset : (cm.disconnected i reason generated).outConnected = cm.outConnected.erase i := by
        ext k
        rw [mem_outConnected, Finset.mem_erase, mem_outConnected, hclosed]
        by_cases hk : k = i <;> simp [hk]
      have hmem : i ∈ cm.outConnected := mem_outConnected.mpr ⟨hi, hconnected⟩
      have hcount : (cm.disconnected i reason generated).freeOutConnections =
          cm.freeOutConnections + 1 := by
        unfold ConnectionManager.disconnected
        rw [if_neg hi]
      have hpos := Finset.card_pos.mpr ⟨i, hmem⟩
      have hmore : (cm.freeOutConnections + 1).toNat = cm.freeOutConnections.toNat + 1 := by
        unfold meshMaxOutConnections at hfreeOut
        bv_omega
      rw [hset, hcount, Finset.card_erase_of_mem hmem, hmore]
      omega
  · rw [houtstanding, hpending]
    intro htrue
    obtain ⟨k, hk, hout, hunconnected⟩ := h.pending htrue
    exact ⟨k, hk, hout, by rw [hclosed, hunconnected, Bool.and_false]⟩
  · rw [houtstanding, hpending]
    exact h.idle
  · rw [houtstanding, hflag]
    exact h.flag

theorem InOrder.step (h : InOrder cm) {event : GapEvent} (hdelivers : cm.Delivers event)
    (hseparate : cm.Separate event) : ∃ cm', cm.handle event = some cm' ∧ InOrder cm' := by
  cases event with
  | connectAsMaster handle => exact h.connectAsMaster handle
  | connectedPeripheral => exact ⟨_, rfl, h.connectedPeripheral hdelivers hseparate⟩
  | connectedCentral => exact h.connectedCentral hdelivers
  | timeout => exact ⟨_, rfl, h.timeout hdelivers⟩
  | disconnected i reason generated => exact ⟨_, rfl, h.disconnected hdelivers reason generated⟩

/-! ## Runs -/

/-- The manager after an event, if it has not followed a null pointer. -/
def next (state : Option ConnectionManager) (event : GapEvent) : Option ConnectionManager :=
  state.bind fun cm => cm.handle event

/-- An event that may come in a state. -/
def May (allowed : ConnectionManager → GapEvent → Prop) :
    Option ConnectionManager → GapEvent → Prop
  | none, _ => False
  | some cm, event => cm.Delivers event ∧ allowed cm event

/-- The manager has not followed a null pointer and the accounts are right; while an attempt is
under way, the central branch will find its connection, and no second attempt is started. -/
def Sane : Option ConnectionManager → Prop
  | none => False
  | some cm => Accounts cm ∧ (cm.outstanding = true →
      cm.connectedCentral ≠ none ∧ ∀ handle, cm.connectAsMaster handle = some cm)

theorem InOrder.sane (h : InOrder cm) : Sane (some cm) := by
  refine ⟨h.toAccounts, fun houtstanding => ⟨?_, fun handle => ?_⟩⟩
  · obtain ⟨cm', hcentral, _⟩ := h.connectedCentral houtstanding
    rw [hcentral]
    simp
  · obtain ⟨i, hpending, _⟩ := h.pending houtstanding
    exact if_pos (Or.inr (by simp [hpending]))

/-- **The slots are accounted for** in every run in which nobody connects to us while we try to
connect to somebody. -/
theorem slots_accounted (hconstructed : Constructed cm) {events : List GapEvent}
    {state : Option ConnectionManager} (hrun : Run next (May Separate) (some cm) events state) :
    Sane state := by
  have hinOrder : ∃ cm', state = some cm' ∧ InOrder cm' := by
    refine hrun.preserves (I := fun state => ∃ cm', state = some cm' ∧ InOrder cm') ?_
      ⟨cm, rfl, hconstructed.inOrder⟩
    rintro _ event ⟨cm', rfl, h⟩ ⟨hdelivers, hseparate⟩
    exact h.step hdelivers hseparate
  obtain ⟨cm', rfl, h⟩ := hinOrder
  exact h.sane

section Decidable

instance (allowed : ConnectionManager → GapEvent → Prop)
    [∀ cm event, Decidable (allowed cm event)] (state : Option ConnectionManager)
    (event : GapEvent) : Decidable (May allowed state event) := by
  cases state with
  | none => exact isFalse id
  | some cm =>
      unfold May
      cases event <;> unfold Delivers <;> infer_instance

instance (cm : ConnectionManager) (event : GapEvent) : Decidable (cm.Separate event) := by
  cases event <;> unfold Separate <;> infer_instance

end Decidable

/-- The manager of a node that has just been started. -/
def constructed : ConnectionManager where
  node := Node.startedNode 1 1
  freeInConnections := 1
  freeOutConnections := 3
  pendingConnection := none
  currentlyConnecting := false
  outstanding := false

theorem constructed_constructed : Constructed constructed :=
  ⟨fun _ => rfl, rfl, rfl, rfl, rfl, rfl⟩

def oneAfterAnother : List GapEvent :=
  [.connectAsMaster 14, .connectedCentral, .connectedPeripheral, .connectAsMaster 14, .timeout,
    .disconnected inConnection 8 7]

theorem slots_accounted_oneAfterAnother : Sane (oneAfterAnother.foldl next (some constructed)) :=
  slots_accounted constructed_constructed (Run.of_replays (by decide))

/-- Somebody connects to us while we try to connect to somebody. -/
def crossing : List GapEvent := [.connectAsMaster 14, .connectedPeripheral]

theorem slots_not_accounted : ¬ ∀ (cm : ConnectionManager) events state, Constructed cm →
    Run next (May fun _ _ => True) (some cm) events state → Sane state := by
  intro h
  have hsane := h constructed crossing (crossing.foldl next (some constructed))
    constructed_constructed (Run.of_replays (by decide))
  obtain ⟨i, hpending, _⟩ := hsane.1.pending rfl
  have hnone : (none : Option Slot) = some i := hpending
  exact absurd hnone (by simp)

/-- The result of our attempt then meets a null pointer. -/
theorem crossing_null :
    (crossing ++ [GapEvent.connectedCentral]).foldl next (some constructed) = none := rfl

end ConnectionManager

end FruityMesh.Mesh
