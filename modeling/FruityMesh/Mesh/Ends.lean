import FruityMesh.Mesh.Effects

/-!
# The two ends of a link

A link on its own: the counts of the nodes at its ends, how far each end is with the
handshake, and what is on its way.  `Flow a b` is what holds of the packets from `b` to
`a`.  Once both ends have done the handshake, what `a` believes about the part behind the
link and what the UPDATEs on their way will change about it is what `b` knows about its
own part.  Before that, the handshake is a conversation with at most one packet on its way,
and when `b` has done it, the ACK_2 to `a` is still coming.

The lemmas after `Flow` are the moves of such a pair: each handler of one end, and a change
at one end that comes from elsewhere.
-/

namespace FruityMesh.Mesh

open LittleEndian Transport

/-- What one end of a link knows, and what is on its way to it. -/
@[ext] structure End where
  nodeId : NodeId
  outgoing : Bool
  isConnected : Bool
  handshakeDone : Bool
  clusterSize : ClusterSize
  connectedClusterSize : ClusterSize
  inbox : List Message

/-- The change of the cluster size that UPDATEs tell together. -/
def changes (messages : List Message) : ClusterSize := (messages.map changeOf).sum

@[simp] theorem changes_nil : changes [] = 0 := rfl

@[simp] theorem changes_cons (message : Message) (rest : List Message) :
    changes (message :: rest) = changeOf message + changes rest := by
  simp [changes]

@[simp] theorem changes_append (first second : List Message) :
    changes (first ++ second) = changes first + changes second := by
  simp [changes]

/-- The node at this end has sent a packet of the handshake, and `destination` has not
answered. -/
def IsGreeting (source destination : NodeId) (message : Message) : Prop :=
  IsWelcome source message ∨ IsAck1 source destination message

/-- An ACK_2, and UPDATEs that were sent after it. -/
def IsConfirmation (destination : NodeId) (messages : List Message) : Prop :=
  ∃ ack rest, messages = ack :: rest ∧ IsAck2 destination ack ∧ ∀ message ∈ rest, IsUpdate message

/-- What may be on its way to an end without a link, whoever has sent it. -/
structure Orderly (a : End) : Prop where
  unconnected : a.isConnected = false → a.inbox = []
  updates : a.handshakeDone = true → ∀ message ∈ a.inbox, IsUpdate message
  handshake : a.handshakeDone = false → a.inbox = [] ∨
    (∃ message source, a.inbox = [message] ∧ IsGreeting source a.nodeId message) ∨
      IsConfirmation a.nodeId a.inbox

/-- What holds of the packets from `b` to `a`. -/
structure Flow (a b : End) : Prop where
  direction : a.handshakeDone = false → b.handshakeDone = false → a.outgoing = !b.outgoing
  connected : a.handshakeDone = true → a.isConnected = true
  updates : a.handshakeDone = true → b.handshakeDone = true → ∀ message ∈ a.inbox, IsUpdate message
  agree : a.handshakeDone = true → b.handshakeDone = true →
    a.connectedClusterSize + changes a.inbox = b.clusterSize - b.connectedClusterSize
  /-- `b` has done the handshake and counts one node at `a`, which will learn from the ACK_2
  what `b` knew then. -/
  confirming : a.handshakeDone = false → b.handshakeDone = true →
    a.isConnected = true ∧ b.inbox = [] ∧ b.connectedClusterSize = 1 ∧
      ∃ ack rest, a.inbox = ack :: rest ∧ IsAck2 a.nodeId ack ∧
        (∀ message ∈ rest, IsUpdate message) ∧
          [sizeByteOf ack] = @lowBytes 1 (b.clusterSize - changes rest)
  greeting : a.handshakeDone = false → b.handshakeDone = false →
    a.inbox = [] ∨ ∃ message, a.inbox = [message] ∧ IsGreeting b.nodeId a.nodeId message ∧
      b.inbox = [] ∧ b.isConnected = true
  /-- The central speaks first. -/
  unconnected : a.outgoing = true → a.isConnected = false → a.inbox = [] ∧ b.inbox = []

section Packets

variable {message : Message} {source destination destination' : NodeId}

theorem IsUpdate.not_greeting (h : IsUpdate message) : ¬ IsGreeting source destination message := by
  rintro (h' | h')
  · exact absurd (h.type.symm.trans h'.type) (by decide)
  · exact absurd (h.type.symm.trans h'.type) (by decide)

theorem IsAck2.not_greeting (h : IsAck2 destination message) :
    ¬ IsGreeting source destination' message := by
  rintro (h' | h')
  · exact absurd (h.type.symm.trans h'.type) (by decide)
  · exact absurd (h.type.symm.trans h'.type) (by decide)

theorem IsUpdate.not_ack2 (h : IsUpdate message) : typeOf message ≠ messageTypeClusterAck2 := by
  rw [h.type]
  decide

theorem IsGreeting.not_ack2 (h : IsGreeting source destination message) :
    typeOf message ≠ messageTypeClusterAck2 := by
  rcases h with h | h
  · rw [h.type]
    decide
  · rw [h.type]
    decide

end Packets

/-! ## What is on its way to an end of a link -/

theorem Orderly.of_updates {a : End} (hconnected : a.isConnected = true)
    (hdone : a.handshakeDone = true) (hupdates : ∀ message ∈ a.inbox, IsUpdate message) :
    Orderly a where
  unconnected := fun hfalse => absurd hfalse (ne_false_of_eq_true hconnected)
  updates := fun _ => hupdates
  handshake := fun hfalse => absurd hfalse (ne_false_of_eq_true hdone)

theorem Orderly.of_nil {a : End} (hinbox : a.inbox = []) : Orderly a where
  unconnected := fun _ => hinbox
  updates := by
    intro _ message hmem
    rw [hinbox] at hmem
    exact absurd hmem List.not_mem_nil
  handshake := fun _ => Or.inl hinbox

theorem Orderly.resize {a : End} (h : Orderly a) (clusterSize : ClusterSize) :
    Orderly { a with clusterSize := clusterSize } :=
  ⟨h.unconnected, h.updates, h.handshake⟩

/-- A prefix of what may be on its way may be all there is. -/
theorem Orderly.take {a : End} (h : Orderly a) (n : ℕ) :
    Orderly { a with inbox := a.inbox.take n } where
  unconnected := by
    intro hconnected
    dsimp only
    rw [h.unconnected hconnected, List.take_nil]
  updates := fun hdone message hmem => h.updates hdone message (List.mem_of_mem_take hmem)
  handshake := by
    intro hdone
    cases n with
    | zero => exact Or.inl rfl
    | succ n =>
        dsimp only
        rcases h.handshake hdone with hnil | ⟨message, source, hinbox, hgreeting⟩ |
          ⟨ack, rest, hinbox, hack, hupdates⟩
        · left
          rw [hnil]
          rfl
        · refine Or.inr (Or.inl ⟨message, source, ?_, hgreeting⟩)
          rw [hinbox, List.take_succ_cons, List.take_nil]
        · refine Or.inr (Or.inr ⟨ack, rest.take n, ?_, hack, ?_⟩)
          · rw [hinbox]
            rfl
          · exact fun m hm => hupdates m (List.mem_of_mem_take hm)

/-- At the end of a link that is done with the handshake, before the other one is. -/
theorem Flow.inbox_eq_nil {a b : End} (hback : Flow b a) (ha : a.handshakeDone = true)
    (hb : b.handshakeDone = false) : a.inbox = [] :=
  (hback.confirming hb ha).2.1

/-- An end that is done with the handshake gets nothing but UPDATEs. -/
theorem Flow.isUpdate {a b : End} (h : Flow a b) (hback : Flow b a) (ha : a.handshakeDone = true) :
    ∀ message ∈ a.inbox, IsUpdate message := by
  by_cases hb : b.handshakeDone = true
  · exact h.updates ha hb
  · rw [hback.inbox_eq_nil ha (Bool.eq_false_of_not_eq_true hb)]
    exact fun m hm => absurd hm List.not_mem_nil

theorem Flow.orderly {a b : End} (h : Flow a b) (hback : Flow b a) (hconnected : a.isConnected = true) :
    Orderly a where
  unconnected := fun hfalse => absurd hfalse (ne_false_of_eq_true hconnected)
  updates := h.isUpdate hback
  handshake := by
    intro ha
    by_cases hb : b.handshakeDone = true
    · obtain ⟨_, _, _, ack, rest, hinbox, hack, hrest, _⟩ := h.confirming ha hb
      exact Or.inr (Or.inr ⟨ack, rest, hinbox, hack, hrest⟩)
    · rcases h.greeting ha (Bool.eq_false_of_not_eq_true hb) with hnil |
        ⟨message, hinbox, hgreeting, _, _⟩
      · exact Or.inl hnil
      · exact Or.inr (Or.inl ⟨message, b.nodeId, hinbox, hgreeting⟩)

/-- A link with an end that is not connected is a link without handshake. -/
theorem Flow.undone_of_unconnected {a b : End} (h : Flow a b) (hconnected : a.isConnected = false) :
    a.handshakeDone = false ∧ b.handshakeDone = false := by
  have ha : a.handshakeDone = false := by
    apply Bool.eq_false_of_not_eq_true
    intro ha
    exact absurd hconnected (ne_false_of_eq_true (h.connected ha))
  refine ⟨ha, ?_⟩
  apply Bool.eq_false_of_not_eq_true
  intro hb
  exact absurd hconnected (ne_false_of_eq_true ((h.confirming ha hb).1))

/-- Where a greeting arrives, neither end is done. -/
theorem Flow.undone_of_greeting {a b : End} (h : Flow a b) (hback : Flow b a) {message : Message}
    {rest : List Message} {source destination : NodeId} (hinbox : a.inbox = message :: rest)
    (hgreeting : IsGreeting source destination message) :
    a.handshakeDone = false ∧ b.handshakeDone = false := by
  have ha : a.handshakeDone = false := by
    apply Bool.eq_false_of_not_eq_true
    intro ha
    have hupdate := h.isUpdate hback ha message (hinbox ▸ List.mem_cons_self)
    exact hupdate.not_greeting hgreeting
  refine ⟨ha, ?_⟩
  apply Bool.eq_false_of_not_eq_true
  intro hb
  obtain ⟨_, _, _, ack, rest', hinbox', hack, _⟩ := h.confirming ha hb
  have hsame : message = ack := (List.cons_eq_cons.mp (hinbox.symm.trans hinbox')).1
  exact hack.not_greeting (hsame ▸ hgreeting)

/-! ## The moves of a link -/

/-- Two ends that have nothing to do with each other yet. -/
theorem Flow.fresh {a b : End} (hdirection : a.outgoing = !b.outgoing) (ha : a.handshakeDone = false)
    (hb : b.handshakeDone = false) (hinbox : a.inbox = []) (hinbox' : b.inbox = []) : Flow a b where
  direction := fun _ _ => hdirection
  connected := fun hdone => absurd ha (ne_false_of_eq_true hdone)
  updates := fun hdone => absurd ha (ne_false_of_eq_true hdone)
  agree := fun hdone => absurd ha (ne_false_of_eq_true hdone)
  confirming := fun _ hdone => absurd hb (ne_false_of_eq_true hdone)
  greeting := fun _ _ => Or.inl hinbox
  unconnected := fun _ _ => ⟨hinbox, hinbox'⟩

/-- The node at `b` has changed its cluster size for some other reason, and tells `a` if it
is done with the handshake. -/
theorem Flow.elsewhere {a b : End} (h : Flow a b) (hback : Flow b a) (change : ClusterSize)
    {out : List Message} (hsilent : b.handshakeDone = false → out = [])
    (htold : b.handshakeDone = true → (∀ message ∈ out, IsUpdate message) ∧ changes out = change) :
    Flow { a with inbox := a.inbox ++ out } { b with clusterSize := b.clusterSize + change } ∧
      Flow { b with clusterSize := b.clusterSize + change } { a with inbox := a.inbox ++ out } := by
  constructor
  · refine ⟨h.direction, h.connected, ?_, ?_, ?_, ?_, ?_⟩ <;> dsimp only
    · intro ha hb message hmem
      rcases List.mem_append.mp hmem with hmem | hmem
      · exact h.updates ha hb message hmem
      · exact (htold hb).1 message hmem
    · intro ha hb
      rw [changes_append, (htold hb).2, ← add_assoc, h.agree ha hb, sub_add_eq_add_sub]
    · intro ha hb
      obtain ⟨hconnected, hinbox', hshare, ack, rest, hinbox, hack, hrest, hsize⟩ :=
        h.confirming ha hb
      -- the ACK_2 has left already, with the size before this change
      refine ⟨hconnected, hinbox', hshare, ack, rest ++ out, ?_, hack, ?_, ?_⟩
      · rw [hinbox, List.cons_append]
      · intro message hmem
        rcases List.mem_append.mp hmem with hmem | hmem
        · exact hrest message hmem
        · exact (htold hb).1 message hmem
      · rw [hsize, changes_append, (htold hb).2, add_sub_add_right_eq_sub]
    · intro ha hb
      rw [hsilent hb, List.append_nil]
      exact h.greeting ha hb
    · intro houtgoing hconnected
      rw [hsilent (h.undone_of_unconnected hconnected).2, List.append_nil]
      exact h.unconnected houtgoing hconnected
  · refine ⟨hback.direction, hback.connected, hback.updates, hback.agree, ?_, ?_, ?_⟩ <;> dsimp only
    · intro hb ha
      obtain ⟨hconnected, hinbox, hshare, hack⟩ := hback.confirming hb ha
      refine ⟨hconnected, ?_, hshare, hack⟩
      rw [hinbox, hsilent hb, List.append_nil]
    · intro hb ha
      rw [hsilent hb, List.append_nil]
      exact hback.greeting hb ha
    · intro houtgoing hconnected
      rw [hsilent (hback.undone_of_unconnected hconnected).1, List.append_nil]
      exact hback.unconnected houtgoing hconnected

/-- `a` receives an UPDATE. -/
theorem Flow.update {a b : End} (h : Flow a b) (hback : Flow b a) (ha : a.handshakeDone = true)
    {message : Message} {rest : List Message} (hinbox : a.inbox = message :: rest) :
    Flow { a with
        clusterSize := a.clusterSize + changeOf message
        connectedClusterSize := a.connectedClusterSize + changeOf message
        inbox := rest } b ∧
      Flow b { a with
        clusterSize := a.clusterSize + changeOf message
        connectedClusterSize := a.connectedClusterSize + changeOf message
        inbox := rest } := by
  have hb : b.handshakeDone = true := by
    by_contra hb
    have hnil := hback.inbox_eq_nil ha (Bool.eq_false_of_not_eq_true hb)
    exact List.cons_ne_nil _ _ (hinbox.symm.trans hnil)
  constructor
  · refine ⟨h.direction, h.connected, ?_, ?_, ?_, ?_, ?_⟩ <;> dsimp only
    · intro _ _ m hm
      exact h.updates ha hb m (hinbox ▸ List.mem_cons_of_mem _ hm)
    · intro _ _
      rw [← h.agree ha hb, hinbox, changes_cons, add_assoc]
    · intro hundone
      exact absurd hundone (ne_false_of_eq_true ha)
    · intro hundone
      exact absurd hundone (ne_false_of_eq_true ha)
    · intro _ hconnected
      exact absurd hconnected (ne_false_of_eq_true (h.connected ha))
  · refine ⟨hback.direction, hback.connected, hback.updates, ?_, ?_, ?_, ?_⟩ <;> dsimp only
    · intro _ _
      rw [hback.agree hb ha, add_sub_add_right_eq_sub]
    · intro hundone
      exact absurd hundone (ne_false_of_eq_true hb)
    · intro hundone
      exact absurd hundone (ne_false_of_eq_true hb)
    · intro _ hconnected
      exact absurd hconnected (ne_false_of_eq_true (hback.connected hb))

/-- `a` becomes connected, and sends nothing. -/
theorem Flow.connect {a b : End} (h : Flow a b) (hback : Flow b a) :
    Flow { a with isConnected := true } b ∧ Flow b { a with isConnected := true } := by
  constructor
  · refine ⟨h.direction, fun _ => rfl, h.updates, h.agree, ?_, h.greeting, ?_⟩ <;> dsimp only
    · intro ha hb
      exact ⟨rfl, (h.confirming ha hb).2⟩
    · exact fun _ hfalse => absurd hfalse (by decide)
  · refine ⟨hback.direction, hback.connected, hback.updates, hback.agree, hback.confirming, ?_,
      hback.unconnected⟩
    intro hb ha
    rcases hback.greeting hb ha with hnil | ⟨message, hone, hgreeting, hinbox, _⟩
    · exact Or.inl hnil
    · exact Or.inr ⟨message, hone, hgreeting, hinbox, rfl⟩

/-- `a` handles a packet of the handshake, or becomes connected, and answers at most with a
packet of the handshake. -/
theorem Flow.greet {a b : End} (h : Flow a b) (ha : a.handshakeDone = false)
    (hb : b.handshakeDone = false) (hinbox : b.inbox = []) (out : List Message)
    (hout : out = [] ∨ ∃ message, out = [message] ∧ IsGreeting a.nodeId b.nodeId message)
    (hconnected : b.outgoing = true → b.isConnected = false → out = []) :
    Flow { a with isConnected := true, inbox := [] } { b with inbox := b.inbox ++ out } ∧
      Flow { b with inbox := b.inbox ++ out } { a with isConnected := true, inbox := [] } := by
  constructor
  · refine ⟨h.direction, fun _ => rfl, ?_, ?_, ?_, ?_, ?_⟩ <;> dsimp only
    · intro hdone
      exact absurd ha (ne_false_of_eq_true hdone)
    · intro hdone
      exact absurd ha (ne_false_of_eq_true hdone)
    · intro _ hdone
      exact absurd hb (ne_false_of_eq_true hdone)
    · exact fun _ _ => Or.inl rfl
    · exact fun _ hfalse => absurd hfalse (by decide)
  · refine ⟨?_, ?_, ?_, ?_, ?_, ?_, ?_⟩ <;> dsimp only
    · intro _ _
      rw [h.direction ha hb, Bool.not_not]
    · intro hdone
      exact absurd hb (ne_false_of_eq_true hdone)
    · intro hdone
      exact absurd hb (ne_false_of_eq_true hdone)
    · intro hdone
      exact absurd hb (ne_false_of_eq_true hdone)
    · intro _ hdone
      exact absurd ha (ne_false_of_eq_true hdone)
    · intro _ _
      rw [hinbox, List.nil_append]
      rcases hout with hnil | ⟨message, hone, hgreeting⟩
      · exact Or.inl hnil
      · exact Or.inr ⟨message, hone, hgreeting, rfl, rfl⟩
    · intro houtgoing hunconnected
      rw [hinbox, hconnected houtgoing hunconnected]
      exact ⟨rfl, rfl⟩

/-- `a` receives an ACK_1 and answers with an ACK_2. -/
theorem Flow.of_ack1 {a b : End} (hb : b.handshakeDone = false)
    (hconnected : a.isConnected = true) (hconnected' : b.isConnected = true)
    (hinbox : b.inbox = []) (hshare : a.connectedClusterSize = 0) {ack : Message}
    (hack : IsAck2 b.nodeId ack) (hsize : [sizeByteOf ack] = @lowBytes 1 (a.clusterSize + 1)) :
    Flow { a with
        handshakeDone := true
        clusterSize := a.clusterSize + 1
        connectedClusterSize := a.connectedClusterSize + 1
        inbox := [] } { b with inbox := b.inbox ++ [ack] } ∧
      Flow { b with inbox := b.inbox ++ [ack] } { a with
        handshakeDone := true
        clusterSize := a.clusterSize + 1
        connectedClusterSize := a.connectedClusterSize + 1
        inbox := [] } := by
  constructor
  · refine ⟨?_, fun _ => hconnected, ?_, ?_, ?_, ?_, ?_⟩ <;> dsimp only
    · exact fun hfalse => absurd hfalse (by decide)
    · intro _ hdone
      exact absurd hb (ne_false_of_eq_true hdone)
    · intro _ hdone
      exact absurd hb (ne_false_of_eq_true hdone)
    · exact fun hfalse => absurd hfalse (by decide)
    · exact fun hfalse => absurd hfalse (by decide)
    · exact fun _ hfalse => absurd hfalse (ne_false_of_eq_true hconnected)
  · refine ⟨?_, ?_, ?_, ?_, ?_, ?_, ?_⟩ <;> dsimp only
    · exact fun _ hfalse => absurd hfalse (by decide)
    · intro hdone
      exact absurd hb (ne_false_of_eq_true hdone)
    · intro hdone
      exact absurd hb (ne_false_of_eq_true hdone)
    · intro hdone
      exact absurd hb (ne_false_of_eq_true hdone)
    · intro _ _
      -- the ACK_2 is all that is on its way to `b`
      refine ⟨hconnected', rfl, ?_, ack, [], ?_, hack, ?_, ?_⟩
      · rw [hshare, zero_add]
      · rw [hinbox, List.nil_append]
      · exact fun m hm => absurd hm List.not_mem_nil
      · rw [changes_nil, sub_zero, hsize]
    · exact fun _ hfalse => absurd hfalse (by decide)
    · exact fun _ hfalse => absurd hfalse (ne_false_of_eq_true hconnected')

/-- `a` receives an ACK_2, reads in it what `b` knew, and is alone. -/
theorem Flow.ack2 {a b : End} (h : Flow a b) (hback : Flow b a) (ha : a.handshakeDone = false)
    (hb : b.handshakeDone = true) (halone : a.clusterSize = 1) (hshare : a.connectedClusterSize = 0)
    {ack : Message} {rest : List Message} (hinbox : a.inbox = ack :: rest) {size : ClusterSize}
    (hsize : size = b.clusterSize - changes rest) :
    Flow { a with
        handshakeDone := true
        clusterSize := a.clusterSize + (size - 1)
        connectedClusterSize := a.connectedClusterSize + (size - 1)
        inbox := rest } b ∧
      Flow b { a with
        handshakeDone := true
        clusterSize := a.clusterSize + (size - 1)
        connectedClusterSize := a.connectedClusterSize + (size - 1)
        inbox := rest } := by
  obtain ⟨hconnected, hinbox', hshare', ack', rest', hinbox'', _, hrest, _⟩ := h.confirming ha hb
  obtain ⟨rfl, rfl⟩ := List.cons_eq_cons.mp (hinbox.symm.trans hinbox'')
  constructor
  · refine ⟨?_, fun _ => hconnected, ?_, ?_, ?_, ?_, ?_⟩ <;> dsimp only
    · exact fun hfalse => absurd hfalse (by decide)
    · exact fun _ _ => hrest
    · intro _ _
      -- `b` has counted `a` as one node, and `a` counts what `b` knew without `a`
      rw [hshare, hshare', hsize]
      ring
    · exact fun hfalse => absurd hfalse (by decide)
    · exact fun hfalse => absurd hfalse (by decide)
    · exact fun _ hfalse => absurd hfalse (ne_false_of_eq_true hconnected)
  · refine ⟨?_, hback.connected, ?_, ?_, ?_, ?_, ?_⟩ <;> dsimp only
    · exact fun _ hfalse => absurd hfalse (by decide)
    · intro _ _
      rw [hinbox']
      exact fun m hm => absurd hm List.not_mem_nil
    · intro _ _
      rw [hinbox', hshare', hshare, halone, changes_nil]
      ring
    · intro hundone
      exact absurd hundone (ne_false_of_eq_true hb)
    · intro hundone
      exact absurd hundone (ne_false_of_eq_true hb)
    · intro _ hunconnected
      exact absurd hunconnected (ne_false_of_eq_true (hback.connected hb))

end FruityMesh.Mesh
