import FruityMesh.Mesh.Accounting
import FruityMesh.Mesh.Ends

/-!
# The handshake of one link

A central and a peripheral, and what is on its way between them.  What happens on the other
connections of the two nodes can change their sizes and ids at any moment, and can bring
UPDATEs (`LinkEvent.elsewhere`).

The handshake is a conversation: the WELCOME of the central, the WELCOME of a peripheral that
is bigger, an ACK_1, an ACK_2 (`Phase`).  It breaks off where the central gets the WELCOME of
the peripheral and finds itself the bigger one after all: each of the two waits for the
other to join.  `Concedes` excludes this step.
-/

namespace FruityMesh.Mesh

open Transport Runs
open Node (zeros oneMore)

inductive Side
  | central
  | peripheral
  deriving DecidableEq, Repr

def Side.other : Side → Side
  | .central => .peripheral
  | .peripheral => .central

theorem Side.other_ne (s : Side) : s.other ≠ s := by
  cases s <;> decide

theorem Side.eq_or (s t : Side) : t = s ∨ t = s.other := by
  cases s <;> cases t <;> decide

theorem Side.other_other (s : Side) : s.other.other = s := by
  cases s <;> rfl

/-- A packet of the handshake. -/
def IsHandshake (message : Message) : Prop :=
  typeOf message = messageTypeClusterWelcome ∨ typeOf message = messageTypeClusterAck1 ∨
    typeOf message = messageTypeClusterAck2

theorem IsGreeting.isHandshake {source destination : NodeId} {message : Message}
    (h : IsGreeting source destination message) : IsHandshake message :=
  h.imp IsWelcome.type fun hack => Or.inl hack.type

/-- Two nodes that are linked, the outgoing connection of the central, and what is on its
way to each side. -/
structure Pair where
  node : Side → Node
  out : { i : Slot // i ≠ inConnection }
  inbox : Side → List Message
  /-- One of the two has asked for the end of the link. -/
  closing : Bool

/-- What happens to a link.  After something on the other connections of a node, the node is
another one, has queued packets on this connection, and may have asked for its end. -/
inductive LinkEvent
  | connected (s : Side)
  | deliver (s : Side) (memory : ℕ → U8)
  | elsewhere (s : Side) (node : Node) (queued : List Message) (closes : Bool)

namespace Pair

def port (pair : Pair) : Side → Slot
  | .central => pair.out
  | .peripheral => inConnection

def connection (pair : Pair) (s : Side) : Connection := (pair.node s).connections (pair.port s)

/-- The pair after a handler of the side `s`, with `rest` still on its way to it. -/
def after (pair : Pair) (s : Side) (rest : List Message) (result : Node × List Action) : Pair where
  node := fun t => if t = s then result.1 else pair.node t
  out := pair.out
  inbox := fun t => if t = s then rest else pair.inbox t ++ sends result.2 (pair.port s)
  closing := pair.closing || closes result.2 (pair.port s)

def apply (pair : Pair) : LinkEvent → Pair
  | .connected s =>
      pair.after s (pair.inbox s) ((pair.node s).connectionSuccessfulHandler (pair.port s))
  | .deliver s memory =>
      match pair.inbox s with
      | [] => pair
      | message :: rest =>
          pair.after s rest
            ((pair.node s).receivePacketHandler (pair.port s) (arrive message memory))
  | .elsewhere s node queued closes =>
      { pair with
        node := fun t => if t = s then node else pair.node t
        inbox := fun t => if t = s then pair.inbox t else pair.inbox t ++ queued
        closing := pair.closing || closes }

/-- An event can happen.  A node sends nothing but the handshake on a connection that has not
done it. -/
def Enabled (pair : Pair) : LinkEvent → Prop
  | .connected s => (pair.connection s).isConnected = false
  | .deliver s _ => (pair.connection s).isConnected = true ∧ pair.inbox s ≠ []
  | .elsewhere s node queued _ =>
      node.nodeId = (pair.node s).nodeId ∧ node.connections (pair.port s) = pair.connection s ∧
        ((pair.connection s).handshakeDone = false → queued = []) ∧
          ∀ message ∈ queued, IsUpdate message

/-- The central, when it gets the WELCOME of the peripheral, does not find itself the bigger
one. -/
def Concedes (pair : Pair) : LinkEvent → Prop
  | .deliver .central memory =>
      match pair.inbox .central with
      | [] => True
      | message :: _ =>
          typeOf message = messageTypeClusterWelcome →
            (ConnPacketClusterWelcome.ofMemory (arrive message memory).data).clusterId =
                (pair.node .central).clusterId ∨
              (pair.node .central).isBigger (.ofMemory (arrive message memory).data) = false
  | .deliver .peripheral _ => True
  | .connected _ => True
  | .elsewhere _ _ _ _ => True

/-- The link is connected, no packet of the handshake is on its way, nobody has asked for the
end of the link, and the handshake is not done. -/
structure Stalled (pair : Pair) : Prop where
  connected : ∀ s, (pair.connection s).isConnected = true
  silent : ∀ s, ∀ message ∈ pair.inbox s, ¬ IsHandshake message
  unrequested : pair.closing = false
  undone : ∃ s, (pair.connection s).handshakeDone = false

/-- A link that is not connected yet. -/
structure Fresh (pair : Pair) : Prop where
  isConnected : ∀ s, (pair.connection s).isConnected = false
  handshakeDone : ∀ s, (pair.connection s).handshakeDone = false
  inbox : ∀ s, pair.inbox s = []
  closing : pair.closing = false

/-- How far the conversation is. -/
inductive Phase (pair : Pair) : Prop
  | silent (undone : ∀ s, (pair.connection s).handshakeDone = false)
      (inbox : ∀ s, pair.inbox s = [])
      (unconnected : (pair.connection .central).isConnected = false)
  | greeting (s : Side) (message : Message)
      (undone : ∀ t, (pair.connection t).handshakeDone = false)
      (inbox : pair.inbox s = [message]) (answered : pair.inbox s.other = [])
      (isGreeting : IsGreeting (pair.node s.other).nodeId (pair.node s).nodeId message)
      (spoken : (pair.connection s.other).isConnected = true)
      (connected : (pair.connection .central).isConnected = true)
  | confirming (s : Side) (undone : (pair.connection s).handshakeDone = false)
      (done : (pair.connection s.other).handshakeDone = true)
      (inbox : IsConfirmation (pair.node s).nodeId (pair.inbox s))
      (answered : pair.inbox s.other = [])
      (connected : ∀ t, (pair.connection t).isConnected = true)
  | done (done : ∀ s, (pair.connection s).handshakeDone = true)
      (updates : ∀ s, ∀ message ∈ pair.inbox s, IsUpdate message)
      (connected : ∀ s, (pair.connection s).isConnected = true)

theorem Fresh.phase {pair : Pair} (h : Fresh pair) : Phase pair :=
  .silent h.handshakeDone h.inbox (h.isConnected .central)

theorem Phase.not_stalled {pair : Pair} (h : Phase pair) : ¬ Stalled pair := by
  intro hstalled
  cases h with
  | silent _ _ unconnected =>
      exact absurd unconnected (ne_false_of_eq_true (hstalled.connected .central))
  | greeting s message _ inbox _ isGreeting _ _ =>
      exact hstalled.silent s message (inbox ▸ List.mem_cons_self) isGreeting.isHandshake
  | confirming s _ _ inbox _ _ =>
      obtain ⟨ack, rest, hinbox, hack, _⟩ := inbox
      exact hstalled.silent s ack (hinbox ▸ List.mem_cons_self) (Or.inr (Or.inr hack.type))
  | done done _ _ =>
      obtain ⟨s, hundone⟩ := hstalled.undone
      exact absurd hundone (ne_false_of_eq_true (done s))

/-! ## A handler of one side -/

section Handler

variable {pair : Pair} {s : Side} {rest : List Message} {result : Node × List Action}

theorem after_connection_self : (pair.after s rest result).connection s =
    result.1.connections (pair.port s) := by
  unfold connection
  simp only [after, if_true]
  rfl

theorem after_connection_other :
    (pair.after s rest result).connection s.other = pair.connection s.other := by
  unfold connection
  simp only [after, if_neg s.other_ne]
  rfl

theorem after_node_self : (pair.after s rest result).node s = result.1 := if_pos rfl

theorem after_node_other : (pair.after s rest result).node s.other = pair.node s.other :=
  if_neg s.other_ne

theorem after_inbox_self : (pair.after s rest result).inbox s = rest := if_pos rfl

theorem after_inbox_other : (pair.after s rest result).inbox s.other =
    pair.inbox s.other ++ sends result.2 (pair.port s) :=
  if_neg s.other_ne

theorem after_isConnected (h : (result.1.connections (pair.port s)).isConnected =
    (pair.connection s).isConnected) (t : Side) :
    ((pair.after s rest result).connection t).isConnected = (pair.connection t).isConnected := by
  rcases s.eq_or t with rfl | rfl
  · rw [after_connection_self, h]
  · rw [after_connection_other]

theorem after_handshakeDone (h : (result.1.connections (pair.port s)).handshakeDone =
    (pair.connection s).handshakeDone) (t : Side) :
    ((pair.after s rest result).connection t).handshakeDone =
      (pair.connection t).handshakeDone := by
  rcases s.eq_or t with rfl | rfl
  · rw [after_connection_self, h]
  · rw [after_connection_other]

end Handler

/-! ## The steps -/

section Steps

variable {pair : Pair} {s : Side} {message : Message} {rest : List Message} {memory : ℕ → U8}

theorem Phase.deliver_welcome (hundone : ∀ t, (pair.connection t).handshakeDone = false)
    (hconnected : ∀ t, (pair.connection t).isConnected = true) (hother : pair.inbox s.other = [])
    (hwelcome : IsWelcome (pair.node s.other).nodeId message)
    (hconcedes : s = .central →
      (ConnPacketClusterWelcome.ofMemory (arrive message memory).data).clusterId =
          (pair.node s).clusterId ∨
        (pair.node s).isBigger (.ofMemory (arrive message memory).data) = false) :
    closes ((pair.node s).receivePacketHandler (pair.port s) (arrive message memory)).2
        (pair.port s) = true ∨
      Phase (pair.after s []
        ((pair.node s).receivePacketHandler (pair.port s) (arrive message memory))) := by
  obtain ⟨hreceive, hsource⟩ :=
    (pair.node s).receive_welcome (i := pair.port s) memory hwelcome
  rw [hreceive]
  have hanswer := (pair.node s).welcome_cases (i := pair.port s)
    (.ofMemory (arrive message memory).data) (hundone s)
  obtain ⟨hconnected', hdone', _⟩ := (pair.node s).welcome_answer (i := pair.port s)
    (.ofMemory (arrive message memory).data)
  have hid := ((pair.node s).effect_welcome (i := pair.port s)
    (.ofMemory (arrive message memory).data)).nodeId
  rcases hanswer with hcloses | ⟨hdiffer, hbigger, hport⟩ | ⟨answer, hsends, hanswer⟩
  · exact Or.inl hcloses
  -- the central does not answer a smaller cluster, and this is what `hconcedes` excludes
  · exfalso
    have hs : s = .central := by
      cases s with
      | central => rfl
      | peripheral => exact absurd rfl hport
    rcases hconcedes hs with hsame | hsmaller
    · exact hdiffer hsame
    · exact absurd hsmaller (ne_false_of_eq_true hbigger)
  · right
    have hsource' : (ConnPacketClusterWelcome.ofMemory (arrive message memory).data).header.sender =
        (pair.node s.other).nodeId := hsource
    rw [hsource'] at hanswer
    refine .greeting s.other answer ?_ ?_ ?_ ?_ ?_ ?_
    · exact fun t => (after_handshakeDone hdone' t).trans (hundone t)
    · rw [after_inbox_other, hother, List.nil_append, hsends]
    · rw [s.other_other, after_inbox_self]
    · rw [s.other_other, after_node_self, after_node_other, hid]
      exact hanswer
    · exact (after_isConnected hconnected' _).trans (hconnected _)
    · exact (after_isConnected hconnected' _).trans (hconnected _)

theorem Phase.deliver_ack1 (hundone : ∀ t, (pair.connection t).handshakeDone = false)
    (hconnected : ∀ t, (pair.connection t).isConnected = true) (hother : pair.inbox s.other = [])
    (hack1 : IsAck1 (pair.node s.other).nodeId (pair.node s).nodeId message) :
    Phase (pair.after s []
      ((pair.node s).receivePacketHandler (pair.port s) (arrive message memory))) := by
  obtain ⟨hreceive, hsource, _⟩ :=
    (pair.node s).receive_ack1 (i := pair.port s) memory hack1
  rw [hreceive]
  obtain ⟨hconnected', hdone', ack, hsends, hack, _⟩ := (pair.node s).ack1_answer
    (i := pair.port s) (.ofMemory (arrive message memory).data)
  have hsource' : (ConnPacketClusterAck1.ofMemory (arrive message memory).data).header.sender =
      (pair.node s.other).nodeId := hsource
  rw [hsource'] at hack
  refine .confirming s.other ?_ ?_ ?_ ?_ ?_
  · rw [after_connection_other]
    exact hundone s.other
  · rw [s.other_other, after_connection_self, hdone']
  · rw [after_inbox_other, after_node_other, hother, List.nil_append, hsends]
    exact ⟨ack, [], rfl, hack, fun m hm => absurd hm List.not_mem_nil⟩
  · rw [s.other_other, after_inbox_self]
  · exact fun t => (after_isConnected hconnected' t).trans (hconnected t)

theorem Phase.deliver_ack2 (hdone : (pair.connection s.other).handshakeDone = true)
    (hconnected : ∀ t, (pair.connection t).isConnected = true) (hother : pair.inbox s.other = [])
    (hack2 : IsAck2 (pair.node s).nodeId message) (hrest : ∀ m ∈ rest, IsUpdate m) :
    Phase (pair.after s rest
      ((pair.node s).receivePacketHandler (pair.port s) (arrive message memory))) := by
  rw [(pair.node s).receive_ack2 (i := pair.port s) memory hack2]
  obtain ⟨hconnected', hdone'⟩ := (pair.node s).ack2_answer (i := pair.port s)
    (.ofMemory (arrive message memory).data)
  refine .done ?_ ?_ fun t => (after_isConnected hconnected' t).trans (hconnected t)
  · intro t
    rcases s.eq_or t with rfl | rfl
    · rw [after_connection_self, hdone']
    · rw [after_connection_other]
      exact hdone
  · intro t
    rcases s.eq_or t with rfl | rfl
    · rw [after_inbox_self]
      exact hrest
    · rw [after_inbox_other, hother, sends_nil]
      exact fun m hm => absurd hm List.not_mem_nil

theorem Phase.deliver_update (hdone : ∀ t, (pair.connection t).handshakeDone = true)
    (hconnected : ∀ t, (pair.connection t).isConnected = true)
    (hupdates : ∀ t, ∀ m ∈ pair.inbox t, IsUpdate m) (hinbox : pair.inbox s = message :: rest) :
    Phase (pair.after s rest
      ((pair.node s).receivePacketHandler (pair.port s) (arrive message memory))) := by
  have hhere : ∀ m ∈ message :: rest, IsUpdate m := hinbox ▸ hupdates s
  obtain ⟨hlinks, hsends⟩ := (pair.node s).update_answer (i := pair.port s) memory
    (hhere message List.mem_cons_self)
  refine .done (fun t => (after_handshakeDone (hlinks.handshakeDone _) t).trans (hdone t)) ?_
    fun t => (after_isConnected (hlinks.isConnected _) t).trans (hconnected t)
  intro t
  rcases s.eq_or t with rfl | rfl
  · rw [after_inbox_self]
    exact fun m hm => hhere m (List.mem_cons_of_mem _ hm)
  · rw [after_inbox_other, hsends, List.append_nil]
    exact hupdates s.other

theorem Phase.deliver (h : Phase pair) (henabled : pair.Enabled (.deliver s memory))
    (hconcedes : pair.Concedes (.deliver s memory)) :
    (pair.apply (.deliver s memory)).closing = true ∨ Phase (pair.apply (.deliver s memory)) := by
  obtain ⟨hconnected, hsome⟩ := henabled
  obtain ⟨message, rest, hinbox⟩ := List.exists_cons_of_ne_nil hsome
  have happly : pair.apply (.deliver s memory) = pair.after s rest
      ((pair.node s).receivePacketHandler (pair.port s) (arrive message memory)) := by
    simp only [apply, hinbox]
  rw [happly]
  -- in each phase there is at most one message of the handshake, and it is the one that arrives
  cases h with
  | silent _ inbox _ => exact absurd (inbox s) hsome
  | greeting t greeting undone hto answered isGreeting spoken connected =>
      rcases t.eq_or s with rfl | rfl
      · obtain ⟨rfl, rfl⟩ := List.cons_eq_cons.mp (hinbox.symm.trans hto)
        have hall : ∀ t, (pair.connection t).isConnected = true := by
          intro w
          rcases s.eq_or w with rfl | rfl
          · exact hconnected
          · exact spoken
        rcases isGreeting with hwelcome | hack1
        · have hcentral : s = .central →
              (ConnPacketClusterWelcome.ofMemory (arrive message memory).data).clusterId =
                  (pair.node s).clusterId ∨
                (pair.node s).isBigger (.ofMemory (arrive message memory).data) = false := by
            rintro rfl
            simp only [Concedes, hinbox] at hconcedes
            exact hconcedes hwelcome.type
          rcases deliver_welcome undone hall answered hwelcome hcentral with hcloses | hphase
          · left
            simp only [after, hcloses, Bool.or_true]
          · exact Or.inr hphase
        · exact Or.inr (deliver_ack1 undone hall answered hack1)
      · exact absurd answered hsome
  | confirming t undone done inbox answered connected =>
      rcases t.eq_or s with rfl | rfl
      · obtain ⟨ack, rest', hcons, hack, hupdates⟩ := inbox
        obtain ⟨rfl, rfl⟩ := List.cons_eq_cons.mp (hinbox.symm.trans hcons)
        exact Or.inr (deliver_ack2 done connected answered hack hupdates)
      · exact absurd answered hsome
  | done done updates connected =>
      exact Or.inr (deliver_update done connected updates hinbox)

theorem Phase.connect (h : Phase pair) (henabled : pair.Enabled (.connected s)) :
    Phase (pair.apply (.connected s)) := by
  have hunconnected : (pair.connection s).isConnected = false := henabled
  obtain ⟨hconnected', hdone', hincoming, _⟩ :=
    (pair.node s).connected_answer (i := pair.port s)
  have hid := ((pair.node s).effect_connected (i := pair.port s)).nodeId
  have hdone : ∀ t, ((pair.apply (.connected s)).connection t).handshakeDone =
      (pair.connection t).handshakeDone := after_handshakeDone hdone'
  cases h with
  | silent undone inbox unconnected =>
      -- the central speaks first, when it learns of the connection
      cases s with
      | central =>
          obtain ⟨message, hsends, hwelcome⟩ := (pair.node .central).connected_speaks
            pair.out.property (undone .central)
          refine .greeting .peripheral message (fun t => (hdone t).trans (undone t)) ?_
            (inbox .central) (Or.inl ?_) hconnected' hconnected'
          · calc (pair.apply (.connected .central)).inbox .peripheral
                = pair.inbox .peripheral ++ [message] := congrArg (pair.inbox .peripheral ++ ·) hsends
              _ = [message] := by rw [inbox, List.nil_append]
          · rw [show ((pair.apply (.connected .central)).node Side.peripheral.other).nodeId =
              (pair.node .central).nodeId from hid]
            exact hwelcome
      | peripheral =>
          refine .silent (fun t => (hdone t).trans (undone t)) ?_ unconnected
          intro t
          cases t with
          | central =>
              calc (pair.apply (.connected .peripheral)).inbox .central
                  = pair.inbox .central ++ [] :=
                    congrArg (pair.inbox .central ++ ·) (hincoming rfl)
                _ = [] := by rw [inbox, List.nil_append]
          | peripheral => exact inbox .peripheral
  | greeting t message undone inbox answered isGreeting spoken connected =>
      cases s with
      | central => exact absurd hunconnected (ne_false_of_eq_true connected)
      | peripheral =>
          have hinbox : ∀ w, (pair.apply (.connected .peripheral)).inbox w = pair.inbox w := by
            intro w
            cases w with
            | central =>
                calc (pair.apply (.connected .peripheral)).inbox .central
                    = pair.inbox .central ++ [] :=
                      congrArg (pair.inbox .central ++ ·) (hincoming rfl)
                  _ = pair.inbox .central := List.append_nil _
            | peripheral => rfl
          have hnodeId : ∀ w, ((pair.apply (.connected .peripheral)).node w).nodeId =
              (pair.node w).nodeId := by
            intro w
            cases w with
            | central => rfl
            | peripheral => exact hid
          have hspoken : ((pair.apply (.connected .peripheral)).connection t.other).isConnected =
              true := by
            cases t with
            | central => exact hconnected'
            | peripheral => exact connected
          refine .greeting t message (fun w => (hdone w).trans (undone w)) ?_ ?_ ?_ hspoken connected
          · rw [hinbox]
            exact inbox
          · rw [hinbox]
            exact answered
          · rw [hnodeId, hnodeId]
            exact isGreeting
  | confirming t undone done inbox answered connected =>
      exact absurd hunconnected (ne_false_of_eq_true (connected s))
  | done done updates connected =>
      exact absurd hunconnected (ne_false_of_eq_true (connected s))

theorem Phase.elsewhere (h : Phase pair) {node : Node} {queued : List Message} {closes : Bool}
    (henabled : pair.Enabled (.elsewhere s node queued closes)) :
    Phase (pair.apply (.elsewhere s node queued closes)) := by
  obtain ⟨hid, hconnection, hsilent, hupdates⟩ := henabled
  have hkept : ∀ t, (pair.apply (.elsewhere s node queued closes)).connection t =
      pair.connection t := by
    intro t
    rcases s.eq_or t with rfl | rfl
    · calc (pair.apply (.elsewhere t node queued closes)).connection t
          = node.connections (pair.port t) := congrArg (Node.connections · (pair.port t)) (if_pos rfl)
        _ = pair.connection t := hconnection
    · exact congrArg (Node.connections · (pair.port s.other)) (if_neg s.other_ne)
  have hnodeId : ∀ t, ((pair.apply (.elsewhere s node queued closes)).node t).nodeId =
      (pair.node t).nodeId := by
    intro t
    rcases s.eq_or t with rfl | rfl
    · exact (congrArg Node.nodeId (if_pos rfl)).trans hid
    · exact congrArg Node.nodeId (if_neg s.other_ne)
  have hinbox : (pair.apply (.elsewhere s node queued closes)).inbox s = pair.inbox s := if_pos rfl
  have hinbox' : (pair.apply (.elsewhere s node queued closes)).inbox s.other =
      pair.inbox s.other ++ queued := if_neg s.other_ne
  -- before the handshake is done, nothing else is queued on the connection
  have hsame : (pair.connection s).handshakeDone = false →
      ∀ t, (pair.apply (.elsewhere s node queued closes)).inbox t = pair.inbox t := by
    intro hundone t
    rcases s.eq_or t with rfl | rfl
    · exact hinbox
    · rw [hinbox', hsilent hundone, List.append_nil]
  cases h with
  | silent undone inbox unconnected =>
      refine .silent (fun t => hkept t ▸ undone t) ?_ (hkept _ ▸ unconnected)
      intro t
      rw [hsame (undone s)]
      exact inbox t
  | greeting t message undone inbox answered isGreeting spoken connected =>
      refine .greeting t message (fun t => hkept t ▸ undone t) ?_ ?_ ?_ (hkept _ ▸ spoken)
        (hkept _ ▸ connected)
      · rw [hsame (undone s)]
        exact inbox
      · rw [hsame (undone s)]
        exact answered
      · rw [hnodeId, hnodeId]
        exact isGreeting
  | confirming t undone done inbox answered connected =>
      refine .confirming t (hkept _ ▸ undone) (hkept _ ▸ done) ?_ ?_ fun t => hkept t ▸ connected t
      · rw [hnodeId]
        rcases t.eq_or s with rfl | rfl
        · rw [hsame undone]
          exact inbox
        · obtain ⟨ack, rest, hcons, hack, hrest⟩ := inbox
          rw [t.other_other, hcons] at hinbox'
          refine ⟨ack, rest ++ queued, hinbox', hack, ?_⟩
          intro m hm
          rcases List.mem_append.mp hm with hm | hm
          · exact hrest m hm
          · exact hupdates m hm
      · rcases t.eq_or s with rfl | rfl
        · rw [hsame undone]
          exact answered
        · rw [hinbox]
          exact answered
  | done done updates connected =>
      refine .done (fun t => hkept t ▸ done t) ?_ fun t => hkept t ▸ connected t
      intro t m hm
      rcases s.eq_or t with rfl | rfl
      · rw [hinbox] at hm
        exact updates t m hm
      · rw [hinbox'] at hm
        rcases List.mem_append.mp hm with hm | hm
        · exact updates _ m hm
        · exact hupdates m hm

/-- The end of the link has been asked for, or the conversation goes on. -/
def Talking (pair : Pair) : Prop := pair.closing = true ∨ Phase pair

theorem apply_closing (h : pair.closing = true) (event : LinkEvent) :
    (pair.apply event).closing = true := by
  cases event with
  | connected s => simp only [apply, after, h, Bool.true_or]
  | deliver s memory =>
      unfold apply
      dsimp only
      cases pair.inbox s with
      | nil => exact h
      | cons message rest => simp only [after, h, Bool.true_or]
  | elsewhere s node queued closes => simp only [apply, h, Bool.true_or]

theorem Talking.step (h : Talking pair) {event : LinkEvent} (henabled : pair.Enabled event)
    (hconcedes : pair.Concedes event) : Talking (pair.apply event) := by
  rcases h with hclosing | hphase
  · exact Or.inl (apply_closing hclosing event)
  · cases event with
    | connected s => exact Or.inr (hphase.connect henabled)
    | deliver s memory => exact hphase.deliver henabled hconcedes
    | elsewhere s node queued closes => exact Or.inr (hphase.elsewhere henabled)

theorem Talking.not_stalled (h : Talking pair) : ¬ Stalled pair := by
  intro hstalled
  rcases h with hclosing | hphase
  · exact absurd hstalled.unrequested (ne_false_of_eq_true hclosing)
  · exact hphase.not_stalled hstalled

end Steps

/-- **The handshake does not stall** in a run in which the central, when it gets the WELCOME of
the peripheral, does not find itself the bigger one. -/
theorem never_stalled {pair pair' : Pair} (hfresh : Fresh pair) {events : List LinkEvent}
    (hrun : Run apply (fun pair event => pair.Enabled event ∧ pair.Concedes event)
      pair events pair') : ¬ Stalled pair' := by
  have htalking : Talking pair' :=
    hrun.preserves (fun _ _ h hallowed => h.step hallowed.1 hallowed.2) (Or.inr hfresh.phase)
  exact htalking.not_stalled

section Decidable

instance (message : Message) : Decidable (IsUpdate message) :=
  decidable_of_iff (typeOf message = messageTypeClusterInfoUpdate ∧
      receiverOf message = nodeIdBroadcast ∧
        message.bytes.length = sizeofConnPacketClusterInfoUpdate)
    ⟨fun ⟨htype, hreceiver, hlength⟩ => ⟨htype, hreceiver, hlength⟩,
      fun h => ⟨h.type, h.receiver, h.length⟩⟩

instance (pair : Pair) (event : LinkEvent) : Decidable (pair.Enabled event) := by
  cases event <;> unfold Enabled <;> infer_instance

instance (pair : Pair) (event : LinkEvent) : Decidable (pair.Concedes event) := by
  cases event with
  | deliver s memory =>
      cases s with
      | central =>
          unfold Concedes
          dsimp only
          cases pair.inbox .central <;> infer_instance
      | peripheral => exact isTrue trivial
  | connected _ => exact isTrue trivial
  | elsewhere _ _ _ _ => exact isTrue trivial

end Decidable

/-- A node with the size two, that has done the handshake with the node 9. -/
def nodeOfTwo (nodeId : NodeId) (clusterId : ClusterId) : Node :=
  { Node.startedNode nodeId clusterId with clusterSize := 2 }.setConnection ⟨2, by decide⟩
    ⟨true, true, 9, clusterId, 1, -1, 14⟩

/-- Two such nodes. -/
def pairOfTwos : Pair where
  node
    | .central => nodeOfTwo 1 1
    | .peripheral => nodeOfTwo 2 2
  out := ⟨⟨1, one_lt_meshMaxConnections⟩, by decide⟩
  inbox := fun _ => []
  closing := false

theorem pairOfTwos_fresh : Fresh pairOfTwos where
  isConnected := fun s => by cases s <;> rfl
  handshakeDone := fun s => by cases s <;> rfl
  inbox := fun _ => rfl
  closing := rfl

def undisturbed : List LinkEvent :=
  [.connected .central, .connected .peripheral, .deliver .peripheral zeros,
    .deliver .central zeros, .deliver .peripheral zeros, .deliver .central zeros]

theorem never_stalled_undisturbed : ¬ Stalled (undisturbed.foldl apply pairOfTwos) :=
  never_stalled pairOfTwos_fresh (Run.of_replays (by decide))

/-- The central learns of one node more after it has sent its WELCOME. -/
def centralGrows : List LinkEvent :=
  [.connected .central, .connected .peripheral, .deliver .peripheral zeros,
    .elsewhere .central
      (((nodeOfTwo 1 1).connectionSuccessfulHandler ⟨1, one_lt_meshMaxConnections⟩).1
        |>.receivePacketHandler ⟨2, by decide⟩ (arrive oneMore zeros)).1 [] false,
    .deliver .central zeros]

theorem stalled_centralGrows : Stalled (centralGrows.foldl apply pairOfTwos) where
  connected := fun s => by cases s <;> decide
  silent := by
    have hinbox : ∀ s, (centralGrows.foldl apply pairOfTwos).inbox s = [] := by
      intro s
      cases s <;> decide
    intro s message hmem
    rw [hinbox s] at hmem
    exact absurd hmem List.not_mem_nil
  unrequested := by decide
  undone := ⟨.central, by decide⟩

theorem stalls : ¬ ∀ (pair pair' : Pair) (events : List LinkEvent), Fresh pair →
    Run apply Enabled pair events pair' → ¬ Stalled pair' := by
  intro h
  exact h pairOfTwos _ centralGrows pairOfTwos_fresh (Run.of_replays (by decide)) stalled_centralGrows

end Pair

end FruityMesh.Mesh
