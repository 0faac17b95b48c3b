import FruityMesh.Mesh.Accounting
import FruityMesh.Mesh.Phone

/-!
# How long a node waits for the second write of a phone

A node that has taken a write of a phone for a WELCOME takes the next one for an ACK_1.  It
remembers this in a flag of the node, but the two writes are made on a connection.  When that
connection is lost the flag should go with it, and the next phone be greeted from the start.

The flag is taken back at the end of a connection whose partner is known to be a phone, and
only if the phone has ended it.  But the partner is known from the first write only if the
node then leaves its cluster for the one that the phone tells of.  So the flag can stay, and
the first write of the next phone is taken for an ACK_1 (`flag_follows_iff`).
-/

namespace FruityMesh.Mesh

open Cells Transport Runs
open Node (startedNode)

/-! ## The two passes -/

/-- A write of a phone that is taken for a packet of the handshake. -/
inductive Pass
  | first
  | second
  deriving DecidableEq, Repr

namespace Node

variable (node : Node) (i : Slot) (packet : ConnectionPacket)

/-- The pass of a packet, if it is one. -/
def passOf : Option Pass :=
  if messageTypeAt packet.data = messageTypeUartWrite ∧ node.phoneConnected = false then
    some (if node.inFeignHandshakeMode = false then .first else .second)
  else none

/-- The packet is handled as a WELCOME of a node that is no node. -/
def TakesForWelcome : Prop :=
  node.receivePacketHandler i packet =
    (node.feigning true).routeAndProcess i
      (feigned packet.data nodeIdBroadcast messageTypeClusterWelcome)
      (BitVec.ofNat 16 sizeofConnPacketClusterWelcome) packet

/-- It is handled as an ACK_1 for this node. -/
def TakesForAck1 : Prop :=
  node.receivePacketHandler i packet =
    (node.feigning false).routeAndProcess i
      (feigned packet.data node.nodeId messageTypeClusterAck1)
      (BitVec.ofNat 16 sizeofConnPacketClusterAck1) packet

/-- The handshake itself does not touch the flag. -/
theorem process_flag (data : ℕ → U8) (dataLength : U16) :
    (node.process i data dataLength packet).1.inFeignHandshakeMode =
      node.inFeignHandshakeMode := by
  have hcallback : (node.messageReceivedCallback (some i) data packet.dataLength).inFeignHandshakeMode
      = node.inFeignHandshakeMode := by
    unfold messageReceivedCallback updateClusterInfo
    dsimp only
    split_ifs <;> rfl
  unfold process
  split_ifs
  · unfold receiveClusterWelcome
    dsimp only
    split_ifs <;> rfl
  · rfl
  · rfl
  · rfl
  · rfl
  · rfl
  · exact hcallback
  · rfl

/-- The flag after a packet. -/
theorem receive_flag :
    (node.receivePacketHandler i packet).1.inFeignHandshakeMode =
      match node.passOf packet with
      | some .first => true
      | some .second => false
      | none => node.inFeignHandshakeMode := by
  by_cases huart : messageTypeAt packet.data = messageTypeUartWrite
  · cases hphone : node.phoneConnected with
    | true =>
        have hpass : node.passOf packet = none := if_neg fun h => by simp [hphone] at h
        rw [(node.receive_toggle huart hphone).1, hpass]
    | false =>
        have hpass : node.passOf packet =
            some (if node.inFeignHandshakeMode = false then .first else .second) :=
          if_pos ⟨huart, hphone⟩
        rw [receivePacketHandler, if_pos huart, if_neg (by simp [hphone]), hpass]
        by_cases hmode : node.inFeignHandshakeMode = false
        · rw [if_pos hmode, if_pos hmode]
          exact process_flag _ i packet _ _
        · rw [if_neg hmode, if_neg hmode]
          exact process_flag _ i packet _ _
  · have hpass : node.passOf packet = none := if_neg fun h => huart h.1
    rw [receivePacketHandler, if_neg huart, hpass]
    exact process_flag _ i packet _ _

variable {node i packet}

theorem TakesForWelcome.flag (h : node.TakesForWelcome i packet) :
    (node.receivePacketHandler i packet).1.inFeignHandshakeMode = true := by
  rw [h]
  exact process_flag _ i packet _ _

theorem TakesForAck1.flag (h : node.TakesForAck1 i packet) :
    (node.receivePacketHandler i packet).1.inFeignHandshakeMode = false := by
  rw [h]
  exact process_flag _ i packet _ _

/-- A node that does not wait for a second write takes a write for a WELCOME, unless it knows a
phone already. -/
theorem takesForWelcome_iff (huart : messageTypeAt packet.data = messageTypeUartWrite)
    (hmode : node.inFeignHandshakeMode = false) :
    node.TakesForWelcome i packet ↔ node.phoneConnected = false := by
  constructor
  · intro h
    by_contra hphone
    rw [Bool.not_eq_false] at hphone
    have hsame := (node.receive_toggle huart hphone (i := i)).1
    have hflag := h.flag
    rw [hsame, hmode] at hflag
    exact absurd hflag (by decide)
  · intro hphone
    rw [TakesForWelcome, receivePacketHandler, if_pos huart, if_neg (by simp [hphone]),
      if_pos hmode]
    rfl

end Node

/-! ## A node and its connections -/

/-- The connection that an event is about. -/
def NodeEvent.slot : NodeEvent → Slot
  | .connectAsMaster i _ => i
  | .connected i => i
  | .packet i _ => i
  | .disconnected i _ _ => i

namespace Node

/-- What the stack can tell the node. -/
def Occurs (node : Node) : NodeEvent → Prop
  | .connectAsMaster i _ => (node.connections i).isConnected = false
  | .connected i => (node.connections i).isConnected = false
  | .packet i _ => (node.connections i).isConnected = true
  | .disconnected i _ _ => (node.connections i).isConnected = true

variable (node : Node)

theorem apply_other (event : NodeEvent) {k : Slot} (hk : k ≠ event.slot) :
    (node.apply event).connections k = node.connections k := by
  cases event with
  | connectAsMaster i handle =>
      rw [apply, connectAsMaster, setConnection_connections]
      exact if_neg hk
  | connected i => exact node.effect_connected.other k hk
  | packet i packet => exact node.receivePacketHandler_other hk packet
  | disconnected i reason generated => exact node.disconnected_other hk reason generated

/-- The flag after a connection has ended. -/
theorem disconnected_flag (i : Slot) (reason : U8) (generated : ClusterId) :
    (node.disconnectionHandler i reason generated).1.inFeignHandshakeMode =
      if ((node.connections i).partnerId = bleNodeId ∨
          (node.connections i).partnerId = bleNodeId + 1) ∧ reason = 19 then false
      else node.inFeignHandshakeMode := by
  have hleft : ∀ closed : Node,
      (closed.nodeDisconnectionHandler i generated).1.connections = closed.connections ∧
        (closed.nodeDisconnectionHandler i generated).1.inFeignHandshakeMode =
          closed.inFeignHandshakeMode := by
    intro closed
    unfold nodeDisconnectionHandler
    dsimp only
    split_ifs <;> exact ⟨rfl, rfl⟩
  obtain ⟨hconnections, hflag⟩ := hleft (node.setConnection i
    { node.connections i with isConnected := false })
  unfold disconnectionHandler connectionDisconnectionHandler
  dsimp only
  rw [hconnections, setConnection_connections, if_pos rfl]
  dsimp only
  split_ifs
  · rfl
  · exact hflag

end Node

/-- A node, and what has come over its connections since they were established. -/
structure Watched where
  node : Node
  /-- Nothing has come over the connection. -/
  silent : Slot → Bool
  /-- The first pass of the connection has been, and the second has not. -/
  halfway : Slot → Bool

namespace Watched

def apply (w : Watched) (event : NodeEvent) : Watched where
  node := w.node.apply event
  silent := match event with
    | .connectAsMaster _ _ => w.silent
    | .connected i => Function.update w.silent i true
    | .packet i _ => Function.update w.silent i false
    | .disconnected i _ _ => Function.update w.silent i false
  halfway := match event with
    | .connectAsMaster _ _ => w.halfway
    | .connected i => Function.update w.halfway i false
    | .packet i packet =>
        match w.node.passOf packet with
        | some .first => Function.update w.halfway i true
        | some .second => Function.update w.halfway i false
        | none => w.halfway
    | .disconnected i _ _ => Function.update w.halfway i false

/-- Nothing has been seen of the connections of the node. -/
def start (node : Node) : Watched := ⟨node, fun _ => false, fun _ => false⟩

def Occurs (w : Watched) (event : NodeEvent) : Prop := w.node.Occurs event

/-- No connection that is established is between its two passes. -/
def Settled (w : Watched) : Prop :=
  ∀ i, (w.node.connections i).isConnected = true → w.halfway i = false

/-- The node waits for a second write only for a connection that is established. -/
def FlagFollows (w : Watched) : Prop := w.Settled → w.node.inFeignHandshakeMode = false

/-- The first write of a phone that has just connected is taken for a WELCOME. -/
def GreetsFirst (w : Watched) : NodeEvent → Prop
  | .packet i packet => messageTypeAt packet.data = messageTypeUartWrite → w.silent i = true →
      w.Settled → w.node.TakesForWelcome i packet ∧ ¬ w.node.TakesForAck1 i packet
  | _ => True

/-- What is expected of a step. -/
def AsExpected (w : Watched) (event : NodeEvent) : Prop :=
  w.GreetsFirst event ∧ (w.apply event).FlagFollows

/-- If the node waits for the second write of a connection and of no other, then that connection
is ended by a phone that is known to be one; and a phone that has just connected is the only
one. -/
def Clears (w : Watched) : NodeEvent → Prop
  | .disconnected i reason _ => w.node.inFeignHandshakeMode = true → w.halfway i = true →
      (∀ k ≠ i, w.halfway k = false) →
        ((w.node.connections i).partnerId = bleNodeId ∨
          (w.node.connections i).partnerId = bleNodeId + 1) ∧ reason = 19
  | .packet i packet => messageTypeAt packet.data = messageTypeUartWrite → w.silent i = true →
      w.Settled → w.node.phoneConnected = false
  | _ => True

/-- Where the node waits for a second write, there is a connection that it waits for. -/
structure Waits (w : Watched) : Prop where
  isConnected : ∀ i, w.halfway i = true → (w.node.connections i).isConnected = true
  halfway : w.node.inFeignHandshakeMode = true → ∃ i, w.halfway i = true

variable {w w' : Watched} {event : NodeEvent}

theorem Waits.flagFollows (h : Waits w) : w.FlagFollows := by
  intro hsettled
  by_contra hflag
  rw [Bool.not_eq_false] at hflag
  obtain ⟨i, hi⟩ := h.halfway hflag
  exact absurd (hsettled i (h.isConnected i hi)) (ne_false_of_eq_true hi)

theorem halfway_other (w : Watched) (event : NodeEvent) {k : Slot} (hk : k ≠ event.slot) :
    (w.apply event).halfway k = w.halfway k := by
  cases event with
  | connectAsMaster i handle => rfl
  | connected i => exact Function.update_of_ne hk _ _
  | packet i packet =>
      unfold apply
      dsimp only
      cases w.node.passOf packet with
      | none => rfl
      | some pass => cases pass <;> exact Function.update_of_ne hk _ _
  | disconnected i reason generated => exact Function.update_of_ne hk _ _

/-- After an event, a connection that is halfway is still established. -/
theorem Waits.isConnected_step (h : Waits w) (hoccurs : w.Occurs event) (k : Slot)
    (hk : (w.apply event).halfway k = true) :
    ((w.apply event).node.connections k).isConnected = true := by
  by_cases hslot : k = event.slot
  · cases event with
    | connectAsMaster i handle =>
        have hwas := h.isConnected k hk
        rw [hslot] at hwas
        exact absurd hoccurs (ne_false_of_eq_true hwas)
    | connected i =>
        rw [hslot]
        exact w.node.connected_answer.1
    | packet i packet =>
        rw [hslot]
        exact (w.node.receivePacketHandler_self packet).1.trans hoccurs
    | disconnected i reason generated =>
        have hgone : (w.apply (.disconnected i reason generated)).halfway k = false := by
          rw [hslot]
          exact Function.update_self ..
        exact absurd hgone (ne_false_of_eq_true hk)
  · have hconnection := w.node.apply_other event hslot
    rw [w.halfway_other event hslot] at hk
    exact (congrArg Connection.isConnected hconnection).trans (h.isConnected k hk)

/-- After an event that clears what it should, a connection is waited for. -/
theorem Waits.halfway_step (h : Waits w) (hoccurs : w.Occurs event) (hclears : w.Clears event)
    (hflag : (w.apply event).node.inFeignHandshakeMode = true) :
    ∃ k, (w.apply event).halfway k = true := by
  cases event with
  | connectAsMaster i handle => exact h.halfway hflag
  | connected i =>
      obtain ⟨k, hk⟩ := h.halfway hflag
      refine ⟨k, ?_⟩
      rw [← hk]
      -- a slot that is connected anew cannot be the one waited for
      apply w.halfway_other
      rintro rfl
      exact absurd hoccurs (ne_false_of_eq_true (h.isConnected _ hk))
  | packet i packet =>
      have hafter := w.node.receive_flag i packet
      cases hpass : w.node.passOf packet with
      | none =>
          rw [hpass] at hafter
          obtain ⟨k, hk⟩ := h.halfway (hafter.symm.trans hflag)
          refine ⟨k, ?_⟩
          simp only [apply, hpass]
          exact hk
      | some pass =>
          cases pass with
          -- the packet sets the flag, and its connection is the one to wait for
          | first =>
              refine ⟨i, ?_⟩
              simp only [apply, hpass]
              exact Function.update_self ..
          | second =>
              -- the second packet clears the flag
              rw [hpass] at hafter
              exact absurd (hafter.symm.trans hflag) Bool.false_ne_true
  | disconnected i reason generated =>
      have hafter := w.node.disconnected_flag i reason generated
      by_cases hphone : ((w.node.connections i).partnerId = bleNodeId ∨
          (w.node.connections i).partnerId = bleNodeId + 1) ∧ reason = 19
      · rw [if_pos hphone] at hafter
        exact absurd (hafter.symm.trans hflag) Bool.false_ne_true
      · rw [if_neg hphone] at hafter
        have hbefore := hafter.symm.trans hflag
        obtain ⟨k, hk⟩ := h.halfway hbefore
        by_cases hki : k = i
        · -- the connection is not the only one that is halfway
          rw [hki] at hk
          have hother : ∃ j ≠ i, w.halfway j = true := by
            by_contra hnone
            apply hphone
            apply hclears hbefore hk
            intro j hj
            by_contra hhalfway
            exact hnone ⟨j, hj, by simpa using hhalfway⟩
          obtain ⟨j, hj, hhalfway⟩ := hother
          refine ⟨j, ?_⟩
          rw [w.halfway_other _ hj]
          exact hhalfway
        · refine ⟨k, ?_⟩
          rw [w.halfway_other _ hki]
          exact hk

theorem Waits.step (h : Waits w) (hoccurs : w.Occurs event) (hclears : w.Clears event) :
    Waits (w.apply event) :=
  ⟨h.isConnected_step hoccurs, h.halfway_step hoccurs hclears⟩

theorem waits_start {node : Node} (hmode : node.inFeignHandshakeMode = false) :
    Waits (start node) where
  isConnected := fun _ hi => absurd hi Bool.false_ne_true
  halfway := fun hflag => absurd (hmode.symm.trans hflag) Bool.false_ne_true

/-- What a phone that has just connected writes is taken for a WELCOME if it is the only one. -/
theorem Waits.greetsFirst_iff (h : Waits w) {i : Slot} {packet : ConnectionPacket} :
    w.GreetsFirst (.packet i packet) ↔ w.Clears (.packet i packet) := by
  constructor
  · intro hgreets huart hsilent hsettled
    obtain ⟨hwelcome, -⟩ := hgreets huart hsilent hsettled
    exact (Node.takesForWelcome_iff huart (h.flagFollows hsettled)).mp hwelcome
  · intro hclears huart hsilent hsettled
    have hwelcome : w.node.TakesForWelcome i packet :=
      (Node.takesForWelcome_iff huart (h.flagFollows hsettled)).mpr
        (hclears huart hsilent hsettled)
    refine ⟨hwelcome, ?_⟩
    intro hack1
    exact absurd hack1.flag (ne_false_of_eq_true hwelcome.flag)

/-- After the end of the only connection that is halfway, the flag is to be taken back. -/
theorem clears_of_flagFollows {i : Slot} {reason : U8} {generated : ClusterId}
    (hfollows : (w.apply (.disconnected i reason generated)).FlagFollows) :
    w.Clears (.disconnected i reason generated) := by
  intro hbefore hhalfway honly
  by_contra hphone
  have hafter := w.node.disconnected_flag i reason generated
  rw [if_neg hphone, hbefore] at hafter
  have hsettled : (w.apply (.disconnected i reason generated)).Settled := by
    intro k _
    by_cases hk : k = i
    · rw [hk]
      exact Function.update_self ..
    · rw [w.halfway_other _ hk]
      exact honly k hk
  exact absurd hafter (ne_true_of_eq_false (hfollows hsettled))

/-- **A step is as expected** exactly if it clears what it should. -/
theorem Waits.asExpected_iff (h : Waits w) (hoccurs : w.Occurs event) :
    w.AsExpected event ↔ w.Clears event := by
  constructor
  · rintro ⟨hgreets, hfollows⟩
    cases event with
    | connectAsMaster i handle => trivial
    | connected i => trivial
    | packet i packet => exact h.greetsFirst_iff.mp hgreets
    | disconnected i reason generated => exact clears_of_flagFollows hfollows
  · intro hclears
    refine ⟨?_, (h.step hoccurs hclears).flagFollows⟩
    cases event with
    | connectAsMaster i handle => trivial
    | connected i => trivial
    | packet i packet => exact h.greetsFirst_iff.mpr hclears
    | disconnected i reason generated => trivial

/-- **The flag goes with its connection**, and every phone is greeted from the start, in exactly
those runs in which the connection that the node waits for is ended by a phone that it knows,
and in which a phone that has just connected is the only one. -/
theorem flag_follows_iff {node : Node} (hmode : node.inFeignHandshakeMode = false)
    (events : List NodeEvent) (w : Watched) :
    Run apply (fun w event => w.Occurs event ∧ w.AsExpected event) (start node) events w ↔
      Run apply (fun w event => w.Occurs event ∧ w.Clears event) (start node) events w := by
  have hiff : ∀ w event, Waits w →
      (w.Occurs event ∧ w.Clears event ↔ w.Occurs event ∧ w.AsExpected event) := by
    intro w event h
    exact and_congr_right fun hoccurs => (h.asExpected_iff hoccurs).symm
  exact (Run.iff_of_invariant (fun _ _ h hok => h.step hok.1 hok.2) hiff (waits_start hmode)).symm

section Decidable

instance (node : Node) (event : NodeEvent) : Decidable (node.Occurs event) :=
  match event with
  | .connectAsMaster _ _ => inferInstanceAs (Decidable (_ = _))
  | .connected _ => inferInstanceAs (Decidable (_ = _))
  | .packet _ _ => inferInstanceAs (Decidable (_ = _))
  | .disconnected _ _ _ => inferInstanceAs (Decidable (_ = _))

instance (w : Watched) (event : NodeEvent) : Decidable (w.Occurs event) :=
  inferInstanceAs (Decidable (w.node.Occurs event))

instance (w : Watched) : Decidable w.Settled := by
  unfold Settled
  infer_instance

instance (w : Watched) (event : NodeEvent) : Decidable (w.Clears event) :=
  match event with
  | .disconnected _ _ _ => inferInstanceAs (Decidable (_ → _ → _ → _ ∧ _))
  | .packet _ _ => inferInstanceAs (Decidable (_ → _ → _ → _))
  | .connectAsMaster _ _ => isTrue trivial
  | .connected _ => isTrue trivial

end Decidable

/-- A write of a phone that tells of the cluster 0 with two nodes. -/
def ofTwoNodes : ConnectionPacket :=
  ⟨overwrite (overwrite (fun _ => 0) 11 [2]) 0 [78], 20, true⟩

/-- A phone connects, writes once, and ends the connection. -/
def phoneGoes (write : ConnectionPacket) : List NodeEvent :=
  [.connected inConnection, .packet inConnection write, .disconnected inConnection 19 7]

/-- The node has left its cluster for the one that the phone tells of, so it knows the phone. -/
theorem flag_follows_iff_smaller :
    Run apply (fun w event => w.Occurs event ∧ w.AsExpected event) (start (startedNode 1 1))
      (phoneGoes ofTwoNodes) ((phoneGoes ofTwoNodes).foldl apply (start (startedNode 1 1))) :=
  (flag_follows_iff rfl _ _).mpr (Run.of_replays (by decide))

/-- The phone tells of a smaller cluster: it is gone, and the node still waits. -/
theorem flag_stays :
    ¬ ∀ (node : Node) (events : List NodeEvent) (w : Watched),
        node.inFeignHandshakeMode = false → Run apply Occurs (start node) events w →
          w.FlagFollows := by
  intro hall
  have hrun : Run apply Occurs (start (startedNode 1 1)) (phoneGoes emptyWrite)
      ((phoneGoes emptyWrite).foldl apply (start (startedNode 1 1))) :=
    Run.of_replays (by decide)
  exact absurd (hall _ _ _ rfl hrun (by decide)) (by decide)

end Watched

end FruityMesh.Mesh
