import FruityMesh.Mesh.Sizes

/-!
# Links without their counts

How far the two ends of a link are with the handshake does not depend on what the nodes count.
Two ends are at some stage (`Staged`) if they are at a stage of `Flow` with other counts, which
each link may choose for itself.  So a node may read any size in an ACK_2, and the links stay
in order (`Paired.step`).
-/

namespace FruityMesh.Mesh

open LittleEndian Transport Ports SimpleGraph

/-! ## Two ends -/

/-- The end with other counts. -/
def End.counting (a : End) (clusterSize connectedClusterSize : ClusterSize) : End :=
  { a with clusterSize := clusterSize, connectedClusterSize := connectedClusterSize }

/-- The two ends are at some stage of the handshake. -/
def Staged (a b : End) : Prop :=
  ∃ size share size' share',
    Flow (a.counting size share) (b.counting size' share') ∧
      Flow (b.counting size' share') (a.counting size share)

namespace Staged

variable {a b : End} {message : Message} {rest out : List Message}

theorem symm (h : Staged a b) : Staged b a := by
  obtain ⟨size, share, size', share', hflow, hback⟩ := h
  exact ⟨size', share', size, share, hback, hflow⟩

/-- An end that is not done with the handshake may count anything. -/
theorem recount (h : Staged a b) (ha : a.handshakeDone = false) (size share : ClusterSize) :
    ∃ size' share', Flow (a.counting size share) (b.counting size' share') ∧
      Flow (b.counting size' share') (a.counting size share) := by
  obtain ⟨_, _, size', share', hflow, hback⟩ := h
  refine ⟨size', share', ⟨hflow.direction, hflow.connected, hflow.updates, ?_, hflow.confirming,
    hflow.greeting, hflow.unconnected⟩, hback.direction, hback.connected, hback.updates, ?_, ?_,
    hback.greeting, hback.unconnected⟩
  · exact fun hdone => absurd ha (ne_false_of_eq_true hdone)
  · exact fun _ hdone => absurd ha (ne_false_of_eq_true hdone)
  · exact fun _ hdone => absurd ha (ne_false_of_eq_true hdone)

theorem fresh (hdirection : a.outgoing = !b.outgoing) (ha : a.handshakeDone = false)
    (hb : b.handshakeDone = false) (hinbox : a.inbox = []) (hinbox' : b.inbox = []) : Staged a b :=
  ⟨0, 0, 0, 0, .fresh hdirection ha hb hinbox hinbox',
    .fresh (by rw [show (a.counting 0 0).outgoing = _ from hdirection, Bool.not_not]; rfl) hb ha
      hinbox' hinbox⟩

/-- The node at `b` tells something if it is done with the handshake. -/
theorem elsewhere (h : Staged a b) (hsilent : b.handshakeDone = false → out = [])
    (htold : b.handshakeDone = true → ∀ m ∈ out, IsUpdate m) :
    Staged { a with inbox := a.inbox ++ out } b := by
  obtain ⟨size, share, size', share', hflow, hback⟩ := h
  have hmoved := hflow.elsewhere hback (changes out) hsilent fun hdone => ⟨htold hdone, rfl⟩
  exact ⟨size, share, size' + changes out, share', hmoved⟩

/-- `a` receives an UPDATE. -/
theorem update (h : Staged a b) (ha : a.handshakeDone = true) (hinbox : a.inbox = message :: rest) :
    Staged { a with inbox := rest } b := by
  obtain ⟨size, share, size', share', hflow, hback⟩ := h
  exact ⟨size + changeOf message, share + changeOf message, size', share',
    hflow.update hback ha hinbox⟩

theorem connect (h : Staged a b) : Staged { a with isConnected := true } b := by
  obtain ⟨size, share, size', share', hflow, hback⟩ := h
  exact ⟨size, share, size', share', hflow.connect hback⟩

/-- `a` answers at most with a packet of the handshake. -/
theorem greet (h : Staged a b) (ha : a.handshakeDone = false) (hb : b.handshakeDone = false)
    (hinbox : b.inbox = [])
    (hout : out = [] ∨ ∃ message, out = [message] ∧ IsGreeting a.nodeId b.nodeId message)
    (hconnected : b.outgoing = true → b.isConnected = false → out = []) :
    Staged { a with isConnected := true, inbox := [] } { b with inbox := b.inbox ++ out } := by
  obtain ⟨size, share, size', share', hflow, _⟩ := h
  exact ⟨size, share, size', share', hflow.greet ha hb hinbox out hout hconnected⟩

/-- `a` answers an ACK_1 with an ACK_2. -/
theorem of_ack1 (hb : b.handshakeDone = false) (hconnected : a.isConnected = true)
    (hconnected' : b.isConnected = true) (hinbox : b.inbox = []) {ack : Message}
    (hack : IsAck2 b.nodeId ack) {size : ClusterSize}
    (hsize : [sizeByteOf ack] = @lowBytes 1 (size + 1)) :
    Staged { a with handshakeDone := true, inbox := [] } { b with inbox := b.inbox ++ [ack] } := by
  have hflow := @Flow.of_ack1 (a.counting size 0) b hb hconnected hconnected' hinbox rfl ack hack hsize
  exact ⟨size + 1, 0 + 1, b.clusterSize, b.connectedClusterSize, hflow⟩

/-- `a` receives an ACK_2. -/
theorem ack2 (h : Staged a b) (ha : a.handshakeDone = false) (hb : b.handshakeDone = true)
    (hinbox : a.inbox = message :: rest) : Staged { a with handshakeDone := true, inbox := rest } b := by
  obtain ⟨size', share', hflow, hback⟩ := h.recount ha 1 0
  have hmoved := hflow.ack2 hback ha hb rfl rfl hinbox rfl
  exact ⟨_, _, size', share', hmoved⟩

/-! ### What is on its way -/

theorem isUpdate (h : Staged a b) (ha : a.handshakeDone = true) : ∀ m ∈ a.inbox, IsUpdate m := by
  obtain ⟨_, _, _, _, hflow, hback⟩ := h
  exact hflow.isUpdate hback ha

theorem inbox_eq_nil (h : Staged a b) (ha : a.handshakeDone = true) (hb : b.handshakeDone = false) :
    a.inbox = [] := by
  obtain ⟨_, _, _, _, _, hback⟩ := h
  exact hback.inbox_eq_nil ha hb

theorem orderly (h : Staged a b) (hconnected : a.isConnected = true) : Orderly a := by
  obtain ⟨size, share, _, _, hflow, hback⟩ := h
  have horderly := hflow.orderly hback hconnected
  exact ⟨horderly.unconnected, horderly.updates, horderly.handshake⟩

theorem undone_of_greeting (h : Staged a b) {source destination : NodeId}
    (hinbox : a.inbox = message :: rest) (hgreeting : IsGreeting source destination message) :
    a.handshakeDone = false ∧ b.handshakeDone = false := by
  obtain ⟨_, _, _, _, hflow, hback⟩ := h
  exact hflow.undone_of_greeting hback hinbox hgreeting

/-- Before the handshake there is at most a greeting of the partner on its way, which waits for
the answer. -/
theorem greeting (h : Staged a b) (ha : a.handshakeDone = false) (hb : b.handshakeDone = false)
    (hinbox : a.inbox = message :: rest) :
    rest = [] ∧ IsGreeting b.nodeId a.nodeId message ∧ b.inbox = [] ∧ b.isConnected = true := by
  obtain ⟨_, _, _, _, hflow, _⟩ := h
  rcases hflow.greeting ha hb with hnil | ⟨m, hone, hgreeting, hempty, hconnected⟩
  · exact absurd (hinbox.symm.trans hnil) (List.cons_ne_nil _ _)
  · obtain ⟨rfl, rfl⟩ := List.cons_eq_cons.mp (hinbox.symm.trans hone)
    exact ⟨rfl, hgreeting, hempty, hconnected⟩

/-- Where only the partner is done, the ACK_2 is on its way. -/
theorem confirming (h : Staged a b) (ha : a.handshakeDone = false) (hb : b.handshakeDone = true) :
    IsConfirmation a.nodeId a.inbox := by
  obtain ⟨_, _, _, _, hflow, _⟩ := h
  obtain ⟨_, _, _, ack, rest, hinbox, hack, hrest, _⟩ := hflow.confirming ha hb
  exact ⟨ack, rest, hinbox, hack, hrest⟩

theorem undone_of_unconnected (h : Staged a b) (hconnected : a.isConnected = false) :
    a.handshakeDone = false ∧ b.handshakeDone = false := by
  obtain ⟨_, _, _, _, hflow, _⟩ := h
  exact hflow.undone_of_unconnected hconnected

theorem unconnected (h : Staged a b) (houtgoing : a.outgoing = true)
    (hconnected : a.isConnected = false) : a.inbox = [] ∧ b.inbox = [] := by
  obtain ⟨_, _, _, _, hflow, _⟩ := h
  exact hflow.unconnected houtgoing hconnected

theorem direction (h : Staged a b) (ha : a.handshakeDone = false) (hb : b.handshakeDone = false) :
    a.outgoing = !b.outgoing := by
  obtain ⟨_, _, _, _, hflow, _⟩ := h
  exact hflow.direction ha hb

end Staged

/-! ## The mesh -/

namespace Net

variable {V : Type*}

/-- No other connection of the node has done its handshake. -/
def Single (net : Net V) (v : V) (i : Slot) : Prop :=
  ∀ k, k ≠ i → (net.connection v k).handshakeDone = false

/-- The ends of each link are at some stage of the handshake, and the links with a handshake form
a forest. -/
structure Paired (net : Net V) : Prop where
  nodeId : ∀ v, (net.node v).nodeId ≠ nodeIdBroadcast
  twoWay : ∀ {v i u j}, net.peer v i = some (u, j) → net.peer u j = some (v, i)
  loopless : ∀ {v i u j}, net.peer v i = some (u, j) → v ≠ u
  connected : ∀ v i, (net.connection v i).handshakeDone = true →
    (net.connection v i).isConnected = true
  unlinked : ∀ v i, net.peer v i = none → net.inbox v i = []
  staged : ∀ {v i u j}, net.peer v i = some (u, j) → Staged (net.endAt v i) (net.endAt u j)
  wired : Wired net.handshaken
  acyclic : (graph net.handshaken).IsAcyclic

variable {net : Net V} {v : V} {i : Slot}

theorem Paired.undone (h : Paired net) (w : V) (k : Slot)
    (hunconnected : (net.connection w k).isConnected = false) :
    (net.connection w k).handshakeDone = false := by
  apply Bool.eq_false_of_not_eq_true
  intro hdone
  exact absurd hunconnected (ne_false_of_eq_true (h.connected w k hdone))

variable [DecidableEq V]

/-- The node `v` has taken what is on its way to its connection `i`, but for `rest`. -/
abbrev handling (net : Net V) (v : V) (i : Slot) (rest : List Message)
    (result : Node × List Action) : Net V :=
  (net.withInbox v i rest).after v result

/-- The step lemma of every handler: what is to be shown is about its own connection. -/
theorem Paired.after (h : Paired net) {rest : List Message} {result : Node × List Action}
    {change : ClusterSize} (heffect : Effect (net.node v) i result change)
    (hlinked : net.peer v i ≠ none)
    (hconnected : (result.1.connections i).handshakeDone = true →
      (result.1.connections i).isConnected = true)
    (hstaged : ∀ {u j}, net.peer v i = some (u, j) →
      Staged ((net.handling v i rest result).endAt v i)
        { net.endAt u j with inbox := net.inbox u j ++ sends result.2 i })
    (hwired : Wired (net.handling v i rest result).handshaken)
    (hacyclic : (graph (net.handling v i rest result).handshaken).IsAcyclic) :
    Paired (net.handling v i rest result) where
  nodeId := nodeId_after heffect h.nodeId
  twoWay := h.twoWay
  loopless := h.loopless
  connected := connected_after heffect h.connected hconnected
  unlinked := by
    intro w k hnone
    have hnone : net.peer w k = none := hnone
    have hne : ¬ (w = v ∧ k = i) := by
      rintro ⟨rfl, rfl⟩
      exact hlinked hnone
    rw [after_inbox, withInbox_peer, withInbox_inbox, post_of_none hnone, setInbox_other rest hne]
    exact h.unlinked w k hnone
  staged := by
    intro w k x l hpeer
    have hpeer' : net.peer w k = some (x, l) := hpeer
    have hwx := h.loopless hpeer'
    have hback := h.twoWay hpeer'
    -- the partner at another connection of `v` is told something if that one is done
    have htold : ∀ {m y n}, m ≠ i → net.peer v m = some (y, n) →
        Staged ((net.handling v i rest result).endAt y n) ((net.handling v i rest result).endAt v m) := by
      intro m y n hm hlink
      have hvy := h.loopless hlink
      rw [endAt_after_peer (h.twoWay hlink) hvy.symm, endAt_after_elsewhere h.loopless heffect hm]
      exact (h.staged (h.twoWay hlink)).elsewhere (heffect.silent m hm)
        fun hdone => (heffect.told m hm hdone).1
    by_cases hw : w = v
    · subst hw
      by_cases hk : k = i
      · subst hk
        rw [endAt_after_peer hback hwx.symm]
        exact hstaged hpeer'
      · exact (htold hk hpeer').symm
    · by_cases hx : x = v
      · subst hx
        by_cases hl : l = i
        · subst hl
          rw [endAt_after_peer hpeer' hwx]
          exact (hstaged hback).symm
        · exact htold hl hback
      · have hapart : ∀ {m}, net.peer w k ≠ some (v, m) := by
          intro m hm
          exact hx (Prod.mk.inj (Option.some.inj (hpeer'.symm.trans hm))).1
        have hapart' : ∀ {m}, net.peer x l ≠ some (v, m) := by
          intro m hm
          exact hw (Prod.mk.inj (Option.some.inj (hback.symm.trans hm))).1
        rw [endAt_after_other hapart hw, endAt_after_other hapart' hx]
        exact h.staged hpeer'
  wired := hwired
  acyclic := hacyclic

/-! ### The events -/

section Deliver

variable {message : Message} {rest : List Message} {memory : ℕ → U8}

theorem Paired.deliver_update (h : Paired net) (hinbox : net.inbox v i = message :: rest)
    (hlinked : net.peer v i ≠ none) (hdone : (net.connection v i).handshakeDone = true)
    (hupdate : IsUpdate message)
    (hwired : Wired (net.handling v i rest
      ((net.node v).receivePacketHandler i (arrive message memory))).handshaken)
    (hacyclic : (graph (net.handling v i rest
      ((net.node v).receivePacketHandler i (arrive message memory))).handshaken).IsAcyclic) :
    Paired (net.handling v i rest
      ((net.node v).receivePacketHandler i (arrive message memory))) := by
  have heffect := (net.node v).effect_update (i := i) memory hupdate (h.nodeId v)
  obtain ⟨hlinks, hsends⟩ := (net.node v).update_answer (i := i) memory hupdate
  apply h.after heffect hlinked ?_ ?_ hwired hacyclic
  · intro _
    rw [hlinks.isConnected]
    exact h.connected v i hdone
  · intro u j hpeer
    rw [endAt_after_self h.loopless heffect, hlinks.handshakeDone, hlinks.isConnected, hsends,
      List.append_nil]
    exact (h.staged hpeer).update hdone hinbox

theorem Paired.deliver_welcome (h : Paired net) (hinbox : net.inbox v i = [message])
    (hlinked : net.peer v i ≠ none) (hconnected : (net.connection v i).isConnected = true)
    (hundone : (net.connection v i).handshakeDone = false) {source : NodeId}
    (hwelcome : IsWelcome source message)
    (hwired : Wired (net.handling v i []
      ((net.node v).receivePacketHandler i (arrive message memory))).handshaken)
    (hacyclic : (graph (net.handling v i []
      ((net.node v).receivePacketHandler i (arrive message memory))).handshaken).IsAcyclic) :
    Paired (net.handling v i []
      ((net.node v).receivePacketHandler i (arrive message memory))) := by
  obtain ⟨hreceive, hsource⟩ := (net.node v).receive_welcome (i := i) memory hwelcome
  rw [hreceive] at hwired hacyclic ⊢
  have heffect := (net.node v).effect_welcome (i := i) (.ofMemory (arrive message memory).data)
  obtain ⟨hconnected', hdone', hanswer⟩ :=
    (net.node v).welcome_answer (i := i) (.ofMemory (arrive message memory).data)
  apply h.after heffect hlinked ?_ ?_ hwired hacyclic
  · intro hdone
    rw [hdone'] at hdone
    exact absurd hdone (ne_true_of_eq_false hundone)
  · intro u j hpeer
    have hstaged := h.staged hpeer
    obtain ⟨_, hpartner⟩ := hstaged.undone_of_greeting hinbox
      (Or.inl hwelcome : IsGreeting source (net.node v).nodeId message)
    obtain ⟨_, hgreeting, hempty, hspoken⟩ := hstaged.greeting hundone hpartner hinbox
    have hsender : (ConnPacketClusterWelcome.ofMemory (arrive message memory).data).header.sender =
        (net.node u).nodeId := by
      rcases hgreeting with hgreeting | hgreeting
      · exact hsource.trans (hwelcome.sender.symm.trans hgreeting.sender)
      · exact absurd (hwelcome.type.symm.trans hgreeting.type) (by decide)
    rw [hsender] at hanswer
    have hmoved := hstaged.greet hundone hpartner hempty hanswer
      fun _ hfalse => absurd hfalse (ne_false_of_eq_true hspoken)
    rw [endAt_after_self h.loopless heffect, hconnected', hdone']
    rw [← hconnected] at hmoved
    exact hmoved

theorem Paired.deliver_ack1 (h : Paired net) (hinbox : net.inbox v i = [message])
    (hlinked : net.peer v i ≠ none) (hconnected : (net.connection v i).isConnected = true)
    (hundone : (net.connection v i).handshakeDone = false) {source : NodeId}
    (hack1 : IsAck1 source (net.node v).nodeId message)
    (hwired : Wired (net.handling v i []
      ((net.node v).receivePacketHandler i (arrive message memory))).handshaken)
    (hacyclic : (graph (net.handling v i []
      ((net.node v).receivePacketHandler i (arrive message memory))).handshaken).IsAcyclic) :
    Paired (net.handling v i []
      ((net.node v).receivePacketHandler i (arrive message memory))) := by
  obtain ⟨hreceive, hsource, _⟩ := (net.node v).receive_ack1 (i := i) memory hack1
  rw [hreceive] at hwired hacyclic ⊢
  have heffect := (net.node v).effect_ack1 (i := i) (.ofMemory (arrive message memory).data)
  obtain ⟨hconnected', hdone', ack, hsends, hack, hsize⟩ :=
    (net.node v).ack1_answer (i := i) (.ofMemory (arrive message memory).data)
  apply h.after heffect hlinked ?_ ?_ hwired hacyclic
  · exact fun _ => hconnected'.trans hconnected
  · intro u j hpeer
    have hstaged := h.staged hpeer
    obtain ⟨_, hpartner⟩ := hstaged.undone_of_greeting hinbox
      (Or.inr hack1 : IsGreeting source (net.node v).nodeId message)
    obtain ⟨_, hgreeting, hempty, hspoken⟩ := hstaged.greeting hundone hpartner hinbox
    have hsender : (ConnPacketClusterAck1.ofMemory (arrive message memory).data).header.sender =
        (net.node u).nodeId := by
      rcases hgreeting with hgreeting | hgreeting
      · exact absurd (hack1.type.symm.trans hgreeting.type) (by decide)
      · exact hsource.trans (hack1.sender.symm.trans hgreeting.sender)
    rw [hsender] at hack
    rw [endAt_after_self h.loopless heffect, hconnected', hdone', hsends]
    exact .of_ack1 hpartner hconnected hspoken hempty hack hsize

theorem Paired.deliver_ack2 (h : Paired net) (hinbox : net.inbox v i = message :: rest)
    (hlinked : net.peer v i ≠ none) (hconnected : (net.connection v i).isConnected = true)
    (hundone : (net.connection v i).handshakeDone = false)
    (hack2 : IsAck2 (net.node v).nodeId message) (hsingle : net.Single v i)
    (hwired : Wired (net.handling v i rest
      ((net.node v).receivePacketHandler i (arrive message memory))).handshaken)
    (hacyclic : (graph (net.handling v i rest
      ((net.node v).receivePacketHandler i (arrive message memory))).handshaken).IsAcyclic) :
    Paired (net.handling v i rest
      ((net.node v).receivePacketHandler i (arrive message memory))) := by
  rw [(net.node v).receive_ack2 (i := i) memory hack2] at hwired hacyclic ⊢
  have heffect := (net.node v).effect_ack2 (i := i) (.ofMemory (arrive message memory).data) hsingle
  obtain ⟨hconnected', hdone'⟩ :=
    (net.node v).ack2_answer (i := i) (.ofMemory (arrive message memory).data)
  apply h.after heffect hlinked ?_ ?_ hwired hacyclic
  · exact fun _ => hconnected'.trans hconnected
  · intro u j hpeer
    have hstaged := h.staged hpeer
    have hpartner : (net.endAt u j).handshakeDone = true := by
      by_contra hpartner
      obtain ⟨_, hgreeting, _⟩ :=
        hstaged.greeting hundone (Bool.eq_false_of_not_eq_true hpartner) hinbox
      exact hack2.not_greeting hgreeting
    rw [endAt_after_self h.loopless heffect, hconnected', hdone', sends_nil, List.append_nil]
    exact hstaged.ack2 hundone hpartner hinbox

end Deliver

theorem Paired.deliver (h : Paired net) {memory : ℕ → U8}
    (henabled : net.Enabled (.deliver v i memory)) (hsingle : ∀ message rest,
      net.inbox v i = message :: rest → typeOf message = messageTypeClusterAck2 → net.Single v i) :
    Paired (net.apply (.deliver v i memory)) := by
  obtain ⟨hconnected, hsome⟩ := henabled
  obtain ⟨message, rest, hinbox⟩ := List.exists_cons_of_ne_nil hsome
  have hlinked : net.peer v i ≠ none := fun hnone => hsome (h.unlinked v i hnone)
  obtain ⟨⟨u, j⟩, hpeer⟩ := Option.ne_none_iff_exists'.mp hlinked
  have halone : ∀ {u j}, net.peer v i = some (u, j) → (net.connection v i).handshakeDone = false →
      (net.connection u j).handshakeDone = true → ∀ k, (net.connection v k).handshakeDone = false := by
    intro u j hpeer hundone hpartner k
    obtain ⟨ack, rest', hack, hisAck, _⟩ := (h.staged hpeer).confirming hundone hpartner
    by_cases hk : k = i
    · rw [hk]
      exact hundone
    · exact hsingle ack rest' hack hisAck.type k hk
  rw [apply_deliver hinbox]
  obtain ⟨hwired, hacyclic⟩ : Wired (net.apply (.deliver v i memory)).handshaken ∧
      (graph (net.apply (.deliver v i memory)).handshaken).IsAcyclic :=
    handshaken_deliver h.wired h.acyclic h.twoWay h.loopless hinbox halone
  rw [apply_deliver hinbox] at hwired hacyclic
  have horderly := (h.staged hpeer).orderly hconnected
  by_cases hdone : (net.connection v i).handshakeDone = true
  · have hmem : message ∈ net.inbox v i := hinbox ▸ List.mem_cons_self
    exact h.deliver_update hinbox hlinked hdone (horderly.updates hdone message hmem) hwired hacyclic
  · have hundone := Bool.eq_false_of_not_eq_true hdone
    rcases horderly.handshake hundone with hnil | ⟨m, source, hone, hgreeting⟩ |
      ⟨ack, rest', hcons, hack, _⟩
    · exact absurd (hinbox.symm.trans hnil) (List.cons_ne_nil _ _)
    · obtain ⟨rfl, rfl⟩ := List.cons_eq_cons.mp (hinbox.symm.trans hone)
      rcases hgreeting with hwelcome | hack1
      · exact h.deliver_welcome hinbox hlinked hconnected hundone hwelcome hwired hacyclic
      · exact h.deliver_ack1 hinbox hlinked hconnected hundone hack1 hwired hacyclic
    · obtain ⟨rfl, rfl⟩ := List.cons_eq_cons.mp (hinbox.symm.trans hcons)
      exact h.deliver_ack2 hinbox hlinked hconnected hundone hack
        (hsingle message rest hinbox hack.type) hwired hacyclic

theorem Paired.connect (h : Paired net) (henabled : net.Enabled (.connected v i)) :
    Paired (net.apply (.connected v i)) := by
  obtain ⟨hlinked, hunconnected⟩ := henabled
  have hundone := h.undone v i hunconnected
  have heffect := (net.node v).effect_connected (i := i)
  obtain ⟨hconnected', hdone', hincoming, hanswer⟩ := (net.node v).connected_answer (i := i)
  have hsame := handshaken_connected net v i
  have hpaired : Paired (net.handling v i (net.inbox v i)
      ((net.node v).connectionSuccessfulHandler i)) := by
    apply h.after heffect hlinked
    · exact fun _ => hconnected'
    · intro u j hpeer
      have hstaged := h.staged hpeer
      have hpartner := (hstaged.undone_of_unconnected hunconnected).2
      rw [endAt_after_self h.loopless heffect, hconnected', hdone']
      by_cases hi : i = inConnection
      · rw [hincoming hi, List.append_nil]
        exact hstaged.connect
      · obtain ⟨hempty, hempty'⟩ := hstaged.unconnected (decide_eq_true hi) hunconnected
        have hempty : net.inbox v i = [] := hempty
        have hmoved := hstaged.greet hundone hpartner hempty'
          (hanswer.imp_right fun ⟨m, hm, hwelcome⟩ => ⟨m, hm, Or.inl hwelcome⟩) (by
            intro houtgoing
            have hdirection := hstaged.direction hundone hpartner
            rw [houtgoing] at hdirection
            exact absurd (of_decide_eq_false hdirection) (not_not_intro hi))
        rw [hempty]
        exact hmoved
    · rw [handling, withInbox_self]
      exact hsame ▸ h.wired
    · rw [handling, withInbox_self]
      exact hsame ▸ h.acyclic
  rwa [handling, withInbox_self] at hpaired

theorem Paired.establish (h : Paired net) {u : V} {handle : U16}
    (henabled : net.Enabled (.establish v i u handle)) :
    Paired (net.apply (.establish v i u handle)) := by
  have hsame := handshaken_establish henabled h.undone
  obtain ⟨hvu, hi, hpeer, hunconnected, hpeer', hunconnected'⟩ := henabled
  have hfree : (u, inConnection) ≠ (v, i) := fun heq => hvu (Prod.mk.inj heq).1.symm
  have hself : ((net.apply (.establish v i u handle)).connection v i).handshakeDone = false := by
    rw [establish_self]
    rfl
  have hnew : Staged ((net.apply (.establish v i u handle)).endAt v i)
      ((net.apply (.establish v i u handle)).endAt u inConnection) := by
    rw [establish_endAt_other net u handle hfree]
    apply Staged.fresh
    · have houtgoing : decide (i ≠ inConnection) = true := decide_eq_true hi
      exact houtgoing
    · exact hself
    · exact h.undone u inConnection hunconnected'
    · exact h.unlinked v i hpeer
    · exact h.unlinked u inConnection hpeer'
  constructor
  case nodeId =>
    intro w
    rw [(establish_node net v u w i handle).1]
    exact h.nodeId w
  case twoWay => exact link_twoWay h.twoWay hvu hpeer hpeer'
  case loopless => exact link_loopless h.loopless hvu
  case connected =>
    intro w k
    by_cases hne : (w, k) = (v, i)
    · obtain ⟨rfl, rfl⟩ := Prod.mk.inj hne
      exact fun htrue => absurd htrue (ne_true_of_eq_false hself)
    · rw [establish_other net u handle hne]
      exact h.connected w k
  case unlinked => exact fun w k hnone => h.unlinked w k (eq_none_of_link hnone)
  case staged =>
    intro w k x l hlink
    rcases link_eq_some.mp hlink with ⟨heq, hx⟩ | ⟨_, heq, hx⟩ | ⟨hne, _, hlink⟩
    · obtain ⟨rfl, rfl⟩ := Prod.mk.inj heq
      obtain ⟨rfl, rfl⟩ := Prod.mk.inj hx
      exact hnew
    · obtain ⟨rfl, rfl⟩ := Prod.mk.inj heq
      obtain ⟨rfl, rfl⟩ := Prod.mk.inj hx
      exact hnew.symm
    · rw [establish_endAt_other net u handle hne,
        establish_endAt_other net u handle (ne_of_linked h.twoWay hlink hpeer)]
      exact h.staged hlink
  case wired => exact hsame ▸ h.wired
  case acyclic => exact hsame ▸ h.acyclic

theorem Alone.paired (h : Alone net) : Paired net where
  nodeId := h.nodeId
  twoWay := fun {v i u j} hpeer => absurd ((h.peer v i).symm.trans hpeer) (by simp)
  loopless := fun {v i u j} hpeer => absurd ((h.peer v i).symm.trans hpeer) (by simp)
  connected := fun v i hdone => absurd (h.handshakeDone v i) (ne_false_of_eq_true hdone)
  unlinked := fun v i _ => h.inbox v i
  staged := fun {v i u j} hpeer => absurd ((h.peer v i).symm.trans hpeer) (by simp)
  wired := h.sound.wired
  acyclic := h.sound.acyclic

end Net

end FruityMesh.Mesh
