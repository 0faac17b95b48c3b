import FruityMesh.Mesh.SinkRouting
import FruityMesh.Mesh.Stages

/-!
# The tables of hops to a sink

A node learns from the packets of a handshake how far the nearest sink behind the new link is,
and from UPDATEs when this changes.  It tells its own partners the least of what its other
connections have recorded (`Net.told`).  Where every end has recorded one more than what the
other end tells, the tables are right; this is a fact about forests (`Forest.hops_eq`).

An UPDATE spoils this.  `ReceivePacketHandler` adds one to the hops in it before it relays it, and
`UpdateClusterInfo` adds one again, so an UPDATE that tells of a sink is always recorded wrong;
and one that tells of none comes from a node that need not be the partner.  So the tables are
right in those runs in which UPDATEs only come from where there is no sink (`tables_right`).
-/

namespace FruityMesh.Mesh

open Cells LittleEndian Transport Ports SimpleGraph
open Node (relayed readUpdate relayedUpdate)

/-! ## What a node tells -/

theorem hopsBehind_of_neg {hops : ClusterSize} (h : hops.toInt < 0) : hopsBehind hops = -1 :=
  if_pos h

/-- One hop more. -/
theorem toInt_hopsBehind {hops : ClusterSize} (h : 0 ≤ hops.toInt)
    (hless : hops.toInt < int16Max.toInt) : (hopsBehind hops).toInt = hops.toInt + 1 := by
  have hmax : int16Max.toInt = 32767 := rfl
  rw [hopsBehind, if_neg (not_lt.mpr h)]
  rw [BitVec.toInt_add, show (1 : ClusterSize).toInt = 1 from rfl]
  exact Int.bmod_eq_of_le (by omega) (by omega)

theorem hopsBehind_eq_of_neg {hops : ClusterSize} (hless : hops.toInt < int16Max.toInt)
    (h : (hopsBehind hops).toInt < 0) : hopsBehind hops = -1 := by
  by_cases hneg : hops.toInt < 0
  · exact hopsBehind_of_neg hneg
  · rw [toInt_hopsBehind (not_lt.mp hneg) hless] at h
    omega

namespace Node

variable {node node' : Node} {i k : Slot}

theorem closest_congr {considered : Slot → Bool}
    (h : ∀ k, considered k = true →
      (node'.connections k).hopsToSink = (node.connections k).hopsToSink) :
    node'.closest considered = node.closest considered := by
  have hround : node'.closer considered = node.closer considered := by
    funext best k
    unfold closer
    by_cases hk : considered k = true
    · rw [h k hk]
    · simp only [hk, Bool.false_eq_true, false_and, if_false]
  rw [closest_eq, closest_eq, hround]

/-- What is told over a connection depends on the other connections only. -/
theorem getHopsToShortestSink_congr (hdevice : node'.deviceType = node.deviceType)
    (h : ∀ k, k ≠ i → (node'.connections k).hopsToSink = (node.connections k).hopsToSink) :
    node'.getHopsToShortestSink (some i) = node.getHopsToShortestSink (some i) := by
  have hclosest : node'.closest (fun k => decide (some k ≠ some i)) =
      node.closest fun k => decide (some k ≠ some i) := by
    apply closest_congr
    intro k hk
    exact h k fun heq => of_decide_eq_true hk (congrArg some heq)
  unfold getHopsToShortestSink
  rw [hdevice, hclosest]
  split_ifs
  · rfl
  · split
    · rfl
    · rename_i k hk
      refine h k fun heq => ?_
      have hmem := (closest_of_eq_some (hclosest.trans hk)).mem
      exact of_decide_eq_true hmem (congrArg some heq)

/-- The connection has recorded a way to a sink that is considered. -/
def Promises (node : Node) (k : Slot) : Prop :=
  -1 < (node.connections k).hopsToSink.toInt ∧
    (node.connections k).hopsToSink.toInt < int16Max.toInt

/-- The loop takes no connection that promises the greatest number. -/
theorem hops_lt_of_closest {considered : Slot → Bool} (h : node.closest considered = some i) :
    (node.connections i).hopsToSink.toInt < int16Max.toInt := by
  have hfold : ∀ (slots : List Slot) (best : ClusterSize × Option Slot),
      best.1.toInt ≤ int16Max.toInt →
      (∀ k, best.2 = some k → (node.connections k).hopsToSink.toInt < int16Max.toInt) →
      ∀ k, (slots.foldl (node.closer considered) best).2 = some k →
        (node.connections k).hopsToSink.toInt < int16Max.toInt := by
    intro slots
    induction slots with
    | nil => exact fun _ _ hbest => hbest
    | cons m rest ih =>
        intro best hlimit hbest
        rw [List.foldl_cons]
        unfold closer
        split_ifs with hbetter
        · have hless := hbetter.2.2.trans_le hlimit
          refine ih _ hless.le ?_
          intro k hk
          rw [← Option.some.inj hk]
          exact hless
        · exact ih best hlimit hbest
  rw [closest_eq] at h
  exact hfold _ _ (le_refl _) (fun k hk => absurd hk (by simp)) i h

/-- A sink tells that it is one; any other node tells the least that another connection
promises, or that it knows of no sink. -/
theorem getHopsToShortestSink_cases (node : Node) (i : Slot) :
    (node.deviceType = .sink ∧ node.getHopsToShortestSink (some i) = 0) ∨
      (node.deviceType ≠ .sink ∧ ∃ k, k ≠ i ∧ node.Promises k ∧
        node.getHopsToShortestSink (some i) = (node.connections k).hopsToSink ∧
        ∀ m, m ≠ i → -1 < (node.connections m).hopsToSink.toInt →
          (node.connections k).hopsToSink.toInt ≤ (node.connections m).hopsToSink.toInt) ∨
      (node.deviceType ≠ .sink ∧ node.getHopsToShortestSink (some i) = -1 ∧
        ∀ k, k ≠ i → ¬ node.Promises k) := by
  have hother : ∀ {k}, decide (some k ≠ some i) = true ↔ k ≠ i := by simp
  unfold getHopsToShortestSink
  split_ifs with hsink
  · exact Or.inl ⟨hsink, rfl⟩
  · right
    cases hclosest : node.closest fun k => decide (some k ≠ some i) with
    | none =>
        right
        refine ⟨hsink, rfl, ?_⟩
        rintro k hk ⟨hhops, hless⟩
        obtain ⟨m, hm⟩ : ∃ m, node.closest (fun k => decide (some k ≠ some i)) = some m :=
          exists_closest (hother.mpr hk) hhops hless
        exact absurd (hclosest.symm.trans hm) (by simp)
    | some k =>
        left
        obtain ⟨hmem, hhops, hleast⟩ := closest_of_eq_some hclosest
        exact ⟨hsink, k, hother.mp hmem, ⟨hhops, hops_lt_of_closest hclosest⟩, rfl,
          fun m hm => hleast m (hother.mpr hm)⟩

/-- What the partner makes of it. -/
theorem hopsBehind_cases (node : Node) (i : Slot) :
    (node.deviceType = .sink ∧ (hopsBehind (node.getHopsToShortestSink (some i))).toInt = 1) ∨
      (node.deviceType ≠ .sink ∧ ∃ k, k ≠ i ∧ node.Promises k ∧
        (hopsBehind (node.getHopsToShortestSink (some i))).toInt =
          (node.connections k).hopsToSink.toInt + 1 ∧
        ∀ m, m ≠ i → -1 < (node.connections m).hopsToSink.toInt →
          (node.connections k).hopsToSink.toInt ≤ (node.connections m).hopsToSink.toInt) ∨
      (node.deviceType ≠ .sink ∧ (hopsBehind (node.getHopsToShortestSink (some i))).toInt = -1 ∧
        ∀ k, k ≠ i → ¬ node.Promises k) := by
  rcases node.getHopsToShortestSink_cases i with ⟨hsink, htold⟩ |
    ⟨hsink, k, hk, hpromises, htold, hleast⟩ | ⟨hsink, htold, hnobody⟩
  · left
    rw [htold]
    exact ⟨hsink, by decide⟩
  · right
    left
    have hhops := hpromises.1
    rw [htold, toInt_hopsBehind (by omega) hpromises.2]
    exact ⟨hsink, k, hk, hpromises, rfl, hleast⟩
  · right
    right
    rw [htold]
    exact ⟨hsink, by decide, hnobody⟩

theorem getHopsToShortestSink_lt (node : Node) (i : Slot) :
    (node.getHopsToShortestSink (some i)).toInt < int16Max.toInt := by
  rcases node.getHopsToShortestSink_cases i with ⟨_, htold⟩ | ⟨_, k, _, hpromises, htold, _⟩ |
    ⟨_, htold, _⟩
  · rw [htold]
    decide
  · rw [htold]
    exact hpromises.2
  · rw [htold]
    decide

/-- A connection that had recorded no sink can only add to what is told. -/
theorem getHopsToShortestSink_grows (hdevice : node'.deviceType = node.deviceType)
    (hother : ∀ m, m ≠ k → (node'.connections m).hopsToSink = (node.connections m).hopsToSink)
    (hnone : (node.connections k).hopsToSink = -1) (i : Slot) :
    node'.getHopsToShortestSink (some i) = node.getHopsToShortestSink (some i) ∨
      0 ≤ (node'.getHopsToShortestSink (some i)).toInt := by
  by_cases hneg : (node'.getHopsToShortestSink (some i)).toInt < 0
  · left
    rcases node'.getHopsToShortestSink_cases i with ⟨_, htold⟩ | ⟨_, m, _, hpromises, htold, _⟩ |
      ⟨hsink, htold, hnobody⟩
    · rw [htold] at hneg
      exact absurd hneg (by decide)
    · rw [htold] at hneg
      have := hpromises.1
      omega
    · -- nothing is promised now, so nothing was promised before
      rcases node.getHopsToShortestSink_cases i with ⟨hsink', _⟩ | ⟨_, m, hm, hpromises, _⟩ |
        ⟨_, htold', _⟩
      · exact absurd (hdevice.trans hsink') hsink
      · by_cases hk : m = k
        · rw [Promises, hk, hnone] at hpromises
          exact absurd hpromises.1 (by decide)
        · apply absurd _ (hnobody m hm)
          rwa [Promises, hother m hk]
      · rw [htold, htold']
  · exact Or.inr (not_lt.mp hneg)

/-- The node leaves its cluster for the one that the packet tells of. -/
def Joins (node : Node) (packet : ConnPacketClusterWelcome) : Prop :=
  packet.clusterId ≠ node.clusterId ∧ node.isBigger packet = false

end Node

/-! ## Building a tree -/

namespace Net

variable {V : Type*}

/-- What `u` tells now over its connection `j`. -/
def told (net : Net V) (u : V) (j : Slot) : ClusterSize :=
  (net.node u).getHopsToShortestSink (some j)

/-- No link is lost, and a node that joins has no partner but the one that it joins: not when it
answers the WELCOME, and not when it gets the ACK_2. -/
def Builds (net : Net V) : Event V → Prop
  | .establish _ _ _ _ => True
  | .connected _ _ => True
  | .deliver v i memory =>
      match net.inbox v i with
      | [] => True
      | message :: _ =>
          (typeOf message = messageTypeClusterAck2 ∨ typeOf message = messageTypeClusterWelcome ∧
              (net.node v).Joins (.ofMemory (arrive message memory).data)) →
            ∀ k, k ≠ i → (net.connection v k).partnerId = 0
  | .lose _ _ _ _ => False
  | .disconnected _ _ _ _ => False

/-- What was told in a WELCOME has been read as it was meant, and has not changed when the answer
comes.  An UPDATE comes over a link behind which there is no sink, and tells of none. -/
def ToldInTime (net : Net V) : Event V → Prop
  | .establish _ _ _ _ => True
  | .connected _ _ => True
  | .deliver v i memory =>
      match net.inbox v i with
      | [] => True
      | message :: _ => ∀ u j, net.peer v i = some (u, j) →
          (typeOf message = messageTypeClusterAck1 →
            (net.connection u j).hopsToSink = hopsBehind (net.told v i)) ∧
          -- the handlers add two hops to any other UPDATE
          (typeOf message = messageTypeClusterInfoUpdate →
            (net.told u j).toInt < 0 ∧ 128 ≤ (memory 18).toNat)
  | .lose _ _ _ _ => True
  | .disconnected _ _ _ _ => True

/-- An ACK_1 is on its way to the connection. -/
def Answered (net : Net V) (v : V) (i : Slot) : Prop :=
  ∃ message ∈ net.inbox v i, typeOf message = messageTypeClusterAck1

/-- An UPDATE is on its way to it. -/
def Pending (net : Net V) (v : V) (i : Slot) : Prop :=
  ∃ message ∈ net.inbox v i, typeOf message = messageTypeClusterInfoUpdate

/-- How the two ends of each link agree.  Once the end `u` has done the handshake, the end `v`
has recorded what `u` tells, or an UPDATE is on its way to it that will never be delivered. -/
structure Agreeing (net : Net V) : Prop where
  paired : Paired net
  unlinked : ∀ v i, net.peer v i = none → (net.connection v i).hopsToSink = -1
  partner : ∀ v i, (net.connection v i).handshakeDone = true → (net.connection v i).partnerId ≠ 0
  /-- Who has recorded something before has sent an ACK_1. -/
  asked : ∀ {v i u j}, net.peer v i = some (u, j) → (net.connection v i).handshakeDone = false →
    (net.connection u j).handshakeDone = false → (net.connection v i).hopsToSink ≠ -1 →
      net.Answered u j
  joining : ∀ {v i u j}, net.peer v i = some (u, j) → (net.connection v i).handshakeDone = false →
    ((net.connection u j).handshakeDone = true ∨ net.Answered u j) →
      (net.connection v i).partnerId ≠ 0
  answer : ∀ {v i u j}, net.peer v i = some (u, j) → (net.connection v i).handshakeDone = false →
    net.Single v i → ∀ message ∈ net.inbox u j, typeOf message = messageTypeClusterAck1 →
      hopsOfAck1 message = net.told v i
  joined : ∀ {v i u j}, net.peer v i = some (u, j) → (net.connection v i).handshakeDone = false →
    (net.connection u j).handshakeDone = true → net.Single v i →
      (net.connection u j).hopsToSink = hopsBehind (net.told v i)
  recorded : ∀ {v i u j}, net.peer v i = some (u, j) → (net.connection u j).handshakeDone = true →
    (net.connection v i).hopsToSink = hopsBehind (net.told u j) ∨
      (net.Pending v i ∧ 0 ≤ (net.told u j).toInt)

theorem told_congr {net net' : Net V} {u : V} {j : Slot}
    (hdevice : (net'.node u).deviceType = (net.node u).deviceType)
    (hhops : ∀ k, k ≠ j → (net'.connection u k).hopsToSink = (net.connection u k).hopsToSink) :
    net'.told u j = net.told u j :=
  Node.getHopsToShortestSink_congr hdevice hhops

variable {net net' : Net V} {v : V} {i : Slot}

/-- An event that leaves the tables as they are. -/
theorem Agreeing.keep (h : Agreeing net) (hpaired : Paired net') (hpeer : net'.peer = net.peer)
    (hhops : ∀ w k, (net'.connection w k).hopsToSink = (net.connection w k).hopsToSink)
    (hdone : ∀ w k, (net'.connection w k).handshakeDone = (net.connection w k).handshakeDone)
    (hpartner : ∀ w k, (net'.connection w k).partnerId = (net.connection w k).partnerId)
    (hdevice : ∀ w, (net'.node w).deviceType = (net.node w).deviceType)
    (hack1 : ∀ w k message, typeOf message = messageTypeClusterAck1 →
      (message ∈ net'.inbox w k ↔ message ∈ net.inbox w k))
    (hpending : ∀ {w k x l}, net.peer w k = some (x, l) → 0 ≤ (net.told x l).toInt →
      net.Pending w k → net'.Pending w k) : Agreeing net' := by
  -- what a connection is told depends on the tables alone
  have htold : ∀ w k, net'.told w k = net.told w k :=
    fun w k => told_congr (hdevice w) fun m _ => hhops w m
  have hanswered : ∀ w k, net'.Answered w k ↔ net.Answered w k := by
    intro w k
    constructor
    · rintro ⟨message, hmem, htype⟩
      exact ⟨message, (hack1 w k message htype).mp hmem, htype⟩
    · rintro ⟨message, hmem, htype⟩
      exact ⟨message, (hack1 w k message htype).mpr hmem, htype⟩
  have hsingle : ∀ {w k}, net'.Single w k → net.Single w k :=
    fun hsingle m hm => (hdone _ m).symm.trans (hsingle m hm)
  constructor
  case paired => exact hpaired
  case unlinked =>
    intro w k hnone
    rw [hpeer] at hnone
    rw [hhops]
    exact h.unlinked w k hnone
  case partner =>
    intro w k hw
    rw [hdone] at hw
    rw [hpartner]
    exact h.partner w k hw
  case asked =>
    intro w k x l hlink hw hx hne
    rw [hdone] at hw hx
    rw [hhops] at hne
    exact (hanswered x l).mpr (h.asked (hpeer ▸ hlink) hw hx hne)
  case joining =>
    intro w k x l hlink hw hx
    rw [hdone] at hw hx
    rw [hanswered] at hx
    rw [hpartner]
    exact h.joining (hpeer ▸ hlink) hw hx
  case answer =>
    intro w k x l hlink hw hlone message hmem htype
    rw [hdone] at hw
    rw [htold]
    exact h.answer (hpeer ▸ hlink) hw (hsingle hlone) message ((hack1 x l message htype).mp hmem) htype
  case joined =>
    intro w k x l hlink hw hx hlone
    rw [hdone] at hw hx
    rw [hhops, htold]
    exact h.joined (hpeer ▸ hlink) hw hx (hsingle hlone)
  case recorded =>
    intro w k x l hlink hx
    rw [hpeer] at hlink
    rw [hdone] at hx
    rw [hhops, htold]
    rcases h.recorded hlink hx with heq | ⟨hmem, htells⟩
    · exact Or.inl heq
    · exact Or.inr ⟨hpending hlink htells hmem, htells⟩

/-! ## A handler -/

section Handling

variable [DecidableEq V] {w : V} {k : Slot} {message : Message} {rest : List Message}
  {result : Node × List Action}

theorem handling_self :
    (net.handling v i rest result).connection v i = result.1.connections i := by
  unfold connection
  rw [after_node]

theorem handling_other
    (hother : ∀ m, m ≠ i → result.1.connections m = (net.node v).connections m)
    (hne : (w, k) ≠ (v, i)) :
    (net.handling v i rest result).connection w k = net.connection w k := by
  unfold connection
  by_cases hw : w = v
  · subst hw
    rw [after_node]
    exact hother k fun heq => hne (heq ▸ rfl)
  · rw [after_node_other _ _ hw, withInbox_node]

/-- A field that the handler leaves as it is. -/
theorem handling_field {α : Type} (field : Connection → α)
    (hother : ∀ m, m ≠ i → result.1.connections m = (net.node v).connections m)
    (hsame : field (result.1.connections i) = field (net.connection v i)) (w : V) (k : Slot) :
    field ((net.handling v i rest result).connection w k) = field (net.connection w k) := by
  by_cases hhere : (w, k) = (v, i)
  · obtain ⟨rfl, rfl⟩ := Prod.mk.inj hhere
    rw [handling_self, hsame]
  · rw [handling_other hother hhere]

theorem handling_deviceType (hdevice : result.1.deviceType = (net.node v).deviceType) (w : V) :
    ((net.handling v i rest result).node w).deviceType = (net.node w).deviceType := by
  by_cases hw : w = v
  · subst hw
    rw [after_node, hdevice]
  · rw [after_node_other _ _ hw, withInbox_node]

/-- A connection without a partner is not the one of the handler. -/
theorem Agreeing.unlinked_handling (h : Agreeing net) (hlinked : net.peer v i ≠ none)
    (hother : ∀ m, m ≠ i → result.1.connections m = (net.node v).connections m)
    (hnone : net.peer w k = none) :
    ((net.handling v i rest result).connection w k).hopsToSink = -1 := by
  have hne : (w, k) ≠ (v, i) := by
    intro heq
    obtain ⟨rfl, rfl⟩ := Prod.mk.inj heq
    exact hlinked hnone
  rw [handling_other hother hne]
  exact h.unlinked w k hnone

/-- The handler has learned who its partner is. -/
theorem Agreeing.partner_handling (h : Agreeing net)
    (hother : ∀ m, m ≠ i → result.1.connections m = (net.node v).connections m)
    (hpartnerId : (result.1.connections i).partnerId ≠ 0)
    (hdone : ((net.handling v i rest result).connection w k).handshakeDone = true) :
    ((net.handling v i rest result).connection w k).partnerId ≠ 0 := by
  by_cases hne : (w, k) = (v, i)
  · obtain ⟨rfl, rfl⟩ := Prod.mk.inj hne
    rwa [handling_self]
  · rw [handling_other hother hne] at hdone ⊢
    exact h.partner w k hdone

theorem told_handling_other (hw : w ≠ v) : (net.handling v i rest result).told w k = net.told w k := by
  unfold told
  rw [after_node_other _ _ hw, withInbox_node]

theorem told_handling_self (hdevice : result.1.deviceType = (net.node v).deviceType)
    (hother : ∀ m, m ≠ i → result.1.connections m = (net.node v).connections m) :
    (net.handling v i rest result).told v i = net.told v i := by
  unfold told
  rw [after_node]
  exact Node.getHopsToShortestSink_congr hdevice fun m hm => by rw [hother m hm]

theorem inbox_handling_self (h : Paired net) : (net.handling v i rest result).inbox v i = rest := by
  rw [after_inbox, withInbox_peer, withInbox_inbox]
  cases hpeer : net.peer v i with
  | none => rw [post_of_none hpeer, setInbox_same]
  | some p => rw [post_of_ne hpeer (h.loopless hpeer).symm, setInbox_same]

theorem mem_inbox_handling (hne : (w, k) ≠ (v, i)) :
    message ∈ (net.handling v i rest result).inbox w k ↔ message ∈ net.inbox w k ∨
      ∃ l, net.peer w k = some (v, l) ∧ message ∈ sends result.2 l := by
  have hkept : setInbox net.inbox v i rest w k = net.inbox w k :=
    setInbox_other rest fun heq => hne (Prod.ext heq.1 heq.2)
  rw [after_inbox, withInbox_peer, withInbox_inbox]
  by_cases hpeer : ∃ l, net.peer w k = some (v, l)
  · obtain ⟨l, hl⟩ := hpeer
    rw [post_of_peer hl, hkept, List.mem_append]
    refine or_congr_right ⟨fun hmem => ⟨l, hl, hmem⟩, ?_⟩
    rintro ⟨l', hl', hmem⟩
    rwa [(Prod.mk.inj (Option.some.inj (hl.symm.trans hl'))).2]
  · rw [post_of_forall_ne fun l hl => hpeer ⟨l, hl⟩, hkept]
    exact ⟨Or.inl, fun hmem => hmem.elim id fun ⟨l, hl, _⟩ => absurd ⟨l, hl⟩ hpeer⟩

/-- What is on its way afterwards was on its way before, or it has been sent now. -/
theorem of_mem_inbox_handling (h : Paired net) (hinbox : net.inbox v i = message :: rest)
    {m : Message} (hmem : m ∈ (net.handling v i rest result).inbox w k) :
    m ∈ net.inbox w k ∨ ∃ l, net.peer w k = some (v, l) ∧ m ∈ sends result.2 l := by
  by_cases hne : (w, k) = (v, i)
  · obtain ⟨rfl, rfl⟩ := Prod.mk.inj hne
    rw [inbox_handling_self h] at hmem
    left
    rw [hinbox]
    exact List.mem_cons_of_mem _ hmem
  · exact (mem_inbox_handling hne).mp hmem

/-- Only the packet that has been taken is not on its way any more. -/
theorem mem_inbox_handling_of_type (h : Paired net)
    (hinbox : net.inbox v i = message :: rest) {m : Message} (hmem : m ∈ net.inbox w k)
    (htype : typeOf m ≠ typeOf message) : m ∈ (net.handling v i rest result).inbox w k := by
  by_cases hne : (w, k) = (v, i)
  · obtain ⟨rfl, rfl⟩ := Prod.mk.inj hne
    rw [inbox_handling_self h]
    rw [hinbox] at hmem
    rcases List.mem_cons.mp hmem with rfl | hmem
    · exact absurd rfl htype
    · exact hmem
  · exact (mem_inbox_handling hne).mpr (Or.inl hmem)

/-- A node gets the ACK_2, and is done with the handshake as well. -/
theorem Agreeing.ack2 (h : Agreeing net) (hpaired : Paired (net.handling v i rest result))
    (hinbox : net.inbox v i = message :: rest) (htype : typeOf message = messageTypeClusterAck2)
    (hundone : (net.connection v i).handshakeDone = false) (hsingle : net.Single v i)
    (hlinked : net.peer v i ≠ none)
    (hpartner : ∀ {u j}, net.peer v i = some (u, j) → (net.connection u j).handshakeDone = true)
    (hsends : ∀ l, sends result.2 l = []) (hdevice : result.1.deviceType = (net.node v).deviceType)
    (hother : ∀ m, m ≠ i → result.1.connections m = (net.node v).connections m)
    (hhops : (result.1.connections i).hopsToSink = (net.connection v i).hopsToSink)
    (hpartnerId : (result.1.connections i).partnerId = (net.connection v i).partnerId) :
    Agreeing (net.handling v i rest result) := by
  have hhops' : ∀ w k, ((net.handling v i rest result).connection w k).hopsToSink =
      (net.connection w k).hopsToSink := handling_field _ hother hhops
  have hpartnerId' : ∀ w k, ((net.handling v i rest result).connection w k).partnerId =
      (net.connection w k).partnerId := handling_field _ hother hpartnerId
  have htold : ∀ w k, (net.handling v i rest result).told w k = net.told w k :=
    fun w k => told_congr (handling_deviceType hdevice w) fun m _ => hhops' w m
  -- who was done is done
  have hundone' : ∀ {w k}, ((net.handling v i rest result).connection w k).handshakeDone = false →
      (net.connection w k).handshakeDone = false := by
    intro w k hfalse
    by_cases hne : (w, k) = (v, i)
    · rw [(Prod.mk.inj hne).1, (Prod.mk.inj hne).2]
      exact hundone
    · rwa [handling_other hother hne] at hfalse
  have hmem : ∀ {w k m}, m ∈ (net.handling v i rest result).inbox w k → m ∈ net.inbox w k := by
    intro w k m hm
    rcases of_mem_inbox_handling h.paired hinbox hm with hm | ⟨l, _, hm⟩
    · exact hm
    · rw [hsends l] at hm
      exact absurd hm List.not_mem_nil
  have hkept : ∀ {w k m}, m ∈ net.inbox w k → typeOf m ≠ messageTypeClusterAck2 →
      m ∈ (net.handling v i rest result).inbox w k :=
    fun hm hne => mem_inbox_handling_of_type h.paired hinbox hm (by rwa [htype])
  have hsingle' : ∀ {w k}, (net.handling v i rest result).Single w k → net.Single w k :=
    fun hsingle m hm => hundone' (hsingle m hm)
  constructor
  case paired => exact hpaired
  case unlinked =>
    intro w k hnone
    rw [hhops']
    exact h.unlinked w k hnone
  case partner =>
    intro w k hdone
    rw [hpartnerId']
    by_cases hne : (w, k) = (v, i)
    · -- it has known its partner since it was told to join
      obtain ⟨rfl, rfl⟩ := Prod.mk.inj hne
      obtain ⟨⟨u, j⟩, hpeer⟩ := Option.ne_none_iff_exists'.mp hlinked
      exact h.joining hpeer hundone (Or.inl (hpartner hpeer))
    · rw [handling_other hother hne] at hdone
      exact h.partner w k hdone
  case asked =>
    intro w k x l hlink hw hx hne
    rw [hhops'] at hne
    obtain ⟨m, hm, hack1⟩ := h.asked hlink (hundone' hw) (hundone' hx) hne
    exact ⟨m, hkept hm (by rw [hack1]; decide), hack1⟩
  case joining =>
    intro w k x l hlink hw hx
    rw [hpartnerId']
    apply h.joining hlink (hundone' hw)
    rcases hx with hx | ⟨m, hm, hack1⟩
    · left
      by_cases hne : (x, l) = (v, i)
      · -- its partner has been done for longer
        obtain ⟨rfl, rfl⟩ := Prod.mk.inj hne
        have hdone := hpartner (h.paired.twoWay hlink)
        exact absurd (hundone' hw) (ne_false_of_eq_true hdone)
      · rwa [handling_other hother hne] at hx
    · exact Or.inr ⟨m, hmem hm, hack1⟩
  case answer =>
    intro w k x l hlink hw hlone m hm hack1
    rw [htold]
    exact h.answer hlink (hundone' hw) (hsingle' hlone) m (hmem hm) hack1
  case joined =>
    intro w k x l hlink hw hx hlone
    rw [hhops', htold]
    by_cases hne : (x, l) = (v, i)
    · obtain ⟨rfl, rfl⟩ := Prod.mk.inj hne
      have hdone := hpartner (h.paired.twoWay hlink)
      exact absurd (hundone' hw) (ne_false_of_eq_true hdone)
    · rw [handling_other hother hne] at hx
      exact h.joined hlink (hundone' hw) hx (hsingle' hlone)
  case recorded =>
    intro w k x l hlink hx
    rw [hhops', htold]
    by_cases hne : (x, l) = (v, i)
    · -- the partner has recorded what it was told in the ACK_1
      obtain ⟨rfl, rfl⟩ := Prod.mk.inj hne
      have hback := h.paired.twoWay hlink
      exact Or.inl (h.joined hback hundone (hpartner hback) hsingle)
    · rw [handling_other hother hne] at hx
      rcases h.recorded hlink hx with heq | ⟨⟨m, hm, hupdate⟩, htells⟩
      · exact Or.inl heq
      · exact Or.inr ⟨⟨m, hkept hm (by rw [hupdate]; decide), hupdate⟩, htells⟩

/-- A node answers a WELCOME with an ACK_1.  It has no other partner, so nobody else is waiting
for what it has to tell. -/
theorem Agreeing.joins (h : Agreeing net) (hpaired : Paired (net.handling v i [] result))
    (hinbox : net.inbox v i = [message]) (htype : typeOf message = messageTypeClusterWelcome)
    (hundone : (net.connection v i).handshakeDone = false) {u : V} {j : Slot}
    (hpeer : net.peer v i = some (u, j)) (hundone' : (net.connection u j).handshakeDone = false)
    (halone : ∀ k, k ≠ i → (net.connection v k).partnerId = 0) {ack : Message}
    (hsends : sends result.2 i = [ack]) (hsilent : ∀ l, l ≠ i → sends result.2 l = [])
    (hack : typeOf ack = messageTypeClusterAck1) (hhops : hopsOfAck1 ack = net.told v i)
    (hdevice : result.1.deviceType = (net.node v).deviceType)
    (hother : ∀ m, m ≠ i → result.1.connections m = (net.node v).connections m)
    (hdone : (result.1.connections i).handshakeDone = false)
    (hpartnerId : (result.1.connections i).partnerId ≠ 0) :
    Agreeing (net.handling v i [] result) := by
  have hback := h.paired.twoWay hpeer
  have hne : (u, j) ≠ (v, i) := fun heq => h.paired.loopless hpeer (Prod.mk.inj heq).1.symm
  have hlone : net.Single v i := by
    intro k hk
    by_contra hdone
    exact h.partner v k (by simpa using hdone) (halone k hk)
  have hdone' : ∀ w k, ((net.handling v i [] result).connection w k).handshakeDone =
      (net.connection w k).handshakeDone :=
    handling_field _ hother (hdone.trans hundone.symm)
  have hsingle' : ∀ {w k}, (net.handling v i [] result).Single w k → net.Single w k :=
    fun hsingle m hm => (hdone' _ m).symm.trans (hsingle m hm)
  -- what a connection is told that somebody waits for
  have htold : ∀ {w k}, (w = v → k ≠ i → (net.connection v k).partnerId ≠ 0) →
      (net.handling v i [] result).told w k = net.told w k := by
    intro w k hwaits
    by_cases hw : w = v
    · subst hw
      by_cases hk : k = i
      · subst hk
        exact told_handling_self hdevice hother
      · exact absurd (halone k hk) (hwaits rfl hk)
    · exact told_handling_other hw
  have hmem : ∀ {w k m}, m ∈ (net.handling v i [] result).inbox w k →
      m ∈ net.inbox w k ∨ ((w, k) = (u, j) ∧ m = ack) := by
    intro w k m hm
    rcases of_mem_inbox_handling h.paired hinbox hm with hold | ⟨l, hl, hsent⟩
    · exact Or.inl hold
    · by_cases hli : l = i
      · rw [hli] at hl hsent
        rw [hsends] at hsent
        right
        exact ⟨ends_eq h.paired.twoWay hl hpeer, List.mem_singleton.mp hsent⟩
      · rw [hsilent l hli] at hsent
        exact absurd hsent List.not_mem_nil
  have hkept : ∀ {w k m}, m ∈ net.inbox w k → typeOf m ≠ messageTypeClusterWelcome →
      m ∈ (net.handling v i [] result).inbox w k :=
    fun hm hother => mem_inbox_handling_of_type h.paired hinbox hm (by rwa [htype])
  constructor
  case paired => exact hpaired
  case unlinked =>
    have hlinked : net.peer v i ≠ none := by simp [hpeer]
    exact fun w k => h.unlinked_handling hlinked hother
  case partner => exact fun w k => h.partner_handling hother hpartnerId
  case asked =>
    intro w k x l hlink hw hx hrecorded
    rw [hdone'] at hw hx
    by_cases hhere : (w, k) = (v, i)
    · -- it is the ACK_1 that has been sent now
      obtain ⟨rfl, rfl⟩ := Prod.mk.inj hhere
      obtain ⟨rfl, rfl⟩ := Prod.mk.inj (Option.some.inj (hlink.symm.trans hpeer))
      refine ⟨ack, (mem_inbox_handling hne).mpr (Or.inr ⟨k, hback, ?_⟩), hack⟩
      rw [hsends]
      exact List.mem_singleton_self ack
    · rw [handling_other hother hhere] at hrecorded
      obtain ⟨m, hm, hack1⟩ := h.asked hlink hw hx hrecorded
      exact ⟨m, hkept hm (by rw [hack1]; decide), hack1⟩
  case joining =>
    intro w k x l hlink hw hx
    rw [hdone'] at hw hx
    by_cases hhere : (w, k) = (v, i)
    · obtain ⟨rfl, rfl⟩ := Prod.mk.inj hhere
      rwa [handling_self]
    · rw [handling_other hother hhere]
      apply h.joining hlink hw
      rcases hx with hx | ⟨m, hm, hack1⟩
      · exact Or.inl hx
      · rcases hmem hm with hold | ⟨heq, _⟩
        · exact Or.inr ⟨m, hold, hack1⟩
        · -- the new ACK_1 goes to the partner of the handler's connection alone
          obtain ⟨rfl, rfl⟩ := Prod.mk.inj heq
          exact absurd (ends_eq h.paired.twoWay hlink hback) hhere
  case answer =>
    intro w k x l hlink hw hlone m hm hack1
    rw [hdone'] at hw
    rcases hmem hm with hold | ⟨heq, rfl⟩
    · have hwaits := h.joining hlink hw (Or.inr ⟨m, hold, hack1⟩)
      rw [htold fun heq _ => heq ▸ hwaits]
      exact h.answer hlink hw (hsingle' hlone) m hold hack1
    · -- the new ACK_1 says what the connection is told
      obtain ⟨rfl, rfl⟩ := Prod.mk.inj heq
      obtain ⟨rfl, rfl⟩ := Prod.mk.inj (ends_eq h.paired.twoWay hlink hback)
      rw [told_handling_self hdevice hother]
      exact hhops
  case joined =>
    intro w k x l hlink hw hx hlone
    rw [hdone'] at hw hx
    have hthere : (x, l) ≠ (v, i) := by
      intro heq
      rw [(Prod.mk.inj heq).1, (Prod.mk.inj heq).2, hundone] at hx
      exact absurd hx (by decide)
    have hwaits := h.joining hlink hw (Or.inl hx)
    rw [handling_other hother hthere, htold fun heq _ => heq ▸ hwaits]
    exact h.joined hlink hw hx (hsingle' hlone)
  case recorded =>
    intro w k x l hlink hx
    rw [hdone'] at hx
    have hhere : (w, k) ≠ (v, i) := by
      intro heq
      obtain ⟨rfl, rfl⟩ := Prod.mk.inj heq
      obtain ⟨rfl, rfl⟩ := Prod.mk.inj (Option.some.inj (hlink.symm.trans hpeer))
      exact absurd hundone' (ne_false_of_eq_true hx)
    have hwaits := h.partner x l hx
    rw [handling_other hother hhere, htold fun heq _ => heq ▸ hwaits]
    rcases h.recorded hlink hx with heq | ⟨⟨m, hm, hupdate⟩, htells⟩
    · exact Or.inl heq
    · exact Or.inr ⟨⟨m, hkept hm (by rw [hupdate]; decide), hupdate⟩, htells⟩

/-- A node gets the ACK_1, and tells its other partners.  It has learned of a sink at most where
it knew of none, so what it tells them is as before, or they learn from the UPDATE that it is
not. -/
theorem Agreeing.ack1 (h : Agreeing net) (hpaired : Paired (net.handling v i [] result))
    (hinbox : net.inbox v i = [message]) (htype : typeOf message = messageTypeClusterAck1)
    (hundone : (net.connection v i).handshakeDone = false) {u : V} {j : Slot}
    (hpeer : net.peer v i = some (u, j)) (hundone' : (net.connection u j).handshakeDone = false)
    (hempty : net.inbox u j = [])
    (hintime : (net.connection u j).hopsToSink = hopsBehind (net.told v i))
    (hsilent : ∀ l m, m ∈ sends result.2 l → typeOf m ≠ messageTypeClusterAck1)
    (htells : ∀ l, l ≠ i → (net.connection v l).handshakeDone = true →
      ∃ m ∈ sends result.2 l, typeOf m = messageTypeClusterInfoUpdate)
    (hdevice : result.1.deviceType = (net.node v).deviceType)
    (hother : ∀ m, m ≠ i → result.1.connections m = (net.node v).connections m)
    (hdone : (result.1.connections i).handshakeDone = true)
    (hhops : (result.1.connections i).hopsToSink = hopsBehind (hopsOfAck1 message))
    (hpartnerId : (result.1.connections i).partnerId ≠ 0) :
    Agreeing (net.handling v i [] result) := by
  have hback := h.paired.twoWay hpeer
  have hne : (u, j) ≠ (v, i) := fun heq => h.paired.loopless hpeer (Prod.mk.inj heq).1.symm
  have hmessage : message ∈ net.inbox v i := hinbox ▸ List.mem_singleton_self message
  -- the partner is the one that joins: the node itself has recorded nothing yet
  have hnone : (net.connection v i).hopsToSink = -1 := by
    by_contra hrecorded
    obtain ⟨m, hm, _⟩ := h.asked hpeer hundone hundone' hrecorded
    rw [hempty] at hm
    exact absurd hm List.not_mem_nil
  have hself : ((net.handling v i [] result).connection v i).handshakeDone = true := by
    rw [handling_self, hdone]
  have hundone'' : ∀ {w k}, ((net.handling v i [] result).connection w k).handshakeDone = false →
      (w, k) ≠ (v, i) ∧ (net.connection w k).handshakeDone = false := by
    intro w k hfalse
    have hhere : (w, k) ≠ (v, i) := by
      intro heq
      obtain ⟨rfl, rfl⟩ := Prod.mk.inj heq
      exact absurd hfalse (ne_false_of_eq_true hself)
    rw [handling_other hother hhere] at hfalse
    exact ⟨hhere, hfalse⟩
  -- a node without another partner is not the one that has got the ACK_1
  have hsingle : ∀ {w k}, (w, k) ≠ (v, i) → (net.handling v i [] result).Single w k →
      w ≠ v ∧ net.Single w k := by
    intro w k hhere hsingle
    refine ⟨?_, fun m hm => ?_⟩
    · rintro rfl
      have hik : i ≠ k := fun heq => hhere (heq ▸ rfl)
      exact absurd (hsingle i hik) (ne_false_of_eq_true hself)
    · exact (hundone'' (hsingle m hm)).2
  have hmem : ∀ {w k m}, m ∈ (net.handling v i [] result).inbox w k →
      typeOf m = messageTypeClusterAck1 → (w, k) ≠ (v, i) ∧ m ∈ net.inbox w k := by
    intro w k m hm hack1
    refine ⟨?_, ?_⟩
    · intro heq
      obtain ⟨rfl, rfl⟩ := Prod.mk.inj heq
      rw [inbox_handling_self h.paired] at hm
      exact absurd hm List.not_mem_nil
    · rcases of_mem_inbox_handling h.paired hinbox hm with hold | ⟨l, _, hsent⟩
      · exact hold
      · exact absurd hack1 (hsilent l m hsent)
  constructor
  case paired => exact hpaired
  case unlinked =>
    have hlinked : net.peer v i ≠ none := by simp [hpeer]
    exact fun w k => h.unlinked_handling hlinked hother
  case partner => exact fun w k => h.partner_handling hother hpartnerId
  case asked =>
    intro w k x l hlink hw hx hrecorded
    obtain ⟨hhere, hw⟩ := hundone'' hw
    obtain ⟨hthere, hx⟩ := hundone'' hx
    rw [handling_other hother hhere] at hrecorded
    obtain ⟨m, hm, hack1⟩ := h.asked hlink hw hx hrecorded
    exact ⟨m, (mem_inbox_handling hthere).mpr (Or.inl hm), hack1⟩
  case joining =>
    intro w k x l hlink hw hx
    obtain ⟨hhere, hw⟩ := hundone'' hw
    rw [handling_other hother hhere]
    apply h.joining hlink hw
    rcases hx with hx | ⟨m, hm, hack1⟩
    · by_cases hthere : (x, l) = (v, i)
      · -- the ACK_1 that is taken now was on its way to it
        obtain ⟨rfl, rfl⟩ := Prod.mk.inj hthere
        exact Or.inr ⟨message, hmessage, htype⟩
      · rw [handling_other hother hthere] at hx
        exact Or.inl hx
    · exact Or.inr ⟨m, (hmem hm hack1).2, hack1⟩
  case answer =>
    intro w k x l hlink hw hlone m hm hack1
    obtain ⟨hhere, hw⟩ := hundone'' hw
    obtain ⟨hwv, hlone⟩ := hsingle hhere hlone
    rw [told_handling_other hwv]
    exact h.answer hlink hw hlone m (hmem hm hack1).2 hack1
  case joined =>
    intro w k x l hlink hw hx hlone
    obtain ⟨hhere, hwundone⟩ := hundone'' hw
    obtain ⟨hwv, honly⟩ := hsingle hhere hlone
    rw [told_handling_other hwv]
    by_cases hthere : (x, l) = (v, i)
    · -- it records what the ACK_1 says
      obtain ⟨rfl, rfl⟩ := Prod.mk.inj hthere
      rw [handling_self, hhops, h.answer hlink hwundone honly message hmessage htype]
    · rw [handling_other hother hthere] at hx ⊢
      exact h.joined hlink hwundone hx honly
  case recorded =>
    intro w k x l hlink hx
    by_cases hthere : (x, l) = (v, i)
    · -- its partner has recorded what it was told in the WELCOME
      obtain ⟨rfl, rfl⟩ := Prod.mk.inj hthere
      obtain ⟨rfl, rfl⟩ := Prod.mk.inj (ends_eq h.paired.twoWay hlink hpeer)
      rw [handling_other hother hne, told_handling_self hdevice hother]
      exact Or.inl hintime
    · rw [handling_other hother hthere] at hx
      have hhere : (w, k) ≠ (v, i) := by
        intro heq
        obtain ⟨rfl, rfl⟩ := Prod.mk.inj heq
        obtain ⟨rfl, rfl⟩ := Prod.mk.inj (Option.some.inj (hlink.symm.trans hpeer))
        exact absurd hundone' (ne_false_of_eq_true hx)
      rw [handling_other hother hhere]
      have hpending : net.Pending w k → (net.handling v i [] result).Pending w k :=
        fun ⟨m, hm, hupdate⟩ => ⟨m, (mem_inbox_handling hhere).mpr (Or.inl hm), hupdate⟩
      by_cases hxv : x = v
      · subst hxv
        have hl : l ≠ i := fun heq => hthere (heq ▸ rfl)
        have hgrows : (net.handling x i [] result).told x l = net.told x l ∨
            0 ≤ ((net.handling x i [] result).told x l).toInt := by
          unfold told
          rw [after_node]
          exact Node.getHopsToShortestSink_grows hdevice (fun m hm => by rw [hother m hm]) hnone l
        rcases hgrows with hsame | hsink
        · -- what is told has not changed
          rw [hsame]
          exact (h.recorded hlink hx).imp_right fun ⟨hmem, hsink⟩ => ⟨hpending hmem, hsink⟩
        · -- it tells of a sink now, and the UPDATE about it is on its way
          obtain ⟨m, hm, hupdate⟩ := htells l hl hx
          right
          exact ⟨⟨m, (mem_inbox_handling hhere).mpr (Or.inr ⟨l, hlink, hm⟩), hupdate⟩, hsink⟩
      · rw [told_handling_other hxv]
        exact (h.recorded hlink hx).imp_right fun ⟨hmem, hsink⟩ => ⟨hpending hmem, hsink⟩

/-- A handler that leaves the tables as they are, and answers no WELCOME.  It takes no ACK_1, and
an UPDATE only if it tells of no sink. -/
theorem Agreeing.handle (h : Agreeing net) (hpaired : Paired (net.handling v i rest result))
    (hrest : ∀ m ∈ rest, m ∈ net.inbox v i)
    (htaken : ∀ m ∈ net.inbox v i, m ∈ rest ∨ typeOf m ≠ messageTypeClusterAck1 ∧
      ∀ u j, net.peer v i = some (u, j) → typeOf m = messageTypeClusterInfoUpdate →
        (net.told u j).toInt < 0)
    (hsilent : ∀ l m, m ∈ sends result.2 l → typeOf m ≠ messageTypeClusterAck1)
    (hdevice : result.1.deviceType = (net.node v).deviceType)
    (hother : ∀ m, m ≠ i → result.1.connections m = (net.node v).connections m)
    (hdone : (result.1.connections i).handshakeDone = (net.connection v i).handshakeDone)
    (hhops : (result.1.connections i).hopsToSink = (net.connection v i).hopsToSink)
    (hpartnerId : (result.1.connections i).partnerId = (net.connection v i).partnerId) :
    Agreeing (net.handling v i rest result) := by
  apply h.keep hpaired rfl (handling_field Connection.hopsToSink hother hhops)
    (handling_field Connection.handshakeDone hother hdone)
    (handling_field Connection.partnerId hother hpartnerId) (handling_deviceType hdevice)
  · intro w k m hack1
    by_cases hhere : (w, k) = (v, i)
    · obtain ⟨rfl, rfl⟩ := Prod.mk.inj hhere
      rw [inbox_handling_self h.paired]
      exact ⟨hrest m, fun hm => (htaken m hm).resolve_right fun hother => hother.1 hack1⟩
    · rw [mem_inbox_handling hhere]
      refine ⟨fun hm => hm.resolve_right ?_, Or.inl⟩
      rintro ⟨l, _, hsent⟩
      exact hsilent l m hsent hack1
  · rintro w k x l hlink hsink ⟨m, hm, hupdate⟩
    by_cases hhere : (w, k) = (v, i)
    · obtain ⟨rfl, rfl⟩ := Prod.mk.inj hhere
      refine ⟨m, ?_, hupdate⟩
      rw [inbox_handling_self h.paired]
      refine (htaken m hm).resolve_right fun hother => ?_
      exact absurd (hother.2 x l hlink hupdate) (not_lt.mpr hsink)
    · exact ⟨m, (mem_inbox_handling hhere).mpr (Or.inl hm), hupdate⟩

end Handling

end Net

end FruityMesh.Mesh
