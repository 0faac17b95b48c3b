import FruityMesh.Mesh.Relay

/-!
# Hop-limited packets, and who sent a packet

A receiver `NODE_ID_HOPS_BASE + k` stands for all nodes that are at most `k` hops away.  A
relay should count the receiver down, but counts down the sender instead, if that is an id
between `NODE_ID_HOPS_BASE` and `NODE_ID_HOPS_BASE + 31000`.  So a packet for one hop stops
after one hop, every other hop-limited packet floods the whole mesh
(`handledWithin_iff`), and a packet of a phone, among others, arrives with the sender
changed (`senderKept_iff`).
-/

namespace FruityMesh.Mesh

open Cells Transport Ports Flood SimpleGraph

/-! ## Counting down -/

/-- A relay counts the sender down. -/
def CountedDown (sender : NodeId) : Prop :=
  nodeIdHopsBase.toNat < sender.toNat ∧ sender.toNat < nodeIdHopsBase.toNat + 31000

theorem decremented_of_not {sender : NodeId} (h : ¬ CountedDown sender) :
    decremented sender = sender :=
  if_neg h

theorem decremented_lt {sender : NodeId} (h : CountedDown sender) :
    (decremented sender).toNat < sender.toNat := by
  have hpos : nodeIdHopsBase.toNat < sender.toNat := h.1
  have hdec : decremented sender = sender - 1 := if_pos h
  rw [hdec]
  bv_omega

theorem decremented_iterate_le (n : ℕ) (sender : NodeId) :
    (decremented^[n] sender).toNat ≤ sender.toNat := by
  induction n generalizing sender with
  | zero => exact Nat.le_refl _
  | succ n ih =>
      rw [Function.iterate_succ_apply]
      have hstep : (decremented sender).toNat ≤ sender.toNat := by
        by_cases h : CountedDown sender
        · exact (decremented_lt h).le
        · rw [decremented_of_not h]
      exact (ih _).trans hstep

/-- A sender that is counted down never comes back. -/
theorem decremented_iterate_eq_iff (n : ℕ) (sender : NodeId) :
    decremented^[n] sender = sender ↔ ¬ CountedDown sender ∨ n = 0 := by
  constructor
  · intro h
    by_contra hnot
    push Not at hnot
    obtain ⟨n, rfl⟩ := Nat.exists_eq_succ_of_ne_zero hnot.2
    have hlt := decremented_lt hnot.1
    have hle := decremented_iterate_le n (decremented sender)
    rw [← Function.iterate_succ_apply, h] at hle
    omega
  · rintro (h | rfl)
    · exact Function.iterate_fixed (decremented_of_not h) n
    · rfl

variable {V : Type*} [DecidableEq V]

/-! ## On the way to the shortest sink -/

/-- All that is on its way or has been handled is the packet as it was. -/
structure Carried (packet : ConnectionPacket) (net : Net V) : Prop where
  inbox : ∀ v i, ∀ message ∈ net.inbox v i, Copy packet 1 message
  received : ∀ v, ∀ message ∈ net.received v, Copy packet 1 message

omit [DecidableEq V] in
theorem carried_iff {packet : ConnectionPacket} {net : Net V} :
    Carried packet net ↔ Carries (Copy packet 1) net :=
  ⟨fun h => ⟨h.inbox, h.received⟩, fun h => ⟨h.inbox, h.received⟩⟩

theorem Carried.deliver {packet : ConnectionPacket} {net : Net V} (h : Carried packet net)
    (htype : Ordinary (messageTypeAt packet.data))
    (hsink : receiverAt packet.data = nodeIdShortestSink) {v : V} {i : Slot} {behind : ℕ → U8}
    (henabled : net.Enabled (.deliver v i behind)) :
    Carried packet (net.apply (.deliver v i behind)) := by
  obtain ⟨message, rest, hinbox⟩ := List.exists_cons_of_ne_nil henabled.2
  have hmessage := h.inbox v i message (by rw [hinbox]; exact List.mem_cons_self)
  obtain ⟨htype', hreceiver, -, -, hsame⟩ := hmessage.arrive behind
  rw [Net.apply_deliver hinbox]
  have hpopped := (carried_iff.mp h).withInbox hinbox
  set arrived := arrive message behind with harrived
  -- routing passes the packet on as it is, or keeps it
  have hroute : (∀ k, ∀ m ∈ sends ((net.node v).route i arrived.data arrived.dataLength
      arrived.reliable).2 k, Copy packet 1 m) ∧
      handled ((net.node v).route i arrived.data arrived.dataLength arrived.reliable).2 = [] ∧
      ((net.node v).route i arrived.data arrived.dataLength arrived.reliable).1 = arrived.data := by
    unfold Node.route
    rw [if_pos (hreceiver.trans hsink)]
    split_ifs
    · exact ⟨fun k m hm => absurd hm List.not_mem_nil, rfl, rfl⟩
    · cases (net.node v).getConnectionToShortestSink none with
      | none => exact ⟨fun k m hm => absurd hm List.not_mem_nil, rfl, rfl⟩
      | some next =>
          refine ⟨?_, rfl, rfl⟩
          intro k m hm
          simp only [Option.map_some, Option.toList_some, sends_queuePacket, sends_nil] at hm
          split_ifs at hm
          · rw [List.mem_singleton.mp hm]
            exact hsame
          · exact absurd hm List.not_mem_nil
  obtain ⟨hsends, hhandled, hdata⟩ := hroute
  rw [(net.node v).receive_routed (htype' ▸ htype)]
  apply carried_iff.mpr
  apply hpopped.after
  · intro k m hm
    rw [sends_append] at hm
    rcases List.mem_append.mp hm with hm | hm
    · exact hsends k m hm
    · split_ifs at hm
      · exact absurd hm List.not_mem_nil
      · exact absurd hm List.not_mem_nil
  · intro m hm
    rw [handled_append, hhandled, List.nil_append, hdata] at hm
    split_ifs at hm
    · rw [List.mem_singleton.mp hm]
      exact hsame
    · exact absurd hm List.not_mem_nil

/-- A packet for the shortest sink keeps its sender. -/
theorem Carried.run {start net : Net V} {origin : V} {loopback : Option Slot}
    {packet : ConnectionPacket} {events : List (Event V)} (hquiet : start.Quiet)
    (hunreceived : ∀ v, start.received v = []) (htype : Ordinary (messageTypeAt packet.data))
    (hheader : sizeofConnPacketHeader ≤ packet.dataLength.toNat)
    (hsink : receiverAt packet.data = nodeIdShortestSink)
    (hrun : Net.Run Deliveries (start.originate origin loopback packet) events net) :
    Carried packet net := by
  have hsame : Copy packet 1 packet.message :=
    Copy.of_read rfl rfl rfl hheader packet.dataLength.isLt
  have hempty : Carries (Copy packet 1) start := .of_quiet hquiet hunreceived
  refine hrun.preserves (I := Carried packet) ?_ ?_
  · intro net event hcarried henabled hdelivery
    obtain ⟨v, i, behind, rfl⟩ := deliveries_iff _ _ hdelivery
    exact hcarried.deliver htype hsink henabled
  · apply carried_iff.mpr
    apply hempty.after
    · intro k m hm
      unfold Node.sendMessageToReceiver at hm
      simp only [if_pos hsink, sends_append] at hm
      rcases List.mem_append.mp hm with hm | hm
      · split_ifs at hm <;> exact absurd hm List.not_mem_nil
      · obtain ⟨action, haction, hqueued⟩ := List.mem_filterMap.mp hm
        rw [Option.mem_toList, Option.map_eq_some_iff] at haction
        obtain ⟨next, _, rfl⟩ := haction
        simp only [Action.queued] at hqueued
        split_ifs at hqueued
        rw [← Option.some.inj hqueued]
        exact hsame
    · intro m hm
      unfold Node.sendMessageToReceiver at hm
      simp only [if_pos hsink, handled_append] at hm
      rcases List.mem_append.mp hm with hm | hm
      · split_ifs at hm
        · rw [List.mem_singleton.mp hm]
          exact hsame
        · exact absurd hm List.not_mem_nil
      · obtain ⟨action, haction, hhanded⟩ := List.mem_filterMap.mp hm
        rw [Option.mem_toList, Option.map_eq_some_iff] at haction
        obtain ⟨next, _, rfl⟩ := haction
        exact absurd hhanded (by simp [Action.handed])

/-! ## Where the packet is handled, and by whom it seems to be sent -/

section

variable (start : Net V) (origin : V) (loopback : Option Slot) (packet : ConnectionPacket)

/-- When nothing is on its way any more, exactly the nodes from one to `k` hops away have
handled the packet. -/
def HandledWithin (k : ℕ) : Prop :=
  ∀ events net, Net.Run Deliveries (start.originate origin loopback packet) events net →
    net.Quiet → ∀ v, net.received v ≠ [] ↔
      1 ≤ (graph start.peer).dist origin v ∧ (graph start.peer).dist origin v ≤ k

/-- Every copy that is handled carries the sender that the origin wrote. -/
def SenderKept : Prop :=
  ∀ events net, Net.Run Deliveries (start.originate origin loopback packet) events net →
    ∀ v, ∀ message ∈ net.received v, senderOf message = senderAt packet.data

/-- The origin is not the receiver itself, and the nodes that cut off others from the origin
cut off exactly those that are more than `k` hops away. -/
def CutsAt (k : ℕ) : Prop :=
  receiverAt packet.data ≠ (start.node origin).nodeId ∧
    ∀ v, v ≠ origin → (Open (graph start.peer) origin (Stops start packet) v ↔
      (graph start.peer).dist origin v ≤ k)

/-- No copy that is handled has passed a relay: the nodes that the packet reaches and that
care for it are neighbours of the origin and last receivers. -/
def HandledAtOnce : Prop :=
  receiverAt packet.data = (start.node origin).nodeId ∨
    ∀ v, v ≠ origin → Open (graph start.peer) origin (Stops start packet) v →
      (start.node v).caresFor (receiverAt packet.data) = true →
        (graph start.peer).dist origin v = 1 ∧ Stops start packet v

end

namespace Originates

variable {start net : Net V} {origin : V} {loopback : Option Slot} {packet : ConnectionPacket}

omit [DecidableEq V] in
theorem relays_eq_zero_iff (h : Originates start packet) {v : V} (hv : v ≠ origin) :
    relays start packet origin v = 0 ↔
      (graph start.peer).dist origin v = 1 ∧ Stops start packet v := by
  have hpos : 0 < (graph start.peer).dist origin v :=
    h.tree.tree.connected.pos_dist_of_ne hv.symm
  unfold relays
  by_cases hs : Stops start packet v
  · rw [if_pos hs]
    exact ⟨fun hzero => ⟨by omega, hs⟩, fun hone => by omega⟩
  · rw [if_neg hs]
    exact ⟨fun hzero => by omega, fun hone => absurd hone.2 hs⟩

variable [Fintype V]

/-- A run in which nothing is on its way at the end. -/
theorem exists_run_quiet (h : Originates start packet) (origin : V) (loopback : Option Slot) :
    ∃ events net, Net.Run Deliveries (start.originate origin loopback packet) events net ∧
      net.Quiet := by
  obtain ⟨_, more, net, hrun, hquiet⟩ := h.terminates
    (Net.Run.nil (start.originate origin loopback packet))
  exact ⟨_, net, hrun, hquiet⟩

/-- A packet that is limited to `k` hops is handled by the nodes that it is meant for exactly
if the nodes that stop it do so after `k` hops. -/
theorem handledWithin_iff (h : Originates start packet) {k : ℕ} (hlow : 1 ≤ k) (hhigh : k < 1000)
    (hk : receiverAt packet.data = nodeIdHopsBase + BitVec.ofNat 16 k) :
    HandledWithin start origin loopback packet k ↔ CutsAt start origin packet k := by
  have hvalue : (receiverAt packet.data).toNat = 30000 + k := by
    rw [hk, BitVec.toNat_add, BitVec.toNat_ofNat]
    have : nodeIdHopsBase.toNat = 30000 := rfl
    omega
  have hcares : ∀ v, (start.node v).caresFor (receiverAt packet.data) = true := by
    intro v
    have hbase : nodeIdHopsBase.toNat = 30000 := rfl
    have hrange : nodeIdHopsBase.toNat ≤ (receiverAt packet.data).toNat ∧
        (receiverAt packet.data).toNat < nodeIdHopsBase.toNat + 1000 := by omega
    simp [Node.caresFor, hrange]
  have hus : ∀ v, receiverAt packet.data ≠ (start.node v).nodeId →
      (start.node v).toUs (receiverAt packet.data) = false := by
    intro v hne
    have hbroadcast : receiverAt packet.data ≠ nodeIdBroadcast := by
      intro hzero
      rw [hzero] at hvalue
      have : nodeIdBroadcast.toNat = 0 := rfl
      omega
    simp [Node.toUs, hne, hbroadcast]
  have hhandled : receiverAt packet.data ≠ (start.node origin).nodeId →
      ∀ events net, Net.Run Deliveries (start.originate origin loopback packet) events net →
        net.Quiet → ∀ v, net.received v ≠ [] ↔
          v ≠ origin ∧ Open (graph start.peer) origin (Stops start packet) v := by
    intro hne events net hrun hquiet v
    have hlength := h.received_length hne hrun hquiet v
    rw [← List.length_pos_iff, hlength]
    by_cases hv : v = origin
    · subst hv
      simp [hus v hne]
    · rw [if_neg hv]
      by_cases hopen : Open (graph start.peer) origin (Stops start packet) v
      · rw [if_pos ⟨hcares v, hopen⟩]
        exact ⟨fun _ => ⟨hv, hopen⟩, fun _ => Nat.one_pos⟩
      · rw [if_neg (fun hk => hopen hk.2)]
        exact ⟨fun hlt => absurd hlt (Nat.lt_irrefl 0), fun hk => absurd hk.2 hopen⟩
  -- one run to its end decides, since all of them have the same nodes handle the packet
  constructor
  · intro hwithin
    obtain ⟨events, net, hrun, hquiet⟩ := h.exists_run_quiet origin loopback
    have hne : receiverAt packet.data ≠ (start.node origin).nodeId := by
      intro hown
      have hself := (hwithin events net hrun hquiet origin).mp (by
        rw [h.received_own hown hrun, if_pos rfl]
        exact List.cons_ne_nil _ _)
      rw [dist_self] at hself
      omega
    refine ⟨hne, ?_⟩
    intro v hv
    have hpos : 0 < (graph start.peer).dist origin v :=
      h.tree.tree.connected.pos_dist_of_ne hv.symm
    have hiff := (hhandled hne events net hrun hquiet v).symm.trans (hwithin events net hrun hquiet v)
    exact ⟨fun hopen => (hiff.mp ⟨hv, hopen⟩).2, fun hle => (hiff.mpr ⟨hpos, hle⟩).2⟩
  · rintro ⟨hne, hcuts⟩ events net hrun hquiet v
    rw [hhandled hne events net hrun hquiet v]
    by_cases hv : v = origin
    · subst hv
      rw [dist_self]
      simp
    · have hpos : 0 < (graph start.peer).dist origin v :=
        h.tree.tree.connected.pos_dist_of_ne (Ne.symm hv)
      rw [hcuts v hv]
      exact ⟨fun hle => ⟨hpos, hle.2⟩, fun hle => ⟨hv, hle.2⟩⟩

/-- A packet that is not for the shortest sink keeps its sender exactly if no relay counts
it down, or no copy that is handled has passed a relay. -/
theorem senderKept_iff (h : Originates start packet) :
    SenderKept start origin loopback packet ↔
      ¬ CountedDown (senderAt packet.data) ∨ HandledAtOnce start origin packet := by
  have horiginal : senderOf packet.message = senderAt packet.data :=
    (h.copy_message).sender
  constructor
  · intro hkept
    by_contra hnot
    push Not at hnot
    obtain ⟨hcounted, hlater⟩ := hnot
    unfold HandledAtOnce at hlater
    push Not at hlater
    obtain ⟨hne, v, hv, hopen, hcares, hrelayed⟩ := hlater
    -- a node beyond a relay handles a copy that has been counted down
    obtain ⟨events, net, hrun, hquiet⟩ := h.exists_run_quiet origin loopback
    have hlength := h.received_length hne hrun hquiet v
    rw [if_neg hv, if_pos ⟨hcares, hopen⟩] at hlength
    obtain ⟨message, hmessage⟩ := List.length_eq_one_iff.mp hlength
    obtain ⟨seen, hr, _⟩ := h.relaying_run hne hrun
    obtain ⟨copies, hcopies, _, hsenders⟩ := hr.received v
    have hnone : (start.originate origin loopback packet).received v = [] := by
      rw [h.received_start, if_neg (fun hk => hv hk.1)]
    rw [hnone, List.nil_append] at hcopies
    have hsame := hkept events net hrun v message (by rw [hmessage]; exact List.mem_singleton_self _)
    have hcount := hsenders message (by rw [← hcopies, hmessage]; exact List.mem_singleton_self _)
    rw [hsame] at hcount
    rcases (decremented_iterate_eq_iff _ _).mp hcount.symm with hnot | hzero
    · exact hnot hcounted
    · obtain ⟨hone, hstops⟩ := (h.relays_eq_zero_iff hv).mp hzero
      exact hrelayed hone hstops
  · intro hor events net hrun v message hmessage
    by_cases hown : receiverAt packet.data = (start.node origin).nodeId
    · rw [h.received_own hown hrun] at hmessage
      split_ifs at hmessage
      · rw [List.mem_singleton.mp hmessage, horiginal]
      · exact absurd hmessage List.not_mem_nil
    · obtain ⟨seen, hr, _⟩ := h.relaying_run hown hrun
      obtain ⟨copies, hcopies, hcount, hsenders⟩ := hr.received v
      rw [hcopies, h.received_start] at hmessage
      rcases List.mem_append.mp hmessage with hown' | hcopy
      · split_ifs at hown'
        · rw [List.mem_singleton.mp hown', horiginal]
        · exact absurd hown' List.not_mem_nil
      · rw [hsenders message hcopy, decremented_iterate_eq_iff]
        refine hor.imp_right ?_
        intro hatOnce
        have hpos : 0 < copies.length := List.length_pos_of_mem hcopy
        rw [hcount] at hpos
        split_ifs at hpos with hcares
        · obtain ⟨hv, hopen⟩ := hr.flooding.open_of_seen h.tree.wired h.tree.tree v hpos
          exact (h.relays_eq_zero_iff hv).mpr
            (hatOnce.resolve_left hown v hv hopen hcares)
        · omega

end Originates

omit [DecidableEq V] in
/-- Where no node has the receiver as its id, the packet is handled by the nodes that it is
meant for exactly if it is limited to one hop, or no node is more than `k` hops away. -/
theorem cutsAt_iff {start : Net V} {origin : V} {packet : ConnectionPacket} {k : ℕ}
    (htree : (graph start.peer).IsTree) (hlow : 1 ≤ k) (hhigh : k < 1000)
    (hk : receiverAt packet.data = nodeIdHopsBase + BitVec.ofNat 16 k)
    (hids : ∀ v, receiverAt packet.data ≠ (start.node v).nodeId) :
    CutsAt start origin packet k ↔ k = 1 ∨ ∀ v, (graph start.peer).dist origin v ≤ k := by
  have hstops : ∀ v, Stops start packet v ↔ k = 1 := by
    intro v
    have hone : nodeIdHopsBase + BitVec.ofNat 16 k = nodeIdHopsBase + 1 ↔ k = 1 := by
      rw [add_right_inj, ← BitVec.toNat_inj, BitVec.toNat_ofNat]
      have : BitVec.toNat (1 : NodeId) = 1 := rfl
      omega
    have hsink : nodeIdHopsBase + BitVec.ofNat 16 k ≠ nodeIdShortestSink := by
      intro hsink
      have hvalue := congrArg BitVec.toNat hsink
      rw [BitVec.toNat_add, BitVec.toNat_ofNat] at hvalue
      have : nodeIdHopsBase.toNat = 30000 := rfl
      have : nodeIdShortestSink.toNat = 31001 := rfl
      omega
    have hid := hids v
    rw [hk] at hid
    simp only [Stops, Node.lastReceiver, hk, decide_eq_true_eq, hid, hone, hsink, false_and,
      or_false, false_or]
  have hdist : ∀ v, v ≠ origin → 0 < (graph start.peer).dist origin v :=
    fun v hv => htree.connected.pos_dist_of_ne (Ne.symm hv)
  constructor
  · rintro ⟨_, hcuts⟩
    by_contra hnot
    push Not at hnot
    obtain ⟨hk1, v, hfar⟩ := hnot
    have hv : v ≠ origin := by
      rintro rfl
      rw [dist_self] at hfar
      omega
    have hopen : Open (graph start.peer) origin (Stops start packet) v :=
      fun w _ hw => hk1 ((hstops w).mp hw)
    have := (hcuts v hv).mp hopen
    omega
  · intro hor
    refine ⟨hids origin, ?_⟩
    intro v hv
    by_cases hk1 : k = 1
    · subst hk1
      -- limited to one hop, every node stops the packet: only the neighbours of the origin are open
      constructor
      · intro hopen
        by_contra hfar
        obtain ⟨u, hadj, hu⟩ := Forest.exists_closer (htree.connected origin v) hv
        have hur : u ≠ origin := by
          rintro rfl
          rw [dist_self] at hu
          omega
        exact hopen u ((between_iff htree hadj hu).mpr (Or.inr ⟨rfl, hur⟩)) ((hstops u).mpr rfl)
      · -- between neighbours there is no other node
        rintro hle w ⟨hwr, hwv, hsum⟩ _
        have hw := hdist w hwr
        have hwv' : 0 < (graph start.peer).dist w v := htree.connected.pos_dist_of_ne hwv
        omega
    · exact ⟨fun _ => hor.resolve_left hk1 v, fun _ w _ hw => hk1 ((hstops w).mp hw)⟩

/-- **Hop-limited packets, and the sender of a packet.**  For every tree, origin and packet: a
packet limited to `k` hops is handled exactly at the nodes from one to `k` hops away if and
only if the nodes that stop it cut off exactly the nodes farther away, and the sender of a
packet is kept if and only if the packet is for the shortest sink, its sender is not counted
down, or no copy that is handled has passed a relay. -/
theorem hops_and_sender_iff [Fintype V] {start : Net V} (origin : V) (loopback : Option Slot)
    {packet : ConnectionPacket} (htree : HandshakenTree start) (hquiet : start.Quiet)
    (hunreceived : ∀ v, start.received v = []) (htype : Ordinary (messageTypeAt packet.data))
    (hheader : sizeofConnPacketHeader ≤ packet.dataLength.toNat) :
    (∀ k, 1 ≤ k → k < 1000 → receiverAt packet.data = nodeIdHopsBase + BitVec.ofNat 16 k →
      (HandledWithin start origin loopback packet k ↔ CutsAt start origin packet k)) ∧
    (SenderKept start origin loopback packet ↔
      receiverAt packet.data = nodeIdShortestSink ∨ ¬ CountedDown (senderAt packet.data) ∨
        HandledAtOnce start origin packet) := by
  constructor
  · intro k hlow hhigh hk
    have hsink : receiverAt packet.data ≠ nodeIdShortestSink := by
      intro hsink
      rw [hsink] at hk
      have hvalue := congrArg BitVec.toNat hk
      rw [BitVec.toNat_add, BitVec.toNat_ofNat] at hvalue
      have : nodeIdHopsBase.toNat = 30000 := rfl
      have : nodeIdShortestSink.toNat = 31001 := rfl
      omega
    have h : Originates start packet := ⟨htree, hquiet, hunreceived, htype, hsink, hheader⟩
    exact h.handledWithin_iff hlow hhigh hk
  · by_cases hsink : receiverAt packet.data = nodeIdShortestSink
    · refine ⟨fun _ => Or.inl hsink, ?_⟩
      intro _ events net hrun v message hmessage
      have hcarried := Carried.run hquiet hunreceived htype hheader hsink hrun
      exact (hcarried.received v message hmessage).sender
    · have h : Originates start packet := ⟨htree, hquiet, hunreceived, htype, hsink, hheader⟩
      rw [h.senderKept_iff]
      exact ⟨Or.inr, fun hor => hor.resolve_left hsink⟩

/-- In a chain of four, a packet of the phone that is limited to two hops travels three hops,
and does not carry the phone's id any more when it is handled. -/
theorem hops_and_sender_chain :
    let packet := headerPacket
      ⟨false, messageTypeLightToggle, bleNodeId + 1, nodeIdHopsBase + BitVec.ofNat 16 2, 0⟩
    ¬ HandledWithin (chain 4 (numbered 4)) 0 none packet 2 ∧
      ¬ SenderKept (chain 4 (numbered 4)) 0 none packet := by
  intro packet
  have hrun : Net.Run Deliveries ((chain 4 (numbered 4)).originate 0 none packet)
      [.deliver 1 inConnection fun _ => 0, .deliver 2 inConnection fun _ => 0,
        .deliver 3 inConnection fun _ => 0] _ := Net.Run.of_replays (by decide)
  constructor
  · intro hwithin
    have hnear := ((hwithin _ _ hrun (by decide) 3).mp (by decide)).2
    have hfar : 3 ≤ 0 + (graph (chain 4 (numbered 4)).peer).dist 0 3 := chain_le_dist 3 0 3
    omega
  · intro hkept
    have hsenders := hkept _ _ hrun 3
    revert hsenders
    decide

/-- A packet of a node that is limited to one hop is handled by its neighbours, and they see
who has sent it. -/
theorem hops_and_sender_iff_chain :
    let packet := headerPacket
      ⟨false, messageTypeLightToggle, 1, nodeIdHopsBase + BitVec.ofNat 16 1, 0⟩
    HandledWithin (chain 4 (numbered 4)) 0 none packet 1 ∧
      SenderKept (chain 4 (numbered 4)) 0 none packet := by
  intro packet
  have htree := chain_handshakenTree 3 (numbered 4)
  have hiff := @hops_and_sender_iff _ _ _ _ 0 none packet htree (by decide) (by decide)
    (by unfold Ordinary; decide) (by decide)
  have hcuts : CutsAt (chain 4 (numbered 4)) 0 packet 1 :=
    (cutsAt_iff htree.tree (by decide) (by decide) (by decide) (by decide)).mpr (Or.inl rfl)
  exact ⟨(hiff.1 1 (by decide) (by decide) (by decide)).mpr hcuts,
    hiff.2.mpr (Or.inr (Or.inl (by unfold CountedDown; decide)))⟩

end FruityMesh.Mesh
