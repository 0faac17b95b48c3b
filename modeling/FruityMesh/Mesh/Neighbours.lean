import FruityMesh.Mesh.JoinMe

/-!
# The neighbours that a node remembers

The buffer holds the last JOIN_ME of at most ten neighbours.  Three things are expected of it:
that a node without a better choice becomes the slave of the biggest cluster in it, that it has
room for a newcomer when old neighbours are gone, and that nobody is chosen who has joined our
own cluster in the meantime.

None of them is always true.  A negative cluster size counts as a huge one
(`picksBiggest_iff`), packets are never removed because of their age (`newcomer_stored_iff`),
and a JOIN_ME of the own cluster does not replace the packet that its sender left before
(`partner_foreign`).
-/

namespace FruityMesh.Mesh

open Runs

namespace Advertiser

variable {node : Advertiser} {packet best other : JoinMeBufferPacket} {decision : Decision}

/-! ## The biggest cluster -/

/-- The loop keeps the first of the packets with the greatest score. -/
theorem bestOf_spec (score : JoinMeBufferPacket → U32) (packets : List JoinMeBufferPacket) :
    (bestOf score (0, none) packets = (0, none) ∧ ∀ packet ∈ packets, score packet = 0) ∨
      ∃ best ∈ packets, bestOf score (0, none) packets = (score best, some best) ∧
        0 < score best ∧ ∀ packet ∈ packets, score packet ≤ score best := by
  induction packets using List.reverseRecOn with
  | nil => exact Or.inl ⟨rfl, fun packet hmem => absurd hmem List.not_mem_nil⟩
  | append_singleton packets last ih =>
      have hsplit : bestOf score (0, none) (packets ++ [last]) =
          if (bestOf score (0, none) packets).1 < score last then (score last, some last)
          else bestOf score (0, none) packets := by
        rw [bestOf, List.foldl_append]
        rfl
      rw [hsplit]
      rcases ih with ⟨hnone, hzero⟩ | ⟨best, hmem, hbest, hpos, hmax⟩
      -- no packet has a score yet
      · rw [hnone]
        by_cases hless : 0 < score last
        · right
          refine ⟨last, by simp, if_pos hless, hless, ?_⟩
          intro packet hpacket
          rcases List.mem_append.mp hpacket with hpacket | hpacket
          · rw [hzero packet hpacket]
            exact BitVec.le_def.mpr (Nat.zero_le _)
          · rw [List.mem_singleton.mp hpacket]
            exact BitVec.le_refl _
        · left
          refine ⟨if_neg hless, ?_⟩
          intro packet hpacket
          rcases List.mem_append.mp hpacket with hpacket | hpacket
          · exact hzero packet hpacket
          · rw [List.mem_singleton.mp hpacket]
            exact BitVec.le_zero_iff.mp (BitVec.not_lt.mp hless)
      -- a later packet has to be strictly better
      · rw [hbest]
        by_cases hless : score best < score last
        · right
          refine ⟨last, by simp, if_pos hless, BitVec.lt_trans hpos hless, ?_⟩
          intro packet hpacket
          rcases List.mem_append.mp hpacket with hpacket | hpacket
          · exact BitVec.le_trans (hmax packet hpacket) (BitVec.le_of_lt hless)
          · rw [List.mem_singleton.mp hpacket]
            exact BitVec.le_refl _
        · right
          refine ⟨best, List.mem_append_left _ hmem, if_neg hless, hpos, ?_⟩
          intro packet hpacket
          rcases List.mem_append.mp hpacket with hpacket | hpacket
          · exact hmax packet hpacket
          · rw [List.mem_singleton.mp hpacket]
            exact BitVec.not_lt.mp hless

/-- A cluster that the node could be the slave of. -/
structure Eligible (node : Advertiser) (packet : JoinMeBufferPacket) : Prop where
  young : node.appTimerMs - packet.receivedTime ≤ maxJoinMePacketAgeMs
  foreign : packet.payload.clusterId ≠ node.clusterId
  unacknowledged : packet.payload.ackField = 0
  freeOut : packet.payload.freeOutConnections ≠ 0

/-- The cluster is larger, or as large and with more free connections. -/
def Larger (a b : JoinMe) : Prop :=
  b.clusterSize.toInt < a.clusterSize.toInt ∨
    (a.clusterSize = b.clusterSize ∧ b.freeOutConnections < a.freeOutConnections)

/-- The chosen cluster is eligible, and no eligible one is larger. -/
def PicksBiggest (node : Advertiser) (decision : Decision) : Prop :=
  match decision.bestCluster with
  | some best => best ∈ node.joinMePacketBuffer ∧ Eligible node best ∧
      ∀ other ∈ node.joinMePacketBuffer, Eligible node other → ¬ Larger other.payload best.payload
  | none => ∀ other ∈ node.joinMePacketBuffer, ¬ Eligible node other

theorem scoreAsSlave_of_eligible (h : Eligible node packet) :
    node.calculateClusterScoreAsSlave packet =
      packet.payload.clusterSize.signExtend 32 * 1000 +
        packet.payload.freeOutConnections.setWidth 32 := by
  unfold calculateClusterScoreAsSlave
  dsimp only
  rw [if_neg (BitVec.not_lt.mpr h.young), if_neg h.foreign,
    if_neg (not_not_intro h.unacknowledged), if_neg h.freeOut]

theorem scoreAsSlave_of_not_eligible (h : ¬ Eligible node packet) :
    node.calculateClusterScoreAsSlave packet = 0 := by
  unfold calculateClusterScoreAsSlave
  dsimp only
  split_ifs with hold hown hack hfree
  · rfl
  · rfl
  · rfl
  · rfl
  · exact absurd ⟨BitVec.not_lt.mp hold, hown, not_not.mp hack, hfree⟩ h

/-- The score as a number: the sign of the cluster size makes it a huge one. -/
theorem toNat_scoreAsSlave (h : Eligible node packet) :
    ((node.calculateClusterScoreAsSlave packet).toNat : ℤ) =
      packet.payload.clusterSize.toInt * 1000 + packet.payload.freeOutConnections.toNat +
        if packet.payload.clusterSize.toInt < 0 then 2 ^ 32 else 0 := by
  rw [scoreAsSlave_of_eligible h]
  have hout := packet.payload.freeOutConnections.isLt
  have hsize := packet.payload.clusterSize.isLt
  have hint := BitVec.toInt_eq_toNat_cond packet.payload.clusterSize
  have hmsb := @BitVec.msb_eq_decide 16 packet.payload.clusterSize
  rw [BitVec.toNat_add, BitVec.toNat_mul, BitVec.toNat_signExtend, BitVec.toNat_setWidth,
    BitVec.toNat_setWidth, hmsb, hint, show (1000 : U32).toNat = 1000 from rfl]
  simp only [decide_eq_true_eq]
  split_ifs <;> omega

theorem scoreAsSlave_ne_zero (h : Eligible node packet) :
    node.calculateClusterScoreAsSlave packet ≠ 0 := by
  intro hzero
  have hscore := toNat_scoreAsSlave h
  have hout : packet.payload.freeOutConnections.toNat ≠ 0 :=
    fun hout => h.freeOut (BitVec.eq_of_toNat_eq hout)
  have hlow := BitVec.le_toInt packet.payload.clusterSize
  rw [hzero, show ((0 : U32).toNat : ℤ) = 0 from rfl] at hscore
  split_ifs at hscore <;> omega

/-- Scores order clusters of the same sign as they should. -/
theorem scoreAsSlave_lt_iff (hpacket : Eligible node packet) (hother : Eligible node other)
    (hsign : packet.payload.clusterSize.toInt < 0 ↔ other.payload.clusterSize.toInt < 0) :
    node.calculateClusterScoreAsSlave packet < node.calculateClusterScoreAsSlave other ↔
      Larger other.payload packet.payload := by
  have hscore := toNat_scoreAsSlave hpacket
  have hscore' := toNat_scoreAsSlave hother
  have hout := packet.payload.freeOutConnections.isLt
  have hout' := other.payload.freeOutConnections.isLt
  have hsame : other.payload.clusterSize = packet.payload.clusterSize ↔
      other.payload.clusterSize.toInt = packet.payload.clusterSize.toInt := BitVec.toInt_inj.symm
  unfold Larger
  rw [BitVec.lt_def, BitVec.lt_def, hsame]
  split_ifs at hscore hscore' <;> omega

/-- A negative cluster size beats all others. -/
theorem scoreAsSlave_lt_of_neg (hpacket : Eligible node packet) (hother : Eligible node other)
    (hsize : 0 ≤ packet.payload.clusterSize.toInt) (hneg : other.payload.clusterSize.toInt < 0) :
    node.calculateClusterScoreAsSlave packet < node.calculateClusterScoreAsSlave other := by
  have hscore := toNat_scoreAsSlave hpacket
  have hscore' := toNat_scoreAsSlave hother
  have hout := packet.payload.freeOutConnections.isLt
  have hlow := BitVec.le_toInt other.payload.clusterSize
  have hhigh := BitVec.toInt_lt (x := packet.payload.clusterSize)
  rw [if_neg (not_lt.mpr hsize)] at hscore
  rw [if_pos hneg] at hscore'
  rw [BitVec.lt_def]
  omega

/-- The node becomes the master of a cluster with a score, or it searches for one to be the slave
of.  The buffer is cleaned if it finds one, and nothing happens otherwise. -/
theorem determine_cases (hdecision : node.determineBestClusterAvailable = some decision) :
    decision.node.appTimerMs = node.appTimerMs ∧
      ((decision.result = .connectAsMaster ∧ decision.node.joinMePacketBuffer = [] ∧
          ∃ best ∈ node.joinMePacketBuffer, decision.bestCluster = some best ∧
            0 < node.calculateClusterScoreAsMaster best) ∨
        (decision.result ≠ .connectAsMaster ∧
          (decision.node.joinMePacketBuffer = [] ∨ decision.node = node) ∧
          decision.bestCluster =
            (bestOf node.calculateClusterScoreAsSlave (0, none) node.joinMePacketBuffer).2)) := by
  unfold determineBestClusterAvailable at hdecision
  by_cases hempty : node.joinMePacketBuffer = []
  · rw [if_pos hempty] at hdecision
    rw [← Option.some.inj hdecision, hempty]
    exact ⟨rfl, Or.inr ⟨fun heq => DecisionResult.noConfusion heq, Or.inr rfl, rfl⟩⟩
  · rw [if_neg hempty] at hdecision
    -- the search as a master, which is skipped without a free connection
    have hsearch : ∀ asMaster, asMaster = (if node.cm.freeOutConnections ≠ 0 then
        bestOf node.calculateClusterScoreAsMaster (0, none) node.joinMePacketBuffer
        else (0, none)) → asMaster = (0, none) ∨
          ∃ best ∈ node.joinMePacketBuffer, asMaster.2 = some best ∧
            0 < node.calculateClusterScoreAsMaster best := by
      intro asMaster hasMaster
      rw [hasMaster]
      split_ifs with hfree
      · rcases bestOf_spec node.calculateClusterScoreAsMaster node.joinMePacketBuffer with
          ⟨hnone, _⟩ | ⟨best, hmem, hbest, hpos, _⟩
        · exact Or.inl hnone
        · exact Or.inr ⟨best, hmem, by rw [hbest], hpos⟩
      · exact Or.inl rfl
    generalize (if node.cm.freeOutConnections ≠ 0 then
      bestOf node.calculateClusterScoreAsMaster (0, none) node.joinMePacketBuffer
      else (0, none)) = asMaster at hdecision hsearch
    dsimp only at hdecision
    rcases hsearch asMaster rfl with hnone | ⟨best, hmem, hbest, hpos⟩
    · rw [hnone] at hdecision
      dsimp only at hdecision
      split at hdecision
      · rename_i best hbest
        rw [← Option.some.inj hdecision, hbest]
        exact ⟨rfl, Or.inr ⟨fun heq => DecisionResult.noConfusion heq, Or.inl rfl, rfl⟩⟩
      · rename_i hbest
        rw [← Option.some.inj hdecision, hbest]
        exact ⟨rfl, Or.inr ⟨fun heq => DecisionResult.noConfusion heq, Or.inr rfl, rfl⟩⟩
    · rw [hbest] at hdecision
      obtain ⟨cm, _, hcm⟩ := Option.map_eq_some_iff.mp hdecision
      rw [← hcm]
      exact ⟨rfl, Or.inl ⟨rfl, rfl, best, hmem, rfl, hpos⟩⟩

/-- The slave decision picks the biggest cluster if and only if the eligible clusters do not have
sizes of both signs.  A negative size becomes a huge unsigned score. -/
theorem picksBiggest_iff (hdecision : node.determineBestClusterAvailable = some decision)
    (hslave : decision.result ≠ .connectAsMaster) :
    PicksBiggest node decision ↔
      ∀ packet ∈ node.joinMePacketBuffer, ∀ other ∈ node.joinMePacketBuffer,
        Eligible node packet → Eligible node other →
          0 ≤ packet.payload.clusterSize.toInt → 0 ≤ other.payload.clusterSize.toInt := by
  obtain ⟨_, ⟨hmaster, _⟩ | ⟨_, _, hbest⟩⟩ := determine_cases hdecision
  · exact absurd hmaster hslave
  rcases bestOf_spec node.calculateClusterScoreAsSlave node.joinMePacketBuffer with
    ⟨hnone, hzero⟩ | ⟨best, hmem, hsome, hpos, hmax⟩
  · -- nobody is eligible
    have hnobody : ∀ packet ∈ node.joinMePacketBuffer, ¬ Eligible node packet :=
      fun packet hpacket heligible => scoreAsSlave_ne_zero heligible (hzero packet hpacket)
    rw [hnone] at hbest
    unfold PicksBiggest
    rw [hbest]
    constructor
    · intro _ packet hpacket _ _ heligible
      exact absurd heligible (hnobody packet hpacket)
    · intro _
      exact hnobody
  · have heligible : Eligible node best := by
      by_contra hnot
      rw [scoreAsSlave_of_not_eligible hnot] at hpos
      exact BitVec.lt_irrefl 0 hpos
    rw [hsome] at hbest
    unfold PicksBiggest
    rw [hbest]
    constructor
    · rintro ⟨_, _, hbiggest⟩ packet hpacket other hother hpe hoe hsize
      by_contra hneg
      -- the best of them is negative then, and smaller than the packet
      have hbestNeg : best.payload.clusterSize.toInt < 0 := by
        by_contra hbestSize
        exact absurd (hmax other hother) (BitVec.not_le.mpr
          (scoreAsSlave_lt_of_neg heligible hoe (not_lt.mp hbestSize) (not_le.mp hneg)))
      exact hbiggest packet hpacket hpe (Or.inl (hbestNeg.trans_le hsize))
    · intro hsigns
      refine ⟨hmem, heligible, ?_⟩
      intro other hother hoe hlarger
      have hsign : best.payload.clusterSize.toInt < 0 ↔ other.payload.clusterSize.toInt < 0 := by
        have hto := hsigns best hmem other hother heligible hoe
        have hfrom := hsigns other hother best hmem hoe heligible
        omega
      exact absurd (hmax other hother)
        (BitVec.not_le.mpr ((scoreAsSlave_lt_iff heligible hoe hsign).mpr hlarger))

/-- Without a free connection of its own, the node has heard a cluster of five, and one that
claims to have minus one node. -/
def heardNegative : Advertiser :=
  ((seeker 1 10 3 4).hear bleAddress ((seeker 2 9 5 1).joinMePacket none)).hear bleAddress
    ((seeker 3 8 (-1) 1).joinMePacket none)

theorem negative_picked :
    ¬ ∀ (node : Advertiser) (decision : Decision),
      node.determineBestClusterAvailable = some decision → decision.result ≠ .connectAsMaster →
        PicksBiggest node decision := by
  intro hall
  obtain ⟨_, _, hbiggest⟩ := hall heardNegative _ rfl (by decide)
  exact hbiggest ⟨bleAddress, 0, (seeker 2 9 5 1).joinMePacket none⟩ (by decide)
    ⟨by decide, by decide, by decide, by decide⟩ (Or.inl (by decide))

/-- The node has heard a cluster of five and a cluster of seven. -/
def heardBoth : Advertiser :=
  ((seeker 1 10 3 4).hear bleAddress ((seeker 2 9 5 1).joinMePacket none)).hear bleAddress
    ((seeker 3 8 7 1).joinMePacket none)

theorem picksBiggest_iff_both :
    ∃ decision, heardBoth.determineBestClusterAvailable = some decision ∧
      decision.result ≠ .connectAsMaster ∧
      decision.bestCluster.map (fun best => best.payload.clusterSize) = some 7 ∧
      PicksBiggest heardBoth decision := by
  refine ⟨_, rfl, by decide, by decide, (picksBiggest_iff rfl (by decide)).mpr ?_⟩
  have hsizes : ∀ other ∈ heardBoth.joinMePacketBuffer, 0 ≤ other.payload.clusterSize.toInt := by
    decide
  exact fun _ _ other hother _ _ _ => hsizes other hother

/-! ## Hearing -/

section Hear

variable {address : BleAddress} {payload : JoinMe}

/-- The packet that `AdvertisementMessageHandler` writes. -/
def heardPacket (node : Advertiser) (address : BleAddress) (payload : JoinMe) :
    JoinMeBufferPacket :=
  ⟨address, node.appTimerMs, payload⟩

/-- A JOIN_ME of the own cluster is ignored.  Another one replaces the packet of its sender, or
it is put into a free slot, or it is dropped. -/
theorem hear_cases :
    (payload.clusterId = node.clusterId ∧
        (node.hear address payload).joinMePacketBuffer = node.joinMePacketBuffer) ∨
      (payload.clusterId ≠ node.clusterId ∧
        ((∃ before old after, node.joinMePacketBuffer = before ++ old :: after ∧
            old.payload.sender = payload.sender ∧
            (node.hear address payload).joinMePacketBuffer =
              before ++ node.heardPacket address payload :: after) ∨
          ((∀ old ∈ node.joinMePacketBuffer, old.payload.sender ≠ payload.sender) ∧
            ((node.joinMePacketBuffer.length < joinMePacketBufferMaxElements ∧
                (node.hear address payload).joinMePacketBuffer =
                  node.joinMePacketBuffer ++ [node.heardPacket address payload]) ∨
              (joinMePacketBufferMaxElements ≤ node.joinMePacketBuffer.length ∧
                (node.hear address payload).joinMePacketBuffer = node.joinMePacketBuffer))))) := by
  unfold hear advertisementMessageHandler
  rw [if_pos ⟨rfl, rfl⟩]
  by_cases hcluster : payload.clusterId = node.clusterId
  · rw [if_pos hcluster]
    exact Or.inl ⟨hcluster, rfl⟩
  · rw [if_neg hcluster]
    refine Or.inr ⟨hcluster, ?_⟩
    dsimp only
    cases hfind : node.joinMePacketBuffer.findIdx?
        fun old => old.payload.sender = payload.sender with
    | some k =>
        obtain ⟨hlength, hsender, _⟩ := List.findIdx?_eq_some_iff_getElem.mp hfind
        refine Or.inl ⟨node.joinMePacketBuffer.take k, node.joinMePacketBuffer[k],
          node.joinMePacketBuffer.drop (k + 1), ?_, of_decide_eq_true hsender, ?_⟩
        · rw [← List.drop_eq_getElem_cons hlength, List.take_append_drop]
        · exact (List.set_eq_take_append_cons_drop ..).trans (if_pos hlength)
    | none =>
        refine Or.inr ⟨fun old hold =>
          of_decide_eq_false (List.findIdx?_eq_none_iff.mp hfind old hold), ?_⟩
        -- the sender is new
        dsimp only
        split_ifs with hroom
        · exact Or.inl ⟨hroom, rfl⟩
        · exact Or.inr ⟨not_lt.mp hroom, rfl⟩

end Hear

end Advertiser

/-! ## Runs -/

/-- A node that hears JOIN_MEs, and all that it has heard with the times, the last one first. -/
structure Listener where
  node : Advertiser
  /-- The time in milliseconds.  The timer of the node overflows, this does not. -/
  now : ℕ
  heard : List (ℕ × JoinMeBufferPacket)

inductive ListenerEvent
  | wait (ms : U32)
  | hear (address : BleAddress) (payload : JoinMe)
  | decide
  /-- The node gets into another cluster. -/
  | setClusterId (clusterId : ClusterId)

namespace Listener

open Advertiser

def apply (s : Listener) : ListenerEvent → Listener
  | .wait ms => { s with node := s.node.wait ms, now := s.now + ms.toNat }
  | .hear address payload =>
      { s with
        node := s.node.hear address payload
        heard := (s.now, s.node.heardPacket address payload) :: s.heard }
  | .decide => { s with node := s.node.apply .decide }
  | .setClusterId clusterId =>
      { s with
        node :=
          { s.node with
            cm := { s.node.cm with node := { s.node.cm.node with clusterId := clusterId } } } }

def AnyEvent : Listener → ListenerEvent → Prop := fun _ _ => True

instance (s : Listener) (event : ListenerEvent) : Decidable (AnyEvent s event) := isTrue trivial

/-- The packet was received within the last 15 seconds. -/
def Recent (s : Listener) (packet : JoinMeBufferPacket) : Prop :=
  ∃ entry ∈ s.heard, entry.2 = packet ∧ s.now ≤ entry.1 + maxJoinMePacketAgeMs.toNat

/-- When this JOIN_ME comes it is stored, unless recent packets of others take all the slots. -/
def StoredUnlessTaken (s : Listener) (address : BleAddress) (payload : JoinMe) : Prop :=
  s.node.heardPacket address payload ∈ (s.node.hear address payload).joinMePacketBuffer ∨
    (s.node.joinMePacketBuffer.length = joinMePacketBufferMaxElements ∧
      ∀ packet ∈ s.node.joinMePacketBuffer,
        packet.payload.sender ≠ payload.sender ∧ s.Recent packet)

/-- Packets of others take all the slots, and one of them is old. -/
def Blocked (s : Listener) (payload : JoinMe) : Prop :=
  s.node.joinMePacketBuffer.length = joinMePacketBufferMaxElements ∧
    (∀ packet ∈ s.node.joinMePacketBuffer, packet.payload.sender ≠ payload.sender) ∧
      ∃ packet ∈ s.node.joinMePacketBuffer, ¬ s.Recent packet

variable {start s : Listener} {address : BleAddress} {payload : JoinMe}
  {events : List ListenerEvent}

/-- A decision cleans the buffer or leaves it as it is. -/
theorem decide_buffer : (s.apply .decide).node.joinMePacketBuffer = [] ∨
    (s.apply .decide).node = s.node := by
  show ((s.node.determineBestClusterAvailable.map Decision.node).getD
      s.node).joinMePacketBuffer = [] ∨
    (s.node.determineBestClusterAvailable.map Decision.node).getD s.node = s.node
  cases hdecision : s.node.determineBestClusterAvailable with
  | none => exact Or.inr rfl
  | some decision =>
      obtain ⟨_, ⟨_, hclean, _⟩ | ⟨_, hbuffer, _⟩⟩ := determine_cases hdecision
      · exact Or.inl hclean
      · exact hbuffer

/-! ### Room for a newcomer -/

theorem length_step (event : ListenerEvent)
    (h : s.node.joinMePacketBuffer.length ≤ joinMePacketBufferMaxElements) :
    (s.apply event).node.joinMePacketBuffer.length ≤ joinMePacketBufferMaxElements := by
  cases event with
  | wait ms => exact h
  | hear address payload =>
      show (s.node.hear address payload).joinMePacketBuffer.length ≤ _
      rcases @hear_cases s.node address payload with
        ⟨_, hsame⟩ | ⟨_, ⟨before, old, after, hold, _, hnew⟩ | ⟨_, ⟨hroom, hnew⟩ | ⟨_, hsame⟩⟩⟩
      · rwa [hsame]
      · rw [hold] at h
        rw [hnew]
        simpa using h
      · rw [hnew, List.length_append]
        exact hroom
      · rwa [hsame]
  | decide =>
      rcases s.decide_buffer with hclean | hsame
      · rw [hclean]
        exact Nat.zero_le _
      · rwa [hsame]
  | setClusterId clusterId => exact h

theorem length_le (hrun : Run apply AnyEvent start events s)
    (hempty : start.node.joinMePacketBuffer = []) :
    s.node.joinMePacketBuffer.length ≤ joinMePacketBufferMaxElements := by
  apply hrun.preserves fun s event h _ => length_step event h
  rw [hempty]
  exact Nat.zero_le _

/-- Whatever has been heard and decided before, a JOIN_ME of another cluster finds a place if and
only if it is not blocked by an old packet: nothing ever overwrites one. -/
theorem newcomer_stored_iff (hrun : Run apply AnyEvent start events s)
    (hempty : start.node.joinMePacketBuffer = [])
    (hforeign : payload.clusterId ≠ s.node.clusterId) :
    s.StoredUnlessTaken address payload ↔ ¬ s.Blocked payload := by
  have hlength := length_le hrun hempty
  unfold StoredUnlessTaken Blocked
  rcases @hear_cases s.node address payload with
    ⟨hown, _⟩ | ⟨_, ⟨before, old, after, hold, hsender, hnew⟩ |
      ⟨hothers, ⟨hroom, hnew⟩ | ⟨hfull, hsame⟩⟩⟩
  · exact absurd hown hforeign
  · -- the packet of the sender is replaced
    rw [hnew]
    refine iff_of_true (Or.inl (by simp)) ?_
    rintro ⟨_, hothers, _⟩
    exact hothers old (by rw [hold]; simp) hsender
  · rw [hnew]
    refine iff_of_true (Or.inl (by simp)) ?_
    rintro ⟨hfull, _⟩
    omega
  · rw [hsame]
    have hnot : s.node.heardPacket address payload ∉ s.node.joinMePacketBuffer :=
      fun hmem => hothers _ hmem rfl
    constructor
    · rintro (hmem | ⟨_, hrecent⟩) ⟨_, _, packet, hpacket, hold⟩
      · exact hnot hmem
      · exact hold (hrecent packet hpacket).2
    · intro hunblocked
      refine Or.inr ⟨hlength.antisymm hfull, ?_⟩
      intro packet hpacket
      refine ⟨hothers packet hpacket, ?_⟩
      by_contra hold
      exact hunblocked ⟨hlength.antisymm hfull, hothers, packet, hpacket, hold⟩

/-- A node without a free connection that has heard nothing. -/
def listening : Listener := ⟨seeker 1 10 3 4, 0, []⟩

/-- Nobody can connect to us from this node: it has no connection free. -/
def fullJoinMe (nodeId : NodeId) : JoinMe := (seeker nodeId 9 1 4).joinMePacket none

/-- Ten nodes are heard, and 15 seconds later they are gone. -/
def tenGone : List ListenerEvent :=
  (List.range 10).map (fun k => .hear bleAddress (fullJoinMe (BitVec.ofNat 16 (k + 20)))) ++
    [.decide, .wait 15001, .decide]

theorem newcomer_dropped :
    ¬ ∀ (start s : Listener) (events : List ListenerEvent) (address : BleAddress)
        (payload : JoinMe), Run apply AnyEvent start events s →
          start.node.joinMePacketBuffer = [] → payload.clusterId ≠ s.node.clusterId →
            s.StoredUnlessTaken address payload := by
  intro hall
  have hrun : Run apply AnyEvent listening tenGone (tenGone.foldl apply listening) :=
    Run.of_replays (by decide)
  have hstored := hall listening _ tenGone bleAddress ((seeker 40 9 1 1).joinMePacket none) hrun rfl
    (by decide)
  unfold StoredUnlessTaken Recent at hstored
  revert hstored
  decide

/-- Nine nodes are heard, and 15 seconds later they are gone. -/
def nineGone : List ListenerEvent :=
  (List.range 9).map (fun k => .hear bleAddress (fullJoinMe (BitVec.ofNat 16 (k + 20)))) ++
    [.decide, .wait 15001, .decide]

/-- Ten nodes are heard, the last five seconds ago. -/
def tenRecent : List ListenerEvent :=
  (List.range 10).map (fun k => .hear bleAddress (fullJoinMe (BitVec.ofNat 16 (k + 20)))) ++
    [.decide, .wait 5000, .decide]

/-- There is a slot left behind nine old packets, and ten recent ones may take all of them. -/
theorem newcomer_stored_nine_ten :
    (nineGone.foldl apply listening).StoredUnlessTaken bleAddress
        ((seeker 40 9 1 1).joinMePacket none) ∧
      (tenRecent.foldl apply listening).StoredUnlessTaken bleAddress
        ((seeker 40 9 1 1).joinMePacket none) := by
  have hnine : Run apply AnyEvent listening nineGone (nineGone.foldl apply listening) :=
    Run.of_replays (by decide)
  have hten : Run apply AnyEvent listening tenRecent (tenRecent.foldl apply listening) :=
    Run.of_replays (by decide)
  refine ⟨(newcomer_stored_iff hnine rfl (by decide)).mpr ?_,
    (newcomer_stored_iff hten rfl (by decide)).mpr ?_⟩
  · rintro ⟨hfull, _⟩
    exact absurd hfull (by decide)
  · unfold Blocked Recent
    decide

/-! ### Partners of other clusters -/

/-- The last JOIN_ME that has been heard of a node. -/
def lastHeard (s : Listener) (sender : NodeId) : Option JoinMe :=
  (s.heard.find? fun entry => entry.2.payload.sender = sender).map fun entry => entry.2.payload

/-- The partner that the node would choose now was of another cluster when last heard. -/
def PartnerForeign (s : Listener) : Prop :=
  ∀ decision best, s.node.determineBestClusterAvailable = some decision →
    decision.bestCluster = some best →
      ∃ payload, s.lastHeard best.payload.sender = some payload ∧
        payload.clusterId ≠ s.node.clusterId

/-- A JOIN_ME of the own cluster comes from a node of which there is nothing in the buffer. -/
def Unremembered : Listener → ListenerEvent → Prop
  | s, .hear _ payload => payload.clusterId = s.node.clusterId →
      ∀ packet ∈ s.node.joinMePacketBuffer, packet.payload.sender ≠ payload.sender
  | _, _ => True

instance : (s : Listener) → (event : ListenerEvent) → Decidable (Unremembered s event)
  | s, .hear _ payload => inferInstanceAs (Decidable (payload.clusterId = s.node.clusterId →
      ∀ packet ∈ s.node.joinMePacketBuffer, packet.payload.sender ≠ payload.sender))
  | _, .wait _ => isTrue trivial
  | _, .decide => isTrue trivial
  | _, .setClusterId _ => isTrue trivial

/-- There is one packet of each sender, and it is the last that was heard of it. -/
structure Current (s : Listener) : Prop where
  senders : s.node.joinMePacketBuffer.Pairwise fun a b => a.payload.sender ≠ b.payload.sender
  last : ∀ packet ∈ s.node.joinMePacketBuffer,
    s.lastHeard packet.payload.sender = some packet.payload

theorem lastHeard_hear_self :
    (s.apply (.hear address payload)).lastHeard payload.sender = some payload := by
  unfold lastHeard
  rw [show (s.apply (.hear address payload)).heard =
    (s.now, s.node.heardPacket address payload) :: s.heard from rfl,
    List.find?_cons_of_pos (by simp [heardPacket])]
  rfl

theorem lastHeard_hear_other {sender : NodeId} (h : sender ≠ payload.sender) :
    (s.apply (.hear address payload)).lastHeard sender = s.lastHeard sender := by
  unfold lastHeard
  rw [show (s.apply (.hear address payload)).heard =
    (s.now, s.node.heardPacket address payload) :: s.heard from rfl,
    List.find?_cons_of_neg (by simp [heardPacket, h.symm])]

theorem Current.congr {s' : Listener} (h : Current s)
    (hbuffer : s'.node.joinMePacketBuffer = [] ∨
      s'.node.joinMePacketBuffer = s.node.joinMePacketBuffer)
    (hheard : s'.heard = s.heard) : Current s' := by
  have hlast : s'.lastHeard = s.lastHeard := by
    unfold lastHeard
    rw [hheard]
  rcases hbuffer with hempty | hsame
  · exact ⟨by rw [hempty]; exact List.Pairwise.nil,
      fun packet hmem => absurd hmem (by rw [hempty]; exact List.not_mem_nil)⟩
  · exact ⟨by rw [hsame]; exact h.senders, by rw [hsame, hlast]; exact h.last⟩

/-- What is heard of a node of which there is nothing in the buffer changes nothing for the
packets in it. -/
theorem Current.last_hear (h : Current s)
    (hothers : ∀ packet ∈ s.node.joinMePacketBuffer, packet.payload.sender ≠ payload.sender) :
    ∀ packet ∈ s.node.joinMePacketBuffer,
      (s.apply (.hear address payload)).lastHeard packet.payload.sender = some packet.payload := by
  intro packet hmem
  rw [lastHeard_hear_other (hothers packet hmem)]
  exact h.last packet hmem

theorem Current.hear (h : Current s) (hallowed : Unremembered s (.hear address payload)) :
    Current (s.apply (.hear address payload)) := by
  have hbuffer : (s.apply (.hear address payload)).node.joinMePacketBuffer =
    (s.node.hear address payload).joinMePacketBuffer := rfl
  rcases @hear_cases s.node address payload with
    ⟨hown, hsame⟩ | ⟨_, ⟨before, old, after, hold, hsender, hnew⟩ |
      ⟨hothers, ⟨_, hnew⟩ | ⟨_, hsame⟩⟩⟩
  · refine ⟨?_, ?_⟩
    · rw [hbuffer, hsame]
      exact h.senders
    · rw [hbuffer, hsame]
      exact h.last_hear (hallowed hown)
  · -- the packets before and after the replaced one are of other senders
    have hpairwise := h.senders
    rw [hold, List.pairwise_append, List.pairwise_cons] at hpairwise
    obtain ⟨hbefore, ⟨hafter, hrest⟩, hacross⟩ := hpairwise
    have hothers : ∀ packet ∈ before ++ after, packet.payload.sender ≠ payload.sender := by
      intro packet hmem
      rw [← hsender]
      rcases List.mem_append.mp hmem with hmem | hmem
      · exact hacross packet hmem old List.mem_cons_self
      · exact (hafter packet hmem).symm
    constructor
    · rw [hbuffer, hnew, List.pairwise_append, List.pairwise_cons]
      refine ⟨hbefore, ⟨fun packet hmem => ?_, hrest⟩, fun packet hmem other hother => ?_⟩
      · exact (hothers packet (List.mem_append_right _ hmem)).symm
      · rcases List.mem_cons.mp hother with hnewest | hother
        · rw [hnewest]
          exact hothers packet (List.mem_append_left _ hmem)
        · exact hacross packet hmem other (List.mem_cons_of_mem _ hother)
    · rw [hbuffer, hnew]
      intro packet hmem
      have hcases : packet = s.node.heardPacket address payload ∨ packet ∈ before ++ after := by
        simpa [or_left_comm] using hmem
      rcases hcases with hnewest | hkept
      · rw [hnewest]
        exact lastHeard_hear_self
      · rw [lastHeard_hear_other (hothers packet hkept)]
        apply h.last packet
        rw [hold]
        rcases List.mem_append.mp hkept with hmem | hmem
        · exact List.mem_append_left _ hmem
        · exact List.mem_append_right _ (List.mem_cons_of_mem _ hmem)
  · constructor
    · rw [hbuffer, hnew, List.pairwise_append]
      refine ⟨h.senders, List.pairwise_singleton _ _, fun packet hmem other hother => ?_⟩
      rw [List.mem_singleton.mp hother]
      exact hothers packet hmem
    · rw [hbuffer, hnew]
      intro packet hmem
      rcases List.mem_append.mp hmem with hmem | hmem
      · exact h.last_hear hothers packet hmem
      · rw [List.mem_singleton.mp hmem]
        exact lastHeard_hear_self
  · refine ⟨?_, ?_⟩
    · rw [hbuffer, hsame]
      exact h.senders
    · rw [hbuffer, hsame]
      exact h.last_hear hothers

theorem Current.step (h : Current s) {event : ListenerEvent} (hallowed : Unremembered s event) :
    Current (s.apply event) := by
  cases event with
  | wait ms => exact h.congr (Or.inr rfl) rfl
  | hear address payload => exact h.hear hallowed
  | decide => exact h.congr (s.decide_buffer.imp id fun hsame => by rw [hsame]) rfl
  | setClusterId clusterId => exact h.congr (Or.inr rfl) rfl

/-- Only a packet of another cluster has a score. -/
theorem best_foreign {node : Advertiser} {decision : Decision} {best : JoinMeBufferPacket}
    (hdecision : node.determineBestClusterAvailable = some decision)
    (hbest : decision.bestCluster = some best) :
    best ∈ node.joinMePacketBuffer ∧ best.payload.clusterId ≠ node.clusterId := by
  obtain ⟨_, ⟨_, _, best', hmem, hmaster, hpos⟩ | ⟨_, _, hslave⟩⟩ := determine_cases hdecision
  · obtain rfl : best' = best := Option.some.inj (hmaster.symm.trans hbest)
    refine ⟨hmem, fun hown => ?_⟩
    unfold calculateClusterScoreAsMaster at hpos
    dsimp only at hpos
    rw [if_pos hown, ite_self] at hpos
    exact BitVec.lt_irrefl 0 hpos
  · rw [hslave] at hbest
    rcases bestOf_spec node.calculateClusterScoreAsSlave node.joinMePacketBuffer with
      ⟨hnone, _⟩ | ⟨best', hmem, hsome, hpos, _⟩
    · rw [hnone] at hbest
      exact absurd hbest (Option.some_ne_none best).symm
    · rw [hsome] at hbest
      obtain rfl : best' = best := Option.some.inj hbest
      refine ⟨hmem, fun hown => ?_⟩
      rw [scoreAsSlave_of_not_eligible fun heligible => heligible.foreign hown] at hpos
      exact BitVec.lt_irrefl 0 hpos

/-- In a run in which nobody of whom there is a packet in the buffer is heard in our own cluster,
no partner is chosen that was last heard in our own cluster. -/
theorem partner_foreign (hrun : Run apply Unremembered start events s)
    (hempty : start.node.joinMePacketBuffer = []) : s.PartnerForeign := by
  have hstart : Current start := by
    refine ⟨by rw [hempty]; exact List.Pairwise.nil, fun packet hmem => ?_⟩
    rw [hempty] at hmem
    exact absurd hmem List.not_mem_nil
  have hcurrent : Current s := hrun.preserves (fun _ _ h hallowed => h.step hallowed) hstart
  intro decision best hdecision hbest
  obtain ⟨hmem, hforeign⟩ := best_foreign hdecision hbest
  exact ⟨best.payload, hcurrent.last best hmem, hforeign⟩

/-- Another node is heard, it gets into our cluster, and it is heard again. -/
def merged : List ListenerEvent :=
  [.hear bleAddress ((seeker 2 9 1 1).joinMePacket none),
    .hear bleAddress ((seeker 2 10 4 1).joinMePacket none)]

theorem own_cluster_chosen :
    ¬ ∀ (start s : Listener) (events : List ListenerEvent), Run apply AnyEvent start events s →
        start.node.joinMePacketBuffer = [] → s.PartnerForeign := by
  intro hall
  have hrun : Run apply AnyEvent listening merged (merged.foldl apply listening) :=
    Run.of_replays (by decide)
  obtain ⟨payload, hlast, hforeign⟩ := hall listening _ merged hrun rfl _ _ rfl rfl
  rw [← Option.some.inj hlast] at hforeign
  exact hforeign rfl

/-- A node of our own cluster is heard, and one of another cluster twice. -/
def heardAgain : List ListenerEvent :=
  [.hear bleAddress ((seeker 3 10 4 1).joinMePacket none),
    .hear bleAddress ((seeker 2 9 1 1).joinMePacket none), .wait 1000,
    .hear bleAddress ((seeker 2 8 2 1).joinMePacket none)]

theorem partner_foreign_again :
    ((heardAgain.foldl apply listening).node.determineBestClusterAvailable.bind
        Decision.bestCluster).map (fun best => best.payload.clusterId) = some 8 ∧
      (heardAgain.foldl apply listening).PartnerForeign := by
  have hrun : Run apply Unremembered listening heardAgain (heardAgain.foldl apply listening) :=
    Run.of_replays (by decide)
  exact ⟨by decide, partner_foreign hrun rfl⟩

end Listener

end FruityMesh.Mesh
