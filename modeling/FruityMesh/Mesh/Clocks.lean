import FruityMesh.MainLoop
import FruityMesh.Mesh.Relay

/-!
# Clocks

A node keeps the time in `globalTime`, as of the moment at which the counter of its `app_timer`
stood at `globalTimeSetAt`.  The terminal command `sendtime` floods an UPDATE_TIMESTAMP, which
has no time in it while it waits: `fillTransmitBuffers` writes the time of the sender into it
just before it leaves a node, and the next node takes over that time when it arrives, and then
relays the packet.

So it does not matter how long the packet waits in the queues.  A clock that has been set this
way is late by the time that the packet was in the air on its way here, and by the ticks that
the main loops on the way have lost since (`clocks_agree`).
-/

namespace FruityMesh.Mesh

open Cells LittleEndian Transport Ports Flood Runs

/-! ## The code -/

/-- `settime`, and what `messageReceivedCallback` does with a time. -/
def setTime (timer : AppTimer) (m : MainLoop) (timestamp : U64) : MainLoop :=
  { m with
    globalTime := timestamp
    globalTimeSetAt := timer.cntGet m.now
    setAt := m.now }

/-- The time that `fillTransmitBuffers` writes into the packet. -/
def timestampOf (timer : AppTimer) (m : MainLoop) : U64 :=
  m.globalTime + (timer.cntDiffCompute (timer.cntGet m.now) m.globalTimeSetAt).setWidth 64

/-- The special treatment in `messageReceivedCallback`. -/
def receiveTime (timer : AppTimer) (m : MainLoop) (data : ℕ → U8) : MainLoop :=
  if messageTypeAt data = messageTypeUpdateTimestamp then
    setTime timer m (ConnPacketUpdateTimestamp.ofMemory data).timestamp
  else m

/-- The packet of `sendtime`; the fields that are not set keep what lies on the stack. -/
def sendTimePacket (nodeId : NodeId) (stack : ConnPacketUpdateTimestamp) : ConnectionPacket where
  data := overwrite (fun _ => 0) 0
    ({ stack with
      header :=
        { stack.header with
          messageType := messageTypeUpdateTimestamp
          sender := nodeId
          receiver := nodeIdBroadcast } } : ConnPacketUpdateTimestamp).bytes
  dataLength := BitVec.ofNat 16 sizeofConnPacketUpdateTimestamp
  reliable := true

/-! ## The mesh with its clocks -/

/-- A packet in the air. -/
structure Flight where
  timestamp : U64
  /-- When it was sent. -/
  sentAt : ℕ

/-- Each node has a main loop of its own. -/
structure Clocks (V : Type*) where
  net : Net V
  loop : V → MainLoop
  /-- The first packet on its way to a connection is in the air; the others, and the first one
  if there is nothing here, wait in the send queue at the other end. -/
  flight : V → Slot → Option Flight
  /-- The ticks so far. -/
  elapsed : ℕ

/-- One thing that happens. -/
inductive ClockEvent (V : Type*)
  /-- All counters run on. -/
  | advance (ticks : ℕ)
  /-- The interrupt of the timer, or the next statement of the main loop of a node. -/
  | main (v : V) (event : MainLoop.Event)
  /-- The other end sends the packet in front. -/
  | transmit (v : V) (i : Slot)
  /-- The stack refuses the packet that is in the air, so that it is sent once more. -/
  | refuse (v : V) (i : Slot)
  | deliver (v : V) (i : Slot) (behind : ℕ → U8)

namespace Clocks

variable {V : Type*} [DecidableEq V]

/-- `sendtime` at a node. -/
def sendtime (s : Clocks V) (origin : V) (loopback : Option Slot)
    (stack : ConnPacketUpdateTimestamp) : Clocks V :=
  { s with
    net := s.net.originate origin loopback (sendTimePacket (s.net.node origin).nodeId stack) }

/-- Change what is in the air. -/
def setFlight (s : Clocks V) (v : V) (i : Slot) (flight : Option Flight) : Clocks V :=
  { s with flight := Function.update s.flight v (Function.update (s.flight v) i flight) }

/-- The write with the time: the size of the packet does not cover the last byte of the time. -/
def written (flight : Flight) (behind : ℕ → U8) : ℕ → U8 :=
  overwrite behind 7 (@lowBytes 7 flight.timestamp)

section

variable (timer : AppTimer)

def apply (s : Clocks V) : ClockEvent V → Clocks V
  | .advance ticks =>
      { s with
        loop := fun v => (s.loop v).apply timer (.advance ticks)
        elapsed := s.elapsed + ticks }
  | .main v event =>
      { s with loop := Function.update s.loop v ((s.loop v).apply timer event) }
  | .transmit v i =>
      match s.net.peer v i with
      | none => s
      | some (u, _) => s.setFlight v i (some ⟨timestampOf timer (s.loop u), s.elapsed⟩)
  | .refuse v i => s.setFlight v i none
  | .deliver v i behind =>
      match s.flight v i, s.net.inbox v i with
      | some flight, message :: _ =>
          { s.setFlight v i none with
            net := s.net.apply (.deliver v i (written flight behind))
            loop := Function.update s.loop v
              (receiveTime timer (s.loop v) (arrive message (written flight behind)).data) }
      | _, _ => s

end

/-- The time that a node would send is right: the main loop is not between the statements that
add to `globalTime` and set `globalTimeSetAt`, and the counter has not come round since. -/
def Readable (m : MainLoop) : Prop :=
  m.next ≠ .setGlobalTimeSetAt ∧ m.now < m.setAt + 2 ^ 24

instance (m : MainLoop) : Decidable (Readable m) := inferInstanceAs (Decidable (_ ∧ _))

/-- Packets come in between two calls of the timer handler, and are in the air for no longer than
`longest` ticks. -/
def Allowed (longest : ℕ) (s : Clocks V) : ClockEvent V → Prop
  | .advance _ => True
  | .main v event => (∀ ticks, event ≠ .advance ticks) ∧ (s.loop v).KeepsUp event
  | .transmit v i =>
      s.net.inbox v i ≠ [] ∧ s.flight v i = none ∧ ∀ p ∈ s.net.peer v i, Readable (s.loop p.1)
  | .refuse _ _ => True
  | .deliver v i _ =>
      (s.loop v).Waits ∧ s.net.Enabled (.deliver v i fun _ => 0) ∧
        ∃ flight ∈ s.flight v i, s.elapsed ≤ flight.sentAt + longest

/-! ## How late a clock is -/

section Late

variable {timer : AppTimer} {start s : Clocks V} {origin v u : V} {longest : ℕ}

/-- The ticks that the main loop of a node has lost. -/
def lost (start s : Clocks V) (v : V) : ℕ := (s.loop v).skipped - (start.loop v).skipped

/-- The ticks that the nodes nearer to the origin have lost. -/
noncomputable def lostBefore [Fintype V] (start : Clocks V) (origin : V) (s : Clocks V) (v : V) :
    ℕ :=
  ∑ u with (graph start.net.peer).dist origin u < (graph start.net.peer).dist origin v,
    lost start s u

omit [DecidableEq V] in
theorem lostBefore_add_lost_le [Fintype V]
    (hdist : (graph start.net.peer).dist origin v = (graph start.net.peer).dist origin u + 1) :
    lostBefore start origin s u + lost start s u ≤ lostBefore start origin s v := by
  classical
  have hnot : u ∉ Finset.univ.filter fun w =>
      (graph start.net.peer).dist origin w < (graph start.net.peer).dist origin u := by simp
  unfold lostBefore
  rw [Nat.add_comm, ← Finset.sum_insert hnot]
  apply Finset.sum_le_sum_of_subset
  intro w hw
  rw [Finset.mem_insert, Finset.mem_filter] at hw
  rw [Finset.mem_filter]
  refine ⟨Finset.mem_univ w, ?_⟩
  rcases hw with rfl | ⟨-, hw⟩
  · omega
  · omega

omit [DecidableEq V] in
theorem lostBefore_add_lost_le_sum [Fintype V] (v : V) :
    lostBefore start origin s v + lost start s v ≤ ∑ u, lost start s u := by
  classical
  have hnot : v ∉ Finset.univ.filter fun w =>
      (graph start.net.peer).dist origin w < (graph start.net.peer).dist origin v := by simp
  unfold lostBefore
  rw [Nat.add_comm, ← Finset.sum_insert hnot]
  exact Finset.sum_le_sum_of_subset (Finset.subset_univ _)

/-- A time is late by `late` ticks, in the bits that are transmitted. -/
def Late (timer : AppTimer) (start : Clocks V) (origin : V) (elapsed late timestamp : ℕ) : Prop :=
  timestamp + late ≡ (timestampOf timer (start.loop origin)).toNat + elapsed [MOD 2 ^ 56]

/-- The clock of a node was set when its main loop was in the state `base`. -/
def Synced [Fintype V] (timer : AppTimer) (start : Clocks V) (origin : V) (longest : ℕ)
    (s : Clocks V) (v : V) : Prop :=
  ∃ base late, MainLoop.Tracked timer base (s.loop v) ∧
    (start.loop v).skipped ≤ base.skipped ∧
    late ≤ (graph start.net.peer).dist origin v * longest + lostBefore start origin s v ∧
    base.globalTime.toNat + late + (start.loop v).now ≡
      (timestampOf timer (start.loop origin)).toNat + base.setAt [MOD 2 ^ 56]

omit [DecidableEq V] in
/-- What a node sends is late by what its clock was late when it was set, and by what its main
loop has lost since. -/
theorem Synced.late [Fintype V] (h : Synced timer start origin longest s v)
    (hnow : (s.loop v).now = (start.loop v).now + s.elapsed) (hreadable : Readable (s.loop v)) :
    ∃ late ≤ (graph start.net.peer).dist origin v * longest + lostBefore start origin s v +
        lost start s v,
      Late timer start origin s.elapsed late (timestampOf timer (s.loop v)).toNat := by
  obtain ⟨base, late, htracked, hskipped, hlate, hbase⟩ := h
  obtain ⟨hnext, hround⟩ := hreadable
  have hpast := htracked.past
  have hlost := htracked.skipped
  have hbalance := htracked.balance
  have hcovered : (s.loop v).coveredUntil = (s.loop v).setAt := by
    unfold MainLoop.coveredUntil
    split
    · contradiction
    · rfl
  have hread : (timestampOf timer (s.loop v)).toNat =
      ((s.loop v).globalTime.toNat + ((s.loop v).now - (s.loop v).setAt)) % 2 ^ 64 := by
    unfold timestampOf
    rw [htracked.reference, BitVec.toNat_add, BitVec.toNat_setWidth,
      MainLoop.toNat_difference hpast hround]
    omega
  refine ⟨late + ((s.loop v).skipped - base.skipped), ?_, ?_⟩
  · unfold lost
    omega
  -- all sums are those of bytes that are transmitted, modulo `2 ^ 56`
  · unfold Late
    rw [hcovered] at hbalance
    rw [Nat.ModEq] at hbalance hbase ⊢
    rw [hread]
    omega

end Late

/-! ## The time that arrives -/

section Arrive

variable {timer : AppTimer} {m : MainLoop} {message : Message} {flight : Flight}

/-- Of a packet with a time, the memory is what was written. -/
theorem arrive_time (htype : typeOf message = messageTypeUpdateTimestamp) (memory : ℕ → U8) {k : ℕ}
    (hk : 7 ≤ k) : (arrive message memory).data k = memory k := by
  have hshort : (transmitted message).length ≤ 7 := by
    unfold transmitted
    rw [if_pos htype]
    exact List.length_take_le _ _
  show overwrite memory 0 (firstByte _ _ :: (transmitted message).drop 1) k = memory k
  refine overwrite_of_ge memory ?_
  simp only [List.length_cons, List.length_drop]
  omega

theorem timestamp_written (flight : Flight) (behind : ℕ → U8) :
    (u64At (written flight behind) 7).toNat ≡ flight.timestamp.toNat [MOD 2 ^ 56] := by
  have hbytes : read (written flight behind) 7 7 = @lowBytes 7 flight.timestamp :=
    (holds_overwrite behind 7 _).read_eq
  have hlow : (u64At (written flight behind) 7).setWidth 56 =
      fieldAt 7 (written flight behind) 7 :=
    @setWidth_fieldAt_succ 7 (written flight behind) 7
  have htime : (fieldAt 7 (written flight behind) 7).toNat = flight.timestamp.toNat % 2 ^ 56 := by
    rw [fieldAt, hbytes, lowBytes, decode_encode, BitVec.toNat_ofNat, two_pow_eight_mul]
    exact Nat.mod_mod _ _
  calc (u64At (written flight behind) 7).toNat % 2 ^ 56
      = ((u64At (written flight behind) 7).setWidth 56).toNat := (BitVec.toNat_setWidth _ _).symm
    _ = flight.timestamp.toNat % 2 ^ 56 := by rw [hlow, htime]

/-- The node takes over the time in the packet, but for its top byte. -/
theorem receiveTime_arrive (htype : typeOf message = messageTypeUpdateTimestamp)
    (behind : ℕ → U8) :
    ∃ timestamp : U64,
      receiveTime timer m (arrive message (written flight behind)).data =
          setTime timer m timestamp ∧
        timestamp.toNat ≡ flight.timestamp.toNat [MOD 2 ^ 56] := by
  refine ⟨_, if_pos (type_arrive.trans htype), ?_⟩
  have hbytes : read (arrive message (written flight behind)).data 7 8 =
      read (written flight behind) 7 8 :=
    List.map_congr_left fun k _ => arrive_time htype _ (by omega)
  have hsame : u64At (arrive message (written flight behind)).data 7 =
      u64At (written flight behind) 7 := by
    unfold u64At fieldAt
    rw [hbytes]
  show (u64At _ 7).toNat ≡ _ [MOD 2 ^ 56]
  rw [hsame]
  exact timestamp_written flight behind

/-- Outside of the timer section, nothing has been lost since just now. -/
theorem tracked_self (hwaits : m.Waits) (hreference : m.globalTimeSetAt = timer.cntGet m.setAt)
    (hpast : m.setAt ≤ m.now) : MainLoop.Tracked timer m m where
  reference := hreference
  past := hpast
  since := le_rfl
  skipped := le_rfl
  measures := by
    unfold MainLoop.Measures
    rw [show m.next = .check from hwaits]
    trivial
  balance := by
    unfold MainLoop.coveredUntil
    rw [show m.next = .check from hwaits]

end Arrive

/-! ## The time spreads -/

section Main

variable {timer : AppTimer} {m : MainLoop} {event : MainLoop.Event}

theorem skipped_le_apply : m.skipped ≤ (m.apply timer event).skipped := by
  cases event with
  | interrupt => exact le_rfl
  | advance ticks => exact le_rfl
  | execute =>
      unfold MainLoop.apply MainLoop.execute
      cases m.next with
      | check =>
          dsimp only
          split_ifs
          · exact le_rfl
          · exact le_rfl
      | setGlobalTimeSetAt => exact Nat.le_add_right _ _
      | _ => exact le_rfl

theorem now_apply (h : ∀ ticks, event ≠ .advance ticks) : (m.apply timer event).now = m.now := by
  cases event with
  | interrupt => rfl
  | advance ticks => exact absurd rfl (h ticks)
  | execute =>
      unfold MainLoop.apply MainLoop.execute
      cases m.next with
      | check =>
          dsimp only
          split_ifs
          · rfl
          · rfl
      | _ => rfl

end Main

section Spread

variable [Fintype V] {timer : AppTimer} {start s s' : Clocks V} {origin v u : V} {longest : ℕ}
  {loopback : Option Slot} {stack : ConnPacketUpdateTimestamp} {seen : V → ℕ} {flight : Flight}

/-- The packet in the air is late by what the clock of its sender is late. -/
def InAir (timer : AppTimer) (start : Clocks V) (origin : V) (longest : ℕ) (s : Clocks V) (u : V)
    (flight : Flight) : Prop :=
  flight.sentAt ≤ s.elapsed ∧
    ∃ late ≤ (graph start.net.peer).dist origin u * longest + lostBefore start origin s u +
        lost start s u,
      Late timer start origin flight.sentAt late flight.timestamp.toNat

/-- The state of the mesh while the time spreads. -/
structure Spreading (timer : AppTimer) (start : Clocks V) (origin : V) (loopback : Option Slot)
    (stack : ConnPacketUpdateTimestamp) (longest : ℕ) (seen : V → ℕ) (s : Clocks V) : Prop where
  relaying : Relaying start.net origin loopback
    (sendTimePacket (start.net.node origin).nodeId stack) seen s.net
  now : ∀ v, (s.loop v).now = (start.loop v).now + s.elapsed
  skipped : ∀ v, (start.loop v).skipped ≤ (s.loop v).skipped
  synced : ∀ v, v = origin ∨ 0 < seen v → Synced timer start origin longest s v
  inAir : ∀ v i u j, start.net.peer v i = some (u, j) →
    ∀ flight ∈ s.flight v i, InAir timer start origin longest s u flight

omit [DecidableEq V] [Fintype V] in
theorem lost_mono (h : ∀ u, (s.loop u).skipped ≤ (s'.loop u).skipped) (v : V) :
    lost start s v ≤ lost start s' v := Nat.sub_le_sub_right (h v) _

omit [DecidableEq V] in
theorem lostBefore_mono (h : ∀ u, (s.loop u).skipped ≤ (s'.loop u).skipped) (v : V) :
    lostBefore start origin s v ≤ lostBefore start origin s' v :=
  Finset.sum_le_sum fun u _ => lost_mono h u

omit [DecidableEq V] in
theorem Synced.mono (h : Synced timer start origin longest s v)
    (hskipped : ∀ u, (s.loop u).skipped ≤ (s'.loop u).skipped)
    (hloop : ∀ base, MainLoop.Tracked timer base (s.loop v) →
      MainLoop.Tracked timer base (s'.loop v)) : Synced timer start origin longest s' v := by
  obtain ⟨base, late, htracked, hbase, hlate, hset⟩ := h
  exact ⟨base, late, hloop base htracked, hbase,
    hlate.trans (Nat.add_le_add_left (lostBefore_mono hskipped v) _), hset⟩

omit [DecidableEq V] in
theorem InAir.mono (h : InAir timer start origin longest s u flight)
    (hskipped : ∀ u, (s.loop u).skipped ≤ (s'.loop u).skipped) (helapsed : s.elapsed ≤ s'.elapsed) :
    InAir timer start origin longest s' u flight := by
  obtain ⟨hsent, late, hlate, htime⟩ := h
  refine ⟨hsent.trans helapsed, late, hlate.trans ?_, htime⟩
  have hbefore : lostBefore start origin s u ≤ lostBefore start origin s' u :=
    lostBefore_mono hskipped u
  have hlost : lost start s u ≤ lost start s' u := lost_mono hskipped u
  omega

omit [Fintype V] in
theorem setFlight_flight (s : Clocks V) (v w : V) (i k : Slot) (flight : Option Flight) :
    (s.setFlight v i flight).flight w k = if w = v ∧ k = i then flight else s.flight w k := by
  unfold setFlight
  by_cases hw : w = v
  · subst hw
    by_cases hk : k = i
    · subst hk
      simp
    · simp [hk]
  · simp [hw]

/-- The main loops go on. -/
theorem Spreading.loops (h : Spreading timer start origin loopback stack longest seen s)
    (hnet : s'.net = s.net) (hflight : s'.flight = s.flight) (helapsed : s.elapsed ≤ s'.elapsed)
    (hnow : ∀ v, (s'.loop v).now = (s.loop v).now + (s'.elapsed - s.elapsed))
    (hskipped : ∀ u, (s.loop u).skipped ≤ (s'.loop u).skipped)
    (hloop : ∀ v base, MainLoop.Tracked timer base (s.loop v) →
      MainLoop.Tracked timer base (s'.loop v)) :
    Spreading timer start origin loopback stack longest seen s' where
  relaying := hnet ▸ h.relaying
  now := by
    intro v
    rw [hnow, h.now]
    omega
  skipped := fun v => (h.skipped v).trans (hskipped v)
  synced := fun v hv => (h.synced v hv).mono hskipped (hloop v)
  inAir := by
    intro v i u j hpeer flight hsent
    rw [hflight] at hsent
    exact (h.inAir v i u j hpeer flight hsent).mono hskipped helapsed

theorem Spreading.advance (h : Spreading timer start origin loopback stack longest seen s)
    (ticks : ℕ) :
    Spreading timer start origin loopback stack longest seen (s.apply timer (.advance ticks)) := by
  refine h.loops rfl rfl (Nat.le_add_right _ _) ?_ (fun _ => le_rfl) ?_
  · intro v
    show (s.loop v).now + ticks = (s.loop v).now + (s.elapsed + ticks - s.elapsed)
    omega
  · exact fun v base htracked => htracked.advance ticks

theorem Spreading.main (h : Spreading timer start origin loopback stack longest seen s)
    {event : MainLoop.Event} (hevent : ∀ ticks, event ≠ .advance ticks)
    (hkeeps : (s.loop v).KeepsUp event) :
    Spreading timer start origin loopback stack longest seen (s.apply timer (.main v event)) := by
  have hloop : ∀ w, ((s.apply timer (.main v event)).loop w) =
      if w = v then (s.loop v).apply timer event else s.loop w := fun w => Function.update_apply ..
  refine h.loops rfl rfl le_rfl ?_ ?_ ?_
  · intro w
    rw [hloop]
    split_ifs with hw
    · subst hw
      rw [now_apply hevent]
      show _ = _ + (s.elapsed - s.elapsed)
      omega
    · show _ = _ + (s.elapsed - s.elapsed)
      omega
  · intro w
    rw [hloop]
    split_ifs with hw
    · subst hw
      exact skipped_le_apply
    · exact le_rfl
  · intro w base htracked
    rw [hloop]
    split_ifs with hw
    · subst hw
      exact htracked.apply hkeeps
    · exact htracked

/-- What is in the air to one connection changes. -/
theorem Spreading.setFlight (h : Spreading timer start origin loopback stack longest seen s)
    {i : Slot} {flight : Option Flight}
    (hnew : ∀ u j, start.net.peer v i = some (u, j) →
      ∀ sent ∈ flight, InAir timer start origin longest s u sent) :
    Spreading timer start origin loopback stack longest seen (s.setFlight v i flight) where
  relaying := h.relaying
  now := h.now
  skipped := h.skipped
  synced := fun w hw => (h.synced w hw).mono (fun _ => le_rfl) fun _ htracked => htracked
  inAir := by
    intro w k u j hpeer sent hsent
    rw [setFlight_flight] at hsent
    split_ifs at hsent with hhere
    · obtain ⟨rfl, rfl⟩ := hhere
      exact (hnew u j hpeer sent hsent).mono (fun _ => le_rfl) le_rfl
    · exact (h.inAir w k u j hpeer sent hsent).mono (fun _ => le_rfl) le_rfl

variable (htree : HandshakenTree start.net) (hquiet : start.net.Quiet)
  (hunreceived : ∀ v, start.net.received v = []) (horigin : (start.net.node origin).nodeId ≠ 0)

omit [DecidableEq V] [Fintype V] in
theorem sendTimePacket_header (nodeId : NodeId) (stack : ConnPacketUpdateTimestamp) :
    messageTypeAt (sendTimePacket nodeId stack).data = messageTypeUpdateTimestamp ∧
      receiverAt (sendTimePacket nodeId stack).data = nodeIdBroadcast := by
  obtain ⟨hheader, -⟩ := holds_append.mp (holds_overwrite (fun _ => (0 : U8)) 0
    ({ stack with
      header :=
        { stack.header with
          messageType := messageTypeUpdateTimestamp
          sender := nodeId
          receiver := nodeIdBroadcast } } : ConnPacketUpdateTimestamp).bytes)
  have hread := ConnPacketHeader.ofMemory_eq hheader
  exact ⟨congrArg ConnPacketHeader.messageType hread, congrArg ConnPacketHeader.receiver hread⟩

include htree hquiet hunreceived in
omit [DecidableEq V] [Fintype V] in
theorem originates_sendTimePacket (nodeId : NodeId) (stack : ConnPacketUpdateTimestamp) :
    Originates start.net (sendTimePacket nodeId stack) where
  tree := htree
  quiet := hquiet
  unreceived := hunreceived
  type := by
    rw [(sendTimePacket_header nodeId stack).1]
    exact ⟨by decide, by decide, by decide, by decide⟩
  receiver := by
    rw [(sendTimePacket_header nodeId stack).2]
    decide
  header := by
    show sizeofConnPacketHeader ≤ (BitVec.ofNat 16 sizeofConnPacketUpdateTimestamp).toNat
    decide

include htree hquiet hunreceived horigin in
/-- The node knows the time itself. -/
theorem Spreading.of_sendtime (helapsed : start.elapsed = 0)
    (hflight : ∀ v i, start.flight v i = none) (hwaits : (start.loop origin).Waits)
    (hreference : (start.loop origin).globalTimeSetAt =
      timer.cntGet (start.loop origin).setAt)
    (hpast : (start.loop origin).setAt ≤ (start.loop origin).now)
    (hround : (start.loop origin).now < (start.loop origin).setAt + 2 ^ 24) :
    Spreading timer start origin loopback stack longest (fun _ => 0)
      (start.sendtime origin loopback stack) where
  relaying := by
    apply (originates_sendTimePacket htree hquiet hunreceived _ stack).relaying_start
    rw [(sendTimePacket_header _ stack).2]
    exact horigin.symm
  now := by
    intro v
    show (start.loop v).now = (start.loop v).now + start.elapsed
    rw [helapsed, Nat.add_zero]
  skipped := fun _ => le_rfl
  synced := by
    rintro v (rfl | hseen)
    · have htime : timestampOf timer (start.loop v) = (start.loop v).globalTime +
          BitVec.ofNat 64 ((start.loop v).now - (start.loop v).setAt) := by
        apply BitVec.eq_of_toNat_eq
        have hdifference := @MainLoop.toNat_difference timer _ _ hpast hround
        rw [timestampOf, hreference, BitVec.toNat_add, BitVec.toNat_add, BitVec.toNat_setWidth,
          hdifference, BitVec.toNat_ofNat]
      refine ⟨start.loop v, 0, ?_, le_rfl, Nat.zero_le _, ?_⟩
      · exact tracked_self hwaits hreference hpast
      · rw [htime, BitVec.toNat_add, BitVec.toNat_ofNat, Nat.ModEq]
        omega
    · exact absurd hseen (Nat.lt_irrefl 0)
  inAir := by
    intro v i u j hpeer flight hsent
    have hnone : (start.sendtime origin loopback stack).flight v i = none := hflight v i
    rw [hnone] at hsent
    exact absurd hsent (by simp)

include htree in
/-- A node that knows the time sends it on. -/
theorem Spreading.transmit (h : Spreading timer start origin loopback stack longest seen s)
    {i : Slot} (hinbox : s.net.inbox v i ≠ [])
    (hreadable : ∀ p ∈ s.net.peer v i, Readable (s.loop p.1)) :
    Spreading timer start origin loopback stack longest seen (s.apply timer (.transmit v i)) := by
  cases hpeer : s.net.peer v i with
  | none =>
      have hnothing : s.apply timer (.transmit v i) = s := by simp only [apply, hpeer]
      rw [hnothing]
      exact h
  | some p =>
      obtain ⟨u, j⟩ := p
      have hlink : start.net.peer v i = some (u, j) := h.relaying.peer ▸ hpeer
      have hsends : s.apply timer (.transmit v i) =
          s.setFlight v i (some ⟨timestampOf timer (s.loop u), s.elapsed⟩) := by
        simp only [apply, hpeer]
      rw [hsends]
      apply h.setFlight
      intro u' j' hpeer' sent hsent
      obtain ⟨rfl, rfl⟩ := Prod.mk.inj (Option.some.inj (hlink.symm.trans hpeer'))
      obtain rfl := Option.some.inj hsent
      -- what waits for `v` has been queued by a node that has the time
      have hflooding := h.relaying.flooding
      have hdist := hflooding.from_root htree.wired htree.tree hlink hinbox
      have haway := hflooding.away (htree.wired.twoWay hlink) hdist
      have hpos := List.length_pos_iff.mpr hinbox
      have hsynced : Synced timer start origin longest s u := by
        apply h.synced
        by_cases hu : u = origin
        · exact Or.inl hu
        · unfold Flood.sent at haway
          rw [if_neg hu] at haway
          split_ifs at haway <;> omega
      exact ⟨le_rfl, hsynced.late (h.now u) (hreadable (u, j) hpeer)⟩

include htree hquiet hunreceived in
/-- The time arrives at the next node. -/
theorem Spreading.deliver (h : Spreading timer start origin loopback stack longest seen s)
    {i : Slot} {behind : ℕ → U8} (hallowed : Allowed longest s (.deliver v i behind)) :
    ∃ seen', Spreading timer start origin loopback stack longest seen'
      (s.apply timer (.deliver v i behind)) := by
  obtain ⟨hwaits, henabled, flight, hflight, hlongest⟩ := hallowed
  obtain ⟨message, rest, hinbox⟩ := List.exists_cons_of_ne_nil henabled.2
  have horiginates := originates_sendTimePacket htree hquiet hunreceived
    (start.net.node origin).nodeId stack
  have hcopy := h.relaying.flooding.copies (by rw [hinbox]; exact List.mem_cons_self)
  have htype : typeOf message = messageTypeUpdateTimestamp :=
    hcopy.type.trans (sendTimePacket_header _ stack).1
  obtain ⟨timestamp, hreceive, htime⟩ :=
    @receiveTime_arrive timer (s.loop v) message flight htype behind
  obtain ⟨⟨u, j⟩, hpeer⟩ := Option.ne_none_iff_exists'.mp fun hnone =>
    henabled.2 (h.relaying.unlinked v i hnone)
  -- the packet comes from the side of the origin, so `u` is one hop nearer
  have hdist := h.relaying.flooding.from_root htree.wired htree.tree hpeer henabled.2
  obtain ⟨hsent, late, hlate, hair⟩ := h.inAir v i u j hpeer flight hflight
  refine ⟨Function.update seen v (seen v + 1), ?_⟩
  set s' := s.apply timer (.deliver v i behind) with hs'
  have hs'_eq : s' = { s.setFlight v i none with
      net := s.net.apply (.deliver v i (written flight behind))
      loop := Function.update s.loop v (setTime timer (s.loop v) timestamp) } := by
    rw [hs', apply, show s.flight v i = some flight from hflight, hinbox]
    dsimp only
    rw [hreceive]
  have hloop : ∀ w, s'.loop w =
      if w = v then setTime timer (s.loop v) timestamp else s.loop w := by
    intro w
    rw [hs'_eq]
    exact Function.update_apply ..
  have hskipped : ∀ w, (s'.loop w).skipped = (s.loop w).skipped := by
    intro w
    rw [hloop]
    split_ifs with hw
    · rw [hw]
      rfl
    · rfl
  have helapsed : s'.elapsed = s.elapsed := by rw [hs'_eq]; rfl
  constructor
  case relaying =>
    rw [hs'_eq]
    exact horiginates.relaying_deliver h.relaying henabled
  case now =>
    intro w
    have hsame : (s'.loop w).now = (s.loop w).now := by
      rw [hloop]
      split_ifs with hw
      · rw [hw]
        rfl
      · rfl
    rw [hsame, helapsed, h.now]
  case skipped => exact fun w => (hskipped w).symm ▸ h.skipped w
  case synced =>
    intro w hw
    by_cases hwv : w = v
    · -- the clock that has just been set
      subst hwv
      refine ⟨setTime timer (s.loop w) timestamp, late + (s.elapsed - flight.sentAt), ?_, ?_, ?_,
        ?_⟩
      · rw [hloop, if_pos rfl]
        exact tracked_self hwaits rfl le_rfl
      · exact h.skipped w
      · have hlost := (lostBefore_add_lost_le (s := s) hdist).trans
          (lostBefore_mono (fun x => (hskipped x).symm.le) w)
        rw [hdist, Nat.succ_mul]
        omega
      · have hnow := h.now w
        show timestamp.toNat + _ + _ ≡ _ + (s.loop w).now [MOD 2 ^ 56]
        unfold Late at hair
        rw [Nat.ModEq] at hair htime ⊢
        omega
    · rw [Function.update_of_ne hwv] at hw
      refine (h.synced w hw).mono (fun x => (hskipped x).symm.le) fun base htracked => ?_
      rw [hloop, if_neg hwv]
      exact htracked
  case inAir =>
    intro w k x l hlink sent hsentTo
    have hflights : s'.flight = (s.setFlight v i none).flight := by rw [hs'_eq]
    rw [hflights, setFlight_flight] at hsentTo
    split_ifs at hsentTo
    · exact absurd hsentTo (by simp)
    · exact (h.inAir w k x l hlink sent hsentTo).mono (fun y => (hskipped y).symm.le)
        helapsed.symm.le

/-- The time spreads in every run. -/
theorem spreading_run {events : List (ClockEvent V)}
    (hstart : Spreading timer start origin loopback stack longest (fun _ => 0)
      (start.sendtime origin loopback stack))
    (htree : HandshakenTree start.net) (hquiet : start.net.Quiet)
    (hunreceived : ∀ v, start.net.received v = [])
    (hrun : Run (apply timer) (Allowed longest) (start.sendtime origin loopback stack) events s) :
    ∃ seen, Spreading timer start origin loopback stack longest seen s := by
  induction hrun with
  | nil => exact ⟨_, hstart⟩
  | step _ event hallowed ih =>
      obtain ⟨seen, h⟩ := ih
      cases event with
      | advance ticks => exact ⟨seen, h.advance ticks⟩
      | main v event => exact ⟨seen, h.main hallowed.1 hallowed.2⟩
      | transmit v i => exact ⟨seen, h.transmit htree hallowed.1 hallowed.2.2⟩
      | refuse v i => exact ⟨seen, h.setFlight fun _ _ _ _ hsent => absurd hsent (by simp)⟩
      | deliver v i behind => exact h.deliver htree hquiet hunreceived hallowed

end Spread

instance [Fintype V] (longest : ℕ) (s : Clocks V) (event : ClockEvent V) :
    Decidable (Allowed longest s event) :=
  match event with
  | .advance _ => inferInstanceAs (Decidable True)
  | .main v .interrupt => decidable_of_iff ((s.loop v).KeepsUp .interrupt)
      ⟨fun h => ⟨fun _ heq => MainLoop.Event.noConfusion heq, h⟩, fun h => h.2⟩
  | .main v .execute => decidable_of_iff ((s.loop v).KeepsUp .execute)
      ⟨fun h => ⟨fun _ heq => MainLoop.Event.noConfusion heq, h⟩, fun h => h.2⟩
  | .main _ (.advance ticks) => isFalse fun h => h.1 ticks rfl
  | .transmit v i => inferInstanceAs (Decidable (s.net.inbox v i ≠ [] ∧ s.flight v i = none ∧
      ∀ p ∈ s.net.peer v i, Readable (s.loop p.1)))
  | .refuse _ _ => inferInstanceAs (Decidable True)
  | .deliver v i _ => inferInstanceAs (Decidable ((s.loop v).Waits ∧
      s.net.Enabled (.deliver v i fun _ => 0) ∧
        ∃ flight ∈ s.flight v i, s.elapsed ≤ flight.sentAt + longest))

/-- The clock of the first of three nodes has been set, those of the others have not. -/
def threeClocks : Clocks (Fin 3) where
  net := chain 3 (numbered 3)
  loop := fun v => if v.val = 0 then setTime MainLoop.rtc { MainLoop.started with now := 70 } 1000
    else { MainLoop.started with now := 500 * v }
  flight := fun _ _ => none
  elapsed := 0

/-- The packet waits for 40 ticks before it is sent, and is refused once; in the middle it waits
for 9 ticks. -/
def timeSpreads (middle last : V) : List (ClockEvent V) :=
  [.advance 40, .transmit middle inConnection, .refuse middle inConnection,
    .transmit middle inConnection, .advance 2, .deliver middle inConnection fun _ => 0, .advance 9,
    .transmit last inConnection, .advance 3, .deliver last inConnection fun _ => 0, .advance 100]

end Clocks

end FruityMesh.Mesh
