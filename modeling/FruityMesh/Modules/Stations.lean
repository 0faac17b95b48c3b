import FruityMesh.Mesh.LightToggle
import FruityMesh.Mesh.Streams

/-!
# Modules that send by themselves

Every node runs the same module: `step` says what the module does with an event of its own, a
timer or a button say, and which packets it sends.  Meanwhile other modules send other packets,
and the links deliver (`Happening`).

`value` is what a receiver reads from the bytes of a packet of the module.  What a node has
read of another one is a prefix of what that one has said, as its module would have said it
alone, and all of it when nothing is on its way any more (`heard_eq_said`).  So what a module
sends over the mesh is a question about the runs of the module on one node.
-/

namespace FruityMesh.Modules

open Mesh Transport

variable {V S E X : Type*} [DecidableEq V]

/-! ## Packets in memory -/

theorem message_packet {message : Message} (h : message.bytes.length < 2 ^ 16) :
    (Message.packet message).message = message := by
  have hlength : (BitVec.ofNat 16 message.bytes.length).toNat = message.bytes.length := by
    rw [BitVec.toNat_ofNat]
    exact Nat.mod_eq_of_lt h
  have hholds : Cells.Holds (memory message) 0 message.bytes := by
    intro k hk
    rw [Nat.zero_add, memory, List.getD_eq_getElem _ _ hk]
  unfold Message.packet ConnectionPacket.message ConnectionPacket.bytes
  rw [hlength, hholds.read_eq]

theorem posted_packet {node : Node} {message : Message} (hordinary : Ordinary (typeOf message))
    (hunclustered : typeOf message ≠ messageTypeClusterInfoUpdate)
    (huntimed : typeOf message ≠ messageTypeUpdateTimestamp)
    (hsender : senderOf message = node.nodeId) (hreceiver : (receiverOf message).toNat ≤ 19999)
    (hlong : sizeofConnPacketHeader ≤ message.bytes.length)
    (hshort : message.bytes.length < 2 ^ 16) : Posted node (Message.packet message) where
  ordinary := hordinary
  unclustered := hunclustered
  untimed := huntimed
  sender := hsender
  receiver := hreceiver
  header := by
    show sizeofConnPacketHeader ≤ (BitVec.ofNat 16 message.bytes.length).toNat
    rw [BitVec.toNat_ofNat, Nat.mod_eq_of_lt hshort]
    exact hlong

theorem type_unmarked (message : Message) (reliable : Bool) :
    messageTypeAt (memory ⟨unmarked message, reliable⟩) = messageTypeAt (memory message) :=
  messageTypeOf_firstByte _ _

/-! ## The module on one node -/

section Module

variable (step : Node → S → E → S × List ConnectionPacket) (value : List U8 → Option X)
  (node : Node)

/-- What is read of the packets that are sent. -/
def readOf (packets : List ConnectionPacket) : List X :=
  packets.filterMap fun packet => value (unmarked packet.message)

omit node in
@[simp] theorem readOf_nil : readOf value [] = [] := rfl

variable {value} in
omit node in
theorem readOf_singleton {packet : ConnectionPacket} {x : X}
    (h : value (unmarked packet.message) = some x) : readOf value [packet] = [x] :=
  List.filterMap_cons_some h

/-- What the module says, one event after the other. -/
def said : S → List E → List X
  | _, [] => []
  | s, event :: events =>
      readOf value (step node s event).2 ++ said (step node s event).1 events

/-- The state of the module after the events. -/
def stateAfter (s : S) (events : List E) : S :=
  events.foldl (fun s event => (step node s event).1) s

@[simp] theorem said_nil (s : S) : said step value node s [] = [] := rfl

@[simp] theorem stateAfter_nil (s : S) : stateAfter step node s [] = s := rfl

theorem stateAfter_concat (s : S) (events : List E) (event : E) :
    stateAfter step node s (events ++ [event]) =
      (step node (stateAfter step node s events) event).1 := by
  unfold stateAfter
  rw [List.foldl_append]
  rfl

theorem said_concat (s : S) (events : List E) (event : E) :
    said step value node s (events ++ [event]) =
      said step value node s events ++
        readOf value (step node (stateAfter step node s events) event).2 := by
  induction events generalizing s with
  | nil => simp [said]
  | cons first rest ih =>
      rw [List.cons_append, said, said, ih, List.append_assoc]
      rfl

end Module

/-! ## The module on every node -/

/-- The mesh, and the state of the module on each node. -/
structure Stations (V S : Type*) where
  net : Net V
  state : V → S

/-- The module of a node gets an event, or the mesh goes on. -/
inductive Happening (V E : Type*)
  | own (v : V) (event : E) (loopback : Option Slot)
  | traffic (event : Activity V)

/-- The events of the module on one node. -/
def ownEvents (o : V) (happenings : List (Happening V E)) : List E :=
  happenings.filterMap fun
    | .own v event _ => if v = o then some event else none
    | .traffic _ => none

/-- What happens apart from the module. -/
def Happening.traffic? : Happening V E → Option (Activity V)
  | .own _ _ _ => none
  | .traffic event => some event

/-- A node sends one packet after the other. -/
def Net.originateAll (net : Net V) (v : V) (loopback : Option Slot)
    (packets : List ConnectionPacket) : Net V :=
  packets.foldl (fun net packet => net.originate v loopback packet) net

namespace Stations

variable (step : Node → S → E → S × List ConnectionPacket) (value : List U8 → Option X)

def apply (s : Stations V S) : Happening V E → Stations V S
  | .own v event loopback =>
      let result := step (s.net.node v) (s.state v) event
      { net := Net.originateAll s.net v loopback result.2
        state := Function.update s.state v result.1 }
  | .traffic event => { s with net := event.apply s.net }

/-- What happens, packet by packet. -/
def activities (s : Stations V S) : Happening V E → List (Activity V)
  | .own v event loopback =>
      (step (s.net.node v) (s.state v) event).2.map fun packet => .originate v loopback packet
  | .traffic event => [event]

def trafficOf : Stations V S → List (Happening V E) → List (Activity V)
  | _, [] => []
  | s, happening :: rest =>
      activities step s happening ++ trafficOf (Stations.apply step s happening) rest

variable {step} in
theorem trafficOf_concat {first s : Stations V S} {happenings : List (Happening V E)}
    {Allowed : Stations V S → Happening V E → Prop}
    (h : Runs.Run (Stations.apply step) Allowed first happenings s) (happening : Happening V E) :
    trafficOf step first (happenings ++ [happening]) =
      trafficOf step first happenings ++ activities step s happening := by
  have hend := h.eq_foldl
  clear h
  induction happenings generalizing first with
  | nil =>
      obtain rfl : s = first := hend
      exact List.append_nil _
  | cons other rest ih =>
      rw [List.cons_append, trafficOf, trafficOf, ih hend, List.append_assoc]

/-- `May v event` says which events the module of `v` can get.  The other modules do not send
what is read as a packet of this one. -/
def Allowed (May : V → E → Prop) (s : Stations V S) : Happening V E → Prop
  | .own v event _ => May v event
  | .traffic event =>
      event.Allowed s.net ∧ ∀ o, (event.contentOf o).toList.filterMap value = []

instance [Fintype V] [DecidableEq X] {May : V → E → Prop} [∀ v event, Decidable (May v event)]
    (s : Stations V S) (happening : Happening V E) :
    Decidable (Stations.Allowed value May s happening) :=
  match happening with
  | .own v event _ => inferInstanceAs (Decidable (May v event))
  | .traffic event => inferInstanceAs (Decidable (event.Allowed s.net ∧
      ∀ o, (event.contentOf o).toList.filterMap value = []))

end Stations

/-! ## Runs -/

section Run

open Stations (trafficOf activities trafficOf_concat)

variable {step : Node → S → E → S × List ConnectionPacket} {value : List U8 → Option X}
  {start net : Net V} {initial : V → S} {May : V → E → Prop}
  {happenings : List (Happening V E)} {s : Stations V S} {P : List U8 → Prop}

theorem ownEvents_own (v o : V) (event : E) (loopback : Option Slot)
    (happenings : List (Happening V E)) :
    ownEvents o (happenings ++ [.own v event loopback]) =
      ownEvents o happenings ++ if v = o then [event] else [] := by
  unfold ownEvents
  rw [List.filterMap_append]
  congr 1
  by_cases h : v = o <;> simp [h]

theorem ownEvents_traffic (o : V) (event : Activity V) (happenings : List (Happening V E)) :
    ownEvents o (happenings ++ [.traffic event]) = ownEvents o happenings := by
  unfold ownEvents
  rw [List.filterMap_append]
  exact List.append_nil _

/-- The module of a node gets only what it can get. -/
theorem may_of_mem_ownEvents {first : Stations V S}
    (hrun : Runs.Run (Stations.apply step) (Stations.Allowed value May) first happenings s) {o : V}
    {event : E} (hevent : event ∈ ownEvents o happenings) : May o event := by
  induction hrun with
  | nil => exact absurd hevent List.not_mem_nil
  | step hrun happening hallowed ih =>
      cases happening with
      | traffic other =>
          rw [ownEvents_traffic] at hevent
          exact ih hevent
      | own v other loopback =>
          rw [ownEvents_own] at hevent
          rcases List.mem_append.mp hevent with hold | hnew
          · exact ih hold
          · split_ifs at hnew with ho
            · rw [List.mem_singleton.mp hnew, ← ho]
              exact hallowed
            · exact absurd hnew List.not_mem_nil

/-- A node whose module gets no events. -/
theorem ownEvents_of_not {first : Stations V S} {P : V → Prop} {o : V}
    (hrun : Runs.Run (Stations.apply step) (Stations.Allowed value fun v _ => P v) first
      happenings s) (ho : ¬ P o) : ownEvents o happenings = [] := by
  induction hrun with
  | nil => rfl
  | step hrun happening hallowed ih =>
      cases happening with
      | traffic event => rw [ownEvents_traffic, ih]
      | own v event loopback =>
          have hv : v ≠ o := by
            rintro rfl
            exact ho hallowed
          rw [ownEvents_own, ih, if_neg hv, List.append_nil]

variable (htree : HandshakenTree start) (hquiet : start.Quiet)
  (hunreceived : ∀ v, start.received v = [])
  (hids : ∀ v, 1 ≤ (start.node v).nodeId.toNat ∧ (start.node v).nodeId.toNat ≤ 19999)
  (hdistinct : ∀ v u, (start.node v).nodeId = (start.node u).nodeId → v = u)
include htree hquiet hunreceived hids hdistinct

/-- Packets that a node sends one after the other are traffic. -/
theorem run_originateAll [Fintype V] {traffic : List (Activity V)}
    (hrun : Runs.Run Activity.apply Activity.Allowed start traffic net) (v : V)
    (loopback : Option Slot) {packets : List ConnectionPacket}
    (hposted : ∀ packet ∈ packets, Posted (start.node v) packet) :
    Runs.Run Activity.apply Activity.Allowed start
      (traffic ++ packets.map fun packet => .originate v loopback packet)
      (Net.originateAll net v loopback packets) := by
  induction packets generalizing net traffic with
  | nil => rwa [List.map_nil, List.append_nil]
  | cons packet rest ih =>
      obtain ⟨passed, hflowing, -⟩ := flowing_run htree hquiet hunreceived hids hdistinct hrun
      have hallowed : Activity.Allowed net (.originate v loopback packet) := by
        show Posted (net.node v) packet
        rw [hflowing.node]
        exact hposted packet List.mem_cons_self
      have hrest := ih (hrun.step _ hallowed)
        fun packet hpacket => hposted packet (List.mem_cons_of_mem _ hpacket)
      rwa [List.append_assoc] at hrest

omit htree hquiet hunreceived hids hdistinct in
theorem originated_append (o : V) (events more : List (Activity V)) :
    originated o (events ++ more) = originated o events ++ originated o more :=
  List.filterMap_append

omit htree hquiet hunreceived hids hdistinct in
theorem originated_originateAll (v o : V) (loopback : Option Slot)
    (packets : List ConnectionPacket) :
    (originated o (packets.map fun packet => .originate v loopback packet)).filterMap value =
      if v = o then readOf value packets else [] := by
  unfold originated readOf
  rw [List.filterMap_map, List.filterMap_filterMap]
  by_cases h : v = o
  · rw [if_pos h]
    apply List.filterMap_congr
    intro packet _
    simp [Activity.contentOf, h]
  · rw [if_neg h, List.filterMap_eq_nil_iff]
    intro packet _
    simp [Activity.contentOf, h]

omit htree hquiet hunreceived hids hdistinct in
/-- What is read of the packets of the modules has a property that all their packets have. -/
theorem mem_originateAll {v o : V} {loopback : Option Slot} {packets : List ConnectionPacket}
    (hpackets : ∀ packet ∈ packets, P (unmarked packet.message)) {bytes : List U8}
    (hmem : bytes ∈ originated o (packets.map fun packet => .originate v loopback packet)) :
    P bytes := by
  obtain ⟨event, hevent, hcontent⟩ := List.mem_filterMap.mp hmem
  obtain ⟨packet, hpacket, rfl⟩ := List.mem_map.mp hevent
  simp only [Activity.contentOf] at hcontent
  split_ifs at hcontent
  rw [← Option.some.inj hcontent]
  exact hpackets packet hpacket

/-- In every run, what the nodes have sent is what their modules have said, and has the properties
that the packets of the modules have. -/
theorem said_run [Fintype V]
    (hposted : ∀ v s event, May v event → ∀ packet ∈ (step (start.node v) s event).2,
      Posted (start.node v) packet)
    (hall : ∀ v s event, May v event → ∀ packet ∈ (step (start.node v) s event).2,
      P (unmarked packet.message))
    (hrun : Runs.Run (Stations.apply step) (Stations.Allowed value May) ⟨start, initial⟩
      happenings s) :
    let traffic := trafficOf step ⟨start, initial⟩ happenings
    Runs.Run Activity.apply Activity.Allowed start traffic s.net ∧
      ∀ o, (originated o traffic).filterMap value =
          said step value (start.node o) (initial o) (ownEvents o happenings) ∧
        s.state o = stateAfter step (start.node o) (initial o) (ownEvents o happenings) ∧
        ∀ bytes ∈ originated o traffic, value bytes = none ∨ P bytes := by
  generalize hfirst : (⟨start, initial⟩ : Stations V S) = first at hrun
  induction hrun with
  | nil =>
      subst hfirst
      exact ⟨Runs.Run.nil _, fun o => ⟨rfl, rfl, fun _ h => absurd h List.not_mem_nil⟩⟩
  | @step middle happenings hrun happening hallowed ih =>
      obtain ⟨htraffic, hsame⟩ := ih
      rw [trafficOf_concat hrun]
      cases happening with
      | traffic event =>
          refine ⟨htraffic.step event hallowed.1, ?_⟩
          intro o
          obtain ⟨hsaid, hstate, hread⟩ := hsame o
          rw [activities, originated_concat, List.filterMap_append, hallowed.2 o, List.append_nil,
            ownEvents_traffic]
          refine ⟨hsaid, hstate, ?_⟩
          intro bytes hbytes
          rcases List.mem_append.mp hbytes with hold | hnew
          · exact hread bytes hold
          · exact Or.inl (List.filterMap_eq_nil_iff.mp (hallowed.2 o) bytes hnew)
      | own v event loopback =>
          obtain ⟨passed, hflowing, -⟩ :=
            flowing_run htree hquiet hunreceived hids hdistinct htraffic
          have hnode : middle.net.node v = start.node v := by rw [hflowing.node]
          have hown : ∀ packet ∈ (step (middle.net.node v) (middle.state v) event).2,
              Posted (start.node v) packet := by
            rw [hnode]
            exact hposted v (middle.state v) event hallowed
          refine ⟨run_originateAll htree hquiet hunreceived hids hdistinct htraffic v loopback
            hown, ?_⟩
          intro o
          obtain ⟨hsaid, hstate, hread⟩ := hsame o
          have happend := originated_append o (trafficOf step first happenings)
            (activities step middle (.own v event loopback))
          have hpackets : ∀ bytes ∈ originated o (trafficOf step first happenings) ++
              originated o (activities step middle (.own v event loopback)),
              value bytes = none ∨ P bytes := by
            intro bytes hbytes
            rcases List.mem_append.mp hbytes with hold | hnew
            · exact hread bytes hold
            · exact Or.inr (mem_originateAll
                (hnode ▸ hall v (middle.state v) event hallowed) hnew)
          have hnew : (originated o (activities step middle (.own v event loopback))).filterMap
              value = if v = o then
                readOf value (step (middle.net.node v) (middle.state v) event).2 else [] :=
            originated_originateAll v o loopback _
          rw [happend, List.filterMap_append, hnew, hsaid, ownEvents_own]
          by_cases ho : v = o
          · subst ho
            rw [if_pos rfl, if_pos rfl, said_concat, stateAfter_concat, ← hstate, hnode]
            refine ⟨rfl, ?_, hpackets⟩
            simp only [Stations.apply, Function.update_self, hnode]
          · rw [if_neg ho, if_neg ho, List.append_nil, List.append_nil]
            refine ⟨rfl, ?_, hpackets⟩
            simp only [Stations.apply, Function.update_of_ne (Ne.symm ho)]
            exact hstate

omit htree hquiet hunreceived hids hdistinct in
theorem deliveries_trafficOf {Allowed : Stations V S → Happening V E → Prop}
    {first : Stations V S} (hrun : Runs.Run (Stations.apply step) Allowed first happenings s) :
    (trafficOf step first happenings).filter Activity.isDelivery =
      (happenings.filterMap Happening.traffic?).filter Activity.isDelivery := by
  induction hrun with
  | nil => rfl
  | @step middle happenings hrun happening hallowed ih =>
      rw [trafficOf_concat hrun, List.filter_append, List.filterMap_append, List.filter_append, ih]
      congr 1
      cases happening with
      | traffic event => rfl
      | own v event loopback =>
          exact List.filter_eq_nil_iff.mpr fun activity hmem => by
            obtain ⟨packet, -, rfl⟩ := List.mem_map.mp hmem
            exact Bool.false_ne_true

/-- The packets that a node has sent are those of its module and those of the others. -/
theorem length_originated [Fintype V]
    (hposted : ∀ v s event, May v event → ∀ packet ∈ (step (start.node v) s event).2,
      Posted (start.node v) packet)
    (hrun : Runs.Run (Stations.apply step) (Stations.Allowed value May) ⟨start, initial⟩
      happenings s) (o : V) :
    (originated o (trafficOf step ⟨start, initial⟩ happenings)).length =
      (originated o (happenings.filterMap Happening.traffic?)).length +
        (said step some (start.node o) (initial o) (ownEvents o happenings)).length := by
  generalize hfirst : (⟨start, initial⟩ : Stations V S) = first at hrun
  induction hrun with
  | nil => rfl
  | @step middle happenings hrun happening hallowed ih =>
      subst hfirst
      obtain ⟨htraffic, hsame⟩ := said_run (P := fun _ => True) htree hquiet hunreceived hids
        hdistinct hposted (fun _ _ _ _ _ _ => trivial) hrun
      have hstate := (hsame o).2.1
      rw [trafficOf_concat hrun, originated_append, List.length_append, List.filterMap_append,
        originated_append, List.length_append, ih]
      cases happening with
      | traffic event =>
          rw [ownEvents_traffic]
          exact Nat.add_right_comm _ _ _
      | own v event loopback =>
          obtain ⟨passed, hflowing, -⟩ :=
            flowing_run htree hquiet hunreceived hids hdistinct htraffic
          have hnew : (originated o (activities step middle (.own v event loopback))).length =
              if v = o then (step (start.node v) (middle.state v) event).2.length else 0 := by
            have hall : (originated o (activities step middle
                (.own v event loopback))).filterMap some =
                if v = o then readOf some (step (middle.net.node v) (middle.state v) event).2
                else [] := originated_originateAll v o loopback _
            rw [List.filterMap_some, hflowing.node] at hall
            rw [hall]
            split_ifs <;> simp [readOf]
          rw [hnew, ownEvents_own]
          show _ = _ + 0 + _
          split_ifs with ho
          · subst ho
            rw [said_concat, List.length_append, ← hstate]
            simp only [readOf, List.filterMap_eq_map', List.length_map]
            omega
          · rw [List.append_nil]
            omega

/-- **What is heard is what was said.**  In every run of the modules on all nodes, what `v` has
read of the packets of `o` is a prefix of what the module of `o` has said, and all of it when
nothing is on its way any more. -/
theorem heard_eq_said [Fintype V]
    (hposted : ∀ v s event, ∀ packet ∈ (step (start.node v) s event).2,
      Posted (start.node v) packet)
    (hrun : Runs.Run (Stations.apply step) (Stations.Allowed value May) ⟨start, initial⟩
      happenings s) (o v : V)
    (hmeant : ∀ u s event, ∀ packet ∈ (step (start.node u) s event).2,
      (start.node v).toUs (receiverIn (unmarked packet.message)) = true) :
    let all := said step value (start.node o) (initial o) (ownEvents o happenings)
    (s.net.handledFrom o v).filterMap value <+: all ∧
      (s.net.Quiet → (s.net.handledFrom o v).filterMap value = all) := by
  intro all
  obtain ⟨htraffic, hsame⟩ :=
    said_run (P := fun bytes => (start.node v).toUs (receiverIn bytes) = true) htree hquiet
      hunreceived hids hdistinct (fun v s event _ => hposted v s event)
      (fun v s event _ => hmeant v s event) hrun
  obtain ⟨hsaid, -, hread⟩ := hsame o
  obtain ⟨passed, hflowing, -⟩ := flowing_run htree hquiet hunreceived hids hdistinct htraffic
  obtain ⟨hstart, hend⟩ := hflowing.prefix_originated htree hids hdistinct o v
  -- the packets of the module are all meant for the node
  have hall : ((originated o (trafficOf step ⟨start, initial⟩ happenings)).filter fun bytes =>
      (start.node v).toUs (receiverIn bytes)).filterMap value = all := by
    rw [List.filterMap_filter]
    refine Eq.trans ?_ hsaid
    apply List.filterMap_congr
    intro bytes hbytes
    rcases hread bytes hbytes with hnone | hus
    · rw [hnone, ite_self]
    · exact if_pos hus
  rw [← hall]
  exact ⟨hstart.filterMap value, fun hq => by rw [hend hq]⟩

/-- Where only one node says something, that is all that is read. -/
theorem read_eq_heard [Fintype V]
    (hposted : ∀ v s event, ∀ packet ∈ (step (start.node v) s event).2,
      Posted (start.node v) packet)
    (hrun : Runs.Run (Stations.apply step) (Stations.Allowed value May) ⟨start, initial⟩
      happenings s) {o v : V}
    (hmeant : ∀ u s event, ∀ packet ∈ (step (start.node u) s event).2,
      (start.node v).toUs (receiverIn (unmarked packet.message)) = true)
    (honly : ∀ u, u ≠ o → ownEvents u happenings = []) :
    ((s.net.received v).filterMap fun message => value (unmarked message)) =
      (s.net.handledFrom o v).filterMap value := by
  obtain ⟨htraffic, -⟩ :=
    said_run (P := fun bytes => (start.node v).toUs (receiverIn bytes) = true) htree hquiet
      hunreceived hids hdistinct (fun v s event _ => hposted v s event)
      (fun v s event _ => hmeant v s event) hrun
  obtain ⟨passed, hflowing, -⟩ := flowing_run htree hquiet hunreceived hids hdistinct htraffic
  unfold Net.handledFrom
  rw [List.filterMap_filterMap]
  apply List.filterMap_congr
  intro message hmessage
  obtain ⟨u, hsender⟩ := (hflowing.travelling.received v message hmessage).sender
  rw [hflowing.node, contentFrom_eq hdistinct hsender o]
  by_cases hu : o = u
  · rw [if_pos hu]
    rfl
  · rw [if_neg hu, Option.bind_none]
    have hmem : unmarked message ∈ s.net.handledFrom u v := by
      unfold Net.handledFrom
      rw [hflowing.node]
      exact List.mem_filterMap.mpr ⟨message, hmessage, if_pos hsender⟩
    have hnothing :=
      (heard_eq_said htree hquiet hunreceived hids hdistinct hposted hrun u v hmeant).1
    rw [honly u (Ne.symm hu), said_nil] at hnothing
    exact List.filterMap_eq_nil_iff.mp (List.prefix_nil.mp hnothing) _ hmem

end Run

end FruityMesh.Modules
