import FruityMesh.Modules.Stations

/-!
# Modules that answer

The modules of `Stations` only send.  Here the module of a node also looks at every packet that
the node has handled, in the order in which they came, and may answer it.  In the source a module
looks at a packet at once; in a run here the packet may wait, so that the runs of the source are
some of those here.

Looking at a packet is one more event of the module of that node, so that a run is a run of
`Stations` (`happenings_run`), and what `Stations` says about the packets of the modules holds
for answers, too: what the module of `v` has seen of the packets of `o` is a prefix of what the
module of `o` has said to `v`, and all of it when everything has been delivered and looked at
(`seen_said`).

If no module has anything more to say, deliveries and looks come to an end (`work_le`,
`exists_work`).
-/

namespace FruityMesh.Modules

open Mesh Transport Stations

variable {V S E A X : Type*}

/-- What the module of a node gets: an event of its own, or a packet that the node has handled,
with what else the module finds in memory. -/
inductive Occasion (E A : Type*)
  | own (event : E)
  | packet (message : Message) (aside : A)

/-- The packets among the events of a module. -/
def looked (occasions : List (Occasion E A)) : List Message :=
  occasions.filterMap fun
    | .own _ => none
    | .packet message _ => some message

@[simp] theorem looked_nil : looked ([] : List (Occasion E A)) = [] := rfl

theorem looked_own (occasions : List (Occasion E A)) (event : E) :
    looked (occasions ++ [.own event]) = looked occasions := by
  unfold looked
  rw [List.filterMap_append]
  exact List.append_nil _

theorem looked_packet (occasions : List (Occasion E A)) (message : Message) (aside : A) :
    looked (occasions ++ [.packet message aside]) = looked occasions ++ [message] := by
  unfold looked
  rw [List.filterMap_append]
  rfl

/-- What the packets of the node with the id say to the module. -/
def seen (value : List U8 → Option X) (nodeId : NodeId) (messages : List Message) : List X :=
  (messages.filterMap (contentFrom nodeId)).filterMap value

/-- The mesh with the modules; `looks v` counts the packets that the module of `v` has looked
at. -/
structure Answering (V S : Type*) where
  stations : Stations V S
  looks : V → ℕ

/-- The module of a node gets an event or looks at the next packet, or the mesh goes on. -/
inductive Incident (V E A : Type*)
  | own (v : V) (event : E) (loopback : Option Slot)
  | traffic (event : Activity V)
  | look (v : V) (aside : A) (loopback : Option Slot)

/-- What happens apart from the module. -/
def Incident.traffic? : Incident V E A → Option (Activity V)
  | .own _ _ _ => none
  | .traffic event => some event
  | .look _ _ _ => none

/-- A delivery or a look, so nothing that comes from outside. -/
def Incident.isWork : Incident V E A → Bool
  | .own _ _ _ => false
  | .traffic event => event.isDelivery
  | .look _ _ _ => true

namespace Answering

variable [DecidableEq V] (step : Node → S → Occasion E A → S × List ConnectionPacket)
  (value : List U8 → Option X)

/-- The packet that the module of `v` looks at next. -/
def next (s : Answering V S) (v : V) : Option Message := (s.stations.net.received v)[s.looks v]?

def apply (s : Answering V S) : Incident V E A → Answering V S
  | .own v event loopback =>
      { s with stations := Stations.apply step s.stations (.own v (.own event) loopback) }
  | .traffic event => { s with stations := Stations.apply step s.stations (.traffic event) }
  | .look v aside loopback =>
      match s.next v with
      | none => s
      | some message =>
          { stations := Stations.apply step s.stations (.own v (.packet message aside) loopback)
            looks := Function.update s.looks v (s.looks v + 1) }

/-- The other modules do not send what could be read as a packet of this one. -/
def Allowed (s : Answering V S) : Incident V E A → Prop
  | .own _ _ _ => True
  | .traffic event =>
      event.Allowed s.stations.net ∧ ∀ o, (event.contentOf o).toList.filterMap value = []
  | .look v _ _ => s.looks v < (s.stations.net.received v).length

instance [Fintype V] [DecidableEq X] (s : Answering V S) (incident : Incident V E A) :
    Decidable (s.Allowed value incident) :=
  match incident with
  | .own _ _ _ => inferInstanceAs (Decidable True)
  | .traffic event => inferInstanceAs (Decidable (event.Allowed s.stations.net ∧
      ∀ o, (event.contentOf o).toList.filterMap value = []))
  | .look v _ _ => inferInstanceAs (Decidable (s.looks v < (s.stations.net.received v).length))

/-- What goes on without anything from outside. -/
def Works (s : Answering V S) (incident : Incident V E A) : Prop :=
  s.Allowed value incident ∧ incident.isWork = true

/-- Everything has been delivered and looked at. -/
def Settled (s : Answering V S) : Prop :=
  s.stations.net.Quiet ∧ ∀ v, s.looks v = (s.stations.net.received v).length

end Answering

/-! ## Nodes keep what they have handled -/

section Received

variable [DecidableEq V] {net : Net V}

theorem prefix_after (v w : V) (result : Node × List Action) :
    net.received w <+: (net.after v result).received w := by
  by_cases hw : w = v
  · subst hw
    rw [Net.after_received]
    exact List.prefix_append _ _
  · rw [Net.after_received_other _ _ hw]

theorem prefix_activity (event : Activity V) (w : V) :
    net.received w <+: (event.apply net).received w := by
  cases event with
  | originate v loopback packet => exact prefix_after v w _
  | deliver v i behind =>
      cases hinbox : net.inbox v i with
      | nil =>
          have hsame : Activity.apply net (.deliver v i behind) = net := by
            simp only [Activity.apply, Net.apply, hinbox]
          rw [hsame]
      | cons message rest =>
          have hafter := Net.apply_deliver hinbox behind
          rw [Activity.apply, hafter]
          exact prefix_after v w _

theorem prefix_originateAll (v w : V) (loopback : Option Slot) (packets : List ConnectionPacket) :
    net.received w <+: (Net.originateAll net v loopback packets).received w := by
  induction packets generalizing net with
  | nil => exact List.prefix_rfl
  | cons packet rest ih => exact (prefix_after v w _).trans ih

theorem prefix_stations (step : Node → S → E → S × List ConnectionPacket) (s : Stations V S)
    (happening : Happening V E) (w : V) :
    s.net.received w <+: (Stations.apply step s happening).net.received w := by
  cases happening with
  | own v event loopback => exact prefix_originateAll v w loopback _
  | traffic event => exact prefix_activity event w

end Received

/-! ## Runs -/

/-- What the module of a node can get: a packet is of no interest, or has the property that the
packets of the modules have. -/
def Readable (start : Net V) (value : List U8 → Option X) (P : List U8 → Prop) (_ : V) :
    Occasion E A → Prop
  | .own _ => True
  | .packet message _ =>
      Travelling start message ∧ (value (unmarked message) = none ∨ P (unmarked message))

section Run

variable [DecidableEq V] [Fintype V] {step : Node → S → Occasion E A → S × List ConnectionPacket}
  {value : List U8 → Option X} {start : Net V} {initial : V → S} {P : List U8 → Prop}
  {incidents : List (Incident V E A)} {happenings : List (Happening V (Occasion E A))}
  {s : Stations V S} {a : Answering V S}

variable (htree : HandshakenTree start) (hquiet : start.Quiet)
  (hunreceived : ∀ v, start.received v = [])
  (hids : ∀ v, 1 ≤ (start.node v).nodeId.toNat ∧ (start.node v).nodeId.toNat ≤ 19999)
  (hdistinct : ∀ v u, (start.node v).nodeId = (start.node u).nodeId → v = u)
  (hposted : ∀ v s occasion, Readable start value P v occasion →
    ∀ packet ∈ (step (start.node v) s occasion).2, Posted (start.node v) packet)
  (hall : ∀ v s occasion, Readable start value P v occasion →
    ∀ packet ∈ (step (start.node v) s occasion).2, P (unmarked packet.message))
include htree hquiet hunreceived hids hdistinct hposted hall

theorem readable_received
    (hrun : Runs.Run (Stations.apply step) (Stations.Allowed value (Readable start value P))
      ⟨start, initial⟩ happenings s) {v : V} {message : Message}
    (hmessage : message ∈ s.net.received v) :
    Travelling start message ∧ (value (unmarked message) = none ∨ P (unmarked message)) := by
  obtain ⟨htraffic, hsame⟩ :=
    said_run htree hquiet hunreceived hids hdistinct hposted hall hrun
  obtain ⟨passed, hflowing, -⟩ := flowing_run htree hquiet hunreceived hids hdistinct htraffic
  have htravels := hflowing.travelling.received v message hmessage
  obtain ⟨o, hsender⟩ := htravels.sender
  have hmem : unmarked message ∈ s.net.handledFrom o v := by
    unfold Net.handledFrom
    rw [hflowing.node]
    exact List.mem_filterMap.mpr ⟨message, hmessage, if_pos hsender⟩
  have hsent := (hflowing.prefix_originated htree hids hdistinct o v).1.subset hmem
  exact ⟨htravels, (hsame o).2.2 _ (List.mem_filter.mp hsent).1⟩

/-- A run is a run of `Stations`, in which the packets that the modules have looked at are events
of their own. -/
theorem happenings_run
    (hrun : Runs.Run (Answering.apply step) (Answering.Allowed value)
      ⟨⟨start, initial⟩, fun _ => 0⟩ incidents a) :
    ∃ happenings, Runs.Run (Stations.apply step)
        (Stations.Allowed value (Readable start value P)) ⟨start, initial⟩ happenings a.stations ∧
      happenings.filterMap Happening.traffic? = incidents.filterMap Incident.traffic? ∧
      ∀ v, a.looks v ≤ (a.stations.net.received v).length ∧
        looked (ownEvents v happenings) = (a.stations.net.received v).take (a.looks v) := by
  generalize hfirst : (⟨⟨start, initial⟩, fun _ => 0⟩ : Answering V S) = first at hrun
  induction hrun with
  | nil =>
      subst hfirst
      exact ⟨[], Runs.Run.nil _, rfl, fun v => ⟨Nat.zero_le _, rfl⟩⟩
  | @step middle incidents hrun incident hallowed ih =>
      obtain ⟨happenings, hstations, hsame, hlooked⟩ := ih
      rw [List.filterMap_append, ← hsame]
      -- what a node has handled stays the beginning of what it has handled later
      have hkept : ∀ happening v,
          middle.looks v ≤ ((Stations.apply step middle.stations happening).net.received v).length ∧
          ((Stations.apply step middle.stations happening).net.received v).take (middle.looks v) =
            (middle.stations.net.received v).take (middle.looks v) := by
        intro happening v
        obtain ⟨more, hmore⟩ := prefix_stations step middle.stations happening v
        rw [← hmore, List.length_append, List.take_append_of_le_length (hlooked v).1]
        exact ⟨(hlooked v).1.trans (Nat.le_add_right _ _), rfl⟩
      cases incident with
      | own v event loopback =>
          refine ⟨_, hstations.step (.own v (.own event) loopback) trivial,
            List.filterMap_append, ?_⟩
          intro w
          obtain ⟨hle, htake⟩ := hkept (.own v (.own event) loopback) w
          refine ⟨hle, ?_⟩
          refine Eq.trans ?_ htake.symm
          rw [ownEvents_own, ← (hlooked w).2]
          split_ifs
          · rw [looked_own]
          · rw [List.append_nil]
      | traffic event =>
          refine ⟨_, hstations.step (.traffic event) hallowed, List.filterMap_append, ?_⟩
          intro w
          obtain ⟨hle, htake⟩ := hkept (.traffic event) w
          refine ⟨hle, ?_⟩
          rw [ownEvents_traffic]
          exact (hlooked w).2.trans htake.symm
      | look v aside loopback =>
          obtain ⟨message, hnext⟩ : ∃ message, middle.next v = some message :=
            ⟨_, List.getElem?_eq_getElem hallowed⟩
          have hreadable := readable_received htree hquiet hunreceived hids hdistinct hposted hall
            hstations (List.mem_of_getElem? hnext)
          have happly : middle.apply step (.look v aside loopback) =
              { stations := Stations.apply step middle.stations
                  (.own v (.packet message aside) loopback)
                looks := Function.update middle.looks v (middle.looks v + 1) } := by
            simp only [Answering.apply, hnext]
          rw [happly]
          refine ⟨_, hstations.step (.own v (.packet message aside) loopback) hreadable,
            List.filterMap_append, ?_⟩
          intro w
          obtain ⟨hle, htake⟩ := hkept (.own v (.packet message aside) loopback) w
          rw [ownEvents_own]
          by_cases hw : v = w
          · subst hw
            obtain ⟨more, hmore⟩ := prefix_stations step middle.stations
              (.own v (.packet message aside) loopback) v
            have hnext' : ((Stations.apply step middle.stations
                (.own v (.packet message aside) loopback)).net.received v)[middle.looks v]? =
                some message := by
              rw [← hmore, List.getElem?_append_left hallowed]
              exact hnext
            simp only [Function.update_self, if_true]
            rw [looked_packet, (hlooked v).2, List.take_add_one, hnext', htake]
            exact ⟨(List.getElem?_eq_some_iff.mp hnext').1, rfl⟩
          · simp only [Function.update_of_ne (Ne.symm hw), if_neg hw, List.append_nil]
            exact ⟨hle, (hlooked w).2.trans htake.symm⟩

/-- **What has been seen was said.**  What the module of `v` has seen of the packets of `o` is a
prefix of what the module of `o` has said to it, and all of it when nothing is on its way and all
packets have been looked at. -/
theorem seen_said
    (hrun : Runs.Run (Stations.apply step) (Stations.Allowed value (Readable start value P))
      ⟨start, initial⟩ happenings s) (o v : V) {looks : ℕ}
    (hlooked : looked (ownEvents v happenings) = (s.net.received v).take looks)
    {meant : X → Bool} (hmeant : ∀ bytes x, value bytes = some x →
      (start.node v).toUs (receiverIn bytes) = meant x) :
    let all := (said step value (start.node o) (initial o) (ownEvents o happenings)).filter meant
    seen value (start.node o).nodeId (looked (ownEvents v happenings)) <+: all ∧
      (s.net.Quiet → looks = (s.net.received v).length →
        seen value (start.node o).nodeId (looked (ownEvents v happenings)) = all) := by
  intro all
  obtain ⟨htraffic, hsame⟩ :=
    said_run htree hquiet hunreceived hids hdistinct hposted hall hrun
  obtain ⟨passed, hflowing, -⟩ := flowing_run htree hquiet hunreceived hids hdistinct htraffic
  obtain ⟨hstart, hend⟩ := hflowing.prefix_originated htree hids hdistinct o v
  have hread : ((originated o (trafficOf step ⟨start, initial⟩ happenings)).filter fun bytes =>
      (start.node v).toUs (receiverIn bytes)).filterMap value = all := by
    rw [List.filterMap_filter]
    show _ = (said step value _ _ _).filter meant
    rw [← (hsame o).1, List.filter_filterMap]
    apply List.filterMap_congr
    intro bytes _
    cases hvalue : value bytes with
    | none => exact ite_self _
    | some x => rw [hmeant bytes x hvalue, Option.filter_some]
  rw [← hread, hlooked]
  unfold Net.handledFrom at hstart hend
  rw [hflowing.node] at hstart hend
  constructor
  · exact (((List.take_prefix _ _).filterMap _).trans hstart).filterMap value
  · intro hnothing hlooks
    rw [hlooks, List.take_length, seen, hend hnothing]

/-! ## The work comes to an end -/

/-- Every packet that a node has handled is one that some node has sent. -/
theorem length_received_le
    (hrun : Runs.Run (Stations.apply step) (Stations.Allowed value (Readable start value P))
      ⟨start, initial⟩ happenings s) (v : V) :
    (s.net.received v).length ≤
      ∑ o, (originated o (trafficOf step ⟨start, initial⟩ happenings)).length := by
  obtain ⟨htraffic, -⟩ := said_run htree hquiet hunreceived hids hdistinct hposted hall hrun
  obtain ⟨passed, hflowing, -⟩ := flowing_run htree hquiet hunreceived hids hdistinct htraffic
  have hsenders : ∀ messages : List Message, (∀ message ∈ messages, Travelling start message) →
      messages.length = ∑ o, (messages.filterMap (contentFrom (start.node o).nodeId)).length := by
    intro messages
    induction messages with
    | nil => exact fun _ => (Finset.sum_const_zero).symm
    | cons message rest ih =>
        intro htravel
        obtain ⟨sender, hsender⟩ := (htravel message List.mem_cons_self).sender
        have hone : ∀ o, ((message :: rest).filterMap
            (contentFrom (start.node o).nodeId)).length =
            (rest.filterMap (contentFrom (start.node o).nodeId)).length +
              if o = sender then 1 else 0 := by
          intro o
          rw [List.filterMap_cons, contentFrom_eq hdistinct hsender o]
          split_ifs <;> rfl
        simp only [hone, Finset.sum_add_distrib, Finset.sum_ite_eq', Finset.mem_univ, if_true]
        rw [List.length_cons, ih fun m hm => htravel m (List.mem_cons_of_mem _ hm)]
  rw [hsenders _ (hflowing.travelling.received v)]
  apply Finset.sum_le_sum
  intro o _
  have hstart := (hflowing.prefix_originated htree hids hdistinct o v).1
  unfold Net.handledFrom at hstart
  rw [hflowing.node] at hstart
  exact hstart.length_le.trans (List.length_filter_le _ _)

omit htree hquiet hunreceived hids hdistinct hposted hall in
/-- Deliveries and looks are counted. -/
theorem work_eq {first : Answering V S} (hfirst : ∀ v, first.looks v = 0)
    (hrun : Runs.Run (Answering.apply step) (Answering.Allowed value) first incidents a) :
    (incidents.filter Incident.isWork).length =
      ((incidents.filterMap Incident.traffic?).filter Activity.isDelivery).length +
        ∑ v, a.looks v := by
  induction hrun with
  | nil => simp [hfirst]
  | @step middle incidents hrun incident hallowed ih =>
      simp only [List.filter_append, List.filterMap_append, List.length_append, ih]
      cases incident with
      | own v event loopback => rfl
      | traffic event =>
          show _ + _ + ([Incident.traffic event].filter Incident.isWork).length =
            _ + ([event].filter Activity.isDelivery).length + ∑ v, middle.looks v
          cases hdelivery : event.isDelivery <;> simp [Incident.isWork, hdelivery]
          omega
      | look v aside loopback =>
          obtain ⟨message, hnext⟩ : ∃ message, middle.next v = some message :=
            ⟨_, List.getElem?_eq_getElem hallowed⟩
          have hlooks : ∑ w, (middle.apply step (.look v aside loopback)).looks w =
              (∑ w, middle.looks w) + 1 := by
            simp only [Answering.apply, hnext]
            rw [← Finset.add_sum_erase _ _ (Finset.mem_univ v),
              ← Finset.add_sum_erase _ middle.looks (Finset.mem_univ v), Function.update_self,
              Finset.sum_congr rfl fun w hw =>
                Function.update_of_ne (Finset.ne_of_mem_erase hw) _ _]
            omega
          rw [hlooks]
          rfl

omit htree hquiet hunreceived hids hdistinct hposted hall [DecidableEq V] [Fintype V] in
/-- What is said is counted in the state of the module. -/
theorem length_said_le {weight : S → ℕ} {node : Node}
    (hweight : ∀ s occasion, weight s + (step node s occasion).2.length ≤
      weight (step node s occasion).1) (s : S) (occasions : List (Occasion E A)) :
    weight s + (said step some node s occasions).length ≤
      weight (stateAfter step node s occasions) := by
  induction occasions generalizing s with
  | nil => exact le_rfl
  | cons occasion rest ih =>
      have hone := hweight s occasion
      have hrest := ih (step node s occasion).1
      rw [said, List.length_append, readOf, List.filterMap_eq_map', List.length_map]
      exact (by omega : _ ≤ _).trans hrest

/-- There is no more work than what has been sent makes necessary. -/
theorem work_le {weight : S → ℕ}
    (hweight : ∀ v s occasion, weight s + (step (start.node v) s occasion).2.length ≤
      weight (step (start.node v) s occasion).1)
    (hrun : Runs.Run (Answering.apply step) (Answering.Allowed value)
      ⟨⟨start, initial⟩, fun _ => 0⟩ incidents a) :
    (incidents.filter Incident.isWork).length ≤
      ((∑ o, (originated o (incidents.filterMap Incident.traffic?)).length) +
        ∑ o, weight (a.stations.state o)) * (2 * Fintype.card V) := by
  obtain ⟨happenings, hstations, hsame, hlooked⟩ :=
    happenings_run htree hquiet hunreceived hids hdistinct hposted hall hrun
  obtain ⟨htraffic, hstate⟩ :=
    said_run htree hquiet hunreceived hids hdistinct hposted hall hstations
  have hreceived := length_received_le htree hquiet hunreceived hids hdistinct hposted hall
    hstations
  set sent := ∑ o, (originated o (trafficOf step ⟨start, initial⟩ happenings)).length with hsent
  have hsent_le : sent ≤ (∑ o, (originated o (incidents.filterMap Incident.traffic?)).length) +
      ∑ o, weight (a.stations.state o) := by
    rw [hsent, ← Finset.sum_add_distrib]
    apply Finset.sum_le_sum
    intro o _
    rw [length_originated htree hquiet hunreceived hids hdistinct hposted hstations o, hsame,
      (hstate o).2.1]
    have := length_said_le (hweight o) (initial o) (ownEvents o happenings)
    omega
  have hdeliveries : ((incidents.filterMap Incident.traffic?).filter
      Activity.isDelivery).length ≤ sent * Fintype.card V := by
    have hbound := deliveries_bound htree hquiet hunreceived hids hdistinct htraffic
    rw [deliveries_trafficOf hstations, hsame, ← sum_originated] at hbound
    exact hbound.trans (Nat.mul_le_mul_left _ (Nat.sub_le _ _))
  have hlooks : ∑ v, a.looks v ≤ sent * Fintype.card V := by
    calc ∑ v, a.looks v ≤ ∑ _v : V, sent :=
          Finset.sum_le_sum fun v _ => (hlooked v).1.trans (hreceived v)
      _ = sent * Fintype.card V := by
          rw [Finset.sum_const, Finset.card_univ, smul_eq_mul, Nat.mul_comm]
  rw [work_eq (fun _ => rfl) hrun]
  calc _ ≤ sent * Fintype.card V + sent * Fintype.card V := Nat.add_le_add hdeliveries hlooks
    _ = sent * (2 * Fintype.card V) := by ring
    _ ≤ _ := Nat.mul_le_mul_right _ hsent_le

/-- As long as something has not been delivered or looked at, there is work. -/
theorem exists_work (aside : A)
    (hrun : Runs.Run (Answering.apply step) (Answering.Allowed value)
      ⟨⟨start, initial⟩, fun _ => 0⟩ incidents a) (hnot : ¬ a.Settled) :
    ∃ incident : Incident V E A, a.Works value incident := by
  obtain ⟨happenings, hstations, -, hlooked⟩ :=
    happenings_run htree hquiet hunreceived hids hdistinct hposted hall hrun
  obtain ⟨htraffic, -⟩ := said_run htree hquiet hunreceived hids hdistinct hposted hall hstations
  obtain ⟨passed, hflowing, -⟩ := flowing_run htree hquiet hunreceived hids hdistinct htraffic
  by_cases hnothing : a.stations.net.Quiet
  · obtain ⟨v, hv⟩ : ∃ v, a.looks v ≠ (a.stations.net.received v).length := by
      by_contra hall'
      push Not at hall'
      exact hnot ⟨hnothing, hall'⟩
    exact ⟨.look v aside none, lt_of_le_of_ne (hlooked v).1 hv, rfl⟩
  · obtain ⟨v, i, henabled⟩ := exists_delivery htree hflowing hnothing
    exact ⟨.traffic (.deliver v i fun _ => 0), ⟨henabled, fun _ => rfl⟩, rfl⟩

/-- **The work comes to an end.**  If there is a bound for what the modules say from here on
without anything from outside, deliveries and looks alone come to an end at which everything has
been delivered and looked at. -/
theorem exists_settled (aside : A) (weight : S → ℕ) (bound : ℕ)
    (hweight : ∀ v s occasion, weight s + (step (start.node v) s occasion).2.length ≤
      weight (step (start.node v) s occasion).1)
    (hrun : Runs.Run (Answering.apply step) (Answering.Allowed value)
      ⟨⟨start, initial⟩, fun _ => 0⟩ incidents a)
    (hbound : ∀ more a', Runs.Run (Answering.apply step) (Answering.Works value) a more a' →
      ∑ v, weight (a'.stations.state v) ≤ bound) :
    ∃ more a', Runs.Run (Answering.apply step) (Answering.Works value) a more a' ∧
      a'.Settled := by
  refine Runs.Run.exists_end
    (((∑ o, (originated o (incidents.filterMap Incident.traffic?)).length) + bound) *
      (2 * Fintype.card V)) ?_ ?_
  · intro more a' hmore
    have hwork : ∀ incident ∈ more, incident.isWork = true := hmore.forall_mem fun _ _ h => h.2
    have hle := work_le htree hquiet hunreceived hids hdistinct hposted hall hweight
      (hrun.append (hmore.mono fun _ _ h => h.1))
    -- no node originates anything of another module
    have hnone : ∀ o, originated o ((incidents ++ more).filterMap Incident.traffic?) =
        originated o (incidents.filterMap Incident.traffic?) := by
      intro o
      have hmore' : originated o (more.filterMap Incident.traffic?) = [] := by
        unfold originated
        rw [List.filterMap_filterMap, List.filterMap_eq_nil_iff]
        intro incident hmem
        have hisWork := hwork incident hmem
        cases incident with
        | own v event loopback => rfl
        | look v aside loopback => rfl
        | traffic event =>
            cases event with
            | originate v loopback packet => exact absurd hisWork Bool.false_ne_true
            | deliver v i behind => rfl
      rw [List.filterMap_append, originated_append, hmore', List.append_nil]
    rw [List.filter_append, List.length_append, List.filter_eq_self.mpr hwork] at hle
    simp only [hnone] at hle
    have hmul := Nat.mul_le_mul_right (2 * Fintype.card V) (Nat.add_le_add_left
      (hbound more a' hmore)
      (∑ o, (originated o (incidents.filterMap Incident.traffic?)).length))
    omega
  · intro more a' hmore
    by_cases hsettled : a'.Settled
    · exact Or.inl hsettled
    · exact Or.inr (exists_work htree hquiet hunreceived hids hdistinct hposted hall aside
        (hrun.append (hmore.mono fun _ _ h => h.1)) hsettled)

end Run

end FruityMesh.Modules
