import FruityMesh.Library.Runs
import FruityMesh.Mesh.Relay
import FruityMesh.Mesh.RetryStorage
import FruityMesh.Modules.Packet

/-!
# Votes and their acknowledgement

A voter keeps each vote until the gateway has answered it: `vote` stores the id and sends a
TRIGGER, the timer sends all stored votes again, and a RESPONSE removes the vote that it names.

`Voting` is any number of such nodes on a network that keeps every packet for ever: what is
sent can be delivered at any time, to any node, any number of times or never.  A vote that was
accepted stays stored until the gateway has processed it (`no_vote_lost`), and a RESPONSE
changes nothing at a node that it is not for (`Voting.Sound.response_other`).
-/

namespace FruityMesh.Modules

open Cells Mesh Transport
open Node (sizeofConnPacketModule)

def messageTypeModuleTriggerAction : MessageType := 51

namespace VotingModule

def votingModuleId : U16 := 30020

/-- The type of TRIGGER and of RESPONSE. -/
def triggerMessage : U8 := 0
def responseMessage : U8 := 0

/-! ## The functions of the module -/

/-- What a function of the module leaves stored and sends, the votes that `PutInRetryStorage`
has taken, and those that the gateway reports. -/
structure Outcome where
  storage : RetryStorage
  sent : List Message
  accepted : List U16
  processed : List U16

section

variable (nodeId : NodeId) (isGatewayDevice : Bool) (storage : RetryStorage)

/-- Store a vote and send it.  The fields that are not set keep what lies on the stack. -/
def vote (globalTime : U64) (stack : ConnPacketModule) (uID : U16) : Outcome :=
  let put := storage.putInRetryStorage globalTime uID
  if put.2 then
    let time := put.1.getTimeFor uID
    let packet : ConnPacketModule :=
      { stack with
        header := { stack.header with
          messageType := messageTypeModuleTriggerAction
          sender := nodeId
          receiver := nodeIdBroadcast }
        moduleId := votingModuleId
        actionType := triggerMessage
        data := [uID.setWidth 8, (uID >>> 8).setWidth 8, (time >>> 24).setWidth 8,
          (time >>> 16).setWidth 8, (time >>> 8).setWidth 8, time.setWidth 8] ++
          stack.data.drop 6 }
    ⟨put.1, [packet.sent (sizeofConnPacketModule + 10)], [uID], []⟩
  else ⟨put.1, [], [], []⟩

/-- One round of the loop in `TimerEventHandler`. -/
def retry (globalTime : U64) (stack : ℕ → ConnPacketModule) (outcome : Outcome) (i : ℕ) :
    Outcome :=
  if outcome.storage.getVoteFromRetryStorage i ≠ 0 then
    let again := vote nodeId outcome.storage globalTime (stack i)
      (outcome.storage.getVoteFromRetryStorage i)
    ⟨again.storage, outcome.sent ++ again.sent, outcome.accepted ++ again.accepted,
      outcome.processed⟩
  else outcome

/-- Now and then a voter sends all its votes again. -/
def timerEventHandler (appTimer : U32) (globalTime : U64) (stack : ℕ → ConnPacketModule) :
    Outcome :=
  if isGatewayDevice = false ∧ appTimer.toNat / 1000 % 30 = 0 ∧ appTimer.toNat / 100 % 100 = 0 then
    (List.range maxRetryStorageSize).foldl (retry nodeId globalTime stack) ⟨storage, [], [], []⟩
  else ⟨storage, [], [], []⟩

/-- The id of the vote in a packet. -/
def userIdAt (data : ℕ → U8) : U16 :=
  (data (moduleData + 1)).setWidth 16 <<< 8 ||| (data moduleData).setWidth 16

/-- The gateway answers each vote. -/
def answer (data : ℕ → U8) (stack : ConnPacketModule) : ConnPacketModule :=
  { stack with
    header := { stack.header with
      messageType := messageTypeModuleActionResponse
      sender := nodeId
      receiver := senderAt data }
    moduleId := votingModuleId
    actionType := responseMessage
    data := [data moduleData, data (moduleData + 1)] ++ stack.data.drop 2 }

def connectionPacketReceivedEventHandler (data : ℕ → U8) (stack : ConnPacketModule) : Outcome :=
  let storage' :=
    if messageTypeAt data = messageTypeModuleActionResponse ∧ u16At data 7 = votingModuleId ∧
        data 10 = responseMessage then
      storage.removeFromRetryStorage (userIdAt data)
    else storage
  if isGatewayDevice ∧ messageTypeAt data = messageTypeModuleTriggerAction ∧
      u16At data 7 = votingModuleId ∧ data 10 = triggerMessage then
    ⟨storage', [(answer nodeId data stack).sent (sizeofConnPacketModule + 3 + 1)], [],
      [userIdAt data]⟩
  else ⟨storage', [], [], []⟩

end

/-! ## What the functions do -/

/-- What a function leaves that takes votes. -/
structure Voted (nodeId : NodeId) (storage : RetryStorage) (outcome : Outcome) : Prop where
  kept : ∀ u ≠ 0, u ∈ storage.row → u ∈ outcome.storage.row
  accepted : ∀ u ∈ outcome.accepted, u ≠ 0 → u ∈ outcome.storage.row
  sent : ∀ m ∈ outcome.sent, ∃ packet : ConnPacketModule,
    m = packet.sent (sizeofConnPacketModule + 10) ∧
      packet.header.messageType = messageTypeModuleTriggerAction ∧ packet.header.sender = nodeId
  processed : outcome.processed = []

section

variable {nodeId : NodeId} {storage : RetryStorage}

theorem Voted.nothing : Voted nodeId storage ⟨storage, [], [], []⟩ where
  kept := fun _ _ hmem => hmem
  accepted := fun _ hmem => absurd hmem List.not_mem_nil
  sent := fun _ hmem => absurd hmem List.not_mem_nil
  processed := rfl

theorem voted_put (globalTime : U64) (userId : U16) :
    Voted nodeId storage ⟨(storage.putInRetryStorage globalTime userId).1, [],
      if (storage.putInRetryStorage globalTime userId).2 then [userId] else [], []⟩ where
  kept := fun _ hne hmem => RetryStorage.mem_row_of_put hne hmem
  accepted := by
    intro u hu _
    split_ifs at hu with htrue
    · rw [List.mem_singleton.mp hu]
      exact RetryStorage.mem_row_put htrue
    · exact absurd hu List.not_mem_nil
  sent := fun _ hmem => absurd hmem List.not_mem_nil
  processed := rfl

theorem voted_vote (globalTime : U64) (stack : ConnPacketModule) (uID : U16) :
    Voted nodeId storage (vote nodeId storage globalTime stack uID) := by
  have hput : Voted nodeId storage _ := voted_put globalTime uID
  unfold vote
  dsimp only
  split_ifs with htrue
  · rw [if_pos htrue] at hput
    refine ⟨hput.kept, hput.accepted, ?_, rfl⟩
    intro m hm
    exact ⟨_, List.mem_singleton.mp hm, rfl, rfl⟩
  · rw [if_neg htrue] at hput
    exact hput

theorem Voted.retry {outcome : Outcome} (h : Voted nodeId storage outcome) (globalTime : U64)
    (stack : ℕ → ConnPacketModule) (i : ℕ) :
    Voted nodeId storage (retry nodeId globalTime stack outcome i) := by
  unfold VotingModule.retry
  split_ifs with hvote
  · have hagain : Voted nodeId outcome.storage _ :=
      voted_vote globalTime (stack i) (outcome.storage.getVoteFromRetryStorage i)
    refine ⟨fun u hne hmem => hagain.kept u hne (h.kept u hne hmem), ?_, ?_, h.processed⟩
    · intro u hu hne
      rcases List.mem_append.mp hu with hold | hnew
      · exact hagain.kept u hne (h.accepted u hold hne)
      · exact hagain.accepted u hnew hne
    · intro m hm
      rcases List.mem_append.mp hm with hold | hnew
      · exact h.sent m hold
      · exact hagain.sent m hnew
  · exact h

theorem voted_timerEventHandler (isGatewayDevice : Bool) (appTimer : U32) (globalTime : U64)
    (stack : ℕ → ConnPacketModule) :
    Voted nodeId storage
      (timerEventHandler nodeId isGatewayDevice storage appTimer globalTime stack) := by
  have hrounds : ∀ (rounds : List ℕ) (outcome : Outcome), Voted nodeId storage outcome →
      Voted nodeId storage (rounds.foldl (VotingModule.retry nodeId globalTime stack) outcome) := by
    intro rounds
    induction rounds with
    | nil => exact fun _ h => h
    | cons i rest ih => exact fun _ h => ih _ (h.retry globalTime stack i)
  unfold timerEventHandler
  split_ifs
  · exact hrounds _ _ Voted.nothing
  · exact Voted.nothing

end

section

variable (nodeId : NodeId) (isGatewayDevice : Bool) (storage : RetryStorage) {data : ℕ → U8}
  (stack : ConnPacketModule)

/-- A RESPONSE removes the vote that it names, or nothing. -/
theorem handler_response (htype : messageTypeAt data = messageTypeModuleActionResponse) :
    let outcome := connectionPacketReceivedEventHandler nodeId isGatewayDevice storage data stack
    (outcome.storage = storage ∨ outcome.storage = storage.removeFromRetryStorage (userIdAt data)) ∧
      outcome.sent = [] ∧ outcome.accepted = [] ∧ outcome.processed = [] := by
  have hother : messageTypeAt data ≠ messageTypeModuleTriggerAction := by
    rw [htype]
    decide
  unfold connectionPacketReceivedEventHandler
  simp only [hother, false_and, and_false, if_false, and_self, and_true]
  split_ifs
  · exact Or.inr rfl
  · exact Or.inl rfl

/-- A TRIGGER changes nothing at a voter, and a gateway answers it. -/
theorem handler_trigger (htype : messageTypeAt data = messageTypeModuleTriggerAction) :
    let outcome := connectionPacketReceivedEventHandler nodeId isGatewayDevice storage data stack
    outcome.storage = storage ∧ outcome.accepted = [] ∧
      ((outcome.sent = [] ∧ outcome.processed = []) ∨
        (outcome.sent = [(answer nodeId data stack).sent (sizeofConnPacketModule + 3 + 1)] ∧
          outcome.processed = [userIdAt data])) := by
  have hother : messageTypeAt data ≠ messageTypeModuleActionResponse := by
    rw [htype]
    decide
  unfold connectionPacketReceivedEventHandler
  simp only [hother, false_and, if_false]
  split_ifs
  · exact ⟨rfl, rfl, Or.inr ⟨rfl, rfl⟩⟩
  · exact ⟨rfl, rfl, Or.inl ⟨rfl, rfl⟩⟩

end

/-- The id with these two bytes. -/
def joined (low high : U8) : U16 := high.setWidth 16 <<< 8 ||| low.setWidth 16

theorem userIdAt_received {packet : ConnPacketModule} {dataLength : ℕ} {data : ℕ → U8}
    {low high : U8} {rest : List U8} (h : packet.Received dataLength data)
    (hlong : moduleData + 2 ≤ dataLength) (hdata : packet.data = low :: high :: rest) :
    userIdAt data = joined low high := by
  have hcells := h.data
  obtain ⟨n, hn⟩ : ∃ n, dataLength - moduleData = n + 2 := ⟨dataLength - moduleData - 2, by omega⟩
  rw [hdata, hn, List.take_succ_cons, List.take_succ_cons, holds_cons, holds_cons] at hcells
  rw [userIdAt, hcells.1, hcells.2.1, joined]

/-- The two bytes of an id give the id. -/
theorem joined_bytes (u : U16) : joined (u.setWidth 8) ((u >>> 8).setWidth 8) = u := by
  apply BitVec.eq_of_getLsbD_eq
  intro i hi
  simp only [joined, BitVec.getLsbD_or, BitVec.getLsbD_shiftLeft, BitVec.getLsbD_setWidth,
    BitVec.getLsbD_ushiftRight]
  rcases Nat.lt_or_ge i 8 with hlow | hhigh
  · simp [hlow, hi]
  · have hback : 8 + (i - 8) = i := by omega
    have hnot : ¬ i < 8 := by omega
    have hbyte : i - 8 < 8 := by omega
    have hhalf : i - 8 < 16 := by omega
    simp [hnot, hi, hback, hbyte, hhalf]

end VotingModule

/-! ## Voters and gateways on a network -/

/-- Nodes with a voting module.  The nodes themselves do not change. -/
structure Voting (V : Type*) where
  node : V → Node
  isGatewayDevice : V → Bool
  storage : V → RetryStorage
  /-- All packets that have been sent, with the node they are from. -/
  sent : List (V × Message)
  /-- The votes for which `PutInRetryStorage` has returned true, at each node. -/
  accepted : List (V × U16)
  /-- The packets that a gateway has processed, with the votes that it read from them. -/
  processed : List (Message × U16)

namespace Voting

open VotingModule

inductive Event (V : Type*)
  | vote (v : V) (uID : U16) (globalTime : U64) (stack : ConnPacketModule)
  /-- `NFCModule` stores a vote without sending it. -/
  | put (v : V) (userId : U16) (globalTime : U64)
  | timer (v : V) (appTimer : U32) (globalTime : U64) (stack : ℕ → ConnPacketModule)
  | deliver (v : V) (message : Message) (memory : ℕ → U8) (stack : ConnPacketModule)

variable {V : Type*} [DecidableEq V]

/-- The state after a function of the module of `v`. -/
def after (s : Voting V) (v : V) (outcome : Outcome) : Voting V :=
  { s with
    storage := Function.update s.storage v outcome.storage
    sent := s.sent ++ outcome.sent.map (v, ·)
    accepted := s.accepted ++ outcome.accepted.map (v, ·) }

/-- The state after `v` has handled a packet. -/
def handled (s : Voting V) (v : V) (message : Message) (outcome : Outcome) : Voting V :=
  { s.after v outcome with processed := s.processed ++ outcome.processed.map (message, ·) }

/-- A delivered packet is handled if the node is one of its receivers. -/
def receive (s : Voting V) (v : V) (message : Message) (packet : ConnectionPacket)
    (stack : ConnPacketModule) : Voting V :=
  if (s.node v).caresFor (receiverAt packet.data) then
    s.handled v message (connectionPacketReceivedEventHandler (s.node v).nodeId
      (s.isGatewayDevice v) (s.storage v) packet.data stack)
  else s

def apply (s : Voting V) : Event V → Voting V
  | .vote v uID globalTime stack =>
      s.after v (VotingModule.vote (s.node v).nodeId (s.storage v) globalTime stack uID)
  | .put v userId globalTime =>
      let put := (s.storage v).putInRetryStorage globalTime userId
      s.after v ⟨put.1, [], if put.2 then [userId] else [], []⟩
  | .timer v appTimer globalTime stack =>
      s.after v (timerEventHandler (s.node v).nodeId (s.isGatewayDevice v) (s.storage v) appTimer
        globalTime stack)
  | .deliver v message memory stack => s.receive v message (arrive message memory) stack

/-- Only what has been sent can be delivered. -/
def Allowed (s : Voting V) : Event V → Prop
  | .deliver _ message _ _ => ∃ w, (w, message) ∈ s.sent
  | .vote .. => True
  | .put .. => True
  | .timer .. => True

instance [Fintype V] (s : Voting V) (event : Event V) : Decidable (Allowed s event) := by
  cases event <;> unfold Allowed <;> infer_instance

@[simp] theorem after_storage (s : Voting V) (v : V) (outcome : Outcome) :
    (s.after v outcome).storage v = outcome.storage := Function.update_self ..

theorem after_storage_other (s : Voting V) {v w : V} (outcome : Outcome) (h : w ≠ v) :
    (s.after v outcome).storage w = s.storage w := Function.update_of_ne h ..

/-! ## What is on the network -/

/-- A gateway has processed the vote in a packet from this node. -/
def Processed (s : Voting V) (v : V) (u : U16) : Prop :=
  ∃ m, (v, m) ∈ s.sent ∧ (m, u) ∈ s.processed

/-- The packets on the network: votes with the id of their voter, and answers to votes that
have been processed. -/
inductive Known (s : Voting V) (w : V) : Message → Prop
  | trigger (packet : ConnPacketModule) (dataLength : ℕ) (hlong : moduleData ≤ dataLength)
      (htype : packet.header.messageType = messageTypeModuleTriggerAction)
      (hsender : packet.header.sender = (s.node w).nodeId) : Known s w (packet.sent dataLength)
  | response (packet : ConnPacketModule) (dataLength : ℕ) (hlong : moduleData + 2 ≤ dataLength)
      (htype : packet.header.messageType = messageTypeModuleActionResponse) (v : V)
      (hreceiver : packet.header.receiver = (s.node v).nodeId) (low high : U8) (rest : List U8)
      (hdata : packet.data = low :: high :: rest) (hprocessed : Processed s v (joined low high)) :
      Known s w (packet.sent dataLength)

/-- What does not change, and what only grows. -/
structure Grows (s s' : Voting V) : Prop where
  node : s'.node = s.node
  sent : s.sent ⊆ s'.sent
  accepted : s.accepted ⊆ s'.accepted
  processed : s.processed ⊆ s'.processed

omit [DecidableEq V] in
theorem Grows.refl (s : Voting V) : Grows s s :=
  ⟨rfl, List.Subset.refl _, List.Subset.refl _, List.Subset.refl _⟩

omit [DecidableEq V] in
theorem Grows.trans {s s' s'' : Voting V} (h : Grows s s') (h' : Grows s' s'') : Grows s s'' :=
  ⟨h'.node.trans h.node, List.Subset.trans h.sent h'.sent,
    List.Subset.trans h.accepted h'.accepted, List.Subset.trans h.processed h'.processed⟩

theorem grows_after (s : Voting V) (v : V) (outcome : Outcome) : Grows s (s.after v outcome) :=
  ⟨rfl, List.subset_append_left _ _, List.subset_append_left _ _, List.Subset.refl _⟩

theorem grows_handled (s : Voting V) (v : V) (message : Message) (outcome : Outcome) :
    Grows s (s.handled v message outcome) :=
  ⟨rfl, List.subset_append_left _ _, List.subset_append_left _ _, List.subset_append_left _ _⟩

theorem grows_receive (s : Voting V) (v : V) (message : Message) (packet : ConnectionPacket)
    (stack : ConnPacketModule) : Grows s (s.receive v message packet stack) := by
  unfold receive
  split_ifs
  · exact grows_handled s v message _
  · exact Grows.refl s

theorem grows_apply (s : Voting V) (event : Event V) : Grows s (s.apply event) := by
  cases event with
  | vote v uID globalTime stack => exact grows_after s v _
  | put v userId globalTime => exact grows_after s v _
  | timer v appTimer globalTime stack => exact grows_after s v _
  | deliver v message memory stack => exact grows_receive s v message _ stack

theorem grows_run {s s' : Voting V} {events : List (Event V)}
    (h : Runs.Run apply Allowed s events s') : Grows s s' := by
  induction h with
  | nil => exact Grows.refl s
  | step _ event _ ih => exact ih.trans (grows_apply _ event)

variable {s s' : Voting V} {v w : V} {u : U16}

omit [DecidableEq V] in
theorem Processed.mono (h : Processed s v u) (hgrows : Grows s s') : Processed s' v u := by
  obtain ⟨m, hsent, hprocessed⟩ := h
  exact ⟨m, hgrows.sent hsent, hgrows.processed hprocessed⟩

omit [DecidableEq V] in
theorem Known.mono {m : Message} (h : Known s w m) (hgrows : Grows s s') : Known s' w m := by
  cases h with
  | trigger packet dataLength hlong htype hsender =>
      exact .trigger packet dataLength hlong htype (by rw [hgrows.node, hsender])
  | response packet dataLength hlong htype v hreceiver low high rest hdata hprocessed =>
      exact .response packet dataLength hlong htype v (by rw [hgrows.node, hreceiver]) low high
        rest hdata (hprocessed.mono hgrows)

/-! ## No vote is lost -/

/-- The vote is stored, or has been processed. -/
def Safe (s : Voting V) (v : V) (u : U16) : Prop := u ∈ (s.storage v).row ∨ Processed s v u

/-- What holds in every state. -/
structure Sound (s : Voting V) : Prop where
  known : ∀ w m, (w, m) ∈ s.sent → Known s w m
  safe : ∀ v u, (v, u) ∈ s.accepted → u ≠ 0 → Safe s v u

/-- The ids of the nodes are those of devices, and no two nodes have the same. -/
structure Identified (s : Voting V) : Prop where
  device : ∀ v, 1 ≤ (s.node v).nodeId.toNat ∧ (s.node v).nodeId.toNat ≤ 19999
  distinct : ∀ v w, (s.node v).nodeId = (s.node w).nodeId → v = w

/-- Taking votes keeps what is known and stored. -/
theorem Sound.voted (h : Sound s) {outcome : Outcome}
    (hvoted : Voted (s.node v).nodeId (s.storage v) outcome) : Sound (s.after v outcome) where
  known := by
    intro w m hm
    rcases List.mem_append.mp hm with hold | hnew
    · exact (h.known w m hold).mono (grows_after s v outcome)
    · obtain ⟨m', hm', heq⟩ := List.mem_map.mp hnew
      obtain ⟨rfl, rfl⟩ := Prod.mk.inj heq
      obtain ⟨packet, rfl, htype, hsender⟩ := hvoted.sent m' hm'
      exact .trigger packet _ (by decide) htype hsender
  safe := by
    intro w u hu hne
    by_cases hw : w = v
    · subst hw
      unfold Safe
      rw [after_storage]
      rcases List.mem_append.mp hu with hold | hnew
      · rcases h.safe w u hold hne with hstored | hprocessed
        · exact Or.inl (hvoted.kept u hne hstored)
        · exact Or.inr (hprocessed.mono (grows_after s w outcome))
      · obtain ⟨u', hu', heq⟩ := List.mem_map.mp hnew
        obtain rfl := (Prod.mk.inj heq).2
        exact Or.inl (hvoted.accepted u' hu' hne)
    · unfold Safe
      rw [after_storage_other s outcome hw]
      rcases List.mem_append.mp hu with hold | hnew
      · exact (h.safe w u hold hne).imp_right fun hp => hp.mono (grows_after s v outcome)
      · obtain ⟨u', _, heq⟩ := List.mem_map.mp hnew
        exact absurd (Prod.mk.inj heq).1.symm hw

/-- So does handling a packet that takes no votes. -/
theorem Sound.handled (h : Sound s) {message : Message} {outcome : Outcome}
    (hknown : ∀ m ∈ outcome.sent, Known (s.handled v message outcome) v m)
    (haccepted : outcome.accepted = [])
    (hsafe : ∀ u, u ∈ (s.storage v).row →
      u ∈ outcome.storage.row ∨ Processed (s.handled v message outcome) v u) :
    Sound (s.handled v message outcome) where
  known := by
    intro w m hm
    rcases List.mem_append.mp hm with hold | hnew
    · exact (h.known w m hold).mono (grows_handled s v message outcome)
    · obtain ⟨m', hm', heq⟩ := List.mem_map.mp hnew
      obtain ⟨rfl, rfl⟩ := Prod.mk.inj heq
      exact hknown m' hm'
  safe := by
    intro w u hu hne
    have hu' : (w, u) ∈ s.accepted := by
      rcases List.mem_append.mp hu with hold | hnew
      · exact hold
      · rw [haccepted] at hnew
        exact absurd hnew List.not_mem_nil
    rcases h.safe w u hu' hne with hstored | hprocessed
    · by_cases hw : w = v
      · subst hw
        rcases hsafe u hstored with hkept | hprocessed
        · exact Or.inl (by rwa [Voting.handled, after_storage])
        · exact Or.inr hprocessed
      · exact Or.inl (by rwa [Voting.handled, after_storage_other s outcome hw])
    · exact Or.inr (hprocessed.mono (grows_handled s v message outcome))

omit [DecidableEq V] in
/-- A packet for the id of a device is for that device. -/
theorem Identified.eq_of_caresFor (h : Identified s)
    (hcares : (s.node v).caresFor (s.node w).nodeId = true) : w = v := by
  have hbroadcast : (s.node w).nodeId ≠ nodeIdBroadcast := by
    intro heq
    have hpos := (h.device w).1
    rw [heq] at hpos
    exact absurd hpos (by decide)
  rw [Node.caresFor_of_device _ (h.device w).2 hbroadcast, decide_eq_true_eq] at hcares
  exact h.distinct w v hcares

theorem Sound.receive (h : Sound s) (hids : Identified s) {message : Message}
    (hsent : (w, message) ∈ s.sent) (memory : ℕ → U8) (stack : ConnPacketModule) :
    Sound (s.receive v message (arrive message memory) stack) := by
  unfold Voting.receive
  split_ifs with hcares
  · cases h.known w message hsent with
    | trigger packet dataLength hlong htype hsender =>
        have hreceived := packet.received_arrive hlong (by rw [htype]; decide) memory
        obtain ⟨hstorage, haccepted, hanswer⟩ := handler_trigger (s.node v).nodeId
          (s.isGatewayDevice v) (s.storage v) stack (hreceived.messageType.trans htype)
        refine h.handled ?_ haccepted fun u hu => Or.inl (by rwa [hstorage])
        intro m hm
        rcases hanswer with ⟨hnone, _⟩ | ⟨hone, hvote⟩
        · rw [hnone] at hm
          exact absurd hm List.not_mem_nil
        · -- the answer goes to the voter, with the bytes of the id as they came
          rw [hone, List.mem_singleton] at hm
          subst hm
          refine .response _ _ (by decide) rfl w (hreceived.sender.trans hsender) _ _ _ rfl
            ⟨_, List.mem_append_left _ hsent, List.mem_append_right _ ?_⟩
          rw [hvote]
          exact List.mem_cons_self
    | response packet dataLength hlong htype x hreceiver low high rest hdata hprocessed =>
        have hreceived := packet.received_arrive (Nat.le_of_add_right_le hlong)
          (by rw [htype]; decide) memory
        -- the answer was meant for this node, since no other one has its id
        have hx : x = v := by
          rw [hreceived.receiver, hreceiver] at hcares
          exact hids.eq_of_caresFor hcares
        obtain ⟨hstorage, hnone, haccepted, _⟩ := handler_response (s.node v).nodeId
          (s.isGatewayDevice v) (s.storage v) stack (hreceived.messageType.trans htype)
        refine h.handled (fun m hm => ?_) haccepted fun u hu => ?_
        · rw [hnone] at hm
          exact absurd hm List.not_mem_nil
        · rcases hstorage with hkept | hremoved
          · exact Or.inl (by rwa [hkept])
          -- the vote that is removed is the one that the gateway has processed
          · by_cases hvote : u = userIdAt (arrive (packet.sent dataLength) memory).data
            · rw [hvote, userIdAt_received hreceived hlong hdata, ← hx]
              exact Or.inr (hprocessed.mono (grows_handled s _ _ _))
            · rw [hremoved]
              exact Or.inl (RetryStorage.mem_row_remove hvote hu)
  · exact h

theorem Sound.apply (h : Sound s) (hids : Identified s) {event : Event V}
    (hallowed : Allowed s event) : Sound (s.apply event) := by
  cases event with
  | vote v uID globalTime stack => exact h.voted (voted_vote globalTime stack uID)
  | put v userId globalTime => exact h.voted (voted_put globalTime userId)
  | timer v appTimer globalTime stack =>
      exact h.voted (voted_timerEventHandler _ appTimer globalTime stack)
  | deliver v message memory stack =>
      obtain ⟨w, hw⟩ := hallowed
      exact h.receive hids hw memory stack

omit [DecidableEq V] in
theorem Identified.mono (h : Identified s) (hgrows : Grows s s') : Identified s' where
  device := by
    rw [hgrows.node]
    exact h.device
  distinct := by
    rw [hgrows.node]
    exact h.distinct

theorem Sound.run {events : List (Event V)} (h : Sound s) (hids : Identified s)
    (hrun : Runs.Run Voting.apply Allowed s events s') : Sound s' := by
  induction hrun with
  | nil => exact h
  | step hrun event hallowed ih => exact ih.apply (hids.mono (grows_run hrun)) hallowed

/-- **A RESPONSE is for one voter.**  Nothing changes at any other node that it reaches. -/
theorem Sound.response_other (h : Sound s) (hids : Identified s) {x : V} {message : Message}
    (hsent : (x, message) ∈ s.sent) (htype : typeOf message = messageTypeModuleActionResponse)
    (hreceiver : receiverOf message = (s.node w).nodeId) (hne : v ≠ w) (memory : ℕ → U8)
    (stack : ConnPacketModule) : s.apply (.deliver v message memory stack) = s := by
  cases h.known x message hsent with
  | trigger packet dataLength hlong htrigger hsender =>
      rw [packet.typeOf_sent hlong, htrigger] at htype
      exact absurd htype (by decide)
  | response packet dataLength hlong hresponse y hy low high rest hdata hprocessed =>
      have hlong' : moduleData ≤ dataLength := Nat.le_of_add_right_le hlong
      have hreceived := packet.received_arrive hlong' (by rw [hresponse]; decide) memory
      have hhere := packet.received_memory hlong'
      apply if_neg
      rw [hreceived.receiver, ← hhere.receiver]
      intro hcares
      have hcares' : (s.node v).caresFor (s.node w).nodeId = true := by
        rw [← hreceiver]
        exact hcares
      exact hne (hids.eq_of_caresFor hcares').symm

/-- **No vote is lost.**  Whatever the network does, a vote that `PutInRetryStorage` has taken is
still stored in every later state, or a gateway has processed it; and a RESPONSE for one voter
changes nothing at another node. -/
theorem no_vote_lost {start : Voting V} (hids : Identified start) (hsent : start.sent = [])
    (haccepted : start.accepted = []) {before after : List (Event V)}
    (hbefore : Runs.Run Voting.apply Allowed start before s)
    (hafter : Runs.Run Voting.apply Allowed s after s') :
    (∀ v u, (v, u) ∈ s.accepted → u ≠ 0 → u ∈ (s'.storage v).row ∨
      ∃ m, (v, m) ∈ s'.sent ∧ (m, u) ∈ s'.processed) ∧
    ∀ v w x message memory stack, (x, message) ∈ s'.sent →
      typeOf message = messageTypeModuleActionResponse →
      receiverOf message = (s'.node w).nodeId → v ≠ w →
      (s'.apply (.deliver v message memory stack)).storage v = s'.storage v := by
  have hstart : Sound start := by
    refine ⟨fun w m hm => ?_, fun v u hu => ?_⟩
    · rw [hsent] at hm
      exact absurd hm List.not_mem_nil
    · rw [haccepted] at hu
      exact absurd hu List.not_mem_nil
  have hsound : Sound s' := hstart.run hids (hbefore.append hafter)
  have hids' : Identified s' := hids.mono (grows_run (hbefore.append hafter))
  constructor
  · intro v u hu hne
    exact hsound.safe v u ((grows_run hafter).accepted hu) hne
  · intro v w x message memory stack hx htype hreceiver hne
    rw [hsound.response_other hids' hx htype hreceiver hne]

/-! ### A voter and a gateway -/

/-- The node 0 is a voter, the node 1 a gateway. -/
def pair : Voting (Fin 2) where
  node := chainNode 2 (numbered 2)
  isGatewayDevice := fun v => v = 1
  storage := fun _ => RetryStorage.empty
  sent := []
  accepted := []
  processed := []

def zeros : ConnPacketModule := ⟨⟨false, 0, 0, 0, 0⟩, 0, 0, 0, List.replicate 10 0⟩

/-- The TRIGGER for the vote 7, and its RESPONSE. -/
def seventhVote : Message :=
  ⟨[102, 1, 0, 0, 0, 0, 0, 68, 117, 0, 0, 7, 0, 0, 0, 0, 1, 0, 0, 0], true⟩

def seventhAnswer : Message := ⟨[104, 2, 0, 1, 0, 0, 0, 68, 117, 0, 0, 7, 0, 0], true⟩

/-- The vote is sent twice; the gateway answers it, and the answer comes twice, too. -/
theorem no_vote_lost_answered :
    let after : List (Event (Fin 2)) := [.timer 0 0 65536 fun _ => zeros,
      .deliver 1 seventhVote (fun _ => 0) zeros, .deliver 0 seventhAnswer (fun _ => 0) zeros,
      .deliver 0 seventhAnswer (fun _ => 0) zeros]
    let s := after.foldl Voting.apply (pair.apply (.vote 0 7 32768 zeros))
    7 ∉ (s.storage 0).row ∧ ∃ m, (0, m) ∈ s.sent ∧ (m, 7) ∈ s.processed := by
  intro after s
  have hbefore : Runs.Run Voting.apply Allowed pair [.vote 0 7 32768 zeros]
      (pair.apply (.vote 0 7 32768 zeros)) := (Runs.Run.nil pair).step _ trivial
  have hafter : Runs.Run Voting.apply Allowed (pair.apply (.vote 0 7 32768 zeros)) after s :=
    Runs.Run.of_replays (by decide +kernel)
  have hids : Identified pair := ⟨by decide, by decide⟩
  have hremoved : 7 ∉ (s.storage 0).row := by decide +kernel
  have hsafe := (no_vote_lost hids rfl rfl hbefore hafter).1 0 7 (by decide +kernel) (by decide)
  exact ⟨hremoved, hsafe.resolve_left hremoved⟩

end Voting

end FruityMesh.Modules
