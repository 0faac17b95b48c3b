import FruityMesh.Modules.Answers
import FruityMesh.Modules.VotingModule

/-!
# Votes over the mesh

`VotingModule` lets the network do what it likes with a packet.  Here the network is the mesh: a
tree of handshaken links, on which voters send TRIGGERs, gateways answer them with RESPONSEs,
other modules send what they like, and the links deliver in any order.

A gateway counts the votes of a voter in the order in which the voter has sent them, and the
voter hears of them in that order.  So the RESPONSEs that a voter has handled are a prefix of the
TRIGGERs that it has sent, and a vote that is still stored is one of those behind that prefix, or
`NFCModule` has stored it since the timer has sent all votes (`votes_counted`).

The number of TRIGGERs bounds the number of RESPONSEs, so that the mesh comes to rest when no
more votes are cast; then all of them are counted, and only those are stored that have not been
sent yet (`votes_settle`).
-/

namespace FruityMesh.Modules

open Cells Mesh Transport VotingModule
open Node (sizeofConnPacketModule)

/-! ## Reading the packets of the module -/

/-- What a packet of the module says. -/
structure VotingPacket where
  messageType : MessageType
  receiver : NodeId
  userId : U16
  deriving DecidableEq

namespace VotingPacket

/-- The vote in a packet of this type. -/
def voteIf (messageType : MessageType) (packet : VotingPacket) : Option U16 :=
  if packet.messageType = messageType then some packet.userId else none

end VotingPacket

/-- The bytes could be read as a packet of the module; where the module id is not transmitted, it
is whatever lies in memory. -/
def MayBeVoting (bytes : List U8) : Prop :=
  (messageTypeAt (memory ⟨bytes, true⟩) = messageTypeModuleTriggerAction ∨
    messageTypeAt (memory ⟨bytes, true⟩) = messageTypeModuleActionResponse) ∧
  (bytes.length < 9 ∨ u16At (memory ⟨bytes, true⟩) 7 = votingModuleId)

instance (bytes : List U8) : Decidable (MayBeVoting bytes) := inferInstanceAs (Decidable (_ ∧ _))

def votingIn (bytes : List U8) : Option VotingPacket :=
  if MayBeVoting bytes then
    some ⟨messageTypeAt (memory ⟨bytes, true⟩), receiverIn bytes, userIdAt (memory ⟨bytes, true⟩)⟩
  else none

/-- All that is read of a packet of the module has been transmitted. -/
structure CompleteVoting (bytes : List U8) : Prop where
  long : 13 ≤ bytes.length
  moduleId : u16At (memory ⟨bytes, true⟩) 7 = votingModuleId
  actionType : memory ⟨bytes, true⟩ 10 = 0

section Reading

variable {message : Message} {behind : ℕ → U8}

theorem length_unmarked (hlong : 1 ≤ message.bytes.length) :
    (unmarked message).length = message.bytes.length := by
  rw [unmarked, List.length_cons, List.length_drop]
  omega

/-- The bytes behind the first one are what arrives. -/
theorem arrive_unmarked {k : ℕ} (hpos : 0 < k) (hk : k < message.bytes.length)
    (huntimed : typeOf message ≠ messageTypeUpdateTimestamp) :
    (arrive message behind).data k = memory ⟨unmarked message, true⟩ k := by
  rw [arrive_data hpos hk (Or.inr huntimed), memory_unmarked hpos]

theorem typeIn_unmarked : messageTypeAt (memory ⟨unmarked message, true⟩) = typeOf message :=
  type_unmarked message true

theorem userIdAt_congr {first second : ℕ → U8} (h0 : first moduleData = second moduleData)
    (h1 : first (moduleData + 1) = second (moduleData + 1)) : userIdAt first = userIdAt second := by
  unfold userIdAt
  rw [h0, h1]

/-- What the handler reads of a packet that it has to care about. -/
theorem CompleteVoting.reads (h : CompleteVoting (unmarked message))
    (hlong : 6 ≤ message.bytes.length) (huntimed : typeOf message ≠ messageTypeUpdateTimestamp) :
    u16At (arrive message behind).data 7 = votingModuleId ∧
      (arrive message behind).data 10 = 0 ∧
      userIdAt (arrive message behind).data = userIdAt (memory ⟨unmarked message, true⟩) := by
  have hlength := h.long
  rw [length_unmarked (by omega)] at hlength
  refine ⟨?_, ?_, ?_⟩
  · rw [← h.moduleId]
    exact u16At_congr (arrive_unmarked (by omega) (by omega) huntimed)
      (arrive_unmarked (by omega) (by omega) huntimed)
  · rw [← h.actionType]
    exact arrive_unmarked (by omega) (by omega) huntimed
  · exact userIdAt_congr (arrive_unmarked (by decide) (by unfold moduleData; omega) huntimed)
      (arrive_unmarked (by decide) (by unfold moduleData; omega) huntimed)

/-- The handler does not care about a packet that cannot be read as one of the module. -/
theorem not_voting_of_none (hnone : votingIn (unmarked message) = none)
    (hlong : 6 ≤ message.bytes.length)
    (huntimed : typeOf message ≠ messageTypeUpdateTimestamp) :
    ¬ ((messageTypeAt (arrive message behind).data = messageTypeModuleTriggerAction ∨
        messageTypeAt (arrive message behind).data = messageTypeModuleActionResponse) ∧
      u16At (arrive message behind).data 7 = votingModuleId) := by
  rintro ⟨htype, hmodule⟩
  rw [type_arrive, ← typeIn_unmarked] at htype
  have hnot : ¬ MayBeVoting (unmarked message) := by
    intro hmay
    rw [votingIn, if_pos hmay] at hnone
    exact absurd hnone (Option.some_ne_none _)
  refine hnot ⟨htype, ?_⟩
  by_cases hshort : (unmarked message).length < 9
  · exact Or.inl hshort
  · right
    rw [length_unmarked (by omega)] at hshort
    rw [← hmodule]
    exact (u16At_congr (arrive_unmarked (by omega) (by omega) huntimed)
      (arrive_unmarked (by omega) (by omega) huntimed)).symm

end Reading

/-! ## What the module sends -/

section Sending

variable {packet : ConnPacketModule} {dataLength : ℕ} {low high : U8} {rest : List U8}

theorem length_sent (hlong : 13 ≤ dataLength) (hdata : packet.data = low :: high :: rest) :
    13 ≤ (packet.sent dataLength).bytes.length := by
  rw [ConnPacketModule.bytes_sent (by unfold moduleData; omega), List.length_cons,
    List.length_append, ConnPacketModule.length_fields, List.length_take, hdata]
  unfold moduleData
  simp only [List.length_cons]
  omega

/-- A packet with an id in its data, as it is read. -/
theorem reads_sent (hlong : 13 ≤ dataLength) (hdata : packet.data = low :: high :: rest)
    (hmodule : packet.moduleId = votingModuleId) (haction : packet.actionType = 0)
    (htype : packet.header.messageType = messageTypeModuleTriggerAction ∨
      packet.header.messageType = messageTypeModuleActionResponse) :
    CompleteVoting (unmarked (packet.sent dataLength)) ∧
      votingIn (unmarked (packet.sent dataLength)) =
        some ⟨packet.header.messageType, packet.header.receiver, joined low high⟩ := by
  have hreceived := packet.received_memory (by unfold moduleData; omega : moduleData ≤ dataLength)
  have hlength := length_sent hlong hdata
  have hbyte : ∀ k, 0 < k → memory ⟨unmarked (packet.sent dataLength), true⟩ k =
      memory (packet.sent dataLength) k := fun k hk => memory_unmarked hk true
  have hmoduleId : u16At (memory ⟨unmarked (packet.sent dataLength), true⟩) 7 = votingModuleId := by
    rw [← hmodule, ← hreceived.moduleId]
    exact u16At_congr (hbyte _ (by omega)) (hbyte _ (by omega))
  have hcomplete : CompleteVoting (unmarked (packet.sent dataLength)) := by
    refine ⟨?_, hmoduleId, ?_⟩
    · rwa [length_unmarked (by omega)]
    · rw [hbyte _ (by omega), hreceived.actionType, haction]
  refine ⟨hcomplete, ?_⟩
  have hread : messageTypeAt (memory ⟨unmarked (packet.sent dataLength), true⟩) =
      packet.header.messageType := typeIn_unmarked.trans hreceived.messageType
  have hreceiver : receiverIn (unmarked (packet.sent dataLength)) = packet.header.receiver :=
    (receiverIn_unmarked _).trans hreceived.receiver
  have huser : userIdAt (memory ⟨unmarked (packet.sent dataLength), true⟩) = joined low high := by
    rw [← userIdAt_received hreceived hlong hdata]
    exact userIdAt_congr (hbyte _ (by decide)) (hbyte _ (by decide))
  have hmay : MayBeVoting (unmarked (packet.sent dataLength)) := by
    refine ⟨?_, Or.inr hmoduleId⟩
    rwa [hread]
  rw [votingIn, if_pos hmay, hread, hreceiver, huser]

theorem posted_sent {node : Node} (hlong : 13 ≤ dataLength) (hshort : dataLength < 2 ^ 16)
    (hdata : packet.data = low :: high :: rest)
    (htype : packet.header.messageType = messageTypeModuleTriggerAction ∨
      packet.header.messageType = messageTypeModuleActionResponse)
    (hsender : packet.header.sender = node.nodeId)
    (hreceiver : packet.header.receiver.toNat ≤ 19999) :
    Posted node (Message.packet (packet.sent dataLength)) ∧
      (Message.packet (packet.sent dataLength)).message = packet.sent dataLength := by
  have hreceived := packet.received_memory (by unfold moduleData; omega : moduleData ≤ dataLength)
  have hlength := length_sent hlong hdata
  have hle : (packet.sent dataLength).bytes.length < 2 ^ 16 :=
    (List.length_take_le _ _).trans_lt hshort
  have hread : typeOf (packet.sent dataLength) = packet.header.messageType := hreceived.messageType
  refine ⟨posted_packet ?_ ?_ ?_ (hreceived.sender.trans hsender) ?_ ?_ hle, message_packet hle⟩
  · rw [hread]
    rcases htype with h | h <;> rw [h] <;> decide
  · rw [hread]
    rcases htype with h | h <;> rw [h] <;> decide
  · rw [hread]
    rcases htype with h | h <;> rw [h] <;> decide
  · exact (congrArg BitVec.toNat hreceived.receiver).trans_le hreceiver
  · unfold sizeofConnPacketHeader
    omega

end Sending

/-- The message is a TRIGGER for the vote. -/
def TriggerOf (nodeId : NodeId) (userId : U16) (message : Message) : Prop :=
  ∃ (packet : ConnPacketModule) (rest : List U8),
    message = packet.sent (sizeofConnPacketModule + 10) ∧
    packet.header.messageType = messageTypeModuleTriggerAction ∧ packet.header.sender = nodeId ∧
    packet.header.receiver = nodeIdBroadcast ∧ packet.moduleId = votingModuleId ∧
    packet.actionType = triggerMessage ∧
    packet.data = userId.setWidth 8 :: (userId >>> 8).setWidth 8 :: rest

theorem TriggerOf.reads {nodeId : NodeId} {userId : U16} {message : Message}
    (h : TriggerOf nodeId userId message) :
    CompleteVoting (unmarked message) ∧ votingIn (unmarked message) =
      some ⟨messageTypeModuleTriggerAction, nodeIdBroadcast, userId⟩ := by
  obtain ⟨packet, rest, rfl, htype, -, hreceiver, hmodule, haction, hdata⟩ := h
  have hreads := reads_sent (by decide : 13 ≤ sizeofConnPacketModule + 10) hdata hmodule haction
    (Or.inl htype)
  rwa [htype, hreceiver, joined_bytes] at hreads

theorem TriggerOf.posted {node : Node} {userId : U16} {message : Message}
    (h : TriggerOf node.nodeId userId message) :
    Posted node (Message.packet message) ∧ (Message.packet message).message = message := by
  obtain ⟨packet, rest, rfl, htype, hsender, hreceiver, -, -, hdata⟩ := h
  refine posted_sent (by decide) (by decide) hdata (Or.inl htype) hsender ?_
  rw [hreceiver]
  decide

/-- What a function of the module does that casts votes. -/
structure Casts (nodeId : NodeId) (storage : RetryStorage) (outcome : Outcome) : Prop where
  triggers : List.Forall₂ (TriggerOf nodeId) outcome.accepted outcome.sent
  row : ∀ u ≠ 0, u ∈ outcome.storage.row → u ∈ storage.row ∨ u ∈ outcome.accepted
  processed : outcome.processed = []

section Casting

variable {nodeId : NodeId} {storage : RetryStorage} {userId u : U16} {globalTime : U64}

theorem row_getElem? (storage : RetryStorage) {i : ℕ} (hi : i < maxRetryStorageSize) :
    storage.row[i]? = some (storage.retryStorage i) := by
  simp [RetryStorage.row, Cells.read, hi]

/-- Only the vote itself is stored. -/
theorem mem_row_of_mem_put (hmem : u ∈ (storage.putInRetryStorage globalTime userId).1.row) :
    u ∈ storage.row ∨
      (storage.putInRetryStorage globalTime userId).2 = true ∧ u = userId := by
  rcases storage.put_cases globalTime userId with
    ⟨i, -, hput⟩ | ⟨-, -, hput⟩ | ⟨-, -, hput⟩
  · rw [hput] at hmem
    exact Or.inl hmem
  · rw [hput] at hmem
    exact Or.inl hmem
  · rw [hput, RetryStorage.insert] at hmem
    rw [hput]
    cases hfree : storage.find 0 with
    | none =>
        rw [hfree] at hmem
        exact Or.inl hmem
    | some i =>
        rw [hfree] at hmem
        obtain ⟨k, hk, heq⟩ := RetryStorage.mem_row.mp hmem
        have hcell : (overwrite storage.retryStorage i [userId]) k = u := heq
        rw [overwrite_singleton] at hcell
        split_ifs at hcell with hki
        · exact Or.inr ⟨rfl, hcell.symm⟩
        · exact Or.inl (RetryStorage.mem_row.mpr ⟨k, hk, hcell⟩)

/-- A vote that is stored already is not stored again. -/
theorem put_of_mem (hmem : userId ∈ storage.row) :
    (storage.putInRetryStorage globalTime userId).2 = true ∧
      (storage.putInRetryStorage globalTime userId).1.row = storage.row := by
  rcases storage.put_cases globalTime userId with
    ⟨i, -, hput⟩ | ⟨hnone, -, -⟩ | ⟨hnone, -, -⟩
  · rw [hput]
    exact ⟨rfl, rfl⟩
  · exact absurd hmem (RetryStorage.find_eq_none.mp hnone)
  · exact absurd hmem (RetryStorage.find_eq_none.mp hnone)

theorem Casts.nothing : Casts nodeId storage ⟨storage, [], [], []⟩ where
  triggers := List.Forall₂.nil
  row := fun _ _ hmem => Or.inl hmem
  processed := rfl

theorem casts_vote (stack : ConnPacketModule) :
    Casts nodeId storage (vote nodeId storage globalTime stack userId) ∧
      (vote nodeId storage globalTime stack userId).storage =
        (storage.putInRetryStorage globalTime userId).1 ∧
      (vote nodeId storage globalTime stack userId).accepted =
        if (storage.putInRetryStorage globalTime userId).2 then [userId] else [] := by
  unfold vote
  dsimp only
  split_ifs with htrue
  · refine ⟨⟨?_, ?_, rfl⟩, rfl, rfl⟩
    · exact List.Forall₂.cons ⟨_, _, rfl, rfl, rfl, rfl, rfl, rfl, rfl⟩ List.Forall₂.nil
    · intro u _ hmem
      exact (mem_row_of_mem_put hmem).imp_right fun h => List.mem_singleton.mpr h.2
  · refine ⟨⟨List.Forall₂.nil, ?_, rfl⟩, rfl, rfl⟩
    intro u _ hmem
    exact Or.inl ((mem_row_of_mem_put hmem).resolve_right fun h => htrue h.1)

/-- One round of the timer sends one stored vote again. -/
theorem Casts.retry {outcome : Outcome} (h : Casts nodeId storage outcome)
    (hrow : outcome.storage.row = storage.row) (stack : ℕ → ConnPacketModule) {i : ℕ}
    (hi : i < maxRetryStorageSize) :
    Casts nodeId storage (retry nodeId globalTime stack outcome i) ∧
      (retry nodeId globalTime stack outcome i).storage.row = storage.row ∧
      outcome.accepted ⊆ (retry nodeId globalTime stack outcome i).accepted ∧
      (outcome.storage.retryStorage i ≠ 0 →
        outcome.storage.retryStorage i ∈ (retry nodeId globalTime stack outcome i).accepted) := by
  unfold VotingModule.retry RetryStorage.getVoteFromRetryStorage
  split_ifs with hvote
  · have hmem : outcome.storage.retryStorage i ∈ outcome.storage.row :=
      RetryStorage.mem_row.mpr ⟨i, hi, rfl⟩
    obtain ⟨htrue, hkept⟩ := @put_of_mem outcome.storage _ globalTime hmem
    obtain ⟨hcasts, hstorage, haccepted⟩ := @casts_vote nodeId outcome.storage
      (outcome.storage.retryStorage i) globalTime (stack i)
    rw [if_pos htrue] at haccepted
    dsimp only
    rw [hstorage, hkept, hrow, haccepted]
    refine ⟨⟨?_, ?_, h.processed⟩, rfl, List.subset_append_left _ _, fun _ =>
      List.mem_append_right _ (List.mem_singleton_self _)⟩
    · exact List.rel_append h.triggers (haccepted ▸ hcasts.triggers)
    · intro u _ hu
      dsimp only at hu
      rw [hkept, hrow] at hu
      exact Or.inl hu
  · exact ⟨h, hrow, List.Subset.refl _, fun hne => absurd hne hvote⟩

/-- The timer sends all votes again, in the ticks in which it does so. -/
def Resends (isGatewayDevice : Bool) (appTimer : U32) : Prop :=
  isGatewayDevice = false ∧ appTimer.toNat / 1000 % 30 = 0 ∧ appTimer.toNat / 100 % 100 = 0

instance (isGatewayDevice : Bool) (appTimer : U32) : Decidable (Resends isGatewayDevice appTimer) :=
  inferInstanceAs (Decidable (_ ∧ _))

theorem casts_timer (isGatewayDevice : Bool) (appTimer : U32) (stack : ℕ → ConnPacketModule) :
    let outcome := timerEventHandler nodeId isGatewayDevice storage appTimer globalTime stack
    Casts nodeId storage outcome ∧ outcome.storage.row = storage.row ∧
      (Resends isGatewayDevice appTimer → ∀ u ∈ storage.row, u ≠ 0 → u ∈ outcome.accepted) := by
  have hrounds : ∀ (rounds : List ℕ), (∀ i ∈ rounds, i < maxRetryStorageSize) →
      let outcome := rounds.foldl (VotingModule.retry nodeId globalTime stack)
        ⟨storage, [], [], []⟩
      Casts nodeId storage outcome ∧ outcome.storage.row = storage.row ∧
        ∀ i ∈ rounds, storage.retryStorage i ≠ 0 →
          storage.retryStorage i ∈ outcome.accepted := by
    intro rounds
    induction rounds using List.reverseRecOn with
    | nil => exact fun _ => ⟨Casts.nothing, rfl, fun _ h => absurd h List.not_mem_nil⟩
    | append_singleton rounds i ih =>
        intro hall
        obtain ⟨hcasts, hrow, hsent⟩ := ih fun j hj => hall j (List.mem_append_left _ hj)
        have hi := hall i (List.mem_append_right _ (List.mem_singleton_self i))
        simp only [List.foldl_append, List.foldl_cons, List.foldl_nil]
        obtain ⟨hcasts', hrow', hmore, hnew⟩ :=
          @Casts.retry nodeId storage globalTime _ hcasts hrow stack i hi
        refine ⟨hcasts', hrow', ?_⟩
        intro j hj hne
        rcases List.mem_append.mp hj with hold | hlast
        · exact hmore (hsent j hold hne)
        · obtain rfl := List.mem_singleton.mp hlast
          -- the element has not changed in the rounds before
          have hsame := congrArg (·[j]?) hrow
          simp only [row_getElem? _ hi, Option.some.injEq] at hsame
          rw [← hsame] at hne ⊢
          exact hnew hne
  have hfire := hrounds (List.range maxRetryStorageSize) fun i => List.mem_range.mp
  unfold timerEventHandler Resends
  by_cases hresends : isGatewayDevice = false ∧ appTimer.toNat / 1000 % 30 = 0 ∧
      appTimer.toNat / 100 % 100 = 0
  · rw [if_pos hresends]
    refine ⟨hfire.1, hfire.2.1, fun _ u hu hne => ?_⟩
    obtain ⟨i, hi, rfl⟩ := RetryStorage.mem_row.mp hu
    exact hfire.2.2 i (List.mem_range.mpr hi) hne
  · rw [if_neg hresends]
    exact ⟨Casts.nothing, rfl, fun h => absurd h hresends⟩

end Casting

/-! ## The module on its node -/

/-- The module of a node, with a log of what it has done. -/
structure Voter where
  isGatewayDevice : Bool
  storage : RetryStorage
  /-- The votes for which `PutInRetryStorage` has returned true. -/
  accepted : List U16
  /-- The votes in the TRIGGERs that have been sent. -/
  asked : List U16
  /-- The votes that the gateway has reported, with the voters. -/
  counted : List (NodeId × U16)
  /-- The votes in the RESPONSEs that have been handled, with the gateways. -/
  answered : List (NodeId × U16)
  /-- The votes that `NFCModule` has stored since the timer has sent all votes. -/
  waiting : List U16

/-- An event of the module of a voter. -/
inductive Ballot
  | vote (uID : U16) (globalTime : U64) (stack : ConnPacketModule)
  /-- `NFCModule` stores a vote without sending it. -/
  | put (userId : U16) (globalTime : U64)
  | timer (appTimer : U32) (globalTime : U64) (stack : ℕ → ConnPacketModule)

/-- What the handler finds behind the packet and on the stack. -/
structure Aside where
  behind : ℕ → U8
  stack : ConnPacketModule

/-- The votes that are logged for one node. -/
def votesOf (nodeId : NodeId) (log : List (NodeId × U16)) : List U16 :=
  log.filterMap fun entry => if entry.1 = nodeId then some entry.2 else none

namespace Voter

/-- Nothing has happened yet. -/
def fresh (isGatewayDevice : Bool) : Voter :=
  ⟨isGatewayDevice, RetryStorage.empty, [], [], [], [], []⟩

/-- The state after a function that casts votes. -/
def cast (s : Voter) (outcome : Outcome) : Voter :=
  { s with
    storage := outcome.storage
    accepted := s.accepted ++ outcome.accepted
    asked := s.asked ++ outcome.sent.map fun message => userIdAt (memory message) }

/-- The state after the handler. -/
def handled (s : Voter) (data : ℕ → U8) (outcome : Outcome) : Voter :=
  { s with
    storage := outcome.storage
    counted := s.counted ++ outcome.processed.map (senderAt data, ·)
    answered := s.answered ++
      if messageTypeAt data = messageTypeModuleActionResponse ∧ u16At data 7 = votingModuleId ∧
          data 10 = responseMessage then
        [(senderAt data, userIdAt data)]
      else [] }

def step (node : Node) (s : Voter) : Occasion Ballot Aside → Voter × List ConnectionPacket
  | .own (.vote uID globalTime stack) =>
      let outcome := vote node.nodeId s.storage globalTime stack uID
      (s.cast outcome, outcome.sent.map Message.packet)
  | .own (.put userId globalTime) =>
      let put := s.storage.putInRetryStorage globalTime userId
      let accepted := if put.2 then [userId] else []
      ({ s.cast ⟨put.1, [], accepted, []⟩ with waiting := s.waiting ++ accepted }, [])
  | .own (.timer appTimer globalTime stack) =>
      let outcome :=
        timerEventHandler node.nodeId s.isGatewayDevice s.storage appTimer globalTime stack
      ({ s.cast outcome with
          waiting := if Resends s.isGatewayDevice appTimer then [] else s.waiting },
        outcome.sent.map Message.packet)
  | .packet message aside =>
      let data := (arrive message aside.behind).data
      let outcome := connectionPacketReceivedEventHandler node.nodeId s.isGatewayDevice s.storage
        data aside.stack
      (s.handled data outcome, outcome.sent.map Message.packet)

/-- What an event of the module does. -/
structure Own (node : Node) (s : Voter) (result : Voter × List ConnectionPacket)
    (votes : List U16) : Prop where
  said : readOf votingIn result.2 =
    votes.map fun u => ⟨messageTypeModuleTriggerAction, nodeIdBroadcast, u⟩
  posted : ∀ packet ∈ result.2, Posted node packet ∧ CompleteVoting (unmarked packet.message)
  length : result.2.length = votes.length
  isGatewayDevice : result.1.isGatewayDevice = s.isGatewayDevice
  asked : result.1.asked = s.asked ++ votes
  counted : result.1.counted = s.counted
  answered : result.1.answered = s.answered
  /-- A vote that is stored has been sent, waits, or was stored before and waits if it did. -/
  stored : ∀ u ≠ 0, u ∈ result.1.storage.row →
    u ∈ votes ∨ u ∈ result.1.waiting ∨ (u ∈ s.storage.row ∧ s.waiting ⊆ result.1.waiting)
  kept : ∀ u ≠ 0, u ∈ s.storage.row → u ∈ result.1.storage.row
  accepted : ∀ u ∈ result.1.accepted, u ≠ 0 → u ∈ s.accepted ∨ u ∈ result.1.storage.row

section Own

variable {node : Node} {s : Voter}

/-- The votes are what is sent, as long as nothing else is done. -/
theorem own_cast {outcome : Outcome} (hcasts : Casts node.nodeId s.storage outcome)
    (hvoted : Voted node.nodeId s.storage outcome) :
    readOf votingIn (outcome.sent.map Message.packet) =
        outcome.accepted.map (fun u =>
          (⟨messageTypeModuleTriggerAction, nodeIdBroadcast, u⟩ : VotingPacket)) ∧
      (∀ packet ∈ outcome.sent.map Message.packet,
        Posted node packet ∧ CompleteVoting (unmarked packet.message)) ∧
      (outcome.sent.map fun message => userIdAt (memory message)) = outcome.accepted := by
  obtain ⟨storage, sent, accepted, processed⟩ := outcome
  have htriggers : List.Forall₂ (TriggerOf node.nodeId) accepted sent := hcasts.triggers
  clear hcasts hvoted
  dsimp only
  induction htriggers with
  | nil => exact ⟨rfl, fun _ h => absurd h List.not_mem_nil, rfl⟩
  | @cons u message votes messages htrigger _ ih =>
      obtain ⟨hsaid, hposted, hasked⟩ := ih
      obtain ⟨hcomplete, hread⟩ := htrigger.reads
      obtain ⟨hpost, hmessage⟩ := htrigger.posted
      have huser : userIdAt (memory message) = u := by
        obtain ⟨packet, rest, rfl, -, -, -, -, -, hdata⟩ := htrigger
        exact (userIdAt_received (packet.received_memory (by decide)) (by decide) hdata).trans
          (joined_bytes u)
      refine ⟨?_, ?_, ?_⟩
      · rw [List.map_cons, List.map_cons, readOf,
          List.filterMap_cons_some (by rw [hmessage, hread])]
        exact congrArg _ hsaid
      · intro packet hpacket
        rcases List.mem_cons.mp hpacket with rfl | hrest
        · exact ⟨hpost, hmessage.symm ▸ hcomplete⟩
        · exact hposted packet hrest
      · rw [List.map_cons, huser, hasked]

theorem own_step (ballot : Ballot) :
    ∃ votes, Own node s (s.step node (.own ballot)) votes := by
  cases ballot with
  | vote uID globalTime stack =>
      obtain ⟨hcasts, -, -⟩ := @casts_vote node.nodeId s.storage uID globalTime stack
      have hvoted : Voted node.nodeId s.storage _ := voted_vote globalTime stack uID
      obtain ⟨hsaid, hposted, hasked⟩ := own_cast hcasts hvoted
      refine ⟨_, hsaid, hposted, ?_, rfl, congrArg _ hasked, rfl, rfl, ?_, hvoted.kept, ?_⟩
      · show (List.map _ _).length = _
        rw [List.length_map, hcasts.triggers.length_eq]
      · intro u hne hu
        rcases hcasts.row u hne hu with hold | hnew
        · exact Or.inr (Or.inr ⟨hold, List.Subset.refl _⟩)
        · exact Or.inl hnew
      · intro u hu hne
        exact (List.mem_append.mp hu).imp_right fun h => hvoted.accepted u h hne
  | put userId globalTime =>
      have hvoted : Voted node.nodeId s.storage _ := voted_put globalTime userId
      refine ⟨[], rfl, fun _ h => absurd h List.not_mem_nil, rfl, rfl, ?_, rfl, rfl, ?_,
        hvoted.kept, ?_⟩
      · rfl
      · intro u _ hu
        rcases mem_row_of_mem_put hu with hold | ⟨htrue, hnew⟩
        · exact Or.inr (Or.inr ⟨hold, List.subset_append_left _ _⟩)
        -- `NFCModule` only stores the vote; it is sent by the next timer
        · refine Or.inr (Or.inl (List.mem_append_right _ ?_))
          rw [if_pos htrue]
          exact List.mem_singleton.mpr hnew
      · intro u hu hne
        exact (List.mem_append.mp hu).imp_right fun h => hvoted.accepted u h hne
  | timer appTimer globalTime stack =>
      obtain ⟨hcasts, hrow, hall⟩ := @casts_timer node.nodeId s.storage globalTime
        s.isGatewayDevice appTimer stack
      have hvoted : Voted node.nodeId s.storage _ :=
        voted_timerEventHandler s.isGatewayDevice appTimer globalTime stack
      obtain ⟨hsaid, hposted, hasked⟩ := own_cast hcasts hvoted
      refine ⟨_, hsaid, hposted, ?_, rfl, congrArg _ hasked, rfl, rfl, ?_, hvoted.kept, ?_⟩
      · show (List.map _ _).length = _
        rw [List.length_map, hcasts.triggers.length_eq]
      · intro u hne hu
        have hold : u ∈ s.storage.row := hrow ▸ hu
        -- the timer sends all that is stored, or nothing
        by_cases hresends : Resends s.isGatewayDevice appTimer
        · exact Or.inl (hall hresends u hold hne)
        · refine Or.inr (Or.inr ⟨hold, ?_⟩)
          show s.waiting ⊆ if _ then _ else _
          rw [if_neg hresends]
          exact List.Subset.refl _
      · intro u hu hne
        exact (List.mem_append.mp hu).imp_right fun h => hvoted.accepted u h hne

end Own

/-- The vote in a packet of this type, if there is one. -/
def news (messageType : MessageType) (message : Message) : List U16 :=
  ((votingIn (unmarked message)).bind (VotingPacket.voteIf messageType)).toList

/-- What looking at a packet does. -/
structure Looked (node : Node) (s : Voter) (message : Message)
    (result : Voter × List ConnectionPacket) : Prop where
  said : readOf votingIn result.2 =
    (if s.isGatewayDevice then news messageTypeModuleTriggerAction message else []).map
      fun u => ⟨messageTypeModuleActionResponse, senderOf message, u⟩
  posted : ∀ packet ∈ result.2, Posted node packet ∧ CompleteVoting (unmarked packet.message)
  isGatewayDevice : result.1.isGatewayDevice = s.isGatewayDevice
  asked : result.1.asked = s.asked
  counted : result.1.counted = s.counted ++
    (if s.isGatewayDevice then news messageTypeModuleTriggerAction message else []).map
      (senderOf message, ·)
  answered : result.1.answered =
    s.answered ++ (news messageTypeModuleActionResponse message).map (senderOf message, ·)
  waiting : result.1.waiting = s.waiting
  accepted : result.1.accepted = s.accepted
  stored : ∀ u ≠ 0, u ∈ result.1.storage.row ↔
    u ∈ s.storage.row ∧ u ∉ news messageTypeModuleActionResponse message

section Look

variable {node : Node} {s : Voter} {message : Message}

theorem mem_row_remove_iff {storage : RetryStorage} {userId u : U16} (hne : u ≠ 0) :
    u ∈ (storage.removeFromRetryStorage userId).row ↔ u ∈ storage.row ∧ u ≠ userId := by
  rw [RetryStorage.row_remove, List.mem_append, List.mem_filter, decide_eq_true_eq]
  refine or_iff_left fun hzero => hne (List.eq_of_mem_replicate hzero)

/-- A packet that has nothing to do with votes. -/
theorem looked_none {aside : Aside} (hlong : 6 ≤ message.bytes.length)
    (huntimed : typeOf message ≠ messageTypeUpdateTimestamp)
    (hnone : votingIn (unmarked message) = none) :
    Looked node s message (s.step node (.packet message aside)) := by
  have hnot := @not_voting_of_none message aside.behind hnone hlong huntimed
  have hresponse : ¬ (messageTypeAt (arrive message aside.behind).data =
      messageTypeModuleActionResponse ∧
      u16At (arrive message aside.behind).data 7 = votingModuleId ∧
      (arrive message aside.behind).data 10 = responseMessage) :=
    fun h => hnot ⟨Or.inr h.1, h.2.1⟩
  have htrigger : ¬ (s.isGatewayDevice = true ∧ messageTypeAt (arrive message aside.behind).data =
      messageTypeModuleTriggerAction ∧ u16At (arrive message aside.behind).data 7 = votingModuleId ∧
      (arrive message aside.behind).data 10 = triggerMessage) :=
    fun h => hnot ⟨Or.inl h.2.1, h.2.2.1⟩
  have hstep : s.step node (.packet message aside) = (s, []) := by
    simp only [step, handled, connectionPacketReceivedEventHandler, if_neg hresponse,
      if_neg htrigger, List.map_nil, List.append_nil]
  have hnews : ∀ messageType, news messageType message = [] := by
    intro messageType
    rw [news, hnone]
    rfl
  rw [hstep]
  constructor
  case said => simp [hnews]
  case posted => exact fun _ h => absurd h List.not_mem_nil
  case counted => simp [hnews]
  case answered => simp [hnews]
  case stored =>
    intro u _
    rw [hnews]
    exact (and_iff_left List.not_mem_nil).symm
  all_goals rfl

/-- A RESPONSE removes its vote. -/
theorem looked_response {aside : Aside} (hlong : 6 ≤ message.bytes.length)
    (huntimed : typeOf message ≠ messageTypeUpdateTimestamp)
    (hcomplete : CompleteVoting (unmarked message))
    (htype : typeOf message = messageTypeModuleActionResponse) :
    Looked node s message (s.step node (.packet message aside)) := by
  obtain ⟨hmodule, haction, huser⟩ := @CompleteVoting.reads _ aside.behind hcomplete hlong huntimed
  have hread : messageTypeAt (arrive message aside.behind).data =
      messageTypeModuleActionResponse := type_arrive.trans htype
  have hsender : senderAt (arrive message aside.behind).data = senderOf message :=
    sender_arrive (by omega)
  have hother : messageTypeModuleActionResponse ≠ messageTypeModuleTriggerAction := by decide
  have hvoting : votingIn (unmarked message) = some ⟨messageTypeModuleActionResponse,
      receiverIn (unmarked message), userIdAt (arrive message aside.behind).data⟩ := by
    rw [votingIn, if_pos ⟨Or.inr (typeIn_unmarked.trans htype), Or.inr hcomplete.moduleId⟩,
      typeIn_unmarked, htype, huser]
  have hnews : news messageTypeModuleActionResponse message =
      [userIdAt (arrive message aside.behind).data] := by
    rw [news, hvoting, Option.bind_some, VotingPacket.voteIf, if_pos rfl]
    rfl
  have hno : news messageTypeModuleTriggerAction message = [] := by
    rw [news, hvoting, Option.bind_some, VotingPacket.voteIf, if_neg hother]
    rfl
  have hstep : s.step node (.packet message aside) =
      ({ s with
        storage := s.storage.removeFromRetryStorage (userIdAt (arrive message aside.behind).data)
        answered := s.answered ++
          [(senderOf message, userIdAt (arrive message aside.behind).data)] }, []) := by
    simp only [step, handled, connectionPacketReceivedEventHandler, hread, hmodule, haction,
      hsender, hother, responseMessage, false_and, and_false, and_self, if_true, if_false,
      List.map_nil, List.append_nil]
  rw [hstep]
  constructor
  case said => simp [hno]
  case posted => exact fun _ h => absurd h List.not_mem_nil
  case counted => simp [hno]
  case answered => simp [hnews]
  case stored =>
    intro u hne
    rw [hnews, List.mem_singleton]
    exact mem_row_remove_iff hne
  all_goals rfl

/-- A gateway counts the vote in a TRIGGER and answers it. -/
theorem looked_trigger {aside : Aside} (hlong : 6 ≤ message.bytes.length)
    (huntimed : typeOf message ≠ messageTypeUpdateTimestamp)
    (hcomplete : CompleteVoting (unmarked message))
    (htype : typeOf message = messageTypeModuleTriggerAction)
    (hdevice : (senderOf message).toNat ≤ 19999) :
    Looked node s message (s.step node (.packet message aside)) := by
  obtain ⟨hmodule, haction, huser⟩ := @CompleteVoting.reads _ aside.behind hcomplete hlong huntimed
  have hread : messageTypeAt (arrive message aside.behind).data =
      messageTypeModuleTriggerAction := type_arrive.trans htype
  have hsender : senderAt (arrive message aside.behind).data = senderOf message :=
    sender_arrive (by omega)
  have hother : messageTypeModuleTriggerAction ≠ messageTypeModuleActionResponse := by decide
  have hvoting : votingIn (unmarked message) = some ⟨messageTypeModuleTriggerAction,
      receiverIn (unmarked message), userIdAt (arrive message aside.behind).data⟩ := by
    rw [votingIn, if_pos ⟨Or.inl (typeIn_unmarked.trans htype), Or.inr hcomplete.moduleId⟩,
      typeIn_unmarked, htype, huser]
  have hnews : news messageTypeModuleTriggerAction message =
      [userIdAt (arrive message aside.behind).data] := by
    rw [news, hvoting, Option.bind_some, VotingPacket.voteIf, if_pos rfl]
    rfl
  have hno : news messageTypeModuleActionResponse message = [] := by
    rw [news, hvoting, Option.bind_some, VotingPacket.voteIf, if_neg hother]
    rfl
  have hstored : ∀ u, u ∈ s.storage.row ↔
      u ∈ s.storage.row ∧ u ∉ news messageTypeModuleActionResponse message := by
    intro u
    rw [hno]
    exact (and_iff_left List.not_mem_nil).symm
  cases hgateway : s.isGatewayDevice with
  | false =>
      have hstep : s.step node (.packet message aside) = (s, []) := by
        simp only [step, handled, connectionPacketReceivedEventHandler, hread, hother, hgateway,
          false_and, Bool.false_eq_true, if_false, List.map_nil, List.append_nil]
        rw [← hgateway]
      rw [hstep]
      constructor
      case said => simp [hgateway]
      case posted => exact fun _ h => absurd h List.not_mem_nil
      case counted => simp [hgateway]
      case answered => simp [hno]
      case stored => exact fun u _ => hstored u
      all_goals rfl
  | true =>
      -- the answer goes to the sender, with the two bytes of the id
      have hstep : s.step node (.packet message aside) =
          ({ s with
            counted := s.counted ++
              [(senderOf message, userIdAt (arrive message aside.behind).data)] },
            [Message.packet ((answer node.nodeId (arrive message aside.behind).data
              aside.stack).sent (sizeofConnPacketModule + 3 + 1))]) := by
        simp only [step, handled, connectionPacketReceivedEventHandler, hread, hmodule, haction,
          hsender, hother, hgateway, triggerMessage, false_and, and_self, if_true, if_false,
          List.map_cons, List.map_nil, List.append_nil]
      have hreceiver : (answer node.nodeId (arrive message aside.behind).data
          aside.stack).header.receiver = senderOf message := hsender
      obtain ⟨hsentComplete, hsentRead⟩ := @reads_sent (answer node.nodeId
        (arrive message aside.behind).data aside.stack) (sizeofConnPacketModule + 3 + 1) _ _ _
        (by decide) rfl rfl rfl (Or.inr rfl)
      obtain ⟨hpost, hmessage⟩ := @posted_sent (answer node.nodeId
        (arrive message aside.behind).data aside.stack) (sizeofConnPacketModule + 3 + 1) _ _ _
        node (by decide) (by decide) rfl (Or.inr rfl) rfl (by rw [hreceiver]; exact hdevice)
      rw [hstep]
      constructor
      case said =>
        rw [hgateway, if_pos rfl, hnews]
        refine readOf_singleton ?_
        rw [hmessage, hsentRead, hreceiver]
        rfl
      case posted =>
        intro packet hpacket
        rw [List.mem_singleton.mp hpacket, hmessage]
        exact ⟨hpost, hsentComplete⟩
      case counted => simp [hgateway, hnews]
      case answered => simp [hno]
      case stored => exact fun u _ => hstored u
      all_goals rfl

/-- Whatever the module can get to look at. -/
theorem looked_step {V : Type*} {start : Net V} {v : V}
    (hids : ∀ v, (start.node v).nodeId.toNat ≤ 19999) {aside : Aside}
    (h : Readable start votingIn CompleteVoting v
      (.packet message aside : Occasion Ballot Aside)) :
    Looked node s message (s.step node (.packet message aside)) := by
  obtain ⟨htravels, hread⟩ := h
  cases hvoting : votingIn (unmarked message) with
  | none => exact looked_none htravels.long htravels.untimed hvoting
  | some packet =>
      have hcomplete := hread.resolve_left (by simp [hvoting])
      have hmay : MayBeVoting (unmarked message) := by
        by_contra hnot
        rw [votingIn, if_neg hnot] at hvoting
        exact absurd hvoting.symm (Option.some_ne_none _)
      rcases hmay.1 with htrigger | hresponse
      · obtain ⟨o, hsender⟩ := htravels.sender
        exact looked_trigger htravels.long htravels.untimed hcomplete
          (typeIn_unmarked.symm.trans htrigger) (hsender ▸ hids o)
      · exact looked_response htravels.long htravels.untimed hcomplete
          (typeIn_unmarked.symm.trans hresponse)

end Look

/-- What has been sent is in the logs. -/
theorem length_step (node : Node) (s : Voter) (occasion : Occasion Ballot Aside) :
    s.asked.length + s.counted.length + (s.step node occasion).2.length ≤
      (s.step node occasion).1.asked.length + (s.step node occasion).1.counted.length := by
  cases occasion with
  | own ballot =>
      obtain ⟨votes, hown⟩ := @own_step node s ballot
      rw [hown.asked, hown.counted, hown.length, List.length_append]
      omega
  | packet message aside =>
      have hone : ∀ data, (connectionPacketReceivedEventHandler node.nodeId s.isGatewayDevice
          s.storage data aside.stack).sent.length = (connectionPacketReceivedEventHandler
            node.nodeId s.isGatewayDevice s.storage data aside.stack).processed.length := by
        intro data
        unfold connectionPacketReceivedEventHandler
        dsimp only
        split_ifs <;> rfl
      simp only [step, handled, List.length_append, List.length_map, hone]
      omega

end Voter

/-! ## What the logs say -/

section Logs

variable {nodeId : NodeId}

@[simp] theorem votesOf_nil : votesOf nodeId [] = [] := rfl

theorem votesOf_append (first second : List (NodeId × U16)) :
    votesOf nodeId (first ++ second) = votesOf nodeId first ++ votesOf nodeId second :=
  List.filterMap_append

theorem votesOf_map (sender : NodeId) (votes : List U16) :
    votesOf nodeId (votes.map (sender, ·)) = if sender = nodeId then votes else [] := by
  unfold votesOf
  rw [List.filterMap_map]
  split_ifs with h
  · exact (List.filterMap_congr fun u _ => if_pos h).trans List.filterMap_some
  · exact List.filterMap_eq_nil_iff.mpr fun u _ => if_neg h

/-- What is seen of one more packet. -/
theorem votes_seen_concat (messageType : MessageType) (messages : List Message)
    (message : Message) :
    (seen votingIn nodeId (messages ++ [message])).filterMap (VotingPacket.voteIf messageType) =
      (seen votingIn nodeId messages).filterMap (VotingPacket.voteIf messageType) ++
        if senderOf message = nodeId then Voter.news messageType message else [] := by
  unfold seen
  rw [List.filterMap_append, List.filterMap_append, List.filterMap_append]
  congr 1
  unfold Voter.news contentFrom
  split_ifs with h
  · cases hvoting : votingIn (unmarked message) with
    | none => simp [h, hvoting]
    | some packet => cases hvote : packet.voteIf messageType <;> simp [h, hvoting, hvote]
  · simp [h]

end Logs

/-- The log of a module agrees with what it has said and seen. -/
structure Tallied {V : Type*} (start : Net V) (gateway : Bool)
    (occasions : List (Occasion Ballot Aside)) (all : List VotingPacket) (s : Voter) : Prop where
  isGatewayDevice : s.isGatewayDevice = gateway
  asked : all.filter (fun packet => packet.messageType = messageTypeModuleTriggerAction) =
    s.asked.map fun u => ⟨messageTypeModuleTriggerAction, nodeIdBroadcast, u⟩
  said : all.filter (fun packet => packet.messageType = messageTypeModuleActionResponse) =
    s.counted.map fun entry => ⟨messageTypeModuleActionResponse, entry.1, entry.2⟩
  counted : ∀ nodeId, votesOf nodeId s.counted =
    if gateway then (seen votingIn nodeId (looked occasions)).filterMap
      (VotingPacket.voteIf messageTypeModuleTriggerAction) else []
  answered : ∀ nodeId, votesOf nodeId s.answered =
    (seen votingIn nodeId (looked occasions)).filterMap
      (VotingPacket.voteIf messageTypeModuleActionResponse)
  senders : ∀ entry ∈ s.counted ++ s.answered, ∃ o, entry.1 = (start.node o).nodeId
  accepted : ∀ u ∈ s.accepted, u ≠ 0 →
    u ∈ s.storage.row ∨ ∃ o, u ∈ votesOf (start.node o).nodeId s.answered

theorem tallied {V : Type*} {start : Net V} {v : V}
    (hids : ∀ v, (start.node v).nodeId.toNat ≤ 19999) (gateway : Bool) (node : Node)
    {occasions : List (Occasion Ballot Aside)}
    (hreadable : ∀ occasion ∈ occasions, Readable start votingIn CompleteVoting v occasion) :
    Tallied start gateway occasions
      (said Voter.step votingIn node (Voter.fresh gateway) occasions)
      (stateAfter Voter.step node (Voter.fresh gateway) occasions) := by
  -- by the last occasion: a ballot of the voter, or a packet that it looks at
  induction occasions using List.reverseRecOn with
  | nil =>
      constructor
      case counted =>
        intro nodeId
        exact (ite_self _).symm
      case senders => exact fun _ h => absurd h List.not_mem_nil
      case accepted => exact fun _ h => absurd h List.not_mem_nil
      all_goals intros; rfl
  | append_singleton occasions occasion ih =>
      have h := ih fun other hother => hreadable other (List.mem_append_left _ hother)
      have hlast := hreadable occasion (List.mem_append_right _ (List.mem_singleton_self _))
      have hother : messageTypeModuleTriggerAction ≠ messageTypeModuleActionResponse := by decide
      rw [said_concat, stateAfter_concat]
      generalize said Voter.step votingIn node (Voter.fresh gateway)
        occasions = all at h ⊢
      generalize stateAfter Voter.step node (Voter.fresh gateway)
        occasions = s at h ⊢
      cases occasion with
      | own ballot =>
          obtain ⟨votes, hown⟩ := @Voter.own_step node s ballot
          constructor
          case isGatewayDevice => exact hown.isGatewayDevice.trans h.isGatewayDevice
          case asked =>
            rw [List.filter_append, h.asked, hown.asked, hown.said, List.map_append]
            congr 1
            exact List.filter_eq_self.mpr fun packet hpacket => by
              obtain ⟨u, -, rfl⟩ := List.mem_map.mp hpacket
              exact decide_eq_true rfl
          case said =>
            rw [List.filter_append, h.said, hown.counted, hown.said]
            refine (congrArg _ (List.filter_eq_nil_iff.mpr fun packet hpacket => ?_)).trans
              (List.append_nil _)
            obtain ⟨u, -, rfl⟩ := List.mem_map.mp hpacket
            simpa using hother
          case counted => exact fun nodeId => by rw [looked_own, hown.counted, h.counted]
          case answered => exact fun nodeId => by rw [looked_own, hown.answered, h.answered]
          case senders =>
            rw [hown.counted, hown.answered]
            exact h.senders
          case accepted =>
            intro u hu hne
            rw [hown.answered]
            rcases hown.accepted u hu hne with hold | hstored
            · exact (h.accepted u hold hne).imp_left fun hrow => hown.kept u hne hrow
            · exact Or.inl hstored
      | packet message aside =>
          have hlooked := @Voter.looked_step node s message V start v hids aside hlast
          obtain ⟨o, hsender⟩ := hlast.1.sender
          constructor
          case isGatewayDevice => exact hlooked.isGatewayDevice.trans h.isGatewayDevice
          case asked =>
            rw [List.filter_append, h.asked, hlooked.asked, hlooked.said]
            refine (congrArg _ (List.filter_eq_nil_iff.mpr fun packet hpacket => ?_)).trans
              (List.append_nil _)
            obtain ⟨u, -, rfl⟩ := List.mem_map.mp hpacket
            simpa using hother.symm
          case said =>
            rw [List.filter_append, h.said, hlooked.counted, hlooked.said, List.map_append,
              List.map_map]
            congr 1
            exact List.filter_eq_self.mpr fun packet hpacket => by
              obtain ⟨u, -, rfl⟩ := List.mem_map.mp hpacket
              exact decide_eq_true rfl
          case counted =>
            intro nodeId
            rw [looked_packet, votes_seen_concat, hlooked.counted, votesOf_append, h.counted,
              votesOf_map, h.isGatewayDevice]
            split_ifs <;> rfl
          case answered =>
            intro nodeId
            rw [looked_packet, votes_seen_concat, hlooked.answered, votesOf_append, h.answered,
              votesOf_map]
          case senders =>
            intro entry hentry
            rw [hlooked.counted, hlooked.answered] at hentry
            simp only [List.mem_append, List.mem_map] at hentry
            rcases hentry with (hold | ⟨u, -, rfl⟩) | (hold | ⟨u, -, rfl⟩)
            · exact h.senders entry (List.mem_append_left _ hold)
            · exact ⟨o, hsender⟩
            · exact h.senders entry (List.mem_append_right _ hold)
            · exact ⟨o, hsender⟩
          -- a vote leaves the storage only with the RESPONSE that names it
          case accepted =>
            intro u hu hne
            rw [hlooked.accepted] at hu
            simp only [hlooked.stored u hne, hlooked.answered, votesOf_append, votesOf_map,
              List.mem_append]
            by_cases hnew : u ∈ Voter.news messageTypeModuleActionResponse message
            · exact Or.inr ⟨o, Or.inr (by rwa [if_pos hsender])⟩
            · rcases h.accepted u hu hne with hrow | ⟨w, hw⟩
              · exact Or.inl ⟨hrow, hnew⟩
              · exact Or.inr ⟨w, Or.inl hw⟩

/-! ## In the mesh -/

section Mesh

variable {V : Type*} [DecidableEq V] [Fintype V] {start : Net V} {isGatewayDevice : V → Bool}
  {incidents : List (Incident V Ballot Aside)} {a : Answering V Voter}

theorem filterMap_voteIf (messageType : MessageType) (packets : List VotingPacket) :
    packets.filterMap (VotingPacket.voteIf messageType) =
      (packets.filter fun packet => packet.messageType = messageType).map (·.userId) := by
  induction packets with
  | nil => rfl
  | cons packet rest ih =>
      by_cases h : packet.messageType = messageType <;>
        simp [VotingPacket.voteIf, h] at ih ⊢ <;> exact ih

/-- The mesh before anything is sent, and the modules before anything has happened. -/
def votingStart (start : Net V) (isGatewayDevice : V → Bool) : Answering V Voter :=
  ⟨⟨start, fun v => Voter.fresh (isGatewayDevice v)⟩, fun _ => 0⟩

omit [DecidableEq V] [Fintype V] in
/-- The packets of the module are packets of the node, and read as what they are. -/
theorem posted_step (hids : ∀ v, (start.node v).nodeId.toNat ≤ 19999) (v : V) (s : Voter)
    (occasion : Occasion Ballot Aside)
    (hreadable : Readable start votingIn CompleteVoting v occasion) :
    ∀ packet ∈ (s.step (start.node v) occasion).2,
      Posted (start.node v) packet ∧ CompleteVoting (unmarked packet.message) := by
  cases occasion with
  | own ballot =>
      obtain ⟨votes, hown⟩ := @Voter.own_step (start.node v) s ballot
      exact hown.posted
  | packet message aside => exact (Voter.looked_step hids hreadable).posted

variable (htree : HandshakenTree start) (hquiet : start.Quiet)
  (hunreceived : ∀ v, start.received v = [])
  (hids : ∀ v, 1 ≤ (start.node v).nodeId.toNat ∧ (start.node v).nodeId.toNat ≤ 19999)
  (hdistinct : ∀ v u, (start.node v).nodeId = (start.node u).nodeId → v = u)
include htree hquiet hunreceived hids hdistinct

/-- The logs of all modules agree with what they have said and seen. -/
theorem tallied_run
    (hrun : Runs.Run (Answering.apply Voter.step) (Answering.Allowed votingIn)
      (votingStart start isGatewayDevice) incidents a) (v : V) :
    ∃ occasions all, Tallied start (isGatewayDevice v) occasions all (a.stations.state v) := by
  have hposted := fun w s occasion hreadable packet hpacket =>
    (posted_step (fun v => (hids v).2) w s occasion hreadable packet hpacket).1
  have hall := fun w s occasion hreadable packet hpacket =>
    (posted_step (fun v => (hids v).2) w s occasion hreadable packet hpacket).2
  obtain ⟨happenings, hstations, -⟩ :=
    happenings_run htree hquiet hunreceived hids hdistinct hposted hall hrun
  obtain ⟨-, hsame⟩ := said_run htree hquiet hunreceived hids hdistinct hposted hall hstations
  rw [(hsame v).2.1]
  exact ⟨_, _, tallied (fun v => (hids v).2) _ _ fun occasion hmem =>
    may_of_mem_ownEvents hstations hmem⟩

/-- What the node `g` has counted of the votes of `v`, and what `v` has heard of it. -/
theorem counted_run
    (hrun : Runs.Run (Answering.apply Voter.step) (Answering.Allowed votingIn)
      (votingStart start isGatewayDevice) incidents a) (v g : V) :
    let counted := votesOf (start.node v).nodeId (a.stations.state g).counted
    let answered := votesOf (start.node g).nodeId (a.stations.state v).answered
    (counted <+: (a.stations.state v).asked ∧ answered <+: counted) ∧
      (a.Settled → (isGatewayDevice g = true → counted = (a.stations.state v).asked) ∧
        answered = counted) := by
  intro counted answered
  have hposted := fun w s occasion hreadable packet hpacket =>
    (posted_step (fun v => (hids v).2) w s occasion hreadable packet hpacket).1
  have hall := fun w s occasion hreadable packet hpacket =>
    (posted_step (fun v => (hids v).2) w s occasion hreadable packet hpacket).2
  obtain ⟨happenings, hstations, -, hlooked⟩ :=
    happenings_run htree hquiet hunreceived hids hdistinct hposted hall hrun
  obtain ⟨-, hsame⟩ := said_run htree hquiet hunreceived hids hdistinct hposted hall hstations
  have htallied : ∀ w, Tallied start (isGatewayDevice w) (ownEvents w happenings)
      (said Voter.step votingIn (start.node w) (Voter.fresh (isGatewayDevice w))
        (ownEvents w happenings)) (a.stations.state w) := by
    intro w
    rw [(hsame w).2.1]
    exact tallied (fun v => (hids v).2) _ _ fun occasion hmem =>
      may_of_mem_ownEvents hstations hmem
  -- what each of the two has seen of the other one
  have hmeant : ∀ w (bytes : List U8) (packet : VotingPacket), votingIn bytes = some packet →
      (start.node w).toUs (receiverIn bytes) = (start.node w).toUs packet.receiver := by
    intro w bytes packet hread
    unfold votingIn at hread
    split_ifs at hread
    rw [← Option.some.inj hread]
  obtain ⟨hcounts, hcountsAll⟩ := seen_said htree hquiet hunreceived hids hdistinct hposted hall
    hstations v g (hlooked g).2 (hmeant g)
  obtain ⟨hanswers, hanswersAll⟩ := seen_said htree hquiet hunreceived hids hdistinct hposted
    hall hstations g v (hlooked v).2 (hmeant v)
  -- the TRIGGERs are for all, the RESPONSEs for their voters
  have hasked : ((said Voter.step votingIn (start.node v) (Voter.fresh (isGatewayDevice v))
      (ownEvents v happenings)).filter fun packet =>
        (start.node g).toUs packet.receiver).filterMap
      (VotingPacket.voteIf messageTypeModuleTriggerAction) = (a.stations.state v).asked := by
    rw [filterMap_voteIf, List.filter_comm, (htallied v).asked]
    have hbroadcast : (start.node g).toUs nodeIdBroadcast = true := decide_eq_true (Or.inr rfl)
    rw [List.filter_eq_self.mpr, List.map_map]
    · exact List.map_id _
    · intro packet hpacket
      obtain ⟨u, -, rfl⟩ := List.mem_map.mp hpacket
      exact hbroadcast
  have hsaid : ((said Voter.step votingIn (start.node g) (Voter.fresh (isGatewayDevice g))
      (ownEvents g happenings)).filter fun packet =>
        (start.node v).toUs packet.receiver).filterMap
      (VotingPacket.voteIf messageTypeModuleActionResponse) = counted := by
    rw [filterMap_voteIf, List.filter_comm, (htallied g).said, List.filter_map, List.map_map]
    show _ = List.filterMap _ _
    rw [← List.filterMap_eq_map, List.filterMap_filter]
    apply List.filterMap_congr
    intro entry hentry
    obtain ⟨o, ho⟩ := (htallied g).senders entry (List.mem_append_left _ hentry)
    have hreceiver : (start.node v).toUs entry.1 =
        decide (entry.1 = (start.node v).nodeId) := by
      have hne : entry.1 ≠ nodeIdBroadcast := ho ▸ (not_broadcast hids o).symm
      simp [Node.toUs, hne]
    simp only [Function.comp_apply, hreceiver, decide_eq_true_eq]
  have hcounted := (htallied g).counted (start.node v).nodeId
  have hanswered := (htallied v).answered (start.node g).nodeId
  refine ⟨⟨?_, ?_⟩, ?_⟩
  · show votesOf _ _ <+: _
    rw [hcounted, ← hasked]
    split_ifs
    · exact hcounts.filterMap _
    · exact List.nil_prefix
  · show votesOf _ _ <+: _
    rw [hanswered, ← hsaid]
    exact hanswers.filterMap _
  · rintro ⟨hnothing, hlooks⟩
    constructor
    · intro hgateway
      show votesOf _ _ = _
      rw [hcounted, ← hasked, if_pos hgateway, hcountsAll hnothing (hlooks g)]
    · show votesOf _ _ = _
      rw [hanswered, ← hsaid, hanswersAll hnothing (hlooks v)]

/-- The next packet is one that the module can get to look at. -/
theorem readable_next
    (hrun : Runs.Run (Answering.apply Voter.step) (Answering.Allowed votingIn)
      (votingStart start isGatewayDevice) incidents a) {v : V} {message : Message}
    (hnext : a.next v = some message) (aside : Aside) :
    Readable start votingIn CompleteVoting v
      (.packet message aside : Occasion Ballot Aside) := by
  have hposted := fun w s occasion hreadable packet hpacket =>
    (posted_step (fun v => (hids v).2) w s occasion hreadable packet hpacket).1
  have hall := fun w s occasion hreadable packet hpacket =>
    (posted_step (fun v => (hids v).2) w s occasion hreadable packet hpacket).2
  obtain ⟨happenings, hstations, -, -⟩ :=
    happenings_run htree hquiet hunreceived hids hdistinct hposted hall hrun
  exact readable_received htree hquiet hunreceived hids hdistinct hposted hall hstations
    (List.mem_of_getElem? hnext)

/-- A vote that is stored waits for the timer, or its TRIGGER is still to be answered. -/
theorem stored_run
    (hrun : Runs.Run (Answering.apply Voter.step) (Answering.Allowed votingIn)
      (votingStart start isGatewayDevice) incidents a) (v g : V) {u : U16} (hne : u ≠ 0)
    (hu : u ∈ (a.stations.state v).storage.row) :
    u ∈ (a.stations.state v).waiting ∨ u ∈ (a.stations.state v).asked.drop
      (votesOf (start.node g).nodeId (a.stations.state v).answered).length := by
  induction hrun with
  | nil =>
      obtain ⟨i, -, hi⟩ := RetryStorage.mem_row.mp hu
      exact absurd hi.symm hne
  | @step middle incidents hrun incident hallowed ih =>
      obtain ⟨⟨hcounted, hanswered⟩, -⟩ :=
        counted_run htree hquiet hunreceived hids hdistinct hrun v g
      obtain ⟨⟨hcounted', hanswered'⟩, -⟩ := counted_run htree hquiet hunreceived hids hdistinct
        (hrun.step incident hallowed) v g
      cases incident with
      | traffic event => exact ih hu
      | own w ballot loopback =>
          by_cases hw : v = w
          · subst hw
            obtain ⟨votes, hown⟩ := @Voter.own_step (middle.stations.net.node v)
              (middle.stations.state v) ballot
            have hstate : (middle.apply Voter.step (.own v ballot loopback)).stations.state v =
                (Voter.step (middle.stations.net.node v) (middle.stations.state v)
                  (.own ballot)).1 := Function.update_self ..
            rw [hstate] at hu ⊢
            have hle := (hanswered.trans hcounted).length_le
            rw [hown.asked, hown.answered, List.drop_append_of_le_length hle]
            rcases hown.stored u hne hu with hvotes | hwaiting | ⟨hold, hmore⟩
            · exact Or.inr (List.mem_append_right _ hvotes)
            · exact Or.inl hwaiting
            · rcases ih hold with hwaiting | houtstanding
              · exact Or.inl (hmore hwaiting)
              · exact Or.inr (List.mem_append_left _ houtstanding)
          · have hstate : (middle.apply Voter.step (.own w ballot loopback)).stations.state v =
                middle.stations.state v := Function.update_of_ne hw ..
            rw [hstate] at hu ⊢
            exact ih hu
      | look w aside loopback =>
          obtain ⟨message, hnext⟩ : ∃ message, middle.next w = some message :=
            ⟨_, List.getElem?_eq_getElem hallowed⟩
          have happly : (middle.apply Voter.step (.look w aside loopback)).stations =
              Stations.apply Voter.step middle.stations
                (.own w (.packet message aside) loopback) := by
            simp only [Answering.apply, hnext]
          rw [happly] at hu hcounted' hanswered' ⊢
          by_cases hw : v = w
          · subst hw
            have hlooked := @Voter.looked_step (middle.stations.net.node v)
              (middle.stations.state v) message V start v (fun v => (hids v).2) aside
              (readable_next htree hquiet hunreceived hids hdistinct hrun hnext aside)
            have hstate : (Stations.apply Voter.step middle.stations
                (.own v (.packet message aside) loopback)).state v =
                (Voter.step (middle.stations.net.node v) (middle.stations.state v)
                  (.packet message aside)).1 := Function.update_self ..
            have hanswers := hanswered'.trans hcounted'
            rw [hstate] at hu hanswers ⊢
            rw [hlooked.waiting, hlooked.asked]
            rw [hlooked.asked] at hanswers
            obtain ⟨hold, hgone⟩ := (hlooked.stored u hne).mp hu
            rw [hlooked.answered, votesOf_append, votesOf_map] at hanswers ⊢
            rcases ih hold with hwaiting | houtstanding
            · exact Or.inl hwaiting
            · right
              -- the votes that are answered now come first among those that were outstanding
              obtain ⟨rest, hrest⟩ := hanswers
              rw [← hrest, List.append_assoc, List.drop_left] at houtstanding
              rw [← hrest, List.drop_left]
              refine (List.mem_append.mp houtstanding).resolve_left fun hnew => ?_
              split_ifs at hnew
              · exact hgone hnew
              · exact absurd hnew List.not_mem_nil
          · have hstate : (Stations.apply Voter.step middle.stations
                (.own w (.packet message aside) loopback)).state v =
                middle.stations.state v := Function.update_of_ne hw ..
            rw [hstate] at hu ⊢
            exact ih hu

/-- A vote that has been taken waits for the timer, or has been sent. -/
theorem accepted_run
    (hrun : Runs.Run (Answering.apply Voter.step) (Answering.Allowed votingIn)
      (votingStart start isGatewayDevice) incidents a) (v : V) {u : U16} (hne : u ≠ 0)
    (hu : u ∈ (a.stations.state v).accepted) :
    u ∈ (a.stations.state v).waiting ∨ u ∈ (a.stations.state v).asked := by
  obtain ⟨occasions, all, htallied⟩ :=
    tallied_run htree hquiet hunreceived hids hdistinct hrun v
  rcases htallied.accepted u hu hne with hrow | ⟨g, hanswered⟩
  · exact (stored_run htree hquiet hunreceived hids hdistinct hrun v v hne hrow).imp_right
      List.mem_of_mem_drop
  · obtain ⟨⟨hcounted, hanswers⟩, -⟩ :=
      counted_run htree hquiet hunreceived hids hdistinct hrun v g
    exact Or.inr (hcounted.subset (hanswers.subset hanswered))

/-- There are no more votes counted than sent. -/
theorem length_counted_le
    (hrun : Runs.Run (Answering.apply Voter.step) (Answering.Allowed votingIn)
      (votingStart start isGatewayDevice) incidents a) (g : V) :
    (a.stations.state g).counted.length ≤ ∑ v, (a.stations.state v).asked.length := by
  obtain ⟨occasions, all, htallied⟩ :=
    tallied_run htree hquiet hunreceived hids hdistinct hrun g
  have hsenders : ∀ log : List (NodeId × U16), (∀ entry ∈ log, ∃ o,
      entry.1 = (start.node o).nodeId) →
      log.length = ∑ v, (votesOf (start.node v).nodeId log).length := by
    intro log
    induction log with
    | nil => exact fun _ => (Finset.sum_const_zero).symm
    | cons entry rest ih =>
        intro hall
        obtain ⟨sender, hsender⟩ := hall entry List.mem_cons_self
        have hone : ∀ v, (votesOf (start.node v).nodeId (entry :: rest)).length =
            (votesOf (start.node v).nodeId rest).length + if v = sender then 1 else 0 := by
          intro v
          unfold votesOf
          by_cases hv : v = sender
          · subst hv
            simp [hsender]
          · have hother : entry.1 ≠ (start.node v).nodeId := fun heq =>
              hv (hdistinct v sender (heq.symm.trans hsender))
            simp [hother, hv]
        simp only [hone, Finset.sum_add_distrib, Finset.sum_ite_eq', Finset.mem_univ, if_true]
        rw [List.length_cons, ih fun other hother => hall other (List.mem_cons_of_mem _ hother)]
  rw [hsenders _ fun entry hentry => htallied.senders entry (List.mem_append_left _ hentry)]
  apply Finset.sum_le_sum
  intro v _
  exact (counted_run htree hquiet hunreceived hids hdistinct hrun v g).1.1.length_le

omit htree hquiet hunreceived hids hdistinct [Fintype V] in
/-- Without anything from outside no votes are cast. -/
theorem work_keeps {a' : Answering V Voter} {more : List (Incident V Ballot Aside)}
    (hmore : Runs.Run (Answering.apply Voter.step) (Answering.Works votingIn) a more a') (v : V) :
    (a'.stations.state v).asked = (a.stations.state v).asked ∧
      (a'.stations.state v).accepted = (a.stations.state v).accepted ∧
      (a'.stations.state v).waiting = (a.stations.state v).waiting := by
  induction hmore with
  | nil => exact ⟨rfl, rfl, rfl⟩
  | @step middle more hmore incident hworks ih =>
      cases incident with
      | own w ballot loopback => exact absurd hworks.2 Bool.false_ne_true
      | traffic event => exact ih
      | look w aside loopback =>
          obtain ⟨message, hnext⟩ : ∃ message, middle.next w = some message :=
            ⟨_, List.getElem?_eq_getElem hworks.1⟩
          have happly : (middle.apply Voter.step (.look w aside loopback)).stations.state =
              Function.update middle.stations.state w (Voter.step (middle.stations.net.node w)
                (middle.stations.state w) (.packet message aside)).1 := by
            simp only [Answering.apply, hnext]
            rfl
          rw [happly]
          by_cases hw : v = w
          · subst hw
            rw [Function.update_self]
            exact ih
          · rw [Function.update_of_ne hw]
            exact ih

end Mesh

/-! ## One vote -/

/-- Nothing behind the packets and on the stack. -/
def blankAside : Aside := ⟨fun _ => 0, ⟨⟨false, 0, 0, 0, 0⟩, 0, 0, 0, List.replicate 10 0⟩⟩

/-- The voter casts a vote, the gateway answers it, and the voter handles the answer. -/
def oneVote {V : Type*} (voter gateway : V) : List (Incident V Ballot Aside) :=
  [.own voter (.vote 7 32768 blankAside.stack) none,
    .look voter blankAside none,
    .traffic (.deliver gateway inConnection fun _ => 0),
    .look gateway blankAside none,
    .traffic (.deliver voter outConnection fun _ => 0),
    .look voter blankAside none]

/-- The second node of a chain is a gateway. -/
def secondGateway {n : ℕ} (v : Fin n) : Bool := v.val = 1

end FruityMesh.Modules
