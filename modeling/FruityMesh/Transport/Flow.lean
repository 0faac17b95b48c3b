import Mathlib.Algebra.BigOperators.Fin
import Mathlib.Algebra.Order.BigOperators.Group.Finset
import FruityMesh.Library.Runs
import FruityMesh.Transport.Edits

/-!
# Flow control

A node with all its connections, and the part of the stack that it sends to: the write requests
that have no response yet, and the write commands that are in no TX_COMPLETE event yet.  The
stack forgets both when a link is lost.  `DisconnectionHandler` of the connection manager calls
back into the node, which queues packets on other connections, before the handler of the lost
connection resets it (`lost`).

`Intact` is what holds of the queues in every run, as long as every packet that is queued has
room for what is written into it.  `Metered` is what holds of the counters in addition if the
peer answers no request with an error and no link is lost with a write command in flight.
-/

namespace FruityMesh.Transport

open Cells PacketQueue Runs

abbrev Slot := Fin meshMaxConnections

namespace Connection

/-- `Connection::Init`, with the number of write commands that the stack takes per link. -/
def init (txBuffersPerLink : U8) (c : Connection) : Connection :=
  { c with
    unreliableBuffersFree := txBuffersPerLink
    reliableBuffersFree := 1
    connectionHandle := bleConnHandleInvalid
    isConnected := false
    writeCharacteristicHandle := 0
    packetReassemblyPosition := 0
    packetSendPosition := 0
    packetSendQueue := c.packetSendQueue.clean }

/-- What `ConnectAsMaster` does to the connection: it sets the handle, and then `Connect`
resets the connection if it is not connected. -/
def connectAsMaster (txBuffersPerLink : U8) (c : Connection) (handle : U16) : Connection :=
  if c.isConnected then { c with writeCharacteristicHandle := handle }
  else { c.init txBuffersPerLink with writeCharacteristicHandle := handle }

/-- `Connection::ConnectionSuccessfulHandler`. -/
def connectionSuccessfulHandler (c : Connection) (handle : U16) : Connection :=
  { c with connectionHandle := handle, isConnected := true }

end Connection

/-- `DisconnectionHandler` up to the callback: the packets of the connection are no longer
pending. -/
def ConnectionManager.disconnectionHandler (cm : ConnectionManager) (i : Slot) :
    ConnectionManager :=
  { cm.setConnection i { cm.connections i with isConnected := false } with
    pendingPackets := cm.pendingPackets - (cm.connections i).packetSendQueue.numElements }

structure Traffic where
  manager : ConnectionManager
  /-- Write requests that have no response yet. -/
  requests : Slot → ℕ
  /-- Write commands that are in no TX_COMPLETE yet. -/
  commands : Slot → ℕ
  /-- The connection whose disconnection is being handled. -/
  lost : Option Slot

inductive TrafficEvent
  | queuePacket (i : Slot) (data : List U8) (reliable : Bool)
  | fillTransmitBuffers (now : Slot → U64)
  | txComplete (now : Slot → U64) (i : Slot) (count : U8)
  | writeRsp (now : Slot → U64) (i : Slot) (gattStatus : U16)
  | connectAsMaster (i : Slot) (writeCharacteristicHandle : U16)
  | connected (i : Slot) (connectionHandle : U16)
  | handleDiscovered (i : Slot) (characteristicHandle : U16)
  | disconnected (i : Slot)
  | connectionReset (i : Slot)

namespace Traffic

/-- What the node does, with the writes it makes handed to the stack. -/
def send (t : Traffic) (result : ConnectionManager × (Slot → List Write)) : Traffic :=
  { t with
    manager := result.1
    requests := fun i => t.requests i + (result.2 i).countP (·.reliable)
    commands := fun i => t.commands i + (result.2 i).countP (!·.reliable) }

def setConnection (t : Traffic) (i : Slot) (c : Connection) : Traffic :=
  { t with manager := t.manager.setConnection i c }

/-- The connection of a slot. -/
abbrev connection (t : Traffic) (i : Slot) : Connection := t.manager.connections i

def apply (txBuffersPerLink : U8) (t : Traffic) : TrafficEvent → Traffic
  | .queuePacket i data reliable =>
      { t with
        manager := (t.manager.queuePacket i data (BitVec.ofNat 16 data.length) reliable).1 }
  | .fillTransmitBuffers now => t.send (t.manager.fillTransmitBuffers now)
  | .txComplete now i count =>
      { t with commands := Function.update t.commands i (t.commands i - count.toNat) }.send
        (t.manager.txComplete now i count)
  | .writeRsp now i gattStatus =>
      { t with requests := Function.update t.requests i (t.requests i - 1) }.send
        (t.manager.writeRsp now i gattStatus)
  | .connectAsMaster i handle =>
      t.setConnection i ((t.connection i).connectAsMaster txBuffersPerLink handle)
  | .connected i handle => t.setConnection i ((t.connection i).connectionSuccessfulHandler handle)
  | .handleDiscovered i handle =>
      t.setConnection i { t.connection i with writeCharacteristicHandle := handle }
  | .disconnected i =>
      { manager := t.manager.disconnectionHandler i
        requests := Function.update t.requests i 0
        commands := Function.update t.commands i 0
        lost := some i }
  | .connectionReset i =>
      { t.setConnection i ((t.connection i).init txBuffersPerLink) with lost := none }

/-- The events that can come.  The stack answers what is under way, each slot has one link at a
time, and while a disconnection is handled there are only the packets that the callback sends,
to other connections. -/
def May (t : Traffic) : TrafficEvent → Prop
  | .queuePacket i _ _ => t.lost ≠ some i
  | .fillTransmitBuffers _ => True
  | .txComplete _ i count =>
      t.lost = none ∧ (t.connection i).isConnected = true ∧ count.toNat ≤ t.commands i
  | .writeRsp _ i _ => t.lost = none ∧ (t.connection i).isConnected = true ∧ 0 < t.requests i
  | .connectAsMaster _ _ => t.lost = none
  | .connected i _ => t.lost = none ∧ (t.connection i).isConnected = false
  | .handleDiscovered i _ => t.lost = none ∧ (t.connection i).isConnected = true
  | .disconnected i => t.lost = none ∧ (t.connection i).isConnected = true
  | .connectionReset i => t.lost = some i

instance (t : Traffic) : (event : TrafficEvent) → Decidable (May t event)
  | .queuePacket _ _ _ => inferInstanceAs (Decidable (_ ≠ _))
  | .fillTransmitBuffers _ => inferInstanceAs (Decidable True)
  | .txComplete _ _ _ => inferInstanceAs (Decidable (_ ∧ _))
  | .writeRsp _ _ _ => inferInstanceAs (Decidable (_ ∧ _))
  | .connectAsMaster _ _ => inferInstanceAs (Decidable (_ = _))
  | .connected _ _ => inferInstanceAs (Decidable (_ ∧ _))
  | .handleDiscovered _ _ => inferInstanceAs (Decidable (_ ∧ _))
  | .disconnected _ => inferInstanceAs (Decidable (_ ∧ _))
  | .connectionReset _ => inferInstanceAs (Decidable (_ = _))

/-- The state after the constructors. -/
structure Initial (txBuffersPerLink : U8) (t : Traffic) : Prop where
  isConnected : ∀ i, (t.connection i).isConnected = false
  queue : ∀ i, ∃ memory,
    (t.connection i).packetSendQueue = .new memory (BitVec.ofNat 16 packetSendBufferSize)
  sendPosition : ∀ i, (t.connection i).packetSendPosition = 0
  reliableBuffersFree : ∀ i, (t.connection i).reliableBuffersFree = 1
  unreliableBuffersFree : ∀ i, (t.connection i).unreliableBuffersFree = txBuffersPerLink
  writeCharacteristicHandle : ∀ i, (t.connection i).writeCharacteristicHandle = 0
  pendingPackets : t.manager.pendingPackets = 0
  requests : ∀ i, t.requests i = 0
  commands : ∀ i, t.commands i = 0
  lost : t.lost = none

/-- A TX_COMPLETE event, before anything is sent. -/
def freed (t : Traffic) (i : Slot) (count : U8) : Traffic :=
  { t with
    manager :=
      { t.manager.setConnection i
          { t.connection i with
            unreliableBuffersFree := (t.connection i).unreliableBuffersFree + count } with
        pendingPackets := t.manager.pendingPackets - count.setWidth 16 }
    commands := Function.update t.commands i (t.commands i - count.toNat) }

/-- A WRITE_RSP event, before anything is sent. -/
def responded (t : Traffic) (i : Slot) (pendingPackets : U16) : Traffic :=
  { t with
    manager :=
      { t.manager.setConnection i (t.connection i).responded with
        pendingPackets := pendingPackets }
    requests := Function.update t.requests i (t.requests i - 1) }

/-! ## The queues -/

variable {t : Traffic} {c : Connection} {requests : ℕ} {xs : List (List U8)} {i : Slot}
  {txBuffersPerLink : U8}

/-- The queue of a connection holds packets that have room for what is written into them, and
there is at most one write request under way. -/
structure IntactSlot (c : Connection) (requests : ℕ) : Prop where
  holding : ∃ xs, Holding c requests xs
  single : c.reliableBuffersFree.toNat + requests ≤ 1
  bufferLength : c.packetSendQueue.bufferLength = BitVec.ofNat 16 packetSendBufferSize
  idle : c.isConnected = false → requests = 0

namespace IntactSlot

/-- Only the queue, the position and the free buffers matter. -/
theorem congr {c' : Connection} (h : IntactSlot c requests)
    (hidle : c'.isConnected = false → requests = 0)
    (hqueue : c'.packetSendQueue = c.packetSendQueue)
    (hposition : c'.packetSendPosition = c.packetSendPosition)
    (hfree : c'.reliableBuffersFree = c.reliableBuffersFree) : IntactSlot c' requests := by
  obtain ⟨xs, hholding⟩ := h.holding
  refine ⟨⟨xs, ?_, hholding.fits, ?_, ?_⟩, ?_, ?_, hidle⟩
  · rw [hqueue]
    exact hholding.queue
  · rw [hposition]
    exact hholding.position
  · rw [hposition]
    exact hholding.header
  · rw [hfree]
    exact h.single
  · rw [hqueue]
    exact h.bufferLength

theorem mono (h : IntactSlot c requests) {requests' : ℕ} (hle : requests' ≤ requests) :
    IntactSlot c requests' := by
  obtain ⟨xs, hholding⟩ := h.holding
  exact ⟨⟨xs, hholding.mono hle⟩, (Nat.add_le_add_left hle _).trans h.single, h.bufferLength,
    fun hidle => Nat.le_zero.mp (hle.trans_eq (h.idle hidle))⟩

theorem fill (h : IntactSlot c requests) (hconnected : c.isConnected = true) (now : U64) :
    IntactSlot (c.fill now).1 (requests + (c.fill now).2.countP (·.reliable)) := by
  obtain ⟨xs, hholding⟩ := h.holding
  obtain ⟨xs', hholding', -, hmakes, -⟩ := hholding.fill now
  have hrequests := hmakes.requests
  have := h.single
  refine ⟨⟨xs', hholding'⟩, by omega, hmakes.bufferLength.trans h.bufferLength, fun hidle => ?_⟩
  rw [hmakes.isConnected, hconnected] at hidle
  exact absurd hidle (by decide)

/-- A queue without packets, nothing under way. -/
theorem of_empty (hqueue : ∃ peeked, Represents c.packetSendQueue peeked [])
    (hposition : c.packetSendPosition = 0) (hfree : c.reliableBuffersFree = 1)
    (hbuffer : c.packetSendQueue.bufferLength = BitVec.ofNat 16 packetSendBufferSize) :
    IntactSlot c 0 := by
  refine ⟨⟨[], hqueue, by simp, .inl ?_, fun hpos => absurd hpos (Nat.lt_irrefl 0)⟩, ?_, hbuffer,
    fun _ => rfl⟩
  · rw [hposition]
    rfl
  · rw [hfree]
    exact le_rfl

theorem init (h : IntactSlot c requests) (txBuffersPerLink : U8) :
    IntactSlot (c.init txBuffersPerLink) 0 := by
  obtain ⟨xs, hholding⟩ := h.holding
  obtain ⟨peeked, hrep⟩ := hholding.queue
  exact of_empty ⟨false, hrep.clean⟩ rfl rfl h.bufferLength

theorem put (h : IntactSlot c requests) {data : List U8} {reliable : Bool}
    (hfits : Fits (element reliable data)) :
    IntactSlot
      { c with packetSendQueue :=
          (c.packetSendQueue.put data (BitVec.ofNat 8 data.length) reliable).1 } requests := by
  obtain ⟨xs, hholding⟩ := h.holding
  obtain ⟨peeked, hrep⟩ := hholding.queue
  have hshort : data.length ≤ 252 := hfits.short
  cases hput : (c.packetSendQueue.put data (BitVec.ofNat 8 data.length) reliable).2 with
  | false =>
      have hsame := put_false hshort hput
      exact h.congr h.idle hsame rfl rfl
  | true =>
      have hposition : PartStart ((xs ++ [element reliable data]).headD []).tail.length
          c.packetSendPosition.toNat := by
        cases xs with
        | nil =>
            rcases hholding.position with hzero | ⟨hlong, -⟩
            · exact .inl hzero
            · exact absurd hlong (by simp)
        | cons x rest => exact hholding.position
      refine ⟨⟨xs ++ [element reliable data], ⟨peeked, hrep.put_true hshort reliable hput⟩, ?_,
        hposition, ?_⟩, h.single, ?_, h.idle⟩
      · intro x hx
        rcases List.mem_append.mp hx with hx | hx
        · exact hholding.fits x hx
        · rw [List.mem_singleton.mp hx]
          exact hfits
      · intro hpos
        obtain ⟨hne, hrequest, hright⟩ := hholding.header hpos
        cases xs with
        | nil => exact absurd rfl hne
        | cons x rest => exact ⟨List.cons_ne_nil _ _, hrequest, hright⟩
      · exact (put_bufferLength c.packetSendQueue hshort reliable).trans h.bufferLength

theorem responded (h : IntactSlot c requests) (hpos : 0 < requests) :
    IntactSlot c.responded (requests - 1) := by
  have hone : requests = 1 := by
    have := h.single
    omega
  subst hone
  obtain ⟨xs, hholding⟩ := h.holding
  obtain ⟨x, rest, xs', -, hholding', -, hcases⟩ := hholding.responded
  have hzero : c.reliableBuffersFree = 0 := by
    have := h.single
    bv_omega
  have hbuffer := (peekQueue_queue c).2.1
  refine ⟨⟨xs', hholding'⟩, ?_, ?_, fun _ => rfl⟩
  · rcases hcases with ⟨-, heq⟩ | ⟨-, heq⟩
    all_goals
      rw [heq]
      show (c.reliableBuffersFree + 1).toNat + (1 - 1) ≤ 1
      rw [hzero]
      decide
  · rcases hcases with ⟨-, heq⟩ | ⟨-, heq⟩
    all_goals
      rw [heq]
      exact hbuffer.trans h.bufferLength

end IntactSlot

/-- All queues are as they should be. -/
structure Intact (t : Traffic) : Prop where
  slot : ∀ i, IntactSlot (t.connection i) (t.requests i)
  lost : ∀ i, t.lost = some i → (t.connection i).isConnected = false

/-- Every packet that is queued has room for what is written into it. -/
def Fitting (_ : Traffic) : TrafficEvent → Prop
  | .queuePacket _ data reliable => Fits (element reliable data)
  | _ => True

theorem fillTransmitBuffers_connected (now : Slot → U64)
    (h : (t.connection i).isConnected = true) :
    (t.manager.fillTransmitBuffers now).1.connections i = ((t.connection i).fill (now i)).1 ∧
      (t.manager.fillTransmitBuffers now).2 i = ((t.connection i).fill (now i)).2 := by
  unfold ConnectionManager.fillTransmitBuffers
  exact ⟨if_pos h, if_pos h⟩

theorem fillTransmitBuffers_other (now : Slot → U64)
    (h : (t.connection i).isConnected = false) :
    (t.manager.fillTransmitBuffers now).1.connections i = t.connection i ∧
      (t.manager.fillTransmitBuffers now).2 i = [] := by
  unfold ConnectionManager.fillTransmitBuffers
  have hne : ¬ (t.connection i).isConnected = true := by simp [h]
  exact ⟨if_neg hne, if_neg hne⟩

/-- The response to a write request, in terms of the connection. -/
theorem writeRsp_eq (cm : ConnectionManager) (now : Slot → U64) (i : Slot)
    (hne : (cm.connections i).packetSendQueue.peekNext.2.data ≠ none) :
    ∃ pendingPackets, cm.writeRsp now i 0 =
        { cm.setConnection i (cm.connections i).responded with
          pendingPackets := pendingPackets }.continueSending now ∧
      ((cm.connections i).responded = (cm.connections i).peekQueue.partSent →
        pendingPackets = cm.pendingPackets) ∧
      ((cm.connections i).responded = (cm.connections i).peekQueue.packetSent →
        pendingPackets = cm.pendingPackets - 1) := by
  obtain ⟨pointer, hpointer⟩ := Option.ne_none_iff_exists'.mp hne
  have hdiffer : (cm.connections i).peekQueue.partSent ≠ (cm.connections i).peekQueue.packetSent := by
    intro heq
    have hnum := congrArg (fun c => c.packetSendQueue.readPointer) heq
    simp only [Connection.partSent, Connection.packetSent, PacketQueue.discardNext] at hnum
    omega
  unfold ConnectionManager.writeRsp Connection.responded
  rw [if_neg (by simp), hpointer]
  dsimp only
  split
  · exact ⟨_, rfl, fun _ => rfl, fun heq => absurd heq hdiffer⟩
  · exact ⟨_, rfl, fun heq => absurd heq.symm hdiffer, fun _ => rfl⟩

namespace Intact

theorem fill (h : Intact t) (now : Slot → U64) :
    Intact (t.send (t.manager.fillTransmitBuffers now)) := by
  have hslot : ∀ i, IntactSlot ((t.manager.fillTransmitBuffers now).1.connections i)
      (t.requests i + ((t.manager.fillTransmitBuffers now).2 i).countP (·.reliable)) ∧
      ((t.manager.fillTransmitBuffers now).1.connections i).isConnected =
        (t.connection i).isConnected := by
    intro i
    cases hconnected : (t.connection i).isConnected with
    | true =>
        obtain ⟨hc, hwrites⟩ := fillTransmitBuffers_connected now hconnected
        obtain ⟨xs, hholding⟩ := (h.slot i).holding
        obtain ⟨-, -, -, hmakes, -⟩ := hholding.fill (now i)
        rw [hc, hwrites]
        exact ⟨(h.slot i).fill hconnected (now i), hmakes.isConnected.trans hconnected⟩
    | false =>
        obtain ⟨hc, hwrites⟩ := fillTransmitBuffers_other now hconnected
        rw [hc, hwrites]
        exact ⟨h.slot i, hconnected⟩
  exact ⟨fun i => (hslot i).1, fun i hi => (hslot i).2.trans (h.lost i hi)⟩

theorem continueSending (h : Intact t) (now : Slot → U64) :
    Intact (t.send (t.manager.continueSending now)) := by
  unfold ConnectionManager.continueSending
  split
  · exact h.fill now
  · exact h

/-- One connection is replaced, and some of its requests answered or forgotten. -/
theorem update (h : Intact t) {t' : Traffic} {c : Connection} {requests : ℕ}
    (hconnections : t'.manager.connections = Function.update t.manager.connections i c)
    (hrequests : t'.requests = Function.update t.requests i requests)
    (hlost : ∀ k, t'.lost = some k →
      k = i ∧ c.isConnected = false ∨ k ≠ i ∧ t.lost = some k)
    (hslot : IntactSlot c requests) : Intact t' := by
  have hsame : t'.connection i = c := by
    rw [connection, hconnections, Function.update_self]
  have hother : ∀ k, k ≠ i → t'.connection k = t.connection k := by
    intro k hk
    rw [connection, hconnections, Function.update_of_ne hk]
  refine ⟨fun k => ?_, fun k hk => ?_⟩
  · by_cases hki : k = i
    · subst hki
      rw [hsame, hrequests, Function.update_self]
      exact hslot
    · rw [hother k hki, hrequests, Function.update_of_ne hki]
      exact h.slot k
  · rcases hlost k hk with ⟨rfl, hidle⟩ | ⟨hki, hold⟩
    · rw [hsame]
      exact hidle
    · rw [hother k hki]
      exact h.lost k hold

/-- The same while no disconnection is handled. -/
theorem update_settled (h : Intact t) {t' : Traffic} {c : Connection} {requests : ℕ}
    (hnone : t'.lost = none)
    (hconnections : t'.manager.connections = Function.update t.manager.connections i c)
    (hrequests : t'.requests = Function.update t.requests i requests)
    (hslot : IntactSlot c requests) : Intact t' :=
  h.update hconnections hrequests
    (fun _ hk => absurd (hnone.symm.trans hk) (Option.some_ne_none _).symm) hslot

theorem freed (h : Intact t) (hnone : t.lost = none) {count : U8} : Intact (t.freed i count) :=
  h.update_settled hnone rfl (Function.update_eq_self i t.requests).symm
    ((h.slot i).congr (h.slot i).idle rfl rfl rfl)

theorem responded (h : Intact t) (hnone : t.lost = none) (hpos : 0 < t.requests i)
    (pendingPackets : U16) : Intact (t.responded i pendingPackets) :=
  h.update_settled hnone rfl rfl ((h.slot i).responded hpos)

/-- The response to a write request: the connection moves on, and then there is the loop. -/
theorem apply_writeRsp (h : Intact t) (now : Slot → U64) (hpos : 0 < t.requests i) :
    ∃ pendingPackets,
      apply txBuffersPerLink t (.writeRsp now i 0) =
        (t.responded i pendingPackets).send
          ((t.responded i pendingPackets).manager.continueSending now) ∧
      ((t.connection i).responded = (t.connection i).peekQueue.partSent →
        pendingPackets = t.manager.pendingPackets) ∧
      ((t.connection i).responded = (t.connection i).peekQueue.packetSent →
        pendingPackets = t.manager.pendingPackets - 1) := by
  obtain ⟨xs, hholding⟩ := (h.slot i).holding
  obtain ⟨x, rest, rfl⟩ := List.exists_cons_of_ne_nil (hholding.header hpos).1
  obtain ⟨pendingPackets, heq, hcases⟩ := writeRsp_eq t.manager now i
    (by rw [hholding.peek.2]; exact Option.some_ne_none _)
  refine ⟨pendingPackets, ?_, hcases⟩
  simp only [apply, heq]
  rfl

theorem step (h : Intact t) {event : TrafficEvent} (hmay : May t event)
    (hfitting : Fitting t event) : Intact (apply txBuffersPerLink t event) := by
  have hkeep : ∀ i, t.requests = Function.update t.requests i (t.requests i) :=
    fun i => (Function.update_eq_self i t.requests).symm
  cases event with
  | queuePacket i data reliable =>
      simp only [apply, ConnectionManager.queuePacket_eq]
      refine h.update rfl (hkeep i) (fun k hk => .inr ⟨?_, hk⟩) ((h.slot i).put hfitting)
      rintro rfl
      exact hmay hk
  | fillTransmitBuffers now => exact h.fill now
  | txComplete now i count => exact (h.freed hmay.1).continueSending now
  | writeRsp now i gattStatus =>
      obtain ⟨hnone, -, hpos⟩ := hmay
      by_cases hstatus : gattStatus = 0
      · subst hstatus
        obtain ⟨pendingPackets, heq, -⟩ := h.apply_writeRsp now hpos
        rw [heq]
        exact (h.responded hnone hpos pendingPackets).continueSending now
      · -- the response is not looked at
        simp only [apply, ConnectionManager.writeRsp, if_pos hstatus]
        exact h.update_settled hnone (Function.update_eq_self i _).symm rfl
          ((h.slot i).mono (Nat.sub_le _ _))
  | connectAsMaster i handle =>
      refine h.update_settled hmay rfl (hkeep i) ?_
      unfold Connection.connectAsMaster
      split
      · exact (h.slot i).congr (h.slot i).idle rfl rfl rfl
      · rename_i hidle
        rw [(h.slot i).idle (Bool.eq_false_of_not_eq_true hidle)]
        exact ((h.slot i).init txBuffersPerLink).congr (fun _ => rfl) rfl rfl rfl
  | connected i handle =>
      refine h.update_settled hmay.1 rfl (hkeep i) ((h.slot i).congr (fun hfalse => ?_) rfl rfl rfl)
      exact absurd hfalse (by simp [Connection.connectionSuccessfulHandler])
  | handleDiscovered i handle =>
      exact h.update_settled hmay.1 rfl (hkeep i) ((h.slot i).congr (h.slot i).idle rfl rfl rfl)
  | disconnected i =>
      refine h.update rfl rfl (fun k hk => .inl ⟨(Option.some.inj hk).symm, rfl⟩) ?_
      exact ((h.slot i).mono (Nat.zero_le _)).congr (fun _ => rfl) rfl rfl rfl
  | connectionReset i =>
      have hidle := (h.slot i).idle (h.lost i hmay)
      refine h.update_settled rfl rfl (hkeep i) ?_
      rw [hidle]
      exact (h.slot i).init txBuffersPerLink

theorem run {events : List TrafficEvent} {t' : Traffic}
    (hrun : Run (apply txBuffersPerLink) (fun t event => May t event ∧ Fitting t event) t events t')
    (h : Intact t) : Intact t' :=
  hrun.preserves (fun _ _ h hok => h.step hok.1 hok.2) h

end Intact

theorem Initial.intact (h : Initial txBuffersPerLink t) : Intact t where
  slot := by
    intro i
    obtain ⟨memory, hqueue⟩ := h.queue i
    rw [h.requests i]
    refine .of_empty ⟨false, ?_⟩ (h.sendPosition i) (h.reliableBuffersFree i) ?_
    · rw [hqueue]
      exact represents_new memory (by decide)
    · rw [hqueue]
      rfl
  lost := fun i hi => absurd (h.lost.symm.trans hi) (Option.some_ne_none _).symm

instance (t : Traffic) : (event : TrafficEvent) → Decidable (Fitting t event)
  | .queuePacket _ data reliable => inferInstanceAs (Decidable (Fits (element reliable data)))
  | .fillTransmitBuffers _ => inferInstanceAs (Decidable True)
  | .txComplete _ _ _ => inferInstanceAs (Decidable True)
  | .writeRsp _ _ _ => inferInstanceAs (Decidable True)
  | .connectAsMaster _ _ => inferInstanceAs (Decidable True)
  | .connected _ _ => inferInstanceAs (Decidable True)
  | .handleDiscovered _ _ => inferInstanceAs (Decidable True)
  | .disconnected _ => inferInstanceAs (Decidable True)
  | .connectionReset _ => inferInstanceAs (Decidable True)

/-- **Writes into the send queue.**  In every run in which every packet that is queued has room
for what is written into it, a call of `fillTransmitBuffers` writes into the packet in front
only, and so does the handling of a WRITE_RSP: what stands behind keeps its bytes. -/
theorem edits_in_head {start : Traffic} {events : List TrafficEvent}
    (hstart : Initial txBuffersPerLink start)
    (hrun : Run (apply txBuffersPerLink) (fun t event => May t event ∧ Fitting t event)
      start events t) (i : Slot) (now : U64) :
    InPlace now (t.connection i) ∧
      (0 < t.requests i → InPlace now (t.connection i).responded ∧
        (t.connection i).responded.packetSendQueue.memory.stores =
          (t.connection i).packetSendQueue.memory.stores ∧
        Left (t.connection i).packetSendQueue.contents
          (t.connection i).responded.packetSendQueue.contents) := by
  have h := hstart.intact.run hrun
  obtain ⟨xs, hholding⟩ := (h.slot i).holding
  refine ⟨hholding.inPlace now, fun hpos => ?_⟩
  have hone : t.requests i = 1 := by
    have := (h.slot i).single
    omega
  rw [hone] at hholding
  obtain ⟨x, rest, xs', rfl, hresponded, hstores, hcases⟩ := hholding.responded
  refine ⟨hresponded.inPlace now, hstores, ?_⟩
  rw [hholding.contents_eq, hresponded.contents_eq]
  rcases hcases with ⟨rfl, -⟩ | ⟨rfl, -⟩
  · exact .refl _
  · exact .drop (x :: xs') 1

/-- A node that has just been started, with memory of zeros. -/
def fresh : Traffic where
  manager :=
    { connections := fun _ =>
        { isConnected := false
          connectionHandle := bleConnHandleInvalid
          writeCharacteristicHandle := 0
          unreliableBuffersFree := 7
          reliableBuffersFree := 1
          packetSendQueue := .new (fun _ => 0) (BitVec.ofNat 16 packetSendBufferSize)
          packetSendPosition := 0
          packetReassemblyBuffer := ⟨fun _ => 0, [], []⟩
          packetReassemblyPosition := 0 }
      pendingPackets := 0 }
  requests := fun _ => 0
  commands := fun _ => 0
  lost := none

theorem fresh_initial : Initial 7 fresh where
  isConnected := fun _ => rfl
  queue := fun _ => ⟨_, rfl⟩
  sendPosition := fun _ => rfl
  reliableBuffersFree := fun _ => rfl
  unreliableBuffersFree := fun _ => rfl
  writeCharacteristicHandle := fun _ => rfl
  pendingPackets := rfl
  requests := fun _ => rfl
  commands := fun _ => rfl
  lost := rfl

/-- A timestamp packet of `length` bytes and a packet behind it. -/
def timestampFirst (length : ℕ) : List TrafficEvent :=
  [.connected inConnection 5, .handleDiscovered inConnection 14,
    .queuePacket inConnection
      (firstByte false messageTypeUpdateTimestamp :: List.replicate (length - 1) 0) true,
    .queuePacket inConnection [182, 7, 7] true]

theorem edits_in_head_fifteen :
    InPlace 0 (((timestampFirst 15).foldl (apply 7) fresh).connection inConnection) :=
  (edits_in_head fresh_initial (Run.of_replays (by decide)) inConnection 0).1

/-- With the 14 bytes that the node sends, the last byte of the time is written over the length
of the packet behind. -/
theorem edits_beyond_head : ¬ ∀ (events : List TrafficEvent) (t : Traffic),
    Run (apply 7) May fresh events t → ∀ i now, InPlace now (t.connection i) := by
  intro h
  have hplace := h (timestampFirst 14) _ (Run.of_replays (by decide)) inConnection 0
  exact absurd (hplace.contents.tail_eq (by decide +kernel)) (by decide +kernel)

/-! ## The counters -/

/-- The counters of a connection and what the stack has of it. -/
structure Meter (txBuffersPerLink : U8) (c : Connection) (requests commands : ℕ) : Prop where
  reliable : c.reliableBuffersFree.toNat + requests = 1
  unreliable : c.unreliableBuffersFree.toNat + commands = txBuffersPerLink.toNat
  usable : c.isConnected = true → c.connectionHandle ≠ bleErrorInvalidConnHandle
  characteristic : c.writeCharacteristicHandle ≠ bleErrorInvalidAttrHandle
  idle : c.isConnected = false → commands = 0

/-- What a connection adds to the packets that are pending. -/
def load (t : Traffic) (i : Slot) : ℕ :=
  if t.lost = some i then 0
  else (t.connection i).packetSendQueue.numElements.toNat + t.commands i

structure Metered (txBuffersPerLink : U8) (t : Traffic) : Prop where
  meter : ∀ i, t.lost ≠ some i →
    Meter txBuffersPerLink (t.connection i) (t.requests i) (t.commands i)
  lost : ∀ i, t.lost = some i → t.requests i = 0 ∧ t.commands i = 0
  pending : t.manager.pendingPackets.toNat = ∑ i, t.load i

/-- The steps on which the counters are kept: every packet has room for what is written into it,
handles are valid, a connection is set up with an empty queue, no request is answered with an
error, and no link is lost with a write command in flight. -/
def Conserving (t : Traffic) : TrafficEvent → Prop
  | .queuePacket _ data reliable => Fits (element reliable data)
  | .writeRsp _ _ gattStatus => gattStatus = 0
  | .connectAsMaster i handle =>
      handle ≠ bleErrorInvalidAttrHandle ∧
        ((t.connection i).isConnected = false →
          (t.connection i).packetSendQueue.numElements = 0)
  | .connected _ handle => handle ≠ bleErrorInvalidConnHandle
  | .handleDiscovered _ handle => handle ≠ bleErrorInvalidAttrHandle
  | .disconnected i => t.commands i = 0
  | _ => True

theorem Conserving.fitting {event : TrafficEvent} (h : Conserving t event) : Fitting t event := by
  cases event with
  | queuePacket i data reliable => exact h
  | _ => trivial

/-- A sum that changes at one index. -/
theorem sum_add_eq {f g : Slot → ℕ} (i : Slot) (h : ∀ k, k ≠ i → f k = g k) :
    ∑ k, f k + g i = ∑ k, g k + f i := by
  have hrest : ∑ k ∈ Finset.univ.erase i, f k = ∑ k ∈ Finset.univ.erase i, g k :=
    Finset.sum_congr rfl fun k hk => h k (Finset.ne_of_mem_erase hk)
  calc
    ∑ k, f k + g i = f i + ∑ k ∈ Finset.univ.erase i, f k + g i := by
      rw [Finset.add_sum_erase _ f (Finset.mem_univ i)]
    _ = g i + ∑ k ∈ Finset.univ.erase i, g k + f i := by rw [hrest]; omega
    _ = ∑ k, g k + f i := by rw [Finset.add_sum_erase _ g (Finset.mem_univ i)]

/-- A queue of 600 bytes has less than 600 elements. -/
theorem IntactSlot.numElements_le (h : IntactSlot c requests) :
    c.packetSendQueue.numElements.toNat ≤ packetSendBufferSize := by
  obtain ⟨xs, hholding⟩ := h.holding
  obtain ⟨peeked, hrep⟩ := hholding.queue
  have hfit := hrep.layout.run_length_le
  have hle : xs.length ≤ (RecordRing.run record xs).length :=
    RecordRing.length_le_run fun x _ => by simp
  have hend : c.packetSendQueue.bufferEnd = packetSendBufferSize := by
    rw [bufferEnd, h.bufferLength]
    rfl
  rw [hrep.count]
  omega

namespace Metered

theorem load_le (h : Metered txBuffersPerLink t) (hintact : Intact t) (i : Slot) :
    t.load i ≤ packetSendBufferSize + 255 := by
  unfold load
  split
  · omega
  · rename_i hi
    have hnum := (hintact.slot i).numElements_le
    have hcommands := (h.meter i hi).unreliable
    have := txBuffersPerLink.isLt
    omega

/-- The number of pending packets does not come near the end of its range. -/
theorem sum_load_le (h : Metered txBuffersPerLink t) (hintact : Intact t) :
    ∑ i, t.load i ≤ 3420 := by
  calc
    ∑ i, t.load i ≤ ∑ _ : Slot, (packetSendBufferSize + 255) :=
      Finset.sum_le_sum fun i _ => h.load_le hintact i
    _ = 3420 := by
      rw [Finset.sum_const, Finset.card_univ, Fintype.card_fin]
      rfl

theorem load_le_sum (i : Slot) : t.load i ≤ ∑ k, t.load k :=
  Finset.single_le_sum (fun k _ => Nat.zero_le (t.load k)) (Finset.mem_univ i)

/-- One connection is replaced, and the number of pending packets changes as its load does. -/
theorem update (h : Metered txBuffersPerLink t) {t' : Traffic} {c : Connection}
    {requests commands : ℕ} (hi : t.lost ≠ some i) (hlost : t'.lost = t.lost)
    (hconnections : t'.manager.connections = Function.update t.manager.connections i c)
    (hrequests : t'.requests = Function.update t.requests i requests)
    (hcommands : t'.commands = Function.update t.commands i commands)
    (hmeter : Meter txBuffersPerLink c requests commands)
    (hpending : t'.manager.pendingPackets.toNat +
        ((t.connection i).packetSendQueue.numElements.toNat + t.commands i) =
      t.manager.pendingPackets.toNat + (c.packetSendQueue.numElements.toNat + commands)) :
    Metered txBuffersPerLink t' := by
  have hother : ∀ k, k ≠ i → t'.connection k = t.connection k ∧ t'.requests k = t.requests k ∧
      t'.commands k = t.commands k := by
    intro k hk
    rw [connection, hconnections, hrequests, hcommands, Function.update_of_ne hk,
      Function.update_of_ne hk, Function.update_of_ne hk]
    exact ⟨rfl, rfl, rfl⟩
  have hload : t.load i = (t.connection i).packetSendQueue.numElements.toNat + t.commands i :=
    if_neg hi
  have hload' : t'.load i = c.packetSendQueue.numElements.toNat + commands := by
    rw [load, hlost, if_neg hi, connection, hconnections, hcommands, Function.update_self,
      Function.update_self]
  -- the sum changes by what the one connection contributes
  have hsum : ∑ k, t'.load k + t.load i = ∑ k, t.load k + t'.load i := by
    refine sum_add_eq i fun k hk => ?_
    obtain ⟨hc, -, hk'⟩ := hother k hk
    rw [load, load, hlost, hc, hk']
  refine ⟨fun k hk => ?_, fun k hk => ?_, ?_⟩
  · by_cases hki : k = i
    · subst hki
      rw [connection, hconnections, hrequests, hcommands, Function.update_self,
        Function.update_self, Function.update_self]
      exact hmeter
    · obtain ⟨hc, hr, hk'⟩ := hother k hki
      rw [hc, hr, hk']
      exact h.meter k (hlost ▸ hk)
  · rw [hlost] at hk
    obtain ⟨-, hr, hk'⟩ := hother k (fun hki => hi (hki ▸ hk))
    rw [hr, hk']
    exact h.lost k hk
  · have := h.pending
    omega

theorem fill (h : Metered txBuffersPerLink t) (hintact : Intact t) (now : Slot → U64) :
    Metered txBuffersPerLink (t.send (t.manager.fillTransmitBuffers now)) := by
  -- what leaves a queue as a write command is in flight afterwards, so no load changes
  have hslot : ∀ i, t.lost ≠ some i →
      Meter txBuffersPerLink ((t.manager.fillTransmitBuffers now).1.connections i)
        (t.requests i + ((t.manager.fillTransmitBuffers now).2 i).countP (·.reliable))
        (t.commands i + ((t.manager.fillTransmitBuffers now).2 i).countP (!·.reliable)) ∧
      ((t.manager.fillTransmitBuffers now).1.connections i).packetSendQueue.numElements.toNat +
        (t.commands i + ((t.manager.fillTransmitBuffers now).2 i).countP (!·.reliable)) =
      (t.connection i).packetSendQueue.numElements.toNat + t.commands i := by
    intro i hi
    have hmeter := h.meter i hi
    cases hconnected : (t.connection i).isConnected with
    | true =>
        obtain ⟨hc, hwrites⟩ := fillTransmitBuffers_connected now hconnected
        obtain ⟨xs, hholding⟩ := (hintact.slot i).holding
        obtain ⟨-, -, -, hmakes, hspends⟩ := hholding.fill (now i)
        have hspends := hspends ⟨hconnected, hmeter.usable hconnected, hmeter.characteristic⟩
        obtain ⟨-, husable, hcharacteristic⟩ :=
          hspends.usable ⟨hconnected, hmeter.usable hconnected, hmeter.characteristic⟩
        have hreliable := hmeter.reliable
        have hunreliable := hmeter.unreliable
        have hrequests := hspends.requests
        have hcommands := hspends.commands
        have helements := hspends.elements
        rw [hc, hwrites]
        refine ⟨⟨by omega, by omega, fun _ => husable, hcharacteristic, fun hfalse => ?_⟩, by omega⟩
        exact absurd hfalse (ne_false_of_eq_true (hmakes.isConnected.trans hconnected))
    | false =>
        obtain ⟨hc, hwrites⟩ := fillTransmitBuffers_other now hconnected
        rw [hc, hwrites]
        exact ⟨hmeter, rfl⟩
  refine ⟨fun i hi => (hslot i hi).1, fun i hi => ?_, ?_⟩
  · obtain ⟨-, hwrites⟩ := fillTransmitBuffers_other now (hintact.lost i hi)
    simp only [send, hwrites]
    exact h.lost i hi
  · refine h.pending.trans (Finset.sum_congr rfl fun i _ => ?_)
    unfold load
    by_cases hi : t.lost = some i
    · rw [if_pos hi, if_pos (show (t.send _).lost = some i from hi)]
    · rw [if_neg hi, if_neg (show ¬ (t.send _).lost = some i from hi)]
      exact (hslot i hi).2.symm

theorem continueSending (h : Metered txBuffersPerLink t) (hintact : Intact t)
    (now : Slot → U64) : Metered txBuffersPerLink (t.send (t.manager.continueSending now)) := by
  unfold ConnectionManager.continueSending
  split
  · exact h.fill hintact now
  · exact h

/-- A packet that is put into a queue is pending. -/
theorem queuePacket (h : Metered txBuffersPerLink t) (hintact : Intact t) (hi : t.lost ≠ some i)
    {data : List U8} {reliable : Bool} (hfits : Fits (element reliable data)) :
    Metered txBuffersPerLink (apply txBuffersPerLink t (.queuePacket i data reliable)) := by
  have hmeter := h.meter i hi
  have hsum := h.sum_load_le hintact
  have hpending := h.pending
  have hshort : data.length ≤ 252 := hfits.short
  simp only [apply, ConnectionManager.queuePacket_eq]
  refine h.update hi rfl rfl (Function.update_eq_self i t.requests).symm
    (Function.update_eq_self i t.commands).symm
    ⟨hmeter.reliable, hmeter.unreliable, hmeter.usable, hmeter.characteristic, hmeter.idle⟩ ?_
  dsimp only
  -- a packet that the queue refuses is not counted either
  cases hput : ((t.connection i).packetSendQueue.put data (BitVec.ofNat 8 data.length)
      reliable).2 with
  | false =>
      rw [put_false hshort hput, if_neg (by decide)]
  | true =>
      obtain ⟨xs, hholding⟩ := (hintact.slot i).holding
      obtain ⟨peeked, hrep⟩ := hholding.queue
      have hone : (t.manager.pendingPackets + 1).toNat = t.manager.pendingPackets.toNat + 1 := by
        bv_omega
      rw [if_pos rfl, hone, (hrep.put_true hshort reliable hput).count, hrep.count,
        List.length_append, List.length_singleton]
      omega

theorem freed (h : Metered txBuffersPerLink t) (hintact : Intact t) {count : U8}
    (hnone : t.lost = none) (hconnected : (t.connection i).isConnected = true)
    (hcount : count.toNat ≤ t.commands i) : Metered txBuffersPerLink (t.freed i count) := by
  have hi : t.lost ≠ some i := by simp [hnone]
  have hmeter := h.meter i hi
  have hload : t.commands i ≤ t.load i := by
    rw [load, if_neg hi]
    exact Nat.le_add_left _ _
  have hle := load_le_sum (t := t) i
  have hsum := h.sum_load_le hintact
  have hpending := h.pending
  have hunreliable := hmeter.unreliable
  have hbuffers := txBuffersPerLink.isLt
  have hfree : ((t.connection i).unreliableBuffersFree + count).toNat =
      (t.connection i).unreliableBuffersFree.toNat + count.toNat := by bv_omega
  have hless : (t.manager.pendingPackets - count.setWidth 16).toNat =
      t.manager.pendingPackets.toNat - count.toNat := by bv_omega
  refine h.update hi rfl rfl (Function.update_eq_self i t.requests).symm rfl
    ⟨hmeter.reliable, ?_, hmeter.usable, hmeter.characteristic, fun hfalse => ?_⟩ ?_
  · show ((t.connection i).unreliableBuffersFree + count).toNat + _ = _
    omega
  · exact absurd hfalse (ne_false_of_eq_true hconnected)
  · show (t.manager.pendingPackets - count.setWidth 16).toNat + _ = _
    rw [hless]
    dsimp only
    omega

theorem responded (h : Metered txBuffersPerLink t) (hintact : Intact t) (hnone : t.lost = none)
    (hconnected : (t.connection i).isConnected = true) (hpos : 0 < t.requests i)
    {pendingPackets : U16}
    (hpart : (t.connection i).responded = (t.connection i).peekQueue.partSent →
      pendingPackets = t.manager.pendingPackets)
    (hpacket : (t.connection i).responded = (t.connection i).peekQueue.packetSent →
      pendingPackets = t.manager.pendingPackets - 1) :
    Metered txBuffersPerLink (t.responded i pendingPackets) := by
  have hi : t.lost ≠ some i := by simp [hnone]
  have hmeter := h.meter i hi
  obtain ⟨xs, hholding⟩ := (hintact.slot i).holding
  have hone : t.requests i = 1 := by
    have := (hintact.slot i).single
    omega
  rw [hone] at hholding
  have hfree : ((t.connection i).reliableBuffersFree + 1).toNat = 1 := by
    have := hmeter.reliable
    bv_omega
  have hnum := (peekQueue_queue (t.connection i)).1
  obtain ⟨x, rest, xs', hxs, -, -, hcases⟩ := hholding.responded
  subst hxs
  have hidle : (t.connection i).isConnected = false → t.commands i = 0 :=
    fun hfalse => absurd hfalse (ne_false_of_eq_true hconnected)
  rcases hcases with ⟨-, heq⟩ | ⟨-, heq⟩
  · -- a part of the packet is transmitted: the packet is still pending
    refine h.update hi rfl rfl rfl (Function.update_eq_self i t.commands).symm ?_ ?_
    · rw [heq, hone]
      exact ⟨hfree, hmeter.unreliable, hmeter.usable, hmeter.characteristic, hidle⟩
    · show pendingPackets.toNat + _ = _
      rw [hpart heq, heq]
      show _ = _ + ((t.connection i).peekQueue.packetSendQueue.numElements.toNat + t.commands i)
      rw [hnum]
  -- the whole packet is transmitted: it leaves the queue and is pending no more
  · have hload : (t.connection i).packetSendQueue.numElements.toNat ≤ t.load i := by
      rw [load, if_neg hi]
      exact Nat.le_add_right _ _
    have hle := load_le_sum (t := t) i
    have hpending := h.pending
    have hlength := hholding.numElements
    rw [List.length_cons] at hlength
    have hless : (t.manager.pendingPackets - 1).toNat + 1 = t.manager.pendingPackets.toNat := by
      bv_omega
    have hdiscard : ((t.connection i).packetSendQueue.numElements - 1).toNat + 1 =
        (t.connection i).packetSendQueue.numElements.toNat := by
      bv_omega
    refine h.update hi rfl rfl rfl (Function.update_eq_self i t.commands).symm ?_ ?_
    · rw [heq, hone]
      exact ⟨hfree, hmeter.unreliable, hmeter.usable, hmeter.characteristic, hidle⟩
    · show pendingPackets.toNat + _ = _
      rw [hpacket heq, heq]
      show _ = _ + (((t.connection i).peekQueue.packetSendQueue.numElements - 1).toNat +
        t.commands i)
      rw [hnum]
      omega

theorem connectAsMaster (h : Metered txBuffersPerLink t) (hintact : Intact t)
    (hnone : t.lost = none) {handle : U16} (hhandle : handle ≠ bleErrorInvalidAttrHandle)
    (hempty : (t.connection i).isConnected = false →
      (t.connection i).packetSendQueue.numElements = 0) :
    Metered txBuffersPerLink (apply txBuffersPerLink t (.connectAsMaster i handle)) := by
  have hi : t.lost ≠ some i := by simp [hnone]
  have hmeter := h.meter i hi
  refine h.update hi rfl rfl (Function.update_eq_self i t.requests).symm
    (Function.update_eq_self i t.commands).symm
    ?_ ?_
  · unfold Connection.connectAsMaster
    split
    · exact ⟨hmeter.reliable, hmeter.unreliable, hmeter.usable, hhandle, hmeter.idle⟩
    · rename_i hidle
      have hfalse := Bool.eq_false_of_not_eq_true hidle
      rw [(hintact.slot i).idle hfalse, hmeter.idle hfalse]
      exact ⟨rfl, Nat.add_zero _, fun htrue => absurd htrue (by simp [Connection.init]), hhandle,
        fun _ => rfl⟩
  · unfold Connection.connectAsMaster
    split
    · rfl
    · rename_i hidle
      rw [hempty (Bool.eq_false_of_not_eq_true hidle)]
      rfl

theorem disconnected (h : Metered txBuffersPerLink t) (hnone : t.lost = none)
    (hcommands : t.commands i = 0) :
    Metered txBuffersPerLink (apply txBuffersPerLink t (.disconnected i)) := by
  have hi : t.lost ≠ some i := by simp [hnone]
  have hload : t.load i = (t.connection i).packetSendQueue.numElements.toNat := by
    rw [load, if_neg hi, hcommands, Nat.add_zero]
  have hsum : ∑ k, (apply txBuffersPerLink t (.disconnected i)).load k + t.load i =
      ∑ k, t.load k + (apply txBuffersPerLink t (.disconnected i)).load i := by
    refine sum_add_eq i fun k hk => ?_
    have hk' : ¬ (some i : Option Slot) = some k := fun heq => hk (Option.some.inj heq).symm
    simp only [load, apply, connection, ConnectionManager.disconnectionHandler,
      ConnectionManager.setConnection, Function.update_of_ne hk, hnone, if_neg hk',
      if_neg (show ¬ (none : Option Slot) = some k by simp)]
  -- the packets of its queue are not pending any more; no command is in flight, by `hcommands`
  have hzero : (apply txBuffersPerLink t (.disconnected i)).load i = 0 := if_pos rfl
  refine ⟨fun k hk => ?_, fun k hk => ?_, ?_⟩
  · have hki : k ≠ i := fun heq => hk (congrArg some heq.symm)
    simp only [apply, connection, ConnectionManager.disconnectionHandler,
      ConnectionManager.setConnection, Function.update_of_ne hki]
    exact h.meter k (by simp [hnone])
  · obtain rfl : i = k := Option.some.inj hk
    exact ⟨Function.update_self _ _ _, Function.update_self _ _ _⟩
  · have hle := load_le_sum (t := t) i
    have hpending := h.pending
    have hless : (t.manager.pendingPackets -
        (t.connection i).packetSendQueue.numElements).toNat =
        t.manager.pendingPackets.toNat - (t.connection i).packetSendQueue.numElements.toNat := by
      bv_omega
    show (t.manager.pendingPackets - (t.connection i).packetSendQueue.numElements).toNat = _
    omega

theorem connectionReset (h : Metered txBuffersPerLink t) (hlost : t.lost = some i) :
    Metered txBuffersPerLink (apply txBuffersPerLink t (.connectionReset i)) := by
  obtain ⟨hrequests, hcommands⟩ := h.lost i hlost
  have hnone : (apply txBuffersPerLink t (.connectionReset i)).lost = none := rfl
  have hload : ∀ k, (apply txBuffersPerLink t (.connectionReset i)).load k = t.load k := by
    intro k
    by_cases hk : k = i
    · subst hk
      rw [load, load, if_pos hlost, hnone, if_neg (Option.some_ne_none k).symm]
      simp [apply, setConnection, connection, ConnectionManager.setConnection, Connection.init,
        PacketQueue.clean, hcommands]
    · have hk' : ¬ t.lost = some k := fun heq => hk (Option.some.inj (heq.symm.trans hlost))
      rw [load, load, if_neg hk', hnone, if_neg (Option.some_ne_none k).symm]
      simp only [apply, setConnection, connection, ConnectionManager.setConnection,
        Function.update_of_ne hk]
  refine ⟨fun k _ => ?_, fun k hk => absurd hk (by simp [apply]), ?_⟩
  · by_cases hk : k = i
    · subst hk
      simp only [apply, setConnection, connection, ConnectionManager.setConnection,
        Function.update_self, hrequests, hcommands]
      exact ⟨rfl, Nat.add_zero _, fun htrue => absurd htrue (by simp [Connection.init]),
        show (0 : U16) ≠ bleErrorInvalidAttrHandle by decide, fun _ => rfl⟩
    · have hk' : t.lost ≠ some k := fun heq => hk (Option.some.inj (heq.symm.trans hlost))
      simp only [apply, setConnection, connection, ConnectionManager.setConnection,
        Function.update_of_ne hk]
      exact h.meter k hk'
  · exact h.pending.trans (Finset.sum_congr rfl fun k _ => (hload k).symm)

theorem step (h : Metered txBuffersPerLink t) (hintact : Intact t) {event : TrafficEvent}
    (hmay : May t event) (hconserving : Conserving t event) :
    Metered txBuffersPerLink (apply txBuffersPerLink t event) := by
  cases event with
  | queuePacket i data reliable => exact h.queuePacket hintact hmay hconserving
  | fillTransmitBuffers now => exact h.fill hintact now
  | txComplete now i count =>
      obtain ⟨hnone, hconnected, hcount⟩ := hmay
      exact (h.freed hintact hnone hconnected hcount).continueSending (hintact.freed hnone) now
  | writeRsp now i gattStatus =>
      obtain ⟨hnone, hconnected, hpos⟩ := hmay
      subst hconserving
      obtain ⟨pendingPackets, heq, hpart, hpacket⟩ := hintact.apply_writeRsp now hpos
      rw [heq]
      exact (h.responded hintact hnone hconnected hpos hpart hpacket).continueSending
        (hintact.responded hnone hpos pendingPackets) now
  | connectAsMaster i handle =>
      exact h.connectAsMaster hintact hmay hconserving.1 hconserving.2
  | connected i handle =>
      obtain ⟨hnone, hidle⟩ := hmay
      have hi : t.lost ≠ some i := by simp [hnone]
      have hmeter := h.meter i hi
      exact h.update hi rfl rfl (Function.update_eq_self i t.requests).symm
        (Function.update_eq_self i t.commands).symm
        ⟨hmeter.reliable, hmeter.unreliable, fun _ => hconserving, hmeter.characteristic,
          fun _ => hmeter.idle hidle⟩ rfl
  | handleDiscovered i handle =>
      obtain ⟨hnone, -⟩ := hmay
      have hi : t.lost ≠ some i := by simp [hnone]
      have hmeter := h.meter i hi
      exact h.update hi rfl rfl (Function.update_eq_self i t.requests).symm
        (Function.update_eq_self i t.commands).symm
        ⟨hmeter.reliable, hmeter.unreliable, hmeter.usable, hconserving, hmeter.idle⟩ rfl
  | disconnected i => exact h.disconnected hmay.1 hconserving
  | connectionReset i => exact h.connectionReset hmay

theorem run {events : List TrafficEvent} {t' : Traffic}
    (hrun : Run (apply txBuffersPerLink) (fun t event => May t event ∧ Conserving t event)
      t events t') (h : Metered txBuffersPerLink t) (hintact : Intact t) :
    Metered txBuffersPerLink t' := by
  have hboth : Metered txBuffersPerLink t' ∧ Intact t' := by
    refine hrun.preserves (I := fun t => Metered txBuffersPerLink t ∧ Intact t) ?_ ⟨h, hintact⟩
    rintro s event ⟨hs, hsintact⟩ ⟨hmay, hconserving⟩
    exact ⟨hs.step hsintact hmay hconserving, hsintact.step hmay hconserving.fitting⟩
  exact hboth.1

end Metered

theorem Initial.metered (h : Initial txBuffersPerLink t) : Metered txBuffersPerLink t := by
  have hzero : ∀ i, t.load i = 0 := by
    intro i
    obtain ⟨memory, hqueue⟩ := h.queue i
    rw [load, hqueue, h.commands i, h.lost, if_neg (Option.some_ne_none i).symm]
    rfl
  refine ⟨fun i _ => ⟨?_, ?_, fun hconnected => ?_, ?_, fun _ => h.commands i⟩, fun i hi => ?_, ?_⟩
  · rw [h.reliableBuffersFree, h.requests]
    rfl
  · rw [h.unreliableBuffersFree, h.commands, Nat.add_zero]
  · exact absurd hconnected (ne_true_of_eq_false (h.isConnected i))
  · rw [h.writeCharacteristicHandle]
    decide
  · exact absurd (h.lost.symm.trans hi) (Option.some_ne_none i).symm
  · rw [h.pendingPackets, Finset.sum_congr rfl fun i _ => hzero i, Finset.sum_const_zero]
    rfl

/-- What is free and what is under way make up the buffers of each link, and the pending packets
are those in the queues and the commands in flight. -/
def Conserved (txBuffersPerLink : U8) (t : Traffic) : Prop :=
  (∀ i, (t.connection i).isConnected = true →
    (t.connection i).reliableBuffersFree.toNat + t.requests i = 1 ∧
      (t.connection i).unreliableBuffersFree.toNat + t.commands i = txBuffersPerLink.toNat) ∧
  t.manager.pendingPackets.toNat =
    ∑ i, (t.connection i).packetSendQueue.numElements.toNat +
      ∑ i with (t.connection i).isConnected = true, t.commands i

instance (txBuffersPerLink : U8) (t : Traffic) : Decidable (Conserved txBuffersPerLink t) :=
  inferInstanceAs (Decidable (_ ∧ _))

/-- **Transmit flow control.**  In every run whose steps keep the counters, they are right in
every state between the handling of two events. -/
theorem flow_conserved {start : Traffic} {events : List TrafficEvent}
    (hstart : Initial txBuffersPerLink start)
    (hrun : Run (apply txBuffersPerLink) (fun t event => May t event ∧ Conserving t event)
      start events t) (hlost : t.lost = none) : Conserved txBuffersPerLink t := by
  have h := hstart.metered.run hrun hstart.intact
  have hmeter : ∀ i, Meter txBuffersPerLink (t.connection i) (t.requests i) (t.commands i) :=
    fun i => h.meter i (by rw [hlost]; exact (Option.some_ne_none i).symm)
  refine ⟨fun i _ => ⟨(hmeter i).reliable, (hmeter i).unreliable⟩, ?_⟩
  -- nothing is in flight on a link that is not connected
  have hinFlight : ∑ i with (t.connection i).isConnected = true, t.commands i =
      ∑ i, t.commands i := by
    rw [Finset.sum_filter]
    refine Finset.sum_congr rfl fun i _ => ?_
    split
    · rfl
    · rename_i hidle
      exact ((hmeter i).idle (Bool.eq_false_of_not_eq_true hidle)).symm
  rw [hinFlight, ← Finset.sum_add_distrib, h.pending]
  refine Finset.sum_congr rfl fun i _ => ?_
  rw [load, hlost, if_neg (Option.some_ne_none i).symm]

instance (t : Traffic) : (event : TrafficEvent) → Decidable (Conserving t event)
  | .queuePacket _ data reliable => inferInstanceAs (Decidable (Fits (element reliable data)))
  | .fillTransmitBuffers _ => inferInstanceAs (Decidable True)
  | .txComplete _ _ _ => inferInstanceAs (Decidable True)
  | .writeRsp _ _ _ => inferInstanceAs (Decidable (_ = _))
  | .connectAsMaster _ _ => inferInstanceAs (Decidable (_ ∧ (_ → _)))
  | .connected _ _ => inferInstanceAs (Decidable (_ ≠ _))
  | .handleDiscovered _ _ => inferInstanceAs (Decidable (_ ≠ _))
  | .disconnected _ => inferInstanceAs (Decidable (_ = _))
  | .connectionReset _ => inferInstanceAs (Decidable True)

/-- A packet is sent over the incoming link. -/
def sendsOne (reliable : Bool) : List TrafficEvent :=
  [.connected inConnection 5, .handleDiscovered inConnection 14,
    .queuePacket inConnection [182, 7, 7] reliable, .fillTransmitBuffers fun _ => 0]

theorem flow_conserved_sendsOne : Conserved 7 ((sendsOne true).foldl (apply 7) fresh) :=
  flow_conserved fresh_initial (Run.of_replays (by decide +kernel)) (by decide +kernel)

/-- The peer answers the request with an error. -/
def refused : List TrafficEvent :=
  sendsOne true ++ [.writeRsp (fun _ => 0) inConnection 0x0103]

/-- The link is lost while a write command is in flight. -/
def lostInFlight : List TrafficEvent :=
  sendsOne false ++ [.disconnected inConnection, .connectionReset inConnection]

/-- After an error the buffer for write requests is not free again, and what is in flight when a
link is lost stays pending. -/
theorem flow_not_conserved : ¬ (∀ (events : List TrafficEvent) (t : Traffic),
      Run (apply 7) May fresh events t → t.lost = none → Conserved 7 t) ∧
    ¬ Conserved 7 (refused.foldl (apply 7) fresh) ∧
    ¬ Conserved 7 (lostInFlight.foldl (apply 7) fresh) := by
  have hrefused : ¬ Conserved 7 (refused.foldl (apply 7) fresh) := by decide +kernel
  refine ⟨fun h => hrefused ?_, hrefused, by decide +kernel⟩
  exact h refused _ (Run.of_replays (by decide +kernel)) (by decide +kernel)

end Traffic

end FruityMesh.Transport
