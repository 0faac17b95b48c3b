import FruityMesh.Logger
import FruityMesh.PacketQueueFifo
import FruityMesh.Transport.Frames

/-!
# Packets that are too long

`QueuePacket` gets the length of a packet as a `u16` and passes it to `Put`, which takes a byte.
`Put` adds three to it to get the room that it asks for, in a byte again, and stores one more
than it as the length of the element.  So three numbers wrap, each at another length:

* from 253 on `Put` asks for too little room, and may store over what is still to be read or
  behind the buffer,
* a packet of 255 bytes is stored with the length zero, and
* from 256 on only a part of the packet is stored.

`faithful_iff` says for each state of the queue and each length whether the packet is queued
properly.  `stringBuffers_fit_iff` is about the text that `QueuePacket` and
`messageReceivedCallback` make of each packet.
-/

namespace FruityMesh

open Cells RecordRing

namespace PacketQueue

variable {q : PacketQueue} {peeked : Bool} {xs : List (List U8)} {n : ℕ}

/-! ## What `Put` does with any length -/

/-- The room that `Put` asks for. -/
def elementSize (n : ℕ) : ℕ := (n + 3) % 256

/-- The writer turns to the start of the buffer. -/
def Turns (q : PacketQueue) (n : ℕ) : Prop :=
  q.readPointer ≤ q.writePointer ∧ q.bufferEnd - q.writePointer ≤ elementSize n ∧
    elementSize n ≤ q.readPointer

/-- `Put` finds the buffer full. -/
def Refuses (q : PacketQueue) (n : ℕ) : Prop :=
  ¬ q.Turns n ∧
    (q.readPointer ≤ q.writePointer ∧ q.bufferEnd ≤ q.writePointer + elementSize n ∨
      q.writePointer < q.readPointer ∧ q.readPointer ≤ q.writePointer + elementSize n)

instance (q : PacketQueue) (n : ℕ) : Decidable (q.Turns n) := inferInstanceAs (Decidable (_ ∧ _))

instance (q : PacketQueue) (n : ℕ) : Decidable (q.Refuses n) := inferInstanceAs (Decidable (_ ∧ _))

/-- Where `Put` stores a packet there is room for it, its length, its flag and the zero behind. -/
def HasRoom (q : PacketQueue) (n : ℕ) : Prop :=
  if q.Turns n then n + 3 ≤ q.readPointer
  else if q.readPointer ≤ q.writePointer then q.writePointer + n + 3 ≤ q.bufferEnd
  else q.writePointer + n + 3 ≤ q.readPointer

instance (q : PacketQueue) (n : ℕ) : Decidable (q.HasRoom n) := by
  unfold HasRoom
  infer_instance

/-- The queue as `Put` leaves it when it stores an element. -/
def written (q : PacketQueue) (data : List U8) (reliable : Bool) : PacketQueue :=
  (if q.Turns data.length then { q with writePointer := 0, memory := q.memory.store 0 [0] }
    else q).writeElement data (BitVec.ofNat 8 data.length) reliable

theorem put_eq (q : PacketQueue) (data : List U8) (reliable : Bool) :
    q.put data (BitVec.ofNat 8 data.length) reliable =
      if q.Refuses data.length then (q, false) else (q.written data reliable, true) := by
  have hsize : (BitVec.ofNat 8 data.length + 1 + 1 + 1 : U8).toNat = elementSize data.length := by
    unfold elementSize
    bv_omega
  by_cases hturns : q.Turns data.length
  · have htakes : ¬ q.Refuses data.length := fun hrefuses => hrefuses.1 hturns
    rw [if_neg htakes, written, if_pos hturns, put]
    simp only [hsize]
    exact if_pos ⟨hturns.1, hturns.2.1, hturns.2.2⟩
  · have hturn : ¬ (q.writePointer ≥ q.readPointer ∧
        q.bufferEnd - q.writePointer ≤ elementSize data.length ∧
        q.readPointer ≥ elementSize data.length) := fun h => hturns ⟨h.1, h.2.1, h.2.2⟩
    rw [written, if_neg hturns, put]
    simp only [hsize]
    rw [if_neg hturn]
    split_ifs with hstraight hrefuses hturned hrefuses hrefuses
    · rfl
    · exact absurd ⟨hturns, Or.inl hstraight⟩ hrefuses
    · rfl
    · exact absurd ⟨hturns, Or.inr hturned⟩ hrefuses
    · rcases hrefuses.2 with hfull | hfull
      · exact absurd hfull hstraight
      · exact absurd hfull hturned
    · rfl

/-! ## Packets of up to 254 bytes -/

/-- **With room for it a packet of up to 254 bytes is appended.** -/
theorem Represents.written (h : Represents q peeked xs) {data : List U8}
    (hlength : data.length ≤ 254) (hroom : q.HasRoom data.length) (reliable : Bool) :
    Represents (q.written data reliable) peeked (xs ++ [element reliable data]) := by
  have hshort : data.length < 255 := by omega
  unfold HasRoom at hroom
  unfold PacketQueue.written
  by_cases hturns : q.Turns data.length
  · rw [if_pos hturns] at hroom ⊢
    exact h.write_turn hshort reliable hturns.1 hroom
  · rw [if_neg hturns] at hroom ⊢
    by_cases hstraight : q.readPointer ≤ q.writePointer
    · rw [if_pos hstraight] at hroom
      exact h.write_straight hshort reliable hstraight hroom
    · rw [if_neg hstraight] at hroom
      exact h.write_turned hshort reliable (by omega) hroom

/-- Up to 252 bytes `Put` asks for as much room as there has to be. -/
theorem hasRoom_of_takes (hlength : n ≤ 252)
    (htakes : ¬ q.Refuses n) : q.HasRoom n := by
  have hsize : elementSize n = n + 3 := by
    unfold elementSize
    omega
  unfold Refuses at htakes
  unfold HasRoom
  split_ifs with hturns hstraight
  · exact hsize ▸ hturns.2.2
  · have hnot : ¬ q.bufferEnd ≤ q.writePointer + elementSize n :=
      fun hfull => htakes ⟨hturns, Or.inl ⟨hstraight, hfull⟩⟩
    omega
  · have hnot : ¬ q.readPointer ≤ q.writePointer + elementSize n :=
      fun hfull => htakes ⟨hturns, Or.inr ⟨Nat.lt_of_not_le hstraight, hfull⟩⟩
    omega

/-! ## Without room -/

/-- Where `Put` stores an element. -/
def writeStart (q : PacketQueue) (n : ℕ) : ℕ := if q.Turns n then 0 else q.writePointer

theorem readPointer_written (data : List U8) (reliable : Bool) :
    (q.written data reliable).readPointer = q.readPointer := by
  unfold written
  split_ifs <;> rfl

theorem numElements_written (data : List U8) (reliable : Bool) :
    (q.written data reliable).numElements = q.numElements + 1 := by
  unfold written
  split_ifs <;> rfl

section Short

variable {data : List U8} (hlength : data.length ≤ 254) (reliable : Bool)
include hlength

theorem writePointer_written :
    (q.written data reliable).writePointer = q.writeStart data.length + (data.length + 2) := by
  have hshort : data.length < 255 := by omega
  unfold written writeStart
  split_ifs <;> exact writePointer_writeElement hshort reliable _

/-- The last store of an element is the zero behind it. -/
theorem writeStart_le (haccess : (q.written data reliable).memory.AccessesWithin q.bufferEnd) :
    q.writeStart data.length + data.length + 3 ≤ q.bufferEnd := by
  have hbyte : (BitVec.ofNat 8 data.length).toNat = data.length := by
    rw [BitVec.toNat_ofNat]
    omega
  have hlast := writePointer_written (q := q) hlength reliable
  unfold written writeElement at haccess
  simp only [Memory.accessesWithin_store_iff, List.length_singleton, hbyte] at haccess
  unfold writeStart
  split_ifs at haccess ⊢ <;> have := haccess.2 <;> omega

theorem holds_written :
    Holds (q.written data reliable).memory.cell (q.writeStart data.length)
      (record (element reliable data) ++ List.replicate 1 0) := by
  have hshort : data.length < 255 := by omega
  unfold written writeStart
  split_ifs
  · rw [writeElement_cell _ hshort]
    exact holds_overwrite _ _ _
  · rw [writeElement_cell _ hshort]
    exact holds_overwrite _ _ _

/-- Behind its length an unreliable packet of zeros stores nothing but zeros. -/
theorem cell_written_zeros (hzeros : ∀ b ∈ data, b = 0) {k : ℕ}
    (hlt : q.writeStart data.length < k) (hle : k ≤ q.writeStart data.length + (data.length + 2)) :
    (q.written data false).memory.cell k = 0 := by
  have hholds := (holds_cons.mp (holds_written (q := q) hlength false)).2
  have hall : ∀ b ∈ element false data ++ List.replicate 1 0, b = (0 : U8) := by
    intro b hb
    rcases List.mem_append.mp hb with hb | hb
    · rcases List.mem_cons.mp hb with hflag | hdata
      · exact hflag
      · exact hzeros b hdata
    · exact List.eq_of_mem_replicate hb
  obtain ⟨j, rfl⟩ : ∃ j, k = q.writeStart data.length + 1 + j :=
    ⟨k - (q.writeStart data.length + 1), by omega⟩
  have hj : j < (element false data ++ List.replicate 1 0).length := by
    rw [List.length_append, length_element, List.length_replicate]
    omega
  exact (hholds j hj).trans (hall _ (List.getElem_mem hj))

end Short

/-- A reader who stands on a zero, with the writer ahead, gets nothing. -/
theorem contents_of_zero {q : PacketQueue} (hcount : q.numElements ≠ 0)
    (hzero : q.memory.cell q.readPointer = 0) (hle : q.readPointer ≤ q.writePointer) :
    q.contents.head? = some [] := by
  obtain ⟨m, hm⟩ : ∃ m, q.numElements.toNat = m + 1 := by
    refine ⟨q.numElements.toNat - 1, ?_⟩
    have hne : q.numElements.toNat ≠ 0 := fun h => hcount (BitVec.eq_of_toNat_eq (by simpa using h))
    omega
  have hnot : ¬ (q.memory.cell q.readPointer = 0 ∧ q.writePointer < q.readPointer) := by
    rintro ⟨-, hlt⟩
    omega
  have hpeek : q.peekNext.1.bytesAt q.peekNext.2 = [] := by
    unfold PacketQueue.peekNext
    rw [if_neg hcount, if_neg hnot]
    dsimp only
    rw [hzero]
    rfl
  rw [contents, hm, drain, hpeek, List.head?_cons]

/-- Every element that a reader gets has a length of one byte. -/
theorem length_lt_of_mem_drain {x : List U8} (hx : x ∈ drain n q) : x.length < 256 := by
  induction n generalizing q with
  | zero => exact absurd hx List.not_mem_nil
  | succ n ih =>
      rcases List.mem_cons.mp hx with rfl | hx
      · unfold PacketQueue.peekNext
        split_ifs
        · exact Nat.zero_lt_succ _
        all_goals
          simp only [bytesAt, length_read, BitVec.toNat_setWidth]
          omega
      · exact ih hx

theorem Represents.writePointer_lt (h : Represents q peeked xs) : q.writePointer < q.bufferEnd := by
  cases h.layout with
  | straight hwrite hsize hrun => omega
  | turned front back hxs hback hwrite hlt hgap hmark hsize hfront hrun => omega

theorem Represents.numElements_succ_ne (h : Represents q peeked xs) : q.numElements + 1 ≠ 0 := by
  have hcount := h.count
  have hfit := h.layout.run_length_le
  have hle : xs.length ≤ (run record xs).length := length_le_run fun x _ => by simp
  have hlt : q.bufferEnd < 2 ^ 16 := q.bufferLength.isLt
  intro hzero
  have hwrap := congrArg BitVec.toNat hzero
  rw [BitVec.toNat_add, hcount] at hwrap
  simp at hwrap
  omega

/-- **Without room the packet is stored behind the buffer, or over the next element.** -/
theorem Represents.not_stored (h : Represents q peeked xs) {data : List U8}
    (hlength : data.length ≤ 254) (hzeros : ∀ b ∈ data, b = 0) (hroom : ¬ q.HasRoom data.length)
    (haccess : (q.written data false).memory.AccessesWithin q.bufferEnd) :
    (q.written data false).contents ≠ xs ++ [element false data] := by
  have hend := writeStart_le hlength false haccess
  have hwrite := writePointer_written (q := q) hlength false
  have hreader : q.writeStart data.length < q.readPointer ∧
      q.readPointer ≤ q.writeStart data.length + (data.length + 2) := by
    have hlt := h.writePointer_lt
    unfold HasRoom at hroom
    unfold writeStart at hend ⊢
    split_ifs at hroom hend ⊢ with hturns hstraight
    · have hsize := hturns.2.1
      have hread := hturns.2.2
      omega
    · omega
    · omega
  have hzero : (q.written data false).memory.cell (q.written data false).readPointer = 0 := by
    rw [readPointer_written]
    exact cell_written_zeros hlength hzeros hreader.1 hreader.2
  have hcount : (q.written data false).numElements ≠ 0 :=
    numElements_written (q := q) data false ▸ h.numElements_succ_ne
  have hle : (q.written data false).readPointer ≤ (q.written data false).writePointer := by
    rw [readPointer_written, hwrite]
    exact hreader.2
  intro heq
  have hhead := contents_of_zero hcount hzero hle
  rw [heq] at hhead
  -- but the first element that is to be read is not empty
  cases xs with
  | nil => exact absurd hhead (by simp [element])
  | cons x rest =>
      have hx := (h.lengths x List.mem_cons_self).1
      rw [List.cons_append, List.head?_cons, Option.some_inj] at hhead
      rw [hhead] at hx
      exact absurd hx (Nat.lt_irrefl 0)

end PacketQueue

/-! ## `QueuePacket` -/

namespace Transport.ConnectionManager

open PacketQueue

/-- The packet is in the queue, to be read after those that are already there, or nothing has
happened; and no access has left the buffer. -/
def Faithful (cm : ConnectionManager) (i : Fin meshMaxConnections) (data : List U8)
    (reliable : Bool) : Prop :=
  let queue := (cm.connections i).packetSendQueue
  let after := (cm.queuePacket i data (BitVec.ofNat 16 data.length) reliable).1
  let queue' := (after.connections i).packetSendQueue
  (queue'.contents = queue.contents ++ [element reliable data] ∨
    queue' = queue ∧ after.pendingPackets = cm.pendingPackets) ∧
  queue'.memory.AccessesWithin queue.bufferEnd

variable {cm : ConnectionManager} {i : Fin meshMaxConnections} {data : List U8} {reliable : Bool}
  {peeked : Bool} {xs : List (List U8)}

theorem queuePacket_put (cm : ConnectionManager) (i : Fin meshMaxConnections) (data : List U8)
    (reliable : Bool) :
    cm.queuePacket i data (BitVec.ofNat 16 data.length) reliable =
      if (cm.connections i).packetSendQueue.Refuses data.length then
        (cm.setConnection i (cm.connections i), false)
      else
        ({ cm.setConnection i { cm.connections i with
            packetSendQueue := (cm.connections i).packetSendQueue.written data reliable } with
          pendingPackets := cm.pendingPackets + 1 }, true) := by
  rw [queuePacket_eq, put_eq]
  by_cases hrefuses : (cm.connections i).packetSendQueue.Refuses data.length
  · simp only [if_pos hrefuses, Bool.false_eq_true, if_false]
    rfl
  · simp only [if_neg hrefuses, if_true]

theorem faithful_of_refuses (h : Represents (cm.connections i).packetSendQueue peeked xs)
    (hrefuses : (cm.connections i).packetSendQueue.Refuses data.length) :
    cm.Faithful i data reliable := by
  have hqueue := queuePacket_put cm i data reliable
  rw [if_pos hrefuses] at hqueue
  unfold Faithful
  rw [hqueue]
  dsimp only
  rw [setConnection_same]
  exact ⟨Or.inr ⟨rfl, rfl⟩, h.accesses⟩

theorem faithful_iff_of_takes
    (htakes : ¬ (cm.connections i).packetSendQueue.Refuses data.length)
    (h : Represents (cm.connections i).packetSendQueue peeked xs) :
    cm.Faithful i data reliable ↔
      ((cm.connections i).packetSendQueue.written data reliable).contents =
        xs ++ [element reliable data] ∧
      ((cm.connections i).packetSendQueue.written data reliable).memory.AccessesWithin
        (cm.connections i).packetSendQueue.bufferEnd := by
  have hqueue := queuePacket_put cm i data reliable
  rw [if_neg htakes] at hqueue
  unfold Faithful
  rw [hqueue]
  simp only [setConnection_same, h.contents_eq]
  refine and_congr_left fun _ => or_iff_left ?_
  rintro ⟨hsame, -⟩
  have hcount := numElements_written (q := (cm.connections i).packetSendQueue) data reliable
  rw [hsame] at hcount
  bv_omega

/-- **When `QueuePacket` is faithful.**  For a state of the queue and a length, every packet of this
length is queued properly or refused, if and only if it is not longer than 252 bytes, it is refused,
or it has 253 or 254 bytes and there is room where it is stored. -/
theorem faithful_iff (h : Represents (cm.connections i).packetSendQueue peeked xs)
    (dataLength : U16) :
    (∀ (data : List U8) (reliable : Bool), data.length = dataLength.toNat →
        cm.Faithful i data reliable) ↔
      dataLength.toNat ≤ 252 ∨ (cm.connections i).packetSendQueue.Refuses dataLength.toNat ∨
        dataLength.toNat ≤ 254 ∧ (cm.connections i).packetSendQueue.HasRoom dataLength.toNat := by
  by_cases hrefuses : (cm.connections i).packetSendQueue.Refuses dataLength.toNat
  · refine iff_of_true (fun data reliable hlength => ?_) (Or.inr (Or.inl hrefuses))
    exact faithful_of_refuses h (hlength ▸ hrefuses)
  · constructor
    · intro hfaithful
      by_contra hnot
      rw [not_or, not_or, not_and] at hnot
      obtain ⟨hlong, -, hroom⟩ := hnot
      have hlength : (List.replicate dataLength.toNat (0 : U8)).length = dataLength.toNat :=
        List.length_replicate
      obtain ⟨hcontents, haccess⟩ := (faithful_iff_of_takes (by rwa [hlength]) h).mp
        (hfaithful (List.replicate dataLength.toNat 0) false hlength)
      by_cases hbyte : dataLength.toNat ≤ 254
      · refine h.not_stored (by rwa [hlength]) (fun b hb => List.eq_of_mem_replicate hb) ?_ haccess
          hcontents
        rw [hlength]
        exact hroom hbyte
      · -- with its flag the packet is longer than anything that a reader gets
        have hmem : element false (List.replicate dataLength.toNat 0) ∈
            ((cm.connections i).packetSendQueue.written (List.replicate dataLength.toNat 0)
              false).contents := by
          rw [hcontents]
          exact List.mem_append_right _ (List.mem_singleton_self _)
        have hlt := length_lt_of_mem_drain hmem
        rw [length_element, hlength] at hlt
        omega
    · rintro hcases data reliable hlength
      have htakes : ¬ (cm.connections i).packetSendQueue.Refuses data.length := hlength ▸ hrefuses
      have hroom : data.length ≤ 254 ∧ (cm.connections i).packetSendQueue.HasRoom data.length := by
        rcases hcases with hshort | hfull | hroom
        · exact ⟨by omega, hasRoom_of_takes (by omega) htakes⟩
        · exact absurd hfull hrefuses
        · exact hlength ▸ hroom
      have hstored := h.written hroom.1 hroom.2 reliable
      refine (faithful_iff_of_takes htakes h).mpr ⟨hstored.contents_eq, ?_⟩
      have hend : ((cm.connections i).packetSendQueue.written data reliable).bufferEnd =
          (cm.connections i).packetSendQueue.bufferEnd := by
        unfold PacketQueue.written
        split_ifs <;> rfl
      exact hend ▸ hstored.accesses

/-- Connections with empty queues. -/
def emptyManager : ConnectionManager where
  connections := fun _ => {
    isConnected := true
    connectionHandle := 0
    writeCharacteristicHandle := 14
    unreliableBuffersFree := 7
    reliableBuffersFree := 1
    packetSendQueue := .new (fun _ => 0) (BitVec.ofNat 16 packetSendBufferSize)
    packetSendPosition := 0
    packetReassemblyBuffer := ⟨fun _ => 0, [], []⟩
    packetReassemblyPosition := 0 }
  pendingPackets := 0

/-- Five bytes are queued. -/
theorem faithful_iff_five : emptyManager.Faithful ⟨0, by decide⟩ [23, 1, 0, 2, 0] true :=
  (faithful_iff (represents_new (fun _ => 0) (by decide)) 5).mpr (Or.inl (by decide))
    [23, 1, 0, 2, 0] true rfl

/-- Of 256 bytes none is queued. -/
theorem long_packet_lost :
    ¬ ∀ (cm : ConnectionManager) (i : Fin meshMaxConnections) (peeked : Bool) (xs : List (List U8))
        (data : List U8) (reliable : Bool),
      Represents (cm.connections i).packetSendQueue peeked xs → data.length < 2 ^ 16 →
      cm.Faithful i data reliable := by
  intro h
  have hlength : (List.replicate 256 (0 : U8)).length = 256 := List.length_replicate
  have hrep : Represents (.new (fun _ => 0) 600) false [] := represents_new _ (by decide)
  have hfaithful := h emptyManager ⟨0, by decide⟩ false [] (List.replicate 256 0) true hrep
    (by rw [hlength]; decide)
  obtain ⟨hcontents, -⟩ := (faithful_iff_of_takes (by rw [hlength]; decide) hrep).mp hfaithful
  have hmem : element true (List.replicate 256 0) ∈
      ((emptyManager.connections ⟨0, by decide⟩).packetSendQueue.written (List.replicate 256 0)
        true).contents := by
    rw [hcontents]
    exact List.mem_append_right _ (List.mem_singleton_self _)
  exact absurd (length_lt_of_mem_drain hmem) (by rw [length_element, hlength]; decide)

/-! ## Packets as text -/

/-- The sizes of `stringBuffer` in `QueuePacket` and in `messageReceivedCallback`. -/
def queueStringBufferSize : ℕ := 200
def receiveStringBufferSize : ℕ := 100

/-- `stringBuffer` in `QueuePacket`, on the stack, after a packet has been printed into it. -/
def queueStringBuffer (stack : ℕ → Char) (data : List U8) : Memory Char :=
  Logger.convertBufferToHexString ⟨stack, [], []⟩ 0 data

/-- `stringBuffer` in `messageReceivedCallback`, after a write has been printed into it. -/
def receiveStringBuffer (stack : ℕ → Char) (write : Write) : Memory Char :=
  Logger.convertBufferToHexString ⟨stack, [], []⟩ 0 write.data

/-- **The texts fit exactly if there are 66 bytes to send, or 33 bytes that were received.** -/
theorem stringBuffers_fit_iff (stack : ℕ → Char) :
    (∀ data : List U8, (queueStringBuffer stack data).AccessesWithin queueStringBufferSize ↔
      data.length ≤ 66) ∧
    ∀ write : Write, (receiveStringBuffer stack write).AccessesWithin receiveStringBufferSize ↔
      write.data.length ≤ 33 := by
  constructor
  · intro data
    rw [queueStringBuffer, Logger.convertBufferToHexString_within_iff, queueStringBufferSize]
    omega
  · intro write
    rw [receiveStringBuffer, Logger.convertBufferToHexString_within_iff, receiveStringBufferSize]
    omega

/-- What another node writes fits: it splits its packets. -/
theorem receiveStringBuffer_of_mem_writes (stack : ℕ → Char) {p : Packet} {write : Write}
    (h : write ∈ p.writes) :
    (receiveStringBuffer stack write).AccessesWithin receiveStringBufferSize := by
  have hlength := (Packet.length_of_mem_writes h).2
  rw [receiveStringBuffer, Logger.convertBufferToHexString_within_iff, receiveStringBufferSize]
  omega

/-- A packet of 67 bytes and a write of 34 bytes do not fit. -/
theorem stringBuffers_overflow :
    (¬ ∀ (stack : ℕ → Char) (data : List U8), data.length ≤ 200 →
      (queueStringBuffer stack data).AccessesWithin queueStringBufferSize) ∧
    ¬ ∀ (stack : ℕ → Char) (write : Write), write.data.length ≤ meshCharacteristicMaxLength →
      (receiveStringBuffer stack write).AccessesWithin receiveStringBufferSize := by
  constructor
  · intro h
    have hfits := h (fun _ => Logger.nul) (List.replicate 67 0) (by decide)
    rw [queueStringBuffer, Logger.convertBufferToHexString_within_iff] at hfits
    exact absurd hfits (by decide)
  · intro h
    have hfits := h (fun _ => Logger.nul) ⟨List.replicate 34 0, true⟩ (by decide)
    rw [receiveStringBuffer, Logger.convertBufferToHexString_within_iff] at hfits
    exact absurd hfits (by decide)

end Transport.ConnectionManager

end FruityMesh
