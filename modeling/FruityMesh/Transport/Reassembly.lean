import FruityMesh.Transport.Flow

/-!
# The reassembly buffer

A peer writes what it likes, up to the length of the mesh characteristic.  The parts of a split
packet are copied one behind the other into the reassembly buffer, and the position behind the
last one is a byte.  `Receiver` counts in addition the bytes that have been copied for the packet
that is put together, as the accesses to the buffer show them.

`Contained` is what should hold of every write; it does exactly if the write leaves the packet
within the buffer (`FitsBuffer`).
-/

namespace FruityMesh.Transport

open Cells Runs

/-- The number of cells that were stored between two memories. -/
def copied (memory memory' : Memory U8) : ℕ :=
  ((memory'.stores.drop memory.stores.length).map Span.length).sum

theorem copied_self (memory : Memory U8) : copied memory memory = 0 := by
  simp [copied]

theorem copied_store (memory : Memory U8) (start : ℕ) (bytes : List U8) :
    copied memory (memory.store start bytes) = bytes.length := by
  simp [copied]

structure Receiver where
  connection : Connection
  /-- The bytes that have been copied for the packet that is put together. -/
  stored : ℕ

inductive ReceiverEvent
  | write (event : WriteEvent)
  | disconnected
  | connected (connectionHandle : U16)

namespace Receiver

/-- `DisconnectionHandler` and the `Init` at its end, or a new connection. -/
def apply (txBuffersPerLink : U8) (r : Receiver) : ReceiverEvent → Receiver
  | .write event =>
      let reception := r.connection.messageReceivedCallback event
      { connection := reception.connection
        stored :=
          if reception.packet.isSome then 0
          else r.stored +
            copied r.connection.packetReassemblyBuffer reception.connection.packetReassemblyBuffer }
  | .disconnected => { connection := r.connection.init txBuffersPerLink, stored := 0 }
  | .connected handle => { r with connection := r.connection.connectionSuccessfulHandler handle }

/-- A connected peer writes up to the length that the characteristic admits. -/
def May (r : Receiver) : ReceiverEvent → Prop
  | .write event => r.connection.isConnected = true ∧ event.len.toNat ≤ meshCharacteristicMaxLength
  | .disconnected => r.connection.isConnected = true
  | .connected _ => r.connection.isConnected = false

instance (r : Receiver) : (event : ReceiverEvent) → Decidable (May r event)
  | .write _ => inferInstanceAs (Decidable (_ ∧ _))
  | .disconnected => inferInstanceAs (Decidable (_ = _))
  | .connected _ => inferInstanceAs (Decidable (_ = _))

/-- The copies that a write leads to end in the buffer, the position counts them, and a packet
that is complete is as long as what was stored for it. -/
structure Contained (r : Receiver) (event : WriteEvent) : Prop where
  copies : r.connection.packetReassemblyBuffer.StoresIn ⟨0, packetReassemblyBufferSize⟩
    (r.connection.messageReceivedCallback event).connection.packetReassemblyBuffer
  position : (r.connection.messageReceivedCallback event).packet = none →
    (r.connection.messageReceivedCallback event).connection.packetReassemblyPosition.toNat =
      r.stored + copied r.connection.packetReassemblyBuffer
        (r.connection.messageReceivedCallback event).connection.packetReassemblyBuffer
  single : ∀ packet, (r.connection.messageReceivedCallback event).packet = some packet →
    r.stored = 0 → packet.dataLength = event.len
  complete : ∀ packet, (r.connection.messageReceivedCallback event).packet = some packet →
    r.stored ≠ 0 → packet.dataLength.toNat =
      r.stored + copied r.connection.packetReassemblyBuffer
        (r.connection.messageReceivedCallback event).connection.packetReassemblyBuffer

/-- A part that is not the first one of its packet has a header, and what is behind the header
leaves the packet within the buffer. -/
def FitsBuffer (r : Receiver) (event : WriteEvent) : Prop :=
  r.connection.packetReassemblyPosition = 0 ∨
    0 < event.len.toNat ∧
      r.connection.packetReassemblyPosition.toNat + event.len.toNat ≤
        packetReassemblyBufferSize + sizeofConnPacketSplitHeader

/-- The same for every event of a run. -/
def Fit (r : Receiver) : ReceiverEvent → Prop
  | .write event => FitsBuffer r event
  | _ => True

instance (r : Receiver) : (event : ReceiverEvent) → Decidable (Fit r event)
  | .write _ => inferInstanceAs (Decidable (_ ∨ _))
  | .disconnected => inferInstanceAs (Decidable True)
  | .connected _ => inferInstanceAs (Decidable True)

/-! ## One write -/

variable {r r' : Receiver} {event : WriteEvent} {txBuffersPerLink : U8}

/-- Parts up to the position have been copied, and there is room for them. -/
structure Assembled (r : Receiver) : Prop where
  stored : r.connection.packetReassemblyPosition.toNat = r.stored
  room : r.stored ≤ packetReassemblyBufferSize

/-- The number of bytes behind the header of a part. -/
theorem partLength_toNat {len : U16} (hpos : 0 < len.toNat) :
    (len.setWidth 32 - BitVec.ofNat 32 sizeofConnPacketSplitHeader : U32).toNat =
      len.toNat - 1 := by
  simp only [sizeofConnPacketSplitHeader]
  bv_omega

/-- Without a header there is a copy of almost the whole address space. -/
theorem partLength_zero {len : U16} (hzero : len.toNat = 0) :
    (len.setWidth 32 - BitVec.ofNat 32 sizeofConnPacketSplitHeader : U32).toNat =
      2 ^ 32 - 1 := by
  have hlen : len = 0 := BitVec.eq_of_toNat_eq hzero
  rw [hlen]
  rfl

/-- What a write does, by where it stands in its packet. -/
theorem callback_cases (c : Connection) (event : WriteEvent) :
    (c.packetReassemblyPosition = 0 ∧
      ((c.messageReceivedCallback event).packet = none ∧
          (c.messageReceivedCallback event).connection.packetReassemblyBuffer =
            c.packetReassemblyBuffer.store 0 (read event.data 0 event.len.toNat) ∧
          (c.messageReceivedCallback event).connection.packetReassemblyPosition =
            c.packetReassemblyPosition + event.len.setWidth 8 ∨
        (c.messageReceivedCallback event).packet =
            some ⟨event.data, event.len, !event.writeCommand⟩ ∧
          (c.messageReceivedCallback event).connection = c)) ∨
    c.packetReassemblyPosition ≠ 0 ∧ ∃ buffer, buffer =
      c.packetReassemblyBuffer.store c.packetReassemblyPosition.toNat
        (read event.data sizeofConnPacketSplitHeader
          (event.len.setWidth 32 - BitVec.ofNat 32 sizeofConnPacketSplitHeader : U32).toNat) ∧
      (c.messageReceivedCallback event).connection.packetReassemblyBuffer = buffer ∧
      ((c.messageReceivedCallback event).packet = none ∧
          (c.messageReceivedCallback event).connection.packetReassemblyPosition =
            c.packetReassemblyPosition +
              (event.len.setWidth 32 -
                BitVec.ofNat 32 sizeofConnPacketSplitHeader : U32).setWidth 8 ∨
        (c.messageReceivedCallback event).packet = some ⟨buffer.cell,
            event.len + c.packetReassemblyPosition.setWidth 16 -
              BitVec.ofNat 16 sizeofConnPacketSplitHeader, !event.writeCommand⟩ ∧
          (c.messageReceivedCallback event).connection.packetReassemblyPosition = 0) := by
  unfold Connection.messageReceivedCallback
  by_cases hzero : c.packetReassemblyPosition = 0
  · refine .inl ⟨hzero, ?_⟩
    simp only [if_pos hzero]
    by_cases hmore : hasMorePartsOf (event.data 0) = true
    · simp only [if_pos hmore]
      exact .inl ⟨trivial, trivial, trivial⟩
    · simp only [if_neg hmore]
      exact .inr ⟨trivial, trivial⟩
  · refine .inr ⟨hzero, _, rfl, ?_⟩
    simp only [if_neg hzero]
    by_cases hmore : hasMorePartsOf (event.data 0) = true
    · simp only [if_pos hmore]
      exact ⟨trivial, .inl ⟨trivial, trivial⟩⟩
    · simp only [if_neg hmore]
      exact ⟨trivial, .inr ⟨trivial, trivial⟩⟩

/-- The first write of a packet. -/
theorem Assembled.contained_first (h : Assembled r)
    (hlen : event.len.toNat ≤ meshCharacteristicMaxLength)
    (hzero : r.connection.packetReassemblyPosition = 0) : Contained r event := by
  have hstored : r.stored = 0 := by
    rw [← h.stored, hzero]
    rfl
  unfold meshCharacteristicMaxLength at hlen
  rcases callback_cases r.connection event with ⟨-, hcase⟩ | ⟨hne, -⟩
  · rcases hcase with ⟨hpacket, hbuffer, hposition⟩ | ⟨hpacket, hsame⟩
    · refine ⟨?_, fun _ => ?_, fun packet hsome => ?_, fun packet hsome => ?_⟩
      · rw [hbuffer]
        refine Memory.StoresIn.store _ _ ⟨le_rfl, ?_⟩
        simp only [length_read, packetReassemblyBufferSize]
        omega
      · rw [hbuffer, hposition, copied_store, length_read, hzero, hstored]
        bv_omega
      · exact absurd (hpacket.symm.trans hsome) (Option.some_ne_none _).symm
      · exact absurd (hpacket.symm.trans hsome) (Option.some_ne_none _).symm
    -- a packet in one write never touches the buffer
    · refine ⟨?_, fun hnone => ?_, fun packet hsome _ => ?_, fun packet _ hne => ?_⟩
      · rw [hsame]
        exact .refl _ _
      · exact absurd (hnone.symm.trans hpacket) (Option.some_ne_none _).symm
      · rw [← Option.some.inj (hpacket.symm.trans hsome)]
      · exact absurd hstored hne
  · exact absurd hzero hne

/-- A write behind the first one. -/
theorem Assembled.contained_next_iff (h : Assembled r)
    (hlen : event.len.toNat ≤ meshCharacteristicMaxLength)
    (hne : r.connection.packetReassemblyPosition ≠ 0) :
    Contained r event ↔
      0 < event.len.toNat ∧ r.connection.packetReassemblyPosition.toNat + event.len.toNat ≤
        packetReassemblyBufferSize + sizeofConnPacketSplitHeader := by
  have hstored : r.stored ≠ 0 := by
    intro hzero
    exact hne (BitVec.eq_of_toNat_eq (h.stored.trans hzero))
  unfold meshCharacteristicMaxLength at hlen
  rcases callback_cases r.connection event with ⟨hzero, -⟩ | ⟨-, buffer, rfl, hbuffer, hcase⟩
  · exact absurd hzero hne
  constructor
  · intro hcontained
    obtain ⟨edits, hedits, hcovers⟩ := hcontained.copies
    rw [hbuffer, Memory.store_stores, List.append_cancel_left_eq] at hedits
    have hfit := (hcovers _ (hedits ▸ List.mem_singleton_self _)).2
    rw [length_read] at hfit
    -- an empty write would store 2 ^ 32 - 1 bytes
    rcases Nat.eq_zero_or_pos event.len.toNat with hzero | hpos
    · rw [partLength_zero hzero] at hfit
      simp only [packetReassemblyBufferSize] at hfit
      omega
    · rw [partLength_toNat hpos] at hfit
      simp only [packetReassemblyBufferSize, sizeofConnPacketSplitHeader] at hfit ⊢
      exact ⟨hpos, by omega⟩
  · rintro ⟨hpos, hfit⟩
    have hpart := partLength_toNat hpos
    simp only [packetReassemblyBufferSize, sizeofConnPacketSplitHeader] at hfit
    have hcopied : copied r.connection.packetReassemblyBuffer
        (r.connection.messageReceivedCallback event).connection.packetReassemblyBuffer =
        event.len.toNat - 1 := by
      rw [hbuffer, copied_store, length_read, hpart]
    refine ⟨?_, fun hnone => ?_, fun packet _ hzero => ?_, fun packet hsome _ => ?_⟩
    · rw [hbuffer]
      refine Memory.StoresIn.store _ _ ⟨Nat.zero_le _, ?_⟩
      simp only [length_read, hpart, packetReassemblyBufferSize]
      omega
    · rcases hcase with ⟨-, hposition⟩ | ⟨hpacket, -⟩
      · rw [hcopied, hposition, ← h.stored, BitVec.toNat_add, BitVec.toNat_setWidth, hpart]
        omega
      · exact absurd (hnone.symm.trans hpacket) (Option.some_ne_none _).symm
    · exact absurd hzero hstored
    · rcases hcase with ⟨hpacket, -⟩ | ⟨hpacket, -⟩
      · exact absurd (hpacket.symm.trans hsome) (Option.some_ne_none _).symm
      -- the packet is as long as what has been stored
      · have hposition := r.connection.packetReassemblyPosition.isLt
        rw [← Option.some.inj (hpacket.symm.trans hsome), hcopied, ← h.stored]
        simp only [sizeofConnPacketSplitHeader]
        bv_omega

theorem Assembled.contained_iff (h : Assembled r)
    (hlen : event.len.toNat ≤ meshCharacteristicMaxLength) :
    Contained r event ↔ FitsBuffer r event := by
  unfold FitsBuffer
  by_cases hzero : r.connection.packetReassemblyPosition = 0
  · exact iff_of_true (h.contained_first hlen hzero) (.inl hzero)
  · rw [h.contained_next_iff hlen hzero]
    exact (or_iff_right hzero).symm

/-- A copy that ends in the buffer leaves the stored bytes within it. -/
theorem Contained.room (hcontained : Contained r event) (h : Assembled r)
    (hlen : event.len.toNat ≤ meshCharacteristicMaxLength) :
    r.stored + copied r.connection.packetReassemblyBuffer
      (r.connection.messageReceivedCallback event).connection.packetReassemblyBuffer ≤
        packetReassemblyBufferSize := by
  have hroom := h.room
  have hstored := h.stored
  unfold meshCharacteristicMaxLength at hlen
  rcases callback_cases r.connection event with ⟨hzero, hcase⟩ | ⟨hne, buffer, rfl, hbuffer, -⟩
  · rw [hzero] at hstored
    have hnone : r.stored = 0 := hstored.symm
    rcases hcase with ⟨-, hbuffer, -⟩ | ⟨-, hsame⟩
    · rw [hbuffer, copied_store, length_read, hnone]
      simp only [packetReassemblyBufferSize]
      omega
    · rw [hsame, copied_self]
      exact hroom
  · obtain ⟨hpos, hfit⟩ := (h.contained_next_iff hlen hne).mp hcontained
    rw [hbuffer, copied_store, length_read, partLength_toNat hpos, ← hstored]
    simp only [sizeofConnPacketSplitHeader] at hfit
    omega

/-- Behind a packet that is complete the next one starts at the beginning of the buffer. -/
theorem position_of_packet {packet : ConnectionPacket}
    (hpacket : (r.connection.messageReceivedCallback event).packet = some packet) :
    (r.connection.messageReceivedCallback event).connection.packetReassemblyPosition.toNat = 0 := by
  rcases callback_cases r.connection event with ⟨hzero, hcase⟩ | ⟨-, buffer, -, -, hcase⟩
  · rcases hcase with ⟨hnone, -⟩ | ⟨-, hsame⟩
    · exact absurd (hnone.symm.trans hpacket) (Option.some_ne_none _).symm
    · rw [hsame, hzero]
      rfl
  · rcases hcase with ⟨hnone, -⟩ | ⟨-, hposition⟩
    · exact absurd (hnone.symm.trans hpacket) (Option.some_ne_none _).symm
    · rw [hposition]
      rfl

/-! ## Runs -/

theorem Assembled.step (h : Assembled r) {event : ReceiverEvent} (hmay : May r event)
    (hfit : Fit r event) : Assembled (apply txBuffersPerLink r event) := by
  cases event with
  | write event =>
      obtain ⟨-, hlen⟩ := hmay
      have hcontained := (h.contained_iff hlen).mpr hfit
      have hroom := hcontained.room h hlen
      cases hpacket : (r.connection.messageReceivedCallback event).packet with
      | none =>
          have heq : apply txBuffersPerLink r (.write event) =
              ⟨(r.connection.messageReceivedCallback event).connection,
                r.stored + copied r.connection.packetReassemblyBuffer
                  (r.connection.messageReceivedCallback event).connection.packetReassemblyBuffer⟩ := by
            simp only [apply, hpacket]
            rfl
          rw [heq]
          exact ⟨hcontained.position hpacket, hroom⟩
      | some packet =>
          have heq : apply txBuffersPerLink r (.write event) =
              ⟨(r.connection.messageReceivedCallback event).connection, 0⟩ := by
            simp only [apply, hpacket]
            rfl
          rw [heq]
          exact ⟨position_of_packet hpacket, Nat.zero_le _⟩
  | disconnected => exact ⟨rfl, Nat.zero_le _⟩
  | connected handle => exact ⟨h.stored, h.room⟩

theorem Assembled.run {events : List ReceiverEvent}
    (hrun : Run (apply txBuffersPerLink) (fun r event => May r event ∧ Fit r event) r events r')
    (h : Assembled r) : Assembled r' :=
  hrun.preserves (fun _ _ h hok => h.step hok.1 hok.2) h

/-- **Reassembly.**  After any writes that fit, between which the link may be lost and set up
again, the next write is handled within the buffer exactly if it fits too. -/
theorem reassembly_contained_iff {start : Receiver} {events : List ReceiverEvent}
    (hposition : start.connection.packetReassemblyPosition = 0) (hstored : start.stored = 0)
    (hrun : Run (apply txBuffersPerLink) (fun r event => May r event ∧ Fit r event) start events r)
    (hmay : May r (.write event)) : Contained r event ↔ FitsBuffer r event := by
  have hstart : Assembled start := by
    refine ⟨?_, hstored ▸ Nat.zero_le _⟩
    rw [hposition, hstored]
    rfl
  exact (hstart.run hrun).contained_iff hmay.2

/-- A write of 100 bytes after which more parts follow. -/
def hundred : WriteEvent := ⟨fun _ => 183, 100, false⟩

/-- A node that has just been connected. -/
def ready : Receiver :=
  ⟨{ Traffic.fresh.connection inConnection with isConnected := true }, 0⟩

/-- After one such write there is room for another. -/
theorem reassembly_contained_twoHundred :
    Contained (apply 7 ready (.write hundred)) hundred ↔
      FitsBuffer (apply 7 ready (.write hundred)) hundred :=
  reassembly_contained_iff rfl rfl
    (show Run (apply 7) (fun r event => May r event ∧ Fit r event) ready [.write hundred] _ from
      Run.of_replays (by decide)) (by decide)

/-- The third one is copied to the cells from 199 to 297. -/
theorem reassembly_beyond : ¬ ∀ (events : List ReceiverEvent) (r : Receiver),
    Run (apply 7) May ready events r → ∀ event, May r (.write event) → Contained r event := by
  intro h
  have hlen : hundred.len.toNat ≤ meshCharacteristicMaxLength := by decide
  have hruns : Run (apply 7) (fun r event => May r event ∧ Fit r event) ready
      [.write hundred, .write hundred] _ := Run.of_replays (by decide)
  have hassembled : Assembled ready := ⟨rfl, Nat.zero_le _⟩
  have hcontained := h [.write hundred, .write hundred] _
    (hruns.mono fun _ _ hok => hok.1) hundred (by decide)
  have hfits := ((hassembled.run hruns).contained_iff hlen).mp hcontained
  exact absurd hfits (show ¬ Fit _ (.write hundred) by decide)

end Receiver

end FruityMesh.Transport
