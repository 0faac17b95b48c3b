import FruityMesh.Transport.Sender

/-!
# Writes into the send queue

While a packet is sent, bytes of it are changed in the send queue: the bit for more parts in
its first byte, the header of a part that is not the first one, and the time in a timestamp
packet.  The packet is followed directly by the length byte of the next one, or by the zero
that ends the queue.

`AtHead` is the state of a connection whose read pointer stands on a packet of any type.  Each
write of `sendReliable` and `sendUnreliable` keeps it (`AtHead.edit`) as long as the packet has
room for the time (`Fits`): the 8 bytes from the seventh byte of the part on.
-/

namespace FruityMesh.Transport

open Cells PacketQueue

/-! ## Packets in the queue -/

/-- The element is sent with write requests. -/
def ByRequest (x : List U8) : Prop := x.headD 0 ≠ 0 ∨ maxDataSizePerWrite < x.tail.length

instance (x : List U8) : Decidable (ByRequest x) := inferInstanceAs (Decidable (_ ∨ _))

/-- The size of the last part of a packet. -/
def lastPart (length : ℕ) : ℕ :=
  if length ≤ maxDataSizePerWrite then length
  else (length - 2) % (maxDataSizePerWrite - sizeofConnPacketSplitHeader) + 2

theorem lastPart_short {length : ℕ} (h : length ≤ 20) : lastPart length = length := if_pos h

theorem lastPart_long {length : ℕ} (h : 20 < length) : lastPart length = (length - 2) % 19 + 2 :=
  if_neg (Nat.not_le.mpr h)

/-- The size of the timestamp struct, whose last 8 bytes are the time. -/
def timestampStruct : ℕ := 15

/-- An element of the queue, its flag byte in front: the packet has at least one byte, and room
for the time if that is written to it. -/
structure Fits (x : List U8) : Prop where
  nonempty : 0 < x.tail.length
  short : x.tail.length ≤ 252
  stamped : ByRequest x → packetType x.tail = messageTypeUpdateTimestamp →
    timestampStruct ≤ lastPart x.tail.length

instance (x : List U8) : Decidable (Fits x) :=
  decidable_of_iff (0 < x.tail.length ∧ x.tail.length ≤ 252 ∧
      (ByRequest x → packetType x.tail = messageTypeUpdateTimestamp →
        timestampStruct ≤ lastPart x.tail.length))
    ⟨fun ⟨hnonempty, hshort, hstamped⟩ => ⟨hnonempty, hshort, hstamped⟩,
      fun ⟨hnonempty, hshort, hstamped⟩ => ⟨hnonempty, hshort, hstamped⟩⟩

/-- A part of a packet begins at the position. -/
def PartStart (length position : ℕ) : Prop :=
  position = 0 ∨ 20 < length ∧ 19 ∣ position ∧ position + 1 < length

theorem PartStart.lt {length position : ℕ} (h : PartStart length position) (hpos : 0 < length) :
    position < length := by
  rcases h with rfl | ⟨-, -, hlt⟩ <;> omega

/-- A part that is not the last one has 20 bytes. -/
theorem PartStart.lastPart_le {length position : ℕ} (h : PartStart length position) :
    min 20 (lastPart length) ≤ length - position := by
  rcases Nat.lt_or_ge 20 length with hlong | hshort
  · rw [lastPart_long hlong]
    rcases h with rfl | ⟨-, ⟨k, rfl⟩, hlt⟩ <;> omega
  · rw [lastPart_short hshort]
    rcases h with rfl | ⟨hlong, -, -⟩ <;> omega

/-- What a write into a packet does not change about it. -/
structure Alike (x x' : List U8) : Prop where
  length : x'.length = x.length
  flag : x'.headD 0 = x.headD 0
  type : packetType x'.tail = packetType x.tail

namespace Alike

variable {x x' x'' : List U8}

theorem refl (x : List U8) : Alike x x := ⟨rfl, rfl, rfl⟩

theorem trans (h : Alike x x') (h' : Alike x' x'') : Alike x x'' :=
  ⟨h'.length.trans h.length, h'.flag.trans h.flag, h'.type.trans h.type⟩

theorem tail_length (h : Alike x x') : x'.tail.length = x.tail.length := by
  rw [List.length_tail, List.length_tail, h.length]

theorem byRequest (h : Alike x x') : ByRequest x' ↔ ByRequest x := by
  rw [ByRequest, ByRequest, h.flag, h.tail_length]

theorem fits (h : Alike x x') (hfits : Fits x) : Fits x' := by
  have hlength := h.tail_length
  refine ⟨hlength ▸ hfits.nonempty, hlength ▸ hfits.short, fun hrequest htype => ?_⟩
  rw [hlength]
  exact hfits.stamped (h.byRequest.mp hrequest) (h.type.symm.trans htype)

end Alike

/-! ## The packet in front -/

variable {c : Connection} {x x' x'' : List U8} {rest : List (List U8)} {memory : Memory U8}

/-- The flag byte, the first byte and the packet of the element in front. -/
theorem head_bytes {q : PacketQueue} (h : Represents q true (x :: rest))
    (hnonempty : 0 < x.tail.length) :
    q.memory.cell (q.readPointer + 1) = x.headD 0 ∧
      q.memory.cell (q.readPointer + 2) = x.tail.headD 0 ∧
      Holds q.memory.cell (q.readPointer + 2) x.tail := by
  obtain ⟨-, hholds, -⟩ := h.head
  cases x with
  | nil => simp at hnonempty
  | cons flag data =>
      obtain ⟨hflag, hdata⟩ := holds_cons.mp hholds
      cases data with
      | nil => simp at hnonempty
      | cons first data => exact ⟨hflag, (holds_cons.mp hdata).1, hdata⟩

/-- The connection with other bytes in its send buffer. -/
def Connection.withMemory (c : Connection) (memory : Memory U8) : Connection :=
  { c with packetSendQueue := { c.packetSendQueue with memory := memory } }

/-- The read pointer stands on the element `x`, whose packet is transmitted up to
`packetSendPosition`. -/
structure AtHead (c : Connection) (x : List U8) (rest : List (List U8)) : Prop where
  queue : Represents c.packetSendQueue true (x :: rest)
  fits : Fits x
  position : PartStart x.tail.length c.packetSendPosition.toNat

/-- Writing some bytes of the packet in front has made `x'` of it. -/
structure HeadEdit (c : Connection) (x : List U8) (rest : List (List U8)) (memory : Memory U8)
    (x' : List U8) : Prop where
  atHead : AtHead (c.withMemory memory) x' rest
  alike : Alike x x'
  stores : c.packetSendQueue.memory.StoresIn ⟨c.headData, x.tail.length⟩ memory

namespace AtHead

theorem sendByte (h : AtHead c x rest) {k : ℕ} (hk : k < x.tail.length) :
    c.sendByte (c.headData + k) = x.tail.getD k 0 := by
  rw [List.getD_eq_getElem _ _ hk]
  exact (head_bytes h.queue h.fits.nonempty).2.2 k hk

theorem type (h : AtHead c x rest) : messageTypeOf (c.sendByte c.headData) = packetType x.tail :=
  congrArg messageTypeOf (head_bytes h.queue h.fits.nonempty).2.1

theorem refl (h : AtHead c x rest) : HeadEdit c x rest c.packetSendQueue.memory x :=
  ⟨h, .refl x, .refl _ _⟩

/-- A write inside the packet in front, which keeps the message type. -/
theorem edit (h : AtHead c x rest) {k : ℕ} {bytes : List U8}
    (hfit : k + bytes.length ≤ x.tail.length)
    (htype : k = 0 → ∃ more, bytes = [firstByte more (packetType x.tail)]) :
    ∃ x', HeadEdit c x rest (c.packetSendQueue.memory.store (c.headData + k) bytes) x' := by
  have hlength : x.length = x.tail.length + 1 := by
    have := h.fits.nonempty
    rw [List.length_tail] at this ⊢
    omega
  have hpointer : c.packetSendQueue.readPointer + 1 + (k + 1) = c.headData + k := by
    simp only [Connection.headData]
    omega
  have hstored := h.queue.store_within (i := k + 1) (show k + 1 + bytes.length ≤ x.length by omega)
  rw [hpointer] at hstored
  -- the element is what now stands in the memory
  let cell := overwrite c.packetSendQueue.memory.cell (c.headData + k) bytes
  let x' := read cell (c.packetSendQueue.readPointer + 1) x.length
  have hnonempty : 0 < x'.tail.length := by
    rw [List.length_tail, length_read, hlength]
    exact h.fits.nonempty
  obtain ⟨hflag, -, -⟩ := head_bytes h.queue h.fits.nonempty
  obtain ⟨hflag', hfirst', -⟩ := head_bytes hstored hnonempty
  have halike : Alike x x' := by
    refine ⟨length_read _ _ _, ?_, ?_⟩
    · calc
        x'.headD 0 = cell (c.packetSendQueue.readPointer + 1) := hflag'.symm
        _ = c.packetSendQueue.memory.cell (c.packetSendQueue.readPointer + 1) :=
          overwrite_of_lt _ _ (by simp only [Connection.headData]; omega)
        _ = x.headD 0 := hflag
    · have htype' : packetType x'.tail = messageTypeOf (cell c.headData) :=
        (congrArg messageTypeOf hfirst').symm
      rw [htype']
      rcases Nat.eq_zero_or_pos k with hzero | hpos
      · obtain ⟨more, rfl⟩ := htype hzero
        subst hzero
        have hcell : cell c.headData = firstByte more (packetType x.tail) := by
          simp [cell, overwrite]
        rw [hcell, messageTypeOf_firstByte]
      · rw [← h.type]
        exact congrArg messageTypeOf (overwrite_of_lt _ _ (by omega))
  refine ⟨x', ⟨hstored, halike.fits h.fits, ?_⟩, halike, Memory.StoresIn.store _ _ ?_⟩
  · rw [halike.tail_length]
    exact h.position
  · exact ⟨Nat.le_add_right _ _, by rw [Nat.add_assoc]; exact Nat.add_le_add_left hfit _⟩

end AtHead

theorem HeadEdit.trans {memory' : Memory U8} (h : HeadEdit c x rest memory x')
    (h' : HeadEdit (c.withMemory memory) x' rest memory' x'') :
    HeadEdit c x rest memory' x'' := by
  refine ⟨h'.atHead, h.alike.trans h'.alike, h.stores.trans ?_⟩
  have hstores := h'.stores
  rw [h.alike.tail_length] at hstores
  exact hstores

/-! ## Sending it -/

/-- The header in the queue says whether more parts follow behind the one at `position`. -/
def HeaderRight (x : List U8) (position : ℕ) : Prop :=
  hasMorePartsOf (x.tail.getD position 0) = decide (position + 20 < x.tail.length)

@[simp] theorem withMemory_headData (c : Connection) (memory : Memory U8) :
    (c.withMemory memory).headData = c.headData := rfl

@[simp] theorem withMemory_packetSendPosition (c : Connection) (memory : Memory U8) :
    (c.withMemory memory).packetSendPosition = c.packetSendPosition := rfl

namespace AtHead

theorem dataSize (h : AtHead c x rest) :
    (BitVec.ofNat 16 x.tail.length).toNat = x.tail.length := by
  have := h.fits.short
  rw [BitVec.toNat_ofNat]
  omega

theorem position_lt (h : AtHead c x rest) : c.packetSendPosition.toNat < x.tail.length :=
  h.position.lt h.fits.nonempty

/-- The header of a part is written, which keeps the message type. -/
theorem writeHeader (h : AtHead c x rest) (more : Bool) :
    ∃ x', HeadEdit c x rest
        (c.packetSendQueue.memory.store (c.headData + c.packetSendPosition.toNat)
          [firstByte more (packetType x.tail)]) x' ∧
      x'.tail.getD c.packetSendPosition.toNat 0 = firstByte more (packetType x.tail) := by
  have hpos := h.position_lt
  obtain ⟨x', hedit⟩ := h.edit
    (show c.packetSendPosition.toNat + [firstByte more (packetType x.tail)].length ≤ x.tail.length
      from hpos) fun _ => ⟨more, rfl⟩
  refine ⟨x', hedit, ?_⟩
  have hbyte := hedit.atHead.sendByte (k := c.packetSendPosition.toNat)
    (by rw [hedit.alike.tail_length]; exact hpos)
  rw [← hbyte]
  simp [Connection.sendByte, Connection.withMemory, Connection.headData, overwrite]

/-- The part that is sent next: where its first byte stands, it says what it is. -/
theorem choosePart (h : AtHead c x rest)
    (hheader : x.tail.length ≤ 20 → HeaderRight x c.packetSendPosition.toNat) :
    ∃ memory x', HeadEdit c x rest memory x' ∧
      HeaderRight x' c.packetSendPosition.toNat ∧
      messageTypeOf (x'.tail.getD c.packetSendPosition.toNat 0) = packetType x.tail ∧
      (if (BitVec.ofNat 16 x.tail.length).toNat > maxDataSizePerWrite then
          c.nextPart c.headData (BitVec.ofNat 16 x.tail.length)
        else (c, c.headData, BitVec.ofNat 16 x.tail.length)) =
        (c.withMemory memory, c.headData + c.packetSendPosition.toNat,
          BitVec.ofNat 16 (min 20 (x.tail.length - c.packetSendPosition.toNat))) := by
  have hpos := h.position_lt
  rw [h.dataSize]
  rcases Nat.lt_or_ge 20 x.tail.length with hlong | hshort
  · obtain ⟨x', hedit, hbyte⟩ :=
      h.writeHeader (decide (c.packetSendPosition.toNat + 20 < x.tail.length))
    refine ⟨_, x', hedit, ?_, ?_, ?_⟩
    · rw [HeaderRight, hbyte, hasMorePartsOf_firstByte, hedit.alike.tail_length]
    · rw [hbyte, messageTypeOf_firstByte]
    · rw [if_pos (show x.tail.length > maxDataSizePerWrite from hlong),
        c.nextPart_eq_of h.type hlong h.fits.short hpos]
      rfl
  · have hzero : c.packetSendPosition.toNat = 0 := by
      rcases h.position with hzero | ⟨hlong, -, -⟩
      · exact hzero
      · omega
    refine ⟨_, x, h.refl, hheader hshort, ?_, ?_⟩
    · rw [← h.type, ← h.sendByte hpos, hzero, Nat.add_zero]
    · rw [if_neg (show ¬ x.tail.length > maxDataSizePerWrite from Nat.not_lt.mpr hshort),
        hzero, Nat.add_zero, Nat.sub_zero, Nat.min_eq_right hshort]
      rfl

/-- The time is written into the part, which has room for it. -/
theorem stamp (h : AtHead c x rest) (now : U64) (hrequest : ByRequest x)
    (hheader : HeaderRight x c.packetSendPosition.toNat)
    (htype : packetType x.tail = messageTypeUpdateTimestamp) :
    ∃ x', HeadEdit c x rest
        (c.packetSendQueue.memory.store (c.headData + c.packetSendPosition.toNat + 7)
          (u64Bytes now)) x' ∧
      HeaderRight x' c.packetSendPosition.toNat := by
  have hroom := h.fits.stamped hrequest htype
  have hpart := h.position.lastPart_le
  have hpos := h.position_lt
  unfold timestampStruct at hroom
  obtain ⟨x', hedit⟩ := h.edit
    (show c.packetSendPosition.toNat + 7 + (u64Bytes now).length ≤ x.tail.length by
      rw [length_u64Bytes]; omega) fun hzero => absurd hzero (by omega)
  rw [← Nat.add_assoc] at hedit
  refine ⟨x', hedit, ?_⟩
  -- the header stands in front of the time
  have hsame : x'.tail.getD c.packetSendPosition.toNat 0 =
      x.tail.getD c.packetSendPosition.toNat 0 := by
    have hpos' : c.packetSendPosition.toNat < x'.tail.length := hedit.alike.tail_length ▸ hpos
    rw [← h.sendByte hpos, ← hedit.atHead.sendByte hpos']
    exact overwrite_of_lt _ _ (by simp only [withMemory_headData]; omega)
  rw [HeaderRight, hsame, hedit.alike.tail_length]
  exact hheader

/-- With a buffer free, the next part is written, and only bytes of the packet are changed. -/
theorem sendReliable (h : AtHead c x rest) (now : U64) (hfree : c.reliableBuffersFree ≠ 0)
    (hrequest : ByRequest x)
    (hheader : x.tail.length ≤ 20 → HeaderRight x c.packetSendPosition.toNat) :
    ∃ memory x' data, HeadEdit c x rest memory x' ∧
      HeaderRight x' c.packetSendPosition.toNat ∧ data ≠ [] ∧
      c.sendReliable now c.headData (BitVec.ofNat 16 x.tail.length) =
        ⟨{ c.withMemory memory with reliableBuffersFree := c.reliableBuffersFree - 1 },
          bleWriteCharacteristic c.connectionHandle c.writeCharacteristicHandle data true,
          false⟩ := by
  have hpos := h.position_lt
  obtain ⟨memory, x', hedit, hheader', htype, hpart⟩ := h.choosePart hheader
  have hbyte : (c.withMemory memory).sendByte (c.headData + c.packetSendPosition.toNat) =
      x'.tail.getD c.packetSendPosition.toNat 0 :=
    hedit.atHead.sendByte (hedit.alike.tail_length ▸ hpos)
  have hdata : ∀ cell : ℕ → U8, read cell (c.headData + c.packetSendPosition.toNat)
      (BitVec.ofNat 16 (min 20 (x.tail.length - c.packetSendPosition.toNat))).toNat ≠ [] := by
    intro cell hnil
    have hlength := congrArg List.length hnil
    rw [length_read, BitVec.toNat_ofNat, List.length_nil] at hlength
    omega
  rw [Connection.sendReliable, if_neg hfree, hpart]
  dsimp only
  rw [hbyte, htype]
  by_cases hstamp : packetType x.tail = messageTypeUpdateTimestamp
  · obtain ⟨x'', hstamped, hheader''⟩ := hedit.atHead.stamp now (hedit.alike.byRequest.mpr hrequest)
      hheader' (hedit.alike.type.trans hstamp)
    rw [if_pos hstamp]
    exact ⟨_, x'', _, hedit.trans hstamped, hheader'', hdata _, rfl⟩
  · rw [if_neg hstamp]
    exact ⟨memory, x', _, hedit, hheader', hdata _, rfl⟩

end AtHead

/-! ## One pass of the loop -/

/-- What one pass of the loop in `fillTransmitBuffers` does with the packet in front: the buffer
for it is not free, or it is sent with a request, or with a command and discarded. -/
inductive Passed (c : Connection) (x : List U8) (rest : List (List U8)) : Pass → Prop
  | full (memory : Memory U8) (x' : List U8) (hedit : HeadEdit c x rest memory x')
      (hheader : HeaderRight x c.packetSendPosition.toNat →
        HeaderRight x' c.packetSendPosition.toNat)
      (hnone : if ByRequest x then c.reliableBuffersFree = 0 else c.unreliableBuffersFree = 0) :
      Passed c x rest ⟨c.withMemory memory, none, true⟩
  | request (memory : Memory U8) (x' : List U8) (data : List U8)
      (hedit : HeadEdit c x rest memory x')
      (hheader : HeaderRight x' c.packetSendPosition.toNat)
      (hrequest : ByRequest x) (hfree : c.reliableBuffersFree ≠ 0) (hdata : data ≠ []) :
      Passed c x rest
        ⟨{ c.withMemory memory with reliableBuffersFree := c.reliableBuffersFree - 1 },
          bleWriteCharacteristic c.connectionHandle c.writeCharacteristicHandle data true, false⟩
  | command (memory : Memory U8) (x' : List U8) (data : List U8)
      (hedit : HeadEdit c x rest memory x')
      (hrequest : ¬ ByRequest x) (hfree : c.unreliableBuffersFree ≠ 0) (hdata : data ≠ []) :
      Passed c x rest
        ⟨{ c.withMemory memory with
            unreliableBuffersFree := c.unreliableBuffersFree - 1
            packetSendQueue := (c.withMemory memory).packetSendQueue.discardNext },
          bleWriteCharacteristic c.connectionHandle c.writeCharacteristicHandle data false, false⟩

namespace AtHead

/-- A reliable packet is sent, or its buffer is not free. -/
theorem passed_reliable (h : AtHead c x rest) (now : U64) (hrequest : ByRequest x)
    (hheader : x.tail.length ≤ 20 → HeaderRight x c.packetSendPosition.toNat) :
    Passed c x rest (c.sendReliable now c.headData (BitVec.ofNat 16 x.tail.length)) := by
  by_cases hfree : c.reliableBuffersFree = 0
  · rw [Connection.sendReliable, if_pos hfree]
    exact .full _ x h.refl (fun hsame => hsame) (by rwa [if_pos hrequest])
  · obtain ⟨memory, x', data, hedit, hheader', hdata, heq⟩ :=
      h.sendReliable now hfree hrequest hheader
    rw [heq]
    exact .request memory x' data hedit hheader' hrequest hfree hdata

/-- An unreliable packet is sent, or its buffer is not free. -/
theorem passed_unreliable (h : AtHead c x rest) (hrequest : ¬ ByRequest x) :
    Passed c x rest (c.sendUnreliable c.headData (BitVec.ofNat 16 x.tail.length)) := by
  by_cases hfree : c.unreliableBuffersFree = 0
  · rw [Connection.sendUnreliable, if_pos hfree]
    exact .full _ x h.refl (fun hsame => hsame) (by rwa [if_neg hrequest])
  · rw [Connection.sendUnreliable, if_neg hfree, h.dataSize]
    refine .command c.packetSendQueue.memory x _ h.refl hrequest hfree ?_
    intro hnil
    have hlength := congrArg List.length hnil
    rw [length_read, List.length_nil] at hlength
    exact absurd hlength h.fits.nonempty.ne'

/-- The bit for more parts is cleared before a packet that fits into one write is looked at. -/
theorem clearHeader (h : AtHead c x rest) (hshort : x.tail.length ≤ 20) :
    ∃ x', HeadEdit c x rest
        (c.packetSendQueue.memory.store c.headData [firstByte false (packetType x.tail)]) x' ∧
      HeaderRight x' c.packetSendPosition.toNat := by
  have hzero : c.packetSendPosition.toNat = 0 := by
    rcases h.position with hzero | ⟨hlong, -, -⟩
    · exact hzero
    · omega
  obtain ⟨x', hedit, hbyte⟩ := h.writeHeader false
  rw [hzero, Nat.add_zero] at hedit
  refine ⟨x', hedit, ?_⟩
  have hlast : decide (0 + 20 < x'.tail.length) = false :=
    decide_eq_false (by rw [hedit.alike.tail_length]; omega)
  rw [HeaderRight, hbyte, hasMorePartsOf_firstByte, hzero, hlast]

end AtHead

/-- What has been done to the packet in front before the pass is part of what the pass does. -/
theorem Passed.after_edit {pass : Pass} (hedit : HeadEdit c x rest memory x')
    (hheader : HeaderRight x' c.packetSendPosition.toNat)
    (h : Passed (c.withMemory memory) x' rest pass) : Passed c x rest pass := by
  have hiff := hedit.alike.byRequest
  cases h with
  | full memory' x'' hedit' hheader' hnone =>
      simp only [hiff] at hnone
      exact .full memory' x'' (hedit.trans hedit') (fun _ => hheader' hheader) hnone
  | request memory' x'' data hedit' hheader' hrequest hfree hdata =>
      exact .request memory' x'' data (hedit.trans hedit') hheader' (hiff.mp hrequest) hfree hdata
  | command memory' x'' data hedit' hrequest hfree hdata =>
      exact .command memory' x'' data (hedit.trans hedit') (fun hx => hrequest (hiff.mpr hx)) hfree
        hdata

/-- The case distinction of the loop, on the packet in front. -/
theorem AtHead.transmitNext (h : AtHead c.peekQueue x rest) (now : U64)
    (hpeek : c.packetSendQueue.peekNext.2 =
      ⟨some (c.packetSendQueue.peekNext.1.readPointer + 1), BitVec.ofNat 16 x.length⟩) :
    Passed c.peekQueue x rest (c.transmitNext now) := by
  have hlength : x.length = x.tail.length + 1 := by
    have := h.fits.nonempty
    rw [List.length_tail] at this ⊢
    omega
  have hsize : (BitVec.ofNat 16 x.length - 1 : U16) = BitVec.ofNat 16 x.tail.length := by
    have := h.fits.short
    rw [hlength]
    bv_omega
  have hflag : c.peekQueue.sendByte (c.packetSendQueue.peekNext.1.readPointer + 1) = x.headD 0 :=
    (head_bytes h.queue h.fits.nonempty).1
  have hpointer : c.packetSendQueue.peekNext.1.readPointer + 1 + 1 = c.peekQueue.headData := rfl
  unfold Connection.transmitNext
  simp only [hpeek, hsize, h.dataSize, hflag, hpointer, h.type]
  rcases Nat.lt_or_ge 20 x.tail.length with hlong | hshort
  · rw [if_pos (show x.tail.length > maxDataSizePerWrite from hlong)]
    exact h.passed_reliable now (.inr hlong) fun hle => absurd hlong (Nat.not_lt.mpr hle)
  · rw [if_neg (show ¬ x.tail.length > maxDataSizePerWrite from Nat.not_lt.mpr hshort)]
    obtain ⟨x', hedit, hheader⟩ := h.clearHeader hshort
    refine .after_edit hedit hheader ?_
    rw [← hedit.alike.tail_length]
    have hiff := hedit.alike.byRequest
    by_cases hreliable : x.headD 0 ≠ 0
    · rw [if_pos hreliable]
      exact hedit.atHead.passed_reliable now (hiff.mpr (.inl hreliable)) fun _ => hheader
    · rw [if_neg hreliable]
      refine hedit.atHead.passed_unreliable fun hrequest => ?_
      rcases hiff.mp hrequest with hflag | hlong
      · exact hreliable hflag
      · exact absurd hlong (Nat.not_lt.mpr hshort)

/-! ## The loop -/

/-- The connection has the elements to send, and up to `requests` write requests under way. -/
structure Holding (c : Connection) (requests : ℕ) (xs : List (List U8)) : Prop where
  queue : ∃ peeked, Represents c.packetSendQueue peeked xs
  fits : ∀ x ∈ xs, Fits x
  position : PartStart (xs.headD []).tail.length c.packetSendPosition.toNat
  header : 0 < requests → xs ≠ [] ∧ ByRequest (xs.headD []) ∧
    HeaderRight (xs.headD []) c.packetSendPosition.toNat

variable {requests : ℕ} {xs : List (List U8)} {now : U64}

/-- `PeekNext` only reads. -/
theorem peekQueue_queue (c : Connection) :
    c.peekQueue.packetSendQueue.numElements = c.packetSendQueue.numElements ∧
      c.peekQueue.packetSendQueue.bufferLength = c.packetSendQueue.bufferLength ∧
      c.peekQueue.packetSendQueue.memory.stores = c.packetSendQueue.memory.stores := by
  simp only [Connection.peekQueue, PacketQueue.peekNext]
  split <;> exact ⟨rfl, rfl, rfl⟩

namespace Holding

/-- After `PeekNext` the connection stands on the packet in front. -/
theorem peek (h : Holding c requests (x :: rest)) :
    AtHead c.peekQueue x rest ∧
      c.packetSendQueue.peekNext.2 =
        ⟨some (c.packetSendQueue.peekNext.1.readPointer + 1), BitVec.ofNat 16 x.length⟩ := by
  obtain ⟨peeked, hrep⟩ := h.queue
  obtain ⟨start, heq, hpeek, hstart, -⟩ := hrep.peekNext_cons
  subst hstart
  exact ⟨⟨hpeek, h.fits x List.mem_cons_self, h.position⟩, heq⟩

theorem numElements (h : Holding c requests xs) :
    c.packetSendQueue.numElements.toNat = xs.length := by
  obtain ⟨peeked, hrep⟩ := h.queue
  exact hrep.count

/-- One pass keeps the packets behind the one in front, and the counters say what is sent. -/
theorem pass (h : Holding c requests (x :: rest)) (now : U64) :
    ∃ xs', Holding (c.transmitNext now).connection
        (requests + (c.transmitNext now).write.toList.countP (·.reliable)) xs' ∧
      ((∃ x', Alike x x' ∧ xs' = x' :: rest) ∨ xs' = rest) := by
  obtain ⟨hhead, hpeek⟩ := h.peek
  have hrest : ∀ y ∈ rest, Fits y := fun y hy => h.fits y (List.mem_cons_of_mem x hy)
  have hpassed := hhead.transmitNext now hpeek
  generalize c.transmitNext now = pass at hpassed
  -- in front is the same packet, perhaps edited, unless it was sent with a command
  cases hpassed with
  | full memory x' hedit hheader hnone =>
      refine ⟨x' :: rest, ⟨⟨true, hedit.atHead.queue⟩, ?_, hedit.atHead.position, ?_⟩,
        .inl ⟨x', hedit.alike, rfl⟩⟩
      · exact List.forall_mem_cons.mpr ⟨hedit.atHead.fits, hrest⟩
      · intro hpos
        obtain ⟨-, hrequest, hright⟩ := h.header hpos
        exact ⟨List.cons_ne_nil _ _, hedit.alike.byRequest.mpr hrequest, hheader hright⟩
  | request memory x' data hedit hheader hrequest hfree hdata =>
      refine ⟨x' :: rest, ⟨⟨true, hedit.atHead.queue⟩, ?_, hedit.atHead.position, ?_⟩,
        .inl ⟨x', hedit.alike, rfl⟩⟩
      · exact List.forall_mem_cons.mpr ⟨hedit.atHead.fits, hrest⟩
      · exact fun _ => ⟨List.cons_ne_nil _ _, hedit.alike.byRequest.mpr hrequest, hheader⟩
  | command memory x' data hedit hrequest hfree hdata =>
      have hzero : c.packetSendPosition.toNat = 0 := by
        rcases h.position with hzero | ⟨hlong, -, -⟩
        · exact hzero
        · exact absurd (.inr hlong) hrequest
      have hnone : requests + (bleWriteCharacteristic c.peekQueue.connectionHandle
          c.peekQueue.writeCharacteristicHandle data false).toList.countP (·.reliable) = 0 := by
        have hrequests : requests = 0 := by
          by_contra hne
          exact hrequest (h.header (Nat.pos_of_ne_zero hne)).2.1
        rw [hrequests, bleWriteCharacteristic]
        split <;> rfl
      refine ⟨rest, ⟨⟨false, hedit.atHead.queue.discardNext⟩, hrest, .inl hzero, ?_⟩, .inr rfl⟩
      intro hpos
      rw [hnone] at hpos
      exact absurd hpos (Nat.lt_irrefl 0)

end Holding

/-- What is left of the elements of a queue: the first ones are gone, and the packet that is
now in front may be edited. -/
inductive Left (xs : List (List U8)) : List (List U8) → Prop
  | nil : Left xs []
  | front (gone rest : List (List U8)) (x x' : List U8) (hxs : xs = gone ++ x :: rest)
      (halike : Alike x x') : Left xs (x' :: rest)

namespace Left

theorem drop (xs : List (List U8)) (n : ℕ) : Left xs (xs.drop n) := by
  cases h : xs.drop n with
  | nil => exact .nil
  | cons x rest => exact .front (xs.take n) rest x x (by rw [← h, List.take_append_drop]) (.refl x)

theorem refl (xs : List (List U8)) : Left xs xs := drop xs 0

theorem trans {ys zs : List (List U8)} (h : Left xs ys) (h' : Left ys zs) : Left xs zs := by
  cases h' with
  | nil => exact .nil
  | front gone rest y z hys halike =>
      cases h with
      | nil => simp at hys
      | front gone' rest' x y' hxs halike' =>
          cases gone with
          | nil =>
              obtain ⟨rfl, rfl⟩ := List.cons.inj hys
              exact .front gone' rest' x z hxs (halike'.trans halike)
          | cons g gone =>
              obtain ⟨-, rfl⟩ := List.cons.inj hys
              refine .front (gone' ++ x :: gone) rest y z ?_ halike
              rw [hxs, List.append_assoc]
              rfl

/-- If no element is gone, those behind the first one are the same. -/
theorem tail_eq {ys : List (List U8)} (h : Left xs ys) (hlength : ys.length = xs.length) :
    ys.tail = xs.tail := by
  cases h with
  | nil =>
      rw [List.eq_nil_of_length_eq_zero hlength.symm]
  | front gone rest x x' hxs halike =>
      cases gone with
      | nil =>
          rw [hxs]
          rfl
      | cons g gone =>
          rw [hxs] at hlength
          simp only [List.length_cons, List.length_append] at hlength
          omega

end Left

/-- What the loop does whatever the handles are: a buffer is used up for every request. -/
structure Makes (c : Connection) (writes : List Write) (c' : Connection) : Prop where
  requests : c'.reliableBuffersFree.toNat + writes.countP (·.reliable) ≤
    c.reliableBuffersFree.toNat
  isConnected : c'.isConnected = c.isConnected
  bufferLength : c'.packetSendQueue.bufferLength = c.packetSendQueue.bufferLength

theorem Makes.refl (c : Connection) : Makes c [] c := ⟨le_rfl, rfl, rfl⟩

theorem Makes.trans {c' c'' : Connection} {writes writes' : List Write}
    (h : Makes c writes c') (h' : Makes c' writes' c'') : Makes c (writes ++ writes') c'' where
  requests := by
    have := h.requests
    have := h'.requests
    rw [List.countP_append]
    omega
  isConnected := h'.isConnected.trans h.isConnected
  bufferLength := h'.bufferLength.trans h.bufferLength

theorem countP_bleWriteCharacteristic (connectionHandle characteristicHandle : U16)
    (data : List U8) (reliable : Bool) :
    (bleWriteCharacteristic connectionHandle characteristicHandle data reliable).toList.countP
      (·.reliable) ≤ reliable.toNat := by
  unfold bleWriteCharacteristic
  split
  · exact Nat.zero_le _
  · cases reliable <;> simp

theorem Passed.makes {pass : Pass} (h : Passed c x rest pass) :
    Makes c pass.write.toList pass.connection := by
  cases h with
  | full memory x' hedit hheader hnone => exact ⟨le_rfl, rfl, rfl⟩
  | request memory x' data hedit hheader hrequest hfree hdata =>
      have hcount := countP_bleWriteCharacteristic c.connectionHandle c.writeCharacteristicHandle
        data true
      refine ⟨?_, rfl, rfl⟩
      have hless : c.reliableBuffersFree.toNat = (c.reliableBuffersFree - 1).toNat + 1 := by
        bv_omega
      rw [hless]
      exact Nat.add_le_add_left hcount _
  | command memory x' data hedit hrequest hfree hdata =>
      have hcount := countP_bleWriteCharacteristic c.connectionHandle c.writeCharacteristicHandle
        data false
      exact ⟨Nat.add_le_add_left hcount _, rfl, rfl⟩

/-- With valid handles a buffer is used up for every write, and as many packets are discarded as
commands are written. -/
structure Spends (c : Connection) (writes : List Write) (c' : Connection) : Prop where
  requests : c.reliableBuffersFree.toNat =
    c'.reliableBuffersFree.toNat + writes.countP (·.reliable)
  commands : c.unreliableBuffersFree.toNat =
    c'.unreliableBuffersFree.toNat + writes.countP (!·.reliable)
  elements : c.packetSendQueue.numElements.toNat =
    c'.packetSendQueue.numElements.toNat + writes.countP (!·.reliable)
  usable : c.Usable → c'.Usable

theorem Spends.refl (c : Connection) : Spends c [] c := ⟨rfl, rfl, rfl, fun h => h⟩

theorem Spends.trans {c' c'' : Connection} {writes writes' : List Write}
    (h : Spends c writes c') (h' : Spends c' writes' c'') : Spends c (writes ++ writes') c'' where
  requests := by rw [h.requests, h'.requests, List.countP_append]; omega
  commands := by rw [h.commands, h'.commands, List.countP_append]; omega
  elements := by rw [h.elements, h'.elements, List.countP_append]; omega
  usable := fun husable => h'.usable (h.usable husable)

/-- With valid handles, a buffer is used up for every write. -/
theorem Passed.spends {pass : Pass} (h : Passed c x rest pass) (husable : c.Usable)
    (hnum : c.packetSendQueue.numElements ≠ 0) :
    Spends c pass.write.toList pass.connection := by
  obtain ⟨-, hconnection, hattribute⟩ := id husable
  have hone : ∀ {n : U8}, n ≠ 0 → n.toNat = (n - 1).toNat + 1 := by
    intro n hne
    bv_omega
  have hless : c.packetSendQueue.numElements.toNat =
      (c.packetSendQueue.numElements - 1).toNat + 1 := by
    bv_omega
  cases h with
  | full memory x' hedit hheader hnone => exact ⟨rfl, rfl, rfl, fun h => h⟩
  | request memory x' data hedit hheader hrequest hfree hdata =>
      rw [bleWriteCharacteristic_eq hconnection hattribute hdata]
      exact ⟨hone hfree, rfl, rfl, fun h => h⟩
  | command memory x' data hedit hrequest hfree hdata =>
      rw [bleWriteCharacteristic_eq hconnection hattribute hdata]
      exact ⟨rfl, hone hfree, hless, fun h => h⟩

namespace Holding

theorem ne_nil (h : Holding c requests xs) (hnum : c.packetSendQueue.numElements ≠ 0) :
    ∃ x rest, xs = x :: rest := by
  cases xs with
  | nil => exact absurd (BitVec.eq_of_toNat_eq h.numElements) hnum
  | cons x rest => exact ⟨x, rest, rfl⟩

theorem makes_pass (h : Holding c requests (x :: rest)) (now : U64) :
    Makes c (c.transmitNext now).write.toList (c.transmitNext now).connection := by
  obtain ⟨hhead, hpeek⟩ := h.peek
  have hmakes := (hhead.transmitNext now hpeek).makes
  refine ⟨hmakes.requests, hmakes.isConnected, ?_⟩
  rw [hmakes.bufferLength]
  exact (peekQueue_queue c).2.1

theorem spends_pass (h : Holding c requests (x :: rest)) (husable : c.Usable) (now : U64) :
    Spends c (c.transmitNext now).write.toList (c.transmitNext now).connection := by
  obtain ⟨hhead, hpeek⟩ := h.peek
  have hnum := (peekQueue_queue c).1
  have hne : c.packetSendQueue.numElements ≠ 0 := by
    intro hzero
    have hlength := h.numElements
    rw [hzero] at hlength
    simp at hlength
  have hspends := (hhead.transmitNext now hpeek).spends husable (hnum ▸ hne)
  refine ⟨hspends.requests, hspends.commands, ?_, hspends.usable⟩
  rw [← hnum]
  exact hspends.elements

/-- The loop over the packets of a connection. -/
theorem fill (h : Holding c requests xs) (now : U64) :
    ∃ xs', Holding (c.fill now).1 (requests + (c.fill now).2.countP (·.reliable)) xs' ∧
      Left xs xs' ∧ Makes c (c.fill now).2 (c.fill now).1 ∧
      (c.Usable → Spends c (c.fill now).2 (c.fill now).1) := by
  induction c using Connection.fill.induct now generalizing requests xs with
  | case1 c hnum =>
      rw [Connection.fill, dif_pos hnum]
      exact ⟨xs, h, .refl xs, .refl c, fun _ => .refl c⟩
  | case2 c hnum hsent ih =>
      obtain ⟨x, rest, rfl⟩ := h.ne_nil hnum
      obtain ⟨ys, hys, hleft⟩ := h.pass now
      have hleft' : Left (x :: rest) ys := by
        rcases hleft with ⟨x', halike, rfl⟩ | rfl
        · exact .front [] rest x x' rfl halike
        · exact .drop (x :: ys) 1
      obtain ⟨zs, hzs, hrest, hmakes, hspends⟩ := ih hys
      rw [Connection.fill, dif_neg hnum, dif_pos hsent]
      refine ⟨zs, ?_, hleft'.trans hrest, (h.makes_pass now).trans hmakes, fun husable => ?_⟩
      · rw [List.countP_append, ← Nat.add_assoc]
        exact hzs
      · have hpass := h.spends_pass husable now
        exact hpass.trans (hspends (hpass.usable husable))
  | case3 c hnum hsent =>
      obtain ⟨x, rest, rfl⟩ := h.ne_nil hnum
      obtain ⟨ys, hys, hleft⟩ := h.pass now
      obtain ⟨hhead, hpeek⟩ := h.peek
      have hpassed := hhead.transmitNext now hpeek
      have hmakes := h.makes_pass now
      have hspends := fun husable => h.spends_pass husable now
      rw [Connection.fill, dif_neg hnum, dif_neg hsent]
      generalize c.transmitNext now = pass at hsent hys hpassed hmakes hspends
      -- nothing is sent in the last pass
      cases hpassed with
      | full memory x' hedit hheader hnone =>
          refine ⟨ys, hys, ?_, hmakes, hspends⟩
          rcases hleft with ⟨x', halike, rfl⟩ | rfl
          · exact .front [] rest x x' rfl halike
          · exact .drop (x :: ys) 1
      | request => exact absurd rfl hsent
      | command => exact absurd rfl hsent

end Holding

/-! ## Where the loop writes -/

/-- The bytes of the packet in front, without its flag byte. -/
def packetSpan (q : PacketQueue) : Option Span :=
  q.peekNext.2.data.map fun pointer => ⟨pointer + 1, (q.peekNext.2.length - 1).toNat⟩

/-- In a call that starts with the connection `c`, the loop comes to `c'`. -/
inductive Comes (now : U64) (c : Connection) : Connection → Prop
  | start : Comes now c c
  | next {c' : Connection} (h : Comes now c c') (hnum : c'.packetSendQueue.numElements ≠ 0)
      (hsent : (c'.transmitNext now).packetCouldNotBeSent = false) :
      Comes now c (c'.transmitNext now).connection

/-- A call of `fillTransmitBuffers` writes into the packet in front only, and leaves what is
behind it alone. -/
structure InPlace (now : U64) (c : Connection) : Prop where
  stores : ∀ c', Comes now c c' → c'.packetSendQueue.numElements ≠ 0 →
    ∃ span, packetSpan c'.packetSendQueue = some span ∧
      c'.packetSendQueue.memory.StoresIn span
        (c'.transmitNext now).connection.packetSendQueue.memory
  contents : Left c.packetSendQueue.contents (c.fill now).1.packetSendQueue.contents

/-- The connection after the response to its write request: it goes on behind the part that is
transmitted, or with the next packet. -/
def Connection.responded (c : Connection) : Connection :=
  match c.packetSendQueue.peekNext.2.data with
  | none => c
  | some pointer =>
      if hasMorePartsOf
          (c.peekQueue.sendByte (pointer + 1 + c.peekQueue.packetSendPosition.toNat)) then
        c.peekQueue.partSent
      else c.peekQueue.packetSent

theorem Passed.stores {pass : Pass} (h : Passed c x rest pass) :
    c.packetSendQueue.memory.StoresIn ⟨c.headData, x.tail.length⟩
      pass.connection.packetSendQueue.memory := by
  cases h with
  | full memory x' hedit hheader hnone => exact hedit.stores
  | request memory x' data hedit hheader hrequest hfree hdata => exact hedit.stores
  | command memory x' data hedit hrequest hfree hdata =>
      -- `DiscardNext` only reads
      exact hedit.stores

namespace Holding

theorem contents_eq (h : Holding c requests xs) : c.packetSendQueue.contents = xs := by
  obtain ⟨peeked, hrep⟩ := h.queue
  exact hrep.contents_eq

theorem packetSpan_eq (h : Holding c requests (x :: rest)) :
    packetSpan c.packetSendQueue = some ⟨c.peekQueue.headData, x.tail.length⟩ := by
  obtain ⟨hhead, hpeek⟩ := h.peek
  have hsize : (BitVec.ofNat 16 x.length - 1 : U16).toNat = x.tail.length := by
    have := hhead.fits.nonempty
    have := hhead.fits.short
    rw [List.length_tail] at *
    bv_omega
  rw [packetSpan, hpeek, Option.map_some, hsize]
  rfl

theorem stores_pass (h : Holding c requests (x :: rest)) (now : U64) :
    c.packetSendQueue.memory.StoresIn ⟨c.peekQueue.headData, x.tail.length⟩
      (c.transmitNext now).connection.packetSendQueue.memory := by
  obtain ⟨hhead, hpeek⟩ := h.peek
  obtain ⟨edits, heq, hedits⟩ := (hhead.transmitNext now hpeek).stores
  exact ⟨edits, heq.trans (congrArg (· ++ edits) (peekQueue_queue c).2.2), hedits⟩

theorem comes (h : Holding c requests xs) {c' : Connection} (hcomes : Comes now c c') :
    ∃ requests' xs', Holding c' requests' xs' := by
  induction hcomes with
  | start => exact ⟨requests, xs, h⟩
  | next _ hnum _ ih =>
      obtain ⟨requests', xs', h'⟩ := ih
      obtain ⟨x, rest, rfl⟩ := h'.ne_nil hnum
      obtain ⟨xs'', hpass, -⟩ := h'.pass now
      exact ⟨_, xs'', hpass⟩

theorem inPlace (h : Holding c requests xs) (now : U64) : InPlace now c where
  stores := by
    intro c' hcomes hnum
    obtain ⟨requests', xs', h'⟩ := h.comes hcomes
    obtain ⟨x, rest, rfl⟩ := h'.ne_nil hnum
    exact ⟨_, h'.packetSpan_eq, h'.stores_pass now⟩
  contents := by
    obtain ⟨xs', h', hleft, -⟩ := h.fill now
    rw [h.contents_eq, h'.contents_eq]
    exact hleft

theorem mono (h : Holding c requests xs) {requests' : ℕ} (hle : requests' ≤ requests) :
    Holding c requests' xs :=
  ⟨h.queue, h.fits, h.position, fun hpos => h.header (Nat.lt_of_lt_of_le hpos hle)⟩

/-- The response to the only write request under way. -/
theorem responded (h : Holding c 1 xs) :
    ∃ x rest xs', xs = x :: rest ∧ Holding c.responded 0 xs' ∧
      c.responded.packetSendQueue.memory.stores = c.packetSendQueue.memory.stores ∧
      (xs' = xs ∧ c.responded = c.peekQueue.partSent ∨
        xs' = rest ∧ c.responded = c.peekQueue.packetSent) := by
  obtain ⟨hne, -, hright⟩ := h.header Nat.one_pos
  obtain ⟨x, rest, rfl⟩ := List.exists_cons_of_ne_nil hne
  obtain ⟨hhead, hpeek⟩ := h.peek
  have hpos := hhead.position_lt
  have hshort := hhead.fits.short
  have hbyte : c.peekQueue.sendByte (c.packetSendQueue.peekNext.1.readPointer + 1 + 1 +
      c.peekQueue.packetSendPosition.toNat) = x.tail.getD c.packetSendPosition.toNat 0 :=
    hhead.sendByte hpos
  have hmore : hasMorePartsOf (x.tail.getD c.packetSendPosition.toNat 0) =
      decide (c.packetSendPosition.toNat + 20 < x.tail.length) := hright
  have hresponded : c.responded =
      if c.packetSendPosition.toNat + 20 < x.tail.length then c.peekQueue.partSent
      else c.peekQueue.packetSent := by
    simp only [Connection.responded, hpeek, hbyte, hmore, decide_eq_true_eq]
  rw [hresponded]
  have hrest : ∀ y ∈ rest, Fits y := fun y hy => h.fits y (List.mem_cons_of_mem x hy)
  by_cases hlast : c.packetSendPosition.toNat + 20 < x.tail.length
  · rw [if_pos hlast]
    have hnext : (c.packetSendPosition + BitVec.ofNat 8 19).toNat =
        c.packetSendPosition.toNat + 19 := by bv_omega
    have hstart : PartStart x.tail.length (c.packetSendPosition + BitVec.ofNat 8 19).toNat := by
      rw [hnext]
      refine .inr ⟨by omega, ?_, by omega⟩
      rcases h.position with hzero | ⟨-, hdvd, -⟩
      · rw [hzero]
      · exact Nat.dvd_add hdvd (dvd_refl 19)
    exact ⟨x, rest, x :: rest, rfl, ⟨⟨true, hhead.queue⟩, h.fits, hstart,
      fun hpos => absurd hpos (Nat.lt_irrefl 0)⟩, (peekQueue_queue c).2.2, .inl ⟨rfl, rfl⟩⟩
  · rw [if_neg hlast]
    exact ⟨x, rest, rest, rfl, ⟨⟨false, hhead.queue.discardNext⟩, hrest, .inl rfl,
      fun hpos => absurd hpos (Nat.lt_irrefl 0)⟩, (peekQueue_queue c).2.2, .inr ⟨rfl, rfl⟩⟩

end Holding

end FruityMesh.Transport
