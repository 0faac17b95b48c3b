import FruityMesh.PacketQueueFifo
import FruityMesh.Transport.Frames

/-!
# The sending end of a link

`Sender` is what the send queue of a connection amounts to: the packets that are
not sent completely, how far the first one is acknowledged, and whether a write
request is under way.  `Transmits c s` connects it to the connection.  While a
packet is sent its bytes in the queue change: what lies in front of the byte at
`packetSendPosition` is transmitted, and that byte becomes the header of the next
part.  `Edited` says what is still intact.

Each operation of the sending end moves the sender on: `Transmits.put` appends a
packet, `Transmits.fill` writes, `Transmits.answered` takes the response to a write
request.  None of them changes what has been written followed by what is still to be
written (`Sender.unsent`), except that `put` appends the writes of its packet.
-/

namespace FruityMesh.Transport

open Cells PacketQueue

/-- The packet as an element of the send queue. -/
def Packet.element (p : Packet) : List U8 := PacketQueue.element p.reliable p.bytes

/-- The packets to send, how much of the first one is acknowledged, and whether a
write request is under way. -/
structure Sender where
  queue : List Packet
  position : ℕ
  outstanding : Bool

/-- The writes that are still to be made. -/
def Sender.unsent (s : Sender) : List Write :=
  match s.queue with
  | [] => []
  | p :: rest =>
      (p.writesFrom s.position).drop s.outstanding.toNat ++ rest.flatMap Packet.writes

/-- The first write from the header at `position` on, and those behind it. -/
theorem Packet.writesFrom_eq (p : Packet) {position : ℕ} (h : position < p.bytes.length) :
    p.writesFrom position =
      ⟨firstByte (decide (position + 20 < p.bytes.length)) (packetType p.bytes) ::
        (p.bytes.drop (position + 1)).take 19, p.byRequest⟩ ::
      if position + 20 < p.bytes.length then p.writesFrom (position + 19) else [] := by
  have hlength : (p.bytes.drop (position + 1)).length + (position + 1) = p.bytes.length := by
    simp only [List.length_drop]
    omega
  rw [Packet.writesFrom]
  by_cases hmore : position + 20 < p.bytes.length
  · rw [parts_of_ge (by omega), if_pos hmore, decide_eq_true hmore, List.map_cons, List.drop_drop]
    rfl
  · rw [parts_of_lt (by omega), if_neg hmore, decide_eq_false hmore,
      List.take_of_length_le (by omega)]
    rfl

/-- What is intact of a packet that is transmitted up to `position`. -/
structure Edited (p : Packet) (position : ℕ) (bytes : List U8) : Prop where
  length : bytes.length = p.bytes.length
  type : packetType bytes = packetType p.bytes
  rest : bytes.drop (position + 1) = p.bytes.drop (position + 1)

theorem Edited.refl (p : Packet) : Edited p 0 p.bytes := ⟨rfl, rfl, rfl⟩

/-- Going on behind a part: what is intact behind `position` is intact further on. -/
theorem Edited.mono {p : Packet} {position : ℕ} {bytes : List U8} (h : Edited p position bytes)
    {n : ℕ} : Edited p (position + n) bytes := by
  refine ⟨h.length, h.type, ?_⟩
  have hdrop := congrArg (List.drop n) h.rest
  rw [List.drop_drop, List.drop_drop] at hdrop
  rwa [show position + 1 + n = position + n + 1 by omega] at hdrop

/-- Writing a header with the message type of the packet. -/
theorem Edited.set {p : Packet} {position : ℕ} {bytes : List U8} (h : Edited p position bytes)
    (hasMoreParts : Bool) :
    Edited p position (bytes.set position (firstByte hasMoreParts (packetType p.bytes))) := by
  refine ⟨by rw [List.length_set, h.length], ?_, ?_⟩
  · cases bytes with
    | nil => exact h.type
    | cons first rest =>
        cases position with
        | zero => simp [packetType]
        | succ position => exact h.type
  · rw [List.drop_set_of_lt (Nat.lt_succ_self position), h.rest]

/-- The elements of the send queue. -/
inductive Stored : Sender → List (List U8) → Prop
  | empty : Stored ⟨[], 0, false⟩ []
  | head (p : Packet) (rest : List Packet) (position : ℕ) (outstanding : Bool) (bytes : List U8)
      (hedited : Edited p position bytes)
      (hposition : position = 0 ∨ p.split = true ∧ position + 1 < p.bytes.length)
      (hheader : outstanding = true →
        hasMorePartsOf (bytes.getD position 0) = decide (position + 20 < p.bytes.length))
      (hrequest : outstanding = true → p.byRequest = true) :
      Stored ⟨p :: rest, position, outstanding⟩
        (PacketQueue.element p.reliable bytes :: rest.map Packet.element)

theorem stored_rest (rest : List Packet) : Stored ⟨rest, 0, false⟩ (rest.map Packet.element) := by
  cases rest with
  | nil => exact .empty
  | cons p rest =>
      exact .head p rest 0 false p.bytes (Edited.refl p) (.inl rfl) (by simp) (by simp)

theorem Sender.unsent_rest (rest : List Packet) :
    (⟨rest, 0, false⟩ : Sender).unsent = rest.flatMap Packet.writes := by
  cases rest with
  | nil => rfl
  | cons q rest => simp [Sender.unsent, Packet.writes]

/-- The connection is up, and its handles are valid. -/
def Connection.Usable (c : Connection) : Prop :=
  c.isConnected = true ∧ c.connectionHandle ≠ bleErrorInvalidConnHandle ∧
    c.writeCharacteristicHandle ≠ bleErrorInvalidAttrHandle

/-- The connection sends what the sender has to send. -/
structure Transmits (c : Connection) (s : Sender) : Prop where
  stored : ∃ peeked xs, Represents c.packetSendQueue peeked xs ∧ Stored s xs
  position : c.packetSendPosition.toNat = s.position
  buffers : c.reliableBuffersFree = if s.outstanding then 0 else 1
  usable : c.Usable

variable {c : Connection} {s : Sender}

/-! ## Queueing -/

theorem Sender.unsent_append (s : Sender) (p : Packet) (h : Stored s xs) :
    ({ s with queue := s.queue ++ [p] } : Sender).unsent = s.unsent ++ p.writes := by
  cases h with
  | empty => simp [Sender.unsent, Packet.writes]
  | head q rest position outstanding bytes => simp [Sender.unsent, List.append_assoc]

/-- A packet that the queue takes is sent behind all others. -/
theorem Transmits.put (h : Transmits c s) (p : Packet)
    (hput : (c.packetSendQueue.put p.bytes (BitVec.ofNat 8 p.bytes.length) p.reliable).2 = true) :
    Transmits
        { c with
          packetSendQueue :=
            (c.packetSendQueue.put p.bytes (BitVec.ofNat 8 p.bytes.length) p.reliable).1 }
        { s with queue := s.queue ++ [p] } ∧
      ({ s with queue := s.queue ++ [p] } : Sender).unsent = s.unsent ++ p.writes := by
  obtain ⟨peeked, xs, hrep, hstored⟩ := h.stored
  have hfits : p.bytes.length ≤ 252 := p.short.trans (by decide)
  refine ⟨⟨⟨peeked, _, hrep.put_true hfits p.reliable hput, ?_⟩, h.position, h.buffers,
    h.usable⟩, s.unsent_append p hstored⟩
  cases hstored with
  | empty => exact stored_rest [p]
  | head q rest position outstanding bytes hedited hposition hheader hrequest =>
      have hnew := Stored.head q (rest ++ [p]) position outstanding bytes hedited hposition
        hheader hrequest
      rw [List.map_append] at hnew
      exact hnew

/-! ## The packet in front -/

/-- The read pointer of the send queue stands on the packet `p`, which is transmitted up
to `packetSendPosition`. -/
structure OnHead (c : Connection) (p : Packet) (rest : List Packet) (bytes : List U8) :
    Prop where
  queue : Represents c.packetSendQueue true
    (PacketQueue.element p.reliable bytes :: rest.map Packet.element)
  edited : Edited p c.packetSendPosition.toNat bytes
  position : c.packetSendPosition.toNat = 0 ∨
    p.split = true ∧ c.packetSendPosition.toNat + 1 < p.bytes.length
  usable : c.Usable

/-- The pointer to the packet in front, behind its length and its flag byte. -/
def Connection.headData (c : Connection) : ℕ := c.packetSendQueue.readPointer + 2

variable {p : Packet} {rest : List Packet} {bytes : List U8} {position : ℕ} {outstanding : Bool}

namespace OnHead

theorem position_lt (h : OnHead c p rest bytes) :
    c.packetSendPosition.toNat < p.bytes.length := by
  have := p.nonempty
  rcases h.position with hzero | ⟨-, hlt⟩ <;> omega

theorem position_eq_zero (h : OnHead c p rest bytes) (hsplit : p.split = false) :
    c.packetSendPosition.toNat = 0 := by
  rcases h.position with hzero | ⟨htrue, -⟩
  · exact hzero
  · rw [hsplit] at htrue
    exact absurd htrue (by simp)

theorem holds (h : OnHead c p rest bytes) :
    c.sendByte (c.packetSendQueue.readPointer + 1) = flagByte p.reliable ∧
      Holds c.packetSendQueue.memory.cell c.headData bytes :=
  holds_cons.mp h.queue.head.2.1

theorem first (h : OnHead c p rest bytes) :
    messageTypeOf (c.sendByte c.headData) = packetType p.bytes := by
  have hpos := h.position_lt
  rw [← h.edited.length] at hpos
  obtain ⟨first, tail, heq⟩ := List.exists_cons_of_length_pos (Nat.zero_lt_of_lt hpos)
  have hholds := h.holds.2
  rw [← h.edited.type]
  rw [heq] at hholds ⊢
  exact congrArg messageTypeOf (holds_cons.mp hholds).1

/-- The header of the next part. -/
def header (p : Packet) (position : ℕ) : U8 :=
  firstByte (decide (position + 20 < p.bytes.length)) (packetType p.bytes)

/-- The header of the next part is written into the queue. -/
theorem writeHeader (h : OnHead c p rest bytes) :
    OnHead (c.editQueue (c.headData + c.packetSendPosition.toNat)
        [header p c.packetSendPosition.toNat]) p rest
      (bytes.set c.packetSendPosition.toNat (header p c.packetSendPosition.toNat)) := by
  refine ⟨?_, h.edited.set _, h.position, h.usable⟩
  have hpos := h.position_lt
  have hset := h.queue.store_set (i := c.packetSendPosition.toNat + 1)
    (by rw [length_element, h.edited.length]; omega) (header p c.packetSendPosition.toNat)
  have hpointer : c.packetSendQueue.readPointer + 1 + (c.packetSendPosition.toNat + 1) =
      c.headData + c.packetSendPosition.toNat := by
    simp only [Connection.headData]
    omega
  rw [hpointer] at hset
  exact hset

theorem getD_set (h : OnHead c p rest bytes) (b : U8) :
    (bytes.set c.packetSendPosition.toNat b).getD c.packetSendPosition.toNat 0 = b := by
  have hpos := h.position_lt
  rw [List.getD_eq_getElem _ _ (by rw [List.length_set, h.edited.length]; exact hpos),
    List.getElem_set_self]

/-- With its header written, the next part stands in the queue. -/
theorem read_part (h : OnHead c p rest bytes)
    (hheader : bytes.getD c.packetSendPosition.toNat 0 = header p c.packetSendPosition.toNat)
    {size : ℕ} (hsize : size = min 20 (p.bytes.length - c.packetSendPosition.toNat)) :
    read c.packetSendQueue.memory.cell (c.headData + c.packetSendPosition.toNat) size =
      header p c.packetSendPosition.toNat ::
        (p.bytes.drop (c.packetSendPosition.toNat + 1)).take 19 := by
  have hpos := h.position_lt
  have hlength := h.edited.length
  have hdrop : bytes.drop c.packetSendPosition.toNat =
      header p c.packetSendPosition.toNat ::
        p.bytes.drop (c.packetSendPosition.toNat + 1) := by
    rw [← h.edited.rest, ← hheader, List.getD_eq_getElem _ _ (by omega)]
    exact List.drop_eq_getElem_cons (by omega)
  have hholds := h.holds.2.drop c.packetSendPosition.toNat
  have hfit : size ≤ (bytes.drop c.packetSendPosition.toNat).length := by
    rw [List.length_drop]
    omega
  rw [hholds.read_take hfit, hdrop]
  obtain ⟨size, rfl⟩ : ∃ n, size = n + 1 := ⟨size - 1, by omega⟩
  rw [List.take_succ_cons]
  congr 1
  rcases Nat.lt_or_ge size 19 with hlt | hge
  · have hlen : (p.bytes.drop (c.packetSendPosition.toNat + 1)).length ≤ size := by
      rw [List.length_drop]
      omega
    rw [List.take_of_length_le hlen, List.take_of_length_le (by omega)]
  · rw [show size = 19 by omega]

theorem transmits (h : OnHead c p rest bytes)
    (hbuffers : c.reliableBuffersFree = if outstanding then 0 else 1)
    (hheader : outstanding = true →
      hasMorePartsOf (bytes.getD c.packetSendPosition.toNat 0) =
        decide (c.packetSendPosition.toNat + 20 < p.bytes.length))
    (hrequest : outstanding = true → p.byRequest = true) :
    Transmits c ⟨p :: rest, c.packetSendPosition.toNat, outstanding⟩ :=
  ⟨⟨true, _, h.queue, .head p rest _ outstanding bytes h.edited h.position hheader hrequest⟩,
    rfl, hbuffers, h.usable⟩

end OnHead

/-- `peekNext` puts the read pointer on the packet in front. -/
theorem Transmits.peekNext (h : Transmits c ⟨p :: rest, position, outstanding⟩) :
    ∃ bytes,
      OnHead c.peekQueue p rest bytes ∧
      c.packetSendQueue.peekNext.2 =
        ⟨some (c.packetSendQueue.peekNext.1.readPointer + 1),
          BitVec.ofNat 16 (p.bytes.length + 1)⟩ ∧
      (outstanding = true →
        hasMorePartsOf (bytes.getD position 0) = decide (position + 20 < p.bytes.length)) ∧
      (outstanding = true → p.byRequest = true) := by
  obtain ⟨peeked, xs, hrep, hstored⟩ := h.stored
  have hposition : c.packetSendPosition.toNat = position := h.position
  subst hposition
  cases hstored with
  | head _ _ _ _ bytes hedited hposition hheader hrequest =>
      obtain ⟨start, heq, hpeek, hstart, -⟩ := hrep.peekNext_cons
      rw [length_element, hedited.length] at heq
      subst hstart
      exact ⟨bytes, ⟨hpeek, hedited, hposition, h.usable⟩, heq,
        hheader, hrequest⟩

/-! ## Writing -/

/-- The connection has made the writes `ws` of those that are still to be made. -/
structure Emits (c : Connection) (s : Sender) (ws : List Write) (c' : Connection) (s' : Sender) :
    Prop where
  transmits : Transmits c' s'
  unsent : s.unsent = ws ++ s'.unsent
  requests : s'.outstanding.toNat = s.outstanding.toNat + ws.countP (·.reliable)
  commands : c.unreliableBuffersFree =
    c'.unreliableBuffersFree + BitVec.ofNat 8 (ws.countP (!·.reliable))

theorem Emits.refl (h : Transmits c s) : Emits c s [] c s := ⟨h, rfl, rfl, by simp⟩

theorem Emits.trans {c' c'' : Connection} {s' s'' : Sender} {ws ws' : List Write}
    (first : Emits c s ws c' s') (second : Emits c' s' ws' c'' s'') :
    Emits c s (ws ++ ws') c'' s'' where
  transmits := second.transmits
  unsent := by rw [first.unsent, second.unsent, List.append_assoc]
  requests := by
    rw [second.requests, first.requests, List.countP_append, Nat.add_assoc]
  commands := by
    rw [first.commands, second.commands, List.countP_append, BitVec.ofNat_add, BitVec.add_assoc,
      BitVec.add_comm (BitVec.ofNat 8 (ws'.countP _))]

/-- The part of `p` that the header at `position` begins. -/
def Packet.write (p : Packet) (position : ℕ) : Write :=
  ⟨OnHead.header p position :: (p.bytes.drop (position + 1)).take 19, p.byRequest⟩

theorem bleWriteCharacteristic_eq {connectionHandle characteristicHandle : U16} {data : List U8}
    (hconnection : connectionHandle ≠ bleErrorInvalidConnHandle)
    (hattribute : characteristicHandle ≠ bleErrorInvalidAttrHandle) (hdata : data ≠ [])
    (reliable : Bool) :
    bleWriteCharacteristic connectionHandle characteristicHandle data reliable =
      some ⟨data, reliable⟩ := by
  simp [bleWriteCharacteristic, hconnection, hattribute, hdata]

theorem sendReliable_eq {now : U64} {data : ℕ} {dataSize : U16} {part : Connection × ℕ × U16}
    (hfree : c.reliableBuffersFree ≠ 0)
    (hpart : (if dataSize.toNat > maxDataSizePerWrite then c.nextPart data dataSize
      else (c, data, dataSize)) = part)
    (htype : messageTypeOf (part.1.sendByte part.2.1) ≠ messageTypeUpdateTimestamp) :
    c.sendReliable now data dataSize =
      ⟨{ part.1 with reliableBuffersFree := part.1.reliableBuffersFree - 1 },
        bleWriteCharacteristic part.1.connectionHandle part.1.writeCharacteristicHandle
          (read part.1.packetSendQueue.memory.cell part.2.1 part.2.2.toNat) true,
        false⟩ := by
  subst hpart
  simp only [Connection.sendReliable, if_neg hfree, if_neg htype]

theorem Packet.dataSize (p : Packet) : (BitVec.ofNat 16 p.bytes.length).toNat = p.bytes.length := by
  have := p.short
  rw [BitVec.toNat_ofNat]
  omega

/-- The part that is sent next of a packet of `n` bytes, and its header. -/
theorem Connection.nextPart_eq_of (c : Connection) {data n : ℕ} {messageType : MessageType}
    (htype : messageTypeOf (c.sendByte data) = messageType) (hlong : 20 < n) (hshort : n ≤ 252)
    (hpos : c.packetSendPosition.toNat < n) :
    c.nextPart data (BitVec.ofNat 16 n) =
      (c.editQueue (data + c.packetSendPosition.toNat)
          [firstByte (decide (c.packetSendPosition.toNat + 20 < n)) messageType],
        data + c.packetSendPosition.toNat,
        BitVec.ofNat 16 (min 20 (n - c.packetSendPosition.toNat))) := by
  have hsize : (BitVec.ofNat 16 n).toNat = n := by
    rw [BitVec.toNat_ofNat]
    omega
  simp only [Connection.nextPart, htype, hsize, maxDataSizePerWrite]
  by_cases hzero : c.packetSendPosition = 0
  · have hmore : 0 + 20 < n := by omega
    have hmin : min 20 n = 20 := by omega
    simp [hzero, hmin, hlong]
  · rw [if_pos hzero]
    refine Prod.ext rfl (Prod.ext rfl ?_)
    by_cases hmore : c.packetSendPosition.toNat + 20 < n
    · have hmin : min 20 (n - c.packetSendPosition.toNat) = 20 := by omega
      simp [hmore, hmin]
    · have hmin : min 20 (n - c.packetSendPosition.toNat) = n - c.packetSendPosition.toNat := by
        omega
      simp only [gt_iff_lt, hmore, decide_false, Bool.false_eq_true, if_false, hmin]
      bv_omega

namespace OnHead

/-- The part that is chosen is the one behind what is acknowledged. -/
theorem nextPart_eq (h : OnHead c p rest bytes) (hsplit : p.split = true) :
    c.nextPart c.headData (BitVec.ofNat 16 p.bytes.length) =
      (c.editQueue (c.headData + c.packetSendPosition.toNat)
          [header p c.packetSendPosition.toNat],
        c.headData + c.packetSendPosition.toNat,
        BitVec.ofNat 16 (min 20 (p.bytes.length - c.packetSendPosition.toNat))) :=
  c.nextPart_eq_of h.first (of_decide_eq_true hsplit) (p.short.trans (by decide)) h.position_lt

/-- The part that is chosen is read from the queue, once its header has been written there. -/
theorem sendReliable_of_part {c' : Connection} {bytes' : List U8} (hhead : OnHead c' p rest bytes')
    (now : U64) (hfree : c.reliableBuffersFree = 1) (hrequest : p.byRequest = true)
    (hheader : bytes'.getD c'.packetSendPosition.toNat 0 = header p c'.packetSendPosition.toNat)
    (hposition : c'.packetSendPosition = c.packetSendPosition)
    (hbuffers : c'.reliableBuffersFree = 1)
    (hunreliable : c'.unreliableBuffersFree = c.unreliableBuffersFree) (size : U16)
    (hsize : size.toNat = min 20 (p.bytes.length - c'.packetSendPosition.toNat))
    (hpart : (if (BitVec.ofNat 16 p.bytes.length).toNat > maxDataSizePerWrite then
        c.nextPart c.headData (BitVec.ofNat 16 p.bytes.length)
      else (c, c.headData, BitVec.ofNat 16 p.bytes.length)) =
        (c', c'.headData + c'.packetSendPosition.toNat, size)) :
    ∃ c', c.sendReliable now c.headData (BitVec.ofNat 16 p.bytes.length) =
        ⟨c', some (p.write c.packetSendPosition.toNat), false⟩ ∧
      Transmits c' ⟨p :: rest, c.packetSendPosition.toNat, true⟩ ∧
      c'.unreliableBuffersFree = c.unreliableBuffersFree := by
  have hne : c.reliableBuffersFree ≠ 0 := by rw [hfree]; decide
  have hread := hhead.read_part hheader hsize
  -- the byte that is sent first is the header, so no time is written into the part
  have htype : messageTypeOf (c'.sendByte (c'.headData + c'.packetSendPosition.toNat)) ≠
      messageTypeUpdateTimestamp := by
    have hcell : c'.sendByte (c'.headData + c'.packetSendPosition.toNat) =
        header p c'.packetSendPosition.toNat := by
      have hpos := hhead.position_lt
      rw [← hhead.edited.length] at hpos
      have hbyte := hhead.holds.2 c'.packetSendPosition.toNat hpos
      rw [← hheader, List.getD_eq_getElem _ _ hpos]
      exact hbyte
    rw [hcell, header, messageTypeOf_firstByte]
    exact p.untimed
  refine ⟨{ c' with reliableBuffersFree := c'.reliableBuffersFree - 1 },
    (sendReliable_eq hne hpart htype).trans ?_, ?_, hunreliable⟩
  · rw [hread, bleWriteCharacteristic_eq hhead.usable.2.1 hhead.usable.2.2 (by simp),
      ← hposition, Packet.write, hrequest]
  · rw [← hposition]
    have hsent : OnHead { c' with reliableBuffersFree := c'.reliableBuffersFree - 1 } p rest
        bytes' := ⟨hhead.queue, hhead.edited, hhead.position, hhead.usable⟩
    have hnone : c'.reliableBuffersFree - 1 = if true then 0 else 1 := by
      rw [hbuffers]
      rfl
    refine hsent.transmits hnone (fun _ => ?_) (fun _ => hrequest)
    show hasMorePartsOf (bytes'.getD c'.packetSendPosition.toNat 0) = _
    rw [hheader, header, hasMorePartsOf_firstByte]

/-- With a buffer free, the next part of a packet is written. -/
theorem sendReliable (h : OnHead c p rest bytes) (now : U64) (hfree : c.reliableBuffersFree = 1)
    (hrequest : p.byRequest = true)
    (hheader : p.split = false →
      bytes.getD c.packetSendPosition.toNat 0 = header p c.packetSendPosition.toNat) :
    ∃ c', c.sendReliable now c.headData (BitVec.ofNat 16 p.bytes.length) =
        ⟨c', some (p.write c.packetSendPosition.toNat), false⟩ ∧
      Transmits c' ⟨p :: rest, c.packetSendPosition.toNat, true⟩ ∧
      c'.unreliableBuffersFree = c.unreliableBuffersFree := by
  have hsize := p.dataSize
  cases hsplit : p.split with
  | true =>
      have hlong : 20 < p.bytes.length := of_decide_eq_true hsplit
      have hpos := h.position_lt
      refine sendReliable_of_part h.writeHeader now hfree hrequest ?_ rfl hfree rfl
        (BitVec.ofNat 16 (min 20 (p.bytes.length - c.packetSendPosition.toNat))) ?_ ?_
      · exact h.getD_set _
      · show (BitVec.ofNat 16 (min 20 (p.bytes.length - c.packetSendPosition.toNat))).toNat = _
        rw [BitVec.toNat_ofNat]
        exact Nat.mod_eq_of_lt (by omega)
      · rw [hsize, if_pos (show p.bytes.length > maxDataSizePerWrite from hlong),
          h.nextPart_eq hsplit]
        rfl
  | false =>
      have hshort : ¬ 20 < p.bytes.length := of_decide_eq_false hsplit
      have hzero := h.position_eq_zero hsplit
      refine sendReliable_of_part h now hfree hrequest (hheader hsplit) rfl hfree rfl
        (BitVec.ofNat 16 p.bytes.length) ?_ ?_
      · rw [hsize, hzero]
        omega
      · rw [hsize, if_neg (show ¬ p.bytes.length > maxDataSizePerWrite from hshort), hzero]
        rfl

end OnHead

theorem Packet.writesFrom_eq_write (p : Packet) {position : ℕ} (h : position < p.bytes.length) :
    p.writesFrom position =
      p.write position ::
        if position + 20 < p.bytes.length then p.writesFrom (position + 19) else [] :=
  p.writesFrom_eq h

/-- What a pass of the loop does: either a write is made, or the buffer for it is not
free. -/
structure Passes (c : Connection) (s : Sender) (pass : Pass) : Prop where
  emits : ∃ s', Emits c s pass.write.toList pass.connection s'
  full : pass.packetCouldNotBeSent = true →
    pass.write = none ∧ (s.outstanding = true ∨ c.unreliableBuffersFree = 0)
  sent : pass.packetCouldNotBeSent = false → pass.write ≠ none

theorem OnHead.passes_sendReliable (h : OnHead c p rest bytes) (now : U64)
    (hbusy : Transmits c ⟨p :: rest, c.packetSendPosition.toNat, outstanding⟩)
    (hrequest : p.byRequest = true)
    (hheader : p.split = false →
      bytes.getD c.packetSendPosition.toNat 0 = header p c.packetSendPosition.toNat) :
    Passes c ⟨p :: rest, c.packetSendPosition.toNat, outstanding⟩
      (c.sendReliable now c.headData (BitVec.ofNat 16 p.bytes.length)) := by
  cases outstanding with
  | true =>
      have hnone : c.reliableBuffersFree = 0 := hbusy.buffers
      rw [Connection.sendReliable, if_pos hnone]
      exact ⟨⟨_, Emits.refl hbusy⟩, fun _ => ⟨rfl, .inl rfl⟩, by simp⟩
  | false =>
      obtain ⟨c', heq, hsent, hcommands⟩ := h.sendReliable now hbusy.buffers hrequest hheader
      rw [heq]
      refine ⟨⟨_, hsent, ?_, ?_, ?_⟩, by simp, by simp⟩
      · simp [Sender.unsent, p.writesFrom_eq_write h.position_lt]
      · simp [Packet.write, hrequest]
      · simp [Packet.write, hrequest, hcommands]

theorem OnHead.passes_sendUnreliable (h : OnHead c p rest bytes)
    (hbusy : Transmits c ⟨p :: rest, c.packetSendPosition.toNat, outstanding⟩)
    (hrequest : p.byRequest = false) (hidle : outstanding = false)
    (hheader : bytes.getD c.packetSendPosition.toNat 0 = header p c.packetSendPosition.toNat) :
    Passes c ⟨p :: rest, c.packetSendPosition.toNat, outstanding⟩
      (c.sendUnreliable c.headData (BitVec.ofNat 16 p.bytes.length)) := by
  subst hidle
  by_cases hfree : c.unreliableBuffersFree = 0
  · rw [Connection.sendUnreliable, if_pos hfree]
    exact ⟨⟨_, Emits.refl hbusy⟩, fun _ => ⟨rfl, .inr hfree⟩, by simp⟩
  · have hsplit : p.split = false := by
      simp only [Packet.byRequest, Bool.or_eq_false_iff] at hrequest
      exact hrequest.2
    have hshort : ¬ 20 < p.bytes.length := of_decide_eq_false hsplit
    have hzero := h.position_eq_zero hsplit
    rw [hzero] at hheader hbusy ⊢
    have hread := h.read_part (by rw [hzero]; exact hheader)
      (show p.bytes.length = min 20 (p.bytes.length - c.packetSendPosition.toNat) by omega)
    rw [hzero, Nat.add_zero] at hread
    rw [Connection.sendUnreliable, if_neg hfree, p.dataSize, hread,
      bleWriteCharacteristic_eq h.usable.2.1 h.usable.2.2 (by simp)]
    refine ⟨⟨⟨rest, 0, false⟩, ⟨⟨false, _, h.queue.discardNext, stored_rest rest⟩, hzero,
      hbusy.buffers, h.usable⟩, ?_, by simp, ?_⟩, by simp, by simp⟩
    · have hlast : ¬ 0 + 20 < p.bytes.length := by omega
      have hwrites : p.writesFrom 0 = [p.write 0] := by
        rw [p.writesFrom_eq_write p.nonempty, if_neg hlast]
      have hunsent : (⟨p :: rest, 0, false⟩ : Sender).unsent =
          p.write 0 :: rest.flatMap Packet.writes := by
        simp only [Sender.unsent, hwrites]
        rfl
      rw [hunsent, Sender.unsent_rest, Packet.write, hrequest]
      rfl
    · simp

theorem Transmits.byRequest (h : Transmits c ⟨p :: rest, position, true⟩) :
    p.byRequest = true := by
  obtain ⟨peeked, xs, -, hstored⟩ := h.stored
  cases hstored with
  | head _ _ _ _ _ _ _ _ hrequest => exact hrequest rfl

theorem Passes.of_eq (c' : Connection) {pass : Pass}
    (hcommands : c'.unreliableBuffersFree = c.unreliableBuffersFree) (h : Passes c' s pass) :
    Passes c s pass := by
  obtain ⟨⟨s', hemits⟩, hfull, hsent⟩ := h
  rw [hcommands] at hfull
  exact ⟨⟨s', hemits.transmits, hemits.unsent, hemits.requests, hcommands ▸ hemits.commands⟩,
    hfull, hsent⟩

/-- Send the packet in front, which fits into one write: its header is written before
anything is sent. -/
def Connection.sendUnsplit (c : Connection) (p : Packet) (now : U64) : Pass :=
  let c' := c.editQueue c.headData [firstByte false (packetType p.bytes)]
  if p.reliable then c'.sendReliable now c'.headData (BitVec.ofNat 16 p.bytes.length)
  else c'.sendUnreliable c'.headData (BitVec.ofNat 16 p.bytes.length)

theorem OnHead.passes_unsplit (h : OnHead c p rest bytes) (now : U64) (hsplit : p.split = false)
    (hbusy : Transmits c ⟨p :: rest, c.packetSendPosition.toNat, outstanding⟩) :
    Passes c ⟨p :: rest, c.packetSendPosition.toNat, outstanding⟩ (c.sendUnsplit p now) := by
  let c' := c.editQueue c.headData [firstByte false (packetType p.bytes)]
  have hshort : ¬ 0 + 20 < p.bytes.length := by
    have := of_decide_eq_false hsplit
    simpa [maxDataSizePerWrite] using this
  have hzero := h.position_eq_zero hsplit
  have hfirst : header p c.packetSendPosition.toNat = firstByte false (packetType p.bytes) := by
    rw [hzero, header, decide_eq_false hshort]
  have hheader := h.getD_set (header p c.packetSendPosition.toNat)
  have hrequest : outstanding = true → p.byRequest = true := by
    rintro rfl
    exact hbusy.byRequest
  have hwritten : OnHead c' p rest (bytes.set c.packetSendPosition.toNat
      (header p c.packetSendPosition.toNat)) := by
    have hwrite := h.writeHeader
    rw [hzero, Nat.add_zero, ← hzero] at hwrite
    rw [hfirst] at hwrite ⊢
    exact hwrite
  have hbusy' : Transmits c' ⟨p :: rest, c.packetSendPosition.toNat, outstanding⟩ := by
    refine hwritten.transmits hbusy.buffers (fun _ => ?_) hrequest
    show hasMorePartsOf ((bytes.set _ _).getD c.packetSendPosition.toNat 0) = _
    rw [hheader, header, hasMorePartsOf_firstByte]
    rfl
  refine .of_eq c' rfl ?_
  unfold Connection.sendUnsplit
  cases hreliable : p.reliable with
  | true =>
      rw [if_pos rfl]
      exact hwritten.passes_sendReliable now hbusy' (by simp [Packet.byRequest, hreliable])
        fun _ => hheader
  | false =>
      have hcommand : p.byRequest = false := by simp [Packet.byRequest, hreliable, hsplit]
      rw [if_neg (by simp)]
      refine hwritten.passes_sendUnreliable hbusy' hcommand ?_ hheader
      cases outstanding with
      | true => exact absurd (hrequest rfl) (by simp [hcommand])
      | false => rfl

/-- The case distinction of the loop, on the packet in front. -/
theorem transmitNext_eq (now : U64)
    (hpeek : c.packetSendQueue.peekNext.2 =
      ⟨some (c.packetSendQueue.peekNext.1.readPointer + 1), BitVec.ofNat 16 (p.bytes.length + 1)⟩)
    (hhead : OnHead c.peekQueue p rest bytes) :
    c.transmitNext now =
      if p.split then
        c.peekQueue.sendReliable now c.peekQueue.headData (BitVec.ofNat 16 p.bytes.length)
      else c.peekQueue.sendUnsplit p now := by
  have hsize : (BitVec.ofNat 16 (p.bytes.length + 1) - 1 : U16) =
      BitVec.ofNat 16 p.bytes.length := by
    have := p.short
    bv_omega
  have hflag := hhead.holds.1
  have hfirst := hhead.first
  have hpointer : c.peekQueue.packetSendQueue = c.packetSendQueue.peekNext.1 := rfl
  simp only [Connection.headData, hpointer] at hfirst hflag
  simp only [Connection.transmitNext, hpeek, hsize, p.dataSize, hflag, hfirst]
  by_cases hsplit : p.bytes.length > maxDataSizePerWrite
  · rw [if_pos hsplit, if_pos (show p.split = true from decide_eq_true hsplit)]
    rfl
  · have hsplit' : ¬ p.split = true := by simpa [Packet.split] using hsplit
    rw [if_neg hsplit, if_neg hsplit', Connection.sendUnsplit]
    cases p.reliable with
    | true =>
        rw [if_pos (show flagByte true ≠ 0 by decide), if_pos rfl]
        rfl
    | false =>
        rw [if_neg (show ¬ flagByte false ≠ 0 by decide), if_neg (by simp)]
        rfl

/-- One pass of the loop. -/
theorem Transmits.transmitNext (h : Transmits c ⟨p :: rest, position, outstanding⟩) (now : U64) :
    Passes c ⟨p :: rest, position, outstanding⟩ (c.transmitNext now) := by
  obtain ⟨bytes, hhead, hpeek, hheader, hrequest⟩ := h.peekNext
  have hposition : c.packetSendPosition.toNat = position := h.position
  subst hposition
  have hbusy := hhead.transmits h.buffers hheader hrequest
  rw [transmitNext_eq now hpeek hhead]
  cases hsplit : p.split with
  | true =>
      rw [if_pos rfl]
      exact .of_eq c.peekQueue rfl (hhead.passes_sendReliable now hbusy
        (by simp [Packet.byRequest, hsplit]) (by simp [hsplit]))
  | false =>
      rw [if_neg (by simp)]
      exact .of_eq c.peekQueue rfl (hhead.passes_unsplit now hsplit hbusy)

/-- The loop over the packets makes writes, and makes none only if there is nothing to
send or the buffer for the first packet is not free. -/
theorem Transmits.fill (h : Transmits c s) (now : U64) :
    (∃ s', Emits c s (c.fill now).2 (c.fill now).1 s') ∧
      ((c.fill now).2 = [] →
        s.queue = [] ∨ s.outstanding = true ∨ c.unreliableBuffersFree = 0) := by
  -- on the passes that are left, as the loop of `fill` ends
  induction hleft : c.passesLeft using Nat.strong_induction_on generalizing c s with
  | _ left ih =>
      subst hleft
      obtain ⟨queue, position, outstanding⟩ := s
      cases queue with
      | nil =>
          have hnum : c.packetSendQueue.numElements = 0 := by
            obtain ⟨peeked, xs, hrep, hstored⟩ := h.stored
            cases hstored
            apply BitVec.eq_of_toNat_eq
            simpa using hrep.count
          rw [Connection.fill, dif_pos hnum]
          exact ⟨⟨_, Emits.refl h⟩, fun _ => .inl rfl⟩
      | cons p rest =>
          have hnum : c.packetSendQueue.numElements ≠ 0 := by
            obtain ⟨peeked, xs, hrep, hstored⟩ := h.stored
            cases hstored
            exact numElements_ne_zero hrep (List.cons_ne_nil _ _)
          have hpass := h.transmitNext now
          rw [Connection.fill, dif_neg hnum]
          obtain ⟨s', hemits⟩ := hpass.emits
          by_cases hsent : (c.transmitNext now).packetCouldNotBeSent = false
          · rw [dif_pos hsent]
            obtain ⟨⟨s'', hrest⟩, -⟩ :=
              ih _ (Connection.transmitNext_passesLeft hnum hsent) hemits.transmits rfl
            refine ⟨⟨s'', hemits.trans hrest⟩, fun hnil => ?_⟩
            have hwrite := hpass.sent hsent
            cases hw : (c.transmitNext now).write with
            | none => exact absurd hw hwrite
            | some w => simp [hw] at hnil
          · rw [dif_neg hsent]
            obtain ⟨hnone, hfull⟩ := hpass.full (by simpa using hsent)
            rw [hnone] at hemits
            exact ⟨⟨s', hemits⟩, fun _ => .inr hfull⟩

/-! ## The response to a write request -/

/-- A write request is under way only for a packet in the queue. -/
theorem Transmits.queue_ne_nil (h : Transmits c s) (houtstanding : s.outstanding = true) :
    ∃ p rest, s = ⟨p :: rest, s.position, true⟩ := by
  obtain ⟨peeked, xs, -, hstored⟩ := h.stored
  cases hstored with
  | empty => exact absurd houtstanding (by simp)
  | head p rest position outstanding =>
      simp only at houtstanding
      subst houtstanding
      exact ⟨p, rest, rfl⟩

/-- The response to the write request that is under way: the connection goes on behind the
part that is transmitted, or with the next packet. -/
theorem Transmits.answered (h : Transmits c s) (houtstanding : s.outstanding = true) :
    ∃ pointer, c.packetSendQueue.peekNext.2.data = some pointer ∧
      ∃ s', s'.outstanding = false ∧ s.unsent = s'.unsent ∧
        Transmits
          (if hasMorePartsOf
              (c.peekQueue.sendByte (pointer + 1 + c.peekQueue.packetSendPosition.toNat)) then
            c.peekQueue.partSent
          else c.peekQueue.packetSent) s' := by
  obtain ⟨p, rest, hs⟩ := h.queue_ne_nil houtstanding
  have hposition : c.packetSendPosition.toNat = s.position := h.position
  rw [← hposition] at hs
  subst hs
  obtain ⟨bytes, hhead, hpeek, hheader, hrequest⟩ := h.peekNext
  have hpos : c.packetSendPosition.toNat < p.bytes.length := hhead.position_lt
  have hone : c.reliableBuffersFree + 1 = 1 := by
    rw [show c.reliableBuffersFree = 0 from h.buffers]
    rfl
  refine ⟨_, congrArg SizedData.data hpeek, ?_⟩
  have hbyte : hasMorePartsOf (c.peekQueue.sendByte
      (c.packetSendQueue.peekNext.1.readPointer + 1 + 1 +
        c.peekQueue.packetSendPosition.toNat)) =
      decide (c.packetSendPosition.toNat + 20 < p.bytes.length) := by
    have hpos' := hpos
    rw [← hhead.edited.length] at hpos'
    rw [← hheader rfl, List.getD_eq_getElem _ _ hpos']
    exact congrArg hasMorePartsOf (hhead.holds.2 _ hpos')
  rw [hbyte]
  -- the bit for more parts in the header that was sent says whether the packet goes on
  by_cases hmore : c.packetSendPosition.toNat + 20 < p.bytes.length
  · rw [decide_eq_true hmore, if_pos rfl]
    have hshort := p.short
    have hnext : (c.packetSendPosition + BitVec.ofNat 8 19).toNat =
        c.packetSendPosition.toNat + 19 := by bv_omega
    have hsplit : p.split = true := decide_eq_true (show 20 < p.bytes.length by omega)
    refine ⟨⟨p :: rest, c.packetSendPosition.toNat + 19, false⟩, rfl, ?_, ?_⟩
    · simp [Sender.unsent, p.writesFrom_eq_write hpos, hmore]
    · exact ⟨⟨true, _, hhead.queue, .head p rest _ false bytes hhead.edited.mono
        (.inr ⟨hsplit, by omega⟩) (by simp) (by simp)⟩, hnext, hone, h.usable⟩
  · rw [decide_eq_false hmore, if_neg (by simp)]
    refine ⟨⟨rest, 0, false⟩, rfl, ?_, ?_⟩
    · rw [Sender.unsent_rest]
      simp [Sender.unsent, p.writesFrom_eq_write hpos, hmore]
    · exact ⟨⟨false, _, hhead.queue.discardNext, stored_rest rest⟩, rfl, hone,
        h.usable⟩

end FruityMesh.Transport
