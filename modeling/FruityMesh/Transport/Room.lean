import FruityMesh.Transport.Filling

/-!
# Room in a send queue

How many packets of one length a connection takes in a row, as long as nothing comes back from
the stack.  That depends on where the read pointer of its queue stops: behind the packets that go
out at once, which are those at the front that are sent with write commands, as many as there are
buffers for them (`Connection.stop`).  A packet that is sent with write requests stays in the
queue until it is acknowledged.

* `fill_stop`: the loop of `fillTransmitBuffers` leaves the read pointer there.
* `room_fill`, `room_put`: neither sending changes the room that is meant, nor does it matter
  whether a packet is put into the queue before or after, only that it takes its place.
-/

namespace FruityMesh.Transport

open Cells PacketQueue RecordRing

/-! ## Pointers -/

/-- The write pointer after `Put` of a packet of `length` bytes. -/
def writerAfter (size reader writer length : ℕ) : Option ℕ :=
  if reader ≤ writer ∧ size ≤ writer + length + 3 ∧ length + 3 ≤ reader then some (length + 2)
  else if reader ≤ writer ∧ writer + length + 3 < size ∨
      writer < reader ∧ writer + length + 3 < reader then
    some (writer + (length + 2))
  else none

/-- How many packets of `length` bytes `Put` takes in a row: up to the end of the buffer and then
from its start up to the read pointer. -/
def roomAt (size reader writer length : ℕ) : ℕ :=
  if reader ≤ writer then
    (size - writer - 2) / (length + 2) +
      if length + 3 ≤ reader then (reader - (length + 2) - 2) / (length + 2) + 1 else 0
  else (reader - writer - 2) / (length + 2)

section Pointers

variable {size reader writer writer' length : ℕ}

theorem roomAt_of_some (h : writerAfter size reader writer length = some writer') :
    roomAt size reader writer length = roomAt size reader writer' length + 1 := by
  -- one element less behind the write pointer
  have hless : ∀ {stop : ℕ}, writer + length + 3 < stop →
      (stop - writer - 2) / (length + 2) =
        (stop - (writer + (length + 2)) - 2) / (length + 2) + 1 := by
    intro stop hfit
    rw [← Nat.add_div_right _ (Nat.succ_pos (length + 1))]
    congr 1
    omega
  unfold writerAfter at h
  split_ifs at h with hturn hplace
  · obtain rfl := Option.some.inj h
    obtain ⟨hle, hend, hroom⟩ := hturn
    have hzero : (size - writer - 2) / (length + 2) = 0 := Nat.div_eq_of_lt (by omega)
    rw [roomAt, roomAt, if_pos hle, if_pos hroom, if_neg (by omega), hzero, Nat.zero_add]
  · obtain rfl := Option.some.inj h
    rcases hplace with ⟨hle, hfit⟩ | ⟨hlt, hfit⟩
    · rw [roomAt, roomAt, if_pos hle, if_pos (hle.trans (Nat.le_add_right _ _)), hless hfit]
      omega
    · rw [roomAt, roomAt, if_neg (by omega), if_neg (by omega), hless hfit]

theorem roomAt_of_none (h : writerAfter size reader writer length = none) :
    roomAt size reader writer length = 0 := by
  unfold writerAfter at h
  split_ifs at h with hturn hplace
  unfold roomAt
  split_ifs with hle hroom
  · exact absurd ⟨hle, by omega, hroom⟩ hturn
  · rw [Nat.add_zero]
    exact Nat.div_eq_of_lt (by omega)
  · exact Nat.div_eq_of_lt (by omega)

/-- `Put`, by its pointers. -/
theorem put_eq_writerAfter (q : PacketQueue) {data : List U8} (hlength : data.length ≤ 252)
    (reliable : Bool) :
    let result := q.put data (BitVec.ofNat 8 data.length) reliable
    result.1.readPointer = q.readPointer ∧
      (writerAfter q.bufferEnd q.readPointer q.writePointer data.length =
        if result.2 then some result.1.writePointer else none) := by
  have hdata : (BitVec.ofNat 8 data.length).toNat = data.length := by
    rw [BitVec.toNat_ofNat]
    omega
  rcases put_cases q hlength reliable with ⟨hle, hend, hspace, heq⟩ | ⟨hle, hspace, heq⟩ |
      ⟨hlt, hspace, heq⟩ | ⟨hfull, hfull', heq⟩
  · have hafter : writerAfter q.bufferEnd q.readPointer q.writePointer data.length =
        some (data.length + 2) := if_pos (by omega)
    rw [heq, hafter]
    exact ⟨rfl, by simp [writeElement, hdata]⟩
  · have hafter : writerAfter q.bufferEnd q.readPointer q.writePointer data.length =
        some (q.writePointer + (data.length + 2)) := by
      unfold writerAfter
      rw [if_neg (by omega), if_pos (by omega)]
    rw [heq, hafter]
    exact ⟨rfl, by simp [writeElement, hdata]⟩
  · have hafter : writerAfter q.bufferEnd q.readPointer q.writePointer data.length =
        some (q.writePointer + (data.length + 2)) := by
      unfold writerAfter
      rw [if_neg (by omega), if_pos (by omega)]
    rw [heq, hafter]
    exact ⟨rfl, by simp [writeElement, hdata]⟩
  · have hafter : writerAfter q.bufferEnd q.readPointer q.writePointer data.length = none := by
      unfold writerAfter
      rw [if_neg (by omega), if_neg (by omega)]
    rw [heq, hafter]
    exact ⟨rfl, rfl⟩

end Pointers

/-! ## Where the read pointer stops -/

/-- The bytes that elements take up. -/
def bytesOf (xs : List (List U8)) : ℕ := (run record xs).length

@[simp] theorem bytesOf_nil : bytesOf [] = 0 := rfl

@[simp] theorem bytesOf_cons (x : List U8) (xs : List (List U8)) :
    bytesOf (x :: xs) = x.length + 1 + bytesOf xs := by
  simp [bytesOf]

@[simp] theorem bytesOf_append (xs ys : List (List U8)) :
    bytesOf (xs ++ ys) = bytesOf xs + bytesOf ys := by
  simp [bytesOf]

/-- The read pointer in front of `rest`, when the elements in front of that are `gone`.  Elements
that all lie before the write pointer end there. -/
def readerPast (reader writer : ℕ) (gone rest : List (List U8)) : ℕ :=
  if bytesOf rest ≤ writer then writer - bytesOf rest else reader + bytesOf gone

/-- How many of the elements go out at once, with write commands. -/
def Connection.leaving (c : Connection) (xs : List (List U8)) : ℕ :=
  min c.unreliableBuffersFree.toNat (xs.takeWhile fun x => ¬ ByRequest x).length

/-- Where the read pointer stops in the loop of `fillTransmitBuffers`. -/
def Connection.stop (c : Connection) (xs : List (List U8)) : ℕ :=
  readerPast c.packetSendQueue.readPointer c.packetSendQueue.writePointer
    (xs.take (c.leaving xs)) (xs.drop (c.leaving xs))

/-- Nothing goes out, and the read pointer stands in front of the first element. -/
structure Connection.Rests (c : Connection) (xs : List (List U8)) : Prop where
  leaving : c.leaving xs = 0
  stop : c.stop xs = c.packetSendQueue.readPointer

section Reader

variable {q : PacketQueue} {peeked : Bool} {c c' : Connection} {x : List U8}
  {rest xs : List (List U8)} {requests : ℕ}

/-- The elements lie in one run up to the write pointer, or in two. -/
theorem pointers_of_represents (h : Represents q peeked xs) :
    q.readPointer + bytesOf xs = q.writePointer ∧ q.writePointer < q.bufferEnd ∨
      q.writePointer < q.readPointer ∧ ∃ front back, xs = front ++ back ∧ back ≠ [] ∧
        bytesOf back = q.writePointer ∧ q.readPointer + bytesOf front < q.bufferEnd := by
  cases h.layout with
  | straight hwrite hsize hrun => exact .inl ⟨hwrite, hsize⟩
  | turned front back hxs hback hwrite hlt hgap hmark hsize hfront hrun =>
      exact .inr ⟨hlt, front, back, hxs, hback, hwrite, hsize⟩

/-- A reader that has peeked stands in front of the first element. -/
theorem readerPast_of_peeked (h : Represents q true (x :: rest)) :
    readerPast q.readPointer q.writePointer [] (x :: rest) = q.readPointer := by
  cases h.layout with
  | straight hwrite hsize hrun =>
      have hbytes : q.readPointer + bytesOf (x :: rest) = q.writePointer := hwrite
      rw [readerPast, if_pos (by omega)]
      omega
  | turned front back hxs hback hwrite hlt hgap hmark hsize hfront hrun =>
      cases front with
      | nil =>
          have hzero : q.memory.cell q.readPointer = 0 := by simpa using hfront 0 (by simp)
          exact absurd hzero (h.onElement rfl)
      | cons y front =>
          have hbytes : bytesOf back = q.writePointer := hwrite
          have hmore : bytesOf back < bytesOf (y :: front ++ back) := by
            rw [bytesOf_append, bytesOf_cons]
            omega
          rw [hxs, readerPast, if_neg (by omega)]
          exact Nat.add_zero _

/-- Where `PeekNext` puts the read pointer, unless there are elements before the end of the
buffer. -/
theorem readPointer_peekNext (h : Represents q peeked (x :: rest))
    (hturned : q.writePointer < bytesOf (x :: rest)) :
    q.peekNext.1.readPointer = q.readPointer := by
  obtain ⟨start, -, hpeek, -⟩ := h.peekNext_cons
  have hnum := numElements_ne_zero h (List.cons_ne_nil x rest)
  unfold PacketQueue.peekNext at hpeek ⊢
  rw [if_neg hnum] at hpeek ⊢
  dsimp only at hpeek ⊢
  split_ifs with hzero
  · -- the reader would stand at the start of the buffer, with too many elements behind it
    rw [if_pos hzero] at hpeek
    rcases pointers_of_represents hpeek with ⟨hbytes, -⟩ | ⟨hlt, -⟩
    · dsimp only at hbytes
      omega
    · exact absurd hlt (Nat.not_lt_zero _)
  · rfl

/-- Peeking does not change where the reader stops. -/
theorem stop_peekQueue (h : Represents c.packetSendQueue peeked (x :: rest)) :
    c.peekQueue.stop (x :: rest) = c.stop (x :: rest) := by
  obtain ⟨start, -, -, -, -, hwriter, -⟩ := h.peekNext_cons
  have hleaving : c.peekQueue.leaving (x :: rest) = c.leaving (x :: rest) := rfl
  have hsplit : bytesOf ((x :: rest).drop (c.leaving (x :: rest))) ≤ bytesOf (x :: rest) := by
    have hall := bytesOf_append ((x :: rest).take (c.leaving (x :: rest)))
      ((x :: rest).drop (c.leaving (x :: rest)))
    rw [List.take_append_drop] at hall
    omega
  unfold Connection.stop
  rw [hleaving]
  show readerPast c.packetSendQueue.peekNext.1.readPointer
    c.packetSendQueue.peekNext.1.writePointer _ _ = _
  rw [hwriter]
  unfold readerPast
  split_ifs with hstart
  · rfl
  · rw [readPointer_peekNext h (by omega)]

theorem leaving_of_byRequest (hrequest : ByRequest x) : c.leaving (x :: rest) = 0 := by
  rw [Connection.leaving, List.takeWhile_cons_of_neg (by simpa using hrequest)]
  exact Nat.min_zero _

theorem rests_of_peeked (h : Represents c.packetSendQueue true (x :: rest))
    (hleaving : c.leaving (x :: rest) = 0) : c.Rests (x :: rest) := by
  refine ⟨hleaving, ?_⟩
  rw [Connection.stop, hleaving]
  exact readerPast_of_peeked h

theorem rests_of_empty (h : Represents c.packetSendQueue peeked []) : c.Rests [] := by
  refine ⟨Nat.min_zero _, ?_⟩
  rcases pointers_of_represents h with ⟨hbytes, -⟩ | ⟨-, front, back, hnil, hback, -⟩
  · rw [Connection.stop, readerPast, List.drop_nil, bytesOf_nil, if_pos (Nat.zero_le _)]
    exact hbytes.symm
  · exact absurd (List.append_eq_nil_iff.mp hnil.symm).2 hback

/-- A turn of the loop, with the element in front peeked at. -/
theorem Passed.stop {pass : Pass} (h : Passed c x rest pass)
    (hqueue : Represents c.packetSendQueue true (x :: rest)) :
    ∃ xs, (∃ peeked, Represents pass.connection.packetSendQueue peeked xs) ∧
      pass.connection.stop xs = c.stop (x :: rest) ∧
      pass.connection.packetSendQueue.writePointer = c.packetSendQueue.writePointer ∧
      (pass.packetCouldNotBeSent = true → pass.connection.Rests xs) := by
  cases h with
  | full memory x' hedit hheader hnone =>
      have hleaving : c.leaving (x :: rest) = 0 := by
        split_ifs at hnone with hrequest
        · exact leaving_of_byRequest hrequest
        · rw [Connection.leaving, hnone]
          exact Nat.zero_min _
      have hleaving' : (c.withMemory memory).leaving (x' :: rest) = 0 := by
        split_ifs at hnone with hrequest
        · exact leaving_of_byRequest (hedit.alike.byRequest.mpr hrequest)
        · rw [Connection.leaving, Connection.withMemory, hnone]
          exact Nat.zero_min _
      have hrests := rests_of_peeked hedit.atHead.queue hleaving'
      refine ⟨x' :: rest, ⟨true, hedit.atHead.queue⟩, ?_, rfl, fun _ => hrests⟩
      rw [hrests.stop, (rests_of_peeked hqueue hleaving).stop]
      rfl
  | request memory x' data hedit hheader hrequest hfree hdata =>
      have hrests := rests_of_peeked hedit.atHead.queue
        (leaving_of_byRequest (hedit.alike.byRequest.mpr hrequest))
      refine ⟨x' :: rest, ⟨true, hedit.atHead.queue⟩, ?_, rfl, fun hfull => absurd hfull (by simp)⟩
      calc
        _ = (c.withMemory memory).stop (x' :: rest) := rfl
        _ = c.packetSendQueue.readPointer := hrests.stop
        _ = c.stop (x :: rest) :=
          (rests_of_peeked hqueue (leaving_of_byRequest hrequest)).stop.symm
  | command memory x' data hedit hrequest hfree hdata =>
      refine ⟨rest, ⟨false, hedit.atHead.queue.discardNext⟩, ?_, rfl,
        fun hfull => absurd hfull (by simp)⟩
      generalize hc' : ({ c.withMemory memory with
        unreliableBuffersFree := c.unreliableBuffersFree - 1
        packetSendQueue := (c.withMemory memory).packetSendQueue.discardNext } : Connection) = c'
      have hwriter : c'.packetSendQueue.writePointer = c.packetSendQueue.writePointer := by
        subst hc'
        rfl
      -- the read pointer steps over the element
      have hreader : c'.packetSendQueue.readPointer =
          c.packetSendQueue.readPointer + (x.length + 1) := by
        obtain ⟨hcell, -, -⟩ := hedit.atHead.queue.head
        have hlength := hedit.atHead.queue.lengths x' List.mem_cons_self
        rw [hedit.alike.length] at hcell hlength
        subst hc'
        show c.packetSendQueue.readPointer +
          ((memory.cell c.packetSendQueue.readPointer).toNat + 1) = _
        rw [show memory.cell c.packetSendQueue.readPointer = _ from hcell, BitVec.toNat_ofNat,
          Nat.mod_eq_of_lt hlength.2]
      have hleaving : c.leaving (x :: rest) = c'.leaving rest + 1 := by
        have hbuffers : c.unreliableBuffersFree.toNat = c'.unreliableBuffersFree.toNat + 1 := by
          subst hc'
          bv_omega
        rw [Connection.leaving, List.takeWhile_cons_of_pos (by simpa using hrequest),
          List.length_cons, hbuffers, Nat.add_min_add_right]
        rfl
      calc
        c'.stop rest = readerPast (c.packetSendQueue.readPointer + (x.length + 1))
            c.packetSendQueue.writePointer (rest.take (c'.leaving rest))
            (rest.drop (c'.leaving rest)) := by rw [Connection.stop, hreader, hwriter]
        _ = readerPast c.packetSendQueue.readPointer c.packetSendQueue.writePointer
            (x :: rest.take (c'.leaving rest)) (rest.drop (c'.leaving rest)) := by
          unfold readerPast
          rw [bytesOf_cons, Nat.add_assoc]
        _ = c.stop (x :: rest) := by rw [Connection.stop, hleaving]; rfl

/-- A turn of the loop does not change where the reader stops. -/
theorem Holding.pass_stop (h : Holding c requests (x :: rest)) (now : U64) :
    ∃ xs, (∃ requests', Holding (c.transmitNext now).connection requests' xs) ∧
      (c.transmitNext now).connection.stop xs = c.stop (x :: rest) ∧
      (c.transmitNext now).connection.packetSendQueue.writePointer =
        c.packetSendQueue.writePointer ∧
      ((c.transmitNext now).packetCouldNotBeSent = true →
        (c.transmitNext now).connection.Rests xs) := by
  obtain ⟨hhead, hpeek⟩ := h.peek
  obtain ⟨peeked, hrep⟩ := h.queue
  obtain ⟨start, -, -, -, -, hpeekWriter, -⟩ := hrep.peekNext_cons
  obtain ⟨xs, ⟨_, hxs⟩, hstop, hwriter, hrests⟩ := (hhead.transmitNext now hpeek).stop hhead.queue
  obtain ⟨ys, hys, -⟩ := h.pass now
  have hsame : ys = xs := hys.contents_eq.symm.trans hxs.contents_eq
  rw [stop_peekQueue hrep] at hstop
  exact ⟨xs, ⟨_, hsame ▸ hys⟩, hstop, hwriter.trans hpeekWriter, hrests⟩

/-- **Where the loop stops**, by induction along its turns. -/
theorem Holding.fill_stop (h : Holding c requests xs) (now : U64) :
    ∃ xs', (∃ peeked, Represents (c.fill now).1.packetSendQueue peeked xs') ∧
      (c.fill now).1.Rests xs' ∧
      (c.fill now).1.packetSendQueue.readPointer = c.stop xs ∧
      (c.fill now).1.packetSendQueue.writePointer = c.packetSendQueue.writePointer := by
  induction c using Connection.fill.induct now generalizing requests xs with
  | case1 c hnum =>
      rw [Connection.fill, dif_pos hnum]
      obtain ⟨peeked, hrep⟩ := h.queue
      have hnil : xs = [] := by
        apply List.eq_nil_of_length_eq_zero
        rw [← h.numElements, hnum]
        rfl
      subst hnil
      have hrests := rests_of_empty hrep
      exact ⟨[], ⟨peeked, hrep⟩, hrests, hrests.stop.symm, rfl⟩
  | case2 c hnum hsent ih =>
      obtain ⟨x, rest, rfl⟩ := h.ne_nil hnum
      obtain ⟨ys, ⟨_, hys⟩, hstop, hwriter, -⟩ := h.pass_stop now
      obtain ⟨zs, hzs, hrests, hreader, hwriter'⟩ := ih hys
      rw [Connection.fill, dif_neg hnum, dif_pos hsent]
      exact ⟨zs, hzs, hrests, hreader.trans hstop, hwriter'.trans hwriter⟩
  | case3 c hnum hsent =>
      obtain ⟨x, rest, rfl⟩ := h.ne_nil hnum
      obtain ⟨ys, ⟨_, hys⟩, hstop, hwriter, hrests⟩ := h.pass_stop now
      have hrests := hrests (eq_true_of_ne_false hsent)
      rw [Connection.fill, dif_neg hnum, dif_neg hsent]
      exact ⟨ys, hys.queue, hrests, hrests.stop.symm.trans hstop, hwriter⟩

end Reader

/-! ## The room of a connection -/

/-- How many packets of `length` bytes the connection takes in a row. -/
def Connection.room (c : Connection) (length : ℕ) : ℕ :=
  roomAt c.packetSendQueue.bufferEnd
    (if c.isConnected then c.stop c.packetSendQueue.contents else c.packetSendQueue.readPointer)
    c.packetSendQueue.writePointer length

section Room

variable {c : Connection} {peeked : Bool} {xs : List (List U8)} {requests : ℕ}

theorem room_of_rests (h : Represents c.packetSendQueue peeked xs) (hrests : c.Rests xs)
    (length : ℕ) :
    c.room length = roomAt c.packetSendQueue.bufferEnd c.packetSendQueue.readPointer
      c.packetSendQueue.writePointer length := by
  rw [Connection.room, h.contents_eq, hrests.stop, ite_self]

/-- Sending does not change the room of a connection. -/
theorem room_fill (h : Holding c requests xs) (hconnected : c.isConnected = true) (now : U64)
    (length : ℕ) : (c.fill now).1.room length = c.room length := by
  obtain ⟨xs', ⟨_, hxs'⟩, hrests, hreader, hwriter⟩ := h.fill_stop now
  obtain ⟨_, _, _, hmakes, _⟩ := h.fill now
  rw [room_of_rests hxs' hrests, hreader, hwriter, bufferEnd, hmakes.bufferLength, Connection.room,
    if_pos hconnected, h.contents_eq]
  rfl

/-- One packet more: as many go out as before, unless all of them did. -/
theorem leaving_append (c : Connection) (xs : List (List U8)) (z : List U8) :
    c.leaving (xs ++ [z]) = c.leaving xs ∧ c.leaving xs ≤ xs.length ∨
      c.leaving xs = xs.length ∧ c.leaving (xs ++ [z]) = xs.length + 1 := by
  have hle : (xs.takeWhile fun x => ¬ ByRequest x).length ≤ xs.length :=
    (List.takeWhile_prefix _).length_le
  unfold Connection.leaving
  rw [List.takeWhile_append]
  split_ifs with hall
  · rw [List.length_append]
    have hone : ([z].takeWhile fun x => decide ¬ ByRequest x).length ≤ 1 :=
      (List.takeWhile_prefix _).length_le
    omega
  · omega

/-- Where the reader stops is the same, and the writer goes on alike from there. -/
theorem writerAfter_past {size reader writer writer' length left : ℕ} (gone : ℕ)
    (h : writerAfter size reader writer length = some writer') (hleft : 0 < left)
    (hlayout : reader + (gone + left) = writer ∨ writer < reader ∧ reader < size) :
    (if left + (length + 2) ≤ writer' then writer' - (left + (length + 2)) else reader + gone) =
        (if left ≤ writer then writer - left else reader + gone) ∧
      writerAfter size (if left ≤ writer then writer - left else reader + gone) writer length =
        some writer' := by
  unfold writerAfter at h ⊢
  split_ifs at h with hturn hplace
  · obtain rfl := Option.some.inj h
    rw [if_neg (by omega), if_pos (by omega), if_pos (by omega)]
    exact ⟨by omega, rfl⟩
  · obtain rfl := Option.some.inj h
    split_ifs
    all_goals first | omega | exact ⟨by omega, rfl⟩

/-- An empty queue, or one with a single packet of ten bytes, has room for six more. -/
theorem six_lt_roomAt {writer back : ℕ} (hwriter : writer < packetSendBufferSize)
    (hback : back ≤ writer) (hshort : back ≤ 12) :
    6 < roomAt packetSendBufferSize (writer - back) writer 10 := by
  unfold packetSendBufferSize at *
  rw [roomAt, if_pos (Nat.sub_le _ _)]
  split_ifs
  · omega
  · omega

/-- With an element of ten bytes more, the reader stops as before and there is room for one less.
Only if all the others go out, the reader may stop elsewhere, with more than enough room. -/
theorem roomAt_append (h : Represents c.packetSendQueue peeked xs)
    (hbuffer : c.packetSendQueue.bufferEnd = packetSendBufferSize) {writer' : ℕ}
    (hafter : writerAfter packetSendBufferSize c.packetSendQueue.readPointer
      c.packetSendQueue.writePointer 10 = some writer') {z : List U8} (hz : bytesOf [z] = 12) :
    let room' := roomAt packetSendBufferSize
      (readerPast c.packetSendQueue.readPointer writer'
        ((xs ++ [z]).take (c.leaving (xs ++ [z]))) ((xs ++ [z]).drop (c.leaving (xs ++ [z]))))
      writer' 10
    let room := roomAt packetSendBufferSize (c.stop xs) c.packetSendQueue.writePointer 10
    room' + 1 = room ∨ 6 ≤ room' + 1 ∧ 6 ≤ room := by
  intro room' room
  have hpointers := pointers_of_represents h
  rw [hbuffer] at hpointers
  have hlayout : c.packetSendQueue.readPointer + bytesOf xs = c.packetSendQueue.writePointer ∧
        c.packetSendQueue.writePointer < packetSendBufferSize ∨
      c.packetSendQueue.writePointer < c.packetSendQueue.readPointer ∧
        c.packetSendQueue.readPointer < packetSendBufferSize := by
    rcases hpointers with hstraight | ⟨hlt, front, back, -, -, -, hfit⟩
    · exact .inl hstraight
    · exact .inr ⟨hlt, by omega⟩
  have hwriter' : 12 ≤ writer' ∧ writer' < packetSendBufferSize := by
    unfold writerAfter at hafter
    split_ifs at hafter
    all_goals
      obtain rfl := Option.some.inj hafter
      omega
  have hsplit :
      bytesOf (xs.take (c.leaving xs)) + bytesOf (xs.drop (c.leaving xs)) = bytesOf xs := by
    rw [← bytesOf_append, List.take_append_drop]
  by_cases hall : c.leaving xs = xs.length
  · -- everything goes out, perhaps but for the new element
    right
    have hroom : 6 < room := by
      have hstop : c.stop xs = c.packetSendQueue.writePointer - 0 := by
        rw [Connection.stop, readerPast, hall, List.drop_length, bytesOf_nil,
          if_pos (Nat.zero_le _)]
      show 6 < roomAt _ (c.stop xs) _ _
      rw [hstop]
      exact six_lt_roomAt (by omega) (Nat.zero_le _) (Nat.zero_le _)
    have hroom' : 6 < room' := by
      have hleft : bytesOf ((xs ++ [z]).drop (c.leaving (xs ++ [z]))) ≤ 12 := by
        rcases leaving_append c xs z with ⟨hsame, -⟩ | ⟨-, hmore⟩
        · rw [hsame, hall, List.drop_left, hz]
        · rw [hmore, List.drop_eq_nil_of_le (by simp)]
          exact Nat.zero_le _
      show 6 < roomAt _ (readerPast _ _ _ _) _ _
      rw [readerPast, if_pos (hleft.trans hwriter'.1)]
      exact six_lt_roomAt hwriter'.2 (hleft.trans hwriter'.1) hleft
    omega
  · -- some element stays, and the new one stays behind it
    left
    have hsame : c.leaving (xs ++ [z]) = c.leaving xs ∧ c.leaving xs < xs.length := by
      rcases leaving_append c xs z with ⟨hsame, hle⟩ | ⟨hall', -⟩
      · exact ⟨hsame, by omega⟩
      · exact absurd hall' hall
    have hleft : 0 < bytesOf (xs.drop (c.leaving xs)) := by
      obtain ⟨y, ys, hys⟩ := List.exists_cons_of_ne_nil
        (List.ne_nil_of_length_pos (l := xs.drop (c.leaving xs)) (by rw [List.length_drop]; omega))
      rw [hys, bytesOf_cons]
      omega
    obtain ⟨hsame', hafter'⟩ :=
      writerAfter_past (bytesOf (xs.take (c.leaving xs))) hafter hleft (by omega)
    have hstop : readerPast c.packetSendQueue.readPointer writer'
        ((xs ++ [z]).take (c.leaving (xs ++ [z]))) ((xs ++ [z]).drop (c.leaving (xs ++ [z]))) =
        c.stop xs := by
      rw [hsame.1, List.take_append_of_le_length hsame.2.le,
        List.drop_append_of_le_length hsame.2.le, readerPast, bytesOf_append, hz]
      exact hsame'
    show roomAt _ (readerPast _ _ _ _) _ _ + 1 = roomAt _ (c.stop xs) _ _
    rw [hstop]
    exact (roomAt_of_some hafter').symm

/-- A packet of ten bytes that is put into the queue takes its place in it, whether it is put there
before or after the loop.  Only with more than enough room there may be more of it afterwards. -/
theorem room_put (h : Represents c.packetSendQueue peeked xs)
    (hbuffer : c.packetSendQueue.bufferEnd = packetSendBufferSize) {data : List U8}
    (hlength : data.length = 10) {reliable : Bool}
    (hput : (c.packetSendQueue.put data (BitVec.ofNat 8 data.length) reliable).2 = true) :
    let c' := { c with
      packetSendQueue := (c.packetSendQueue.put data (BitVec.ofNat 8 data.length) reliable).1 }
    c'.room 10 + 1 = c.room 10 ∨ 6 ≤ c'.room 10 + 1 ∧ 6 ≤ c.room 10 := by
  have hshort : data.length ≤ 252 := by omega
  obtain ⟨hreader, hafter⟩ := put_eq_writerAfter c.packetSendQueue hshort reliable
  rw [if_pos hput, hbuffer] at hafter
  have hrep := h.put_true hshort reliable hput
  have hend := put_bufferLength c.packetSendQueue hshort reliable
  generalize (c.packetSendQueue.put data (BitVec.ofNat 8 data.length) reliable).1 = q at *
  rw [hlength] at hafter
  have hbuffer' : q.bufferEnd = packetSendBufferSize := by
    rw [← hbuffer, bufferEnd, hend, bufferEnd]
  unfold Connection.room
  dsimp only
  rw [hbuffer, hbuffer', hrep.contents_eq, h.contents_eq, hreader]
  cases c.isConnected with
  | false =>
      left
      exact (roomAt_of_some hafter).symm
  | true =>
      have hbytes : bytesOf [element reliable data] = 12 := by
        rw [bytesOf_cons, length_element, hlength, bytesOf_nil]
      rw [if_pos rfl, if_pos rfl, Connection.stop, hreader]
      exact roomAt_append h hbuffer hafter hbytes

/-- The loop would change nothing about where the reader stands. -/
def Connection.Quiet (c : Connection) : Prop :=
  c.isConnected = false ∨ c.Rests c.packetSendQueue.contents

/-- At rest, `Put` takes a packet exactly if there is room. -/
theorem put_iff_room (hquiet : c.Quiet) {data : List U8} (hshort : data.length ≤ 252)
    (reliable : Bool) :
    (c.packetSendQueue.put data (BitVec.ofNat 8 data.length) reliable).2 = true ↔
      0 < c.room data.length := by
  have hroom : c.room data.length = roomAt c.packetSendQueue.bufferEnd
      c.packetSendQueue.readPointer c.packetSendQueue.writePointer data.length := by
    unfold Connection.room
    rcases hquiet with hidle | hrests
    · rw [hidle]
      rfl
    · rw [hrests.stop, ite_self]
  obtain ⟨-, hafter⟩ := put_eq_writerAfter c.packetSendQueue hshort reliable
  rw [hroom]
  split_ifs at hafter with hput
  · rw [roomAt_of_some hafter]
    exact ⟨fun _ => Nat.succ_pos _, fun _ => hput⟩
  · rw [roomAt_of_none hafter]
    exact ⟨fun htrue => absurd htrue hput, fun hpos => absurd hpos (Nat.lt_irrefl 0)⟩

/-! ## A packet is queued, and the buffers are filled -/

/-- `QueuePacket`, as far as the connection goes. -/
def Connection.queued (c : Connection) (data : List U8) (reliable : Bool) : Connection :=
  { c with
    packetSendQueue := (c.packetSendQueue.put data (BitVec.ofNat 8 data.length) reliable).1 }

/-- How many packets are added to the queue: one or none. -/
def Connection.taken (c : Connection) (data : List U8) (reliable : Bool) : ℕ :=
  (c.packetSendQueue.put data (BitVec.ofNat 8 data.length) reliable).2.toNat

/-- `fillTransmitBuffers`, as far as the connection goes. -/
def Connection.settled (c : Connection) (now : U64) : Connection :=
  if c.isConnected then (c.fill now).1 else c

namespace Traffic

theorem IntactSlot.settled (h : IntactSlot c requests) (now : U64) :
    (∃ requests', IntactSlot (c.settled now) requests') ∧ (c.settled now).Quiet ∧
      ∀ length, (c.settled now).room length = c.room length := by
  unfold Connection.settled
  split_ifs with hconnected
  · obtain ⟨xs, hholding⟩ := h.holding
    obtain ⟨xs', ⟨_, hxs'⟩, hrests, -⟩ := hholding.fill_stop now
    rw [← hxs'.contents_eq] at hrests
    exact ⟨⟨_, h.fill hconnected now⟩, .inr hrests, room_fill hholding hconnected now⟩
  · exact ⟨⟨requests, h⟩, .inl (Bool.eq_false_of_not_eq_true hconnected), fun _ => rfl⟩

/-- What a packet of ten bytes takes of the room. -/
theorem IntactSlot.queued (h : IntactSlot c requests) {data : List U8} {reliable : Bool}
    (hlength : data.length = 10) (hfits : Fits (element reliable data)) :
    IntactSlot (c.queued data reliable) requests ∧
      ((c.queued data reliable).room 10 + c.taken data reliable = c.room 10 ∨
        6 ≤ (c.queued data reliable).room 10 + c.taken data reliable ∧ 6 ≤ c.room 10) := by
  refine ⟨h.put hfits, ?_⟩
  obtain ⟨xs, hholding⟩ := h.holding
  obtain ⟨peeked, hrep⟩ := hholding.queue
  have hbuffer : c.packetSendQueue.bufferEnd = packetSendBufferSize := by
    rw [bufferEnd, h.bufferLength]
    rfl
  cases hput : (c.packetSendQueue.put data (BitVec.ofNat 8 data.length) reliable).2 with
  | false =>
      left
      rw [Connection.taken, hput, Connection.queued, put_false (by omega) hput]
      rfl
  | true =>
      rw [Connection.taken, hput]
      exact room_put hrep hbuffer hlength hput

end Traffic

end Room

end FruityMesh.Transport
