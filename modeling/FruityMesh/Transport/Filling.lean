import FruityMesh.Library.Endings
import FruityMesh.Transport.Flow

/-!
# A call of `fillTransmitBuffers`

`ConnectionManager.fillTransmitBuffers` gives what a call leaves behind, each connection for
itself.  Here the call is made step by step, as the source makes it: a loop over the connections,
in it a loop over the packets of one, and in that a call of the stack, which may fail.  A failing
call ends in `app_error_handler`, and from there nothing returns (`appErrorCheck_eq_some_iff`).

* **It ends.**  A turn of the inner loop that is not the last one uses up a packet or the buffer
  of a write request (`transmitNext_passesLeft`), so the loop over one connection comes to its end
  (`reaches_packet`) and with it the loop over all of them (`reaches_connection`).
* **It conserves work.**  The inner loop is left with an empty queue or with a packet in front
  whose buffer is not free (`settled_fillAt`).  The packet in front is edited on the way, but not
  its length and not its flag byte (`headByRequest_of_agree`).
* **The connections do not wait for each other.**  What is left of a connection and written to it
  is what its own loop makes of it alone (`serve`).
-/

namespace FruityMesh.Transport

open Cells PacketQueue StateTransition

/-! ## A call of the stack that fails -/

def nrfSuccess : U32 := 0
def nrfErrorInvalidState : U32 := 8
def nrfErrorBusy : U32 := 17

/-- `app_error_handler`, with `none` for a call that does not return.  Every branch begins with
`NVIC_SystemReset`; the endless loop and the returns stand behind it. -/
def appErrorHandler (lookingForInvalidStateErrors : Bool) (errorCode : U32) : Option Unit :=
  if errorCode = 0xDEADBEEF then none
  else if lookingForInvalidStateErrors = false ∧ errorCode = nrfErrorInvalidState then none
  else if errorCode = nrfErrorBusy then none
  else none

/-- `APP_ERROR_CHECK`. -/
def appErrorCheck (lookingForInvalidStateErrors : Bool) (err : U32) : Option Unit :=
  if err ≠ nrfSuccess then appErrorHandler lookingForInvalidStateErrors err else some ()

theorem appErrorHandler_eq_none (looking : Bool) (errorCode : U32) :
    appErrorHandler looking errorCode = none := by
  unfold appErrorHandler
  split_ifs <;> rfl

theorem appErrorCheck_eq_some_iff {looking : Bool} {err : U32} :
    appErrorCheck looking err = some () ↔ err = nrfSuccess := by
  unfold appErrorCheck
  rw [appErrorHandler_eq_none]
  split_ifs with h
  · exact ⟨fun hsome => absurd hsome (by simp), fun heq => absurd heq h⟩
  · exact ⟨fun _ => not_not.mp h, fun _ => rfl⟩

/-! ## The call -/

/-- What the call meets, in each turn of the loop over the packets of a connection. -/
structure Surroundings where
  /-- The time that a timestamp packet gets. -/
  now : Slot → ℕ → U64
  /-- What `sd_ble_gattc_write` answers, if it is called. -/
  err : Slot → ℕ → U32
  lookingForInvalidStateErrors : Bool

/-- Some call of the stack fails. -/
def Surroundings.Fails (e : Surroundings) : Prop := ∃ i turn, e.err i turn ≠ nrfSuccess

/-- Where the call stands: before a turn of the outer or of the inner loop, or at its end. -/
inductive Place
  | connection (i : ℕ)
  | packet (i : Slot) (turn : ℕ)
  | returned
  | reset
  deriving DecidableEq

/-- The state of a call, with the writes made on each connection. -/
structure FillCall where
  manager : ConnectionManager
  writes : Slot → List Write
  place : Place

namespace FillCall

/-- A turn of the inner loop whose call of the stack, if there is one, returns. -/
def sent (e : Surroundings) (s : FillCall) (i : Slot) (turn : ℕ) : FillCall :=
  let pass := (s.manager.connections i).transmitNext (e.now i turn)
  { manager := s.manager.setConnection i pass.connection
    writes := Function.update s.writes i (s.writes i ++ pass.write.toList)
    place := if pass.packetCouldNotBeSent then .connection (i + 1) else .packet i (turn + 1) }

/-- One turn of a loop of `fillTransmitBuffers`. -/
def step (e : Surroundings) (s : FillCall) : Option FillCall :=
  match s.place with
  | .connection i =>
      if hi : i < meshMaxConnections then
        let c := s.manager.connections ⟨i, hi⟩
        if c.isConnected ∧ c.packetSendQueue.numElements ≠ 0 then
          some { s with place := .packet ⟨i, hi⟩ 0 }
        else some { s with place := .connection (i + 1) }
      else some { s with place := .returned }
  | .packet i turn =>
      let c := s.manager.connections i
      if c.packetSendQueue.numElements = 0 then some { s with place := .connection (i + 1) }
      else if (c.transmitNext (e.now i turn)).write ≠ none ∧
          appErrorCheck e.lookingForInvalidStateErrors (e.err i turn) ≠ some () then
        some { s with place := .reset }
      else some (sent e s i turn)
  | .returned | .reset => none

/-- The call, as it begins. -/
def start (manager : ConnectionManager) : FillCall := ⟨manager, fun _ => [], .connection 0⟩

end FillCall

/-! ## One connection -/

namespace Connection

/-- The loop over the packets of one connection, with the time of each turn. -/
def fillAt (now : ℕ → U64) (turn : ℕ) (c : Connection) : Connection × List Write :=
  if _hnum : c.packetSendQueue.numElements = 0 then (c, [])
  else
    if _hsent : (c.transmitNext (now turn)).packetCouldNotBeSent = false then
      let rest := fillAt now (turn + 1) (c.transmitNext (now turn)).connection
      (rest.1, (c.transmitNext (now turn)).write.toList ++ rest.2)
    else
      ((c.transmitNext (now turn)).connection, [])
termination_by c.passesLeft
decreasing_by exact transmitNext_passesLeft _hnum _hsent

/-- The packet in front goes out with a write request: it is flagged, or has more than 20
bytes. -/
def headByRequest (c : Connection) : Bool :=
  match c.packetSendQueue.peekNext.2.data with
  | none => false
  | some pointer =>
      c.sendByte pointer ≠ 0 ∨
        (c.packetSendQueue.peekNext.2.length - 1).toNat > maxDataSizePerWrite

/-- The buffer that the packet in front needs is not free. -/
def Stalled (c : Connection) : Prop :=
  if c.headByRequest then c.reliableBuffersFree = 0 else c.unreliableBuffersFree = 0

instance (c : Connection) : Decidable c.Stalled :=
  inferInstanceAs
    (Decidable (if c.headByRequest then c.reliableBuffersFree = 0 else c.unreliableBuffersFree = 0))

/-- There is nothing to send, or it has to wait. -/
def Settled (c : Connection) : Prop := c.packetSendQueue.numElements = 0 ∨ c.Stalled

/-- The packet in front is the one that the queue holds first. -/
theorem headByRequest_iff {c : Connection} {peeked : Bool} {x : List U8} {rest : List (List U8)}
    (h : Represents c.packetSendQueue peeked (x :: rest)) (hnonempty : 0 < x.tail.length) :
    c.headByRequest = true ↔ ByRequest x := by
  obtain ⟨start, heq, hpeek, hstart, -⟩ := h.peekNext_cons
  subst hstart
  have hx := h.lengths x List.mem_cons_self
  have hsize : (BitVec.ofNat 16 x.length - 1 : U16).toNat = x.tail.length := by
    rw [List.length_tail] at hnonempty ⊢
    bv_omega
  have hcell : c.packetSendQueue.peekNext.1.memory.cell = c.packetSendQueue.memory.cell := by
    unfold PacketQueue.peekNext
    split <;> rfl
  have hflag : c.sendByte (c.packetSendQueue.peekNext.1.readPointer + 1) = x.headD 0 := by
    rw [sendByte, ← hcell]
    exact (head_bytes hpeek hnonempty).1
  rw [headByRequest, heq, ByRequest]
  simp only [hsize, hflag, decide_eq_true_eq, gt_iff_lt]

/-! ### The packet in front -/

variable {c c' : Connection} {now : U64}

theorem peekNext_eq {q : PacketQueue} (hnum : q.numElements ≠ 0) :
    q.peekNext.2 =
      ⟨some (q.peekNext.1.readPointer + 1),
        (q.memory.cell q.peekNext.1.readPointer).setWidth 16⟩ := by
  unfold PacketQueue.peekNext
  rw [if_neg hnum]

/-- Peeking again finds the same packet, if its length and its flag byte are not touched. -/
theorem headByRequest_of_agree (hnum : c.packetSendQueue.numElements ≠ 0)
    (hnum' : c'.packetSendQueue.numElements = c.packetSendQueue.numElements)
    (hread : c'.packetSendQueue.readPointer = c.packetSendQueue.peekNext.1.readPointer)
    (hwrite : c'.packetSendQueue.writePointer = c.packetSendQueue.writePointer)
    (hcell : ∀ k ≤ c.packetSendQueue.peekNext.1.readPointer + 1, c'.sendByte k = c.sendByte k) :
    c'.headByRequest = c.headByRequest := by
  have hagain : c'.packetSendQueue.peekNext.1.readPointer =
      c.packetSendQueue.peekNext.1.readPointer := by
    have hlength := hcell c.packetSendQueue.peekNext.1.readPointer (Nat.le_add_right _ 1)
    unfold sendByte at hlength
    unfold PacketQueue.peekNext at hread hlength ⊢
    rw [if_neg hnum] at hread hlength ⊢
    rw [if_neg (hnum' ▸ hnum)]
    dsimp only at hread hlength ⊢
    rw [hread, hwrite, hlength]
    by_cases hturned : c.packetSendQueue.memory.cell c.packetSendQueue.readPointer = 0 ∧
        c.packetSendQueue.writePointer < c.packetSendQueue.readPointer
    · -- at the start of the buffer the reader does not turn again
      rw [if_pos hturned, if_neg (by omega)]
    · rw [if_neg hturned, if_neg hturned]
  have hlength := hcell c.packetSendQueue.peekNext.1.readPointer (Nat.le_add_right _ 1)
  unfold sendByte at hlength
  have hsame : c'.packetSendQueue.peekNext.2 = c.packetSendQueue.peekNext.2 := by
    rw [peekNext_eq hnum, peekNext_eq (hnum' ▸ hnum), hagain, hlength]
  unfold headByRequest
  rw [hsame, peekNext_eq hnum]
  simp only [hcell _ le_rfl]

theorem sendReliable_full {data : ℕ} {dataSize : U16}
    (h : (c.sendReliable now data dataSize).packetCouldNotBeSent = true) :
    c.reliableBuffersFree = 0 ∧ c.sendReliable now data dataSize = ⟨c, none, true⟩ := by
  by_cases hfree : c.reliableBuffersFree = 0
  · exact ⟨hfree, if_pos hfree⟩
  · rw [sendReliable, if_neg hfree] at h
    exact absurd h (by simp)

theorem sendUnreliable_full {data : ℕ} {dataSize : U16}
    (h : (c.sendUnreliable data dataSize).packetCouldNotBeSent = true) :
    c.unreliableBuffersFree = 0 ∧ c.sendUnreliable data dataSize = ⟨c, none, true⟩ := by
  by_cases hfree : c.unreliableBuffersFree = 0
  · exact ⟨hfree, if_pos hfree⟩
  · rw [sendUnreliable, if_neg hfree] at h
    exact absurd h (by simp)

/-- In the turn after which the loop is left, nothing is written. -/
theorem transmitNext_full (hnum : c.packetSendQueue.numElements ≠ 0)
    (h : (c.transmitNext now).packetCouldNotBeSent = true) :
    (c.transmitNext now).connection.Stalled ∧ (c.transmitNext now).write = none := by
  have hpeek := peekQueue_queue c
  have hpointers : c.peekQueue.packetSendQueue.readPointer =
        c.packetSendQueue.peekNext.1.readPointer ∧
      c.peekQueue.packetSendQueue.writePointer = c.packetSendQueue.writePointer ∧
      c.peekQueue.packetSendQueue.memory.cell = c.packetSendQueue.memory.cell := by
    refine ⟨rfl, ?_⟩
    simp only [peekQueue, PacketQueue.peekNext]
    split <;> exact ⟨rfl, rfl⟩
  have hbyte : ∀ k, c.peekQueue.sendByte k = c.sendByte k := fun k => congrFun hpointers.2.2 k
  -- neither peeking nor clearing the bit for more parts changes how the packet goes out
  have hpeeked : c.peekQueue.headByRequest = c.headByRequest :=
    headByRequest_of_agree hnum hpeek.1 hpointers.1 hpointers.2.1 fun k _ => hbyte k
  have hcleared : ∀ first, (c.peekQueue.editQueue
      (c.packetSendQueue.peekNext.1.readPointer + 1 + 1) [first]).headByRequest =
        c.headByRequest := by
    intro first
    refine headByRequest_of_agree hnum hpeek.1 hpointers.1 hpointers.2.1 fun k hk => ?_
    rw [← hbyte k]
    exact overwrite_of_lt _ _ (by omega)
  have hhead : c.headByRequest =
      (c.sendByte (c.packetSendQueue.peekNext.1.readPointer + 1) ≠ 0 ∨
        (c.packetSendQueue.peekNext.2.length - 1).toNat > maxDataSizePerWrite) := by
    simp only [headByRequest, peekNext_eq hnum, decide_eq_true_eq]
  unfold transmitNext at h ⊢
  rw [peekNext_eq hnum] at h hhead ⊢
  simp only [hbyte] at h ⊢
  split_ifs at h ⊢ with hlong hflag
  · obtain ⟨hfree, heq⟩ := sendReliable_full h
    rw [heq, Stalled, hpeeked, if_pos (hhead ▸ Or.inr hlong)]
    exact ⟨hfree, rfl⟩
  · obtain ⟨hfree, heq⟩ := sendReliable_full h
    rw [heq, Stalled, hcleared, if_pos (hhead ▸ Or.inl hflag)]
    exact ⟨hfree, rfl⟩
  · obtain ⟨hfree, heq⟩ := sendUnreliable_full h
    rw [heq, Stalled, hcleared, if_neg (hhead ▸ not_or.mpr ⟨hflag, hlong⟩)]
    exact ⟨hfree, rfl⟩

/-- **Work conserving.**  The loop is left with nothing to send, or with a packet in front that has
to wait. -/
theorem settled_fillAt (now : ℕ → U64) (turn : ℕ) (c : Connection) :
    (c.fillAt now turn).1.Settled := by
  induction turn, c using fillAt.induct now with
  | case1 turn c hnum =>
      rw [fillAt, dif_pos hnum]
      exact .inl hnum
  | case2 turn c hnum hsent ih =>
      rw [fillAt, dif_neg hnum, dif_pos hsent]
      exact ih
  | case3 turn c hnum hsent =>
      rw [fillAt, dif_neg hnum, dif_neg hsent]
      exact .inr (transmitNext_full hnum (eq_true_of_ne_false hsent)).1

/-- With a clock that stands still it is the loop of `fill`. -/
theorem fillAt_eq_fill (now : U64) (turn : ℕ) (c : Connection) :
    c.fillAt (fun _ => now) turn = c.fill now := by
  induction turn, c using fillAt.induct fun _ => now with
  | case1 turn c hnum => rw [fillAt, fill, dif_pos hnum, dif_pos hnum]
  | case2 turn c hnum hsent ih =>
      rw [fillAt, fill, dif_neg hnum, dif_neg hnum, dif_pos hsent, dif_pos hsent, ih]
  | case3 turn c hnum hsent =>
      rw [fillAt, fill, dif_neg hnum, dif_neg hnum, dif_neg hsent, dif_neg hsent]

end Connection

/-! ## The whole call -/

/-- What the call makes of a connection, and the writes on it. -/
def serve (e : Surroundings) (i : Slot) (c : Connection) : Connection × List Write :=
  if c.isConnected then c.fillAt (e.now i) 0 else (c, [])

namespace FillCall

variable {e : Surroundings} {s : FillCall}

/-- The node is reset in a call of the stack that fails. -/
def Breaks (e : Surroundings) (s : FillCall) : Prop :=
  e.Fails ∧ ∃ s', Reaches (step e) s s' ∧ s'.place = .reset

theorem Breaks.before {s' : FillCall} (hreaches : Reaches (step e) s s') (h : Breaks e s') :
    Breaks e s := by
  obtain ⟨hfails, last, hlast, hreset⟩ := h
  exact ⟨hfails, last, hreaches.trans hlast, hreset⟩

/-- The state after the loop over the packets of a connection. -/
def filled (e : Surroundings) (s : FillCall) (i : Slot) (turn : ℕ) : FillCall where
  manager := s.manager.setConnection i ((s.manager.connections i).fillAt (e.now i) turn).1
  writes := Function.update s.writes i
    (s.writes i ++ ((s.manager.connections i).fillAt (e.now i) turn).2)
  place := .connection (i + 1)

/-- A turn of the inner loop, unless the stack fails in it. -/
theorem step_packet {i : Slot} {turn : ℕ} (hplace : s.place = .packet i turn)
    (hnum : (s.manager.connections i).packetSendQueue.numElements ≠ 0) :
    step e s = some (sent e s i turn) ∨ Breaks e s := by
  have hstep : step e s =
      if ((s.manager.connections i).transmitNext (e.now i turn)).write ≠ none ∧
          appErrorCheck e.lookingForInvalidStateErrors (e.err i turn) ≠ some () then
        some { s with place := .reset }
      else some (sent e s i turn) := by
    unfold step
    rw [hplace]
    exact if_neg hnum
  split_ifs at hstep with hfails
  · have herr : e.err i turn ≠ nrfSuccess := fun heq => hfails.2 (appErrorCheck_eq_some_iff.mpr heq)
    exact .inr ⟨⟨i, turn, herr⟩, _, .single hstep, rfl⟩
  · exact .inl hstep

/-- The loop over the packets of a connection comes to its end, by induction along `fillAt`. -/
theorem reaches_packet (e : Surroundings) (i : Slot) (turn : ℕ) (c : Connection) (s : FillCall)
    (hplace : s.place = .packet i turn) (hc : s.manager.connections i = c) :
    Reaches (step e) s (filled e s i turn) ∨ Breaks e s := by
  induction turn, c using Connection.fillAt.induct (e.now i) generalizing s with
  | case1 turn c hnum =>
      subst hc
      have hstep : step e s = some { s with place := .connection (i + 1) } := by
        unfold step
        rw [hplace]
        exact if_pos hnum
      have hfilled : filled e s i turn = { s with place := .connection (i + 1) } := by
        unfold filled ConnectionManager.setConnection
        rw [Connection.fillAt, dif_pos hnum]
        simp only [Function.update_eq_self, List.append_nil]
      rw [hfilled]
      exact .inl (.single hstep)
  | case2 turn c hnum hsent ih =>
      subst hc
      rcases step_packet (e := e) hplace hnum with hstep | hbreaks
      · have hplace' : (sent e s i turn).place = .packet i (turn + 1) := by
          simp only [sent, hsent, Bool.false_eq_true, if_false]
        have hfilled : filled e s i turn = filled e (sent e s i turn) i (turn + 1) := by
          unfold filled sent ConnectionManager.setConnection
          rw [Connection.fillAt, dif_neg hnum, dif_pos hsent]
          simp only [Function.update_self, Function.update_idem, List.append_assoc]
        rcases ih _ hplace' (s.manager.setConnection_same i _) with hreaches | hbreaks
        · rw [hfilled]
          exact .inl (.head hstep hreaches)
        · exact .inr (hbreaks.before (.single hstep))
      · exact .inr hbreaks
  | case3 turn c hnum hsent =>
      subst hc
      have hfull := eq_true_of_ne_false hsent
      rcases step_packet (e := e) hplace hnum with hstep | hbreaks
      · have hfilled : filled e s i turn = sent e s i turn := by
          unfold filled sent
          rw [Connection.fillAt, dif_neg hnum, dif_neg hsent]
          simp only [hfull, if_true, (Connection.transmitNext_full hnum hfull).2,
            Option.toList_none]
        rw [hfilled]
        exact .inl (.single hstep)
      · exact .inr hbreaks

/-- The state at the end, from a turn of the outer loop on. -/
def served (e : Surroundings) (s : FillCall) (i : ℕ) : FillCall where
  manager := { s.manager with
    connections := fun j =>
      if i ≤ j then (serve e j (s.manager.connections j)).1 else s.manager.connections j }
  writes := fun j =>
    if i ≤ j then s.writes j ++ (serve e j (s.manager.connections j)).2 else s.writes j
  place := .returned

theorem served_of_ge {i : ℕ} (hi : meshMaxConnections ≤ i) :
    served e s i = { s with place := .returned } := by
  have hlt : ∀ j : Slot, ¬ i ≤ j := fun j => by omega
  simp only [served, hlt, if_false]

/-- A turn of the outer loop serves one connection. -/
theorem served_eq {i : Slot} {s' : FillCall}
    (hconnections : s'.manager = s.manager.setConnection i (serve e i (s.manager.connections i)).1)
    (hwrites : s'.writes =
      Function.update s.writes i (s.writes i ++ (serve e i (s.manager.connections i)).2)) :
    served e s' (i + 1) = served e s i := by
  have hother : ∀ j : Slot, j ≠ i → ((i : ℕ) + 1 ≤ j ↔ (i : ℕ) ≤ j) := by
    intro j hj
    have := Fin.val_ne_of_ne hj
    omega
  have hserved :
      (served e s' (i + 1)).manager.connections = (served e s i).manager.connections := by
    simp only [served, hconnections, ConnectionManager.setConnection]
    funext j
    by_cases hj : j = i
    · subst hj
      simp
    · simp only [hother j hj, Function.update_of_ne hj]
  have hwritten : (served e s' (i + 1)).writes = (served e s i).writes := by
    simp only [served, hconnections, hwrites, ConnectionManager.setConnection]
    funext j
    by_cases hj : j = i
    · subst hj
      simp
    · simp only [hother j hj, Function.update_of_ne hj]
  have hpending : s'.manager.pendingPackets = s.manager.pendingPackets := by
    rw [hconnections]
    rfl
  calc
    served e s' (i + 1) =
        ⟨⟨(served e s' (i + 1)).manager.connections, s'.manager.pendingPackets⟩,
          (served e s' (i + 1)).writes, .returned⟩ := rfl
    _ = ⟨⟨(served e s i).manager.connections, s.manager.pendingPackets⟩,
          (served e s i).writes, .returned⟩ := by rw [hserved, hwritten, hpending]
    _ = served e s i := rfl

/-- The outer loop comes to its end. -/
theorem reaches_connection (e : Surroundings) (s : FillCall) {i : ℕ}
    (hplace : s.place = .connection i) :
    Reaches (step e) s (served e s i) ∨ Breaks e s := by
  induction hleft : meshMaxConnections - i generalizing s i with
  | zero =>
      have hstep : step e s = some { s with place := .returned } := by
        unfold step
        rw [hplace]
        exact dif_neg (by omega)
      rw [served_of_ge (by omega)]
      exact .inl (.single hstep)
  | succ left ih =>
      have hi : i < meshMaxConnections := by omega
      obtain ⟨c, hc⟩ : ∃ c, s.manager.connections ⟨i, hi⟩ = c := ⟨_, rfl⟩
      have hstep : step e s =
          if c.isConnected ∧ c.packetSendQueue.numElements ≠ 0 then
            some { s with place := .packet ⟨i, hi⟩ 0 }
          else some { s with place := .connection (i + 1) } := by
        unfold step
        rw [hplace, ← hc]
        exact dif_pos hi
      split_ifs at hstep with hserves
      · -- the loop over the packets of this connection, then the other connections
        have hserve : serve e ⟨i, hi⟩ c = c.fillAt (e.now ⟨i, hi⟩) 0 := if_pos hserves.1
        rcases reaches_packet e ⟨i, hi⟩ 0 c { s with place := .packet ⟨i, hi⟩ 0 } rfl hc with
          hpacket | hbreaks
        · have hsame : served e (filled e { s with place := .packet ⟨i, hi⟩ 0 } ⟨i, hi⟩ 0) (i + 1) =
              served e s i :=
            served_eq (i := ⟨i, hi⟩) (by rw [hc, hserve, ← hc]; rfl) (by rw [hc, hserve, ← hc]; rfl)
          have hbefore : Reaches (step e) s
              (filled e { s with place := .packet ⟨i, hi⟩ 0 } ⟨i, hi⟩ 0) := .head hstep hpacket
          have hleft' : meshMaxConnections - (i + 1) = left := by omega
          rcases ih (filled e { s with place := .packet ⟨i, hi⟩ 0 } ⟨i, hi⟩ 0) rfl hleft' with
            hreaches | hbreaks
          · rw [hsame] at hreaches
            exact .inl (hbefore.trans hreaches)
          · exact .inr (hbreaks.before hbefore)
        · exact .inr (hbreaks.before (.single hstep))
      · -- nothing to do for this connection
        have hserve : serve e ⟨i, hi⟩ c = (c, []) := by
          unfold serve
          split_ifs with hconnected
          · have hnum : c.packetSendQueue.numElements = 0 := by
              by_contra hne
              exact hserves ⟨hconnected, hne⟩
            rw [Connection.fillAt, dif_pos hnum]
          · rfl
        have hsame : served e { s with place := .connection (i + 1) } (i + 1) = served e s i :=
          served_eq (i := ⟨i, hi⟩)
            (by rw [hc, hserve, ← hc]; simp [ConnectionManager.setConnection])
            (by rw [hc, hserve]; simp)
        rcases ih { s with place := .connection (i + 1) } rfl (by omega) with hreaches | hbreaks
        · rw [hsame] at hreaches
          exact .inl (.head hstep hreaches)
        · exact .inr (hbreaks.before (.single hstep))

/-- A call that has returned. -/
structure WorkConserving (e : Surroundings) (cm : ConnectionManager) (s : FillCall) : Prop where
  /-- A connected link has nothing to send, or what it has in front has to wait. -/
  settled : ∀ i, (s.manager.connections i).isConnected = true → (s.manager.connections i).Settled
  /-- What is sent on a link does not depend on the other ones. -/
  alone : ∀ i, (s.manager.connections i, s.writes i) = serve e i (cm.connections i)
  pendingPackets : s.manager.pendingPackets = cm.pendingPackets

theorem workConserving_served (e : Surroundings) (cm : ConnectionManager) :
    WorkConserving e cm (served e (start cm) 0) := by
  have halone : ∀ i, ((served e (start cm) 0).manager.connections i,
      (served e (start cm) 0).writes i) = serve e i (cm.connections i) := by
    intro i
    simp [served, start]
  refine ⟨fun i hconnected => ?_, halone, rfl⟩
  have hc := congrArg Prod.fst (halone i)
  dsimp only at hc
  rw [hc] at hconnected ⊢
  unfold serve at hconnected ⊢
  split_ifs at hconnected ⊢
  · exact Connection.settled_fillAt _ _ _
  · contradiction

/-- **A call of `fillTransmitBuffers` ends.**  It returns and has conserved work, unless a call of
the stack fails in it. -/
theorem fillTransmitBuffers_workConserving (e : Surroundings) (cm : ConnectionManager) :
    ∃ s ∈ eval (step e) (start cm),
      s.place = .returned ∧ WorkConserving e cm s ∨ s.place = .reset ∧ e.Fails := by
  rcases reaches_connection e (start cm) rfl with hreaches | ⟨hfails, s, hreaches, hreset⟩
  · exact ⟨_, mem_eval.mpr ⟨hreaches, rfl⟩, .inl ⟨rfl, workConserving_served e cm⟩⟩
  · refine ⟨s, mem_eval.mpr ⟨hreaches, ?_⟩, .inr ⟨hreset, hfails⟩⟩
    unfold step
    rw [hreset]

/-- With one time for each connection, the call leaves what `fillTransmitBuffers` says. -/
theorem eq_fillTransmitBuffers {cm : ConnectionManager} {now : Slot → U64}
    (hnow : ∀ i turn, e.now i turn = now i) (hs : WorkConserving e cm s) :
    (s.manager, s.writes) = cm.fillTransmitBuffers now := by
  have hslot : ∀ i, (s.manager.connections i, s.writes i) =
      if (cm.connections i).isConnected then (cm.connections i).fill (now i)
      else (cm.connections i, []) := by
    intro i
    have hclock : e.now i = fun _ => now i := funext (hnow i)
    rw [hs.alone i, serve, hclock, Connection.fillAt_eq_fill]
  have hconnections : s.manager.connections = (cm.fillTransmitBuffers now).1.connections := by
    funext i
    have hc := congrArg Prod.fst (hslot i)
    rw [apply_ite Prod.fst] at hc
    exact hc
  have hwrites : s.writes = (cm.fillTransmitBuffers now).2 := by
    funext i
    have hw := congrArg Prod.snd (hslot i)
    rw [apply_ite Prod.snd] at hw
    exact hw
  calc
    (s.manager, s.writes) = (⟨s.manager.connections, s.manager.pendingPackets⟩, s.writes) := rfl
    _ = (⟨(cm.fillTransmitBuffers now).1.connections, cm.pendingPackets⟩,
          (cm.fillTransmitBuffers now).2) := by rw [hconnections, hwrites, hs.pendingPackets]
    _ = cm.fillTransmitBuffers now := rfl

end FillCall

end FruityMesh.Transport
