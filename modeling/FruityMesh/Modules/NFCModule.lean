import FruityMesh.Library.Runs
import FruityMesh.Mesh.RetryStorage
import FruityMesh.Modules.TagId

/-!
# Reading a tag

`NFCModule` reads a tag through the PN532, of which it gets every byte in `nfcEventHandler`.  The
bytes go through machines for the acknowledgement and for the response of the PN532, and then the
contents of the tag are grabbed into a dump, frame by frame.  The timer restarts the reading, in
one of two ways: it only sets the outer state, or it sets up all machines again.

Three things are expected of it.  The user is told that a tag has been taken only if its id is
stored; but the result of storing it is ignored (`taken_stored_iff`).  The dump is not overrun; but
when the timer only sets the outer state, the reading starts again in the middle of the dump
(`dump_in_bounds`).  And setting up the machines forgets what was before; but the count of the
bytes in a frame goes on (`restart_forgets_iff`).
-/

namespace FruityMesh.Modules

open Mesh Runs

/-! ## The machines -/

inductive AckState
  | ackStart
  | secondByte
  | thirdByte
  | fourthByte
  | fifthByte
  | sixthByte
  | ackError
  | ackProcessed
  deriving DecidableEq, Repr

inductive ResponseState
  | responseNeedsProcessing
  | preamble
  | start1
  | start2
  | noTagExists
  | tagExists
  | notExpectedResponse
  deriving DecidableEq, Repr

inductive RestOfResponseState
  | startProcessingRestOfResponse
  | lcs
  | toHost
  | tagNumber
  | baudrate
  | data2
  | data3
  | data4
  | data5
  | data6
  | data7
  | data8
  | data9
  | data10
  | data11
  | data12
  | data13
  | postamble
  | restOfResponseProcessed
  | notExpectedRestOfResponse
  deriving DecidableEq, Repr

inductive DataGrabState
  | startGrabbing
  | endGrabbing
  deriving DecidableEq, Repr

inductive NfcState
  | setup
  | needsRetry
  | error
  | tagPresenceUnknown
  | inListAckProcessing
  | processingRestOfResponse
  | secondReadAck
  | thirdReadAck
  | getPaid1
  | getPaid2
  | getPaid3
  | getPaid4
  | fourthReadAck
  | fifthReadAck
  | eatFirstDataCommand
  | eatSecondDataCommand
  | eatThirdDataCommand
  | eatFourthDataCommand
  | idTaken
  deriving DecidableEq, Repr

/-- How far the PN532 has been set up. -/
inductive SetupState
  | down
  | noParam
  | notWritten80
  | rfNotConfig
  | notWritten4010
  | rfMaxNotConfig
  | setupDone
  deriving DecidableEq, Repr

/-- What is sent to the PN532, and the signal for the user. -/
inductive NfcCommand
  | inDataExchange (startAddress dcs : U8)
  | inListPassiveTarget
  | flashWhite (times : ℕ)
  deriving DecidableEq, Repr

/-- The global variables that are read somewhere, and the part of the node that is used. -/
structure NfcMachine where
  currentAckState : AckState
  currentResponseState : ResponseState
  restOfResponseState : RestOfResponseState
  grabState : DataGrabState
  currentNfcState : NfcState
  currentSetupState : SetupState
  firstResponseReceived : Bool
  count : ℕ
  dumpIndex : ℕ
  dataDump1 : List U8
  retryStorage : RetryStorage
  globalTime : U64
  /-- Where bytes have been written to `dataDump1`, the last one first.  Behind the end of the
  dump a byte destroys something else, which is not modelled. -/
  writes : List ℕ

namespace NFCModule

def maxRemainingByteSizeInAFrame : ℕ := 15

def fourFrameDataDumpSize : ℕ := 60

def processAck (state : AckState) (rxByte : U8) : AckState :=
  match state with
  | .ackStart => if rxByte = 0 then .secondByte else .ackError
  | .secondByte => if rxByte = 0 then .thirdByte else .ackError
  | .thirdByte => if rxByte = 255 then .fourthByte else .ackError
  | .fourthByte => if rxByte = 0 then .fifthByte else .ackError
  | .fifthByte => if rxByte = 255 then .sixthByte else .ackError
  | .sixthByte => if rxByte = 0 then .ackProcessed else .ackError
  | .ackError => .ackError
  | .ackProcessed => .ackProcessed

def processResponse (state : ResponseState) (rxByte : U8) : ResponseState :=
  match state with
  | .responseNeedsProcessing => if rxByte = 0 then .preamble else .notExpectedResponse
  | .preamble => if rxByte = 0 then .start1 else .notExpectedResponse
  | .start1 => if rxByte = 255 then .start2 else .notExpectedResponse
  | .start2 =>
      if rxByte = 3 then .noTagExists
      else if rxByte = 15 then .tagExists
      else .notExpectedResponse
  | .noTagExists => .noTagExists
  | .tagExists => .tagExists
  | .notExpectedResponse => .notExpectedResponse

def processRestOfTagExistsResponse (state : RestOfResponseState) (rxByte : U8) :
    RestOfResponseState :=
  match state with
  | .startProcessingRestOfResponse => if rxByte = 241 then .lcs else .notExpectedRestOfResponse
  | .lcs => if rxByte = 213 then .toHost else .notExpectedRestOfResponse
  | .toHost => if rxByte = 75 then .tagNumber else .notExpectedRestOfResponse
  | .tagNumber => if rxByte = 1 then .baudrate else .notExpectedRestOfResponse
  | .baudrate => if rxByte = 1 then .data2 else .notExpectedRestOfResponse
  | .data2 => if rxByte < 255 then .data3 else .notExpectedRestOfResponse
  | .data3 => if rxByte < 255 then .data4 else .notExpectedRestOfResponse
  | .data4 => if rxByte < 255 then .data5 else .notExpectedRestOfResponse
  | .data5 => if rxByte < 255 then .data6 else .notExpectedRestOfResponse
  | .data6 => if rxByte < 255 then .data7 else .notExpectedRestOfResponse
  | .data7 => if rxByte < 255 then .data8 else .notExpectedRestOfResponse
  | .data8 => if rxByte < 255 then .data9 else .notExpectedRestOfResponse
  | .data9 => if rxByte < 255 then .data10 else .notExpectedRestOfResponse
  | .data10 => if rxByte < 255 then .data11 else .notExpectedRestOfResponse
  | .data11 => if rxByte < 255 then .data12 else .notExpectedRestOfResponse
  | .data12 => if rxByte < 255 then .data13 else .notExpectedRestOfResponse
  | .data13 => if rxByte < 255 then .postamble else .notExpectedRestOfResponse
  | .postamble =>
      if rxByte < 255 then .restOfResponseProcessed else .notExpectedRestOfResponse
  | .restOfResponseProcessed => .restOfResponseProcessed
  | .notExpectedRestOfResponse => .notExpectedRestOfResponse

end NFCModule

namespace NfcMachine

open NFCModule

/-- `grab_frame_bytes_into_mass_dump`. -/
def grabFrameBytesIntoMassDump (m : NfcMachine) (rxByte : U8) : NfcMachine :=
  match m.grabState with
  | .startGrabbing =>
      if m.count < maxRemainingByteSizeInAFrame then
        { m with
          dataDump1 := m.dataDump1.set m.dumpIndex rxByte
          writes := m.dumpIndex :: m.writes
          count := m.count + 1
          dumpIndex := m.dumpIndex + 1
          grabState := .startGrabbing }
      else { m with grabState := .endGrabbing, count := 0 }
  | .endGrabbing => m

/-- What all four states do that grab a frame; `done` is what is done at its end. -/
def getPaid (m : NfcMachine) (rxByte : U8) (done : NfcMachine → NfcMachine × List NfcCommand) :
    NfcMachine × List NfcCommand :=
  let m := { m with grabState := .startGrabbing }
  let m := if m.grabState ≠ .endGrabbing then m.grabFrameBytesIntoMassDump rxByte else m
  if m.grabState = .endGrabbing then done m else (m, [])

/-- Ask for the next frame. -/
def readNext (startAddress dcs : U8) (state : NfcState) (m : NfcMachine) :
    NfcMachine × List NfcCommand :=
  ({ m with currentNfcState := state }, [.inDataExchange startAddress dcs])

/-- The end of the last frame.  Whether the id could be stored is not asked. -/
def takeId (m : NfcMachine) : NfcMachine × List NfcCommand :=
  if idExistsInResponse m.dataDump1 then
    ({ m with
      retryStorage := (m.retryStorage.putInRetryStorage m.globalTime (getId m.dataDump1)).1
      currentNfcState := .idTaken }, [.flashWhite 6])
  else ({ m with currentNfcState := .needsRetry }, [])

def goOn (m : NfcMachine) (expected : Prop) [Decidable expected] (state : NfcState) :
    NfcMachine × List NfcCommand :=
  (if expected then { m with currentNfcState := state } else m, [])

def nfcEventHandler (m : NfcMachine) (rxByte : U8) : NfcMachine × List NfcCommand :=
  match m.currentNfcState with
  | .idTaken => (m, [])
  | .needsRetry => (m, [])
  | .error => (m, [])
  | .setup => (if rxByte = 255 then { m with firstResponseReceived := true } else m, [])
  | .tagPresenceUnknown =>
      let ack := if m.currentAckState ≠ .ackProcessed then processAck m.currentAckState rxByte
        else m.currentAckState
      ({ m with
        currentAckState := ack
        currentNfcState :=
          if ack = .ackProcessed then .inListAckProcessing
          else if ack = .ackError then .needsRetry
          else .tagPresenceUnknown }, [])
  | .inListAckProcessing =>
      -- the condition in the source is always true
      let response := processResponse m.currentResponseState rxByte
      ({ m with
        currentResponseState := response
        currentNfcState :=
          if response = .tagExists then .processingRestOfResponse
          else if response = .noTagExists ∨ response = .notExpectedResponse then .needsRetry
          else .inListAckProcessing }, [])
  | .processingRestOfResponse =>
      let rest := if m.restOfResponseState ≠ .restOfResponseProcessed then
          processRestOfTagExistsResponse m.restOfResponseState rxByte
        else m.restOfResponseState
      let m := { m with restOfResponseState := rest }
      if rest = .restOfResponseProcessed then m.readNext 0x00 0xBB .secondReadAck
      else m.goOn (rest = .notExpectedRestOfResponse) .needsRetry
  | .secondReadAck => m.goOn (rxByte = 65) .eatFirstDataCommand
  | .eatFirstDataCommand => m.goOn (rxByte = 0) .getPaid1
  | .getPaid1 => m.getPaid rxByte (readNext 0x04 0xB7 .thirdReadAck)
  | .thirdReadAck => m.goOn (rxByte = 65) .eatSecondDataCommand
  | .eatSecondDataCommand => m.goOn (rxByte = 0) .getPaid2
  | .getPaid2 => m.getPaid rxByte (readNext 0x08 0xB3 .fourthReadAck)
  | .fourthReadAck => m.goOn (rxByte = 65) .eatThirdDataCommand
  | .eatThirdDataCommand => m.goOn (rxByte = 0) .getPaid3
  | .getPaid3 => m.getPaid rxByte (readNext 0x0C 0xAF .fifthReadAck)
  | .fifthReadAck => m.goOn (rxByte = 65) .getPaid4
  | .eatFourthDataCommand => m.goOn (rxByte = 0) .getPaid4
  | .getPaid4 => m.getPaid rxByte takeId

/-- `setup_state_machine`. -/
def setupStateMachine (m : NfcMachine) : NfcMachine :=
  { m with
    currentResponseState := .responseNeedsProcessing
    restOfResponseState := .startProcessingRestOfResponse
    currentNfcState := .tagPresenceUnknown
    currentAckState := .ackStart
    dumpIndex := 0
    dataDump1 := List.replicate fourFrameDataDumpSize 0 }

/-- `setup`, of the PN532. -/
def setup : SetupState → SetupState
  | .down => .noParam
  | .noParam => .notWritten80
  | .notWritten80 => .rfNotConfig
  | .rfNotConfig => .notWritten4010
  | .notWritten4010 => .rfMaxNotConfig
  | .rfMaxNotConfig => .setupDone
  | .setupDone => .setupDone

/-- The set-up goes on in every tick whose time is a multiple of ten. -/
def setupTick (m : NfcMachine) (appTimer : U32) : NfcMachine :=
  if appTimer % 10 = 0 ∧ m.currentSetupState ≠ .setupDone then
    { m with currentSetupState := setup m.currentSetupState }
  else m

/-- In this tick the timer sets the outer state. -/
def Searches (m : NfcMachine) (appTimer : U32) : Prop :=
  appTimer % 10 = 0 ∧ (m.setupTick appTimer).currentSetupState = .setupDone ∧
    m.firstResponseReceived = true

/-- In this tick the timer sets up the machines. -/
def SetsUp (m : NfcMachine) (appTimer : U32) : Prop :=
  (m.setupTick appTimer).currentSetupState = .setupDone ∧
    (appTimer / 1000 % 5 ≠ 0 ∧ appTimer % 1000 = 0)

instance (m : NfcMachine) (appTimer : U32) : Decidable (m.Searches appTimer) :=
  inferInstanceAs (Decidable (_ ∧ _))

instance (m : NfcMachine) (appTimer : U32) : Decidable (m.SetsUp appTimer) :=
  inferInstanceAs (Decidable (_ ∧ _))

/-- `NFCModule::TimerEventHandler`. -/
def timerEventHandler (m : NfcMachine) (appTimer : U32) : NfcMachine × List NfcCommand :=
  let searching := if m.Searches appTimer then
      { m.setupTick appTimer with currentNfcState := .tagPresenceUnknown }
    else m.setupTick appTimer
  if m.SetsUp appTimer then (searching.setupStateMachine, [.inListPassiveTarget])
  else (searching, [])

/-- The variables as they are initialized. -/
def initial (retryStorage : RetryStorage) : NfcMachine where
  currentAckState := .ackStart
  currentResponseState := .responseNeedsProcessing
  restOfResponseState := .startProcessingRestOfResponse
  grabState := .startGrabbing
  currentNfcState := .setup
  currentSetupState := .down
  firstResponseReceived := false
  count := 0
  dumpIndex := 0
  dataDump1 := List.replicate fourFrameDataDumpSize 0
  retryStorage := retryStorage
  globalTime := 0
  writes := []

/-! ## Runs -/

inductive NfcEvent
  | receive (rxByte : U8)
  | timer (appTimer : U32)
  /-- The node goes on: votes are stored and removed, and time passes. -/
  | node (retryStorage : RetryStorage) (globalTime : U64)

def apply (m : NfcMachine) : NfcEvent → NfcMachine
  | .receive rxByte => (m.nfcEventHandler rxByte).1
  | .timer appTimer => (m.timerEventHandler appTimer).1
  | .node retryStorage globalTime =>
      { m with retryStorage := retryStorage, globalTime := globalTime }

def AnyEvent : NfcMachine → NfcEvent → Prop := fun _ _ => True

instance (m : NfcMachine) (event : NfcEvent) : Decidable (AnyEvent m event) := isTrue trivial

/-! ## What a byte does -/

variable {m m' : NfcMachine} {rxByte : U8} {retryStorage : RetryStorage} {events : List NfcEvent}

/-- The frames that are still to be read to the end. -/
def framesLeft : NfcState → ℕ
  | .tagPresenceUnknown => 4
  | .inListAckProcessing => 4
  | .processingRestOfResponse => 4
  | .secondReadAck => 4
  | .eatFirstDataCommand => 4
  | .getPaid1 => 4
  | .thirdReadAck => 3
  | .eatSecondDataCommand => 3
  | .getPaid2 => 3
  | .fourthReadAck => 2
  | .eatThirdDataCommand => 2
  | .getPaid3 => 2
  | .fifthReadAck => 1
  | .eatFourthDataCommand => 1
  | .getPaid4 => 1
  | .setup => 0
  | .needsRetry => 0
  | .error => 0
  | .idTaken => 0

/-- The byte is not written, and the reading goes on or is given up. -/
structure Keeps (m m' : NfcMachine) : Prop where
  count : m'.count = m.count
  dumpIndex : m'.dumpIndex = m.dumpIndex
  writes : m'.writes = m.writes
  frames : framesLeft m'.currentNfcState = framesLeft m.currentNfcState ∨
    framesLeft m'.currentNfcState = 0

/-- The byte is written into a frame. -/
structure Writes (m m' : NfcMachine) : Prop where
  room : m.count < maxRemainingByteSizeInAFrame
  reading : 0 < framesLeft m.currentNfcState
  count : m'.count = m.count + 1
  dumpIndex : m'.dumpIndex = m.dumpIndex + 1
  writes : m'.writes = m.dumpIndex :: m.writes
  state : m'.currentNfcState = m.currentNfcState

/-- The byte ends a frame. -/
structure Ends (m m' : NfcMachine) : Prop where
  full : maxRemainingByteSizeInAFrame ≤ m.count
  count : m'.count = 0
  dumpIndex : m'.dumpIndex = m.dumpIndex
  writes : m'.writes = m.writes
  frames : framesLeft m'.currentNfcState < framesLeft m.currentNfcState

theorem Keeps.rfl : Keeps m m := ⟨Eq.refl _, Eq.refl _, Eq.refl _, Or.inl (Eq.refl _)⟩

theorem keeps_goOn {expected : Prop} [Decidable expected] {state : NfcState}
    (hframes : framesLeft state = framesLeft m.currentNfcState ∨ framesLeft state = 0) :
    Keeps m (m.goOn expected state).1 := by
  unfold goOn
  dsimp only
  split_ifs
  · exact ⟨rfl, rfl, rfl, hframes⟩
  · exact Keeps.rfl

theorem getPaid_of_room (hroom : m.count < maxRemainingByteSizeInAFrame)
    (done : NfcMachine → NfcMachine × List NfcCommand) :
    m.getPaid rxByte done =
      ({ m with
        grabState := .startGrabbing
        dataDump1 := m.dataDump1.set m.dumpIndex rxByte
        writes := m.dumpIndex :: m.writes
        count := m.count + 1
        dumpIndex := m.dumpIndex + 1 }, []) := by
  simp [getPaid, grabFrameBytesIntoMassDump, hroom]

theorem getPaid_of_full (hfull : maxRemainingByteSizeInAFrame ≤ m.count)
    (done : NfcMachine → NfcMachine × List NfcCommand) :
    m.getPaid rxByte done = done { m with grabState := .endGrabbing, count := 0 } := by
  simp [getPaid, grabFrameBytesIntoMassDump, not_lt.mpr hfull]

theorem getPaid_cases {done : NfcMachine → NfcMachine × List NfcCommand}
    (hreading : 0 < framesLeft m.currentNfcState)
    (hdone : ∀ m' : NfcMachine, m'.currentNfcState = m.currentNfcState →
      (done m').1.count = m'.count ∧ (done m').1.dumpIndex = m'.dumpIndex ∧
        (done m').1.writes = m'.writes ∧
          framesLeft (done m').1.currentNfcState < framesLeft m.currentNfcState) :
    Writes m (m.getPaid rxByte done).1 ∨ Ends m (m.getPaid rxByte done).1 := by
  rcases Nat.lt_or_ge m.count maxRemainingByteSizeInAFrame with hroom | hfull
  · rw [getPaid_of_room hroom]
    exact Or.inl ⟨hroom, hreading, rfl, rfl, rfl, rfl⟩
  · rw [getPaid_of_full hfull]
    obtain ⟨hcount, hindex, hwrites, hframes⟩ :=
      hdone { m with grabState := .endGrabbing, count := 0 } rfl
    exact Or.inr ⟨hfull, hcount, hindex, hwrites, hframes⟩

theorem takeId_spec : m.takeId.1.count = m.count ∧ m.takeId.1.dumpIndex = m.dumpIndex ∧
    m.takeId.1.writes = m.writes ∧ framesLeft m.takeId.1.currentNfcState = 0 := by
  unfold takeId
  split_ifs <;> exact ⟨rfl, rfl, rfl, rfl⟩

/-- All that a byte can do to the dump. -/
theorem receive_cases (m : NfcMachine) (rxByte : U8) :
    Keeps m (m.nfcEventHandler rxByte).1 ∨ Writes m (m.nfcEventHandler rxByte).1 ∨
      Ends m (m.nfcEventHandler rxByte).1 := by
  unfold nfcEventHandler
  cases hstate : m.currentNfcState <;> dsimp only
  case setup =>
    left
    split_ifs
    · exact ⟨rfl, rfl, rfl, Or.inr rfl⟩
    · exact Keeps.rfl
  case needsRetry | error | idTaken => exact Or.inl Keeps.rfl
  case tagPresenceUnknown =>
    refine Or.inl ⟨rfl, rfl, rfl, ?_⟩
    rw [hstate]
    dsimp only
    split_ifs <;> first | exact Or.inl rfl | exact Or.inr rfl
  case inListAckProcessing =>
    refine Or.inl ⟨rfl, rfl, rfl, ?_⟩
    rw [hstate]
    dsimp only
    split_ifs <;> first | exact Or.inl rfl | exact Or.inr rfl
  case processingRestOfResponse =>
    left
    generalize (if m.restOfResponseState ≠ .restOfResponseProcessed then
      processRestOfTagExistsResponse m.restOfResponseState rxByte
      else m.restOfResponseState) = rest
    unfold goOn
    split_ifs
    · exact ⟨rfl, rfl, rfl, Or.inl (by rw [hstate]; rfl)⟩
    · exact ⟨rfl, rfl, rfl, Or.inr rfl⟩
    · exact ⟨rfl, rfl, rfl, Or.inl (by rw [hstate])⟩
  case secondReadAck | eatFirstDataCommand | thirdReadAck | eatSecondDataCommand | fourthReadAck |
      eatThirdDataCommand | fifthReadAck | eatFourthDataCommand =>
    exact Or.inl (keeps_goOn (by rw [hstate]; exact Or.inl rfl))
  case getPaid1 | getPaid2 | getPaid3 =>
    refine Or.inr (getPaid_cases (by rw [hstate]; decide) fun m' hm' => ⟨rfl, rfl, rfl, ?_⟩)
    rw [hstate]
    exact Nat.lt_succ_self _
  -- the last of the frames is searched for an id, which ends the reading
  case getPaid4 =>
    refine Or.inr (getPaid_cases (by rw [hstate]; decide) fun m' hm' => ?_)
    obtain ⟨hcount, hindex, hwrites, hframes⟩ := @takeId_spec m'
    exact ⟨hcount, hindex, hwrites, by rw [hstate, hframes]; decide⟩

/-- What the timer does: nothing to the reading, or it sets the outer state, or it sets up all. -/
theorem timer_cases (m : NfcMachine) (appTimer : U32) :
    (¬ m.SetsUp appTimer ∧ ¬ m.Searches appTimer ∧
        (m.timerEventHandler appTimer).1 = m.setupTick appTimer) ∨
      (¬ m.SetsUp appTimer ∧ m.Searches appTimer ∧
        (m.timerEventHandler appTimer).1 =
          { m.setupTick appTimer with currentNfcState := .tagPresenceUnknown }) ∨
      (m.SetsUp appTimer ∧
        (m.timerEventHandler appTimer).1 = (m.setupTick appTimer).setupStateMachine) := by
  unfold timerEventHandler
  dsimp only
  by_cases hsetsUp : m.SetsUp appTimer
  · rw [if_pos hsetsUp]
    refine Or.inr (Or.inr ⟨hsetsUp, ?_⟩)
    split_ifs <;> rfl
  · rw [if_neg hsetsUp]
    by_cases hsearches : m.Searches appTimer
    · rw [if_pos hsearches]
      exact Or.inr (Or.inl ⟨hsetsUp, hsearches, rfl⟩)
    · rw [if_neg hsearches]
      exact Or.inl ⟨hsetsUp, hsearches, rfl⟩

theorem setupTick_spec (m : NfcMachine) (appTimer : U32) :
    (m.setupTick appTimer).count = m.count ∧ (m.setupTick appTimer).dumpIndex = m.dumpIndex ∧
      (m.setupTick appTimer).writes = m.writes ∧
        (m.setupTick appTimer).currentNfcState = m.currentNfcState := by
  unfold setupTick
  split_ifs <;> exact ⟨rfl, rfl, rfl, rfl⟩

/-! ## The end of the dump -/

/-- When the timer only sets the outer state, no more bytes are in the dump than in a frame that
has been started. -/
def OnTime : NfcMachine → NfcEvent → Prop
  | m, .timer appTimer => m.Searches appTimer → ¬ m.SetsUp appTimer → m.dumpIndex ≤ m.count
  | _, _ => True

instance : (m : NfcMachine) → (event : NfcEvent) → Decidable (OnTime m event)
  | m, .timer appTimer => inferInstanceAs
      (Decidable (m.Searches appTimer → ¬ m.SetsUp appTimer → m.dumpIndex ≤ m.count))
  | _, .receive _ => isTrue trivial
  | _, .node _ _ => isTrue trivial

/-- The dump has room for all that is still to be read. -/
structure Fits (m : NfcMachine) : Prop where
  count : m.count ≤ maxRemainingByteSizeInAFrame
  room : m.dumpIndex + (maxRemainingByteSizeInAFrame * framesLeft m.currentNfcState - m.count) ≤
    fourFrameDataDumpSize
  writes : ∀ k ∈ m.writes, k < fourFrameDataDumpSize

theorem Fits.congr (h : Fits m) (hcount : m'.count = m.count) (hindex : m'.dumpIndex = m.dumpIndex)
    (hwrites : m'.writes = m.writes)
    (hframes : framesLeft m'.currentNfcState = framesLeft m.currentNfcState ∨
      framesLeft m'.currentNfcState = 0) : Fits m' where
  count := hcount ▸ h.count
  room := by
    have hroom := h.room
    rw [hcount, hindex]
    rcases hframes with hsame | hnone
    · rw [hsame]
      exact hroom
    · rw [hnone]
      omega
  writes := hwrites ▸ h.writes

theorem Fits.receive (h : Fits m) (rxByte : U8) : Fits (m.nfcEventHandler rxByte).1 := by
  have hroom := h.room
  unfold maxRemainingByteSizeInAFrame fourFrameDataDumpSize at hroom
  rcases receive_cases m rxByte with hkeeps | hwrites | hends
  · exact h.congr hkeeps.count hkeeps.dumpIndex hkeeps.writes hkeeps.frames
  · have hless := hwrites.room
    have hreading := hwrites.reading
    unfold maxRemainingByteSizeInAFrame at hless
    constructor
    · rw [hwrites.count]
      exact hless
    · rw [hwrites.dumpIndex, hwrites.count, hwrites.state]
      unfold maxRemainingByteSizeInAFrame fourFrameDataDumpSize
      omega
    · rw [hwrites.writes]
      intro k hk
      rcases List.mem_cons.mp hk with rfl | hk
      · unfold fourFrameDataDumpSize
        omega
      · exact h.writes k hk
  · have hfull := hends.full
    have hcount := h.count
    have hframes := hends.frames
    unfold maxRemainingByteSizeInAFrame at hfull hcount
    constructor
    · rw [hends.count]
      exact Nat.zero_le _
    · rw [hends.dumpIndex, hends.count]
      unfold maxRemainingByteSizeInAFrame fourFrameDataDumpSize
      omega
    · rw [hends.writes]
      exact h.writes

theorem Fits.timer (h : Fits m) {appTimer : U32} (hallowed : OnTime m (.timer appTimer)) :
    Fits (m.timerEventHandler appTimer).1 := by
  obtain ⟨hcount, hindex, hwrites, hstate⟩ := setupTick_spec m appTimer
  rcases timer_cases m appTimer with ⟨_, _, hnone⟩ | ⟨hnot, hsearches, houter⟩ | ⟨_, hall⟩
  · rw [hnone]
    exact h.congr hcount hindex hwrites (Or.inl (by rw [hstate]))
  · -- four frames are to be read again, of which one may have been started
    have hearly := hallowed hsearches hnot
    rw [houter]
    refine ⟨?_, ?_, ?_⟩
    · exact hcount ▸ h.count
    · show (m.setupTick appTimer).dumpIndex + (15 * 4 - (m.setupTick appTimer).count) ≤ 60
      have := h.count
      unfold maxRemainingByteSizeInAFrame at this
      omega
    · exact hwrites ▸ h.writes
  · rw [hall]
    refine ⟨?_, ?_, ?_⟩
    · exact hcount ▸ h.count
    · show 0 + (15 * 4 - (m.setupTick appTimer).count) ≤ 60
      omega
    · exact hwrites ▸ h.writes

theorem Fits.step (h : Fits m) {event : NfcEvent} (hallowed : OnTime m event) :
    Fits (m.apply event) := by
  cases event with
  | receive rxByte => exact h.receive rxByte
  | timer appTimer => exact h.timer hallowed
  | node retryStorage globalTime => exact h.congr rfl rfl rfl (Or.inl rfl)

theorem fits_initial (retryStorage : RetryStorage) : Fits (initial retryStorage) where
  count := Nat.zero_le _
  room := Nat.zero_le _
  writes := fun _ hk => absurd hk List.not_mem_nil

/-- Nothing has been written outside of the dump. -/
def InBounds (m : NfcMachine) : Prop := ∀ k ∈ m.writes, k < fourFrameDataDumpSize

/-- **The dump is not overrun** if the timer never sets only the outer state when there are more
bytes in the dump than in the frame that is being read. -/
theorem dump_in_bounds (hrun : Run apply OnTime (initial retryStorage) events m) : InBounds m :=
  (hrun.preserves (fun _ _ h hallowed => h.step hallowed) (fits_initial retryStorage)).writes

def acknowledgement : List U8 := [0, 0, 255, 0, 255, 0]

/-- The start of the response, with its length, and the rest of it. -/
def tagResponse : List U8 := [0, 0, 255, 15]
def restOfTagResponse : List U8 := [241, 213, 75, 1, 1] ++ List.replicate 13 0

/-- What the PN532 sends before the first frame; at the end is the start of its answer to the
first command. -/
def introduction : List U8 := acknowledgement ++ (tagResponse ++ (restOfTagResponse ++ [65, 0]))

/-- The PN532 is set up, and it is asked for a tag. -/
def searching : List NfcEvent :=
  [.timer 200, .timer 400, .timer 600, .timer 800, .timer 1000, .timer 1200, .receive 255,
    .timer 1400]

/-- A frame, with the byte that ends it. -/
def oneFrame : List NfcEvent := List.replicate 16 (.receive 1)

/-- The timer sets the outer state after the first frame, and then all four frames are read. -/
def lateRestart : List NfcEvent :=
  searching ++ introduction.map .receive ++ oneFrame ++
    [.timer 1600, .receive 0, .receive 0, .receive 0] ++
    [.receive 65, .receive 0] ++ oneFrame ++ [.receive 65, .receive 0] ++ oneFrame ++
    [.receive 65, .receive 0] ++ oneFrame ++ [.receive 65, .receive 1]

theorem dump_overrun :
    ¬ ∀ (retryStorage : RetryStorage) (events : List NfcEvent) (m : NfcMachine),
        Run apply AnyEvent (initial retryStorage) events m → InBounds m := by
  intro hall
  have hrun : Run apply AnyEvent (initial RetryStorage.empty) lateRestart
      (lateRestart.foldl apply (initial RetryStorage.empty)) := Run.of_replays (by decide +kernel)
  exact absurd (hall _ _ _ hrun 60 (by decide +kernel)) (by decide)

/-- Two frames without the restart between them. -/
theorem dump_in_bounds_two_frames :
    InBounds ((searching ++ introduction.map NfcEvent.receive ++ oneFrame ++
      [NfcEvent.receive 65, .receive 0] ++ oneFrame).foldl apply (initial RetryStorage.empty)) :=
  dump_in_bounds (Run.of_replays (by decide +kernel))

/-! ## A tag that is taken -/

/-- The byte takes the machine to ID_TAKEN, and the user is told. -/
def Takes (m : NfcMachine) (rxByte : U8) : Prop :=
  m.currentNfcState ≠ .idTaken ∧ (m.nfcEventHandler rxByte).1.currentNfcState = .idTaken

/-- The id in the dump is stored. -/
def IdStored (m : NfcMachine) : Prop :=
  getId m.dataDump1 ≠ 0 ∧ getId m.dataDump1 ∈ m.retryStorage.row

/-- The id is stored already, or there is room for it. -/
def CanStore (m : NfcMachine) : Prop :=
  getId m.dataDump1 ≠ 0 ∧
    (getId m.dataDump1 ∈ m.retryStorage.row ∨ m.retryStorage.retryStorageIsFull = false)

theorem goOn_ne_idTaken {expected : Prop} [Decidable expected] {state : NfcState}
    (hm : m.currentNfcState ≠ .idTaken) (hstate : state ≠ .idTaken) :
    (m.goOn expected state).1.currentNfcState ≠ .idTaken := by
  unfold goOn
  dsimp only
  split_ifs
  · exact hstate
  · exact hm

theorem getPaid_ne_idTaken {startAddress dcs : U8} {state : NfcState}
    (hm : m.currentNfcState ≠ .idTaken) (hstate : state ≠ .idTaken) :
    (m.getPaid rxByte (readNext startAddress dcs state)).1.currentNfcState ≠ .idTaken := by
  rcases Nat.lt_or_ge m.count maxRemainingByteSizeInAFrame with hroom | hfull
  · rw [getPaid_of_room hroom]
    exact hm
  · rw [getPaid_of_full hfull]
    exact hstate

/-- A tag is taken at the end of the fourth frame, and only there. -/
theorem Takes.spec (h : Takes m rxByte) :
    idExistsInResponse m.dataDump1 = true ∧
      (m.nfcEventHandler rxByte).1.dataDump1 = m.dataDump1 ∧
      (m.nfcEventHandler rxByte).1.retryStorage =
        (m.retryStorage.putInRetryStorage m.globalTime (getId m.dataDump1)).1 := by
  obtain ⟨hbefore, hafter⟩ := h
  unfold nfcEventHandler at hafter ⊢
  cases hstate : m.currentNfcState <;> rw [hstate] at hafter hbefore <;> dsimp only at hafter ⊢
  case idTaken => exact absurd rfl hbefore
  -- the one state that can go on to `idTaken`
  case getPaid4 =>
    rcases Nat.lt_or_ge m.count maxRemainingByteSizeInAFrame with hroom | hfull
    · rw [getPaid_of_room hroom] at hafter
      exact absurd (hstate.symm.trans hafter) (by decide)
    · rw [getPaid_of_full hfull] at hafter ⊢
      unfold takeId at hafter ⊢
      by_cases hid : idExistsInResponse m.dataDump1 = true
      · dsimp only
        rw [if_pos hid]
        exact ⟨hid, rfl, rfl⟩
      · dsimp only at hafter
        rw [if_neg hid] at hafter
        exact NfcState.noConfusion hafter
  case setup =>
    split_ifs at hafter
    exact absurd (hstate.symm.trans hafter) (by decide)
  case needsRetry | error => exact absurd (hstate.symm.trans hafter) (by decide)
  case tagPresenceUnknown | inListAckProcessing => split_ifs at hafter
  case processingRestOfResponse =>
    generalize (if m.restOfResponseState ≠ .restOfResponseProcessed then
      processRestOfTagExistsResponse m.restOfResponseState rxByte
      else m.restOfResponseState) = rest at hafter
    split_ifs at hafter
    · exact NfcState.noConfusion hafter
    · exact absurd hafter (goOn_ne_idTaken (fun heq => NfcState.noConfusion heq) (by decide))
  case getPaid1 | getPaid2 | getPaid3 =>
    exact absurd hafter (getPaid_ne_idTaken (by rw [hstate]; decide) (by decide))
  all_goals exact absurd hafter (goOn_ne_idTaken (by rw [hstate]; decide) (by decide))

/-- **A tag that is reported as taken is stored** if and only if its id is not zero, and it is
stored already or there is room for it. -/
theorem taken_stored_iff (h : Takes m rxByte) :
    IdStored (m.nfcEventHandler rxByte).1 ↔ CanStore m := by
  obtain ⟨_, hdump, hstorage⟩ := h.spec
  unfold IdStored CanStore
  rw [hdump, hstorage]
  refine and_congr_right fun hne => ?_
  rcases m.retryStorage.put_cases m.globalTime (getId m.dataDump1) with
    ⟨i, hfind, hput⟩ | ⟨hfind, hfull, hput⟩ | ⟨hfind, hroom, hput⟩
  · have hmem : getId m.dataDump1 ∈ m.retryStorage.row := by
      rw [← not_not (a := _ ∈ _), ← RetryStorage.find_eq_none, hfind]
      exact Option.some_ne_none i
    exact iff_of_true (RetryStorage.mem_row_of_put hne hmem) (Or.inl hmem)
  · rw [hput, hfull]
    simp
  · refine iff_of_true (RetryStorage.mem_row_put ?_) (Or.inr hroom)
    rw [hput]

/-- Three frames and fifteen bytes of the fourth one, with these at their start. -/
def fourFrames (text : List U8) : List NfcEvent :=
  searching ++ introduction.map .receive ++ oneFrame ++ [.receive 65, .receive 0] ++ oneFrame ++
    [.receive 65, .receive 0] ++ oneFrame ++ [.receive 65] ++
    (text ++ List.replicate (15 - text.length) 254).map .receive

def fourFramesRead (text : List U8) : NfcMachine :=
  (fourFrames text).foldl apply (initial RetryStorage.empty)

/-- There is no number behind "id=". -/
theorem taken_not_stored :
    ¬ ∀ (retryStorage : RetryStorage) (events : List NfcEvent) (m : NfcMachine) (rxByte : U8),
        Run apply AnyEvent (initial retryStorage) events m → Takes m rxByte →
          IdStored (m.nfcEventHandler rxByte).1 := by
  intro hall
  have hrun : Run apply AnyEvent (initial RetryStorage.empty) (fourFrames idText)
      (fourFramesRead idText) := Run.of_replays (by decide +kernel)
  obtain ⟨hid, _⟩ := hall _ _ _ 0 hrun ⟨by decide +kernel, by decide +kernel⟩
  exact hid (by decide +kernel)

theorem taken_stored_iff_35 :
    IdStored ((fourFramesRead (idText ++ [51, 53])).nfcEventHandler 0).1 :=
  (taken_stored_iff ⟨by decide +kernel, by decide +kernel⟩).mpr
    ⟨by decide +kernel, Or.inr (by decide +kernel)⟩

/-! ## A new start -/

/-- The states that the machine goes through, and what it sends in each step. -/
def trace : NfcMachine → List U8 → List (NfcState × List NfcCommand)
  | _, [] => []
  | m, rxByte :: rest =>
      ((m.nfcEventHandler rxByte).1.currentNfcState, (m.nfcEventHandler rxByte).2) ::
        trace (m.nfcEventHandler rxByte).1 rest

def receiveAll (m : NfcMachine) (bytes : List U8) : NfcMachine :=
  bytes.foldl (fun m rxByte => (m.nfcEventHandler rxByte).1) m

/-- Whatever both machines receive, they do the same, and they have the same dump at the end. -/
def SameSessions (m m' : NfcMachine) : Prop :=
  ∀ bytes, trace m bytes = trace m' bytes ∧
    (receiveAll m bytes).dataDump1 = (receiveAll m' bytes).dataDump1

/-- The variables on which a session depends are the same. -/
structure Alike (m m' : NfcMachine) : Prop where
  ack : m.currentAckState = m'.currentAckState
  response : m.currentResponseState = m'.currentResponseState
  rest : m.restOfResponseState = m'.restOfResponseState
  state : m.currentNfcState = m'.currentNfcState
  count : m.count = m'.count
  dumpIndex : m.dumpIndex = m'.dumpIndex
  dump : m.dataDump1 = m'.dataDump1

/-- Two steps lead to machines that are alike, and send the same. -/
def AlikeOut (out out' : NfcMachine × List NfcCommand) : Prop :=
  Alike out.1 out'.1 ∧ out.2 = out'.2

section

variable (h : Alike m m')
include h

theorem Alike.withState {state state' : NfcState} (hstate : state = state') :
    Alike { m with currentNfcState := state } { m' with currentNfcState := state' } :=
  ⟨h.ack, h.response, h.rest, hstate, h.count, h.dumpIndex, h.dump⟩

theorem Alike.goOn (expected : Prop) [Decidable expected] (state : NfcState) :
    AlikeOut (m.goOn expected state) (m'.goOn expected state) := by
  unfold NfcMachine.goOn
  split_ifs
  · exact ⟨h.withState rfl, rfl⟩
  · exact ⟨h, rfl⟩

theorem Alike.readNext (startAddress dcs : U8) (state : NfcState) :
    AlikeOut (m.readNext startAddress dcs state) (m'.readNext startAddress dcs state) :=
  ⟨h.withState rfl, rfl⟩

/-- What is stored may be different. -/
theorem Alike.takeId : AlikeOut m.takeId m'.takeId := by
  have hid : idExistsInResponse m.dataDump1 = idExistsInResponse m'.dataDump1 := by rw [h.dump]
  unfold NfcMachine.takeId
  rw [← hid]
  split_ifs
  · exact ⟨⟨h.ack, h.response, h.rest, rfl, h.count, h.dumpIndex, h.dump⟩, rfl⟩
  · exact ⟨h.withState rfl, rfl⟩

theorem Alike.getPaid {done : NfcMachine → NfcMachine × List NfcCommand}
    (hdone : ∀ m m', Alike m m' → AlikeOut (done m) (done m')) :
    AlikeOut (m.getPaid rxByte done) (m'.getPaid rxByte done) := by
  rcases Nat.lt_or_ge m.count maxRemainingByteSizeInAFrame with hroom | hfull
  · rw [getPaid_of_room hroom, getPaid_of_room (h.count ▸ hroom)]
    refine ⟨⟨h.ack, h.response, h.rest, h.state, ?_, ?_, ?_⟩, rfl⟩
    · exact congrArg (· + 1) h.count
    · exact congrArg (· + 1) h.dumpIndex
    · show m.dataDump1.set m.dumpIndex rxByte = m'.dataDump1.set m'.dumpIndex rxByte
      rw [h.dump, h.dumpIndex]
  · rw [getPaid_of_full hfull, getPaid_of_full (h.count ▸ hfull)]
    exact hdone _ _ ⟨h.ack, h.response, h.rest, h.state, rfl, h.dumpIndex, h.dump⟩

theorem Alike.receive (rxByte : U8) :
    AlikeOut (m.nfcEventHandler rxByte) (m'.nfcEventHandler rxByte) := by
  unfold nfcEventHandler
  rw [← h.state]
  cases hstate : m.currentNfcState <;> dsimp only
  case needsRetry | error | idTaken => exact ⟨h, rfl⟩
  case setup =>
    split_ifs
    · exact ⟨⟨h.ack, h.response, h.rest, rfl, h.count, h.dumpIndex, h.dump⟩, rfl⟩
    · exact ⟨h, rfl⟩
  case tagPresenceUnknown =>
    rw [← h.ack]
    exact ⟨⟨rfl, h.response, h.rest, rfl, h.count, h.dumpIndex, h.dump⟩, rfl⟩
  case inListAckProcessing =>
    rw [← h.response]
    exact ⟨⟨h.ack, rfl, h.rest, rfl, h.count, h.dumpIndex, h.dump⟩, rfl⟩
  case processingRestOfResponse =>
    rw [← h.rest]
    generalize (if m.restOfResponseState ≠ .restOfResponseProcessed then
      processRestOfTagExistsResponse m.restOfResponseState rxByte
      else m.restOfResponseState) = rest
    have halike : Alike
        { m with restOfResponseState := rest, currentNfcState := .processingRestOfResponse }
        { m' with restOfResponseState := rest, currentNfcState := .processingRestOfResponse } :=
      ⟨h.ack, h.response, rfl, rfl, h.count, h.dumpIndex, h.dump⟩
    split_ifs
    · exact halike.readNext _ _ _
    · exact halike.goOn (rest = .notExpectedRestOfResponse) _
  case getPaid1 | getPaid2 | getPaid3 => exact h.getPaid fun _ _ h' => h'.readNext _ _ _
  case getPaid4 => exact h.getPaid fun _ _ h' => h'.takeId
  case secondReadAck | thirdReadAck | fourthReadAck | fifthReadAck => exact h.goOn (rxByte = 65) _
  case eatFirstDataCommand | eatSecondDataCommand | eatThirdDataCommand | eatFourthDataCommand =>
    exact h.goOn (rxByte = 0) _

theorem Alike.sameSessions : SameSessions m m' := by
  intro bytes
  induction bytes generalizing m m' with
  | nil => exact ⟨rfl, h.dump⟩
  | cons rxByte rest ih =>
      obtain ⟨halike, hsent⟩ := h.receive rxByte
      obtain ⟨htrace, hdump⟩ := ih halike
      refine ⟨?_, hdump⟩
      rw [trace, trace, halike.state, hsent, htrace]

end

/-! ### Sessions that differ -/

theorem receiveAll_append (m : NfcMachine) (first second : List U8) :
    receiveAll m (first ++ second) = receiveAll (receiveAll m first) second :=
  List.foldl_append

/-- The last state of a session is in its trace. -/
theorem state_eq_of_trace {bytes : List U8} (hstate : m.currentNfcState = m'.currentNfcState)
    (h : trace m bytes = trace m' bytes) :
    (receiveAll m bytes).currentNfcState = (receiveAll m' bytes).currentNfcState := by
  induction bytes generalizing m m' with
  | nil => exact hstate
  | cons rxByte rest ih =>
      rw [trace, trace, List.cons.injEq, Prod.mk.injEq] at h
      exact ih h.1.1 h.2

/-! The introduction, machine by machine. -/

theorem receiveAll_ack (hstate : m.currentNfcState = .tagPresenceUnknown)
    (hack : m.currentAckState = .ackStart) :
    receiveAll m acknowledgement =
      { m with currentAckState := .ackProcessed, currentNfcState := .inListAckProcessing } := by
  simp [acknowledgement, receiveAll, nfcEventHandler, processAck, hstate, hack]

theorem receiveAll_response (hstate : m.currentNfcState = .inListAckProcessing)
    (hresponse : m.currentResponseState = .responseNeedsProcessing) :
    receiveAll m tagResponse =
      { m with
        currentResponseState := .tagExists
        currentNfcState := .processingRestOfResponse } := by
  simp [tagResponse, receiveAll, nfcEventHandler, processResponse, hstate, hresponse]

theorem receiveAll_rest (hstate : m.currentNfcState = .processingRestOfResponse)
    (hrest : m.restOfResponseState = .startProcessingRestOfResponse) :
    receiveAll m restOfTagResponse =
      { m with
        restOfResponseState := .restOfResponseProcessed
        currentNfcState := .secondReadAck } := by
  simp [restOfTagResponse, receiveAll, nfcEventHandler, processRestOfTagExistsResponse, goOn,
    readNext, hstate, hrest]

/-- After the machines have been set up, the introduction leads to the first frame.  How many
bytes of it are missing depends on the count from before. -/
theorem receiveAll_introduction (m : NfcMachine) :
    receiveAll m.setupStateMachine introduction =
      { m.setupStateMachine with
        currentAckState := .ackProcessed
        currentResponseState := .tagExists
        restOfResponseState := .restOfResponseProcessed
        currentNfcState := .getPaid1 } := by
  unfold introduction
  rw [receiveAll_append, receiveAll_append, receiveAll_append, receiveAll_ack rfl rfl,
    receiveAll_response rfl rfl, receiveAll_rest rfl rfl]
  simp [receiveAll, nfcEventHandler, goOn]

theorem receiveAll_getPaid1 (hstate : m.currentNfcState = .getPaid1) (n : ℕ)
    (hroom : m.count + n ≤ maxRemainingByteSizeInAFrame) :
    (receiveAll m (List.replicate n 1)).currentNfcState = .getPaid1 ∧
      (receiveAll m (List.replicate n 1)).count = m.count + n := by
  induction n generalizing m with
  | zero => exact ⟨hstate, rfl⟩
  | succ n ih =>
      have hstep : m.nfcEventHandler 1 = m.getPaid 1 (readNext 0x04 0xB7 .thirdReadAck) := by
        rw [nfcEventHandler, hstate]
      rw [getPaid_of_room (by omega)] at hstep
      rw [List.replicate_succ, receiveAll, List.foldl_cons, hstep]
      obtain ⟨hkept, hcount⟩ := @ih { m with
        grabState := .startGrabbing
        dataDump1 := m.dataDump1.set m.dumpIndex 1
        writes := m.dumpIndex :: m.writes
        count := m.count + 1
        dumpIndex := m.dumpIndex + 1 } hstate (by dsimp only; omega)
      exact ⟨hkept, hcount.trans (by dsimp only; omega)⟩

/-- The state after this many bytes of the first frame and the one that may end it. -/
theorem state_after_frame (m : NfcMachine) {n : ℕ}
    (hn : m.count + n ≤ maxRemainingByteSizeInAFrame) :
    (receiveAll m.setupStateMachine (introduction ++ List.replicate n 1 ++ [1])).currentNfcState =
      if m.count + n < maxRemainingByteSizeInAFrame then .getPaid1 else .thirdReadAck := by
  rw [receiveAll_append, receiveAll_append, receiveAll_introduction]
  obtain ⟨hstate, hcount⟩ := @receiveAll_getPaid1 { m.setupStateMachine with
    currentAckState := .ackProcessed
    currentResponseState := .tagExists
    restOfResponseState := .restOfResponseProcessed
    currentNfcState := .getPaid1 } rfl n hn
  generalize receiveAll _ (List.replicate n 1) = frame at hstate hcount ⊢
  have hstep : frame.nfcEventHandler 1 = frame.getPaid 1 (readNext 0x04 0xB7 .thirdReadAck) := by
    rw [nfcEventHandler, hstate]
  have hframe : frame.count = m.count + n := hcount
  show (frame.nfcEventHandler 1).1.currentNfcState = _
  rw [hstep]
  split_ifs with hroom
  · rw [getPaid_of_room (by omega)]
    exact hstate
  · rw [getPaid_of_full (by omega)]
    rfl

theorem count_step (event : NfcEvent) (h : m.count ≤ maxRemainingByteSizeInAFrame) :
    (m.apply event).count ≤ maxRemainingByteSizeInAFrame := by
  cases event with
  | receive rxByte =>
      show (m.nfcEventHandler rxByte).1.count ≤ _
      rcases receive_cases m rxByte with hkeeps | hwrites | hends
      · rwa [hkeeps.count]
      · rw [hwrites.count]
        exact hwrites.room
      · rw [hends.count]
        exact Nat.zero_le _
  | timer appTimer =>
      obtain ⟨hcount, _⟩ := setupTick_spec m appTimer
      show (m.timerEventHandler appTimer).1.count ≤ _
      rcases timer_cases m appTimer with ⟨_, _, hnone⟩ | ⟨_, _, houter⟩ | ⟨_, hall⟩
      · rwa [hnone, hcount]
      · rw [houter]
        exact hcount ▸ h
      · rw [hall]
        exact hcount ▸ h
  | node retryStorage globalTime => exact h

theorem count_le (hrun : Run apply AnyEvent (initial retryStorage) events m) :
    m.count ≤ maxRemainingByteSizeInAFrame := by
  apply hrun.preserves fun s event h _ => count_step event h
  exact Nat.zero_le _

theorem SameSessions.symm (h : SameSessions m m') : SameSessions m' m :=
  fun bytes => ⟨(h bytes).1.symm, (h bytes).2.symm⟩

/-- The machine with more bytes in its frame ends it first. -/
theorem SameSessions.count_le (h : SameSessions m.setupStateMachine m'.setupStateMachine)
    (hm' : m'.count ≤ maxRemainingByteSizeInAFrame) : m'.count ≤ m.count := by
  by_contra hless
  have hframe := state_after_frame m (n := maxRemainingByteSizeInAFrame - m'.count) (by omega)
  have hframe' := state_after_frame m' (n := maxRemainingByteSizeInAFrame - m'.count) (by omega)
  rw [if_pos (by omega)] at hframe
  rw [if_neg (by omega)] at hframe'
  have hstart : m.setupStateMachine.currentNfcState = m'.setupStateMachine.currentNfcState := rfl
  have hstate := state_eq_of_trace hstart
    (h (introduction ++ List.replicate (maxRemainingByteSizeInAFrame - m'.count) 1 ++ [1])).1
  rw [hframe, hframe'] at hstate
  exact NfcState.noConfusion hstate

/-- **Setting up the machines forgets what was before** if and only if the count of the bytes in a
frame is the same, since it is the only variable of a session that is not set. -/
theorem restart_forgets_iff {retryStorage' : RetryStorage} {events' : List NfcEvent}
    (hrun : Run apply AnyEvent (initial retryStorage) events m)
    (hrun' : Run apply AnyEvent (initial retryStorage') events' m') :
    SameSessions m.setupStateMachine m'.setupStateMachine ↔ m.count = m'.count := by
  constructor
  · intro h
    exact (h.symm.count_le (count_le hrun)).antisymm (h.count_le (count_le hrun'))
  · intro hcount
    exact Alike.sameSessions ⟨rfl, rfl, rfl, rfl, hcount, rfl, rfl⟩

/-- A session that was aborted after the first byte of a frame. -/
def aborted : List NfcEvent := searching ++ introduction.map .receive ++ [.receive 1]

theorem past_remembered :
    ¬ ∀ (retryStorage retryStorage' : RetryStorage) (events events' : List NfcEvent)
        (m m' : NfcMachine), Run apply AnyEvent (initial retryStorage) events m →
          Run apply AnyEvent (initial retryStorage') events' m' →
            SameSessions m.setupStateMachine m'.setupStateMachine := by
  intro hall
  have hrun : Run apply AnyEvent (initial RetryStorage.empty) aborted
      (aborted.foldl apply (initial RetryStorage.empty)) := Run.of_replays (by decide +kernel)
  obtain ⟨htrace, _⟩ := hall _ _ _ _ _ _ hrun (Run.nil (initial RetryStorage.empty))
    (introduction ++ List.replicate 15 1)
  exact absurd htrace (by decide +kernel)

/-- A session that was aborted after a whole frame is forgotten. -/
theorem restart_forgets_iff_frame :
    SameSessions
      ((searching ++ introduction.map NfcEvent.receive ++ oneFrame).foldl apply
        (initial RetryStorage.empty)).setupStateMachine
      (initial RetryStorage.empty).setupStateMachine :=
  (restart_forgets_iff (Run.of_replays (by decide +kernel)) (Run.nil _)).mpr (by decide +kernel)

end NfcMachine

end FruityMesh.Modules
