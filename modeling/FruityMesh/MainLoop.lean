import FruityMesh.Library.Runs
import FruityMesh.Types
import Mathlib.Data.Nat.ModEq

/-!
# The timer section of the main loop

`main` waits for events and, when there is none, hands the time that has passed to
`Node::TimerTickHandler` and to the modules.  The interrupt `ble_timer_dispatch`, which adds to
this time, and the counter of the `app_timer` run on beside it, so here the section is taken
apart into its statements (`Statement`), and between two of them anything may happen.

* The time is read once and cleared at the end.  An interrupt in between is lost
  (`ticks_counted_iff`).
* The counter is read twice.  What passes in between is missing in `globalTime`
  (`globalTime_exact_iff`).
-/

namespace FruityMesh

open Runs

def mainTimerTickMs : U32 := 200

/-- The functions of the `app_timer`, as they are documented.  The counter has 24 bits and runs
on by itself; the parameter of `cntGet` is the number of its ticks. -/
structure AppTimer where
  cntGet : ℕ → U32
  cntDiffCompute : U32 → U32 → U32
  toNat_cntGet : ∀ now, (cntGet now).toNat = now % 2 ^ 24
  toNat_cntDiffCompute : ∀ ticksTo ticksFrom, ticksTo.toNat < 2 ^ 24 → ticksFrom.toNat < 2 ^ 24 →
    (cntDiffCompute ticksTo ticksFrom).toNat = (ticksTo.toNat + 2 ^ 24 - ticksFrom.toNat) % 2 ^ 24

namespace MainLoop

/-- The statements of the timer section, in their order.  `callHandler` evaluates the argument of
`TimerTickHandler`, and `finishHandler` stands for the rest of it: the state machine and the LEDs,
which none of the variables here depends on. -/
inductive Statement
  | check
  | callHandler
  | assignPassed
  | addAppTimer
  | readCounter
  | computeDifference
  | addGlobalTime
  | setGlobalTimeSetAt
  | finishHandler
  | timerEventDispatch
  | reset
  deriving DecidableEq, Repr

end MainLoop

/-- The node, as far as the timer section uses it, with the local variables of the section. -/
structure MainLoop where
  /-- The statement that is next. -/
  next : MainLoop.Statement
  passsedTimeSinceLastTimerHandler : U16
  timerMs : U16
  appTimerMs : U32
  rtc1 : U32
  passedTime : U32
  globalTime : U64
  globalTimeSetAt : U32
  /-- The ticks of the counter so far. -/
  now : ℕ
  /-- When `rtc1` was read. -/
  readAt : ℕ
  /-- When `globalTimeSetAt` was read. -/
  setAt : ℕ
  /-- The ticks between these two, in all calls of the handler so far. -/
  skipped : ℕ
  /-- The interrupts so far. -/
  interrupts : ℕ
  /-- Those of them after the pending time was read and before it was cleared. -/
  missed : ℕ

namespace MainLoop

/-- The node after its constructor. -/
def started : MainLoop where
  next := .check
  passsedTimeSinceLastTimerHandler := 0
  timerMs := 0
  appTimerMs := 0
  rtc1 := 0
  passedTime := 0
  globalTime := 0
  globalTimeSetAt := 0
  now := 0
  readAt := 0
  setAt := 0
  skipped := 0
  interrupts := 0
  missed := 0

/-- The timer section is not running. -/
def Waits (m : MainLoop) : Prop := m.next = .check

/-- The pending time has been read and not been cleared yet. -/
def InWindow (m : MainLoop) : Prop := m.next ≠ .check ∧ m.next ≠ .callHandler

instance (m : MainLoop) : Decidable m.Waits := inferInstanceAs (Decidable (_ = _))

instance (m : MainLoop) : Decidable m.InWindow := inferInstanceAs (Decidable (_ ∧ _))

inductive Event
  /-- `ble_timer_dispatch`. -/
  | interrupt
  /-- The counter runs on. -/
  | advance (ticks : ℕ)
  /-- The main loop executes its next statement. -/
  | execute
  deriving DecidableEq

section

variable (timer : AppTimer)

def execute (m : MainLoop) : MainLoop :=
  match m.next with
  | .check =>
      if 0 < m.passsedTimeSinceLastTimerHandler.toNat then { m with next := .callHandler } else m
  | .callHandler =>
      { m with timerMs := m.passsedTimeSinceLastTimerHandler, next := .assignPassed }
  | .assignPassed =>
      { m with passsedTimeSinceLastTimerHandler := m.timerMs, next := .addAppTimer }
  | .addAppTimer =>
      { m with appTimerMs := m.appTimerMs + m.timerMs.setWidth 32, next := .readCounter }
  | .readCounter =>
      { m with rtc1 := timer.cntGet m.now, readAt := m.now, next := .computeDifference }
  | .computeDifference =>
      { m with
        passedTime := timer.cntDiffCompute m.rtc1 m.globalTimeSetAt
        next := .addGlobalTime }
  | .addGlobalTime =>
      { m with
        globalTime := m.globalTime + m.passedTime.setWidth 64
        next := .setGlobalTimeSetAt }
  | .setGlobalTimeSetAt =>
      -- the counter is read once more
      { m with
        globalTimeSetAt := timer.cntGet m.now
        setAt := m.now
        skipped := m.skipped + (m.now - m.readAt)
        next := .finishHandler }
  | .finishHandler => { m with next := .timerEventDispatch }
  | .timerEventDispatch => { m with next := .reset }
  -- whatever the interrupt has added since `callHandler` goes with it
  | .reset => { m with passsedTimeSinceLastTimerHandler := 0, next := .check }

def apply (m : MainLoop) : Event → MainLoop
  | .interrupt =>
      { m with
        passsedTimeSinceLastTimerHandler :=
          m.passsedTimeSinceLastTimerHandler + mainTimerTickMs.setWidth 16
        interrupts := m.interrupts + 1
        missed := if m.InWindow then m.missed + 1 else m.missed }
  | .advance ticks => { m with now := m.now + ticks }
  | .execute => m.execute timer

end

/-! ## Ticks -/

/-- The pending value stays below 65536. -/
def KeepsPending (m : MainLoop) (event : Event) : Prop :=
  event = .interrupt →
    m.passsedTimeSinceLastTimerHandler.toNat + mainTimerTickMs.toNat < 2 ^ 16

/-- No interrupt comes after the pending time was read and before it is cleared. -/
def InTime (m : MainLoop) (event : Event) : Prop := event = .interrupt → ¬ m.InWindow

instance (m : MainLoop) (event : Event) : Decidable (m.KeepsPending event) :=
  inferInstanceAs (Decidable (_ → _))

instance (m : MainLoop) (event : Event) : Decidable (m.InTime event) :=
  inferInstanceAs (Decidable (_ → _))

/-- All ticks so far are counted. -/
def Counted (m : MainLoop) : Prop :=
  m.appTimerMs + m.passsedTimeSinceLastTimerHandler.setWidth 32 =
    BitVec.ofNat 32 (mainTimerTickMs.toNat * m.interrupts)

instance (m : MainLoop) : Decidable m.Counted := inferInstanceAs (Decidable (_ = _))

/-- The time that is going to be added to `appTimerMs`. -/
def pendingMs (m : MainLoop) : ℕ :=
  match m.next with
  | .check | .callHandler => m.passsedTimeSinceLastTimerHandler.toNat
  | .assignPassed | .addAppTimer => m.timerMs.toNat
  | _ => 0

/-- What is missing are the interrupts that were missed. -/
def Accounted (m : MainLoop) : Prop :=
  m.appTimerMs.toNat + m.pendingMs + mainTimerTickMs.toNat * m.missed ≡
    mainTimerTickMs.toNat * m.interrupts [MOD 2 ^ 32]

section

variable {timer : AppTimer} {m : MainLoop} {event : Event} {events : List Event}

theorem toNat_interrupt (hpending : m.KeepsPending .interrupt) :
    (m.passsedTimeSinceLastTimerHandler + mainTimerTickMs.setWidth 16).toNat =
      m.passsedTimeSinceLastTimerHandler.toNat + mainTimerTickMs.toNat := by
  have hsmall := hpending rfl
  rw [BitVec.toNat_add]
  exact Nat.mod_eq_of_lt hsmall

/-- No statement changes the balance. -/
theorem Accounted.execute (h : m.Accounted) : (m.execute timer).Accounted := by
  unfold Accounted pendingMs at h ⊢
  unfold MainLoop.execute
  cases hnext : m.next with
  | check =>
      simp only [hnext] at h ⊢
      split_ifs
      · exact h
      · simpa only [hnext] using h
  | addAppTimer =>
      simp only [hnext] at h ⊢
      refine Nat.ModEq.trans ?_ h
      rw [BitVec.toNat_add, BitVec.toNat_setWidth, Nat.ModEq]
      omega
  | reset =>
      simp only [hnext] at h ⊢
      exact h
  | _ => simpa only [hnext] using h

theorem Accounted.interrupt (h : m.Accounted) (hpending : m.KeepsPending .interrupt) :
    (m.apply timer .interrupt).Accounted := by
  have hadd := toNat_interrupt hpending
  unfold Accounted pendingMs at h ⊢
  unfold MainLoop.apply
  rw [Nat.mul_succ]
  cases hnext : m.next
  case check | callHandler =>
    simp only [hnext, InWindow, ne_eq, reduceCtorEq, not_false_eq_true, not_true_eq_false, and_true,
      and_false, if_false, hadd] at h ⊢
    rw [← Nat.add_assoc, Nat.add_right_comm]
    exact h.add_right _
  all_goals
    -- the interrupt is missed
    simp only [hnext, InWindow, ne_eq, reduceCtorEq, not_false_eq_true, and_self, if_true] at h ⊢
    rw [Nat.mul_succ, ← Nat.add_assoc]
    exact h.add_right _

theorem Accounted.apply (h : m.Accounted) (hpending : m.KeepsPending event) :
    (m.apply timer event).Accounted := by
  cases event with
  | interrupt => exact h.interrupt hpending
  | advance ticks => exact h
  | execute => exact h.execute

theorem accounted_run (hrun : Run (MainLoop.apply timer) KeepsPending started events m) :
    m.Accounted :=
  hrun.preserves (fun _ _ h hpending => h.apply hpending) rfl

/-- Outside of the section the ticks are counted if those that were missed make no difference. -/
theorem Accounted.counted_iff (h : m.Accounted) (hwaits : m.Waits) :
    m.Counted ↔ mainTimerTickMs.toNat * m.missed ≡ 0 [MOD 2 ^ 32] := by
  have hpending : m.pendingMs = m.passsedTimeSinceLastTimerHandler.toNat := by
    rw [pendingMs, hwaits]
  unfold Accounted at h
  rw [hpending] at h
  have hsum : m.Counted ↔ m.appTimerMs.toNat + m.passsedTimeSinceLastTimerHandler.toNat ≡
      mainTimerTickMs.toNat * m.interrupts [MOD 2 ^ 32] := by
    rw [Counted, ← BitVec.toNat_inj, BitVec.toNat_add, BitVec.toNat_setWidth, BitVec.toNat_ofNat,
      Nat.ModEq, Nat.add_mod_mod]
  rw [hsum]
  constructor
  · intro hcounted
    exact Nat.ModEq.add_left_cancel' _ (h.trans hcounted.symm)
  · intro hzero
    exact (Nat.ModEq.add_left _ hzero.symm).trans h

theorem missed_apply_iff : (m.apply timer event).missed = 0 ↔ m.missed = 0 ∧ m.InTime event := by
  cases event with
  | interrupt =>
      unfold MainLoop.apply InTime
      dsimp only
      split_ifs with hwindow
      · simp [hwindow]
      · simp [hwindow]
  | advance ticks => simp [MainLoop.apply, InTime]
  | execute =>
      have hsame : (m.apply timer .execute).missed = m.missed := by
        unfold MainLoop.apply MainLoop.execute
        cases m.next with
        | check =>
            dsimp only
            split_ifs
            · rfl
            · rfl
        | _ => rfl
      simp [hsame, InTime]

theorem missed_run_iff {Allowed : MainLoop → Event → Prop}
    (hrun : Run (MainLoop.apply timer) Allowed started events m) :
    m.missed = 0 ↔ Run (MainLoop.apply timer) InTime started events m := by
  induction hrun with
  | nil => exact iff_of_true rfl (Run.nil _)
  | step hrun event _ ih =>
      rw [missed_apply_iff, ih, Run.concat_iff]
      constructor
      · rintro ⟨hintime, hevent⟩
        exact ⟨_, hintime, hevent, rfl⟩
      · rintro ⟨middle, hintime, hevent, -⟩
        obtain rfl := hintime.eq_foldl.trans hrun.eq_foldl.symm
        exact ⟨hintime, hevent⟩

/-- The interrupts that were missed are those of the section that is running, and they fit into
the pending time, which was written once in the meantime. -/
def Confined (m : MainLoop) : Prop :=
  match m.next with
  | .check | .callHandler => m.missed = 0
  | .assignPassed =>
      m.timerMs.toNat + mainTimerTickMs.toNat * m.missed =
        m.passsedTimeSinceLastTimerHandler.toNat
  | _ =>
      mainTimerTickMs.toNat * m.missed < 2 ^ 16 + m.passsedTimeSinceLastTimerHandler.toNat

theorem Confined.execute (h : m.Confined) (haccounted : m.Accounted)
    (hcounted : (m.execute timer).Waits → (m.execute timer).Counted) :
    (m.execute timer).Confined := by
  have hafter : (m.execute timer).Accounted := haccounted.execute
  have hwidth := m.passsedTimeSinceLastTimerHandler.isLt
  unfold Confined at h ⊢
  cases hnext : m.next with
  | check =>
      unfold MainLoop.execute
      simp only [hnext] at h ⊢
      split_ifs
      · exact h
      · simpa only [hnext] using h
  | callHandler =>
      simp only [hnext] at h
      simp only [MainLoop.execute, hnext, h, Nat.mul_zero, Nat.add_zero]
  | assignPassed =>
      simp only [hnext] at h
      simp only [MainLoop.execute, hnext]
      omega
  | reset =>
      simp only [hnext] at h
      have hwaits : (m.execute timer).Waits := by
        unfold MainLoop.execute Waits
        rw [hnext]
      have hmissed : (m.execute timer).missed = m.missed := by
        unfold MainLoop.execute
        rw [hnext]
      have hzero := (hafter.counted_iff hwaits).mp (hcounted hwaits)
      rw [hwaits]
      rw [hmissed, Nat.ModEq] at hzero
      -- too few of them were missed to make no difference
      rw [show mainTimerTickMs.toNat = 200 from rfl] at h hzero
      dsimp only
      omega
  | _ => simpa only [MainLoop.execute, hnext] using h

theorem Confined.apply (h : m.Confined) (haccounted : m.Accounted)
    (hpending : m.KeepsPending event)
    (hcounted : (m.apply timer event).Waits → (m.apply timer event).Counted) :
    (m.apply timer event).Confined := by
  cases event with
  | interrupt =>
      have hadd := toNat_interrupt hpending
      unfold Confined at h ⊢
      unfold MainLoop.apply
      cases hnext : m.next
      case check | callHandler =>
        simpa only [hnext, InWindow, ne_eq, reduceCtorEq, not_true_eq_false, not_false_eq_true,
          and_false, and_true, if_false] using h
      all_goals
        simp only [hnext, InWindow, ne_eq, reduceCtorEq, not_false_eq_true, and_self, if_true,
          hadd, Nat.mul_succ] at h ⊢
        omega
  | advance ticks => exact h
  | execute => exact h.execute haccounted hcounted

/-- **A tick is lost exactly if its interrupt comes after the pending time was read and before it
is cleared.** -/
theorem ticks_counted_iff (hrun : Run (MainLoop.apply timer) KeepsPending started events m)
    (hwaits : m.Waits) :
    (∀ first, first <+: events →
      (first.foldl (MainLoop.apply timer) started).Waits →
        (first.foldl (MainLoop.apply timer) started).Counted) ↔
      Run (MainLoop.apply timer) InTime started events m := by
  constructor
  · intro hcounted
    obtain ⟨hevery, hlast⟩ :=
      (@Run.forall_prefix_iff _ _ _ _ (fun m => m.Waits → m.Counted) _ _ _ hrun).mp hcounted
    have hconfined : m.Accounted ∧ ((m.Waits → m.Counted) → m.Confined) := by
      refine hevery.preserves (I := fun m => m.Accounted ∧ ((m.Waits → m.Counted) → m.Confined))
        ?_ ⟨rfl, fun _ => rfl⟩
      rintro m event ⟨haccounted, hconfined⟩ ⟨hpending, hhere⟩
      exact ⟨haccounted.apply hpending, (hconfined hhere).apply haccounted hpending⟩
    have hmissed := hconfined.2 hlast
    rw [Confined, hwaits] at hmissed
    exact (missed_run_iff hrun).mp hmissed
  · intro hintime first hfirst hfirstWaits
    have hmissed := (missed_run_iff (hrun.initial hfirst)).mpr (hintime.initial hfirst)
    rw [(accounted_run (hrun.initial hfirst)).counted_iff hfirstWaits, hmissed]
    rfl

end

/-! ## Global time -/

/-- Fewer than 2^24 ticks of the counter have passed since the last call of the handler. -/
def KeepsUp (m : MainLoop) (event : Event) : Prop :=
  event = .execute → m.next = .readCounter → m.now < m.setAt + 2 ^ 24

instance (m : MainLoop) (event : Event) : Decidable (m.KeepsUp event) :=
  inferInstanceAs (Decidable (_ → _ → _))

/-- `globalTime` has grown by the ticks between the two values of `globalTimeSetAt`. -/
def GrownExactly (start m : MainLoop) : Prop :=
  m.globalTime = start.globalTime + BitVec.ofNat 64 (m.setAt - start.setAt)

instance (start m : MainLoop) : Decidable (GrownExactly start m) :=
  inferInstanceAs (Decidable (_ = _))

/-- Up to where the ticks of the counter are in `globalTime`, but for the skipped ones. -/
def coveredUntil (m : MainLoop) : ℕ :=
  match m.next with
  | .setGlobalTimeSetAt => m.readAt
  | _ => m.setAt

/-- The local variables of the handler show the time between its last call and this one. -/
def Measures (timer : AppTimer) (m : MainLoop) : Prop :=
  match m.next with
  | .computeDifference =>
      m.rtc1 = timer.cntGet m.readAt ∧ m.setAt ≤ m.readAt ∧ m.readAt ≤ m.now ∧
        m.readAt < m.setAt + 2 ^ 24
  | .addGlobalTime =>
      m.passedTime.toNat = m.readAt - m.setAt ∧ m.setAt ≤ m.readAt ∧ m.readAt ≤ m.now
  | .setGlobalTimeSetAt => m.setAt ≤ m.readAt ∧ m.readAt ≤ m.now
  | _ => True

/-- What is missing in `globalTime` are the ticks that were skipped. -/
structure Tracked (timer : AppTimer) (start m : MainLoop) : Prop where
  reference : m.globalTimeSetAt = timer.cntGet m.setAt
  past : m.setAt ≤ m.now
  since : start.setAt ≤ m.setAt
  skipped : start.skipped ≤ m.skipped
  measures : m.Measures timer
  balance : m.globalTime.toNat + m.skipped + start.setAt ≡
    start.globalTime.toNat + start.skipped + m.coveredUntil [MOD 2 ^ 64]

section

variable {timer : AppTimer} {start m : MainLoop} {event : Event} {events : List Event}

/-- The difference is right, although the counter may have started again in the meantime. -/
theorem toNat_difference {setAt readAt : ℕ} (hle : setAt ≤ readAt)
    (hlt : readAt < setAt + 2 ^ 24) :
    (timer.cntDiffCompute (timer.cntGet readAt) (timer.cntGet setAt)).toNat = readAt - setAt := by
  have hread := timer.toNat_cntGet readAt
  have hset := timer.toNat_cntGet setAt
  rw [timer.toNat_cntDiffCompute _ _ (by omega) (by omega), hread, hset]
  omega

theorem Tracked.advance (h : Tracked timer start m) (ticks : ℕ) :
    Tracked timer start (m.apply timer (.advance ticks)) := by
  have hpast := h.past
  refine ⟨h.reference, ?_, h.since, h.skipped, ?_, h.balance⟩
  · simp only [MainLoop.apply]
    omega
  · have hmeasures := h.measures
    unfold Measures at hmeasures ⊢
    unfold MainLoop.apply
    cases hnext : m.next with
    | computeDifference =>
        simp only [hnext] at hmeasures ⊢
        exact ⟨hmeasures.1, hmeasures.2.1, by omega, hmeasures.2.2.2⟩
    | addGlobalTime =>
        simp only [hnext] at hmeasures ⊢
        exact ⟨hmeasures.1, hmeasures.2.1, by omega⟩
    | setGlobalTimeSetAt =>
        simp only [hnext] at hmeasures ⊢
        exact ⟨hmeasures.1, by omega⟩
    | _ => trivial

/-- A statement that has nothing to do with the global time. -/
theorem Tracked.of_same (h : Tracked timer start m) {m' : MainLoop}
    (hset : m'.globalTimeSetAt = m.globalTimeSetAt) (hsetAt : m'.setAt = m.setAt)
    (hnow : m'.now = m.now) (htime : m'.globalTime = m.globalTime)
    (hskipped : m'.skipped = m.skipped) (hcovered : m'.coveredUntil = m.coveredUntil)
    (hmeasures : m'.Measures timer) : Tracked timer start m' where
  reference := by rw [hset, hsetAt, h.reference]
  past := by rw [hsetAt, hnow]; exact h.past
  since := by rw [hsetAt]; exact h.since
  skipped := by rw [hskipped]; exact h.skipped
  measures := hmeasures
  balance := by rw [htime, hskipped, hcovered]; exact h.balance

theorem Tracked.execute (h : Tracked timer start m) (hkeeps : m.KeepsUp .execute) :
    Tracked timer start (m.execute timer) := by
  have hmeasures := h.measures
  have hbalance := h.balance
  have hpast := h.past
  have hsince := h.since
  unfold Measures at hmeasures
  unfold coveredUntil at hbalance
  cases hnext : m.next with
  | check =>
      unfold MainLoop.execute
      rw [hnext]
      dsimp only
      split_ifs
      · exact h.of_same rfl rfl rfl rfl rfl (by simp [coveredUntil, hnext]) trivial
      · exact h
  | readCounter =>
      unfold MainLoop.execute
      rw [hnext]
      refine h.of_same rfl rfl rfl rfl rfl (by simp [coveredUntil, hnext]) ?_
      exact ⟨rfl, hpast, le_rfl, hkeeps rfl hnext⟩
  | computeDifference =>
      unfold MainLoop.execute
      rw [hnext]
      rw [hnext] at hmeasures
      obtain ⟨hrtc, hle, hnow, hlt⟩ := hmeasures
      refine h.of_same rfl rfl rfl rfl rfl (by simp [coveredUntil, hnext]) ⟨?_, hle, hnow⟩
      rw [hrtc, h.reference]
      exact toNat_difference hle hlt
  | addGlobalTime =>
      unfold MainLoop.execute
      rw [hnext]
      rw [hnext] at hmeasures hbalance
      obtain ⟨hpassed, hle, hnow⟩ := hmeasures
      refine ⟨h.reference, hpast, hsince, h.skipped, ⟨hle, hnow⟩, ?_⟩
      dsimp only [coveredUntil] at hbalance ⊢
      rw [BitVec.toNat_add, BitVec.toNat_setWidth, hpassed, Nat.ModEq] at *
      omega
  | setGlobalTimeSetAt =>
      unfold MainLoop.execute
      rw [hnext]
      rw [hnext] at hmeasures hbalance
      obtain ⟨hle, hnow⟩ := hmeasures
      have hskipped := h.skipped
      refine ⟨rfl, le_rfl, hsince.trans hpast, by dsimp only; omega, trivial, ?_⟩
      dsimp only [coveredUntil] at hbalance ⊢
      rw [Nat.ModEq] at hbalance ⊢
      omega
  | _ =>
      unfold MainLoop.execute
      rw [hnext]
      exact h.of_same rfl rfl rfl rfl rfl (by simp [coveredUntil, hnext]) trivial

theorem Tracked.apply (h : Tracked timer start m) (hkeeps : m.KeepsUp event) :
    Tracked timer start (m.apply timer event) := by
  cases event with
  | interrupt => exact h.of_same rfl rfl rfl rfl rfl rfl h.measures
  | advance ticks => exact h.advance ticks
  | execute => exact h.execute hkeeps

/-- **Global time drifts by the ticks that pass between the two times the counter is read.** -/
theorem globalTime_exact_iff (hwaitsFirst : start.Waits)
    (hreference : start.globalTimeSetAt = timer.cntGet start.setAt)
    (hpast : start.setAt ≤ start.now) (hrun : Run (MainLoop.apply timer) KeepsUp start events m)
    (hwaits : m.Waits) : GrownExactly start m ↔ 2 ^ 64 ∣ m.skipped - start.skipped := by
  have htracked : Tracked timer start m := by
    refine hrun.preserves (fun _ _ h hkeeps => h.apply hkeeps)
      ⟨hreference, hpast, le_rfl, le_rfl, ?_, ?_⟩
    · rw [Measures, hwaitsFirst]
      trivial
    · rw [coveredUntil, hwaitsFirst]
  have hbalance := htracked.balance
  rw [coveredUntil, hwaits, Nat.ModEq] at hbalance
  have hsince := htracked.since
  have hskipped := htracked.skipped
  rw [GrownExactly, ← BitVec.toNat_inj, BitVec.toNat_add, BitVec.toNat_ofNat]
  have hwidth := m.globalTime.isLt
  dsimp only at hbalance
  omega

end

/-! ### Runs of a single tick -/

/-- The counter and the difference as the processor has them. -/
def rtc : AppTimer where
  cntGet := fun now => BitVec.ofNat 32 (now % 2 ^ 24)
  cntDiffCompute := fun ticksTo ticksFrom => (ticksTo - ticksFrom) &&& 0xFFFFFF
  toNat_cntGet := by
    intro now
    rw [BitVec.toNat_ofNat]
    omega
  toNat_cntDiffCompute := by
    intro ticksTo ticksFrom hto hfrom
    rw [BitVec.toNat_and, BitVec.toNat_sub, show (0xFFFFFF : U32).toNat = 2 ^ 24 - 1 from rfl,
      Nat.and_two_pow_sub_one_eq_mod]
    omega

/-- One tick, and something that happens after `n` statements of the section. -/
def tickWith (n : ℕ) (meanwhile : Event) : List Event :=
  .interrupt :: .advance 100 :: List.replicate n .execute ++
    meanwhile :: List.replicate (11 - n) .execute

/-- An interrupt before the section starts is counted in the next one. -/
theorem ticks_counted_iff_before :
    ((tickWith 0 .interrupt).foldl (MainLoop.apply rtc) started).Counted ∧
      ((tickWith 0 .interrupt).foldl (MainLoop.apply rtc) started).appTimerMs = 400 :=
  ⟨(ticks_counted_iff (Run.of_replays (by decide)) (by decide)).mpr
    (Run.of_replays (by decide)) _ List.prefix_rfl (by decide), by decide⟩

/-- An interrupt while the handler runs is not counted. -/
theorem tick_lost : ¬ ∀ (timer : AppTimer) (events : List Event) (m : MainLoop),
    Run (MainLoop.apply timer) KeepsPending started events m → m.Waits → m.Counted := by
  intro hclaim
  have hcounted := hclaim rtc (tickWith 2 .interrupt) _ (Run.of_replays (by decide)) (by decide)
  exact absurd hcounted (by decide)

/-- The counter runs on before it is read. -/
theorem globalTime_exact_iff_before :
    GrownExactly started ((tickWith 0 (.advance 7)).foldl (MainLoop.apply rtc) started) ∧
      ((tickWith 0 (.advance 7)).foldl (MainLoop.apply rtc) started).globalTime = 107 :=
  ⟨(globalTime_exact_iff (show started.Waits from rfl) rfl le_rfl (Run.of_replays (by decide))
    (by decide)).mpr (by decide), by decide⟩

/-- The counter runs on between the two times it is read. -/
theorem globalTime_drifts : ¬ ∀ (timer : AppTimer) (events : List Event) (m : MainLoop),
    Run (MainLoop.apply timer) KeepsUp started events m → m.Waits → GrownExactly started m := by
  intro hclaim
  have hexact := hclaim rtc (tickWith 7 (.advance 7)) _ (Run.of_replays (by decide)) (by decide)
  exact absurd hexact (by decide)

end MainLoop

end FruityMesh
