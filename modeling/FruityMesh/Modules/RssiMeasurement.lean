import FruityMesh.Library.Runs
import FruityMesh.Mesh.Node

/-!
# The average signal strength of a connection

`StatusReporterModule` adds up the samples of each connection, and after every 51 of them the
average that the connection reports is their mean.

The samples are signed bytes, but the sum is an unsigned number.  With a negative sum the quotient
is not that of the sum but of 65536 more, of which the last byte is taken.  This is never the mean
(`average_eq_mean_iff`), and all real values are negative.
-/

namespace FruityMesh.Modules

open Mesh Runs

/-- The part of a `Connection` that is used for the measurement. -/
structure RssiConnection where
  isConnected : Bool
  connectionHandle : U16
  rssiSamplesSum : U16
  rssiSamplesNum : U16
  rssiAverage : U8
  /-- What has been received since the last average or the start of the measurement. -/
  samples : List U8

/-- The connections of a node. -/
abbrev RssiConnections := Slot → RssiConnection

namespace RssiConnection

/-- What `Connection::Init` does to these variables. -/
def init (_ : RssiConnection) : RssiConnection :=
  ⟨false, bleConnHandleInvalid, 0, 0, 0, []⟩

def connected (handle : U16) (c : RssiConnection) : RssiConnection :=
  { c with isConnected := true, connectionHandle := handle }

/-- `StartConnectionRSSIMeasurement`. -/
def startConnectionRSSIMeasurement (c : RssiConnection) : RssiConnection :=
  if c.isConnected then { c with rssiSamplesNum := 0, rssiSamplesSum := 0, samples := [] } else c

/-- The sample makes the average to be updated. -/
def Updates (c : RssiConnection) : Prop := 50 < c.rssiSamplesNum + 1

instance (c : RssiConnection) : Decidable c.Updates := inferInstanceAs (Decidable (_ < _))

/-- What `BleEventHandler` does to the connection. -/
def rssiChanged (rssi : U8) (c : RssiConnection) : RssiConnection :=
  let num := c.rssiSamplesNum + 1
  let sum := c.rssiSamplesSum + rssi.signExtend 16
  if c.Updates then
    { c with
      rssiAverage := (sum / num).setWidth 8
      rssiSamplesNum := 0
      rssiSamplesSum := 0
      samples := [] }
  else { c with rssiSamplesNum := num, rssiSamplesSum := sum, samples := c.samples ++ [rssi] }

/-- The sum of the samples as they are meant. -/
def total (samples : List U8) : ℤ := (samples.map BitVec.toInt).sum

/-- The mean, truncated towards zero. -/
def mean (samples : List U8) : ℤ := (total samples).tdiv samples.length

end RssiConnection

namespace RssiConnections

open RssiConnection

/-- `GetConnectionFromHandle`; the incoming connection comes first. -/
def getConnectionFromHandle (connections : RssiConnections) (handle : U16) : Option Slot :=
  (List.finRange meshMaxConnections).find? fun i => (connections i).connectionHandle = handle

def modify (connections : RssiConnections) (i : Slot) (f : RssiConnection → RssiConnection) :
    RssiConnections :=
  Function.update connections i (f (connections i))

/-- `BleEventHandler`, for RSSI_CHANGED; nothing if it follows a null pointer. -/
def bleEventHandler (connections : RssiConnections) (handle : U16) (rssi : U8) :
    Option RssiConnections :=
  (connections.getConnectionFromHandle handle).map fun i => connections.modify i (rssiChanged rssi)

inductive RssiEvent
  | init (i : Slot)
  | connected (i : Slot) (handle : U16)
  | start (i : Slot)
  | rssiChanged (handle : U16) (rssi : U8)

def apply (connections : RssiConnections) : RssiEvent → RssiConnections
  | .init i => connections.modify i init
  | .connected i handle => connections.modify i (connected handle)
  | .start i => connections.modify i startConnectionRSSIMeasurement
  | .rssiChanged handle rssi => (connections.bleEventHandler handle rssi).getD connections

/-- There is a connection with the handle. -/
def Known (connections : RssiConnections) : RssiEvent → Prop
  | .rssiChanged handle _ => connections.getConnectionFromHandle handle ≠ none
  | _ => True

/-- The connections of a node that has just been started. -/
def initial : RssiConnections := fun _ => ⟨false, bleConnHandleInvalid, 0, 0, 0, []⟩

end RssiConnections

/-! ## The sum -/

namespace RssiConnection

variable {c : RssiConnection} {rssi : U8} {samples : List U8}

theorem total_append (samples : List U8) (rssi : U8) :
    total (samples ++ [rssi]) = total samples + rssi.toInt := by
  simp [total]

theorem total_bounds (samples : List U8) :
    -128 * (samples.length : ℤ) ≤ total samples ∧ total samples ≤ 127 * samples.length := by
  induction samples using List.reverseRecOn with
  | nil => exact ⟨le_rfl, le_rfl⟩
  | append_singleton samples rssi ih =>
      have hlow := BitVec.le_toInt rssi
      have hhigh := BitVec.toInt_lt (x := rssi)
      rw [total_append, List.length_append, List.length_singleton]
      push_cast
      omega

/-- The variables count and add up the samples, the sum with an overflow. -/
structure Sums (c : RssiConnection) : Prop where
  num : c.rssiSamplesNum = BitVec.ofNat 16 c.samples.length
  sum : c.rssiSamplesSum = BitVec.ofInt 16 (total c.samples)
  few : c.samples.length ≤ 50

theorem sums_nil {isConnected : Bool} {connectionHandle : U16} {rssiAverage : U8} :
    Sums ⟨isConnected, connectionHandle, 0, 0, rssiAverage, []⟩ :=
  ⟨rfl, rfl, Nat.zero_le _⟩

theorem Sums.num_succ (h : Sums c) : (c.rssiSamplesNum + 1).toNat = c.samples.length + 1 := by
  have hfew := h.few
  rw [h.num, BitVec.toNat_add, BitVec.toNat_ofNat, show (1 : U16).toNat = 1 from rfl]
  omega

theorem Sums.updates_iff (h : Sums c) : c.Updates ↔ c.samples.length = 50 := by
  have hfew := h.few
  unfold Updates
  rw [BitVec.lt_def, h.num_succ, show (50 : U16).toNat = 50 from rfl]
  omega

theorem Sums.sum_succ (h : Sums c) (rssi : U8) :
    c.rssiSamplesSum + rssi.signExtend 16 = BitVec.ofInt 16 (total (c.samples ++ [rssi])) := by
  rw [h.sum, total_append, BitVec.ofInt_add]
  rfl

theorem Sums.rssiChanged (h : Sums c) (rssi : U8) : Sums (c.rssiChanged rssi) := by
  unfold RssiConnection.rssiChanged
  dsimp only
  split_ifs with hupdates
  · exact sums_nil
  · rw [h.updates_iff] at hupdates
    refine ⟨?_, h.sum_succ rssi, ?_⟩
    · dsimp only
      rw [h.num, List.length_append, List.length_singleton, BitVec.ofNat_add]
      rfl
    · have hfew := h.few
      dsimp only
      rw [List.length_append, List.length_singleton]
      omega

/-- The last byte of the quotient of a sum of 51 samples, as a signed number: for a negative sum
it is at least five too large. -/
theorem toInt_quotient {s : ℤ} (hlow : -6528 ≤ s) (hhigh : s ≤ 6477) :
    ((BitVec.ofInt 16 s / 51).setWidth 8 : U8).toInt =
      if 0 ≤ s then s / 51 else 5 + (s + 1) / 51 := by
  have hsum : ((BitVec.ofInt 16 s).toNat : ℤ) = if 0 ≤ s then s else s + 65536 := by
    rw [BitVec.toNat_ofInt]
    split_ifs <;> omega
  have hquotient := @BitVec.toInt_eq_toNat_cond 8 ((BitVec.ofInt 16 s / 51).setWidth 8)
  rw [BitVec.toNat_setWidth, BitVec.toNat_udiv, show (51 : U16).toNat = 51 from rfl] at hquotient
  rw [hquotient]
  split_ifs at hsum ⊢ <;> omega

/-- What the update stores is the mean if and only if the sum is not negative. -/
theorem Sums.toInt_rssiChanged_iff (h : Sums c) (hupdates : c.Updates) (rssi : U8) :
    (c.rssiChanged rssi).rssiAverage.toInt = mean (c.samples ++ [rssi]) ↔
      0 ≤ total (c.samples ++ [rssi]) := by
  have hlength : (c.samples ++ [rssi]).length = 51 := by
    rw [List.length_append, h.updates_iff.mp hupdates, List.length_singleton]
  have hnum : c.rssiSamplesNum + 1 = 51 := by
    apply BitVec.eq_of_toNat_eq
    rw [h.num_succ, h.updates_iff.mp hupdates]
    rfl
  have haverage : (c.rssiChanged rssi).rssiAverage =
      (BitVec.ofInt 16 (total (c.samples ++ [rssi])) / 51).setWidth 8 := by
    unfold RssiConnection.rssiChanged
    dsimp only
    rw [if_pos hupdates, h.sum_succ, hnum]
  obtain ⟨hlow, hhigh⟩ := total_bounds (c.samples ++ [rssi])
  rw [hlength] at hlow hhigh
  rw [haverage, toInt_quotient (by omega) (by omega), mean, hlength]
  generalize total (c.samples ++ [rssi]) = s
  split_ifs with hsign
  · exact iff_of_true (Int.tdiv_eq_ediv_of_nonneg hsign).symm hsign
  · refine iff_of_false ?_ hsign
    -- the mean of a negative sum is the negative of the mean of the positive one
    have hmean : s.tdiv (51 : ℕ) = -(-s / 51) := by
      calc s.tdiv (51 : ℕ) = -((-s).tdiv (51 : ℕ)) := by rw [Int.neg_tdiv, neg_neg]
        _ = -(-s / 51) := by rw [Int.tdiv_eq_ediv_of_nonneg (by omega)]; rfl
    rw [hmean]
    omega

end RssiConnection

namespace RssiConnections

open RssiConnection

variable {connections : RssiConnections} {events : List RssiEvent}

theorem sums_modify (h : ∀ k, Sums (connections k)) (i : Slot)
    {f : RssiConnection → RssiConnection} (hf : Sums (f (connections i))) :
    ∀ k, Sums (connections.modify i f k) := by
  intro k
  unfold modify
  by_cases hk : k = i
  · rw [hk, Function.update_self]
    exact hf
  · rw [Function.update_of_ne hk]
    exact h k

theorem sums_step (h : ∀ k, Sums (connections k)) (event : RssiEvent) :
    ∀ k, Sums (connections.apply event k) := by
  cases event with
  | init i => exact sums_modify h i sums_nil
  | connected i handle => exact sums_modify h i ⟨(h i).num, (h i).sum, (h i).few⟩
  | start i =>
      apply sums_modify h i
      unfold startConnectionRSSIMeasurement
      split_ifs
      · exact sums_nil
      · exact h i
  | rssiChanged handle rssi =>
      show ∀ k, Sums (((connections.bleEventHandler handle rssi).getD connections) k)
      unfold bleEventHandler
      cases connections.getConnectionFromHandle handle with
      | none => exact h
      | some i => exact sums_modify h i ((h i).rssiChanged rssi)

/-- **The reported average is the mean of the samples** since the last one, or since the start of
the measurement, if and only if their sum is not negative. -/
theorem average_eq_mean_iff (hrun : Run apply Known initial events connections) {handle : U16}
    {rssi : U8} {i : Slot} (hfind : connections.getConnectionFromHandle handle = some i)
    (hupdates : (connections i).Updates) :
    ((connections.apply (.rssiChanged handle rssi)) i).rssiAverage.toInt =
        mean ((connections i).samples ++ [rssi]) ↔
      0 ≤ total ((connections i).samples ++ [rssi]) := by
  have hsums : ∀ k, Sums (connections k) := by
    apply hrun.preserves fun _ event h _ => sums_step h event
    exact fun k => sums_nil
  have happly : (connections.apply (.rssiChanged handle rssi)) i =
      (connections i).rssiChanged rssi := by
    show ((connections.bleEventHandler handle rssi).getD connections) i = _
    rw [bleEventHandler, hfind]
    exact Function.update_self ..
  rw [happly]
  exact (hsums i).toInt_rssiChanged_iff hupdates rssi

/-- A connection is made, and it gets 50 samples of this value. -/
def fifty (rssi : U8) : List RssiEvent :=
  [.init inConnection, .connected inConnection 7, .start inConnection] ++ List.replicate 50 (.rssiChanged 7 rssi)

instance : (connections : RssiConnections) → (event : RssiEvent) → Decidable (Known connections event)
  | connections, .rssiChanged handle _ =>
      inferInstanceAs (Decidable (connections.getConnectionFromHandle handle ≠ none))
  | _, .init _ => isTrue trivial
  | _, .connected _ _ => isTrue trivial
  | _, .start _ => isTrue trivial

/-- The average of 51 samples of -60 is reported as -55. -/
theorem average_wrong :
    ¬ ∀ (connections : RssiConnections) (events : List RssiEvent) (handle : U16) (rssi : U8)
        (i : Slot), Run apply Known initial events connections →
          connections.getConnectionFromHandle handle = some i → (connections i).Updates →
            ((connections.apply (.rssiChanged handle rssi)) i).rssiAverage.toInt =
              mean ((connections i).samples ++ [rssi]) := by
  intro hall
  have hrun : Run apply Known initial (fifty (-60)) ((fifty (-60)).foldl apply initial) :=
    Run.of_replays (by decide +kernel)
  exact absurd (hall _ _ 7 (-60) inConnection hrun (by decide +kernel) (by decide +kernel)) (by decide +kernel)

theorem average_eq_mean_iff_60 :
    ((((fifty 60).foldl apply initial).apply (.rssiChanged 7 60)) inConnection).rssiAverage.toInt =
      mean ((((fifty 60).foldl apply initial) inConnection).samples ++ [60]) :=
  (average_eq_mean_iff (Run.of_replays (by decide +kernel)) (by decide +kernel)
    (by decide +kernel)).mpr (by decide +kernel)

end RssiConnections

end FruityMesh.Modules
