import FruityMesh.Library.Loops
import FruityMesh.Library.OrderedMap
import FruityMesh.Library.Runs
import FruityMesh.Types

/-!
# The votes that a node keeps

`Node` keeps the ids of the votes that have not been acknowledged in one array, and the time of
each vote in another.  Together they are a map in the order of insertion (`Stores`): a vote
that comes again keeps its place and gets the current time, and when one is removed those
behind it move up in both arrays.
-/

namespace FruityMesh.Mesh

open Cells

def maxRetryStorageSize : ℕ := 96

/-- Ticks of the global time per second. -/
def appTimerClockFreq : ℕ := 32768

/-- The part of `NodeConfiguration` with the votes.  Both arrays have `maxRetryStorageSize`
elements. -/
structure RetryStorage where
  retryStorage : ℕ → U16
  timeStorage : ℕ → U32

/-- The seconds that are stored for a vote. -/
def voteTime (globalTime : U64) : U32 := BitVec.ofNat 32 (globalTime.toNat / appTimerClockFreq)

namespace RetryStorage

/-! ## The functions of `Node` -/

def empty : RetryStorage := ⟨fun _ => 0, fun _ => 0⟩

/-- A time is removed by moving the later ones up.  The last one stays where it is, too. -/
def removeFromTimeStorage (timeStorage : ℕ → U32) (timeIndex : ℕ) : ℕ → U32 :=
  closeGap (overwrite timeStorage timeIndex [0]) timeIndex (maxRetryStorageSize - 1 - timeIndex)

section

variable (storage : RetryStorage) (globalTime : U64) (userId : U16)

def putInTimeStorage (timeIndex : ℕ) : RetryStorage :=
  { storage with timeStorage := overwrite storage.timeStorage timeIndex [voteTime globalTime] }

/-- The first element with the id. -/
def find : Option ℕ := (List.range maxRetryStorageSize).find? fun i => storage.retryStorage i = userId

/-- A vote that is found gets the current time. -/
def retryStorageContains : RetryStorage × Bool :=
  match storage.find userId with
  | some i => (storage.putInTimeStorage globalTime i, true)
  | none => (storage, false)

def retryStorageIsFull : Bool := storage.retryStorage (maxRetryStorageSize - 1) ≠ 0

/-- The vote is stored in the first free element. -/
def insert : RetryStorage :=
  match storage.find 0 with
  | some i =>
      { storage with retryStorage := overwrite storage.retryStorage i [userId] }.putInTimeStorage
        globalTime i
  | none => storage

def putInRetryStorage : RetryStorage × Bool :=
  let contains := storage.retryStorageContains globalTime userId
  if contains.2 then (contains.1, true)
  else if contains.1.retryStorageIsFull then (contains.1, false)
  else (contains.1.insert globalTime userId, true)

/-- One round of the first loop in `removeFromRetryStorage`: `tempStorage`, `j` and the times. -/
def keepOthers (state : (ℕ → U16) × ℕ × (ℕ → U32)) (i : ℕ) : (ℕ → U16) × ℕ × (ℕ → U32) :=
  if storage.retryStorage i ≠ userId then
    (overwrite state.1 state.2.1 [storage.retryStorage i], state.2.1 + 1, state.2.2)
  else (state.1, state.2.1, removeFromTimeStorage state.2.2 i)

def removeFromRetryStorage : RetryStorage :=
  let kept := (List.range maxRetryStorageSize).foldl (storage.keepOthers userId)
    ((fun _ => 0), 0, storage.timeStorage)
  { retryStorage := (List.range maxRetryStorageSize).foldl (fun row i =>
      if kept.1 i ≠ 0 then overwrite row i [kept.1 i] else overwrite row i [0])
      storage.retryStorage
    timeStorage := kept.2.2 }

def getVoteFromRetryStorage (vote : ℕ) : U16 := storage.retryStorage vote

def getTimeFor : U32 :=
  match storage.find userId with
  | some i => storage.timeStorage i
  | none => 0

end

/-! ## What is in the arrays -/

variable {storage : RetryStorage} {globalTime : U64} {userId other : U16}

/-- The elements of `retryStorage`. -/
def row (storage : RetryStorage) : List U16 := read storage.retryStorage 0 maxRetryStorageSize

/-- The votes, without the free elements. -/
def votes (storage : RetryStorage) : List U16 := storage.row.filter fun userId => userId ≠ 0

theorem mem_row : userId ∈ storage.row ↔ ∃ i < maxRetryStorageSize, storage.retryStorage i = userId := by
  simp [row, Cells.read]

theorem find_eq_none : storage.find userId = none ↔ userId ∉ storage.row := by
  rw [mem_row, find, List.find?_range_eq_none]
  simp

theorem find_eq_some {i : ℕ} : storage.find userId = some i ↔ storage.retryStorage i = userId ∧
    i < maxRetryStorageSize ∧ ∀ j < i, storage.retryStorage j ≠ userId := by
  rw [find, List.find?_range_eq_some]
  simp

theorem foldl_keepOthers_eq (length : ℕ) :
    let collected := (List.range length).foldl (collect (· ≠ userId) storage.retryStorage)
      ((fun _ => 0), 0)
    (List.range length).foldl (storage.keepOthers userId) ((fun _ => 0), 0, storage.timeStorage) =
      (collected.1, collected.2,
        ((List.range length).filter fun i => storage.retryStorage i = userId).foldl
          removeFromTimeStorage storage.timeStorage) := by
  intro collected
  induction length with
  | zero => rfl
  | succ length ih =>
      simp only [collected, List.range_succ, List.foldl_append, List.filter_append, ih,
        List.foldl_cons, List.foldl_nil]
      by_cases h : storage.retryStorage length = userId
      · simp [keepOthers, collect, h]
      · simp [keepOthers, collect, h]

/-- What the first loop of `removeFromRetryStorage` collects, and the times it leaves. -/
theorem foldl_keepOthers (length : ℕ) :
    (List.range length).foldl (storage.keepOthers userId) ((fun _ => 0), 0, storage.timeStorage) =
      (overwrite (fun _ => 0) 0 ((read storage.retryStorage 0 length).filter (· ≠ userId)),
        ((read storage.retryStorage 0 length).filter (· ≠ userId)).length,
        ((List.range length).filter fun i => storage.retryStorage i = userId).foldl
          removeFromTimeStorage storage.timeStorage) := by
  rw [foldl_keepOthers_eq, foldl_collect]

theorem retryStorage_remove :
    (storage.removeFromRetryStorage userId).retryStorage = overwrite storage.retryStorage 0
      (read (overwrite (fun _ => 0) 0 (storage.row.filter (· ≠ userId))) 0
        maxRetryStorageSize) := by
  have hcopied : ∀ (kept : ℕ → U16) (row : ℕ → U16) (i : ℕ),
      (if kept i ≠ 0 then overwrite row i [kept i] else overwrite row i [0]) =
        overwrite row i [kept i] := by
    intro kept row i
    split_ifs with h
    · rfl
    · rw [not_ne_iff.mp h]
  unfold removeFromRetryStorage
  simp only [hcopied, copyRow, foldl_keepOthers, row]

theorem timeStorage_remove :
    (storage.removeFromRetryStorage userId).timeStorage =
      ((List.range maxRetryStorageSize).filter fun i => storage.retryStorage i = userId).foldl
        removeFromTimeStorage storage.timeStorage := by
  unfold removeFromRetryStorage
  rw [foldl_keepOthers]

/-- The other votes are kept, in their order. -/
theorem row_remove : (storage.removeFromRetryStorage userId).row =
    storage.row.filter (· ≠ userId) ++
      List.replicate (maxRetryStorageSize - (storage.row.filter (· ≠ userId)).length) 0 := by
  have hle : (storage.row.filter (· ≠ userId)).length ≤ maxRetryStorageSize := by
    refine (List.length_filter_le _ _).trans_eq ?_
    rw [row, length_read]
  have hcells := holds_overwrite storage.retryStorage 0
    (read (overwrite (fun _ => (0 : U16)) 0 (storage.row.filter (· ≠ userId))) 0
      maxRetryStorageSize)
  have hread := hcells.read_eq
  have hblank := (holds_overwrite_blank 0 (storage.row.filter (· ≠ userId))
    (maxRetryStorageSize - (storage.row.filter (· ≠ userId)).length)).read_eq
  rw [length_read] at hread
  rw [List.length_append, List.length_replicate, Nat.add_sub_cancel' hle] at hblank
  rw [row, retryStorage_remove, hread, hblank]

/-- A vote that is stored for the first time goes to a free element. -/
theorem put_cases (storage : RetryStorage) (globalTime : U64) (userId : U16) :
    (∃ i, storage.find userId = some i ∧ storage.putInRetryStorage globalTime userId =
      (storage.putInTimeStorage globalTime i, true)) ∨
    (storage.find userId = none ∧ storage.retryStorageIsFull = true ∧
      storage.putInRetryStorage globalTime userId = (storage, false)) ∨
    (storage.find userId = none ∧ storage.retryStorageIsFull = false ∧
      storage.putInRetryStorage globalTime userId = (storage.insert globalTime userId, true)) := by
  cases hfind : storage.find userId with
  | some i =>
      have hcontains : storage.retryStorageContains globalTime userId =
          (storage.putInTimeStorage globalTime i, true) := by
        rw [retryStorageContains, hfind]
      exact Or.inl ⟨i, rfl, by rw [putInRetryStorage, hcontains]; rfl⟩
  | none =>
      have hcontains : storage.retryStorageContains globalTime userId = (storage, false) := by
        rw [retryStorageContains, hfind]
      unfold putInRetryStorage
      rw [hcontains]
      cases hfull : storage.retryStorageIsFull with
      | true => exact Or.inr (Or.inl ⟨rfl, rfl, by simp [hfull]⟩)
      | false => exact Or.inr (Or.inr ⟨rfl, rfl, by simp [hfull]⟩)

/-- A vote that has been taken is stored. -/
theorem mem_row_put
    (htrue : (storage.putInRetryStorage globalTime userId).2 = true) :
    userId ∈ (storage.putInRetryStorage globalTime userId).1.row := by
  rcases storage.put_cases globalTime userId with
    ⟨i, hfind, hput⟩ | ⟨_, _, hput⟩ | ⟨_, hroom, hput⟩
  · rw [hput]
    obtain ⟨heq, hi, _⟩ := find_eq_some.mp hfind
    exact mem_row.mpr ⟨i, hi, heq⟩
  · rw [hput] at htrue
    exact absurd htrue (by simp)
  · rw [hput, RetryStorage.insert]
    -- there is room, so the last element at least is free
    cases hfree : storage.find 0 with
    | none =>
        have hlast : storage.retryStorage (maxRetryStorageSize - 1) = 0 := by
          simpa [retryStorageIsFull] using hroom
        exact absurd (mem_row.mpr ⟨_, by decide, hlast⟩) (find_eq_none.mp hfree)
    | some i =>
        obtain ⟨_, hi, _⟩ := find_eq_some.mp hfree
        refine mem_row.mpr ⟨i, hi, ?_⟩
        exact (overwrite_singleton _ _ _ _).trans (if_pos rfl)

/-- Only a free element is overwritten. -/
theorem mem_row_of_put (hother : other ≠ 0) (hmem : other ∈ storage.row) :
    other ∈ (storage.putInRetryStorage globalTime userId).1.row := by
  rcases storage.put_cases globalTime userId with
    ⟨_, _, hput⟩ | ⟨_, _, hput⟩ | ⟨_, _, hput⟩
  · rw [hput]
    exact hmem
  · rw [hput]
    exact hmem
  · rw [hput, RetryStorage.insert]
    cases hfree : storage.find 0 with
    | none => exact hmem
    | some i =>
        obtain ⟨k, hk, heq⟩ := mem_row.mp hmem
        -- the element that is written was free, and `other` is a vote
        have hne : k ≠ i := by
          rintro rfl
          exact hother (heq.symm.trans (find_eq_some.mp hfree).1)
        exact mem_row.mpr ⟨k, hk, ((overwrite_singleton _ _ _ _).trans (if_neg hne)).trans heq⟩

theorem mem_row_remove (hne : other ≠ userId) (hmem : other ∈ storage.row) :
    other ∈ (storage.removeFromRetryStorage userId).row := by
  rw [row_remove, List.mem_append, List.mem_filter]
  exact Or.inl ⟨hmem, decide_eq_true hne⟩

/-! ## The arrays as a map -/

/-- The arrays store the votes with their times. -/
abbrev Stores (storage : RetryStorage) (m : OrderedMap U16 U32) : Prop :=
  m.StoredIn maxRetryStorageSize 0 storage.retryStorage storage.timeStorage

namespace Stores

variable {m : OrderedMap U16 U32}

theorem empty : Stores RetryStorage.empty .empty where
  fits := Nat.zero_le _
  unmarked := List.not_mem_nil
  keys := by
    intro k hk
    simp [RetryStorage.empty, OrderedMap.keys, OrderedMap.empty]
  values := holds_nil _ _

theorem mem_row_iff (h : Stores storage m) (hid : userId ≠ 0) :
    userId ∈ storage.row ↔ userId ∈ m.keys := by
  rw [mem_row, h.mem_keys_iff hid]

theorem votes_eq (h : Stores storage m) : storage.votes = m.keys := by
  have hkept : m.keys.filter (fun userId => userId ≠ 0) = m.keys := by
    apply List.filter_eq_self.mpr
    intro userId hmem
    exact decide_eq_true fun hzero => h.unmarked (hzero ▸ hmem)
  rw [votes, row, h.read_row, List.filter_append, hkept]
  simp

theorem retryStorage_of_split (h : Stores storage m) {t : U32} {before after : List (U16 × U32)}
    (hsplit : m.entries = before ++ (userId, t) :: after) :
    storage.retryStorage before.length = userId := by
  have hlt : before.length < m.entries.length := by simp [hsplit]
  rw [h.key_of_lt hlt]
  simp [hsplit]

/-- The vote stands in its place and nowhere before. -/
theorem find_of_split (h : Stores storage m) {t : U32} {before after : List (U16 × U32)}
    (hsplit : m.entries = before ++ (userId, t) :: after) :
    storage.find userId = some before.length := by
  have hlength : before.length < m.entries.length := by simp [hsplit]
  rw [find_eq_some]
  refine ⟨h.retryStorage_of_split hsplit, hlength.trans_le h.fits, ?_⟩
  intro j hj heq
  rw [h.key_of_lt (hj.trans hlength)] at heq
  apply (OrderedMap.not_mem_of_split hsplit).1
  rw [← heq]
  simp only [hsplit, List.getElem_append_left hj]
  exact List.mem_map_of_mem (List.getElem_mem hj)

theorem find_of_not_mem (h : Stores storage m) (hid : userId ≠ 0) (hnot : userId ∉ m.keys) :
    storage.find userId = none := by
  rw [find_eq_none, h.mem_row_iff hid]
  exact hnot

theorem find_free (h : Stores storage m) (hroom : m.entries.length < maxRetryStorageSize) :
    storage.find 0 = some m.entries.length := by
  rw [find_eq_some]
  refine ⟨h.mark_of_ge (Nat.le_refl _) hroom, hroom, ?_⟩
  intro j hj heq
  rw [h.key_of_lt hj] at heq
  exact h.unmarked (heq ▸ List.mem_map_of_mem (List.getElem_mem hj))

theorem full_iff_length (h : Stores storage m) :
    storage.retryStorageIsFull = true ↔ m.keys.length = maxRetryStorageSize := by
  unfold retryStorageIsFull
  rw [decide_eq_true_eq, h.full_iff (by decide), OrderedMap.length_keys]

/-! ### Each operation -/

/-- A vote that is there gets a new time. -/
theorem putInTimeStorage (h : Stores storage m) {t : U32} {before after : List (U16 × U32)}
    (hsplit : m.entries = before ++ (userId, t) :: after) (globalTime : U64) :
    Stores (storage.putInTimeStorage globalTime before.length)
      (m.put userId (voteTime globalTime)) := by
  have hmem : userId ∈ m.keys := OrderedMap.mem_keys.mpr ⟨t, by simp [hsplit]⟩
  have hkeys : (m.put userId (voteTime globalTime)).keys = m.keys := by
    rw [OrderedMap.keys_put, if_pos hmem]
  have hentries : (m.put userId (voteTime globalTime)).entries =
      before ++ (userId, voteTime globalTime) :: after := OrderedMap.put_of_split hsplit
  have hlength : (m.put userId (voteTime globalTime)).entries.length = m.entries.length := by
    rw [← OrderedMap.length_keys, hkeys, OrderedMap.length_keys]
  refine ⟨hlength ▸ h.fits, hkeys ▸ h.unmarked, ?_, ?_⟩
  · rw [hkeys, hlength]
    exact h.keys
  · have hvalues := h.values
    rw [OrderedMap.values, hsplit] at hvalues
    have hset := hvalues.overwrite_set before.length (voteTime globalTime)
    have hassigned : (before.map Prod.snd ++ t :: after.map Prod.snd).set before.length
        (voteTime globalTime) = (m.put userId (voteTime globalTime)).values := by
      rw [OrderedMap.values, hentries]
      simp
    rw [List.map_append, List.map_cons, hassigned, Nat.zero_add] at hset
    exact hset

/-- A new vote is stored behind the others. -/
theorem insert (h : Stores storage m) (hid : userId ≠ 0) (hnot : userId ∉ m.keys)
    (hroom : m.entries.length < maxRetryStorageSize) (globalTime : U64) :
    Stores (storage.insert globalTime userId) (m.put userId (voteTime globalTime)) := by
  have hkeys : (m.put userId (voteTime globalTime)).keys = m.keys ++ [userId] := by
    rw [OrderedMap.keys_put, if_neg hnot]
  have hentries : (m.put userId (voteTime globalTime)).entries =
      m.entries ++ [(userId, voteTime globalTime)] := if_neg hnot
  have hinserted : storage.insert globalTime userId =
      ⟨overwrite storage.retryStorage m.entries.length [userId],
        overwrite storage.timeStorage m.entries.length [voteTime globalTime]⟩ := by
    rw [RetryStorage.insert, h.find_free hroom]
    rfl
  have hfree : maxRetryStorageSize - m.entries.length =
      maxRetryStorageSize - (m.entries.length + 1) + 1 := by omega
  rw [hinserted]
  constructor
  · rw [hentries, List.length_append, List.length_singleton]
    exact hroom
  · rw [hkeys, List.mem_append, List.mem_singleton]
    rintro (hold | hnew)
    · exact h.unmarked hold
    · exact hid hnew.symm
  · -- the first of the free elements gets the vote
    have hset := h.keys.overwrite_set m.entries.length userId
    rw [List.set_append_right _ _ (by rw [OrderedMap.length_keys]), OrderedMap.length_keys,
      Nat.sub_self, hfree, List.replicate_succ, List.set_cons_zero, Nat.zero_add] at hset
    rw [hkeys, hentries, List.length_append, List.length_singleton, List.append_assoc,
      List.singleton_append]
    exact hset
  · rw [OrderedMap.values, hentries, List.map_append, List.map_singleton, holds_append,
      List.length_map, Nat.zero_add]
    have hlength : m.values.length = m.entries.length := List.length_map _
    exact ⟨h.values.overwrite_after _ (by omega), holds_overwrite _ _ _⟩

/-- The elements that the first loop of `removeFromRetryStorage` finds. -/
theorem filter_range_of_split (h : Stores storage m) {t : U32} {before after : List (U16 × U32)}
    (hsplit : m.entries = before ++ (userId, t) :: after) :
    (List.range maxRetryStorageSize).filter (fun i => storage.retryStorage i = userId) =
      [before.length] := by
  have hfind := find_eq_some.mp (h.find_of_split hsplit)
  have hid : userId ≠ 0 := by
    rintro rfl
    exact h.unmarked (OrderedMap.mem_keys.mpr ⟨t, by simp [hsplit]⟩)
  apply List.perm_singleton.mp
  rw [List.perm_ext_iff_of_nodup (List.nodup_range.filter _) (List.nodup_singleton _)]
  intro i
  rw [List.mem_filter, List.mem_range, decide_eq_true_eq, List.mem_singleton]
  constructor
  · rintro ⟨hi, heq⟩
    by_cases hlt : i < m.entries.length
    · -- no two entries have the same id
      have hplace : before.length < m.entries.length := by simp [hsplit]
      rw [h.key_of_lt hlt, ← hfind.1, h.key_of_lt hplace] at heq
      have hentry := List.inj_on_of_nodup_map m.nodup (List.getElem_mem hlt)
        (List.getElem_mem hplace) heq
      exact m.nodup.of_map.getElem_inj_iff.mp hentry
    · exact absurd (heq.symm.trans (h.mark_of_ge (by omega) hi)) hid
  · rintro rfl
    exact ⟨hfind.2.1, hfind.1⟩

theorem values_remove (h : Stores storage m) (hid : userId ≠ 0) :
    Holds (storage.removeFromRetryStorage userId).timeStorage 0 (m.remove userId).values := by
  rw [timeStorage_remove]
  by_cases hmem : userId ∈ m.keys
  · obtain ⟨before, t, after, hsplit⟩ := OrderedMap.exists_split hmem
    have hvalues := h.values
    have hfits := h.fits
    rw [OrderedMap.values, hsplit, List.map_append, List.map_cons] at hvalues
    rw [hsplit, List.length_append, List.length_cons] at hfits
    have hcleared := hvalues.overwrite_set before.length 0
    rw [List.set_append_right _ _ (by rw [List.length_map]), List.length_map, Nat.sub_self,
      List.set_cons_zero, Nat.zero_add] at hcleared
    have hclosed := hcleared.closeGap (maxRetryStorageSize - 1 - before.length) (by
      rw [List.length_map]
      omega)
    rw [List.length_map] at hclosed
    rw [h.filter_range_of_split hsplit, OrderedMap.values, OrderedMap.remove_of_split hsplit,
      List.map_append]
    exact hclosed
  · have hnone : (List.range maxRetryStorageSize).filter
        (fun i => storage.retryStorage i = userId) = [] := by
      rw [List.filter_eq_nil_iff]
      intro i hi heq
      rw [List.mem_range] at hi
      rw [decide_eq_true_eq] at heq
      exact hmem ((h.mem_keys_iff hid).mp ⟨i, hi, heq⟩)
    rw [hnone, OrderedMap.values, OrderedMap.remove_of_not_mem hmem]
    exact h.values

/-- The vote is removed from both arrays. -/
theorem removeFromRetryStorage (h : Stores storage m) (hid : userId ≠ 0) :
    Stores (storage.removeFromRetryStorage userId) (m.remove userId) := by
  have hfits := h.fits
  have hkept : storage.row.filter (· ≠ userId) = (m.remove userId).keys ++
      List.replicate (maxRetryStorageSize - m.entries.length) 0 := by
    rw [row, h.read_row, List.filter_append, OrderedMap.keys_remove,
      List.filter_replicate_of_pos (by simpa using hid.symm)]
  have hle : (m.remove userId).entries.length ≤ m.entries.length := List.length_filter_le _ _
  refine ⟨hle.trans hfits, ?_, ?_, h.values_remove hid⟩
  · rw [OrderedMap.keys_remove, List.mem_filter]
    exact fun hmem => h.unmarked hmem.1
  · have hcells := holds_read (storage.removeFromRetryStorage userId).retryStorage 0
      maxRetryStorageSize
    have hrow : Cells.read (storage.removeFromRetryStorage userId).retryStorage 0
        maxRetryStorageSize = _ := row_remove
    rw [hrow, hkept, List.append_assoc, ← List.replicate_add, List.length_append,
      List.length_replicate, OrderedMap.length_keys] at hcells
    have hmarks : maxRetryStorageSize - m.entries.length +
        (maxRetryStorageSize - ((m.remove userId).entries.length +
          (maxRetryStorageSize - m.entries.length))) =
        maxRetryStorageSize - (m.remove userId).entries.length := by omega
    rwa [hmarks] at hcells

theorem getTimeFor_eq (h : Stores storage m) (hid : userId ≠ 0) :
    storage.getTimeFor userId = (m.lookup userId).getD 0 := by
  unfold getTimeFor
  by_cases hmem : userId ∈ m.keys
  · obtain ⟨before, t, after, hsplit⟩ := OrderedMap.exists_split hmem
    have hlookup : m.lookup userId = some t := OrderedMap.lookup_eq_some.mpr (by simp [hsplit])
    have hvalues := h.values
    rw [OrderedMap.values, hsplit, List.map_append, List.map_cons, holds_append, holds_cons,
      List.length_map, Nat.zero_add] at hvalues
    rw [h.find_of_split hsplit, hlookup]
    exact hvalues.2.1
  · rw [h.find_of_not_mem hid hmem, OrderedMap.lookup_eq_none.mpr hmem]
    rfl

theorem retryStorageContains (h : Stores storage m) (hid : userId ≠ 0) (globalTime : U64) :
    (storage.retryStorageContains globalTime userId).2 = decide (userId ∈ m.keys) ∧
      Stores (storage.retryStorageContains globalTime userId).1
        (if userId ∈ m.keys then m.put userId (voteTime globalTime) else m) := by
  unfold RetryStorage.retryStorageContains
  by_cases hmem : userId ∈ m.keys
  · obtain ⟨before, t, after, hsplit⟩ := OrderedMap.exists_split hmem
    rw [h.find_of_split hsplit, if_pos hmem]
    exact ⟨(decide_eq_true hmem).symm, h.putInTimeStorage hsplit globalTime⟩
  · rw [h.find_of_not_mem hid hmem, if_neg hmem]
    exact ⟨(decide_eq_false hmem).symm, h⟩

/-- A vote is taken if it is there already or there is room for it. -/
theorem putInRetryStorage (h : Stores storage m) (hid : userId ≠ 0) (globalTime : U64) :
    (storage.putInRetryStorage globalTime userId).2 =
        decide (userId ∈ m.keys ∨ m.keys.length < maxRetryStorageSize) ∧
      Stores (storage.putInRetryStorage globalTime userId).1
        (if userId ∈ m.keys ∨ m.keys.length < maxRetryStorageSize then
          m.put userId (voteTime globalTime) else m) := by
  have hfits := h.fits
  rw [← OrderedMap.length_keys] at hfits
  have hfull := h.full_iff_length
  rcases storage.put_cases globalTime userId with
    ⟨i, hfind, hput⟩ | ⟨hfind, hisFull, hput⟩ | ⟨hfind, hisFull, hput⟩
  · have hmem : userId ∈ m.keys := by
      by_contra hnot
      rw [h.find_of_not_mem hid hnot] at hfind
      exact absurd hfind (by simp)
    obtain ⟨before, t, after, hsplit⟩ := OrderedMap.exists_split hmem
    obtain rfl := Option.some.inj ((h.find_of_split hsplit).symm.trans hfind)
    rw [hput, if_pos (Or.inl hmem)]
    exact ⟨(decide_eq_true (Or.inl hmem)).symm, h.putInTimeStorage hsplit globalTime⟩
  · rw [find_eq_none, h.mem_row_iff hid] at hfind
    have hnot : ¬ (userId ∈ m.keys ∨ m.keys.length < maxRetryStorageSize) := by
      rw [hfull.mp hisFull]
      exact fun hor => hor.elim hfind (lt_irrefl _)
    rw [hput, if_neg hnot]
    exact ⟨(decide_eq_false hnot).symm, h⟩
  · rw [find_eq_none, h.mem_row_iff hid] at hfind
    have hroom : m.keys.length < maxRetryStorageSize := by
      refine lt_of_le_of_ne hfits fun heq => ?_
      rw [hfull.mpr heq] at hisFull
      exact absurd hisFull (by simp)
    rw [hput, if_pos (Or.inr hroom)]
    refine ⟨(decide_eq_true (Or.inr hroom)).symm, h.insert hid hfind ?_ globalTime⟩
    rwa [OrderedMap.length_keys] at hroom

end Stores

/-! ## Sequences of operations -/

inductive Operation
  | putInRetryStorage (userId : U16) (globalTime : U64)
  | removeFromRetryStorage (userId : U16)
  | retryStorageContains (userId : U16) (globalTime : U64)
  | getTimeFor (userId : U16)

def Operation.vote : Operation → U16
  | .putInRetryStorage userId _ => userId
  | .removeFromRetryStorage userId => userId
  | .retryStorageContains userId _ => userId
  | .getTimeFor userId => userId

def apply (storage : RetryStorage) : Operation → RetryStorage
  | .putInRetryStorage userId globalTime => (storage.putInRetryStorage globalTime userId).1
  | .removeFromRetryStorage userId => storage.removeFromRetryStorage userId
  | .retryStorageContains userId globalTime => (storage.retryStorageContains globalTime userId).1
  | .getTimeFor _ => storage

/-- What the operations mean for a map with room for `maxRetryStorageSize` votes. -/
def applyToMap (m : OrderedMap U16 U32) : Operation → OrderedMap U16 U32
  | .putInRetryStorage userId globalTime =>
      if userId ∈ m.keys ∨ m.keys.length < maxRetryStorageSize then
        m.put userId (voteTime globalTime)
      else m
  | .removeFromRetryStorage userId => m.remove userId
  | .retryStorageContains userId globalTime =>
      if userId ∈ m.keys then m.put userId (voteTime globalTime) else m
  | .getTimeFor _ => m

theorem Stores.apply {m : OrderedMap U16 U32} (h : Stores storage m) {operation : Operation}
    (hid : operation.vote ≠ 0) :
    Stores (storage.apply operation) (applyToMap m operation) := by
  cases operation with
  | putInRetryStorage userId globalTime => exact (h.putInRetryStorage hid globalTime).2
  | removeFromRetryStorage userId => exact h.removeFromRetryStorage hid
  | retryStorageContains userId globalTime => exact (h.retryStorageContains hid globalTime).2
  | getTimeFor userId => exact h

theorem Stores.foldl {m : OrderedMap U16 U32} (h : Stores storage m) {operations : List Operation}
    (hids : ∀ operation ∈ operations, operation.vote ≠ 0) :
    Stores (operations.foldl RetryStorage.apply storage) (operations.foldl applyToMap m) := by
  induction operations generalizing storage m with
  | nil => exact h
  | cons operation rest ih =>
      rw [List.foldl_cons, List.foldl_cons]
      exact ih (h.apply (hids operation List.mem_cons_self))
        fun other hmem => hids other (List.mem_cons_of_mem _ hmem)

/-- The storage behaves as a map: what it keeps of each vote, and what each operation returns
and changes. -/
structure ActsAs (storage : RetryStorage) (m : OrderedMap U16 U32) : Prop where
  row : storage.row = m.keys ++ List.replicate (maxRetryStorageSize - m.keys.length) 0
  nodup : m.keys.Nodup
  nonzero : 0 ∉ m.keys
  full : storage.retryStorageIsFull = true ↔ m.keys.length = maxRetryStorageSize
  time : ∀ userId ≠ 0, storage.getTimeFor userId = (m.lookup userId).getD 0
  put_iff : ∀ userId ≠ 0, ∀ globalTime, (storage.putInRetryStorage globalTime userId).2 = true ↔
    userId ∈ m.keys ∨ m.keys.length < maxRetryStorageSize
  put : ∀ userId ≠ 0, ∀ globalTime, (storage.putInRetryStorage globalTime userId).2 = true →
    (storage.putInRetryStorage globalTime userId).1.votes =
        (if userId ∈ m.keys then m.keys else m.keys ++ [userId]) ∧
      (storage.putInRetryStorage globalTime userId).1.getTimeFor userId = voteTime globalTime ∧
      ∀ other ≠ 0, other ≠ userId →
        (storage.putInRetryStorage globalTime userId).1.getTimeFor other = storage.getTimeFor other
  put_full : ∀ userId ≠ 0, ∀ globalTime,
    (storage.putInRetryStorage globalTime userId).2 = false →
      (storage.putInRetryStorage globalTime userId).1 = storage
  contains_iff : ∀ userId ≠ 0, ∀ globalTime,
    (storage.retryStorageContains globalTime userId).2 = true ↔ userId ∈ m.keys
  contains : ∀ userId ≠ 0, ∀ globalTime,
    (storage.retryStorageContains globalTime userId).1.votes = m.keys ∧
      (userId ∈ m.keys →
        (storage.retryStorageContains globalTime userId).1.getTimeFor userId =
          voteTime globalTime) ∧
      ∀ other ≠ 0, other ≠ userId →
        (storage.retryStorageContains globalTime userId).1.getTimeFor other =
          storage.getTimeFor other
  remove : ∀ userId ≠ 0,
    (storage.removeFromRetryStorage userId).votes = m.keys.filter (· ≠ userId) ∧
      ∀ other ≠ 0, other ≠ userId →
        (storage.removeFromRetryStorage userId).getTimeFor other = storage.getTimeFor other

theorem Stores.actsAs {m : OrderedMap U16 U32} (h : Stores storage m) : ActsAs storage m where
  row := by
    rw [OrderedMap.length_keys]
    exact h.read_row
  nodup := m.nodup
  nonzero := h.unmarked
  full := h.full_iff_length
  time := fun userId hid => h.getTimeFor_eq hid
  put_iff := by
    intro userId hid globalTime
    rw [(h.putInRetryStorage hid globalTime).1, decide_eq_true_eq]
  put := by
    intro userId hid globalTime htrue
    obtain ⟨hresult, hstores⟩ := h.putInRetryStorage hid globalTime
    rw [hresult, decide_eq_true_eq] at htrue
    rw [if_pos htrue] at hstores
    refine ⟨?_, ?_, ?_⟩
    · rw [hstores.votes_eq, OrderedMap.keys_put]
    · rw [hstores.getTimeFor_eq hid, OrderedMap.lookup_put, if_pos rfl, Option.getD_some]
    · intro other hother hne
      rw [hstores.getTimeFor_eq hother, h.getTimeFor_eq hother, OrderedMap.lookup_put, if_neg hne]
  put_full := by
    intro userId hid globalTime hfalse
    rcases storage.put_cases globalTime userId with
      ⟨i, _, hput⟩ | ⟨_, _, hput⟩ | ⟨_, _, hput⟩
    · rw [hput] at hfalse
      exact absurd hfalse (by simp)
    · rw [hput]
    · rw [hput] at hfalse
      exact absurd hfalse (by simp)
  contains_iff := by
    intro userId hid globalTime
    rw [(h.retryStorageContains hid globalTime).1, decide_eq_true_eq]
  contains := by
    intro userId hid globalTime
    have hstores := (h.retryStorageContains hid globalTime).2
    by_cases hmem : userId ∈ m.keys
    · rw [if_pos hmem] at hstores
      refine ⟨?_, fun _ => ?_, ?_⟩
      · rw [hstores.votes_eq, OrderedMap.keys_put, if_pos hmem]
      · rw [hstores.getTimeFor_eq hid, OrderedMap.lookup_put, if_pos rfl, Option.getD_some]
      · intro other hother hne
        rw [hstores.getTimeFor_eq hother, h.getTimeFor_eq hother, OrderedMap.lookup_put,
          if_neg hne]
    · rw [if_neg hmem] at hstores
      refine ⟨hstores.votes_eq, fun hin => absurd hin hmem, ?_⟩
      intro other hother _
      rw [hstores.getTimeFor_eq hother, h.getTimeFor_eq hother]
  remove := by
    intro userId hid
    have hstores := h.removeFromRetryStorage hid
    refine ⟨?_, ?_⟩
    · rw [hstores.votes_eq, OrderedMap.keys_remove]
    · intro other hother hne
      rw [hstores.getTimeFor_eq hother, h.getTimeFor_eq hother, OrderedMap.lookup_remove,
        if_neg hne]

/-- **The votes are a map in the order of insertion.**  After any operations on zeroed arrays,
the storage acts as the map that the same operations make. -/
theorem actsAs_orderedMap {operations : List Operation}
    (hids : ∀ operation ∈ operations, operation.vote ≠ 0) :
    ActsAs (operations.foldl apply RetryStorage.empty) (operations.foldl applyToMap .empty) :=
  (Stores.empty.foldl hids).actsAs

/-- Of three votes the one in the middle is removed, and the first one comes again. -/
theorem actsAs_orderedMap_removed :
    let operations : List Operation := [.putInRetryStorage 7 32768, .putInRetryStorage 8 65536,
      .putInRetryStorage 9 98304, .removeFromRetryStorage 8, .putInRetryStorage 7 131072]
    ActsAs (operations.foldl apply RetryStorage.empty) (operations.foldl applyToMap .empty) :=
  actsAs_orderedMap (by decide)

end RetryStorage

end FruityMesh.Mesh
