import FruityMesh.Library.Cells

/-!
# Loops over rows of cells

What is left in a row of cells by the loops that programs keep arrays dense with: moving what
lies behind a gap one cell forward (`closeGap`), copying a row cell by cell (`copyRow`), storing
elements one by one (`storeEach`), and collecting the elements that are kept at the start of
another row (`collect`).
-/

namespace Cells

variable {α : Type*}

/-! ## Closing a gap -/

/-- Copy each of the cells from `gap + 1` to `gap + count` one cell forward. -/
def closeGap (cell : ℕ → α) (gap count : ℕ) : ℕ → α :=
  (List.range' gap count).foldl (fun cell n => overwrite cell n [cell (n + 1)]) cell

theorem overwrite_singleton (cell : ℕ → α) (i k : ℕ) (x : α) :
    overwrite cell i [x] k = if k = i then x else cell k := by
  rcases Nat.lt_trichotomy k i with hlt | rfl | hgt
  · rw [overwrite_of_lt _ _ hlt, if_neg (by omega)]
  · rw [if_pos rfl]
    exact holds_overwrite cell k [x] 0 (by simp)
  · rw [overwrite_of_ge _ (by simp; omega), if_neg (by omega)]

theorem closeGap_apply (cell : ℕ → α) (gap count k : ℕ) :
    closeGap cell gap count k = if gap ≤ k ∧ k < gap + count then cell (k + 1) else cell k := by
  unfold closeGap
  induction count generalizing cell gap with
  | zero => exact (if_neg (by omega)).symm
  | succ count ih =>
      rw [List.range'_succ, List.foldl_cons, ih, overwrite_singleton, overwrite_singleton]
      split_ifs
      all_goals first | omega | rfl | (congr 1; omega)

theorem Holds.closeGap {cell : ℕ → α} {before after : List α} {x : α}
    (h : Holds cell 0 (before ++ x :: after)) (count : ℕ) (hcount : after.length ≤ count) :
    Holds (closeGap cell before.length count) 0 (before ++ after) := by
  rw [holds_append, holds_cons, Nat.zero_add] at h
  obtain ⟨hbefore, _, hafter⟩ := h
  rw [holds_append, Nat.zero_add]
  constructor
  · apply hbefore.congr
    intro i _ hi
    rw [closeGap_apply, if_neg (by omega)]
  · intro k hk
    rw [closeGap_apply, if_pos (by omega), ← hafter k hk]
    congr 1
    omega

/-! ## Copying a row -/

theorem read_succ_last (cell : ℕ → α) (start length : ℕ) :
    read cell start (length + 1) = read cell start length ++ [cell (start + length)] := by
  simp [read, List.range_succ]

theorem copyRow (row source : ℕ → α) (length : ℕ) :
    (List.range length).foldl (fun row i => overwrite row i [source i]) row =
      overwrite row 0 (read source 0 length) := by
  induction length with
  | zero =>
      funext k
      simp [read, overwrite]
  | succ length ih =>
      rw [List.range_succ, List.foldl_append, ih, List.foldl_cons, List.foldl_nil, read_succ_last,
        ← overwrite_append, length_read, Nat.zero_add]

/-! ## Storing one by one -/

/-- Store each element in a cell of its own. -/
def Memory.storeEach (memory : Memory α) (start : ℕ) : List α → Memory α
  | [] => memory
  | x :: xs => (memory.store start [x]).storeEach (start + 1) xs

theorem overwrite_nil (cell : ℕ → α) (start : ℕ) : overwrite cell start [] = cell := by
  funext i
  simp [overwrite]

@[simp] theorem storeEach_cell (memory : Memory α) (start : ℕ) (xs : List α) :
    (memory.storeEach start xs).cell = overwrite memory.cell start xs := by
  induction xs generalizing memory start with
  | nil => exact (overwrite_nil _ _).symm
  | cons x xs ih =>
      rw [Memory.storeEach, ih, Memory.store_cell, ← List.length_singleton (a := x),
        overwrite_append, List.singleton_append]

theorem accessesWithin_storeEach_iff {size : ℕ} {memory : Memory α} {start : ℕ} {xs : List α} :
    (memory.storeEach start xs).AccessesWithin size ↔
      memory.AccessesWithin size ∧ (xs = [] ∨ start + xs.length ≤ size) := by
  induction xs generalizing memory start with
  | nil => simp [Memory.storeEach]
  | cons x xs ih =>
      rw [Memory.storeEach, ih, Memory.accessesWithin_store_iff]
      simp only [List.length_cons, List.length_nil, List.cons_ne_nil, false_or, and_assoc,
        and_congr_right_iff]
      intro _
      constructor
      · rintro ⟨hfirst, rfl | hrest⟩
        · exact hfirst
        · omega
      · exact fun hall => ⟨by omega, Or.inr (by omega)⟩

theorem storeEach_append (memory : Memory α) (start : ℕ) (xs ys : List α) :
    memory.storeEach start (xs ++ ys) =
      (memory.storeEach start xs).storeEach (start + xs.length) ys := by
  induction xs generalizing memory start with
  | nil => rfl
  | cons x xs ih =>
      rw [List.cons_append, Memory.storeEach, ih, List.length_cons, Nat.add_comm xs.length 1,
        ← Nat.add_assoc]
      rfl

/-- A loop that stores what belongs to its index. -/
theorem foldl_store_eq_storeEach (f : ℕ → α) (memory : Memory α) (start length : ℕ) :
    (List.range length).foldl (fun memory i => memory.store (start + i) [f i]) memory =
      memory.storeEach start ((List.range length).map f) := by
  induction length with
  | zero => rfl
  | succ length ih =>
      rw [List.range_succ, List.foldl_append, ih, List.map_append, storeEach_append,
        List.length_map, List.length_range]
      rfl

/-! ## Collecting what is kept -/

/-- Append the element of a cell to what has been collected. -/
def collect (p : α → Bool) (cell : ℕ → α) (state : (ℕ → α) × ℕ) (i : ℕ) : (ℕ → α) × ℕ :=
  if p (cell i) then (overwrite state.1 state.2 [cell i], state.2 + 1) else state

theorem foldl_collect (p : α → Bool) (cell row : ℕ → α) (length : ℕ) :
    (List.range length).foldl (collect p cell) (row, 0) =
      (overwrite row 0 ((read cell 0 length).filter p), ((read cell 0 length).filter p).length) := by
  induction length with
  | zero =>
      apply Prod.ext
      · funext k
        simp [read, overwrite]
      · simp [read]
  | succ length ih =>
      rw [List.range_succ, List.foldl_append, ih, List.foldl_cons, List.foldl_nil, read_succ_last,
        List.filter_append, collect, Nat.zero_add]
      dsimp only
      split_ifs with h
      · rw [List.filter_cons_of_pos h, List.filter_nil, ← overwrite_append, Nat.zero_add,
          List.length_append, List.length_singleton]
      · rw [List.filter_cons_of_neg h, List.filter_nil, List.append_nil]

/-- Behind what has been collected the row is as it was. -/
theorem holds_overwrite_blank (x : α) (xs : List α) (count : ℕ) :
    Holds (overwrite (fun _ => x) 0 xs) 0 (xs ++ List.replicate count x) := by
  rw [holds_append, Nat.zero_add]
  refine ⟨holds_overwrite _ 0 xs, ?_⟩
  intro k hk
  rw [overwrite_of_ge _ (by omega), List.getElem_replicate]

end Cells
