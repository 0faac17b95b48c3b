import Mathlib.Data.List.Basic
import Mathlib.Data.List.GetD
import Mathlib.Tactic.Ring

/-!
# Numbered cells and the accesses made to them

A `Memory α` is an unbounded row of cells together with the list of accesses
that a program has made to it.  A buffer of `size` cells is the part below
index `size`; nothing stops an access from going past it, and
`Span.Within size` says that one did not.

Contents are described by `Holds cell start xs`: the cells from `start` on are
the elements of `xs`.  The lemmas below say how `Holds` splits over `++` and
when a store leaves it alone, so that users never index into lists.
-/

namespace Cells

variable {α : Type*}

/-- The cells `start, …, start + length - 1`. -/
structure Span where
  start : ℕ
  length : ℕ
  deriving DecidableEq, Repr

namespace Span

/-- The index `i` is one of the cells of the span. -/
def Contains (span : Span) (i : ℕ) : Prop :=
  span.start ≤ i ∧ i < span.start + span.length

/-- The span ends at or before cell `size`. -/
def Within (size : ℕ) (span : Span) : Prop :=
  span.start + span.length ≤ size

/-- The other span is part of this one. -/
def Covers (outer inner : Span) : Prop :=
  outer.start ≤ inner.start ∧ inner.start + inner.length ≤ outer.start + outer.length

/-- No cell belongs to both spans. -/
def Disjoint (first second : Span) : Prop :=
  ∀ i, first.Contains i → ¬ second.Contains i

instance (size : ℕ) (span : Span) : Decidable (span.Within size) :=
  inferInstanceAs (Decidable (_ ≤ _))

theorem disjoint_of_le {first second : Span}
    (h : first.start + first.length ≤ second.start) : first.Disjoint second := by
  intro i hfirst hsecond
  have := hfirst.2
  have := hsecond.1
  omega

theorem disjoint_of_ge {first second : Span}
    (h : second.start + second.length ≤ first.start) : first.Disjoint second := by
  intro i hfirst hsecond
  have := hfirst.1
  have := hsecond.2
  omega

end Span

/-- Cells with the loads and stores made so far, oldest first. -/
structure Memory (α : Type*) where
  cell : ℕ → α
  loads : List Span
  stores : List Span

/-- The cells from `start` on are the elements of `xs`. -/
def Holds (cell : ℕ → α) (start : ℕ) (xs : List α) : Prop :=
  ∀ (k : ℕ) (hk : k < xs.length), cell (start + k) = xs[k]

/-- Overwrite the cells from `start` on with `xs`. -/
def overwrite (cell : ℕ → α) (start : ℕ) (xs : List α) : ℕ → α :=
  fun i => if start ≤ i then (xs[i - start]?).getD (cell i) else cell i

/-- The `length` cells from `start` on. -/
def read (cell : ℕ → α) (start length : ℕ) : List α :=
  (List.range length).map fun k => cell (start + k)

namespace Memory

/-- Load `length` cells: the value is `read`, and the access is recorded. -/
def load (memory : Memory α) (start length : ℕ) : Memory α :=
  { memory with loads := memory.loads ++ [⟨start, length⟩] }

/-- Store `xs` from `start` on. -/
def store (memory : Memory α) (start : ℕ) (xs : List α) : Memory α :=
  { memory with
    cell := overwrite memory.cell start xs
    stores := memory.stores ++ [⟨start, xs.length⟩] }

@[simp] theorem load_cell (memory : Memory α) (start length : ℕ) :
    (memory.load start length).cell = memory.cell := rfl

@[simp] theorem load_stores (memory : Memory α) (start length : ℕ) :
    (memory.load start length).stores = memory.stores := rfl

@[simp] theorem load_loads (memory : Memory α) (start length : ℕ) :
    (memory.load start length).loads = memory.loads ++ [⟨start, length⟩] := rfl

@[simp] theorem store_cell (memory : Memory α) (start : ℕ) (xs : List α) :
    (memory.store start xs).cell = overwrite memory.cell start xs := rfl

@[simp] theorem store_loads (memory : Memory α) (start : ℕ) (xs : List α) :
    (memory.store start xs).loads = memory.loads := rfl

@[simp] theorem store_stores (memory : Memory α) (start : ℕ) (xs : List α) :
    (memory.store start xs).stores = memory.stores ++ [⟨start, xs.length⟩] := rfl

/-- Every access made so far stayed below cell `size`. -/
def AccessesWithin (size : ℕ) (memory : Memory α) : Prop :=
  (∀ span ∈ memory.loads, span.Within size) ∧ ∀ span ∈ memory.stores, span.Within size

theorem AccessesWithin.load {size : ℕ} {memory : Memory α} (h : memory.AccessesWithin size)
    {start length : ℕ} (hfit : start + length ≤ size) :
    (memory.load start length).AccessesWithin size := by
  refine ⟨?_, h.2⟩
  intro span hspan
  rcases List.mem_append.mp hspan with hold | hnew
  · exact h.1 span hold
  · rw [List.mem_singleton.mp hnew]
    exact hfit

theorem AccessesWithin.store {size : ℕ} {memory : Memory α} (h : memory.AccessesWithin size)
    {start : ℕ} {xs : List α} (hfit : start + xs.length ≤ size) :
    (memory.store start xs).AccessesWithin size := by
  refine ⟨h.1, ?_⟩
  intro span hspan
  rcases List.mem_append.mp hspan with hold | hnew
  · exact h.2 span hold
  · rw [List.mem_singleton.mp hnew]
    exact hfit

theorem accessesWithin_store_iff {size : ℕ} {memory : Memory α} {start : ℕ} {xs : List α} :
    (memory.store start xs).AccessesWithin size ↔
      memory.AccessesWithin size ∧ start + xs.length ≤ size := by
  constructor
  · intro h
    refine ⟨⟨h.1, fun span hspan => h.2 span ?_⟩, h.2 ⟨start, xs.length⟩ ?_⟩
    · exact List.mem_append_left _ hspan
    · exact List.mem_append_right _ (List.mem_singleton_self _)
  · rintro ⟨hbefore, hfit⟩
    exact hbefore.store hfit

/-- All stores that led from one memory to the other lie in the span. -/
def StoresIn (span : Span) (memory memory' : Memory α) : Prop :=
  ∃ edits, memory'.stores = memory.stores ++ edits ∧ ∀ edit ∈ edits, span.Covers edit

theorem StoresIn.refl (span : Span) (memory : Memory α) : StoresIn span memory memory :=
  ⟨[], (List.append_nil _).symm, by simp⟩

theorem StoresIn.trans {span : Span} {first second third : Memory α}
    (h : StoresIn span first second) (h' : StoresIn span second third) :
    StoresIn span first third := by
  obtain ⟨edits, heq, hedits⟩ := h
  obtain ⟨edits', heq', hedits'⟩ := h'
  refine ⟨edits ++ edits', by rw [heq', heq, List.append_assoc], fun edit hedit => ?_⟩
  rcases List.mem_append.mp hedit with hedit | hedit
  · exact hedits edit hedit
  · exact hedits' edit hedit

theorem StoresIn.store (span : Span) (memory : Memory α) {start : ℕ} {xs : List α}
    (h : span.Covers ⟨start, xs.length⟩) : StoresIn span memory (memory.store start xs) :=
  ⟨[⟨start, xs.length⟩], rfl, by simpa using h⟩

end Memory

/-! ## Contents -/

@[simp] theorem length_read (cell : ℕ → α) (start length : ℕ) :
    (read cell start length).length = length := by
  simp [read]

theorem read_succ (cell : ℕ → α) (start length : ℕ) :
    read cell start (length + 1) = cell start :: read cell (start + 1) length := by
  simp only [read, List.range_succ_eq_map, List.map_cons, List.map_map, Nat.add_zero]
  congr 1
  apply List.map_congr_left
  intro k _
  simp only [Function.comp, Nat.succ_eq_add_one]
  congr 1
  omega

theorem Holds.read_eq {cell : ℕ → α} {start : ℕ} {xs : List α} (h : Holds cell start xs) :
    read cell start xs.length = xs := by
  apply List.ext_getElem (by simp)
  intro k hk hk'
  simpa [read] using h k hk'

theorem Holds.drop {cell : ℕ → α} {start : ℕ} {xs : List α} (h : Holds cell start xs) (n : ℕ) :
    Holds cell (start + n) (xs.drop n) := by
  intro k hk
  rw [List.length_drop] at hk
  rw [List.getElem_drop, Nat.add_assoc]
  exact h (n + k) (by omega)

theorem Holds.read_take {cell : ℕ → α} {start : ℕ} {xs : List α} (h : Holds cell start xs)
    {n : ℕ} (hn : n ≤ xs.length) : read cell start n = xs.take n := by
  have htake : Holds cell start (xs.take n) := by
    intro k hk
    rw [List.getElem_take]
    exact h k (by simp at hk; omega)
  have hread := htake.read_eq
  rwa [List.length_take, Nat.min_eq_left hn] at hread

theorem holds_read (cell : ℕ → α) (start length : ℕ) :
    Holds cell start (read cell start length) := by
  intro k hk
  simp [read]

theorem holds_nil (cell : ℕ → α) (start : ℕ) : Holds cell start [] := by
  intro k hk
  simp at hk

theorem holds_append {cell : ℕ → α} {start : ℕ} {xs ys : List α} :
    Holds cell start (xs ++ ys) ↔ Holds cell start xs ∧ Holds cell (start + xs.length) ys := by
  constructor
  · intro h
    refine ⟨fun k hk => ?_, fun k hk => ?_⟩
    · have := h k (by simp; omega)
      rwa [List.getElem_append_left hk] at this
    · have := h (xs.length + k) (by simp; omega)
      rw [List.getElem_append_right (by omega)] at this
      simpa [Nat.add_assoc] using this
  · rintro ⟨hxs, hys⟩ k hk
    rcases Nat.lt_or_ge k xs.length with hlt | hge
    · rw [List.getElem_append_left hlt]
      exact hxs k hlt
    · rw [List.getElem_append_right hge]
      have := hys (k - xs.length) (by simp at hk; omega)
      rwa [Nat.add_assoc, Nat.add_sub_cancel' hge] at this

theorem holds_cons {cell : ℕ → α} {start : ℕ} {x : α} {xs : List α} :
    Holds cell start (x :: xs) ↔ cell start = x ∧ Holds cell (start + 1) xs := by
  rw [← List.singleton_append, holds_append]
  constructor
  · rintro ⟨hx, hxs⟩
    exact ⟨by simpa using hx 0 (by simp), hxs⟩
  · rintro ⟨hx, hxs⟩
    refine ⟨fun k hk => ?_, hxs⟩
    obtain rfl : k = 0 := by simpa using hk
    simpa using hx

/-! ## Stores -/

theorem overwrite_of_lt (cell : ℕ → α) {start i : ℕ} (xs : List α) (h : i < start) :
    overwrite cell start xs i = cell i := by
  simp [overwrite, Nat.not_le.mpr h]

theorem overwrite_of_ge (cell : ℕ → α) {start i : ℕ} {xs : List α}
    (h : start + xs.length ≤ i) : overwrite cell start xs i = cell i := by
  simp [overwrite, List.getElem?_eq_none (show xs.length ≤ i - start by omega)]

theorem holds_overwrite (cell : ℕ → α) (start : ℕ) (xs : List α) :
    Holds (overwrite cell start xs) start xs := by
  intro k hk
  simp [overwrite, hk]

theorem Holds.overwrite_after {cell : ℕ → α} {start first : ℕ} {xs : List α}
    (h : Holds cell first xs) (ys : List α) (hle : first + xs.length ≤ start) :
    Holds (overwrite cell start ys) first xs := by
  intro k hk
  rw [overwrite_of_lt _ _ (by omega)]
  exact h k hk

theorem Holds.overwrite_before {cell : ℕ → α} {start first : ℕ} {xs ys : List α}
    (h : Holds cell first xs) (hle : start + ys.length ≤ first) :
    Holds (overwrite cell start ys) first xs := by
  intro k hk
  rw [overwrite_of_ge _ (by omega)]
  exact h k hk

theorem Holds.congr {cell cell' : ℕ → α} {start : ℕ} {xs : List α} (h : Holds cell start xs)
    (heq : ∀ i, start ≤ i → i < start + xs.length → cell' i = cell i) : Holds cell' start xs := by
  intro k hk
  rw [heq (start + k) (by omega) (by omega)]
  exact h k hk

/-- Storing one element in the middle. -/
theorem Holds.overwrite_set {cell : ℕ → α} {start : ℕ} {xs : List α} (h : Holds cell start xs)
    (i : ℕ) (x : α) : Holds (overwrite cell (start + i) [x]) start (xs.set i x) := by
  intro k hk
  rw [List.length_set] at hk
  rw [List.getElem_set]
  rcases Nat.lt_trichotomy k i with hlt | rfl | hgt
  · rw [overwrite_of_lt _ _ (by omega), if_neg (by omega)]
    exact h k hk
  · rw [if_pos rfl]
    simp [overwrite]
  · rw [overwrite_of_ge _ (by simp; omega), if_neg (by omega)]
    exact h k hk

/-- Cells that keep their value: a store of the mark `x` keeps marks. -/
theorem Holds.overwrite_replicate {cell : ℕ → α} {first start : ℕ} {x : α} {n m : ℕ}
    (h : Holds cell first (List.replicate n x)) :
    Holds (overwrite cell start (List.replicate m x)) first (List.replicate n x) := by
  intro k hk
  have hcell : cell (first + k) = x := by simpa using h k hk
  have hoverwrite : overwrite cell start (List.replicate m x) (first + k) = x := by
    simp only [overwrite]
    split
    · cases hget : (List.replicate m x)[first + k - start]? with
      | none => simpa using hcell
      | some y =>
          have : y ∈ List.replicate m x := List.mem_of_getElem? hget
          simpa using List.eq_of_mem_replicate this
    · exact hcell
  simpa using hoverwrite

/-- Two adjacent stores are one store. -/
theorem overwrite_append (cell : ℕ → α) (start : ℕ) (xs ys : List α) :
    overwrite (overwrite cell start xs) (start + xs.length) ys =
      overwrite cell start (xs ++ ys) := by
  funext i
  simp only [overwrite]
  by_cases h1 : start + xs.length ≤ i
  · have h2 : start ≤ i := by omega
    rw [if_pos h1, if_pos h2, if_pos h2,
      List.getElem?_append_right (show xs.length ≤ i - start by omega),
      List.getElem?_eq_none (show xs.length ≤ i - start by omega), Nat.sub_sub]
    simp
  · rw [if_neg h1]
    by_cases h2 : start ≤ i
    · rw [if_pos h2, if_pos h2, List.getElem?_append_left (show i - start < xs.length by omega)]
    · rw [if_neg h2, if_neg h2]

end Cells
