import FruityMesh.Library.Cells
import Mathlib.Data.List.Nodup

/-!
# Maps in the order of insertion

An `OrderedMap` is a list of keys with their values, no key twice, the oldest key first.  A new
key goes to the end, and a key that is put again keeps its place.

`StoredIn` says that two rows of cells store such a map: the keys are followed by marks of empty
cells up to the end of the row, and the values stand in the same places as their keys.  What
lies in the other row behind them does not matter.
-/

namespace FruityMesh

open Cells

structure OrderedMap (K T : Type*) where
  entries : List (K × T)
  nodup : (entries.map Prod.fst).Nodup

namespace OrderedMap

variable {K T : Type*}

def keys (m : OrderedMap K T) : List K := m.entries.map Prod.fst

def values (m : OrderedMap K T) : List T := m.entries.map Prod.snd

def empty : OrderedMap K T := ⟨[], List.nodup_nil⟩

@[simp] theorem length_keys (m : OrderedMap K T) : m.keys.length = m.entries.length :=
  List.length_map _

theorem mem_keys {m : OrderedMap K T} {k : K} : k ∈ m.keys ↔ ∃ t, (k, t) ∈ m.entries := by
  simp [keys]

/-- No other entry has the key. -/
theorem not_mem_of_split {m : OrderedMap K T} {k : K} {t : T} {before after : List (K × T)}
    (h : m.entries = before ++ (k, t) :: after) :
    k ∉ before.map Prod.fst ∧ k ∉ after.map Prod.fst := by
  have hnodup := m.nodup
  rw [h, List.map_append, List.map_cons, List.nodup_middle, List.nodup_cons] at hnodup
  rw [← not_or, ← List.mem_append]
  exact hnodup.1

theorem exists_split {m : OrderedMap K T} {k : K} (h : k ∈ m.keys) :
    ∃ before t after, m.entries = before ++ (k, t) :: after := by
  obtain ⟨t, ht⟩ := mem_keys.mp h
  obtain ⟨before, after, hsplit⟩ := List.append_of_mem ht
  exact ⟨before, t, after, hsplit⟩

section Operations

variable [DecidableEq K]

def lookup (m : OrderedMap K T) (k : K) : Option T :=
  (m.entries.find? fun e => e.1 = k).map Prod.snd

/-- Give the value to one key. -/
def assign (entries : List (K × T)) (k : K) (t : T) : List (K × T) :=
  entries.map fun e => if e.1 = k then (k, t) else e

theorem map_fst_assign (entries : List (K × T)) (k : K) (t : T) :
    (assign entries k t).map Prod.fst = entries.map Prod.fst := by
  rw [assign, List.map_map]
  apply List.map_congr_left
  intro e _
  simp only [Function.comp]
  split_ifs with he
  · exact he.symm
  · rfl

theorem assign_eq_self {entries : List (K × T)} {k : K} (h : k ∉ entries.map Prod.fst) (t : T) :
    assign entries k t = entries := by
  unfold assign
  conv_rhs => rw [← List.map_id entries]
  apply List.map_congr_left
  intro e he
  have hne : e.1 ≠ k := fun heq => h (heq ▸ List.mem_map_of_mem he)
  exact if_neg hne

/-- A key that is there keeps its place, a new one goes to the end. -/
def put (m : OrderedMap K T) (k : K) (t : T) : OrderedMap K T where
  entries := if k ∈ m.keys then assign m.entries k t else m.entries ++ [(k, t)]
  nodup := by
    split_ifs with h
    · rw [map_fst_assign]
      exact m.nodup
    · rw [List.map_append, List.nodup_append]
      refine ⟨m.nodup, List.nodup_singleton _, ?_⟩
      intro k' hk' k'' hk'' heq
      rw [List.map_singleton, List.mem_singleton] at hk''
      rw [heq, hk''] at hk'
      exact h hk'

def remove (m : OrderedMap K T) (k : K) : OrderedMap K T where
  entries := m.entries.filter fun e => e.1 ≠ k
  nodup := m.nodup.sublist (List.filter_sublist.map Prod.fst)

/-! ## Keys -/

variable {m : OrderedMap K T} {k k' : K} {t t' : T}

theorem keys_put : (m.put k t).keys = if k ∈ m.keys then m.keys else m.keys ++ [k] := by
  unfold put keys
  dsimp only
  split_ifs with h
  · exact map_fst_assign _ _ _
  · rw [List.map_append, List.map_singleton]

theorem keys_remove : (m.remove k).keys = m.keys.filter fun k' => k' ≠ k := by
  unfold remove keys
  rw [List.filter_map]
  rfl

theorem put_of_split {before after : List (K × T)} (h : m.entries = before ++ (k, t) :: after) :
    (m.put k t').entries = before ++ (k, t') :: after := by
  obtain ⟨hbefore, hafter⟩ := not_mem_of_split h
  have hmem : k ∈ m.keys := mem_keys.mpr ⟨t, by simp [h]⟩
  have hsame : assign before k t' = before := assign_eq_self hbefore t'
  have hsame' : assign after k t' = after := assign_eq_self hafter t'
  unfold put
  dsimp only
  rw [if_pos hmem, h]
  calc assign (before ++ (k, t) :: after) k t'
      = assign before k t' ++ (k, t') :: assign after k t' := by simp [assign]
    _ = before ++ (k, t') :: after := by rw [hsame, hsame']

theorem remove_of_split {before after : List (K × T)} (h : m.entries = before ++ (k, t) :: after) :
    (m.remove k).entries = before ++ after := by
  obtain ⟨hbefore, hafter⟩ := not_mem_of_split h
  have hkept : ∀ {entries : List (K × T)}, k ∉ entries.map Prod.fst →
      entries.filter (fun e => e.1 ≠ k) = entries := by
    intro entries hnot
    apply List.filter_eq_self.mpr
    intro e he
    exact decide_eq_true fun heq => hnot (heq ▸ List.mem_map_of_mem he)
  unfold remove
  dsimp only
  rw [h, List.filter_append, List.filter_cons_of_neg (by simp), hkept hbefore, hkept hafter]

theorem remove_of_not_mem (h : k ∉ m.keys) : (m.remove k).entries = m.entries := by
  apply List.filter_eq_self.mpr
  intro e he
  exact decide_eq_true fun heq => h (heq ▸ List.mem_map_of_mem he)

/-! ## Values -/

theorem lookup_eq_some : m.lookup k = some t ↔ (k, t) ∈ m.entries := by
  unfold lookup
  rw [Option.map_eq_some_iff]
  constructor
  · rintro ⟨e, he, rfl⟩
    have hkey : e.1 = k := by simpa using List.find?_some he
    rw [← hkey]
    exact List.mem_of_find?_eq_some he
  · intro hmem
    obtain ⟨before, after, hsplit⟩ := List.append_of_mem hmem
    have hbefore := (not_mem_of_split hsplit).1
    refine ⟨(k, t), ?_, rfl⟩
    rw [List.find?_eq_some_iff_append]
    refine ⟨decide_eq_true rfl, before, after, hsplit, ?_⟩
    intro e he
    have hne : e.1 ≠ k := fun heq => hbefore (heq ▸ List.mem_map_of_mem he)
    simp [hne]

theorem lookup_eq_none : m.lookup k = none ↔ k ∉ m.keys := by
  rw [Option.eq_none_iff_forall_ne_some, mem_keys, not_exists]
  exact forall_congr' fun t => not_congr lookup_eq_some

theorem mem_put : (k', t') ∈ (m.put k t).entries ↔
    (k' = k ∧ t' = t) ∨ (k' ≠ k ∧ (k', t') ∈ m.entries) := by
  by_cases hk : k ∈ m.keys
  · obtain ⟨before, t₀, after, hsplit⟩ := exists_split hk
    obtain ⟨hbefore, hafter⟩ := not_mem_of_split hsplit
    have hother : ∀ {entries : List (K × T)}, k ∉ entries.map Prod.fst →
        (k', t') ∈ entries → k' ≠ k := by
      rintro entries hnot hmem rfl
      exact hnot (List.mem_map_of_mem hmem)
    rw [put_of_split hsplit, hsplit]
    simp only [List.mem_append, List.mem_cons, Prod.mk.injEq]
    constructor
    · rintro (h | h | h)
      · exact Or.inr ⟨hother hbefore h, Or.inl h⟩
      · exact Or.inl h
      · exact Or.inr ⟨hother hafter h, Or.inr (Or.inr h)⟩
    · rintro (h | ⟨hne, h | ⟨heq, _⟩ | h⟩)
      · exact Or.inr (Or.inl h)
      · exact Or.inl h
      · exact absurd heq hne
      · exact Or.inr (Or.inr h)
  · have hentries : (m.put k t).entries = m.entries ++ [(k, t)] := if_neg hk
    rw [hentries, List.mem_append, List.mem_singleton, Prod.mk.injEq]
    constructor
    · rintro (h | h)
      · refine Or.inr ⟨?_, h⟩
        rintro rfl
        exact hk (mem_keys.mpr ⟨t', h⟩)
      · exact Or.inl h
    · rintro (h | ⟨_, h⟩)
      · exact Or.inr h
      · exact Or.inl h

theorem mem_remove : (k', t') ∈ (m.remove k).entries ↔ k' ≠ k ∧ (k', t') ∈ m.entries := by
  unfold remove
  rw [List.mem_filter, decide_eq_true_eq, and_comm]

theorem lookup_put : (m.put k t).lookup k' = if k' = k then some t else m.lookup k' := by
  apply Option.ext
  intro t'
  rw [lookup_eq_some, mem_put]
  split_ifs with h
  · simp [h, eq_comm]
  · simp [h, lookup_eq_some]

theorem lookup_remove : (m.remove k).lookup k' = if k' = k then none else m.lookup k' := by
  apply Option.ext
  intro t'
  rw [lookup_eq_some, mem_remove]
  split_ifs with h
  · simp [h]
  · simp [h, lookup_eq_some]

end Operations

/-! ## Rows of cells -/

/-- The first row stores the keys, with marks behind them, and the second the values. -/
structure StoredIn (m : OrderedMap K T) (size : ℕ) (mark : K) (row : ℕ → K) (row' : ℕ → T) :
    Prop where
  fits : m.entries.length ≤ size
  unmarked : mark ∉ m.keys
  keys : Holds row 0 (m.keys ++ List.replicate (size - m.entries.length) mark)
  values : Holds row' 0 m.values

namespace StoredIn

variable {m : OrderedMap K T} {size : ℕ} {mark k : K} {row : ℕ → K} {row' : ℕ → T}

theorem length_row (h : StoredIn m size mark row row') :
    (m.keys ++ List.replicate (size - m.entries.length) mark).length = size := by
  have := h.fits
  rw [List.length_append, List.length_replicate, length_keys]
  omega

/-- The row read as a list. -/
theorem read_row (h : StoredIn m size mark row row') :
    read row 0 size = m.keys ++ List.replicate (size - m.entries.length) mark := by
  have hread := h.keys.read_eq
  rwa [h.length_row] at hread

/-- The marks. -/
theorem mark_of_ge (h : StoredIn m size mark row row') {i : ℕ} (hi : m.entries.length ≤ i)
    (hsize : i < size) : row i = mark := by
  have hmarks := (holds_append.mp h.keys).2 (i - m.entries.length) (by
    rw [List.length_replicate]
    omega)
  rw [length_keys, List.getElem_replicate] at hmarks
  rw [← hmarks]
  congr 1
  omega

theorem key_of_lt (h : StoredIn m size mark row row') {i : ℕ} (hi : i < m.entries.length) :
    row i = m.entries[i].1 := by
  have hkey := (holds_append.mp h.keys).1 i (by rwa [length_keys])
  rw [Nat.zero_add] at hkey
  rw [hkey]
  exact List.getElem_map _

theorem mem_keys_iff (h : StoredIn m size mark row row') (hk : k ≠ mark) :
    (∃ i < size, row i = k) ↔ k ∈ m.keys := by
  constructor
  · rintro ⟨i, hi, rfl⟩
    by_cases hlt : i < m.entries.length
    · rw [h.key_of_lt hlt]
      exact List.mem_map_of_mem (List.getElem_mem hlt)
    · exact absurd (h.mark_of_ge (by omega) hi) hk
  · intro hmem
    obtain ⟨i, hi, rfl⟩ := List.mem_iff_getElem.mp hmem
    rw [length_keys] at hi
    exact ⟨i, hi.trans_le h.fits, by rw [h.key_of_lt hi]; exact (List.getElem_map _).symm⟩

/-- The row is full exactly if its last cell is not marked. -/
theorem full_iff (h : StoredIn m size mark row row') (hsize : 0 < size) :
    row (size - 1) ≠ mark ↔ m.entries.length = size := by
  have hfits := h.fits
  constructor
  · intro hlast
    by_contra hne
    exact hlast (h.mark_of_ge (by omega) (by omega))
  · intro hfull hlast
    have hi : size - 1 < m.entries.length := by omega
    rw [h.key_of_lt hi] at hlast
    exact h.unmarked (hlast ▸ List.mem_map_of_mem (List.getElem_mem hi))

end StoredIn

end OrderedMap

end FruityMesh
