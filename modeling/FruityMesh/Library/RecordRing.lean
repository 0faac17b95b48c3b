import FruityMesh.Library.Cells

/-!
# Rings of variable-length records

A ring of `size` cells keeps records of different lengths.  The records stand
one behind the other from the read position on; behind the last one come `width`
cells with the value `mark`, and the write position is the first of them.  When
the space at the end runs out, the writer starts again at cell 0, so that the
records form at most two runs: `front`, from the read position to a mark near the
end, and `back`, from cell 0 to the write position.

`Layout encode mark width cell size readPos writePos xs` says that the cells hold
the records `xs` in this way.  The lemmas give the moves of a ring: a writer
appends behind the write position or turns to cell 0; a reader drops the first
record, stores inside it or, standing on the mark, turns to cell 0.

In a turned ring the mark behind `back` may reach over the read position only
when `front` is empty: there it meets the other mark.  And no record of `front`
may begin with marks, since that is how a reader recognises the end of the run.
-/

namespace RecordRing

open Cells

variable {α β : Type*}

/-- The cells of records standing one behind the other. -/
def run (encode : α → List β) (xs : List α) : List β := xs.flatMap encode

@[simp] theorem run_nil (encode : α → List β) : run encode [] = [] := rfl

@[simp] theorem run_cons (encode : α → List β) (x : α) (xs : List α) :
    run encode (x :: xs) = encode x ++ run encode xs := rfl

@[simp] theorem run_append (encode : α → List β) (xs ys : List α) :
    run encode (xs ++ ys) = run encode xs ++ run encode ys := by
  simp [run]

/-- `xs` are the records of the ring, first to be read first. -/
inductive Layout (encode : α → List β) (mark : β) (width : ℕ) (cell : ℕ → β)
    (size readPos writePos : ℕ) (xs : List α) : Prop
  | straight
      (hwrite : readPos + (run encode xs).length = writePos)
      (hsize : writePos + width ≤ size)
      (hrun : Holds cell readPos (run encode xs ++ List.replicate width mark))
  | turned (front back : List α) (hxs : xs = front ++ back) (hback : back ≠ [])
      (hwrite : (run encode back).length = writePos)
      (hlt : writePos < readPos)
      (hgap : front ≠ [] → writePos + width ≤ readPos)
      (hmark : ∀ x ∈ front, ¬ List.replicate width mark <+: encode x)
      (hsize : readPos + (run encode front).length + width ≤ size)
      (hfront : Holds cell readPos (run encode front ++ List.replicate width mark))
      (hrun : Holds cell 0 (run encode back ++ List.replicate width mark))

variable {encode : α → List β} {mark : β} {width : ℕ} {cell : ℕ → β}
  {size readPos writePos : ℕ} {xs : List α}

/-- A ring without records, with the mark stored at `pos`. -/
theorem Layout.empty {pos : ℕ} (hsize : pos + width ≤ size) :
    Layout encode mark width (overwrite cell pos (List.replicate width mark)) size pos pos [] :=
  .straight (by simp) hsize (by simpa using holds_overwrite cell pos (List.replicate width mark))

/-- The records and one mark fit into the ring. -/
theorem Layout.run_length_le (h : Layout encode mark width cell size readPos writePos xs) :
    (run encode xs).length + width ≤ size := by
  cases h with
  | straight hwrite hsize _ => omega
  | turned front back hxs _ hwrite hlt _ _ hsize _ _ =>
      subst hxs
      simp only [run_append, List.length_append]
      omega

theorem length_le_run (hencode : ∀ x ∈ xs, 0 < (encode x).length) :
    xs.length ≤ (run encode xs).length := by
  induction xs with
  | nil => simp
  | cons x rest ih =>
      have hx := hencode x List.mem_cons_self
      have hrest := ih fun y hy => hencode y (List.mem_cons_of_mem x hy)
      simp only [run_cons, List.length_append, List.length_cons]
      omega

/-! ## The writer -/

/-- Appending behind the write position of a ring that has not turned. -/
theorem Layout.append_straight {x : α}
    (hwrite : readPos + (run encode xs).length = writePos)
    (hrun : Holds cell readPos (run encode xs ++ List.replicate width mark))
    (hfit : writePos + (encode x).length + width ≤ size) :
    Layout encode mark width
      (overwrite cell writePos (encode x ++ List.replicate width mark)) size readPos
      (writePos + (encode x).length) (xs ++ [x]) := by
  subst hwrite
  refine .straight ?_ hfit ?_
  · simp [Nat.add_assoc]
  · have hkeep := (holds_append.mp hrun).1.overwrite_after
      (encode x ++ List.replicate width mark) le_rfl
    have hnew := holds_overwrite cell (readPos + (run encode xs).length)
      (encode x ++ List.replicate width mark)
    simpa [List.append_assoc] using holds_append.mpr ⟨hkeep, hnew⟩

/-- Turning to cell 0: what is left to read becomes the front run. -/
theorem Layout.append_turn {x : α}
    (hwrite : readPos + (run encode xs).length = writePos)
    (hsize : writePos + width ≤ size)
    (hrun : Holds cell readPos (run encode xs ++ List.replicate width mark))
    (hlt : (encode x).length < readPos)
    (hgap : xs ≠ [] → (encode x).length + width ≤ readPos)
    (hmark : ∀ y ∈ xs, ¬ List.replicate width mark <+: encode y) :
    Layout encode mark width
      (overwrite cell 0 (encode x ++ List.replicate width mark)) size readPos
      (encode x).length (xs ++ [x]) := by
  refine .turned xs [x] rfl (by simp) (by simp) hlt hgap hmark (by omega) ?_ ?_
  · by_cases hxs : xs = []
    · subst hxs
      simp only [run_nil, List.nil_append] at hrun ⊢
      rw [← overwrite_append]
      exact (hrun.overwrite_before (by omega)).overwrite_replicate
    · have := hgap hxs
      exact hrun.overwrite_before (by simp only [List.length_append, List.length_replicate]; omega)
  · simpa using holds_overwrite cell 0 (encode x ++ List.replicate width mark)

/-- Appending behind the write position of a turned ring. -/
theorem Layout.append_turned {x : α} {front back : List α} (hxs : xs = front ++ back)
    (hwrite : (run encode back).length = writePos)
    (hmark : ∀ y ∈ front, ¬ List.replicate width mark <+: encode y)
    (hsize : readPos + (run encode front).length + width ≤ size)
    (hfront : Holds cell readPos (run encode front ++ List.replicate width mark))
    (hrun : Holds cell 0 (run encode back ++ List.replicate width mark))
    (hlt : writePos + (encode x).length < readPos)
    (hgap : front ≠ [] → writePos + (encode x).length + width ≤ readPos) :
    Layout encode mark width
      (overwrite cell writePos (encode x ++ List.replicate width mark)) size readPos
      (writePos + (encode x).length) (xs ++ [x]) := by
  subst hwrite
  refine .turned front (back ++ [x]) (by simp [hxs]) (by simp) (by simp) hlt hgap hmark hsize
    ?_ ?_
  · by_cases hfr : front = []
    · subst hfr
      simp only [run_nil, List.nil_append, List.length_nil] at hfront hsize ⊢
      rw [← overwrite_append]
      exact (hfront.overwrite_before (by omega)).overwrite_replicate
    · have := hgap hfr
      exact hfront.overwrite_before (by simp only [List.length_append, List.length_replicate]; omega)
  · have hkeep := (holds_append.mp hrun).1.overwrite_after
      (encode x ++ List.replicate width mark) (Nat.zero_add _).le
    have hnew := holds_overwrite cell (0 + (run encode back).length)
      (encode x ++ List.replicate width mark)
    rw [Nat.zero_add] at hnew
    simpa [List.append_assoc] using
      holds_append.mpr ⟨hkeep, by simpa using hnew⟩

/-! ## The reader -/

/-- A reader of a turned ring with no front run left may turn to cell 0. -/
theorem Layout.turn_reader (hwrite : (run encode xs).length = writePos)
    (hsize : writePos + width ≤ size)
    (hrun : Holds cell 0 (run encode xs ++ List.replicate width mark)) :
    Layout encode mark width cell size 0 writePos xs :=
  .straight (by simpa using hwrite) hsize hrun

/-- Dropping the first record of a ring that has not turned. -/
theorem Layout.discard_straight {x : α}
    (hwrite : readPos + (run encode (x :: xs)).length = writePos)
    (hsize : writePos + width ≤ size)
    (hrun : Holds cell readPos (run encode (x :: xs) ++ List.replicate width mark)) :
    Layout encode mark width cell size (readPos + (encode x).length) writePos xs := by
  simp only [run_cons, List.length_append, List.append_assoc] at hwrite hrun
  exact .straight (by omega) hsize (holds_append.mp hrun).2

/-- Dropping the first record of a turned ring whose front run is not empty. -/
theorem Layout.discard_turned {x : α} {front back : List α} (hback : back ≠ [])
    (hwrite : (run encode back).length = writePos)
    (hlt : writePos < readPos) (hgap : writePos + width ≤ readPos)
    (hmark : ∀ y ∈ x :: front, ¬ List.replicate width mark <+: encode y)
    (hsize : readPos + (run encode (x :: front)).length + width ≤ size)
    (hfront : Holds cell readPos (run encode (x :: front) ++ List.replicate width mark))
    (hrun : Holds cell 0 (run encode back ++ List.replicate width mark)) :
    Layout encode mark width cell size (readPos + (encode x).length) writePos
      (front ++ back) := by
  simp only [run_cons, List.length_append, List.append_assoc] at hsize hfront
  refine .turned front back rfl hback hwrite (by omega) (fun _ => by omega)
    (fun y hy => hmark y (List.mem_cons_of_mem x hy)) (by omega) (holds_append.mp hfront).2 hrun

/-- Storing inside the first record, with the reader in front of it. -/
theorem Layout.replace_head {x x' : α} {cell' : ℕ → β}
    (h : Layout encode mark width cell size readPos writePos (x :: xs))
    (hreader : ¬ Holds cell readPos (List.replicate width mark))
    (hlength : (encode x').length = (encode x).length)
    (hmark' : ¬ List.replicate width mark <+: encode x')
    (hrecord : Holds cell' readPos (encode x'))
    (hrest : ∀ i, i < readPos ∨ readPos + (encode x).length ≤ i → cell' i = cell i) :
    Layout encode mark width cell' size readPos writePos (x' :: xs) := by
  have hbehind : ∀ ys, Holds cell readPos (encode x ++ ys) →
      Holds cell' readPos (encode x' ++ ys) := by
    intro ys hys
    refine holds_append.mpr ⟨hrecord, ?_⟩
    rw [hlength]
    exact (holds_append.mp hys).2.congr fun i hi _ => hrest i (.inr hi)
  cases h with
  | straight hwrite hsize hrun =>
      refine .straight ?_ hsize ?_
      · simpa [hlength] using hwrite
      · rw [run_cons, List.append_assoc] at hrun ⊢
        exact hbehind _ hrun
  | turned front back hxs hback hwrite hlt hgap hmark hsize hfront hrun =>
      cases front with
      -- the reader would stand at the mark
      | nil => exact absurd (by simpa using hfront) hreader
      | cons y front =>
          obtain ⟨rfl, rfl⟩ := List.cons.inj hxs
          have hspace := hgap (List.cons_ne_nil x front)
          refine .turned (x' :: front) back rfl hback hwrite hlt (fun _ => hspace) ?_ ?_ ?_ ?_
          · intro z hz
            rcases List.mem_cons.mp hz with rfl | hz
            · exact hmark'
            · exact hmark z (List.mem_cons_of_mem x hz)
          · simpa [hlength] using hsize
          · rw [run_cons, List.append_assoc] at hfront ⊢
            exact hbehind _ hfront
          · refine hrun.congr fun i _ hi => hrest i (.inl ?_)
            simp only [List.length_append, List.length_replicate] at hi
            omega

end RecordRing
