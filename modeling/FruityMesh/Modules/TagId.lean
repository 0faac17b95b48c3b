import FruityMesh.Types
import FruityMesh.Library.NumberText

/-!
# The id on a tag

The dump of a tag holds the id of its owner behind the text "id=".  Whether it is there is looked
for in the bytes of the dump (`idExistsInResponse`).  To read it, `getId` removes the bytes that
cannot be printed, and takes what is behind the first "=".

So a "=" in front of the text is taken for the one in it, and where an id of less than four digits
ends with a byte that is removed, digits behind that byte are taken for a part of it
(`agreesAround_iff`).
-/

namespace FruityMesh.Modules

open NumberText

namespace NFCModule

/-! ## The functions -/

/-- `isprint`. -/
def IsPrint (b : U8) : Prop := 32 ≤ b.toNat ∧ b.toNat ≤ 126

instance (b : U8) : Decidable (IsPrint b) := inferInstanceAs (Decidable (_ ∧ _))

/-- `std::string::find`. -/
def find (pattern : List U8) : List U8 → Option ℕ
  | [] => if pattern = [] then some 0 else none
  | c :: rest => if pattern <+: c :: rest then some 0 else (find pattern rest).map (· + 1)

def equalsSign : U8 := 61

/-- "id=". -/
def idText : List U8 := [105, 100, equalsSign]

def idExistsInResponse (response : List U8) : Bool := (find idText response).isSome

def characters (s : List U8) : List Char := s.map fun b => Char.ofNat b.toNat

/-- `get_id`.  Without a "=" the text is read from its start, since the position that is returned
then is the last one before an overflow. -/
def getId (dump : List U8) : U16 :=
  let responseString := dump.filter (IsPrint ·)
  let start := (find [equalsSign] responseString).elim 0 (· + 1)
  BitVec.ofInt 16 (atoi (characters ((responseString.drop start).take 4)))

/-! ## Dumps with an id -/

def IsDigit (b : U8) : Prop := 48 ≤ b.toNat ∧ b.toNat ≤ 57

instance (b : U8) : Decidable (IsDigit b) := inferInstanceAs (Decidable (_ ∧ _))

/-- The number that digits are, behind others that are `value`. -/
def decimal (value : ℕ) (ds : List U8) : ℕ := ds.foldl (fun value d => 10 * value + (d.toNat - 48)) value

/-- The first "id=" is behind `before`, up to four digits follow, and then `rest`, which does not
go on with a digit. -/
structure Surrounds (before rest : List U8) (k : ℕ) : Prop where
  first : find idText (before ++ idText) = some before.length
  count : 1 ≤ k ∧ k ≤ 4
  stop : ∀ b ∈ rest.head?, ¬ IsDigit b

/-- The number behind "id=" is read, whatever digits there are. -/
def AgreesAround (before rest : List U8) (k : ℕ) : Prop :=
  ∀ ds : List U8, ds.length = k → (∀ d ∈ ds, IsDigit d) →
    (getId (before ++ idText ++ ds ++ rest)).toInt = decimal 0 ds

variable {before rest ds dump : List U8} {k : ℕ}

/-- The text is where it was before anything was behind it. -/
theorem find_append (pattern more : List U8) (h : find pattern (before ++ pattern) = some before.length) :
    find pattern (before ++ pattern ++ more) = some before.length := by
  induction before with
  | nil =>
      cases hpattern : pattern ++ more with
      | nil =>
          obtain ⟨hempty, _⟩ := List.append_eq_nil_iff.mp hpattern
          rw [List.nil_append, hpattern, hempty]
          rfl
      | cons c rest =>
          rw [List.nil_append, hpattern, find, if_pos (hpattern ▸ List.prefix_append _ _)]
          rfl
  | cons c rest ih =>
      rw [List.cons_append, find] at h
      by_cases hprefix : pattern <+: c :: (rest ++ pattern)
      · rw [if_pos hprefix] at h
        exact absurd (Option.some.inj h).symm (Nat.succ_ne_zero _)
      · rw [if_neg hprefix] at h
        obtain ⟨n, hfind, hn⟩ := Option.map_eq_some_iff.mp h
        have hrest : find pattern (rest ++ pattern) = some rest.length := by
          rw [hfind, ← Nat.succ.inj hn]
        have hnot : ¬ pattern <+: c :: (rest ++ pattern ++ more) := by
          intro hlong
          apply hprefix
          refine List.prefix_of_prefix_length_le hlong (List.prefix_append _ more) ?_
          rw [List.length_cons, List.length_append]
          omega
        rw [List.cons_append, List.cons_append, find, if_neg hnot, ih hrest]
        rfl

/-- The detector finds the text. -/
theorem Surrounds.exists_id (h : Surrounds before rest k) :
    find idText (before ++ idText ++ ds ++ rest) = some before.length ∧
      idExistsInResponse (before ++ idText ++ ds ++ rest) = true := by
  have hfind : find idText (before ++ idText ++ ds ++ rest) = some before.length := by
    rw [List.append_assoc _ ds rest]
    exact find_append idText (ds ++ rest) h.first
  exact ⟨hfind, by rw [idExistsInResponse, hfind]; rfl⟩

/-! ### Characters -/

theorem toNat_char (b : U8) : (Char.ofNat b.toNat).toNat = b.toNat := by
  have hvalid : b.toNat.isValidChar := Or.inl (by have := b.isLt; omega)
  rw [Char.ofNat, dif_pos hvalid]
  rfl

theorem digitOf_char {b : U8} (h : IsDigit b) : digitOf 10 (Char.ofNat b.toNat) = some (b.toNat - 48) := by
  rw [digitOf_ten, toNat_char]
  exact if_pos h

theorem digitOf_char_eq_none {b : U8} (h : ¬ IsDigit b) : digitOf 10 (Char.ofNat b.toNat) = none := by
  rw [digitOf_ten, toNat_char]
  exact if_neg h

theorem digits_characters (h : ∀ d ∈ ds, IsDigit d) (value : ℕ) (more : List U8) :
    digits 10 value (characters (ds ++ more)) = digits 10 (decimal value ds) (characters more) := by
  induction ds generalizing value with
  | nil => rfl
  | cons d ds ih =>
      rw [List.cons_append, characters, List.map_cons, digits, digitOf_char (h d List.mem_cons_self)]
      exact ih (fun d' hd' => h d' (List.mem_cons_of_mem _ hd')) _

/-- A number starts with a digit: there is no white space and no sign. -/
theorem atoi_characters {d : U8} (h : IsDigit d) (more : List U8) :
    atoi (characters (d :: more)) = digits 10 0 (characters (d :: more)) := by
  have hd := toNat_char d
  obtain ⟨hlow, hhigh⟩ := h
  rw [characters, List.map_cons]
  apply atoi_plain
  · unfold IsSpace
    rw [hd]
    omega
  · rw [hd]
    omega

/-! ### What is read -/

theorem find_equalsSign {a b : List U8} (h : equalsSign ∉ a) :
    find [equalsSign] (a ++ equalsSign :: b) = some a.length := by
  induction a with
  | nil => exact if_pos (List.prefix_append [equalsSign] b)
  | cons c a ih =>
      have hne : equalsSign ≠ c := fun heq => h (heq ▸ List.mem_cons_self)
      have hnot : ¬ [equalsSign] <+: c :: (a ++ equalsSign :: b) :=
        fun hprefix => hne (List.cons_prefix_cons.mp hprefix).1
      rw [List.cons_append, find, if_neg hnot, ih fun hmem => h (List.mem_cons_of_mem _ hmem)]
      rfl

theorem getId_behind {a b : List U8} (hprint : dump.filter (IsPrint ·) = a ++ equalsSign :: b)
    (ha : equalsSign ∉ a) : getId dump = BitVec.ofInt 16 (atoi (characters (b.take 4))) := by
  have hdrop : (a ++ equalsSign :: b).drop (a.length + 1) = b := by simp [List.drop_append]
  unfold getId
  dsimp only
  rw [hprint, find_equalsSign ha]
  rw [Option.elim_some, hdrop]

theorem filter_dump (h : ∀ d ∈ ds, IsDigit d) :
    (before ++ idText ++ ds ++ rest).filter (IsPrint ·) =
      before.filter (IsPrint ·) ++ idText ++ ds ++ rest.filter (IsPrint ·) := by
  have hds : ds.filter (IsPrint ·) = ds := by
    rw [List.filter_eq_self]
    intro d hd
    obtain ⟨hlow, hhigh⟩ := h d hd
    exact decide_eq_true ⟨by omega, by omega⟩
  rw [List.filter_append, List.filter_append, List.filter_append, hds]
  rfl

/-- With the first "=" in the text, the digits behind it are read, and as many bytes more as there
are digits less than four. -/
theorem toInt_getId (hbefore : equalsSign ∉ before) (hk : 1 ≤ k ∧ k ≤ 4) (hlength : ds.length = k)
    (hds : ∀ d ∈ ds, IsDigit d) :
    (getId (before ++ idText ++ ds ++ rest)).toInt =
      digits 10 (decimal 0 ds) (characters ((rest.filter (IsPrint ·)).take (4 - k))) := by
  have hprint : (before ++ idText ++ ds ++ rest).filter (IsPrint ·) =
      (before.filter (IsPrint ·) ++ [105, 100]) ++
        equalsSign :: (ds ++ rest.filter (IsPrint ·)) := by
    rw [filter_dump hds]
    simp [idText]
  have hfirst : equalsSign ∉ before.filter (IsPrint ·) ++ [105, 100] := by
    rw [List.mem_append, not_or]
    exact ⟨fun hmem => hbefore (List.mem_of_mem_filter hmem), by decide⟩
  have htake : (ds ++ rest.filter (IsPrint ·)).take 4 = ds ++ (rest.filter (IsPrint ·)).take (4 - k) := by
    rw [List.take_append, List.take_of_length_le (by omega), hlength]
  obtain ⟨d, ds', hcons⟩ := List.exists_cons_of_length_pos (l := ds) (by omega)
  have hread : atoi (characters (ds ++ (rest.filter (IsPrint ·)).take (4 - k))) =
      digits 10 0 (characters (ds ++ (rest.filter (IsPrint ·)).take (4 - k))) := by
    rw [hcons]
    exact atoi_characters (hds d (hcons ▸ List.mem_cons_self)) _
  have hsmall : digits 10 0 (characters (ds ++ (rest.filter (IsPrint ·)).take (4 - k))) < 10 ^ 4 := by
    calc digits 10 0 (characters (ds ++ (rest.filter (IsPrint ·)).take (4 - k)))
        < (0 + 1) * 10 ^ (characters (ds ++ (rest.filter (IsPrint ·)).take (4 - k))).length :=
          digits_lt (by decide) _ _
      _ ≤ 10 ^ 4 := by
          rw [zero_add, one_mul, characters, List.length_map]
          apply Nat.pow_le_pow_right (by decide)
          rw [List.length_append, List.length_take]
          omega
  rw [getId_behind hprint hfirst, htake, hread, ← digits_characters hds, BitVec.toInt_ofInt]
  exact Int.bmod_eq_of_le (by omega) (by omega)

/-- With a "=" in front of the text, the digits are not read at all. -/
theorem getId_of_mem (hbefore : equalsSign ∈ before) (k : ℕ) (rest : List U8) :
    ∃ id, ∀ ds : List U8, ds.length = k → (∀ d ∈ ds, IsDigit d) →
      getId (before ++ idText ++ ds ++ rest) = id := by
  have hmem : equalsSign ∈ before.filter (IsPrint ·) := List.mem_filter.mpr ⟨hbefore, by decide⟩
  obtain ⟨a, b, hsplit, ha⟩ := List.eq_append_cons_of_mem hmem
  refine ⟨BitVec.ofInt 16 (if b = [] then 0 else atoi (characters ((b ++ idText).take 4))), ?_⟩
  intro ds hlength hds
  have hprint : (before ++ idText ++ ds ++ rest).filter (IsPrint ·) =
      a ++ equalsSign :: (b ++ idText ++ (ds ++ rest.filter (IsPrint ·))) := by
    rw [filter_dump hds, hsplit]
    simp
  rw [getId_behind hprint ha]
  by_cases hempty : b = []
  · -- the text itself is read, and its "i" is no digit
    rw [if_pos hempty, hempty]
    rfl
  · rw [if_neg hempty, List.take_append_of_le_length]
    have := List.length_pos_iff.mpr hempty
    rw [List.length_append]
    show 4 ≤ b.length + 3
    omega

/-- There are `k` digits with this last one, and zeros in front. -/
theorem exists_digits (hk : 1 ≤ k) {last : U8} (hlast : IsDigit last) :
    ∃ ds : List U8, ds.length = k ∧ (∀ d ∈ ds, IsDigit d) ∧ decimal 0 ds = last.toNat - 48 := by
  have hzeros : ∀ n, decimal 0 (List.replicate n 48) = 0 := by
    intro n
    induction n with
    | zero => rfl
    | succ n ih =>
        rw [List.replicate_succ, decimal, List.foldl_cons]
        exact ih
  refine ⟨List.replicate (k - 1) 48 ++ [last], ?_, ?_, ?_⟩
  · rw [List.length_append, List.length_replicate, List.length_singleton]
    omega
  · intro d hd
    rcases List.mem_append.mp hd with hd | hd
    · rw [List.eq_of_mem_replicate hd]
      decide
    · rw [List.mem_singleton.mp hd]
      exact hlast
  · rw [decimal, List.foldl_append]
    show 10 * decimal 0 (List.replicate (k - 1) 48) + (last.toNat - 48) = last.toNat - 48
    rw [hzeros, Nat.mul_zero, Nat.zero_add]

/-- **When the parser agrees with the detector.**  Around the digits there must be no "=" in front,
and no digit behind from which only bytes separate them that are removed. -/
theorem agreesAround_iff (h : Surrounds before rest k) :
    AgreesAround before rest k ↔ equalsSign ∉ before ∧
      (k = 4 ∨ ∀ b ∈ (rest.filter (IsPrint ·)).head?, ¬ IsDigit b) := by
  constructor
  · intro hagrees
    obtain ⟨ds, hlength, hds, hone⟩ :=
      exists_digits h.count.1 (by decide : IsDigit 49)
    have hbefore : equalsSign ∉ before := by
      intro hmem
      -- one and zero cannot be read as the same number
      obtain ⟨id, hid⟩ := getId_of_mem hmem k rest
      obtain ⟨zeros, hlength', hzeros, hzero⟩ := exists_digits h.count.1 (by decide : IsDigit 48)
      have hread := hagrees ds hlength hds
      have hread' := hagrees zeros hlength' hzeros
      rw [hid ds hlength hds, hone] at hread
      rw [hid zeros hlength' hzeros, hzero, hread] at hread'
      exact absurd hread' (by decide)
    refine ⟨hbefore, or_iff_not_imp_left.mpr fun hne b hb hdigit => ?_⟩
    have hread : (getId (before ++ idText ++ ds ++ rest)).toInt = _ :=
      toInt_getId hbefore h.count hlength hds
    rw [hagrees ds hlength hds, hone] at hread
    obtain ⟨more, hmore⟩ := List.head?_eq_some_iff.mp hb
    obtain ⟨n, hn⟩ : ∃ n, 4 - k = n + 1 := ⟨3 - k, by have := h.count.2; omega⟩
    rw [hmore, hn, List.take_succ_cons, characters, List.map_cons] at hread
    have hlarger : 1 < digits 10 1 (Char.ofNat b.toNat :: characters (more.take n)) :=
      lt_digits_cons (Nat.le_of_ble_eq_true rfl) Nat.one_pos
        (by rw [digitOf_char hdigit]; exact Option.some_ne_none _) _
    exact absurd (Int.ofNat.inj hread) (ne_of_lt hlarger)
  · rintro ⟨hbefore, hstop⟩ ds hlength hds
    rw [toInt_getId hbefore h.count hlength hds]
    congr 1
    apply digits_stop
    intro c hc
    rcases hstop with hfour | hstop
    · rw [hfour] at hc
      exact absurd hc (by simp [characters])
    · cases hrest : rest.filter (IsPrint ·) with
      | nil =>
          rw [hrest] at hc
          exact absurd hc (by simp [characters])
      | cons b more =>
          obtain ⟨n, hn⟩ | hnone : (∃ n, 4 - k = n + 1) ∨ 4 - k = 0 := by
            rcases 4 - k with _ | n
            · exact Or.inr rfl
            · exact Or.inl ⟨n, rfl⟩
          · rw [hrest, hn, List.take_succ_cons, characters, List.map_cons] at hc
            rw [← Option.some.inj hc]
            exact digitOf_char_eq_none (hstop b (by rw [hrest]; rfl))
          · rw [hnone] at hc
            exact absurd hc (by simp [characters])

/-- The third byte of the serial number in front is a "=". -/
def misreadDump : List U8 := [4, 92, equalsSign]

theorem id_misread :
    ¬ ∀ (before rest ds : List U8) (k : ℕ), Surrounds before rest k → ds.length = k →
        (∀ d ∈ ds, IsDigit d) → (getId (before ++ idText ++ ds ++ rest)).toInt = decimal 0 ds := by
  intro hall
  have hread := hall misreadDump [254] [51, 53] 2 ⟨by decide, by decide, by decide⟩ rfl (by decide)
  exact absurd hread (by decide)

/-- The terminator of the record is behind an id of three digits. -/
theorem agreesAround_three : AgreesAround [4, 92, 53] [254, 254] 3 :=
  (agreesAround_iff ⟨by decide, by decide, by decide⟩).mpr ⟨by decide, Or.inr (by decide)⟩

end NFCModule

end FruityMesh.Modules
