import Mathlib.Data.BitVec
import Mathlib.Data.Nat.Basic
import Mathlib.Tactic.IntervalCases
import Mathlib.Tactic.Ring

/-!
# Numbers in strings

`strtoul` with base 16, and `atoi`, of the C library, on the characters of a string.  Both skip
white space and take a sign, and stop at the first character that is no digit of their base.

A number that is written with two digits is read again (`strtoulHex_hexDigits`).
-/

namespace NumberText

/-- `isspace`. -/
def IsSpace (c : Char) : Prop := c.toNat = 32 ∨ 9 ≤ c.toNat ∧ c.toNat ≤ 13

instance (c : Char) : Decidable (IsSpace c) := inferInstanceAs (Decidable (_ ∨ _))

/-- The value of a digit; there are at most 36 of them. -/
def digitOf (base : ℕ) (c : Char) : Option ℕ :=
  let value :=
    if 48 ≤ c.toNat ∧ c.toNat ≤ 57 then c.toNat - 48
    else if 65 ≤ c.toNat ∧ c.toNat ≤ 90 then c.toNat - 55
    else if 97 ≤ c.toNat ∧ c.toNat ≤ 122 then c.toNat - 87
    else base
  if value < base then some value else none

/-- The number of which `value` has been read already. -/
def digits (base : ℕ) : ℕ → List Char → ℕ
  | value, [] => value
  | value, c :: rest =>
      match digitOf base c with
      | some d => digits base (base * value + d) rest
      | none => value

/-- Whether there is a minus, and what is left behind the sign. -/
def sign : List Char → Bool × List Char
  | [] => (false, [])
  | c :: rest =>
      if c.toNat = 45 then (true, rest) else if c.toNat = 43 then (false, rest) else (false, c :: rest)

/-- `0x` in front of a digit. -/
def skipHexPrefix : List Char → List Char
  | zero :: x :: d :: rest =>
      if zero.toNat = 48 ∧ (x.toNat = 88 ∨ x.toNat = 120) ∧ (digitOf 16 d).isSome then d :: rest
      else zero :: x :: d :: rest
  | text => text

/-- `strtoul(text, NULL, 16)`, of 32 bits. -/
def strtoulHex (text : List Char) : BitVec 32 :=
  let signed := sign (text.dropWhile (IsSpace ·))
  let value := digits 16 0 (skipHexPrefix signed.2)
  if 2 ^ 32 ≤ value then BitVec.allOnes 32
  else if signed.1 then -BitVec.ofNat 32 value
  else BitVec.ofNat 32 value

/-- `atoi`. -/
def atoi (text : List Char) : ℤ :=
  let signed := sign (text.dropWhile (IsSpace ·))
  if signed.1 then -(digits 10 0 signed.2 : ℤ) else digits 10 0 signed.2

/-! ## Writing digits -/

/-- A digit to base 16, in upper case. -/
def hexDigit (d : ℕ) : Char := Char.ofNat (if d < 10 then 48 + d else 55 + d)

section

variable {d high low : ℕ}

theorem digitOf_hexDigit (h : d < 16) : digitOf 16 (hexDigit d) = some d := by
  interval_cases d <;> rfl

/-- A digit is none of the characters that are treated in another way. -/
theorem hexDigit_plain (h : d < 16) :
    ¬ IsSpace (hexDigit d) ∧ (hexDigit d).toNat ≠ 45 ∧ (hexDigit d).toNat ≠ 43 ∧
      (hexDigit d).toNat ≠ 88 ∧ (hexDigit d).toNat ≠ 120 := by
  interval_cases d <;> decide

/-- Without white space and sign in front. -/
theorem atoi_plain {c : Char} (hspace : ¬ IsSpace c) (hsign : c.toNat ≠ 45 ∧ c.toNat ≠ 43)
    (rest : List Char) : atoi (c :: rest) = digits 10 0 (c :: rest) := by
  have hnone : sign ((c :: rest).dropWhile (IsSpace ·)) = (false, c :: rest) := by
    rw [List.dropWhile_cons_of_neg (by simpa using hspace), sign, if_neg hsign.1, if_neg hsign.2]
  unfold atoi
  rw [hnone]
  rfl

theorem skipHexPrefix_of_ne {c x : Char} {rest : List Char} (hx : x.toNat ≠ 88 ∧ x.toNat ≠ 120) :
    skipHexPrefix (c :: x :: rest) = c :: x :: rest := by
  cases rest with
  | nil => rfl
  | cons d rest =>
      rw [skipHexPrefix, if_neg]
      rintro ⟨-, hprefix | hprefix, -⟩
      · exact hx.1 hprefix
      · exact hx.2 hprefix

theorem digitOf_lt {base : ℕ} {c : Char} (h : digitOf base c = some d) : d < base := by
  unfold digitOf at h
  dsimp only at h
  by_cases hless : (if 48 ≤ c.toNat ∧ c.toNat ≤ 57 then c.toNat - 48
      else if 65 ≤ c.toNat ∧ c.toNat ≤ 90 then c.toNat - 55
      else if 97 ≤ c.toNat ∧ c.toNat ≤ 122 then c.toNat - 87
      else base) < base
  · rw [if_pos hless] at h
    rwa [← Option.some.inj h]
  · rw [if_neg hless] at h
    exact absurd h (Option.some_ne_none d).symm

theorem digitOf_ten (c : Char) :
    digitOf 10 c = if 48 ≤ c.toNat ∧ c.toNat ≤ 57 then some (c.toNat - 48) else none := by
  unfold digitOf
  dsimp only
  by_cases hdigit : 48 ≤ c.toNat ∧ c.toNat ≤ 57
  · rw [if_pos hdigit, if_pos hdigit]
    exact if_pos (by omega)
  · rw [if_neg hdigit, if_neg hdigit]
    refine if_neg ?_
    split_ifs <;> omega

theorem le_digits {base : ℕ} (hbase : 1 ≤ base) (value : ℕ) (text : List Char) :
    value ≤ digits base value text := by
  induction text generalizing value with
  | nil => exact le_rfl
  | cons c rest ih =>
      rw [digits]
      cases digitOf base c with
      | none => exact le_rfl
      | some d =>
          calc value ≤ base * value + d := (Nat.le_mul_of_pos_left value hbase).trans (Nat.le_add_right _ d)
            _ ≤ digits base (base * value + d) rest := ih _

theorem digits_lt {base : ℕ} (hbase : 1 ≤ base) (value : ℕ) (text : List Char) :
    digits base value text < (value + 1) * base ^ text.length := by
  induction text generalizing value with
  | nil => rw [digits, List.length_nil, pow_zero]; omega
  | cons c rest ih =>
      rw [digits, List.length_cons]
      cases hd : digitOf base c with
      | none => exact Nat.lt_of_lt_of_le (Nat.lt_succ_self value) (Nat.le_mul_of_pos_right _ (Nat.pow_pos hbase))
      | some d =>
          have hdigit : base * value + d + 1 ≤ base * (value + 1) := by
            have := digitOf_lt hd
            rw [Nat.mul_succ]
            omega
          calc digits base (base * value + d) rest
              < (base * value + d + 1) * base ^ rest.length := ih _
            _ ≤ base * (value + 1) * base ^ rest.length := Nat.mul_le_mul_right _ hdigit
            _ = (value + 1) * base ^ (rest.length + 1) := by rw [pow_succ]; ring

/-- A digit more makes the number larger, unless it is zero. -/
theorem lt_digits_cons {base value : ℕ} (hbase : 2 ≤ base) (hvalue : 0 < value) {c : Char}
    (hdigit : digitOf base c ≠ none) (rest : List Char) :
    value < digits base value (c :: rest) := by
  obtain ⟨d, hd⟩ := Option.ne_none_iff_exists'.mp hdigit
  rw [digits, hd]
  calc value < 2 * value := by omega
    _ ≤ base * value + d := (Nat.mul_le_mul_right value hbase).trans (Nat.le_add_right _ d)
    _ ≤ digits base (base * value + d) rest := le_digits (by omega) _ rest

theorem digits_stop {base value : ℕ} {text : List Char}
    (h : ∀ c ∈ text.head?, digitOf base c = none) : digits base value text = value := by
  cases text with
  | nil => rfl
  | cons c rest => rw [digits, h c rfl]

/-- **Two digits are read again,** when no further digit follows. -/
theorem strtoulHex_hexDigits (hhigh : high < 16) (hlow : low < 16) {text : List Char}
    (h : ∀ c ∈ text.head?, digitOf 16 c = none) :
    strtoulHex (hexDigit high :: hexDigit low :: text) = BitVec.ofNat 32 (16 * high + low) := by
  obtain ⟨hspace, hminus, hplus, -, -⟩ := hexDigit_plain hhigh
  obtain ⟨-, -, -, hx⟩ := hexDigit_plain hlow
  have hsign : sign ((hexDigit high :: hexDigit low :: text).dropWhile (IsSpace ·)) =
      (false, hexDigit high :: hexDigit low :: text) := by
    rw [List.dropWhile_cons_of_neg (by simpa using hspace), sign, if_neg hminus, if_neg hplus]
  have hvalue : digits 16 0 (hexDigit high :: hexDigit low :: text) = 16 * high + low := by
    rw [digits, digitOf_hexDigit hhigh]
    dsimp only
    rw [digits, digitOf_hexDigit hlow]
    dsimp only
    rw [digits_stop h, Nat.mul_zero, Nat.zero_add]
  unfold strtoulHex
  rw [hsign]
  dsimp only
  rw [skipHexPrefix_of_ne hx, hvalue, if_neg (by omega), if_neg Bool.false_ne_true]

end

end NumberText
