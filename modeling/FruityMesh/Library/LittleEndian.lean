import FruityMesh.Library.Cells
import Mathlib.Data.BitVec
import Mathlib.Data.Nat.ModEq
import Mathlib.Tactic.Ring

/-!
# Little-endian numbers

`encode width n` is the number `n` written to `width` bytes, least significant
byte first, as an assignment to an unsigned integer of `width` bytes does: what
does not fit is cut off (`decode_encode`).  Reading the bytes back and writing
them again is the identity (`encode_decode`).

`fieldAt width cell offset` is the integer in the `width` cells from `offset` on;
it is `value` exactly if these cells hold the bytes of `value` (`fieldAt_eq_iff`).
-/

namespace LittleEndian

/-- The `width` low bytes of `n`, least significant first. -/
def encode : ℕ → ℕ → List (BitVec 8)
  | 0, _ => []
  | width + 1, n => BitVec.ofNat 8 n :: encode width (n / 256)

/-- The number whose bytes these are. -/
def decode : List (BitVec 8) → ℕ
  | [] => 0
  | b :: rest => b.toNat + 256 * decode rest

@[simp] theorem length_encode (width n : ℕ) : (encode width n).length = width := by
  induction width generalizing n with
  | zero => rfl
  | succ width ih => simp [encode, ih]

theorem decode_lt (bytes : List (BitVec 8)) : decode bytes < 256 ^ bytes.length := by
  induction bytes with
  | nil => simp [decode]
  | cons b rest ih =>
      have hb : b.toNat < 256 := b.isLt
      have hrest : decode rest + 1 ≤ 256 ^ rest.length := ih
      simp only [decode, List.length_cons, pow_succ]
      omega

theorem decode_encode (width n : ℕ) : decode (encode width n) = n % 256 ^ width := by
  induction width generalizing n with
  | zero => simp [encode, decode, Nat.mod_one]
  | succ width ih =>
      have hbyte : (BitVec.ofNat 8 n).toNat = n % 256 := BitVec.toNat_ofNat n 8
      rw [encode, decode, ih, hbyte, pow_succ, Nat.mul_comm (256 ^ width) 256, Nat.mod_mul]

theorem decode_encode_of_lt {width n : ℕ} (h : n < 256 ^ width) :
    decode (encode width n) = n := by
  rw [decode_encode, Nat.mod_eq_of_lt h]

theorem encode_decode (bytes : List (BitVec 8)) :
    encode bytes.length (decode bytes) = bytes := by
  induction bytes with
  | nil => rfl
  | cons b rest ih =>
      have hb : b.toNat < 256 := b.isLt
      have hlow : BitVec.ofNat 8 (b.toNat + 256 * decode rest) = b := by
        apply BitVec.eq_of_toNat_eq
        simp only [BitVec.toNat_ofNat]
        omega
      have hhigh : (b.toNat + 256 * decode rest) / 256 = decode rest := by omega
      simp only [List.length_cons, encode, decode, hlow, hhigh, ih]

/-- A number is the one whose bytes are read exactly if these are its bytes. -/
theorem decode_eq_iff {bytes : List (BitVec 8)} {n : ℕ} (h : n < 256 ^ bytes.length) :
    decode bytes = n ↔ bytes = encode bytes.length n := by
  constructor
  · rintro rfl
    exact (encode_decode bytes).symm
  · intro hbytes
    have hdecode := congrArg decode hbytes
    rwa [decode_encode, Nat.mod_eq_of_lt h] at hdecode

theorem decode_concat (bytes : List (BitVec 8)) (b : BitVec 8) :
    decode (bytes ++ [b]) = decode bytes + 256 ^ bytes.length * b.toNat := by
  induction bytes with
  | nil => simp [decode]
  | cons first rest ih =>
      rw [List.cons_append, decode, decode, ih, List.length_cons, pow_succ]
      ring

theorem decode_replicate_zero (width : ℕ) : decode (List.replicate width 0#8) = 0 := by
  induction width with
  | zero => rfl
  | succ width ih => simp [List.replicate_succ, decode, ih]

theorem encode_zero (width : ℕ) : encode width 0 = List.replicate width 0#8 := by
  induction width with
  | zero => rfl
  | succ width ih => simp [List.replicate_succ, encode, ih]

theorem encode_succ_eq_append (width n : ℕ) :
    encode (width + 1) n = encode width n ++ [BitVec.ofNat 8 (n / 256 ^ width)] := by
  induction width generalizing n with
  | zero => simp [encode]
  | succ width ih =>
      rw [encode, ih, encode, List.cons_append, Nat.div_div_eq_div_mul, pow_succ,
        Nat.mul_comm 256]

/-! ## Integers in memory -/

open Cells

variable {width : ℕ} {cell : ℕ → BitVec 8} {offset : ℕ}

/-- The bytes of an integer. -/
def fieldBytes (value : BitVec (8 * width)) : List (BitVec 8) := encode width value.toNat

/-- The most significant byte of an integer. -/
def topByte (value : BitVec (8 * (width + 1))) : BitVec 8 :=
  BitVec.ofNat 8 (value.toNat / 256 ^ width)

/-- The integer in the `width` cells from `offset` on. -/
def fieldAt (width : ℕ) (cell : ℕ → BitVec 8) (offset : ℕ) : BitVec (8 * width) :=
  BitVec.ofNat (8 * width) (decode (read cell offset width))

@[simp] theorem length_fieldBytes (value : BitVec (8 * width)) :
    (fieldBytes value).length = width := length_encode width _

theorem two_pow_eight_mul (width : ℕ) : 2 ^ (8 * width) = 256 ^ width := by
  rw [pow_mul]
  rfl

/-- An integer field has a value exactly if its cells hold the bytes of the value. -/
theorem fieldAt_eq_iff {value : BitVec (8 * width)} :
    fieldAt width cell offset = value ↔ Holds cell offset (fieldBytes value) := by
  have hvalue : value.toNat < 256 ^ (read cell offset width).length := by
    rw [length_read, ← two_pow_eight_mul]
    exact value.isLt
  have hdecode : decode (read cell offset width) < 2 ^ (8 * width) := by
    rw [two_pow_eight_mul]
    simpa using decode_lt (read cell offset width)
  have hiff := decode_eq_iff hvalue
  rw [length_read] at hiff
  rw [fieldAt, ← BitVec.toNat_inj, BitVec.toNat_ofNat, Nat.mod_eq_of_lt hdecode, hiff,
    ← fieldBytes]
  constructor
  · intro hread
    rw [← hread]
    exact holds_read cell offset width
  · intro hholds
    simpa using hholds.read_eq

/-- The low bytes of an integer are those of its low part. -/
theorem setWidth_fieldAt_succ :
    (fieldAt (width + 1) cell offset).setWidth (8 * width) = fieldAt width cell offset := by
  have hread : read cell offset (width + 1) = read cell offset width ++ [cell (offset + width)] := by
    simp [Cells.read, List.range_succ]
  apply BitVec.eq_of_toNat_eq
  simp only [fieldAt, BitVec.toNat_setWidth, BitVec.toNat_ofNat, hread, decode_concat, length_read,
    two_pow_eight_mul]
  rw [Nat.mod_mod_of_dvd _ (pow_dvd_pow 256 (Nat.le_succ width)), Nat.add_mul_mod_self_left]

/-- All bytes of an integer but the most significant one. -/
def lowBytes (value : BitVec (8 * (width + 1))) : List (BitVec 8) := encode width value.toNat

@[simp] theorem length_lowBytes (value : BitVec (8 * (width + 1))) :
    (lowBytes value).length = width := length_encode width _

theorem fieldBytes_eq_append (value : BitVec (8 * (width + 1))) :
    fieldBytes value = lowBytes value ++ [topByte value] :=
  encode_succ_eq_append width _

/-- Where the low bytes of an integer are in place, the cell behind them decides. -/
theorem fieldAt_succ_eq_iff {value : BitVec (8 * (width + 1))}
    (hlow : Holds cell offset (lowBytes value)) :
    fieldAt (width + 1) cell offset = value ↔ cell (offset + width) = topByte value := by
  rw [fieldAt_eq_iff, fieldBytes_eq_append, holds_append, holds_cons, length_lowBytes]
  exact ⟨fun h => h.2.1, fun h => ⟨hlow, h, holds_nil _ _⟩⟩

end LittleEndian
