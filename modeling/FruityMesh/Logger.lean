import FruityMesh.Library.NumberText
import FruityMesh.Library.Loops
import FruityMesh.Types

/-!
# Bytes as text

The two conversions of `Logger.cpp`.  `convertBufferToHexString` gets no size for the text, and
stores three characters for each byte, the last of them a NUL
(`convertBufferToHexString_within_iff`).  `parseHexStringToBuffer` reads the text again
(`parseHexStringToBuffer_hexText`).

It gets the size of the buffer, and compares with it, but only to write an error message
(`hexStrings_iff`).
-/

namespace FruityMesh.Logger

open Cells NumberText

def nul : Char := Char.ofNat 0

def colon : Char := ':'

/-- `%02X`. -/
def hexByte (byte : U8) : List Char := [hexDigit (byte.toNat / 16), hexDigit (byte.toNat % 16)]

/-- `convertBufferToHexString`.  Each `sprintf` stores a NUL, and the next one starts there. -/
def convertBufferToHexString (memory : Memory Char) (dstBuffer : ℕ) : List U8 → Memory Char
  | [] => memory
  | [byte] => memory.store dstBuffer (hexByte byte ++ [nul])
  | byte :: next :: rest =>
      convertBufferToHexString (memory.store dstBuffer (hexByte byte ++ [colon, nul]))
        (dstBuffer + 3) (next :: rest)

/-- `parseHexStringToBuffer`: the bytes that are stored.  If there are more of them than the
buffer has, the source writes an error message and stores them all the same. -/
def parseHexStringToBuffer (hexString : List Char) : List U8 :=
  (List.range ((hexString.length + 1) / 3)).map fun i =>
    (strtoulHex (hexString.drop (3 * i))).setWidth 8

/-- `parseHexStringToBuffer` into the cells from `dstBuffer` on, with the messages that are logged:
each has a tag and a text. -/
def parseHexStringInto (memory : Memory U8) (dstBuffer : ℕ) (hexString : List Char)
    (dstBufferSize : U16) : Memory U8 × List (String × String) :=
  let length := (hexString.length + 1) / 3
  ((List.range length).foldl
      (fun memory i =>
        memory.store (dstBuffer + i) [(strtoulHex (hexString.drop (3 * i))).setWidth 8])
      memory,
    -- the message does not keep the bytes from being stored
    if length > dstBufferSize.toNat then [("ERROR", "too long for dstBuffer")] else [])

/-! ## The text of a buffer -/

def hexText : List U8 → List Char
  | [] => []
  | [byte] => hexByte byte
  | byte :: next :: rest => hexByte byte ++ colon :: hexText (next :: rest)

section

variable {memory : Memory Char} {dstBuffer : ℕ} {src : List U8}

/-- What is stored is the text with a NUL behind it, or nothing. -/
theorem holds_convertBufferToHexString (hsrc : src ≠ []) :
    Holds (convertBufferToHexString memory dstBuffer src).cell dstBuffer (hexText src ++ [nul]) := by
  suffices hboth : Holds (convertBufferToHexString memory dstBuffer src).cell dstBuffer
      (hexText src ++ [nul]) ∧ ∀ i < dstBuffer,
        (convertBufferToHexString memory dstBuffer src).cell i = memory.cell i from hboth.1
  induction src generalizing memory dstBuffer with
  | nil => exact absurd rfl hsrc
  | cons byte rest ih =>
    cases rest with
    | nil =>
        exact ⟨holds_overwrite _ _ _, fun i hi => overwrite_of_lt _ _ hi⟩
    | cons next rest =>
        obtain ⟨hholds, hbefore⟩ := @ih (memory.store dstBuffer (hexByte byte ++ [colon, nul]))
          (dstBuffer + 3) (List.cons_ne_nil _ _)
        have hstored : Holds (memory.store dstBuffer (hexByte byte ++ [colon, nul])).cell dstBuffer
            (hexByte byte ++ [colon]) := by
          have hall := holds_overwrite memory.cell dstBuffer (hexByte byte ++ [colon, nul])
          rw [show hexByte byte ++ [colon, nul] = (hexByte byte ++ [colon]) ++ [nul] from rfl,
            holds_append] at hall
          exact hall.1
        refine ⟨?_, fun i hi => ?_⟩
        · rw [hexText, show hexByte byte ++ colon :: hexText (next :: rest) ++ [nul] =
            (hexByte byte ++ [colon]) ++ (hexText (next :: rest) ++ [nul]) by simp, holds_append]
          refine ⟨fun k hk => ?_, hholds⟩
          rw [convertBufferToHexString, hbefore _ (by simp [hexByte] at hk; omega)]
          exact hstored k hk
        · rw [convertBufferToHexString, hbefore i (by omega)]
          exact overwrite_of_lt _ _ hi

theorem within_convertBufferToHexString_iff {size : ℕ} :
    (convertBufferToHexString memory dstBuffer src).AccessesWithin size ↔
      memory.AccessesWithin size ∧ (src = [] ∨ dstBuffer + 3 * src.length ≤ size) := by
  induction src generalizing memory dstBuffer with
  | nil => simp [convertBufferToHexString]
  | cons byte rest ih =>
    cases rest with
    | nil =>
        rw [convertBufferToHexString, Memory.accessesWithin_store_iff]
        simp [hexByte]
    | cons next rest =>
        rw [convertBufferToHexString, ih, Memory.accessesWithin_store_iff]
        simp only [hexByte, List.cons_append, List.nil_append, List.length_cons, List.length_nil,
          List.cons_ne_nil, false_or, and_assoc, and_congr_right_iff]
        intro _
        -- the last character of a byte is where the next byte starts
        omega

/-- **Three characters are stored for each byte,** whatever the size of the text may be. -/
theorem convertBufferToHexString_within_iff {size : ℕ} (cell : ℕ → Char) (src : List U8) :
    (convertBufferToHexString ⟨cell, [], []⟩ 0 src).AccessesWithin size ↔
      3 * src.length ≤ size := by
  rw [within_convertBufferToHexString_iff, Nat.zero_add]
  cases src <;> simp [Memory.AccessesWithin]

/-! ## Reading the text -/

theorem length_hexText (src : List U8) : (hexText src).length + 1 = max 1 (3 * src.length) := by
  induction src with
  | nil => rfl
  | cons byte rest ih =>
    cases rest with
    | nil => rfl
    | cons next rest =>
        rw [hexText]
        simp only [hexByte, List.length_append, List.length_cons, List.length_nil] at ih ⊢
        omega

theorem drop_hexText {i : ℕ} (h : i < src.length) :
    (hexText src).drop (3 * i) = hexText (src.drop i) := by
  induction i generalizing src with
  | zero => rfl
  | succ i ih =>
      obtain ⟨byte, next, rest, rfl⟩ : ∃ byte next rest, src = byte :: next :: rest := by
        match src, h with
        | [_], h => exact absurd h (by simp)
        | byte :: next :: rest, _ => exact ⟨byte, next, rest, rfl⟩
      rw [List.drop_succ_cons, ← ih (by simpa using h), Nat.mul_succ, hexText, Nat.add_comm,
        ← List.drop_drop]
      rfl

/-- The first byte of a text. -/
theorem strtoulHex_hexText {byte : U8} {rest : List U8} :
    (strtoulHex (hexText (byte :: rest))).setWidth 8 = byte := by
  obtain ⟨text, htext, hstop⟩ : ∃ text, hexText (byte :: rest) =
      hexDigit (byte.toNat / 16) :: hexDigit (byte.toNat % 16) :: text ∧
        ∀ c ∈ text.head?, digitOf 16 c = none := by
    cases rest with
    | nil => exact ⟨[], rfl, by simp⟩
    | cons next rest =>
        refine ⟨colon :: hexText (next :: rest), rfl, ?_⟩
        rintro c ⟨rfl⟩
        rfl
  have hbyte : byte.toNat < 256 := byte.isLt
  rw [htext, strtoulHex_hexDigits (by omega) (by omega) hstop]
  apply BitVec.eq_of_toNat_eq
  simp only [BitVec.toNat_setWidth, BitVec.toNat_ofNat]
  omega

/-- **What was written as text is read again.** -/
theorem parseHexStringToBuffer_hexText (src : List U8) :
    parseHexStringToBuffer (hexText src) = src := by
  have hlength : ((hexText src).length + 1) / 3 = src.length := by
    rw [length_hexText]
    omega
  unfold parseHexStringToBuffer
  rw [hlength]
  apply List.ext_getElem (by simp)
  intro i hi _
  have hi : i < src.length := by simpa using hi
  rw [List.getElem_map, List.getElem_range, drop_hexText hi, List.drop_eq_getElem_cons hi,
    strtoulHex_hexText]

end

/-! ## Storing what is read -/

section

variable {memory : Memory U8} {dstBuffer : ℕ} {hexString : List Char} {dstBufferSize : U16}

theorem parseHexStringInto_fst :
    (parseHexStringInto memory dstBuffer hexString dstBufferSize).1 =
      memory.storeEach dstBuffer (parseHexStringToBuffer hexString) :=
  foldl_store_eq_storeEach _ _ _ _

theorem length_parseHexStringToBuffer (hexString : List Char) :
    (parseHexStringToBuffer hexString).length = (hexString.length + 1) / 3 := by
  rw [parseHexStringToBuffer, List.length_map, List.length_range]

/-- The buffer is at `0`, and nothing is stored behind it. -/
def StaysWithin (hexString : List Char) (dstBufferSize : U16) : Prop :=
  ∀ cell : ℕ → U8,
    (parseHexStringInto ⟨cell, [], []⟩ 0 hexString dstBufferSize).1.AccessesWithin
      dstBufferSize.toNat

theorem parseHexStringInto_within_iff (cell : ℕ → U8) :
    (parseHexStringInto ⟨cell, [], []⟩ 0 hexString dstBufferSize).1.AccessesWithin
        dstBufferSize.toNat ↔
      (hexString.length + 1) / 3 ≤ dstBufferSize.toNat := by
  have hnone : (⟨cell, [], []⟩ : Memory U8).AccessesWithin dstBufferSize.toNat := by
    simp [Memory.AccessesWithin]
  rw [parseHexStringInto_fst, accessesWithin_storeEach_iff, and_iff_right hnone, Nat.zero_add,
    length_parseHexStringToBuffer, or_iff_right_of_imp]
  intro hempty
  rw [← length_parseHexStringToBuffer, hempty]
  exact Nat.zero_le _

theorem staysWithin_iff :
    StaysWithin hexString dstBufferSize ↔ hexString.length ≤ 3 * dstBufferSize.toNat + 1 := by
  have hlength : (hexString.length + 1) / 3 ≤ dstBufferSize.toNat ↔
      hexString.length ≤ 3 * dstBufferSize.toNat + 1 := by omega
  constructor
  · intro hwithin
    exact hlength.mp ((parseHexStringInto_within_iff _).mp (hwithin fun _ => 0))
  · exact fun hshort cell => (parseHexStringInto_within_iff cell).mpr (hlength.mpr hshort)

/-- The error is logged in exactly those calls that store something behind the buffer. -/
theorem parseHexStringInto_logs_iff (memory : Memory U8) (dstBuffer : ℕ) :
    (parseHexStringInto memory dstBuffer hexString dstBufferSize).2 =
        [("ERROR", "too long for dstBuffer")] ↔
      ¬ StaysWithin hexString dstBufferSize := by
  rw [staysWithin_iff, parseHexStringInto]
  dsimp only
  split_ifs with hlong
  · exact iff_of_true rfl (by omega)
  · exact iff_of_false (by simp) (by omega)

end

/-! ## A round trip -/

/-- What stands before the first NUL is the text that a pointer points to. -/
def PointsTo (cell : ℕ → Char) (start : ℕ) (text : List Char) : Prop :=
  nul ∉ text ∧ Holds cell start (text ++ [nul])

/-- The string that is written for a buffer is read as this buffer, wherever the two are. -/
def RoundTrips (b : List U8) : Prop :=
  ∀ (text : Memory Char) (start : ℕ),
    ∃ hexString, PointsTo (convertBufferToHexString text start b).cell start hexString ∧
      ∀ (memory : Memory U8) (dstBuffer : ℕ) (dstBufferSize : U16),
        (parseHexStringInto memory dstBuffer hexString dstBufferSize).1.cell =
          overwrite memory.cell dstBuffer b

theorem nul_not_mem_hexByte (byte : U8) : nul ∉ hexByte byte := by
  have hdigit : ∀ d < 16, nul ≠ hexDigit d := by
    intro d hd
    interval_cases d <;> decide
  have hbyte : byte.toNat < 256 := byte.isLt
  rw [hexByte, List.mem_cons, List.mem_singleton, not_or]
  exact ⟨hdigit _ (by omega), hdigit _ (by omega)⟩

theorem nul_not_mem_hexText (b : List U8) : nul ∉ hexText b := by
  induction b with
  | nil => exact List.not_mem_nil
  | cons byte rest ih =>
    cases rest with
    | nil => exact nul_not_mem_hexByte byte
    | cons next rest =>
        rw [hexText, List.mem_append, List.mem_cons, not_or, not_or]
        exact ⟨nul_not_mem_hexByte byte, by decide, ih⟩

theorem roundTrips {b : List U8} (hb : b ≠ []) : RoundTrips b := by
  intro text start
  refine ⟨hexText b, ⟨nul_not_mem_hexText b, holds_convertBufferToHexString hb⟩, ?_⟩
  intro memory dstBuffer dstBufferSize
  rw [parseHexStringInto_fst, storeEach_cell, parseHexStringToBuffer_hexText]

/-- **Every buffer that is not empty is read again, and nothing is stored behind the buffer if and
only if the string is not too long for it.** -/
theorem hexStrings_iff (hexString : List Char) (dstBufferSize : U16) :
    ((∀ b, b ≠ [] → RoundTrips b) ∧ StaysWithin hexString dstBufferSize) ↔
      hexString.length ≤ 3 * dstBufferSize.toNat + 1 := by
  rw [and_iff_right fun b hb => roundTrips hb, staysWithin_iff]

/-- A network key of seventeen bytes. -/
theorem networkKey_overrun : ¬ ∀ (hexString : List Char) (dstBufferSize : U16),
    (∀ b, b ≠ [] → RoundTrips b) ∧ StaysWithin hexString dstBufferSize := by
  intro hclaim
  have hlength := staysWithin_iff.mp (hclaim (hexText (List.replicate 17 0xAA)) 16).2
  exact absurd hlength (by decide)

end FruityMesh.Logger
