import Mls4rn.Lib.JsonString
import Mls4rn.Lib.NumberText
import Mathlib.Data.List.TakeWhile

/-!
# `Number.parseInt` with radix ten and sixteen

White space and a sign are skipped, and the longest run of digits is read.
Radix sixteen also skips `0x` or `0X` behind the sign.  The value is rounded
to the nearest number with 53 significant bits, and a value beyond the largest
such number is infinite.
-/

namespace Mls4rn.Lib.ParseInt

open Mls4rn.Lib.JsonString (hexValue)
open Mls4rn.Lib.NumberText
open Mls4rn.Lib.Utf16

/-- What `parseInt` returns. -/
inductive JsNumber where
  | nan
  | infinite (negative : Bool)
  | integer (value : Int)
deriving DecidableEq, Repr

/-- White space and line terminators. -/
def isWhiteSpace (unit : UInt16) : Bool :=
  decide
    (0x9 ≤ unit.toNat ∧ unit.toNat ≤ 0xD ∨ unit = 0x20 ∨ unit = 0xA0 ∨
      unit = 0x1680 ∨ 0x2000 ≤ unit.toNat ∧ unit.toNat ≤ 0x200A ∨
      unit = 0x2028 ∨ unit = 0x2029 ∨ unit = 0x202F ∨ unit = 0x205F ∨
      unit = 0x3000 ∨ unit = 0xFEFF)

/-- The nearest number with 53 significant bits, ties going to even ones. -/
def roundSignificand (number : Nat) : Nat :=
  if number < 2 ^ 53 then number
  else
    let ulp := 2 ^ (Nat.log2 number - 52)
    let lower := number / ulp
    let remainder := number % ulp
    let up := ulp < 2 * remainder ∨ ulp = 2 * remainder ∧ lower % 2 = 1
    (if up then lower + 1 else lower) * ulp

/-- The least power of two that is not finite. -/
def infinity : Nat :=
  2 ^ 1024

/-- The sign of a number text, and what follows it. -/
def splitSign : CodeUnits → Bool × CodeUnits
  | 0x2D :: rest => (true, rest)
  | 0x2B :: rest => (false, rest)
  | text => (false, text)

/-- `Number.parseInt(text, 10)`. -/
def parseInt (text : CodeUnits) : JsNumber :=
  let (negative, rest) := splitSign (text.dropWhile isWhiteSpace)
  let digits := rest.takeWhile isDigit
  if digits = [] then .nan
  else
    let rounded := roundSignificand (natValue digits)
    if infinity ≤ rounded then .infinite negative
    else .integer (if negative then -(rounded : Int) else rounded)

/-- A hexadecimal digit of either case. -/
def isHexDigit (unit : UInt16) : Bool :=
  (hexValue unit).isSome

/-- The value of a text of hexadecimal digits. -/
def hexNumber (text : CodeUnits) : Nat :=
  text.foldl (fun value unit => value * 16 + (hexValue unit).getD 0) 0

/-- Skip `0x` or `0X`. -/
def skipHexMark : CodeUnits → CodeUnits
  | 0x30 :: 0x78 :: rest => rest
  | 0x30 :: 0x58 :: rest => rest
  | text => text

/-- `Number.parseInt(text, 16)`. -/
def parseIntHex (text : CodeUnits) : JsNumber :=
  let (negative, rest) := splitSign (text.dropWhile isWhiteSpace)
  let digits := (skipHexMark rest).takeWhile isHexDigit
  if digits = [] then .nan
  else
    let rounded := roundSignificand (hexNumber digits)
    if infinity ≤ rounded then .infinite negative
    else .integer (if negative then -(rounded : Int) else rounded)

/-! ## Numbers below the precision -/

/-- Below the precision nothing is rounded. -/
theorem roundSignificand_eq {number : Nat} (precise : number < 2 ^ 53) :
    roundSignificand number = number ∧ ¬infinity ≤ number := by
  have wide : 2 ^ 53 ≤ infinity := by
    unfold infinity
    gcongr
    · decide
    · decide
  exact ⟨if_pos precise, Nat.not_le.mpr (precise.trans_le wide)⟩

variable {unit : UInt16}

/-- In a text that starts with neither there is nothing to skip. -/
theorem splitSign_dropWhile_cons
    (apart : isWhiteSpace unit = false ∧ unit ≠ 0x2D ∧ unit ≠ 0x2B)
    (units : CodeUnits) :
    splitSign ((unit :: units).dropWhile isWhiteSpace) =
      (false, unit :: units) := by
  rcases apart with ⟨visible, notMinus, notPlus⟩
  rw [List.dropWhile_cons_of_neg (by simp [visible])]
  unfold splitSign
  split
  · next rest minus => exact absurd (List.cons.inj minus).1 notMinus
  · next rest plus => exact absurd (List.cons.inj plus).1 notPlus
  · rfl

/-! ## Printed natural numbers -/

theorem isDigit_of_mem_natText
    {number : Nat} (member : unit ∈ natText number) :
    isDigit unit = true := by
  rcases natText_shape number with
    ⟨shape, -⟩ | ⟨lead, digits, shape, -, small, -⟩
  · rw [shape] at member
    cases List.mem_singleton.mp member
    decide
  · rw [shape] at member
    rcases List.mem_map.mp member with ⟨digit, inside, rfl⟩
    exact (digitUnit_spec (small digit inside)).1

theorem natText_ne_nil (number : Nat) : natText number ≠ [] := by
  rcases natText_shape number with
    ⟨shape, -⟩ | ⟨lead, digits, shape, -⟩
  · rw [shape]
    exact List.cons_ne_nil _ _
  · rw [shape]
    exact List.cons_ne_nil _ _

theorem exists_digitUnit (digit : isDigit unit = true) :
    ∃ value < 10, unit = digitUnit value := by
  simp only [isDigit, decide_eq_true_eq] at digit
  refine ⟨unit.toNat - 0x30, by omega, ?_⟩
  rw [digitUnit, Nat.add_sub_cancel' digit.1, UInt16.ofNat_toNat]

/-- A digit is neither white space nor a sign. -/
theorem digit_apart (digit : isDigit unit = true) :
    isWhiteSpace unit = false ∧ unit ≠ 0x2D ∧ unit ≠ 0x2B := by
  rcases exists_digitUnit digit with ⟨value, small, rfl⟩
  revert value
  decide

/-- A printed number below the precision is read back. -/
theorem parseInt_natText {number : Nat} (precise : number < 2 ^ 53) :
    parseInt (natText number) = .integer number := by
  have digits : ∀ unit ∈ natText number, isDigit unit = true :=
    fun unit member => isDigit_of_mem_natText member
  have split :
      splitSign ((natText number).dropWhile isWhiteSpace) =
        (false, natText number) := by
    cases text : natText number with
    | nil => exact absurd text (natText_ne_nil number)
    | cons unit units =>
        apply splitSign_dropWhile_cons
        apply digit_apart
        exact digits unit (by rw [text]; exact List.mem_cons_self)
  have all : (natText number).takeWhile isDigit = natText number :=
    List.takeWhile_eq_self_iff.mpr digits
  rcases roundSignificand_eq precise with ⟨rounded, finite⟩
  simp only [parseInt, split, all, natValue_natText, rounded,
    if_neg finite, if_neg (natText_ne_nil number)]
  rfl

/-! ## Hexadecimal digits -/

theorem isHexDigit_iff (unit : UInt16) :
    isHexDigit unit = true ↔
      0x30 ≤ unit.toNat ∧ unit.toNat ≤ 0x39 ∨
        0x61 ≤ unit.toNat ∧ unit.toNat ≤ 0x66 ∨
          0x41 ≤ unit.toNat ∧ unit.toNat ≤ 0x46 := by
  simp only [isHexDigit, hexValue]
  split_ifs with decimal lower upper
  · simp [decimal]
  · simp [lower]
  · simp [upper]
  · simp [decimal, lower, upper]

/-- A hexadecimal digit is none of the units that are skipped. -/
theorem hexDigit_apart (digit : isHexDigit unit = true) :
    (isWhiteSpace unit = false ∧ unit ≠ 0x2D ∧ unit ≠ 0x2B) ∧
      unit ≠ 0x78 ∧ unit ≠ 0x58 := by
  rw [isHexDigit_iff] at digit
  simp only [isWhiteSpace, ← UInt16.toNat_inj, decide_eq_false_iff_not, ne_eq]
  refine ⟨⟨?_, ?_, ?_⟩, ?_, ?_⟩ <;> simp <;> omega

/-- A text of digits does not begin with `0x`. -/
theorem skipHexMark_eq {text : CodeUnits}
    (digits : ∀ unit ∈ text, isHexDigit unit = true) :
    skipHexMark text = text := by
  unfold skipHexMark
  split
  · next rest =>
    exact absurd rfl (hexDigit_apart (digits 0x78 (by simp))).2.1
  · next rest =>
    exact absurd rfl (hexDigit_apart (digits 0x58 (by simp))).2.2
  · rfl

/-- A text of digits with a value below the precision is read. -/
theorem parseIntHex_digits
    {text : CodeUnits} (digits : ∀ unit ∈ text, isHexDigit unit = true)
    (nonempty : text ≠ []) (precise : hexNumber text < 2 ^ 53) :
    parseIntHex text = .integer (hexNumber text) := by
  have split :
      splitSign (text.dropWhile isWhiteSpace) = (false, text) := by
    cases text with
    | nil => exact absurd rfl nonempty
    | cons unit units =>
        apply splitSign_dropWhile_cons
        exact (hexDigit_apart (digits unit List.mem_cons_self)).1
  have all : text.takeWhile isHexDigit = text :=
    List.takeWhile_eq_self_iff.mpr digits
  rcases roundSignificand_eq precise with ⟨rounded, finite⟩
  simp only [parseIntHex, split, skipHexMark_eq digits, all, rounded,
    if_neg finite, if_neg nonempty]
  rfl

end Mls4rn.Lib.ParseInt
