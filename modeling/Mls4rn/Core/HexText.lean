import Mls4rn.Lib.ByteString
import Mls4rn.Lib.Lists
import Mls4rn.Lib.ParseInt

/-!
# The hexadecimal texts of `src/bytes.ts`

`toHex` writes two lower-case digits for every byte.  `fromHex` takes an
optional `0x` off and hands the rest to `Number.parseInt`, two code units at a
time; the only texts it refuses are those of odd length.

`parseInt` skips white space and a sign and stops in front of the first unit
that is not a digit, and what it returns becomes a byte modulo 256, with zero
for not-a-number.  So a pair of units that are not both digits is read as some
byte.  The main result says for which texts `fromHex` nevertheless does what
its name says.
-/

namespace Mls4rn.Core.HexText

open Mls4rn.Lib
open Mls4rn.Lib.ByteString
open Mls4rn.Lib.JsonString (hexUnit hexValue hexValue_hexUnit)
open Mls4rn.Lib.ParseInt
open Mls4rn.Lib.Utf16

/-! ## Writing -/

/-- `toString(16)` of a natural number. -/
def toString16 (number : Nat) : CodeUnits :=
  if number = 0 then [0x30]
  else (Nat.digits 16 number).reverse.map hexUnit

/-- `padStart`. -/
def padStart (text : CodeUnits) (length : Nat) (filler : UInt16) :
    CodeUnits :=
  List.replicate (length - text.length) filler ++ text

/-- `toHex`. -/
def toHex (bytes : Bytes) : CodeUnits :=
  bytes.foldl
    (fun out byte => out ++ padStart (toString16 byte.toNat) 2 0x30) []

/-! ## Reading -/

/-- What `fromHex` throws. -/
inductive HexError where
  | oddLength
deriving DecidableEq, Repr

/-- The text of the thrown `Error`. -/
def HexError.message : HexError → String
  | .oddLength => "fromHex: hex string must have an even number of digits"

/-- The local `clean`: the text without its `0x`. -/
def clean : CodeUnits → CodeUnits
  | 0x30 :: 0x78 :: rest => rest
  | hex => hex

/-- What an element of a `Uint8Array` becomes. -/
def toUint8 : JsNumber → UInt8
  | .integer value => UInt8.ofNat (value % 256).toNat
  | .infinite _ => 0
  | .nan => 0

/-- The byte of two code units. -/
def readPair (pair : CodeUnits) : UInt8 :=
  toUint8 (parseIntHex pair)

/-- `fromHex`. -/
def fromHex (hex : CodeUnits) : Except HexError Bytes :=
  let clean := clean hex
  if clean.length % 2 ≠ 0 then .error .oddLength
  else
    let out := List.replicate (clean.length / 2) 0
    .ok
      ((List.range out.length).foldl
        (fun out i => out.set i (readPair ((clean.drop (i * 2)).take 2)))
        out)

/-! ## The loops -/

/-- The two digits of a byte. -/
def byteText (byte : UInt8) : CodeUnits :=
  [hexUnit (byte.toNat / 16), hexUnit (byte.toNat % 16)]

theorem padStart_toString16 (byte : UInt8) :
    padStart (toString16 byte.toNat) 2 0x30 = byteText byte := by
  have bound := byte.toNat_lt
  unfold toString16 byteText
  by_cases zero : byte.toNat = 0
  · rw [if_pos zero, zero]
    rfl
  · rw [if_neg zero]
    rcases Nat.lt_or_ge byte.toNat 16 with small | large
    · rw [Nat.digits_of_lt 16 byte.toNat zero small,
        Nat.div_eq_of_lt small, Nat.mod_eq_of_lt small]
      rfl
    · have high : byte.toNat / 16 ≠ 0 := by omega
      rw [Nat.digits_def' (by decide) (Nat.pos_of_ne_zero zero),
        Nat.digits_of_lt 16 _ high (by omega)]
      rfl

theorem foldl_byteText (bytes : Bytes) (out : CodeUnits) :
    bytes.foldl
        (fun out byte => out ++ padStart (toString16 byte.toNat) 2 0x30)
        out =
      out ++ bytes.flatMap byteText := by
  induction bytes generalizing out with
  | nil => simp
  | cons byte bytes induction =>
      rw [List.foldl_cons, induction, padStart_toString16,
        List.append_assoc, List.flatMap_cons]

theorem toHex_eq_flatMap (bytes : Bytes) :
    toHex bytes = bytes.flatMap byteText :=
  foldl_byteText bytes []

/-- The bytes of a text of even length, pair by pair. -/
def readPairs : CodeUnits → Bytes
  | high :: low :: rest => readPair [high, low] :: readPairs rest
  | _ => []

variable {text : CodeUnits}

/-- A text without a pair. -/
theorem eq_nil_or_single
    (short : ∀ high low rest, text = high :: low :: rest → False) :
    text = [] ∨ ∃ unit, text = [unit] := by
  cases text with
  | nil => exact Or.inl rfl
  | cons unit rest =>
      cases rest with
      | nil => exact Or.inr ⟨unit, rfl⟩
      | cons low rest => exact (short unit low rest rfl).elim

theorem map_readPair (text : CodeUnits) :
    (List.range (text.length / 2)).map
        (fun i => readPair ((text.drop (i * 2)).take 2)) =
      readPairs text := by
  induction text using readPairs.induct with
  | case1 high low rest induction =>
      have count :
          (high :: low :: rest).length / 2 = rest.length / 2 + 1 := by
        simp only [List.length_cons]
        omega
      rw [count, List.range_succ_eq_map, List.map_cons, List.map_map,
        readPairs, ← induction]
      refine congrArg₂ List.cons rfl (List.map_congr_left fun i _ => ?_)
      rw [Function.comp_apply, Nat.succ_mul]
      rfl
  | case2 text short =>
      rcases eq_nil_or_single short with rfl | ⟨unit, rfl⟩
      · rfl
      · simp [readPairs]

theorem fromHex_eq (text : CodeUnits) :
    fromHex text =
      if (clean text).length % 2 ≠ 0 then .error .oddLength
      else .ok (readPairs (clean text)) := by
  simp only [fromHex, List.length_replicate, Lists.foldl_set_range,
    map_readPair]

/-! ## Pairs of digits -/

theorem hexValue_lt {unit : UInt16} {digit : Nat}
    (value : hexValue unit = some digit) : digit < 16 := by
  simp only [hexValue] at value
  split_ifs at value with decimal lower upper
  · cases value
    omega
  · cases value
    omega
  · cases value
    omega

/-- A pair of digits is the byte that it spells. -/
theorem readPair_digits
    {high low : UInt16} {first second : Nat}
    (highDigit : hexValue high = some first)
    (lowDigit : hexValue low = some second) :
    readPair [high, low] = UInt8.ofNat (16 * first + second) := by
  have firstSmall := hexValue_lt highDigit
  have secondSmall := hexValue_lt lowDigit
  have value : hexNumber [high, low] = 16 * first + second := by
    simp only [hexNumber, List.foldl_cons, List.foldl_nil, highDigit,
      lowDigit, Option.getD_some]
    omega
  have digits : ∀ unit ∈ [high, low], isHexDigit unit = true := by
    simp [isHexDigit, highDigit, lowDigit]
  have precise : hexNumber [high, low] < 2 ^ 53 := by omega
  have reduced :
      (((16 * first + second : Nat) : Int) % 256).toNat =
        16 * first + second := by
    omega
  rw [readPair, parseIntHex_digits digits (by simp) precise, value, toUint8,
    reduced]

/-- What was written is read back. -/
theorem readPairs_flatMap (bytes : Bytes) :
    readPairs (bytes.flatMap byteText) = bytes := by
  induction bytes with
  | nil => rfl
  | cons byte bytes induction =>
      have bound := byte.toNat_lt
      have spelled : 16 * (byte.toNat / 16) + byte.toNat % 16 = byte.toNat :=
        Nat.div_add_mod _ _
      rw [List.flatMap_cons, byteText, List.cons_append, List.cons_append,
        List.nil_append, readPairs, induction,
        readPair_digits (hexValue_hexUnit (by omega))
          (hexValue_hexUnit (by omega)), spelled, UInt8.ofNat_toNat]

/-! ## Hexadecimal texts -/

/-- An optional `0x` and an even number of hexadecimal digits. -/
def IsHexText (text : CodeUnits) : Prop :=
  ∃ digits,
    (text = digits ∨ text = literal "0x" ++ digits) ∧
      digits.length % 2 = 0 ∧ ∀ unit ∈ digits, isHexDigit unit = true

/-- `toLowerCase` of an ASCII letter. -/
def lowerCase (unit : UInt16) : UInt16 :=
  if 0x41 ≤ unit.toNat ∧ unit.toNat ≤ 0x5A then unit + 0x20 else unit

/-- A text of digits has no `0x` to take off. -/
theorem clean_digits (digits : ∀ unit ∈ text, isHexDigit unit = true) :
    clean text = text := by
  unfold clean
  split
  · next rest =>
    exact absurd rfl (hexDigit_apart (digits 0x78 (by simp))).2.1
  · rfl

/-- Taking off the `0x` is all that `clean` does. -/
theorem clean_cases (text : CodeUnits) :
    text = clean text ∨ text = literal "0x" ++ clean text := by
  unfold clean
  split
  · exact Or.inr rfl
  · exact Or.inl rfl

theorem isHexText_iff (text : CodeUnits) :
    IsHexText text ↔
      (clean text).length % 2 = 0 ∧
        ∀ unit ∈ clean text, isHexDigit unit = true := by
  constructor
  · rintro ⟨digits, rfl | rfl, even, each⟩
    · rw [clean_digits each]
      exact ⟨even, each⟩
    · exact ⟨even, each⟩
  · rintro ⟨even, each⟩
    exact ⟨clean text, clean_cases text, even, each⟩

theorem hexUnit_hexValue
    {unit : UInt16} {digit : Nat} (value : hexValue unit = some digit) :
    hexUnit digit = lowerCase unit := by
  simp only [hexValue] at value
  rw [← UInt16.toNat_inj, hexUnit, lowerCase]
  split_ifs at value with decimal lower upper
  · cases value
    rw [if_pos (by omega), if_neg (by omega), UInt16.toNat_ofNat']
    omega
  · cases value
    rw [if_neg (by omega), if_neg (by omega), UInt16.toNat_ofNat']
    omega
  · cases value
    rw [if_neg (by omega), if_pos (by omega), UInt16.toNat_ofNat',
      UInt16.toNat_add]
    simp only [UInt16.reduceToNat]
    omega

/-- The digits are written back in lower case. -/
theorem flatMap_readPairs
    (even : text.length % 2 = 0)
    (digits : ∀ unit ∈ text, isHexDigit unit = true) :
    (readPairs text).flatMap byteText = text.map lowerCase := by
  induction text using readPairs.induct with
  | case1 high low rest induction =>
      rcases Option.isSome_iff_exists.mp (digits high (by simp)) with
        ⟨first, highDigit⟩
      rcases Option.isSome_iff_exists.mp (digits low (by simp)) with
        ⟨second, lowDigit⟩
      have firstSmall := hexValue_lt highDigit
      have secondSmall := hexValue_lt lowDigit
      have shorter : rest.length % 2 = 0 := by
        simp only [List.length_cons] at even
        omega
      have behind :=
        induction shorter fun unit member => digits unit (by simp [member])
      have byte : (UInt8.ofNat (16 * first + second)).toNat =
          16 * first + second :=
        toNat_ofNat_of_lt (by omega)
      have quotient : (16 * first + second) / 16 = first := by omega
      have remainder : (16 * first + second) % 16 = second := by omega
      rw [readPairs, readPair_digits highDigit lowDigit, List.flatMap_cons,
        behind, byteText, byte, quotient, remainder,
        hexUnit_hexValue highDigit, hexUnit_hexValue lowDigit]
      rfl
  | case2 text short =>
      rcases eq_nil_or_single short with rfl | ⟨unit, rfl⟩
      · rfl
      · simp at even

/-! ## The texts that are read or refused as they should be -/

/--
What a reader of hexadecimal texts owes a text: the bytes that it spells, or
an error.
-/
def ReadsHex (text : CodeUnits) : Prop :=
  (IsHexText text →
      ∃ bytes,
        fromHex text = .ok bytes ∧ toHex bytes = (clean text).map lowerCase) ∧
    (¬IsHexText text → ∃ error, fromHex text = .error error)

theorem fromHex_of_even (even : (clean text).length % 2 = 0) :
    fromHex text = .ok (readPairs (clean text)) := by
  rw [fromHex_eq, if_neg (not_not.mpr even)]

theorem fromHex_of_odd (odd : (clean text).length % 2 = 1) :
    fromHex text = .error .oddLength := by
  rw [fromHex_eq, if_pos (by omega)]

theorem readsHex_iff (text : CodeUnits) :
    ReadsHex text ↔
      (∀ unit ∈ clean text, isHexDigit unit = true) ∨
        (clean text).length % 2 = 1 := by
  unfold ReadsHex
  rw [isHexText_iff]
  rcases Nat.mod_two_eq_zero_or_one (clean text).length with even | odd
  · rw [fromHex_of_even even]
    constructor
    · rintro ⟨-, refused⟩
      by_contra other
      rcases refused fun hexText => other (Or.inl hexText.2) with
        ⟨error, thrown⟩
      cases thrown
    · rintro (digits | odd)
      · refine ⟨fun _ => ⟨_, rfl, ?_⟩, fun other => ?_⟩
        · rw [toHex_eq_flatMap, flatMap_readPairs even digits]
        · exact absurd ⟨even, digits⟩ other
      · omega
  · refine ⟨fun _ => Or.inr odd, fun _ => ⟨fun hexText => ?_, fun _ => ?_⟩⟩
    · rw [hexText.1] at odd
      cases odd
    · exact ⟨_, fromHex_of_odd odd⟩

theorem isHexDigit_of_mem_flatMap (bytes : Bytes) :
    ∀ unit ∈ bytes.flatMap byteText, isHexDigit unit = true := by
  intro unit member
  rcases List.mem_flatMap.mp member with ⟨byte, -, written⟩
  have bound := byte.toNat_lt
  rw [byteText, List.mem_pair] at written
  rcases written with rfl | rfl
  · rw [isHexDigit, hexValue_hexUnit (by omega)]
    rfl
  · rw [isHexDigit, hexValue_hexUnit (by omega)]
    rfl

theorem length_flatMap_byteText (bytes : Bytes) :
    (bytes.flatMap byteText).length = 2 * bytes.length := by
  induction bytes with
  | nil => rfl
  | cons byte bytes induction =>
      rw [List.flatMap_cons, List.length_append, induction,
        List.length_cons, Nat.mul_succ, Nat.add_comm]
      rfl

theorem fromHex_toHex (bytes : Bytes) :
    fromHex (toHex bytes) = .ok bytes := by
  have clear := clean_digits (isHexDigit_of_mem_flatMap bytes)
  have even : (bytes.flatMap byteText).length % 2 = 0 := by
    rw [length_flatMap_byteText, Nat.mul_mod_right]
  rw [toHex_eq_flatMap, fromHex_of_even (by rw [clear, even]), clear,
    readPairs_flatMap]

/--
`fromHex` reads or refuses a text as it should exactly if there are only
digits behind an optional `0x`, or an odd number of units.  It inverts
`toHex`.
-/
theorem fromHex_law_and_round_trip (text : CodeUnits) (bytes : Bytes) :
    (ReadsHex text ↔
        (∀ unit ∈ clean text, isHexDigit unit = true) ∨
          (clean text).length % 2 = 1) ∧
      fromHex (toHex bytes) = .ok bytes :=
  ⟨readsHex_iff text, fromHex_toHex bytes⟩

/--
Letters, a sign or a space are read as bytes: a text without a digit gives a
zero, and `-1` gives 255.
-/
theorem other_texts_are_read :
    ¬ReadsHex (literal "zz") ∧
      fromHex (literal "zz") = .ok [0] ∧
        fromHex (literal "1g") = .ok [1] ∧
          fromHex (literal "-1") = .ok [255] ∧
            fromHex (literal "0x 7+0") = .ok [7, 0] := by
  refine ⟨?_, by decide +kernel, by decide +kernel, by decide +kernel,
    by decide +kernel⟩
  rw [readsHex_iff]
  rintro (digits | odd)
  · exact absurd (digits 0x7A List.mem_cons_self) (by decide)
  · exact absurd odd (by decide)

end Mls4rn.Core.HexText
