import Mls4rn.Lib.ByteString
import Mls4rn.Lib.Utf16

/-!
# Base64 with padding, `btoa` and `atob`

`encode` is the padded encoding: three bytes become four digits of six bits,
and the last group is padded with `=`.  `btoa` applies it to a string whose
code units are bytes and refuses every other string.  `atob` is the forgiving
decoder, which skips white space and also accepts text without padding.
`atob_btoa` is the round trip.
-/

namespace Mls4rn.Lib.Base64

open Mls4rn.Lib.ByteString
open Mls4rn.Lib.Utf16

/-! ## Digits -/

/-- The code unit of the padding character `=`. -/
def padUnit : UInt16 := 0x3D

/-- The code unit of a six-bit digit. -/
def digitUnit (digit : Nat) : UInt16 :=
  if digit < 26 then UInt16.ofNat (0x41 + digit)
  else if digit < 52 then UInt16.ofNat (0x61 + (digit - 26))
  else if digit < 62 then UInt16.ofNat (0x30 + (digit - 52))
  else if digit = 62 then 0x2B
  else 0x2F

/-- The six-bit digit of a code unit of the alphabet. -/
def unitDigit (unit : UInt16) : Option Nat :=
  let value := unit.toNat
  if 0x41 ≤ value ∧ value ≤ 0x5A then some (value - 0x41)
  else if 0x61 ≤ value ∧ value ≤ 0x7A then some (value - 0x61 + 26)
  else if 0x30 ≤ value ∧ value ≤ 0x39 then some (value - 0x30 + 52)
  else if value = 0x2B then some 62
  else if value = 0x2F then some 63
  else none

theorem unitDigit_digitUnit {digit : Nat} (small : digit < 64) :
    unitDigit (digitUnit digit) = some digit := by
  have checked :
      ∀ index : Fin 64, unitDigit (digitUnit index) = some index.val := by
    decide
  exact checked ⟨digit, small⟩

theorem digitUnit_plain {digit : Nat} (small : digit < 64) :
    digitUnit digit ≠ padUnit ∧ 0x2B ≤ (digitUnit digit).toNat ∧
      (digitUnit digit).toNat ≤ 0x7A := by
  have checked :
      ∀ index : Fin 64,
        digitUnit index ≠ padUnit ∧ 0x2B ≤ (digitUnit index).toNat ∧
          (digitUnit index).toNat ≤ 0x7A := by
    decide
  exact checked ⟨digit, small⟩

/-! ## Groups of three bytes -/

/-- The digits of a byte string, without padding. -/
def encodeDigits : Bytes → List Nat
  | [] => []
  | [a] => [a.toNat / 4, a.toNat % 4 * 16]
  | [a, b] =>
      [a.toNat / 4, a.toNat % 4 * 16 + b.toNat / 16, b.toNat % 16 * 4]
  | a :: b :: c :: rest =>
      (a.toNat / 4) :: (a.toNat % 4 * 16 + b.toNat / 16) ::
        (b.toNat % 16 * 4 + c.toNat / 64) :: (c.toNat % 64) ::
          encodeDigits rest

/-- The bytes of a digit string; a single left-over digit is refused. -/
def decodeDigits : List Nat → Option Bytes
  | [] => some []
  | [_] => none
  | [p, q] => some [UInt8.ofNat (p * 4 + q / 16)]
  | [p, q, r] =>
      some [UInt8.ofNat (p * 4 + q / 16), UInt8.ofNat (q % 16 * 16 + r / 4)]
  | p :: q :: r :: s :: rest =>
      match decodeDigits rest with
      | none => none
      | some bytes =>
          some (UInt8.ofNat (p * 4 + q / 16) ::
            UInt8.ofNat (q % 16 * 16 + r / 4) ::
              UInt8.ofNat (r % 4 * 64 + s) :: bytes)

variable (bytes : Bytes)

theorem encodeDigits_lt :
    ∀ digit ∈ encodeDigits bytes, digit < 64 := by
  induction bytes using encodeDigits.induct with
  | case1 => simp [encodeDigits]
  | case2 a =>
      have boundA := a.toNat_lt
      simp only [encodeDigits, List.mem_cons, List.not_mem_nil, or_false]
      rintro digit (rfl | rfl) <;> omega
  | case3 a b =>
      have boundA := a.toNat_lt
      have boundB := b.toNat_lt
      simp only [encodeDigits, List.mem_cons, List.not_mem_nil, or_false]
      rintro digit (rfl | rfl | rfl) <;> omega
  | case4 a b c rest induction =>
      have boundA := a.toNat_lt
      have boundB := b.toNat_lt
      have boundC := c.toNat_lt
      simp only [encodeDigits, List.mem_cons]
      rintro digit (rfl | rfl | rfl | rfl | member)
      · omega
      · omega
      · omega
      · omega
      · exact induction digit member

theorem length_encodeDigits :
    (encodeDigits bytes).length = (4 * bytes.length + 2) / 3 := by
  induction bytes using encodeDigits.induct with
  | case1 => rfl
  | case2 a => simp [encodeDigits]
  | case3 a b => simp [encodeDigits]
  | case4 a b c rest induction =>
      simp only [encodeDigits, List.length_cons, induction]
      omega

private theorem ofNat_toNat_of_eq {n : Nat} {byte : UInt8}
    (equal : n = byte.toNat) : UInt8.ofNat n = byte := by
  rw [equal, UInt8.ofNat_toNat]

/-- The digits determine the bytes. -/
theorem decodeDigits_encodeDigits :
    decodeDigits (encodeDigits bytes) = some bytes := by
  induction bytes using encodeDigits.induct with
  | case1 => rfl
  | case2 a =>
      have first :
          UInt8.ofNat (a.toNat / 4 * 4 + a.toNat % 4 * 16 / 16) = a :=
        ofNat_toNat_of_eq (by omega)
      simp only [encodeDigits, decodeDigits, first]
  | case3 a b =>
      have boundB := b.toNat_lt
      have first :
          UInt8.ofNat (a.toNat / 4 * 4 +
            (a.toNat % 4 * 16 + b.toNat / 16) / 16) = a :=
        ofNat_toNat_of_eq (by omega)
      have second :
          UInt8.ofNat ((a.toNat % 4 * 16 + b.toNat / 16) % 16 * 16 +
            b.toNat % 16 * 4 / 4) = b :=
        ofNat_toNat_of_eq (by omega)
      simp only [encodeDigits, decodeDigits, first, second]
  | case4 a b c rest induction =>
      have boundB := b.toNat_lt
      have boundC := c.toNat_lt
      have first :
          UInt8.ofNat (a.toNat / 4 * 4 +
            (a.toNat % 4 * 16 + b.toNat / 16) / 16) = a :=
        ofNat_toNat_of_eq (by omega)
      have second :
          UInt8.ofNat ((a.toNat % 4 * 16 + b.toNat / 16) % 16 * 16 +
            (b.toNat % 16 * 4 + c.toNat / 64) / 4) = b :=
        ofNat_toNat_of_eq (by omega)
      have third :
          UInt8.ofNat ((b.toNat % 16 * 4 + c.toNat / 64) % 4 * 64 +
            c.toNat % 64) = c :=
        ofNat_toNat_of_eq (by omega)
      simp only [encodeDigits, decodeDigits, induction, first, second, third]

/-! ## Padded text -/

/-- How many padding characters follow the digits. -/
def padCount (bytes : Bytes) : Nat :=
  (3 - bytes.length % 3) % 3

/-- The padded base64 text of a byte string. -/
def encode (bytes : Bytes) : CodeUnits :=
  (encodeDigits bytes).map digitUnit ++
    List.replicate (padCount bytes) padUnit

/-- Remove one or two trailing padding characters. -/
def stripPadding (text : CodeUnits) : CodeUnits :=
  if text.getLast? = some padUnit then
    if text.dropLast.getLast? = some padUnit then text.dropLast.dropLast
    else text.dropLast
  else text

/-- ASCII white space. -/
def isAsciiSpace (unit : UInt16) : Bool :=
  decide (unit.toNat ∈ [0x09, 0x0A, 0x0C, 0x0D, 0x20])

/-- The digits of unpadded text, unless a character is not a digit. -/
def readDigits : CodeUnits → Option (List Nat)
  | [] => some []
  | unit :: rest =>
      match unitDigit unit, readDigits rest with
      | some digit, some digits => some (digit :: digits)
      | _, _ => none

/-- Forgiving base64 decoding. -/
def decode (text : CodeUnits) : Option Bytes :=
  let data := text.filter fun unit => !isAsciiSpace unit
  let data := if data.length % 4 = 0 then stripPadding data else data
  match readDigits data with
  | none => none
  | some digits => decodeDigits digits

theorem readDigits_map_digitUnit
    (digits : List Nat) (small : ∀ digit ∈ digits, digit < 64) :
    readDigits (digits.map digitUnit) = some digits := by
  induction digits with
  | nil => rfl
  | cons digit digits induction =>
      have head := unitDigit_digitUnit (small digit (by simp))
      have tail :=
        induction fun other member => small other (by simp [member])
      simp only [List.map_cons, readDigits, head, tail]

theorem stripPadding_append
    (text : CodeUnits) (count : Nat) (short : count ≤ 2)
    (unpadded : text.getLast? ≠ some padUnit) :
    stripPadding (text ++ List.replicate count padUnit) = text := by
  interval_cases count
  · simp [stripPadding, unpadded]
  · simp [stripPadding, List.replicate, unpadded]
  · have two :
        text ++ List.replicate 2 padUnit =
          text ++ [padUnit] ++ [padUnit] := by
      simp [List.replicate]
    rw [two]
    simp [stripPadding]

/-- Decoding undoes encoding. -/
theorem decode_encode :
    decode (encode bytes) = some bytes := by
  have small := encodeDigits_lt bytes
  have plain :
      ∀ unit ∈ encode bytes, (!isAsciiSpace unit) = true := by
    intro unit member
    simp only [encode, List.mem_append, List.mem_map,
      List.mem_replicate] at member
    rcases member with ⟨digit, digitMember, rfl⟩ | ⟨_, rfl⟩
    · have range := digitUnit_plain (small digit digitMember)
      simp [isAsciiSpace]
      omega
    · decide
  have aligned : (encode bytes).length % 4 = 0 := by
    simp only [encode, List.length_append, List.length_map,
      length_encodeDigits, List.length_replicate, padCount]
    have residue :
        bytes.length % 3 = 0 ∨ bytes.length % 3 = 1 ∨
          bytes.length % 3 = 2 := by
      omega
    rcases residue with residue | residue | residue <;>
      rw [residue] <;> omega
  have unpadded :
      ((encodeDigits bytes).map digitUnit).getLast? ≠ some padUnit := by
    intro last
    have member := List.mem_of_getLast? last
    rcases List.mem_map.mp member with ⟨digit, digitMember, equal⟩
    exact (digitUnit_plain (small digit digitMember)).1 equal
  have short : padCount bytes ≤ 2 := by
    unfold padCount
    omega
  have stripped :
      stripPadding (encode bytes) = (encodeDigits bytes).map digitUnit :=
    stripPadding_append _ _ short unpadded
  simp only [decode, List.filter_eq_self.mpr plain, aligned, if_true,
    stripped, readDigits_map_digitUnit _ small,
    decodeDigits_encodeDigits]

/-- Every character of an encoding is ASCII and printable. -/
theorem encode_range :
    ∀ unit ∈ encode bytes, 0x2B ≤ unit.toNat ∧ unit.toNat ≤ 0x7A := by
  intro unit member
  simp only [encode, List.mem_append, List.mem_map,
    List.mem_replicate] at member
  rcases member with ⟨digit, digitMember, rfl⟩ | ⟨_, rfl⟩
  · exact (digitUnit_plain (encodeDigits_lt bytes digit digitMember)).2
  · decide

/-- Only the empty byte string has an empty encoding. -/
theorem encode_ne_nil {bytes : Bytes} (nonempty : bytes ≠ []) :
    encode bytes ≠ [] := by
  intro empty
  apply nonempty
  rw [← List.length_eq_zero_iff]
  have length := congrArg List.length empty
  simp only [encode, List.length_append, List.length_map,
    length_encodeDigits, List.length_nil] at length
  omega

/-! ## `btoa` and `atob` -/

/-- The bytes of a string all of whose code units are below 256. -/
def latin1Bytes (text : CodeUnits) : Bytes :=
  text.map fun unit => UInt8.ofNat unit.toNat

/-- The string whose code units are the given bytes. -/
def latin1Text (bytes : Bytes) : CodeUnits :=
  bytes.map fun byte => UInt16.ofNat byte.toNat

/-- `btoa`: `none` is the `InvalidCharacterError` for a unit above 255. -/
def btoa (text : CodeUnits) : Option CodeUnits :=
  if text.all fun unit => decide (unit.toNat ≤ 255) then
    some (encode (latin1Bytes text))
  else none

/-- `atob`: `none` is the `InvalidCharacterError` for malformed text. -/
def atob (text : CodeUnits) : Option CodeUnits :=
  (decode text).map latin1Text

theorem latin1Bytes_latin1Text :
    latin1Bytes (latin1Text bytes) = bytes := by
  induction bytes with
  | nil => rfl
  | cons byte bytes induction =>
      have bound := byte.toNat_lt
      have value : (UInt16.ofNat byte.toNat).toNat = byte.toNat := by
        rw [UInt16.toNat_ofNat']
        omega
      simp only [latin1Text, latin1Bytes, List.map_cons, value,
        UInt8.ofNat_toNat] at induction ⊢
      rw [induction]

theorem latin1Text_latin1Bytes
    (text : CodeUnits)
    (narrow : ∀ unit ∈ text, unit.toNat ≤ 255) :
    latin1Text (latin1Bytes text) = text := by
  induction text with
  | nil => rfl
  | cons unit text induction =>
      have bound := narrow unit (by simp)
      have value : (UInt8.ofNat unit.toNat).toNat = unit.toNat :=
        toNat_ofNat_of_lt (by omega)
      have tail :=
        induction fun other member => narrow other (by simp [member])
      simp only [latin1Text, latin1Bytes, List.map_cons, value,
        UInt16.ofNat_toNat] at tail ⊢
      rw [tail]

/-- `btoa` succeeds exactly on the strings without a unit above 255. -/
theorem btoa_eq_some_iff (text encoded : CodeUnits) :
    btoa text = some encoded ↔
      (∀ unit ∈ text, unit.toNat ≤ 255) ∧
        encoded = encode (latin1Bytes text) := by
  unfold btoa
  split
  · next narrow =>
    simp only [List.all_eq_true, decide_eq_true_eq] at narrow
    simp only [Option.some.injEq]
    constructor
    · rintro rfl
      exact ⟨narrow, rfl⟩
    · rintro ⟨_, rfl⟩
      rfl
  · next wide =>
    simp only [List.all_eq_true, decide_eq_true_eq] at wide
    simp only [reduceCtorEq, false_iff]
    exact fun both => wide both.1

/-- Every byte string is the argument of a successful `btoa`. -/
theorem btoa_latin1Text :
    btoa (latin1Text bytes) = some (encode bytes) := by
  rw [btoa_eq_some_iff, latin1Bytes_latin1Text]
  refine ⟨?_, rfl⟩
  intro unit member
  rcases List.mem_map.mp member with ⟨byte, _, rfl⟩
  have bound := byte.toNat_lt
  rw [UInt16.toNat_ofNat']
  omega

/-- `atob` undoes `btoa`. -/
theorem atob_btoa
    {text encoded : CodeUnits} (success : btoa text = some encoded) :
    atob encoded = some text := by
  rcases (btoa_eq_some_iff text encoded).mp success with ⟨narrow, rfl⟩
  rw [atob, decode_encode, Option.map_some,
    latin1Text_latin1Bytes text narrow]

end Mls4rn.Lib.Base64
