import Mls4rn.Lib.Utf8

/-!
# Percent-encoding of URI components

`encodeURIComponent` keeps the unreserved code units, writes every other
scalar value as the escapes of its UTF-8 bytes and throws on an unpaired
surrogate.  On a well-formed string this is the UTF-8 encoding with every
byte escaped that is not unreserved, from which the bytes can be read back.
So the encoding loses nothing, and it consists of unreserved code units and
percent signs.
-/

namespace Mls4rn.Lib.UriComponent

open Mls4rn.Lib.ByteString
open Mls4rn.Lib.Utf16

/-- A letter, a digit or one of the marks that are not escaped. -/
def isUnreserved (unit : UInt16) : Bool :=
  decide
    (0x41 ≤ unit.toNat ∧ unit.toNat ≤ 0x5A ∨
      0x61 ≤ unit.toNat ∧ unit.toNat ≤ 0x7A ∨
        0x30 ≤ unit.toNat ∧ unit.toNat ≤ 0x39 ∨
          unit.toNat ∈ [0x2D, 0x5F, 0x2E, 0x21, 0x7E, 0x2A, 0x27, 0x28, 0x29])

/-- The percent sign. -/
def percent : UInt16 := 0x25

/-- An upper-case hexadecimal digit. -/
def hexDigit (digit : Nat) : UInt16 :=
  UInt16.ofNat (if digit < 10 then 0x30 + digit else 0x37 + digit)

/-- The escape of a byte. -/
def escape (byte : UInt8) : CodeUnits :=
  [percent, hexDigit (byte.toNat / 16), hexDigit (byte.toNat % 16)]

/-- The escapes of the UTF-8 bytes of a scalar value. -/
def escapeScalar (scalar : Char) : CodeUnits :=
  (String.utf8EncodeChar scalar).flatMap escape

/-- `encodeURIComponent`; an unpaired surrogate is a `URIError`. -/
def encodeURIComponent : CodeUnits → Option CodeUnits
  | [] => some []
  | [unit] =>
      if isUnreserved unit then some [unit]
      else if isSurrogate unit then none
      else some (escapeScalar (unitScalar unit))
  | first :: second :: rest =>
      if isUnreserved first then
        (encodeURIComponent (second :: rest)).map (first :: ·)
      else if isLeading first && isTrailing second then
        (encodeURIComponent rest).map
          (escapeScalar (pairScalar first second) ++ ·)
      else if isSurrogate first then none
      else
        (encodeURIComponent (second :: rest)).map
          (escapeScalar (unitScalar first) ++ ·)

/-! ## The encoding byte by byte -/

/-- A byte as it is, if it is unreserved, or its escape. -/
def escapeByte (byte : UInt8) : CodeUnits :=
  if isUnreserved byte.toUInt16 then [byte.toUInt16] else escape byte

/-- The value of a hexadecimal digit. -/
def hexValue (unit : UInt16) : Nat :=
  if unit.toNat < 0x3A then unit.toNat - 0x30 else unit.toNat - 0x37

/-- Read escapes back. -/
def unescape : CodeUnits → Bytes
  | first :: high :: low :: rest =>
      if first = percent then
        UInt8.ofNat (16 * hexValue high + hexValue low) :: unescape rest
      else first.toUInt8 :: unescape (high :: low :: rest)
  | first :: rest => first.toUInt8 :: unescape rest
  | [] => []

variable {unit : UInt16}

theorem unescape_cons_of_ne (plain : unit ≠ percent) (rest : CodeUnits) :
    unescape (unit :: rest) = unit.toUInt8 :: unescape rest := by
  match rest with
  | [] => rw [unescape]; nofun
  | [_] => rw [unescape]; nofun
  | _ :: _ :: _ => rw [unescape, if_neg plain]

theorem unescape_escape (byte : UInt8) (rest : CodeUnits) :
    unescape (escape byte ++ rest) = byte :: unescape rest := by
  have digits :
      ∀ value : Fin 256,
        UInt8.ofNat
            (16 * hexValue (hexDigit (value.val / 16)) +
              hexValue (hexDigit (value.val % 16))) =
          UInt8.ofNat value.val := by
    decide +kernel
  have here := digits ⟨byte.toNat, byte.toNat_lt⟩
  simp only [UInt8.ofNat_toNat] at here
  rw [escape, List.cons_append, List.cons_append, List.cons_append,
    List.nil_append, unescape, if_pos rfl, here]

theorem unescape_escapeByte (byte : UInt8) (rest : CodeUnits) :
    unescape (escapeByte byte ++ rest) = byte :: unescape rest := by
  unfold escapeByte
  split
  · next unreserved =>
    have plain : byte.toUInt16 ≠ percent := by
      intro equal
      rw [equal] at unreserved
      exact absurd unreserved (by decide)
    rw [List.singleton_append, unescape_cons_of_ne plain]
    simp
  · exact unescape_escape byte rest

/-- The bytes can be read back. -/
theorem unescape_flatMap_escapeByte (bytes : Bytes) :
    unescape (bytes.flatMap escapeByte) = bytes := by
  induction bytes with
  | nil => rfl
  | cons byte bytes induction =>
      rw [List.flatMap_cons, unescape_escapeByte, induction]

/-! ## The code units of an encoding -/

/-- What an encoding is made of. -/
def isEncodedUnit (unit : UInt16) : Bool :=
  isUnreserved unit || decide (unit = percent)

theorem isEncodedUnit_escapeByte (byte : UInt8) :
    ∀ unit ∈ escapeByte byte, isEncodedUnit unit = true := by
  have digits :
      ∀ digit : Fin 16, isUnreserved (hexDigit digit.val) = true := by
    decide +kernel
  unfold escapeByte
  split
  · next unreserved =>
    intro unit member
    rw [List.mem_singleton.mp member, isEncodedUnit, unreserved]
    rfl
  · have small := byte.toNat_lt
    have high := digits ⟨byte.toNat / 16, by omega⟩
    have low := digits ⟨byte.toNat % 16, by omega⟩
    intro unit member
    simp only [escape, List.mem_cons, List.not_mem_nil, or_false] at member
    rcases member with rfl | rfl | rfl
    · decide
    · rw [isEncodedUnit, high]
      rfl
    · rw [isEncodedUnit, low]
      rfl

/-! ## Scalar values -/

theorem toNat_lt_of_isUnreserved (unreserved : isUnreserved unit = true) :
    unit.toNat < 128 := by
  simp only [isUnreserved, decide_eq_true_eq, List.mem_cons,
    List.not_mem_nil, or_false] at unreserved
  omega

theorem high_of_mem_utf8EncodeChar
    {scalar : Char} (high : 128 ≤ scalar.toNat) {byte : UInt8}
    (member : byte ∈ String.utf8EncodeChar scalar) : 128 ≤ byte.toNat := by
  have value : scalar.val.toNat = scalar.toNat := rfl
  unfold String.utf8EncodeChar at member
  simp only [value] at member
  rw [if_neg (by omega)] at member
  split at member
  · simp only [List.mem_cons, List.not_mem_nil, or_false] at member
    rcases member with rfl | rfl <;>
      simp only [UInt8.toNat_ofNat'] <;> omega
  · split at member
    · simp only [List.mem_cons, List.not_mem_nil, or_false] at member
      rcases member with rfl | rfl | rfl <;>
        simp only [UInt8.toNat_ofNat'] <;> omega
    · simp only [List.mem_cons, List.not_mem_nil, or_false] at member
      rcases member with rfl | rfl | rfl | rfl <;>
        simp only [UInt8.toNat_ofNat'] <;> omega

/-- The UTF-8 bytes of a reserved scalar value are all escaped. -/
theorem flatMap_escapeByte_of_reserved
    {scalar : Char}
    (reserved :
      scalar.toNat < 128 → isUnreserved (UInt16.ofNat scalar.toNat) = false) :
    (String.utf8EncodeChar scalar).flatMap escapeByte =
      escapeScalar scalar := by
  apply List.flatMap_congr
  intro byte member
  rw [escapeByte, if_neg]
  intro unreserved
  have low := toNat_lt_of_isUnreserved unreserved
  rw [UInt8.toNat_toUInt16] at low
  by_cases ascii : scalar.toNat < 128
  · have value : scalar.val.toNat = scalar.toNat := rfl
    unfold String.utf8EncodeChar at member
    simp only [value] at member
    rw [if_pos (by omega), List.mem_singleton] at member
    have same : byte.toUInt16 = UInt16.ofNat scalar.toNat := by
      rw [member]
      apply UInt16.toNat_inj.mp
      simp only [UInt8.toNat_toUInt16, UInt8.toNat_ofNat',
        UInt16.toNat_ofNat']
      omega
    rw [same, reserved ascii] at unreserved
    cases unreserved
  · have high := high_of_mem_utf8EncodeChar (by omega) member
    omega

/-- An unreserved unit stands for itself. -/
theorem flatMap_escapeByte_of_unreserved
    (unreserved : isUnreserved unit = true) :
    (String.utf8EncodeChar (unitScalar unit)).flatMap escapeByte =
      [unit] := by
  have ascii :
      ∀ value : Fin 128,
        isUnreserved (UInt16.ofNat value.val) = true →
          (String.utf8EncodeChar
            (unitScalar (UInt16.ofNat value.val))).flatMap escapeByte =
              [UInt16.ofNat value.val] := by
    decide +kernel
  have here := ascii ⟨unit.toNat, toNat_lt_of_isUnreserved unreserved⟩
  simp only [UInt16.ofNat_toNat] at here
  exact here unreserved

theorem flatMap_escapeByte_unitScalar
    (plain : isSurrogate unit = false) (reserved : isUnreserved unit = false) :
    (String.utf8EncodeChar (unitScalar unit)).flatMap escapeByte =
      escapeScalar (unitScalar unit) := by
  apply flatMap_escapeByte_of_reserved
  intro _
  rw [toNat_unitScalar plain, UInt16.ofNat_toNat]
  exact reserved

theorem flatMap_escapeByte_pairScalar
    {leading trailing : UInt16}
    (paired : (isLeading leading && isTrailing trailing) = true) :
    (String.utf8EncodeChar (pairScalar leading trailing)).flatMap escapeByte =
      escapeScalar (pairScalar leading trailing) := by
  rcases (Bool.and_eq_true _ _).mp paired with ⟨isLead, isTrail⟩
  have high := toNat_pairScalar isLead isTrail
  apply flatMap_escapeByte_of_reserved
  intro ascii
  omega

/-! ## Whole strings -/

theorem isLeading_of_isUnreserved (unreserved : isUnreserved unit = true) :
    isLeading unit = false := by
  have low := toNat_lt_of_isUnreserved unreserved
  rw [Bool.eq_false_iff, Ne, isLeading_iff]
  omega

/-- On a well-formed string the UTF-8 bytes are encoded one by one. -/
theorem encodeURIComponent_eq
    {text : CodeUnits} (wellFormed : isWellFormed text = true) :
    encodeURIComponent text =
      some ((Utf8.encode text).flatMap escapeByte) := by
  induction text using toScalars.induct with
  | case1 => rfl
  | case2 unit =>
      simp only [isWellFormed, Bool.not_eq_eq_eq_not, Bool.not_true]
        at wellFormed
      rw [encodeURIComponent, Utf8.encode, toScalars, List.flatMap_singleton]
      split
      · next unreserved =>
        rw [flatMap_escapeByte_of_unreserved unreserved]
      · next reserved =>
        rw [wellFormed, if_neg Bool.false_ne_true,
          flatMap_escapeByte_unitScalar wellFormed (by simpa using reserved)]
  | case3 first second rest paired induction =>
      simp only [isWellFormed, paired, if_true] at wellFormed
      have lead := ((Bool.and_eq_true _ _).mp paired).1
      have reserved : ¬ isUnreserved first = true := by
        intro unreserved
        rw [isLeading_of_isUnreserved unreserved] at lead
        cases lead
      rw [encodeURIComponent, if_neg reserved, if_pos paired,
        induction wellFormed, Utf8.encode, Utf8.encode, toScalars,
        if_pos paired, List.flatMap_cons, List.flatMap_append,
        flatMap_escapeByte_pairScalar paired, Option.map_some]
  | case4 first second rest unpaired induction =>
      simp only [isWellFormed, unpaired, if_false, Bool.and_eq_true,
        Bool.not_eq_eq_eq_not, Bool.not_true, Bool.false_eq_true]
        at wellFormed
      rw [encodeURIComponent, induction wellFormed.2, if_neg unpaired,
        Utf8.encode, Utf8.encode, toScalars, if_neg unpaired,
        List.flatMap_cons, List.flatMap_append]
      split
      · next unreserved =>
        rw [flatMap_escapeByte_of_unreserved unreserved]
        rfl
      · next reserved =>
        rw [wellFormed.1, if_neg Bool.false_ne_true,
          flatMap_escapeByte_unitScalar wellFormed.1
            (by simpa using reserved)]
        rfl

/-- The UTF-8 bytes can be read back from the encoding. -/
theorem unescape_encodeURIComponent
    {text : CodeUnits} (wellFormed : isWellFormed text = true)
    {encoded : CodeUnits}
    (written : encodeURIComponent text = some encoded) :
    unescape encoded = Utf8.encode text := by
  rw [encodeURIComponent_eq wellFormed] at written
  cases written
  exact unescape_flatMap_escapeByte _

/-- Different well-formed strings have different encodings. -/
theorem encodeURIComponent_injective
    {first second : CodeUnits} (firstFormed : isWellFormed first = true)
    (secondFormed : isWellFormed second = true)
    (same : encodeURIComponent first = encodeURIComponent second) :
    first = second := by
  have written := encodeURIComponent_eq secondFormed
  have bytes :=
    (unescape_encodeURIComponent firstFormed (same.trans written)).symm.trans
      (unescape_encodeURIComponent secondFormed written)
  have scalars := congrArg (Utf8.decodeFrom .none) bytes
  rw [Utf8.encode, Utf8.encode, Utf8.decodeFrom_flatMap_utf8EncodeChar,
    Utf8.decodeFrom_flatMap_utf8EncodeChar] at scalars
  rw [← ofScalars_toScalars first firstFormed, scalars,
    ofScalars_toScalars second secondFormed]

theorem isEncodedUnit_encodeURIComponent
    {text : CodeUnits} (wellFormed : isWellFormed text = true)
    {encoded : CodeUnits}
    (written : encodeURIComponent text = some encoded) :
    ∀ unit ∈ encoded, isEncodedUnit unit = true := by
  rw [encodeURIComponent_eq wellFormed] at written
  cases written
  intro unit member
  rcases List.mem_flatMap.mp member with ⟨byte, -, here⟩
  exact isEncodedUnit_escapeByte byte unit here

end Mls4rn.Lib.UriComponent
