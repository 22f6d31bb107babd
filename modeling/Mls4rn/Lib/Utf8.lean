import Mls4rn.Lib.ByteString
import Mls4rn.Lib.Utf16

/-!
# The default text encoder and text decoder

`TextEncoder.encode` converts a string to scalar values and writes each of
them in UTF-8.  `TextDecoder.decode` without options reads UTF-8, answers
U+FFFD for every malformed sequence, and then drops one leading U+FEFF.  The
last point is the only one at which the decoder does not undo the encoder on
well-formed strings, and `decode_encode_eq_iff` says so exactly.
-/

namespace Mls4rn.Lib.Utf8

open Mls4rn.Lib.ByteString
open Mls4rn.Lib.Utf16

/-- `TextEncoder.encode`. -/
def encode (text : CodeUnits) : Bytes :=
  (toScalars text).flatMap String.utf8EncodeChar

/-! ## The decoder -/

/-- What the decoder remembers between two bytes of one sequence. -/
structure Pending where
  needed : Nat
  codePoint : Nat
  lower : Nat
  upper : Nat

/-- Between two sequences. -/
def Pending.none : Pending :=
  ⟨0, 0, 0x80, 0xBF⟩

/-- Handle a byte that starts a sequence. -/
def lead (byte : UInt8) : List Char × Pending :=
  let value := byte.toNat
  if value ≤ 0x7F then
    ([Char.ofNat value], .none)
  else if 0xC2 ≤ value ∧ value ≤ 0xDF then
    ([], ⟨1, value % 0x20, 0x80, 0xBF⟩)
  else if 0xE0 ≤ value ∧ value ≤ 0xEF then
    ([], ⟨2, value % 0x10,
      if value = 0xE0 then 0xA0 else 0x80,
      if value = 0xED then 0x9F else 0xBF⟩)
  else if 0xF0 ≤ value ∧ value ≤ 0xF4 then
    ([], ⟨3, value % 0x08,
      if value = 0xF0 then 0x90 else 0x80,
      if value = 0xF4 then 0x8F else 0xBF⟩)
  else
    ([replacement], .none)

/--
The UTF-8 decoder.  A byte outside the expected range ends the current
sequence with an error and is then handled again as a first byte.
-/
def decodeFrom : Pending → Bytes → List Char
  | pending, [] => if pending.needed = 0 then [] else [replacement]
  | pending, byte :: rest =>
      if pending.needed = 0 then
        (lead byte).1 ++ decodeFrom (lead byte).2 rest
      else if byte.toNat < pending.lower ∨ pending.upper < byte.toNat then
        replacement :: ((lead byte).1 ++ decodeFrom (lead byte).2 rest)
      else if pending.needed = 1 then
        Char.ofNat (pending.codePoint * 0x40 + byte.toNat % 0x40) ::
          decodeFrom .none rest
      else
        decodeFrom
          ⟨pending.needed - 1,
            pending.codePoint * 0x40 + byte.toNat % 0x40, 0x80, 0xBF⟩
          rest

/-- Drop a leading byte order mark. -/
def dropByteOrderMark : List Char → List Char
  | [] => []
  | scalar :: rest =>
      if scalar = byteOrderMark then rest else scalar :: rest

/-- `TextDecoder.decode` without options. -/
def decode (bytes : Bytes) : CodeUnits :=
  ofScalars (dropByteOrderMark (decodeFrom .none bytes))

/-! ## One encoded scalar value -/

/-- A first byte that asks for no continuation is a whole sequence. -/
theorem decodeFrom_lead (byte : UInt8) (rest : Bytes) :
    decodeFrom .none (byte :: rest) =
      (lead byte).1 ++ decodeFrom (lead byte).2 rest := by
  simp [decodeFrom, Pending.none]

/-- The last continuation byte of a sequence completes the scalar value. -/
theorem decodeFrom_last
    {codePoint lower upper : Nat} (byte : UInt8) (rest : Bytes)
    (inRange : lower ≤ byte.toNat ∧ byte.toNat ≤ upper) :
    decodeFrom ⟨1, codePoint, lower, upper⟩ (byte :: rest) =
      Char.ofNat (codePoint * 0x40 + byte.toNat % 0x40) ::
        decodeFrom .none rest := by
  have inside : ¬ (byte.toNat < lower ∨ upper < byte.toNat) := by omega
  simp [decodeFrom, inside]

/-- An earlier continuation byte extends the code point. -/
theorem decodeFrom_middle
    {needed codePoint lower upper : Nat} (byte : UInt8) (rest : Bytes)
    (more : 1 < needed)
    (inRange : lower ≤ byte.toNat ∧ byte.toNat ≤ upper) :
    decodeFrom ⟨needed, codePoint, lower, upper⟩ (byte :: rest) =
      decodeFrom
        ⟨needed - 1, codePoint * 0x40 + byte.toNat % 0x40, 0x80, 0xBF⟩
        rest := by
  have inside : ¬ (byte.toNat < lower ∨ upper < byte.toNat) := by omega
  have notZero : needed ≠ 0 := by omega
  have notOne : needed ≠ 1 := by omega
  simp [decodeFrom, inside, notZero, notOne]

private theorem decodeFrom_two_bytes
    {value : Nat} (rest : Bytes)
    (range : 0x80 ≤ value ∧ value ≤ 0x7FF) :
    decodeFrom .none
        (UInt8.ofNat (value / 64 % 32 + 192) ::
          UInt8.ofNat (value % 64 + 128) :: rest) =
      Char.ofNat value :: decodeFrom .none rest := by
  have first :=
    toNat_ofNat_of_lt (n := value / 64 % 32 + 192) (by omega)
  have second :=
    toNat_ofNat_of_lt (n := value % 64 + 128) (by omega)
  have started :
      lead (UInt8.ofNat (value / 64 % 32 + 192)) =
        ([], ⟨1, value / 64, 0x80, 0xBF⟩) := by
    simp only [lead, first]
    rw [if_neg (by omega), if_pos (by omega)]
    congr 2
    omega
  rw [decodeFrom_lead, started, List.nil_append,
    decodeFrom_last _ _ (by omega), second]
  congr 2
  omega

private theorem decodeFrom_three_bytes
    {value : Nat} (rest : Bytes)
    (range : 0x800 ≤ value ∧ value ≤ 0xFFFF)
    (scalar : ¬ (0xD800 ≤ value ∧ value < 0xE000)) :
    decodeFrom .none
        (UInt8.ofNat (value / 4096 % 16 + 224) ::
          UInt8.ofNat (value / 64 % 64 + 128) ::
            UInt8.ofNat (value % 64 + 128) :: rest) =
      Char.ofNat value :: decodeFrom .none rest := by
  have first :=
    toNat_ofNat_of_lt (n := value / 4096 % 16 + 224) (by omega)
  have second :=
    toNat_ofNat_of_lt (n := value / 64 % 64 + 128) (by omega)
  have third :=
    toNat_ofNat_of_lt (n := value % 64 + 128) (by omega)
  have started :
      lead (UInt8.ofNat (value / 4096 % 16 + 224)) =
        ([], ⟨2, value / 4096,
          if value / 4096 % 16 + 224 = 0xE0 then 0xA0 else 0x80,
          if value / 4096 % 16 + 224 = 0xED then 0x9F else 0xBF⟩) := by
    simp only [lead, first]
    rw [if_neg (by omega), if_neg (by omega), if_pos (by omega)]
    congr 2
    omega
  rw [decodeFrom_lead, started, List.nil_append,
    decodeFrom_middle _ _ (by omega) (by split <;> split <;> omega),
    decodeFrom_last _ _ (by omega), second, third]
  congr 2
  omega

private theorem decodeFrom_four_bytes
    {value : Nat} (rest : Bytes)
    (range : 0x10000 ≤ value ∧ value < 0x110000) :
    decodeFrom .none
        (UInt8.ofNat (value / 262144 % 8 + 240) ::
          UInt8.ofNat (value / 4096 % 64 + 128) ::
            UInt8.ofNat (value / 64 % 64 + 128) ::
              UInt8.ofNat (value % 64 + 128) :: rest) =
      Char.ofNat value :: decodeFrom .none rest := by
  have first :=
    toNat_ofNat_of_lt (n := value / 262144 % 8 + 240) (by omega)
  have second :=
    toNat_ofNat_of_lt (n := value / 4096 % 64 + 128) (by omega)
  have third :=
    toNat_ofNat_of_lt (n := value / 64 % 64 + 128) (by omega)
  have fourth :=
    toNat_ofNat_of_lt (n := value % 64 + 128) (by omega)
  have started :
      lead (UInt8.ofNat (value / 262144 % 8 + 240)) =
        ([], ⟨3, value / 262144,
          if value / 262144 % 8 + 240 = 0xF0 then 0x90 else 0x80,
          if value / 262144 % 8 + 240 = 0xF4 then 0x8F else 0xBF⟩) := by
    simp only [lead, first]
    rw [if_neg (by omega), if_neg (by omega), if_neg (by omega),
      if_pos (by omega)]
    congr 2
    omega
  rw [decodeFrom_lead, started, List.nil_append,
    decodeFrom_middle _ _ (by omega) (by split <;> split <;> omega),
    decodeFrom_middle _ _ (by omega) (by omega),
    decodeFrom_last _ _ (by omega), second, third, fourth]
  congr 2
  omega

/-- The decoder reads one encoded scalar value and starts afresh after it. -/
theorem decodeFrom_utf8EncodeChar_append (scalar : Char) (rest : Bytes) :
    decodeFrom .none (String.utf8EncodeChar scalar ++ rest) =
      scalar :: decodeFrom .none rest := by
  have range := scalar_range scalar
  have value : scalar.val.toNat = scalar.toNat := rfl
  unfold String.utf8EncodeChar
  simp only [value]
  split
  · next ascii =>
    have first := toNat_ofNat_of_lt (n := scalar.toNat) (by omega)
    have started :
        lead (UInt8.ofNat scalar.toNat) = ([scalar], .none) := by
      simp only [lead, first, ascii, if_true, Char.ofNat_toNat]
    rw [List.singleton_append, decodeFrom_lead, started]
    rfl
  · split
    · rw [List.cons_append, List.singleton_append,
        decodeFrom_two_bytes rest (by omega), Char.ofNat_toNat]
    · split
      · rw [List.cons_append, List.cons_append, List.singleton_append,
          decodeFrom_three_bytes rest (by omega) range.2,
          Char.ofNat_toNat]
      · rw [List.cons_append, List.cons_append, List.cons_append,
          List.singleton_append,
          decodeFrom_four_bytes rest (by omega), Char.ofNat_toNat]

/-! ## Whole strings -/

/-- Decoding an encoded sequence of scalar values gives it back. -/
theorem decodeFrom_flatMap_utf8EncodeChar (scalars : List Char) :
    decodeFrom .none (scalars.flatMap String.utf8EncodeChar) =
      scalars := by
  induction scalars with
  | nil => simp [decodeFrom, Pending.none]
  | cons scalar scalars induction =>
      rw [List.flatMap_cons, decodeFrom_utf8EncodeChar_append, induction]

variable (text : CodeUnits)

theorem encode_eq_nil_iff :
    encode text = [] ↔ text = [] := by
  constructor
  · intro nothing
    have scalars := decodeFrom_flatMap_utf8EncodeChar (toScalars text)
    rw [show (toScalars text).flatMap String.utf8EncodeChar = [] from
      nothing] at scalars
    apply (toScalars_eq_nil_iff text).mp
    rw [← scalars]
    rfl
  · rintro rfl
    rfl

/-- What the default decoder makes of the default encoder's output. -/
theorem decode_encode :
    decode (encode text) =
      ofScalars (dropByteOrderMark (toScalars text)) := by
  rw [decode, encode, decodeFrom_flatMap_utf8EncodeChar]

/-- The string starts with U+FEFF. -/
def startsWithByteOrderMark (text : CodeUnits) : Bool :=
  decide (text.head? = some 0xFEFF)

theorem startsWithByteOrderMark_cons_iff (unit : UInt16) (rest : CodeUnits) :
    startsWithByteOrderMark (unit :: rest) = true ↔
      unit.toNat = 0xFEFF := by
  simp [startsWithByteOrderMark, ← UInt16.toNat_inj]

private theorem ofNat_eq_byteOrderMark_iff
    {value : Nat} (valid : value.isValidChar) :
    Char.ofNat value = byteOrderMark ↔ value = 0xFEFF := by
  constructor
  · intro equal
    have values := congrArg Char.toNat equal
    rw [Char.ofNat, dif_pos valid] at values
    exact values
  · rintro rfl
    rfl

theorem unitScalar_eq_byteOrderMark_iff (unit : UInt16) :
    unitScalar unit = byteOrderMark ↔ unit.toNat = 0xFEFF := by
  have bound := unit.toNat_lt
  unfold unitScalar
  split
  · next surrogate =>
    rw [isSurrogate_iff] at surrogate
    constructor
    · intro equal
      exact absurd equal (by decide)
    · omega
  · next plain =>
    rw [isSurrogate_iff] at plain
    apply ofNat_eq_byteOrderMark_iff
    simp only [Nat.isValidChar]
    omega

theorem pairScalar_ne_byteOrderMark
    (leading trailing : UInt16)
    (isLead : isLeading leading = true)
    (isTrail : isTrailing trailing = true) :
    pairScalar leading trailing ≠ byteOrderMark := by
  rw [isLeading_iff] at isLead
  rw [isTrailing_iff] at isTrail
  intro equal
  have value :=
    (ofNat_eq_byteOrderMark_iff (by
      simp only [Nat.isValidChar]
      omega)).mp equal
  omega

/-- Only a leading U+FEFF is dropped. -/
theorem dropByteOrderMark_toScalars :
    dropByteOrderMark (toScalars text) =
      if startsWithByteOrderMark text then toScalars text.tail
      else toScalars text := by
  cases text with
  | nil => simp [toScalars, dropByteOrderMark, startsWithByteOrderMark]
  | cons unit rest =>
      by_cases marked : unit.toNat = 0xFEFF
      · have notLeading : isLeading unit = false := by
          rw [Bool.eq_false_iff, ne_eq, isLeading_iff]
          omega
        rw [if_pos ((startsWithByteOrderMark_cons_iff unit rest).mpr marked)]
        rw [toScalars_cons_of_not_leading unit rest notLeading,
          dropByteOrderMark,
          if_pos ((unitScalar_eq_byteOrderMark_iff unit).mpr marked)]
        rfl
      · have unmarked : unitScalar unit ≠ byteOrderMark := by
          rw [ne_eq, unitScalar_eq_byteOrderMark_iff]
          exact marked
        rw [if_neg (by
          rw [startsWithByteOrderMark_cons_iff]
          exact marked)]
        cases rest with
        | nil => simp [toScalars, dropByteOrderMark, unmarked]
        | cons second rest =>
            by_cases paired : (isLeading unit && isTrailing second) = true
            · have both := (Bool.and_eq_true _ _).mp paired
              simp [toScalars, paired, dropByteOrderMark,
                pairScalar_ne_byteOrderMark unit second both.1 both.2]
            · simp [toScalars, paired, dropByteOrderMark, unmarked]

/-- The decoder answers a well-formed string, whatever was encoded. -/
theorem isWellFormed_decode (bytes : Bytes) :
    isWellFormed (decode bytes) = true :=
  isWellFormed_ofScalars _

private theorem isWellFormed_tail_of_byteOrderMark
    (wellFormed : isWellFormed text = true)
    (marked : startsWithByteOrderMark text = true) :
    isWellFormed text.tail = true := by
  cases text with
  | nil => rfl
  | cons unit rest =>
      rw [startsWithByteOrderMark_cons_iff] at marked
      have notLeading : isLeading unit = false := by
        rw [Bool.eq_false_iff, ne_eq, isLeading_iff]
        omega
      rw [isWellFormed_cons_of_not_leading unit rest notLeading,
        Bool.and_eq_true] at wellFormed
      exact wellFormed.2

/--
The default decoder undoes the default encoder on a well-formed string, up to
a leading byte order mark.
-/
theorem decode_encode_of_isWellFormed
    (wellFormed : isWellFormed text = true) :
    decode (encode text) =
      if startsWithByteOrderMark text then text.tail else text := by
  rw [decode_encode, dropByteOrderMark_toScalars]
  split
  · next marked =>
    exact ofScalars_toScalars text.tail
      (isWellFormed_tail_of_byteOrderMark text wellFormed marked)
  · exact ofScalars_toScalars text wellFormed

/-- Exactly the strings that come back unchanged. -/
theorem decode_encode_eq_iff :
    decode (encode text) = text ↔
      isWellFormed text = true ∧ startsWithByteOrderMark text = false := by
  constructor
  · intro unchanged
    have wellFormed : isWellFormed text = true :=
      unchanged ▸ isWellFormed_decode (encode text)
    refine ⟨wellFormed, ?_⟩
    rw [decode_encode_of_isWellFormed text wellFormed] at unchanged
    by_contra marked
    rw [Bool.not_eq_false] at marked
    rw [if_pos marked] at unchanged
    cases text with
    | nil => simp [startsWithByteOrderMark] at marked
    | cons unit rest =>
        have lengths := congrArg List.length unchanged
        simp at lengths
  · rintro ⟨wellFormed, unmarked⟩
    rw [decode_encode_of_isWellFormed text wellFormed, unmarked]
    simp

end Mls4rn.Lib.Utf8
