import Mls4rn.Lib.Utf16
import Mathlib.Data.Nat.Digits.Lemmas

/-!
# Decimal texts and number formats

The number grammar of JSON as a finite automaton, the decimal text of a
natural number, and the interface through which programs read and write
numbers.

`NumberFormat` leaves the numbers themselves abstract.  Its laws are those of
floating point numbers with 53 bits of precision; the decimal numbers of any
length have them too.
-/

namespace Mls4rn.Lib.NumberText

open Mls4rn.Lib.Utf16

/-! ## The number grammar -/

/-- A decimal digit. -/
def isDigit (unit : UInt16) : Bool :=
  decide (0x30 ≤ unit.toNat ∧ unit.toNat ≤ 0x39)

/-- `e` or `E`. -/
def isExponentMark (unit : UInt16) : Bool :=
  decide (unit = 0x65 ∨ unit = 0x45)

/-- The positions in a number literal. -/
inductive Position where
  | start
  | minus
  | zero
  | integer
  | point
  | fraction
  | mark
  | sign
  | exponent
deriving DecidableEq, Repr

/-- The position behind one more code unit. -/
def advance : Position → UInt16 → Option Position
  | .start, unit =>
      if unit = 0x2D then some .minus
      else if unit = 0x30 then some .zero
      else if isDigit unit then some .integer
      else none
  | .minus, unit =>
      if unit = 0x30 then some .zero
      else if isDigit unit then some .integer
      else none
  | .zero, unit =>
      if unit = 0x2E then some .point
      else if isExponentMark unit then some .mark
      else none
  | .integer, unit =>
      if isDigit unit then some .integer
      else if unit = 0x2E then some .point
      else if isExponentMark unit then some .mark
      else none
  | .point, unit => if isDigit unit then some .fraction else none
  | .fraction, unit =>
      if isDigit unit then some .fraction
      else if isExponentMark unit then some .mark
      else none
  | .mark, unit =>
      if unit = 0x2B ∨ unit = 0x2D then some .sign
      else if isDigit unit then some .exponent
      else none
  | .sign, unit => if isDigit unit then some .exponent else none
  | .exponent, unit => if isDigit unit then some .exponent else none

/-- Where a number may end. -/
def isFinal : Position → Bool
  | .zero | .integer | .fraction | .exponent => true
  | _ => false

/-- The rest of a number literal from a position on. -/
def accepts : Position → CodeUnits → Bool
  | position, [] => isFinal position
  | position, unit :: rest =>
      match advance position unit with
      | none => false
      | some next => accepts next rest

/-- The texts of the JSON number grammar. -/
def isNumberText (text : CodeUnits) : Bool :=
  accepts .start text

/-- The code units that occur in number literals. -/
def isNumberUnit (unit : UInt16) : Bool :=
  isDigit unit || isExponentMark unit ||
    decide (unit = 0x2B ∨ unit = 0x2D ∨ unit = 0x2E)

theorem isNumberUnit_of_advance
    {position next : Position} {unit : UInt16}
    (taken : advance position unit = some next) :
    isNumberUnit unit = true := by
  by_contra other
  simp only [isNumberUnit, Bool.or_eq_true, decide_eq_true_eq, not_or,
    Bool.not_eq_true] at other
  rcases other with ⟨⟨digit, mark⟩, plus, minus, point⟩
  have zero : unit ≠ 0x30 := by
    rintro rfl
    exact absurd digit (by decide)
  cases position <;>
    simp [advance, digit, mark, plus, minus, point, zero] at taken

variable {position : Position}

theorem accepts_units
    {text : CodeUnits} (accepted : accepts position text = true) :
    ∀ unit ∈ text, isNumberUnit unit = true := by
  induction text generalizing position with
  | nil => simp
  | cons unit rest induction =>
      cases taken : advance position unit with
      | none => simp [accepts, taken] at accepted
      | some next =>
          simp only [accepts, taken] at accepted
          intro other member
          rcases List.mem_cons.mp member with rfl | later
          · exact isNumberUnit_of_advance taken
          · exact induction accepted other later

/-- A number literal begins with a digit or a minus sign. -/
theorem isNumberText_head
    {text : CodeUnits} (accepted : isNumberText text = true) :
    ∃ unit rest, text = unit :: rest ∧
      (unit = 0x2D ∨ isDigit unit = true) := by
  cases text with
  | nil => exact absurd accepted (by decide)
  | cons unit rest =>
      refine ⟨unit, rest, rfl, ?_⟩
      by_contra other
      simp only [not_or, Bool.not_eq_true] at other
      have zero : unit ≠ 0x30 := by
        rintro rfl
        exact absurd other.2 (by decide)
      simp [isNumberText, accepts, advance, other.1, other.2, zero]
        at accepted

/-! ## Natural numbers -/

/-- The code unit of a digit below ten. -/
def digitUnit (digit : Nat) : UInt16 :=
  UInt16.ofNat (0x30 + digit)

/-- The value of a digit. -/
def digitValue (unit : UInt16) : Nat :=
  unit.toNat - 0x30

/-- The decimal text of a natural number. -/
def natText (number : Nat) : CodeUnits :=
  if number = 0 then [0x30]
  else (Nat.digits 10 number).reverse.map digitUnit

theorem digitUnit_spec {digit : Nat} (small : digit < 10) :
    isDigit (digitUnit digit) = true ∧
      digitValue (digitUnit digit) = digit ∧
        (digitUnit digit = 0x30 → digit = 0) := by
  revert digit
  decide

/-- Zero, or a leading digit that is not zero and further digits. -/
theorem natText_shape (number : Nat) :
    natText number = [0x30] ∧ number = 0 ∨
      ∃ lead digits,
        natText number = (lead :: digits).map digitUnit ∧
          lead ≠ 0 ∧ (∀ digit ∈ lead :: digits, digit < 10) ∧
            Nat.ofDigits 10 (lead :: digits).reverse = number := by
  by_cases zero : number = 0
  · exact Or.inl ⟨if_pos zero, zero⟩
  · refine Or.inr ?_
    have nonempty : Nat.digits 10 number ≠ [] :=
      Nat.digits_ne_nil_iff_ne_zero.mpr zero
    have last := Nat.getLast_digit_ne_zero 10 zero
    cases reversed : (Nat.digits 10 number).reverse with
    | nil => exact absurd (List.reverse_eq_nil_iff.mp reversed) nonempty
    | cons lead digits =>
        have back :
            Nat.digits 10 number = (lead :: digits).reverse := by
          rw [← reversed, List.reverse_reverse]
        refine ⟨lead, digits, ?_, ?_, ?_, ?_⟩
        · rw [natText, if_neg zero, reversed]
        · simp only [back, List.getLast_reverse, List.head_cons] at last
          exact last
        · intro digit member
          refine Nat.digits_lt_base (by decide) (m := number) ?_
          rw [back]
          exact List.mem_reverse.mpr member
        · rw [← back, Nat.ofDigits_digits]

/-- The value of a text of digits. -/
def natValue (text : CodeUnits) : Nat :=
  text.foldl (fun value unit => value * 10 + digitValue unit) 0

theorem foldl_digits
    (digits : List Nat) (small : ∀ digit ∈ digits, digit < 10)
    (start : Nat) :
    (digits.map digitUnit).foldl
        (fun value unit => value * 10 + digitValue unit) start =
      start * 10 ^ digits.length + Nat.ofDigits 10 digits.reverse := by
  induction digits generalizing start with
  | nil => simp
  | cons digit digits induction =>
      have value := (digitUnit_spec (small digit (by simp))).2.1
      rw [List.map_cons, List.foldl_cons, value,
        induction fun other member => small other (by simp [member]),
        List.reverse_cons, Nat.ofDigits_append, List.length_reverse,
        Nat.ofDigits_singleton, List.length_cons]
      ring

theorem natValue_natText (number : Nat) :
    natValue (natText number) = number := by
  rcases natText_shape number with
    ⟨shape, rfl⟩ | ⟨lead, digits, shape, _, small, value⟩
  · rw [shape]
    rfl
  · rw [natValue, shape, foldl_digits _ small, value]
    simp

/-- Different numbers have different texts. -/
theorem natText_injective : Function.Injective natText :=
  Function.LeftInverse.injective natValue_natText

/-- The digits of a natural number, at least one of them. -/
theorem natText_digits (number : Nat) :
    ∃ lead digits,
      natText number = (lead :: digits).map digitUnit ∧
        (∀ digit ∈ lead :: digits, digit < 10) ∧
          Nat.ofDigits 10 (lead :: digits).reverse = number ∧
            (lead = 0 → digits = []) := by
  rcases natText_shape number with
    ⟨shape, rfl⟩ | ⟨lead, digits, shape, notZero, small, value⟩
  · exact ⟨0, [], shape, by simp, by simp, fun _ => rfl⟩
  · exact ⟨lead, digits, shape, small, value, fun zero =>
      absurd zero notZero⟩

/-- A digit leads from one of these positions to the position itself. -/
def isRepeating : Position → Bool
  | .integer | .exponent => true
  | _ => false

theorem advance_digit
    (repeating : isRepeating position = true)
    {digit : Nat} (small : digit < 10) :
    advance position (digitUnit digit) = some position := by
  have spec := digitUnit_spec small
  cases position <;> simp_all [isRepeating, advance]

theorem accepts_digits
    (repeating : isRepeating position = true)
    (digits : List Nat) (small : ∀ digit ∈ digits, digit < 10)
    (rest : CodeUnits) :
    accepts position (digits.map digitUnit ++ rest) =
      accepts position rest := by
  induction digits with
  | nil => rfl
  | cons digit digits induction =>
      simp only [List.map_cons, List.cons_append, accepts,
        advance_digit repeating (small digit (by simp))]
      exact induction fun other member => small other (by simp [member])

/-- The position behind the integer part of a number. -/
def behindInteger (number : Nat) : Position :=
  if number = 0 then .zero else .integer

theorem advance_lead
    (early : position = .start ∨ position = .minus)
    {lead : Nat} (small : lead < 10) :
    advance position (digitUnit lead) = some (behindInteger lead) := by
  rcases early with rfl | rfl
  · revert lead
    decide
  · revert lead
    decide

theorem behindInteger_lead
    {lead : Nat} {digits : List Nat} (alone : lead = 0 → digits = []) :
    behindInteger (Nat.ofDigits 10 (lead :: digits).reverse) =
      behindInteger lead := by
  by_cases zero : lead = 0
  · rw [alone zero, zero]
    rfl
  · have positive :
        Nat.ofDigits 10 (lead :: digits).reverse ≠ 0 := by
      rw [List.reverse_cons, Nat.ofDigits_append, Nat.ofDigits_singleton]
      have power : 0 < 10 ^ digits.reverse.length := by positivity
      have product := Nat.mul_pos power (Nat.pos_of_ne_zero zero)
      omega
    rw [behindInteger, behindInteger, if_neg positive, if_neg zero]

/-- A decimal text is a number, with or without a minus sign. -/
theorem accepts_natText
    (early : position = .start ∨ position = .minus)
    (number : Nat) (rest : CodeUnits) :
    accepts position (natText number ++ rest) =
      accepts (behindInteger number) rest := by
  rcases natText_digits number with
    ⟨lead, digits, shape, small, rfl, alone⟩
  have first := advance_lead early (small lead (by simp))
  rw [behindInteger_lead alone, shape]
  simp only [List.map_cons, List.cons_append, accepts, first]
  by_cases zero : lead = 0
  · rw [alone zero]
    rfl
  · have further : behindInteger lead = .integer := if_neg zero
    rw [further]
    exact accepts_digits rfl digits
      (fun digit member => small digit (by simp [member])) rest

/-! ## Number formats -/

/-- Up to this number a counter takes a new value with every increment. -/
def exactBound : Nat :=
  2 ^ 53

/--
The numbers of a program as JSON sees them: their texts, the texts read back,
the numbers that have a text at all, and the values of a counter, by how often
it was incremented from zero.  A counter of floating point numbers stays where
it is behind `exactBound`, so its values are told apart only up to there.
`toBoolean` is the truth value of a number and `toUint32` its conversion to a
32-bit machine word.
-/
structure NumberFormat (Number : Type) where
  toText : Number → CodeUnits
  ofText : CodeUnits → Number
  isFinite : Number → Bool
  ofNat : Nat → Number
  toBoolean : Number → Bool
  toUint32 : Number → UInt32
  isNumberText_toText :
    ∀ number, isFinite number = true → isNumberText (toText number) = true
  isFinite_ofNat : ∀ count, isFinite (ofNat count) = true
  ofText_toText_ofNat : ∀ count, ofText (toText (ofNat count)) = ofNat count
  ofNat_injective :
    ∀ {first second}, first ≤ exactBound → second ≤ exactBound →
      ofNat first = ofNat second → first = second
  toUint32_ofText_toText :
    ∀ number, isFinite number = true →
      toUint32 (ofText (toText number)) = toUint32 number
  toUint32_of_not_finite :
    ∀ number, isFinite number = false → toUint32 number = 0

/-- A number format in which `-1` is a number of its own. -/
structure SignedFormat (Number : Type) extends NumberFormat Number where
  minusOne : Number
  isFinite_minusOne : isFinite minusOne = true
  ofText_toText_minusOne : ofText (toText minusOne) = minusOne
  minusOne_ne_ofNat : ∀ count, minusOne ≠ ofNat count

/-! ## Decimal numbers as a number format -/

/-- An integer divided by a power of ten, in lowest terms. -/
structure Decimal where
  mantissa : Int
  scale : Nat
  reduced : scale = 0 ∨ mantissa % 10 ≠ 0
deriving DecidableEq, Repr

/-- An integer. -/
def Decimal.ofInt (number : Int) : Decimal :=
  ⟨number, 0, Or.inl rfl⟩

/-- Divide an integer by a power of ten. -/
def Decimal.divide (mantissa : Int) : Nat → Decimal
  | 0 => .ofInt mantissa
  | scale + 1 =>
      if divisible : mantissa % 10 = 0 then divide (mantissa / 10) scale
      else ⟨mantissa, scale + 1, Or.inr divisible⟩

theorem Decimal.divide_self (number : Decimal) :
    divide number.mantissa number.scale = number := by
  rcases number with ⟨mantissa, scale, reduced⟩
  cases scale with
  | zero => rfl
  | succ scale =>
      have indivisible : ¬ mantissa % 10 = 0 := by
        rcases reduced with impossible | indivisible
        · cases impossible
        · exact indivisible
      exact dif_neg indivisible

/-- The parts of a number literal read so far. -/
structure Reading where
  negative : Bool
  mantissa : Nat
  scale : Nat
  exponentNegative : Bool
  exponent : Nat
deriving DecidableEq, Repr

/-- The reading before the first code unit. -/
def Reading.start : Reading :=
  ⟨false, 0, 0, false, 0⟩

/-- Take in the code unit that led to a position. -/
def Reading.push
    (reading : Reading) (position : Position) (unit : UInt16) : Reading :=
  match position with
  | .minus => { reading with negative := true }
  | .zero | .integer =>
      { reading with
        mantissa := reading.mantissa * 10 + digitValue unit }
  | .fraction =>
      { reading with
        mantissa := reading.mantissa * 10 + digitValue unit
        scale := reading.scale + 1 }
  | .sign =>
      { reading with exponentNegative := decide (unit = 0x2D) }
  | .exponent =>
      { reading with
        exponent := reading.exponent * 10 + digitValue unit }
  | _ => reading

/-- Read a number literal from a position on. -/
def readNumber : Position → Reading → CodeUnits → Reading
  | _, reading, [] => reading
  | position, reading, unit :: rest =>
      match advance position unit with
      | none => reading
      | some next => readNumber next (reading.push next unit) rest

/-- The value of a literal. -/
def Reading.value (reading : Reading) : Decimal :=
  let mantissa : Int :=
    if reading.negative then -reading.mantissa else reading.mantissa
  if reading.exponentNegative then
    .divide mantissa (reading.scale + reading.exponent)
  else
    .divide (mantissa * 10 ^ (reading.exponent - reading.scale))
      (reading.scale - reading.exponent)

/-- The decimal text of an integer. -/
def intText : Int → CodeUnits
  | .ofNat number => natText number
  | .negSucc number => 0x2D :: natText (number + 1)

/-- The text of an exponent that moves the point to the left. -/
def scaleText (scale : Nat) : CodeUnits :=
  if scale = 0 then [] else 0x65 :: 0x2D :: natText scale

/-- The text of a decimal number. -/
def Decimal.text (number : Decimal) : CodeUnits :=
  intText number.mantissa ++ scaleText number.scale

/-- The number of a literal. -/
def Decimal.ofText (text : CodeUnits) : Decimal :=
  (readNumber .start Reading.start text).value

theorem accepts_scaleText (number scale : Nat) :
    accepts (behindInteger number) (scaleText scale) = true := by
  have marked (rest : CodeUnits) :
      accepts (behindInteger number) (0x65 :: 0x2D :: rest) =
        accepts .sign rest := by
    unfold behindInteger
    split
    · rfl
    · rfl
  unfold scaleText
  split
  · unfold behindInteger
    split
    · rfl
    · rfl
  · rcases natText_digits scale with ⟨lead, digits, shape, small, -, -⟩
    have first := (digitUnit_spec (small lead (by simp))).1
    rw [marked, shape]
    simp only [List.map_cons, accepts, advance, first, if_true]
    have ended :=
      accepts_digits (rfl : isRepeating .exponent = true) digits
        (fun digit member => small digit (by simp [member])) []
    rw [List.append_nil] at ended
    exact ended

theorem Decimal.isNumberText_text (number : Decimal) :
    isNumberText number.text = true := by
  rcases number with ⟨mantissa, scale, -⟩
  cases mantissa with
  | ofNat number =>
      exact (accepts_natText (Or.inl rfl) number _).trans
        (accepts_scaleText number scale)
  | negSucc number =>
      exact (accepts_natText (Or.inr rfl) (number + 1) _).trans
        (accepts_scaleText (number + 1) scale)

theorem readNumber_digits
    (repeating : isRepeating position = true)
    (digits : List Nat) (small : ∀ digit ∈ digits, digit < 10)
    (reading : Reading) (rest : CodeUnits) :
    readNumber position reading (digits.map digitUnit ++ rest) =
      readNumber position
        ((digits.map digitUnit).foldl
          (fun reading unit => reading.push position unit) reading)
        rest := by
  induction digits generalizing reading with
  | nil => rfl
  | cons digit digits induction =>
      simp only [List.map_cons, List.cons_append, List.foldl_cons,
        readNumber, advance_digit repeating (small digit (by simp))]
      exact induction (fun other member => small other (by simp [member]))
        (reading.push position (digitUnit digit))

theorem foldl_push_integer (text : CodeUnits) (reading : Reading) :
    text.foldl (fun reading unit => reading.push .integer unit) reading =
      { reading with
        mantissa :=
          text.foldl (fun value unit => value * 10 + digitValue unit)
            reading.mantissa } := by
  induction text generalizing reading with
  | nil => rfl
  | cons unit text induction =>
      rw [List.foldl_cons, induction]
      rfl

theorem foldl_push_exponent (text : CodeUnits) (reading : Reading) :
    text.foldl (fun reading unit => reading.push .exponent unit) reading =
      { reading with
        exponent :=
          text.foldl (fun value unit => value * 10 + digitValue unit)
            reading.exponent } := by
  induction text generalizing reading with
  | nil => rfl
  | cons unit text induction =>
      rw [List.foldl_cons, induction]
      rfl

/-- Reading a decimal text behind an optional minus sign. -/
theorem readNumber_natText
    (early : position = .start ∨ position = .minus)
    (reading : Reading) (empty : reading.mantissa = 0) (number : Nat)
    (rest : CodeUnits) :
    readNumber position reading (natText number ++ rest) =
      readNumber (behindInteger number)
        { reading with mantissa := number } rest := by
  have value := natValue_natText number
  rcases natText_digits number with
    ⟨lead, digits, shape, small, sum, alone⟩
  have first := advance_lead early (small lead (by simp))
  have pushed :
      reading.push (behindInteger lead) (digitUnit lead) =
        { reading with mantissa := digitValue (digitUnit lead) } := by
    unfold behindInteger
    split
    · simp [Reading.push, empty]
    · simp [Reading.push, empty]
  rw [natValue, shape, List.map_cons, List.foldl_cons, Nat.zero_mul,
    Nat.zero_add] at value
  rw [← sum, behindInteger_lead alone, sum, shape]
  simp only [List.map_cons, List.cons_append, readNumber, first, pushed]
  by_cases zero : lead = 0
  · rw [alone zero, List.map_nil, List.foldl_nil] at value
    rw [alone zero, value]
    rfl
  · have further : behindInteger lead = .integer := if_neg zero
    rw [further,
      readNumber_digits rfl digits
        (fun digit member => small digit (by simp [member])),
      foldl_push_integer]
    simp only [value]

/-- Reading the exponent. -/
theorem readNumber_scaleText
    (number scale : Nat) (reading : Reading)
    (plain : reading.exponent = 0)
    (positive : reading.exponentNegative = false) :
    readNumber (behindInteger number) reading (scaleText scale) =
      { reading with
        exponentNegative := decide (scale ≠ 0)
        exponent := scale } := by
  rcases reading with ⟨negative, mantissa, places, sign, exponent⟩
  simp only at plain positive
  subst plain positive
  have marked (rest : CodeUnits) :
      readNumber (behindInteger number) ⟨negative, mantissa, places, false, 0⟩
          (0x65 :: 0x2D :: rest) =
        readNumber .sign ⟨negative, mantissa, places, true, 0⟩ rest := by
    unfold behindInteger
    split
    · rfl
    · rfl
  unfold scaleText
  split
  · next zero =>
    subst zero
    rfl
  · next nonzero =>
    have value := natValue_natText scale
    rcases natText_digits scale with ⟨lead, digits, shape, small, -, -⟩
    have first := (digitUnit_spec (small lead (by simp))).1
    rw [natValue, shape, List.map_cons, List.foldl_cons, Nat.zero_mul,
      Nat.zero_add] at value
    have rest :=
      readNumber_digits (rfl : isRepeating .exponent = true) digits
        (fun digit member => small digit (by simp [member]))
        ⟨negative, mantissa, places, true, digitValue (digitUnit lead)⟩ []
    rw [List.append_nil, foldl_push_exponent] at rest
    simp only [value] at rest
    rw [marked, shape]
    simp only [List.map_cons, readNumber, advance, first, if_true,
      Reading.push, Nat.zero_mul, Nat.zero_add, rest]
    simp [nonzero]

/-- A decimal number is read as it was written. -/
theorem Decimal.ofText_text (number : Decimal) :
    ofText number.text = number := by
  have reduced := divide_self number
  rcases number with ⟨mantissa, scale, lowest⟩
  have read (negative : Bool) (natural : Nat) :
      ({ Reading.start with
          negative
          mantissa := natural
          exponentNegative := decide (scale ≠ 0)
          exponent := scale } : Reading).value =
        divide (if negative then -(natural : Int) else natural) scale := by
    by_cases zero : scale = 0
    · subst zero
      simp [Reading.value, Reading.start]
    · simp [Reading.value, Reading.start, zero]
  cases mantissa with
  | ofNat natural =>
      rw [ofText, text, intText,
        readNumber_natText (Or.inl rfl) _ rfl,
        readNumber_scaleText _ _ _ rfl rfl]
      exact (read false natural).trans reduced
  | negSucc natural =>
      have minus :
          readNumber .start Reading.start
              (0x2D :: (natText (natural + 1) ++ scaleText scale)) =
            readNumber .minus { Reading.start with negative := true }
              (natText (natural + 1) ++ scaleText scale) :=
        rfl
      rw [ofText, text, intText, List.cons_append, minus,
        readNumber_natText (Or.inr rfl) _ rfl,
        readNumber_scaleText _ _ _ rfl rfl]
      exact (read true (natural + 1)).trans reduced

/-- The decimal numbers; as a machine word they lose their fraction. -/
def decimalFormat : NumberFormat Decimal where
  toText := Decimal.text
  ofText := Decimal.ofText
  isFinite := fun _ => true
  ofNat := fun count => .ofInt count
  toBoolean := fun number => decide (number.mantissa ≠ 0)
  toUint32 := fun number =>
    UInt32.ofInt (number.mantissa.tdiv (10 ^ number.scale))
  isNumberText_toText := fun number _ => number.isNumberText_text
  isFinite_ofNat := fun _ => rfl
  ofText_toText_ofNat := fun _ => Decimal.ofText_text _
  ofNat_injective := fun _ _ equal =>
    Int.ofNat.inj (congrArg Decimal.mantissa equal)
  toUint32_ofText_toText := fun number _ => by
    rw [Decimal.ofText_text]
  toUint32_of_not_finite := fun _ impossible => by
    exact absurd impossible (by decide)

/-- The decimal numbers, with their `-1`. -/
def signedDecimalFormat : SignedFormat Decimal where
  toNumberFormat := decimalFormat
  minusOne := .ofInt (-1)
  isFinite_minusOne := rfl
  ofText_toText_minusOne := Decimal.ofText_text _
  minusOne_ne_ofNat := fun _ equal => by
    have impossible := congrArg Decimal.mantissa equal
    cases impossible

end Mls4rn.Lib.NumberText
