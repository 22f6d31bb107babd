import Mls4rn.Lib.Utf16

/-!
# JSON string literals

`JSON.stringify` writes a string between quotation marks.  Two-character
escapes cover the quotation mark, the backslash and five control characters;
the other control characters and every unpaired surrogate are written as a
`\u` escape.  All other code units stand for themselves, so the quoted text
of a string is well formed even when the string is not.

The reader is a small state machine over the code units behind the opening
quotation mark.
-/

namespace Mls4rn.Lib.JsonString

open Mls4rn.Lib.Utf16

/-- The quotation mark. -/
def quoteMark : UInt16 := 0x22

/-- The backslash. -/
def backslash : UInt16 := 0x5C

/-! ## Hexadecimal digits -/

/-- The lower-case hexadecimal digit of a number below 16. -/
def hexUnit (digit : Nat) : UInt16 :=
  UInt16.ofNat (if digit < 10 then 0x30 + digit else 0x57 + digit)

/-- The value of a hexadecimal digit of either case. -/
def hexValue (unit : UInt16) : Option Nat :=
  let code := unit.toNat
  if 0x30 ≤ code ∧ code ≤ 0x39 then some (code - 0x30)
  else if 0x61 ≤ code ∧ code ≤ 0x66 then some (code - 0x57)
  else if 0x41 ≤ code ∧ code ≤ 0x46 then some (code - 0x37)
  else none

theorem hexValue_hexUnit {digit : Nat} (small : digit < 16) :
    hexValue (hexUnit digit) = some digit := by
  revert digit
  decide

theorem hexUnit_narrow {digit : Nat} (small : digit < 16) :
    (hexUnit digit).toNat ≤ 255 := by
  revert digit
  decide

/-! ## Writing -/

/-- `\u` and four hexadecimal digits. -/
def unicodeEscape (unit : UInt16) : CodeUnits :=
  [backslash, 0x75, hexUnit (unit.toNat / 4096),
    hexUnit (unit.toNat / 256 % 16), hexUnit (unit.toNat / 16 % 16),
    hexUnit (unit.toNat % 16)]

/-- The code units with a two-character escape. -/
def shortEscapes : List (UInt16 × UInt16) :=
  [(0x08, 0x62), (0x09, 0x74), (0x0A, 0x6E), (0x0C, 0x66), (0x0D, 0x72),
    (quoteMark, quoteMark), (backslash, backslash)]

/-- One code unit that is not half of a surrogate pair. -/
def escapeUnit (unit : UInt16) : CodeUnits :=
  match shortEscapes.find? fun entry => entry.1 = unit with
  | some entry => [backslash, entry.2]
  | none =>
      if unit.toNat < 0x20 ∨ isSurrogate unit then unicodeEscape unit
      else [unit]

/-- The text between the quotation marks. -/
def quoteBody : CodeUnits → CodeUnits
  | [] => []
  | [unit] => escapeUnit unit
  | unit :: next :: rest =>
      if isLeading unit && isTrailing next then
        unit :: next :: quoteBody rest
      else escapeUnit unit ++ quoteBody (next :: rest)

/-- `QuoteJSONString`. -/
def quote (text : CodeUnits) : CodeUnits :=
  quoteMark :: (quoteBody text ++ [quoteMark])

/-! ## Reading -/

/-- What the next code unit belongs to. -/
inductive Mode where
  | plain
  | escape
  | unicode (missing value : Nat)
deriving DecidableEq, Repr

/-- The code unit named by the letter of a two-character escape. -/
def unescape (letter : UInt16) : Option UInt16 :=
  if letter = 0x2F then some 0x2F
  else (shortEscapes.find? fun entry => entry.2 = letter).map Prod.fst

/-- Put a code unit in front of what was read. -/
def pushUnit (unit : UInt16) :
    Option (CodeUnits × CodeUnits) → Option (CodeUnits × CodeUnits)
  | none => none
  | some (text, rest) => some (unit :: text, rest)

/-- Read up to the closing quotation mark; the result also has the rest. -/
def readFrom : Mode → CodeUnits → Option (CodeUnits × CodeUnits)
  | _, [] => none
  | .plain, unit :: rest =>
      if unit = quoteMark then some ([], rest)
      else if unit = backslash then readFrom .escape rest
      else if unit.toNat < 0x20 then none
      else pushUnit unit (readFrom .plain rest)
  | .escape, unit :: rest =>
      if unit = 0x75 then readFrom (.unicode 3 0) rest
      else
        match unescape unit with
        | none => none
        | some escaped => pushUnit escaped (readFrom .plain rest)
  | .unicode missing value, unit :: rest =>
      match hexValue unit with
      | none => none
      | some digit =>
          match missing with
          | 0 =>
              pushUnit (UInt16.ofNat (value * 16 + digit))
                (readFrom .plain rest)
          | missing + 1 =>
              readFrom (.unicode missing (value * 16 + digit)) rest

/-- Read a string literal behind its opening quotation mark. -/
def read (text : CodeUnits) : Option (CodeUnits × CodeUnits) :=
  readFrom .plain text

/-! ## Reading undoes writing -/

theorem readFrom_unicodeEscape (unit : UInt16) (rest : CodeUnits) :
    readFrom .plain (unicodeEscape unit ++ rest) =
      pushUnit unit (readFrom .plain rest) := by
  have bound := unit.toNat_lt
  have first : hexValue (hexUnit (unit.toNat / 4096)) = some _ :=
    hexValue_hexUnit (by omega)
  have second : hexValue (hexUnit (unit.toNat / 256 % 16)) = some _ :=
    hexValue_hexUnit (by omega)
  have third : hexValue (hexUnit (unit.toNat / 16 % 16)) = some _ :=
    hexValue_hexUnit (by omega)
  have fourth : hexValue (hexUnit (unit.toNat % 16)) = some _ :=
    hexValue_hexUnit (by omega)
  have value :
      (((0 * 16 + unit.toNat / 4096) * 16 + unit.toNat / 256 % 16) * 16 +
          unit.toNat / 16 % 16) * 16 + unit.toNat % 16 = unit.toNat := by
    omega
  have notQuote : ¬ backslash = quoteMark := by decide
  simp only [unicodeEscape, List.cons_append, List.nil_append, readFrom,
    notQuote, if_false, if_true, first, second, third, fourth, value,
    UInt16.ofNat_toNat]

theorem readFrom_escapeUnit (unit : UInt16) (rest : CodeUnits) :
    readFrom .plain (escapeUnit unit ++ rest) =
      pushUnit unit (readFrom .plain rest) := by
  unfold escapeUnit
  split
  · next entry found =>
    have each :
        ∀ entry ∈ shortEscapes,
          entry.2 ≠ 0x75 ∧ unescape entry.2 = some entry.1 := by
      simp only [shortEscapes, List.forall_mem_cons, List.not_mem_nil,
        false_implies, implies_true, and_true]
      decide
    have notQuote : ¬ backslash = quoteMark := by decide
    have same : entry.1 = unit := by simpa using List.find?_some found
    rcases each _ (List.mem_of_find?_eq_some found) with
      ⟨notUnicode, named⟩
    simp only [List.cons_append, List.nil_append, readFrom, notQuote,
      if_false, if_true, notUnicode, named, same]
  · next absent =>
    split
    · exact readFrom_unicodeEscape unit rest
    · next plain =>
      have notQuote : unit ≠ quoteMark := by
        rintro rfl
        exact absurd absent (by decide)
      have notBackslash : unit ≠ backslash := by
        rintro rfl
        exact absurd absent (by decide)
      have notControl : ¬ unit.toNat < 0x20 :=
        fun control => plain (Or.inl control)
      simp only [List.cons_append, List.nil_append, readFrom, notQuote,
        notBackslash, notControl, if_false]

theorem readFrom_surrogate
    (unit : UInt16) (rest : CodeUnits)
    (surrogate : isSurrogate unit = true) :
    readFrom .plain (unit :: rest) =
      pushUnit unit (readFrom .plain rest) := by
  have range := (isSurrogate_iff unit).mp surrogate
  have notQuote : unit ≠ quoteMark := by
    rintro rfl
    exact absurd range.1 (by decide)
  have notBackslash : unit ≠ backslash := by
    rintro rfl
    exact absurd range.1 (by decide)
  have notControl : ¬ unit.toNat < 0x20 := by omega
  simp only [readFrom, notQuote, notBackslash, notControl, if_false]

/-- A quoted string is read back, whatever follows it. -/
theorem read_quoteBody (text rest : CodeUnits) :
    read (quoteBody text ++ quoteMark :: rest) = some (text, rest) := by
  unfold read
  induction text using quoteBody.induct with
  | case1 => simp [quoteBody, readFrom]
  | case2 unit =>
      rw [quoteBody, readFrom_escapeUnit]
      simp [readFrom, pushUnit]
  | case3 unit next tail paired induction =>
      have both := (Bool.and_eq_true _ _).mp paired
      have leading : isSurrogate unit = true := by
        simp [isSurrogate, both.1]
      have trailing : isSurrogate next = true := by
        simp [isSurrogate, both.2]
      rw [quoteBody, if_pos paired, List.cons_append, List.cons_append,
        readFrom_surrogate unit _ leading,
        readFrom_surrogate next _ trailing, induction]
      rfl
  | case4 unit next tail unpaired induction =>
      rw [quoteBody, if_neg unpaired, List.append_assoc,
        readFrom_escapeUnit, induction]
      rfl

/-! ## Characters above Latin-1 -/

/--
Every code unit above 255 is an unpaired surrogate.  These are the strings
whose quoted text stays within Latin-1.
-/
def wideUnitsUnpaired : CodeUnits → Bool
  | [] => true
  | [unit] => decide (unit.toNat ≤ 255) || isSurrogate unit
  | unit :: next :: rest =>
      if isLeading unit && isTrailing next then false
      else
        (decide (unit.toNat ≤ 255) || isSurrogate unit) &&
          wideUnitsUnpaired (next :: rest)

theorem unicodeEscape_narrow (unit : UInt16) :
    ∀ written ∈ unicodeEscape unit, written.toNat ≤ 255 := by
  have bound := unit.toNat_lt
  intro written member
  simp only [unicodeEscape, List.mem_cons, List.not_mem_nil, or_false]
    at member
  rcases member with rfl | rfl | rfl | rfl | rfl | rfl
  · decide
  · decide
  all_goals exact hexUnit_narrow (by omega)

theorem escapeUnit_narrow_iff (unit : UInt16) :
    (∀ written ∈ escapeUnit unit, written.toNat ≤ 255) ↔
      (decide (unit.toNat ≤ 255) || isSurrogate unit) = true := by
  unfold escapeUnit
  split
  · next entry found =>
    have each :
        ∀ entry ∈ shortEscapes,
          entry.1.toNat ≤ 255 ∧ entry.2.toNat ≤ 255 := by
      simp only [shortEscapes, List.forall_mem_cons, List.not_mem_nil,
        false_implies, implies_true, and_true]
      decide
    have same : entry.1 = unit := by simpa using List.find?_some found
    rcases each _ (List.mem_of_find?_eq_some found) with
      ⟨unitNarrow, letterNarrow⟩
    have backslashNarrow : backslash.toNat ≤ 255 := by decide
    rw [same] at unitNarrow
    simp [unitNarrow, letterNarrow, backslashNarrow]
  · split
    · next escaped =>
      rw [iff_true_left (unicodeEscape_narrow unit), Bool.or_eq_true,
        decide_eq_true_eq]
      rcases escaped with control | surrogate
      · exact Or.inl (by omega)
      · exact Or.inr surrogate
    · next plain =>
      simp only [not_or, Bool.not_eq_true] at plain
      simp [plain.2]

/-- The quoted text is Latin-1 exactly when every wide unit is escaped. -/
theorem quoteBody_narrow_iff (text : CodeUnits) :
    (∀ written ∈ quoteBody text, written.toNat ≤ 255) ↔
      wideUnitsUnpaired text = true := by
  induction text using quoteBody.induct with
  | case1 => simp [quoteBody, wideUnitsUnpaired]
  | case2 unit =>
      rw [quoteBody, wideUnitsUnpaired]
      exact escapeUnit_narrow_iff unit
  | case3 unit next tail paired induction =>
      have leading := (isLeading_iff unit).mp
        ((Bool.and_eq_true _ _).mp paired).1
      rw [quoteBody, wideUnitsUnpaired, if_pos paired, if_pos paired]
      simp only [Bool.false_eq_true, iff_false]
      intro narrow
      have bound := narrow unit (by simp)
      omega
  | case4 unit next tail unpaired induction =>
      rw [quoteBody, wideUnitsUnpaired, if_neg unpaired,
        if_neg unpaired, Bool.and_eq_true, ← induction,
        ← escapeUnit_narrow_iff]
      simp only [List.mem_append, or_imp, forall_and]

/-! ## Surrogates -/

theorem isSurrogate_of_narrow {unit : UInt16} (narrow : unit.toNat ≤ 255) :
    isSurrogate unit = false := by
  rw [Bool.eq_false_iff, ne_eq, isSurrogate_iff]
  omega

/-- An escaped code unit is written without surrogates. -/
theorem escapeUnit_plain (unit : UInt16) :
    ∀ written ∈ escapeUnit unit, isSurrogate written = false := by
  cases surrogate : isSurrogate unit with
  | true =>
      have narrow := (escapeUnit_narrow_iff unit).mpr (by simp [surrogate])
      intro written member
      exact isSurrogate_of_narrow (narrow written member)
  | false =>
      unfold escapeUnit
      split
      · next entry found =>
        have each :
            ∀ entry ∈ shortEscapes, isSurrogate entry.2 = false := by
          simp only [shortEscapes, List.forall_mem_cons, List.not_mem_nil,
            false_implies, implies_true, and_true]
          decide
        have letter := each _ (List.mem_of_find?_eq_some found)
        have escape : isSurrogate backslash = false := by decide
        simp [letter, escape]
      · split
        · intro written member
          exact isSurrogate_of_narrow
            (unicodeEscape_narrow unit written member)
        · simp [surrogate]

/-- Quoted text has no unpaired surrogate, even if the text has one. -/
theorem isWellFormed_quoteBody_append (text rest : CodeUnits) :
    isWellFormed (quoteBody text ++ rest) = isWellFormed rest := by
  induction text using quoteBody.induct with
  | case1 => rfl
  | case2 unit =>
      rw [quoteBody, isWellFormed_append_of_plain (escapeUnit_plain unit)]
  | case3 unit next tail paired induction =>
      rw [quoteBody, if_pos paired, List.cons_append, List.cons_append,
        isWellFormed, if_pos paired, induction]
  | case4 unit next tail unpaired induction =>
      rw [quoteBody, if_neg unpaired, List.append_assoc,
        isWellFormed_append_of_plain (escapeUnit_plain unit), induction]

end Mls4rn.Lib.JsonString
