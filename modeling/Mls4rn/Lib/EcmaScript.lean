import Mls4rn.Lib.JsonString
import Mls4rn.Lib.NumberText

/-!
# Scripts of calls and literals

A fragment of the grammar of ECMAScript 2019: names of ASCII letters, digits,
`$` and `_`, string literals with the escapes of strict code, five
punctuators, and scripts whose statements are names, literals, member accesses
and calls that end with a semicolon.  A text outside the fragment is refused,
so what is read here is what the whole grammar reads.

Since this edition the line and paragraph separators stand for themselves in
string literals.  Every string literal of JSON is therefore a string literal
of ECMAScript with the same value.
-/

namespace Mls4rn.Lib.EcmaScript

open Mls4rn.Lib.JsonString
open Mls4rn.Lib.NumberText
open Mls4rn.Lib.Utf16

/-! ## Characters -/

/-- The line terminators. -/
def isLineTerminator (unit : UInt16) : Bool :=
  decide (unit = 0x0A ∨ unit = 0x0D ∨ unit = 0x2028 ∨ unit = 0x2029)

/-- White space, with the space separators of Unicode. -/
def isWhiteSpace (unit : UInt16) : Bool :=
  decide (unit ∈
    ([0x09, 0x0B, 0x0C, 0x20, 0xA0, 0xFEFF, 0x1680, 0x202F, 0x205F,
      0x3000] : List UInt16)) ||
    decide (0x2000 ≤ unit.toNat ∧ unit.toNat ≤ 0x200A)

/-- The first character of a name. -/
def isNameStart (unit : UInt16) : Bool :=
  decide (0x41 ≤ unit.toNat ∧ unit.toNat ≤ 0x5A) ||
    decide (0x61 ≤ unit.toNat ∧ unit.toNat ≤ 0x7A) ||
      decide (unit = 0x24 ∨ unit = 0x5F)

/-- The later characters of a name. -/
def isNamePart (unit : UInt16) : Bool :=
  isNameStart unit || isDigit unit

/-! ## String literals -/

/--
What the next code unit of a string literal belongs to.  `plain true` is
behind a backslash and a carriage return, which a line feed completes.
-/
inductive StringMode where
  | plain (behindReturn : Bool)
  | escape
  | unicode
  | digits (missing value : Nat)
  | codePoint (value : Option Nat)
deriving DecidableEq, Repr

/-- The code units of a code point, unpaired surrogates included. -/
def codePointUnits (value : Nat) : CodeUnits :=
  if value < 0x10000 then [UInt16.ofNat value]
  else
    [UInt16.ofNat (0xD800 + (value - 0x10000) / 0x400),
      UInt16.ofNat (0xDC00 + (value - 0x10000) % 0x400)]

/-- The control characters with an escape of one letter. -/
def letterEscapes : List (UInt16 × UInt16) :=
  [(0x62, 0x08), (0x74, 0x09), (0x6E, 0x0A), (0x76, 0x0B), (0x66, 0x0C),
    (0x72, 0x0D)]

/-- What an escaped character stands for; most stand for themselves. -/
def escapedUnit (letter : UInt16) : UInt16 :=
  match letterEscapes.find? fun entry => entry.1 = letter with
  | some entry => entry.2
  | none => letter

/--
Read a string literal up to the quotation mark that closes it.  A backslash
in front of a line terminator continues the literal on the next line.
-/
def readFrom (mark : UInt16) :
    StringMode → CodeUnits → Option (CodeUnits × CodeUnits)
  | _, [] => none
  | .plain behindReturn, unit :: rest =>
      if behindReturn ∧ unit = 0x0A then readFrom mark (.plain false) rest
      else if unit = mark then some ([], rest)
      else if unit = backslash then readFrom mark .escape rest
      else if unit = 0x0A ∨ unit = 0x0D then none
      else pushUnit unit (readFrom mark (.plain false) rest)
  | .escape, unit :: rest =>
      if unit = 0x75 then readFrom mark .unicode rest
      else if unit = 0x78 then readFrom mark (.digits 1 0) rest
      else if isDigit unit then
        if unit = 0x30 ∧ rest.head?.any isDigit = false then
          pushUnit 0 (readFrom mark (.plain false) rest)
        else none
      else if isLineTerminator unit then
        readFrom mark (.plain (decide (unit = 0x0D))) rest
      else pushUnit (escapedUnit unit) (readFrom mark (.plain false) rest)
  | .unicode, unit :: rest =>
      if unit = 0x7B then readFrom mark (.codePoint none) rest
      else
        match hexValue unit with
        | none => none
        | some digit => readFrom mark (.digits 2 digit) rest
  | .digits missing value, unit :: rest =>
      match hexValue unit with
      | none => none
      | some digit =>
          match missing with
          | 0 =>
              pushUnit (UInt16.ofNat (value * 16 + digit))
                (readFrom mark (.plain false) rest)
          | missing + 1 =>
              readFrom mark (.digits missing (value * 16 + digit)) rest
  | .codePoint value, unit :: rest =>
      if unit = 0x7D then
        match value with
        | none => none
        | some value =>
            (codePointUnits value).foldr pushUnit
              (readFrom mark (.plain false) rest)
      else
        match hexValue unit with
        | none => none
        | some digit =>
            if value.getD 0 * 16 + digit ≤ 0x10FFFF then
              readFrom mark (.codePoint (some (value.getD 0 * 16 + digit)))
                rest
            else none

/-! ## JSON strings are string literals -/

/-- The two readers at the same point of a JSON string. -/
inductive Follows : Mode → StringMode → Prop where
  | plain : Follows .plain (.plain false)
  | escape : Follows .escape .escape
  | unicode : Follows (.unicode 3 0) .unicode
  | digits (missing value : Nat) :
      Follows (.unicode missing value) (.digits missing value)

theorem pushUnit_eq_some
    {unit : UInt16} {read : Option (CodeUnits × CodeUnits)}
    {result : CodeUnits × CodeUnits}
    (pushed : pushUnit unit read = some result) :
    ∃ inner, read = some inner := by
  cases read with
  | none => cases pushed
  | some inner => exact ⟨inner, rfl⟩

/-- The escapes of JSON with one letter are those of ECMAScript. -/
theorem escapes_of_unescape
    {letter escaped : UInt16} (known : unescape letter = some escaped) :
    letter ≠ 0x78 ∧ isDigit letter = false ∧
      isLineTerminator letter = false ∧ escapedUnit letter = escaped := by
  unfold unescape at known
  split at known
  · next solidus =>
    cases known
    subst solidus
    decide
  · rcases Option.map_eq_some_iff.mp known with ⟨entry, found, rfl⟩
    have each :
        ∀ entry ∈ shortEscapes,
          entry.2 ≠ 0x78 ∧ isDigit entry.2 = false ∧
            isLineTerminator entry.2 = false ∧
              escapedUnit entry.2 = entry.1 := by
      simp only [shortEscapes, List.forall_mem_cons, List.not_mem_nil,
        false_implies, implies_true, and_true]
      decide
    have same : entry.2 = letter := by simpa using List.find?_some found
    rw [← same]
    exact each entry (List.mem_of_find?_eq_some found)

/-- The two readers give the same from the same point on. -/
def Agree (text : CodeUnits) : Prop :=
  ∀ {jsonMode : Mode} {mode : StringMode}, Follows jsonMode mode →
    ∀ {result : CodeUnits × CodeUnits},
      JsonString.readFrom jsonMode text = some result →
        readFrom quoteMark mode text = some result

section Agreement

variable {unit : UInt16} {rest : CodeUnits} {result : CodeUnits × CodeUnits}

theorem Agree.push
    (agree : Agree rest)
    (read : pushUnit unit (JsonString.readFrom .plain rest) = some result) :
    pushUnit unit (readFrom quoteMark (.plain false) rest) =
      some result := by
  rcases pushUnit_eq_some read with ⟨inner, readInner⟩
  rw [agree .plain readInner, ← readInner]
  exact read

theorem Agree.plain
    (agree : Agree rest)
    (read : JsonString.readFrom .plain (unit :: rest) = some result) :
    readFrom quoteMark (.plain false) (unit :: rest) = some result := by
  rw [JsonString.readFrom] at read
  rw [readFrom, if_neg (fun behind => Bool.false_ne_true behind.1)]
  by_cases closing : unit = quoteMark
  · rw [if_pos closing] at read ⊢
    exact read
  · rw [if_neg closing] at read ⊢
    by_cases escaping : unit = backslash
    · rw [if_pos escaping] at read ⊢
      exact agree .escape read
    · rw [if_neg escaping] at read ⊢
      by_cases control : unit.toNat < 0x20
      · rw [if_pos control] at read
        cases read
      · have notBreak : ¬ (unit = 0x0A ∨ unit = 0x0D) := by
          rintro (rfl | rfl)
          · exact control (by decide)
          · exact control (by decide)
        rw [if_neg control] at read
        rw [if_neg notBreak]
        exact agree.push read

theorem Agree.escape
    (agree : Agree rest)
    (read : JsonString.readFrom .escape (unit :: rest) = some result) :
    readFrom quoteMark .escape (unit :: rest) = some result := by
  rw [JsonString.readFrom] at read
  rw [readFrom]
  by_cases unicode : unit = 0x75
  · rw [if_pos unicode] at read ⊢
    exact agree .unicode read
  · rw [if_neg unicode] at read ⊢
    cases known : unescape unit with
    | none =>
        rw [known] at read
        cases read
    | some escaped =>
        rcases escapes_of_unescape known with
          ⟨notHex, notDigit, sameLine, value⟩
        rw [known] at read
        rw [if_neg notHex, notDigit, sameLine, value,
          if_neg Bool.false_ne_true, if_neg Bool.false_ne_true]
        exact agree.push read

theorem Agree.unicode
    (agree : Agree rest)
    (read : JsonString.readFrom (.unicode 3 0) (unit :: rest) = some result) :
    readFrom quoteMark .unicode (unit :: rest) = some result := by
  rw [JsonString.readFrom] at read
  rw [readFrom]
  cases known : hexValue unit with
  | none =>
      rw [known] at read
      cases read
  | some digit =>
      have notBrace : unit ≠ 0x7B := by
        rintro rfl
        cases known
      rw [known] at read
      rw [if_neg notBrace]
      simp only [Nat.zero_mul, Nat.zero_add] at read
      exact agree (.digits 2 digit) read

theorem Agree.digits
    (agree : Agree rest) {missing value : Nat}
    (read :
      JsonString.readFrom (.unicode missing value) (unit :: rest) =
        some result) :
    readFrom quoteMark (.digits missing value) (unit :: rest) =
      some result := by
  rw [JsonString.readFrom] at read
  rw [readFrom]
  cases known : hexValue unit with
  | none =>
      rw [known] at read
      cases read
  | some digit =>
      rw [known] at read
      cases missing with
      | zero => exact agree.push read
      | succ missing => exact agree (.digits missing _) read

end Agreement

/-- What the reader of JSON accepts, the reader of ECMAScript accepts. -/
theorem agree (text : CodeUnits) : Agree text := by
  induction text with
  | nil =>
      intro jsonMode mode follows result read
      simp [JsonString.readFrom] at read
  | cons unit rest induction =>
      intro jsonMode mode follows result read
      cases follows with
      | plain => exact induction.plain read
      | escape => exact induction.escape read
      | unicode => exact induction.unicode read
      | digits missing value => exact induction.digits read

/-- A JSON string is read as the text it was written for. -/
theorem readFrom_quoteBody (text rest : CodeUnits) :
    readFrom quoteMark (.plain false)
        (quoteBody text ++ quoteMark :: rest) =
      some (text, rest) :=
  agree _ .plain (read_quoteBody text rest)

/-! ## Tokens -/

/-- The punctuators of the fragment. -/
inductive Punctuator where
  | dot
  | openParen
  | closeParen
  | comma
  | semicolon
deriving DecidableEq, Repr

/-- The punctuator that a code unit is. -/
def punctuator (unit : UInt16) : Option Punctuator :=
  if unit = 0x2E then some .dot
  else if unit = 0x28 then some .openParen
  else if unit = 0x29 then some .closeParen
  else if unit = 0x2C then some .comma
  else if unit = 0x3B then some .semicolon
  else none

/-- A token; a string literal is kept as its value. -/
inductive Token where
  | name (text : CodeUnits)
  | string (value : CodeUnits)
  | punctuator (mark : Punctuator)
deriving DecidableEq, Repr

/-- The tokens of a text, with fuel for each token and space. -/
def tokens : Nat → CodeUnits → Option (List Token)
  | 0, _ => none
  | _ + 1, [] => some []
  | fuel + 1, unit :: rest =>
      if isWhiteSpace unit || isLineTerminator unit then tokens fuel rest
      else if isNameStart unit then
        (tokens fuel (rest.dropWhile isNamePart)).map fun later =>
          .name (unit :: rest.takeWhile isNamePart) :: later
      else if unit = quoteMark ∨ unit = 0x27 then
        match readFrom unit (.plain false) rest with
        | none => none
        | some (value, after) =>
            (tokens fuel after).map fun later => .string value :: later
      else
        match punctuator unit with
        | none => none
        | some mark =>
            (tokens fuel rest).map fun later => .punctuator mark :: later

theorem tokens_space (fuel : Nat) (rest : CodeUnits) :
    tokens (fuel + 1) (0x20 :: rest) = tokens fuel rest := by
  rw [tokens, if_pos (by decide)]

/-- A name up to a character that no name contains. -/
theorem tokens_name
    (fuel : Nat) {first next : UInt16} {parts rest : CodeUnits}
    (starts : isNameStart first = true)
    (visible : (isWhiteSpace first || isLineTerminator first) = false)
    (continues : parts.all isNamePart = true)
    (ends : isNamePart next = false) :
    tokens (fuel + 1) (first :: (parts ++ next :: rest)) =
      (tokens fuel (next :: rest)).map fun later =>
        .name (first :: parts) :: later := by
  have all := List.all_eq_true.mp continues
  rw [tokens, visible, if_neg Bool.false_ne_true, if_pos starts,
    List.takeWhile_append_of_pos all, List.dropWhile_append_of_pos all,
    List.takeWhile_cons_of_neg (by simp [ends]),
    List.dropWhile_cons_of_neg (by simp [ends]), List.append_nil]

/-- A JSON string is one token. -/
theorem tokens_quote (fuel : Nat) (text rest : CodeUnits) :
    tokens (fuel + 1) (quote text ++ rest) =
      (tokens fuel rest).map fun later => .string text :: later := by
  have opening :
      quote text ++ rest =
        quoteMark :: (quoteBody text ++ quoteMark :: rest) := by
    simp [quote]
  rw [opening, tokens, if_neg (by decide), if_neg (by decide),
    if_pos (Or.inl rfl), readFrom_quoteBody]

theorem tokens_punctuator
    (fuel : Nat) {unit : UInt16} {mark : Punctuator} (rest : CodeUnits)
    (known : punctuator unit = some mark) :
    tokens (fuel + 1) (unit :: rest) =
      (tokens fuel rest).map fun later => .punctuator mark :: later := by
  have among :
      unit = 0x2E ∨ unit = 0x28 ∨ unit = 0x29 ∨ unit = 0x2C ∨
        unit = 0x3B := by
    by_contra none
    simp only [not_or] at none
    simp [punctuator, none] at known
  have apart :
      (isWhiteSpace unit || isLineTerminator unit) = false ∧
        isNameStart unit = false ∧ unit ≠ quoteMark ∧ unit ≠ 0x27 := by
    rcases among with rfl | rfl | rfl | rfl | rfl
    all_goals decide
  rcases apart with ⟨visible, notName, notQuote, notApostrophe⟩
  rw [tokens, visible, notName, known, if_neg Bool.false_ne_true,
    if_neg Bool.false_ne_true,
    if_neg (not_or.mpr ⟨notQuote, notApostrophe⟩)]

/-! ## Statements -/

/-- Names, literals, member accesses and calls. -/
inductive Expression where
  | identifier (name : CodeUnits)
  | boolean (value : Bool)
  | string (value : CodeUnits)
  | member (object : Expression) (name : CodeUnits)
  | call (callee : Expression) (arguments : List Expression)

/-- An expression with its semicolon, or a semicolon alone. -/
inductive Statement where
  | expression (expression : Expression)
  | empty

/-- The names that are no identifiers. -/
def reservedWords : List String :=
  ["await", "break", "case", "catch", "class", "const", "continue",
    "debugger", "default", "delete", "do", "else", "enum", "export",
    "extends", "finally", "for", "function", "if", "implements", "import",
    "in", "instanceof", "interface", "let", "new", "null", "package",
    "private", "protected", "public", "return", "static", "super", "switch",
    "this", "throw", "try", "typeof", "var", "void", "while", "with",
    "yield"]

/-- A name as an expression, if the fragment has it. -/
def parseName (name : CodeUnits) : Option Expression :=
  if name = literal "true" then some (.boolean true)
  else if name = literal "false" then some (.boolean false)
  else if name ∈ reservedWords.map literal then none
  else some (.identifier name)

/-- The first part of an expression. -/
def parsePrimary : List Token → Option (Expression × List Token)
  | .name name :: rest => (parseName name).map fun found => (found, rest)
  | .string value :: rest => some (.string value, rest)
  | _ => none

mutual

/-- The member accesses and calls behind an expression. -/
def parseSuffixes :
    Nat → Expression → List Token → Option (Expression × List Token)
  | 0, _, _ => none
  | fuel + 1, object, .punctuator .dot :: .name name :: rest =>
      parseSuffixes fuel (.member object name) rest
  | fuel + 1, callee, .punctuator .openParen :: rest =>
      match parseArguments fuel rest with
      | none => none
      | some (arguments, after) =>
          parseSuffixes fuel (.call callee arguments) after
  | _ + 1, expression, rest => some (expression, rest)

/-- The arguments of a call and the parenthesis that closes it. -/
def parseArguments :
    Nat → List Token → Option (List Expression × List Token)
  | 0, _ => none
  | _ + 1, .punctuator .closeParen :: rest => some ([], rest)
  | fuel + 1, rest =>
      match parseExpression fuel rest with
      | some (argument, .punctuator .closeParen :: after) =>
          some ([argument], after)
      | some (argument, .punctuator .comma :: after) =>
          (parseArguments fuel after).map fun later =>
            (argument :: later.1, later.2)
      | _ => none

/-- An expression. -/
def parseExpression :
    Nat → List Token → Option (Expression × List Token)
  | 0, _ => none
  | fuel + 1, rest =>
      match parsePrimary rest with
      | none => none
      | some (first, after) => parseSuffixes fuel first after

end

/-- The statements of a script. -/
def parseStatements : Nat → List Token → Option (List Statement)
  | 0, _ => none
  | _ + 1, [] => some []
  | fuel + 1, .punctuator .semicolon :: rest =>
      (parseStatements fuel rest).map fun later => .empty :: later
  | fuel + 1, rest =>
      match parseExpression fuel rest with
      | some (expression, .punctuator .semicolon :: after) =>
          (parseStatements fuel after).map fun later =>
            .expression expression :: later
      | _ => none

/-- Read a script; a result is what the whole grammar reads. -/
def parseScript (text : CodeUnits) : Option (List Statement) :=
  match tokens (text.length + 1) text with
  | none => none
  | some found => parseStatements (found.length + 1) found

end Mls4rn.Lib.EcmaScript
