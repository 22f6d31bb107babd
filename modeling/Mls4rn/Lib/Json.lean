import Mls4rn.Lib.InsertionMap
import Mls4rn.Lib.JsonString
import Mls4rn.Lib.NumberText

/-!
# JSON values and their texts

`Json.stringify` is `JSON.stringify` on the values that survive it and
`Json.parse` is `JSON.parse`: white space between tokens is skipped, a
repeated member name keeps its first position and its last value, and
anything behind the value is an error.

The parser recurses on fuel, one unit for every nested call; since each call
consumes a code unit, the length of the text is enough.  `parse_stringify`
reads every written value back, up to what the texts of its numbers and its
repeated member names lose.
-/

namespace Mls4rn.Lib

open Mls4rn.Lib.Utf16
open Mls4rn.Lib.NumberText

/-- A JSON value over an abstract type of numbers. -/
inductive Json (Number : Type) where
  | null
  | bool (value : Bool)
  | number (value : Number)
  | string (text : CodeUnits)
  | array (items : List (Json Number))
  | object (members : List (CodeUnits × Json Number))

namespace Json

variable {Number : Type}

/-- The last value stored under a member name. -/
def member (name : CodeUnits) : Json Number → Option (Json Number)
  | .object members =>
      (members.find? fun entry => decide (entry.1 = name)).map Prod.snd
  | _ => none

/-! ## Punctuation -/

/-- A comma. -/
def comma : UInt16 := 0x2C

/-- A colon. -/
def colon : UInt16 := 0x3A

/-- An opening square bracket. -/
def openBracket : UInt16 := 0x5B

/-- A closing square bracket. -/
def closeBracket : UInt16 := 0x5D

/-- An opening brace. -/
def openBrace : UInt16 := 0x7B

/-- A closing brace. -/
def closeBrace : UInt16 := 0x7D

/-- JSON white space. -/
def isSpace (unit : UInt16) : Bool :=
  decide (unit = 0x09 ∨ unit = 0x0A ∨ unit = 0x0D ∨ unit = 0x20)

/-! ## Writing -/

section Writing

variable (format : NumberFormat Number)

mutual

/-- `JSON.stringify` of a value. -/
def stringify : Json Number → CodeUnits
  | .null => literal "null"
  | .bool true => literal "true"
  | .bool false => literal "false"
  | .number value =>
      if format.isFinite value then format.toText value
      else literal "null"
  | .string text => JsonString.quote text
  | .array items => openBracket :: (stringifyItems items ++ [closeBracket])
  | .object members =>
      openBrace :: (stringifyMembers members ++ [closeBrace])

/-- The items of an array, separated by commas. -/
def stringifyItems : List (Json Number) → CodeUnits
  | [] => []
  | [item] => stringify item
  | item :: next :: rest =>
      stringify item ++ comma :: stringifyItems (next :: rest)

/-- The members of an object, separated by commas. -/
def stringifyMembers : List (CodeUnits × Json Number) → CodeUnits
  | [] => []
  | [(name, value)] => JsonString.quote name ++ colon :: stringify value
  | (name, value) :: next :: rest =>
      JsonString.quote name ++
        colon :: (stringify value ++ comma :: stringifyMembers (next :: rest))

end

mutual

/--
`String(value)`: the conversion of a parsed value to a string.  An object with
a member `toString` hides the inherited method, and the conversion throws.
-/
def display : Json Number → Option CodeUnits
  | .null => some (literal "null")
  | .bool true => some (literal "true")
  | .bool false => some (literal "false")
  | .number value => some (format.toText value)
  | .string text => some text
  | .array items => displayItems items
  | .object members =>
      if members.any fun entry => decide (entry.1 = literal "toString") then
        none
      else
        some (literal "[object Object]")

/-- `Array.prototype.join`, in which `null` is empty. -/
def displayItems : List (Json Number) → Option CodeUnits
  | [] => some []
  | [.null] => some []
  | [item] => display item
  | .null :: next :: rest => do
      return comma :: (← displayItems (next :: rest))
  | item :: next :: rest => do
      return (← display item) ++ comma :: (← displayItems (next :: rest))

end

/-- The truth value of a value. -/
def truthy : Json Number → Bool
  | .null => false
  | .bool value => value
  | .number value => format.toBoolean value
  | .string text => decide (text ≠ [])
  | .array _ => true
  | .object _ => true

end Writing

/-! ## Reading -/

/-- Skip white space. -/
def skipSpace (text : CodeUnits) : CodeUnits :=
  text.dropWhile isSpace

/-- Read one of the three keywords. -/
def readWord (word : CodeUnits) (value : Json Number) (text : CodeUnits) :
    Option (Json Number × CodeUnits) :=
  if word.isPrefixOf text then some (value, text.drop word.length)
  else none

/-- Read a member name and the colon behind it. -/
def readName (text : CodeUnits) : Option (CodeUnits × CodeUnits) :=
  match skipSpace text with
  | [] => none
  | unit :: rest =>
      if unit = JsonString.quoteMark then
        match JsonString.read rest with
        | none => none
        | some (name, after) =>
            match skipSpace after with
            | [] => none
            | next :: last => if next = colon then some (name, last) else none
      else none

section Reading

variable (format : NumberFormat Number)

/-- Read a number literal as far as its code units reach. -/
def readNumberToken (text : CodeUnits) : Option (Json Number × CodeUnits) :=
  let token := text.takeWhile isNumberUnit
  if isNumberText token then
    some (.number (format.ofText token), text.dropWhile isNumberUnit)
  else none

/-- Read a keyword or a number. -/
def readScalar (text : CodeUnits) : Option (Json Number × CodeUnits) :=
  readWord (literal "null") .null text
    <|> readWord (literal "true") (.bool true) text
    <|> readWord (literal "false") (.bool false) text
    <|> readNumberToken format text

/-- What is to be read: a value, or what is left of an array or object. -/
inductive Task (Number : Type) where
  | value
  | items (done : List (Json Number))
  | members (done : List (CodeUnits × Json Number))

/-- Read on, with the fuel that bounds the nesting of calls. -/
def parseFrom : Nat → Task Number → CodeUnits →
    Option (Json Number × CodeUnits)
  | 0, _, _ => none
  | fuel + 1, .value, text =>
      match skipSpace text with
      | [] => none
      | unit :: rest =>
          if unit = JsonString.quoteMark then
            match JsonString.read rest with
            | none => none
            | some (value, after) => some (.string value, after)
          else if unit = openBracket then
            match skipSpace rest with
            | [] => none
            | next :: after =>
                if next = closeBracket then some (.array [], after)
                else parseFrom fuel (.items []) (next :: after)
          else if unit = openBrace then
            match skipSpace rest with
            | [] => none
            | next :: after =>
                if next = closeBrace then some (.object [], after)
                else parseFrom fuel (.members []) (next :: after)
          else readScalar format (unit :: rest)
  | fuel + 1, .items done, text =>
      match parseFrom fuel .value text with
      | none => none
      | some (item, rest) =>
          match skipSpace rest with
          | [] => none
          | unit :: after =>
              if unit = comma then
                parseFrom fuel (.items (done ++ [item])) after
              else if unit = closeBracket then
                some (.array (done ++ [item]), after)
              else none
  | fuel + 1, .members done, text =>
      match readName text with
      | none => none
      | some (name, behind) =>
          match parseFrom fuel .value behind with
          | none => none
          | some (value, rest) =>
              match skipSpace rest with
              | [] => none
              | unit :: after =>
                  if unit = comma then
                    parseFrom fuel
                      (.members (InsertionMap.setEntries done name value))
                      after
                  else if unit = closeBrace then
                    some
                      (.object (InsertionMap.setEntries done name value),
                        after)
                  else none

/-- `JSON.parse`; `none` is the `SyntaxError`. -/
def parse (text : CodeUnits) : Option (Json Number) :=
  match parseFrom format (text.length + 1) .value text with
  | none => none
  | some (value, rest) => if skipSpace rest = [] then some value else none

end Reading

/-! ## What reading gives back -/

section Reread

variable (format : NumberFormat Number)

mutual

/-- The value read from the text of a value. -/
def reread : Json Number → Json Number
  | .null => .null
  | .bool value => .bool value
  | .number value =>
      if format.isFinite value then
        .number (format.ofText (format.toText value))
      else .null
  | .string text => .string text
  | .array items => .array (rereadItems items)
  | .object members => .object (rereadMembers [] members)

/-- The items read from the text of an array. -/
def rereadItems : List (Json Number) → List (Json Number)
  | [] => []
  | item :: rest => reread item :: rereadItems rest

/-- The members read from the text of an object, behind those read before. -/
def rereadMembers (done : List (CodeUnits × Json Number)) :
    List (CodeUnits × Json Number) → List (CodeUnits × Json Number)
  | [] => done
  | (name, value) :: rest =>
      rereadMembers (InsertionMap.setEntries done name (reread value)) rest

end

end Reread

theorem reread_string (format : NumberFormat Number) (text : CodeUnits) :
    reread format (.string text) = .string text := by
  rw [reread]

/-- Distinct member names are all kept, in order. -/
theorem rereadMembers_of_nodup
    (format : NumberFormat Number)
    (done members : List (CodeUnits × Json Number))
    (distinct : ((done ++ members).map Prod.fst).Nodup) :
    rereadMembers format done members =
      done ++ members.map fun entry =>
        (entry.1, reread format entry.2) := by
  induction members generalizing done with
  | nil => simp [rereadMembers]
  | cons entry members induction =>
      rcases entry with ⟨name, value⟩
      have fresh : name ∉ done.map Prod.fst := by
        intro member
        simp only [List.map_append, List.map_cons, List.nodup_append]
          at distinct
        exact distinct.2.2 _ member name (by simp) rfl
      rw [rereadMembers, InsertionMap.setEntries_of_fresh _ _ fresh,
        induction]
      · simp
      · simpa using distinct

theorem reread_object_of_nodup
    (format : NumberFormat Number) {members : List (CodeUnits × Json Number)}
    (distinct : (members.map Prod.fst).Nodup) :
    reread format (.object members) =
      .object (members.map fun entry => (entry.1, reread format entry.2)) := by
  rw [reread, rereadMembers_of_nodup format [] members distinct,
    List.nil_append]

/-! ## Values that JSON can hold -/

section Serializable

variable (format : NumberFormat Number)

mutual

/--
Every number is the one that its text is read as, and no object has two
members of one name.
-/
def Serializable : Json Number → Prop
  | .null => True
  | .bool _ => True
  | .number value =>
      format.isFinite value = true ∧
        format.ofText (format.toText value) = value
  | .string _ => True
  | .array items => SerializableItems items
  | .object members =>
      (members.map Prod.fst).Nodup ∧ SerializableMembers members

/-- The items of such an array. -/
def SerializableItems : List (Json Number) → Prop
  | [] => True
  | item :: rest => Serializable item ∧ SerializableItems rest

/-- The members of such an object. -/
def SerializableMembers : List (CodeUnits × Json Number) → Prop
  | [] => True
  | (_, value) :: rest => Serializable value ∧ SerializableMembers rest

end

variable {format}

mutual

/-- Such a value is read back as it is. -/
theorem reread_of_serializable :
    ∀ {value : Json Number}, Serializable format value →
      reread format value = value
  | .null, _ => by rw [reread]
  | .bool _, _ => by rw [reread]
  | .number _, kept => by
      rw [Serializable] at kept
      rw [reread, if_pos kept.1, kept.2]
  | .string _, _ => by rw [reread]
  | .array items, kept => by
      rw [Serializable] at kept
      rw [reread, rereadItems_of_serializable kept]
  | .object members, kept => by
      rw [Serializable] at kept
      rw [reread_object_of_nodup format kept.1,
        map_reread_of_serializable kept.2]

theorem rereadItems_of_serializable :
    ∀ {items : List (Json Number)}, SerializableItems format items →
      rereadItems format items = items
  | [], _ => by rw [rereadItems]
  | item :: rest, kept => by
      rw [SerializableItems] at kept
      rw [rereadItems, reread_of_serializable kept.1,
        rereadItems_of_serializable kept.2]

theorem map_reread_of_serializable :
    ∀ {members : List (CodeUnits × Json Number)},
      SerializableMembers format members →
        (members.map fun entry => (entry.1, reread format entry.2)) = members
  | [], _ => rfl
  | (name, value) :: rest, kept => by
      rw [SerializableMembers] at kept
      rw [List.map_cons, reread_of_serializable kept.1,
        map_reread_of_serializable kept.2]

end

end Serializable

/-! ## Reading undoes writing -/

/-- What may follow a number: not a code unit that would prolong it. -/
def endsNumber : CodeUnits → Bool
  | [] => true
  | unit :: _ => !isNumberUnit unit

/-- A code unit that values begin with. -/
def startsValue (unit : UInt16) : Bool :=
  !isSpace unit && decide (unit ≠ closeBracket)

theorem skipSpace_cons
    (unit : UInt16) (rest : CodeUnits) (plain : isSpace unit = false) :
    skipSpace (unit :: rest) = unit :: rest := by
  simp [skipSpace, plain]

theorem readWord_append (word rest : CodeUnits) (value : Json Number) :
    readWord word value (word ++ rest) = some (value, rest) := by
  simp [readWord]

variable {format : NumberFormat Number}

theorem readNumberToken_append
    (token rest : CodeUnits)
    (accepted : isNumberText token = true)
    (ends : endsNumber rest = true) :
    readNumberToken format (token ++ rest) =
      some (.number (format.ofText token), rest) := by
  have units := accepts_units accepted
  have stop : rest.takeWhile isNumberUnit = [] := by
    cases rest with
    | nil => rfl
    | cons unit rest =>
        simp only [endsNumber, Bool.not_eq_true'] at ends
        simp [ends]
  have remain : rest.dropWhile isNumberUnit = rest := by
    cases rest with
    | nil => rfl
    | cons unit rest =>
        simp only [endsNumber, Bool.not_eq_true'] at ends
        simp [ends]
  simp [readNumberToken, List.takeWhile_append_of_pos units,
    List.dropWhile_append_of_pos units, stop, remain, accepted]

/-- A digit or a minus sign is none of the other beginnings of a value. -/
theorem numberHead_plain
    {unit : UInt16} (head : unit = 0x2D ∨ isDigit unit = true) :
    startsValue unit = true ∧ unit ≠ JsonString.quoteMark ∧
      unit ≠ openBracket ∧ unit ≠ openBrace ∧
        unit ≠ 0x6E ∧ unit ≠ 0x74 ∧ unit ≠ 0x66 := by
  rcases head with rfl | digit
  · decide
  · simp only [isDigit, decide_eq_true_eq] at digit
    have avoid (other : UInt16) (outside : 0x39 < other.toNat) :
        unit ≠ other := by
      rintro rfl
      omega
    have below (other : UInt16) (outside : other.toNat < 0x30) :
        unit ≠ other := by
      rintro rfl
      omega
    refine ⟨?_, below _ (by decide), avoid _ (by decide),
      avoid _ (by decide), avoid _ (by decide), avoid _ (by decide),
      avoid _ (by decide)⟩
    simp [startsValue, isSpace, below 0x09 (by decide),
      below 0x0A (by decide), below 0x0D (by decide),
      below 0x20 (by decide), avoid closeBracket (by decide)]

theorem readScalar_number
    (token rest : CodeUnits)
    (accepted : isNumberText token = true)
    (ends : endsNumber rest = true) :
    readScalar format (token ++ rest) =
      some (.number (format.ofText token), rest) := by
  rcases isNumberText_head accepted with ⟨unit, tail, rfl, head⟩
  rcases numberHead_plain head with ⟨_, _, _, _, notN, notT, notF⟩
  have noNull :
      readWord (literal "null") (.null : Json Number)
        ((unit :: tail) ++ rest) = none := by
    simp [readWord, literal, Ne.symm notN]
  have noTrue :
      readWord (literal "true") (.bool true : Json Number)
        ((unit :: tail) ++ rest) = none := by
    simp [readWord, literal, Ne.symm notT]
  have noFalse :
      readWord (literal "false") (.bool false : Json Number)
        ((unit :: tail) ++ rest) = none := by
    simp [readWord, literal, Ne.symm notF]
  rw [readScalar, noNull, noTrue, noFalse,
    readNumberToken_append _ _ accepted ends]
  rfl

theorem parseFrom_value_scalar
    {unit : UInt16} (fuel : Nat) (rest : CodeUnits)
    (starts : startsValue unit = true)
    (notQuote : unit ≠ JsonString.quoteMark)
    (notBracket : unit ≠ openBracket) (notBrace : unit ≠ openBrace) :
    parseFrom format (fuel + 1) .value (unit :: rest) =
      readScalar format (unit :: rest) := by
  simp only [startsValue, Bool.and_eq_true, Bool.not_eq_true'] at starts
  simp only [parseFrom, skipSpace_cons _ rest starts.1, notQuote, notBracket,
    notBrace, if_false]

theorem parseFrom_value_null (fuel : Nat) (rest : CodeUnits) :
    parseFrom format (fuel + 1) .value (literal "null" ++ rest) =
      some (.null, rest) := by
  change parseFrom format (fuel + 1) .value
    (0x6E :: (literal "ull" ++ rest)) = _
  rw [parseFrom_value_scalar fuel _ (by decide) (by decide) (by decide)
    (by decide)]
  change readScalar format (literal "null" ++ rest) = _
  rw [readScalar, readWord_append]
  rfl

theorem parseFrom_value_bool (fuel : Nat) (value : Bool) (rest : CodeUnits) :
    parseFrom format (fuel + 1) .value
        (stringify format (.bool value) ++ rest) =
      some (.bool value, rest) := by
  cases value with
  | true =>
      change parseFrom format (fuel + 1) .value
        (0x74 :: (literal "rue" ++ rest)) = _
      rw [parseFrom_value_scalar fuel _ (by decide) (by decide)
        (by decide) (by decide)]
      change readScalar format (literal "true" ++ rest) = _
      rw [readScalar, readWord_append]
      rfl
  | false =>
      change parseFrom format (fuel + 1) .value
        (0x66 :: (literal "alse" ++ rest)) = _
      rw [parseFrom_value_scalar fuel _ (by decide) (by decide)
        (by decide) (by decide)]
      change readScalar format (literal "false" ++ rest) = _
      rw [readScalar, readWord_append]
      rfl

theorem parseFrom_value_number
    (fuel : Nat) (value : Number) (rest : CodeUnits)
    (finite : format.isFinite value = true)
    (ends : endsNumber rest = true) :
    parseFrom format (fuel + 1) .value (format.toText value ++ rest) =
      some (.number (format.ofText (format.toText value)), rest) := by
  have accepted := format.isNumberText_toText value finite
  rw [← readScalar_number _ rest accepted ends]
  rcases isNumberText_head accepted with ⟨unit, tail, shape, head⟩
  rcases numberHead_plain head with
    ⟨starts, notQuote, notBracket, notBrace, _⟩
  rw [shape]
  exact parseFrom_value_scalar fuel _ starts notQuote notBracket notBrace

theorem quote_append (text rest : CodeUnits) :
    JsonString.quote text ++ rest =
      JsonString.quoteMark ::
        (JsonString.quoteBody text ++ JsonString.quoteMark :: rest) := by
  simp [JsonString.quote]

theorem parseFrom_value_string (fuel : Nat) (text rest : CodeUnits) :
    parseFrom format (fuel + 1) .value (JsonString.quote text ++ rest) =
      some (.string text, rest) := by
  rw [quote_append]
  simp only [parseFrom,
    skipSpace_cons JsonString.quoteMark _ (by decide),
    JsonString.read_quoteBody, if_true]

theorem readName_quote (name rest : CodeUnits) :
    readName (JsonString.quote name ++ colon :: rest) =
      some (name, rest) := by
  rw [quote_append]
  simp only [readName,
    skipSpace_cons JsonString.quoteMark _ (by decide),
    skipSpace_cons colon _ (by decide),
    JsonString.read_quoteBody, if_true]

/-- The text of a value begins with a code unit of a value. -/
theorem stringify_head (format : NumberFormat Number) (value : Json Number) :
    ∃ unit tail, stringify format value = unit :: tail ∧
      startsValue unit = true := by
  cases value with
  | null => exact ⟨0x6E, literal "ull", rfl, by decide⟩
  | bool value =>
      cases value with
      | true => exact ⟨0x74, literal "rue", rfl, by decide⟩
      | false => exact ⟨0x66, literal "alse", rfl, by decide⟩
  | number value =>
      simp only [stringify]
      split
      · next finite =>
        rcases isNumberText_head
            (format.isNumberText_toText value finite) with
          ⟨unit, tail, shape, head⟩
        exact ⟨unit, tail, shape, (numberHead_plain head).1⟩
      · exact ⟨0x6E, literal "ull", rfl, by decide⟩
  | string text => exact ⟨_, _, rfl, by decide⟩
  | array items => exact ⟨_, _, rfl, by decide⟩
  | object members => exact ⟨_, _, rfl, by decide⟩

/-- The text of a nonempty array continues with a value, not a bracket. -/
theorem stringifyItems_head
    (format : NumberFormat Number)
    (item : Json Number) (items : List (Json Number)) :
    ∃ unit tail, stringifyItems format (item :: items) = unit :: tail ∧
      startsValue unit = true := by
  rcases stringify_head format item with
    ⟨unit, tail, shape, starts⟩
  cases items with
  | nil => exact ⟨unit, tail, by rw [stringifyItems, shape], starts⟩
  | cons next rest =>
      exact ⟨unit, _, by rw [stringifyItems, shape, List.cons_append], starts⟩

theorem stringifyMembers_head
    (format : NumberFormat Number)
    (entry : CodeUnits × Json Number)
    (members : List (CodeUnits × Json Number)) :
    ∃ tail, stringifyMembers format (entry :: members) =
      JsonString.quoteMark :: tail := by
  rcases entry with ⟨name, value⟩
  cases members with
  | nil => exact ⟨_, by rw [stringifyMembers, quote_append]⟩
  | cons next rest => exact ⟨_, by rw [stringifyMembers, quote_append]⟩

/--
What a given amount of fuel reads back: a value, and what is left of a
nonempty array or object behind the parts already read.
-/
structure ReadsBack (format : NumberFormat Number) (fuel : Nat) : Prop where
  value :
    ∀ (value : Json Number) (rest : CodeUnits),
      (stringify format value).length ≤ fuel →
        endsNumber rest = true →
          parseFrom format fuel .value (stringify format value ++ rest) =
            some (reread format value, rest)
  items :
    ∀ (done : List (Json Number)) (item : Json Number)
      (items : List (Json Number)) (rest : CodeUnits),
      (stringifyItems format (item :: items)).length + 1 ≤ fuel →
        parseFrom format fuel (.items done)
            (stringifyItems format (item :: items) ++ closeBracket :: rest) =
          some (.array (done ++ rereadItems format (item :: items)), rest)
  members :
    ∀ (done : List (CodeUnits × Json Number))
      (entry : CodeUnits × Json Number)
      (members : List (CodeUnits × Json Number)) (rest : CodeUnits),
      (stringifyMembers format (entry :: members)).length + 1 ≤ fuel →
        parseFrom format fuel (.members done)
            (stringifyMembers format (entry :: members) ++
              closeBrace :: rest) =
          some (.object (rereadMembers format done (entry :: members)), rest)

theorem ReadsBack.array
    {fuel : Nat} (below : ReadsBack format fuel)
    (items : List (Json Number)) (rest : CodeUnits)
    (enough : (stringify format (.array items)).length ≤ fuel + 1) :
    parseFrom format (fuel + 1) .value
        (stringify format (.array items) ++ rest) =
      some (reread format (.array items), rest) := by
  cases items with
  | nil => rfl
  | cons item items =>
      simp only [stringify, List.length_cons, List.length_append,
        List.length_nil] at enough
      rcases stringifyItems_head format item items with
        ⟨unit, tail, shape, starts⟩
      simp only [startsValue, Bool.and_eq_true, Bool.not_eq_true',
        decide_eq_true_eq] at starts
      have inner := below.items [] item items rest (by omega)
      rw [shape, List.cons_append] at inner
      have notQuote : ¬ openBracket = JsonString.quoteMark := by decide
      simp only [stringify, shape, List.cons_append, List.append_assoc,
        List.nil_append, parseFrom,
        skipSpace_cons openBracket _ (by decide),
        skipSpace_cons _ _ starts.1, notQuote, starts.2, if_false, if_true,
        inner, reread]

theorem ReadsBack.object
    {fuel : Nat} (below : ReadsBack format fuel)
    (members : List (CodeUnits × Json Number)) (rest : CodeUnits)
    (enough : (stringify format (.object members)).length ≤ fuel + 1) :
    parseFrom format (fuel + 1) .value
        (stringify format (.object members) ++ rest) =
      some (reread format (.object members), rest) := by
  cases members with
  | nil => rfl
  | cons entry members =>
      simp only [stringify, List.length_cons, List.length_append,
        List.length_nil] at enough
      rcases stringifyMembers_head format entry members with
        ⟨tail, shape⟩
      have inner := below.members [] entry members rest (by omega)
      rw [shape, List.cons_append] at inner
      have notQuote : ¬ openBrace = JsonString.quoteMark := by decide
      have notBracket : ¬ openBrace = openBracket := by decide
      have notClose : ¬ JsonString.quoteMark = closeBrace := by decide
      simp only [stringify, shape, List.cons_append, List.append_assoc,
        List.nil_append, parseFrom,
        skipSpace_cons openBrace _ (by decide),
        skipSpace_cons JsonString.quoteMark _ (by decide),
        notQuote, notBracket, notClose, if_false, if_true, inner, reread]

theorem ReadsBack.nextItem
    {fuel : Nat} (below : ReadsBack format fuel)
    (done : List (Json Number)) (item : Json Number)
    (items : List (Json Number)) (rest : CodeUnits)
    (enough : (stringifyItems format (item :: items)).length + 1 ≤ fuel + 1) :
    parseFrom format (fuel + 1) (.items done)
        (stringifyItems format (item :: items) ++ closeBracket :: rest) =
      some (.array (done ++ rereadItems format (item :: items)), rest) := by
  cases items with
  | nil =>
      simp only [stringifyItems] at enough
      have head :=
        below.value item (closeBracket :: rest) (by omega) rfl
      have notComma : ¬ closeBracket = comma := by decide
      simp only [stringifyItems, parseFrom, head,
        skipSpace_cons closeBracket _ (by decide), notComma,
        if_false, if_true, rereadItems]
  | cons next items =>
      simp only [stringifyItems, List.length_append, List.length_cons]
        at enough
      have head :=
        below.value item
          (comma :: (stringifyItems format (next :: items) ++
            closeBracket :: rest)) (by omega) rfl
      have tail :=
        below.items (done ++ [reread format item]) next items rest (by omega)
      simp only [stringifyItems, List.append_assoc, List.cons_append,
        parseFrom, head, skipSpace_cons comma _ (by decide),
        if_true, tail, rereadItems, List.nil_append]

theorem ReadsBack.nextMember
    {fuel : Nat} (below : ReadsBack format fuel)
    (done : List (CodeUnits × Json Number))
    (entry : CodeUnits × Json Number)
    (members : List (CodeUnits × Json Number)) (rest : CodeUnits)
    (enough :
      (stringifyMembers format (entry :: members)).length + 1 ≤ fuel + 1) :
    parseFrom format (fuel + 1) (.members done)
        (stringifyMembers format (entry :: members) ++ closeBrace :: rest) =
      some (.object (rereadMembers format done (entry :: members)),
        rest) := by
  rcases entry with ⟨name, value⟩
  cases members with
  | nil =>
      simp only [stringifyMembers, List.length_append, List.length_cons]
        at enough
      have head := below.value value (closeBrace :: rest) (by omega) rfl
      have notComma : ¬ closeBrace = comma := by decide
      simp only [stringifyMembers, List.append_assoc, List.cons_append,
        parseFrom, readName_quote, head,
        skipSpace_cons closeBrace _ (by decide), notComma,
        if_false, if_true, rereadMembers]
  | cons next members =>
      simp only [stringifyMembers, List.length_append, List.length_cons]
        at enough
      have head :=
        below.value value
          (comma :: (stringifyMembers format (next :: members) ++
            closeBrace :: rest)) (by omega) rfl
      have tail :=
        below.members
          (InsertionMap.setEntries done name (reread format value)) next
          members rest (by omega)
      simp only [stringifyMembers, List.append_assoc, List.cons_append,
        parseFrom, readName_quote, head,
        skipSpace_cons comma _ (by decide), if_true, tail,
        rereadMembers]

/-- The fuel is as long as the text. -/
theorem readsBack (format : NumberFormat Number) (fuel : Nat) :
    ReadsBack format fuel := by
  induction fuel with
  | zero =>
      refine ⟨?_, fun _ _ _ _ enough => by omega,
        fun _ _ _ _ enough => by omega⟩
      intro value rest enough _
      rcases stringify_head format value with
        ⟨unit, tail, shape, _⟩
      rw [shape, List.length_cons] at enough
      omega
  | succ fuel below =>
      refine ⟨?_, below.nextItem, below.nextMember⟩
      intro value rest enough ends
      cases value with
      | null => exact parseFrom_value_null fuel rest
      | bool value => exact parseFrom_value_bool fuel value rest
      | number value =>
          simp only [stringify, reread]
          split
          · next finite =>
            exact parseFrom_value_number fuel value rest finite ends
          · exact parseFrom_value_null fuel rest
      | string text => exact parseFrom_value_string fuel text rest
      | array items => exact below.array items rest enough
      | object members => exact below.object members rest enough

/-- `JSON.parse` reads what `JSON.stringify` wrote. -/
theorem parse_stringify (value : Json Number) :
    parse format (stringify format value) =
      some (reread format value) := by
  have read :=
    (readsBack format _).value value [] (Nat.le_succ _) rfl
  rw [List.append_nil] at read
  simp [parse, read, skipSpace]

end Json

end Mls4rn.Lib
