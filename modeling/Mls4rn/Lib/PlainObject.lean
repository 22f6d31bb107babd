import Mls4rn.Lib.Json

/-!
# Plain objects used as dictionaries

A plain object remembers its own properties in the order of their creation,
but assignment and enumeration are not those of a `Map`.  Assigning a
primitive to the property named `__proto__` reaches the inherited setter,
which ignores it.  Enumeration lists the array indices first, in ascending
order, and the other names in the order of their creation.
-/

namespace Mls4rn.Lib.PlainObject

open Mls4rn.Lib.Utf16
open Mls4rn.Lib.NumberText

variable {Value : Type}

/-- The name of the inherited accessor. -/
def prototypeName : CodeUnits :=
  literal "__proto__"

/-- `object[name] = value` for a primitive value. -/
def assign
    (object : InsertionMap CodeUnits Value) (name : CodeUnits)
    (value : Value) : InsertionMap CodeUnits Value :=
  if name = prototypeName then object else object.set name value

/-- Decimal digits without a superfluous leading zero. -/
def isNumeral : CodeUnits → Bool
  | [] => false
  | [unit] => isDigit unit
  | unit :: rest => decide (unit ≠ 0x30) && (unit :: rest).all isDigit

/-- A numeral below `2 ^ 32 - 1`. -/
def isArrayIndex (name : CodeUnits) : Bool :=
  isNumeral name && decide (natValue name < 2 ^ 32 - 1)

/-- An entry whose name is an array index. -/
def isIndexed (entry : CodeUnits × Value) : Bool :=
  isArrayIndex entry.1

/-- The enumerable own properties in enumeration order. -/
def ownEntries (entries : List (CodeUnits × Value)) :
    List (CodeUnits × Value) :=
  ((entries.filter isIndexed).insertionSort fun first second =>
      natValue first.1 ≤ natValue second.1) ++
    entries.filter fun entry => !isIndexed entry

/-- Enumeration only changes the order. -/
theorem ownEntries_perm (entries : List (CodeUnits × Value)) :
    (ownEntries entries).Perm entries := by
  have sorted :=
    List.perm_insertionSort
      (fun first second : CodeUnits × Value =>
        natValue first.1 ≤ natValue second.1)
      (entries.filter isIndexed)
  exact (sorted.append_right _).trans
    (List.filter_append_perm isIndexed entries)

theorem nodup_ownEntries
    {entries : List (CodeUnits × Value)}
    (distinct : (entries.map Prod.fst).Nodup) :
    ((ownEntries entries).map Prod.fst).Nodup :=
  ((ownEntries_perm entries).map Prod.fst).nodup_iff.mpr distinct

/-- Enumeration looks at the names alone. -/
theorem ownEntries_map
    {Other : Type} (convert : Value → Other)
    (entries : List (CodeUnits × Value)) :
    ownEntries (entries.map fun entry => (entry.1, convert entry.2)) =
      (ownEntries entries).map fun entry =>
        (entry.1, convert entry.2) := by
  have indexed :
      (isIndexed ∘ fun entry : CodeUnits × Value =>
          (entry.1, convert entry.2)) = isIndexed :=
    rfl
  have other :
      ((fun entry : CodeUnits × Other => !isIndexed entry) ∘
          fun entry : CodeUnits × Value => (entry.1, convert entry.2)) =
        fun entry => !isIndexed entry :=
    rfl
  rw [ownEntries, List.filter_map, List.filter_map, indexed, other,
    ownEntries, List.map_append]
  congr 1
  refine (List.map_insertionSort _ _ _ _ ?_).symm
  intro first _ second _
  rfl

/-- Assign every entry of a list in turn. -/
def assignAll
    (object : InsertionMap CodeUnits Value)
    (entries : List (CodeUnits × Value)) : InsertionMap CodeUnits Value :=
  entries.foldl (fun object entry => assign object entry.1 entry.2) object

/-- Assigning a list skips the name of the accessor and nothing else. -/
theorem assignAll_eq_setAll
    (object : InsertionMap CodeUnits Value)
    (entries : List (CodeUnits × Value)) :
    assignAll object entries =
      object.setAll
        (entries.filter fun entry => decide (entry.1 ≠ prototypeName)) := by
  induction entries generalizing object with
  | nil => rfl
  | cons entry entries induction =>
      have step :
          assignAll object (entry :: entries) =
            assignAll (assign object entry.1 entry.2) entries :=
        rfl
      rw [step, induction]
      by_cases accessor : entry.1 = prototypeName
      · simp [assign, accessor]
      · simp [assign, accessor, InsertionMap.setAll]

/-- The own properties of an object built from distinct names. -/
theorem assignAll_empty_entries
    (entries : List (CodeUnits × Value))
    (distinct : (entries.map Prod.fst).Nodup) :
    (assignAll InsertionMap.empty entries).entries =
      entries.filter fun entry => decide (entry.1 ≠ prototypeName) := by
  rw [assignAll_eq_setAll, InsertionMap.setAll_entries]
  · rfl
  · exact (List.Sublist.map Prod.fst List.filter_sublist).nodup distinct

end Mls4rn.Lib.PlainObject
