import Mathlib.Tactic

/-!
# Values with ascending stamps

A stamp shows a value, and the values of a list can be given stamps that
never decrease and stay between two bounds.  The stamps are not part of the
list: a value may be shown by several of them.

The module names nothing of a particular program.
-/

namespace Mls4rn.Lib

universe u v

variable {Stamp : Type u} {Value : Type v} [Preorder Stamp]

/-- Stamps from `low` to `high` that show the values in their order. -/
inductive Ascending (Shows : Stamp → Value → Prop) :
    Stamp → List Value → Stamp → Prop where
  | nil {low high : Stamp} (bounded : low ≤ high) :
      Ascending Shows low [] high
  | cons {low stamp high : Stamp} {value : Value} {values : List Value}
      (bounded : low ≤ stamp) (shown : Shows stamp value)
      (rest : Ascending Shows stamp values high) :
      Ascending Shows low (value :: values) high

namespace Ascending

variable {Shows : Stamp → Value → Prop} {low high : Stamp}

variable {values : List Value}

/-- A lower bound below. -/
theorem lower
    (ascending : Ascending Shows low values high)
    {lowest : Stamp} (below : lowest ≤ low) :
    Ascending Shows lowest values high := by
  cases ascending with
  | nil bounded => exact .nil (below.trans bounded)
  | cons bounded shown rest => exact .cons (below.trans bounded) shown rest

/-- A higher bound above. -/
theorem raise
    (ascending : Ascending Shows low values high)
    {highest : Stamp} (above : high ≤ highest) :
    Ascending Shows low values highest := by
  induction ascending with
  | nil bounded => exact .nil (bounded.trans above)
  | cons bounded shown rest induction =>
      exact .cons bounded shown (induction above)

/-- Values that the upper bound shows. -/
theorem of_shown
    (bounded : low ≤ high) (shown : ∀ value ∈ values, Shows high value) :
    Ascending Shows low values high := by
  induction values generalizing low with
  | nil => exact .nil bounded
  | cons value values induction =>
      rw [List.forall_mem_cons] at shown
      exact .cons bounded shown.1 (induction le_rfl shown.2)

/-- Values that the upper bound shows go to the end. -/
theorem append
    (ascending : Ascending Shows low values high)
    {more : List Value} (shown : ∀ value ∈ more, Shows high value) :
    Ascending Shows low (values ++ more) high := by
  induction ascending with
  | nil bounded => exact of_shown bounded shown
  | cons bounded other rest induction =>
      exact .cons bounded other (induction shown)

/-- Stamps that show more. -/
theorem mono
    (ascending : Ascending Shows low values high)
    {Also : Stamp → Value → Prop}
    (stronger : ∀ stamp value, Shows stamp value → Also stamp value) :
    Ascending Also low values high := by
  induction ascending with
  | nil bounded => exact .nil bounded
  | cons bounded shown rest induction =>
      exact .cons bounded (stronger _ _ shown) induction

/-- Values that are left out. -/
theorem sublist
    {values fewer : List Value}
    (ascending : Ascending Shows low values high)
    (part : fewer.Sublist values) : Ascending Shows low fewer high := by
  induction part generalizing low with
  | slnil => exact ascending
  | cons value part induction =>
      cases ascending with
      | cons bounded shown rest => exact (induction rest).lower bounded
  | cons_cons value part induction =>
      cases ascending with
      | cons bounded shown rest =>
          exact .cons bounded shown (induction rest)

/-- A value and its stamp, with the values from there on. -/
theorem drop
    (ascending : Ascending Shows low values high)
    {index : Nat} {value : Value} (found : values[index]? = some value) :
    ∃ stamp,
      low ≤ stamp ∧ Shows stamp value ∧
        Ascending Shows stamp (values.drop (index + 1)) high := by
  induction ascending generalizing index with
  | nil bounded => cases found
  | @cons low stamp high first values bounded shown rest induction =>
      cases index with
      | zero =>
          cases found
          exact ⟨stamp, bounded, shown, rest⟩
      | succ index =>
          rcases induction found with ⟨later, above, reached, behind⟩
          exact ⟨later, bounded.trans above, reached, behind⟩

/-- Two values, the first of them not behind the second. -/
theorem pair
    (ascending : Ascending Shows low values high)
    {first second : Nat} (ordered : first ≤ second)
    {earlier later : Value} (before : values[first]? = some earlier)
    (after : values[second]? = some later) :
    ∃ lower upper,
      lower ≤ upper ∧ Shows lower earlier ∧ Shows upper later := by
  rcases ascending.drop before with ⟨lower, -, shown, rest⟩
  rcases Nat.eq_or_lt_of_le ordered with same | less
  · subst same
    rw [before] at after
    cases after
    exact ⟨lower, lower, le_rfl, shown, shown⟩
  · have remaining :
        (values.drop (first + 1))[second - (first + 1)]? = some later := by
      rw [List.getElem?_drop, Nat.add_sub_cancel' less]
      exact after
    rcases rest.drop remaining with ⟨upper, bounded, reached, -⟩
    exact ⟨lower, upper, bounded, shown, reached⟩

end Ascending

end Mls4rn.Lib
