import Mls4rn.Lib.Utf16

/-!
# What the controllers have in common

A controller refuses a request by throwing one of two exceptions.  A field of
a request body or a query may be missing; most fields are tested for being a
non-empty string.
-/

namespace Mls4rn.Server

open Mls4rn.Lib.Utf16

/-- The exceptions of the controllers and services, with their messages. -/
inductive HttpException where
  | badRequest (message : CodeUnits)
  | notFound (message : CodeUnits)
deriving DecidableEq, Repr

/-- A value that is tested for truth: a string that is there and not empty. -/
def given : Option CodeUnits → Option CodeUnits
  | some (unit :: units) => some (unit :: units)
  | _ => none

theorem given_eq_some_iff {field : Option CodeUnits} {value : CodeUnits} :
    given field = some value ↔ field = some value ∧ value ≠ [] := by
  constructor
  · intro present
    unfold given at present
    split at present
    · cases present
      exact ⟨rfl, List.cons_ne_nil _ _⟩
    · cases present
  · rintro ⟨rfl, filled⟩
    cases value with
    | nil => exact absurd rfl filled
    | cons unit units => rfl

end Mls4rn.Server
