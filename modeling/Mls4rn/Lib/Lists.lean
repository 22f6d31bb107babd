import Mathlib.Data.List.ReduceOption
import Mathlib.Tactic

/-!
# Lists that grow at their end or lose elements

Facts about positions and repeated elements that Mathlib does not state.
-/

namespace Mls4rn.Lib.Lists

variable {Item : Type}

variable {items : List Item}

/-- A position of a list with a new last element. -/
theorem getElem?_concat_cases
    {last found : Item} {index : Nat}
    (present : (items ++ [last])[index]? = some found) :
    items[index]? = some found ∨ index = items.length ∧ found = last := by
  rcases Nat.lt_or_ge index items.length with inside | beyond
  · rw [List.getElem?_append_left inside] at present
    exact Or.inl present
  · rw [List.getElem?_append_right beyond] at present
    rcases List.getElem?_eq_some_iff.mp present with ⟨bound, same⟩
    rw [List.length_singleton] at bound
    rw [List.getElem_singleton] at same
    exact Or.inr ⟨by omega, same.symm⟩

/-- Replacing an element by one with the same image. -/
theorem map_set_of_same
    {Image : Type} (image : Item → Image)
    {position : Nat} {old new : Item} (found : items[position]? = some old)
    (same : image new = image old) :
    (items.set position new).map image = items.map image := by
  apply List.ext_getElem?
  intro index
  by_cases equal : position = index
  · subst equal
    simp [List.getElem?_set_self', found, same]
  · simp [equal]

/-- A loop that fills every place of a list. -/
theorem foldl_set_range (length : Nat) (initial : Item) (value : Nat → Item) :
    (List.range length).foldl (fun items i => items.set i (value i))
        (List.replicate length initial) =
      (List.range length).map value := by
  have filled :
      ∀ count ≤ length,
        (List.range count).foldl (fun items i => items.set i (value i))
            (List.replicate length initial) =
          (List.range count).map value ++
            List.replicate (length - count) initial := by
    intro count
    induction count with
    | zero => simp
    | succ count induction =>
        intro inside
        have open_ : length - count = length - (count + 1) + 1 := by omega
        rw [List.range_succ, List.foldl_concat,
          induction (Nat.le_of_succ_le inside), open_,
          List.replicate_succ, List.map_append]
        simp
  simpa using filled length le_rfl

/-- The images of a list and of the list without one element. -/
theorem count_filterMap_eraseIdx
    {Image : Type} [DecidableEq Image] (image : Item → Option Image)
    {position : Nat} {item : Item}
    (found : items[position]? = some item) (counted : Image) :
    (items.filterMap image).count counted =
      ((items.eraseIdx position).filterMap image).count counted +
        (image item).toList.count counted := by
  rcases List.getElem?_eq_some_iff.mp found with ⟨inside, rfl⟩
  have same := List.getElem_cons_eraseIdx_perm inside
  rw [← (same.filterMap image).count_eq, List.filterMap_cons]
  cases image items[position] with
  | none => simp
  | some value => simp [List.count_cons]

/-- An element is the one taken out, or is still there. -/
theorem mem_iff_eraseIdx
    {position : Nat} {item : Item}
    (found : items[position]? = some item) (other : Item) :
    other ∈ items ↔ other = item ∨ other ∈ items.eraseIdx position := by
  rcases List.getElem?_eq_some_iff.mp found with ⟨inside, rfl⟩
  rw [← (List.getElem_cons_eraseIdx_perm inside).mem_iff, List.mem_cons]

theorem nodup_of_subperm
    {fewer items : List Item} (part : fewer.Subperm items)
    (distinct : items.Nodup) : fewer.Nodup := by
  rcases part with ⟨same, moved, inside⟩
  exact moved.nodup_iff.mp (inside.nodup distinct)

/-- The first element with a name that no other element has. -/
theorem find_eq_of_nodup
    {Name : Type} [DecidableEq Name] (nameOf : Item → Option Name)
    (single : (items.map nameOf).reduceOption.Nodup)
    {item : Item} (member : item ∈ items) {name : Name}
    (named : nameOf item = some name) :
    (items.find? fun other => decide (nameOf other = some name)) =
      some item := by
  induction items with
  | nil => cases member
  | cons head items induction =>
      rw [List.map_cons] at single
      cases owner : nameOf head with
      | none =>
          rw [owner, List.reduceOption_cons_of_none] at single
          have behind : item ∈ items := by
            rcases List.mem_cons.mp member with rfl | behind
            · rw [owner] at named
              cases named
            · exact behind
          rw [List.find?_cons_of_neg (by simp [owner])]
          exact induction single behind
      | some other =>
          rw [owner, List.reduceOption_cons_of_some, List.nodup_cons]
            at single
          rcases List.mem_cons.mp member with rfl | behind
          · rw [List.find?_cons_of_pos (by simp [named])]
          · have present : name ∈ (items.map nameOf).reduceOption :=
              List.reduceOption_mem_iff.mpr
                (List.mem_map.mpr ⟨item, behind, named⟩)
            have different : other ≠ name := by
              rintro rfl
              exact single.1 present
            rw [List.find?_cons_of_neg (by simp [owner, different])]
            exact induction single.2 behind

end Mls4rn.Lib.Lists
