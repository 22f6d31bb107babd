import Mathlib.Tactic

/-!
# Queues with lanes

A list of waiting items in which an item may go as soon as no item of its own
lane is in front of it.  Items of different lanes overtake each other; the
items of one lane leave in the order in which they came.
-/

namespace Mls4rn.Lib.Lanes

variable {Item Lane : Type} [DecidableEq Lane] (lane : Item → Lane)

/-- Take the item at a position out, if it is the first of its lane. -/
def takeFirst (items : List Item) (position : Nat) :
    Option (Item × List Item) :=
  match items[position]? with
  | none => none
  | some item =>
      if (items.take position).all fun other =>
          decide (lane other ≠ lane item) then
        some (item, items.eraseIdx position)
      else
        none

/-- The head of a queue may always go. -/
theorem takeFirst_zero (item : Item) (items : List Item) :
    takeFirst lane (item :: items) 0 = some (item, items) :=
  rfl

variable {lane}

variable {items rest : List Item}

/-- What is taken is the first item of its lane, and nothing else moves. -/
theorem takeFirst_eq_some
    {position : Nat} {item : Item}
    (taken : takeFirst lane items position = some (item, rest)) :
    ∃ front behind,
      items = front ++ item :: behind ∧ rest = front ++ behind ∧
        ∀ other ∈ front, lane other ≠ lane item := by
  unfold takeFirst at taken
  split at taken
  · cases taken
  · next found present =>
    split at taken
    · next alone =>
      cases taken
      rcases List.getElem?_eq_some_iff.mp present with ⟨inside, rfl⟩
      refine ⟨items.take position, items.drop (position + 1), ?_, ?_, ?_⟩
      · rw [List.getElem_cons_drop, List.take_append_drop]
      · exact List.eraseIdx_eq_take_drop_succ items position
      · simpa using alone
    · cases taken

/-- What is taken was in the queue. -/
theorem mem_iff_taken
    {position : Nat} {item : Item}
    (taken : takeFirst lane items position = some (item, rest)) (other : Item) :
    other ∈ items ↔ other = item ∨ other ∈ rest := by
  rcases takeFirst_eq_some taken with ⟨front, behind, rfl, rfl, -⟩
  simp only [List.mem_append, List.mem_cons]
  tauto

theorem length_taken
    {position : Nat} {item : Item}
    (taken : takeFirst lane items position = some (item, rest)) :
    items.length = rest.length + 1 := by
  rcases takeFirst_eq_some taken with ⟨front, behind, rfl, rfl, -⟩
  simp only [List.length_append, List.length_cons]
  omega

/--
Those items of a queue that all lie in one lane: what is taken is the first
of them, or is not one of them.
-/
theorem filter_taken
    {position : Nat} {item : Item}
    (taken : takeFirst lane items position = some (item, rest))
    {chosen : Item → Bool}
    (together :
      ∀ first second, chosen first = true → chosen second = true →
        lane first = lane second) :
    items.filter chosen = [item].filter chosen ++ rest.filter chosen := by
  rcases takeFirst_eq_some taken with ⟨front, behind, rfl, rfl, first⟩
  rw [List.filter_append, List.filter_append, ← List.singleton_append,
    List.filter_append]
  cases picked : chosen item with
  | false => simp [picked]
  | true =>
      have noneInFront : front.filter chosen = [] := by
        rw [List.filter_eq_nil_iff]
        intro other member chosenToo
        exact first other member (together other item chosenToo picked)
      rw [noneInFront, List.nil_append, List.nil_append]

end Mls4rn.Lib.Lanes
