import Mathlib.Tactic

/-!
# Arrays behind references

A program that hands out an array hands out a reference: a later `push` is
seen by everyone who holds it.  The heap keeps the contents of every array
that was allocated; a reference is the number of the allocation.
-/

namespace Mls4rn.Lib

/-- The contents of the arrays, in the order of their allocation. -/
structure ArrayHeap (Value : Type) where
  cells : List (List Value)

namespace ArrayHeap

variable {Value : Type}

/-- A heap without arrays. -/
def empty : ArrayHeap Value :=
  ⟨[]⟩

/-- The number of arrays, and the reference of the next one. -/
def size (heap : ArrayHeap Value) : Nat :=
  heap.cells.length

/-- The contents of an array. -/
def contents (heap : ArrayHeap Value) (reference : Nat) : List Value :=
  (heap.cells[reference]?).getD []

/-- A new empty array. -/
def allocate (heap : ArrayHeap Value) : ArrayHeap Value :=
  ⟨heap.cells ++ [[]]⟩

/-- Append to an array in place. -/
def push (heap : ArrayHeap Value) (reference : Nat) (value : Value) :
    ArrayHeap Value :=
  ⟨heap.cells.modify reference (· ++ [value])⟩

@[simp]
theorem size_allocate (heap : ArrayHeap Value) :
    heap.allocate.size = heap.size + 1 := by
  simp [size, allocate]

@[simp]
theorem size_push (heap : ArrayHeap Value) (reference : Nat) (value : Value) :
    (heap.push reference value).size = heap.size := by
  simp [size, push]

theorem contents_of_size_le
    (heap : ArrayHeap Value) {reference : Nat}
    (unallocated : heap.size ≤ reference) :
    heap.contents reference = [] := by
  rw [contents, List.getElem?_eq_none unallocated]
  rfl

/-- A new array changes no other one. -/
@[simp]
theorem contents_allocate (heap : ArrayHeap Value) (reference : Nat) :
    heap.allocate.contents reference = heap.contents reference := by
  rcases Nat.lt_or_ge reference heap.size with allocated | unallocated
  · rw [contents, allocate, List.getElem?_append_left allocated, contents]
  · rw [contents_of_size_le heap unallocated]
    rcases Nat.lt_or_ge heap.size reference with beyond | last
    · apply contents_of_size_le
      rw [size_allocate]
      exact beyond
    · have next : reference = heap.cells.length :=
        Nat.le_antisymm last unallocated
      rw [contents, allocate, next, List.getElem?_concat_length]
      rfl

/-- A push is seen through its own reference only. -/
theorem contents_push
    (heap : ArrayHeap Value) {reference : Nat}
    (allocated : reference < heap.size) (value : Value) (other : Nat) :
    (heap.push reference value).contents other =
      if other = reference then heap.contents reference ++ [value]
      else heap.contents other := by
  rw [contents, push, List.getElem?_modify]
  by_cases same : other = reference
  · subst same
    have found : heap.cells[other]? = some heap.cells[other] :=
      List.getElem?_eq_getElem allocated
    simp only [if_true, contents, found]
    rfl
  · have different : ¬reference = other := fun equal => same equal.symm
    simp [same, different, contents]

/-! ## Changing every element -/

section Map

variable {Other : Type} (change : Value → Other) (heap : ArrayHeap Value)

/-- The heap with every element changed. -/
def map : ArrayHeap Other :=
  ⟨heap.cells.map (List.map change)⟩

@[simp]
theorem size_map : (heap.map change).size = heap.size := by
  simp [size, map]

@[simp]
theorem contents_map (reference : Nat) :
    (heap.map change).contents reference =
      (heap.contents reference).map change := by
  simp only [contents, map, List.getElem?_map]
  cases heap.cells[reference]? with
  | none => rfl
  | some cell => rfl

theorem map_allocate :
    (heap.map change).allocate = heap.allocate.map change := by
  simp [map, allocate]

theorem map_push (reference : Nat) (value : Value) :
    (heap.map change).push reference (change value) =
      (heap.push reference value).map change := by
  simp only [map, push, mk.injEq]
  apply List.ext_getElem?
  intro index
  simp only [List.getElem?_modify, List.getElem?_map]
  cases heap.cells[index]? with
  | none => rfl
  | some cell =>
      by_cases here : reference = index
      · simp [here]
      · simp [here]

end Map

end ArrayHeap

end Mls4rn.Lib
