import Mathlib.Tactic

/-!
# Perfect binary trees numbered in order

In the array of a perfect binary tree every inner node stands between its two
subtrees, so the leaves have the even numbers.  A node is given by its height
above the leaves and by its place among the nodes of that height.  The low
bits of its number are then as many ones as its height says, a zero, and the
bits of its place.

Going up halves the place.  The node above a leaf at some height is therefore
the quotient of the leaf by a power of two, and two leaves have one lowest
common height from which on these quotients agree.
-/

namespace Mls4rn.Lib.InOrderTree

/-- The number of the node at a height and a place. -/
def number (height place : Nat) : Nat :=
  2 ^ (height + 1) * place + (2 ^ height - 1)

theorem number_zero (place : Nat) : number 0 place = 2 * place := by
  simp [number]

theorem number_succ (height place : Nat) :
    number (height + 1) place = 2 * number height place + 1 := by
  have positive : 0 < 2 ^ height := Nat.two_pow_pos height
  simp only [number, pow_succ]
  have product :
      2 ^ height * 2 * 2 * place = 2 * (2 ^ height * 2 * place) := by
    ring
  omega

/-- Every number is the number of a node. -/
theorem exists_number (index : Nat) :
    ∃ height place, index = number height place := by
  induction index using Nat.strongRecOn with
  | ind index induction =>
      rcases Nat.even_or_odd' index with ⟨half, even | odd⟩
      · exact ⟨0, half, by rw [number_zero, even]⟩
      · rcases induction half (by omega) with ⟨height, place, rfl⟩
        exact ⟨height + 1, place, by rw [number_succ, odd]⟩

/-- The bits of a number. -/
theorem testBit_number (height place bit : Nat) :
    (number height place).testBit bit =
      if bit ≤ height then decide (bit < height)
      else place.testBit (bit - (height + 1)) := by
  have small : 2 ^ height - 1 < 2 ^ (height + 1) := by
    have positive : 0 < 2 ^ height := Nat.two_pow_pos height
    rw [pow_succ]
    omega
  rw [number, Nat.testBit_two_pow_mul_add place small,
    Nat.testBit_two_pow_sub_one]
  simp only [Nat.lt_succ_iff]

theorem number_shiftRight (height place : Nat) :
    number height place >>> (height + 1) = place := by
  apply Nat.eq_of_testBit_eq
  intro bit
  rw [Nat.testBit_shiftRight, testBit_number, if_neg (by omega)]
  congr 1
  omega

theorem number_inj {height place otherHeight otherPlace : Nat}
    (same : number height place = number otherHeight otherPlace) :
    height = otherHeight ∧ place = otherPlace := by
  have heights : height = otherHeight := by
    rcases lt_trichotomy height otherHeight with lower | equal | higher
    · have bits := congrArg (Nat.testBit · height) same
      simp [testBit_number, lower, lower.le] at bits
    · exact equal
    · have bits := congrArg (Nat.testBit · otherHeight) same
      simp [testBit_number, higher, higher.le] at bits
  subst heights
  refine ⟨rfl, ?_⟩
  rw [← number_shiftRight height place, same, number_shiftRight]

/-- The node that a tree of a height has at its top. -/
theorem number_top (height : Nat) : number height 0 = 2 ^ height - 1 := by
  simp [number]

/-- The nodes of a tree. -/
theorem number_lt_iff (height place top : Nat) :
    number height place < 2 ^ (top + 1) - 1 ↔
      height ≤ top ∧ place < 2 ^ (top - height) := by
  have positive : 0 < 2 ^ height := Nat.two_pow_pos height
  constructor
  · intro inside
    have low : height ≤ top := by
      by_contra high
      have wide : 2 ^ (top + 1) ≤ 2 ^ height :=
        Nat.pow_le_pow_right (by decide) (by omega)
      simp only [number] at inside
      omega
    refine ⟨low, ?_⟩
    by_contra far
    have split : 2 ^ (top + 1) = 2 ^ (height + 1) * 2 ^ (top - height) := by
      rw [← pow_add]
      congr 1
      omega
    have beyond :
        2 ^ (height + 1) * 2 ^ (top - height) ≤ 2 ^ (height + 1) * place :=
      Nat.mul_le_mul_left _ (by omega)
    simp only [number] at inside
    omega
  · rintro ⟨low, near⟩
    have split : 2 ^ (top + 1) = 2 ^ (height + 1) * 2 ^ (top - height) := by
      rw [← pow_add]
      congr 1
      omega
    have within :
        2 ^ (height + 1) * (place + 1) ≤
          2 ^ (height + 1) * 2 ^ (top - height) :=
      Nat.mul_le_mul_left _ (by omega)
    have double : 2 ^ (height + 1) = 2 * 2 ^ height := by
      rw [pow_succ, Nat.mul_comm]
    rw [Nat.mul_succ] at within
    simp only [number]
    omega

/-! ## Steps in the tree -/

/-- A bit of a number above its height belongs to its place. -/
theorem testBit_number_above (height place bit : Nat) :
    (number height place).testBit (height + 1 + bit) =
      place.testBit bit := by
  rw [testBit_number, if_neg (by omega), Nat.add_sub_cancel_left]

theorem testBit_number_succ (height place bit : Nat) :
    (number (height + 1) place).testBit (height + 1 + (bit + 1)) =
      place.testBit bit := by
  rw [Nat.add_comm bit, ← Nat.add_assoc, testBit_number_above]

/-- The bit under the height is taken away for the left child. -/
theorem number_xor_left (height place : Nat) :
    number (height + 1) place ^^^ 1 <<< height =
      number height (2 * place) := by
  apply Nat.eq_of_testBit_eq
  intro bit
  rw [Nat.testBit_xor, Nat.one_shiftLeft, Nat.testBit_two_pow]
  rcases lt_trichotomy bit height with lower | rfl | higher
  · simp [testBit_number, lower, lower.le, Nat.le_succ_of_le lower.le,
      Nat.lt_succ_of_lt lower, lower.ne']
  · simp [testBit_number]
  · obtain ⟨above, rfl⟩ := Nat.exists_eq_add_of_le higher
    rw [testBit_number_above]
    cases above with
    | zero => simp [testBit_number]
    | succ above =>
        rw [testBit_number_succ, Nat.testBit_succ,
          Nat.mul_div_cancel_left _ (by decide),
          decide_eq_false (by omega), Bool.xor_false]

/-- The right child has the next bit in its place. -/
theorem number_xor_right (height place : Nat) :
    number (height + 1) place ^^^ 3 <<< height =
      number height (2 * place + 1) := by
  have three (bit : Nat) : (3 <<< height).testBit bit =
      decide (height ≤ bit ∧ bit < height + 2) := by
    have ones : (3 : Nat) = 2 ^ 2 - 1 := rfl
    rw [Nat.testBit_shiftLeft, ones, Nat.testBit_two_pow_sub_one,
      ← Bool.decide_and, decide_eq_decide]
    omega
  apply Nat.eq_of_testBit_eq
  intro bit
  rw [Nat.testBit_xor, three]
  rcases lt_trichotomy bit height with lower | rfl | higher
  · simp [testBit_number, lower, lower.le, Nat.le_succ_of_le lower.le,
      Nat.lt_succ_of_lt lower, Nat.not_le.mpr lower]
  · simp [testBit_number]
  · obtain ⟨above, rfl⟩ := Nat.exists_eq_add_of_le higher
    rw [testBit_number_above]
    cases above with
    | zero => simp [testBit_number]
    | succ above =>
        have halved : (2 * place + 1) / 2 = place := by omega
        rw [testBit_number_succ, Nat.testBit_succ, halved,
          decide_eq_false (by omega), Bool.xor_false]

/-- The bit at the height is set, and the last bit of the place is taken. -/
theorem number_parent (height place : Nat) :
    (number height place ||| 1 <<< height) ^^^
        ((number height place >>> (height + 1)) &&& 1) <<< (height + 1) =
      number (height + 1) (place / 2) := by
  have last (bit : Nat) :
      ((place &&& 1) <<< (height + 1)).testBit (height + 1 + bit) =
        (place.testBit bit && decide (bit = 0)) := by
    have one : Nat.testBit 1 bit = decide (0 = bit) := by
      rw [← pow_zero 2, Nat.testBit_two_pow]
    rw [Nat.testBit_shiftLeft, Nat.add_sub_cancel_left, Nat.testBit_and, one]
    simp [eq_comm]
  rw [number_shiftRight]
  apply Nat.eq_of_testBit_eq
  intro bit
  rw [Nat.testBit_xor, Nat.testBit_or, Nat.one_shiftLeft, Nat.testBit_two_pow]
  rcases lt_trichotomy bit height with lower | rfl | higher
  · simp [testBit_number, lower, lower.le, Nat.le_succ_of_le lower.le,
      Nat.lt_succ_of_lt lower, Nat.testBit_shiftLeft]
  · simp [testBit_number, Nat.testBit_shiftLeft]
  · obtain ⟨above, rfl⟩ := Nat.exists_eq_add_of_le higher
    have other : height ≠ height + 1 + above := by omega
    rw [testBit_number_above, last, decide_eq_false other, Bool.or_false]
    cases above with
    | zero => simp [testBit_number]
    | succ above =>
        rw [testBit_number_succ, Nat.testBit_succ]
        simp

/-! ## Where two leaves meet -/

/-- The other child of the same node. -/
def sibling (place : Nat) : Nat :=
  if place % 2 = 0 then place + 1 else place - 1

theorem div_pow_succ (leaf height : Nat) :
    leaf / 2 ^ (height + 1) = leaf / 2 ^ height / 2 := by
  rw [pow_succ, Nat.div_div_eq_div_mul]

/-- Above a common node everything is common. -/
theorem div_pow_eq_of_le {first second low high : Nat}
    (meet : first / 2 ^ low = second / 2 ^ low) (above : low ≤ high) :
    first / 2 ^ high = second / 2 ^ high := by
  obtain ⟨distance, rfl⟩ := Nat.exists_eq_add_of_le above
  rw [pow_add, ← Nat.div_div_eq_div_mul, ← Nat.div_div_eq_div_mul, meet]

/-- The height at which two leaves hang on two siblings. -/
def Parts (first second height : Nat) : Prop :=
  first / 2 ^ height ≠ second / 2 ^ height ∧
    first / 2 ^ (height + 1) = second / 2 ^ (height + 1)

/-- Two leaves that have a node in common part below it. -/
theorem exists_parts {first second top : Nat} (different : first ≠ second)
    (meet : first / 2 ^ top = second / 2 ^ top) :
    ∃ height < top, Parts first second height := by
  induction top with
  | zero =>
      simp only [pow_zero, Nat.div_one] at meet
      exact absurd meet different
  | succ top induction =>
      by_cases lower : first / 2 ^ top = second / 2 ^ top
      · obtain ⟨height, below, parts⟩ := induction lower
        exact ⟨height, Nat.lt_succ_of_lt below, parts⟩
      · exact ⟨top, Nat.lt_succ_self top, lower, meet⟩

/-- Two leaves have a node in common exactly above the height of parting. -/
theorem Parts.meet_iff {first second height : Nat}
    (parts : Parts first second height) (high : Nat) :
    first / 2 ^ high = second / 2 ^ high ↔ height < high := by
  constructor
  · intro meet
    by_contra low
    exact parts.1 (div_pow_eq_of_le meet (Nat.not_lt.mp low))
  · intro above
    exact div_pow_eq_of_le parts.2 above

end Mls4rn.Lib.InOrderTree
