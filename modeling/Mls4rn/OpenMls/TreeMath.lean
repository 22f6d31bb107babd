import Mls4rn.Lib.InOrderTree

/-!
# The indices of a ratchet tree

`treemath.rs`: the nodes of a ratchet tree are the places of an array, and
parents, siblings and paths are found by working on the bits of an index.

Leaves and parents are numbered apart.  A leaf `i` stands at place `2 * i` of
the array and a parent `i` at place `2 * i + 1`.  The indices of the source
are 32 bits wide; a tree has at most `2 ^ 30` nodes, so the numbers computed
for the nodes of a tree are exact.
-/

namespace Mls4rn.OpenMls.TreeMath

open Mls4rn.Lib
open Mls4rn.Lib.InOrderTree hiding sibling

/-! ## Indices -/

/-- `LeafNodeIndex`. -/
structure LeafNodeIndex where
  u32 : Nat
deriving DecidableEq, Repr

/-- `ParentNodeIndex`. -/
structure ParentNodeIndex where
  u32 : Nat
deriving DecidableEq, Repr

/-- `LeafNodeIndex::to_tree_index`. -/
def LeafNodeIndex.toTreeIndex (leaf : LeafNodeIndex) : Nat :=
  leaf.u32 * 2

/-- `LeafNodeIndex::from_tree_index`. -/
def LeafNodeIndex.fromTreeIndex (index : Nat) : LeafNodeIndex :=
  ⟨index / 2⟩

/-- `ParentNodeIndex::to_tree_index`. -/
def ParentNodeIndex.toTreeIndex (parent : ParentNodeIndex) : Nat :=
  parent.u32 * 2 + 1

/-- `ParentNodeIndex::from_tree_index`. -/
def ParentNodeIndex.fromTreeIndex (index : Nat) : ParentNodeIndex :=
  ⟨(index - 1) / 2⟩

/-- `TreeNodeIndex`. -/
inductive TreeNodeIndex where
  | leaf (index : LeafNodeIndex)
  | parent (index : ParentNodeIndex)
deriving DecidableEq, Repr

/-- `TreeNodeIndex::new`. -/
def TreeNodeIndex.new (index : Nat) : TreeNodeIndex :=
  if index % 2 = 0 then .leaf (LeafNodeIndex.fromTreeIndex index)
  else .parent (ParentNodeIndex.fromTreeIndex index)

/-- `TreeNodeIndex::u32`. -/
def TreeNodeIndex.u32 : TreeNodeIndex → Nat
  | .leaf index => index.toTreeIndex
  | .parent index => index.toTreeIndex

/-! ## Sizes -/

/-- `TreeSize`: the number of nodes of a perfect tree. -/
structure TreeSize where
  u32 : Nat
  perfect : ∃ height, u32 = 2 ^ (height + 1) - 1

/-- `TreeSize::new`. -/
def TreeSize.new (nodes : Nat) : TreeSize where
  u32 := 1 <<< (Nat.log2 nodes + 1) - 1
  perfect := ⟨Nat.log2 nodes, by rw [Nat.one_shiftLeft]⟩

/-- `TreeSize::leaf_count`. -/
def TreeSize.leafCount (size : TreeSize) : Nat :=
  size.u32 / 2 + 1

/-- `TreeSize::leaf_is_left`. -/
def TreeSize.leafIsLeft (size : TreeSize) (leaf : LeafNodeIndex) : Bool :=
  decide (leaf.u32 < size.leafCount / 2)

/-- `TreeSize::inc`. -/
def TreeSize.inc (size : TreeSize) : TreeSize where
  u32 := size.u32 * 2 + 1
  perfect := by
    rcases size.perfect with ⟨height, nodes⟩
    have positive : 0 < 2 ^ (height + 1) := Nat.two_pow_pos _
    refine ⟨height + 1, ?_⟩
    rw [nodes, pow_succ _ (height + 1)]
    omega

/-- `TreeSize::dec`, for a size that is not the least one. -/
def TreeSize.dec (size : TreeSize) (large : 2 ≤ size.u32) : TreeSize where
  u32 := (size.u32 + 1) / 2 - 1
  perfect := by
    rcases size.perfect with ⟨height, nodes⟩
    cases height with
    | zero =>
        rw [nodes] at large
        contradiction
    | succ height =>
        have positive : 0 < 2 ^ (height + 1) := Nat.two_pow_pos _
        refine ⟨height, ?_⟩
        rw [nodes, pow_succ _ (height + 1)]
        omega

/-! ## Steps in the tree -/

/-- The loop of `level`. -/
def levelLoop (x k : Nat) : Nat :=
  if (x >>> k) &&& 1 = 1 then levelLoop x (k + 1) else k
termination_by x >>> k
decreasing_by
  next set =>
    rw [Nat.and_one_is_mod] at set
    rw [Nat.shiftRight_succ]
    generalize x >>> k = shifted at set ⊢
    omega

/-- `level`. -/
def level (index : Nat) : Nat :=
  if index &&& 1 = 0 then 0 else levelLoop index 0

/-- `root`. -/
def root (size : TreeSize) : TreeNodeIndex :=
  TreeNodeIndex.new (1 <<< Nat.log2 size.u32 - 1)

/-- `left`. -/
def left (index : ParentNodeIndex) : TreeNodeIndex :=
  let x := index.toTreeIndex
  let k := level x
  TreeNodeIndex.new (x ^^^ 1 <<< (k - 1))

/-- `right`. -/
def right (index : ParentNodeIndex) : TreeNodeIndex :=
  let x := index.toTreeIndex
  let k := level x
  TreeNodeIndex.new (x ^^^ 3 <<< (k - 1))

/-- `parent`. -/
def parent (x : TreeNodeIndex) : ParentNodeIndex :=
  let x := x.u32
  let k := level x
  let b := (x >>> (k + 1)) &&& 1
  ParentNodeIndex.fromTreeIndex ((x ||| 1 <<< k) ^^^ b <<< (k + 1))

/-- `sibling`. -/
def sibling (index : TreeNodeIndex) : TreeNodeIndex :=
  let p := parent index
  if index.u32 < p.toTreeIndex then right p else left p

/-! ## Paths -/

/--
The loop of `direct_path`.  It ends at the root for every leaf of the tree, in
fewer turns than there are nodes.
-/
def directPathLoop (r : Nat) : Nat → Nat → List ParentNodeIndex
  | 0, _ => []
  | fuel + 1, x =>
      if x ≠ r then
        let parent := parent (TreeNodeIndex.new x)
        parent :: directPathLoop r fuel parent.toTreeIndex
      else []

/-- `direct_path`. -/
def directPath (leaf : LeafNodeIndex) (size : TreeSize) :
    List ParentNodeIndex :=
  directPathLoop (root size).u32 size.u32 leaf.toTreeIndex

/-- `copath`. -/
def copath (leaf : LeafNodeIndex) (size : TreeSize) : List TreeNodeIndex :=
  (.leaf leaf :: (directPath leaf size).dropLast.map .parent).map sibling

/-- The loop of `lowest_common_ancestor`. -/
def meetLoop (xn yn k : Nat) : Nat × Nat :=
  if xn ≠ yn then meetLoop (xn >>> 1) (yn >>> 1) (k + 1) else (xn, k)
termination_by xn + yn
decreasing_by
  next different =>
    simp only [Nat.shiftRight_succ, Nat.shiftRight_zero]
    omega

/-- `lowest_common_ancestor`. -/
def lowestCommonAncestor (x y : LeafNodeIndex) : ParentNodeIndex :=
  let x := x.toTreeIndex
  let y := y.toTreeIndex
  let lx := level x + 1
  let ly := level y + 1
  if lx ≤ ly ∧ x >>> ly = y >>> ly then ParentNodeIndex.fromTreeIndex y
  else if ly ≤ lx ∧ x >>> lx = y >>> lx then ParentNodeIndex.fromTreeIndex x
  else
    let (xn, k) := meetLoop x y 0
    ParentNodeIndex.fromTreeIndex (xn <<< k + 1 <<< (k - 1) - 1)

/-- The loop of `common_direct_path`. -/
def commonStart : List (ParentNodeIndex × ParentNodeIndex) →
    List ParentNodeIndex
  | [] => []
  | (x, y) :: rest => if x = y then x :: commonStart rest else []

/-- `common_direct_path`. -/
def commonDirectPath (x y : LeafNodeIndex) (size : TreeSize) :
    List ParentNodeIndex :=
  (commonStart
    ((directPath x size).reverse.zip (directPath y size).reverse)).reverse

/-- `is_node_in_tree`. -/
def isNodeInTree (index : TreeNodeIndex) (size : TreeSize) : Bool :=
  decide (index.u32 < size.u32)

/-! ## Nodes by height and place -/

/-- The node at a height and a place. -/
def nodeAt (height place : Nat) : TreeNodeIndex :=
  TreeNodeIndex.new (number height place)

/-- The parent that is one higher than a height, at a place. -/
def parentAt (height place : Nat) : ParentNodeIndex :=
  ⟨number height place⟩

@[simp]
theorem nodeAt_zero (place : Nat) : nodeAt 0 place = .leaf ⟨place⟩ := by
  rw [nodeAt, number_zero, TreeNodeIndex.new, if_pos (by omega),
    LeafNodeIndex.fromTreeIndex, Nat.mul_div_cancel_left _ (by decide)]

variable (height place : Nat)

@[simp]
theorem nodeAt_succ :
    nodeAt (height + 1) place = .parent (parentAt height place) := by
  have odd : (2 * number height place + 1) % 2 ≠ 0 := by omega
  rw [nodeAt, number_succ, TreeNodeIndex.new, if_neg odd,
    ParentNodeIndex.fromTreeIndex, Nat.add_sub_cancel,
    Nat.mul_div_cancel_left _ (by decide), parentAt]

theorem toTreeIndex_parentAt :
    (parentAt height place).toTreeIndex = number (height + 1) place := by
  rw [number_succ, ParentNodeIndex.toTreeIndex, parentAt, Nat.mul_comm]

theorem toTreeIndex_leaf (place : Nat) :
    LeafNodeIndex.toTreeIndex ⟨place⟩ = number 0 place := by
  rw [number_zero, LeafNodeIndex.toTreeIndex, Nat.mul_comm]

theorem u32_nodeAt :
    (nodeAt height place).u32 = number height place := by
  cases height with
  | zero =>
      rw [nodeAt_zero, TreeNodeIndex.u32, toTreeIndex_leaf]
  | succ height =>
      rw [nodeAt_succ, TreeNodeIndex.u32, toTreeIndex_parentAt]

theorem exists_nodeAt (index : TreeNodeIndex) :
    ∃ height place, index = nodeAt height place := by
  cases index with
  | leaf leaf => exact ⟨0, leaf.u32, (nodeAt_zero _).symm⟩
  | parent parent =>
      obtain ⟨height, place, same⟩ := exists_number parent.u32
      refine ⟨height + 1, place, ?_⟩
      rw [nodeAt_succ, parentAt, ← same]

theorem exists_parentAt (parent : ParentNodeIndex) :
    ∃ height place, parent = parentAt height place := by
  obtain ⟨height, place, same⟩ := exists_number parent.u32
  exact ⟨height, place, by rw [parentAt, ← same]⟩

theorem nodeAt_inj {height place otherHeight otherPlace : Nat}
    (same : nodeAt height place = nodeAt otherHeight otherPlace) :
    height = otherHeight ∧ place = otherPlace := by
  apply number_inj
  rw [← u32_nodeAt, ← u32_nodeAt, same]

theorem nodeAt_eq_iff (height place otherHeight otherPlace : Nat) :
    nodeAt height place = nodeAt otherHeight otherPlace ↔
      height = otherHeight ∧ place = otherPlace := by
  constructor
  · exact nodeAt_inj
  · rintro ⟨rfl, rfl⟩
    rfl

theorem parentAt_inj {height place otherHeight otherPlace : Nat}
    (same : parentAt height place = parentAt otherHeight otherPlace) :
    height = otherHeight ∧ place = otherPlace :=
  number_inj (ParentNodeIndex.mk.inj same)

theorem levelLoop_number {height k : Nat} (place : Nat) (low : k ≤ height) :
    levelLoop (number height place) k = height := by
  induction low using Nat.decreasingInduction with
  | self =>
      rw [levelLoop, Nat.and_one_is_mod, Nat.shiftRight_eq_div_pow,
        ← Nat.toNat_testBit, testBit_number]
      simp
  | of_succ k below induction =>
      rw [levelLoop, Nat.and_one_is_mod, Nat.shiftRight_eq_div_pow,
        ← Nat.toNat_testBit, testBit_number, induction]
      simp [below, below.le]

@[simp]
theorem level_number :
    level (number height place) = height := by
  unfold level
  cases height with
  | zero =>
      rw [if_pos]
      rw [number_zero, Nat.and_one_is_mod, Nat.mul_mod_right]
  | succ height =>
      rw [if_neg, levelLoop_number place (Nat.zero_le _)]
      rw [number_succ, Nat.and_one_is_mod]
      omega

@[simp]
theorem left_parentAt :
    left (parentAt height place) = nodeAt height (2 * place) := by
  simp only [left, toTreeIndex_parentAt, level_number, Nat.add_sub_cancel,
    number_xor_left, nodeAt]

@[simp]
theorem right_parentAt :
    right (parentAt height place) = nodeAt height (2 * place + 1) := by
  simp only [right, toTreeIndex_parentAt, level_number, Nat.add_sub_cancel,
    number_xor_right, nodeAt]

@[simp]
theorem parent_nodeAt :
    parent (nodeAt height place) = parentAt height (place / 2) := by
  simp only [parent, u32_nodeAt, level_number, number_parent, number_succ,
    ParentNodeIndex.fromTreeIndex, Nat.add_sub_cancel, parentAt,
    Nat.mul_div_cancel_left _ (show 0 < 2 by decide)]

@[simp]
theorem sibling_nodeAt :
    sibling (nodeAt height place) =
      nodeAt height (InOrderTree.sibling place) := by
  have below :
      number height place < number (height + 1) (place / 2) ↔
        place % 2 = 0 := by
    have positive : 0 < 2 ^ height := Nat.two_pow_pos height
    have double : 2 ^ (height + 1) = 2 * 2 ^ height := by
      rw [pow_succ, Nat.mul_comm]
    have halves : 2 * (place / 2) + place % 2 = place :=
      Nat.div_add_mod place 2
    have even : 2 ^ (height + 1 + 1) * (place / 2) +
        2 ^ (height + 1) * (place % 2) = 2 ^ (height + 1) * place := by
      rw [pow_succ, Nat.mul_assoc, ← Nat.mul_add, halves]
    simp only [number]
    rcases Nat.mod_two_eq_zero_or_one place with zero | one
    · rw [zero] at even ⊢
      omega
    · rw [one] at even ⊢
      omega
  simp only [sibling, parent_nodeAt, u32_nodeAt, toTreeIndex_parentAt,
    right_parentAt, left_parentAt, InOrderTree.sibling]
  rcases Nat.mod_two_eq_zero_or_one place with zero | one
  · rw [if_pos (below.mpr zero), if_pos zero]
    congr 1
    omega
  · have above : ¬number height place < number (height + 1) (place / 2) := by
      rw [below]
      omega
    rw [if_neg above, if_neg (by omega)]
    congr 1
    omega

/-! ## Trees of a height -/

/-- The size is that of the perfect tree of a height. -/
def TreeSize.HasHeight (size : TreeSize) (height : Nat) : Prop :=
  size.u32 = 2 ^ (height + 1) - 1

theorem TreeSize.exists_height (size : TreeSize) :
    ∃ height, size.HasHeight height :=
  size.perfect

section Height

variable {size : TreeSize} {top : Nat}

theorem TreeSize.HasHeight.leafCount_eq (tall : size.HasHeight top) :
    size.leafCount = 2 ^ top := by
  have positive : 0 < 2 ^ top := Nat.two_pow_pos top
  rw [leafCount, tall, pow_succ]
  omega

theorem TreeSize.HasHeight.log2_eq (tall : size.HasHeight top) :
    Nat.log2 size.u32 = top := by
  have positive : 0 < 2 ^ top := Nat.two_pow_pos top
  have double : 2 ^ (top + 1) = 2 * 2 ^ top := by
    rw [pow_succ, Nat.mul_comm]
  rw [tall, Nat.log2_eq_iff (by omega)]
  omega

theorem TreeSize.HasHeight.inc (tall : size.HasHeight top) :
    size.inc.HasHeight (top + 1) := by
  have positive : 0 < 2 ^ (top + 1) := Nat.two_pow_pos _
  have nodes : size.u32 = 2 ^ (top + 1) - 1 := tall
  simp only [HasHeight, TreeSize.inc, nodes, pow_succ _ (top + 1)]
  omega

theorem TreeSize.HasHeight.dec (tall : size.HasHeight (top + 1))
    (large : 2 ≤ size.u32) : (size.dec large).HasHeight top := by
  have positive : 0 < 2 ^ (top + 1) := Nat.two_pow_pos _
  have nodes : size.u32 = 2 ^ (top + 1 + 1) - 1 := tall
  simp only [HasHeight, TreeSize.dec, nodes, pow_succ _ (top + 1)]
  omega

theorem TreeSize.HasHeight.unique {other : Nat} (tall : size.HasHeight top)
    (alsoTall : size.HasHeight other) : top = other := by
  rw [← tall.log2_eq, alsoTall.log2_eq]

theorem root_eq (tall : size.HasHeight top) : root size = nodeAt top 0 := by
  rw [root, tall.log2_eq, Nat.one_shiftLeft, nodeAt, number_top]

theorem isNodeInTree_nodeAt (tall : size.HasHeight top)
    (height place : Nat) :
    isNodeInTree (nodeAt height place) size = true ↔
      height ≤ top ∧ place < 2 ^ (top - height) := by
  have nodes : size.u32 = 2 ^ (top + 1) - 1 := tall
  rw [isNodeInTree, decide_eq_true_iff, u32_nodeAt, nodes, number_lt_iff]

/-- The loop climbs to the root, with any fuel that reaches it. -/
theorem directPathLoop_eq {distance fuel : Nat} (enough : distance ≤ fuel)
    (height : Nat) {place : Nat} (inside : place < 2 ^ distance) :
    directPathLoop (number (height + distance) 0) fuel
        (number height place) =
      (List.range distance).map fun k =>
        parentAt (height + k) (place / 2 ^ (k + 1)) := by
  induction distance generalizing fuel height place with
  | zero =>
      have first : place = 0 := by simpa using inside
      subst first
      cases fuel with
      | zero => rfl
      | succ fuel => simp [directPathLoop]
  | succ distance induction =>
      cases fuel with
      | zero => exact absurd enough (Nat.not_succ_le_zero _)
      | succ fuel =>
          have below :
              number height place ≠ number (height + (distance + 1)) 0 := by
            intro same
            have heights := (number_inj same).1
            omega
          have above : place / 2 < 2 ^ distance := by
            rw [pow_succ] at inside
            omega
          have climb :
              parent (TreeNodeIndex.new (number height place)) =
                parentAt height (place / 2) :=
            parent_nodeAt height place
          have rest := induction (Nat.le_of_succ_le_succ enough)
            (height + 1) above
          rw [directPathLoop, if_pos below]
          simp only [climb, toTreeIndex_parentAt]
          rw [← Nat.add_assoc, Nat.add_right_comm, rest,
            List.range_succ_eq_map, List.map_cons, List.map_map]
          simp only [pow_one, Nat.add_zero, Nat.zero_add]
          congr 1
          apply List.map_congr_left
          intro k _
          simp only [Function.comp_apply]
          rw [Nat.div_div_eq_div_mul, Nat.add_right_comm, Nat.add_assoc,
            ← pow_succ']

/-- The direct path of a leaf: the nodes above it, up to the root. -/
theorem directPath_eq (tall : size.HasHeight top) {place : Nat}
    (inside : place < 2 ^ top) :
    directPath ⟨place⟩ size =
      (List.range top).map fun k => parentAt k (place / 2 ^ (k + 1)) := by
  have enough : top ≤ size.u32 := by
    have large : top + 1 < 2 ^ (top + 1) := Nat.lt_two_pow_self
    rw [tall]
    omega
  have climb := directPathLoop_eq enough 0 inside
  rw [directPath, root_eq tall, u32_nodeAt, toTreeIndex_leaf]
  simpa using climb

/-- The copath of a leaf: the siblings of the leaf and of its direct path. -/
theorem copath_eq (tall : size.HasHeight (top + 1)) {place : Nat}
    (inside : place < 2 ^ (top + 1)) :
    copath ⟨place⟩ size =
      (List.range (top + 1)).map fun k =>
        nodeAt k (InOrderTree.sibling (place / 2 ^ k)) := by
  have belowRoot :
      (directPath ⟨place⟩ size).dropLast =
        (List.range top).map fun k => parentAt k (place / 2 ^ (k + 1)) := by
    rw [directPath_eq tall inside, List.range_succ, List.map_append,
      List.map_singleton, List.dropLast_concat]
  rw [copath, belowRoot, List.range_succ_eq_map, List.map_cons,
    List.map_cons, List.map_map, List.map_map, List.map_map]
  congr 1
  · rw [← nodeAt_zero, sibling_nodeAt, pow_zero, Nat.div_one]
  · apply List.map_congr_left
    intro k _
    simp only [Function.comp_apply, ← nodeAt_succ, sibling_nodeAt]

end Height

/-! ## Subtrees -/

theorem level_left_lt (index : ParentNodeIndex) :
    level (left index).u32 < level index.toTreeIndex := by
  obtain ⟨height, place, rfl⟩ := exists_parentAt index
  simp [u32_nodeAt, toTreeIndex_parentAt]

theorem level_right_lt (index : ParentNodeIndex) :
    level (right index).u32 < level index.toTreeIndex := by
  obtain ⟨height, place, rfl⟩ := exists_parentAt index
  simp [u32_nodeAt, toTreeIndex_parentAt]

/-- The leaves that `left` and `right` lead to from a node. -/
def leavesUnder : TreeNodeIndex → List LeafNodeIndex
  | .leaf index => [index]
  | .parent index => leavesUnder (left index) ++ leavesUnder (right index)
termination_by node => level node.u32
decreasing_by
  · exact level_left_lt index
  · exact level_right_lt index

theorem leavesUnder_nodeAt :
    leavesUnder (nodeAt height place) =
      (List.range' (2 ^ height * place) (2 ^ height)).map
        LeafNodeIndex.mk := by
  induction height generalizing place with
  | zero => simp [leavesUnder]
  | succ height induction =>
      rw [nodeAt_succ, leavesUnder, left_parentAt, right_parentAt, induction,
        induction, ← List.map_append]
      have start :
          2 ^ height * (2 * place + 1) =
            2 ^ height * (2 * place) + 2 ^ height := by
        ring
      rw [start, List.range'_append_1]
      congr 2
      · ring
      · ring

/-- A leaf is under the node that has its quotient as its place. -/
theorem mem_leavesUnder (leaf height place : Nat) :
    ⟨leaf⟩ ∈ leavesUnder (nodeAt height place) ↔
      leaf / 2 ^ height = place := by
  have positive : 0 < 2 ^ height := Nat.two_pow_pos height
  rw [leavesUnder_nodeAt, List.mem_map]
  simp only [LeafNodeIndex.mk.injEq, exists_eq_right, List.mem_range'_1]
  rw [Nat.div_eq_iff positive]
  constructor
  · rintro ⟨low, high⟩
    rw [Nat.mul_comm] at low
    rw [Nat.mul_comm] at high
    omega
  · rintro ⟨low, high⟩
    rw [Nat.mul_comm (2 ^ height)]
    omega

/--
The leaves under a node above a leaf: the leaf, and those under the siblings
on the way up to the node.
-/
theorem leavesUnder_perm (leaf height : Nat) :
    (leavesUnder (nodeAt height (leaf / 2 ^ height))).Perm
      (⟨leaf⟩ :: (List.range height).flatMap fun k =>
        leavesUnder (nodeAt k (InOrderTree.sibling (leaf / 2 ^ k)))) := by
  induction height with
  | zero => simp [leavesUnder]
  | succ height induction =>
      have children :
          (leavesUnder (nodeAt (height + 1) (leaf / 2 ^ (height + 1)))).Perm
            (leavesUnder (nodeAt height (leaf / 2 ^ height)) ++
              leavesUnder (nodeAt height
                (InOrderTree.sibling (leaf / 2 ^ height)))) := by
        rw [nodeAt_succ, leavesUnder, left_parentAt, right_parentAt,
          div_pow_succ, InOrderTree.sibling]
        split
        · next even =>
          have same : 2 * (leaf / 2 ^ height / 2) = leaf / 2 ^ height := by
            omega
          rw [same]
        · next odd =>
          have same :
              2 * (leaf / 2 ^ height / 2) + 1 = leaf / 2 ^ height := by
            omega
          have other :
              2 * (leaf / 2 ^ height / 2) = leaf / 2 ^ height - 1 := by
            omega
          rw [same, other]
          exact List.perm_append_comm
      refine children.trans ((induction.append_right _).trans ?_)
      rw [List.range_succ, List.flatMap_append, List.flatMap_singleton,
        List.cons_append]

/--
The copath of a leaf covers all other leaves of the tree, each of them once.
-/
theorem copath_covers_other_leaves
    (size : TreeSize) (leaf : LeafNodeIndex)
    (several : 1 < size.leafCount) (inside : leaf.u32 < size.leafCount) :
    (leaf :: (copath leaf size).flatMap leavesUnder).Perm
      ((List.range size.leafCount).map LeafNodeIndex.mk) := by
  obtain ⟨top, tall⟩ := size.exists_height
  rw [tall.leafCount_eq] at several inside ⊢
  cases top with
  | zero => exact absurd several (by decide)
  | succ top =>
      have above : leaf.u32 / 2 ^ (top + 1) = 0 := Nat.div_eq_of_lt inside
      have all := leavesUnder_perm leaf.u32 (top + 1)
      rw [above, leavesUnder_nodeAt, Nat.mul_zero, ← List.range_eq_range']
        at all
      rw [copath_eq tall inside, List.flatMap_map]
      exact all.symm

theorem copath_of_four_leaves :
    (⟨1⟩ :: (copath ⟨1⟩ (TreeSize.new 7)).flatMap leavesUnder).Perm
      [⟨0⟩, ⟨1⟩, ⟨2⟩, ⟨3⟩] :=
  copath_covers_other_leaves (TreeSize.new 7) ⟨1⟩ (by decide) (by decide)

/-! ## Two leaves -/

theorem meetLoop_eq {first second height : Nat}
    (parts : Parts first second height) {k : Nat} (low : k ≤ height + 2) :
    meetLoop ((2 * first) >>> k) ((2 * second) >>> k) k =
      (first / 2 ^ (height + 1), height + 2) := by
  have shifted (leaf k : Nat) :
      (2 * leaf) >>> (k + 1) = leaf / 2 ^ k := by
    rw [Nat.shiftRight_eq_div_pow, pow_succ',
      Nat.mul_div_mul_left _ _ (by decide)]
  induction low using Nat.decreasingInduction with
  | self => rw [meetLoop, shifted, shifted, parts.2, if_neg (by simp)]
  | of_succ k below induction =>
      have different : (2 * first) >>> k ≠ (2 * second) >>> k := by
        cases k with
        | zero =>
            intro same
            have equal : first = second := by
              simp only [Nat.shiftRight_zero] at same
              omega
            exact parts.1 (by rw [equal])
        | succ k =>
            rw [shifted, shifted, ne_eq, parts.meet_iff]
            omega
      rw [meetLoop, if_pos different, ← Nat.shiftRight_add,
        ← Nat.shiftRight_add, induction]

theorem lowestCommonAncestor_eq {first second height : Nat}
    (parts : Parts first second height) :
    lowestCommonAncestor ⟨first⟩ ⟨second⟩ =
      parentAt height (first / 2 ^ (height + 1)) := by
  have apart : ¬(2 * first) >>> 1 = (2 * second) >>> 1 := by
    intro same
    have equal : first = second := by
      simp only [Nat.shiftRight_succ, Nat.shiftRight_zero] at same
      omega
    exact parts.1 (by rw [equal])
  have zero (leaf : Nat) : level (2 * leaf) = 0 := by
    rw [← number_zero, level_number]
  have ran := meetLoop_eq parts (Nat.zero_le _)
  simp only [Nat.shiftRight_zero] at ran
  simp only [lowestCommonAncestor, toTreeIndex_leaf, number_zero, zero,
    Nat.zero_add, apart, and_false, if_false, ran]
  have positive : 0 < 2 ^ (height + 1) := Nat.two_pow_pos _
  have value :
      (first / 2 ^ (height + 1)) <<< (height + 2) +
          1 <<< (height + 2 - 1) - 1 =
        number (height + 1) (first / 2 ^ (height + 1)) := by
    rw [Nat.shiftLeft_eq, Nat.one_shiftLeft, number, Nat.mul_comm,
      Nat.add_sub_assoc]
    · rfl
    · exact positive
  rw [value, number_succ, ParentNodeIndex.fromTreeIndex,
    Nat.add_sub_cancel, Nat.mul_div_cancel_left _ (by decide), parentAt]

theorem commonStart_eq (pairs : List (ParentNodeIndex × ParentNodeIndex)) :
    commonStart pairs =
      (pairs.takeWhile fun pair => decide (pair.1 = pair.2)).map
        Prod.fst := by
  induction pairs with
  | nil => rfl
  | cons pair pairs induction =>
      rcases pair with ⟨x, y⟩
      by_cases same : x = y
      · simp [commonStart, same, induction]
      · simp [commonStart, same]

/-- From the end on, a condition that stays true once it is holds first. -/
theorem takeWhile_reverse_range {condition : Nat → Bool}
    (stays : ∀ k, condition k = true → condition (k + 1) = true)
    (count : Nat) :
    (List.range count).reverse.takeWhile condition =
      ((List.range count).filter condition).reverse := by
  have later {k : Nat} (holds : condition k = true) (distance : Nat) :
      condition (k + distance) = true := by
    induction distance with
    | zero => exact holds
    | succ distance induction => exact stays _ induction
  induction count with
  | zero => rfl
  | succ count induction =>
      rw [List.range_succ, List.reverse_append, List.reverse_singleton,
        List.singleton_append, List.takeWhile_cons, List.filter_append,
        List.reverse_append, induction]
      by_cases holds : condition count = true
      · simp [holds]
      · have nothing : (List.range count).filter condition = [] := by
          rw [List.filter_eq_nil_iff]
          intro k inside already
          obtain ⟨distance, rfl⟩ :=
            Nat.exists_eq_add_of_le (List.mem_range.mp inside).le
          exact holds (later already distance)
        simp [holds, nothing]

section TwoLeaves

variable {size : TreeSize} {top : Nat}

theorem commonDirectPath_eq (tall : size.HasHeight top) {first second : Nat}
    (firstInside : first < 2 ^ top) (secondInside : second < 2 ^ top) :
    commonDirectPath ⟨first⟩ ⟨second⟩ size =
      ((List.range top).filter fun k =>
        decide (first / 2 ^ (k + 1) = second / 2 ^ (k + 1))).map fun k =>
          parentAt k (first / 2 ^ (k + 1)) := by
  have pairs :
      (directPath ⟨first⟩ size).reverse.zip
          (directPath ⟨second⟩ size).reverse =
        (List.range top).reverse.map fun k =>
          (parentAt k (first / 2 ^ (k + 1)),
            parentAt k (second / 2 ^ (k + 1))) := by
    rw [directPath_eq tall firstInside, directPath_eq tall secondInside,
      ← List.map_reverse, ← List.map_reverse, List.zip_map']
  have condition :
      ((fun pair : ParentNodeIndex × ParentNodeIndex =>
          decide (pair.1 = pair.2)) ∘ fun k =>
            (parentAt k (first / 2 ^ (k + 1)),
              parentAt k (second / 2 ^ (k + 1)))) =
        fun k =>
          decide (first / 2 ^ (k + 1) = second / 2 ^ (k + 1)) := by
    funext k
    simp only [Function.comp_apply, decide_eq_decide]
    constructor
    · intro same
      exact (parentAt_inj same).2
    · intro same
      rw [same]
  rw [commonDirectPath, pairs, commonStart_eq, List.takeWhile_map,
    condition, takeWhile_reverse_range]
  · rw [← List.map_reverse, ← List.map_reverse, List.reverse_reverse,
      List.map_map]
    rfl
  · intro k meet
    rw [decide_eq_true_iff] at meet ⊢
    exact div_pow_eq_of_le meet (Nat.le_succ _)

/-- The direct path has exactly the nodes of the tree above the leaf. -/
theorem mem_directPath_iff (tall : size.HasHeight top) {leaf : Nat}
    (inside : leaf < 2 ^ top) (node : ParentNodeIndex) :
    node ∈ directPath ⟨leaf⟩ size ↔
      isNodeInTree (.parent node) size = true ∧
        ⟨leaf⟩ ∈ leavesUnder (.parent node) := by
  obtain ⟨height, place, rfl⟩ := exists_parentAt node
  rw [directPath_eq tall inside, List.mem_map, ← nodeAt_succ,
    isNodeInTree_nodeAt tall, mem_leavesUnder]
  constructor
  · rintro ⟨k, low, same⟩
    obtain ⟨rfl, rfl⟩ := parentAt_inj same
    refine ⟨⟨List.mem_range.mp low, ?_⟩, rfl⟩
    rw [Nat.div_lt_iff_lt_mul (Nat.two_pow_pos _), ← pow_add,
      Nat.sub_add_cancel (List.mem_range.mp low)]
    exact inside
  · rintro ⟨⟨low, -⟩, rfl⟩
    exact ⟨height, List.mem_range.mpr low, rfl⟩

end TwoLeaves

/--
The direct path of a leaf has exactly the nodes of the tree above it.  The
common direct path of two leaves has those that are above both, and begins
with their lowest common ancestor.
-/
theorem paths_of_two_leaves
    (size : TreeSize) (first second : LeafNodeIndex)
    (firstInside : first.u32 < size.leafCount)
    (secondInside : second.u32 < size.leafCount) :
    (∀ node,
        node ∈ directPath first size ↔
          isNodeInTree (.parent node) size = true ∧
            first ∈ leavesUnder (.parent node)) ∧
      commonDirectPath first second size =
        (directPath first size).filter (fun node =>
          decide (second ∈ leavesUnder (.parent node))) ∧
      (first ≠ second →
        (commonDirectPath first second size).head? =
          some (lowestCommonAncestor first second)) := by
  obtain ⟨top, tall⟩ := size.exists_height
  rcases first with ⟨first⟩
  rcases second with ⟨second⟩
  rw [tall.leafCount_eq] at firstInside secondInside
  refine ⟨mem_directPath_iff tall firstInside, ?_, ?_⟩
  · rw [commonDirectPath_eq tall firstInside secondInside,
      directPath_eq tall firstInside, List.filter_map]
    congr 1
    apply List.filter_congr
    intro k _
    simp only [Function.comp_apply, decide_eq_decide, ← nodeAt_succ,
      mem_leavesUnder]
    exact eq_comm
  · intro different
    have meet : first / 2 ^ top = second / 2 ^ top := by
      rw [Nat.div_eq_of_lt firstInside, Nat.div_eq_of_lt secondInside]
    obtain ⟨height, below, parts⟩ :=
      exists_parts (fun same => different (by rw [same])) meet
    have split : List.range top =
        List.range height ++ height :: List.range' (height + 1)
          (top - (height + 1)) := by
      have joined :=
        @List.range'_append_1 0 height (top - (height + 1) + 1)
      rw [Nat.zero_add] at joined
      rw [List.range_eq_range', List.range_eq_range', ← List.range'_succ,
        joined]
      congr 1
      omega
    have skipped : (List.range height).filter (fun k =>
        decide (first / 2 ^ (k + 1) = second / 2 ^ (k + 1))) = [] := by
      rw [List.filter_eq_nil_iff]
      intro k low
      rw [decide_eq_true_iff, parts.meet_iff]
      have := List.mem_range.mp low
      omega
    rw [commonDirectPath_eq tall firstInside secondInside, split,
      List.filter_append, skipped, List.nil_append, List.filter_cons_of_pos,
      List.map_cons, List.head?_cons, lowestCommonAncestor_eq parts]
    exact decide_eq_true parts.2

theorem paths_of_first_and_third_leaf :
    (commonDirectPath ⟨0⟩ ⟨2⟩ (TreeSize.new 15)).head? =
      some (lowestCommonAncestor ⟨0⟩ ⟨2⟩) :=
  (paths_of_two_leaves (TreeSize.new 15) ⟨0⟩ ⟨2⟩ (by decide)
    (by decide)).2.2 (by decide)

end Mls4rn.OpenMls.TreeMath
