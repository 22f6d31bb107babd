import Mls4rn.OpenMls.SenderRatchet
import Mls4rn.OpenMls.TreeMath

/-!
# The secret tree

`secret_tree.rs`: the encryption secret of an epoch stands at the root of a
tree and is carried down to a leaf when the leaf's sender ratchets are first
needed.  A node that has been carried down is blank from then on.

At any time the secrets of the tree form a frontier: above a leaf without
ratchets exactly one node has a secret, and above a leaf with ratchets none
has.  This holds whichever derivations fail, and it is why the tree hands out
the same secrets in whatever order they are asked for.
-/

namespace Mls4rn.OpenMls.SecretTrees

open Mls4rn.Lib
open Mls4rn.Lib.ByteString
open Mls4rn.Lib.InOrderTree
open Mls4rn.Lib.Throwing
open Mls4rn.OpenMls.KeyDerivation
open Mls4rn.OpenMls.SenderRatchet
open Mls4rn.OpenMls.TreeMath

/-- `SecretType`. -/
inductive SecretType where
  | handshakeSecret
  | applicationSecret
deriving DecidableEq, Repr

/-- One of two things, by the type. -/
def SecretType.choose {Value : Type} (handshake application : Value) :
    SecretType → Value
  | .handshakeSecret => handshake
  | .applicationSecret => application

@[simp]
theorem choose_handshakeSecret {Value : Type}
    (handshake application : Value) :
    SecretType.choose handshake application .handshakeSecret = handshake :=
  rfl

@[simp]
theorem choose_applicationSecret {Value : Type}
    (handshake application : Value) :
    SecretType.choose handshake application .applicationSecret =
      application :=
  rfl

/-- `SenderRatchet`. -/
inductive SenderRatchet (Secret : Type) where
  | encryptionRatchet (ratchet : RatchetSecret Secret)
  | decryptionRatchet (ratchet : DecryptionRatchet Secret)
deriving DecidableEq, Repr

/-- `SecretTree`; a `SecretTreeNode` is its secret. -/
structure SecretTree (Secret : Type) where
  ownIndex : LeafNodeIndex
  leafNodes : List (Option Secret)
  parentNodes : List (Option Secret)
  handshakeSenderRatchets : List (Option (SenderRatchet Secret))
  applicationSenderRatchets : List (Option (SenderRatchet Secret))
  size : TreeSize

section Model

variable {Secret : Type}

/-- The sender ratchets of a type. -/
def SecretTree.senderRatchets (tree : SecretTree Secret) :
    SecretType → List (Option (SenderRatchet Secret)) :=
  SecretType.choose tree.handshakeSenderRatchets
    tree.applicationSenderRatchets

/-- Replace a sender ratchet. -/
def SecretTree.setRatchet (tree : SecretTree Secret) (secretType : SecretType)
    (index : LeafNodeIndex) (ratchet : SenderRatchet Secret) :
    SecretTree Secret :=
  match secretType with
  | .handshakeSecret =>
      { tree with
        handshakeSenderRatchets :=
          tree.handshakeSenderRatchets.set index.u32 (some ratchet) }
  | .applicationSecret =>
      { tree with
        applicationSenderRatchets :=
          tree.applicationSenderRatchets.set index.u32 (some ratchet) }

/-- An action on the secret tree. -/
abbrev TreeAction (Secret Value : Type) : Type :=
  Throwing (SecretTree Secret) SecretTreeError Value

/-- The place of a node in the arrays, if there is one. -/
def SecretTree.slot (tree : SecretTree Secret) :
    TreeNodeIndex → Option (Option Secret)
  | .leaf leaf => tree.leafNodes[leaf.u32]?
  | .parent parent => tree.parentNodes[parent.u32]?

/-- The tree with another secret in the place of a node. -/
def SecretTree.put (tree : SecretTree Secret) (index : TreeNodeIndex)
    (node : Option Secret) : SecretTree Secret :=
  match index with
  | .leaf leaf => { tree with leafNodes := tree.leafNodes.set leaf.u32 node }
  | .parent parent =>
      { tree with parentNodes := tree.parentNodes.set parent.u32 node }

/-- `get_node`. -/
def getNode (index : TreeNodeIndex) : TreeAction Secret (Option Secret) := do
  let tree ← Throwing.read
  match tree.slot index with
  | none => raise .indexOutOfBounds
  | some node => pure node

/-- `set_node`. -/
def setNode (index : TreeNodeIndex) (node : Option Secret) :
    TreeAction Secret Unit := do
  let tree ← Throwing.read
  match tree.slot index with
  | none => raise .indexOutOfBounds
  | some _ => Throwing.update fun tree => tree.put index node

/-- `ratchet_opt`. -/
def ratchetOpt (index : LeafNodeIndex) (secretType : SecretType) :
    TreeAction Secret (Option (SenderRatchet Secret)) := do
  let tree ← Throwing.read
  match (tree.senderRatchets secretType)[index.u32]? with
  | none => raise .indexOutOfBounds
  | some ratchet => pure ratchet

/-- `ratchet_mut`, as the ratchet that it refers to. -/
def ratchetMut (index : LeafNodeIndex) (secretType : SecretType) :
    TreeAction Secret (SenderRatchet Secret) := do
  let tree ← Throwing.read
  match (tree.senderRatchets secretType)[index.u32]? with
  | none => raise .indexOutOfBounds
  | some none => raise .indexOutOfBounds
  | some (some ratchet) => pure ratchet

/-- Run a computation on a ratchet in its place. -/
def onRatchet {Ratchet Value : Type} (index : LeafNodeIndex)
    (secretType : SecretType) (wrap : Ratchet → SenderRatchet Secret)
    (ratchet : Ratchet) (action : Throwing Ratchet SecretTreeError Value) :
    TreeAction Secret Value :=
  fun tree =>
    let result := action ratchet
    (result.1, tree.setRatchet secretType index (wrap result.2))

/-- `SecretTree::new`, with the result of `set_node` ignored. -/
def SecretTree.new (encryptionSecret : Secret) (size : TreeSize)
    (ownIndex : LeafNodeIndex) : SecretTree Secret :=
  (setNode (root size) (some encryptionSecret)
    { ownIndex := ownIndex
      leafNodes := List.replicate size.leafCount none
      parentNodes := List.replicate size.leafCount none
      handshakeSenderRatchets := List.replicate size.leafCount none
      applicationSenderRatchets := List.replicate size.leafCount none
      size := size }).2

variable (crypto : Crypto Secret)

/-- `derive_child_secrets`. -/
def deriveChildSecrets (parentSecret : Secret) :
    Except CryptoError (Secret × Secret) := do
  let leftChild ← kdfExpandLabel crypto parentSecret "tree" (asBytes "left")
    crypto.hashLength
  let rightChild ← kdfExpandLabel crypto parentSecret "tree"
    (asBytes "right") crypto.hashLength
  return (leftChild, rightChild)

/-- `derive_down`. -/
def deriveDown (indexInTree : ParentNodeIndex) : TreeAction Secret Unit := do
  match ← getNode (.parent indexInTree) with
  | none => raise .libraryError
  | some nodeSecret => do
      let children ← ofExcept
        ((deriveChildSecrets crypto nodeSecret).mapError .cryptoError)
      setNode (left indexInTree) (some children.1)
      setNode (right indexInTree) (some children.2)
      setNode (.parent indexInTree) none

/--
The nodes of a direct path up to the first one that is not blank, that one
included.
-/
def emptyNodes : List ParentNodeIndex → TreeAction Secret (List ParentNodeIndex)
  | [] => pure []
  | parentNode :: directPath => do
      match ← getNode (.parent parentNode) with
      | some _ => pure [parentNode]
      | none => do
          let above ← emptyNodes directPath
          return parentNode :: above

/-- Derive the secrets down along some nodes. -/
def deriveDownAll : List ParentNodeIndex → TreeAction Secret Unit
  | [] => pure ()
  | node :: nodes => do
      deriveDown crypto node
      deriveDownAll nodes

/-- The first ratchet of a secret, for the own leaf and for the others. -/
def newSenderRatchet (own : Bool) (secret : Secret) : SenderRatchet Secret :=
  if own then
    .encryptionRatchet (RatchetSecret.initialRatchetSecret secret)
  else .decryptionRatchet (DecryptionRatchet.new secret)

/-- Put a new sender ratchet in its place. -/
def putRatchet (index : LeafNodeIndex) (secretType : SecretType)
    (ratchet : SenderRatchet Secret) : TreeAction Secret Unit := do
  let tree ← Throwing.read
  if index.u32 < (tree.senderRatchets secretType).length then
    Throwing.update fun tree => tree.setRatchet secretType index ratchet
  else raise .indexOutOfBounds

/-- The secret of a leaf, derived down to it if it has none. -/
def deriveLeaf (index : LeafNodeIndex) : TreeAction Secret Unit := do
  match ← getNode (.leaf index) with
  | some _ => pure ()
  | none => do
      let tree ← Throwing.read
      let nodes ← emptyNodes (directPath index tree.size)
      deriveDownAll crypto nodes.reverse

/-- Whether both ratchets of a leaf are there. -/
def isInitialized (index : LeafNodeIndex) : TreeAction Secret Bool := do
  let handshake ← ratchetOpt index .handshakeSecret
  if handshake.isSome then do
    let application ← ratchetOpt index .applicationSecret
    return application.isSome
  else return false

/-- `initialize_sender_ratchets`. -/
def initializeSenderRatchets (index : LeafNodeIndex) :
    TreeAction Secret Unit := do
  let tree ← Throwing.read
  if tree.size.leafCount ≤ index.u32 then raise .indexOutOfBounds
  else do
    let initialized ← isInitialized index
    if initialized then pure ()
    else do
      deriveLeaf crypto index
      match ← getNode (.leaf index) with
      | none => raise .libraryError
      | some nodeSecret => do
          let handshakeSecret ← ofExcept
            ((kdfExpandLabel crypto nodeSecret "handshake" []
              crypto.hashLength).mapError .cryptoError)
          let applicationSecret ← ofExcept
            ((kdfExpandLabel crypto nodeSecret "application" []
              crypto.hashLength).mapError .cryptoError)
          let own := decide (index = tree.ownIndex)
          putRatchet index .handshakeSecret
            (newSenderRatchet own handshakeSecret)
          putRatchet index .applicationSecret
            (newSenderRatchet own applicationSecret)
          setNode (.leaf index) none

/-- Initialize the ratchets of a leaf that has none of a type. -/
def ensureRatchet (index : LeafNodeIndex) (secretType : SecretType) :
    TreeAction Secret Unit := do
  let ratchet ← ratchetOpt index secretType
  if ratchet.isNone then initializeSenderRatchets crypto index else pure ()

/-- `SecretTree::secret_for_decryption`. -/
def secretForDecryption (index : LeafNodeIndex) (secretType : SecretType)
    (generation : Nat) (configuration : SenderRatchetConfiguration) :
    TreeAction Secret (RatchetKeyMaterial Secret) := do
  let tree ← Throwing.read
  if tree.size.leafCount ≤ index.u32 then raise .indexOutOfBounds
  else do
    ensureRatchet crypto index secretType
    match ← ratchetMut index secretType with
    | .encryptionRatchet _ => raise .ratchetTypeError
    | .decryptionRatchet ratchet =>
        onRatchet index secretType .decryptionRatchet ratchet
          (SenderRatchet.secretForDecryption crypto generation configuration)

/-- `SecretTree::secret_for_encryption`. -/
def secretForEncryption (index : LeafNodeIndex) (secretType : SecretType) :
    TreeAction Secret (Nat × RatchetKeyMaterial Secret) := do
  ensureRatchet crypto index secretType
  match ← ratchetMut index secretType with
  | .decryptionRatchet _ => raise .ratchetTypeError
  | .encryptionRatchet ratchet =>
      onRatchet index secretType .encryptionRatchet ratchet
        (ratchetForward crypto)

end Model

/-! ## Nodes and their places -/

section Nodes

variable {Secret : Type} {tree : SecretTree Secret}

/-- The secret at a node. -/
def SecretTree.secretOf (tree : SecretTree Secret) (index : TreeNodeIndex) :
    Option Secret :=
  (tree.slot index).join

/-- The ratchet of a leaf. -/
def SecretTree.ratchet (tree : SecretTree Secret) (secretType : SecretType)
    (leaf : LeafNodeIndex) : Option (SenderRatchet Secret) :=
  (tree.senderRatchets secretType)[leaf.u32]?.join

theorem getNode_eq {index : TreeNodeIndex}
    (place : (tree.slot index).isSome) :
    getNode index tree = (.ok (tree.secretOf index), tree) := by
  obtain ⟨node, there⟩ := Option.isSome_iff_exists.mp place
  unfold getNode SecretTree.secretOf
  rw [read_bind, there]
  rfl

theorem setNode_eq {index : TreeNodeIndex}
    (place : (tree.slot index).isSome) (node : Option Secret) :
    setNode index node tree = (.ok (), tree.put index node) := by
  obtain ⟨old, there⟩ := Option.isSome_iff_exists.mp place
  unfold setNode
  rw [read_bind, there]
  rfl

variable (index : TreeNodeIndex)

theorem slot_put (node : Option Secret)
    (other : TreeNodeIndex) :
    (tree.put index node).slot other =
      if other = index then (tree.slot other).map fun _ => node
      else tree.slot other := by
  cases index with
  | leaf leaf =>
      cases other with
      | parent parent => simp [SecretTree.put, SecretTree.slot]
      | leaf other =>
          rcases leaf with ⟨leaf⟩
          rcases other with ⟨other⟩
          by_cases same : other = leaf
          · subst same
            rw [if_pos rfl]
            exact List.getElem?_set_self'
          · simp [SecretTree.put, SecretTree.slot, same,
              List.getElem?_set_ne (Ne.symm same)]
  | parent parent =>
      cases other with
      | leaf leaf => simp [SecretTree.put, SecretTree.slot]
      | parent other =>
          rcases parent with ⟨parent⟩
          rcases other with ⟨other⟩
          by_cases same : other = parent
          · subst same
            rw [if_pos rfl]
            exact List.getElem?_set_self'
          · simp [SecretTree.put, SecretTree.slot, same,
              List.getElem?_set_ne (Ne.symm same)]

theorem secretOf_put {index : TreeNodeIndex}
    (place : (tree.slot index).isSome) (node : Option Secret)
    (other : TreeNodeIndex) :
    (tree.put index node).secretOf other =
      if other = index then node else tree.secretOf other := by
  obtain ⟨old, there⟩ := Option.isSome_iff_exists.mp place
  unfold SecretTree.secretOf
  rw [slot_put]
  split
  · next same => rw [same, there, Option.map_some, Option.join_some]
  · rfl

@[simp]
theorem isSome_slot_put (node : Option Secret)
    (other : TreeNodeIndex) :
    ((tree.put index node).slot other).isSome =
      (tree.slot other).isSome := by
  rw [slot_put]
  split
  · rw [Option.isSome_map]
  · rfl

@[simp]
theorem size_put (node : Option Secret) :
    (tree.put index node).size = tree.size := by
  cases index <;> rfl

@[simp]
theorem ownIndex_put (node : Option Secret) :
    (tree.put index node).ownIndex = tree.ownIndex := by
  cases index <;> rfl

@[simp]
theorem senderRatchets_put (node : Option Secret)
    (secretType : SecretType) :
    (tree.put index node).senderRatchets secretType =
      tree.senderRatchets secretType := by
  cases index <;> cases secretType <;> rfl

@[simp]
theorem ratchet_put (node : Option Secret)
    (secretType : SecretType) (leaf : LeafNodeIndex) :
    (tree.put index node).ratchet secretType leaf =
      tree.ratchet secretType leaf := by
  rw [SecretTree.ratchet, senderRatchets_put, SecretTree.ratchet]

@[simp]
theorem slot_setRatchet (secretType : SecretType)
    (leaf : LeafNodeIndex) (ratchet : SenderRatchet Secret)
    (index : TreeNodeIndex) :
    (tree.setRatchet secretType leaf ratchet).slot index =
      tree.slot index := by
  cases secretType <;> cases index <;> rfl

@[simp]
theorem secretOf_setRatchet (secretType : SecretType)
    (leaf : LeafNodeIndex) (ratchet : SenderRatchet Secret)
    (index : TreeNodeIndex) :
    (tree.setRatchet secretType leaf ratchet).secretOf index =
      tree.secretOf index := by
  rw [SecretTree.secretOf, slot_setRatchet, SecretTree.secretOf]

@[simp]
theorem size_setRatchet (secretType : SecretType) (leaf : LeafNodeIndex)
    (ratchet : SenderRatchet Secret) :
    (tree.setRatchet secretType leaf ratchet).size = tree.size := by
  cases secretType <;> rfl

@[simp]
theorem ownIndex_setRatchet (secretType : SecretType)
    (leaf : LeafNodeIndex) (ratchet : SenderRatchet Secret) :
    (tree.setRatchet secretType leaf ratchet).ownIndex = tree.ownIndex := by
  cases secretType <;> rfl

@[simp]
theorem length_setRatchet (secretType other : SecretType)
    (leaf : LeafNodeIndex) (ratchet : SenderRatchet Secret) :
    ((tree.setRatchet secretType leaf ratchet).senderRatchets other).length =
      (tree.senderRatchets other).length := by
  cases secretType <;> cases other <;>
    simp [SecretTree.setRatchet, SecretTree.senderRatchets]

variable {secretType : SecretType} {leaf : LeafNodeIndex}

theorem ratchet_setRatchet
    (inside : leaf.u32 < (tree.senderRatchets secretType).length)
    (ratchet : SenderRatchet Secret) (otherType : SecretType)
    (other : LeafNodeIndex) :
    (tree.setRatchet secretType leaf ratchet).ratchet otherType other =
      if otherType = secretType ∧ other = leaf then some ratchet
      else tree.ratchet otherType other := by
  rcases leaf with ⟨leaf⟩
  rcases other with ⟨other⟩
  by_cases same : other = leaf
  · subst same
    cases secretType <;> cases otherType <;>
      simp_all [SecretTree.setRatchet, SecretTree.ratchet,
        SecretTree.senderRatchets]
  · cases secretType <;> cases otherType <;>
      simp [SecretTree.setRatchet, SecretTree.ratchet,
        SecretTree.senderRatchets, same, List.getElem?_set_ne (Ne.symm same)]

theorem ratchetOpt_eq
    (inside : leaf.u32 < (tree.senderRatchets secretType).length) :
    ratchetOpt leaf secretType tree =
      (.ok (tree.ratchet secretType leaf), tree) := by
  unfold ratchetOpt SecretTree.ratchet
  rw [read_bind, List.getElem?_eq_getElem inside]
  rfl

theorem ratchetMut_eq
    {ratchet : SenderRatchet Secret}
    (there : tree.ratchet secretType leaf = some ratchet) :
    ratchetMut leaf secretType tree = (.ok ratchet, tree) := by
  unfold SecretTree.ratchet at there
  rw [Option.join_eq_some_iff] at there
  unfold ratchetMut
  rw [read_bind, there]
  rfl

theorem putRatchet_eq
    (inside : leaf.u32 < (tree.senderRatchets secretType).length)
    (ratchet : SenderRatchet Secret) :
    putRatchet leaf secretType ratchet tree =
      (.ok (), tree.setRatchet secretType leaf ratchet) := by
  unfold putRatchet
  rw [read_bind, if_pos inside]
  rfl

end Nodes

/-! ## The frontier -/

section Frontier

variable {Secret : Type} (crypto : Crypto Secret)

/-- The derivation of a child: even places are left children. -/
def childLabel (place : Nat) : Label :=
  ⟨"tree", if place % 2 = 0 then asBytes "left" else asBytes "right",
    crypto.hashLength⟩

/-- The path from the root to the node at a depth and a place. -/
def nodePath : Nat → Nat → List Label
  | 0, _ => []
  | depth + 1, place =>
      nodePath depth (place / 2) ++ [childLabel crypto place]

/-- The arrays of a tree of a height. -/
structure Shape (top : Nat) (tree : SecretTree Secret) : Prop where
  tall : tree.size.HasHeight top
  leaves : tree.leafNodes.length = 2 ^ top
  parents : tree.parentNodes.length = 2 ^ top
  ratchets : ∀ secretType,
    (tree.senderRatchets secretType).length = 2 ^ top

/-- The one node above a leaf that has a secret is at a height. -/
structure Pending (top : Nat) (tree : SecretTree Secret) (leaf height : Nat) :
    Prop where
  low : height ≤ top
  here : (tree.secretOf (nodeAt height (leaf / 2 ^ height))).isSome
  only : ∀ other ≤ top, other ≠ height →
    tree.secretOf (nodeAt other (leaf / 2 ^ other)) = none

/-- No node above a leaf has a secret. -/
def Spent (top : Nat) (tree : SecretTree Secret) (leaf : Nat) : Prop :=
  ∀ height ≤ top, tree.secretOf (nodeAt height (leaf / 2 ^ height)) = none

/-- A leaf has no ratchets and one secret above it, or both and none. -/
def Covered (top : Nat) (tree : SecretTree Secret) (leaf : Nat) : Prop :=
  ((∀ secretType, tree.ratchet secretType ⟨leaf⟩ = none) ∧
      ∃ height, Pending top tree leaf height) ∨
    ((∀ secretType, (tree.ratchet secretType ⟨leaf⟩).isSome) ∧
      Spent top tree leaf)

/-- The secrets of a tree are a frontier below a root. -/
structure Frontier (root : Secret) (top : Nat) (tree : SecretTree Secret) :
    Prop where
  shape : Shape top tree
  inside : ∀ height place,
    (tree.secretOf (nodeAt height place)).isSome →
      height ≤ top ∧ place < 2 ^ (top - height)
  secrets : ∀ height place secret, height ≤ top →
    place < 2 ^ (top - height) →
      tree.secretOf (nodeAt height place) = some secret →
        Derivation.follow (expand crypto) root
          (nodePath crypto (top - height) place) = some secret
  covered : ∀ leaf < 2 ^ top, Covered top tree leaf

section Lemmas

variable {crypto} {root : Secret} {top : Nat} {tree : SecretTree Secret}

variable {height place : Nat} {leaf : Nat}

theorem Shape.isSome_slot (shape : Shape top tree)
    (low : height ≤ top) (inside : place < 2 ^ (top - height)) :
    (tree.slot (nodeAt height place)).isSome := by
  cases height with
  | zero =>
      rw [nodeAt_zero]
      simp only [SecretTree.slot]
      rw [List.getElem?_eq_getElem (by rw [shape.leaves]; exact inside)]
      rfl
  | succ height =>
      obtain ⟨top, rfl⟩ := Nat.exists_eq_succ_of_ne_zero (by omega : top ≠ 0)
      rw [Nat.succ_sub_succ] at inside
      have below := (number_lt_iff height place top).mpr
        ⟨Nat.le_of_succ_le_succ low, inside⟩
      have bound : number height place < tree.parentNodes.length := by
        rw [shape.parents]
        exact below.trans_le (Nat.sub_le _ _)
      rw [nodeAt_succ]
      simp only [SecretTree.slot, parentAt]
      rw [List.getElem?_eq_getElem bound]
      rfl

theorem Shape.put (shape : Shape top tree) (index : TreeNodeIndex)
    (node : Option Secret) : Shape top (tree.put index node) where
  tall := by
    rw [size_put]
    exact shape.tall
  leaves := by
    cases index with
    | leaf leaf => exact List.length_set.trans shape.leaves
    | parent parent => exact shape.leaves
  parents := by
    cases index with
    | leaf leaf => exact shape.parents
    | parent parent => exact List.length_set.trans shape.parents
  ratchets := by
    intro secretType
    rw [senderRatchets_put]
    exact shape.ratchets secretType

theorem Shape.setRatchet (shape : Shape top tree) (secretType : SecretType)
    (leaf : LeafNodeIndex) (ratchet : SenderRatchet Secret) :
    Shape top (tree.setRatchet secretType leaf ratchet) where
  tall := by
    rw [size_setRatchet]
    exact shape.tall
  leaves := by
    cases secretType <;> exact shape.leaves
  parents := by
    cases secretType <;> exact shape.parents
  ratchets := by
    intro other
    rw [length_setRatchet]
    exact shape.ratchets other

/-- The place of the node at a height above a leaf. -/
theorem div_pow_lt (inside : leaf < 2 ^ top) {height : Nat}
    (low : height ≤ top) : leaf / 2 ^ height < 2 ^ (top - height) := by
  rw [Nat.div_lt_iff_lt_mul (Nat.two_pow_pos _), ← pow_add,
    Nat.sub_add_cancel low]
  exact inside

/-- Two leaves that meet somewhere wait for the same secret. -/
theorem Pending.of_here {leaf height other : Nat}
    (pending : Pending top tree leaf height) (low : other ≤ top)
    (here : (tree.secretOf (nodeAt other (leaf / 2 ^ other))).isSome) :
    other = height := by
  by_contra different
  rw [pending.only other low different] at here
  cases here

/-- A leaf below a node with a secret waits for it. -/
theorem Frontier.pending_of_here (frontier : Frontier crypto root top tree)
    {leaf height : Nat} (inside : leaf < 2 ^ top) (low : height ≤ top)
    (here : (tree.secretOf (nodeAt height (leaf / 2 ^ height))).isSome) :
    (∀ secretType, tree.ratchet secretType ⟨leaf⟩ = none) ∧
      Pending top tree leaf height := by
  rcases frontier.covered leaf inside with
    ⟨noRatchet, other, pending⟩ | ⟨-, spent⟩
  · rw [pending.of_here low here]
    exact ⟨noRatchet, pending⟩
  · rw [spent height low] at here
    cases here

/-- Only what is above a leaf and its ratchets matters to it. -/
theorem Covered.congr {other : SecretTree Secret}
    (secret : ∀ height,
      other.secretOf (nodeAt height (leaf / 2 ^ height)) =
        tree.secretOf (nodeAt height (leaf / 2 ^ height)))
    (ratchet : ∀ secretType,
      (other.ratchet secretType ⟨leaf⟩).isSome =
        (tree.ratchet secretType ⟨leaf⟩).isSome)
    (covered : Covered top tree leaf) : Covered top other leaf := by
  rcases covered with ⟨noRatchet, height, pending⟩ | ⟨ratchets, spent⟩
  · refine Or.inl ⟨?_, height, pending.low, ?_, ?_⟩
    · intro secretType
      rw [← Option.not_isSome_iff_eq_none, ratchet, noRatchet secretType]
      exact Bool.false_ne_true
    · rw [secret]
      exact pending.here
    · intro another low different
      rw [secret]
      exact pending.only another low different
  · refine Or.inr ⟨?_, ?_⟩
    · intro secretType
      rw [ratchet]
      exact ratchets secretType
    · intro another low
      rw [secret]
      exact spent another low

/-! ### One step down -/

/-- The tree after the secret of a node was carried down to its children. -/
def lowered (tree : SecretTree Secret) (height place : Nat)
    (leftSecret rightSecret : Secret) : SecretTree Secret :=
  ((tree.put (nodeAt height (2 * place)) (some leftSecret)).put
    (nodeAt height (2 * place + 1)) (some rightSecret)).put
      (nodeAt (height + 1) place) none

/-- The two children of a node of the tree are in the tree. -/
theorem children_lt (low : height + 1 ≤ top)
    (inside : place < 2 ^ (top - (height + 1))) :
    2 * place < 2 ^ (top - height) ∧ 2 * place + 1 < 2 ^ (top - height) := by
  have double : 2 ^ (top - height) = 2 * 2 ^ (top - (height + 1)) := by
    rw [← pow_succ', Nat.sub_add_eq, Nat.sub_add_cancel (by omega)]
  omega

theorem secretOf_lowered (shape : Shape top tree)
    (low : height + 1 ≤ top) (inside : place < 2 ^ (top - (height + 1)))
    (leftSecret rightSecret : Secret) (otherHeight otherPlace : Nat) :
    (lowered tree height place leftSecret rightSecret).secretOf
        (nodeAt otherHeight otherPlace) =
      if otherHeight = height + 1 ∧ otherPlace = place then none
      else if otherHeight = height ∧ otherPlace = 2 * place + 1 then
        some rightSecret
      else if otherHeight = height ∧ otherPlace = 2 * place then
        some leftSecret
      else tree.secretOf (nodeAt otherHeight otherPlace) := by
  obtain ⟨leftInside, rightInside⟩ := children_lt low inside
  have leftPlace := shape.isSome_slot (by omega) leftInside
  have rightPlace := shape.isSome_slot (by omega) rightInside
  have ownPlace := shape.isSome_slot low inside
  unfold lowered
  rw [secretOf_put (by simpa using ownPlace),
    secretOf_put (by simpa using rightPlace), secretOf_put leftPlace]
  simp only [nodeAt_eq_iff]

/-- A secret is carried down, or a derivation fails and nothing changes. -/
theorem deriveDown_cases (shape : Shape top tree)
    (low : height + 1 ≤ top) (inside : place < 2 ^ (top - (height + 1)))
    {secret : Secret}
    (here : tree.secretOf (nodeAt (height + 1) place) = some secret) :
    (∃ error, deriveDown crypto (parentAt height place) tree =
        (.error (.cryptoError error), tree) ∧
          ∃ child, child / 2 = place ∧
            expand crypto secret (childLabel crypto child) = none) ∨
      ∃ leftSecret rightSecret,
        expand crypto secret (childLabel crypto (2 * place)) =
            some leftSecret ∧
          expand crypto secret (childLabel crypto (2 * place + 1)) =
            some rightSecret ∧
          deriveDown crypto (parentAt height place) tree =
            (.ok (), lowered tree height place leftSecret rightSecret) := by
  obtain ⟨leftInside, rightInside⟩ := children_lt low inside
  have leftPlace := shape.isSome_slot (by omega) leftInside
  have rightPlace := shape.isSome_slot (by omega) rightInside
  have ownPlace := shape.isSome_slot low inside
  have found := getNode_eq ownPlace
  rw [nodeAt_succ] at found
  rw [nodeAt_succ] at here
  unfold deriveDown
  rw [bind_of_ok found, here]
  cases leftDerived : kdfExpandLabel crypto secret "tree" (asBytes "left")
      crypto.hashLength with
  | error error =>
      refine Or.inl ⟨error, ?_, 2 * place, by omega, ?_⟩
      · simp only [deriveChildSecrets, leftDerived]
        rfl
      · rw [expand, childLabel, if_pos (by omega), leftDerived]
        rfl
  | ok leftSecret =>
      cases rightDerived : kdfExpandLabel crypto secret "tree"
          (asBytes "right") crypto.hashLength with
      | error error =>
          refine Or.inl ⟨error, ?_, 2 * place + 1, by omega, ?_⟩
          · simp only [deriveChildSecrets, leftDerived, rightDerived]
            rfl
          · rw [expand, childLabel, if_neg (by omega), rightDerived]
            rfl
      | ok rightSecret =>
          have children : deriveChildSecrets crypto secret =
              .ok (leftSecret, rightSecret) := by
            simp only [deriveChildSecrets, leftDerived, rightDerived]
            rfl
          refine Or.inr ⟨leftSecret, rightSecret, ?_, ?_, ?_⟩
          · rw [expand_eq_some_iff, childLabel, if_pos (by omega)]
            exact leftDerived
          · rw [expand_eq_some_iff, childLabel, if_neg (by omega)]
            exact rightDerived
          · simp only [children, left_parentAt, right_parentAt,
              ← nodeAt_succ]
            rw [bind_of_ok
                (show ofExcept
                  (Except.mapError SecretTreeError.cryptoError
                    (.ok (leftSecret, rightSecret))) tree = _ from rfl),
              bind_of_ok (setNode_eq leftPlace _),
              bind_of_ok (setNode_eq (by simpa using rightPlace) _),
              setNode_eq (by simpa using ownPlace)]
            rfl

/-- Two children have the parent they come from. -/
theorem div_pow_of_child {leaf height place : Nat}
    (child : leaf / 2 ^ height = 2 * place ∨
      leaf / 2 ^ height = 2 * place + 1) :
    leaf / 2 ^ (height + 1) = place := by
  rw [div_pow_succ]
  omega

theorem child_of_div_pow {leaf height place : Nat}
    (above : leaf / 2 ^ (height + 1) = place) :
    leaf / 2 ^ height = 2 * place ∨ leaf / 2 ^ height = 2 * place + 1 := by
  rw [div_pow_succ] at above
  omega

/-- A leaf elsewhere does not see that a secret was carried down. -/
theorem secretOf_lowered_of_ne (shape : Shape top tree)
    (low : height + 1 ≤ top) (inside : place < 2 ^ (top - (height + 1)))
    (leftSecret rightSecret : Secret)
    (elsewhere : leaf / 2 ^ (height + 1) ≠ place) (other : Nat) :
    (lowered tree height place leftSecret rightSecret).secretOf
        (nodeAt other (leaf / 2 ^ other)) =
      tree.secretOf (nodeAt other (leaf / 2 ^ other)) := by
  rw [secretOf_lowered shape low inside, if_neg, if_neg, if_neg]
  · rintro ⟨rfl, child⟩
    exact elsewhere (div_pow_of_child (Or.inl child))
  · rintro ⟨rfl, child⟩
    exact elsewhere (div_pow_of_child (Or.inr child))
  · rintro ⟨rfl, same⟩
    exact elsewhere same

/-- A leaf below now waits for the secret of the child. -/
theorem pending_lowered (shape : Shape top tree)
    (low : height + 1 ≤ top) (inside : place < 2 ^ (top - (height + 1)))
    (leftSecret rightSecret : Secret)
    (below : leaf / 2 ^ (height + 1) = place)
    (pending : Pending top tree leaf (height + 1)) :
    Pending top (lowered tree height place leftSecret rightSecret) leaf
      height where
  low := by omega
  here := by
    rw [secretOf_lowered shape low inside, if_neg (by omega)]
    rcases child_of_div_pow below with child | child
    · rw [if_neg (by omega), if_pos ⟨rfl, child⟩]
      rfl
    · rw [if_pos ⟨rfl, child⟩]
      rfl
  only := by
    intro other otherLow different
    rw [secretOf_lowered shape low inside]
    by_cases own : other = height + 1
    · subst own
      rw [if_pos ⟨rfl, below⟩]
    · rw [if_neg (by omega), if_neg (by omega), if_neg (by omega)]
      exact pending.only other otherLow own

@[simp]
theorem ratchet_lowered (height place : Nat)
    (leftSecret rightSecret : Secret) (secretType : SecretType)
    (leaf : LeafNodeIndex) :
    (lowered tree height place leftSecret rightSecret).ratchet secretType
        leaf = tree.ratchet secretType leaf := by
  simp only [lowered, ratchet_put]

/-- Carrying a secret down keeps the frontier. -/
theorem Frontier.lowered (frontier : Frontier crypto root top tree)
    (low : height + 1 ≤ top)
    (inside : place < 2 ^ (top - (height + 1))) {secret : Secret}
    (here : tree.secretOf (nodeAt (height + 1) place) = some secret)
    {leftSecret rightSecret : Secret}
    (leftDerived :
      expand crypto secret (childLabel crypto (2 * place)) = some leftSecret)
    (rightDerived :
      expand crypto secret (childLabel crypto (2 * place + 1)) =
        some rightSecret) :
    Frontier crypto root top
      (lowered tree height place leftSecret rightSecret) where
  shape := ((frontier.shape.put _ _).put _ _).put _ _
  inside := by
    obtain ⟨leftInside, rightInside⟩ := children_lt low inside
    intro otherHeight otherPlace there
    rw [secretOf_lowered frontier.shape low inside] at there
    split at there
    · cases there
    split at there
    · next same =>
      obtain ⟨rfl, rfl⟩ := same
      exact ⟨by omega, rightInside⟩
    split at there
    · next same =>
      obtain ⟨rfl, rfl⟩ := same
      exact ⟨by omega, leftInside⟩
    · exact frontier.inside otherHeight otherPlace there
  secrets := by
    have parent := frontier.secrets (height + 1) place secret low inside here
    have depth : top - height = top - (height + 1) + 1 := by omega
    intro otherHeight otherPlace other otherLow otherInside there
    rw [secretOf_lowered frontier.shape low inside] at there
    split at there
    · cases there
    split at there
    · next same =>
      obtain ⟨rfl, rfl⟩ := same
      cases there
      rw [depth, nodePath, Derivation.follow_concat,
        show (2 * place + 1) / 2 = place by omega, parent, Option.bind_some]
      exact rightDerived
    split at there
    · next same =>
      obtain ⟨rfl, rfl⟩ := same
      cases there
      rw [depth, nodePath, Derivation.follow_concat,
        show 2 * place / 2 = place by omega, parent, Option.bind_some]
      exact leftDerived
    · exact frontier.secrets otherHeight otherPlace other otherLow
        otherInside there
  covered := by
    intro leaf leafInside
    by_cases below : leaf / 2 ^ (height + 1) = place
    · obtain ⟨noRatchet, pending⟩ := frontier.pending_of_here leafInside low
        (by rw [below, here]; rfl)
      refine Or.inl ⟨?_, height, pending_lowered frontier.shape low inside
        leftSecret rightSecret below pending⟩
      intro secretType
      rw [ratchet_lowered]
      exact noRatchet secretType
    · exact (frontier.covered leaf leafInside).congr
        (secretOf_lowered_of_ne frontier.shape low inside leftSecret
          rightSecret below)
        (fun secretType => by rw [ratchet_lowered])

/-! ### Down to a leaf -/

/-- The trees differ in their nodes only. -/
structure SameRatchets (first second : SecretTree Secret) : Prop where
  ownIndex : second.ownIndex = first.ownIndex
  size : second.size = first.size
  ratchets : ∀ secretType,
    second.senderRatchets secretType = first.senderRatchets secretType

theorem SameRatchets.refl (tree : SecretTree Secret) :
    SameRatchets tree tree :=
  ⟨rfl, rfl, fun _ => rfl⟩

theorem SameRatchets.ratchet {first second : SecretTree Secret}
    (same : SameRatchets first second) (secretType : SecretType)
    (leaf : LeafNodeIndex) :
    second.ratchet secretType leaf = first.ratchet secretType leaf := by
  rw [SecretTree.ratchet, same.ratchets, SecretTree.ratchet]

theorem SameRatchets.lowered {first second : SecretTree Secret}
    (same : SameRatchets first second) (height place : Nat)
    (leftSecret rightSecret : Secret) :
    SameRatchets first
      (lowered second height place leftSecret rightSecret) where
  ownIndex := by simp [SecretTrees.lowered, same.ownIndex]
  size := by simp [SecretTrees.lowered, same.size]
  ratchets := by simp [SecretTrees.lowered, same.ratchets]

/-- The blank nodes above a leaf are those below the one with a secret. -/
theorem emptyNodes_eq (shape : Shape top tree) {leaf height : Nat}
    (inside : leaf < 2 ^ top) (pending : Pending top tree leaf height)
    {start : Nat} (below : start < height) :
    emptyNodes
        ((List.range' start (top - start)).map fun k =>
          parentAt k (leaf / 2 ^ (k + 1))) tree =
      (.ok ((List.range' start (height - start)).map fun k =>
        parentAt k (leaf / 2 ^ (k + 1))), tree) := by
  have low := pending.low
  obtain ⟨distance, reach⟩ := Nat.exists_eq_add_of_le below
  induction distance generalizing start with
  | zero =>
      obtain ⟨secret, here⟩ := Option.isSome_iff_exists.mp pending.here
      have place := shape.isSome_slot low (div_pow_lt inside low)
      have found := getNode_eq place
      rw [here] at found
      subst reach
      rw [show top - start = top - (start + 1) + 1 by omega,
        show start.succ + 0 - start = 1 by omega, List.range'_succ,
        List.map_cons, emptyNodes]
      rw [nodeAt_succ] at found
      rw [bind_of_ok found]
      rfl
  | succ distance induction =>
      have startLow : start + 1 ≤ top := by omega
      have place := shape.isSome_slot startLow (div_pow_lt inside startLow)
      have found := getNode_eq place
      rw [pending.only (start + 1) startLow (by omega), nodeAt_succ]
        at found
      have rest := @induction (start + 1) (by omega) (by omega)
      rw [show top - start = top - (start + 1) + 1 by omega,
        show height - start = height - (start + 1) + 1 by omega,
        List.range'_succ, List.range'_succ, List.map_cons, List.map_cons,
        emptyNodes, bind_of_ok found]
      simp only
      rw [bind_of_ok rest]
      rfl

section Down

variable (crypto root top)

/-- No derivation of a node fails. -/
def NodesDerive : Prop :=
  ∀ depth ≤ top, ∀ place < 2 ^ depth,
    (Derivation.follow (expand crypto) root
      (nodePath crypto depth place)).isSome

/-- What is left after a derivation failed on the way down. -/
def Stopped (start : SecretTree Secret) (error : SecretTreeError)
    (tree : SecretTree Secret) : Prop :=
  ((∃ inner, error = .cryptoError inner) ∧ ¬NodesDerive crypto root top) ∧
    Frontier crypto root top tree ∧ SameRatchets start tree

theorem deriveDownAll_triple (start : SecretTree Secret) {leaf : Nat}
    (inside : leaf < 2 ^ top) (height : Nat) :
    Triple
      (fun tree => Frontier crypto root top tree ∧
        Pending top tree leaf height ∧ SameRatchets start tree)
      (deriveDownAll crypto
        ((List.range height).map fun k =>
          parentAt k (leaf / 2 ^ (k + 1))).reverse)
      (fun _ tree => Frontier crypto root top tree ∧
        Pending top tree leaf 0 ∧ SameRatchets start tree)
      (Stopped crypto root top start) := by
  induction height with
  | zero => exact triple_pure fun _ before => before
  | succ height induction =>
      rintro tree ⟨frontier, pending, same⟩
      obtain ⟨secret, here⟩ := Option.isSome_iff_exists.mp pending.here
      have placed := div_pow_lt inside pending.low
      rw [List.range_succ, List.map_append, List.map_singleton,
        List.reverse_append, List.reverse_singleton, List.singleton_append,
        deriveDownAll]
      rcases deriveDown_cases frontier.shape pending.low placed here with
        ⟨error, failed, child, parent, underived⟩ |
          ⟨leftSecret, rightSecret, leftDerived, rightDerived, moved⟩
      · refine ends_error (bind_of_error failed _)
          ⟨⟨⟨error, rfl⟩, ?_⟩, frontier, same⟩
        intro derive
        have low := pending.low
        have reached := frontier.secrets _ _ secret low placed here
        have depth : top - height = top - (height + 1) + 1 := by omega
        have there := derive (top - height) (Nat.sub_le _ _) child (by
          rw [depth, pow_succ]
          omega)
        rw [depth, nodePath, Derivation.follow_concat, parent, reached,
          Option.bind_some, underived] at there
        cases there
      · rw [bind_of_ok moved]
        exact induction _
          ⟨frontier.lowered pending.low placed here leftDerived rightDerived,
            pending_lowered frontier.shape pending.low placed leftSecret
              rightSecret rfl pending,
            same.lowered height _ leftSecret rightSecret⟩

theorem deriveLeaf_triple (start : SecretTree Secret) {leaf : Nat}
    (inside : leaf < 2 ^ top) :
    Triple
      (fun tree => tree = start ∧ Frontier crypto root top tree ∧
        ∃ height, Pending top tree leaf height)
      (deriveLeaf crypto ⟨leaf⟩)
      (fun _ tree => Frontier crypto root top tree ∧
        Pending top tree leaf 0 ∧ SameRatchets start tree)
      (Stopped crypto root top start) := by
  rintro tree ⟨rfl, frontier, height, pending⟩
  have place := frontier.shape.isSome_slot (Nat.zero_le top)
    (div_pow_lt inside (Nat.zero_le top))
  have found := getNode_eq place
  rw [nodeAt_zero, pow_zero, Nat.div_one] at found
  unfold deriveLeaf
  rw [bind_of_ok found]
  cases height with
  | zero =>
      obtain ⟨secret, here⟩ := Option.isSome_iff_exists.mp pending.here
      rw [nodeAt_zero, pow_zero, Nat.div_one] at here
      rw [here]
      exact ends_ok rfl ⟨frontier, pending, SameRatchets.refl tree⟩
  | succ height =>
      have blank := pending.only 0 (Nat.zero_le _) (by omega)
      rw [nodeAt_zero, pow_zero, Nat.div_one] at blank
      have nodes := emptyNodes_eq frontier.shape inside pending
        (Nat.succ_pos height)
      rw [Nat.sub_zero, Nat.sub_zero, ← List.range_eq_range',
        ← List.range_eq_range', ← directPath_eq frontier.shape.tall inside]
        at nodes
      rw [blank]
      simp only
      rw [read_bind, bind_of_ok nodes]
      exact deriveDownAll_triple crypto root top tree inside (height + 1)
        tree ⟨frontier, pending, SameRatchets.refl tree⟩

end Down

/-! ### The ratchets of a leaf -/

/-- The tree after the ratchets of a leaf have taken the place of its node. -/
def installed (tree : SecretTree Secret) (leaf : LeafNodeIndex)
    (handshake application : SenderRatchet Secret) : SecretTree Secret :=
  ((tree.setRatchet .handshakeSecret leaf handshake).setRatchet
    .applicationSecret leaf application).put (.leaf leaf) none

theorem ratchet_installed (shape : Shape top tree)
    (inside : leaf < 2 ^ top) (handshake application : SenderRatchet Secret)
    (secretType : SecretType) (other : LeafNodeIndex) :
    (installed tree ⟨leaf⟩ handshake application).ratchet secretType other =
      if other = ⟨leaf⟩ then
        some (SecretType.choose handshake application secretType)
      else tree.ratchet secretType other := by
  have first : leaf < (tree.senderRatchets .handshakeSecret).length := by
    rw [shape.ratchets]
    exact inside
  have second : leaf < ((tree.setRatchet .handshakeSecret ⟨leaf⟩
      handshake).senderRatchets .applicationSecret).length := by
    rw [length_setRatchet, shape.ratchets]
    exact inside
  rw [installed, ratchet_put, ratchet_setRatchet second,
    ratchet_setRatchet first]
  cases secretType with
  | handshakeSecret =>
      rw [if_neg (by simp)]
      simp only [true_and, choose_handshakeSecret]
  | applicationSecret =>
      simp only [true_and]
      split
      · rfl
      · rw [if_neg (by simp)]

theorem secretOf_installed (shape : Shape top tree)
    (inside : leaf < 2 ^ top) (handshake application : SenderRatchet Secret)
    (height place : Nat) :
    (installed tree ⟨leaf⟩ handshake application).secretOf
        (nodeAt height place) =
      if height = 0 ∧ place = leaf then none
      else tree.secretOf (nodeAt height place) := by
  have room := shape.isSome_slot (Nat.zero_le top) inside
  rw [nodeAt_zero] at room
  rw [installed, secretOf_put (by simpa using room), secretOf_setRatchet,
    secretOf_setRatchet, ← nodeAt_zero]
  simp only [nodeAt_eq_iff]

theorem Frontier.installed (frontier : Frontier crypto root top tree)
    (inside : leaf < 2 ^ top) (pending : Pending top tree leaf 0)
    (handshake application : SenderRatchet Secret) :
    Frontier crypto root top
      (installed tree ⟨leaf⟩ handshake application) where
  shape := ((frontier.shape.setRatchet _ _ _).setRatchet _ _ _).put _ _
  inside := by
    intro height place there
    rw [secretOf_installed frontier.shape inside] at there
    split at there
    · cases there
    · exact frontier.inside height place there
  secrets := by
    intro height place secret low placed there
    rw [secretOf_installed frontier.shape inside] at there
    split at there
    · cases there
    · exact frontier.secrets height place secret low placed there
  covered := by
    intro other otherInside
    by_cases same : other = leaf
    · subst same
      refine Or.inr ⟨?_, ?_⟩
      · intro secretType
        rw [ratchet_installed frontier.shape inside, if_pos rfl]
        rfl
      · intro height low
        rw [secretOf_installed frontier.shape inside]
        by_cases bottom : height = 0
        · subst bottom
          rw [if_pos ⟨rfl, by rw [pow_zero, Nat.div_one]⟩]
        · rw [if_neg (fun both => bottom both.1)]
          exact pending.only height low bottom
    · apply (frontier.covered other otherInside).congr
      · intro height
        rw [secretOf_installed frontier.shape inside, if_neg]
        rintro ⟨rfl, equal⟩
        rw [pow_zero, Nat.div_one] at equal
        exact same equal
      · intro secretType
        rw [ratchet_installed frontier.shape inside, if_neg]
        intro equal
        exact same (LeafNodeIndex.mk.inj equal)

end Lemmas

end Frontier

end Mls4rn.OpenMls.SecretTrees
