import Mls4rn.OpenMls.SecretTree

/-!
# Runs of the secret tree

What is known of the ratchets of a tree is a parameter: a specification says
what holds of a ratchet that is not there yet and of one that is.  The lemmas
about the calls of the tree are stated once for all specifications.  One of
them follows the generations that were handed out, whatever is asked and
whichever derivations fail.  The other one makes the tree a table of replay
windows and counters, which is what it is if no derivation fails.
-/

namespace Mls4rn.OpenMls.SecretTrees

open Mls4rn.Lib
open Mls4rn.Lib.Throwing
open Mls4rn.OpenMls.KeyDerivation
open Mls4rn.OpenMls.SenderRatchet
open Mls4rn.OpenMls.TreeMath

variable {Secret : Type} (crypto : Crypto Secret)

/-- The derivation of the first ratchet secret of a type. -/
def typeLabel (secretType : SecretType) : Label :=
  ⟨SecretType.choose "handshake" "application" secretType, [],
    crypto.hashLength⟩

/-- The path to the first ratchet secret of a leaf. -/
def ratchetPath (top : Nat) (leaf : LeafNodeIndex)
    (secretType : SecretType) : List Label :=
  nodePath crypto top leaf.u32 ++ [typeLabel crypto secretType]

/-- The first ratchet secret of a leaf. -/
def ratchetSecret (root : Secret) (top : Nat) (leaf : LeafNodeIndex)
    (secretType : SecretType) : Option Secret :=
  Derivation.follow (expand crypto) root
    (ratchetPath crypto top leaf secretType)

/-- The key material of a generation of a leaf. -/
def leafMaterial (root : Secret) (top : Nat) (leaf : LeafNodeIndex)
    (secretType : SecretType) (generation : Nat) :
    Option (RatchetKeyMaterial Secret) :=
  (ratchetSecret crypto root top leaf secretType).bind fun secret =>
    materialAt crypto secret generation

/-- Whether a ratchet encrypts. -/
def SenderRatchet.isEncryption : SenderRatchet Secret → Bool
  | .encryptionRatchet _ => true
  | .decryptionRatchet _ => false

/-! ## Specifications of ratchets -/

/-- What holds of a ratchet that is not there yet, and of one that is. -/
structure RatchetSpec (Secret : Type) where
  fresh : LeafNodeIndex → SecretType → Prop
  serves : LeafNodeIndex → SecretType → Secret → SenderRatchet Secret → Prop

/-- A ratchet may be started from any secret. -/
def RatchetSpec.Starts (spec : RatchetSpec Secret) (own : LeafNodeIndex) :
    Prop :=
  ∀ leaf secretType secret, spec.fresh leaf secretType →
    spec.serves leaf secretType secret
      (newSenderRatchet (decide (leaf = own)) secret)

/-- The tree of a member below a root, with ratchets as specified. -/
structure Sound (root : Secret) (top : Nat) (own : LeafNodeIndex)
    (spec : RatchetSpec Secret) (tree : SecretTree Secret) : Prop where
  frontier : Frontier crypto root top tree
  ownIndex : tree.ownIndex = own
  ratchets : ∀ leaf secretType ratchet,
    tree.ratchet secretType leaf = some ratchet →
      (ratchet.isEncryption = true ↔ leaf = own) ∧
        ∃ secret,
          ratchetSecret crypto root top leaf secretType = some secret ∧
            spec.serves leaf secretType secret ratchet
  fresh : ∀ leaf secretType,
    tree.ratchet secretType leaf = none → spec.fresh leaf secretType

/-- No derivation of a node or of a first ratchet secret fails. -/
structure TreeDerives (root : Secret) (top : Nat) : Prop where
  nodes : NodesDerive crypto root top
  ratchets : ∀ leaf : LeafNodeIndex, leaf.u32 < 2 ^ top →
    ∀ secretType, (ratchetSecret crypto root top leaf secretType).isSome

section Calls

variable {crypto} {root : Secret} {top : Nat} {own : LeafNodeIndex}
  {spec : RatchetSpec Secret} {tree : SecretTree Secret}

theorem isEncryption_newSenderRatchet (mine : Bool) (secret : Secret) :
    (newSenderRatchet mine secret).isEncryption = mine := by
  cases mine <;> rfl

variable {leaf : LeafNodeIndex}

/-- A leaf with a ratchet is a leaf of the tree. -/
theorem Sound.leaf_lt (sound : Sound crypto root top own spec tree)
    {secretType : SecretType} {ratchet : SenderRatchet Secret}
    (there : tree.ratchet secretType leaf = some ratchet) :
    leaf.u32 < 2 ^ top := by
  have entry : (tree.senderRatchets secretType)[leaf.u32]? =
      some (some ratchet) := Option.join_eq_some_iff.mp there
  rw [← sound.frontier.shape.ratchets secretType]
  exact (List.getElem?_eq_some_iff.mp entry).1

/-- Above a leaf with a ratchet every node is blank. -/
theorem Sound.spent (sound : Sound crypto root top own spec tree)
    {secretType : SecretType} {ratchet : SenderRatchet Secret}
    (there : tree.ratchet secretType leaf = some ratchet) :
    Spent top tree leaf.u32 := by
  rcases sound.frontier.covered leaf.u32 (sound.leaf_lt there) with
    ⟨noRatchet, -⟩ | ⟨-, spent⟩
  · have absent := noRatchet secretType
    rw [there] at absent
    cases absent
  · exact spent

/-- Ratchets are installed where there were none. -/
theorem Sound.installed {start : SecretTree Secret}
    (sound : Sound crypto root top own spec start)
    (starts : spec.Starts own) (frontier : Frontier crypto root top tree)
    (same : SameRatchets start tree) {leaf : Nat} (inside : leaf < 2 ^ top)
    (pending : Pending top tree leaf 0)
    (none : ∀ secretType, start.ratchet secretType ⟨leaf⟩ = none)
    {handshake application : Secret}
    (handshakeDerived :
      ratchetSecret crypto root top ⟨leaf⟩ .handshakeSecret = some handshake)
    (applicationDerived :
      ratchetSecret crypto root top ⟨leaf⟩ .applicationSecret =
        some application) :
    Sound crypto root top own spec
      (installed tree ⟨leaf⟩
        (newSenderRatchet (decide ((⟨leaf⟩ : LeafNodeIndex) =
          start.ownIndex)) handshake)
        (newSenderRatchet (decide ((⟨leaf⟩ : LeafNodeIndex) =
          start.ownIndex)) application)) := by
  rw [sound.ownIndex]
  refine ⟨frontier.installed inside pending _ _, ?_, ?_, ?_⟩
  · simp only [SecretTrees.installed, ownIndex_put, ownIndex_setRatchet,
      same.ownIndex, sound.ownIndex]
  · intro other secretType ratchet there
    rw [ratchet_installed frontier.shape inside] at there
    split at there
    · next equal =>
      subst equal
      have chosen : ratchet = newSenderRatchet
          (decide ((⟨leaf⟩ : LeafNodeIndex) = own))
          (SecretType.choose handshake application secretType) := by
        cases secretType <;> exact (Option.some.inj there).symm
      have derived : ratchetSecret crypto root top ⟨leaf⟩ secretType =
          some (SecretType.choose handshake application secretType) := by
        cases secretType with
        | handshakeSecret => exact handshakeDerived
        | applicationSecret => exact applicationDerived
      rw [chosen, isEncryption_newSenderRatchet, decide_eq_true_iff]
      exact ⟨Iff.rfl, _, derived, starts _ _ _
        (sound.fresh ⟨leaf⟩ secretType (none secretType))⟩
    · rw [same.ratchet] at there
      exact sound.ratchets other secretType ratchet there
  · intro other secretType there
    rw [ratchet_installed frontier.shape inside] at there
    split at there
    · cases there
    · rw [same.ratchet] at there
      exact sound.fresh other secretType there

/-- A failed derivation leaves the tree as good as it was. -/
theorem Sound.stopped {start : SecretTree Secret}
    (sound : Sound crypto root top own spec start)
    (frontier : Frontier crypto root top tree)
    (same : SameRatchets start tree) :
    Sound crypto root top own spec tree where
  frontier := frontier
  ownIndex := same.ownIndex.trans sound.ownIndex
  ratchets := by
    intro leaf secretType ratchet there
    rw [same.ratchet] at there
    exact sound.ratchets leaf secretType ratchet there
  fresh := by
    intro leaf secretType there
    rw [same.ratchet] at there
    exact sound.fresh leaf secretType there

/-- The first ratchet secrets come from the secret of the leaf. -/
theorem kdfExpandLabel_cases (frontier : Frontier crypto root top tree)
    {leaf : Nat} (inside : leaf < 2 ^ top) {secret : Secret}
    (here : tree.secretOf (.leaf ⟨leaf⟩) = some secret)
    (secretType : SecretType) :
    (∃ error,
        (kdfExpandLabel crypto secret
            (SecretType.choose "handshake" "application" secretType) []
            crypto.hashLength).mapError SecretTreeError.cryptoError =
          .error (.cryptoError error) ∧
        ¬TreeDerives crypto root top) ∨
      ∃ first,
        (kdfExpandLabel crypto secret
            (SecretType.choose "handshake" "application" secretType) []
            crypto.hashLength).mapError SecretTreeError.cryptoError =
          .ok first ∧
        ratchetSecret crypto root top ⟨leaf⟩ secretType = some first := by
  have reached := frontier.secrets 0 leaf secret (Nat.zero_le _) inside
    (by rw [nodeAt_zero, here])
  rw [Nat.sub_zero] at reached
  have derived : ratchetSecret crypto root top ⟨leaf⟩ secretType =
      expand crypto secret (typeLabel crypto secretType) := by
    rw [ratchetSecret, ratchetPath, Derivation.follow_of_append reached,
      Derivation.follow_singleton]
  cases result : kdfExpandLabel crypto secret
      (SecretType.choose "handshake" "application" secretType) []
      crypto.hashLength with
  | error error =>
      refine Or.inl ⟨error, rfl, ?_⟩
      intro derives
      have there := derives.ratchets ⟨leaf⟩ inside secretType
      rw [derived, expand, typeLabel, result] at there
      cases there
  | ok first =>
      refine Or.inr ⟨first, rfl, ?_⟩
      rw [derived, expand, typeLabel, result]
      rfl

section

variable (sound : Sound crypto root top own spec tree)
include sound

/-- The ratchets of a leaf are there afterwards, or a derivation failed. -/
theorem initializeSenderRatchets_cases
    (starts : spec.Starts own) {leaf : Nat} (inside : leaf < 2 ^ top)
    (none : ∀ secretType, tree.ratchet secretType ⟨leaf⟩ = none) :
    (∃ error reached,
        initializeSenderRatchets crypto ⟨leaf⟩ tree =
            (.error (.cryptoError error), reached) ∧
          Sound crypto root top own spec reached ∧
            ¬TreeDerives crypto root top) ∨
      ∃ reached,
        initializeSenderRatchets crypto ⟨leaf⟩ tree = (.ok (), reached) ∧
          Sound crypto root top own spec reached ∧
            ∀ secretType, (reached.ratchet secretType ⟨leaf⟩).isSome := by
  have shape := sound.frontier.shape
  have count : ¬tree.size.leafCount ≤ leaf := by
    rw [shape.tall.leafCount_eq]
    omega
  have room (secretType : SecretType) :
      leaf < (tree.senderRatchets secretType).length := by
    rw [shape.ratchets]
    exact inside
  have notYet : isInitialized ⟨leaf⟩ tree = (.ok false, tree) := by
    unfold isInitialized
    rw [bind_of_ok (ratchetOpt_eq (room .handshakeSecret)), none]
    rfl
  have waiting : ∃ height, Pending top tree leaf height := by
    rcases sound.frontier.covered leaf inside with
      ⟨-, pending⟩ | ⟨ratchets, -⟩
    · exact pending
    · have there := ratchets .handshakeSecret
      rw [none] at there
      cases there
  unfold initializeSenderRatchets
  rw [read_bind, if_neg count, bind_of_ok notYet,
    if_neg Bool.false_ne_true]
  obtain ⟨onValue, onError⟩ := deriveLeaf_triple crypto root top tree inside
    tree ⟨rfl, sound.frontier, waiting⟩
  cases down : deriveLeaf crypto ⟨leaf⟩ tree with
  | mk result reached =>
      cases result with
      | error error =>
          obtain ⟨⟨⟨inner, rfl⟩, failed⟩, frontier, same⟩ :=
            onError error reached down
          refine Or.inl ⟨inner, reached, ?_, sound.stopped frontier same,
            fun derives => failed derives.nodes⟩
          rw [bind_of_error down]
      | ok value =>
          obtain ⟨frontier, pending, same⟩ := onValue value reached down
          obtain ⟨secret, here⟩ := Option.isSome_iff_exists.mp pending.here
          rw [nodeAt_zero, pow_zero, Nat.div_one] at here
          have place := frontier.shape.isSome_slot (Nat.zero_le top) inside
          rw [nodeAt_zero] at place
          have found := getNode_eq place
          rw [here] at found
          rw [bind_of_ok down, bind_of_ok found]
          simp only
          rcases kdfExpandLabel_cases frontier inside here
              .handshakeSecret with
            ⟨error, failed, notAll⟩ | ⟨handshake, mapped, handshakeDerived⟩
          · rw [choose_handshakeSecret] at failed
            refine Or.inl ⟨error, reached, ?_, sound.stopped frontier same,
              notAll⟩
            rw [failed]
            rfl
          rcases kdfExpandLabel_cases frontier inside here
              .applicationSecret with
            ⟨error, failed, notAll⟩ |
              ⟨application, alsoMapped, applicationDerived⟩
          · rw [choose_handshakeSecret] at mapped
            rw [choose_applicationSecret] at failed
            refine Or.inl ⟨error, reached, ?_, sound.stopped frontier same,
              notAll⟩
            rw [mapped, failed]
            rfl
          rw [choose_handshakeSecret] at mapped
          rw [choose_applicationSecret] at alsoMapped
          have done := sound.installed starts frontier same inside pending
            none handshakeDerived applicationDerived
          refine Or.inr ⟨_, ?_, done, ?_⟩
          · have firstRoom : leaf <
                (reached.senderRatchets .handshakeSecret).length := by
              rw [frontier.shape.ratchets]
              exact inside
            rw [mapped, alsoMapped,
              bind_of_ok (show ofExcept (.ok handshake) reached = _ from rfl),
              bind_of_ok (show ofExcept (.ok application)
                reached = _ from rfl),
              bind_of_ok (putRatchet_eq firstRoom _),
              bind_of_ok (putRatchet_eq (by
                rw [length_setRatchet, frontier.shape.ratchets]
                exact inside) _),
              setNode_eq (by simpa using place)]
            rfl
          · intro secretType
            rw [ratchet_installed frontier.shape inside, if_pos rfl]
            rfl

/-- The ratchet of a type is there afterwards, or a derivation failed. -/
theorem ensureRatchet_cases
    (starts : spec.Starts own)
    (inside : leaf.u32 < 2 ^ top) (secretType : SecretType) :
    (∃ error reached,
        ensureRatchet crypto leaf secretType tree =
            (.error (.cryptoError error), reached) ∧
          Sound crypto root top own spec reached ∧
            ¬TreeDerives crypto root top) ∨
      ∃ reached ratchet,
        ensureRatchet crypto leaf secretType tree = (.ok (), reached) ∧
          Sound crypto root top own spec reached ∧
            reached.ratchet secretType leaf = some ratchet := by
  have room : leaf.u32 < (tree.senderRatchets secretType).length := by
    rw [sound.frontier.shape.ratchets]
    exact inside
  unfold ensureRatchet
  rw [bind_of_ok (ratchetOpt_eq room)]
  cases there : tree.ratchet secretType leaf with
  | some ratchet => exact Or.inr ⟨tree, ratchet, rfl, sound, there⟩
  | none =>
      have noRatchet : ∀ other, tree.ratchet other leaf = none := by
        rcases sound.frontier.covered leaf.u32 inside with
          ⟨noRatchet, -⟩ | ⟨ratchets, -⟩
        · exact noRatchet
        · have present := ratchets secretType
          rw [there] at present
          cases present
      rw [if_pos (by rfl)]
      rcases initializeSenderRatchets_cases sound starts inside
          noRatchet with
        failed | ⟨reached, done, after, present⟩
      · exact Or.inl failed
      · obtain ⟨ratchet, now⟩ :=
          Option.isSome_iff_exists.mp (present secretType)
        exact Or.inr ⟨reached, ratchet, done, after, now⟩

/-- Where there is no leaf there is no ratchet. -/
theorem ensureRatchet_outside
    (outside : 2 ^ top ≤ leaf.u32) (secretType : SecretType) :
    ensureRatchet crypto leaf secretType tree =
      (.error .indexOutOfBounds, tree) := by
  have absent : ratchetOpt leaf secretType tree =
      (.error .indexOutOfBounds, tree) := by
    unfold ratchetOpt
    rw [read_bind, List.getElem?_eq_none]
    · rfl
    · rw [sound.frontier.shape.ratchets]
      exact outside
  rw [ensureRatchet, bind_of_error absent]

/-- A ratchet moves on in its place, and the others stay as they are. -/
theorem Sound.setRatchet
    {secretType : SecretType} {ratchet after : SenderRatchet Secret}
    (there : tree.ratchet secretType leaf = some ratchet)
    (kind : after.isEncryption = ratchet.isEncryption)
    {next : RatchetSpec Secret}
    (moves : ∀ secret,
      ratchetSecret crypto root top leaf secretType = some secret →
        spec.serves leaf secretType secret ratchet →
          next.serves leaf secretType secret after)
    (elsewhere : ∀ other otherType,
      ¬(otherType = secretType ∧ other = leaf) →
        (spec.fresh other otherType → next.fresh other otherType) ∧
          ∀ secret found, spec.serves other otherType secret found →
            next.serves other otherType secret found) :
    Sound crypto root top own next
      (tree.setRatchet secretType leaf after) := by
  have room : leaf.u32 < (tree.senderRatchets secretType).length := by
    rw [sound.frontier.shape.ratchets]
    exact sound.leaf_lt there
  refine ⟨⟨sound.frontier.shape.setRatchet _ _ _, ?_, ?_, ?_⟩, ?_, ?_, ?_⟩
  · intro height place here
    rw [secretOf_setRatchet] at here
    exact sound.frontier.inside height place here
  · intro height place secret low placed here
    rw [secretOf_setRatchet] at here
    exact sound.frontier.secrets height place secret low placed here
  · intro other inside
    apply (sound.frontier.covered other inside).congr
    · intro height
      rw [secretOf_setRatchet]
    · intro otherType
      rw [ratchet_setRatchet room]
      split
      · next same =>
        rw [same.1, same.2, there]
        rfl
      · rfl
  · rw [ownIndex_setRatchet]
    exact sound.ownIndex
  · intro other otherType found present
    rw [ratchet_setRatchet room] at present
    split at present
    · next same =>
      obtain ⟨rfl, rfl⟩ := same
      cases present
      obtain ⟨mine, secret, derived, serves⟩ := sound.ratchets _ _ _ there
      rw [kind]
      exact ⟨mine, secret, derived, moves secret derived serves⟩
    · next different =>
      obtain ⟨mine, secret, derived, serves⟩ :=
        sound.ratchets other otherType found present
      exact ⟨mine, secret, derived,
        (elsewhere other otherType different).2 secret found serves⟩
  · intro other otherType absent
    rw [ratchet_setRatchet room] at absent
    split at absent
    · cases absent
    · next different =>
      exact (elsewhere other otherType different).1
        (sound.fresh other otherType absent)

/-- All that a request to decrypt can do. -/
theorem secretForDecryption_cases
    (starts : spec.Starts own) (leaf : LeafNodeIndex)
    (secretType : SecretType) (generation : Nat)
    (configuration : SenderRatchetConfiguration) :
    (2 ^ top ≤ leaf.u32 ∧
        secretForDecryption crypto leaf secretType generation configuration
          tree = (.error .indexOutOfBounds, tree)) ∨
      (∃ error reached,
        secretForDecryption crypto leaf secretType generation configuration
            tree = (.error (.cryptoError error), reached) ∧
          Sound crypto root top own spec reached ∧
            ¬TreeDerives crypto root top) ∨
      (leaf = own ∧ leaf.u32 < 2 ^ top ∧
        ∃ reached,
          secretForDecryption crypto leaf secretType generation
              configuration tree = (.error .ratchetTypeError, reached) ∧
            Sound crypto root top own spec reached) ∨
      (leaf ≠ own ∧ leaf.u32 < 2 ^ top ∧
        ∃ reached ratchet secret,
          secretForDecryption crypto leaf secretType generation
              configuration tree =
            ((SenderRatchet.secretForDecryption crypto generation
                configuration ratchet).1,
              reached.setRatchet secretType leaf
                (.decryptionRatchet
                  (SenderRatchet.secretForDecryption crypto generation
                    configuration ratchet).2)) ∧
            Sound crypto root top own spec reached ∧
            reached.ratchet secretType leaf =
              some (.decryptionRatchet ratchet) ∧
            ratchetSecret crypto root top leaf secretType = some secret ∧
            spec.serves leaf secretType secret
              (.decryptionRatchet ratchet)) := by
  unfold secretForDecryption
  rw [read_bind, sound.frontier.shape.tall.leafCount_eq]
  by_cases outside : 2 ^ top ≤ leaf.u32
  · rw [if_pos outside]
    exact Or.inl ⟨outside, rfl⟩
  rw [if_neg outside]
  have inside := Nat.not_le.mp outside
  rcases ensureRatchet_cases sound starts inside secretType with
    ⟨error, reached, failed, after, notAll⟩ |
      ⟨reached, ratchet, ensured, after, there⟩
  · exact Or.inr (Or.inl ⟨error, reached, by
      rw [bind_of_error failed], after, notAll⟩)
  obtain ⟨mine, secret, derived, serves⟩ := after.ratchets _ _ _ there
  rw [bind_of_ok ensured, bind_of_ok (ratchetMut_eq there)]
  cases ratchet with
  | encryptionRatchet ratchet =>
      exact Or.inr (Or.inr (Or.inl ⟨mine.mp rfl, inside, reached, rfl,
        after⟩))
  | decryptionRatchet ratchet =>
      refine Or.inr (Or.inr (Or.inr ⟨?_, inside, reached, ratchet, secret,
        rfl, after, there, derived, serves⟩))
      intro same
      exact absurd (mine.mpr same) Bool.false_ne_true

/-- All that a request to encrypt can do. -/
theorem secretForEncryption_cases
    (starts : spec.Starts own) (leaf : LeafNodeIndex)
    (secretType : SecretType) :
    (2 ^ top ≤ leaf.u32 ∧
        secretForEncryption crypto leaf secretType tree =
          (.error .indexOutOfBounds, tree)) ∨
      (∃ error reached,
        secretForEncryption crypto leaf secretType tree =
            (.error (.cryptoError error), reached) ∧
          Sound crypto root top own spec reached ∧
            ¬TreeDerives crypto root top) ∨
      (leaf ≠ own ∧ leaf.u32 < 2 ^ top ∧
        ∃ reached,
          secretForEncryption crypto leaf secretType tree =
              (.error .ratchetTypeError, reached) ∧
            Sound crypto root top own spec reached) ∨
      (leaf = own ∧ leaf.u32 < 2 ^ top ∧
        ∃ reached ratchet secret,
          secretForEncryption crypto leaf secretType tree =
            ((ratchetForward crypto ratchet).1,
              reached.setRatchet secretType leaf
                (.encryptionRatchet (ratchetForward crypto ratchet).2)) ∧
            Sound crypto root top own spec reached ∧
            reached.ratchet secretType leaf =
              some (.encryptionRatchet ratchet) ∧
            ratchetSecret crypto root top leaf secretType = some secret ∧
            spec.serves leaf secretType secret
              (.encryptionRatchet ratchet)) := by
  unfold secretForEncryption
  by_cases outside : 2 ^ top ≤ leaf.u32
  · rw [bind_of_error
      (ensureRatchet_outside sound outside secretType)]
    exact Or.inl ⟨outside, rfl⟩
  have inside := Nat.not_le.mp outside
  rcases ensureRatchet_cases sound starts inside secretType with
    ⟨error, reached, failed, after, notAll⟩ |
      ⟨reached, ratchet, ensured, after, there⟩
  · exact Or.inr (Or.inl ⟨error, reached, by
      rw [bind_of_error failed], after, notAll⟩)
  obtain ⟨mine, secret, derived, serves⟩ := after.ratchets _ _ _ there
  rw [bind_of_ok ensured, bind_of_ok (ratchetMut_eq there)]
  cases ratchet with
  | decryptionRatchet ratchet =>
      refine Or.inr (Or.inr (Or.inl ⟨?_, inside, reached, rfl, after⟩))
      intro same
      exact absurd (mine.mpr same) Bool.false_ne_true
  | encryptionRatchet ratchet =>
      exact Or.inr (Or.inr (Or.inr ⟨mine.mp rfl, inside, reached, ratchet,
        secret, rfl, after, there, derived, serves⟩))

end

theorem join_replicate_none {Value : Type} (count index : Nat) :
    (List.replicate count (none : Option Value))[index]?.join = none := by
  rw [List.getElem?_replicate]
  split
  · rfl
  · rfl

/-- At first the root alone has a secret. -/
theorem sound_new (secret : Secret) {size : TreeSize}
    (tall : size.HasHeight top) (ownIndex : LeafNodeIndex)
    (unused : ∀ leaf secretType, spec.fresh leaf secretType) :
    Sound crypto secret top ownIndex spec
      (SecretTree.new secret size ownIndex) := by
  -- The tree before its root is set.
  generalize start_eq :
    ({ ownIndex := ownIndex
       leafNodes := List.replicate size.leafCount none
       parentNodes := List.replicate size.leafCount none
       handshakeSenderRatchets := List.replicate size.leafCount none
       applicationSenderRatchets := List.replicate size.leafCount none
       size := size } : SecretTree Secret) = start
  have shape : Shape top start := by
    subst start_eq
    refine ⟨tall, ?_, ?_, ?_⟩
    · simp [tall.leafCount_eq]
    · simp [tall.leafCount_eq]
    · intro secretType
      cases secretType <;>
        simp [SecretTree.senderRatchets, tall.leafCount_eq]
  have blank (index : TreeNodeIndex) : start.secretOf index = none := by
    subst start_eq
    cases index <;> exact join_replicate_none _ _
  have noRatchet (secretType : SecretType) (leaf : LeafNodeIndex) :
      start.ratchet secretType leaf = none := by
    subst start_eq
    cases secretType <;> exact join_replicate_none _ _
  have place : (start.slot (nodeAt top 0)).isSome :=
    shape.isSome_slot (le_refl top) (by simp)
  have new_eq : SecretTree.new secret size ownIndex =
      start.put (nodeAt top 0) (some secret) := by
    rw [SecretTree.new, start_eq, root_eq tall, setNode_eq place]
  have above (height place : Nat) :
      (start.put (nodeAt top 0) (some secret)).secretOf
          (nodeAt height place) =
        if height = top ∧ place = 0 then some secret else none := by
    rw [secretOf_put (by assumption), blank]
    simp only [nodeAt_eq_iff]
  rw [new_eq]
  refine ⟨⟨shape.put _ _, ?_, ?_, ?_⟩, ?_, ?_, ?_⟩
  · intro height place there
    rw [above] at there
    split at there
    · next same =>
      obtain ⟨rfl, rfl⟩ := same
      exact ⟨le_refl _, Nat.two_pow_pos _⟩
    · cases there
  · intro height place found low inside there
    rw [above] at there
    split at there
    · next same =>
      obtain ⟨rfl, rfl⟩ := same
      cases there
      rw [Nat.sub_self]
      rfl
    · cases there
  · intro leaf inside
    refine Or.inl ⟨?_, top, le_refl top, ?_, ?_⟩
    · intro secretType
      rw [ratchet_put]
      exact noRatchet secretType ⟨leaf⟩
    · rw [above, if_pos ⟨rfl, Nat.div_eq_of_lt inside⟩]
      rfl
    · intro other low different
      rw [above, if_neg (fun both => different both.1)]
  · rw [ownIndex_put, ← start_eq]
  · intro leaf secretType ratchet there
    rw [ratchet_put, noRatchet] at there
    cases there
  · intro leaf secretType _
    exact unused leaf secretType

end Calls

/-! ## What was handed out -/

/-- A ratchet of a secret, after some generations were handed out. -/
def Serves (root : Secret) (served : List Nat) :
    SenderRatchet Secret → Prop
  | .encryptionRatchet ratchet =>
      OnChain crypto root ratchet ∧ ratchet.generation ≤ u32Max ∧
        ∀ generation ∈ served, generation < ratchet.generation
  | .decryptionRatchet ratchet => Tracks crypto root served ratchet

/-- The ratchets after some generations were handed out. -/
def servedSpec (served : LeafNodeIndex → SecretType → List Nat) :
    RatchetSpec Secret where
  fresh leaf secretType := served leaf secretType = []
  serves leaf secretType secret ratchet :=
    Serves crypto secret (served leaf secretType) ratchet

/-- Other generations for one ratchet. -/
def reserve (served : LeafNodeIndex → SecretType → List Nat)
    (leaf : LeafNodeIndex) (secretType : SecretType)
    (generations : List Nat) : LeafNodeIndex → SecretType → List Nat :=
  fun other otherType =>
    if otherType = secretType ∧ other = leaf then generations
    else served other otherType

section Served

variable {crypto} {root : Secret} {top : Nat} {own : LeafNodeIndex}
  {served : LeafNodeIndex → SecretType → List Nat} {tree : SecretTree Secret}

variable {leaf : LeafNodeIndex} {secretType : SecretType}

theorem leafMaterial_eq {secret : Secret}
    (derived : ratchetSecret crypto root top leaf secretType = some secret)
    (generation : Nat) :
    leafMaterial crypto root top leaf secretType generation =
      materialAt crypto secret generation := by
  rw [leafMaterial, derived, Option.bind_some]

/-- New ratchets have served nothing. -/
theorem starts_servedSpec (own : LeafNodeIndex) :
    (servedSpec crypto served).Starts own := by
  intro leaf secretType secret fresh
  have nothing : served leaf secretType = [] := fresh
  show Serves crypto secret (served leaf secretType) _
  rw [nothing, newSenderRatchet]
  split
  · exact ⟨secretAt_zero crypto secret, Nat.zero_le _,
      fun _ inside => by cases inside⟩
  · exact tracks_new secret

/-- A ratchet has served other generations, the others have not. -/
theorem Sound.reserve
    (sound : Sound crypto root top own (servedSpec crypto served) tree)
    {ratchet : SenderRatchet Secret}
    (there : tree.ratchet secretType leaf = some ratchet)
    (after : SenderRatchet Secret)
    (kind : after.isEncryption = ratchet.isEncryption) {secret : Secret}
    (derived : ratchetSecret crypto root top leaf secretType = some secret)
    {generations : List Nat} (serves : Serves crypto secret generations after) :
    Sound crypto root top own
      (servedSpec crypto (reserve served leaf secretType generations))
      (tree.setRatchet secretType leaf after) := by
  apply sound.setRatchet there kind
  · intro other otherDerived _
    rw [derived] at otherDerived
    cases otherDerived
    show Serves crypto secret (SecretTrees.reserve served leaf secretType
      generations leaf secretType) after
    rw [SecretTrees.reserve, if_pos ⟨rfl, rfl⟩]
    exact serves
  · intro other otherType different
    simp only [servedSpec, SecretTrees.reserve, if_neg different]
    exact ⟨id, fun _ _ => id⟩

theorem reserve_self (leaf : LeafNodeIndex) (secretType : SecretType) :
    reserve served leaf secretType (served leaf secretType) = served := by
  funext other otherType
  unfold reserve
  split
  · next same => rw [same.1, same.2]
  · rfl

/-- What has handed something out has a ratchet. -/
theorem Sound.ratchet_of_served
    (sound : Sound crypto root top own (servedSpec crypto served) tree)
    {generation : Nat} (handedOut : generation ∈ served leaf secretType) :
    ∃ ratchet, tree.ratchet secretType leaf = some ratchet := by
  cases there : tree.ratchet secretType leaf with
  | none =>
      rw [show served leaf secretType = [] from
        sound.fresh leaf secretType there] at handedOut
      cases handedOut
  | some ratchet => exact ⟨ratchet, rfl⟩

/-- What was handed out has a place below the counters of the ratchets. -/
theorem Sound.place_of_served
    (sound : Sound crypto root top own (servedSpec crypto served) tree)
    {generation : Nat} (handedOut : generation ∈ served leaf secretType) :
    leaf.u32 < 2 ^ top ∧ generation ≤ u32Max := by
  obtain ⟨ratchet, there⟩ := sound.ratchet_of_served handedOut
  obtain ⟨-, secret, -, serves⟩ := sound.ratchets _ _ _ there
  refine ⟨sound.leaf_lt there, ?_⟩
  cases ratchet with
  | encryptionRatchet ratchet =>
      exact (serves.2.2 generation handedOut).le.trans serves.2.1
  | decryptionRatchet ratchet =>
      have tracks : Tracks crypto secret (served leaf secretType) ratchet :=
        serves
      exact (tracks.past generation handedOut).le.trans tracks.bounded

/-- A request to decrypt, served once and with the right material. -/
theorem secretForDecryption_triple (leaf : LeafNodeIndex)
    (secretType : SecretType) (generation : Nat)
    (configuration : SenderRatchetConfiguration) :
    Triple
      (Sound crypto root top own (servedSpec crypto served))
      (secretForDecryption crypto leaf secretType generation configuration)
      (fun material reached =>
        (generation ∉ served leaf secretType ∧
          leafMaterial crypto root top leaf secretType generation =
            some material) ∧
          Sound crypto root top own
            (servedSpec crypto (reserve served leaf secretType
              (generation :: served leaf secretType))) reached)
      (fun error reached => error ≠ .libraryError ∧
        Sound crypto root top own (servedSpec crypto served) reached) := by
  intro tree sound
  rcases secretForDecryption_cases sound (starts_servedSpec own) leaf
      secretType generation configuration with
    ⟨-, ran⟩ | ⟨error, reached, ran, after, -⟩ | ⟨-, -, reached, ran, after⟩ |
      ⟨-, -, reached, ratchet, secret, ran, after, there, derived, serves⟩
  · exact ends_error ran ⟨by simp, sound⟩
  · exact ends_error ran ⟨by simp, after⟩
  · exact ends_error ran ⟨by simp, after⟩
  obtain ⟨onValue, onError⟩ := SenderRatchet.secretForDecryption_triple
    crypto secret (served leaf secretType) generation configuration
    ratchet serves
  rw [ran]
  cases answer : SenderRatchet.secretForDecryption crypto generation
      configuration ratchet with
  | mk result next =>
      cases result with
      | ok material =>
          obtain ⟨fresh, right, tracks⟩ := onValue material next answer
          rw [← leafMaterial_eq derived] at right
          exact ends_ok rfl ⟨⟨fresh, right⟩, after.reserve there
            (.decryptionRatchet next) rfl derived tracks⟩
      | error error =>
          have avoids := secretForDecryption_avoids_libraryError crypto
            generation configuration ratchet
          rw [answer] at avoids
          have same := after.reserve there (.decryptionRatchet next) rfl
            derived (onError error next answer)
          rw [reserve_self] at same
          exact ends_error rfl ⟨fun wrong => avoids (by rw [wrong]), same⟩

/-- A request to encrypt, served with a new generation and its material. -/
theorem secretForEncryption_triple (leaf : LeafNodeIndex)
    (secretType : SecretType) :
    Triple
      (Sound crypto root top own (servedSpec crypto served))
      (secretForEncryption crypto leaf secretType)
      (fun answer reached =>
        (answer.1 ∉ served leaf secretType ∧
          leafMaterial crypto root top leaf secretType answer.1 =
            some answer.2) ∧
          Sound crypto root top own
            (servedSpec crypto (reserve served leaf secretType
              (answer.1 :: served leaf secretType))) reached)
      (fun error reached => error ≠ .libraryError ∧
        Sound crypto root top own (servedSpec crypto served) reached) := by
  intro tree sound
  rcases secretForEncryption_cases sound (starts_servedSpec own) leaf
      secretType with
    ⟨-, ran⟩ | ⟨error, reached, ran, after, -⟩ | ⟨-, -, reached, ran, after⟩ |
      ⟨-, -, reached, ratchet, secret, ran, after, there, derived, serves⟩
  · exact ends_error ran ⟨by simp, sound⟩
  · exact ends_error ran ⟨by simp, after⟩
  · exact ends_error ran ⟨by simp, after⟩
  obtain ⟨onChain, bounded, earlier⟩ := serves
  rw [ran]
  rcases ratchetForward_cases crypto ratchet with
    ⟨error, failed⟩ | ⟨material, next, forwards, moved⟩
  · have avoids := ratchetForward_avoids_libraryError crypto ratchet
    rw [failed] at avoids ⊢
    have same := after.reserve there (.encryptionRatchet ratchet) rfl
      derived ⟨onChain, bounded, earlier⟩
    rw [reserve_self] at same
    exact ends_error rfl ⟨fun wrong => avoids (by rw [wrong]), same⟩
  · rw [moved]
    refine ends_ok rfl ⟨⟨?_, ?_⟩, after.reserve there
      (.encryptionRatchet next) rfl derived ⟨forwards.onChain onChain, ?_, ?_⟩⟩
    · intro already
      exact absurd (earlier _ already) (lt_irrefl _)
    · rw [leafMaterial_eq derived]
      exact forwards.materialAt_eq onChain
    · rw [forwards.generation]
      exact Nat.lt_of_le_of_ne bounded forwards.short
    · intro generation member
      rw [forwards.generation]
      rcases List.mem_cons.mp member with rfl | old
      · exact Nat.lt_succ_self _
      · exact Nat.lt_succ_of_lt (earlier generation old)

end Served

/-- A call of the secret tree. -/
inductive Call where
  | decrypt (leaf : LeafNodeIndex) (secretType : SecretType)
      (generation : Nat) (configuration : SenderRatchetConfiguration)
  | encrypt (leaf : LeafNodeIndex) (secretType : SecretType)

/-- The leaf a call is about. -/
def Call.leaf : Call → LeafNodeIndex
  | .decrypt leaf _ _ _ => leaf
  | .encrypt leaf _ => leaf

/-- The type of secret a call is about. -/
def Call.secretType : Call → SecretType
  | .decrypt _ secretType _ _ => secretType
  | .encrypt _ secretType => secretType

/-- Answer a call with a generation and its material. -/
def perform : Call → TreeAction Secret (Nat × RatchetKeyMaterial Secret)
  | .decrypt leaf secretType generation configuration => do
      let material ← secretForDecryption crypto leaf secretType generation
        configuration
      return (generation, material)
  | .encrypt leaf secretType => secretForEncryption crypto leaf secretType

/-- What was handed out: the leaf, the type and the generation. -/
def position (entry : Call × Nat × RatchetKeyMaterial Secret) :
    LeafNodeIndex × SecretType × Nat :=
  (entry.1.leaf, entry.1.secretType, entry.2.1)

/-- The generations of a leaf that were handed out, the last one first. -/
def servedBy (history : List (Call × Nat × RatchetKeyMaterial Secret))
    (leaf : LeafNodeIndex) (secretType : SecretType) : List Nat :=
  (history.filterMap fun entry =>
    if secretType = entry.1.secretType ∧ leaf = entry.1.leaf then
      some entry.2.1
    else none).reverse

/-- What holds once some calls were answered. -/
structure Answered (root : Secret) (top : Nat) (own : LeafNodeIndex)
    (history : List (Call × Nat × RatchetKeyMaterial Secret))
    (tree : SecretTree Secret) : Prop where
  sound : Sound crypto root top own
    (servedSpec crypto (servedBy history)) tree
  once : (history.map position).Nodup
  right : ∀ entry ∈ history,
    leafMaterial crypto root top entry.1.leaf entry.1.secretType entry.2.1 =
      some entry.2.2

section Answered

variable {crypto} {root : Secret} {top : Nat} {own : LeafNodeIndex}

theorem servedBy_concat
    (history : List (Call × Nat × RatchetKeyMaterial Secret)) (call : Call)
    (answer : Nat × RatchetKeyMaterial Secret) :
    servedBy (history ++ [(call, answer)]) =
      reserve (servedBy history) call.leaf call.secretType
        (answer.1 :: servedBy history call.leaf call.secretType) := by
  funext leaf secretType
  unfold servedBy reserve
  rw [List.filterMap_append, List.reverse_append]
  split
  · next same =>
    obtain ⟨rfl, rfl⟩ := same
    simp
  · next different => simp [different]

theorem mem_servedBy_of_position
    {history : List (Call × Nat × RatchetKeyMaterial Secret)}
    {leaf : LeafNodeIndex} {secretType : SecretType} {generation : Nat}
    (member : (leaf, secretType, generation) ∈ history.map position) :
    generation ∈ servedBy history leaf secretType := by
  obtain ⟨entry, inside, same⟩ := List.mem_map.mp member
  unfold servedBy
  rw [List.mem_reverse, List.mem_filterMap]
  refine ⟨entry, inside, ?_⟩
  simp only [position, Prod.mk.injEq] at same
  obtain ⟨rfl, rfl, rfl⟩ := same
  rw [if_pos ⟨rfl, rfl⟩]

/-- An answer to a call is new and right, and the tree is sound. -/
theorem perform_triple (call : Call)
    {served : LeafNodeIndex → SecretType → List Nat} :
    Triple
      (Sound crypto root top own (servedSpec crypto served))
      (perform crypto call)
      (fun answer reached =>
        (answer.1 ∉ served call.leaf call.secretType ∧
          leafMaterial crypto root top call.leaf call.secretType answer.1 =
            some answer.2) ∧
          Sound crypto root top own
            (servedSpec crypto (reserve served call.leaf call.secretType
              (answer.1 :: served call.leaf call.secretType))) reached)
      (fun error reached => error ≠ .libraryError ∧
        Sound crypto root top own (servedSpec crypto served) reached) := by
  cases call with
  | decrypt leaf secretType generation configuration =>
      apply triple_bind
        (secretForDecryption_triple leaf secretType generation configuration)
      intro material
      exact triple_pure fun _ holds => holds
  | encrypt leaf secretType => exact secretForEncryption_triple leaf secretType

theorem answered_triple
    (history : List (Call × Nat × RatchetKeyMaterial Secret)) (call : Call) :
    Triple
      (Answered crypto root top own history)
      (perform crypto call)
      (fun answer tree =>
        Answered crypto root top own (history ++ [(call, answer)]) tree)
      (fun _ => Answered crypto root top own history) := by
  intro tree before
  obtain ⟨onValue, onError⟩ := perform_triple call tree before.sound
  constructor
  · intro answer reached done
    obtain ⟨⟨fresh, right⟩, after⟩ := onValue answer reached done
    refine ⟨?_, ?_, ?_⟩
    · rw [servedBy_concat]
      exact after
    · rw [List.map_append, List.map_singleton, List.nodup_append]
      refine ⟨before.once, List.nodup_singleton _, ?_⟩
      rintro old inside _ new rfl
      rw [List.mem_singleton] at new
      subst new
      exact fresh (mem_servedBy_of_position inside)
    · intro entry inside
      rcases List.mem_append.mp inside with old | new
      · exact before.right entry old
      · rw [List.mem_singleton.mp new]
        exact right
  · intro error reached done
    exact ⟨(onError error reached done).2, before.once, before.right⟩

theorem answered_run (secret : Secret) {size : TreeSize}
    (tall : size.HasHeight top) (ownIndex : LeafNodeIndex)
    (calls : List Call) :
    Answered crypto secret top ownIndex
      (returnedCalls (perform crypto) calls
        (SecretTree.new secret size ownIndex))
      (Throwing.afterCalls (perform crypto) calls
        (SecretTree.new secret size ownIndex)) := by
  have start : Answered crypto secret top ownIndex []
      (SecretTree.new secret size ownIndex) :=
    ⟨sound_new secret tall ownIndex (fun _ _ => rfl), List.nodup_nil,
      fun entry inside => by cases inside⟩
  have all := calls_invariant answered_triple calls start
  rw [List.nil_append] at all
  exact all

end Answered

/--
Whatever is asked of a secret tree, in whatever order and whichever
derivations fail, no generation of a ratchet is handed out twice, and each
one comes with the material that its path from the encryption secret gives.
-/
theorem handed_out_once_and_by_path (secret : Secret) (size : TreeSize)
    (ownIndex : LeafNodeIndex) (calls : List Call) :
    let answers := returnedCalls (perform crypto) calls
      (SecretTree.new secret size ownIndex)
    (answers.map position).Nodup ∧
      ∀ entry ∈ answers,
        leafMaterial crypto secret (Nat.log2 size.u32) entry.1.leaf
          entry.1.secretType entry.2.1 = some entry.2.2 := by
  obtain ⟨top, tall⟩ := size.exists_height
  have run := @answered_run Secret crypto top secret size tall ownIndex calls
  rw [tall.log2_eq]
  exact ⟨run.once, run.right⟩

/--
The error that stands for a bug of the library is never answered: whenever the
ratchets of a leaf are initialized, the secret that leads to it is there.
-/
theorem never_libraryError (secret : Secret) (size : TreeSize)
    (ownIndex : LeafNodeIndex) (calls : List Call) (call : Call) :
    (perform crypto call
        (Throwing.afterCalls (perform crypto) calls
          (SecretTree.new secret size ownIndex))).1 ≠
      .error .libraryError := by
  obtain ⟨top, tall⟩ := size.exists_height
  have run := @answered_run Secret crypto top secret size tall ownIndex calls
  have onError := (perform_triple call _ run.sound).2
  intro failed
  exact (onError .libraryError _ (Prod.ext failed rfl)).1 rfl

end Mls4rn.OpenMls.SecretTrees
