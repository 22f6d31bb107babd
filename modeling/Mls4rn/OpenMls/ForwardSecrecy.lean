import Mls4rn.OpenMls.SecretTreeRuns

/-!
# Forward secrecy of the secret tree

Every secret of a secret tree has a path from the encryption secret.  As long
as no two derivations collide and none leads back to the encryption secret,
what can be computed from a state is what lies beyond the paths in it.  No path
in it leads to a key that was handed out: the nodes above the leaf are blank,
the ratchet has moved on, and the queue keeps material of other generations
only.
-/

namespace Mls4rn.OpenMls.ForwardSecrecy

open Mls4rn.Lib
open Mls4rn.Lib.ByteString
open Mls4rn.OpenMls.KeyDerivation
open Mls4rn.OpenMls.SenderRatchet
open Mls4rn.OpenMls.SecretTrees
open Mls4rn.OpenMls.TreeMath

variable {Secret : Type} (crypto : Crypto Secret)

/-! ## What a state holds -/

/-- A secret that a sender ratchet holds. -/
def HeldBy (secret : Secret) : SenderRatchet Secret → Prop
  | .encryptionRatchet ratchet => secret = ratchet.secret
  | .decryptionRatchet ratchet =>
      secret = ratchet.ratchetHead.secret ∨
        ∃ material, some material ∈ ratchet.pastSecrets ∧
          (secret = material.1.value ∨ secret = material.2.value)

/-- The secrets that a tree holds, in its nodes and in its ratchets. -/
def heldSecrets (tree : SecretTree Secret) : Set Secret :=
  {secret |
    (∃ index, tree.secretOf index = some secret) ∨
      ∃ leaf secretType ratchet,
        tree.ratchet secretType leaf = some ratchet ∧ HeldBy secret ratchet}

/-! ## Paths -/

/-- The path to the secret of a generation. -/
def headPath (top : Nat) (leaf : LeafNodeIndex) (secretType : SecretType)
    (generation : Nat) : List Label :=
  ratchetPath crypto top leaf secretType ++ chain crypto generation

/-- The path to the key of a generation. -/
def keyPath (top : Nat) (leaf : LeafNodeIndex) (secretType : SecretType)
    (generation : Nat) : List Label :=
  headPath crypto top leaf secretType generation ++
    [keyLabel crypto generation]

/-- The path to the nonce of a generation. -/
def noncePath (top : Nat) (leaf : LeafNodeIndex) (secretType : SecretType)
    (generation : Nat) : List Label :=
  headPath crypto top leaf secretType generation ++
    [nonceLabel crypto generation]

/-- The paths of a tree: those to its keys and nonces, and their beginnings. -/
def treePaths (size : TreeSize) : Set (List Label) :=
  {path | ∃ leaf secretType generation,
    leaf.u32 < size.leafCount ∧ generation ≤ u32Max ∧
      (path <+: keyPath crypto size.u32.log2 leaf secretType generation ∨
        path <+: noncePath crypto size.u32.log2 leaf secretType generation)}

@[simp]
theorem length_nodePath (depth place : Nat) :
    (nodePath crypto depth place).length = depth := by
  induction depth generalizing place with
  | zero => rfl
  | succ depth induction => simp [nodePath, induction]

@[simp]
theorem length_chain (generation : Nat) :
    (chain crypto generation).length = generation := by
  simp [chain]

@[simp]
theorem length_ratchetPath (top : Nat) (leaf : LeafNodeIndex)
    (secretType : SecretType) :
    (ratchetPath crypto top leaf secretType).length = top + 1 := by
  simp [ratchetPath]

theorem childLabel_injective {first second : Nat}
    (same : childLabel crypto first = childLabel crypto second) :
    first % 2 = second % 2 := by
  have apart : asBytes "left" ≠ asBytes "right" := by decide
  simp only [childLabel, Label.mk.injEq, true_and, and_true] at same
  split at same
  · split at same
    · omega
    · exact absurd same apart
  · split at same
    · exact absurd same.symm apart
    · omega

theorem typeLabel_injective {first second : SecretType}
    (same : typeLabel crypto first = typeLabel crypto second) :
    first = second := by
  cases first <;> cases second <;> simp_all [typeLabel]

/-- A path to a node tells its place. -/
theorem nodePath_injective {depth first second : Nat}
    (firstInside : first < 2 ^ depth) (secondInside : second < 2 ^ depth)
    (same : nodePath crypto depth first = nodePath crypto depth second) :
    first = second := by
  induction depth generalizing first second with
  | zero => omega
  | succ depth induction =>
      rw [pow_succ] at firstInside secondInside
      obtain ⟨above, last⟩ := List.append_inj' same rfl
      have parity := childLabel_injective crypto (List.cons.inj last).1
      have halves := @induction (first / 2) (second / 2) (by omega)
        (by omega) above
      omega

/-- The path to a leaf passes the nodes above it. -/
theorem nodePath_isPrefix (depth height leaf : Nat) :
    nodePath crypto depth (leaf / 2 ^ height) <+:
      nodePath crypto (depth + height) leaf := by
  induction height generalizing leaf with
  | zero => simp
  | succ height induction =>
      have above := induction (leaf / 2)
      rw [Nat.div_div_eq_div_mul, ← pow_succ'] at above
      exact above.trans (List.prefix_append _ _)

/-- A node on the path to a leaf is above the leaf. -/
theorem place_of_isPrefix {top leaf height place : Nat}
    {rest : List Label} (low : height ≤ top)
    (placed : place < 2 ^ (top - height)) (inside : leaf < 2 ^ top)
    (initial : nodePath crypto (top - height) place <+:
      nodePath crypto top leaf ++ rest) :
    place = leaf / 2 ^ height := by
  have above := nodePath_isPrefix crypto (top - height) height leaf
  rw [Nat.sub_add_cancel low] at above
  have both := List.prefix_of_prefix_length_le initial
    (above.trans (List.prefix_append _ rest)) (by simp)
  exact nodePath_injective crypto placed (div_pow_lt inside low)
    (both.eq_of_length (by simp))

section TreePaths

variable {crypto} {size : TreeSize} {top : Nat} {leaf : LeafNodeIndex}
  {generation : Nat}

theorem treePaths_initial {path : List Label} {label : Label}
    (inside : path ++ [label] ∈ treePaths crypto size) :
    path ∈ treePaths crypto size := by
  obtain ⟨leaf, secretType, generation, low, bounded, leads⟩ := inside
  have shorter := List.prefix_append path [label]
  exact ⟨leaf, secretType, generation, low, bounded,
    leads.imp shorter.trans shorter.trans⟩

theorem mem_treePaths_of_keyPath (tall : size.HasHeight top)
    (inside : leaf.u32 < 2 ^ top) (bounded : generation ≤ u32Max)
    {path : List Label} {secretType : SecretType}
    (leads : path <+: keyPath crypto top leaf secretType generation) :
    path ∈ treePaths crypto size := by
  refine ⟨leaf, secretType, generation, ?_, bounded, Or.inl ?_⟩
  · rw [tall.leafCount_eq]
    exact inside
  · rw [tall.log2_eq]
    exact leads

theorem keyPath_mem_treePaths (tall : size.HasHeight top)
    (inside : leaf.u32 < 2 ^ top) (bounded : generation ≤ u32Max)
    (secretType : SecretType) :
    keyPath crypto top leaf secretType generation ∈ treePaths crypto size :=
  mem_treePaths_of_keyPath tall inside bounded (List.prefix_refl _)

theorem noncePath_mem_treePaths (tall : size.HasHeight top)
    (inside : leaf.u32 < 2 ^ top) (bounded : generation ≤ u32Max)
    (secretType : SecretType) :
    noncePath crypto top leaf secretType generation ∈
      treePaths crypto size := by
  refine ⟨leaf, secretType, generation, ?_, bounded, Or.inr ?_⟩
  · rw [tall.leafCount_eq]
    exact inside
  · rw [tall.log2_eq]

theorem nodePath_mem_treePaths (tall : size.HasHeight top)
    {height place : Nat} (low : height ≤ top)
    (placed : place < 2 ^ (top - height)) :
    nodePath crypto (top - height) place ∈ treePaths crypto size := by
  -- The first leaf below the node.
  have inside : place * 2 ^ height < 2 ^ top := by
    rw [← Nat.sub_add_cancel low, pow_add]
    exact Nat.mul_lt_mul_of_pos_right placed (Nat.two_pow_pos height)
  have leads : nodePath crypto (top - height) place <+:
      keyPath crypto top ⟨place * 2 ^ height⟩ .applicationSecret 0 := by
    have above :=
      nodePath_isPrefix crypto (top - height) height (place * 2 ^ height)
    rw [Nat.mul_div_cancel _ (Nat.two_pow_pos height),
      Nat.sub_add_cancel low] at above
    simp only [keyPath, headPath, ratchetPath, List.append_assoc]
    exact above.trans (List.prefix_append _ _)
  exact mem_treePaths_of_keyPath tall inside (Nat.zero_le _) leads

end TreePaths

/-- A ratchet on a path is the ratchet of that path. -/
theorem ratchet_of_isPrefix {top : Nat} {leaf other : LeafNodeIndex}
    {secretType otherType : SecretType} {rest otherRest : List Label}
    (inside : leaf.u32 < 2 ^ top) (otherInside : other.u32 < 2 ^ top)
    (initial : ratchetPath crypto top other otherType ++ otherRest <+:
      ratchetPath crypto top leaf secretType ++ rest) :
    other = leaf ∧ otherType = secretType ∧ otherRest <+: rest := by
  have heads : ratchetPath crypto top other otherType =
      ratchetPath crypto top leaf secretType := by
    have shorter := (List.prefix_append _ otherRest).trans initial
    have both := List.prefix_of_prefix_length_le shorter
      (List.prefix_append _ rest) (by simp)
    exact both.eq_of_length (by simp)
  obtain ⟨nodes, types⟩ := List.append_inj' heads rfl
  have leaves := nodePath_injective crypto otherInside inside nodes
  have sameType := typeLabel_injective crypto (List.cons.inj types).1
  rw [heads, List.prefix_append_right_inj] at initial
  refine ⟨?_, sameType, initial⟩
  rcases leaf with ⟨leaf⟩
  rcases other with ⟨other⟩
  exact congrArg LeafNodeIndex.mk leaves

/-- Where the chain goes on, no key or nonce branches off. -/
theorem chain_concat_isPrefix {generation other : Nat}
    {label last : Label} (branch : label ≠ secretLabel crypto other)
    (initial : chain crypto other ++ [label] <+:
      chain crypto generation ++ [last]) :
    other = generation ∧ label = last := by
  have lengths := initial.length_le
  simp only [List.length_append, length_chain, List.length_singleton]
    at lengths
  rcases Nat.lt_or_eq_of_le (Nat.le_of_succ_le_succ lengths) with
    earlier | rfl
  · exfalso
    apply branch
    obtain ⟨tail, same⟩ := initial
    have entry := congrArg (fun path => path[other]?) same
    simp only [List.append_assoc, List.singleton_append] at entry
    rw [List.getElem?_append_right (by simp), length_chain, Nat.sub_self,
      List.getElem?_append_left (by simpa using earlier)] at entry
    simp only [List.getElem?_cons_zero, chain, List.getElem?_map,
      List.getElem?_range earlier, Option.map_some, Option.some.injEq]
      at entry
    exact entry
  · rw [List.prefix_append_right_inj] at initial
    have same := initial.eq_of_length rfl
    exact ⟨rfl, (List.cons.inj same).1⟩

section Labels

variable {crypto}

theorem keyLabel_ne_secretLabel (generation other : Nat) :
    keyLabel crypto generation ≠ secretLabel crypto other := by
  simp [keyLabel, secretLabel]

theorem nonceLabel_ne_secretLabel (generation other : Nat) :
    nonceLabel crypto generation ≠ secretLabel crypto other := by
  simp [nonceLabel, secretLabel]

theorem nonceLabel_ne_keyLabel (generation other : Nat) :
    nonceLabel crypto generation ≠ keyLabel crypto other := by
  simp [nonceLabel, keyLabel]

end Labels

/-! ## Nothing leads to a key -/

section Leads

variable {crypto} {top : Nat} {leaf other : LeafNodeIndex}
  {secretType otherType : SecretType} {generation otherGeneration : Nat}

/-- A key leads to no other key. -/
theorem position_of_keyPath_isPrefix (inside : leaf.u32 < 2 ^ top)
    (otherInside : other.u32 < 2 ^ top)
    (initial : keyPath crypto top other otherType otherGeneration <+:
      keyPath crypto top leaf secretType generation) :
    other = leaf ∧ otherType = secretType ∧ otherGeneration = generation := by
  simp only [keyPath, headPath, List.append_assoc] at initial
  obtain ⟨leaves, types, rest⟩ :=
    ratchet_of_isPrefix crypto inside otherInside initial
  obtain ⟨generations, -⟩ := chain_concat_isPrefix crypto
    (keyLabel_ne_secretLabel _ _) rest
  exact ⟨leaves, types, generations⟩

/-- A nonce leads to no key. -/
theorem noncePath_not_isPrefix (inside : leaf.u32 < 2 ^ top)
    (otherInside : other.u32 < 2 ^ top) :
    ¬noncePath crypto top other otherType otherGeneration <+:
      keyPath crypto top leaf secretType generation := by
  intro initial
  simp only [noncePath, keyPath, headPath, List.append_assoc] at initial
  obtain ⟨-, -, rest⟩ :=
    ratchet_of_isPrefix crypto inside otherInside initial
  obtain ⟨-, labels⟩ := chain_concat_isPrefix crypto
    (nonceLabel_ne_secretLabel _ _) rest
  exact nonceLabel_ne_keyLabel _ _ labels

/-- A ratchet that has moved on leads to no key behind it. -/
theorem generation_of_headPath_isPrefix (inside : leaf.u32 < 2 ^ top)
    (otherInside : other.u32 < 2 ^ top)
    (initial : headPath crypto top other otherType otherGeneration <+:
      keyPath crypto top leaf secretType generation) :
    other = leaf ∧ otherType = secretType ∧ otherGeneration ≤ generation := by
  simp only [keyPath, headPath, List.append_assoc] at initial
  obtain ⟨leaves, types, rest⟩ :=
    ratchet_of_isPrefix crypto inside otherInside initial
  refine ⟨leaves, types, ?_⟩
  by_contra further
  obtain ⟨before, rfl⟩ :=
    Nat.exists_eq_add_of_lt (Nat.not_le.mp further)
  have lengths := rest.length_le
  simp only [length_chain, List.length_append, List.length_singleton]
    at lengths
  have exact : before = 0 := by omega
  subst exact
  rw [Nat.add_zero, chain_succ, List.prefix_append_right_inj] at rest
  have labels := rest.eq_of_length rfl
  exact keyLabel_ne_secretLabel generation generation
    (List.cons.inj labels).1.symm

end Leads

/-! ## The paths of a state -/

section State

variable {crypto} {root : Secret} {size : TreeSize} {top : Nat}
  {own : LeafNodeIndex} {served : LeafNodeIndex → SecretType → List Nat}
  {tree : SecretTree Secret}

/-- Key material is at the end of its two paths. -/
theorem leafMaterial_eq_some_iff (leaf : LeafNodeIndex)
    (secretType : SecretType) (generation : Nat)
    (material : RatchetKeyMaterial Secret) :
    leafMaterial crypto root top leaf secretType generation =
        some material ↔
      Derivation.follow (expand crypto) root
          (keyPath crypto top leaf secretType generation) =
          some material.1.value ∧
        Derivation.follow (expand crypto) root
          (noncePath crypto top leaf secretType generation) =
          some material.2.value := by
  simp only [leafMaterial, ratchetSecret, keyPath, noncePath, headPath,
    List.append_assoc]
  rw [Derivation.follow_append, Derivation.follow_append]
  cases Derivation.follow (expand crypto) root
      (ratchetPath crypto top leaf secretType) with
  | none => simp
  | some secret =>
      simp only [Option.bind_some]
      exact materialAt_eq_some_iff crypto secret generation material

/-- The secret of a chain is at the end of its path. -/
theorem follow_headPath {secret : Secret} {leaf : LeafNodeIndex}
    {secretType : SecretType}
    (derived : ratchetSecret crypto root top leaf secretType = some secret)
    {head : RatchetSecret Secret} (onChain : OnChain crypto secret head) :
    Derivation.follow (expand crypto) root
        (headPath crypto top leaf secretType head.generation) =
      some head.secret := by
  rw [headPath, Derivation.follow_of_append derived]
  exact onChain

/-- What a state holds does not lead to a key that was handed out. -/
theorem held_off_path (tall : size.HasHeight top)
    (sound : Sound crypto root top own (servedSpec crypto served) tree)
    {leaf : LeafNodeIndex} {secretType : SecretType} {generation : Nat}
    (handedOut : generation ∈ served leaf secretType) {secret : Secret}
    (held : secret ∈ heldSecrets tree) :
    ∃ path ∈ treePaths crypto size,
      Derivation.follow (expand crypto) root path = some secret ∧
        ¬path <+: keyPath crypto top leaf secretType generation := by
  obtain ⟨_, found⟩ := sound.ratchet_of_served handedOut
  have inside := sound.leaf_lt found
  have spent := sound.spent found
  rcases held with
    ⟨index, there⟩ | ⟨other, otherType, ratchet, there, held⟩
  · -- A node above the leaf would be blank.
    obtain ⟨height, place, rfl⟩ := exists_nodeAt index
    obtain ⟨low, placed⟩ := sound.frontier.inside height place
      (by rw [there]; rfl)
    refine ⟨_, nodePath_mem_treePaths tall low placed,
      sound.frontier.secrets height place secret low placed there, ?_⟩
    intro initial
    simp only [keyPath, headPath, ratchetPath, List.append_assoc] at initial
    rw [place_of_isPrefix crypto low placed inside initial,
      spent height low] at there
    cases there
  · have otherInside := sound.leaf_lt there
    obtain ⟨-, first, derived, serves⟩ := sound.ratchets _ _ _ there
    -- The head of a ratchet is beyond every generation it has served.
    have head {head : RatchetSecret Secret}
        (onChain : OnChain crypto first head)
        (bounded : head.generation ≤ u32Max)
        (beyond : ∀ generation ∈ served other otherType,
          generation < head.generation) :
        ∃ path ∈ treePaths crypto size,
          Derivation.follow (expand crypto) root path = some head.secret ∧
            ¬path <+: keyPath crypto top leaf secretType generation := by
      refine ⟨_,
        mem_treePaths_of_keyPath tall otherInside bounded
          (List.prefix_append _ _),
        follow_headPath derived onChain, ?_⟩
      intro initial
      obtain ⟨rfl, rfl, behind⟩ :=
        generation_of_headPath_isPrefix inside otherInside initial
      exact absurd (beyond generation handedOut) (Nat.not_lt.mpr behind)
    cases ratchet with
    | encryptionRatchet ratchet =>
        rw [show secret = ratchet.secret from held]
        exact head serves.1 serves.2.1 serves.2.2
    | decryptionRatchet ratchet =>
        have tracks : Tracks crypto first (served other otherType) ratchet :=
          serves
        rcases held with rfl | ⟨material, member, part⟩
        · exact head tracks.onChain tracks.bounded tracks.past
        · obtain ⟨place, entry⟩ := List.mem_iff_getElem?.mp member
          obtain ⟨right, fresh⟩ := tracks.held place material entry
          have bounded :
              ratchet.ratchetHead.generation - 1 - place ≤ u32Max :=
            (Nat.sub_le _ _).trans ((Nat.sub_le _ _).trans tracks.bounded)
          rw [← leafMaterial_eq derived, leafMaterial_eq_some_iff] at right
          rcases part with rfl | rfl
          · refine ⟨_, keyPath_mem_treePaths tall otherInside bounded _,
              right.1, ?_⟩
            intro initial
            obtain ⟨rfl, rfl, same⟩ :=
              position_of_keyPath_isPrefix inside otherInside initial
            exact fresh (same ▸ handedOut)
          · exact ⟨_, noncePath_mem_treePaths tall otherInside bounded _,
              right.2, noncePath_not_isPrefix inside otherInside⟩

end State

/-! ## The results -/

section Results

variable {crypto}

/-- The keys of other answers, and all nonces. -/
def disclosed (answers : List (Call × Nat × RatchetKeyMaterial Secret))
    (entry : Call × Nat × RatchetKeyMaterial Secret) : Set Secret :=
  {secret | ∃ other ∈ answers,
    (secret = other.2.2.1.value ∧ position other ≠ position entry) ∨
      secret = other.2.2.2.value}

/-- What was handed out is served. -/
theorem mem_servedBy {history : List (Call × Nat × RatchetKeyMaterial Secret)}
    {entry : Call × Nat × RatchetKeyMaterial Secret}
    (inside : entry ∈ history) :
    entry.2.1 ∈ servedBy history entry.1.leaf entry.1.secretType :=
  mem_servedBy_of_position (List.mem_map.mpr ⟨entry, inside, rfl⟩)

/--
Forward secrecy.  From everything that a secret tree holds after any run, the
keys of all other messages and all nonces, nobody can compute a key that the
tree has handed out, along any paths that include those of the tree and that
are free of collisions and cycles.
-/
theorem handed_out_key_not_derivable
    (secret : Secret) (size : TreeSize) (ownIndex : LeafNodeIndex)
    (paths : Set (List Label)) (included : treePaths crypto size ⊆ paths)
    (free : CollisionFree crypto secret paths) (calls : List Call) :
    let answers := Throwing.returnedCalls (perform crypto) calls
      (SecretTree.new secret size ownIndex)
    let tree := Throwing.afterCalls (perform crypto) calls
      (SecretTree.new secret size ownIndex)
    ∀ entry ∈ answers,
      ¬Derivation.Derivable (expand crypto) secret paths
        (heldSecrets tree ∪ disclosed answers entry)
        entry.2.2.1.value := by
  intro answers tree entry inside computed
  obtain ⟨top, tall⟩ := size.exists_height
  have run := @answered_run Secret crypto top secret size tall ownIndex calls
  have served := mem_servedBy inside
  have reached := (leafMaterial_eq_some_iff _ _ _ _).mp
    (run.right entry inside)
  have placed {other : Call × Nat × RatchetKeyMaterial Secret}
      (otherInside : other ∈ answers) :=
    run.sound.place_of_served (mem_servedBy otherInside)
  -- Everything known lies at a path that does not lead to the key.
  have known : heldSecrets tree ∪ disclosed answers entry ⊆
      Derivation.secretsAt (expand crypto) secret
        {path | path ∈ treePaths crypto size ∧
          ¬path <+: keyPath crypto top entry.1.leaf
            entry.1.secretType entry.2.1} := by
    rintro found (held | ⟨other, otherInside, part⟩)
    · obtain ⟨path, there, leads, off⟩ :=
        held_off_path tall run.sound served held
      exact ⟨path, ⟨there, off⟩, leads⟩
    · have otherReached := (leafMaterial_eq_some_iff _ _ _ _).mp
        (run.right other otherInside)
      obtain ⟨leafInside, -⟩ := placed inside
      obtain ⟨otherLeafInside, otherBounded⟩ := placed otherInside
      rcases part with ⟨rfl, different⟩ | rfl
      · refine ⟨_, ⟨keyPath_mem_treePaths tall otherLeafInside
          otherBounded _, ?_⟩, otherReached.1⟩
        intro initial
        obtain ⟨leaves, types, generations⟩ :=
          position_of_keyPath_isPrefix leafInside otherLeafInside initial
        exact different (by rw [position, leaves, types, generations,
          position])
      · exact ⟨_, ⟨noncePath_mem_treePaths tall otherLeafInside
          otherBounded _, noncePath_not_isPrefix leafInside
          otherLeafInside⟩, otherReached.2⟩
  obtain ⟨leafInside, bounded⟩ := placed inside
  have keyInside := included (keyPath_mem_treePaths tall leafInside bounded
    entry.1.secretType)
  obtain ⟨start, ⟨-, off⟩, initial⟩ :=
    ((free.ideal crypto).derivable_iff (fun _ found => included found.1)
      keyInside reached.1).mp (computed.mono known)
  exact off initial

/-- Two messages of the first member, and one that it receives. -/
theorem key_not_derivable_symbolic :
    let calls : List Call :=
      [.encrypt ⟨0⟩ .applicationSecret, .encrypt ⟨0⟩ .applicationSecret,
        .decrypt ⟨1⟩ .handshakeSecret 1 SenderRatchetConfiguration.default]
    let answers := Throwing.returnedCalls (perform symbolicCrypto) calls
      (SecretTree.new [] (TreeSize.new 3) ⟨0⟩)
    let tree := Throwing.afterCalls (perform symbolicCrypto) calls
      (SecretTree.new [] (TreeSize.new 3) ⟨0⟩)
    answers.length = 3 ∧ ∀ entry ∈ answers,
      ¬Derivation.Derivable (expand symbolicCrypto) [] Set.univ
        (heldSecrets tree ∪ disclosed answers entry) entry.2.2.1.value := by
  intro calls answers tree
  exact ⟨by decide +kernel, handed_out_key_not_derivable [] (TreeSize.new 3)
    ⟨0⟩ Set.univ (Set.subset_univ _)
    (collisionFree_symbolicCrypto fun _ => Set.mem_univ _) calls⟩

/--
Two members with the same encryption secret and tree size hand out one key
exactly for one position: a leaf, a type and a generation.
-/
theorem same_key_iff_same_position
    (secret : Secret) (size : TreeSize)
    (free : CollisionFree crypto secret (treePaths crypto size))
    (first second : LeafNodeIndex) (firstCalls secondCalls : List Call) :
    ∀ entry ∈ Throwing.returnedCalls (perform crypto) firstCalls
        (SecretTree.new secret size first),
      ∀ other ∈ Throwing.returnedCalls (perform crypto) secondCalls
          (SecretTree.new secret size second),
        entry.2.2.1 = other.2.2.1 ↔ position entry = position other := by
  intro entry inside other otherInside
  obtain ⟨top, tall⟩ := size.exists_height
  have run :=
    @answered_run Secret crypto top secret size tall first firstCalls
  have otherRun :=
    @answered_run Secret crypto top secret size tall second secondCalls
  have reached := run.right entry inside
  have otherReached := otherRun.right other otherInside
  constructor
  · intro same
    obtain ⟨leafInside, bounded⟩ :=
      run.sound.place_of_served (mem_servedBy inside)
    obtain ⟨otherLeafInside, otherBounded⟩ :=
      otherRun.sound.place_of_served (mem_servedBy otherInside)
    rw [leafMaterial_eq_some_iff] at reached otherReached
    rw [same] at reached
    have paths := (free.ideal crypto).follow_injective
      (keyPath_mem_treePaths tall leafInside bounded _)
      (keyPath_mem_treePaths tall otherLeafInside otherBounded _)
      reached.1 otherReached.1
    obtain ⟨leaves, types, generations⟩ := position_of_keyPath_isPrefix
      otherLeafInside leafInside
      (by rw [paths] : keyPath crypto top entry.1.leaf entry.1.secretType
        entry.2.1 <+: _)
    rw [position, leaves, types, generations, position]
  · intro same
    simp only [position, Prod.mk.injEq] at same
    obtain ⟨leaves, types, generations⟩ := same
    rw [leaves, types, generations, otherReached] at reached
    rw [Option.some.inj reached]

/-- The sender and the receiver of one message. -/
theorem same_key_symbolic :
    let sent := Throwing.returnedCalls (perform symbolicCrypto)
      [.encrypt ⟨0⟩ .applicationSecret]
      (SecretTree.new [] (TreeSize.new 3) ⟨0⟩)
    let received := Throwing.returnedCalls (perform symbolicCrypto)
      [.decrypt ⟨0⟩ .applicationSecret 0 SenderRatchetConfiguration.default]
      (SecretTree.new [] (TreeSize.new 3) ⟨1⟩)
    (sent.length = 1 ∧ received.length = 1) ∧
      ∀ entry ∈ sent, ∀ other ∈ received,
        entry.2.2.1 = other.2.2.1 ↔ position entry = position other :=
  ⟨by decide +kernel, same_key_iff_same_position [] (TreeSize.new 3)
    (collisionFree_symbolicCrypto treePaths_initial) ⟨0⟩ ⟨1⟩ _ _⟩

end Results

end Mls4rn.OpenMls.ForwardSecrecy
