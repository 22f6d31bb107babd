import Mls4rn.OpenMls.SecretTreeRuns

/-!
# The secret tree as a table of windows

If no derivation fails and the configuration stays the same, nothing of the
lazy tree can be observed.  It answers as a table does that has a replay window
for every ratchet of another member and a counter for each of the own ones,
with key material that depends on the position alone.
-/

namespace Mls4rn.OpenMls.SecretTrees

open Mls4rn.Lib
open Mls4rn.Lib.Throwing
open Mls4rn.OpenMls.KeyDerivation
open Mls4rn.OpenMls.SenderRatchet
open Mls4rn.OpenMls.TreeMath

/-- A request to the tree of a member with a fixed configuration. -/
inductive Request where
  | decrypt (leaf : LeafNodeIndex) (secretType : SecretType)
      (generation : Nat)
  | encrypt (leaf : LeafNodeIndex) (secretType : SecretType)
deriving DecidableEq, Repr

/-- A request as a call. -/
def Request.toCall (configuration : SenderRatchetConfiguration) :
    Request → Call
  | .decrypt leaf secretType generation =>
      .decrypt leaf secretType generation configuration
  | .encrypt leaf secretType => .encrypt leaf secretType

/-! ## The table -/

/-- A window for each ratchet of the others, a counter for the own ones. -/
structure WindowTable where
  windows : LeafNodeIndex → SecretType → ReplayWindow
  sent : SecretType → Nat

/-- Nothing received, nothing sent. -/
def WindowTable.empty : WindowTable where
  windows _ _ := { head := 0, accepted := [] }
  sent _ := 0

/-- The table with another window. -/
def WindowTable.setWindow (table : WindowTable) (leaf : LeafNodeIndex)
    (secretType : SecretType) (window : ReplayWindow) : WindowTable where
  windows other otherType :=
    if otherType = secretType ∧ other = leaf then window
    else table.windows other otherType
  sent := table.sent

theorem windows_setWindow (table : WindowTable) (leaf : LeafNodeIndex)
    (secretType : SecretType) (window : ReplayWindow)
    (other : LeafNodeIndex) (otherType : SecretType) :
    (table.setWindow leaf secretType window).windows other otherType =
      if otherType = secretType ∧ other = leaf then window
      else table.windows other otherType :=
  rfl

/-- The table with another counter. -/
def WindowTable.setSent (table : WindowTable) (secretType : SecretType)
    (count : Nat) : WindowTable where
  windows := table.windows
  sent otherType :=
    if otherType = secretType then count else table.sent otherType

theorem setSent_self (table : WindowTable) (secretType : SecretType) :
    table.setSent secretType (table.sent secretType) = table := by
  rcases table with ⟨windows, sent⟩
  simp only [WindowTable.setSent, WindowTable.mk.injEq, true_and]
  funext otherType
  split
  · next same => rw [same]
  · rfl

/-- The answer of the table: the position that is handed out. -/
def WindowTable.answer (leafCount : Nat) (own : LeafNodeIndex)
    (configuration : SenderRatchetConfiguration) :
    Request → Throwing WindowTable SecretTreeError
      (LeafNodeIndex × SecretType × Nat)
  | .decrypt leaf secretType generation => do
      if leafCount ≤ leaf.u32 then raise .indexOutOfBounds
      else if leaf = own then raise .ratchetTypeError
      else do
        let generation ← zoom
          (fun table => table.windows leaf secretType)
          (fun window table => table.setWindow leaf secretType window) id
          (ReplayWindow.accept configuration generation)
        return (leaf, secretType, generation)
  | .encrypt leaf secretType => do
      if leafCount ≤ leaf.u32 then raise .indexOutOfBounds
      else if leaf ≠ own then raise .ratchetTypeError
      else do
        let table ← Throwing.read
        if table.sent secretType = u32Max then raise .ratchetTooLong
        else do
          Throwing.update fun table =>
            table.setSent secretType (table.sent secretType + 1)
          return (leaf, secretType, table.sent secretType)

/-! ## The refinement -/

section Refinement

variable {Secret : Type} (crypto : Crypto Secret)

/-- No derivation below a root fails. -/
structure Complete (root : Secret) (top : Nat) : Prop where
  tree : TreeDerives crypto root top
  chains : ∀ leaf : LeafNodeIndex, leaf.u32 < 2 ^ top →
    ∀ secretType secret,
      ratchetSecret crypto root top leaf secretType = some secret →
        Derives crypto secret

/-- The ratchets are the windows and the counters of a table. -/
def tableSpec (own : LeafNodeIndex) (tolerance : Nat) (table : WindowTable) :
    RatchetSpec Secret where
  fresh leaf secretType :=
    table.windows leaf secretType = { head := 0, accepted := [] } ∧
      (leaf = own → table.sent secretType = 0)
  serves leaf secretType secret
    | .encryptionRatchet ratchet =>
        leaf = own ∧ OnChain crypto secret ratchet ∧
          ratchet.generation = table.sent secretType ∧
            table.sent secretType ≤ u32Max
    | .decryptionRatchet ratchet =>
        Represents crypto secret tolerance (table.windows leaf secretType)
          ratchet

variable {crypto} {root : Secret} {top : Nat} {own : LeafNodeIndex}
  {table : WindowTable} {tree : SecretTree Secret}

theorem starts_tableSpec (tolerance : Nat) :
    (tableSpec crypto own tolerance table).Starts own := by
  rintro leaf secretType secret ⟨noWindow, noneSent⟩
  unfold newSenderRatchet
  split
  · next mine =>
    rw [decide_eq_true_iff] at mine
    have zero := noneSent mine
    exact ⟨mine, secretAt_zero crypto secret, zero.symm,
      by rw [zero]; exact Nat.zero_le _⟩
  · show Represents crypto secret tolerance (table.windows leaf secretType) _
    rw [noWindow]
    exact represents_new secret tolerance

/-- A window moves on. -/
theorem Sound.setWindow {tolerance : Nat}
    (sound : Sound crypto root top own (tableSpec crypto own tolerance table)
      tree)
    {leaf : LeafNodeIndex} {secretType : SecretType}
    {ratchet next : DecryptionRatchet Secret}
    (there : tree.ratchet secretType leaf = some (.decryptionRatchet ratchet))
    {secret : Secret}
    (derived : ratchetSecret crypto root top leaf secretType = some secret)
    {window : ReplayWindow}
    (represents : Represents crypto secret tolerance window next) :
    Sound crypto root top own
      (tableSpec crypto own tolerance
        (table.setWindow leaf secretType window))
      (tree.setRatchet secretType leaf (.decryptionRatchet next)) := by
  refine sound.setRatchet there ?_ ?_ ?_
  · rfl
  · intro other otherDerived _
    rw [derived] at otherDerived
    cases otherDerived
    show Represents crypto secret tolerance
      ((table.setWindow leaf secretType window).windows leaf secretType) next
    rw [windows_setWindow, if_pos ⟨rfl, rfl⟩]
    exact represents
  · intro other otherType different
    have same :
        (table.setWindow leaf secretType window).windows other otherType =
          table.windows other otherType := by
      rw [windows_setWindow, if_neg different]
    constructor
    · rintro ⟨noWindow, noneSent⟩
      exact ⟨same.trans noWindow, noneSent⟩
    · intro otherSecret found serves
      cases found with
      | encryptionRatchet found => exact serves
      | decryptionRatchet found =>
          show Represents crypto otherSecret tolerance _ found
          rw [same]
          exact serves

/-- A counter moves on. -/
theorem Sound.setSent {tolerance : Nat}
    (sound : Sound crypto root top own (tableSpec crypto own tolerance table)
      tree)
    {secretType : SecretType} {ratchet next : RatchetSecret Secret}
    (there : tree.ratchet secretType own = some (.encryptionRatchet ratchet))
    {secret : Secret}
    (derived : ratchetSecret crypto root top own secretType = some secret)
    (onChain : OnChain crypto secret next)
    (bounded : next.generation ≤ u32Max) :
    Sound crypto root top own
      (tableSpec crypto own tolerance
        (table.setSent secretType next.generation))
      (tree.setRatchet secretType own (.encryptionRatchet next)) := by
  have sent : (table.setSent secretType next.generation).sent secretType =
      next.generation := if_pos rfl
  have elsewhere {otherType : SecretType} (different : otherType ≠ secretType) :
      (table.setSent secretType next.generation).sent otherType =
        table.sent otherType := if_neg different
  refine sound.setRatchet there ?_ ?_ ?_
  · rfl
  · intro other otherDerived _
    rw [derived] at otherDerived
    cases otherDerived
    exact ⟨rfl, onChain, sent.symm, by rw [sent]; exact bounded⟩
  · intro other otherType different
    constructor
    · rintro ⟨noWindow, noneSent⟩
      refine ⟨noWindow, ?_⟩
      intro mine
      rw [elsewhere (fun same => different ⟨same, mine⟩)]
      exact noneSent mine
    · intro otherSecret found serves
      cases found with
      | decryptionRatchet found => exact serves
      | encryptionRatchet found =>
          obtain ⟨mine, foundOnChain, counted, foundBounded⟩ := serves
          have same := elsewhere (fun same => different ⟨same, mine⟩)
          exact ⟨mine, foundOnChain, counted.trans same.symm,
            same.symm ▸ foundBounded⟩

/-- One request, to the tree and to the table. -/
theorem perform_answer (complete : Complete crypto root top)
    (configuration : SenderRatchetConfiguration) (request : Request)
    (sound : Sound crypto root top own
      (tableSpec crypto own configuration.outOfOrderTolerance table) tree) :
    (perform crypto (request.toCall configuration) tree).1.map
          (fun answer => (answer.1, some answer.2)) =
        (WindowTable.answer (2 ^ top) own configuration request table).1.map
          (fun place => (place.2.2,
            leafMaterial crypto root top place.1 place.2.1 place.2.2)) ∧
      Sound crypto root top own
        (tableSpec crypto own configuration.outOfOrderTolerance
          (WindowTable.answer (2 ^ top) own configuration request table).2)
        (perform crypto (request.toCall configuration) tree).2 := by
  have starts := @starts_tableSpec Secret crypto own table
    configuration.outOfOrderTolerance
  cases request with
  | decrypt leaf secretType generation =>
      simp only [Request.toCall, perform, WindowTable.answer]
      rcases secretForDecryption_cases sound starts leaf secretType
          generation configuration with
        ⟨outside, ran⟩ | ⟨error, reached, ran, after, notAll⟩ |
          ⟨mine, inside, reached, ran, after⟩ |
          ⟨notMine, inside, reached, ratchet, secret, ran, after, there,
            derived, serves⟩
      · rw [if_pos outside, bind_of_error ran]
        exact ⟨rfl, sound⟩
      · exact absurd complete.tree notAll
      · rw [if_neg (Nat.not_le.mpr inside), if_pos mine,
          bind_of_error ran]
        exact ⟨rfl, after⟩
      · have derives := complete.chains leaf inside secretType secret derived
        obtain ⟨answers, represents⟩ := secretForDecryption_represents derives
          configuration generation serves
        rw [if_neg (Nat.not_le.mpr inside), if_neg notMine,
          bind_apply, bind_apply, ran]
        simp only [zoom]
        cases ratchetRan : SenderRatchet.secretForDecryption crypto
            generation configuration ratchet with
        | mk result next =>
            cases windowRan : ReplayWindow.accept configuration generation
                (table.windows leaf secretType) with
            | mk answer window =>
                rw [ratchetRan, windowRan] at answers represents
                have moved := after.setWindow there derived represents
                cases result with
                | error error =>
                    cases answer with
                    | error other =>
                        cases answers
                        exact ⟨rfl, moved⟩
                    | ok other => cases answers
                | ok material =>
                    cases answer with
                    | error other => cases answers
                    | ok other =>
                        have same : other = generation := accept_eq_ok
                          (by rw [windowRan])
                        subst same
                        refine ⟨?_, moved⟩
                        have right := Except.ok.inj answers
                        simp only [pure_apply, Except.map,
                          leafMaterial_eq derived, ← right]
  | encrypt leaf secretType =>
      simp only [Request.toCall, perform, WindowTable.answer]
      rcases secretForEncryption_cases sound starts leaf secretType with
        ⟨outside, ran⟩ | ⟨error, reached, ran, after, notAll⟩ |
          ⟨notMine, inside, reached, ran, after⟩ |
          ⟨rfl, inside, reached, ratchet, secret, ran, after, there,
            derived, serves⟩
      · rw [if_pos outside, ran]
        exact ⟨rfl, sound⟩
      · exact absurd complete.tree notAll
      · rw [if_neg (Nat.not_le.mpr inside), if_pos notMine, ran]
        exact ⟨rfl, after⟩
      · have derives := complete.chains leaf inside secretType secret derived
        obtain ⟨-, onChain, counted, bounded⟩ := serves
        rw [if_neg (Nat.not_le.mpr inside), if_neg (not_not_intro rfl),
          read_bind, ran]
        by_cases long : table.sent secretType = u32Max
        · rw [if_pos long, ratchetForward_tooLong crypto
            (counted.trans long)]
          have same := after.setSent there derived onChain (counted ▸ bounded)
          rw [counted, setSent_self] at same
          exact ⟨rfl, same⟩
        · obtain ⟨material, next, forwards⟩ := exists_forwards derives
            onChain (by rw [counted]; omega)
          have moved := after.setSent there derived
            (forwards.onChain onChain) (by
              rw [forwards.generation, counted]
              omega)
          rw [forwards.generation, counted] at moved
          rw [if_neg long, ratchetForward_of_forwards crypto forwards]
          refine ⟨?_, moved⟩
          have right := forwards.materialAt_eq onChain
          rw [counted] at right
          simp only [counted, bind_apply, Throwing.update,
            pure_apply, Except.map, leafMaterial_eq derived, right]

theorem sound_empty (configuration : SenderRatchetConfiguration)
    (secret : Secret) {size : TreeSize} (tall : size.HasHeight top)
    (own : LeafNodeIndex) :
    Sound crypto secret top own
      (tableSpec crypto own configuration.outOfOrderTolerance
        WindowTable.empty)
      (SecretTree.new secret size own) :=
  sound_new secret tall own fun _ _ => ⟨rfl, fun _ => rfl⟩

theorem short_childLabel (place : Nat) :
    (childLabel crypto place).Short crypto := by
  refine ⟨List.mem_cons_self, ?_, ?_⟩
  · show (asBytes ("MLS 1.0 " ++ "tree")).length < 2 ^ 30
    decide
  · show (if place % 2 = 0 then asBytes "left" else asBytes "right").length <
      2 ^ 30
    split
    · decide
    · decide

theorem short_nodePath (depth place : Nat) :
    ∀ label ∈ nodePath crypto depth place, label.Short crypto := by
  induction depth generalizing place with
  | zero => exact List.forall_mem_nil _
  | succ depth induction =>
      rw [nodePath, List.forall_mem_append, List.forall_mem_singleton]
      exact ⟨induction (place / 2), short_childLabel place⟩

theorem short_typeLabel (secretType : SecretType) :
    (typeLabel crypto secretType).Short crypto := by
  refine ⟨List.mem_cons_self, ?_, Nat.two_pow_pos 30⟩
  cases secretType with
  | handshakeSecret =>
      show (asBytes ("MLS 1.0 " ++ "handshake")).length < 2 ^ 30
      decide
  | applicationSecret =>
      show (asBytes ("MLS 1.0 " ++ "application")).length < 2 ^ 30
      decide

/-- A provider that does not fail derives the whole tree. -/
theorem complete_of_reliable (reliable : Reliable crypto) (root : Secret)
    (top : Nat) : Complete crypto root top where
  tree :=
    { nodes := fun depth _ place _ =>
        reliable.isSome_follow (short_nodePath depth place) root
      ratchets := fun leaf _ secretType =>
        reliable.isSome_follow
          (List.forall_mem_append.mpr ⟨short_nodePath top leaf.u32,
            List.forall_mem_singleton.mpr (short_typeLabel secretType)⟩)
          root }
  chains := fun _ _ _ secret _ => derives_of_reliable reliable secret

/--
If no derivation fails, the lazy tree of a member answers every sequence of
requests as the table of windows and counters does: with the same errors, and
with the material of the positions that the table hands out.
-/
theorem secretTree_is_windowTable (secret : Secret) (size : TreeSize)
    (own : LeafNodeIndex)
    (complete : Complete crypto secret (Nat.log2 size.u32))
    (configuration : SenderRatchetConfiguration) (requests : List Request) :
    (runAll
        (fun request => perform crypto (request.toCall configuration))
        requests (SecretTree.new secret size own)).1.map
          (Except.map fun answer => (answer.1, some answer.2)) =
      (runAll
        (WindowTable.answer size.leafCount own configuration)
        requests WindowTable.empty).1.map
          (Except.map fun place => (place.2.2,
            leafMaterial crypto secret (Nat.log2 size.u32) place.1 place.2.1
              place.2.2)) := by
  obtain ⟨top, tall⟩ := size.exists_height
  rw [tall.log2_eq] at complete ⊢
  rw [tall.leafCount_eq]
  have step (request : Request) (tree : SecretTree Secret)
      (table : WindowTable)
      (sound : Sound crypto secret top own
        (tableSpec crypto own configuration.outOfOrderTolerance table)
        tree) :=
    perform_answer complete configuration request sound
  exact runAll_simulation step requests
    (sound_empty configuration secret tall own)

/-- Three members, and the messages that the second one sees. -/
theorem secretTree_symbolic :
    (runAll
        (fun request => perform symbolicCrypto
          (Request.toCall SenderRatchetConfiguration.default request))
        [.decrypt ⟨2⟩ .applicationSecret 1, .encrypt ⟨1⟩ .handshakeSecret,
          .decrypt ⟨2⟩ .applicationSecret 1, .decrypt ⟨1⟩ .handshakeSecret 0,
          .decrypt ⟨7⟩ .handshakeSecret 0]
        (SecretTree.new [] (TreeSize.new 7) ⟨1⟩)).1.map
          (Except.map fun answer => (answer.1, some answer.2)) =
      [.ok (1, leafMaterial symbolicCrypto [] 2 ⟨2⟩ .applicationSecret 1),
        .ok (0, leafMaterial symbolicCrypto [] 2 ⟨1⟩ .handshakeSecret 0),
        .error .secretReuseError, .error .ratchetTypeError,
        .error .indexOutOfBounds] := by
  rw [secretTree_is_windowTable [] (TreeSize.new 7) ⟨1⟩
    (complete_of_reliable reliable_symbolicCrypto [] _)]
  rfl

end Refinement

end Mls4rn.OpenMls.SecretTrees
