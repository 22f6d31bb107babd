import Mls4rn.OpenMls.GroupMessages

/-!
# Secrets that remember

The secrets of an epoch remember what they were used for: every accepted and
every sent message has its position in the history of the secret tree.  A
message whose key is handed out has therefore not been accepted before, and a
key that is handed out has not been used before.

The secrets come from what a commit brought.  Which commits those are is a
parameter, so that the lemmas serve a single client that trusts nobody as well
as clients that agree on their epochs.
-/

namespace Mls4rn.OpenMls.GroupMessages

open Mls4rn.Lib
open Mls4rn.Lib.ByteString
open Mls4rn.Lib.Throwing
open Mls4rn.OpenMls.Framing
open Mls4rn.OpenMls.PastSecrets
open Mls4rn.OpenMls.PrivateMessages
open Mls4rn.OpenMls.SecretTrees
open Mls4rn.OpenMls.SenderRatchet
open Mls4rn.OpenMls.TreeMath

/--
A member, with the group and the leaf it never changes, its signatures, and
what its client may enter an epoch with.
-/
structure Party (Secret : Type) where
  groupId : Bytes
  leaf : LeafNodeIndex
  sign : Bytes → Option Bytes
  Enters : Nat → StagedDiff Secret → Prop

/-- The epoch, the type and the generation of a key of the own ratchets. -/
abbrev OwnKey : Type := Nat × SecretType × Nat

/-! ## Histories of secrets -/

section Spending

variable {Secret : Type} (provider : Provider Secret)

/-- The secrets are those of an epoch that the party may enter. -/
def Derived (party : Party Secret) (epoch : Nat)
    (secrets : MessageSecrets Secret) (root : Secret) (top : Nat) : Prop :=
  ∃ diff, party.Enters epoch diff ∧
    diff.state = .groupMember root secrets.senderDataSecret ∧
    diff.serializedContext = secrets.serializedContext ∧
    diff.treeSize.HasHeight top

/--
The secrets of an epoch have handed out the keys of the messages that were
accepted and sent in this epoch.
-/
structure Spent (party : Party Secret) (accepted : List PrivateMessage)
    (used : List OwnKey) (epoch : Nat)
    (history : List (Call × Nat × RatchetKeyMaterial Secret))
    (secrets : MessageSecrets Secret) : Prop where
  answered : ∃ root top, Derived party epoch secrets root top ∧
    Answered provider.toCrypto root top party.leaf history secrets.secretTree
  accepted : ∀ message ∈ accepted, message.epoch = epoch →
    ∃ data, senderData provider message secrets.senderDataSecret = .ok data ∧
      (data.leafIndex, message.contentType.secretType, data.generation) ∈
        history.map position
  used : ∀ key ∈ used, key.1 = epoch →
    (party.leaf, key.2) ∈ history.map position

/-- What the secrets have handed out is known. -/
def Spends (party : Party Secret) (accepted : List PrivateMessage)
    (used : List OwnKey) (epoch : Nat) (secrets : MessageSecrets Secret) :
    Prop :=
  ∃ history, Spent provider party accepted used epoch history secrets

variable {provider} {party : Party Secret}
  {accepted otherAccepted : List PrivateMessage}
  {used otherUsed : List OwnKey} {epoch : Nat}
  {secrets : MessageSecrets Secret}

/-- Only the messages and keys of the epoch matter. -/
theorem Spends.congr
    (spends : Spends provider party accepted used epoch secrets)
    (sameAccepted : ∀ message ∈ otherAccepted, message.epoch = epoch →
      message ∈ accepted)
    (sameUsed : ∀ key ∈ otherUsed, key.1 = epoch → key ∈ used) :
    Spends provider party otherAccepted otherUsed epoch secrets := by
  obtain ⟨history, spent⟩ := spends
  refine ⟨history, spent.answered, ?_, ?_⟩
  · intro message inside same
    exact spent.accepted message (sameAccepted message inside same) same
  · intro key inside same
    exact spent.used key (sameUsed key inside same) same

/-- What is remembered may be forgotten. -/
theorem Spends.mono
    (spends : Spends provider party accepted used epoch secrets)
    (fewer : otherAccepted ⊆ accepted) (fewerUsed : otherUsed ⊆ used) :
    Spends provider party otherAccepted otherUsed epoch secrets :=
  spends.congr (fun _ inside _ => fewer inside)
    (fun _ inside _ => fewerUsed inside)

/-- Secrets of which nothing was used. -/
theorem spends_splitSecrets {diff : StagedDiff Secret}
    (enters : party.Enters epoch diff)
    {encryptionSecret senderDataSecret : Secret}
    (state : diff.state = .groupMember encryptionSecret senderDataSecret)
    (now : Int)
    (freshAccepted : ∀ message ∈ accepted, message.epoch ≠ epoch)
    (freshUsed : ∀ key ∈ used, key.1 ≠ epoch) :
    Spends provider party accepted used epoch
      (withTimestamp (splitSecrets encryptionSecret senderDataSecret
        diff.serializedContext diff.treeSize party.leaf) now) := by
  obtain ⟨top, tall⟩ := diff.treeSize.exists_height
  refine ⟨[], ⟨encryptionSecret, top, ⟨diff, enters, state, rfl, tall⟩, ?_⟩,
    ?_, ?_⟩
  · exact answered_run encryptionSecret tall party.leaf []
  · intro message inside same
    exact absurd same (freshAccepted message inside)
  · intro key inside same
    exact absurd same (freshUsed key inside)

section Growing

variable {root : Secret} {top : Nat}
  {history : List (Call × Nat × RatchetKeyMaterial Secret)}
  {entry : Call × Nat × RatchetKeyMaterial Secret} {tree : SecretTree Secret}

/-- One more position is handed out. -/
theorem Spent.concat
    (spent : Spent provider party accepted used epoch history secrets)
    (derived : Derived party epoch secrets root top)
    (answered : Answered provider.toCrypto root top party.leaf
      (history ++ [entry]) tree) :
    Spent provider party accepted used epoch (history ++ [entry])
      { secrets with secretTree := tree } := by
  have longer : ∀ place, place ∈ history.map position →
      place ∈ (history ++ [entry]).map position := by
    intro place inside
    rw [List.map_append]
    exact List.mem_append_left _ inside
  refine ⟨⟨root, top, derived, answered⟩, ?_, ?_⟩
  · intro message inside same
    obtain ⟨data, found, there⟩ := spent.accepted message inside same
    exact ⟨data, found, longer _ there⟩
  · intro key inside same
    exact longer _ (spent.used key inside same)

/-- A position that was handed out last was not handed out before. -/
theorem position_fresh
    (answered : Answered provider.toCrypto root top party.leaf
      (history ++ [entry]) tree) :
    position entry ∉ history.map position := by
  have once := answered.once
  rw [List.map_append, List.map_singleton, List.nodup_append] at once
  intro inside
  exact once.2.2 _ inside _ (List.mem_singleton_self _) rfl

/-- The last position is that of a message that was not accepted before. -/
theorem Spent.accept
    (spent : Spent provider party accepted used epoch history secrets)
    (derived : Derived party epoch secrets root top)
    (answered : Answered provider.toCrypto root top party.leaf
      (history ++ [entry]) tree)
    {message : PrivateMessage} {data : MlsSenderData}
    (same : message.epoch = epoch)
    (found : senderData provider message secrets.senderDataSecret = .ok data)
    (place : position entry =
      (data.leafIndex, message.contentType.secretType, data.generation)) :
    message ∉ accepted ∧
      Spends provider party (accepted ++ [message]) used epoch
        { secrets with secretTree := tree } := by
  have grown := spent.concat derived answered
  constructor
  · intro already
    obtain ⟨other, sameData, inside⟩ := spent.accepted message already same
    rw [found] at sameData
    cases sameData
    rw [← place] at inside
    exact position_fresh answered inside
  · refine ⟨history ++ [entry], grown.answered, ?_, grown.used⟩
    intro other inside here
    rcases List.mem_append.mp inside with before | last
    · exact grown.accepted other before here
    · rw [List.mem_singleton] at last
      subst last
      refine ⟨data, found, ?_⟩
      rw [← place]
      simp

/-- The last position is that of a key that was not used before. -/
theorem Spent.use
    (spent : Spent provider party accepted used epoch history secrets)
    (derived : Derived party epoch secrets root top)
    (answered : Answered provider.toCrypto root top party.leaf
      (history ++ [entry]) tree)
    {place : SecretType × Nat}
    (here : position entry = (party.leaf, place)) :
    (epoch, place) ∉ used ∧
      Spends provider party accepted (used ++ [(epoch, place)]) epoch
        { secrets with secretTree := tree } := by
  have grown := spent.concat derived answered
  constructor
  · intro already
    have inside := spent.used (epoch, place) already rfl
    rw [← here] at inside
    exact position_fresh answered inside
  · refine ⟨history ++ [entry], grown.answered, grown.accepted, ?_⟩
    intro key inside same
    rcases List.mem_append.mp inside with before | last
    · exact grown.used key before same
    · rw [List.mem_singleton] at last
      subst last
      rw [← here]
      simp

end Growing

/-- A request to decrypt, in the history of the tree. -/
theorem answered_decryption_triple (root : Secret) (top : Nat)
    (own : LeafNodeIndex)
    (history : List (Call × Nat × RatchetKeyMaterial Secret))
    (leaf : LeafNodeIndex) (secretType : SecretType) (generation : Nat)
    (configuration : SenderRatchetConfiguration) :
    Triple
      (Answered provider.toCrypto root top own history)
      (secretForDecryption provider.toCrypto leaf secretType generation
        configuration)
      (fun material tree => Answered provider.toCrypto root top own
        (history ++ [(.decrypt leaf secretType generation configuration,
          generation, material)]) tree)
      (fun _ => Answered provider.toCrypto root top own history) := by
  intro tree before
  obtain ⟨onValue, onError⟩ := answered_triple history
    (.decrypt leaf secretType generation configuration) tree before
  constructor
  · intro material reached done
    exact onValue (generation, material) reached (bind_of_ok done _)
  · intro error reached failed
    exact onError error reached (bind_of_error failed _)

/-- A request to encrypt, in the history of the tree. -/
theorem answered_encryption_triple (root : Secret) (top : Nat)
    (own : LeafNodeIndex)
    (history : List (Call × Nat × RatchetKeyMaterial Secret))
    (leaf : LeafNodeIndex) (secretType : SecretType) :
    Triple
      (Answered provider.toCrypto root top own history)
      (secretForEncryption provider.toCrypto leaf secretType)
      (fun answer tree => Answered provider.toCrypto root top own
        (history ++ [(.encrypt leaf secretType, answer)]) tree)
      (fun _ => Answered provider.toCrypto root top own history) :=
  answered_triple history (.encrypt leaf secretType)

end Spending

/-! ## Encryption and decryption -/

section Secrets

variable {Secret Proposal Commit : Type} {provider : Provider Secret}
  {formats : BodyFormats Proposal Commit} {party : Party Secret}
  {accepted : List PrivateMessage} {used : List OwnKey} {epoch : Nat}

variable {start : MessageSecrets Secret}

/--
A message whose key is handed out has not been accepted before, and is never
accepted again.
-/
theorem toVerifiableContent_triple
    (spends : Spends provider party accepted used epoch start)
    {message : PrivateMessage} (same : message.epoch = epoch)
    {data : MlsSenderData}
    (found : senderData provider message start.senderDataSecret = .ok data)
    (configuration : SenderRatchetConfiguration) :
    Triple (fun secrets => secrets = start)
      (toVerifiableContent provider formats message data.leafIndex
        configuration data)
      (fun _ reached => message ∉ accepted ∧
        Spends provider party (accepted ++ [message]) used epoch reached)
      (fun _ => Spends provider party accepted used epoch) := by
  obtain ⟨history, spent⟩ := spends
  obtain ⟨root, top, derived, answered⟩ := spent.answered
  have keyed : Triple (fun secrets => secrets = start)
      (onSecretTree MessageDecryptionError.secretTreeError
        (secretForDecryption provider.toCrypto data.leafIndex
          message.contentType.secretType data.generation configuration))
      (fun _ reached => message ∉ accepted ∧
        Spends provider party (accepted ++ [message]) used epoch reached)
      (fun _ => Spends provider party accepted used epoch) := by
    refine triple_zoom (answered_decryption_triple root top
      party.leaf history data.leafIndex message.contentType.secretType
      data.generation configuration) ?_ ?_ ?_
    · rintro secrets rfl
      exact answered
    · rintro secrets material tree rfl after
      exact spent.accept derived after same found rfl
    · rintro secrets error tree rfl after
      exact ⟨history, ⟨root, top, derived, after⟩, spent.accepted, spent.used⟩
  refine triple_bind keyed fun material => ?_
  refine triple_ofExcept_bind (fun content _ => ?_) ?_
  · exact triple_read_bind fun secrets kept =>
      triple_pure fun _ same => same ▸ kept
  · -- The key is gone, although there is no message.
    rintro error secrets ⟨-, kept⟩
    exact kept.mono (List.subset_append_left _ _) (List.Subset.refl _)

/-- A message was sealed with a key of the own ratchet. -/
structure SealedWith (provider : Provider Secret)
    (formats : BodyFormats Proposal Commit) (leaf : LeafNodeIndex)
    (root senderDataSecret : Secret) (top : Nat)
    (content : AuthenticatedContent Proposal Commit) (paddingSize : Nat)
    (generation : Nat) (message : PrivateMessage) (aad : Bytes)
    (material : RatchetKeyMaterial Secret) (reuseGuard : ReuseGuard) :
    Prop where
  aadWritten : privateContentAad.write (((content.content.groupId,
    content.content.epoch), content.content.body.contentType),
      content.content.authenticatedData) = some aad
  keyed : leafMaterial provider.toCrypto root top leaf
    content.content.body.contentType.secretType generation = some material
  isSealed : Sealed provider formats senderDataSecret content leaf paddingSize
    aad generation material reuseGuard message

/-- What is known of the output of an encryption in an epoch. -/
structure Encrypted (provider : Provider Secret)
    (formats : BodyFormats Proposal Commit) (party : Party Secret)
    (accepted : List PrivateMessage) (used : List OwnKey)
    (epoch : Nat) (start : MessageSecrets Secret)
    (content : AuthenticatedContent Proposal Commit)
    (output : Nat × PrivateMessage) (reached : MessageSecrets Secret) :
    Prop where
  same : output.2.epoch = epoch
  fresh : (epoch, output.2.contentType.secretType, output.1) ∉ used
  spends : Spends provider party accepted
    (used ++ [(epoch, output.2.contentType.secretType, output.1)]) epoch
    reached
  carries : ∃ root top paddingSize aad material reuseGuard,
    Derived party epoch start root top ∧
      SealedWith provider formats party.leaf root start.senderDataSecret top
        content paddingSize output.1 output.2 aad material reuseGuard

/-- A key that is handed out has not been used before. -/
theorem encryptContent_triple
    (spends : Spends provider party accepted used epoch start)
    {content : AuthenticatedContent Proposal Commit}
    (sender : content.content.sender = .member party.leaf)
    (same : content.content.epoch = epoch)
    (paddingSize : Nat) (random : Option ReuseGuard) :
    Triple (fun secrets => secrets = start)
      (encryptContent provider formats content paddingSize random)
      (Encrypted provider formats party accepted used epoch start content)
      (fun _ => Spends provider party accepted used epoch) := by
  obtain ⟨history, spent⟩ := spends
  obtain ⟨root, top, derived, answered⟩ := spent.answered
  have keyed : Triple (fun secrets => secrets = start)
      (onSecretTree MessageEncryptionError.secretTreeError
        (secretForEncryption provider.toCrypto party.leaf
          content.content.body.contentType.secretType))
      (fun answer reached =>
        reached.senderDataSecret = start.senderDataSecret ∧
          leafMaterial provider.toCrypto root top party.leaf
            content.content.body.contentType.secretType answer.1 =
              some answer.2 ∧
          (epoch, content.content.body.contentType.secretType, answer.1) ∉
            used ∧
          Spends provider party accepted
            (used ++ [(epoch, content.content.body.contentType.secretType,
              answer.1)]) epoch reached)
      (fun _ => Spends provider party accepted used epoch) := by
    refine triple_zoom (answered_encryption_triple root top
      party.leaf history party.leaf
      content.content.body.contentType.secretType) ?_ ?_ ?_
    · rintro secrets rfl
      exact answered
    · rintro secrets answer tree rfl after
      have right := after.right (.encrypt party.leaf
        content.content.body.contentType.secretType, answer) (by simp)
      exact ⟨rfl, right, spent.use derived after rfl⟩
    · rintro secrets error tree rfl after
      exact ⟨history, ⟨root, top, derived, after⟩, spent.accepted, spent.used⟩
  have asMember : content.content.sender.asMember = some party.leaf := by
    rw [sender]
    rfl
  simp only [encryptContent, asMember]
  refine triple_ofExcept_bind (fun aad aadWritten => ?_) ?_
  · refine triple_bind keyed fun answer => ?_
    refine triple_read_bind fun secrets kept => ?_
    obtain ⟨sameSecret, right, fresh, after⟩ := kept
    refine triple_ofExcept_bind (fun message returned => ?_) ?_
    · obtain ⟨reuseGuard, -, isSealed⟩ :=
        sealed_of_sealContent (mapError_eq_ok_iff.mp returned)
      have aadWritten :=
        boundChecked_eq_ok_iff.mp (mapError_eq_ok_iff.mp aadWritten)
      refine triple_pure ?_
      rintro _ rfl
      refine ⟨isSealed.epoch.trans same, ?_, ?_, root, top, paddingSize, aad,
        answer.2, reuseGuard, derived, aadWritten, right, sameSecret ▸ isSealed⟩
      · rw [isSealed.contentType]
        exact fresh
      · rw [isSealed.contentType]
        exact after
    · rintro error _ rfl
      exact after.mono (List.Subset.refl _) (List.subset_append_left _ _)
  · rintro error secrets rfl
    exact ⟨history, spent⟩

theorem tryFromAuthenticatedContent_triple
    (spends : Spends provider party accepted used epoch start)
    {content : AuthenticatedContent Proposal Commit}
    (sender : content.content.sender = .member party.leaf)
    (same : content.content.epoch = epoch)
    (paddingSize : Nat) (random : Option ReuseGuard) :
    Triple (fun secrets => secrets = start)
      (tryFromAuthenticatedContent provider formats content paddingSize random)
      (fun output reached => content.wireFormat = .privateMessage ∧
        Encrypted provider formats party accepted used epoch start content
          output reached)
      (fun _ => Spends provider party accepted used epoch) := by
  unfold tryFromAuthenticatedContent
  split
  · refine triple_raise ?_
    rintro secrets rfl
    exact spends
  · next wireFormat =>
    exact (encryptContent_triple spends sender same paddingSize random).weaken
      (fun _ same => same) (fun _ _ done => ⟨not_not.mp wireFormat, done⟩)
      (fun _ _ kept => kept)

end Secrets

/-! ## Stores that remember -/

section Stores

variable {Secret : Type} (provider : Provider Secret)

/-- The secrets of the current and of all past epochs remember. -/
structure StoreGuards (party : Party Secret) (accepted : List PrivateMessage)
    (used : List OwnKey) (epoch : Nat) (store : MessageSecretsStore Secret) :
    Prop where
  current : Spends provider party accepted used epoch store.messageSecrets
  past : ∀ tree ∈ store.pastEpochTrees, tree.epoch < epoch ∧
    Spends provider party accepted used tree.epoch tree.messageSecrets ∧
    ∃ diff, party.Enters tree.epoch diff ∧ tree.leaves = diff.members
  distinct : (store.pastEpochTrees.map EpochTree.epoch).Nodup

variable {provider} {party : Party Secret}
  {accepted otherAccepted : List PrivateMessage}
  {used otherUsed : List OwnKey} {epoch : Nat}
  {store : MessageSecretsStore Secret}

section

variable (guards : StoreGuards provider party accepted used epoch store)
include guards

theorem StoreGuards.mono
    (fewer : otherAccepted ⊆ accepted) (fewerUsed : otherUsed ⊆ used) :
    StoreGuards provider party otherAccepted otherUsed epoch store where
  current := guards.current.mono fewer fewerUsed
  past tree inside := by
    obtain ⟨before, spends, leaves⟩ := guards.past tree inside
    exact ⟨before, spends.mono fewer fewerUsed, leaves⟩
  distinct := guards.distinct

/-- Past epochs may be forgotten, and may change their order. -/
theorem StoreGuards.of_subperm
    {smaller : MessageSecretsStore Secret}
    (fewer : smaller.pastEpochTrees.Subperm store.pastEpochTrees)
    (same : smaller.messageSecrets = store.messageSecrets) :
    StoreGuards provider party accepted used epoch smaller where
  current := same ▸ guards.current
  past tree inside := guards.past tree (fewer.subset inside)
  distinct := by
    obtain ⟨between, perm, sublist⟩ := fewer
    have distinct := guards.distinct.sublist (sublist.map EpochTree.epoch)
    exact (perm.map EpochTree.epoch).nodup_iff.mp distinct

/-- What is looked up remembers. -/
theorem StoreGuards.lookUp
    {asked : Nat} (within : asked ≤ epoch) {secrets : MessageSecrets Secret}
    (found : store.messageSecretsForEpoch epoch asked = some secrets) :
    Spends provider party accepted used asked secrets := by
  unfold MessageSecretsStore.messageSecretsForEpoch at found
  split at found
  · obtain ⟨tree, first, rfl⟩ := Option.map_eq_some_iff.mp found
    have inside := List.mem_of_find?_eq_some first
    have same : tree.epoch = asked := by simpa using List.find?_some first
    exact same ▸ (guards.past tree inside).2.1
  · next notBefore =>
    have same : asked = epoch := by omega
    cases found
    exact same ▸ guards.current

end

theorem map_epoch_setFirst (asked : Nat) (secrets : MessageSecrets Secret)
    (trees : List (EpochTree Secret)) :
    (MessageSecretsStore.setFirst asked secrets trees).map EpochTree.epoch =
      trees.map EpochTree.epoch := by
  induction trees with
  | nil => rfl
  | cons tree trees induction =>
      rw [MessageSecretsStore.setFirst]
      split
      · rfl
      · rw [List.map_cons, List.map_cons, induction]

/-- Without repetitions only the entry of the epoch is written. -/
theorem mem_setFirst {asked : Nat} {secrets : MessageSecrets Secret}
    {trees : List (EpochTree Secret)}
    (distinct : (trees.map EpochTree.epoch).Nodup) {tree : EpochTree Secret}
    (inside : tree ∈ MessageSecretsStore.setFirst asked secrets trees) :
    (∃ old ∈ trees, old.epoch = asked ∧
        tree = { old with messageSecrets := secrets }) ∨
      tree.epoch ≠ asked ∧ tree ∈ trees := by
  induction trees with
  | nil => cases inside
  | cons head trees induction =>
      rw [List.map_cons, List.nodup_cons] at distinct
      rw [MessageSecretsStore.setFirst] at inside
      split at inside
      · next here =>
        rcases List.mem_cons.mp inside with rfl | later
        · exact .inl ⟨head, List.mem_cons_self, here, rfl⟩
        · refine .inr ⟨?_, List.mem_cons_of_mem _ later⟩
          intro again
          exact distinct.1
            (List.mem_map.mpr ⟨tree, later, again.trans here.symm⟩)
      · next elsewhere =>
        rcases List.mem_cons.mp inside with rfl | later
        · exact .inr ⟨elsewhere, List.mem_cons_self⟩
        · rcases induction distinct.2 later with
            ⟨old, there, written⟩ | ⟨other, kept⟩
          · exact .inl ⟨old, List.mem_cons_of_mem _ there, written⟩
          · exact .inr ⟨other, List.mem_cons_of_mem _ kept⟩

/-- Secrets of an epoch that remember more are written. -/
theorem StoreGuards.set
    (guards : StoreGuards provider party accepted used epoch store)
    {asked : Nat} (within : asked ≤ epoch) {secrets : MessageSecrets Secret}
    (spends : Spends provider party otherAccepted otherUsed asked secrets)
    (elsewhere : ∀ message ∈ otherAccepted, message.epoch ≠ asked →
      message ∈ accepted)
    (elsewhereUsed : ∀ key ∈ otherUsed, key.1 ≠ asked → key ∈ used) :
    StoreGuards provider party otherAccepted otherUsed epoch
      (store.setMessageSecretsForEpoch epoch asked secrets) := by
  have others : ∀ {other : Nat} {kept : MessageSecrets Secret},
      other ≠ asked → Spends provider party accepted used other kept →
        Spends provider party otherAccepted otherUsed other kept := by
    intro other kept different spends
    refine spends.congr ?_ ?_
    · intro message inside same
      exact elsewhere message inside (same ▸ different)
    · intro key inside same
      exact elsewhereUsed key inside (same ▸ different)
  unfold MessageSecretsStore.setMessageSecretsForEpoch
  split
  · next before =>
    refine ⟨others (by omega) guards.current, ?_, ?_⟩
    · intro tree inside
      rcases mem_setFirst guards.distinct inside with
        ⟨old, there, rfl, rfl⟩ | ⟨different, kept⟩
      · exact ⟨before, spends, (guards.past old there).2.2⟩
      · obtain ⟨earlier, spends, leaves⟩ := guards.past tree kept
        exact ⟨earlier, others different spends, leaves⟩
    · show ((MessageSecretsStore.setFirst _ _ _).map _).Nodup
      rw [map_epoch_setFirst]
      exact guards.distinct
  · next notBefore =>
    have same : asked = epoch := by omega
    refine ⟨same ▸ spends, ?_, guards.distinct⟩
    intro tree inside
    obtain ⟨earlier, kept, leaves⟩ := guards.past tree inside
    exact ⟨earlier, others (by omega) kept, leaves⟩

/-- The secrets of the current epoch are those that are looked up for it. -/
theorem setMessageSecretsForEpoch_self (store : MessageSecretsStore Secret)
    (epoch : Nat) (secrets : MessageSecrets Secret) :
    store.setMessageSecretsForEpoch epoch epoch secrets =
      { store with messageSecrets := secrets } := by
  rw [MessageSecretsStore.setMessageSecretsForEpoch, if_neg (lt_irrefl epoch)]

/-- In a new epoch nothing was accepted or used. -/
theorem StoreGuards.enterEpoch
    (guards : StoreGuards provider party accepted used epoch store)
    (acceptedEpochs : ∀ message ∈ accepted, message.epoch ≤ epoch)
    (usedEpochs : ∀ key ∈ used, key.1 ≤ epoch)
    {left : StagedDiff Secret} (leftEntered : party.Enters epoch left)
    {diff : StagedDiff Secret} (enters : party.Enters (epoch + 1) diff)
    {encryptionSecret senderDataSecret : Secret}
    (state : diff.state = .groupMember encryptionSecret senderDataSecret)
    (now : Int) :
    StoreGuards provider party accepted used (epoch + 1)
      (store.enterEpoch epoch left.members (splitSecrets encryptionSecret
        senderDataSecret diff.serializedContext diff.treeSize party.leaf)
        now) := by
  obtain ⟨fewer, current⟩ := enterEpoch_subperm store epoch left.members
    (splitSecrets encryptionSecret senderDataSecret diff.serializedContext
      diff.treeSize party.leaf) now
  have whole : StoreGuards provider party accepted used (epoch + 1)
      { store with
        messageSecrets := withTimestamp (splitSecrets encryptionSecret
          senderDataSecret diff.serializedContext diff.treeSize party.leaf)
          now
        pastEpochTrees := store.pastEpochTrees ++
          [EpochTree.mk epoch store.messageSecrets left.members] } := by
    refine ⟨?_, ?_, ?_⟩
    · refine spends_splitSecrets enters state now ?_ ?_
      · intro message inside
        exact Nat.ne_of_lt (Nat.lt_succ_of_le (acceptedEpochs message inside))
      · intro key inside
        exact Nat.ne_of_lt (Nat.lt_succ_of_le (usedEpochs key inside))
    · intro tree inside
      rcases List.mem_append.mp inside with before | last
      · obtain ⟨earlier, kept⟩ := guards.past tree before
        exact ⟨Nat.lt_succ_of_lt earlier, kept⟩
      · rw [List.mem_singleton] at last
        subst last
        exact ⟨Nat.lt_succ_self _, guards.current, left, leftEntered, rfl⟩
    · rw [List.map_append, List.map_singleton, List.nodup_append]
      refine ⟨guards.distinct, List.nodup_singleton _, ?_⟩
      rintro other inside _ last rfl
      rw [List.mem_singleton] at last
      obtain ⟨tree, there, rfl⟩ := List.mem_map.mp inside
      exact Nat.ne_of_lt (guards.past tree there).1 last
  exact whole.of_subperm fewer current

end Stores

end Mls4rn.OpenMls.GroupMessages
