import Mls4rn.OpenMls.GroupSecrets

/-!
# Clients that remember

The secrets in memory and those in the storage remember what they were used
for, whatever the client does next, because they are written before a message
is given away or looked at.  A write that fails leaves the storage behind the
group in memory, which does no harm as long as both are in the same epoch.
-/

namespace Mls4rn.OpenMls.GroupMessages

open Mls4rn.Lib
open Mls4rn.Lib.ByteString
open Mls4rn.Lib.Throwing
open Mls4rn.OpenMls.Framing
open Mls4rn.OpenMls.PastSecrets
open Mls4rn.OpenMls.PrivateMessages
open Mls4rn.OpenMls.SecretTrees
open Mls4rn.OpenMls.SenderRatchet
open Mls4rn.OpenMls.TreeMath

/-! ## Sent messages -/

/-- A message that was sent, with its body and the generation of its key. -/
structure SentMessage (Proposal Commit : Type) where
  body : FramedContentBody Proposal Commit
  generation : Nat
  message : PrivateMessage

section Sent

variable {Proposal Commit : Type}

/-- The key of a message. -/
def SentMessage.key (sent : SentMessage Proposal Commit) : OwnKey :=
  (sent.message.epoch, sent.message.contentType.secretType, sent.generation)

/-- The content of a message, as the member at a leaf has framed it. -/
def SentMessage.content (leaf : LeafNodeIndex)
    (sent : SentMessage Proposal Commit) : FramedContent Proposal Commit where
  groupId := sent.message.groupId
  epoch := sent.message.epoch
  sender := .member leaf
  authenticatedData := sent.message.authenticatedData
  body := sent.body

end Sent

/-! ## Clients that remember -/

section Clients

variable {Secret Proposal Commit : Type} (provider : Provider Secret)
  (formats : BodyFormats Proposal Commit)

/-- A sent message, with the signature and the tag of its content. -/
structure CarriesWith (party : Party Secret)
    (sent : SentMessage Proposal Commit) (auth : FramedContentAuthData) :
    Prop where
  id : sent.message.groupId = party.groupId
  fits : auth.Fits sent.body.contentType
  signed : ∃ diff, party.Enters sent.message.epoch diff ∧
    (signedBytes formats .privateMessage (sent.content party.leaf)
      diff.serializedContext).bind party.sign = some auth.signature
  keyed : ∃ diff root senderDataSecret top paddingSize aad material reuseGuard,
    party.Enters sent.message.epoch diff ∧
      diff.state = .groupMember root senderDataSecret ∧
      diff.treeSize.HasHeight top ∧
      SealedWith provider formats party.leaf root senderDataSecret top
        ⟨.privateMessage, sent.content party.leaf, auth⟩ paddingSize
        sent.generation sent.message aad material reuseGuard

/-- The message is signed and sealed as a message of its epoch. -/
def Carries (party : Party Secret) (sent : SentMessage Proposal Commit) :
    Prop :=
  ∃ auth, CarriesWith provider formats party sent auth

/-- An active group has a store that remembers. -/
structure GroupGuards (party : Party Secret) (accepted : List PrivateMessage)
    (used : List OwnKey) (group : MlsGroup Secret) : Prop where
  id : group.groupId = party.groupId
  leaf : group.ownLeafIndex = party.leaf
  pending : ∀ staged, group.groupState = .pendingCommit staged →
    staged.epoch = group.epoch + 1
  current : group.isActive = true → ∃ diff, party.Enters group.epoch diff ∧
    group.members = diff.members ∧ group.treeSize = diff.treeSize ∧
    group.serializedContext = diff.serializedContext
  store : group.isActive = true →
    StoreGuards provider party accepted used group.epoch group.store

/-- So do the group in memory and the group in the storage. -/
structure Guarded (party : Party Secret) (accepted : List PrivateMessage)
    (sent : List (SentMessage Proposal Commit)) (client : Client Secret) :
    Prop where
  memory : GroupGuards provider party accepted (sent.map SentMessage.key)
    client.group
  storage : GroupGuards provider party accepted (sent.map SentMessage.key)
    client.stored
  epochs : client.stored.epoch = client.group.epoch
  active : client.stored.isActive = client.group.isActive
  acceptedEpochs : ∀ message ∈ accepted, message.epoch ≤ client.group.epoch
  sentEpochs : ∀ entry ∈ sent, entry.message.epoch ≤ client.group.epoch
  acceptedOnce : accepted.Nodup
  usedOnce : (sent.map SentMessage.key).Nodup
  carries : ∀ entry ∈ sent, Carries provider formats party entry

variable {provider formats} {party : Party Secret}
  {accepted : List PrivateMessage} {sent : List (SentMessage Proposal Commit)}
  {client : Client Secret}

theorem isActive_iff {group : MlsGroup Secret} :
    group.isActive = true ↔ group.groupState ≠ .inactive := by
  unfold MlsGroup.isActive
  cases group.groupState with
  | pendingCommit staged => simp
  | operational => simp
  | inactive => simp

theorem isActive_of_groupState {group other : MlsGroup Secret}
    (same : other.groupState = group.groupState) :
    other.isActive = group.isActive := by
  rw [MlsGroup.isActive, MlsGroup.isActive, same]

variable {store : MessageSecretsStore Secret}

/-- The store of the group is changed. -/
theorem GroupGuards.withStore {group : MlsGroup Secret} {used : List OwnKey}
    (guards : GroupGuards provider party accepted used group)
    {otherAccepted : List PrivateMessage} {otherUsed : List OwnKey}
    (changed : group.isActive = true →
      StoreGuards provider party otherAccepted otherUsed group.epoch store) :
    GroupGuards provider party otherAccepted otherUsed
      { group with store := store } where
  id := guards.id
  leaf := guards.leaf
  pending := guards.pending
  current := guards.current
  store := changed

section

variable (guarded : Guarded provider formats party accepted sent client)
include guarded

/-- The store in memory is changed, and not written. -/
theorem Guarded.withMemory
    (changed : client.group.isActive = true →
      StoreGuards provider party accepted (sent.map SentMessage.key)
        client.group.epoch store) :
    Guarded provider formats party accepted sent
      { client with group := { client.group with store := store } } :=
  { guarded with memory := guarded.memory.withStore changed }

/-- The store in memory is changed and written. -/
theorem Guarded.writeMessageSecrets
    {otherAccepted : List PrivateMessage}
    {otherSent : List (SentMessage Proposal Commit)} {faults : List Bool}
    (changed : client.group.isActive = true →
      StoreGuards provider party otherAccepted
        (otherSent.map SentMessage.key) client.group.epoch store)
    (acceptedEpochs : ∀ message ∈ otherAccepted,
      message.epoch ≤ client.group.epoch)
    (sentEpochs : ∀ entry ∈ otherSent,
      entry.message.epoch ≤ client.group.epoch)
    (acceptedOnce : otherAccepted.Nodup)
    (usedOnce : (otherSent.map SentMessage.key).Nodup)
    (carries : ∀ entry ∈ otherSent, Carries provider formats party entry) :
    Guarded provider formats party otherAccepted otherSent
      { group := { client.group with store := store }
        stored := { client.stored with store := store }
        faults := faults } where
  memory := guarded.memory.withStore changed
  storage := guarded.storage.withStore fun active => by
    rw [guarded.epochs]
    rw [guarded.active] at active
    exact changed active
  epochs := guarded.epochs
  active := guarded.active
  acceptedEpochs := acceptedEpochs
  sentEpochs := sentEpochs
  acceptedOnce := acceptedOnce
  usedOnce := usedOnce
  carries := carries

/-- It is of no concern whether the storage will fail. -/
theorem Guarded.withFaults (faults : List Bool) :
    Guarded provider formats party accepted sent
      { client with faults := faults } :=
  { guarded with }

/-- What was not accepted in the end is forgotten. -/
theorem Guarded.mono {fewer : List PrivateMessage}
    (part : fewer.Sublist accepted) :
    Guarded provider formats party fewer sent client :=
  { guarded with
    memory :=
      { guarded.memory with
        store := fun active => (guarded.memory.store active).mono part.subset
          (List.Subset.refl _) }
    storage :=
      { guarded.storage with
        store := fun active => (guarded.storage.store active).mono part.subset
          (List.Subset.refl _) }
    acceptedEpochs := fun message inside =>
      guarded.acceptedEpochs message (part.subset inside)
    acceptedOnce := guarded.acceptedOnce.sublist part }

/-- The data of the next message are no part of what is remembered. -/
theorem Guarded.withAad (aad : Bytes) :
    Guarded provider formats party accepted sent
      { client with group := { client.group with aad := aad } } :=
  { guarded with memory := { guarded.memory with } }

/-- Neither are the proposals. -/
theorem Guarded.withProposals (inMemory stored : Bool) :
    Guarded provider formats party accepted sent
      { client with
        group := { client.group with hasProposals := inMemory }
        stored := { client.stored with hasProposals := stored } } :=
  { guarded with
    memory := { guarded.memory with }
    storage := { guarded.storage with } }

theorem Guarded.restart
    :
    Guarded provider formats party accepted sent client.restart := by
  have same : client.restart.group.epoch = client.group.epoch :=
    guarded.epochs
  refine
    { guarded with
      memory := { guarded.storage with }
      epochs := rfl
      active := rfl
      acceptedEpochs := ?_
      sentEpochs := ?_ }
  · rw [same]
    exact guarded.acceptedEpochs
  · rw [same]
    exact guarded.sentEpochs

/-- An active group stays active, and a pending commit is for the next epoch. -/
theorem Guarded.withGroupState
    (active : client.group.isActive = true) {state : MlsGroupState Secret}
    (stays : state ≠ .inactive)
    (pending : ∀ staged, state = .pendingCommit staged →
      staged.epoch = client.group.epoch + 1) :
    Guarded provider formats party accepted sent
      { client with group := { client.group with groupState := state } } :=
  { guarded with
    memory :=
      { guarded.memory with
        pending := pending
        current := fun _ => guarded.memory.current active
        store := fun _ => guarded.memory.store active }
    active := by
      rw [guarded.active, active]
      exact (isActive_iff.mpr stays).symm }

theorem Guarded.writeGroupState
    :
    Guarded provider formats party accepted sent
      { client with
        stored :=
          { client.stored with groupState := client.group.groupState } } := by
  have before (active : client.group.isActive = true) :
      client.stored.isActive = true := guarded.active.trans active
  exact
    { guarded with
      storage :=
        { guarded.storage with
          pending := fun staged same =>
            guarded.epochs.symm ▸ guarded.memory.pending staged same
          current := fun active => guarded.storage.current (before active)
          store := fun active => guarded.storage.store (before active) }
      active := rfl }

end

/-! ## Writes -/

section Writes

variable {Error : Type} {error : Error}
  {part : MlsGroup Secret → MlsGroup Secret → MlsGroup Secret}
  {before : Client Secret → Prop} {returned : Unit → Client Secret → Prop}
  {thrown : Error → Client Secret → Prop}

theorem write_of_fault {client : Client Secret}
    (fault : client.faults.headD false = true) :
    write error part client =
      (.error error, { client with faults := client.faults.tail }) :=
  if_pos fault

theorem write_of_no_fault {client : Client Secret}
    (works : ¬client.faults.headD false = true) :
    write error part client =
      (.ok (),
        { group := client.group
          stored := part client.group client.stored
          faults := client.faults.tail }) :=
  if_neg works

theorem triple_write
    (ok : ∀ client, before client → returned ()
      { group := client.group
        stored := part client.group client.stored
        faults := client.faults.tail })
    (failed : ∀ client, before client →
      thrown error { client with faults := client.faults.tail }) :
    Triple before (write error part) returned thrown := by
  intro client start
  by_cases fault : client.faults.headD false = true
  · exact ends_error (write_of_fault fault) (failed client start)
  · exact ends_ok (write_of_no_fault fault) (ok client start)

theorem triple_inMemory {change : MlsGroup Secret → MlsGroup Secret}
    (holds : ∀ client, before client →
      returned () { client with group := change client.group }) :
    Triple before (inMemory change) returned thrown :=
  triple_update holds

end Writes

section Steps

variable {Error : Type} {Also : MlsGroup Secret → Prop}
  {thrown : Error → Client Secret → Prop}

theorem resetAad_triple
    (stays : ∀ group, Also group → Also { group with aad := [] }) :
    Triple
      (fun client => Guarded provider formats party accepted sent client ∧
        Also client.group)
      resetAad
      (fun _ client => Guarded provider formats party accepted sent client ∧
        Also client.group) thrown :=
  triple_inMemory fun _ kept => ⟨kept.1.withAad [], stays _ kept.2⟩

theorem storePendingProposal_triple (error : Error)
    (stays : ∀ group, Also group → Also { group with hasProposals := true }) :
    Triple
      (fun client => Guarded provider formats party accepted sent client ∧
        Also client.group)
      (storePendingProposal error)
      (fun _ client => Guarded provider formats party accepted sent client ∧
        Also client.group)
      (fun _ => Guarded provider formats party accepted sent) := by
  have written : Triple
      (fun client => Guarded provider formats party accepted sent client ∧
        Also client.group)
      (write error fun _ stored => { stored with hasProposals := true })
      (fun _ client => Guarded provider formats party accepted sent client ∧
        Also client.group)
      (fun _ => Guarded provider formats party accepted sent) :=
    triple_write
      (fun _ kept => ⟨(kept.1.withProposals _ true).withFaults _, kept.2⟩)
      fun _ kept => kept.1.withFaults _
  exact triple_bind written fun _ => triple_inMemory fun _ kept =>
    ⟨kept.1.withProposals true _, stays _ kept.2⟩

theorem writeGroupState_triple (error : Error) :
    Triple
      (fun client => Guarded provider formats party accepted sent client ∧
        Also client.group)
      (writeGroupState error)
      (fun _ client => Guarded provider formats party accepted sent client ∧
        Also client.group)
      (fun _ => Guarded provider formats party accepted sent) :=
  triple_write
    (fun _ kept => ⟨kept.1.writeGroupState.withFaults _, kept.2⟩)
    fun _ kept => kept.1.withFaults _

/-- Past epochs are forgotten. -/
theorem changeStore_triple
    {change : MessageSecretsStore Secret → MessageSecretsStore Secret}
    (fewer : ∀ store, (change store).pastEpochTrees.Subperm
      store.pastEpochTrees)
    (same : ∀ store, (change store).messageSecrets = store.messageSecrets) :
    Triple (Guarded provider formats party accepted sent)
      (changeStore change)
      (fun _ => Guarded provider formats party accepted sent)
      (fun _ => Guarded provider formats party accepted sent) := by
  refine triple_of_each fun start guarded => ?_
  have changed (active : start.group.isActive = true) :=
    (guarded.memory.store active).of_subperm (fewer _) (same _)
  refine triple_update_bind (triple_write ?_ ?_)
  · rintro client rfl
    exact guarded.writeMessageSecrets changed guarded.acceptedEpochs
      guarded.sentEpochs guarded.acceptedOnce guarded.usedOnce guarded.carries
  · rintro client rfl
    exact (guarded.withMemory changed).withFaults _

end Steps

/-! ## Merges -/

/-- A commit that the party may merge. -/
def Party.Admits (party : Party Secret) (epoch : Nat)
    (diff : StagedDiff Secret) : Prop :=
  diff.state = .publicState ∨ party.Enters epoch diff

/-- A client with these groups in memory and in the storage. -/
def Holds (group stored : MlsGroup Secret) (client : Client Secret) : Prop :=
  client.group = group ∧ client.stored = stored

theorem holds_inMemory {group stored : MlsGroup Secret}
    {thrown : Failure → Client Secret → Prop}
    (change : MlsGroup Secret → MlsGroup Secret) :
    Triple (Holds group stored) (inMemory change)
      (fun _ => Holds (change group) stored) thrown :=
  triple_inMemory fun _ holds => ⟨congrArg change holds.1, holds.2⟩

theorem holds_write {group stored : MlsGroup Secret}
    (part : MlsGroup Secret → MlsGroup Secret → MlsGroup Secret) :
    Triple (Holds group stored) (write .mergeCommitError part)
      (fun _ => Holds group (part group stored))
      (fun error _ => error = Failure.mergeCommitError) := by
  refine triple_write ?_ fun _ _ => rfl
  rintro client ⟨rfl, rfl⟩
  exact ⟨rfl, rfl⟩

/-- The group state once no commit is pending. -/
def MlsGroupState.cleared : MlsGroupState Secret → MlsGroupState Secret
  | .pendingCommit _ => .operational
  | .operational => .operational
  | .inactive => .inactive

theorem cleared_ne_pendingCommit (state : MlsGroupState Secret)
    (staged : StagedCommit Secret) : state.cleared ≠ .pendingCommit staged := by
  cases state with
  | pendingCommit other => simp [MlsGroupState.cleared]
  | operational => simp [MlsGroupState.cleared]
  | inactive => simp [MlsGroupState.cleared]

theorem cleared_eq_inactive_iff {state : MlsGroupState Secret} :
    state.cleared = .inactive ↔ state = .inactive := by
  cases state with
  | pendingCommit staged => simp [MlsGroupState.cleared]
  | operational => simp [MlsGroupState.cleared]
  | inactive => simp [MlsGroupState.cleared]

/-- The group in memory behind a merge that was not cut off. -/
def MlsGroup.merged (staged : StagedCommit Secret) (now : Int)
    (group : MlsGroup Secret) : MlsGroup Secret :=
  match staged.state with
  | .publicState => { group.mergeDiff staged with groupState := .inactive }
  | .groupMember encryptionSecret senderDataSecret =>
      { (group.replaceMessageSecrets staged encryptionSecret senderDataSecret
          now).mergeDiff staged with
        groupState := group.groupState.cleared
        hasProposals := false }

/-- What was written to the storage of the group in memory. -/
structure Mirrors (group before stored : MlsGroup Secret) : Prop where
  id : stored.groupId = before.groupId
  leaf : stored.ownLeafIndex = before.ownLeafIndex
  epoch : stored.epoch = group.epoch
  context : stored.serializedContext = group.serializedContext
  members : stored.members = group.members
  treeSize : stored.treeSize = group.treeSize
  groupState : stored.groupState = group.groupState
  store : stored.store = group.store

theorem clearPending_triple (state : MlsGroupState Secret)
    (group stored : MlsGroup Secret) :
    Triple
      (Holds { group with groupState := state }
        { stored with groupState := state })
      (clearPending state)
      (fun _ => Holds { group with groupState := state.cleared }
        { stored with groupState := state.cleared })
      (fun error _ => error = Failure.mergeCommitError) := by
  cases state with
  | pendingCommit staged =>
      exact triple_bind (holds_inMemory _) fun _ => holds_write _
  | operational => exact triple_pure fun _ holds => holds
  | inactive => exact triple_pure fun _ holds => holds

theorem clearPendingCommit_triple (group stored : MlsGroup Secret)
    (written : stored.groupState = group.groupState) :
    Triple (Holds group stored) clearPendingCommit
      (fun _ => Holds { group with groupState := group.groupState.cleared }
        { stored with groupState := group.groupState.cleared })
      (fun error _ => error = Failure.mergeCommitError) := by
  refine triple_read_bind fun start holds => ?_
  rw [holds.1]
  refine (clearPending_triple group.groupState group stored).strengthen ?_
  rintro client rfl
  have same : { stored with groupState := group.groupState } = stored := by
    rw [← written]
  rw [same]
  exact holds

/-- A merge that is not cut off. -/
theorem merged_triple (staged : StagedCommit Secret) (now : Int)
    (group stored : MlsGroup Secret) :
    Triple (Holds group stored) (mergeStagedCommit staged now)
      (fun _ client => client.group = group.merged staged now ∧
        Mirrors client.group stored client.stored)
      (fun error _ => error = Failure.mergeCommitError) := by
  refine triple_bind (holds_inMemory _) fun _ =>
    triple_bind (holds_write _) fun _ => ?_
  unfold MlsGroup.merged
  cases staged.state with
  | publicState =>
      refine triple_bind
        (triple_bind (holds_inMemory _) fun _ =>
          triple_bind (holds_write _) fun _ =>
            triple_bind (holds_write _) fun _ => holds_write _)
        fun _ => ?_
      refine (clearPendingCommit_triple _ _ ?_).weaken
        (fun _ holds => holds) ?_ fun _ _ wrong => wrong
      · rfl
      · rintro _ client ⟨here, there⟩
        rw [here, there]
        exact ⟨rfl, rfl, rfl, rfl, rfl, rfl, rfl, rfl, rfl⟩
  | groupMember encryptionSecret senderDataSecret =>
      refine triple_bind
        (triple_bind (holds_inMemory _) fun _ =>
          triple_bind (holds_inMemory _) fun _ =>
            triple_bind (holds_write _) fun _ =>
              triple_bind (holds_write _) fun _ =>
                triple_bind (holds_write _) fun _ =>
                  holds_inMemory _)
        fun _ => ?_
      refine (clearPendingCommit_triple _ _ ?_).weaken
        (fun _ holds => holds) ?_ fun _ _ wrong => wrong
      · rfl
      · rintro _ client ⟨here, there⟩
        rw [here, there]
        exact ⟨rfl, rfl, rfl, rfl, rfl, rfl, rfl, rfl, rfl⟩

theorem GroupGuards.of_mirrors {group before stored : MlsGroup Secret}
    {used : List OwnKey}
    (guards : GroupGuards provider party accepted used group)
    (mirrors : Mirrors group before stored)
    (id : before.groupId = party.groupId)
    (leaf : before.ownLeafIndex = party.leaf) :
    GroupGuards provider party accepted used stored := by
  have active : stored.isActive = group.isActive :=
    isActive_of_groupState mirrors.groupState
  refine ⟨mirrors.id.trans id, mirrors.leaf.trans leaf, ?_, ?_, ?_⟩
  · rw [mirrors.groupState, mirrors.epoch]
    exact guards.pending
  · rw [active, mirrors.epoch, mirrors.members, mirrors.treeSize,
      mirrors.context]
    exact guards.current
  · rw [active, mirrors.epoch, mirrors.store]
    exact guards.store

/-- The group behind a merge of a commit for the next epoch. -/
theorem Guarded.groupGuards_merged
    (guarded : Guarded provider formats party accepted sent client)
    {staged : StagedCommit Secret}
    (next : staged.epoch = client.group.epoch + 1)
    (admitted : party.Admits staged.epoch staged.toStagedDiff) (now : Int) :
    GroupGuards provider party accepted (sent.map SentMessage.key)
        (client.group.merged staged now) ∧
      (client.group.merged staged now).epoch = client.group.epoch + 1 := by
  unfold MlsGroup.merged
  cases state : staged.state with
  | publicState =>
      refine ⟨⟨guarded.memory.id, guarded.memory.leaf, ?_, ?_, ?_⟩, next⟩
      · intro other pending
        cases pending
      · intro active
        cases active
      · intro active
        cases active
  | groupMember encryptionSecret senderDataSecret =>
      have enters : party.Enters staged.epoch staged.toStagedDiff := by
        refine admitted.resolve_left ?_
        rw [state]
        intro wrong
        cases wrong
      refine ⟨⟨guarded.memory.id, guarded.memory.leaf, ?_, ?_, ?_⟩, next⟩
      · intro other pending
        exact absurd pending (cleared_ne_pendingCommit _ other)
      · intro _
        exact ⟨staged.toStagedDiff, enters, rfl, rfl, rfl⟩
      · intro active
        have before : client.group.isActive = true := by
          rw [isActive_iff] at active ⊢
          exact fun gone => active (cleared_eq_inactive_iff.mpr gone)
        obtain ⟨left, leftEntered, members, -, -⟩ :=
          guarded.memory.current before
        dsimp only [MlsGroup.mergeDiff, MlsGroup.replaceMessageSecrets]
        rw [next, guarded.memory.leaf, members]
        refine (guarded.memory.store before).enterEpoch
          guarded.acceptedEpochs ?_ leftEntered (next ▸ enters) state now
        intro key inside
        obtain ⟨entry, there, rfl⟩ := List.mem_map.mp inside
        exact guarded.sentEpochs entry there

/-- A commit for the next epoch is merged. -/
theorem mergeStagedCommit_triple (staged : StagedCommit Secret) (now : Int) :
    Triple
      (fun client => Guarded provider formats party accepted sent client ∧
        staged.epoch = client.group.epoch + 1 ∧
          party.Admits staged.epoch staged.toStagedDiff)
      (mergeStagedCommit staged now)
      (fun _ => Guarded provider formats party accepted sent)
      (fun error _ => error = Failure.mergeCommitError) := by
  refine triple_of_each fun start ⟨guarded, next, admitted⟩ => ?_
  refine (merged_triple staged now start.group start.stored).weaken
    (fun _ same => same ▸ ⟨rfl, rfl⟩) ?_ fun _ _ wrong => wrong
  rintro _ client ⟨here, mirrors⟩
  obtain ⟨guards, epoch⟩ := guarded.groupGuards_merged next admitted now
  rw [← here] at guards epoch
  have later {other : Nat} (before : other ≤ start.group.epoch) :
      other ≤ client.group.epoch := by
    rw [epoch]
    exact Nat.le_succ_of_le before
  exact
    { memory := guards
      storage := guards.of_mirrors mirrors guarded.storage.id
        guarded.storage.leaf
      epochs := mirrors.epoch
      active := isActive_of_groupState mirrors.groupState
      acceptedEpochs := fun message inside =>
        later (guarded.acceptedEpochs message inside)
      sentEpochs := fun entry inside => later (guarded.sentEpochs entry inside)
      acceptedOnce := guarded.acceptedOnce
      usedOnce := guarded.usedOnce
      carries := guarded.carries }

end Clients

end Mls4rn.OpenMls.GroupMessages
