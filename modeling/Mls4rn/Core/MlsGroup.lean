import Mls4rn.Lib.ByteString
import Mls4rn.Lib.Throwing
import Mls4rn.Lib.Utf16

/-!
# The group state of OpenMLS

An `MlsGroup` holds the state of the current epoch, the store of pending
proposals and a flag that says whether a commit of its own is still to be
merged or the member has been evicted.  What the library computes with keys
and trees is left open in `OpenMls`; the order of the checks, the pushes to the
proposal store and the changes of the flag are those of the vendored source.
-/

namespace Mls4rn.Core.MlsGroup

open Mls4rn.Lib
open Mls4rn.Lib.ByteString
open Mls4rn.Lib.Utf16

/-! ## What the library computes -/

/-- What a binding throws: an error with a message, or a panic. -/
inductive Thrown where
  | jsError (message : CodeUnits)
  | trap
deriving DecidableEq, Repr

/-- `StagedCommit`: the epoch it leads to and `self_removed`. -/
structure StagedCommit (Epoch : Type) where
  epoch : Epoch
  selfRemoved : Bool
deriving DecidableEq, Repr

/-- The contents of a commit that was built and staged. -/
structure CommitBundle (Epoch : Type) where
  commit : Bytes
  welcome : Option Bytes
  staged : StagedCommit Epoch
deriving DecidableEq, Repr

/-- `MlsMessageBodyIn`. -/
inductive MessageBody where
  | publicMessage
  | privateMessage
  | welcome
  | groupInfo
  | keyPackage
deriving DecidableEq, Repr

/-- `ProcessedMessageContent`. -/
inductive ProcessedContent (Epoch Proposal : Type) where
  | applicationMessage (bytes : Bytes)
  | proposalMessage (proposal : Proposal)
  | externalJoinProposalMessage (proposal : Proposal)
  | stagedCommitMessage (staged : StagedCommit Epoch)
  | ownPendingCommit
  | ownPrivateMessage
deriving DecidableEq, Repr

/-- `MlsGroupState`. -/
inductive GroupState (Epoch : Type) where
  | pendingCommit (staged : StagedCommit Epoch)
  | operational
  | inactive
deriving DecidableEq, Repr

/-- `MlsGroup`. -/
structure Group (Epoch Proposal : Type) where
  epoch : Epoch
  proposals : List Proposal
  state : GroupState Epoch
deriving DecidableEq, Repr

/-- `is_active`. -/
def Group.isActive {Epoch Proposal : Type} (group : Group Epoch Proposal) :
    Bool :=
  match group.state with
  | .inactive => false
  | _ => true

/--
The computations of OpenMLS that the group state depends on.  `Member` is the
identity a group is used with and `Seed` the randomness drawn by a call.  A
commit that covers an add carries a welcome, since `filter_proposals` keeps
every add, and the bytes of a message start with its version.
-/
structure OpenMls (Member Epoch KeyPackage Proposal Seed : Type) where
  keyPackageFromBytes (bytes : Bytes) : Except CodeUnits KeyPackage
  members (epoch : Epoch) : List (Nat × Bytes)
  createAdd (own : Member) (epoch : Epoch) (keyPackage : KeyPackage)
    (seed : Seed) : Except CodeUnits (Proposal × Bytes)
  createRemove (own : Member) (epoch : Epoch) (leaf : Nat) (seed : Seed) :
    Except CodeUnits (Proposal × Bytes)
  createUpdate (own : Member) (epoch : Epoch) (seed : Seed) :
    Except CodeUnits (Proposal × Bytes)
  createLeave (own : Member) (epoch : Epoch) (seed : Seed) :
    Except CodeUnits (Proposal × Bytes)
  buildCommit (own : Member) (epoch : Epoch) (pending : List Proposal)
    (seed : Seed) : Except CodeUnits (CommitBundle Epoch)
  exportRatchetTree (epoch : Epoch) : Bytes
  messageBody (message : Bytes) : Option MessageBody
  processBody (own : Member) (group : Group Epoch Proposal)
    (message : Bytes) : Except CodeUnits (ProcessedContent Epoch Proposal)
  unknownMember : CodeUnits
  pendingCommit : CodeUnits
  useAfterEviction : CodeUnits
  noWelcome : CodeUnits
  welcome_of_add :
    ∀ {own epoch keyPackage seed proposal message builder later pending
        again bundle},
      createAdd own epoch keyPackage seed = .ok (proposal, message) →
        proposal ∈ pending →
          buildCommit builder later pending again = .ok bundle →
            bundle.welcome.isSome = true
  createAdd_ne :
    ∀ {own epoch keyPackage seed proposal message},
      createAdd own epoch keyPackage seed = .ok (proposal, message) →
        message ≠ []
  createRemove_ne :
    ∀ {own epoch leaf seed proposal message},
      createRemove own epoch leaf seed = .ok (proposal, message) →
        message ≠ []
  createUpdate_ne :
    ∀ {own epoch seed proposal message},
      createUpdate own epoch seed = .ok (proposal, message) → message ≠ []

/-! ## The operations -/

variable {Member Epoch KeyPackage Proposal Seed Value : Type}

/-- An operation on a group: it returns, or throws. -/
abbrev GroupAction (Epoch Proposal Value : Type) : Type :=
  Throwing (Group Epoch Proposal) Thrown Value

/-- A `Result` of the library, with its error turned into a `JsError`. -/
def ofResult (result : Except CodeUnits Value) :
    GroupAction Epoch Proposal Value :=
  Throwing.ofExcept (result.mapError .jsError)

section Operations

variable
  (openMls : OpenMls Member Epoch KeyPackage Proposal Seed)
  (own : Member) (seed : Seed)

/-- `is_operational`. -/
def isOperational : GroupAction Epoch Proposal Unit :=
  fun group =>
    match group.state with
    | .pendingCommit _ => (.error (.jsError openMls.pendingCommit), group)
    | .inactive => (.error (.jsError openMls.useAfterEviction), group)
    | .operational => (.ok (), group)

/-- `proposal_store_mut().add`. -/
def store (proposal : Proposal) : GroupAction Epoch Proposal Unit :=
  Throwing.update fun group =>
    { group with proposals := group.proposals ++ [proposal] }

/-- The common course of the `propose` functions: check, make and queue. -/
def propose (create : Epoch → Except CodeUnits (Proposal × Bytes)) :
    GroupAction Epoch Proposal Bytes := do
  isOperational openMls
  let (proposal, message) ← ofResult (create (← Throwing.read).epoch)
  store proposal
  return message

/-- `propose_add_member`. -/
def proposeAddMember (keyPackage : KeyPackage) :
    GroupAction Epoch Proposal Bytes :=
  propose openMls fun epoch => openMls.createAdd own epoch keyPackage seed

/-- The leaf of the first member with a credential. -/
def leafOf (epoch : Epoch) (name : Bytes) : Option Nat :=
  ((openMls.members epoch).find? fun entry =>
    decide (entry.2 = name)).map Prod.fst

/-- `propose_remove_member_by_credential`. -/
def proposeRemoveMemberByCredential (name : Bytes) :
    GroupAction Epoch Proposal Bytes := do
  match leafOf openMls (← Throwing.read).epoch name with
  | some leaf =>
      propose openMls fun epoch => openMls.createRemove own epoch leaf seed
  | none => Throwing.raise (.jsError openMls.unknownMember)

/-- `propose_self_update`. -/
def proposeSelfUpdate : GroupAction Epoch Proposal Bytes :=
  propose openMls fun epoch => openMls.createUpdate own epoch seed

/-- `leave_group`: propose the removal of the own leaf. -/
def leaveGroup : GroupAction Epoch Proposal Bytes :=
  propose openMls fun epoch => openMls.createLeave own epoch seed

/-- `commit_to_pending_proposals`: build the commit and stage it. -/
def commitToPendingProposals :
    GroupAction Epoch Proposal (Bytes × Option Bytes) := do
  isOperational openMls
  let group ← Throwing.read
  let bundle ← ofResult
    (openMls.buildCommit own group.epoch group.proposals seed)
  Throwing.update fun group =>
    { group with state := .pendingCommit bundle.staged }
  return (bundle.commit, bundle.welcome)

/-- `merge_staged_commit`; an evicted member keeps its proposal store. -/
def mergeStagedCommit (staged : StagedCommit Epoch) :
    GroupAction Epoch Proposal Unit :=
  Throwing.update fun group =>
    if staged.selfRemoved then
      { group with epoch := staged.epoch, state := .inactive }
    else
      { epoch := staged.epoch, proposals := [], state := .operational }

/-- `merge_pending_commit`. -/
def mergePendingCommit : GroupAction Epoch Proposal Unit := do
  match (← Throwing.read).state with
  | .pendingCommit staged => mergeStagedCommit staged
  | .inactive => Throwing.raise (.jsError openMls.useAfterEviction)
  | .operational => return ()

/-- The check of `unprotect_message` that the member is still in the group. -/
def requireActive : GroupAction Epoch Proposal Unit :=
  fun group =>
    if group.isActive then (.ok (), group)
    else (.error (.jsError openMls.useAfterEviction), group)

/-- What the bindings do with the content of a processed message. -/
def applyContent :
    ProcessedContent Epoch Proposal → GroupAction Epoch Proposal Bytes
  | .applicationMessage bytes => return bytes
  | .proposalMessage proposal => do
      store proposal
      return []
  | .externalJoinProposalMessage proposal => do
      store proposal
      return []
  | .stagedCommitMessage staged => do
      mergeStagedCommit staged
      return []
  | .ownPendingCommit => do
      mergePendingCommit openMls
      return []
  | .ownPrivateMessage => return []

/-- `process_message` of the library, then what the bindings do. -/
def processProtocolMessage (message : Bytes) :
    GroupAction Epoch Proposal Bytes := do
  requireActive openMls
  let group ← Throwing.read
  applyContent openMls (← ofResult (openMls.processBody own group message))

/-- `process_message` of the bindings, with its `unwrap` and `todo!`. -/
def processMessage (message : Bytes) : GroupAction Epoch Proposal Bytes :=
  match openMls.messageBody message with
  | some .publicMessage => processProtocolMessage openMls own message
  | some .privateMessage => processProtocolMessage openMls own message
  | some .welcome | some .groupInfo | some .keyPackage | none =>
      Throwing.raise .trap

/-! ## What each step can do -/

/-- The group with one more pending proposal. -/
def Group.queue (group : Group Epoch Proposal) (proposal : Proposal) :
    Group Epoch Proposal :=
  { group with proposals := group.proposals ++ [proposal] }

theorem Group.queue_ne (group : Group Epoch Proposal) (proposal : Proposal) :
    group.queue proposal ≠ group := by
  intro equal
  have lengths := congrArg (fun group => group.proposals.length) equal
  simp [Group.queue] at lengths

/-- The proposal and message that a `propose` call makes, if it makes any. -/
def made
    (create : Epoch → Except CodeUnits (Proposal × Bytes))
    (group : Group Epoch Proposal) : Option (Proposal × Bytes) :=
  match group.state with
  | .operational => (create group.epoch).toOption
  | _ => none

variable {group : Group Epoch Proposal}

theorem create_of_made
    {create : Epoch → Except CodeUnits (Proposal × Bytes)}
    {entry : Proposal × Bytes} (queued : made create group = some entry) :
    group.state = .operational ∧ create group.epoch = .ok entry := by
  unfold made at queued
  split at queued
  · next operational =>
    refine ⟨operational, ?_⟩
    cases created : create group.epoch with
    | error message =>
        rw [created] at queued
        cases queued
    | ok other =>
        rw [created] at queued
        cases queued
        rfl
  · cases queued

/-- A `propose` call queues what it made, or throws and does nothing. -/
theorem propose_eq
    (create : Epoch → Except CodeUnits (Proposal × Bytes))
    (group : Group Epoch Proposal) :
    (∃ proposal message,
      made create group = some (proposal, message) ∧
        propose openMls create group = (.ok message, group.queue proposal)) ∨
      ∃ thrown,
        made create group = none ∧
          propose openMls create group = (.error thrown, group) := by
  rcases group with ⟨epoch, proposals, state⟩
  cases state with
  | pendingCommit staged => exact Or.inr ⟨_, rfl, rfl⟩
  | inactive => exact Or.inr ⟨_, rfl, rfl⟩
  | operational =>
      cases created : create epoch with
      | error message =>
          refine Or.inr ⟨.jsError message, ?_, ?_⟩
          · simp only [made, created]
            rfl
          · change (ofResult (create epoch) >>= fun (entry : Proposal × Bytes) =>
              store entry.1 >>= fun _ => pure entry.2) _ = _
            rw [created]
            rfl
      | ok entry =>
          refine Or.inl ⟨entry.1, entry.2, ?_, ?_⟩
          · simp only [made, created]
            rfl
          · change (ofResult (create epoch) >>= fun (entry : Proposal × Bytes) =>
              store entry.1 >>= fun _ => pure entry.2) _ = _
            rw [created]
            rfl

theorem proposeRemoveMemberByCredential_of_some
    {name : Bytes} {leaf : Nat}
    (found : leafOf openMls group.epoch name = some leaf) :
    proposeRemoveMemberByCredential openMls own seed name group =
      propose openMls
        (fun epoch => openMls.createRemove own epoch leaf seed) group := by
  rw [proposeRemoveMemberByCredential, Throwing.read_bind, found]

theorem proposeRemoveMemberByCredential_of_none
    {name : Bytes} (missing : leafOf openMls group.epoch name = none) :
    proposeRemoveMemberByCredential openMls own seed name group =
      (.error (.jsError openMls.unknownMember), group) := by
  rw [proposeRemoveMemberByCredential, Throwing.read_bind, missing]
  rfl

/-- A commit stages what it built, or throws and does nothing. -/
theorem commitToPendingProposals_eq (group : Group Epoch Proposal) :
    (∃ bundle,
      group.state = .operational ∧
        openMls.buildCommit own group.epoch group.proposals seed =
            .ok bundle ∧
          commitToPendingProposals openMls own seed group =
            (.ok (bundle.commit, bundle.welcome),
              { group with state := .pendingCommit bundle.staged })) ∨
      ∃ thrown,
        (∀ bundle,
          group.state = .operational →
            openMls.buildCommit own group.epoch group.proposals seed ≠
              .ok bundle) ∧
          commitToPendingProposals openMls own seed group =
            (.error thrown, group) := by
  rcases group with ⟨epoch, proposals, state⟩
  cases state with
  | pendingCommit staged => exact Or.inr ⟨_, nofun, rfl⟩
  | inactive => exact Or.inr ⟨_, nofun, rfl⟩
  | operational =>
      cases built : openMls.buildCommit own epoch proposals seed with
      | error message =>
          refine Or.inr ⟨.jsError message, nofun, ?_⟩
          change (ofResult (openMls.buildCommit own epoch proposals seed) >>=
            _) _ = _
          rw [built]
          rfl
      | ok bundle =>
          refine Or.inl ⟨bundle, rfl, rfl, ?_⟩
          change (ofResult (openMls.buildCommit own epoch proposals seed) >>=
            _) _ = _
          rw [built]
          rfl

/-- The group behind the merge of a staged commit. -/
def Group.merged
    (group : Group Epoch Proposal) (staged : StagedCommit Epoch) :
    Group Epoch Proposal :=
  if staged.selfRemoved then
    { group with epoch := staged.epoch, state := .inactive }
  else { epoch := staged.epoch, proposals := [], state := .operational }

/-- The merge of a commit just staged does not fail. -/
theorem mergePendingCommit_staged
    (group : Group Epoch Proposal) (staged : StagedCommit Epoch) :
    mergePendingCommit openMls
        { group with state := .pendingCommit staged } =
      (.ok (), group.merged staged) := by
  rcases staged with ⟨epoch, selfRemoved⟩
  cases selfRemoved with
  | false => rfl
  | true => rfl

/-- A removed member takes no message. -/
theorem processMessage_of_inactive
    (inactive : group.state = .inactive) (message : Bytes) :
    ∃ thrown,
      processMessage openMls own message group =
        (.error thrown, group) := by
  rcases group with ⟨epoch, proposals, state⟩
  simp only at inactive
  subst inactive
  unfold processMessage
  cases openMls.messageBody message with
  | none => exact ⟨_, rfl⟩
  | some body =>
      cases body with
      | publicMessage => exact ⟨_, rfl⟩
      | privateMessage => exact ⟨_, rfl⟩
      | welcome => exact ⟨_, rfl⟩
      | groupInfo => exact ⟨_, rfl⟩
      | keyPackage => exact ⟨_, rfl⟩

/-- A private message that the library has processed. -/
theorem processMessage_of_content
    {message : Bytes} {content : ProcessedContent Epoch Proposal}
    (operational : group.state = .operational)
    (body : openMls.messageBody message = some .privateMessage)
    (processed : openMls.processBody own group message = .ok content) :
    processMessage openMls own message group =
      applyContent openMls content group := by
  have active :
      requireActive openMls group = (.ok (), group) := by
    simp only [requireActive, Group.isActive, operational, if_true]
  rw [processMessage, body]
  change processProtocolMessage openMls own message group = _
  rw [processProtocolMessage, Throwing.bind_of_ok active,
    Throwing.read_bind, processed]
  rfl

end Operations

end Mls4rn.Core.MlsGroup
