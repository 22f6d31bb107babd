import Mls4rn.Core.MlsGroup
import Mls4rn.Lib.Utf8

/-!
# The group facade of `src/client.ts`

`add`, `remove`, `update` and `commit` each make a commit and merge it at
once.  The first three are two steps of the library in one binding: a proposal
is queued, then everything pending is committed.  When the second step fails
the queued proposal stays behind; the main result says exactly when that
happens.
-/

namespace Mls4rn.Core.GroupFacade

open Mls4rn.Lib
open Mls4rn.Lib.ByteString
open Mls4rn.Lib.Throwing
open Mls4rn.Lib.Utf16
open Mls4rn.Core.MlsGroup

/-! ## Results -/

/-- `Commit`. -/
structure Commit where
  proposal : Option Bytes
  commit : Bytes
  welcome : Option Bytes
deriving DecidableEq, Repr

/-- The local `nz` of `toCommit`. -/
def nz (bytes : Bytes) : Option Bytes :=
  if bytes.length = 0 then none else some bytes

theorem nz_ne (bytes : Bytes) : nz bytes ≠ some [] := by
  unfold nz
  split
  · intro equal
    cases equal
  · next nonempty =>
    intro equal
    exact nonempty (by rw [Option.some.inj equal]; rfl)

/-- `toCommit`, from the three byte strings of a `CommitResult`. -/
def toCommit (proposal commit welcome : Bytes) : Commit where
  proposal := nz proposal
  commit := commit
  welcome := nz welcome

/-- `AddResult`. -/
structure AddResult where
  welcome : Bytes
  ratchetTree : Bytes
  proposal : Bytes
  commit : Bytes
deriving DecidableEq, Repr

variable {Member Epoch KeyPackage Proposal Seed Value : Type}

section Facade

variable
  (openMls : OpenMls Member Epoch KeyPackage Proposal Seed)
  (own : Member) (seed : Seed)

/-! ## The bindings -/

/-- Queue a proposal, then commit to everything pending. -/
def proposeAndCommit (propose : GroupAction Epoch Proposal Bytes) :
    GroupAction Epoch Proposal (Bytes × Bytes × Option Bytes) := do
  let proposal ← propose
  let (commit, welcome) ← commitToPendingProposals openMls own seed
  return (proposal, commit, welcome)

/-- `welcome_msg.ok_or(NoWelcomeError)?`. -/
def requireWelcome :
    Bytes × Bytes × Option Bytes →
      GroupAction Epoch Proposal (Bytes × Bytes × Bytes)
  | (proposal, commit, some welcome) => return (proposal, commit, welcome)
  | (_, _, none) => raise (.jsError openMls.noWelcome)

/-- `propose_and_commit_add`: proposal, commit and welcome. -/
def proposeAndCommitAdd (newMember : KeyPackage) :
    GroupAction Epoch Proposal (Bytes × Bytes × Bytes) := do
  requireWelcome openMls
    (← proposeAndCommit openMls own seed
      (proposeAddMember openMls own seed newMember))

/-- `propose_and_commit_remove`. -/
def proposeAndCommitRemove (removed : CodeUnits) :
    GroupAction Epoch Proposal (Bytes × Bytes × Option Bytes) :=
  proposeAndCommit openMls own seed
    (proposeRemoveMemberByCredential openMls own seed (Utf8.encode removed))

/-- `propose_and_commit_update`. -/
def proposeAndCommitUpdate :
    GroupAction Epoch Proposal (Bytes × Bytes × Option Bytes) :=
  proposeAndCommit openMls own seed (proposeSelfUpdate openMls own seed)

/-! ## The methods -/

/-- `Group.exportRatchetTree`. -/
def exportRatchetTree : GroupAction Epoch Proposal Bytes := do
  return openMls.exportRatchetTree (← Throwing.read).epoch

/-- `Group.add`. -/
def add (keyPackage : Bytes) : GroupAction Epoch Proposal AddResult := do
  let keyPackage ← ofResult (openMls.keyPackageFromBytes keyPackage)
  let (proposal, commit, welcome) ←
    proposeAndCommitAdd openMls own seed keyPackage
  mergePendingCommit openMls
  let ratchetTree ← exportRatchetTree openMls
  return { welcome, ratchetTree, proposal, commit }

/-- `Group.remove`. -/
def remove (memberName : CodeUnits) :
    GroupAction Epoch Proposal Commit := do
  let (proposal, commit, welcome) ←
    proposeAndCommitRemove openMls own seed memberName
  mergePendingCommit openMls
  return toCommit proposal commit (welcome.getD [])

/-- `Group.update`. -/
def update : GroupAction Epoch Proposal Commit := do
  let (proposal, commit, welcome) ← proposeAndCommitUpdate openMls own seed
  mergePendingCommit openMls
  return toCommit proposal commit (welcome.getD [])

/-- `Group.commit`. -/
def commit : GroupAction Epoch Proposal Commit := do
  let (commit, welcome) ← commitToPendingProposals openMls own seed
  mergePendingCommit openMls
  return toCommit [] commit (welcome.getD [])

/-- `Group.receive`. -/
def receive (message : Bytes) : GroupAction Epoch Proposal Bytes :=
  processMessage openMls own message

/-- A call that changes the group for everyone. -/
inductive Change where
  | add (keyPackage : Bytes)
  | remove (memberName : CodeUnits)
  | update
  | commit
deriving DecidableEq, Repr

/-- The messages of a change that the other members need, in order. -/
def Commit.messages (result : Commit) : List Bytes :=
  result.proposal.toList ++ [result.commit]

/-- Make a change; the result is what is to be published. -/
def Change.perform : Change → GroupAction Epoch Proposal (List Bytes)
  | .add keyPackage => do
      let result ← GroupFacade.add openMls own seed keyPackage
      return [result.proposal, result.commit]
  | .remove memberName => do
      return (← GroupFacade.remove openMls own seed memberName).messages
  | .update => do return (← GroupFacade.update openMls own seed).messages
  | .commit => do return (← GroupFacade.commit openMls own seed).messages

/-- A method of `Group` that may change its state. -/
inductive Call where
  | change (change : Change)
  | proposeAdd (keyPackage : Bytes)
  | proposeRemove (memberName : CodeUnits)
  | proposeUpdate
  | leave
  | receive (message : Bytes)
deriving DecidableEq, Repr

/-- Make a call; the result is what it returns to be sent or shown. -/
def Call.perform : Call → GroupAction Epoch Proposal (List Bytes)
  | .change made => made.perform openMls own seed
  | .proposeAdd keyPackage => do
      let newMember ← ofResult (openMls.keyPackageFromBytes keyPackage)
      return [← proposeAddMember openMls own seed newMember]
  | .proposeRemove memberName => do
      return [← proposeRemoveMemberByCredential openMls own seed
        (Utf8.encode memberName)]
  | .proposeUpdate => do return [← proposeSelfUpdate openMls own seed]
  | .leave => do return [← leaveGroup openMls own seed]
  | .receive message => do
      return [← GroupFacade.receive openMls own message]

/-- The group behind a sequence of calls, each with its randomness. -/
def groupAfter (calls : List (Call × Seed)) (start : Group Epoch Proposal) :
    Group Epoch Proposal :=
  (runAll
    (fun entry => Call.perform openMls own entry.2 entry.1) calls start).2

/-! ## How a change can end -/

/-- A first step queues an entry, or throws and does nothing. -/
def Proposes
    (propose : GroupAction Epoch Proposal Bytes)
    (group : Group Epoch Proposal) :
    Option (Proposal × Bytes) → Prop
  | some (proposal, message) =>
      group.state = .operational ∧
        propose group = (.ok message, group.queue proposal)
  | none => ∃ thrown, propose group = (.error thrown, group)

theorem proposes_made
    (create : Epoch → Except CodeUnits (Proposal × Bytes))
    (group : Group Epoch Proposal) :
    Proposes (propose openMls create) group (made create group) := by
  rcases propose_eq openMls create group with
    ⟨proposal, message, queued, done⟩ | ⟨thrown, nothing, failed⟩
  · rw [queued]
    exact ⟨(create_of_made queued).1, done⟩
  · rw [nothing]
    exact ⟨thrown, failed⟩

theorem proposeAndCommit_eq
    {propose : GroupAction Epoch Proposal Bytes}
    {group : Group Epoch Proposal} {entry : Option (Proposal × Bytes)}
    (proposes : Proposes propose group entry) :
    (∃ proposal message bundle,
      entry = some (proposal, message) ∧
        openMls.buildCommit own group.epoch
            (group.proposals ++ [proposal]) seed = .ok bundle ∧
          proposeAndCommit openMls own seed propose group =
            (.ok (message, bundle.commit, bundle.welcome),
              { group.queue proposal with
                state := .pendingCommit bundle.staged })) ∨
      (∃ proposal message thrown,
        entry = some (proposal, message) ∧
          (∀ bundle,
            openMls.buildCommit own group.epoch
              (group.proposals ++ [proposal]) seed ≠ .ok bundle) ∧
            proposeAndCommit openMls own seed propose group =
              (.error thrown, group.queue proposal)) ∨
        ∃ thrown,
          entry = none ∧
            proposeAndCommit openMls own seed propose group =
              (.error thrown, group) := by
  cases entry with
  | none =>
      rcases proposes with ⟨thrown, failed⟩
      refine Or.inr (Or.inr ⟨thrown, rfl, ?_⟩)
      rw [proposeAndCommit, bind_of_error failed]
  | some entry =>
      rcases entry with ⟨proposal, message⟩
      rcases proposes with ⟨operational, queued⟩
      rcases commitToPendingProposals_eq openMls own seed
          (group.queue proposal) with
        ⟨bundle, -, built, done⟩ | ⟨thrown, unbuilt, failed⟩
      · refine Or.inl ⟨proposal, message, bundle, rfl, built, ?_⟩
        rw [proposeAndCommit, bind_of_ok queued, bind_of_ok done]
        rfl
      · refine Or.inr (Or.inl ⟨proposal, message, thrown, rfl, ?_, ?_⟩)
        · intro bundle
          exact unbuilt bundle operational
        · rw [proposeAndCommit, bind_of_ok queued, bind_of_error failed]

/-- What the first step of a change queues in a group. -/
def Change.queued (change : Change) (group : Group Epoch Proposal) :
    Option (Proposal × Bytes) :=
  match change with
  | .add keyPackage =>
      match openMls.keyPackageFromBytes keyPackage with
      | .ok newMember =>
          made (fun epoch => openMls.createAdd own epoch newMember seed) group
      | .error _ => none
  | .remove memberName =>
      match leafOf openMls group.epoch (Utf8.encode memberName) with
      | some leaf =>
          made (fun epoch => openMls.createRemove own epoch leaf seed) group
      | none => none
  | .update => made (fun epoch => openMls.createUpdate own epoch seed) group
  | .commit => none

/-- What is pending when a change comes to its commit. -/
def Change.pending
    (change : Change) (group : Group Epoch Proposal) : List Proposal :=
  group.proposals ++
    ((change.queued openMls own seed group).map Prod.fst).toList

/-- The three ways in which a change can end. -/
inductive Change.Ends
    (change : Change) (group : Group Epoch Proposal) :
    Except Thrown (List Bytes) × Group Epoch Proposal → Prop where
  | committed (bundle : CommitBundle Epoch)
      (operational : group.state = .operational)
      (built :
        openMls.buildCommit own group.epoch
          (change.pending openMls own seed group) seed = .ok bundle) :
      Change.Ends change group
        (.ok (((change.queued openMls own seed group).map
            Prod.snd).toList ++ [bundle.commit]),
          Group.merged
            { group with proposals := change.pending openMls own seed group }
            bundle.staged)
  | stuck (proposal : Proposal) (message : Bytes) (thrown : Thrown)
      (queued :
        change.queued openMls own seed group = some (proposal, message))
      (unbuilt : ∀ bundle,
        openMls.buildCommit own group.epoch
          (group.proposals ++ [proposal]) seed ≠ .ok bundle) :
      Change.Ends change group (.error thrown, group.queue proposal)
  | refused (thrown : Thrown)
      (nothing : change.queued openMls own seed group = none) :
      Change.Ends change group (.error thrown, group)

theorem nz_of_ne {bytes : Bytes} (nonempty : bytes ≠ []) :
    nz bytes = some bytes := by
  rw [nz, if_neg]
  rwa [List.length_eq_zero_iff]

/-- A change that queues a proposal, commits and finishes without failing. -/
theorem ends_of_finishes
    {change : Change} {group : Group Epoch Proposal}
    (propose : GroupAction Epoch Proposal Bytes)
    (finish :
      Bytes × Bytes × Option Bytes → GroupAction Epoch Proposal (List Bytes))
    (proposes : Proposes propose group (change.queued openMls own seed group))
    (performs :
      change.perform openMls own seed group =
        (proposeAndCommit openMls own seed propose >>= finish) group)
    (finishes : ∀ proposal message bundle,
      change.queued openMls own seed group = some (proposal, message) →
        openMls.buildCommit own group.epoch
            (group.proposals ++ [proposal]) seed = .ok bundle →
          finish (message, bundle.commit, bundle.welcome)
              { group.queue proposal with
                state := .pendingCommit bundle.staged } =
            (.ok [message, bundle.commit],
              (group.queue proposal).merged bundle.staged)) :
    change.Ends openMls own seed group
      (change.perform openMls own seed group) := by
  rw [performs]
  rcases proposeAndCommit_eq openMls own seed proposes with
    ⟨proposal, message, bundle, queued, built, done⟩ |
      ⟨proposal, message, thrown, queued, unbuilt, failed⟩ |
        ⟨thrown, nothing, failed⟩
  · have operational : group.state = .operational := by
      rw [queued] at proposes
      exact proposes.1
    have pending :
        change.pending openMls own seed group =
          group.proposals ++ [proposal] := by
      rw [Change.pending, queued]
      rfl
    have ends :=
      @Change.Ends.committed _ _ _ _ _ openMls own seed change group
        bundle operational (by rw [pending]; exact built)
    rw [pending, queued] at ends
    rw [bind_of_ok done, finishes proposal message bundle queued built]
    exact ends
  · rw [bind_of_error failed]
    exact .stuck proposal message thrown queued unbuilt
  · rw [bind_of_error failed]
    exact .refused thrown nothing

/-- `Group.add` always has a welcome to return. -/
theorem ends_add (keyPackage : Bytes) (group : Group Epoch Proposal) :
    (Change.add keyPackage).Ends openMls own seed group
      ((Change.add keyPackage).perform openMls own seed group) := by
  cases read : openMls.keyPackageFromBytes keyPackage with
  | error message =>
      have failed :
          (Change.add keyPackage).perform openMls own seed group =
            (.error (.jsError message), group) := by
        simp only [Change.perform, add, read]
        rfl
      rw [failed]
      refine .refused _ ?_
      simp only [Change.queued, read]
  | ok newMember =>
      have queuedBy :
          (Change.add keyPackage).queued openMls own seed group =
            made (fun epoch =>
              openMls.createAdd own epoch newMember seed) group := by
        simp only [Change.queued, read]
      refine ends_of_finishes openMls own seed
        (proposeAddMember openMls own seed newMember)
        (fun result =>
          requireWelcome openMls result >>= fun parts =>
            mergePendingCommit openMls >>= fun _ =>
              exportRatchetTree openMls >>= fun _ =>
                pure [parts.1, parts.2.1]) ?_ ?_ ?_
      · rw [queuedBy]
        exact proposes_made openMls _ group
      · simp only [Change.perform, add, proposeAndCommitAdd, read,
          bind_assoc]
        rfl
      · intro proposal message bundle queued built
        rw [queuedBy] at queued
        have welcomed :=
          openMls.welcome_of_add (create_of_made queued).2
            (List.mem_append_right _ List.mem_cons_self) built
        rcases Option.isSome_iff_exists.mp welcomed with ⟨welcome, present⟩
        rw [present, requireWelcome, pure_bind,
          bind_of_ok (mergePendingCommit_staged openMls _ _)]
        rfl

/-- The end of `Group.remove` and `Group.update`. -/
def reportCommit (result : Bytes × Bytes × Option Bytes) :
    GroupAction Epoch Proposal (List Bytes) :=
  mergePendingCommit openMls >>= fun _ =>
    pure (toCommit result.1 result.2.1 (result.2.2.getD [])).messages

theorem reportCommit_eq
    {message : Bytes} (nonempty : message ≠ [])
    (bundle : CommitBundle Epoch) (group : Group Epoch Proposal) :
    reportCommit openMls (message, bundle.commit, bundle.welcome)
        { group with state := .pendingCommit bundle.staged } =
      (.ok [message, bundle.commit], group.merged bundle.staged) := by
  rw [reportCommit, bind_of_ok (mergePendingCommit_staged openMls _ _)]
  simp only [toCommit, Commit.messages, nz_of_ne nonempty]
  rfl

theorem ends_remove (memberName : CodeUnits) (group : Group Epoch Proposal) :
    (Change.remove memberName).Ends openMls own seed group
      ((Change.remove memberName).perform openMls own seed group) := by
  have proposes :
      Proposes
        (proposeRemoveMemberByCredential openMls own seed
          (Utf8.encode memberName)) group
        ((Change.remove memberName).queued openMls own seed group) := by
    cases found : leafOf openMls group.epoch (Utf8.encode memberName) with
    | none =>
        simp only [Change.queued, found]
        exact ⟨_,
          proposeRemoveMemberByCredential_of_none openMls own seed found⟩
    | some leaf =>
        have made := proposes_made openMls
          (fun epoch => openMls.createRemove own epoch leaf seed) group
        simp only [Change.queued, found]
        unfold Proposes at made ⊢
        rw [proposeRemoveMemberByCredential_of_some openMls own seed found]
        exact made
  refine ends_of_finishes openMls own seed _ (reportCommit openMls)
    proposes ?_ ?_
  · simp only [Change.perform, remove, proposeAndCommitRemove, bind_assoc,
      pure_bind]
    rfl
  · intro proposal message bundle queued built
    refine reportCommit_eq openMls ?_ bundle (group.queue proposal)
    simp only [Change.queued] at queued
    split at queued
    · exact openMls.createRemove_ne (create_of_made queued).2
    · cases queued

theorem ends_update (group : Group Epoch Proposal) :
    Change.update.Ends openMls own seed group
      (Change.update.perform openMls own seed group) := by
  refine ends_of_finishes openMls own seed
    (proposeSelfUpdate openMls own seed) (reportCommit openMls)
    (proposes_made openMls _ group) ?_ ?_
  · simp only [Change.perform, update, proposeAndCommitUpdate, bind_assoc,
      pure_bind]
    rfl
  · intro proposal message bundle queued built
    rw [Change.queued] at queued
    exact reportCommit_eq openMls
      (openMls.createUpdate_ne (create_of_made queued).2) bundle
      (group.queue proposal)

theorem ends_commit (group : Group Epoch Proposal) :
    Change.commit.Ends openMls own seed group
      (Change.commit.perform openMls own seed group) := by
  simp only [Change.perform, commit, bind_assoc]
  rcases commitToPendingProposals_eq openMls own seed group with
    ⟨bundle, operational, built, done⟩ | ⟨thrown, unbuilt, failed⟩
  · have pending :
        Change.commit.pending openMls own seed group = group.proposals :=
      List.append_nil group.proposals
    have ends :=
      @Change.Ends.committed _ _ _ _ _ openMls own seed .commit group
        bundle operational (by rw [pending]; exact built)
    rw [pending] at ends
    rw [bind_of_ok done, bind_of_ok (mergePendingCommit_staged openMls _ _)]
    exact ends
  · rw [bind_of_error failed]
    exact .refused thrown rfl

/-- Every change commits, is refused, or gets stuck behind its proposal. -/
theorem Change.ends (change : Change) (group : Group Epoch Proposal) :
    change.Ends openMls own seed group
      (change.perform openMls own seed group) := by
  cases change with
  | add keyPackage => exact ends_add openMls own seed keyPackage group
  | remove memberName => exact ends_remove openMls own seed memberName group
  | update => exact ends_update openMls own seed group
  | commit => exact ends_commit openMls own seed group

/-! ## Failure atomicity -/

/--
The proposal that a change queues, if any, passes the joint validation with
everything that is pending.
-/
def Change.Committable
    (change : Change) (group : Group Epoch Proposal) : Prop :=
  ∀ proposal message,
    change.queued openMls own seed group = some (proposal, message) →
      ∃ bundle,
        openMls.buildCommit own group.epoch
          (group.proposals ++ [proposal]) seed = .ok bundle

/-- A change goes through in a group. -/
def Change.Succeeds
    (change : Change) (group : Group Epoch Proposal) : Prop :=
  ∃ messages reached,
    change.perform openMls own seed group = (.ok messages, reached)

/-- A change that throws leaves a group as it was. -/
theorem unchanged_iff (change : Change) (group : Group Epoch Proposal) :
    (∀ thrown reached,
      change.perform openMls own seed group = (.error thrown, reached) →
        reached = group) ↔
      change.Committable openMls own seed group := by
  have ends := change.ends openMls own seed group
  constructor
  · intro atomic proposal message queued
    generalize change.perform openMls own seed group = result
      at ends atomic
    cases ends with
    | committed bundle operational built =>
        refine ⟨bundle, ?_⟩
        rw [Change.pending, queued] at built
        exact built
    | stuck other sent thrown stuckQueued unbuilt =>
        exact absurd (atomic thrown _ rfl) (group.queue_ne other)
    | refused thrown nothing =>
        rw [queued] at nothing
        cases nothing
  · intro committable thrown reached performed
    rw [performed] at ends
    cases ends with
    | stuck proposal message thrown queued unbuilt =>
        rcases committable proposal message queued with ⟨bundle, built⟩
        exact absurd built (unbuilt bundle)
    | refused thrown nothing => rfl

/--
Behind any calls, a change that throws leaves the group as it was and spoils
no later change, exactly when the proposal it queues can be committed together
with everything pending.
-/
theorem change_atomic_iff
    (start : Group Epoch Proposal) (calls : List (Call × Seed))
    (change : Change) :
    (∀ thrown reached,
      change.perform openMls own seed
          (groupAfter openMls own calls start) = (.error thrown, reached) →
        reached = groupAfter openMls own calls start ∧
          ∀ (later : Change) (again : Seed),
            later.Succeeds openMls own again reached ↔
              later.Succeeds openMls own again
                (groupAfter openMls own calls start)) ↔
      change.Committable openMls own seed
        (groupAfter openMls own calls start) := by
  rw [← unchanged_iff]
  constructor
  · intro atomic thrown reached performed
    exact (atomic thrown reached performed).1
  · intro unchanged thrown reached performed
    have same := unchanged thrown reached performed
    refine ⟨same, ?_⟩
    intro later again
    rw [same]

end Facade

/-! ## A member added twice -/

/-- A roster: leaf index, name and signature key of every member. -/
structure Roster where
  number : Nat
  leaves : List (Nat × Bytes × UInt8)
deriving DecidableEq, Repr

/-- Proposals on a roster. -/
inductive RosterProposal where
  | add (name : Bytes) (key : UInt8)
  | remove (leaf : Nat)
  | update (leaf : Nat)
deriving DecidableEq, Repr

/-- The leaves behind the adds among some proposals. -/
def addedLeaves : Nat → List RosterProposal → List (Nat × Bytes × UInt8)
  | _, [] => []
  | next, .add name key :: rest =>
      (next, name, key) :: addedLeaves (next + 1) rest
  | next, _ :: rest => addedLeaves next rest

theorem addedLeaves_ne_nil
    {name : Bytes} {key : UInt8} {proposals : List RosterProposal}
    (next : Nat) (member : .add name key ∈ proposals) :
    addedLeaves next proposals ≠ [] := by
  induction proposals generalizing next with
  | nil => cases member
  | cons proposal proposals induction =>
      cases proposal with
      | add name key => exact List.cons_ne_nil _ _
      | remove leaf =>
          rcases List.mem_cons.mp member with impossible | later
          · cases impossible
          · exact induction next later
      | update leaf =>
          rcases List.mem_cons.mp member with impossible | later
          · cases impossible
          · exact induction next later

/-- The roster behind a commit. -/
def Roster.apply (roster : Roster) (proposals : List RosterProposal) :
    Roster where
  number := roster.number + 1
  leaves :=
    (roster.leaves.filter fun entry =>
      decide (.remove entry.1 ∉ proposals)) ++
      addedLeaves roster.leaves.length proposals

/-- The checks on all proposals together. -/
def Roster.validate
    (own : Nat) (roster : Roster) (proposals : List RosterProposal) :
    Except CodeUnits Unit :=
  if .remove own ∈ proposals then
    .error (literal "CannotRemoveSelf")
  else if ((roster.apply proposals).leaves.map fun entry =>
      entry.2.2).Nodup then
    .ok ()
  else .error (literal "DuplicateSignatureKey")

/-- OpenMLS on rosters; a key package is a signature key and a name. -/
def rosterMls : OpenMls Nat Roster (Bytes × UInt8) RosterProposal Unit where
  keyPackageFromBytes
    | [] => .error (literal "KeyPackage deserialization error")
    | key :: name => .ok (name, key)
  members roster := roster.leaves.map fun entry => (entry.1, entry.2.1)
  createAdd _ _ keyPackage _ :=
    .ok (.add keyPackage.1 keyPackage.2, [1])
  createRemove _ _ leaf _ := .ok (.remove leaf, [2])
  createUpdate own _ _ := .ok (.update own, [3])
  createLeave own _ _ := .ok (.remove own, [2])
  buildCommit own roster pending _ :=
    (roster.validate own pending).map fun _ =>
      { commit := [4]
        welcome :=
          if addedLeaves roster.leaves.length pending = [] then none
          else some [5]
        staged := ⟨roster.apply pending, false⟩ }
  exportRatchetTree _ := [6]
  messageBody _ := none
  processBody _ _ _ := .error (literal "UnableToDecrypt")
  unknownMember := literal "UnknownMember"
  pendingCommit := literal "PendingCommit"
  useAfterEviction := literal "UseAfterEviction"
  noWelcome := literal "no welcome"
  welcome_of_add := by
    intro own epoch keyPackage seed proposal message builder later pending
      again bundle created member built
    cases created
    cases valid : later.validate builder pending with
    | error message =>
        rw [valid] at built
        cases built
    | ok checked =>
        rw [valid] at built
        cases built
        simp only [if_neg (addedLeaves_ne_nil _ member), Option.isSome_some]
  createAdd_ne := by
    rintro own epoch keyPackage seed proposal message created
    cases created
    exact List.cons_ne_nil _ _
  createRemove_ne := by
    rintro own epoch leaf seed proposal message created
    cases created
    exact List.cons_ne_nil _ _
  createUpdate_ne := by
    rintro own epoch seed proposal message created
    cases created
    exact List.cons_ne_nil _ _

/-- A group in which only the member at leaf zero is. -/
def aloneGroup : Group Roster RosterProposal where
  epoch := ⟨0, [(0, [97], 7)]⟩
  proposals := []
  state := .operational

/-- The same group behind the addition of a second client. -/
def pairGroup : Group Roster RosterProposal :=
  groupAfter rosterMls 0 [(.change (.add [8, 98]), ())] aloneGroup

/--
Adding another key package of the same client throws, leaves its proposal
behind and makes the next update throw, which would have gone through.
-/
theorem change_not_atomic :
    ∃ thrown reached,
      (Change.add [8, 98]).perform rosterMls 0 () pairGroup =
          (.error thrown, reached) ∧
        reached ≠ pairGroup ∧
          Change.update.Succeeds rosterMls 0 () pairGroup ∧
            ¬ Change.update.Succeeds rosterMls 0 () reached := by
  refine ⟨.jsError (literal "DuplicateSignatureKey"),
    pairGroup.queue (.add [98] 8), ?_, ?_, ?_, ?_⟩
  · decide +kernel
  · exact pairGroup.queue_ne _
  · exact ⟨[[3], [4]], ⟨⟨2, [(0, [97], 7), (1, [98], 8)]⟩, [], .operational⟩,
      by decide +kernel⟩
  · rintro ⟨messages, reached, performed⟩
    have failed :
        (Change.update.perform rosterMls 0 ()
            (pairGroup.queue (.add [98] 8))).1 =
          .error (.jsError (literal "DuplicateSignatureKey")) := by
      decide +kernel
    rw [performed] at failed
    cases failed

end Mls4rn.Core.GroupFacade
