import Mls4rn.Core.RemovalByName
import Mls4rn.Lib.Execution
import Mls4rn.Lib.InsertionMap

/-!
# Which calls trap

The bindings of `openmls-wasm` turn an error of the library into a `JsError`
where the source writes `?`, and into a panic where it writes `unwrap` or
`todo!`.  A panic is a trap of the wasm instance, which breaks the call off.
What calls behind a trap do is not looked at: a run ends with the first call
that traps.

The library is a parameter.  Its operations work on the storage of a provider
and on one group, and each of them may fail.  What is assumed of it is that a
group is not built exactly if one with its identifier is stored, that key
packages can be built, and that nothing handed to a serializer holds a vector
of `2 ^ 30` bytes or more, which is the most the TLS encoding can express.
-/

namespace Mls4rn.Core.WasmTraps

open Mls4rn.Lib
open Mls4rn.Lib.ByteString
open Mls4rn.Lib.Throwing
open Mls4rn.Lib.Utf16
open Mls4rn.Lib.Execution
open Mls4rn.Core.MlsGroup (Thrown MessageBody ProcessedContent StagedCommit)
open Mls4rn.Core.GroupFacade (AddResult Commit toCommit)
open Mls4rn.Core.RemovalByName (lossyName)

/-! ## The library -/

/-- What `tls_serialize` reads: the vector lengths of a value and its bytes. -/
structure Codec (Value : Type) where
  vectors : Value → List Nat
  encoding : Value → Bytes
  tooLong : CodeUnits

/-- `tls_serialize`. -/
def Codec.tlsSerialize {Value : Type} (codec : Codec Value) (value : Value) :
    Except CodeUnits Bytes :=
  if ∀ length ∈ codec.vectors value, length < 2 ^ 30 then
    .ok (codec.encoding value)
  else
    .error codec.tooLong

/-- A value without an overlong vector is serialized. -/
theorem Codec.tlsSerialize_eq
    {Value : Type} {codec : Codec Value} {value : Value}
    (small : ∀ length ∈ codec.vectors value, length < 2 ^ 30) :
    codec.tlsSerialize value = .ok (codec.encoding value) := by
  rw [tlsSerialize, if_pos small]

/-- The operations of OpenMLS that the bindings call. -/
structure Crate
    (Provider Identity Group KeyPackage RatchetTree Message Incoming Epoch
      Proposal Seed : Type) where
  newProvider : Provider
  newIdentity : (name : Bytes) → Seed → Throwing Provider CodeUnits Identity
  serializeIdentity : Identity → Except CodeUnits Bytes
  buildKeyPackage : Identity → Seed → Throwing Provider CodeUnits KeyPackage
  build :
    Identity → (groupId : Bytes) → Seed → Throwing Provider CodeUnits Group
  deserializeMessage : Bytes → Except CodeUnits (MessageBody × Incoming)
  deserializeKeyPackage : Bytes → Except CodeUnits KeyPackage
  validateKeyPackage : KeyPackage → Except CodeUnits KeyPackage
  deserializeRatchetTree : Bytes → Except CodeUnits RatchetTree
  debug : MessageBody → Incoming → CodeUnits
  newFromWelcome : Incoming → RatchetTree → Throwing Provider CodeUnits Group
  proposeAddMember :
    Identity → KeyPackage → Seed →
      Throwing (Provider × Group) CodeUnits Message
  proposeRemoveMemberByCredential :
    Identity → (name : Bytes) → Seed →
      Throwing (Provider × Group) CodeUnits Message
  proposeSelfUpdate :
    Identity → Seed → Throwing (Provider × Group) CodeUnits Message
  leaveGroup : Identity → Seed → Throwing (Provider × Group) CodeUnits Message
  commitToPendingProposals :
    Identity → Seed →
      Throwing (Provider × Group) CodeUnits (Message × Option Message)
  mergePendingCommit : Throwing (Provider × Group) CodeUnits Unit
  mergeStagedCommit :
    StagedCommit Epoch → Throwing (Provider × Group) CodeUnits Unit
  storePendingProposal : Proposal → Throwing (Provider × Group) CodeUnits Unit
  createMessage :
    Identity → Bytes → Seed → Throwing (Provider × Group) CodeUnits Message
  processMessage :
    Incoming →
      Throwing (Provider × Group) CodeUnits (ProcessedContent Epoch Proposal)
  exportRatchetTree : Group → RatchetTree
  members : Group → List Bytes
  isActive : Group → Bool
  exportSecret :
    Group → (label : CodeUnits) → (context : Bytes) → (length : Nat) →
      Except CodeUnits Bytes
  noWelcome : CodeUnits
  keyPackages : Codec KeyPackage
  ratchetTrees : Codec RatchetTree
  messages : Codec Message
  holdsGroup : Provider → Bytes → Bool
  build_fails_iff :
    ∀ identity groupId seed provider,
      (∃ error, (build identity groupId seed provider).1 = .error error) ↔
        holdsGroup provider groupId = true
  buildKeyPackage_ok :
    ∀ identity seed provider,
      ∃ keyPackage,
        (buildKeyPackage identity seed provider).1 = .ok keyPackage
  keyPackage_small :
    ∀ keyPackage, ∀ length ∈ keyPackages.vectors keyPackage, length < 2 ^ 30
  ratchetTree_small :
    ∀ tree, ∀ length ∈ ratchetTrees.vectors tree, length < 2 ^ 30
  message_small :
    ∀ message, ∀ length ∈ messages.vectors message, length < 2 ^ 30

/-! ## Two ways to treat an error -/

section Errors

variable {State Value : Type}

/-- `?`: the error becomes a `JsError`. -/
def question (action : Throwing State CodeUnits Value) :
    Throwing State Thrown Value :=
  zoom id (fun reached _ => reached) .jsError action

/-- `unwrap`: the error becomes a panic. -/
def unwrap (action : Throwing State CodeUnits Value) :
    Throwing State Thrown Value :=
  zoom id (fun reached _ => reached) (fun _ => .trap) action

theorem avoids_question (action : Throwing State CodeUnits Value) :
    Avoids .trap (question action) :=
  avoids_zoom fun _ _ _ => nofun

/-- An `unwrap` of what does not fail. -/
theorem avoids_unwrap
    {action : Throwing State CodeUnits Value}
    (succeeds : ∀ state, ∃ value, (action state).1 = .ok value) :
    Avoids .trap (unwrap action) := by
  refine avoids_zoom fun state error failed => ?_
  rcases succeeds state with ⟨value, returned⟩
  rw [id, returned] at failed
  cases failed

/-- An `unwrap` panics exactly where its operation fails. -/
theorem unwrap_trap_iff
    (action : Throwing State CodeUnits Value) (state : State) :
    (unwrap action state).1 = .error .trap ↔
      ∃ error, (action state).1 = .error error := by
  unfold unwrap zoom
  rw [id]
  split
  · next error reached failed =>
    rw [failed]
    exact ⟨fun _ => ⟨error, rfl⟩, fun _ => rfl⟩
  · next value reached returned =>
    rw [returned]
    exact ⟨nofun, nofun⟩

end Errors

variable
  {Provider Identity Group KeyPackage RatchetTree Message Incoming Epoch
    Proposal Seed State : Type}

section Bindings

variable
  (crate : Crate Provider Identity Group KeyPackage RatchetTree Message
    Incoming Epoch Proposal Seed)
  (identity : Identity) (seed : Seed)

/-! ## Serializers and parsers -/

/-- `mls_message_to_uint8array`. -/
def mlsMessageToUint8array (message : Message) :
    Throwing State Thrown Bytes :=
  unwrap (ofExcept (crate.messages.tlsSerialize message))

/-- `KeyPackage::to_bytes`. -/
def keyPackageToBytes (keyPackage : KeyPackage) :
    Throwing State Thrown Bytes :=
  unwrap (ofExcept (crate.keyPackages.tlsSerialize keyPackage))

/-- `RatchetTree::to_bytes`. -/
def ratchetTreeToBytes (tree : RatchetTree) : Throwing State Thrown Bytes :=
  unwrap (ofExcept (crate.ratchetTrees.tlsSerialize tree))

/-- `KeyPackage::from_bytes`. -/
def keyPackageFromBytes (bytes : Bytes) :
    Throwing State Thrown KeyPackage := do
  let parsed ← question (ofExcept
    ((crate.deserializeKeyPackage bytes).mapError fun error =>
      literal "KeyPackage deserialization error: " ++ error))
  question (ofExcept
    ((crate.validateKeyPackage parsed).mapError fun error =>
      literal "KeyPackage validation error: " ++ error))

/-- `RatchetTree::from_bytes`. -/
def ratchetTreeFromBytes (bytes : Bytes) :
    Throwing State Thrown RatchetTree :=
  question (ofExcept
    ((crate.deserializeRatchetTree bytes).mapError fun error =>
      literal "RatchetTree deserialization error: " ++ error))

/-! ## The bindings of `Group` -/

/-- `Group::create_new`. -/
def createNew (groupId : CodeUnits) : Throwing Provider Thrown Group :=
  unwrap (crate.build identity (Utf8.encode groupId) seed)

/-- `Group::join`. -/
def join (welcome : Bytes) (tree : RatchetTree) :
    Throwing Provider Thrown Group := do
  let (body, incoming) ←
    question (ofExcept (crate.deserializeMessage welcome))
  match body with
  | .welcome => question (crate.newFromWelcome incoming tree)
  | .publicMessage | .privateMessage | .groupInfo | .keyPackage =>
      raise
        (.jsError
          (literal "expected a message of type welcome, got " ++
            crate.debug body incoming))

/-- A binding of one group. -/
abbrev GroupCall (Provider Group Value : Type) : Type :=
  Throwing (Provider × Group) Thrown Value

/-- `propose_and_commit_add`. -/
def proposeAndCommitAdd (newMember : KeyPackage) :
    GroupCall Provider Group (Bytes × Bytes × Bytes) := do
  let proposal ← question (crate.proposeAddMember identity newMember seed)
  let (commit, welcome) ←
    question (crate.commitToPendingProposals identity seed)
  match welcome with
  | none => raise (.jsError crate.noWelcome)
  | some welcome => do
      let proposal ← mlsMessageToUint8array crate proposal
      let commit ← mlsMessageToUint8array crate commit
      let welcome ← mlsMessageToUint8array crate welcome
      return (proposal, commit, welcome)

/-- The bytes of an optional message, empty if there is none. -/
def optionalToUint8array :
    Option Message → GroupCall Provider Group Bytes
  | none => return []
  | some message => mlsMessageToUint8array crate message

/-- `CommitResult::new`: proposal, commit and welcome. -/
def commitResult
    (proposal : Option Message) (commit : Message)
    (welcome : Option Message) :
    GroupCall Provider Group (Bytes × Bytes × Bytes) := do
  let proposal ← optionalToUint8array crate proposal
  let commit ← mlsMessageToUint8array crate commit
  let welcome ← optionalToUint8array crate welcome
  return (proposal, commit, welcome)

/-- The common course of the bindings that propose and commit. -/
def proposeAndCommit
    (propose : Throwing (Provider × Group) CodeUnits Message) :
    GroupCall Provider Group (Bytes × Bytes × Bytes) := do
  let proposal ← question propose
  let (commit, welcome) ←
    question (crate.commitToPendingProposals identity seed)
  commitResult crate (some proposal) commit welcome

/-- `commit_pending`. -/
def commitPending : GroupCall Provider Group (Bytes × Bytes × Bytes) := do
  let (commit, welcome) ←
    question (crate.commitToPendingProposals identity seed)
  commitResult crate none commit welcome

/-- The common course of the bindings that only propose. -/
def proposeOnly (propose : Throwing (Provider × Group) CodeUnits Message) :
    GroupCall Provider Group Bytes := do
  mlsMessageToUint8array crate (← question propose)

/-- `create_message`, whose serializer does not panic. -/
def createMessage (message : Bytes) : GroupCall Provider Group Bytes := do
  let message ← question (crate.createMessage identity message seed)
  question (ofExcept (crate.messages.tlsSerialize message))

/-- What `process_message` does with the content of a message. -/
def applyContent :
    ProcessedContent Epoch Proposal → GroupCall Provider Group Bytes
  | .applicationMessage bytes => return bytes
  | .proposalMessage proposal => do
      question (crate.storePendingProposal proposal)
      return []
  | .externalJoinProposalMessage proposal => do
      question (crate.storePendingProposal proposal)
      return []
  | .stagedCommitMessage staged => do
      question (crate.mergeStagedCommit staged)
      return []
  | .ownPendingCommit => do
      question crate.mergePendingCommit
      return []
  | .ownPrivateMessage => return []

/-- `process_message`. -/
def processMessage (message : Bytes) : GroupCall Provider Group Bytes := do
  let (body, incoming) ← unwrap (ofExcept (crate.deserializeMessage message))
  match body with
  | .publicMessage | .privateMessage => do
      applyContent crate (← question (crate.processMessage incoming))
  | .welcome | .groupInfo | .keyPackage => raise .trap

/-! ## The facade -/

/-- A method of `Group`. -/
inductive Method where
  | add (keyPackage : Bytes)
  | remove (memberName : CodeUnits)
  | update
  | leave
  | commit
  | proposeAdd (keyPackage : Bytes)
  | proposeRemove (memberName : CodeUnits)
  | proposeUpdate
  | members
  | active
  | send (message : CodeUnits ⊕ Bytes)
  | receive (message : Bytes)
  | receiveText (message : Bytes)
  | exportRatchetTree
  | exportKey (label : CodeUnits) (context : Bytes) (length : Nat)
deriving DecidableEq, Repr

/-- What a call returns. -/
inductive Reply where
  | nothing
  | bytes (bytes : Bytes)
  | text (text : Option CodeUnits)
  | names (names : List CodeUnits)
  | flag (flag : Bool)
  | added (result : AddResult)
  | committed (result : Commit)
  | group (handle : Option Nat)

/-- `Group.exportRatchetTree`. -/
def exportRatchetTree : GroupCall Provider Group Bytes := do
  let (_, group) ← Throwing.read
  ratchetTreeToBytes crate (crate.exportRatchetTree group)

/-- `Group.add`. -/
def add (keyPackage : Bytes) : GroupCall Provider Group AddResult := do
  let keyPackage ← keyPackageFromBytes crate keyPackage
  let (proposal, commit, welcome) ←
    proposeAndCommitAdd crate identity seed keyPackage
  question crate.mergePendingCommit
  let ratchetTree ← exportRatchetTree crate
  return { welcome, ratchetTree, proposal, commit }

/-- A commit that the committer applies to its own group. -/
def mergeOwn (commit : GroupCall Provider Group (Bytes × Bytes × Bytes)) :
    GroupCall Provider Group Commit := do
  let (proposal, commit, welcome) ← commit
  question crate.mergePendingCommit
  return toCommit proposal commit welcome

/-- The local `bytes` of `Group.send`. -/
def contentOf : CodeUnits ⊕ Bytes → Bytes
  | .inl text => Utf8.encode text
  | .inr bytes => bytes

/-- The end of `Group.receiveText`. -/
def textOf (bytes : Bytes) : Option CodeUnits :=
  if bytes.length = 0 then none else some (Utf8.decode bytes)

/-- Call a method of a group. -/
def Method.perform : Method → GroupCall Provider Group Reply
  | .add keyPackage => do
      return .added (← WasmTraps.add crate identity seed keyPackage)
  | .remove memberName => do
      return .committed (← mergeOwn crate
        (proposeAndCommit crate identity seed
          (crate.proposeRemoveMemberByCredential identity
            (Utf8.encode memberName) seed)))
  | .update => do
      return .committed (← mergeOwn crate
        (proposeAndCommit crate identity seed
          (crate.proposeSelfUpdate identity seed)))
  | .leave => do
      return .bytes (← proposeOnly crate (crate.leaveGroup identity seed))
  | .commit => do
      return .committed (← mergeOwn crate (commitPending crate identity seed))
  | .proposeAdd keyPackage => do
      let newMember ← keyPackageFromBytes crate keyPackage
      return .bytes (← proposeOnly crate
        (crate.proposeAddMember identity newMember seed))
  | .proposeRemove memberName => do
      return .bytes (← proposeOnly crate
        (crate.proposeRemoveMemberByCredential identity
          (Utf8.encode memberName) seed))
  | .proposeUpdate => do
      return .bytes (← proposeOnly crate
        (crate.proposeSelfUpdate identity seed))
  | .members => do
      let (_, group) ← Throwing.read
      return .names ((crate.members group).map lossyName)
  | .active => do
      let (_, group) ← Throwing.read
      return .flag (crate.isActive group)
  | .send message => do
      return .bytes (← createMessage crate identity seed (contentOf message))
  | .receive message => do
      return .bytes (← processMessage crate message)
  | .receiveText message => do
      return .text (textOf (← processMessage crate message))
  | .exportRatchetTree => do
      return .bytes (← WasmTraps.exportRatchetTree crate)
  | .exportKey label context length => do
      let (_, group) ← Throwing.read
      return .bytes (← question (ofExcept
        (crate.exportSecret group label context length)))

/-- `MlsClient`, with every group object it has handed out. -/
structure Client (Provider Identity Group : Type) where
  provider : Provider
  identity : Identity
  handles : List Group
  groups : InsertionMap CodeUnits Nat

/-- A method of `MlsClient`, or of a group object that it handed out. -/
inductive Call where
  | keyPackage
  | createGroup (groupId : CodeUnits)
  | joinGroup (welcome ratchetTree : Bytes) (groupId : Option CodeUnits)
  | group (groupId : CodeUnits)
  | save
  | onGroup (handle : Nat) (method : Method)
deriving DecidableEq, Repr

/-- Run a binding on the provider of the client. -/
def onProvider {Value : Type} (action : Throwing Provider Thrown Value) :
    Throwing (Client Provider Identity Group) Thrown Value :=
  zoom Client.provider
    (fun provider client => { client with provider := provider }) id action

/-- Run a binding on the provider and on one group of the client. -/
def onHandle
    {Value : Type} (handle : Nat) (group : Group)
    (action : GroupCall Provider Group Value) :
    Throwing (Client Provider Identity Group) Thrown Value :=
  zoom (fun client => (client.provider, group))
    (fun reached client =>
      { client with
        provider := reached.1
        handles := client.handles.set handle reached.2 })
    id action

/-- `#makeGroup`: hand out a group object. -/
def makeGroup (group : Group) :
    Throwing (Client Provider Identity Group) Thrown Nat := do
  let client ← Throwing.read
  Throwing.update fun client =>
    { client with handles := client.handles ++ [group] }
  return client.handles.length

/-- `this.#groups.set`. -/
def enter (groupId : CodeUnits) (handle : Nat) :
    Throwing (Client Provider Identity Group) Thrown Unit :=
  Throwing.update fun client =>
    { client with groups := client.groups.set groupId handle }

/-- `MlsClient.createGroup`. -/
def createGroup (groupId : CodeUnits) :
    Throwing (Client Provider Identity Group) Thrown Nat := do
  let client ← Throwing.read
  let inner ← onProvider (createNew crate client.identity seed groupId)
  let handle ← makeGroup inner
  enter groupId handle
  return handle

/-- `MlsClient.joinGroup`. -/
def joinGroup (welcome ratchetTree : Bytes) (groupId : Option CodeUnits) :
    Throwing (Client Provider Identity Group) Thrown Nat := do
  let tree ← ratchetTreeFromBytes crate ratchetTree
  let inner ← onProvider (join crate welcome tree)
  let handle ← makeGroup inner
  match groupId with
  | none => return handle
  | some groupId => do
      enter groupId handle
      return handle

/-- `MlsClient.keyPackage`. -/
def keyPackage :
    Throwing (Client Provider Identity Group) Thrown Bytes := do
  let client ← Throwing.read
  let keyPackage ← onProvider
    (unwrap (crate.buildKeyPackage client.identity seed))
  keyPackageToBytes crate keyPackage

/-- Make a call. -/
def Call.perform :
    Call → Throwing (Client Provider Identity Group) Thrown Reply
  | .keyPackage => do return .bytes (← WasmTraps.keyPackage crate seed)
  | .createGroup groupId => do
      return .group (some (← WasmTraps.createGroup crate seed groupId))
  | .joinGroup welcome ratchetTree groupId => do
      return .group
        (some (← WasmTraps.joinGroup crate welcome ratchetTree groupId))
  | .group groupId => do
      return .group ((← Throwing.read).groups.get groupId)
  | .save => do
      let client ← Throwing.read
      let _ ← question (ofExcept (crate.serializeIdentity client.identity))
      return .nothing
  | .onGroup handle method => do
      let client ← Throwing.read
      match client.handles[handle]? with
      | none => return .nothing
      | some inner =>
          onHandle handle inner (method.perform crate client.identity seed)

/-! ## The clients of a page -/

/-- What happens in the page. -/
inductive Event (Seed : Type) where
  | connect (name : CodeUnits) (seed : Seed)
  | call (client : Nat) (call : Call) (seed : Seed)
deriving DecidableEq, Repr

/-- `new MlsClient(name)`; a client whose identity fails is not made. -/
def connect
    (name : CodeUnits)
    (clients : List (Client Provider Identity Group)) :
    List (Client Provider Identity Group) :=
  match crate.newIdentity (Utf8.encode name) seed crate.newProvider with
  | (.error _, _) => clients
  | (.ok identity, provider) =>
      clients ++ [{ provider, identity, handles := [], groups := .empty }]

/-- The clients of a page; there is no next state behind a call that traps. -/
def machine :
    Machine (List (Client Provider Identity Group)) (Event Seed) where
  step clients
    | .connect name seed => some (connect crate seed name clients)
    | .call index call seed =>
        match clients[index]? with
        | none => some clients
        | some client =>
            match call.perform crate seed client with
            | (.error .trap, _) => none
            | (_, reached) => some (clients.set index reached)

/-! ## The calls that trap -/

/-- The bytes of a public or a private message. -/
def isProtocolMessage (message : Bytes) : Bool :=
  match crate.deserializeMessage message with
  | .ok (.publicMessage, _) => true
  | .ok (.privateMessage, _) => true
  | _ => false

/-- A method that is handed something other than a protocol message. -/
def Method.Careless : Method → Prop
  | .receive message => isProtocolMessage crate message = false
  | .receiveText message => isProtocolMessage crate message = false
  | _ => False

/--
A call that creates a group once more, or hands a group something other than a
protocol message.
-/
def Careless (client : Client Provider Identity Group) : Call → Prop
  | .createGroup groupId =>
      crate.holdsGroup client.provider (Utf8.encode groupId) = true
  | .onGroup handle method =>
      handle < client.handles.length ∧ method.Careless crate
  | _ => False

/-- The same of an event in the page. -/
def CarelessEvent (clients : List (Client Provider Identity Group)) :
    Event Seed → Prop
  | .connect _ _ => False
  | .call index call _ =>
      ∃ client, clients[index]? = some client ∧ Careless crate client call

end Bindings

/-! ## Every other call returns or throws -/

section Traps

variable
  {crate : Crate Provider Identity Group KeyPackage RatchetTree Message
    Incoming Epoch Proposal Seed}
  {identity : Identity} {seed : Seed}

theorem avoids_mlsMessageToUint8array (message : Message) :
    Avoids .trap
      (mlsMessageToUint8array crate message :
        Throwing State Thrown Bytes) :=
  avoids_unwrap fun _ =>
    ⟨_, Codec.tlsSerialize_eq (crate.message_small message)⟩

theorem avoids_ratchetTreeToBytes (tree : RatchetTree) :
    Avoids .trap
      (ratchetTreeToBytes crate tree : Throwing State Thrown Bytes) :=
  avoids_unwrap fun _ =>
    ⟨_, Codec.tlsSerialize_eq (crate.ratchetTree_small tree)⟩

theorem avoids_keyPackageToBytes (keyPackage : KeyPackage) :
    Avoids .trap
      (keyPackageToBytes crate keyPackage : Throwing State Thrown Bytes) :=
  avoids_unwrap fun _ =>
    ⟨_, Codec.tlsSerialize_eq (crate.keyPackage_small keyPackage)⟩

theorem avoids_keyPackageFromBytes (bytes : Bytes) :
    Avoids .trap
      (keyPackageFromBytes crate bytes :
        Throwing State Thrown KeyPackage) :=
  avoids_bind (avoids_question _) fun _ => avoids_question _

/-- `join` meets a message of the wrong kind with an error. -/
theorem avoids_join (welcome : Bytes) (tree : RatchetTree) :
    Avoids .trap (join crate welcome tree) := by
  refine avoids_bind (avoids_question _) ?_
  rintro ⟨body, incoming⟩
  cases body with
  | welcome => exact avoids_question _
  | publicMessage => exact avoids_raise nofun
  | privateMessage => exact avoids_raise nofun
  | groupInfo => exact avoids_raise nofun
  | keyPackage => exact avoids_raise nofun

theorem avoids_proposeAndCommitAdd (newMember : KeyPackage) :
    Avoids .trap
      (proposeAndCommitAdd crate identity seed newMember) := by
  refine avoids_bind (avoids_question _) fun proposal => ?_
  refine avoids_bind (avoids_question _) ?_
  rintro ⟨commit, welcome⟩
  cases welcome with
  | none => exact avoids_raise nofun
  | some welcome =>
      refine avoids_bind (avoids_mlsMessageToUint8array _)
        fun _ => ?_
      refine avoids_bind (avoids_mlsMessageToUint8array _)
        fun _ => ?_
      exact avoids_bind (avoids_mlsMessageToUint8array _)
        fun _ => avoids_pure _

theorem avoids_optionalToUint8array (message : Option Message) :
    Avoids .trap (optionalToUint8array crate message) := by
  cases message with
  | none => exact avoids_pure _
  | some message => exact avoids_mlsMessageToUint8array _

theorem avoids_commitResult
    (proposal : Option Message) (commit : Message)
    (welcome : Option Message) :
    Avoids .trap (commitResult crate proposal commit welcome) := by
  refine avoids_bind (avoids_optionalToUint8array _) fun _ => ?_
  refine avoids_bind (avoids_mlsMessageToUint8array _) fun _ => ?_
  exact avoids_bind (avoids_optionalToUint8array _)
    fun _ => avoids_pure _

theorem avoids_proposeAndCommit
    (propose : Throwing (Provider × Group) CodeUnits Message) :
    Avoids .trap
      (proposeAndCommit crate identity seed propose) :=
  avoids_bind (avoids_question _) fun _ =>
    avoids_bind (avoids_question _) fun _ =>
      avoids_commitResult _ _ _

theorem avoids_commitPending :
    Avoids .trap (commitPending crate identity seed) :=
  avoids_bind (avoids_question _) fun _ =>
    avoids_commitResult _ _ _

theorem avoids_proposeOnly
    (propose : Throwing (Provider × Group) CodeUnits Message) :
    Avoids .trap (proposeOnly crate propose) :=
  avoids_bind (avoids_question _) fun _ =>
    avoids_mlsMessageToUint8array _

theorem avoids_mergeOwn
    {commit : GroupCall Provider Group (Bytes × Bytes × Bytes)}
    (made : Avoids .trap commit) :
    Avoids .trap (mergeOwn crate commit) :=
  avoids_bind made fun _ =>
    avoids_bind (avoids_question _) fun _ =>
      avoids_pure _

theorem avoids_exportRatchetTree :
    Avoids .trap (exportRatchetTree crate) :=
  avoids_bind avoids_read fun _ =>
    avoids_ratchetTreeToBytes _

theorem avoids_add (keyPackage : Bytes) :
    Avoids .trap (add crate identity seed keyPackage) := by
  refine avoids_bind (avoids_keyPackageFromBytes _) fun _ => ?_
  refine avoids_bind (avoids_proposeAndCommitAdd _) fun _ => ?_
  refine avoids_bind (avoids_question _) fun _ => ?_
  exact avoids_bind avoids_exportRatchetTree
    fun _ => avoids_pure _

theorem avoids_applyContent (content : ProcessedContent Epoch Proposal) :
    Avoids .trap (applyContent crate content) := by
  cases content with
  | applicationMessage bytes => exact avoids_pure _
  | ownPrivateMessage => exact avoids_pure _
  | proposalMessage proposal
  | externalJoinProposalMessage proposal
  | stagedCommitMessage staged
  | ownPendingCommit =>
      exact avoids_bind (avoids_question _)
        fun _ => avoids_pure _

/-- A protocol message is processed, or refused with an error. -/
theorem avoids_processMessage
    {message : Bytes} (careful : isProtocolMessage crate message = true) :
    Avoids .trap (processMessage crate message) := by
  unfold isProtocolMessage at careful
  have processed :
      ∀ incoming,
        Avoids .trap
          (question (crate.processMessage incoming) >>=
            applyContent crate) :=
    fun incoming =>
      avoids_bind (avoids_question _) avoids_applyContent
  intro state
  split at careful
  · next incoming parsed =>
    rw [processMessage, parsed]
    exact processed incoming state
  · next incoming parsed =>
    rw [processMessage, parsed]
    exact processed incoming state
  · cases careful

/-- Anything else is a panic, whatever the state of the group. -/
theorem processMessage_of_careless
    {message : Bytes} (careless : isProtocolMessage crate message = false)
    (state : Provider × Group) :
    (processMessage crate message state).1 = .error .trap := by
  unfold isProtocolMessage at careless
  rw [processMessage]
  cases parsed : crate.deserializeMessage message with
  | error error => rfl
  | ok entry =>
      rcases entry with ⟨body, incoming⟩
      rw [parsed] at careless
      cases body with
      | publicMessage => cases careless
      | privateMessage => cases careless
      | welcome => rfl
      | groupInfo => rfl
      | keyPackage => rfl

theorem processMessage_trap_iff (message : Bytes) (state : Provider × Group) :
    (processMessage crate message state).1 = .error .trap ↔
      isProtocolMessage crate message = false := by
  cases careful : isProtocolMessage crate message with
  | false =>
      exact iff_of_true (processMessage_of_careless careful state) rfl
  | true => exact iff_of_false (avoids_processMessage careful state) nofun

/-- A method panics exactly if it is careless. -/
theorem Method.perform_trap_iff (method : Method) (state : Provider × Group) :
    (method.perform crate identity seed state).1 = .error .trap ↔
      method.Careless crate := by
  have returns :
      ∀ {Value : Type} {action : GroupCall Provider Group Value}
        {wrap : Value → Reply},
        ((action >>= fun value => pure (wrap value)) state).1 =
            .error .trap ↔
          (action state).1 = .error .trap :=
    fun {_ _ _} =>
      bind_error_iff (fun _ => avoids_pure _) state
  cases method with
  | add keyPackage => exact iff_of_false (returns.not.mpr (avoids_add _ _)) id
  | remove memberName =>
      exact iff_of_false
        (returns.not.mpr (avoids_mergeOwn (avoids_proposeAndCommit _) _)) id
  | update =>
      exact iff_of_false
        (returns.not.mpr (avoids_mergeOwn (avoids_proposeAndCommit _) _)) id
  | leave => exact iff_of_false (returns.not.mpr (avoids_proposeOnly _ _)) id
  | commit =>
      exact iff_of_false
        (returns.not.mpr (avoids_mergeOwn avoids_commitPending _)) id
  | proposeAdd keyPackage =>
      refine iff_of_false (avoids_bind ?_ ?_ state) id
      · exact avoids_keyPackageFromBytes _
      · intro newMember
        exact avoids_bind (avoids_proposeOnly _)
          fun _ => avoids_pure _
  | proposeRemove memberName =>
      exact iff_of_false (returns.not.mpr (avoids_proposeOnly _ _)) id
  | proposeUpdate =>
      exact iff_of_false (returns.not.mpr (avoids_proposeOnly _ _)) id
  | members => exact iff_of_false nofun id
  | active => exact iff_of_false nofun id
  | send message =>
      refine iff_of_false (returns.not.mpr ?_) id
      exact avoids_bind (avoids_question _) (fun _ => avoids_question _) state
  | receive message => exact returns.trans (processMessage_trap_iff _ _)
  | receiveText message => exact returns.trans (processMessage_trap_iff _ _)
  | exportRatchetTree =>
      exact iff_of_false (returns.not.mpr (avoids_exportRatchetTree _)) id
  | exportKey label context length =>
      exact iff_of_false (returns.not.mpr (avoids_question _ _)) id

theorem avoids_makeGroup (group : Group) :
    Avoids .trap
      (makeGroup group :
        Throwing (Client Provider Identity Group) Thrown Nat) :=
  fun _ => nofun

theorem avoids_enter (groupId : CodeUnits) (handle : Nat) :
    Avoids .trap
      (enter groupId handle :
        Throwing (Client Provider Identity Group) Thrown Unit) :=
  avoids_update _

theorem avoids_onProvider
    {Value : Type} {action : Throwing Provider Thrown Value}
    (inner : Avoids .trap action) :
    Avoids .trap
      (onProvider action :
        Throwing (Client Provider Identity Group) Thrown Value) := by
  intro client
  rw [onProvider, zoom_id_fst]
  exact inner client.provider

theorem avoids_joinGroup
    (welcome ratchetTree : Bytes) (groupId : Option CodeUnits) :
    Avoids .trap
      (joinGroup crate welcome ratchetTree groupId :
        Throwing (Client Provider Identity Group) Thrown Nat) := by
  refine avoids_bind (avoids_question _) fun tree => ?_
  refine avoids_bind (avoids_onProvider (avoids_join _ _))
    fun inner => ?_
  refine avoids_bind (avoids_makeGroup inner) fun handle => ?_
  cases groupId with
  | none => exact avoids_pure _
  | some groupId =>
      exact avoids_bind (avoids_enter _ _)
        fun _ => avoids_pure _

theorem avoids_keyPackage :
    Avoids .trap
      (keyPackage crate seed :
        Throwing (Client Provider Identity Group) Thrown Bytes) := by
  refine avoids_bind avoids_read fun client => ?_
  refine avoids_bind (avoids_onProvider ?_)
    fun keyPackage => avoids_keyPackageToBytes _
  exact avoids_unwrap (crate.buildKeyPackage_ok client.identity seed)

/-- `createGroup` panics exactly if the identifier is taken. -/
theorem createGroup_trap_iff
    (groupId : CodeUnits) (client : Client Provider Identity Group) :
    (createGroup crate seed groupId client).1 = .error .trap ↔
      crate.holdsGroup client.provider (Utf8.encode groupId) = true := by
  rw [createGroup, read_bind, bind_error_iff, onProvider,
    zoom_id_fst, createNew, unwrap_trap_iff,
    crate.build_fails_iff]
  intro inner
  refine avoids_bind (avoids_makeGroup inner) fun handle => ?_
  exact avoids_bind (avoids_enter _ _)
    fun _ => avoids_pure _

/-- A call panics exactly if it is careless. -/
theorem Call.perform_trap_iff
    (call : Call) (seed : Seed) (client : Client Provider Identity Group) :
    (call.perform crate seed client).1 = .error .trap ↔
      Careless crate client call := by
  cases call with
  | keyPackage =>
      exact iff_of_false
        (avoids_bind avoids_keyPackage (fun _ => avoids_pure _) client) id
  | createGroup groupId =>
      exact
        (bind_error_iff (fun _ => avoids_pure _)
          client).trans (createGroup_trap_iff groupId client)
  | joinGroup welcome ratchetTree groupId =>
      exact iff_of_false
        (avoids_bind (avoids_joinGroup _ _ _)
          (fun _ => avoids_pure _) client) id
  | group groupId => exact iff_of_false nofun id
  | save =>
      exact iff_of_false
        (avoids_bind avoids_read
          (fun _ => avoids_bind (avoids_question _)
            fun _ => avoids_pure _) client) id
  | onGroup handle method =>
      rw [perform, read_bind, Careless]
      cases held : client.handles[handle]? with
      | none =>
          refine iff_of_false nofun ?_
          rintro ⟨inside, -⟩
          rw [List.getElem?_eq_getElem inside] at held
          cases held
      | some inner =>
          have inside : handle < client.handles.length :=
            (List.getElem?_eq_some_iff.mp held).1
          change
            (onHandle handle inner
              (method.perform crate client.identity seed) client).1 =
                .error .trap ↔ _
          rw [onHandle, zoom_id_fst, method.perform_trap_iff]
          exact ⟨fun careless => ⟨inside, careless⟩, And.right⟩

end Traps

/-! ## Runs -/

section Runs

variable
  (crate : Crate Provider Identity Group KeyPackage RatchetTree Message
    Incoming Epoch Proposal Seed)

theorem step_eq_none_iff
    (clients : List (Client Provider Identity Group)) (event : Event Seed) :
    (machine crate).step clients event = none ↔
      CarelessEvent crate clients event := by
  cases event with
  | connect name seed => exact iff_of_false nofun id
  | call index call seed =>
      cases held : clients[index]? with
      | none =>
          simp only [machine, held, CarelessEvent]
          exact ⟨nofun, nofun⟩
      | some client =>
          simp only [machine, held, CarelessEvent, Option.some.injEq,
            exists_eq_left', ← call.perform_trap_iff seed]
          split
          · next reached trapped =>
            rw [trapped]
            exact ⟨fun _ => rfl, fun _ => rfl⟩
          · next outcome reached other performed =>
            refine iff_of_false nofun ?_
            rw [performed]
            exact other

/--
A call traps exactly if it creates a group whose identifier is stored, or hands
a group bytes that are not a public or a private message; every other call
returns or throws a `JsError`.  A run meets a trap exactly if a call of it is
careless in the state it meets.
-/
theorem traps_iff_careless :
    (∀ (client : Client Provider Identity Group) (call : Call)
        (seed : Seed),
      (call.perform crate seed client).1 = .error .trap ↔
        Careless crate client call) ∧
      ∀ (clients : List (Client Provider Identity Group))
          (events : List (Event Seed)),
        (machine crate).run clients events = none ↔
          ∃ before event after reached,
            events = before ++ event :: after ∧
              (machine crate).run clients before = some reached ∧
                CarelessEvent crate reached event := by
  refine ⟨fun client call seed => call.perform_trap_iff seed client, ?_⟩
  intro clients events
  rw [Machine.run_eq_none_iff]
  simp only [step_eq_none_iff]

end Runs

/-! ## A second group of one name -/

/-- A library that keeps the identifiers of its groups and nothing else. -/
def ledger :
    Crate (List Bytes) Bytes Bytes Bytes Bytes Bytes Bytes Unit Unit
      Unit where
  newProvider := []
  newIdentity name _ := pure name
  serializeIdentity name := .ok name
  buildKeyPackage name _ := pure name
  build _ groupId _ provider :=
    if provider.contains groupId then
      (.error (literal "A group with this [`GroupId`] already exists."),
        provider)
    else
      (.ok groupId, provider ++ [groupId])
  deserializeMessage
    | 0 :: 1 :: 0 :: 1 :: content => .ok (.publicMessage, content)
    | 0 :: 1 :: 0 :: 2 :: content => .ok (.privateMessage, content)
    | 0 :: 1 :: 0 :: 3 :: content => .ok (.welcome, content)
    | 0 :: 1 :: 0 :: 4 :: content => .ok (.groupInfo, content)
    | 0 :: 1 :: 0 :: 5 :: content => .ok (.keyPackage, content)
    | _ => .error (literal "Decoding error")
  deserializeKeyPackage bytes := .ok bytes
  validateKeyPackage bytes := .ok bytes
  deserializeRatchetTree bytes := .ok bytes
  debug _ _ := literal "a message"
  newFromWelcome welcome _ provider := (.ok welcome, provider ++ [welcome])
  proposeAddMember _ newMember _ := pure newMember
  proposeRemoveMemberByCredential _ name _ := pure name
  proposeSelfUpdate name _ := pure name
  leaveGroup name _ := pure name
  commitToPendingProposals name _ := pure (name, some name)
  mergePendingCommit := pure ()
  mergeStagedCommit _ := pure ()
  storePendingProposal _ := pure ()
  createMessage _ message _ := pure message
  processMessage content := pure (.applicationMessage content)
  exportRatchetTree group := group
  members group := [group]
  isActive _ := true
  exportSecret _ _ context _ := .ok context
  noWelcome := literal "no welcome"
  keyPackages := { vectors _ := [], encoding := id, tooLong := [] }
  ratchetTrees := { vectors _ := [], encoding := id, tooLong := [] }
  messages := { vectors _ := [], encoding := id, tooLong := [] }
  holdsGroup provider groupId := provider.contains groupId
  build_fails_iff identity groupId seed provider := by
    split
    · next stored => exact ⟨fun _ => stored, fun _ => ⟨_, rfl⟩⟩
    · next fresh => exact ⟨nofun, fun stored => absurd stored fresh⟩
  buildKeyPackage_ok identity seed provider := ⟨_, rfl⟩
  keyPackage_small _ := nofun
  ratchetTree_small _ := nofun
  message_small _ := nofun

/--
The calls of two clients go through, but a call traps with which one of them
creates `g` a second time, or hands its group a welcome or bytes that are no
message.
-/
theorem three_calls_that_trap :
    let start : List (Event Unit) :=
      [.connect (literal "alice") (), .connect (literal "bob") (),
        .call 0 (.createGroup (literal "g")) ()]
    let later : Event Unit := .call 1 .keyPackage ()
    ((machine ledger).run [] (start ++ [later])).isSome = true ∧
      ((machine ledger).run []
        (start ++ [.call 0 (.createGroup (literal "g")) (), later])).isSome =
          false ∧
      ((machine ledger).run []
        (start ++
          [.call 0 (.onGroup 0 (.receive [0xff, 0x00, 0x13, 0x37])) (),
            later])).isSome = false ∧
      ((machine ledger).run []
        (start ++
          [.call 0 (.onGroup 0 (.receive [0, 1, 0, 3])) (),
            later])).isSome = false := by
  decide +kernel

end Mls4rn.Core.WasmTraps
