import Mls4rn.OpenMls.PastSecrets

/-!
# Messages of a group

`create_message`, `process_message` and what surrounds them in `mls_group`, as
the bindings call them: a member signs and encrypts messages with the secrets
of the current epoch, and decrypts and verifies the messages of the current
and of retained past epochs.  Merged commits enter the next epoch, and the
commit of the member itself is pending until it is merged.  The secrets are
written to the storage before a message leaves `create_message` and before a
decrypted one is looked at, so that a client can be restarted from the storage
at any time.  Every write may fail; the group in memory has moved on then.

How a commit changes the tree and the key schedule is not looked at here.  What
comes out of it, the secrets and the members of the next epoch, is an argument.
-/

namespace Mls4rn.OpenMls.GroupMessages

open Mls4rn.Lib
open Mls4rn.Lib.ByteString
open Mls4rn.Lib.Throwing
open Mls4rn.Lib.WireFormat
open Mls4rn.OpenMls.Framing
open Mls4rn.OpenMls.KeyDerivation
open Mls4rn.OpenMls.PastSecrets
open Mls4rn.OpenMls.PrivateMessages
open Mls4rn.OpenMls.SecretTrees
open Mls4rn.OpenMls.SenderRatchet
open Mls4rn.OpenMls.TreeMath

/-! ## Errors and data -/

/-- The variants of `ValidationError` that a private message meets. -/
inductive ValidationError where
  | libraryError (error : LibraryError)
  | wrongGroupId
  | wrongEpoch
  | unencryptedApplicationMessage
  | unknownMember
  | missingConfirmationTag
  | invalidSignature
  | nonMemberApplicationMessage
  | unableToDecrypt (error : MessageDecryptionError)
deriving DecidableEq, Repr

/-- `MlsGroupStateError`, as far as it is thrown here. -/
inductive MlsGroupStateError where
  | useAfterEviction
  | pendingProposal
  | pendingCommit
deriving DecidableEq, Repr

/--
The variants of `ProcessMessageError` that a private message meets; the reasons
why a commit cannot be staged are left out.
-/
inductive ProcessMessageError where
  | groupStateError (error : MlsGroupStateError)
  | incompatibleWireFormat
  | validationError (error : ValidationError)
  | invalidCommit
  | storageError
deriving DecidableEq, Repr

/--
`CreateMessageError`, and what the errors of the functions that propose and
commit have in common.
-/
inductive CreateMessageError where
  | libraryError (error : LibraryError)
  | groupStateError (error : MlsGroupStateError)
  | storageError
deriving DecidableEq, Repr

/-- Why a call of the bindings fails; a merge fails with the storage only. -/
inductive Failure where
  | create (error : CreateMessageError)
  | process (error : ProcessMessageError)
  | groupState (error : MlsGroupStateError)
  | mergeCommitError
  | storageError
deriving DecidableEq, Repr

/-- `IncomingWireFormatPolicy`. -/
inductive IncomingWireFormatPolicy where
  | alwaysCiphertext
  | alwaysPlaintext
  | mixed
deriving DecidableEq, Repr

/-- `IncomingWireFormatPolicy::is_compatible_with`. -/
def IncomingWireFormatPolicy.isCompatibleWith (wireFormat : WireFormat) :
    IncomingWireFormatPolicy → Bool
  | .alwaysCiphertext => wireFormat = .privateMessage
  | .alwaysPlaintext => wireFormat = .publicMessage
  | .mixed => wireFormat = .privateMessage || wireFormat = .publicMessage

/-- `OutgoingWireFormatPolicy`. -/
inductive OutgoingWireFormatPolicy where
  | alwaysPlaintext
  | alwaysCiphertext
deriving DecidableEq, Repr

/-- `WireFormat::from` for an `OutgoingWireFormatPolicy`. -/
def OutgoingWireFormatPolicy.wireFormat : OutgoingWireFormatPolicy → WireFormat
  | .alwaysPlaintext => .publicMessage
  | .alwaysCiphertext => .privateMessage

/--
`StagedCommitState`: a member that was removed sees the public part only, the
others have the secrets of the next epoch.
-/
inductive StagedCommitState (Secret : Type) where
  | publicState
  | groupMember (encryptionSecret senderDataSecret : Secret)

/-- What a commit makes of the group, before it is known which group. -/
structure StagedDiff (Secret : Type) where
  serializedContext : Bytes
  members : List Member
  treeSize : TreeSize
  state : StagedCommitState Secret

/-- `StagedCommit`. -/
structure StagedCommit (Secret : Type) extends StagedDiff Secret where
  epoch : Nat

/-- `MlsGroupState`; no group starts with an external commit here. -/
inductive MlsGroupState (Secret : Type) where
  | pendingCommit (staged : StagedCommit Secret)
  | operational
  | inactive

/--
`MlsGroup`, as far as its messages need it.  The public group is its context,
the members at the leaves of its tree, the size of the tree, and whether the
proposal store has an entry.
-/
structure MlsGroup (Secret : Type) where
  groupId : Bytes
  epoch : Nat
  serializedContext : Bytes
  members : List Member
  treeSize : TreeSize
  ownLeafIndex : LeafNodeIndex
  groupState : MlsGroupState Secret
  hasProposals : Bool
  aad : Bytes
  paddingSize : Nat
  senderRatchetConfiguration : SenderRatchetConfiguration
  incomingPolicy : IncomingWireFormatPolicy
  outgoingPolicy : OutgoingWireFormatPolicy
  store : MessageSecretsStore Secret

/--
A group in memory, and what `MlsGroup::load` would find in the storage.  The
storage is to fail at some of the next writes, and at none behind them.
-/
structure Client (Secret : Type) where
  group : MlsGroup Secret
  stored : MlsGroup Secret
  faults : List Bool

/-- `InboundDecryptionResult`. -/
inductive InboundDecryptionResult (Proposal Commit : Type) where
  | ownPrivateMessage (epoch : Nat) (authenticatedData : Bytes)
  | decrypted (content : VerifiableAuthenticatedContent Proposal Commit)
deriving DecidableEq, Repr

/-- A message of our own, or `VerifiedMessage`. -/
inductive Inbound (Proposal Commit : Type) where
  | ownPrivateMessage (epoch : Nat) (authenticatedData : Bytes)
  | verified (content : FramedContent Proposal Commit) (credential : Bytes)
deriving DecidableEq, Repr

/-- `HandshakeFramingOutput`; a public message is without its membership tag. -/
inductive HandshakeFramingOutput (Proposal Commit : Type) where
  | publicMessage (content : AuthenticatedContent Proposal Commit)
  | privateMessage (generation : Nat) (message : PrivateMessage)
deriving DecidableEq, Repr

section Model

variable {Secret Proposal Commit : Type} (provider : Provider Secret)
  (formats : BodyFormats Proposal Commit)

/-- `MlsGroup::is_active`. -/
def MlsGroup.isActive (group : MlsGroup Secret) : Bool :=
  match group.groupState with
  | .pendingCommit _ => true
  | .operational => true
  | .inactive => false

/-- `MlsGroup::is_operational`. -/
def MlsGroup.isOperational (group : MlsGroup Secret) :
    Except MlsGroupStateError Unit :=
  match group.groupState with
  | .pendingCommit _ => .error .pendingCommit
  | .operational => .ok ()
  | .inactive => .error .useAfterEviction

/-! ## Writes -/

/-- Change the group in memory. -/
def inMemory {Error : Type} (change : MlsGroup Secret → MlsGroup Secret) :
    Throwing (Client Secret) Error Unit :=
  Throwing.update fun client => { client with group := change client.group }

/-- Write a part of the group in memory, unless the storage fails. -/
def write {Error : Type} (error : Error)
    (part : MlsGroup Secret → MlsGroup Secret → MlsGroup Secret) :
    Throwing (Client Secret) Error Unit :=
  fun client =>
    let later := { client with faults := client.faults.tail }
    if client.faults.headD false then (.error error, later)
    else (.ok (), { later with stored := part client.group client.stored })

/-- `write_group_state`. -/
def writeGroupState {Error : Type} (error : Error) :
    Throwing (Client Secret) Error Unit :=
  write error fun group stored => { stored with groupState := group.groupState }

/-- `write_message_secrets`. -/
def writeMessageSecrets {Error : Type} (error : Error) :
    Throwing (Client Secret) Error Unit :=
  write error fun group stored => { stored with store := group.store }

/-- `PublicGroup::store`. -/
def writePublicGroup {Error : Type} (error : Error) :
    Throwing (Client Secret) Error Unit :=
  write error fun group stored =>
    { stored with
      epoch := group.epoch
      serializedContext := group.serializedContext
      members := group.members
      treeSize := group.treeSize }

/-- `MlsGroup::store_pending_proposal`. -/
def storePendingProposal {Error : Type} (error : Error) :
    Throwing (Client Secret) Error Unit := do
  write error fun _ stored => { stored with hasProposals := true }
  inMemory fun group => { group with hasProposals := true }

/-- `clear_proposal_queue`, and the same in memory. -/
def clearProposalQueue {Error : Type} (error : Error) :
    Throwing (Client Secret) Error Unit := do
  write error fun _ stored => { stored with hasProposals := false }
  inMemory fun group => { group with hasProposals := false }

/-! ## Sending -/

/-- The serialization of `SignContent` for framed content. -/
def signContent (payload : Bytes) : Option Bytes :=
  (Format.vector.pair Format.vector).write
    (asBytes ("MLS 1.0 " ++ "FramedContentTBS"), payload)

/-- The bytes that are signed and verified. -/
def signedBytes (wireFormat : WireFormat)
    (content : FramedContent Proposal Commit) (serializedContext : Bytes) :
    Option Bytes :=
  (framedContentTbsSerialized formats wireFormat content
    serializedContext).bind signContent

/--
`AuthenticatedContent::new_and_sign` for a member, with the confirmation tag
that a commit is given afterwards.
-/
def newAndSign (sign : Bytes → Option Bytes) (group : MlsGroup Secret)
    (wireFormat : WireFormat) (body : FramedContentBody Proposal Commit)
    (confirmationTag : Option Bytes) :
    Except LibraryError (AuthenticatedContent Proposal Commit) :=
  let content : FramedContent Proposal Commit :=
    { groupId := group.groupId
      epoch := group.epoch
      sender := .member group.ownLeafIndex
      authenticatedData := group.aad
      body := body }
  let signature :=
    (signedBytes formats wireFormat content group.serializedContext).bind sign
  signature.elim (.error (.custom "Signing failed")) fun signature =>
    .ok {
      wireFormat := wireFormat
      content := content
      auth :=
        { signature := signature, confirmationTag := confirmationTag } }

/-- `AuthenticatedContent::new_application`. -/
def newApplication (sign : Bytes → Option Bytes) (group : MlsGroup Secret)
    (text : Bytes) :
    Except LibraryError (AuthenticatedContent Proposal Commit) :=
  newAndSign formats sign group .privateMessage (.application text) none

/-- An action on the secrets of the current epoch. -/
def onCurrentSecrets {Error Value : Type}
    (action : Throwing (MessageSecrets Secret) Error Value) :
    Throwing (Client Secret) Error Value :=
  zoom (fun client => client.group.store.messageSecrets)
    (fun secrets client =>
      { client with group := { client.group with
          store := { client.group.store with messageSecrets := secrets } } })
    id action

/-- `MlsGroup::encrypt`. -/
def encrypt (content : AuthenticatedContent Proposal Commit)
    (random : Option ReuseGuard) :
    Throwing (Client Secret) MessageEncryptionError
      (Nat × PrivateMessage) := do
  let client ← Throwing.read
  let output ← onCurrentSecrets (tryFromAuthenticatedContent provider formats
    content client.group.paddingSize random)
  writeMessageSecrets .storageError
  return output

/-- `MlsGroup::reset_aad`. -/
def resetAad {Error : Type} : Throwing (Client Secret) Error Unit :=
  inMemory fun group => { group with aad := [] }

/-- A call of `encrypt` whose errors are not expected. -/
def encryptOwn (content : AuthenticatedContent Proposal Commit)
    (random : Option ReuseGuard) :
    Throwing (Client Secret) CreateMessageError (Nat × PrivateMessage) :=
  mapError (fun _ => .libraryError (.custom "Malformed plaintext"))
    (encrypt provider formats content random)

/-- `MlsGroup::create_message_internal`. -/
def createMessage (sign : Bytes → Option Bytes) (text : Bytes)
    (random : Option ReuseGuard) :
    Throwing (Client Secret) CreateMessageError (Nat × PrivateMessage) := do
  let client ← Throwing.read
  if client.group.isActive = false then
    raise (.groupStateError .useAfterEviction)
  else if client.group.hasProposals then
    raise (.groupStateError .pendingProposal)
  else do
    let content ← ofExcept
      ((newApplication formats sign client.group text).mapError .libraryError)
    let output ← encryptOwn provider formats content random
    resetAad
    return output

/-- The branches of `content_to_mls_message`. -/
def frameAs (content : AuthenticatedContent Proposal Commit)
    (random : Option ReuseGuard) :
    OutgoingWireFormatPolicy →
      Throwing (Client Secret) CreateMessageError
        (HandshakeFramingOutput Proposal Commit)
  | .alwaysPlaintext => return .publicMessage content
  | .alwaysCiphertext => do
      let output ← encryptOwn provider formats content random
      return .privateMessage output.1 output.2

/-- `MlsGroup::content_to_mls_message`. -/
def contentToMlsMessage (content : AuthenticatedContent Proposal Commit)
    (random : Option ReuseGuard) :
    Throwing (Client Secret) CreateMessageError
      (HandshakeFramingOutput Proposal Commit) := do
  let client ← Throwing.read
  frameAs provider formats content random client.group.outgoingPolicy

/--
What the functions that propose something have in common, once the proposal is
made.
-/
def propose (sign : Bytes → Option Bytes) (proposal : Proposal)
    (random : Option ReuseGuard) :
    Throwing (Client Secret) CreateMessageError
      (HandshakeFramingOutput Proposal Commit) := do
  let client ← Throwing.read
  ofExcept (client.group.isOperational.mapError .groupStateError)
  let content ← ofExcept ((newAndSign formats sign client.group
    client.group.outgoingPolicy.wireFormat (.proposal proposal) none).mapError
      .libraryError)
  storePendingProposal .storageError
  let framing ← contentToMlsMessage provider formats content random
  resetAad
  return framing

/-- The group context of a commit is that of the next epoch. -/
def StagedDiff.into (group : MlsGroup Secret) (diff : StagedDiff Secret) :
    StagedCommit Secret :=
  { diff with epoch := group.epoch + 1 }

/--
What the functions that commit have in common, once the commit is built:
`CommitBuilder::stage_commit`.
-/
def stageCommit (sign : Bytes → Option Bytes) (commit : Commit)
    (confirmationTag : Bytes) (diff : StagedDiff Secret)
    (random : Option ReuseGuard) :
    Throwing (Client Secret) CreateMessageError
      (HandshakeFramingOutput Proposal Commit) := do
  let client ← Throwing.read
  ofExcept (client.group.isOperational.mapError .groupStateError)
  let content ← ofExcept ((newAndSign formats sign client.group
    client.group.outgoingPolicy.wireFormat (.commit commit)
      (some confirmationTag)).mapError .libraryError)
  inMemory fun group =>
    { group with groupState := .pendingCommit (diff.into client.group) }
  writeGroupState .storageError
  resetAad
  contentToMlsMessage provider formats content random

/-! ## The next epoch -/

/-- `EpochSecrets::split_secrets`, the part with the message secrets. -/
def splitSecrets (encryptionSecret senderDataSecret : Secret)
    (serializedContext : Bytes) (treeSize : TreeSize)
    (ownIndex : LeafNodeIndex) : MessageSecrets Secret where
  senderDataSecret := senderDataSecret
  serializedContext := serializedContext
  secretTree := SecretTree.new encryptionSecret treeSize ownIndex
  addedAt := none

/-- The group context, the members and the tree of the next epoch. -/
def MlsGroup.mergeDiff (staged : StagedCommit Secret)
    (group : MlsGroup Secret) : MlsGroup Secret :=
  { group with
    epoch := staged.epoch
    serializedContext := staged.serializedContext
    members := staged.members
    treeSize := staged.treeSize }

/-- The message secrets of the next epoch; those of this one are past. -/
def MlsGroup.replaceMessageSecrets (staged : StagedCommit Secret)
    (encryptionSecret senderDataSecret : Secret) (now : Int)
    (group : MlsGroup Secret) : MlsGroup Secret :=
  { group with
    store := group.store.enterEpoch group.epoch group.members
      (splitSecrets encryptionSecret senderDataSecret
        staged.serializedContext staged.treeSize group.ownLeafIndex) now }

/--
The branches of `MlsGroup::merge_commit`.  Of its writes those are left out
that bring nothing back into the group when it is loaded.
-/
def mergeCommit (staged : StagedCommit Secret) (now : Int) :
    StagedCommitState Secret → Throwing (Client Secret) Failure Unit
  | .publicState => do
      inMemory (MlsGroup.mergeDiff staged)
      writePublicGroup .mergeCommitError
      writeMessageSecrets .mergeCommitError
      writeGroupState .mergeCommitError
  | .groupMember encryptionSecret senderDataSecret => do
      inMemory (MlsGroup.replaceMessageSecrets staged encryptionSecret
        senderDataSecret now)
      inMemory (MlsGroup.mergeDiff staged)
      writePublicGroup .mergeCommitError
      writeMessageSecrets .mergeCommitError
      clearProposalQueue .mergeCommitError

/-- The group state of a member that a commit removes, or does not. -/
def StagedCommitState.groupState (before : MlsGroupState Secret) :
    StagedCommitState Secret → MlsGroupState Secret
  | .publicState => .inactive
  | .groupMember _ _ => before

/-- The branches of `MlsGroup::clear_pending_commit`. -/
def clearPending :
    MlsGroupState Secret → Throwing (Client Secret) Failure Unit
  | .pendingCommit _ => do
      inMemory fun group => { group with groupState := .operational }
      writeGroupState .mergeCommitError
  | .operational => return ()
  | .inactive => return ()

/-- `MlsGroup::clear_pending_commit`. -/
def clearPendingCommit : Throwing (Client Secret) Failure Unit := do
  let client ← Throwing.read
  clearPending client.group.groupState

/-- `MlsGroup::merge_staged_commit`. -/
def mergeStagedCommit (staged : StagedCommit Secret) (now : Int) :
    Throwing (Client Secret) Failure Unit := do
  inMemory fun group =>
    { group with groupState := staged.state.groupState group.groupState }
  writeGroupState .mergeCommitError
  mergeCommit staged now staged.state
  clearPendingCommit

/-- The branches of `merge_pending_commit`. -/
def mergePending (now : Int) :
    MlsGroupState Secret → Throwing (Client Secret) Failure Unit
  | .pendingCommit staged => do
      inMemory fun group => { group with groupState := .operational }
      mergeStagedCommit staged now
  | .operational => return ()
  | .inactive => raise (.groupState .useAfterEviction)

/-- `MlsGroup::merge_pending_commit`. -/
def mergePendingCommit (now : Int) : Throwing (Client Secret) Failure Unit := do
  let client ← Throwing.read
  mergePending now client.group.groupState

/-! ## Receiving -/

/-- `PublicGroup::validate_framing`. -/
def validateFraming (group : MlsGroup Secret) (message : PrivateMessage) :
    Except ValidationError Unit :=
  if message.groupId ≠ group.groupId then .error .wrongGroupId
  else if message.contentType = .application then
    if group.epoch < message.epoch then .error .wrongEpoch else .ok ()
  else if message.epoch ≠ group.epoch then .error .wrongEpoch
  else .ok ()

/-- `DecryptedMessage::from_verifiable_content`. -/
def fromVerifiableContent
    (content : VerifiableAuthenticatedContent Proposal Commit) :
    Except ValidationError
      (VerifiableAuthenticatedContent Proposal Commit) :=
  let contentType := content.content.body.contentType
  if contentType = .commit ∧ content.auth.confirmationTag.isNone then
    .error .missingConfirmationTag
  else if contentType = .application then
    if content.wireFormat ≠ .privateMessage then
      .error .unencryptedApplicationMessage
    else if content.content.sender.isMember = false then
      .error (.libraryError (.custom "Expected sender to be member."))
    else .ok content
  else .ok content

/-- An action on the secrets of an epoch that were just looked up. -/
def onSecretsOf {Value : Type} (epoch : Nat) (secrets : MessageSecrets Secret)
    (action : Throwing (MessageSecrets Secret) MessageDecryptionError Value) :
    Throwing (MlsGroup Secret) ValidationError Value :=
  zoom (fun _ => secrets)
    (fun secrets group =>
      { group with
        store := group.store.setMessageSecretsForEpoch group.epoch epoch
          secrets })
    .unableToDecrypt action

/-- `DecryptedMessage::from_inbound_ciphertext`. -/
def fromInboundCiphertext (message : PrivateMessage) :
    Throwing (MlsGroup Secret) ValidationError
      (InboundDecryptionResult Proposal Commit) := do
  let group ← Throwing.read
  match group.store.messageSecretsForEpoch group.epoch message.epoch with
  | none =>
      raise
        (.unableToDecrypt (.secretTreeError .tooDistantInThePast))
  | some secrets => do
      let data ← ofExcept
        ((senderData provider message secrets.senderDataSecret).mapError
          .unableToDecrypt)
      if data.leafIndex = group.ownLeafIndex then
        return .ownPrivateMessage message.epoch message.authenticatedData
      else do
        let content ← onSecretsOf message.epoch secrets
          (toVerifiableContent provider formats message data.leafIndex
            group.senderRatchetConfiguration data)
        let content ← ofExcept (fromVerifiableContent content)
        return .decrypted content

/-- `MlsGroup::decrypt_message` for a private message. -/
def decryptMessage (message : PrivateMessage) :
    Throwing (MlsGroup Secret) ValidationError
      (InboundDecryptionResult Proposal Commit) := do
  let group ← Throwing.read
  ofExcept (validateFraming group message)
  fromInboundCiphertext provider formats message

/-- `PublicGroup::validate_verifiable_content`. -/
def validateVerifiableContent (group : MlsGroup Secret)
    (content : VerifiableAuthenticatedContent Proposal Commit) :
    Except ValidationError Unit :=
  let known := content.content.sender.asMember.all fun leafIndex =>
    isNodeInTree (.leaf leafIndex) group.treeSize ||
      group.store.epochHasLeaf content.content.epoch leafIndex
  let contentType := content.content.body.contentType
  if known = false then .error .unknownMember
  else if contentType = .application ∧ content.wireFormat ≠ .privateMessage then
    .error .unencryptedApplicationMessage
  else if contentType = .application ∧
      content.content.sender.isMember = false then
    .error .nonMemberApplicationMessage
  else if contentType = .commit ∧ content.auth.confirmationTag.isNone then
    .error .missingConfirmationTag
  else .ok ()

/-- The member at a leaf in an epoch, in `PublicGroup::parse_message`. -/
def lookUpCredentialWithKey (group : MlsGroup Secret) (epoch : Nat)
    (leafIndex : LeafNodeIndex) : Option Member :=
  if epoch = group.epoch then group.members.find? (·.index = leafIndex)
  else group.store.leafForEpoch epoch leafIndex

/-- `PublicGroup::parse_message`, for a sender that is a member. -/
def parseMessage (group : MlsGroup Secret)
    (content : VerifiableAuthenticatedContent Proposal Commit) :
    Except ValidationError Member := do
  validateVerifiableContent group content
  let sender := content.content.sender.asMember.bind
    (lookUpCredentialWithKey group content.content.epoch)
  sender.elim (.error .unknownMember) .ok

/-- `VerifiableAuthenticatedContentIn::verify`. -/
def verify (content : VerifiableAuthenticatedContent Proposal Commit)
    (signatureKey : Bytes) : Bool :=
  (signedBytes formats content.wireFormat content.content
    (content.serializedContext.getD [])).any fun signed =>
      provider.verifySignature signatureKey signed content.auth.signature

/-- An action on the group in memory. -/
def onGroup {Value : Type}
    (action : Throwing (MlsGroup Secret) ValidationError Value) :
    Throwing (Client Secret) ProcessMessageError Value :=
  zoom Client.group (fun group client => { client with group := group })
    .validationError action

/-- Parse and verify decrypted content. -/
def checkContent (group : MlsGroup Secret)
    (content : VerifiableAuthenticatedContent Proposal Commit) :
    Except ValidationError (Inbound Proposal Commit) := do
  let member ← parseMessage group content
  if verify provider formats content member.signatureKey then
    return .verified content.content member.credential
  else .error .invalidSignature

/--
`MlsGroup::process_message` for a private message, until its content is
verified.
-/
def processMessage (message : PrivateMessage) :
    Throwing (Client Secret) ProcessMessageError
      (Inbound Proposal Commit) := do
  let client ← Throwing.read
  if client.group.isActive = false then
    raise (.groupStateError .useAfterEviction)
  else if message.contentType ≠ .application ∧
      client.group.incomingPolicy.isCompatibleWith .privateMessage = false then
    raise .incompatibleWireFormat
  else do
    let result ← onGroup (decryptMessage provider formats message)
    writeMessageSecrets .storageError
    match result with
    | .ownPrivateMessage epoch authenticatedData =>
        return .ownPrivateMessage epoch authenticatedData
    | .decrypted content => do
        let client ← Throwing.read
        ofExcept ((checkContent provider formats client.group
          content).mapError .validationError)

/-- Stage a commit that was verified, and merge it. -/
def mergeReceived (now : Int) (diff : Option (StagedDiff Secret)) :
    Throwing (Client Secret) Failure Unit := do
  let client ← Throwing.read
  let diff ← ofExcept
    (diff.elim (.error (.process .invalidCommit)) .ok)
  mergeStagedCommit (diff.into client.group) now

/-- What `Group::process_message` does with content that was verified. -/
def handleContent (now : Int)
    (stage : Commit → MlsGroup Secret → Option (StagedDiff Secret)) :
    FramedContentBody Proposal Commit → Throwing (Client Secret) Failure Unit
  | .application _ => return ()
  | .proposal _ => storePendingProposal .storageError
  | .commit commit => do
      let client ← Throwing.read
      mergeReceived now (stage commit client.group)

/-- What `Group::process_message` does with a processed message. -/
def handleInbound (now : Int)
    (stage : Commit → MlsGroup Secret → Option (StagedDiff Secret)) :
    Inbound Proposal Commit → Throwing (Client Secret) Failure Unit
  | .ownPrivateMessage _ _ => return ()
  | .verified content _ => handleContent now stage content.body

/-- `Group::process_message` of the bindings, for a private message. -/
def receive (message : PrivateMessage) (now : Int)
    (stage : Commit → MlsGroup Secret → Option (StagedDiff Secret)) :
    Throwing (Client Secret) Failure (Inbound Proposal Commit) := do
  let inbound ← mapError .process
    (processMessage provider formats message)
  handleInbound now stage inbound
  return inbound

/-! ## Settings and restarts -/

/-- Change the store of the group, and write it. -/
def changeStore
    (change : MessageSecretsStore Secret → MessageSecretsStore Secret) :
    Throwing (Client Secret) Failure Unit := do
  inMemory fun group => { group with store := change group.store }
  writeMessageSecrets .storageError

/-- `MlsGroup::set_aad`. -/
def setAad (aad : Bytes) : Throwing (Client Secret) Failure Unit :=
  inMemory fun group => { group with aad := aad }

/-- `MlsGroup::load`. -/
def Client.restart (client : Client Secret) : Client Secret :=
  { client with group := { client.stored with aad := [] } }

end Model

end Mls4rn.OpenMls.GroupMessages
