import Mls4rn.OpenMls.GroupClients

/-!
# Runs of a client

A client sends and receives messages, enters epochs, changes how many past
epochs it keeps, deletes some of them, and is restarted from its storage, in
any order and with any messages.  In all such runs no message is accepted
twice, and no two messages are encrypted with the same key, although writes to
the storage may fail.  Only a merge must not be cut off by such a failure.
-/

namespace Mls4rn.OpenMls.GroupMessages

open Mls4rn.Lib
open Mls4rn.Lib.ByteString
open Mls4rn.Lib.Throwing
open Mls4rn.OpenMls.Framing
open Mls4rn.OpenMls.PastSecrets
open Mls4rn.OpenMls.PrivateMessages
open Mls4rn.OpenMls.SecretTrees
open Mls4rn.OpenMls.SenderRatchet
open Mls4rn.OpenMls.TreeMath

/-! ## Actions -/

/-- What a client is asked to do. -/
inductive Action (Secret Proposal Commit : Type) where
  | createMessage (text : Bytes) (random : Option ReuseGuard)
  | propose (proposal : Proposal) (random : Option ReuseGuard)
  | stageCommit (commit : Commit) (confirmationTag : Bytes)
      (diff : StagedDiff Secret) (random : Option ReuseGuard)
  | mergePendingCommit (now : Int)
  | receive (message : PrivateMessage) (now : Int)
      (stage : Commit → MlsGroup Secret → Option (StagedDiff Secret))
  | receivePublicProposal
  | receivePublicCommit (now : Int) (diff : StagedDiff Secret)
  | setPastEpochDeletionPolicy (policy : PastEpochDeletionPolicy)
  | deletePastEpochSecrets (deletion : PastEpochDeletion) (now : Int)
  | setAad (aad : Bytes)
  | restart

/-- What it answers. -/
inductive Reply (Proposal Commit : Type) where
  | sent (framing : HandshakeFramingOutput Proposal Commit)
  | received (inbound : Inbound Proposal Commit)
  | done
deriving DecidableEq, Repr

section Model

variable {Secret Proposal Commit : Type} (provider : Provider Secret)
  (formats : BodyFormats Proposal Commit)

/-- A public message is processed by an active group only. -/
def checkActive : Throwing (Client Secret) ProcessMessageError Unit := do
  let client ← Throwing.read
  if client.group.isActive = false then
    raise (.groupStateError .useAfterEviction)
  else return ()

/-- Do what an action says. -/
def Action.perform (sign : Bytes → Option Bytes) :
    Action Secret Proposal Commit →
      Throwing (Client Secret) Failure (Reply Proposal Commit)
  | .createMessage text random => do
      let output ← mapError .create
        (GroupMessages.createMessage provider formats sign text random)
      return .sent (.privateMessage output.1 output.2)
  | .propose proposal random => do
      let framing ← mapError .create
        (GroupMessages.propose provider formats sign proposal random)
      return .sent framing
  | .stageCommit commit confirmationTag diff random => do
      let framing ← mapError .create
        (GroupMessages.stageCommit provider formats sign commit
          confirmationTag diff random)
      return .sent framing
  | .mergePendingCommit now => do
      GroupMessages.mergePendingCommit now
      return .done
  | .receive message now stage => do
      let inbound ← GroupMessages.receive provider formats message now stage
      return .received inbound
  | .receivePublicProposal => do
      mapError .process checkActive
      storePendingProposal .storageError
      return .done
  | .receivePublicCommit now diff => do
      mapError .process checkActive
      mergeReceived now (some diff)
      return .done
  | .setPastEpochDeletionPolicy policy => do
      changeStore (MessageSecretsStore.resize policy)
      return .done
  | .deletePastEpochSecrets deletion now => do
      changeStore (MessageSecretsStore.deletePastEpochSecrets deletion now)
      return .done
  | .setAad aad => do
      GroupMessages.setAad aad
      return .done
  | .restart => do
      Throwing.update Client.restart
      return .done

/-- The action does not fail in the middle of a merge. -/
def Action.Whole (sign : Bytes → Option Bytes)
    (action : Action Secret Proposal Commit) (client : Client Secret) : Prop :=
  (action.perform provider formats sign client).1 ≠ .error .mergeCommitError

/-- The client of a group that was just created or joined. -/
def Client.joined (settings : MlsGroup Secret)
    (encryptionSecret senderDataSecret : Secret)
    (policy : PastEpochDeletionPolicy) (now : Int) (faults : List Bool) :
    Client Secret :=
  let group :=
    { settings with
      groupState := .operational
      store := MessageSecretsStore.newWithSecret policy
        (splitSecrets encryptionSecret senderDataSecret
          settings.serializedContext settings.treeSize
          settings.ownLeafIndex) now }
  { group := group, stored := group, faults := faults }

end Model

/-! ## What was accepted and sent -/

section History

variable {Secret Proposal Commit : Type}

/-- The message, if its content was verified. -/
def Inbound.accepts (message : PrivateMessage) :
    Inbound Proposal Commit → List PrivateMessage
  | .ownPrivateMessage _ _ => []
  | .verified _ _ => [message]

/-- The message, if it is a private one. -/
def HandshakeFramingOutput.sends (body : FramedContentBody Proposal Commit) :
    HandshakeFramingOutput Proposal Commit →
      List (SentMessage Proposal Commit)
  | .publicMessage _ => []
  | .privateMessage generation message => [⟨body, generation, message⟩]

/-- The messages that an action has accepted. -/
def acceptedIn : Action Secret Proposal Commit → Reply Proposal Commit →
    List PrivateMessage
  | .receive message _ _, .received inbound => inbound.accepts message
  | _, _ => []

/-- The messages that an action has sent. -/
def sentIn : Action Secret Proposal Commit → Reply Proposal Commit →
    List (SentMessage Proposal Commit)
  | .createMessage text _, .sent framing => framing.sends (.application text)
  | .propose proposal _, .sent framing => framing.sends (.proposal proposal)
  | .stageCommit commit _ _ _, .sent framing =>
      framing.sends (.commit commit)
  | _, _ => []

/-- The messages accepted in a history. -/
def acceptedBy
    (history : List (Action Secret Proposal Commit × Reply Proposal Commit)) :
    List PrivateMessage :=
  history.flatMap fun entry => acceptedIn entry.1 entry.2

/-- The messages sent in a history. -/
def sentBy
    (history : List (Action Secret Proposal Commit × Reply Proposal Commit)) :
    List (SentMessage Proposal Commit) :=
  history.flatMap fun entry => sentIn entry.1 entry.2

@[simp]
theorem acceptedBy_concat
    (history : List (Action Secret Proposal Commit × Reply Proposal Commit))
    (action : Action Secret Proposal Commit) (reply : Reply Proposal Commit) :
    acceptedBy (history ++ [(action, reply)]) =
      acceptedBy history ++ acceptedIn action reply := by
  simp [acceptedBy]

@[simp]
theorem sentBy_concat
    (history : List (Action Secret Proposal Commit × Reply Proposal Commit))
    (action : Action Secret Proposal Commit) (reply : Reply Proposal Commit) :
    sentBy (history ++ [(action, reply)]) =
      sentBy history ++ sentIn action reply := by
  simp [sentBy]

end History

section Clients

variable {Secret Proposal Commit : Type} {provider : Provider Secret}
  {formats : BodyFormats Proposal Commit} {party : Party Secret}
  {accepted : List PrivateMessage} {sent : List (SentMessage Proposal Commit)}
  {client : Client Secret}

/-! ## Sending -/

/-- Content that was signed, and that the group may encrypt in its epoch. -/
structure Ready (formats : BodyFormats Proposal Commit) (party : Party Secret)
    (body : FramedContentBody Proposal Commit)
    (content : AuthenticatedContent Proposal Commit) (group : MlsGroup Secret) :
    Prop where
  active : group.isActive = true
  id : content.content.groupId = party.groupId
  epoch : content.content.epoch = group.epoch
  sender : content.content.sender = .member party.leaf
  framed : content.content.body = body
  fits : content.auth.Fits body.contentType
  signed : (signedBytes formats content.wireFormat content.content
    group.serializedContext).bind party.sign = some content.auth.signature

theorem ready_of_newAndSign
    (guarded : Guarded provider formats party accepted sent client)
    (active : client.group.isActive = true) {wireFormat : WireFormat}
    {body : FramedContentBody Proposal Commit} {confirmationTag : Option Bytes}
    (tagged : confirmationTag.isSome ↔ body.contentType = .commit)
    {content : AuthenticatedContent Proposal Commit}
    (signed : newAndSign formats party.sign client.group wireFormat body
      confirmationTag = .ok content) :
    Ready formats party body content client.group := by
  unfold newAndSign at signed
  dsimp only at signed
  cases signature : (signedBytes formats wireFormat
      { groupId := client.group.groupId
        epoch := client.group.epoch
        sender := .member client.group.ownLeafIndex
        authenticatedData := client.group.aad
        body := body } client.group.serializedContext).bind party.sign with
  | none =>
      rw [signature] at signed
      cases signed
  | some value =>
      rw [signature] at signed
      cases signed
      exact ⟨active, guarded.memory.id, rfl,
        congrArg Sender.member guarded.memory.leaf, rfl, tagged, signature⟩

variable {message : PrivateMessage} {used : List OwnKey}

/-- What was sealed carries its content. -/
theorem carries_of_sealedWith {body : FramedContentBody Proposal Commit}
    {content : AuthenticatedContent Proposal Commit}
    (ready : Ready formats party body content client.group)
    (wireFormat : content.wireFormat = .privateMessage)
    {current : StagedDiff Secret}
    (entered : party.Enters client.group.epoch current)
    (context : client.group.serializedContext = current.serializedContext)
    {secrets : MessageSecrets Secret} {root : Secret} {top : Nat}
    (derived : Derived party client.group.epoch secrets root top)
    {paddingSize generation : Nat} {aad : Bytes}
    {material : RatchetKeyMaterial Secret} {reuseGuard : ReuseGuard}
    (sealing : SealedWith provider formats party.leaf root
      secrets.senderDataSecret top content paddingSize generation message aad
      material reuseGuard) :
    Carries provider formats party ⟨body, generation, message⟩ := by
  have isSealed := sealing.isSealed
  obtain ⟨diff, enters, state, -, tall⟩ := derived
  have epoch : message.epoch = client.group.epoch :=
    isSealed.epoch.trans ready.epoch
  have same : content =
      ⟨.privateMessage,
        (SentMessage.mk body generation message).content party.leaf,
        content.auth⟩ := by
    obtain ⟨format, ⟨groupId, contentEpoch, sender, data, contentBody⟩, auth⟩ :=
      content
    obtain rfl : format = _ := wireFormat
    obtain rfl : sender = _ := ready.sender
    obtain rfl : contentBody = _ := ready.framed
    rw [SentMessage.content, isSealed.groupId, isSealed.epoch,
      isSealed.authenticatedData]
  refine ⟨content.auth, isSealed.groupId.trans ready.id, ready.fits,
    ⟨current, ?_, ?_⟩, diff, root, secrets.senderDataSecret, top, paddingSize,
    aad, material, reuseGuard, ?_, state, tall, ?_⟩
  · exact epoch ▸ entered
  · have signed := ready.signed
    rw [context, same] at signed
    exact signed
  · exact epoch ▸ enters
  · exact same ▸ sealing

theorem encrypt_triple (body : FramedContentBody Proposal Commit)
    (content : AuthenticatedContent Proposal Commit)
    (random : Option ReuseGuard) :
    Triple
      (fun client => Guarded provider formats party accepted sent client ∧
        Ready formats party body content client.group)
      (encrypt provider formats content random)
      (fun output client => Guarded provider formats party accepted
        (sent ++ [⟨body, output.1, output.2⟩]) client)
      (fun _ => Guarded provider formats party accepted sent) := by
  refine triple_read_bind fun start ⟨guarded, ready⟩ => ?_
  have guards := guarded.memory.store ready.active
  have sealing : Triple (fun client => client = start)
      (onCurrentSecrets (tryFromAuthenticatedContent provider formats content
        start.group.paddingSize random))
      (fun output client => ∃ store,
        client = { start with group := { start.group with store := store } } ∧
          output.2.epoch = start.group.epoch ∧
          (SentMessage.mk body output.1 output.2).key ∉
            sent.map SentMessage.key ∧
          Carries provider formats party ⟨body, output.1, output.2⟩ ∧
          StoreGuards provider party accepted
            (sent.map SentMessage.key ++
              [(SentMessage.mk body output.1 output.2).key])
            start.group.epoch store)
      (fun _ => Guarded provider formats party accepted sent) := by
    refine triple_zoom (tryFromAuthenticatedContent_triple
      guards.current ready.sender ready.epoch start.group.paddingSize random)
      ?_ ?_ ?_
    · rintro client rfl
      rfl
    · rintro client output secrets rfl ⟨wireFormat, encrypted⟩
      obtain ⟨root, top, paddingSize, aad, material, reuseGuard, derived,
        sealing⟩ := encrypted.carries
      obtain ⟨current, entered, -, -, context⟩ :=
        guarded.memory.current ready.active
      have key : (SentMessage.mk body output.1 output.2).key =
          (client.group.epoch, output.2.contentType.secretType,
            output.1) := by
        rw [SentMessage.key, encrypted.same]
      rw [key]
      refine ⟨_, rfl, encrypted.same, encrypted.fresh,
        carries_of_sealedWith ready wireFormat entered context derived sealing,
        ?_⟩
      rw [← setMessageSecretsForEpoch_self _ client.group.epoch]
      refine guards.set le_rfl encrypted.spends (fun _ inside _ => inside) ?_
      intro key inside different
      rcases List.mem_append.mp inside with before | last
      · exact before
      · rw [List.mem_singleton] at last
        exact absurd (last ▸ rfl) different
    · rintro client error secrets rfl spends
      refine guarded.withMemory fun _ => ?_
      rw [← setMessageSecretsForEpoch_self _ client.group.epoch]
      exact guards.set le_rfl spends (fun _ inside _ => inside)
        (fun _ inside _ => inside)
  refine triple_bind sealing fun output => ?_
  refine triple_bind (triple_write ?_ ?_) fun _ =>
    triple_pure fun _ done => done
  -- The message is lost with the write, and its key is not used again.
  rotate_left
  · rintro client ⟨store, rfl, -, -, -, remembers⟩
    exact (guarded.withMemory fun _ => remembers.mono (List.Subset.refl _)
      (List.subset_append_left _ _)).withFaults _
  rintro client ⟨store, rfl, epoch, fresh, carried, remembers⟩
  have mapped : (sent ++ [SentMessage.mk body output.1 output.2]).map
      SentMessage.key = sent.map SentMessage.key ++
        [(SentMessage.mk body output.1 output.2).key] := by
    rw [List.map_append, List.map_singleton]
  refine guarded.writeMessageSecrets (fun _ => mapped ▸ remembers)
    guarded.acceptedEpochs ?_ guarded.acceptedOnce ?_ ?_
  · intro entry inside
    rcases List.mem_append.mp inside with before | last
    · exact guarded.sentEpochs entry before
    · rw [List.mem_singleton] at last
      subst last
      exact epoch.le
  · rw [mapped, ← List.concat_eq_append]
    exact List.Nodup.concat fresh guarded.usedOnce
  · intro entry inside
    rcases List.mem_append.mp inside with before | last
    · exact guarded.carries entry before
    · rw [List.mem_singleton] at last
      subst last
      exact carried

theorem encryptOwn_triple (body : FramedContentBody Proposal Commit)
    (content : AuthenticatedContent Proposal Commit)
    (random : Option ReuseGuard) :
    Triple
      (fun client => Guarded provider formats party accepted sent client ∧
        Ready formats party body content client.group)
      (encryptOwn provider formats content random)
      (fun output client => Guarded provider formats party accepted
        (sent ++ [⟨body, output.1, output.2⟩]) client)
      (fun _ => Guarded provider formats party accepted sent) :=
  triple_mapError (encrypt_triple body content random)
    fun _ _ kept => kept

theorem createMessage_triple (text : Bytes) (random : Option ReuseGuard) :
    Triple (Guarded provider formats party accepted sent)
      (createMessage provider formats party.sign text random)
      (fun output client => Guarded provider formats party accepted
        (sent ++ [⟨.application text, output.1, output.2⟩]) client)
      (fun _ => Guarded provider formats party accepted sent) := by
  refine triple_read_bind fun start guarded => ?_
  split
  · exact triple_raise fun _ same => same ▸ guarded
  next active =>
  split
  · exact triple_raise fun _ same => same ▸ guarded
  refine triple_ofExcept_bind (fun content signed => ?_)
    fun _ _ same => same ▸ guarded
  have ready := ready_of_newAndSign guarded (by simpa using active)
    (by simp [FramedContentBody.contentType]) (mapError_eq_ok_iff.mp signed)
  refine triple_bind
    ((encryptOwn_triple (.application text) content random).strengthen
      fun _ same => same ▸ ⟨guarded, ready⟩) fun output => ?_
  exact triple_bind
    (triple_inMemory fun _ guarded => guarded.withAad []) fun _ =>
      triple_pure fun _ done => done

theorem contentToMlsMessage_triple (body : FramedContentBody Proposal Commit)
    (content : AuthenticatedContent Proposal Commit)
    (random : Option ReuseGuard) :
    Triple
      (fun client => Guarded provider formats party accepted sent client ∧
        Ready formats party body content client.group)
      (contentToMlsMessage provider formats content random)
      (fun framing client => Guarded provider formats party accepted
        (sent ++ framing.sends body) client)
      (fun _ => Guarded provider formats party accepted sent) := by
  refine triple_read_bind fun start ready => ?_
  cases start.group.outgoingPolicy with
  | alwaysPlaintext =>
      refine triple_pure ?_
      rintro client rfl
      exact (List.append_nil sent).symm ▸ ready.1
  | alwaysCiphertext =>
      refine triple_bind
        ((encryptOwn_triple body content random).strengthen ?_)
        fun output => triple_pure fun _ done => done
      rintro client rfl
      exact ready

theorem isActive_of_isOperational {group : MlsGroup Secret}
    (operational : group.isOperational = .ok ()) :
    group.isActive = true := by
  rw [isActive_iff]
  intro inactive
  rw [MlsGroup.isOperational, inactive] at operational
  cases operational

theorem propose_triple (proposal : Proposal) (random : Option ReuseGuard) :
    Triple (Guarded provider formats party accepted sent)
      (propose provider formats party.sign proposal random)
      (fun framing client => Guarded provider formats party accepted
        (sent ++ framing.sends (.proposal proposal)) client)
      (fun _ => Guarded provider formats party accepted sent) := by
  refine triple_read_bind fun start guarded => ?_
  refine triple_ofExcept_bind (fun _ operational => ?_)
    fun _ _ same => same ▸ guarded
  have active := isActive_of_isOperational (mapError_eq_ok_iff.mp operational)
  refine triple_ofExcept_bind (fun content signed => ?_)
    fun _ _ same => same ▸ guarded
  have ready := ready_of_newAndSign guarded active
    (by simp [FramedContentBody.contentType]) (mapError_eq_ok_iff.mp signed)
  refine triple_bind
    (Triple.strengthen (storePendingProposal_triple _ ?_) ?_)
    fun _ => triple_bind
      (contentToMlsMessage_triple (.proposal proposal) content random)
      fun framing => ?_
  · exact fun _ ready => { ready with }
  · exact fun _ same => same ▸ ⟨guarded, ready⟩
  · exact triple_bind
      (triple_inMemory fun _ guarded => guarded.withAad []) fun _ =>
        triple_pure fun _ done => done

theorem stageCommit_triple (commit : Commit) (confirmationTag : Bytes)
    (diff : StagedDiff Secret) (random : Option ReuseGuard) :
    Triple (Guarded provider formats party accepted sent)
      (stageCommit provider formats party.sign commit confirmationTag diff
        random)
      (fun framing client => Guarded provider formats party accepted
        (sent ++ framing.sends (.commit commit)) client)
      (fun _ => Guarded provider formats party accepted sent) := by
  refine triple_read_bind fun start guarded => ?_
  refine triple_ofExcept_bind (fun _ operational => ?_)
    fun _ _ same => same ▸ guarded
  have active := isActive_of_isOperational (mapError_eq_ok_iff.mp operational)
  refine triple_ofExcept_bind (fun content signed => ?_)
    fun _ _ same => same ▸ guarded
  have ready := ready_of_newAndSign guarded active
    (by simp [FramedContentBody.contentType]) (mapError_eq_ok_iff.mp signed)
  refine triple_update_bind (triple_bind
    ((writeGroupState_triple _).strengthen ?_) fun _ =>
      triple_bind (resetAad_triple ?_) fun _ =>
        contentToMlsMessage_triple (.commit commit) content random)
  · rintro client rfl
    refine ⟨guarded.withGroupState active ?_ ?_, { ready with active := rfl }⟩
    · simp
    · rintro staged same
      cases same
      rfl
  · exact fun _ ready => { ready with }

/-! ## Receiving -/

/-- The message, if it was decrypted. -/
def InboundDecryptionResult.accepts (message : PrivateMessage) :
    InboundDecryptionResult Proposal Commit → List PrivateMessage
  | .ownPrivateMessage _ _ => []
  | .decrypted _ => [message]

theorem epoch_le_of_validateFraming {group : MlsGroup Secret}
    (valid : validateFraming group message = .ok ()) :
    message.epoch ≤ group.epoch := by
  unfold validateFraming at valid
  split at valid
  · cases valid
  split at valid
  · split at valid
    · cases valid
    · next notLater => exact Nat.le_of_not_lt notLater
  · split at valid
    · cases valid
    · next same => exact (not_not.mp same).le

/-- The group has another store, which remembers what is accepted. -/
def Remembers (provider : Provider Secret) (party : Party Secret)
    (accepted : List PrivateMessage) (used : List OwnKey)
    (start group : MlsGroup Secret) : Prop :=
  ∃ store, group = { start with store := store } ∧ accepted.Nodup ∧
    (∀ message ∈ accepted, message.epoch ≤ start.epoch) ∧
    StoreGuards provider party accepted used start.epoch store

theorem Remembers.mono {start group : MlsGroup Secret}
    {fewer : List PrivateMessage}
    (remembers : Remembers provider party accepted used start group)
    (part : fewer.Sublist accepted) :
    Remembers provider party fewer used start group := by
  obtain ⟨store, same, once, epochs, guards⟩ := remembers
  exact ⟨store, same, once.sublist part,
    fun message inside => epochs message (part.subset inside),
    guards.mono part.subset (List.Subset.refl _)⟩

/-- The secrets that were looked up are used for the message. -/
theorem onSecretsOf_triple {start : MlsGroup Secret}
    (remembers : Remembers provider party accepted used start start)
    (within : message.epoch ≤ start.epoch) {secrets : MessageSecrets Secret}
    (found : start.store.messageSecretsForEpoch start.epoch message.epoch =
      some secrets) {data : MlsSenderData}
    (opened : senderData provider message secrets.senderDataSecret = .ok data)
    (configuration : SenderRatchetConfiguration) :
    Triple (fun group => group = start)
      (onSecretsOf message.epoch secrets (toVerifiableContent provider formats
        message data.leafIndex configuration data))
      (fun _ group =>
        Remembers provider party (accepted ++ [message]) used start group)
      (fun _ => Remembers provider party accepted used start) := by
  obtain ⟨store, same, once, epochs, guards⟩ := remembers
  have same : start.store = store := congrArg MlsGroup.store same
  subst same
  have spends := guards.lookUp within found
  refine triple_zoom
    (toVerifiableContent_triple spends rfl opened configuration) ?_ ?_ ?_
  · exact fun _ _ => rfl
  · rintro group content reached rfl ⟨fresh, after⟩
    refine ⟨_, rfl, ?_, ?_, ?_⟩
    · rw [← List.concat_eq_append]
      exact List.Nodup.concat fresh once
    · intro other inside
      rcases List.mem_append.mp inside with before | last
      · exact epochs other before
      · rw [List.mem_singleton] at last
        exact last ▸ within
    · refine guards.set within after ?_ fun _ inside _ => inside
      intro other inside different
      rcases List.mem_append.mp inside with before | last
      · exact before
      · rw [List.mem_singleton] at last
        exact absurd (last ▸ rfl) different
  · rintro group error reached rfl after
    exact ⟨_, rfl, once, epochs, guards.set within after
      (fun _ inside _ => inside) fun _ inside _ => inside⟩

theorem fromInboundCiphertext_triple {start : MlsGroup Secret}
    (remembers : Remembers provider party accepted used start start)
    (within : message.epoch ≤ start.epoch) :
    Triple (fun group => group = start)
      (fromInboundCiphertext provider formats message)
      (fun result group =>
        Remembers provider party (accepted ++ result.accepts message) used start
          group)
      (fun _ => Remembers provider party accepted used start) := by
  refine triple_read_bind ?_
  rintro group rfl
  cases found : group.store.messageSecretsForEpoch group.epoch
      message.epoch with
  | none => exact triple_raise fun _ same => same ▸ remembers
  | some secrets =>
      refine triple_ofExcept_bind (fun data opened => ?_)
        fun _ _ same => same ▸ remembers
      have opened := mapError_eq_ok_iff.mp opened
      split
      · refine triple_pure ?_
        rintro _ rfl
        exact (List.append_nil accepted).symm ▸ remembers
      refine triple_bind (onSecretsOf_triple remembers within found
        opened group.senderRatchetConfiguration) fun content => ?_
      refine triple_ofExcept_bind
        (fun _ _ => triple_pure fun _ done => done) ?_
      intro error group after
      exact after.mono (List.sublist_append_left _ _)

theorem decryptMessage_triple {start : MlsGroup Secret}
    (remembers : Remembers provider party accepted used start start)
    (message : PrivateMessage) :
    Triple (fun group => group = start)
      (decryptMessage provider formats message)
      (fun result group =>
        Remembers provider party (accepted ++ result.accepts message) used start
          group)
      (fun _ => Remembers provider party accepted used start) := by
  refine triple_read_bind ?_
  rintro _ rfl
  exact triple_ofExcept_bind
    (fun _ valid => fromInboundCiphertext_triple remembers
      (epoch_le_of_validateFraming valid))
    fun _ _ same => same ▸ remembers

theorem accepts_of_checkContent {group : MlsGroup Secret}
    {content : VerifiableAuthenticatedContent Proposal Commit}
    {inbound : Inbound Proposal Commit}
    (checked : checkContent provider formats group content = .ok inbound)
    (message : PrivateMessage) : inbound.accepts message = [message] := by
  obtain ⟨member, -, checked⟩ := bind_eq_ok checked
  split at checked
  · cases checked
    rfl
  · cases checked

/-- A message that is accepted was not accepted before. -/
theorem processMessage_triple (message : PrivateMessage) :
    Triple (Guarded provider formats party accepted sent)
      (processMessage provider formats message)
      (fun inbound client => Guarded provider formats party
        (accepted ++ inbound.accepts message) sent client)
      (fun _ => Guarded provider formats party accepted sent) := by
  refine triple_read_bind fun start guarded => ?_
  split
  · exact triple_raise fun _ same => same ▸ guarded
  next active =>
  split
  · exact triple_raise fun _ same => same ▸ guarded
  have active : start.group.isActive = true := by simpa using active
  have remembers :
      Remembers provider party accepted (sent.map SentMessage.key)
        start.group start.group :=
    ⟨_, rfl, guarded.acceptedOnce, guarded.acceptedEpochs,
      guarded.memory.store active⟩
  have decrypting : Triple (fun client => client = start)
      (onGroup (decryptMessage provider formats message))
      (fun result client => ∃ store,
        client = { start with group := { start.group with store := store } } ∧
          Remembers provider party (accepted ++ result.accepts message)
            (sent.map SentMessage.key) start.group
            { start.group with store := store })
      (fun _ => Guarded provider formats party accepted sent) := by
    refine triple_zoom (decryptMessage_triple remembers message) ?_ ?_ ?_
    · rintro client rfl
      rfl
    · rintro client result group rfl after
      obtain ⟨store, rfl, -⟩ := id after
      exact ⟨store, rfl, after⟩
    · rintro client error group rfl ⟨store, rfl, -, -, guards⟩
      exact guarded.withMemory fun _ => guards
  refine triple_bind decrypting fun result => ?_
  have writing : Triple
      (fun client => ∃ store,
        client = { start with group := { start.group with store := store } } ∧
          Remembers provider party (accepted ++ result.accepts message)
            (sent.map SentMessage.key) start.group
            { start.group with store := store })
      (writeMessageSecrets ProcessMessageError.storageError)
      (fun _ client => Guarded provider formats party
        (accepted ++ result.accepts message) sent client)
      (fun _ => Guarded provider formats party accepted sent) := by
    refine triple_write ?_ ?_
    · rintro client ⟨store, rfl, other, same, once, epochs, guards⟩
      have same : store = other := congrArg MlsGroup.store same
      subst same
      exact guarded.writeMessageSecrets (fun _ => guards) epochs
        guarded.sentEpochs once guarded.usedOnce guarded.carries
    · rintro client ⟨store, rfl, other, same, -, -, guards⟩
      have same : store = other := congrArg MlsGroup.store same
      subst same
      exact (guarded.withMemory fun _ => guards.mono
        (List.subset_append_left _ _) (List.Subset.refl _)).withFaults _
  refine triple_bind writing fun _ => ?_
  cases result with
  | ownPrivateMessage epoch authenticatedData =>
      exact triple_pure fun _ done => done
  | decrypted content =>
      refine triple_read_bind fun client written => ?_
      refine triple_ofExcept ?_ ?_
      · rintro inbound _ checked rfl
        rw [accepts_of_checkContent (mapError_eq_ok_iff.mp checked)]
        exact written
      · rintro error _ - rfl
        exact written.mono (List.sublist_append_left _ _)

/-- The client remembers, unless a merge was cut off. -/
def KeptBehind (provider : Provider Secret)
    (formats : BodyFormats Proposal Commit) (party : Party Secret)
    (accepted : List PrivateMessage) (sent : List (SentMessage Proposal Commit))
    (failure : Failure) (client : Client Secret) : Prop :=
  failure ≠ .mergeCommitError →
    Guarded provider formats party accepted sent client

theorem merging_triple (staged : StagedCommit Secret) (now : Int) :
    Triple
      (fun client => Guarded provider formats party accepted sent client ∧
        staged.epoch = client.group.epoch + 1 ∧
          party.Admits staged.epoch staged.toStagedDiff)
      (mergeStagedCommit staged now)
      (fun _ => Guarded provider formats party accepted sent)
      (KeptBehind provider formats party accepted sent) :=
  (mergeStagedCommit_triple staged now).weaken (fun _ start => start)
    (fun _ _ kept => kept) fun _ _ cut whole => absurd cut whole

theorem storing_triple :
    Triple (Guarded provider formats party accepted sent)
      (storePendingProposal Failure.storageError)
      (fun _ => Guarded provider formats party accepted sent)
      (KeptBehind provider formats party accepted sent) :=
  (storePendingProposal_triple _ fun _ (_ : True) => trivial).weaken
    (fun _ kept => ⟨kept, trivial⟩) (fun _ _ kept => kept.1)
    fun _ _ kept _ => kept

theorem mergeReceived_triple (now : Int) (diff : Option (StagedDiff Secret)) :
    Triple
      (fun client => Guarded provider formats party accepted sent client ∧
        ∀ found, diff = some found →
          party.Admits (client.group.epoch + 1) found)
      (mergeReceived now diff)
      (fun _ => Guarded provider formats party accepted sent)
      (KeptBehind provider formats party accepted sent) := by
  refine triple_read_bind fun start ⟨guarded, admitted⟩ => ?_
  cases diff with
  | none => exact triple_raise fun _ same _ => same ▸ guarded
  | some diff =>
      refine (merging_triple (diff.into start.group) now).strengthen ?_
      rintro client rfl
      exact ⟨guarded, rfl, admitted diff rfl⟩

theorem mergePendingCommit_triple (now : Int) :
    Triple
      (fun client => Guarded provider formats party accepted sent client ∧
        ∀ staged, client.group.groupState = .pendingCommit staged →
          party.Admits staged.epoch staged.toStagedDiff)
      (mergePendingCommit now)
      (fun _ => Guarded provider formats party accepted sent)
      (KeptBehind provider formats party accepted sent) := by
  refine triple_read_bind fun start ⟨guarded, admitted⟩ => ?_
  cases state : start.group.groupState with
  | pendingCommit staged =>
      have active : start.group.isActive = true := by
        rw [isActive_iff, state]
        simp
      have next := guarded.memory.pending staged state
      refine triple_update_bind ((merging_triple staged now).strengthen ?_)
      rintro client rfl
      refine ⟨guarded.withGroupState active ?_ ?_, next, admitted staged state⟩
      · simp
      · intro other wrong
        cases wrong
  | operational => exact triple_pure fun _ same => same ▸ guarded
  | inactive => exact triple_raise fun _ same _ => same ▸ guarded

theorem handleContent_triple (now : Int)
    {stage : Commit → MlsGroup Secret → Option (StagedDiff Secret)}
    (admitted : ∀ commit group diff, stage commit group = some diff →
      party.Admits (group.epoch + 1) diff)
    (body : FramedContentBody Proposal Commit) :
    Triple (Guarded provider formats party accepted sent)
      (handleContent now stage body)
      (fun _ => Guarded provider formats party accepted sent)
      (KeptBehind provider formats party accepted sent) := by
  cases body with
  | application text => exact triple_pure fun _ kept => kept
  | proposal proposal => exact storing_triple
  | commit commit =>
      refine triple_read_bind fun start guarded => ?_
      refine (mergeReceived_triple now _).strengthen ?_
      rintro client rfl
      exact ⟨guarded, fun diff staged =>
        admitted commit client.group diff staged⟩

theorem receive_triple (message : PrivateMessage) (now : Int)
    {stage : Commit → MlsGroup Secret → Option (StagedDiff Secret)}
    (admitted : ∀ commit group diff, stage commit group = some diff →
      party.Admits (group.epoch + 1) diff) :
    Triple (Guarded provider formats party accepted sent)
      (receive provider formats message now stage)
      (fun inbound client => Guarded provider formats party
        (accepted ++ inbound.accepts message) sent client)
      (KeptBehind provider formats party accepted sent) := by
  refine triple_bind (triple_mapError
    (processMessage_triple message) fun _ _ kept _ => kept) fun inbound => ?_
  have handled : Triple
      (Guarded provider formats party (accepted ++ inbound.accepts message)
        sent)
      (handleInbound now stage inbound)
      (fun _ client => Guarded provider formats party
        (accepted ++ inbound.accepts message) sent client)
      (KeptBehind provider formats party accepted sent) := by
    cases inbound with
    | ownPrivateMessage epoch authenticatedData =>
        exact triple_pure fun _ kept => kept
    | verified content credential =>
        exact (handleContent_triple now admitted content.body).weaken
          (fun _ kept => kept) (fun _ _ kept => kept)
          (fun _ _ kept whole =>
            (kept whole).mono (List.sublist_append_left _ _))
  exact triple_bind handled fun _ =>
    triple_pure fun _ kept => kept

/-! ## Whole runs -/

theorem guarded_joined (settings : MlsGroup Secret)
    {encryptionSecret senderDataSecret : Secret} {diff : StagedDiff Secret}
    (enters : party.Enters settings.epoch diff)
    (state : diff.state = .groupMember encryptionSecret senderDataSecret)
    (id : settings.groupId = party.groupId)
    (leaf : settings.ownLeafIndex = party.leaf)
    (context : settings.serializedContext = diff.serializedContext)
    (members : settings.members = diff.members)
    (treeSize : settings.treeSize = diff.treeSize)
    (policy : PastEpochDeletionPolicy) (now : Int) (faults : List Bool) :
    Guarded provider formats party [] []
      (Client.joined settings encryptionSecret senderDataSecret policy now
        faults) := by
  have joined : GroupGuards provider party [] []
      (Client.joined settings encryptionSecret senderDataSecret policy now
        faults).group := by
    refine ⟨id, leaf, ?_, ?_, fun _ => ⟨?_, ?_, List.nodup_nil⟩⟩
    · intro staged pending
      cases pending
    · intro _
      exact ⟨diff, enters, members, treeSize, context⟩
    · show Spends provider party [] [] settings.epoch (withTimestamp
        (splitSecrets encryptionSecret senderDataSecret
          settings.serializedContext settings.treeSize
          settings.ownLeafIndex) now)
      rw [context, treeSize, leaf]
      refine spends_splitSecrets enters state now ?_ ?_
      · intro message inside
        cases inside
      · intro key inside
        cases inside
    · intro tree inside
      cases inside
  refine ⟨joined, joined, rfl, rfl, ?_, ?_, List.nodup_nil, List.nodup_nil,
    ?_⟩
  · intro message inside
    cases inside
  · intro entry inside
    cases inside
  · intro entry inside
    cases inside

theorem checkActive_triple {before : Client Secret → Prop} :
    Triple before checkActive (fun _ client => before client)
      (fun _ client => before client) := by
  refine triple_read_bind fun start holds => ?_
  split
  · exact triple_raise fun _ same => same ▸ holds
  · exact triple_pure fun _ same => same ▸ holds

theorem Guarded.accept_nothing
    (guarded : Guarded provider formats party accepted sent client) :
    Guarded provider formats party (accepted ++ []) sent client :=
  (List.append_nil accepted).symm ▸ guarded

theorem Guarded.send_nothing
    (guarded : Guarded provider formats party accepted sent client) :
    Guarded provider formats party accepted (sent ++ []) client :=
  (List.append_nil sent).symm ▸ guarded

/-- An action that neither accepts nor sends a message. -/
theorem silent_triple {before : Client Secret → Prop}
    {first : Throwing (Client Secret) Failure Unit}
    (kept : Triple before first
      (fun _ => Guarded provider formats party accepted sent)
      (KeptBehind provider formats party accepted sent))
    {action : Action Secret Proposal Commit}
    (silent : acceptedIn action (.done : Reply Proposal Commit) = [] ∧
      sentIn action (.done : Reply Proposal Commit) = []) :
    Triple before
      (first >>= fun _ => pure (.done : Reply Proposal Commit))
      (fun reply client => Guarded provider formats party
        (accepted ++ acceptedIn action reply) (sent ++ sentIn action reply)
        client)
      (KeptBehind provider formats party accepted sent) := by
  refine triple_bind kept fun _ => triple_pure ?_
  intro client guarded
  rw [silent.1, silent.2]
  exact guarded.accept_nothing.send_nothing

/-- What an action merges, the party may merge. -/
def Action.Agrees (party : Party Secret) (client : Client Secret) :
    Action Secret Proposal Commit → Prop
  | .mergePendingCommit _ =>
      ∀ staged, client.group.groupState = .pendingCommit staged →
        party.Admits staged.epoch staged.toStagedDiff
  | .receive _ _ stage =>
      ∀ commit group diff, stage commit group = some diff →
        party.Admits (group.epoch + 1) diff
  | .receivePublicCommit _ diff => party.Admits (client.group.epoch + 1) diff
  | _ => True

/-- What is remembered before an action, and what behind it. -/
theorem guarded_triple (accepted : List PrivateMessage)
    (sent : List (SentMessage Proposal Commit))
    (action : Action Secret Proposal Commit) :
    Triple
      (fun client => Guarded provider formats party accepted sent client ∧
        action.Agrees party client)
      (action.perform provider formats party.sign)
      (fun reply client => Guarded provider formats party
        (accepted ++ acceptedIn action reply) (sent ++ sentIn action reply)
        client)
      (KeptBehind provider formats party accepted sent) := by
  have first : ∀ client : Client Secret,
      Guarded provider formats party accepted sent client ∧
        action.Agrees party client →
      Guarded provider formats party accepted sent client :=
    fun _ start => start.1
  cases action with
  | createMessage text random =>
      exact triple_bind (triple_mapError
        ((createMessage_triple text random).strengthen first)
        fun _ _ kept _ => kept)
        fun output => triple_pure fun _ sent => sent.accept_nothing
  | propose proposal random =>
      exact triple_bind (triple_mapError
        ((propose_triple proposal random).strengthen first)
        fun _ _ kept _ => kept)
        fun framing => triple_pure fun _ sent => sent.accept_nothing
  | stageCommit commit confirmationTag diff random =>
      exact triple_bind (triple_mapError
        ((stageCommit_triple commit confirmationTag diff random).strengthen
          first) fun _ _ kept _ => kept)
        fun framing => triple_pure fun _ sent => sent.accept_nothing
  | receive message now stage =>
      refine triple_of_each fun start ⟨guarded, agrees⟩ => ?_
      exact triple_bind
        ((receive_triple message now agrees).strengthen
          fun _ same => same ▸ guarded)
        fun inbound => triple_pure fun _ received =>
          received.send_nothing
  | mergePendingCommit now =>
      exact silent_triple (mergePendingCommit_triple now) ⟨rfl, rfl⟩
  | receivePublicProposal =>
      exact triple_bind
        (triple_mapError checkActive_triple
          fun _ client kept _ => first client kept)
        fun _ => silent_triple (storing_triple.strengthen first) ⟨rfl, rfl⟩
  | receivePublicCommit now diff =>
      refine triple_bind
        (triple_mapError checkActive_triple
          fun _ client kept _ => first client kept)
        fun _ => silent_triple
          ((mergeReceived_triple now (some diff)).strengthen ?_) ⟨rfl, rfl⟩
      rintro client ⟨guarded, admitted⟩
      refine ⟨guarded, ?_⟩
      rintro found same
      cases same
      exact admitted
  | setPastEpochDeletionPolicy policy =>
      refine silent_triple (Triple.weaken
        (changeStore_triple (resize_subperm · policy)
          (resize_messageSecrets · policy)) first (fun _ _ kept => kept)
        fun _ _ kept _ => kept) ⟨rfl, rfl⟩
  | deletePastEpochSecrets deletion now =>
      have fewer (store : MessageSecretsStore Secret) :=
        deletePastEpochSecrets_sublist store deletion now
      refine silent_triple (Triple.weaken
        (changeStore_triple (fun store => (fewer store).1.subperm)
          fun store => (fewer store).2) first (fun _ _ kept => kept)
        fun _ _ kept _ => kept) ⟨rfl, rfl⟩
  | setAad aad =>
      exact silent_triple
        (triple_inMemory fun _ kept => kept.1.withAad aad) ⟨rfl, rfl⟩
  | restart =>
      exact silent_triple
        (triple_update fun _ kept => kept.1.restart) ⟨rfl, rfl⟩

/-- What an action keeps that is not cut off in a merge. -/
theorem whole_triple (accepted : List PrivateMessage)
    (sent : List (SentMessage Proposal Commit))
    (action : Action Secret Proposal Commit) :
    Triple
      (fun client => Guarded provider formats party accepted sent client ∧
        action.Agrees party client ∧
          action.Whole provider formats party.sign client)
      (action.perform provider formats party.sign)
      (fun reply client => Guarded provider formats party
        (accepted ++ acceptedIn action reply) (sent ++ sentIn action reply)
        client)
      (fun _ => Guarded provider formats party accepted sent) := by
  intro client ⟨guarded, agrees, whole⟩
  obtain ⟨onValue, onError⟩ :=
    guarded_triple accepted sent action client ⟨guarded, agrees⟩
  refine ⟨onValue, fun failure reached failed =>
    onError failure reached failed ?_⟩
  rintro rfl
  exact whole (congrArg Prod.fst failed)

end Clients

section Runs

variable {Secret Proposal Commit : Type} (provider : Provider Secret)
  (formats : BodyFormats Proposal Commit)

/-- A party that trusts every commit. -/
def Party.trusting (sign : Bytes → Option Bytes)
    (settings : MlsGroup Secret) : Party Secret where
  groupId := settings.groupId
  leaf := settings.ownLeafIndex
  sign := sign
  Enters _ _ := True

theorem agrees_trusting (sign : Bytes → Option Bytes)
    (settings : MlsGroup Secret) (client : Client Secret)
    (action : Action Secret Proposal Commit) :
    action.Agrees (Party.trusting sign settings) client := by
  have all : ∀ epoch diff,
      (Party.trusting sign settings).Admits epoch diff :=
    fun _ _ => .inr trivial
  cases action with
  | mergePendingCommit now => exact fun staged _ => all _ _
  | receive message now stage => exact fun _ _ _ _ => all _ _
  | receivePublicCommit now diff => exact all _ _
  | createMessage text random => trivial
  | propose proposal random => trivial
  | stageCommit commit confirmationTag diff random => trivial
  | receivePublicProposal => trivial
  | setPastEpochDeletionPolicy policy => trivial
  | deletePastEpochSecrets deletion now => trivial
  | setAad aad => trivial
  | restart => trivial

end Runs

/-- A provider that hides nothing, and takes every signature for a good one. -/
def openProvider : Provider (List (Bytes × Nat)) where
  toCrypto := KeyDerivation.symbolicCrypto
  aeadEncrypt _ _ _ text := some text
  aeadDecrypt _ _ _ text := some text
  asSlice _ := []
  macLength := 0
  verifySignature _ _ _ := true

/-- The settings of the client at the first leaf of a small tree. -/
def smallSettings : MlsGroup (List (Bytes × Nat)) where
  groupId := []
  epoch := 0
  serializedContext := []
  members := []
  treeSize := TreeSize.new 3
  ownLeafIndex := ⟨0⟩
  groupState := .operational
  hasProposals := false
  aad := []
  paddingSize := 4
  senderRatchetConfiguration := .default
  incomingPolicy := .mixed
  outgoingPolicy := .alwaysCiphertext
  store := MessageSecretsStore.newWithSecret (.maxEpochs 0)
    (splitSecrets [] [] [] (TreeSize.new 3) ⟨0⟩) 0

/-- A commit to the next epoch of the small group. -/
def smallDiff : StagedDiff (List (Bytes × Nat)) where
  serializedContext := [1]
  members := []
  treeSize := TreeSize.new 3
  state := .groupMember [([], 1)] []

/-- A client that sends a text, whatever the storage does. -/
def sendText (text : Bytes) : Action (List (Bytes × Nat)) Unit Unit :=
  .createMessage text (some ⟨[1, 2, 3, 4], rfl⟩)

/-
The storage fails in the middle of a merge: the client goes on in the next
epoch, is restarted in the old one, enters the next one again, and uses its
first key again.
-/
example :
    let history := returnedCalls
      (Action.perform openProvider emptyFormats fun _ => some [5])
      [.receivePublicCommit 7 smallDiff, sendText [104], .restart,
        .receivePublicCommit 7 smallDiff, sendText [105]]
      (Client.joined smallSettings [] [] (.maxEpochs 1) 0 [false, true])
    (sentBy history).map SentMessage.key =
      [(1, .applicationSecret, 0), (1, .applicationSecret, 0)] := by
  decide +kernel

end Mls4rn.OpenMls.GroupMessages
