import Mls4rn.OpenMls.GroupRuns

/-!
# Delivery

The clients of a group agree on the secrets of their epochs.  Each of them
enters the epochs at its own pace, sends and receives, forgets past epochs and
is restarted, and the network may lose, repeat, reorder and invent messages.

A message that one of them has sent is then opened by every other one to
exactly what was sent, unless the state of the receiver stands against it: it
has left the group, does not take encrypted handshake messages, is not in the
epoch yet or has forgotten it, its ratchet does not hand out the generation, or
its storage fails.  There is no run in which a message of a member is taken for
a forgery.
-/

namespace Mls4rn.OpenMls.GroupMessages

open Mls4rn.Lib
open Mls4rn.Lib.ByteString
open Mls4rn.Lib.Throwing
open Mls4rn.OpenMls.Framing
open Mls4rn.OpenMls.PastSecrets
open Mls4rn.OpenMls.PrivateMessages
open Mls4rn.OpenMls.SecretTrees
open Mls4rn.OpenMls.SenderRatchet
open Mls4rn.OpenMls.TreeMath

/-! ## A group that agrees -/

/-- An epoch that the members agree on. -/
structure Epoch (Secret : Type) where
  encryptionSecret : Secret
  senderDataSecret : Secret
  serializedContext : Bytes
  members : List Member
  treeSize : TreeSize

/-- What a member that stays enters an epoch with. -/
def Epoch.diff {Secret : Type} (epoch : Epoch Secret) : StagedDiff Secret where
  serializedContext := epoch.serializedContext
  members := epoch.members
  treeSize := epoch.treeSize
  state := .groupMember epoch.encryptionSecret epoch.senderDataSecret

/-- A group with its epochs, and the leaves and signatures of its users. -/
structure Fellowship (Secret User : Type) where
  groupId : Bytes
  epochs : Nat → Epoch Secret
  leaf : User → LeafNodeIndex
  sign : User → Bytes → Option Bytes

section Delivery

variable {Secret Proposal Commit User : Type} (provider : Provider Secret)
  (formats : BodyFormats Proposal Commit)

/-- A user is a member in an epoch, and can be recognized by its signatures. -/
structure Fellowship.Enrolled (fellowship : Fellowship Secret User)
    (user : User) (epoch : Nat) : Prop where
  listed : ∃ member ∈ (fellowship.epochs epoch).members,
    member.index = fellowship.leaf user
  inTree : isNodeInTree (.leaf (fellowship.leaf user))
    (fellowship.epochs epoch).treeSize = true
  verifies : ∀ member ∈ (fellowship.epochs epoch).members,
    member.index = fellowship.leaf user → ∀ bytes signature,
      fellowship.sign user bytes = some signature →
        provider.verifySignature member.signatureKey bytes signature = true

/-- A user, who enters the epochs of the group as a member of them. -/
def Fellowship.party (fellowship : Fellowship Secret User) (user : User) :
    Party Secret where
  groupId := fellowship.groupId
  leaf := fellowship.leaf user
  sign := fellowship.sign user
  Enters epoch diff :=
    diff = (fellowship.epochs epoch).diff ∧
      fellowship.Enrolled provider user epoch

/-- Why a group has no key for a message that was sent from a leaf. -/
def keyError (leaf : LeafNodeIndex) (sent : SentMessage Proposal Commit)
    (group : MlsGroup Secret) : Option SecretTreeError :=
  match group.store.messageSecretsForEpoch group.epoch sent.message.epoch with
  | none => some .tooDistantInThePast
  | some secrets =>
      match (secretForDecryption provider.toCrypto leaf
        sent.message.contentType.secretType sent.generation
        group.senderRatchetConfiguration secrets.secretTree).1 with
      | .error error => some error
      | .ok _ => none

/-- A message of a later epoch, or a handshake message of an earlier one. -/
def IsOutOfStep (message : PrivateMessage) (group : MlsGroup Secret) : Prop :=
  group.epoch < message.epoch ∨
    message.contentType ≠ .application ∧ message.epoch ≠ group.epoch

instance (message : PrivateMessage) (group : MlsGroup Secret) :
    Decidable (IsOutOfStep message group) :=
  inferInstanceAs (Decidable (_ ∨ _))

/-- What in the state of a client stands against a message from a leaf. -/
def refusal (leaf : LeafNodeIndex) (sent : SentMessage Proposal Commit)
    (client : Client Secret) : Option ProcessMessageError :=
  if client.group.isActive = false then
    some (.groupStateError .useAfterEviction)
  else if sent.message.contentType ≠ .application ∧
      client.group.incomingPolicy.isCompatibleWith .privateMessage = false then
    some .incompatibleWireFormat
  else if IsOutOfStep sent.message client.group then
    some (.validationError .wrongEpoch)
  else
    match keyError provider leaf sent client.group with
    | some error =>
        some (.validationError (.unableToDecrypt (.secretTreeError error)))
    | none => if client.faults.headD false then some .storageError else none

/--
A client opens a message to what was sent, exactly if nothing in its state
stands against it, and else it answers what that is.
-/
def DeliveredOrRefused (fellowship : Fellowship Secret User) (sender : User)
    (sent : SentMessage Proposal Commit) (client : Client Secret) : Prop :=
  ∃ member ∈ (fellowship.epochs sent.message.epoch).members,
    member.index = fellowship.leaf sender ∧
      (processMessage provider formats sent.message client).1 =
        (refusal provider (fellowship.leaf sender) sent client).elim
          (.ok (.verified (sent.content (fellowship.leaf sender))
            member.credential)) .error

/-! ## The sender is known -/

variable {provider formats} {fellowship : Fellowship Secret User}
  {sender receiver : User} {accepted : List PrivateMessage}
  {used : List OwnKey} {sent : SentMessage Proposal Commit}

theorem exists_find_of_listed {members : List Member} {leaf : LeafNodeIndex}
    (listed : ∃ member ∈ members, member.index = leaf) :
    ∃ member ∈ members, member.index = leaf ∧
      members.find? (·.index = leaf) = some member := by
  obtain ⟨member, inside, same⟩ := listed
  cases found : members.find? (·.index = leaf) with
  | none =>
      have missing := List.find?_eq_none.mp found member inside
      exact absurd (decide_eq_true same) missing
  | some other =>
      exact ⟨other, List.mem_of_find?_eq_some found,
        by simpa using List.find?_some found, rfl⟩

/-- The entry of a past epoch, behind a write as before it. -/
theorem find_setFirst (asked : Nat) (secrets : MessageSecrets Secret)
    (trees : List (EpochTree Secret)) :
    (MessageSecretsStore.setFirst asked secrets trees).find?
        (·.epoch = asked) =
      (trees.find? (·.epoch = asked)).map fun tree =>
        { tree with messageSecrets := secrets } := by
  induction trees with
  | nil => rfl
  | cons tree trees induction =>
      rw [MessageSecretsStore.setFirst]
      split
      · next here => simp [here]
      · next elsewhere => simp [elsewhere, induction]

/-- The members of an epoch are looked up in the group or in the store. -/
structure Knows (group : MlsGroup Secret) (number : Nat)
    (epoch : Epoch Secret) : Prop where
  current : number = group.epoch →
    group.members = epoch.members ∧ group.treeSize = epoch.treeSize
  past : number ≠ group.epoch → ∃ tree,
    group.store.pastEpochTrees.find? (·.epoch = number) = some tree ∧
      tree.leaves = epoch.members

variable {group : MlsGroup Secret} {auth : FramedContentAuthData}

/-- An epoch whose secrets are found is one whose members are known. -/
theorem knows_of_guards
    (guards : GroupGuards provider (fellowship.party provider receiver)
      accepted used group) (active : group.isActive = true) {asked : Nat}
    {secrets : MessageSecrets Secret}
    (found : group.store.messageSecretsForEpoch group.epoch asked =
      some secrets) (within : asked ≤ group.epoch) :
    Knows group asked (fellowship.epochs asked) where
  current same := by
    obtain ⟨diff, ⟨rfl, -⟩, members, treeSize, -⟩ := guards.current active
    rw [same]
    exact ⟨members, treeSize⟩
  past different := by
    rw [MessageSecretsStore.messageSecretsForEpoch, if_pos (by omega)] at found
    obtain ⟨tree, first, -⟩ := Option.map_eq_some_iff.mp found
    refine ⟨tree, first, ?_⟩
    have inside := List.mem_of_find?_eq_some first
    have same : tree.epoch = asked := by simpa using List.find?_some first
    obtain ⟨-, -, diff, ⟨rfl, -⟩, leaves⟩ :=
      (guards.store active).past tree inside
    rw [leaves, same]
    rfl

theorem Knows.setMessageSecretsForEpoch
    {asked : Nat} {epoch : Epoch Secret} (knows : Knows group asked epoch)
    (within : asked ≤ group.epoch) (secrets : MessageSecrets Secret) :
    Knows
      { group with
        store := group.store.setMessageSecretsForEpoch group.epoch asked
          secrets } asked epoch where
  current := knows.current
  past different := by
    have different : asked ≠ group.epoch := different
    obtain ⟨tree, first, leaves⟩ := knows.past different
    rw [MessageSecretsStore.setMessageSecretsForEpoch, if_pos (by omega)]
    refine ⟨{ tree with messageSecrets := secrets }, ?_, leaves⟩
    show (MessageSecretsStore.setFirst _ _ _).find? _ = _
    rw [find_setFirst, first]
    rfl

/-- A known member is found, and may have sent a message. -/
theorem Knows.lookUp {asked : Nat}
    (knows : Knows group asked (fellowship.epochs asked))
    (enrolled : fellowship.Enrolled provider sender asked) :
    (∃ member ∈ (fellowship.epochs asked).members,
      member.index = fellowship.leaf sender ∧
        lookUpCredentialWithKey group asked (fellowship.leaf sender) =
          some member) ∧
      (isNodeInTree (.leaf (fellowship.leaf sender)) group.treeSize ||
        group.store.epochHasLeaf asked (fellowship.leaf sender)) = true := by
  obtain ⟨listed, inTree, -⟩ := enrolled
  rw [lookUpCredentialWithKey]
  by_cases same : asked = group.epoch
  · obtain ⟨members, treeSize⟩ := knows.current same
    rw [if_pos same, members, treeSize, inTree]
    exact ⟨exists_find_of_listed listed, rfl⟩
  · obtain ⟨tree, first, leaves⟩ := knows.past same
    rw [if_neg same]
    constructor
    · have reversed : ∃ member ∈ (fellowship.epochs asked).members.reverse,
          member.index = fellowship.leaf sender := by
        obtain ⟨member, inside, here⟩ := listed
        exact ⟨member, List.mem_reverse.mpr inside, here⟩
      obtain ⟨member, inside, here, found⟩ := exists_find_of_listed reversed
      refine ⟨member, List.mem_reverse.mp inside, here, ?_⟩
      rw [MessageSecretsStore.leafForEpoch, first, Option.bind_some, leaves,
        found]
    · have known : group.store.epochHasLeaf asked
          (fellowship.leaf sender) = true := by
        have here : tree.epoch = asked := by simpa using List.find?_some first
        obtain ⟨member, inside, index⟩ := listed
        refine List.any_eq_true.mpr ⟨tree, List.mem_of_find?_eq_some first, ?_⟩
        rw [Bool.and_eq_true, decide_eq_true_iff, List.any_eq_true, leaves]
        exact ⟨here, member, inside, decide_eq_true index⟩
      rw [known, Bool.or_true]

/-- The content of a sent message, as the receiver gets it. -/
def SentMessage.received (leaf : LeafNodeIndex)
    (sent : SentMessage Proposal Commit) (context : Bytes)
    (auth : FramedContentAuthData) :
    VerifiableAuthenticatedContent Proposal Commit where
  wireFormat := .privateMessage
  content := sent.content leaf
  serializedContext := some context
  auth := auth

theorem not_untagged (fits : auth.Fits sent.body.contentType) :
    ¬(sent.body.contentType = .commit ∧
      auth.confirmationTag.isNone = true) := by
  rintro ⟨commit, missing⟩
  have there := fits.mpr commit
  rw [Option.isNone_iff_eq_none] at missing
  rw [missing] at there
  cases there

theorem fromVerifiableContent_received (leaf : LeafNodeIndex)
    (context : Bytes) (fits : auth.Fits sent.body.contentType) :
    fromVerifiableContent (sent.received leaf context auth) =
      .ok (sent.received leaf context auth) := by
  refine (if_neg (not_untagged fits)).trans ?_
  split
  · rfl
  · rfl

/-- Content of a known member with its signature is accepted. -/
theorem checkContent_received
    (knows : Knows group sent.message.epoch
      (fellowship.epochs sent.message.epoch))
    (enrolled : fellowship.Enrolled provider sender sent.message.epoch)
    {context : Bytes} (fits : auth.Fits sent.body.contentType)
    (signed : (signedBytes formats .privateMessage
      (sent.content (fellowship.leaf sender)) context).bind
        (fellowship.sign sender) = some auth.signature) :
    ∃ member ∈ (fellowship.epochs sent.message.epoch).members,
      member.index = fellowship.leaf sender ∧
        checkContent provider formats group
            (sent.received (fellowship.leaf sender) context auth) =
          .ok (.verified (sent.content (fellowship.leaf sender))
            member.credential) := by
  obtain ⟨⟨member, inside, index, found⟩, known⟩ := knows.lookUp enrolled
  refine ⟨member, inside, index, ?_⟩
  have valid : validateVerifiableContent group
      (sent.received (fellowship.leaf sender) context auth) = .ok () := by
    refine (if_neg (by rw [Bool.not_eq_false]; exact known)).trans ?_
    refine (if_neg fun wrong => wrong.2 rfl).trans ?_
    refine (if_neg fun wrong => Bool.false_ne_true wrong.2.symm).trans ?_
    exact if_neg (not_untagged fits)
  have parsed : parseMessage group
      (sent.received (fellowship.leaf sender) context auth) = .ok member := by
    rw [parseMessage, valid, ok_bind]
    show ((lookUpCredentialWithKey group sent.message.epoch
      (fellowship.leaf sender)).elim _ _) = _
    rw [found]
    rfl
  have verified : verify provider formats
      (sent.received (fellowship.leaf sender) context auth)
      member.signatureKey = true := by
    obtain ⟨bytes, written, signature⟩ := Option.bind_eq_some_iff.mp signed
    show (signedBytes formats .privateMessage
      (sent.content (fellowship.leaf sender)) context).any _ = true
    rw [written]
    exact enrolled.verifies member inside index bytes auth.signature signature
  rw [checkContent, parsed, ok_bind, if_pos verified]
  rfl

/-! ## The message is opened -/

theorem height_unique {size : TreeSize} {one other : Nat}
    (tall : size.HasHeight one) (alsoTall : size.HasHeight other) :
    one = other := by
  rw [← tall.log2_eq, alsoTall.log2_eq]

/--
The receiver has the key that the sender has used, or none: the two follow the
same path from the same secret.
-/
theorem toVerifiableContent_of_carries (correct : provider.Correct)
    (carried : CarriesWith provider formats (fellowship.party provider sender)
      sent auth)
    {secrets : MessageSecrets Secret}
    (spends : Spends provider (fellowship.party provider receiver) accepted
      used sent.message.epoch secrets)
    (configuration : SenderRatchetConfiguration) :
    ∃ reuseGuard,
      senderData provider sent.message secrets.senderDataSecret =
          .ok ⟨fellowship.leaf sender, sent.generation, reuseGuard⟩ ∧
        (toVerifiableContent provider formats sent.message
            (fellowship.leaf sender) configuration
            ⟨fellowship.leaf sender, sent.generation, reuseGuard⟩ secrets).1 =
          ((secretForDecryption provider.toCrypto (fellowship.leaf sender)
              sent.message.contentType.secretType sent.generation
              configuration secrets.secretTree).1.map
            fun _ => sent.received (fellowship.leaf sender)
              (fellowship.epochs sent.message.epoch).serializedContext
              auth).mapError .secretTreeError := by
  obtain ⟨diff, root, senderDataSecret, top, paddingSize, aad, material,
    reuseGuard, ⟨rfl, -⟩, state, tall, sealing⟩ := carried.keyed
  obtain ⟨history, spent⟩ := spends
  obtain ⟨otherRoot, otherTop, ⟨otherDiff, ⟨rfl, -⟩, otherState, context,
    otherTall⟩, answered⟩ := spent.answered
  -- Both have the secrets of the same epoch.
  rw [state] at otherState
  obtain ⟨rfl, rfl⟩ := StagedCommitState.groupMember.inj otherState
  obtain rfl := height_unique tall otherTall
  refine ⟨reuseGuard, senderData_of_sealed correct sealing.isSealed, ?_⟩
  have contentType : sent.message.contentType = sent.body.contentType :=
    sealing.isSealed.contentType
  obtain ⟨onValue, -⟩ := answered_decryption_triple root top
    (fellowship.leaf receiver) history (fellowship.leaf sender)
    sent.message.contentType.secretType sent.generation configuration
    secrets.secretTree answered
  cases ran : secretForDecryption provider.toCrypto (fellowship.leaf sender)
      sent.message.contentType.secretType sent.generation configuration
      secrets.secretTree with
  | mk result tree =>
      cases result with
      | error error =>
          exact congrArg Prod.fst (bind_of_error (zoom_of_error ran) _)
      | ok found =>
          have right := (onValue found tree ran).right (.decrypt
            (fellowship.leaf sender) sent.message.contentType.secretType
            sent.generation configuration, sent.generation, found) (by simp)
          have keyed := sealing.keyed
          have same : material = found := by
            rw [contentType] at right
            exact Option.some.inj (keyed.symm.trans right)
          subst same
          refine (congrArg Prod.fst (bind_of_ok (zoom_of_ok ran) _)).trans ?_
          have opened := decrypt_of_sealed correct sealing.aadWritten
            carried.fits sealing.isSealed
          refine (congrArg Prod.fst (bind_of_ok
            (congrArg (fun result => (result, _)) opened) _)).trans ?_
          rw [read_bind]
          show Except.ok _ = Except.ok _
          rw [← context]
          rfl

theorem validateFraming_of_groupId
    {message : PrivateMessage} (same : message.groupId = group.groupId) :
    validateFraming group message =
      if IsOutOfStep message group then .error .wrongEpoch else .ok () := by
  rw [validateFraming, if_neg (not_not.mpr same)]
  by_cases application : message.contentType = .application
  · rw [if_pos application]
    simp [IsOutOfStep, application]
  · rw [if_neg application]
    by_cases step : message.epoch = group.epoch
    · simp [IsOutOfStep, step]
    · simp [IsOutOfStep, application, step]

theorem fromInboundCiphertext_of_carries (correct : provider.Correct)
    (apart : fellowship.leaf sender ≠ fellowship.leaf receiver)
    (carried : CarriesWith provider formats (fellowship.party provider sender)
      sent auth)
    (guards : GroupGuards provider (fellowship.party provider receiver)
      accepted used group) (active : group.isActive = true)
    (within : sent.message.epoch ≤ group.epoch) :
    (keyError provider (fellowship.leaf sender) sent group = none →
      ∃ reached,
        fromInboundCiphertext provider formats sent.message group =
            (.ok (.decrypted (sent.received (fellowship.leaf sender)
              (fellowship.epochs sent.message.epoch).serializedContext auth)),
              reached) ∧
          Knows reached sent.message.epoch
            (fellowship.epochs sent.message.epoch)) ∧
      ∀ error, keyError provider (fellowship.leaf sender) sent group =
          some error →
        ∃ reached,
          fromInboundCiphertext provider formats sent.message group =
            (.error (.unableToDecrypt (.secretTreeError error)), reached) := by
  unfold fromInboundCiphertext keyError
  rw [read_bind]
  cases found : group.store.messageSecretsForEpoch group.epoch
      sent.message.epoch with
  | none =>
      constructor
      · intro wrong
        cases wrong
      · intro error same
        cases same
        exact ⟨group, rfl⟩
  | some secrets =>
      have spends := (guards.store active).lookUp within found
      have knows := knows_of_guards guards active found within
      obtain ⟨reuseGuard, opened, received⟩ := toVerifiableContent_of_carries
        correct carried spends group.senderRatchetConfiguration
      have other : ¬fellowship.leaf sender = group.ownLeafIndex := by
        rw [guards.leaf]
        exact apart
      dsimp only
      rw [opened, Except.mapError, ofExcept_ok_bind, if_neg other]
      cases ran : toVerifiableContent provider formats sent.message
          (fellowship.leaf sender) group.senderRatchetConfiguration
          ⟨fellowship.leaf sender, sent.generation, reuseGuard⟩ secrets with
      | mk result after =>
      rw [ran] at received
      cases keyed : (secretForDecryption provider.toCrypto
          (fellowship.leaf sender) sent.message.contentType.secretType
          sent.generation group.senderRatchetConfiguration
          secrets.secretTree).1 with
      | error error =>
          rw [keyed] at received
          obtain rfl : result = _ := received
          constructor
          · intro wrong
            cases wrong
          · intro other same
            cases same
            exact ⟨_, bind_of_error (zoom_of_error ran) _⟩
      | ok material =>
          rw [keyed] at received
          obtain rfl : result = _ := received
          constructor
          · intro _
            refine ⟨_, ?_, knows.setMessageSecretsForEpoch within after⟩
            refine (bind_of_ok (zoom_of_ok ran) _).trans ?_
            rw [fromVerifiableContent_received _ _ carried.fits]
            rfl
          · intro error wrong
            cases wrong

theorem deliveredOrRefused_of_refusal {client : Client Secret}
    (enrolled : fellowship.Enrolled provider sender sent.message.epoch)
    {error : ProcessMessageError}
    (against : refusal provider (fellowship.leaf sender) sent client =
      some error)
    (answered : (processMessage provider formats sent.message client).1 =
      .error error) :
    DeliveredOrRefused provider formats fellowship sender sent client := by
  obtain ⟨member, inside, index⟩ := enrolled.listed
  refine ⟨member, inside, index, ?_⟩
  rw [against]
  exact answered

/-- A message of another member is opened, or the state stands against it. -/
theorem processMessage_of_carries (correct : provider.Correct)
    (apart : fellowship.leaf sender ≠ fellowship.leaf receiver)
    (carried : Carries provider formats (fellowship.party provider sender)
      sent) {others : List (SentMessage Proposal Commit)}
    {client : Client Secret}
    (guarded : Guarded provider formats (fellowship.party provider receiver)
      accepted others client) :
    DeliveredOrRefused provider formats fellowship sender sent client := by
  obtain ⟨auth, carried⟩ := carried
  obtain ⟨diff, ⟨rfl, enrolled⟩, signed⟩ := carried.signed
  by_cases gone : client.group.isActive = false
  · refine deliveredOrRefused_of_refusal enrolled (if_pos gone) ?_
    rw [processMessage, read_bind, if_pos gone]
    rfl
  by_cases policy : sent.message.contentType ≠ .application ∧
      client.group.incomingPolicy.isCompatibleWith .privateMessage = false
  · refine deliveredOrRefused_of_refusal enrolled
      ((if_neg gone).trans (if_pos policy)) ?_
    rw [processMessage, read_bind, if_neg gone, if_pos policy]
    rfl
  have active : client.group.isActive = true := by simpa using gone
  have id : sent.message.groupId = client.group.groupId := by
    rw [carried.id, guarded.memory.id]
    rfl
  have decrypting : decryptMessage provider formats sent.message client.group =
      (ofExcept (validateFraming client.group sent.message) >>=
        fun _ => fromInboundCiphertext provider formats sent.message)
        client.group := rfl
  rw [validateFraming_of_groupId id] at decrypting
  by_cases out : IsOutOfStep sent.message client.group
  · refine deliveredOrRefused_of_refusal enrolled
      ((if_neg gone).trans ((if_neg policy).trans (if_pos out))) ?_
    rw [if_pos out] at decrypting
    rw [processMessage, read_bind, if_neg gone, if_neg policy]
    exact congrArg Prod.fst (bind_of_error (zoom_of_error decrypting) _)
  have inStep : refusal provider (fellowship.leaf sender) sent client = _ :=
    (if_neg gone).trans ((if_neg policy).trans (if_neg out))
  rw [if_neg out, ofExcept_ok_bind] at decrypting
  obtain ⟨delivers, refuses⟩ := fromInboundCiphertext_of_carries correct apart
    carried guarded.memory active
    (Nat.le_of_not_lt fun later => out (.inl later))
  cases key : keyError provider (fellowship.leaf sender) sent client.group with
  | some error =>
      obtain ⟨reached, failed⟩ := refuses error key
      rw [key] at inStep
      refine deliveredOrRefused_of_refusal enrolled inStep ?_
      rw [processMessage, read_bind, if_neg gone, if_neg policy]
      exact congrArg Prod.fst (bind_of_error
        (zoom_of_error (decrypting.trans failed)) _)
  | none =>
      obtain ⟨reached, opened, knows⟩ := delivers key
      rw [key] at inStep
      have decrypted : onGroup (decryptMessage provider formats sent.message)
          client =
            (.ok (.decrypted (sent.received (fellowship.leaf sender)
              (fellowship.epochs sent.message.epoch).serializedContext auth)),
              { client with group := reached }) :=
        zoom_of_ok (decrypting.trans opened)
      by_cases fault : client.faults.headD false = true
      · refine deliveredOrRefused_of_refusal enrolled
          (inStep.trans (if_pos fault)) ?_
        rw [processMessage, read_bind, if_neg gone, if_neg policy]
        refine (congrArg Prod.fst (bind_of_ok decrypted _)).trans ?_
        have failed : writeMessageSecrets ProcessMessageError.storageError
            { client with group := reached } = (.error .storageError, _) :=
          write_of_fault fault
        exact congrArg Prod.fst (bind_of_error failed _)
      · obtain ⟨member, inside, index, checked⟩ :=
          checkContent_received knows enrolled carried.fits signed
        refine ⟨member, inside, index, ?_⟩
        rw [inStep, if_neg fault, processMessage, read_bind,
          if_neg gone, if_neg policy]
        refine (congrArg Prod.fst (bind_of_ok decrypted _)).trans ?_
        have written : writeMessageSecrets ProcessMessageError.storageError
            { client with group := reached } = (.ok (), _) :=
          write_of_no_fault fault
        refine (congrArg Prod.fst (bind_of_ok written _)).trans ?_
        exact congrArg (Except.mapError _) checked

/-- The client of a user who joins in an epoch. -/
def Fellowship.join (fellowship : Fellowship Secret User) (user : User)
    (number : Nat) (settings : MlsGroup Secret)
    (policy : PastEpochDeletionPolicy) (now : Int) (faults : List Bool) :
    Client Secret :=
  let epoch := fellowship.epochs number
  Client.joined
    { settings with
      groupId := fellowship.groupId
      epoch := number
      serializedContext := epoch.serializedContext
      members := epoch.members
      treeSize := epoch.treeSize
      ownLeafIndex := fellowship.leaf user }
    epoch.encryptionSecret epoch.senderDataSecret policy now faults

theorem guarded_join {user : User} {number : Nat}
    (enrolled : fellowship.Enrolled provider user number)
    (settings : MlsGroup Secret) (policy : PastEpochDeletionPolicy)
    (now : Int) (faults : List Bool) :
    Guarded provider formats (fellowship.party provider user) [] []
      (fellowship.join user number settings policy now faults) := by
  have enters : (fellowship.party provider user).Enters number
      (fellowship.epochs number).diff := ⟨rfl, enrolled⟩
  refine guarded_joined _ enters rfl ?_ ?_ ?_ ?_ ?_ policy now faults
  all_goals rfl

end Delivery

/-! ## Runs of the group -/

section Group

variable {Secret Proposal Commit User : Type} [DecidableEq User]
  (provider : Provider Secret) (formats : BodyFormats Proposal Commit)
  (fellowship : Fellowship Secret User)

/-- The client of a user does something. -/
def act (call : User × Action Secret Proposal Commit) :
    Throwing (User → Client Secret) Failure (Reply Proposal Commit) :=
  zoom (fun clients => clients call.1)
    (fun client clients => Function.update clients call.1 client) id
    (call.2.perform provider formats (fellowship.sign call.1))

/-- What a user merges, all have agreed on, and the merge is not cut off. -/
def Fellowship.Allows (call : User × Action Secret Proposal Commit)
    (clients : User → Client Secret) : Prop :=
  call.2.Agrees (fellowship.party provider call.1) (clients call.1) ∧
    call.2.Whole provider formats (fellowship.sign call.1) (clients call.1)

/-- What a user has done in a history. -/
def historyOf (user : User)
    (history : List ((User × Action Secret Proposal Commit) ×
      Reply Proposal Commit)) :
    List (Action Secret Proposal Commit × Reply Proposal Commit) :=
  (history.filter (·.1.1 = user)).map fun entry => (entry.1.2, entry.2)

variable {provider formats fellowship}

/-- The others do nothing meanwhile. -/
theorem act_of_ne {call : User × Action Secret Proposal Commit} {user : User}
    (other : user ≠ call.1) (clients : User → Client Secret) :
    (act provider formats fellowship call clients).2 user = clients user := by
  unfold act zoom
  split
  · exact Function.update_of_ne other ..
  · exact Function.update_of_ne other ..

theorem historyOf_concat_self
    (history : List ((User × Action Secret Proposal Commit) ×
      Reply Proposal Commit))
    (call : User × Action Secret Proposal Commit)
    (reply : Reply Proposal Commit) :
    historyOf call.1 (history ++ [(call, reply)]) =
      historyOf call.1 history ++ [(call.2, reply)] := by
  simp [historyOf, List.filter_append]

theorem historyOf_concat_of_ne
    (history : List ((User × Action Secret Proposal Commit) ×
      Reply Proposal Commit))
    {call : User × Action Secret Proposal Commit} {user : User}
    (other : user ≠ call.1) (reply : Reply Proposal Commit) :
    historyOf user (history ++ [(call, reply)]) = historyOf user history := by
  simp [historyOf, List.filter_append, Ne.symm other]

/-- All clients remember what they have accepted and sent. -/
def AllGuarded (provider : Provider Secret)
    (formats : BodyFormats Proposal Commit)
    (fellowship : Fellowship Secret User)
    (history : List ((User × Action Secret Proposal Commit) ×
      Reply Proposal Commit))
    (clients : User → Client Secret) : Prop :=
  ∀ user, Guarded provider formats (fellowship.party provider user)
    (acceptedBy (historyOf user history)) (sentBy (historyOf user history))
    (clients user)

/-- The action of one client is none of the business of the others. -/
theorem act_triple
    (history : List ((User × Action Secret Proposal Commit) ×
      Reply Proposal Commit))
    (call : User × Action Secret Proposal Commit) :
    Triple
      (fun clients => AllGuarded provider formats fellowship history clients ∧
        fellowship.Allows provider formats call clients)
      (act provider formats fellowship call)
      (fun reply clients => AllGuarded provider formats fellowship
        (history ++ [(call, reply)]) clients)
      (fun _ => AllGuarded provider formats fellowship history) := by
  refine triple_of_each fun clients ⟨guarded, allowed⟩ => ?_
  refine triple_zoom
    (@whole_triple Secret Proposal Commit provider formats
      (fellowship.party provider call.1)
      (acceptedBy (historyOf call.1 history))
      (sentBy (historyOf call.1 history)) call.2) ?_ ?_ ?_
  · rintro _ rfl
    exact ⟨guarded call.1, allowed⟩
  · rintro _ reply client rfl after user
    by_cases same : user = call.1
    · subst same
      rw [Function.update_self, historyOf_concat_self, acceptedBy_concat,
        sentBy_concat]
      exact after
    · rw [Function.update_of_ne same, historyOf_concat_of_ne history same]
      exact guarded user
  · rintro _ error client rfl after user
    by_cases same : user = call.1
    · subst same
      rw [Function.update_self]
      exact after
    · rw [Function.update_of_ne same]
      exact guarded user

end Group

/-- Two users at the first two leaves. -/
def pair : Fellowship (List (Bytes × Nat)) Bool where
  groupId := [1]
  epochs number :=
    { encryptionSecret := [([], number)]
      senderDataSecret := []
      serializedContext := [2]
      members := [⟨⟨0⟩, [3], []⟩, ⟨⟨1⟩, [4], []⟩]
      treeSize := TreeSize.new 3 }
  leaf user := ⟨user.toNat⟩
  sign _ _ := some [5]

theorem correct_openProvider : openProvider.Correct := by
  intro key nonce aad text ciphertext encrypted
  cases encrypted
  rfl

theorem enrolled_pair (user : Bool) (epoch : Nat) :
    pair.Enrolled openProvider user epoch where
  listed := by
    cases user with
    | false => exact ⟨⟨⟨0⟩, [3], []⟩, List.mem_cons_self, rfl⟩
    | true =>
        exact ⟨⟨⟨1⟩, [4], []⟩, List.mem_cons_of_mem _ List.mem_cons_self, rfl⟩
  inTree := by
    cases user with
    | false => rfl
    | true => rfl
  verifies := fun _ _ _ _ _ _ => rfl

end Mls4rn.OpenMls.GroupMessages
