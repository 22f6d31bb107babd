import Mls4rn.Core.GroupFacade

/-!
# Text messages of a group

`Group.send` encodes a string in UTF-8 and encrypts the bytes.
`Group.receiveText` decrypts a message and decodes what it gets.  Three layers
agree that an empty byte string stands for a handshake message, so a text
without characters looks like one; and the decoder drops a leading U+FEFF.
Every other text arrives as it was sent.

What is assumed of the library is that it gives back the plaintext that was
encrypted, whenever it processes the message as an application message.
-/

namespace Mls4rn.Core.TextMessages

open Mls4rn.Lib
open Mls4rn.Lib.ByteString
open Mls4rn.Lib.Utf16
open Mls4rn.Core.MlsGroup
open Mls4rn.Core.GroupFacade

/-! ## Sending and receiving -/

/-- OpenMLS with the encryption of application messages. -/
structure MessageMls (Member Epoch KeyPackage Proposal Seed : Type) extends
    OpenMls Member Epoch KeyPackage Proposal Seed where
  encrypt (own : Member) (epoch : Epoch) (plaintext : Bytes) (seed : Seed) :
    Except CodeUnits Bytes
  pendingProposal : CodeUnits
  decrypts :
    ∀ {sender receiver epoch plaintext seed message group bytes},
      encrypt sender epoch plaintext seed = .ok message →
        processBody receiver group message =
            .ok (.applicationMessage bytes) →
          bytes = plaintext

/-- The argument of `send`. -/
inductive Payload where
  | text (text : CodeUnits)
  | bytes (bytes : Bytes)
deriving DecidableEq, Repr

variable {Member Epoch KeyPackage Proposal Seed : Type}
variable (mls : MessageMls Member Epoch KeyPackage Proposal Seed)
variable (own : Member)

/-- `create_message`: not for evicted members, nor over pending proposals. -/
def createMessage (seed : Seed) (plaintext : Bytes) :
    GroupAction Epoch Proposal Bytes := do
  requireActive mls.toOpenMls
  let group ← Throwing.read
  if group.proposals = [] then
    ofResult (mls.encrypt own group.epoch plaintext seed)
  else
    Throwing.raise (.jsError mls.pendingProposal)

/-- `Group.send`. -/
def send (seed : Seed) : Payload → GroupAction Epoch Proposal Bytes
  | .text text => createMessage mls own seed (Utf8.encode text)
  | .bytes bytes => createMessage mls own seed bytes

/-- `Group.receiveText`; `none` is `null`. -/
def receiveText (message : Bytes) :
    GroupAction Epoch Proposal (Option CodeUnits) := do
  let bytes ← receive mls.toOpenMls own message
  if bytes.length = 0 then return none
  else return some (Utf8.decode bytes)

/-! ## What arrives -/

/-- The library processes a message of the group, with this content. -/
structure Processes
    (group : Group Epoch Proposal) (message : Bytes)
    (content : ProcessedContent Epoch Proposal) : Prop where
  protocol :
    mls.messageBody message = some .publicMessage ∨
      mls.messageBody message = some .privateMessage
  active : group.isActive = true
  processed : mls.processBody own group message = .ok content

section Receiving

variable {mls own}
variable {group : Group Epoch Proposal} {message bytes : Bytes}

theorem receive_of_processes
    {content : ProcessedContent Epoch Proposal}
    (processes : Processes mls own group message content) :
    receive mls.toOpenMls own message group =
      applyContent mls.toOpenMls content group := by
  have active :
      requireActive mls.toOpenMls group = (.ok (), group) := by
    rw [requireActive, if_pos processes.active]
  have course :
      processProtocolMessage mls.toOpenMls own message group =
        applyContent mls.toOpenMls content group := by
    rw [processProtocolMessage, Throwing.bind_of_ok active,
      Throwing.read_bind, processes.processed]
    rfl
  rcases processes.protocol with body | body
  · rw [receive, processMessage, body]
    exact course
  · rw [receive, processMessage, body]
    exact course

/-- An application message is decoded, unless it is empty. -/
theorem receiveText_of_application
    (processes :
      Processes mls own group message (.applicationMessage bytes)) :
    receiveText mls own message group =
      (.ok (if bytes = [] then none else some (Utf8.decode bytes)),
        group) := by
  have received :
      receive mls.toOpenMls own message group = (.ok bytes, group) := by
    rw [receive_of_processes processes]
    rfl
  rw [receiveText, Throwing.bind_of_ok received]
  simp only [List.length_eq_zero_iff]
  split
  · rfl
  · rfl

/-- What is sent is an encryption of the encoded text. -/
theorem encrypt_of_send
    {seed : Seed} {text : CodeUnits} {reached : Group Epoch Proposal}
    (sent : send mls own seed (.text text) group = (.ok message, reached)) :
    mls.encrypt own group.epoch (Utf8.encode text) seed = .ok message := by
  cases active : group.isActive with
  | false =>
      have refused :
          requireActive mls.toOpenMls group =
            (.error (.jsError mls.useAfterEviction), group) := by
        rw [requireActive, active]
        rfl
      rw [send, createMessage, Throwing.bind_of_error refused] at sent
      cases sent
  | true =>
      have passed : requireActive mls.toOpenMls group = (.ok (), group) := by
        rw [requireActive, if_pos active]
      rw [send, createMessage, Throwing.bind_of_ok passed,
        Throwing.read_bind] at sent
      split at sent
      · cases encrypted :
            mls.encrypt own group.epoch (Utf8.encode text) seed with
        | error error =>
            rw [encrypted] at sent
            cases sent
        | ok ciphertext =>
            rw [encrypted] at sent
            cases sent
            rfl
      · cases sent

end Receiving

/--
A well-formed text that is processed as an application message arrives as it
was sent exactly when it is not empty and does not start with U+FEFF; and an
application message is taken for a handshake message exactly when it is empty.
-/
theorem texts_arrive_iff :
    (∀ (sender receiver : Member) (seed : Seed) (text : CodeUnits)
        (source reached target : Group Epoch Proposal)
        (message bytes : Bytes),
      isWellFormed text = true →
        send mls sender seed (.text text) source = (.ok message, reached) →
          Processes mls receiver target message
              (.applicationMessage bytes) →
            ((receiveText mls receiver message target).1 =
                .ok (some text) ↔
              text ≠ [] ∧ Utf8.startsWithByteOrderMark text = false)) ∧
      ∀ (receiver : Member) (target : Group Epoch Proposal)
          (message bytes : Bytes),
        Processes mls receiver target message (.applicationMessage bytes) →
          ((receiveText mls receiver message target).1 = .ok none ↔
            bytes = []) := by
  constructor
  · intro sender receiver seed text source reached target message bytes
      wellFormed sent processes
    have plaintext : bytes = Utf8.encode text :=
      mls.decrypts (encrypt_of_send sent) processes.processed
    rw [receiveText_of_application processes, plaintext]
    simp only [Utf8.encode_eq_nil_iff, Except.ok.injEq]
    by_cases empty : text = []
    · simp [empty]
    · rw [if_neg empty, Option.some.injEq, Utf8.decode_encode_eq_iff]
      simp [empty, wellFormed]
  · intro receiver target message bytes processes
    rw [receiveText_of_application processes]
    by_cases empty : bytes = []
    · simp [empty]
    · simp [empty]

/-! ## Three texts -/

/-- OpenMLS on rosters, with a ciphertext that is the plaintext behind a zero. -/
def plainMls :
    MessageMls Nat Roster (Bytes × UInt8) RosterProposal Unit :=
  { rosterMls with
    encrypt := fun _ _ plaintext _ => .ok (0 :: plaintext)
    pendingProposal := literal "PendingProposal"
    messageBody := fun _ => some .privateMessage
    processBody := fun _ _ message =>
      .ok (.applicationMessage message.tail)
    decrypts := by
      intro sender receiver epoch plaintext seed message group bytes
        encrypted processed
      cases encrypted
      cases processed
      rfl }

theorem processes_plainMls (bytes : Bytes) :
    Processes plainMls 1 pairGroup (0 :: bytes)
      (.applicationMessage bytes) where
  protocol := Or.inr rfl
  active := rfl
  processed := rfl

/-- An ordinary text, with a character outside ASCII, arrives. -/
theorem texts_arrive_iff_greeting :
    (receiveText plainMls 1 (0 :: Utf8.encode (literal "¡hola")) pairGroup).1 =
      .ok (some (literal "¡hola")) :=
  ((texts_arrive_iff plainMls).1 0 1 () (literal "¡hola") pairGroup
    pairGroup pairGroup _ _ (by decide) (by decide +kernel)
    (processes_plainMls _)).mpr (by decide)

/--
The empty text and a text that starts with U+FEFF are sent and processed as
application messages, but do not arrive.
-/
theorem texts_do_not_arrive :
    (send plainMls 0 () (.text []) pairGroup).1 = .ok [0] ∧
      Processes plainMls 1 pairGroup [0] (.applicationMessage []) ∧
        (receiveText plainMls 1 [0] pairGroup).1 = .ok none ∧
      isWellFormed [0xFEFF, 0x61] = true ∧
        (send plainMls 0 () (.text [0xFEFF, 0x61]) pairGroup).1 =
            .ok [0, 0xEF, 0xBB, 0xBF, 0x61] ∧
          Processes plainMls 1 pairGroup [0, 0xEF, 0xBB, 0xBF, 0x61]
              (.applicationMessage [0xEF, 0xBB, 0xBF, 0x61]) ∧
            (receiveText plainMls 1 [0, 0xEF, 0xBB, 0xBF, 0x61]
              pairGroup).1 = .ok (some (literal "a")) := by
  refine ⟨?_, processes_plainMls [], ?_, ?_, ?_, processes_plainMls _, ?_⟩
  · decide +kernel
  · decide +kernel
  · decide
  · decide +kernel
  · decide +kernel

end Mls4rn.Core.TextMessages
