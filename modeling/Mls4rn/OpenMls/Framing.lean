import Mls4rn.OpenMls.SecretTree

/-!
# Framed content

The content of a message, its signed and its encrypted forms: `mls_content.rs`,
`mls_auth_content.rs`, `sender.rs` and the content part of
`private_message.rs` and `codec.rs`.  Proposals and commits are behind formats
of their own, which are parameters, and so are the lengths that
`tls_serialized_len` announces for them.

The content is encrypted without its type and padded with zeros.  The reader is
told the type, and takes whatever is left behind the content for padding.  The
padding is counted from the announced length, which for some extensions is not
the length written.
-/

namespace Mls4rn.OpenMls.Framing

open Mls4rn.Lib
open Mls4rn.Lib.ByteString
open Mls4rn.Lib.WireFormat
open Mls4rn.OpenMls.SecretTrees
open Mls4rn.OpenMls.TreeMath

/-! ## Content -/

/-- `ContentType`. -/
inductive ContentType where
  | application
  | proposal
  | commit
deriving DecidableEq, Repr

/-- The discriminant of a type. -/
def ContentType.code : ContentType → Nat
  | .application => 1
  | .proposal => 2
  | .commit => 3

/-- `TryFrom<u8> for ContentType`. -/
def ContentType.ofCode : Nat → Option ContentType
  | 1 => some .application
  | 2 => some .proposal
  | 3 => some .commit
  | _ => none

theorem ofCode_code (contentType : ContentType) :
    ContentType.ofCode contentType.code = some contentType := by
  cases contentType with
  | application => rfl
  | proposal => rfl
  | commit => rfl

/-- The encoding of a type. -/
def ContentType.format : Format ContentType :=
  (Format.uint 1).represent ContentType.code ContentType.ofCode ofCode_code

/-- `From<&ContentType> for SecretType`. -/
def ContentType.secretType : ContentType → SecretType
  | .application => .applicationSecret
  | .commit => .handshakeSecret
  | .proposal => .handshakeSecret

/-- `FramedContentBody`. -/
inductive FramedContentBody (Proposal Commit : Type) where
  | application (bytes : Bytes)
  | proposal (proposal : Proposal)
  | commit (commit : Commit)
deriving DecidableEq, Repr

/-- `FramedContentAuthData`. -/
structure FramedContentAuthData where
  signature : Bytes
  confirmationTag : Option Bytes
deriving DecidableEq, Repr

/--
The encodings of proposals and commits, and the lengths that their
`tls_serialized_len` announces.
-/
structure BodyFormats (Proposal Commit : Type) where
  proposal : Format Proposal
  commit : Format Commit
  proposalLength : Proposal → Nat
  commitLength : Commit → Nat

section Content

variable {Proposal Commit : Type}

/-- `FramedContentBody::content_type`. -/
def FramedContentBody.contentType :
    FramedContentBody Proposal Commit → ContentType
  | .application _ => .application
  | .proposal _ => .proposal
  | .commit _ => .commit

variable (formats : BodyFormats Proposal Commit)

/-- `FramedContentBody::serialize_without_type`. -/
def FramedContentBody.serializeWithoutType :
    FramedContentBody Proposal Commit → Option Bytes
  | .application bytes => Format.vector.write bytes
  | .proposal content => formats.proposal.write content
  | .commit content => formats.commit.write content

/-- `FramedContentBody::serialized_len_without_type`. -/
def FramedContentBody.serializedLenWithoutType :
    FramedContentBody Proposal Commit → Nat
  | .application bytes => Format.lengthWidth bytes.length + bytes.length
  | .proposal content => formats.proposalLength content
  | .commit content => formats.commitLength content

/-- A body is written in as many bytes as it announces. -/
def FramedContentBody.Measured (body : FramedContentBody Proposal Commit) :
    Prop :=
  ∀ content, body.serializeWithoutType formats = some content →
    content.length = body.serializedLenWithoutType formats

/-- Application messages are. -/
theorem measured_application (bytes : Bytes) :
    (FramedContentBody.application bytes).Measured formats := by
  intro content written
  exact Format.length_write_vector written

/-- `FramedContentBodyIn::deserialize_without_type`. -/
def FramedContentBody.deserializeWithoutType (bytes : Bytes) :
    ContentType → Option (FramedContentBody Proposal Commit × Bytes)
  | .application =>
      (Format.vector.read bytes).map fun taken =>
        (.application taken.1, taken.2)
  | .proposal =>
      (formats.proposal.read bytes).map fun taken =>
        (.proposal taken.1, taken.2)
  | .commit =>
      (formats.commit.read bytes).map fun taken => (.commit taken.1, taken.2)

/-- The bytes of a tag, if there is one. -/
def serializeTag : Option Bytes → Option Bytes
  | some tag => Format.vector.write tag
  | none => some []

/-- `tls_serialize` of `FramedContentAuthData`. -/
def FramedContentAuthData.serialize (auth : FramedContentAuthData) :
    Option Bytes := do
  let signature ← Format.vector.write auth.signature
  let tag ← serializeTag auth.confirmationTag
  return signature ++ tag

/-- `tls_serialized_len` of `FramedContentAuthData`. -/
def FramedContentAuthData.serializedLen (auth : FramedContentAuthData) :
    Nat :=
  let tagLength := match auth.confirmationTag with
    | some tag => Format.lengthWidth tag.length + tag.length
    | none => 0
  Format.lengthWidth auth.signature.length + auth.signature.length + tagLength

variable
  {auth : FramedContentAuthData} {body : FramedContentBody Proposal Commit}
  {paddingSize macLength : Nat}

theorem length_serialize_auth {bytes : Bytes}
    (written : auth.serialize = some bytes) :
    bytes.length = auth.serializedLen := by
  rcases auth with ⟨signature, tag⟩
  simp only [FramedContentAuthData.serialize, Option.bind_eq_bind,
    Option.bind_eq_some_iff, Option.pure_def, Option.some.injEq] at written
  obtain ⟨signatureBytes, signatureWritten, tagBytes, tagWritten, rfl⟩ :=
    written
  rw [List.length_append, Format.length_write_vector signatureWritten]
  cases tag with
  | none =>
      cases tagWritten
      rfl
  | some tag =>
      rw [Format.length_write_vector tagWritten]
      rfl

/-- `FramedContentAuthData::deserialize`. -/
def FramedContentAuthData.deserialize (bytes : Bytes)
    (contentType : ContentType) : Option (FramedContentAuthData × Bytes) := do
  let (signature, rest) ← Format.vector.read bytes
  if contentType = .commit then
    let (tag, rest) ← Format.vector.read rest
    return ({ signature := signature, confirmationTag := some tag }, rest)
  else
    return ({ signature := signature, confirmationTag := none }, rest)

/-- The tag that the type asks for is there, and no other one. -/
def FramedContentAuthData.Fits (auth : FramedContentAuthData)
    (contentType : ContentType) : Prop :=
  auth.confirmationTag.isSome ↔ contentType = .commit

/-- The body of a known type. -/
def bodyFormat (contentType : ContentType) :
    Format (FramedContentBody Proposal Commit) where
  write body :=
    if body.contentType = contentType then body.serializeWithoutType formats
    else none
  read bytes :=
    FramedContentBody.deserializeWithoutType formats bytes contentType
  read_write := by
    intro body bytes written rest
    split at written
    · next same =>
      subst same
      cases body with
      | application text =>
          show (Format.vector.read _).map _ = _
          rw [Format.vector.read_write written, Option.map_some]
      | proposal proposal =>
          show (formats.proposal.read _).map _ = _
          rw [formats.proposal.read_write written, Option.map_some]
      | commit commit =>
          show (formats.commit.read _).map _ = _
          rw [formats.commit.read_write written, Option.map_some]
    · cases written

instance (auth : FramedContentAuthData) (contentType : ContentType) :
    Decidable (auth.Fits contentType) :=
  inferInstanceAs (Decidable (_ ↔ _))

/-- The authentication data of content of a known type. -/
def authFormat (contentType : ContentType) : Format FramedContentAuthData where
  write auth := if auth.Fits contentType then auth.serialize else none
  read bytes := FramedContentAuthData.deserialize bytes contentType
  read_write := by
    rintro ⟨signature, tag⟩ bytes written rest
    split at written
    · next fits =>
      unfold FramedContentAuthData.deserialize
      unfold FramedContentAuthData.serialize at written
      simp only [Option.bind_eq_bind, Option.bind_eq_some_iff,
        Option.pure_def, Option.some.injEq] at written
      obtain ⟨signatureBytes, signatureWritten, tagBytes, tagWritten, rfl⟩ :=
        written
      simp only [List.append_assoc,
        Format.vector.read_write signatureWritten, Option.bind_eq_bind,
        Option.bind_some]
      cases tag with
      | none =>
          cases tagWritten
          have other : ¬contentType = .commit := fun isCommit =>
            Bool.false_ne_true (fits.mpr isCommit)
          rw [if_neg other]
          rfl
      | some tag =>
          rw [if_pos (fits.mp rfl), Format.vector.read_write tagWritten]
          rfl
    · cases written

/-! ## Encrypted content -/

/-- The number of zeros behind a content. -/
def paddingLength (plaintextLength paddingSize macLength : Nat) : Nat :=
  if 0 < paddingSize then
    let paddingOffset := plaintextLength + macLength
    (paddingSize - paddingOffset % paddingSize) % paddingSize
  else 0

/-- `PrivateMessage::encode_padded_ciphertext_content_detached`. -/
def encodePaddedCiphertextContentDetached
    (body : FramedContentBody Proposal Commit) (auth : FramedContentAuthData)
    (paddingSize macLength : Nat) : Option Bytes := do
  let content ← body.serializeWithoutType formats
  let authBytes ← auth.serialize
  let plaintextLength :=
    body.serializedLenWithoutType formats + auth.serializedLen
  let padding := paddingLength plaintextLength paddingSize macLength
  return content ++ authBytes ++ List.replicate padding 0

/-- `deserialize_ciphertext_content`. -/
def deserializeCiphertextContent (bytes : Bytes) (contentType : ContentType) :
    Option (FramedContentBody Proposal Commit × FramedContentAuthData) := do
  let (content, rest) ←
    FramedContentBody.deserializeWithoutType formats bytes contentType
  let (auth, padding) ← FramedContentAuthData.deserialize rest contentType
  if padding.all (· == 0) then return (content, auth) else none

variable {formats}

/-- What is written before the padding. -/
theorem encodePadded_eq_some_iff {bytes : Bytes} :
    encodePaddedCiphertextContentDetached formats body auth paddingSize
        macLength = some bytes ↔
      ∃ content authBytes,
        body.serializeWithoutType formats = some content ∧
          auth.serialize = some authBytes ∧
          content ++ authBytes ++
              List.replicate (paddingLength
                (body.serializedLenWithoutType formats + auth.serializedLen)
                paddingSize macLength) 0 =
            bytes := by
  simp only [encodePaddedCiphertextContentDetached, Option.bind_eq_bind,
    Option.bind_eq_some_iff, Option.pure_def, Option.some.injEq]
  constructor
  · rintro ⟨content, written, authBytes, authWritten, same⟩
    exact ⟨content, authBytes, written, authWritten, same⟩
  · rintro ⟨content, authBytes, written, authWritten, same⟩
    exact ⟨content, written, authBytes, authWritten, same⟩

/-- What was written is accepted, whatever zeros are behind it. -/
theorem deserializeCiphertextContent_of_written
    {content authBytes : Bytes} (fits : auth.Fits body.contentType)
    (bodyWritten : body.serializeWithoutType formats = some content)
    (authWritten : auth.serialize = some authBytes) (padding : Nat) :
    deserializeCiphertextContent formats
        (content ++ authBytes ++ List.replicate padding 0)
        body.contentType = some (body, auth) := by
  have bodyRead := (bodyFormat formats body.contentType).read_write
    ((if_pos rfl).trans bodyWritten)
    (authBytes ++ List.replicate padding 0)
  have authRead := (authFormat body.contentType).read_write
    ((if_pos fits).trans authWritten) (List.replicate padding 0)
  have zeros : (List.replicate padding (0 : UInt8)).all (· == 0) := by
    rw [List.all_eq_true]
    intro byte inside
    rw [List.eq_of_mem_replicate inside]
    rfl
  simp only [bodyFormat] at bodyRead
  simp only [authFormat] at authRead
  simp only [deserializeCiphertextContent, List.append_assoc, bodyRead,
    authRead, Option.bind_eq_bind, Option.bind_some, zeros, if_true,
    Option.pure_def]

/-- The padding fills the last block, the tag of the cipher included. -/
theorem dvd_paddingLength (length : Nat) {paddingSize : Nat}
    (padded : 0 < paddingSize) (macLength : Nat) :
    paddingSize ∣
      length + paddingLength length paddingSize macLength + macLength := by
  have below := Nat.mod_lt (length + macLength) padded
  have parts := Nat.mod_add_div (length + macLength) paddingSize
  have whole : length + macLength +
        (paddingSize - (length + macLength) % paddingSize) =
      paddingSize * ((length + macLength) / paddingSize + 1) := by
    rw [Nat.mul_add, Nat.mul_one]
    omega
  rw [Nat.add_right_comm, paddingLength, if_pos padded,
    Nat.dvd_iff_mod_eq_zero, Nat.add_mod_mod, whole, Nat.mul_mod_right]

theorem length_encodePadded
    {bytes : Bytes} (padded : 0 < paddingSize)
    (measured : body.Measured formats)
    (encoded : encodePaddedCiphertextContentDetached formats body auth
      paddingSize macLength = some bytes) :
    paddingSize ∣ bytes.length + macLength := by
  obtain ⟨content, authBytes, written, authWritten, rfl⟩ :=
    encodePadded_eq_some_iff.mp encoded
  rw [List.length_append, List.length_append, List.length_replicate,
    measured content written, length_serialize_auth authWritten]
  exact dvd_paddingLength _ padded macLength

/-- Content that has the tag of its type comes back from its encoding. -/
theorem deserialize_of_encodePadded
    {bytes : Bytes} (fits : auth.Fits body.contentType)
    (encoded : encodePaddedCiphertextContentDetached formats body auth
      paddingSize macLength = some bytes) :
    deserializeCiphertextContent formats bytes body.contentType =
      some (body, auth) := by
  obtain ⟨content, authBytes, written, authWritten, rfl⟩ :=
    encodePadded_eq_some_iff.mp encoded
  exact deserializeCiphertextContent_of_written fits written authWritten _

end Content

/-- Encodings of proposals and commits without content. -/
def emptyFormats : BodyFormats Unit Unit where
  proposal := .nothing
  commit := .nothing
  proposalLength _ := 0
  commitLength _ := 0

/-- `vlbytes_len_len`. -/
def vlbytesLenLen (length : Nat) : Nat :=
  if length < 0x40 then 1
  else if length < 0x3FFF then 2
  else if length < 0x3FFFFFFF then 4
  else 8

/-- `tls_serialize` of an `Extension::Unknown`: its type and its data. -/
def unknownExtension : Format (Nat × Bytes) :=
  (Format.uint 2).pair Format.vector

/-- `tls_serialized_len` of an `Extension::Unknown`. -/
def unknownExtensionLength (data : Bytes) : Nat :=
  2 + vlbytesLenLen data.length + data.length

/-- Two lengths are announced wrongly. -/
theorem unknownExtensionLength_eq_iff {extensionType : Nat}
    {data bytes : Bytes}
    (written : unknownExtension.write (extensionType, data) = some bytes) :
    bytes.length = unknownExtensionLength data ↔
      data.length ≠ 0x3FFF ∧ data.length ≠ 0x3FFFFFFF := by
  simp only [unknownExtension, Format.pair, Option.bind_eq_bind,
    Option.bind_eq_some_iff, Option.pure_def, Option.some.injEq] at written
  obtain ⟨field, fieldWritten, vector, vectorWritten, rfl⟩ := written
  have short := Format.length_lt_of_write_vector vectorWritten
  have fieldLength : field.length = 2 := by
    obtain ⟨-, same⟩ := Option.ite_none_right_eq_some.mp fieldWritten
    cases same
    exact length_bigEndian 2 extensionType
  rw [List.length_append, fieldLength,
    Format.length_write_vector vectorWritten, unknownExtensionLength,
    Format.lengthWidth, vlbytesLenLen]
  split_ifs <;> omega

/-! ## Senders -/

/-- `ReuseGuard`: four bytes. -/
structure ReuseGuard where
  value : Bytes
  size : value.length = 4
deriving DecidableEq, Repr

/-- `MlsSenderData`. -/
structure MlsSenderData where
  leafIndex : LeafNodeIndex
  generation : Nat
  reuseGuard : ReuseGuard
deriving DecidableEq, Repr

/-- The sender data of three fields. -/
def MlsSenderData.ofFields (fields : (Nat × Nat) × Bytes) :
    Option MlsSenderData :=
  if size : fields.2.length = 4 then
    some ⟨⟨fields.1.1⟩, fields.1.2, ⟨fields.2, size⟩⟩
  else none

theorem ofFields_fields (data : MlsSenderData) :
    MlsSenderData.ofFields
        ((data.leafIndex.u32, data.generation), data.reuseGuard.value) =
      some data :=
  dif_pos data.reuseGuard.size

/-- The encoding of `MlsSenderData`. -/
def MlsSenderData.format : Format MlsSenderData :=
  (((Format.uint 4).pair (Format.uint 4)).pair (Format.fixed 4)).represent
    (fun data =>
      ((data.leafIndex.u32, data.generation), data.reuseGuard.value))
    MlsSenderData.ofFields ofFields_fields

/-- The encoding of `MlsSenderDataAad`. -/
def senderDataAad : Format ((Bytes × Nat) × ContentType) :=
  (Format.vector.pair (Format.uint 8)).pair ContentType.format

/-- The encoding of `PrivateContentAad`. -/
def privateContentAad : Format (((Bytes × Nat) × ContentType) × Bytes) :=
  senderDataAad.pair Format.vector

/-- `Sender`. -/
inductive Sender where
  | member (leafIndex : LeafNodeIndex)
  | external (index : Nat)
  | newMemberProposal
  | newMemberCommit
deriving DecidableEq, Repr

/-- `Sender::as_member`. -/
def Sender.asMember : Sender → Option LeafNodeIndex
  | .member leafIndex => some leafIndex
  | _ => none

/-- `Sender::is_member`. -/
def Sender.isMember : Sender → Bool
  | .member _ => true
  | _ => false

/-- The constructors of `Sender`. -/
inductive SenderType where
  | member
  | external
  | newMemberProposal
  | newMemberCommit
deriving DecidableEq, Repr

/-- The constructor of a sender. -/
def Sender.senderType : Sender → SenderType
  | .member _ => .member
  | .external _ => .external
  | .newMemberProposal => .newMemberProposal
  | .newMemberCommit => .newMemberCommit

/-- The discriminant of a constructor. -/
def SenderType.code : SenderType → Nat
  | .member => 1
  | .external => 2
  | .newMemberProposal => 3
  | .newMemberCommit => 4

/-- The constructor of a discriminant. -/
def SenderType.ofCode : Nat → Option SenderType
  | 1 => some .member
  | 2 => some .external
  | 3 => some .newMemberProposal
  | 4 => some .newMemberCommit
  | _ => none

theorem senderType_ofCode_code (senderType : SenderType) :
    SenderType.ofCode senderType.code = some senderType := by
  cases senderType with
  | member => rfl
  | external => rfl
  | newMemberProposal => rfl
  | newMemberCommit => rfl

/-- What a constructor carries, as a number. -/
def Sender.index : Sender → SenderType → Option Nat
  | .member leafIndex, .member => some leafIndex.u32
  | .external index, .external => some index
  | _, _ => none

/-- What stands behind the discriminant. -/
def senderBody : SenderType → Format Sender
  | .member =>
      (Format.uint 4).variant (fun index => .member ⟨index⟩)
        (fun sender => sender.index .member) (by
          intro sender index
          cases sender with
          | member leafIndex =>
              rcases leafIndex with ⟨leaf⟩
              simp [Sender.index, eq_comm]
          | external other => simp [Sender.index]
          | newMemberProposal => simp [Sender.index]
          | newMemberCommit => simp [Sender.index])
  | .external =>
      (Format.uint 4).variant Sender.external
        (fun sender => sender.index .external) (by
          intro sender index
          cases sender with
          | member leafIndex => simp [Sender.index]
          | external other => simp [Sender.index, eq_comm]
          | newMemberProposal => simp [Sender.index]
          | newMemberCommit => simp [Sender.index])
  | .newMemberProposal =>
      Format.nothing.variant (fun _ => .newMemberProposal)
        (fun sender => if sender = .newMemberProposal then some () else none)
        (by
          intro sender _
          simp [eq_comm])
  | .newMemberCommit =>
      Format.nothing.variant (fun _ => .newMemberCommit)
        (fun sender => if sender = .newMemberCommit then some () else none)
        (by
          intro sender _
          simp [eq_comm])

/-- The encoding of `Sender`. -/
def Sender.format : Format Sender :=
  Format.select
    ((Format.uint 1).represent SenderType.code SenderType.ofCode
      senderType_ofCode_code)
    Sender.senderType senderBody

/-! ## Signed content -/

/-- `WireFormat`. -/
inductive WireFormat where
  | publicMessage
  | privateMessage
  | welcome
  | groupInfo
  | keyPackage
deriving DecidableEq, Repr

/-- The discriminant of a wire format. -/
def WireFormat.code : WireFormat → Nat
  | .publicMessage => 1
  | .privateMessage => 2
  | .welcome => 3
  | .groupInfo => 4
  | .keyPackage => 5

/-- `FramedContent`. -/
structure FramedContent (Proposal Commit : Type) where
  groupId : Bytes
  epoch : Nat
  sender : Sender
  authenticatedData : Bytes
  body : FramedContentBody Proposal Commit
deriving DecidableEq, Repr

section Signed

variable {Proposal Commit : Type} (formats : BodyFormats Proposal Commit)

/-- The encoding of `FramedContentBody`, with its type. -/
def typedBody : Format (FramedContentBody Proposal Commit) :=
  Format.select ContentType.format FramedContentBody.contentType
    (bodyFormat formats)

/-- The encoding of `FramedContent`. -/
def FramedContent.format : Format (FramedContent Proposal Commit) :=
  ((((Format.vector.pair (Format.uint 8)).pair Sender.format).pair
    Format.vector).pair (typedBody formats)).represent
      (fun content => ((((content.groupId, content.epoch), content.sender),
        content.authenticatedData), content.body))
      (fun fields => some ⟨fields.1.1.1.1, fields.1.1.1.2, fields.1.1.2,
        fields.1.2, fields.2⟩) fun _ => rfl

/-- Whether the group context is signed along. -/
def Sender.signsContext : Sender → Bool
  | .member _ => true
  | .newMemberCommit => true
  | .external _ => false
  | .newMemberProposal => false

/-- `framed_content_tbs_serialized` for the only version. -/
def framedContentTbsSerialized (wireFormat : WireFormat)
    (content : FramedContent Proposal Commit)
    (serializedContext : Bytes) : Option Bytes := do
  let version ← (Format.uint 2).write 1
  let wireFormat ← (Format.uint 2).write wireFormat.code
  let contentBytes ← (FramedContent.format formats).write content
  let context :=
    if content.sender.signsContext then serializedContext else []
  return version ++ wireFormat ++ contentBytes ++ context

theorem wireFormat_code_injective {first second : WireFormat}
    (same : first.code = second.code) : first = second := by
  cases first <;> cases second <;> first | rfl | cases same

variable {formats}

/--
What is signed determines the wire format and the content, and the group
context wherever it is signed along.
-/
theorem framedContentTbs_injective {firstFormat secondFormat : WireFormat}
    {first second : FramedContent Proposal Commit}
    {firstContext secondContext payload : Bytes}
    (firstSigned : framedContentTbsSerialized formats firstFormat first
      firstContext = some payload)
    (secondSigned : framedContentTbsSerialized formats secondFormat second
      secondContext = some payload) :
    firstFormat = secondFormat ∧ first = second ∧
      (first.sender.signsContext = true → firstContext = secondContext) := by
  simp only [framedContentTbsSerialized, Option.bind_eq_bind,
    Option.bind_eq_some_iff, Option.pure_def, Option.some.injEq]
    at firstSigned secondSigned
  obtain ⟨version, versionWritten, wire, wireWritten, content, written, rfl⟩ :=
    firstSigned
  obtain ⟨version', versionWritten', wire', wireWritten', content', written',
    same⟩ := secondSigned
  cases versionWritten.symm.trans versionWritten'
  simp only [List.append_assoc, List.append_cancel_left_eq] at same
  obtain ⟨sameCode, same⟩ :=
    (Format.uint 2).write_unique wireWritten' wireWritten same
  obtain ⟨rfl, same⟩ :=
    (FramedContent.format formats).write_unique written' written same
  refine ⟨wireFormat_code_injective sameCode.symm, rfl, ?_⟩
  intro signs
  rw [if_pos signs, if_pos signs] at same
  exact same.symm

end Signed

end Mls4rn.OpenMls.Framing
