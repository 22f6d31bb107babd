import Mls4rn.OpenMls.Framing
import Mls4rn.OpenMls.SecretTreeRuns

/-!
# Private messages

`private_message.rs` and `private_message_in.rs`: content is encrypted with
the next key of the sender's ratchet, and the leaf, the generation and the
reuse guard that a receiver needs to find the key are encrypted with a key
derived from the ciphertext.

The receiver takes the key out of its secret tree before it tries to decrypt.
A message that gets as far as that has used up its generation, whether it can
be decrypted or not.
-/

namespace Mls4rn.OpenMls.PrivateMessages

open Mls4rn.Lib
open Mls4rn.Lib.ByteString
open Mls4rn.Lib.Throwing
open Mls4rn.Lib.WireFormat
open Mls4rn.OpenMls.Framing
open Mls4rn.OpenMls.KeyDerivation
open Mls4rn.OpenMls.SecretTrees
open Mls4rn.OpenMls.SenderRatchet
open Mls4rn.OpenMls.TreeMath

/-! ## Errors and data -/

/-- `LibraryError`. -/
inductive LibraryError where
  | custom (description : String)
  | missingBoundCheck
  | unexpectedCryptoError (error : CryptoError)
deriving DecidableEq, Repr

/-- `MessageEncryptionError`. -/
inductive MessageEncryptionError where
  | libraryError (error : LibraryError)
  | wrongWireFormat
  | secretTreeError (error : SecretTreeError)
  | storageError
deriving DecidableEq, Repr

/-- The variants of `MessageDecryptionError` that are ever built. -/
inductive MessageDecryptionError where
  | libraryError (error : LibraryError)
  | aeadError
  | malformedContent
  | secretTreeError (error : SecretTreeError)
deriving DecidableEq, Repr

/--
The crypto provider with its authenticated cipher and its signatures:
`aead_encrypt` and `aead_decrypt` take a key, a nonce, the associated data and
the text, `verify_signature` a public key, the signed bytes and the signature.
-/
structure Provider (Secret : Type) extends Crypto Secret where
  aeadEncrypt : Secret → Bytes → Bytes → Bytes → Option Bytes
  aeadDecrypt : Secret → Bytes → Bytes → Bytes → Option Bytes
  asSlice : Secret → Bytes
  macLength : Nat
  verifySignature : Bytes → Bytes → Bytes → Bool

/-- Decryption undoes encryption. -/
def Provider.Correct {Secret : Type} (provider : Provider Secret) : Prop :=
  ∀ {key : Secret} {nonce aad text ciphertext : Bytes},
    provider.aeadEncrypt key nonce aad text = some ciphertext →
      provider.aeadDecrypt key nonce aad ciphertext = some text

/--
`MessageSecrets`, as far as private messages need it.  A `SystemTime` is a
number of nanoseconds.
-/
structure MessageSecrets (Secret : Type) where
  senderDataSecret : Secret
  serializedContext : Bytes
  secretTree : SecretTree Secret
  addedAt : Option Int

/-- `AuthenticatedContent`. -/
structure AuthenticatedContent (Proposal Commit : Type) where
  wireFormat : WireFormat
  content : FramedContent Proposal Commit
  auth : FramedContentAuthData
deriving DecidableEq, Repr

/-- `VerifiableAuthenticatedContentIn`. -/
structure VerifiableAuthenticatedContent (Proposal Commit : Type) where
  wireFormat : WireFormat
  content : FramedContent Proposal Commit
  serializedContext : Option Bytes
  auth : FramedContentAuthData
deriving DecidableEq, Repr

/-- `PrivateMessage`, which is also `PrivateMessageIn`. -/
structure PrivateMessage where
  groupId : Bytes
  epoch : Nat
  contentType : ContentType
  authenticatedData : Bytes
  encryptedSenderData : Bytes
  ciphertext : Bytes
deriving DecidableEq, Repr

section Model

variable {Secret Proposal Commit : Type} (provider : Provider Secret)
  (formats : BodyFormats Proposal Commit)

/-- `map_err(LibraryError::missing_bound_check)`. -/
def boundChecked : Option Bytes → Except LibraryError Bytes
  | none => .error .missingBoundCheck
  | some bytes => .ok bytes

/-- `AeadKey::aead_seal`. -/
def aeadSeal (key : AeadKey Secret) (message aad nonce : Bytes) :
    Except CryptoError Bytes :=
  match provider.aeadEncrypt key.value nonce aad message with
  | none => .error .cryptoLibraryError
  | some ciphertext => .ok ciphertext

/-- `AeadKey::aead_open`; its only error is replaced by the callers. -/
def aeadOpen (key : AeadKey Secret) (ciphertext aad nonce : Bytes) :
    Option Bytes :=
  provider.aeadDecrypt key.value nonce aad ciphertext

/-- `AeadNonce::xor_with_reuse_guard`. -/
def xorWithReuseGuard (nonce : Bytes) (guard : ReuseGuard) : Bytes :=
  List.zipWith (· ^^^ ·) (nonce.take 4) guard.value ++ nonce.drop 4

/-- `ciphertext_sample`. -/
def ciphertextSample (ciphertext : Bytes) : Bytes :=
  if ciphertext.length ≤ provider.hashLength then ciphertext
  else ciphertext.take provider.hashLength

/-- `SenderDataSecret::derive_aead_key`. -/
def deriveAeadKey (senderDataSecret : Secret) (ciphertext : Bytes) :
    Except CryptoError (AeadKey Secret) :=
  (kdfExpandLabel provider.toCrypto senderDataSecret "key"
    (ciphertextSample provider ciphertext) provider.aeadKeyLength).map
      AeadKey.fromSecret

/-- `SenderDataSecret::derive_aead_nonce`, as bytes. -/
def deriveAeadNonce (senderDataSecret : Secret) (ciphertext : Bytes) :
    Except CryptoError Bytes :=
  (kdfExpandLabel provider.toCrypto senderDataSecret "nonce"
    (ciphertextSample provider ciphertext) provider.aeadNonceLength).map
      provider.asSlice

/-! ## Encryption -/

/-- The part of `encrypt_content` behind the ratchet. -/
def sealContent (senderDataSecret : Secret)
    (publicMessage : AuthenticatedContent Proposal Commit)
    (senderIndex : LeafNodeIndex) (paddingSize : Nat) (contentAad : Bytes)
    (generation : Nat) (material : RatchetKeyMaterial Secret)
    (random : Option ReuseGuard) : Except LibraryError PrivateMessage := do
  let content := publicMessage.content
  let contentType := content.body.contentType
  let reuseGuard ←
    random.elim (.error (.unexpectedCryptoError .insufficientRandomness)) .ok
  let preparedNonce :=
    xorWithReuseGuard (provider.asSlice material.2.value) reuseGuard
  let padded ← boundChecked (encodePaddedCiphertextContentDetached formats
    content.body publicMessage.auth paddingSize provider.macLength)
  let ciphertext ←
    (aeadSeal provider material.1 padded contentAad preparedNonce).mapError
      .unexpectedCryptoError
  let senderDataKey ←
    (deriveAeadKey provider senderDataSecret ciphertext).mapError
      .unexpectedCryptoError
  let senderDataNonce ←
    (deriveAeadNonce provider senderDataSecret ciphertext).mapError
      .unexpectedCryptoError
  let aad ← boundChecked
    (senderDataAad.write ((content.groupId, content.epoch), contentType))
  let senderData ← boundChecked
    (MlsSenderData.format.write ⟨senderIndex, generation, reuseGuard⟩)
  let encryptedSenderData ←
    (aeadSeal provider senderDataKey senderData aad senderDataNonce).mapError
      .unexpectedCryptoError
  return {
    groupId := content.groupId
    epoch := content.epoch
    contentType := contentType
    authenticatedData := content.authenticatedData
    encryptedSenderData := encryptedSenderData
    ciphertext := ciphertext }

/-- An action on the secret tree. -/
def onSecretTree {Error Value : Type} (embed : SecretTreeError → Error)
    (action : Throwing (SecretTree Secret) SecretTreeError Value) :
    Throwing (MessageSecrets Secret) Error Value :=
  zoom MessageSecrets.secretTree
    (fun tree secrets => { secrets with secretTree := tree }) embed action

/--
`PrivateMessage::encrypt_content` without a test header.  `random` is what the
generator returns when it is asked for a reuse guard.
-/
def encryptContent (publicMessage : AuthenticatedContent Proposal Commit)
    (paddingSize : Nat) (random : Option ReuseGuard) :
    Throwing (MessageSecrets Secret) MessageEncryptionError
      (Nat × PrivateMessage) :=
  let content := publicMessage.content
  let contentType := content.body.contentType
  match content.sender.asMember with
  | none =>
      raise (.libraryError (.custom "Sender is not a member."))
  | some senderIndex => do
      let contentAad ← ofExcept ((boundChecked
        (privateContentAad.write (((content.groupId, content.epoch),
          contentType), content.authenticatedData))).mapError .libraryError)
      let answer ← onSecretTree .secretTreeError
        (secretForEncryption provider.toCrypto senderIndex
          contentType.secretType)
      let secrets ← Throwing.read
      let message ← ofExcept ((sealContent provider formats
        secrets.senderDataSecret publicMessage senderIndex paddingSize
        contentAad answer.1 answer.2 random).mapError .libraryError)
      return (answer.1, message)

/-- `PrivateMessage::try_from_authenticated_content`. -/
def tryFromAuthenticatedContent
    (publicMessage : AuthenticatedContent Proposal Commit)
    (paddingSize : Nat) (random : Option ReuseGuard) :
    Throwing (MessageSecrets Secret) MessageEncryptionError
      (Nat × PrivateMessage) :=
  if publicMessage.wireFormat ≠ .privateMessage then
    raise .wrongWireFormat
  else encryptContent provider formats publicMessage paddingSize random

/-! ## Decryption -/

/-- `PrivateMessageIn::sender_data`. -/
def senderData (message : PrivateMessage) (senderDataSecret : Secret) :
    Except MessageDecryptionError MlsSenderData := do
  let senderDataKey ←
    (deriveAeadKey provider senderDataSecret message.ciphertext).mapError
      fun error => .libraryError (.unexpectedCryptoError error)
  let senderDataNonce ←
    (deriveAeadNonce provider senderDataSecret message.ciphertext).mapError
      fun error => .libraryError (.unexpectedCryptoError error)
  let aad ← (boundChecked (senderDataAad.write
    ((message.groupId, message.epoch), message.contentType))).mapError
      .libraryError
  let bytes ← (aeadOpen provider senderDataKey message.encryptedSenderData aad
    senderDataNonce).elim (.error .aeadError) .ok
  (MlsSenderData.format.read bytes).elim (.error .malformedContent)
    fun taken => .ok taken.1

/-- `PrivateMessageIn::decrypt`. -/
def decrypt (message : PrivateMessage) (key : AeadKey Secret)
    (nonce : Bytes) :
    Except MessageDecryptionError
      (FramedContentBody Proposal Commit × FramedContentAuthData) := do
  let aad ← (boundChecked (privateContentAad.write (((message.groupId,
    message.epoch), message.contentType),
      message.authenticatedData))).mapError .libraryError
  let bytes ← (aeadOpen provider key message.ciphertext aad nonce).elim
    (.error .aeadError) .ok
  (deserializeCiphertextContent formats bytes message.contentType).elim
    (.error .malformedContent) .ok

/-- `PrivateMessageIn::to_verifiable_content`. -/
def toVerifiableContent (message : PrivateMessage)
    (senderIndex : LeafNodeIndex) (configuration : SenderRatchetConfiguration)
    (data : MlsSenderData) :
    Throwing (MessageSecrets Secret) MessageDecryptionError
      (VerifiableAuthenticatedContent Proposal Commit) := do
  let material ← onSecretTree .secretTreeError
    (secretForDecryption provider.toCrypto senderIndex
      message.contentType.secretType data.generation configuration)
  let preparedNonce :=
    xorWithReuseGuard (provider.asSlice material.2.value) data.reuseGuard
  let content ← ofExcept
    (decrypt provider formats message material.1 preparedNonce)
  let secrets ← Throwing.read
  return {
    wireFormat := .privateMessage
    content :=
      { groupId := message.groupId
        epoch := message.epoch
        sender := .member data.leafIndex
        authenticatedData := message.authenticatedData
        body := content.1 }
    serializedContext := some secrets.serializedContext
    auth := content.2 }

end Model

/-! ## What is sealed can be opened -/

section Opening

variable {Secret Proposal Commit : Type} {provider : Provider Secret}
  {formats : BodyFormats Proposal Commit} {senderDataSecret : Secret}
  {publicMessage : AuthenticatedContent Proposal Commit}
  {senderIndex : LeafNodeIndex} {paddingSize generation : Nat}
  {contentAad : Bytes} {material : RatchetKeyMaterial Secret}
  {random : Option ReuseGuard} {message : PrivateMessage}

theorem boundChecked_eq_ok_iff {written : Option Bytes} {bytes : Bytes} :
    boundChecked written = .ok bytes ↔ written = some bytes := by
  cases written with
  | none => simp [boundChecked]
  | some found => simp [boundChecked]

theorem aeadSeal_eq_ok_iff {key : AeadKey Secret}
    {text aad nonce ciphertext : Bytes} :
    aeadSeal provider key text aad nonce = .ok ciphertext ↔
      provider.aeadEncrypt key.value nonce aad text = some ciphertext := by
  unfold aeadSeal
  cases provider.aeadEncrypt key.value nonce aad text with
  | none => simp
  | some found => simp

theorem mapError_eq_ok_iff {Error Other Value : Type} {embed : Error → Other}
    {result : Except Error Value} {value : Value} :
    result.mapError embed = .ok value ↔ result = .ok value := by
  cases result with
  | error error => simp [Except.mapError]
  | ok found => simp [Except.mapError]

/-- How a sealed message was made. -/
structure Sealed (provider : Provider Secret)
    (formats : BodyFormats Proposal Commit) (senderDataSecret : Secret)
    (publicMessage : AuthenticatedContent Proposal Commit)
    (senderIndex : LeafNodeIndex) (paddingSize : Nat) (contentAad : Bytes)
    (generation : Nat) (material : RatchetKeyMaterial Secret)
    (reuseGuard : ReuseGuard) (message : PrivateMessage) : Prop where
  groupId : message.groupId = publicMessage.content.groupId
  epoch : message.epoch = publicMessage.content.epoch
  contentType : message.contentType = publicMessage.content.body.contentType
  authenticatedData :
    message.authenticatedData = publicMessage.content.authenticatedData
  content : ∃ padded,
    encodePaddedCiphertextContentDetached formats publicMessage.content.body
        publicMessage.auth paddingSize provider.macLength = some padded ∧
      provider.aeadEncrypt material.1.value
        (xorWithReuseGuard (provider.asSlice material.2.value) reuseGuard)
        contentAad padded = some message.ciphertext
  senderData : ∃ key nonce aad bytes,
    deriveAeadKey provider senderDataSecret message.ciphertext = .ok key ∧
      deriveAeadNonce provider senderDataSecret message.ciphertext =
        .ok nonce ∧
      senderDataAad.write ((message.groupId, message.epoch),
        message.contentType) = some aad ∧
      MlsSenderData.format.write ⟨senderIndex, generation, reuseGuard⟩ =
        some bytes ∧
      provider.aeadEncrypt key.value nonce aad bytes =
        some message.encryptedSenderData

theorem sealed_of_sealContent
    (returned : sealContent provider formats senderDataSecret publicMessage
      senderIndex paddingSize contentAad generation material random =
        .ok message) :
    ∃ reuseGuard, random = some reuseGuard ∧
      Sealed provider formats senderDataSecret publicMessage senderIndex
        paddingSize contentAad generation material reuseGuard message := by
  unfold sealContent at returned
  obtain ⟨reuseGuard, sampled, returned⟩ := bind_eq_ok returned
  obtain ⟨padded, encoded, returned⟩ := bind_eq_ok returned
  obtain ⟨ciphertext, encrypted, returned⟩ := bind_eq_ok returned
  obtain ⟨key, keyDerived, returned⟩ := bind_eq_ok returned
  obtain ⟨nonce, nonceDerived, returned⟩ := bind_eq_ok returned
  obtain ⟨aad, aadWritten, returned⟩ := bind_eq_ok returned
  obtain ⟨bytes, dataWritten, returned⟩ := bind_eq_ok returned
  obtain ⟨encryptedData, dataEncrypted, returned⟩ :=
    bind_eq_ok returned
  rw [boundChecked_eq_ok_iff] at encoded aadWritten dataWritten
  rw [mapError_eq_ok_iff] at encrypted keyDerived nonceDerived dataEncrypted
  rw [aeadSeal_eq_ok_iff] at encrypted dataEncrypted
  cases returned
  refine ⟨reuseGuard, ?_, rfl, rfl, rfl, rfl, ⟨padded, encoded, encrypted⟩,
    key, nonce, aad, bytes, keyDerived, nonceDerived, aadWritten,
    dataWritten, dataEncrypted⟩
  cases random with
  | none => cases sampled
  | some found => exact congrArg some (Except.ok.inj sampled)

variable {reuseGuard : ReuseGuard}

/-- Whoever has the sender data secret finds the place of the key. -/
theorem senderData_of_sealed (correct : provider.Correct)
    (isSealed : Sealed provider formats senderDataSecret publicMessage
      senderIndex paddingSize contentAad generation material reuseGuard
      message) :
    senderData provider message senderDataSecret =
      .ok ⟨senderIndex, generation, reuseGuard⟩ := by
  obtain ⟨key, nonce, aad, bytes, keyDerived, nonceDerived, aadWritten,
    dataWritten, dataEncrypted⟩ := isSealed.senderData
  have dataRead := MlsSenderData.format.read_write dataWritten []
  rw [List.append_nil] at dataRead
  simp only [senderData, keyDerived, nonceDerived, aadWritten, aeadOpen,
    correct dataEncrypted, dataRead, boundChecked, Except.mapError,
    ok_bind, Option.elim_some]

/-- Whoever has the key and the nonce finds the content. -/
theorem decrypt_of_sealed (correct : provider.Correct)
    (aadWritten : privateContentAad.write (((publicMessage.content.groupId,
      publicMessage.content.epoch), publicMessage.content.body.contentType),
        publicMessage.content.authenticatedData) = some contentAad)
    (fits : publicMessage.auth.Fits publicMessage.content.body.contentType)
    (isSealed : Sealed provider formats senderDataSecret publicMessage
      senderIndex paddingSize contentAad generation material reuseGuard
      message) :
    decrypt provider formats message material.1
        (xorWithReuseGuard (provider.asSlice material.2.value) reuseGuard) =
      .ok (publicMessage.content.body, publicMessage.auth) := by
  obtain ⟨padded, encoded, encrypted⟩ := isSealed.content
  simp only [decrypt, isSealed.groupId, isSealed.epoch, isSealed.contentType,
    isSealed.authenticatedData, aadWritten, aeadOpen, correct encrypted,
    boundChecked, Except.mapError, ok_bind, Option.elim_some,
    deserialize_of_encodePadded fits encoded]

end Opening

end Mls4rn.OpenMls.PrivateMessages
