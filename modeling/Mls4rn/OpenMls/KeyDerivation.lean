import Mls4rn.Lib.Derivation
import Mls4rn.Lib.Throwing
import Mls4rn.Lib.WireFormat

/-!
# Labelled key derivation

`secret.rs` and `kdf_label.rs`: a secret is expanded with the serialization of
a length, a label and a context.  The expansion itself is a parameter.  Two
different derivations never hand it the same input, so where the expansion has
no collisions, the labelled derivation has none.
-/

namespace Mls4rn.OpenMls.KeyDerivation

open Mls4rn.Lib
open Mls4rn.Lib.ByteString
open Mls4rn.Lib.WireFormat

/-- The variants of `CryptoError` that derivations and random bytes end with. -/
inductive CryptoError where
  | kdfLabelTooLarge
  | kdfSerializationError
  | cryptoLibraryError
  | invalidLength
  | insufficientRandomness
deriving DecidableEq, Repr

/--
What the crypto provider does for a ciphersuite: `hkdf_expand`, which may
fail, and the lengths of the ciphersuite.
-/
structure Crypto (Secret : Type) where
  hkdfExpand : Secret → Bytes → Nat → Option Secret
  isEmpty : Secret → Bool
  hashLength : Nat
  aeadKeyLength : Nat
  aeadNonceLength : Nat

/-- The bytes of a text. -/
def asBytes (text : String) : Bytes :=
  text.toUTF8.data.toList

theorem asBytes_injective {first second : String}
    (same : asBytes first = asBytes second) : first = second := by
  have arrays : first.toUTF8 = second.toUTF8 := by
    apply ByteArray.ext
    exact Array.toList_inj.mp same
  exact String.toByteArray_inj.mp arrays

/-- The encoding of `KdfLabel`: the length, the label and the context. -/
def kdfLabel : Format ((Nat × Bytes) × Bytes) :=
  ((Format.uint 2).pair Format.vector).pair Format.vector

/-- `KdfLabel::serialized_label`. -/
def serializedLabel (context : Bytes) (label : String) (length : Nat) :
    Except CryptoError Bytes :=
  if 65535 < length then .error .kdfLabelTooLarge
  else
    match kdfLabel.write ((length, asBytes label), context) with
    | none => .error .kdfSerializationError
    | some info => .ok info

variable {Secret : Type} (crypto : Crypto Secret)

/-- `Secret::hkdf_expand`. -/
def hkdfExpand (secret : Secret) (info : Bytes) (length : Nat) :
    Except CryptoError Secret :=
  match crypto.hkdfExpand secret info length with
  | none => .error .cryptoLibraryError
  | some key => if crypto.isEmpty key then .error .invalidLength else .ok key

/-- `Secret::kdf_expand_label`. -/
def kdfExpandLabel (secret : Secret) (label : String) (context : Bytes)
    (length : Nat) : Except CryptoError Secret := do
  let info ← serializedLabel context ("MLS 1.0 " ++ label) length
  hkdfExpand crypto secret info length

/-- `Secret::derive_secret`. -/
def deriveSecret (secret : Secret) (label : String) :
    Except CryptoError Secret :=
  kdfExpandLabel crypto secret label [] crypto.hashLength

/-! ## As a derivation -/

/-- What tells two derivations from one secret apart. -/
structure Label where
  label : String
  context : Bytes
  length : Nat
deriving DecidableEq

/-- A labelled derivation, its errors left aside. -/
def expand (secret : Secret) (label : Label) : Option Secret :=
  (kdfExpandLabel crypto secret label.label label.context
    label.length).toOption

theorem expand_eq_some_iff (secret target : Secret) (label : Label) :
    expand crypto secret label = some target ↔
      kdfExpandLabel crypto secret label.label label.context label.length =
        .ok target := by
  unfold expand
  cases kdfExpandLabel crypto secret label.label label.context
      label.length with
  | error error => simp [Except.toOption]
  | ok key => simp [Except.toOption]

theorem write_of_serializedLabel {context : Bytes} {label : String}
    {length : Nat} {info : Bytes}
    (serialized : serializedLabel context label length = .ok info) :
    kdfLabel.write ((length, asBytes label), context) = some info := by
  unfold serializedLabel at serialized
  split at serialized
  · cases serialized
  · cases written : kdfLabel.write ((length, asBytes label), context) with
    | none =>
        rw [written] at serialized
        cases serialized
    | some bytes =>
        rw [written] at serialized
        cases serialized
        rfl

/-- A derivation that succeeds is an expansion of a serialized label. -/
theorem expansion_of_kdfExpandLabel {secret target : Secret} {label : String}
    {context : Bytes} {length : Nat}
    (derived :
      kdfExpandLabel crypto secret label context length = .ok target) :
    ∃ info,
      kdfLabel.write ((length, asBytes ("MLS 1.0 " ++ label)), context) =
          some info ∧
        crypto.hkdfExpand secret info length = some target := by
  obtain ⟨info, serialized, derived⟩ := Throwing.bind_eq_ok derived
  refine ⟨info, write_of_serializedLabel serialized, ?_⟩
  unfold hkdfExpand at derived
  cases expanded : crypto.hkdfExpand secret info length with
  | none =>
      rw [expanded] at derived
      cases derived
  | some key =>
      rw [expanded] at derived
      simp only at derived
      split at derived
      · cases derived
      · cases derived
        rfl

/-- What is handed to the expansion along some paths. -/
def inputsAlong (root : Secret) (paths : Set (List Label)) :
    Set (Secret × Bytes × Nat) :=
  {input | ∃ path label,
    path ++ [label] ∈ paths ∧
      Derivation.follow (expand crypto) root path = some input.1 ∧
        kdfLabel.write ((label.length, asBytes ("MLS 1.0 " ++ label.label)),
            label.context) = some input.2.1 ∧
          input.2.2 = label.length}

/--
Along some paths, which contain their initial parts, the expansion has no two
inputs with one output, and no path leads back to the root.
-/
structure CollisionFree (root : Secret) (paths : Set (List Label)) :
    Prop where
  initial :
    ∀ {path : List Label} {label : Label},
      path ++ [label] ∈ paths → path ∈ paths
  injective :
    ∀ first ∈ inputsAlong crypto root paths,
      ∀ second ∈ inputsAlong crypto root paths, ∀ target,
        crypto.hkdfExpand first.1 first.2.1 first.2.2 = some target →
          crypto.hkdfExpand second.1 second.2.1 second.2.2 = some target →
            first = second
  acyclic :
    ∀ {path : List Label} {label : Label},
      path ++ [label] ∈ paths →
        Derivation.follow (expand crypto) root (path ++ [label]) ≠ some root

/--
The inputs of an expansion differ whenever the label, the context or the
length does.
-/
theorem CollisionFree.ideal {root : Secret} {paths : Set (List Label)}
    (free : CollisionFree crypto root paths) :
    Derivation.Ideal (expand crypto) root paths where
  initial := free.initial
  injective := by
    rintro first second ⟨label, context, length⟩
      ⟨otherLabel, otherContext, otherLength⟩ firstSecret secondSecret
      target firstInside secondInside firstHere secondHere derived
      alsoDerived
    rw [expand_eq_some_iff] at derived alsoDerived
    obtain ⟨info, written, expanded⟩ :=
      expansion_of_kdfExpandLabel crypto derived
    obtain ⟨otherInfo, otherWritten, otherExpanded⟩ :=
      expansion_of_kdfExpandLabel crypto alsoDerived
    have inputs := free.injective (firstSecret, info, length)
      ⟨first, _, firstInside, firstHere, written, rfl⟩
      (secondSecret, otherInfo, otherLength)
      ⟨second, _, secondInside, secondHere, otherWritten, rfl⟩ target
      expanded otherExpanded
    simp only [Prod.mk.injEq] at inputs
    obtain ⟨rfl, rfl, rfl⟩ := inputs
    have same := kdfLabel.write_injective written otherWritten
    simp only [Prod.mk.injEq, true_and] at same
    obtain ⟨labels, rfl⟩ := same
    have texts := asBytes_injective labels
    rw [(String.append_right_inj "MLS 1.0 ").mp texts]
    exact ⟨rfl, rfl⟩
  acyclic := free.acyclic

/-! ## Providers that do not fail -/

/-- The provider expands every secret to every length of its ciphersuite. -/
structure Reliable : Prop where
  expands : ∀ length ∈ [crypto.hashLength, crypto.aeadKeyLength,
      crypto.aeadNonceLength], ∀ secret info,
    ∃ key, crypto.hkdfExpand secret info length = some key ∧
      crypto.isEmpty key = false
  bounded : ∀ length ∈ [crypto.hashLength, crypto.aeadKeyLength,
      crypto.aeadNonceLength], length ≤ 65535

/-- A label of the protocol: a few characters and a few bytes of context. -/
structure Label.Short (label : Label) : Prop where
  length : label.length ∈ [crypto.hashLength, crypto.aeadKeyLength,
    crypto.aeadNonceLength]
  text : (asBytes ("MLS 1.0 " ++ label.label)).length < 2 ^ 30
  context : label.context.length < 2 ^ 30

theorem exists_write_kdfLabel {length : Nat} (bounded : length ≤ 65535)
    {label context : Bytes} (shortLabel : label.length < 2 ^ 30)
    (shortContext : context.length < 2 ^ 30) :
    ∃ info, kdfLabel.write ((length, label), context) = some info := by
  obtain ⟨labelField, labelWritten⟩ :=
    Format.exists_write_vector shortLabel
  obtain ⟨contextField, contextWritten⟩ :=
    Format.exists_write_vector shortContext
  refine ⟨bigEndian 2 length ++ labelField ++ contextField, ?_⟩
  have lengthWritten : (Format.uint 2).write length =
      some (bigEndian 2 length) := if_pos (by omega)
  simp only [kdfLabel, Format.pair, lengthWritten, labelWritten,
    contextWritten, Option.bind_eq_bind, Option.bind_some, Option.pure_def]

variable {crypto}

theorem Reliable.isSome_expand (reliable : Reliable crypto) {label : Label}
    (short : label.Short crypto) (secret : Secret) :
    (expand crypto secret label).isSome := by
  have bounded := reliable.bounded _ short.length
  obtain ⟨info, written⟩ :=
    exists_write_kdfLabel bounded short.text short.context
  obtain ⟨key, expanded, full⟩ :=
    reliable.expands _ short.length secret info
  rw [Option.isSome_iff_exists]
  refine ⟨key, ?_⟩
  rw [expand_eq_some_iff, kdfExpandLabel, serializedLabel,
    if_neg (Nat.not_lt.mpr bounded), written, Throwing.ok_bind, hkdfExpand,
    expanded]
  exact if_neg (by rw [full]; exact Bool.false_ne_true)

/-- Along short labels every path leads to a secret. -/
theorem Reliable.isSome_follow (reliable : Reliable crypto)
    {path : List Label} (short : ∀ label ∈ path, label.Short crypto)
    (root : Secret) :
    (Derivation.follow (expand crypto) root path).isSome := by
  induction path generalizing root with
  | nil => rfl
  | cons label path induction =>
      rw [List.forall_mem_cons] at short
      obtain ⟨next, derived⟩ := Option.isSome_iff_exists.mp
        (reliable.isSome_expand short.1 root)
      rw [Derivation.follow, derived, Option.bind_some]
      exact induction short.2 next

/-- The symbolic provider: a secret is the list of its expansions. -/
def symbolicCrypto : Crypto (List (Bytes × Nat)) where
  hkdfExpand secret info length := Derivation.symbolic secret (info, length)
  isEmpty _ := false
  hashLength := 32
  aeadKeyLength := 16
  aeadNonceLength := 12

/-- The symbolic provider has no collisions along any paths. -/
theorem collisionFree_symbolicCrypto {paths : Set (List Label)}
    (initial : ∀ {path : List Label} {label : Label},
      path ++ [label] ∈ paths → path ∈ paths) :
    CollisionFree symbolicCrypto [] paths where
  initial := initial
  injective := by
    rintro ⟨first, info, length⟩ - ⟨second, otherInfo, otherLength⟩ - target
      expanded alsoExpanded
    obtain ⟨secrets, inputs⟩ :=
      Derivation.symbolic_injective expanded alsoExpanded
    exact Prod.ext secrets inputs
  acyclic := by
    intro path label _ back
    rw [Derivation.follow_concat, Option.bind_eq_some_iff] at back
    obtain ⟨before, -, derived⟩ := back
    rw [expand_eq_some_iff] at derived
    obtain ⟨info, -, expanded⟩ :=
      expansion_of_kdfExpandLabel symbolicCrypto derived
    cases expanded

theorem reliable_symbolicCrypto : Reliable symbolicCrypto where
  expands := fun length _ secret info => ⟨(info, length) :: secret, rfl, rfl⟩
  bounded := by decide

end Mls4rn.OpenMls.KeyDerivation
