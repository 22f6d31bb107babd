import Mls4rn.Lib.Triples
import Mls4rn.OpenMls.KeyDerivation

/-!
# Sender ratchets

`sender_ratchet.rs`: a ratchet derives the key material of one generation
after another from a chain of secrets.  A decryption ratchet serves
generations out of order.  It keeps the material of the generations it has
skipped in a queue, the newest first, and an empty place for each one it has
handed out.

Two results are about all runs.  Whatever the configurations and whichever
derivations fail, no generation is served twice and each is served with its
own material.  And under one configuration the ratchet is a replay window,
down to the errors it answers with.
-/

namespace Mls4rn.OpenMls.SenderRatchet

open Mls4rn.Lib
open Mls4rn.Lib.ByteString
open Mls4rn.Lib.Throwing
open Mls4rn.OpenMls.KeyDerivation

/-- The variants of `SecretTreeError` that the secret tree answers with. -/
inductive SecretTreeError where
  | tooDistantInThePast
  | tooDistantInTheFuture
  | indexOutOfBounds
  | secretReuseError
  | ratchetTypeError
  | ratchetTooLong
  | libraryError
  | cryptoError (error : CryptoError)
deriving DecidableEq, Repr

/-- `u32::MAX`. -/
def u32Max : Nat := 2 ^ 32 - 1

/-- `SenderRatchetConfiguration`. -/
structure SenderRatchetConfiguration where
  outOfOrderTolerance : Nat
  maximumForwardDistance : Nat
  tolerance_le : outOfOrderTolerance ≤ u32Max
  distance_le : maximumForwardDistance ≤ u32Max

/-- `SenderRatchetConfiguration::default`. -/
def SenderRatchetConfiguration.default : SenderRatchetConfiguration where
  outOfOrderTolerance := 5
  maximumForwardDistance := 1000
  tolerance_le := by decide
  distance_le := by decide

/-- `AeadKey`, of the one mode that the ciphersuite has. -/
structure AeadKey (Secret : Type) where
  fromSecret ::
  value : Secret
deriving DecidableEq, Repr

/-- `AeadNonce`. -/
structure AeadNonce (Secret : Type) where
  fromSecret ::
  value : Secret
deriving DecidableEq, Repr

/-- `RatchetKeyMaterial`. -/
abbrev RatchetKeyMaterial (Secret : Type) : Type :=
  AeadKey Secret × AeadNonce Secret

/-- `RatchetSecret`. -/
structure RatchetSecret (Secret : Type) where
  secret : Secret
  generation : Nat
deriving DecidableEq, Repr

/-- `RatchetSecret::initial_ratchet_secret`. -/
def RatchetSecret.initialRatchetSecret {Secret : Type} (secret : Secret) :
    RatchetSecret Secret where
  secret := secret
  generation := 0

/-- `DecryptionRatchet`. -/
structure DecryptionRatchet (Secret : Type) where
  pastSecrets : List (Option (RatchetKeyMaterial Secret))
  ratchetHead : RatchetSecret Secret
deriving DecidableEq, Repr

/-- `DecryptionRatchet::new`. -/
def DecryptionRatchet.new {Secret : Type} (secret : Secret) :
    DecryptionRatchet Secret where
  pastSecrets := []
  ratchetHead := RatchetSecret.initialRatchetSecret secret

section Model

variable {Secret : Type} (crypto : Crypto Secret)

/-- `derive_tree_secret`. -/
def deriveTreeSecret (secret : Secret) (label : String) (generation : Nat)
    (length : Nat) : Except SecretTreeError Secret :=
  (kdfExpandLabel crypto secret label (bigEndian 4 generation)
    length).mapError .cryptoError

/-- `RatchetSecret::ratchet_forward`. -/
def ratchetForward :
    Throwing (RatchetSecret Secret) SecretTreeError
      (Nat × RatchetKeyMaterial Secret) := do
  let ratchet ← Throwing.read
  if ratchet.generation = u32Max then raise .ratchetTooLong
  else
    let nonce ← ofExcept (deriveTreeSecret crypto ratchet.secret
      "nonce" ratchet.generation crypto.aeadNonceLength)
    let key ← ofExcept (deriveTreeSecret crypto ratchet.secret
      "key" ratchet.generation crypto.aeadKeyLength)
    let secret ← ofExcept (deriveTreeSecret crypto ratchet.secret
      "secret" ratchet.generation crypto.hashLength)
    Throwing.update fun _ =>
      { secret := secret, generation := ratchet.generation + 1 }
    return (ratchet.generation,
      (AeadKey.fromSecret key, AeadNonce.fromSecret nonce))

/-- One step of the head of a decryption ratchet. -/
def headForward :
    Throwing (DecryptionRatchet Secret) SecretTreeError
      (RatchetKeyMaterial Secret) := do
  let derived ← zoom DecryptionRatchet.ratchetHead
    (fun head ratchet => { ratchet with ratchetHead := head }) id
    (ratchetForward crypto)
  return derived.2

/-- `push_front` on the past secrets. -/
def pushFront (entry : Option (RatchetKeyMaterial Secret)) :
    Throwing (DecryptionRatchet Secret) SecretTreeError Unit :=
  Throwing.update fun ratchet =>
    { ratchet with pastSecrets := entry :: ratchet.pastSecrets }

/-- The loop that ratchets the chain forward. -/
def forwardTimes :
    Nat → Throwing (DecryptionRatchet Secret) SecretTreeError Unit
  | 0 => pure ()
  | steps + 1 => do
      let secrets ← headForward crypto
      pushFront (some secrets)
      forwardTimes steps

/-- `((distance) as i32) - 1`, in 32 bits. -/
def windowIndex (distance : Nat) : Int :=
  (Int.bmod distance (2 ^ 32) - 1).bmod (2 ^ 32)

/-- Take the material out of a place of the queue. -/
def takePast (index : Nat) :
    Throwing (DecryptionRatchet Secret) SecretTreeError
      (RatchetKeyMaterial Secret) := do
  let ratchet ← Throwing.read
  match ratchet.pastSecrets[index]? with
  | none => raise .indexOutOfBounds
  | some none => raise .secretReuseError
  | some (some secrets) =>
      Throwing.update fun ratchet =>
        { ratchet with pastSecrets := ratchet.pastSecrets.set index none }
      return secrets

/-- `DecryptionRatchet::secret_for_decryption`. -/
def secretForDecryption (generation : Nat)
    (configuration : SenderRatchetConfiguration) :
    Throwing (DecryptionRatchet Secret) SecretTreeError
      (RatchetKeyMaterial Secret) := do
  let ratchet ← Throwing.read
  let headGeneration := ratchet.ratchetHead.generation
  if headGeneration < u32Max - configuration.maximumForwardDistance ∧
      headGeneration + configuration.maximumForwardDistance < generation then
    raise .tooDistantInTheFuture
  else if generation < headGeneration ∧
      configuration.outOfOrderTolerance < headGeneration - generation then
    raise .tooDistantInThePast
  else if headGeneration ≤ generation then do
    forwardTimes crypto (generation - headGeneration)
    let secrets ← headForward crypto
    pushFront none
    Throwing.update fun ratchet =>
      { ratchet with
        pastSecrets :=
          ratchet.pastSecrets.take configuration.outOfOrderTolerance }
    return secrets
  else if 0 ≤ windowIndex (headGeneration - generation) then
    takePast (windowIndex (headGeneration - generation)).toNat
  else
    raise .tooDistantInThePast

/-! ## The chain -/

/-- The derivation of the next secret of the chain. -/
def secretLabel (generation : Nat) : Label :=
  ⟨"secret", bigEndian 4 generation, crypto.hashLength⟩

/-- The derivation of the key of a generation. -/
def keyLabel (generation : Nat) : Label :=
  ⟨"key", bigEndian 4 generation, crypto.aeadKeyLength⟩

/-- The derivation of the nonce of a generation. -/
def nonceLabel (generation : Nat) : Label :=
  ⟨"nonce", bigEndian 4 generation, crypto.aeadNonceLength⟩

/-- The path to the secret of a generation. -/
def chain (generation : Nat) : List Label :=
  (List.range generation).map (secretLabel crypto)

/-- The secret of a generation. -/
def secretAt (root : Secret) (generation : Nat) : Option Secret :=
  Derivation.follow (expand crypto) root (chain crypto generation)

/-- The key material of a generation. -/
def materialAt (root : Secret) (generation : Nat) :
    Option (RatchetKeyMaterial Secret) := do
  let key ← Derivation.follow (expand crypto) root
    (chain crypto generation ++ [keyLabel crypto generation])
  let nonce ← Derivation.follow (expand crypto) root
    (chain crypto generation ++ [nonceLabel crypto generation])
  return (AeadKey.fromSecret key, AeadNonce.fromSecret nonce)

theorem chain_succ (generation : Nat) :
    chain crypto (generation + 1) =
      chain crypto generation ++ [secretLabel crypto generation] := by
  simp [chain, List.range_succ]

theorem secretAt_zero (root : Secret) : secretAt crypto root 0 = some root :=
  rfl

theorem secretAt_succ (root : Secret) (generation : Nat) :
    secretAt crypto root (generation + 1) =
      (secretAt crypto root generation).bind fun secret =>
        expand crypto secret (secretLabel crypto generation) := by
  rw [secretAt, chain_succ, Derivation.follow_concat, secretAt]

theorem materialAt_eq_some_iff (root : Secret) (generation : Nat)
    (material : RatchetKeyMaterial Secret) :
    materialAt crypto root generation = some material ↔
      Derivation.follow (expand crypto) root
          (chain crypto generation ++ [keyLabel crypto generation]) =
          some material.1.value ∧
        Derivation.follow (expand crypto) root
          (chain crypto generation ++ [nonceLabel crypto generation]) =
          some material.2.value := by
  rcases material with ⟨⟨key⟩, ⟨nonce⟩⟩
  simp only [materialAt, Option.bind_eq_bind, Option.bind_eq_some_iff,
    Option.pure_def, Option.some.injEq, Prod.mk.injEq,
    AeadKey.fromSecret.injEq, AeadNonce.fromSecret.injEq]
  constructor
  · rintro ⟨key', keyDerived, nonce', nonceDerived, rfl, rfl⟩
    exact ⟨keyDerived, nonceDerived⟩
  · rintro ⟨keyDerived, nonceDerived⟩
    exact ⟨key, keyDerived, nonce, nonceDerived, rfl, rfl⟩

theorem deriveTreeSecret_eq_ok_iff (secret target : Secret)
    (label : String) (generation length : Nat) :
    deriveTreeSecret crypto secret label generation length = .ok target ↔
      expand crypto secret ⟨label, bigEndian 4 generation, length⟩ =
        some target := by
  rw [expand_eq_some_iff, deriveTreeSecret]
  cases kdfExpandLabel crypto secret label (bigEndian 4 generation)
      length with
  | error error => simp [Except.mapError]
  | ok key => simp [Except.mapError]

/-- The head of a ratchet is on the chain of a root. -/
def OnChain (root : Secret) (head : RatchetSecret Secret) : Prop :=
  secretAt crypto root head.generation = some head.secret

/-- A step of the chain: what is handed out, and the next head. -/
structure Forwards (head : RatchetSecret Secret)
    (material : RatchetKeyMaterial Secret) (next : RatchetSecret Secret) :
    Prop where
  short : head.generation ≠ u32Max
  key :
    expand crypto head.secret (keyLabel crypto head.generation) =
      some material.1.value
  nonce :
    expand crypto head.secret (nonceLabel crypto head.generation) =
      some material.2.value
  secret :
    expand crypto head.secret (secretLabel crypto head.generation) =
      some next.secret
  generation : next.generation = head.generation + 1

theorem ratchetForward_cases (head : RatchetSecret Secret) :
    (∃ error, ratchetForward crypto head = (.error error, head)) ∨
      ∃ material next,
        Forwards crypto head material next ∧
          ratchetForward crypto head =
            (.ok (head.generation, material), next) := by
  unfold ratchetForward
  rw [read_bind]
  split
  · exact Or.inl ⟨_, rfl⟩
  next short =>
  cases nonceDerived : deriveTreeSecret crypto head.secret "nonce"
      head.generation crypto.aeadNonceLength with
  | error error => exact Or.inl ⟨error, rfl⟩
  | ok nonce =>
      cases keyDerived : deriveTreeSecret crypto head.secret "key"
          head.generation crypto.aeadKeyLength with
      | error error => exact Or.inl ⟨error, rfl⟩
      | ok key =>
          cases secretDerived : deriveTreeSecret crypto head.secret "secret"
              head.generation crypto.hashLength with
          | error error => exact Or.inl ⟨error, rfl⟩
          | ok secret =>
              rw [deriveTreeSecret_eq_ok_iff] at nonceDerived
              rw [deriveTreeSecret_eq_ok_iff] at keyDerived
              rw [deriveTreeSecret_eq_ok_iff] at secretDerived
              exact Or.inr ⟨(⟨key⟩, ⟨nonce⟩), ⟨secret, head.generation + 1⟩,
                ⟨short, keyDerived, nonceDerived, secretDerived, rfl⟩, rfl⟩

theorem ratchetForward_of_forwards {head next : RatchetSecret Secret}
    {material : RatchetKeyMaterial Secret}
    (forwards : Forwards crypto head material next) :
    ratchetForward crypto head = (.ok (head.generation, material), next) := by
  rcases material with ⟨⟨key⟩, ⟨nonce⟩⟩
  rcases next with ⟨secret, generation⟩
  have nonceDerived := (deriveTreeSecret_eq_ok_iff crypto _ _ "nonce"
    head.generation crypto.aeadNonceLength).mpr forwards.nonce
  have keyDerived := (deriveTreeSecret_eq_ok_iff crypto _ _ "key"
    head.generation crypto.aeadKeyLength).mpr forwards.key
  have secretDerived := (deriveTreeSecret_eq_ok_iff crypto _ _ "secret"
    head.generation crypto.hashLength).mpr forwards.secret
  have counted : generation = head.generation + 1 := forwards.generation
  unfold ratchetForward
  rw [read_bind, if_neg forwards.short, nonceDerived, keyDerived,
    secretDerived, counted]
  rfl

theorem ratchetForward_tooLong {head : RatchetSecret Secret}
    (long : head.generation = u32Max) :
    ratchetForward crypto head = (.error .ratchetTooLong, head) := by
  unfold ratchetForward
  rw [read_bind, if_pos long]
  rfl

section Chain

variable {crypto} {root : Secret} {head next : RatchetSecret Secret}
  {material : RatchetKeyMaterial Secret}

theorem Forwards.materialAt_eq (forwards : Forwards crypto head material next)
    (onChain : OnChain crypto root head) :
    materialAt crypto root head.generation = some material := by
  have reached : Derivation.follow (expand crypto) root
      (chain crypto head.generation) = some head.secret := onChain
  rw [materialAt_eq_some_iff, Derivation.follow_of_append reached,
    Derivation.follow_of_append reached, Derivation.follow_singleton,
    Derivation.follow_singleton]
  exact ⟨forwards.key, forwards.nonce⟩

theorem Forwards.onChain (forwards : Forwards crypto head material next)
    (onChain : OnChain crypto root head) : OnChain crypto root next := by
  have reached : secretAt crypto root head.generation = some head.secret :=
    onChain
  rw [OnChain, forwards.generation, secretAt_succ, reached,
    Option.bind_some, forwards.secret]

end Chain

/-- The head moves on, or nothing changes. -/
theorem headForward_cases (ratchet : DecryptionRatchet Secret) :
    (∃ error, headForward crypto ratchet = (.error error, ratchet)) ∨
      ∃ material next,
        Forwards crypto ratchet.ratchetHead material next ∧
          headForward crypto ratchet =
            (.ok material, { ratchet with ratchetHead := next }) := by
  rcases ratchetForward_cases crypto ratchet.ratchetHead with
    ⟨error, failed⟩ | ⟨material, next, forwards, moved⟩
  · refine Or.inl ⟨error, ?_⟩
    unfold headForward
    rw [bind_apply]
    simp only [zoom, failed, id]
  · refine Or.inr ⟨material, next, forwards, ?_⟩
    unfold headForward
    rw [bind_apply]
    simp only [zoom, moved, pure_apply]

theorem headForward_of_forwards {ratchet : DecryptionRatchet Secret}
    {next : RatchetSecret Secret} {material : RatchetKeyMaterial Secret}
    (forwards : Forwards crypto ratchet.ratchetHead material next) :
    headForward crypto ratchet =
      (.ok material, { ratchet with ratchetHead := next }) := by
  unfold headForward
  rw [bind_apply]
  simp only [zoom, ratchetForward_of_forwards crypto forwards, pure_apply]

theorem headForward_tooLong {ratchet : DecryptionRatchet Secret}
    (long : ratchet.ratchetHead.generation = u32Max) :
    headForward crypto ratchet = (.error .ratchetTooLong, ratchet) := by
  unfold headForward
  rw [bind_apply]
  simp only [zoom, ratchetForward_tooLong crypto long, id]

/-! ## No error of the library -/

theorem deriveTreeSecret_ne_libraryError (secret : Secret) (label : String)
    (generation length : Nat) :
    deriveTreeSecret crypto secret label generation length ≠
      .error .libraryError := by
  unfold deriveTreeSecret
  cases kdfExpandLabel crypto secret label (bigEndian 4 generation)
      length with
  | error error => simp [Except.mapError]
  | ok key => simp [Except.mapError]

theorem ratchetForward_avoids_libraryError :
    Avoids .libraryError (ratchetForward crypto) := by
  apply avoids_bind avoids_read
  intro ratchet
  split
  · exact avoids_raise (by simp)
  apply avoids_bind
    (avoids_ofExcept (deriveTreeSecret_ne_libraryError crypto _ _ _ _))
  intro nonce
  apply avoids_bind
    (avoids_ofExcept (deriveTreeSecret_ne_libraryError crypto _ _ _ _))
  intro key
  apply avoids_bind
    (avoids_ofExcept (deriveTreeSecret_ne_libraryError crypto _ _ _ _))
  intro secret
  apply avoids_bind (avoids_update _)
  intro _
  exact avoids_pure _

theorem headForward_avoids_libraryError :
    Avoids .libraryError (headForward crypto) := by
  apply avoids_bind
  · apply avoids_zoom
    rintro ratchet other failed rfl
    exact ratchetForward_avoids_libraryError crypto _ failed
  · intro derived
    exact avoids_pure _

theorem forwardTimes_avoids_libraryError (steps : Nat) :
    Avoids .libraryError (forwardTimes crypto steps) := by
  induction steps with
  | zero => exact avoids_pure _
  | succ steps induction =>
      apply avoids_bind (headForward_avoids_libraryError crypto)
      intro secrets
      exact avoids_bind (avoids_update _) fun _ => induction

theorem secretForDecryption_avoids_libraryError (generation : Nat)
    (configuration : SenderRatchetConfiguration) :
    Avoids .libraryError
      (secretForDecryption crypto generation configuration) := by
  apply avoids_bind avoids_read
  intro ratchet
  dsimp only
  split
  · exact avoids_raise (by simp)
  split
  · exact avoids_raise (by simp)
  split
  · apply avoids_bind (forwardTimes_avoids_libraryError crypto _)
    intro _
    apply avoids_bind (headForward_avoids_libraryError crypto)
    intro secrets
    apply avoids_bind (avoids_update _)
    intro _
    apply avoids_bind (avoids_update _)
    intro _
    exact avoids_pure _
  split
  · apply avoids_bind avoids_read
    intro ratchet
    split
    · exact avoids_raise (by simp)
    · exact avoids_raise (by simp)
    · apply avoids_bind (avoids_update _)
      intro _
      exact avoids_pure _
  · exact avoids_raise (by simp)

/-! ## The index of the window -/

theorem windowIndex_of_le {distance : Nat} (positive : 0 < distance)
    (near : distance ≤ 2 ^ 31) : windowIndex distance = distance - 1 := by
  unfold windowIndex
  simp only [Int.bmod]
  omega

theorem windowIndex_of_lt {distance : Nat} (far : 2 ^ 31 < distance)
    (bounded : distance < 2 ^ 32) : windowIndex distance < 0 := by
  unfold windowIndex
  simp only [Int.bmod]
  omega

/-! ## What a decryption ratchet holds -/

/--
The ratchet of a root after some generations were handed out: its queue has
material of earlier generations only, none of it handed out.
-/
structure Tracks (root : Secret) (served : List Nat)
    (ratchet : DecryptionRatchet Secret) : Prop where
  onChain : OnChain crypto root ratchet.ratchetHead
  bounded : ratchet.ratchetHead.generation ≤ u32Max
  past : ∀ generation ∈ served, generation < ratchet.ratchetHead.generation
  length_le : ratchet.pastSecrets.length ≤ ratchet.ratchetHead.generation
  held : ∀ index material,
    ratchet.pastSecrets[index]? = some (some material) →
      materialAt crypto root
          (ratchet.ratchetHead.generation - 1 - index) = some material ∧
        ratchet.ratchetHead.generation - 1 - index ∉ served

section Tracks

variable {crypto} {root : Secret} {served : List Nat}
  {ratchet : DecryptionRatchet Secret}

theorem tracks_new (root : Secret) :
    Tracks crypto root [] (DecryptionRatchet.new root) where
  onChain := secretAt_zero crypto root
  bounded := Nat.zero_le _
  past := by
    intro generation inside
    cases inside
  length_le := le_refl _
  held := by
    intro index material entry
    simp [DecryptionRatchet.new] at entry

section

variable (tracks : Tracks crypto root served ratchet)
include tracks

/-- A place of the queue lies in the past of the head. -/
theorem Tracks.index_lt
    {index : Nat} {entry : Option (RatchetKeyMaterial Secret)}
    (inside : ratchet.pastSecrets[index]? = some entry) :
    index < ratchet.ratchetHead.generation := by
  obtain ⟨low, -⟩ := List.getElem?_eq_some_iff.mp inside
  exact low.trans_le tracks.length_le

/-- The head moves on and what it derived is kept or handed out. -/
theorem Tracks.push
    {material : RatchetKeyMaterial Secret} {next : RatchetSecret Secret}
    (forwards : Forwards crypto ratchet.ratchetHead material next)
    {after : List Nat} {entry : Option (RatchetKeyMaterial Secret)}
    (change :
      (entry = some material ∧ after = served) ∨
        (entry = none ∧ after = ratchet.ratchetHead.generation :: served)) :
    Tracks crypto root after
      { pastSecrets := entry :: ratchet.pastSecrets
        ratchetHead := next } := by
  have moved := forwards.generation
  have short := forwards.short
  have bounded := tracks.bounded
  have earlier : ∀ generation ∈ after,
      generation ∈ served ∨ generation = ratchet.ratchetHead.generation := by
    intro generation inside
    rcases change with ⟨-, rfl⟩ | ⟨-, rfl⟩
    · exact Or.inl inside
    · exact (List.mem_cons.mp inside).symm
  refine ⟨forwards.onChain tracks.onChain, ?_, ?_, ?_, ?_⟩
  · simp only [moved]
    omega
  · intro generation inside
    simp only [moved]
    rcases earlier generation inside with old | rfl
    · exact Nat.lt_succ_of_lt (tracks.past generation old)
    · exact Nat.lt_succ_self _
  · simp only [List.length_cons, moved]
    exact Nat.succ_le_succ tracks.length_le
  · intro index kept inside
    cases index with
    | zero =>
        simp only [List.getElem?_cons_zero, Option.some.injEq] at inside
        subst inside
        rcases change with ⟨same, rfl⟩ | ⟨absent, -⟩
        · cases same
          simp only [moved, Nat.add_sub_cancel, Nat.sub_zero]
          refine ⟨forwards.materialAt_eq tracks.onChain, ?_⟩
          intro already
          exact absurd (tracks.past _ already) (lt_irrefl _)
        · cases absent
    | succ index =>
        rw [List.getElem?_cons_succ] at inside
        have low := tracks.index_lt inside
        obtain ⟨derived, fresh⟩ := tracks.held index kept inside
        have same :
            next.generation - 1 - (index + 1) =
              ratchet.ratchetHead.generation - 1 - index := by
          omega
        simp only [same]
        refine ⟨derived, ?_⟩
        intro already
        rcases earlier _ already with old | head
        · exact fresh old
        · omega

/-- Old places may be dropped. -/
theorem Tracks.truncate (count : Nat) :
    Tracks crypto root served
      { ratchet with pastSecrets := ratchet.pastSecrets.take count } where
  onChain := tracks.onChain
  bounded := tracks.bounded
  past := tracks.past
  length_le := (List.length_take_le' ..).trans tracks.length_le
  held := by
    intro index material inside
    apply tracks.held index material
    rw [List.getElem?_take] at inside
    split at inside
    · exact inside
    · cases inside

/-- What is taken out of the queue is not in it any more. -/
theorem Tracks.take
    {index : Nat} {material : RatchetKeyMaterial Secret}
    (inside : ratchet.pastSecrets[index]? = some (some material)) :
    Tracks crypto root
      ((ratchet.ratchetHead.generation - 1 - index) :: served)
      { ratchet with pastSecrets := ratchet.pastSecrets.set index none } := by
  have low := tracks.index_lt inside
  refine ⟨tracks.onChain, tracks.bounded, ?_, ?_, ?_⟩
  · intro generation member
    rcases List.mem_cons.mp member with rfl | old
    · show _ - 1 - index < ratchet.ratchetHead.generation
      omega
    · exact tracks.past generation old
  · rw [List.length_set]
    exact tracks.length_le
  · intro other kept there
    rw [List.getElem?_set] at there
    split at there
    · split at there
      · cases there
      · cases there
    · next different =>
      obtain ⟨derived, fresh⟩ := tracks.held other kept there
      have otherLow := tracks.index_lt there
      refine ⟨derived, ?_⟩
      intro already
      rcases List.mem_cons.mp already with same | old
      · simp only at same
        omega
      · exact fresh old

end

variable (crypto) (root served)

theorem forwardTimes_triple (steps start : Nat) :
    Triple
      (fun ratchet => Tracks crypto root served ratchet ∧
        ratchet.ratchetHead.generation = start)
      (forwardTimes crypto steps)
      (fun _ ratchet => Tracks crypto root served ratchet ∧
        ratchet.ratchetHead.generation = start + steps)
      (fun _ => Tracks crypto root served) := by
  induction steps generalizing start with
  | zero => exact triple_pure fun _ before => before
  | succ steps induction =>
      rintro ratchet ⟨tracks, here⟩
      rw [forwardTimes]
      rcases headForward_cases crypto ratchet with
        ⟨error, failed⟩ | ⟨material, next, forwards, moved⟩
      · exact ends_error (bind_of_error failed _) tracks
      · rw [bind_of_ok moved]
        have pushed := tracks.push forwards (Or.inl ⟨rfl, rfl⟩)
        have rest := induction (start + 1)
          { pastSecrets := some material :: ratchet.pastSecrets
            ratchetHead := next }
          ⟨pushed, by rw [forwards.generation, here]⟩
        rw [Nat.add_assoc, Nat.add_comm 1] at rest
        exact rest

theorem takePast_triple (index generation : Nat) :
    Triple
      (fun ratchet => Tracks crypto root served ratchet ∧
        generation + 1 + index = ratchet.ratchetHead.generation)
      (takePast index)
      (fun material ratchet => generation ∉ served ∧
        materialAt crypto root generation = some material ∧
          Tracks crypto root (generation :: served) ratchet)
      (fun _ => Tracks crypto root served) := by
  apply triple_read_bind
  rintro ratchet ⟨tracks, here⟩
  have place : ratchet.ratchetHead.generation - 1 - index = generation := by
    omega
  split
  · exact triple_raise fun _ same => same ▸ tracks
  · exact triple_raise fun _ same => same ▸ tracks
  · next material inside =>
    obtain ⟨derived, fresh⟩ := tracks.held index material inside
    have taken := tracks.take inside
    rw [place] at derived fresh taken
    rintro _ rfl
    exact ends_ok rfl ⟨fresh, derived, taken⟩

/-- A request is served once, with the material of its generation. -/
theorem secretForDecryption_triple (generation : Nat)
    (configuration : SenderRatchetConfiguration) :
    Triple
      (Tracks crypto root served)
      (secretForDecryption crypto generation configuration)
      (fun material ratchet => generation ∉ served ∧
        materialAt crypto root generation = some material ∧
          Tracks crypto root (generation :: served) ratchet)
      (fun _ => Tracks crypto root served) := by
  apply triple_read_bind
  intro ratchet tracks
  dsimp only
  split
  · exact triple_raise fun _ same => same ▸ tracks
  split
  · exact triple_raise fun _ same => same ▸ tracks
  split
  · next ahead =>
    apply triple_bind
    · apply (forwardTimes_triple crypto root served
        (generation - ratchet.ratchetHead.generation)
        ratchet.ratchetHead.generation).weaken
      · rintro _ rfl
        exact ⟨tracks, rfl⟩
      · intro _ _ reached
        exact reached
      · intro _ _ reached
        exact reached
    · rintro - reached ⟨reachedTracks, there⟩
      rw [Nat.add_sub_cancel' ahead] at there
      rcases headForward_cases crypto reached with
        ⟨error, failed⟩ | ⟨material, next, forwards, moved⟩
      · exact ends_error (bind_of_error failed _) reachedTracks
      · rw [bind_of_ok moved]
        have pushed := reachedTracks.push forwards (Or.inr ⟨rfl, rfl⟩)
        have derived := forwards.materialAt_eq reachedTracks.onChain
        have fresh : reached.ratchetHead.generation ∉ served := by
          intro already
          exact absurd (reachedTracks.past _ already) (lt_irrefl _)
        rw [there] at pushed derived fresh
        exact ends_ok rfl ⟨fresh, derived,
          pushed.truncate configuration.outOfOrderTolerance⟩
  · next behind =>
    have distance : ratchet.ratchetHead.generation - generation < 2 ^ 32 := by
      have bounded := tracks.bounded
      unfold u32Max at bounded
      omega
    split
    · next positive =>
      have near : ratchet.ratchetHead.generation - generation ≤ 2 ^ 31 := by
        by_contra far
        exact absurd positive
          (Int.not_le.mpr (windowIndex_of_lt (by omega) distance))
      apply (takePast_triple crypto root served _ generation).weaken
      · rintro _ rfl
        refine ⟨tracks, ?_⟩
        rw [windowIndex_of_le (by omega) near]
        omega
      · intro _ _ reached
        exact reached
      · intro _ _ reached
        exact reached
    · exact triple_raise fun _ same => same ▸ tracks

end Tracks

/-- A request to a decryption ratchet. -/
structure Request where
  generation : Nat
  configuration : SenderRatchetConfiguration

/-- Serve a request. -/
def serve (request : Request) :
    Throwing (DecryptionRatchet Secret) SecretTreeError
      (RatchetKeyMaterial Secret) :=
  secretForDecryption crypto request.generation request.configuration

/-- What holds once some requests were served. -/
structure Served (root : Secret)
    (history : List (Request × RatchetKeyMaterial Secret))
    (ratchet : DecryptionRatchet Secret) : Prop where
  tracks :
    Tracks crypto root
      (history.map fun entry => entry.1.generation).reverse ratchet
  once : (history.map fun entry => entry.1.generation).Nodup
  right : ∀ entry ∈ history,
    materialAt crypto root entry.1.generation = some entry.2

theorem serve_triple (root : Secret)
    (history : List (Request × RatchetKeyMaterial Secret))
    (request : Request) :
    Triple
      (Served crypto root history)
      (serve crypto request)
      (fun material ratchet =>
        Served crypto root (history ++ [(request, material)]) ratchet)
      (fun _ => Served crypto root history) := by
  intro ratchet before
  obtain ⟨onValue, onError⟩ := secretForDecryption_triple crypto root
    (history.map fun entry => entry.1.generation).reverse
    request.generation request.configuration ratchet before.tracks
  constructor
  · intro material reached done
    obtain ⟨fresh, derived, after⟩ := onValue material reached done
    rw [List.mem_reverse] at fresh
    refine ⟨?_, ?_, ?_⟩
    · rw [List.map_append, List.map_singleton, List.reverse_append,
        List.reverse_singleton, List.singleton_append]
      exact after
    · rw [List.map_append, List.map_singleton, List.nodup_append]
      refine ⟨before.once, List.nodup_singleton _, ?_⟩
      rintro old inside _ new rfl
      exact fresh (List.mem_singleton.mp new ▸ inside)
    · intro entry inside
      rcases List.mem_append.mp inside with old | new
      · exact before.right entry old
      · rw [List.mem_singleton.mp new]
        exact derived
  · intro error reached done
    exact ⟨onError error reached done, before.once, before.right⟩

theorem served_new (root : Secret) :
    Served crypto root [] (DecryptionRatchet.new root) where
  tracks := tracks_new root
  once := List.nodup_nil
  right := by
    intro entry inside
    cases inside

/--
However the requests are ordered and configured, and whichever derivations
fail, a decryption ratchet hands out each generation at most once, and with
the material that the chain of its secret gives that generation.
-/
theorem served_once_from_the_chain (root : Secret)
    (requests : List Request) :
    let served := returnedCalls (serve crypto) requests
      (DecryptionRatchet.new root)
    (served.map fun entry => entry.1.generation).Nodup ∧
      ∀ entry ∈ served,
        materialAt crypto root entry.1.generation = some entry.2 := by
  have all := calls_invariant (serve_triple crypto root) requests
    (served_new crypto root)
  rw [List.nil_append] at all
  exact ⟨all.once, all.right⟩

/-! ## The replay window -/

/-- A window over the generations: the next one, and those accepted. -/
structure ReplayWindow where
  head : Nat
  accepted : List Nat
deriving DecidableEq, Repr

/--
What a generation is answered with.  There are two exceptions to the plain
window.  For `u32::MAX` there is no material, and asking for it still moves the
head.  And a generation more than `2 ^ 31` behind the head is too distant
whatever the tolerance says, since its place in the queue is computed in 32
signed bits.
-/
def ReplayWindow.accept (configuration : SenderRatchetConfiguration)
    (generation : Nat) : Throwing ReplayWindow SecretTreeError Nat := do
  let window ← Throwing.read
  if window.head < u32Max - configuration.maximumForwardDistance ∧
      window.head + configuration.maximumForwardDistance < generation then
    raise .tooDistantInTheFuture
  else if generation + configuration.outOfOrderTolerance < window.head then
    raise .tooDistantInThePast
  else if u32Max ≤ generation then do
    Throwing.update fun window => { window with head := u32Max }
    raise .ratchetTooLong
  else if window.head ≤ generation then do
    Throwing.update fun window =>
      { head := generation + 1, accepted := generation :: window.accepted }
    return generation
  else if generation + 2 ^ 31 < window.head then
    raise .tooDistantInThePast
  else if generation ∈ window.accepted then
    raise .secretReuseError
  else do
    Throwing.update fun window =>
      { window with accepted := generation :: window.accepted }
    return generation

/-- What is accepted is the generation that was asked for. -/
theorem accept_eq_ok {configuration : SenderRatchetConfiguration}
    {generation answer : Nat} {window : ReplayWindow}
    (accepted :
      (ReplayWindow.accept configuration generation window).1 = .ok answer) :
    answer = generation := by
  unfold ReplayWindow.accept at accepted
  rw [read_bind] at accepted
  split at accepted
  · cases accepted
  split at accepted
  · cases accepted
  split at accepted
  · cases accepted
  split at accepted
  · cases accepted
    rfl
  split at accepted
  · cases accepted
  split at accepted
  · cases accepted
  · cases accepted
    rfl

/-- No derivation of the chain of a root fails. -/
def Derives (root : Secret) : Prop :=
  ∀ generation < u32Max,
    (materialAt crypto root generation).isSome ∧
      (secretAt crypto root (generation + 1)).isSome

/-- The ratchet is the window, with the material of its open places. -/
structure Represents (root : Secret) (tolerance : Nat)
    (window : ReplayWindow) (ratchet : DecryptionRatchet Secret) :
    Prop where
  onChain : OnChain crypto root ratchet.ratchetHead
  head : ratchet.ratchetHead.generation = window.head
  bounded : window.head ≤ u32Max
  past : ∀ generation ∈ window.accepted, generation < window.head
  length_le : ratchet.pastSecrets.length ≤ window.head
  length_ge : min window.head tolerance ≤ ratchet.pastSecrets.length
  entries : ∀ index < ratchet.pastSecrets.length,
    ratchet.pastSecrets[index]? =
      some (if window.head - 1 - index ∈ window.accepted then none
        else materialAt crypto root (window.head - 1 - index))

section Window

variable {crypto} {root : Secret} {tolerance : Nat} {window : ReplayWindow}
  {ratchet : DecryptionRatchet Secret}

theorem represents_new (root : Secret) (tolerance : Nat) :
    Represents crypto root tolerance { head := 0, accepted := [] }
      (DecryptionRatchet.new root) where
  onChain := secretAt_zero crypto root
  head := rfl
  bounded := Nat.zero_le _
  past := by
    intro generation inside
    cases inside
  length_le := le_refl _
  length_ge := by simp
  entries := by
    intro index low
    exact absurd low (Nat.not_lt_zero _)

/-- Short of its end the chain goes on. -/
theorem exists_forwards (derives : Derives crypto root)
    {head : RatchetSecret Secret} (onChain : OnChain crypto root head)
    (short : head.generation < u32Max) :
    ∃ material next, Forwards crypto head material next := by
  obtain ⟨hasMaterial, hasNext⟩ := derives head.generation short
  obtain ⟨material, derived⟩ := Option.isSome_iff_exists.mp hasMaterial
  obtain ⟨secret, reached⟩ := Option.isSome_iff_exists.mp hasNext
  have here : Derivation.follow (expand crypto) root
      (chain crypto head.generation) = some head.secret := onChain
  rw [materialAt_eq_some_iff, Derivation.follow_of_append here,
    Derivation.follow_of_append here, Derivation.follow_singleton,
    Derivation.follow_singleton] at derived
  rw [secretAt, chain_succ, Derivation.follow_of_append here,
    Derivation.follow_singleton] at reached
  exact ⟨material, ⟨secret, head.generation + 1⟩, short.ne, derived.1,
    derived.2, reached, rfl⟩

/-- The head moves on by one place. -/
theorem Represents.push
    (represents : Represents crypto root tolerance window ratchet)
    {material : RatchetKeyMaterial Secret} {next : RatchetSecret Secret}
    (forwards : Forwards crypto ratchet.ratchetHead material next)
    {after : List Nat} {entry : Option (RatchetKeyMaterial Secret)}
    (change :
      (entry = some material ∧ after = window.accepted) ∨
        (entry = none ∧ after = window.head :: window.accepted)) :
    Represents crypto root tolerance
      { head := window.head + 1, accepted := after }
      { pastSecrets := entry :: ratchet.pastSecrets
        ratchetHead := next } := by
  have moved := forwards.generation
  have short := forwards.short
  have bounded := represents.bounded
  have derived := forwards.materialAt_eq represents.onChain
  rw [represents.head] at moved short derived
  have earlier : ∀ generation,
      generation ∈ after ↔
        generation ∈ window.accepted ∨
          (entry = none ∧ generation = window.head) := by
    intro generation
    rcases change with ⟨rfl, rfl⟩ | ⟨rfl, rfl⟩
    · simp
    · simp [or_comm]
  refine ⟨forwards.onChain represents.onChain, moved, ?_, ?_, ?_, ?_, ?_⟩
  · show window.head + 1 ≤ u32Max
    omega
  · intro generation inside
    rcases (earlier generation).mp inside with old | ⟨-, rfl⟩
    · exact Nat.lt_succ_of_lt (represents.past generation old)
    · exact Nat.lt_succ_self _
  · exact Nat.succ_le_succ represents.length_le
  · have long := represents.length_ge
    simp only [List.length_cons]
    omega
  · intro index low
    cases index with
    | zero =>
        simp only [List.getElem?_cons_zero, Nat.add_sub_cancel, Nat.sub_zero,
          derived]
        have notYet : window.head ∉ window.accepted := by
          intro already
          exact absurd (represents.past _ already) (lt_irrefl _)
        rcases change with ⟨rfl, rfl⟩ | ⟨rfl, rfl⟩
        · rw [if_neg notYet]
        · rw [if_pos List.mem_cons_self]
    | succ index =>
        have inside : index < ratchet.pastSecrets.length :=
          Nat.lt_of_succ_lt_succ low
        have fits := represents.length_le
        have same : window.head + 1 - 1 - (index + 1) =
            window.head - 1 - index := by
          omega
        have iff : window.head - 1 - index ∈ after ↔
            window.head - 1 - index ∈ window.accepted := by
          rw [earlier]
          constructor
          · rintro (old | ⟨-, head⟩)
            · exact old
            · omega
          · exact Or.inl
        rw [List.getElem?_cons_succ, represents.entries index inside]
        simp only [same, iff]

/-- The loop moves the head to its goal. -/
theorem forwardTimes_ok (derives : Derives crypto root)
    (represents : Represents crypto root tolerance window ratchet)
    (steps : Nat) (short : window.head + steps ≤ u32Max) :
    ∃ reached,
      forwardTimes crypto steps ratchet = (.ok (), reached) ∧
        Represents crypto root tolerance
          { window with head := window.head + steps } reached := by
  induction steps generalizing window ratchet with
  | zero => exact ⟨ratchet, rfl, represents⟩
  | succ steps induction =>
      obtain ⟨material, next, forwards⟩ := exists_forwards derives
        represents.onChain (by rw [represents.head]; omega)
      obtain ⟨reached, ran, after⟩ := induction
        (represents.push forwards (Or.inl ⟨rfl, rfl⟩))
        (by simp only; omega)
      refine ⟨reached, ?_, ?_⟩
      · rw [forwardTimes, bind_of_ok
          (headForward_of_forwards crypto forwards)]
        exact ran
      · rw [Nat.add_right_comm, Nat.add_assoc] at after
        exact after

/-- The loop stops at the end of the chain. -/
theorem forwardTimes_tooLong (derives : Derives crypto root)
    (represents : Represents crypto root tolerance window ratchet)
    (steps : Nat) (long : u32Max < window.head + steps) :
    ∃ reached,
      forwardTimes crypto steps ratchet =
          (.error .ratchetTooLong, reached) ∧
        Represents crypto root tolerance
          { window with head := u32Max } reached := by
  induction steps generalizing window ratchet with
  | zero => exact absurd represents.bounded (Nat.not_le.mpr long)
  | succ steps induction =>
      by_cases final : window.head = u32Max
      · refine ⟨ratchet, ?_, ?_⟩
        · rw [forwardTimes, bind_of_error
            (headForward_tooLong crypto (represents.head.trans final))]
        · rw [← final]
          exact represents
      have bounded := represents.bounded
      obtain ⟨material, next, forwards⟩ := exists_forwards derives
        represents.onChain (by rw [represents.head]; omega)
      obtain ⟨reached, ran, after⟩ := induction
        (represents.push forwards (Or.inl ⟨rfl, rfl⟩))
        (by simp only; omega)
      refine ⟨reached, ?_, after⟩
      rw [forwardTimes, bind_of_ok (headForward_of_forwards crypto forwards)]
      exact ran

theorem Represents.truncate
    (represents : Represents crypto root tolerance window ratchet) :
    Represents crypto root tolerance window
      { ratchet with
        pastSecrets := ratchet.pastSecrets.take tolerance } where
  onChain := represents.onChain
  head := represents.head
  bounded := represents.bounded
  past := represents.past
  length_le := (List.length_take_le' ..).trans represents.length_le
  length_ge := by
    have long := represents.length_ge
    rw [List.length_take]
    omega
  entries := by
    intro index low
    rw [List.length_take, lt_min_iff] at low
    rw [List.getElem?_take, if_pos low.1]
    exact represents.entries index low.2

/-- An open place is closed. -/
theorem Represents.take
    (represents : Represents crypto root tolerance window ratchet)
    {index : Nat} (low : index < ratchet.pastSecrets.length) :
    Represents crypto root tolerance
      { window with
        accepted := (window.head - 1 - index) :: window.accepted }
      { ratchet with
        pastSecrets := ratchet.pastSecrets.set index none } := by
  have fits := represents.length_le
  refine ⟨represents.onChain, represents.head, represents.bounded, ?_, ?_,
    ?_, ?_⟩
  · intro generation inside
    rcases List.mem_cons.mp inside with rfl | old
    · show window.head - 1 - index < window.head
      omega
    · exact represents.past generation old
  · rw [List.length_set]
    exact fits
  · rw [List.length_set]
    exact represents.length_ge
  · intro other inside
    rw [List.length_set] at inside
    rw [List.getElem?_set]
    split
    · next same =>
      subst same
      simp
    · next different =>
      have apart : window.head - 1 - other ≠ window.head - 1 - index := by
        omega
      rw [represents.entries other inside]
      simp only [List.mem_cons, apart, false_or]

/-- One request, to the ratchet and to the window. -/
theorem secretForDecryption_represents (derives : Derives crypto root)
    (configuration : SenderRatchetConfiguration) (generation : Nat)
    (represents : Represents crypto root configuration.outOfOrderTolerance
      window ratchet) :
    (secretForDecryption crypto generation configuration ratchet).1.map
          some =
        (ReplayWindow.accept configuration generation window).1.map
          (materialAt crypto root) ∧
      Represents crypto root configuration.outOfOrderTolerance
        (ReplayWindow.accept configuration generation window).2
        (secretForDecryption crypto generation configuration ratchet).2 := by
  have bounded := represents.bounded
  have fits := represents.length_le
  have long := represents.length_ge
  have max : u32Max = 2 ^ 32 - 1 := rfl
  unfold secretForDecryption ReplayWindow.accept
  rw [read_bind, read_bind, represents.head]
  by_cases future :
      window.head < u32Max - configuration.maximumForwardDistance ∧
        window.head + configuration.maximumForwardDistance < generation
  · rw [if_pos future, if_pos future]
    exact ⟨rfl, represents⟩
  rw [if_neg future, if_neg future]
  by_cases old : generation + configuration.outOfOrderTolerance < window.head
  · rw [if_pos (by omega), if_pos old]
    exact ⟨rfl, represents⟩
  rw [if_neg (by omega), if_neg old]
  by_cases last : u32Max ≤ generation
  · -- The chain ends before the generation: in the loop, or right behind it.
    rw [if_pos last, if_pos (by omega)]
    by_cases beyond : u32Max < generation
    · obtain ⟨reached, ran, after⟩ := forwardTimes_tooLong derives
        represents (generation - window.head) (by omega)
      rw [bind_of_error ran]
      exact ⟨rfl, after⟩
    · obtain ⟨reached, ran, after⟩ := forwardTimes_ok derives represents
        (generation - window.head) (by omega)
      have atEnd : window.head + (generation - window.head) = u32Max := by
        omega
      rw [atEnd] at after
      rw [bind_of_ok ran, bind_of_error
        (headForward_tooLong crypto after.head)]
      exact ⟨rfl, after⟩
  rw [if_neg last]
  by_cases ahead : window.head ≤ generation
  · rw [if_pos ahead, if_pos ahead]
    obtain ⟨reached, ran, after⟩ := forwardTimes_ok derives represents
      (generation - window.head) (by omega)
    rw [Nat.add_sub_cancel' ahead] at after
    obtain ⟨material, next, forwards⟩ := exists_forwards derives
      after.onChain (by rw [after.head]; exact Nat.not_le.mp last)
    have derived := forwards.materialAt_eq after.onChain
    rw [after.head] at derived
    rw [bind_of_ok ran, bind_of_ok (headForward_of_forwards crypto forwards)]
    refine ⟨?_, (after.push forwards (Or.inr ⟨rfl, rfl⟩)).truncate⟩
    exact congrArg Except.ok derived.symm
  rw [if_neg ahead, if_neg ahead]
  by_cases far : generation + 2 ^ 31 < window.head
  · rw [if_pos far, if_neg]
    · exact ⟨rfl, represents⟩
    · exact Int.not_le.mpr (windowIndex_of_lt (by omega) (by omega))
  have index : windowIndex (window.head - generation) =
      (window.head - 1 - generation : Nat) := by
    rw [windowIndex_of_le (by omega) (by omega)]
    omega
  have low : window.head - 1 - generation < ratchet.pastSecrets.length := by
    omega
  have entry := represents.entries _ low
  have back :
      window.head - 1 - (window.head - 1 - generation) = generation := by
    omega
  rw [back] at entry
  rw [if_neg far, index, if_pos (Int.natCast_nonneg _), Int.toNat_natCast]
  unfold takePast
  rw [read_bind]
  by_cases used : generation ∈ window.accepted
  · rw [if_pos used] at entry
    rw [entry, if_pos used]
    exact ⟨rfl, represents⟩
  · obtain ⟨material, derived⟩ := Option.isSome_iff_exists.mp
      (derives generation (Nat.not_le.mp last)).1
    rw [if_neg used, derived] at entry
    have taken := represents.take low
    rw [back] at taken
    rw [entry, if_neg used]
    exact ⟨congrArg Except.ok derived.symm, taken⟩

end Window

/-- The labels of the chain are short. -/
theorem short_of_generation {label : String}
    (text : (asBytes ("MLS 1.0 " ++ label)).length < 2 ^ 30)
    (generation : Nat) {length : Nat}
    (known : length ∈ [crypto.hashLength, crypto.aeadKeyLength,
      crypto.aeadNonceLength]) :
    Label.Short crypto ⟨label, bigEndian 4 generation, length⟩ :=
  ⟨known, text, by rw [length_bigEndian]; decide⟩

theorem short_chain (generation : Nat) :
    ∀ label ∈ chain crypto generation, label.Short crypto := by
  intro label inside
  obtain ⟨other, -, rfl⟩ := List.mem_map.mp inside
  exact short_of_generation crypto (by decide) other (by simp)

/-- A provider that does not fail derives every chain. -/
theorem derives_of_reliable {crypto : Crypto Secret}
    (reliable : Reliable crypto) (root : Secret) : Derives crypto root := by
  have behind (generation : Nat) {last : Label} (short : last.Short crypto) :=
    reliable.isSome_follow
      (List.forall_mem_append.mpr ⟨short_chain crypto generation,
        List.forall_mem_singleton.mpr short⟩) root
  intro generation _
  constructor
  · obtain ⟨key, keyDerived⟩ := Option.isSome_iff_exists.mp
      (behind generation (short_of_generation crypto
        (by decide : (asBytes ("MLS 1.0 " ++ "key")).length < 2 ^ 30)
        generation (by simp : crypto.aeadKeyLength ∈ _)))
    obtain ⟨nonce, nonceDerived⟩ := Option.isSome_iff_exists.mp
      (behind generation (short_of_generation crypto
        (by decide : (asBytes ("MLS 1.0 " ++ "nonce")).length < 2 ^ 30)
        generation (by simp : crypto.aeadNonceLength ∈ _)))
    rw [Option.isSome_iff_exists]
    exact ⟨(AeadKey.fromSecret key, AeadNonce.fromSecret nonce),
      (materialAt_eq_some_iff crypto root generation _).mpr
        ⟨keyDerived, nonceDerived⟩⟩
  · exact reliable.isSome_follow (short_chain crypto (generation + 1)) root

/--
Under one configuration, and as long as no derivation of its chain fails, a
decryption ratchet answers every sequence of requests as the replay window
does: with the same errors, and with the material of the accepted generations.
-/
theorem decryptionRatchet_is_replayWindow (root : Secret)
    (derives : Derives crypto root)
    (configuration : SenderRatchetConfiguration) (generations : List Nat) :
    (runAll
        (fun generation =>
          secretForDecryption crypto generation configuration)
        generations (DecryptionRatchet.new root)).1.map (Except.map some) =
      (runAll (ReplayWindow.accept configuration) generations
        { head := 0, accepted := [] }).1.map
          (Except.map (materialAt crypto root)) := by
  have step (generation : Nat) (ratchet : DecryptionRatchet Secret)
      (window : ReplayWindow)
      (represents : Represents crypto root
        configuration.outOfOrderTolerance window ratchet) :=
    secretForDecryption_represents derives configuration generation represents
  exact runAll_simulation step generations
    (represents_new root configuration.outOfOrderTolerance)

/-- Messages that arrive late, twice and too late. -/
theorem decryptionRatchet_symbolic :
    (runAll
        (fun generation => secretForDecryption symbolicCrypto generation
          SenderRatchetConfiguration.default)
        [2, 0, 2, 9, 3, 2000] (DecryptionRatchet.new [])).1.map
          (Except.map some) =
      [.ok (materialAt symbolicCrypto [] 2),
        .ok (materialAt symbolicCrypto [] 0), .error .secretReuseError,
        .ok (materialAt symbolicCrypto [] 9), .error .tooDistantInThePast,
        .error .tooDistantInTheFuture] := by
  rw [decryptionRatchet_is_replayWindow symbolicCrypto []
    (derives_of_reliable reliable_symbolicCrypto [])]
  rfl

end Model

end Mls4rn.OpenMls.SenderRatchet
