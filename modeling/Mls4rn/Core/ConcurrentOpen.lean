import Mls4rn.Core.PersistentClient

/-!
# Opening one client several times at once

`MlsClient.open` loads what is stored under an id.  If there is nothing it
makes a new identity and saves it.  Other calls of `open` may run between the
load and the save.

The adapter loads and saves at one moment each, which is an event of its own;
what a call does between them is another event.  Two calls that both find
nothing each make an identity of their own.  They agree as long as no call
loads while another one that found nothing has not saved yet.
-/

namespace Mls4rn.Core.ConcurrentOpen

open Mls4rn.Lib
open Mls4rn.Lib.ByteString
open Mls4rn.Lib.Execution
open Mls4rn.Lib.Throwing
open Mls4rn.Lib.Utf16
open Mls4rn.Core.MlsGroup (Thrown)
open Mls4rn.Core.PersistentClient

/-- How far a call of `open` has come. -/
inductive Progress (Keypair : Type) where
  | called
  | loaded (blob : Option Bytes)
  | saving (client : Client Keypair) (blob : Bytes)
  | opened (client : Client Keypair)
  | failed

/-- The content of the adapter under the id, and the calls. -/
structure World (Caller Keypair : Type) where
  stored : Option Bytes
  progress : Caller → Progress Keypair

/-- What happens. -/
inductive Event (Caller Seed : Type) where
  | load (caller : Caller)
  | resume (caller : Caller) (seed : Seed) (order : List (Bytes × Bytes))
  | save (caller : Caller)
  | reject (caller : Caller)

section Opening

variable {Caller Keypair Operation Seed : Type} [DecidableEq Caller]

/-- Every call is about to load. -/
def World.start (stored : Option Bytes) : World Caller Keypair where
  stored := stored
  progress := fun _ => .called

/-- A call has come further. -/
def World.move
    (world : World Caller Keypair) (caller : Caller)
    (reached : Progress Keypair) : World Caller Keypair :=
  { world with progress := Function.update world.progress caller reached }

variable (mls : StoredMls Keypair Operation Seed) (id : CodeUnits)

/-- `open`, from the load to the save or to the end. -/
def resume
    (blob : Option Bytes) (seed : Seed) (order : List (Bytes × Bytes)) :
    Progress Keypair :=
  match openClient mls id blob seed order with
  | .error _ => .failed
  | .ok (client, written) =>
      match blob with
      | none => .saving client written
      | some _ => .opened client

/-- The calls of `open` with one id on one adapter. -/
def machine : Machine (World Caller Keypair) (Event Caller Seed) where
  step world
    | .load caller =>
        match world.progress caller with
        | .called => some (world.move caller (.loaded world.stored))
        | _ => none
    | .resume caller seed order =>
        match world.progress caller with
        | .loaded blob =>
            if FreshOrder mls id seed order then
              some (world.move caller (resume mls id blob seed order))
            else
              none
        | _ => none
    | .save caller =>
        match world.progress caller with
        | .saving client blob =>
            some { world.move caller (.opened client) with stored := blob }
        | _ => none
    | .reject caller =>
        match world.progress caller with
        | .called => some (world.move caller .failed)
        | .saving _ _ => some (world.move caller .failed)
        | _ => none

end Opening

/-! ## Identities -/

section Identity

variable {Keypair Operation Seed : Type}
  {mls : StoredMls Keypair Operation Seed}

/-- The key pair of the identity in a snapshot. -/
def identityIn (mls : StoredMls Keypair Operation Seed) (blob : Bytes) :
    Except Thrown Keypair := do
  let envelope ← readEnvelope blob
  mls.deserializeKeypair envelope.identity

theorem identityIn_of_snapshotOf
    {client : Client Keypair} {order : List (Bytes × Bytes)}
    {blob : Bytes} (saved : snapshotOf mls client order = .ok blob) :
    identityIn mls blob = .ok client.keypair := by
  rw [identityIn, readEnvelope_of_snapshotOf saved, ok_bind]
  exact mls.deserialize_serialize client.keypair

/-- A restored client has the identity of the snapshot. -/
theorem identityIn_of_restore
    {id : CodeUnits} {blob : Bytes} {client : Client Keypair}
    (restored : restore mls id blob = .ok client) :
    identityIn mls blob = .ok client.keypair := by
  unfold restore at restored
  rcases bind_eq_ok restored with ⟨envelope, read, rest⟩
  rcases bind_eq_ok rest with ⟨values, -, rest⟩
  rcases bind_eq_ok rest with ⟨keypair, identity, rest⟩
  rcases bind_eq_ok rest with ⟨groups, -, rest⟩
  cases rest
  rw [identityIn, read, ok_bind]
  exact identity

/-- What `open` returns has the identity of what it read or wrote. -/
theorem identityIn_of_openClient
    {id : CodeUnits} {stored : Option Bytes} {seed : Seed}
    {order : List (Bytes × Bytes)} {client : Client Keypair}
    {written : Bytes}
    (opened : openClient mls id stored seed order = .ok (client, written)) :
    identityIn mls written = .ok client.keypair ∧
      ∀ blob, stored = some blob → written = blob := by
  unfold openClient at opened
  rcases bind_eq_ok opened with ⟨fresh, -, opened⟩
  cases stored with
  | none =>
      rcases bind_eq_ok opened with ⟨blob, saved, rest⟩
      cases rest
      refine ⟨identityIn_of_snapshotOf saved, ?_⟩
      intro other impossible
      cases impossible
  | some blob =>
      rcases bind_eq_ok opened with ⟨restored, read, rest⟩
      cases rest
      refine ⟨identityIn_of_restore read, ?_⟩
      intro other same
      cases same
      rfl

end Identity

/-! ## Careful runs -/

section Careful

variable {Caller Keypair Operation Seed : Type}

/-- A call that found nothing and has not saved yet. -/
def Progress.creating : Progress Keypair → Bool
  | .loaded none => true
  | .saving _ _ => true
  | _ => false

/-- No call loads while another one is making an identity. -/
def Careful (world : World Caller Keypair) : Event Caller Seed → Prop
  | .load _ => ∀ other, (world.progress other).creating = false
  | _ => True

/-- What a call relies on, and what is stored. -/
def Consistent
    (mls : StoredMls Keypair Operation Seed) (stored : Option Bytes) :
    Progress Keypair → Prop
  | .called => True
  | .loaded blob => stored = blob
  | .saving client blob =>
      stored = none ∧ identityIn mls blob = .ok client.keypair
  | .opened client =>
      ∃ blob,
        stored = some blob ∧ identityIn mls blob = .ok client.keypair
  | .failed => True

/-- What careful runs keep. -/
structure Sound
    (mls : StoredMls Keypair Operation Seed)
    (world : World Caller Keypair) : Prop where
  consistent : ∀ caller, Consistent mls world.stored (world.progress caller)
  /-- One call at a time makes an identity. -/
  single :
    ∀ first second,
      (world.progress first).creating = true →
        (world.progress second).creating = true → first = second

variable {mls : StoredMls Keypair Operation Seed}

theorem Sound.start (stored : Option Bytes) :
    Sound mls (World.start stored : World Caller Keypair) where
  consistent _ := trivial
  single _ _ impossible := by cases impossible

variable {world : World Caller Keypair}

/-- A call that makes an identity is the only one. -/
theorem Sound.alone
    (sound : Sound mls world) {caller : Caller}
    (creating : (world.progress caller).creating = true) :
    ∀ other, other ≠ caller → (world.progress other).creating = false := by
  intro other different
  apply Bool.eq_false_iff.mpr
  intro also
  exact different (sound.single other caller also creating)

variable [DecidableEq Caller]

/-- A call comes further, and the others stay where they are. -/
theorem Sound.move
    {stored : Option Bytes} (sound : Sound mls world) (caller : Caller)
    (reached : Progress Keypair) (consistent : Consistent mls stored reached)
    (others :
      ∀ other,
        other ≠ caller → Consistent mls stored (world.progress other))
    (alone :
      reached.creating = true →
        ∀ other,
          other ≠ caller → (world.progress other).creating = false) :
    Sound mls { world.move caller reached with stored } := by
  have here : (world.move caller reached).progress caller = reached :=
    Function.update_self _ _ _
  have elsewhere {other : Caller} (different : other ≠ caller) :
      (world.move caller reached).progress other =
        world.progress other :=
    Function.update_of_ne different _ _
  constructor
  · intro other
    by_cases same : other = caller
    · rw [same]
      change Consistent mls stored
        ((world.move caller reached).progress caller)
      rw [here]
      exact consistent
    · change Consistent mls stored
        ((world.move caller reached).progress other)
      rw [elsewhere same]
      exact others other same
  · intro first second firstCreating secondCreating
    change
      ((world.move caller reached).progress first).creating = true
        at firstCreating
    change
      ((world.move caller reached).progress second).creating = true
        at secondCreating
    by_cases firstHere : first = caller
    · by_cases secondHere : second = caller
      · rw [firstHere, secondHere]
      · rw [firstHere, here] at firstCreating
        rw [elsewhere secondHere,
          alone firstCreating second secondHere] at secondCreating
        cases secondCreating
    · by_cases secondHere : second = caller
      · rw [secondHere, here] at secondCreating
        rw [elsewhere firstHere,
          alone secondCreating first firstHere] at firstCreating
        cases firstCreating
      · rw [elsewhere firstHere] at firstCreating
        rw [elsewhere secondHere] at secondCreating
        exact sound.single first second firstCreating secondCreating

/-- Without a save, only the call itself has to be looked at. -/
theorem Sound.advance
    (sound : Sound mls world) (caller : Caller) (reached : Progress Keypair)
    (consistent : Consistent mls world.stored reached)
    (alone :
      reached.creating = true →
        ∀ other,
          other ≠ caller → (world.progress other).creating = false) :
    Sound mls (world.move caller reached) :=
  sound.move caller reached consistent
    (fun other _ => sound.consistent other) alone

/-- Between the load and the save. -/
theorem Sound.resume
    (sound : Sound mls world) {caller : Caller} {blob : Option Bytes}
    (loaded : world.progress caller = .loaded blob)
    (id : CodeUnits) (seed : Seed) (order : List (Bytes × Bytes)) :
    Sound mls
      (world.move caller (resume mls id blob seed order)) := by
  have found : world.stored = blob := by
    have consistent := sound.consistent caller
    rw [loaded] at consistent
    exact consistent
  unfold ConcurrentOpen.resume
  cases result : openClient mls id blob seed order with
  | error thrown =>
      apply sound.advance
      · exact trivial
      · intro impossible
        cases impossible
  | ok opened =>
      rcases opened with ⟨client, written⟩
      rcases identityIn_of_openClient result with ⟨identity, unchanged⟩
      cases blob with
      | none =>
          apply sound.advance
          · exact ⟨found, identity⟩
          · intro _
            apply sound.alone
            rw [loaded]
            rfl
      | some blob =>
          apply sound.advance
          · rw [unchanged blob rfl] at identity
            exact ⟨blob, found, identity⟩
          · intro impossible
            cases impossible

/-- The save: every other call has yet to load, or has failed. -/
theorem Sound.save
    (sound : Sound mls world)
    {caller : Caller} {client : Client Keypair} {blob : Bytes}
    (saving : world.progress caller = .saving client blob) :
    Sound mls
      { world.move caller (.opened client) with stored := some blob } := by
  have consistent := sound.consistent caller
  rw [saving] at consistent
  rcases consistent with ⟨empty, identity⟩
  have creating : (world.progress caller).creating = true := by
    rw [saving]
    rfl
  apply sound.move
  · exact ⟨blob, rfl, identity⟩
  · intro other different
    have idle := sound.alone creating other different
    have relied := sound.consistent other
    cases reached : world.progress other with
    | called => exact trivial
    | loaded found =>
        rw [reached, empty] at relied
        cases relied
        rw [reached] at idle
        cases idle
    | saving otherClient otherBlob =>
        rw [reached] at idle
        cases idle
    | opened otherClient =>
        rw [reached, empty] at relied
        rcases relied with ⟨otherBlob, impossible, -⟩
        cases impossible
    | failed => exact trivial
  · intro impossible
    cases impossible

theorem Sound.step
    {world next : World Caller Keypair} (sound : Sound mls world)
    {id : CodeUnits} {event : Event Caller Seed}
    (careful : Careful world event)
    (taken : (machine mls id).step world event = some next) :
    Sound mls next := by
  cases event with
  | load caller =>
      simp only [machine] at taken
      split at taken
      · cases taken
        apply sound.advance
        · exact rfl
        · exact fun _ other _ => careful other
      · cases taken
  | resume caller seed order =>
      simp only [machine] at taken
      split at taken
      · next blob loaded =>
        split at taken
        · cases taken
          exact sound.resume loaded id seed order
        · cases taken
      · cases taken
  | save caller =>
      simp only [machine] at taken
      split at taken
      · next client blob saving =>
        cases taken
        exact sound.save saving
      · cases taken
  | reject caller =>
      have failed : Sound mls (world.move caller .failed) := by
        apply sound.advance
        · exact trivial
        · intro impossible
          cases impossible
      simp only [machine] at taken
      split at taken
      · cases taken
        exact failed
      · cases taken
        exact failed
      · cases taken

end Careful

/--
In every run in which no call loads while another one is making an identity,
all clients that were opened have the same key, and it is the one in the
stored snapshot.
-/
theorem careful_opens_agree
    {Caller Keypair Operation Seed : Type} [DecidableEq Caller]
    (mls : StoredMls Keypair Operation Seed) (id : CodeUnits)
    (initial : Option Bytes) (world : World Caller Keypair)
    (reached : Reaches (machine mls id) Careful (World.start initial) world)
    (first second : Caller) (firstClient secondClient : Client Keypair)
    (firstOpened : world.progress first = .opened firstClient)
    (secondOpened : world.progress second = .opened secondClient) :
    mls.publicKey firstClient.keypair =
        mls.publicKey secondClient.keypair ∧
      ∃ blob keypair,
        world.stored = some blob ∧ identityIn mls blob = .ok keypair ∧
          mls.publicKey keypair = mls.publicKey firstClient.keypair := by
  have sound : Sound mls world := by
    apply Reaches.invariant (Sound.start initial) _ reached
    intro source event target before careful taken
    exact before.step careful taken
  have firstStored := sound.consistent first
  have secondStored := sound.consistent second
  rw [firstOpened] at firstStored
  rw [secondOpened] at secondStored
  rcases firstStored with ⟨blob, stored, identity⟩
  rcases secondStored with ⟨other, otherStored, otherIdentity⟩
  have sameBlob : other = blob :=
    Option.some.inj (otherStored.symm.trans stored)
  rw [sameBlob, identity] at otherIdentity
  have samePair : firstClient.keypair = secondClient.keypair :=
    Except.ok.inj otherIdentity
  exact ⟨by rw [samePair], blob, _, stored, identity, rfl⟩

/-! ## Two calls -/

/-- The key pair of an opened client. -/
def Progress.keypair {Keypair : Type} : Progress Keypair → Option Keypair
  | .opened client => some client.keypair
  | _ => none

theorem exists_opened_of_keypair
    {Keypair : Type} {progress : Progress Keypair} {keypair : Keypair}
    (found : progress.keypair = some keypair) :
    ∃ client, progress = .opened client ∧ client.keypair = keypair := by
  cases progress with
  | opened client => exact ⟨client, rfl, Option.some.inj found⟩
  | called => cases found
  | loaded blob => cases found
  | saving client blob => cases found
  | failed => cases found

/-- `Careful`, checked for two calls. -/
def carefulPair
    (world : World Bool UInt8) : Event Bool UInt8 → Bool
  | .load _ =>
      !(world.progress true).creating && !(world.progress false).creating
  | _ => true

theorem careful_of_carefulPair
    (world : World Bool UInt8) (event : Event Bool UInt8)
    (checked : carefulPair world event = true) : Careful world event := by
  cases event with
  | load caller =>
      simp only [carefulPair, Bool.and_eq_true, Bool.not_eq_true']
        at checked
      intro other
      cases other with
      | true => exact checked.1
      | false => exact checked.2
  | resume caller seed order => exact trivial
  | save caller => exact trivial
  | reject caller => exact trivial

/-- The records of a storage that holds one key pair. -/
def keyRecord (keypair : UInt8) : List (Bytes × Bytes) :=
  [([0, keypair], [keypair])]

/-- One call behind the other. -/
def inTurn : List (Event Bool UInt8) :=
  [.load true, .resume true 7 (keyRecord 7), .save true,
    .load false, .resume false 8 (keyRecord 8)]

/-- The second call finds the identity of the first one. -/
theorem careful_opens_agree_in_turn :
    ∃ (world : World Bool UInt8) (first second : Client UInt8),
      Reaches (machine recordMls (literal "ann")) Careful
          (World.start none) world ∧
        world.progress true = .opened first ∧
        world.progress false = .opened second ∧
        recordMls.publicKey first.keypair =
          recordMls.publicKey second.keypair := by
  have keys :
      (((machine recordMls (literal "ann")).restrict carefulPair).run
          (World.start none) inTurn).map
          (fun world =>
            ((world.progress true).keypair, (world.progress false).keypair)) =
        some (some 7, some 7) := by
    decide +kernel
  rcases Option.map_eq_some_iff.mp keys with ⟨world, ran, found⟩
  have reached := reaches_of_run careful_of_carefulPair ran
  rcases exists_opened_of_keypair (congrArg Prod.fst found) with
    ⟨first, firstOpened, -⟩
  rcases exists_opened_of_keypair (congrArg Prod.snd found) with
    ⟨second, secondOpened, -⟩
  have agree :=
    careful_opens_agree recordMls (literal "ann") none world reached true
      false first second firstOpened secondOpened
  exact ⟨world, first, second, reached, firstOpened, secondOpened, agree.1⟩

/-- Both calls load before one of them saves. -/
def overlapping : List (Event Bool UInt8) :=
  [.load true, .load false, .resume true 7 (keyRecord 7),
    .resume false 8 (keyRecord 8), .save true, .save false]

/--
Two calls that overlap return clients with different keys, and the snapshot
of the first one is overwritten.
-/
theorem overlapping_opens_disagree :
    ∃ (world : World Bool UInt8) (first second : Client UInt8),
      Reaches (machine recordMls (literal "ann")) anyStep
          (World.start none) world ∧
        world.progress true = .opened first ∧
        world.progress false = .opened second ∧
        recordMls.publicKey first.keypair ≠
          recordMls.publicKey second.keypair ∧
        (world.stored.map fun blob =>
          (identityIn recordMls blob).toOption) =
            some (some second.keypair) := by
  have keys :
      (((machine recordMls (literal "ann")).restrict fun _ _ => true).run
          (World.start none) overlapping).map
          (fun world =>
            ((world.progress true).keypair,
              (world.progress false).keypair,
              world.stored.map fun blob =>
                (identityIn recordMls blob).toOption)) =
        some (some 7, some 8, some (some 8)) := by
    decide +kernel
  rcases Option.map_eq_some_iff.mp keys with ⟨world, ran, found⟩
  simp only [Prod.mk.injEq] at found
  rcases found with ⟨firstKey, secondKey, storedKey⟩
  rcases exists_opened_of_keypair firstKey with
    ⟨first, firstOpened, firstIs⟩
  rcases exists_opened_of_keypair secondKey with
    ⟨second, secondOpened, secondIs⟩
  refine
    ⟨world, first, second, reaches_of_run (fun _ _ _ => trivial) ran,
      firstOpened, secondOpened, ?_, ?_⟩
  · rw [firstIs, secondIs]
    decide
  · rw [secondIs]
    exact storedKey

end Mls4rn.Core.ConcurrentOpen
