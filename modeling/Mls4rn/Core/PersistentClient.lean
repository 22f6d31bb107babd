import Mls4rn.Core.ProviderSnapshot
import Mls4rn.Core.SnapshotEnvelope
import Mls4rn.Lib.Execution

/-!
# A client that outlives its process

A persistent client keeps a provider storage, an identity and a map from group
ids, as the application names them, to group handles.  Its snapshot holds the
storage, the key pair and the keys of the map.  Opening the client again loads
one group for every such key, under the identifier that the key spells.

What OpenMLS and the key-pair codec do to the storage is a parameter.  Its
laws are that created and joined groups are stored under their own identifier,
that no operation removes a stored group, and that lookups do not depend on the
order of the records.

A handle is recorded as the identifier of its MLS group.  `createGroup` enters
a handle under the label that spells this identifier, `joinGroup` under any
label it is given.  The main result says when a saved client comes back.
-/

namespace Mls4rn.Core.PersistentClient

open Mls4rn.Lib
open Mls4rn.Lib.ByteString
open Mls4rn.Lib.Throwing
open Mls4rn.Lib.Utf16
open Mls4rn.Lib.Execution
open Mls4rn.Core.MlsGroup (Thrown)
open Mls4rn.Core.ProviderSnapshot
open Mls4rn.Core.SnapshotEnvelope

/-! ## The storage as OpenMLS uses it -/

/-- The computation removes no stored group, whether it throws or not. -/
def KeepsGroups
    {Value : Type} (holdsGroup : Values → Bytes → Bool)
    (action : Throwing Values Thrown Value) : Prop :=
  ∀ values groupId,
    holdsGroup values groupId = true →
      holdsGroup (action values).2 groupId = true

/-- What the client uses of OpenMLS, as far as the storage is concerned. -/
structure StoredMls (Keypair Operation Seed : Type) where
  newKeypair : Seed → Except Thrown Keypair
  publicKey : Keypair → Bytes
  storeKeypair : Keypair → Values → Except Thrown Values
  serializeKeypair : Keypair → Bytes
  deserializeKeypair : Bytes → Except Thrown Keypair
  buildKeyPackage :
    (credential : Bytes) → Keypair → Seed → Throwing Values Thrown Bytes
  buildGroup :
    (credential : Bytes) → Keypair → (groupId : Bytes) → Seed →
      Throwing Values Thrown Unit
  join : (welcome ratchetTree : Bytes) → Throwing Values Thrown Bytes
  operate :
    Keypair → (groupId : Bytes) → Operation → Throwing Values Thrown Unit
  holdsGroup : Values → Bytes → Bool
  deserialize_serialize :
    ∀ keypair, deserializeKeypair (serializeKeypair keypair) = .ok keypair
  holdsGroup_perm :
    ∀ {first second : Values}, first.entries.Perm second.entries →
      ∀ groupId, holdsGroup first groupId = holdsGroup second groupId
  buildKeyPackage_keeps :
    ∀ credential keypair seed,
      KeepsGroups holdsGroup (buildKeyPackage credential keypair seed)
  buildGroup_keeps :
    ∀ credential keypair groupId seed,
      KeepsGroups holdsGroup (buildGroup credential keypair groupId seed)
  join_keeps :
    ∀ welcome ratchetTree,
      KeepsGroups holdsGroup (join welcome ratchetTree)
  operate_keeps :
    ∀ keypair groupId operation,
      KeepsGroups holdsGroup (operate keypair groupId operation)
  buildGroup_stores :
    ∀ {credential keypair groupId seed values reached},
      buildGroup credential keypair groupId seed values =
          (.ok (), reached) →
        holdsGroup reached groupId = true
  join_stores :
    ∀ {welcome ratchetTree values groupId reached},
      join welcome ratchetTree values = (.ok groupId, reached) →
        holdsGroup reached groupId = true

/-! ## The client -/

/-- `MlsClient`; a group handle is the identifier of its MLS group. -/
structure Client (Keypair : Type) where
  id : CodeUnits
  credential : Bytes
  keypair : Keypair
  values : Values
  groups : InsertionMap CodeUnits Bytes

section Client

variable {Keypair Operation Seed : Type}
variable (mls : StoredMls Keypair Operation Seed)

/-- The constructor. -/
def Client.new (id : CodeUnits) (seed : Seed) :
    Except Thrown (Client Keypair) := do
  let keypair ← mls.newKeypair seed
  let values ← mls.storeKeypair keypair Values.empty
  let credential := Utf8.encode id
  return { id, credential, keypair, values, groups := InsertionMap.empty }

/-- An order in which the storage behind the constructor can be listed. -/
def FreshOrder
    (id : CodeUnits) (seed : Seed) (order : List (Bytes × Bytes)) : Prop :=
  ∀ fresh,
    Client.new mls id seed = .ok fresh → order.Perm fresh.values.entries

instance (id : CodeUnits) (seed : Seed) (order : List (Bytes × Bytes)) :
    Decidable (FreshOrder mls id seed order) :=
  match constructed : Client.new mls id seed with
  | .error _ =>
      .isTrue fun _ returned => Except.noConfusion rfl rfl
        (heq_of_eq (constructed.symm.trans returned))
  | .ok fresh =>
      decidable_of_iff (order.Perm fresh.values.entries)
        ⟨fun listed _ returned =>
          Except.ok.inj (constructed.symm.trans returned) ▸ listed,
        fun fits => fits fresh constructed⟩

/-- Run a computation on the provider storage of the client. -/
def onValues {Value : Type} (action : Throwing Values Thrown Value) :
    Throwing (Client Keypair) Thrown Value :=
  zoom Client.values
    (fun values client => { client with values := values }) id action

/-- `this.#groups.set`. -/
def enter (groupId : CodeUnits) (handle : Bytes) :
    Throwing (Client Keypair) Thrown Unit :=
  Throwing.update fun client =>
    { client with groups := client.groups.set groupId handle }

/-- `keyPackage`. -/
def keyPackage (seed : Seed) : Throwing (Client Keypair) Thrown Bytes := do
  let client ← Throwing.read
  onValues (mls.buildKeyPackage client.credential client.keypair seed)

/-- `createGroup`. -/
def createGroup (groupId : CodeUnits) (seed : Seed) :
    Throwing (Client Keypair) Thrown Bytes := do
  let client ← Throwing.read
  onValues
    (mls.buildGroup client.credential client.keypair
      (Utf8.encode groupId) seed)
  enter groupId (Utf8.encode groupId)
  return Utf8.encode groupId

/-- `joinGroup`; without a group id the handle is not entered. -/
def joinGroup (welcome ratchetTree : Bytes) (groupId : Option CodeUnits) :
    Throwing (Client Keypair) Thrown Bytes := do
  let handle ← onValues (mls.join welcome ratchetTree)
  match groupId with
  | none => return handle
  | some groupId => do
      enter groupId handle
      return handle

/-- An operation of the `Group` behind a handle. -/
def operate (handle : Bytes) (operation : Operation) :
    Throwing (Client Keypair) Thrown Unit := do
  let client ← Throwing.read
  onValues (mls.operate client.keypair handle operation)

/-! ## Snapshots -/

/--
The parts of a snapshot that fit in the memory of the target and in the sizes
its engine allows.
-/
def Fits (identity provider : Bytes) (groupIds : List CodeUnits) : Prop :=
  identity.length < 2 ^ 32 ∧ provider.length < 2 ^ 32 ∧
    groupIds.length < 2 ^ 32 ∧
      ∀ groupId ∈ groupIds, (Utf8.encode groupId).length < 2 ^ 32

instance (identity provider : Bytes) (groupIds : List CodeUnits) :
    Decidable (Fits identity provider groupIds) :=
  inferInstanceAs (Decidable (_ ∧ _ ∧ _ ∧ _))

/--
The bytes that `#writeSnapshot` saves, for the order in which the storage
yields its records.
-/
def snapshotOf (client : Client Keypair) (order : List (Bytes × Bytes)) :
    Except Thrown Bytes :=
  if Fits (mls.serializeKeypair client.keypair) (snapshotSerialize order)
      client.groups.keys then
    .ok
      (encodeEnvelope (mls.serializeKeypair client.keypair)
        (snapshotSerialize order) client.groups.keys)
  else
    .error .trap

/-- The error of `Group::load` for an identifier that is not stored. -/
def groupNotFound : Thrown :=
  .jsError (literal "group not found in storage")

/-- The loop of `open` over the group ids of the envelope. -/
def loadGroups (values : Values) :
    List CodeUnits → InsertionMap CodeUnits Bytes →
      Except Thrown (InsertionMap CodeUnits Bytes)
  | [], groups => .ok groups
  | groupId :: groupIds, groups =>
      if mls.holdsGroup values (Utf8.encode groupId) then
        loadGroups values groupIds (groups.set groupId (Utf8.encode groupId))
      else
        .error groupNotFound

/-- An error of the envelope is a thrown `Error`. -/
def readEnvelope (blob : Bytes) : Except Thrown Envelope :=
  (decodeEnvelope blob).mapError fun error =>
    .jsError (literal error.message)

/-- The part of `open` that rebuilds a client from a snapshot. -/
def restore (id : CodeUnits) (blob : Bytes) :
    Except Thrown (Client Keypair) := do
  let envelope ← readEnvelope blob
  let values ← snapshotDeserialize envelope.provider
  let keypair ← mls.deserializeKeypair envelope.identity
  let groups ← loadGroups mls values envelope.groupIds InsertionMap.empty
  return { id, credential := Utf8.encode id, keypair, values, groups }

/--
`open` on an adapter whose operations are not interrupted: the client and the
content of the adapter.  The client of the constructor is discarded if there
is a snapshot.
-/
def openClient
    (id : CodeUnits) (stored : Option Bytes) (seed : Seed)
    (order : List (Bytes × Bytes)) :
    Except Thrown (Client Keypair × Bytes) := do
  let fresh ← Client.new mls id seed
  match stored with
  | none =>
      let blob ← snapshotOf mls fresh order
      return (fresh, blob)
  | some blob =>
      let client ← restore mls id blob
      return (client, blob)

/-! ## What a snapshot brings back -/

/-- A group id as the envelope gives it back. -/
def respelled (groupId : CodeUnits) : CodeUnits :=
  Utf8.decode (Utf8.encode groupId)

/-- The client that a snapshot of `client` is read as. -/
def reread
    (id : CodeUnits) (client : Client Keypair)
    (iteration : Iteration client.values) : Client Keypair where
  id := id
  credential := Utf8.encode id
  keypair := client.keypair
  values := client.values.iterated iteration
  groups :=
    InsertionMap.empty.setAll
      ((client.groups.keys.map respelled).map fun groupId =>
        (groupId, Utf8.encode groupId))

/-- Every group is loaded, or one of them is not stored. -/
theorem loadGroups_eq
    (values : Values) (groupIds : List CodeUnits)
    (groups : InsertionMap CodeUnits Bytes) :
    loadGroups mls values groupIds groups =
      if ∀ groupId ∈ groupIds,
          mls.holdsGroup values (Utf8.encode groupId) = true then
        .ok
          (groups.setAll
            (groupIds.map fun groupId => (groupId, Utf8.encode groupId)))
      else
        .error groupNotFound := by
  induction groupIds generalizing groups with
  | nil => simp [loadGroups, InsertionMap.setAll]
  | cons groupId groupIds induction =>
      by_cases held : mls.holdsGroup values (Utf8.encode groupId) = true
      · rw [loadGroups, if_pos held, induction]
        simp [held, InsertionMap.setAll]
      · rw [loadGroups, if_neg held]
        simp [held]

variable {mls}

variable {blob : Bytes}

theorem fits_of_snapshotOf
    {client : Client Keypair} {order : List (Bytes × Bytes)}
    (saved : snapshotOf mls client order = .ok blob) :
    Fits (mls.serializeKeypair client.keypair) (snapshotSerialize order)
        client.groups.keys ∧
      blob =
        encodeEnvelope (mls.serializeKeypair client.keypair)
          (snapshotSerialize order) client.groups.keys := by
  unfold snapshotOf at saved
  split at saved
  · next fits =>
    cases saved
    exact ⟨fits, rfl⟩
  · cases saved

/-- The parts of a snapshot are read back as they were written. -/
theorem readEnvelope_of_snapshotOf
    {client : Client Keypair} {order : List (Bytes × Bytes)}
    (saved : snapshotOf mls client order = .ok blob) :
    readEnvelope blob =
      .ok
        { identity := mls.serializeKeypair client.keypair
          provider := snapshotSerialize order
          groupIds := client.groups.keys.map respelled } := by
  rcases fits_of_snapshotOf saved with ⟨fits, rfl⟩
  rcases fits with ⟨identitySmall, providerSmall, countSmall, labelsSmall⟩
  rw [readEnvelope,
    decodeEnvelope_encodeEnvelope _ _ _ identitySmall providerSmall
      countSmall labelsSmall]
  rfl

/-- The storage is read back up to the order of its records. -/
theorem holdsGroup_iterated
    {values : Values} (iteration : Iteration values) (groupId : Bytes) :
    mls.holdsGroup (values.iterated iteration) groupId =
      mls.holdsGroup values groupId := by
  apply mls.holdsGroup_perm
  exact iteration.property

/-- The snapshot of a client is read back, up to the spelling of its labels. -/
theorem restore_of_snapshotOf
    (id : CodeUnits) {client : Client Keypair}
    (iteration : Iteration client.values)
    (saved : snapshotOf mls client iteration.val = .ok blob) :
    restore mls id blob =
      if ∀ groupId ∈ client.groups.keys.map respelled,
          mls.holdsGroup client.values (Utf8.encode groupId) = true then
        .ok (reread id client iteration)
      else
        .error groupNotFound := by
  have envelope := readEnvelope_of_snapshotOf saved
  have providerSmall := (fits_of_snapshotOf saved).1.2.1
  have values :
      snapshotDeserialize (snapshotSerialize iteration.val) =
        .ok (client.values.iterated iteration) :=
    snapshotDeserializeIn_snapshotSerialize .release iteration providerSmall
  rw [restore, envelope, ok_bind, values, ok_bind,
    mls.deserialize_serialize, ok_bind, loadGroups_eq]
  simp only [holdsGroup_iterated]
  split
  · rfl
  · rfl

/-- `open` where a snapshot is stored. -/
theorem openClient_some
    (id : CodeUnits) (blob : Bytes) {seed : Seed} {fresh : Client Keypair}
    (constructed : Client.new mls id seed = .ok fresh)
    (order : List (Bytes × Bytes)) :
    openClient mls id (some blob) seed order =
      (restore mls id blob).map fun client => (client, blob) := by
  simp only [openClient, constructed, ok_bind]
  cases restore mls id blob with
  | error thrown => rfl
  | ok client => rfl

/-- One label that spells no stored group keeps the client closed. -/
theorem openClient_of_missing
    (id : CodeUnits) (client : Client Keypair)
    (iteration : Iteration client.values)
    (saved : snapshotOf mls client iteration.val = .ok blob)
    {label : CodeUnits} (member : label ∈ client.groups.keys)
    (missing :
      mls.holdsGroup client.values (Utf8.encode (respelled label)) = false)
    {seed : Seed} {fresh : Client Keypair}
    (constructed : Client.new mls id seed = .ok fresh)
    (freshOrder : List (Bytes × Bytes)) :
    openClient mls id (some blob) seed freshOrder =
      .error groupNotFound := by
  rw [openClient_some id blob constructed,
    restore_of_snapshotOf id iteration saved, if_neg]
  · rfl
  · intro held
    have stored := held _ (List.mem_map.mpr ⟨label, member, rfl⟩)
    rw [missing] at stored
    cases stored

theorem get_reread_eq_some_iff
    (id : CodeUnits) (client : Client Keypair)
    (iteration : Iteration client.values) (groupId : CodeUnits)
    (handle : Bytes) :
    (reread id client iteration).groups.get groupId = some handle ↔
      (∃ label ∈ client.groups.keys, respelled label = groupId) ∧
        Utf8.encode groupId = handle := by
  rw [reread, InsertionMap.get_setAll_map]
  split
  · next member =>
    rw [List.mem_map] at member
    simp [member]
  · next absent =>
    rw [List.mem_map] at absent
    simp [absent]

/-! ## Clients that come back -/

/-- The reopened client has the identity and the groups of the old one. -/
structure Resumes
    (mls : StoredMls Keypair Operation Seed)
    (old reopened : Client Keypair) : Prop where
  credential : reopened.credential = old.credential
  signatureKey : mls.publicKey reopened.keypair = mls.publicKey old.keypair
  groups :
    ∀ groupId handle,
      old.groups.get groupId = some handle →
        reopened.groups.get groupId = some handle

/--
Every label is well formed, does not start with U+FEFF and spells the
identifier of the group behind it.
-/
def Reloadable (client : Client Keypair) : Prop :=
  ∀ groupId handle,
    client.groups.get groupId = some handle →
      isWellFormed groupId = true ∧
        Utf8.startsWithByteOrderMark groupId = false ∧
          Utf8.encode groupId = handle

instance (client : Client Keypair) : Decidable (Reloadable client) :=
  decidable_of_iff
    (∀ entry ∈ client.groups.entries,
      isWellFormed entry.1 = true ∧
        Utf8.startsWithByteOrderMark entry.1 = false ∧
          Utf8.encode entry.1 = entry.2)
    (by simp only [Reloadable, InsertionMap.get_eq_some_iff, Prod.forall])

/-- What holds of every client between two calls. -/
structure Standing
    (mls : StoredMls Keypair Operation Seed)
    (id : CodeUnits) (client : Client Keypair) : Prop where
  credential : client.credential = Utf8.encode id
  held :
    ∀ groupId handle,
      client.groups.get groupId = some handle →
        mls.holdsGroup client.values handle = true

/--
No label starts with U+FEFF when every label is found again: such a label
could only come from a longer one.
-/
theorem unmarked_of_respelled
    (labels : List CodeUnits)
    (covered :
      ∀ groupId ∈ labels, ∃ label ∈ labels, respelled label = groupId)
    {groupId : CodeUnits} (member : groupId ∈ labels) :
    Utf8.startsWithByteOrderMark groupId = false := by
  have wellFormed :
      ∀ label ∈ labels, isWellFormed label = true := by
    intro label inside
    rcases covered label inside with ⟨source, _, spelled⟩
    rw [← spelled]
    exact Utf8.isWellFormed_decode _
  have longer :
      ∀ label ∈ labels,
        Utf8.startsWithByteOrderMark label = true →
          ∃ source ∈ labels,
            Utf8.startsWithByteOrderMark source = true ∧
              label.length < source.length := by
    intro label inside marked
    rcases covered label inside with ⟨source, sourceInside, spelled⟩
    rw [respelled,
      Utf8.decode_encode_of_isWellFormed source
        (wellFormed source sourceInside)] at spelled
    by_cases sourceMarked : Utf8.startsWithByteOrderMark source = true
    · rw [if_pos sourceMarked] at spelled
      refine ⟨source, sourceInside, sourceMarked, ?_⟩
      cases source with
      | nil => cases sourceMarked
      | cons unit rest =>
          rw [← spelled]
          exact Nat.lt_succ_self _
    · rw [if_neg sourceMarked] at spelled
      rw [spelled] at sourceMarked
      exact absurd marked sourceMarked
  by_contra marked
  rw [Bool.not_eq_false] at marked
  have unbounded :
      ∀ bound, ∃ label ∈ labels,
        Utf8.startsWithByteOrderMark label = true ∧
          bound ≤ label.length := by
    intro bound
    induction bound with
    | zero => exact ⟨groupId, member, marked, Nat.zero_le _⟩
    | succ bound induction =>
        rcases induction with ⟨label, inside, labelMarked, reaches⟩
        rcases longer label inside labelMarked with
          ⟨source, sourceInside, sourceMarked, less⟩
        exact ⟨source, sourceInside, sourceMarked, by omega⟩
  rcases unbounded ((labels.map List.length).sum + 1) with
    ⟨label, inside, _, reaches⟩
  have bounded : label.length ≤ (labels.map List.length).sum :=
    List.le_sum_of_mem (List.mem_map.mpr ⟨label, inside, rfl⟩)
  omega

/-- A saved client comes back exactly if it is reloadable. -/
theorem restore_resumes_iff
    {id : CodeUnits} {client : Client Keypair}
    (standing : Standing mls id client) (iteration : Iteration client.values)
    (saved : snapshotOf mls client iteration.val = .ok blob) :
    (∃ reopened,
        restore mls id blob = .ok reopened ∧ Resumes mls client reopened) ↔
      Reloadable client := by
  constructor
  · rintro ⟨reopened, restored, resumes⟩
    rw [restore_of_snapshotOf id iteration saved] at restored
    split at restored
    · cases restored
      have found :
          ∀ groupId handle,
            client.groups.get groupId = some handle →
              (∃ label ∈ client.groups.keys, respelled label = groupId) ∧
                Utf8.encode groupId = handle := by
        intro groupId handle present
        rw [← get_reread_eq_some_iff id client iteration]
        exact resumes.groups groupId handle present
      have covered :
          ∀ groupId ∈ client.groups.keys,
            ∃ label ∈ client.groups.keys, respelled label = groupId := by
        intro groupId member
        rcases (InsertionMap.mem_keys_iff _ _).mp member with
          ⟨handle, present⟩
        exact (found groupId handle present).1
      intro groupId handle present
      have member : groupId ∈ client.groups.keys :=
        (InsertionMap.mem_keys_iff _ _).mpr ⟨handle, present⟩
      rcases found groupId handle present with
        ⟨⟨label, _, spelled⟩, spells⟩
      refine ⟨?_, unmarked_of_respelled _ covered member, spells⟩
      rw [← spelled]
      exact Utf8.isWellFormed_decode _
    · cases restored
  · intro reloadable
    have unchanged :
        ∀ groupId ∈ client.groups.keys, respelled groupId = groupId := by
      intro groupId member
      rcases (InsertionMap.mem_keys_iff _ _).mp member with
        ⟨handle, present⟩
      rcases reloadable groupId handle present with
        ⟨wellFormed, unmarked, _⟩
      exact (Utf8.decode_encode_eq_iff groupId).mpr ⟨wellFormed, unmarked⟩
    refine ⟨reread id client iteration, ?_, ?_⟩
    · rw [restore_of_snapshotOf id iteration saved, if_pos]
      intro groupId member
      rcases List.mem_map.mp member with ⟨label, inside, rfl⟩
      rcases (InsertionMap.mem_keys_iff _ _).mp inside with
        ⟨handle, present⟩
      rw [unchanged label inside, (reloadable label handle present).2.2]
      exact standing.held label handle present
    · refine ⟨standing.credential.symm, rfl, ?_⟩
      intro groupId handle present
      have member : groupId ∈ client.groups.keys :=
        (InsertionMap.mem_keys_iff _ _).mpr ⟨handle, present⟩
      rw [get_reread_eq_some_iff]
      exact ⟨⟨groupId, member, unchanged groupId member⟩,
        (reloadable groupId handle present).2.2⟩

/-! ## Calls keep clients standing -/

theorem onValues_apply
    {Value : Type} (action : Throwing Values Thrown Value)
    (client : Client Keypair) :
    onValues action client =
      ((action client.values).1,
        { client with values := (action client.values).2 }) := by
  unfold onValues zoom
  rcases action client.values with ⟨result, values⟩
  cases result with
  | error error => rfl
  | ok value => rfl

section Standing

variable {id : CodeUnits} {client : Client Keypair}

theorem standing_new
    {seed : Seed} (constructed : Client.new mls id seed = .ok client) :
    Standing mls id client := by
  rcases bind_eq_ok constructed with ⟨keypair, _, stored⟩
  rcases bind_eq_ok stored with ⟨values, _, returned⟩
  cases returned
  refine ⟨rfl, ?_⟩
  intro groupId handle present
  cases present

theorem Standing.onValues
    {Value : Type} {action : Throwing Values Thrown Value}
    (standing : Standing mls id client)
    (keeps : KeepsGroups mls.holdsGroup action) :
    Standing mls id (onValues action client).2 := by
  rw [onValues_apply]
  refine ⟨standing.credential, ?_⟩
  intro groupId handle present
  exact keeps _ _ (standing.held groupId handle present)

theorem Standing.enter
    (standing : Standing mls id client)
    (groupId : CodeUnits) {handle : Bytes}
    (stored : mls.holdsGroup client.values handle = true) :
    Standing mls id
      { client with groups := client.groups.set groupId handle } := by
  refine ⟨standing.credential, ?_⟩
  intro label found present
  rw [InsertionMap.get_set] at present
  split at present
  · cases present
    exact stored
  · exact standing.held label found present

theorem Standing.keyPackage
    (standing : Standing mls id client) (seed : Seed) :
    Standing mls id (keyPackage mls seed client).2 :=
  standing.onValues (mls.buildKeyPackage_keeps _ _ seed)

theorem Standing.operate
    (standing : Standing mls id client)
    (handle : Bytes) (operation : Operation) :
    Standing mls id (operate mls handle operation client).2 :=
  standing.onValues (mls.operate_keeps _ handle operation)

/-- `createGroup`, by what building the group did. -/
theorem createGroup_apply
    (mls : StoredMls Keypair Operation Seed)
    (groupId : CodeUnits) (seed : Seed) (client : Client Keypair) :
    createGroup mls groupId seed client =
      match
        mls.buildGroup client.credential client.keypair
          (Utf8.encode groupId) seed client.values with
      | (.error error, values) =>
          (.error error, { client with values := values })
      | (.ok _, values) =>
          (.ok (Utf8.encode groupId),
            { client with
              values := values
              groups :=
                client.groups.set groupId (Utf8.encode groupId) }) := by
  unfold createGroup
  rw [read_bind, bind_apply, onValues_apply]
  rcases mls.buildGroup client.credential client.keypair
    (Utf8.encode groupId) seed client.values with ⟨result, values⟩
  cases result with
  | error error => rfl
  | ok value => rfl

/-- `joinGroup`, by what processing the welcome did. -/
theorem joinGroup_apply
    (mls : StoredMls Keypair Operation Seed)
    (welcome ratchetTree : Bytes) (groupId : Option CodeUnits)
    (client : Client Keypair) :
    joinGroup mls welcome ratchetTree groupId client =
      match mls.join welcome ratchetTree client.values with
      | (.error error, values) =>
          (.error error, { client with values := values })
      | (.ok handle, values) =>
          (.ok handle,
            { client with
              values := values
              groups :=
                match groupId with
                | none => client.groups
                | some groupId => client.groups.set groupId handle }) := by
  unfold joinGroup
  rw [bind_apply, onValues_apply]
  rcases mls.join welcome ratchetTree client.values with ⟨result, values⟩
  cases result with
  | error error => rfl
  | ok handle =>
      cases groupId with
      | none => rfl
      | some groupId => rfl

theorem Standing.createGroup
    (standing : Standing mls id client)
    (groupId : CodeUnits) (seed : Seed) :
    Standing mls id (createGroup mls groupId seed client).2 := by
  have kept :=
    standing.onValues
      (mls.buildGroup_keeps client.credential client.keypair
        (Utf8.encode groupId) seed)
  rw [onValues_apply] at kept
  rw [createGroup_apply]
  split
  · next failed =>
    rw [failed] at kept
    exact kept
  · next built =>
    rw [built] at kept
    exact kept.enter groupId (mls.buildGroup_stores built)

theorem Standing.joinGroup
    (standing : Standing mls id client)
    (welcome ratchetTree : Bytes) (groupId : Option CodeUnits) :
    Standing mls id
      (joinGroup mls welcome ratchetTree groupId client).2 := by
  have kept := standing.onValues (mls.join_keeps welcome ratchetTree)
  rw [onValues_apply] at kept
  rw [joinGroup_apply]
  split
  · next failed =>
    rw [failed] at kept
    exact kept
  · next joined =>
    rw [joined] at kept
    cases groupId with
    | none => exact kept
    | some groupId => exact kept.enter groupId (mls.join_stores joined)

/-- A client read from any snapshot at all is standing. -/
theorem standing_of_restore
    {blob : Bytes} (restored : restore mls id blob = .ok client) :
    Standing mls id client := by
  unfold restore at restored
  rcases bind_eq_ok restored with ⟨envelope, _, rebuilt⟩
  rcases bind_eq_ok rebuilt with ⟨values, _, identified⟩
  rcases bind_eq_ok identified with ⟨keypair, _, loading⟩
  rcases bind_eq_ok loading with ⟨groups, loaded, returned⟩
  cases returned
  refine ⟨rfl, ?_⟩
  intro groupId handle present
  rw [loadGroups_eq] at loaded
  split at loaded
  · next held =>
    cases loaded
    rw [InsertionMap.get_setAll_map] at present
    split at present
    · next member =>
      cases present
      exact held groupId member
    · cases present
  · cases loaded

end Standing

end Client

/-! ## Runs -/

/-- The content of the adapter and the client that is open on it. -/
structure Device (Keypair : Type) where
  stored : Option Bytes
  client : Option (Client Keypair)

/-- What the application does. -/
inductive Event (Operation Seed : Type) where
  | openClient (seed : Seed) (order : List (Bytes × Bytes))
  | keyPackage (seed : Seed)
  | createGroup (groupId : CodeUnits) (seed : Seed)
  | joinGroup (welcome ratchetTree : Bytes) (groupId : Option CodeUnits)
  | operate (handle : Bytes) (operation : Operation)
  | save (order : List (Bytes × Bytes))

section Runs

variable {Keypair Operation Seed : Type}

/-- A call that succeeds. -/
def Device.call
    {Value : Type} (device : Device Keypair)
    (action : Throwing (Client Keypair) Thrown Value) :
    Option (Device Keypair) :=
  match device.client with
  | none => none
  | some client =>
      match action client with
      | (.error _, _) => none
      | (.ok _, reached) => some { device with client := some reached }

variable (mls : StoredMls Keypair Operation Seed) (id : CodeUnits)

/-- The run of a persistent client whose calls all succeed. -/
def machine : Machine (Device Keypair) (Event Operation Seed) where
  step device
    | .openClient seed order =>
        if FreshOrder mls id seed order then
          match openClient mls id device.stored seed order with
          | .error _ => none
          | .ok (client, blob) => some ⟨some blob, some client⟩
        else
          none
    | .keyPackage seed => device.call (keyPackage mls seed)
    | .createGroup groupId seed =>
        device.call (createGroup mls groupId seed)
    | .joinGroup welcome ratchetTree groupId =>
        device.call (joinGroup mls welcome ratchetTree groupId)
    | .operate handle operation =>
        device.call (operate mls handle operation)
    | .save order =>
        match device.client with
        | none => none
        | some client =>
            if order.Perm client.values.entries then
              match snapshotOf mls client order with
              | .error _ => none
              | .ok blob => some ⟨some blob, some client⟩
            else
              none

/-- The client that is open, if any, is standing. -/
def Device.Standing (device : Device Keypair) : Prop :=
  ∀ client,
    device.client = some client → PersistentClient.Standing mls id client

variable {mls id}

theorem Device.Standing.call
    {Value : Type} {device reached : Device Keypair}
    {action : Throwing (Client Keypair) Thrown Value}
    (standing : device.Standing mls id)
    (kept :
      ∀ client, PersistentClient.Standing mls id client →
        PersistentClient.Standing mls id (action client).2)
    (called : device.call action = some reached) :
    reached.Standing mls id := by
  unfold Device.call at called
  split at called
  · cases called
  · next client opened =>
    have after := kept client (standing client opened)
    split at called
    · cases called
    · next answered =>
      cases called
      intro current present
      cases present
      rw [answered] at after
      exact after

theorem standing_of_openClient
    {stored : Option Bytes} {seed : Seed}
    {order : List (Bytes × Bytes)} {client : Client Keypair} {blob : Bytes}
    (opened : openClient mls id stored seed order = .ok (client, blob)) :
    PersistentClient.Standing mls id client := by
  unfold openClient at opened
  rcases bind_eq_ok opened with ⟨fresh, constructed, opened⟩
  cases stored with
  | none =>
      rcases bind_eq_ok opened with ⟨written, _, returned⟩
      cases returned
      exact standing_new constructed
  | some content =>
      rcases bind_eq_ok opened with ⟨restored, rebuilt, returned⟩
      cases returned
      exact standing_of_restore rebuilt

/-- The inversion of a save. -/
theorem step_save
    {source target : Device Keypair} {order : List (Bytes × Bytes)}
    (taken : (machine mls id).step source (.save order) = some target) :
    ∃ client blob,
      source.client = some client ∧
        order.Perm client.values.entries ∧
          snapshotOf mls client order = .ok blob ∧
            target = ⟨some blob, some client⟩ := by
  simp only [machine] at taken
  split at taken
  · cases taken
  · next client opened =>
    split at taken
    · next listed =>
      split at taken
      · cases taken
      · next blob written =>
        cases taken
        exact ⟨client, blob, opened, listed, written, rfl⟩
    · cases taken

theorem Device.Standing.step
    {source target : Device Keypair} {event : Event Operation Seed}
    (standing : source.Standing mls id)
    (taken : (machine mls id).step source event = some target) :
    target.Standing mls id := by
  cases event with
  | openClient seed order =>
      simp only [machine] at taken
      split at taken
      · split at taken
        · cases taken
        · next client blob opened =>
          cases taken
          intro current present
          cases present
          exact standing_of_openClient opened
      · cases taken
  | keyPackage seed =>
      exact standing.call (fun _ before => before.keyPackage seed) taken
  | createGroup groupId seed =>
      exact standing.call
        (fun _ before => before.createGroup groupId seed) taken
  | joinGroup welcome ratchetTree groupId =>
      exact standing.call
        (fun _ before => before.joinGroup welcome ratchetTree groupId)
        taken
  | operate handle operation =>
      exact standing.call
        (fun _ before => before.operate handle operation) taken
  | save order =>
      rcases step_save taken with ⟨client, blob, opened, _, _, rfl⟩
      intro current present
      cases present
      exact standing client opened

variable (mls id)

/--
After a run that ends with a save, opening the client again succeeds and gives
the same identity and every group exactly if the client is reloadable and the
constructor, with which `open` begins, returns.
-/
theorem saved_client_resumes_iff
    (stored : Option Bytes) (source target : Device Keypair)
    (client : Client Keypair) (order : List (Bytes × Bytes))
    (reached : Reaches (machine mls id) anyStep ⟨stored, none⟩ source)
    (current : source.client = some client)
    (saved : (machine mls id).step source (.save order) = some target)
    (seed : Seed) (freshOrder : List (Bytes × Bytes)) :
    (∃ reopened blob,
        openClient mls id target.stored seed freshOrder =
            .ok (reopened, blob) ∧
          Resumes mls client reopened) ↔
      Reloadable client ∧ ∃ fresh, Client.new mls id seed = .ok fresh := by
  have standing : source.Standing mls id := by
    apply reached.invariant
    · intro opened present
      cases present
    · intro before event after kept _ taken
      exact kept.step taken
  rcases step_save saved with
    ⟨opened, blob, present, listed, written, rfl⟩
  rw [current] at present
  cases present
  rw [← restore_resumes_iff (standing client current) ⟨order, listed⟩ written]
  constructor
  · rintro ⟨reopened, content, succeeded, resumes⟩
    rcases bind_eq_ok succeeded with
      ⟨fresh, constructed, opened⟩
    rcases bind_eq_ok opened with ⟨restored, rebuilt, returned⟩
    cases returned
    exact ⟨⟨_, rebuilt, resumes⟩, fresh, constructed⟩
  · rintro ⟨⟨reopened, rebuilt, resumes⟩, fresh, constructed⟩
    refine ⟨reopened, blob, ?_, resumes⟩
    rw [openClient_some id blob constructed, rebuilt]
    rfl

end Runs

/-! ## A storage that holds one record for every group -/

/-- The record of a group. -/
def groupKey (groupId : Bytes) : Bytes :=
  1 :: groupId

/-- The group has a record. -/
def hasRecord (values : Values) (groupId : Bytes) : Bool :=
  (values.get (groupKey groupId)).isSome

/-- Write one record. -/
def insertRecord {Value : Type} (key content : Bytes) (result : Value) :
    Throwing Values Thrown Value := fun values =>
  match values.insert key content with
  | .error thrown => (.error thrown, values)
  | .ok reached => (.ok result, reached)

theorem insertRecord_cases
    {Value : Type} (key content : Bytes) (result : Value)
    (values : Values) :
    insertRecord key content result values = (.error .trap, values) ∨
      ∃ reached : Values,
        insertRecord key content result values = (.ok result, reached) ∧
          reached.map = values.map.set key content := by
  by_cases room : values.entries.length < largestCapacity
  · right
    rw [insertRecord, Values.insert_of_lt room]
    exact ⟨_, rfl, rfl⟩
  · have full := Nat.le_antisymm values.held (Nat.le_of_not_lt room)
    rw [insertRecord, Values.insert_of_full full]
    exact Or.inl rfl

theorem hasRecord_set
    {values reached : Values} {key content : Bytes}
    (inserted : reached.map = values.map.set key content)
    (groupId : Bytes) :
    hasRecord reached groupId =
      (decide (groupKey groupId = key) || hasRecord values groupId) := by
  rw [hasRecord, hasRecord, Values.get, Values.get, inserted,
    InsertionMap.get_set]
  split
  · next same => simp [same]
  · next different => simp [different]

theorem keepsGroups_insertRecord
    {Value : Type} (key content : Bytes) (result : Value) :
    KeepsGroups hasRecord (insertRecord key content result) := by
  intro values groupId held
  rcases insertRecord_cases key content result values with
    failed | ⟨reached, succeeded, inserted⟩
  · rw [failed]
    exact held
  · rw [succeeded, hasRecord_set inserted, held, Bool.or_true]

theorem hasRecord_of_insertRecord
    {Value : Type} {groupId content : Bytes} {result returned : Value}
    {values reached : Values}
    (succeeded :
      insertRecord (groupKey groupId) content result values =
        (.ok returned, reached)) :
    hasRecord reached groupId = true ∧ result = returned := by
  rcases insertRecord_cases (groupKey groupId) content result values with
    failed | ⟨target, stored, inserted⟩
  · rw [failed] at succeeded
    cases succeeded
  · rw [stored] at succeeded
    cases succeeded
    rw [hasRecord_set inserted, decide_eq_true rfl, Bool.true_or]
    exact ⟨rfl, rfl⟩

/-- Welcomes are the identifier of the group they invite to. -/
def recordMls : StoredMls UInt8 Unit UInt8 where
  newKeypair seed := .ok seed
  publicKey keypair := [keypair]
  storeKeypair keypair values := values.insert [0, keypair] [keypair]
  serializeKeypair keypair := [keypair]
  deserializeKeypair
    | [keypair] => .ok keypair
    | _ => .error (.jsError (literal "EndOfStream"))
  buildKeyPackage credential keypair seed :=
    insertRecord [2, seed] credential (keypair :: credential)
  buildGroup credential _ groupId _ :=
    insertRecord (groupKey groupId) credential ()
  join welcome ratchetTree :=
    insertRecord (groupKey welcome) ratchetTree welcome
  operate keypair groupId _ :=
    insertRecord (groupKey groupId) [keypair] ()
  holdsGroup := hasRecord
  deserialize_serialize _ := rfl
  holdsGroup_perm same groupId := by
    rw [hasRecord, hasRecord, Values.get_eq_of_perm same]
  buildKeyPackage_keeps _ _ _ := keepsGroups_insertRecord _ _ _
  buildGroup_keeps _ _ _ _ := keepsGroups_insertRecord _ _ _
  join_keeps _ _ := keepsGroups_insertRecord _ _ _
  operate_keeps _ _ _ := keepsGroups_insertRecord _ _ _
  buildGroup_stores built := (hasRecord_of_insertRecord built).1
  join_stores joined := by
    rcases hasRecord_of_insertRecord joined with ⟨held, rfl⟩
    exact held

/-- The storage behind the constructor. -/
def keyValues (keypair : UInt8) : Values where
  map := InsertionMap.empty.set [0, keypair] [keypair]
  held := Nat.succ_le_of_lt (by decide : 0 < largestCapacity)

/-- The client behind the constructor. -/
def newRecordClient (id : CodeUnits) (keypair : UInt8) : Client UInt8 where
  id := id
  credential := Utf8.encode id
  keypair := keypair
  values := keyValues keypair
  groups := InsertionMap.empty

theorem new_recordMls (id : CodeUnits) (seed : UInt8) :
    Client.new recordMls id seed = .ok (newRecordClient id seed) :=
  rfl

/-- A client that has created a room. -/
def annWithRoom : Client UInt8 :=
  (createGroup recordMls (literal "room") 8
    (newRecordClient (literal "ann") 7)).2

/-- A client that created a room and saved comes back with it. -/
theorem saved_client_resumes_room :
    ∃ source target,
      Reaches (machine recordMls (literal "ann")) anyStep ⟨none, none⟩
          source ∧
        source.client = some annWithRoom ∧
          (machine recordMls (literal "ann")).step source
              (.save annWithRoom.values.entries) = some target ∧
            annWithRoom.groups.keys = [literal "room"] ∧
              ∃ reopened blob,
                openClient recordMls (literal "ann") target.stored 0 [] =
                    .ok (reopened, blob) ∧
                  Resumes recordMls annWithRoom reopened := by
  have ready :
      Reaches (machine recordMls (literal "ann")) anyStep ⟨none, none⟩
        ⟨none, none⟩ :=
    .start
  have opened :=
    Reaches.step (Event.openClient 7 [([0, 7], [7])]) ready trivial rfl
  have created :
      Reaches (machine recordMls (literal "ann")) anyStep ⟨none, none⟩
        ⟨_, some annWithRoom⟩ :=
    Reaches.step (Event.createGroup (literal "room") 8) opened trivial rfl
  exact ⟨_, _, created, rfl, rfl, rfl,
    (saved_client_resumes_iff recordMls (literal "ann") none _ _ _
      annWithRoom.values.entries created rfl rfl 0 []).mpr
        ⟨by decide, _, new_recordMls _ _⟩⟩

/-- A client that has joined the room under a label of its own. -/
def bobAmongFriends : Client UInt8 :=
  (joinGroup recordMls (Utf8.encode (literal "room")) []
    (some (literal "friends"))
    (newRecordClient (literal "bob") 7)).2

/-- A client that has created a group whose label starts with U+FEFF. -/
def bobWithMark : Client UInt8 :=
  (createGroup recordMls [0xFEFF, 0x61] 8
    (newRecordClient (literal "bob") 7)).2

/--
A client that entered a group under a label of its own, or created one whose
label starts with U+FEFF, saves and cannot be opened again.
-/
theorem saved_client_lost :
    (∃ device,
      (machine recordMls (literal "bob")).run ⟨none, none⟩
          [.openClient 7 [([0, 7], [7])],
            .joinGroup (Utf8.encode (literal "room")) []
              (some (literal "friends")),
            .save bobAmongFriends.values.entries] = some device ∧
        device.client = some bobAmongFriends ∧
          ∀ seed order,
            openClient recordMls (literal "bob") device.stored seed
                order = .error groupNotFound) ∧
      ∃ device,
        (machine recordMls (literal "bob")).run ⟨none, none⟩
            [.openClient 7 [([0, 7], [7])],
              .createGroup [0xFEFF, 0x61] 8,
              .save bobWithMark.values.entries] = some device ∧
          device.client = some bobWithMark ∧
            ∀ seed order,
              openClient recordMls (literal "bob") device.stored seed
                  order = .error groupNotFound := by
  constructor
  · refine ⟨_, rfl, rfl, ?_⟩
    intro seed order
    exact openClient_of_missing (literal "bob") bobAmongFriends
      ⟨bobAmongFriends.values.entries, List.Perm.refl _⟩ rfl
      (List.mem_singleton.mpr rfl) (by decide) (new_recordMls _ seed) order
  · refine ⟨_, rfl, rfl, ?_⟩
    intro seed order
    exact openClient_of_missing (literal "bob") bobWithMark
      ⟨bobWithMark.values.entries, List.Perm.refl _⟩ rfl
      (List.mem_singleton.mpr rfl) (by decide) (new_recordMls _ seed) order

end Mls4rn.Core.PersistentClient
