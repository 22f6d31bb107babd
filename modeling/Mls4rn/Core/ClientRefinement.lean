import Mls4rn.Core.ClientObject
import Mls4rn.Core.PersistentClient
import Mls4rn.Lib.Triples

/-!
# One client in three models

`ClientObject` has all fields of an `MlsClient`, and the classes of the wasm
module are parameters.  `WasmTraps` spells the classes out over the operations
of the library, and leaves id and adapter away.  `PersistentClient` follows
what is stored, and a group there is its identifier.

With the classes as `WasmTraps` spells them out, each call on an object does
on its bound part what the call does there, so a call traps exactly if it is
careless.  Over classes that work on records, an object stores a client of
`PersistentClient`: calls keep it so, and the snapshots are equal.
-/

namespace Mls4rn.Core.ClientRefinement

open Mls4rn.Lib
open Mls4rn.Lib.ByteString
open Mls4rn.Lib.Throwing
open Mls4rn.Lib.Utf16
open Mls4rn.Core.ClientObject
open Mls4rn.Core.MlsGroup (Thrown)
open Mls4rn.Core.PersistentClient
  (StoredMls groupNotFound onValues snapshotOf)
open Mls4rn.Core.ProviderSnapshot
open Mls4rn.Core.WasmTraps
  (Call Careless Codec Crate Method keyPackageToBytes question
    ratchetTreeFromBytes unwrap)

/-! ## Calls on an object -/

/-- Make a call, with an adapter that holds `storage` and takes what is saved. -/
def perform {Provider Identity Group Seed : Type}
    (wasm : Wasm Provider Identity Group Seed WasmTraps.Reply)
    (storage : Storage) (seed : Seed) :
    Call → ClientAction Provider Identity Group WasmTraps.Reply
  | .keyPackage => do
      return .bytes (← ClientObject.keyPackage wasm seed)
  | .createGroup groupId => do
      return .group (some (← ClientObject.createGroup wasm seed groupId))
  | .joinGroup welcome ratchetTree groupId => do
      return .group
        (some (← ClientObject.joinGroup wasm seed welcome ratchetTree
          groupId))
  | .group groupId => do
      return .group (← ClientObject.group groupId)
  | .save => do
      let client ← Throwing.read
      let _ ← ofExcept (save wasm client storage)
      return .nothing
  | .onGroup object method => callGroup wasm seed object method

/-! ## The classes over the library -/

section Bound

variable
  {Provider Identity Group KeyPackage RatchetTree Message Incoming Epoch
    Proposal Seed Value : Type}

/-- What `open` and `save` use beside the operations of the library. -/
structure Loader (Provider Identity Group : Type) where
  load : (groupId : CodeUnits) → Throwing Provider Thrown Group
  serializeProvider : Provider → Bytes
  identityFromBytes : (name : CodeUnits) → Bytes → Except Thrown Identity
  providerFromBytes : Bytes → Except Thrown Provider

/-- The classes of the wasm module as the bindings define them. -/
def classes
    (crate : Crate Provider Identity Group KeyPackage RatchetTree Message
      Incoming Epoch Proposal Seed)
    (loader : Loader Provider Identity Group) :
    Wasm Provider Identity Group Seed WasmTraps.Reply where
  newProvider _ := crate.newProvider
  newIdentity name seed :=
    question (crate.newIdentity (Utf8.encode name) seed)
  keyPackage identity seed := do
    let keyPackage ← unwrap (crate.buildKeyPackage identity seed)
    keyPackageToBytes crate keyPackage
  createNew identity groupId seed :=
    WasmTraps.createNew crate identity seed groupId
  join welcome ratchetTree _ := do
    let tree ← ratchetTreeFromBytes crate ratchetTree
    WasmTraps.join crate welcome tree
  load := loader.load
  call identity method seed := method.perform crate identity seed
  serializeIdentity identity :=
    (crate.serializeIdentity identity).mapError .jsError
  serializeProvider provider := .ok (loader.serializeProvider provider)
  identityFromBytes := loader.identityFromBytes
  providerFromBytes bytes _ := loader.providerFromBytes bytes

/-- The part of an object that the bindings work on. -/
def bound (client : MlsClient Provider Identity Group) :
    WasmTraps.Client Provider Identity Group where
  provider := client.provider
  identity := client.identity
  handles := client.objects
  groups := client.groups

/-- A client saves if it has an adapter, and objects it handed out are used. -/
def Offered (call : Call) (client : MlsClient Provider Identity Group) :
    Prop :=
  match call with
  | .save => client.hasAdapter = true
  | .onGroup object _ => object < client.objects.length
  | _ => True

/-! ## Step by step -/

variable {client : MlsClient Provider Identity Group}

theorem mirrors_onProvider (action : Throwing Provider Thrown Value) :
    Mirrors bound (ClientObject.onProvider action)
      (WasmTraps.onProvider action) client :=
  mirrors_zoom rfl fun _ => rfl

theorem mirrors_makeGroup (inner : Group) :
    Mirrors bound (ClientObject.makeGroup inner) (WasmTraps.makeGroup inner)
      client :=
  rfl

theorem mirrors_setGroup (groupId : CodeUnits) (object : Nat) :
    Mirrors bound (setGroup groupId object) (WasmTraps.enter groupId object)
      client :=
  rfl

/-- Two calls on the provider are one call. -/
theorem onProvider_bind
    {Next : Type} (first : Throwing Provider Thrown Value)
    (second : Value → Throwing Provider Thrown Next) :
    (ClientObject.onProvider (first >>= second) :
        ClientAction Provider Identity Group Next) =
      (ClientObject.onProvider first >>= fun value =>
        ClientObject.onProvider (second value)) := by
  apply zoom_bind
  · intro reached client
    rfl
  · intro last reached client
    rfl

/-- What needs no provider is done beside the client as well. -/
theorem mirrors_question (result : Except CodeUnits Value) :
    Mirrors bound (ClientObject.onProvider (question (ofExcept result)))
      (question (ofExcept result)) client := by
  cases result with
  | error error => rfl
  | ok value => rfl

theorem mirrors_unwrap (result : Except CodeUnits Value) :
    Mirrors bound (ClientObject.onProvider (unwrap (ofExcept result)))
      (unwrap (ofExcept result)) client := by
  cases result with
  | error error => rfl
  | ok value => rfl

section Crate

variable
  {crate : Crate Provider Identity Group KeyPackage RatchetTree Message
    Incoming Epoch Proposal Seed}
  {loader : Loader Provider Identity Group} {seed : Seed}
  {storage : Storage} {call : Call}

theorem mirrors_keyPackage :
    Mirrors bound (ClientObject.keyPackage (classes crate loader) seed)
      (WasmTraps.keyPackage crate seed) client := by
  apply mirrors_read_bind
  change Mirrors bound (ClientObject.onProvider (_ >>= _)) _ client
  rw [onProvider_bind]
  apply mirrors_bind
  · exact mirrors_onProvider _
  · intro keyPackage reached
    exact mirrors_unwrap _

theorem mirrors_createGroup (groupId : CodeUnits) :
    Mirrors bound
      (ClientObject.createGroup (classes crate loader) seed groupId)
      (WasmTraps.createGroup crate seed groupId) client := by
  apply mirrors_read_bind
  apply mirrors_bind
  · exact mirrors_onProvider _
  · intro inner reached
    apply mirrors_bind
    · exact mirrors_makeGroup inner
    · intro object reached
      apply mirrors_bind
      · exact mirrors_setGroup groupId object
      · intro done reached
        exact mirrors_pure object

theorem mirrors_joinGroup
    (welcome ratchetTree : Bytes) (groupId : Option CodeUnits) :
    Mirrors bound
      (ClientObject.joinGroup (classes crate loader) seed welcome ratchetTree
        groupId)
      (WasmTraps.joinGroup crate welcome ratchetTree groupId) client := by
  have joined :
      (ClientObject.onProvider
          ((classes crate loader).join welcome ratchetTree seed) :
        ClientAction Provider Identity Group Group) =
      (ClientObject.onProvider (ratchetTreeFromBytes crate ratchetTree) >>=
        fun tree => ClientObject.onProvider
          (WasmTraps.join crate welcome tree)) :=
    onProvider_bind _ _
  unfold ClientObject.joinGroup WasmTraps.joinGroup
  rw [joined, bind_assoc]
  apply mirrors_bind
  · exact mirrors_question _
  · intro tree reached
    apply mirrors_bind
    · exact mirrors_onProvider _
    · intro inner reached
      apply mirrors_bind
      · exact mirrors_makeGroup inner
      · intro object reached
        cases groupId with
        | none => exact mirrors_pure object
        | some groupId =>
            apply mirrors_bind
            · exact mirrors_setGroup groupId object
            · intro done reached
              exact mirrors_pure object

theorem mirrors_callGroup
    (object : Nat) (method : Method)
    (handedOut : object < client.objects.length) :
    Mirrors bound
      (callGroup (classes crate loader) seed object method)
      (Call.perform crate seed (.onGroup object method)) client := by
  have found :
      client.objects[object]? = some client.objects[object] :=
    List.getElem?_eq_getElem handedOut
  have shown : (bound client).handles[object]? = _ := found
  unfold Mirrors
  rw [callGroup, Call.perform, read_bind, read_bind, found, shown]
  apply mirrors_zoom
  · rfl
  · intro reached
    rfl

/-- Only the serialization of the identity can fail. -/
theorem mirrors_save (hasAdapter : client.hasAdapter = true) :
    Mirrors bound (perform (classes crate loader) storage seed .save)
      (Call.perform crate seed .save) client := by
  apply mirrors_read_bind
  unfold save writeSnapshot
  rw [if_pos hasAdapter, if_pos hasAdapter]
  change Mirrors bound
    (ofExcept
        (((crate.serializeIdentity client.identity).mapError .jsError).map
          _) >>= _)
    (question (ofExcept (crate.serializeIdentity client.identity)) >>= _)
    client
  cases crate.serializeIdentity client.identity with
  | error error => rfl
  | ok identity => rfl

/-- A call does on the bound part of an object what it does there. -/
theorem mirrors_perform (offered : Offered call client) :
    Mirrors bound (perform (classes crate loader) storage seed call)
      (call.perform crate seed) client := by
  cases call with
  | keyPackage =>
      apply mirrors_bind
      · exact mirrors_keyPackage
      · intro bytes reached
        exact mirrors_pure _
  | createGroup groupId =>
      apply mirrors_bind
      · exact mirrors_createGroup groupId
      · intro object reached
        exact mirrors_pure _
  | joinGroup welcome ratchetTree groupId =>
      apply mirrors_bind
      · exact mirrors_joinGroup _ _ _
      · intro object reached
        exact mirrors_pure _
  | group groupId => rfl
  | save => exact mirrors_save offered
  | onGroup object method => exact mirrors_callGroup object method offered

/-- What is not offered neither traps nor is careless. -/
theorem perform_trap_iff_of_not_offered (refused : ¬ Offered call client) :
    (perform (classes crate loader) storage seed call client).1 =
        .error .trap ↔
      Careless crate (bound client) call := by
  cases call with
  | save =>
      have kept : save (classes crate loader) client storage = _ :=
        save_of_inMemory (Bool.not_eq_true _ ▸ refused) storage
      rw [perform, read_bind, kept]
      refine iff_of_false ?_ id
      intro trapped
      cases trapped
  | onGroup object method =>
      have outside : client.objects[object]? = none :=
        List.getElem?_eq_none (Nat.not_lt.mp refused)
      rw [perform, callGroup, read_bind, outside]
      refine iff_of_false ?_ fun careless => refused careless.1
      intro trapped
      cases trapped
  | keyPackage => exact absurd trivial refused
  | createGroup groupId => exact absurd trivial refused
  | joinGroup welcome ratchetTree groupId => exact absurd trivial refused
  | group groupId => exact absurd trivial refused

variable (crate loader)

/-- A call on an object traps exactly if it is careless. -/
theorem perform_trap_iff_careless (storage : Storage) (seed : Seed)
    (call : Call) (client : MlsClient Provider Identity Group) :
    (perform (classes crate loader) storage seed call client).1 =
        .error .trap ↔
      Careless crate (bound client) call := by
  by_cases offered : Offered call client
  · have mirrored :
        Mirrors bound (perform (classes crate loader) storage seed call)
          (call.perform crate seed) client :=
      mirrors_perform offered
    rw [← call.perform_trap_iff seed, mirrored]
  · exact perform_trap_iff_of_not_offered offered

/--
Calls on an object return and throw what the calls on its bound part do, one
after another, and leave the bound part that those leave.
-/
theorem runAll_bound (calls : List (Call × Storage × Seed))
    {client : MlsClient Provider Identity Group}
    (offered :
      Permitted (fun entry => Offered entry.1)
        (fun entry =>
          perform (classes crate loader) entry.2.1 entry.2.2 entry.1)
        calls client) :
    let ran := runAll
      (fun entry => perform (classes crate loader) entry.2.1 entry.2.2 entry.1)
      calls client
    runAll (fun entry => entry.1.perform crate entry.2.2) calls
        (bound client) =
      (ran.1, bound ran.2) :=
  mirrors_runAll (fun _ _ => mirrors_perform) calls offered

end Crate

end Bound

/-! ## What an object stores -/

section Stored

variable {Keypair Seed Value Found Next Later : Type}

/-- An object whose provider is its records and whose groups are names. -/
abbrev StoredObject (Keypair : Type) : Type :=
  MlsClient Values (Bytes × Keypair) Bytes

/--
The classes over what OpenMLS does to the records.  The order in which a
provider yields its records is a function of the records.
-/
def storedClasses
    (mls : StoredMls Keypair (Method × Seed) Seed)
    (iteration : ∀ values, Iteration values) :
    Wasm Values (Bytes × Keypair) Bytes Seed WasmTraps.Reply where
  newProvider _ := Values.empty
  newIdentity name seed := do
    let keypair ← ofExcept (mls.newKeypair seed)
    let values ← Throwing.read
    let stored ← ofExcept (mls.storeKeypair keypair values)
    Throwing.update fun _ => stored
    return (Utf8.encode name, keypair)
  keyPackage identity seed := mls.buildKeyPackage identity.1 identity.2 seed
  createNew identity groupId seed := do
    mls.buildGroup identity.1 identity.2 (Utf8.encode groupId) seed
    return Utf8.encode groupId
  join welcome ratchetTree _ := mls.join welcome ratchetTree
  load groupId := do
    let values ← Throwing.read
    if mls.holdsGroup values (Utf8.encode groupId) then
      return Utf8.encode groupId
    else
      raise groupNotFound
  call identity method seed := do
    let state ← Throwing.read
    zoom Prod.fst (fun values state => (values, state.2)) id
      (mls.operate identity.2 state.2 (method, seed))
    return .nothing
  serializeIdentity identity := .ok (mls.serializeKeypair identity.2)
  serializeProvider values := .ok (snapshotSerialize (iteration values).val)
  identityFromBytes name bytes := do
    let keypair ← mls.deserializeKeypair bytes
    return (Utf8.encode name, keypair)
  providerFromBytes bytes _ := snapshotDeserialize bytes

/-- The stored client of an object. -/
structure Stores
    (object : StoredObject Keypair)
    (client : PersistentClient.Client Keypair) : Prop where
  id : client.id = object.id
  credential : client.credential = object.identity.1
  keypair : client.keypair = object.identity.2
  values : client.values = object.provider
  labels : client.groups.keys = object.groups.keys
  handles :
    ∀ groupId,
      client.groups.get groupId =
        (object.groups.get groupId).bind (object.objects[·]?)

/--
Both computations return values that belong together, or throw the same error,
and the object goes on to store the client.
-/
inductive Tracks (fits : Value → Found → StoredObject Keypair → Prop) :
    Except Thrown Value × StoredObject Keypair →
      Except Thrown Found × PersistentClient.Client Keypair → Prop where
  | ok {value : Value} {found : Found} {object : StoredObject Keypair}
      {client : PersistentClient.Client Keypair}
      (fit : fits value found object) (stores : Stores object client) :
      Tracks fits (.ok value, object) (.ok found, client)
  | error {error : Thrown} {object : StoredObject Keypair}
      {client : PersistentClient.Client Keypair}
      (stores : Stores object client) :
      Tracks fits (.error error, object) (.error error, client)

/-- The object handed out a `Group` of this name under this number. -/
def Handle (number : Nat) (handle : Bytes) (object : StoredObject Keypair) :
    Prop :=
  object.objects[number]? = some handle

variable
  {mls : StoredMls Keypair (Method × Seed) Seed}
  {iteration : ∀ values, Iteration values} {seed : Seed}
  {object : StoredObject Keypair} {client : PersistentClient.Client Keypair}
  {number : Nat} {handle : Bytes}

theorem Stores.setValues (stores : Stores object client) (values : Values) :
    Stores { object with provider := values }
      { client with values := values } :=
  { stores with values := rfl }

/-- A group of the map has its place, so one more object does not matter. -/
theorem Stores.handOut (stores : Stores object client) (inner : Bytes) :
    Stores { object with objects := object.objects ++ [inner] } client := by
  refine { stores with handles := ?_ }
  intro groupId
  rw [stores.handles]
  cases held : object.groups.get groupId with
  | none => rfl
  | some number =>
      have known : groupId ∈ client.groups.keys := by
        rw [stores.labels]
        exact (InsertionMap.mem_keys_iff _ _).mpr ⟨number, held⟩
      rcases (InsertionMap.mem_keys_iff _ _).mp known with ⟨handle, filed⟩
      rw [stores.handles, held] at filed
      have inside := (List.getElem?_eq_some_iff.mp filed).1
      exact (List.getElem?_append_left inside).symm

theorem Stores.enter (stores : Stores object client) (groupId : CodeUnits)
    (found : Handle number handle object) :
    Stores { object with groups := object.groups.set groupId number }
      { client with groups := client.groups.set groupId handle } := by
  refine { stores with labels := ?_, handles := ?_ }
  · rw [InsertionMap.keys_set, InsertionMap.keys_set, stores.labels]
  · intro other
    rw [InsertionMap.get_set, InsertionMap.get_set]
    split
    · exact found.symm
    · exact stores.handles other

theorem tracks_bind
    {first : ClientAction Values (Bytes × Keypair) Bytes Value}
    {second : Throwing (PersistentClient.Client Keypair) Thrown Found}
    {next : Value → ClientAction Values (Bytes × Keypair) Bytes Next}
    {nextOther :
      Found → Throwing (PersistentClient.Client Keypair) Thrown Later}
    {fits : Value → Found → StoredObject Keypair → Prop}
    {later : Next → Later → StoredObject Keypair → Prop}
    (start : Tracks fits (first object) (second client))
    (rest : ∀ value found reached image,
      fits value found reached → Stores reached image →
        Tracks later (next value reached) (nextOther found image)) :
    Tracks later ((first >>= next) object)
      ((second >>= nextOther) client) := by
  rw [bind_apply, bind_apply]
  generalize first object = ran at start
  generalize second client = image at start
  cases start with
  | ok fit stores => exact rest _ _ _ _ fit stores
  | error stores => exact .error stores

/-- Computations on the records. -/
theorem tracks_onProvider
    {action : Throwing Values Thrown Value}
    {image : Throwing Values Thrown Found} (read : Found → Value)
    (stores : Stores object client)
    (same :
      ∀ values,
        action values = ((image values).1.map read, (image values).2)) :
    Tracks (fun value found _ => value = read found)
      (ClientObject.onProvider action object) (onValues image client) := by
  unfold ClientObject.onProvider onValues zoom
  rw [stores.values, same]
  cases image object.provider with
  | mk result reached =>
      cases result with
      | error error => exact .error (stores.setValues reached)
      | ok found => exact .ok rfl (stores.setValues reached)

theorem tracks_keyPackage (stores : Stores object client) :
    Tracks (fun bytes found _ => bytes = id found)
      (ClientObject.keyPackage (storedClasses mls iteration) seed object)
      (PersistentClient.keyPackage mls seed client) := by
  unfold ClientObject.keyPackage PersistentClient.keyPackage
  rw [read_bind, read_bind, stores.credential, stores.keypair]
  apply tracks_onProvider id stores
  intro values
  rw [Except.map_id]
  rfl

/-- `#makeGroup` has no counterpart: it hands out a number. -/
theorem tracks_makeGroup (stores : Stores object client) (inner : Bytes)
    {next : Nat → ClientAction Values (Bytes × Keypair) Bytes Next}
    {second : Throwing (PersistentClient.Client Keypair) Thrown Later}
    {later : Next → Later → StoredObject Keypair → Prop}
    (rest : ∀ number reached,
      Handle number inner reached → Stores reached client →
        Tracks later (next number reached) (second client)) :
    Tracks later ((ClientObject.makeGroup inner >>= next) object)
      (second client) := by
  apply rest object.objects.length
    { object with objects := object.objects ++ [inner] }
  · exact List.getElem?_concat_length
  · exact stores.handOut inner

/-- A group that was built is its identifier. -/
theorem tracks_createGroup (stores : Stores object client)
    (groupId : CodeUnits) :
    Tracks Handle
      (ClientObject.createGroup (storedClasses mls iteration) seed groupId
        object)
      (PersistentClient.createGroup mls groupId seed client) := by
  unfold ClientObject.createGroup PersistentClient.createGroup
  rw [read_bind, read_bind, stores.credential, stores.keypair]
  apply tracks_bind
  · apply tracks_onProvider (fun _ => Utf8.encode groupId) stores
    intro values
    change (mls.buildGroup _ _ _ _ >>= fun _ => pure _) values = _
    rw [bind_apply]
    cases mls.buildGroup object.identity.1 object.identity.2
        (Utf8.encode groupId) seed values with
    | mk result reached =>
        cases result with
        | error error => rfl
        | ok built => rfl
  · rintro inner - reached image rfl stores
    apply tracks_makeGroup stores
    intro number reached found stores
    exact .ok found (stores.enter groupId found)

theorem tracks_joinGroup (stores : Stores object client)
    (welcome ratchetTree : Bytes) (groupId : Option CodeUnits) :
    Tracks Handle
      (ClientObject.joinGroup (storedClasses mls iteration) seed welcome
        ratchetTree groupId object)
      (PersistentClient.joinGroup mls welcome ratchetTree groupId client) := by
  apply tracks_bind
  · apply tracks_onProvider id stores
    intro values
    rw [Except.map_id]
    rfl
  · rintro inner handle reached image rfl stores
    apply tracks_makeGroup stores
    intro number reached found stores
    cases groupId with
    | none => exact .ok found stores
    | some groupId => exact .ok found (stores.enter groupId found)

/-- A method leaves the identifier of its group alone. -/
theorem call_storedClasses (identity : Bytes × Keypair) (method : Method)
    (values : Values) :
    (storedClasses mls iteration).call identity method seed (values, handle) =
      ((mls.operate identity.2 handle (method, seed) values).1.map
          fun _ => .nothing,
        (mls.operate identity.2 handle (method, seed) values).2, handle) := by
  change (zoom Prod.fst _ id
    (mls.operate identity.2 handle (method, seed)) >>= _) (values, handle) = _
  rw [bind_apply, zoom]
  cases mls.operate identity.2 handle (method, seed) values with
  | mk result reached =>
      cases result with
      | error error => rfl
      | ok done => rfl

/-- A method of a group is an operation on its handle. -/
theorem tracks_callGroup (stores : Stores object client)
    (found : Handle number handle object) (method : Method) :
    Tracks (fun _ _ _ => True)
      (callGroup (storedClasses mls iteration) seed number method object)
      (PersistentClient.operate mls handle (method, seed) client) := by
  have kept : object.objects.set number handle = object.objects := by
    have inside := (List.getElem?_eq_some_iff.mp found).2
    rw [← inside]
    exact List.set_getElem_self _
  unfold callGroup PersistentClient.operate onValues
  rw [read_bind, read_bind, found, stores.keypair]
  unfold zoom
  simp only [stores.values, call_storedClasses]
  cases mls.operate object.identity.2 handle (method, seed)
      object.provider with
  | mk result reached =>
      have after := stores.setValues reached
      rw [← kept] at after
      cases result with
      | error error => exact .error after
      | ok done => exact .ok trivial after

/-- What a call on an object does to its stored client. -/
def storedCall (mls : StoredMls Keypair (Method × Seed) Seed) (seed : Seed)
    (object : StoredObject Keypair) :
    Call → Throwing (PersistentClient.Client Keypair) Thrown Unit
  | .keyPackage => do
      let _ ← PersistentClient.keyPackage mls seed
      return ()
  | .createGroup groupId => do
      let _ ← PersistentClient.createGroup mls groupId seed
      return ()
  | .joinGroup welcome ratchetTree groupId => do
      let _ ← PersistentClient.joinGroup mls welcome ratchetTree groupId
      return ()
  | .onGroup number method =>
      match object.objects[number]? with
      | none =>
          raise (.jsError (literal "null pointer passed to rust"))
      | some handle => PersistentClient.operate mls handle (method, seed)
  | .group _ | .save => return ()

/-- A call on an object is a call on its stored client. -/
theorem tracks_perform (stores : Stores object client) (storage : Storage)
    (call : Call) :
    Tracks (fun _ _ _ => True)
      (perform (storedClasses mls iteration) storage seed call object)
      (storedCall mls seed object call client) := by
  cases call with
  | keyPackage =>
      apply tracks_bind (tracks_keyPackage stores)
      intro bytes found reached image _ stores
      exact .ok trivial stores
  | createGroup groupId =>
      apply tracks_bind (tracks_createGroup stores groupId)
      intro number handle reached image _ stores
      exact .ok trivial stores
  | joinGroup welcome ratchetTree groupId =>
      apply tracks_bind (tracks_joinGroup stores welcome ratchetTree groupId)
      intro number handle reached image _ stores
      exact .ok trivial stores
  | group groupId => exact .ok trivial stores
  | save =>
      rw [perform, read_bind, save]
      split
      · next hasAdapter =>
        rw [writeSnapshot, if_pos hasAdapter]
        exact .ok trivial stores
      · exact .ok trivial stores
  | onGroup number method =>
      rw [perform, storedCall]
      cases found : object.objects[number]? with
      | none =>
          rw [callGroup, read_bind, found]
          exact .error stores
      | some handle => exact tracks_callGroup stores found method

/-- An object writes the snapshot of its stored client. -/
theorem save_eq_of_snapshotOf (stores : Stores object client)
    (hasAdapter : object.hasAdapter = true) (storage : Storage)
    {blob : Bytes}
    (saved : snapshotOf mls client (iteration client.values).val = .ok blob) :
    save (storedClasses mls iteration) object storage =
      .ok (storage.set client.id blob) := by
  rcases PersistentClient.fits_of_snapshotOf saved with ⟨-, rfl⟩
  unfold save writeSnapshot
  rw [if_pos hasAdapter, if_pos hasAdapter, stores.id, stores.keypair,
    stores.labels, stores.values]
  rfl

variable (mls iteration)

/-- The calls on the stored client, along a run on the object. -/
def storedCalls :
    List (Call × Storage × Seed) → StoredObject Keypair →
      List (Throwing (PersistentClient.Client Keypair) Thrown Unit)
  | [], _ => []
  | (call, storage, seed) :: calls, object =>
      storedCall mls seed object call ::
        storedCalls calls
          (perform (storedClasses mls iteration) storage seed call object).2

/--
Calls on an object throw what the calls on its stored client throw, one after
another, and leave an object that stores what those leave.
-/
theorem runAll_stores (calls : List (Call × Storage × Seed))
    (stores : Stores object client) :
    let ran := runAll
      (fun entry =>
        perform (storedClasses mls iteration) entry.2.1 entry.2.2 entry.1)
      calls object
    let image := runAll id (storedCalls mls iteration calls object) client
    ran.1.map (Except.map fun _ => ()) = image.1 ∧
      Stores ran.2 image.2 := by
  induction calls generalizing object client with
  | nil => exact ⟨rfl, stores⟩
  | cons entry calls induction =>
      obtain ⟨call, storage, seed⟩ := entry
      have tracked :
          Tracks _
            (perform (storedClasses mls iteration) storage seed call object)
            (storedCall mls seed object call client) :=
        tracks_perform stores storage call
      simp only [runAll, storedCalls, id, List.map_cons]
      generalize perform (storedClasses mls iteration) storage seed call
        object = ran at tracked ⊢
      generalize storedCall mls seed object call client = image at tracked ⊢
      cases tracked with
      | ok _ after =>
          obtain ⟨same, final⟩ := induction after
          exact ⟨congrArg (List.cons _) same, final⟩
      | error after =>
          obtain ⟨same, final⟩ := induction after
          exact ⟨congrArg (List.cons _) same, final⟩

end Stored

end Mls4rn.Core.ClientRefinement
