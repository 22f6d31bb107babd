import Mls4rn.Core.PersistentClient
import Mls4rn.Core.WasmTraps

/-!
# Clients with and without an adapter

`MlsClient` of `src/client.ts` with all its private fields.  The constructor
leaves `#adapter` empty, `open` sets it, and no method changes it.  `save` and
`#writeSnapshot` look at it first, so a client that was constructed directly
writes nothing, whatever its id is.

The classes of the wasm module are parameters.  Each call works on the objects
it is handed, and the random choices it makes are an argument: key material,
and the order in which a provider yields its records.
-/

namespace Mls4rn.Core.ClientObject

open Mls4rn.Lib
open Mls4rn.Lib.ByteString
open Mls4rn.Lib.Throwing
open Mls4rn.Lib.Utf16
open Mls4rn.Core.MlsGroup (Thrown)
open Mls4rn.Core.PersistentClient (readEnvelope)
open Mls4rn.Core.SnapshotEnvelope
open Mls4rn.Core.WasmTraps (Method)

/-! ## The wasm module -/

/-- `wasm.Provider`, `wasm.Identity` and `wasm.Group`. -/
structure Wasm (Provider Identity Group Seed Reply : Type) where
  newProvider : Seed → Provider
  newIdentity : (name : CodeUnits) → Seed → Throwing Provider Thrown Identity
  keyPackage : Identity → Seed → Throwing Provider Thrown Bytes
  createNew :
    Identity → (groupId : CodeUnits) → Seed → Throwing Provider Thrown Group
  join : (welcome ratchetTree : Bytes) → Seed → Throwing Provider Thrown Group
  load : (groupId : CodeUnits) → Throwing Provider Thrown Group
  call : Identity → Method → Seed → Throwing (Provider × Group) Thrown Reply
  serializeIdentity : Identity → Except Thrown Bytes
  serializeProvider : Provider → Except Thrown Bytes
  identityFromBytes : (name : CodeUnits) → Bytes → Except Thrown Identity
  providerFromBytes : Bytes → Seed → Except Thrown Provider

/-- What the adapter holds. -/
abbrev Storage : Type :=
  InsertionMap CodeUnits Bytes

/--
`MlsClient`.  The `Group` objects it has handed out are numbered, and
`#groups` holds their numbers.
-/
structure MlsClient (Provider Identity Group : Type) where
  id : CodeUnits
  hasAdapter : Bool
  provider : Provider
  identity : Identity
  objects : List Group
  groups : InsertionMap CodeUnits Nat

variable {Provider Identity Group Seed Reply Value : Type}

/-- A method of a client. -/
abbrev ClientAction (Provider Identity Group Value : Type) : Type :=
  Throwing (MlsClient Provider Identity Group) Thrown Value

/-! ## Methods -/

/-- Run a call on the provider of the client. -/
def onProvider (action : Throwing Provider Thrown Value) :
    ClientAction Provider Identity Group Value :=
  zoom MlsClient.provider
    (fun provider client => { client with provider }) id action

/-- `#makeGroup`. -/
def makeGroup (inner : Group) : ClientAction Provider Identity Group Nat := do
  let client ← Throwing.read
  Throwing.update fun client =>
    { client with objects := client.objects ++ [inner] }
  return client.objects.length

/-- `this.#groups.set`. -/
def setGroup (groupId : CodeUnits) (object : Nat) :
    ClientAction Provider Identity Group Unit :=
  Throwing.update fun client =>
    { client with groups := client.groups.set groupId object }

section Methods

variable (wasm : Wasm Provider Identity Group Seed Reply) (seed : Seed)

/-- `keyPackage`. -/
def keyPackage : ClientAction Provider Identity Group Bytes := do
  let client ← Throwing.read
  onProvider (wasm.keyPackage client.identity seed)

/-- `createGroup`. -/
def createGroup (groupId : CodeUnits) :
    ClientAction Provider Identity Group Nat := do
  let client ← Throwing.read
  let inner ← onProvider (wasm.createNew client.identity groupId seed)
  let object ← makeGroup inner
  setGroup groupId object
  return object

/-- `joinGroup`. -/
def joinGroup (welcome ratchetTree : Bytes) (groupId : Option CodeUnits) :
    ClientAction Provider Identity Group Nat := do
  let inner ← onProvider (wasm.join welcome ratchetTree seed)
  let object ← makeGroup inner
  match groupId with
  | none => return object
  | some groupId => do
      setGroup groupId object
      return object

/-- `group`. -/
def group (groupId : CodeUnits) :
    ClientAction Provider Identity Group (Option Nat) := do
  return (← Throwing.read).groups.get groupId

/--
A method of a `Group` object, which works on the provider of its client.
Every object that was handed out has its place, so the error is never thrown.
-/
def callGroup (object : Nat) (method : Method) :
    ClientAction Provider Identity Group Reply := do
  let client ← Throwing.read
  match client.objects[object]? with
  | none => raise (.jsError (literal "null pointer passed to rust"))
  | some inner =>
      zoom (fun client => (client.provider, inner))
        (fun reached client =>
          { client with
            provider := reached.1
            objects := client.objects.set object reached.2 })
        id (wasm.call client.identity method seed)

/-! ## Snapshots -/

/-- `#writeSnapshot`. -/
def writeSnapshot
    (client : MlsClient Provider Identity Group) (storage : Storage) :
    Except Thrown Storage :=
  if client.hasAdapter then do
    let identity ← wasm.serializeIdentity client.identity
    let provider ← wasm.serializeProvider client.provider
    return storage.set client.id
      (encodeEnvelope identity provider client.groups.keys)
  else
    return storage

/-- `save`. -/
def save (client : MlsClient Provider Identity Group) (storage : Storage) :
    Except Thrown Storage :=
  if client.hasAdapter then writeSnapshot wasm client storage
  else return storage

/-! ## Constructing and opening -/

/-- The constructor. -/
def construct (name : CodeUnits) :
    Except Thrown (MlsClient Provider Identity Group) :=
  match wasm.newIdentity name seed (wasm.newProvider seed) with
  | (.error error, _) => .error error
  | (.ok identity, provider) =>
      .ok
        { id := name, hasAdapter := false, provider, identity
          objects := [], groups := InsertionMap.empty }

/-- The loop of `open` over the group ids of the envelope. -/
def loadGroups :
    List CodeUnits → ClientAction Provider Identity Group Unit
  | [] => return ()
  | groupId :: groupIds => do
      let inner ← onProvider (wasm.load groupId)
      let object ← makeGroup inner
      setGroup groupId object
      loadGroups groupIds

/-- The end of `open`, which rebuilds the client from a snapshot. -/
def rebuild (client : MlsClient Provider Identity Group) (blob : Bytes) :
    Except Thrown (MlsClient Provider Identity Group) := do
  let envelope ← readEnvelope blob
  let provider ← wasm.providerFromBytes envelope.provider seed
  let identity ← wasm.identityFromBytes client.id envelope.identity
  match loadGroups wasm envelope.groupIds
      { client with provider, identity } with
  | (.error error, _) => .error error
  | (.ok _, client) => return client

/-- `open`. -/
def openClient (id : CodeUnits) (storage : Storage) :
    Except Thrown (MlsClient Provider Identity Group × Storage) := do
  let constructed ← construct wasm seed id
  let client := { constructed with hasAdapter := true }
  match storage.get id with
  | none => do
      let storage ← writeSnapshot wasm client storage
      return (client, storage)
  | some blob => do
      let client ← rebuild wasm seed client blob
      return (client, storage)

end Methods

/-! ## The adapter -/

section Adapter

variable {wasm : Wasm Provider Identity Group Seed Reply} {seed : Seed}

/-- The method does not change `#adapter`. -/
abbrev KeepsAdapter
    (action : ClientAction Provider Identity Group Value) : Prop :=
  Keeps MlsClient.hasAdapter action

theorem keepsAdapter_onProvider (action : Throwing Provider Thrown Value) :
    KeepsAdapter
      (onProvider action :
        ClientAction Provider Identity Group Value) := by
  apply keeps_zoom
  intro client
  rfl

theorem keepsAdapter_makeGroup (inner : Group) :
    KeepsAdapter
      (makeGroup inner : ClientAction Provider Identity Group Nat) :=
  keeps_bind keeps_read fun _ =>
    keeps_bind (keeps_update fun _ => rfl) fun _ =>
      keeps_pure _

theorem keepsAdapter_setGroup (groupId : CodeUnits) (object : Nat) :
    KeepsAdapter
      (setGroup groupId object : ClientAction Provider Identity Group Unit) :=
  keeps_update fun _ => rfl

theorem keepsAdapter_keyPackage : KeepsAdapter (keyPackage wasm seed) :=
  keeps_bind keeps_read fun _ => keepsAdapter_onProvider _

theorem keepsAdapter_createGroup (groupId : CodeUnits) :
    KeepsAdapter (createGroup wasm seed groupId) := by
  refine keeps_bind keeps_read fun _ => ?_
  refine keeps_bind (keepsAdapter_onProvider _) fun _ => ?_
  refine keeps_bind (keepsAdapter_makeGroup _) fun _ => ?_
  exact keeps_bind (keepsAdapter_setGroup _ _) fun _ =>
    keeps_pure _

theorem keepsAdapter_joinGroup
    (welcome ratchetTree : Bytes) (groupId : Option CodeUnits) :
    KeepsAdapter (joinGroup wasm seed welcome ratchetTree groupId) := by
  refine keeps_bind (keepsAdapter_onProvider _) fun _ => ?_
  refine keeps_bind (keepsAdapter_makeGroup _) fun _ => ?_
  cases groupId with
  | none => exact keeps_pure _
  | some groupId =>
      exact keeps_bind (keepsAdapter_setGroup _ _) fun _ =>
        keeps_pure _

theorem keepsAdapter_group (groupId : CodeUnits) :
    KeepsAdapter
      (group groupId :
        ClientAction Provider Identity Group (Option Nat)) :=
  keeps_bind keeps_read fun _ => keeps_pure _

theorem keepsAdapter_callGroup (object : Nat) (method : Method) :
    KeepsAdapter (callGroup wasm seed object method) := by
  refine keeps_bind keeps_read fun client => ?_
  cases client.objects[object]? with
  | none => exact keeps_raise _
  | some inner =>
      apply keeps_zoom
      intro client
      rfl

theorem keepsAdapter_loadGroups (groupIds : List CodeUnits) :
    KeepsAdapter (loadGroups wasm groupIds) := by
  induction groupIds with
  | nil => exact keeps_pure _
  | cons groupId groupIds induction =>
      refine keeps_bind (keepsAdapter_onProvider _) fun _ => ?_
      refine keeps_bind (keepsAdapter_makeGroup _) fun _ => ?_
      exact keeps_bind (keepsAdapter_setGroup _ _) fun _ => induction

variable {client : MlsClient Provider Identity Group}

/-- A constructed client has no adapter. -/
theorem hasAdapter_of_construct
    {name : CodeUnits} (constructed : construct wasm seed name = .ok client) :
    client.hasAdapter = false := by
  unfold construct at constructed
  split at constructed
  · cases constructed
  · cases constructed
    rfl

theorem hasAdapter_of_rebuild
    {client rebuilt : MlsClient Provider Identity Group} {blob : Bytes}
    (returned : rebuild wasm seed client blob = .ok rebuilt) :
    rebuilt.hasAdapter = client.hasAdapter := by
  rcases bind_eq_ok returned with ⟨envelope, -, behind⟩
  rcases bind_eq_ok behind with ⟨provider, -, behind⟩
  rcases bind_eq_ok behind with ⟨identity, -, loaded⟩
  have loop : KeepsAdapter (loadGroups wasm envelope.groupIds) :=
    keepsAdapter_loadGroups _
  have kept := loop { client with provider, identity }
  split at loaded
  · cases loaded
  · next reached ran =>
    cases loaded
    rw [ran] at kept
    exact kept

/-- An opened client has the adapter. -/
theorem hasAdapter_of_openClient
    {id : CodeUnits} {storage reached : Storage}
    (opened : openClient wasm seed id storage = .ok (client, reached)) :
    client.hasAdapter = true := by
  rcases bind_eq_ok opened with ⟨constructed, -, behind⟩
  cases found : storage.get id with
  | none =>
      simp only [found] at behind
      rcases bind_eq_ok behind with ⟨written, -, returned⟩
      cases returned
      rfl
  | some blob =>
      simp only [found] at behind
      rcases bind_eq_ok behind with ⟨rebuilt, ran, returned⟩
      cases returned
      exact hasAdapter_of_rebuild ran

/-- A client without an adapter writes nothing. -/
theorem save_of_inMemory
    (inMemory : client.hasAdapter = false) (storage : Storage) :
    save wasm client storage = .ok storage := by
  rw [save, inMemory]
  rfl

end Adapter

end Mls4rn.Core.ClientObject
