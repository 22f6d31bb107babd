import Mls4rn.Core.ClientObject
import Mls4rn.ReactNative.HostDispatch

/-!
# The page with its clients, groups and store

All methods of `host.ts` on one state: the tables of clients and groups, the
counter of the handles, and the store.  The clients are those of
`ClientObject`, with or without the adapter of the page.

A request is served when the one before it has been answered.  Every `await`
of `host.ts` waits for a promise that the page settles itself, so a request is
finished before the page takes the next message.
-/

namespace Mls4rn.ReactNative.HostPage

open Mls4rn.Core
open Mls4rn.Core.ClientObject hiding setGroup
open Mls4rn.Core.MlsGroup (Thrown)
open Mls4rn.Core.WasmTraps (Method)
open Mls4rn.Lib
open Mls4rn.Lib.ByteString
open Mls4rn.Lib.NumberText
open Mls4rn.Lib.Utf16
open Mls4rn.ReactNative.HostDispatch hiding keyPackage createGroup joinGroup
  newClient openClient saveClient
open Mls4rn.ReactNative.HostStore (PageError)

/-! ## Requests -/

/-- The methods that take a client handle, with their other arguments. -/
inductive ClientCall where
  | saveClient
  | keyPackage
  | createGroup (groupId : CodeUnits)
  | joinGroup (welcome ratchetTree : CodeUnits) (groupId : Option CodeUnits)
  | group (groupId : CodeUnits)
deriving DecidableEq, Repr

/-- The methods that take a group handle; byte strings are in base64. -/
inductive GroupCall where
  | add (keyPackage : CodeUnits)
  | send (text : CodeUnits)
  | receiveText (ciphertext : CodeUnits)
  | receive (message : CodeUnits)
  | exportRatchetTree
  | exportKey (label context : CodeUnits) (length : Nat)
  | remove (name : CodeUnits)
  | update
  | leave
  | commit
  | proposeAdd (keyPackage : CodeUnits)
  | proposeRemove (name : CodeUnits)
  | proposeUpdate
  | members
  | active
deriving DecidableEq, Repr

/-- The requests of `host.ts`. -/
inductive Request where
  | newClient (name : CodeUnits)
  | openClient (id : CodeUnits)
  | onClient (client : CodeUnits) (call : ClientCall)
  | onGroup (group : CodeUnits) (call : GroupCall)
  | snapshot
  | restore (snapshot : CodeUnits)
deriving DecidableEq, Repr

/-- What a method returns; the bytes of a reply go out in base64. -/
inductive Answer (Reply : Type) where
  | client (handle : CodeUnits)
  | group (handle : Option CodeUnits)
  | keyPackage (text : CodeUnits)
  | reply (reply : Reply)
  | snapshot (text : CodeUnits)
  | done
deriving DecidableEq, Repr

/-- The call of the core that a group method makes. -/
def GroupCall.method : GroupCall → Except PageError Method
  | .add keyPackage => do
      return .add (← HostStore.base64ToBytes keyPackage)
  | .send text => return .send (.inl text)
  | .receiveText ciphertext => do
      return .receiveText (← HostStore.base64ToBytes ciphertext)
  | .receive message => do
      return .receive (← HostStore.base64ToBytes message)
  | .exportRatchetTree => return .exportRatchetTree
  | .exportKey label context length => do
      return .exportKey label (← HostStore.base64ToBytes context) length
  | .remove name => return .remove name
  | .update => return .update
  | .leave => return .leave
  | .commit => return .commit
  | .proposeAdd keyPackage => do
      return .proposeAdd (← HostStore.base64ToBytes keyPackage)
  | .proposeRemove name => return .proposeRemove name
  | .proposeUpdate => return .proposeUpdate
  | .members => return .members
  | .active => return .active

/-! ## The page -/

variable {Provider Identity Group Seed Reply Number Value : Type}

/--
The module state of `host.ts`, with the store as the core behind it.  A group
of the table is the handle of its client and its number there.
-/
abbrev Page (Provider Identity Group : Type) : Type :=
  Host Storage (MlsClient Provider Identity Group) (CodeUnits × Nat)

/-- A method of the page, or a part of one. -/
abbrev PageAction (Provider Identity Group Value : Type) : Type :=
  HostAction Storage (MlsClient Provider Identity Group) (CodeUnits × Nat)
    Value

/-- A page that was just loaded. -/
def Page.start : Page Provider Identity Group :=
  Host.new InsertionMap.empty

/-- The texts of the exceptions that are not made by the project. -/
structure ErrorTexts extends EngineTexts where
  unreachable : CodeUnits

/-- The message of what the core throws; a trap is a `RuntimeError`. -/
def ErrorTexts.ofThrown (texts : ErrorTexts) : Thrown → CodeUnits
  | .jsError message => message
  | .trap => texts.unreachable

/-- A client and the store that `save` writes to. -/
abbrev Holding (Provider Identity Group : Type) : Type :=
  MlsClient Provider Identity Group × Storage

/-- What a method does with its client. -/
abbrev Body (Provider Identity Group Value : Type) : Type :=
  Throwing (Holding Provider Identity Group) CodeUnits Value

/-- What the core has returned; a group is not filed yet. -/
inductive Outcome (Reply : Type) where
  | done
  | keyPackage (text : CodeUnits)
  | reply (reply : Reply)
  | group (object : Option Nat)

section Serving

variable
  (wasm : Wasm Provider Identity Group Seed Reply) (texts : ErrorTexts)
  (seed : Seed)

/-- Call a method of the client. -/
def onObject (action : ClientAction Provider Identity Group Value) :
    Body Provider Identity Group Value :=
  Throwing.zoom Prod.fst (fun client holding => (client, holding.2))
    texts.ofThrown action

/-- A value, or an exception of the page. -/
def ofPage (result : Except PageError Value) :
    Body Provider Identity Group Value :=
  Throwing.ofExcept (result.mapError texts.ofPageError)

/-- `await client.save()`. -/
def saveBody : Body Provider Identity Group Unit :=
  fun holding =>
    match save wasm holding.1 holding.2 with
    | .error error => (.error (texts.ofThrown error), holding)
    | .ok storage => (.ok (), (holding.1, storage))

/-- The methods on a client, behind the lookup of its handle. -/
def ClientCall.body :
    ClientCall → Body Provider Identity Group (Outcome Reply)
  | .saveClient => do
      saveBody wasm texts
      return .done
  | .keyPackage => do
      let bytes ← onObject texts (ClientObject.keyPackage wasm seed)
      return .keyPackage (← ofPage texts (HostStore.bytesToBase64 bytes))
  | .createGroup groupId => do
      return .group
        (some (← onObject texts (ClientObject.createGroup wasm seed groupId)))
  | .joinGroup welcome ratchetTree groupId => do
      let welcome ← ofPage texts (HostStore.base64ToBytes welcome)
      let ratchetTree ← ofPage texts (HostStore.base64ToBytes ratchetTree)
      return .group
        (some (← onObject texts
          (ClientObject.joinGroup wasm seed welcome ratchetTree groupId)))
  | .group groupId => do
      return .group (← onObject texts (ClientObject.group groupId))

/-- The methods on a group, behind the lookup of its handle. -/
def GroupCall.body (call : GroupCall) (object : Nat) :
    Body Provider Identity Group (Outcome Reply) := do
  let method ← ofPage texts call.method
  return .reply (← onObject texts (callGroup wasm seed object method))

/-- The page behind a method that worked on one client. -/
def written
    (page : Page Provider Identity Group) (handle : CodeUnits)
    (holding : Holding Provider Identity Group) :
    Page Provider Identity Group :=
  { page with
    core := holding.2
    clients := page.clients.set handle holding.1 }

/-- File a group under a new handle, or answer. -/
def file (owner : CodeUnits) :
    Outcome Reply → PageAction Provider Identity Group (Answer Reply)
  | .done => return .done
  | .keyPackage text => return .keyPackage text
  | .reply reply => return .reply reply
  | .group none => return .group none
  | .group (some object) => do
      let handle ← nextHandle groupLetter
      setGroup handle (owner, object)
      return .group (some handle)

/-- A method that works on one client. -/
def onClient
    (handle : CodeUnits)
    (body : Body Provider Identity Group (Outcome Reply)) :
    PageAction Provider Identity Group (Answer Reply) :=
  fun page =>
    match page.clients.get handle with
    | none => (.error (literal "unknown client handle: " ++ handle), page)
    | some client =>
        match body (client, page.core) with
        | (.error message, reached) =>
            (.error message, written page handle reached)
        | (.ok outcome, reached) =>
            file handle outcome (written page handle reached)

/-- `methods.newClient`. -/
def newClient (name : CodeUnits) :
    PageAction Provider Identity Group (Answer Reply) := do
  let handle ← nextHandle clientLetter
  let client ← Throwing.ofExcept
    ((construct wasm seed name).mapError texts.ofThrown)
  setClient handle client
  return .client handle

/-- `MlsClient.open` with the adapter of the page. -/
def openStored (id : CodeUnits) :
    PageAction Provider Identity Group
      (MlsClient Provider Identity Group) :=
  fun page =>
    match ClientObject.openClient wasm seed id page.core with
    | .error error => (.error (texts.ofThrown error), page)
    | .ok (client, storage) => (.ok client, { page with core := storage })

/-- `methods.openClient`. -/
def openClient (id : CodeUnits) :
    PageAction Provider Identity Group (Answer Reply) := do
  let handle ← nextHandle clientLetter
  let client ← openStored wasm texts seed id
  setClient handle client
  return .client handle

/-- The loop of `snapshot` over the clients. -/
def flush :
    List (MlsClient Provider Identity Group) → Storage →
      Except Thrown Unit × Storage
  | [], storage => (.ok (), storage)
  | client :: clients, storage =>
      match save wasm client storage with
      | .error error => (.error error, storage)
      | .ok storage => flush clients storage

variable (format : NumberFormat Number)

/-- `methods.snapshot`. -/
def snapshot : PageAction Provider Identity Group (Answer Reply) :=
  fun page =>
    match flush wasm (page.clients.entries.map Prod.snd) page.core with
    | (.error error, core) =>
        (.error (texts.ofThrown error), { page with core })
    | (.ok _, core) =>
        match HostStore.snapshot format core with
        | .error error => (.error (texts.ofPageError error), { page with core })
        | .ok text => (.ok (.snapshot text), { page with core })

/-- `methods.restore`. -/
def restore (text : CodeUnits) :
    PageAction Provider Identity Group (Answer Reply) :=
  fun page =>
    match HostStore.restore format page.core text with
    | (core, .error error) =>
        (.error (texts.ofPageError error), { page with core })
    | (core, .ok _) => (.ok .done, { page with core })

/-- `dispatch`, for a request and the random choices made for it. -/
def serve :
    Request × Seed → PageAction Provider Identity Group (Answer Reply)
  | (.newClient name, seed) => newClient wasm texts seed name
  | (.openClient id, seed) => openClient wasm texts seed id
  | (.onClient handle call, seed) =>
      onClient handle (call.body wasm texts seed)
  | (.onGroup handle call, seed) => do
      let (owner, object) ← groupNamed handle
      onClient owner (call.body wasm texts seed object)
  | (.snapshot, _) => snapshot wasm texts format
  | (.restore text, _) => restore texts format text

end Serving

end Mls4rn.ReactNative.HostPage
