import Mls4rn.ReactNative.Base64Codec
import Mls4rn.ReactNative.CoreApi
import Mls4rn.ReactNative.HostStore
import Mls4rn.ReactNative.RequestBridge

/-!
# The request methods of the WebView host

The host page holds the clients and groups and names them by handles from one
counter.  Each method of `host.ts` reads its arguments from the JSON of the
request, calls the core and wraps the result; byte strings travel as base64.
`receive` reads one request, runs its method and posts the response.

The methods `snapshot` and `restore` work on the store and stand in
`HostStore`.  Everything else that the React Native facade calls is here, one
request at a time.
-/

namespace Mls4rn.ReactNative.HostDispatch

open Mls4rn.Core.GroupFacade (AddResult Commit)
open Mls4rn.Lib
open Mls4rn.Lib.ByteString
open Mls4rn.Lib.Throwing
open Mls4rn.Lib.NumberText
open Mls4rn.Lib.Utf16
open Mls4rn.ReactNative.CoreApi
open Mls4rn.ReactNative.HostStore (PageError)

/-- The messages of built-in exceptions, which differ between engines. -/
structure EngineTexts where
  invalidCharacter : CodeUnits
  syntaxError : CodeUnits
  typeError : CodeUnits
  rangeError : CodeUnits

/-- The message of an exception of the page. -/
def EngineTexts.ofPageError (texts : EngineTexts) : PageError → CodeUnits
  | .invalidCharacter => texts.invalidCharacter
  | .syntaxError => texts.syntaxError
  | .typeError => texts.typeError

/-- The module state of `host.ts`, with the state of the core behind it. -/
structure Host (State Client Group : Type) where
  core : State
  clients : InsertionMap CodeUnits Client
  groups : InsertionMap CodeUnits Group
  seq : Nat

/-- The page behind its start. -/
def Host.new {State Client Group : Type} (core : State) :
    Host State Client Group where
  core := core
  clients := InsertionMap.empty
  groups := InsertionMap.empty
  seq := 0

variable {State Client Group Number Value : Type}

/-- What a method does: it returns, or throws a message. -/
abbrev HostAction (State Client Group Value : Type) : Type :=
  Throwing (Host State Client Group) CodeUnits Value

/-- Run an operation of the core. -/
def onCore (operation : Operation State Value) :
    HostAction State Client Group Value :=
  zoom Host.core (fun core host => { host with core }) id operation

/-! ## Handles -/

/-- The letter in front of client handles. -/
def clientLetter : UInt16 := 0x63

/-- The letter in front of group handles. -/
def groupLetter : UInt16 := 0x67

/-- `nextHandle`. -/
def nextHandle (letter : UInt16) :
    HostAction State Client Group CodeUnits :=
  fun host =>
    (.ok (letter :: natText (host.seq + 1)),
      { host with seq := host.seq + 1 })

/-- `clients.set`. -/
def setClient (handle : CodeUnits) (client : Client) :
    HostAction State Client Group Unit :=
  Throwing.update fun host =>
    { host with clients := host.clients.set handle client }

/-- `groups.set`. -/
def setGroup (handle : CodeUnits) (group : Group) :
    HostAction State Client Group Unit :=
  Throwing.update fun host =>
    { host with groups := host.groups.set handle group }

section Methods

variable
  (api : Core State Client Group)
  (format : NumberFormat Number)
  (texts : EngineTexts)

/-! ## Arguments -/

/-- A property of the arguments; reading one of `null` throws. -/
def property (args : Option (Json Number)) (name : String) :
    HostAction State Client Group (Option (Json Number)) :=
  match args with
  | none | some .null => raise texts.typeError
  | some value => ret (value.member (literal name))

/-- The text that a template literal shows for a property, if any. -/
def shown : Option (Json Number) → Option CodeUnits
  | none => some (literal "undefined")
  | some value => value.display format

/-- The error of a failed lookup, or of the template literal that names it. -/
def lookupError (kind : String) (handle : Option (Json Number)) :
    CodeUnits :=
  match shown format handle with
  | some text => literal kind ++ text
  | none => texts.typeError

/-- The client behind a handle that is a string. -/
def clientNamed (handle : CodeUnits) : HostAction State Client Group Client :=
  fun host =>
    match host.clients.get handle with
    | some client => (.ok client, host)
    | none => (.error (literal "unknown client handle: " ++ handle), host)

/-- `client`, the lookup of a client handle. -/
def client (handle : Option (Json Number)) :
    HostAction State Client Group Client :=
  match handle with
  | some (.string text) => clientNamed text
  | other =>
      raise (lookupError format texts "unknown client handle: " other)

/-- The group behind a handle that is a string. -/
def groupNamed (handle : CodeUnits) : HostAction State Client Group Group :=
  fun host =>
    match host.groups.get handle with
    | some group => (.ok group, host)
    | none => (.error (literal "unknown group handle: " ++ handle), host)

/-- `group`, the lookup of a group handle. -/
def group (handle : Option (Json Number)) :
    HostAction State Client Group Group :=
  match handle with
  | some (.string text) => groupNamed text
  | other =>
      raise (lookupError format texts "unknown group handle: " other)

/-- An argument that the core takes as a string. -/
def stringArgument (argument : Option (Json Number)) :
    HostAction State Client Group CodeUnits :=
  match argument with
  | some (.string text) => ret text
  | _ => raise texts.typeError

/-- `base64ToBytes` of an argument. -/
def bytesArgument (argument : Option (Json Number)) :
    HostAction State Client Group Bytes := do
  match HostStore.base64ToBytes (← stringArgument texts argument) with
  | .ok bytes => return bytes
  | .error error => raise (texts.ofPageError error)

/-- The 32-bit word that the bindings make of a length; `null` is zero. -/
def lengthArgument (argument : Option (Json Number)) :
    HostAction State Client Group UInt32 :=
  match argument with
  | some (.number length) => ret (format.toUint32 length)
  | some .null | none => ret 0
  | _ => raise texts.typeError

/-! ## Results -/

/-- `bytesToBase64` of a result. -/
def bytesJson (bytes : Bytes) :
    HostAction State Client Group (Json Number) :=
  match HostStore.bytesToBase64 bytes with
  | .ok text => ret (.string text)
  | .error error => raise (texts.ofPageError error)

/-- An object with one byte string. -/
def bytesResult (name : String) (bytes : Bytes) :
    HostAction State Client Group (Json Number) := do
  return .object [(literal name, ← bytesJson texts bytes)]

/-- A byte string that may be absent. -/
def optionalJson : Option Bytes →
    HostAction State Client Group (Json Number)
  | none => ret .null
  | some bytes => bytesJson texts bytes

/-- `commitB64`. -/
def commitB64 (commit : Commit) :
    HostAction State Client Group (Json Number) := do
  let proposal ← optionalJson texts commit.proposal
  let message ← bytesJson texts commit.commit
  let welcome ← optionalJson texts commit.welcome
  return .object
    [(literal "proposal", proposal), (literal "commit", message),
      (literal "welcome", welcome)]

/-- A text that may be absent. -/
def textJson : Option CodeUnits → Json Number
  | none => .null
  | some text => .string text

/-- File a group under a new handle and return the handle. -/
def groupResult (group : Group) :
    HostAction State Client Group (Json Number) := do
  let handle ← nextHandle groupLetter
  setGroup handle group
  return .object [(literal "group", .string handle)]

/-- File a group, if there is one. -/
def maybeGroupResult :
    Option Group → HostAction State Client Group (Json Number)
  | none => return .object [(literal "group", .null)]
  | some group => groupResult group

/-- Take a handle, then make the client to be filed under it. -/
def clientResult (make : HostAction State Client Group Client) :
    HostAction State Client Group (Json Number) := do
  let handle ← nextHandle clientLetter
  setClient handle (← make)
  return .object [(literal "client", .string handle)]

/-! ## The methods -/

/-- A method of the table; the request may lack its arguments. -/
abbrev Method (State Client Group Number : Type) : Type :=
  Option (Json Number) → HostAction State Client Group (Json Number)

/-- `methods.newClient`. -/
def newClient : Method State Client Group Number := fun a =>
  clientResult do
    let name ← stringArgument texts (← property texts a "name")
    onCore (api.newClient name)

/-- `methods.openClient`; the handle is taken before the client is open. -/
def openClient : Method State Client Group Number := fun a =>
  clientResult do
    let id ← stringArgument texts (← property texts a "id")
    onCore (api.openClient id)

/-- `methods.saveClient`. -/
def saveClient : Method State Client Group Number := fun a => do
  onCore (api.save (← client format texts (← property texts a "client")))
  return .object []

/-- `methods.keyPackage`. -/
def keyPackage : Method State Client Group Number := fun a => do
  let client ← client format texts (← property texts a "client")
  bytesResult texts "keyPackage" (← onCore (api.keyPackage client))

/-- `methods.createGroup`. -/
def createGroup : Method State Client Group Number := fun a => do
  let client ← client format texts (← property texts a "client")
  let groupId ← stringArgument texts (← property texts a "groupId")
  groupResult (← onCore (api.createGroup client groupId))

/-- `methods.joinGroup`. -/
def joinGroup : Method State Client Group Number := fun a => do
  let client ← client format texts (← property texts a "client")
  let welcome ← bytesArgument texts (← property texts a "welcome")
  let ratchetTree ← bytesArgument texts (← property texts a "ratchetTree")
  let groupId ← stringArgument texts (← property texts a "groupId")
  groupResult (← onCore (api.joinGroup client welcome ratchetTree groupId))

/-- `methods.group`. -/
def groupMethod : Method State Client Group Number := fun a => do
  let client ← client format texts (← property texts a "client")
  let groupId ← stringArgument texts (← property texts a "groupId")
  maybeGroupResult (← onCore (api.group client groupId))

/-- `methods.add`. -/
def add : Method State Client Group Number := fun a => do
  let group ← group format texts (← property texts a "group")
  let keyPackage ← bytesArgument texts (← property texts a "keyPackage")
  let result ← onCore (api.add group keyPackage)
  let welcome ← bytesJson texts result.welcome
  let ratchetTree ← bytesJson texts result.ratchetTree
  let proposal ← bytesJson texts result.proposal
  let commit ← bytesJson texts result.commit
  return .object
    [(literal "welcome", welcome), (literal "ratchetTree", ratchetTree),
      (literal "proposal", proposal), (literal "commit", commit)]

/-- `methods.send`. -/
def send : Method State Client Group Number := fun a => do
  let group ← group format texts (← property texts a "group")
  let text ← stringArgument texts (← property texts a "text")
  bytesResult texts "ciphertext" (← onCore (api.send group text))

/-- `methods.receiveText`. -/
def receiveText : Method State Client Group Number := fun a => do
  let group ← group format texts (← property texts a "group")
  let ciphertext ← bytesArgument texts (← property texts a "ciphertext")
  let text ← onCore (api.receiveText group ciphertext)
  return .object [(literal "text", textJson text)]

/-- `methods.receive`. -/
def receiveMethod : Method State Client Group Number := fun a => do
  let group ← group format texts (← property texts a "group")
  let message ← bytesArgument texts (← property texts a "message")
  bytesResult texts "bytes" (← onCore (api.receive group message))

/-- `methods.exportRatchetTree`. -/
def exportRatchetTree : Method State Client Group Number := fun a => do
  let group ← group format texts (← property texts a "group")
  bytesResult texts "ratchetTree" (← onCore (api.exportRatchetTree group))

/-- `methods.exportKey`. -/
def exportKey : Method State Client Group Number := fun a => do
  let group ← group format texts (← property texts a "group")
  let label ← stringArgument texts (← property texts a "label")
  let context ← bytesArgument texts (← property texts a "context")
  let length ← lengthArgument format texts (← property texts a "length")
  bytesResult texts "key"
    (← onCore (api.exportKey group label context length))

/-- `methods.remove`. -/
def remove : Method State Client Group Number := fun a => do
  let group ← group format texts (← property texts a "group")
  let name ← stringArgument texts (← property texts a "name")
  commitB64 texts (← onCore (api.remove group name))

/-- `methods.update`. -/
def update : Method State Client Group Number := fun a => do
  let group ← group format texts (← property texts a "group")
  commitB64 texts (← onCore (api.update group))

/-- `methods.leave`. -/
def leave : Method State Client Group Number := fun a => do
  let group ← group format texts (← property texts a "group")
  bytesResult texts "proposal" (← onCore (api.leave group))

/-- `methods.commit`. -/
def commit : Method State Client Group Number := fun a => do
  let group ← group format texts (← property texts a "group")
  commitB64 texts (← onCore (api.commit group))

/-- `methods.proposeAdd`. -/
def proposeAdd : Method State Client Group Number := fun a => do
  let group ← group format texts (← property texts a "group")
  let keyPackage ← bytesArgument texts (← property texts a "keyPackage")
  bytesResult texts "proposal" (← onCore (api.proposeAdd group keyPackage))

/-- `methods.proposeRemove`. -/
def proposeRemove : Method State Client Group Number := fun a => do
  let group ← group format texts (← property texts a "group")
  let name ← stringArgument texts (← property texts a "name")
  bytesResult texts "proposal" (← onCore (api.proposeRemove group name))

/-- `methods.proposeUpdate`. -/
def proposeUpdate : Method State Client Group Number := fun a => do
  let group ← group format texts (← property texts a "group")
  bytesResult texts "proposal" (← onCore (api.proposeUpdate group))

/-- `methods.members`. -/
def members : Method State Client Group Number := fun a => do
  let group ← group format texts (← property texts a "group")
  let names ← onCore (api.members group)
  return .object [(literal "members", .array (names.map .string))]

/-- `methods.active`. -/
def active : Method State Client Group Number := fun a => do
  let group ← group format texts (← property texts a "group")
  return .object [(literal "active", .bool (← onCore (api.active group)))]

/-- The table `methods`, without the two methods on the whole store. -/
def methods : List (CodeUnits × Method State Client Group Number) :=
  [(literal "newClient", newClient api texts),
    (literal "openClient", openClient api texts),
    (literal "saveClient", saveClient api format texts),
    (literal "keyPackage", keyPackage api format texts),
    (literal "createGroup", createGroup api format texts),
    (literal "joinGroup", joinGroup api format texts),
    (literal "group", groupMethod api format texts),
    (literal "add", add api format texts),
    (literal "send", send api format texts),
    (literal "receiveText", receiveText api format texts),
    (literal "receive", receiveMethod api format texts),
    (literal "exportRatchetTree", exportRatchetTree api format texts),
    (literal "exportKey", exportKey api format texts),
    (literal "remove", remove api format texts),
    (literal "update", update api format texts),
    (literal "leave", leave api format texts),
    (literal "commit", commit api format texts),
    (literal "proposeAdd", proposeAdd api format texts),
    (literal "proposeRemove", proposeRemove api format texts),
    (literal "proposeUpdate", proposeUpdate api format texts),
    (literal "members", members api format texts),
    (literal "active", active api format texts)]

/-! ## Requests and responses -/

/-- `fn(req.args)`, for a method of the table. -/
def invoke (method : CodeUnits) (args : Option (Json Number)) :
    HostAction State Client Group (Json Number) :=
  match (methods api format texts).find? fun entry =>
      decide (entry.1 = method) with
  | none => raise (literal "unknown method: " ++ method)
  | some entry => entry.2 args

/-- The response of `dispatch` to a method that returned or threw. -/
def responseJson (id : Number) :
    Except CodeUnits (Json Number) → Json Number
  | .ok result =>
      .object
        [(literal "id", .number id), (literal "ok", .bool true),
          (literal "result", result)]
  | .error message =>
      .object
        [(literal "id", .number id), (literal "ok", .bool false),
          (literal "error", .string message)]

/-- `receive`: run a request and post its response, or ignore the string. -/
def receive (raw : CodeUnits) (host : Host State Client Group) :
    List CodeUnits × Host State Client Group :=
  match Json.parse format raw with
  | none => ([], host)
  | some request =>
      match request.member (literal "id"),
          request.member (literal "method") with
      | some (.number id), some (.string method) =>
          let (result, reached) :=
            invoke api format texts method
              (request.member (literal "args")) host
          ([Json.stringify format (responseJson id result)], reached)
      | _, _ => ([], host)

/-! ## Texts read back -/

theorem receive_request
    (id : Nat) (method : CodeUnits) (args : Json Number)
    (host : Host State Client Group) :
    receive api format texts
        (Json.stringify format
          (RequestBridge.requestJson (format.ofNat id) method args)) host =
      ([Json.stringify format
          (responseJson (format.ofNat id)
            (invoke api format texts method
              (some (Json.reread format args)) host).1)],
        (invoke api format texts method
          (some (Json.reread format args)) host).2) := by
  rw [receive, Json.parse_stringify, RequestBridge.reread_requestJson]
  rfl

/-- The result of a method behind the JSON text of its response. -/
def rereadResult :
    Except CodeUnits (Json Number) → Except CodeUnits (Json Number)
  | .ok result => .ok (Json.reread format result)
  | .error message => .error message

theorem reread_responseJson
    (id : Nat) (result : Except CodeUnits (Json Number)) :
    Json.reread format (responseJson (format.ofNat id) result) =
      responseJson (format.ofNat id) (rereadResult format result) := by
  cases result with
  | ok result =>
      rw [responseJson, Json.reread_object_of_nodup]
      · simp only [List.map_cons, List.map_nil, Json.reread,
          format.isFinite_ofNat, if_true, format.ofText_toText_ofNat,
          responseJson, rereadResult]
      · simp only [List.map_cons, List.map_nil]
        decide
  | error message =>
      rw [responseJson, Json.reread_object_of_nodup]
      · simp only [List.map_cons, List.map_nil, Json.reread,
          format.isFinite_ofNat, if_true, format.ofText_toText_ofNat,
          responseJson, rereadResult]
      · simp only [List.map_cons, List.map_nil]
        decide

/-! ## The methods on the requests of the facade -/

/-- The request argument that names an object. -/
def handleEntry (name : String) (handle : CodeUnits) :
    String × Json Number :=
  (name, .string handle)

/-- The request argument that holds a byte string in base64. -/
def bytesEntry (name : String) (bytes : Bytes) : String × Json Number :=
  (name, .string (Base64Codec.bytesToBase64 bytes))

/-- A method on arguments that went through JSON. -/
def invokeWith (method : String) (args : List (String × Json Number)) :
    HostAction State Client Group (Json Number) :=
  invoke api format texts (literal method)
    (some (Json.reread format
      (.object (args.map fun entry => (literal entry.1, entry.2)))))

theorem nodup_methods :
    ((methods api format texts).map Prod.fst).Nodup := by
  simp only [methods, List.map_cons, List.map_nil]
  decide

/-- A method of the table is invoked by its name. -/
theorem invoke_of_listed
    {index : Nat} {method : CodeUnits}
    {run : Method State Client Group Number}
    (listed : (methods api format texts)[index]? = some (method, run))
    (args : Option (Json Number)) :
    invoke api format texts method args = run args := by
  let table : InsertionMap CodeUnits (Method State Client Group Number) :=
    ⟨methods api format texts, nodup_methods api format texts⟩
  have found : table.get method = some run :=
    (InsertionMap.get_eq_some_iff table method run).mpr
      (List.mem_of_getElem? listed)
  rcases Option.map_eq_some_iff.mp found with ⟨entry, located, rfl⟩
  rw [invoke, located]

/-- Distinct argument names all reach the method. -/
theorem invokeWith_eq
    (index : Nat) {method : String}
    {run : Method State Client Group Number}
    (listed : (methods api format texts)[index]? = some (literal method, run))
    (names : List String) (args : List (String × Json Number))
    (named : args.map Prod.fst = names)
    (distinct : (names.map literal).Nodup) :
    invokeWith api format texts method args =
      run (some (.object (args.map fun entry =>
        (literal entry.1, Json.reread format entry.2)))) := by
  rw [invokeWith, invoke_of_listed api format texts listed,
    Json.reread_object_of_nodup]
  · simp only [List.map_map, Function.comp_def]
  · rw [← named, List.map_map] at distinct
    simpa only [List.map_map, Function.comp_def] using distinct

/-- The page gets the bytes back that the facade encoded. -/
theorem base64ToBytes_bytesToBase64 (bytes : Bytes) :
    HostStore.base64ToBytes (Base64Codec.bytesToBase64 bytes) = .ok bytes := by
  rw [Base64Codec.bytesToBase64_eq, HostStore.base64ToBytes_encode]

theorem bytesArgument_bytesToBase64 (bytes : Bytes) :
    (bytesArgument texts
        (some (.string (Base64Codec.bytesToBase64 bytes) : Json Number)) :
      HostAction State Client Group Bytes) = ret bytes := by
  funext host
  change (match HostStore.base64ToBytes
      (Base64Codec.bytesToBase64 bytes) with
    | .ok bytes => ret bytes
    | .error error => raise (texts.ofPageError error)) host = _
  rw [base64ToBytes_bytesToBase64]

@[simp]
theorem bytesJson_eq (bytes : Bytes) :
    (bytesJson texts bytes : HostAction State Client Group (Json Number)) =
      ret (.string (Base64.encode bytes)) := by
  rw [bytesJson, HostStore.bytesToBase64_eq]

/-- The text of a byte string that may be absent. -/
def optionalText : Option Bytes → Json Number
  | none => .null
  | some bytes => .string (Base64.encode bytes)

@[simp]
theorem optionalJson_eq (bytes : Option Bytes) :
    (optionalJson texts bytes :
        HostAction State Client Group (Json Number)) =
      ret (optionalText bytes) := by
  cases bytes with
  | none => rfl
  | some bytes => exact bytesJson_eq texts bytes

theorem bytesResult_eq (name : String) (bytes : Bytes) :
    (bytesResult texts name bytes :
        HostAction State Client Group (Json Number)) =
      ret
        (.object [(literal name, .string (Base64.encode bytes))]) := by
  rw [bytesResult, bytesJson_eq]
  rfl

/-- The response to a request for a commit. -/
def commitJson (commit : Commit) : Json Number :=
  .object
    [(literal "proposal", optionalText commit.proposal),
      (literal "commit", .string (Base64.encode commit.commit)),
      (literal "welcome", optionalText commit.welcome)]

theorem commitB64_eq (commit : Commit) :
    (commitB64 texts commit : HostAction State Client Group (Json Number)) =
      ret (commitJson commit) := by
  rw [commitB64, optionalJson_eq, bytesJson_eq, optionalJson_eq]
  rfl

theorem client_of_get
    {handle : CodeUnits} {found : Client}
    {host : Host State Client Group}
    (filed : host.clients.get handle = some found) :
    client format texts (some (.string handle)) host = (.ok found, host) := by
  simp only [client, clientNamed, filed]

theorem group_of_get
    {handle : CodeUnits} {found : Group}
    {host : Host State Client Group}
    (filed : host.groups.get handle = some found) :
    group format texts (some (.string handle)) host = (.ok found, host) := by
  simp only [group, groupNamed, filed]

/-- A handle is used up whether or not the client was made. -/
theorem clientResult_onCore
    (operation : Operation State Client)
    (host : Host State Client Group) :
    (clientResult (onCore operation) :
        HostAction State Client Group (Json Number)) host =
      match operation host.core with
      | (.error message, core) =>
          (.error message, { host with core, seq := host.seq + 1 })
      | (.ok client, core) =>
          (.ok (.object [(literal "client",
              .string (clientLetter :: natText (host.seq + 1)))]),
            { host with
              core
              seq := host.seq + 1
              clients :=
                host.clients.set
                  (clientLetter :: natText (host.seq + 1)) client }) := by
  have numbered :
      nextHandle clientLetter host =
        (.ok (clientLetter :: natText (host.seq + 1)),
          { host with seq := host.seq + 1 }) :=
    rfl
  rw [clientResult, bind_of_ok numbered, bind_apply, onCore]
  simp only [zoom]
  cases operation host.core with
  | mk result core =>
      cases result with
      | error message => rfl
      | ok client => rfl

theorem groupResult_eq (group : Group) (host : Host State Client Group) :
    (groupResult group : HostAction State Client Group (Json Number))
        host =
      (.ok (.object [(literal "group",
          .string (groupLetter :: natText (host.seq + 1)))]),
        { host with
          seq := host.seq + 1
          groups :=
            host.groups.set (groupLetter :: natText (host.seq + 1))
              group }) :=
  rfl

variable {api format texts}

theorem reread_optionalText (bytes : Option Bytes) :
    Json.reread format (optionalText bytes) = optionalText bytes := by
  cases bytes with
  | none => simp only [optionalText, Json.reread]
  | some bytes => simp only [optionalText, Json.reread]

theorem reread_commitJson (commit : Commit) :
    Json.reread format (commitJson commit) = commitJson commit := by
  rw [commitJson, Json.reread_object_of_nodup]
  · simp only [List.map_cons, List.map_nil, Json.reread, reread_optionalText]
  · simp only [List.map_cons, List.map_nil]
    decide

/-- A length keeps its word; what is not finite arrives as `null`. -/
theorem lengthArgument_reread (length : Number) :
    (lengthArgument format texts
        (some (Json.reread format (.number length))) :
      HostAction State Client Group UInt32) =
      ret (format.toUint32 length) := by
  rw [Json.reread]
  cases finite : format.isFinite length with
  | true =>
      rw [if_pos rfl, ← format.toUint32_ofText_toText length finite]
      rfl
  | false =>
      rw [if_neg Bool.false_ne_true,
        format.toUint32_of_not_finite length finite]
      rfl

/-- The response to a request that adds a member. -/
def addedJson (result : AddResult) : Json Number :=
  .object
    [(literal "welcome", .string (Base64.encode result.welcome)),
      (literal "ratchetTree", .string (Base64.encode result.ratchetTree)),
      (literal "proposal", .string (Base64.encode result.proposal)),
      (literal "commit", .string (Base64.encode result.commit))]

theorem reread_addedJson (result : AddResult) :
    Json.reread format (addedJson result) = addedJson result := by
  rw [addedJson, Json.reread_object_of_nodup]
  · simp only [List.map_cons, List.map_nil, Json.reread]
  · simp only [List.map_cons, List.map_nil]
    decide

/-! ## What each method does with a request of the facade -/

theorem invokeWith_newClient (name : CodeUnits) :
    invokeWith api format texts "newClient" [("name", .string name)] =
      clientResult (onCore (api.newClient name)) := by
  rw [invokeWith_eq api format texts 0 rfl ["name"] _ rfl (by decide)]
  simp only [List.map_cons, List.map_nil, Json.reread_string]
  rfl

theorem invokeWith_openClient (id : CodeUnits) :
    invokeWith api format texts "openClient" [("id", .string id)] =
      clientResult (onCore (api.openClient id)) := by
  rw [invokeWith_eq api format texts 1 rfl ["id"] _ rfl (by decide)]
  simp only [List.map_cons, List.map_nil, Json.reread_string]
  rfl

variable (handle : CodeUnits)

theorem invokeWith_saveClient :
    invokeWith api format texts "saveClient"
        [handleEntry "client" handle] =
      (client format texts (some (.string handle)) >>= fun client =>
        onCore (api.save client) >>= fun _ => ret (.object [])) := by
  rw [invokeWith_eq api format texts 2 rfl ["client"] _ rfl (by decide)]
  simp only [handleEntry, List.map_cons, List.map_nil, Json.reread_string]
  rfl

theorem invokeWith_keyPackage :
    invokeWith api format texts "keyPackage"
        [handleEntry "client" handle] =
      (client format texts (some (.string handle)) >>= fun client =>
        onCore (api.keyPackage client) >>=
          bytesResult texts "keyPackage") := by
  rw [invokeWith_eq api format texts 3 rfl ["client"] _ rfl (by decide)]
  simp only [handleEntry, List.map_cons, List.map_nil, Json.reread_string]
  rfl

theorem invokeWith_createGroup (groupId : CodeUnits) :
    invokeWith api format texts "createGroup"
        [handleEntry "client" handle, ("groupId", .string groupId)] =
      (client format texts (some (.string handle)) >>= fun client =>
        onCore (api.createGroup client groupId) >>= groupResult) := by
  rw [invokeWith_eq api format texts 4 rfl
    ["client", "groupId"] _ rfl (by decide)]
  simp only [handleEntry, List.map_cons, List.map_nil, Json.reread_string]
  rfl

theorem invokeWith_joinGroup
    (welcome ratchetTree : Bytes) (groupId : CodeUnits) :
    invokeWith api format texts "joinGroup"
        [handleEntry "client" handle, bytesEntry "welcome" welcome,
          bytesEntry "ratchetTree" ratchetTree, ("groupId", .string groupId)] =
      (client format texts (some (.string handle)) >>= fun client =>
        onCore (api.joinGroup client welcome ratchetTree groupId) >>=
          groupResult) := by
  rw [invokeWith_eq api format texts 5 rfl
    ["client", "welcome", "ratchetTree", "groupId"] _ rfl (by decide)]
  simp only [handleEntry, bytesEntry, List.map_cons, List.map_nil,
    Json.reread_string]
  change (client format texts (some (.string handle)) >>= fun client =>
    bytesArgument texts (some (.string
      (Base64Codec.bytesToBase64 welcome))) >>= fun welcome =>
    bytesArgument texts (some (.string
      (Base64Codec.bytesToBase64 ratchetTree))) >>= fun ratchetTree =>
    onCore (api.joinGroup client welcome ratchetTree groupId) >>=
      groupResult) = _
  rw [bytesArgument_bytesToBase64, bytesArgument_bytesToBase64]
  rfl

theorem invokeWith_group (groupId : CodeUnits) :
    invokeWith api format texts "group"
        [handleEntry "client" handle, ("groupId", .string groupId)] =
      (client format texts (some (.string handle)) >>= fun client =>
        onCore (api.group client groupId) >>= maybeGroupResult) := by
  rw [invokeWith_eq api format texts 6 rfl
    ["client", "groupId"] _ rfl (by decide)]
  simp only [handleEntry, List.map_cons, List.map_nil, Json.reread_string]
  rfl

/-- A group and a byte string that the facade encoded. -/
theorem group_bytesArgument (bytes : Bytes)
    (next : Group → Bytes → HostAction State Client Group (Json Number)) :
    (group format texts (some (.string handle)) >>= fun group =>
        bytesArgument texts
          (some (.string (Base64Codec.bytesToBase64 bytes) : Json Number)) >>=
            next group) =
      (group format texts (some (.string handle)) >>= fun group =>
        next group bytes) := by
  rw [bytesArgument_bytesToBase64]
  rfl

theorem invokeWith_add (keyPackage : Bytes) :
    invokeWith api format texts "add"
        [handleEntry "group" handle, bytesEntry "keyPackage" keyPackage] =
      (group format texts (some (.string handle)) >>= fun group =>
        onCore (api.add group keyPackage) >>= fun result =>
          ret (addedJson result)) := by
  rw [invokeWith_eq api format texts 7 rfl
    ["group", "keyPackage"] _ rfl (by decide)]
  simp only [handleEntry, bytesEntry, List.map_cons, List.map_nil,
    Json.reread_string]
  change (group format texts (some (.string handle)) >>= fun group =>
    bytesArgument texts (some (.string
      (Base64Codec.bytesToBase64 keyPackage))) >>= fun keyPackage =>
    onCore (api.add group keyPackage) >>= fun result =>
    bytesJson texts result.welcome >>= fun welcome =>
    bytesJson texts result.ratchetTree >>= fun ratchetTree =>
    bytesJson texts result.proposal >>= fun proposal =>
    bytesJson texts result.commit >>= fun commit =>
    ret (Json.object [(literal "welcome", welcome),
      (literal "ratchetTree", ratchetTree),
      (literal "proposal", proposal), (literal "commit", commit)])) = _
  simp only [bytesArgument_bytesToBase64, bytesJson_eq]
  rfl

theorem invokeWith_send (text : CodeUnits) :
    invokeWith api format texts "send"
        [handleEntry "group" handle, ("text", .string text)] =
      (group format texts (some (.string handle)) >>= fun group =>
        onCore (api.send group text) >>= bytesResult texts "ciphertext") := by
  rw [invokeWith_eq api format texts 8 rfl ["group", "text"] _ rfl (by decide)]
  simp only [handleEntry, List.map_cons, List.map_nil, Json.reread_string]
  rfl

theorem invokeWith_receiveText (ciphertext : Bytes) :
    invokeWith api format texts "receiveText"
        [handleEntry "group" handle, bytesEntry "ciphertext" ciphertext] =
      (group format texts (some (.string handle)) >>= fun group =>
        onCore (api.receiveText group ciphertext) >>= fun text =>
          ret (Json.object [(literal "text", textJson text)])) := by
  rw [invokeWith_eq api format texts 9 rfl
    ["group", "ciphertext"] _ rfl (by decide)]
  simp only [handleEntry, bytesEntry, List.map_cons, List.map_nil,
    Json.reread_string]
  exact group_bytesArgument handle ciphertext _

theorem invokeWith_receive (message : Bytes) :
    invokeWith api format texts "receive"
        [handleEntry "group" handle, bytesEntry "message" message] =
      (group format texts (some (.string handle)) >>= fun group =>
        onCore (api.receive group message) >>= bytesResult texts "bytes") := by
  rw [invokeWith_eq api format texts 10 rfl
    ["group", "message"] _ rfl (by decide)]
  simp only [handleEntry, bytesEntry, List.map_cons, List.map_nil,
    Json.reread_string]
  exact group_bytesArgument handle message _

theorem invokeWith_exportRatchetTree :
    invokeWith api format texts "exportRatchetTree"
        [handleEntry "group" handle] =
      (group format texts (some (.string handle)) >>= fun group =>
        onCore (api.exportRatchetTree group) >>=
          bytesResult texts "ratchetTree") := by
  rw [invokeWith_eq api format texts 11 rfl ["group"] _ rfl (by decide)]
  simp only [handleEntry, List.map_cons, List.map_nil, Json.reread_string]
  rfl

theorem invokeWith_exportKey
    (label : CodeUnits) (context : Bytes) (length : Number) :
    invokeWith api format texts "exportKey"
        [handleEntry "group" handle, ("label", .string label),
          bytesEntry "context" context, ("length", .number length)] =
      (group format texts (some (.string handle)) >>= fun group =>
        onCore (api.exportKey group label context
          (format.toUint32 length)) >>= bytesResult texts "key") := by
  rw [invokeWith_eq api format texts 12 rfl
    ["group", "label", "context", "length"] _ rfl (by decide)]
  simp only [handleEntry, bytesEntry, List.map_cons, List.map_nil,
    Json.reread_string]
  change (group format texts (some (.string handle)) >>= fun group =>
    bytesArgument texts (some (.string
      (Base64Codec.bytesToBase64 context))) >>= fun context =>
    lengthArgument format texts (some
      (Json.reread format (.number length))) >>= fun length =>
    onCore (api.exportKey group label context length) >>=
      bytesResult texts "key") = _
  rw [bytesArgument_bytesToBase64, lengthArgument_reread]
  rfl

theorem invokeWith_remove (name : CodeUnits) :
    invokeWith api format texts "remove"
        [handleEntry "group" handle, ("name", .string name)] =
      (group format texts (some (.string handle)) >>= fun group =>
        onCore (api.remove group name) >>= commitB64 texts) := by
  rw [invokeWith_eq api format texts 13 rfl ["group", "name"] _ rfl (by decide)]
  simp only [handleEntry, List.map_cons, List.map_nil, Json.reread_string]
  rfl

theorem invokeWith_update :
    invokeWith api format texts "update"
        [handleEntry "group" handle] =
      (group format texts (some (.string handle)) >>= fun group =>
        onCore (api.update group) >>= commitB64 texts) := by
  rw [invokeWith_eq api format texts 14 rfl ["group"] _ rfl (by decide)]
  simp only [handleEntry, List.map_cons, List.map_nil, Json.reread_string]
  rfl

theorem invokeWith_leave :
    invokeWith api format texts "leave"
        [handleEntry "group" handle] =
      (group format texts (some (.string handle)) >>= fun group =>
        onCore (api.leave group) >>= bytesResult texts "proposal") := by
  rw [invokeWith_eq api format texts 15 rfl ["group"] _ rfl (by decide)]
  simp only [handleEntry, List.map_cons, List.map_nil, Json.reread_string]
  rfl

theorem invokeWith_commit :
    invokeWith api format texts "commit"
        [handleEntry "group" handle] =
      (group format texts (some (.string handle)) >>= fun group =>
        onCore (api.commit group) >>= commitB64 texts) := by
  rw [invokeWith_eq api format texts 16 rfl ["group"] _ rfl (by decide)]
  simp only [handleEntry, List.map_cons, List.map_nil, Json.reread_string]
  rfl

theorem invokeWith_proposeAdd (keyPackage : Bytes) :
    invokeWith api format texts "proposeAdd"
        [handleEntry "group" handle, bytesEntry "keyPackage" keyPackage] =
      (group format texts (some (.string handle)) >>= fun group =>
        onCore (api.proposeAdd group keyPackage) >>=
          bytesResult texts "proposal") := by
  rw [invokeWith_eq api format texts 17 rfl
    ["group", "keyPackage"] _ rfl (by decide)]
  simp only [handleEntry, bytesEntry, List.map_cons, List.map_nil,
    Json.reread_string]
  exact group_bytesArgument handle keyPackage _

theorem invokeWith_proposeRemove (name : CodeUnits) :
    invokeWith api format texts "proposeRemove"
        [handleEntry "group" handle, ("name", .string name)] =
      (group format texts (some (.string handle)) >>= fun group =>
        onCore (api.proposeRemove group name) >>=
          bytesResult texts "proposal") := by
  rw [invokeWith_eq api format texts 18 rfl ["group", "name"] _ rfl (by decide)]
  simp only [handleEntry, List.map_cons, List.map_nil, Json.reread_string]
  rfl

theorem invokeWith_proposeUpdate :
    invokeWith api format texts "proposeUpdate"
        [handleEntry "group" handle] =
      (group format texts (some (.string handle)) >>= fun group =>
        onCore (api.proposeUpdate group) >>=
          bytesResult texts "proposal") := by
  rw [invokeWith_eq api format texts 19 rfl ["group"] _ rfl (by decide)]
  simp only [handleEntry, List.map_cons, List.map_nil, Json.reread_string]
  rfl

theorem invokeWith_members :
    invokeWith api format texts "members"
        [handleEntry "group" handle] =
      (group format texts (some (.string handle)) >>= fun group =>
        onCore (api.members group) >>= fun names =>
          ret (.object
            [(literal "members", .array (names.map .string))])) := by
  rw [invokeWith_eq api format texts 20 rfl ["group"] _ rfl (by decide)]
  simp only [handleEntry, List.map_cons, List.map_nil, Json.reread_string]
  rfl

theorem invokeWith_active :
    invokeWith api format texts "active"
        [handleEntry "group" handle] =
      (group format texts (some (.string handle)) >>= fun group =>
        onCore (api.active group) >>= fun active =>
          ret (.object [(literal "active", .bool active)])) := by
  rw [invokeWith_eq api format texts 21 rfl ["group"] _ rfl (by decide)]
  simp only [handleEntry, List.map_cons, List.map_nil, Json.reread_string]
  rfl

end Methods

end Mls4rn.ReactNative.HostDispatch
