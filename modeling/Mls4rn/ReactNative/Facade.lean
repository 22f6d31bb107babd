import Mls4rn.ReactNative.Base64Codec
import Mls4rn.ReactNative.HostDispatch

/-!
# The React Native facade

`Mls`, `MlsClient` and `Group` of the React Native package hold handles.  A
call turns its arguments into a request, waits for the response of the host
and decodes it.  `perform` is one awaited call with everything in between: the
bridge, both JSON texts, the dispatch of the host and both base64 codecs.
-/

namespace Mls4rn.ReactNative.Facade

open Mls4rn.Core.GroupFacade (AddResult Commit)
open Mls4rn.Lib
open Mls4rn.Lib.ByteString
open Mls4rn.Lib.NumberText
open Mls4rn.Lib.Utf16
open Mls4rn.ReactNative.CoreApi
open Mls4rn.ReactNative.HostDispatch
open Mls4rn.ReactNative.RequestBridge (Bridge Effect Outcome)

/--
The React Native process and the page: the bridge, the number of promises it
has made, the host, and the handles in the objects that a script has been
given.
-/
structure Remote (State Client Group Number : Type) where
  bridge : Bridge Number
  promises : Nat
  host : Host State Client Group
  clients : List CodeUnits
  groups : List CodeUnits

/-- Both ends behind their start. -/
def Remote.new {State Client Group Number : Type} (core : State) :
    Remote State Client Group Number where
  bridge := Bridge.new
  promises := 0
  host := Host.new core
  clients := []
  groups := []

variable {State Client Group Number : Type} [DecidableEq Number]

/-- A step of the facade: it returns, or the awaited promise is rejected. -/
abbrev FacadeAction (State Client Group Number Value : Type) : Type :=
  Throwing (Remote State Client Group Number) Failure Value

/-! ## One exchange -/

section Exchange

variable
  (api : Core State Client Group)
  (format : NumberFormat Number)
  (texts : EngineTexts)

/-- Pass the posted strings to the bridge, in order. -/
def deliver :
    List CodeUnits → Bridge Number → Bridge Number × List (Effect Number)
  | [], bridge => (bridge, [])
  | raw :: rest, bridge =>
      let (heard, effect) := RequestBridge.handleMessage format bridge raw
      let (reached, effects) := deliver rest heard
      (reached, effect :: effects)

/-- How a promise is settled among some effects. -/
def settlement (promise : Nat) :
    List (Effect Number) → Option (Outcome Number)
  | [] => none
  | .settle settled outcome :: rest =>
      if settled = promise then some outcome else settlement promise rest
  | _ :: rest => settlement promise rest

/-- `await this.#bridge.request(method, args)`, with a transport that returns. -/
def exchange (method : String) (args : List (String × Json Number)) :
    FacadeAction State Client Group Number (Option (Json Number)) :=
  fun remote =>
    let (asked, request, _) :=
      RequestBridge.request format remote.bridge remote.promises
        (literal method)
        (.object (args.map fun entry => (literal entry.1, entry.2))) none
    let (posted, host) := receive api format texts request remote.host
    let (bridge, effects) := deliver format posted asked
    let reached :=
      { remote with bridge, promises := remote.promises + 1, host }
    match settlement remote.promises effects with
    | none => (.error .waiting, reached)
    | some (.rejected message) => (.error (.rejected message), reached)
    | some (.resolved result) => (.ok result, reached)

end Exchange

/-! ## Decoding results -/

section Decoding

variable (texts : EngineTexts)

/-- A `TypeError` of the React Native engine. -/
def typeError {Value : Type} :
    FacadeAction State Client Group Number Value :=
  Throwing.raise (.rejected texts.typeError)

/-- A destructured property; `undefined` and `null` have none. -/
def field (result : Option (Json Number)) (name : String) :
    FacadeAction State Client Group Number (Option (Json Number)) :=
  match result with
  | none | some .null => typeError texts
  | some value => Throwing.ret (value.member (literal name))

/-- What a script sees of the decoder: an exception rejects the call. -/
def codecResult :
    Except Base64Codec.CodecError Bytes → Except Failure Bytes
  | .ok bytes => .ok bytes
  | .error .rangeError => .error (.rejected texts.rangeError)

/-- `base64ToBytes` of a string. -/
def decodeBytes (text : CodeUnits) :
    FacadeAction State Client Group Number Bytes :=
  Throwing.ofExcept (codecResult texts (Base64Codec.base64ToBytes text))

/-- `base64ToBytes` of a property. -/
def bytesField (result : Option (Json Number)) (name : String) :
    FacadeAction State Client Group Number Bytes := do
  match ← field texts result name with
  | some (.string text) => decodeBytes texts text
  | _ => typeError texts

/-- `text ? base64ToBytes(text) : null`, where empty text is falsy. -/
def optionalBytes (value : Option (Json Number)) :
    FacadeAction State Client Group Number (Option Bytes) :=
  match value with
  | none | some .null => return none
  | some (.string text) =>
      if text = [] then return none
      else do return some (← decodeBytes texts text)
  | _ => typeError texts

/-- A property that holds a byte string or `null`. -/
def optionalField (result : Option (Json Number)) (name : String) :
    FacadeAction State Client Group Number (Option Bytes) := do
  optionalBytes texts (← field texts result name)

/-- `decodeCommit`. -/
def decodeCommit (result : Option (Json Number)) :
    FacadeAction State Client Group Number Reply := do
  let proposal ← optionalField texts result "proposal"
  let commit ← bytesField texts result "commit"
  let welcome ← optionalField texts result "welcome"
  return .commit proposal commit welcome

/-- A property that holds a handle. -/
def handleField (result : Option (Json Number)) (name : String) :
    FacadeAction State Client Group Number CodeUnits := do
  match ← field texts result name with
  | some (.string handle) => return handle
  | _ => typeError texts

/-- `new MlsClient(this.#bridge, handle)`. -/
def giveClient (handle : CodeUnits) :
    FacadeAction State Client Group Number Reply :=
  fun remote =>
    (.ok .client, { remote with clients := remote.clients ++ [handle] })

/-- `new Group(this.#bridge, handle)`. -/
def giveGroup (handle : CodeUnits) :
    FacadeAction State Client Group Number Reply :=
  fun remote =>
    (.ok .group, { remote with groups := remote.groups ++ [handle] })

/-- `group ? new Group(this.#bridge, group) : null`. -/
def maybeGroup (value : Option (Json Number)) :
    FacadeAction State Client Group Number Reply :=
  match value with
  | none | some .null => return .noGroup
  | some (.string handle) =>
      if handle = [] then return .noGroup else giveGroup handle
  | _ => typeError texts

/-- The handle of the client with a number. -/
def clientAt (index : Nat) :
    FacadeAction State Client Group Number CodeUnits :=
  fun remote =>
    match remote.clients[index]? with
    | none => (.error .noObject, remote)
    | some handle => (.ok handle, remote)

/-- The handle of the group with a number. -/
def groupAt (index : Nat) :
    FacadeAction State Client Group Number CodeUnits :=
  fun remote =>
    match remote.groups[index]? with
    | none => (.error .noObject, remote)
    | some handle => (.ok handle, remote)

/-- A text or `null`, passed on as it is. -/
def textReply (value : Option (Json Number)) :
    FacadeAction State Client Group Number Reply :=
  match value with
  | some (.string text) => return .text (some text)
  | some .null => return .text none
  | _ => typeError texts

/-- A truth value, passed on as it is. -/
def flagReply (value : Option (Json Number)) :
    FacadeAction State Client Group Number Reply :=
  match value with
  | some (.bool value) => return .flag value
  | _ => typeError texts

/-- The items of an array of strings. -/
def namesOf : List (Json Number) → Option (List CodeUnits)
  | [] => some []
  | .string name :: rest => (namesOf rest).map (name :: ·)
  | _ :: _ => none

/-- An array of strings, passed on as it is. -/
def namesReply (value : Option (Json Number)) :
    FacadeAction State Client Group Number Reply :=
  match value with
  | some (.array items) =>
      match namesOf items with
      | some names => return .names names
      | none => typeError texts
  | _ => typeError texts

end Decoding

/-! ## The calls -/

section Calls

variable
  (api : Core State Client Group)
  (format : NumberFormat Number)
  (texts : EngineTexts)

/-- A call that resolves to one byte string. -/
def bytesCall
    (method : String) (args : List (String × Json Number))
    (name : String) : FacadeAction State Client Group Number Reply := do
  let result ← exchange api format texts method args
  return .bytes (← bytesField texts result name)

/-- A call that resolves to a commit. -/
def commitCall (method : String) (args : List (String × Json Number)) :
    FacadeAction State Client Group Number Reply := do
  decodeCommit texts (← exchange api format texts method args)

/-- Make a call of the React Native facade and await it. -/
def perform (call : Call Number) :
    FacadeAction State Client Group Number Reply :=
  match call with
  | .newClient name => do
      let result ← exchange api format texts "newClient"
        [("name", .string name)]
      giveClient (← handleField texts result "client")
  | .openClient id => do
      let result ← exchange api format texts "openClient" [("id", .string id)]
      giveClient (← handleField texts result "client")
  | .save client => do
      let handle ← clientAt client
      let _ ← exchange api format texts "saveClient"
        [handleEntry "client" handle]
      return .done
  | .keyPackage client => do
      let handle ← clientAt client
      bytesCall api format texts "keyPackage"
        [handleEntry "client" handle] "keyPackage"
  | .createGroup client groupId => do
      let handle ← clientAt client
      let result ← exchange api format texts "createGroup"
        [handleEntry "client" handle, ("groupId", .string groupId)]
      giveGroup (← handleField texts result "group")
  | .joinGroup client welcome ratchetTree groupId => do
      let handle ← clientAt client
      let result ← exchange api format texts "joinGroup"
        [handleEntry "client" handle, bytesEntry "welcome" welcome,
          bytesEntry "ratchetTree" ratchetTree,
          ("groupId", .string groupId)]
      giveGroup (← handleField texts result "group")
  | .group client groupId => do
      let handle ← clientAt client
      let result ← exchange api format texts "group"
        [handleEntry "client" handle, ("groupId", .string groupId)]
      maybeGroup texts (← field texts result "group")
  | .add group keyPackage => do
      let handle ← groupAt group
      let result ← exchange api format texts "add"
        [handleEntry "group" handle,
          bytesEntry "keyPackage" keyPackage]
      let welcome ← bytesField texts result "welcome"
      let ratchetTree ← bytesField texts result "ratchetTree"
      let proposal ← bytesField texts result "proposal"
      let commit ← bytesField texts result "commit"
      return .added { welcome, ratchetTree, proposal, commit }
  | .send group text => do
      let handle ← groupAt group
      bytesCall api format texts "send"
        [handleEntry "group" handle, ("text", .string text)]
        "ciphertext"
  | .receiveText group ciphertext => do
      let handle ← groupAt group
      let result ← exchange api format texts "receiveText"
        [handleEntry "group" handle,
          bytesEntry "ciphertext" ciphertext]
      textReply texts (← field texts result "text")
  | .receive group message => do
      let handle ← groupAt group
      bytesCall api format texts "receive"
        [handleEntry "group" handle, bytesEntry "message" message]
        "bytes"
  | .exportRatchetTree group => do
      let handle ← groupAt group
      bytesCall api format texts "exportRatchetTree"
        [handleEntry "group" handle] "ratchetTree"
  | .exportKey group label context length => do
      let handle ← groupAt group
      bytesCall api format texts "exportKey"
        [handleEntry "group" handle, ("label", .string label),
          bytesEntry "context" context, ("length", .number length)]
        "key"
  | .remove group name => do
      let handle ← groupAt group
      commitCall api format texts "remove"
        [handleEntry "group" handle, ("name", .string name)]
  | .update group => do
      let handle ← groupAt group
      commitCall api format texts "update" [handleEntry "group" handle]
  | .leave group => do
      let handle ← groupAt group
      bytesCall api format texts "leave" [handleEntry "group" handle]
        "proposal"
  | .commit group => do
      let handle ← groupAt group
      commitCall api format texts "commit" [handleEntry "group" handle]
  | .proposeAdd group keyPackage => do
      let handle ← groupAt group
      bytesCall api format texts "proposeAdd"
        [handleEntry "group" handle,
          bytesEntry "keyPackage" keyPackage]
        "proposal"
  | .proposeRemove group name => do
      let handle ← groupAt group
      bytesCall api format texts "proposeRemove"
        [handleEntry "group" handle, ("name", .string name)] "proposal"
  | .proposeUpdate group => do
      let handle ← groupAt group
      bytesCall api format texts "proposeUpdate"
        [handleEntry "group" handle] "proposal"
  | .members group => do
      let handle ← groupAt group
      let result ← exchange api format texts "members"
        [handleEntry "group" handle]
      namesReply texts (← field texts result "members")
  | .active group => do
      let handle ← groupAt group
      let result ← exchange api format texts "active"
        [handleEntry "group" handle]
      flagReply texts (← field texts result "active")

end Calls

end Mls4rn.ReactNative.Facade
