import Mls4rn.Core.GroupFacade
import Mls4rn.Lib.NumberText

/-!
# The core API as React Native sees it

The facade of `src/client.ts` is taken here as an arbitrary state machine:
every operation runs on a state shared by all clients and groups and either
returns or throws an error with a message.

A script is a list of calls on objects returned earlier.  `direct` makes the
calls on the core itself.
-/

namespace Mls4rn.ReactNative.CoreApi

open Mls4rn.Core.GroupFacade (AddResult Commit)
open Mls4rn.Lib
open Mls4rn.Lib.ByteString
open Mls4rn.Lib.NumberText
open Mls4rn.Lib.Utf16

/-! ## Operations -/

/-- An operation of the core: it returns, or throws a message. -/
abbrev Operation (State Value : Type) : Type :=
  Throwing State CodeUnits Value

/--
`MlsClient` and `Group`.  The length of an exported key is the 32-bit word
that the bindings make of it.
-/
structure Core (State Client Group : Type) where
  newClient (name : CodeUnits) : Operation State Client
  openClient (id : CodeUnits) : Operation State Client
  save (client : Client) : Operation State Unit
  keyPackage (client : Client) : Operation State Bytes
  createGroup (client : Client) (groupId : CodeUnits) : Operation State Group
  joinGroup (client : Client) (welcome ratchetTree : Bytes)
    (groupId : CodeUnits) : Operation State Group
  group (client : Client) (groupId : CodeUnits) :
    Operation State (Option Group)
  add (group : Group) (keyPackage : Bytes) : Operation State AddResult
  send (group : Group) (text : CodeUnits) : Operation State Bytes
  receiveText (group : Group) (ciphertext : Bytes) :
    Operation State (Option CodeUnits)
  receive (group : Group) (message : Bytes) : Operation State Bytes
  exportRatchetTree (group : Group) : Operation State Bytes
  exportKey (group : Group) (label : CodeUnits) (context : Bytes)
    (length : UInt32) : Operation State Bytes
  remove (group : Group) (name : CodeUnits) : Operation State Commit
  update (group : Group) : Operation State Commit
  leave (group : Group) : Operation State Bytes
  commit (group : Group) : Operation State Commit
  proposeAdd (group : Group) (keyPackage : Bytes) : Operation State Bytes
  proposeRemove (group : Group) (name : CodeUnits) : Operation State Bytes
  proposeUpdate (group : Group) : Operation State Bytes
  members (group : Group) : Operation State (List CodeUnits)
  active (group : Group) : Operation State Bool

/-! ## Scripts -/

/--
One awaited call of the React Native facade.  Clients and groups are numbered
in the order in which earlier calls returned them.
-/
inductive Call (Number : Type) where
  | newClient (name : CodeUnits)
  | openClient (id : CodeUnits)
  | save (client : Nat)
  | keyPackage (client : Nat)
  | createGroup (client : Nat) (groupId : CodeUnits)
  | joinGroup (client : Nat) (welcome ratchetTree : Bytes)
      (groupId : CodeUnits)
  | group (client : Nat) (groupId : CodeUnits)
  | add (group : Nat) (keyPackage : Bytes)
  | send (group : Nat) (text : CodeUnits)
  | receiveText (group : Nat) (ciphertext : Bytes)
  | receive (group : Nat) (message : Bytes)
  | exportRatchetTree (group : Nat)
  | exportKey (group : Nat) (label : CodeUnits) (context : Bytes)
      (length : Number)
  | remove (group : Nat) (name : CodeUnits)
  | update (group : Nat)
  | leave (group : Nat)
  | commit (group : Nat)
  | proposeAdd (group : Nat) (keyPackage : Bytes)
  | proposeRemove (group : Nat) (name : CodeUnits)
  | proposeUpdate (group : Nat)
  | members (group : Nat)
  | active (group : Nat)

/-- What an awaited call evaluates to; an object is known by its number. -/
inductive Reply where
  | done
  | client
  | group
  | noGroup
  | bytes (bytes : Bytes)
  | text (text : Option CodeUnits)
  | names (names : List CodeUnits)
  | flag (value : Bool)
  | commit (proposal : Option Bytes) (commit : Bytes)
      (welcome : Option Bytes)
  | added (result : AddResult)
deriving DecidableEq, Repr

/-- The byte strings in a reply. -/
def Reply.byteStrings : Reply → List Bytes
  | .bytes single => [single]
  | .commit proposal message welcome =>
      proposal.toList ++ message :: welcome.toList
  | .added result =>
      [result.welcome, result.ratchetTree, result.proposal, result.commit]
  | _ => []

/-- The byte strings in a reply that may be absent. -/
def Reply.optionalStrings : Reply → List Bytes
  | .commit proposal _ welcome => proposal.toList ++ welcome.toList
  | _ => []

/--
Why a call gave no reply: it was rejected with a message, it is still waiting,
or the script names an object that was never returned.
-/
inductive Failure where
  | rejected (message : CodeUnits)
  | waiting
  | noObject
deriving DecidableEq, Repr

/-- The core with the objects that a script has been given. -/
structure Direct (State Client Group : Type) where
  core : State
  clients : List Client
  groups : List Group

/-- A script that holds nothing yet. -/
def Direct.new {State Client Group : Type} (core : State) :
    Direct State Client Group where
  core := core
  clients := []
  groups := []

namespace Direct

variable {State Client Group Number Value : Type}

/-- Run an operation of the core. -/
def onCore (operation : Operation State Value) :
    Throwing (Direct State Client Group) Failure Value :=
  Throwing.zoom Direct.core (fun core direct => { direct with core })
    Failure.rejected operation

/-- The client with a number. -/
def clientAt (index : Nat) :
    Throwing (Direct State Client Group) Failure Client :=
  fun direct =>
    match direct.clients[index]? with
    | none => (.error .noObject, direct)
    | some client => (.ok client, direct)

/-- The group with a number. -/
def groupAt (index : Nat) :
    Throwing (Direct State Client Group) Failure Group :=
  fun direct =>
    match direct.groups[index]? with
    | none => (.error .noObject, direct)
    | some group => (.ok group, direct)

/-- Hand a client to the script. -/
def giveClient (client : Client) :
    Throwing (Direct State Client Group) Failure Reply :=
  fun direct =>
    (.ok .client, { direct with clients := direct.clients ++ [client] })

/-- Hand a group to the script. -/
def giveGroup (group : Group) :
    Throwing (Direct State Client Group) Failure Reply :=
  fun direct =>
    (.ok .group, { direct with groups := direct.groups ++ [group] })

/-- Hand a group to the script, if there is one. -/
def maybeGroup : Option Group →
    Throwing (Direct State Client Group) Failure Reply
  | none => return .noGroup
  | some group => giveGroup group

/-- The reply for a commit. -/
def commitReply (commit : Commit) : Reply :=
  .commit commit.proposal commit.commit commit.welcome

variable (api : Core State Client Group) (format : NumberFormat Number)

/-- Make a call on the core. -/
def perform (call : Call Number) :
    Throwing (Direct State Client Group) Failure Reply :=
  match call with
  | .newClient name => do giveClient (← onCore (api.newClient name))
  | .openClient id => do giveClient (← onCore (api.openClient id))
  | .save client => do
      onCore (api.save (← clientAt client))
      return .done
  | .keyPackage client => do
      return .bytes (← onCore (api.keyPackage (← clientAt client)))
  | .createGroup client groupId => do
      giveGroup (← onCore (api.createGroup (← clientAt client) groupId))
  | .joinGroup client welcome ratchetTree groupId => do
      giveGroup (← onCore
        (api.joinGroup (← clientAt client) welcome ratchetTree groupId))
  | .group client groupId => do
      maybeGroup (← onCore (api.group (← clientAt client) groupId))
  | .add group keyPackage => do
      return .added (← onCore (api.add (← groupAt group) keyPackage))
  | .send group text => do
      return .bytes (← onCore (api.send (← groupAt group) text))
  | .receiveText group ciphertext => do
      return .text (← onCore (api.receiveText (← groupAt group) ciphertext))
  | .receive group message => do
      return .bytes (← onCore (api.receive (← groupAt group) message))
  | .exportRatchetTree group => do
      return .bytes (← onCore (api.exportRatchetTree (← groupAt group)))
  | .exportKey group label context length => do
      return .bytes (← onCore
        (api.exportKey (← groupAt group) label context
          (format.toUint32 length)))
  | .remove group name => do
      return commitReply (← onCore (api.remove (← groupAt group) name))
  | .update group => do
      return commitReply (← onCore (api.update (← groupAt group)))
  | .leave group => do
      return .bytes (← onCore (api.leave (← groupAt group)))
  | .commit group => do
      return commitReply (← onCore (api.commit (← groupAt group)))
  | .proposeAdd group keyPackage => do
      return .bytes (← onCore (api.proposeAdd (← groupAt group) keyPackage))
  | .proposeRemove group name => do
      return .bytes (← onCore (api.proposeRemove (← groupAt group) name))
  | .proposeUpdate group => do
      return .bytes (← onCore (api.proposeUpdate (← groupAt group)))
  | .members group => do
      return .names (← onCore (api.members (← groupAt group)))
  | .active group => do
      return .flag (← onCore (api.active (← groupAt group)))

end Direct

end Mls4rn.ReactNative.CoreApi
