import Mls4rn.ReactNative.Facade

/-!
# One call through the bridge and one call on the core

The simulation relates the handles of the facade to the objects a script would
hold when it called the core directly.  Each call of the facade takes related
states to related states, with the reply of the direct call as the encoder of
the host and the decoder of the facade pass it on.
-/

namespace Mls4rn.ReactNative.FacadeSimulation

open Mls4rn.Core.GroupFacade (AddResult Commit)
open Mls4rn.Lib
open Mls4rn.Lib.ByteString
open Mls4rn.Lib.NumberText
open Mls4rn.Lib.Throwing
open Mls4rn.Lib.Utf16
open Mls4rn.ReactNative.CoreApi
open Mls4rn.ReactNative.Facade
open Mls4rn.ReactNative.HostDispatch
open Mls4rn.ReactNative.RequestBridge (Bridge Effect Outcome)

variable {State Client Group Number : Type}

/-! ## The simulation relation -/

/-- Handles that stand for objects, one for one. -/
def Stand {Object : Type}
    (table : InsertionMap CodeUnits Object)
    (handles : List CodeUnits) (objects : List Object) : Prop :=
  List.Forall₂ (fun handle object => table.get handle = some object)
    handles objects

/-- Every handle in use carries a number that the counter has passed. -/
def Numbered {Object : Type}
    (letter : UInt16) (seq : Nat)
    (table : InsertionMap CodeUnits Object) : Prop :=
  ∀ handle ∈ table.keys,
    ∃ number, number ≤ seq ∧ handle = letter :: natText number

/-- The facade holds handles of the very objects that a direct script holds. -/
structure Related
    (direct : Direct State Client Group)
    (remote : Remote State Client Group Number) : Prop where
  idle : remote.bridge.pending = InsertionMap.empty
  core : remote.host.core = direct.core
  clients : Stand remote.host.clients remote.clients direct.clients
  groups : Stand remote.host.groups remote.groups direct.groups
  clientNumbers : Numbered clientLetter remote.host.seq remote.host.clients
  groupNumbers : Numbered groupLetter remote.host.seq remote.host.groups

theorem Stand.lookup
    {Object : Type} {table : InsertionMap CodeUnits Object}
    {handles : List CodeUnits} {objects : List Object}
    (stand : Stand table handles objects) (index : Nat) :
    (handles[index]? = none ∧ objects[index]? = none) ∨
      ∃ handle object,
        handles[index]? = some handle ∧ objects[index]? = some object ∧
          table.get handle = some object := by
  induction stand generalizing index with
  | nil => exact Or.inl ⟨rfl, rfl⟩
  | cons head tail induction =>
      cases index with
      | zero => exact Or.inr ⟨_, _, rfl, rfl, head⟩
      | succ index => exact induction index

theorem Numbered.fresh
    {Object : Type} {letter : UInt16} {seq : Nat}
    {table : InsertionMap CodeUnits Object}
    (numbered : Numbered letter seq table) :
    letter :: natText (seq + 1) ∉ table.keys := by
  intro member
  rcases numbered _ member with ⟨number, small, equal⟩
  have same := natText_injective (List.cons.inj equal).2
  omega

theorem Numbered.mono
    {Object : Type} {letter : UInt16} {seq later : Nat}
    {table : InsertionMap CodeUnits Object}
    (numbered : Numbered letter seq table) (passed : seq ≤ later) :
    Numbered letter later table := by
  intro handle member
  rcases numbered handle member with ⟨number, small, equal⟩
  exact ⟨number, small.trans passed, equal⟩

theorem Numbered.set
    {Object : Type} {letter : UInt16} {seq : Nat}
    {table : InsertionMap CodeUnits Object}
    (numbered : Numbered letter seq table) (object : Object) :
    Numbered letter (seq + 1)
      (table.set (letter :: natText (seq + 1)) object) := by
  intro handle member
  rcases (InsertionMap.mem_keys_set _ _ _ _).mp member with rfl | older
  · exact ⟨seq + 1, le_rfl, rfl⟩
  · exact numbered.mono (Nat.le_succ seq) handle older

/-- A new handle stands for the new object and disturbs no other. -/
theorem Stand.give
    {Object : Type} {letter : UInt16} {seq : Nat}
    {table : InsertionMap CodeUnits Object}
    {handles : List CodeUnits} {objects : List Object}
    (stand : Stand table handles objects)
    (numbered : Numbered letter seq table) (object : Object) :
    Stand (table.set (letter :: natText (seq + 1)) object)
      (handles ++ [letter :: natText (seq + 1)]) (objects ++ [object]) := by
  have kept :
      Stand (table.set (letter :: natText (seq + 1)) object) handles
        objects := by
    refine stand.imp ?_
    intro handle older filed
    rw [InsertionMap.get_set_of_ne]
    · exact filed
    · rintro rfl
      exact numbered.fresh
        ((InsertionMap.mem_keys_iff table _).mpr ⟨older, filed⟩)
  exact List.rel_append kept
    (List.Forall₂.cons (InsertionMap.get_set_self _ _ _) .nil)

/-- Both ends behind an exchange that left a host. -/
def after
    (remote : Remote State Client Group Number)
    (host : Host State Client Group) : Remote State Client Group Number :=
  { remote with
    bridge := { remote.bridge with nextId := remote.bridge.nextId + 1 }
    promises := remote.promises + 1
    host }

/-- An operation of the core leaves handles and objects alone. -/
theorem Related.afterCore
    {direct : Direct State Client Group}
    {remote : Remote State Client Group Number}
    (related : Related direct remote) (core : State) :
    Related { direct with core } (after remote { remote.host with core }) :=
  ⟨related.idle, rfl, related.clients, related.groups,
    related.clientNumbers, related.groupNumbers⟩

/-- A failed attempt at a client has used up a handle. -/
theorem Related.failedClient
    {direct : Direct State Client Group}
    {remote : Remote State Client Group Number}
    (related : Related direct remote) (core : State) :
    Related { direct with core }
      (after remote
        { remote.host with core, seq := remote.host.seq + 1 }) :=
  ⟨related.idle, rfl, related.clients, related.groups,
    related.clientNumbers.mono (Nat.le_succ _),
    related.groupNumbers.mono (Nat.le_succ _)⟩

/-- A group handed out by the host stands for the one handed out directly. -/
theorem Related.givenGroup
    {direct : Direct State Client Group}
    {remote : Remote State Client Group Number}
    (related : Related direct remote) (core : State) (group : Group) :
    Related { direct with core, groups := direct.groups ++ [group] }
      { after remote
          { remote.host with
            core
            seq := remote.host.seq + 1
            groups :=
              remote.host.groups.set
                (groupLetter :: natText (remote.host.seq + 1)) group } with
        groups :=
          remote.groups ++ [groupLetter :: natText (remote.host.seq + 1)] } :=
  ⟨related.idle, rfl, related.clients,
    related.groups.give related.groupNumbers group,
    related.clientNumbers.mono (Nat.le_succ _),
    related.groupNumbers.set group⟩

/-- A client handed out by the host stands for the one handed out directly. -/
theorem Related.givenClient
    {direct : Direct State Client Group}
    {remote : Remote State Client Group Number}
    (related : Related direct remote) (core : State) (client : Client) :
    Related { direct with core, clients := direct.clients ++ [client] }
      { after remote
          { remote.host with
            core
            seq := remote.host.seq + 1
            clients :=
              remote.host.clients.set
                (clientLetter :: natText (remote.host.seq + 1))
                client } with
        clients :=
          remote.clients ++
            [clientLetter :: natText (remote.host.seq + 1)] } :=
  ⟨related.idle, rfl,
    related.clients.give related.clientNumbers client, related.groups,
    related.clientNumbers.set client,
    related.groupNumbers.mono (Nat.le_succ _)⟩

theorem namesOf_strings (names : List CodeUnits) :
    namesOf (names.map Json.string : List (Json Number)) = some names := by
  induction names with
  | nil => rfl
  | cons name names induction =>
      rw [List.map_cons, namesOf, induction]
      rfl

theorem rereadItems_strings
    (format : NumberFormat Number) (names : List CodeUnits) :
    Json.rereadItems format (names.map Json.string) =
      names.map Json.string := by
  induction names with
  | nil => simp only [List.map_nil, Json.rereadItems]
  | cons name names induction =>
      simp only [List.map_cons, Json.rereadItems, Json.reread, induction]

/-- One property comes back as its own text is read. -/
theorem reread_property
    (format : NumberFormat Number) (name : String) (value : Json Number) :
    Json.reread format (.object [(literal name, value)]) =
      .object [(literal name, Json.reread format value)] := by
  simp [Json.reread, Json.rereadMembers, InsertionMap.setEntries]

/-- An object with one string is read back from its response. -/
theorem reread_single
    (format : NumberFormat Number) (name : String) (text : CodeUnits) :
    Json.reread format (.object [(literal name, .string text)]) =
      .object [(literal name, .string text)] := by
  rw [reread_property, Json.reread_string]

/-! ## What reaches the script -/

section Delivered

variable (texts : EngineTexts)

/-- A byte string behind the encoder of the host and the local decoder. -/
def redecode (bytes : Bytes) : Except Failure Bytes :=
  codecResult texts (Base64Codec.base64ToBytes (Base64.encode bytes))

/-- A byte string that may be absent; an empty one comes back as `null`. -/
def redecodeOptional : Option Bytes → Except Failure (Option Bytes)
  | none => .ok none
  | some bytes =>
      if bytes = [] then .ok none
      else do return some (← redecode texts bytes)

/-- The reply of the core as the facade passes it on. -/
def deliveredReply : Reply → Except Failure Reply
  | .bytes bytes => do return .bytes (← redecode texts bytes)
  | .commit proposal commit welcome => do
      let proposal ← redecodeOptional texts proposal
      let commit ← redecode texts commit
      let welcome ← redecodeOptional texts welcome
      return .commit proposal commit welcome
  | .added result => do
      let welcome ← redecode texts result.welcome
      let ratchetTree ← redecode texts result.ratchetTree
      let proposal ← redecode texts result.proposal
      let commit ← redecode texts result.commit
      return .added { welcome, ratchetTree, proposal, commit }
  | reply => .ok reply

/-- The outcome of a direct call as the facade passes it on. -/
def delivered : Except Failure Reply → Except Failure Reply
  | .ok reply => deliveredReply texts reply
  | .error failure => .error failure

/-- The facade ends with what it passes on, in a related state. -/
def Simulates
    (direct : Except Failure Reply × Direct State Client Group)
    (remote : Except Failure Reply × Remote State Client Group Number) :
    Prop :=
  remote.1 = delivered texts direct.1 ∧ Related direct.2 remote.2

theorem decodeBytes_encode (bytes : Bytes) :
    (decodeBytes texts (Base64.encode bytes) :
        FacadeAction State Client Group Number Bytes) =
      ofExcept (redecode texts bytes) := by
  rw [decodeBytes, redecode]

variable {texts}

/-- A property that holds the text of a byte string. -/
theorem bytesField_eq
    {members : List (CodeUnits × Json Number)} {name : String}
    {bytes : Bytes}
    (found :
      (Json.object members).member (literal name) =
        some (.string (Base64.encode bytes))) :
    (bytesField texts (some (.object members)) name :
        FacadeAction State Client Group Number Bytes) =
      ofExcept (redecode texts bytes) := by
  have present :
      (field texts (some (.object members)) name :
          FacadeAction State Client Group Number (Option (Json Number))) =
        Throwing.ret (some (.string (Base64.encode bytes))) :=
    congrArg Throwing.ret found
  rw [← decodeBytes_encode, bytesField, present]
  rfl

/-- A property that holds the text of a byte string or `null`. -/
theorem optionalField_eq
    {members : List (CodeUnits × Json Number)} {name : String}
    {bytes : Option Bytes}
    (found :
      (Json.object members).member (literal name) =
        some (optionalText bytes)) :
    (optionalField texts (some (.object members)) name :
        FacadeAction State Client Group Number (Option Bytes)) =
      ofExcept (redecodeOptional texts bytes) := by
  change optionalBytes texts ((Json.object members).member (literal name)) = _
  rw [found]
  cases bytes with
  | none => rfl
  | some bytes =>
      by_cases empty : bytes = []
      · subst empty
        rfl
      · have shown : Base64.encode bytes ≠ [] := Base64.encode_ne_nil empty
        simp only [optionalText, optionalBytes, if_neg shown,
          decodeBytes_encode, redecodeOptional, if_neg empty]
        rw [← ofExcept_bind]
        rfl

theorem decodeCommit_commitJson (commit : Commit) :
    (decodeCommit texts (some (commitJson commit)) :
        FacadeAction State Client Group Number Reply) =
      ofExcept
        (deliveredReply texts (Direct.commitReply commit)) := by
  rw [decodeCommit, commitJson, optionalField_eq rfl, bytesField_eq rfl,
    optionalField_eq rfl, Direct.commitReply, deliveredReply]
  cases redecodeOptional texts commit.proposal with
  | error failure => rfl
  | ok proposal =>
      cases redecode texts commit.commit with
      | error failure => rfl
      | ok message =>
          cases redecodeOptional texts commit.welcome with
          | error failure => rfl
          | ok welcome => rfl

theorem decodeAdded_addedJson
    (format : NumberFormat Number) (result : AddResult) :
    (do
      let added := some (Json.reread format (addedJson result))
      let welcome ← bytesField texts added "welcome"
      let ratchetTree ← bytesField texts added "ratchetTree"
      let proposal ← bytesField texts added "proposal"
      let commit ← bytesField texts added "commit"
      return .added { welcome, ratchetTree, proposal, commit } :
        FacadeAction State Client Group Number Reply) =
      ofExcept (deliveredReply texts (.added result)) := by
  simp only [reread_addedJson]
  rw [addedJson, bytesField_eq rfl, bytesField_eq rfl, bytesField_eq rfl,
    bytesField_eq rfl, deliveredReply]
  cases redecode texts result.welcome with
  | error failure => rfl
  | ok welcome =>
      cases redecode texts result.ratchetTree with
      | error failure => rfl
      | ok ratchetTree =>
          cases redecode texts result.proposal with
          | error failure => rfl
          | ok proposal =>
              cases redecode texts result.commit with
              | error failure => rfl
              | ok commit => rfl

theorem decodeText_textJson
    (format : NumberFormat Number) (text : Option CodeUnits) :
    (field texts
        (some (Json.reread format
          (.object [(literal "text", textJson text)]))) "text" >>=
      textReply texts : FacadeAction State Client Group Number Reply) =
      ofExcept (deliveredReply texts (.text text)) := by
  rw [reread_property]
  cases text with
  | none =>
      rw [textJson, Json.reread]
      rfl
  | some text =>
      rw [textJson, Json.reread]
      rfl

theorem decodeNames_strings
    (format : NumberFormat Number) (names : List CodeUnits) :
    (field texts
        (some (Json.reread format
          (.object [(literal "members", .array (names.map .string))])))
        "members" >>= namesReply texts :
        FacadeAction State Client Group Number Reply) =
      ofExcept (deliveredReply texts (.names names)) := by
  rw [reread_property, Json.reread, rereadItems_strings]
  change namesReply texts
    (some (.array (names.map Json.string : List (Json Number)))) = _
  simp only [namesReply, namesOf_strings]
  rfl

theorem decodeFlag_bool (format : NumberFormat Number) (active : Bool) :
    (field texts
        (some (Json.reread format
          (.object [(literal "active", .bool active)]))) "active" >>=
      flagReply texts : FacadeAction State Client Group Number Reply) =
      ofExcept (deliveredReply texts (.flag active)) := by
  rw [reread_property, Json.reread]
  rfl

section Lookup

variable
  {direct : Direct State Client Group}
  {remote : Remote State Client Group Number}

/-- A call on a client that both sides find, or that neither does. -/
theorem simulates_client
    {directly : Client → Throwing (Direct State Client Group) Failure Reply}
    {remotely : CodeUnits → FacadeAction State Client Group Number Reply}
    (related : Related direct remote) (index : Nat)
    (found : ∀ handle client,
      remote.host.clients.get handle = some client →
        Simulates texts (directly client direct) (remotely handle remote)) :
    Simulates texts ((Direct.clientAt index >>= directly) direct)
      ((clientAt index >>= remotely) remote) := by
  rcases related.clients.lookup index with
    ⟨noHandle, noClient⟩ | ⟨handle, client, atHandle, atClient, filed⟩
  · have missing :
        Direct.clientAt index direct = (.error .noObject, direct) := by
      simp only [Direct.clientAt, noClient]
    have unknown :
        clientAt index remote = (.error .noObject, remote) := by
      simp only [clientAt, noHandle]
    rw [bind_of_error missing, bind_of_error unknown]
    exact ⟨rfl, related⟩
  · have present :
        Direct.clientAt index direct = (.ok client, direct) := by
      simp only [Direct.clientAt, atClient]
    have known : clientAt index remote = (.ok handle, remote) := by
      simp only [clientAt, atHandle]
    rw [bind_of_ok present, bind_of_ok known]
    exact found handle client filed

/-- A call on a group that both sides find, or that neither does. -/
theorem simulates_group
    {directly : Group → Throwing (Direct State Client Group) Failure Reply}
    {remotely : CodeUnits → FacadeAction State Client Group Number Reply}
    (related : Related direct remote) (index : Nat)
    (found : ∀ handle group,
      remote.host.groups.get handle = some group →
        Simulates texts (directly group direct) (remotely handle remote)) :
    Simulates texts ((Direct.groupAt index >>= directly) direct)
      ((groupAt index >>= remotely) remote) := by
  rcases related.groups.lookup index with
    ⟨noHandle, noGroup⟩ | ⟨handle, group, atHandle, atGroup, filed⟩
  · have missing :
        Direct.groupAt index direct = (.error .noObject, direct) := by
      simp only [Direct.groupAt, noGroup]
    have unknown :
        groupAt index remote = (.error .noObject, remote) := by
      simp only [groupAt, noHandle]
    rw [bind_of_error missing, bind_of_error unknown]
    exact ⟨rfl, related⟩
  · have present :
        Direct.groupAt index direct = (.ok group, direct) := by
      simp only [Direct.groupAt, atGroup]
    have known : groupAt index remote = (.ok handle, remote) := by
      simp only [groupAt, atHandle]
    rw [bind_of_ok present, bind_of_ok known]
    exact found handle group filed

end Lookup

end Delivered

variable [DecidableEq Number]

/-! ## What an exchange amounts to -/

section ExchangeSpec

variable
  (api : Core State Client Group)
  (format : NumberFormat Number)
  (texts : EngineTexts)

/-- How the promise of a request is settled. -/
def settled : Except CodeUnits (Json Number) → Outcome Number
  | .ok result => .resolved (some result)
  | .error message => .rejected message

/-- A response settles the promise that its request made. -/
theorem deliver_response
    (id promise : Nat) (result : Except CodeUnits (Json Number))
    (bridge : Bridge Number)
    (idle : bridge.pending = InsertionMap.empty) :
    deliver format
        [Json.stringify format (responseJson (format.ofNat id) result)]
        { bridge with
          pending := bridge.pending.set (format.ofNat id) promise } =
      (bridge, [.settle promise (settled (rereadResult format result))]) := by
  rcases bridge with ⟨nextId, pending, ready⟩
  simp only at idle
  subst idle
  have parsed :
      Json.parse format
          (Json.stringify format (responseJson (format.ofNat id) result)) =
        some (responseJson (format.ofNat id)
          (rereadResult format result)) := by
    rw [Json.parse_stringify, reread_responseJson]
  have filed :
      (InsertionMap.empty.set (format.ofNat id) promise).get
        (format.ofNat id) = some promise :=
    InsertionMap.get_set_self _ _ _
  have emptied :
      (InsertionMap.empty.set (format.ofNat id) promise).delete
        (format.ofNat id) = InsertionMap.empty :=
    InsertionMap.delete_set_empty _ _
  have notReady :
      RequestBridge.isReady
          (responseJson (format.ofNat id) (rereadResult format result)) =
        false := by
    cases result with
    | ok value => rfl
    | error message => rfl
  have carried :
      RequestBridge.numericId
          (responseJson (format.ofNat id) (rereadResult format result)) =
        some (format.ofNat id) := by
    cases result with
    | ok value => rfl
    | error message => rfl
  have present :
      responseJson (format.ofNat id) (rereadResult format result) ≠
        .null := by
    cases result with
    | ok value => nofun
    | error message => nofun
  have handled :=
    RequestBridge.handleMessage_of_parsed format parsed present
      ⟨nextId, InsertionMap.empty.set (format.ofNat id) promise, ready⟩
  rw [notReady, carried] at handled
  simp only [filed, emptied] at handled
  rw [deliver, handled]
  cases result with
  | ok value => rfl
  | error message => rfl

/--
An exchange on an idle bridge runs the method of the host on the arguments
and comes back with its result or its error.
-/
theorem exchange_eq
    (method : String) (args : List (String × Json Number))
    (remote : Remote State Client Group Number)
    (idle : remote.bridge.pending = InsertionMap.empty) :
    exchange api format texts method args remote =
      match invokeWith api format texts method args remote.host with
      | (.ok result, host) =>
          (.ok (some (Json.reread format result)), after remote host)
      | (.error message, host) =>
          (.error (.rejected message), after remote host) := by
  have delivered :=
    deliver_response format remote.bridge.nextId remote.promises
      (invokeWith api format texts method args remote.host).1
      { remote.bridge with nextId := remote.bridge.nextId + 1 } idle
  have received :=
    receive_request api format texts remote.bridge.nextId (literal method)
      (.object (args.map fun entry => (literal entry.1, entry.2)))
      remote.host
  rw [exchange]
  simp only [RequestBridge.request, received]
  rw [invokeWith] at delivered ⊢
  simp only [delivered, settlement, if_true]
  cases invoke api format texts (literal method)
      (some (Json.reread format
        (.object (args.map fun entry => (literal entry.1, entry.2)))))
      remote.host with
  | mk result host =>
      cases result with
      | ok result => rfl
      | error message => rfl

end ExchangeSpec

/-! ## Families of calls -/

section Families

variable
  {api : Core State Client Group}
  {format : NumberFormat Number}
  {texts : EngineTexts}
  {direct : Direct State Client Group}
  {remote : Remote State Client Group Number}

variable {method : String} {args : List (String × Json Number)}

/-- A method that only asks the core and wraps what it returned. -/
theorem simulates_asking
    {Value : Type} {operation : Operation State Value}
    {finish : Value → HostAction State Client Group (Json Number)}
    (json : Value → Json Number) {reply : Value → Reply}
    {decode : Option (Json Number) →
      FacadeAction State Client Group Number Reply}
    (related : Related direct remote)
    (hosted :
      invokeWith api format texts method args remote.host =
        (onCore operation >>= finish) remote.host)
    (finished : ∀ value, finish value = Throwing.ret (json value))
    (decoded : ∀ value,
      decode (some (Json.reread format (json value))) =
        ofExcept (deliveredReply texts (reply value))) :
    Simulates texts
      ((Direct.onCore operation >>= fun value => pure (reply value)) direct)
      ((exchange api format texts method args >>= decode) remote) := by
  have asked :=
    exchange_eq api format texts method args remote related.idle
  rw [bind_apply, bind_apply, asked, hosted, bind_apply]
  simp only [Direct.onCore, HostDispatch.onCore, zoom, related.core]
  cases operation direct.core with
  | mk result core =>
      cases result with
      | error message => exact ⟨rfl, related.afterCore core⟩
      | ok value =>
          simp only [finished, Throwing.ret, decoded]
          exact ⟨rfl, related.afterCore core⟩

section

variable (related : Related direct remote)
include related

/-- A method that returns one byte string. -/
theorem simulates_bytes
    {method name : String} {operation : Operation State Bytes}
    (hosted :
      invokeWith api format texts method args remote.host =
        (onCore operation >>= bytesResult texts name) remote.host) :
    Simulates texts
      ((Direct.onCore operation >>= fun bytes => pure (.bytes bytes)) direct)
      (bytesCall api format texts method args name remote) := by
  refine simulates_asking _ related hosted (bytesResult_eq texts name) ?_
  intro bytes
  have found :
      (Json.object [(literal name, .string (Base64.encode bytes))] :
          Json Number).member (literal name) =
        some (.string (Base64.encode bytes)) := by
    simp [Json.member]
  rw [reread_single, bytesField_eq found]
  exact ofExcept_bind _ _

/-- A method that returns a commit. -/
theorem simulates_commit
    {operation : Operation State Commit}
    (hosted :
      invokeWith api format texts method args remote.host =
        (onCore operation >>= commitB64 texts) remote.host) :
    Simulates texts
      ((Direct.onCore operation >>= fun commit =>
        pure (Direct.commitReply commit)) direct)
      (commitCall api format texts method args remote) := by
  refine simulates_asking _ related hosted (commitB64_eq texts) ?_
  intro commit
  rw [reread_commitJson, decodeCommit_commitJson]

/-- A method that hands out a group. -/
theorem simulates_giveGroup
    {operation : Operation State Group}
    (hosted :
      invokeWith api format texts method args remote.host =
        (onCore operation >>= groupResult) remote.host) :
    Simulates texts
      ((Direct.onCore operation >>= Direct.giveGroup) direct)
      ((exchange api format texts method args >>= fun result =>
        handleField texts result "group" >>= giveGroup) remote) := by
  have asked :=
    exchange_eq api format texts method args remote related.idle
  rw [bind_apply, bind_apply, asked, hosted, bind_apply]
  simp only [Direct.onCore, HostDispatch.onCore, zoom, related.core]
  cases operation direct.core with
  | mk result core =>
      cases result with
      | error message => exact ⟨rfl, related.afterCore core⟩
      | ok group =>
          simp only [groupResult_eq, reread_single]
          exact ⟨rfl, related.givenGroup core group⟩

/-- A method that hands out a group, if there is one. -/
theorem simulates_maybeGroup
    {operation : Operation State (Option Group)}
    (hosted :
      invokeWith api format texts method args remote.host =
        (onCore operation >>= maybeGroupResult) remote.host) :
    Simulates texts
      ((Direct.onCore operation >>= Direct.maybeGroup) direct)
      ((exchange api format texts method args >>= fun result =>
        field texts result "group" >>= maybeGroup texts) remote) := by
  have asked :=
    exchange_eq api format texts method args remote related.idle
  rw [bind_apply, bind_apply, asked, hosted, bind_apply]
  simp only [Direct.onCore, HostDispatch.onCore, zoom, related.core]
  cases operation direct.core with
  | mk result core =>
      cases result with
      | error message => exact ⟨rfl, related.afterCore core⟩
      | ok found =>
          cases found with
          | none =>
              have absent :
                  Json.reread format
                      (.object [(literal "group", .null)]) =
                    .object [(literal "group", .null)] := by
                simp [Json.reread, Json.rereadMembers,
                  InsertionMap.setEntries]
              simp only [maybeGroupResult, pure_apply, absent]
              exact ⟨rfl, related.afterCore core⟩
          | some group =>
              simp only [maybeGroupResult, groupResult_eq, reread_single]
              exact ⟨rfl, related.givenGroup core group⟩

/-- A method that hands out a client under a handle taken beforehand. -/
theorem simulates_giveClient
    {operation : Operation State Client}
    (hosted :
      invokeWith api format texts method args remote.host =
        clientResult (onCore operation) remote.host) :
    Simulates texts
      ((Direct.onCore operation >>= Direct.giveClient) direct)
      ((exchange api format texts method args >>= fun result =>
        handleField texts result "client" >>= giveClient) remote) := by
  have asked :=
    exchange_eq api format texts method args remote related.idle
  rw [bind_apply, bind_apply, asked, hosted, clientResult_onCore]
  simp only [Direct.onCore, zoom, related.core]
  cases operation direct.core with
  | mk result core =>
      cases result with
      | error message => exact ⟨rfl, related.failedClient core⟩
      | ok client =>
          simp only [reread_single]
          exact ⟨rfl, related.givenClient core client⟩

/-- Every call ends as the direct call does, up to what is passed on. -/
theorem perform_simulates (call : Call Number) :
    Simulates texts (Direct.perform api format call direct)
      (Facade.perform api format texts call remote) := by
  cases call with
  | newClient name =>
      exact simulates_giveClient related
        (congrFun (invokeWith_newClient name) remote.host)
  | openClient id =>
      exact simulates_giveClient related
        (congrFun (invokeWith_openClient id) remote.host)
  | save index =>
      refine simulates_client related index fun handle client filed =>
        simulates_asking (fun _ => .object []) related ?_ (fun _ => rfl)
          fun _ => rfl
      rw [invokeWith_saveClient,
        bind_of_ok (client_of_get format texts filed)]
  | keyPackage index =>
      refine simulates_client related index fun handle client filed =>
        simulates_bytes related ?_
      rw [invokeWith_keyPackage,
        bind_of_ok (client_of_get format texts filed)]
  | createGroup index groupId =>
      refine simulates_client related index fun handle client filed =>
        simulates_giveGroup related ?_
      rw [invokeWith_createGroup,
        bind_of_ok (client_of_get format texts filed)]
  | joinGroup index welcome ratchetTree groupId =>
      refine simulates_client related index fun handle client filed =>
        simulates_giveGroup related ?_
      rw [invokeWith_joinGroup, bind_of_ok (client_of_get format texts filed)]
  | group index groupId =>
      refine simulates_client related index fun handle client filed =>
        simulates_maybeGroup related ?_
      rw [invokeWith_group, bind_of_ok (client_of_get format texts filed)]
  | add index keyPackage =>
      refine simulates_group related index fun handle group filed =>
        simulates_asking _ related ?_ (fun _ => rfl)
          (decodeAdded_addedJson format)
      rw [invokeWith_add, bind_of_ok (group_of_get format texts filed)]
  | send index text =>
      refine simulates_group related index fun handle group filed =>
        simulates_bytes related ?_
      rw [invokeWith_send, bind_of_ok (group_of_get format texts filed)]
  | receiveText index ciphertext =>
      refine simulates_group related index fun handle group filed =>
        simulates_asking _ related ?_ (fun _ => rfl)
          (decodeText_textJson format)
      rw [invokeWith_receiveText,
        bind_of_ok (group_of_get format texts filed)]
  | receive index message =>
      refine simulates_group related index fun handle group filed =>
        simulates_bytes related ?_
      rw [invokeWith_receive, bind_of_ok (group_of_get format texts filed)]
  | exportRatchetTree index =>
      refine simulates_group related index fun handle group filed =>
        simulates_bytes related ?_
      rw [invokeWith_exportRatchetTree,
        bind_of_ok (group_of_get format texts filed)]
  | exportKey index label context length =>
      refine simulates_group related index fun handle group filed =>
        simulates_bytes related ?_
      rw [invokeWith_exportKey, bind_of_ok (group_of_get format texts filed)]
  | remove index name =>
      refine simulates_group related index fun handle group filed =>
        simulates_commit related ?_
      rw [invokeWith_remove, bind_of_ok (group_of_get format texts filed)]
  | update index =>
      refine simulates_group related index fun handle group filed =>
        simulates_commit related ?_
      rw [invokeWith_update, bind_of_ok (group_of_get format texts filed)]
  | leave index =>
      refine simulates_group related index fun handle group filed =>
        simulates_bytes related ?_
      rw [invokeWith_leave, bind_of_ok (group_of_get format texts filed)]
  | commit index =>
      refine simulates_group related index fun handle group filed =>
        simulates_commit related ?_
      rw [invokeWith_commit, bind_of_ok (group_of_get format texts filed)]
  | proposeAdd index keyPackage =>
      refine simulates_group related index fun handle group filed =>
        simulates_bytes related ?_
      rw [invokeWith_proposeAdd, bind_of_ok (group_of_get format texts filed)]
  | proposeRemove index name =>
      refine simulates_group related index fun handle group filed =>
        simulates_bytes related ?_
      rw [invokeWith_proposeRemove,
        bind_of_ok (group_of_get format texts filed)]
  | proposeUpdate index =>
      refine simulates_group related index fun handle group filed =>
        simulates_bytes related ?_
      rw [invokeWith_proposeUpdate,
        bind_of_ok (group_of_get format texts filed)]
  | members index =>
      refine simulates_group related index fun handle group filed =>
        simulates_asking _ related ?_ (fun _ => rfl)
          (decodeNames_strings format)
      rw [invokeWith_members, bind_of_ok (group_of_get format texts filed)]
  | active index =>
      refine simulates_group related index fun handle group filed =>
        simulates_asking _ related ?_ (fun _ => rfl) (decodeFlag_bool format)
      rw [invokeWith_active, bind_of_ok (group_of_get format texts filed)]

end

end Families

end Mls4rn.ReactNative.FacadeSimulation
