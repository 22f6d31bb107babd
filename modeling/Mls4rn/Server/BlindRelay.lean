import Mls4rn.Server.GroupsGateway
import Mls4rn.Server.KeyPackages
import Mls4rn.Server.Welcomes

/-!
# The delivery service is a blind relay

Key packages, messages, Welcomes and ratchet trees pass through the server as
opaque strings.  All the server does with one is to test whether it is empty.

A function on payloads that keeps the empty string and makes no other string
empty is applied to every payload of a sequence of requests.  The server then
gives the same answers, events and exceptions, with the function applied to
the payloads in them.  The two runs need not happen at the same times.
-/

namespace Mls4rn.Server.BlindRelay

open Mls4rn.Lib
open Mls4rn.Lib.Utf16
open Mls4rn.Server.GroupsController (Message Page view)
open Mls4rn.Server.GroupsGateway (Hub Pushed)

/-! ## The whole server -/

/-- The state of the three modules. -/
structure Relay (Socket : Type) where
  keyPackages : KeyPackages.Service
  hub : Hub Socket
  welcomes : Welcomes.Service

/-- The requests of the three controllers, and the one of the gateway. -/
inductive Request (Socket : Type) where
  | postKeyPackages (body : KeyPackages.PublishBody)
  | postClaim (userId : CodeUnits)
  | getAvailable (userId : CodeUnits)
  | postMessage (groupId : CodeUnits) (body : GroupsController.PublishBody)
  | getMessages (groupId : CodeUnits) (since : Option CodeUnits)
  | subscribe (socket : Socket) (groupId : Option CodeUnits)
  | postWelcome (body : Welcomes.DepositBody)
  | getWelcomes (userId : CodeUnits)

/-- The answers. -/
inductive Reply where
  | published (published : KeyPackages.Published)
  | keyPackage (package : CodeUnits)
  | available (count : Nat)
  | seq (seq : Nat)
  | page (page : Page)
  | subscribed (groupId : Option CodeUnits)
  | id (id : Nat)
  | welcomes (welcomes : List Welcomes.StoredWelcome)
deriving DecidableEq, Repr

section Serving

variable {Socket : Type}

/-- The server behind its start. -/
def Relay.new (joined : Socket → CodeUnits → Bool) : Relay Socket where
  keyPackages := KeyPackages.Service.new
  hub := Hub.new joined
  welcomes := Welcomes.Service.new

variable [DecidableEq Socket]

/-- A request is served at the time `ts`. -/
def serve (ts : Nat) (request : Request Socket) :
    Throwing (Relay Socket) HttpException Reply := fun relay =>
  match request with
  | .postKeyPackages body =>
      let (result, after) :=
        KeyPackages.postKeyPackages body relay.keyPackages
      (result.map .published, { relay with keyPackages := after })
  | .postClaim userId =>
      let (result, after) := KeyPackages.postClaim userId relay.keyPackages
      (result.map .keyPackage, { relay with keyPackages := after })
  | .getAvailable userId =>
      let (result, after) :=
        KeyPackages.getAvailable userId relay.keyPackages
      (result.map .available, { relay with keyPackages := after })
  | .postMessage groupId body =>
      let (result, after) := Hub.postMessage groupId body ts relay.hub
      (result.map .seq, { relay with hub := after })
  | .getMessages groupId since =>
      (.ok
        (.page
          (GroupsController.getMessages relay.hub.service groupId since)),
        relay)
  | .subscribe socket groupId =>
      let (acknowledged, after) := relay.hub.subscribe socket groupId
      (.ok (.subscribed acknowledged), { relay with hub := after })
  | .postWelcome body =>
      let (result, after) := Welcomes.postWelcome body relay.welcomes
      (result.map .id, { relay with welcomes := after })
  | .getWelcomes userId =>
      let (result, after) := Welcomes.getWelcomes userId relay.welcomes
      (result.map .welcomes, { relay with welcomes := after })

/-- What is seen of a request: its answer, and the events it leads to. -/
structure Output (Socket : Type) where
  result : Except HttpException Reply
  pushed : Socket → List Pushed

/-- Serve requests one after the other; the clock gives their times. -/
def outputs (clock : Nat → Nat) :
    List (Request Socket) → Relay Socket → List (Output Socket)
  | [], _ => []
  | request :: requests, relay =>
      let (result, after) := serve (clock 0) request relay
      { result
        pushed := fun socket =>
          (after.hub.events socket).drop (relay.hub.events socket).length } ::
        outputs (fun index => clock (index + 1)) requests after

end Serving

/-! ## Payloads -/

section Payloads

variable {Socket : Type} (change : CodeUnits → CodeUnits)

/-- Change the payload of a message. -/
def mapMessage (message : Message) : Message :=
  { message with message := change message.message }

/-- Change the payload of an event. -/
def mapPushed (event : Pushed) : Pushed :=
  { event with toMessage := mapMessage change event.toMessage }

/-- Change the payloads of a Welcome. -/
def mapWelcome (stored : Welcomes.StoredWelcome) : Welcomes.StoredWelcome :=
  { stored with
    welcome := change stored.welcome
    ratchetTree := change stored.ratchetTree }

/-- Change the payloads of a request. -/
def Request.map : Request Socket → Request Socket
  | .postKeyPackages body =>
      .postKeyPackages
        { body with
          keyPackages := body.keyPackages.map (List.map change)
          lastResort := body.lastResort.map change }
  | .postMessage groupId body =>
      .postMessage groupId
        { body with message := body.message.map change }
  | .postWelcome body =>
      .postWelcome
        { body with
          welcome := body.welcome.map change
          ratchetTree := body.ratchetTree.map change }
  | request => request

/-- Change the payloads of an answer. -/
def Reply.map : Reply → Reply
  | .keyPackage claimed => .keyPackage (change claimed)
  | .page found =>
      .page
        { found with messages := found.messages.map (mapMessage change) }
  | .welcomes stored => .welcomes (stored.map (mapWelcome change))
  | reply => reply

/-- Change the payloads of an output. -/
def Output.map (output : Output Socket) : Output Socket where
  result := output.result.map (Reply.map change)
  pushed socket := (output.pushed socket).map (mapPushed change)

end Payloads

/-- A function on payloads that keeps what the server can see. -/
structure KeepsEmptiness (change : CodeUnits → CodeUnits) : Prop where
  empty : change [] = []
  filled : ∀ text, text ≠ [] → change text ≠ []

/-- A test of a changed field. -/
theorem KeepsEmptiness.given_map
    {change : CodeUnits → CodeUnits} (keeps : KeepsEmptiness change)
    (field : Option CodeUnits) :
    given (field.map change) = (given field).map change := by
  cases field with
  | none => rfl
  | some text =>
      cases text with
      | nil =>
          rw [Option.map_some, keeps.empty]
          rfl
      | cons unit units =>
          apply given_eq_some_iff.mpr
          exact ⟨rfl, keeps.filled _ (List.cons_ne_nil unit units)⟩

/-- Results that differ in the payloads, with states that do. -/
def Agree {State Value : Type}
    (Same : State → State → Prop) (change : Value → Value)
    (first second : Except HttpException Value × State) : Prop :=
  second.1 = first.1.map change ∧ Same first.2 second.2

/-! ## The directory of key packages -/

/-- Two directories that differ in the payloads. -/
structure SameDirectory
    (change : CodeUnits → CodeUnits) (first second : KeyPackages.Service) :
    Prop where
  queue :
    ∀ userId,
      KeyPackages.queue second userId =
        (KeyPackages.queue first userId).map change
  lastResort :
    ∀ userId,
      second.lastResort.get userId = (first.lastResort.get userId).map change

section Directory

variable {change : CodeUnits → CodeUnits} (keeps : KeepsEmptiness change)
  {first second : KeyPackages.Service}
  (same : SameDirectory change first second)

include keeps same

theorem SameDirectory.publish
    (userId : CodeUnits) (keyPackages : List CodeUnits)
    (lastResort : Option CodeUnits) :
    SameDirectory change
      (KeyPackages.publish first userId keyPackages lastResort).2
      (KeyPackages.publish second userId (keyPackages.map change)
        (lastResort.map change)).2 where
  queue other := by
    rw [KeyPackages.queue_publish, KeyPackages.queue_publish, same.queue,
      List.map_append]
    split
    · rfl
    · rfl
  lastResort other := by
    rw [KeyPackages.lastResort_publish, KeyPackages.lastResort_publish,
      same.lastResort, keeps.given_map]
    split
    · cases given lastResort with
      | none => rfl
      | some package => rfl
    · rfl

theorem SameDirectory.postKeyPackages (body : KeyPackages.PublishBody) :
    Agree (SameDirectory change) id
      (KeyPackages.postKeyPackages body first)
      (KeyPackages.postKeyPackages
        { body with
          keyPackages := body.keyPackages.map (List.map change)
          lastResort := body.lastResort.map change } second) := by
  rcases body with ⟨userId, keyPackages, lastResort⟩
  simp only [KeyPackages.postKeyPackages]
  cases given userId with
  | none => exact ⟨rfl, same⟩
  | some user =>
      cases keyPackages with
      | none => exact ⟨rfl, same⟩
      | some packages =>
          have after := same.publish keeps user packages lastResort
          refine ⟨?_, after⟩
          simp only [Option.map_some, KeyPackages.publish_answer,
            KeyPackages.available, after.queue, after.lastResort,
            List.length_map, Option.isSome_map]
          rfl

theorem SameDirectory.postClaim (userId : CodeUnits) :
    Agree (SameDirectory change) change
      (KeyPackages.postClaim userId first)
      (KeyPackages.postClaim userId second) := by
  have queue := same.queue userId
  have fallback :
      given (second.lastResort.get userId) =
        (given (first.lastResort.get userId)).map change := by
    rw [same.lastResort, keeps.given_map]
  simp only [KeyPackages.postClaim, KeyPackages.claim]
  cases waiting : KeyPackages.queue first userId with
  | cons package rest =>
      rw [waiting, List.map_cons] at queue
      rw [queue]
      refine ⟨rfl, ?_, same.lastResort⟩
      intro other
      rw [KeyPackages.queue_set, KeyPackages.queue_set, same.queue]
      split
      · rfl
      · rfl
  | nil =>
      rw [waiting, List.map_nil] at queue
      rw [queue]
      cases found : given (first.lastResort.get userId) with
      | some package =>
          rw [found, Option.map_some] at fallback
          rw [fallback]
          exact ⟨rfl, same⟩
      | none =>
          rw [found, Option.map_none] at fallback
          rw [fallback]
          exact ⟨rfl, same⟩

omit keeps in
theorem SameDirectory.getAvailable (userId : CodeUnits) :
    Agree (SameDirectory change) id
      (KeyPackages.getAvailable userId first)
      (KeyPackages.getAvailable userId second) := by
  refine ⟨?_, same⟩
  simp only [KeyPackages.getAvailable, KeyPackages.available, same.queue,
    List.length_map]
  rfl

end Directory

/-! ## Groups -/

/-- Two hubs that differ in the payloads and in the times. -/
structure SameHub {Socket : Type}
    (change : CodeUnits → CodeUnits) (first second : Hub Socket) :
    Prop where
  log :
    ∀ groupId,
      (GroupsService.log second.service groupId).map view =
        ((GroupsService.log first.service groupId).map view).map
          (mapMessage change)
  joined : second.joined = first.joined
  events :
    ∀ socket,
      second.events socket = (first.events socket).map (mapPushed change)

/-- The messages of a list with numbers behind a cursor. -/
def messagesBehind (cursor : Int) (messages : List Message) :
    List Message :=
  if cursor ≤ 0 then messages
  else messages.filter fun message => decide (cursor < (message.seq : Int))

/-- The answer to a poll, from what is sent out of a log. -/
def pageOf (messages : List Message) (since : Option CodeUnits) : Page :=
  let start := GroupsController.startOf since
  let behind :=
    messagesBehind (GroupsController.finiteOrZero start) messages
  { messages := behind
    cursor :=
      match behind.getLast? with
      | some last => .integer last.seq
      | none => GroupsController.orZero start }

theorem map_since
    (service : GroupsService.Service) (groupId : CodeUnits)
    (cursor : Int) :
    (GroupsService.since service groupId cursor).map view =
      messagesBehind cursor
        ((GroupsService.log service groupId).map view) := by
  simp only [GroupsService.since, messagesBehind]
  split
  · rfl
  · rw [List.filter_map]
    rfl

/-- A poll depends on what is sent out, not on the times. -/
theorem getMessages_eq_pageOf
    (service : GroupsService.Service) (groupId : CodeUnits)
    (since : Option CodeUnits) :
    GroupsController.getMessages service groupId since =
      pageOf ((GroupsService.log service groupId).map view) since := by
  simp only [GroupsController.getMessages, pageOf, ← map_since,
    List.getLast?_map]
  cases
    (GroupsService.since service groupId
      (GroupsController.finiteOrZero
        (GroupsController.startOf since))).getLast? with
  | none => rfl
  | some last => rfl

theorem messagesBehind_map
    (change : CodeUnits → CodeUnits) (cursor : Int)
    (messages : List Message) :
    messagesBehind cursor (messages.map (mapMessage change)) =
      (messagesBehind cursor messages).map (mapMessage change) := by
  simp only [messagesBehind]
  split
  · rfl
  · rw [List.filter_map]
    rfl

theorem pageOf_map
    (change : CodeUnits → CodeUnits) (messages : List Message)
    (since : Option CodeUnits) :
    pageOf (messages.map (mapMessage change)) since =
      { pageOf messages since with
        messages :=
          (pageOf messages since).messages.map (mapMessage change) } := by
  simp only [pageOf, messagesBehind_map, List.getLast?_map]
  cases
    (messagesBehind
      (GroupsController.finiteOrZero (GroupsController.startOf since))
      messages).getLast? with
  | none => rfl
  | some last => rfl

section Hub

variable {Socket : Type} {change : CodeUnits → CodeUnits}
  {first second : Hub Socket} (same : SameHub change first second)

include same

theorem SameHub.getMessages (groupId : CodeUnits) (since : Option CodeUnits) :
    GroupsController.getMessages second.service groupId since =
      { GroupsController.getMessages first.service groupId since with
        messages :=
          (GroupsController.getMessages first.service groupId
            since).messages.map (mapMessage change) } := by
  rw [getMessages_eq_pageOf, getMessages_eq_pageOf, same.log, pageOf_map]

/-- The stored messages differ in the payload and the time. -/
theorem SameHub.view_publish
    (groupId message : CodeUnits) (sender : Option CodeUnits)
    (early late : Nat) :
    view
        (GroupsService.publish second.service groupId (change message)
          sender late).1 =
      mapMessage change
        (view
          (GroupsService.publish first.service groupId message sender
            early).1) := by
  have lengths :
      (GroupsService.log second.service groupId).length =
        (GroupsService.log first.service groupId).length := by
    have mapped := congrArg List.length (same.log groupId)
    simp only [List.length_map] at mapped
    exact mapped
  simp only [GroupsService.publish, view, mapMessage, lengths]

theorem SameHub.publish
    (groupId message : CodeUnits) (sender : Option CodeUnits)
    (early late : Nat) :
    SameHub change (first.publish groupId message sender early).2
      (second.publish groupId (change message) sender late).2 where
  log other := by
    simp only [Hub.publish, Hub.emit]
    by_cases equal : other = groupId
    · subst equal
      simp only [GroupsService.log_publish, List.map_append, same.log,
        List.map_cons, List.map_nil,
        same.view_publish other message sender early late]
    · simp only [GroupsService.log_publish_of_ne _ equal, same.log]
  joined := same.joined
  events socket := by
    have payload := same.view_publish groupId message sender early late
    simp only [Hub.publish, Hub.emit, same.joined, same.events]
    split
    · rw [List.map_append, List.map_singleton]
      simp only [GroupsGateway.pushed, mapPushed, payload]
    · rfl

theorem SameHub.postMessage
    (keeps : KeepsEmptiness change) (groupId : CodeUnits)
    (body : GroupsController.PublishBody) (early late : Nat) :
    Agree (SameHub change) id (Hub.postMessage groupId body early first)
      (Hub.postMessage groupId
        { body with message := body.message.map change } late second) := by
  simp only [Hub.postMessage, keeps.given_map]
  cases given body.message with
  | none => exact ⟨rfl, same⟩
  | some message =>
      have payload :=
        same.view_publish groupId message body.sender early late
      refine ⟨?_, same.publish groupId message body.sender early late⟩
      exact congrArg Except.ok (congrArg Message.seq payload)

theorem SameHub.subscribe
    [DecidableEq Socket] (socket : Socket) (groupId : Option CodeUnits) :
    SameHub change (first.subscribe socket groupId).2
      (second.subscribe socket groupId).2 := by
  simp only [Hub.subscribe]
  cases given groupId with
  | none => exact same
  | some room =>
      refine ⟨same.log, ?_, same.events⟩
      simp only [same.joined]

end Hub

/-! ## Welcomes -/

/-- Two services of Welcomes that differ in the payloads. -/
structure SameInboxes
    (change : CodeUnits → CodeUnits) (first second : Welcomes.Service) :
    Prop where
  arrays : second.arrays = first.arrays.map (mapWelcome change)
  inbox : second.inbox = first.inbox
  counter : second.counter = first.counter

section Inboxes

variable {change : CodeUnits → CodeUnits} {first second : Welcomes.Service}
  (same : SameInboxes change first second)

include same

theorem SameInboxes.inboxArray (userId : CodeUnits) :
    Welcomes.inboxArray second userId =
      ((Welcomes.inboxArray first userId).1,
        (Welcomes.inboxArray first userId).2.map (mapWelcome change)) := by
  simp only [Welcomes.inboxArray, same.inbox, same.arrays,
    ArrayHeap.size_map, ArrayHeap.map_allocate]
  cases first.inbox.get userId with
  | none => rfl
  | some reference => rfl

theorem SameInboxes.deposit (userId groupId welcome ratchetTree : CodeUnits) :
    (Welcomes.deposit second userId groupId (change welcome)
        (change ratchetTree)).1.id =
      (Welcomes.deposit first userId groupId welcome ratchetTree).1.id ∧
    SameInboxes change
      (Welcomes.deposit first userId groupId welcome ratchetTree).2
      (Welcomes.deposit second userId groupId (change welcome)
        (change ratchetTree)).2 := by
  simp only [Welcomes.deposit, same.inboxArray userId, same.counter,
    same.inbox, true_and]
  refine ⟨?_, rfl, rfl⟩
  exact
    ArrayHeap.map_push (mapWelcome change) _ _
      ⟨first.counter + 1, groupId, welcome, ratchetTree⟩

theorem SameInboxes.postWelcome
    (keeps : KeepsEmptiness change) (body : Welcomes.DepositBody) :
    Agree (SameInboxes change) id (Welcomes.postWelcome body first)
      (Welcomes.postWelcome
        { body with
          welcome := body.welcome.map change
          ratchetTree := body.ratchetTree.map change } second) := by
  simp only [Welcomes.postWelcome, keeps.given_map]
  cases given body.userId with
  | none => exact ⟨rfl, same⟩
  | some userId =>
      cases given body.groupId with
      | none => exact ⟨rfl, same⟩
      | some groupId =>
          cases given body.welcome with
          | none => exact ⟨rfl, same⟩
          | some welcome =>
              cases given body.ratchetTree with
              | none => exact ⟨rfl, same⟩
              | some ratchetTree =>
                  have deposited :=
                    same.deposit userId groupId welcome ratchetTree
                  exact ⟨congrArg Except.ok deposited.1, deposited.2⟩

theorem SameInboxes.getWelcomes (userId : CodeUnits) :
    Agree (SameInboxes change) (List.map (mapWelcome change))
      (Welcomes.getWelcomes userId first)
      (Welcomes.getWelcomes userId second) := by
  simp only [Agree, Welcomes.getWelcomes, Welcomes.take,
    same.inboxArray userId, same.inbox, ArrayHeap.map_allocate,
    ArrayHeap.size_map, ArrayHeap.contents_map]
  exact ⟨rfl, rfl, rfl, same.counter⟩

end Inboxes

/-! ## Whole runs -/

/-- Two servers that differ in the payloads and in the times. -/
structure SameRelay {Socket : Type}
    (change : CodeUnits → CodeUnits) (first second : Relay Socket) :
    Prop where
  keyPackages : SameDirectory change first.keyPackages second.keyPackages
  hub : SameHub change first.hub second.hub
  welcomes : SameInboxes change first.welcomes second.welcomes

section Runs

variable {Socket : Type} {change : CodeUnits → CodeUnits}

theorem SameRelay.new (joined : Socket → CodeUnits → Bool) :
    SameRelay change (Relay.new joined) (Relay.new joined) where
  keyPackages := ⟨fun _ => rfl, fun _ => rfl⟩
  hub := ⟨fun _ => rfl, rfl, fun _ => rfl⟩
  welcomes := ⟨rfl, rfl, rfl⟩

/-- An answer that is made from a result is changed with the result. -/
theorem result_map
    {Value : Type} (answer : Value → Reply) (changeValue : Value → Value)
    (commutes :
      ∀ value, answer (changeValue value) = (answer value).map change)
    {first second : Except HttpException Value}
    (result : second = first.map changeValue) :
    second.map answer = (first.map answer).map (Reply.map change) := by
  rw [result]
  cases first with
  | error exception => rfl
  | ok value => exact congrArg Except.ok (commutes value)

variable [DecidableEq Socket] (keeps : KeepsEmptiness change)

include keeps

/-- A request with changed payloads is served alike. -/
theorem SameRelay.serve
    {first second : Relay Socket} (same : SameRelay change first second)
    (request : Request Socket) (early late : Nat) :
    Agree (SameRelay change) (Reply.map change)
      (BlindRelay.serve early request first)
      (BlindRelay.serve late (request.map change) second) := by
  cases request with
  | postKeyPackages body =>
      rcases same.keyPackages.postKeyPackages keeps body with
        ⟨result, after⟩
      exact
        ⟨result_map Reply.published id (fun _ => rfl) result, after, same.hub,
          same.welcomes⟩
  | postClaim userId =>
      rcases same.keyPackages.postClaim keeps userId with ⟨result, after⟩
      exact
        ⟨result_map Reply.keyPackage change (fun _ => rfl) result, after,
          same.hub, same.welcomes⟩
  | getAvailable userId =>
      rcases same.keyPackages.getAvailable userId with ⟨result, after⟩
      exact
        ⟨result_map Reply.available id (fun _ => rfl) result, after, same.hub,
          same.welcomes⟩
  | postMessage groupId body =>
      rcases same.hub.postMessage keeps groupId body early late with
        ⟨result, after⟩
      exact
        ⟨result_map Reply.seq id (fun _ => rfl) result, same.keyPackages,
          after, same.welcomes⟩
  | getMessages groupId since =>
      refine ⟨?_, same⟩
      exact
        congrArg (fun page => Except.ok (Reply.page page))
          (same.hub.getMessages groupId since)
  | subscribe socket groupId =>
      exact
        ⟨rfl, same.keyPackages, same.hub.subscribe socket groupId,
          same.welcomes⟩
  | postWelcome body =>
      rcases same.welcomes.postWelcome keeps body with ⟨result, after⟩
      exact
        ⟨result_map Reply.id id (fun _ => rfl) result, same.keyPackages,
          same.hub, after⟩
  | getWelcomes userId =>
      rcases same.welcomes.getWelcomes userId with ⟨result, after⟩
      exact
        ⟨result_map Reply.welcomes _ (fun _ => rfl) result, same.keyPackages,
          same.hub, after⟩

/-- Requests with changed payloads are served alike. -/
theorem SameRelay.outputs
    (requests : List (Request Socket)) {first second : Relay Socket}
    (same : SameRelay change first second) (early late : Nat → Nat) :
    BlindRelay.outputs late (requests.map (Request.map change)) second =
      (BlindRelay.outputs early requests first).map (Output.map change) := by
  induction requests generalizing first second early late with
  | nil => rfl
  | cons request requests induction =>
      rcases same.serve keeps request (early 0) (late 0) with
        ⟨result, after⟩
      have rest :=
        induction after (fun index => early (index + 1))
          (fun index => late (index + 1))
      simp only [List.map_cons, BlindRelay.outputs, rest, Output.map,
        result, after.hub.events, same.hub.events, List.length_map,
        List.map_drop]

end Runs

/--
The server is a blind relay: whatever function is applied to the payloads of
a sequence of requests, as long as it keeps which of them are empty, the
answers, events and exceptions are the same up to that function.
-/
theorem delivery_service_is_blind
    {Socket : Type} [DecidableEq Socket]
    (change : CodeUnits → CodeUnits) (keeps : KeepsEmptiness change)
    (joined : Socket → CodeUnits → Bool)
    (requests : List (Request Socket)) (early late : Nat → Nat) :
    outputs late (requests.map (Request.map change)) (Relay.new joined) =
      (outputs early requests (Relay.new joined)).map
        (Output.map change) :=
  (SameRelay.new joined).outputs keeps requests early late

/-- Every payload is doubled. -/
theorem delivery_service_is_blind_doubled :
    outputs (fun index => index + 100)
        ([.postKeyPackages
            ⟨some (literal "bob"), some [literal "key"], none⟩,
          .postClaim (literal "bob"),
          .postClaim (literal "bob")].map
          (Request.map fun text => text ++ text))
        (Relay.new fun (_ : Unit) _ => false) =
      (outputs id
        [.postKeyPackages
            ⟨some (literal "bob"), some [literal "key"], none⟩,
          .postClaim (literal "bob"),
          .postClaim (literal "bob")]
        (Relay.new fun (_ : Unit) _ => false)).map
        (Output.map fun text => text ++ text) :=
  delivery_service_is_blind (fun text => text ++ text)
    ⟨rfl, fun text filled => List.append_ne_nil_of_left_ne_nil filled text⟩
    _ _ id _

end Mls4rn.Server.BlindRelay
