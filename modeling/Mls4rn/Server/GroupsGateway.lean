import Mls4rn.Server.GroupsController

/-!
# Pushed messages

A client may join the room of a group and is then pushed every message that
is published to the group.  The gateway is called from within `publish`, so a
message is pushed before anything else happens.

A client that joins a room and polls afterwards misses nothing: what was
published before the poll is in its answer, and what was published after the
subscription is pushed.
-/

namespace Mls4rn.Server.GroupsGateway

open Mls4rn.Lib
open Mls4rn.Lib.Execution
open Mls4rn.Lib.NumberText
open Mls4rn.Lib.ParseInt
open Mls4rn.Lib.Utf16
open Mls4rn.Server.GroupsService
open Mls4rn.Server.GroupsController
  (Message Page PublishBody getMessages getMessages_of_start startOf view)

/-! ## The gateway -/

/-- The payload of a `message` event. -/
structure Pushed extends Message where
  groupId : CodeUnits
deriving DecidableEq, Repr

/-- The event for a published message. -/
def pushed (groupId : CodeUnits) (stored : StoredMessage) : Pushed where
  toMessage := view stored
  groupId := groupId

/-- The groups, the rooms every socket is in, and what it was sent. -/
structure Hub (Socket : Type) where
  service : Service
  joined : Socket → CodeUnits → Bool
  events : Socket → List Pushed

section Hub

variable {Socket : Type}

/-- Sockets that may be in some rooms from their connection on. -/
def Hub.new (joined : Socket → CodeUnits → Bool) : Hub Socket where
  service := Service.new
  joined := joined
  events := fun _ => []

/-- `server.to(room).emit("message", event)`. -/
def Hub.emit (hub : Hub Socket) (room : CodeUnits) (event : Pushed) :
    Hub Socket :=
  { hub with
    events := fun socket =>
      if hub.joined socket room then hub.events socket ++ [event]
      else hub.events socket }

/-- `GroupsService.publish` with the gateway as its subscriber. -/
def Hub.publish
    (hub : Hub Socket) (groupId message : CodeUnits)
    (sender : Option CodeUnits) (ts : Nat) : StoredMessage × Hub Socket :=
  let (stored, service) :=
    GroupsService.publish hub.service groupId message sender ts
  (stored, { hub with service }.emit groupId (pushed groupId stored))

/-- `GroupsController.publish`. -/
def Hub.postMessage (groupId : CodeUnits) (body : PublishBody) (ts : Nat) :
    Throwing (Hub Socket) HttpException Nat := fun hub =>
  match given body.message with
  | none => (.error (.badRequest (literal "message is required")), hub)
  | some message =>
      let (stored, after) := hub.publish groupId message body.sender ts
      (.ok stored.seq, after)

variable [DecidableEq Socket]

/-- `GroupsGateway.subscribe`: the group that is acknowledged. -/
def Hub.subscribe
    (hub : Hub Socket) (socket : Socket) (groupId : Option CodeUnits) :
    Option CodeUnits × Hub Socket :=
  (groupId,
    match given groupId with
    | some room =>
        { hub with
          joined :=
            Function.update hub.joined socket
              (Function.update (hub.joined socket) room true) }
    | none => hub)

/-- What happens at the server, polls apart. -/
inductive Event (Socket : Type) where
  | publish (groupId : CodeUnits) (body : PublishBody) (ts : Nat)
  | subscribe (socket : Socket) (groupId : Option CodeUnits)

/-- The server; a path with an empty group id is no route of it. -/
def machine : Machine (Hub Socket) (Event Socket) where
  step hub
    | .publish groupId body ts =>
        if groupId = [] then none
        else some (Hub.postMessage groupId body ts hub).2
    | .subscribe socket groupId => some (hub.subscribe socket groupId).2

end Hub

/-! ## What one step does -/

section Steps

variable {Socket : Type}

variable [DecidableEq Socket]

/-- A step refuses, joins, or stores a message and pushes it. -/
theorem step_cases
    {hub next : Hub Socket} {event : Event Socket}
    (taken : machine.step hub event = some next) :
    next = hub ∨
      (∃ socket room,
        next.service = hub.service ∧ next.events = hub.events ∧
          ∀ other group,
            next.joined other group =
              (hub.joined other group ||
                decide (other = socket ∧ group = room))) ∨
      ∃ groupId message sender ts,
        groupId ≠ [] ∧
          next = (hub.publish groupId message sender ts).2 := by
  cases event with
  | publish groupId body ts =>
      simp only [machine] at taken
      split at taken
      · cases taken
      · next named =>
        cases taken
        unfold Hub.postMessage
        cases given body.message with
        | none => exact Or.inl rfl
        | some message =>
            exact Or.inr (Or.inr ⟨groupId, message, _, ts, named, rfl⟩)
  | subscribe socket groupId =>
      cases taken
      unfold Hub.subscribe
      cases given groupId with
      | none => exact Or.inl rfl
      | some room =>
          refine Or.inr (Or.inl ⟨socket, room, rfl, rfl, ?_⟩)
          intro other group
          by_cases same : other = socket
          · subst same
            by_cases equal : group = room
            · simp [equal]
            · simp [equal]
          · simp [same]

end Steps

/-! ## From a subscription on -/

/-- What is kept for a socket that has joined the room of a group. -/
structure Listening {Socket : Type}
    (socket : Socket) (groupId : CodeUnits) (start hub : Hub Socket) :
    Prop where
  sequenced : Sequenced hub.service
  joined : groupId ≠ [] → hub.joined socket groupId = true
  grown : log start.service groupId <+: log hub.service groupId
  /-- The events of the group are the messages of its log. -/
  pushed :
    ∃ more,
      hub.events socket = start.events socket ++ more ∧
        (more.filter fun event => event.groupId = groupId) =
          ((log hub.service groupId).drop
            (log start.service groupId).length).map (pushed groupId)

section Listening

variable {Socket : Type} {socket : Socket} {groupId : CodeUnits}
  {start hub : Hub Socket}

theorem Listening.begin
    (sequenced : Sequenced start.service)
    (joined : groupId ≠ [] → start.joined socket groupId = true) :
    Listening socket groupId start start where
  sequenced := sequenced
  joined := joined
  grown := List.prefix_rfl
  pushed := by
    refine ⟨[], (List.append_nil _).symm, ?_⟩
    rw [List.drop_length]
    rfl

/-- A message of the group is pushed to the socket. -/
theorem Listening.publish_same
    (listening : Listening socket groupId start hub)
    (named : groupId ≠ []) (message : CodeUnits)
    (sender : Option CodeUnits) (ts : Nat) :
    Listening socket groupId start
      (hub.publish groupId message sender ts).2 where
  sequenced := listening.sequenced.publish groupId message sender ts
  joined := listening.joined
  grown := by
    simp only [Hub.publish, Hub.emit, log_publish]
    exact listening.grown.trans (List.prefix_append _ _)
  pushed := by
    rcases listening.pushed with ⟨more, events, messages⟩
    refine
      ⟨more ++
        [GroupsGateway.pushed groupId
          (publish hub.service groupId message sender ts).1], ?_, ?_⟩
    · simp only [Hub.publish, Hub.emit, listening.joined named, if_true,
        events, List.append_assoc]
    · simp only [Hub.publish, Hub.emit, log_publish]
      rw [List.drop_append_of_le_length listening.grown.length_le,
        List.map_append, ← messages]
      simp [GroupsGateway.pushed]

/-- A message of another group is no event of this one. -/
theorem Listening.publish_other
    (listening : Listening socket groupId start hub)
    {other : CodeUnits} (different : groupId ≠ other)
    (message : CodeUnits) (sender : Option CodeUnits) (ts : Nat) :
    Listening socket groupId start
      (hub.publish other message sender ts).2 where
  sequenced := listening.sequenced.publish other message sender ts
  joined := listening.joined
  grown := by
    simp only [Hub.publish, Hub.emit, log_publish_of_ne _ different]
    exact listening.grown
  pushed := by
    rcases listening.pushed with ⟨more, events, messages⟩
    simp only [Hub.publish, Hub.emit, log_publish_of_ne _ different]
    split
    · refine
        ⟨more ++
          [GroupsGateway.pushed other
            (publish hub.service other message sender ts).1], ?_, ?_⟩
      · rw [events, List.append_assoc]
      · rw [List.filter_append, messages]
        simp [GroupsGateway.pushed, Ne.symm different]
    · exact ⟨more, events, messages⟩

theorem Listening.step
    [DecidableEq Socket] (listening : Listening socket groupId start hub)
    {next : Hub Socket} {event : Event Socket}
    (taken : machine.step hub event = some next) :
    Listening socket groupId start next := by
  rcases step_cases taken with
    same | ⟨joining, room, service, events, joined⟩ |
      ⟨other, message, sender, ts, named, stored⟩
  · rw [same]
    exact listening
  · constructor
    · rw [service]
      exact listening.sequenced
    · intro given
      rw [joined, listening.joined given, Bool.true_or]
    · rw [service]
      exact listening.grown
    · rw [service, events]
      exact listening.pushed
  · rw [stored]
    by_cases same : groupId = other
    · subst same
      exact listening.publish_same named message sender ts
    · exact listening.publish_other same message sender ts

/-- Every log of a run is numbered without a gap. -/
theorem sequenced_of_run
    [DecidableEq Socket] {joined : Socket → CodeUnits → Bool}
    {events : List (Event Socket)}
    (ran : machine.run (Hub.new joined) events = some hub) :
    Sequenced hub.service := by
  apply @Machine.run_invariant _ _ machine
    (fun hub => Sequenced hub.service) _ _ _ _ Sequenced.new ran
  intro source event target sequenced taken
  rcases step_cases taken with
    same | ⟨_, _, service, _⟩ | ⟨other, message, sender, ts, -, stored⟩
  · rw [same]
    exact sequenced
  · rw [service]
    exact sequenced
  · rw [stored]
    exact sequenced.publish other message sender ts

theorem joined_subscribe
    [DecidableEq Socket] (hub : Hub Socket) (socket : Socket)
    {groupId : CodeUnits} (named : groupId ≠ []) :
    (hub.subscribe socket (some groupId)).2.joined socket groupId =
      true := by
  have present : given (some groupId) = some groupId :=
    given_eq_some_iff.mpr ⟨rfl, named⟩
  simp [Hub.subscribe, present]

theorem subscribe_service
    [DecidableEq Socket] (hub : Hub Socket) (socket : Socket)
    (groupId : Option CodeUnits) :
    (hub.subscribe socket groupId).2.service = hub.service ∧
      (hub.subscribe socket groupId).2.events = hub.events := by
  unfold Hub.subscribe
  cases given groupId with
  | none => exact ⟨rfl, rfl⟩
  | some room => exact ⟨rfl, rfl⟩

end Listening

/-! ## No gap -/

/-- Two sources of messages that together give all behind a cursor. -/
structure NoGap
    (cursor : Nat) (order polled pushes : List Message) : Prop where
  /-- What was published behind the cursor was polled or pushed. -/
  complete :
    ∀ message ∈ order,
      cursor < message.seq → message ∈ polled ∨ message ∈ pushes
  /-- What was polled was published behind the cursor. -/
  behind : ∀ message ∈ polled, message ∈ order ∧ cursor < message.seq
  /-- What was pushed was published. -/
  genuine : ∀ message ∈ pushes, message ∈ order
  /-- The pushed messages come with increasing numbers. -/
  increasing : pushes.Pairwise fun early late => early.seq < late.seq
  /-- Both copies of a message are the same. -/
  agreed :
    ∀ first ∈ pushes, ∀ second ∈ polled,
      first.seq = second.seq → first = second

section Numbered

variable {messages : List StoredMessage} (isNumbered : Numbered messages)

include isNumbered

/-- A message stands at the place its number says. -/
theorem getElem?_of_mem {stored : StoredMessage} (member : stored ∈ messages) :
    ∃ index, messages[index]? = some stored ∧ stored.seq = index + 1 := by
  rcases List.mem_iff_getElem?.mp member with ⟨index, found⟩
  exact ⟨index, found, isNumbered index stored found⟩

theorem eq_of_seq_eq
    {first second : StoredMessage} (firstMember : first ∈ messages)
    (secondMember : second ∈ messages) (same : first.seq = second.seq) :
    first = second := by
  rcases getElem?_of_mem isNumbered firstMember with ⟨index, found, seq⟩
  rcases getElem?_of_mem isNumbered secondMember with
    ⟨other, otherFound, otherSeq⟩
  have equal : index = other := by omega
  subst equal
  exact Option.some.inj (found.symm.trans otherFound)

theorem mem_drop_iff {stored : StoredMessage} (position : Nat) :
    stored ∈ messages.drop position ↔
      stored ∈ messages ∧ position < stored.seq := by
  constructor
  · intro member
    rcases List.mem_iff_getElem?.mp member with ⟨index, found⟩
    rw [List.getElem?_drop] at found
    have seq := isNumbered _ stored found
    exact ⟨List.mem_of_mem_drop member, by omega⟩
  · rintro ⟨member, behind⟩
    rcases getElem?_of_mem isNumbered member with ⟨index, found, seq⟩
    apply List.mem_iff_getElem?.mpr
    refine ⟨index - position, ?_⟩
    rw [List.getElem?_drop, Nat.add_sub_cancel' (by omega)]
    exact found

theorem pairwise_seq :
    messages.Pairwise fun early late => early.seq < late.seq := by
  rw [List.pairwise_iff_getElem]
  intro first second firstInside secondInside before
  have firstSeq := isNumbered first _ (List.getElem?_eq_getElem firstInside)
  have secondSeq :=
    isNumbered second _ (List.getElem?_eq_getElem secondInside)
  omega

end Numbered

/-- A poll of an earlier log and the pushes from an even earlier one on. -/
theorem noGap_of_logs
    {early later : List StoredMessage}
    (isNumbered : Numbered (early ++ later)) (cursor : Nat) {start : Nat}
    (before : start ≤ early.length) :
    NoGap cursor ((early ++ later).map view)
      ((early.drop cursor).map view)
      (((early ++ later).drop start).map view) := by
  have inEarly {stored : StoredMessage}
      (member : stored ∈ early.drop cursor) :
      stored ∈ early ++ later ∧ cursor < stored.seq := by
    rcases (mem_drop_iff isNumbered.initial cursor).mp member with
      ⟨inside, behind⟩
    exact ⟨List.mem_append_left later inside, behind⟩
  constructor
  case complete =>
    intro message member behind
    rcases List.mem_map.mp member with ⟨stored, inside, rfl⟩
    rcases List.mem_append.mp inside with first | second
    · left
      apply List.mem_map_of_mem
      exact (mem_drop_iff isNumbered.initial cursor).mpr ⟨first, behind⟩
    · right
      apply List.mem_map_of_mem
      rw [List.drop_append_of_le_length before]
      exact List.mem_append_right _ second
  case behind =>
    intro message member
    rcases List.mem_map.mp member with ⟨stored, inside, rfl⟩
    rcases inEarly inside with ⟨published, behind⟩
    exact ⟨List.mem_map_of_mem published, behind⟩
  case genuine =>
    intro message member
    rcases List.mem_map.mp member with ⟨stored, inside, rfl⟩
    exact List.mem_map_of_mem (List.mem_of_mem_drop inside)
  case increasing =>
    rw [List.pairwise_map]
    exact (pairwise_seq isNumbered).sublist (List.drop_sublist _ _)
  case agreed =>
    intro first firstMember second secondMember same
    rcases List.mem_map.mp firstMember with ⟨pushedOne, pushes, rfl⟩
    rcases List.mem_map.mp secondMember with ⟨polledOne, polls, rfl⟩
    congr 1
    apply eq_of_seq_eq isNumbered (List.mem_of_mem_drop pushes) _ same
    exact (inEarly polls).1

section Subscriber

variable {Socket : Type}

/-- The messages of a group that a socket was sent since a moment. -/
def pushedSince
    (socket : Socket) (groupId : CodeUnits) (start now : Hub Socket) :
    List Message :=
  (((now.events socket).drop (start.events socket).length).filter
    fun event => event.groupId = groupId).map Pushed.toMessage

theorem Listening.pushedSince_eq
    {socket : Socket} {groupId : CodeUnits} {start now : Hub Socket}
    (listening : Listening socket groupId start now) :
    pushedSince socket groupId start now =
      ((log now.service groupId).drop
        (log start.service groupId).length).map view := by
  rcases listening.pushed with ⟨more, events, messages⟩
  rw [pushedSince, events, List.drop_left, messages, List.map_map]
  rfl

variable [DecidableEq Socket]

end Subscriber

/-- One more message in a room. -/
def roomMessage (text : String) : Event Unit :=
  .publish (literal "room") ⟨some (literal text), none⟩ 0

end Mls4rn.Server.GroupsGateway
