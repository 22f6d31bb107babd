import Mls4rn.Lib.Execution
import Mls4rn.Lib.ParseInt
import Mls4rn.Lib.Throwing
import Mls4rn.Server.GroupsService
import Mls4rn.Server.HttpException

/-!
# Publishing and polling

The controller of the groups stores messages and answers polls.  A poll names
a cursor, as a text; the answer holds the messages behind it and the cursor
for the next poll.

In a run, any number of clients poll one group each.  A client leaves the
cursor out at first and passes back the last one it got from then on.  What it
has received is an initial part of what was published to its group.
-/

namespace Mls4rn.Server.GroupsController

open Mls4rn.Lib
open Mls4rn.Lib.Execution
open Mls4rn.Lib.NumberText
open Mls4rn.Lib.ParseInt
open Mls4rn.Lib.Utf16
open Mls4rn.Server.GroupsService

/-! ## The controller -/

/-- `PublishBody`; a missing field is `none`. -/
structure PublishBody where
  message : Option CodeUnits
  sender : Option CodeUnits

/-- `GroupsController.publish`, at the time `ts`: the number answered. -/
def postMessage (groupId : CodeUnits) (body : PublishBody) (ts : Nat) :
    Throwing Service HttpException Nat := fun service =>
  match given body.message with
  | none =>
      (.error (.badRequest (literal "message is required")), service)
  | some message =>
      let (stored, after) := publish service groupId message body.sender ts
      (.ok stored.seq, after)

/-- A message as it is sent out; a missing sender is `null`. -/
structure Message where
  seq : Nat
  sender : Option CodeUnits
  message : CodeUnits
deriving DecidableEq, Repr

/-- The fields that are sent out. -/
def view (stored : StoredMessage) : Message where
  seq := stored.seq
  sender := stored.sender
  message := stored.message

/-- The answer to a poll. -/
structure Page where
  messages : List Message
  cursor : JsNumber
deriving DecidableEq, Repr

/-- `since ? Number.parseInt(since, 10) : 0`. -/
def startOf (since : Option CodeUnits) : JsNumber :=
  match given since with
  | some text => parseInt text
  | none => .integer 0

/-- `Number.isFinite(from) ? from : 0`. -/
def finiteOrZero : JsNumber → Int
  | .integer value => value
  | _ => 0

/-- `from || 0`. -/
def orZero : JsNumber → JsNumber
  | .nan => .integer 0
  | number => number

/-- `GroupsController.since`. -/
def getMessages
    (service : Service) (groupId : CodeUnits) (since : Option CodeUnits) :
    Page :=
  let messages :=
    GroupsService.since service groupId (finiteOrZero (startOf since))
  { messages := messages.map view
    cursor :=
      match messages.getLast? with
      | some last => .integer last.seq
      | none => orZero (startOf since) }

/-! ## Clients that poll -/

/-- A client: the cursor of its next poll, and what it has received. -/
structure Poller where
  since : Option CodeUnits
  received : List Message

/-- A message as it was handed to the controller. -/
structure Posted where
  message : CodeUnits
  sender : Option CodeUnits

/-- The service, its clients, and what was published so far. -/
structure Network (Client : Type) where
  service : Service
  pollers : Client → Poller
  published : List (CodeUnits × Posted)

/-- Nothing was published and no client has polled. -/
def Network.new {Client : Type} : Network Client where
  service := Service.new
  pollers := fun _ => ⟨none, []⟩
  published := []

/-- What happens. -/
inductive Event (Client : Type) where
  | publish (groupId : CodeUnits) (body : PublishBody) (ts : Nat)
  | poll (client : Client)

/-- The most elements an array can have. -/
def maxArrayLength : Nat :=
  2 ^ 32 - 1

/-- A cursor in the query of the next poll. -/
def cursorText : JsNumber → CodeUnits
  | .integer value => intText value
  | _ => literal "null"

section Runs

variable {Client : Type}

/-- What a client keeps of an answer. -/
def Poller.receive (poller : Poller) (page : Page) : Poller where
  since := some (cursorText page.cursor)
  received := poller.received ++ page.messages

/-- A message is handed to the controller. -/
def Network.publish
    (network : Network Client) (groupId : CodeUnits) (body : PublishBody)
    (ts : Nat) : Network Client :=
  { network with
    service := (postMessage groupId body ts network.service).2
    published :=
      network.published ++
        ((given body.message).map fun message =>
          (groupId, (⟨message, body.sender⟩ : Posted))).toList }

variable [DecidableEq Client] (groupOf : Client → CodeUnits)

/-- A client polls its group. -/
def Network.poll (network : Network Client) (client : Client) :
    Network Client :=
  let poller := network.pollers client
  { network with
    pollers :=
      Function.update network.pollers client
        (poller.receive
          (getMessages network.service (groupOf client) poller.since)) }

/-- The network; a log that is full takes no more messages. -/
def machine : Machine (Network Client) (Event Client) where
  step network
    | .publish groupId body ts =>
        if (log network.service groupId).length < maxArrayLength then
          some (network.publish groupId body ts)
        else
          none
    | .poll client => some (network.poll groupOf client)

end Runs

/-- Messages with their place in the order. -/
def numbered (posts : List Posted) : List Message :=
  posts.mapIdx fun index posted =>
    { seq := index + 1
      sender := posted.sender
      message := posted.message }

/-- The publish order of a group. -/
def orderOf (published : List (CodeUnits × Posted)) (groupId : CodeUnits) :
    List Message :=
  numbered ((published.filter fun entry => entry.1 = groupId).map Prod.snd)

/-! ## A poll with a cursor of the service -/

section Polls

variable {service : Service} (sequenced : Sequenced service)
  {groupId : CodeUnits} {since : Option CodeUnits} {cursor : Nat}

include sequenced

/-- The number of the last message of a log is its length. -/
theorem seq_getLast?
    {last : StoredMessage}
    (found : (log service groupId).getLast? = some last) :
    last.seq = (log service groupId).length := by
  rw [List.getLast?_eq_getElem?] at found
  have numberedLast := sequenced groupId _ last found
  rcases List.getElem?_eq_some_iff.mp found with ⟨inside, -⟩
  omega

/--
A poll from a position of the log is answered with the messages behind it and
the end of the log as the next cursor.
-/
theorem getMessages_of_start
    (start : startOf since = .integer cursor)
    (inside : cursor ≤ (log service groupId).length) :
    getMessages service groupId since =
      { messages := ((log service groupId).drop cursor).map view
        cursor := .integer (log service groupId).length } := by
  have behind := since_eq_drop sequenced groupId cursor
  simp only [getMessages, start, finiteOrZero, behind, Page.mk.injEq,
    true_and]
  rcases inside.lt_or_eq with before | atEnd
  · have same :
        ((log service groupId).drop cursor).getLast? =
          (log service groupId).getLast? := by
      rw [List.getLast?_drop, if_neg (Nat.not_le.mpr before)]
    rw [same]
    cases found : (log service groupId).getLast? with
    | none =>
        rw [List.getLast?_eq_none_iff.mp found] at before
        exact absurd before (Nat.not_lt_zero _)
    | some last =>
        simp only [seq_getLast? sequenced found]
  · rw [atEnd, List.drop_length]
    rfl

end Polls

theorem startOf_natText {cursor : Nat} (precise : cursor < 2 ^ 53) :
    startOf (some (natText cursor)) = .integer cursor := by
  have shown : given (some (natText cursor)) = some (natText cursor) :=
    given_eq_some_iff.mpr ⟨rfl, natText_ne_nil cursor⟩
  simp only [startOf, shown, parseInt_natText precise]

/-! ## The publish order -/

theorem numbered_snoc (posts : List Posted) (posted : Posted) :
    numbered (posts ++ [posted]) =
      numbered posts ++
        [⟨posts.length + 1, posted.sender, posted.message⟩] := by
  simp [numbered, List.mapIdx_concat]

@[simp]
theorem length_numbered (posts : List Posted) :
    (numbered posts).length = posts.length := by
  simp [numbered]

/-- A message is put behind those of its group. -/
theorem orderOf_snoc
    (published : List (CodeUnits × Posted)) (groupId : CodeUnits)
    (posted : Posted) (other : CodeUnits) :
    orderOf (published ++ [(groupId, posted)]) other =
      orderOf published other ++
        if groupId = other then
          [⟨(orderOf published other).length + 1, posted.sender,
            posted.message⟩]
        else [] := by
  by_cases same : groupId = other
  · simp [orderOf, same, numbered_snoc]
  · simp [orderOf, same]

/-! ## What every run keeps -/

section Invariant

variable {Client : Type} {groupOf : Client → CodeUnits}

/-- A client has received an initial part of an order, up to its cursor. -/
structure Follows (order : List Message) (poller : Poller) : Prop where
  initial : poller.received <+: order
  cursor : startOf poller.since = .integer poller.received.length

/-- The logs hold what was published, and the clients follow them. -/
structure Sound
    (groupOf : Client → CodeUnits) (network : Network Client) : Prop where
  sequenced : Sequenced network.service
  bounded : ∀ groupId, (log network.service groupId).length ≤ maxArrayLength
  order :
    ∀ groupId,
      (log network.service groupId).map view =
        orderOf network.published groupId
  follows :
    ∀ client,
      Follows (orderOf network.published (groupOf client))
        (network.pollers client)

theorem Sound.new : Sound groupOf (Network.new : Network Client) where
  sequenced := Sequenced.new
  bounded _ := Nat.zero_le _
  order _ := rfl
  follows _ := ⟨List.prefix_rfl, rfl⟩

theorem Follows.extend
    {order more : List Message} {poller : Poller}
    (follows : Follows order poller) : Follows (order ++ more) poller where
  initial := follows.initial.trans (List.prefix_append order more)
  cursor := follows.cursor

variable {network : Network Client}

theorem Sound.length_order
    (sound : Sound groupOf network) (groupId : CodeUnits) :
    (orderOf network.published groupId).length =
      (log network.service groupId).length := by
  rw [← sound.order groupId, List.length_map]

/-- An accepted message goes to the end of its order and of its log. -/
theorem Sound.accept
    (sound : Sound groupOf network) {groupId : CodeUnits}
    (room : (log network.service groupId).length < maxArrayLength)
    (message : CodeUnits) (sender : Option CodeUnits) (ts : Nat) :
    Sound groupOf
      { network with
        service :=
          (GroupsService.publish network.service groupId message sender ts).2
        published :=
          network.published ++ [(groupId, ⟨message, sender⟩)] } where
  sequenced := sound.sequenced.publish groupId message sender ts
  bounded other := by
    by_cases same : other = groupId
    · subst same
      rw [log_publish, List.length_append, List.length_singleton]
      exact room
    · rw [log_publish_of_ne _ same]
      exact sound.bounded other
  order other := by
    rw [orderOf_snoc, sound.length_order]
    by_cases same : other = groupId
    · subst same
      rw [log_publish, List.map_append, sound.order other, if_pos rfl]
      rfl
    · have different : ¬groupId = other := fun equal => same equal.symm
      rw [log_publish_of_ne _ same, sound.order other, if_neg different,
        List.append_nil]
  follows client := by
    rw [orderOf_snoc]
    exact (sound.follows client).extend

/-- A request without a message changes nothing. -/
theorem publish_of_refused
    {body : PublishBody} (missing : given body.message = none)
    (network : Network Client) (groupId : CodeUnits) (ts : Nat) :
    network.publish groupId body ts = network := by
  simp [Network.publish, postMessage, missing]

theorem publish_of_accepted
    {body : PublishBody} {message : CodeUnits}
    (present : given body.message = some message)
    (network : Network Client) (groupId : CodeUnits) (ts : Nat) :
    network.publish groupId body ts =
      { network with
        service :=
          (GroupsService.publish network.service groupId message
            body.sender ts).2
        published :=
          network.published ++ [(groupId, ⟨message, body.sender⟩)] } := by
  simp [Network.publish, postMessage, present]

theorem Sound.publish
    (sound : Sound groupOf network) {groupId : CodeUnits}
    (room : (log network.service groupId).length < maxArrayLength)
    (body : PublishBody) (ts : Nat) :
    Sound groupOf (network.publish groupId body ts) := by
  cases present : given body.message with
  | none =>
      rw [publish_of_refused present]
      exact sound
  | some message =>
      rw [publish_of_accepted present]
      exact sound.accept room message body.sender ts

/-- What a poll receives is what was missing. -/
theorem Sound.getMessages_eq
    (sound : Sound groupOf network) (client : Client) :
    getMessages network.service (groupOf client)
        (network.pollers client).since =
      { messages :=
          (orderOf network.published (groupOf client)).drop
            (network.pollers client).received.length
        cursor :=
          .integer
            (orderOf network.published (groupOf client)).length } := by
  have follows := sound.follows client
  have inside := follows.initial.length_le
  rw [sound.length_order] at inside
  rw [getMessages_of_start sound.sequenced follows.cursor inside,
    sound.length_order, List.map_drop, sound.order]

variable [DecidableEq Client]

/-- After a poll a client has received everything. -/
theorem Sound.pollers_poll
    (sound : Sound groupOf network) (client : Client) :
    (network.poll groupOf client).pollers client =
      { since :=
          some (natText (orderOf network.published (groupOf client)).length)
        received := orderOf network.published (groupOf client) } := by
  rcases (sound.follows client).initial with ⟨missing, whole⟩
  simp only [Network.poll, Function.update_self,
    sound.getMessages_eq client, Poller.receive, cursorText,
    Poller.mk.injEq]
  refine ⟨rfl, ?_⟩
  rw [← whole, List.drop_left]

theorem pollers_poll_of_ne
    (network : Network Client) {client other : Client}
    (different : other ≠ client) :
    (network.poll groupOf client).pollers other =
      network.pollers other := by
  simp only [Network.poll, Function.update_of_ne different]

theorem Sound.poll
    (sound : Sound groupOf network) (client : Client) :
    Sound groupOf (network.poll groupOf client) where
  sequenced := sound.sequenced
  bounded := sound.bounded
  order := sound.order
  follows other := by
    change Follows (orderOf network.published (groupOf other)) _
    by_cases same : other = client
    · subst same
      have small :
          (orderOf network.published (groupOf other)).length < 2 ^ 53 := by
        rw [sound.length_order]
        exact (sound.bounded (groupOf other)).trans_lt (by decide)
      rw [sound.pollers_poll other]
      exact ⟨List.prefix_rfl, startOf_natText small⟩
    · rw [pollers_poll_of_ne _ same]
      exact sound.follows other

theorem Sound.step
    {network next : Network Client} (sound : Sound groupOf network)
    {event : Event Client}
    (taken : (machine groupOf).step network event = some next) :
    Sound groupOf next := by
  cases event with
  | publish groupId body ts =>
      simp only [machine] at taken
      split at taken
      · next room =>
        cases taken
        exact sound.publish room body ts
      · cases taken
  | poll client =>
      cases taken
      exact sound.poll client

end Invariant

/-! ## Delivery -/

section Delivery

variable {Client : Type}

/-- A publication to a group. -/
def Event.publishesTo (groupId : CodeUnits) : Event Client → Bool
  | .publish other _ _ => decide (other = groupId)
  | .poll _ => false

/-- What is left of a run without the publications to other groups. -/
def Event.concerns (groupId : CodeUnits) : Event Client → Bool
  | .publish other _ _ => decide (other = groupId)
  | .poll _ => true

theorem log_publish_other
    (network : Network Client) {groupId other : CodeUnits}
    (different : other ≠ groupId) (body : PublishBody) (ts : Nat) :
    log (network.publish groupId body ts).service other =
      log network.service other := by
  cases present : given body.message with
  | none => rw [publish_of_refused present]
  | some message =>
      rw [publish_of_accepted present]
      exact log_publish_of_ne _ different _ _ _

theorem orderOf_publish_other
    (network : Network Client) {groupId other : CodeUnits}
    (different : groupId ≠ other) (body : PublishBody) (ts : Nat) :
    orderOf (network.publish groupId body ts).published other =
      orderOf network.published other := by
  cases present : given body.message with
  | none => rw [publish_of_refused present]
  | some message =>
      rw [publish_of_accepted present]
      simp only [orderOf_snoc, if_neg different, List.append_nil]

variable {first second : Network Client}

/-- A log grows by what is published to its group. -/
theorem log_publish_same
    {groupId : CodeUnits}
    (same : log first.service groupId = log second.service groupId)
    (body : PublishBody) (ts : Nat) :
    log (first.publish groupId body ts).service groupId =
      log (second.publish groupId body ts).service groupId := by
  cases present : given body.message with
  | none =>
      rw [publish_of_refused present, publish_of_refused present]
      exact same
  | some message =>
      rw [publish_of_accepted present, publish_of_accepted present]
      change
        log (publish first.service groupId message body.sender ts).2 _ =
          log (publish second.service groupId message body.sender ts).2 _
      rw [log_publish, log_publish, same]
      simp only [publish, same]

/-- A poll looks at the log of its group only. -/
theorem getMessages_congr
    {first second : Service} {groupId : CodeUnits}
    (same : log first groupId = log second groupId)
    (since : Option CodeUnits) :
    getMessages first groupId since = getMessages second groupId since := by
  simp only [getMessages, GroupsService.since, same]

variable (groupOf : Client → CodeUnits)

/-- Two networks that look alike to the clients of a group. -/
structure Alike (groupId : CodeUnits) (first second : Network Client) :
    Prop where
  log :
    GroupsService.log first.service groupId =
      GroupsService.log second.service groupId
  pollers :
    ∀ client,
      groupOf client = groupId → first.pollers client = second.pollers client

variable {groupOf}

theorem Alike.publish
    {groupId : CodeUnits} (alike : Alike groupOf groupId first second)
    (body : PublishBody) (ts : Nat) :
    Alike groupOf groupId (first.publish groupId body ts)
      (second.publish groupId body ts) where
  log := log_publish_same alike.log body ts
  pollers := alike.pollers

theorem Alike.publish_other
    {groupId other : CodeUnits} (alike : Alike groupOf groupId first second)
    (different : groupId ≠ other) (body : PublishBody) (ts : Nat) :
    Alike groupOf groupId (first.publish other body ts) second where
  log := (log_publish_other first different body ts).trans alike.log
  pollers := alike.pollers

variable [DecidableEq Client]

theorem Alike.poll
    {groupId : CodeUnits}
    (alike : Alike groupOf groupId first second) (client : Client) :
    Alike groupOf groupId (first.poll groupOf client)
      (second.poll groupOf client) where
  log := alike.log
  pollers other member := by
    by_cases same : other = client
    · subst same
      simp only [Network.poll, Function.update_self,
        alike.pollers other member]
      rw [getMessages_congr (member ▸ alike.log)]
    · rw [pollers_poll_of_ne _ same, pollers_poll_of_ne _ same]
      exact alike.pollers other member

/-- Publications to other groups may be left out of a run. -/
theorem Alike.run
    {groupId : CodeUnits} {first second final : Network Client}
    (alike : Alike groupOf groupId first second)
    (events : List (Event Client))
    (ran : (machine groupOf).run first events = some final) :
    ∃ alone,
      (machine groupOf).run second
          (events.filter (Event.concerns groupId)) = some alone ∧
        Alike groupOf groupId final alone := by
  induction events generalizing first second with
  | nil =>
      cases ran
      exact ⟨second, rfl, alike⟩
  | cons event events induction =>
      rw [Machine.run] at ran
      split at ran
      · cases ran
      · next next stepped =>
        cases event with
        | publish other body ts =>
            simp only [machine] at stepped
            split at stepped
            · next room =>
              cases stepped
              by_cases same : other = groupId
              · subst same
                rw [alike.log] at room
                rcases induction (alike.publish body ts) ran with
                  ⟨alone, rest, after⟩
                refine ⟨alone, ?_, after⟩
                rw [List.filter_cons_of_pos (by simp [Event.concerns])]
                simp only [Machine.run, machine, if_pos room]
                exact rest
              · rcases induction
                  (alike.publish_other (Ne.symm same) body ts) ran with
                  ⟨alone, rest, after⟩
                refine ⟨alone, ?_, after⟩
                rw [List.filter_cons_of_neg (by simp [Event.concerns, same])]
                exact rest
            · cases stepped
        | poll client =>
            cases stepped
            rcases induction (alike.poll client) ran with
              ⟨alone, rest, after⟩
            refine ⟨alone, ?_, after⟩
            rw [List.filter_cons_of_pos rfl]
            exact rest

/-- A client that has received everything misses nothing meanwhile. -/
theorem current_of_step
    {network next : Network Client} (sound : Sound groupOf network)
    {client : Client} {event : Event Client}
    (quiet : event.publishesTo (groupOf client) = false)
    (current :
      (network.pollers client).received =
        orderOf network.published (groupOf client))
    (taken : (machine groupOf).step network event = some next) :
    (next.pollers client).received =
      orderOf next.published (groupOf client) := by
  cases event with
  | publish groupId body ts =>
      have different : groupId ≠ groupOf client :=
        of_decide_eq_false quiet
      simp only [machine] at taken
      split at taken
      · cases taken
        rw [orderOf_publish_other network different]
        exact current
      · cases taken
  | poll other =>
      cases taken
      change _ = orderOf network.published (groupOf client)
      by_cases same : client = other
      · subst same
        rw [sound.pollers_poll client]
      · rw [pollers_poll_of_ne network same]
        exact current

/-- What the clients of a run have received. -/
structure Delivered
    (groupOf : Client → CodeUnits) (events : List (Event Client))
    (network : Network Client) : Prop where
  /-- An initial part of the publish order of the group. -/
  initial :
    ∀ client,
      (network.pollers client).received <+:
        orderOf network.published (groupOf client)
  /-- All of it, if nothing was published to the group after a poll. -/
  current :
    ∀ client before after,
      events = before ++ .poll client :: after →
        (∀ event ∈ after, event.publishesTo (groupOf client) = false) →
          (network.pollers client).received =
            orderOf network.published (groupOf client)
  /-- Two clients of a group differ in how far they are. -/
  agreed :
    ∀ first second,
      groupOf first = groupOf second →
        (network.pollers first).received <+:
            (network.pollers second).received ∨
          (network.pollers second).received <+:
            (network.pollers first).received
  /-- Without the publications to other groups it would be the same. -/
  isolated :
    ∀ groupId,
      ∃ alone,
        (machine groupOf).run Network.new
            (events.filter (Event.concerns groupId)) = some alone ∧
          ∀ client,
            groupOf client = groupId →
              alone.pollers client = network.pollers client

/-- After a poll with no publication behind it nothing is missing. -/
theorem current_of_run
    {client : Client} {network final : Network Client}
    (sound : Sound groupOf network) (after : List (Event Client))
    (quiet : ∀ event ∈ after, event.publishesTo (groupOf client) = false)
    (current :
      (network.pollers client).received =
        orderOf network.published (groupOf client))
    (ran : (machine groupOf).run network after = some final) :
    (final.pollers client).received =
      orderOf final.published (groupOf client) := by
  induction after generalizing network with
  | nil =>
      cases ran
      exact current
  | cons event after induction =>
      rw [Machine.run] at ran
      split at ran
      · cases ran
      · next next stepped =>
        have kept :=
          current_of_step sound (quiet event List.mem_cons_self) current
            stepped
        exact
          induction (sound.step stepped)
            (fun other member =>
              quiet other (List.mem_cons_of_mem event member))
            kept ran

/--
In every run of publications and polls, a client receives every message of
its group once, in the order of publication.
-/
theorem polling_delivers_in_order
    (groupOf : Client → CodeUnits) (events : List (Event Client))
    (network : Network Client)
    (ran : (machine groupOf).run Network.new events = some network) :
    Delivered groupOf events network := by
  have keeps :
      ∀ source event target,
        Sound groupOf source →
          (machine groupOf).step source event = some target →
            Sound groupOf target :=
    fun _ _ _ sound taken => sound.step taken
  have sound := Machine.run_invariant keeps Sound.new ran
  have initial := fun client => (sound.follows client).initial
  constructor
  case initial => exact initial
  case current =>
    intro client before after split quiet
    subst split
    rcases Machine.run_append ran with ⟨middle, first, second⟩
    have earlier := Machine.run_invariant keeps Sound.new first
    apply current_of_run (earlier.poll client) after quiet _ second
    exact congrArg Poller.received (earlier.pollers_poll client)
  case agreed =>
    intro first second same
    have other := initial second
    rw [← same] at other
    exact List.prefix_or_prefix_of_prefix (initial first) other
  case isolated =>
    intro groupId
    have alike :
        Alike groupOf groupId (Network.new : Network Client)
          Network.new :=
      ⟨rfl, fun _ _ => rfl⟩
    rcases alike.run events ran with ⟨alone, rest, after⟩
    exact
      ⟨alone, rest, fun client member =>
        (after.pollers client member).symm⟩

end Delivery

/-- Two messages; one client polls between them and one behind them. -/
def twoMessages : List (Event Bool) :=
  [.publish (literal "room") ⟨some (literal "a"), none⟩ 5,
    .poll true,
    .publish (literal "room") ⟨some (literal "b"), some (literal "bob")⟩ 6,
    .poll false]

theorem polling_delivers_in_order_pair :
    ∃ network,
      (machine fun _ => literal "room").run Network.new twoMessages =
          some network ∧
        (network.pollers false).received =
          [⟨1, none, literal "a"⟩, ⟨2, some (literal "bob"), literal "b"⟩] ∧
        Delivered (fun _ => literal "room") twoMessages network := by
  have received :
      ((machine fun _ => literal "room").run Network.new twoMessages).map
          (fun network => (network.pollers false).received) =
        some
          [⟨1, none, literal "a"⟩,
            ⟨2, some (literal "bob"), literal "b"⟩] := by
    decide +kernel
  rcases Option.map_eq_some_iff.mp received with ⟨network, ran, whole⟩
  exact ⟨network, ran, whole, polling_delivers_in_order _ _ network ran⟩

end Mls4rn.Server.GroupsController
