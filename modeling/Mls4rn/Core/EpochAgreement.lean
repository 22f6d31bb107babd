import Mls4rn.Core.GroupFacade
import Mls4rn.Lib.Base64
import Mls4rn.Lib.Execution
import Mls4rn.Lib.Lists
import Mls4rn.Server.GroupsService

/-!
# Members of one group on one message log

Every member holds a facade group and a cursor into the log of the delivery
service.  A change is merged by its author before the log has ordered its
messages, so the order of the log alone does not keep two members from
committing in the same epoch.

The order does suffice when changes are made one after the other.  `Orderly`
is that discipline: a member makes a change only when it has processed the
whole log and nobody holds an unpublished message, no change gets stuck behind
its own proposal, and messages are published in the order they were made.
Then members that have processed the same messages are in the same epoch.
-/

namespace Mls4rn.Core.EpochAgreement

open Mls4rn.Lib
open Mls4rn.Lib.ByteString
open Mls4rn.Lib.Execution
open Mls4rn.Lib.Utf16
open Mls4rn.Core.GroupFacade
open Mls4rn.Core.MlsGroup
open Mls4rn.Server.GroupsService

/-! ## The system -/

/-- A member: its group, its cursor and what it has still to publish. -/
structure Participant (Epoch Proposal : Type) where
  group : Group Epoch Proposal
  cursor : Nat
  outbox : List Bytes

/-- The delivery service and the members, by the name they publish under. -/
structure World (Epoch Proposal : Type) where
  service : Service
  members : CodeUnits → Participant Epoch Proposal

/-- A step of one member. -/
inductive Step (Seed : Type) where
  | change (who : CodeUnits) (change : Change) (seed : Seed)
  | publish (who : CodeUnits) (index : Nat) (ts : Nat)
  | fetch (who : CodeUnits) (moveOn : Bool)

variable {Epoch KeyPackage Proposal Seed : Type}

/-- Everyone in the same epoch, before the first message. -/
def World.new (epoch : Epoch) : World Epoch Proposal where
  service := Service.new
  members := fun _ =>
    { group := ⟨epoch, [], .operational⟩, cursor := 0, outbox := [] }

/-- Replace the state of one member. -/
def World.put
    (world : World Epoch Proposal) (who : CodeUnits)
    (member : Participant Epoch Proposal) : World Epoch Proposal :=
  { world with members := Function.update world.members who member }

@[simp]
theorem World.put_service
    (world : World Epoch Proposal) (who : CodeUnits)
    (member : Participant Epoch Proposal) :
    (world.put who member).service = world.service :=
  rfl

@[simp]
theorem World.put_same
    (world : World Epoch Proposal) (who : CodeUnits)
    (member : Participant Epoch Proposal) :
    (world.put who member).members who = member := by
  simp only [World.put, Function.update_self]

theorem World.put_other
    (world : World Epoch Proposal) {who other : CodeUnits}
    (different : other ≠ who) (member : Participant Epoch Proposal) :
    (world.put who member).members other = world.members other := by
  simp only [World.put, Function.update_of_ne different]

section System

variable
  (openMls : OpenMls CodeUnits Epoch KeyPackage Proposal Seed)
  (groupId : CodeUnits)

/-- Call `add`, `remove`, `update` or `commit`. -/
def makeChange
    (world : World Epoch Proposal) (who : CodeUnits) (change : Change)
    (seed : Seed) : World Epoch Proposal :=
  let member := world.members who
  match change.perform openMls who seed member.group with
  | (.ok messages, group) =>
      world.put who
        { member with group, outbox := member.outbox ++ messages }
  | (.error _, group) => world.put who { member with group }

/-- Publish one of the own messages. -/
def publishMessage
    (world : World Epoch Proposal) (who : CodeUnits) (index ts : Nat) :
    Option (World Epoch Proposal) :=
  let member := world.members who
  match member.outbox[index]? with
  | none => none
  | some message =>
      some
        (World.put
          { world with
            service :=
              (publish world.service groupId (Base64.encode message)
                (some who) ts).2 }
          who { member with outbox := member.outbox.eraseIdx index })

/--
Pass a fetched message to `Group.receive`.  Behind a message that throws the
member may stay or move on.
-/
def receiveStored
    (member : Participant Epoch Proposal) (who : CodeUnits)
    (stored : StoredMessage) (moveOn : Bool) :
    Participant Epoch Proposal :=
  let passed := if moveOn then stored.seq else member.cursor
  match Base64.decode stored.message with
  | none => { member with cursor := passed }
  | some message =>
      match receive openMls who message member.group with
      | (.ok _, group) => { member with group, cursor := stored.seq }
      | (.error _, group) => { member with group, cursor := passed }

/-- Fetch the next message; the own ones are skipped. -/
def fetchNext
    (world : World Epoch Proposal) (who : CodeUnits) (moveOn : Bool) :
    Option (World Epoch Proposal) :=
  let member := world.members who
  match since world.service groupId member.cursor with
  | [] => none
  | stored :: _ =>
      if stored.sender = some who then
        some (world.put who { member with cursor := stored.seq })
      else
        some (world.put who (receiveStored openMls member who stored moveOn))

/-- The members and the delivery service as one machine. -/
def machine : Machine (World Epoch Proposal) (Step Seed) where
  step
    | world, .change who change seed =>
        some (makeChange openMls world who change seed)
    | world, .publish who index ts =>
        publishMessage groupId world who index ts
    | world, .fetch who moveOn =>
        fetchNext openMls groupId world who moveOn

/-! ## What the members agree on -/

/-- The messages in a log that a member published itself, from its front on. -/
def ownRun (who : CodeUnits) (messages : List StoredMessage) : Nat :=
  (messages.takeWhile fun stored =>
    decide (stored.sender = some who)).length

/--
How many messages of the log a member has processed: those behind its cursor
and its own ones right ahead, which it merged when it made them.
-/
def processed (world : World Epoch Proposal) (who : CodeUnits) : Nat :=
  (world.members who).cursor +
    ownRun who ((log world.service groupId).drop (world.members who).cursor)

/--
Members that have processed the same messages and have published all of their
own are in the same epoch.  Who has been removed is no longer a member.
-/
def SameEpochs (world : World Epoch Proposal) : Prop :=
  ∀ first second,
    processed groupId world first = processed groupId world second →
      (world.members first).outbox = [] →
        (world.members second).outbox = [] →
          (world.members first).group.isActive = true →
            (world.members second).group.isActive = true →
              (world.members first).group.epoch =
                (world.members second).group.epoch

/-- The discipline under which the order of the log suffices. -/
def Orderly (world : World Epoch Proposal) : Step Seed → Prop
  | .change who change seed =>
      (∀ other, (world.members other).outbox = []) ∧
        processed groupId world who =
            (log world.service groupId).length ∧
          change.Committable openMls who seed (world.members who).group
  | .publish _ index _ => index = 0
  | .fetch _ _ => True

/-! ## What is assumed of the library -/

/-- A proposal and its message, made by a member in an epoch. -/
def Makes
    (own : CodeUnits) (epoch : Epoch) (proposal : Proposal)
    (message : Bytes) : Prop :=
  (∃ keyPackage seed,
    openMls.createAdd own epoch keyPackage seed = .ok (proposal, message)) ∨
    (∃ leaf seed,
      openMls.createRemove own epoch leaf seed = .ok (proposal, message)) ∨
      ∃ seed,
        openMls.createUpdate own epoch seed = .ok (proposal, message)

/--
Another member in the same epoch takes a proposal as it was made, and a commit
on the proposals it holds too leads it to the epoch of its author, unless the
commit removes it.
-/
structure Delivers : Prop where
  proposal :
    ∀ {own other epoch proposal message} {group : Group Epoch Proposal},
      Makes openMls own epoch proposal message →
        other ≠ own → group.epoch = epoch → group.state = .operational →
          openMls.messageBody message = some .privateMessage ∧
            openMls.processBody other group message =
              .ok (.proposalMessage proposal)
  commit :
    ∀ {own other epoch pending seed bundle} {group : Group Epoch Proposal},
      openMls.buildCommit own epoch pending seed = .ok bundle →
        other ≠ own → group.epoch = epoch → group.proposals = pending →
          group.state = .operational →
            openMls.messageBody bundle.commit = some .privateMessage ∧
              ∃ removed,
                openMls.processBody other group bundle.commit =
                  .ok (.stagedCommitMessage ⟨bundle.staged.epoch, removed⟩)

/-! ## Positions in a log -/

/--
A member whose cursor is at `cursor` stands at `position`: the messages
between are its own, and none of its own lies ahead.
-/
structure StandsAt
    (messages : List StoredMessage) (who : CodeUnits)
    (cursor position : Nat) : Prop where
  passed : cursor ≤ position
  inside : position ≤ messages.length
  own : ∀ index stored,
    cursor ≤ index → index < position →
      messages[index]? = some stored → stored.sender = some who
  ahead : ∀ index stored,
    position ≤ index → messages[index]? = some stored →
      stored.sender ≠ some who

theorem ownRun_eq
    {who : CodeUnits} {messages : List StoredMessage} {count : Nat}
    (inside : count ≤ messages.length)
    (own : ∀ index stored,
      index < count → messages[index]? = some stored →
        stored.sender = some who)
    (ahead : ∀ stored,
      messages[count]? = some stored → stored.sender ≠ some who) :
    ownRun who messages = count := by
  induction messages generalizing count with
  | nil =>
      rw [List.length_nil, Nat.le_zero] at inside
      rw [inside]
      rfl
  | cons stored messages induction =>
      cases count with
      | zero =>
          have other := ahead stored rfl
          simp [ownRun, other]
      | succ count =>
          have first : stored.sender = some who :=
            own 0 stored (Nat.succ_pos count) rfl
          have rest := induction (Nat.le_of_succ_le_succ inside)
            (fun index later small found =>
              own (index + 1) later (Nat.succ_lt_succ small) found)
            (fun later found => ahead later found)
          rw [ownRun] at rest ⊢
          simp only [List.takeWhile_cons, first, decide_true, if_true,
            List.length_cons, rest]

theorem StandsAt.processed_eq
    {world : World Epoch Proposal} {who : CodeUnits} {position : Nat}
    (stands :
      StandsAt (log world.service groupId) who
        (world.members who).cursor position) :
    processed groupId world who = position := by
  have run :
      ownRun who
          ((log world.service groupId).drop (world.members who).cursor) =
        position - (world.members who).cursor := by
    apply ownRun_eq
    · rw [List.length_drop]
      exact Nat.sub_le_sub_right stands.inside _
    · intro index stored small found
      rw [List.getElem?_drop] at found
      exact stands.own _ stored (Nat.le_add_right _ _) (by omega) found
    · intro stored found
      rw [List.getElem?_drop] at found
      exact stands.ahead _ stored (by omega) found
  rw [processed, run]
  exact Nat.add_sub_cancel' stands.passed

section Positions

variable
  {messages : List StoredMessage} {who : CodeUnits}
  {cursor position : Nat}

variable {stored : StoredMessage}

section

variable (stands : StandsAt messages who cursor position)
include stands

/-- An own message at the end of the log. -/
theorem StandsAt.published
    (atEnd : position = messages.length) (own : stored.sender = some who) :
    StandsAt (messages ++ [stored]) who cursor (position + 1) where
  passed := Nat.le_succ_of_le stands.passed
  inside := by
    rw [List.length_append, List.length_singleton, atEnd]
  own index other behind below found := by
    rcases Lists.getElem?_concat_cases found with old | ⟨-, rfl⟩
    · have inside := (List.getElem?_eq_some_iff.mp old).1
      exact stands.own index other behind (by omega) old
    · exact own
  ahead index other beyond found := by
    have bound := (List.getElem?_eq_some_iff.mp found).1
    rw [List.length_append, List.length_singleton] at bound
    omega

/-- A message of somebody else at the end of the log. -/
theorem StandsAt.appended (foreign : stored.sender ≠ some who) :
    StandsAt (messages ++ [stored]) who cursor position where
  passed := stands.passed
  inside := by
    rw [List.length_append]
    exact Nat.le_add_right_of_le stands.inside
  own index other behind below found := by
    rw [List.getElem?_append_left
      (Nat.lt_of_lt_of_le below stands.inside)] at found
    exact stands.own index other behind below found
  ahead index other beyond found := by
    rcases Lists.getElem?_concat_cases found with old | ⟨-, rfl⟩
    · exact stands.ahead index other beyond old
    · exact foreign

/-- Skipping an own message changes nothing but the cursor. -/
theorem StandsAt.skipped
    (next : messages[cursor]? = some stored) (own : stored.sender = some who) :
    StandsAt messages who (cursor + 1) position where
  passed := by
    rcases Nat.lt_or_ge cursor position with below | beyond
    · exact below
    · exact absurd own (stands.ahead cursor stored beyond next)
  inside := stands.inside
  own index other behind below found :=
    stands.own index other (Nat.le_of_succ_le behind) below found
  ahead := stands.ahead

/-- A message of somebody else is next only for who stands at its cursor. -/
theorem StandsAt.position_eq
    (next : messages[cursor]? = some stored)
    (foreign : stored.sender ≠ some who) :
    position = cursor := by
  rcases Nat.lt_or_ge cursor position with below | beyond
  · exact absurd (stands.own cursor stored le_rfl below next) foreign
  · exact Nat.le_antisymm beyond stands.passed

end

/-- Behind the message of somebody else. -/
theorem StandsAt.received
    (stands : StandsAt messages who cursor cursor)
    (next : messages[cursor]? = some stored) :
    StandsAt messages who (cursor + 1) (cursor + 1) where
  passed := le_rfl
  inside := (List.getElem?_eq_some_iff.mp next).1
  own index other behind below found := by omega
  ahead index other beyond found :=
    stands.ahead index other (Nat.le_of_succ_le beyond) found

end Positions

/-! ## The track of the group -/

/-- What a member shares with the others: epoch and pending proposals. -/
abbrev View (Epoch Proposal : Type) : Type :=
  Epoch × List Proposal

/-- A member that was removed, or one with a given view. -/
def Holds (group : Group Epoch Proposal) (view : View Epoch Proposal) :
    Prop :=
  group.state = .inactive ∨
    group.state = .operational ∧ (group.epoch, group.proposals) = view

/-- A message that leads every other member from one view to the next. -/
def Leads
    (sender : CodeUnits) (message : Bytes)
    (source target : View Epoch Proposal) : Prop :=
  ∀ other (group : Group Epoch Proposal),
    other ≠ sender → group.state = .operational →
      (group.epoch, group.proposals) = source →
        ∃ returned reached,
          receive openMls other message group = (.ok returned, reached) ∧
            Holds reached target

/-- A message between two consecutive views of the track. -/
def LeadsAt
    (track : List (View Epoch Proposal)) (index : Nat)
    (sender : CodeUnits) (message : Bytes) : Prop :=
  ∃ source target,
    track[index]? = some source ∧ track[index + 1]? = some target ∧
      Leads openMls sender message source target

/--
The invariant of orderly runs.  The track holds the view behind every message
published or still to be published; a member holds the view at its position,
counted over its own unpublished messages.
-/
structure Tracked
    (world : World Epoch Proposal) (track : List (View Epoch Proposal))
    (position : CodeUnits → Nat) : Prop where
  sequenced : Sequenced world.service
  stands : ∀ who,
    StandsAt (log world.service groupId) who (world.members who).cursor
      (position who)
  alone : ∀ who other,
    (world.members who).outbox ≠ [] → (world.members other).outbox ≠ [] →
      who = other
  atEnd : ∀ who,
    (world.members who).outbox ≠ [] →
      position who = (log world.service groupId).length
  views : ∀ who, ∃ view,
    track[position who + (world.members who).outbox.length]? = some view ∧
      Holds (world.members who).group view
  published : ∀ index stored,
    (log world.service groupId)[index]? = some stored →
      ∃ sender message,
        stored.sender = some sender ∧
          stored.message = Base64.encode message ∧
            LeadsAt openMls track index sender message
  unpublished : ∀ who index message,
    (world.members who).outbox[index]? = some message →
      LeadsAt openMls track
        ((log world.service groupId).length + index) who message

theorem tracked_new (epoch : Epoch) :
    Tracked openMls groupId (World.new epoch : World Epoch Proposal)
      [(epoch, [])] (fun _ => 0) where
  sequenced := Sequenced.new
  stands _ :=
    { passed := le_rfl
      inside := le_rfl
      own := nofun
      ahead := nofun }
  alone := nofun
  atEnd := nofun
  views _ := ⟨(epoch, []), rfl, Or.inr ⟨rfl, rfl⟩⟩
  published := nofun
  unpublished := nofun

section Steps

variable
  {openMls : OpenMls CodeUnits Epoch KeyPackage Proposal Seed}
  {groupId : CodeUnits}
  {world : World Epoch Proposal} {track : List (View Epoch Proposal)}
  {position : CodeUnits → Nat}

/-- The message behind the cursor. -/
theorem Tracked.next
    (tracked : Tracked openMls groupId world track position)
    {who : CodeUnits} {stored : StoredMessage}
    {rest : List StoredMessage}
    (fetched :
      since world.service groupId (world.members who).cursor =
        stored :: rest) :
    (log world.service groupId)[(world.members who).cursor]? =
        some stored ∧
      stored.seq = (world.members who).cursor + 1 := by
  rw [since_eq_drop tracked.sequenced] at fetched
  have found :
      (log world.service groupId)[(world.members who).cursor]? =
        some stored := by
    have first := congrArg List.head? fetched
    rwa [List.head?_drop, List.head?_cons] at first
  exact ⟨found, tracked.sequenced groupId _ stored found⟩

variable {group : Group Epoch Proposal} {source : View Epoch Proposal}

section

variable (tracked : Tracked openMls groupId world track position)
include tracked

/-- One member moved on, with nothing new in the log or its outbox. -/
theorem Tracked.moved
    {who : CodeUnits} {cursor place : Nat}
    (stands : StandsAt (log world.service groupId) who cursor place)
    (atEnd :
      (world.members who).outbox ≠ [] →
        place = (log world.service groupId).length)
    {view : View Epoch Proposal}
    (seen : track[place + (world.members who).outbox.length]? = some view)
    (holds : Holds group view) :
    Tracked openMls groupId
      (world.put who
        { group, cursor, outbox := (world.members who).outbox })
      track (Function.update position who place) := by
  have outboxes (other : CodeUnits) :
      ((world.put who
          { group, cursor,
            outbox := (world.members who).outbox }).members
            other).outbox = (world.members other).outbox := by
    by_cases same : other = who
    · subst same
      rw [World.put_same]
    · rw [World.put_other _ same]
  constructor
  · exact tracked.sequenced
  · intro other
    by_cases same : other = who
    · subst same
      rw [World.put_same, Function.update_self]
      exact stands
    · rw [World.put_other _ same, Function.update_of_ne same]
      exact tracked.stands other
  · intro first second
    rw [outboxes, outboxes]
    exact tracked.alone first second
  · intro other
    rw [outboxes]
    by_cases same : other = who
    · subst same
      rw [Function.update_self]
      exact atEnd
    · rw [Function.update_of_ne same]
      exact tracked.atEnd other
  · intro other
    by_cases same : other = who
    · subst same
      rw [World.put_same, Function.update_self]
      exact ⟨view, seen, holds⟩
    · rw [World.put_other _ same, Function.update_of_ne same]
      exact tracked.views other
  · exact tracked.published
  · intro other index message
    rw [outboxes]
    exact tracked.unpublished other index message

/-- A fetched message of somebody else, received or thrown on. -/
theorem Tracked.receives
    {who : CodeUnits} {stored : StoredMessage}
    (next :
      (log world.service groupId)[(world.members who).cursor]? = some stored)
    (numbered : stored.seq = (world.members who).cursor + 1)
    (foreign : stored.sender ≠ some who) (moveOn : Bool) :
    ∃ places,
      Tracked openMls groupId
        (world.put who
          (receiveStored openMls (world.members who) who stored moveOn))
        track places := by
  have here := (tracked.stands who).position_eq next foreign
  have stands := tracked.stands who
  rw [here] at stands
  have empty : (world.members who).outbox = [] := by
    by_contra waiting
    have atEnd := tracked.atEnd who waiting
    have bound := (List.getElem?_eq_some_iff.mp next).1
    omega
  have moved := stands.received next
  rcases tracked.published _ stored next with
    ⟨sender, message, sentBy, sent, source, target, before, behind, leads⟩
  rcases tracked.views who with ⟨view, seen, holds⟩
  rw [here, empty, List.length_nil, Nat.add_zero, before,
    Option.some.injEq] at seen
  subst seen
  have decoded : Base64.decode stored.message = some message := by
    rw [sent, Base64.decode_encode]
  have other : who ≠ sender := by
    rintro rfl
    exact foreign sentBy
  have step {group : Group Epoch Proposal} (reaches : Holds group target) :
      Tracked openMls groupId
        (world.put who
          { group
            cursor := stored.seq
            outbox := (world.members who).outbox })
        track
        (Function.update position who
          ((world.members who).cursor + 1)) := by
    rw [numbered]
    refine tracked.moved moved ?_ ?_ reaches
    · intro waiting
      exact absurd empty waiting
    · rw [empty]
      exact behind
  simp only [receiveStored, decoded]
  rcases holds with inactive | ⟨operational, viewed⟩
  · rcases processMessage_of_inactive openMls who inactive message with
      ⟨thrown, failed⟩
    simp only [receive, failed]
    cases moveOn with
    | true => exact ⟨_, step (Or.inl inactive)⟩
    | false =>
        have stay :
            track[(world.members who).cursor +
              (world.members who).outbox.length]? = some source := by
          rw [empty]
          exact before
        refine ⟨_, tracked.moved stands ?_ stay (Or.inl inactive)⟩
        intro waiting
        exact absurd empty waiting
  · rcases leads who (world.members who).group other operational viewed with
      ⟨returned, reached, received, reaches⟩
    simp only [received]
    exact ⟨_, step reaches⟩

/-- A fetch keeps the track. -/
theorem Tracked.fetched
    {who : CodeUnits} {moveOn : Bool} {reached : World Epoch Proposal}
    (taken : fetchNext openMls groupId world who moveOn = some reached) :
    ∃ places, Tracked openMls groupId reached track places := by
  unfold fetchNext at taken
  simp only at taken
  split at taken
  · cases taken
  · next stored rest fetched =>
    rcases tracked.next fetched with ⟨next, numbered⟩
    split at taken
    · next own =>
      cases taken
      have stands := (tracked.stands who).skipped next own
      rw [← numbered] at stands
      rcases tracked.views who with ⟨view, seen, holds⟩
      exact ⟨_, tracked.moved stands (tracked.atEnd who) seen holds⟩
    · next foreign =>
      cases taken
      exact tracked.receives next numbered foreign moveOn

/-- Publishing the first own message moves it from the outbox to the log. -/
theorem Tracked.publishes
    {who : CodeUnits} {ts : Nat} {reached : World Epoch Proposal}
    (taken : publishMessage groupId world who 0 ts = some reached) :
    ∃ places, Tracked openMls groupId reached track places := by
  rcases outbox : (world.members who).outbox with - | ⟨message, rest⟩
  · simp [publishMessage, outbox] at taken
  simp only [publishMessage, outbox, List.getElem?_cons_zero,
    List.eraseIdx_zero, List.tail_cons, Option.some.injEq] at taken
  subst taken
  have waiting : (world.members who).outbox ≠ [] := by
    rw [outbox]
    exact List.cons_ne_nil _ _
  have onlyHere (other : CodeUnits) (different : other ≠ who) :
      (world.members other).outbox = [] := by
    by_contra also
    exact different (tracked.alone other who also waiting)
  have atEnd := tracked.atEnd who waiting
  have grown := log_publish world.service groupId (Base64.encode message)
    (some who) ts
  have own :
      (publish world.service groupId (Base64.encode message) (some who)
        ts).1.sender = some who :=
    rfl
  have content :
      (publish world.service groupId (Base64.encode message) (some who)
        ts).1.message = Base64.encode message :=
    rfl
  have numbered :=
    tracked.sequenced.publish groupId (Base64.encode message) (some who) ts
  generalize publish world.service groupId (Base64.encode message)
    (some who) ts = result at grown own content numbered ⊢
  rcases result with ⟨stored, service⟩
  simp only at grown own content numbered ⊢
  refine ⟨Function.update position who (position who + 1), ?_⟩
  constructor
  case sequenced =>
    exact numbered
  case stands =>
    intro other
    rw [World.put_service, grown]
    by_cases same : other = who
    · subst same
      rw [World.put_same, Function.update_self]
      exact (tracked.stands other).published atEnd own
    · rw [World.put_other _ same, Function.update_of_ne same]
      refine (tracked.stands other).appended ?_
      rw [own]
      intro equal
      exact same (Option.some.inj equal).symm
  case alone =>
    intro first second firstWaits secondWaits
    have isWho (other : CodeUnits)
        (waits :
          ((World.put { world with service } who
            { world.members who with outbox := rest }).members
              other).outbox ≠ []) : other = who := by
      by_contra different
      rw [World.put_other _ different] at waits
      exact waits (onlyHere other different)
    rw [isWho first firstWaits, isWho second secondWaits]
  case atEnd =>
    intro other waits
    by_cases same : other = who
    · subst same
      rw [Function.update_self, World.put_service, grown, atEnd,
        List.length_append, List.length_singleton]
    · rw [World.put_other _ same] at waits
      exact absurd (onlyHere other same) waits
  case views =>
    intro other
    rcases tracked.views other with ⟨view, seen, holds⟩
    refine ⟨view, ?_, ?_⟩
    · by_cases same : other = who
      · subst same
        rw [World.put_same, Function.update_self]
        rw [outbox, List.length_cons] at seen
        rw [← seen]
        show track[position other + 1 + rest.length]? = _
        rw [Nat.add_assoc, Nat.add_comm 1 rest.length]
      · rw [World.put_other _ same, Function.update_of_ne same]
        exact seen
    · by_cases same : other = who
      · subst same
        rw [World.put_same]
        exact holds
      · rw [World.put_other _ same]
        exact holds
  case published =>
    intro index other found
    rw [World.put_service, grown] at found
    rcases Lists.getElem?_concat_cases found with old | ⟨last, same⟩
    · exact tracked.published index other old
    · have leads := tracked.unpublished who 0 message
        (by rw [outbox]; rfl)
      rw [Nat.add_zero] at leads
      rw [same, last]
      exact ⟨who, message, own, content, leads⟩
  case unpublished =>
    intro other index later found
    rw [World.put_service, grown, List.length_append, List.length_singleton]
    by_cases same : other = who
    · subst same
      rw [World.put_same] at found
      have leads := tracked.unpublished other (index + 1) later
        (by rw [outbox]; exact found)
      rw [Nat.add_assoc, Nat.add_comm 1 index]
      exact leads
    · rw [World.put_other _ same, onlyHere other same] at found
      cases found

end

/-- The proposal of a change, seen by the others. -/
theorem leads_proposal
    (delivers : Delivers openMls) {own : CodeUnits} {epoch : Epoch}
    {proposal : Proposal} {message : Bytes}
    (makes : Makes openMls own epoch proposal message)
    (proposals : List Proposal) :
    Leads openMls own message (epoch, proposals)
      (epoch, proposals ++ [proposal]) := by
  intro other group different operational viewed
  rw [Prod.mk.injEq] at viewed
  rcases delivers.proposal makes different viewed.1 operational with
    ⟨body, processed⟩
  refine ⟨[], group.queue proposal, ?_, Or.inr ⟨operational, ?_⟩⟩
  · rw [receive,
      processMessage_of_content openMls other operational body processed]
    rfl
  · rw [Group.queue, viewed.1, viewed.2]

/-- The commit of a change, seen by the others. -/
theorem leads_commit
    (delivers : Delivers openMls) {own : CodeUnits} {epoch : Epoch}
    {pending : List Proposal} {seed : Seed} {bundle : CommitBundle Epoch}
    (built : openMls.buildCommit own epoch pending seed = .ok bundle) :
    Leads openMls own bundle.commit (epoch, pending)
      (bundle.staged.epoch, []) := by
  intro other group different operational viewed
  rw [Prod.mk.injEq] at viewed
  rcases delivers.commit built different viewed.1 viewed.2 operational with
    ⟨body, removed, processed⟩
  refine ⟨[], group.merged ⟨bundle.staged.epoch, removed⟩, ?_, ?_⟩
  · rw [receive,
      processMessage_of_content openMls other operational body processed]
    cases removed with
    | false => rfl
    | true => rfl
  · cases removed with
    | false => exact Or.inr ⟨rfl, rfl⟩
    | true => exact Or.inl rfl

/-- What a change queues was made by its author in the current epoch. -/
theorem makes_of_queued
    {change : Change} {own : CodeUnits} {seed : Seed}
    {proposal : Proposal} {message : Bytes}
    (queued :
      change.queued openMls own seed group = some (proposal, message)) :
    Makes openMls own group.epoch proposal message := by
  cases change with
  | add keyPackage =>
      simp only [Change.queued] at queued
      split at queued
      · exact Or.inl ⟨_, _, (create_of_made queued).2⟩
      · cases queued
  | remove memberName =>
      simp only [Change.queued] at queued
      split at queued
      · exact Or.inr (Or.inl ⟨_, _, (create_of_made queued).2⟩)
      · cases queued
  | update =>
      simp only [Change.queued] at queued
      exact Or.inr (Or.inr ⟨_, (create_of_made queued).2⟩)
  | commit => cases queued

/-- Messages of one member that lead through a list of views. -/
inductive Follows (openMls : OpenMls CodeUnits Epoch KeyPackage Proposal Seed)
    (sender : CodeUnits) :
    View Epoch Proposal → List Bytes → List (View Epoch Proposal) → Prop where
  | nil (view : View Epoch Proposal) : Follows openMls sender view [] []
  | cons {source target : View Epoch Proposal} {message : Bytes}
      {messages : List Bytes} {views : List (View Epoch Proposal)}
      (leads : Leads openMls sender message source target)
      (rest : Follows openMls sender target messages views) :
      Follows openMls sender source (message :: messages) (target :: views)

theorem Follows.leadsAt
    {sender : CodeUnits}
    {messages : List Bytes} {views : List (View Epoch Proposal)}
    (follows : Follows openMls sender source messages views)
    {index : Nat} {message : Bytes} (found : messages[index]? = some message) :
    LeadsAt openMls (source :: views) index sender message := by
  induction follows generalizing index with
  | nil view => cases found
  | cons leads rest induction =>
      cases index with
      | zero =>
          cases found
          exact ⟨_, _, rfl, rfl, leads⟩
      | succ index => exact induction found

theorem getElem_take_append
    {count : Nat} (here : track[count]? = some source)
    (views : List (View Epoch Proposal)) (offset : Nat) :
    (track.take count ++ source :: views)[count + offset]? =
      (source :: views)[offset]? := by
  have bound := (List.getElem?_eq_some_iff.mp here).1
  have length : (track.take count).length = count := by
    rw [List.length_take]
    omega
  rw [List.getElem?_append_right (by omega), length, Nat.add_sub_cancel_left]

theorem getElem_take_append_of_le
    {count : Nat} (here : track[count]? = some source)
    (views : List (View Epoch Proposal)) {index : Nat} (small : index ≤ count) :
    (track.take count ++ source :: views)[index]? = track[index]? := by
  have bound := (List.getElem?_eq_some_iff.mp here).1
  rcases Nat.lt_or_eq_of_le small with below | rfl
  · rw [List.getElem?_append_left (by rw [List.length_take]; omega),
      List.getElem?_take_of_lt below]
  · have first := getElem_take_append here views 0
    rw [Nat.add_zero] at first
    rw [first, here]
    rfl

/-- New messages of a member at the end of the log extend the track. -/
theorem Tracked.extended
    (tracked : Tracked openMls groupId world track position) {who : CodeUnits}
    (empty : ∀ other, (world.members other).outbox = [])
    (atEnd : position who = (log world.service groupId).length)
    {source last : View Epoch Proposal}
    (here : track[(log world.service groupId).length]? = some source)
    {messages : List Bytes} {views : List (View Epoch Proposal)}
    (follows : Follows openMls who source messages views)
    (seen : (source :: views)[messages.length]? = some last)
    (holds : Holds group last) :
    Tracked openMls groupId
      (world.put who
        { world.members who with group, outbox := messages })
      (track.take (log world.service groupId).length ++ source :: views)
      position := by
  have onlyHere (other : CodeUnits)
      (waits :
        ((world.put who
          { world.members who with
            group
            outbox := messages }).members other).outbox ≠ []) :
      other = who := by
    by_contra different
    rw [World.put_other _ different] at waits
    exact waits (empty other)
  constructor
  · exact tracked.sequenced
  · intro other
    by_cases same : other = who
    · subst same
      rw [World.put_same]
      exact tracked.stands other
    · rw [World.put_other _ same]
      exact tracked.stands other
  · intro first second firstWaits secondWaits
    rw [onlyHere first firstWaits, onlyHere second secondWaits]
  · intro other waits
    rw [onlyHere other waits]
    exact atEnd
  · intro other
    by_cases same : other = who
    · subst same
      refine ⟨last, ?_, ?_⟩
      · rw [World.put_same, atEnd, getElem_take_append here]
        exact seen
      · rw [World.put_same]
        exact holds
    · rcases tracked.views other with ⟨view, found, kept⟩
      refine ⟨view, ?_, ?_⟩
      · rw [World.put_other _ same, getElem_take_append_of_le here]
        · exact found
        · rw [empty other]
          exact (tracked.stands other).inside
      · rw [World.put_other _ same]
        exact kept
  · intro index stored found
    have bound := (List.getElem?_eq_some_iff.mp found).1
    rcases tracked.published index stored found with
      ⟨sender, message, sentBy, sent, before, behind, first, second, leads⟩
    refine ⟨sender, message, sentBy, sent, before, behind, ?_, ?_, leads⟩
    · rw [getElem_take_append_of_le here views (Nat.le_of_lt bound)]
      exact first
    · rw [getElem_take_append_of_le here views bound]
      exact second
  · intro other index message found
    have same : other = who := onlyHere other (by
      intro nothing
      rw [nothing] at found
      cases found)
    subst same
    rw [World.put_same] at found
    rcases follows.leadsAt found with ⟨before, behind, first, second, leads⟩
    refine ⟨before, behind, ?_, ?_, leads⟩
    · rw [World.put_service, getElem_take_append here]
      exact first
    · rw [World.put_service, Nat.add_assoc, getElem_take_append here]
      exact second

/-- An orderly change extends the track or leaves everything as it was. -/
theorem Tracked.changes
    (delivers : Delivers openMls)
    (tracked : Tracked openMls groupId world track position)
    {who : CodeUnits} {change : Change} {seed : Seed}
    (empty : ∀ other, (world.members other).outbox = [])
    (atEnd : position who = (log world.service groupId).length)
    (committable :
      change.Committable openMls who seed (world.members who).group) :
    ∃ longer places,
      Tracked openMls groupId (makeChange openMls world who change seed)
        longer places := by
  have ends := change.ends openMls who seed (world.members who).group
  rcases tracked.views who with ⟨view, here, holds⟩
  rw [empty who, List.length_nil, Nat.add_zero, atEnd] at here
  unfold makeChange
  simp only [empty who, List.nil_append]
  generalize change.perform openMls who seed (world.members who).group =
    result at ends ⊢
  cases ends with
  | committed bundle operational built =>
      have viewed :
          ((world.members who).group.epoch,
            (world.members who).group.proposals) = view := by
        rcases holds with inactive | ⟨-, viewed⟩
        · rw [inactive] at operational
          cases operational
        · exact viewed
      subst viewed
      have commits := leads_commit delivers built
      have reaches :
          Holds
            (Group.merged
              { (world.members who).group with
                proposals :=
                  change.pending openMls who seed (world.members who).group }
              bundle.staged)
            (bundle.staged.epoch, []) := by
        rcases bundle.staged with ⟨epoch, selfRemoved⟩
        cases selfRemoved with
        | false => exact Or.inr ⟨rfl, rfl⟩
        | true => exact Or.inl rfl
      cases queued :
          change.queued openMls who seed (world.members who).group with
      | none =>
          rw [Change.pending, queued, Option.map_none, Option.toList_none,
            List.append_nil] at commits
          have follows := Follows.cons commits (.nil _)
          exact ⟨_, _, tracked.extended empty atEnd here follows rfl reaches⟩
      | some entry =>
          rcases entry with ⟨proposal, message⟩
          have proposes :=
            leads_proposal delivers (makes_of_queued queued)
              (world.members who).group.proposals
          rw [Change.pending, queued] at commits
          have follows := Follows.cons proposes (.cons commits (.nil _))
          exact ⟨_, _, tracked.extended empty atEnd here follows rfl reaches⟩
  | stuck proposal message thrown queued unbuilt =>
      rcases committable proposal message queued with ⟨bundle, built⟩
      exact absurd built (unbuilt bundle)
  | refused thrown nothing =>
      exact ⟨_, _, tracked.extended empty atEnd here (.nil view) rfl holds⟩

/-- Members at the same position hold the same view. -/
theorem Tracked.sameEpochs
    (tracked : Tracked openMls groupId world track position) :
    SameEpochs groupId world := by
  intro first second together firstDone secondDone firstActive secondActive
  rw [(tracked.stands first).processed_eq,
    (tracked.stands second).processed_eq] at together
  have viewed (who : CodeUnits)
      (active : (world.members who).group.isActive = true)
      (done : (world.members who).outbox = []) :
      track[position who]? =
        some ((world.members who).group.epoch,
          (world.members who).group.proposals) := by
    rcases tracked.views who with ⟨view, seen, holds⟩
    rw [done, List.length_nil, Nat.add_zero] at seen
    rcases holds with inactive | ⟨-, same⟩
    · rw [Group.isActive, inactive] at active
      cases active
    · rw [seen, same]
  have firstView := viewed first firstActive firstDone
  have secondView := viewed second secondActive secondDone
  rw [together, secondView, Option.some.injEq, Prod.mk.injEq] at firstView
  exact firstView.1.symm

end Steps

/--
In every run whose changes are made one after the other, members that have
processed the same messages are in the same epoch.
-/
theorem orderly_runs_agree
    (delivers : Delivers openMls) (epoch : Epoch)
    (world : World Epoch Proposal)
    (reached :
      Reaches (machine openMls groupId) (Orderly openMls groupId)
        (World.new epoch) world) :
    SameEpochs groupId world := by
  have invariant :
      ∃ track position,
        Tracked openMls groupId world track position := by
    apply reached.invariant
    · exact ⟨_, _, tracked_new openMls groupId epoch⟩
    · rintro source label target ⟨track, position, tracked⟩ orderly taken
      cases label with
      | change who change seed =>
          rcases orderly with ⟨empty, whole, committable⟩
          rw [(tracked.stands who).processed_eq] at whole
          cases taken
          exact tracked.changes delivers empty whole committable
      | publish who index ts =>
          cases orderly
          exact ⟨track, tracked.publishes taken⟩
      | fetch who moveOn => exact ⟨track, tracked.fetched taken⟩
  rcases invariant with ⟨track, position, tracked⟩
  exact tracked.sameEpochs

end System

/-! ## Concurrent changes -/

/--
A library whose epoch is the list of commits behind it.  A message names the
epoch it was made in, and a member in another epoch refuses it.
-/
def transcriptMls :
    OpenMls CodeUnits Bytes Bytes (Bool × UInt8) UInt8 where
  keyPackageFromBytes bytes := .ok bytes
  members _ := []
  createAdd _ epoch _ seed := .ok ((true, seed), 0 :: seed :: epoch)
  createRemove _ epoch _ seed := .ok ((false, seed), 1 :: seed :: epoch)
  createUpdate _ epoch seed := .ok ((false, seed), 1 :: seed :: epoch)
  createLeave _ epoch seed := .ok ((false, seed), 1 :: seed :: epoch)
  buildCommit _ epoch pending seed :=
    .ok
      { commit := 2 :: seed :: epoch
        welcome := if pending.any Prod.fst then some [3] else none
        staged := ⟨seed :: epoch, false⟩ }
  exportRatchetTree epoch := epoch
  messageBody
    | [] => none
    | _ :: _ => some .privateMessage
  processBody _ group
    | kind :: seed :: epoch =>
        if epoch = group.epoch then
          if kind = 2 then
            .ok (.stagedCommitMessage ⟨seed :: epoch, false⟩)
          else .ok (.proposalMessage (decide (kind = 0), seed))
        else .error (literal "WrongEpoch")
    | _ => .error (literal "WrongEpoch")
  unknownMember := literal "UnknownMember"
  pendingCommit := literal "PendingCommit"
  useAfterEviction := literal "UseAfterEviction"
  noWelcome := literal "no welcome"
  welcome_of_add := by
    intro own epoch keyPackage seed proposal message builder later pending
      again bundle created member built
    cases created
    cases built
    have present : pending.any Prod.fst = true :=
      List.any_eq_true.mpr ⟨_, member, rfl⟩
    simp only [present, if_true, Option.isSome_some]
  createAdd_ne := by
    intro own epoch keyPackage seed proposal message created
    cases created
    exact List.cons_ne_nil _ _
  createRemove_ne := by
    intro own epoch leaf seed proposal message created
    cases created
    exact List.cons_ne_nil _ _
  createUpdate_ne := by
    intro own epoch seed proposal message created
    cases created
    exact List.cons_ne_nil _ _

theorem delivers_transcriptMls : Delivers transcriptMls where
  proposal := by
    intro own other epoch proposal message group makes different same
      operational
    rcases makes with ⟨keyPackage, seed, made⟩ | ⟨leaf, seed, made⟩ |
      ⟨seed, made⟩
    · cases made
      refine ⟨rfl, ?_⟩
      simp [transcriptMls, same]
    · cases made
      refine ⟨rfl, ?_⟩
      simp [transcriptMls, same]
    · cases made
      refine ⟨rfl, ?_⟩
      simp [transcriptMls, same]
  commit := by
    intro own other epoch pending seed bundle group built different same
      held operational
    cases built
    refine ⟨rfl, false, ?_⟩
    simp [transcriptMls, same]

/-- A member. -/
def alice : CodeUnits := literal "alice"

/-- Another member. -/
def bob : CodeUnits := literal "bob"

/-- A third member. -/
def carol : CodeUnits := literal "carol"

/-- Their group. -/
def room : CodeUnits := literal "room"

/-- An update that is published and received before the next change. -/
theorem orderly_runs_agree_update :
    ∃ world,
      (machine transcriptMls room).run (World.new [])
          [.change alice .update 1, .publish alice 0 0,
            .publish alice 0 0, .fetch bob false, .fetch bob false] =
        some world ∧
        (world.members bob).group.epoch = [1] ∧
          SameEpochs room world := by
  have committable :
      Change.update.Committable transcriptMls alice 1
        ((World.new [] : World Bytes (Bool × UInt8)).members
          alice).group := by
    intro proposal message queued
    exact ⟨_, rfl⟩
  have ready :
      Reaches (machine transcriptMls room) (Orderly transcriptMls room)
        (World.new []) (World.new []) :=
    .start
  have changed :=
    Reaches.step (Step.change alice .update (1 : UInt8)) ready
      ⟨fun _ => rfl, by decide, committable⟩ rfl
  have once := Reaches.step (Step.publish alice 0 0) changed rfl rfl
  have twice := Reaches.step (Step.publish alice 0 0) once rfl rfl
  have first := Reaches.step (Step.fetch bob false) twice trivial rfl
  have second := Reaches.step (Step.fetch bob false) first trivial rfl
  exact ⟨_, rfl, by decide +kernel,
    orderly_runs_agree transcriptMls room delivers_transcriptMls [] _ second⟩

/-- Both update at once, publish everything and fetch the whole log. -/
def raceSteps : List (Step UInt8) :=
  [.change alice .update 1, .change bob .update 2,
    .publish alice 0 0, .publish alice 0 0,
    .publish bob 0 0, .publish bob 0 0,
    .fetch alice true, .fetch alice true, .fetch alice true,
    .fetch alice true,
    .fetch bob true, .fetch bob true, .fetch bob true, .fetch bob true]

/-- A third member has seen one message, and the first can go no further. -/
def stallSteps : List (Step UInt8) :=
  [.change alice .update 1, .change bob .update 2,
    .publish alice 0 0, .publish bob 0 0, .publish alice 0 0,
    .fetch alice false, .fetch alice false, .fetch carol false]

/--
Two runs in which members that have processed the same messages, and have
none left to publish, are in different epochs.  In the first they move on
behind messages that throw, in the second they stay.
-/
theorem log_order_forks :
    (∃ world,
      (machine transcriptMls room).run (World.new []) raceSteps =
          some world ∧
        ¬ SameEpochs room world) ∧
      ∃ world,
        (machine transcriptMls room).run (World.new []) stallSteps =
            some world ∧
          ¬ SameEpochs room world := by
  constructor
  · refine ⟨_, rfl, ?_⟩
    intro same
    have equal := same alice bob (by decide +kernel) (by decide +kernel)
      (by decide +kernel) (by decide +kernel) (by decide +kernel)
    revert equal
    decide +kernel
  · refine ⟨_, rfl, ?_⟩
    intro same
    have equal := same alice carol (by decide +kernel) (by decide +kernel)
      (by decide +kernel) (by decide +kernel) (by decide +kernel)
    revert equal
    decide +kernel

end Mls4rn.Core.EpochAgreement
