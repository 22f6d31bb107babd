import Mls4rn.Lib.Ascending
import Mls4rn.Lib.Execution
import Mls4rn.ReactNative.SharedPage

/-!
# Overlapping calls of `Mls.save`

Any number of `Mls.save` calls may be under way, between them any other
requests of the facade.  Each call asks the page for a snapshot, and writes
the text it gets with `setItem`.  Messages keep their order in both
directions, and `setItem` calls take effect in the order in which they were
made.

The process remembers the pages it had, so that a moment is the position of a
page, and the moment at which each `save` was called.  Every entry of a text
has a stamp, a moment at which it was the state of its client id.  Stamps of
the store never decrease; a text takes the stamps of the store with it, and
so later texts have later stamps.
-/

namespace Mls4rn.ReactNative.OverlappingSaves

open Mls4rn.Lib
open Mls4rn.Lib.ByteString
open Mls4rn.Lib.Execution
open Mls4rn.Lib.NumberText
open Mls4rn.Lib.PlainObject
open Mls4rn.Lib.Utf16
open Mls4rn.Core.PersistentClient (Client StoredMls recordMls)
open Mls4rn.ReactNative.HostStore (Store)
open Mls4rn.ReactNative.HostTasks (saved)
open Mls4rn.ReactNative.SharedPage

variable {Keypair Operation Seed Number : Type}

/-! ## The process -/

/--
The page and the pages before it, the messages in both directions, the number
of the next request, the calls of `save` that wait for their snapshot, the
calls of `setItem` that have not taken effect, the values they have written,
and the moment at which each `save` was called.
-/
structure Process (Keypair Operation : Type) where
  page : Page Keypair
  history : List (Page Keypair)
  wire : List (Nat × Request Operation)
  posts : List Post
  nextId : Nat
  saves : List Nat
  queue : List (Nat × CodeUnits)
  written : List (Nat × CodeUnits)
  called : Nat → Nat

/-- The process when `ready` has resolved. -/
def Process.start (store : Store) (nextId : Nat) :
    Process Keypair Operation where
  page := Page.restored store
  history := []
  wire := []
  posts := []
  nextId := nextId
  saves := []
  queue := []
  written := []
  called := fun _ => 0

/-- The pages so far, with the present one. -/
def Process.pages (process : Process Keypair Operation) :
    List (Page Keypair) :=
  process.history ++ [process.page]

/-- The present moment. -/
def Process.now (process : Process Keypair Operation) : Nat :=
  process.history.length

/-- The value under the persistence key, once one was written. -/
def Process.stored (process : Process Keypair Operation) :
    Option CodeUnits :=
  process.written.getLast?.map Prod.snd

/-- `Bridge.request`. -/
def Process.send
    (process : Process Keypair Operation) (request : Request Operation) :
    Process Keypair Operation :=
  { process with
    wire := process.wire ++ [(process.nextId, request)]
    nextId := process.nextId + 1 }

/-- `Mls.save`, up to the answer of the page. -/
def Process.save (process : Process Keypair Operation) :
    Process Keypair Operation :=
  { process.send .snapshot with
    saves := process.saves ++ [process.nextId]
    called := Function.update process.called process.nextId process.now }

/-- The page has served a request or a part of it. -/
def Process.turn
    (process : Process Keypair Operation) (served : Served Keypair) :
    Process Keypair Operation :=
  { process with
    page := served.1
    history := process.history ++ [process.page]
    posts := process.posts ++ served.2 }

/-- `Bridge.handleMessage`; a `save` that has its snapshot calls `setItem`. -/
def Process.handleMessage
    (process : Process Keypair Operation) (post : Post) :
    Process Keypair Operation :=
  if post.1 ∈ process.saves then
    match post.2 with
    | .snapshot text =>
        { process with
          saves := process.saves.erase post.1
          queue := process.queue ++ [(post.1, text)] }
    | _ => { process with saves := process.saves.erase post.1 }
  else
    process

/-- What happens in the process. -/
inductive Event (Operation Seed : Type) where
  | request (request : Request Operation)
  | save
  | arrive (seed : Seed) (order : List (Bytes × Bytes))
  | resumeOpen (position : Nat) (seed : Seed) (order : List (Bytes × Bytes))
  | resumeSnapshot (number : Nat) (order : List (Bytes × Bytes))
  | deliver
  | setItem

section Machine

variable (mls : StoredMls Keypair Operation Seed)
variable (format : NumberFormat Number)

/-- The requests that the facade sends outside `Mls.save`. -/
def isPlain : Request Operation → Bool
  | .snapshot => false
  | _ => true

/-- The process. -/
def machine :
    Machine (Process Keypair Operation) (Event Operation Seed) where
  step process
    | .request request =>
        if isPlain request then some (process.send request) else none
    | .save => some process.save
    | .arrive seed order =>
        match process.wire with
        | [] => none
        | (number, request) :: rest =>
            (process.page.receive mls format number seed order request).map
              { process with wire := rest }.turn
    | .resumeOpen position seed order =>
        (process.page.resumeOpen mls position seed order).map process.turn
    | .resumeSnapshot number order =>
        (process.page.resumeSnapshot mls format number order).map process.turn
    | .deliver =>
        match process.posts with
        | [] => none
        | post :: rest =>
            some ({ process with posts := rest }.handleMessage post)
    | .setItem =>
        match process.queue with
        | [] => none
        | value :: rest =>
            some
              { process with
                queue := rest
                written := process.written ++ [value] }

/-! ## The property and the conditions -/

/-- At the moment, the content was the state of the id. -/
def StateAt
    (pages : List (Page Keypair)) (moment : Nat) (id : CodeUnits)
    (content : Option Bytes) : Prop :=
  ∃ page, pages[moment]? = some page ∧ Reflects mls page id content

/-- What a page has under the id when the text is pushed into it. -/
def entryOf (text id : CodeUnits) : Option Bytes :=
  match HostStore.restore format InsertionMap.empty text with
  | (store, .ok _) => store.get id
  | (_, .error _) => none

/--
Values are written in the order of the states they have, and from the end of a
`save` on the stored value has every client in a state it had behind the call.
-/
structure InOrder (process : Process Keypair Operation) : Prop where
  forward :
    ∀ (first second : Nat) (earlier later : Nat × CodeUnits),
      first ≤ second →
        process.written[first]? = some earlier →
          process.written[second]? = some later →
            ∀ id, ∃ before after,
              before ≤ after ∧
                StateAt mls process.pages before id
                  (entryOf format earlier.2 id) ∧
                StateAt mls process.pages after id (entryOf format later.2 id)
  kept :
    ∀ number text stored,
      (number, text) ∈ process.written →
        process.stored = some stored →
          ∀ id page,
            process.pages[process.called number]? = some page →
              page.holder id ≠ none →
                ∃ moment later client order blob,
                  process.called number ≤ moment ∧
                    process.pages[moment]? = some later ∧
                    later.holder id = some client ∧
                    saved mls client order = some (.ok blob) ∧
                    entryOf format stored id = some blob

end Machine

/-- At most one open handle for a client id. -/
def SingleHandles (process : Process Keypair Operation) :
    Event Operation Seed → Prop
  | .arrive _ _ =>
      ∀ number id,
        process.wire.head? = some (number, .openClient id) →
          id ∉ process.page.ids
  | _ => True

/-- No client is opened under `__proto__`. -/
def Ordinary : Event Operation Seed → Prop
  | .request request => request ≠ .openClient prototypeName
  | _ => True

/-! ## Stamps -/

section Stamps

variable (mls : StoredMls Keypair Operation Seed)
variable (format : NumberFormat Number)

/--
A text shown by a stamp: its entries are states at the moments of the stamp,
none of them in front of the call of the `save`.
-/
def Shows
    (process : Process Keypair Operation) (stamp : CodeUnits → Nat)
    (value : Nat × CodeUnits) : Prop :=
  value.1 < process.nextId ∧
    ∀ id,
      process.called value.1 ≤ stamp id ∧
        StateAt mls process.pages (stamp id) id (entryOf format value.2 id)

/-- The texts that were written or are on their way, oldest first. -/
def Process.texts (process : Process Keypair Operation) :
    List (Nat × CodeUnits) :=
  process.written ++ process.queue ++ snapshots process.posts

/-- Every client in front of the iterator has a stamp behind the call. -/
def Flushed
    (process : Process Keypair Operation) (owners : List (Option CodeUnits))
    (stamp : CodeUnits → Nat) (number position : Nat) : Prop :=
  number < process.nextId ∧ position ≤ owners.length ∧
    ∀ id, some id ∈ owners.take position → process.called number ≤ stamp id

/-- The stamp of the store, which bounds those of the texts. -/
structure Stamped
    (process : Process Keypair Operation) (stamp : CodeUnits → Nat) :
    Prop where
  state :
    ∀ id,
      StateAt mls process.pages (stamp id) id (process.page.store.get id)
  latest :
    ∀ id,
      Reflects mls process.page id (process.page.store.get id) →
        stamp id = process.now
  flushes :
    ∀ number position,
      process.page.flushes number = some position →
        Flushed process process.page.owners stamp number position
  texts :
    Ascending (Shows mls format process) (fun _ => 0) process.texts stamp

/-- What holds in every state of a run. -/
structure Sound (process : Process Keypair Operation) : Prop where
  owned : Owned process.page
  grown :
    process.pages.Pairwise fun earlier later =>
      ∃ more, later.owners = earlier.owners ++ more
  called : ∀ number, process.called number ≤ process.now
  sent :
    ∀ sent ∈ process.wire,
      sent.1 < process.nextId ∧ sent.2 ≠ .openClient prototypeName
  stamped : ∃ stamp, Stamped mls format process stamp

open Classical in
/-- The stamp behind a step: what is the state now has the present moment. -/
noncomputable def restamp
    (target : Page Keypair) (moment : Nat) (stamp : CodeUnits → Nat) :
    CodeUnits → Nat :=
  fun id =>
    if Reflects mls target id (target.store.get id) then moment
    else stamp id

end Stamps

section Steps

variable {mls : StoredMls Keypair Operation Seed}
variable {format : NumberFormat Number}
variable {process : Process Keypair Operation}

theorem restamp_of_reflects
    {target : Page Keypair} {id : CodeUnits}
    (state : Reflects mls target id (target.store.get id)) (moment : Nat)
    (stamp : CodeUnits → Nat) : restamp mls target moment stamp id = moment :=
  if_pos state

/-- The texts of a store, entry by entry. -/
theorem entryOf_snapshot
    {store : Store} {text : CodeUnits}
    (written : HostStore.snapshot format store = .ok text)
    (ordinary : store.get prototypeName = none) (id : CodeUnits) :
    entryOf format text id = store.get id := by
  rw [entryOf, HostStore.restore_snapshot format written]
  simp only [HostStore.get_restored]
  split
  · next accessor => rw [accessor, ordinary]
  · rfl

theorem now_turn
    (process : Process Keypair Operation) (served : Served Keypair) :
    (process.turn served).now = process.now + 1 :=
  List.length_append

theorem StateAt.turn
    {moment : Nat} {id : CodeUnits} {content : Option Bytes}
    (state : StateAt mls process.pages moment id content)
    (served : Served Keypair) :
    StateAt mls (process.turn served).pages moment id content := by
  rcases state with ⟨page, found, reflects⟩
  refine ⟨page, ?_, reflects⟩
  have inside := (List.getElem?_eq_some_iff.mp found).1
  exact (List.getElem?_append_left inside).trans found

variable
  {stamp : CodeUnits → Nat} {served : Served Keypair} {number position : Nat}

section

variable (stamped : Stamped mls format process stamp)
include stamped

/-- A stamp is a moment of the past or the present. -/
theorem Stamped.le_now
    (id : CodeUnits) : stamp id ≤ process.now := by
  rcases stamped.state id with ⟨page, found, -⟩
  have inside := (List.getElem?_eq_some_iff.mp found).1
  rw [Process.pages, List.length_append] at inside
  exact Nat.le_of_lt_succ inside

theorem Stamped.le_restamp
    (target : Page Keypair) :
    stamp ≤ restamp mls target (process.now + 1) stamp := by
  intro id
  unfold restamp
  split
  · exact Nat.le_succ_of_le (stamped.le_now id)
  · exact le_rfl

/-- A moment of the page behind a step, or of one before it. -/
theorem Stamped.state_turn
    (stored :
      ∀ id,
        served.1.store.get id = process.page.store.get id ∨
          Reflects mls served.1 id (served.1.store.get id))
    (id : CodeUnits) :
    StateAt mls (process.turn served).pages
      (restamp mls served.1 (process.now + 1) stamp id) id
      (served.1.store.get id) := by
  have length : process.pages.length = process.now + 1 :=
    List.length_append
  have present :
      (process.turn served).pages[process.now + 1]? = some served.1 := by
    rw [← length]
    exact List.getElem?_concat_length
  by_cases state : Reflects mls served.1 id (served.1.store.get id)
  · rw [restamp_of_reflects state]
    exact ⟨served.1, present, state⟩
  · rw [restamp, if_neg state]
    rcases stored id with same | changed
    · rw [same]
      exact (stamped.state id).turn served
    · exact absurd changed state

/-- A step of the page, with the stamps behind it. -/
theorem Stamped.turn
    (served : Served Keypair)
    (stored :
      ∀ id,
        served.1.store.get id = process.page.store.get id ∨
          Reflects mls served.1 id (served.1.store.get id))
    (flushes :
      ∀ number position,
        served.1.flushes number = some position →
          Flushed process served.1.owners
            (restamp mls served.1 (process.now + 1) stamp) number position)
    (posts :
      ∀ value ∈ snapshots served.2,
        Shows mls format (process.turn served)
          (restamp mls served.1 (process.now + 1) stamp) value) :
    Stamped mls format (process.turn served)
      (restamp mls served.1 (process.now + 1) stamp) := by
  constructor
  case state => exact stamped.state_turn stored
  case latest =>
    intro id state
    rw [now_turn]
    exact restamp_of_reflects state _ _
  case flushes => exact flushes
  case texts =>
    have texts :
        (process.turn served).texts =
          process.texts ++ snapshots served.2 := by
      change _ ++ snapshots (process.posts ++ served.2) = _
      rw [snapshots_append]
      exact (List.append_assoc _ _ _).symm
    rw [texts]
    apply Ascending.append _ posts
    apply (stamped.texts.raise (stamped.le_restamp served.1)).mono
    rintro shown value ⟨numbered, states⟩
    exact ⟨numbered, fun id => ⟨(states id).1, (states id).2.turn served⟩⟩

end

/-- More clients behind the iterator and later stamps. -/
theorem Flushed.grow
    {owners : List (Option CodeUnits)} {stamp later : CodeUnits → Nat}
    (flushed : Flushed process owners stamp number position)
    (above : stamp ≤ later) (more : List (Option CodeUnits)) :
    Flushed process (owners ++ more) later number position := by
  rcases flushed with ⟨numbered, inside, stamped⟩
  refine ⟨numbered, ?_, ?_⟩
  · rw [List.length_append]
    exact Nat.le_add_right_of_le inside
  · intro id member
    rw [List.take_append_of_le_length inside] at member
    exact (stamped id member).trans (above id)

/-- The page goes on without dropping a client. -/
theorem Sound.turn
    (sound : Sound mls format process) (served : Served Keypair)
    (owned : Owned served.1)
    (grown : ∃ more, served.1.owners = process.page.owners ++ more)
    (stamped : ∃ stamp, Stamped mls format (process.turn served) stamp) :
    Sound mls format (process.turn served) where
  owned := owned
  grown := by
    change (process.pages ++ [served.1]).Pairwise _
    rw [List.pairwise_append]
    refine ⟨sound.grown, List.pairwise_singleton _ _, ?_⟩
    intro earlier member later last
    rw [List.mem_singleton.mp last]
    rcases List.mem_append.mp member with before | present
    · rcases (List.pairwise_append.mp sound.grown).2.2 earlier before
          process.page (List.mem_singleton_self _) with ⟨first, between⟩
      rcases grown with ⟨second, behind⟩
      refine ⟨first ++ second, ?_⟩
      rw [behind, between, List.append_assoc]
    · rw [List.mem_singleton.mp present]
      exact grown
  called := by
    intro number
    rw [now_turn]
    exact Nat.le_succ_of_le (sound.called number)
  sent := sound.sent
  stamped := stamped

/-- A step outside `snapshot`. -/
theorem Sound.moves
    (sound : Sound mls format process)
    (moves : Moves mls process.page served.1)
    (plain : snapshots served.2 = []) :
    Sound mls format (process.turn served) := by
  rcases sound.stamped with ⟨stamp, stamped⟩
  apply sound.turn served moves.owned moves.grown
  refine ⟨_, stamped.turn served moves.stored ?_ ?_⟩
  · intro number position pending
    rcases moves.grown with ⟨more, grown⟩
    rw [moves.flushes] at pending
    rw [grown]
    exact
      (stamped.flushes number position pending).grow
        (stamped.le_restamp served.1) more
  · intro value member
    rw [plain] at member
    cases member

/-- The iterator has saved the client at its position. -/
theorem Flushed.advance
    {page : Page Keypair}
    (flushed : Flushed process page.owners stamp number position)
    {handle : Nat} {slot : Slot Keypair}
    (found : page.clients.entries[position]? = some (handle, slot))
    (saved : ∀ id, slot.owner = some id → process.called number ≤ stamp id) :
    Flushed process page.owners stamp number (position + 1) := by
  rcases flushed with ⟨numbered, -, stamped⟩
  have owner : page.owners[position]? = some slot.owner := by
    rw [Page.owners, List.getElem?_map, found, Option.map_some]
  refine ⟨numbered, (List.getElem?_eq_some_iff.mp owner).1, ?_⟩
  intro id member
  rw [List.take_add_one, owner] at member
  rcases List.mem_append.mp member with before | last
  · exact stamped id before
  · exact saved id (List.mem_singleton.mp last).symm

/-- The iterator of one `snapshot` is moved. -/
theorem Stamped.setFlush
    (stamped : Stamped mls format process stamp)
    {target : Page Keypair} (clients : target.clients = process.page.clients)
    (flushes : target.flushes = process.page.flushes) {number : Nat}
    {position : Option Nat}
    (moved :
      ∀ reached, position = some reached →
        Flushed process target.owners
          (restamp mls target (process.now + 1) stamp) number reached)
    (other reached : Nat)
    (pending :
      (target.setFlush number position).flushes other = some reached) :
    Flushed process (target.setFlush number position).owners
      (restamp mls (target.setFlush number position) (process.now + 1)
        stamp) other reached := by
  change Function.update target.flushes number position other = _ at pending
  change
    Flushed process target.owners
      (restamp mls target (process.now + 1) stamp) other reached
  rw [Function.update_apply] at pending
  split at pending
  · next same =>
    rw [same]
    exact moved reached pending
  · rw [flushes] at pending
    have kept :=
      (stamped.flushes other reached pending).grow
        (stamped.le_restamp target) []
    rw [List.append_nil] at kept
    rw [Page.owners, clients]
    exact kept

/-- The iterator is at the end: every client has been saved. -/
theorem Stamped.le_of_ended
    (stamped : Stamped mls format process stamp)
    (flushed : Flushed process process.page.owners stamp number position)
    (ended : process.page.clients.entries[position]? = none)
    (past : process.called number ≤ process.now) (id : CodeUnits) :
    process.called number ≤
      restamp mls process.page (process.now + 1) stamp id := by
  cases holds : process.page.holder id with
  | none =>
      rw [restamp_of_reflects (reflects_of_holder_none holds)]
      exact Nat.le_succ_of_le past
  | some client =>
      have beyond : process.page.owners.length ≤ position := by
        rw [Page.owners, List.length_map]
        exact List.getElem?_eq_none_iff.mp ended
      have opened : some id ∈ process.page.owners := by
        by_contra closed
        rw [← holder_eq_none_iff, holds] at closed
        cases closed
      rw [← List.take_of_length_le beyond] at opened
      exact (flushed.2.2 id opened).trans (stamped.le_restamp _ id)

section

variable (sound : Sound mls format process)
include sound

/-- A part of `snapshot`. -/
theorem Sound.advance
    (flushed :
      ∀ stamp, Stamped mls format process stamp →
        Flushed process process.page.owners stamp number position)
    {order : List (Bytes × Bytes)}
    (advanced :
      process.page.advance mls format number position order = some served) :
    Sound mls format (process.turn served) := by
  rcases sound.stamped with ⟨stamp, stamped⟩
  have begun := flushed stamp stamped
  have unchanged :
      ∃ more, process.page.owners = process.page.owners ++ more :=
    ⟨[], (List.append_nil _).symm⟩
  have dropped :=
    @Stamped.setFlush _ _ _ _ mls format process stamp stamped process.page
      rfl rfl number none (fun _ absent => nomatch absent)
  rcases advance_cases advanced with
    ⟨handle, slot, target, found, succeeded, rfl⟩ | ⟨page, plain⟩ |
      ⟨ended, text, written, rfl⟩
  · rcases sound.owned.moves_save (List.mem_of_getElem? found) succeeded with
      ⟨moves, clients, state⟩
    have owners : target.owners = process.page.owners :=
      congrArg (fun table => table.entries.map fun entry => entry.2.owner)
        clients
    have kept :
        Flushed process target.owners
          (restamp mls target (process.now + 1) stamp) number position := by
      have grown := begun.grow (stamped.le_restamp target) []
      rw [List.append_nil, ← owners] at grown
      exact grown
    have entry : target.clients.entries[position]? = some (handle, slot) := by
      rw [clients]
      exact found
    have moved := kept.advance entry (by
      intro id owner
      rw [restamp_of_reflects (state id owner)]
      exact Nat.le_succ_of_le (sound.called number))
    apply sound.turn _ (moves.owned.setFlush _ _) moves.grown
    refine ⟨_, stamped.turn _ moves.stored ?_ ?_⟩
    · apply stamped.setFlush clients moves.flushes
      rintro reached same
      cases same
      exact moved
    · intro value member
      cases member
  · rcases served with ⟨reached, posts⟩
    cases page
    apply sound.turn _ (sound.owned.setFlush _ _) unchanged
    refine ⟨_, stamped.turn _ (fun _ => Or.inl rfl) dropped ?_⟩
    intro value member
    rw [plain] at member
    cases member
  · apply sound.turn _ (sound.owned.setFlush _ _) unchanged
    refine ⟨_, stamped.turn _ (fun _ => Or.inl rfl) dropped ?_⟩
    intro value member
    rw [List.mem_singleton.mp member]
    refine ⟨begun.1, ?_⟩
    intro id
    refine ⟨stamped.le_of_ended begun ended (sound.called number) id, ?_⟩
    rw [entryOf_snapshot written sound.owned.unstored]
    exact stamped.state_turn (fun _ => Or.inl rfl) id

/-- Texts that stay on their way, or are dropped. -/
theorem Sound.carry
    {posts : List Post} {saves : List Nat}
    {queue written : List (Nat × CodeUnits)}
    (texts : (written ++ queue ++ snapshots posts).Sublist process.texts) :
    Sound mls format { process with posts, saves, queue, written } where
  owned := sound.owned
  grown := sound.grown
  called := sound.called
  sent := sound.sent
  stamped := by
    rcases sound.stamped with ⟨stamp, stamped⟩
    exact
      ⟨stamp, stamped.state, stamped.latest, stamped.flushes,
        stamped.texts.sublist texts⟩

theorem Sound.handleMessage
    {post : Post} {rest : List Post} (posts : process.posts = post :: rest) :
    Sound mls format
      ({ process with posts := rest }.handleMessage post) := by
  have fewer : (snapshots rest).Sublist (snapshots process.posts) := by
    rw [posts]
    exact (List.sublist_cons_self post rest).filterMap _
  have dropped :
      (process.written ++ process.queue ++ snapshots rest).Sublist
        process.texts :=
    List.Sublist.append_left fewer _
  unfold Process.handleMessage
  split
  · split
    · next text answer =>
      have first :
          snapshots process.posts = (post.1, text) :: snapshots rest := by
        rw [posts]
        exact List.filterMap_cons_some (by rw [answer])
      apply sound.carry
      rw [Process.texts, first, ← List.append_assoc, List.append_assoc]
      exact List.Sublist.refl _
    · exact sound.carry dropped
  · exact sound.carry dropped

theorem Sound.setItem
    {value : Nat × CodeUnits}
    {rest : List (Nat × CodeUnits)} (queue : process.queue = value :: rest) :
    Sound mls format
      { process with
        queue := rest
        written := process.written ++ [value] } := by
  apply sound.carry
  rw [Process.texts, queue, List.append_assoc process.written]
  exact List.Sublist.refl _

/-- A new request, with the moment of the call if it is a `save`. -/
theorem Sound.send
    {request : Request Operation}
    (ordinary : request ≠ .openClient prototypeName) (saves : List Nat)
    {called : Nat → Nat}
    (older :
      ∀ number, number < process.nextId →
        called number = process.called number)
    (past : ∀ number, called number ≤ process.now) :
    Sound mls format { process.send request with saves, called } where
  owned := sound.owned
  grown := sound.grown
  called := past
  sent := by
    intro sent member
    rcases List.mem_append.mp member with old | new
    · exact
        ⟨Nat.lt_succ_of_lt (sound.sent sent old).1, (sound.sent sent old).2⟩
    · rw [List.mem_singleton.mp new]
      exact ⟨Nat.lt_succ_self _, ordinary⟩
  stamped := by
    rcases sound.stamped with ⟨stamp, stamped⟩
    refine ⟨stamp, stamped.state, stamped.latest, ?_, ?_⟩
    · intro number position pending
      rcases stamped.flushes number position pending with
        ⟨numbered, inside, states⟩
      refine ⟨Nat.lt_succ_of_lt numbered, inside, ?_⟩
      intro id member
      change called number ≤ _
      rw [older number numbered]
      exact states id member
    · apply stamped.texts.mono
      rintro shown value ⟨numbered, states⟩
      refine ⟨Nat.lt_succ_of_lt numbered, ?_⟩
      intro id
      change called value.1 ≤ _ ∧ _
      rw [older value.1 numbered]
      exact states id

theorem Sound.save :
    Sound mls format process.save := by
  have ordinary :
      (Request.snapshot : Request Operation) ≠ .openClient prototypeName :=
    nofun
  apply sound.send ordinary (process.saves ++ [process.nextId])
  · intro number older
    exact Function.update_of_ne (Nat.ne_of_lt older) _ _
  · intro number
    rw [Function.update_apply]
    split
    · exact le_rfl
    · exact sound.called number

/-- The oldest request is no longer on the wire. -/
theorem Sound.unwire
    {wire : List (Nat × Request Operation)}
    (fewer : wire.Sublist process.wire) :
    Sound mls format { process with wire } where
  owned := sound.owned
  grown := sound.grown
  called := sound.called
  sent := fun sent member => sound.sent sent (fewer.subset member)
  stamped := by
    rcases sound.stamped with ⟨stamp, stamped⟩
    exact
      ⟨stamp, stamped.state, stamped.latest, stamped.flushes, stamped.texts⟩

theorem Sound.arrive
    {number : Nat} {seed : Seed}
    {order : List (Bytes × Bytes)} {request : Request Operation}
    {rest : List (Nat × Request Operation)}
    (wire : process.wire = (number, request) :: rest)
    (single : ∀ id, request = .openClient id → id ∉ process.page.ids)
    (received :
      process.page.receive mls format number seed order request =
        some served) :
    Sound mls format ({ process with wire := rest }.turn served) := by
  have fewer : rest.Sublist process.wire := by
    rw [wire]
    exact List.sublist_cons_self _ _
  have first : (number, request) ∈ process.wire := by
    rw [wire]
    exact List.mem_cons_self
  rcases sound.sent _ first with ⟨numbered, ordinary⟩
  by_cases plain : request = .snapshot
  · subst plain
    apply (sound.unwire fewer).advance _ received
    intro stamp stamped
    refine ⟨numbered, Nat.zero_le _, ?_⟩
    intro id member
    cases member
  · have careful :
        ∀ id, request = .openClient id →
          id ∉ process.page.ids ∧ id ≠ prototypeName := by
      rintro id rfl
      refine ⟨single id rfl, ?_⟩
      rintro rfl
      exact ordinary rfl
    rcases sound.owned.moves_receive plain careful received with
      ⟨moves, silent⟩
    exact (sound.unwire fewer).moves moves silent

theorem Sound.step
    {event : Event Operation Seed}
    (single : SingleHandles process event) (ordinary : Ordinary event)
    {target : Process Keypair Operation}
    (taken : (machine mls format).step process event = some target) :
    Sound mls format target := by
  cases event with
  | request request =>
      simp only [machine] at taken
      split at taken
      · cases taken
        exact sound.send ordinary process.saves (fun _ _ => rfl) sound.called
      · cases taken
  | save =>
      cases taken
      exact sound.save
  | arrive seed order =>
      simp only [machine] at taken
      split at taken
      · cases taken
      · next number request rest wire =>
        rcases Option.map_eq_some_iff.mp taken with ⟨served, received, rfl⟩
        apply sound.arrive wire _ received
        rintro id rfl
        apply single number id
        rw [wire, List.head?_cons]
  | resumeOpen position seed order =>
      rcases Option.map_eq_some_iff.mp taken with ⟨served, resumed, rfl⟩
      exact
        sound.moves (sound.owned.moves_resumeOpen resumed)
          (snapshots_resumeOpen resumed)
  | resumeSnapshot number order =>
      rcases Option.map_eq_some_iff.mp taken with ⟨served, resumed, rfl⟩
      rw [Page.resumeSnapshot] at resumed
      split at resumed
      · cases resumed
      · next position pending =>
        apply sound.advance _ resumed
        intro stamp stamped
        exact stamped.flushes number position pending
  | deliver =>
      simp only [machine] at taken
      split at taken
      · cases taken
      · next post rest posts =>
        cases taken
        exact sound.handleMessage posts
  | setItem =>
      simp only [machine] at taken
      split at taken
      · cases taken
      · next value rest queue =>
        cases taken
        exact sound.setItem queue

end

theorem sound_start
    {store : Store} (ordinary : store.get prototypeName = none)
    (nextId : Nat) :
    Sound mls format
      (Process.start store nextId : Process Keypair Operation) where
  owned := by
    constructor
    case single => exact List.nodup_nil
    case distinct => exact List.nodup_nil
    case numbered => exact fun handle member => nomatch member
    case ordinary => exact List.not_mem_nil
    case unstored => exact ordinary
  grown := List.pairwise_singleton _ _
  called := fun _ => le_rfl
  sent := fun sent member => nomatch member
  stamped := by
    refine ⟨fun _ => 0, ?_, fun _ _ => rfl, nofun, .nil le_rfl⟩
    intro id
    exact ⟨_, rfl, reflects_of_holder_none rfl⟩

/-! ## Texts in order -/

/-- A client that was open stays open. -/
theorem Sound.holder_later
    (sound : Sound mls format process) {first second : Nat}
    (ordered : first ≤ second) {earlier later : Page Keypair}
    (before : process.pages[first]? = some earlier)
    (after : process.pages[second]? = some later) {id : CodeUnits}
    (opened : earlier.holder id ≠ none) : later.holder id ≠ none := by
  rw [Ne, holder_eq_none_iff, not_not] at opened ⊢
  rcases Nat.eq_or_lt_of_le ordered with same | less
  · rw [same, after] at before
    cases before
    exact opened
  · rcases List.getElem?_eq_some_iff.mp before with ⟨firstInside, rfl⟩
    rcases List.getElem?_eq_some_iff.mp after with ⟨secondInside, rfl⟩
    rcases List.pairwise_iff_getElem.mp sound.grown first second firstInside
        secondInside less with ⟨more, grown⟩
    rw [grown]
    exact List.mem_append_left _ opened

theorem Sound.inOrder (sound : Sound mls format process) :
    InOrder mls format process := by
  rcases sound.stamped with ⟨stamp, stamped⟩
  have written :
      Ascending (Shows mls format process) (fun _ => 0) process.written
        stamp := by
    apply stamped.texts.sublist
    rw [Process.texts, List.append_assoc]
    exact List.sublist_append_left _ _
  constructor
  case forward =>
    intro first second earlier later ordered before after id
    rcases written.pair ordered before after with
      ⟨lower, upper, bounded, earlierShown, laterShown⟩
    exact
      ⟨lower id, upper id, bounded id, (earlierShown.2 id).2,
        (laterShown.2 id).2⟩
  case kept =>
    intro number text stored member last id page called opened
    rcases List.mem_iff_getElem?.mp member with ⟨first, before⟩
    rcases Option.map_eq_some_iff.mp last with ⟨value, final, rfl⟩
    rw [List.getLast?_eq_getElem?] at final
    have ordered : first ≤ process.written.length - 1 :=
      Nat.le_sub_one_of_lt (List.getElem?_eq_some_iff.mp before).1
    rcases written.pair ordered before final with
      ⟨lower, upper, bounded, earlierShown, laterShown⟩
    have behind : process.called number ≤ upper id :=
      (earlierShown.2 id).1.trans (bounded id)
    rcases (laterShown.2 id).2 with ⟨later, found, state⟩
    have still := sound.holder_later behind called found opened
    rw [Reflects] at state
    split at state
    · next client holds =>
      rcases state with ⟨order, blob, snapshot, content⟩
      exact
        ⟨upper id, later, client, order, blob, behind, found, holds,
          snapshot, content⟩
    · next closed => exact absurd closed still

end Steps

/--
With at most one open handle for every client id, and no client under
`__proto__`, overlapping saves never write backwards, and a `save` that has
ended has stored every client as it was at the call or later.
-/
theorem ordinary_saves_are_in_order
    {Keypair Operation Seed Number : Type}
    (mls : StoredMls Keypair Operation Seed) (format : NumberFormat Number)
    (store : Store) (unstored : store.get prototypeName = none)
    (nextId : Nat) (process : Process Keypair Operation)
    (reached :
      Reaches (machine mls format)
        (fun process event => SingleHandles process event ∧ Ordinary event)
        (Process.start store nextId) process) :
    InOrder mls format process := by
  have sound : Sound mls format process := by
    apply Reaches.invariant (sound_start unstored nextId) _ reached
    intro source event target before allowed taken
    exact before.step allowed.1 allowed.2 taken
  exact sound.inOrder

/-! ## Two overlapping saves, and a lost client -/

/-- `SingleHandles`, computed. -/
def hasSingleHandles (process : Process UInt8 Unit) :
    Event Unit UInt8 → Bool
  | .arrive _ _ =>
      match process.wire.head? with
      | some (_, .openClient id) => decide (id ∉ process.page.ids)
      | _ => true
  | _ => true

/-- `Ordinary`, computed. -/
def isOrdinary : Event Unit UInt8 → Bool
  | .request request => decide (request ≠ .openClient prototypeName)
  | _ => true

theorem singleHandles_of_hasSingleHandles
    (process : Process UInt8 Unit) (event : Event Unit UInt8)
    (passed : hasSingleHandles process event = true) :
    SingleHandles process event := by
  cases event with
  | arrive seed order =>
      intro number id first
      simp only [hasSingleHandles, first, decide_eq_true_eq] at passed
      exact passed
  | request | save | resumeOpen | resumeSnapshot | deliver | setItem =>
      trivial

theorem ordinary_of_isOrdinary
    (event : Event Unit UInt8) (passed : isOrdinary event = true) :
    Ordinary event := by
  cases event with
  | request request =>
      simp only [isOrdinary, decide_eq_true_eq] at passed
      exact passed
  | save | arrive | resumeOpen | resumeSnapshot | deliver | setItem =>
      trivial

/-- The storage of a client without groups. -/
def keyOnly : List (Bytes × Bytes) :=
  [([0, 7], [7])]

/-- The storage of the client `ann` with the group `room`. -/
def keyAndRoom : List (Bytes × Bytes) :=
  [([0, 7], [7]),
    (1 :: Utf8.encode (literal "room"), Utf8.encode (literal "ann"))]

/--
A group is created between two calls of `save`, and the snapshot of the second
one begins while the first one waits.
-/
def overlapping : List (Event Unit UInt8) :=
  [.request (.openClient (literal "ann")), .arrive 0 [],
    .resumeOpen 0 7 keyOnly, .resumeOpen 0 0 [],
    .request (.newClient (literal "ann")), .arrive 9 [], .save,
    .arrive 0 keyOnly, .request (.createGroup 1 (literal "room")), .save,
    .arrive 8 [], .arrive 0 keyAndRoom, .resumeSnapshot 3 [],
    .resumeSnapshot 5 [], .resumeSnapshot 5 [], .resumeSnapshot 3 [],
    .deliver, .deliver, .deliver, .deliver, .deliver, .setItem, .setItem]

/-- The second call writes first, and the texts are in order. -/
theorem ordinary_saves_are_in_order_overlapping :
    ∃ process : Process UInt8 Unit,
      Reaches (machine recordMls decimalFormat)
          (fun process event =>
            SingleHandles process event ∧ Ordinary event)
          (Process.start InsertionMap.empty 1) process ∧
        process.written.map Prod.fst = [5, 3] ∧
          InOrder recordMls decimalFormat process := by
  have numbers :
      (((machine recordMls decimalFormat).restrict fun process event =>
            hasSingleHandles process event && isOrdinary event).run
          (Process.start InsertionMap.empty 1) overlapping).map
          (fun process => process.written.map Prod.fst) =
        some [5, 3] := by
    decide +kernel
  rcases Option.map_eq_some_iff.mp numbers with ⟨process, ran, written⟩
  have reached :
      Reaches (machine recordMls decimalFormat)
        (fun process event => SingleHandles process event ∧ Ordinary event)
        (Process.start InsertionMap.empty 1) process := by
    apply reaches_of_run _ ran
    intro source event passed
    rw [Bool.and_eq_true] at passed
    exact
      ⟨singleHandles_of_hasSingleHandles source event passed.1,
        ordinary_of_isOrdinary event passed.2⟩
  exact
    ⟨process, reached, written,
      ordinary_saves_are_in_order recordMls decimalFormat
        InsertionMap.empty rfl 1 process reached⟩

/-- A client is opened under `__proto__` and saved. -/
def accessorSaved : List (Event Unit UInt8) :=
  [.request (.openClient prototypeName), .arrive 0 [],
    .resumeOpen 0 7 keyOnly, .resumeOpen 0 0 [], .deliver, .save,
    .arrive 0 keyOnly, .resumeSnapshot 2 [], .deliver, .setItem]

/-- The `save` has ended, and the stored value does not have the client. -/
theorem save_loses_accessor_client :
    ∃ process : Process UInt8 Unit,
      Reaches (machine recordMls decimalFormat) SingleHandles
          (Process.start InsertionMap.empty 1) process ∧
        ¬ InOrder recordMls decimalFormat process := by
  have observed :
      (((machine recordMls decimalFormat).restrict hasSingleHandles).run
          (Process.start InsertionMap.empty 1) accessorSaved).map
          (fun process =>
            (process.written, process.pages[process.called 2]?.map
              fun page => (page.holder prototypeName).isSome)) =
        some ([(2, literal "e30=")], some true) := by
    decide +kernel
  rcases Option.map_eq_some_iff.mp observed with ⟨process, ran, found⟩
  rw [Prod.mk.injEq] at found
  rcases found with ⟨written, opened⟩
  rcases Option.map_eq_some_iff.mp opened with ⟨page, called, holds⟩
  refine ⟨process, reaches_of_run singleHandles_of_hasSingleHandles ran, ?_⟩
  intro ordered
  have stored : process.stored = some (literal "e30=") := by
    rw [Process.stored, written]
    rfl
  have member : (2, literal "e30=") ∈ process.written := by
    rw [written]
    exact List.mem_singleton_self _
  rcases ordered.kept 2 _ _ member stored prototypeName page called
      (Option.isSome_iff_ne_none.mp holds) with
    ⟨moment, later, client, order, blob, -, -, -, -, content⟩
  have missing :
      entryOf decimalFormat (literal "e30=") prototypeName = none := by
    decide +kernel
  rw [missing] at content
  cases content

end Mls4rn.ReactNative.OverlappingSaves
