import Mls4rn.Lib.Execution
import Mls4rn.ReactNative.HostDispatch

/-!
# What a handle denotes across page loads

The objects `MlsClient` and `Group` of React Native hold a handle, and the
page finds its own client or group by that text.  The WebView may load the
page again at any time: `clients`, `groups` and `seq` of `host.ts` start
anew, while the objects, the numbers of the bridge and the messages under
way live on.

A `Ticket` is a handle with its history: the object of the core for which it
was given out, and the page load that gave it out.  The code has only the
text.  The history is what the results compare the code with, and no step
reads it.
-/

namespace Mls4rn.ReactNative.HandleIdentity

open Mls4rn.Lib
open Mls4rn.Lib.Execution
open Mls4rn.Lib.NumberText
open Mls4rn.Lib.Utf16
open Mls4rn.ReactNative.HostDispatch

/-! ## Handles and requests -/

/-- The two tables of the page. -/
inductive Kind where
  | client
  | group
deriving DecidableEq, Repr

/-- A handle, the object it was given out for, and the page load. -/
structure Ticket (Object : Type) where
  kind : Kind
  handle : CodeUnits
  target : Object
  load : Nat
deriving DecidableEq, Repr

/--
The methods that take a handle: those that return no other handle,
`createGroup` and `joinGroup`, and `group`.
-/
inductive Call where
  | plain
  | enter
  | find
deriving DecidableEq, Repr

/-- The requests of the facade. -/
inductive Request (Object : Type) where
  | newClient
  | openClient
  | through (ticket : Ticket Object) (call : Call)

/-- How the core answers a plain operation, a constructor, or a search. -/
structure CoreReply (Object : Type) where
  act : Except CodeUnits Unit
  make : Except CodeUnits Object
  search : Except CodeUnits (Option Object)

/-- What the page posts. -/
inductive Answer (Object : Type) where
  | handle (ticket : Ticket Object)
  | done
  | failed (message : CodeUnits)

/-- What became of a request that was made through an object. -/
inductive Outcome (Object : Type) where
  | acted (ticket : Ticket Object) (object : Object)
  | rejected (ticket : Ticket Object) (message : CodeUnits)
deriving DecidableEq, Repr

variable {Object : Type}

/-! ## The page -/

/-- The module state of the page; the core stands behind `CoreReply`. -/
abbrev Page (Object : Type) : Type :=
  Host Unit Object Object

/-- A method of the page, or a part of one. -/
abbrev PageAction (Object Value : Type) : Type :=
  HostAction Unit Object Object Value

/-- `client` or `group`. -/
def lookUp (kind : Kind) (handle : CodeUnits) : PageAction Object Object :=
  match kind with
  | .client => clientNamed handle
  | .group => groupNamed handle

/-- A handle that is returned, with the object behind it. -/
abbrev Filed (Object : Type) : Type :=
  Kind × CodeUnits × Object

/-- `clients.set` behind the core, with the handle that was taken before. -/
def fileClient (handle : CodeUnits) (made : Except CodeUnits Object) :
    PageAction Object (Option (Filed Object)) := do
  let object ← Throwing.ofExcept made
  setClient handle object
  return some (.client, handle, object)

/-- `methods.newClient`. -/
def newClient (made : Except CodeUnits Object) :
    PageAction Object (Option (Filed Object)) := do
  let handle ← nextHandle clientLetter
  fileClient handle made

/-- `groups.set` with a new handle. -/
def fileGroup (object : Object) :
    PageAction Object (Option (Filed Object)) := do
  let handle ← nextHandle groupLetter
  setGroup handle object
  return some (.group, handle, object)

/-- The methods, behind the lookup of their handle. -/
def Call.perform (reply : CoreReply Object) :
    Call → PageAction Object (Option (Filed Object))
  | .plain => do
      Throwing.ofExcept reply.act
      return none
  | .enter => do fileGroup (← Throwing.ofExcept reply.make)
  | .find => do
      match ← Throwing.ofExcept reply.search with
      | none => return none
      | some object => fileGroup object

/-! ## The process -/

/--
A React Native process and its page: the opens behind their `await`, the
number of the page load, every handle given out so far, the messages in both
directions, the objects of React Native and what became of their requests.
-/
structure Process (Object : Type) where
  page : Page Object
  opening : List (Nat × CodeUnits)
  load : Nat
  issued : List (Ticket Object)
  nextId : Nat
  pending : List Nat
  wire : List (Nat × Request Object)
  posts : List (Nat × Answer Object)
  objects : List (Ticket Object)
  outcomes : List (Outcome Object)

/-- The process in front of its first request. -/
def Process.start : Process Object where
  page := Host.new ()
  opening := []
  load := 0
  issued := []
  nextId := 1
  pending := []
  wire := []
  posts := []
  objects := []
  outcomes := []

/-- `post`. -/
def Process.post
    (process : Process Object) (number : Nat) (answer : Answer Object) :
    Process Object :=
  { process with posts := process.posts ++ [(number, answer)] }

/-- Record what became of a request. -/
def Process.observe
    (process : Process Object) (outcome : Outcome Object) : Process Object :=
  { process with outcomes := process.outcomes ++ [outcome] }

/-- Answer with a handle. -/
def Process.issue
    (process : Process Object) (number : Nat) (ticket : Ticket Object) :
    Process Object :=
  { process with issued := process.issued ++ [ticket] }.post number
    (.handle ticket)

/-- The end of `dispatch`. -/
def Process.finish (process : Process Object) (number : Nat) :
    Except CodeUnits (Option (Filed Object)) × Page Object → Process Object
  | (.error message, page) =>
      { process with page }.post number (.failed message)
  | (.ok none, page) => { process with page }.post number .done
  | (.ok (some (kind, handle, object)), page) =>
      { process with page }.issue number ⟨kind, handle, object, process.load⟩

/-- `dispatch` of one request. -/
def Process.serve
    (process : Process Object) (number : Nat) (reply : CoreReply Object) :
    Request Object → Process Object
  | .newClient =>
      process.finish number (newClient reply.make process.page)
  | .openClient =>
      match nextHandle clientLetter process.page with
      | (.error message, page) =>
          { process with page }.post number (.failed message)
      | (.ok handle, page) =>
          { process with
            page
            opening := process.opening ++ [(number, handle)] }
  | .through ticket call =>
      match lookUp ticket.kind ticket.handle process.page with
      | (.error message, page) =>
          ({ process with page }.observe
            (.rejected ticket message)).post number (.failed message)
      | (.ok object, page) =>
          ({ process with page }.observe
            (.acted ticket object)).finish number (call.perform reply page)

/-- `Bridge.request`. -/
def Process.request (process : Process Object) (request : Request Object) :
    Process Object :=
  { process with
    nextId := process.nextId + 1
    pending := process.pending ++ [process.nextId]
    wire := process.wire ++ [(process.nextId, request)] }

/-- `Bridge.handleMessage`; a new handle becomes an object. -/
def Process.handleMessage
    (process : Process Object) (number : Nat) (answer : Answer Object) :
    Process Object :=
  if number ∈ process.pending then
    match answer with
    | .handle ticket =>
        { process with
          pending := process.pending.erase number
          objects := process.objects ++ [ticket] }
    | _ => { process with pending := process.pending.erase number }
  else
    process

/-- The page is loaded again. -/
def Process.reload (process : Process Object) : Process Object :=
  { process with
    page := Host.new ()
    opening := []
    load := process.load + 1 }

/--
What happens in the process.  Requests and posts overtake one another, and
positions say which one it is.
-/
inductive Event (Object : Type) where
  | newClient
  | openClient
  | through (position : Nat) (call : Call)
  | arrive (position : Nat) (reply : CoreReply Object)
  | resumeOpen (position : Nat) (made : Except CodeUnits Object)
  | deliver (position : Nat)
  | reload

/-- The classes of the facade: a `Group` has no method that finds groups. -/
def Call.fits : Call → Kind → Bool
  | .plain, _ => true
  | _, kind => kind == .client

/-- The process. -/
def machine : Machine (Process Object) (Event Object) where
  step process
    | .newClient => some (process.request .newClient)
    | .openClient => some (process.request .openClient)
    | .through position call =>
        match process.objects[position]? with
        | none => none
        | some ticket =>
            if call.fits ticket.kind then
              some (process.request (.through ticket call))
            else none
    | .arrive position reply =>
        match process.wire[position]? with
        | none => none
        | some (number, request) =>
            some
              ({ process with wire := process.wire.eraseIdx position }.serve
                number reply request)
    | .resumeOpen position made =>
        match process.opening[position]? with
        | none => none
        | some (number, handle) =>
            some
              ({ process with
                opening := process.opening.eraseIdx position }.finish number
                (fileClient handle made process.page))
    | .deliver position =>
        match process.posts[position]? with
        | none => none
        | some (number, answer) =>
            some
              ({ process with posts := process.posts.eraseIdx position
                }.handleMessage number answer)
    | .reload => some process.reload

/-! ## The tables of the page -/

/-- What the page has under a handle. -/
def entry (page : Page Object) : Kind → CodeUnits → Option Object
  | .client, handle => page.clients.get handle
  | .group, handle => page.groups.get handle

/-- The page with one more object. -/
def put (page : Page Object) (kind : Kind) (handle : CodeUnits)
    (object : Object) : Page Object :=
  match kind with
  | .client => { page with clients := page.clients.set handle object }
  | .group => { page with groups := page.groups.set handle object }

/-- The page behind `nextHandle`. -/
def counted (page : Page Object) : Page Object :=
  { page with seq := page.seq + 1 }

/-- The letter in front of the handles of a table. -/
def Kind.letter : Kind → UInt16
  | .client => clientLetter
  | .group => groupLetter

/-- The message for a handle that the page does not know. -/
def unknownHandle : Kind → CodeUnits → CodeUnits
  | .client, handle => literal "unknown client handle: " ++ handle
  | .group, handle => literal "unknown group handle: " ++ handle

theorem entry_put
    (page : Page Object) (kind other : Kind) (handle text : CodeUnits)
    (object : Object) :
    entry (put page kind handle object) other text =
      if other = kind ∧ text = handle then some object
      else entry page other text := by
  cases kind with
  | client =>
      cases other with
      | client => simp [entry, put, InsertionMap.get_set]
      | group => simp [entry, put]
  | group =>
      cases other with
      | client => simp [entry, put]
      | group => simp [entry, put, InsertionMap.get_set]

@[simp]
theorem seq_put
    (page : Page Object) (kind : Kind) (handle : CodeUnits)
    (object : Object) :
    (put page kind handle object).seq = page.seq := by
  cases kind with
  | client => rfl
  | group => rfl

@[simp]
theorem entry_counted
    (page : Page Object) (kind : Kind) (handle : CodeUnits) :
    entry (counted page) kind handle = entry page kind handle := by
  cases kind with
  | client => rfl
  | group => rfl

/-- A lookup finds the entry, or names the handle. -/
theorem lookUp_eq (kind : Kind) (handle : CodeUnits) (page : Page Object) :
    lookUp kind handle page =
      match entry page kind handle with
      | some object => (.ok object, page)
      | none => (.error (unknownHandle kind handle), page) := by
  cases kind with
  | client => rfl
  | group => rfl

/-- The handle that `nextHandle` gives out. -/
def upcoming (page : Page Object) (kind : Kind) : CodeUnits :=
  kind.letter :: natText (page.seq + 1)

/-- A handle that `nextHandle` has given out. -/
def Taken (page : Page Object) (kind : Kind) (handle : CodeUnits) : Prop :=
  ∃ number ≤ page.seq, handle = kind.letter :: natText number

theorem Taken.counted
    {page : Page Object} {kind : Kind} {handle : CodeUnits}
    (taken : Taken page kind handle) :
    Taken (counted page) kind handle := by
  rcases taken with ⟨number, small, rfl⟩
  exact ⟨number, Nat.le_succ_of_le small, rfl⟩

theorem taken_upcoming (page : Page Object) (kind : Kind) :
    Taken (counted page) kind (upcoming page kind) :=
  ⟨page.seq + 1, Nat.le_refl _, rfl⟩

/-- The counter never repeats a handle. -/
theorem not_taken_upcoming (page : Page Object) (kind : Kind) :
    ¬ Taken page kind (upcoming page kind) := by
  rintro ⟨number, small, same⟩
  have equal : page.seq + 1 = number :=
    natText_injective (List.cons.inj same).2
  omega

/--
The tables hold exactly the handles that this page load has given out, and
an open that is under way has a handle of its own.
-/
structure Table
    (page : Page Object) (reserved : List CodeUnits)
    (issued : List (Ticket Object)) (load : Nat) : Prop where
  filed :
    ∀ kind handle object,
      entry page kind handle = some object ↔
        ⟨kind, handle, object, load⟩ ∈ issued
  past : ∀ ticket ∈ issued, ticket.load ≤ load
  taken :
    ∀ kind handle object,
      entry page kind handle = some object → Taken page kind handle
  waiting :
    ∀ handle ∈ reserved,
      entry page .client handle = none ∧ Taken page .client handle
  apart : reserved.Nodup

namespace Table

variable
    {page : Page Object} {reserved : List CodeUnits}
    {issued : List (Ticket Object)} {load : Nat}

section

variable (table : Table page reserved issued load)
include table

theorem counted :
    Table (counted page) reserved issued load := by
  constructor
  case filed =>
    intro kind handle object
    rw [entry_counted]
    exact table.filed kind handle object
  case past => exact table.past
  case taken =>
    intro kind handle object found
    rw [entry_counted] at found
    exact (table.taken kind handle object found).counted
  case waiting =>
    intro handle member
    rw [entry_counted]
    exact
      ⟨(table.waiting handle member).1,
        (table.waiting handle member).2.counted⟩
  case apart => exact table.apart

theorem entry_upcoming
    (kind : Kind) : entry page kind (upcoming page kind) = none := by
  rw [Option.eq_none_iff_forall_ne_some]
  intro object found
  exact not_taken_upcoming page kind (table.taken kind _ object found)

theorem upcoming_not_reserved :
    upcoming page .client ∉ reserved := by
  intro member
  exact not_taken_upcoming page .client (table.waiting _ member).2

/-- An object under a handle that was taken for it. -/
theorem file
    {kind : Kind}
    {handle : CodeUnits} (vacant : entry page kind handle = none)
    (owned : Taken page kind handle)
    (unreserved : kind = .client → handle ∉ reserved) (object : Object) :
    Table (put page kind handle object) reserved
      (issued ++ [⟨kind, handle, object, load⟩]) load := by
  constructor
  case filed =>
    intro other text found
    rw [entry_put, List.mem_append, List.mem_singleton,
      ← table.filed other text found]
    split
    · next same =>
      rcases same with ⟨rfl, rfl⟩
      simp [vacant, eq_comm]
    · next different =>
      simp only [Ticket.mk.injEq]
      constructor
      · exact Or.inl
      · rintro (known | ⟨sameKind, sameText, -⟩)
        · exact known
        · exact absurd ⟨sameKind, sameText⟩ different
  case past =>
    intro ticket member
    rcases List.mem_append.mp member with old | new
    · exact table.past ticket old
    · rw [List.mem_singleton.mp new]
  case taken =>
    intro other text found stored
    rw [entry_put] at stored
    rw [Taken, seq_put]
    split at stored
    · next same =>
      rcases same with ⟨rfl, rfl⟩
      exact owned
    · exact table.taken other text found stored
  case waiting =>
    intro text member
    rw [entry_put, Taken, seq_put, if_neg]
    · exact table.waiting text member
    · rintro ⟨rfl, rfl⟩
      exact unreserved rfl member
  case apart => exact table.apart

/-- A handle for an open that begins. -/
theorem reserve
    :
    Table (HandleIdentity.counted page)
      (reserved ++ [upcoming page .client]) issued load := by
  have after := table.counted
  constructor
  case filed => exact after.filed
  case past => exact after.past
  case taken => exact after.taken
  case waiting =>
    intro handle member
    rcases List.mem_append.mp member with old | new
    · exact after.waiting handle old
    · rw [List.mem_singleton.mp new, entry_counted]
      exact ⟨table.entry_upcoming .client, taken_upcoming page .client⟩
  case apart =>
    rw [← List.concat_eq_append]
    exact table.apart.concat table.upcoming_not_reserved

/-- Fewer opens under way. -/
theorem sublist
    {fewer : List CodeUnits} (part : fewer.Sublist reserved) :
    Table page fewer issued load where
  filed := table.filed
  past := table.past
  taken := table.taken
  waiting := fun handle member =>
    table.waiting handle (part.subset member)
  apart := part.nodup table.apart

/-- A page that was just loaded. -/
theorem reload :
    Table (Host.new ()) [] issued (load + 1) := by
  have empty : ∀ kind handle,
      entry (Host.new () : Page Object) kind handle = none := by
    intro kind handle
    cases kind with
    | client => rfl
    | group => rfl
  constructor
  case filed =>
    intro kind handle object
    rw [empty]
    constructor
    · intro found
      cases found
    · intro member
      exact absurd (table.past _ member) (Nat.not_succ_le_self load)
  case past =>
    intro ticket member
    exact Nat.le_succ_of_le (table.past ticket member)
  case taken =>
    intro kind handle object found
    rw [empty] at found
    cases found
  case waiting =>
    intro handle member
    cases member
  case apart => exact List.nodup_nil

end

end Table

/-! ## Requests meet their object -/

/-- The right object, or the message for an unknown handle. -/
def Outcome.Right : Outcome Object → Prop
  | .acted ticket object => object = ticket.target
  | .rejected ticket message =>
      message = unknownHandle ticket.kind ticket.handle

/--
A request through an object reaches the page load that gave out its handle,
or a later one that has not given out the same handle again.
-/
def Careful (process : Process Object) : Event Object → Prop
  | .arrive position _ =>
      ∀ number ticket call,
        process.wire[position]? = some (number, .through ticket call) →
          ticket.load = process.load ∨
            ∀ other ∈ process.issued,
              other.load = process.load → other.kind = ticket.kind →
                other.handle ≠ ticket.handle
  | _ => True

/-- The handles of the opens under way. -/
def Process.reserved (process : Process Object) : List CodeUnits :=
  process.opening.map Prod.snd

/-- What holds in every state of a careful run. -/
structure Sound (process : Process Object) : Prop where
  table : Table process.page process.reserved process.issued process.load
  sent :
    ∀ number ticket call,
      (number, Request.through ticket call) ∈ process.wire →
        ticket ∈ process.issued
  posted :
    ∀ number ticket,
      (number, Answer.handle ticket) ∈ process.posts → ticket ∈ process.issued
  held : ∀ ticket ∈ process.objects, ticket ∈ process.issued
  right : ∀ outcome ∈ process.outcomes, outcome.Right

/-- The tables behind a method, with the handle it returns given out. -/
def Files
    (reserved : List CodeUnits) (issued : List (Ticket Object)) (load : Nat) :
    Except CodeUnits (Option (Filed Object)) × Page Object → Prop
  | (.ok (some (kind, handle, object)), page) =>
      Table page reserved (issued ++ [⟨kind, handle, object, load⟩]) load
  | (_, page) => Table page reserved issued load

section Methods

variable
    {page : Page Object} {reserved : List CodeUnits}
    {issued : List (Ticket Object)} {load : Nat}

section

variable (table : Table page reserved issued load)
include table

theorem files_fileClient
    {handle : CodeUnits} (vacant : entry page .client handle = none)
    (owned : Taken page .client handle) (unreserved : handle ∉ reserved)
    (made : Except CodeUnits Object) :
    Files reserved issued load (fileClient handle made page) := by
  cases made with
  | error message => exact table
  | ok object => exact table.file vacant owned (fun _ => unreserved) object

theorem files_newClient (made : Except CodeUnits Object) :
    Files reserved issued load (newClient made page) := by
  have vacant :
      entry (counted page) .client (upcoming page .client) = none := by
    rw [entry_counted]
    exact table.entry_upcoming .client
  exact
    files_fileClient table.counted vacant (taken_upcoming page .client)
      table.upcoming_not_reserved made

theorem files_fileGroup (object : Object) :
    Files reserved issued load (fileGroup object page) := by
  have vacant :
      entry (counted page) .group (upcoming page .group) = none := by
    rw [entry_counted]
    exact table.entry_upcoming .group
  have apart : Kind.group = .client → upcoming page .group ∉ reserved := by
    intro same
    cases same
  exact table.counted.file vacant (taken_upcoming page .group) apart object

theorem files_perform
    (reply : CoreReply Object) (call : Call) :
    Files reserved issued load (call.perform reply page) := by
  rcases reply with ⟨act, make, search⟩
  cases call with
  | plain =>
      cases act with
      | error message => exact table
      | ok value => exact table
  | enter =>
      cases make with
      | error message => exact table
      | ok object => exact files_fileGroup table object
  | find =>
      cases search with
      | error message => exact table
      | ok found =>
          cases found with
          | none => exact table
          | some object => exact files_fileGroup table object

end

end Methods

namespace Sound

variable {process : Process Object}

section

variable (sound : Sound process)
include sound

/-- An answer that gives out no handle. -/
theorem post
    (number : Nat) {answer : Answer Object}
    (known : ∀ ticket, answer = .handle ticket → ticket ∈ process.issued) :
    Sound (process.post number answer) where
  table := sound.table
  sent := sound.sent
  posted := by
    intro other ticket member
    rcases List.mem_append.mp member with old | new
    · exact sound.posted other ticket old
    · have same := List.mem_singleton.mp new
      exact known ticket (congrArg Prod.snd same).symm
  held := sound.held
  right := sound.right

theorem observe
    (outcome : Outcome Object) (correct : outcome.Right) :
    Sound (process.observe outcome) where
  table := sound.table
  sent := sound.sent
  posted := sound.posted
  held := sound.held
  right := by
    intro other member
    rcases List.mem_append.mp member with old | new
    · exact sound.right other old
    · rw [List.mem_singleton.mp new]
      exact correct

/-- Another page and more handles given out. -/
theorem advance
    {page : Page Object} {more : List (Ticket Object)}
    (table :
      Table page process.reserved (process.issued ++ more) process.load) :
    Sound { process with page, issued := process.issued ++ more } where
  table := table
  sent := fun number ticket call member =>
    List.mem_append_left more (sound.sent number ticket call member)
  posted := fun number ticket member =>
    List.mem_append_left more (sound.posted number ticket member)
  held := fun ticket member =>
    List.mem_append_left more (sound.held ticket member)
  right := sound.right

/-- Another page, with the handles given out before. -/
theorem turn
    {page : Page Object}
    (table : Table page process.reserved process.issued process.load) :
    Sound { process with page } where
  table := table
  sent := sound.sent
  posted := sound.posted
  held := sound.held
  right := sound.right

theorem finish
    (number : Nat)
    {result : Except CodeUnits (Option (Filed Object)) × Page Object}
    (files : Files process.reserved process.issued process.load result) :
    Sound (process.finish number result) := by
  rcases result with ⟨_ | _ | ⟨kind, handle, object⟩, page⟩
  · apply (sound.turn files).post number
    intro ticket same
    cases same
  · apply (sound.turn files).post number
    intro ticket same
    cases same
  · apply (sound.advance files).post number
    intro ticket same
    cases same
    exact List.mem_append_right _ (List.mem_singleton_self _)

/-- A request through an object, if it is careful. -/
theorem through
    {ticket : Ticket Object} (known : ticket ∈ process.issued)
    (careful :
      ticket.load = process.load ∨
        ∀ other ∈ process.issued,
          other.load = process.load → other.kind = ticket.kind →
            other.handle ≠ ticket.handle)
    {object : Object}
    (found : entry process.page ticket.kind ticket.handle = some object) :
    object = ticket.target := by
  have filed := (sound.table.filed _ _ _).mp found
  rcases careful with current | unused
  · have own :
        entry process.page ticket.kind ticket.handle =
          some ticket.target := by
      apply (sound.table.filed _ _ _).mpr
      rw [← current]
      exact known
    exact Option.some.inj (found.symm.trans own)
  · exact
      absurd rfl
        (unused ⟨ticket.kind, ticket.handle, object, process.load⟩ filed rfl
          rfl)

theorem serve
    (number : Nat) (reply : CoreReply Object) {request : Request Object}
    (careful :
      ∀ ticket call, request = .through ticket call →
        ticket ∈ process.issued ∧
          (ticket.load = process.load ∨
            ∀ other ∈ process.issued,
              other.load = process.load → other.kind = ticket.kind →
                other.handle ≠ ticket.handle)) :
    Sound (process.serve number reply request) := by
  cases request with
  | newClient =>
      exact sound.finish number (files_newClient sound.table reply.make)
  | openClient =>
      constructor
      case table =>
        have waiting :
            (process.serve number reply .openClient).reserved =
              process.reserved ++ [upcoming process.page .client] :=
          List.map_append
        rw [waiting]
        exact sound.table.reserve
      case sent => exact sound.sent
      case posted => exact sound.posted
      case held => exact sound.held
      case right => exact sound.right
  | through ticket call =>
      rcases careful ticket call rfl with ⟨known, meets⟩
      rw [Process.serve, lookUp_eq]
      cases found : entry process.page ticket.kind ticket.handle with
      | none =>
          have observed :=
            sound.observe
              (.rejected ticket (unknownHandle ticket.kind ticket.handle))
              rfl
          apply observed.post number
          intro other same
          cases same
      | some object =>
          have observed :=
            sound.observe (.acted ticket object)
              (sound.through known meets found)
          exact observed.finish number (files_perform sound.table reply call)

theorem request
    (request : Request Object)
    (known :
      ∀ ticket call, request = .through ticket call →
        ticket ∈ process.issued) :
    Sound (process.request request) where
  table := sound.table
  sent := by
    intro number ticket call member
    rcases List.mem_append.mp member with old | new
    · exact sound.sent number ticket call old
    · have same := congrArg Prod.snd (List.mem_singleton.mp new)
      exact known ticket call same.symm
  posted := sound.posted
  held := sound.held
  right := sound.right

theorem handleMessage
    (number : Nat) {answer : Answer Object}
    (known : ∀ ticket, answer = .handle ticket → ticket ∈ process.issued) :
    Sound (process.handleMessage number answer) := by
  unfold Process.handleMessage
  split
  · split
    · next ticket =>
      constructor
      case table => exact sound.table
      case sent => exact sound.sent
      case posted => exact sound.posted
      case held =>
        intro other member
        rcases List.mem_append.mp member with old | new
        · exact sound.held other old
        · rw [List.mem_singleton.mp new]
          exact known ticket rfl
      case right => exact sound.right
    · exact ⟨sound.table, sound.sent, sound.posted, sound.held, sound.right⟩
  · exact sound

/-- Messages that are no longer under way. -/
theorem consume
    {wire : List (Nat × Request Object)} {posts : List (Nat × Answer Object)}
    {opening : List (Nat × CodeUnits)}
    (fewerRequests : wire.Sublist process.wire)
    (fewerPosts : posts.Sublist process.posts)
    (fewerOpens : opening.Sublist process.opening) :
    Sound { process with wire, posts, opening } where
  table := sound.table.sublist (fewerOpens.map Prod.snd)
  sent := fun number ticket call member =>
    sound.sent number ticket call (fewerRequests.subset member)
  posted := fun number ticket member =>
    sound.posted number ticket (fewerPosts.subset member)
  held := sound.held
  right := sound.right

theorem reload : Sound process.reload where
  table := sound.table.reload
  sent := sound.sent
  posted := sound.posted
  held := sound.held
  right := sound.right

/-- The handle of an open that goes on belongs to no other open. -/
theorem resumeOpen
    {position number : Nat} {handle : CodeUnits}
    (begun : process.opening[position]? = some (number, handle))
    (made : Except CodeUnits Object) :
    Sound
      ({ process with
        opening := process.opening.eraseIdx position }.finish number
        (fileClient handle made process.page)) := by
  have fewer :=
    sound.consume (List.Sublist.refl _) (List.Sublist.refl _)
      (List.eraseIdx_sublist process.opening position)
  have waiting : process.reserved[position]? = some handle := by
    rw [Process.reserved, List.getElem?_map, begun, Option.map_some]
  rcases List.getElem?_eq_some_iff.mp waiting with ⟨inside, same⟩
  have unreserved :
      handle ∉ (process.opening.eraseIdx position).map Prod.snd := by
    rw [← List.eraseIdx_map, ← same]
    change _ ∉ process.reserved.eraseIdx position
    rw [← sound.table.apart.erase_getElem position inside]
    exact sound.table.apart.not_mem_erase
  rcases sound.table.waiting handle (List.mem_of_getElem? waiting) with
    ⟨vacant, owned⟩
  exact
    fewer.finish number
      (files_fileClient fewer.table vacant owned unreserved made)

end

theorem start : Sound (Process.start : Process Object) where
  table := by
    constructor
    case filed =>
      intro kind handle object
      cases kind with
      | client => simp [entry, Process.start, Host.new]
      | group => simp [entry, Process.start, Host.new]
    case past =>
      intro ticket member
      cases member
    case taken =>
      intro kind handle object found
      cases kind with
      | client => cases found
      | group => cases found
    case waiting =>
      intro handle member
      cases member
    case apart => exact List.nodup_nil
  sent := by
    intro number ticket call member
    cases member
  posted := by
    intro number ticket member
    cases member
  held := by
    intro ticket member
    cases member
  right := by
    intro outcome member
    cases member

theorem step
    (sound : Sound process) {event : Event Object}
    {target : Process Object} (careful : Careful process event)
    (taken : machine.step process event = some target) : Sound target := by
  cases event with
  | newClient =>
      cases taken
      apply sound.request
      intro ticket call same
      cases same
  | openClient =>
      cases taken
      apply sound.request
      intro ticket call same
      cases same
  | through position call =>
      simp only [machine] at taken
      split at taken
      · cases taken
      · next ticket found =>
        split at taken
        · cases taken
          apply sound.request
          intro other otherCall same
          cases same
          exact sound.held ticket (List.mem_of_getElem? found)
        · cases taken
  | arrive position reply =>
      simp only [machine] at taken
      split at taken
      · cases taken
      · next number request found =>
        cases taken
        have fewer :=
          sound.consume (List.eraseIdx_sublist process.wire position)
            (List.Sublist.refl _) (List.Sublist.refl _)
        apply fewer.serve number reply
        rintro ticket call rfl
        exact
          ⟨sound.sent number ticket call (List.mem_of_getElem? found),
            careful number ticket call found⟩
  | resumeOpen position made =>
      simp only [machine] at taken
      split at taken
      · cases taken
      · next number handle found =>
        cases taken
        exact sound.resumeOpen found made
  | deliver position =>
      simp only [machine] at taken
      split at taken
      · cases taken
      · next number answer found =>
        cases taken
        have fewer :=
          sound.consume (List.Sublist.refl _)
            (List.eraseIdx_sublist process.posts position)
            (List.Sublist.refl _)
        apply fewer.handleMessage number
        rintro ticket rfl
        exact sound.posted number ticket (List.mem_of_getElem? found)
  | reload =>
      cases taken
      exact sound.reload

end Sound

/--
In every run in which requests reach a page that has not given out their
handle to another object, a request acts on the object its handle was given
out for, or is rejected because the page does not know the handle.
-/
theorem careful_requests_meet_their_object
    {Object : Type} (process : Process Object)
    (reached : Reaches machine Careful Process.start process)
    (outcome : Outcome Object) (observed : outcome ∈ process.outcomes) :
    outcome.Right := by
  have sound : Sound process := by
    apply Reaches.invariant Sound.start _ reached
    intro source event target before careful taken
    exact before.step careful taken
  exact sound.right outcome observed

/-! ## A rejected and a misdirected request -/

/-- `Careful`, computed. -/
def isCareful (process : Process Nat) : Event Nat → Bool
  | .arrive position _ =>
      match process.wire[position]? with
      | some (_, .through ticket _) =>
          decide (ticket.load = process.load) ||
            process.issued.all fun other =>
              decide
                (other.load = process.load → other.kind = ticket.kind →
                  other.handle ≠ ticket.handle)
      | _ => true
  | _ => true

theorem careful_of_isCareful (process : Process Nat) (event : Event Nat)
    (passed : isCareful process event = true) : Careful process event := by
  cases event with
  | arrive position reply =>
      intro number ticket call found
      simp only [isCareful, found, Bool.or_eq_true, decide_eq_true_eq,
        List.all_eq_true] at passed
      exact passed
  | newClient | openClient | through | resumeOpen | deliver | reload =>
      trivial

/-- A core that makes the given object. -/
def making (object : Nat) : CoreReply Nat :=
  ⟨.ok (), .ok object, .ok (some object)⟩

/-- A client makes a group and both are used; later the page is another. -/
def lifetime : List (Event Nat) :=
  [.newClient, .openClient, .arrive 1 (making 0), .arrive 0 (making 0),
    .deliver 0, .resumeOpen 0 (.ok 1), .deliver 0, .through 1 .enter,
    .arrive 0 (making 2), .deliver 0, .reload, .through 2 .plain,
    .arrive 0 (making 3)]

/-- The client behind the second handle, then an unknown group. -/
theorem careful_requests_meet_their_object_lifetime :
    ∃ (process : Process Nat) (opened group : Ticket Nat),
      Reaches machine Careful Process.start process ∧
        process.outcomes =
          [.acted opened 1,
            .rejected group (literal "unknown group handle: g3")] ∧
        1 = opened.target ∧
        literal "unknown group handle: g3" =
          unknownHandle group.kind group.handle := by
  have observed :
      ((machine.restrict isCareful).run Process.start lifetime).map
          (fun process => process.outcomes) =
        some
          [.acted ⟨.client, literal "c1", 1, 0⟩ 1,
            .rejected ⟨.group, literal "g3", 2, 0⟩
              (literal "unknown group handle: g3")] := by
    decide +kernel
  rcases Option.map_eq_some_iff.mp observed with ⟨process, ran, outcomes⟩
  have reached := reaches_of_run careful_of_isCareful ran
  have right := careful_requests_meet_their_object process reached
  rw [outcomes, List.forall_mem_cons, List.forall_mem_singleton] at right
  exact ⟨process, _, _, reached, outcomes, right.1, right.2⟩

/-- The page is loaded again and gives out the first handle once more. -/
def reused : List (Event Nat) :=
  [.newClient, .arrive 0 (making 0), .deliver 0, .reload, .newClient,
    .arrive 0 (making 1), .through 0 .plain, .arrive 0 (making 2)]

/-- A request through the first object acts on the second client. -/
theorem reused_handle_meets_another_client :
    ∃ process : Process Nat,
      Reaches machine anyStep Process.start process ∧
        ∃ outcome ∈ process.outcomes,
          outcome = .acted ⟨.client, literal "c1", 0, 0⟩ 1 ∧
            ¬ outcome.Right := by
  have observed :
      ((machine.restrict fun _ _ => true).run Process.start reused).map
          (fun process => process.outcomes) =
        some [.acted ⟨.client, literal "c1", 0, 0⟩ 1] := by
    decide +kernel
  rcases Option.map_eq_some_iff.mp observed with ⟨process, ran, outcomes⟩
  have reached : Reaches machine anyStep Process.start process :=
    reaches_of_run (fun _ _ _ => trivial) ran
  refine
    ⟨process, reached, .acted ⟨.client, literal "c1", 0, 0⟩ 1, ?_, rfl, ?_⟩
  · rw [outcomes]
    exact List.mem_singleton_self _
  · intro right
    cases right

end Mls4rn.ReactNative.HandleIdentity
