import Mls4rn.Lib.Lists
import Mls4rn.ReactNative.HostTasks

/-!
# The page with persistent and in-memory clients

One table of the page holds the clients of `newClient` and those of
`openClient`.  An in-memory client has no adapter, so `save` does nothing with
it; the iterator of `snapshot` meets it nevertheless and waits.

Several requests are under way at once.  The functions below go from one
`await` to the next, as in `HostTasks`, and answer with the page and what it
posts.  A client handle `"c7"` is the number 7; a group operation names its
client and the MLS group.  The iteration order of a storage and the random
choices of OpenMLS are arguments.  `HostTasks` has the persistent clients only,
and a record of the group changes before each snapshot.

The second part says what a step of the page does to the state of a client id:
the state is in the client that is open under the id, or, without one, in the
store.
-/

namespace Mls4rn.ReactNative.SharedPage

open Mls4rn.Lib
open Mls4rn.Lib.ByteString
open Mls4rn.Lib.NumberText
open Mls4rn.Lib.PlainObject
open Mls4rn.Lib.Throwing
open Mls4rn.Lib.Utf16
open Mls4rn.Core.MlsGroup (Thrown)
open Mls4rn.Core.PersistentClient hiding Event machine
open Mls4rn.ReactNative.HostStore (Store)
open Mls4rn.ReactNative.HostTasks (Opening saved)

variable {Keypair Operation Seed Number : Type}

/-! ## The page -/

/-- The requests of the facade, without those of `Mls.ready`. -/
inductive Request (Operation : Type) where
  | newClient (name : CodeUnits)
  | openClient (id : CodeUnits)
  | saveClient (handle : Nat)
  | keyPackage (handle : Nat)
  | createGroup (handle : Nat) (groupId : CodeUnits)
  | joinGroup
      (handle : Nat) (welcome ratchetTree : Bytes) (groupId : CodeUnits)
  | group (handle : Nat) (groupId : CodeUnits)
  | operate (handle : Nat) (group : Bytes) (operation : Operation)
  | snapshot
deriving DecidableEq

/-- What the page posts for a request. -/
inductive Outcome where
  | snapshot (text : CodeUnits)
  | done
  | failed
deriving DecidableEq, Repr

/-- An answer and the number of the request. -/
abbrev Post : Type :=
  Nat × Outcome

/-- A client and whether it has the adapter of the page. -/
structure Slot (Keypair : Type) where
  client : Client Keypair
  persistent : Bool

/--
The variables of the page, the opens behind an `await` with the handle they
have taken, and for every `snapshot` the position of its iterator.
-/
structure Page (Keypair : Type) where
  clients : InsertionMap Nat (Slot Keypair)
  store : Store
  seq : Nat
  opening : List (Nat × Opening Keypair)
  flushes : Nat → Option Nat

/-- A page whose store was filled by `restore`. -/
def Page.restored (store : Store) : Page Keypair where
  clients := InsertionMap.empty
  store := store
  seq := 0
  opening := []
  flushes := fun _ => none

/-- The page and what it posts. -/
abbrev Served (Keypair : Type) : Type :=
  Page Keypair × List Post

/-! ## Serving requests -/

/-- `clients.set`. -/
def Page.setClient
    (page : Page Keypair) (handle : Nat) (slot : Slot Keypair) :
    Page Keypair :=
  { page with clients := page.clients.set handle slot }

/-- `storageAdapter.save`. -/
def Page.put (page : Page Keypair) (id : CodeUnits) (blob : Bytes) :
    Page Keypair :=
  { page with store := page.store.set id blob }

/-- Replace the iterator of a `snapshot`. -/
def Page.setFlush
    (page : Page Keypair) (number : Nat) (position : Option Nat) :
    Page Keypair :=
  { page with flushes := Function.update page.flushes number position }

/-- `nextHandle`, as often as a handle is given out. -/
def Page.count (page : Page Keypair) (handles : Nat) : Page Keypair :=
  { page with seq := page.seq + handles }

/-- A method that works on one client and returns that many handles. -/
def Page.call
    {Value : Type} (page : Page Keypair) (number handle handles : Nat)
    (action : Throwing (Client Keypair) Thrown Value) : Served Keypair :=
  match page.clients.get handle with
  | none => (page, [(number, .failed)])
  | some slot =>
      match action slot.client with
      | (.error _, client) =>
          (page.setClient handle { slot with client }, [(number, .failed)])
      | (.ok _, client) =>
          ((page.setClient handle { slot with client }).count handles,
            [(number, .done)])

/-- `methods.group`. -/
def Page.group
    (page : Page Keypair) (number handle : Nat) (groupId : CodeUnits) :
    Served Keypair :=
  match page.clients.get handle with
  | none => (page, [(number, .failed)])
  | some slot =>
      match slot.client.groups.get groupId with
      | none => (page, [(number, .done)])
      | some _ => (page.count 1, [(number, .done)])

/-- `methods.openClient`, up to the `await` of the adapter. -/
def Page.beginOpen (page : Page Keypair) (number : Nat) (id : CodeUnits) :
    Page Keypair :=
  { page with
    seq := page.seq + 1
    opening :=
      page.opening ++
        [(page.seq + 1, .loaded number id (page.store.get id))] }

section Serving

variable (mls : StoredMls Keypair Operation Seed)

/-- `methods.newClient`; the handle is taken before the constructor runs. -/
def Page.newClient
    (page : Page Keypair) (number : Nat) (name : CodeUnits) (seed : Seed) :
    Served Keypair :=
  match Client.new mls name seed with
  | .error _ => (page.count 1, [(number, .failed)])
  | .ok client =>
      ((page.count 1).setClient (page.seq + 1) ⟨client, false⟩,
        [(number, .done)])

/-- `MlsClient.save`, for an order that the storage can have. -/
def Page.save
    (page : Page Keypair) (slot : Slot Keypair)
    (order : List (Bytes × Bytes)) : Option (Except Thrown (Page Keypair)) :=
  if slot.persistent then
    match saved mls slot.client order with
    | none => none
    | some (.error error) => some (.error error)
    | some (.ok blob) => some (.ok (page.put slot.client.id blob))
  else
    some (.ok page)

/-- `methods.saveClient`. -/
def Page.saveClient
    (page : Page Keypair) (number handle : Nat)
    (order : List (Bytes × Bytes)) : Option (Served Keypair) :=
  match page.clients.get handle with
  | none => some (page, [(number, .failed)])
  | some slot =>
      match page.save mls slot order with
      | none => none
      | some (.error _) => some (page, [(number, .failed)])
      | some (.ok page) => some (page, [(number, .done)])

/-- `methods.openClient`, from one `await` to the next. -/
def Page.resumeOpen
    (page : Page Keypair) (position : Nat) (seed : Seed)
    (order : List (Bytes × Bytes)) : Option (Served Keypair) :=
  match page.opening[position]? with
  | none => none
  | some (handle, .loaded number id blob) =>
      if FreshOrder mls id seed order then
        match openClient mls id blob seed order with
        | .error _ =>
            some
              ({ page with opening := page.opening.eraseIdx position },
                [(number, .failed)])
        | .ok (client, written) =>
            let built :=
              { page with
                opening :=
                  page.opening.set position (handle, .built number client) }
            match blob with
            | none => some (built.put id written, [])
            | some _ => some (built, [])
      else
        none
  | some (handle, .built number client) =>
      some
        ({ page with opening := page.opening.eraseIdx position }.setClient
            handle ⟨client, true⟩,
          [(number, .done)])

variable (format : NumberFormat Number)

/-- `methods.snapshot`, up to the next `await` or to its end. -/
def Page.advance
    (page : Page Keypair) (number position : Nat)
    (order : List (Bytes × Bytes)) : Option (Served Keypair) :=
  match page.clients.entries[position]? with
  | some (_, slot) =>
      match page.save mls slot order with
      | none => none
      | some (.error _) =>
          some (page.setFlush number none, [(number, .failed)])
      | some (.ok page) =>
          some (page.setFlush number (some (position + 1)), [])
  | none =>
      match HostStore.snapshot format page.store with
      | .error _ => some (page.setFlush number none, [(number, .failed)])
      | .ok text =>
          some (page.setFlush number none, [(number, .snapshot text)])

/-- `methods.snapshot`, behind one of its `await`s. -/
def Page.resumeSnapshot
    (page : Page Keypair) (number : Nat) (order : List (Bytes × Bytes)) :
    Option (Served Keypair) :=
  match page.flushes number with
  | none => none
  | some position => page.advance mls format number position order

/-- `dispatch` of a request that arrives. -/
def Page.receive
    (page : Page Keypair) (number : Nat) (seed : Seed)
    (order : List (Bytes × Bytes)) :
    Request Operation → Option (Served Keypair)
  | .newClient name => some (page.newClient mls number name seed)
  | .openClient id => some (page.beginOpen number id, [])
  | .saveClient handle => page.saveClient mls number handle order
  | .keyPackage handle =>
      some (page.call number handle 0 (keyPackage mls seed))
  | .createGroup handle groupId =>
      some (page.call number handle 1 (createGroup mls groupId seed))
  | .joinGroup handle welcome ratchetTree groupId =>
      some
        (page.call number handle 1
          (joinGroup mls welcome ratchetTree (some groupId)))
  | .group handle groupId => some (page.group number handle groupId)
  | .operate handle group operation =>
      some (page.call number handle 0 (operate mls group operation))
  | .snapshot => page.advance mls format number 0 order

end Serving

/-! ## The client that is open under an id -/

/-- The id under which the client is saved; an in-memory client has none. -/
def Slot.owner (slot : Slot Keypair) : Option CodeUnits :=
  if slot.persistent then some slot.client.id else none

/-- The ids of the clients, in the order of the table. -/
def Page.owners (page : Page Keypair) : List (Option CodeUnits) :=
  page.clients.entries.map fun entry => entry.2.owner

/-- The persistent client that is open under an id. -/
def Page.holder (page : Page Keypair) (id : CodeUnits) :
    Option (Client Keypair) :=
  (page.clients.entries.find? fun entry =>
    decide (entry.2.owner = some id)).map fun entry => entry.2.client

/-- The ids that are open or being opened. -/
def Page.ids (page : Page Keypair) : List CodeUnits :=
  page.owners.reduceOption ++ page.opening.map fun pending => pending.2.id

/-- The client handles that were taken. -/
def Page.handles (page : Page Keypair) : List Nat :=
  page.clients.keys ++ page.opening.map Prod.fst

/--
The content is the state of the id: a snapshot of the client that is open
under it, or without a client what the store has.
-/
def Reflects
    (mls : StoredMls Keypair Operation Seed) (page : Page Keypair)
    (id : CodeUnits) (content : Option Bytes) : Prop :=
  match page.holder id with
  | some client =>
      ∃ order blob,
        saved mls client order = some (.ok blob) ∧ content = some blob
  | none => content = page.store.get id

/--
No id is open twice, handles are numbered, and `__proto__` is no client id.
-/
structure Owned (page : Page Keypair) : Prop where
  single : page.ids.Nodup
  distinct : page.handles.Nodup
  numbered : ∀ handle ∈ page.handles, handle ≤ page.seq
  ordinary : prototypeName ∉ page.ids
  unstored : page.store.get prototypeName = none

section Owned

variable {page : Page Keypair}

theorem holder_eq_none_iff (id : CodeUnits) :
    page.holder id = none ↔ some id ∉ page.owners := by
  simp [Page.holder, Page.owners]

theorem Owned.holder_of_entry
    (owned : Owned page) {handle : Nat} {slot : Slot Keypair}
    (member : (handle, slot) ∈ page.clients.entries) {id : CodeUnits}
    (owner : slot.owner = some id) : page.holder id = some slot.client := by
  have single := (List.nodup_append.mp owned.single).1
  rw [Page.holder,
    Lists.find_eq_of_nodup (fun entry : Nat × Slot Keypair => entry.2.owner)
      single member owner, Option.map_some]

/-- An id that is being opened is not open. -/
theorem Owned.holder_of_opening
    (owned : Owned page) {handle : Nat} {opening : Opening Keypair}
    (member : (handle, opening) ∈ page.opening) :
    page.holder opening.id = none := by
  rw [holder_eq_none_iff, ← List.reduceOption_mem_iff]
  intro present
  have pending :
      opening.id ∈ page.opening.map fun pending => pending.2.id :=
    List.mem_map.mpr ⟨(handle, opening), member, rfl⟩
  exact (List.nodup_append.mp owned.single).2.2 _ present _ pending rfl

/-- A taken handle that is still being opened names no client. -/
theorem Owned.key_of_opening
    (owned : Owned page) {handle : Nat} {opening : Opening Keypair}
    (member : (handle, opening) ∈ page.opening) :
    handle ∉ page.clients.keys := by
  intro present
  have pending : handle ∈ page.opening.map Prod.fst :=
    List.mem_map.mpr ⟨(handle, opening), member, rfl⟩
  exact (List.nodup_append.mp owned.distinct).2.2 _ present _ pending rfl

theorem Owned.next_not_taken (owned : Owned page) :
    page.seq + 1 ∉ page.handles := by
  intro member
  exact absurd (owned.numbered _ member) (Nat.not_succ_le_self _)

end Owned

/-! ## What a step does to the state of an id -/

/--
A step of the page outside `snapshot`: clients are never dropped, and an entry
of the store that changes has the state of its id.
-/
structure Moves
    (mls : StoredMls Keypair Operation Seed) (page target : Page Keypair) :
    Prop where
  owned : Owned target
  grown : ∃ more, target.owners = page.owners ++ more
  flushes : target.flushes = page.flushes
  stored :
    ∀ id,
      target.store.get id = page.store.get id ∨
        Reflects mls target id (target.store.get id)

section Moves

variable {mls : StoredMls Keypair Operation Seed} {page : Page Keypair}

variable {id : CodeUnits} {handle : Nat} {order : List (Bytes × Bytes)}

/-- Without a client the store is the state. -/
theorem reflects_of_holder_none (vacant : page.holder id = none) :
    Reflects mls page id (page.store.get id) := by
  rw [Reflects, vacant]

theorem Owned.moves (owned : Owned page) : Moves mls page page where
  owned := owned
  grown := ⟨[], (List.append_nil _).symm⟩
  flushes := rfl
  stored := fun _ => Or.inl rfl

theorem Owned.count (owned : Owned page) (handles : Nat) :
    Owned (page.count handles) where
  single := owned.single
  distinct := owned.distinct
  numbered := fun handle member =>
    Nat.le_add_right_of_le (owned.numbered handle member)
  ordinary := owned.ordinary
  unstored := owned.unstored

theorem Owned.setFlush
    (owned : Owned page) (number : Nat) (position : Option Nat) :
    Owned (page.setFlush number position) :=
  ⟨owned.single, owned.distinct, owned.numbered, owned.ordinary,
    owned.unstored⟩

theorem Moves.count
    {target : Page Keypair} (moves : Moves mls page target)
    (handles : Nat) : Moves mls page (target.count handles) where
  owned := moves.owned.count handles
  grown := moves.grown
  flushes := moves.flushes
  stored := moves.stored

/-- The store behind a save, with an id that is not `__proto__`. -/
theorem Owned.put
    (owned : Owned page) (member : id ∈ page.ids) (blob : Bytes) :
    Owned (page.put id blob) where
  single := owned.single
  distinct := owned.distinct
  numbered := owned.numbered
  ordinary := owned.ordinary
  unstored := by
    have different : prototypeName ≠ id := by
      rintro rfl
      exact owned.ordinary member
    exact (InsertionMap.get_set_of_ne _ _ different).trans owned.unstored

/-- A content of the store that is the state of its id. -/
theorem Owned.moves_put
    (owned : Owned page) (member : id ∈ page.ids)
    {blob : Bytes} (state : Reflects mls (page.put id blob) id (some blob)) :
    Moves mls page (page.put id blob) where
  owned := owned.put member blob
  grown := ⟨[], (List.append_nil _).symm⟩
  flushes := rfl
  stored := by
    intro other
    by_cases same : other = id
    · subst same
      have current : (page.put other blob).store.get other = some blob :=
        InsertionMap.get_set_self _ _ _
      rw [current]
      exact Or.inr state
    · exact Or.inl (InsertionMap.get_set_of_ne _ _ same)

theorem mem_ids_of_entry
    {slot : Slot Keypair} (member : (handle, slot) ∈ page.clients.entries)
    (owner : slot.owner = some id) : id ∈ page.ids :=
  List.mem_append_left _
    (List.reduceOption_mem_iff.mpr
      (List.mem_map.mpr ⟨(handle, slot), member, owner⟩))

/-- A client of the table is saved. -/
theorem Owned.moves_save
    (owned : Owned page) {slot : Slot Keypair}
    (member : (handle, slot) ∈ page.clients.entries) {target : Page Keypair}
    (succeeded : page.save mls slot order = some (.ok target)) :
    Moves mls page target ∧ target.clients = page.clients ∧
      ∀ id, slot.owner = some id →
        Reflects mls target id (target.store.get id) := by
  rw [Page.save] at succeeded
  split at succeeded
  · next persistent =>
    have owner : slot.owner = some slot.client.id := if_pos persistent
    split at succeeded
    · cases succeeded
    · cases succeeded
    · next blob written =>
      cases succeeded
      have holds :
          (page.put slot.client.id blob).holder slot.client.id =
            some slot.client :=
        owned.holder_of_entry member owner
      have state :
          Reflects mls (page.put slot.client.id blob) slot.client.id
            (some blob) := by
        rw [Reflects, holds]
        exact ⟨order, blob, written, rfl⟩
      refine ⟨owned.moves_put (mem_ids_of_entry member owner) state, rfl, ?_⟩
      intro id same
      rw [owner] at same
      cases same
      have current :
          (page.put slot.client.id blob).store.get slot.client.id =
            some blob :=
        InsertionMap.get_set_self _ _ _
      rw [current]
      exact state
  · next inMemory =>
    cases succeeded
    refine ⟨owned.moves, rfl, ?_⟩
    intro id same
    rw [Slot.owner, if_neg inMemory] at same
    cases same

/-- No more ids and handles, perhaps in other places. -/
theorem Owned.of_subperm
    (owned : Owned page) (target : Page Keypair)
    (ids : target.ids.Subperm page.ids)
    (handles : target.handles.Subperm page.handles)
    (seq : page.seq ≤ target.seq) (store : target.store = page.store) :
    Owned target where
  single := Lists.nodup_of_subperm ids owned.single
  distinct := Lists.nodup_of_subperm handles owned.distinct
  numbered := fun handle member =>
    (owned.numbered handle (handles.subset member)).trans seq
  ordinary := fun member => owned.ordinary (ids.subset member)
  unstored := by
    rw [store]
    exact owned.unstored

/-! ### Calls on a client -/

/-- A client that is replaced keeps its place in the table. -/
theorem owners_setClient_of_get
    {slot changed : Slot Keypair}
    (found : page.clients.get handle = some slot)
    (same : changed.owner = slot.owner) :
    (page.setClient handle changed).owners = page.owners := by
  have present : handle ∈ page.clients.entries.map Prod.fst :=
    (InsertionMap.mem_keys_iff _ _).mpr ⟨slot, found⟩
  change
    (InsertionMap.setEntries page.clients.entries handle changed).map _ = _
  rw [InsertionMap.setEntries, if_pos present, List.map_map]
  apply List.map_congr_left
  rintro ⟨key, other⟩ member
  by_cases equal : key = handle
  · subst equal
    have entry := (InsertionMap.get_eq_some_iff _ _ _).mpr member
    rw [found] at entry
    cases entry
    simp [same]
  · simp [equal]

theorem keys_setClient_of_get
    {slot : Slot Keypair}
    (found : page.clients.get handle = some slot) (changed : Slot Keypair) :
    (page.setClient handle changed).clients.keys = page.clients.keys := by
  have present : handle ∈ page.clients.keys :=
    (InsertionMap.mem_keys_iff _ _).mpr ⟨slot, found⟩
  exact (InsertionMap.keys_set _ _ _).trans (if_pos present)

theorem Owned.moves_setClient
    (owned : Owned page) {slot changed : Slot Keypair}
    (found : page.clients.get handle = some slot)
    (same : changed.owner = slot.owner) :
    Moves mls page (page.setClient handle changed) where
  owned := by
    apply owned.of_subperm (page.setClient handle changed) _ _ le_rfl rfl
    · rw [Page.ids, owners_setClient_of_get found same]
      exact List.Subperm.refl _
    · rw [Page.handles, keys_setClient_of_get found]
      exact List.Subperm.refl _
  grown :=
    ⟨[], (owners_setClient_of_get found same).trans (List.append_nil _).symm⟩
  flushes := rfl
  stored := fun _ => Or.inl rfl

/-- The client behind an action has the id it had before. -/
def KeepsId {Value : Type} (action : Throwing (Client Keypair) Thrown Value) :
    Prop :=
  ∀ client, (action client).2.id = client.id

theorem keepsId_keyPackage (seed : Seed) :
    KeepsId (keyPackage mls seed) := by
  intro client
  change (onValues _ client).2.id = client.id
  rw [onValues_apply]

theorem keepsId_operate (group : Bytes) (operation : Operation) :
    KeepsId (operate mls group operation) := by
  intro client
  change (onValues _ client).2.id = client.id
  rw [onValues_apply]

theorem keepsId_createGroup (groupId : CodeUnits) (seed : Seed) :
    KeepsId (createGroup mls groupId seed) := by
  intro client
  rw [createGroup_apply]
  split
  · rfl
  · rfl

theorem keepsId_joinGroup
    (welcome ratchetTree : Bytes) (groupId : Option CodeUnits) :
    KeepsId (joinGroup mls welcome ratchetTree groupId) := by
  intro client
  rw [joinGroup_apply]
  split
  · rfl
  · rfl

theorem Owned.moves_call
    (owned : Owned page) {Value : Type} (number handle handles : Nat)
    {action : Throwing (Client Keypair) Thrown Value}
    (keeps : KeepsId action) :
    Moves mls page (page.call number handle handles action).1 := by
  unfold Page.call
  split
  · exact owned.moves
  · next slot found =>
    have same :
        Slot.owner { slot with client := (action slot.client).2 } =
          slot.owner := by
      rw [Slot.owner, keeps]
      rfl
    have changed :
        Moves mls page
          (page.setClient handle
            { slot with client := (action slot.client).2 }) :=
      owned.moves_setClient found same
    split
    · next client thrown =>
      rw [thrown] at changed
      exact changed
    · next client returned =>
      rw [returned] at changed
      exact changed.count handles

theorem Owned.moves_group
    (owned : Owned page) (number handle : Nat) (groupId : CodeUnits) :
    Moves mls page (page.group number handle groupId).1 := by
  unfold Page.group
  split
  · exact owned.moves
  · split
    · exact owned.moves
    · exact owned.moves.count 1

/-! ### New clients -/

/-- A client under a new handle goes to the end of the table. -/
theorem entries_setClient_of_fresh
    (fresh : handle ∉ page.clients.keys) (slot : Slot Keypair) :
    (page.setClient handle slot).clients.entries =
      page.clients.entries ++ [(handle, slot)] :=
  InsertionMap.setEntries_of_fresh _ _ fresh

theorem owners_setClient_of_fresh
    (fresh : handle ∉ page.clients.keys) (slot : Slot Keypair) :
    (page.setClient handle slot).owners = page.owners ++ [slot.owner] := by
  rw [Page.owners, entries_setClient_of_fresh fresh, List.map_append]
  rfl

theorem keys_setClient_of_fresh
    (fresh : handle ∉ page.clients.keys) (slot : Slot Keypair) :
    (page.setClient handle slot).clients.keys =
      page.clients.keys ++ [handle] := by
  rw [InsertionMap.keys, entries_setClient_of_fresh fresh, List.map_append]
  rfl

/-- A handle that `nextHandle` has just given out. -/
theorem Owned.take
    (owned : Owned page) (target : Page Keypair)
    (ids : target.ids = page.ids) (seq : target.seq = page.seq + 1)
    (handles : target.handles.Perm ((page.seq + 1) :: page.handles))
    (store : target.store = page.store) : Owned target where
  single := by
    rw [ids]
    exact owned.single
  distinct :=
    handles.nodup_iff.mpr
      (List.nodup_cons.mpr ⟨owned.next_not_taken, owned.distinct⟩)
  numbered := by
    intro handle member
    rw [seq]
    rcases List.mem_cons.mp (handles.mem_iff.mp member) with rfl | old
    · exact le_rfl
    · exact Nat.le_succ_of_le (owned.numbered handle old)
  ordinary := by
    rw [ids]
    exact owned.ordinary
  unstored := by
    rw [store]
    exact owned.unstored

/-- An in-memory client under the next handle. -/
theorem Owned.moves_register_inMemory
    (owned : Owned page) (client : Client Keypair) :
    Moves mls page
      ((page.count 1).setClient (page.seq + 1) ⟨client, false⟩) := by
  have fresh : page.seq + 1 ∉ (page.count 1).clients.keys := by
    intro member
    exact owned.next_not_taken (List.mem_append_left _ member)
  have owners :
      ((page.count 1).setClient (page.seq + 1) ⟨client, false⟩).owners =
        page.owners ++ [none] :=
    owners_setClient_of_fresh fresh _
  have keys :
      ((page.count 1).setClient (page.seq + 1)
          ⟨client, false⟩).clients.keys =
        page.clients.keys ++ [page.seq + 1] :=
    keys_setClient_of_fresh fresh _
  constructor
  case owned =>
    apply owned.take
      ((page.count 1).setClient (page.seq + 1) ⟨client, false⟩) _ rfl _ rfl
    · rw [Page.ids, owners, List.reduceOption_append]
      simp only [List.reduceOption_cons_of_none, List.reduceOption_nil,
        List.append_nil]
      rfl
    · rw [Page.handles, keys, List.append_assoc]
      exact List.perm_middle
  case grown => exact ⟨[none], owners⟩
  case flushes => rfl
  case stored => exact fun _ => Or.inl rfl

theorem Owned.moves_newClient
    (owned : Owned page) (number : Nat) (name : CodeUnits) (seed : Seed) :
    Moves mls page (page.newClient mls number name seed).1 := by
  unfold Page.newClient
  split
  · exact owned.moves.count 1
  · next client constructed => exact owned.moves_register_inMemory client

/-! ### Opening a client -/

theorem Owned.moves_beginOpen
    (owned : Owned page) (number : Nat)
    (unopened : id ∉ page.ids) (ordinary : id ≠ prototypeName) :
    Moves mls page (page.beginOpen number id) := by
  have ids : (page.beginOpen number id).ids = page.ids ++ [id] := by
    simp only [Page.ids, Page.beginOpen, List.map_append, Page.owners,
      List.map_cons, List.map_nil, Opening.id, List.append_assoc]
  have handles :
      (page.beginOpen number id).handles =
        page.handles ++ [page.seq + 1] := by
    simp only [Page.handles, Page.beginOpen, List.map_append,
      List.map_cons, List.map_nil, List.append_assoc]
  constructor
  case owned =>
    constructor
    case single =>
      rw [ids, ← List.concat_eq_append]
      exact owned.single.concat unopened
    case distinct =>
      rw [handles, ← List.concat_eq_append]
      exact owned.distinct.concat owned.next_not_taken
    case numbered =>
      intro handle member
      rw [handles] at member
      rcases List.mem_append.mp member with old | new
      · exact Nat.le_succ_of_le (owned.numbered handle old)
      · rw [List.mem_singleton.mp new]
        exact le_rfl
    case ordinary =>
      rw [ids]
      intro member
      rcases List.mem_append.mp member with old | new
      · exact owned.ordinary old
      · exact ordinary (List.mem_singleton.mp new).symm
    case unstored => exact owned.unstored
  case grown => exact ⟨[], (List.append_nil _).symm⟩
  case flushes => rfl
  case stored => exact fun _ => Or.inl rfl

/-- Opens that have not come further, or are given up. -/
theorem Moves.reopen
    {target : Page Keypair} (moves : Moves mls page target)
    {opening : List (Nat × Opening Keypair)}
    (ids :
      (opening.map fun pending => pending.2.id).Sublist
        (target.opening.map fun pending => pending.2.id))
    (handles : (opening.map Prod.fst).Sublist (target.opening.map Prod.fst)) :
    Moves mls page { target with opening } where
  owned :=
    moves.owned.of_subperm { target with opening }
      (List.Sublist.append_left ids _).subperm
      (List.Sublist.append_left handles _).subperm le_rfl rfl
  grown := moves.grown
  flushes := moves.flushes
  stored := moves.stored

theorem id_of_new
    {seed : Seed} {client : Client Keypair}
    (constructed : Client.new mls id seed = .ok client) :
    client.id = id := by
  rcases bind_eq_ok constructed with ⟨keypair, _, stored⟩
  rcases bind_eq_ok stored with ⟨values, _, returned⟩
  cases returned
  rfl

theorem id_of_openClient
    {stored : Option Bytes} {seed : Seed}
    {client : Client Keypair} {blob : Bytes}
    (opened : openClient mls id stored seed order = .ok (client, blob)) :
    client.id = id := by
  unfold openClient at opened
  rcases bind_eq_ok opened with ⟨fresh, constructed, opened⟩
  cases stored with
  | none =>
      rcases bind_eq_ok opened with ⟨written, _, returned⟩
      cases returned
      exact id_of_new constructed
  | some content =>
      rcases bind_eq_ok opened with ⟨restored, rebuilt, returned⟩
      cases returned
      unfold restore at rebuilt
      rcases bind_eq_ok rebuilt with ⟨envelope, _, valued⟩
      rcases bind_eq_ok valued with ⟨values, _, identified⟩
      rcases bind_eq_ok identified with ⟨keypair, _, loading⟩
      rcases bind_eq_ok loading with ⟨groups, _, finished⟩
      cases finished
      rfl

theorem Owned.moves_register
    (owned : Owned page) {position handle number : Nat}
    {client : Client Keypair}
    (pending :
      page.opening[position]? = some (handle, .built number client)) :
    Moves mls page
      ({ page with opening := page.opening.eraseIdx position }.setClient
        handle ⟨client, true⟩) := by
  have fresh : handle ∉ page.clients.keys :=
    owned.key_of_opening (List.mem_of_getElem? pending)
  rcases List.getElem?_eq_some_iff.mp pending with ⟨inside, entry⟩
  have moved := List.getElem_cons_eraseIdx_perm inside
  rw [entry] at moved
  have owners :=
    @owners_setClient_of_fresh _
      { page with opening := page.opening.eraseIdx position } _ fresh
      ⟨client, true⟩
  have keys :=
    @keys_setClient_of_fresh _
      { page with opening := page.opening.eraseIdx position } _ fresh
      ⟨client, true⟩
  constructor
  case owned =>
    apply owned.of_subperm
    · rw [Page.ids, owners, List.reduceOption_append, List.append_assoc]
      apply List.Perm.subperm
      exact (moved.map fun pending => pending.2.id).append_left _
    · rw [Page.handles, keys, List.append_assoc]
      apply List.Perm.subperm
      exact (moved.map Prod.fst).append_left _
    · exact le_refl page.seq
    · rfl
  case grown => exact ⟨_, owners⟩
  case flushes => rfl
  case stored => exact fun _ => Or.inl rfl

theorem Owned.moves_resumeOpen
    (owned : Owned page) {position : Nat} {seed : Seed}
    {served : Served Keypair}
    (resumed : page.resumeOpen mls position seed order = some served) :
    Moves mls page served.1 := by
  unfold Page.resumeOpen at resumed
  split at resumed
  · cases resumed
  · next handle number id blob pending =>
    split at resumed
    · split at resumed
      · cases resumed
        apply owned.moves.reopen
        · exact (List.eraseIdx_sublist _ _).map _
        · exact (List.eraseIdx_sublist _ _).map _
      · next client written opened =>
        have same := id_of_openClient opened
        have ids :
            (page.opening.set position
                (handle, .built number client)).map
                  (fun pending => pending.2.id) =
              page.opening.map fun pending => pending.2.id :=
          Lists.map_set_of_same _ pending same
        have handles :
            (page.opening.set position
                (handle, .built number client)).map Prod.fst =
              page.opening.map Prod.fst :=
          Lists.map_set_of_same _ pending rfl
        split at resumed
        · cases resumed
          have member : id ∈ page.ids :=
            List.mem_append_right _
              (List.mem_map.mpr ⟨_, List.mem_of_getElem? pending, rfl⟩)
          have vacant : (page.put id written).holder id = none :=
            owned.holder_of_opening (List.mem_of_getElem? pending)
          have state :
              Reflects mls (page.put id written) id (some written) := by
            rw [Reflects, vacant]
            exact (InsertionMap.get_set_self _ _ _).symm
          apply (owned.moves_put member state).reopen
          · rw [ids]
            exact List.Sublist.refl _
          · rw [handles]
            exact List.Sublist.refl _
        · cases resumed
          apply owned.moves.reopen
          · rw [ids]
          · rw [handles]
    · cases resumed
  · next handle number client pending =>
    cases resumed
    exact owned.moves_register pending

end Moves

/-! ### What is posted -/

/-- The snapshots among the posts, with the numbers of their requests. -/
def snapshots (posts : List Post) : List (Nat × CodeUnits) :=
  posts.filterMap fun post =>
    match post.2 with
    | .snapshot text => some (post.1, text)
    | _ => none

theorem snapshots_append (first second : List Post) :
    snapshots (first ++ second) = snapshots first ++ snapshots second :=
  List.filterMap_append

section Posts

variable
    {mls : StoredMls Keypair Operation Seed} {format : NumberFormat Number}
    {page : Page Keypair} {served : Served Keypair}

theorem snapshots_call
    {Value : Type} (number handle handles : Nat)
    (action : Throwing (Client Keypair) Thrown Value) :
    snapshots (page.call number handle handles action).2 = [] := by
  unfold Page.call
  split
  · rfl
  · split
    · rfl
    · rfl

theorem snapshots_newClient (number : Nat) (name : CodeUnits) (seed : Seed) :
    snapshots (page.newClient mls number name seed).2 = [] := by
  unfold Page.newClient
  split
  · rfl
  · rfl

theorem snapshots_group (number handle : Nat) (groupId : CodeUnits) :
    snapshots (page.group number handle groupId).2 = [] := by
  unfold Page.group
  split
  · rfl
  · split
    · rfl
    · rfl

variable {order : List (Bytes × Bytes)}

theorem snapshots_resumeOpen
    {position : Nat} {seed : Seed}
    (resumed : page.resumeOpen mls position seed order = some served) :
    snapshots served.2 = [] := by
  unfold Page.resumeOpen at resumed
  split at resumed
  · cases resumed
  · split at resumed
    · split at resumed
      · cases resumed
        rfl
      · split at resumed
        · cases resumed
          rfl
        · cases resumed
          rfl
    · cases resumed
  · cases resumed
    rfl

theorem Owned.moves_saveClient
    (owned : Owned page) {number handle : Nat}
    (answered : page.saveClient mls number handle order = some served) :
    Moves mls page served.1 ∧ snapshots served.2 = [] := by
  unfold Page.saveClient at answered
  split at answered
  · cases answered
    exact ⟨owned.moves, rfl⟩
  · next slot found =>
    have member := (InsertionMap.get_eq_some_iff _ _ _).mp found
    split at answered
    · cases answered
    · cases answered
      exact ⟨owned.moves, rfl⟩
    · next target succeeded =>
      cases answered
      exact ⟨(owned.moves_save member succeeded).1, rfl⟩

/-- A request other than `snapshot`, for an id that is not open. -/
theorem Owned.moves_receive
    (owned : Owned page) {number : Nat} {seed : Seed}
    {request : Request Operation} (plain : request ≠ .snapshot)
    (careful :
      ∀ id, request = .openClient id → id ∉ page.ids ∧ id ≠ prototypeName)
    (received :
      page.receive mls format number seed order request = some served) :
    Moves mls page served.1 ∧ snapshots served.2 = [] := by
  cases request with
  | newClient name =>
      cases received
      exact
        ⟨owned.moves_newClient _ _ _, snapshots_newClient number name seed⟩
  | openClient id =>
      cases received
      rcases careful id rfl with ⟨unopened, ordinary⟩
      exact ⟨owned.moves_beginOpen number unopened ordinary, rfl⟩
  | saveClient handle => exact owned.moves_saveClient received
  | keyPackage handle =>
      cases received
      exact
        ⟨owned.moves_call _ _ _ (keepsId_keyPackage seed),
          snapshots_call _ _ _ _⟩
  | createGroup handle groupId =>
      cases received
      exact
        ⟨owned.moves_call _ _ _ (keepsId_createGroup groupId seed),
          snapshots_call _ _ _ _⟩
  | joinGroup handle welcome ratchetTree groupId =>
      cases received
      exact
        ⟨owned.moves_call _ _ _ (keepsId_joinGroup _ _ _),
          snapshots_call _ _ _ _⟩
  | group handle groupId =>
      cases received
      exact ⟨owned.moves_group _ _ _, snapshots_group _ _ _⟩
  | operate handle group operation =>
      cases received
      exact
        ⟨owned.moves_call _ _ _ (keepsId_operate group operation),
          snapshots_call _ _ _ _⟩
  | snapshot => exact absurd rfl plain

/-- `snapshot` saves a client, fails, or answers with the store. -/
theorem advance_cases
    {number position : Nat}
    (advanced : page.advance mls format number position order = some served) :
    (∃ handle slot target,
        page.clients.entries[position]? = some (handle, slot) ∧
          page.save mls slot order = some (.ok target) ∧
            served = (target.setFlush number (some (position + 1)), [])) ∨
      (served.1 = page.setFlush number none ∧ snapshots served.2 = []) ∨
        page.clients.entries[position]? = none ∧
          ∃ text,
            HostStore.snapshot format page.store = .ok text ∧
              served =
                (page.setFlush number none, [(number, .snapshot text)]) := by
  unfold Page.advance at advanced
  split at advanced
  · next handle slot found =>
    split at advanced
    · cases advanced
    · cases advanced
      exact Or.inr (Or.inl ⟨rfl, rfl⟩)
    · next target succeeded =>
      cases advanced
      exact Or.inl ⟨handle, slot, target, found, succeeded, rfl⟩
  · next ended =>
    split at advanced
    · cases advanced
      exact Or.inr (Or.inl ⟨rfl, rfl⟩)
    · next text written =>
      cases advanced
      exact Or.inr (Or.inr ⟨ended, text, written, rfl⟩)

end Posts

end Mls4rn.ReactNative.SharedPage
