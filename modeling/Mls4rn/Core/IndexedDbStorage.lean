import Mls4rn.Lib.ByteString
import Mls4rn.Lib.Execution
import Mls4rn.Lib.InsertionMap
import Mls4rn.Lib.Lanes
import Mls4rn.Lib.Lists
import Mls4rn.Lib.Utf16

/-!
# The adapters of one browser profile

`IndexedDBStorageAdapter` opens version 1 of its database at its first call
and keeps the connection.  The upgrade that creates an object store runs only
for the request that creates the database, and creates the store of the
adapter that made this request.  An adapter with the same `dbName` and another
`storeName` gets a connection without its store, and every transaction it asks
for throws.

The profile below runs any number of adapters side by side.  Requests to open
one database are processed in the order they were made, calls behind
`await this.#db()` resume in the order of the calls of their adapter, and
transactions on one object store run in the order they were created.  When
adapters with the same `dbName` have the same `storeName`, no call is
rejected and every `load` answers with the last bytes saved to its place.
-/

namespace Mls4rn.Core.IndexedDbStorage

open Mls4rn.Lib
open Mls4rn.Lib.ByteString
open Mls4rn.Lib.Execution
open Mls4rn.Lib.Lanes
open Mls4rn.Lib.Utf16

/-! ## Adapters and object stores -/

/-- The options of the constructor. -/
structure Options where
  dbName : Option CodeUnits
  storeName : Option CodeUnits
deriving DecidableEq, Repr

/-- `#dbName` and `#storeName`. -/
structure Adapter where
  dbName : CodeUnits
  storeName : CodeUnits
deriving DecidableEq, Repr

/-- The constructor with its defaults. -/
def Adapter.new (options : Options) : Adapter where
  dbName := options.dbName.getD (literal "mls-ts")
  storeName := options.storeName.getD (literal "snapshots")

/-- What a record of an object store may hold, as `load` tells it apart. -/
inductive StoredValue where
  | nullish
  | uint8Array (bytes : Bytes)
  | arrayBuffer (bytes : Bytes)
  | other
deriving DecidableEq, Repr

/-- An object store with its records by key. -/
abbrev ObjectStore := InsertionMap CodeUnits StoredValue

/-- A database at version 1 with its object stores by name. -/
abbrev Database := InsertionMap CodeUnits ObjectStore

/-- The databases of the profile by name. -/
abbrev Databases := InsertionMap CodeUnits Database

/-- The `onupgradeneeded` handler. -/
def onUpgradeNeeded (adapter : Adapter) (database : Database) : Database :=
  if database.get adapter.storeName = none then
    database.set adapter.storeName .empty
  else
    database

/--
`indexedDB.open(dbName, 1)`: a database that exists has version 1 and is not
upgraded.
-/
def openDatabase (adapter : Adapter) (databases : Databases) : Databases :=
  match databases.get adapter.dbName with
  | none =>
      databases.set adapter.dbName (onUpgradeNeeded adapter .empty)
  | some _ => databases

/-- The object store that a transaction of the adapter names. -/
def objectStore (databases : Databases) (adapter : Adapter) :
    Option ObjectStore :=
  (databases.get adapter.dbName).bind fun database =>
    database.get adapter.storeName

/-- `put` in the object store of the adapter. -/
def put (databases : Databases) (adapter : Adapter) (key : CodeUnits)
    (value : StoredValue) : Databases :=
  match databases.get adapter.dbName with
  | none => databases
  | some database =>
      match database.get adapter.storeName with
      | none => databases
      | some records =>
          databases.set adapter.dbName
            (database.set adapter.storeName (records.set key value))

theorem Adapter.eq_iff (first second : Adapter) :
    first = second ↔
      first.dbName = second.dbName ∧
        first.storeName = second.storeName := by
  cases first
  cases second
  simp

/-- An opened database has one new and empty store at most. -/
theorem objectStore_openDatabase
    (opener place : Adapter) (databases : Databases) :
    objectStore (openDatabase opener databases) place =
      if databases.get opener.dbName = none ∧ place = opener then
        some .empty
      else
        objectStore databases place := by
  unfold openDatabase
  split
  · next missing =>
    simp only [objectStore, onUpgradeNeeded, InsertionMap.get_empty, if_true,
      InsertionMap.get_set, missing, true_and, Adapter.eq_iff]
    by_cases sameName : place.dbName = opener.dbName
    · rw [if_pos sameName, sameName, missing]
      simp [InsertionMap.get_set]
    · simp [sameName]
  · next database present =>
    rw [if_neg]
    rintro ⟨missing, -⟩
    rw [present] at missing
    cases missing

/-- A database that was opened exists. -/
theorem get_openDatabase
    (opener : Adapter) (databases : Databases) (name : CodeUnits) :
    (openDatabase opener databases).get name = none ↔
      databases.get name = none ∧ name ≠ opener.dbName := by
  unfold openDatabase
  split
  · next missing =>
    rw [InsertionMap.get_set]
    split
    · next same => simp [same]
    · next different => simp [different]
  · next database present =>
    refine ⟨fun missing => ⟨missing, ?_⟩, And.left⟩
    rintro rfl
    rw [present] at missing
    cases missing

/-- `put` changes one object store. -/
theorem objectStore_put
    (databases : Databases) (writer place : Adapter) (key : CodeUnits)
    (value : StoredValue) :
    objectStore (put databases writer key value) place =
      if place = writer then
        (objectStore databases writer).map fun records =>
          records.set key value
      else
        objectStore databases place := by
  unfold put
  split
  · next missing =>
    have absent : objectStore databases writer = none := by
      rw [objectStore, missing, Option.bind_none]
    split
    · next same => rw [same, absent, Option.map_none]
    · rfl
  · next database present =>
    have found :
        objectStore databases writer = database.get writer.storeName := by
      rw [objectStore, present, Option.bind_some]
    rw [found]
    split
    · next missing =>
      split
      · next same => rw [same, found, missing, Option.map_none]
      · rfl
    · next records stored =>
      rw [stored, Option.map_some]
      simp only [objectStore, InsertionMap.get_set, Adapter.eq_iff]
      by_cases sameName : place.dbName = writer.dbName
      · rw [if_pos sameName, sameName, present]
        by_cases sameStore : place.storeName = writer.storeName
        · simp [sameStore]
        · simp [sameStore, InsertionMap.get_set]
      · simp [sameName]

theorem get_put_eq_none_iff
    (databases : Databases) (writer : Adapter) (key : CodeUnits)
    (value : StoredValue) (name : CodeUnits) :
    (put databases writer key value).get name = none ↔
      databases.get name = none := by
  unfold put
  split
  · rfl
  · next database present =>
    split
    · rfl
    · rw [InsertionMap.get_set]
      split
      · next same => simp [same, present]
      · rfl

/-- The record under a key, if the object store has one. -/
def recordAt (databases : Databases) (place : Adapter) (key : CodeUnits) :
    Option StoredValue :=
  (objectStore databases place).bind fun records => records.get key

/-- Opening a database changes no record. -/
theorem recordAt_openDatabase
    (opener place : Adapter) (databases : Databases) (key : CodeUnits) :
    recordAt (openDatabase opener databases) place key =
      recordAt databases place key := by
  unfold recordAt
  rw [objectStore_openDatabase]
  split
  · next fresh =>
    simp [objectStore, fresh.1, fresh.2]
  · rfl

/-- `put` changes one record. -/
theorem recordAt_put
    (databases : Databases) {writer : Adapter} {records : ObjectStore}
    (stored : objectStore databases writer = some records)
    (place : Adapter) (key written : CodeUnits) (value : StoredValue) :
    recordAt (put databases writer written value) place key =
      if writer = place ∧ written = key then some value
      else recordAt databases place key := by
  unfold recordAt
  rw [objectStore_put, stored]
  by_cases samePlace : place = writer
  · subst samePlace
    simp [stored, InsertionMap.get_set, eq_comm]
  · simp [samePlace, Ne.symm samePlace]

/-! ## Calls -/

/-- A call of a `StorageAdapter`. -/
inductive Operation where
  | load (key : CodeUnits)
  | save (key : CodeUnits) (data : Bytes)
deriving DecidableEq, Repr

/-- Why a call is rejected. -/
inductive Rejection where
  | notFoundError
  | notBytes
deriving DecidableEq, Repr

/-- How a call ends. -/
inductive Result where
  | loaded (value : Option Bytes)
  | saved
  | rejected (reason : Rejection)
deriving DecidableEq, Repr

/-- The `onsuccess` handler of `load`. -/
def loadResult : Option StoredValue → Result
  | none => .loaded none
  | some .nullish => .loaded none
  | some (.uint8Array bytes) => .loaded (some bytes)
  | some (.arrayBuffer bytes) => .loaded (some bytes)
  | some .other => .rejected .notBytes

/-- A record that `save` wrote is read as the bytes it was given. -/
theorem loadResult_map (saved : Option Bytes) :
    loadResult (saved.map .uint8Array) = .loaded saved := by
  cases saved with
  | none => rfl
  | some bytes => rfl

/-- The result of the transaction of an operation on the records it sees. -/
def Operation.result (records : ObjectStore) : Operation → Result
  | .load key => loadResult (records.get key)
  | .save _ _ => .saved

/-- The databases behind the transaction of an operation. -/
def Operation.commit (adapter : Adapter) (databases : Databases) :
    Operation → Databases
  | .load _ => databases
  | .save key data => put databases adapter key (.uint8Array data)

variable {Index : Type}

/--
A call through one of the adapters; `since` counts the calls of the profile
that had ended when it was made.
-/
structure Call (Index : Type) where
  index : Index
  operation : Operation
  since : Nat
deriving DecidableEq, Repr

/-- A call that has ended. -/
structure Ended (Index : Type) where
  call : Call Index
  result : Result
deriving DecidableEq, Repr

/-! ## The profile -/

/-- `#dbPromise`: not asked for, pending, or fulfilled. -/
inductive Connection where
  | closed
  | opening
  | opened
deriving DecidableEq, Repr

/--
The databases, the adapters' connections, the requests to open, the calls
behind `await this.#db()`, the calls with a transaction and the calls that
have ended; `made` lists all calls in the order they were made.
-/
structure Profile (Index : Type) where
  databases : Databases
  connection : Index → Connection
  opening : List Index
  waiting : List (Call Index)
  active : List (Call Index)
  ended : List (Ended Index)
  made : List (Call Index)

/-- A profile without these databases. -/
def Profile.new : Profile Index where
  databases := .empty
  connection := fun _ => .closed
  opening := []
  waiting := []
  active := []
  ended := []
  made := []

/-- What the browser does on its own. -/
inductive Task where
  | opens (position : Nat)
  | resumes (position : Nat)
  | executes (position : Nat)
deriving DecidableEq, Repr

/-- A call, or a task of the browser. -/
inductive Event (Index : Type) where
  | call (index : Index) (operation : Operation)
  | task (task : Task)
deriving DecidableEq, Repr

/-- The adapter with an index. -/
def adapter (options : Index → Options) (index : Index) : Adapter :=
  .new (options index)

section Profiles

variable [DecidableEq Index] (options : Index → Options)

/-- `load` or `save` up to `await this.#db()`. -/
def issue (profile : Profile Index) (index : Index)
    (operation : Operation) : Profile Index :=
  let call : Call Index :=
    { index, operation, since := profile.ended.length }
  let called : Profile Index :=
    { profile with
      waiting := profile.waiting ++ [call]
      made := profile.made ++ [call] }
  match profile.connection index with
  | .closed =>
      { called with
        connection := Function.update profile.connection index .opening
        opening := profile.opening ++ [index] }
  | .opening => called
  | .opened => called

/-- The next request to open a database is processed. -/
def opens (profile : Profile Index) (position : Nat) :
    Option (Profile Index) :=
  match takeFirst (fun index => (adapter options index).dbName)
      profile.opening position with
  | none => none
  | some (index, rest) =>
      some
        { profile with
          databases := openDatabase (adapter options index) profile.databases
          connection := Function.update profile.connection index .opened
          opening := rest }

/-- A call goes on behind `await this.#db()` and creates its transaction. -/
def resumes (profile : Profile Index) (position : Nat) :
    Option (Profile Index) :=
  match takeFirst Call.index profile.waiting position with
  | none => none
  | some (call, rest) =>
      match profile.connection call.index with
      | .closed => none
      | .opening => none
      | .opened =>
          match objectStore profile.databases (adapter options call.index) with
          | none =>
              some
                { profile with
                  waiting := rest
                  ended := profile.ended ++
                    [⟨call, .rejected .notFoundError⟩] }
          | some _ =>
              some
                { profile with
                  waiting := rest
                  active := profile.active ++ [call] }

/-- The next transaction on an object store runs. -/
def executes (profile : Profile Index) (position : Nat) :
    Option (Profile Index) :=
  match takeFirst (fun call => adapter options (Call.index call))
      profile.active position with
  | none => none
  | some (call, rest) =>
      match objectStore profile.databases (adapter options call.index) with
      | none => none
      | some records =>
          some
            { profile with
              databases :=
                call.operation.commit (adapter options call.index)
                  profile.databases
              active := rest
              ended := profile.ended ++
                [⟨call, call.operation.result records⟩] }

/-- One event of the profile. -/
def step (profile : Profile Index) : Event Index → Option (Profile Index)
  | .call index operation => some (issue profile index operation)
  | .task (.opens position) => opens options profile position
  | .task (.resumes position) => resumes options profile position
  | .task (.executes position) => executes options profile position

/-- The profile as a labelled machine. -/
def machine : Machine (Profile Index) (Event Index) where
  step := step options

/-! ## What is to be answered -/

/-- The bytes that an ended call left under a key of an object store. -/
def savedBytes (entry : Ended Index) (place : Adapter) (key : CodeUnits) :
    Option Bytes :=
  match entry.call.operation, entry.result with
  | .save written data, .saved =>
      if adapter options entry.call.index = place ∧ written = key then
        some data
      else
        none
  | _, _ => none

/-- The last bytes saved under a key through any adapter of the pair. -/
def lastSaved (ended : List (Ended Index)) (place : Adapter)
    (key : CodeUnits) : Option Bytes :=
  ended.reverse.findSome? fun entry => savedBytes options entry place key

/-- The result of a call behind those that have ended before it. -/
def expected (before : List (Ended Index)) (call : Call Index) : Result :=
  match call.operation with
  | .load key =>
      .loaded (lastSaved options before (adapter options call.index) key)
  | .save _ _ => .saved

/-- Adapters with the same `dbName` have the same `storeName`. -/
def Consistent : Prop :=
  ∀ first second,
    (adapter options first).dbName = (adapter options second).dbName →
      (adapter options first).storeName = (adapter options second).storeName

/-- The calls made through one adapter. -/
def callsOf (index : Index) (calls : List (Call Index)) :
    List (Call Index) :=
  calls.filter fun call => decide (call.index = index)

/-- Nothing is left for the browser to do. -/
def Settled (profile : Profile Index) : Prop :=
  profile.opening = [] ∧ profile.waiting = [] ∧ profile.active = []

/-- The number of tasks that are left. -/
def work (profile : Profile Index) : Nat :=
  profile.opening.length + 2 * profile.waiting.length + profile.active.length

/--
The adapters with one pair of names are one key-value store: every call that
has ended got the result due at its place in the order of the ended calls,
behind all that had ended when it was made; the calls of an adapter end in
the order they were made; and the browser comes to an end with all of them.
-/
structure Independent (profile : Profile Index) : Prop where
  results :
    ∀ (position : Nat) (entry : Ended Index),
      profile.ended[position]? = some entry →
        entry.result =
          expected options (profile.ended.take position) entry.call
  since_le :
    ∀ (position : Nat) (entry : Ended Index),
      profile.ended[position]? = some entry → entry.call.since ≤ position
  inOrder :
    ∀ index,
      callsOf index (profile.ended.map Ended.call) <+:
        callsOf index profile.made
  complete :
    Settled profile →
      ∀ index,
        callsOf index (profile.ended.map Ended.call) =
          callsOf index profile.made
  progress :
    Settled profile ∨
      ∃ task next, step options profile (.task task) = some next
  work_lt :
    ∀ task next, step options profile (.task task) = some next →
      work next < work profile

omit [DecidableEq Index] in
theorem savedBytes_load
    (index : Index) (read : CodeUnits) (since : Nat) (result : Result)
    (place : Adapter) (key : CodeUnits) :
    savedBytes options ⟨⟨index, .load read, since⟩, result⟩ place key =
      none :=
  rfl

omit [DecidableEq Index] in
theorem savedBytes_save
    (index : Index) (written : CodeUnits) (data : Bytes) (since : Nat)
    (place : Adapter) (key : CodeUnits) :
    savedBytes options ⟨⟨index, .save written data, since⟩, .saved⟩
        place key =
      if adapter options index = place ∧ written = key then some data
      else none :=
  rfl

omit [DecidableEq Index] in
theorem lastSaved_concat
    (ended : List (Ended Index)) (entry : Ended Index) (place : Adapter)
    (key : CodeUnits) :
    lastSaved options (ended ++ [entry]) place key =
      (savedBytes options entry place key).or
        (lastSaved options ended place key) := by
  simp only [lastSaved, List.reverse_append, List.reverse_singleton,
    List.singleton_append, List.findSome?_cons]
  cases savedBytes options entry place key with
  | none => rfl
  | some data => rfl

variable {options} {profile next : Profile Index} {position : Nat}

/-! ## The steps -/

/-- The first call of an adapter asks for the connection. -/
theorem issue_of_closed
    {index : Index} (operation : Operation)
    (closed : profile.connection index = .closed) :
    issue profile index operation =
      { profile with
        connection := Function.update profile.connection index .opening
        opening := profile.opening ++ [index]
        waiting := profile.waiting ++
          [⟨index, operation, profile.ended.length⟩]
        made := profile.made ++
          [⟨index, operation, profile.ended.length⟩] } := by
  unfold issue
  rw [closed]

/-- The later calls share it. -/
theorem issue_of_asked
    {index : Index} (operation : Operation)
    (asked : profile.connection index ≠ .closed) :
    issue profile index operation =
      { profile with
        waiting := profile.waiting ++
          [⟨index, operation, profile.ended.length⟩]
        made := profile.made ++
          [⟨index, operation, profile.ended.length⟩] } := by
  unfold issue
  split
  · next closed => exact absurd closed asked
  · rfl
  · rfl

/-- A call changes neither the databases nor the calls before it. -/
theorem issue_keeps
    (profile : Profile Index) (index : Index) (operation : Operation) :
    (issue profile index operation).databases = profile.databases ∧
      (issue profile index operation).active = profile.active ∧
        (issue profile index operation).ended = profile.ended ∧
          (issue profile index operation).waiting =
              profile.waiting ++ [⟨index, operation, profile.ended.length⟩] ∧
            (issue profile index operation).made =
              profile.made ++
                [⟨index, operation, profile.ended.length⟩] := by
  by_cases closed : profile.connection index = .closed
  · rw [issue_of_closed operation closed]
    exact ⟨rfl, rfl, rfl, rfl, rfl⟩
  · rw [issue_of_asked operation closed]
    exact ⟨rfl, rfl, rfl, rfl, rfl⟩

theorem opens_eq_some (done : opens options profile position = some next) :
    ∃ index rest,
      takeFirst (fun index => (adapter options index).dbName)
          profile.opening position = some (index, rest) ∧
        next =
          { profile with
            databases :=
              openDatabase (adapter options index) profile.databases
            connection := Function.update profile.connection index .opened
            opening := rest } := by
  unfold opens at done
  split at done
  · cases done
  · next index rest taken =>
    cases done
    exact ⟨index, rest, taken, rfl⟩

/-- A call whose object store is missing ends as it creates its transaction. -/
theorem resumes_of_missing
    {call : Call Index} {rest : List (Call Index)}
    (taken :
      takeFirst Call.index profile.waiting position = some (call, rest))
    (opened : profile.connection call.index = .opened)
    (missing :
      objectStore profile.databases (adapter options call.index) = none) :
    resumes options profile position =
      some
        { profile with
          waiting := rest
          ended := profile.ended ++
            [⟨call, .rejected .notFoundError⟩] } := by
  simp only [resumes, taken, opened, missing]

theorem resumes_eq_some
    (done : resumes options profile position = some next) :
    ∃ call rest,
      takeFirst Call.index profile.waiting position = some (call, rest) ∧
        profile.connection call.index = .opened ∧
          (objectStore profile.databases (adapter options call.index) ≠
              none →
            next =
              { profile with
                waiting := rest
                active := profile.active ++ [call] }) := by
  unfold resumes at done
  split at done
  · cases done
  · next call rest taken =>
    split at done
    · cases done
    · cases done
    · next opened =>
      refine ⟨call, rest, taken, opened, ?_⟩
      intro present
      split at done
      · next missing => exact absurd missing present
      · cases done
        rfl

omit [DecidableEq Index] in
theorem executes_eq_some
    (done : executes options profile position = some next) :
    ∃ call rest records,
      takeFirst (fun call => adapter options (Call.index call))
          profile.active position = some (call, rest) ∧
        objectStore profile.databases (adapter options call.index) =
            some records ∧
          next =
            { profile with
              databases :=
                call.operation.commit (adapter options call.index)
                  profile.databases
              active := rest
              ended := profile.ended ++
                [⟨call, call.operation.result records⟩] } := by
  unfold executes at done
  split at done
  · cases done
  · next call rest taken =>
    split at done
    · cases done
    · next records stored =>
      cases done
      exact ⟨call, rest, records, taken, stored, rfl⟩

/-- A transaction takes no object store away. -/
theorem objectStore_commit_eq_none_iff
    (operation : Operation) (writer place : Adapter)
    (databases : Databases) :
    objectStore (operation.commit writer databases) place = none ↔
      objectStore databases place = none := by
  cases operation with
  | load key => rfl
  | save key data =>
      rw [Operation.commit, objectStore_put]
      split
      · next same => rw [same, Option.map_eq_none_iff]
      · rfl

theorem get_commit_eq_none_iff
    (operation : Operation) (writer : Adapter) (databases : Databases)
    (name : CodeUnits) :
    (operation.commit writer databases).get name = none ↔
      databases.get name = none := by
  cases operation with
  | load key => rfl
  | save key data => exact get_put_eq_none_iff databases writer key _ name

/-! ## Connections -/

variable (options) in
/--
Every database that exists has the object stores of its adapters, and a call
is only where its adapter's connection lets it be.
-/
structure Connected (profile : Profile Index) : Prop where
  founded :
    ∀ index,
      profile.databases.get (adapter options index).dbName ≠ none →
        objectStore profile.databases (adapter options index) ≠ none
  opened :
    ∀ index, profile.connection index = .opened →
      profile.databases.get (adapter options index).dbName ≠ none
  queued :
    ∀ index, profile.connection index = .opening → index ∈ profile.opening
  waiting : ∀ call ∈ profile.waiting, profile.connection call.index ≠ .closed
  active : ∀ call ∈ profile.active, profile.connection call.index = .opened

omit [DecidableEq Index] in
theorem connected_new : Connected options (Profile.new : Profile Index) where
  founded := fun _ present => absurd rfl present
  opened := fun _ impossible => by cases impossible
  queued := fun _ impossible => by cases impossible
  waiting := fun _ member => by cases member
  active := fun _ member => by cases member

theorem Connected.issue
    (connected : Connected options profile) (index : Index)
    (operation : Operation) :
    Connected options (issue profile index operation) := by
  by_cases closed : profile.connection index = .closed
  · have elsewhere :
        ∀ other, profile.connection other = .opened → other ≠ index := by
      rintro other opened rfl
      rw [closed] at opened
      cases opened
    rw [issue_of_closed operation closed]
    refine ⟨connected.founded, ?_, ?_, ?_, ?_⟩
    · intro other opened
      apply connected.opened other
      by_cases same : other = index
      · subst same
        simp at opened
      · simpa [same] using opened
    · intro other opening
      by_cases same : other = index
      · simp [same]
      · simp only [Function.update_of_ne same] at opening
        exact List.mem_append_left _ (connected.queued other opening)
    · intro call member
      by_cases same : call.index = index
      · simp [same]
      · simp only [ne_eq, Function.update_of_ne same]
        rcases List.mem_append.mp member with before | new
        · exact connected.waiting call before
        · rw [List.mem_singleton.mp new] at same
          exact absurd rfl same
    · intro call member
      have opened := connected.active call member
      simp only [Function.update_of_ne (elsewhere _ opened)]
      exact opened
  · rw [issue_of_asked operation closed]
    refine ⟨connected.founded, connected.opened, connected.queued, ?_,
      connected.active⟩
    intro call member
    rcases List.mem_append.mp member with before | new
    · exact connected.waiting call before
    · rw [List.mem_singleton.mp new]
      exact closed

theorem Connected.opens
    (consistent : Consistent options)
    (connected : Connected options profile)
    (done : opens options profile position = some next) :
    Connected options next := by
  rcases opens_eq_some done with ⟨opener, rest, taken, rfl⟩
  have kept := mem_iff_taken taken
  refine ⟨?_, ?_, ?_, ?_, ?_⟩
  · intro index present
    rw [ne_eq, get_openDatabase] at present
    rw [objectStore_openDatabase]
    split
    · exact Option.some_ne_none _
    · next notFresh =>
      apply connected.founded index
      intro missing
      have sameName :
          (adapter options index).dbName = (adapter options opener).dbName := by
        by_contra different
        exact present ⟨missing, different⟩
      exact notFresh ⟨sameName ▸ missing,
        (Adapter.eq_iff _ _).mpr ⟨sameName, consistent index opener sameName⟩⟩
  · intro index opened missing
    rcases (get_openDatabase _ _ _).mp missing with ⟨before, different⟩
    have other : index ≠ opener := by
      rintro rfl
      exact different rfl
    simp only [Function.update_of_ne other] at opened
    exact connected.opened index opened before
  · intro index opening
    by_cases same : index = opener
    · simp [same] at opening
    · simp only [Function.update_of_ne same] at opening
      exact ((kept index).mp (connected.queued index opening)).resolve_left
        same
  · intro call member
    by_cases same : call.index = opener
    · simp [same]
    · simp only [ne_eq, Function.update_of_ne same]
      exact connected.waiting call member
  · intro call member
    by_cases same : call.index = opener
    · simp [same]
    · simp only [Function.update_of_ne same]
      exact connected.active call member

/-- A call that resumes finds its object store. -/
theorem Connected.resumes_eq_some
    (connected : Connected options profile)
    (done : resumes options profile position = some next) :
    ∃ call rest,
      takeFirst Call.index profile.waiting position = some (call, rest) ∧
        profile.connection call.index = .opened ∧
          next =
            { profile with
              waiting := rest
              active := profile.active ++ [call] } := by
  rcases IndexedDbStorage.resumes_eq_some done with
    ⟨call, rest, taken, opened, moved⟩
  refine ⟨call, rest, taken, opened, moved ?_⟩
  exact connected.founded _ (connected.opened _ opened)

theorem Connected.resumes
    (connected : Connected options profile)
    (done : resumes options profile position = some next) :
    Connected options next := by
  rcases connected.resumes_eq_some done with
    ⟨call, rest, taken, opened, rfl⟩
  have kept := mem_iff_taken taken
  refine ⟨connected.founded, connected.opened, connected.queued, ?_, ?_⟩
  · intro other member
    exact connected.waiting other ((kept other).mpr (Or.inr member))
  · intro other member
    rcases List.mem_append.mp member with before | new
    · exact connected.active other before
    · rw [List.mem_singleton.mp new]
      exact opened

omit [DecidableEq Index] in
theorem Connected.executes
    (connected : Connected options profile)
    (done : executes options profile position = some next) :
    Connected options next := by
  rcases executes_eq_some done with ⟨call, rest, records, taken, -, rfl⟩
  have kept := mem_iff_taken taken
  refine ⟨?_, ?_, connected.queued, connected.waiting, ?_⟩
  · intro index present
    rw [ne_eq, objectStore_commit_eq_none_iff]
    rw [ne_eq, get_commit_eq_none_iff] at present
    exact connected.founded index present
  · intro index opened
    rw [ne_eq, get_commit_eq_none_iff]
    exact connected.opened index opened
  · intro other member
    exact connected.active other ((kept other).mpr (Or.inr member))

/-! ## Answers -/

variable (options) in
/--
The records are those of the last saves, and every call that has ended got
the result due at its place.
-/
structure Answered (profile : Profile Index) : Prop where
  records :
    ∀ place key,
      recordAt profile.databases place key =
        (lastSaved options profile.ended place key).map .uint8Array
  results :
    ∀ position entry, profile.ended[position]? = some entry →
      entry.result = expected options (profile.ended.take position) entry.call

omit [DecidableEq Index] in
theorem answered_new : Answered options (Profile.new : Profile Index) where
  records := fun _ _ => rfl
  results := fun _ _ present => by cases present

theorem Answered.issue
    (answered : Answered options profile) (index : Index)
    (operation : Operation) :
    Answered options (issue profile index operation) := by
  rcases issue_keeps profile index operation with
    ⟨databases, -, ended, -, -⟩
  constructor
  · rw [databases, ended]
    exact answered.records
  · rw [ended]
    exact answered.results

theorem Answered.opens
    (answered : Answered options profile)
    (done : opens options profile position = some next) :
    Answered options next := by
  rcases opens_eq_some done with ⟨opener, rest, -, rfl⟩
  refine ⟨?_, answered.results⟩
  intro place key
  rw [recordAt_openDatabase]
  exact answered.records place key

theorem Answered.resumes
    (connected : Connected options profile)
    (answered : Answered options profile)
    (done : resumes options profile position = some next) :
    Answered options next := by
  rcases connected.resumes_eq_some done with ⟨call, rest, -, -, rfl⟩
  exact ⟨answered.records, answered.results⟩

omit [DecidableEq Index] in
/-- A transaction gives the result that is due. -/
theorem Answered.result_eq
    (answered : Answered options profile) (call : Call Index)
    {records : ObjectStore}
    (stored :
      objectStore profile.databases (adapter options call.index) =
        some records) :
    call.operation.result records =
      expected options profile.ended call := by
  unfold expected
  cases call.operation with
  | save key data => rfl
  | load key =>
      have found := answered.records (adapter options call.index) key
      rw [recordAt, stored, Option.bind_some] at found
      rw [Operation.result, found, loadResult_map]

omit [DecidableEq Index] in
/-- A transaction leaves the records of the last saves. -/
theorem Answered.records_commit
    (answered : Answered options profile) (call : Call Index)
    {records : ObjectStore}
    (stored :
      objectStore profile.databases (adapter options call.index) =
        some records)
    (place : Adapter) (key : CodeUnits) :
    recordAt
        (call.operation.commit (adapter options call.index)
          profile.databases) place key =
      (lastSaved options
        (profile.ended ++ [⟨call, call.operation.result records⟩])
          place key).map .uint8Array := by
  rw [lastSaved_concat]
  rcases call with ⟨index, operation, since⟩
  cases operation with
  | load written =>
      rw [savedBytes_load, Option.none_or]
      exact answered.records place key
  | save written data =>
      rw [Operation.commit, recordAt_put _ stored, answered.records,
        Operation.result, savedBytes_save]
      split
      · rfl
      · rfl

omit [DecidableEq Index] in
theorem Answered.executes
    (answered : Answered options profile)
    (done : executes options profile position = some next) :
    Answered options next := by
  rcases executes_eq_some done with
    ⟨call, rest, records, -, stored, rfl⟩
  refine ⟨answered.records_commit call stored, ?_⟩
  intro index entry present
  rcases Lists.getElem?_concat_cases present with before | ⟨rfl, rfl⟩
  · have inside := (List.getElem?_eq_some_iff.mp before).1
    rw [List.take_append_of_le_length (Nat.le_of_lt inside)]
    exact answered.results index entry before
  · rw [List.take_left]
    exact answered.result_eq call stored

/-! ## The order of the calls -/

/--
The calls of an adapter pass from waiting over active to ended in the order
they were made, and none ends before one that had ended when it was made.
-/
structure Ordered (profile : Profile Index) : Prop where
  calls :
    ∀ index,
      callsOf index
          (profile.ended.map Ended.call ++ profile.active ++
            profile.waiting) =
        callsOf index profile.made
  pending :
    ∀ call ∈ profile.active ++ profile.waiting,
      call.since ≤ profile.ended.length
  ended :
    ∀ (position : Nat) (entry : Ended Index),
      profile.ended[position]? = some entry → entry.call.since ≤ position

theorem ordered_new : Ordered (Profile.new : Profile Index) where
  calls := fun _ => rfl
  pending := fun _ member => by cases member
  ended := fun _ _ present => by cases present

theorem callsOf_append (index : Index) (first second : List (Call Index)) :
    callsOf index (first ++ second) =
      callsOf index first ++ callsOf index second :=
  List.filter_append first second

/-- Taking a call out of a queue takes the first of its adapter. -/
theorem callsOf_taken
    {Lane : Type} [DecidableEq Lane] {lane : Call Index → Lane}
    (together :
      ∀ first second, first.index = second.index → lane first = lane second)
    {calls rest : List (Call Index)} {call : Call Index}
    (taken : takeFirst lane calls position = some (call, rest))
    (index : Index) :
    callsOf index calls = callsOf index [call] ++ callsOf index rest := by
  apply filter_taken taken
  intro first second chosen chosenToo
  apply together
  rw [of_decide_eq_true chosen, of_decide_eq_true chosenToo]

theorem Ordered.issue
    (ordered : Ordered profile) (index : Index) (operation : Operation) :
    Ordered (issue profile index operation) := by
  rcases issue_keeps profile index operation with
    ⟨-, active, ended, waiting, made⟩
  refine ⟨?_, ?_, ?_⟩
  · intro other
    rw [active, ended, waiting, made, ← List.append_assoc,
      callsOf_append _ (_ ++ _), ordered.calls other, callsOf_append]
  · rw [active, ended, waiting, ← List.append_assoc]
    intro call member
    rcases List.mem_append.mp member with before | new
    · exact ordered.pending call before
    · rw [List.mem_singleton.mp new]
  · rw [ended]
    exact ordered.ended

theorem Ordered.opens
    (ordered : Ordered profile)
    (done : opens options profile position = some next) :
    Ordered next := by
  rcases opens_eq_some done with ⟨opener, rest, -, rfl⟩
  exact ⟨ordered.calls, ordered.pending, ordered.ended⟩

theorem Ordered.resumes
    (connected : Connected options profile) (ordered : Ordered profile)
    (done : resumes options profile position = some next) :
    Ordered next := by
  rcases connected.resumes_eq_some done with
    ⟨call, rest, taken, -, rfl⟩
  refine ⟨?_, ?_, ordered.ended⟩
  · intro index
    have first := callsOf_taken (fun _ _ same => same) taken index
    rw [← ordered.calls index]
    simp only [callsOf_append, first, List.append_assoc]
  · intro other member
    apply ordered.pending other
    have kept := mem_iff_taken taken other
    simp only [List.mem_append, List.mem_singleton] at member ⊢
    tauto

theorem Ordered.executes
    (ordered : Ordered profile)
    (done : executes options profile position = some next) :
    Ordered next := by
  rcases executes_eq_some done with
    ⟨call, rest, records, taken, -, rfl⟩
  have kept := mem_iff_taken taken
  refine ⟨?_, ?_, ?_⟩
  · intro index
    have first :=
      callsOf_taken (fun _ _ same => congrArg (adapter options) same)
        taken index
    rw [← ordered.calls index]
    simp only [List.map_append, List.map_singleton, callsOf_append, first,
      List.append_assoc]
  · intro other member
    rw [List.length_append]
    refine Nat.le_add_right_of_le (ordered.pending other ?_)
    rcases List.mem_append.mp member with before | waiting
    · exact List.mem_append_left _ ((kept other).mpr (Or.inr before))
    · exact List.mem_append_right _ waiting
  · intro index entry present
    rcases Lists.getElem?_concat_cases present with before | ⟨rfl, rfl⟩
    · exact ordered.ended index entry before
    · exact ordered.pending call
        (List.mem_append_left _ ((kept call).mpr (Or.inl rfl)))

/-! ## Progress -/

/-- A profile with something left to do has a task that can run. -/
theorem Connected.progress (connected : Connected options profile) :
    Settled profile ∨
      ∃ task next, step options profile (.task task) = some next := by
  cases opening : profile.opening with
  | cons index rest =>
      refine Or.inr ⟨.opens 0, ?_⟩
      simp only [step, IndexedDbStorage.opens, opening, takeFirst_zero]
      exact ⟨_, rfl⟩
  | nil =>
      cases active : profile.active with
      | cons call rest =>
          have present :=
            connected.founded _
              (connected.opened _
                (connected.active call (by rw [active]; simp)))
          rcases Option.ne_none_iff_exists'.mp present with
            ⟨records, stored⟩
          refine Or.inr ⟨.executes 0, ?_⟩
          simp only [step, IndexedDbStorage.executes, active, takeFirst_zero,
            stored]
          exact ⟨_, rfl⟩
      | nil =>
          cases waiting : profile.waiting with
          | nil => exact Or.inl ⟨opening, waiting, active⟩
          | cons call rest =>
              have asked := connected.waiting call (by rw [waiting]; simp)
              refine Or.inr ⟨.resumes 0, ?_⟩
              simp only [step, IndexedDbStorage.resumes, waiting,
                takeFirst_zero]
              cases state : profile.connection call.index with
              | closed => exact absurd state asked
              | opening =>
                  have queued := connected.queued _ state
                  rw [opening] at queued
                  cases queued
              | opened =>
                  simp only []
                  split
                  · exact ⟨_, rfl⟩
                  · exact ⟨_, rfl⟩

/-- Every task leaves less to do. -/
theorem Connected.work_lt
    (connected : Connected options profile) {task : Task}
    (done : step options profile (.task task) = some next) :
    work next < work profile := by
  cases task with
  | opens position =>
      rcases opens_eq_some done with ⟨opener, rest, taken, rfl⟩
      have shorter := length_taken taken
      simp only [work]
      omega
  | resumes position =>
      rcases connected.resumes_eq_some done with
        ⟨call, rest, taken, -, rfl⟩
      have shorter := length_taken taken
      simp only [work, List.length_append, List.length_singleton]
      omega
  | executes position =>
      rcases executes_eq_some done with
        ⟨call, rest, records, taken, -, rfl⟩
      have shorter := length_taken taken
      simp only [work]
      omega

/-! ## Whole runs -/

variable (options) in
/-- What every reached state of the profile satisfies. -/
structure Sound (profile : Profile Index) : Prop where
  connected : Connected options profile
  answered : Answered options profile
  ordered : Ordered profile

theorem Sound.step
    (consistent : Consistent options) (sound : Sound options profile)
    {event : Event Index}
    (done : step options profile event = some next) :
    Sound options next := by
  cases event with
  | call index operation =>
      cases done
      exact ⟨sound.connected.issue index operation,
        sound.answered.issue index operation,
        sound.ordered.issue index operation⟩
  | task task =>
      cases task with
      | opens position =>
          exact ⟨sound.connected.opens consistent done,
            sound.answered.opens done, sound.ordered.opens done⟩
      | resumes position =>
          exact ⟨sound.connected.resumes done,
            sound.answered.resumes sound.connected done,
            sound.ordered.resumes sound.connected done⟩
      | executes position =>
          exact ⟨sound.connected.executes done,
            sound.answered.executes done, sound.ordered.executes done⟩

theorem reached_sound
    (consistent : Consistent options)
    (reached : Reaches (machine options) anyStep .new profile) :
    Sound options profile :=
  reached.invariant ⟨connected_new, answered_new, ordered_new⟩
    fun _ _ _ sound _ done => sound.step consistent done

/-- Two adapters with one `dbName` and two `storeName`s have a bad run. -/
theorem rejects_of_inconsistent
    {first second : Index}
    (sameName :
      (adapter options first).dbName = (adapter options second).dbName)
    (different :
      (adapter options first).storeName ≠
        (adapter options second).storeName) :
    ∃ profile, Reaches (machine options) anyStep .new profile ∧
      profile.ended =
        [⟨⟨second, .load [], 0⟩, .rejected .notFoundError⟩] := by
  have apart : second ≠ first := by
    rintro rfl
    exact different rfl
  have called :=
    (@Reaches.start _ _ (machine options) anyStep .new).step
      (.call first (.load [])) trivial rfl
  rw [issue_of_closed (.load []) rfl] at called
  have founded := called.step (.task (.opens 0)) trivial rfl
  have asked := founded.step (.call second (.load [])) trivial rfl
  rw [issue_of_closed (.load []) (by simp [apart, Profile.new])] at asked
  have opened := asked.step (.task (.opens 0)) trivial rfl
  have missing :
      objectStore
          (openDatabase (adapter options second)
            (openDatabase (adapter options first) .empty))
          (adapter options second) = none := by
    rw [objectStore_openDatabase, if_neg, objectStore_openDatabase, if_neg]
    · rfl
    · rintro ⟨-, same⟩
      exact different (congrArg Adapter.storeName same.symm)
    · rintro ⟨absent, -⟩
      exact ((get_openDatabase _ _ _).mp absent).2 sameName.symm
  have taken :
      takeFirst Call.index
          [⟨first, .load [], 0⟩, ⟨second, .load [], 0⟩] 1 =
        some (⟨second, .load [], 0⟩, [⟨first, .load [], 0⟩]) := by
    simp [takeFirst, apart.symm]
  exact ⟨_,
    opened.step (.task (.resumes 1)) trivial
      (resumes_of_missing taken (Function.update_self _ _ _) missing),
    rfl⟩

/--
The adapters of a profile are independent stores along every run exactly if
those with one `dbName` have one `storeName`.
-/
theorem stores_are_independent_iff (options : Index → Options) :
    (∀ profile, Reaches (machine options) anyStep .new profile →
        Independent options profile) ↔
      Consistent options := by
  constructor
  · intro independent first second sameName
    by_contra different
    rcases rejects_of_inconsistent sameName different with
      ⟨profile, reached, rejected⟩
    have due := (independent profile reached).results 0 _
      (by rw [rejected]; rfl)
    cases due
  · intro consistent profile reached
    have sound := reached_sound consistent reached
    have calls := sound.ordered.calls
    refine
      { results := sound.answered.results
        since_le := sound.ordered.ended
        inOrder := ?_
        complete := ?_
        progress := sound.connected.progress
        work_lt := fun _ _ done => sound.connected.work_lt done }
    · intro index
      rw [← calls index, List.append_assoc, callsOf_append]
      exact List.prefix_append _ _
    · rintro ⟨-, waiting, active⟩ index
      rw [← calls index, waiting, active, List.append_nil, List.append_nil]

end Profiles

/-! ## Two stores of one database -/

/-- The default store, and another store of the same database. -/
def twoStores : Bool → Options
  | false => ⟨none, none⟩
  | true => ⟨none, some (literal "drafts")⟩

/-- A save through each of them, with all that the browser then does. -/
def twoSaves : List (Event Bool) :=
  [.call false (.save (literal "k") [1]), .task (.opens 0),
    .task (.resumes 0), .task (.executes 0),
    .call true (.save (literal "k") [2]), .task (.opens 0),
    .task (.resumes 0)]

/-- The save to the store that the first upgrade did not create fails. -/
theorem second_store_is_rejected :
    ∃ profile,
      Reaches (machine twoStores) anyStep .new profile ∧
        profile.ended.map Ended.result =
            [.saved, .rejected .notFoundError] ∧
          ¬ Independent twoStores profile := by
  have observed :
      (((machine twoStores).restrict fun _ _ => true).run .new twoSaves).map
          (fun profile => profile.ended) =
        some
          [⟨⟨false, .save (literal "k") [1], 0⟩, .saved⟩,
            ⟨⟨true, .save (literal "k") [2], 1⟩,
              .rejected .notFoundError⟩] := by
    decide +kernel
  rcases Option.map_eq_some_iff.mp observed with ⟨profile, ran, found⟩
  refine ⟨profile, reaches_of_run (fun _ _ _ => trivial) ran, ?_, ?_⟩
  · rw [found]
    rfl
  · intro independent
    have due := independent.results 1 _ (by rw [found]; rfl)
    cases due

end Mls4rn.Core.IndexedDbStorage
