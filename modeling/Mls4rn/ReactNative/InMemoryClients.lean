import Mls4rn.Lib.RestrictedMap
import Mls4rn.ReactNative.FacadeSimulation
import Mls4rn.ReactNative.HostPage

/-!
# In-memory clients leave no trace in snapshots

The page keeps the clients of `newClient` and those of `openClient` in one
table, gives out the handles of both from one counter, and `snapshot` calls
`save` on all of them.  Two runs are compared: one of any requests, and one
without the `newClient` requests and without everything that was asked of the
clients and groups behind them.

The handles of the second run are others, because the counter has counted
less.  `remaining` goes through the requests of the first run and renames the
handles in them to those that the second page has given out for the same
requests.
-/

namespace Mls4rn.ReactNative.InMemoryClients

open Mls4rn.Core
open Mls4rn.Core.ClientObject hiding setGroup openClient
open Mls4rn.Lib
open Mls4rn.Lib.InsertionMap
open Mls4rn.Lib.NumberText
open Mls4rn.Lib.Throwing
open Mls4rn.Lib.Utf16
open Mls4rn.ReactNative.FacadeSimulation (Numbered)
open Mls4rn.ReactNative.HostDispatch (Host clientLetter groupLetter)
open Mls4rn.ReactNative.HostPage

variable {Provider Identity Group Seed Reply Number Value : Type}

/-! ## The requests that remain -/

/--
What is known of the handles of the first run: those that go back to a
`newClient`, and for the others the handles of the second run.
-/
structure Ledger where
  derivedClients : List CodeUnits
  derivedGroups : List CodeUnits
  clients : InsertionMap CodeUnits CodeUnits
  groups : InsertionMap CodeUnits CodeUnits

/-- Nothing was given out yet. -/
def Ledger.empty : Ledger where
  derivedClients := []
  derivedGroups := []
  clients := InsertionMap.empty
  groups := InsertionMap.empty

/--
The handle of the second run.  A text that is no handle of the first run
becomes one that begins with `?` and is no handle of the second run.
-/
def renamed (names : InsertionMap CodeUnits CodeUnits) (handle : CodeUnits) :
    CodeUnits :=
  (names.get handle).getD (0x3F :: handle)

/-- The requests that are left out. -/
def Ledger.drops (ledger : Ledger) : Request → Bool
  | .newClient _ => true
  | .onClient handle _ => decide (handle ∈ ledger.derivedClients)
  | .onGroup handle _ => decide (handle ∈ ledger.derivedGroups)
  | .openClient _ | .snapshot | .restore _ => false

/-- A request with the handle of the second run. -/
def Ledger.rename (ledger : Ledger) : Request → Request
  | .onClient handle call => .onClient (renamed ledger.clients handle) call
  | .onGroup handle call => .onGroup (renamed ledger.groups handle) call
  | .newClient name => .newClient name
  | .openClient id => .openClient id
  | .snapshot => .snapshot
  | .restore text => .restore text

theorem Ledger.rename_eq_snapshot_iff (ledger : Ledger) (request : Request) :
    ledger.rename request = .snapshot ↔ request = .snapshot := by
  cases request <;> simp [rename]

/-- A request that is left out was answered. -/
def Ledger.derive (ledger : Ledger) :
    Except CodeUnits (Answer Reply) → Ledger
  | .ok (.client handle) =>
      { ledger with derivedClients := ledger.derivedClients ++ [handle] }
  | .ok (.group (some handle)) =>
      { ledger with derivedGroups := ledger.derivedGroups ++ [handle] }
  | _ => ledger

/-- A request was answered in both runs. -/
def Ledger.pair (ledger : Ledger) :
    Except CodeUnits (Answer Reply) → Except CodeUnits (Answer Reply) → Ledger
  | .ok (.client handle), .ok (.client other) =>
      { ledger with clients := ledger.clients.set handle other }
  | .ok (.group (some handle)), .ok (.group (some other)) =>
      { ledger with groups := ledger.groups.set handle other }
  | _, _ => ledger

section Remaining

variable
  (wasm : Wasm Provider Identity Group Seed Reply) (texts : ErrorTexts)
  (format : NumberFormat Number)

/-- The requests of the second run, from a state of both runs on. -/
def remaining :
    Ledger → Page Provider Identity Group → Page Provider Identity Group →
      List (Request × Seed) → List (Request × Seed)
  | _, _, _, [] => []
  | ledger, full, reduced, (request, seed) :: requests =>
      let served := serve wasm texts format (request, seed) full
      if ledger.drops request then
        remaining (ledger.derive served.1) served.2 reduced requests
      else
        let other := (ledger.rename request, seed)
        let again := serve wasm texts format other reduced
        other ::
          remaining (ledger.pair served.1 again.1) served.2 again.2 requests

/-- The requests without the in-memory clients. -/
def withoutInMemory (requests : List (Request × Seed)) :
    List (Request × Seed) :=
  remaining wasm texts format Ledger.empty Page.start Page.start requests

/-- What the `snapshot` requests among the requests returned or threw. -/
def snapshotResults
    (requests : List (Request × Seed))
    (results : List (Except CodeUnits (Answer Reply))) :
    List (Except CodeUnits (Answer Reply)) :=
  ((requests.zip results).filter fun served =>
    decide (served.1.1 = .snapshot)).map Prod.snd

end Remaining

/-! ## What a method does to an in-memory client -/

/--
The adapter of a client, and the store as long as there is none: what no
method may change.
-/
def fixture (holding : Holding Provider Identity Group) :
    Bool × Option Storage :=
  (holding.1.hasAdapter,
    if holding.1.hasAdapter then none else some holding.2)

section Bodies

variable
  {wasm : Wasm Provider Identity Group Seed Reply} {texts : ErrorTexts}
  {seed : Seed}

theorem keeps_onObject
    {action : ClientAction Provider Identity Group Value}
    (kept : KeepsAdapter action) :
    Keeps fixture (onObject texts action) := by
  apply keeps_zoom
  intro holding
  have same := kept holding.1
  simp only [fixture, same]

theorem keeps_saveBody :
    Keeps fixture (saveBody wasm texts) := by
  rintro ⟨client, storage⟩
  unfold saveBody
  cases adapter : client.hasAdapter with
  | false =>
      rw [save_of_inMemory adapter]
  | true =>
      split
      · rfl
      · simp only [fixture, adapter, if_true]

theorem keeps_clientBody (call : ClientCall) :
    Keeps fixture (call.body wasm texts seed) := by
  cases call with
  | saveClient =>
      exact keeps_bind keeps_saveBody fun _ => keeps_pure _
  | keyPackage =>
      refine keeps_bind (keeps_onObject keepsAdapter_keyPackage)
        fun _ => ?_
      exact keeps_bind (keeps_ofExcept _) fun _ =>
        keeps_pure _
  | createGroup groupId =>
      exact keeps_bind
        (keeps_onObject (keepsAdapter_createGroup groupId)) fun _ =>
          keeps_pure _
  | joinGroup welcome ratchetTree groupId =>
      refine keeps_bind (keeps_ofExcept _) fun _ => ?_
      refine keeps_bind (keeps_ofExcept _) fun _ => ?_
      exact keeps_bind
        (keeps_onObject (keepsAdapter_joinGroup _ _ groupId)) fun _ =>
          keeps_pure _
  | group groupId =>
      exact keeps_bind (keeps_onObject (keepsAdapter_group groupId))
        fun _ => keeps_pure _

theorem keeps_groupBody (call : GroupCall) (object : Nat) :
    Keeps fixture (call.body wasm texts seed object) := by
  refine keeps_bind (keeps_ofExcept _) fun _ => ?_
  exact keeps_bind (keeps_onObject (keepsAdapter_callGroup _ _))
    fun _ => keeps_pure _

/-- In-memory clients take no part in the loop of `snapshot`. -/
theorem flush_filter
    (clients : List (MlsClient Provider Identity Group))
    (storage : Storage) :
    flush wasm (clients.filter MlsClient.hasAdapter) storage =
      flush wasm clients storage := by
  induction clients generalizing storage with
  | nil => rfl
  | cons client clients induction =>
      cases adapter : client.hasAdapter with
      | false =>
          rw [List.filter_cons_of_neg (by simp [adapter]), flush,
            save_of_inMemory adapter]
          exact induction storage
      | true =>
          rw [List.filter_cons_of_pos adapter, flush, flush]
          cases save wasm client storage with
          | error error => rfl
          | ok storage => exact induction storage

end Bodies

/-! ## Two pages that agree on the persistent clients -/

/-- Every handle of the page carries a number that the counter has passed. -/
structure Counted (page : Page Provider Identity Group) : Prop where
  clients : Numbered clientLetter page.seq page.clients
  groups : Numbered groupLetter page.seq page.groups

/-- What the ledger says of the handles of the first page is right. -/
structure Describes
    (ledger : Ledger) (page : Page Provider Identity Group) : Prop where
  derivedClients :
    ∀ handle,
      handle ∈ ledger.derivedClients ↔
        ∃ client,
          page.clients.get handle = some client ∧ client.hasAdapter = false
  derivedGroups :
    ∀ handle,
      handle ∈ ledger.derivedGroups ↔
        ∃ group,
          page.groups.get handle = some group ∧
            group.1 ∈ ledger.derivedClients
  owners :
    ∀ handle group,
      page.groups.get handle = some group → group.1 ∈ page.clients.keys
  namedClients : ∀ handle ∈ ledger.clients.keys, handle ∈ page.clients.keys
  namedGroups : ∀ handle ∈ ledger.groups.keys, handle ∈ page.groups.keys
  counted : Counted page

/--
The second page has the store of the first one, its persistent clients and
their groups, under the handles of the ledger.
-/
structure Mirrors
    (ledger : Ledger) (full reduced : Page Provider Identity Group) :
    Prop where
  describes : Describes ledger full
  core : reduced.core = full.core
  clients :
    Restricts MlsClient.hasAdapter (renamed ledger.clients) id full.clients
      reduced.clients
  groups :
    Restricts (fun group => decide (group.1 ∉ ledger.derivedClients))
      (renamed ledger.groups)
      (fun group => (renamed ledger.clients group.1, group.2)) full.groups
      reduced.groups
  counted : Counted reduced

theorem counted_start :
    Counted (Page.start : Page Provider Identity Group) where
  clients := by simp [Numbered, Page.start, Host.new]
  groups := by simp [Numbered, Page.start, Host.new]

theorem mirrors_start :
    Mirrors Ledger.empty
      (Page.start : Page Provider Identity Group) Page.start where
  describes :=
    { derivedClients := by simp [Ledger.empty, Page.start, Host.new]
      derivedGroups := by simp [Ledger.empty, Page.start, Host.new]
      owners := by simp [Page.start, Host.new]
      namedClients := by simp [Ledger.empty]
      namedGroups := by simp [Ledger.empty]
      counted := counted_start }
  core := rfl
  clients := restricts_empty
  groups := restricts_empty
  counted := counted_start

section Names

variable {names : InsertionMap CodeUnits CodeUnits} {handle : CodeUnits}

theorem renamed_set_self (other : CodeUnits) :
    renamed (names.set handle other) handle = other := by
  rw [renamed, get_set_self]
  rfl

theorem renamed_set_of_ne
    {earlier : CodeUnits} (different : earlier ≠ handle)
    (other : CodeUnits) :
    renamed (names.set handle other) earlier = renamed names earlier := by
  rw [renamed, get_set_of_ne names other different, renamed]

/-- A new entry of both tables, under handles that the ledger now pairs. -/
theorem restricts_insert_named
    {Object Image : Type} {keep : Object → Bool} {image : Object → Image}
    {table : InsertionMap CodeUnits Object}
    {part : InsertionMap CodeUnits Image}
    (restricts : Restricts keep (renamed names) image table part)
    {other : CodeUnits} {object : Object} (fresh : handle ∉ table.keys)
    (freshName : other ∉ part.keys) (visible : keep object = true) :
    Restricts keep (renamed (names.set handle other)) image
      (table.set handle object) (part.set other (image object)) := by
  have self : renamed (names.set handle other) handle = other :=
    renamed_set_self other
  have earlier :
      Restricts keep (renamed (names.set handle other)) image table part := by
    refine restricts.congr (fun _ _ => rfl) fun entry member _ => ?_
    refine ⟨renamed_set_of_ne ?_ other, rfl⟩
    intro same
    exact fresh (List.mem_map.mpr ⟨entry, member, same⟩)
  have added := earlier.insert fresh (by rwa [self]) visible
  rwa [self] at added

/-- What is named is in the table, also behind a new name and its entry. -/
theorem named_set
    {Object : Type} {table : InsertionMap CodeUnits Object}
    (named : ∀ earlier ∈ names.keys, earlier ∈ table.keys)
    (handle other : CodeUnits) (object : Object) :
    ∀ later ∈ (names.set handle other).keys,
      later ∈ (table.set handle object).keys := by
  intro later member
  rw [mem_keys_set] at member ⊢
  exact member.imp_right (named later)

/-- A text that is no handle of the first page is none of the second. -/
theorem get_renamed_eq_none
    {Object : Type} {letter : UInt16} {seq : Nat}
    {table : InsertionMap CodeUnits Object}
    (numbered : Numbered letter seq table) (readable : letter ≠ 0x3F)
    (unknown : handle ∉ names.keys) :
    table.get (renamed names handle) = none := by
  have unnamed := (get_eq_none_iff names handle).mpr unknown
  rw [renamed, unnamed, get_eq_none_iff]
  intro member
  rcases numbered _ member with ⟨number, -, equal⟩
  exact readable (List.cons.inj equal).1.symm

end Names

section Mirrors

variable {ledger : Ledger} {full reduced : Page Provider Identity Group}

/-- A client handle that does not go back to a `newClient`. -/
theorem Mirrors.client_of_kept
    (mirrors : Mirrors ledger full reduced) {handle : CodeUnits}
    (kept : handle ∉ ledger.derivedClients) :
    full.clients.get handle = none ∧
        reduced.clients.get (renamed ledger.clients handle) = none ∨
      ∃ client,
        client.hasAdapter = true ∧
          full.clients.get handle = some client ∧
            reduced.clients.get (renamed ledger.clients handle) =
              some client := by
  cases found : full.clients.get handle with
  | none =>
      have absent := (get_eq_none_iff full.clients handle).mp found
      refine Or.inl ⟨rfl, ?_⟩
      exact get_renamed_eq_none mirrors.counted.clients (by decide)
        fun named => absent (mirrors.describes.namedClients handle named)
  | some client =>
      have adapter : client.hasAdapter = true := by
        by_contra none
        exact kept ((mirrors.describes.derivedClients handle).mpr
          ⟨client, found, Bool.eq_false_of_not_eq_true none⟩)
      exact Or.inr ⟨client, adapter, rfl,
        mirrors.clients.get_of_kept found adapter⟩

/-- A group handle that does not go back to a `newClient`. -/
theorem Mirrors.group_of_kept
    (mirrors : Mirrors ledger full reduced) {handle : CodeUnits}
    (kept : handle ∉ ledger.derivedGroups) :
    full.groups.get handle = none ∧
        reduced.groups.get (renamed ledger.groups handle) = none ∨
      ∃ group,
        group.1 ∉ ledger.derivedClients ∧
          full.groups.get handle = some group ∧
            reduced.groups.get (renamed ledger.groups handle) =
              some (renamed ledger.clients group.1, group.2) := by
  cases found : full.groups.get handle with
  | none =>
      have absent := (get_eq_none_iff full.groups handle).mp found
      refine Or.inl ⟨rfl, ?_⟩
      exact get_renamed_eq_none mirrors.counted.groups (by decide)
        fun named => absent (mirrors.describes.namedGroups handle named)
  | some group =>
      have visible : group.1 ∉ ledger.derivedClients := fun derived =>
        kept ((mirrors.describes.derivedGroups handle).mpr
          ⟨group, found, derived⟩)
      exact Or.inr ⟨group, visible, rfl,
        mirrors.groups.get_of_kept found (decide_eq_true visible)⟩

/-! ## Changes of the pages -/

theorem numbered_overwrite
    {Object : Type} {letter : UInt16} {seq : Nat}
    {table : InsertionMap CodeUnits Object}
    (numbered : Numbered letter seq table) {handle : CodeUnits}
    {old : Object} (found : table.get handle = some old) (new : Object) :
    Numbered letter seq (table.set handle new) := by
  intro other member
  rcases (mem_keys_set table handle other new).mp member with rfl | older
  · exact numbered _ ((mem_keys_iff table _).mpr ⟨old, found⟩)
  · exact numbered other older

/-- Overwriting a client does not change which clients have no adapter. -/
theorem exists_inMemory_overwrite
    {table : InsertionMap CodeUnits (MlsClient Provider Identity Group)}
    {handle : CodeUnits} {old new : MlsClient Provider Identity Group}
    (found : table.get handle = some old)
    (same : new.hasAdapter = old.hasAdapter) (other : CodeUnits) :
    (∃ client,
        (table.set handle new).get other = some client ∧
          client.hasAdapter = false) ↔
      ∃ client,
        table.get other = some client ∧ client.hasAdapter = false := by
  rw [get_set]
  split
  · next equal => simp [equal, found, same]
  · rfl

variable
  {page : Page Provider Identity Group}
  {client : MlsClient Provider Identity Group}
  {holding : Holding Provider Identity Group} {group : CodeUnits × Nat}
  {body : Body Provider Identity Group (Outcome Reply)}

/-- The counter goes on. -/
theorem Counted.count (counted : Counted page) :
    Counted { page with seq := page.seq + 1 } :=
  ⟨counted.clients.mono (Nat.le_succ _), counted.groups.mono (Nat.le_succ _)⟩

theorem Counted.write
    (counted : Counted page) {handle : CodeUnits}
    (found : page.clients.get handle = some client)
    (holding : Holding Provider Identity Group) :
    Counted (written page handle holding) :=
  ⟨numbered_overwrite counted.clients found holding.1, counted.groups⟩

/-- A client has changed, and maybe the store. -/
theorem Describes.write
    (describes : Describes ledger full) {handle : CodeUnits}
    (found : full.clients.get handle = some client)
    (same : holding.1.hasAdapter = client.hasAdapter) :
    Describes ledger (written full handle holding) where
  derivedClients := fun other =>
    (describes.derivedClients other).trans
      (exists_inMemory_overwrite found same other).symm
  derivedGroups := describes.derivedGroups
  owners := fun other group filed =>
    (mem_keys_set _ _ _ _).mpr (Or.inr (describes.owners other group filed))
  namedClients := fun other named =>
    (mem_keys_set _ _ _ _).mpr (Or.inr (describes.namedClients other named))
  namedGroups := describes.namedGroups
  counted := describes.counted.write found holding

/-- A persistent client has changed, and maybe the store. -/
theorem Mirrors.write
    (mirrors : Mirrors ledger full reduced) {handle : CodeUnits}
    (adapter : client.hasAdapter = true)
    (found : full.clients.get handle = some client)
    (kept : holding.1.hasAdapter = true) :
    Mirrors ledger (written full handle holding)
      (written reduced (renamed ledger.clients handle) holding) where
  describes := mirrors.describes.write found (kept.trans adapter.symm)
  core := rfl
  clients := mirrors.clients.overwrite found adapter kept
  groups := mirrors.groups
  counted :=
    mirrors.counted.write (mirrors.clients.get_of_kept found adapter) holding

/-- An in-memory client has changed. -/
theorem Mirrors.write_inMemory
    (mirrors : Mirrors ledger full reduced) {handle : CodeUnits}
    (inMemory : client.hasAdapter = false)
    (found : full.clients.get handle = some client)
    (kept : holding.1.hasAdapter = false) (same : holding.2 = full.core) :
    Mirrors ledger (written full handle holding) reduced where
  describes := mirrors.describes.write found (kept.trans inMemory.symm)
  core := mirrors.core.trans same.symm
  clients := mirrors.clients.overwrite_hidden found inMemory kept
  groups := mirrors.groups
  counted := mirrors.counted

/-- The handle that `nextHandle` gives out. -/
def upcoming (letter : UInt16) (page : Page Provider Identity Group) :
    CodeUnits :=
  letter :: natText (page.seq + 1)

/-- A client under a new handle, and maybe another store. -/
def withClient
    (page : Page Provider Identity Group)
    (holding : Holding Provider Identity Group) :
    Page Provider Identity Group :=
  { page with
    core := holding.2
    seq := page.seq + 1
    clients := page.clients.set (upcoming clientLetter page) holding.1 }

/-- A group under a new handle. -/
def withGroup
    (page : Page Provider Identity Group) (group : CodeUnits × Nat) :
    Page Provider Identity Group :=
  { page with
    seq := page.seq + 1
    groups := page.groups.set (upcoming groupLetter page) group }

theorem Counted.withClient
    (counted : Counted full) (holding : Holding Provider Identity Group) :
    Counted (withClient full holding) :=
  ⟨counted.clients.set holding.1, counted.groups.mono (Nat.le_succ _)⟩

theorem Counted.withGroup (counted : Counted full) (group : CodeUnits × Nat) :
    Counted (withGroup full group) :=
  ⟨counted.clients.mono (Nat.le_succ _), counted.groups.set group⟩

/-- A handle in use is not the next one. -/
theorem Describes.owner_ne
    (describes : Describes ledger full) {entry : CodeUnits × CodeUnits × Nat}
    (filed : entry ∈ full.groups.entries) :
    entry.2.1 ≠ upcoming clientLetter full := by
  intro same
  have owner :=
    describes.owners entry.1 entry.2 ((get_eq_some_iff _ _ _).mpr filed)
  rw [same] at owner
  exact describes.counted.clients.fresh owner

theorem Describes.derived_ne (describes : Describes ledger full) :
    upcoming clientLetter full ∉ ledger.derivedClients := by
  intro derived
  rcases (describes.derivedClients _).mp derived with ⟨client, found, -⟩
  exact describes.counted.clients.fresh
    ((mem_keys_iff _ _).mpr ⟨client, found⟩)

/-- The clients without an adapter, when one was added. -/
theorem exists_inMemory_withClient
    (holding : Holding Provider Identity Group) (other : CodeUnits) :
    (∃ client,
        (withClient full holding).clients.get other = some client ∧
          client.hasAdapter = false) ↔
      if other = upcoming clientLetter full then
        holding.1.hasAdapter = false
      else
        ∃ client,
          full.clients.get other = some client ∧
            client.hasAdapter = false := by
  rw [withClient, get_set]
  split
  · simp
  · rfl

/-- A client was opened under a new handle. -/
theorem Describes.open_client
    (describes : Describes ledger full)
    (adapter : holding.1.hasAdapter = true) (other : CodeUnits) :
    Describes
      { ledger with
        clients := ledger.clients.set (upcoming clientLetter full) other }
      (withClient full holding) where
  derivedClients := by
    intro handle
    rw [exists_inMemory_withClient, adapter]
    split
    · next same =>
      rw [same]
      simp [describes.derived_ne]
    · exact describes.derivedClients handle
  derivedGroups := describes.derivedGroups
  owners := fun handle group filed =>
    (mem_keys_set _ _ _ _).mpr (Or.inr (describes.owners handle group filed))
  namedClients := named_set describes.namedClients _ other holding.1
  namedGroups := describes.namedGroups
  counted := describes.counted.withClient holding

/-- An in-memory client was made under a new handle. -/
theorem Describes.new_client
    (describes : Describes ledger full)
    (inMemory : holding.1.hasAdapter = false) :
    Describes
      { ledger with
        derivedClients :=
          ledger.derivedClients ++ [upcoming clientLetter full] }
      (withClient full holding) where
  derivedClients := by
    intro handle
    rw [exists_inMemory_withClient, inMemory, List.mem_append,
      List.mem_singleton]
    split
    · next same => simp [same]
    · next different =>
      rw [← describes.derivedClients handle]
      simp [different]
  derivedGroups := by
    intro handle
    rw [describes.derivedGroups handle]
    refine exists_congr fun group => and_congr_right fun filed => ?_
    have other :=
      describes.owner_ne ((get_eq_some_iff full.groups _ _).mp filed)
    simp [other]
  owners := fun handle group filed =>
    (mem_keys_set _ _ _ _).mpr (Or.inr (describes.owners handle group filed))
  namedClients := fun handle named =>
    (mem_keys_set _ _ _ _).mpr (Or.inr (describes.namedClients handle named))
  namedGroups := describes.namedGroups
  counted := describes.counted.withClient holding

theorem Mirrors.open_client
    (mirrors : Mirrors ledger full reduced)
    (adapter : holding.1.hasAdapter = true) :
    Mirrors
      { ledger with
        clients :=
          ledger.clients.set (upcoming clientLetter full)
            (upcoming clientLetter reduced) }
      (withClient full holding) (withClient reduced holding) where
  describes := mirrors.describes.open_client adapter _
  core := rfl
  clients :=
    restricts_insert_named mirrors.clients
      mirrors.describes.counted.clients.fresh mirrors.counted.clients.fresh
      adapter
  groups := by
    refine mirrors.groups.congr (fun _ _ => rfl) fun entry member _ => ?_
    refine ⟨rfl, Prod.ext ?_ rfl⟩
    exact renamed_set_of_ne (mirrors.describes.owner_ne member) _
  counted := mirrors.counted.withClient holding

theorem Mirrors.new_client
    (mirrors : Mirrors ledger full reduced)
    (inMemory : client.hasAdapter = false) :
    Mirrors
      { ledger with
        derivedClients :=
          ledger.derivedClients ++ [upcoming clientLetter full] }
      (withClient full (client, full.core)) reduced where
  describes := mirrors.describes.new_client inMemory
  core := mirrors.core
  clients :=
    mirrors.clients.insert_hidden mirrors.describes.counted.clients.fresh
      inMemory
  groups := by
    refine mirrors.groups.congr (fun entry member => ?_) fun _ _ _ =>
      ⟨rfl, rfl⟩
    have other := mirrors.describes.owner_ne member
    simp [other]
  counted := mirrors.counted

/-- The groups of some clients, when a group was added. -/
theorem exists_owned_withGroup
    (owners : List CodeUnits) (group : CodeUnits × Nat)
    (other : CodeUnits) :
    (∃ found,
        (withGroup full group).groups.get other = some found ∧
          found.1 ∈ owners) ↔
      if other = upcoming groupLetter full then group.1 ∈ owners
      else
        ∃ found, full.groups.get other = some found ∧ found.1 ∈ owners := by
  rw [withGroup, get_set]
  split
  · simp
  · rfl

/-- What does not depend on whose group it is. -/
theorem Describes.owners_withGroup
    (describes : Describes ledger full)
    (owner : group.1 ∈ full.clients.keys) {handle : CodeUnits}
    {found : CodeUnits × Nat}
    (filed : (withGroup full group).groups.get handle = some found) :
    found.1 ∈ (withGroup full group).clients.keys := by
  rw [withGroup, get_set] at filed
  split at filed
  · cases filed
    exact owner
  · exact describes.owners handle found filed

/-- A group of a persistent client was filed under a new handle. -/
theorem Describes.file_group
    (describes : Describes ledger full) (owner : group.1 ∈ full.clients.keys)
    (kept : group.1 ∉ ledger.derivedClients) (other : CodeUnits) :
    Describes
      { ledger with
        groups := ledger.groups.set (upcoming groupLetter full) other }
      (withGroup full group) where
  derivedClients := describes.derivedClients
  derivedGroups := by
    intro handle
    rw [exists_owned_withGroup]
    split
    · next same =>
      refine ⟨fun derived => ?_, fun derived => absurd derived kept⟩
      rcases (describes.derivedGroups handle).mp derived with
        ⟨found, filed, -⟩
      rw [same] at filed
      exact absurd ((mem_keys_iff _ _).mpr ⟨found, filed⟩)
        describes.counted.groups.fresh
    · exact describes.derivedGroups handle
  owners := fun _ _ filed => describes.owners_withGroup owner filed
  namedClients := describes.namedClients
  namedGroups := named_set describes.namedGroups _ other group
  counted := describes.counted.withGroup group

/-- A group of an in-memory client was filed under a new handle. -/
theorem Describes.file_derived
    (describes : Describes ledger full)
    (derived : group.1 ∈ ledger.derivedClients) :
    Describes
      { ledger with
        derivedGroups :=
          ledger.derivedGroups ++ [upcoming groupLetter full] }
      (withGroup full group) where
  derivedClients := describes.derivedClients
  derivedGroups := by
    intro handle
    rw [exists_owned_withGroup, List.mem_append, List.mem_singleton]
    split
    · next same => simp [same, derived]
    · next different =>
      rw [← describes.derivedGroups handle]
      simp [different]
  owners := by
    intro handle found filed
    rcases (describes.derivedClients _).mp derived with ⟨client, held, -⟩
    exact describes.owners_withGroup
      ((mem_keys_iff _ _).mpr ⟨client, held⟩) filed
  namedClients := describes.namedClients
  namedGroups := fun handle named =>
    (mem_keys_set _ _ _ _).mpr (Or.inr (describes.namedGroups handle named))
  counted := describes.counted.withGroup group

theorem Mirrors.file_group
    (mirrors : Mirrors ledger full reduced)
    (owner : group.1 ∈ full.clients.keys)
    (kept : group.1 ∉ ledger.derivedClients) :
    Mirrors
      { ledger with
        groups :=
          ledger.groups.set (upcoming groupLetter full)
            (upcoming groupLetter reduced) }
      (withGroup full group)
      (withGroup reduced (renamed ledger.clients group.1, group.2)) where
  describes := mirrors.describes.file_group owner kept _
  core := mirrors.core
  clients := mirrors.clients
  groups :=
    restricts_insert_named mirrors.groups
      mirrors.describes.counted.groups.fresh mirrors.counted.groups.fresh
      (decide_eq_true kept)
  counted := mirrors.counted.withGroup _

theorem Mirrors.file_derived
    (mirrors : Mirrors ledger full reduced)
    (derived : group.1 ∈ ledger.derivedClients) :
    Mirrors
      { ledger with
        derivedGroups :=
          ledger.derivedGroups ++ [upcoming groupLetter full] }
      (withGroup full group) reduced where
  describes := mirrors.describes.file_derived derived
  core := mirrors.core
  clients := mirrors.clients
  groups :=
    mirrors.groups.insert_hidden mirrors.describes.counted.groups.fresh
      (by simp [derived])
  counted := mirrors.counted

/-! ## Methods on one client -/

theorem Mirrors.file
    (mirrors : Mirrors ledger full reduced) {owner : CodeUnits}
    (present : owner ∈ full.clients.keys)
    (kept : owner ∉ ledger.derivedClients) (outcome : Outcome Reply) :
    Mirrors
      (ledger.pair (HostPage.file owner outcome full).1
        (HostPage.file (renamed ledger.clients owner) outcome reduced).1)
      (HostPage.file owner outcome full).2
      (HostPage.file (renamed ledger.clients owner) outcome reduced).2 := by
  cases outcome with
  | done => exact mirrors
  | keyPackage text => exact mirrors
  | reply reply => exact mirrors
  | group object =>
      cases object with
      | none => exact mirrors
      | some object =>
          have owned : (owner, object).1 ∈ full.clients.keys := present
          exact mirrors.file_group owned kept

theorem Mirrors.file_inMemory
    (mirrors : Mirrors ledger full reduced) {owner : CodeUnits}
    (derived : owner ∈ ledger.derivedClients) (outcome : Outcome Reply) :
    Mirrors (ledger.derive (HostPage.file owner outcome full).1)
      (HostPage.file owner outcome full).2 reduced := by
  cases outcome with
  | done => exact mirrors
  | keyPackage text => exact mirrors
  | reply reply => exact mirrors
  | group object =>
      cases object with
      | none => exact mirrors
      | some object =>
          have owned : (owner, object).1 ∈ ledger.derivedClients := derived
          exact mirrors.file_derived owned

theorem onClient_of_none
    {handle : CodeUnits} (unknown : page.clients.get handle = none)
    (body : Body Provider Identity Group (Outcome Reply)) :
    onClient handle body page =
      (.error (literal "unknown client handle: " ++ handle), page) := by
  simp only [onClient, unknown]

theorem onClient_of_error
    {handle : CodeUnits} (found : page.clients.get handle = some client)
    {message : CodeUnits}
    (thrown : body (client, page.core) = (.error message, holding)) :
    onClient handle body page =
      (.error message, written page handle holding) := by
  simp only [onClient, found, thrown]

theorem onClient_of_ok
    {handle : CodeUnits} (found : page.clients.get handle = some client)
    {outcome : Outcome Reply}
    (returned : body (client, page.core) = (.ok outcome, holding)) :
    onClient handle body page =
      HostPage.file handle outcome (written page handle holding) := by
  simp only [onClient, found, returned]

/-- A method on a client that does not go back to a `newClient`. -/
theorem Mirrors.onClient
    (mirrors : Mirrors ledger full reduced) {handle : CodeUnits}
    (kept : handle ∉ ledger.derivedClients)
    (keeps : Keeps fixture body) :
    Mirrors
      (ledger.pair (HostPage.onClient handle body full).1
        (HostPage.onClient (renamed ledger.clients handle) body reduced).1)
      (HostPage.onClient handle body full).2
      (HostPage.onClient (renamed ledger.clients handle) body reduced).2 := by
  rcases mirrors.client_of_kept kept with
    ⟨unknown, unknownToo⟩ | ⟨client, adapter, found, foundToo⟩
  · rw [onClient_of_none unknown, onClient_of_none unknownToo]
    exact mirrors
  · have adapterKept :
        (body (client, full.core)).2.1.hasAdapter = true :=
      (congrArg Prod.fst (keeps (client, full.core))).trans adapter
    have mirrored := mirrors.write adapter found adapterKept
    rcases ran : body (client, full.core) with ⟨result, holding⟩
    have ranToo := ran
    rw [← mirrors.core] at ranToo
    rw [ran] at mirrored
    cases result with
    | error message =>
        rw [onClient_of_error found ran, onClient_of_error foundToo ranToo]
        exact mirrored
    | ok outcome =>
        rw [onClient_of_ok found ran, onClient_of_ok foundToo ranToo]
        refine mirrored.file ?_ kept outcome
        exact (mem_keys_set _ _ _ _).mpr (Or.inl rfl)

/-- A method on an in-memory client. -/
theorem Mirrors.onClient_inMemory
    (mirrors : Mirrors ledger full reduced) {handle : CodeUnits}
    (derived : handle ∈ ledger.derivedClients)
    (keeps : Keeps fixture body) :
    Mirrors (ledger.derive (HostPage.onClient handle body full).1)
      (HostPage.onClient handle body full).2 reduced := by
  rcases (mirrors.describes.derivedClients handle).mp derived with
    ⟨client, found, inMemory⟩
  have same := keeps (client, full.core)
  simp only [fixture, inMemory, Prod.mk.injEq] at same
  rcases same with ⟨adapterKept, storeKept⟩
  rw [adapterKept] at storeKept
  have mirrored :=
    mirrors.write_inMemory inMemory found adapterKept
      (Option.some.inj storeKept)
  rcases ran : body (client, full.core) with ⟨result, holding⟩
  rw [ran] at mirrored
  cases result with
  | error message =>
      rw [onClient_of_error found ran]
      exact mirrored
  | ok outcome =>
      rw [onClient_of_ok found ran]
      exact mirrored.file_inMemory derived outcome

end Mirrors

/-! ## One request -/

section Steps

variable
  {wasm : Wasm Provider Identity Group Seed Reply} {texts : ErrorTexts}
  {format : NumberFormat Number} {seed : Seed}
  {ledger : Ledger} {full reduced : Page Provider Identity Group}

theorem newClient_of_error
    {name : CodeUnits} {error : MlsGroup.Thrown}
    (thrown : construct wasm seed name = .error error) :
    newClient wasm texts seed name full =
      (.error (texts.ofThrown error), { full with seq := full.seq + 1 }) := by
  unfold newClient
  rw [thrown]
  rfl

theorem newClient_of_ok
    {name : CodeUnits} {client : MlsClient Provider Identity Group}
    (constructed : construct wasm seed name = .ok client) :
    newClient wasm texts seed name full =
      (.ok (.client (upcoming clientLetter full)),
        withClient full (client, full.core)) := by
  unfold newClient
  rw [constructed]
  rfl

theorem openClient_of_error
    {id : CodeUnits} {error : MlsGroup.Thrown}
    (thrown : ClientObject.openClient wasm seed id full.core = .error error) :
    openClient wasm texts seed id full =
      (.error (texts.ofThrown error), { full with seq := full.seq + 1 }) := by
  have stored :
      openStored wasm texts seed id { full with seq := full.seq + 1 } =
        (.error (texts.ofThrown error),
          { full with seq := full.seq + 1 }) := by
    simp only [openStored, thrown]
  exact bind_of_error stored _

theorem openClient_of_ok
    {id : CodeUnits} {holding : Holding Provider Identity Group}
    (opened : ClientObject.openClient wasm seed id full.core = .ok holding) :
    openClient wasm texts seed id full =
      (.ok (.client (upcoming clientLetter full)),
        withClient full holding) := by
  have stored :
      openStored wasm texts seed id { full with seq := full.seq + 1 } =
        (.ok holding.1,
          { full with core := holding.2, seq := full.seq + 1 }) := by
    simp only [openStored, opened]
  exact bind_of_ok stored _

theorem onGroup_of_none
    {handle : CodeUnits} (unknown : full.groups.get handle = none)
    (call : GroupCall) :
    serve wasm texts format (.onGroup handle call, seed) full =
      (.error (literal "unknown group handle: " ++ handle), full) := by
  have lookup :
      HostDispatch.groupNamed handle full =
        (.error (literal "unknown group handle: " ++ handle), full) := by
    simp only [HostDispatch.groupNamed, unknown]
  exact bind_of_error lookup _

theorem onGroup_of_some
    {handle : CodeUnits} {group : CodeUnits × Nat}
    (found : full.groups.get handle = some group) (call : GroupCall) :
    serve wasm texts format (.onGroup handle call, seed) full =
      onClient group.1 (call.body wasm texts seed group.2) full := by
  have lookup :
      HostDispatch.groupNamed handle full = (.ok group, full) := by
    simp only [HostDispatch.groupNamed, found]
  exact bind_of_ok lookup _

section

variable (mirrors : Mirrors ledger full reduced)
include mirrors

/-- The counter of the first page goes on. -/
theorem Mirrors.count
    :
    Mirrors ledger { full with seq := full.seq + 1 } reduced :=
  { mirrors with
    describes :=
      { mirrors.describes with counted := mirrors.describes.counted.count } }

/-- Both stores are replaced by the same. -/
theorem Mirrors.replace_core (core : Storage) :
    Mirrors ledger { full with core } { reduced with core } where
  describes :=
    { mirrors.describes with
      counted :=
        ⟨mirrors.describes.counted.clients,
          mirrors.describes.counted.groups⟩ }
  core := rfl
  clients := mirrors.clients
  groups := mirrors.groups
  counted := ⟨mirrors.counted.clients, mirrors.counted.groups⟩

/-- Both pages flush the same clients. -/
theorem Mirrors.flush_eq :
    flush wasm (reduced.clients.entries.map Prod.snd) reduced.core =
      flush wasm (full.clients.entries.map Prod.snd) full.core := by
  rw [mirrors.clients.values, List.map_id, flush_filter, mirrors.core]

theorem Mirrors.snapshot :
    (snapshot wasm texts format reduced).1 =
        (snapshot wasm texts format full).1 ∧
      Mirrors
        (ledger.pair (snapshot wasm texts format full).1
          (snapshot wasm texts format reduced).1)
        (snapshot wasm texts format full).2
        (snapshot wasm texts format reduced).2 := by
  unfold HostPage.snapshot
  rw [mirrors.flush_eq]
  rcases flush wasm (full.clients.entries.map Prod.snd) full.core with
    ⟨result, core⟩
  cases result with
  | error error => exact ⟨rfl, mirrors.replace_core core⟩
  | ok _ =>
      dsimp only
      cases HostStore.snapshot format core with
      | error error => exact ⟨rfl, mirrors.replace_core core⟩
      | ok text => exact ⟨rfl, mirrors.replace_core core⟩

theorem Mirrors.restore (text : CodeUnits) :
    Mirrors
      (ledger.pair
        (serve wasm texts format (.restore text, seed) full).1
        (serve wasm texts format (.restore text, seed) reduced).1)
      (serve wasm texts format (.restore text, seed) full).2
      (serve wasm texts format (.restore text, seed) reduced).2 := by
  simp only [serve, HostPage.restore, mirrors.core]
  rcases HostStore.restore format full.core text with ⟨core, result⟩
  cases result with
  | error error => exact mirrors.replace_core core
  | ok _ => exact mirrors.replace_core core

end

variable (wasm texts format)

/-- A request that is left out. -/
theorem Mirrors.step_dropped
    (mirrors : Mirrors ledger full reduced) {request : Request}
    (dropped : ledger.drops request = true) (seed : Seed) :
    Mirrors
      (ledger.derive (serve wasm texts format (request, seed) full).1)
      (serve wasm texts format (request, seed) full).2 reduced := by
  cases request with
  | newClient name =>
      cases made : construct wasm seed name with
      | error error =>
          rw [serve, newClient_of_error made]
          exact mirrors.count
      | ok client =>
          rw [serve, newClient_of_ok made]
          exact mirrors.new_client (hasAdapter_of_construct made)
  | openClient id => cases dropped
  | onClient handle call =>
      rw [serve]
      exact mirrors.onClient_inMemory (of_decide_eq_true dropped)
        (keeps_clientBody call)
  | onGroup handle call =>
      rcases (mirrors.describes.derivedGroups handle).mp
        (of_decide_eq_true dropped) with ⟨group, found, derived⟩
      rw [onGroup_of_some found]
      exact mirrors.onClient_inMemory derived (keeps_groupBody call group.2)
  | snapshot => cases dropped
  | restore text => cases dropped

/-- A request that remains. -/
theorem Mirrors.step_kept
    (mirrors : Mirrors ledger full reduced) {request : Request}
    (kept : ledger.drops request = false) (seed : Seed) :
    Mirrors
      (ledger.pair (serve wasm texts format (request, seed) full).1
        (serve wasm texts format (ledger.rename request, seed) reduced).1)
      (serve wasm texts format (request, seed) full).2
      (serve wasm texts format (ledger.rename request, seed) reduced).2 := by
  cases request with
  | newClient name => cases kept
  | openClient id =>
      rw [Ledger.rename, serve]
      cases opened : ClientObject.openClient wasm seed id full.core with
      | error error =>
          have openedToo := opened
          rw [← mirrors.core] at openedToo
          rw [openClient_of_error opened, openClient_of_error openedToo]
          exact { mirrors.count with counted := mirrors.counted.count }
      | ok holding =>
          have openedToo := opened
          rw [← mirrors.core] at openedToo
          rw [openClient_of_ok opened, openClient_of_ok openedToo]
          exact mirrors.open_client (hasAdapter_of_openClient opened)
  | onClient handle call =>
      rw [Ledger.rename, serve, serve]
      exact mirrors.onClient (of_decide_eq_false kept) (keeps_clientBody call)
  | onGroup handle call =>
      rw [Ledger.rename]
      rcases mirrors.group_of_kept (of_decide_eq_false kept) with
        ⟨unknown, unknownToo⟩ | ⟨group, visible, found, foundToo⟩
      · rw [onGroup_of_none unknown, onGroup_of_none unknownToo]
        exact mirrors
      · rw [onGroup_of_some found, onGroup_of_some foundToo]
        exact mirrors.onClient visible (keeps_groupBody call group.2)
  | snapshot => exact mirrors.snapshot.2
  | restore text => exact mirrors.restore text

end Steps

/-! ## Whole runs -/

section Runs

variable
  (wasm : Wasm Provider Identity Group Seed Reply) (texts : ErrorTexts)
  (format : NumberFormat Number)

/-- The results of the `snapshot` requests, one request more. -/
theorem snapshotResults_cons
    (request : Request) (seed : Seed) (requests : List (Request × Seed))
    (result : Except CodeUnits (Answer Reply))
    (results : List (Except CodeUnits (Answer Reply))) :
    snapshotResults ((request, seed) :: requests) (result :: results) =
      if request = .snapshot then
        result :: snapshotResults requests results
      else snapshotResults requests results := by
  unfold snapshotResults
  rw [List.zip_cons_cons, List.filter_cons]
  split
  · next taken => rw [if_pos (of_decide_eq_true taken), List.map_cons]
  · next other => rw [if_neg fun same => other (decide_eq_true same)]

theorem remaining_run
    {ledger : Ledger} {full reduced : Page Provider Identity Group}
    (mirrors : Mirrors ledger full reduced)
    (requests : List (Request × Seed)) :
    let first := runAll (serve wasm texts format) requests full
    let others := remaining wasm texts format ledger full reduced requests
    let second := runAll (serve wasm texts format) others reduced
    second.2.core = first.2.core ∧
      snapshotResults others second.1 = snapshotResults requests first.1 := by
  induction requests generalizing ledger full reduced with
  | nil => exact ⟨mirrors.core, rfl⟩
  | cons head requests induction =>
      rcases head with ⟨request, seed⟩
      cases dropped : ledger.drops request with
      | true =>
          have other : request = .snapshot → False := by
            rintro rfl
            cases dropped
          have later := induction
            (mirrors.step_dropped wasm texts format dropped seed)
          simp only [remaining, dropped, if_true, runAll]
          rw [snapshotResults_cons, if_neg other]
          exact later
      | false =>
          have later := induction
            (mirrors.step_kept wasm texts format dropped seed)
          simp only [remaining, dropped, Bool.false_eq_true, if_false, runAll]
          rw [snapshotResults_cons, snapshotResults_cons, later.2]
          refine ⟨later.1, ?_⟩
          have sameKind := ledger.rename_eq_snapshot_iff request
          by_cases taken : request = .snapshot
          · rw [if_pos taken, if_pos (sameKind.mpr taken)]
            subst taken
            exact congrArg (· :: _) mirrors.snapshot.1
          · rw [if_neg taken, if_neg (sameKind.not.mpr taken)]

/--
Leaving out the in-memory clients changes neither the store nor the result of
any `snapshot`.
-/
theorem in_memory_clients_leave_no_trace (requests : List (Request × Seed)) :
    let first :=
      runAll (serve wasm texts format) requests Page.start
    let others := withoutInMemory wasm texts format requests
    let second :=
      runAll (serve wasm texts format) others Page.start
    second.2.core = first.2.core ∧
      snapshotResults others second.1 = snapshotResults requests first.1 :=
  remaining_run wasm texts format mirrors_start requests

end Runs

/-- Classes without a state, whose calls all succeed. -/
def plainWasm : Wasm Unit Unit Unit Unit Unit where
  newProvider := fun _ => ()
  newIdentity := fun _ _ => pure ()
  keyPackage := fun _ _ => pure []
  createNew := fun _ _ _ => pure ()
  join := fun _ _ _ => pure ()
  load := fun _ => pure ()
  call := fun _ _ _ => pure ()
  serializeIdentity := fun _ => .ok []
  serializeProvider := fun _ => .ok []
  identityFromBytes := fun _ _ => .ok ()
  providerFromBytes := fun _ _ => .ok ()

/--
Two clients with one name.  The second is in memory and goes with its group;
the handles of the first client and its group move up.
-/
example :
    let texts : ErrorTexts := ⟨⟨[], [], [], []⟩, []⟩
    (withoutInMemory plainWasm texts decimalFormat
        [(.openClient (literal "ann"), ()),
          (.newClient (literal "ann"), ()),
          (.onClient (literal "c2") (.createGroup (literal "room")), ()),
          (.onClient (literal "c1") (.createGroup (literal "hall")), ()),
          (.onClient (literal "c2") .saveClient, ()),
          (.onGroup (literal "g3") .update, ()),
          (.onGroup (literal "g4") .update, ()),
          (.onGroup (literal "g2") .update, ())]).map Prod.fst =
      [.openClient (literal "ann"),
        .onClient (literal "c1") (.createGroup (literal "hall")),
        .onGroup (literal "g2") .update,
        .onGroup (literal "?g2") .update] := by
  decide +kernel

end Mls4rn.ReactNative.InMemoryClients
