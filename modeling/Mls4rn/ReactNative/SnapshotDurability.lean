import Mls4rn.ReactNative.HostTasks

/-!
# What a snapshot of the page brings back

The page keeps one store for all clients, keyed by client id, while every
handle has a client object of its own.  `snapshot` saves the objects one after
the other, so with two handles for one id the one that was opened last
decides, whatever it holds.

The runs considered here open an id only while the page has no handle for it.
Then a group change that was answered before the request stays either in a
client the iterator has still to reach, or in the store.  This is the
invariant; at the end of the iteration only the store is left.  The ids of the
store can be written, so that a snapshot that comes to its end has a text.
-/

namespace Mls4rn.ReactNative.SnapshotDurability

open Mls4rn.Lib
open Mls4rn.Lib.ByteString
open Mls4rn.Lib.Execution
open Mls4rn.Lib.NumberText
open Mls4rn.Lib.PlainObject
open Mls4rn.Lib.Utf16
open Mls4rn.Core.MlsGroup (Thrown)
open Mls4rn.Core.ProviderSnapshot
  (Values recordBytes snapshotSerialize u64ToBytes)
open Mls4rn.Core.PersistentClient hiding Event machine
open Mls4rn.ReactNative.HostStore (Store)
open Mls4rn.ReactNative.HostTasks

variable {Keypair Operation Seed Number : Type}
variable (mls : StoredMls Keypair Operation Seed)
variable (format : NumberFormat Number)

/-! ## The property and the discipline -/

/--
Pushed into a new page, the snapshot gives a client that has the group,
whenever the constructor returns.
-/
def Recovered (text : CodeUnits) (change : GroupChange) : Prop :=
  ∃ store,
    HostStore.restore format InsertionMap.empty text = (store, .ok ()) ∧
      ∀ seed fresh order,
        Client.new mls change.1 seed = .ok fresh →
          ∃ reopened blob handle,
            openClient mls change.1 (store.get change.1) seed order =
                .ok (reopened, blob) ∧
              reopened.groups.get change.2 = some handle

/--
No snapshot has failed, and every one that was answered has the changes
answered before it.
-/
structure Durable (host : Host Keypair) : Prop where
  answered : ∀ post ∈ host.posts, post.outcome ≠ .snapshotFailed
  recovered :
    ∀ post ∈ host.posts, ∀ text before,
      post.outcome = .snapshot text before →
        ∀ change ∈ before, Recovered mls format text change

/-- A label that survives the envelope. -/
def Spelled (groupId : CodeUnits) : Prop :=
  isWellFormed groupId = true ∧ Utf8.startsWithByteOrderMark groupId = false

/-- A client id that survives the snapshot of the store. -/
def Storable (id : CodeUnits) : Prop :=
  id ≠ prototypeName ∧ HostStore.isWritable id = true

/-- The snapshot of every client fits in the memory of the target. -/
def Roomy (host : Host Keypair) : Prop :=
  ∀ entry ∈ host.clients.entries,
    Fits (mls.serializeKeypair entry.2.keypair)
      (snapshotSerialize entry.2.values.entries) entry.2.groups.keys

instance (host : Host Keypair) : Decidable (Roomy mls host) :=
  inferInstanceAs (Decidable (∀ entry ∈ host.clients.entries, _))

/--
An id is opened only while no handle of the page is for it, and survives the
snapshot of the store.  Groups are entered under labels that survive the
envelope and, behind a welcome, spell the identifier of the joined group.
While a snapshot is taken the clients fit in memory.  Nothing is pushed into
the page.
-/
def Disciplined (host : Host Keypair) : Event Operation Seed → Prop
  | .receive _ (.openClient id) _ _ =>
      Storable id ∧ ∀ handle, host.ownerOf handle ≠ some id
  | .receive _ (.createGroup _ groupId) _ _ => Spelled groupId
  | .receive _ (.joinGroup handle welcome ratchetTree groupId) _ _ =>
      Spelled groupId ∧
        ∀ client joined values,
          host.clients.get handle = some client →
            mls.join welcome ratchetTree client.values =
                (.ok joined, values) →
              Utf8.encode groupId = joined
  | .receive _ .snapshot _ _ => Roomy mls host
  | .receive _ (.restore _) _ _ => False
  | .resumeSnapshot _ _ => Roomy mls host
  | _ => True

/-! ## Clients -/

/-- A client whose snapshots can be opened again. -/
structure Good (client : Client Keypair) : Prop where
  standing : Standing mls client.id client
  reloadable : Reloadable client

/-- A client behind a call, compared with the client before it. -/
structure Extends (client reached : Client Keypair) : Prop where
  id : reached.id = client.id
  good : Good mls reached
  grown : ∀ groupId ∈ client.groups.keys, groupId ∈ reached.groups.keys

variable {mls}

variable
  {client : Client Keypair} {groupId : CodeUnits} {handle : Nat}
  {ownerOf : Nat → Option CodeUnits} {order : List (Bytes × Bytes)}

theorem good_new
    {id : CodeUnits} {seed : Seed}
    (constructed : Client.new mls id seed = .ok client) :
    client.id = id ∧ Good mls client := by
  have standing := standing_new constructed
  rcases Throwing.bind_eq_ok constructed with ⟨keypair, _, stored⟩
  rcases Throwing.bind_eq_ok stored with ⟨values, _, returned⟩
  cases returned
  refine ⟨rfl, standing, ?_⟩
  intro groupId handle present
  cases present

/-- A call that touches the storage alone. -/
theorem Good.extends_onValues
    {Value : Type} (good : Good mls client)
    {action : Throwing Values Thrown Value}
    (keeps : KeepsGroups mls.holdsGroup action) :
    Extends mls client (onValues action client).2 := by
  have standing := good.standing.onValues keeps
  rw [onValues_apply] at standing ⊢
  exact ⟨rfl, ⟨standing, good.reloadable⟩, fun _ member => member⟩

theorem reloadable_set
    (reloadable : Reloadable client)
    (spelled : Spelled groupId) (values : Values) :
    Reloadable
      { client with
        values := values
        groups := client.groups.set groupId (Utf8.encode groupId) } := by
  intro label handle present
  rw [InsertionMap.get_set] at present
  split at present
  · next same =>
    cases present
    rw [same]
    exact ⟨spelled.1, spelled.2, rfl⟩
  · exact reloadable label handle present

theorem Good.extends_createGroup
    (good : Good mls client) (spelled : Spelled groupId) (seed : Seed) :
    Extends mls client (createGroup mls groupId seed client).2 := by
  have standing := good.standing.createGroup groupId seed
  rw [createGroup_apply] at standing ⊢
  split at standing
  · exact ⟨rfl, ⟨standing, good.reloadable⟩, fun _ member => member⟩
  · refine ⟨rfl, ⟨standing, reloadable_set good.reloadable spelled _⟩, ?_⟩
    intro label member
    exact (InsertionMap.mem_keys_set _ _ _ _).mpr (Or.inr member)

theorem Good.extends_joinGroup
    (good : Good mls client) {welcome ratchetTree : Bytes}
    (spelled : Spelled groupId)
    (named :
      ∀ joined values,
        mls.join welcome ratchetTree client.values = (.ok joined, values) →
          Utf8.encode groupId = joined) :
    Extends mls client
      (joinGroup mls welcome ratchetTree (some groupId) client).2 := by
  have standing := good.standing.joinGroup welcome ratchetTree (some groupId)
  rw [joinGroup_apply] at standing ⊢
  split at standing
  · exact ⟨rfl, ⟨standing, good.reloadable⟩, fun _ member => member⟩
  · next joined values succeeded =>
    have spells := named joined values succeeded
    subst spells
    refine ⟨rfl, ⟨standing, reloadable_set good.reloadable spelled _⟩, ?_⟩
    intro label member
    exact (InsertionMap.mem_keys_set _ _ _ _).mpr (Or.inr member)

theorem mem_keys_createGroup
    {seed : Seed} {client reached : Client Keypair} {handle : Bytes}
    (created : createGroup mls groupId seed client = (.ok handle, reached)) :
    groupId ∈ reached.groups.keys := by
  rw [createGroup_apply] at created
  split at created
  · cases created
  · cases created
    exact (InsertionMap.mem_keys_set _ _ _ _).mpr (Or.inl rfl)

theorem mem_keys_joinGroup
    {welcome ratchetTree : Bytes}
    {client reached : Client Keypair} {handle : Bytes}
    (joined :
      joinGroup mls welcome ratchetTree (some groupId) client =
        (.ok handle, reached)) :
    groupId ∈ reached.groups.keys := by
  rw [joinGroup_apply] at joined
  split at joined
  · cases joined
  · cases joined
    exact (InsertionMap.mem_keys_set _ _ _ _).mpr (Or.inl rfl)

/-! ## Who owns which handle -/

theorem ownerOf_of_client
    {host : Host Keypair} (found : host.clients.get handle = some client) :
    host.ownerOf handle = some client.id := by
  rw [Host.ownerOf, found]

theorem ownerOf_of_opening
    {host : Host Keypair} {opening : Opening Keypair}
    (absent : host.clients.get handle = none)
    (pending : host.opens handle = some opening) :
    host.ownerOf handle = some opening.id := by
  rw [Host.ownerOf, absent]
  simp only [pending, Option.map_some]

theorem ownerOf_eq_none
    {host : Host Keypair} (free : host.ownerOf handle = none) :
    host.clients.get handle = none ∧ host.opens handle = none := by
  rw [Host.ownerOf] at free
  split at free
  · cases free
  · next absent => exact ⟨absent, Option.map_eq_none_iff.mp free⟩

theorem opens_setOpen
    (host : Host Keypair) (handle other : Nat)
    (opening : Option (Opening Keypair)) :
    (host.setOpen handle opening).opens other =
      if other = handle then opening else host.opens other :=
  Function.update_apply _ _ _ _

theorem ownerOf_setOpen
    {host : Host Keypair} (absent : host.clients.get handle = none)
    (opening : Option (Opening Keypair)) :
    (host.setOpen handle opening).ownerOf =
      Function.update host.ownerOf handle (opening.map Opening.id) := by
  funext other
  by_cases same : other = handle
  · subst same
    have missing : (host.setOpen other opening).clients.get other = none :=
      absent
    rw [Function.update_self, Host.ownerOf, missing]
    simp only [opens_setOpen, if_pos]
  · rw [Function.update_of_ne same]
    simp only [Host.ownerOf, opens_setOpen, if_neg same]
    rfl

theorem ownerOf_setClient
    (host : Host Keypair) (handle : Nat) (client : Client Keypair) :
    (host.setClient handle client).ownerOf =
      Function.update host.ownerOf handle (some client.id) := by
  funext other
  have found :
      (host.setClient handle client).clients.get other =
        if other = handle then some client else host.clients.get other :=
    InsertionMap.get_set _ _ _ _
  by_cases same : other = handle
  · rw [if_pos same] at found
    rw [ownerOf_of_client found, same, Function.update_self]
  · rw [if_neg same] at found
    rw [Host.ownerOf, found, Function.update_of_ne same]
    rfl

/-- Handles are numbered, and no two of them are for one client id. -/
structure Owners (seq : Nat) (ownerOf : Nat → Option CodeUnits) :
    Prop where
  numbered : ∀ handle, seq < handle → ownerOf handle = none
  single :
    ∀ first second id,
      ownerOf first = some id → ownerOf second = some id → first = second
  storable : ∀ handle id, ownerOf handle = some id → Storable id

theorem Owners.later
    {seq later : Nat} (owners : Owners seq ownerOf) (increased : seq ≤ later) :
    Owners later ownerOf :=
  ⟨fun handle beyond => owners.numbered handle (by omega),
    owners.single, owners.storable⟩

/-- The next handle, for an id that no handle is for. -/
theorem Owners.allocate
    {seq : Nat} (owners : Owners seq ownerOf) {id : CodeUnits}
    (storable : Storable id) (unowned : ∀ handle, ownerOf handle ≠ some id) :
    Owners (seq + 1) (Function.update ownerOf (seq + 1) (some id)) := by
  constructor
  · intro handle beyond
    rw [Function.update_of_ne (by omega)]
    exact owners.numbered handle (by omega)
  · intro first second other firstOwner secondOwner
    rw [Function.update_apply] at firstOwner secondOwner
    split at firstOwner
    · next firstNew =>
      cases firstOwner
      split at secondOwner
      · next secondNew => rw [firstNew, secondNew]
      · exact absurd secondOwner (unowned second)
    · split at secondOwner
      · cases secondOwner
        exact absurd firstOwner (unowned first)
      · exact owners.single first second other firstOwner secondOwner
  · intro handle other owner
    rw [Function.update_apply] at owner
    split at owner
    · cases owner
      exact storable
    · exact owners.storable handle other owner

/-- A handle that is given up. -/
theorem Owners.release
    {seq : Nat} (owners : Owners seq ownerOf) (handle : Nat) :
    Owners seq (Function.update ownerOf handle none) := by
  have kept :
      ∀ other id,
        Function.update ownerOf handle none other = some id →
          ownerOf other = some id := by
    intro other id owner
    rw [Function.update_apply] at owner
    split at owner
    · cases owner
    · exact owner
  constructor
  · intro other beyond
    rw [Function.update_apply, owners.numbered other beyond, ite_self]
  · intro first second id firstOwner secondOwner
    exact owners.single first second id (kept _ _ firstOwner)
      (kept _ _ secondOwner)
  · intro other id owner
    exact owners.storable other id (kept _ _ owner)

variable (mls)

/--
Every handle of the page is in one place and is the only one for its client
id; the store has entries for these ids alone.
-/
structure Ownership (host : Host Keypair) : Prop where
  owners : Owners host.seq host.ownerOf
  apart :
    ∀ handle client,
      host.clients.get handle = some client → host.opens handle = none
  good :
    ∀ handle client,
      host.clients.get handle = some client → Good mls client
  built :
    ∀ handle number client,
      host.opens handle = some (.built number client) → Good mls client
  loaded :
    ∀ handle number id blob,
      host.opens handle = some (.loaded number id blob) →
        blob = none ∧ host.store.get id = none
  stored :
    ∀ id blob,
      host.store.get id = some blob → ∃ handle, host.ownerOf handle = some id

variable {mls}

section Ownership

variable {host : Host Keypair}

theorem Ownership.absent
    (owned : Ownership mls host)
    {handle : Nat} {opening : Opening Keypair}
    (pending : host.opens handle = some opening) :
    host.clients.get handle = none := by
  cases found : host.clients.get handle with
  | none => rfl
  | some client =>
      rw [owned.apart handle client found] at pending
      cases pending

/-- A new request for an id that no handle is for. -/
theorem Ownership.beginOpen
    (owned : Ownership mls host)
    (number : Nat) {id : CodeUnits} (storable : Storable id)
    (unowned : ∀ handle, host.ownerOf handle ≠ some id) :
    Ownership mls (host.beginOpen number id) := by
  have free := owned.owners.numbered (host.seq + 1) (Nat.lt_succ_self _)
  rcases ownerOf_eq_none free with ⟨absent, idle⟩
  have opens :
      ∀ other,
        (host.beginOpen number id).opens other =
          if other = host.seq + 1 then
            some (.loaded number id (host.store.get id))
          else host.opens other :=
    fun other => opens_setOpen { host with seq := host.seq + 1 } _ other _
  have owners :
      (host.beginOpen number id).ownerOf =
        Function.update host.ownerOf (host.seq + 1) (some id) :=
    @ownerOf_setOpen _ _ { host with seq := host.seq + 1 } absent _
  have missing : host.store.get id = none := by
    cases present : host.store.get id with
    | none => rfl
    | some blob =>
        rcases owned.stored id blob present with ⟨handle, owner⟩
        exact absurd owner (unowned handle)
  constructor
  · rw [owners]
    exact owned.owners.allocate storable unowned
  · intro handle client found
    change host.clients.get handle = some client at found
    have different : handle ≠ host.seq + 1 := by
      rintro rfl
      rw [absent] at found
      cases found
    rw [opens, if_neg different]
    exact owned.apart handle client found
  · exact owned.good
  · intro handle pendingNumber client pending
    rw [opens] at pending
    split at pending
    · cases pending
    · exact owned.built handle pendingNumber client pending
  · intro handle pendingNumber other blob pending
    rw [opens] at pending
    split at pending
    · cases pending
      exact ⟨missing, missing⟩
    · exact owned.loaded handle pendingNumber other blob pending
  · intro other blob present
    rcases owned.stored other blob present with ⟨handle, owner⟩
    refine ⟨handle, ?_⟩
    have old : handle ≠ host.seq + 1 := by
      rintro rfl
      rw [free] at owner
      cases owner
    rw [owners, Function.update_of_ne old]
    exact owner

/-- The owner of a pending request. -/
theorem Ownership.pendingOwner
    (owned : Ownership mls host)
    {handle : Nat} {opening : Opening Keypair}
    (pending : host.opens handle = some opening) :
    host.ownerOf handle = some opening.id :=
  ownerOf_of_opening (owned.absent pending) pending

/-- Opening the client failed, and nothing was stored. -/
theorem Ownership.abandon
    (owned : Ownership mls host)
    {handle number : Nat} {id : CodeUnits} {blob : Option Bytes}
    (pending : host.opens handle = some (.loaded number id blob)) :
    Ownership mls (host.setOpen handle none) := by
  have absent := owned.absent pending
  have owner := owned.pendingOwner pending
  have owners := ownerOf_setOpen absent none
  constructor
  · rw [owners]
    exact owned.owners.release handle
  · intro other client found
    rw [opens_setOpen, owned.apart other client found, ite_self]
  · exact owned.good
  · intro other pendingNumber client opening
    rw [opens_setOpen] at opening
    split at opening
    · cases opening
    · exact owned.built other pendingNumber client opening
  · intro other pendingNumber otherId content opening
    rw [opens_setOpen] at opening
    split at opening
    · cases opening
    · exact owned.loaded other pendingNumber otherId content opening
  · intro otherId content present
    rcases owned.stored otherId content present with ⟨other, otherOwner⟩
    refine ⟨other, ?_⟩
    have different : other ≠ handle := by
      rintro rfl
      rw [owner] at otherOwner
      cases otherOwner
      have missing := (owned.loaded _ _ _ _ pending).2
      have stored : host.store.get id = some content := present
      rw [missing] at stored
      cases stored
    rw [owners, Function.update_of_ne different]
    exact otherOwner

/-- Another entry of the store is untouched. -/
theorem get_put_of_ne
    (host : Host Keypair) {id other : CodeUnits} (blob : Bytes)
    (different : other ≠ id) :
    (host.put id blob).store.get other = host.store.get other :=
  InsertionMap.get_set_of_ne _ _ different

/-- A client of the page is saved. -/
theorem Ownership.put
    (owned : Ownership mls host)
    {handle : Nat} {client : Client Keypair}
    (found : host.clients.get handle = some client) (blob : Bytes) :
    Ownership mls (host.put client.id blob) := by
  have owner := ownerOf_of_client found
  refine ⟨owned.owners, owned.apart, owned.good, owned.built, ?_, ?_⟩
  · intro other number id content pending
    have different : id ≠ client.id := by
      rintro rfl
      have same :=
        owned.owners.single _ _ _ owner (owned.pendingOwner pending)
      subst same
      have absent := owned.absent pending
      rw [found] at absent
      cases absent
    rw [get_put_of_ne host blob different]
    exact owned.loaded other number id content pending
  · intro id content present
    by_cases same : id = client.id
    · exact ⟨handle, same ▸ owner⟩
    · rw [get_put_of_ne host blob same] at present
      exact owned.stored id content present

/-- A new client is built and saved. -/
theorem Ownership.build
    (owned : Ownership mls host)
    {handle number : Nat} {client : Client Keypair} {blob : Option Bytes}
    (pending : host.opens handle = some (.loaded number client.id blob))
    (good : Good mls client) (written : Bytes) :
    Ownership mls
      ((host.put client.id written).setOpen handle
        (some (.built number client))) := by
  have absent := owned.absent pending
  have owner := owned.pendingOwner pending
  have owners :
      ((host.put client.id written).setOpen handle
          (some (.built number client))).ownerOf = host.ownerOf := by
    refine (@ownerOf_setOpen _ _ (host.put client.id written) absent _).trans
      ?_
    exact (congrArg (Function.update host.ownerOf handle) owner.symm).trans
      (Function.update_eq_self handle host.ownerOf)
  constructor
  · rw [owners]
    exact owned.owners
  · intro other otherClient found
    have different : other ≠ handle := by
      rintro rfl
      have present : host.clients.get other = some otherClient := found
      rw [absent] at present
      cases present
    rw [opens_setOpen, if_neg different]
    exact owned.apart other otherClient found
  · exact owned.good
  · intro other otherNumber otherClient opening
    rw [opens_setOpen] at opening
    split at opening
    · cases opening
      exact good
    · exact owned.built other otherNumber otherClient opening
  · intro other otherNumber id content opening
    rw [opens_setOpen] at opening
    split at opening
    · cases opening
    · next different =>
      have otherOwner := owned.pendingOwner opening
      have distinct : id ≠ client.id := by
        rintro rfl
        exact different (owned.owners.single _ _ _ otherOwner owner)
      refine ⟨(owned.loaded _ _ _ _ opening).1, ?_⟩
      exact (get_put_of_ne host written distinct).trans
        (owned.loaded _ _ _ _ opening).2
  · intro id content present
    rw [owners]
    by_cases same : id = client.id
    · exact ⟨handle, same ▸ owner⟩
    · exact owned.stored id content
        ((get_put_of_ne host written same).symm.trans present)

/-- The client becomes available under its handle. -/
theorem Ownership.register
    (owned : Ownership mls host)
    {handle number : Nat} {client : Client Keypair}
    (pending : host.opens handle = some (.built number client)) :
    Ownership mls
      ((host.setOpen handle none).setClient handle client) := by
  have absent := owned.absent pending
  have owner := owned.pendingOwner pending
  have owners :
      ((host.setOpen handle none).setClient handle client).ownerOf =
        host.ownerOf := by
    rw [ownerOf_setClient, ownerOf_setOpen absent, Function.update_idem]
    exact (congrArg (Function.update host.ownerOf handle) owner.symm).trans
      (Function.update_eq_self handle host.ownerOf)
  have clients :
      ∀ other,
        ((host.setOpen handle none).setClient handle client).clients.get
            other =
          if other = handle then some client
          else host.clients.get other :=
    fun other => InsertionMap.get_set _ _ _ _
  have opens :
      ∀ other,
        ((host.setOpen handle none).setClient handle client).opens other =
          if other = handle then none else host.opens other :=
    fun other => opens_setOpen host handle other none
  constructor
  · rw [owners]
    exact owned.owners
  · intro other otherClient found
    rw [clients] at found
    rw [opens]
    split at found
    · next same => rw [if_pos same]
    · rw [owned.apart other otherClient found, ite_self]
  · intro other otherClient found
    rw [clients] at found
    split at found
    · cases found
      exact owned.built handle number client pending
    · exact owned.good other otherClient found
  · intro other otherNumber otherClient opening
    rw [opens] at opening
    split at opening
    · cases opening
    · exact owned.built other otherNumber otherClient opening
  · intro other otherNumber id content opening
    rw [opens] at opening
    split at opening
    · cases opening
    · exact owned.loaded other otherNumber id content opening
  · rw [owners]
    exact owned.stored

/-- A client of the page is changed by a call. -/
theorem Ownership.grow
    (owned : Ownership mls host)
    {handle : Nat} {client reached : Client Keypair}
    (found : host.clients.get handle = some client)
    (extended : Extends mls client reached) :
    Ownership mls (host.setClient handle reached) := by
  have owner := ownerOf_of_client found
  have owners : (host.setClient handle reached).ownerOf = host.ownerOf := by
    rw [ownerOf_setClient, extended.id, ← owner, Function.update_eq_self]
  have clients :
      ∀ other,
        (host.setClient handle reached).clients.get other =
          if other = handle then some reached
          else host.clients.get other :=
    fun other => InsertionMap.get_set _ _ _ _
  refine ⟨?_, ?_, ?_, owned.built, owned.loaded, ?_⟩
  · rw [owners]
    exact owned.owners
  · intro other otherClient present
    rw [clients] at present
    split at present
    · next same =>
      subst same
      exact owned.apart other client found
    · exact owned.apart other otherClient present
  · intro other otherClient present
    rw [clients] at present
    split at present
    · cases present
      exact extended.good
    · exact owned.good other otherClient present
  · rw [owners]
    exact owned.stored

end Ownership

/-! ## Where an answered change is -/

/-- A client of the page has the group. -/
def Entered (host : Host Keypair) (change : GroupChange) : Prop :=
  ∃ handle client,
    host.clients.get handle = some client ∧
      client.id = change.1 ∧ change.2 ∈ client.groups.keys

/-- The iterator has still to reach a client with this id. -/
def Ahead (host : Host Keypair) (position : Nat) (id : CodeUnits) : Prop :=
  ∃ index handle client,
    position ≤ index ∧
      host.clients.entries[index]? = some (handle, client) ∧ client.id = id

variable (mls)

/-- The store has the snapshot of a client with the group. -/
def Kept (store : Store) (change : GroupChange) : Prop :=
  ∃ client order blob,
    store.get change.1 = some blob ∧
      client.id = change.1 ∧ Good mls client ∧
        saved mls client order = some (.ok blob) ∧
          change.2 ∈ client.groups.keys

/-- The change is ahead of the iterator or in the store. -/
def Covered
    (host : Host Keypair) (position : Nat) (change : GroupChange) : Prop :=
  Entered host change ∧
    (Ahead host position change.1 ∨ Kept mls host.store change)

/-- The changes answered so far are not lost. -/
structure Coverage (host : Host Keypair) : Prop where
  acknowledged : ∀ change ∈ host.acknowledged, Entered host change
  flushes :
    ∀ number flush,
      host.flushes number = some flush →
        ∀ change ∈ flush.before, Covered mls host flush.position change
  posts : Durable mls format host

/-- A step of the page after which nothing is lost. -/
structure Carries (source target : Host Keypair) : Prop where
  entered : ∀ change, Entered source change → Entered target change
  covered :
    ∀ position change,
      Covered mls source position change → Covered mls target position change

variable {mls format}

theorem Coverage.carry
    {source target : Host Keypair} (coverage : Coverage mls format source)
    (carries : Carries mls source target)
    (acknowledged : target.acknowledged = source.acknowledged)
    (flushes : target.flushes = source.flushes)
    (posts : target.posts = source.posts) :
    Coverage mls format target := by
  constructor
  · intro change member
    rw [acknowledged] at member
    exact carries.entered change (coverage.acknowledged change member)
  · intro number flush pending change member
    rw [flushes] at pending
    exact carries.covered _ _
      (coverage.flushes number flush pending change member)
  · constructor
    · rw [posts]
      exact coverage.posts.answered
    · rw [posts]
      exact coverage.posts.recovered

theorem carries_of_same
    {source target : Host Keypair}
    (clients : target.clients = source.clients)
    (store : target.store = source.store) :
    Carries mls source target := by
  constructor
  · intro change entered
    unfold Entered
    rw [clients]
    exact entered
  · intro position change covered
    unfold Covered Entered Ahead
    rw [clients, store]
    exact covered

/-- The client that has the group is the one with the id. -/
theorem Ownership.mem_keys_of_entered
    {host : Host Keypair} (owned : Ownership mls host)
    (found : host.clients.get handle = some client)
    {change : GroupChange} (entered : Entered host change)
    (same : change.1 = client.id) :
    change.2 ∈ client.groups.keys := by
  rcases entered with ⟨other, holder, present, named, member⟩
  have handles : other = handle :=
    owned.owners.single other handle client.id
      ((ownerOf_of_client present).trans (congrArg some (named.trans same)))
      (ownerOf_of_client found)
  subst handles
  rw [found] at present
  cases present
  exact member

theorem Ahead.setClient
    {host : Host Keypair} {position : Nat} {id : CodeUnits}
    (ahead : Ahead host position id)
    (same : ∀ old, host.clients.get handle = some old → client.id = old.id) :
    Ahead (host.setClient handle client) position id := by
  rcases ahead with ⟨index, other, old, reachable, present, named⟩
  have moved :
      (host.setClient handle client).clients.entries[index]? =
        some (other, if other = handle then client else old) :=
    InsertionMap.getElem_set_entries host.clients present handle client
  refine ⟨index, other, _, reachable, moved, ?_⟩
  split
  · next equal =>
    subst equal
    have found : host.clients.get other = some old :=
      (InsertionMap.get_eq_some_iff _ _ _).mpr (List.mem_of_getElem? present)
    rw [same old found]
    exact named
  · exact named

/-- A client is put under a handle, in place of one with fewer groups. -/
theorem carries_setClient
    {host : Host Keypair}
    (same : ∀ old, host.clients.get handle = some old → client.id = old.id)
    (grown :
      ∀ old, host.clients.get handle = some old →
        ∀ groupId ∈ old.groups.keys, groupId ∈ client.groups.keys) :
    Carries mls host (host.setClient handle client) := by
  have entered :
      ∀ change, Entered host change →
        Entered (host.setClient handle client) change := by
    rintro change ⟨other, old, found, named, member⟩
    by_cases equal : other = handle
    · subst equal
      exact ⟨other, client, InsertionMap.get_set_self _ _ _,
        (same old found).trans named, grown old found _ member⟩
    · exact ⟨other, old,
        (InsertionMap.get_set_of_ne _ _ equal).trans found, named, member⟩
  refine ⟨entered, ?_⟩
  rintro position change ⟨present, ahead | kept⟩
  · exact ⟨entered change present, Or.inl (ahead.setClient same)⟩
  · exact ⟨entered change present, Or.inr kept⟩

/-- A client of the page is saved. -/
theorem carries_put
    {host : Host Keypair} (owned : Ownership mls host)
    (found : host.clients.get handle = some client) {blob : Bytes}
    (written : saved mls client order = some (.ok blob)) :
    Carries mls host (host.put client.id blob) := by
  refine ⟨fun _ entered => entered, ?_⟩
  rintro position change ⟨entered, ahead | kept⟩
  · exact ⟨entered, Or.inl ahead⟩
  · refine ⟨entered, Or.inr ?_⟩
    by_cases same : change.1 = client.id
    · refine ⟨client, order, blob, ?_, same.symm,
        owned.good handle client found, written,
        owned.mem_keys_of_entered found entered same⟩
      rw [same]
      exact InsertionMap.get_set_self _ _ _
    · rcases kept with ⟨old, oldOrder, content, present, rest⟩
      exact ⟨old, oldOrder, content,
        (get_put_of_ne host blob same).trans present, rest⟩

/-- The first snapshot of a client that has no groups yet. -/
theorem carries_putFresh
    {host : Host Keypair} {id : CodeUnits} (blob : Bytes)
    (unused :
      ∀ handle client,
        host.clients.get handle = some client → client.id ≠ id) :
    Carries mls host (host.put id blob) := by
  refine ⟨fun _ entered => entered, ?_⟩
  rintro position change ⟨entered, ahead | kept⟩
  · exact ⟨entered, Or.inl ahead⟩
  · refine ⟨entered, Or.inr ?_⟩
    rcases entered with ⟨handle, client, found, named, _⟩
    rcases kept with ⟨old, order, content, present, rest⟩
    have different : change.1 ≠ id := by
      rw [← named]
      exact unused handle client found
    exact ⟨old, order, content,
      (get_put_of_ne host blob different).trans present, rest⟩

/-! ## One event -/

theorem saved_eq_ok
    {result : Except Thrown Bytes}
    (written : saved mls client order = some result) :
    order.Perm client.values.entries ∧
      snapshotOf mls client order = result := by
  unfold saved at written
  split at written
  · next listed =>
    cases written
    exact ⟨listed, rfl⟩
  · cases written

/-- The size of a snapshot does not depend on the order of the records. -/
theorem length_snapshotSerialize_of_perm
    {first second : List (Bytes × Bytes)} (same : first.Perm second) :
    (snapshotSerialize first).length =
      (snapshotSerialize second).length := by
  rw [snapshotSerialize, snapshotSerialize, List.length_append,
    List.length_append, (same.flatMap_right recordBytes).length_eq,
    u64ToBytes, u64ToBytes, length_bigEndian, length_bigEndian]

/-- A client of a roomy page is saved. -/
theorem Roomy.saved
    {host : Host Keypair} (roomy : Roomy mls host)
    (member : (handle, client) ∈ host.clients.entries)
    {result : Except Thrown Bytes}
    (written : saved mls client order = some result) :
    ∃ blob, result = .ok blob := by
  rcases saved_eq_ok written with ⟨listed, rfl⟩
  have fits := roomy _ member
  rw [Fits, ← length_snapshotSerialize_of_perm listed] at fits
  exact ⟨_, if_pos fits⟩

/-- The store of a page with its owners has a text. -/
theorem Ownership.snapshot_isOk
    {host : Host Keypair} (owned : Ownership mls host)
    (format : NumberFormat Number) :
    ∃ text, HostStore.snapshot format host.store = .ok text := by
  rw [HostStore.snapshot_isOk_iff]
  intro id member _
  rcases (InsertionMap.mem_keys_iff _ _).mp member with ⟨blob, present⟩
  rcases owned.stored id blob present with ⟨handle, owner⟩
  exact (owned.owners.storable handle id owner).2

/-- What is in the store is recovered from the text of the store. -/
theorem recovered_of_kept
    {store : Store} {change : GroupChange} (kept : Kept mls store change)
    (ordinary : change.1 ≠ prototypeName) {text : CodeUnits}
    (written : HostStore.snapshot format store = .ok text) :
    Recovered mls format text change := by
  rcases kept with ⟨client, order, blob, present, named, good, saving, member⟩
  rcases saved_eq_ok saving with ⟨listed, snapshot⟩
  rcases (restore_resumes_iff good.standing ⟨order, listed⟩ snapshot).mpr
      good.reloadable with
    ⟨reopened, restored, resumes⟩
  rw [named] at restored
  rcases (InsertionMap.mem_keys_iff _ _).mp member with ⟨handle, held⟩
  refine ⟨HostStore.restored store,
    HostStore.restore_snapshot format written _, ?_⟩
  intro seed fresh freshOrder constructed
  refine ⟨reopened, blob, handle, ?_, resumes.groups _ _ held⟩
  rw [HostStore.get_restored, if_neg ordinary, present,
    openClient_some _ _ constructed, restored]
  rfl

variable (mls format)

/-- The invariant of disciplined runs. -/
structure Sound (host : Host Keypair) : Prop where
  owned : Ownership mls host
  coverage : Coverage mls format host

variable {mls format}

section Steps

variable {host : Host Keypair}

theorem sound_new : Sound mls format (Host.new : Host Keypair) := by
  constructor
  · constructor
    · constructor
      · intro handle _
        rfl
      · intro first second id owner
        cases owner
      · intro handle id owner
        cases owner
    · intro handle client found
      cases found
    · intro handle client found
      cases found
    · intro handle number client pending
      cases pending
    · intro handle number id blob pending
      cases pending
    · intro id blob present
      cases present
  · constructor
    · intro change member
      cases member
    · intro number flush pending
      cases pending
    · constructor
      · intro post member
        cases member
      · intro post member
        cases member

/-- An answer that is no snapshot, or one that has all changes. -/
theorem Sound.post
    (sound : Sound mls format host) (number : Nat) (outcome : Outcome)
    (answered : outcome ≠ .snapshotFailed)
    (recovered :
      ∀ text before, outcome = .snapshot text before →
        ∀ change ∈ before, Recovered mls format text change) :
    Sound mls format (host.post number outcome) := by
  rcases sound with ⟨⟨owners, apart, good, built, loaded, stored⟩, coverage⟩
  refine ⟨⟨owners, apart, good, built, loaded, stored⟩,
    coverage.acknowledged, coverage.flushes, ?_⟩
  constructor
  · intro post member
    rcases List.mem_append.mp member with earlier | last
    · exact coverage.posts.answered post earlier
    · cases List.mem_singleton.mp last
      exact answered
  · intro post member
    rcases List.mem_append.mp member with earlier | last
    · exact coverage.posts.recovered post earlier
    · cases List.mem_singleton.mp last
      exact recovered

theorem Sound.postPlain
    (sound : Sound mls format host) (number : Nat) {outcome : Outcome}
    (plain : outcome = .done ∨ outcome = .failed) :
    Sound mls format (host.post number outcome) := by
  apply sound.post
  · rintro rfl
    rcases plain with impossible | impossible
    · cases impossible
    · cases impossible
  · rintro text before rfl
    rcases plain with impossible | impossible
    · cases impossible
    · cases impossible

theorem Sound.setFlush
    (sound : Sound mls format host) (number : Nat) (flush : Option Flush)
    (covered :
      ∀ pending, flush = some pending →
        ∀ change ∈ pending.before,
          Covered mls host pending.position change) :
    Sound mls format (host.setFlush number flush) := by
  rcases sound with ⟨⟨owners, apart, good, built, loaded, stored⟩, coverage⟩
  refine ⟨⟨owners, apart, good, built, loaded, stored⟩,
    coverage.acknowledged, ?_, coverage.posts.answered,
    coverage.posts.recovered⟩
  intro other pending present
  change Function.update host.flushes number flush other = _ at present
  rw [Function.update_apply] at present
  split at present
  · exact covered pending present
  · exact coverage.flushes other pending present

theorem Sound.dropFlush (sound : Sound mls format host) (number : Nat) :
    Sound mls format (host.setFlush number none) := by
  apply sound.setFlush
  intro pending present
  cases present

variable {order : List (Bytes × Bytes)} {target : Host Keypair}

/-- The store is replaced by one that has a newer snapshot of a client. -/
theorem Sound.put
    (sound : Sound mls format host) {handle : Nat} {client : Client Keypair}
    (found : host.clients.get handle = some client) {blob : Bytes}
    (written : saved mls client order = some (.ok blob)) :
    Sound mls format (host.put client.id blob) :=
  ⟨sound.owned.put found blob,
    sound.coverage.carry (carries_put sound.owned found written) rfl rfl rfl⟩

theorem Sound.saveClient
    (sound : Sound mls format host) {number handle : Nat}
    (taken : host.saveClient mls number handle order = some target) :
    Sound mls format target := by
  unfold Host.saveClient at taken
  split at taken
  · cases taken
    exact sound.postPlain number (Or.inr rfl)
  · next client found =>
    split at taken
    · cases taken
    · cases taken
      exact sound.postPlain number (Or.inr rfl)
    · next blob written =>
      cases taken
      exact (sound.put found written).postPlain number (Or.inl rfl)

/-- A change that is covered stays so while the iterator moves on. -/
theorem covered_next
    {position handle : Nat} {client : Client Keypair}
    (owned : Ownership mls host)
    (current : host.clients.entries[position]? = some (handle, client))
    {blob : Bytes} (written : saved mls client order = some (.ok blob))
    {change : GroupChange} (covered : Covered mls host position change) :
    Covered mls (host.put client.id blob) (position + 1) change := by
  have found : host.clients.get handle = some client :=
    (InsertionMap.get_eq_some_iff _ _ _).mpr (List.mem_of_getElem? current)
  by_cases same : change.1 = client.id
  · refine ⟨covered.1, Or.inr
      ⟨client, order, blob, ?_, same.symm, owned.good handle client found,
        written, owned.mem_keys_of_entered found covered.1 same⟩⟩
    rw [same]
    exact InsertionMap.get_set_self _ _ _
  · rcases (carries_put owned found written).covered position change
        covered with
      ⟨entered, ahead | kept⟩
    · refine ⟨entered, Or.inl ?_⟩
      rcases ahead with ⟨index, other, holder, reachable, present, named⟩
      refine ⟨index, other, holder, ?_, present, named⟩
      rcases Nat.lt_or_eq_of_le reachable with beyond | here
      · exact beyond
      · subst here
        have entries :
            host.clients.entries[position]? = some (other, holder) :=
          present
        rw [current] at entries
        cases entries
        exact absurd named.symm same
    · exact ⟨entered, Or.inr kept⟩

section

variable (sound : Sound mls format host)
include sound

theorem Sound.advance
    (roomy : Roomy mls host) {number : Nat} {flush : Flush}
    (covered :
      ∀ change ∈ flush.before, Covered mls host flush.position change)
    (taken : host.advance mls format number flush order = some target) :
    Sound mls format target := by
  unfold Host.advance at taken
  split at taken
  · next handle client current =>
    have found : host.clients.get handle = some client :=
      (InsertionMap.get_eq_some_iff _ _ _).mpr (List.mem_of_getElem? current)
    split at taken
    · cases taken
    · next thrown failed =>
      rcases roomy.saved (List.mem_of_getElem? current) failed with
        ⟨blob, impossible⟩
      cases impossible
    · next blob written =>
      cases taken
      apply (sound.put found written).setFlush
      intro pending present change member
      cases present
      exact covered_next sound.owned current written (covered change member)
  · next finished =>
    split at taken
    · next thrown failed =>
      rcases sound.owned.snapshot_isOk format with ⟨text, written⟩
      rw [written] at failed
      cases failed
    · next text written =>
      cases taken
      apply (sound.dropFlush number).post
      · intro impossible
        cases impossible
      · intro answer before equal change member
        cases equal
        rcases covered change member with ⟨entered, ahead | kept⟩
        · rcases ahead with ⟨index, handle, client, reachable, present, _⟩
          have inside := (List.getElem?_eq_some_iff.mp present).1
          have beyond := List.getElem?_eq_none_iff.mp finished
          omega
        · apply recovered_of_kept kept _ written
          rcases entered with ⟨handle, client, found, named, _⟩
          exact (sound.owned.owners.storable handle _
            (named ▸ ownerOf_of_client found)).1

theorem Sound.grow
    {handle : Nat} {client reached : Client Keypair}
    (found : host.clients.get handle = some client)
    (extended : Extends mls client reached) :
    Sound mls format (host.setClient handle reached) := by
  refine ⟨sound.owned.grow found extended,
    sound.coverage.carry (carries_setClient ?_ ?_) rfl rfl rfl⟩
  · intro old present
    rw [found] at present
    cases present
    exact extended.id
  · intro old present
    rw [found] at present
    cases present
    exact extended.grown

theorem Sound.acknowledge
    {id : CodeUnits} {groupIds : List CodeUnits}
    (entered : ∀ groupId ∈ groupIds, Entered host (id, groupId)) :
    Sound mls format (host.acknowledge id groupIds) := by
  rcases sound with ⟨⟨owners, apart, good, built, loaded, stored⟩, coverage⟩
  refine ⟨⟨owners.later (Nat.le_add_right _ _), apart, good, built, loaded,
    stored⟩, ?_, coverage.flushes, coverage.posts.answered,
    coverage.posts.recovered⟩
  intro change member
  rcases List.mem_append.mp member with earlier | later
  · exact coverage.acknowledged change earlier
  · rcases List.mem_map.mp later with ⟨groupId, inside, rfl⟩
    exact entered groupId inside

/-- A call through a handle. -/
theorem Sound.call
    (number : Nat) {handle : Nat} {groupIds : List CodeUnits} {Value : Type}
    {action : Throwing (Client Keypair) Thrown Value}
    (extended :
      ∀ client, host.clients.get handle = some client →
        Extends mls client (action client).2)
    (entered :
      ∀ client value reached, action client = (.ok value, reached) →
        ∀ groupId ∈ groupIds, groupId ∈ reached.groups.keys) :
    Sound mls format (host.call number handle groupIds action) := by
  unfold Host.call
  split
  · exact sound.postPlain number (Or.inr rfl)
  · next client found =>
    have grown := sound.grow found (extended client found)
    split
    · next failed =>
      rw [failed] at grown
      exact grown.postPlain number (Or.inr rfl)
    · next value reached returned =>
      have kept := extended client found
      rw [returned] at grown kept
      refine (grown.acknowledge ?_).postPlain number (Or.inl rfl)
      intro groupId member
      exact ⟨handle, reached, InsertionMap.get_set_self _ _ _, kept.id,
        entered client value reached returned groupId member⟩

theorem Sound.beginOpen
    (number : Nat) {id : CodeUnits} (storable : Storable id)
    (unowned : ∀ handle, host.ownerOf handle ≠ some id) :
    Sound mls format (host.beginOpen number id) :=
  ⟨sound.owned.beginOpen number storable unowned,
    sound.coverage.carry (carries_of_same rfl rfl) rfl rfl rfl⟩

end

/-- Without a stored snapshot the client is the new one. -/
theorem openClient_none
    {id : CodeUnits} {seed : Seed} {client : Client Keypair} {blob : Bytes}
    (opened : openClient mls id none seed order = .ok (client, blob)) :
    Client.new mls id seed = .ok client := by
  rcases Throwing.bind_eq_ok opened with ⟨fresh, constructed, opened⟩
  rcases Throwing.bind_eq_ok opened with ⟨written, _, returned⟩
  cases returned
  exact constructed

theorem Sound.resumeOpen
    (sound : Sound mls format host) {handle : Nat} {seed : Seed}
    (taken : host.resumeOpen mls handle seed order = some target) :
    Sound mls format target := by
  unfold Host.resumeOpen at taken
  split at taken
  · cases taken
  · next number id blob pending =>
    have absent := (sound.owned.loaded handle number id blob pending).1
    subst absent
    split at taken
    · split at taken
      · cases taken
        have dropped : Sound mls format (host.setOpen handle none) :=
          ⟨sound.owned.abandon pending,
            sound.coverage.carry (carries_of_same rfl rfl) rfl rfl rfl⟩
        exact dropped.postPlain number (Or.inr rfl)
      · next client written opened =>
        cases taken
        rcases good_new (openClient_none opened) with ⟨rfl, good⟩
        have unused :
            ∀ other old,
              host.clients.get other = some old → old.id ≠ client.id := by
          intro other old found named
          have same : other = handle :=
            sound.owned.owners.single other handle client.id
              (named ▸ ownerOf_of_client found)
              (sound.owned.pendingOwner pending)
          subst same
          rw [sound.owned.absent pending] at found
          cases found
        refine ⟨sound.owned.build pending good written, ?_⟩
        refine sound.coverage.carry ?_ rfl rfl rfl
        have stored := @carries_putFresh _ _ _ mls _ _ written unused
        exact ⟨stored.entered, stored.covered⟩
    · cases taken
  · next number client pending =>
    cases taken
    have absent := sound.owned.absent pending
    have registered :
        Sound mls format
          ((host.setOpen handle none).setClient handle client) := by
      refine ⟨sound.owned.register pending, ?_⟩
      have dropped : Coverage mls format (host.setOpen handle none) :=
        sound.coverage.carry (carries_of_same rfl rfl) rfl rfl rfl
      refine dropped.carry (carries_setClient ?_ ?_) rfl rfl rfl
      · intro old present
        change host.clients.get handle = some old at present
        rw [absent] at present
        cases present
      · intro old present
        change host.clients.get handle = some old at present
        rw [absent] at present
        cases present
    exact registered.postPlain number (Or.inl rfl)

/-- Every disciplined event keeps the invariant. -/
theorem Sound.step
    (sound : Sound mls format host) {event : Event Operation Seed}
    (disciplined : Disciplined mls host event)
    (taken : (machine mls format).step host event = some target) :
    Sound mls format target := by
  cases event with
  | receive number request seed order =>
      cases request with
      | openClient id =>
          cases taken
          exact sound.beginOpen number disciplined.1 disciplined.2
      | saveClient handle => exact sound.saveClient taken
      | keyPackage handle =>
          cases taken
          refine sound.call number ?_ ?_
          · intro client found
            exact (sound.owned.good handle client found).extends_onValues
              (mls.buildKeyPackage_keeps _ _ seed)
          · intro client value reached _ groupId member
            cases member
      | createGroup handle groupId =>
          cases taken
          refine sound.call number ?_ ?_
          · intro client found
            exact
              (sound.owned.good handle client found).extends_createGroup
                disciplined seed
          · intro client value reached created other member
            cases List.mem_singleton.mp member
            exact mem_keys_createGroup created
      | joinGroup handle welcome ratchetTree groupId =>
          cases taken
          refine sound.call number ?_ ?_
          · intro client found
            exact
              (sound.owned.good handle client found).extends_joinGroup
                disciplined.1 fun joined values =>
                  disciplined.2 client joined values found
          · intro client value reached joined other member
            cases List.mem_singleton.mp member
            exact mem_keys_joinGroup joined
      | operate handle group operation =>
          cases taken
          refine sound.call number ?_ ?_
          · intro client found
            exact (sound.owned.good handle client found).extends_onValues
              (mls.operate_keeps _ group operation)
          · intro client value reached _ groupId member
            cases member
      | snapshot =>
          refine sound.advance disciplined ?_
            (advance_of_receive_snapshot seed taken)
          intro change member
          have entered := sound.coverage.acknowledged change member
          refine ⟨entered, Or.inl ?_⟩
          rcases entered with ⟨handle, client, found, named, _⟩
          rcases List.getElem?_of_mem
              ((InsertionMap.get_eq_some_iff _ _ _).mp found) with
            ⟨index, present⟩
          exact ⟨index, handle, client, Nat.zero_le _, present, named⟩
      | restore text => exact disciplined.elim
  | resumeOpen handle seed order => exact sound.resumeOpen taken
  | resumeSnapshot number order =>
      rcases advance_of_resumeSnapshot taken with
        ⟨flush, pending, advanced⟩
      exact sound.advance disciplined
        (sound.coverage.flushes number flush pending) advanced

end Steps

/--
In every disciplined run of a new page, every snapshot that comes to its end
is answered with a text, and the text brings back every group change that was
answered before the snapshot was requested.
-/
theorem disciplined_snapshots_are_durable
    (mls : StoredMls Keypair Operation Seed) (format : NumberFormat Number)
    (host : Host Keypair)
    (reached : Reaches (machine mls format) (Disciplined mls) Host.new host) :
    Durable mls format host := by
  have sound : Sound mls format host := by
    apply reached.invariant
    · exact sound_new
    · intro source event target before disciplined taken
      exact before.step disciplined taken
  exact sound.coverage.posts

/-! ## Two pages -/

/-- The last step of a snapshot whose clients are all saved. -/
theorem step_resumeSnapshot_last
    {host : Host Keypair} {number : Nat} {flush : Flush}
    (pending : host.flushes number = some flush)
    (finished : host.clients.entries.length ≤ flush.position)
    {text : CodeUnits}
    (written : HostStore.snapshot format host.store = .ok text)
    (order : List (Bytes × Bytes)) :
    (machine mls format).step host (.resumeSnapshot number order) =
      some
        ((host.setFlush number none).post number
          (.snapshot text flush.before)) := by
  have passed : host.clients.entries[flush.position]? = none :=
    List.getElem?_eq_none_iff.mpr finished
  simp only [machine, pending, Host.advance, passed, written]

/-- The id of a client. -/
def ann : CodeUnits :=
  literal "ann"

/-- The id of a group. -/
def room : CodeUnits :=
  literal "room"

/-- The storage of a client without groups. -/
def keyRecords : List (Bytes × Bytes) :=
  [([0, 7], [7])]

/-- The storage of a client with the room. -/
def roomRecords : List (Bytes × Bytes) :=
  [([0, 7], [7]), (groupKey (Utf8.encode room), Utf8.encode ann)]

/-- The text of a store with one client. -/
theorem snapshot_of_ann {store : Store} (keys : store.keys = [ann]) :
    ∃ text, HostStore.snapshot decimalFormat store = .ok text := by
  rw [HostStore.snapshot_isOk_iff, keys]
  intro key member _
  cases List.mem_singleton.mp member
  decide

/-- One handle, a room, and a snapshot whose only client is saved. -/
def singlePage : Host UInt8 :=
  ((machine recordMls decimalFormat).run Host.new
    [.receive 1 (.openClient ann) 0 [],
      .resumeOpen 1 7 keyRecords,
      .resumeOpen 1 0 [],
      .receive 2 (.createGroup 1 room) 8 [],
      .receive 3 .snapshot 0 roomRecords]).get (by decide +kernel)

/-- The snapshot of one handle brings its room back. -/
theorem disciplined_snapshots_are_durable_single :
    ∃ host text,
      Reaches (machine recordMls decimalFormat) (Disciplined recordMls)
          Host.new host ∧
        host.posts.getLast? =
            some ⟨3, .snapshot text [(ann, room)]⟩ ∧
          Recovered recordMls decimalFormat text (ann, room) := by
  have ready :
      Reaches (machine recordMls decimalFormat) (Disciplined recordMls)
        Host.new Host.new :=
    .start
  have requested :=
    Reaches.step (Event.receive 1 (.openClient ann) 0 []) ready
      ⟨⟨by decide, by decide⟩, fun _ owner => by cases owner⟩ rfl
  have built :=
    Reaches.step (Event.resumeOpen 1 7 keyRecords) requested trivial rfl
  have opened := Reaches.step (Event.resumeOpen 1 0 []) built trivial rfl
  have created :=
    Reaches.step (Event.receive 2 (.createGroup 1 room) 8 []) opened
      ⟨by decide, by decide⟩ rfl
  have flushed :
      Reaches (machine recordMls decimalFormat) (Disciplined recordMls)
        Host.new singlePage :=
    Reaches.step (Event.receive 3 .snapshot 0 roomRecords) created
      (show Roomy recordMls _ by decide +kernel) rfl
  have keys : singlePage.store.keys = [ann] := by decide +kernel
  have pending : singlePage.flushes 3 = some ⟨1, [(ann, room)]⟩ := by
    decide +kernel
  have finished : singlePage.clients.entries.length ≤ 1 := by
    decide +kernel
  rcases snapshot_of_ann keys with ⟨text, written⟩
  have answered :=
    Reaches.step (Event.resumeSnapshot 3 []) flushed
      (show Roomy recordMls singlePage by decide +kernel)
      (step_resumeSnapshot_last pending finished written [])
  refine ⟨_, text, answered, List.getLast?_concat, ?_⟩
  exact
    (disciplined_snapshots_are_durable recordMls decimalFormat _
      answered).recovered _
        (List.mem_append_right _ (List.mem_singleton.mpr rfl)) text _ rfl _
        (List.mem_singleton.mpr rfl)

/-- Two handles for one id, a room in the first, and both are saved. -/
def staleEvents : List (Event Unit UInt8) :=
  [.receive 1 (.openClient ann) 0 [],
    .resumeOpen 1 7 keyRecords,
    .resumeOpen 1 0 [],
    .receive 2 (.openClient ann) 0 [],
    .resumeOpen 2 7 keyRecords,
    .resumeOpen 2 0 [],
    .receive 3 (.createGroup 1 room) 8 [],
    .receive 4 .snapshot 0 roomRecords,
    .resumeSnapshot 4 keyRecords]

/-- The page behind these events. -/
def stalePage : Host UInt8 :=
  ((machine recordMls decimalFormat).run Host.new staleEvents).get
    (by decide +kernel)

/-- The client that the second handle has. -/
def staleClient : Client UInt8 :=
  newRecordClient ann 7

theorem stalePage_stored :
    ∃ blob,
      stalePage.store.get ann = some blob ∧
        snapshotOf recordMls staleClient keyRecords = .ok blob :=
  ⟨_, by decide +kernel, rfl⟩

/--
A group created and answered before the snapshot is lost by it when the id was
opened twice: the second handle is saved last and does not have the group.
-/
theorem stale_handle_loses_group :
    ∃ host text,
      (machine recordMls decimalFormat).run Host.new
            (staleEvents ++ [.resumeSnapshot 4 []]) = some host ∧
        host.posts.getLast? =
            some ⟨4, .snapshot text [(ann, room)]⟩ ∧
          ¬ Recovered recordMls decimalFormat text (ann, room) := by
  have run :
      (machine recordMls decimalFormat).run Host.new staleEvents =
        some stalePage :=
    (Option.some_get _).symm
  have keys : stalePage.store.keys = [ann] := by decide +kernel
  have pending : stalePage.flushes 4 = some ⟨2, [(ann, room)]⟩ := by
    decide +kernel
  have finished : stalePage.clients.entries.length ≤ 2 := by
    decide +kernel
  rcases snapshot_of_ann keys with ⟨text, written⟩
  refine ⟨_, text,
    Machine.run_append_single run
      (step_resumeSnapshot_last pending finished written []),
    List.getLast?_concat, ?_⟩
  rintro ⟨store, pushed, reopen⟩
  rw [HostStore.restore_snapshot decimalFormat written] at pushed
  cases pushed
  rcases stalePage_stored with ⟨blob, stored, saved⟩
  have constructed := new_recordMls ann 0
  rcases reopen 0 _ [] constructed with
    ⟨reopened, content, handle, opened, held⟩
  have ordinary : ann ≠ prototypeName := by decide
  rw [HostStore.get_restored, if_neg ordinary, stored,
    openClient_some ann blob constructed,
    restore_of_snapshotOf ann ⟨keyRecords, List.Perm.refl _⟩ saved,
    if_pos] at opened
  · cases opened
    cases held
  · intro groupId member
    cases member

end Mls4rn.ReactNative.SnapshotDurability
