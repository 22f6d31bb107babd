import Mls4rn.Core.PersistentClient
import Mls4rn.ReactNative.HostStore

/-!
# The tasks of the host page

The page of the WebView serves several requests at once.  `openClient` waits
for the adapter and for `MlsClient.open`; `snapshot` waits behind the save of
every client.  The other methods do their work when the request arrives.

A machine of the page has one event for an arriving request and one for each
task that goes on behind an `await`.  Between two events nothing else runs.
The iteration order of a storage and the random choices of OpenMLS belong to
the event.

`HostPage` serves one request after another, with all methods.  Here the tasks
of several requests may alternate in any way.

A client handle `"c7"` is the number 7, and a group handle is not recorded:
the request of a group operation names the client and the MLS group directly.
The page state is extended by the group changes that were answered so far,
which `snapshot` remembers from the moment it is received.
-/

namespace Mls4rn.ReactNative.HostTasks

open Mls4rn.Lib
open Mls4rn.Lib.ByteString
open Mls4rn.Lib.Execution
open Mls4rn.Lib.NumberText
open Mls4rn.Lib.Utf16
open Mls4rn.Core.MlsGroup (Thrown)
open Mls4rn.Core.PersistentClient
open Mls4rn.ReactNative.HostStore (Store)

/-! ## Requests and answers -/

/-- The requests that work on persistent clients. -/
inductive Request (Operation : Type) where
  | openClient (id : CodeUnits)
  | saveClient (handle : Nat)
  | keyPackage (handle : Nat)
  | createGroup (handle : Nat) (groupId : CodeUnits)
  | joinGroup
      (handle : Nat) (welcome ratchetTree : Bytes) (groupId : CodeUnits)
  | operate (handle : Nat) (group : Bytes) (operation : Operation)
  | snapshot
  | restore (text : CodeUnits)

/-- A group that was entered: the client id and the group id. -/
abbrev GroupChange : Type :=
  CodeUnits × CodeUnits

/--
What the page posts for a request.  That a failed request was a `snapshot` is
for the record; the page posts the same kind of answer for every error.
-/
inductive Outcome where
  | snapshot (text : CodeUnits) (before : List GroupChange)
  | snapshotFailed
  | done
  | failed

/-- An answer and the number of the request. -/
structure Post where
  number : Nat
  outcome : Outcome

/-! ## The page -/

/-- An `openClient` behind its first or behind its last `await`. -/
inductive Opening (Keypair : Type) where
  | loaded (number : Nat) (id : CodeUnits) (blob : Option Bytes)
  | built (number : Nat) (client : Client Keypair)

/-- The client id of the request. -/
def Opening.id {Keypair : Type} : Opening Keypair → CodeUnits
  | .loaded _ id _ => id
  | .built _ client => client.id

/--
A `snapshot` between two saves: the position of the iterator and the changes
answered before the request.
-/
structure Flush where
  position : Nat
  before : List GroupChange
deriving DecidableEq, Repr

/-- The variables of the page, its tasks, and what it has answered. -/
structure Host (Keypair : Type) where
  clients : InsertionMap Nat (Client Keypair)
  store : Store
  seq : Nat
  opens : Nat → Option (Opening Keypair)
  flushes : Nat → Option Flush
  acknowledged : List GroupChange
  posts : List Post

section Host

variable {Keypair : Type}

/-- A page that was just loaded. -/
def Host.new : Host Keypair where
  clients := InsertionMap.empty
  store := InsertionMap.empty
  seq := 0
  opens := fun _ => none
  flushes := fun _ => none
  acknowledged := []
  posts := []

/-- `post`. -/
def Host.post (host : Host Keypair) (number : Nat) (outcome : Outcome) :
    Host Keypair :=
  { host with posts := host.posts ++ [⟨number, outcome⟩] }

/-- `storageAdapter.save`. -/
def Host.put (host : Host Keypair) (id : CodeUnits) (blob : Bytes) :
    Host Keypair :=
  { host with store := host.store.set id blob }

/-- Replace the task that opens a client. -/
def Host.setOpen
    (host : Host Keypair) (handle : Nat)
    (opening : Option (Opening Keypair)) : Host Keypair :=
  { host with opens := Function.update host.opens handle opening }

/-- Replace the task that takes a snapshot. -/
def Host.setFlush
    (host : Host Keypair) (number : Nat) (flush : Option Flush) :
    Host Keypair :=
  { host with flushes := Function.update host.flushes number flush }

/-- Put a client under its handle. -/
def Host.setClient
    (host : Host Keypair) (handle : Nat) (client : Client Keypair) :
    Host Keypair :=
  { host with clients := host.clients.set handle client }

/-- The client id behind a handle, from the request on. -/
def Host.ownerOf (host : Host Keypair) (handle : Nat) :
    Option CodeUnits :=
  match host.clients.get handle with
  | some client => some client.id
  | none => (host.opens handle).map Opening.id

end Host

/-! ## Serving requests -/

section Serving

variable {Keypair Operation Seed Number : Type}

/-- The group handles given out, one for each group that was entered. -/
def Host.acknowledge
    (host : Host Keypair) (id : CodeUnits) (groupIds : List CodeUnits) :
    Host Keypair :=
  { host with
    seq := host.seq + groupIds.length
    acknowledged :=
      host.acknowledged ++ groupIds.map fun groupId => (id, groupId) }

/-- A method that works on one client and enters the given groups. -/
def Host.call
    {Value : Type} (host : Host Keypair) (number handle : Nat)
    (groupIds : List CodeUnits)
    (action : Throwing (Client Keypair) Thrown Value) : Host Keypair :=
  match host.clients.get handle with
  | none => host.post number .failed
  | some client =>
      match action client with
      | (.error _, reached) =>
          (host.setClient handle reached).post number .failed
      | (.ok _, reached) =>
          ((host.setClient handle reached).acknowledge client.id
            groupIds).post number .done

variable (mls : StoredMls Keypair Operation Seed)

/-- The snapshot of a client, for an order its storage can have. -/
def saved (client : Client Keypair) (order : List (Bytes × Bytes)) :
    Option (Except Thrown Bytes) :=
  if order.Perm client.values.entries then some (snapshotOf mls client order)
  else none

/-- `saveClient`. -/
def Host.saveClient
    (host : Host Keypair) (number handle : Nat)
    (order : List (Bytes × Bytes)) : Option (Host Keypair) :=
  match host.clients.get handle with
  | none => some (host.post number .failed)
  | some client =>
      match saved mls client order with
      | none => none
      | some (.error _) => some (host.post number .failed)
      | some (.ok blob) =>
          some ((host.put client.id blob).post number .done)

variable (format : NumberFormat Number)

/-- `snapshot`, up to the next `await` or to its end. -/
def Host.advance
    (host : Host Keypair) (number : Nat) (flush : Flush)
    (order : List (Bytes × Bytes)) : Option (Host Keypair) :=
  match host.clients.entries[flush.position]? with
  | some (_, client) =>
      match saved mls client order with
      | none => none
      | some (.error _) =>
          some ((host.setFlush number none).post number .snapshotFailed)
      | some (.ok blob) =>
          some
            ((host.put client.id blob).setFlush number
              (some { flush with position := flush.position + 1 }))
  | none =>
      match HostStore.snapshot format host.store with
      | .error _ =>
          some ((host.setFlush number none).post number .snapshotFailed)
      | .ok text =>
          some
            ((host.setFlush number none).post number
              (.snapshot text flush.before))

/-- `openClient`, up to the `await` of the adapter. -/
def Host.beginOpen (host : Host Keypair) (number : Nat) (id : CodeUnits) :
    Host Keypair :=
  { host with seq := host.seq + 1 }.setOpen (host.seq + 1)
    (some (.loaded number id (host.store.get id)))

/-- `openClient`, from one `await` to the next. -/
def Host.resumeOpen
    (host : Host Keypair) (handle : Nat) (seed : Seed)
    (order : List (Bytes × Bytes)) : Option (Host Keypair) :=
  match host.opens handle with
  | none => none
  | some (.loaded number id blob) =>
      if FreshOrder mls id seed order then
        match openClient mls id blob seed order with
        | .error _ => some ((host.setOpen handle none).post number .failed)
        | .ok (client, written) =>
            match blob with
            | none =>
                some
                  ((host.put id written).setOpen handle
                    (some (.built number client)))
            | some _ =>
                some (host.setOpen handle (some (.built number client)))
      else
        none
  | some (.built number client) =>
      some
        (((host.setOpen handle none).setClient handle client).post number
          .done)

/-- `restore`. -/
def Host.restore (host : Host Keypair) (number : Nat) (text : CodeUnits) :
    Host Keypair :=
  match HostStore.restore format host.store text with
  | (store, .error _) => { host with store }.post number .failed
  | (store, .ok _) => { host with store }.post number .done

/-- What happens in the page. -/
inductive Event (Operation Seed : Type) where
  | receive
      (number : Nat) (request : Request Operation) (seed : Seed)
      (order : List (Bytes × Bytes))
  | resumeOpen (handle : Nat) (seed : Seed) (order : List (Bytes × Bytes))
  | resumeSnapshot (number : Nat) (order : List (Bytes × Bytes))

/-- A request arrives. -/
def Host.receive
    (host : Host Keypair) (number : Nat) (seed : Seed)
    (order : List (Bytes × Bytes)) :
    Request Operation → Option (Host Keypair)
  | .openClient id => some (host.beginOpen number id)
  | .saveClient handle => host.saveClient mls number handle order
  | .keyPackage handle =>
      some (host.call number handle [] (keyPackage mls seed))
  | .createGroup handle groupId =>
      some (host.call number handle [groupId] (createGroup mls groupId seed))
  | .joinGroup handle welcome ratchetTree groupId =>
      some
        (host.call number handle [groupId]
          (joinGroup mls welcome ratchetTree (some groupId)))
  | .operate handle group operation =>
      some (host.call number handle [] (operate mls group operation))
  | .snapshot =>
      match host.flushes number with
      | some _ => none
      | none => host.advance mls format number ⟨0, host.acknowledged⟩ order
  | .restore text => some (host.restore format number text)

/-- The page. -/
def machine : Machine (Host Keypair) (Event Operation Seed) where
  step host
    | .receive number request seed order =>
        host.receive mls format number seed order request
    | .resumeOpen handle seed order => host.resumeOpen mls handle seed order
    | .resumeSnapshot number order =>
        match host.flushes number with
        | none => none
        | some flush => host.advance mls format number flush order

section Snapshots

variable {mls format}
variable {host target : Host Keypair} {number : Nat}
variable {order : List (Bytes × Bytes)}

/-- A snapshot that is taken up starts with the first client. -/
theorem advance_of_receive_snapshot
    (seed : Seed)
    (taken :
      host.receive mls format number seed order .snapshot = some target) :
    host.advance mls format number ⟨0, host.acknowledged⟩ order =
      some target := by
  rw [Host.receive] at taken
  cases pending : host.flushes number with
  | none => rwa [pending] at taken
  | some flush =>
      rw [pending] at taken
      cases taken

/-- A snapshot is resumed where it stood. -/
theorem advance_of_resumeSnapshot
    (taken :
      (machine mls format).step host (.resumeSnapshot number order) =
        some target) :
    ∃ flush,
      host.flushes number = some flush ∧
        host.advance mls format number flush order = some target := by
  simp only [machine] at taken
  cases pending : host.flushes number with
  | none =>
      rw [pending] at taken
      cases taken
  | some flush =>
      rw [pending] at taken
      exact ⟨flush, rfl, taken⟩

end Snapshots

end Serving

end Mls4rn.ReactNative.HostTasks
