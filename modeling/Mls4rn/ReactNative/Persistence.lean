import Mls4rn.ReactNative.HostTasks

/-!
# The value under the persistence key

One React Native process keeps an `Mls` instance, a bridge to the host page
and a key-value store.  `ready` reads the stored text once and pushes it into
the page; `save` pulls the store of the page and overwrites the text.  The page
can be loaded again at any time.  Its variables are then empty, but `ready`
has a remembered promise and does not push the text a second time.

The text never loses a client id as long as `save` is called only while the
page has what `ready` read, and the page is not loaded again during a `save`.
The invariant orders the ids: those of the stored text, those of the snapshots
on their way, oldest first, and those of the store of the page.
-/

namespace Mls4rn.ReactNative.Persistence

open Mls4rn.Lib
open Mls4rn.Lib.ByteString
open Mls4rn.Lib.Execution
open Mls4rn.Lib.NumberText
open Mls4rn.Lib.PlainObject
open Mls4rn.Lib.Utf16
open Mls4rn.Core.PersistentClient (StoredMls recordMls)
open Mls4rn.ReactNative.HostStore (Store)
open Mls4rn.ReactNative.HostTasks
  (Host Outcome Post Request advance_of_receive_snapshot)

variable {Keypair Operation Seed Number : Type}

/-! ## The process -/

/-- The promise that `ready` remembers. -/
inductive Readiness where
  | idle
  | waiting
  | read (text : CodeUnits)
  | restoring (number : Nat)
  | resolved
  | rejected
deriving DecidableEq, Repr

/--
The process: the stored text, the page, the requests that were sent and have
not arrived, the number of the next request, whether the bridge is ready, the
promise of `ready`, the calls of `save` that wait for their answer, and
whether the page loaded now has what `ready` read.
-/
structure Process (Keypair Operation : Type) where
  item : Option CodeUnits
  page : Host Keypair
  wire : List (Nat × Request Operation)
  nextId : Nat
  announced : Bool
  readiness : Readiness
  saves : List Nat
  current : Bool

/-- A process that was just started. -/
def Process.start (item : Option CodeUnits) : Process Keypair Operation where
  item := item
  page := Host.new
  wire := []
  nextId := 1
  announced := false
  readiness := .idle
  saves := []
  current := false

/-- `Bridge.request`. -/
def Process.send
    (process : Process Keypair Operation) (request : Request Operation) :
    Process Keypair Operation :=
  { process with
    wire := process.wire ++ [(process.nextId, request)]
    nextId := process.nextId + 1 }

/-- The requests that only `Mls.save` and `Mls.ready` send. -/
def isPersistence : Request Operation → Bool
  | .snapshot => true
  | .restore _ => true
  | _ => false

/-- `ready`, at `getItem`: an empty text counts as none. -/
def Process.readItem (process : Process Keypair Operation) :
    Process Keypair Operation :=
  match process.item with
  | none => { process with readiness := .resolved, current := true }
  | some [] => { process with readiness := .resolved, current := true }
  | some text => { process with readiness := .read text }

/-- `ready`, behind `getItem`. -/
def Process.push (process : Process Keypair Operation) (text : CodeUnits) :
    Process Keypair Operation :=
  { process.send (.restore text) with
    readiness := .restoring process.nextId }

/-- What waits for the answer goes on. -/
def Process.settle (process : Process Keypair Operation) (post : Post) :
    Process Keypair Operation :=
  if post.number ∈ process.saves then
    match post.outcome with
    | .snapshot text _ =>
        { process with
          item := some text
          saves := process.saves.erase post.number }
    | _ => { process with saves := process.saves.erase post.number }
  else if process.readiness = .restoring post.number then
    match post.outcome with
    | .done => { process with readiness := .resolved }
    | _ => { process with readiness := .rejected }
  else
    process

/-- The oldest answer is taken from the wire. -/
def Process.behindPost
    (process : Process Keypair Operation) (rest : List Post) :
    Process Keypair Operation :=
  { process with page := { process.page with posts := rest } }

/--
The page is loaded again.  Requests that had not arrived go to the old page or
to the new one, in their order; answers that were posted are still delivered.
-/
def Process.reload (process : Process Keypair Operation) (lost : Nat) :
    Process Keypair Operation where
  item := process.item
  page := { (Host.new : Host Keypair) with posts := process.page.posts }
  wire := process.wire.drop lost
  nextId := process.nextId
  announced := process.announced
  readiness := process.readiness
  saves := process.saves
  current := false

/-- What happens in the process. -/
inductive Event (Operation Seed : Type) where
  | announce
  | ready
  | readItem
  | push
  | request (request : Request Operation)
  | save
  | arrive (seed : Seed) (order : List (Bytes × Bytes))
  | lose
  | resumeOpen (handle : Nat) (seed : Seed) (order : List (Bytes × Bytes))
  | resumeSnapshot (number : Nat) (order : List (Bytes × Bytes))
  | deliver
  | reload (lost : Nat)

section Machine

variable (mls : StoredMls Keypair Operation Seed)
variable (format : NumberFormat Number)

/-- The request pushes a text that the page accepts. -/
def pushes (page : Host Keypair) : Request Operation → Bool
  | .restore text =>
      match HostStore.restore format page.store text with
      | (_, .ok _) => true
      | (_, .error _) => false
  | _ => false

/-- The oldest request on the wire arrives. -/
def Process.arrive
    (process : Process Keypair Operation) (seed : Seed)
    (order : List (Bytes × Bytes)) : Option (Process Keypair Operation) :=
  match process.wire with
  | [] => none
  | (number, request) :: rest =>
      match process.page.receive mls format number seed order request with
      | none => none
      | some page =>
          some
            { process with
              page := page
              wire := rest
              current :=
                process.current || pushes format process.page request }

/-- The process, its page and the wires between them. -/
def machine :
    Machine (Process Keypair Operation) (Event Operation Seed) where
  step process
    | .announce => some { process with announced := true }
    | .ready =>
        match process.readiness with
        | .idle => some { process with readiness := .waiting }
        | _ => some process
    | .readItem =>
        if process.readiness = .waiting ∧ process.announced = true then
          some process.readItem
        else
          none
    | .push =>
        match process.readiness with
        | .read text => some (process.push text)
        | _ => none
    | .request request =>
        if isPersistence request then none else some (process.send request)
    | .save =>
        some
          { process.send .snapshot with
            saves := process.saves ++ [process.nextId] }
    | .arrive seed order => process.arrive mls format seed order
    | .lose =>
        match process.wire with
        | [] => none
        | _ :: rest => some { process with wire := rest }
    | .resumeOpen handle seed order =>
        (process.page.resumeOpen mls handle seed order).map fun page =>
          { process with page := page }
    | .resumeSnapshot number order =>
        match process.page.flushes number with
        | none => none
        | some flush =>
            (process.page.advance mls format number flush order).map
              fun page => { process with page := page }
    | .deliver =>
        match process.page.posts with
        | [] => none
        | post :: rest => some ((process.behindPost rest).settle post)
    | .reload lost => some (process.reload lost)

end Machine

/-! ## The property and the discipline -/

section Ids

variable (format : NumberFormat Number)

/-- The client ids of a stored text: the properties of its JSON object. -/
def storedIds (text : CodeUnits) : List CodeUnits :=
  match HostStore.atob text with
  | .error _ => []
  | .ok json =>
      match Json.parse format json with
      | none => []
      | some value =>
          match HostStore.objectEntries value with
          | .error _ => []
          | .ok entries => entries.map Prod.fst

/-- The client ids under the persistence key. -/
def itemIds : Option CodeUnits → List CodeUnits
  | none => []
  | some text => storedIds format text

end Ids

/-- The answer is no snapshot. -/
def IsPlain (post : Post) : Prop :=
  ∀ text before, post.outcome ≠ .snapshot text before

/-- No snapshot is requested, being taken, or on its way back. -/
structure Process.Settled (process : Process Keypair Operation) :
    Prop where
  wire : ∀ sent ∈ process.wire, sent.2 ≠ .snapshot
  flushes : ∀ number, process.page.flushes number = none
  posts : ∀ post ∈ process.page.posts, IsPlain post

/--
`save` is called only while the page has what `ready` read, and the page is
loaded again only while no snapshot is on its way.
-/
def Disciplined (process : Process Keypair Operation) :
    Event Operation Seed → Prop
  | .save => process.current = true
  | .reload _ => process.Settled
  | _ => True

/-! ## The ids of a text -/

section Texts

variable {format : NumberFormat Number}

theorem mem_keys_of_fill
    {entries : List (CodeUnits × Json Number)} {store reached : Store}
    (filled : HostStore.fill format entries store = (reached, .ok ()))
    (id : CodeUnits) :
    id ∈ reached.keys ↔ id ∈ entries.map Prod.fst ∨ id ∈ store.keys := by
  induction entries generalizing store with
  | nil =>
      cases filled
      simp
  | cons entry entries induction =>
      rcases entry with ⟨key, value⟩
      rw [HostStore.fill] at filled
      split at filled
      · cases filled
      · split at filled
        · cases filled
        · rw [induction filled, InsertionMap.mem_keys_set, List.map_cons,
            List.mem_cons]
          exact or_left_comm.trans or_assoc.symm

/-- A text that was accepted has the ids of the store behind it. -/
theorem mem_storedIds_of_restore
    {store reached : Store} {text : CodeUnits}
    (restored : HostStore.restore format store text = (reached, .ok ()))
    (id : CodeUnits) :
    id ∈ storedIds format text ↔ id ∈ reached.keys := by
  unfold HostStore.restore at restored
  split at restored
  · cases restored
  · next json decoded =>
    split at restored
    · cases restored
    · next value parsed =>
      split at restored
      · cases restored
      · next entries listed =>
        have ids : storedIds format text = entries.map Prod.fst := by
          simp only [storedIds, decoded, parsed, listed]
        rw [ids, mem_keys_of_fill restored]
        exact (or_iff_left List.not_mem_nil).symm

/-- The ids that a snapshot of the store has. -/
def Written (store : Store) (id : CodeUnits) : Prop :=
  id ∈ store.keys ∧ id ≠ prototypeName

theorem mem_storedIds_of_snapshot
    {store : Store} {text : CodeUnits}
    (written : HostStore.snapshot format store = .ok text)
    (id : CodeUnits) :
    id ∈ storedIds format text ↔ Written store id := by
  rw [mem_storedIds_of_restore
    (HostStore.restore_snapshot format written InsertionMap.empty)]
  rw [InsertionMap.mem_keys_iff, Written, InsertionMap.mem_keys_iff]
  rw [HostStore.get_restored]
  split
  · next accessor => simp [accessor]
  · next ordinary => simp [ordinary]

end Texts

/-! ## What the page does to its store -/

theorem isPlain_done (number : Nat) : IsPlain ⟨number, .done⟩ := by
  intro text before equal
  cases equal

theorem isPlain_failed (number : Nat) : IsPlain ⟨number, .failed⟩ := by
  intro text before equal
  cases equal

theorem isPlain_snapshotFailed (number : Nat) :
    IsPlain ⟨number, .snapshotFailed⟩ := by
  intro text before equal
  cases equal

/-- No id leaves the store, and no snapshot begins or ends. -/
structure Quietly (host target : Host Keypair) : Prop where
  store : ∀ id ∈ host.store.keys, id ∈ target.store.keys
  flushes : target.flushes = host.flushes
  posts : ∃ new, target.posts = host.posts ++ new ∧ ∀ post ∈ new, IsPlain post

/--
No id leaves the store, and new snapshots are those of the store behind the
step.
-/
structure Grows
    (format : NumberFormat Number) (host target : Host Keypair) :
    Prop where
  store : ∀ id ∈ host.store.keys, id ∈ target.store.keys
  posts :
    ∃ new, target.posts = host.posts ++ new ∧
      ∀ post ∈ new, ∀ text before,
        post.outcome = .snapshot text before →
          HostStore.snapshot format target.store = .ok text

section Page

variable {mls : StoredMls Keypair Operation Seed}
variable {format : NumberFormat Number}
variable {host target : Host Keypair}

theorem Quietly.grows (quietly : Quietly host target) :
    Grows format host target := by
  rcases quietly.posts with ⟨new, posts, plain⟩
  refine ⟨quietly.store, new, posts, ?_⟩
  intro post member text before equal
  exact absurd equal (plain post member text before)

theorem Quietly.trans
    {middle : Host Keypair} (first : Quietly host middle)
    (second : Quietly middle target) : Quietly host target := by
  rcases first.posts with ⟨earlier, firstPosts, firstPlain⟩
  rcases second.posts with ⟨later, secondPosts, secondPlain⟩
  refine ⟨fun id member => second.store id (first.store id member),
    second.flushes.trans first.flushes, earlier ++ later, ?_, ?_⟩
  · rw [secondPosts, firstPosts, List.append_assoc]
  · intro post member
    rcases List.mem_append.mp member with inside | inside
    · exact firstPlain post inside
    · exact secondPlain post inside

theorem quietly_of_same
    (store : target.store = host.store)
    (flushes : target.flushes = host.flushes)
    (posts : target.posts = host.posts) : Quietly host target := by
  refine ⟨fun id member => store ▸ member, flushes, [], ?_, ?_⟩
  · rw [posts, List.append_nil]
  · intro post member
    cases member

theorem quietly_post
    (host : Host Keypair) {number : Nat} {outcome : Outcome}
    (plain : IsPlain ⟨number, outcome⟩) :
    Quietly host (host.post number outcome) := by
  refine ⟨fun _ member => member, rfl, _, rfl, ?_⟩
  intro post member
  cases List.mem_singleton.mp member
  exact plain

theorem quietly_put (host : Host Keypair) (id : CodeUnits) (blob : Bytes) :
    Quietly host (host.put id blob) := by
  refine ⟨?_, rfl, [], (List.append_nil _).symm, ?_⟩
  · intro other member
    exact (InsertionMap.mem_keys_set _ _ _ _).mpr (Or.inr member)
  · intro post member
    cases member

/-- An answer behind a change that does not touch the store. -/
theorem quietly_answer
    {host : Host Keypair} (middle : Host Keypair)
    (store : middle.store = host.store)
    (flushes : middle.flushes = host.flushes)
    (posts : middle.posts = host.posts)
    {number : Nat} {outcome : Outcome}
    (plain : IsPlain ⟨number, outcome⟩) :
    Quietly host (middle.post number outcome) :=
  (quietly_of_same store flushes posts).trans (quietly_post middle plain)

theorem quietly_call
    {Value : Type} (number handle : Nat) (groupIds : List CodeUnits)
    (action :
      Throwing (Core.PersistentClient.Client Keypair)
        Core.MlsGroup.Thrown Value) :
    Quietly host (host.call number handle groupIds action) := by
  unfold Host.call
  split
  · exact quietly_post host (isPlain_failed number)
  · split
    · exact quietly_answer _ (by rfl) (by rfl) (by rfl)
          (isPlain_failed number)
    · exact quietly_answer _ (by rfl) (by rfl) (by rfl) (isPlain_done number)

variable {order : List (Bytes × Bytes)}

theorem quietly_saveClient
    {number handle : Nat}
    (taken : host.saveClient mls number handle order = some target) :
    Quietly host target := by
  unfold Host.saveClient at taken
  split at taken
  · cases taken
    exact quietly_post host (isPlain_failed number)
  · split at taken
    · cases taken
    · cases taken
      exact quietly_post host (isPlain_failed number)
    · cases taken
      exact (quietly_put host _ _).trans
        (quietly_post _ (isPlain_done number))

theorem quietly_resumeOpen
    {handle : Nat} {seed : Seed}
    (taken : host.resumeOpen mls handle seed order = some target) :
    Quietly host target := by
  unfold Host.resumeOpen at taken
  split at taken
  · cases taken
  · next number id blob pending =>
    split at taken
    · split at taken
      · cases taken
        exact quietly_answer _ (by rfl) (by rfl) (by rfl)
          (isPlain_failed number)
      · split at taken
        · cases taken
          exact (quietly_put host _ _).trans (quietly_of_same rfl rfl rfl)
        · cases taken
          exact quietly_of_same rfl rfl rfl
    · cases taken
  · next number client pending =>
    cases taken
    exact quietly_answer _ (by rfl) (by rfl) (by rfl) (isPlain_done number)

/-- A request that is neither a snapshot nor a restore. -/
theorem quietly_receive
    {number : Nat} {request : Request Operation} {seed : Seed}
    (ordinary : isPersistence request = false)
    (taken :
      host.receive mls format number seed order request = some target) :
    Quietly host target := by
  cases request with
  | openClient id =>
      cases taken
      exact quietly_of_same rfl rfl rfl
  | saveClient handle => exact quietly_saveClient taken
  | keyPackage handle =>
      cases taken
      exact quietly_call number handle [] _
  | createGroup handle groupId =>
      cases taken
      exact quietly_call number handle [groupId] _
  | joinGroup handle welcome ratchetTree groupId =>
      cases taken
      exact quietly_call number handle [groupId] _
  | operate handle group operation =>
      cases taken
      exact quietly_call number handle [] _
  | snapshot => cases ordinary
  | restore text => cases ordinary

/-- A snapshot goes on to its next save or to its end. -/
theorem grows_advance
    {number : Nat} {flush : HostTasks.Flush}
    (taken : host.advance mls format number flush order = some target) :
    Grows format host target := by
  unfold Host.advance at taken
  split at taken
  · split at taken
    · cases taken
    · cases taken
      exact ⟨fun _ member => member,
        (quietly_post host (isPlain_snapshotFailed number)).grows.posts⟩
    · next client _ _ blob _ =>
      cases taken
      have grown : Grows format host (host.put client.id blob) :=
        (quietly_put host _ _).grows
      exact ⟨grown.store, grown.posts⟩
  · split at taken
    · cases taken
      exact ⟨fun _ member => member,
        (quietly_post host (isPlain_snapshotFailed number)).grows.posts⟩
    · next text written =>
      cases taken
      refine ⟨fun _ member => member, _, rfl, ?_⟩
      intro post member answer before equal
      cases List.mem_singleton.mp member
      cases equal
      exact written

end Page

/-! ## Snapshots on their way -/

section Rising

variable {format : NumberFormat Number}

/--
The ids grow from `lower` over the snapshots among the answers, oldest first,
to `upper`.
-/
def Rising (format : NumberFormat Number) (upper : CodeUnits → Prop) :
    (lower : CodeUnits → Prop) → List Post → Prop
  | lower, [] => ∀ id, lower id → upper id
  | lower, post :: rest =>
      match post.outcome with
      | .snapshot text _ =>
          (∀ id, lower id → id ∈ storedIds format text) ∧
            Rising format upper (fun id => id ∈ storedIds format text) rest
      | .snapshotFailed => Rising format upper lower rest
      | .done => Rising format upper lower rest
      | .failed => Rising format upper lower rest

variable {upper lower : CodeUnits → Prop} {post : Post} {posts : List Post}

theorem isPlain_or_snapshot (post : Post) :
    IsPlain post ∨
      ∃ text before, post.outcome = .snapshot text before := by
  rcases post with ⟨number, outcome⟩
  cases outcome with
  | snapshot text before => exact Or.inr ⟨text, before, rfl⟩
  | snapshotFailed => exact Or.inl (isPlain_snapshotFailed number)
  | done => exact Or.inl (isPlain_done number)
  | failed => exact Or.inl (isPlain_failed number)

theorem rising_cons_of_plain (plain : IsPlain post) :
    Rising format upper lower (post :: posts) ↔
      Rising format upper lower posts := by
  rw [Rising]
  split
  · next text before outcome => exact absurd outcome (plain text before)
  · exact Iff.rfl
  · exact Iff.rfl
  · exact Iff.rfl

theorem rising_cons_of_snapshot
    {text : CodeUnits} {before : List HostTasks.GroupChange}
    (outcome : post.outcome = .snapshot text before) :
    Rising format upper lower (post :: posts) ↔
      (∀ id, lower id → id ∈ storedIds format text) ∧
        Rising format upper (fun id => id ∈ storedIds format text)
          posts := by
  rw [Rising, outcome]

theorem Rising.weaken
    (rising : Rising format upper lower posts)
    {lowest : CodeUnits → Prop} (less : ∀ id, lowest id → lower id) :
    Rising format upper lowest posts := by
  induction posts with
  | nil => exact fun id member => rising id (less id member)
  | cons post rest induction =>
      rcases isPlain_or_snapshot post with plain | ⟨text, before, outcome⟩
      · rw [rising_cons_of_plain plain] at rising ⊢
        exact induction rising
      · rw [rising_cons_of_snapshot outcome] at rising ⊢
        exact ⟨fun id member => rising.1 id (less id member), rising.2⟩

theorem Rising.raise
    (rising : Rising format upper lower posts)
    {highest : CodeUnits → Prop} (more : ∀ id, upper id → highest id) :
    Rising format highest lower posts := by
  induction posts generalizing lower with
  | nil => exact fun id member => more id (rising id member)
  | cons post rest induction =>
      rcases isPlain_or_snapshot post with plain | ⟨text, before, outcome⟩
      · rw [rising_cons_of_plain plain] at rising ⊢
        exact induction rising
      · rw [rising_cons_of_snapshot outcome] at rising ⊢
        exact ⟨rising.1, induction rising.2⟩

/-- The lower ids are among the upper ones. -/
theorem Rising.bounded
    (rising : Rising format upper lower posts) {id : CodeUnits}
    (member : lower id) : upper id := by
  induction posts generalizing lower with
  | nil => exact rising id member
  | cons post rest induction =>
      rcases isPlain_or_snapshot post with plain | ⟨text, before, outcome⟩
      · exact induction ((rising_cons_of_plain plain).mp rising) member
      · rw [rising_cons_of_snapshot outcome] at rising
        exact induction rising.2 (rising.1 id member)

/-- Plain answers do not matter, nor do snapshots with the upper ids. -/
theorem rising_of_topmost
    (topmost :
      ∀ post ∈ posts, ∀ text before,
        post.outcome = .snapshot text before →
          ∀ id, id ∈ storedIds format text ↔ upper id)
    (bounded : ∀ id, lower id → upper id) :
    Rising format upper lower posts := by
  induction posts generalizing lower with
  | nil => exact bounded
  | cons post rest induction =>
      have others :=
        fun other member => topmost other (List.mem_cons_of_mem post member)
      rcases isPlain_or_snapshot post with plain | ⟨text, before, outcome⟩
      · exact (rising_cons_of_plain plain).mpr (induction others bounded)
      · have same := topmost post List.mem_cons_self text before outcome
        rw [rising_cons_of_snapshot outcome]
        exact ⟨fun id member => (same id).mpr (bounded id member),
          induction others fun id member => (same id).mp member⟩

/-- Answers whose snapshots have the upper ids come last. -/
theorem Rising.append
    (rising : Rising format upper lower posts) {new : List Post}
    (topmost :
      ∀ post ∈ new, ∀ text before,
        post.outcome = .snapshot text before →
          ∀ id, id ∈ storedIds format text ↔ upper id) :
    Rising format upper lower (posts ++ new) := by
  induction posts generalizing lower with
  | nil => exact rising_of_topmost topmost rising
  | cons post rest induction =>
      rw [List.cons_append]
      rcases isPlain_or_snapshot post with plain | ⟨text, before, outcome⟩
      · rw [rising_cons_of_plain plain] at rising ⊢
        exact induction rising
      · rw [rising_cons_of_snapshot outcome] at rising ⊢
        exact ⟨rising.1, induction rising.2⟩

theorem rising_of_plain
    (plain : ∀ post ∈ posts, IsPlain post)
    (bounded : ∀ id, lower id → upper id) :
    Rising format upper lower posts := by
  refine rising_of_topmost ?_ bounded
  intro post member text before outcome
  exact absurd outcome (plain post member text before)

/-- The page makes a step. -/
theorem Rising.grows
    {host target : Host Keypair} {lower : CodeUnits → Prop}
    (rising : Rising format (Written host.store) lower host.posts)
    (grows : Grows format host target) :
    Rising format (Written target.store) lower target.posts := by
  rcases grows.posts with ⟨new, posts, snapshots⟩
  rw [posts]
  refine (rising.raise ?_).append ?_
  · rintro id ⟨member, ordinary⟩
    exact ⟨grows.store id member, ordinary⟩
  · intro post member text before outcome
    exact mem_storedIds_of_snapshot
      (snapshots post member text before outcome)

end Rising

/-! ## The text that is pushed -/

/-- The text in the hand of `ready`. -/
def inHand : Readiness → List CodeUnits
  | .read text => [text]
  | _ => []

/-- The text of a request that pushes one. -/
def pushedText : Nat × Request Operation → Option CodeUnits
  | (_, .restore text) => some text
  | _ => none

/-- The texts that were read and have not reached the page. -/
def Process.pending (process : Process Keypair Operation) :
    List CodeUnits :=
  inHand process.readiness ++ process.wire.filterMap pushedText

/-- `ready` has not come to `getItem`. -/
def Readiness.IsEarly (readiness : Readiness) : Prop :=
  readiness = .idle ∨ readiness = .waiting

theorem inHand_of_isEarly
    {readiness : Readiness} (early : readiness.IsEarly) :
    inHand readiness = [] := by
  rcases early with rfl | rfl
  · rfl
  · rfl

theorem pushedText_of_ordinary
    {number : Nat} {request : Request Operation}
    (ordinary : isPersistence request = false) :
    pushedText (number, request) = none := by
  cases request with
  | restore text => cases ordinary
  | _ => rfl

/-- The page does not have what `ready` will read or has read. -/
structure Waiting
    (format : NumberFormat Number) (process : Process Keypair Operation) :
    Prop where
  behind : process.current = false
  settled : process.Settled
  plain : prototypeName ∉ itemIds format process.item
  pending :
    process.pending = [] ∨
      ∃ text, process.pending = [text] ∧ process.item = some text
  early : process.readiness.IsEarly → process.pending = []

/-- The page has what `ready` read. -/
structure Serving
    (format : NumberFormat Number) (process : Process Keypair Operation) :
    Prop where
  current : process.current = true
  pending : process.pending = []
  late : ¬ process.readiness.IsEarly
  rising :
    Rising format (Written process.page.store)
      (fun id => id ∈ itemIds format process.item) process.page.posts

/-- The invariant of disciplined runs. -/
def Sound
    (format : NumberFormat Number) (process : Process Keypair Operation) :
    Prop :=
  Waiting format process ∨ Serving format process

section Steps

variable {mls : StoredMls Keypair Operation Seed}
variable {format : NumberFormat Number}
variable {process target : Process Keypair Operation}

/-- Fewer pending texts than before. -/
theorem Waiting.pending_of_sublist
    (waiting : Waiting format process) {fewer : List CodeUnits}
    (sublist : fewer.Sublist process.pending) :
    fewer = [] ∨ ∃ text, fewer = [text] ∧ process.item = some text := by
  rcases waiting.pending with none | ⟨text, one, stored⟩
  · rw [none] at sublist
    exact Or.inl (List.sublist_nil.mp sublist)
  · rw [one, List.sublist_singleton] at sublist
    rcases sublist with empty | same
    · exact Or.inl empty
    · exact Or.inr ⟨text, same, stored⟩

variable {wire : List (Nat × Request Operation)}

/-- Part of the wire is gone. -/
theorem pending_sublist (fewer : wire.Sublist process.wire) :
    (inHand process.readiness ++ wire.filterMap pushedText).Sublist
      process.pending :=
  (fewer.filterMap pushedText).append_left _

/-- A page that did nothing about snapshots, and a shorter wire. -/
theorem Waiting.quietly
    (waiting : Waiting format process) {page : Host Keypair}
    (quietly : Quietly process.page page) (fewer : wire.Sublist process.wire) :
    Waiting format { process with page := page, wire := wire } := by
  rcases quietly.posts with ⟨new, posts, plain⟩
  refine ⟨waiting.behind, ⟨?_, ?_, ?_⟩, waiting.plain,
    waiting.pending_of_sublist (pending_sublist fewer), ?_⟩
  · intro sent member
    exact waiting.settled.wire sent (fewer.subset member)
  · intro number
    rw [quietly.flushes]
    exact waiting.settled.flushes number
  · intro post member
    rw [posts] at member
    rcases List.mem_append.mp member with earlier | later
    · exact waiting.settled.posts post earlier
    · exact plain post later
  · intro early
    have sublist := pending_sublist fewer
    rw [waiting.early early] at sublist
    exact List.sublist_nil.mp sublist

/-- A page that kept its ids, and a shorter wire. -/
theorem Serving.grows
    (serving : Serving format process) {page : Host Keypair}
    (grows : Grows format process.page page)
    (fewer : wire.Sublist process.wire) :
    Serving format { process with page := page, wire := wire } := by
  refine ⟨serving.current, ?_, serving.late, serving.rising.grows grows⟩
  have sublist := pending_sublist fewer
  rw [serving.pending] at sublist
  exact List.sublist_nil.mp sublist

theorem pending_send
    (process : Process Keypair Operation) (request : Request Operation) :
    (process.send request).pending =
      process.pending ++
        (pushedText (process.nextId, request)).toList := by
  have wire :
      (process.send request).wire.filterMap pushedText =
        process.wire.filterMap pushedText ++
          (pushedText (process.nextId, request)).toList := by
    rw [Process.send, List.filterMap_append]
    congr 1
  rw [Process.pending, wire, Process.pending, List.append_assoc]
  rfl

theorem Waiting.send
    (waiting : Waiting format process) {request : Request Operation}
    (ordinary : isPersistence request = false) :
    Waiting format (process.send request) := by
  have pending : (process.send request).pending = process.pending := by
    rw [pending_send, pushedText_of_ordinary ordinary]
    exact List.append_nil _
  refine ⟨waiting.behind,
    ⟨?_, waiting.settled.flushes, waiting.settled.posts⟩, waiting.plain,
    ?_, ?_⟩
  · intro sent member
    rcases List.mem_append.mp member with earlier | last
    · exact waiting.settled.wire sent earlier
    · cases List.mem_singleton.mp last
      rintro rfl
      cases ordinary
  · rw [pending]
    exact waiting.pending
  · intro early
    rw [pending]
    exact waiting.early early

theorem Serving.send
    (serving : Serving format process) {request : Request Operation}
    (pushesNothing : pushedText (process.nextId, request) = none) :
    Serving format (process.send request) := by
  refine ⟨serving.current, ?_, serving.late, serving.rising⟩
  rw [pending_send, pushesNothing, serving.pending]
  rfl

/-- `ready` was called. -/
theorem Sound.ready
    (sound : Sound format process) (idle : process.readiness = .idle) :
    Sound format { process with readiness := .waiting } := by
  rcases sound with waiting | serving
  · left
    have none := waiting.early (Or.inl idle)
    have same :
        ({ process with readiness := .waiting } :
            Process Keypair Operation).pending = process.pending := by
      rw [Process.pending, Process.pending, idle]
      rfl
    refine ⟨waiting.behind,
      ⟨waiting.settled.wire, waiting.settled.flushes,
        waiting.settled.posts⟩, waiting.plain, ?_, ?_⟩
    · rw [same]
      exact Or.inl none
    · intro _
      rw [same]
      exact none
  · exact absurd (Or.inl idle) serving.late

/-- Nothing is stored, so the page has all of it. -/
theorem Waiting.serve
    (waiting : Waiting format process) (none : process.pending = [])
    (early : process.readiness.IsEarly)
    (empty : itemIds format process.item = []) :
    Serving format
      { process with readiness := .resolved, current := true } := by
  rw [Process.pending, inHand_of_isEarly early] at none
  refine ⟨rfl, none, ?_, rising_of_plain waiting.settled.posts ?_⟩
  · rintro (impossible | impossible)
    · cases impossible
    · cases impossible
  · intro id member
    rw [empty] at member
    cases member

/-- `getItem`. -/
theorem Sound.readItem
    (sound : Sound format process)
    (ready : process.readiness = .waiting) :
    Sound format process.readItem := by
  have early : process.readiness.IsEarly := Or.inr ready
  rcases sound with waiting | serving
  · have none := waiting.early early
    unfold Process.readItem
    split
    · next empty =>
      right
      exact waiting.serve none early (by rw [empty]; rfl)
    · next empty =>
      right
      exact waiting.serve none early (by rw [empty]; rfl)
    · next text _ stored =>
      left
      rw [Process.pending, inHand_of_isEarly early, List.nil_append]
        at none
      refine ⟨waiting.behind,
        ⟨waiting.settled.wire, waiting.settled.flushes,
          waiting.settled.posts⟩, waiting.plain,
        Or.inr ⟨text, ?_, stored⟩, ?_⟩
      · rw [Process.pending, none]
        rfl
      · rintro (impossible | impossible)
        · cases impossible
        · cases impossible
  · exact absurd early serving.late

/-- The text goes onto the wire. -/
theorem Sound.push
    (sound : Sound format process) {text : CodeUnits}
    (read : process.readiness = .read text) :
    Sound format (process.push text) := by
  have hand : inHand process.readiness = [text] := by
    rw [read]
    rfl
  rcases sound with waiting | serving
  · left
    rcases waiting.pending with none | ⟨other, one, stored⟩
    · rw [Process.pending, hand] at none
      cases none
    · rw [Process.pending, hand, List.singleton_append,
        List.cons.injEq] at one
      rcases one with ⟨rfl, wire⟩
      have pending : (process.push text).pending = [text] := by
        rw [Process.pending]
        change
          (process.wire ++
              [(process.nextId, Request.restore text)]).filterMap
            pushedText = [text]
        rw [List.filterMap_append, wire]
        rfl
      refine ⟨waiting.behind,
        ⟨?_, waiting.settled.flushes, waiting.settled.posts⟩,
        waiting.plain, Or.inr ⟨text, pending, stored⟩, ?_⟩
      · intro sent member
        rcases List.mem_append.mp member with earlier | last
        · exact waiting.settled.wire sent earlier
        · cases List.mem_singleton.mp last
          intro equal
          cases equal
      · rintro (impossible | impossible)
        · cases impossible
        · cases impossible
  · have none := serving.pending
    rw [Process.pending, hand] at none
    cases none

/-- The text that is pushed is the only one on its way. -/
theorem Waiting.pushed
    (waiting : Waiting format process) {number : Nat} {text : CodeUnits}
    {rest : List (Nat × Request Operation)}
    (first : process.wire = (number, .restore text) :: rest) :
    inHand process.readiness = [] ∧ rest.filterMap pushedText = [] ∧
      itemIds format process.item = storedIds format text ∧
        ¬ process.readiness.IsEarly := by
  have split :
      process.pending =
        inHand process.readiness ++
          text :: rest.filterMap pushedText := by
    rw [Process.pending, first]
    rfl
  have late : ¬ process.readiness.IsEarly := by
    intro early
    have none := waiting.early early
    rw [split] at none
    simp at none
  rcases waiting.pending with none | ⟨other, one, stored⟩
  · rw [none] at split
    have lengths := congrArg List.length split
    simp at lengths
  · rw [split] at one
    have hand : inHand process.readiness = [] := by
      cases found : inHand process.readiness with
      | nil => rfl
      | cons head tail =>
          have lengths := congrArg List.length one
          simp [found] at lengths
    rw [hand, List.nil_append, List.cons.injEq] at one
    rcases one with ⟨rfl, empty⟩
    refine ⟨hand, empty, ?_, late⟩
    rw [stored]
    rfl

/-- Another plain answer is posted. -/
theorem Process.Settled.plain_snoc
    (settled : process.Settled) {last : Post} (plain : IsPlain last) :
    ∀ post ∈ process.page.posts ++ [last], IsPlain post := by
  intro post member
  rcases List.mem_append.mp member with earlier | new
  · exact settled.posts post earlier
  · rw [List.mem_singleton.mp new]
    exact plain

/-- The page takes the text that `ready` read. -/
theorem Waiting.restore
    (waiting : Waiting format process) {number : Nat} {text : CodeUnits}
    {rest : List (Nat × Request Operation)}
    (first : process.wire = (number, .restore text) :: rest) :
    Sound format
      { process with
        page := process.page.restore format number text
        wire := rest
        current :=
          process.current ||
            pushes format process.page
              (.restore text : Request Operation) } := by
  rcases waiting.pushed first with ⟨hand, empty, stored, late⟩
  have fewer : rest.Sublist process.wire := by
    rw [first]
    exact List.sublist_cons_self _ _
  cases restored : HostStore.restore format process.page.store text with
  | mk store result =>
      cases result with
      | ok accepted =>
          right
          have page :
              process.page.restore format number text =
                { process.page with store }.post number .done := by
            simp only [Host.restore, restored]
          have pushed :
              pushes format process.page
                (.restore text : Request Operation) = true := by
            simp only [pushes, restored]
          refine ⟨?_, ?_, late, ?_⟩
          · simp only [pushed, Bool.or_true]
          · rw [Process.pending]
            simp only [hand, empty, List.append_nil]
          · simp only [page]
            apply rising_of_plain
            · exact waiting.settled.plain_snoc (isPlain_done number)
            · intro id member
              rw [stored] at member
              refine ⟨(mem_storedIds_of_restore restored id).mp member, ?_⟩
              rintro rfl
              apply waiting.plain
              rw [stored]
              exact member
      | error error =>
          left
          have page :
              process.page.restore format number text =
                { process.page with store }.post number .failed := by
            simp only [Host.restore, restored]
          have pushed :
              pushes format process.page
                (.restore text : Request Operation) = false := by
            simp only [pushes, restored]
          refine ⟨?_, ⟨?_, ?_, ?_⟩, waiting.plain, ?_, ?_⟩
          · simp only [pushed, waiting.behind, Bool.or_false]
          · intro sent member
            exact waiting.settled.wire sent (fewer.subset member)
          · intro other
            simp only [page]
            exact waiting.settled.flushes other
          · simp only [page]
            exact waiting.settled.plain_snoc (isPlain_failed number)
          · left
            rw [Process.pending]
            simp only [hand, empty, List.append_nil]
          · intro early
            exact absurd early late

/-- A request arrives. -/
theorem Sound.arrive
    (sound : Sound format process) {seed : Seed}
    {order : List (Bytes × Bytes)}
    (taken : process.arrive mls format seed order = some target) :
    Sound format target := by
  unfold Process.arrive at taken
  split at taken
  · cases taken
  · next number request rest first =>
    have fewer : rest.Sublist process.wire := by
      rw [first]
      exact List.sublist_cons_self _ _
    split at taken
    · cases taken
    · next page received =>
      cases taken
      by_cases ordinary : isPersistence request = false
      · have quietly := quietly_receive ordinary received
        have pushed : pushes format process.page request = false := by
          cases request with
          | restore text => cases ordinary
          | _ => rfl
        rw [pushed, Bool.or_false]
        rcases sound with waiting | serving
        · exact Or.inl (waiting.quietly quietly fewer)
        · exact Or.inr (serving.grows quietly.grows fewer)
      · cases request with
        | snapshot =>
            rcases sound with waiting | serving
            · have absent :=
                waiting.settled.wire (number, .snapshot) (by
                  rw [first]
                  exact List.mem_cons_self)
              exact absurd rfl absent
            · right
              have grows :=
                grows_advance (advance_of_receive_snapshot seed received)
              have kept := serving.grows grows fewer
              exact ⟨by rw [serving.current]; rfl, kept.pending,
                kept.late, kept.rising⟩
        | restore text =>
            cases received
            rcases sound with waiting | serving
            · exact waiting.restore first
            · have none := serving.pending
              rw [Process.pending, first] at none
              have lengths := congrArg List.length none
              simp [pushedText] at lengths
        | _ => exact absurd rfl ordinary

/-- Settling a promise changes the stored text, the promise, or neither. -/
theorem settle_cases (process : Process Keypair Operation) (post : Post) :
    (∃ text before saves,
        post.outcome = .snapshot text before ∧
          process.settle post =
            { process with item := some text, saves := saves }) ∨
      (∃ saves, process.settle post = { process with saves := saves }) ∨
        ∃ readiness,
          process.settle post = { process with readiness := readiness } ∧
            inHand readiness = inHand process.readiness ∧
              (readiness.IsEarly → process.readiness.IsEarly) := by
  unfold Process.settle
  split
  · split
    · next text before outcome =>
      exact Or.inl ⟨text, before, _, outcome, rfl⟩
    · exact Or.inr (Or.inl ⟨_, rfl⟩)
  · split
    · next restoring =>
      right
      right
      rw [restoring]
      split
      · refine ⟨.resolved, rfl, rfl, ?_⟩
        rintro (impossible | impossible)
        · cases impossible
        · cases impossible
      · refine ⟨.rejected, rfl, rfl, ?_⟩
        rintro (impossible | impossible)
        · cases impossible
        · cases impossible
    · exact Or.inr (Or.inr ⟨process.readiness, rfl, rfl, fun early => early⟩)

/-- An answer is delivered while the page is behind. -/
theorem Waiting.deliver
    (waiting : Waiting format process) {post : Post} {rest : List Post}
    (first : process.page.posts = post :: rest) :
    Waiting format ((process.behindPost rest).settle post) ∧
      ((process.behindPost rest).settle post).item = process.item := by
  have plain : IsPlain post :=
    waiting.settled.posts post (by rw [first]; exact List.mem_cons_self)
  have settled : (process.behindPost rest).Settled := by
    refine ⟨waiting.settled.wire, waiting.settled.flushes, ?_⟩
    intro other member
    apply waiting.settled.posts other
    rw [first]
    exact List.mem_cons_of_mem _ member
  rcases settle_cases (process.behindPost rest) post with
    ⟨text, before, _, outcome, _⟩ | ⟨saves, same⟩ |
      ⟨readiness, same, hand, early⟩
  · exact absurd outcome (plain text before)
  · rw [same]
    exact ⟨⟨waiting.behind,
      ⟨settled.wire, settled.flushes, settled.posts⟩, waiting.plain,
      waiting.pending, waiting.early⟩, rfl⟩
  · rw [same]
    have pending :
        ({ process.behindPost rest with readiness := readiness } :
            Process Keypair Operation).pending = process.pending := by
      rw [Process.pending]
      exact congrArg
        (fun texts => texts ++ process.wire.filterMap pushedText) hand
    refine ⟨⟨waiting.behind,
      ⟨settled.wire, settled.flushes, settled.posts⟩, waiting.plain,
      ?_, ?_⟩, rfl⟩
    · rw [pending]
      exact waiting.pending
    · intro now
      rw [pending]
      exact waiting.early (early now)

/-- An answer is delivered, and may be the next stored text. -/
theorem Serving.deliver
    (serving : Serving format process) {post : Post} {rest : List Post}
    (first : process.page.posts = post :: rest) :
    Serving format ((process.behindPost rest).settle post) ∧
      ∀ id ∈ itemIds format process.item,
        id ∈
          itemIds format ((process.behindPost rest).settle post).item := by
  have rising := serving.rising
  rw [first] at rising
  have skipped :
      Rising format (Written process.page.store)
        (fun id => id ∈ itemIds format process.item) rest := by
    rcases isPlain_or_snapshot post with plain | ⟨text, before, outcome⟩
    · exact (rising_cons_of_plain plain).mp rising
    · rw [rising_cons_of_snapshot outcome] at rising
      exact rising.2.weaken rising.1
  rcases settle_cases (process.behindPost rest) post with
    ⟨text, before, saves, outcome, same⟩ | ⟨saves, same⟩ |
      ⟨readiness, same, hand, early⟩
  · rw [same]
    rw [rising_cons_of_snapshot outcome] at rising
    exact ⟨⟨serving.current, serving.pending, serving.late, rising.2⟩,
      rising.1⟩
  · rw [same]
    exact ⟨⟨serving.current, serving.pending, serving.late, skipped⟩,
      fun _ member => member⟩
  · rw [same]
    refine ⟨⟨serving.current, ?_, fun now => serving.late (early now),
      skipped⟩, fun _ member => member⟩
    have none : inHand process.readiness ++ _ = [] := serving.pending
    have pending : inHand readiness ++ _ = [] := hand ▸ none
    exact pending

/-- The page is loaded again while no snapshot is on its way. -/
theorem Sound.reload
    (sound : Sound format process) (settled : process.Settled)
    (lost : Nat) : Sound format (process.reload lost) := by
  have fewer : (process.wire.drop lost).Sublist process.wire :=
    List.drop_sublist _ _
  have sublist := pending_sublist fewer
  have still :
      ∀ sent ∈ process.wire.drop lost, sent.2 ≠ .snapshot :=
    fun sent member => settled.wire sent (fewer.subset member)
  left
  rcases sound with waiting | serving
  · refine ⟨rfl, ⟨still, fun _ => rfl, settled.posts⟩, waiting.plain,
      waiting.pending_of_sublist sublist, ?_⟩
    intro early
    rw [waiting.early early] at sublist
    exact List.sublist_nil.mp sublist
  · rw [serving.pending] at sublist
    have none := List.sublist_nil.mp sublist
    refine ⟨rfl, ⟨still, fun _ => rfl, settled.posts⟩, ?_, Or.inl none,
      fun _ => none⟩
    intro member
    exact (serving.rising.bounded member).2 rfl

theorem item_arrive
    {seed : Seed} {order : List (Bytes × Bytes)}
    (taken : process.arrive mls format seed order = some target) :
    target.item = process.item := by
  unfold Process.arrive at taken
  split at taken
  · cases taken
  · split at taken
    · cases taken
    · cases taken
      rfl

/-- Every disciplined event keeps the invariant and the stored ids. -/
theorem Sound.step
    (sound : Sound format process) {event : Event Operation Seed}
    (disciplined : Disciplined process event)
    (taken : (machine mls format).step process event = some target) :
    Sound format target ∧
      ∀ id ∈ itemIds format process.item,
        id ∈ itemIds format target.item := by
  cases event with
  | announce =>
      cases taken
      refine ⟨?_, fun _ member => member⟩
      rcases sound with waiting | serving
      · exact Or.inl ⟨waiting.behind,
          ⟨waiting.settled.wire, waiting.settled.flushes,
            waiting.settled.posts⟩,
          waiting.plain, waiting.pending, waiting.early⟩
      · exact Or.inr ⟨serving.current, serving.pending, serving.late,
          serving.rising⟩
  | ready =>
      simp only [machine] at taken
      split at taken
      · next idle =>
        cases taken
        exact ⟨sound.ready idle, fun _ member => member⟩
      · cases taken
        exact ⟨sound, fun _ member => member⟩
  | readItem =>
      simp only [machine] at taken
      split at taken
      · next enabled =>
        cases taken
        refine ⟨sound.readItem enabled.1, ?_⟩
        unfold Process.readItem
        split
        · exact fun _ member => member
        · exact fun _ member => member
        · exact fun _ member => member
      · cases taken
  | push =>
      simp only [machine] at taken
      split at taken
      · next text read =>
        cases taken
        exact ⟨sound.push read, fun _ member => member⟩
      · cases taken
  | request request =>
      simp only [machine] at taken
      split at taken
      · cases taken
      · next ordinary =>
        cases taken
        rw [Bool.not_eq_true] at ordinary
        refine ⟨?_, fun _ member => member⟩
        rcases sound with waiting | serving
        · exact Or.inl (waiting.send ordinary)
        · exact Or.inr
            (serving.send (pushedText_of_ordinary ordinary))
  | save =>
      cases taken
      refine ⟨?_, fun _ member => member⟩
      rcases sound with waiting | serving
      · have behind := waiting.behind
        rw [show process.current = true from disciplined] at behind
        cases behind
      · have sent : Serving format (process.send .snapshot) :=
          serving.send rfl
        exact Or.inr ⟨sent.current, sent.pending, sent.late, sent.rising⟩
  | arrive seed order =>
      exact ⟨sound.arrive taken, by
        rw [item_arrive taken]
        exact fun _ member => member⟩
  | lose =>
      simp only [machine] at taken
      split at taken
      · cases taken
      · next rest first =>
        cases taken
        refine ⟨?_, fun _ member => member⟩
        have fewer : rest.Sublist process.wire := by
          rw [first]
          exact List.sublist_cons_self _ _
        have still : Quietly process.page process.page :=
          quietly_of_same rfl rfl rfl
        rcases sound with waiting | serving
        · exact Or.inl (waiting.quietly still fewer)
        · exact Or.inr (serving.grows still.grows fewer)
  | resumeOpen handle seed order =>
      rcases Option.map_eq_some_iff.mp taken with ⟨page, resumed, rfl⟩
      refine ⟨?_, fun _ member => member⟩
      have quietly := quietly_resumeOpen resumed
      rcases sound with waiting | serving
      · exact Or.inl (waiting.quietly quietly (List.Sublist.refl _))
      · exact Or.inr (serving.grows quietly.grows (List.Sublist.refl _))
  | resumeSnapshot number order =>
      simp only [machine] at taken
      split at taken
      · cases taken
      · next flush pending =>
        rcases Option.map_eq_some_iff.mp taken with ⟨page, resumed, rfl⟩
        refine ⟨?_, fun _ member => member⟩
        rcases sound with waiting | serving
        · rw [waiting.settled.flushes number] at pending
          cases pending
        · exact Or.inr
            (serving.grows (grows_advance resumed) (List.Sublist.refl _))
  | deliver =>
      simp only [machine] at taken
      split at taken
      · cases taken
      · next post rest first =>
        cases taken
        rcases sound with waiting | serving
        · rcases waiting.deliver first with ⟨kept, same⟩
          exact ⟨Or.inl kept, by
            rw [same]
            exact fun _ member => member⟩
        · rcases serving.deliver first with ⟨kept, more⟩
          exact ⟨Or.inr kept, more⟩
  | reload lost =>
      cases taken
      exact ⟨sound.reload disciplined lost, fun _ member => member⟩

end Steps

/--
In every disciplined run, starting with a text that has no id `__proto__`, no
step removes a client id from the value under the persistence key.
-/
theorem disciplined_steps_keep_ids
    (mls : StoredMls Keypair Operation Seed) (format : NumberFormat Number)
    (item : Option CodeUnits)
    (plain : prototypeName ∉ itemIds format item)
    (source target : Process Keypair Operation)
    (reached :
      Reaches (machine mls format) Disciplined (Process.start item) source)
    (event : Event Operation Seed)
    (disciplined : Disciplined source event)
    (taken : (machine mls format).step source event = some target) :
    ∀ id ∈ itemIds format source.item, id ∈ itemIds format target.item := by
  have sound : Sound format source := by
    apply reached.invariant
    · exact Or.inl ⟨rfl,
        ⟨fun _ member => (List.not_mem_nil member).elim, fun _ => rfl,
          fun _ member => (List.not_mem_nil member).elim⟩,
        plain, Or.inl rfl, fun _ => rfl⟩
    · intro before step after sound permitted stepped
      exact (sound.step permitted stepped).1
  exact (sound.step disciplined taken).2

/-! ## Runs with one stored client -/

/-- The id of a client. -/
def ann : CodeUnits :=
  literal "ann"

/-- The stored text of a page that had only this client. -/
def annItem : CodeUnits :=
  literal "eyJhbm4iOiJCdz09In0="

/-- A process that finds this text. -/
def annStart : Process UInt8 Unit :=
  Process.start (some annItem)

/-- A check that is enough for the discipline. -/
def isCareful (process : Process UInt8 Unit) : Event Unit UInt8 → Bool
  | .save => process.current
  | .reload _ => false
  | _ => true

theorem disciplined_of_isCareful
    (process : Process UInt8 Unit) (event : Event Unit UInt8)
    (careful : isCareful process event = true) :
    Disciplined process event := by
  cases event with
  | save => exact careful
  | reload lost => cases careful
  | _ => trivial

/-- The process when the answer to a `save` behind `ready` is on its way. -/
def annSaving : Process UInt8 Unit :=
  (((machine recordMls decimalFormat).restrict isCareful).run annStart
    [.announce, .ready, .readItem, .push, .arrive 0 [], .deliver, .save,
      .arrive 0 []]).get (by decide +kernel)

/-- The process when this answer was delivered. -/
def annSaved : Process UInt8 Unit :=
  ((machine recordMls decimalFormat).step annSaving .deliver).get
    (by decide +kernel)

/-- A save behind `ready` overwrites the text and keeps the id. -/
theorem disciplined_steps_keep_ids_ready :
    annSaving.saves = [2] ∧ annSaved.saves = [] ∧
      ann ∈ itemIds decimalFormat annSaving.item ∧
        ann ∈ itemIds decimalFormat annSaved.item := by
  have reached :
      Reaches (machine recordMls decimalFormat) Disciplined annStart
        annSaving :=
    reaches_of_run disciplined_of_isCareful (Option.some_get _).symm
  have delivered :
      (machine recordMls decimalFormat).step annSaving .deliver =
        some annSaved :=
    (Option.some_get _).symm
  have stored : ann ∈ itemIds decimalFormat annSaving.item := by
    decide +kernel
  refine ⟨by decide +kernel, by decide +kernel, stored, ?_⟩
  exact
    disciplined_steps_keep_ids recordMls decimalFormat (some annItem)
      (by decide +kernel) annSaving annSaved reached .deliver trivial
      delivered ann stored

/-- `save` before `ready`. -/
def earlySave : List (Event Unit UInt8) :=
  [.announce, .save, .arrive 0 []]

/-- `ready`, then the page is loaded again, then `save`. -/
def saveBehindReload : List (Event Unit UInt8) :=
  [.announce, .ready, .readItem, .push, .arrive 0 [], .deliver,
    .reload 0, .announce, .save, .arrive 0 []]

/-- `ready`, then the page is loaded again during a `save`. -/
def reloadDuringSave : List (Event Unit UInt8) :=
  [.announce, .ready, .readItem, .push, .arrive 0 [], .deliver,
    .save, .reload 0, .announce, .arrive 0 []]

/-- Whether the id is stored before and behind one more delivery. -/
def aroundDelivery (events : List (Event Unit UInt8)) :
    Option (Bool × Bool) :=
  ((machine recordMls decimalFormat).run annStart events).bind
    fun source =>
      ((machine recordMls decimalFormat).step source .deliver).map
        fun target =>
          (decide (ann ∈ itemIds decimalFormat source.item),
            decide (ann ∈ itemIds decimalFormat target.item))

/-- Behind these events one more delivery takes `ann` out of the item. -/
def LosesAnn (events : List (Event Unit UInt8)) : Prop :=
  ∃ source target,
    (machine recordMls decimalFormat).run annStart events = some source ∧
      (machine recordMls decimalFormat).step source .deliver =
          some target ∧
        ann ∈ itemIds decimalFormat source.item ∧
          ann ∉ itemIds decimalFormat target.item

theorem losesAnn_of_aroundDelivery
    {events : List (Event Unit UInt8)}
    (observed : aroundDelivery events = some (true, false)) :
    LosesAnn events := by
  rcases Option.bind_eq_some_iff.mp observed with ⟨source, run, delivery⟩
  rcases Option.map_eq_some_iff.mp delivery with ⟨target, taken, checked⟩
  rcases Prod.mk.inj checked with ⟨before, behind⟩
  exact ⟨source, target, run, taken, of_decide_eq_true before,
    of_decide_eq_false behind⟩

/--
A `save` before `ready`, behind a second load of the page, or across one,
replaces the stored text by the text of an empty store.
-/
theorem saves_lose_ids :
    LosesAnn earlySave ∧ LosesAnn saveBehindReload ∧
      LosesAnn reloadDuringSave :=
  ⟨losesAnn_of_aroundDelivery (by decide +kernel),
    losesAnn_of_aroundDelivery (by decide +kernel),
    losesAnn_of_aroundDelivery (by decide +kernel)⟩

end Mls4rn.ReactNative.Persistence
