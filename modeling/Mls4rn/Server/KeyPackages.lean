import Mls4rn.Lib.Execution
import Mls4rn.Lib.InsertionMap
import Mls4rn.Lib.Throwing
import Mls4rn.Server.HttpException

/-!
# The directory of key packages

Clients publish key packages for themselves, and others claim them one by one
to add the owner to a group.  Every user has a queue and possibly a package of
last resort, which is handed out as often as the queue is found empty.

A run is recorded as the list of its calls with their results.  What was
published and what was handed out from the queue are read off that record,
and the queue is always the difference.
-/

namespace Mls4rn.Server.KeyPackages

open Mls4rn.Lib
open Mls4rn.Lib.Execution
open Mls4rn.Lib.Utf16

/-! ## The service -/

/-- `KeyPackagesService`: its two private maps. -/
structure Service where
  queues : InsertionMap CodeUnits (List CodeUnits)
  lastResort : InsertionMap CodeUnits CodeUnits

/-- The service behind its start. -/
def Service.new : Service where
  queues := InsertionMap.empty
  lastResort := InsertionMap.empty

/-- `this.queues.get(userId) ?? []`. -/
def queue (service : Service) (userId : CodeUnits) : List CodeUnits :=
  (service.queues.get userId).getD []

/-- The answer to a publication. -/
structure Published where
  available : Nat
  lastResort : Bool
deriving DecidableEq, Repr

/-- `publish`. -/
def publish
    (service : Service) (userId : CodeUnits) (keyPackages : List CodeUnits)
    (lastResort : Option CodeUnits) : Published × Service :=
  let longer := queue service userId ++ keyPackages
  let fallbacks :=
    match given lastResort with
    | some package => service.lastResort.set userId package
    | none => service.lastResort
  ({ available := longer.length
     lastResort := (fallbacks.get userId).isSome },
    { queues := service.queues.set userId longer
      lastResort := fallbacks })

/-- Where a claimed package comes from. -/
inductive Source where
  | queue
  | lastResort
deriving DecidableEq, Repr

/-- The exception of `claim`. -/
def noneAvailable (userId : CodeUnits) : HttpException :=
  .notFound
    (literal "no key package available for \"" ++ userId ++ literal "\"")

/-- `claim`. -/
def claim (service : Service) (userId : CodeUnits) :
    Except HttpException CodeUnits × Service :=
  match queue service userId with
  | first :: rest =>
      (.ok first, { service with queues := service.queues.set userId rest })
  | [] =>
      match given (service.lastResort.get userId) with
      | some fallback => (.ok fallback, service)
      | none => (.error (noneAvailable userId), service)

/-- `claim`, with the branch that returns. -/
def claimFrom (service : Service) (userId : CodeUnits) :
    Except HttpException (Source × CodeUnits) × Service :=
  match queue service userId with
  | first :: rest =>
      (.ok (.queue, first),
        { service with queues := service.queues.set userId rest })
  | [] =>
      match given (service.lastResort.get userId) with
      | some fallback => (.ok (.lastResort, fallback), service)
      | none => (.error (noneAvailable userId), service)

/-- `available`. -/
def available (service : Service) (userId : CodeUnits) : Nat :=
  (queue service userId).length

/-! ## The controller -/

/-- `PublishBody`; a missing field, or one of a wrong type, is `none`. -/
structure PublishBody where
  userId : Option CodeUnits
  keyPackages : Option (List CodeUnits)
  lastResort : Option CodeUnits

/-- `KeyPackagesController.publish`. -/
def postKeyPackages (body : PublishBody) :
    Throwing Service HttpException Published := fun service =>
  match given body.userId, body.keyPackages with
  | some userId, some keyPackages =>
      let (published, after) :=
        publish service userId keyPackages body.lastResort
      (.ok published, after)
  | _, _ =>
      (.error
        (.badRequest (literal "userId and keyPackages[] are required")),
        service)

/-- `KeyPackagesController.claim`. -/
def postClaim (userId : CodeUnits) :
    Throwing Service HttpException CodeUnits := fun service =>
  claim service userId

/-- `KeyPackagesController.available`. -/
def getAvailable (userId : CodeUnits) :
    Throwing Service HttpException Nat := fun service =>
  (.ok (available service userId), service)

/-! ## Runs -/

/-- The calls that change the service. -/
inductive Call where
  | publish
      (userId : CodeUnits) (keyPackages : List CodeUnits)
      (lastResort : Option CodeUnits)
  | claim (userId : CodeUnits)

/-- A call and what came of it. -/
inductive Entry where
  | published
      (userId : CodeUnits) (keyPackages : List CodeUnits)
      (lastResort : Option CodeUnits)
  | claimed
      (userId : CodeUnits)
      (result : Except HttpException (Source × CodeUnits))

/-- The service and the record of its calls. -/
structure Directory where
  service : Service
  record : List Entry

/-- The directory behind the start of the service. -/
def Directory.new : Directory where
  service := Service.new
  record := []

/-- The directory serves one call after the other. -/
def machine : Machine Directory Call where
  step directory
    | .publish userId keyPackages lastResort =>
        some
          { service :=
              (publish directory.service userId keyPackages lastResort).2
            record :=
              directory.record ++ [.published userId keyPackages lastResort] }
    | .claim userId =>
        some
          { service := (claimFrom directory.service userId).2
            record :=
              directory.record ++
                [.claimed userId (claimFrom directory.service userId).1] }

/-- The packages an entry publishes for a user. -/
def Entry.packages (userId : CodeUnits) : Entry → List CodeUnits
  | .published owner keyPackages _ =>
      if owner = userId then keyPackages else []
  | .claimed _ _ => []

/-- The package an entry takes from the queue of a user. -/
def Entry.taken (userId : CodeUnits) : Entry → List CodeUnits
  | .claimed owner (.ok (.queue, package)) =>
      if owner = userId then [package] else []
  | _ => []

/-- The package of last resort an entry sets for a user. -/
def Entry.fallback (userId : CodeUnits) : Entry → List CodeUnits
  | .published owner _ lastResort =>
      if owner = userId then (given lastResort).toList else []
  | .claimed _ _ => []

/-- All packages published for a user, in order. -/
def packagesFor (record : List Entry) (userId : CodeUnits) :
    List CodeUnits :=
  record.flatMap (Entry.packages userId)

/-- All packages handed out from the queue of a user, in order. -/
def takenFor (record : List Entry) (userId : CodeUnits) :
    List CodeUnits :=
  record.flatMap (Entry.taken userId)

/-- The last package of last resort set for a user. -/
def lastResortFor (record : List Entry) (userId : CodeUnits) :
    Option CodeUnits :=
  (record.flatMap (Entry.fallback userId)).getLast?

/-! ## What a call does -/

section Calls

variable (service : Service) (userId : CodeUnits)

theorem queue_publish
    (keyPackages : List CodeUnits) (lastResort : Option CodeUnits)
    (other : CodeUnits) :
    queue (publish service userId keyPackages lastResort).2 other =
      queue service other ++ if userId = other then keyPackages else [] := by
  by_cases same : userId = other
  · subst same
    simp [queue, publish, InsertionMap.get_set_self]
  · have different : other ≠ userId := fun equal => same equal.symm
    simp [queue, publish, InsertionMap.get_set_of_ne _ _ different, same]

/-- The fallback of a user is replaced by a package that is not empty. -/
theorem lastResort_publish
    (keyPackages : List CodeUnits) (lastResort : Option CodeUnits)
    (other : CodeUnits) :
    (publish service userId keyPackages lastResort).2.lastResort.get other =
      (if userId = other then given lastResort else none).or
        (service.lastResort.get other) := by
  simp only [publish]
  cases given lastResort with
  | none => simp
  | some package =>
      rw [InsertionMap.get_set]
      by_cases same : userId = other
      · simp [same]
      · have different : other ≠ userId := fun equal => same equal.symm
        simp [same, different]

/-- The answer to a publication describes the state behind it. -/
theorem publish_answer
    (keyPackages : List CodeUnits) (lastResort : Option CodeUnits) :
    (publish service userId keyPackages lastResort).1 =
      { available :=
          available (publish service userId keyPackages lastResort).2 userId
        lastResort :=
          ((publish service userId keyPackages
            lastResort).2.lastResort.get userId).isSome } := by
  simp [publish, available, queue, InsertionMap.get_set_self]

/-- A claim takes from the queue, falls back, or throws. -/
theorem claimFrom_cases :
    (∃ first rest,
      queue service userId = first :: rest ∧
        claimFrom service userId =
          (.ok (.queue, first),
            { service with queues := service.queues.set userId rest })) ∨
    (∃ package,
      queue service userId = [] ∧
        given (service.lastResort.get userId) = some package ∧
        claimFrom service userId = (.ok (.lastResort, package), service)) ∨
    (queue service userId = [] ∧
      given (service.lastResort.get userId) = none ∧
      claimFrom service userId =
        (.error (noneAvailable userId), service)) := by
  unfold claimFrom
  cases queue service userId with
  | cons first rest => exact Or.inl ⟨first, rest, rfl, rfl⟩
  | nil =>
      cases given (service.lastResort.get userId) with
      | some package => exact Or.inr (Or.inl ⟨package, rfl, rfl, rfl⟩)
      | none => exact Or.inr (Or.inr ⟨rfl, rfl, rfl⟩)

/-- A claim, without the branch that returns. -/
theorem claim_eq_claimFrom :
    claim service userId =
      ((claimFrom service userId).1.map Prod.snd,
        (claimFrom service userId).2) := by
  unfold claim claimFrom
  cases queue service userId with
  | cons first rest => rfl
  | nil =>
      cases given (service.lastResort.get userId) with
      | some package => rfl
      | none => rfl

theorem queue_set (rest : List CodeUnits) (other : CodeUnits) :
    queue { service with queues := service.queues.set userId rest } other =
      if other = userId then rest else queue service other := by
  rw [queue, InsertionMap.get_set]
  split
  · rfl
  · rfl

/-- A claim takes what it returns from the front of one queue. -/
theorem queue_claimFrom (other : CodeUnits) :
    queue service other =
      (Entry.claimed userId (claimFrom service userId).1).taken other ++
        queue (claimFrom service userId).2 other := by
  rcases claimFrom_cases service userId with
    ⟨first, rest, waiting, claimed⟩ | ⟨package, -, -, claimed⟩ |
      ⟨-, -, claimed⟩
  · rw [claimed, queue_set]
    by_cases same : userId = other
    · subst same
      rw [waiting]
      simp [Entry.taken]
    · have different : other ≠ userId := fun equal => same equal.symm
      simp [Entry.taken, same, different]
  · rw [claimed]
    rfl
  · rw [claimed]
    rfl

theorem lastResort_claimFrom :
    (claimFrom service userId).2.lastResort = service.lastResort := by
  rcases claimFrom_cases service userId with
    ⟨first, rest, -, claimed⟩ | ⟨package, -, -, claimed⟩ | ⟨-, -, claimed⟩
  · rw [claimed]
  · rw [claimed]
  · rw [claimed]

end Calls

/-! ## The balance of a run -/

section Record

variable (record : List Entry) (entry : Entry) (userId : CodeUnits)

theorem packagesFor_snoc :
    packagesFor (record ++ [entry]) userId =
      packagesFor record userId ++ entry.packages userId := by
  simp [packagesFor]

theorem takenFor_snoc :
    takenFor (record ++ [entry]) userId =
      takenFor record userId ++ entry.taken userId := by
  simp [takenFor]

theorem lastResortFor_snoc :
    lastResortFor (record ++ [entry]) userId =
      (entry.fallback userId).getLast?.or (lastResortFor record userId) := by
  simp [lastResortFor, List.getLast?_append]

end Record

/--
What was published for a user is what was taken from the queue and what is
still in it; the fallback is the last one that was set.
-/
structure Balanced (directory : Directory) : Prop where
  queue :
    ∀ userId,
      packagesFor directory.record userId =
        takenFor directory.record userId ++ queue directory.service userId
  fallback :
    ∀ userId,
      directory.service.lastResort.get userId =
        lastResortFor directory.record userId
  filled :
    ∀ userId package,
      directory.service.lastResort.get userId = some package → package ≠ []

theorem Balanced.new : Balanced Directory.new where
  queue _ := rfl
  fallback _ := rfl
  filled _ _ impossible := by cases impossible

variable {directory : Directory}

theorem Balanced.publish
    (balanced : Balanced directory)
    (userId : CodeUnits) (keyPackages : List CodeUnits)
    (lastResort : Option CodeUnits) :
    Balanced
      { service :=
          (publish directory.service userId keyPackages lastResort).2
        record :=
          directory.record ++ [.published userId keyPackages lastResort] } where
  queue other := by
    rw [packagesFor_snoc, takenFor_snoc, queue_publish, balanced.queue other]
    simp [Entry.packages, Entry.taken]
  fallback other := by
    rw [lastResort_publish, lastResortFor_snoc, balanced.fallback other]
    by_cases same : userId = other
    · simp only [Entry.fallback, same, if_true]
      cases given lastResort with
      | none => rfl
      | some package => rfl
    · simp [Entry.fallback, same]
  filled other package stored := by
    rw [lastResort_publish] at stored
    rcases Option.or_eq_some_iff.mp stored with set | ⟨-, kept⟩
    · split at set
      · exact (given_eq_some_iff.mp set).2
      · cases set
    · exact balanced.filled other package kept

theorem Balanced.claim
    (balanced : Balanced directory) (userId : CodeUnits) :
    Balanced
      { service := (claimFrom directory.service userId).2
        record :=
          directory.record ++
            [.claimed userId (claimFrom directory.service userId).1] } where
  queue other := by
    rw [packagesFor_snoc, takenFor_snoc, List.append_assoc,
      ← queue_claimFrom, balanced.queue other]
    simp [Entry.packages]
  fallback other := by
    rw [lastResort_claimFrom, lastResortFor_snoc, balanced.fallback other]
    simp [Entry.fallback]
  filled other package stored := by
    rw [lastResort_claimFrom] at stored
    exact balanced.filled other package stored

/-- Every run is balanced. -/
theorem balanced_of_reaches
    (reached : Reaches machine anyStep Directory.new directory) :
    Balanced directory := by
  apply Reaches.invariant Balanced.new _ reached
  intro source call target balanced _ taken
  cases call with
  | publish userId keyPackages lastResort =>
      cases taken
      exact balanced.publish userId keyPackages lastResort
  | claim userId =>
      cases taken
      exact balanced.claim userId

/-! ## Claims -/

/-- The queue is empty when everything published was taken from it. -/
theorem Balanced.exhausted_iff
    (balanced : Balanced directory) (userId : CodeUnits) :
    takenFor directory.record userId =
        packagesFor directory.record userId ↔
      KeyPackages.queue directory.service userId = [] := by
  rw [balanced.queue userId]
  exact List.self_eq_append_right

/-- The fallback that a claim tests is the last one that was set. -/
theorem Balanced.given_fallback
    (balanced : Balanced directory) (userId : CodeUnits) :
    given (directory.service.lastResort.get userId) =
      lastResortFor directory.record userId := by
  rw [← balanced.fallback userId]
  apply Option.ext
  intro package
  rw [given_eq_some_iff]
  constructor
  · exact And.left
  · intro stored
    exact ⟨stored, balanced.filled userId package stored⟩

/-- What holds for a user at a moment of a run. -/
structure Ledger (directory : Directory) (userId : CodeUnits) : Prop where
  /-- The queue hands out the published packages, from the first one on. -/
  inOrder :
    takenFor directory.record userId <+: packagesFor directory.record userId
  /-- The others are available. -/
  rest :
    available directory.service userId =
      (packagesFor directory.record userId).length -
        (takenFor directory.record userId).length
  /-- A claim answers the next one, or the last fallback, or throws. -/
  answer :
    (claim directory.service userId).1 =
      ((packagesFor directory.record userId)[
          (takenFor directory.record userId).length]?.or
        (lastResortFor directory.record userId)).elim
          (.error (noneAvailable userId)) .ok
  /-- A claim from the queue takes the next one. -/
  next :
    ∀ package after,
      claimFrom directory.service userId =
          (.ok (.queue, package), after) →
        (packagesFor directory.record userId)[
            (takenFor directory.record userId).length]? =
          some package
  /-- A claim falls back when all are taken, to the last fallback. -/
  fallsBack :
    ∀ package after,
      claimFrom directory.service userId =
          (.ok (.lastResort, package), after) →
        takenFor directory.record userId =
            packagesFor directory.record userId ∧
          lastResortFor directory.record userId = some package
  /-- A claim throws when there is no fallback either. -/
  throws :
    (∃ exception after,
        claim directory.service userId = (.error exception, after)) ↔
      takenFor directory.record userId =
          packagesFor directory.record userId ∧
        lastResortFor directory.record userId = none
  /-- A claim that throws changes nothing. -/
  unchanged :
    ∀ exception after,
      claim directory.service userId = (.error exception, after) →
        exception = noneAvailable userId ∧ after = directory.service

/--
In every run, every key package is handed out at most once, to claims for its
owner and in the order of publication, and none is lost.
-/
theorem claims_follow_publications
    (directory : Directory)
    (reached : Reaches machine anyStep Directory.new directory)
    (userId : CodeUnits) :
    Ledger directory userId := by
  have balanced := balanced_of_reaches reached
  have parts := balanced.queue userId
  have exhausted := balanced.exhausted_iff userId
  have fallback := balanced.given_fallback userId
  have cases := claimFrom_cases directory.service userId
  constructor
  case inOrder => exact ⟨_, parts.symm⟩
  case rest =>
    rw [parts, List.length_append, Nat.add_sub_cancel_left]
    rfl
  case answer =>
    rw [claim_eq_claimFrom, ← fallback, parts,
      List.getElem?_append_right (Nat.le_refl _), Nat.sub_self]
    rcases cases with ⟨_, _, waiting, equal⟩ | ⟨_, empty, found, equal⟩ |
      ⟨empty, missing, equal⟩
    · rw [equal, waiting]
      rfl
    · rw [equal, empty, found]
      rfl
    · rw [equal, empty, missing]
      rfl
  case next =>
    intro package after claimed
    rcases cases with ⟨first, rest, waiting, equal⟩ | ⟨_, -, -, equal⟩ |
      ⟨-, -, equal⟩
    · rw [claimed] at equal
      cases equal
      rw [parts, waiting, List.getElem?_append_right (Nat.le_refl _),
        Nat.sub_self, List.getElem?_cons_zero]
    · rw [claimed] at equal
      cases equal
    · rw [claimed] at equal
      cases equal
  case fallsBack =>
    intro package after claimed
    rw [exhausted, ← fallback]
    rcases cases with ⟨_, _, -, equal⟩ | ⟨_, empty, found, equal⟩ |
      ⟨-, -, equal⟩
    · rw [claimed] at equal
      cases equal
    · rw [claimed] at equal
      cases equal
      exact ⟨empty, found⟩
    · rw [claimed] at equal
      cases equal
  case throws =>
    rw [exhausted, ← fallback, claim_eq_claimFrom]
    rcases cases with ⟨_, _, waiting, equal⟩ | ⟨_, empty, found, equal⟩ |
      ⟨empty, missing, equal⟩
    · rw [equal, waiting]
      simp [Except.map]
    · rw [equal, empty, found]
      simp [Except.map]
    · rw [equal, empty, missing]
      simp [Except.map]
  case unchanged =>
    intro exception after
    rw [claim_eq_claimFrom]
    rcases cases with ⟨_, _, -, equal⟩ | ⟨_, -, -, equal⟩ | ⟨-, -, equal⟩
    · rw [equal]
      simp [Except.map]
    · rw [equal]
      simp [Except.map]
    · rw [equal]
      simp only [Except.map, Prod.mk.injEq, Except.error.injEq]
      rintro ⟨rfl, rfl⟩
      exact ⟨rfl, rfl⟩

/-- Two packages are published, one is claimed. -/
theorem claims_follow_publications_pair :
    ∃ directory,
      Reaches machine anyStep Directory.new directory ∧
        takenFor directory.record (literal "bob") = [literal "first"] ∧
        available directory.service (literal "bob") = 1 ∧
        Ledger directory (literal "bob") := by
  have started : Reaches machine anyStep Directory.new Directory.new :=
    .start
  have published :=
    started.step
      (.publish (literal "bob") [literal "first", literal "second"] none)
      trivial rfl
  have reached := published.step (.claim (literal "bob")) trivial rfl
  exact
    ⟨_, reached, by decide, by decide,
      claims_follow_publications _ reached (literal "bob")⟩

end Mls4rn.Server.KeyPackages
