import Mls4rn.Lib.ArrayHeap
import Mls4rn.Lib.Execution
import Mls4rn.Lib.InsertionMap
import Mls4rn.Lib.Throwing
import Mls4rn.Server.HttpException

/-!
# The inboxes for Welcome messages

A committer deposits a Welcome for every member it adds, and the new member
takes all that is waiting.  An inbox is an array, and `take` returns the array
itself: what it returned would change if a later deposit were pushed onto it.
The arrays therefore live in a heap, and the service maps users to references.

A run is recorded as the deposits and the takes so far, with the result each
take had when it returned.
-/

namespace Mls4rn.Server.Welcomes

open Mls4rn.Lib
open Mls4rn.Lib.Execution
open Mls4rn.Lib.Utf16

/-! ## The service -/

/-- `StoredWelcome`; the two payloads are opaque base64. -/
structure StoredWelcome where
  id : Nat
  groupId : CodeUnits
  welcome : CodeUnits
  ratchetTree : CodeUnits
deriving DecidableEq, Repr

/-- `WelcomesService`: its two fields, and the arrays of the process. -/
structure Service where
  arrays : ArrayHeap StoredWelcome
  inbox : InsertionMap CodeUnits Nat
  counter : Nat

/-- The service behind its start. -/
def Service.new : Service where
  arrays := ArrayHeap.empty
  inbox := InsertionMap.empty
  counter := 0

/-- `this.inbox.get(userId) ?? []`: a reference, and the arrays there are. -/
def inboxArray (service : Service) (userId : CodeUnits) :
    Nat × ArrayHeap StoredWelcome :=
  match service.inbox.get userId with
  | some reference => (reference, service.arrays)
  | none => (service.arrays.size, service.arrays.allocate)

/-- `deposit`. -/
def deposit
    (service : Service) (userId groupId welcome ratchetTree : CodeUnits) :
    StoredWelcome × Service :=
  let stored : StoredWelcome :=
    { id := service.counter + 1, groupId, welcome, ratchetTree }
  let (reference, arrays) := inboxArray service userId
  (stored,
    { arrays := arrays.push reference stored
      inbox := service.inbox.set userId reference
      counter := service.counter + 1 })

/-- `take`: the reference of the array it returns. -/
def take (service : Service) (userId : CodeUnits) : Nat × Service :=
  let (reference, arrays) := inboxArray service userId
  (reference,
    { service with
      arrays := arrays.allocate
      inbox := service.inbox.set userId arrays.size })

/-- What is waiting for a user. -/
def waiting (service : Service) (userId : CodeUnits) :
    List StoredWelcome :=
  match service.inbox.get userId with
  | some reference => service.arrays.contents reference
  | none => []

/-! ## The controller -/

/-- `DepositBody`; a missing field is `none`. -/
structure DepositBody where
  userId : Option CodeUnits
  groupId : Option CodeUnits
  welcome : Option CodeUnits
  ratchetTree : Option CodeUnits

/-- `WelcomesController.deposit`: the id that is answered. -/
def postWelcome (body : DepositBody) :
    Throwing Service HttpException Nat := fun service =>
  match given body.userId, given body.groupId, given body.welcome,
      given body.ratchetTree with
  | some userId, some groupId, some welcome, some ratchetTree =>
      let (stored, after) :=
        deposit service userId groupId welcome ratchetTree
      (.ok stored.id, after)
  | _, _, _, _ =>
      (.error
        (.badRequest
          (literal "userId, groupId, welcome and ratchetTree are required")),
        service)

/-- `WelcomesController.take`: the array as it is when it is answered. -/
def getWelcomes (userId : CodeUnits) :
    Throwing Service HttpException (List StoredWelcome) := fun service =>
  let (reference, after) := take service userId
  (.ok (after.arrays.contents reference), after)

/-! ## Runs -/

/-- The calls of the service. -/
inductive Call where
  | deposit (userId groupId welcome ratchetTree : CodeUnits)
  | take (userId : CodeUnits)

/-- A take: the array it returned and what was in it. -/
structure Taken where
  userId : CodeUnits
  reference : Nat
  result : List StoredWelcome

/-- The service, the deposits with their users, and the takes. -/
structure Post where
  service : Service
  deposits : List (CodeUnits × StoredWelcome)
  takes : List Taken

/-- The start of the service. -/
def Post.new : Post where
  service := Service.new
  deposits := []
  takes := []

/--
The service serves one call after the other.  A deposit is recorded with the
arguments of the call and the id that came back.
-/
def machine : Machine Post Call where
  step post
    | .deposit userId groupId welcome ratchetTree =>
        let (stored, after) :=
          deposit post.service userId groupId welcome ratchetTree
        some
          { post with
            service := after
            deposits :=
              post.deposits ++
                [(userId, ⟨stored.id, groupId, welcome, ratchetTree⟩)] }
    | .take userId =>
        let (reference, after) := take post.service userId
        some
          { post with
            service := after
            takes :=
              post.takes ++
                [⟨userId, reference, after.arrays.contents reference⟩] }

/-- The deposits made for a user. -/
def depositsFor
    (deposits : List (CodeUnits × StoredWelcome)) (userId : CodeUnits) :
    List StoredWelcome :=
  (deposits.filter fun deposited => deposited.1 = userId).map Prod.snd

/-- The takes of a user. -/
def takesOf (takes : List Taken) (userId : CodeUnits) : List Taken :=
  takes.filter fun taken => taken.userId = userId

/-! ## What a call does -/

/-- Every user has an array of its own. -/
structure Apart (service : Service) : Prop where
  allocated :
    ∀ userId reference,
      service.inbox.get userId = some reference →
        reference < service.arrays.size
  single :
    ∀ first second reference,
      service.inbox.get first = some reference →
        service.inbox.get second = some reference → first = second

/-- An array that is no longer an inbox. -/
def Detached (service : Service) (reference : Nat) : Prop :=
  reference < service.arrays.size ∧
    ∀ userId, service.inbox.get userId ≠ some reference

theorem Apart.new : Apart Service.new where
  allocated _ _ impossible := by cases impossible
  single _ _ _ impossible := by cases impossible

/-- The array that a call of a user works on. -/
structure WorksOn
    (service : Service) (userId : CodeUnits) (reference : Nat)
    (arrays : ArrayHeap StoredWelcome) : Prop where
  allocated : reference < arrays.size
  grown : service.arrays.size ≤ arrays.size
  same : ∀ other, arrays.contents other = service.arrays.contents other
  holds : arrays.contents reference = waiting service userId
  own :
    ∀ other,
      service.inbox.get other = some reference → other = userId
  undetached : ¬Detached service reference

theorem inboxArray_worksOn
    {service : Service} (apart : Apart service) (userId : CodeUnits) :
    WorksOn service userId (inboxArray service userId).1
      (inboxArray service userId).2 := by
  unfold inboxArray
  split
  · next reference found =>
    constructor
    · exact apart.allocated userId reference found
    · exact Nat.le_refl _
    · exact fun _ => rfl
    · simp only [waiting, found]
    · exact fun other taken => apart.single other userId _ taken found
    · exact fun detached => detached.2 userId found
  · next missing =>
    constructor
    · rw [ArrayHeap.size_allocate]
      exact Nat.lt_succ_self _
    · rw [ArrayHeap.size_allocate]
      exact Nat.le_succ _
    · exact ArrayHeap.contents_allocate _
    · rw [ArrayHeap.contents_allocate,
        ArrayHeap.contents_of_size_le _ (Nat.le_refl _)]
      simp only [waiting, missing]
    · intro other taken
      exact absurd (apart.allocated other _ taken) (Nat.lt_irrefl _)
    · exact fun detached => Nat.lt_irrefl _ detached.1

section Calls

variable {service : Service} (apart : Apart service) (userId : CodeUnits)

include apart

/-- Give a user an array that no other user has. -/
theorem Apart.assign
    {arrays : ArrayHeap StoredWelcome} {reference counter : Nat}
    (allocated : reference < arrays.size)
    (grown : service.arrays.size ≤ arrays.size)
    (own :
      ∀ other, service.inbox.get other = some reference → other = userId) :
    Apart ⟨arrays, service.inbox.set userId reference, counter⟩ := by
  constructor
  · intro other found holds
    rw [InsertionMap.get_set] at holds
    split at holds
    · cases holds
      exact allocated
    · exact (apart.allocated other found holds).trans_le grown
  · intro first second found firstHolds secondHolds
    rw [InsertionMap.get_set] at firstHolds secondHolds
    split at firstHolds
    · next firstIs =>
      cases firstHolds
      split at secondHolds
      · next secondIs => rw [firstIs, secondIs]
      · rw [firstIs, own second secondHolds]
    · split at secondHolds
      · next secondIs =>
        cases secondHolds
        rw [secondIs, own first firstHolds]
      · exact apart.single first second found firstHolds secondHolds

omit apart in
/-- An array that was not given away stays detached. -/
theorem Detached.assign
    {arrays : ArrayHeap StoredWelcome} {reference given counter : Nat}
    (detached : Detached service reference)
    (grown : service.arrays.size ≤ arrays.size)
    (different : reference ≠ given) :
    Detached ⟨arrays, service.inbox.set userId given, counter⟩
      reference := by
  refine ⟨detached.1.trans_le grown, ?_⟩
  intro other found
  rw [InsertionMap.get_set] at found
  split at found
  · cases found
    exact different rfl
  · exact detached.2 other found

variable (groupId welcome ratchetTree : CodeUnits)

theorem Apart.deposit :
    Apart (deposit service userId groupId welcome ratchetTree).2 := by
  have works := inboxArray_worksOn apart userId
  apply apart.assign userId
  · rw [ArrayHeap.size_push]
    exact works.allocated
  · rw [ArrayHeap.size_push]
    exact works.grown
  · exact works.own

/-- A deposit is appended to one inbox. -/
theorem waiting_deposit (other : CodeUnits) :
    waiting (deposit service userId groupId welcome ratchetTree).2 other =
      waiting service other ++
        if userId = other then
          [⟨service.counter + 1, groupId, welcome, ratchetTree⟩]
        else [] := by
  have works := inboxArray_worksOn apart userId
  simp only [deposit, waiting, InsertionMap.get_set]
  by_cases same : userId = other
  · subst same
    simp only [if_true]
    rw [ArrayHeap.contents_push _ works.allocated, if_pos rfl, works.holds]
    rfl
  · have different : other ≠ userId := fun equal => same equal.symm
    simp only [same, different, if_false, List.append_nil]
    cases found : service.inbox.get other with
    | none => rfl
    | some reference =>
        have elsewhere : reference ≠ (inboxArray service userId).1 := by
          rintro rfl
          exact different (works.own other found)
        change (ArrayHeap.push _ _ _).contents reference = _
        rw [ArrayHeap.contents_push _ works.allocated, if_neg elsewhere,
          works.same]

/-- A deposit leaves the arrays alone that are no inbox. -/
theorem detached_deposit
    {reference : Nat} (detached : Detached service reference) :
    Detached (Welcomes.deposit service userId groupId welcome
        ratchetTree).2 reference ∧
      (Welcomes.deposit service userId groupId welcome
        ratchetTree).2.arrays.contents reference =
          service.arrays.contents reference := by
  have works := inboxArray_worksOn apart userId
  have elsewhere : reference ≠ (inboxArray service userId).1 := by
    rintro rfl
    exact works.undetached detached
  constructor
  · apply detached.assign userId _ elsewhere
    rw [ArrayHeap.size_push]
    exact works.grown
  · simp only [Welcomes.deposit]
    rw [ArrayHeap.contents_push _ works.allocated, if_neg elsewhere,
      works.same]

theorem Apart.take : Apart (take service userId).2 := by
  have works := inboxArray_worksOn apart userId
  apply apart.assign userId
  · rw [ArrayHeap.size_allocate]
    exact Nat.lt_succ_self _
  · rw [ArrayHeap.size_allocate]
    exact works.grown.trans (Nat.le_succ _)
  · intro other found
    have allocated := apart.allocated other _ found
    exact absurd (allocated.trans_le works.grown) (Nat.lt_irrefl _)

/-- A take empties one inbox. -/
theorem waiting_take (other : CodeUnits) :
    waiting (Welcomes.take service userId).2 other =
      if userId = other then [] else waiting service other := by
  have works := inboxArray_worksOn apart userId
  simp only [Welcomes.take, waiting, InsertionMap.get_set]
  by_cases same : userId = other
  · subst same
    simp only [if_true]
    rw [ArrayHeap.contents_allocate,
      ArrayHeap.contents_of_size_le _ (Nat.le_refl _)]
  · have different : other ≠ userId := fun equal => same equal.symm
    simp only [same, different, if_false]
    cases service.inbox.get other with
    | none => rfl
    | some reference =>
        change (ArrayHeap.allocate _).contents reference = _
        rw [ArrayHeap.contents_allocate, works.same]

/-- No contents change when an inbox is replaced. -/
theorem contents_take (reference : Nat) :
    (Welcomes.take service userId).2.arrays.contents reference =
      service.arrays.contents reference := by
  have works := inboxArray_worksOn apart userId
  simp only [Welcomes.take]
  rw [ArrayHeap.contents_allocate, works.same]

/-- The returned array holds what was waiting. -/
theorem contents_taken :
    (Welcomes.take service userId).2.arrays.contents
        (Welcomes.take service userId).1 =
      waiting service userId := by
  have works := inboxArray_worksOn apart userId
  rw [contents_take apart, ← works.same]
  exact works.holds

theorem detached_take
    {reference : Nat} (detached : Detached service reference) :
    Detached (Welcomes.take service userId).2 reference := by
  have works := inboxArray_worksOn apart userId
  apply detached.assign userId
  · rw [ArrayHeap.size_allocate]
    exact works.grown.trans (Nat.le_succ _)
  · exact (detached.1.trans_le works.grown).ne

/-- The returned array is no longer an inbox. -/
theorem detached_taken :
    Detached (Welcomes.take service userId).2
      (Welcomes.take service userId).1 := by
  have works := inboxArray_worksOn apart userId
  constructor
  · change _ < (ArrayHeap.allocate _).size
    rw [ArrayHeap.size_allocate]
    exact works.allocated.trans (Nat.lt_succ_self _)
  · intro other found
    simp only [Welcomes.take] at found
    rw [InsertionMap.get_set] at found
    split at found
    · exact works.allocated.ne (Option.some.inj found).symm
    · next different => exact different (works.own other found)

end Calls

/-! ## Delivery -/

section Records

variable (deposits : List (CodeUnits × StoredWelcome)) (takes : List Taken)
  (userId : CodeUnits)

theorem depositsFor_snoc (owner : CodeUnits) (stored : StoredWelcome) :
    depositsFor (deposits ++ [(owner, stored)]) userId =
      depositsFor deposits userId ++
        if owner = userId then [stored] else [] := by
  by_cases same : owner = userId
  · simp [depositsFor, same]
  · simp [depositsFor, same]

theorem mem_depositsFor {stored : StoredWelcome} :
    stored ∈ depositsFor deposits userId ↔ (userId, stored) ∈ deposits := by
  simp only [depositsFor, List.mem_map, List.mem_filter, decide_eq_true_eq]
  constructor
  · rintro ⟨⟨owner, value⟩, ⟨member, rfl⟩, rfl⟩
    exact member
  · intro member
    exact ⟨(userId, stored), ⟨member, rfl⟩, rfl⟩

theorem takesOf_snoc (taken : Taken) :
    takesOf (takes ++ [taken]) userId =
      takesOf takes userId ++
        if taken.userId = userId then [taken] else [] := by
  by_cases same : taken.userId = userId
  · simp [takesOf, same]
  · simp [takesOf, same]

/-- A result is among the results of its user. -/
theorem mem_results
    {takes : List Taken} {taken : Taken} (member : taken ∈ takes)
    {stored : StoredWelcome} (inside : stored ∈ taken.result) :
    stored ∈ (takesOf takes taken.userId).flatMap Taken.result := by
  apply List.mem_flatMap.mpr
  refine ⟨taken, ?_, inside⟩
  exact List.mem_filter.mpr ⟨member, decide_eq_true rfl⟩

end Records

/-- Two takes that have no deposit in common. -/
def Disjoint (first second : Taken) : Prop :=
  ∀ early ∈ first.result, ∀ late ∈ second.result, early.id ≠ late.id

/-- What every run keeps. -/
structure Sound (post : Post) : Prop where
  apart : Apart post.service
  /-- The ids grow, up to the counter. -/
  increasing :
    (post.deposits.map fun deposited => deposited.2.id).Pairwise (· < ·)
  counted :
    ∀ deposited ∈ post.deposits,
      deposited.2.id ≤ post.service.counter
  /-- What was deposited was taken or is waiting. -/
  balance :
    ∀ userId,
      depositsFor post.deposits userId =
        (takesOf post.takes userId).flatMap Taken.result ++
          waiting post.service userId
  /-- A returned array is left alone. -/
  returned :
    ∀ taken ∈ post.takes,
      Detached post.service taken.reference ∧
        post.service.arrays.contents taken.reference = taken.result
  once : post.takes.Pairwise Disjoint

theorem Sound.new : Sound Post.new where
  apart := Apart.new
  increasing := List.Pairwise.nil
  counted _ impossible := by cases impossible
  balance _ := rfl
  returned _ impossible := by cases impossible
  once := List.Pairwise.nil

variable {post : Post}

section

variable (sound : Sound post)
include sound

theorem Sound.distinct :
    (post.deposits.map fun deposited => deposited.2.id).Nodup :=
  sound.increasing.imp Nat.ne_of_lt

/-- A deposit is known by its id. -/
theorem Sound.unique
    {first second : CodeUnits × StoredWelcome}
    (firstMember : first ∈ post.deposits)
    (secondMember : second ∈ post.deposits) (same : first.2.id = second.2.id) :
    first = second :=
  List.inj_on_of_nodup_map sound.distinct firstMember secondMember same

/-- What was taken, and what is waiting, was deposited for the user. -/
theorem Sound.deposited_of_taken
    {taken : Taken} (member : taken ∈ post.takes) {stored : StoredWelcome}
    (inside : stored ∈ taken.result) :
    (taken.userId, stored) ∈ post.deposits := by
  rw [← mem_depositsFor, sound.balance]
  exact List.mem_append_left _ (mem_results member inside)

theorem Sound.deposited_of_waiting
    {userId : CodeUnits} {stored : StoredWelcome}
    (inside : stored ∈ waiting post.service userId) :
    (userId, stored) ∈ post.deposits := by
  rw [← mem_depositsFor, sound.balance]
  exact List.mem_append_right _ inside

/-- What is waiting was not taken before. -/
theorem Sound.waiting_fresh
    {taken : Taken} (member : taken ∈ post.takes) {userId : CodeUnits}
    {early late : StoredWelcome} (inside : early ∈ taken.result)
    (pending : late ∈ waiting post.service userId) :
    early.id ≠ late.id := by
  intro same
  have equal :=
    sound.unique (sound.deposited_of_taken member inside)
      (sound.deposited_of_waiting pending) same
  cases equal
  have ids :
      ((depositsFor post.deposits taken.userId).map
        StoredWelcome.id).Nodup := by
    rw [depositsFor, List.map_map]
    exact sound.distinct.sublist (List.filter_sublist.map _)
  rw [sound.balance, List.map_append] at ids
  have apart := (List.nodup_append.mp ids).2.2
  exact
    apart early.id (List.mem_map_of_mem (mem_results member inside))
      early.id (List.mem_map_of_mem pending) rfl

theorem Sound.deposit
    (userId groupId welcome ratchetTree : CodeUnits) :
    Sound
      { post with
        service :=
          (deposit post.service userId groupId welcome ratchetTree).2
        deposits :=
          post.deposits ++
            [(userId,
              ⟨post.service.counter + 1, groupId, welcome,
                ratchetTree⟩)] } where
  apart := sound.apart.deposit userId groupId welcome ratchetTree
  increasing := by
    rw [List.map_append, List.pairwise_append]
    refine ⟨sound.increasing, List.pairwise_singleton _ _, ?_⟩
    intro early earlyMember late lateMember
    rcases List.mem_map.mp earlyMember with ⟨deposited, member, rfl⟩
    cases List.mem_singleton.mp lateMember
    exact Nat.lt_succ_of_le (sound.counted deposited member)
  counted deposited member := by
    rcases List.mem_append.mp member with earlier | last
    · exact (sound.counted deposited earlier).trans (Nat.le_succ _)
    · cases List.mem_singleton.mp last
      exact Nat.le_refl _
  balance other := by
    rw [depositsFor_snoc, waiting_deposit sound.apart, sound.balance other,
      List.append_assoc]
  returned taken member := by
    rcases sound.returned taken member with ⟨detached, contents⟩
    have kept :=
      detached_deposit sound.apart userId groupId welcome ratchetTree detached
    exact ⟨kept.1, kept.2.trans contents⟩
  once := sound.once

theorem Sound.take (userId : CodeUnits) :
    Sound
      { post with
        service := (take post.service userId).2
        takes :=
          post.takes ++
            [⟨userId, (Welcomes.take post.service userId).1,
              (Welcomes.take post.service userId).2.arrays.contents
                (Welcomes.take post.service userId).1⟩] } where
  apart := sound.apart.take userId
  increasing := sound.increasing
  counted := sound.counted
  balance other := by
    rw [takesOf_snoc, waiting_take sound.apart, sound.balance other,
      contents_taken sound.apart]
    by_cases same : userId = other
    · simp [same]
    · simp [same]
  returned taken member := by
    rcases List.mem_append.mp member with earlier | last
    · rcases sound.returned taken earlier with ⟨detached, contents⟩
      refine ⟨detached_take sound.apart userId detached, ?_⟩
      exact (contents_take sound.apart userId _).trans contents
    · cases List.mem_singleton.mp last
      exact ⟨detached_taken sound.apart userId, rfl⟩
  once := by
    rw [List.pairwise_append]
    refine ⟨sound.once, List.pairwise_singleton _ _, ?_⟩
    intro early earlyMember late lateMember
    cases List.mem_singleton.mp lateMember
    intro first inside second pending
    rw [contents_taken sound.apart] at pending
    exact sound.waiting_fresh earlyMember inside pending

end

/-- Every run is sound. -/
theorem sound_of_reaches (reached : Reaches machine anyStep Post.new post) :
    Sound post := by
  apply Reaches.invariant Sound.new _ reached
  intro source call target sound _ taken
  cases call with
  | deposit userId groupId welcome ratchetTree =>
      cases taken
      exact sound.deposit userId groupId welcome ratchetTree
  | take userId =>
      cases taken
      exact sound.take userId

/-- What holds of the deposits and takes of a run. -/
structure DeliveredOnce (post : Post) : Prop where
  /-- The returned arrays and the inbox hold the deposits, in order. -/
  inOrder :
    ∀ userId,
      ((takesOf post.takes userId).flatMap fun taken =>
          post.service.arrays.contents taken.reference) ++
          waiting post.service userId =
        depositsFor post.deposits userId
  /-- A take returns all that waits, and empties the inbox. -/
  emptied :
    ∀ userId,
      (Welcomes.take post.service userId).2.arrays.contents
            (Welcomes.take post.service userId).1 =
          waiting post.service userId ∧
        waiting (Welcomes.take post.service userId).2 userId = []
  /-- No deposit is in two takes. -/
  once : post.takes.Pairwise Disjoint
  /-- What a take returned was deposited for its user and for no other. -/
  addressed :
    ∀ taken ∈ post.takes, ∀ stored ∈ taken.result,
      (taken.userId, stored) ∈ post.deposits ∧
        ∀ deposited ∈ post.deposits,
          deposited.2.id = stored.id → deposited.1 = taken.userId
  /-- The ids grow in the order of the deposits. -/
  increasing :
    (post.deposits.map fun deposited => deposited.2.id).Pairwise (· < ·)
  /-- A returned array still holds what it held when it was returned. -/
  unaltered :
    ∀ taken ∈ post.takes,
      post.service.arrays.contents taken.reference = taken.result

/--
In every run, every Welcome is delivered once, to the user it was deposited
for, and the arrays that were handed out do not change.
-/
theorem welcomes_are_delivered_once
    (post : Post) (reached : Reaches machine anyStep Post.new post) :
    DeliveredOnce post := by
  have sound := sound_of_reaches reached
  constructor
  case inOrder =>
    intro userId
    rw [sound.balance userId]
    congr 1
    apply List.flatMap_congr
    intro taken member
    exact (sound.returned taken (List.mem_of_mem_filter member)).2
  case emptied =>
    intro userId
    refine ⟨contents_taken sound.apart userId, ?_⟩
    rw [waiting_take sound.apart, if_pos rfl]
  case once => exact sound.once
  case addressed =>
    intro taken member stored inside
    have deposited := sound.deposited_of_taken member inside
    refine ⟨deposited, ?_⟩
    intro other otherMember same
    have equal := sound.unique otherMember deposited same
    rw [equal]
  case increasing => exact sound.increasing
  case unaltered =>
    intro taken member
    exact (sound.returned taken member).2

/-- A deposit behind a take goes to a new array. -/
theorem welcomes_are_delivered_once_again :
    ∃ post,
      Reaches machine anyStep Post.new post ∧
        post.takes.map (fun taken => taken.result.length) = [1] ∧
        (waiting post.service (literal "bob")).length = 1 ∧
        DeliveredOnce post := by
  have started : Reaches machine anyStep Post.new Post.new := .start
  have first :=
    started.step
      (.deposit (literal "bob") (literal "room") (literal "w") (literal "t"))
      trivial rfl
  have second := first.step (.take (literal "bob")) trivial rfl
  have third :=
    second.step
      (.deposit (literal "bob") (literal "hall") (literal "v") (literal "u"))
      trivial rfl
  exact ⟨_, third, by decide, by decide, welcomes_are_delivered_once _ third⟩

end Mls4rn.Server.Welcomes
