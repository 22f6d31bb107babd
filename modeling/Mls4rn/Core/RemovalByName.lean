import Mls4rn.Core.GroupFacade

/-!
# Removing a member by name

`Group.remove` names a member, while OpenMLS removes a leaf of the tree.  The
library looks for the first leaf with an equal credential, and `members` shows
the credentials of all leaves as strings.  Nothing keeps the names of a group
unique: with two members of one name, one of them stays.

Names are compared as bytes, so a credential that is not UTF-8 is shown under
a name by which it cannot be removed.
-/

namespace Mls4rn.Core.RemovalByName

open Mls4rn.Lib
open Mls4rn.Lib.ByteString
open Mls4rn.Lib.Utf16
open Mls4rn.Core.MlsGroup
open Mls4rn.Core.GroupFacade

/-! ## Names -/

/-- `String::from_utf8_lossy`, as a string of JavaScript. -/
def lossyName (credential : Bytes) : CodeUnits :=
  ofScalars (Utf8.decodeFrom .none credential)

theorem isWellFormed_lossyName (credential : Bytes) :
    isWellFormed (lossyName credential) = true :=
  isWellFormed_ofScalars _

/-- A well-formed name is shown as it was given. -/
theorem lossyName_encode
    {name : CodeUnits} (wellFormed : isWellFormed name = true) :
    lossyName (Utf8.encode name) = name := by
  rw [lossyName, Utf8.encode, Utf8.decodeFrom_flatMap_utf8EncodeChar]
  exact ofScalars_toScalars name wellFormed

variable {Member Epoch KeyPackage Proposal Seed : Type}
variable (openMls : OpenMls Member Epoch KeyPackage Proposal Seed)

/-- `Group.members`. -/
def members (group : Group Epoch Proposal) : List CodeUnits :=
  (openMls.members group.epoch).map fun entry => lossyName entry.2

/--
What OpenMLS does with a proposal to remove another member in an epoch: it can
be made and committed alone, and the commit takes out that leaf.
-/
structure RemovesLeaves
    (own : Member) (ownLeaf : Nat) (epoch : Epoch) : Prop where
  distinct : ((openMls.members epoch).map Prod.fst).Nodup
  proposes :
    ∀ entry ∈ openMls.members epoch, ∀ seed,
      entry.1 ≠ ownLeaf →
        ∃ proposal message,
          openMls.createRemove own epoch entry.1 seed =
            .ok (proposal, message)
  commits :
    ∀ entry ∈ openMls.members epoch, ∀ seed again proposal message,
      entry.1 ≠ ownLeaf →
        openMls.createRemove own epoch entry.1 seed =
            .ok (proposal, message) →
          ∃ bundle,
            openMls.buildCommit own epoch [proposal] again = .ok bundle ∧
              bundle.staged.selfRemoved = false ∧
                openMls.members bundle.staged.epoch =
                  (openMls.members epoch).filter fun other =>
                    decide (other.1 ≠ entry.1)

/-- The call succeeds; the name is gone and the other names are as before. -/
def RemovedCompletely
    (own : Member) (seed : Seed) (name : CodeUnits)
    (group : Group Epoch Proposal) : Prop :=
  ∃ result reached,
    remove openMls own seed name group = (.ok result, reached) ∧
      members openMls reached =
        (members openMls group).filter fun other => decide (other ≠ name)

/-! ## How the call ends -/

section Remove

variable {openMls}
variable {own : Member} {seed : Seed} {name : CodeUnits}
variable {group : Group Epoch Proposal}

theorem remove_of_unknown
    (unknown : leafOf openMls group.epoch (Utf8.encode name) = none) :
    remove openMls own seed name group =
      (.error (.jsError openMls.unknownMember), group) := by
  rw [remove, proposeAndCommitRemove, proposeAndCommit, bind_assoc,
    Throwing.bind_of_error
      (proposeRemoveMemberByCredential_of_none openMls own seed unknown)]

/-- The member is no longer active, or has to merge a commit first. -/
theorem remove_of_not_operational (idle : group.state ≠ .operational) :
    ∃ thrown, remove openMls own seed name group = (.error thrown, group) := by
  cases found : leafOf openMls group.epoch (Utf8.encode name) with
  | none => exact ⟨_, remove_of_unknown found⟩
  | some leaf =>
      rcases propose_eq openMls
          (fun epoch => openMls.createRemove own epoch leaf seed) group with
        ⟨proposal, message, queued, -⟩ | ⟨thrown, -, failed⟩
      · exact absurd (create_of_made queued).1 idle
      · rw [← proposeRemoveMemberByCredential_of_some openMls own seed found]
          at failed
        refine ⟨thrown, ?_⟩
        rw [remove, proposeAndCommitRemove, proposeAndCommit, bind_assoc,
          Throwing.bind_of_error failed]

/-- The proposal is queued, committed and merged. -/
theorem remove_of_built
    (operational : group.state = .operational)
    (idle : group.proposals = []) {leaf : Nat}
    (found : leafOf openMls group.epoch (Utf8.encode name) = some leaf)
    {proposal : Proposal} {message : Bytes}
    (created :
      openMls.createRemove own group.epoch leaf seed =
        .ok (proposal, message))
    {bundle : CommitBundle Epoch}
    (built :
      openMls.buildCommit own group.epoch [proposal] seed = .ok bundle) :
    remove openMls own seed name group =
      (.ok (toCommit message bundle.commit (bundle.welcome.getD [])),
        (group.queue proposal).merged bundle.staged) := by
  have queued :
      made (fun epoch => openMls.createRemove own epoch leaf seed) group =
        some (proposal, message) := by
    simp only [made, operational, created]
    rfl
  have proposes :
      Proposes
        (proposeRemoveMemberByCredential openMls own seed
          (Utf8.encode name)) group (some (proposal, message)) := by
    have made := proposes_made openMls
      (fun epoch => openMls.createRemove own epoch leaf seed) group
    rw [queued] at made
    refine ⟨operational, ?_⟩
    rw [proposeRemoveMemberByCredential_of_some openMls own seed found]
    exact made.2
  have single : group.proposals ++ [proposal] = [proposal] := by
    rw [idle, List.nil_append]
  rcases proposeAndCommit_eq openMls own seed proposes with
    ⟨_, _, other, same, otherBuilt, done⟩ |
      ⟨_, _, _, same, unbuilt, -⟩ | ⟨_, impossible, -⟩
  · cases same
    rw [single, built] at otherBuilt
    cases otherBuilt
    rw [remove, proposeAndCommitRemove, Throwing.bind_of_ok done]
    exact Throwing.bind_of_ok
      (mergePendingCommit_staged openMls (group.queue proposal)
        bundle.staged) _
  · cases same
    rw [single] at unbuilt
    exact absurd built (unbuilt bundle)
  · cases impossible

end Remove

/-! ## Leaves and names -/

section Leaves

variable {entries : List (Nat × Bytes)} {entry : Nat × Bytes}
variable {name : CodeUnits}

/-- The entries that a filter leaves out are counted by the others. -/
theorem length_filter_ne
    {Value : Type} [BEq Value] [LawfulBEq Value] [DecidableEq Value]
    (entries : List (Nat × Bytes)) (image : Nat × Bytes → Value)
    (value : Value) :
    (entries.filter fun other => decide (image other ≠ value)).length +
        (entries.map image).count value =
      entries.length := by
  induction entries with
  | nil => rfl
  | cons head entries induction =>
      by_cases same : image head = value
      · simp [same] at induction ⊢
        omega
      · simp [same] at induction ⊢
        omega

/-- The only entry with a name. -/
theorem eq_of_count_eq_one
    (single : (entries.map fun other => lossyName other.2).count name = 1)
    {other : Nat × Bytes} (member : entry ∈ entries)
    (named : lossyName entry.2 = name) (otherMember : other ∈ entries)
    (otherNamed : lossyName other.2 = name) : other = entry := by
  rw [List.count_eq_countP, List.countP_map, List.countP_eq_length_filter,
    List.length_eq_one_iff] at single
  rcases single with ⟨only, filtered⟩
  have inside
      {some : Nat × Bytes} (listed : some ∈ entries)
      (called : lossyName some.2 = name) : some = only := by
    apply List.mem_singleton.mp
    rw [← filtered]
    exact List.mem_filter.mpr ⟨listed, by simp [called]⟩
  rw [inside otherMember otherNamed, inside member named]

/--
Taking out one leaf takes out its name exactly when no other leaf has it.
-/
theorem names_filter_leaf_iff
    (distinct : (entries.map Prod.fst).Nodup) (member : entry ∈ entries)
    (named : lossyName entry.2 = name) :
    ((entries.filter fun other => decide (other.1 ≠ entry.1)).map
        fun other => lossyName other.2) =
        ((entries.map fun other => lossyName other.2).filter
          fun other => decide (other ≠ name)) ↔
      (entries.map fun other => lossyName other.2).count name = 1 := by
  rw [List.filter_map]
  constructor
  · intro equal
    have lengths := congrArg List.length equal
    rw [List.length_map, List.length_map] at lengths
    have leaves := length_filter_ne entries Prod.fst entry.1
    have once : (entries.map Prod.fst).count entry.1 = 1 :=
      List.count_eq_one_of_mem distinct (List.mem_map_of_mem member)
    have names :=
      length_filter_ne entries (fun other => lossyName other.2) name
    change
      (entries.filter fun other => decide (other.1 ≠ entry.1)).length =
        (entries.filter fun other =>
          decide (lossyName other.2 ≠ name)).length at lengths
    rw [once] at leaves
    omega
  · intro single
    congr 1
    apply List.filter_congr
    intro other otherMember
    have agree : other.1 = entry.1 ↔ lossyName other.2 = name := by
      constructor
      · intro same
        rw [List.inj_on_of_nodup_map distinct otherMember member same]
        exact named
      · intro same
        rw [eq_of_count_eq_one single member named otherMember same]
    simp [agree]

end Leaves

/-! ## Which removals are complete -/

section Complete

variable {openMls}
variable {own : Member} {ownLeaf : Nat} {name : CodeUnits}
variable {group : Group Epoch Proposal}

/-- The entry that `propose_remove_member_by_credential` finds. -/
theorem exists_entry_of_leafOf
    {leaf : Nat} {credential : Bytes}
    (found : leafOf openMls group.epoch credential = some leaf) :
    ∃ entry ∈ openMls.members group.epoch,
      entry.1 = leaf ∧ entry.2 = credential := by
  rcases Option.map_eq_some_iff.mp found with ⟨entry, first, rfl⟩
  have matches_ := List.find?_some first
  rw [decide_eq_true_eq] at matches_
  exact ⟨entry, List.mem_of_find?_eq_some first, rfl, matches_⟩

theorem leafOf_eq_none_iff (credential : Bytes) :
    leafOf openMls group.epoch credential = none ↔
      credential ∉ (openMls.members group.epoch).map Prod.snd := by
  rw [leafOf, Option.map_eq_none_iff, List.find?_eq_none]
  simp only [decide_eq_true_eq, List.mem_map, not_exists, not_and]

/-- The first member with the credential is taken out. -/
theorem remove_of_found
    (laws : RemovesLeaves openMls own ownLeaf group.epoch) (seed : Seed)
    (idle : group.proposals = [])
    (operational : group.state = .operational)
    (wellFormed : isWellFormed name = true)
    (other :
      ∀ entry ∈ openMls.members group.epoch,
        entry.1 = ownLeaf → lossyName entry.2 ≠ name)
    {leaf : Nat}
    (found : leafOf openMls group.epoch (Utf8.encode name) = some leaf) :
    ∃ entry ∈ openMls.members group.epoch,
      lossyName entry.2 = name ∧
        ∃ result reached,
          remove openMls own seed name group = (.ok result, reached) ∧
            members openMls reached =
              ((openMls.members group.epoch).filter fun other =>
                decide (other.1 ≠ entry.1)).map
                fun other => lossyName other.2 := by
  rcases exists_entry_of_leafOf found with ⟨entry, member, rfl, spelled⟩
  have named : lossyName entry.2 = name := by
    rw [spelled]
    exact lossyName_encode wellFormed
  have foreign : entry.1 ≠ ownLeaf :=
    fun same => other entry member same named
  rcases laws.proposes entry member seed foreign with
    ⟨proposal, message, created⟩
  rcases laws.commits entry member seed seed _ _ foreign created with
    ⟨bundle, built, remains, left⟩
  refine ⟨entry, member, named, _, _,
    remove_of_built operational idle found created built, ?_⟩
  rw [members, Group.merged, remains]
  exact congrArg _ left

/--
In a group without pending proposals, a member that is not the caller is
removed completely exactly when the caller is operational and one member has
the name, with a credential that spells it.
-/
theorem remove_complete_iff
    (group : Group Epoch Proposal)
    (laws : RemovesLeaves openMls own ownLeaf group.epoch) (seed : Seed)
    (idle : group.proposals = [])
    (name : CodeUnits) (member : name ∈ members openMls group)
    (other :
      ∀ entry ∈ openMls.members group.epoch,
        entry.1 = ownLeaf → lossyName entry.2 ≠ name) :
    RemovedCompletely openMls own seed name group ↔
      group.state = .operational ∧
        (members openMls group).count name = 1 ∧
          Utf8.encode name ∈
            (openMls.members group.epoch).map Prod.snd := by
  have wellFormed : isWellFormed name = true := by
    rcases List.mem_map.mp member with ⟨entry, -, rfl⟩
    exact isWellFormed_lossyName entry.2
  constructor
  · rintro ⟨result, reached, removed, left⟩
    have operational : group.state = .operational := by
      by_contra idleState
      rcases remove_of_not_operational idleState with ⟨thrown, failed⟩
      rw [failed] at removed
      cases removed
    cases found : leafOf openMls group.epoch (Utf8.encode name) with
    | none =>
        rw [remove_of_unknown found] at removed
        cases removed
    | some leaf =>
        rcases remove_of_found laws seed idle operational wellFormed other
            found with
          ⟨entry, listed, named, _, _, same, remaining⟩
        rw [removed] at same
        cases same
        refine ⟨operational, ?_, ?_⟩
        · apply (names_filter_leaf_iff laws.distinct listed named).mp
          rw [← remaining]
          exact left
        · by_contra absent
          rw [(leafOf_eq_none_iff _).mpr absent] at found
          cases found
  · rintro ⟨operational, single, spelled⟩
    cases found : leafOf openMls group.epoch (Utf8.encode name) with
    | none => exact absurd spelled ((leafOf_eq_none_iff _).mp found)
    | some leaf =>
        rcases remove_of_found laws seed idle operational wellFormed other
            found with
          ⟨entry, listed, named, result, reached, removed, remaining⟩
        refine ⟨result, reached, removed, ?_⟩
        rw [remaining]
        exact (names_filter_leaf_iff laws.distinct listed named).mpr single

end Complete

/-! ## Two members of one name -/

/-- A roster with distinct leaves and keys does what is asked. -/
theorem removesLeaves_rosterMls
    {own : Nat} {roster : Roster}
    (leaves : (roster.leaves.map Prod.fst).Nodup)
    (keys : (roster.leaves.map fun entry => entry.2.2).Nodup) :
    RemovesLeaves rosterMls own own roster where
  distinct := by
    change ((roster.leaves.map fun entry => (entry.1, entry.2.1)).map
      Prod.fst).Nodup
    rw [List.map_map]
    exact leaves
  proposes := by
    intro entry _ seed _
    exact ⟨.remove entry.1, [2], rfl⟩
  commits := by
    intro entry _ seed again proposal message foreign created
    cases created
    have valid : roster.validate own [.remove entry.1] = .ok () := by
      rw [Roster.validate, if_neg, if_pos]
      · apply List.Nodup.sublist _ keys
        simp only [Roster.apply, addedLeaves, List.append_nil]
        exact List.filter_sublist.map _
      · simpa using Ne.symm foreign
    refine ⟨⟨[4], none, ⟨roster.apply [.remove entry.1], false⟩⟩, ?_, rfl, ?_⟩
    · change (roster.validate own [.remove entry.1]).map _ = _
      rw [valid]
      rfl
    · simp only [rosterMls, Roster.apply, addedLeaves, List.append_nil,
        List.filter_map]
      congr 1
      apply List.filter_congr
      intro other _
      simp

/-- Alice, and two members who are both called Bob. -/
def twoBobs : Group Roster RosterProposal where
  epoch :=
    ⟨3, [(0, [97], 7), (1, [98], 8), (2, [98], 9), (3, [99], 10)]⟩
  proposals := []
  state := .operational

/-- The only member of its name is removed completely. -/
theorem remove_complete_iff_carol :
    RemovedCompletely rosterMls 0 () (literal "c") twoBobs :=
  (remove_complete_iff twoBobs
    (removesLeaves_rosterMls (by decide) (by decide)) () rfl (literal "c")
    (by decide) (by decide)).mpr (by decide)

/-- The removal of Bob goes through, and Bob is still a member. -/
theorem one_bob_remains :
    literal "b" ∈ members rosterMls twoBobs ∧
      (∃ result reached,
        remove rosterMls 0 () (literal "b") twoBobs =
            (.ok result, reached) ∧
          members rosterMls reached =
            [literal "a", literal "b", literal "c"]) ∧
        ¬ RemovedCompletely rosterMls 0 () (literal "b") twoBobs := by
  have remaining :
      members rosterMls (remove rosterMls 0 () (literal "b") twoBobs).2 =
        [literal "a", literal "b", literal "c"] := by
    decide +kernel
  have before :
      ((members rosterMls twoBobs).filter fun other =>
          decide (other ≠ literal "b")) =
        [literal "a", literal "c"] := by
    decide
  refine ⟨by decide, ?_, ?_⟩
  · have passed :
        (remove rosterMls 0 () (literal "b") twoBobs).1.toBool = true := by
      decide +kernel
    cases removed : remove rosterMls 0 () (literal "b") twoBobs with
    | mk result reached =>
        rw [removed] at remaining passed
        cases result with
        | error thrown => cases passed
        | ok commit => exact ⟨commit, reached, rfl, remaining⟩
  · rintro ⟨result, reached, removed, left⟩
    rw [removed, left, before] at remaining
    exact absurd remaining (by decide)

end Mls4rn.Core.RemovalByName
