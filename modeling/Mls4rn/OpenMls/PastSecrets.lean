import Mathlib.Data.List.DropRight
import Mls4rn.OpenMls.PrivateMessage

/-!
# The secrets of past epochs

`past_secrets.rs`: a group keeps the message secrets of the current epoch and
of a limited number of past ones, the latest at the end of the list.

As long as the limit stays what it is, the list is the end of the list of all
epochs that the group has left.  Lowering the limit is another matter.  The
number of epochs to be dropped is computed from the two limits, not from the
length of the list, and a list that is not full is turned too far.
-/

namespace Mls4rn.OpenMls.PastSecrets

open Mls4rn.Lib
open Mls4rn.Lib.ByteString
open Mls4rn.OpenMls.PrivateMessages
open Mls4rn.OpenMls.TreeMath

/-- `Member`, without the encryption key. -/
structure Member where
  index : LeafNodeIndex
  credential : Bytes
  signatureKey : Bytes
deriving DecidableEq, Repr

/-- `EpochTree`. -/
structure EpochTree (Secret : Type) where
  epoch : Nat
  messageSecrets : MessageSecrets Secret
  leaves : List Member

/-- `MessageSecretsStore`. -/
structure MessageSecretsStore (Secret : Type) where
  maxEpochs : Nat
  pastEpochTrees : List (EpochTree Secret)
  messageSecrets : MessageSecrets Secret

/-- `PastEpochDeletionPolicy`. -/
inductive PastEpochDeletionPolicy where
  | maxEpochs (count : Nat)
  | keepAll
deriving DecidableEq, Repr

/-- `PastEpochDeletionTimeConfig`; times and durations are nanoseconds. -/
inductive PastEpochDeletionTimeConfig where
  | olderThanDuration (duration : Nat)
  | beforeTimestamp (timestamp : Int)
  | deleteAllWithoutTimestamp
deriving DecidableEq, Repr

/-- `PastEpochDeletion`. -/
structure PastEpochDeletion where
  config : Option PastEpochDeletionTimeConfig
  maxPastEpochs : Option Nat
deriving DecidableEq, Repr

/-- `VECDEQUE_MAX_CAPACITY` where a pointer has 32 bits. -/
def vecdequeMaxCapacity : Nat := 2 ^ 31 - 1

/-- `PastEpochDeletionPolicy::max_epochs`. -/
def PastEpochDeletionPolicy.limit : PastEpochDeletionPolicy → Option Nat
  | .maxEpochs count => some count
  | .keepAll => none

/-- `max_epochs`. -/
def maxEpochs (policy : PastEpochDeletionPolicy) : Nat :=
  min (policy.limit.getD vecdequeMaxCapacity) vecdequeMaxCapacity

/-- `VecDeque::rotate_left`. -/
def rotateLeft {Value : Type} (values : List Value) (count : Nat) :
    List Value :=
  values.drop count ++ values.take count

section Model

variable {Secret : Type}

/-- `MessageSecrets::with_timestamp`. -/
def withTimestamp (secrets : MessageSecrets Secret) (now : Int) :
    MessageSecrets Secret :=
  { secrets with addedAt := some now }

namespace MessageSecretsStore

/-- `MessageSecretsStore::new_with_secret`. -/
def newWithSecret (policy : PastEpochDeletionPolicy)
    (secrets : MessageSecrets Secret) (now : Int) :
    MessageSecretsStore Secret where
  maxEpochs := PastSecrets.maxEpochs policy
  pastEpochTrees := []
  messageSecrets := withTimestamp secrets now

/-- `MessageSecretsStore::resize`. -/
def resize (policy : PastEpochDeletionPolicy)
    (store : MessageSecretsStore Secret) : MessageSecretsStore Secret :=
  let maxPastEpochs := PastSecrets.maxEpochs policy
  let oldSize := store.maxEpochs
  if maxPastEpochs < oldSize then
    let epochsOut := oldSize - maxPastEpochs
    { store with
      maxEpochs := maxPastEpochs
      pastEpochTrees :=
        (rotateLeft store.pastEpochTrees
          (min epochsOut store.pastEpochTrees.length)).take maxPastEpochs }
  else { store with maxEpochs := maxPastEpochs }

/-- `MessageSecretsStore::replace_current_message_secrets`. -/
def replaceCurrentMessageSecrets (secrets : MessageSecrets Secret)
    (now : Int) (store : MessageSecretsStore Secret) :
    MessageSecrets Secret × MessageSecretsStore Secret :=
  (store.messageSecrets,
    { store with messageSecrets := withTimestamp secrets now })

/-- `MessageSecretsStore::add_past_epoch_tree`. -/
def addPastEpochTree (epoch : Nat) (secrets : MessageSecrets Secret)
    (leaves : List Member) (store : MessageSecretsStore Secret) :
    MessageSecretsStore Secret :=
  if store.maxEpochs = 0 then store
  else
    let trees :=
      if store.maxEpochs ≤ store.pastEpochTrees.length then
        (rotateLeft store.pastEpochTrees 1).take (store.maxEpochs - 1)
      else store.pastEpochTrees
    { store with
      pastEpochTrees := trees ++
        [{ epoch := epoch, messageSecrets := secrets, leaves := leaves }] }

/-- `MessageSecretsStore::secrets_for_epoch`. -/
def secretsForEpoch (epoch : Nat) (store : MessageSecretsStore Secret) :
    Option (MessageSecrets Secret) :=
  (store.pastEpochTrees.find? (·.epoch = epoch)).map EpochTree.messageSecrets

/-- Change the first tree of an epoch. -/
def setFirst (epoch : Nat) (secrets : MessageSecrets Secret) :
    List (EpochTree Secret) → List (EpochTree Secret)
  | [] => []
  | tree :: trees =>
      if tree.epoch = epoch then
        { tree with messageSecrets := secrets } :: trees
      else tree :: setFirst epoch secrets trees

/-- Write through the reference of `secrets_for_epoch_mut`. -/
def setSecretsForEpoch (epoch : Nat) (secrets : MessageSecrets Secret)
    (store : MessageSecretsStore Secret) : MessageSecretsStore Secret :=
  { store with
    pastEpochTrees := setFirst epoch secrets store.pastEpochTrees }

/--
A look into the map of `MessageSecretsStore::leaves_for_epoch`.  The last one
of several members with one index is in the map.
-/
def leafForEpoch (epoch : Nat) (index : LeafNodeIndex)
    (store : MessageSecretsStore Secret) : Option Member :=
  (store.pastEpochTrees.find? (·.epoch = epoch)).bind fun tree =>
    tree.leaves.reverse.find? (·.index = index)

/-- `MessageSecretsStore::epoch_has_leaf`. -/
def epochHasLeaf (epoch : Nat) (index : LeafNodeIndex)
    (store : MessageSecretsStore Secret) : Bool :=
  store.pastEpochTrees.any fun tree =>
    tree.epoch = epoch && tree.leaves.any (·.index = index)

/-- Whether secrets were added longer ago than a duration. -/
def olderThanDuration (now : Int) (duration : Nat)
    (secrets : MessageSecrets Secret) : Bool :=
  secrets.addedAt.any fun addedAt =>
    decide (addedAt ≤ now ∧ (duration : Int) < now - addedAt)

/-- Whether secrets were added before a time. -/
def beforeTimestamp (cutoff : Int) (secrets : MessageSecrets Secret) : Bool :=
  secrets.addedAt.any fun addedAt => decide (addedAt < cutoff)

/--
`delete_past_epoch_secrets_older_than_duration` and
`delete_past_epoch_secrets_before_timestamp`, which differ in what is old.
-/
def deleteOld (old : MessageSecrets Secret → Bool)
    (store : MessageSecretsStore Secret) : MessageSecretsStore Secret :=
  if old store.messageSecrets then { store with pastEpochTrees := [] }
  else
    match store.pastEpochTrees.zipIdx.reverse.find?
        fun entry => old entry.1.messageSecrets with
    | some entry =>
        { store with
          pastEpochTrees := store.pastEpochTrees.drop (entry.2 + 1) }
    | none => store

/-- The part of `delete_past_epoch_secrets` that looks at the times. -/
def deleteByTime (now : Int) (store : MessageSecretsStore Secret) :
    PastEpochDeletionTimeConfig → MessageSecretsStore Secret
  | .deleteAllWithoutTimestamp =>
      { store with
        pastEpochTrees := store.pastEpochTrees.filter
          (·.messageSecrets.addedAt.isSome) }
  | .beforeTimestamp timestamp => store.deleteOld (beforeTimestamp timestamp)
  | .olderThanDuration duration =>
      store.deleteOld (olderThanDuration now duration)

/-- `MessageSecretsStore::delete_past_epoch_secrets`. -/
def deletePastEpochSecrets (policy : PastEpochDeletion) (now : Int)
    (store : MessageSecretsStore Secret) : MessageSecretsStore Secret :=
  match policy.config with
  | none => { store with pastEpochTrees := [] }
  | some config =>
      let store := store.deleteByTime now config
      match policy.maxPastEpochs with
      | none => store
      | some maxPastEpochs =>
          { store with
            pastEpochTrees := store.pastEpochTrees.drop
              (store.pastEpochTrees.length - maxPastEpochs) }

/-- What a merged commit does to the store. -/
def enterEpoch (pastEpoch : Nat) (leaves : List Member)
    (secrets : MessageSecrets Secret) (now : Int)
    (store : MessageSecretsStore Secret) : MessageSecretsStore Secret :=
  let replaced := store.replaceCurrentMessageSecrets secrets now
  replaced.2.addPastEpochTree pastEpoch replaced.1 leaves

/-- `MlsGroup::message_secrets_for_epoch`; `none` is too distant. -/
def messageSecretsForEpoch (current epoch : Nat)
    (store : MessageSecretsStore Secret) : Option (MessageSecrets Secret) :=
  if epoch < current then store.secretsForEpoch epoch
  else some store.messageSecrets

/-- Write through the reference of `message_secrets_for_epoch_mut`. -/
def setMessageSecretsForEpoch (current epoch : Nat)
    (secrets : MessageSecrets Secret) (store : MessageSecretsStore Secret) :
    MessageSecretsStore Secret :=
  if epoch < current then store.setSecretsForEpoch epoch secrets
  else { store with messageSecrets := secrets }

end MessageSecretsStore

end Model

/-! ## Lowering the limit -/

section Resizing

variable {Value : Type}

theorem rotateLeft_length (values : List Value) :
    rotateLeft values values.length = values := by
  rw [rotateLeft, List.drop_length, List.take_length, List.nil_append]

/-- The newest values, and those a turn of `old - new` leaves at the front. -/
theorem take_rotateLeft_eq_rtake_iff {values : List Value}
    (distinct : values.Nodup) {old new : Nat} (lower : new < old)
    (within : values.length ≤ old) :
    (rotateLeft values (min (old - new) values.length)).take new =
        values.rtake new ↔
      new = 0 ∨ values = [] ∨ values.length = old ∨
        values.length ≤ new ∧ values.length ≤ old - new := by
  rcases Nat.eq_zero_or_pos new with rfl | some
  · simp
  rcases Nat.eq_zero_or_pos values.length with none | several
  · rw [List.length_eq_zero_iff] at none
    subst none
    simp [rotateLeft]
  have notEmpty : values ≠ [] := List.ne_nil_of_length_pos several
  simp only [Nat.pos_iff_ne_zero.mp some, notEmpty, false_or]
  rcases Nat.lt_or_ge (old - new) values.length with part | all
  · rw [Nat.min_eq_left part.le]
    constructor
    · intro same
      left
      by_contra notFull
      -- The head of the one is at `old - new`, that of the other at the
      -- number of values to be dropped.
      have first := congrArg (·[0]?) same
      rw [List.getElem?_take_of_lt some, rotateLeft,
        List.getElem?_append_left (by rw [List.length_drop]; omega),
        List.getElem?_drop, List.rtake, List.getElem?_drop, Nat.add_zero,
        Nat.add_zero] at first
      have places := (List.getElem?_inj part distinct).mp first
      omega
    · rintro (full | ⟨-, few⟩)
      · have left : (values.drop (old - new)).length = new := by
          rw [List.length_drop]
          omega
        rw [rotateLeft, List.take_append_of_le_length left.ge,
          List.take_of_length_le left.le, List.rtake, full]
      · omega
  · rw [Nat.min_eq_right all, rotateLeft_length, List.rtake]
    constructor
    · intro same
      right
      refine ⟨?_, all⟩
      by_contra many
      have first := congrArg (·[0]?) same
      rw [List.getElem?_take_of_lt some, List.getElem?_drop,
        Nat.add_zero] at first
      have places := (List.getElem?_inj several distinct).mp first
      omega
    · rintro (full | ⟨few, -⟩)
      · omega
      · rw [List.take_of_length_le few, Nat.sub_eq_zero_of_le few,
          List.drop_zero]

end Resizing

section Store

variable {Secret : Type}

theorem rotateLeft_perm {Value : Type} (values : List Value) (count : Nat) :
    (rotateLeft values count).Perm values := by
  have whole := List.take_append_drop count values
  exact List.perm_append_comm.trans (List.Perm.of_eq whole)

theorem take_rotateLeft_subperm {Value : Type} (values : List Value)
    (count most : Nat) :
    ((rotateLeft values count).take most).Subperm values :=
  (List.take_sublist _ _).subperm.trans (rotateLeft_perm values count).subperm

/-- A change of the limit brings no entry back. -/
theorem resize_subperm (store : MessageSecretsStore Secret)
    (policy : PastEpochDeletionPolicy) :
    (store.resize policy).pastEpochTrees.Subperm store.pastEpochTrees := by
  rw [MessageSecretsStore.resize]
  split
  · exact take_rotateLeft_subperm _ _ _
  · exact List.Subperm.refl _

theorem resize_messageSecrets (store : MessageSecretsStore Secret)
    (policy : PastEpochDeletionPolicy) :
    (store.resize policy).messageSecrets = store.messageSecrets := by
  rw [MessageSecretsStore.resize]
  split
  · rfl
  · rfl

theorem deleteOld_sublist (store : MessageSecretsStore Secret)
    (old : MessageSecrets Secret → Bool) :
    (store.deleteOld old).pastEpochTrees.Sublist store.pastEpochTrees ∧
      (store.deleteOld old).messageSecrets = store.messageSecrets := by
  rw [MessageSecretsStore.deleteOld]
  split
  · exact ⟨List.nil_sublist _, rfl⟩
  · split
    · exact ⟨List.drop_sublist _ _, rfl⟩
    · exact ⟨List.Sublist.refl _, rfl⟩

theorem deleteByTime_sublist (store : MessageSecretsStore Secret) (now : Int)
    (config : PastEpochDeletionTimeConfig) :
    (store.deleteByTime now config).pastEpochTrees.Sublist
        store.pastEpochTrees ∧
      (store.deleteByTime now config).messageSecrets =
        store.messageSecrets := by
  cases config with
  | olderThanDuration duration => exact deleteOld_sublist store _
  | beforeTimestamp timestamp => exact deleteOld_sublist store _
  | deleteAllWithoutTimestamp => exact ⟨List.filter_sublist, rfl⟩

/-- A deletion leaves some of the past entries, and the current secrets. -/
theorem deletePastEpochSecrets_sublist (store : MessageSecretsStore Secret)
    (deletion : PastEpochDeletion) (now : Int) :
    (store.deletePastEpochSecrets deletion now).pastEpochTrees.Sublist
        store.pastEpochTrees ∧
      (store.deletePastEpochSecrets deletion now).messageSecrets =
        store.messageSecrets := by
  rw [MessageSecretsStore.deletePastEpochSecrets]
  split
  · exact ⟨List.nil_sublist _, rfl⟩
  · next config _ =>
    have byTime := deleteByTime_sublist store now config
    dsimp only
    split
    · exact byTime
    · exact ⟨(List.drop_sublist _ _).trans byTime.1, byTime.2⟩

/-- Entering an epoch adds the entry of the one that is left. -/
theorem enterEpoch_subperm (store : MessageSecretsStore Secret) (epoch : Nat)
    (leaves : List Member) (secrets : MessageSecrets Secret) (now : Int) :
    (store.enterEpoch epoch leaves secrets now).pastEpochTrees.Subperm
        (store.pastEpochTrees ++
          [EpochTree.mk epoch store.messageSecrets leaves]) ∧
      (store.enterEpoch epoch leaves secrets now).messageSecrets =
        withTimestamp secrets now := by
  rw [MessageSecretsStore.enterEpoch,
    MessageSecretsStore.replaceCurrentMessageSecrets,
    MessageSecretsStore.addPastEpochTree]
  split
  · exact ⟨(List.sublist_append_left _ _).subperm, rfl⟩
  · refine ⟨?_, rfl⟩
    dsimp only
    split
    · exact (take_rotateLeft_subperm _ _ _).append (List.Subperm.refl _)
    · exact List.Subperm.refl _

end Store

/-! ## The window over the epochs -/

section Windows

variable {Secret : Type}

/-- All epochs since a group was joined, with nothing forgotten. -/
structure Archive (Secret : Type) where
  first : Nat
  epoch : Nat
  secrets : Nat → MessageSecrets Secret
  leaves : Nat → List Member

namespace Archive

/-- The archive of a group that is joined in an epoch. -/
def join (epoch : Nat) (secrets : MessageSecrets Secret) (now : Int) :
    Archive Secret where
  first := epoch
  epoch := epoch
  secrets _ := withTimestamp secrets now
  leaves _ := []

/-- Enter the next epoch. -/
def enter (leaves : List Member) (secrets : MessageSecrets Secret)
    (now : Int) (archive : Archive Secret) : Archive Secret where
  first := archive.first
  epoch := archive.epoch + 1
  secrets := Function.update archive.secrets (archive.epoch + 1)
    (withTimestamp secrets now)
  leaves := Function.update archive.leaves archive.epoch leaves

/-- Change the secrets of an epoch. -/
def set (epoch : Nat) (secrets : MessageSecrets Secret)
    (archive : Archive Secret) : Archive Secret :=
  { archive with secrets := Function.update archive.secrets epoch secrets }

/-- The entry of a past epoch. -/
def tree (archive : Archive Secret) (epoch : Nat) : EpochTree Secret where
  epoch := epoch
  messageSecrets := archive.secrets epoch
  leaves := archive.leaves epoch

/-- The number of past epochs within a limit. -/
def kept (limit : Nat) (archive : Archive Secret) : Nat :=
  min limit (archive.epoch - archive.first)

end Archive

/-- The store is the end of the archive. -/
structure Window (archive : Archive Secret)
    (store : MessageSecretsStore Secret) : Prop where
  begun : archive.first ≤ archive.epoch
  current : store.messageSecrets = archive.secrets archive.epoch
  past : store.pastEpochTrees =
    (List.range' (archive.epoch - archive.kept store.maxEpochs)
      (archive.kept store.maxEpochs)).map archive.tree

theorem window_newWithSecret (policy : PastEpochDeletionPolicy)
    (epoch : Nat) (secrets : MessageSecrets Secret) (now : Int) :
    Window (Archive.join epoch secrets now)
      (MessageSecretsStore.newWithSecret policy secrets now) where
  begun := Nat.le_refl _
  current := rfl
  past := by
    have none : (Archive.join epoch secrets now).kept
        (MessageSecretsStore.newWithSecret policy secrets now).maxEpochs =
          0 := by
      simp [Archive.kept, Archive.join]
    rw [none]
    rfl

variable {archive : Archive Secret} {store : MessageSecretsStore Secret}

/-- Entries of other epochs do not change. -/
theorem tree_enter {leaves : List Member} {secrets : MessageSecrets Secret}
    {now : Int} {epoch : Nat} (before : epoch < archive.epoch) :
    (archive.enter leaves secrets now).tree epoch = archive.tree epoch := by
  simp only [Archive.tree, Archive.enter, EpochTree.mk.injEq, true_and]
  rw [Function.update_of_ne (by omega), Function.update_of_ne (by omega)]
  exact ⟨rfl, rfl⟩

/-- A list within the limit drops its first entry when it is full. -/
theorem addPastEpochTree_eq
    (within : store.pastEpochTrees.length ≤ store.maxEpochs) (epoch : Nat)
    (secrets : MessageSecrets Secret) (leaves : List Member) :
    store.addPastEpochTree epoch secrets leaves =
      { store with
        pastEpochTrees := (store.pastEpochTrees ++
          [EpochTree.mk epoch secrets leaves]).rtake store.maxEpochs } := by
  rcases store with ⟨limit, trees, current⟩
  rw [MessageSecretsStore.addPastEpochTree]
  dsimp only at within ⊢
  split
  · next zero =>
    have empty : trees = [] := List.length_eq_zero_iff.mp (by omega)
    subst zero empty
    rfl
  · next positive =>
    congr 1
    rw [List.rtake, List.length_append, List.length_singleton]
    split
    · next full =>
      have one : trees.length + 1 - limit = 1 := by omega
      have rest : (trees.drop 1).length = limit - 1 := by
        rw [List.length_drop]
        omega
      rw [one, List.drop_append_of_le_length (by omega), rotateLeft,
        List.take_append_of_le_length rest.ge,
        List.take_of_length_le rest.le]
    · next room =>
      rw [Nat.sub_eq_zero_of_le (by omega), List.drop_zero]

theorem Window.length_eq (window : Window archive store) :
    store.pastEpochTrees.length = archive.kept store.maxEpochs := by
  rw [window.past, List.length_map, List.length_range']

theorem Window.within (window : Window archive store) :
    store.pastEpochTrees.length ≤ store.maxEpochs := by
  rw [window.length_eq]
  exact Nat.min_le_left _ _

theorem Window.enterEpoch (window : Window archive store)
    (leaves : List Member) (secrets : MessageSecrets Secret) (now : Int) :
    Window (archive.enter leaves secrets now)
      (store.enterEpoch archive.epoch leaves secrets now) := by
  have entered :
      store.enterEpoch archive.epoch leaves secrets now =
        { store with
          messageSecrets := withTimestamp secrets now
          pastEpochTrees := (store.pastEpochTrees ++
            [EpochTree.mk archive.epoch store.messageSecrets leaves]).rtake
              store.maxEpochs } :=
    @addPastEpochTree_eq Secret
      { store with messageSecrets := withTimestamp secrets now }
      window.within archive.epoch store.messageSecrets leaves
  rw [entered]
  refine ⟨Nat.le_succ_of_le window.begun, ?_, ?_⟩
  · exact (Function.update_self (archive.epoch + 1)
      (withTimestamp secrets now) archive.secrets).symm
  · have left : (archive.enter leaves secrets now).tree archive.epoch =
        EpochTree.mk archive.epoch store.messageSecrets leaves := by
      rw [Archive.tree, EpochTree.mk.injEq, window.current]
      exact ⟨rfl, Function.update_of_ne (by omega) .., Function.update_self ..⟩
    have bounded : archive.kept store.maxEpochs ≤ archive.epoch :=
      (Nat.min_le_right _ _).trans (Nat.sub_le _ _)
    have all : store.pastEpochTrees ++
          [EpochTree.mk archive.epoch store.messageSecrets leaves] =
        (List.range' (archive.epoch - archive.kept store.maxEpochs)
          (archive.kept store.maxEpochs + 1)).map
            (archive.enter leaves secrets now).tree := by
      rw [List.range'_1_concat, List.map_append, List.map_singleton,
        Nat.sub_add_cancel bounded, left, window.past]
      congr 1
      apply List.map_congr_left
      intro epoch inside
      have range := List.mem_range'_1.mp inside
      exact (tree_enter (by omega)).symm
    dsimp only
    rw [all, List.rtake, List.length_map, List.length_range', ← List.map_drop,
      List.drop_range']
    have begun := window.begun
    congr 2
    · simp only [Archive.kept, Archive.enter]
      omega
    · simp only [Archive.kept, Archive.enter]
      omega

/-- The entry of an epoch in a list of entries. -/
theorem find_map_tree (epochs : List Nat) (epoch : Nat) :
    (epochs.map archive.tree).find? (·.epoch = epoch) =
      if epoch ∈ epochs then some (archive.tree epoch) else none := by
  induction epochs with
  | nil => rfl
  | cons other epochs induction =>
      rw [List.map_cons, List.find?_cons]
      by_cases same : other = epoch
      · subst same
        simp [Archive.tree]
      · simp [Archive.tree, same, Ne.symm same, induction]

theorem tree_set_of_ne {epoch other : Nat} (different : other ≠ epoch)
    (secrets : MessageSecrets Secret) :
    (archive.set epoch secrets).tree other = archive.tree other := by
  simp only [Archive.tree, Archive.set, EpochTree.mk.injEq, true_and, and_true]
  exact Function.update_of_ne different ..

theorem map_tree_set {epochs : List Nat} {epoch : Nat}
    (outside : epoch ∉ epochs) (secrets : MessageSecrets Secret) :
    epochs.map (archive.set epoch secrets).tree = epochs.map archive.tree := by
  apply List.map_congr_left
  intro other inside
  refine tree_set_of_ne ?_ secrets
  rintro rfl
  exact outside inside

/-- Without repetitions the first entry of an epoch is the only one. -/
theorem setFirst_map_tree {epochs : List Nat} (distinct : epochs.Nodup)
    (epoch : Nat) (secrets : MessageSecrets Secret) :
    MessageSecretsStore.setFirst epoch secrets (epochs.map archive.tree) =
      epochs.map (archive.set epoch secrets).tree := by
  induction epochs with
  | nil => rfl
  | cons other epochs induction =>
      obtain ⟨fresh, distinct⟩ := List.nodup_cons.mp distinct
      rw [List.map_cons, List.map_cons, MessageSecretsStore.setFirst]
      split
      · next same =>
        have same : other = epoch := same
        subst same
        rw [map_tree_set fresh]
        congr 1
        simp [Archive.tree, Archive.set]
      · next different =>
        have different : other ≠ epoch := different
        rw [induction distinct, tree_set_of_ne different]

/-- The past epochs that the store has. -/
theorem mem_range'_kept {limit epoch : Nat} :
    epoch ∈ List.range' (archive.epoch - archive.kept limit)
        (archive.kept limit) ↔
      epoch < archive.epoch ∧ archive.epoch ≤ epoch + archive.kept limit := by
  rw [List.mem_range'_1]
  have bounded : archive.kept limit ≤ archive.epoch :=
    (Nat.min_le_right _ _).trans (Nat.sub_le _ _)
  omega

theorem Window.find_eq (window : Window archive store) (epoch : Nat) :
    store.pastEpochTrees.find? (·.epoch = epoch) =
      if epoch < archive.epoch ∧
          archive.epoch ≤ epoch + archive.kept store.maxEpochs then
        some (archive.tree epoch)
      else none := by
  simp only [window.past, find_map_tree, mem_range'_kept]

/-- Which epochs are answered for, and by which secrets. -/
theorem Window.messageSecretsForEpoch_eq (window : Window archive store)
    (epoch : Nat) :
    store.messageSecretsForEpoch archive.epoch epoch =
      if archive.epoch ≤ epoch + archive.kept store.maxEpochs then
        some (archive.secrets (min epoch archive.epoch))
      else none := by
  rw [MessageSecretsStore.messageSecretsForEpoch]
  split
  · next before =>
    rw [MessageSecretsStore.secretsForEpoch, window.find_eq,
      Nat.min_eq_left before.le]
    simp only [before, true_and]
    split
    · rfl
    · rfl
  · next notBefore =>
    rw [if_pos (by omega), Nat.min_eq_right (by omega), window.current]

theorem Window.setMessageSecretsForEpoch (window : Window archive store)
    (epoch : Nat) (secrets : MessageSecrets Secret) :
    Window (archive.set (min epoch archive.epoch) secrets)
      (store.setMessageSecretsForEpoch archive.epoch epoch secrets) := by
  rw [MessageSecretsStore.setMessageSecretsForEpoch]
  split
  · next before =>
    rw [Nat.min_eq_left before.le]
    refine ⟨window.begun, ?_, ?_⟩
    · exact window.current.trans
        (Function.update_of_ne (Nat.ne_of_gt before) ..).symm
    · show MessageSecretsStore.setFirst epoch secrets store.pastEpochTrees = _
      rw [window.past, setFirst_map_tree List.nodup_range']
      rfl
  · next notBefore =>
    rw [Nat.min_eq_right (by omega)]
    refine ⟨window.begun, ?_, ?_⟩
    · exact (Function.update_self archive.epoch secrets
        archive.secrets).symm
    · show store.pastEpochTrees = _
      rw [window.past]
      refine (map_tree_set ?_ secrets).symm
      intro inside
      have past := mem_range'_kept.mp inside
      exact Nat.lt_irrefl _ past.1

/-- What happens to the store of a group that keeps its limit. -/
inductive Event (Secret : Type) where
  | enter (leaves : List Member) (secrets : MessageSecrets Secret)
      (now : Int)
  | use (epoch : Nat) (change : MessageSecrets Secret → MessageSecrets Secret)

/-- An event at the epoch and the store of a group. -/
def Event.onStore (state : Nat × MessageSecretsStore Secret) :
    Event Secret → Nat × MessageSecretsStore Secret
  | .enter leaves secrets now =>
      (state.1 + 1, state.2.enterEpoch state.1 leaves secrets now)
  | .use epoch change =>
      match state.2.messageSecretsForEpoch state.1 epoch with
      | none => state
      | some secrets =>
          (state.1, state.2.setMessageSecretsForEpoch state.1 epoch
            (change secrets))

/-- An event at the archive, of which the last epochs are in use. -/
def Event.onArchive (limit : Nat) (archive : Archive Secret) :
    Event Secret → Archive Secret
  | .enter leaves secrets now => archive.enter leaves secrets now
  | .use epoch change =>
      let epoch := min epoch archive.epoch
      if archive.epoch ≤ epoch + archive.kept limit then
        archive.set epoch (change (archive.secrets epoch))
      else archive

/-- One event, at the store and at the archive. -/
theorem Window.event (window : Window archive store) (event : Event Secret) :
    let after := event.onStore (archive.epoch, store)
    let archived := event.onArchive store.maxEpochs archive
    after.1 = archived.epoch ∧ after.2.maxEpochs = store.maxEpochs ∧
      Window archived after.2 := by
  cases event with
  | enter leaves secrets now =>
      refine ⟨rfl, ?_, window.enterEpoch leaves secrets now⟩
      show (MessageSecretsStore.addPastEpochTree _ _ _ _).maxEpochs = _
      rw [MessageSecretsStore.addPastEpochTree]
      split
      · rfl
      · rfl
  | use epoch change =>
      have kept : archive.epoch ≤ min epoch archive.epoch +
            archive.kept store.maxEpochs ↔
          archive.epoch ≤ epoch + archive.kept store.maxEpochs := by
        omega
      simp only [Event.onStore, Event.onArchive,
        window.messageSecretsForEpoch_eq, kept]
      by_cases answered : archive.epoch ≤ epoch + archive.kept store.maxEpochs
      · simp only [if_pos answered]
        refine ⟨rfl, ?_, window.setMessageSecretsForEpoch epoch _⟩
        rw [MessageSecretsStore.setMessageSecretsForEpoch]
        split
        · rfl
        · rfl
      · simp only [if_neg answered, true_and]
        exact window

theorem Window.events (events : List (Event Secret)) :
    ∀ {archive : Archive Secret} {store : MessageSecretsStore Secret},
      Window archive store →
        let after := events.foldl Event.onStore (archive.epoch, store)
        let archived :=
          events.foldl (Event.onArchive store.maxEpochs) archive
        after.1 = archived.epoch ∧ after.2.maxEpochs = store.maxEpochs ∧
          Window archived after.2 := by
  induction events with
  | nil =>
      intro archive store window
      exact ⟨rfl, rfl, window⟩
  | cons event events induction =>
      intro archive store window
      obtain ⟨epochs, limits, window⟩ := window.event event
      obtain ⟨lastEpochs, lastLimits, last⟩ := induction window
      rw [← epochs, limits] at lastEpochs lastLimits last
      exact ⟨lastEpochs, lastLimits, last⟩

/--
A group that keeps its limit answers for an epoch exactly if no more epochs
than the limit have passed since, and if it was a member then.  It answers
with the secrets of that epoch as they were left by their last use.
-/
theorem store_is_window (policy : PastEpochDeletionPolicy) (first : Nat)
    (secrets : MessageSecrets Secret) (now : Int)
    (events : List (Event Secret)) (epoch : Nat) :
    let state := events.foldl Event.onStore
      (first, MessageSecretsStore.newWithSecret policy secrets now)
    let archive := events.foldl (Event.onArchive (maxEpochs policy))
      (Archive.join first secrets now)
    state.1 = archive.epoch ∧
      state.2.messageSecretsForEpoch state.1 epoch =
        if archive.epoch ≤
            epoch + min (maxEpochs policy) (archive.epoch - archive.first) then
          some (archive.secrets (min epoch archive.epoch))
        else none := by
  intro state archive
  obtain ⟨epochs, limits, window⟩ := Window.events events
    (window_newWithSecret policy first secrets now)
  have epochs : state.1 = archive.epoch := epochs
  refine ⟨epochs, ?_⟩
  have answer := window.messageSecretsForEpoch_eq epoch
  rw [limits] at answer
  rw [epochs]
  exact answer

/-! ## Lowering the limit of a group -/

theorem first_onArchive (limit : Nat) (event : Event Secret)
    (archive : Archive Secret) :
    (event.onArchive limit archive).first = archive.first := by
  cases event with
  | enter leaves secrets now => rfl
  | use epoch change =>
      rw [Event.onArchive]
      split
      · rfl
      · rfl

theorem first_events (limit : Nat) (events : List (Event Secret))
    (archive : Archive Secret) :
    (events.foldl (Event.onArchive limit) archive).first = archive.first := by
  induction events generalizing archive with
  | nil => rfl
  | cons event events induction =>
      rw [List.foldl_cons, induction, first_onArchive]

/-- The epochs that are left when the limit is lowered. -/
theorem epochs_resize {policy : PastEpochDeletionPolicy}
    (lower : maxEpochs policy < store.maxEpochs) :
    (store.resize policy).pastEpochTrees.map EpochTree.epoch =
      (rotateLeft (store.pastEpochTrees.map EpochTree.epoch)
        (min (store.maxEpochs - maxEpochs policy)
          (store.pastEpochTrees.map EpochTree.epoch).length)).take
            (maxEpochs policy) := by
  rw [MessageSecretsStore.resize, if_pos lower]
  simp [rotateLeft, List.map_take, List.map_drop]

theorem Window.epochs_eq (window : Window archive store) :
    store.pastEpochTrees.map EpochTree.epoch =
      List.range' (archive.epoch - archive.kept store.maxEpochs)
        (archive.kept store.maxEpochs) := by
  rw [window.past, List.map_map]
  exact List.map_id _

/-- The end of an archive, and what is left of it with a lower limit. -/
theorem Window.resize_eq_iff (window : Window archive store)
    {policy : PastEpochDeletionPolicy}
    (lower : maxEpochs policy < store.maxEpochs) {passed : Nat}
    (since : archive.epoch - archive.first = passed) :
    (store.resize policy).pastEpochTrees.map EpochTree.epoch =
        List.range' (archive.epoch - min (maxEpochs policy) passed)
          (min (maxEpochs policy) passed) ↔
      maxEpochs policy = 0 ∨ passed = 0 ∨ store.maxEpochs ≤ passed ∨
        passed ≤ maxEpochs policy ∧
          passed ≤ store.maxEpochs - maxEpochs policy := by
  have listed := window.epochs_eq
  rw [Archive.kept, since] at listed
  have count : (store.pastEpochTrees.map EpochTree.epoch).length =
      min store.maxEpochs passed := by
    rw [listed, List.length_range']
  have distinct : (store.pastEpochTrees.map EpochTree.epoch).Nodup := by
    rw [listed]
    exact List.nodup_range'
  have newest : List.range' (archive.epoch - min (maxEpochs policy) passed)
      (min (maxEpochs policy) passed) =
        (store.pastEpochTrees.map EpochTree.epoch).rtake
          (maxEpochs policy) := by
    rw [List.rtake, count, listed, List.drop_range']
    congr 1
    · omega
    · omega
  rw [newest, epochs_resize lower,
    take_rotateLeft_eq_rtake_iff distinct lower (by omega),
    ← List.length_eq_zero_iff, count]
  omega

/--
A group that has kept its limit since it was joined lowers it.  What is left
are the latest epochs in their order, exactly if there is nothing to be kept,
if the list was full, or if nothing needed to be dropped and the list is turned
all the way round.
-/
theorem resize_keeps_newest_iff (policy : PastEpochDeletionPolicy)
    (first : Nat) (secrets : MessageSecrets Secret) (now : Int)
    (events : List (Event Secret)) (lowered : PastEpochDeletionPolicy)
    (lower : maxEpochs lowered < maxEpochs policy) :
    let state := events.foldl Event.onStore
      (first, MessageSecretsStore.newWithSecret policy secrets now)
    let passed := state.1 - first
    (state.2.resize lowered).pastEpochTrees.map EpochTree.epoch =
        List.range' (state.1 - min (maxEpochs lowered) passed)
          (min (maxEpochs lowered) passed) ↔
      maxEpochs lowered = 0 ∨ passed = 0 ∨ maxEpochs policy ≤ passed ∨
        passed ≤ maxEpochs lowered ∧
          passed ≤ maxEpochs policy - maxEpochs lowered := by
  intro state passed
  obtain ⟨epochs, limits, window⟩ := Window.events events
    (window_newWithSecret policy first secrets now)
  have limit : state.2.maxEpochs = maxEpochs policy := limits
  have started := first_events (maxEpochs policy) events
    (Archive.join first secrets now)
  have since : _ - Archive.first _ = passed :=
    congrArg₂ (· - ·) epochs.symm started
  have lower : maxEpochs lowered < state.2.maxEpochs := by
    rw [limit]
    exact lower
  have kept := window.resize_eq_iff lower since
  rw [← epochs, limits] at kept
  exact kept

/-- The events of a group that enters four epochs. -/
def fourEpochs : List (Event Unit) :=
  List.replicate 4 (.enter [] ⟨(), [], .new () (TreeSize.new 1) ⟨0⟩, none⟩ 0)

/-- One of the newest epochs is dropped for the oldest one. -/
theorem resize_drops_a_new_epoch :
    let state := fourEpochs.foldl Event.onStore
      (0, MessageSecretsStore.newWithSecret (.maxEpochs 5)
        ⟨(), [], .new () (TreeSize.new 1) ⟨0⟩, none⟩ 0)
    let kept := (state.2.resize (.maxEpochs 2)).pastEpochTrees.map
      EpochTree.epoch
    state.1 = 4 ∧ kept = [3, 0] ∧ kept ≠ [2, 3] := by
  refine ⟨rfl, rfl, fun same => ?_⟩
  have newest := (resize_keeps_newest_iff (.maxEpochs 5) 0 _ 0 fourEpochs
    (.maxEpochs 2) (by decide)).mp same
  revert newest
  decide

end Windows

end Mls4rn.OpenMls.PastSecrets
