import Mathlib.Tactic

/-!
# Maps that remember insertion order

The `Map` of ECMAScript keeps its entries in the order in which their keys
were first inserted; overwriting a value keeps the position of its key.  The
carrier below is the list of entries together with the proof that no key
occurs twice, so iteration order is list order and lookup is membership.
-/

namespace Mls4rn.Lib

universe u v

/-- Entries in insertion order, without a repeated key. -/
@[ext]
structure InsertionMap (Key : Type u) (Value : Type v) where
  entries : List (Key × Value)
  distinct : (entries.map Prod.fst).Nodup

namespace InsertionMap

variable {Key : Type u} {Value : Type v}

/-- The map without entries. -/
def empty : InsertionMap Key Value where
  entries := []
  distinct := by simp

/-- The keys in insertion order. -/
def keys (map : InsertionMap Key Value) : List Key :=
  map.entries.map Prod.fst

variable (map : InsertionMap Key Value)

theorem keys_nodup :
    map.keys.Nodup :=
  map.distinct

@[simp]
theorem keys_empty :
    (empty : InsertionMap Key Value).keys = [] :=
  rfl

variable [DecidableEq Key]

/-- Look a key up. -/
def get (map : InsertionMap Key Value) (key : Key) : Option Value :=
  (map.entries.find? fun entry => decide (entry.1 = key)).map Prod.snd

/-- A key without an entry is absent. -/
@[simp]
theorem get_empty (key : Key) :
    (empty : InsertionMap Key Value).get key = none :=
  rfl

private theorem find_eq_some_iff
    (entries : List (Key × Value))
    (distinct : (entries.map Prod.fst).Nodup)
    (key : Key) (value : Value) :
    (entries.find? fun entry => decide (entry.1 = key)).map Prod.snd =
        some value ↔
      (key, value) ∈ entries := by
  induction entries with
  | nil => simp
  | cons entry rest induction =>
      rcases entry with ⟨headKey, headValue⟩
      simp only [List.map_cons, List.nodup_cons] at distinct
      by_cases same : headKey = key
      · subst headKey
        have absent : (key, value) ∉ rest := by
          intro member
          exact distinct.1 (List.mem_map.mpr ⟨(key, value), member, rfl⟩)
        simp only [List.find?_cons, decide_true, Option.map_some,
          Option.some.injEq, List.mem_cons, Prod.mk.injEq, true_and,
          absent, or_false]
        exact eq_comm
      · have other : ¬ key = headKey := fun equal => same equal.symm
        simp only [List.find?_cons, same, decide_false,
          List.mem_cons, Prod.mk.injEq, other, false_and, false_or]
        exact induction distinct.2

/-- Lookup is membership, because no key is repeated. -/
theorem get_eq_some_iff (key : Key) (value : Value) :
    map.get key = some value ↔ (key, value) ∈ map.entries :=
  find_eq_some_iff map.entries map.distinct key value

theorem mem_keys_iff (key : Key) :
    key ∈ map.keys ↔ ∃ value, map.get key = some value := by
  simp only [keys, List.mem_map, get_eq_some_iff]
  constructor
  · rintro ⟨⟨entryKey, value⟩, member, rfl⟩
    exact ⟨value, member⟩
  · rintro ⟨value, member⟩
    exact ⟨(key, value), member, rfl⟩

theorem get_eq_none_iff (key : Key) :
    map.get key = none ↔ key ∉ map.keys := by
  rw [mem_keys_iff, Option.eq_none_iff_forall_ne_some, not_exists]

/-- Overwrite in place, or append when the key is new. -/
def setEntries (entries : List (Key × Value)) (key : Key) (value : Value) :
    List (Key × Value) :=
  if key ∈ entries.map Prod.fst then
    entries.map fun entry => if entry.1 = key then (key, value) else entry
  else
    entries ++ [(key, value)]

private theorem map_fst_overwrite
    (entries : List (Key × Value)) (key : Key) (value : Value) :
    (entries.map fun entry =>
        if entry.1 = key then (key, value) else entry).map Prod.fst =
      entries.map Prod.fst := by
  rw [List.map_map]
  apply List.map_congr_left
  intro entry _
  by_cases same : entry.1 = key
  · simp [same]
  · simp [same]

theorem setEntries_keys
    (entries : List (Key × Value)) (key : Key) (value : Value) :
    (setEntries entries key value).map Prod.fst =
      if key ∈ entries.map Prod.fst then entries.map Prod.fst
      else entries.map Prod.fst ++ [key] := by
  unfold setEntries
  split
  · exact map_fst_overwrite entries key value
  · simp

/-- `Map.prototype.set`. -/
def set (map : InsertionMap Key Value) (key : Key) (value : Value) :
    InsertionMap Key Value where
  entries := setEntries map.entries key value
  distinct := by
    rw [setEntries_keys]
    split
    · exact map.distinct
    · next fresh =>
      simpa [List.nodup_append, fresh] using
        ⟨map.distinct, fun entryKey entryValue member equal =>
          fresh (List.mem_map.mpr ⟨(entryKey, entryValue), member, equal⟩)⟩

theorem keys_set (key : Key) (value : Value) :
    (map.set key value).keys =
      if key ∈ map.keys then map.keys else map.keys ++ [key] :=
  setEntries_keys map.entries key value

theorem length_set_le (key : Key) (value : Value) :
    (map.set key value).entries.length ≤ map.entries.length + 1 := by
  change (setEntries map.entries key value).length ≤ _
  unfold setEntries
  split
  · rw [List.length_map]
    exact Nat.le_succ _
  · rw [List.length_append]
    rfl

@[simp]
theorem mem_keys_set (key other : Key) (value : Value) :
    other ∈ (map.set key value).keys ↔ other = key ∨ other ∈ map.keys := by
  rw [keys_set]
  split
  · next present =>
    constructor
    · exact Or.inr
    · rintro (rfl | member)
      · exact present
      · exact member
  · simp [or_comm]

theorem mem_set_entries_iff (key other : Key) (value found : Value) :
    (other, found) ∈ (map.set key value).entries ↔
      (other = key ∧ found = value) ∨
        (other ≠ key ∧ (other, found) ∈ map.entries) := by
  change (other, found) ∈ setEntries map.entries key value ↔ _
  unfold setEntries
  split
  · next present =>
    rw [List.mem_map]
    constructor
    · rintro ⟨entry, member, equal⟩
      by_cases same : entry.1 = key
      · rw [if_pos same] at equal
        cases equal
        exact Or.inl ⟨rfl, rfl⟩
      · rw [if_neg same] at equal
        subst equal
        exact Or.inr ⟨same, member⟩
    · rintro (⟨rfl, rfl⟩ | ⟨different, member⟩)
      · rcases List.mem_map.mp present with ⟨entry, member, rfl⟩
        exact ⟨entry, member, if_pos rfl⟩
      · exact ⟨(other, found), member, if_neg different⟩
  · next fresh =>
    rw [List.mem_append, List.mem_singleton, Prod.mk.injEq]
    constructor
    · rintro (member | ⟨rfl, rfl⟩)
      · refine Or.inr ⟨?_, member⟩
        rintro rfl
        exact fresh (List.mem_map.mpr ⟨(other, found), member, rfl⟩)
      · exact Or.inl ⟨rfl, rfl⟩
    · rintro (⟨rfl, rfl⟩ | ⟨_, member⟩)
      · exact Or.inr ⟨rfl, rfl⟩
      · exact Or.inl member

@[simp]
theorem get_set_self (key : Key) (value : Value) :
    (map.set key value).get key = some value := by
  rw [get_eq_some_iff, mem_set_entries_iff]
  exact Or.inl ⟨rfl, rfl⟩

theorem get_set_of_ne
    {key other : Key} (value : Value) (different : other ≠ key) :
    (map.set key value).get other = map.get other := by
  apply Option.ext
  intro found
  simp [get_eq_some_iff, mem_set_entries_iff, different]

/-- Setting a key moves no entry. -/
theorem getElem_set_entries
    {index : Nat} {found : Key}
    {old : Value} (present : map.entries[index]? = some (found, old))
    (key : Key) (value : Value) :
    (map.set key value).entries[index]? =
      some (found, if found = key then value else old) := by
  change (setEntries map.entries key value)[index]? = _
  unfold setEntries
  split
  · rw [List.getElem?_map, present, Option.map_some]
    split
    · next same => simp_all
    · next different => simp_all
  · next absent =>
    have inside : index < map.entries.length :=
      (List.getElem?_eq_some_iff.mp present).1
    have different : found ≠ key := by
      rintro rfl
      exact absent (List.mem_map.mpr ⟨_, List.mem_of_getElem? present, rfl⟩)
    rw [List.getElem?_append_left inside, present, if_neg different]

/-- `Map.prototype.delete`. -/
def delete (map : InsertionMap Key Value) (key : Key) :
    InsertionMap Key Value where
  entries := map.entries.filter fun entry => decide (entry.1 ≠ key)
  distinct :=
    (List.Sublist.map Prod.fst List.filter_sublist).nodup map.distinct

theorem get_delete (key other : Key) :
    (map.delete key).get other =
      if other = key then none else map.get other := by
  apply Option.ext
  intro value
  rw [get_eq_some_iff, delete, List.mem_filter, ← get_eq_some_iff]
  split
  · next same => simp [same]
  · next different => simp [different]

/-- A deleted key is taken out of the keys. -/
theorem count_keys_delete
    {key : Key} (present : key ∈ map.keys) (other : Key) :
    map.keys.count other =
      (map.delete key).keys.count other + [key].count other := by
  have kept :
      (map.delete key).keys =
        map.keys.filter fun name => decide (name ≠ key) := by
    rw [keys, keys, List.filter_map]
    rfl
  rw [kept]
  by_cases same : other = key
  · subst same
    rw [List.count_eq_one_of_mem map.keys_nodup present,
      List.count_eq_zero_of_not_mem (by simp), List.count_singleton_self]
  · have elsewhere : other ∉ [key] := by simpa using same
    rw [List.count_filter (by simpa using same),
      List.count_eq_zero_of_not_mem elsewhere, Nat.add_zero]

theorem delete_set_empty (key : Key) (value : Value) :
    ((empty : InsertionMap Key Value).set key value).delete key = empty := by
  simp [delete, set, setEntries, empty]

theorem get_set (key other : Key) (value : Value) :
    (map.set key value).get other =
      if other = key then some value else map.get other := by
  split
  · next same => rw [same, get_set_self]
  · next different => exact get_set_of_ne map value different

/-! ## Whole lists of entries -/

/-- A new key goes to the end. -/
theorem setEntries_of_fresh
    (entries : List (Key × Value)) {key : Key} (value : Value)
    (fresh : key ∉ entries.map Prod.fst) :
    setEntries entries key value = entries ++ [(key, value)] :=
  if_neg fresh

/-- Set every entry of a list in turn. -/
def setAll (map : InsertionMap Key Value) (entries : List (Key × Value)) :
    InsertionMap Key Value :=
  entries.foldl (fun map entry => map.set entry.1 entry.2) map

/-- Entries with new and distinct keys are appended as they are. -/
theorem setAll_entries
    (entries : List (Key × Value))
    (distinct : ((map.entries ++ entries).map Prod.fst).Nodup) :
    (map.setAll entries).entries = map.entries ++ entries := by
  induction entries generalizing map with
  | nil => simp [setAll]
  | cons entry entries induction =>
      have fresh : entry.1 ∉ map.entries.map Prod.fst := by
        intro member
        simp only [List.map_append, List.map_cons, List.nodup_append]
          at distinct
        exact distinct.2.2 _ member entry.1 (by simp) rfl
      have appended :
          (map.set entry.1 entry.2).entries = map.entries ++ [entry] :=
        setEntries_of_fresh map.entries entry.2 fresh
      have rest := induction (map.set entry.1 entry.2) (by
        rw [appended, List.append_assoc]
        exact distinct)
      rw [appended, List.append_assoc] at rest
      exact rest

/-- Lookup after setting every key of a list to its value under a function. -/
theorem get_setAll_map
    (keys : List Key) (valueOf : Key → Value) (key : Key) :
    (map.setAll (keys.map fun key => (key, valueOf key))).get key =
      if key ∈ keys then some (valueOf key) else map.get key := by
  induction keys generalizing map with
  | nil => simp [setAll]
  | cons first keys induction =>
      have rest := induction (map.set first (valueOf first))
      rw [get_set] at rest
      rw [List.map_cons]
      change
        ((map.set first (valueOf first)).setAll
          (keys.map fun key => (key, valueOf key))).get key = _
      rw [rest]
      by_cases member : key ∈ keys
      · simp [member]
      · by_cases same : key = first
        · simp [same]
        · simp [member, same]

/-- Maps with the same entries in some order answer the same lookups. -/
theorem get_eq_of_perm
    {first second : InsertionMap Key Value}
    (same : first.entries.Perm second.entries) (key : Key) :
    first.get key = second.get key := by
  apply Option.ext
  intro value
  simp only [get_eq_some_iff, same.mem_iff]

end InsertionMap

end Mls4rn.Lib
