import Mls4rn.Lib.InsertionMap

/-!
# A part of a map under other keys

A map restricts another one if it has, in the same order, the entries whose
values are kept, with renamed keys and translated values.  A change of an
entry that is not kept leaves the part as it is; a change of one that is kept
is made in both maps.
-/

namespace Mls4rn.Lib.InsertionMap

universe u v

variable {Key Name : Type u} {Value Image : Type v}

/-- `part` has the kept entries of `full`. -/
def Restricts
    (keep : Value → Bool) (rename : Key → Name) (image : Value → Image)
    (full : InsertionMap Key Value) (part : InsertionMap Name Image) :
    Prop :=
  part.entries =
    (full.entries.filter fun entry => keep entry.2).map fun entry =>
      (rename entry.1, image entry.2)

section Lookup

variable
  {keep : Value → Bool} {rename : Key → Name} {image : Value → Image}
  {full : InsertionMap Key Value} {part : InsertionMap Name Image}

theorem restricts_empty :
    Restricts keep rename image empty empty :=
  rfl

/-- The values of the part. -/
theorem Restricts.values (restricts : Restricts keep rename image full part) :
    part.entries.map Prod.snd =
      ((full.entries.map Prod.snd).filter keep).map image := by
  rw [restricts, List.filter_map, List.map_map, List.map_map]
  rfl

/-- Other functions that agree on the entries. -/
theorem Restricts.congr
    (restricts : Restricts keep rename image full part)
    {keepToo : Value → Bool} {renameToo : Key → Name}
    {imageToo : Value → Image}
    (kept : ∀ entry ∈ full.entries, keepToo entry.2 = keep entry.2)
    (same :
      ∀ entry ∈ full.entries,
        keep entry.2 = true →
          renameToo entry.1 = rename entry.1 ∧
            imageToo entry.2 = image entry.2) :
    Restricts keepToo renameToo imageToo full part := by
  unfold Restricts at restricts ⊢
  rw [restricts, List.filter_congr kept]
  refine List.map_congr_left fun entry member => ?_
  rcases List.mem_filter.mp member with ⟨present, visible⟩
  rcases same entry present visible with ⟨sameName, sameImage⟩
  rw [sameName, sameImage]

/-- Kept entries have different names. -/
theorem Restricts.name_inj
    (restricts : Restricts keep rename image full part)
    {first second : Key × Value}
    (firstMember : first ∈ full.entries) (firstKept : keep first.2 = true)
    (secondMember : second ∈ full.entries)
    (secondKept : keep second.2 = true)
    (same : rename first.1 = rename second.1) : first = second := by
  have distinct := part.distinct
  rw [restricts, List.map_map] at distinct
  exact List.inj_on_of_nodup_map distinct
    (List.mem_filter.mpr ⟨firstMember, firstKept⟩)
    (List.mem_filter.mpr ⟨secondMember, secondKept⟩) same

variable [DecidableEq Key] [DecidableEq Name]

/-- A kept entry is found under its name. -/
theorem Restricts.get_of_kept
    (restricts : Restricts keep rename image full part)
    {key : Key} {value : Value} (found : full.get key = some value)
    (visible : keep value = true) :
    part.get (rename key) = some (image value) := by
  rw [get_eq_some_iff] at found ⊢
  rw [restricts]
  exact List.mem_map.mpr
    ⟨(key, value), List.mem_filter.mpr ⟨found, visible⟩, rfl⟩

end Lookup

section Change

variable
  [DecidableEq Key]
  {keep : Value → Bool} {rename : Key → Name} {image : Value → Image}
  {full : InsertionMap Key Value} {part : InsertionMap Name Image}

variable {key : Key}

/-- An entry that is there is overwritten in place. -/
theorem setEntries_of_get
    {old : Value} (found : full.get key = some old) (value : Value) :
    (full.set key value).entries =
      full.entries.map fun entry =>
        if entry.1 = key then (key, value) else entry := by
  have present : key ∈ full.entries.map Prod.fst :=
    (mem_keys_iff full key).mpr ⟨old, found⟩
  exact if_pos present

/-- The entry under a key is the one that is found. -/
theorem value_of_get
    {old : Value} (found : full.get key = some old)
    {entry : Key × Value} (member : entry ∈ full.entries)
    (same : entry.1 = key) : entry.2 = old := by
  have other : full.get entry.1 = some entry.2 :=
    (get_eq_some_iff full entry.1 entry.2).mpr member
  rw [same, found] at other
  exact (Option.some.inj other).symm

/-- Overwriting with a value that is kept or not as before. -/
theorem filter_set_entries
    {old value : Value} (found : full.get key = some old)
    (same : keep value = keep old) :
    ((full.set key value).entries.filter fun entry => keep entry.2) =
      (full.entries.filter fun entry => keep entry.2).map fun entry =>
        if entry.1 = key then (key, value) else entry := by
  rw [setEntries_of_get found, List.filter_map]
  refine congrArg _ (List.filter_congr fun entry member => ?_)
  rw [Function.comp_apply]
  split
  · next equal => rw [same, value_of_get found member equal]
  · rfl

/-- An entry that is not kept is overwritten. -/
theorem Restricts.overwrite_hidden
    (restricts : Restricts keep rename image full part)
    {old value : Value} (found : full.get key = some old)
    (before : keep old = false) (after : keep value = false) :
    Restricts keep rename image (full.set key value) part := by
  unfold Restricts
  rw [filter_set_entries found (after.trans before.symm), restricts,
    List.map_map]
  refine List.map_congr_left fun entry inside => ?_
  rcases List.mem_filter.mp inside with ⟨present, visible⟩
  have different : entry.1 ≠ key := by
    intro same
    rw [value_of_get found present same, before] at visible
    cases visible
  rw [Function.comp_apply, if_neg different]

/-- A new entry that is not kept. -/
theorem Restricts.insert_hidden
    (restricts : Restricts keep rename image full part)
    {value : Value} (fresh : key ∉ full.keys) (hidden : keep value = false) :
    Restricts keep rename image (full.set key value) part := by
  change part.entries = ((setEntries full.entries _ _).filter _).map _
  rw [setEntries_of_fresh _ _ fresh, List.filter_append, List.map_append,
    List.filter_cons_of_neg (by simp [hidden]), restricts]
  simp

variable [DecidableEq Name]

/-- A kept entry is overwritten in both maps. -/
theorem Restricts.overwrite
    (restricts : Restricts keep rename image full part)
    {old value : Value} (found : full.get key = some old)
    (before : keep old = true) (after : keep value = true) :
    Restricts keep rename image (full.set key value)
      (part.set (rename key) (image value)) := by
  have member := (get_eq_some_iff full key old).mp found
  unfold Restricts
  rw [setEntries_of_get (restricts.get_of_kept found before),
    filter_set_entries found (after.trans before.symm), restricts,
    List.map_map, List.map_map]
  refine List.map_congr_left fun entry inside => ?_
  rcases List.mem_filter.mp inside with ⟨present, visible⟩
  simp only [Function.comp_apply]
  by_cases same : entry.1 = key
  · rw [if_pos same, if_pos (congrArg rename same)]
  · have different : rename entry.1 ≠ rename key := fun equal =>
      same (congrArg Prod.fst
        (restricts.name_inj present visible member before equal))
    rw [if_neg same, if_neg different]

/-- A new entry goes to the end of both maps. -/
theorem Restricts.insert
    (restricts : Restricts keep rename image full part)
    {value : Value} (fresh : key ∉ full.keys)
    (freshName : rename key ∉ part.keys) (visible : keep value = true) :
    Restricts keep rename image (full.set key value)
      (part.set (rename key) (image value)) := by
  change setEntries part.entries _ _ =
    ((setEntries full.entries _ _).filter _).map _
  have last :
      [(key, value)].filter (fun entry => keep entry.2) =
        [(key, value)] := by
    simp [visible]
  rw [setEntries_of_fresh _ _ fresh, setEntries_of_fresh _ _ freshName,
    List.filter_append, List.map_append, restricts, last]
  rfl

end Change

end Mls4rn.Lib.InsertionMap
