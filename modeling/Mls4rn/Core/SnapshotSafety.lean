import Mls4rn.Core.ProviderSnapshot

/-!
# Reading a provider snapshot from arbitrary bytes

`snapshot_deserialize` takes a count and lengths from its input.  The count is
cut to 32 bits and a table is set up for so many entries.  The lengths are cut
to 32 bits and added to a position before they are compared with the end of
the input.

What the input lays out is described here with positions that do not wrap.
The reader is safe on exactly the inputs whose count fits their size and has a
table, that lead no position over the range of `usize` and no entry into a
full table, and that announce no length of more than 32 bits while all their
records are there.  A table is full only behind a count of more than 32 bits.
-/

namespace Mls4rn.Core.SnapshotSafety

open Mls4rn.Lib
open Mls4rn.Lib.ByteString
open Mls4rn.Core.MlsGroup (Thrown)
open Mls4rn.Core.ProviderSnapshot

/-! ## What is asked of the reader -/

/-- The number of records for which the bytes have room. -/
def recordsHeld (bytes : Bytes) : Nat :=
  (bytes.length - 8) / 16

/-- The bytes start with a snapshot. -/
def WellFormed (bytes : Bytes) : Prop :=
  ∃ entries rest, bytes = snapshotSerialize entries ++ rest

/--
The reader panics in neither build: no slice is out of bounds, no addition
leaves the range of `usize`, and no table is too large.  It asks for no more
room than the bytes can fill, and accepts only snapshots.
-/
structure SafeOn (bytes : Bytes) : Prop where
  returns : ∀ build, snapshotDeserializeIn build bytes ≠ .error .trap
  capacity :
    ∀ build requested,
      requestedCapacity build bytes = some requested →
        requested ≤ recordsHeld bytes
  accepted :
    ∀ build values,
      snapshotDeserializeIn build bytes = .ok values → WellFormed bytes

/-! ## What the bytes lay out -/

/-- The 64-bit number at a position. -/
def wordAt (bytes : Bytes) (pos : Nat) : Nat :=
  ofBigEndian (slice bytes pos (pos + 8))

/-- How the records of an input end. -/
inductive Layout where
  | overflow
  | full
  | short
  | wide
  | complete
deriving DecidableEq, Repr

/-- Some length of the records did not fit 32 bits. -/
def Layout.widen : Layout → Layout
  | .complete => .wide
  | layout => layout

/-- What follows behind the next bytes of a given number. -/
def behind (bytes : Bytes) (pos count : Nat) (next : Layout) : Layout :=
  if usizeRange ≤ pos + count then .overflow
  else if bytes.length < pos + count then .short
  else next

/-- The keys of a map behind an insertion. -/
def keysWith (keys : List Bytes) (key : Bytes) : List Bytes :=
  if key ∈ keys then keys else keys ++ [key]

theorem length_keysWith_le (keys : List Bytes) (key : Bytes) :
    (keysWith keys key).length ≤ keys.length + 1 := by
  unfold keysWith
  split
  · exact Nat.le_succ _
  · rw [List.length_append]
    rfl

/--
The records from a position on, each with its lengths cut to 32 bits, for a
map that has some keys already.
-/
def layoutFrom (bytes : Bytes) : Nat → Nat → List Bytes → Layout
  | 0, _, _ => .complete
  | count + 1, pos, keys =>
      let keyLength := wordAt bytes pos
      let valueLength := wordAt bytes (pos + 8)
      let valueStart := pos + 8 + 8 + keyLength % usizeRange
      let next :=
        layoutFrom bytes count (valueStart + valueLength % usizeRange)
          (keysWith keys (slice bytes (pos + 8 + 8) valueStart))
      behind bytes pos 8 <|
        behind bytes (pos + 8) 8 <|
          behind bytes (pos + 8 + 8) (keyLength % usizeRange) <|
            behind bytes valueStart (valueLength % usizeRange) <|
              if keys.length = largestCapacity then .full
              else if keyLength < usizeRange ∧ valueLength < usizeRange then
                next
              else next.widen

/-- The records behind the count. -/
def layout (bytes : Bytes) : Layout :=
  layoutFrom bytes (wordAt bytes 0) 8 []

/-- The inputs on which the reader is safe. -/
def Harmless (bytes : Bytes) : Prop :=
  bytes.length < 8 ∨
    wordAt bytes 0 % usizeRange ≤ recordsHeld bytes ∧
      wordAt bytes 0 % usizeRange ≤ largestCapacity ∧
        (layout bytes = .short ∨ layout bytes = .complete)

instance (bytes : Bytes) : Decidable (Harmless bytes) :=
  inferInstanceAs (Decidable (_ ∨ _ ∧ _ ∧ _))

/-! ## The reader follows the layout -/

/-- What a layout says about the result. -/
def Layout.Describes {Value : Type}
    (result : Except Thrown Value) : Layout → Prop
  | .overflow => result = .error .trap
  | .full => result = .error .trap
  | .short => result = .error truncated
  | .wide => ∃ value, result = .ok value
  | .complete => ∃ value, result = .ok value

theorem Layout.Describes.widen
    {Value : Type} {result : Except Thrown Value} {layout : Layout}
    (describes : layout.Describes result) :
    layout.widen.Describes result := by
  cases layout with
  | overflow => exact describes
  | full => exact describes
  | short => exact describes
  | wide => exact describes
  | complete => exact describes

section Reader

variable (build : Build) {bytes : Bytes}

/-- An addition that leaves the range comes out below its first operand. -/
theorem wrapped_of_overflow
    {range pos count : Nat} (inside : pos < range) (small : count < range)
    (beyond : range ≤ pos + count) :
    (pos + count) % range = pos + count - range ∧
      pos + count - range < pos := by
  constructor
  · rw [Nat.mod_eq_sub_mod beyond]
    exact Nat.mod_eq_of_lt (by omega)
  · omega

/-- A position that leaves the range panics in both builds. -/
theorem take_of_overflow
    {pos count : Nat} (inside : pos ≤ bytes.length)
    (addressable : bytes.length < usizeRange)
    (small : count < usizeRange) (beyond : usizeRange ≤ pos + count) :
    take build bytes pos count = .error .trap := by
  cases build with
  | release =>
      rcases wrapped_of_overflow (Nat.lt_of_le_of_lt inside addressable)
        small beyond with ⟨wrapped, before⟩
      have added :
          addUsize .release pos count = .ok (pos + count - usizeRange) :=
        congrArg Except.ok wrapped
      have unnoticed : ¬bytes.length < pos + count - usizeRange :=
        Nat.not_lt.mpr (before.le.trans inside)
      have disordered :
          sliceChecked bytes pos (pos + count - usizeRange) =
            .error .trap :=
        if_neg fun ordered => Nat.not_le.mpr before ordered.1
      rw [take, added, Throwing.ok_bind, if_neg unnoticed, disordered]
      rfl
  | debug =>
      rw [take, addUsize, if_neg (Nat.not_lt.mpr beyond)]
      rfl

theorem take_of_short
    {pos count : Nat} (fits : pos + count < usizeRange)
    (short : bytes.length < pos + count) :
    take build bytes pos count = .error truncated := by
  simp only [take, addUsize_of_lt build fits, Throwing.ok_bind,
    if_pos short]
  rfl

theorem take_of_le
    {pos count : Nat} (inside : pos + count ≤ bytes.length)
    (addressable : bytes.length < usizeRange) :
    take build bytes pos count =
      .ok (slice bytes pos (pos + count), pos + count) := by
  simp only [take, addUsize_of_le build inside addressable,
    Throwing.ok_bind, if_neg (Nat.not_lt.mpr inside), sliceChecked,
    if_pos (And.intro (Nat.le_add_right pos count) inside)]
  rfl

/-- One read of the input, and what is done with the bytes. -/
theorem describes_take
    {Value : Type} {pos count : Nat} {next : Layout}
    {rest : Bytes × Nat → Except Thrown Value}
    (inside : pos ≤ bytes.length)
    (addressable : bytes.length < usizeRange)
    (small : count < usizeRange)
    (goesOn :
      pos + count ≤ bytes.length →
        next.Describes (rest (slice bytes pos (pos + count), pos + count))) :
    (behind bytes pos count next).Describes
      (take build bytes pos count >>= rest) := by
  unfold behind
  split
  · next beyond =>
    rw [take_of_overflow build inside addressable small beyond]
    rfl
  · next fits =>
    split
    · next short =>
      rw [take_of_short build (Nat.lt_of_not_le fits) short]
      rfl
    · next enough =>
      have covered : pos + count ≤ bytes.length := Nat.le_of_not_lt enough
      rw [take_of_le build covered addressable, Throwing.ok_bind]
      exact goesOn covered

/-- The loop ends as the layout of the records says. -/
theorem describes_readRecords
    (count : Nat) {pos : Nat} (map : Values)
    (inside : pos ≤ bytes.length)
    (addressable : bytes.length < usizeRange) :
    (layoutFrom bytes count pos map.map.keys).Describes
      (readRecords build bytes count pos map) := by
  have range : 0 < usizeRange := by decide
  have word : 8 < usizeRange := by decide
  induction count generalizing pos map with
  | zero => exact ⟨map, rfl⟩
  | succ count induction =>
      have size : map.map.keys.length = map.entries.length :=
        List.length_map _
      simp only [readRecords, readLength, readU64, bind_assoc, pure_bind]
      apply describes_take build inside addressable word
      intro behindKeyLength
      apply describes_take build behindKeyLength addressable word
      intro behindValueLength
      apply describes_take build behindValueLength addressable
        (Nat.mod_lt _ range)
      intro behindKey
      apply describes_take build behindKey addressable (Nat.mod_lt _ range)
      intro behindValue
      by_cases full : map.map.keys.length = largestCapacity
      · rw [if_pos full, Values.insert_of_full (size.symm.trans full)]
        rfl
      · have room : map.entries.length < largestCapacity :=
          Nat.lt_of_le_of_ne map.held (size ▸ full)
        rw [if_neg full, Values.insert_of_lt room, Throwing.ok_bind]
        have inserted (key value : Bytes) :
            (map.map.set key value).keys = keysWith map.map.keys key := by
          rw [InsertionMap.keys_set]
          exact ite_congr rfl (fun _ => rfl) fun _ => rfl
        have rest (key value : Bytes) :=
          induction
            ⟨map.map.set key value,
              (InsertionMap.length_set_le _ _ _).trans room⟩ behindValue
        simp only [inserted] at rest
        split
        · exact rest (slice _ _ _) (slice _ _ _)
        · exact (rest (slice _ _ _) (slice _ _ _)).widen

/-- The header of an input that has one. -/
theorem readU64_start
    (header : 8 ≤ bytes.length) (addressable : bytes.length < usizeRange) :
    readU64 build bytes 0 = .ok (wordAt bytes 0, 8) := by
  have inside : 0 + 8 ≤ bytes.length := by omega
  rw [readU64, take_of_le build inside addressable, Throwing.ok_bind]
  rfl

theorem readU64_start_of_short (short : bytes.length < 8) :
    readU64 build bytes 0 = .error truncated := by
  have fits : 0 + 8 < usizeRange := by decide
  rw [readU64, take_of_short build fits (by omega)]
  rfl

theorem describes_snapshotDeserializeIn
    (header : 8 ≤ bytes.length) (addressable : bytes.length < usizeRange)
    (allocated : wordAt bytes 0 % usizeRange ≤ largestCapacity) :
    (layout bytes).Describes (snapshotDeserializeIn build bytes) := by
  simp only [snapshotDeserializeIn, Throwing.ok_bind,
    readU64_start build header addressable,
    Values.withCapacity_of_le allocated]
  exact describes_readRecords build _ Values.empty header addressable

/-- A count without a table is a panic. -/
theorem snapshotDeserializeIn_of_unallocated
    (header : 8 ≤ bytes.length) (addressable : bytes.length < usizeRange)
    (large : largestCapacity < wordAt bytes 0 % usizeRange) :
    snapshotDeserializeIn build bytes = .error .trap := by
  simp only [snapshotDeserializeIn, Throwing.ok_bind,
    readU64_start build header addressable,
    Values.withCapacity_of_lt large]
  rfl

end Reader

/-! ## Complete layouts are snapshots -/

section WellFormed

variable {bytes : Bytes}

theorem behind_eq_complete_iff
    {pos count : Nat} {next : Layout}
    (addressable : bytes.length < usizeRange) :
    behind bytes pos count next = .complete ↔
      pos + count ≤ bytes.length ∧ next = .complete := by
  unfold behind
  split
  · simp only [reduceCtorEq, false_iff, not_and]
    intro inside
    omega
  · split
    · simp only [reduceCtorEq, false_iff, not_and]
      intro inside
      omega
    · next enough =>
      simp only [Nat.le_of_not_lt enough, true_and]

theorem widen_ne_complete (layout : Layout) : layout.widen ≠ .complete := by
  cases layout <;> simp [Layout.widen]

/-- A record whose bytes are all there, and the records behind it. -/
theorem layoutFrom_succ_eq_complete_iff
    {count pos : Nat} {keys : List Bytes}
    (addressable : bytes.length < usizeRange) :
    layoutFrom bytes (count + 1) pos keys = .complete ↔
      ∃ keyLength valueLength,
        keyLength = wordAt bytes pos ∧
          valueLength = wordAt bytes (pos + 8) ∧
          pos + 8 + 8 + keyLength + valueLength ≤ bytes.length ∧
          keys.length ≠ largestCapacity ∧
          layoutFrom bytes count
              (pos + 8 + 8 + keyLength + valueLength)
              (keysWith keys
                (slice bytes (pos + 8 + 8) (pos + 8 + 8 + keyLength))) =
            .complete := by
  simp only [layoutFrom, behind_eq_complete_iff addressable]
  constructor
  · rintro ⟨-, -, -, inside, rest⟩
    split at rest
    · cases rest
    · next room =>
      split at rest
      · next fit =>
        rw [Nat.mod_eq_of_lt fit.1, Nat.mod_eq_of_lt fit.2] at inside rest
        exact ⟨_, _, rfl, rfl, inside, room, rest⟩
      · exact absurd rest (widen_ne_complete _)
  · rintro ⟨keyLength, valueLength, rfl, rfl, inside, room, rest⟩
    have keyFits : wordAt bytes pos < usizeRange := by omega
    have valueFits : wordAt bytes (pos + 8) < usizeRange := by omega
    rw [Nat.mod_eq_of_lt keyFits, Nat.mod_eq_of_lt valueFits, if_neg room,
      if_pos ⟨keyFits, valueFits⟩]
    exact ⟨by omega, by omega, by omega, inside, rest⟩

theorem drop_eq_slice (bytes : Bytes) (pos count : Nat) :
    bytes.drop pos =
      slice bytes pos (pos + count) ++ bytes.drop (pos + count) := by
  rw [slice, Nat.add_sub_cancel_left, ← List.drop_drop]
  exact (List.take_append_drop count _).symm

theorem length_slice {pos count : Nat} (inside : pos + count ≤ bytes.length) :
    (slice bytes pos (pos + count)).length = count := by
  simp [slice]
  omega

/-- The number at a position is written there. -/
theorem drop_eq_wordAt (pos : Nat) (inside : pos + 8 ≤ bytes.length) :
    bytes.drop pos =
      u64ToBytes (wordAt bytes pos) ++ bytes.drop (pos + 8) := by
  have written :
      u64ToBytes (wordAt bytes pos) = slice bytes pos (pos + 8) := by
    have inverse := bigEndian_ofBigEndian (slice bytes pos (pos + 8))
    rw [length_slice inside] at inverse
    exact inverse
  rw [written]
  exact drop_eq_slice bytes pos 8

/-- Records that are all there are the records of some entries. -/
theorem entries_of_complete
    (count : Nat) {pos : Nat} {keys : List Bytes}
    (addressable : bytes.length < usizeRange)
    (complete : layoutFrom bytes count pos keys = .complete) :
    ∃ (entries : List (Bytes × Bytes)) (rest : Bytes),
      entries.length = count ∧
        bytes.drop pos = entries.flatMap recordBytes ++ rest := by
  induction count generalizing pos keys with
  | zero => exact ⟨[], _, rfl, rfl⟩
  | succ count induction =>
      rcases (layoutFrom_succ_eq_complete_iff addressable).mp complete with
        ⟨keyLength, valueLength, keyWord, valueWord, inside, -, others⟩
      rcases induction others with ⟨entries, rest, length, records⟩
      let keyStart := pos + 8 + 8
      let key := slice bytes keyStart (keyStart + keyLength)
      let value :=
        slice bytes (keyStart + keyLength)
          (keyStart + keyLength + valueLength)
      have keySize : key.length = keyLength := length_slice (by omega)
      have valueSize : value.length = valueLength := length_slice inside
      refine ⟨(key, value) :: entries, rest, congrArg Nat.succ length, ?_⟩
      calc
        bytes.drop pos =
            u64ToBytes keyLength ++
              (u64ToBytes valueLength ++ bytes.drop keyStart) := by
          rw [drop_eq_wordAt pos (by omega),
            drop_eq_wordAt (pos + 8) (by omega), keyWord, valueWord]
        _ = u64ToBytes key.length ++
              (u64ToBytes value.length ++
                (key ++ (value ++
                  bytes.drop (keyStart + keyLength + valueLength)))) := by
          rw [keySize, valueSize, drop_eq_slice bytes keyStart keyLength,
            drop_eq_slice bytes (keyStart + keyLength) valueLength]
        _ = ((key, value) :: entries).flatMap recordBytes ++ rest := by
          rw [records]
          simp [recordBytes]

/-- The number at the place where it was written. -/
theorem wordAt_append
    (before : Bytes) (n : Nat) (after : Bytes)
    (layout : bytes = before ++ (u64ToBytes n ++ after))
    (fits : n < 2 ^ 64) :
    wordAt bytes before.length = n := by
  have width : (u64ToBytes n).length = 8 := length_bigEndian 8 n
  have part := slice_append before (u64ToBytes n) after
  rw [width, ← layout] at part
  rw [wordAt, part, u64ToBytes, ofBigEndian_bigEndian]
  exact Nat.mod_eq_of_lt fits

/-- The records of a list of entries are all there. -/
theorem complete_of_entries
    (entries : List (Bytes × Bytes)) (before after : Bytes)
    (keys : List Bytes)
    (layout : bytes = before ++ (entries.flatMap recordBytes ++ after))
    (addressable : bytes.length < usizeRange)
    (room : keys.length + entries.length ≤ largestCapacity) :
    layoutFrom bytes entries.length before.length keys = .complete := by
  induction entries generalizing before keys with
  | nil => rfl
  | cons entry entries induction =>
      rcases entry with ⟨key, value⟩
      rw [List.flatMap_cons, recordBytes] at layout
      simp only [List.append_assoc] at layout
      rw [List.length_cons] at room
      have range : usizeRange < 2 ^ 64 := by decide
      have size :
          before.length + 8 + 8 + key.length + value.length ≤
            bytes.length := by
        rw [layout]
        simp [u64ToBytes]
        omega
      have keyWord :=
        wordAt_append before key.length _ layout (by omega)
      have valueWord :
          wordAt bytes (before ++ u64ToBytes key.length).length =
            value.length :=
        wordAt_append _ _
          (key ++ (value ++ (entries.flatMap recordBytes ++ after)))
          (by rw [layout]; simp) (by omega)
      have others (used : Bytes) :=
        induction
          (before ++ u64ToBytes key.length ++ u64ToBytes value.length ++
            key ++ value)
          (keysWith keys used) (by rw [layout]; simp)
          ((Nat.add_le_add_right (length_keysWith_le keys used) _).trans
            ((Nat.succ_add_eq_add_succ _ _).trans_le room))
      simp only [List.length_append, u64ToBytes, length_bigEndian]
        at valueWord others
      apply (layoutFrom_succ_eq_complete_iff addressable).mpr
      exact ⟨_, _, keyWord.symm, valueWord.symm, size, by omega, others _⟩

/-- The inputs that start with a snapshot are those of complete layout. -/
theorem wellFormed_iff_complete
    (header : 8 ≤ bytes.length) (addressable : bytes.length < usizeRange)
    (allocated : wordAt bytes 0 % usizeRange ≤ largestCapacity) :
    WellFormed bytes ↔ layout bytes = .complete := by
  constructor
  · rintro ⟨entries, rest, parts⟩
    rw [snapshotSerialize, List.append_assoc] at parts
    have held : entries.length ≤ bytes.length := by
      have records := length_le_records entries
      rw [parts, List.length_append, List.length_append]
      omega
    have range : usizeRange < 2 ^ 64 := by decide
    have count : wordAt bytes 0 = entries.length :=
      wordAt_append [] entries.length _ parts (by omega)
    rw [count, Nat.mod_eq_of_lt (by omega)] at allocated
    have width : (u64ToBytes entries.length).length = 8 :=
      length_bigEndian 8 _
    have complete :=
      complete_of_entries entries _ rest [] parts addressable
        ((Nat.zero_add _).trans_le allocated)
    rw [width] at complete
    rw [layout, count]
    exact complete
  · intro complete
    rcases entries_of_complete _ addressable complete with
      ⟨entries, rest, length, records⟩
    refine ⟨entries, rest, ?_⟩
    rw [snapshotSerialize, List.append_assoc, ← records, length]
    exact drop_eq_wordAt 0 (by omega)

end WellFormed

/-! ## Safety -/

section Safety

variable {bytes : Bytes}

/-- Bytes without room for a count are refused. -/
theorem safeOn_of_short (short : bytes.length < 8) : SafeOn bytes := by
  have refused (build : Build) :
      snapshotDeserializeIn build bytes = .error truncated := by
    rw [snapshotDeserializeIn, readU64_start_of_short build short]
    rfl
  constructor
  · intro build trapped
    rw [refused build] at trapped
    cases trapped
  · intro build requested asked
    rw [requestedCapacity, readU64_start_of_short build short] at asked
    cases asked
  · intro build values read
    rw [refused build] at read
    cases read

theorem requestedCapacity_eq
    (build : Build) (header : 8 ≤ bytes.length)
    (addressable : bytes.length < usizeRange) :
    requestedCapacity build bytes = some (wordAt bytes 0 % usizeRange) := by
  rw [requestedCapacity, readU64_start build header addressable]

/-- What remains to be asked of an input with a count. -/
theorem safeOn_iff_of_header
    (header : 8 ≤ bytes.length) (addressable : bytes.length < usizeRange) :
    SafeOn bytes ↔
      wordAt bytes 0 % usizeRange ≤ recordsHeld bytes ∧
        wordAt bytes 0 % usizeRange ≤ largestCapacity ∧
          (layout bytes = .short ∨ layout bytes = .complete) := by
  have formed := wellFormed_iff_complete header addressable
  have follows (build : Build) :=
    describes_snapshotDeserializeIn build header addressable
  constructor
  · intro safe
    have allocated : wordAt bytes 0 % usizeRange ≤ largestCapacity := by
      by_contra large
      apply safe.returns .release
      exact snapshotDeserializeIn_of_unallocated .release header addressable
        (Nat.lt_of_not_le large)
    have result := follows .release allocated
    refine ⟨?_, allocated, ?_⟩
    · apply safe.capacity .release
      exact requestedCapacity_eq .release header addressable
    · cases reached : layout bytes with
      | overflow =>
          rw [reached] at result
          exact absurd result (safe.returns .release)
      | full =>
          rw [reached] at result
          exact absurd result (safe.returns .release)
      | short => exact Or.inl rfl
      | wide =>
          rw [reached] at result
          rcases result with ⟨values, read⟩
          have complete :=
            (formed allocated).mp (safe.accepted .release values read)
          rw [reached] at complete
          cases complete
      | complete => exact Or.inr rfl
  · rintro ⟨capacity, allocated, ends⟩
    constructor
    · intro build trapped
      have result := follows build allocated
      rw [trapped] at result
      rcases ends with short | complete
      · rw [short] at result
        cases result
      · rw [complete] at result
        rcases result with ⟨values, read⟩
        cases read
    · intro build requested asked
      rw [requestedCapacity_eq build header addressable] at asked
      cases asked
      exact capacity
    · intro build values read
      apply (formed allocated).mpr
      rcases ends with short | complete
      · have result := follows build allocated
        rw [short, read] at result
        cases result
      · exact complete

end Safety

/--
Reading is safe on exactly the inputs that are too short for a count, or
whose count asks for no more records than they have room for and than a table
can hold, and whose records neither lead over the range of `usize`, nor into a
full table, nor are all there with a length of more than 32 bits among theirs.
-/
theorem safeOn_iff_harmless
    (bytes : Bytes) (addressable : bytes.length < usizeRange) :
    SafeOn bytes ↔ Harmless bytes := by
  by_cases short : bytes.length < 8
  · exact ⟨fun _ => Or.inl short, fun _ => safeOn_of_short short⟩
  · have header : 8 ≤ bytes.length := Nat.le_of_not_lt short
    rw [Harmless, safeOn_iff_of_header header addressable]
    simp only [short, false_or]

/-- A snapshot that is cut off in the value of its record. -/
def cutOff : Bytes :=
  (snapshotSerialize [([1], [2, 3, 4])]).take 26

theorem safeOn_iff_harmless_cutOff :
    SafeOn cutOff ∧ ¬WellFormed cutOff := by
  have short : layout cutOff = .short := by decide +kernel
  have allocated : wordAt cutOff 0 % usizeRange ≤ largestCapacity := by
    decide +kernel
  constructor
  · apply (safeOn_iff_harmless cutOff (by decide)).mpr
    exact Or.inr ⟨by decide +kernel, allocated, Or.inl short⟩
  · intro formed
    have complete :=
      (wellFormed_iff_complete (by decide) (by decide) allocated).mp formed
    rw [short] at complete
    cases complete

/-- One record with an empty value and a key of `2 ^ 32 - 1` bytes. -/
def wrapping : Bytes :=
  u64ToBytes 1 ++ (u64ToBytes 4294967295 ++ u64ToBytes 0)

/-- A count alone. -/
def boundless : Bytes :=
  u64ToBytes 4294967295

/-- One record with an empty value and a key of `2 ^ 32` bytes. -/
def overlong : Bytes :=
  u64ToBytes 1 ++ (u64ToBytes 4294967296 ++ u64ToBytes 0)

/--
A key length that wraps the position makes the reader panic.  A count alone
makes it ask for room for `2 ^ 32 - 1` records, which is a panic too.  A key
length of `2 ^ 32` is taken for 0, and the bytes are accepted.
-/
theorem hostile_snapshots_are_unsafe :
    (snapshotDeserialize wrapping = .error .trap ∧ ¬SafeOn wrapping) ∧
      (requestedCapacity .release boundless = some 4294967295 ∧
        recordsHeld boundless = 0 ∧
          snapshotDeserialize boundless = .error .trap ∧ ¬SafeOn boundless) ∧
      (∃ values, snapshotDeserialize overlong = .ok values) ∧
        ¬WellFormed overlong ∧ ¬SafeOn overlong := by
  have overflows : layout wrapping = .overflow := by decide +kernel
  have trapped :=
    @describes_snapshotDeserializeIn .release wrapping (by decide)
      (by decide) (by decide +kernel)
  rw [overflows] at trapped
  have asked : requestedCapacity .release boundless = some 4294967295 := by
    decide +kernel
  have empty : recordsHeld boundless = 0 := by decide
  have refused : snapshotDeserialize boundless = .error .trap :=
    snapshotDeserializeIn_of_unallocated .release (by decide) (by decide)
      (by decide +kernel)
  have isWide : layout overlong = .wide := by decide +kernel
  have allocated : wordAt overlong 0 % usizeRange ≤ largestCapacity := by
    decide +kernel
  have read :=
    @describes_snapshotDeserializeIn .release overlong (by decide)
      (by decide) allocated
  rw [isWide] at read
  have formless : ¬WellFormed overlong := by
    rw [wellFormed_iff_complete (by decide) (by decide) allocated, isWide]
    exact Layout.noConfusion
  refine ⟨⟨trapped, ?_⟩, ⟨asked, empty, refused, ?_⟩, read, formless, ?_⟩
  · intro safe
    exact safe.returns .release trapped
  · intro safe
    exact safe.returns .release refused
  · intro safe
    rcases read with ⟨values, read⟩
    exact formless (safe.accepted .release values read)

end Mls4rn.Core.SnapshotSafety
