import Mls4rn.Core.MlsGroup
import Mls4rn.Lib.InsertionMap
import Mls4rn.Lib.Throwing

/-!
# The snapshot of the provider storage

The storage of the provider is a map of byte strings.  Its snapshot is the
number of records and, for every record in the order the map yields them, the
lengths of key and value and their bytes.  Lengths are 64-bit; positions are
`usize`, which is 32 bits wide on the target.  Their addition wraps in a
release build and panics in a debug build.

A map has at most `largestCapacity` entries, since the table for more of them
would be larger than any allocation can be.  Setting up or growing such a
table is a panic.  Smaller allocations are taken to succeed.
-/

namespace Mls4rn.Core.ProviderSnapshot

open Mls4rn.Lib
open Mls4rn.Lib.ByteString
open Mls4rn.Lib.Utf16
open Mls4rn.Core.MlsGroup (Thrown)

/-! ## The storage -/

/-- The number of values of `usize`. -/
def usizeRange : Nat :=
  2 ^ 32

/-- The greatest value of `isize`, and so the size of the largest allocation. -/
def isizeMax : Nat :=
  2 ^ 31 - 1

/--
The buckets of a `HashMap` that is to hold a number of entries: a power of
two, of which one in eight stays free.
-/
def capacityToBuckets (capacity : Nat) : Nat :=
  if capacity < 4 then 4
  else if capacity < 8 then 8
  else 2 ^ (Nat.log2 (capacity * 8 / 7 - 1) + 1)

/--
The bytes of a table: for every bucket an entry, two vectors of three words
each, and a control byte, and a group of eight control bytes behind the last.
-/
def tableSize (buckets : Nat) : Nat :=
  buckets * 24 + (buckets + 8)

/-- The largest number of entries for which there is a table. -/
def largestCapacity : Nat :=
  58720256

theorem capacityToBuckets_le
    {capacity : Nat} (small : capacity ≤ largestCapacity) :
    capacityToBuckets capacity ≤ 2 ^ 26 := by
  unfold capacityToBuckets
  split
  · decide
  · split
    · decide
    · next several =>
      apply Nat.pow_le_pow_right (by decide)
      apply Nat.succ_le_of_lt
      apply (Nat.log2_lt (by omega)).mpr
      unfold largestCapacity at small
      omega

theorem le_capacityToBuckets
    {capacity : Nat} (large : largestCapacity < capacity) :
    2 ^ 27 ≤ capacityToBuckets capacity := by
  unfold largestCapacity at large
  rw [capacityToBuckets, if_neg (by omega), if_neg (by omega)]
  apply Nat.pow_le_pow_right (by decide)
  apply Nat.succ_le_succ
  exact (Nat.le_log2 (by omega)).mpr (by omega)

theorem tableSize_le_iff (capacity : Nat) :
    tableSize (capacityToBuckets capacity) ≤ isizeMax ↔
      capacity ≤ largestCapacity := by
  unfold tableSize isizeMax
  constructor
  · intro fits
    by_contra large
    have buckets := le_capacityToBuckets (Nat.lt_of_not_le large)
    omega
  · intro small
    have buckets := capacityToBuckets_le small
    omega

/-- The storage of a provider: a `HashMap`, so no more than a table holds. -/
@[ext]
structure Values where
  map : InsertionMap Bytes Bytes
  held : map.entries.length ≤ largestCapacity

namespace Values

/-- The entries, in some order. -/
def entries (values : Values) : List (Bytes × Bytes) :=
  values.map.entries

/-- `HashMap::get`. -/
def get (values : Values) (key : Bytes) : Option Bytes :=
  values.map.get key

/-- The map without entries. -/
def empty : Values :=
  ⟨InsertionMap.empty, Nat.zero_le _⟩

/-- `HashMap::with_capacity`; a table that cannot be allocated is a panic. -/
def withCapacity (capacity : Nat) : Except Thrown Values :=
  if tableSize (capacityToBuckets capacity) ≤ isizeMax then .ok empty
  else .error .trap

/-- `HashMap::insert`; behind the last entry the table cannot grow. -/
def insert (values : Values) (key value : Bytes) : Except Thrown Values :=
  if room : values.entries.length < largestCapacity then
    .ok
      ⟨values.map.set key value,
        (InsertionMap.length_set_le _ _ _).trans room⟩
  else
    .error .trap

theorem withCapacity_of_le
    {capacity : Nat} (small : capacity ≤ largestCapacity) :
    withCapacity capacity = .ok empty :=
  if_pos ((tableSize_le_iff capacity).mpr small)

theorem withCapacity_of_lt
    {capacity : Nat} (large : largestCapacity < capacity) :
    withCapacity capacity = .error .trap :=
  if_neg fun fits =>
    Nat.not_le.mpr large ((tableSize_le_iff capacity).mp fits)

theorem insert_of_lt
    {values : Values} (room : values.entries.length < largestCapacity)
    (key value : Bytes) :
    values.insert key value =
      .ok
        ⟨values.map.set key value,
          (InsertionMap.length_set_le _ _ _).trans room⟩ :=
  dif_pos room

theorem insert_of_full
    {values : Values} (full : values.entries.length = largestCapacity)
    (key value : Bytes) :
    values.insert key value = .error .trap :=
  dif_neg fun room => Nat.ne_of_lt room full

theorem get_eq_of_perm
    {first second : Values} (same : first.entries.Perm second.entries)
    (key : Bytes) : first.get key = second.get key :=
  InsertionMap.get_eq_of_perm same key

end Values

/-- An order in which a `HashMap` may yield its entries. -/
def Iteration (values : Values) : Type :=
  { order : List (Bytes × Bytes) // order.Perm values.entries }

/-- The map whose entries were inserted in the order of an iteration. -/
def Values.iterated (values : Values) (iteration : Iteration values) :
    Values where
  map :=
    { entries := iteration.val
      distinct :=
        (iteration.property.map Prod.fst).nodup_iff.mpr values.map.distinct }
  held := iteration.property.length_eq.trans_le values.held

/-! ## Writing -/

/-- `u64::to_be_bytes`. -/
def u64ToBytes (n : Nat) : Bytes :=
  bigEndian 8 n

/-- The bytes pushed for one record. -/
def recordBytes (entry : Bytes × Bytes) : Bytes :=
  u64ToBytes entry.1.length ++ u64ToBytes entry.2.length ++ entry.1 ++ entry.2

/-- `snapshot_serialize`, for the order in which the map yields its entries. -/
def snapshotSerialize (entries : List (Bytes × Bytes)) : Bytes :=
  u64ToBytes entries.length ++ entries.flatMap recordBytes

/-! ## Reading -/

/-- How the crate is compiled. -/
inductive Build where
  | release
  | debug
deriving DecidableEq, Repr

/-- Addition of `usize`. -/
def addUsize (build : Build) (left right : Nat) : Except Thrown Nat :=
  match build with
  | .release => .ok ((left + right) % usizeRange)
  | .debug =>
      if left + right < usizeRange then .ok (left + right)
      else .error .trap

/-- A slice; bounds out of order or behind the end panic. -/
def sliceChecked (bytes : Bytes) (first last : Nat) :
    Except Thrown Bytes :=
  if first ≤ last ∧ last ≤ bytes.length then .ok (slice bytes first last)
  else .error .trap

/-- The error for a snapshot that ends too early. -/
def truncated : Thrown :=
  .jsError (literal "provider snapshot: unexpected end of data")

section Reading

variable (build : Build)

/-- The next bytes of a given number, and the position behind them. -/
def take (bytes : Bytes) (pos count : Nat) :
    Except Thrown (Bytes × Nat) := do
  let last ← addUsize build pos count
  if bytes.length < last then
    throw truncated
  let part ← sliceChecked bytes pos last
  return (part, last)

/-- The local `read_u64`. -/
def readU64 (bytes : Bytes) (pos : Nat) : Except Thrown (Nat × Nat) := do
  let (part, pos) ← take build bytes pos 8
  return (ofBigEndian part, pos)

/-- A length: `read_u64(..)? as usize`. -/
def readLength (bytes : Bytes) (pos : Nat) :
    Except Thrown (Nat × Nat) := do
  let (value, pos) ← readU64 build bytes pos
  return (value % usizeRange, pos)

/-- The loop over the records. -/
def readRecords (bytes : Bytes) :
    Nat → Nat → Values → Except Thrown Values
  | 0, _, map => return map
  | count + 1, pos, map => do
      let (keyLength, pos) ← readLength build bytes pos
      let (valueLength, pos) ← readLength build bytes pos
      let (key, pos) ← take build bytes pos keyLength
      let (value, pos) ← take build bytes pos valueLength
      let map ← map.insert key value
      readRecords bytes count pos map

/-- `snapshot_deserialize`. -/
def snapshotDeserializeIn (bytes : Bytes) : Except Thrown Values := do
  let (count, pos) ← readU64 build bytes 0
  let map ← Values.withCapacity (count % usizeRange)
  readRecords build bytes count pos map

/-- The argument of `HashMap::with_capacity`, if the reader comes to it. -/
def requestedCapacity (bytes : Bytes) : Option Nat :=
  match readU64 build bytes 0 with
  | .ok (count, _) => some (count % usizeRange)
  | .error _ => none

end Reading

/-- `snapshot_deserialize` of the published package. -/
def snapshotDeserialize (bytes : Bytes) : Except Thrown Values :=
  snapshotDeserializeIn .release bytes

/-! ## The provider -/

/-- `Provider`: what it stores. -/
structure Provider where
  values : Values

/-- `Provider::serialize`. -/
def Provider.serialize
    (provider : Provider) (iteration : Iteration provider.values) : Bytes :=
  snapshotSerialize iteration.val

/-- `Provider::from_bytes`. -/
def Provider.fromBytes (build : Build) (bytes : Bytes) :
    Except Thrown Provider := do
  let map ← snapshotDeserializeIn build bytes
  return { values := map }

/-! ## The round trip -/

section RoundTrip

variable (build : Build) {bytes : Bytes}

theorem addUsize_of_lt {pos count : Nat} (fits : pos + count < usizeRange) :
    addUsize build pos count = .ok (pos + count) := by
  cases build with
  | release => simp only [addUsize, Nat.mod_eq_of_lt fits]
  | debug => exact if_pos fits

theorem addUsize_of_le
    {pos count : Nat} (inside : pos + count ≤ bytes.length)
    (small : bytes.length < usizeRange) :
    addUsize build pos count = .ok (pos + count) :=
  addUsize_of_lt build (Nat.lt_of_le_of_lt inside small)

/-- A part is taken where it was written. -/
theorem take_append
    (before part after : Bytes)
    (layout : bytes = before ++ (part ++ after))
    (small : bytes.length < usizeRange) :
    take build bytes before.length part.length =
      .ok (part, before.length + part.length) := by
  have inside : before.length + part.length ≤ bytes.length := by
    rw [layout, List.length_append, List.length_append]
    omega
  have sliced :
      sliceChecked bytes before.length (before.length + part.length) =
        .ok part := by
    rw [sliceChecked, if_pos ⟨Nat.le_add_right _ _, inside⟩, layout,
      slice_append]
  simp only [take, addUsize_of_le build inside small, Throwing.ok_bind,
    sliced, if_neg (Nat.not_lt.mpr inside)]
  rfl

theorem readU64_append
    (before : Bytes) (n : Nat) (after : Bytes)
    (layout : bytes = before ++ (u64ToBytes n ++ after))
    (small : bytes.length < usizeRange) (fits : n < 2 ^ 64) :
    readU64 build bytes before.length = .ok (n, before.length + 8) := by
  have taken := take_append build _ _ _ layout small
  have width : (u64ToBytes n).length = 8 := length_bigEndian 8 n
  have value : ofBigEndian (u64ToBytes n) = n := by
    rw [u64ToBytes, ofBigEndian_bigEndian]
    exact Nat.mod_eq_of_lt fits
  rw [width] at taken
  simp only [readU64, taken]
  change Except.ok (ofBigEndian (u64ToBytes n), before.length + 8) = _
  rw [value]

theorem readLength_append
    (before : Bytes) (n : Nat) (after : Bytes)
    (layout : bytes = before ++ (u64ToBytes n ++ after))
    (small : bytes.length < usizeRange) (fits : n < usizeRange) :
    readLength build bytes before.length = .ok (n, before.length + 8) := by
  have wide : n < 2 ^ 64 := Nat.lt_trans fits (by decide)
  simp only [readLength, readU64_append build _ _ _ layout small wide]
  change Except.ok (n % usizeRange, before.length + 8) = _
  rw [Nat.mod_eq_of_lt fits]

/-- The loop reads back every record into a map that has room for it. -/
theorem readRecords_append
    (entries : List (Bytes × Bytes)) (before : Bytes) (map : Values)
    (layout : bytes = before ++ entries.flatMap recordBytes)
    (small : bytes.length < usizeRange)
    (room : map.entries.length + entries.length ≤ largestCapacity) :
    ∃ held,
      readRecords build bytes entries.length before.length map =
        .ok ⟨map.map.setAll entries, held⟩ := by
  induction entries generalizing before map with
  | nil => exact ⟨map.held, rfl⟩
  | cons entry entries induction =>
      rcases entry with ⟨key, value⟩
      rw [List.flatMap_cons, recordBytes] at layout
      simp only [List.append_assoc] at layout
      rw [List.length_cons] at room
      generalize rest : entries.flatMap recordBytes = after at layout
      have lengths :
          before.length + 16 + key.length + value.length ≤
            bytes.length := by
        rw [layout]
        simp [u64ToBytes]
        omega
      have first :=
        readLength_append build before key.length _ layout small (by omega)
      have second :=
        readLength_append build (before ++ u64ToBytes key.length) value.length
          (key ++ (value ++ after)) (by rw [layout]; simp) small (by omega)
      have third :=
        take_append build
          (before ++ u64ToBytes key.length ++ u64ToBytes value.length)
          key (value ++ after) (by rw [layout]; simp) small
      have fourth :=
        take_append build
          (before ++ u64ToBytes key.length ++ u64ToBytes value.length ++ key)
          value after (by rw [layout]; simp) small
      have free : map.entries.length < largestCapacity := by omega
      have grown :=
        InsertionMap.length_set_le map.map key value
      have others :=
        induction
          (before ++ u64ToBytes key.length ++ u64ToBytes value.length ++
            key ++ value)
          ⟨map.map.set key value, grown.trans free⟩
          (by rw [layout, ← rest]; simp)
          ((Nat.add_le_add_right grown _).trans
            ((Nat.succ_add_eq_add_succ _ _).trans_le room))
      simp only [List.length_append, u64ToBytes, length_bigEndian]
        at second third fourth others
      rcases others with ⟨held, others⟩
      refine ⟨held, ?_⟩
      simp only [List.length_cons, readRecords, first, Throwing.ok_bind,
        second, third, fourth, Values.insert_of_lt free]
      exact others

theorem length_le_records (entries : List (Bytes × Bytes)) :
    entries.length ≤ (entries.flatMap recordBytes).length := by
  induction entries with
  | nil => exact Nat.le_refl 0
  | cons entry entries induction =>
      rw [List.flatMap_cons, List.length_append, List.length_cons]
      have header : 1 ≤ (recordBytes entry).length := by
        simp [recordBytes, u64ToBytes]
        omega
      omega

theorem length_lt_of_snapshotSerialize
    (entries : List (Bytes × Bytes))
    (small : (snapshotSerialize entries).length < usizeRange) :
    entries.length < 2 ^ 64 := by
  have records := length_le_records entries
  have total :
      (entries.flatMap recordBytes).length ≤
        (snapshotSerialize entries).length := by
    rw [snapshotSerialize, List.length_append]
    exact Nat.le_add_left _ _
  calc
    entries.length ≤ (snapshotSerialize entries).length :=
      records.trans total
    _ < usizeRange := small
    _ < 2 ^ 64 := by decide

/-- A snapshot is read back by either build, whatever the iteration was. -/
theorem snapshotDeserializeIn_snapshotSerialize
    {values : Values} (iteration : Iteration values)
    (small : (snapshotSerialize iteration.val).length < usizeRange) :
    snapshotDeserializeIn build (snapshotSerialize iteration.val) =
      .ok (values.iterated iteration) := by
  have size : iteration.val.length ≤ largestCapacity :=
    (values.iterated iteration).held
  have range : largestCapacity < usizeRange := by decide
  have count := length_lt_of_snapshotSerialize iteration.val small
  have header :
      readU64 build (snapshotSerialize iteration.val) 0 =
        .ok (iteration.val.length, 8) :=
    readU64_append build [] iteration.val.length
      (iteration.val.flatMap recordBytes) rfl small count
  have allocated :
      Values.withCapacity (iteration.val.length % usizeRange) =
        .ok Values.empty := by
    rw [Nat.mod_eq_of_lt (size.trans_lt range)]
    exact Values.withCapacity_of_le size
  rcases readRecords_append build iteration.val
      (u64ToBytes iteration.val.length) Values.empty rfl small
      ((Nat.zero_add _).trans_le size) with
    ⟨held, records⟩
  have width : (u64ToBytes iteration.val.length).length = 8 :=
    length_bigEndian 8 _
  have inserted :
      InsertionMap.empty.setAll iteration.val =
        (values.iterated iteration).map := by
    apply InsertionMap.ext
    exact
      InsertionMap.setAll_entries _ _ (values.iterated iteration).map.distinct
  rw [width] at records
  simp only [snapshotDeserializeIn, header, Throwing.ok_bind, allocated]
  apply records.trans
  exact congrArg Except.ok (Values.ext inserted)

/--
The snapshot of a map is read as the same map, in whatever order its entries
were written, and a provider comes back with its storage.
-/
theorem provider_round_trip
    (provider : Provider) (iteration : Iteration provider.values)
    (small : (snapshotSerialize iteration.val).length < usizeRange) :
    (∃ map : Values,
      snapshotDeserializeIn build (snapshotSerialize iteration.val) =
          .ok map ∧
        map.entries.Perm provider.values.entries ∧
        ∀ key, map.get key = provider.values.get key) ∧
      ∃ restored : Provider,
        Provider.fromBytes build (provider.serialize iteration) =
            .ok restored ∧
          restored.values.entries.Perm provider.values.entries ∧
          ∀ key, restored.values.get key = provider.values.get key := by
  have read := snapshotDeserializeIn_snapshotSerialize build iteration small
  have same :
      (provider.values.iterated iteration).entries.Perm
        provider.values.entries :=
    iteration.property
  have lookups := Values.get_eq_of_perm same
  constructor
  · exact ⟨_, read, same, lookups⟩
  · refine ⟨⟨provider.values.iterated iteration⟩, ?_, same, lookups⟩
    rw [Provider.fromBytes, Provider.serialize, read, Throwing.ok_bind]
    rfl

/-- Two records, written in the order opposite to the one they came in. -/
theorem provider_round_trip_pair :
    ∃ restored : Provider,
      Provider.fromBytes .release
          (snapshotSerialize [([2], [8, 9]), ([1], [])]) =
          .ok restored ∧
        restored.values.get [2] = some [8, 9] := by
  have read :=
    (provider_round_trip .release
      ⟨InsertionMap.empty.setAll [([1], []), ([2], [8, 9])], by decide⟩
      ⟨[([2], [8, 9]), ([1], [])], by decide⟩ (by decide)).2
  rcases read with ⟨restored, result, -, lookups⟩
  exact ⟨restored, result, (lookups [2]).trans (by decide)⟩

end RoundTrip

end Mls4rn.Core.ProviderSnapshot
