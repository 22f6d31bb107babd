import Mls4rn.Lib.Base64
import Mls4rn.Lib.PlainObject

/-!
# The store of the WebView host

The host page keeps client snapshots in a `Map` from client ids to bytes.
React Native pulls the whole map as one string and pushes it back on startup.
On the way out the map becomes a plain object with base64 values, then JSON,
then base64 again; `restore` runs the way back.

Each layer is the identity on most inputs only.  A client id `__proto__` is
lost by the assignment to the plain object, and `btoa` rejects the JSON text
of an id with a character above U+00FF, unless that character is an unpaired
surrogate and therefore escaped.  Nothing else goes wrong.
-/

namespace Mls4rn.ReactNative.HostStore

open Mls4rn.Lib
open Mls4rn.Lib.ByteString
open Mls4rn.Lib.NumberText
open Mls4rn.Lib.PlainObject
open Mls4rn.Lib.Utf16

/-- The `store` of `host.ts`. -/
abbrev Store := InsertionMap CodeUnits Bytes

/-- The exceptions of the built-in functions. -/
inductive PageError where
  | invalidCharacter
  | syntaxError
  | typeError
deriving DecidableEq, Repr

/-- `btoa`, which throws on a code unit above 255. -/
def btoa (text : CodeUnits) : Except PageError CodeUnits :=
  match Base64.btoa text with
  | none => .error .invalidCharacter
  | some encoded => .ok encoded

/-- `atob`, which throws on malformed text. -/
def atob (text : CodeUnits) : Except PageError CodeUnits :=
  match Base64.atob text with
  | none => .error .invalidCharacter
  | some decoded => .ok decoded

/-- `bytesToBase64` of the host. -/
def bytesToBase64 (bytes : Bytes) : Except PageError CodeUnits :=
  btoa (Base64.latin1Text bytes)

/-- `base64ToBytes` of the host. -/
def base64ToBytes (text : CodeUnits) : Except PageError Bytes := do
  return Base64.latin1Bytes (← atob text)

variable {Number : Type} (format : NumberFormat Number)

/-! ## Pulling the store -/

/-- The loop that fills the plain object. -/
def collect :
    List (CodeUnits × Bytes) → InsertionMap CodeUnits CodeUnits →
      Except PageError (InsertionMap CodeUnits CodeUnits)
  | [], object => return object
  | (key, value) :: rest, object => do
      collect rest (assign object key (← bytesToBase64 value))

/-- The object as a JSON value. -/
def objectJson (object : InsertionMap CodeUnits CodeUnits) : Json Number :=
  .object ((ownEntries object.entries).map fun entry =>
    (entry.1, .string entry.2))

/-- The `snapshot` method, behind the flush of the open clients. -/
def snapshot (store : Store) : Except PageError CodeUnits := do
  let object ← collect store.entries InsertionMap.empty
  btoa (Json.stringify format (objectJson object))

/-! ## Pushing it back -/

/-- `Object.entries`. -/
def objectEntries :
    Json Number → Except PageError (List (CodeUnits × Json Number))
  | .null => .error .typeError
  | .bool _ => return []
  | .number _ => return []
  | .string text =>
      return text.zipIdx.map fun entry =>
        (natText entry.2, .string [entry.1])
  | .array items =>
      return items.zipIdx.map fun entry => (natText entry.2, entry.1)
  | .object members => return ownEntries members

/-- The loop that fills the store, up to the first value that throws. -/
def fill :
    List (CodeUnits × Json Number) → Store → Store × Except PageError Unit
  | [], store => (store, .ok ())
  | (key, value) :: rest, store =>
      match Json.display format value with
      | none => (store, .error .typeError)
      | some text =>
          match base64ToBytes text with
          | .error error => (store, .error error)
          | .ok bytes => fill rest (store.set key bytes)

/--
The `restore` method.  Text that is not JSON leaves the store alone; a JSON
value without entries is only noticed behind `store.clear()`.
-/
def restore (store : Store) (text : CodeUnits) :
    Store × Except PageError Unit :=
  match atob text with
  | .error error => (store, .error error)
  | .ok json =>
      match Json.parse format json with
      | none => (store, .error .syntaxError)
      | some value =>
          match objectEntries value with
          | .error error => (InsertionMap.empty, .error error)
          | .ok entries => fill format entries InsertionMap.empty

/-! ## The base64 of one value -/

@[simp]
theorem bytesToBase64_eq (bytes : Bytes) :
    bytesToBase64 bytes = .ok (Base64.encode bytes) := by
  rw [bytesToBase64, btoa, Base64.btoa_latin1Text]

@[simp]
theorem base64ToBytes_encode (bytes : Bytes) :
    base64ToBytes (Base64.encode bytes) = .ok bytes := by
  have decoded :
      atob (Base64.encode bytes) = .ok (Base64.latin1Text bytes) := by
    rw [atob, Base64.atob, Base64.decode_encode, Option.map_some]
  have inverse := Base64.latin1Bytes_latin1Text bytes
  rw [base64ToBytes, decoded]
  exact congrArg Except.ok inverse

/-! ## The object that is written -/

/-- The properties of the plain object: every entry but `__proto__`. -/
def collected (store : Store) : InsertionMap CodeUnits CodeUnits :=
  assignAll InsertionMap.empty
    (store.entries.map fun entry => (entry.1, Base64.encode entry.2))

theorem collect_eq
    (entries : List (CodeUnits × Bytes))
    (object : InsertionMap CodeUnits CodeUnits) :
    collect entries object =
      .ok (assignAll object
        (entries.map fun entry => (entry.1, Base64.encode entry.2))) := by
  induction entries generalizing object with
  | nil => rfl
  | cons entry entries induction =>
      rcases entry with ⟨key, value⟩
      rw [collect, bytesToBase64_eq]
      exact induction _

variable (store : Store)

theorem collected_entries :
    (collected store).entries =
      (store.entries.filter fun entry =>
          decide (entry.1 ≠ prototypeName)).map fun entry =>
        (entry.1, Base64.encode entry.2) := by
  rw [collected, assignAll_empty_entries, List.filter_map]
  · rfl
  · rw [List.map_map]
    exact store.distinct

theorem mem_collected_iff (key text : CodeUnits) :
    (key, text) ∈ (collected store).entries ↔
      ∃ value, (key, value) ∈ store.entries ∧ key ≠ prototypeName ∧
        text = Base64.encode value := by
  rw [collected_entries, List.mem_map]
  constructor
  · rintro ⟨⟨entryKey, value⟩, member, equal⟩
    cases equal
    rcases List.mem_filter.mp member with ⟨stored, other⟩
    exact ⟨value, stored, by simpa using other, rfl⟩
  · rintro ⟨value, stored, other, rfl⟩
    refine ⟨(key, value), List.mem_filter.mpr ⟨stored, ?_⟩, rfl⟩
    simpa using other

theorem snapshot_eq :
    snapshot format store =
      btoa (Json.stringify format (objectJson (collected store))) := by
  rw [snapshot, collect_eq]
  rfl

/-! ## Which texts `btoa` takes -/

/-- Every code unit fits into a byte. -/
def IsLatin1 (text : CodeUnits) : Prop :=
  ∀ unit ∈ text, unit.toNat ≤ 255

theorem isLatin1_append (first second : CodeUnits) :
    IsLatin1 (first ++ second) ↔ IsLatin1 first ∧ IsLatin1 second := by
  simp only [IsLatin1, List.mem_append, or_imp, forall_and]

theorem isLatin1_cons (unit : UInt16) (rest : CodeUnits) :
    IsLatin1 (unit :: rest) ↔ unit.toNat ≤ 255 ∧ IsLatin1 rest := by
  simp only [IsLatin1, List.mem_cons, or_imp, forall_and, forall_eq]

theorem isLatin1_quote (text : CodeUnits) :
    IsLatin1 (JsonString.quote text) ↔
      JsonString.wideUnitsUnpaired text = true := by
  have mark : JsonString.quoteMark.toNat ≤ 255 := by decide
  have close : IsLatin1 [JsonString.quoteMark] := by
    simp [IsLatin1, mark]
  rw [JsonString.quote, isLatin1_cons, isLatin1_append,
    ← JsonString.quoteBody_narrow_iff]
  simp only [mark, close, true_and, and_true]
  rfl

theorem wideUnitsUnpaired_encode (bytes : Bytes) :
    JsonString.wideUnitsUnpaired (Base64.encode bytes) = true := by
  have ascii :
      ∀ text : CodeUnits,
        (∀ unit ∈ text, unit.toNat ≤ 0x7A) →
          JsonString.wideUnitsUnpaired text = true := by
    intro text
    induction text using JsonString.wideUnitsUnpaired.induct with
    | case1 =>
        intro _
        rfl
    | case2 unit =>
        intro small
        have bound := small unit (by simp)
        simp only [JsonString.wideUnitsUnpaired, Bool.or_eq_true,
          decide_eq_true_eq]
        omega
    | case3 unit next rest paired =>
        intro small
        have bound := small unit (by simp)
        have leading := (isLeading_iff unit).mp
          ((Bool.and_eq_true _ _).mp paired).1
        omega
    | case4 unit next rest unpaired induction =>
        intro small
        have bound := small unit (by simp)
        rw [JsonString.wideUnitsUnpaired, if_neg unpaired,
          induction fun other member => small other (by simp [member])]
        simp only [Bool.and_true, Bool.or_eq_true, decide_eq_true_eq]
        omega
  exact ascii _ fun unit member =>
    (Base64.encode_range bytes unit member).2

theorem isLatin1_stringifyMembers (entries : List (CodeUnits × CodeUnits)) :
    IsLatin1
        (Json.stringifyMembers format
          (entries.map fun entry => (entry.1, .string entry.2))) ↔
      ∀ entry ∈ entries,
        JsonString.wideUnitsUnpaired entry.1 = true ∧
          JsonString.wideUnitsUnpaired entry.2 = true := by
  have colon : Json.colon.toNat ≤ 255 := by decide
  have comma : Json.comma.toNat ≤ 255 := by decide
  induction entries with
  | nil => simp [Json.stringifyMembers, IsLatin1]
  | cons entry entries induction =>
      rcases entry with ⟨name, value⟩
      cases entries with
      | nil =>
          simp only [List.map_cons, List.map_nil, Json.stringifyMembers,
            Json.stringify, isLatin1_append, isLatin1_cons,
            isLatin1_quote, colon, true_and, List.mem_singleton,
            forall_eq]
      | cons next rest =>
          simp only [List.map_cons] at induction
          simp only [List.map_cons, Json.stringifyMembers,
            Json.stringify, isLatin1_append, isLatin1_cons,
            isLatin1_quote, colon, comma, true_and, induction,
            List.forall_mem_cons, and_assoc]

theorem isLatin1_objectJson (object : InsertionMap CodeUnits CodeUnits) :
    IsLatin1 (Json.stringify format (objectJson object)) ↔
      ∀ entry ∈ object.entries,
        JsonString.wideUnitsUnpaired entry.1 = true ∧
          JsonString.wideUnitsUnpaired entry.2 = true := by
  have openNarrow : Json.openBrace.toNat ≤ 255 := by decide
  have closeNarrow : IsLatin1 [Json.closeBrace] := by
    simp only [IsLatin1, List.mem_singleton, forall_eq]
    decide
  simp only [objectJson, Json.stringify, isLatin1_cons, isLatin1_append,
    openNarrow, closeNarrow, true_and, and_true,
    isLatin1_stringifyMembers, (ownEntries_perm _).mem_iff]

/-- A client id that `snapshot` can write. -/
def isWritable (key : CodeUnits) : Bool :=
  JsonString.wideUnitsUnpaired key

/-- `snapshot` throws exactly on an id that `btoa` rejects. -/
theorem snapshot_isOk_iff :
    (∃ text, snapshot format store = .ok text) ↔
      ∀ key ∈ store.keys, key ≠ prototypeName → isWritable key = true := by
  have accepted :
      (∃ text, snapshot format store = .ok text) ↔
        IsLatin1 (Json.stringify format (objectJson (collected store))) := by
    rw [snapshot_eq, btoa]
    constructor
    · rintro ⟨text, success⟩
      cases encoded :
          Base64.btoa
            (Json.stringify format (objectJson (collected store))) with
      | none => simp [encoded] at success
      | some result =>
          exact ((Base64.btoa_eq_some_iff _ _).mp encoded).1
    · intro narrow
      rw [(Base64.btoa_eq_some_iff _ _).mpr ⟨narrow, rfl⟩]
      exact ⟨_, rfl⟩
  rw [accepted, isLatin1_objectJson]
  constructor
  · intro each key member other
    rcases (InsertionMap.mem_keys_iff store key).mp member with
      ⟨value, found⟩
    have stored := (InsertionMap.get_eq_some_iff store key value).mp found
    exact (each _
      ((mem_collected_iff store key _).mpr ⟨value, stored, other, rfl⟩)).1
  · rintro writable ⟨key, text⟩ member
    rcases (mem_collected_iff store key text).mp member with
      ⟨value, stored, other, rfl⟩
    have present : key ∈ store.keys :=
      (InsertionMap.mem_keys_iff store key).mpr
        ⟨value, (InsertionMap.get_eq_some_iff store key value).mpr stored⟩
    exact ⟨writable key present other, wideUnitsUnpaired_encode value⟩

/-! ## The way back -/

/-- The entries that reach the plain object. -/
def survivors (store : Store) : List (CodeUnits × Bytes) :=
  store.entries.filter fun entry => decide (entry.1 ≠ prototypeName)

/-- The store that `restore` builds from the snapshot of a store. -/
def restored (store : Store) : Store :=
  InsertionMap.empty.setAll (ownEntries (ownEntries (survivors store)))

theorem fill_strings (entries : List (CodeUnits × Bytes)) (store : Store) :
    fill format
        (entries.map fun entry =>
          (entry.1, .string (Base64.encode entry.2))) store =
      (store.setAll entries, .ok ()) := by
  induction entries generalizing store with
  | nil => rfl
  | cons entry entries induction =>
      simp only [List.map_cons, fill, Json.display, base64ToBytes_encode]
      exact induction _

theorem nodup_survivors :
    ((survivors store).map Prod.fst).Nodup :=
  (List.Sublist.map Prod.fst List.filter_sublist).nodup store.distinct

theorem objectJson_collected :
    (objectJson (collected store) : Json Number) =
      .object ((ownEntries (survivors store)).map fun entry =>
        (entry.1, .string (Base64.encode entry.2))) := by
  rw [objectJson, collected_entries, ownEntries_map, List.map_map]
  rfl

/-- What a successful snapshot restores, whatever the other page holds. -/
theorem restore_snapshot
    {store : Store} {text : CodeUnits}
    (written : snapshot format store = .ok text) (other : Store) :
    restore format other text = (restored store, .ok ()) := by
  have encoded :
      Base64.btoa (Json.stringify format (objectJson (collected store))) =
        some text := by
    rw [snapshot_eq, btoa] at written
    cases result :
        Base64.btoa
          (Json.stringify format (objectJson (collected store))) with
    | none => simp [result] at written
    | some encoded => simpa [result] using written
  have decoded :
      atob text =
        .ok (Json.stringify format (objectJson (collected store))) := by
    rw [atob, Base64.atob_btoa encoded]
  have parsed :
      Json.parse format
          (Json.stringify format (objectJson (collected store))) =
        some (objectJson (collected store)) := by
    rw [Json.parse_stringify, objectJson_collected,
      Json.reread_object_of_nodup]
    · rw [List.map_map]
      simp only [Function.comp_def, Json.reread]
    · rw [List.map_map]
      exact nodup_ownEntries (nodup_survivors store)
  have listed :
      objectEntries (objectJson (collected store) : Json Number) =
        .ok ((ownEntries (ownEntries (survivors store))).map fun entry =>
          (entry.1, .string (Base64.encode entry.2))) := by
    rw [objectJson_collected, objectEntries,
      ownEntries_map fun value => Json.string (Base64.encode value)]
    rfl
  simp only [restore, decoded, parsed, listed]
  exact fill_strings format _ _

theorem restored_entries_perm :
    (restored store).entries.Perm (survivors store) := by
  have distinct :
      ((ownEntries (ownEntries (survivors store))).map
        Prod.fst).Nodup :=
    nodup_ownEntries (nodup_ownEntries (nodup_survivors store))
  rw [restored, InsertionMap.setAll_entries]
  · exact (ownEntries_perm _).trans (ownEntries_perm _)
  · exact distinct

/-- Only the id `__proto__` does not come back. -/
theorem get_restored (key : CodeUnits) :
    (restored store).get key =
      if key = prototypeName then none else store.get key := by
  apply Option.ext
  intro value
  rw [InsertionMap.get_eq_some_iff,
    (restored_entries_perm store).mem_iff, survivors, List.mem_filter,
    ← InsertionMap.get_eq_some_iff, decide_eq_true_eq]
  split
  · next accessor => simp [accessor]
  · next ordinary => simp [ordinary]

/--
Pulling a store and pushing it into any other page reproduces it exactly when
no client id is `__proto__` or has a character above U+00FF that JSON leaves
unescaped.
-/
theorem restore_snapshot_iff (store other : Store) :
    (∃ text result,
        snapshot format store = .ok text ∧
          restore format other text = (result, .ok ()) ∧
            ∀ key, result.get key = store.get key) ↔
      ∀ key ∈ store.keys,
        key ≠ prototypeName ∧ isWritable key = true := by
  constructor
  · rintro ⟨text, result, written, pushed, same⟩ key member
    rw [restore_snapshot format written other, Prod.mk.injEq] at pushed
    have ordinary : key ≠ prototypeName := by
      rintro rfl
      have missing := same prototypeName
      rw [← pushed.1, get_restored, if_pos rfl] at missing
      exact (InsertionMap.get_eq_none_iff store _).mp missing.symm member
    exact ⟨ordinary,
      (snapshot_isOk_iff format store).mp ⟨text, written⟩ key member ordinary⟩
  · intro each
    rcases (snapshot_isOk_iff format store).mpr
        fun key member _ => (each key member).2 with
      ⟨text, written⟩
    refine ⟨text, restored store, written,
      restore_snapshot format written other, ?_⟩
    intro key
    rw [get_restored]
    split
    · next accessor =>
      subst accessor
      have absent : prototypeName ∉ store.keys :=
        fun member => (each _ member).1 rfl
      exact ((InsertionMap.get_eq_none_iff store _).mpr absent).symm
    · rfl

/-- A store with one client. -/
def singleClient (id : CodeUnits) : Store :=
  InsertionMap.empty.set id [7]

/--
An id outside Latin-1 makes `snapshot` throw, and the id `__proto__` is
missing behind the round trip.
-/
theorem restore_snapshot_fails :
    snapshot decimalFormat (singleClient [0x540D]) =
        .error .invalidCharacter ∧
      ¬ ∃ text result,
          snapshot decimalFormat (singleClient prototypeName) = .ok text ∧
            restore decimalFormat InsertionMap.empty text =
                (result, .ok ()) ∧
              ∀ key,
                result.get key = (singleClient prototypeName).get key := by
  refine ⟨by decide, ?_⟩
  rintro ⟨text, result, written, pushed, same⟩
  rw [restore_snapshot decimalFormat written, Prod.mk.injEq] at pushed
  have missing := same prototypeName
  rw [← pushed.1, get_restored, if_pos rfl] at missing
  exact absurd missing (by decide)

end Mls4rn.ReactNative.HostStore
