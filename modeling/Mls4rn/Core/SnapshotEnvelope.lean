import Mls4rn.Lib.Throwing
import Mls4rn.Lib.Utf8

/-!
# The snapshot envelope of `src/client.ts`

A client snapshot is one byte string: a version byte, the serialized identity
and provider, each behind a four-byte big-endian length, and the counted list
of joined group ids in UTF-8.  The writer collects parts and concatenates
them; the reader moves one position through the bytes and checks every length
before it slices.

The grammar of an envelope is stated without positions: a version byte, two
counted byte strings, a count and that many counted byte strings.  The writer
follows it, and the reader accepts the byte strings that begin with it.

The reader undoes the writer except in one place.  The group ids pass through
`TextDecoder`, whose default options drop a leading U+FEFF, so the round trip
is an equivalence that characterises the group id lists that come back.
-/

namespace Mls4rn.Core.SnapshotEnvelope

open Mls4rn.Lib.ByteString
open Mls4rn.Lib.Throwing
open Mls4rn.Lib.Utf16
open Mls4rn.Lib

/-- `ENVELOPE_VERSION`. -/
def envelopeVersion : UInt8 := 1

/-- What `decodeEnvelope` throws. -/
inductive EnvelopeError where
  | corrupt
  | unsupportedVersion (version : UInt8)
deriving DecidableEq, Repr

/-- The text of the thrown `Error`. -/
def EnvelopeError.message : EnvelopeError → String
  | .corrupt => "mls-ts: corrupt snapshot envelope"
  | .unsupportedVersion version =>
      "mls-ts: unsupported snapshot version " ++ toString version.toNat

/-- The decoded snapshot. -/
structure Envelope where
  identity : Bytes
  provider : Bytes
  groupIds : List CodeUnits
deriving DecidableEq, Repr

/-! ## Writing -/

/-- `DataView.setUint32` in big-endian order keeps the number modulo `2 ^ 32`. -/
def u32ToBytes (n : Nat) : Bytes :=
  bigEndian 4 n

/-- Allocate the total length, then copy every part to its offset. -/
def concatBytes (parts : List Bytes) : Bytes :=
  let total := parts.foldl (fun total part => total + part.length) 0
  (parts.foldl
    (fun (state : Bytes × Nat) part =>
      (setAt state.1 part state.2, state.2 + part.length))
    (List.replicate total 0, 0)).1

/-- The two parts pushed for one group id. -/
def groupIdParts (id : CodeUnits) : List Bytes :=
  [u32ToBytes (Utf8.encode id).length, Utf8.encode id]

/-- `encodeEnvelope`. -/
def encodeEnvelope
    (identity provider : Bytes) (groupIds : List CodeUnits) : Bytes :=
  concatBytes
    ([[envelopeVersion]] ++
      [u32ToBytes identity.length, identity] ++
      [u32ToBytes provider.length, provider] ++
      [u32ToBytes groupIds.length] ++
      groupIds.flatMap groupIdParts)

/-! ## Reading -/

/-- The local `need`: the next `n` bytes are there. -/
def need (bytes : Bytes) (pos n : Nat) : Except EnvelopeError Unit :=
  if bytes.length < pos + n then .error .corrupt else .ok ()

/-- The local `readU32`: a number and the position behind it. -/
def readU32 (bytes : Bytes) (pos : Nat) :
    Except EnvelopeError (Nat × Nat) := do
  need bytes pos 4
  return (ofBigEndian (slice bytes pos (pos + 4)), pos + 4)

/-- The local `readBytes`: a counted byte string. -/
def readBytes (bytes : Bytes) (pos : Nat) :
    Except EnvelopeError (Bytes × Nat) := do
  let (n, pos) ← readU32 bytes pos
  need bytes pos n
  return (slice bytes pos (pos + n), pos + n)

/-- The loop over the group ids. -/
def readGroupIds (bytes : Bytes) :
    Nat → Nat → Except EnvelopeError (List CodeUnits × Nat)
  | 0, pos => return ([], pos)
  | count + 1, pos => do
      let (idBytes, pos) ← readBytes bytes pos
      let (groupIds, pos) ← readGroupIds bytes count pos
      return (Utf8.decode idBytes :: groupIds, pos)

/-- `decodeEnvelope`. -/
def decodeEnvelope (bytes : Bytes) : Except EnvelopeError Envelope := do
  need bytes 0 1
  let version := bytes.getD 0 0
  if version ≠ envelopeVersion then
    throw (.unsupportedVersion version)
  let (identity, pos) ← readBytes bytes 1
  let (provider, pos) ← readBytes bytes pos
  let (count, pos) ← readU32 bytes pos
  let (groupIds, _) ← readGroupIds bytes count pos
  return { identity, provider, groupIds }

/-! ## The writer concatenates -/

private theorem foldl_length_eq (parts : List Bytes) (start : Nat) :
    parts.foldl (fun total part => total + part.length) start =
      start + parts.flatten.length := by
  induction parts generalizing start with
  | nil => simp
  | cons part parts induction =>
      rw [List.foldl_cons, induction, List.flatten_cons, List.length_append]
      omega

private theorem foldl_setAt_eq
    (parts : List Bytes) (done : Bytes) (remaining : Nat)
    (exact_ : remaining = parts.flatten.length) :
    (parts.foldl
        (fun (state : Bytes × Nat) part =>
          (setAt state.1 part state.2, state.2 + part.length))
        (done ++ List.replicate remaining 0, done.length)).1 =
      done ++ parts.flatten := by
  induction parts generalizing done remaining with
  | nil => simp [exact_]
  | cons part parts induction =>
      have split :
          remaining = part.length + parts.flatten.length := by
        rw [exact_, List.flatten_cons, List.length_append]
      have next :
          done.length + part.length = (done ++ part).length := by simp
      rw [List.foldl_cons, split, setAt_append, next,
        induction (done ++ part) parts.flatten.length rfl,
        List.flatten_cons, List.append_assoc]

/-- The offsets of `concatBytes` leave neither gap nor overlap. -/
theorem concatBytes_eq_flatten (parts : List Bytes) :
    concatBytes parts = parts.flatten := by
  unfold concatBytes
  rw [foldl_length_eq, Nat.zero_add]
  exact foldl_setAt_eq parts [] parts.flatten.length rfl

/-- The bytes of the group id list. -/
def groupIdBytes (groupIds : List CodeUnits) : Bytes :=
  (groupIds.flatMap groupIdParts).flatten

theorem groupIdBytes_cons (id : CodeUnits) (groupIds : List CodeUnits) :
    groupIdBytes (id :: groupIds) =
      u32ToBytes (Utf8.encode id).length ++
        (Utf8.encode id ++ groupIdBytes groupIds) := by
  simp [groupIdBytes, groupIdParts]

/-- The layout of an encoded envelope. -/
theorem encodeEnvelope_eq
    (identity provider : Bytes) (groupIds : List CodeUnits) :
    encodeEnvelope identity provider groupIds =
      [envelopeVersion] ++
        (u32ToBytes identity.length ++ (identity ++
          (u32ToBytes provider.length ++ (provider ++
            (u32ToBytes groupIds.length ++ groupIdBytes groupIds))))) := by
  rw [encodeEnvelope, concatBytes_eq_flatten]
  simp [groupIdBytes]

/-! ## The grammar -/

/-- A byte string behind its length. -/
def counted (part : Bytes) : Bytes :=
  u32ToBytes part.length ++ part

/-- The bytes of an envelope over raw group ids. -/
def layout (identity provider : Bytes) (ids : List Bytes) : Bytes :=
  [envelopeVersion] ++
    (counted identity ++
      (counted provider ++
        (u32ToBytes ids.length ++ (ids.map counted).flatten)))

/-- Every length and the count can be written in four bytes. -/
structure Countable
    (identity provider : Bytes) (ids : List Bytes) : Prop where
  identity : identity.length < 2 ^ 32
  provider : provider.length < 2 ^ 32
  count : ids.length < 2 ^ 32
  ids : ∀ id ∈ ids, id.length < 2 ^ 32

/-- The byte string begins with an envelope of these parts. -/
structure Begins
    (bytes identity provider : Bytes) (ids : List Bytes) : Prop where
  countable : Countable identity provider ids
  laidOut : ∃ rest, bytes = layout identity provider ids ++ rest

theorem groupIdBytes_eq (groupIds : List CodeUnits) :
    groupIdBytes groupIds =
      ((groupIds.map Utf8.encode).map counted).flatten := by
  induction groupIds with
  | nil => rfl
  | cons id groupIds induction =>
      rw [groupIdBytes_cons, induction, List.map_cons, List.map_cons,
        List.flatten_cons, counted, List.append_assoc]

/-- The writer follows the grammar. -/
theorem encodeEnvelope_eq_layout
    (identity provider : Bytes) (groupIds : List CodeUnits) :
    encodeEnvelope identity provider groupIds =
      layout identity provider (groupIds.map Utf8.encode) := by
  rw [encodeEnvelope_eq, groupIdBytes_eq, layout, counted, counted,
    List.length_map]
  simp

/-! ## The reader at a part boundary -/

theorem need_eq_ok_iff (bytes : Bytes) (pos n : Nat) :
    need bytes pos n = .ok () ↔ pos + n ≤ bytes.length := by
  unfold need
  split
  · next short =>
    constructor
    · intro impossible
      cases impossible
    · intro enough
      omega
  · next enough =>
    constructor
    · intro _
      omega
    · intro _
      rfl

theorem need_first (version : UInt8) (after : Bytes) :
    need (version :: after) 0 1 = .ok () := by
  rw [need_eq_ok_iff, List.length_cons]
  omega

/-- A number is read where it was written. -/
theorem readU32_append (before after : Bytes) {n : Nat} (small : n < 2 ^ 32) :
    readU32 (before ++ (u32ToBytes n ++ after)) before.length =
      .ok (n, before.length + 4) := by
  have enough :
      before.length + 4 ≤
        (before ++ (u32ToBytes n ++ after)).length := by
    simp [u32ToBytes]
  have sliced :
      slice (before ++ (u32ToBytes n ++ after)) before.length
          (before.length + 4) =
        u32ToBytes n := by
    simpa [u32ToBytes] using slice_append before (u32ToBytes n) after
  have value : ofBigEndian (u32ToBytes n) = n := by
    rw [u32ToBytes, ofBigEndian_bigEndian]
    exact Nat.mod_eq_of_lt small
  rw [readU32, (need_eq_ok_iff _ _ _).mpr enough, sliced, value]
  rfl

/-- A counted byte string is read where it was written. -/
theorem readBytes_append
    (before part after : Bytes) (small : part.length < 2 ^ 32) :
    readBytes
        (before ++ (u32ToBytes part.length ++ (part ++ after)))
        before.length =
      .ok (part, before.length + 4 + part.length) := by
  have header :
      (before ++ u32ToBytes part.length).length = before.length + 4 := by
    simp [u32ToBytes]
  have regrouped :
      before ++ (u32ToBytes part.length ++ (part ++ after)) =
        (before ++ u32ToBytes part.length) ++ (part ++ after) := by
    simp
  have enough :
      before.length + 4 + part.length ≤
        (before ++ (u32ToBytes part.length ++ (part ++ after))).length := by
    rw [regrouped, List.length_append, header, List.length_append]
    omega
  have sliced :
      slice (before ++ (u32ToBytes part.length ++ (part ++ after)))
          (before.length + 4) (before.length + 4 + part.length) =
        part := by
    rw [regrouped, ← header]
    exact slice_append _ part after
  simp only [readBytes, readU32_append before (part ++ after) small,
    ok_bind, (need_eq_ok_iff _ _ _).mpr enough, sliced]
  rfl

/-! ## The reader accepts what follows the grammar -/

/-- The position is the one behind an initial part of the bytes. -/
def Behind (bytes : Bytes) (pos : Nat) (before : Bytes) : Prop :=
  before <+: bytes ∧ pos = before.length

section Reader

variable {bytes before : Bytes} {pos reached : Nat}

/-- What `readU32` reads. -/
theorem readU32_eq_ok_iff (behind : Behind bytes pos before) (n : Nat) :
    readU32 bytes pos = .ok (n, reached) ↔
      n < 2 ^ 32 ∧ Behind bytes reached (before ++ u32ToBytes n) := by
  rcases behind with ⟨⟨after, rfl⟩, rfl⟩
  constructor
  · intro read
    rcases bind_eq_ok read with ⟨_, needed, returned⟩
    rw [need_eq_ok_iff, List.length_append] at needed
    have width : (after.take 4).length = 4 := by
      rw [List.length_take]
      omega
    have window :
        slice (before ++ after) before.length (before.length + 4) =
          after.take 4 := by
      simp [slice]
    rw [window] at returned
    cases returned
    have bound := ofBigEndian_lt (after.take 4)
    have written := bigEndian_ofBigEndian (after.take 4)
    rw [width] at bound written
    rw [u32ToBytes, written]
    refine ⟨by simpa using bound, ⟨after.drop 4, ?_⟩, ?_⟩
    · rw [List.append_assoc, List.take_append_drop]
    · rw [List.length_append, width]
  · rintro ⟨small, ⟨rest, split⟩, rfl⟩
    rw [← split, List.append_assoc, readU32_append before rest small]
    simp [u32ToBytes]

/-- What `readBytes` reads. -/
theorem readBytes_eq_ok_iff (behind : Behind bytes pos before) (part : Bytes) :
    readBytes bytes pos = .ok (part, reached) ↔
      part.length < 2 ^ 32 ∧ Behind bytes reached (before ++ counted part) := by
  constructor
  · intro read
    rcases bind_eq_ok read with ⟨⟨n, start⟩, number, returned⟩
    rcases (readU32_eq_ok_iff behind n).mp number with
      ⟨small, ⟨after, rfl⟩, rfl⟩
    rcases bind_eq_ok returned with ⟨⟨⟩, needed, sliced⟩
    simp only [need_eq_ok_iff, List.length_append] at needed
    have window :
        slice (before ++ u32ToBytes n ++ after)
            (before ++ u32ToBytes n).length
            ((before ++ u32ToBytes n).length + n) =
          after.take n := by
      simp [slice]
    rw [window] at sliced
    cases sliced
    have width : (after.take n).length = n := by
      rw [List.length_take]
      omega
    rw [counted, width]
    refine ⟨small, ⟨after.drop n, ?_⟩, ?_⟩
    · simp
    · simp only [List.length_append, width]
      omega
  · rintro ⟨small, ⟨rest, split⟩, rfl⟩
    rcases behind with ⟨-, rfl⟩
    rw [← split, counted, List.append_assoc, List.append_assoc,
      readBytes_append before part rest small]
    simp [u32ToBytes]
    omega

/-- What the loop over the group ids reads. -/
theorem readGroupIds_eq_ok_iff
    (behind : Behind bytes pos before) (count : Nat)
    (groupIds : List CodeUnits) :
    readGroupIds bytes count pos = .ok (groupIds, reached) ↔
      ∃ ids : List Bytes,
        ids.length = count ∧ (∀ id ∈ ids, id.length < 2 ^ 32) ∧
          groupIds = ids.map Utf8.decode ∧
            Behind bytes reached (before ++ (ids.map counted).flatten) := by
  induction count generalizing before pos groupIds with
  | zero =>
      constructor
      · intro read
        cases read
        exact ⟨[], rfl, nofun, rfl, by simpa using behind⟩
      · rintro ⟨ids, none, -, rfl, there⟩
        rw [List.length_eq_zero_iff] at none
        subst none
        rw [List.map_nil, List.flatten_nil, List.append_nil] at there
        rw [there.2, ← behind.2]
        rfl
  | succ count induction =>
      constructor
      · intro read
        rcases bind_eq_ok read with ⟨⟨id, next⟩, first, others⟩
        rcases (readBytes_eq_ok_iff behind id).mp first with
          ⟨small, further⟩
        rcases bind_eq_ok others with
          ⟨⟨later, last⟩, loop, returned⟩
        cases returned
        rcases (induction further later).mp loop with
          ⟨ids, counts, allSmall, rfl, there⟩
        refine ⟨id :: ids, by rw [List.length_cons, counts], ?_, rfl, ?_⟩
        · exact List.forall_mem_cons.mpr ⟨small, allSmall⟩
        · rw [List.map_cons, List.flatten_cons, ← List.append_assoc]
          exact there
      · rintro ⟨ids, counts, allSmall, rfl, there⟩
        cases ids with
        | nil => cases counts
        | cons id ids =>
            rw [List.map_cons, List.flatten_cons, ← List.append_assoc]
              at there
            rw [List.forall_mem_cons] at allSmall
            have further :
                Behind bytes (before ++ counted id).length
                  (before ++ counted id) :=
              ⟨(List.prefix_append _ _).trans there.1, rfl⟩
            have first :=
              (readBytes_eq_ok_iff behind id).mpr ⟨allSmall.1, further⟩
            have loop :=
              (induction further (ids.map Utf8.decode)).mpr
                ⟨ids, Nat.succ.inj counts, allSmall.2, rfl, there⟩
            rw [readGroupIds, first, ok_bind]
            simp only [loop]
            rfl

end Reader

/-- The reader behind the version byte. -/
def readParts (bytes : Bytes) : Except EnvelopeError Envelope := do
  let (identity, pos) ← readBytes bytes 1
  let (provider, pos) ← readBytes bytes pos
  let (count, pos) ← readU32 bytes pos
  let (groupIds, _) ← readGroupIds bytes count pos
  return { identity, provider, groupIds }

theorem decodeEnvelope_cons (version : UInt8) (after : Bytes) :
    decodeEnvelope (version :: after) =
      if version = envelopeVersion then readParts (version :: after)
      else .error (.unsupportedVersion version) := by
  rw [decodeEnvelope, need_first, ok_bind]
  by_cases supported : version = envelopeVersion
  · subst supported
    rfl
  · simp only [List.getD_cons_zero, ne_eq, supported, not_false_eq_true,
      if_true, if_false]
    rfl

theorem behind_one (version : UInt8) (after : Bytes) :
    Behind (version :: after) 1 [version] :=
  ⟨⟨after, rfl⟩, rfl⟩

/-- The parts behind the version byte, in their order. -/
theorem readParts_eq_ok_iff
    {bytes : Bytes} (behind : Behind bytes 1 [envelopeVersion])
    (envelope : Envelope) :
    readParts bytes = .ok envelope ↔
      ∃ ids,
        Begins bytes envelope.identity envelope.provider ids ∧
          envelope.groupIds = ids.map Utf8.decode := by
  constructor
  · intro read
    rcases bind_eq_ok read with ⟨⟨identity, pos⟩, first, read⟩
    rcases (readBytes_eq_ok_iff behind identity).mp first with
      ⟨identitySmall, behind⟩
    rcases bind_eq_ok read with ⟨⟨provider, pos⟩, second, read⟩
    rcases (readBytes_eq_ok_iff behind provider).mp second with
      ⟨providerSmall, behind⟩
    rcases bind_eq_ok read with ⟨⟨count, pos⟩, third, read⟩
    rcases (readU32_eq_ok_iff behind count).mp third with
      ⟨countSmall, behind⟩
    rcases bind_eq_ok read with ⟨⟨groupIds, pos⟩, fourth, read⟩
    rcases (readGroupIds_eq_ok_iff behind count groupIds).mp fourth with
      ⟨ids, rfl, idsSmall, rfl, behind⟩
    cases read
    rcases behind.1 with ⟨rest, split⟩
    refine
      ⟨ids,
        ⟨⟨identitySmall, providerSmall, countSmall, idsSmall⟩, rest, ?_⟩,
        rfl⟩
    rw [← split]
    simp [layout]
  · rintro ⟨ids, ⟨small, rest, split⟩, decoded⟩
    have whole :
        bytes =
          [envelopeVersion] ++ counted envelope.identity ++
            counted envelope.provider ++ u32ToBytes ids.length ++
              (ids.map counted).flatten ++ rest := by
      rw [split]
      simp [layout]
    have behindIds : Behind bytes _ _ := ⟨⟨rest, whole.symm⟩, rfl⟩
    have behindCount : Behind bytes _ _ :=
      ⟨(List.prefix_append _ _).trans behindIds.1, rfl⟩
    have behindProvider : Behind bytes _ _ :=
      ⟨(List.prefix_append _ _).trans behindCount.1, rfl⟩
    have behindIdentity : Behind bytes _ _ :=
      ⟨(List.prefix_append _ _).trans behindProvider.1, rfl⟩
    have first :=
      (readBytes_eq_ok_iff behind envelope.identity).mpr
        ⟨small.identity, behindIdentity⟩
    have second :=
      (readBytes_eq_ok_iff behindIdentity envelope.provider).mpr
        ⟨small.provider, behindProvider⟩
    have third :=
      (readU32_eq_ok_iff behindProvider ids.length).mpr
        ⟨small.count, behindCount⟩
    have fourth :=
      (readGroupIds_eq_ok_iff behindCount ids.length
        envelope.groupIds).mpr
        ⟨ids, rfl, small.ids, decoded, behindIds⟩
    simp only [readParts, first, second, third, fourth, ok_bind]
    rfl

/-- The reader accepts the byte strings that begin with an envelope. -/
theorem decodeEnvelope_eq_ok_iff (bytes : Bytes) (envelope : Envelope) :
    decodeEnvelope bytes = .ok envelope ↔
      ∃ ids,
        Begins bytes envelope.identity envelope.provider ids ∧
          envelope.groupIds = ids.map Utf8.decode := by
  cases bytes with
  | nil =>
      constructor
      · intro impossible
        cases impossible
      · rintro ⟨ids, ⟨-, rest, split⟩, -⟩
        cases split
  | cons version after =>
      rw [decodeEnvelope_cons]
      by_cases supported : version = envelopeVersion
      · subst supported
        rw [if_pos rfl]
        exact readParts_eq_ok_iff (behind_one _ after) envelope
      · rw [if_neg supported]
        constructor
        · intro impossible
          cases impossible
        · rintro ⟨ids, ⟨-, rest, split⟩, -⟩
          exact absurd (List.cons.inj split).1 supported

/-! ## Which envelopes come back -/

theorem countable_map_encode
    {identity provider : Bytes} {groupIds : List CodeUnits}
    (identitySmall : identity.length < 2 ^ 32)
    (providerSmall : provider.length < 2 ^ 32)
    (countSmall : groupIds.length < 2 ^ 32)
    (groupIdsSmall : ∀ id ∈ groupIds, (Utf8.encode id).length < 2 ^ 32) :
    Countable identity provider (groupIds.map Utf8.encode) where
  identity := identitySmall
  provider := providerSmall
  count := by
    rw [List.length_map]
    exact countSmall
  ids := by
    intro id member
    rcases List.mem_map.mp member with ⟨groupId, listed, rfl⟩
    exact groupIdsSmall groupId listed

/-- What the reader makes of the writer's output. -/
theorem decodeEnvelope_encodeEnvelope
    (identity provider : Bytes) (groupIds : List CodeUnits)
    (identitySmall : identity.length < 2 ^ 32)
    (providerSmall : provider.length < 2 ^ 32)
    (countSmall : groupIds.length < 2 ^ 32)
    (groupIdsSmall : ∀ id ∈ groupIds, (Utf8.encode id).length < 2 ^ 32) :
    decodeEnvelope (encodeEnvelope identity provider groupIds) =
      .ok
        { identity
          provider
          groupIds :=
            groupIds.map fun id => Utf8.decode (Utf8.encode id) } := by
  have written :=
    countable_map_encode identitySmall providerSmall countSmall groupIdsSmall
  refine
    (decodeEnvelope_eq_ok_iff _ _).mpr
      ⟨groupIds.map Utf8.encode, ⟨written, [], ?_⟩, ?_⟩
  · rw [List.append_nil, encodeEnvelope_eq_layout]
  · rw [List.map_map]
    rfl

/--
Within the sizes the four-byte lengths can express, an envelope over
well-formed group ids comes back exactly when no group id starts with U+FEFF.
-/
theorem decodeEnvelope_encodeEnvelope_iff
    (identity provider : Bytes) (groupIds : List CodeUnits)
    (identitySmall : identity.length < 2 ^ 32)
    (providerSmall : provider.length < 2 ^ 32)
    (countSmall : groupIds.length < 2 ^ 32)
    (groupIdsSmall : ∀ id ∈ groupIds, (Utf8.encode id).length < 2 ^ 32)
    (wellFormed : ∀ id ∈ groupIds, isWellFormed id = true) :
    decodeEnvelope (encodeEnvelope identity provider groupIds) =
        .ok { identity, provider, groupIds } ↔
      ∀ id ∈ groupIds, Utf8.startsWithByteOrderMark id = false := by
  rw [decodeEnvelope_encodeEnvelope identity provider groupIds
    identitySmall providerSmall countSmall groupIdsSmall]
  simp only [Except.ok.injEq, Envelope.mk.injEq, true_and]
  have pointwise :
      (groupIds.map fun id => Utf8.decode (Utf8.encode id)) = groupIds ↔
        ∀ id ∈ groupIds, Utf8.decode (Utf8.encode id) = id := by
    simpa using
      List.map_inj_left (l := groupIds)
        (f := fun id => Utf8.decode (Utf8.encode id)) (g := id)
  rw [pointwise]
  constructor
  · intro unchanged id member
    exact ((Utf8.decode_encode_eq_iff id).mp (unchanged id member)).2
  · intro unmarked id member
    exact (Utf8.decode_encode_eq_iff id).mpr
      ⟨wellFormed id member, unmarked id member⟩

/-- An ordinary snapshot: one group whose id is plain text. -/
theorem decodeEnvelope_encodeEnvelope_room :
    decodeEnvelope (encodeEnvelope [1, 2] [3] [literal "room"]) =
      .ok
        { identity := [1, 2]
          provider := [3]
          groupIds := [literal "room"] } :=
  (decodeEnvelope_encodeEnvelope_iff [1, 2] [3] [literal "room"]
    (by decide) (by decide) (by decide) (by decide) (by decide)).mpr
    (by decide)

/-- A well-formed group id that starts with U+FEFF does not come back. -/
theorem decodeEnvelope_encodeEnvelope_byteOrderMark :
    isWellFormed [0xFEFF, 0x61] = true ∧
      (Utf8.encode [0xFEFF, 0x61]).length < 2 ^ 32 ∧
        decodeEnvelope (encodeEnvelope [1, 2] [3] [[0xFEFF, 0x61]]) ≠
          .ok
            { identity := [1, 2]
              provider := [3]
              groupIds := [[0xFEFF, 0x61]] } := by
  decide

end Mls4rn.Core.SnapshotEnvelope
