import Mls4rn.Core.ConcurrentOpen

/-!
# Which byte strings are snapshot envelopes

The reader of `src/client.ts` accepts exactly the byte strings that begin with
an envelope, ignores what follows it, and reads nothing behind the end.

Counted byte strings determine where they end, so a byte string begins with
at most one envelope.  What is cut off from a written envelope is therefore
missed by the reader, and a client whose snapshot was truncated is not opened
and not written again.
-/

namespace Mls4rn.Core.EnvelopeGrammar

open Mls4rn.Lib
open Mls4rn.Lib.ByteString
open Mls4rn.Lib.Execution
open Mls4rn.Lib.Utf16
open Mls4rn.Core.MlsGroup (Thrown)
open Mls4rn.Core.SnapshotEnvelope
open Mls4rn.Core.PersistentClient
  (Client.new StoredMls Fits openClient openClient_some readEnvelope
    recordMls restore)
open Mls4rn.Core.ConcurrentOpen

/-! ## Envelopes determine where they end -/

variable {firstRest secondRest : Bytes}

/-- A four-byte number is determined by its bytes. -/
theorem u32ToBytes_append_inj
    {first second : Nat} (firstSmall : first < 2 ^ 32)
    (secondSmall : second < 2 ^ 32)
    (equal : u32ToBytes first ++ firstRest = u32ToBytes second ++ secondRest) :
    first = second ∧ firstRest = secondRest := by
  have lengths : (u32ToBytes first).length = (u32ToBytes second).length := by
    simp [u32ToBytes]
  rcases List.append_inj equal lengths with ⟨sameBytes, sameRest⟩
  have numbers := congrArg ofBigEndian sameBytes
  rw [u32ToBytes, u32ToBytes, ofBigEndian_bigEndian, ofBigEndian_bigEndian]
    at numbers
  refine ⟨?_, sameRest⟩
  omega

/-- A counted byte string determines where it ends. -/
theorem counted_append_inj
    {first second : Bytes} (firstSmall : first.length < 2 ^ 32)
    (secondSmall : second.length < 2 ^ 32)
    (equal : counted first ++ firstRest = counted second ++ secondRest) :
    first = second ∧ firstRest = secondRest := by
  rw [counted, counted, List.append_assoc, List.append_assoc] at equal
  rcases u32ToBytes_append_inj firstSmall secondSmall equal with
    ⟨lengths, parts⟩
  exact List.append_inj parts lengths

/-- So does a list of them whose length is known. -/
theorem flatten_counted_append_inj
    {first second : List Bytes} (sameCount : first.length = second.length)
    (firstSmall : ∀ id ∈ first, id.length < 2 ^ 32)
    (secondSmall : ∀ id ∈ second, id.length < 2 ^ 32)
    (equal :
      (first.map counted).flatten ++ firstRest =
        (second.map counted).flatten ++ secondRest) :
    first = second ∧ firstRest = secondRest := by
  induction first generalizing second with
  | nil =>
      have empty : second = [] :=
        List.length_eq_zero_iff.mp sameCount.symm
      subst empty
      exact ⟨rfl, equal⟩
  | cons id first induction =>
      cases second with
      | nil => cases sameCount
      | cons other second =>
          simp only [List.map_cons, List.flatten_cons, List.append_assoc]
            at equal
          rcases counted_append_inj (firstSmall id List.mem_cons_self)
              (secondSmall other List.mem_cons_self) equal with
            ⟨rfl, behind⟩
          have rest :=
            induction (Nat.succ.inj sameCount)
              (fun id member =>
                firstSmall id (List.mem_cons_of_mem _ member))
              (fun id member =>
                secondSmall id (List.mem_cons_of_mem _ member))
              behind
          exact ⟨by rw [rest.1], rest.2⟩

/-- A byte string begins with one envelope at most. -/
theorem layout_append_inj
    {identity provider otherIdentity otherProvider : Bytes}
    {ids otherIds : List Bytes}
    (small : Countable identity provider ids)
    (otherSmall : Countable otherIdentity otherProvider otherIds)
    {rest otherRest : Bytes}
    (equal :
      layout identity provider ids ++ rest =
        layout otherIdentity otherProvider otherIds ++ otherRest) :
    identity = otherIdentity ∧ provider = otherProvider ∧
      ids = otherIds ∧ rest = otherRest := by
  simp only [layout, List.append_assoc] at equal
  replace equal := List.append_cancel_left equal
  rcases counted_append_inj small.identity otherSmall.identity equal with
    ⟨sameIdentity, behindIdentity⟩
  rcases counted_append_inj small.provider otherSmall.provider
      behindIdentity with
    ⟨sameProvider, behindProvider⟩
  rcases u32ToBytes_append_inj small.count otherSmall.count
      behindProvider with
    ⟨sameCount, behindCount⟩
  rcases flatten_counted_append_inj sameCount small.ids otherSmall.ids
      behindCount with
    ⟨sameIds, sameRest⟩
  exact ⟨sameIdentity, sameProvider, sameIds, sameRest⟩

/-! ## What the reader touches -/

/-- A reader that records the ranges of positions it has read. -/
abbrev Traced (Value : Type) : Type :=
  Throwing (List (Nat × Nat)) EnvelopeError Value

/-- The bytes from `first` up to, not including, `last` are read. -/
def touch (first last : Nat) : Traced Unit :=
  Throwing.update fun ranges => ranges ++ [(first, last)]

/-- `readU32`, with `view.getUint32` recorded. -/
def readU32Traced (bytes : Bytes) (pos : Nat) : Traced (Nat × Nat) := do
  Throwing.ofExcept (need bytes pos 4)
  touch pos (pos + 4)
  return (ofBigEndian (slice bytes pos (pos + 4)), pos + 4)

/-- `readBytes`, with `bytes.slice` recorded. -/
def readBytesTraced (bytes : Bytes) (pos : Nat) : Traced (Bytes × Nat) := do
  let (n, pos) ← readU32Traced bytes pos
  Throwing.ofExcept (need bytes pos n)
  touch pos (pos + n)
  return (slice bytes pos (pos + n), pos + n)

/-- The loop over the group ids. -/
def readGroupIdsTraced (bytes : Bytes) :
    Nat → Nat → Traced (List CodeUnits × Nat)
  | 0, pos => return ([], pos)
  | count + 1, pos => do
      let (idBytes, pos) ← readBytesTraced bytes pos
      let (groupIds, pos) ← readGroupIdsTraced bytes count pos
      return (Utf8.decode idBytes :: groupIds, pos)

/-- `decodeEnvelope`, with `bytes[pos]` recorded. -/
def decodeEnvelopeTraced (bytes : Bytes) : Traced Envelope := do
  Throwing.ofExcept (need bytes 0 1)
  touch 0 1
  if bytes.getD 0 0 ≠ envelopeVersion then
    Throwing.raise (.unsupportedVersion (bytes.getD 0 0))
  else do
    let (identity, pos) ← readBytesTraced bytes 1
    let (provider, pos) ← readBytesTraced bytes pos
    let (count, pos) ← readU32Traced bytes pos
    let (groupIds, _) ← readGroupIdsTraced bytes count pos
    return { identity, provider, groupIds }

/-- The recording reader ends as the plain one and reads inside the bytes. -/
def Traces
    {Value : Type} (bytes : Bytes) (traced : Traced Value)
    (plain : Except EnvelopeError Value) : Prop :=
  ∀ ranges, ∃ read,
    traced ranges = (plain, ranges ++ read) ∧
      ∀ range ∈ read, range.2 ≤ bytes.length

section Traces

variable {Value Next : Type} {bytes : Bytes}

theorem traces_ofExcept (plain : Except EnvelopeError Value) :
    Traces bytes (Throwing.ofExcept plain) plain := by
  intro ranges
  refine ⟨[], ?_, nofun⟩
  rw [List.append_nil]
  rfl

/-- One reader behind another. -/
theorem Traces.bind
    {traced : Traced Value} {plain : Except EnvelopeError Value}
    {next : Value → Traced Next} {rest : Value → Except EnvelopeError Next}
    (first : Traces bytes traced plain)
    (second :
      ∀ value, plain = .ok value → Traces bytes (next value) (rest value)) :
    Traces bytes (traced >>= next) (plain >>= rest) := by
  intro ranges
  rcases first ranges with ⟨read, reached, inside⟩
  cases plain with
  | error error =>
      exact ⟨read, Throwing.bind_of_error reached next, inside⟩
  | ok value =>
      rcases second value rfl (ranges ++ read) with
        ⟨further, ended, furtherInside⟩
      refine ⟨read ++ further, ?_, ?_⟩
      · rw [Throwing.bind_of_ok reached next, ended, List.append_assoc]
        rfl
      · intro range member
        rcases List.mem_append.mp member with earlier | later
        · exact inside range earlier
        · exact furtherInside range later

/-- A range that was asked for is read. -/
theorem traces_touch
    {first n : Nat} (needed : need bytes first n = .ok ())
    {next : Traced Value} {plain : Except EnvelopeError Value}
    (rest : Traces bytes next plain) :
    Traces bytes (touch first (first + n) >>= fun _ => next) plain := by
  intro ranges
  rcases rest (ranges ++ [(first, first + n)]) with ⟨read, ended, inside⟩
  refine ⟨(first, first + n) :: read, ?_, ?_⟩
  · have touched :
        touch first (first + n) ranges =
          (.ok (), ranges ++ [(first, first + n)]) :=
      rfl
    rw [Throwing.bind_of_ok touched, ended, List.append_assoc]
    rfl
  · rw [need_eq_ok_iff] at needed
    exact List.forall_mem_cons.mpr ⟨needed, inside⟩

theorem traces_readU32 (bytes : Bytes) (pos : Nat) :
    Traces bytes (readU32Traced bytes pos) (readU32 bytes pos) := by
  apply (traces_ofExcept (need bytes pos 4)).bind
  rintro ⟨⟩ needed
  exact traces_touch needed (traces_ofExcept (.ok _))

theorem traces_readBytes (bytes : Bytes) (pos : Nat) :
    Traces bytes (readBytesTraced bytes pos) (readBytes bytes pos) := by
  apply (traces_readU32 bytes pos).bind
  rintro ⟨n, start⟩ -
  apply (traces_ofExcept (need bytes start n)).bind
  rintro ⟨⟩ needed
  exact traces_touch needed (traces_ofExcept (.ok _))

theorem traces_readGroupIds (bytes : Bytes) (count pos : Nat) :
    Traces bytes (readGroupIdsTraced bytes count pos)
      (readGroupIds bytes count pos) := by
  induction count generalizing pos with
  | zero => exact traces_ofExcept (.ok _)
  | succ count induction =>
      apply (traces_readBytes bytes pos).bind
      rintro ⟨idBytes, next⟩ -
      apply (induction next).bind
      rintro ⟨groupIds, last⟩ -
      exact traces_ofExcept (.ok _)

/-- The whole reader stays inside the bytes. -/
theorem traces_decodeEnvelope (bytes : Bytes) :
    Traces bytes (decodeEnvelopeTraced bytes) (decodeEnvelope bytes) := by
  cases bytes with
  | nil => exact traces_ofExcept (.error .corrupt)
  | cons version after =>
      have started :
          decodeEnvelopeTraced (version :: after) =
            (touch 0 (0 + 1) >>= fun _ =>
              if version = envelopeVersion then do
                let (identity, pos) ← readBytesTraced (version :: after) 1
                let (provider, pos) ← readBytesTraced (version :: after) pos
                let (count, pos) ← readU32Traced (version :: after) pos
                let (groupIds, _) ←
                  readGroupIdsTraced (version :: after) count pos
                return { identity, provider, groupIds }
              else Throwing.raise (.unsupportedVersion version)) := by
        rw [decodeEnvelopeTraced, need_first]
        simp only [ne_eq, List.getD_cons_zero, ite_not]
        rfl
      rw [started, decodeEnvelope_cons]
      apply traces_touch (need_first version after)
      split
      case isFalse => exact traces_ofExcept (.error _)
      case isTrue =>
        apply (traces_readBytes _ 1).bind
        rintro ⟨identity, pos⟩ -
        apply (traces_readBytes _ pos).bind
        rintro ⟨provider, pos⟩ -
        apply (traces_readU32 _ pos).bind
        rintro ⟨count, pos⟩ -
        apply (traces_readGroupIds _ count pos).bind
        rintro ⟨groupIds, pos⟩ -
        exact traces_ofExcept (.ok _)

end Traces

/-! ## Truncated envelopes -/

/-- No strict initial part of an envelope begins with an envelope. -/
theorem decodeEnvelope_of_truncated
    {identity provider part : Bytes} {groupIds : List CodeUnits}
    (fits : Fits identity provider groupIds)
    (cut : part <+: encodeEnvelope identity provider groupIds)
    (strict : part ≠ encodeEnvelope identity provider groupIds) :
    ∃ error, decodeEnvelope part = .error error := by
  cases decoded : decodeEnvelope part with
  | error error => exact ⟨error, rfl⟩
  | ok envelope =>
      exfalso
      rcases (decodeEnvelope_eq_ok_iff part envelope).mp decoded with
        ⟨ids, ⟨small, rest, begins⟩, -⟩
      rcases cut with ⟨missing, whole⟩
      have twice :
          layout envelope.identity envelope.provider ids ++
              (rest ++ missing) =
            layout identity provider (groupIds.map Utf8.encode) ++ [] := by
        rw [List.append_nil, ← encodeEnvelope_eq_layout, ← whole, begins,
          List.append_assoc]
      have written :=
        countable_map_encode fits.1 fits.2.1 fits.2.2.1 fits.2.2.2
      rcases layout_append_inj small written twice with
        ⟨-, -, -, nothing⟩
      rw [(List.append_eq_nil_iff.mp nothing).2, List.append_nil] at whole
      exact strict whole

/-! ## Opening a client whose snapshot is corrupt -/

section Opening

variable {Caller Keypair Operation Seed : Type}
variable (mls : StoredMls Keypair Operation Seed) (id : CodeUnits)

/-- `open` throws: the error of the reader, unless the constructor threw. -/
theorem openClient_of_corrupt
    {blob : Bytes} {error : EnvelopeError}
    (corrupt : decodeEnvelope blob = .error error)
    (seed : Seed) (order : List (Bytes × Bytes)) :
    ∃ thrown,
      openClient mls id (some blob) seed order = .error thrown ∧
        ∀ fresh, Client.new mls id seed = .ok fresh →
          thrown = .jsError (literal error.message) := by
  cases constructed : Client.new mls id seed with
  | error thrown =>
      refine ⟨thrown, ?_, fun _ returned => by cases returned⟩
      rw [openClient, constructed]
      rfl
  | ok fresh =>
      refine ⟨_, ?_, fun _ _ => rfl⟩
      rw [openClient_some id blob constructed, restore, readEnvelope, corrupt]
      rfl

/-- A call that has found the blob, if anything, and got nowhere. -/
def Unopened (blob : Bytes) : Progress Keypair → Prop
  | .called => True
  | .loaded found => found = some blob
  | .saving _ _ => False
  | .opened _ => False
  | .failed => True

variable [DecidableEq Caller]

/-- The blob stays where it is, and nobody gets a client from it. -/
structure Stuck (blob : Bytes) (world : World Caller Keypair) : Prop where
  stored : world.stored = some blob
  unopened : ∀ caller, Unopened blob (world.progress caller)

variable {blob : Bytes} {world target : World Caller Keypair}

theorem Stuck.move
    (stuck : Stuck blob world) (caller : Caller)
    {reached : Progress Keypair} (unopened : Unopened blob reached) :
    Stuck blob (world.move caller reached) where
  stored := stuck.stored
  unopened other := by
    change Unopened blob (Function.update world.progress caller reached other)
    rw [Function.update_apply]
    split
    · exact unopened
    · exact stuck.unopened other

/-- One step of the calls of `open`. -/
theorem Stuck.step
    {error : EnvelopeError} (corrupt : decodeEnvelope blob = .error error)
    (stuck : Stuck blob world) {event : Event Caller Seed}
    (taken : (machine mls id).step world event = some target) :
    Stuck blob target := by
  cases event with
  | load caller =>
      simp only [machine] at taken
      split at taken
      case h_1 =>
        cases taken
        exact stuck.move caller stuck.stored
      case h_2 => cases taken
  | resume caller seed order =>
      simp only [machine] at taken
      split at taken
      case h_1 found loaded =>
        have same := stuck.unopened caller
        rw [loaded] at same
        have failed : resume mls id found seed order = .failed := by
          rcases openClient_of_corrupt mls id corrupt seed order with
            ⟨thrown, refused, -⟩
          rw [show found = some blob from same, ConcurrentOpen.resume,
            refused]
        rw [failed] at taken
        split at taken
        · cases taken
          exact stuck.move caller trivial
        · cases taken
      case h_2 => cases taken
  | save caller =>
      simp only [machine] at taken
      split at taken
      case h_1 client written saving =>
        have impossible := stuck.unopened caller
        rw [saving] at impossible
        exact impossible.elim
      case h_2 => cases taken
  | reject caller =>
      simp only [machine] at taken
      split at taken
      case h_1 =>
        cases taken
        exact stuck.move caller trivial
      case h_2 =>
        cases taken
        exact stuck.move caller trivial
      case h_3 => cases taken

/-- Whole runs of the calls of `open`. -/
theorem stuck_of_reaches
    {error : EnvelopeError} (corrupt : decodeEnvelope blob = .error error)
    (reached :
      Reaches (machine mls id) anyStep (World.start (some blob)) world) :
    Stuck blob world := by
  have atStart : Stuck blob (World.start (some blob) : World Caller Keypair) :=
    ⟨rfl, fun _ => trivial⟩
  apply Reaches.invariant atStart _ reached
  intro source event next before _ taken
  exact before.step mls id corrupt taken

/--
The reader accepts exactly the byte strings that begin with an envelope, gives
back its parts, and never reads past the end.  A strict initial part of a
written envelope is rejected; `open` throws on it, an error with a message if
the constructor returned, and no run of `open` calls gets a client from it or
saves anything.
-/
theorem envelopes_are_read_exactly :
    (∀ bytes envelope,
      decodeEnvelope bytes = .ok envelope ↔
        ∃ ids,
          Begins bytes envelope.identity envelope.provider ids ∧
            envelope.groupIds = ids.map Utf8.decode) ∧
      (∀ bytes, ∃ read,
        decodeEnvelopeTraced bytes [] = (decodeEnvelope bytes, read) ∧
          ∀ range ∈ read, range.2 ≤ bytes.length) ∧
        ∀ identity provider groupIds part,
          Fits identity provider groupIds →
            part <+: encodeEnvelope identity provider groupIds →
              part ≠ encodeEnvelope identity provider groupIds →
                (∃ error, decodeEnvelope part = .error error) ∧
                  (∀ seed order, ∃ thrown,
                    openClient mls id (some part) seed order =
                        .error thrown ∧
                      ∀ fresh, Client.new mls id seed = .ok fresh →
                        ∃ message, thrown = .jsError message) ∧
                    ∀ world : World Caller Keypair,
                      Reaches (machine mls id) anyStep
                          (World.start (some part)) world →
                        Stuck part world := by
  refine ⟨decodeEnvelope_eq_ok_iff, ?_, ?_⟩
  · intro bytes
    rcases traces_decodeEnvelope bytes [] with ⟨read, ended, inside⟩
    exact ⟨read, ended, inside⟩
  · intro identity provider groupIds part fits cut strict
    rcases decodeEnvelope_of_truncated fits cut strict with
      ⟨error, corrupt⟩
    refine ⟨⟨error, corrupt⟩, ?_, ?_⟩
    · intro seed order
      rcases openClient_of_corrupt mls id corrupt seed order with
        ⟨thrown, refused, message⟩
      exact ⟨thrown, refused,
        fun fresh constructed => ⟨_, message fresh constructed⟩⟩
    · intro world reached
      exact stuck_of_reaches mls id corrupt reached

end Opening

/-- The snapshot of a client with one group, cut off inside the group id. -/
theorem envelopes_are_read_exactly_room :
    ∃ error,
      decodeEnvelope
          ((encodeEnvelope [1, 2] [3] [literal "room"]).take 22) =
        .error error := by
  have exactly :=
    @envelopes_are_read_exactly Bool UInt8 Unit UInt8 recordMls
      (literal "ann") inferInstance
  exact
    (exactly.2.2 [1, 2] [3] [literal "room"] _ (by decide)
      (List.take_prefix _ _) (by decide)).1

end Mls4rn.Core.EnvelopeGrammar
