import Mls4rn.Lib.ByteString

/-!
# Formats of the TLS presentation language

A format is a writer and a reader that agree: what is written is read back,
whatever follows it.  The law is a field, so that a format put together from
formats has it.

The variable-length vectors are those with a length field of one, two or four
bytes whose first two bits say which; a length must be in its shortest form.
-/

namespace Mls4rn.Lib.WireFormat

open Mls4rn.Lib.ByteString

/-- A writer and a reader that agree. -/
structure Format (Value : Type) where
  write : Value → Option Bytes
  read : Bytes → Option (Value × Bytes)
  read_write :
    ∀ {value : Value} {bytes : Bytes}, write value = some bytes →
      ∀ rest, read (bytes ++ rest) = some (value, rest)

namespace Format

variable {Value Other : Type}

/-- No written value is the start of another one. -/
theorem write_unique
    (format : Format Value) {first second : Value}
    {firstBytes secondBytes : Bytes}
    (firstWritten : format.write first = some firstBytes)
    (secondWritten : format.write second = some secondBytes)
    {firstRest secondRest : Bytes}
    (same : firstBytes ++ firstRest = secondBytes ++ secondRest) :
    first = second ∧ firstRest = secondRest := by
  have readFirst := format.read_write firstWritten firstRest
  rw [same, format.read_write secondWritten secondRest] at readFirst
  cases readFirst
  exact ⟨rfl, rfl⟩

variable {bytes : Bytes}

theorem write_injective
    (format : Format Value) {first second : Value}
    (firstWritten : format.write first = some bytes)
    (secondWritten : format.write second = some bytes) : first = second :=
  (format.write_unique firstWritten secondWritten
    (rfl : bytes ++ [] = bytes ++ [])).1

/-! ## Bytes and numbers -/

/-- A field of a fixed number of bytes. -/
def fixed (width : Nat) : Format Bytes where
  write bytes := if bytes.length = width then some bytes else none
  read bytes :=
    if width ≤ bytes.length then some (bytes.take width, bytes.drop width)
    else none
  read_write := by
    intro value bytes written rest
    split at written
    · next exact =>
      cases written
      rw [if_pos (by simp [exact]), List.take_left' exact,
        List.drop_left' exact]
    · cases written

/-- A big-endian number of a fixed number of bytes. -/
def uint (width : Nat) : Format Nat where
  write value :=
    if value < 256 ^ width then some (bigEndian width value) else none
  read bytes :=
    ((fixed width).read bytes).map fun taken =>
      (ofBigEndian taken.1, taken.2)
  read_write := by
    intro value bytes written rest
    split at written
    · next small =>
      cases written
      have field : (fixed width).write (bigEndian width value) =
          some (bigEndian width value) :=
        if_pos (length_bigEndian width value)
      rw [(fixed width).read_write field rest, Option.map_some,
        ofBigEndian_bigEndian, Nat.mod_eq_of_lt small]
    · cases written

/-! ## Composition -/

/-- One value after another. -/
def pair (first : Format Value) (second : Format Other) :
    Format (Value × Other) where
  write value := do
    let head ← first.write value.1
    let tail ← second.write value.2
    return head ++ tail
  read bytes := do
    let (head, after) ← first.read bytes
    let (tail, rest) ← second.read after
    return ((head, tail), rest)
  read_write := by
    intro value bytes written rest
    simp only [Option.bind_eq_bind, Option.bind_eq_some_iff, Option.pure_def,
      Option.some.injEq] at written
    obtain ⟨head, headWritten, tail, tailWritten, rfl⟩ := written
    simp only [List.append_assoc, first.read_write headWritten,
      second.read_write tailWritten, Option.bind_eq_bind, Option.bind_some,
      Option.pure_def]

/--
The values of a type by a format for what represents them.  A representation
that stands for no value is refused.
-/
def represent (format : Format Other) (code : Value → Other)
    (decode : Other → Option Value)
    (decodes : ∀ value, decode (code value) = some value) :
    Format Value where
  write value := format.write (code value)
  read bytes := do
    let (other, rest) ← format.read bytes
    let value ← decode other
    return (value, rest)
  read_write := by
    intro value bytes written rest
    simp only [format.read_write written, decodes value,
      Option.bind_eq_bind, Option.bind_some, Option.pure_def]

/-- One of two forms that share no byte string. -/
def either (first second : Format Value)
    (noBytes : ∀ bytes, first.read bytes ≠ none → second.read bytes = none) :
    Format Value where
  write value := (first.write value).or (second.write value)
  read bytes := (first.read bytes).or (second.read bytes)
  read_write := by
    intro value bytes written rest
    rw [Option.or_eq_some_iff] at written
    rcases written with inFirst | ⟨-, inSecond⟩
    · rw [first.read_write inFirst, Option.some_or]
    · have back := second.read_write inSecond rest
      cases other : first.read (bytes ++ rest) with
      | none => rw [Option.none_or, back]
      | some taken =>
          rw [noBytes _ (by rw [other]; exact Option.some_ne_none _)] at back
          cases back

/-- No bytes at all. -/
def nothing : Format Unit where
  write _ := some []
  read bytes := some ((), bytes)
  read_write := by
    intro value bytes written rest
    cases written
    rfl

/-- The values of one constructor of a type. -/
def variant (format : Format Other) (inject : Other → Value)
    (project : Value → Option Other)
    (agree : ∀ value other, project value = some other →
      inject other = value) :
    Format Value where
  write value := (project value).bind format.write
  read bytes := (format.read bytes).map fun taken =>
    (inject taken.1, taken.2)
  read_write := by
    intro value bytes written rest
    obtain ⟨other, projected, written⟩ := Option.bind_eq_some_iff.mp written
    rw [format.read_write written, Option.map_some,
      agree value other projected]

/-- A tag, and behind it what the tag selects. -/
def select {Tag : Type} (tags : Format Tag) (tag : Value → Tag)
    (body : Tag → Format Value) : Format Value where
  write value := do
    let head ← tags.write (tag value)
    let tail ← (body (tag value)).write value
    return head ++ tail
  read bytes := do
    let taken ← tags.read bytes
    (body taken.1).read taken.2
  read_write := by
    intro value bytes written rest
    simp only [Option.bind_eq_bind, Option.bind_eq_some_iff, Option.pure_def,
      Option.some.injEq] at written
    obtain ⟨head, headWritten, tail, tailWritten, rfl⟩ := written
    simp only [List.append_assoc, tags.read_write headWritten,
      Option.bind_eq_bind, Option.bind_some]
    exact (body (tag value)).read_write tailWritten rest

/-! ## Vectors of variable length -/

/--
A length in `more + 1` bytes, the first two bits of which are `tag`.  Lengths
below `least` have a shorter form.
-/
def lengthForm (tag more least : Nat) : Format Nat where
  write length :=
    if least ≤ length ∧ length < 64 * 256 ^ more ∧ tag < 4 then
      (uint (more + 1)).write (tag * (64 * 256 ^ more) + length)
    else none
  read bytes := do
    let taken ← (uint (more + 1)).read bytes
    if taken.1 / (64 * 256 ^ more) = tag ∧
        least ≤ taken.1 % (64 * 256 ^ more) then
      some (taken.1 % (64 * 256 ^ more), taken.2)
    else none
  read_write := by
    intro length bytes written rest
    split at written
    · next fits =>
      obtain ⟨above, below, -⟩ := fits
      have quotient :
          (tag * (64 * 256 ^ more) + length) / (64 * 256 ^ more) = tag := by
        rw [Nat.add_comm, Nat.add_mul_div_right _ _ (by positivity),
          Nat.div_eq_of_lt below, Nat.zero_add]
      have remainder :
          (tag * (64 * 256 ^ more) + length) % (64 * 256 ^ more) =
            length := by
        rw [Nat.add_comm, Nat.add_mul_mod_self_right, Nat.mod_eq_of_lt below]
      simp only [(uint (more + 1)).read_write written, Option.bind_eq_bind,
        Option.bind_some, quotient, remainder, above, and_self, if_true]
    · cases written

/-- The first byte of a length tells its form. -/
theorem tag_of_read_lengthForm {tag more least : Nat}
    (accepted : (lengthForm tag more least).read bytes ≠ none) :
    ∃ byte rest, bytes = byte :: rest ∧ byte.toNat / 64 = tag := by
  obtain ⟨⟨length, rest⟩, done⟩ := Option.ne_none_iff_exists'.mp accepted
  simp only [lengthForm, Option.bind_eq_bind, Option.bind_eq_some_iff] at done
  obtain ⟨⟨value, after⟩, taken, done⟩ := done
  split at done
  · next fits =>
    simp only [uint, Option.map_eq_some_iff, fixed] at taken
    obtain ⟨⟨field, tail⟩, taken, pair⟩ := taken
    cases pair
    split at taken
    · next enough =>
      cases taken
      cases bytes with
      | nil => exact absurd enough (Nat.not_succ_le_zero _)
      | cons byte bytes =>
          refine ⟨byte, bytes, rfl, ?_⟩
          have long : more ≤ bytes.length := Nat.le_of_succ_le_succ enough
          have tail := ofBigEndian_lt (bytes.take more)
          rw [List.length_take_of_le long] at tail
          rw [← fits.1, List.take_succ_cons, ofBigEndian_cons,
            List.length_take_of_le long, Nat.mul_comm 64,
            ← Nat.div_div_eq_div_mul, Nat.add_comm,
            Nat.add_mul_div_right _ _ (by positivity),
            Nat.div_eq_of_lt tail, Nat.zero_add]
    · cases taken
  · cases done

theorem lengthForm_apart {tag more least otherTag otherMore otherLeast : Nat}
    (different : tag ≠ otherTag) (bytes : Bytes)
    (accepted : (lengthForm tag more least).read bytes ≠ none) :
    (lengthForm otherTag otherMore otherLeast).read bytes = none := by
  by_contra alsoAccepted
  obtain ⟨byte, rest, rfl, tagged⟩ := tag_of_read_lengthForm accepted
  obtain ⟨other, after, same, otherTagged⟩ :=
    tag_of_read_lengthForm alsoAccepted
  cases same
  exact different (tagged.symm.trans otherTagged)

theorem length_write_lengthForm {tag more least length : Nat}
    (written : (lengthForm tag more least).write length = some bytes) :
    (least ≤ length ∧ length < 64 * 256 ^ more) ∧
      bytes.length = more + 1 := by
  simp only [lengthForm, uint] at written
  split at written
  · next fits =>
    obtain ⟨above, below, -⟩ := fits
    split at written
    · cases written
      exact ⟨⟨above, below⟩, length_bigEndian _ _⟩
    · cases written
  · cases written

theorem exists_write_lengthForm {tag more least length : Nat}
    (known : tag < 4) (above : least ≤ length)
    (below : length < 64 * 256 ^ more) :
    ∃ written, (lengthForm tag more least).write length = some written := by
  have fits : tag * (64 * 256 ^ more) + length < 256 ^ (more + 1) := by
    have quarter : 256 ^ (more + 1) = 4 * (64 * 256 ^ more) := by
      rw [pow_succ]
      ring
    have tags : tag * (64 * 256 ^ more) ≤ 3 * (64 * 256 ^ more) :=
      Nat.mul_le_mul_right _ (by omega)
    omega
  refine ⟨bigEndian (more + 1) (tag * (64 * 256 ^ more) + length), ?_⟩
  simp only [lengthForm, uint]
  rw [if_pos ⟨above, below, known⟩, if_pos fits]

/-- The length of a vector, in its shortest form. -/
def vectorLength : Format Nat :=
  either (lengthForm 0 0 0)
    (either (lengthForm 1 1 64) (lengthForm 2 3 16384)
      (lengthForm_apart (by decide)))
    (by
      intro bytes accepted
      simp only [either]
      rw [lengthForm_apart (by decide) bytes accepted,
        lengthForm_apart (by decide) bytes accepted, Option.none_or])

/-- The number of bytes of a length. -/
def lengthWidth (length : Nat) : Nat :=
  if length < 64 then 1 else if length < 16384 then 2 else 4

theorem length_write_vectorLength {length : Nat}
    (written : vectorLength.write length = some bytes) :
    bytes.length = lengthWidth length := by
  simp only [vectorLength, either, Option.or_eq_some_iff] at written
  unfold lengthWidth
  rcases written with first | ⟨-, second | ⟨-, third⟩⟩
  · obtain ⟨bounds, exact⟩ := length_write_lengthForm first
    rw [exact, if_pos (by omega)]
  · obtain ⟨bounds, exact⟩ := length_write_lengthForm second
    rw [exact, if_neg (by omega), if_pos (by omega)]
  · obtain ⟨bounds, exact⟩ := length_write_lengthForm third
    rw [exact, if_neg (by omega), if_neg (by omega)]

/-- A byte string with its length before it. -/
def vector : Format Bytes where
  write bytes := (vectorLength.write bytes.length).map (· ++ bytes)
  read bytes := do
    let taken ← vectorLength.read bytes
    (fixed taken.1).read taken.2
  read_write := by
    intro value bytes written rest
    rw [Option.map_eq_some_iff] at written
    obtain ⟨field, wrote, rfl⟩ := written
    have exact : (fixed value.length).write value = some value := if_pos rfl
    simp only [List.append_assoc, vectorLength.read_write wrote,
      Option.bind_eq_bind, Option.bind_some]
    exact (fixed value.length).read_write exact rest

theorem length_write_vector {bytes written : Bytes}
    (wrote : vector.write bytes = some written) :
    written.length = lengthWidth bytes.length + bytes.length := by
  obtain ⟨field, fieldWritten, rfl⟩ := Option.map_eq_some_iff.mp wrote
  rw [List.length_append, length_write_vectorLength fieldWritten]

theorem length_lt_of_write_vector {bytes written : Bytes}
    (wrote : vector.write bytes = some written) : bytes.length < 2 ^ 30 := by
  obtain ⟨field, fieldWritten, -⟩ := Option.map_eq_some_iff.mp wrote
  simp only [vectorLength, either, Option.or_eq_some_iff] at fieldWritten
  rcases fieldWritten with first | ⟨-, second | ⟨-, third⟩⟩
  · have bounds := (length_write_lengthForm first).1
    omega
  · have bounds := (length_write_lengthForm second).1
    omega
  · have bounds := (length_write_lengthForm third).1
    omega

theorem exists_write_vector (small : bytes.length < 2 ^ 30) :
    ∃ written, vector.write bytes = some written := by
  suffices fits : ∃ field, vectorLength.write bytes.length = some field by
    obtain ⟨field, wrote⟩ := fits
    exact ⟨field ++ bytes, by simp only [vector, wrote, Option.map_some]⟩
  simp only [vectorLength, either]
  by_cases short : bytes.length < 64
  · obtain ⟨field, wrote⟩ :=
      exists_write_lengthForm (by decide : 0 < 4) (Nat.zero_le _)
        (by omega : bytes.length < 64 * 256 ^ 0)
    exact ⟨field, by rw [wrote, Option.some_or]⟩
  rw [Option.or_eq_right_of_none (by
    simp only [lengthForm]
    rw [if_neg]
    omega)]
  by_cases middle : bytes.length < 16384
  · obtain ⟨field, wrote⟩ :=
      exists_write_lengthForm (by decide : 1 < 4)
        (by omega : 64 ≤ bytes.length)
        (by omega : bytes.length < 64 * 256 ^ 1)
    exact ⟨field, by rw [wrote, Option.some_or]⟩
  rw [Option.or_eq_right_of_none (by
    simp only [lengthForm]
    rw [if_neg]
    omega)]
  exact exists_write_lengthForm (by decide) (by omega) (by omega)

end Format

end Mls4rn.Lib.WireFormat
