import Mathlib.Tactic

/-!
# Strings as sequences of UTF-16 code units

An ECMAScript string is a sequence of 16-bit code units, so it may hold
surrogates that are not paired.  Conversion to Unicode scalar values replaces
every unpaired surrogate by U+FFFD; conversion back is exact on the strings
without unpaired surrogates and nowhere else.
-/

namespace Mls4rn.Lib.Utf16

/-- A string of 16-bit code units. -/
abbrev CodeUnits := List UInt16

/-- Whether a string is one of a list is decided unit by unit. -/
instance decidableMem (text : CodeUnits) (texts : List CodeUnits) :
    Decidable (text ∈ texts) :=
  inferInstance

/-- The code units of a literal in the Basic Multilingual Plane. -/
def literal (text : String) : CodeUnits :=
  text.toList.map fun character => UInt16.ofNat character.toNat

/-- A leading surrogate. -/
def isLeading (unit : UInt16) : Bool :=
  decide (0xD800 ≤ unit.toNat ∧ unit.toNat < 0xDC00)

/-- A trailing surrogate. -/
def isTrailing (unit : UInt16) : Bool :=
  decide (0xDC00 ≤ unit.toNat ∧ unit.toNat < 0xE000)

/-- A surrogate of either kind. -/
def isSurrogate (unit : UInt16) : Bool :=
  isLeading unit || isTrailing unit

@[simp]
theorem isLeading_iff (unit : UInt16) :
    isLeading unit = true ↔ 0xD800 ≤ unit.toNat ∧ unit.toNat < 0xDC00 := by
  simp [isLeading]

@[simp]
theorem isTrailing_iff (unit : UInt16) :
    isTrailing unit = true ↔ 0xDC00 ≤ unit.toNat ∧ unit.toNat < 0xE000 := by
  simp [isTrailing]

theorem isSurrogate_iff (unit : UInt16) :
    isSurrogate unit = true ↔ 0xD800 ≤ unit.toNat ∧ unit.toNat < 0xE000 := by
  simp only [isSurrogate, Bool.or_eq_true, isLeading_iff, isTrailing_iff]
  omega

/-- U+FFFD, the replacement character. -/
def replacement : Char :=
  Char.ofNat 0xFFFD

/-- U+FEFF, the byte order mark. -/
def byteOrderMark : Char :=
  Char.ofNat 0xFEFF

/-- The scalar value of one unit that is not part of a pair. -/
def unitScalar (unit : UInt16) : Char :=
  if isSurrogate unit then replacement else Char.ofNat unit.toNat

/-- The scalar value of a surrogate pair. -/
def pairScalar (leading trailing : UInt16) : Char :=
  Char.ofNat
    (0x10000 + (leading.toNat - 0xD800) * 0x400 + (trailing.toNat - 0xDC00))

/-- The scalar values of a string, unpaired surrogates replaced. -/
def toScalars : CodeUnits → List Char
  | [] => []
  | [unit] => [unitScalar unit]
  | first :: second :: rest =>
      if isLeading first && isTrailing second then
        pairScalar first second :: toScalars rest
      else
        unitScalar first :: toScalars (second :: rest)

/-- The one or two code units of a scalar value. -/
def ofScalar (scalar : Char) : CodeUnits :=
  if scalar.toNat < 0x10000 then
    [UInt16.ofNat scalar.toNat]
  else
    [UInt16.ofNat (0xD800 + (scalar.toNat - 0x10000) / 0x400),
      UInt16.ofNat (0xDC00 + (scalar.toNat - 0x10000) % 0x400)]

/-- The code units of a sequence of scalar values. -/
def ofScalars (scalars : List Char) : CodeUnits :=
  scalars.flatMap ofScalar

@[simp]
theorem ofScalars_nil : ofScalars [] = [] :=
  rfl

@[simp]
theorem ofScalars_cons (scalar : Char) (scalars : List Char) :
    ofScalars (scalar :: scalars) = ofScalar scalar ++ ofScalars scalars :=
  rfl

theorem toScalars_eq_nil_iff (units : CodeUnits) :
    toScalars units = [] ↔ units = [] := by
  cases units with
  | nil => simp [toScalars]
  | cons first rest =>
      cases rest with
      | nil => simp [toScalars]
      | cons second rest =>
          rw [toScalars]
          split
          · simp
          · simp

/-- No surrogate of the string is unpaired. -/
def isWellFormed : CodeUnits → Bool
  | [] => true
  | [unit] => !isSurrogate unit
  | first :: second :: rest =>
      if isLeading first && isTrailing second then
        isWellFormed rest
      else
        !isSurrogate first && isWellFormed (second :: rest)

/-! ## Ranges -/

theorem scalar_range (scalar : Char) :
    scalar.toNat < 0x110000 ∧
      ¬ (0xD800 ≤ scalar.toNat ∧ scalar.toNat < 0xE000) := by
  have valid := scalar.valid
  simp only [UInt32.isValidChar, Nat.isValidChar] at valid
  change scalar.val.toNat < 0x110000 ∧
    ¬ (0xD800 ≤ scalar.val.toNat ∧ scalar.val.toNat < 0xE000)
  omega

private theorem toNat_ofNat_scalar {value : Nat}
    (valid : value.isValidChar) :
    (Char.ofNat value).toNat = value := by
  rw [Char.ofNat, dif_pos valid]
  rfl

private theorem toNat_ofNat_unit {value : Nat} (small : value < 0x10000) :
    (UInt16.ofNat value).toNat = value := by
  rw [UInt16.toNat_ofNat']
  exact Nat.mod_eq_of_lt small

theorem toScalars_cons_of_not_leading
    (unit : UInt16) (rest : CodeUnits)
    (notLeading : isLeading unit = false) :
    toScalars (unit :: rest) = unitScalar unit :: toScalars rest := by
  cases rest with
  | nil => rfl
  | cons second rest => simp [toScalars, notLeading]

/-! ## Code units survive exactly when the string is well formed -/

theorem isWellFormed_cons_of_not_leading
    (unit : UInt16) (rest : CodeUnits)
    (notLeading : isLeading unit = false) :
    isWellFormed (unit :: rest) =
      (!isSurrogate unit && isWellFormed rest) := by
  cases rest with
  | nil => simp [isWellFormed]
  | cons second rest => simp [isWellFormed, notLeading]

/-- Code units that are no surrogates neither pair nor break a pair. -/
theorem isWellFormed_append_of_plain
    {units rest : CodeUnits}
    (plain : ∀ unit ∈ units, isSurrogate unit = false) :
    isWellFormed (units ++ rest) = isWellFormed rest := by
  induction units with
  | nil => rfl
  | cons unit units induction =>
      have first := plain unit List.mem_cons_self
      have notLeading : isLeading unit = false := by
        simp only [isSurrogate, Bool.or_eq_false_iff] at first
        exact first.1
      rw [List.cons_append, isWellFormed_cons_of_not_leading _ _ notLeading,
        first, Bool.not_false, Bool.true_and]
      exact induction fun other member =>
        plain other (List.mem_cons_of_mem _ member)

theorem isWellFormed_ofScalar_append (scalar : Char) (rest : CodeUnits) :
    isWellFormed (ofScalar scalar ++ rest) = isWellFormed rest := by
  have range := scalar_range scalar
  unfold ofScalar
  split
  · next basic =>
    have plain : isSurrogate (UInt16.ofNat scalar.toNat) = false := by
      rw [Bool.eq_false_iff, ne_eq, isSurrogate_iff, toNat_ofNat_unit basic]
      exact range.2
    have notLeading : isLeading (UInt16.ofNat scalar.toNat) = false := by
      rw [isSurrogate, Bool.or_eq_false_iff] at plain
      exact plain.1
    rw [List.singleton_append,
      isWellFormed_cons_of_not_leading _ _ notLeading, plain]
    simp
  · next supplementary =>
    have leading :
        isLeading
          (UInt16.ofNat (0xD800 + (scalar.toNat - 0x10000) / 0x400)) =
            true := by
      rw [isLeading_iff, toNat_ofNat_unit (by omega)]
      omega
    have trailing :
        isTrailing
          (UInt16.ofNat (0xDC00 + (scalar.toNat - 0x10000) % 0x400)) =
            true := by
      rw [isTrailing_iff, toNat_ofNat_unit (by omega)]
      omega
    simp only [List.cons_append, List.nil_append, isWellFormed, leading,
      trailing, Bool.and_self, if_true]

/-- Scalar values never make an unpaired surrogate. -/
theorem isWellFormed_ofScalars (scalars : List Char) :
    isWellFormed (ofScalars scalars) = true := by
  induction scalars with
  | nil => rfl
  | cons scalar scalars induction =>
      rw [ofScalars_cons, isWellFormed_ofScalar_append, induction]

/-- A unit that is no surrogate is its own scalar value. -/
theorem toNat_unitScalar {unit : UInt16} (plain : isSurrogate unit = false) :
    (unitScalar unit).toNat = unit.toNat := by
  have bound := unit.toNat_lt
  have range : ¬ (0xD800 ≤ unit.toNat ∧ unit.toNat < 0xE000) := by
    rw [← isSurrogate_iff, plain]
    simp
  have valid : unit.toNat.isValidChar := by
    simp only [Nat.isValidChar]
    omega
  rw [unitScalar, plain]
  simp only [Bool.false_eq_true, if_false]
  exact toNat_ofNat_scalar valid

theorem ofScalar_unitScalar
    (unit : UInt16) (plain : isSurrogate unit = false) :
    ofScalar (unitScalar unit) = [unit] := by
  have bound := unit.toNat_lt
  rw [ofScalar, toNat_unitScalar plain, if_pos (by omega), UInt16.ofNat_toNat]

theorem toNat_pairScalar
    {leading trailing : UInt16} (isLead : isLeading leading = true)
    (isTrail : isTrailing trailing = true) :
    (pairScalar leading trailing).toNat =
      0x10000 + (leading.toNat - 0xD800) * 0x400 +
        (trailing.toNat - 0xDC00) := by
  rw [isLeading_iff] at isLead
  rw [isTrailing_iff] at isTrail
  have valid :
      (0x10000 + (leading.toNat - 0xD800) * 0x400 +
        (trailing.toNat - 0xDC00)).isValidChar := by
    simp only [Nat.isValidChar]
    omega
  exact toNat_ofNat_scalar valid

theorem ofScalar_pairScalar
    (leading trailing : UInt16)
    (isLead : isLeading leading = true)
    (isTrail : isTrailing trailing = true) :
    ofScalar (pairScalar leading trailing) = [leading, trailing] := by
  have value := toNat_pairScalar isLead isTrail
  rw [isLeading_iff] at isLead
  rw [isTrailing_iff] at isTrail
  have high :
      0xD800 + ((pairScalar leading trailing).toNat - 0x10000) / 0x400 =
        leading.toNat := by
    omega
  have low :
      0xDC00 + ((pairScalar leading trailing).toNat - 0x10000) % 0x400 =
        trailing.toNat := by
    omega
  rw [ofScalar, if_neg (by omega), high, low, UInt16.ofNat_toNat,
    UInt16.ofNat_toNat]

/-- A well-formed string is recovered from its scalar values. -/
theorem ofScalars_toScalars
    (units : CodeUnits) (wellFormed : isWellFormed units = true) :
    ofScalars (toScalars units) = units := by
  induction units using toScalars.induct with
  | case1 => rfl
  | case2 unit =>
      simp only [isWellFormed, Bool.not_eq_eq_eq_not, Bool.not_true]
        at wellFormed
      simp [toScalars, ofScalar_unitScalar unit wellFormed]
  | case3 first second rest paired induction =>
      simp only [isWellFormed, paired, if_true] at wellFormed
      have both := (Bool.and_eq_true _ _).mp paired
      rw [toScalars, if_pos paired, ofScalars_cons,
        ofScalar_pairScalar first second both.1 both.2,
        induction wellFormed]
      rfl
  | case4 first second rest unpaired induction =>
      simp only [isWellFormed, unpaired, Bool.false_eq_true, if_false,
        Bool.and_eq_true, Bool.not_eq_eq_eq_not, Bool.not_true]
        at wellFormed
      rw [toScalars, if_neg unpaired, ofScalars_cons,
        ofScalar_unitScalar first wellFormed.1, induction wellFormed.2]
      rfl

end Mls4rn.Lib.Utf16
