import Mathlib.Tactic

/-!
# Byte strings, big-endian numbers and slices

The readers of length-prefixed formats keep a position into a fixed byte
string.  Their round trips reduce to two facts about such a position: a slice
taken where a part starts is that part, and a big-endian number is read back
modulo the size of its field.
-/

namespace Mls4rn.Lib.ByteString

/-- A byte string. -/
abbrev Bytes := List UInt8

theorem toNat_ofNat_of_lt {n : Nat} (small : n < 256) :
    (UInt8.ofNat n).toNat = n := by
  rw [UInt8.toNat_ofNat']
  exact Nat.mod_eq_of_lt small

/-- The bytes from position `first` up to, not including, `last`. -/
def slice (bytes : Bytes) (first last : Nat) : Bytes :=
  (bytes.drop first).take (last - first)

/-- A slice that covers exactly one part of a concatenation is that part. -/
theorem slice_append (before part after : Bytes) :
    slice (before ++ (part ++ after)) before.length
        (before.length + part.length) =
      part := by
  simp [slice]

/-- The low `width` bytes of a number, most significant first. -/
def bigEndian : Nat → Nat → Bytes
  | 0, _ => []
  | width + 1, value =>
      UInt8.ofNat (value / 256 ^ width % 256) :: bigEndian width value

@[simp]
theorem length_bigEndian (width value : Nat) :
    (bigEndian width value).length = width := by
  induction width with
  | zero => rfl
  | succ width induction => simp [bigEndian, induction]

/-- The number a big-endian byte string stands for. -/
def ofBigEndian (bytes : Bytes) : Nat :=
  bytes.foldl (fun value byte => value * 256 + byte.toNat) 0

private theorem foldl_bigEndian (width value start : Nat) :
    (bigEndian width value).foldl
        (fun value byte => value * 256 + byte.toNat) start =
      start * 256 ^ width + value % 256 ^ width := by
  induction width generalizing start with
  | zero => simp [bigEndian, Nat.mod_one]
  | succ width induction =>
      have digit : value / 256 ^ width % 256 < 256 := by omega
      rw [bigEndian, List.foldl_cons, induction,
        toNat_ofNat_of_lt digit, pow_succ, Nat.mod_mul]
      ring

/-- A big-endian field holds a number modulo its size. -/
theorem ofBigEndian_bigEndian (width value : Nat) :
    ofBigEndian (bigEndian width value) = value % 256 ^ width := by
  rw [ofBigEndian, foldl_bigEndian]
  simp

private theorem foldl_eq_add_ofBigEndian (bytes : Bytes) (start : Nat) :
    bytes.foldl (fun value byte => value * 256 + byte.toNat) start =
      start * 256 ^ bytes.length + ofBigEndian bytes := by
  induction bytes generalizing start with
  | nil => simp [ofBigEndian]
  | cons byte bytes induction =>
      rw [ofBigEndian, List.foldl_cons, List.foldl_cons, induction,
        induction (0 * 256 + byte.toNat), List.length_cons, pow_succ]
      ring

/-- The first byte is the most significant one. -/
theorem ofBigEndian_cons (byte : UInt8) (bytes : Bytes) :
    ofBigEndian (byte :: bytes) =
      byte.toNat * 256 ^ bytes.length + ofBigEndian bytes := by
  rw [ofBigEndian, List.foldl_cons, foldl_eq_add_ofBigEndian]
  simp

theorem ofBigEndian_lt (bytes : Bytes) :
    ofBigEndian bytes < 256 ^ bytes.length := by
  induction bytes with
  | nil => exact Nat.one_pos
  | cons byte bytes induction =>
      have digit : byte.toNat + 1 ≤ 256 := byte.toNat_lt
      rw [ofBigEndian_cons, List.length_cons, pow_succ]
      calc
        byte.toNat * 256 ^ bytes.length + ofBigEndian bytes <
            (byte.toNat + 1) * 256 ^ bytes.length := by linarith
        _ ≤ 256 * 256 ^ bytes.length := Nat.mul_le_mul_right _ digit
        _ = 256 ^ bytes.length * 256 := Nat.mul_comm _ _

private theorem bigEndian_add_mul (width value factor : Nat) :
    bigEndian width (factor * 256 ^ width + value) =
      bigEndian width value := by
  induction width generalizing factor with
  | zero => rfl
  | succ width induction =>
      have shifted :
          factor * 256 ^ (width + 1) + value =
            factor * 256 * 256 ^ width + value := by
        rw [pow_succ]
        ring
      have positive : 0 < 256 ^ width := by positivity
      rw [bigEndian, bigEndian, shifted, induction, Nat.add_comm,
        Nat.add_mul_div_right _ _ positive, Nat.add_mul_mod_self_right]

/-- A byte string is the big-endian form of its number. -/
theorem bigEndian_ofBigEndian (bytes : Bytes) :
    bigEndian bytes.length (ofBigEndian bytes) = bytes := by
  induction bytes with
  | nil => rfl
  | cons byte bytes induction =>
      have small := ofBigEndian_lt bytes
      have positive : 0 < 256 ^ bytes.length := by positivity
      have first :
          (byte.toNat * 256 ^ bytes.length + ofBigEndian bytes) /
              256 ^ bytes.length % 256 =
            byte.toNat := by
        rw [Nat.add_comm, Nat.add_mul_div_right _ _ positive,
          Nat.div_eq_of_lt small, Nat.zero_add]
        exact Nat.mod_eq_of_lt byte.toNat_lt
      rw [ofBigEndian_cons, List.length_cons, bigEndian, first,
        bigEndian_add_mul, induction, UInt8.ofNat_toNat]

/-- Write a part over a buffer at an offset. -/
def setAt (buffer part : Bytes) (offset : Nat) : Bytes :=
  buffer.take offset ++ part ++ buffer.drop (offset + part.length)

/-- Writing right behind a finished prefix extends it. -/
theorem setAt_append (done part : Bytes) (remaining : Nat) :
    setAt (done ++ List.replicate (part.length + remaining) 0) part
        done.length =
      done ++ part ++ List.replicate remaining 0 := by
  simp [setAt, List.drop_append]

end Mls4rn.Lib.ByteString
