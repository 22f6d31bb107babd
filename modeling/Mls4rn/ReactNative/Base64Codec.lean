import Mathlib.Data.List.DropRight
import Mls4rn.ReactNative.HostStore

/-!
# The base64 codec of the React Native side

React Native has neither `btoa` nor `atob`, so `base64.ts` packs and unpacks
the bits itself.  The encoder agrees with the padded encoding.  The decoder
computes the length of its output with a 32-bit shift; from `2 ^ 29` bytes on
the product overflows and the decoder throws or truncates.  Below that size
either side of the bridge reads what the other one has written.
-/

namespace Mls4rn.ReactNative.Base64Codec

open Mls4rn.Lib
open Mls4rn.Lib.Base64
open Mls4rn.Lib.ByteString
open Mls4rn.Lib.Utf16

/-- `CHARS`. -/
def chars : CodeUnits :=
  literal "ABCDEFGHIJKLMNOPQRSTUVWXYZabcdefghijklmnopqrstuvwxyz0123456789+/"

/-- `CHARS.charAt(index)`. -/
def charAt (index : Nat) : CodeUnits :=
  (chars[index]?).toList

/-- `LOOKUP`; outside the alphabet its entries are zero or undefined. -/
def lookup (unit : UInt16) : Nat :=
  (chars.idxOf? unit).getD 0

/-! ## Encoding -/

/-- `bytesToBase64`. -/
def bytesToBase64 : Bytes → CodeUnits
  | [] => []
  | [a] =>
      let n := a.toNat <<< 16
      charAt (n >>> 18 &&& 63) ++ charAt (n >>> 12 &&& 63) ++
        [padUnit, padUnit]
  | [a, b] =>
      let n := a.toNat <<< 16 ||| b.toNat <<< 8
      charAt (n >>> 18 &&& 63) ++ charAt (n >>> 12 &&& 63) ++
        charAt (n >>> 6 &&& 63) ++ [padUnit]
  | a :: b :: c :: rest =>
      let n := a.toNat <<< 16 ||| b.toNat <<< 8 ||| c.toNat
      charAt (n >>> 18 &&& 63) ++ charAt (n >>> 12 &&& 63) ++
        charAt (n >>> 6 &&& 63) ++ charAt (n &&& 63) ++
          bytesToBase64 rest

/-! ## Decoding -/

/-- A typed array cannot have a negative length. -/
inductive CodecError where
  | rangeError
deriving DecidableEq, Repr

/-- The text in front of the trailing padding characters. -/
def unpadded (text : CodeUnits) : CodeUnits :=
  text.rdropWhile fun unit => decide (unit = padUnit)

/-- The signed 32-bit integer that the bit operators see. -/
def toInt32 (number : Nat) : Int :=
  Int.bmod number 4294967296

/-- `(len * 3) >> 2`. -/
def outputLength (length : Nat) : Int :=
  toInt32 (length * 3) >>> (2 : Nat)

/-- The three bytes of a group of four digits. -/
def groupBytes (a b c d : Nat) : Bytes :=
  let n := a <<< 18 ||| b <<< 12 ||| c <<< 6 ||| d
  [UInt8.ofNat (n >>> 16 &&& 0xFF), UInt8.ofNat (n >>> 8 &&& 0xFF),
    UInt8.ofNat (n &&& 0xFF)]

/-- The loop over groups of four; what is missing in the last one is zero. -/
def decodeGroups : CodeUnits → Bytes
  | [] => []
  | [a] => groupBytes (lookup a) 0 0 0
  | [a, b] => groupBytes (lookup a) (lookup b) 0 0
  | [a, b, c] => groupBytes (lookup a) (lookup b) (lookup c) 0
  | a :: b :: c :: d :: rest =>
      groupBytes (lookup a) (lookup b) (lookup c) (lookup d) ++
        decodeGroups rest

/-- `base64ToBytes`. -/
def base64ToBytes (text : CodeUnits) : Except CodecError Bytes :=
  let length := outputLength (unpadded text).length
  if length < 0 then .error .rangeError
  else .ok ((decodeGroups (unpadded text)).take length.toNat)

/-! ## The alphabet -/

theorem charAt_eq {digit : Nat} (small : digit < 64) :
    charAt digit = [digitUnit digit] := by
  have checked :
      ∀ index : Fin 64, charAt index = [digitUnit index] := by
    decide +kernel
  exact checked ⟨digit, small⟩

theorem lookup_digitUnit {digit : Nat} (small : digit < 64) :
    lookup (digitUnit digit) = digit := by
  have checked :
      ∀ index : Fin 64, lookup (digitUnit index) = index.val := by
    decide +kernel
  exact checked ⟨digit, small⟩

/-! ## Packing bits -/

theorem and_mask (n width : Nat) :
    n &&& (2 ^ width - 1) = n % 2 ^ width :=
  Nat.and_two_pow_sub_one_eq_mod n width

theorem or_shift {low : Nat} (high width : Nat) (small : low < 2 ^ width) :
    high <<< width ||| low = high * 2 ^ width + low := by
  rw [← Nat.shiftLeft_add_eq_or_of_lt small, Nat.shiftLeft_eq]

theorem pack_bytes
    {b c : Nat} (a : Nat) (smallB : b < 256) (smallC : c < 256) :
    a <<< 16 ||| b <<< 8 ||| c = a * 65536 + b * 256 + c := by
  have inner : b <<< 8 ||| c = b * 256 + c := or_shift b 8 smallC
  rw [Nat.or_assoc, inner, or_shift a 16 (by omega)]
  omega

theorem pack_digits
    {b c d : Nat} (a : Nat)
    (smallB : b < 64) (smallC : c < 64) (smallD : d < 64) :
    a <<< 18 ||| b <<< 12 ||| c <<< 6 ||| d =
      a * 262144 + b * 4096 + c * 64 + d := by
  have last : c <<< 6 ||| d = c * 64 + d := or_shift c 6 smallD
  have middle :
      b <<< 12 ||| (c * 64 + d) = b * 4096 + (c * 64 + d) :=
    or_shift b 12 (by omega)
  rw [Nat.or_assoc, Nat.or_assoc, last, middle, or_shift a 18 (by omega)]
  omega

theorem sextet (n shift : Nat) :
    n >>> shift &&& 63 = n / 2 ^ shift % 64 := by
  rw [Nat.shiftRight_eq_div_pow]
  exact and_mask _ 6

theorem groupBytes_eq
    {a b c d : Nat} (smallB : b < 64) (smallC : c < 64) (smallD : d < 64) :
    groupBytes a b c d =
      [UInt8.ofNat ((a * 4 + b / 16) % 256),
        UInt8.ofNat (b % 16 * 16 + c / 4),
        UInt8.ofNat (c % 4 * 64 + d)] := by
  have low : ∀ n, n &&& 0xFF = n % 256 := fun n => and_mask n 8
  have first :
      (a * 262144 + b * 4096 + c * 64 + d) / 2 ^ 16 % 256 =
        (a * 4 + b / 16) % 256 := by
    omega
  have second :
      (a * 262144 + b * 4096 + c * 64 + d) / 2 ^ 8 % 256 =
        b % 16 * 16 + c / 4 := by
    omega
  have third :
      (a * 262144 + b * 4096 + c * 64 + d) % 256 = c % 4 * 64 + d := by
    omega
  simp only [groupBytes, pack_digits a smallB smallC smallD,
    Nat.shiftRight_eq_div_pow, low, first, second, third]

/-! ## The encoder -/

theorem charAt_sextet (n shift : Nat) :
    charAt (n >>> shift &&& 63) = [digitUnit (n / 2 ^ shift % 64)] := by
  rw [sextet, charAt_eq (Nat.mod_lt _ (by decide))]

/-- The encoder writes the padded encoding. -/
theorem bytesToBase64_eq (bytes : Bytes) :
    bytesToBase64 bytes = Base64.encode bytes := by
  induction bytes using bytesToBase64.induct with
  | case1 => rfl
  | case2 a =>
      have bound := a.toNat_lt
      have first : a.toNat * 2 ^ 16 / 2 ^ 18 % 64 = a.toNat / 4 := by
        omega
      have second :
          a.toNat * 2 ^ 16 / 2 ^ 12 % 64 = a.toNat % 4 * 16 := by
        omega
      simp only [bytesToBase64, charAt_sextet, Nat.shiftLeft_eq, first,
        second, encode, encodeDigits, padCount]
      rfl
  | case3 a b =>
      have boundA := a.toNat_lt
      have boundB := b.toNat_lt
      have packed :=
        pack_bytes a.toNat boundB (by decide : 0 < 256)
      rw [Nat.or_zero] at packed
      have first :
          (a.toNat * 65536 + b.toNat * 256 + 0) / 2 ^ 18 % 64 =
            a.toNat / 4 := by
        omega
      have second :
          (a.toNat * 65536 + b.toNat * 256 + 0) / 2 ^ 12 % 64 =
            a.toNat % 4 * 16 + b.toNat / 16 := by
        omega
      have third :
          (a.toNat * 65536 + b.toNat * 256 + 0) / 2 ^ 6 % 64 =
            b.toNat % 16 * 4 := by
        omega
      simp only [bytesToBase64, packed, charAt_sextet, first, second,
        third, encode, encodeDigits, padCount]
      rfl
  | case4 a b c rest induction =>
      have boundA := a.toNat_lt
      have boundB := b.toNat_lt
      have boundC := c.toNat_lt
      have packed := pack_bytes a.toNat boundB boundC
      have first :
          (a.toNat * 65536 + b.toNat * 256 + c.toNat) / 2 ^ 18 % 64 =
            a.toNat / 4 := by
        omega
      have second :
          (a.toNat * 65536 + b.toNat * 256 + c.toNat) / 2 ^ 12 % 64 =
            a.toNat % 4 * 16 + b.toNat / 16 := by
        omega
      have third :
          (a.toNat * 65536 + b.toNat * 256 + c.toNat) / 2 ^ 6 % 64 =
            b.toNat % 16 * 4 + c.toNat / 64 := by
        omega
      have last :
          charAt (a.toNat * 65536 + b.toNat * 256 + c.toNat &&& 63) =
            [digitUnit (c.toNat % 64)] := by
        have low :
            (a.toNat * 65536 + b.toNat * 256 + c.toNat) % 64 =
              c.toNat % 64 := by
          omega
        have mask :
            a.toNat * 65536 + b.toNat * 256 + c.toNat &&& 63 =
              (a.toNat * 65536 + b.toNat * 256 + c.toNat) % 64 :=
          and_mask _ 6
        rw [mask, low, charAt_eq (Nat.mod_lt _ (by decide))]
      have padding :
          padCount (a :: b :: c :: rest) = padCount rest := by
        simp only [padCount, List.length_cons]
        omega
      simp only [bytesToBase64, packed, charAt_sextet, first, second,
        third, last, induction, encode, encodeDigits, padding]
      rfl

/-! ## The decoder -/

theorem unpadded_encode (bytes : Bytes) :
    unpadded (Base64.encode bytes) = (encodeDigits bytes).map digitUnit := by
  have plain :
      ∀ unit ∈ (encodeDigits bytes).map digitUnit, unit ≠ padUnit := by
    intro unit member
    rcases List.mem_map.mp member with ⟨digit, digitMember, rfl⟩
    exact (digitUnit_plain (encodeDigits_lt bytes digit digitMember)).1
  have padding (count : Nat) (text : CodeUnits) :
      unpadded (text ++ List.replicate count padUnit) = unpadded text := by
    induction count with
    | zero => simp
    | succ count induction =>
        rw [List.replicate_succ', ← List.append_assoc, unpadded,
          List.rdropWhile_concat_pos _ _ _ (by simp)]
        exact induction
  rw [Base64.encode, padding, unpadded, List.rdropWhile_eq_self_iff]
  intro nonempty
  simpa using plain _ (List.getLast_mem nonempty)

/-- The groups begin with the encoded bytes. -/
theorem decodeGroups_encodeDigits (bytes : Bytes) :
    ∃ rest,
      decodeGroups ((encodeDigits bytes).map digitUnit) = bytes ++ rest := by
  induction bytes using encodeDigits.induct with
  | case1 => exact ⟨[], rfl⟩
  | case2 a =>
      have bound := a.toNat_lt
      have value : (a.toNat / 4 * 4 + a.toNat % 4 * 16 / 16) % 256 =
          a.toNat := by
        omega
      simp only [encodeDigits, List.map_cons, List.map_nil, decodeGroups]
      rw [lookup_digitUnit (by omega), lookup_digitUnit (by omega),
        groupBytes_eq (by omega) (by decide) (by decide), value,
        UInt8.ofNat_toNat]
      exact ⟨_, rfl⟩
  | case3 a b =>
      have boundA := a.toNat_lt
      have boundB := b.toNat_lt
      have first :
          (a.toNat / 4 * 4 + (a.toNat % 4 * 16 + b.toNat / 16) / 16) %
              256 = a.toNat := by
        omega
      have second :
          (a.toNat % 4 * 16 + b.toNat / 16) % 16 * 16 +
              b.toNat % 16 * 4 / 4 = b.toNat := by
        omega
      simp only [encodeDigits, List.map_cons, List.map_nil, decodeGroups]
      rw [lookup_digitUnit (by omega), lookup_digitUnit (by omega),
        lookup_digitUnit (by omega),
        groupBytes_eq (by omega) (by omega) (by decide), first, second,
        UInt8.ofNat_toNat, UInt8.ofNat_toNat]
      exact ⟨_, rfl⟩
  | case4 a b c tail induction =>
      have boundA := a.toNat_lt
      have boundB := b.toNat_lt
      have boundC := c.toNat_lt
      have first :
          (a.toNat / 4 * 4 + (a.toNat % 4 * 16 + b.toNat / 16) / 16) %
              256 = a.toNat := by
        omega
      have second :
          (a.toNat % 4 * 16 + b.toNat / 16) % 16 * 16 +
              (b.toNat % 16 * 4 + c.toNat / 64) / 4 = b.toNat := by
        omega
      have third :
          (b.toNat % 16 * 4 + c.toNat / 64) % 4 * 64 + c.toNat % 64 =
            c.toNat := by
        omega
      rcases induction with ⟨rest, tailGroups⟩
      refine ⟨rest, ?_⟩
      simp only [encodeDigits, List.map_cons, decodeGroups, tailGroups]
      rw [lookup_digitUnit (by omega), lookup_digitUnit (by omega),
        lookup_digitUnit (by omega), lookup_digitUnit (by omega),
        groupBytes_eq (by omega) (by omega) (by omega), first, second,
        third, UInt8.ofNat_toNat, UInt8.ofNat_toNat, UInt8.ofNat_toNat]
      rfl

theorem toInt32_of_lt {number : Nat} (small : number < 2 ^ 31) :
    toInt32 number = number := by
  apply Int.bmod_eq_of_le
  · omega
  · omega

theorem toInt32_lt (number : Nat) : toInt32 number < 2 ^ 31 := by
  have bound : Int.bmod number 4294967296 < (4294967296 + 1) / 2 :=
    Int.bmod_lt (by decide)
  unfold toInt32
  omega

theorem outputLength_eq (length : Nat) :
    outputLength length = toInt32 (length * 3) / 4 := by
  rw [outputLength, Int.shiftRight_eq_div_pow]
  norm_num

/-- The shifted product is the number of bytes as long as it fits. -/
theorem outputLength_of_lt {length : Nat} (small : length * 3 < 2 ^ 31) :
    outputLength length = (length * 3 / 4 : Nat) := by
  rw [outputLength_eq, toInt32_of_lt small]
  omega

theorem outputLength_lt (length : Nat) : outputLength length < 2 ^ 29 := by
  have bound := toInt32_lt (length * 3)
  rw [outputLength_eq]
  omega

/-- The decoder undoes the encoding of exactly the shorter byte strings. -/
theorem base64ToBytes_encode_iff (bytes : Bytes) :
    base64ToBytes (Base64.encode bytes) = .ok bytes ↔
      bytes.length < 2 ^ 29 := by
  have digits :
      ((encodeDigits bytes).map digitUnit).length =
        (4 * bytes.length + 2) / 3 := by
    rw [List.length_map, length_encodeDigits]
  rcases decodeGroups_encodeDigits bytes with ⟨rest, groups⟩
  rw [base64ToBytes, unpadded_encode, groups, digits]
  constructor
  · intro decoded
    have short := outputLength_lt ((4 * bytes.length + 2) / 3)
    split at decoded
    · cases decoded
    · have taken := congrArg List.length (Except.ok.inj decoded)
      rw [List.length_take, List.length_append] at taken
      omega
  · intro small
    have exact_ :=
      outputLength_of_lt (by omega : (4 * bytes.length + 2) / 3 * 3 < 2 ^ 31)
    have count : (4 * bytes.length + 2) / 3 * 3 / 4 = bytes.length := by
      omega
    rw [exact_, count, if_neg (by omega), Int.toNat_natCast, List.take_left]

/-! ## The two sides of the bridge -/

/--
While three times the length of a text stays below `2 ^ 31`, both encoders
write the padded encoding and both decoders undo it.
-/
theorem codecs_agree
    (bytes : Bytes) (short : (bytesToBase64 bytes).length * 3 < 2 ^ 31) :
    HostStore.bytesToBase64 bytes = .ok (bytesToBase64 bytes) ∧
      bytesToBase64 bytes = Base64.encode bytes ∧
        base64ToBytes (bytesToBase64 bytes) = .ok bytes ∧
          HostStore.base64ToBytes (bytesToBase64 bytes) = .ok bytes := by
  rw [bytesToBase64_eq] at short ⊢
  have digits :
      (4 * bytes.length + 2) / 3 ≤ (Base64.encode bytes).length := by
    rw [Base64.encode, List.length_append, List.length_map,
      length_encodeDigits]
    exact Nat.le_add_right _ _
  refine ⟨HostStore.bytesToBase64_eq bytes, rfl, ?_,
    HostStore.base64ToBytes_encode bytes⟩
  apply (base64ToBytes_encode_iff bytes).mpr
  omega

/-- Seven bytes, with a remainder of one. -/
theorem codecs_agree_seven :
    base64ToBytes (bytesToBase64 [0, 1, 2, 250, 251, 252, 255]) =
        .ok [0, 1, 2, 250, 251, 252, 255] ∧
      HostStore.bytesToBase64 [0, 1, 2, 250, 251, 252, 255] =
        .ok (literal "AAEC+vv8/w==") := by
  have agree :=
    codecs_agree [0, 1, 2, 250, 251, 252, 255] (by decide)
  have text :
      bytesToBase64 [0, 1, 2, 250, 251, 252, 255] =
        literal "AAEC+vv8/w==" := by
    decide
  exact ⟨agree.2.2.1, by rw [agree.1, text]⟩

end Mls4rn.ReactNative.Base64Codec
