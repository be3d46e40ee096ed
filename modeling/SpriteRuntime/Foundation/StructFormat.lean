import Mathlib.Tactic.NormNum
import SpriteRuntime.Foundation.Program
import SpriteRuntime.Foundation.Words

/-!
# Struct formats

Little-endian struct formats without padding: a format is a list of fields, and values are
packed one after the other.  Packing and unpacking are inverse to each other.
-/

namespace Foundation

/-- The format characters `4s`, `H` and `Q`, `q`, and `d`. -/
inductive StructField where
  | bytes (count : ℕ)
  | unsigned (width : ℕ)
  | signed64
  | binary64
  deriving DecidableEq

/-- A value to pack; a double is given by its bits. -/
inductive StructValue where
  | bytes (content : List UInt8)
  | integer (value : ℤ)
  | number (bits : UInt64)
  deriving DecidableEq

namespace StructField

def width : StructField → ℕ
  | bytes count => count
  | unsigned width => width
  | signed64 => 8
  | binary64 => 8

/-- Integers are checked against the range of the field, and bytes cut or padded to its
width. -/
def pack : StructField → StructValue → Except String (List UInt8)
  | bytes count, .bytes content => .ok ((content ++ List.replicate count 0).take count)
  | unsigned width, .integer value =>
      if 0 ≤ value ∧ value < 256 ^ width then .ok (bytesOf width value.toNat)
      else .error "argument out of range"
  | signed64, .integer value =>
      if -2 ^ 63 ≤ value ∧ value < 2 ^ 63 then .ok (bytesOf 8 (value % 2 ^ 64).toNat)
      else .error "argument out of range"
  | binary64, .number bits => .ok (wordBytes bits)
  | _, _ => .error "required argument is not of the type of the field"

def unpack : StructField → List UInt8 → StructValue
  | bytes _, content => .bytes content
  | unsigned _, content => .integer (littleEndian content)
  | signed64, content => .integer (wrap64 (littleEndian content))
  | binary64, content => .number (UInt64.ofNat (littleEndian content))

/-- Bytes that fill their field, and anything else. -/
def Fits : StructField → StructValue → Prop
  | bytes count, .bytes content => content.length = count
  | _, _ => True

variable {field : StructField} {value : StructValue} {packed content : List UInt8}

theorem length_pack (accepted : field.pack value = .ok packed) : packed.length = field.width := by
  unfold pack at accepted
  split at accepted
  · obtain rfl := Except.ok.inj accepted
    simp [width]
  · split at accepted
    · obtain rfl := Except.ok.inj accepted
      simp [width]
    · cases accepted
  · split at accepted
    · obtain rfl := Except.ok.inj accepted
      simp [width]
    · cases accepted
  · obtain rfl := Except.ok.inj accepted
    simp [width]
  · cases accepted

theorem wrap64_toNat_emod {value : ℤ} (lower : -2 ^ 63 ≤ value) (upper : value < 2 ^ 63) :
    wrap64 ((value % 2 ^ 64).toNat : ℤ) = value := by
  have nonneg : 0 ≤ value % 2 ^ 64 := Int.emod_nonneg _ (by decide)
  have modulus : (2 ^ 64 : ℤ) = ((2 ^ 64 : ℕ) : ℤ) := by norm_num
  rw [Int.toNat_of_nonneg nonneg, wrap64, modulus, Int.emod_bmod]
  exact wrap64_eq_self lower upper

theorem unpack_pack (accepted : field.pack value = .ok packed) (fits : field.Fits value) :
    field.unpack packed = value := by
  unfold pack at accepted
  split at accepted
  next count content =>
      obtain rfl := Except.ok.inj accepted
      rw [unpack, List.take_left' fits]
  next width value =>
      split at accepted
      next range =>
          obtain rfl := Except.ok.inj accepted
          have bounded : value.toNat < 256 ^ width :=
            (Int.toNat_lt range.1).mpr (by exact_mod_cast range.2)
          rw [unpack, littleEndian_bytesOf, Nat.mod_eq_of_lt bounded,
            Int.toNat_of_nonneg range.1]
      · cases accepted
  next value =>
      split at accepted
      next range =>
          obtain rfl := Except.ok.inj accepted
          have bounded : (value % 2 ^ 64).toNat < 256 ^ 8 := by
            have upper : value % 2 ^ 64 < 2 ^ 64 := Int.emod_lt_of_pos _ (by decide)
            omega
          rw [unpack, littleEndian_bytesOf, Nat.mod_eq_of_lt bounded,
            wrap64_toNat_emod range.1 range.2]
      · cases accepted
  next bits =>
      obtain rfl := Except.ok.inj accepted
      rw [unpack, ofNat_littleEndian_wordBytes]
  · cases accepted

theorem pack_unpack (length : content.length = field.width) :
    field.pack (field.unpack content) = .ok content := by
  have bounded := littleEndian_lt content
  have bytes := bytesOf_littleEndian content
  cases field with
  | bytes count =>
      obtain rfl : content.length = count := length
      rw [unpack, pack, List.take_left]
  | unsigned count =>
      obtain rfl : content.length = count := length
      rw [unpack, pack, if_pos ⟨Int.natCast_nonneg _, by exact_mod_cast bounded⟩,
        Int.toNat_natCast, bytes]
  | signed64 =>
      have eight : content.length = 8 := length
      rw [eight] at bounded bytes
      have modulus : (2 ^ 64 : ℤ) = ((2 ^ 64 : ℕ) : ℤ) := by norm_num
      have same : (wrap64 (littleEndian content) % 2 ^ 64).toNat = littleEndian content := by
        rw [wrap64, modulus, Int.bmod_emod]
        omega
      rw [unpack, pack, if_pos (wrap64_mem _), same, bytes]
  | binary64 => rw [unpack, pack, wordBytes_ofNat_littleEndian length]

theorem fits_unpack (length : content.length = field.width) : field.Fits (field.unpack content) := by
  cases field with
  | bytes count => exact length
  | unsigned width => trivial
  | signed64 => trivial
  | binary64 => trivial

end StructField

/-! ## Formats -/

/-- `calcsize`. -/
def structSize (format : List StructField) : ℕ := (format.map StructField.width).sum

def packStruct : List StructField → List StructValue → Except String (List UInt8)
  | [], [] => .ok []
  | field :: format, value :: values => do
      let first ← field.pack value
      let rest ← packStruct format values
      return first ++ rest
  | _, _ => .error "pack expected another number of items for packing"

def unpackFields : List StructField → List UInt8 → List StructValue
  | [], _ => []
  | field :: format, buffer =>
      field.unpack (buffer.take field.width) :: unpackFields format (buffer.drop field.width)

def unpackStruct (format : List StructField) (buffer : List UInt8) :
    Except String (List StructValue) :=
  if buffer.length ≠ structSize format then
    .error ("unpack requires a buffer of " ++ toString (structSize format) ++ " bytes")
  else .ok (unpackFields format buffer)

section Formats

variable {format : List StructField} {values : List StructValue} {buffer : List UInt8}

theorem length_packStruct (accepted : packStruct format values = .ok buffer) :
    buffer.length = structSize format := by
  induction format generalizing values buffer with
  | nil =>
      cases values with
      | nil =>
          obtain rfl := Except.ok.inj accepted
          rfl
      | cons value values => cases accepted
  | cons field format induction =>
      cases values with
      | nil => cases accepted
      | cons value values =>
          obtain ⟨first, packed, others⟩ := except_bind_eq_ok.mp accepted
          obtain ⟨rest, remaining, made⟩ := except_bind_eq_ok.mp others
          obtain rfl := Except.ok.inj made
          rw [List.length_append, StructField.length_pack packed, induction remaining,
            structSize, structSize, List.map_cons, List.sum_cons]

/-- Values that fit their fields are read back. -/
theorem unpackFields_of_packStruct (accepted : packStruct format values = .ok buffer)
    (fits : List.Forall₂ StructField.Fits format values) :
    unpackFields format buffer = values := by
  induction fits generalizing buffer with
  | nil => rfl
  | @cons field value format values fitting _ induction =>
      obtain ⟨first, packed, others⟩ := except_bind_eq_ok.mp accepted
      obtain ⟨rest, remaining, made⟩ := except_bind_eq_ok.mp others
      obtain rfl := Except.ok.inj made
      have length := StructField.length_pack packed
      rw [unpackFields, List.take_left' length, List.drop_left' length,
        StructField.unpack_pack packed fitting, induction remaining]

/-- A buffer of the right size is packed from what is read of it. -/
theorem packStruct_unpackFields (length : buffer.length = structSize format) :
    packStruct format (unpackFields format buffer) = .ok buffer := by
  induction format generalizing buffer with
  | nil =>
      obtain rfl : buffer = [] := List.eq_nil_of_length_eq_zero length
      rfl
  | cons field format induction =>
      rw [structSize, List.map_cons, List.sum_cons] at length
      have first : (buffer.take field.width).length = field.width := by
        rw [List.length_take]
        omega
      have rest : (buffer.drop field.width).length = structSize format := by
        rw [List.length_drop, structSize]
        omega
      rw [unpackFields, packStruct, StructField.pack_unpack first, induction rest]
      exact congrArg Except.ok (List.take_append_drop _ _)

/-- Values that fit are packed into the one buffer that they are read from. -/
theorem packStruct_eq_ok_iff (fits : List.Forall₂ StructField.Fits format values) :
    packStruct format values = .ok buffer ↔
      buffer.length = structSize format ∧ unpackFields format buffer = values := by
  constructor
  · intro accepted
    exact ⟨length_packStruct accepted, unpackFields_of_packStruct accepted fits⟩
  · rintro ⟨length, rfl⟩
    exact packStruct_unpackFields length

theorem unpackFields_append (front back : List StructField) (buffer : List UInt8) :
    unpackFields (front ++ back) buffer =
      unpackFields front buffer ++ unpackFields back (buffer.drop (structSize front)) := by
  induction front generalizing buffer with
  | nil => rfl
  | cons field front induction =>
      rw [List.cons_append, unpackFields, induction, unpackFields, List.cons_append,
        List.drop_drop, structSize, structSize, List.map_cons, List.sum_cons]

end Formats

/-- An array of doubles. -/
theorem packStruct_binary64 (numbers : List UInt64) :
    packStruct (List.replicate numbers.length .binary64) (numbers.map .number) =
      .ok (wordsBytes numbers) := by
  induction numbers with
  | nil => rfl
  | cons number numbers induction =>
      rw [List.length_cons, List.replicate_succ, List.map_cons, packStruct, StructField.pack,
        induction]
      rfl

theorem fits_binary64 (numbers : List UInt64) :
    List.Forall₂ StructField.Fits (List.replicate numbers.length .binary64)
      (numbers.map .number) := by
  induction numbers with
  | nil => exact .nil
  | cons number numbers induction => exact .cons trivial induction

theorem unpackFields_binary64 {count : ℕ} {buffer : List UInt8}
    (length : buffer.length = 8 * count) :
    unpackFields (List.replicate count .binary64) buffer =
      (wordsFrom buffer 0 count).map .number := by
  have packed := packStruct_binary64 (wordsFrom buffer 0 count)
  have fits := fits_binary64 (wordsFrom buffer 0 count)
  rw [length_wordsFrom] at packed fits
  rw [wordsBytes_wordsFrom (by rw [length, zero_add]), List.drop_zero] at packed
  exact unpackFields_of_packStruct packed fits

end Foundation
