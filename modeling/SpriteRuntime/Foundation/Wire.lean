import Mathlib.Data.Rat.Defs
import Mathlib.Algebra.Field.Rat

/-!
# Numbers in a byte message

Little-endian unsigned fields, two's-complement 64-bit integers and binary64
numbers, each read from the bytes of a message.
-/

namespace Foundation

/-- The natural number with the given bytes, least significant first. -/
def littleEndian : List UInt8 → ℕ
  | [] => 0
  | byte :: bytes => byte.toNat + 256 * littleEndian bytes

/-- The unsigned field of `width` bytes at `offset`. -/
def unsignedField (message : List UInt8) (offset width : ℕ) : ℕ :=
  littleEndian ((message.drop offset).take width)

/-- The value that 64-bit two's-complement arithmetic leaves of an integer. -/
def wrap64 (value : ℤ) : ℤ := value.bmod (2 ^ 64)

/-- The signed 64-bit field at `offset`. -/
def signedField (message : List UInt8) (offset : ℕ) : ℤ :=
  wrap64 (unsignedField message offset 8)

/-- The signed 16-bit field at `offset`. -/
def signed16Field (message : List UInt8) (offset : ℕ) : ℤ :=
  (unsignedField message offset 2 : ℤ).bmod (2 ^ 16)

theorem wrap64_eq_self {value : ℤ} (lower : -2 ^ 63 ≤ value)
    (upper : value < 2 ^ 63) : wrap64 value = value := by
  apply Int.bmod_eq_of_le <;> omega

theorem wrap64_mem (value : ℤ) : -2 ^ 63 ≤ wrap64 value ∧ wrap64 value < 2 ^ 63 := by
  have lower := Int.le_bmod (x := value) (m := 2 ^ 64) (by decide)
  have upper := Int.bmod_lt (x := value) (m := 2 ^ 64) (by decide)
  unfold wrap64
  omega

/-- A difference of 64-bit numbers that looks small is the true difference, as long
as the left one is not near the end of the range. -/
theorem wrap64_sub_eq {left right : ℤ} (nonneg : 0 ≤ left) (early : left < 2 ^ 62)
    (lower : -2 ^ 63 ≤ right) (upper : right < 2 ^ 63)
    (small : -2 ^ 62 ≤ wrap64 (left - right)) :
    wrap64 (left - right) = left - right := by
  by_cases inside : left - right < 2 ^ 63
  · apply wrap64_eq_self
    · omega
    · exact inside
  · exfalso
    have wrapped : wrap64 (left - right) = wrap64 (left - right - 2 ^ 64) :=
      (Int.sub_bmod_right (left - right) (2 ^ 64)).symm
    rw [wrapped, wrap64_eq_self (by omega) (by omega)] at small
    omega

/-- A binary64 number: the rational that a finite one stands for, with the
infinities and the NaNs in one class. -/
inductive Double where
  | finite (value : ℚ)
  | nonfinite
  deriving DecidableEq

namespace Double

/-- `std::isfinite`. -/
def isFinite : Double → Bool
  | finite _ => true
  | nonfinite => false

/-- The number itself, with `0` standing in where there is none. -/
def value : Double → ℚ
  | finite number => number
  | nonfinite => 0

theorem eq_finite {number : Double} (isFinite : number.isFinite = true) :
    number = finite number.value := by
  cases number with
  | finite value => rfl
  | nonfinite => cases isFinite

/-- The number with the given bit pattern. -/
def ofBits (bits : ℕ) : Double :=
  let exponent : ℕ := bits / 2 ^ 52 % 2 ^ 11
  let fraction : ℕ := bits % 2 ^ 52
  let sign : ℚ := if bits / 2 ^ 63 % 2 = 1 then -1 else 1
  if exponent = 2047 then nonfinite
  else if exponent = 0 then finite (sign * fraction / 2 ^ 1074)
  else finite (sign * (2 ^ 52 + fraction) * 2 ^ exponent / 2 ^ 1075)

example : ofBits 0x3FF8000000000000 = finite (3 / 2) := by decide +kernel

end Double

/-- The binary64 field at `offset`. -/
def doubleField (message : List UInt8) (offset : ℕ) : Double :=
  .ofBits (unsignedField message offset 8)

end Foundation
