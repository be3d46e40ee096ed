import Mathlib.Algebra.Order.Floor.Semiring
import Mathlib.Algebra.Order.Field.Basic
import Mathlib.Tactic.FieldSimp
import Mathlib.Tactic.Linarith
import Mathlib.Tactic.Positivity
import Mathlib.Tactic.Ring
import SpriteRuntime.Foundation.Numerals

/-!
# Uniform quantizers

A value of the interval `[low, high]` is sent as the number of whole steps
above `low`, and read back as the lower edge of its step.  The reading is
therefore below the value, and less than one step below it.
-/

namespace Foundation

variable {K : Type*} [Field K] [LinearOrder K] [IsStrictOrderedRing K]

/-- The value that a step number stands for. -/
def dequantize (low high : K) (levels code : ℕ) : K :=
  code * (high - low) / levels + low

theorem le_dequantize {low high : K} {levels : ℕ} (ordered : low ≤ high)
    (code : ℕ) : low ≤ dequantize low high levels code := by
  have width : 0 ≤ high - low := sub_nonneg.mpr ordered
  have step : 0 ≤ (code : K) * (high - low) / levels := by positivity
  unfold dequantize
  linarith

theorem dequantize_le {low high : K} {levels code : ℕ} (ordered : low ≤ high)
    (bounded : code ≤ levels) : dequantize low high levels code ≤ high := by
  have width : 0 ≤ high - low := sub_nonneg.mpr ordered
  have fraction : (code : K) * (high - low) / levels ≤ high - low := by
    rcases Nat.eq_zero_or_pos levels with none | some
    · simp [none, width]
    · have positive : (0 : K) < levels := by exact_mod_cast some
      rw [div_le_iff₀ positive, mul_comm]
      exact mul_le_mul_of_nonneg_left (by exact_mod_cast bounded) width
  unfold dequantize
  linarith

variable [FloorSemiring K]

/-- The number of whole steps of `[low, high]` below the value. -/
def quantize (low high : K) (levels : ℕ) (value : K) : ℕ :=
  ⌊(value - low) / (high - low) * levels⌋₊

theorem quantize_le {low high value : K} {levels : ℕ} (ordered : low < high)
    (upper : value ≤ high) : quantize low high levels value ≤ levels := by
  have width : 0 < high - low := sub_pos.mpr ordered
  have fraction : (value - low) / (high - low) ≤ 1 := by
    rw [div_le_one width]
    linarith
  refine Nat.floor_le_of_le ?_
  have scaled := mul_le_mul_of_nonneg_right fraction (Nat.cast_nonneg (α := K) levels)
  simpa using scaled

theorem dequantize_levels {low high : K} {levels : ℕ} (some : 0 < levels) :
    dequantize low high levels levels = high := by
  have count : (levels : K) ≠ 0 := by exact_mod_cast some.ne'
  unfold dequantize
  field_simp
  ring

/-- A value reaches a step number exactly if it reaches the value that the number stands for. -/
theorem le_quantize_iff {low high value : K} {levels code : ℕ} (some : 0 < levels)
    (ordered : low < high) (lower : low ≤ value) :
    code ≤ quantize low high levels value ↔ dequantize low high levels code ≤ value := by
  have width : 0 < high - low := sub_pos.mpr ordered
  have count : (0 : K) < levels := by exact_mod_cast some
  have inside : 0 ≤ (value - low) / (high - low) * levels :=
    mul_nonneg (div_nonneg (sub_nonneg.mpr lower) width.le) count.le
  rw [quantize, Nat.le_floor_iff inside, div_mul_eq_mul_div, le_div_iff₀ width, dequantize,
    ← le_sub_iff_add_le, div_le_iff₀ count]

/-- A step number is read back from the value that it stands for. -/
theorem quantize_dequantize {low high : K} {levels : ℕ} (some : 0 < levels)
    (ordered : low < high) (code : ℕ) :
    quantize low high levels (dequantize low high levels code) = code := by
  have width : high - low ≠ 0 := (sub_pos.mpr ordered).ne'
  have count : (levels : K) ≠ 0 := by exact_mod_cast some.ne'
  have exact : (dequantize low high levels code - low) / (high - low) * levels = code := by
    unfold dequantize
    field_simp
    ring
  rw [quantize, exact, Nat.floor_natCast]

/-- Only the upper end of the range has the last step number. -/
theorem quantize_eq_levels_iff {low high value : K} {levels : ℕ} (some : 0 < levels)
    (ordered : low < high) (inside : low ≤ value ∧ value ≤ high) :
    quantize low high levels value = levels ↔ value = high := by
  have reached : levels ≤ quantize low high levels value ↔ _ :=
    le_quantize_iff some ordered inside.1
  rw [dequantize_levels some] at reached
  have below : quantize low high levels value ≤ levels := quantize_le ordered inside.2
  constructor
  · intro last
    exact le_antisymm inside.2 (reached.mp last.ge)
  · intro last
    exact le_antisymm below (reached.mpr last.ge)

/-- The upper end of the range is read back as it is. -/
theorem dequantize_quantize_high {low high : K} {levels : ℕ} (some : 0 < levels)
    (ordered : low < high) :
    dequantize low high levels (quantize low high levels high) = high := by
  have last : quantize low high levels high = levels :=
    (quantize_eq_levels_iff some ordered ⟨ordered.le, le_rfl⟩).mpr rfl
  rw [last, dequantize_levels some]

section RoundTrip

variable {low high value : K} {levels : ℕ}

private theorem dequantize_quantize (value : K) (some : 0 < levels)
    (ordered : low < high) :
    dequantize low high levels (quantize low high levels value) - value =
      ((quantize low high levels value : K) -
        (value - low) / (high - low) * levels) * ((high - low) / levels) := by
  have width : high - low ≠ 0 := (sub_pos.mpr ordered).ne'
  have count : (levels : K) ≠ 0 := by exact_mod_cast some.ne'
  unfold dequantize
  field_simp
  ring

/-- What is left of a value above the lower edge of its step. -/
def stepRemainder (low high : K) (levels : ℕ) (value : K) : K :=
  ((value - low) / (high - low) * levels - ⌊(value - low) / (high - low) * levels⌋₊) *
    ((high - low) / levels)

theorem dequantize_quantize_eq (value : K) (some : 0 < levels) (ordered : low < high) :
    dequantize low high levels (quantize low high levels value) =
      value - stepRemainder low high levels value := by
  have difference := dequantize_quantize value some ordered
  have remainder : stepRemainder low high levels value =
      -(((quantize low high levels value : K) -
        (value - low) / (high - low) * levels) * ((high - low) / levels)) := by
    rw [stepRemainder, ← neg_mul, neg_sub]
    rfl
  rw [remainder, ← difference]
  ring

theorem dequantize_quantize_le (some : 0 < levels) (ordered : low < high)
    (lower : low ≤ value) :
    dequantize low high levels (quantize low high levels value) ≤ value := by
  have width : 0 < high - low := sub_pos.mpr ordered
  have inside : 0 ≤ (value - low) / (high - low) * levels :=
    mul_nonneg (div_nonneg (sub_nonneg.mpr lower) width.le) (Nat.cast_nonneg _)
  have below := Nat.floor_le inside
  have step : 0 ≤ (high - low) / (levels : K) := by positivity
  have difference := dequantize_quantize value some ordered
  have sign : ((quantize low high levels value : K) -
      (value - low) / (high - low) * levels) * ((high - low) / levels) ≤ 0 :=
    mul_nonpos_of_nonpos_of_nonneg (sub_nonpos.mpr below) step
  linarith

theorem lt_dequantize_quantize_add_step (value : K) (some : 0 < levels)
    (ordered : low < high) :
    value < dequantize low high levels (quantize low high levels value) +
      (high - low) / levels := by
  have width : 0 < high - low := sub_pos.mpr ordered
  have count : (0 : K) < levels := by exact_mod_cast some
  have above := Nat.lt_floor_add_one ((value - low) / (high - low) * levels)
  have step : 0 < (high - low) / (levels : K) := div_pos width count
  have difference := dequantize_quantize value some ordered
  have scaled := mul_lt_mul_of_pos_right above step
  have expanded : ((quantize low high levels value : K) + 1) *
      ((high - low) / levels) =
        (quantize low high levels value : K) * ((high - low) / levels) +
          (high - low) / levels := by ring
  change _ < ((quantize low high levels value : K) + 1) * _ at scaled
  rw [expanded] at scaled
  rw [sub_mul] at difference
  linarith

/-- The reading is off by at most one step. -/
theorem abs_dequantize_quantize_sub_le (some : 0 < levels) (ordered : low < high)
    (lower : low ≤ value) :
    |dequantize low high levels (quantize low high levels value) - value| ≤
      (high - low) / levels := by
  have below := dequantize_quantize_le some ordered lower
  have above := lt_dequantize_quantize_add_step value some ordered
  rw [abs_of_nonpos (sub_nonpos.mpr below)]
  linarith

end RoundTrip

end Foundation
