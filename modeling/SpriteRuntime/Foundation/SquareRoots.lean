import Mathlib.Analysis.Real.Sqrt
import SpriteRuntime.Foundation.Numerals

/-!
# Square roots

Ordered fields with a square root, such as the real numbers.  Programs over such a field
are programs in exact arithmetic.
-/

namespace Foundation

/-- A square root of every number that is not negative. -/
class SquareRoots (K : Type) [Field K] [LinearOrder K] where
  sqrt : K → K
  sqrt_nonneg : ∀ value, 0 ≤ sqrt value
  mul_self_sqrt : ∀ {value}, 0 ≤ value → sqrt value * sqrt value = value

noncomputable instance : SquareRoots ℝ where
  sqrt := Real.sqrt
  sqrt_nonneg := Real.sqrt_nonneg
  mul_self_sqrt := Real.mul_self_sqrt

namespace SquareRoots

variable {K : Type} [Field K] [LinearOrder K] [IsStrictOrderedRing K] [SquareRoots K]
  {value bound : K}

theorem sqrt_mul_self (nonneg : 0 ≤ value) : sqrt (value * value) = value := by
  have square := mul_self_sqrt (mul_self_nonneg value)
  exact (mul_self_inj (sqrt_nonneg _) nonneg).mp square

theorem sqrt_one : sqrt (1 : K) = 1 := by
  have root := sqrt_mul_self (zero_le_one (α := K))
  rwa [one_mul] at root

theorem le_sqrt (nonneg : 0 ≤ bound) (small : bound * bound ≤ value) : bound ≤ sqrt value := by
  have square := mul_self_sqrt ((mul_self_nonneg bound).trans small)
  rw [← square] at small
  exact (mul_self_le_mul_self_iff nonneg (sqrt_nonneg value)).mpr small

/-- A number whose square root is small. -/
theorem le_mul_self_of_sqrt_le (nonneg : 0 ≤ value) (small : sqrt value ≤ bound) :
    value ≤ bound * bound := by
  rw [← mul_self_sqrt nonneg]
  exact mul_self_le_mul_self (sqrt_nonneg value) small

end SquareRoots

end Foundation
