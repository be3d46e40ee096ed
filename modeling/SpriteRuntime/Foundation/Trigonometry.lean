import Mathlib.Analysis.SpecialFunctions.Complex.Arg
import Mathlib.Analysis.SpecialFunctions.Trigonometric.Bounds
import SpriteRuntime.Foundation.SquareRoots

/-!
# Trigonometric functions and rotations

Ordered fields with the functions that programs about angles call, and the laws that such
programs rely on.  Rotations are quaternions of four numbers with the real part first.
-/

namespace Foundation

/-- Sine, cosine and the angle of a point, with their laws. -/
class Trigonometry (K : Type) [Field K] [LinearOrder K] extends SquareRoots K where
  sin : K → K
  cos : K → K
  atan2 : K → K → K
  sin_sq_add_cos_sq : ∀ x, sin x * sin x + cos x * cos x = 1
  sin_double : ∀ x, sin (2 * x) = 2 * (sin x * cos x)
  cos_double : ∀ x, cos (2 * x) = 1 - 2 * (sin x * sin x)
  abs_sin_le : ∀ x, |sin x| ≤ |x|
  cos_zero : cos 0 = 1
  mul_sin_atan2 : ∀ y x, sqrt (x * x + y * y) * sin (atan2 y x) = y
  mul_cos_atan2 : ∀ y x, sqrt (x * x + y * y) * cos (atan2 y x) = x

/-- The distance of a point is the absolute value of the complex number. -/
theorem sqrt_eq_norm (x y : ℝ) : SquareRoots.sqrt (x * x + y * y) = ‖(⟨x, y⟩ : ℂ)‖ := by
  rw [Complex.norm_eq_sqrt_sq_add_sq, sq, sq]
  rfl

noncomputable instance : Trigonometry ℝ where
  sin := Real.sin
  cos := Real.cos
  atan2 y x := Complex.arg ⟨x, y⟩
  sin_sq_add_cos_sq x := by
    rw [← sq, ← sq]
    exact Real.sin_sq_add_cos_sq x
  sin_double x := by
    rw [Real.sin_two_mul, mul_assoc]
  cos_double x := by
    rw [Real.cos_two_mul, Real.cos_sq']
    ring
  abs_sin_le _ := Real.abs_sin_le_abs
  cos_zero := Real.cos_zero
  mul_sin_atan2 y x := by
    rw [sqrt_eq_norm]
    exact Complex.norm_mul_sin_arg ⟨x, y⟩
  mul_cos_atan2 y x := by
    rw [sqrt_eq_norm]
    exact Complex.norm_mul_cos_arg ⟨x, y⟩

section Rotation

variable {K : Type} [Field K]

/-- The squared norm of a quaternion. -/
def normSquared (q : Fin 4 → K) : K := q 0 * q 0 + q 1 * q 1 + q 2 * q 2 + q 3 * q 3

/-- The product of quaternions, the real part first. -/
def hamilton (p q : Fin 4 → K) : Fin 4 → K :=
  ![p 0 * q 0 - p 1 * q 1 - p 2 * q 2 - p 3 * q 3,
    p 0 * q 1 + p 1 * q 0 + p 2 * q 3 - p 3 * q 2,
    p 0 * q 2 - p 1 * q 3 + p 2 * q 0 + p 3 * q 1,
    p 0 * q 3 + p 1 * q 2 - p 2 * q 1 + p 3 * q 0]

theorem normSquared_hamilton (p q : Fin 4 → K) :
    normSquared (hamilton p q) = normSquared p * normSquared q := by
  simp only [normSquared, hamilton, Matrix.cons_val]
  ring

/-- The quaternion of no rotation. -/
theorem hamilton_one (q : Fin 4 → K) : hamilton q ![1, 0, 0, 0] = q := by
  funext index
  fin_cases index <;> simp [hamilton]

theorem normSquared_div (q : Fin 4 → K) (length : K) :
    normSquared (fun index => q index / length) = normSquared q / (length * length) := by
  simp only [normSquared]
  ring

/-- The squared norm of a vector. -/
def squaredLength (v : Fin 3 → K) : K := v 0 * v 0 + v 1 * v 1 + v 2 * v 2

/-- The third row of the rotation matrix of a unit quaternion is a unit vector. -/
theorem squaredLength_thirdRow {q : Fin 4 → K} (unit : normSquared q = 1) :
    squaredLength ![2 * (q 1 * q 3 - q 0 * q 2), 2 * (q 2 * q 3 + q 0 * q 1),
      1 - 2 * (q 1 * q 1 + q 2 * q 2)] = 1 := by
  have third : 1 - 2 * (q 1 * q 1 + q 2 * q 2) =
      q 0 * q 0 - q 1 * q 1 - q 2 * q 2 + q 3 * q 3 := by
    rw [← unit, normSquared]
    ring
  have square : squaredLength ![2 * (q 1 * q 3 - q 0 * q 2), 2 * (q 2 * q 3 + q 0 * q 1),
      1 - 2 * (q 1 * q 1 + q 2 * q 2)] = normSquared q * normSquared q := by
    rw [third]
    simp only [normSquared, squaredLength, Matrix.cons_val]
    ring
  rw [square, unit, one_mul]

end Rotation

section Turn

variable {K : Type} [Field K] [LinearOrder K] [IsStrictOrderedRing K] [Trigonometry K]

open Trigonometry

/-- An angle in the place of its sine only adds to the length. -/
theorem one_le_cos_sq_add_sq (x : K) : 1 ≤ cos x * cos x + x * x := by
  have circle := sin_sq_add_cos_sq x
  have small := mul_self_le_mul_self (abs_nonneg (sin x)) (abs_sin_le x)
  rw [abs_mul_abs_self, abs_mul_abs_self] at small
  linarith

end Turn

end Foundation
