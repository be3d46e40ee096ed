import Mathlib.LinearAlgebra.Matrix.NonsingularInverse
import SpriteRuntime.Foundation.Numerals
import SpriteRuntime.Foundation.Program

/-!
# The inverse of a matrix

Inversion that computes and that fails on a singular matrix.
-/

namespace Foundation

open Matrix

variable {K n : Type} [Field K] [Fintype n] [DecidableEq n]

/-- The inverse of a matrix; zero when the matrix has none. -/
def cramerInverse (matrix : Matrix n n K) : Matrix n n K := matrix.det⁻¹ • matrix.adjugate

/-- The inverse of a matrix, or the error of a singular one. -/
def linalgInv [DecidableEq K] (matrix : Matrix n n K) : Except String (Matrix n n K) :=
  if matrix.det = 0 then .error "Singular matrix" else .ok (cramerInverse matrix)

section Inverse

variable {matrix inverse : Matrix n n K}

theorem cramerInverse_mul (regular : matrix.det ≠ 0) : cramerInverse matrix * matrix = 1 := by
  rw [cramerInverse, smul_mul, adjugate_mul, smul_smul, inv_mul_cancel₀ regular, one_smul]

theorem mul_cramerInverse (regular : matrix.det ≠ 0) : matrix * cramerInverse matrix = 1 :=
  mul_eq_one_comm.mp (cramerInverse_mul regular)

theorem cramerInverse_transpose : cramerInverse matrixᵀ = (cramerInverse matrix)ᵀ := by
  rw [cramerInverse, cramerInverse, det_transpose, ← adjugate_transpose, transpose_smul]

/-- A matrix has one inverse. -/
theorem eq_cramerInverse (left : inverse * matrix = 1) : inverse = cramerInverse matrix := by
  have regular : matrix.det ≠ 0 := det_ne_zero_of_left_inverse left
  have right : matrix * inverse = 1 := mul_eq_one_comm.mp left
  calc inverse = cramerInverse matrix * matrix * inverse := by
        rw [cramerInverse_mul regular, one_mul]
    _ = cramerInverse matrix := by rw [mul_assoc, right, mul_one]

theorem linalgInv_eq_ok [DecidableEq K] : linalgInv matrix = .ok inverse ↔ inverse * matrix = 1 := by
  unfold linalgInv
  constructor
  · intro found
    split at found
    · cases found
    next regular =>
        cases found
        exact cramerInverse_mul regular
  · intro left
    rw [if_neg (det_ne_zero_of_left_inverse left), eq_cramerInverse left]

end Inverse

end Foundation
