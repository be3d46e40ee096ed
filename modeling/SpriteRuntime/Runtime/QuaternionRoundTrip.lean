import Mathlib.Algebra.BigOperators.Field
import Mathlib.Tactic.LinearCombination
import SpriteRuntime.Runtime.Imu

/-!
# From a quaternion to a matrix and back

The inverse takes one component of the quaternion as a root and divides by it.  The trace and the
diagonal choose a component that is not zero, and the others follow with its sign.
-/

namespace SpriteRuntime

open Foundation Matrix

variable {K : Type} [Field K] [LinearOrder K]

/-! ## The branches -/

/-- The component that the branch of a matrix takes as a root. -/
def rotationBranch (rotation : Matrix (Fin 3) (Fin 3) K) : Fin 4 :=
  if 0 < rotation.trace then 0
  else (argmax rotation.diag).succ

/-- The number under the root. -/
def rotationRadicand (rotation : Matrix (Fin 3) (Fin 3) K) : Fin 4 → K :=
  ![rotation.trace + 1,
    1 + rotation 0 0 - rotation 1 1 - rotation 2 2,
    1 + rotation 1 1 - rotation 0 0 - rotation 2 2,
    1 + rotation 2 2 - rotation 0 0 - rotation 1 1]

/-- What a branch computes with its `scale`. -/
def branchComponents (rotation : Matrix (Fin 3) (Fin 3) K) (scale : K) : Fin 4 → Fin 4 → K :=
  ![![1 / 4 * scale, (rotation 2 1 - rotation 1 2) / scale,
      (rotation 0 2 - rotation 2 0) / scale, (rotation 1 0 - rotation 0 1) / scale],
    ![(rotation 2 1 - rotation 1 2) / scale, 1 / 4 * scale,
      (rotation 0 1 + rotation 1 0) / scale, (rotation 0 2 + rotation 2 0) / scale],
    ![(rotation 0 2 - rotation 2 0) / scale, (rotation 0 1 + rotation 1 0) / scale,
      1 / 4 * scale, (rotation 1 2 + rotation 2 1) / scale],
    ![(rotation 1 0 - rotation 0 1) / scale, (rotation 0 2 + rotation 2 0) / scale,
      (rotation 1 2 + rotation 2 1) / scale, 1 / 4 * scale]]

section Branches

variable [SquareRoots K]

/-- `scale`, by which the branch divides. -/
def rotationScale (rotation : Matrix (Fin 3) (Fin 3) K) : Except String K := do
  let root ← mathSqrt (rotationRadicand rotation (rotationBranch rotation))
  return root * 2

theorem rotationComponents_eq (rotation : Matrix (Fin 3) (Fin 3) K) :
    rotationComponents rotation = do
      let scale ← rotationScale rotation
      return branchComponents rotation scale (rotationBranch rotation) := by
  unfold rotationComponents rotationScale rotationBranch
  by_cases positive : 0 < rotation.trace
  · simp only [positive, if_true, bind_assoc, pure_bind]
    rfl
  · simp only [positive, if_false, bind_assoc, pure_bind]
    match argmax rotation.diag with
    | 0 => rfl
    | 1 => rfl
    | 2 => rfl

end Branches

/-! ## The matrix of a quaternion of norm one -/

section Unit

variable {quaternion : Fin 4 → K}

/-- A quaternion and its opposite are one rotation. -/
theorem rotationMatrix_neg (quaternion : Fin 4 → K) :
    rotationMatrix (-quaternion) = rotationMatrix quaternion := by
  simp only [rotationMatrix, Pi.neg_apply, neg_mul_neg]

theorem unit_eq (unit : ∑ index, quaternion index * quaternion index = 1) :
    quaternion 0 * quaternion 0 + quaternion 1 * quaternion 1 + quaternion 2 * quaternion 2 +
      quaternion 3 * quaternion 3 = 1 := by
  rw [← unit, Fin.sum_univ_four]

/-- The number under the root is four times the square of the component. -/
theorem rotationRadicand_eq (unit : ∑ index, quaternion index * quaternion index = 1)
    (index : Fin 4) :
    rotationRadicand (rotationMatrix quaternion) index =
      4 * (quaternion index * quaternion index) := by
  have square := unit_eq unit
  match index with
  | 0 =>
      simp [rotationRadicand, rotationMatrix, Matrix.trace_fin_three]
      linear_combination (-4) * square
  | 1 =>
      simp [rotationRadicand, rotationMatrix]
      ring
  | 2 =>
      simp [rotationRadicand, rotationMatrix]
      ring
  | 3 =>
      simp [rotationRadicand, rotationMatrix]
      ring

/-- Every component is found from its product with the one of the branch. -/
theorem branchComponents_eq [IsStrictOrderedRing K] {index : Fin 4} {sign : K}
    (nonzero : quaternion index ≠ 0) (square : sign * sign = 1) :
    branchComponents (rotationMatrix quaternion) (4 * (sign * quaternion index)) index =
      sign • quaternion := by
  have divisor : 4 * (sign * quaternion index) ≠ 0 := by
    have signed : sign ≠ 0 := left_ne_zero_of_mul_eq_one square
    exact mul_ne_zero four_ne_zero (mul_ne_zero signed nonzero)
  have product {value : K} {other : Fin 4} (four : value = 4 * (quaternion index * quaternion other)) :
      value / (4 * (sign * quaternion index)) = sign * quaternion other := by
    rw [div_eq_iff divisor, four]
    linear_combination (-4) * quaternion index * quaternion other * square
  have own : 1 / 4 * (4 * (sign * quaternion index)) = sign * quaternion index := by ring
  ext other
  match index, other with
  | 0, 0 => exact own
  | 1, 1 => exact own
  | 2, 2 => exact own
  | 3, 3 => exact own
  | 0, 1 => exact product (by simp [rotationMatrix]; ring)
  | 0, 2 => exact product (by simp [rotationMatrix]; ring)
  | 0, 3 => exact product (by simp [rotationMatrix]; ring)
  | 1, 0 => exact product (by simp [rotationMatrix]; ring)
  | 1, 2 => exact product (by simp [rotationMatrix]; ring)
  | 1, 3 => exact product (by simp [rotationMatrix]; ring)
  | 2, 0 => exact product (by simp [rotationMatrix]; ring)
  | 2, 1 => exact product (by simp [rotationMatrix]; ring)
  | 2, 3 => exact product (by simp [rotationMatrix]; ring)
  | 3, 0 => exact product (by simp [rotationMatrix]; ring)
  | 3, 1 => exact product (by simp [rotationMatrix]; ring)
  | 3, 2 => exact product (by simp [rotationMatrix]; ring)

/-- The columns of the matrix are orthonormal. -/
theorem rotationMatrix_orthonormal (unit : ∑ index, quaternion index * quaternion index = 1) :
    (rotationMatrix quaternion)ᵀ * rotationMatrix quaternion = 1 := by
  have square := unit_eq unit
  ext row column
  match row, column with
  | 0, 0 =>
      simp [rotationMatrix, Matrix.mul_apply, Fin.sum_univ_three]
      linear_combination 4 * (quaternion 2 * quaternion 2 + quaternion 3 * quaternion 3) * square
  | 0, 1 =>
      simp [rotationMatrix, Matrix.mul_apply, Fin.sum_univ_three]
      linear_combination -4 * quaternion 1 * quaternion 2 * square
  | 0, 2 =>
      simp [rotationMatrix, Matrix.mul_apply, Fin.sum_univ_three]
      linear_combination -4 * quaternion 1 * quaternion 3 * square
  | 1, 0 =>
      simp [rotationMatrix, Matrix.mul_apply, Fin.sum_univ_three]
      linear_combination -4 * quaternion 2 * quaternion 1 * square
  | 1, 1 =>
      simp [rotationMatrix, Matrix.mul_apply, Fin.sum_univ_three]
      linear_combination 4 * (quaternion 1 * quaternion 1 + quaternion 3 * quaternion 3) * square
  | 1, 2 =>
      simp [rotationMatrix, Matrix.mul_apply, Fin.sum_univ_three]
      linear_combination -4 * quaternion 2 * quaternion 3 * square
  | 2, 0 =>
      simp [rotationMatrix, Matrix.mul_apply, Fin.sum_univ_three]
      linear_combination -4 * quaternion 3 * quaternion 1 * square
  | 2, 1 =>
      simp [rotationMatrix, Matrix.mul_apply, Fin.sum_univ_three]
      linear_combination -4 * quaternion 3 * quaternion 2 * square
  | 2, 2 =>
      simp [rotationMatrix, Matrix.mul_apply, Fin.sum_univ_three]
      linear_combination 4 * (quaternion 1 * quaternion 1 + quaternion 2 * quaternion 2) * square

theorem rotationMatrix_det (unit : ∑ index, quaternion index * quaternion index = 1) :
    (rotationMatrix quaternion).det = 1 := by
  have square := unit_eq unit
  simp [rotationMatrix, Matrix.det_fin_three]
  linear_combination 4 * (quaternion 1 * quaternion 1 + quaternion 2 * quaternion 2 +
    quaternion 3 * quaternion 3) * square

end Unit

/-! ## The way back -/

section RoundTrip

variable [IsStrictOrderedRing K] {quaternion : Fin 4 → K}

/-- Whatever the matrix, the number under the root is not small. -/
theorem one_le_radicand (rotation : Matrix (Fin 3) (Fin 3) K) :
    1 ≤ rotationRadicand rotation (rotationBranch rotation) := by
  by_cases positive : 0 < rotation.trace
  · rw [rotationBranch, if_pos positive]
    have sum : 1 ≤ rotation.trace + 1 := by linarith
    exact sum
  · rw [rotationBranch, if_neg positive]
    have mean := le_argmax rotation.diag
    rw [Fin.sum_univ_three] at mean
    rw [Matrix.trace_fin_three] at positive
    simp only [diag_apply] at mean
    revert mean
    generalize argmax rotation.diag = largest
    intro mean
    match largest with
    | 0 =>
        have sum : 1 ≤ 1 + rotation 0 0 - rotation 1 1 - rotation 2 2 := by linarith
        exact sum
    | 1 =>
        have sum : 1 ≤ 1 + rotation 1 1 - rotation 0 0 - rotation 2 2 := by linarith
        exact sum
    | 2 =>
        have sum : 1 ≤ 1 + rotation 2 2 - rotation 0 0 - rotation 1 1 := by linarith
        exact sum

/-- The branch takes a component that is not zero. -/
theorem rotationBranch_ne_zero (unit : ∑ index, quaternion index * quaternion index = 1) :
    quaternion (rotationBranch (rotationMatrix quaternion)) ≠ 0 := by
  have positive := one_le_radicand (rotationMatrix quaternion)
  intro zero
  rw [rotationRadicand_eq unit, zero] at positive
  norm_num at positive

variable [SquareRoots K]

theorem sqrt_four_mul (component : K) :
    SquareRoots.sqrt (4 * (component * component)) * 2 = 4 * |component| := by
  have square : 4 * (component * component) = 2 * |component| * (2 * |component|) := by
    rw [← abs_mul_abs_self component]
    ring
  rw [square, SquareRoots.sqrt_mul_self (by positivity)]
  ring

/-- The branch divides by a positive number and finds the quaternion or its opposite. -/
theorem rotationComponents_rotationMatrix
    (unit : ∑ index, quaternion index * quaternion index = 1) :
    (∃ scale, rotationScale (rotationMatrix quaternion) = .ok scale ∧ 0 < scale) ∧
      ∃ sign : K, (sign = 1 ∨ sign = -1) ∧
        rotationComponents (rotationMatrix quaternion) = .ok (sign • quaternion) := by
  have nonzero := rotationBranch_ne_zero unit
  have radicand := rotationRadicand_eq unit (rotationBranch (rotationMatrix quaternion))
  revert nonzero radicand
  generalize chosen : rotationBranch (rotationMatrix quaternion) = index
  intro nonzero radicand
  have root : rotationScale (rotationMatrix quaternion) = .ok (4 * |quaternion index|) := by
    have nonneg : ¬4 * (quaternion index * quaternion index) < 0 :=
      not_lt.mpr (mul_nonneg (by norm_num) (mul_self_nonneg _))
    rw [rotationScale, chosen, radicand, mathSqrt, raiseIf, if_neg nonneg, ← sqrt_four_mul]
    rfl
  refine ⟨⟨_, root, mul_pos (by norm_num) (abs_pos.mpr nonzero)⟩, ?_⟩
  rw [rotationComponents_eq, root, except_ok_bind, chosen]
  rcases lt_or_gt_of_ne nonzero with negative | positive
  · refine ⟨-1, .inr rfl, ?_⟩
    rw [abs_of_neg negative, ← branchComponents_eq nonzero (by norm_num), neg_one_mul]
    rfl
  · refine ⟨1, .inl rfl, ?_⟩
    rw [abs_of_pos positive, ← branchComponents_eq nonzero (by norm_num), one_mul]
    rfl

theorem normalizeQuaternion_of_unit (unit : ∑ index, quaternion index * quaternion index = 1) :
    normalizeQuaternion quaternion = .ok quaternion := by
  have norm : quaternionNorm quaternion = 1 := by
    rw [quaternionNorm, unit, SquareRoots.sqrt_one]
  have large : ¬(1 : K) < 1 / 1000000000 := by norm_num
  simp only [normalizeQuaternion, norm, raiseIf, if_neg large, except_ok_bind, div_one]
  rfl

/-- A quaternion of norm one comes back up to its sign. -/
theorem matrixToQuaternion_rotationMatrix
    (unit : ∑ index, quaternion index * quaternion index = 1) :
    ∃ result, matrixToQuaternion (rotationMatrix quaternion) = .ok result ∧
      (result = quaternion ∨ result = -quaternion) ∧ 0 ≤ result 0 := by
  obtain ⟨_, sign, one, components⟩ := rotationComponents_rotationMatrix unit
  have signed : ∑ index, (sign • quaternion) index * (sign • quaternion) index = 1 := by
    rw [← unit]
    apply Finset.sum_congr rfl
    intro index _
    rcases one with rfl | rfl <;> simp
  have same : sign • quaternion = quaternion ∨ sign • quaternion = -quaternion := by
    rcases one with rfl | rfl
    · exact .inl (one_smul K quaternion)
    · exact .inr (neg_one_smul K quaternion)
  rw [matrixToQuaternion, components, except_ok_bind, normalizeQuaternion_of_unit signed,
    except_ok_bind]
  by_cases scalar : 0 ≤ (sign • quaternion) 0
  · rw [if_pos scalar]
    exact ⟨_, rfl, same, scalar⟩
  · rw [if_neg scalar]
    refine ⟨_, rfl, ?_, neg_nonneg.mpr (not_le.mp scalar).le⟩
    rcases same with same | same
    · exact .inr (congrArg Neg.neg same)
    · refine .inl ?_
      rw [same, neg_neg]

theorem sum_div_norm (nonzero : quaternionNorm quaternion ≠ 0) :
    ∑ index, quaternion index / quaternionNorm quaternion *
      (quaternion index / quaternionNorm quaternion) = 1 := by
  have square : quaternionNorm quaternion * quaternionNorm quaternion =
      ∑ index, quaternion index * quaternion index :=
    SquareRoots.mul_self_sqrt (Finset.sum_nonneg fun index _ => mul_self_nonneg _)
  calc ∑ index, quaternion index / quaternionNorm quaternion *
        (quaternion index / quaternionNorm quaternion)
      = (∑ index, quaternion index * quaternion index) /
          (quaternionNorm quaternion * quaternionNorm quaternion) := by
        rw [Finset.sum_div]
        apply Finset.sum_congr rfl
        intro index _
        rw [div_mul_div_comm]
    _ = 1 := by rw [← square, div_self (mul_ne_zero nonzero nonzero)]

end RoundTrip

/-- The conversion to a matrix and back gives the normalized quaternion up to its sign, with a
scalar part that is not negative, and that one has the same matrix, a proper rotation. -/
theorem quaternion_roundTrip (quaternion : Fin 4 → ℝ)
    (large : 1 / 1000000000 ≤ quaternionNorm quaternion) :
    ∃ matrix scale result, quaternionToMatrix quaternion = .ok matrix ∧
      rotationScale matrix = .ok scale ∧ 0 < scale ∧
      matrixToQuaternion matrix = .ok result ∧
      ((result = fun index => quaternion index / quaternionNorm quaternion) ∨
        result = fun index => -(quaternion index / quaternionNorm quaternion)) ∧
      0 ≤ result 0 ∧
      quaternionToMatrix result = .ok matrix ∧ matrixᵀ * matrix = 1 ∧ matrix.det = 1 := by
  have positive : 0 < quaternionNorm quaternion := lt_of_lt_of_le (by norm_num) large
  have unit := sum_div_norm positive.ne'
  obtain ⟨⟨scale, scaled, divisor⟩, _⟩ := rotationComponents_rotationMatrix unit
  obtain ⟨result, back, same, scalar⟩ := matrixToQuaternion_rotationMatrix unit
  refine ⟨_, scale, result, ?_, scaled, divisor, back, same, scalar, ?_,
    rotationMatrix_orthonormal unit, rotationMatrix_det unit⟩
  · rw [quaternionToMatrix, normalizeQuaternion, raiseIf, if_neg (not_lt.mpr large)]
    rfl
  · rw [quaternionToMatrix]
    rcases same with rfl | rfl
    · rw [normalizeQuaternion_of_unit unit]
      rfl
    · rw [normalizeQuaternion_of_unit (by simpa using unit), except_ok_bind, rotationMatrix_neg]
      rfl

theorem norm_real (value : ℝ) (nonneg : 0 ≤ value) :
    quaternionNorm ![value, 0, 0, 0] = value := by
  rw [quaternionNorm, Fin.sum_univ_four]
  simp only [Matrix.cons_val, mul_zero, add_zero]
  exact SquareRoots.sqrt_mul_self nonneg

/-- The quaternion of a real number. -/
theorem quaternion_roundTrip_two : ∃ matrix scale result,
    quaternionToMatrix (![2, 0, 0, 0] : Fin 4 → ℝ) = .ok matrix ∧
      rotationScale matrix = .ok scale ∧ 0 < scale ∧
      matrixToQuaternion matrix = .ok result ∧
      ((result = fun index => (![2, 0, 0, 0] : Fin 4 → ℝ) index /
          quaternionNorm (![2, 0, 0, 0] : Fin 4 → ℝ)) ∨
        result = fun index => -((![2, 0, 0, 0] : Fin 4 → ℝ) index /
          quaternionNorm (![2, 0, 0, 0] : Fin 4 → ℝ))) ∧
      0 ≤ result 0 ∧
      quaternionToMatrix result = .ok matrix ∧ matrixᵀ * matrix = 1 ∧ matrix.det = 1 :=
  quaternion_roundTrip ![2, 0, 0, 0] (by rw [norm_real 2 (by norm_num)]; norm_num)

/-- A quaternion that is not zero and is taken for zero. -/
theorem smallQuaternion_rejected :
    (![1 / 10000000000, 0, 0, 0] : Fin 4 → ℝ) ≠ 0 ∧
      quaternionToMatrix (![1 / 10000000000, 0, 0, 0] : Fin 4 → ℝ) =
        .error "quaternion norm is zero" := by
  constructor
  · intro zero
    have first := congrFun zero 0
    norm_num at first
  · have norm : quaternionNorm ![(1 / 10000000000 : ℝ), 0, 0, 0] < 1 / 1000000000 := by
      rw [norm_real _ (by norm_num)]
      norm_num
    rw [quaternionToMatrix, normalizeQuaternion, raiseIf, if_pos norm]
    rfl

end SpriteRuntime
