import Mathlib.LinearAlgebra.Matrix.Determinant.Basic
import Mathlib.LinearAlgebra.Matrix.Trace
import SpriteRuntime.Native.PolicyFeedback

/-!
# The IMU of the pelvis

The Python side keeps the orientation of the sensor as a rotation matrix and turns vectors of
the sensor into the frame of the pelvis.
-/

namespace SpriteRuntime

open Foundation Matrix

section Rotations

variable {K : Type} [Field K] [LinearOrder K] [SquareRoots K]

/-- `normalize_quaternion_wxyz`. -/
def normalizeQuaternion (quaternion : Fin 4 → K) : Except String (Fin 4 → K) := do
  let norm := quaternionNorm quaternion
  raiseIf (norm < 1 / 1000000000) "quaternion norm is zero"
  return fun index => quaternion index / norm

/-- The rotation of a quaternion of norm one. -/
def rotationMatrix (quaternion : Fin 4 → K) : Matrix (Fin 3) (Fin 3) K :=
  let w := quaternion 0
  let x := quaternion 1
  let y := quaternion 2
  let z := quaternion 3
  !![1 - 2 * (y * y + z * z), 2 * (x * y - z * w), 2 * (x * z + y * w);
     2 * (x * y + z * w), 1 - 2 * (x * x + z * z), 2 * (y * z - x * w);
     2 * (x * z - y * w), 2 * (y * z + x * w), 1 - 2 * (x * x + y * y)]

/-- `quaternion_wxyz_to_matrix`. -/
def quaternionToMatrix (quaternion : Fin 4 → K) : Except String (Matrix (Fin 3) (Fin 3) K) := do
  let normalized ← normalizeQuaternion quaternion
  return rotationMatrix normalized

/-- `math.sqrt`. -/
def mathSqrt (value : K) : Except String K := do
  raiseIf (value < 0) "math domain error"
  return SquareRoots.sqrt value

/-- `np.argmax` of three numbers. -/
def argmax (values : Fin 3 → K) : Fin 3 :=
  if values 1 ≤ values 0 ∧ values 2 ≤ values 0 then 0
  else if values 2 ≤ values 1 then 1
  else 2

/-- The components that `matrix_to_quaternion_wxyz` computes before it normalizes them. -/
def rotationComponents (rotation : Matrix (Fin 3) (Fin 3) K) : Except String (Fin 4 → K) := do
  let trace := rotation.trace
  if 0 < trace then
    let scale := (← mathSqrt (trace + 1)) * 2
    return ![1 / 4 * scale, (rotation 2 1 - rotation 1 2) / scale,
      (rotation 0 2 - rotation 2 0) / scale, (rotation 1 0 - rotation 0 1) / scale]
  else
    match argmax rotation.diag with
    | 0 => do
        let scale := (← mathSqrt (1 + rotation 0 0 - rotation 1 1 - rotation 2 2)) * 2
        return ![(rotation 2 1 - rotation 1 2) / scale, 1 / 4 * scale,
          (rotation 0 1 + rotation 1 0) / scale, (rotation 0 2 + rotation 2 0) / scale]
    | 1 => do
        let scale := (← mathSqrt (1 + rotation 1 1 - rotation 0 0 - rotation 2 2)) * 2
        return ![(rotation 0 2 - rotation 2 0) / scale, (rotation 0 1 + rotation 1 0) / scale,
          1 / 4 * scale, (rotation 1 2 + rotation 2 1) / scale]
    | 2 => do
        let scale := (← mathSqrt (1 + rotation 2 2 - rotation 0 0 - rotation 1 1)) * 2
        return ![(rotation 1 0 - rotation 0 1) / scale, (rotation 0 2 + rotation 2 0) / scale,
          (rotation 1 2 + rotation 2 1) / scale, 1 / 4 * scale]

/-- `matrix_to_quaternion_wxyz`. -/
def matrixToQuaternion (rotation : Matrix (Fin 3) (Fin 3) K) : Except String (Fin 4 → K) := do
  let components ← rotationComponents rotation
  let result ← normalizeQuaternion components
  return if 0 ≤ result 0 then result else -result

end Rotations

/-- `ImuMount`: a rotation from the sensor to the body, up to rounding. -/
structure ImuMount (K : Type) [Field K] [LinearOrder K] where
  sensorToBody : Matrix (Fin 3) (Fin 3) K
  orthonormal : ∀ row column,
    |(sensorToBodyᵀ * sensorToBody) row column - (1 : Matrix (Fin 3) (Fin 3) K) row column| ≤
      1 / 1000000000 + 1 / 100000 * |(1 : Matrix (Fin 3) (Fin 3) K) row column|
  rightHanded : |sensorToBody.det - 1| ≤
    max (1 / 1000000000 * max |sensorToBody.det| |1|) (1 / 1000000000)

structure RawImuSample (K : Type) where
  monotonicNs : ℤ
  angularVelocitySensor : Fin 3 → K
  linearAccelerationSensor : Fin 3 → K
  orientationSensorToWorld : Fin 4 → K
  magneticFieldSensor : Option (Fin 3 → K) := none

structure PelvisImuSample (K : Type) where
  monotonicNs : ℤ
  angularVelocityBody : Fin 3 → K
  linearAccelerationBody : Fin 3 → K
  orientationBodyToWorld : Fin 4 → K
  projectedGravityBody : Fin 3 → K
  magneticFieldBody : Option (Fin 3 → K)

namespace ImuMount

variable {K : Type} [Field K] [LinearOrder K]

/-- `vector_sensor_to_body`. -/
def vectorSensorToBody (mount : ImuMount K) (value : Fin 3 → K) : Fin 3 → K :=
  mount.sensorToBody *ᵥ value

/-- `transform_pelvis_sample`. -/
def transformPelvisSample [SquareRoots K] (mount : ImuMount K) (raw : RawImuSample K) :
    Except String (PelvisImuSample K) := do
  let rotationWorldFromSensor ← quaternionToMatrix raw.orientationSensorToWorld
  let rotationWorldFromBody := rotationWorldFromSensor * mount.sensorToBodyᵀ
  let orientation ← matrixToQuaternion rotationWorldFromBody
  return { monotonicNs := raw.monotonicNs
           angularVelocityBody := mount.vectorSensorToBody raw.angularVelocitySensor
           linearAccelerationBody := mount.vectorSensorToBody raw.linearAccelerationSensor
           orientationBodyToWorld := orientation
           projectedGravityBody := rotationWorldFromBodyᵀ *ᵥ ![0, 0, -1]
           magneticFieldBody := raw.magneticFieldSensor.map mount.vectorSensorToBody }

section RearPelvis

variable (K)

/-- The axes of the mount at the rear of the pelvis. -/
def rearPelvisAxes (K : Type) [Field K] : Matrix (Fin 3) (Fin 3) K :=
  !![0, 0, -1; 0, -1, 0; -1, 0, 0]

omit [LinearOrder K] in
theorem rearPelvisAxes_orthonormal : (rearPelvisAxes K)ᵀ * rearPelvisAxes K = 1 := by
  ext row column
  fin_cases row <;> fin_cases column <;>
    simp [rearPelvisAxes, Matrix.mul_apply, Fin.sum_univ_three]

omit [LinearOrder K] in
theorem rearPelvisAxes_det : (rearPelvisAxes K).det = 1 := by
  simp [rearPelvisAxes, Matrix.det_fin_three]

/-- `sprite0825_rear_pelvis`. -/
def sprite0825RearPelvis [IsStrictOrderedRing K] : ImuMount K where
  sensorToBody := rearPelvisAxes K
  orthonormal row column := by
    rw [rearPelvisAxes_orthonormal, sub_self, abs_zero]
    positivity
  rightHanded := by
    rw [rearPelvisAxes_det, sub_self, abs_zero]
    positivity

end RearPelvis

end ImuMount

/-! ## The orientation is always found -/

section Orientation

variable {K : Type} [Field K] [LinearOrder K] [IsStrictOrderedRing K] [SquareRoots K]

/-- A quaternion with a component that is not small is normalized. -/
theorem normalizeQuaternion_ok {quaternion : Fin 4 → K} {index : Fin 4}
    (large : 1 / 2 ≤ quaternion index) :
    ∃ normalized, normalizeQuaternion quaternion = .ok normalized := by
  refine ⟨_, except_bind_eq_ok.mpr ⟨(), raiseIf_eq_ok.mpr (not_lt.mpr ?_), rfl⟩⟩
  apply SquareRoots.le_sqrt (by positivity)
  have component : quaternion index * quaternion index ≤
      ∑ index, quaternion index * quaternion index :=
    Finset.single_le_sum (f := fun index => quaternion index * quaternion index)
      (fun index _ => mul_self_nonneg _) (Finset.mem_univ index)
  have square : 1 / 2 * (1 / 2) ≤ quaternion index * quaternion index :=
    mul_self_le_mul_self (by positivity) large
  have small : (1 / 1000000000 * (1 / 1000000000) : K) ≤ 1 / 2 * (1 / 2) := by norm_num
  exact small.trans (square.trans component)

theorem mathSqrt_large {value : K} (large : 1 ≤ value) :
    ∃ root, mathSqrt value = .ok root ∧ 1 / 2 ≤ 1 / 4 * (root * 2) := by
  have nonneg : ¬value < 0 := not_lt.mpr (zero_le_one.trans large)
  refine ⟨_, except_bind_eq_ok.mpr ⟨(), raiseIf_eq_ok.mpr nonneg, rfl⟩, ?_⟩
  have root : 1 ≤ SquareRoots.sqrt value :=
    SquareRoots.le_sqrt zero_le_one (by rwa [one_mul])
  linarith

omit [SquareRoots K] in
/-- The largest entry of a diagonal is at least the mean. -/
theorem le_argmax (values : Fin 3 → K) :
    ∑ index, values index ≤ 3 * values (argmax values) := by
  rw [Fin.sum_univ_three]
  unfold argmax
  split
  next first => linarith [first.1, first.2]
  · split
    next other second =>
        have smaller : values 0 ≤ values 1 := by
          by_contra larger
          exact other ⟨(not_le.mp larger).le, second.trans (not_le.mp larger).le⟩
        linarith
    next other third =>
        have smaller : values 0 ≤ values 2 := by
          by_contra larger
          exact other ⟨(not_le.mp third).le.trans (not_le.mp larger).le, (not_le.mp larger).le⟩
        linarith [not_le.mp third]

theorem rotationComponents_ok (rotation : Matrix (Fin 3) (Fin 3) K) :
    ∃ components index, rotationComponents rotation = .ok components ∧
      1 / 2 ≤ components index := by
  unfold rotationComponents
  by_cases positive : 0 < rotation.trace
  · have sum : 1 ≤ rotation.trace + 1 := by linarith
    obtain ⟨root, found, large⟩ := mathSqrt_large sum
    simp only [if_pos positive]
    exact ⟨_, 0, except_bind_eq_ok.mpr ⟨root, found, rfl⟩, large⟩
  · have mean := le_argmax rotation.diag
    have trace : rotation.trace = rotation 0 0 + rotation 1 1 + rotation 2 2 := by
      rw [Matrix.trace, Fin.sum_univ_three]
      rfl
    rw [Fin.sum_univ_three] at mean
    simp only [if_neg positive]
    rw [trace] at positive
    match chosen : argmax rotation.diag with
    | 0 =>
        rw [chosen] at mean
        simp only [diag_apply] at mean
        have sum : 1 ≤ 1 + rotation 0 0 - rotation 1 1 - rotation 2 2 := by linarith
        obtain ⟨root, found, large⟩ := mathSqrt_large sum
        exact ⟨_, 1, except_bind_eq_ok.mpr ⟨root, found, rfl⟩, large⟩
    | 1 =>
        rw [chosen] at mean
        simp only [diag_apply] at mean
        have sum : 1 ≤ 1 + rotation 1 1 - rotation 0 0 - rotation 2 2 := by linarith
        obtain ⟨root, found, large⟩ := mathSqrt_large sum
        exact ⟨_, 2, except_bind_eq_ok.mpr ⟨root, found, rfl⟩, large⟩
    | 2 =>
        rw [chosen] at mean
        simp only [diag_apply] at mean
        have sum : 1 ≤ 1 + rotation 2 2 - rotation 0 0 - rotation 1 1 := by linarith
        obtain ⟨root, found, large⟩ := mathSqrt_large sum
        exact ⟨_, 3, except_bind_eq_ok.mpr ⟨root, found, rfl⟩, large⟩

/-- Every matrix has a quaternion, a rotation or not. -/
theorem matrixToQuaternion_ok (rotation : Matrix (Fin 3) (Fin 3) K) :
    ∃ quaternion, matrixToQuaternion rotation = .ok quaternion := by
  obtain ⟨components, index, found, large⟩ := rotationComponents_ok rotation
  obtain ⟨normalized, unit⟩ := normalizeQuaternion_ok large
  exact ⟨_, except_bind_eq_ok.mpr ⟨_, found, except_bind_eq_ok.mpr ⟨_, unit, rfl⟩⟩⟩

end Orientation

end SpriteRuntime
