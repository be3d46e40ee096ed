import SpriteRuntime.Runtime.Imu
import SpriteRuntime.Runtime.KinematicsExport

/-!
# The feedback of both sides

`FeedbackMap` holds the kinematics as one table and the mount of the sensor as formulas.  The
Python side goes through the drives of the motor map and through rotation matrices.  Both give
the policy the same feedback.
-/

namespace SpriteRuntime

open Foundation Matrix

variable {K : Type} [Field K] [LinearOrder K] [SquareRoots K]

/-- `dict(zip(names, row))`. -/
def NativeMotorOrder.dictionary {α : Type} (order : NativeMotorOrder) (values : Index → α) :
    Dictionary α :=
  List.ofFn fun index => (order.names index, values index)

/-- The coefficients that the native side is given. -/
def NativeMatrices.feedbackMap (matrices : NativeMatrices K) : FeedbackMap K :=
  { motorZero := matrices.motorOffset
    motorToJoint := matrices.motorToJoint }

/-- The sample of the sensor in a round. -/
def FeedbackInput.rawImuSample (input : FeedbackInput K) : RawImuSample K :=
  { monotonicNs := 1
    angularVelocitySensor := input.angularVelocity
    linearAccelerationSensor := 0
    orientationSensorToWorld := input.quaternion }

/-- The feedback of the Python side. -/
def SpriteMotorMap.policyFeedback (map : SpriteMotorMap K) (mount : ImuMount K)
    (order : NativeMotorOrder) (input : FeedbackInput K) :
    Except String (PolicyFeedback K) := do
  let position ← map.motorToJoint .position (order.dictionary input.motorPosition)
  let velocity ← map.motorToJoint .velocity (order.dictionary input.motorVelocity)
  let imu ← mount.transformPelvisSample input.rawImuSample
  return { jointPosition := position
           jointVelocity := velocity
           angularVelocity := imu.angularVelocityBody
           projectedGravity := imu.projectedGravityBody }

section Dictionaries

variable {order : NativeMotorOrder} {α : Type} {values : Index → α}

theorem NativeMotorOrder.keys_dictionary :
    (order.dictionary values).keys = List.ofFn order.names := by
  simp [dictionary, Dictionary.keys, Function.comp_def]

theorem NativeMotorOrder.get?_dictionary (index : Index) :
    (order.dictionary values).get? (order.names index) = some (values index) := by
  apply Dictionary.get?_eq_some
  · rw [keys_dictionary]
    exact List.nodup_ofFn.mpr order.distinct
  · exact List.mem_ofFn.mpr ⟨index, rfl⟩

omit [SquareRoots K] in
theorem SpriteMotorMap.InOrder.covers_dictionary {map : SpriteMotorMap K}
    (inOrder : map.InOrder order) :
    SpriteMotorMap.Covers map.physicalMotorNames (order.dictionary values) := by
  rw [Covers, NativeMotorOrder.keys_dictionary]
  constructor
  · intro name member
    exact (inOrder name).mpr (List.mem_ofFn.mp member)
  · intro name member
    exact List.mem_ofFn.mpr ((inOrder name).mp member)

end Dictionaries

variable [IsStrictOrderedRing K]

omit [SquareRoots K] in
theorem rearPelvis_angularVelocity (sensor : Fin 3 → K) :
    (ImuMount.sprite0825RearPelvis K).vectorSensorToBody sensor =
      FeedbackMap.angularVelocity sensor := by
  funext axis
  fin_cases axis <;>
    simp [ImuMount.vectorSensorToBody, ImuMount.sprite0825RearPelvis, ImuMount.rearPelvisAxes,
      FeedbackMap.angularVelocity, mulVec, dotProduct, Fin.sum_univ_three]

omit [SquareRoots K] in
/-- Down in the world, seen from the pelvis. -/
theorem rearPelvis_projectedGravity (quaternion : Fin 4 → K) :
    (rotationMatrix quaternion * (ImuMount.sprite0825RearPelvis K).sensorToBodyᵀ)ᵀ *ᵥ
      ![0, 0, -1] = FeedbackMap.projectedGravity quaternion := by
  funext axis
  fin_cases axis <;>
    simp [ImuMount.sprite0825RearPelvis, ImuMount.rearPelvisAxes, rotationMatrix,
      FeedbackMap.projectedGravity, mulVec, vecMul, dotProduct, Fin.sum_univ_three]

/-- What the transformed sample has, and when there is one. -/
theorem rearPelvis_transformPelvisSample {raw : RawImuSample K} :
    (1 / 1000000000 ≤ quaternionNorm raw.orientationSensorToWorld →
      ∃ sample, (ImuMount.sprite0825RearPelvis K).transformPelvisSample raw = .ok sample) ∧
    ∀ sample, (ImuMount.sprite0825RearPelvis K).transformPelvisSample raw = .ok sample →
      1 / 1000000000 ≤ quaternionNorm raw.orientationSensorToWorld ∧
      sample.angularVelocityBody = FeedbackMap.angularVelocity raw.angularVelocitySensor ∧
      sample.projectedGravityBody = FeedbackMap.projectedGravity fun index =>
        raw.orientationSensorToWorld index / quaternionNorm raw.orientationSensorToWorld := by
  constructor
  · intro large
    have rotation : quaternionToMatrix raw.orientationSensorToWorld = .ok (rotationMatrix
        fun index => raw.orientationSensorToWorld index /
          quaternionNorm raw.orientationSensorToWorld) :=
      except_bind_eq_ok.mpr ⟨_, except_bind_eq_ok.mpr
        ⟨(), raiseIf_eq_ok.mpr (not_lt.mpr large), rfl⟩, rfl⟩
    obtain ⟨orientation, found⟩ := matrixToQuaternion_ok (rotationMatrix (fun index =>
      raw.orientationSensorToWorld index / quaternionNorm raw.orientationSensorToWorld) *
        (ImuMount.sprite0825RearPelvis K).sensorToBodyᵀ)
    exact ⟨_, except_bind_eq_ok.mpr ⟨_, rotation, except_bind_eq_ok.mpr ⟨_, found, rfl⟩⟩⟩
  · intro sample transformed
    obtain ⟨_, rotation, rest⟩ := except_bind_eq_ok.mp transformed
    obtain ⟨_, normalized, rotated⟩ := except_bind_eq_ok.mp rotation
    obtain ⟨_, large, unit⟩ := except_bind_eq_ok.mp normalized
    obtain ⟨_, _, returned⟩ := except_bind_eq_ok.mp rest
    cases unit
    cases rotated
    cases returned
    exact ⟨not_lt.mp (raiseIf_eq_ok.mp large), rearPelvis_angularVelocity _,
      rearPelvis_projectedGravity _⟩

namespace SpriteMotorMap

variable {map : SpriteMotorMap K} {order : NativeMotorOrder}

theorem MatricesOf.convert_eq_ok {matrices : NativeMatrices K}
    (matricesOf : map.MatricesOf order matrices) {input : FeedbackInput K}
    {result : PolicyFeedback K} :
    matrices.feedbackMap.convert input = .ok result ↔
      map.policyFeedback (ImuMount.sprite0825RearPelvis K) order input = .ok result := by
  have position := (matricesOf.motorToJoint_eq (matricesOf.inOrder.covers_dictionary)
    fun index => @NativeMotorOrder.get?_dictionary order K input.motorPosition index).1
  have velocity := (matricesOf.motorToJoint_eq (matricesOf.inOrder.covers_dictionary)
    fun index => @NativeMotorOrder.get?_dictionary order K input.motorVelocity index).2
  rw [FeedbackMap.convert_eq_ok]
  constructor
  · rintro ⟨large, jointPosition, jointVelocity, angularVelocity, gravity⟩
    obtain ⟨sample, found⟩ := (@rearPelvis_transformPelvisSample _ _ _ _ _ input.rawImuSample).1 large
    obtain ⟨_, angular, down⟩ := rearPelvis_transformPelvisSample.2 sample found
    refine except_bind_eq_ok.mpr ⟨_, position, except_bind_eq_ok.mpr ⟨_, velocity,
      except_bind_eq_ok.mpr ⟨_, found, congrArg Except.ok ?_⟩⟩⟩
    apply PolicyFeedback.ext
    · exact jointPosition.symm
    · exact jointVelocity.symm
    · exact angular.trans angularVelocity.symm
    · exact down.trans gravity.symm
  · intro returned
    obtain ⟨_, here, rest⟩ := except_bind_eq_ok.mp returned
    cases position.symm.trans here
    obtain ⟨_, here, rest⟩ := except_bind_eq_ok.mp rest
    cases velocity.symm.trans here
    obtain ⟨sample, found, rest⟩ := except_bind_eq_ok.mp rest
    obtain ⟨large, angular, down⟩ := rearPelvis_transformPelvisSample.2 sample found
    cases rest
    exact ⟨large, rfl, rfl, angular, down⟩

/-- The native side and the Python side give the policy the same feedback, for every round and
from the coefficients of any map with thirty-one motors. -/
theorem convert_eq_policyFeedback (length : map.physicalMotorNames.length = 31)
    (distinct : map.physicalMotorNames.Nodup)
    (members : ∀ motor, order.names motor ∈ map.physicalMotorNames) :
    ∃ matrices, map.nativeMatrices order = .ok matrices ∧ ∀ input,
      (∀ result, matrices.feedbackMap.convert input = .ok result ↔
        map.policyFeedback (ImuMount.sprite0825RearPelvis K) order input = .ok result) ∧
      (1 / 1000000000 ≤ quaternionNorm input.quaternion →
        ∃ result, matrices.feedbackMap.convert input = .ok result) := by
  have complete : map.Complete := ⟨length_physicalMotorNames.mp length, distinct⟩
  obtain ⟨matrices, exported⟩ := exists_nativeMatrices complete (complete.inOrder members)
  have matricesOf := nativeMatrices_spec exported
  refine ⟨matrices, exported, ?_⟩
  intro input
  constructor
  · intro result
    exact matricesOf.convert_eq_ok
  · intro large
    exact ⟨_, except_bind_eq_ok.mpr ⟨(), raiseIf_eq_ok.mpr (not_lt.mpr large), rfl⟩⟩

theorem convert_eq_policyFeedback_uncoupled : ∃ matrices,
    (uncoupledMotorMap ℝ).nativeMatrices uncoupledOrder = .ok matrices ∧
    ∀ input result, matrices.feedbackMap.convert input = .ok result ↔
      (uncoupledMotorMap ℝ).policyFeedback (ImuMount.sprite0825RearPelvis ℝ) uncoupledOrder
        input = .ok result := by
  obtain ⟨matrices, exported, same⟩ := convert_eq_policyFeedback
    (uncoupledMotorMap_length ℝ) (uncoupledMotorMap_nodup ℝ) (uncoupledOrder_mem ℝ)
  exact ⟨matrices, exported, fun input => (same input).1⟩

end SpriteMotorMap

end SpriteRuntime
