import Mathlib.Data.Matrix.Mul
import SpriteRuntime.Foundation.SquareRoots
import SpriteRuntime.Native.Motor

/-!
# Feedback of the policy

`FeedbackMap` turns what the motors and the IMU report into what the policy observes.
-/

namespace SpriteRuntime

open Foundation Matrix

/-- The 69 numbers of a round: 31 motor positions, 31 motor velocities, the angular velocity
of the sensor and its orientation. -/
structure FeedbackInput (K : Type) where
  motorPosition : Index → K
  motorVelocity : Index → K
  angularVelocity : Fin 3 → K
  quaternion : Fin 4 → K

/-- The 68 numbers of the observation: joint positions and velocities, the angular velocity of
the pelvis and the gravity in its frame. -/
@[ext] structure PolicyFeedback (K : Type) where
  jointPosition : Index → K
  jointVelocity : Index → K
  angularVelocity : Fin 3 → K
  projectedGravity : Fin 3 → K

/-- `FeedbackMap`; a row of `motor_to_joint` belongs to a joint. -/
structure FeedbackMap (K : Type) where
  motorZero : Index → K
  motorToJoint : Matrix Index Index K

variable {K : Type} [Field K] [LinearOrder K] [SquareRoots K]

/-- The norm of a quaternion. -/
def quaternionNorm (quaternion : Fin 4 → K) : K :=
  SquareRoots.sqrt (∑ index, quaternion index * quaternion index)

namespace FeedbackMap

/-- X is down, Y right and Z rear for the sensor; X front, Y left and Z up for the policy. -/
def angularVelocity (sensor : Fin 3 → K) : Fin 3 → K := ![-sensor 2, -sensor 1, -sensor 0]

/-- The gravity for a quaternion of norm one. -/
def projectedGravity (quaternion : Fin 4 → K) : Fin 3 → K :=
  let w := quaternion 0
  let x := quaternion 1
  let y := quaternion 2
  let z := quaternion 3
  ![1 - 2 * (x * x + y * y), 2 * (y * z + x * w), 2 * (x * z - y * w)]

/-- `convert`. -/
def convert (feedback : FeedbackMap K) (input : FeedbackInput K) :
    Except String (PolicyFeedback K) := do
  let norm := quaternionNorm input.quaternion
  raiseIf (norm < 1 / 1000000000) "invalid quaternion"
  return { jointPosition := fun joint => ∑ motor, feedback.motorToJoint joint motor *
             (input.motorPosition motor - feedback.motorZero motor)
           jointVelocity := fun joint =>
             ∑ motor, feedback.motorToJoint joint motor * input.motorVelocity motor
           angularVelocity := angularVelocity input.angularVelocity
           projectedGravity := projectedGravity fun index => input.quaternion index / norm }

theorem convert_eq_ok {feedback : FeedbackMap K} {input : FeedbackInput K}
    {result : PolicyFeedback K} : feedback.convert input = .ok result ↔
      1 / 1000000000 ≤ quaternionNorm input.quaternion ∧
      result.jointPosition =
        feedback.motorToJoint *ᵥ (input.motorPosition - feedback.motorZero) ∧
      result.jointVelocity = feedback.motorToJoint *ᵥ input.motorVelocity ∧
      result.angularVelocity = angularVelocity input.angularVelocity ∧
      result.projectedGravity = projectedGravity fun index =>
        input.quaternion index / quaternionNorm input.quaternion := by
  simp only [convert, except_bind_eq_ok, raiseIf_eq_ok, not_lt, exists_const]
  constructor
  · rintro ⟨large, returned⟩
    cases returned
    exact ⟨large, rfl, rfl, rfl, rfl⟩
  · rintro ⟨large, position, velocity, angular, gravity⟩
    refine ⟨large, congrArg Except.ok ?_⟩
    apply PolicyFeedback.ext
    · exact position.symm
    · exact velocity.symm
    · exact angular.symm
    · exact gravity.symm

end FeedbackMap

end SpriteRuntime
