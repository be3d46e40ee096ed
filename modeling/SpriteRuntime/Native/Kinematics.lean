import SpriteRuntime.Native.Motor
import Mathlib.Data.Matrix.Mul

/-!
# Kinematics and joint limits

The affine map between the 31 joints and the 31 motors, and the envelope that
every joint target has to stay in, as the two files of the controller give
them.
-/

namespace SpriteRuntime

structure NativeKinematics where
  jointNames : Index → String
  motorOffset : Index → ℚ
  jointEffortLimit : Index → ℚ
  jointToMotor : Matrix Index Index ℚ
  motorToJoint : Matrix Index Index ℚ

structure JointSafety where
  name : String
  positionMin : ℚ
  positionMax : ℚ
  velocityMax : ℚ
  kpMax : ℚ
  kdMax : ℚ
  feedforwardTorqueMax : ℚ

/-- `joint_names[joint].find("ankle_") != npos`. -/
def NativeKinematics.isAnkleJoint (kinematics : NativeKinematics)
    (joint : Index) : Bool :=
  decide ("ankle_".toList <:+: (kinematics.jointNames joint).toList)

/-- The measured joint positions: `motor_to_joint` applied to the last motor
positions minus the offsets. -/
def measuredJointPosition (kinematics : NativeKinematics)
    (motors : Index → MotorState) (joint : Index) : ℚ :=
  ∑ motor, kinematics.motorToJoint joint motor *
    ((motors motor).lastPosition - kinematics.motorOffset motor)

/-- The measured joint velocities. -/
def measuredJointVelocity (kinematics : NativeKinematics)
    (motors : Index → MotorState) (joint : Index) : ℚ :=
  ∑ motor, kinematics.motorToJoint joint motor * (motors motor).lastVelocity

/-- A robot without coupling, the first of its joints an ankle joint. -/
@[simps]
def decoupledKinematics : NativeKinematics :=
  { jointNames := fun joint =>
      if joint = 0 then "left_ankle_pitch_joint" else "waist_yaw_joint"
    motorOffset := fun _ => 0
    jointEffortLimit := fun _ => 3
    jointToMotor := 1
    motorToJoint := 1 }

end SpriteRuntime
