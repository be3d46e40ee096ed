import Mathlib.Data.Matrix.Diagonal
import Mathlib.Tactic.Ring
import SpriteRuntime.Foundation.LinearInverse
import SpriteRuntime.Foundation.Dictionary
import SpriteRuntime.Native.Mit

/-!
# The joint and motor coordinates of the Python side

`SpriteMotorMap` has one ratio for each joint with a motor of its own, and one matrix for
each differential pair of joints and motors.  Arithmetic is exact, in any ordered field, and
all numbers are finite.
-/

namespace SpriteRuntime

open Foundation Matrix

variable {K : Type} [Field K] [LinearOrder K]

/-- The keys of `DIFFERENTIAL_PAIRS`. -/
inductive PairName where
  | leftAnkle
  | rightAnkle
  | head
  deriving DecidableEq

namespace PairName

def all : List PairName := [leftAnkle, rightAnkle, head]

instance : Fintype PairName :=
  ⟨⟨all, by decide⟩, fun pair => by cases pair <;> decide⟩

/-- `DIFFERENTIAL_PAIRS`. -/
def joints : PairName → Fin 2 → String
  | leftAnkle => !["left_ankle_pitch_joint", "left_ankle_roll_joint"]
  | rightAnkle => !["right_ankle_pitch_joint", "right_ankle_roll_joint"]
  | head => !["head_pitch_joint", "head_roll_joint"]

theorem mem_all (pair : PairName) : pair ∈ all := by
  cases pair <;> simp [all]

/-- No joint is in two pairs or twice in one. -/
theorem joints_injective {left right : PairName} {side other : Fin 2}
    (same : left.joints side = right.joints other) : left = right ∧ side = other := by
  have distinct : ∀ (left right : PairName) (side other : Fin 2),
      left.joints side = right.joints other → left = right ∧ side = other := by
    decide +kernel
  exact distinct left right side other same

end PairName

/-- What is mapped: positions, velocities or torques. -/
inductive DriveKind where
  | position
  | velocity
  | torque

def DriveKind.text : DriveKind → String
  | position => "position"
  | velocity => "velocity"
  | torque => "torque"

/-- A sign is -1 or 1. -/
def IsSign (value : K) : Prop := value = -1 ∨ value = 1

omit [LinearOrder K] in
theorem IsSign.mul_self {value : K} (sign : IsSign value) : value * value = 1 := by
  rcases sign with rfl | rfl <;> norm_num

/-- The vectors of a joint impedance: what is desired, what is measured, and the gains. -/
structure ImpedanceVectors (ι : Type) where
  desiredPosition : ι → ℚ
  desiredVelocity : ι → ℚ
  measuredPosition : ι → ℚ
  measuredVelocity : ι → ℚ
  kp : ι → ℚ
  kd : ι → ℚ
  feedforward : ι → ℚ

namespace ImpedanceVectors

variable {ι κ : Type} (vectors : ImpedanceVectors ι)

/-- The entries at some indices. -/
def select (indices : κ → ι) : ImpedanceVectors κ :=
  { desiredPosition := fun index => vectors.desiredPosition (indices index)
    desiredVelocity := fun index => vectors.desiredVelocity (indices index)
    measuredPosition := fun index => vectors.measuredPosition (indices index)
    measuredVelocity := fun index => vectors.measuredVelocity (indices index)
    kp := fun index => vectors.kp (indices index)
    kd := fun index => vectors.kd (indices index)
    feedforward := fun index => vectors.feedforward (indices index) }

/-- A gain is negative. -/
def NegativeGain : Prop := (∃ index, vectors.kp index < 0) ∨ ∃ index, vectors.kd index < 0

instance [Fintype ι] : Decidable vectors.NegativeGain :=
  inferInstanceAs (Decidable (_ ∨ _))

end ImpedanceVectors

/-- A joint with a motor of its own. -/
structure DirectMotorMap (K : Type) [Field K] [LinearOrder K] where
  motorName : String
  driveZeroRad : K
  encoderSign : K
  policyToMotorSign : K
  totalRatio : K
  encoder : IsSign encoderSign
  policyToMotor : IsSign policyToMotorSign
  positive : 0 < totalRatio

namespace DirectMotorMap

variable (direct : DirectMotorMap K)

def signedRatio : K := direct.encoderSign * direct.policyToMotorSign * direct.totalRatio

/-- `joint_to_drive_position`, `joint_to_drive_velocity` and `joint_to_drive_torque`. -/
def jointToDrive (kind : DriveKind) (value : K) : K :=
  match kind with
  | .position => direct.driveZeroRad + direct.signedRatio * value
  | .velocity => direct.signedRatio * value
  | .torque => value / direct.signedRatio

/-- `drive_to_joint_position`, `drive_to_joint_velocity` and `drive_to_joint_torque`. -/
def driveToJoint (kind : DriveKind) (value : K) : K :=
  match kind with
  | .position => (value - direct.driveZeroRad) / direct.signedRatio
  | .velocity => value / direct.signedRatio
  | .torque => direct.signedRatio * value

/-- `joint_to_drive_gains`, for one gain. -/
def jointToDriveGain (gain : K) : K := gain / (direct.totalRatio * direct.totalRatio)

/-- `joint_impedance_to_drive_command`. -/
def jointImpedanceToDriveCommand (direct : DirectMotorMap ℚ) (vectors : ImpedanceVectors Unit) :
    MitCommand :=
  { position := direct.jointToDrive .position (vectors.desiredPosition ())
    velocity := direct.jointToDrive .velocity (vectors.desiredVelocity ())
    kp := direct.jointToDriveGain (vectors.kp ())
    kd := direct.jointToDriveGain (vectors.kd ())
    feedforwardTorque := direct.jointToDrive .torque (vectors.feedforward ()) }

theorem signedRatio_mul_self :
    direct.signedRatio * direct.signedRatio = direct.totalRatio * direct.totalRatio := by
  have encoder := direct.encoder.mul_self
  have policy := direct.policyToMotor.mul_self
  calc direct.signedRatio * direct.signedRatio
      = (direct.encoderSign * direct.encoderSign) *
          (direct.policyToMotorSign * direct.policyToMotorSign) *
          (direct.totalRatio * direct.totalRatio) := by
        unfold signedRatio
        ring
    _ = direct.totalRatio * direct.totalRatio := by rw [encoder, policy]; ring

theorem signedRatio_ne_zero [IsStrictOrderedRing K] : direct.signedRatio ≠ 0 := by
  intro zero
  have square := direct.signedRatio_mul_self
  rw [zero, zero_mul] at square
  exact absurd square.symm (mul_pos direct.positive direct.positive).ne'

end DirectMotorMap

/-- `DifferentialPair`: two joints that two motors move together. -/
structure DifferentialPair (K : Type) [Field K] [LinearOrder K] where
  jointToMotorMatrix : Matrix (Fin 2) (Fin 2) K
  motorZeroRad : Fin 2 → K
  regular : ¬|jointToMotorMatrix.det| < 1 / 100000000

namespace DifferentialPair

variable (pair : DifferentialPair K)

theorem det_ne_zero [IsStrictOrderedRing K] : pair.jointToMotorMatrix.det ≠ 0 := by
  intro singular
  apply pair.regular
  rw [singular]
  norm_num

/-- `np.linalg.solve` with the matrix of the pair. -/
def solve (values : Fin 2 → K) : Fin 2 → K := cramerInverse pair.jointToMotorMatrix *ᵥ values

/-- `np.linalg.solve` with its transpose. -/
def solveTransposed (values : Fin 2 → K) : Fin 2 → K :=
  cramerInverse pair.jointToMotorMatrixᵀ *ᵥ values

/-- `joint_to_motor_position`, `joint_to_motor_velocity` and `joint_to_motor_torque`. -/
def jointToMotor (kind : DriveKind) (values : Fin 2 → K) : Fin 2 → K :=
  match kind with
  | .position => pair.jointToMotorMatrix *ᵥ values + pair.motorZeroRad
  | .velocity => pair.jointToMotorMatrix *ᵥ values
  | .torque => pair.solveTransposed values

/-- `motor_to_joint_position`, `motor_to_joint_velocity` and `motor_to_joint_torque`. -/
def motorToJoint (kind : DriveKind) (values : Fin 2 → K) : Fin 2 → K :=
  match kind with
  | .position => pair.solve (values - pair.motorZeroRad)
  | .velocity => pair.solve values
  | .torque => pair.jointToMotorMatrixᵀ *ᵥ values

end DifferentialPair

/-- A pair with the zeros and signs of its two drives. -/
structure DifferentialPairDriveMap (K : Type) [Field K] [LinearOrder K] where
  name : PairName
  motorNames : Fin 2 → String
  driveZeroRad : Fin 2 → K
  encoderSign : Fin 2 → K
  coupling : DifferentialPair K
  distinct : motorNames 0 ≠ motorNames 1
  encoder : ∀ side, IsSign (encoderSign side)

namespace DifferentialPairDriveMap

variable (pair : DifferentialPairDriveMap K)

/-- `joint_names`, which the constructor compares with `DIFFERENTIAL_PAIRS`. -/
def jointNames : Fin 2 → String := pair.name.joints

/-- `joint_to_drive_position`, `joint_to_drive_velocity` and `joint_to_drive_torque`. -/
def jointToDrive (kind : DriveKind) (values : Fin 2 → K) : Fin 2 → K :=
  let canonical := pair.encoderSign * pair.coupling.jointToMotor kind values
  match kind with
  | .position => pair.driveZeroRad + canonical
  | _ => canonical

/-- `drive_to_joint_position`, `drive_to_joint_velocity` and `drive_to_joint_torque`. -/
def driveToJoint (kind : DriveKind) (values : Fin 2 → K) : Fin 2 → K :=
  match kind with
  | .position => pair.coupling.motorToJoint kind (pair.encoderSign * (values - pair.driveZeroRad))
  | _ => pair.coupling.motorToJoint kind (pair.encoderSign * values)

/-- `joint_to_drive_matrix`. -/
def jointToDriveMatrix : Matrix (Fin 2) (Fin 2) K :=
  diagonal pair.encoderSign * pair.coupling.jointToMotorMatrix

/-- `drive_kp` and `drive_kd`. -/
def driveGain (inverse : Matrix (Fin 2) (Fin 2) K) (gain : Fin 2 → K) :
    Matrix (Fin 2) (Fin 2) K :=
  inverseᵀ * diagonal gain * inverse

/-- The commands of the two motors, given the inverse of the matrix. -/
def driveCommands (pair : DifferentialPairDriveMap ℚ) (inverse : Matrix (Fin 2) (Fin 2) ℚ)
    (vectors : ImpedanceVectors (Fin 2)) (side : Fin 2) : MitCommand :=
  let drivePosition := pair.jointToDrive .position vectors.desiredPosition
  let driveVelocity := pair.jointToDrive .velocity vectors.desiredVelocity
  let positionError := drivePosition - pair.jointToDrive .position vectors.measuredPosition
  let velocityError := driveVelocity - pair.jointToDrive .velocity vectors.measuredVelocity
  let driveKp := driveGain inverse vectors.kp
  let driveKd := driveGain inverse vectors.kd
  let coupledTorque := (driveKp - diagonal driveKp.diag) *ᵥ positionError +
    (driveKd - diagonal driveKd.diag) *ᵥ velocityError + inverseᵀ *ᵥ vectors.feedforward
  { position := drivePosition side
    velocity := driveVelocity side
    kp := driveKp side side
    kd := driveKd side side
    feedforwardTorque := coupledTorque side }

/-- `joint_impedance_to_drive_commands`. -/
def jointImpedanceToDriveCommands (pair : DifferentialPairDriveMap ℚ)
    (vectors : ImpedanceVectors (Fin 2)) : Except String (Fin 2 → MitCommand) := do
  raiseIf vectors.NegativeGain "differential impedance gains must be non-negative"
  let inverse ← linalgInv pair.jointToDriveMatrix
  return pair.driveCommands inverse vectors

/-- The inverse of `joint_to_drive_matrix`. -/
def driveToJointMatrix : Matrix (Fin 2) (Fin 2) K :=
  cramerInverse pair.coupling.jointToMotorMatrix * diagonal pair.encoderSign

theorem driveToJointMatrix_mul [IsStrictOrderedRing K] :
    pair.driveToJointMatrix * pair.jointToDriveMatrix = 1 := by
  have signs : diagonal pair.encoderSign * diagonal pair.encoderSign = 1 := by
    rw [diagonal_mul_diagonal, ← diagonal_one]
    congr 1
    exact funext fun side => (pair.encoder side).mul_self
  calc pair.driveToJointMatrix * pair.jointToDriveMatrix
      = cramerInverse pair.coupling.jointToMotorMatrix *
          (diagonal pair.encoderSign * diagonal pair.encoderSign) *
          pair.coupling.jointToMotorMatrix := by
        simp only [driveToJointMatrix, jointToDriveMatrix, Matrix.mul_assoc]
    _ = 1 := by rw [signs, Matrix.mul_one, cramerInverse_mul pair.coupling.det_ne_zero]

theorem jointImpedanceToDriveCommands_eq (pair : DifferentialPairDriveMap ℚ)
    {vectors : ImpedanceVectors (Fin 2)} (gains : ¬vectors.NegativeGain) :
    pair.jointImpedanceToDriveCommands vectors =
      .ok (pair.driveCommands pair.driveToJointMatrix vectors) := by
  rw [jointImpedanceToDriveCommands, raiseIf, if_neg gains,
    linalgInv_eq_ok.mpr pair.driveToJointMatrix_mul]
  rfl

end DifferentialPairDriveMap

/-- The maps of all joints and motors.  `direct` has the name of the joint for its key; the
pairs are the two ankles and the head, under whichever key. -/
structure SpriteMotorMap (K : Type) [Field K] [LinearOrder K] where
  policyJointNames : Index → String
  direct : Dictionary (DirectMotorMap K)
  differentials : PairName → DifferentialPairDriveMap K
  unique : Function.Injective policyJointNames
  distinct : direct.keys.Nodup
  pairs : Function.Injective fun pair => (differentials pair).name
  covers : ∀ name, name ∈ direct.keys ↔ (∃ joint, policyJointNames joint = name) ∧
    ∀ pair side, PairName.joints pair side ≠ name

namespace SpriteMotorMap

variable (map : SpriteMotorMap K)

/-- `physical_motor_names`. -/
def physicalMotorNames : List String :=
  map.direct.map (fun entry => entry.2.motorName) ++
    PairName.all.flatMap fun pair => List.ofFn (map.differentials pair).motorNames

/-- The index of a policy joint, with the text of a `KeyError`. -/
def policyIndex (name : String) : Except String Index :=
  match (List.finRange kJointCount).find? fun joint => map.policyJointNames joint = name with
  | some joint => .ok joint
  | none => .error ("'" ++ name ++ "'")

/-- The indices of the joints of a pair. -/
def pairIndices (pair : PairName) : Except String (Fin 2 → Index) :=
  collect fun side => map.policyIndex ((map.differentials pair).jointNames side)

/-- The loops over the direct motors and over the pairs. -/
def assembleMotors {α : Type} (direct : DirectMotorMap K → Index → α)
    (paired : DifferentialPairDriveMap K → (Fin 2 → Index) → Except String (Fin 2 → α)) :
    Except String (Dictionary α) := do
  let direct ← map.direct.mapM fun entry => do
    let joint ← map.policyIndex entry.1
    return (entry.2.motorName, direct entry.2 joint)
  let pairs ← PairName.all.mapM fun pair => do
    let joints ← map.pairIndices pair
    let values ← paired (map.differentials pair) joints
    return List.ofFn fun side => ((map.differentials pair).motorNames side, values side)
  return direct ++ pairs.flatten

/-- `_joint_to_motor`. -/
def jointToMotor (kind : DriveKind) (vector : Index → K) : Except String (Dictionary K) := do
  let result ← map.assembleMotors (fun direct joint => direct.jointToDrive kind (vector joint))
    fun pair joints => .ok (pair.jointToDrive kind fun side => vector (joints side))
  raiseIf (result.size ≠ 31) "policy-to-motor mapping did not produce 31 physical motors"
  return result

/-- The keys of a dictionary are these names. -/
def Covers {α : Type} (names : List String) (dictionary : Dictionary α) : Prop :=
  (∀ name ∈ dictionary.keys, name ∈ names) ∧ ∀ name ∈ names, name ∈ dictionary.keys

instance {α : Type} (names : List String) (dictionary : Dictionary α) :
    Decidable (Covers names dictionary) :=
  inferInstanceAs (Decidable (_ ∧ _))

/-- `_motor_to_joint`. -/
def motorToJoint (kind : DriveKind) (motor : Dictionary K) : Except String (Index → K) := do
  raiseIf (¬Covers map.physicalMotorNames motor)
    ("motor " ++ kind.text ++ " must exactly cover all 31 physical motors")
  let direct ← map.direct.mapM fun entry => do
    let value ← motor.item entry.2.motorName
    return (entry.1, entry.2.driveToJoint kind value)
  let pairs ← PairName.all.mapM fun pair => do
    let values ← collect fun side => motor.item ((map.differentials pair).motorNames side)
    return List.ofFn fun side => ((map.differentials pair).jointNames side,
      (map.differentials pair).driveToJoint kind values side)
  let joint : Dictionary K := direct ++ pairs.flatten
  collect fun index => joint.item (map.policyJointNames index)

/-- `joint_impedance_to_motor_commands`. -/
def jointImpedanceToMotorCommands (map : SpriteMotorMap ℚ) (vectors : ImpedanceVectors Index) :
    Except String (Dictionary MitCommand) := do
  raiseIf vectors.NegativeGain "joint impedance gains must be non-negative"
  let commands ← map.assembleMotors
    (fun direct joint => direct.jointImpedanceToDriveCommand (vectors.select fun _ => joint))
    fun pair joints => pair.jointImpedanceToDriveCommands (vectors.select joints)
  raiseIf (¬Covers map.physicalMotorNames commands)
    "impedance mapping did not produce the exact physical motor set"
  return commands

end SpriteMotorMap

end SpriteRuntime
