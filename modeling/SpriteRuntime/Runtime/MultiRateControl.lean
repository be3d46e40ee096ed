import SpriteRuntime.Runtime.MotorDrives
import SpriteRuntime.Runtime.TargetProjection

/-!
# The multi-rate controller of the Python side

`SpriteMultiRateController` holds a policy target and turns it into motor commands: on every
tick for the ankle motors, on every tenth tick for the others.
-/

namespace SpriteRuntime

open Foundation

/-- `DamiaoMitState`. -/
structure MotorReading where
  position : ℚ
  velocity : ℚ

/-- `np.isclose`. -/
def npIsClose (left right : ℚ) : Prop := |left - right| ≤ 1 / 100000000 + 1 / 100000 * |right|

instance (left right : ℚ) : Decidable (npIsClose left right) :=
  inferInstanceAs (Decidable (_ ≤ _))

/-- `ANKLE_PAIR_NAMES`. -/
def anklePairNames : List PairName := [.leftAnkle, .rightAnkle]

/-- What `_ankle_commands` adds for a pair. -/
structure AnklePairCommands where
  commands : Dictionary MitCommand
  jointTorque : Fin 2 → ℚ
  saturated : List String

structure MultiRateCommandFrame where
  stateTick : ℕ
  ankleCommands : Dictionary MitCommand
  otherMotorCommands : Dictionary MitCommand
  ankleJointTorqueNm : List (PairName × (Fin 2 → ℚ))
  saturatedAnkleJoints : List String

/-- The command that a frame has for a motor. -/
def MultiRateCommandFrame.command? (frame : MultiRateCommandFrame) (motorName : String) :
    Option MitCommand :=
  (frame.ankleCommands.get? motorName).or (frame.otherMotorCommands.get? motorName)

structure SpriteMultiRateController where
  mapping : SpriteMotorMap ℚ
  jointEffortLimitNm : Index → ℚ
  positive : ∀ joint, 0 < jointEffortLimitNm joint
  target : Option {target : ImpedanceTarget ℚ // target.GainsNonneg} := none
  stateTick : ℕ := 0

namespace SpriteMultiRateController

variable (controller : SpriteMultiRateController)

/-- `latch_policy_target`. -/
def latchPolicyTarget (target : {target : ImpedanceTarget ℚ // target.GainsNonneg}) :
    SpriteMultiRateController :=
  { controller with target := some target }

/-- `_measured_joint_state`. -/
def measuredJointState (measured : Dictionary MotorReading) :
    Except String ((Index → ℚ) × (Index → ℚ)) := do
  raiseIf (¬SpriteMotorMap.Covers controller.mapping.physicalMotorNames measured)
    "measured motor states must exactly cover all 31 motors"
  let position ← controller.mapping.motorToJoint .position (measured.mapValues (·.position))
  let velocity ← controller.mapping.motorToJoint .velocity (measured.mapValues (·.velocity))
  return (position, velocity)

/-- The target against what is measured. -/
def impedance (target : ImpedanceTarget ℚ) (position velocity : Index → ℚ) :
    ImpedanceVectors Index :=
  { desiredPosition := target.position
    desiredVelocity := target.velocity
    measuredPosition := position
    measuredVelocity := velocity
    kp := target.kp
    kd := target.kd
    feedforward := target.feedforward }

/-- `raw_torque`. -/
def rawTorque {ι : Type} (vectors : ImpedanceVectors ι) (index : ι) : ℚ :=
  vectors.kp index * (vectors.desiredPosition index - vectors.measuredPosition index) +
    vectors.kd index * (vectors.desiredVelocity index - vectors.measuredVelocity index) +
    vectors.feedforward index

/-- `limited_torque`. -/
def limitedTorque {ι : Type} (limits : ι → ℚ) (vectors : ImpedanceVectors ι) (index : ι) : ℚ :=
  npClip (rawTorque vectors index) (-limits index) (limits index)

/-- The command of an ankle motor. -/
def torqueCommand (reading : MotorReading) (torque : ℚ) : MitCommand :=
  { position := reading.position
    velocity := 0
    kp := 0
    kd := 0
    feedforwardTorque := torque }

/-- A round of the loop of `_ankle_commands`. -/
def anklePair (measured : Dictionary MotorReading) (vectors : ImpedanceVectors Index)
    (pairName : PairName) : Except String AnklePairCommands := do
  let pair := controller.mapping.differentials pairName
  let indices ← controller.mapping.pairIndices pairName
  let vectors := vectors.select indices
  let limited := limitedTorque (fun side => controller.jointEffortLimitNm (indices side)) vectors
  let saturated := (List.finRange 2).filter fun side =>
    ¬npIsClose (rawTorque vectors side) (limited side)
  let motorTorque := pair.jointToDrive .torque limited
  let commands ← collect fun side => do
    let reading ← measured.item (pair.motorNames side)
    return (pair.motorNames side, torqueCommand reading (motorTorque side))
  return { commands := List.ofFn commands
           jointTorque := limited
           saturated := saturated.map pair.jointNames }

/-- `_ankle_motor_names`. -/
def ankleMotorNames : List String :=
  anklePairNames.flatMap fun pair => List.ofFn (controller.mapping.differentials pair).motorNames

/-- `other_commands`. -/
def otherCommands (vectors : ImpedanceVectors Index) : Except String (Dictionary MitCommand) :=
  if controller.stateTick % 10 = 0 then do
    let all ← controller.mapping.jointImpedanceToMotorCommands vectors
    return all.filter fun entry => entry.1 ∉ controller.ankleMotorNames
  else .ok []

/-- What `step` makes of the target before it counts the tick. -/
def frame (target : ImpedanceTarget ℚ) (measured : Dictionary MotorReading) :
    Except String MultiRateCommandFrame := do
  let (position, velocity) ← controller.measuredJointState measured
  let vectors := impedance target position velocity
  let ankles ← anklePairNames.mapM (controller.anklePair measured vectors)
  let other ← controller.otherCommands vectors
  return { stateTick := controller.stateTick
           ankleCommands := ankles.flatMap (·.commands)
           otherMotorCommands := other
           ankleJointTorqueNm := anklePairNames.zip (ankles.map (·.jointTorque))
           saturatedAnkleJoints := ankles.flatMap (·.saturated) }

/-- `step`. -/
def step (measured : Dictionary MotorReading) :
    Program SpriteMultiRateController String MultiRateCommandFrame := do
  let controller ← Program.get
  match controller.target with
  | none => Program.throw "a policy target must be latched before stepping"
  | some target => do
      let frame ← Program.ofExcept (controller.frame target measured)
      Program.modify fun controller => { controller with stateTick := controller.stateTick + 1 }
      return frame

end SpriteMultiRateController

end SpriteRuntime
