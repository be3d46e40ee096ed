import SpriteRuntime.Runtime.MotorMapping
import SpriteRuntime.Runtime.PythonValue

/-!
# The frozen tables of the hardware

The manufacturer's figures of the four motor models, and the bus address and the model of every
motor of the robot.  A motor of a single joint stands under the name of the joint, and one of a
differential pair under its own label.
-/

namespace SpriteRuntime

open Foundation

def j4340p : String := "DM-J4340P-2EC V1.1 (48V)"

def j4310p : String := "DM-J4310P-2EC (48V)"

def j3507 : String := "DM-J3507-2EC (48V)"

def j6248p : String := "DM-J6248P-2EC"

/-- `math.pi`. -/
def mathPi : ℚ := 884279719003555 / 281474976710656

/-- A figure of a model, or the title of the document it is from. -/
inductive SpecValue where
  | number (value : ℚ)
  | text (value : String)

/-- What the manufacturer states of one model. -/
structure ModelFigures where
  ratedTorqueNm : ℚ
  peakTorqueNm : ℚ
  ratedRpm : ℚ
  maximumNoLoadRpm : ℚ
  ratedPhaseCurrentA : ℚ
  ratedSupplyCurrentA : ℚ
  peakPhaseCurrentA : ℚ
  peakSupplyCurrentA : ℚ
  sourceDocument : String

/-- The entry of `DAMIAO_MODEL_SPECS`; the two temperatures are the same for every model. -/
def ModelFigures.entry (figures : ModelFigures) : List (String × SpecValue) :=
  [("rated_torque_nm", .number figures.ratedTorqueNm),
    ("peak_torque_nm", .number figures.peakTorqueNm),
    ("rated_speed_rad_s", .number (figures.ratedRpm * 2 * mathPi / 60)),
    ("maximum_no_load_speed_rad_s_at_48v", .number (figures.maximumNoLoadRpm * 2 * mathPi / 60)),
    ("rated_phase_current_a", .number figures.ratedPhaseCurrentA),
    ("rated_supply_current_a", .number figures.ratedSupplyCurrentA),
    ("peak_phase_current_a", .number figures.peakPhaseCurrentA),
    ("peak_supply_current_a", .number figures.peakSupplyCurrentA),
    ("recommended_motor_temperature_limit_c", .number 100),
    ("drive_shutdown_temperature_c", .number 120),
    ("source_document", .text figures.sourceDocument)]

/-- `DAMIAO_MODEL_SPECS`. -/
def damiaoModelSpecs : List (String × ModelFigures) :=
  [(j4340p,
      { ratedTorqueNm := 14
        peakTorqueNm := 40
        ratedRpm := 36
        maximumNoLoadRpm := 112
        ratedPhaseCurrentA := 411 / 100
        ratedSupplyCurrentA := 18 / 10
        peakPhaseCurrentA := 1985 / 100
        peakSupplyCurrentA := 112 / 10
        sourceDocument := "DM-J4340P-2EC V1.1 User Manual V1.1 2026-04-09" }),
    (j4310p,
      { ratedTorqueNm := 35 / 10
        peakTorqueNm := 125 / 10
        ratedRpm := 120
        maximumNoLoadRpm := 450
        ratedPhaseCurrentA := 48 / 10
        ratedSupplyCurrentA := 16 / 10
        peakPhaseCurrentA := 20
        peakSupplyCurrentA := 128 / 10
        sourceDocument := "DM-J4310P-2EC User Manual V1.1" }),
    (j3507,
      { ratedTorqueNm := 8 / 10
        peakTorqueNm := 3
        ratedRpm := 150
        maximumNoLoadRpm := 910
        ratedPhaseCurrentA := 3
        ratedSupplyCurrentA := 6 / 10
        peakPhaseCurrentA := 83 / 10
        peakSupplyCurrentA := 2
        sourceDocument := "DM-J3507-2EC Gear Motor User Manual V1.1 2026-04-16" }),
    (j6248p,
      { ratedTorqueNm := 30
        peakTorqueNm := 97
        ratedRpm := 40
        maximumNoLoadRpm := 60
        ratedPhaseCurrentA := 113 / 10
        ratedSupplyCurrentA := 37 / 10
        peakPhaseCurrentA := 387 / 10
        peakSupplyCurrentA := 8
        sourceDocument := "DM-J6248P-2EC Gear Motor User Manual V1.1 2026-04-13" })]

/-! ## The differential pairs -/

namespace PairName

/-- The key of a pair in `DIFFERENTIAL_PAIRS`. -/
def text : PairName → String
  | leftAnkle => "left_ankle"
  | rightAnkle => "right_ankle"
  | head => "head"

/-- The values of `ANKLE_PAIRS`. -/
def isAnkle : PairName → Bool
  | head => false
  | _ => true

/-- The pair that a `coupled_joints` tuple is. -/
def ofCoupled : List Value → Option PairName
  | [first, second] =>
      all.find? fun pair => first.isText (pair.joints 0) && second.isText (pair.joints 1)
  | _ => none

end PairName

/-- `DIFFERENTIAL_JOINTS`. -/
def differentialJoints : List String := PairName.all.flatMap fun pair => List.ofFn pair.joints

/-! ## The motors -/

/-- `CONFIRMED_CAN_ENDPOINTS`: the channel and the id of every role. -/
def confirmedCanEndpoints : List (String × ℤ × ℤ) :=
  [("left_hip_pitch_joint", 0, 0x01), ("left_hip_roll_joint", 0, 0x02),
    ("left_hip_yaw_joint", 0, 0x03), ("left_knee_joint", 0, 0x04), ("left_ankle_motor_a", 0, 0x05),
    ("left_ankle_motor_b", 0, 0x06), ("waist_yaw_joint", 0, 0x07), ("waist_roll_joint", 0, 0x08),
    ("right_hip_pitch_joint", 1, 0x01), ("right_hip_roll_joint", 1, 0x02),
    ("right_hip_yaw_joint", 1, 0x03), ("right_knee_joint", 1, 0x04),
    ("right_ankle_motor_a", 1, 0x05), ("right_ankle_motor_b", 1, 0x06), ("head_motor_a", 1, 0x07),
    ("head_motor_b", 1, 0x08), ("left_shoulder_pitch_joint", 2, 0x01),
    ("left_shoulder_roll_joint", 2, 0x02), ("left_shoulder_yaw_joint", 2, 0x03),
    ("left_elbow_joint", 2, 0x04), ("left_wrist_yaw_joint", 2, 0x05),
    ("left_wrist_pitch_joint", 2, 0x06), ("left_wrist_roll_joint", 2, 0x07),
    ("head_yaw_joint", 2, 0x08), ("right_shoulder_pitch_joint", 3, 0x01),
    ("right_shoulder_roll_joint", 3, 0x02), ("right_shoulder_yaw_joint", 3, 0x03),
    ("right_elbow_joint", 3, 0x04), ("right_wrist_yaw_joint", 3, 0x05),
    ("right_wrist_pitch_joint", 3, 0x06), ("right_wrist_roll_joint", 3, 0x07)]

/-- `CONFIRMED_MOTOR_MODELS`. -/
def confirmedMotorModels : List (String × String) :=
  [("left_hip_pitch_joint", j4340p), ("left_hip_roll_joint", j4340p),
    ("left_hip_yaw_joint", j4340p), ("left_knee_joint", j4340p), ("left_ankle_motor_a", j4310p),
    ("left_ankle_motor_b", j4310p), ("waist_yaw_joint", j4340p), ("waist_roll_joint", j6248p),
    ("right_hip_pitch_joint", j4340p), ("right_hip_roll_joint", j4340p),
    ("right_hip_yaw_joint", j4340p), ("right_knee_joint", j4340p), ("right_ankle_motor_a", j4310p),
    ("right_ankle_motor_b", j4310p), ("head_motor_a", j3507), ("head_motor_b", j3507),
    ("left_shoulder_pitch_joint", j4340p), ("left_shoulder_roll_joint", j4340p),
    ("left_shoulder_yaw_joint", j4310p), ("left_elbow_joint", j4310p),
    ("left_wrist_yaw_joint", j4310p), ("left_wrist_pitch_joint", j3507),
    ("left_wrist_roll_joint", j3507), ("head_yaw_joint", j3507),
    ("right_shoulder_pitch_joint", j4340p), ("right_shoulder_roll_joint", j4340p),
    ("right_shoulder_yaw_joint", j4310p), ("right_elbow_joint", j4310p),
    ("right_wrist_yaw_joint", j4310p), ("right_wrist_pitch_joint", j3507),
    ("right_wrist_roll_joint", j3507)]

/-- `MOTOR_REQUIRED_FIELDS`. -/
def motorRequiredFields : List String :=
  ["model", "firmware", "can_channel", "can_id", "master_id", "motor_zero_rad", "encoder_sign",
    "reduction_ratio", "linkage_ratio", "soft_limit_rad", "hard_limit_rad", "rated_torque_nm",
    "peak_torque_nm", "rated_speed_rad_s", "max_speed_rad_s", "rated_current_a",
    "peak_current_a", "temperature_limit_c", "mit_ranges"]

/-- The address of a role is that of no other one. -/
theorem confirmedCanEndpoints_injective {role other : String} {endpoint : ℤ × ℤ}
    (first : confirmedCanEndpoints.lookup role = some endpoint)
    (second : confirmedCanEndpoints.lookup other = some endpoint) : role = other := by
  have distinct : ∀ entry ∈ confirmedCanEndpoints, ∀ another ∈ confirmedCanEndpoints,
      entry.2 = another.2 → entry.1 = another.1 := by
    decide +kernel
  exact distinct _ (mem_of_lookup first) _ (mem_of_lookup second) rfl

end SpriteRuntime
