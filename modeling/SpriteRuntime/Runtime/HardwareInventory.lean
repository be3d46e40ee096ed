import Mathlib.Data.List.Sort
import SpriteRuntime.Runtime.HardwareRecord

/-!
# The check of the hardware inventory

The inventory has parts for the adapter, the motor models, the controller, the motors, the IMU,
the emergency stop and the differential pairs.  The errors of all of them are reported together.
-/

namespace SpriteRuntime

open Foundation

variable (strings : PythonStrings)

/-- The records of one part, or none when it is not a dictionary. -/
def part (hardware : List (String × Value)) (name : String) : Option (List (String × Value)) :=
  (field hardware name).dict?

/-- `sorted`. -/
def sortedNames (names : List String) : List String := names.insertionSort (· ≤ ·)

/-! ## The adapter -/

/-- `SOCKETCAN_INTERFACE_RE.fullmatch`. -/
def isInterfaceName (text : String) : Bool :=
  text ≠ "" && text.toList.all fun letter =>
    letter.isAlphanum || letter = '_' || letter = '.' || letter = '-'

/-- The fields of `numeric_requirements`, with their bounds as they are printed. -/
def numericRequirements : List (String × ℚ × Option ℚ × String) :=
  [("duration_s", 120, none, "[120.0, inf]"),
    ("minimum_motor_sample_coverage", 99 / 100, some 1, "[0.99, 1.0]"),
    ("deadline_misses", 0, some 0, "[0.0, 0.0]"),
    ("can_error_delta", 0, some 0, "[0.0, 0.0]"),
    ("can_drop_delta", 0, some 0, "[0.0, 0.0]"),
    ("nonzero_gain_or_torque_tx_attempts", 0, some 0, "[0.0, 0.0]"),
    ("automatic_enable_attempts", 0, some 0, "[0.0, 0.0]"),
    ("automatic_mode_switch_attempts", 0, some 0, "[0.0, 0.0]")]

/-- A float within bounds, or a `ValueError`. -/
def boundedFloat (value : Value) (within : ℚ → Bool) : Except PyException Unit := do
  let number ← finiteFloat strings value
  if within number then return () else throw (.valueError "")

/-- The interfaces of the adapter. -/
def checkInterfaces (interfaces : Value) : Check Unit :=
  match interfaces.list? with
  | some [first, second, third, fourth] =>
      match [first, second, third, fourth].mapM Value.text? with
      | some names =>
          if names.all isInterfaceName then
            Audit.noteIf (¬names.Nodup) "can_adapter.interfaces must be unique"
          else Audit.note "can_adapter.interfaces contains an invalid interface name"
      | none => Audit.note "can_adapter.interfaces contains an invalid interface name"
  | _ => Audit.note "can_adapter.interfaces must contain four SocketCAN interface names"

/-- The record of the shadow run before arming. -/
def checkCommissioningShadow (shadow : Value) : Check Unit :=
  match shadow.dict? with
  | none => Audit.note "can_adapter.commissioning_shadow configuration is missing"
  | some shadow => do
      Audit.forEach ["required_before_arm", "completed", "all_motors_disabled"] fun name =>
        Audit.noteIf ((field shadow name).isTrue = false)
          s!"can_adapter.commissioning_shadow.{name} must be true"
      Audit.noteIf ((field shadow "method").isText "active_zero_gain_position_echo" = false)
        "can_adapter.commissioning_shadow.method must be active_zero_gain_position_echo"
      Audit.noteIf ((field shadow "payload").isText "position_echo_v0_kp0_kd0_tau0" = false)
        "can_adapter.commissioning_shadow.payload is not the qualified zero-gain payload"
      Audit.noteIf (nonempty strings (field shadow "evidence_report") = false)
        "can_adapter.commissioning_shadow.evidence_report is empty or TODO"
      Audit.forEach numericRequirements fun (name, minimum, maximum, range) => do
        let _ ← Audit.orNote PyException.isMalformed
          s!"can_adapter.commissioning_shadow.{name} must be in {range}" do
            let value ← item shadow name
            boundedFloat strings value fun number =>
              minimum ≤ number && maximum.all (number ≤ ·)

/-- `_validate_can_adapter`. -/
def validateCanAdapter (hardware : List (String × Value)) : Check Unit :=
  match part hardware "can_adapter" with
  | none => Audit.note "can_adapter configuration is missing"
  | some adapter => do
      Audit.noteIf ((field adapter "backend").isText "socketcan" = false)
        "can_adapter.backend must be socketcan"
      Audit.noteIf (nonempty strings (field adapter "vendor") = false)
        "can_adapter.vendor is empty or TODO"
      Audit.noteIf (nonempty strings (field adapter "sdk_version") = false)
        "can_adapter.sdk_version is empty or TODO"
      Audit.noteIf (((field adapter "logical_bus_names").list?.bind (·.mapM Value.text?)) ≠
          some ["CANFD1", "CANFD2", "CANFD3", "CANFD4"])
        "can_adapter.logical_bus_names must be CANFD1 through CANFD4"
      checkInterfaces (field adapter "interfaces")
      checkCommissioningShadow strings (field adapter "commissioning_shadow")

/-! ## The motor models -/

/-- `set(left) == set(right)`. -/
def sameNames (left right : List String) : Bool :=
  left.all (· ∈ right) && right.all (· ∈ left)

/-- The figures of one model. -/
def checkModelSpec (model : String) (expected : List (String × SpecValue)) (actual : Value) :
    Check Unit :=
  match actual.dict? with
  | none => Audit.note s!"motor_model_specs.{model} must be an object"
  | some actual =>
      if sameNames (actual.map Prod.fst) (expected.map Prod.fst) then
        Audit.forEach expected fun (name, expected) =>
          match expected with
          | .text text => Audit.noteIf ((field actual name).isText text = false)
              s!"motor_model_specs.{model}.{name} source mismatch"
          | .number number => noteUnlessClose strings (field actual name) number (1 / 1000000)
              s!"motor_model_specs.{model}.{name} value mismatch"
      else Audit.note s!"motor_model_specs.{model} fields do not match the frozen schema"

/-- `_validate_motor_model_specs`. -/
def validateMotorModelSpecs (hardware : List (String × Value)) : Check Unit :=
  match part hardware "motor_model_specs" with
  | none => Audit.note "motor_model_specs is missing"
  | some specs =>
      if sameNames (specs.map Prod.fst) (damiaoModelSpecs.map Prod.fst) then
        Audit.forEach damiaoModelSpecs fun (model, figures) =>
          checkModelSpec strings model figures.entry (field specs model)
      else Audit.note "motor_model_specs must exactly cover the four installed models"

/-! ## The controller -/

def validateController (hardware : List (String × Value)) : Check Unit :=
  match part hardware "controller" with
  | none => Audit.note "controller configuration is missing"
  | some controller => do
      let _ ← Audit.orNote PyException.isTypeOrValue
        "controller.nominal_bus_voltage_v must be within the qualified 36-40 V range"
        (boundedFloat strings (field controller "nominal_bus_voltage_v") fun voltage =>
          36 ≤ voltage && voltage ≤ 40)
      let _ ← Audit.orNote PyException.isMalformed
        "controller.damiao_embedded_kd_max must be finite and in (0, 5]" do
          let value ← item controller "damiao_embedded_kd_max"
          boundedFloat strings value fun maximumKd => 0 < maximumKd && maximumKd ≤ 5

/-! ## The motors -/

/-- What the loop over the motors keeps of one record. -/
structure MotorEntry where
  label : String
  direct : Option String
  coupled : Option PairName
  endpoint : Option String
  feedback : Option String

/-- `0x{id:02x}`. -/
def hexId (id : ℕ) : String :=
  "0x" ++ String.ofList [Nat.digitChar (id / 16), Nat.digitChar (id % 16)]

/-- The address and the model that the tables have for a role. -/
def checkConfirmed (label role : String) (record : List (String × Value)) : Check Unit := do
  match confirmedCanEndpoints.lookup role with
  | none => Audit.note s!"motor_map.{label} has no confirmed Sprite0825 CAN endpoint"
  | some (channel, id) =>
      Audit.noteIf (((field record "can_channel").isNumber channel &&
          (field record "can_id").isNumber id) = false)
        (s!"motor_map.{label} CAN endpoint must be channel {channel} ID " ++ hexId id.toNat)
  match confirmedMotorModels.lookup role with
  | none => Audit.note s!"motor_map.{label} has no confirmed Sprite0825 motor model"
  | some expected =>
      Audit.noteIf ((field record "model").isText expected = false)
        s!"motor_map.{label}.model must be {expected}"

/-- The body of the loop over the motors. -/
def validateMotor (policyJoints : List String) (entry : String × Value) : Check MotorEntry := do
  let (label, record) := entry
  let roles ← validateMotorRecord strings label record policyJoints
  let feedback ← match record.dict? with
    | none => pure none
    | some record => do
        validateKnownMotorProfile strings label record roles.direct roles.coupled
        checkConfirmed label (roles.direct.getD label) record
        pure (endpointText (field record "can_channel") (field record "master_id"))
  -- A tuple is looked up among the keys of a dictionary.
  Audit.runIf (roles.coupled.any (fun joints => joints.any (!·.isHashable)) = true)
    (Audit.raise .typeError)
  return {
    label
    direct := roles.direct
    coupled := roles.coupled.bind PairName.ofCoupled
    endpoint := roles.endpoint
    feedback }

/-- The names that stand more than once in a list. -/
def repeated (names : List String) : List String :=
  sortedNames (names.dedup.filter fun name => 1 < names.count name)

/-- `coupled_labels[pair]`. -/
def coupledLabels (entries : List MotorEntry) (pair : PairName) : List String :=
  (entries.filter fun entry => entry.coupled = some pair).map MotorEntry.label

/-- The checks of the motors as a whole. -/
def checkMotorCoverage (policyJoints : List String) (entries : List MotorEntry) : Check Unit := do
  let directs := entries.filterMap MotorEntry.direct
  let endpoints := entries.filterMap MotorEntry.endpoint
  let feedback := entries.filterMap MotorEntry.feedback
  let expected := policyJoints.dedup.filter (· ∉ differentialJoints)
  let missing := sortedNames (expected.filter (· ∉ directs))
  let unexpected := sortedNames (directs.dedup.filter (· ∈ differentialJoints))
  Audit.noteIf (missing ≠ []) ("missing direct motor mappings for: " ++ commaSeparated missing)
  Audit.noteIf (repeated directs ≠ [])
    ("duplicate direct motor mappings for: " ++ commaSeparated (repeated directs))
  Audit.noteIf (unexpected ≠ [])
    ("differential policy joints must use coupled_joints, not direct mappings: " ++
      commaSeparated unexpected)
  Audit.forEach PairName.all fun pair =>
    Audit.noteIf ((coupledLabels entries pair).length ≠ 2)
      s!"{pair.text} requires exactly two coupled motor records"
  Audit.noteIf (repeated endpoints ≠ [])
    ("duplicate CAN channel/ID endpoints: " ++ commaSeparated (repeated endpoints))
  Audit.noteIf (repeated feedback ≠ [])
    ("duplicate CAN channel/Master-ID feedback endpoints: " ++ commaSeparated (repeated feedback))
  let overlap := sortedNames (endpoints.dedup.filter (· ∈ feedback))
  Audit.noteIf (overlap ≠ [])
    ("CAN command and feedback endpoints overlap: " ++ commaSeparated overlap)
  Audit.noteIf (entries.length ≠ 31)
    s!"motor_map has {entries.length} physical motors; expected 31"

/-! ## The IMU and the emergency stop -/

/-- The fields that the record of the IMU must have. -/
def imuFields : List String :=
  ["mount_link", "body_to_sensor_quaternion_wxyz", "gyro_units", "quaternion_order", "update_hz",
    "timestamp_source", "measured_yaw_drift_deg_per_min"]

/-- An entry of the product of the transposed matrix and the matrix. -/
def gramEntry (matrix : List ℚ) (row column : ℕ) : ℚ :=
  ((List.range 3).map fun index =>
    matrix.getD (3 * index + row) 0 * matrix.getD (3 * index + column) 0).sum

/-- `np.allclose(matrix.T @ matrix, np.eye(3), atol=1.0e-6)`. -/
def isOrthonormal (matrix : List ℚ) : Bool :=
  (List.range 3).all fun row => (List.range 3).all fun column =>
    let expected : ℚ := if row = column then 1 else 0
    |gramEntry matrix row column - expected| ≤ 1 / 1000000 + |expected| / 100000

/-- `np.linalg.det` of three rows. -/
def determinant3 (matrix : List ℚ) : ℚ :=
  let at_ := fun index => matrix.getD index 0
  at_ 0 * (at_ 4 * at_ 8 - at_ 5 * at_ 7) - at_ 1 * (at_ 3 * at_ 8 - at_ 5 * at_ 6) +
    at_ 2 * (at_ 3 * at_ 7 - at_ 4 * at_ 6)

/-- `math.isclose(value, 1.0, abs_tol=1.0e-6)`. -/
def isCloseToOne (value : ℚ) : Bool :=
  |value - 1| ≤ max (max |value| 1 / 1000000000) (1 / 1000000)

/-- The mounting matrix of the IMU; the errors of NumPy are not caught. -/
def checkSensorMatrix (value : Value) : Check Unit := do
  let matrix ← Audit.ofExcept (asArray strings value)
  if matrix.shape ≠ [3, 3] then Audit.note "imu.sensor_to_body_matrix must be 3x3"
  else
    match matrix.finite? with
    | none => Audit.note "imu.sensor_to_body_matrix contains non-finite values"
    | some numbers =>
        if isOrthonormal numbers = false then
          Audit.note "imu.sensor_to_body_matrix is not orthonormal"
        else
          Audit.noteIf (isCloseToOne (determinant3 numbers) = false)
            "imu.sensor_to_body_matrix is not a proper rotation"

def validateImu (hardware : List (String × Value)) : Check Unit :=
  match part hardware "imu" with
  | none => Audit.note "pelvis IMU is not configured"
  | some imu =>
      if (field imu "configured").isTrue then do
        Audit.forEach imuFields fun name =>
          Audit.noteIf ((field imu name).isNone = true) s!"imu.{name} is missing"
        match imu.lookup "sensor_to_body_matrix" with
        | none => return ()
        | some matrix => checkSensorMatrix strings matrix
      else Audit.note "pelvis IMU is not configured"

def validateEstop (hardware : List (String × Value)) : Check Unit :=
  match part hardware "estop" with
  | none => Audit.note "independent hardware e-stop is not configured"
  | some estop =>
      if (field estop "configured").isTrue then
        Audit.noteIf (nonempty strings (field estop "hardware_chain") = false)
          "estop.hardware_chain is empty or TODO"
      else Audit.note "independent hardware e-stop is not configured"

/-! ## The differential pairs -/

/-- Two labels that are not empty and differ. -/
def motorNames? (value : Value) : Option (String × String) :=
  match value.list? with
  | some [first, second] =>
      match first.text?, second.text? with
      | some left, some right =>
          if left ≠ "" ∧ right ≠ "" ∧ left ≠ right then some (left, right) else none
      | _, _ => none
  | _ => none

/-- The matrix and the zeros of a pair, or a `ValueError`. -/
def pairCalibration (config : List (String × Value)) :
    Except PyException (List ℚ × List ℚ) := do
  let matrix ← asArray strings (← item config "joint_to_motor_matrix")
  let zeros ← asArray strings (← item config "motor_zero_rad")
  if matrix.shape ≠ [2, 2] ∨ zeros.shape ≠ [2] then throw (.valueError "")
  else
    match matrix.finite?, zeros.finite? with
    | some matrix, some zeros => return (matrix, zeros)
    | _, _ => throw (.valueError "")

/-- `np.linalg.det` of two rows. -/
def determinant2 (matrix : List ℚ) : ℚ :=
  matrix.getD 0 0 * matrix.getD 3 0 - matrix.getD 1 0 * matrix.getD 2 0

/-- The checks of one pair. -/
def validateDifferential (hardware : List (String × Value)) (entries : List MotorEntry)
    (pair : PairName) : Check Unit :=
  let config := (part hardware "differentials").bind fun differentials =>
    (field differentials pair.text).dict?
  match config with
  | none => Audit.note s!"{pair.text} differential is not calibrated"
  | some config =>
      if (field config "calibrated").isTrue then do
        match motorNames? (field config "motor_names") with
        | none => Audit.note s!"{pair.text} motor_names must contain two unique motor labels"
        | some (left, right) =>
            Audit.noteIf (sameNames [left, right] (coupledLabels entries pair) = false)
              s!"{pair.text} motor_names must exactly match its two coupled motor records"
        let calibration ← Audit.orNote PyException.isMalformed
          s!"{pair.text} differential matrix/zeros are invalid" (pairCalibration strings config)
        Audit.noteIf
          (calibration.any (fun (matrix, _) => |determinant2 matrix| < 1 / 1000000) = true)
          s!"{pair.text} differential matrix is singular"
        let source := field config "source"
        Audit.noteIf (nonempty strings source = false ∨
            containsText "PLACEHOLDER" (source.toText strings) = true)
          s!"{pair.text} differential calibration source is missing or placeholder"
      else Audit.note s!"{pair.text} differential is not calibrated"

/-! ## The inventory -/

/-- All checks but the last one, with what the loop over the motors has kept. -/
def auditInventory (hardware : List (String × Value)) (policyOrder : List String) :
    Check (List MotorEntry) := do
  Audit.noteIf (policyOrder.length ≠ 31 ∨ policyOrder.dedup.length ≠ 31)
    "frozen policy contract must contain 31 unique joints"
  validateCanAdapter strings hardware
  validateMotorModelSpecs strings hardware
  validateController strings hardware
  let motorMap := part hardware "motor_map"
  Audit.noteIf (motorMap = none) "motor_map must be an object"
  let entries ← Audit.mapEach (motorMap.getD []) (validateMotor strings policyOrder)
  checkMotorCoverage policyOrder entries
  validateImu strings hardware
  validateEstop strings hardware
  Audit.forEach PairName.all (validateDifferential strings hardware entries)
  return entries

structure HardwareInventoryReport where
  physicalMotorCount : ℕ
  expectedMotorCount : ℕ
  directPolicyJoints : List String
  missingPolicyJoints : List String
  duplicatePolicyJoints : List String
  canEndpoints : List String
  errors : List String
  warnings : List String

/-- `report.valid`. -/
def HardwareInventoryReport.Valid (report : HardwareInventoryReport) : Prop := report.errors = []

instance (report : HardwareInventoryReport) : Decidable report.Valid :=
  inferInstanceAs (Decidable (_ = _))

/-- `hardware.get("configured") is True`. -/
def isConfigured (hardware : List (String × Value)) : Bool := (field hardware "configured").isTrue

/-- `validate_hardware_inventory`. -/
def validateHardwareInventory (hardware : List (String × Value)) (policyOrder : List String) :
    Except PyException HardwareInventoryReport := do
  let (entries, errors) ← (auditInventory strings hardware policyOrder :
    Except PyException (List MotorEntry × List String))
  let directs := entries.filterMap MotorEntry.direct
  let expected := policyOrder.dedup.filter (· ∉ differentialJoints)
  return {
    physicalMotorCount := entries.length
    expectedMotorCount := 31
    directPolicyJoints := sortedNames directs.dedup
    missingPolicyJoints := sortedNames (expected.filter (· ∉ directs))
    duplicatePolicyJoints := repeated directs
    canEndpoints := sortedNames (entries.filterMap MotorEntry.endpoint)
    errors :=
      if isConfigured hardware = true ∧ errors ≠ [] then
        errors ++ ["configured=true is inconsistent with an incomplete hardware inventory"]
      else errors
    warnings :=
      if isConfigured hardware then []
      else ["hardware remains intentionally unconfigured and must not arm"] }

/-- A valid inventory has passed every check. -/
theorem clean_of_valid {hardware : List (String × Value)} {policyOrder : List String}
    {report : HardwareInventoryReport}
    (validated : validateHardwareInventory strings hardware policyOrder = .ok report)
    (valid : report.Valid) :
    ∃ entries, (auditInventory strings hardware policyOrder).Clean entries := by
  obtain ⟨⟨entries, errors⟩, audited, made⟩ := except_bind_eq_ok.mp validated
  cases made
  rw [HardwareInventoryReport.Valid] at valid
  split at valid
  · simp at valid
  · subst valid
    exact ⟨entries, audited⟩

end SpriteRuntime
