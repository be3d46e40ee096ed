import SpriteRuntime.Runtime.HardwareTables

/-!
# The check of a motor record

Every field of the record of one motor is checked on its own; what is wrong goes into the list
of errors, and the check goes on.
-/

namespace SpriteRuntime

open Foundation

/-- A check of the inventory. -/
abbrev Check (α : Type) : Type := Audit PyException String α

variable (strings : PythonStrings)

/-- `_nonempty`. -/
def nonempty (value : Value) : Bool :=
  match value with
  | .str text => strings.strip text ≠ "" && !containsText "TODO" (strings.upper text)
  | _ => false

/-- A number that is finite, or a `ValueError`. -/
def finiteFloat (value : Value) : Except PyException ℚ := do
  match ← value.toFloat strings with
  | .finite number => return number
  | _ => throw (.valueError "")

/-- `_pair`. -/
def pair (value : Value) (name : String) : Check (Option (ℚ × ℚ)) :=
  match value.list? with
  | some [first, second] => do
      let bounds ← Audit.orNote PyException.isTypeOrValue
        s!"{name} must contain finite numeric values" do
          let low ← first.toFloat strings
          let high ← second.toFloat strings
          return (low, high)
      match bounds with
      | none => return none
      | some (.finite low, .finite high) =>
          if low < high then return some (low, high)
          else do
            Audit.note s!"{name} must have finite lower < upper"
            return none
      | some _ => do
          Audit.note s!"{name} must have finite lower < upper"
          return none
  | _ => do
      Audit.note s!"{name} must contain [lower, upper]"
      return none

/-- `_positive`. -/
def positive (record : List (String × Value)) (name label : String) : Check Unit := do
  let value ← Audit.orNote PyException.isMalformed s!"{label}.{name} must be numeric" do
    let value ← item record name
    value.toFloat strings
  match value with
  | none => return ()
  | some (.finite number) =>
      Audit.noteIf (number ≤ 0) s!"{label}.{name} must be finite and positive"
  | some _ => Audit.note s!"{label}.{name} must be finite and positive"

/-- `_close`. -/
def close (value : Value) (expected tolerance : ℚ) : Except PyException Bool :=
  match value.toFloat strings with
  | .ok (.finite number) => .ok (|number - expected| ≤ tolerance)
  | .ok _ => .ok false
  | .error error => if error.isTypeOrValue then .ok false else .error error

/-! ## The parts of the check -/

/-- What the check of a record finds out about it. -/
structure RecordRoles where
  direct : Option String
  coupled : Option (List Value)
  endpoint : Option String

section Record

variable (label : String) (record : List (String × Value))

/-- Whether the motor moves one joint of the policy or a differential pair. -/
def checkRole (policyJoints : List String) : Check Unit := do
  let direct := field record "policy_joint"
  let coupled := (field record "coupled_joints").list?
  Audit.noteIf (direct.isNone = coupled.isNone)
    s!"motor_map.{label} must define exactly one of policy_joint/coupled_joints"
  Audit.runIf (direct.isNone = false) do
    Audit.runIf (direct.isHashable = false) (Audit.raise .typeError)
    Audit.noteIf (direct.text?.any (· ∈ policyJoints) = false)
      s!"motor_map.{label}.policy_joint is not in the frozen policy order"
  Audit.noteIf (coupled.any (fun joints => (PairName.ofCoupled joints).isNone) = true)
    s!"motor_map.{label}.coupled_joints is not a physical differential pair"

/-- `", ".join(names)`. -/
def commaSeparated (names : List String) : String := ", ".intercalate names

/-- The names of the fields that are missing or null. -/
def unsetFields (names : List String) : List String :=
  names.filter fun name => (field record name).isNone

/-- The required fields, and the texts among them. -/
def checkFields : Check Unit := do
  let direct := field record "policy_joint"
  let required := motorRequiredFields ++ if direct.isNone then [] else ["policy_to_motor_sign"]
  let unset := unsetFields record required
  Audit.noteIf (unset ≠ []) (s!"motor_map.{label} unset fields: " ++ commaSeparated unset)
  Audit.forEach ["model", "firmware"] fun name =>
    Audit.noteIf ((field record name).isNone = false ∧ nonempty strings (field record name) = false)
      s!"motor_map.{label}.{name} is empty or TODO"

/-- `isinstance(value, int) and low <= value < high`. -/
def Value.isIn (value : Value) (low high : ℤ) : Bool :=
  value.int?.any fun number => low ≤ number ∧ number < high

/-- The numbers of the bus address. -/
def checkAddress : Check Unit := do
  let channel := field record "can_channel"
  let canId := field record "can_id"
  let masterId := field record "master_id"
  Audit.noteIf (channel.isNone = false ∧ channel.isIn 0 4 = false)
    s!"motor_map.{label}.can_channel must be an integer in [0, 3]"
  if canId.isNone = false ∧ canId.isIn 0 0x800 = false then
    Audit.note s!"motor_map.{label}.can_id must be an 11-bit integer"
  else
    Audit.noteIf (canId.int?.any (0xF < ·) = true)
      s!"motor_map.{label}.can_id must fit the Damiao feedback controller-ID nibble"
  if masterId.isNone = false ∧ masterId.isIn 0 0x800 = false then
    Audit.note s!"motor_map.{label}.master_id must be an 11-bit integer"
  else
    Audit.noteIf
      (canId.int?.any (fun id => masterId.int?.any fun master => master ≠ id + 0x10) = true)
      s!"motor_map.{label}.master_id must equal can_id + 0x10"

/-- `f"{channel}:{id}"` when both are integers. -/
def endpointText (channel id : Value) : Option String :=
  match channel.int?, id.int? with
  | some _, some _ => some s!"{channel.intText}:{id.intText}"
  | _, _ => none

/-- The zero and the signs. -/
def checkSigns : Check Unit := do
  let direct := field record "policy_joint"
  let zero := field record "motor_zero_rad"
  let encoderSign := field record "encoder_sign"
  let policySign := field record "policy_to_motor_sign"
  Audit.runIf (zero.isNone = false) do
    let _ ← Audit.orNote PyException.isTypeOrValue
      s!"motor_map.{label}.motor_zero_rad must be finite" (finiteFloat strings zero)
  Audit.noteIf (encoderSign.isNone = false ∧ encoderSign.isSign = false)
    s!"motor_map.{label}.encoder_sign must be -1 or 1"
  Audit.noteIf
    (direct.isNone = false ∧ policySign.isNone = false ∧ policySign.isSign = false)
    s!"motor_map.{label}.policy_to_motor_sign must be -1 or 1"

/-- The fields that `_positive` is called for. -/
def positiveFields : List String :=
  ["reduction_ratio", "linkage_ratio", "rated_torque_nm", "peak_torque_nm", "rated_speed_rad_s",
    "max_speed_rad_s", "rated_current_a", "peak_current_a", "temperature_limit_c"]

/-- The ratings and the limits. -/
def checkNumbers : Check Unit := do
  Audit.forEach positiveFields fun name =>
    Audit.runIf ((field record name).isNone = false)
      (positive strings record name s!"motor_map.{label}")
  let limits (name : String) : Check (Option (ℚ × ℚ)) :=
    if (field record name).isNone then return none
    else pair strings (field record name) s!"motor_map.{label}.{name}"
  let soft ← limits "soft_limit_rad"
  let hard ← limits "hard_limit_rad"
  match soft, hard with
  | some soft, some hard =>
      Audit.noteIf (¬(hard.1 ≤ soft.1 ∧ soft.1 < soft.2 ∧ soft.2 ≤ hard.2))
        s!"motor_map.{label} soft limit must lie inside hard limit"
  | _, _ => return ()

/-- The ranges of the protocol. -/
def checkMitRanges : Check Unit := do
  let mit := field record "mit_ranges"
  match mit.dict? with
  | none => Audit.noteIf (mit.isNone = false) s!"motor_map.{label}.mit_ranges must be an object"
  | some mit => do
      let unset := unsetFields mit
        ["position_rad", "velocity_rad_s", "kp", "kd", "torque_nm", "source"]
      Audit.noteIf (unset ≠ [])
        (s!"motor_map.{label}.mit_ranges unset fields: " ++ commaSeparated unset)
      Audit.forEach ["position_rad", "velocity_rad_s", "kp", "kd", "torque_nm"] fun name =>
        Audit.runIf ((field mit name).isNone = false) do
          let _ ← pair strings (field mit name) s!"motor_map.{label}.mit_ranges.{name}"
      let source := field mit "source"
      Audit.noteIf (source.isNone = false ∧ source.isText "motor_register_readback" = false)
        s!"motor_map.{label}.mit_ranges.source must be motor_register_readback"

end Record

/-- `_validate_motor_record`. -/
def validateMotorRecord (label : String) (record : Value) (policyJoints : List String) :
    Check RecordRoles :=
  match record.dict? with
  | none => do
      Audit.note s!"motor_map.{label} must be an object"
      return { direct := none, coupled := none, endpoint := none }
  | some record => do
      checkRole label record policyJoints
      checkFields strings label record
      checkAddress label record
      checkSigns strings label record
      checkNumbers strings label record
      checkMitRanges strings label record
      return {
        direct := (field record "policy_joint").text?
        coupled := (field record "coupled_joints").list?
        endpoint := endpointText (field record "can_channel") (field record "can_id") }

/-! ## The profile of the motor -/

/-- `direct_leg`. -/
def isDirectLeg (direct : String) : Bool :=
  containsText "_hip_" direct || "_knee_joint".toList.isSuffixOf direct.toList

/-- `direct_upgraded_shoulder`. -/
def isUpgradedShoulder (direct : String) : Bool :=
  direct ∈ ["left_shoulder_pitch_joint", "left_shoulder_roll_joint",
    "right_shoulder_pitch_joint", "right_shoulder_roll_joint"]

/-- `text.replace("-", "")`. -/
def withoutHyphens (text : String) : String := String.ofList (text.toList.filter (· ≠ '-'))

/-- A finding unless `_close` holds. -/
def noteUnlessClose (value : Value) (expected tolerance : ℚ) (finding : String) :
    Check Unit := do
  let near ← Audit.ofExcept (close strings value expected tolerance)
  Audit.noteIf (near = false) finding

/-- The two speeds of a J4340P. -/
def checkJ4340pSpeeds (label : String) (record : List (String × Value)) : Check Unit := do
  let speeds : Except PyException (PyFloat × Value) := do
    let rated ← (← item record "rated_speed_rad_s").toFloat strings
    let maximum ← item record "max_speed_rad_s"
    let _ ← maximum.toFloat strings
    return (rated, maximum)
  match speeds with
  | .ok (rated, maximum) => do
      Audit.noteIf (rated.finite?.any (fun speed => 36 / 10 ≤ speed ∧ speed ≤ 4) = false)
        s!"motor_map.{label} J4340P rated speed must be about 3.8 rad/s"
      noteUnlessClose strings maximum (93 / 10) (2 / 100) (s!"motor_map.{label} J4340P 38 V " ++
        "max speed must match the frozen 9.3 rad/s envelope")
  | .error error => if error.isMalformed then return () else Audit.raise error

/-- `_validate_known_motor_profile`. -/
def validateKnownMotorProfile (label : String) (record : List (String × Value))
    (direct : Option String) (coupled : Option (List Value)) : Check Unit := do
  let modelText := ((record.lookup "model").getD (.str "")).toText strings
  let model := withoutHyphens (strings.upper modelText)
  let directLeg := direct.any isDirectLeg
  Audit.runIf (directLeg = true ∨ direct.any isUpgradedShoulder = true) do
    let role := if directLeg then "leg" else "shoulder pitch/roll"
    Audit.noteIf (containsText "4340P" model = false)
      s!"motor_map.{label} {role} motor must be DM-J4340P-2EC"
    noteUnlessClose strings (field record "rated_torque_nm") 14 (1 / 1000000)
      s!"motor_map.{label} J4340P rated torque must be 14 Nm"
    noteUnlessClose strings (field record "peak_torque_nm") 40 (1 / 1000000)
      s!"motor_map.{label} J4340P peak torque must be 40 Nm"
    checkJ4340pSpeeds strings label record
  Audit.runIf ((coupled.bind PairName.ofCoupled).any PairName.isAnkle = true) do
    Audit.noteIf (containsText "4310P" model = false)
      s!"motor_map.{label} ankle motor must be DM-J4310P-2EC"
    Audit.forEach [("rated_torque_nm", (35 / 10 : ℚ), "3.5"), ("peak_torque_nm", 125 / 10, "12.5"),
        ("rated_speed_rad_s", 1256 / 100, "12.56"), ("max_speed_rad_s", 362 / 10, "36.2")]
      fun entry =>
        noteUnlessClose strings (field record entry.1) entry.2.1 (2 / 100)
          s!"motor_map.{label} J4310P {entry.1} must be {entry.2.2}"

end SpriteRuntime
