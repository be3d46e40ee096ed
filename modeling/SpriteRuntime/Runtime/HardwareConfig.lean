import Mathlib.LinearAlgebra.Matrix.Determinant.Basic
import SpriteRuntime.Runtime.DamiaoFeedback
import SpriteRuntime.Runtime.HardwareInventory

/-!
# What is built from the hardware inventory

The coordinate map and the endpoints of the decoder are built from the same dictionary that is
checked.  They read the fields again, with their own conversions and their own errors.
-/

namespace SpriteRuntime

open Foundation

variable (strings : PythonStrings)

/-! ## Assignments to a dictionary -/

/-- `dictionary[key] = value`. -/
def setItem {α : Type} (dictionary : Dictionary α) (key : String) (value : α) : Dictionary α :=
  if key ∈ dictionary.keys then
    dictionary.map fun entry => if entry.1 = key then (key, value) else entry
  else dictionary ++ [(key, value)]

theorem keys_setItem_of_fresh {α : Type} {dictionary : Dictionary α} {key : String} {value : α}
    (fresh : key ∉ dictionary.keys) :
    setItem dictionary key value = dictionary ++ [(key, value)] :=
  if_neg fresh

theorem nodup_keys_setItem {α : Type} {dictionary : Dictionary α} (key : String) (value : α)
    (distinct : dictionary.keys.Nodup) : (setItem dictionary key value).keys.Nodup := by
  unfold setItem
  split
  · have same : (dictionary.map fun entry => if entry.1 = key then (key, value) else entry).map
        Prod.fst = dictionary.map Prod.fst := by
      rw [List.map_map]
      apply List.map_congr_left
      intro entry _
      dsimp only [Function.comp_apply]
      split
      · rename_i here
        exact here.symm
      · rfl
    rw [Dictionary.keys, same]
    exact distinct
  · rename_i fresh
    rw [Dictionary.keys, List.map_append]
    exact List.nodup_append.mpr ⟨distinct, List.nodup_singleton _, fun left member right single => by
      rw [List.mem_singleton.mp single]
      rintro rfl
      exact fresh member⟩

/-- A dictionary that has been assigned the entries of a list. -/
structure Assigned (α : Type) where
  entries : Dictionary α
  distinct : entries.keys.Nodup

namespace Assigned

variable {α : Type}

def empty : Assigned α := ⟨[], List.nodup_nil⟩

def set (assigned : Assigned α) (key : String) (value : α) : Assigned α :=
  ⟨setItem assigned.entries key value, nodup_keys_setItem key value assigned.distinct⟩

end Assigned

/-! ## The direct motors -/

/-- `_finite_scalar`. -/
def finiteScalar (value : Value) (name : String) : Except PyException ℚ := do
  match ← value.toFloat strings with
  | .finite number => return number
  | _ => throw (.valueError s!"{name} must be finite")

/-- `_sign`. -/
def signOf (value : Value) (name : String) : Except PyException { sign : ℚ // IsSign sign } :=
  if value.isNumber (-1) then .ok ⟨-1, .inl rfl⟩
  else if value.isNumber 1 then .ok ⟨1, .inr rfl⟩
  else .error (.valueError s!"{name} must be -1 or 1")

/-- The ratio of a motor. -/
def ratioOf (ratio : PyFloat) : Except PyException { ratio : ℚ // 0 < ratio } :=
  match ratio with
  | .finite number =>
      if positive : 0 < number then .ok ⟨number, positive⟩
      else .error (.valueError "total_ratio must be positive")
  | _ => .error (.valueError "total_ratio must be finite")

/-- The constructor of `DirectMotorMap`. -/
def DirectMotorMap.make (motorName policyJoint : String) (driveZeroRad encoderSign
    policyToMotorSign : Value) (totalRatio : PyFloat) : Except PyException (DirectMotorMap ℚ) := do
  raiseIf (motorName = "" ∨ policyJoint = "")
    (.valueError "motor_name and policy_joint are required")
  let driveZeroRad ← finiteScalar strings driveZeroRad "drive_zero_rad"
  let encoder ← signOf encoderSign "encoder_sign"
  let policyToMotor ← signOf policyToMotorSign "policy_to_motor_sign"
  let ratio ← ratioOf totalRatio
  return {
    motorName
    driveZeroRad
    encoderSign := encoder.1
    policyToMotorSign := policyToMotor.1
    totalRatio := ratio.1
    encoder := encoder.2
    policyToMotor := policyToMotor.2
    positive := ratio.2 }

/-- A record as a dictionary. -/
def asRecord (record : Value) : Except PyException (List (String × Value)) :=
  match record.dict? with
  | some record => .ok record
  | none => .error .attributeError

/-- The body of the loop over the records.  The joint of a record that has been checked is a
string. -/
def addDirect (direct : Assigned (DirectMotorMap ℚ)) (entry : String × Value) :
    Except PyException (Assigned (DirectMotorMap ℚ)) := do
  let record ← asRecord entry.2
  let jointName := field record "policy_joint"
  if jointName.isNone then return direct
  else
    let some joint := jointName.text? | throw .typeError
    let zero ← item record "motor_zero_rad"
    let encoderSign ← item record "encoder_sign"
    let policySign ← item record "policy_to_motor_sign"
    let reduction ← (← item record "reduction_ratio").toFloat strings
    let linkage ← (← item record "linkage_ratio").toFloat strings
    let motor ← DirectMotorMap.make strings entry.1 joint zero encoderSign policySign
      (reduction.times linkage)
    return direct.set joint motor

/-! ## The differential pairs -/

/-- The text of a shape. -/
def shapeText : List ℕ → String
  | [] => "()"
  | [size] => s!"({size},)"
  | sizes => "(" ++ ", ".intercalate (sizes.map toString) ++ ")"

/-- The constructor of `DifferentialPair`. -/
def DifferentialPair.make (matrix : NdArray) (zeros : NdArray) :
    Except PyException (DifferentialPair ℚ) := do
  raiseIf (zeros.shape ≠ [2])
    (.valueError (s!"motor_zero_rad must have shape (2,), got " ++ shapeText zeros.shape))
  let some zeros := zeros.finite? | throw (.valueError "motor_zero_rad contains a non-finite value")
  raiseIf (matrix.shape ≠ [2, 2])
    (.valueError (s!"joint_to_motor_matrix must be 2x2, got " ++ shapeText matrix.shape))
  let some matrix := matrix.finite?
    | throw (.valueError "joint_to_motor_matrix contains a non-finite value")
  if regular : |determinant2 matrix| < 1 / 100000000 then
    throw (.valueError "joint_to_motor_matrix is singular")
  else
    return {
      jointToMotorMatrix :=
        !![matrix.getD 0 0, matrix.getD 1 0; matrix.getD 2 0, matrix.getD 3 0]
      motorZeroRad := fun side => zeros.getD side 0
      regular := by
        rw [Matrix.det_fin_two_of]
        exact regular }

/-- The constructor of `DifferentialPairDriveMap`; the joints are those of the pair. -/
def DifferentialPairDriveMap.make (name : PairName) (motorNames : List String)
    (zeros signs : NdArray) (coupling : DifferentialPair ℚ) :
    Except PyException { map : DifferentialPairDriveMap ℚ // map.name = name } := do
  let [left, right] := motorNames
    | throw (.valueError "differential motor_names must contain two unique labels")
  if distinct : left ≠ right then
    let finite := if zeros.shape = [2] then zeros.finite? else none
    let some zeros := finite
      | throw (.valueError "differential drive_zero_rad must be a finite two-vector")
    if encoder : signs.shape = [2] ∧ ∀ sign ∈ signs.data, sign = .finite (-1) ∨ sign = .finite 1 then
      return ⟨{
        name
        motorNames := ![left, right]
        driveZeroRad := fun side => zeros.getD side 0
        encoderSign := fun side =>
          if signs.data[(side : ℕ)]? = some (.finite (-1)) then -1 else 1
        coupling
        distinct
        encoder := fun side => by
          split
          · exact .inl rfl
          · exact .inr rfl }, rfl⟩
    else throw (.valueError "differential encoder_sign must be a two-vector of -1 or 1")
  else throw (.valueError "differential motor_names must contain two unique labels")

/-- The field of the records of some motors. -/
def recordFields (records : List (String × Value)) (name : String) (motorNames : List String) :
    Except PyException Value := do
  let values ← motorNames.mapM fun motorName => do
    let record ← item records motorName
    let record ← asRecord record
    item record name
  return .list values

/-- The labels of a pair; they are the keys of records. -/
def labelsOf (value : Value) : Except PyException (List String) := do
  let labels ← value.toTuple
  match labels.mapM Value.text? with
  | some labels => return labels
  | none => throw .keyError

/-- The body of the loop over the pairs. -/
def differentialMap (hardware records : List (String × Value)) (name : PairName) :
    Except PyException { map : DifferentialPairDriveMap ℚ // map.name = name } := do
  let differentials ← asRecord (← item hardware "differentials")
  let pairRecord ← asRecord (← item differentials name.text)
  let motorNames ← labelsOf (← item pairRecord "motor_names")
  let zeros ← asArray strings (← recordFields records "motor_zero_rad" motorNames)
  let signs ← asArray strings (← recordFields records "encoder_sign" motorNames)
  let matrix ← asArray strings (← item pairRecord "joint_to_motor_matrix")
  let pairZeros ← asArray strings (← item pairRecord "motor_zero_rad")
  let coupling ← DifferentialPair.make matrix pairZeros
  DifferentialPairDriveMap.make name motorNames zeros signs coupling

/-! ## The map -/

/-- Every joint of the policy that is in no pair. -/
def directJoints (policyOrder : List String) : List String :=
  policyOrder.filter (· ∉ differentialJoints)

theorem mem_differentialJoints {name : String} :
    name ∈ differentialJoints ↔ ∃ pair side, PairName.joints pair side = name := by
  rw [differentialJoints, List.mem_flatMap]
  constructor
  · rintro ⟨pair, _, member⟩
    obtain ⟨side, same⟩ := List.mem_ofFn.mp member
    exact ⟨pair, side, same⟩
  · rintro ⟨pair, side, same⟩
    exact ⟨pair, pair.mem_all, List.mem_ofFn.mpr ⟨side, same⟩⟩

theorem mem_directJoints {policyOrder : List String} {name : String} :
    name ∈ directJoints policyOrder ↔
      name ∈ policyOrder ∧ ∀ pair side, PairName.joints pair side ≠ name := by
  rw [directJoints, List.mem_filter, decide_eq_true_eq, mem_differentialJoints]
  push Not
  rfl

theorem sameNames_iff {left right : List String} :
    sameNames left right = true ↔ ∀ name, name ∈ left ↔ name ∈ right := by
  simp only [sameNames, Bool.and_eq_true, List.all_eq_true, decide_eq_true_eq]
  constructor
  · rintro ⟨forth, back⟩ name
    exact ⟨forth name, back name⟩
  · intro same
    exact ⟨fun name => (same name).mp, fun name => (same name).mpr⟩

/-- The joints of the policy by their index. -/
theorem mem_iff_joint {policyOrder : List String} (length : policyOrder.length = 31)
    {name : String} :
    name ∈ policyOrder ↔ ∃ joint : Index, policyOrder.get ⟨joint, length ▸ joint.isLt⟩ = name := by
  rw [List.mem_iff_getElem]
  constructor
  · rintro ⟨index, inside, same⟩
    have bound : index < kJointCount := by
      rw [length] at inside
      exact inside
    exact ⟨⟨index, bound⟩, same⟩
  · rintro ⟨joint, same⟩
    exact ⟨joint, length ▸ joint.isLt, same⟩

/-- The constructor of `SpriteMotorMap`. -/
def SpriteMotorMap.make (policyOrder : List String) (direct : Assigned (DirectMotorMap ℚ))
    (differentials : (name : PairName) → { map : DifferentialPairDriveMap ℚ // map.name = name }) :
    Except PyException (SpriteMotorMap ℚ) :=
  if unique : policyOrder.length = 31 ∧ policyOrder.Nodup then
    if covers : sameNames direct.entries.keys (directJoints policyOrder) = true then
      .ok {
        policyJointNames := fun joint => policyOrder.get ⟨joint, unique.1 ▸ joint.isLt⟩
        direct := direct.entries
        differentials := fun name => (differentials name).1
        unique := fun left right same => Fin.ext (unique.2.getElem_inj_iff.mp same)
        distinct := direct.distinct
        pairs := fun left right same => by
          rw [← (differentials left).2, ← (differentials right).2]
          exact same
        covers := fun name => by
          rw [sameNames_iff.mp covers name, mem_directJoints, mem_iff_joint unique.1] }
    else .error (.valueError "direct motor map does not exactly cover non-differential joints")
  else .error (.valueError "policy_joint_names must contain 31 unique joints")

/-- `motor_map_from_hardware_config` with the demand that the robot can be armed. -/
def armableMotorMapFromHardwareConfig (hardware : List (String × Value))
    (policyOrder : List String) : Except PyException (SpriteMotorMap ℚ) := do
  raiseIf (isConfigured hardware = false)
    (.valueError "hardware configured=true is required for a motor map")
  let report ← validateHardwareInventory strings hardware policyOrder
  raiseIf (¬report.Valid)
    (.valueError ("hardware inventory is invalid: " ++ "; ".intercalate report.errors))
  let records ← asRecord (← item hardware "motor_map")
  let direct ← records.foldlM (addDirect strings) Assigned.empty
  let leftAnkle ← differentialMap strings hardware records .leftAnkle
  let rightAnkle ← differentialMap strings hardware records .rightAnkle
  let head ← differentialMap strings hardware records .head
  let result ← SpriteMotorMap.make policyOrder direct fun
    | .leftAnkle => leftAnkle
    | .rightAnkle => rightAnkle
    | .head => head
  raiseIf (sameNames result.physicalMotorNames (records.map Prod.fst) = false)
    (.valueError "coordinate map does not exactly cover hardware motor_map")
  return result

/-! ## The endpoints -/

/-- `_validate_range`. -/
def validateRange (name : String) (value : List Value) :
    Except PyException { range : ℚ × ℚ // range.1 < range.2 } := do
  let [low, high] := value | throw (.valueError s!"{name} must contain exactly two values")
  let low ← low.toFloat strings
  let high ← high.toFloat strings
  match low, high with
  | .finite low, .finite high =>
      if ordered : low < high then return ⟨(low, high), ordered⟩
      else throw (.valueError s!"{name} must have finite lower < upper")
  | _, _ => throw (.valueError s!"{name} must have finite lower < upper")

/-- The source of the ranges. -/
def rangeSource (value : Value) : Except PyException RangeSource :=
  if value.isHashable = false then .error .typeError
  else if value.isText "motor_register_readback" then .ok .motorRegisterReadback
  else if value.isText "operator_confirmed_drive_configuration" then
    .ok .operatorConfirmedDriveConfiguration
  else
    .error (.valueError ("MIT ranges must use motor_register_readback or an explicitly " ++
      "operator_confirmed_drive_configuration source"))

/-- The constructor of `DamiaoMitRanges`. -/
def DamiaoMitRanges.make (position velocity torque : List Value) (source : Value) :
    Except PyException DamiaoMitRanges := do
  let position ← validateRange strings "position_rad" position
  let velocity ← validateRange strings "velocity_rad_s" velocity
  let torque ← validateRange strings "torque_nm" torque
  let source ← rangeSource source
  return {
    positionRad := position.1
    velocityRadS := velocity.1
    torqueNm := torque.1
    source
    positionOrdered := position.2
    velocityOrdered := velocity.2
    torqueOrdered := torque.2 }

/-- The constructor of `DamiaoFeedbackEndpoint`. -/
def DamiaoFeedbackEndpoint.make (motorName interface : String) (canId masterId : Value)
    (ranges : DamiaoMitRanges) : Except PyException DamiaoFeedbackEndpoint :=
  if named : motorName ≠ "" ∧ interface ≠ "" then
    match canId.int? with
    | none => .error (.valueError "can_id must be an 11-bit CAN identifier")
    | some canId =>
        if canRange : 0 ≤ canId ∧ canId ≤ 0x7FF then
          match masterId.int? with
          | none => .error (.valueError "master_id must be an 11-bit CAN identifier")
          | some masterId =>
              if masterIdRange : 0 ≤ masterId ∧ masterId ≤ 0x7FF then
                if nibble : canId ≤ 0xF then
                  .ok {
                    motorName
                    interface
                    canId
                    masterId
                    ranges
                    named
                    canIdRange := ⟨canRange.1, nibble⟩
                    masterIdRange }
                else .error (.valueError
                  "can_id must fit the feedback frame's four-bit controller ID field")
              else .error (.valueError "master_id must be an 11-bit CAN identifier")
        else .error (.valueError "can_id must be an 11-bit CAN identifier")
  else .error (.valueError "motor_name and interface are required")

/-- `interfaces[channel]`. -/
def interfaceAt (interfaces : List String) (channel : ℤ) : Except PyException String :=
  let index := if channel < 0 then channel + interfaces.length else channel
  if index < 0 then .error .indexError
  else
    match interfaces[index.toNat]? with
    | some interface => .ok interface
    | none => .error .indexError

/-- The block of an endpoint whose errors are all the same one. -/
def endpointParts (interfaces : List String) (raw : List (String × Value)) :
    Except PyException (Value × Value × DamiaoMitRanges × String) := do
  let channel ← (← item raw "can_channel").toInt strings
  let canId ← item raw "can_id"
  let masterId ← item raw "master_id"
  let some mit := (← item raw "mit_ranges").dict? | throw .typeError
  let position ← (← item mit "position_rad").toTuple
  let velocity ← (← item mit "velocity_rad_s").toTuple
  let torque ← (← item mit "torque_nm").toTuple
  let ranges ← DamiaoMitRanges.make strings position velocity torque (← item mit "source")
  let interface ← interfaceAt interfaces channel
  return (canId, masterId, ranges, interface)

/-- The body of the loop over the records. -/
def endpointOf (interfaces : List String) (entry : String × Value) :
    Except PyException DamiaoFeedbackEndpoint := do
  let (motorName, raw) := entry
  let some raw := raw.dict? | throw (.valueError s!"motor_map.{motorName} must be an object")
  match endpointParts strings interfaces raw with
  | .error error =>
      if error.isMalformed ∨ error = .indexError then
        throw (.valueError s!"motor_map.{motorName} feedback mapping is incomplete")
      else throw error
  | .ok (canId, masterId, ranges, interface) =>
      DamiaoFeedbackEndpoint.make motorName interface canId masterId ranges

/-- The interfaces of the adapter. -/
def interfacesOf (hardware : List (String × Value)) : Except PyException (List String) := do
  let some adapter := part hardware "can_adapter"
    | throw (.valueError "can_adapter configuration is missing")
  let some interfaces := (field adapter "interfaces").list?
    | throw (.valueError "can_adapter.interfaces must contain four entries")
  raiseIf (interfaces.length ≠ 4)
    (.valueError "can_adapter.interfaces must contain four entries")
  match interfaces.mapM Value.text? with
  | some names => do
      raiseIf ("" ∈ names) (.valueError "all SocketCAN interface names must be measured")
      return names
  | none => throw (.valueError "all SocketCAN interface names must be measured")

/-- `endpoints_from_hardware_config`. -/
def endpointsFromHardwareConfig (hardware : List (String × Value)) :
    Except PyException (List DamiaoFeedbackEndpoint) := do
  let interfaces ← interfacesOf hardware
  let some motorMap := part hardware "motor_map"
    | throw (.valueError "motor_map is missing or empty")
  raiseIf (motorMap = []) (.valueError "motor_map is missing or empty")
  raiseIf (motorMap.length ≠ 31)
    (.valueError s!"motor_map has {motorMap.length} motors; expected 31")
  let endpoints ← motorMap.mapM (endpointOf strings interfaces)
  let _ ← (DamiaoFeedbackDecoder.make endpoints).mapError PyException.valueError
  let commandKeys := endpoints.map DamiaoFeedbackEndpoint.commandKey
  let feedbackKeys := endpoints.map DamiaoFeedbackEndpoint.feedbackKey
  raiseIf (¬commandKeys.Nodup) (.valueError "duplicate Damiao command endpoint")
  let overlap := commandKeys.dedup.filter (· ∈ feedbackKeys)
  raiseIf (overlap ≠ []) (.valueError
    ("Damiao command and feedback endpoints overlap: " ++ strings.reprSorted overlap))
  return endpoints

end SpriteRuntime
