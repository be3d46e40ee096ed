import Mathlib.Data.Prod.Lex
import SpriteRuntime.Foundation.Dictionary
import SpriteRuntime.Foundation.LatestSample
import SpriteRuntime.Native.Mit

/-!
# Merging the traces for system identification

`merge_system_id_traces` looks up, for every motor and every tick of the policy, the feedback
frame and the command frame that were recorded last, and decodes them.  A missing number is
`none`; the arrays that the source fills with the fields of one frame are one column of
records here.
-/

namespace SpriteRuntime

open Foundation

/-- The ranges of a motor as the hardware file has them. -/
structure MitRanges where
  positionRad : ℚ × ℚ
  velocityRadS : ℚ × ℚ
  torqueNm : ℚ × ℚ
  deriving DecidableEq

structure MotorRecord where
  canChannel : ℤ
  canId : ℤ
  masterId : ℤ
  mitRanges : Option MitRanges
  deriving DecidableEq

structure Hardware where
  interfaces : List String
  motorMap : Dictionary MotorRecord

/-- One row of the arrays of the CAN trace. -/
structure CanRow where
  monotonicReceiveNs : ℤ
  interfaceIndex : ℤ
  canId : ℤ
  payloadLength : ℤ
  payload : List UInt8
  deriving DecidableEq

/-- `payload[row, column]`. -/
def CanRow.byte (row : CanRow) (column : ℕ) : ℕ := (row.payload.getD column 0).toNat

structure CanTrace where
  interfaceNames : List String
  rows : List CanRow

/-- What `_motor_records` has checked of a motor. -/
structure SystemIdMotor where
  name : String
  channel : ℤ
  canId : ℤ
  masterId : ℤ
  ranges : MitRanges
  deriving DecidableEq

/-- The two checks in the loop of `_motor_records`. -/
def checkMotorRecord (interfaces : List String) (item : String × MotorRecord) :
    Except String SystemIdMotor :=
  if ¬(0 ≤ item.2.canChannel ∧ item.2.canChannel < interfaces.length) then
    .error (item.1 ++ ": invalid can_channel")
  else match item.2.mitRanges with
    | none => .error (item.1 ++ ": missing mit_ranges")
    | some ranges =>
        .ok ⟨item.1, item.2.canChannel, item.2.canId, item.2.masterId, ranges⟩

/-- `_motor_records`. -/
def motorRecords (hardware : Hardware) : Except String (List SystemIdMotor) :=
  (sortedBy (fun item => toLex (item.2.canChannel, item.2.canId)) hardware.motorMap).mapM
    (checkMotorRecord hardware.interfaces)

/-! ## The frames of a motor -/

/-- The mask over the first seven bytes and the eighth. -/
def specialFrame (byte : ℕ → ℕ) : Bool :=
  (List.range 7).all (fun column => byte column = 0xFF) && decide (0xFC ≤ byte 7)

namespace SystemIdMotor

variable (motor : SystemIdMotor) (trace : CanTrace)

def feedbackRows : List CanRow :=
  trace.rows.filter fun row => row.interfaceIndex = motor.channel ∧
    row.canId = motor.masterId ∧ row.payloadLength = 8

def commandRows : List CanRow :=
  (trace.rows.filter fun row => row.interfaceIndex = motor.channel ∧
    row.canId = motor.canId ∧ row.payloadLength = 8).filter fun row => !specialFrame row.byte

end SystemIdMotor

structure FeedbackValues where
  positionRad : ℚ
  velocityRadS : ℚ
  estimatedTorqueNm : ℚ
  mosTemperatureC : ℚ
  rotorTemperatureC : ℚ
  deriving DecidableEq

structure CommandValues where
  positionRad : ℚ
  velocityRadS : ℚ
  kp : ℚ
  kd : ℚ
  feedforwardTorqueNm : ℚ
  deriving DecidableEq

def decodeFeedbackRow (ranges : MitRanges) (row : CanRow) : FeedbackValues :=
  let rawPosition := row.byte 1 <<< 8 ||| row.byte 2
  let rawVelocity := row.byte 3 <<< 4 ||| row.byte 4 >>> 4
  let rawTorque := (row.byte 4 &&& 0x0F) <<< 8 ||| row.byte 5
  { positionRad := decodeUint rawPosition ranges.positionRad.1 ranges.positionRad.2 16
    velocityRadS := decodeUint rawVelocity ranges.velocityRadS.1 ranges.velocityRadS.2 12
    estimatedTorqueNm := decodeUint rawTorque ranges.torqueNm.1 ranges.torqueNm.2 12
    mosTemperatureC := row.byte 6
    rotorTemperatureC := row.byte 7 }

def decodeCommandRow (ranges : MitRanges) (row : CanRow) : CommandValues :=
  let rawPosition := row.byte 0 <<< 8 ||| row.byte 1
  let rawVelocity := row.byte 2 <<< 4 ||| row.byte 3 >>> 4
  let rawKp := (row.byte 3 &&& 0x0F) <<< 8 ||| row.byte 4
  let rawKd := row.byte 5 <<< 4 ||| row.byte 6 >>> 4
  let rawTorque := (row.byte 6 &&& 0x0F) <<< 8 ||| row.byte 7
  { positionRad := decodeUint rawPosition ranges.positionRad.1 ranges.positionRad.2 16
    velocityRadS := decodeUint rawVelocity ranges.velocityRadS.1 ranges.velocityRadS.2 12
    kp := decodeUint rawKp 0 500 12
    kd := decodeUint rawKd 0 5 12
    feedforwardTorqueNm := decodeUint rawTorque ranges.torqueNm.1 ranges.torqueNm.2 12 }

/-! ## The merge -/

/-- The entries of the value arrays and of the age array for one motor at one tick. -/
structure Cell (α : Type) where
  value : Option α
  ageMs : Option ℚ
  deriving DecidableEq

/-- The age of a sample at a target, in milliseconds. -/
def ageMs (targetNs sampleNs : ℤ) : ℚ := ((targetNs - sampleNs : ℤ) : ℚ) / 10 ^ 6

/-- `_latest_indices` at one target. -/
def latestIndices (sampleNs : List ℤ) (targetNs : ℤ) : ℕ × Option ℚ :=
  let index : ℤ := searchSortedRight sampleNs targetNs - 1
  let clipped := (max index 0).toNat
  (clipped,
    if 0 ≤ index then some (ageMs targetNs (sampleNs.getD clipped 0)) else none)

/-- One entry of the arrays that are assigned when the motor has frames. -/
def mergeCell {α : Type} (decode : CanRow → α) (samples : List CanRow) (targetNs : ℤ) : Cell α :=
  let (latest, age) := latestIndices (samples.map CanRow.monotonicReceiveNs) targetNs
  ⟨samples[latest]?.map decode, age⟩

/-- The columns of a motor: all missing, or assigned from its frames. -/
def mergeSamples {α : Type} (decode : CanRow → α) (rows : List CanRow) (policyNs : List ℤ) :
    List (Cell α) :=
  if rows.isEmpty then policyNs.map fun _ => ⟨none, none⟩
  else policyNs.map (mergeCell decode (sortedBy CanRow.monotonicReceiveNs rows))

structure MotorColumns where
  name : String
  feedback : List (Cell FeedbackValues)
  command : List (Cell CommandValues)
  feedbackCount : ℕ
  commandCount : ℕ

def mergeMotor (trace : CanTrace) (policyNs : List ℤ) (motor : SystemIdMotor) : MotorColumns :=
  { name := motor.name
    feedback := mergeSamples (decodeFeedbackRow motor.ranges) (motor.feedbackRows trace) policyNs
    command := mergeSamples (decodeCommandRow motor.ranges) (motor.commandRows trace) policyNs
    feedbackCount := (motor.feedbackRows trace).length
    commandCount := (motor.commandRows trace).length }

structure MergedTrace where
  policyMonotonicNs : List ℤ
  columns : List MotorColumns

/-! ## The report -/

/-- `np.mean(np.isfinite(ages))`. -/
def observedCoverage {α : Type} (cells : List (Cell α)) : ℚ :=
  (cells.countP fun cell => cell.ageMs.isSome : ℕ) / cells.length

/-- `np.nanpercentile`, with linear interpolation, or missing where every age is. -/
def nanPercentile (percent : ℚ) (ages : List (Option ℚ)) : Option ℚ :=
  let values := sortedBy id ages.reduceOption
  if values.isEmpty then none
  else
    let position := percent / 100 * ((values.length - 1 : ℕ) : ℚ)
    let lower := ⌊position⌋₊
    let below := values.getD lower 0
    let above := values.getD (min (lower + 1) (values.length - 1)) 0
    some (below + (above - below) * (position - lower))

structure MergeReport where
  policyTickCount : ℕ
  canFrameCount : ℕ
  motorCount : ℕ
  feedbackCountByMotor : Dictionary ℕ
  commandCountByMotor : Dictionary ℕ
  feedbackCoverageByMotor : Dictionary ℚ
  commandCoverageByMotor : Dictionary ℚ
  feedbackP99AgeMsByMotor : Dictionary (Option ℚ)
  errors : List String

def MergeReport.passed (report : MergeReport) : Bool := report.errors.isEmpty

def MotorColumns.feedbackP99AgeMs (columns : MotorColumns) : Option ℚ :=
  nanPercentile 99 (columns.feedback.map Cell.ageMs)

/-- The three gates of the report. -/
def mergeErrors (columns : List MotorColumns) : List String :=
  (if columns.any fun motor => observedCoverage motor.feedback < 98 / 100 then
    ["one or more motors have less than 98% feedback coverage"] else []) ++
  (if columns.any fun motor => motor.feedbackP99AgeMs.all (60 < ·) then
    ["one or more motors exceed the 60 ms p99 feedback-age gate"] else []) ++
  (if columns.any fun motor => observedCoverage motor.command < 90 / 100 then
    ["one or more motors have less than 90% observed command coverage"] else [])

def mergeReport (trace : CanTrace) (policyNs : List ℤ) (columns : List MotorColumns) :
    MergeReport :=
  { policyTickCount := policyNs.length
    canFrameCount := trace.rows.length
    motorCount := columns.length
    feedbackCountByMotor := columns.map fun motor => (motor.name, motor.feedbackCount)
    commandCountByMotor := columns.map fun motor => (motor.name, motor.commandCount)
    feedbackCoverageByMotor := columns.map fun motor => (motor.name, observedCoverage motor.feedback)
    commandCoverageByMotor := columns.map fun motor => (motor.name, observedCoverage motor.command)
    feedbackP99AgeMsByMotor := columns.map fun motor => (motor.name, motor.feedbackP99AgeMs)
    errors := mergeErrors columns }

/-- `merge_system_id_traces`.  The report of no motors fails at `np.nanmax` of an empty
array. -/
def mergeSystemIdTraces (trace : CanTrace) (policyNs : List ℤ) (hardware : Hardware) :
    Except String (MergedTrace × MergeReport) := do
  if policyNs = [] ∨ ¬policyNs.IsChain (· < ·) then
    .error "policy state_monotonic_ns must be a non-empty increasing vector"
  else if trace.interfaceNames ≠ hardware.interfaces then
    .error "CAN trace interface order does not match hardware contract"
  else if ∃ row ∈ trace.rows, row.payload.length ≠ 64 then
    .error "CAN trace payload must have shape (frames, 64)"
  else do
    let motors ← motorRecords hardware
    let columns := motors.map (mergeMotor trace policyNs)
    if columns.isEmpty then
      .error "zero-size array to reduction operation fmax which has no identity"
    else .ok (⟨policyNs, columns⟩, mergeReport trace policyNs columns)

end SpriteRuntime
