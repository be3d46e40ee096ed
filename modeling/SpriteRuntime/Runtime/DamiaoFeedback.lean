import SpriteRuntime.Runtime.ZeroGainEcho

/-!
# Feedback frames

A feedback frame is matched to its motor by the interface and the master id, never by the order
in which frames arrive, and its eight bytes give the status, the position, the velocity and the
torque of that motor.
-/

namespace SpriteRuntime

open Foundation

structure ReceivedCanFrame where
  interface : String
  canId : ℕ
  data : List UInt8
  isExtended : Bool
  isRemote : Bool
  isError : Bool
  isFd : Bool
  bitRateSwitch : Bool
  softwareTimestampNs : ℤ
  hardwareTimestampNs : ℤ
  userspaceReceiveTimestampNs : ℤ

structure DamiaoFeedback where
  motorName : String
  interface : String
  canId : ℤ
  masterId : ℤ
  statusCode : ℕ
  statusName : String
  positionRad : ℚ
  velocityRadS : ℚ
  estimatedOutputTorqueNm : ℚ
  mosTemperatureC : ℕ
  rotorTemperatureC : ℕ
  softwareTimestampNs : ℤ
  hardwareTimestampNs : ℤ
  userspaceReceiveTimestampNs : ℤ

/-- `STATUS_NAMES.get(status, "reserved_or_unknown")`. -/
def statusName : ℕ → String
  | 0x0 => "disabled"
  | 0x1 => "enabled"
  | 0x8 => "over_voltage"
  | 0x9 => "under_voltage"
  | 0xA => "over_current"
  | 0xB => "mos_over_temperature"
  | 0xC => "motor_coil_over_temperature"
  | 0xD => "communication_lost"
  | 0xE => "overload"
  | _ => "reserved_or_unknown"

/-- `decode_damiao_feedback`. -/
def decodeDamiaoFeedback (frame : ReceivedCanFrame) (endpoint : DamiaoFeedbackEndpoint) :
    Except String DamiaoFeedback := do
  raiseIf (frame.interface ≠ endpoint.interface)
    "frame interface does not match the configured motor endpoint"
  raiseIf ((frame.canId : ℤ) ≠ endpoint.masterId)
    "frame CAN ID does not match the configured Damiao Master ID"
  raiseIf (frame.isExtended ∨ frame.isRemote ∨ frame.isError)
    "Damiao feedback must be a standard CAN data frame"
  raiseIf (frame.data.length ≠ 8) "Damiao feedback must contain exactly eight data bytes"
  let byte := fun index => (frame.data.getD index 0).toNat
  let controllerId := byte 0 &&& 0x0F
  raiseIf ((controllerId : ℤ) ≠ endpoint.canId)
    "feedback payload controller ID does not match configured CAN ID"
  let status := byte 0 >>> 4 &&& 0x0F
  let positionRaw := byte 1 <<< 8 ||| byte 2
  let velocityRaw := byte 3 <<< 4 ||| byte 4 >>> 4
  let torqueRaw := (byte 4 &&& 0x0F) <<< 8 ||| byte 5
  return {
    motorName := endpoint.motorName
    interface := frame.interface
    canId := endpoint.canId
    masterId := frame.canId
    statusCode := status
    statusName := statusName status
    positionRad := uintToFloat positionRaw endpoint.ranges.positionRad 16
    velocityRadS := uintToFloat velocityRaw endpoint.ranges.velocityRadS 12
    estimatedOutputTorqueNm := uintToFloat torqueRaw endpoint.ranges.torqueNm 12
    mosTemperatureC := byte 6
    rotorTemperatureC := byte 7
    softwareTimestampNs := frame.softwareTimestampNs
    hardwareTimestampNs := frame.hardwareTimestampNs
    userspaceReceiveTimestampNs := frame.userspaceReceiveTimestampNs }

instance lawfulBEq_key : LawfulBEq (String × ℤ) := inferInstance

/-- The interface and the id under which the feedback of a motor arrives. -/
def DamiaoFeedbackEndpoint.feedbackKey (endpoint : DamiaoFeedbackEndpoint) : String × ℤ :=
  (endpoint.interface, endpoint.masterId)

/-- The interface and the id under which a motor is commanded. -/
def DamiaoFeedbackEndpoint.commandKey (endpoint : DamiaoFeedbackEndpoint) : String × ℤ :=
  (endpoint.interface, endpoint.canId)

def ReceivedCanFrame.key (frame : ReceivedCanFrame) : String × ℤ := (frame.interface, frame.canId)

/-- The endpoints of a decoder; no two have the same feedback key. -/
structure DamiaoFeedbackDecoder where
  endpoints : List DamiaoFeedbackEndpoint
  distinct : (endpoints.map DamiaoFeedbackEndpoint.feedbackKey).Nodup
  nonempty : endpoints ≠ []

namespace DamiaoFeedbackDecoder

/-- The constructor: the error names the first endpoint whose key was there before. -/
def make (endpoints : List DamiaoFeedbackEndpoint) : Except String DamiaoFeedbackDecoder :=
  if distinct : (endpoints.map DamiaoFeedbackEndpoint.feedbackKey).Nodup then
    if nonempty : endpoints ≠ [] then .ok { endpoints, distinct, nonempty }
    else .error "at least one Damiao feedback endpoint is required"
  else
    let keys := endpoints.map DamiaoFeedbackEndpoint.feedbackKey
    let duplicate := (keys.zipIdx.find? fun entry => entry.1 ∈ keys.take entry.2).map Prod.fst
    .error (match duplicate with
      | some key => s!"duplicate Damiao feedback endpoint: {key.1}:{key.2}"
      | none => "")

variable (decoder : DamiaoFeedbackDecoder)

def decode (frame : ReceivedCanFrame) : Except String DamiaoFeedback :=
  match decoder.endpoints.find? fun endpoint => endpoint.feedbackKey = frame.key with
  | none => .error s!"unconfigured Damiao feedback endpoint: {frame.interface}:{frame.canId}"
  | some endpoint => decodeDamiaoFeedback frame endpoint

end DamiaoFeedbackDecoder

end SpriteRuntime
