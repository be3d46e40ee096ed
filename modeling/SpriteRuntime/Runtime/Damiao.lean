import SpriteRuntime.Runtime.SystemIdMerge

/-!
# Damiao MIT commands

`encode_damiao_mit_command` checks a command against an envelope and the ranges of the motor
and packs it into eight bytes, and the writers put those bytes on the bus.  What the
constructors of the source reject cannot be built here.
-/

namespace SpriteRuntime

open Foundation

/-- Where the ranges of a motor are known from. -/
inductive RangeSource where
  | motorRegisterReadback
  | operatorConfirmedDriveConfiguration
  deriving DecidableEq

structure DamiaoMitRanges extends MitRanges where
  source : RangeSource
  positionOrdered : positionRad.1 < positionRad.2
  velocityOrdered : velocityRadS.1 < velocityRadS.2
  torqueOrdered : torqueNm.1 < torqueNm.2

structure DamiaoFeedbackEndpoint where
  motorName : String
  interface : String
  canId : ℤ
  masterId : ℤ
  ranges : DamiaoMitRanges
  named : motorName ≠ "" ∧ interface ≠ ""
  canIdRange : 0 ≤ canId ∧ canId ≤ 0xF
  masterIdRange : 0 ≤ masterId ∧ masterId ≤ 0x7FF

structure DamiaoMitCommand where
  positionRad : ℚ
  velocityRadS : ℚ
  kp : ℚ
  kd : ℚ
  feedforwardTorqueNm : ℚ

structure DamiaoMitState where
  positionRad : ℚ
  velocityRadS : ℚ

structure DamiaoMitCommandEnvelope where
  positionRad : ℚ × ℚ
  maximumVelocityRadS : ℚ
  maximumFeedforwardTorqueNm : ℚ
  maximumOutputTorqueNm : ℚ
  positionOrdered : positionRad.1 < positionRad.2
  velocityPositive : 0 < maximumVelocityRadS
  feedforwardPositive : 0 < maximumFeedforwardTorqueNm
  outputPositive : 0 < maximumOutputTorqueNm

structure EncodedDamiaoMitCommand where
  motorName : String
  interface : String
  canId : ℤ
  data : CanData
  deriving DecidableEq

/-- The errors of the encoder: a value outside its limits, or a text. -/
inductive DamiaoError where
  | outside (name : String) (value : ℚ) (limits : ℚ × ℚ)
  | refused (text : String)
  deriving DecidableEq

def floatToUintStrict (name : String) (value : ℚ) (limits : ℚ × ℚ) (bits : ℕ) :
    Except DamiaoError ℕ :=
  if ¬(limits.1 ≤ value ∧ value ≤ limits.2) then .error (.outside name value limits)
  else .ok (quantize limits.1 limits.2 (2 ^ bits - 1) value)

theorem floatToUintStrict_eq_ok {name : String} {value : ℚ} {limits : ℚ × ℚ} {bits code : ℕ} :
    floatToUintStrict name value limits bits = .ok code ↔
      (limits.1 ≤ value ∧ value ≤ limits.2) ∧
        quantize limits.1 limits.2 (2 ^ bits - 1) value = code := by
  unfold floatToUintStrict
  split <;> simp_all

/-- `max(abs(value) for value in limits)`. -/
def maximumAbs (limits : ℚ × ℚ) : ℚ := max |limits.1| |limits.2|

/-- `estimated_output_torque_nm`. -/
def estimatedOutputTorqueNm (command : DamiaoMitCommand) (measuredState : DamiaoMitState) : ℚ :=
  command.kp * (command.positionRad - measuredState.positionRad) +
    command.kd * (command.velocityRadS - measuredState.velocityRadS) +
    command.feedforwardTorqueNm

/-- The byte tuple of the source, with its masks. -/
def mitBytes (fields : MitFields) : CanData :=
  ![UInt8.ofNat (fields.position >>> 8 &&& 0xFF), UInt8.ofNat (fields.position &&& 0xFF),
    UInt8.ofNat (fields.velocity >>> 4 &&& 0xFF),
    UInt8.ofNat ((fields.velocity &&& 0xF) <<< 4 ||| fields.kp >>> 8 &&& 0xF),
    UInt8.ofNat (fields.kp &&& 0xFF), UInt8.ofNat (fields.kd >>> 4 &&& 0xFF),
    UInt8.ofNat ((fields.kd &&& 0xF) <<< 4 ||| fields.torque >>> 8 &&& 0xF),
    UInt8.ofNat (fields.torque &&& 0xFF)]

section Encode

variable (endpoint : DamiaoFeedbackEndpoint) (command : DamiaoMitCommand)
  (measuredState : DamiaoMitState) (envelope : DamiaoMitCommandEnvelope)

/-- `encode_damiao_mit_command`.  Exact arithmetic leaves no estimate that is not finite. -/
def encodeDamiaoMitCommand : Except DamiaoError EncodedDamiaoMitCommand := do
  let protocol := endpoint.ranges
  raiseIf (envelope.positionRad.1 < protocol.positionRad.1 ∨
      protocol.positionRad.2 < envelope.positionRad.2)
    (.refused "position envelope exceeds the motor register-readback MIT range")
  raiseIf (maximumAbs protocol.velocityRadS < envelope.maximumVelocityRadS)
    (.refused "velocity envelope exceeds the motor register-readback MIT range")
  raiseIf (maximumAbs protocol.torqueNm < envelope.maximumFeedforwardTorqueNm)
    (.refused "torque envelope exceeds the motor register-readback MIT range")
  raiseIf (maximumAbs protocol.torqueNm < envelope.maximumOutputTorqueNm)
    (.refused "output torque envelope exceeds the motor register-readback MIT range")
  let _ ← floatToUintStrict "position_rad" command.positionRad envelope.positionRad 16
  raiseIf (envelope.maximumVelocityRadS < |command.velocityRadS|)
    (.refused "velocity_rad_s exceeds the project command envelope")
  raiseIf (envelope.maximumFeedforwardTorqueNm < |command.feedforwardTorqueNm|)
    (.refused "feedforward_torque_nm exceeds the project command envelope")
  raiseIf (envelope.maximumOutputTorqueNm < |estimatedOutputTorqueNm command measuredState|)
    (.refused "estimated MIT output torque exceeds the project command envelope")
  let position ← floatToUintStrict "position_rad" command.positionRad protocol.positionRad 16
  let velocity ← floatToUintStrict "velocity_rad_s" command.velocityRadS protocol.velocityRadS 12
  let kp ← floatToUintStrict "kp" command.kp (0, 500) 12
  let kd ← floatToUintStrict "kd" command.kd (0, 5) 12
  let torque ← floatToUintStrict "feedforward_torque_nm" command.feedforwardTorqueNm
    protocol.torqueNm 12
  return ⟨endpoint.motorName, endpoint.interface, endpoint.canId,
    mitBytes ⟨position, velocity, kp, kd, torque⟩⟩

end Encode

/-! ## The writer -/

/-- A CAN FD frame with its payload padded to 64 bytes. -/
structure CanFdFrame where
  canId : ℤ
  length : ℕ
  flags : ℕ
  payload : List UInt8
  deriving DecidableEq

/-- `data.ljust(64, b"\0")`. -/
def framePayload (data : CanData) : List UInt8 := List.ofFn data ++ List.replicate 56 0

/-- The seven bytes `FF` and the opcode of a frame that changes the mode or the zero. -/
def modePayload (opcode : UInt8) : CanData :=
  ![0xFF, 0xFF, 0xFF, 0xFF, 0xFF, 0xFF, 0xFF, opcode]

def enablePayload : CanData := modePayload 0xFC

def disablePayload : CanData := modePayload 0xFD

def setZeroPayload : CanData := modePayload 0xFE

structure SocketCanSingleMotorMitWriter where
  interface : String
  motorName : String
  canId : ℤ
  named : motorName ≠ ""
  canIdRange : 0 ≤ canId ∧ canId ≤ 0x7FF

namespace SocketCanSingleMotorMitWriter

variable (writer : SocketCanSingleMotorMitWriter)

/-- The frame that `_send_payload` writes. -/
def sendPayload (data : CanData) : CanFdFrame := ⟨writer.canId, 8, 0x01, framePayload data⟩

def sendCommand (command : EncodedDamiaoMitCommand) : Except String CanFdFrame :=
  if command.motorName ≠ writer.motorName ∨ command.interface ≠ writer.interface ∨
      command.canId ≠ writer.canId then
    .error "encoded MIT command is outside the single-motor allowlist"
  else .ok (writer.sendPayload command.data)

def sendEnable : CanFdFrame := writer.sendPayload enablePayload

def sendDisable : CanFdFrame := writer.sendPayload disablePayload

end SocketCanSingleMotorMitWriter

end SpriteRuntime
