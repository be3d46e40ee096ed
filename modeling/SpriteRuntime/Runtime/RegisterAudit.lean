import SpriteRuntime.Foundation.Interview
import SpriteRuntime.Runtime.CanTransmitters

/-!
# Register audits

The drives are asked for registers, one transaction at a time: a read request is sent, and until a
deadline what arrives is passed over unless it comes from the master id of the motor.  Such a frame
has to be the answer; anything else from the motor ends the audit.
-/

namespace SpriteRuntime

open Foundation

/-! ## Decoding -/

/-- The number of a binary32 bit pattern. -/
def singleNumber (bits : ℕ) : Double :=
  let exponent : ℕ := bits / 2 ^ 23 % 2 ^ 8
  let fraction : ℕ := bits % 2 ^ 23
  let sign : ℚ := if bits / 2 ^ 31 % 2 = 1 then -1 else 1
  if exponent = 255 then .nonfinite
  else if exponent = 0 then .finite (sign * fraction / 2 ^ 149)
  else .finite (sign * (2 ^ 23 + fraction) * 2 ^ exponent / 2 ^ 150)

example : singleNumber 0x41480000 = .finite (25 / 2) := by decide +kernel

/-- `data.hex()`. -/
def hexBytes (data : List UInt8) : String :=
  String.join (data.map fun byte => String.ofList
    [Nat.digitChar (byte.toNat / 16), Nat.digitChar (byte.toNat % 16)])

structure DamiaoRegisterValue (V : Type) where
  masterId : ℤ
  registerId : ℤ
  registerName : String
  value : V

/-- `MIT_RANGE_REGISTERS`. -/
def mitRangeRegisters : List (ℤ × String) := [(21, "PMAX"), (22, "VMAX"), (23, "TMAX")]

/-- `COMMISSIONING_REGISTERS`, with whether the value is a float. -/
def commissioningRegisters : List (ℤ × String × Bool) :=
  [(2, "OT_Value", true), (3, "OC_Value", true), (6, "MAX_SPD", true), (13, "hw_ver", false),
    (14, "sw_ver", false), (36, "sub_ver", false)]

/-- `build_read_request`. -/
def buildReadRequest (commandCanId registerId : ℤ) : Except String CanData := do
  raiseIf (¬StandardId commandCanId) "Damiao command CAN ID must be an 11-bit standard ID"
  raiseIf (registerId ∉ mitRangeRegisters.map Prod.fst)
    "only PMAX/VMAX/TMAX registers 21/22/23 may be read"
  return readRequestData commandCanId registerId

/-- `frame.data[0] | (frame.data[1] << 8)`. -/
def payloadCommandId (data : List UInt8) : ℕ :=
  (data.getD 0 0).toNat ||| (data.getD 1 0).toNat <<< 8

/-- What both decoders check of a frame.  They differ in the text about the command id. -/
def checkReadResponse (mismatch : ℕ → String) (frame : ReceivedCanFrame)
    (commandCanId masterId registerId : ℤ) : Except String Unit := do
  raiseIf ((frame.canId : ℤ) ≠ masterId)
    "register response arbitration ID does not match Master ID"
  raiseIf (¬frame.isFd ∨ ¬frame.bitRateSwitch)
    "register response must be CAN-FD with bit-rate switching"
  raiseIf (frame.data.length ≠ 8) "register response must contain exactly eight bytes"
  raiseIf ((payloadCommandId frame.data : ℤ) ≠ commandCanId)
    (mismatch (payloadCommandId frame.data))
  raiseIf ((frame.data.getD 2 0) ≠ 0x33) "register response is not a read response"
  raiseIf (((frame.data.getD 3 0).toNat : ℤ) ≠ registerId) "register response RID mismatch"

/-- `struct.unpack("<f", frame.data[4:8])[0]`, finite and positive. -/
def positiveFloat (data : List UInt8) : Except String ℚ :=
  match singleNumber (unsignedField data 4 4) with
  | .finite value =>
      if value ≤ 0 then .error "register value must be finite and positive" else .ok value
  | .nonfinite => .error "register value must be finite and positive"

/-- `decode_read_response`. -/
def decodeReadResponse (frame : ReceivedCanFrame) (commandCanId masterId registerId : ℤ) :
    Except String (DamiaoRegisterValue ℚ) := do
  checkReadResponse (fun payloadId =>
      "register response payload command CAN ID mismatch: arbitration=" ++ hexText frame.canId ++
      " expected_master=" ++ hexText masterId.toNat ++
      " expected_command=" ++ hexText commandCanId.toNat ++
      " payload_id=" ++ hexText payloadId ++ " data=" ++ hexBytes frame.data)
    frame commandCanId masterId registerId
  match mitRangeRegisters.lookup registerId with
  | none => throw "unexpected register ID"
  | some registerName => do
      let value ← positiveFloat frame.data
      return ⟨masterId, registerId, registerName, value⟩

/-- The value of a commissioning register. -/
inductive RegisterNumber where
  | float (value : ℚ)
  | uint32 (value : ℕ)
  deriving DecidableEq

/-- `decode_commissioning_read_response`. -/
def decodeCommissioningReadResponse (frame : ReceivedCanFrame)
    (commandCanId masterId registerId : ℤ) : Except String (DamiaoRegisterValue RegisterNumber) :=
  match commissioningRegisters.lookup registerId with
  | none => .error "unexpected commissioning register ID"
  | some (registerName, isFloat) => do
      checkReadResponse (fun _ => "register response payload command CAN ID mismatch") frame
        commandCanId masterId registerId
      if isFloat then do
        let value ← positiveFloat frame.data
        return ⟨masterId, registerId, registerName, .float value⟩
      else return ⟨masterId, registerId, registerName, .uint32 (unsignedField frame.data 4 4)⟩

/-- What an audit reads, and how. -/
structure RegisterTable (V : Type) where
  mode : String
  registers : List (ℤ × String)
  decode : ReceivedCanFrame → ℤ → ℤ → ℤ → Except String (DamiaoRegisterValue V)

def mitRangeTable : RegisterTable ℚ where
  mode := "read_only_damiao_mit_range_register_audit"
  registers := mitRangeRegisters
  decode := decodeReadResponse

def commissioningTable : RegisterTable RegisterNumber where
  mode := "read_only_damiao_commissioning_register_audit"
  registers := commissioningRegisters.map fun register => (register.1, register.2.1)
  decode := decodeCommissioningReadResponse

/-! ## The world and the state -/

/-- The clock, and the sockets of the readers by how many calls came before. -/
structure RegisterWorld where
  monotonic : ℕ → ℚ
  send : ℕ → TransmitAnswer
  receive : String → ℕ → Option SocketMessage

/-- Monotonic time advances. -/
structure RegisterWorld.Advances (world : RegisterWorld) : Prop where
  monotone : Monotone world.monotonic
  unbounded : ∀ bound, ∃ call, bound ≤ world.monotonic call

/-- The readers by their interfaces. -/
structure RegisterReaders where
  entries : List (String × SocketCanDamiaoRegisterReader)
  distinct : (entries.map Prod.fst).Nodup

/-- What a reader does and hears. -/
inductive RegisterEvent where
  | request (interface : String) (motorCanId registerId : ℤ)
  | received (interface : String) (frame : ReceivedCanFrame)
  | discarded (interface : String)

def RegisterEvent.isRequest : RegisterEvent → Bool
  | request .. => true
  | _ => false

def RegisterEvent.isDiscarded : RegisterEvent → Bool
  | discarded _ => true
  | _ => false

structure AuditState where
  clockCalls : ℕ := 0
  sendCalls : ℕ := 0
  receiveCalls : ℕ := 0
  hardwareTxAttempts : String → ℕ := fun _ => 0
  attempts : ℕ := 0
  discardedTimestampFrames : ℕ := 0
  log : List RegisterEvent := []

abbrev Auditing (α : Type) : Type := Program AuditState String α

structure RegisterReport (V : Type) where
  mode : String
  allowedRegisterIds : List ℤ
  txCount : ℕ
  discardedTimestampFrames : ℕ
  motors : List (String × List (String × V))
  passed : Bool

/-! ## The audit -/

section Audit

variable {V : Type} (table : RegisterTable V) (world : RegisterWorld)
  (reader : SocketCanDamiaoRegisterReader) (endpoint : DamiaoFeedbackEndpoint)

/-- `monotonic()`. -/
def auditClock : Auditing ℚ := do
  let state ← Program.get
  Program.modify fun state => { state with clockCalls := state.clockCalls + 1 }
  return world.monotonic state.clockCalls

/-- The reader counts what it handed to the socket. -/
def AuditState.counted (interface : String) (state : AuditState) : AuditState :=
  let attempts := state.hardwareTxAttempts interface + 1
  { state with
    hardwareTxAttempts := Function.update state.hardwareTxAttempts interface attempts }

/-- `reader.send_read_request`; the reader is known under the interface. -/
def sendReadRequest (interface : String) (motorCanId registerId : ℤ) : Auditing Unit := do
  let _ ← Program.ofExcept (reader.readRequestFrame motorCanId registerId)
  let state ← Program.get
  Program.modify fun state => { state with
    sendCalls := state.sendCalls + 1
    log := state.log ++ [.request interface motorCanId registerId] }
  match world.send state.sendCalls with
  | .sent => Program.modify (·.counted interface)
  | .raised text counted => do
      Program.modify fun state => if counted then state.counted interface else state
      Program.throw text

/-- A frame that did not come from the master id of the motor is passed over. -/
def judgeFrame (registerId : ℤ) (frame : ReceivedCanFrame) : Auditing (Option (Option V)) :=
  if frame.canId = 0x7FF ∨ (frame.canId : ℤ) ≠ endpoint.masterId then return none
  else do
    let decoded ← Program.ofExcept
      (table.decode frame endpoint.canId endpoint.masterId registerId)
    return some (some decoded.value)

/-- What is made of a call of `reader.receive`. -/
def heardFrame (registerId : ℤ) :
    Except SocketCanError ReceivedSocketFrame → Auditing (Option (Option V))
  | .error .wouldBlock => return none
  | .error (.timestamp _) => do
      Program.modify fun state => { state with
        discardedTimestampFrames := state.discardedTimestampFrames + 1
        log := state.log ++ [.discarded endpoint.interface] }
      return none
  | .error (.runtime text) => Program.throw text
  | .ok frame => do
      Program.modify fun state => { state with
        log := state.log ++ [.received endpoint.interface frame.toReceivedCanFrame] }
      judgeFrame table endpoint registerId frame.toReceivedCanFrame

def listenOnce (registerId : ℤ) : Auditing (Option (Option V)) := do
  let state ← Program.get
  Program.modify fun state => { state with receiveCalls := state.receiveCalls + 1 }
  heardFrame table endpoint registerId
    (receiveSocket reader.interface (world.receive reader.interface state.receiveCalls))

/-- A round of `while monotonic() < deadline`. -/
def listenBefore (registerId : ℤ) (deadline now : ℚ) : Auditing (Option (Option V)) :=
  if now < deadline then listenOnce table world reader endpoint registerId else return some none

def listenRound (registerId : ℤ) (deadline : ℚ) : Auditing (Option (Option V)) := do
  let now ← auditClock world
  listenBefore table world reader endpoint registerId deadline now

variable (fuel : ℕ) (timeoutS : ℚ) (retries : ℤ)

/-- Listening until the answer or the deadline. -/
def awaitRegister (registerId : ℤ) : Auditing (Option V) := do
  Program.modify fun state => { state with attempts := state.attempts + 1 }
  let now ← auditClock world
  Program.repeatUntil fuel (listenRound table world reader endpoint registerId (now + timeoutS))

/-- One attempt to read a register. -/
def requestRegister (registerId : ℤ) : Auditing (Option V) := do
  sendReadRequest world reader endpoint.interface endpoint.canId registerId
  awaitRegister table world reader endpoint fuel timeoutS registerId

/-- All attempts to read a register. -/
def readRegister (register : ℤ × String) : Auditing (String × V) := do
  let decoded ← Program.tryTimes
    (requestRegister table world reader endpoint fuel timeoutS register.1) retries.toNat
  match decoded with
  | some value => return (register.2, value)
  | none => Program.throw ("no valid " ++ register.2 ++ " response from " ++ endpoint.motorName ++
      " after " ++ toString retries ++ " attempts")

variable (readers : RegisterReaders)

/-- The registers of one motor. -/
def readMotor (endpoint : DamiaoFeedbackEndpoint) : Auditing (String × List (String × V)) := do
  match readers.entries.lookup endpoint.interface with
  | none => Program.throw endpoint.interface
  | some reader => do
      let values ← Program.gather
        (readRegister table world reader endpoint fuel timeoutS retries) table.registers
      return (endpoint.motorName, values)

/-- `sum(reader.hardware_tx_attempts for reader in readers.values())`. -/
def txCount (state : AuditState) : ℕ :=
  (readers.entries.map fun reader => state.hardwareTxAttempts reader.1).sum

/-- `collect_mit_range_registers` and `collect_commissioning_registers`. -/
def collectRegisters (selected : List DamiaoFeedbackEndpoint) : Auditing (RegisterReport V) := do
  Program.throwIf (¬(1 / 100 ≤ timeoutS ∧ timeoutS ≤ 1))
    "timeout_s must be finite and in [0.01, 1.0]"
  Program.throwIf (¬(1 ≤ retries ∧ retries ≤ 10)) "retries must be an integer in [1, 10]"
  Program.throwIf (selected = []) "at least one endpoint is required"
  Program.throwIf (¬(selected.map DamiaoFeedbackEndpoint.motorName).Nodup)
    "motor names must be unique"
  Program.throwIf (∃ endpoint ∈ selected, endpoint.interface ∉ readers.entries.map Prod.fst)
    "every endpoint must have a register reader"
  let motors ← Program.gather
    (readMotor table world fuel timeoutS retries readers) selected
  let state ← Program.get
  Program.throwIf (txCount readers state ≠ state.attempts) "register reader TX accounting mismatch"
  return {
    mode := table.mode
    allowedRegisterIds := table.registers.map Prod.fst
    txCount := txCount readers state
    discardedTimestampFrames := state.discardedTimestampFrames
    motors
    passed := motors.length = selected.length }

end Audit

end SpriteRuntime
