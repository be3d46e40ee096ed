import SpriteRuntime.Runtime.CanSocket
import SpriteRuntime.Runtime.GateDrives
import SpriteRuntime.Runtime.ZeroGainProbe

/-!
# Restricted transmitters

Every class that can send on a bus is restricted to the frames of its purpose.  A drive is enabled
by one frame only, sent under its own id, and only the MIT writers of that drive can send it.
-/

namespace SpriteRuntime

open Foundation

/-! ## The classes -/

/-- `_send_payload`: a CAN FD frame of eight bytes with bit-rate switching. -/
def writtenFrame (canId : ℤ) (data : CanData) : CanFdFrame := ⟨canId, 8, 0x01, framePayload data⟩

/-- The id of an 11-bit standard frame. -/
def StandardId (canId : ℤ) : Prop := 0 ≤ canId ∧ canId ≤ 0x7FF

instance (canId : ℤ) : Decidable (StandardId canId) := by unfold StandardId; infer_instance

/-- `SocketCanZeroGainPoller.send_zero_gain_poll`, up to the socket. -/
def zeroGainPollFrame (canId : ℤ) (data : CanData) : Except String CanFdFrame := do
  raiseIf (¬StandardId canId) "zero-gain poll requires an 11-bit standard CAN ID"
  validateZeroGainMitPayload (List.ofFn data)
  return writtenFrame canId data

/-- The eight bytes of a read request. -/
def readRequestData (motorCanId registerId : ℤ) : CanData :=
  ![UInt8.ofNat (motorCanId.toNat &&& 0xFF), UInt8.ofNat (motorCanId.toNat >>> 8 &&& 0xFF), 0x33,
    UInt8.ofNat registerId.toNat, 0, 0, 0, 0]

/-- What one class of register readers may read, and how it refuses the rest. -/
structure RegisterAllowlist where
  registerIds : List ℤ
  refusal : String

/-- `SocketCanDamiaoRegisterReader`. -/
def mitRangeAllowlist : RegisterAllowlist where
  registerIds := [21, 22, 23]
  refusal := "only PMAX/VMAX/TMAX registers 21/22/23 may be read"

/-- `SocketCanDamiaoCommissioningRegisterReader`. -/
def commissioningAllowlist : RegisterAllowlist where
  registerIds := [2, 3, 6, 13, 14, 36]
  refusal := "only OT/OC/MAX_SPD/version commissioning registers may be read"

/-- A register reader with the motors that it may ask. -/
structure SocketCanDamiaoRegisterReader where
  allowlist : RegisterAllowlist
  interface : String
  allowedMotorCanIds : List ℤ
  nonempty : allowedMotorCanIds ≠ []
  standard : ∀ canId ∈ allowedMotorCanIds, StandardId canId

/-- `send_read_request`, up to the socket. -/
def SocketCanDamiaoRegisterReader.readRequestFrame (reader : SocketCanDamiaoRegisterReader)
    (motorCanId registerId : ℤ) : Except String CanFdFrame := do
  raiseIf (motorCanId ∉ reader.allowedMotorCanIds)
    "motor CAN ID is outside the register-read allowlist"
  raiseIf (registerId ∉ reader.allowlist.registerIds) reader.allowlist.refusal
  return writtenFrame 0x7FF (readRequestData motorCanId registerId)

structure SocketCanSetZeroWriter where
  interface : String
  allowedCanIds : List ℤ
  nonempty : allowedCanIds ≠ []
  standard : ∀ canId ∈ allowedCanIds, StandardId canId

/-- `send_set_zero`, up to the socket. -/
def SocketCanSetZeroWriter.setZeroFrame (writer : SocketCanSetZeroWriter) (canId : ℤ) :
    Except String CanFdFrame := do
  raiseIf (canId ∉ writer.allowedCanIds)
    ("CAN ID " ++ hexText canId.toNat ++ " is not in the set-zero allowlist")
  return writtenFrame canId setZeroPayload

/-- `SocketCanMotorGroupMitWriter`; `endpoints` are the names and ids of the fixed group. -/
structure SocketCanMotorGroupMitWriter where
  interface : String
  endpoints : List (String × ℤ)
  size : 2 ≤ endpoints.length ∧ endpoints.length ≤ 8
  names : (endpoints.map Prod.fst).Nodup
  ids : (endpoints.map Prod.snd).Nodup
  valid : ∀ endpoint ∈ endpoints, endpoint.1 ≠ "" ∧ StandardId endpoint.2

namespace SocketCanMotorGroupMitWriter

/-- The constructor. -/
def make (interface : String) (endpoints : List (String × ℤ)) :
    Except String SocketCanMotorGroupMitWriter :=
  if size : 2 ≤ endpoints.length ∧ endpoints.length ≤ 8 then
    if names : (endpoints.map Prod.fst).Nodup then
      if ids : (endpoints.map Prod.snd).Nodup then
        if valid : ∀ endpoint ∈ endpoints, endpoint.1 ≠ "" ∧ StandardId endpoint.2 then
          .ok { interface, endpoints, size, names, ids, valid }
        else .error "motor-group writer requires named 11-bit CAN endpoints"
      else .error "motor-group writer CAN IDs must be unique"
    else .error "motor-group writer endpoint names must be unique"
  else .error "motor-group writer requires 2..8 endpoints"

variable (writer : SocketCanMotorGroupMitWriter)

/-- `_send_payload`, up to the socket. -/
def payloadFrame (motorName : String) (data : CanData) : Except String CanFdFrame :=
  match writer.endpoints.lookup motorName with
  | none => .error "motor is outside the fixed motor-group allowlist"
  | some canId => .ok (writtenFrame canId data)

/-- `send_command`, up to the socket. -/
def commandFrame (command : EncodedDamiaoMitCommand) : Except String CanFdFrame := do
  raiseIf (writer.endpoints.lookup command.motorName ≠ some command.canId ∨
      command.interface ≠ writer.interface)
    "encoded MIT command is outside the motor-group allowlist"
  writer.payloadFrame command.motorName command.data

end SocketCanMotorGroupMitWriter

/-! ## Calls on a bus -/

/-- An object that can send. -/
inductive Transmitter where
  | poller (interface : String)
  | registerReader (reader : SocketCanDamiaoRegisterReader)
  | setZeroWriter (writer : SocketCanSetZeroWriter)
  | singleMotor (writer : SocketCanSingleMotorMitWriter)
  | motorGroup (writer : SocketCanMotorGroupMitWriter)

/-- A call of one of the sending methods. -/
inductive TransmitCall where
  | zeroGainPoll (canId : ℤ) (data : CanData)
  | readRequest (motorCanId registerId : ℤ)
  | setZero (canId : ℤ)
  | command (command : EncodedDamiaoMitCommand)
  | enable (motorName : String)
  | disable (motorName : String)

namespace Transmitter

def interface : Transmitter → String
  | poller interface => interface
  | registerReader reader => reader.interface
  | setZeroWriter writer => writer.interface
  | singleMotor writer => writer.interface
  | motorGroup writer => writer.interface

/-- The frame that a call hands to the socket.  An object has the methods of its class only. -/
def frame : Transmitter → TransmitCall → Except String CanFdFrame
  | poller _, .zeroGainPoll canId data => zeroGainPollFrame canId data
  | registerReader reader, .readRequest motorCanId registerId =>
      reader.readRequestFrame motorCanId registerId
  | setZeroWriter writer, .setZero canId => writer.setZeroFrame canId
  | singleMotor writer, .command command => writer.sendCommand command
  | singleMotor writer, .enable _ => .ok writer.sendEnable
  | singleMotor writer, .disable _ => .ok writer.sendDisable
  | motorGroup writer, .command command => writer.commandFrame command
  | motorGroup writer, .enable motorName => writer.payloadFrame motorName enablePayload
  | motorGroup writer, .disable motorName => writer.payloadFrame motorName disablePayload
  | _, _ => .error "the object has no attribute of this name"

end Transmitter

/-! ## What switches a drive -/

/-- The status that eight bytes give the drive under whose id they are sent. -/
def switchOf (data : CanData) : Option Bool :=
  if data = enablePayload then some true
  else if data = disablePayload then some false
  else none

/-- The drive that a call is to switch, by its id, and the status; the poller, the readers and the
set-zero writer switch none.  A command switches a drive where its bytes are those of a mode frame. -/
def Transmitter.switches : Transmitter → TransmitCall → Option (ℤ × Bool)
  | .singleMotor writer, .enable _ => some (writer.canId, true)
  | .singleMotor writer, .disable _ => some (writer.canId, false)
  | .singleMotor _, .command command => (switchOf command.data).map (command.canId, ·)
  | .motorGroup writer, .enable motorName => (writer.endpoints.lookup motorName).map (·, true)
  | .motorGroup writer, .disable motorName => (writer.endpoints.lookup motorName).map (·, false)
  | .motorGroup _, .command command => (switchOf command.data).map (command.canId, ·)
  | _, _ => none

/-- What a drive makes of a frame on its bus. -/
def DamiaoFeedbackEndpoint.obeys (endpoint : DamiaoFeedbackEndpoint) (frame : CanFdFrame) :
    Option Bool :=
  if frame.canId ≠ endpoint.canId then none
  else if frame.payload.take frame.length = List.ofFn enablePayload then some true
  else if frame.payload.take frame.length = List.ofFn disablePayload then some false
  else none

/-- The installed drives with the frames that are sent to them. -/
def InstalledDrives.wire {Drive : Type} (drives : InstalledDrives Drive) :
    SwitchBus String Drive CanFdFrame ReceivedCanFrame where
  home drive := (drives.endpoint drive).interface
  effect drive frame := (drives.endpoint drive).obeys frame
  tells drive frame := (drives.endpoint drive).statusIn frame
  distinct := drives.bus.distinct

section Frames

variable {endpoint : DamiaoFeedbackEndpoint} {canId : ℤ} {data : CanData}
  {frame : CanFdFrame}

theorem obeys_writtenFrame : endpoint.obeys (writtenFrame canId data) =
    if canId = endpoint.canId then switchOf data else none := by
  have bytes : (framePayload data).take 8 = List.ofFn data := List.take_left' (by simp)
  simp only [DamiaoFeedbackEndpoint.obeys, writtenFrame, bytes, List.ofFn_inj, switchOf, ite_not]

theorem switchOf_of_byte (index : Fin 7) (differs : data index.castSucc ≠ 0xFF) :
    switchOf data = none := by
  have mode (opcode : UInt8) : modePayload opcode index.castSucc = 0xFF := by
    fin_cases index
    all_goals rfl
  rw [switchOf, if_neg, if_neg]
  · intro same
    exact differs (same ▸ mode 0xFD)
  · intro same
    exact differs (same ▸ mode 0xFC)

theorem switchOf_setZeroPayload : switchOf setZeroPayload = none := by decide

theorem switchOf_readRequestData {motorCanId registerId : ℤ} :
    switchOf (readRequestData motorCanId registerId) = none :=
  switchOf_of_byte 2 (show (0x33 : UInt8) ≠ 0xFF by decide)

/-- A poll with gains of zero is no mode frame. -/
theorem switchOf_zeroGain (accepted : validateZeroGainMitPayload (List.ofFn data) = .ok ()) :
    switchOf data = none := by
  have gain : (MitFields.unpack data).kp = 0 := (validateZeroGainMitPayload_ofFn.mp accepted).1.1
  apply switchOf_of_byte 4
  intro full
  have low : (data 4).toNat = 0 := by
    rw [MitFields.unpack] at gain
    exact (Nat.or_eq_zero_iff.mp gain).2
  have last : (data 4).toNat = 255 := congrArg UInt8.toNat full
  omega

/-- The frames that the writers send under their ids. -/
theorem payloadFrame_eq_ok {writer : SocketCanMotorGroupMitWriter} {motorName : String} :
    writer.payloadFrame motorName data = .ok frame ↔
      ∃ canId, writer.endpoints.lookup motorName = some canId ∧ writtenFrame canId data = frame := by
  unfold SocketCanMotorGroupMitWriter.payloadFrame
  cases writer.endpoints.lookup motorName with
  | none => simp
  | some canId => simp

theorem commandFrame_eq_ok {writer : SocketCanMotorGroupMitWriter}
    {command : EncodedDamiaoMitCommand} (made : writer.commandFrame command = .ok frame) :
    frame = writtenFrame command.canId command.data := by
  simp only [SocketCanMotorGroupMitWriter.commandFrame, except_bind_eq_ok, raiseIf_eq_ok,
    exists_const, not_or, not_not, payloadFrame_eq_ok] at made
  obtain ⟨⟨known, _⟩, canId, found, same⟩ := made
  obtain rfl := Option.some.inj (known.symm.trans found)
  exact same.symm

/-- A frame switches no drive but the one that its call is to switch. -/
theorem transmitter_obeys {transmitter : Transmitter} {call : TransmitCall} {status : Bool}
    (made : transmitter.frame call = .ok frame) (obeyed : endpoint.obeys frame = some status) :
    transmitter.switches call = some (endpoint.canId, status) := by
  have written {canId : ℤ} {data : CanData} (same : frame = writtenFrame canId data) :
      canId = endpoint.canId ∧ switchOf data = some status := by
    rw [same, obeys_writtenFrame] at obeyed
    split at obeyed
    next here => exact ⟨here, obeyed⟩
    · cases obeyed
  have quiet {canId : ℤ} {data : CanData} (same : frame = writtenFrame canId data)
      (none : switchOf data = none) : False := by
    rw [(written same).2] at none
    cases none
  unfold Transmitter.frame at made
  split at made
  next canId data =>
      simp only [zeroGainPollFrame, except_bind_eq_ok, raiseIf_eq_ok, exists_const] at made
      obtain ⟨_, _, accepted, same⟩ := made
      exact (quiet (Except.ok.inj same).symm (switchOf_zeroGain accepted)).elim
  next reader motorCanId registerId =>
      simp only [SocketCanDamiaoRegisterReader.readRequestFrame, except_bind_eq_ok, raiseIf_eq_ok,
        exists_const] at made
      obtain ⟨_, _, same⟩ := made
      exact (quiet (Except.ok.inj same).symm switchOf_readRequestData).elim
  next writer canId =>
      simp only [SocketCanSetZeroWriter.setZeroFrame, except_bind_eq_ok, raiseIf_eq_ok,
        exists_const] at made
      obtain ⟨_, same⟩ := made
      exact (quiet (Except.ok.inj same).symm switchOf_setZeroPayload).elim
  next writer command =>
      unfold SocketCanSingleMotorMitWriter.sendCommand at made
      split at made
      · cases made
      next inside =>
          simp only [not_or, not_not] at inside
          obtain ⟨here, switch⟩ := written (Except.ok.inj made).symm
          rw [Transmitter.switches, switch, inside.2.2, here]
          rfl
  next writer _ =>
      obtain ⟨here, switch⟩ := written (Except.ok.inj made).symm
      cases switch
      exact congrArg some (Prod.ext here rfl)
  next writer _ =>
      obtain ⟨here, switch⟩ := written (Except.ok.inj made).symm
      cases switch
      exact congrArg some (Prod.ext here rfl)
  next writer command =>
      obtain ⟨here, switch⟩ := written (commandFrame_eq_ok made)
      rw [Transmitter.switches, switch, here]
      rfl
  next writer motorName =>
      obtain ⟨canId, found, same⟩ := payloadFrame_eq_ok.mp made
      obtain ⟨here, switch⟩ := written same.symm
      cases switch
      rw [Transmitter.switches, found, here]
      rfl
  next writer motorName =>
      obtain ⟨canId, found, same⟩ := payloadFrame_eq_ok.mp made
      obtain ⟨here, switch⟩ := written same.symm
      cases switch
      rw [Transmitter.switches, found, here]
      rfl
  · cases made

end Frames

/-! ## Runs -/

/-- Every frame on a bus comes from one of the calls. -/
def SentBy (calls : List (Transmitter × TransmitCall))
    (actions : List (BusAction String CanFdFrame ReceivedCanFrame)) : Prop :=
  ∀ interface frame, .send interface frame ∈ actions → ∃ entry ∈ calls,
    entry.1.interface = interface ∧ entry.1.frame entry.2 = .ok frame

/-- Whatever objects send on the buses of the drives, and whatever is delayed, lost or answered,
a drive keeps its status as long as no call is to switch it. -/
theorem transmitters_leaveStatus {Drive : Type} (drives : InstalledDrives Drive) (drive : Drive)
    (status : Bool) (calls : List (Transmitter × TransmitCall))
    (actions : List (BusAction String CanFdFrame ReceivedCanFrame))
    (start final : BusState String Drive CanFdFrame ReceivedCanFrame)
    (sent : SentBy calls actions) (run : drives.wire.Run start actions final)
    (settled : drives.wire.Settled status start drive)
    (never : ∀ entry ∈ calls, entry.1.interface = (drives.endpoint drive).interface →
      entry.1.switches entry.2 ≠ some ((drives.endpoint drive).canId, !status)) :
    final.on drive = status := by
  have uncommanded : ∀ action ∈ actions, ¬drives.wire.Commands drive action (!status) := by
    rintro action member ⟨frame, rfl, obeyed⟩
    obtain ⟨entry, called, here, made⟩ := sent _ frame member
    exact never entry called here (transmitter_obeys made obeyed)
  exact (SwitchBus.settled_iff.mp (run.settled uncommanded settled)).1

def hipDrive : InstalledDrives Unit where
  endpoint _ := hipEndpoint
  named _ _ _ := rfl
  distinct _ _ _ := rfl

/-- Nothing is under way, and the drive is off. -/
def restingBus : BusState String Unit CanFdFrame ReceivedCanFrame where
  on _ := false
  commands _ := []
  replies _ := []

/-- The bytes of a poll in the middle of all ranges. -/
def centredPoll : CanData := ![0x7F, 0xFF, 0x7F, 0xF0, 0x00, 0x00, 0x07, 0xFF]

theorem transmitters_leaveStatus_poll :
    ∃ final, hipDrive.wire.Run restingBus
      [.send hipEndpoint.interface (writtenFrame hipEndpoint.canId centredPoll)] final ∧
        final.on () = false := by
  refine ⟨_, .step .refl (.send restingBus _ _), ?_⟩
  refine transmitters_leaveStatus hipDrive () false
    [(.poller hipEndpoint.interface, .zeroGainPoll hipEndpoint.canId centredPoll)] _ restingBus _ ?_
    (.step .refl (.send restingBus _ _)) ?_ ?_
  · intro interface frame member
    cases List.mem_singleton.mp member
    exact ⟨_, List.mem_singleton_self _, rfl, rfl⟩
  · exact SwitchBus.settled_iff.mpr ⟨rfl, fun _ member => nomatch member⟩
  · intro entry member _
    cases List.mem_singleton.mp member
    nofun

end SpriteRuntime
