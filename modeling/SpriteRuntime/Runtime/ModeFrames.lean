import Mathlib.Tactic.FinCases
import Mathlib.Tactic.IntervalCases
import SpriteRuntime.Runtime.Damiao

/-!
# MIT commands that are mode commands

The frames that enable a motor, disable it or set its zero lie in the space of the MIT
commands: they are those whose fields stand at the upper ends of their ranges and whose torque
is one of the last steps.  The encoder has no check against them.
-/

namespace SpriteRuntime

open Foundation

theorem mitBytes_eq_pack {fields : MitFields} (inRange : fields.InRange) :
    mitBytes fields = fields.pack := by
  obtain ⟨_, _, kpBound, _, torqueBound⟩ := inRange
  have byte (value : ℕ) : UInt8.ofNat (value &&& 0xFF) = UInt8.ofNat value := by
    apply UInt8.toNat.inj
    rw [UInt8.toNat_ofNat', UInt8.toNat_ofNat', Nat.and_two_pow_sub_one_eq_mod value 8,
      Nat.mod_mod]
  have nibble {value : ℕ} (bounded : value ≤ 2 ^ 12 - 1) :
      value >>> 8 &&& 0xF = value >>> 8 := by
    rw [Nat.and_two_pow_sub_one_eq_mod _ 4, Nat.shiftRight_eq_div_pow]
    omega
  simp only [mitBytes, MitFields.pack, byte, nibble kpBound, nibble torqueBound]

/-- The fields of the frame with the given opcode. -/
def modeFields (opcode : UInt8) : MitFields :=
  ⟨0xFFFF, 0xFFF, 0xFFF, 0xFFF, 0xF00 + opcode.toNat⟩

theorem pack_modeFields (opcode : UInt8) : (modeFields opcode).pack = modePayload opcode := by
  have bounded : opcode.toNat < 256 := opcode.toNat_lt
  have high : (0xF00 + opcode.toNat) >>> 8 = 0xF := by
    rw [Nat.shiftRight_eq_div_pow]
    omega
  have low : UInt8.ofNat (0xF00 + opcode.toNat) = opcode := by
    apply UInt8.toNat.inj
    rw [UInt8.toNat_ofNat']
    omega
  simp [MitFields.pack, modeFields, modePayload, high, low]

theorem unpack_modePayload (opcode : UInt8) :
    MitFields.unpack (modePayload opcode) = modeFields opcode := by
  have bounded : opcode.toNat < 256 := opcode.toNat_lt
  have inRange : (modeFields opcode).InRange := by
    constructor <;> simp only [modeFields] <;> omega
  rw [← pack_modeFields, MitFields.unpack_pack inRange]

theorem mitBytes_eq_modePayload_iff {fields : MitFields} (inRange : fields.InRange)
    {opcode : UInt8} : mitBytes fields = modePayload opcode ↔ fields = modeFields opcode := by
  rw [mitBytes_eq_pack inRange]
  constructor
  · intro same
    rw [← MitFields.unpack_pack inRange, same, unpack_modePayload]
  · intro same
    rw [same, pack_modeFields]

/-! ## The special frame filter -/

theorem byte_framePayload {row : CanRow} {data : CanData} (payload : row.payload = framePayload data)
    (column : Fin 8) : row.byte column = (data column).toNat := by
  have inside : (column : ℕ) < (List.ofFn data).length := by simp
  rw [CanRow.byte, payload, framePayload, List.getD_eq_getElem?_getD,
    List.getElem?_append_left inside, List.getElem?_eq_getElem inside, List.getElem_ofFn]
  rfl

theorem specialFrame_framePayload {row : CanRow} {data : CanData}
    (payload : row.payload = framePayload data) :
    specialFrame row.byte = true ↔ ∃ opcode, 0xFC ≤ opcode ∧ data = modePayload opcode := by
  have byte := byte_framePayload payload
  constructor
  · intro special
    simp only [specialFrame, Bool.and_eq_true, List.all_eq_true, List.mem_range,
      decide_eq_true_eq] at special
    refine ⟨data 7, ?_, ?_⟩
    · rw [UInt8.le_iff_toNat_le, ← byte 7]
      exact special.2
    · have full (column : Fin 8) (inside : (column : ℕ) < 7) : data column = 0xFF :=
        UInt8.toNat.inj ((byte column).symm.trans (special.1 column inside))
      funext column
      fin_cases column
      all_goals first | exact full _ (by decide) | rfl
  · rintro ⟨opcode, high, rfl⟩
    simp only [specialFrame, Bool.and_eq_true, List.all_eq_true, List.mem_range,
      decide_eq_true_eq]
    constructor
    · intro column inside
      rw [byte ⟨column, by omega⟩]
      interval_cases column <;> rfl
    · have last : row.byte 7 = opcode.toNat := byte 7
      rw [last]
      exact UInt8.le_iff_toNat_le.mp high

/-! ## The encoder -/

/-- The bytes are those of a frame that enables, disables or sets the zero. -/
def ModeCommand (data : CanData) : Prop :=
  data = enablePayload ∨ data = disablePayload ∨ data = setZeroPayload

instance (data : CanData) : Decidable (ModeCommand data) := by
  unfold ModeCommand
  infer_instance

/-- What the encoder has checked of the fields that it packs. -/
structure FieldsInside (ranges : MitRanges) (command : DamiaoMitCommand) : Prop where
  position : ranges.positionRad.1 ≤ command.positionRad ∧
    command.positionRad ≤ ranges.positionRad.2
  velocity : ranges.velocityRadS.1 ≤ command.velocityRadS ∧
    command.velocityRadS ≤ ranges.velocityRadS.2
  kp : 0 ≤ command.kp ∧ command.kp ≤ 500
  kd : 0 ≤ command.kd ∧ command.kd ≤ 5
  torque : ranges.torqueNm.1 ≤ command.feedforwardTorqueNm ∧
    command.feedforwardTorqueNm ≤ ranges.torqueNm.2

/-- The five fields of a command. -/
def commandFields (ranges : MitRanges) (command : DamiaoMitCommand) : MitFields :=
  { position := quantize ranges.positionRad.1 ranges.positionRad.2 (2 ^ 16 - 1)
      command.positionRad
    velocity := quantize ranges.velocityRadS.1 ranges.velocityRadS.2 (2 ^ 12 - 1)
      command.velocityRadS
    kp := quantize 0 500 (2 ^ 12 - 1) command.kp
    kd := quantize 0 5 (2 ^ 12 - 1) command.kd
    torque := quantize ranges.torqueNm.1 ranges.torqueNm.2 (2 ^ 12 - 1)
      command.feedforwardTorqueNm }

/-- The four fields before the torque stand at the upper ends of their ranges. -/
structure AtUpperEnd (ranges : MitRanges) (command : DamiaoMitCommand) : Prop where
  position : command.positionRad = ranges.positionRad.2
  velocity : command.velocityRadS = ranges.velocityRadS.2
  kp : command.kp = 500
  kd : command.kd = 5

/-- The torque of the step `FFC`, from which on the last byte is an opcode. -/
def modeTorqueNm (ranges : MitRanges) : ℚ :=
  decodeUint 0xFFC ranges.torqueNm.1 ranges.torqueNm.2 12

section Command

variable {endpoint : DamiaoFeedbackEndpoint} {command : DamiaoMitCommand}
  {measuredState : DamiaoMitState} {envelope : DamiaoMitCommandEnvelope}
  {encoded : EncodedDamiaoMitCommand}

theorem encodeDamiaoMitCommand_fields
    (ok : encodeDamiaoMitCommand endpoint command measuredState envelope = .ok encoded) :
    FieldsInside endpoint.ranges.toMitRanges command ∧
      encoded.data = mitBytes (commandFields endpoint.ranges.toMitRanges command) := by
  simp only [encodeDamiaoMitCommand, except_bind_eq_ok, raiseIf_eq_ok,
    floatToUintStrict_eq_ok] at ok
  obtain ⟨_, _, _, _, _, _, _, _, _, _, _, _, _, _, _, _, p, ⟨position, rfl⟩, v,
    ⟨velocity, rfl⟩, kp, ⟨kpInside, rfl⟩, kd, ⟨kdInside, rfl⟩, torque, ⟨torqueInside, rfl⟩,
    made⟩ := ok
  obtain rfl := Except.ok.inj made
  exact ⟨⟨position, velocity, kpInside, kdInside, torqueInside⟩, rfl⟩

theorem commandFields_inRange {ranges : DamiaoMitRanges}
    (inside : FieldsInside ranges.toMitRanges command) :
    (commandFields ranges.toMitRanges command).InRange := by
  constructor
  · exact quantize_le ranges.positionOrdered inside.position.2
  · exact quantize_le ranges.velocityOrdered inside.velocity.2
  · exact quantize_le (by norm_num) inside.kp.2
  · exact quantize_le (by norm_num) inside.kd.2
  · exact quantize_le ranges.torqueOrdered inside.torque.2

/-- The fields before the torque have all their bits set only at the upper ends. -/
theorem commandFields_eq_iff {ranges : DamiaoMitRanges}
    (inside : FieldsInside ranges.toMitRanges command) {torque : ℕ} :
    commandFields ranges.toMitRanges command = ⟨0xFFFF, 0xFFF, 0xFFF, 0xFFF, torque⟩ ↔
      AtUpperEnd ranges.toMitRanges command ∧
        (commandFields ranges.toMitRanges command).torque = torque := by
  have position : (commandFields ranges.toMitRanges command).position = 0xFFFF ↔ _ :=
    quantize_eq_levels_iff (by norm_num) ranges.positionOrdered inside.position
  have velocity : (commandFields ranges.toMitRanges command).velocity = 0xFFF ↔ _ :=
    quantize_eq_levels_iff (by norm_num) ranges.velocityOrdered inside.velocity
  have kp : (commandFields ranges.toMitRanges command).kp = 0xFFF ↔ _ :=
    quantize_eq_levels_iff (by norm_num) (by norm_num) inside.kp
  have kd : (commandFields ranges.toMitRanges command).kd = 0xFFF ↔ _ :=
    quantize_eq_levels_iff (by norm_num) (by norm_num) inside.kd
  constructor
  · intro same
    rw [same] at position velocity kp kd
    refine ⟨⟨position.mp rfl, velocity.mp rfl, kp.mp rfl, kd.mp rfl⟩, ?_⟩
    rw [same]
  · rintro ⟨upper, last⟩
    rcases fields : commandFields ranges.toMitRanges command with ⟨p, v, gain, damping, t⟩
    rw [fields] at position velocity kp kd last
    obtain rfl : p = 0xFFFF := position.mpr upper.position
    obtain rfl : v = 0xFFF := velocity.mpr upper.velocity
    obtain rfl : gain = 0xFFF := kp.mpr upper.kp
    obtain rfl : damping = 0xFFF := kd.mpr upper.kd
    obtain rfl : t = torque := last
    rfl

/-- The torque reaches the opcodes from `modeTorqueNm` on, and passes them at the upper end. -/
theorem torque_opcode {ranges : DamiaoMitRanges}
    (inside : FieldsInside ranges.toMitRanges command) :
    (0xFFC ≤ (commandFields ranges.toMitRanges command).torque ↔
        modeTorqueNm ranges.toMitRanges ≤ command.feedforwardTorqueNm) ∧
      ((commandFields ranges.toMitRanges command).torque < 0xFFF ↔
        command.feedforwardTorqueNm < ranges.torqueNm.2) := by
  have last : (commandFields ranges.toMitRanges command).torque = 0xFFF ↔ _ :=
    quantize_eq_levels_iff (by norm_num) ranges.torqueOrdered inside.torque
  have bounded : (commandFields ranges.toMitRanges command).torque ≤ 0xFFF :=
    (commandFields_inRange inside).torque
  constructor
  · exact le_quantize_iff (by norm_num) ranges.torqueOrdered inside.torque.1
  · rw [bounded.lt_iff_ne, inside.torque.2.lt_iff_ne]
    exact not_congr last

/-- The bytes of a command are a frame with an opcode exactly at the upper ends. -/
theorem data_eq_modePayload_iff
    (ok : encodeDamiaoMitCommand endpoint command measuredState envelope = .ok encoded)
    {opcode : UInt8} : encoded.data = modePayload opcode ↔
      AtUpperEnd endpoint.ranges.toMitRanges command ∧
        (commandFields endpoint.ranges.toMitRanges command).torque = 0xF00 + opcode.toNat := by
  obtain ⟨inside, data⟩ := encodeDamiaoMitCommand_fields ok
  rw [data, mitBytes_eq_modePayload_iff (commandFields_inRange inside)]
  exact commandFields_eq_iff inside

/-- A command within the Kd limit of the project is no mode command. -/
theorem not_modeCommand_of_kd_lt
    (ok : encodeDamiaoMitCommand endpoint command measuredState envelope = .ok encoded)
    (limited : command.kd < 5) (opcode : UInt8) : encoded.data ≠ modePayload opcode := by
  intro same
  exact limited.ne ((data_eq_modePayload_iff ok).mp same).1.kd

end Command

/-! ## A command that enables the motor -/

section Enabling

def hipRanges : DamiaoMitRanges where
  positionRad := (-12, 12)
  velocityRadS := (-30, 30)
  torqueNm := (-10, 10)
  source := .motorRegisterReadback
  positionOrdered := by norm_num
  velocityOrdered := by norm_num
  torqueOrdered := by norm_num

def hipEndpoint : DamiaoFeedbackEndpoint where
  motorName := "hip"
  interface := "kcan1"
  canId := 1
  masterId := 17
  ranges := hipRanges
  named := by decide
  canIdRange := by decide
  masterIdRange := by decide

def hipEnvelope : DamiaoMitCommandEnvelope where
  positionRad := (-12, 12)
  maximumVelocityRadS := 30
  maximumFeedforwardTorqueNm := 10
  maximumOutputTorqueNm := 10
  positionOrdered := by norm_num
  velocityPositive := by norm_num
  feedforwardPositive := by norm_num
  outputPositive := by norm_num

def hipWriter : SocketCanSingleMotorMitWriter where
  interface := "kcan1"
  motorName := "hip"
  canId := 1
  named := by decide
  canIdRange := by decide

/-- The motor stands where the command sends it. -/
def hipCommand : DamiaoMitCommand := ⟨12, 30, 500, 5, 999 / 100⟩

def hipState : DamiaoMitState := ⟨12, 30⟩

def hipRest : DamiaoMitCommand := ⟨0, 0, 0, 0, 0⟩

end Enabling

end SpriteRuntime
