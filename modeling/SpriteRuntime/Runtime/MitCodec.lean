import SpriteRuntime.Runtime.ModeFrames

/-!
# The MIT command codec

The encoder of a command stands in Python and in C++, and the merge of the traces has the
decoder.  Each field is read back as the lower edge of its own step, whatever the other
fields hold, and the two encoders write the same bytes.
-/

namespace SpriteRuntime

open Foundation

/-- A value and what is read back for it: the lower edge of its step, and the upper limit
itself. -/
structure ReadBack (low high : ℚ) (bits : ℕ) (value decoded : ℚ) : Prop where
  below : decoded ≤ value
  within : value < decoded + (high - low) / (2 ^ bits - 1)
  upper : value = high → decoded = value

theorem readBack_quantize {low high value : ℚ} {bits : ℕ} (some : 0 < bits)
    (ordered : low < high) (lower : low ≤ value) :
    ReadBack low high bits value
      (decodeUint (quantize low high (2 ^ bits - 1) value) low high bits) := by
  have levels : 0 < 2 ^ bits - 1 := by
    have two : 2 ^ 1 ≤ 2 ^ bits := Nat.pow_le_pow_right (by decide) some
    omega
  have count : ((2 ^ bits - 1 : ℕ) : ℚ) = 2 ^ bits - 1 := by
    rw [Nat.cast_sub Nat.one_le_two_pow]
    norm_num
  constructor
  case below => exact dequantize_quantize_le levels ordered lower
  case within =>
    have above := lt_dequantize_quantize_add_step value levels ordered
    rw [count] at above
    exact above
  case upper =>
    rintro rfl
    exact dequantize_quantize_high levels ordered

/-- Every field of a command and what the merge reads back for it. -/
structure CommandReadBack (ranges : MitRanges) (command : DamiaoMitCommand)
    (decoded : CommandValues) : Prop where
  position : ReadBack ranges.positionRad.1 ranges.positionRad.2 16 command.positionRad
    decoded.positionRad
  velocity : ReadBack ranges.velocityRadS.1 ranges.velocityRadS.2 12 command.velocityRadS
    decoded.velocityRadS
  kp : ReadBack 0 500 12 command.kp decoded.kp
  kd : ReadBack 0 5 12 command.kd decoded.kd
  torque : ReadBack ranges.torqueNm.1 ranges.torqueNm.2 12 command.feedforwardTorqueNm
    decoded.feedforwardTorqueNm

/-- A motor file row with the ranges that the hardware file has. -/
structure HasRanges (descriptor : MotorDescriptor) (ranges : MitRanges) : Prop where
  position : (descriptor.positionMin, descriptor.positionMax) = ranges.positionRad
  velocity : (descriptor.velocityMin, descriptor.velocityMax) = ranges.velocityRadS
  torque : (descriptor.torqueMin, descriptor.torqueMax) = ranges.torqueNm

/-- The values of a command under the names of the controller. -/
def DamiaoMitCommand.native (command : DamiaoMitCommand) : MitCommand :=
  { position := command.positionRad
    velocity := command.velocityRadS
    kp := command.kp
    kd := command.kd
    feedforwardTorque := command.feedforwardTorqueNm }

section Fields

variable {ranges : MitRanges} {command : DamiaoMitCommand}

/-- The merge reads the fields of the frame where the drive reads them. -/
theorem decodeCommandRow_eq {row : CanRow} {data : CanData}
    (payload : row.payload = framePayload data) :
    decodeCommandRow ranges row =
      { positionRad := decodeUint (MitFields.unpack data).position ranges.positionRad.1
          ranges.positionRad.2 16
        velocityRadS := decodeUint (MitFields.unpack data).velocity ranges.velocityRadS.1
          ranges.velocityRadS.2 12
        kp := decodeUint (MitFields.unpack data).kp 0 500 12
        kd := decodeUint (MitFields.unpack data).kd 0 5 12
        feedforwardTorqueNm := decodeUint (MitFields.unpack data).torque ranges.torqueNm.1
          ranges.torqueNm.2 12 } := by
  have byte := byte_framePayload payload
  have byte0 : row.byte 0 = (data 0).toNat := byte 0
  have byte1 : row.byte 1 = (data 1).toNat := byte 1
  have byte2 : row.byte 2 = (data 2).toNat := byte 2
  have byte3 : row.byte 3 = (data 3).toNat := byte 3
  have byte4 : row.byte 4 = (data 4).toNat := byte 4
  have byte5 : row.byte 5 = (data 5).toNat := byte 5
  have byte6 : row.byte 6 = (data 6).toNat := byte 6
  have byte7 : row.byte 7 = (data 7).toNat := byte 7
  simp only [decodeCommandRow, MitFields.unpack, byte0, byte1, byte2, byte3, byte4, byte5,
    byte6, byte7]

theorem encodePreview_native {descriptor : MotorDescriptor} (has : HasRanges descriptor ranges)
    (inside : FieldsInside ranges command) :
    encodePreview descriptor command.native = .ok (commandFields ranges command) := by
  obtain ⟨position, velocity, torque⟩ := has
  rcases ranges with ⟨⟨pMin, pMax⟩, ⟨vMin, vMax⟩, ⟨tMin, tMax⟩⟩
  obtain ⟨rfl, rfl⟩ := Prod.mk.inj position
  obtain ⟨rfl, rfl⟩ := Prod.mk.inj velocity
  obtain ⟨rfl, rfl⟩ := Prod.mk.inj torque
  obtain ⟨positionInside, velocityInside, kpInside, kdInside, torqueInside⟩ := inside
  simp only [encodePreview, except_bind_eq_ok, encodeUint_eq_ok]
  exact ⟨_, ⟨positionInside, rfl⟩, _, ⟨velocityInside, rfl⟩, _, ⟨kpInside, rfl⟩, _,
    ⟨kdInside, rfl⟩, _, ⟨torqueInside, rfl⟩, rfl⟩

theorem commandReadBack_decode {ranges : DamiaoMitRanges}
    (inside : FieldsInside ranges.toMitRanges command) {row : CanRow}
    (payload : row.payload = framePayload (commandFields ranges.toMitRanges command).pack) :
    CommandReadBack ranges.toMitRanges command (decodeCommandRow ranges.toMitRanges row) := by
  rw [decodeCommandRow_eq payload, MitFields.unpack_pack (commandFields_inRange inside)]
  constructor
  · exact readBack_quantize (by decide) ranges.positionOrdered inside.position.1
  · exact readBack_quantize (by decide) ranges.velocityOrdered inside.velocity.1
  · exact readBack_quantize (by decide) (by norm_num) inside.kp.1
  · exact readBack_quantize (by decide) (by norm_num) inside.kd.1
  · exact readBack_quantize (by decide) ranges.torqueOrdered inside.torque.1

end Fields

/-- **The codec.**  The bytes of an encoded command hold five fields, each the step number
of its own value alone.  The merge reads each back as the lower edge of its step, and the
controller writes the same bytes for the same ranges and values. -/
theorem encodeDamiaoMitCommand_faithful (endpoint : DamiaoFeedbackEndpoint)
    (command : DamiaoMitCommand) (measuredState : DamiaoMitState)
    (envelope : DamiaoMitCommandEnvelope) (encoded : EncodedDamiaoMitCommand)
    (ok : encodeDamiaoMitCommand endpoint command measuredState envelope = .ok encoded) :
    MitFields.unpack encoded.data = commandFields endpoint.ranges.toMitRanges command ∧
      (∀ row : CanRow, row.payload = framePayload encoded.data →
        CommandReadBack endpoint.ranges.toMitRanges command
          (decodeCommandRow endpoint.ranges.toMitRanges row)) ∧
      ∀ descriptor : MotorDescriptor, HasRanges descriptor endpoint.ranges.toMitRanges →
        (encodePreview descriptor command.native).map MitFields.pack = .ok encoded.data := by
  obtain ⟨inside, data⟩ := encodeDamiaoMitCommand_fields ok
  have inRange := commandFields_inRange inside
  rw [mitBytes_eq_pack inRange] at data
  refine ⟨?_, ?_, ?_⟩
  · rw [data]
    exact MitFields.unpack_pack inRange
  · intro row payload
    rw [data] at payload
    exact commandReadBack_decode inside payload
  · intro descriptor has
    rw [encodePreview_native has inside, data]
    rfl

/-- A command to a motor that stands where the command sends it. -/
def hipStep : DamiaoMitCommand := ⟨1, -1, 20, 1, 1 / 2⟩

theorem encodeDamiaoMitCommand_faithful_hip :
    ∃ encoded, encodeDamiaoMitCommand hipEndpoint hipStep ⟨1, -1⟩ hipEnvelope = .ok encoded ∧
      MitFields.unpack encoded.data = commandFields hipRanges.toMitRanges hipStep := by
  have ok : encodeDamiaoMitCommand hipEndpoint hipStep ⟨1, -1⟩ hipEnvelope =
      .ok ⟨"hip", "kcan1", 1, ![0x8A, 0xAA, 0x7B, 0xB0, 0xA3, 0x33, 0x38, 0x65]⟩ := by
    decide +kernel
  exact ⟨_, ok, (encodeDamiaoMitCommand_faithful _ _ _ _ _ ok).1⟩

end SpriteRuntime
