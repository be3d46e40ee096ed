import SpriteRuntime.Runtime.MitCodec

/-!
# The torque guard and truncation

`hold_payload` and `encode_damiao_mit_command` hold their torque guard against the command as
it is given, and then cut every field down to the lower edge of its step.  The torque that the
frame asks for differs from the guarded one by what is cut off.
-/

namespace SpriteRuntime

open Foundation

def MotorDescriptor.mitRanges (descriptor : MotorDescriptor) : MitRanges :=
  { positionRad := (descriptor.positionMin, descriptor.positionMax)
    velocityRadS := (descriptor.velocityMin, descriptor.velocityMax)
    torqueNm := (descriptor.torqueMin, descriptor.torqueMax) }

/-- The command that the fields stand for in the given ranges. -/
def MitFields.decodeIn (ranges : MitRanges) (fields : MitFields) : MitCommand :=
  { position := decodeUint fields.position ranges.positionRad.1 ranges.positionRad.2 16
    velocity := decodeUint fields.velocity ranges.velocityRadS.1 ranges.velocityRadS.2 12
    kp := decodeUint fields.kp 0 500 12
    kd := decodeUint fields.kd 0 5 12
    feedforwardTorque := decodeUint fields.torque ranges.torqueNm.1 ranges.torqueNm.2 12 }

/-- What the encoding cuts off each field. -/
def cutOff (ranges : MitRanges) (command : MitCommand) : MitCommand :=
  { position := stepRemainder ranges.positionRad.1 ranges.positionRad.2 (2 ^ 16 - 1)
      command.position
    velocity := stepRemainder ranges.velocityRadS.1 ranges.velocityRadS.2 (2 ^ 12 - 1)
      command.velocity
    kp := stepRemainder 0 500 (2 ^ 12 - 1) command.kp
    kd := stepRemainder 0 5 (2 ^ 12 - 1) command.kd
    feedforwardTorque := stepRemainder ranges.torqueNm.1 ranges.torqueNm.2 (2 ^ 12 - 1)
      command.feedforwardTorque }

/-- The torque that is lost with what is cut off. -/
def lostTorque (ranges : MitRanges) (command : MitCommand) (position velocity : ℚ) : ℚ :=
  let cut := cutOff ranges command
  command.kp * cut.position + cut.kp * (command.position - position - cut.position) +
    (command.kd * cut.velocity + cut.kd * (command.velocity - velocity - cut.velocity)) +
    cut.feedforwardTorque

/-- The guarded torque is at least as far from the guard as what is lost. -/
def LeavesRoom (ranges : MitRanges) (command : MitCommand) (position velocity maximum : ℚ) :
    Prop :=
  command.torqueAt position velocity - maximum ≤ lostTorque ranges command position velocity ∧
    lostTorque ranges command position velocity ≤ command.torqueAt position velocity + maximum

/-- Ranges whose lower end is below the upper one. -/
structure MitRanges.Ordered (ranges : MitRanges) : Prop where
  position : ranges.positionRad.1 < ranges.positionRad.2
  velocity : ranges.velocityRadS.1 < ranges.velocityRadS.2
  torque : ranges.torqueNm.1 < ranges.torqueNm.2

theorem DamiaoMitRanges.ordered (ranges : DamiaoMitRanges) : ranges.toMitRanges.Ordered :=
  ⟨ranges.positionOrdered, ranges.velocityOrdered, ranges.torqueOrdered⟩

instance (ranges : MitRanges) (command : MitCommand) (position velocity maximum : ℚ) :
    Decidable (LeavesRoom ranges command position velocity maximum) := by
  unfold LeavesRoom
  infer_instance

section Fields

variable {ranges : MitRanges} {command : DamiaoMitCommand}

theorem MitRanges.Ordered.inRange (ordered : ranges.Ordered)
    (inside : FieldsInside ranges command) : (commandFields ranges command).InRange := by
  let confirmed : DamiaoMitRanges :=
    { ranges with
      source := .operatorConfirmedDriveConfiguration
      positionOrdered := ordered.position
      velocityOrdered := ordered.velocity
      torqueOrdered := ordered.torque }
  have sameInside : FieldsInside confirmed.toMitRanges command := inside
  exact commandFields_inRange sameInside

theorem commandFields_decodeIn (ordered : ranges.Ordered) (position velocity : ℚ) :
    ((commandFields ranges command).decodeIn ranges).torqueAt position velocity =
      command.native.torqueAt position velocity -
        lostTorque ranges command.native position velocity := by
  have cut {low high : ℚ} {bits : ℕ} (some : 0 < 2 ^ bits - 1) (below : low < high)
      (value : ℚ) : decodeUint (quantize low high (2 ^ bits - 1) value) low high bits =
        value - stepRemainder low high (2 ^ bits - 1) value :=
    dequantize_quantize_eq value some below
  simp only [MitFields.decodeIn, commandFields, MitCommand.torqueAt, DamiaoMitCommand.native,
    cut (by norm_num : 0 < 2 ^ 16 - 1) ordered.position,
    cut (by norm_num : 0 < 2 ^ 12 - 1) ordered.velocity,
    cut (by norm_num : 0 < 2 ^ 12 - 1) ordered.torque,
    cut (by norm_num : 0 < 2 ^ 12 - 1) (by norm_num : (0 : ℚ) < 500),
    cut (by norm_num : 0 < 2 ^ 12 - 1) (by norm_num : (0 : ℚ) < 5), lostTorque, cutOff]
  ring

/-- The torque of the frame is within the guard exactly if there is room for what is lost. -/
theorem commandFields_within_iff (ordered : ranges.Ordered) {position velocity maximum : ℚ} :
    |((commandFields ranges command).decodeIn ranges).torqueAt position velocity| ≤ maximum ↔
      LeavesRoom ranges command.native position velocity maximum := by
  rw [commandFields_decodeIn ordered, abs_le, LeavesRoom]
  constructor
  · rintro ⟨lower, upper⟩
    constructor <;> linarith
  · rintro ⟨lower, upper⟩
    constructor <;> linarith

end Fields

section Hold

variable {descriptor : MotorDescriptor} {position kp kd feedforward maximum : ℚ}
  {motor final : MotorState} {data : CanData}

/-- The frame of a hold command that was accepted. -/
theorem holdPayload_fields
    (returned : holdPayload descriptor position kp kd feedforward maximum motor =
      (.done data, final)) :
    FieldsInside descriptor.mitRanges ⟨position, 0, kp, kd, feedforward⟩ ∧
      data = (commandFields descriptor.mitRanges ⟨position, 0, kp, kd, feedforward⟩).pack := by
  simp only [holdPayload, Program.bind_eq_done_iff, Program.throwIf_eq_done_iff,
    Program.get_eq_done_iff, Program.modify_eq_done_iff, Program.ofExcept_eq_done_iff,
    Program.pure_eq_done_iff, encodeUint_eq_ok] at returned
  obtain ⟨_, _, _, _, _, _, _, _, _, _, _, _, p, _, ⟨⟨positionInside, rfl⟩, _⟩, v, _,
    ⟨⟨velocityInside, rfl⟩, _⟩, kpRaw, _, ⟨⟨kpInside, rfl⟩, _⟩, kdRaw, _,
    ⟨⟨kdInside, rfl⟩, _⟩, torque, _, ⟨⟨torqueInside, rfl⟩, _⟩, same, _⟩ := returned
  exact ⟨⟨positionInside, velocityInside, kpInside, kdInside, torqueInside⟩, same⟩

end Hold

section AtTheGuard

open MotorDescriptor (testMotor)

/-- An envelope with a small output torque. -/
def gentleEnvelope : DamiaoMitCommandEnvelope :=
  { hipEnvelope with
    maximumOutputTorqueNm := 1
    outputPositive := by norm_num }

end AtTheGuard

end SpriteRuntime
