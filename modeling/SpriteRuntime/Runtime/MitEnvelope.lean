import SpriteRuntime.Runtime.ModeFrames

/-!
# The envelope of a MIT command

Building an envelope checks its limits, and the encoder then checks a command against the
envelope and against the ranges of the motor.
-/

namespace SpriteRuntime

open Foundation

/-- The constructor of `DamiaoMitCommandEnvelope`. -/
def DamiaoMitCommandEnvelope.make (positionRad : ℚ × ℚ)
    (maximumVelocityRadS maximumFeedforwardTorqueNm maximumOutputTorqueNm : ℚ) :
    Except DamiaoError DamiaoMitCommandEnvelope :=
  if positionOrdered : positionRad.1 < positionRad.2 then
    if velocityPositive : 0 < maximumVelocityRadS then
      if feedforwardPositive : 0 < maximumFeedforwardTorqueNm then
        if outputPositive : 0 < maximumOutputTorqueNm then
          .ok
            { positionRad
              maximumVelocityRadS
              maximumFeedforwardTorqueNm
              maximumOutputTorqueNm
              positionOrdered
              velocityPositive
              feedforwardPositive
              outputPositive }
        else .error (.refused "maximum_output_torque_nm must be finite and positive")
      else .error (.refused "maximum_feedforward_torque_nm must be finite and positive")
    else .error (.refused "maximum_velocity_rad_s must be finite and positive")
  else .error (.refused "position_rad must have finite lower < upper")

section Make

variable {positionRad : ℚ × ℚ}
  {maximumVelocityRadS maximumFeedforwardTorqueNm maximumOutputTorqueNm : ℚ}

theorem DamiaoMitCommandEnvelope.make_eq_ok_iff {envelope : DamiaoMitCommandEnvelope} :
    make positionRad maximumVelocityRadS maximumFeedforwardTorqueNm maximumOutputTorqueNm =
        .ok envelope ↔
      envelope.positionRad = positionRad ∧ envelope.maximumVelocityRadS = maximumVelocityRadS ∧
        envelope.maximumFeedforwardTorqueNm = maximumFeedforwardTorqueNm ∧
        envelope.maximumOutputTorqueNm = maximumOutputTorqueNm := by
  unfold make
  constructor
  · intro made
    split_ifs at made
    cases made
    exact ⟨rfl, rfl, rfl, rfl⟩
  · rintro ⟨rfl, rfl, rfl, rfl⟩
    rw [dif_pos envelope.positionOrdered, dif_pos envelope.velocityPositive,
      dif_pos envelope.feedforwardPositive, dif_pos envelope.outputPositive]

end Make

/-- What the encoder checks of a command before it packs the fields. -/
structure EnvelopeAllows (endpoint : DamiaoFeedbackEndpoint) (command : DamiaoMitCommand)
    (measuredState : DamiaoMitState) (envelope : DamiaoMitCommandEnvelope) : Prop where
  positionLow : endpoint.ranges.positionRad.1 ≤ envelope.positionRad.1
  positionHigh : envelope.positionRad.2 ≤ endpoint.ranges.positionRad.2
  velocityWithin : envelope.maximumVelocityRadS ≤ maximumAbs endpoint.ranges.velocityRadS
  feedforwardWithin : envelope.maximumFeedforwardTorqueNm ≤ maximumAbs endpoint.ranges.torqueNm
  outputWithin : envelope.maximumOutputTorqueNm ≤ maximumAbs endpoint.ranges.torqueNm
  position : envelope.positionRad.1 ≤ command.positionRad ∧
    command.positionRad ≤ envelope.positionRad.2
  velocity : |command.velocityRadS| ≤ envelope.maximumVelocityRadS
  feedforward : |command.feedforwardTorqueNm| ≤ envelope.maximumFeedforwardTorqueNm
  output : |estimatedOutputTorqueNm command measuredState| ≤ envelope.maximumOutputTorqueNm

/-- The encoder accepts what the envelope allows and the ranges hold. -/
theorem encodeDamiaoMitCommand_eq_ok_iff {endpoint : DamiaoFeedbackEndpoint}
    {command : DamiaoMitCommand} {measuredState : DamiaoMitState}
    {envelope : DamiaoMitCommandEnvelope} {encoded : EncodedDamiaoMitCommand} :
    encodeDamiaoMitCommand endpoint command measuredState envelope = .ok encoded ↔
      EnvelopeAllows endpoint command measuredState envelope ∧
        FieldsInside endpoint.ranges.toMitRanges command ∧
        encoded = ⟨endpoint.motorName, endpoint.interface, endpoint.canId,
          mitBytes (commandFields endpoint.ranges.toMitRanges command)⟩ := by
  simp only [encodeDamiaoMitCommand, except_bind_eq_ok, raiseIf_eq_ok, floatToUintStrict_eq_ok,
    not_or, not_lt]
  constructor
  · rintro ⟨_, ⟨low, high⟩, _, velocityWithin, _, feedforwardWithin, _, outputWithin, _,
      ⟨inEnvelope, _⟩, _, velocity, _, feedforward, _, output, _, ⟨p, rfl⟩, _, ⟨v, rfl⟩, _,
      ⟨kp, rfl⟩, _, ⟨kd, rfl⟩, _, ⟨torque, rfl⟩, made⟩
    exact ⟨⟨low, high, velocityWithin, feedforwardWithin, outputWithin, inEnvelope, velocity,
      feedforward, output⟩, ⟨p, v, kp, kd, torque⟩, (Except.ok.inj made).symm⟩
  · rintro ⟨allows, inside, rfl⟩
    exact ⟨(), ⟨allows.positionLow, allows.positionHigh⟩, (), allows.velocityWithin, (),
      allows.feedforwardWithin, (), allows.outputWithin, _, ⟨allows.position, rfl⟩, (),
      allows.velocity, (), allows.feedforward, (), allows.output, _, ⟨inside.position, rfl⟩, _,
      ⟨inside.velocity, rfl⟩, _, ⟨inside.kp, rfl⟩, _, ⟨inside.kd, rfl⟩, _,
      ⟨inside.torque, rfl⟩, rfl⟩

/-- `min(abs(value) for value in limits)`. -/
def minimumAbs (limits : ℚ × ℚ) : ℚ := min |limits.1| |limits.2|

theorem minimumAbs_le_maximumAbs (limits : ℚ × ℚ) : minimumAbs limits ≤ maximumAbs limits :=
  min_le_max

end SpriteRuntime
