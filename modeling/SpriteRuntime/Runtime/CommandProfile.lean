import SpriteRuntime.Foundation.Polyline
import SpriteRuntime.Runtime.MitEnvelope

/-!
# Command profiles

A profile turns the torque-speed curve of a motor into an envelope for each measured state,
and lets the encoder see a command only under that envelope.  All numbers are finite.
-/

namespace SpriteRuntime

open Foundation

/-! ## The torque-speed curve -/

structure MotorTelemetryLimits where
  hardPositionRad : ℚ × ℚ
  maximumSpeedRadS : ℚ
  peakTorqueNm : ℚ
  peakCurrentA : ℚ
  maximumTemperatureC : ℚ
  torqueSpeedEnvelope : List (ℚ × ℚ)

namespace MotorTelemetryLimits

variable (limits : MotorTelemetryLimits)

/-- The last point of the curve, and the first. -/
def lastPoint : ℚ × ℚ := limits.torqueSpeedEnvelope.getLastD (0, 0)

def firstPoint : ℚ × ℚ := limits.torqueSpeedEnvelope.headD (0, 0)

def validate : Except DamiaoError Unit := do
  raiseIf (limits.hardPositionRad.2 ≤ limits.hardPositionRad.1)
    (.refused "motor telemetry limits must be finite with lower < upper")
  raiseIf (limits.maximumSpeedRadS ≤ 0 ∨ limits.peakTorqueNm ≤ 0 ∨ limits.peakCurrentA ≤ 0 ∨
      limits.maximumTemperatureC ≤ 0)
    (.refused "speed, torque, current, and temperature limits must be positive")
  raiseIf (limits.torqueSpeedEnvelope.length < 2)
    (.refused "torque-speed envelope requires at least two [speed, torque] points")
  raiseIf (∃ point ∈ limits.torqueSpeedEnvelope, point.1 < 0 ∨ point.2 < 0)
    (.refused "torque-speed envelope points must be finite and non-negative")
  raiseIf (¬limits.torqueSpeedEnvelope.IsChain fun left right => left.1 < right.1)
    (.refused "torque-speed envelope speeds must be strictly increasing")
  raiseIf (¬limits.torqueSpeedEnvelope.IsChain fun left right => right.2 ≤ left.2)
    (.refused "torque-speed envelope torque must be non-increasing")
  raiseIf (limits.maximumSpeedRadS < limits.lastPoint.1)
    (.refused "torque-speed envelope exceeds maximum speed")
  raiseIf (limits.peakTorqueNm < limits.firstPoint.2)
    (.refused "torque-speed envelope exceeds peak torque")

/-- `torque_limit_at_speed`. -/
def torqueLimitAtSpeed (speedRadS : ℚ) : Except DamiaoError ℚ := do
  limits.validate
  if limits.lastPoint.1 < |speedRadS| then return 0
  else return interpolate |speedRadS| limits.torqueSpeedEnvelope

variable {limits}

theorem falling_of_validate (valid : limits.validate = .ok ()) :
    Falling limits.torqueSpeedEnvelope := by
  simp only [validate, except_bind_eq_ok, raiseIf_eq_ok, not_not] at valid
  obtain ⟨_, _, _, _, _, _, _, _, _, right, _, down, _⟩ := valid
  apply List.isChain_iff_getElem.mpr
  intro index inside
  exact ⟨List.isChain_iff_getElem.mp right index inside,
    List.isChain_iff_getElem.mp down index inside⟩

/-- The curve starts at or below the peak torque and does not go below zero. -/
theorem curve_of_validate (valid : limits.validate = .ok ()) :
    ∃ first rest, limits.torqueSpeedEnvelope = first :: rest ∧ first.2 ≤ limits.peakTorqueNm ∧
      ∀ point ∈ limits.torqueSpeedEnvelope, 0 ≤ point.2 := by
  simp only [validate, except_bind_eq_ok, raiseIf_eq_ok, not_not, not_lt, not_exists,
    not_and, not_or] at valid
  obtain ⟨_, _, _, _, _, length, _, nonneg, _, _, _, _, _, _, peak⟩ := valid
  cases points : limits.torqueSpeedEnvelope with
  | nil =>
      rw [points] at length
      exact absurd length (by decide)
  | cons first rest =>
      rw [firstPoint, points] at peak
      rw [points] at nonneg
      exact ⟨first, rest, rfl, peak, fun point member => (nonneg point member).2⟩

theorem torqueLimitAtSpeed_eq (valid : limits.validate = .ok ()) (speedRadS : ℚ) :
    limits.torqueLimitAtSpeed speedRadS =
      .ok (if limits.lastPoint.1 < |speedRadS| then 0
        else interpolate |speedRadS| limits.torqueSpeedEnvelope) := by
  rw [torqueLimitAtSpeed, valid]
  change (if _ then _ else _) = _
  split <;> rfl

/-- The limit lies between zero and the peak torque. -/
theorem torqueLimitAtSpeed_mem (valid : limits.validate = .ok ()) {speedRadS limit : ℚ}
    (read : limits.torqueLimitAtSpeed speedRadS = .ok limit) :
    0 ≤ limit ∧ limit ≤ limits.peakTorqueNm := by
  obtain ⟨first, rest, points, peak, nonneg⟩ := curve_of_validate valid
  have falling := falling_of_validate valid
  rw [points] at falling nonneg
  rw [torqueLimitAtSpeed_eq valid, points] at read
  cases read
  split
  · exact ⟨le_refl 0, (nonneg first List.mem_cons_self).trans peak⟩
  · exact ⟨le_interpolate falling nonneg, (interpolate_le_head falling).trans peak⟩

/-- The limit does not rise with the speed, also across the end of the curve. -/
theorem torqueLimitAtSpeed_antitone (valid : limits.validate = .ok ()) {slow fast : ℚ}
    {slowLimit fastLimit : ℚ} (slower : |slow| ≤ |fast|)
    (slowRead : limits.torqueLimitAtSpeed slow = .ok slowLimit)
    (fastRead : limits.torqueLimitAtSpeed fast = .ok fastLimit) : fastLimit ≤ slowLimit := by
  by_cases beyond : limits.lastPoint.1 < |fast|
  · have nonneg := (torqueLimitAtSpeed_mem valid slowRead).1
    rw [torqueLimitAtSpeed_eq valid, if_pos beyond] at fastRead
    cases fastRead
    exact nonneg
  · have inside : ¬limits.lastPoint.1 < |slow| :=
      not_lt.mpr (slower.trans (not_lt.mp beyond))
    rw [torqueLimitAtSpeed_eq valid, if_neg inside] at slowRead
    rw [torqueLimitAtSpeed_eq valid, if_neg beyond] at fastRead
    cases slowRead
    cases fastRead
    exact interpolate_antitone (falling_of_validate valid) slower

theorem torqueLimitAtSpeed_beyond (valid : limits.validate = .ok ()) {speedRadS : ℚ}
    (beyond : limits.lastPoint.1 < |speedRadS|) :
    limits.torqueLimitAtSpeed speedRadS = .ok 0 := by
  rw [torqueLimitAtSpeed_eq valid, if_pos beyond]

end MotorTelemetryLimits

/-! ## The profile -/

/-- A profile as its constructor leaves it: the checks of `__post_init__` are fields. -/
structure DamiaoMitCommandProfile where
  endpoint : DamiaoFeedbackEndpoint
  softPositionRad : ℚ × ℚ
  telemetryLimits : MotorTelemetryLimits
  maximumEmbeddedKd : ℚ
  softOrdered : softPositionRad.1 < softPositionRad.2
  telemetryValid : telemetryLimits.validate = .ok ()
  kdRange : 0 < maximumEmbeddedKd ∧ maximumEmbeddedKd ≤ 5
  softInside : endpoint.ranges.positionRad.1 ≤ softPositionRad.1 ∧
    softPositionRad.2 ≤ endpoint.ranges.positionRad.2

/-- What a profile refuses itself, and what comes from the envelope or the encoder. -/
inductive ProfileError where
  | kdExceeds (kd maximumEmbeddedKd : ℚ) (motorName : String)
  | damiao (error : DamiaoError)
  deriving DecidableEq

namespace DamiaoMitCommandProfile

/-- The constructor. -/
def make (endpoint : DamiaoFeedbackEndpoint) (softPositionRad : ℚ × ℚ)
    (telemetryLimits : MotorTelemetryLimits) (maximumEmbeddedKd : ℚ) :
    Except DamiaoError DamiaoMitCommandProfile :=
  if softOrdered : softPositionRad.1 < softPositionRad.2 then
    match telemetryValid : telemetryLimits.validate with
    | .error error => .error error
    | .ok () =>
        if kdRange : 0 < maximumEmbeddedKd ∧ maximumEmbeddedKd ≤ 5 then
          if softInside : endpoint.ranges.positionRad.1 ≤ softPositionRad.1 ∧
              softPositionRad.2 ≤ endpoint.ranges.positionRad.2 then
            .ok
              { endpoint
                softPositionRad
                telemetryLimits
                maximumEmbeddedKd
                softOrdered
                telemetryValid
                kdRange
                softInside }
          else
            .error
              (.refused "motor soft limits exceed the register-readback MIT position range")
        else .error (.refused "maximum_embedded_kd must be finite and in (0, 5]")
  else .error (.refused "soft_position_rad must have finite lower < upper")

variable (profile : DamiaoMitCommandProfile)

/-- Every profile is one that the constructor accepts. -/
theorem make_eq_self :
    make profile.endpoint profile.softPositionRad profile.telemetryLimits
      profile.maximumEmbeddedKd = .ok profile := by
  unfold make
  rw [dif_pos profile.softOrdered]
  split
  next error invalid =>
      rw [profile.telemetryValid] at invalid
      cases invalid
  next valid => rw [dif_pos profile.kdRange, dif_pos profile.softInside]

/-- The speed limit of the motor under the range of the protocol. -/
def maximumVelocity : ℚ :=
  min profile.telemetryLimits.maximumSpeedRadS (minimumAbs profile.endpoint.ranges.velocityRadS)

def envelopeForState (measuredState : DamiaoMitState) :
    Except DamiaoError DamiaoMitCommandEnvelope := do
  let protocolTorque := minimumAbs profile.endpoint.ranges.torqueNm
  let torqueLimit ← profile.telemetryLimits.torqueLimitAtSpeed measuredState.velocityRadS
  let maximumTorque := min torqueLimit protocolTorque
  raiseIf (profile.maximumVelocity ≤ 0 ∨ maximumTorque ≤ 0)
    (.refused "motor state leaves no positive MIT command envelope")
  DamiaoMitCommandEnvelope.make profile.softPositionRad profile.maximumVelocity maximumTorque
    maximumTorque

def encode (command : DamiaoMitCommand) (measuredState : DamiaoMitState) :
    Except ProfileError EncodedDamiaoMitCommand := do
  raiseIf (profile.maximumEmbeddedKd < command.kd)
    (.kdExceeds command.kd profile.maximumEmbeddedKd profile.endpoint.motorName)
  let envelope ← (profile.envelopeForState measuredState).mapError .damiao
  (encodeDamiaoMitCommand profile.endpoint command measuredState envelope).mapError .damiao

variable {profile}

/-- An envelope holds the soft range, and what the speed leaves of the torque. -/
theorem envelopeForState_eq_ok {measuredState : DamiaoMitState}
    {envelope : DamiaoMitCommandEnvelope}
    (built : profile.envelopeForState measuredState = .ok envelope) :
    ∃ limit, profile.telemetryLimits.torqueLimitAtSpeed measuredState.velocityRadS = .ok limit ∧
      0 < limit ∧ envelope.positionRad = profile.softPositionRad ∧
      envelope.maximumVelocityRadS = profile.maximumVelocity ∧
      envelope.maximumFeedforwardTorqueNm =
        min limit (minimumAbs profile.endpoint.ranges.torqueNm) ∧
      envelope.maximumOutputTorqueNm =
        min limit (minimumAbs profile.endpoint.ranges.torqueNm) := by
  simp only [envelopeForState, except_bind_eq_ok, raiseIf_eq_ok, not_or, not_le,
    DamiaoMitCommandEnvelope.make_eq_ok_iff] at built
  obtain ⟨limit, read, _, ⟨_, positive⟩, position, velocity, feedforward, output⟩ := built
  exact ⟨limit, read, (lt_min_iff.mp positive).1, position, velocity, feedforward, output⟩

theorem encode_eq_ok {command : DamiaoMitCommand} {measuredState : DamiaoMitState}
    {encoded : EncodedDamiaoMitCommand}
    (accepted : profile.encode command measuredState = .ok encoded) :
    command.kd ≤ profile.maximumEmbeddedKd ∧
      ∃ envelope, profile.envelopeForState measuredState = .ok envelope ∧
        EnvelopeAllows profile.endpoint command measuredState envelope := by
  simp only [encode, except_bind_eq_ok, raiseIf_eq_ok, not_lt, mapError_eq_ok,
    encodeDamiaoMitCommand_eq_ok_iff] at accepted
  obtain ⟨_, kd, envelope, built, allows, _⟩ := accepted
  exact ⟨kd, envelope, built, allows⟩

/-- What an accepted command keeps. -/
theorem encode_bounds {command : DamiaoMitCommand} {measuredState : DamiaoMitState}
    {encoded : EncodedDamiaoMitCommand}
    (accepted : profile.encode command measuredState = .ok encoded) :
    ∃ limit, profile.telemetryLimits.torqueLimitAtSpeed measuredState.velocityRadS = .ok limit ∧
      0 < limit ∧
      |estimatedOutputTorqueNm command measuredState| ≤
        min limit (minimumAbs profile.endpoint.ranges.torqueNm) ∧
      |command.feedforwardTorqueNm| ≤
        min limit (minimumAbs profile.endpoint.ranges.torqueNm) ∧
      (profile.softPositionRad.1 ≤ command.positionRad ∧
        command.positionRad ≤ profile.softPositionRad.2) ∧
      command.kd ≤ profile.maximumEmbeddedKd ∧
      |command.velocityRadS| ≤ profile.telemetryLimits.maximumSpeedRadS := by
  obtain ⟨kd, envelope, built, allows⟩ := encode_eq_ok accepted
  obtain ⟨limit, read, positive, position, velocity, feedforward, output⟩ :=
    envelopeForState_eq_ok built
  have inSoft := allows.position
  rw [position] at inSoft
  have underFeedforward := allows.feedforward
  rw [feedforward] at underFeedforward
  have underOutput := allows.output
  rw [output] at underOutput
  have underVelocity := allows.velocity
  rw [velocity] at underVelocity
  exact ⟨limit, read, positive, underOutput, underFeedforward, inSoft, kd,
    underVelocity.trans (min_le_left _ _)⟩

/-- **A profile enforces its curve.**  What it encodes stays under the torque that the measured
speed leaves, and the curve falls from the peak to zero, after which nothing is encoded. -/
theorem encode_enforcesCurve (profile : DamiaoMitCommandProfile) :
    (∀ command measuredState encoded, profile.encode command measuredState = .ok encoded →
      ∃ limit,
        profile.telemetryLimits.torqueLimitAtSpeed measuredState.velocityRadS = .ok limit ∧
        |estimatedOutputTorqueNm command measuredState| ≤
          min limit (minimumAbs profile.endpoint.ranges.torqueNm) ∧
        |command.feedforwardTorqueNm| ≤
          min limit (minimumAbs profile.endpoint.ranges.torqueNm) ∧
        (profile.softPositionRad.1 ≤ command.positionRad ∧
          command.positionRad ≤ profile.softPositionRad.2) ∧
        command.kd ≤ profile.maximumEmbeddedKd ∧
        |command.velocityRadS| ≤ profile.telemetryLimits.maximumSpeedRadS) ∧
    (∀ speed, ∃ limit, profile.telemetryLimits.torqueLimitAtSpeed speed = .ok limit ∧
      0 ≤ limit ∧ limit ≤ profile.telemetryLimits.peakTorqueNm) ∧
    (∀ slow fast slowLimit fastLimit, |slow| ≤ |fast| →
      profile.telemetryLimits.torqueLimitAtSpeed slow = .ok slowLimit →
      profile.telemetryLimits.torqueLimitAtSpeed fast = .ok fastLimit →
        fastLimit ≤ slowLimit) ∧
    ∀ speed, profile.telemetryLimits.lastPoint.1 < |speed| →
      profile.telemetryLimits.torqueLimitAtSpeed speed = .ok 0 ∧
      ∀ command measuredState, measuredState.velocityRadS = speed →
        ∃ error, profile.encode command measuredState = .error error := by
  have valid := profile.telemetryValid
  refine ⟨?_, ?_, ?_, ?_⟩
  · intro command measuredState encoded accepted
    obtain ⟨limit, read, _, bounds⟩ := encode_bounds accepted
    exact ⟨limit, read, bounds⟩
  · intro speed
    have read := MotorTelemetryLimits.torqueLimitAtSpeed_eq valid speed
    exact ⟨_, read, MotorTelemetryLimits.torqueLimitAtSpeed_mem valid read⟩
  · intro slow fast slowLimit fastLimit slower slowRead fastRead
    exact MotorTelemetryLimits.torqueLimitAtSpeed_antitone valid slower slowRead fastRead
  · intro speed beyond
    have zero := MotorTelemetryLimits.torqueLimitAtSpeed_beyond valid beyond
    refine ⟨zero, ?_⟩
    intro command measuredState measured
    cases outcome : profile.encode command measuredState with
    | error error => exact ⟨error, rfl⟩
    | ok encoded =>
        obtain ⟨limit, read, positive, _⟩ := encode_bounds outcome
        rw [measured, zero] at read
        cases read
        exact absurd positive (lt_irrefl 0)

end DamiaoMitCommandProfile

end SpriteRuntime
