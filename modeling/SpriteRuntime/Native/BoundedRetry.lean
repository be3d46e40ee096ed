import SpriteRuntime.Native.TorqueGate

/-!
# The retry of the bounded payload

`protected_policy_payload` with its bounded option scales a command down until the torque of
its wire fields is inside the cap.  The scaled command is truncated again; as long as the
tracking error is small against the cap, one round is enough all the same.
-/

namespace SpriteRuntime

open Foundation

section Loop

variable (descriptor : MotorDescriptor) (motor : MotorState)

/-- One round of the retry loop: the next scale, and the fields at that scale. -/
def rescale (scale : ℚ) (fields : MitFields) : Except String (ℚ × MitFields) := do
  let next := scale * min (9 / 10)
    (95 / 100 * descriptor.commissioningTorqueCap / |wireTorque descriptor motor fields|)
  let kpRaw ← encodeUint (motor.preview.kp * next) 0 500 12
  let kdRaw ← encodeUint (motor.preview.kd * next) 0 5 12
  let torque ← encodeUint (motor.preview.feedforwardTorque * next)
    descriptor.torqueMin descriptor.torqueMax 12
  return (next, { fields with kp := kpRaw, kd := kdRaw, torque := torque })

/-- How many rounds the retry loop runs. -/
def rescaleRounds : ℕ → ℚ → MitFields → ℕ
  | 0, _, _ => 0
  | attempts + 1, scale, fields =>
      if |wireTorque descriptor motor fields| ≤ descriptor.commissioningTorqueCap + tolerance
      then 0
      else match rescale descriptor motor scale fields with
        | .ok (next, scaled) => rescaleRounds attempts next scaled + 1
        | .error _ => 1

/-- The rounds that are counted are those of the loop. -/
theorem rescaleToCap_succ (attempts : ℕ) (scale : ℚ) (fields : MitFields) :
    rescaleToCap descriptor motor (attempts + 1) scale fields =
      if |wireTorque descriptor motor fields| ≤ descriptor.commissioningTorqueCap + tolerance
      then .ok fields
      else match rescale descriptor motor scale fields with
        | .ok (next, scaled) => rescaleToCap descriptor motor attempts next scaled
        | .error what => .error what := by
  rw [rescaleToCap]
  split
  · rfl
  · simp only [rescale]
    generalize scale * min (9 / 10) (95 / 100 * descriptor.commissioningTorqueCap /
      |wireTorque descriptor motor fields|) = next
    rcases encodeUint (motor.preview.kp * next) 0 500 12 with what | kpRaw
    · rfl
    rcases encodeUint (motor.preview.kd * next) 0 5 12 with what | kdRaw
    · rfl
    rcases encodeUint (motor.preview.feedforwardTorque * next) descriptor.torqueMin
      descriptor.torqueMax 12 with what | torque
    · rfl
    · rfl

end Loop

section Error

/-- What truncating the gains and the feedforward torque changes in the torque, at most. -/
def truncationBound (descriptor : MotorDescriptor) (motor : MotorState)
    (fields : MitFields) : ℚ :=
  let encoded := fields.decode descriptor
  500 / 4095 * |encoded.position - motor.lastPosition| +
    5 / 4095 * |encoded.velocity - motor.lastVelocity| +
    (descriptor.torqueMax - descriptor.torqueMin) / 4095

variable {descriptor : MotorDescriptor} {fields : MitFields}

/-- The fields of a command at a scale, position and velocity apart. -/
structure EncodesAt (descriptor : MotorDescriptor) (command : MitCommand) (scale : ℚ)
    (fields : MitFields) : Prop where
  kp : encodeUint (command.kp * scale) 0 500 12 = .ok fields.kp
  kd : encodeUint (command.kd * scale) 0 5 12 = .ok fields.kd
  torque : encodeUint (command.feedforwardTorque * scale) descriptor.torqueMin
    descriptor.torqueMax 12 = .ok fields.torque

theorem abs_decodeUint_sub_le {value low high : ℚ} {code : ℕ}
    (encoded : encodeUint value low high 12 = .ok code) (ordered : low < high) :
    |decodeUint code low high 12 - value| ≤ (high - low) / 4095 := by
  obtain ⟨⟨lower, _⟩, rfl⟩ := encodeUint_eq_ok.mp encoded
  have step := abs_dequantize_quantize_sub_le (by norm_num : 0 < 2 ^ 12 - 1) ordered lower
  have levels : ((2 ^ 12 - 1 : ℕ) : ℚ) = 4095 := by norm_num
  rwa [levels] at step

/-- The wire torque against the torque of the scaled command at the encoded position and
velocity. -/
theorem EncodesAt.abs_wireTorque_sub_le {command : MitCommand} {scale : ℚ}
    (encodes : EncodesAt descriptor command scale fields) (motor : MotorState)
    (torqueOrdered : descriptor.torqueMin < descriptor.torqueMax) :
    |wireTorque descriptor motor fields - scale *
        (command.kp * ((fields.decode descriptor).position - motor.lastPosition) +
          command.kd * ((fields.decode descriptor).velocity - motor.lastVelocity) +
          command.feedforwardTorque)| ≤ truncationBound descriptor motor fields := by
  have kp := abs_decodeUint_sub_le encodes.kp (by norm_num)
  have kd := abs_decodeUint_sub_le encodes.kd (by norm_num)
  have torque := abs_decodeUint_sub_le encodes.torque torqueOrdered
  let lag := (fields.decode descriptor).position - motor.lastPosition
  let slip := (fields.decode descriptor).velocity - motor.lastVelocity
  have kpShare : |(decodeUint fields.kp 0 500 12 - command.kp * scale) * lag| ≤
      500 / 4095 * |lag| := by
    rw [abs_mul]
    exact mul_le_mul_of_nonneg_right (by simpa using kp) (abs_nonneg lag)
  have kdShare : |(decodeUint fields.kd 0 5 12 - command.kd * scale) * slip| ≤
      5 / 4095 * |slip| := by
    rw [abs_mul]
    exact mul_le_mul_of_nonneg_right (by simpa using kd) (abs_nonneg slip)
  have parts : wireTorque descriptor motor fields - scale *
      (command.kp * lag + command.kd * slip + command.feedforwardTorque) =
      (decodeUint fields.kp 0 500 12 - command.kp * scale) * lag +
        (decodeUint fields.kd 0 5 12 - command.kd * scale) * slip +
        (decodeUint fields.torque descriptor.torqueMin descriptor.torqueMax 12 -
          command.feedforwardTorque * scale) := by
    change decodeUint fields.kp 0 500 12 * lag + decodeUint fields.kd 0 5 12 * slip +
      decodeUint fields.torque descriptor.torqueMin descriptor.torqueMax 12 - _ = _
    ring
  change |wireTorque descriptor motor fields - scale *
    (command.kp * lag + command.kd * slip + command.feedforwardTorque)| ≤ _
  rw [parts]
  exact (abs_add_three _ _ _).trans (add_le_add (add_le_add kpShare kdShare) torque)

/-- The fields before any retry. -/
theorem encodePreview_encodesAt {command : MitCommand}
    (encoded : encodePreview descriptor command = .ok fields) :
    EncodesAt descriptor command 1 fields := by
  simp only [encodePreview, except_bind_eq_ok] at encoded
  obtain ⟨p, _, v, _, kpRaw, kp, kdRaw, kd, torqueRaw, torque, same⟩ := encoded
  cases same
  constructor
  · rwa [mul_one]
  · rwa [mul_one]
  · rwa [mul_one]

/-- A scale below one leaves a command with a symmetric torque range encodable. -/
theorem exists_encodesAt {command : MitCommand} {limit scale : ℚ}
    (symmetric : descriptor.torqueMin = -limit ∧ descriptor.torqueMax = limit)
    (kp : 0 ≤ command.kp ∧ command.kp ≤ 500) (kd : 0 ≤ command.kd ∧ command.kd ≤ 5)
    (torque : |command.feedforwardTorque| ≤ limit) (unit : 0 ≤ scale ∧ scale ≤ 1)
    (fields : MitFields) :
    ∃ scaled : MitFields, EncodesAt descriptor command scale scaled ∧
      scaled.position = fields.position ∧ scaled.velocity = fields.velocity := by
  have shrinks {value high : ℚ} (inside : 0 ≤ value ∧ value ≤ high) :
      0 ≤ value * scale ∧ value * scale ≤ high :=
    ⟨mul_nonneg inside.1 unit.1, (mul_le_of_le_one_right inside.1 unit.2).trans inside.2⟩
  have torqueShrinks : |command.feedforwardTorque * scale| ≤ limit := by
    rw [abs_mul, abs_of_nonneg unit.1]
    exact (shrinks ⟨abs_nonneg _, torque⟩).2
  rw [abs_le] at torqueShrinks
  refine ⟨{ fields with
    kp := quantize 0 500 (2 ^ 12 - 1) (command.kp * scale)
    kd := quantize 0 5 (2 ^ 12 - 1) (command.kd * scale)
    torque := quantize descriptor.torqueMin descriptor.torqueMax (2 ^ 12 - 1)
      (command.feedforwardTorque * scale) }, ?_, rfl, rfl⟩
  constructor
  · exact encodeUint_eq_ok.mpr ⟨shrinks kp, rfl⟩
  · exact encodeUint_eq_ok.mpr ⟨shrinks kd, rfl⟩
  · refine encodeUint_eq_ok.mpr ⟨?_, rfl⟩
    rw [symmetric.1, symmetric.2]
    exact torqueShrinks

end Error

section OneRound

/-- The margins of the retry dominate two truncations. -/
theorem abs_le_of_rescaled {first second exact cap bound scale : ℚ} (positive : 0 < cap)
    (beyond : cap < |first|) (chosen : scale = min (9 / 10) (95 / 100 * cap / |first|))
    (cut : |first - exact| ≤ bound) (cutAgain : |second - scale * exact| ≤ bound)
    (small : bound ≤ cap / 38) : |second| ≤ cap := by
  have size : 0 < |first| := positive.trans beyond
  have nonneg : 0 ≤ scale := by
    rw [chosen]
    exact le_min (by norm_num) (by positivity)
  have margin : scale ≤ 9 / 10 := chosen ▸ min_le_left _ _
  have scaledFirst : scale * |first| ≤ 95 / 100 * cap := by
    rw [← le_div_iff₀ size, chosen]
    exact min_le_right _ _
  have boundNonneg : 0 ≤ bound := (abs_nonneg _).trans cut
  have scaledCut : scale * |exact - first| ≤ 9 / 10 * bound := by
    rw [abs_sub_comm]
    exact mul_le_mul margin cut (abs_nonneg _) (by norm_num)
  have split : second = (second - scale * exact) + scale * (exact - first) + scale * first := by
    ring
  calc |second| ≤ |second - scale * exact| + |scale * (exact - first)| + |scale * first| := by
        conv_lhs => rw [split]
        exact abs_add_three _ _ _
    _ = |second - scale * exact| + scale * |exact - first| + scale * |first| := by
        rw [abs_mul, abs_mul, abs_of_nonneg nonneg]
    _ ≤ bound + 9 / 10 * bound + 95 / 100 * cap := by
        exact add_le_add (add_le_add cutAgain scaledCut) scaledFirst
    _ ≤ cap := by linarith

variable {descriptor : MotorDescriptor} {motor : MotorState} {fields : MitFields} {limit : ℚ}

/-- A round from fields over the cap reaches fields within it. -/
theorem rescale_within
    (symmetric : descriptor.torqueMin = -limit ∧ descriptor.torqueMax = limit)
    (limitPositive : 0 < limit)
    (kp : 0 ≤ motor.preview.kp ∧ motor.preview.kp ≤ 500)
    (kd : 0 ≤ motor.preview.kd ∧ motor.preview.kd ≤ 5)
    (torque : |motor.preview.feedforwardTorque| ≤ limit)
    (encodes : EncodesAt descriptor motor.preview 1 fields)
    (small : truncationBound descriptor motor fields ≤
      descriptor.commissioningTorqueCap / 38)
    (beyond : descriptor.commissioningTorqueCap < |wireTorque descriptor motor fields|) :
    ∃ next scaled, rescale descriptor motor 1 fields = .ok (next, scaled) ∧
      |wireTorque descriptor motor scaled| ≤ descriptor.commissioningTorqueCap := by
  have torqueOrdered : descriptor.torqueMin < descriptor.torqueMax := by
    rw [symmetric.1, symmetric.2]
    linarith
  have cap : 0 < descriptor.commissioningTorqueCap := by
    have share : 0 < (descriptor.torqueMax - descriptor.torqueMin) / 4095 :=
      div_pos (sub_pos.mpr torqueOrdered) (by norm_num)
    have bound : 0 < truncationBound descriptor motor fields := by
      unfold truncationBound
      positivity
    linarith
  let next := 1 * min (9 / 10)
    (95 / 100 * descriptor.commissioningTorqueCap / |wireTorque descriptor motor fields|)
  have unit : 0 ≤ next ∧ next ≤ 1 := by
    have size : 0 < |wireTorque descriptor motor fields| := cap.trans beyond
    rw [show next = min _ _ from one_mul _]
    constructor
    · exact le_min (by norm_num) (by positivity)
    · exact (min_le_left _ _).trans (by norm_num)
  obtain ⟨⟨p, v, kpRaw, kdRaw, torqueRaw⟩, again, rfl, rfl⟩ :=
    exists_encodesAt symmetric kp kd torque unit fields
  have round : rescale descriptor motor 1 fields =
      .ok (next, ⟨fields.position, fields.velocity, kpRaw, kdRaw, torqueRaw⟩) := by
    simp only [rescale]
    rw [again.kp, again.kd, again.torque]
    rfl
  refine ⟨next, _, round, ?_⟩
  have cut := encodes.abs_wireTorque_sub_le motor torqueOrdered
  have cutAgain := again.abs_wireTorque_sub_le motor torqueOrdered
  rw [one_mul] at cut
  exact abs_le_of_rescaled cap beyond (one_mul _) cut cutAgain small

/-- Fields over the cap are scaled once, and fields within it are returned. -/
theorem boundWireTorque_within
    (within : descriptor.commissioningTorqueCap < |wireTorque descriptor motor fields| →
      ∃ next scaled, rescale descriptor motor 1 fields = .ok (next, scaled) ∧
        |wireTorque descriptor motor scaled| ≤ descriptor.commissioningTorqueCap) :
    (∃ result middle, boundWireTorque descriptor true fields motor = (.done result, middle) ∧
      |wireTorque descriptor motor result| ≤ descriptor.commissioningTorqueCap + tolerance) ∧
      rescaleRounds descriptor motor 32 1 fields ≤ 1 := by
  have slack : (0 : ℚ) < tolerance := by norm_num [tolerance]
  by_cases inside : |wireTorque descriptor motor fields| ≤
      descriptor.commissioningTorqueCap + tolerance
  · constructor
    · refine ⟨fields, motor, ?_, inside⟩
      simp [boundWireTorque, Program.bind_apply, not_lt.mpr inside]
    · rw [rescaleRounds, if_pos inside]
      exact Nat.zero_le 1
  · have beyond := not_le.mp inside
    obtain ⟨next, scaled, round, reached⟩ := within (by linarith)
    have settled : |wireTorque descriptor motor scaled| ≤
        descriptor.commissioningTorqueCap + tolerance := by linarith
    have retry : rescaleToCap descriptor motor 32 1 fields = .ok scaled := by
      rw [rescaleToCap_succ, if_neg inside, round]
      change rescaleToCap descriptor motor (30 + 1) next scaled = .ok scaled
      rw [rescaleToCap_succ, if_pos settled]
    constructor
    · have ran : boundWireTorque descriptor true fields motor = (.done scaled, { motor with
          policyTorqueSaturationCount := motor.policyTorqueSaturationCount + 1 }) := by
        simp [boundWireTorque, Program.bind_apply, beyond, retry, Program.ofExcept]
      exact ⟨scaled, _, ran, settled⟩
    · rw [rescaleRounds, if_neg inside, round]
      change rescaleRounds descriptor motor (30 + 1) next scaled + 1 ≤ 1
      rw [rescaleRounds, if_pos settled]

/-- The fields of a command before any retry. -/
def encodedFields (descriptor : MotorDescriptor) (command : MitCommand) : MitFields :=
  { position := quantize descriptor.positionMin descriptor.positionMax (2 ^ 16 - 1)
      command.position
    velocity := quantize descriptor.velocityMin descriptor.velocityMax (2 ^ 12 - 1)
      command.velocity
    kp := quantize 0 500 (2 ^ 12 - 1) command.kp
    kd := quantize 0 5 (2 ^ 12 - 1) command.kd
    torque := quantize descriptor.torqueMin descriptor.torqueMax (2 ^ 12 - 1)
      command.feedforwardTorque }

/-- Position, velocity and feedforward torque are inside the encodable ranges. -/
structure Encodable (descriptor : MotorDescriptor) (command : MitCommand) : Prop where
  position : descriptor.positionMin ≤ command.position ∧
    command.position ≤ descriptor.positionMax
  velocity : descriptor.velocityMin ≤ command.velocity ∧
    command.velocity ≤ descriptor.velocityMax
  torque : descriptor.torqueMin ≤ command.feedforwardTorque ∧
    command.feedforwardTorque ≤ descriptor.torqueMax

theorem Encodable.encodePreview {command : MitCommand}
    (encodable : Encodable descriptor command) (kp : 0 ≤ command.kp ∧ command.kp ≤ 500)
    (kd : 0 ≤ command.kd ∧ command.kd ≤ 5) :
    encodePreview descriptor command = .ok (encodedFields descriptor command) := by
  simp only [SpriteRuntime.encodePreview, except_bind_eq_ok, encodeUint_eq_ok]
  exact ⟨_, ⟨encodable.position, rfl⟩, _, ⟨encodable.velocity, rfl⟩, _, ⟨kp, rfl⟩, _,
    ⟨kd, rfl⟩, _, ⟨encodable.torque, rfl⟩, rfl⟩

/-- **One round is enough.**  With a symmetric torque range, a command inside its envelope and
the encodable ranges, and a tracking error that is small against the cap, the bounded payload
is returned and its retry loop runs at most once. -/
theorem protectedPolicyPayload_one_round (descriptor : MotorDescriptor) (motor : MotorState)
    (limit : ℚ) (limitPositive : 0 < limit)
    (symmetric : descriptor.torqueMin = -limit ∧ descriptor.torqueMax = limit)
    (envelope : ¬protectedEnvelopeFailure descriptor motor)
    (encodable : Encodable descriptor motor.preview)
    (small : truncationBound descriptor motor (encodedFields descriptor motor.preview) ≤
      descriptor.commissioningTorqueCap / 38) :
    (∃ data final, protectedPolicyPayload descriptor true motor = (.done data, final)) ∧
      rescaleRounds descriptor motor 32 1 (encodedFields descriptor motor.preview) ≤ 1 := by
  have gains := envelope
  simp only [protectedEnvelopeFailure, not_or, not_lt] at gains
  obtain ⟨_, _, _, _, _, _, _, _, kpMin, kpMax, kdMin, kdMax⟩ := gains
  have encoded := encodable.encodePreview ⟨kpMin, kpMax⟩ ⟨kdMin, kdMax⟩
  have torque : |motor.preview.feedforwardTorque| ≤ limit := by
    rw [abs_le, ← symmetric.1, ← symmetric.2]
    exact encodable.torque
  obtain ⟨⟨result, middle, bounded, within⟩, rounds⟩ := boundWireTorque_within
    (rescale_within symmetric limitPositive ⟨kpMin, kpMax⟩ ⟨kdMin, kdMax⟩ torque
      (encodePreview_encodesAt encoded) small)
  refine ⟨⟨result.pack, { middle with
    maximumAbsCommandedTorque := max middle.maximumAbsCommandedTorque
      |wireTorque descriptor motor result| }, ?_⟩, rounds⟩
  simp only [protectedPolicyPayload, Program.bind_eq_done_iff, Program.get_eq_done_iff,
    Program.throwIf_eq_done_iff, Program.ofExcept_eq_done_iff, Program.modify_eq_done_iff,
    Program.pure_eq_done_iff]
  exact ⟨motor, motor, ⟨rfl, rfl⟩, (), motor, ⟨envelope, rfl⟩, _, motor, ⟨encoded, rfl⟩, result,
    middle, bounded, (), middle, ⟨not_lt.mpr within, rfl⟩, (), _, rfl, rfl, rfl⟩

end OneRound

/-- The motor of the quantization test, with a small cap. -/
def retryMotor : MotorDescriptor :=
  { MotorDescriptor.testMotor with
    velocityMin := -50
    velocityMax := 50
    torqueMin := -10
    torqueMax := 10
    commissioningTorqueCap := 1 }

/-- Its stiff, damped command against a moving motor, which is over the cap. -/
def retryState : MotorState :=
  { lastPosition := -1 / 2
    lastVelocity := 3 / 4
    preview := { position := -3 / 5, kp := 7, kd := 3 }
    previewInitialized := true }

theorem protectedPolicyPayload_one_round_retry :
    ¬|wireTorque retryMotor retryState (encodedFields retryMotor retryState.preview)| ≤ 1 ∧
      ∃ data final, protectedPolicyPayload retryMotor true retryState = (.done data, final) := by
  constructor
  · decide +kernel
  · have encodable : Encodable retryMotor retryState.preview :=
      ⟨by decide +kernel, by decide +kernel, by decide +kernel⟩
    exact (protectedPolicyPayload_one_round retryMotor retryState 10 (by norm_num)
      (by decide +kernel) (by decide +kernel) encodable (by decide +kernel)).1

end SpriteRuntime
