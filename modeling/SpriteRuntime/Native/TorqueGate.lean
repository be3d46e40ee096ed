import SpriteRuntime.Native.Mit

/-!
# The torque bound of the last gate

Every path of `protected_policy_payload` that returns bytes has checked the
torque of the very fields that it packs.  The retry loop changes the gains and
the feedforward and leaves the position and the velocity alone, so the checks
on those two survive it.
-/

namespace SpriteRuntime

open Foundation

/-- What the bytes written for a preview must ask for at the measured state. -/
structure WireSafe (descriptor : MotorDescriptor) (motor : MotorState)
    (command : MitCommand) : Prop where
  torque : |command.torqueAt motor.lastPosition motor.lastVelocity| ≤
    descriptor.commissioningTorqueCap + tolerance
  kp : 0 ≤ command.kp ∧ command.kp ≤ 500
  kd : 0 ≤ command.kd ∧ command.kd ≤ 5
  position : descriptor.positionMin ≤ command.position ∧
    command.position ≤ descriptor.positionMax
  step : |command.position - motor.preview.position| ≤
    (descriptor.positionMax - descriptor.positionMin) / (2 ^ 16 - 1)

/-- A position within its range is read back at most one step below itself. -/
theorem decodeUint_position_step {value low high : ℚ} {code : ℕ}
    (encoded : encodeUint value low high 16 = .ok code) (ordered : low < high) :
    |decodeUint code low high 16 - value| ≤ (high - low) / (2 ^ 16 - 1) := by
  obtain ⟨⟨lower, _⟩, rfl⟩ := encodeUint_eq_ok.mp encoded
  have step := abs_dequantize_quantize_sub_le (by norm_num : 0 < 2 ^ 16 - 1) ordered lower
  have levels : ((2 ^ 16 - 1 : ℕ) : ℚ) = 2 ^ 16 - 1 := by norm_num
  rwa [levels] at step

theorem encodePreview_spec {descriptor : MotorDescriptor} {command : MitCommand}
    {fields : MitFields}
    (positionOrdered : descriptor.positionMin < descriptor.positionMax)
    (velocityOrdered : descriptor.velocityMin < descriptor.velocityMax)
    (torqueOrdered : descriptor.torqueMin < descriptor.torqueMax)
    (encoded : encodePreview descriptor command = .ok fields) :
    fields.InRange ∧ encodeUint command.position descriptor.positionMin
      descriptor.positionMax 16 = .ok fields.position := by
  obtain ⟨p, position, afterPosition⟩ := except_bind_eq_ok.mp encoded
  obtain ⟨v, velocity, afterVelocity⟩ := except_bind_eq_ok.mp afterPosition
  obtain ⟨kpRaw, kp, afterKp⟩ := except_bind_eq_ok.mp afterVelocity
  obtain ⟨kdRaw, kd, afterKd⟩ := except_bind_eq_ok.mp afterKp
  obtain ⟨torqueRaw, torque, same⟩ := except_bind_eq_ok.mp afterKd
  cases same
  refine ⟨?_, position⟩
  constructor
  · exact encodeUint_le position positionOrdered
  · exact encodeUint_le velocity velocityOrdered
  · exact encodeUint_le kp (by norm_num)
  · exact encodeUint_le kd (by norm_num)
  · exact encodeUint_le torque torqueOrdered

/-- The retry loop keeps the fields in range and the position field as it is. -/
theorem rescaleToCap_spec {descriptor : MotorDescriptor} {motor : MotorState}
    (torqueOrdered : descriptor.torqueMin < descriptor.torqueMax)
    {attempts : ℕ} {scale : ℚ} {fields result : MitFields}
    (inRange : fields.InRange)
    (scaled : rescaleToCap descriptor motor attempts scale fields = .ok result) :
    result.InRange ∧ result.position = fields.position := by
  induction attempts generalizing scale fields with
  | zero =>
      cases scaled
      exact ⟨inRange, rfl⟩
  | succ attempts induction =>
      simp only [rescaleToCap] at scaled
      split at scaled
      · cases scaled
        exact ⟨inRange, rfl⟩
      · obtain ⟨kpRaw, kp, afterKp⟩ := except_bind_eq_ok.mp scaled
        obtain ⟨kdRaw, kd, afterKd⟩ := except_bind_eq_ok.mp afterKp
        obtain ⟨torqueRaw, torque, again⟩ := except_bind_eq_ok.mp afterKd
        apply induction _ again
        constructor
        · exact inRange.position
        · exact inRange.velocity
        · exact encodeUint_le kp (by norm_num)
        · exact encodeUint_le kd (by norm_num)
        · exact encodeUint_le torque torqueOrdered

theorem boundWireTorque_spec {descriptor : MotorDescriptor} {bounded : Bool}
    (torqueOrdered : descriptor.torqueMin < descriptor.torqueMax)
    {fields result : MitFields} {motor final : MotorState}
    (inRange : fields.InRange)
    (returned : boundWireTorque descriptor bounded fields motor =
      (.done result, final)) :
    result.InRange ∧ result.position = fields.position := by
  obtain ⟨_, _, read, rest⟩ := Program.bind_eq_done returned
  cases read
  split at rest
  · obtain ⟨scaled, _, retry, counted⟩ := Program.bind_eq_done rest
    obtain ⟨_, _, _, same⟩ := Program.bind_eq_done counted
    cases same
    cases outcome : rescaleToCap descriptor motor 32 1 fields with
    | error error => simp [outcome, Program.ofExcept] at retry
    | ok value =>
        simp only [outcome, Program.ofExcept, Program.pure_apply, Prod.mk.injEq,
          Outcome.done.injEq] at retry
        obtain ⟨rfl, _⟩ := retry
        exact rescaleToCap_spec torqueOrdered inRange outcome
  · cases rest
    exact ⟨inRange, rfl⟩

/-- The last gate either throws, or writes bytes that ask for a torque within the
commissioning cap and have that torque on record. -/
theorem protectedPolicyPayload_wireSafe {descriptor : MotorDescriptor}
    (accepted : descriptor.Accepted)
    (velocityOrdered : descriptor.velocityMin < descriptor.velocityMax)
    (torqueOrdered : descriptor.torqueMin < descriptor.torqueMax)
    {bounded : Bool} {motor final : MotorState} {data : CanData}
    (returned : protectedPolicyPayload descriptor bounded motor =
      (.done data, final)) :
    let command := (MitFields.unpack data).decode descriptor
    WireSafe descriptor motor command ∧
      |command.torqueAt motor.lastPosition motor.lastVelocity| ≤
        final.maximumAbsCommandedTorque := by
  have positionOrdered := accepted.positionMin_lt_positionMax
  obtain ⟨_, _, read, afterRead⟩ := Program.bind_eq_done returned
  cases read
  obtain ⟨_, _, envelope, afterEnvelope⟩ := Program.bind_eq_done afterRead
  obtain ⟨rfl, _⟩ := Program.throwIf_eq_done envelope
  obtain ⟨encoded, _, encoding, afterEncoding⟩ := Program.bind_eq_done afterEnvelope
  obtain ⟨rfl, encodes⟩ := Program.ofExcept_eq_done encoding
  obtain ⟨fields, limited, bounding, afterBounding⟩ :=
    Program.bind_eq_done afterEncoding
  obtain ⟨_, _, cap, afterCap⟩ := Program.bind_eq_done afterBounding
  obtain ⟨rfl, withinCap⟩ := Program.throwIf_eq_done cap
  obtain ⟨_, _, recorded, same⟩ := Program.bind_eq_done afterCap
  cases recorded
  cases same
  obtain ⟨inRange, position⟩ :=
    encodePreview_spec positionOrdered velocityOrdered torqueOrdered encodes
  obtain ⟨fieldsInRange, samePosition⟩ :=
    boundWireTorque_spec torqueOrdered inRange bounding
  rw [← samePosition] at position
  simp only [MitFields.unpack_pack fieldsInRange]
  refine ⟨?_, le_max_right _ _⟩
  constructor
  · exact not_lt.mp withinCap
  · exact ⟨le_dequantize (by norm_num) _,
      dequantize_le (by norm_num) fieldsInRange.kp⟩
  · exact ⟨le_dequantize (by norm_num) _,
      dequantize_le (by norm_num) fieldsInRange.kd⟩
  · exact ⟨le_dequantize positionOrdered.le _,
      dequantize_le positionOrdered.le fieldsInRange.position⟩
  · exact decodeUint_position_step position positionOrdered

/-- The stiff, damped command of the quantization test: its wire torque is over
the cap until the bounded option scales it down. -/
theorem protectedPolicyPayload_wireSafe_quantized :
    let descriptor := { MotorDescriptor.testMotor with
      velocityMin := -50, velocityMax := 50, torqueMin := -10, torqueMax := 10,
      commissioningTorqueCap := 1 }
    let motor : MotorState :=
      { lastPosition := -1 / 2
        lastVelocity := 3 / 4
        preview := { position := -3 / 5, kp := 7, kd := 3 }
        previewInitialized := true }
    (protectedPolicyPayload descriptor false motor).1.isDone = false ∧
      ∃ data final,
        protectedPolicyPayload descriptor true motor = (.done data, final) ∧
          WireSafe descriptor motor ((MitFields.unpack data).decode descriptor) := by
  intro descriptor motor
  refine ⟨by decide +kernel, ?_⟩
  have returned : (protectedPolicyPayload descriptor true motor).1.isDone = true := by
    decide +kernel
  obtain ⟨data, done⟩ := Outcome.exists_of_isDone returned
  have result : protectedPolicyPayload descriptor true motor =
      (.done data, (protectedPolicyPayload descriptor true motor).2) := by
    rw [← done]
  have accepted : descriptor.Accepted := by decide +kernel
  exact ⟨data, _, result,
    (protectedPolicyPayload_wireSafe accepted (by norm_num [descriptor])
      (by norm_num [descriptor]) result).1⟩

end SpriteRuntime
