import Mathlib.Data.Sign.Basic
import Mathlib.Logic.Relation
import SpriteRuntime.Native.Preview

/-!
# The saturation law of the bounded preview

With `saturate_to_commissioning_cap`, a call of `preview_final_motor_commands`
cuts the torque estimate of every initialised command back to 98 % of the
commissioning cap.  The law is about one call from any state, so it also holds
for a held command that is saturated again and again while its motor moves.
-/

namespace SpriteRuntime

open Foundation

/-- What one saturating call makes of the command `held` at a measurement. -/
structure Saturated (descriptor : MotorDescriptor) (position velocity : ℚ)
    (held result : MitCommand) : Prop where
  torque : result.torqueAt position velocity =
    SignType.sign (held.torqueAt position velocity) *
      min |held.torqueAt position velocity| (previewTorqueLimit descriptor)
  kp : 0 ≤ result.kp ∧ result.kp ≤ held.kp
  kd : 0 ≤ result.kd ∧ result.kd ≤ held.kd
  envelope : envelopeLower descriptor ≤ held.position ∧
      held.position ≤ envelopeUpper descriptor →
    envelopeLower descriptor ≤ result.position ∧
      result.position ≤ envelopeUpper descriptor
  unchanged : |held.torqueAt position velocity| ≤ previewTorqueLimit descriptor →
    result = held

theorem previewTorqueLimit_pos {descriptor : MotorDescriptor}
    (accepted : descriptor.Accepted) : 0 < previewTorqueLimit descriptor := by
  have cap := accepted.commissioningTorqueCap_pos
  unfold previewTorqueLimit
  positivity

theorem copysign_eq_sign_mul {magnitude sign : ℚ} (positive : 0 ≤ magnitude)
    (nonzero : sign ≠ 0) : copysign magnitude sign = SignType.sign sign * magnitude := by
  unfold copysign
  rw [abs_of_nonneg positive]
  rcases lt_or_gt_of_ne nonzero with negative | above
  · simp [negative]
  · simp [above, above.le]

/-- Scaling the gains and the feedforward scales the torque. -/
theorem torqueAt_scale (command : MitCommand) (scale position velocity : ℚ) :
    MitCommand.torqueAt
        { command with
          kp := command.kp * scale
          kd := command.kd * scale
          feedforwardTorque := command.feedforwardTorque * scale } position velocity =
      scale * command.torqueAt position velocity := by
  simp only [MitCommand.torqueAt]
  ring

theorem tolerance_pos : 0 < tolerance := by norm_num [tolerance]

section SaturatedCommand

variable {descriptor : MotorDescriptor} {motor : MotorState}
  (accepted : descriptor.Accepted)
  (exceeded : previewTorqueLimit descriptor <
    |motor.preview.torqueAt motor.lastPosition motor.lastVelocity|)

include accepted exceeded

theorem estimate_ne_zero :
    motor.preview.torqueAt motor.lastPosition motor.lastVelocity ≠ 0 := by
  have limit := previewTorqueLimit_pos accepted
  exact abs_pos.mp (limit.trans exceeded)

/-- All three ways of limiting the torque end in the limited torque. -/
theorem saturatedCommand_torqueAt :
    (saturatedCommand descriptor motor).torqueAt motor.lastPosition
        motor.lastVelocity =
      copysign (previewTorqueLimit descriptor)
        (motor.preview.torqueAt motor.lastPosition motor.lastVelocity) := by
  have nonzero := estimate_ne_zero accepted exceeded
  unfold saturatedCommand
  dsimp only
  split
  next stiff =>
      have kp : motor.preview.kp ≠ 0 := (tolerance_pos.trans stiff).ne'
      split
      · simp only [MitCommand.torqueAt]
        field_simp
        ring
      · rw [torqueAt_scale, div_mul_cancel₀ _ nonzero]
  next soft =>
      simp only [MitCommand.torqueAt]
      ring

/-- The scale of the impedance branch. -/
theorem limited_div_estimate :
    let estimate := motor.preview.torqueAt motor.lastPosition motor.lastVelocity
    let scale := copysign (previewTorqueLimit descriptor) estimate / estimate
    0 < scale ∧ scale ≤ 1 := by
  intro estimate scale
  have limit := previewTorqueLimit_pos accepted
  have nonzero : estimate ≠ 0 := estimate_ne_zero accepted exceeded
  have ratio : scale = previewTorqueLimit descriptor / |estimate| := by
    simp only [scale]
    rw [copysign_eq_sign_mul limit.le nonzero, div_eq_div_iff nonzero (abs_pos.mpr nonzero).ne']
    calc SignType.sign estimate * previewTorqueLimit descriptor * |estimate|
        = previewTorqueLimit descriptor * (SignType.sign estimate * |estimate|) := by ring
      _ = previewTorqueLimit descriptor * estimate := by rw [sign_mul_abs]
  rw [ratio]
  constructor
  · exact div_pos limit (abs_pos.mpr nonzero)
  · exact (div_le_one (abs_pos.mpr nonzero)).mpr exceeded.le

/-- Gains that have passed the final check were not increased. -/
theorem saturatedCommand_gains
    (kp : 0 ≤ (saturatedCommand descriptor motor).kp)
    (kd : 0 ≤ (saturatedCommand descriptor motor).kd) :
    (saturatedCommand descriptor motor).kp ≤ motor.preview.kp ∧
      (saturatedCommand descriptor motor).kd ≤ motor.preview.kd := by
  obtain ⟨positive, atMostOne⟩ := limited_div_estimate accepted exceeded
  unfold saturatedCommand at kp kd ⊢
  dsimp only at kp kd positive atMostOne ⊢
  split at kp
  next stiff =>
      rw [if_pos stiff] at kd ⊢
      split at kp
      next inside =>
          rw [if_pos inside]
          exact ⟨le_rfl, le_rfl⟩
      next outside =>
          rw [if_neg outside] at kd ⊢
          have kpHeld := nonneg_of_mul_nonneg_left kp positive
          have kdHeld := nonneg_of_mul_nonneg_left kd positive
          exact ⟨mul_le_of_le_one_right kpHeld atMostOne,
            mul_le_of_le_one_right kdHeld atMostOne⟩
  next soft =>
      rw [if_neg soft]
      exact ⟨le_rfl, le_rfl⟩

end SaturatedCommand

theorem saturatedCommand_position (descriptor : MotorDescriptor) (motor : MotorState) :
    (saturatedCommand descriptor motor).position = motor.preview.position ∨
      envelopeLower descriptor ≤ (saturatedCommand descriptor motor).position ∧
        (saturatedCommand descriptor motor).position ≤ envelopeUpper descriptor := by
  unfold saturatedCommand
  dsimp only
  split
  · split
    next inside => exact .inr inside
    next outside => exact .inl rfl
  · exact .inl rfl

/-- One saturating pass that leaves non-negative gains obeys the law. -/
theorem saturatePreview_saturated {descriptor : MotorDescriptor} {motor : MotorState}
    (accepted : descriptor.Accepted)
    (kp : 0 ≤ (saturatePreview descriptor true motor).preview.kp)
    (kd : 0 ≤ (saturatePreview descriptor true motor).preview.kd) :
    Saturated descriptor motor.lastPosition motor.lastVelocity motor.preview
      (saturatePreview descriptor true motor).preview := by
  have limit := previewTorqueLimit_pos accepted
  obtain ⟨_, _, _, ⟨⟨_, exceeded⟩, limited, _⟩ | ⟨within, kept, _⟩⟩ :=
    saturatePreview_cases descriptor true motor
  · rw [limited] at kp kd ⊢
    obtain ⟨kpHeld, kdHeld⟩ := saturatedCommand_gains accepted exceeded kp kd
    constructor
    · rw [saturatedCommand_torqueAt accepted exceeded, min_eq_right exceeded.le]
      exact copysign_eq_sign_mul limit.le (estimate_ne_zero accepted exceeded)
    · exact ⟨kp, kpHeld⟩
    · exact ⟨kd, kdHeld⟩
    · intro inside
      rcases saturatedCommand_position descriptor motor with same | bounded
      · rw [same]
        exact inside
      · exact bounded
    · intro small
      exact absurd exceeded small.not_gt
  · rw [kept] at kp kd ⊢
    have small := not_lt.mp fun exceeded => within ⟨rfl, exceeded⟩
    constructor
    · rw [min_eq_left small, sign_mul_abs]
    · exact ⟨kp, le_rfl⟩
    · exact ⟨kd, le_rfl⟩
    · exact id
    · exact fun _ => rfl

/-- What a saturating call that returned has done to an initialised motor. -/
theorem previewMotor_saturated {descriptor : MotorDescriptor}
    {fresh : Option MitCommand} {before after : MotorState}
    (accepted : descriptor.Accepted)
    (initialized : (installCommand fresh before).previewInitialized = true)
    (returned : previewMotor descriptor true fresh before = (.done (), after)) :
    Saturated descriptor before.lastPosition before.lastVelocity
      (fresh.getD before.preview) after.preview := by
  rcases previewMotor_spec returned with ⟨uninitialized, _⟩ | ⟨_, passed, recorded⟩
  · rw [initialized] at uninitialized
    cases uninitialized
  · simp only [PreviewInvariantFailure, not_or, not_lt] at passed
    obtain ⟨_, _, _, _, _, _, _, kp, _, kd, _⟩ := passed
    have law := saturatePreview_saturated accepted kp kd
    rw [installCommand_lastPosition, installCommand_lastVelocity,
      installCommand_preview] at law
    rw [recorded, recordPreviewMaxima_preview]
    exact law

section HeldTicks

variable {descriptors : Index → MotorDescriptor} {kinematics : NativeKinematics}
  {motor : Index}

/-- The gains a motor is left with while it holds its command: no larger than
those it started from. -/
structure GainsBelow (first : MitCommand) (state : MotorState) : Prop where
  initialized : state.previewInitialized = true
  kp : 0 ≤ state.preview.kp ∧ state.preview.kp ≤ first.kp
  kd : 0 ≤ state.preview.kd ∧ state.preview.kd ≤ first.kd

theorem HeldTick.gainsBelow {first : MitCommand} {before after : ControlState}
    (accepted : (descriptors motor).Accepted)
    (tick : HeldTick descriptors kinematics true motor before after)
    (below : GainsBelow first (before.motors motor)) :
    GainsBelow first (after.motors motor) := by
  obtain ⟨measured, samePreview, sameInitialized, held, returned⟩ := tick
  obtain ⟨initialized, kp, kd⟩ := below
  rw [← sameInitialized] at initialized
  rw [← samePreview] at kp kd
  by_cases hasTarget : measured.ipc.hasTarget = true
  · obtain ⟨_, steps⟩ := previewFinalMotorCommands_spec hasTarget returned
    have step := steps motor
    rw [freshCommand_eq_none held] at step
    have installed : (installCommand none (measured.motors motor)).previewInitialized =
        true := initialized
    have law := previewMotor_saturated accepted installed step
    constructor
    · rw [previewMotor_previewInitialized step]
      exact initialized
    · exact ⟨law.kp.1, law.kp.2.trans kp.2⟩
    · exact ⟨law.kd.1, law.kd.2.trans kd.2⟩
  · rw [previewFinalMotorCommands_idle hasTarget] at returned
    cases returned
    exact ⟨initialized, kp, kd⟩

theorem heldTicks_gainsBelow {first : MitCommand} {start later : ControlState}
    (accepted : (descriptors motor).Accepted)
    (below : GainsBelow first (start.motors motor))
    (ticks : Relation.ReflTransGen
      (HeldTick descriptors kinematics true motor) start later) :
    GainsBelow first (later.motors motor) := by
  induction ticks with
  | refl => exact below
  | tail _ tick induction => exact tick.gainsBelow accepted induction

/-- Every saturating call that returns cuts the torque of an initialised command
back to the limit, and the gains it leaves do not grow while the command is
held. -/
theorem previewFinalMotorCommands_saturated {before after : ControlState}
    (motor : Index) (accepted : (descriptors motor).Accepted)
    (hasTarget : before.ipc.hasTarget = true)
    (initialized :
      refreshes (descriptors motor) before.ipc.motorPreviewCount = true ∨
        (before.motors motor).previewInitialized = true)
    (returned : previewFinalMotorCommands descriptors kinematics true before =
      (.done (), after)) :
    Saturated (descriptors motor) (before.motors motor).lastPosition
        (before.motors motor).lastVelocity
        ((freshCommand (descriptors motor) kinematics before motor).getD
          (before.motors motor).preview) (after.motors motor).preview ∧
      ∀ first later,
        Relation.ReflTransGen (HeldTick descriptors kinematics true motor) after first →
        Relation.ReflTransGen (HeldTick descriptors kinematics true motor) first later →
          0 ≤ (later.motors motor).preview.kp ∧
            (later.motors motor).preview.kp ≤ (first.motors motor).preview.kp ∧
            0 ≤ (later.motors motor).preview.kd ∧
            (later.motors motor).preview.kd ≤ (first.motors motor).preview.kd := by
  obtain ⟨_, steps⟩ := previewFinalMotorCommands_spec hasTarget returned
  have step := steps motor
  have installed : (installCommand (freshCommand (descriptors motor) kinematics before
      motor) (before.motors motor)).previewInitialized = true := by
    rcases initialized with refreshed | held
    · rw [← freshCommand_isSome (descriptors motor) kinematics before motor] at refreshed
      obtain ⟨command, fresh⟩ := Option.isSome_iff_exists.mp refreshed
      rw [fresh]
      rfl
    · cases freshCommand (descriptors motor) kinematics before motor with
      | none => exact held
      | some command => rfl
  have law := previewMotor_saturated accepted installed step
  refine ⟨law, ?_⟩
  intro first later ticks further
  have start : GainsBelow (after.motors motor).preview (after.motors motor) := by
    constructor
    · rw [previewMotor_previewInitialized step]
      exact installed
    · exact ⟨law.kp.1, le_rfl⟩
    · exact ⟨law.kd.1, le_rfl⟩
  obtain ⟨firstInitialized, ⟨firstKp, _⟩, ⟨firstKd, _⟩⟩ :=
    heldTicks_gainsBelow accepted start ticks
  obtain ⟨_, kp, kd⟩ := heldTicks_gainsBelow accepted
    ⟨firstInitialized, ⟨firstKp, le_rfl⟩, ⟨firstKd, le_rfl⟩⟩ further
  exact ⟨kp.1, kp.2, kd.1, kd.2⟩

end HeldTicks

/-- A held command that asks for 40 Nm where 28 Nm may be commissioned. -/
theorem previewFinalMotorCommands_saturated_held :
    let before : ControlState :=
      { motors := fun _ =>
          { lastPosition := -9 / 10
            preview := { position := 1 / 10, kp := 40 }
            previewInitialized := true }
        ipc := { hasTarget := true, motorPreviewCount := 1 } }
    ∃ after, previewFinalMotorCommands (fun _ => MotorDescriptor.testMotor)
        decoupledKinematics true before = (.done (), after) ∧
      (after.motors 0).preview.torqueAt (-9 / 10) 0 = 98 / 100 * 28 := by
  intro before
  have held : refreshes MotorDescriptor.testMotor before.ipc.motorPreviewCount = false := by
    decide +kernel
  have returns : ∀ motor, (previewMotor MotorDescriptor.testMotor true
      (freshCommand MotorDescriptor.testMotor decoupledKinematics before motor)
      (before.motors motor)).1.isDone = true := by
    intro motor
    rw [freshCommand_eq_none held]
    change (previewMotor MotorDescriptor.testMotor true none
      { lastPosition := -9 / 10
        preview := { position := 1 / 10, kp := 40 }
        previewInitialized := true }).1.isDone = true
    decide +kernel
  obtain ⟨after, returned⟩ := previewFinalMotorCommands_isDone returns
  refine ⟨after, returned, ?_⟩
  have law := (previewFinalMotorCommands_saturated 0 (by decide +kernel) rfl
    (.inr rfl) returned).1.torque
  rw [freshCommand_eq_none held] at law
  refine law.trans ?_
  have estimate : ((none : Option MitCommand).getD (before.motors 0).preview).torqueAt
      (before.motors 0).lastPosition (before.motors 0).lastVelocity = 40 := by
    decide +kernel
  rw [estimate]
  simp [previewTorqueLimit, MotorDescriptor.testMotor]
  norm_num

end SpriteRuntime
