import SpriteRuntime.Native.Ipc

/-!
# The motor preview

`preview_final_motor_commands` turns the latest joint target into one impedance
command for each motor.  Ankle motors get a pure feedforward torque on every
call, the other motors a new command on every tenth call; in between they hold
the old one.  On every call each command is saturated, if that is asked for, and
checked against the motor's limits.
-/

namespace SpriteRuntime

open Foundation

/-- What `preview_final_motor_commands` works on. -/
structure ControlState where
  motors : Index → MotorState
  ipc : IpcSocket

/-- Run a program on one motor of the bank. -/
def onMotor {α : Type} (index : Index) (program : Program MotorState String α) :
    Program ControlState String α :=
  Program.zoom (fun state => state.motors index)
    (fun motor state => { state with motors := Function.update state.motors index motor })
    program

/-- `std::clamp`. -/
def stdClamp (value low high : ℚ) : ℚ :=
  if value < low then low else if high < value then high else value

/-- `std::copysign`. -/
def copysign (magnitude sign : ℚ) : ℚ :=
  if sign < 0 then -|magnitude| else |magnitude|

section FreshCommand

variable (kinematics : NativeKinematics) (target : TargetPacket)
  (motors : Index → MotorState)

def desiredMotorPosition (motor : Index) : ℚ :=
  kinematics.motorOffset motor +
    ∑ joint, kinematics.jointToMotor motor joint * (target.positionRad joint).value

def desiredMotorVelocity (motor : Index) : ℚ :=
  ∑ joint, kinematics.jointToMotor motor joint * (target.velocityRadS joint).value

/-- The joint PD law at the measured joint state, before the effort limit. -/
def rawJointTorque (joint : Index) : ℚ :=
  (target.kp joint).value *
      ((target.positionRad joint).value - measuredJointPosition kinematics motors joint) +
    (target.kd joint).value *
      ((target.velocityRadS joint).value - measuredJointVelocity kinematics motors joint) +
    (target.feedforwardTorqueNm joint).value

def jointTorque (joint : Index) : ℚ :=
  stdClamp (rawJointTorque kinematics target motors joint)
    (-kinematics.jointEffortLimit joint) (kinematics.jointEffortLimit joint)

/-- The torque-only command of an ankle motor. -/
def ankleCommand (motor : Index) : MitCommand :=
  { position := (motors motor).lastPosition
    velocity := 0
    kp := 0
    kd := 0
    feedforwardTorque := ∑ joint,
      if kinematics.isAnkleJoint joint then
        kinematics.motorToJoint joint motor *
          jointTorque kinematics target motors joint
      else 0 }

/-- The off-diagonal entry of a joint gain seen from two motors. -/
def coupledGain (gain : Index → ℚ) (motor other : Index) : ℚ :=
  ∑ joint, gain joint * kinematics.motorToJoint joint motor *
    kinematics.motorToJoint joint other

/-- The command of every other motor: its own diagonal gains, with the coupling
to the other motors moved into the feedforward. -/
def coupledCommand (motor : Index) : MitCommand :=
  { position := desiredMotorPosition kinematics target motor
    velocity := desiredMotorVelocity kinematics target motor
    kp := coupledGain kinematics (fun joint => (target.kp joint).value) motor motor
    kd := coupledGain kinematics (fun joint => (target.kd joint).value) motor motor
    feedforwardTorque :=
      ∑ joint, kinematics.motorToJoint joint motor *
        (target.feedforwardTorqueNm joint).value +
      ∑ other, if other = motor then 0 else
        coupledGain kinematics (fun joint => (target.kp joint).value) motor other *
          (desiredMotorPosition kinematics target other - (motors other).lastPosition) +
        coupledGain kinematics (fun joint => (target.kd joint).value) motor other *
          (desiredMotorVelocity kinematics target other - (motors other).lastVelocity) }

end FreshCommand

/-- Without gains the command of a motor is to stay where it is. -/
theorem ankleCommand_rest {kinematics : NativeKinematics} {target : TargetPacket}
    {motors : Index → MotorState}
    (limited : ∀ joint, 0 ≤ kinematics.jointEffortLimit joint)
    (free : ∀ joint, (target.kp joint).value = 0 ∧ (target.kd joint).value = 0 ∧
      (target.feedforwardTorqueNm joint).value = 0) (motor : Index) :
    ankleCommand kinematics target motors motor =
      { position := (motors motor).lastPosition } := by
  have torque (joint : Index) : jointTorque kinematics target motors joint = 0 := by
    obtain ⟨kp, kd, feedforward⟩ := free joint
    simp [jointTorque, rawJointTorque, kp, kd, feedforward, stdClamp, not_lt.mpr (limited joint)]
  simp [ankleCommand, torque]


/-- Whether this call gives the motor a new command; `count` is the number of
completed calls. -/
def refreshes (descriptor : MotorDescriptor) (count : ℕ) : Bool :=
  descriptor.isAnkleMotor || count % 10 == 0

/-- The command that this call computes for a motor, if it computes one. -/
def freshCommand (descriptor : MotorDescriptor) (kinematics : NativeKinematics)
    (state : ControlState) (motor : Index) : Option MitCommand :=
  if descriptor.isAnkleMotor then
    some (ankleCommand kinematics state.ipc.latestTarget state.motors motor)
  else if state.ipc.motorPreviewCount % 10 = 0 then
    some (coupledCommand kinematics state.ipc.latestTarget state.motors motor)
  else none

/-- 98 % of the commissioning cap. -/
def previewTorqueLimit (descriptor : MotorDescriptor) : ℚ :=
  98 / 100 * descriptor.commissioningTorqueCap

def envelopeLower (descriptor : MotorDescriptor) : ℚ :=
  max (max descriptor.softPositionMin descriptor.hardPositionMin) descriptor.positionMin

def envelopeUpper (descriptor : MotorDescriptor) : ℚ :=
  min (min descriptor.softPositionMax descriptor.hardPositionMax) descriptor.positionMax

/-- The saturated form of a command whose torque estimate is over the limit: the
position is moved, or, where that would leave the envelope, the impedance is
scaled down; a command without stiffness gives up feedforward. -/
def saturatedCommand (descriptor : MotorDescriptor) (motor : MotorState) :
    MitCommand :=
  let command := motor.preview
  let estimatedTorque := command.torqueAt motor.lastPosition motor.lastVelocity
  let limitedTorque := copysign (previewTorqueLimit descriptor) estimatedTorque
  if tolerance < command.kp then
    let limitedPosition :=
      command.position + (limitedTorque - estimatedTorque) / command.kp
    if envelopeLower descriptor ≤ limitedPosition ∧
        limitedPosition ≤ envelopeUpper descriptor then
      { command with position := limitedPosition }
    else
      let scale := limitedTorque / estimatedTorque
      { command with
        kp := command.kp * scale
        kd := command.kd * scale
        feedforwardTorque := command.feedforwardTorque * scale }
  else
    { command with
      feedforwardTorque :=
        command.feedforwardTorque + (limitedTorque - estimatedTorque) }

/-- The final check of a preview command. -/
def PreviewInvariantFailure (descriptor : MotorDescriptor) (motor : MotorState) :
    Prop :=
  let command := motor.preview
  let estimatedTorque := command.torqueAt motor.lastPosition motor.lastVelocity
  let torqueLimit := min |descriptor.torqueMin| descriptor.torqueMax
  command.position < descriptor.softPositionMin - tolerance ∨
    descriptor.softPositionMax + tolerance < command.position ∨
    command.position < descriptor.hardPositionMin - tolerance ∨
    descriptor.hardPositionMax + tolerance < command.position ∨
    command.position < descriptor.positionMin - tolerance ∨
    descriptor.positionMax + tolerance < command.position ∨
    descriptor.deploymentVelocityMax + tolerance < |command.velocity| ∨
    command.kp < 0 ∨ 500 + tolerance < command.kp ∨
    command.kd < 0 ∨ 5 + tolerance < command.kd ∨
    torqueLimit + tolerance < |command.feedforwardTorque| ∨
    torqueLimit + tolerance < |estimatedTorque| ∨
    descriptor.mechanicalPeakTorque + tolerance < |estimatedTorque|

instance (descriptor : MotorDescriptor) (motor : MotorState) :
    Decidable (PreviewInvariantFailure descriptor motor) := by
  unfold PreviewInvariantFailure
  infer_instance

/-- The part of the loop body that saturates a command over the limit. -/
def saturatePreview (descriptor : MotorDescriptor) (saturate : Bool)
    (motor : MotorState) : MotorState :=
  let estimatedTorque :=
    motor.preview.torqueAt motor.lastPosition motor.lastVelocity
  let recorded : MotorState :=
    { motor with
      previewMaxima :=
        { motor.previewMaxima with
          maximumAbsUnsaturatedTorque :=
            max motor.previewMaxima.maximumAbsUnsaturatedTorque |estimatedTorque| } }
  if saturate ∧ previewTorqueLimit descriptor < |estimatedTorque| then
    { recorded with
      preview := saturatedCommand descriptor motor
      policyTorqueSaturationCount := motor.policyTorqueSaturationCount + 1 }
  else recorded

/-- The maxima that the end of the loop body records. -/
def recordPreviewMaxima (motor : MotorState) : MotorState :=
  let command := motor.preview
  let maxima := motor.previewMaxima
  { motor with
    previewMaxima :=
      { maxima with
        maximumAbsPosition := max maxima.maximumAbsPosition |command.position|
        maximumAbsVelocity := max maxima.maximumAbsVelocity |command.velocity|
        maximumKp := max maxima.maximumKp command.kp
        maximumKd := max maxima.maximumKd command.kd
        maximumAbsFeedforwardTorque :=
          max maxima.maximumAbsFeedforwardTorque |command.feedforwardTorque|
        maximumAbsEstimatedTorque := max maxima.maximumAbsEstimatedTorque
          |command.torqueAt motor.lastPosition motor.lastVelocity| } }

/-- Take over a newly computed command. -/
def installCommand (fresh : Option MitCommand) (motor : MotorState) : MotorState :=
  match fresh with
  | some command => { motor with preview := command, previewInitialized := true }
  | none => motor

/-- The loop body of `preview_final_motor_commands` for one motor. -/
def previewMotor (descriptor : MotorDescriptor) (saturate : Bool)
    (fresh : Option MitCommand) : Program MotorState String Unit := do
  Program.modify (installCommand fresh)
  let motor ← Program.get
  Program.runIf (motor.previewInitialized = true) do
    Program.modify (saturatePreview descriptor saturate)
    let saturated ← Program.get
    Program.throwIf (PreviewInvariantFailure descriptor saturated)
      ("final motor command preview invariant failed for " ++ descriptor.name)
    Program.modify recordPreviewMaxima

/-- `preview_final_motor_commands`.  The loop changes no measurement, so each new
command is computed from the state at the start of the call. -/
def previewFinalMotorCommands (descriptors : Index → MotorDescriptor)
    (kinematics : NativeKinematics) (saturateToCommissioningCap : Bool) :
    Program ControlState String Unit := do
  let start ← Program.get
  Program.runIf (start.ipc.hasTarget = true) do
    Program.forEach (List.finRange kJointCount) fun index =>
      onMotor index (previewMotor (descriptors index) saturateToCommissioningCap
        (freshCommand (descriptors index) kinematics start index))
    Program.modify fun state =>
      { state with
        ipc := { state.ipc with motorPreviewCount := state.ipc.motorPreviewCount + 1 } }

/-! ## What one call does -/

theorem runIf_eq_done {σ : Type} {condition : Prop} [Decidable condition]
    {body : Program σ String Unit} {state final : σ}
    (returned : Program.runIf condition body state = (.done (), final)) :
    condition ∧ body state = (.done (), final) ∨ ¬condition ∧ final = state := by
  unfold Program.runIf at returned
  split at returned
  next holds => exact .inl ⟨holds, returned⟩
  next fails =>
      cases returned
      exact .inr ⟨fails, rfl⟩

theorem onMotor_eq_done {index : Index} {program : Program MotorState String Unit}
    {before after : ControlState}
    (returned : onMotor index program before = (.done (), after)) :
    program (before.motors index) = (.done (), after.motors index) ∧
      after.ipc = before.ipc ∧
      ∀ other, other ≠ index → after.motors other = before.motors other := by
  unfold onMotor Program.zoom at returned
  rcases result : program (before.motors index) with ⟨outcome, motor⟩
  rw [result] at returned
  cases returned
  refine ⟨by simp, rfl, ?_⟩
  intro other different
  simp [different]

/-- A loop over distinct motors runs each body on its own motor. -/
theorem forEach_onMotor_spec {indices : List Index} (distinct : indices.Nodup)
    {step : Index → Program MotorState String Unit} {before after : ControlState}
    (returned : Program.forEach indices (fun index => onMotor index (step index))
      before = (.done (), after)) :
    after.ipc = before.ipc ∧
      (∀ index ∈ indices,
        step index (before.motors index) = (.done (), after.motors index)) ∧
      ∀ index, index ∉ indices → after.motors index = before.motors index := by
  induction indices generalizing before with
  | nil =>
      cases returned
      simp
  | cons head rest induction =>
      obtain ⟨headFresh, restDistinct⟩ := List.nodup_cons.mp distinct
      obtain ⟨_, middle, first, remaining⟩ := Program.bind_eq_done returned
      obtain ⟨headStep, headIpc, headOthers⟩ := onMotor_eq_done first
      obtain ⟨restIpc, restSteps, restOthers⟩ := induction restDistinct remaining
      refine ⟨restIpc.trans headIpc, ?_, ?_⟩
      · intro index member
        rcases List.mem_cons.mp member with same | later
        · subst same
          rw [restOthers index headFresh]
          exact headStep
        · have different : index ≠ head := fun same => headFresh (same ▸ later)
          rw [← headOthers index different]
          exact restSteps index later
      · intro index absent
        rw [List.mem_cons, not_or] at absent
        rw [restOthers index absent.2, headOthers index absent.1]

/-- Without a target a call does nothing. -/
theorem previewFinalMotorCommands_idle {descriptors : Index → MotorDescriptor}
    {kinematics : NativeKinematics} {saturate : Bool} {state : ControlState}
    (noTarget : ¬state.ipc.hasTarget = true) :
    previewFinalMotorCommands descriptors kinematics saturate state =
      (.done (), state) := by
  refine (Program.bind_apply_done (Program.get_apply state) _).trans ?_
  simp [Program.runIf, noTarget]

/-- A call that returns counts itself and runs the loop body on every motor. -/
theorem previewFinalMotorCommands_spec {descriptors : Index → MotorDescriptor}
    {kinematics : NativeKinematics} {saturate : Bool} {before after : ControlState}
    (hasTarget : before.ipc.hasTarget = true)
    (returned : previewFinalMotorCommands descriptors kinematics saturate before =
      (.done (), after)) :
    after.ipc =
        { before.ipc with motorPreviewCount := before.ipc.motorPreviewCount + 1 } ∧
      ∀ index, previewMotor (descriptors index) saturate
          (freshCommand (descriptors index) kinematics before index)
          (before.motors index) = (.done (), after.motors index) := by
  obtain ⟨_, _, read, guarded⟩ := Program.bind_eq_done returned
  cases read
  rcases runIf_eq_done guarded with ⟨_, body⟩ | ⟨absent, _⟩
  · obtain ⟨_, middle, loop, counted⟩ := Program.bind_eq_done body
    cases counted
    obtain ⟨sameIpc, steps, _⟩ :=
      forEach_onMotor_spec (List.nodup_finRange kJointCount) loop
    exact ⟨by simp [sameIpc], fun index => steps index (List.mem_finRange index)⟩
  · exact absurd hasTarget absent

/-- The loop body leaves a motor without a command alone, and otherwise ends in a
command that has passed the final check. -/
theorem previewMotor_spec {descriptor : MotorDescriptor} {saturate : Bool}
    {fresh : Option MitCommand} {before after : MotorState}
    (returned : previewMotor descriptor saturate fresh before = (.done (), after)) :
    let installed := installCommand fresh before
    installed.previewInitialized = false ∧ after = installed ∨
      installed.previewInitialized = true ∧
        ¬PreviewInvariantFailure descriptor
          (saturatePreview descriptor saturate installed) ∧
        after = recordPreviewMaxima (saturatePreview descriptor saturate installed) := by
  obtain ⟨_, _, install, afterInstall⟩ := Program.bind_eq_done returned
  cases install
  obtain ⟨_, _, read, guarded⟩ := Program.bind_eq_done afterInstall
  cases read
  rcases runIf_eq_done guarded with ⟨initialized, body⟩ | ⟨uninitialized, same⟩
  · obtain ⟨_, _, saturated, afterSaturated⟩ := Program.bind_eq_done body
    cases saturated
    obtain ⟨_, _, again, afterAgain⟩ := Program.bind_eq_done afterSaturated
    cases again
    obtain ⟨_, _, checked, recorded⟩ := Program.bind_eq_done afterAgain
    obtain ⟨rfl, passed⟩ := Program.throwIf_eq_done checked
    cases recorded
    exact .inr ⟨initialized, passed, rfl⟩
  · exact .inl ⟨by simpa using uninitialized, same⟩

@[simp] theorem recordPreviewMaxima_preview (motor : MotorState) :
    (recordPreviewMaxima motor).preview = motor.preview := by
  simp [recordPreviewMaxima]

@[simp] theorem recordPreviewMaxima_previewInitialized (motor : MotorState) :
    (recordPreviewMaxima motor).previewInitialized = motor.previewInitialized := by
  simp [recordPreviewMaxima]

@[simp] theorem recordPreviewMaxima_lastPosition (motor : MotorState) :
    (recordPreviewMaxima motor).lastPosition = motor.lastPosition := by
  simp [recordPreviewMaxima]

@[simp] theorem recordPreviewMaxima_lastVelocity (motor : MotorState) :
    (recordPreviewMaxima motor).lastVelocity = motor.lastVelocity := by
  simp [recordPreviewMaxima]

@[simp] theorem recordPreviewMaxima_saturationCount (motor : MotorState) :
    (recordPreviewMaxima motor).policyTorqueSaturationCount =
      motor.policyTorqueSaturationCount := by
  simp [recordPreviewMaxima]

@[simp] theorem installCommand_lastPosition (fresh : Option MitCommand)
    (motor : MotorState) :
    (installCommand fresh motor).lastPosition = motor.lastPosition := by
  cases fresh <;> rfl

@[simp] theorem installCommand_lastVelocity (fresh : Option MitCommand)
    (motor : MotorState) :
    (installCommand fresh motor).lastVelocity = motor.lastVelocity := by
  cases fresh <;> rfl

@[simp] theorem installCommand_saturationCount (fresh : Option MitCommand)
    (motor : MotorState) :
    (installCommand fresh motor).policyTorqueSaturationCount =
      motor.policyTorqueSaturationCount := by
  cases fresh <;> rfl

@[simp] theorem installCommand_preview (fresh : Option MitCommand)
    (motor : MotorState) :
    (installCommand fresh motor).preview = fresh.getD motor.preview := by
  cases fresh <;> rfl

/-- Saturation replaces a command over the limit and counts that it did. -/
theorem saturatePreview_cases (descriptor : MotorDescriptor) (saturate : Bool)
    (motor : MotorState) :
    let saturated := saturatePreview descriptor saturate motor
    let estimatedTorque :=
      motor.preview.torqueAt motor.lastPosition motor.lastVelocity
    saturated.lastPosition = motor.lastPosition ∧
      saturated.lastVelocity = motor.lastVelocity ∧
      saturated.previewInitialized = motor.previewInitialized ∧
      ((saturate = true ∧ previewTorqueLimit descriptor < |estimatedTorque|) ∧
          saturated.preview = saturatedCommand descriptor motor ∧
          saturated.policyTorqueSaturationCount =
            motor.policyTorqueSaturationCount + 1 ∨
        ¬(saturate = true ∧ previewTorqueLimit descriptor < |estimatedTorque|) ∧
          saturated.preview = motor.preview ∧
          saturated.policyTorqueSaturationCount =
            motor.policyTorqueSaturationCount) := by
  unfold saturatePreview
  dsimp only
  split
  next exceeded => exact ⟨rfl, rfl, rfl, .inl ⟨exceeded, rfl, rfl⟩⟩
  next within => exact ⟨rfl, rfl, rfl, .inr ⟨within, rfl, rfl⟩⟩

theorem freshCommand_isSome (descriptor : MotorDescriptor)
    (kinematics : NativeKinematics) (state : ControlState) (motor : Index) :
    (freshCommand descriptor kinematics state motor).isSome =
      refreshes descriptor state.ipc.motorPreviewCount := by
  unfold freshCommand refreshes
  by_cases ankle : descriptor.isAnkleMotor = true
  · simp [ankle]
  · by_cases phase : state.ipc.motorPreviewCount % 10 = 0
    · simp [ankle, phase]
    · simp [ankle, phase]

/-- A further call between two refreshes of a motor: since the last call anything
may have changed except the command that the motor holds. -/
def HeldTick (descriptors : Index → MotorDescriptor) (kinematics : NativeKinematics)
    (saturate : Bool) (motor : Index) (before after : ControlState) : Prop :=
  ∃ measured : ControlState,
    (measured.motors motor).preview = (before.motors motor).preview ∧
      (measured.motors motor).previewInitialized =
        (before.motors motor).previewInitialized ∧
      refreshes (descriptors motor) measured.ipc.motorPreviewCount = false ∧
      previewFinalMotorCommands descriptors kinematics saturate measured =
        (.done (), after)

theorem freshCommand_eq_none {descriptor : MotorDescriptor}
    {kinematics : NativeKinematics} {state : ControlState} {motor : Index}
    (held : refreshes descriptor state.ipc.motorPreviewCount = false) :
    freshCommand descriptor kinematics state motor = none := by
  rw [← Option.isNone_iff_eq_none, ← Option.not_isSome, freshCommand_isSome, held]
  rfl

theorem previewMotor_previewInitialized {descriptor : MotorDescriptor}
    {saturate : Bool} {fresh : Option MitCommand} {before after : MotorState}
    (returned : previewMotor descriptor saturate fresh before = (.done (), after)) :
    after.previewInitialized = (installCommand fresh before).previewInitialized := by
  rcases previewMotor_spec returned with ⟨_, same⟩ | ⟨_, _, recorded⟩
  · rw [same]
  · obtain ⟨_, _, kept, _⟩ :=
      saturatePreview_cases descriptor saturate (installCommand fresh before)
    rw [recorded, recordPreviewMaxima_previewInitialized, kept]

/-- A motor that the call did not saturate holds its new command, or else its old one. -/
theorem previewFinalMotorCommands_preview
    {descriptors : Index → MotorDescriptor} {kinematics : NativeKinematics}
    {saturate : Bool} {before after : ControlState}
    (hasTarget : before.ipc.hasTarget = true)
    (returned : previewFinalMotorCommands descriptors kinematics saturate before =
      (.done (), after)) {motor : Index}
    (unsaturated : (after.motors motor).policyTorqueSaturationCount =
      (before.motors motor).policyTorqueSaturationCount) :
    (after.motors motor).preview =
      (freshCommand (descriptors motor) kinematics before motor).getD
        (before.motors motor).preview := by
  obtain ⟨_, steps⟩ := previewFinalMotorCommands_spec hasTarget returned
  rw [← installCommand_preview]
  rcases previewMotor_spec (steps motor) with ⟨_, same⟩ | ⟨_, _, recorded⟩
  · rw [same]
  · obtain ⟨_, _, _, limits⟩ := saturatePreview_cases (descriptors motor) saturate
      (installCommand (freshCommand (descriptors motor) kinematics before motor)
        (before.motors motor))
    rw [recorded] at unsaturated ⊢
    rw [recordPreviewMaxima_saturationCount] at unsaturated
    rcases limits with ⟨_, _, counted⟩ | ⟨_, kept, _⟩
    · rw [counted, installCommand_saturationCount] at unsaturated
      exact absurd unsaturated (Nat.succ_ne_self _)
    · rw [recordPreviewMaxima_preview, kept]

/-- A motor that the call refreshed and did not saturate holds its new command. -/
theorem previewFinalMotorCommands_unsaturated
    {descriptors : Index → MotorDescriptor} {kinematics : NativeKinematics}
    {saturate : Bool} {before after : ControlState}
    (hasTarget : before.ipc.hasTarget = true)
    (returned : previewFinalMotorCommands descriptors kinematics saturate before =
      (.done (), after)) {motor : Index}
    (refreshed :
      refreshes (descriptors motor) before.ipc.motorPreviewCount = true)
    (unsaturated : (after.motors motor).policyTorqueSaturationCount =
      (before.motors motor).policyTorqueSaturationCount) :
    freshCommand (descriptors motor) kinematics before motor =
      some (after.motors motor).preview := by
  rw [← freshCommand_isSome (descriptors motor) kinematics before motor] at refreshed
  obtain ⟨command, fresh⟩ := Option.isSome_iff_exists.mp refreshed
  rw [previewFinalMotorCommands_preview hasTarget returned unsaturated, fresh]
  rfl

theorem previewFinalMotorCommands_saturationCount
    {descriptors : Index → MotorDescriptor} {kinematics : NativeKinematics}
    {before after : ControlState} (hasTarget : before.ipc.hasTarget = true)
    (returned : previewFinalMotorCommands descriptors kinematics false before =
      (.done (), after)) (motor : Index) :
    (after.motors motor).policyTorqueSaturationCount =
      (before.motors motor).policyTorqueSaturationCount := by
  obtain ⟨_, steps⟩ := previewFinalMotorCommands_spec hasTarget returned
  rcases previewMotor_spec (steps motor) with ⟨_, same⟩ | ⟨_, _, recorded⟩
  · rw [same, installCommand_saturationCount]
  · rw [recorded, recordPreviewMaxima_saturationCount]
    simp [saturatePreview]

/-! ## When a call returns -/

theorem onMotor_isDone {index : Index} {program : Program MotorState String Unit}
    {before : ControlState}
    (returns : (program (before.motors index)).1.isDone = true) :
    ∃ after, onMotor index program before = (.done (), after) ∧
      ∀ other, other ≠ index → after.motors other = before.motors other := by
  obtain ⟨_, done⟩ := Outcome.exists_of_isDone returns
  refine ⟨_, Prod.ext (by simpa [onMotor, Program.zoom] using done) rfl, ?_⟩
  intro other different
  simp [onMotor, Program.zoom, different]

/-- A loop over distinct motors returns when every body returns on its own
motor. -/
theorem forEach_onMotor_isDone {indices : List Index} (distinct : indices.Nodup)
    {step : Index → Program MotorState String Unit} {before : ControlState}
    (returns : ∀ index ∈ indices, (step index (before.motors index)).1.isDone = true) :
    ∃ after, Program.forEach indices (fun index => onMotor index (step index)) before =
      (.done (), after) := by
  induction indices generalizing before with
  | nil => exact ⟨before, rfl⟩
  | cons head rest induction =>
      obtain ⟨headFresh, restDistinct⟩ := List.nodup_cons.mp distinct
      obtain ⟨middle, first, others⟩ :=
        onMotor_isDone (returns head List.mem_cons_self)
      have remaining : ∀ index ∈ rest,
          (step index (middle.motors index)).1.isDone = true := by
        intro index member
        rw [others index fun same => headFresh (same ▸ member)]
        exact returns index (List.mem_cons_of_mem head member)
      obtain ⟨after, loop⟩ := induction restDistinct remaining
      exact ⟨after, (Program.bind_apply_done first _).trans loop⟩

/-- The loop body returns when the command passes the final check. -/
theorem previewMotor_isDone {descriptor : MotorDescriptor} {saturate : Bool}
    {fresh : Option MitCommand} {motor : MotorState}
    (passes : ¬PreviewInvariantFailure descriptor
      (saturatePreview descriptor saturate (installCommand fresh motor))) :
    (previewMotor descriptor saturate fresh motor).1.isDone = true := by
  by_cases initialized : (installCommand fresh motor).previewInitialized = true
  · simp [previewMotor, Program.bind_apply, Program.runIf, Program.throwIf, initialized, passes,
      Outcome.isDone]
  · simp [previewMotor, Program.bind_apply, Program.runIf, initialized, Outcome.isDone]

theorem previewFinalMotorCommands_isDone {descriptors : Index → MotorDescriptor}
    {kinematics : NativeKinematics} {saturate : Bool} {before : ControlState}
    (returns : ∀ index, (previewMotor (descriptors index) saturate
      (freshCommand (descriptors index) kinematics before index)
      (before.motors index)).1.isDone = true) :
    ∃ after, previewFinalMotorCommands descriptors kinematics saturate before =
      (.done (), after) := by
  by_cases hasTarget : before.ipc.hasTarget = true
  · obtain ⟨after, loop⟩ := forEach_onMotor_isDone
      (List.nodup_finRange kJointCount) fun index _ => returns index
    let counted : ControlState :=
      { after with
        ipc := { after.ipc with motorPreviewCount := after.ipc.motorPreviewCount + 1 } }
    refine ⟨counted, (Program.bind_apply_done (Program.get_apply before) _).trans ?_⟩
    simp only [Program.runIf, hasTarget, if_true]
    exact (Program.bind_apply_done loop _).trans rfl
  · exact ⟨before, previewFinalMotorCommands_idle hasTarget⟩

end SpriteRuntime
