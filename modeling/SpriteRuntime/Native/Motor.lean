import Mathlib.Data.Rat.Floor
import Mathlib.Logic.Function.Basic
import Mathlib.Data.List.Infix
import Mathlib.Data.List.OfFn
import Mathlib.Tactic.NormNum
import SpriteRuntime.Foundation.Numerals
import SpriteRuntime.Foundation.Program

/-!
# Motor descriptors and motor state

`load_motors` reads one row for each of the 31 motors, checks every row and
assigns each motor its slot in the 40-slot CAN schedule.  What it reads never
changes afterwards, so it is kept apart, as `MotorDescriptor`, from what a run
changes, `MotorState`.  Numbers are exact: a `double` that is finite is the
rational number it stands for.
-/

namespace SpriteRuntime

open Foundation

def kJointCount : ℕ := 31

instance : NeZero kJointCount := ⟨by decide⟩

/-- The source indexes joints and motors alike from 0 to 30. -/
abbrev Index := Fin kJointCount

/-- `static_cast<int>` of a floating-point number drops the fraction. -/
def truncateToInt (value : ℚ) : ℤ :=
  if 0 ≤ value then ⌊value⌋ else ⌈value⌉

/-- The columns of one row of the motor file, read as numbers. -/
structure MotorRow where
  motorName : String
  interface : String
  canId : ℚ
  masterId : ℚ
  positionMinRad : ℚ
  positionMaxRad : ℚ
  velocityMinRadS : ℚ
  velocityMaxRadS : ℚ
  torqueMinNm : ℚ
  torqueMaxNm : ℚ
  softPositionMinRad : ℚ
  softPositionMaxRad : ℚ
  hardPositionMinRad : ℚ
  hardPositionMaxRad : ℚ
  deploymentVelocityMaxRadS : ℚ
  ratedTorqueNm : ℚ
  mechanicalPeakTorqueNm : ℚ
  commissioningTorqueCapNm : ℚ
  feedbackTorqueCapNm : ℚ
  mosTemperatureLimitC : ℚ
  rotorTemperatureLimitC : ℚ
  filteredMosTemperatureLimitC : ℚ
  filteredRotorTemperatureLimitC : ℚ
  temperatureFilterTimeConstantS : ℚ
  pollRateHz : ℚ

/-- The part of `Motor` that `load_motors` fills and nothing changes later. -/
structure MotorDescriptor where
  name : String
  interface : String
  canId : ℤ
  masterId : ℤ
  positionMin : ℚ
  positionMax : ℚ
  velocityMin : ℚ
  velocityMax : ℚ
  torqueMin : ℚ
  torqueMax : ℚ
  softPositionMin : ℚ
  softPositionMax : ℚ
  hardPositionMin : ℚ
  hardPositionMax : ℚ
  deploymentVelocityMax : ℚ
  ratedTorque : ℚ
  mechanicalPeakTorque : ℚ
  commissioningTorqueCap : ℚ
  feedbackTorqueCap : ℚ
  mosTemperatureLimit : ℚ
  rotorTemperatureLimit : ℚ
  filteredMosTemperatureLimit : ℚ
  filteredRotorTemperatureLimit : ℚ
  temperatureFilterTimeConstantS : ℚ
  pollRateHz : ℤ
  pollPhase : ℕ := 0
  deriving DecidableEq

namespace MotorDescriptor

/-- The row check of `load_motors`, in the order of the source. -/
def EndpointRateFailure (motor : MotorDescriptor) : Prop :=
  motor.canId < 1 ∨ 8 < motor.canId ∨ motor.masterId ≠ motor.canId + 0x10 ∨
    motor.softPositionMin ≤ motor.positionMin ∨
    motor.softPositionMax ≤ motor.softPositionMin ∨
    motor.positionMax ≤ motor.softPositionMax ∨
    motor.softPositionMin ≤ motor.hardPositionMin ∨
    motor.hardPositionMax ≤ motor.softPositionMax ∨
    motor.deploymentVelocityMax ≤ 0 ∨
    motor.velocityMax < motor.deploymentVelocityMax ∨
    motor.ratedTorque ≤ 0 ∨
    motor.mechanicalPeakTorque < motor.ratedTorque ∨
    motor.mechanicalPeakTorque ≤ 0 ∨
    motor.commissioningTorqueCap ≤ 0 ∨
    motor.mechanicalPeakTorque < motor.commissioningTorqueCap ∨
    motor.feedbackTorqueCap ≤ 0 ∨
    motor.mechanicalPeakTorque < motor.feedbackTorqueCap ∨
    motor.mosTemperatureLimit ≤ 0 ∨ motor.rotorTemperatureLimit ≤ 0 ∨
    motor.filteredMosTemperatureLimit ≤ 0 ∨
    motor.mosTemperatureLimit ≤ motor.filteredMosTemperatureLimit ∨
    motor.filteredRotorTemperatureLimit ≤ 0 ∨
    motor.rotorTemperatureLimit ≤ motor.filteredRotorTemperatureLimit ∨
    motor.temperatureFilterTimeConstantS ≤ 0 ∨
    (motor.pollRateHz ≠ 50 ∧ motor.pollRateHz ≠ 500)

instance (motor : MotorDescriptor) : Decidable motor.EndpointRateFailure := by
  unfold EndpointRateFailure
  infer_instance

/-- A descriptor that passes the row check. -/
def Accepted (motor : MotorDescriptor) : Prop := ¬motor.EndpointRateFailure

instance (motor : MotorDescriptor) : Decidable motor.Accepted :=
  inferInstanceAs (Decidable (¬_))

section Accepted

variable {motor : MotorDescriptor}

theorem Accepted.commissioningTorqueCap_pos (accepted : motor.Accepted) :
    0 < motor.commissioningTorqueCap := by
  simp only [Accepted, EndpointRateFailure, not_or, not_le, not_lt] at accepted
  tauto

theorem Accepted.positionMin_lt_positionMax (accepted : motor.Accepted) :
    motor.positionMin < motor.positionMax := by
  simp only [Accepted, EndpointRateFailure, not_or, not_le, not_lt] at accepted
  obtain ⟨_, _, _, lower, middle, upper, _⟩ := accepted
  exact lower.trans (middle.trans upper)

end Accepted

/-- `motor.name.find("ankle_motor") != npos`. -/
def isAnkleMotor (motor : MotorDescriptor) : Bool :=
  decide ("ankle_motor".toList <:+: motor.name.toList)

/-- Whether the schedule polls or commands the motor in this slot. -/
def due (motor : MotorDescriptor) (slot : ℕ) : Bool :=
  if motor.pollRateHz = 500 then slot % 4 == motor.pollPhase
  else slot % 40 == motor.pollPhase

/-- The motor that the bounded-preview tests of the source build. -/
def testMotor : MotorDescriptor :=
  { name := "test_motor_0"
    interface := "can0"
    canId := 1
    masterId := 0x11
    positionMin := -25 / 2
    positionMax := 25 / 2
    velocityMin := -20
    velocityMax := 20
    torqueMin := -28
    torqueMax := 28
    softPositionMin := -1
    softPositionMax := 1
    hardPositionMin := -6 / 5
    hardPositionMax := 6 / 5
    deploymentVelocityMax := 10
    ratedTorque := 20
    mechanicalPeakTorque := 40
    commissioningTorqueCap := 28
    feedbackTorqueCap := 40
    mosTemperatureLimit := 100
    rotorTemperatureLimit := 100
    filteredMosTemperatureLimit := 90
    filteredRotorTemperatureLimit := 90
    temperatureFilterTimeConstantS := 2
    pollRateHz := 50 }

example : testMotor.Accepted := by decide +kernel

end MotorDescriptor

/-- One row of `load_motors`: the integer columns are truncated, then the row
is checked. -/
def loadMotor (row : MotorRow) : Except String MotorDescriptor :=
  let motor : MotorDescriptor :=
    { name := row.motorName
      interface := row.interface
      canId := truncateToInt row.canId
      masterId := truncateToInt row.masterId
      positionMin := row.positionMinRad
      positionMax := row.positionMaxRad
      velocityMin := row.velocityMinRadS
      velocityMax := row.velocityMaxRadS
      torqueMin := row.torqueMinNm
      torqueMax := row.torqueMaxNm
      softPositionMin := row.softPositionMinRad
      softPositionMax := row.softPositionMaxRad
      hardPositionMin := row.hardPositionMinRad
      hardPositionMax := row.hardPositionMaxRad
      deploymentVelocityMax := row.deploymentVelocityMaxRadS
      ratedTorque := row.ratedTorqueNm
      mechanicalPeakTorque := row.mechanicalPeakTorqueNm
      commissioningTorqueCap := row.commissioningTorqueCapNm
      feedbackTorqueCap := row.feedbackTorqueCapNm
      mosTemperatureLimit := row.mosTemperatureLimitC
      rotorTemperatureLimit := row.rotorTemperatureLimitC
      filteredMosTemperatureLimit := row.filteredMosTemperatureLimitC
      filteredRotorTemperatureLimit := row.filteredRotorTemperatureLimitC
      temperatureFilterTimeConstantS := row.temperatureFilterTimeConstantS
      pollRateHz := truncateToInt row.pollRateHz }
  if motor.EndpointRateFailure then
    .error "native motor config endpoint/rate invariant failed"
  else .ok motor

def loadMotorRows : List MotorRow → Except String (List MotorDescriptor)
  | [] => .ok []
  | row :: rows => do
      let motor ← loadMotor row
      let motors ← loadMotorRows rows
      return motor :: motors

/-- The last loop of `load_motors`.  The two maps count, for each interface, the
500 Hz and the other motors that already have a phase. -/
def assignPhases : List MotorDescriptor → (String → ℕ) → (String → ℕ) →
    Except String (List MotorDescriptor)
  | [], _, _ => .ok []
  | motor :: motors, nextAnklePhase, nextOtherPhase =>
      if motor.pollRateHz = 500 then
        let phase := 2 * nextAnklePhase motor.interface
        if 4 ≤ phase then
          .error "more than two 500 Hz motors configured on one CAN bus"
        else do
          let rest ← assignPhases motors
            (Function.update nextAnklePhase motor.interface
              (nextAnklePhase motor.interface + 1)) nextOtherPhase
          return { motor with pollPhase := phase } :: rest
      else
        let phase := 1 + 2 * nextOtherPhase motor.interface
        if 40 ≤ phase then
          .error "too many 50 Hz motors for one 40-slot CAN schedule"
        else do
          let rest ← assignPhases motors nextAnklePhase
            (Function.update nextOtherPhase motor.interface
              (nextOtherPhase motor.interface + 1))
          return { motor with pollPhase := phase } :: rest

/-- `load_motors` on the rows of the file, as the source has it. -/
def loadMotorList (rows : List MotorRow) : Except String (List MotorDescriptor) := do
  let motors ← loadMotorRows rows
  if motors.length ≠ kJointCount then
    .error "native motor config must contain 31 motors"
  else assignPhases motors (fun _ => 0) (fun _ => 0)

/-- The motors that `load_motors` returns: 31 of them, each past the row check
and each in the slot that the phase assignment gives it. -/
structure LoadedMotors where
  descriptor : Index → MotorDescriptor
  accepted : ∀ index, (descriptor index).Accepted
  phased : assignPhases (List.ofFn descriptor) (fun _ => 0) (fun _ => 0) =
    .ok (List.ofFn descriptor)

/-- 31 copies of the test motor on the four interfaces of the robot. -/
def benchMotors : LoadedMotors where
  descriptor index :=
    { MotorDescriptor.testMotor with
      interface := #["can0", "can1", "can2", "can3"].getD (index.val / 8) ""
      canId := index.val % 8 + 1
      masterId := index.val % 8 + 0x11
      pollPhase := 1 + 2 * (index.val % 8) }
  accepted := by decide +kernel
  phased := by rfl

theorem loadMotor_accepted {row : MotorRow} {motor : MotorDescriptor}
    (loaded : loadMotor row = .ok motor) : motor.Accepted := by
  unfold loadMotor at loaded
  dsimp only at loaded
  split at loaded
  · cases loaded
  next passed =>
      cases loaded
      exact passed

theorem loadMotorRows_accepted {rows : List MotorRow}
    {motors : List MotorDescriptor} (loaded : loadMotorRows rows = .ok motors) :
    ∀ motor ∈ motors, motor.Accepted := by
  induction rows generalizing motors with
  | nil =>
      cases loaded
      simp
  | cons row rows induction =>
      obtain ⟨motor, first, remaining⟩ := except_bind_eq_ok.mp loaded
      obtain ⟨others, rest, same⟩ := except_bind_eq_ok.mp remaining
      cases same
      intro other member
      rcases List.mem_cons.mp member with head | tail
      · exact head ▸ loadMotor_accepted first
      · exact induction rest other tail

private theorem accepted_cons_phase {motor : MotorDescriptor}
    {motors others : List MotorDescriptor} (phase : ℕ)
    (keeps : (∀ entry ∈ motors, entry.Accepted) → ∀ entry ∈ others, entry.Accepted)
    (all : ∀ entry ∈ motor :: motors, entry.Accepted) :
    ∀ entry ∈ { motor with pollPhase := phase } :: others, entry.Accepted := by
  intro entry member
  rcases List.mem_cons.mp member with head | tail
  · subst head
    exact all motor (by simp)
  · exact keeps (fun other inRest => all other (by simp [inRest])) entry tail

/-- The phase assignment changes phases only, and assigning again changes
nothing. -/
theorem assignPhases_spec {motors phased : List MotorDescriptor}
    {nextAnklePhase nextOtherPhase : String → ℕ}
    (assigned : assignPhases motors nextAnklePhase nextOtherPhase = .ok phased) :
    phased.length = motors.length ∧
      ((∀ motor ∈ motors, motor.Accepted) → ∀ motor ∈ phased, motor.Accepted) ∧
      assignPhases phased nextAnklePhase nextOtherPhase = .ok phased := by
  induction motors generalizing phased nextAnklePhase nextOtherPhase with
  | nil =>
      cases assigned
      simp [assignPhases]
  | cons motor motors induction =>
      simp only [assignPhases] at assigned
      split at assigned
      next ankle =>
          split at assigned
          · cases assigned
          next fits =>
              obtain ⟨others, rest, same⟩ := except_bind_eq_ok.mp assigned
              cases same
              obtain ⟨sameLength, keeps, again⟩ := induction rest
              refine ⟨by simp [sameLength], accepted_cons_phase _ keeps, ?_⟩
              simp [assignPhases, ankle, fits, again, bind, Except.bind,
                pure, Except.pure]
      next other =>
          split at assigned
          · cases assigned
          next fits =>
              obtain ⟨others, rest, same⟩ := except_bind_eq_ok.mp assigned
              cases same
              obtain ⟨sameLength, keeps, again⟩ := induction rest
              refine ⟨by simp [sameLength], accepted_cons_phase _ keeps, ?_⟩
              simp [assignPhases, other, fits, again, bind, Except.bind,
                pure, Except.pure]

theorem loadMotorList_spec {rows : List MotorRow} {motors : List MotorDescriptor}
    (loaded : loadMotorList rows = .ok motors) :
    motors.length = kJointCount ∧ (∀ motor ∈ motors, motor.Accepted) ∧
      assignPhases motors (fun _ => 0) (fun _ => 0) = .ok motors := by
  obtain ⟨raw, read, checked⟩ := except_bind_eq_ok.mp loaded
  split at checked
  · cases checked
  next counted =>
      obtain ⟨sameLength, keeps, again⟩ := assignPhases_spec checked
      exact ⟨sameLength.trans (not_not.mp counted),
        keeps (loadMotorRows_accepted read), again⟩

/-- `load_motors`, returning its motors together with what it has checked. -/
def loadMotors (rows : List MotorRow) : Except String LoadedMotors :=
  match loaded : loadMotorList rows with
  | .error error => .error error
  | .ok motors =>
      have spec := loadMotorList_spec loaded
      have entries : List.ofFn (fun index : Index =>
          motors.get (index.cast spec.1.symm)) = motors := by
        apply List.ext_get
        · simp [spec.1]
        · intro position _ _
          simp
      .ok
        { descriptor := fun index => motors.get (index.cast spec.1.symm)
          accepted := fun index => spec.2.1 _ (List.get_mem _ _)
          phased := by rw [entries]; exact spec.2.2 }

/-- An impedance command as the drive receives it. -/
structure MitCommand where
  position : ℚ := 0
  velocity : ℚ := 0
  kp : ℚ := 0
  kd : ℚ := 0
  feedforwardTorque : ℚ := 0
  deriving DecidableEq

/-- The torque that the drive produces for a command at a measured state. -/
def MitCommand.torqueAt (command : MitCommand) (position velocity : ℚ) : ℚ :=
  command.kp * (command.position - position) +
    command.kd * (command.velocity - velocity) + command.feedforwardTorque

/-- `maximum_mos_temperature` to `temperature_filter_initialized`. -/
structure TemperatureMonitor where
  maximumMosTemperature : ℕ := 0
  maximumRotorTemperature : ℕ := 0
  filteredMosTemperature : ℚ := 0
  filteredRotorTemperature : ℚ := 0
  maximumFilteredMosTemperature : ℚ := 0
  maximumFilteredRotorTemperature : ℚ := 0
  temperatureFilterInitialized : Bool := false

/-- `short_torque_squared_samples` to `maximum_long_torque_rms`. -/
structure TorqueRmsMonitor where
  shortTorqueSquaredSamples : List ℚ := []
  longTorqueSquaredSamples : List ℚ := []
  shortTorqueSquaredSum : ℚ := 0
  longTorqueSquaredSum : ℚ := 0
  maximumShortTorqueRms : ℚ := 0
  maximumLongTorqueRms : ℚ := 0

/-- The `preview_maximum_...` fields. -/
structure PreviewMaxima where
  maximumAbsPosition : ℚ := 0
  maximumAbsVelocity : ℚ := 0
  maximumKp : ℚ := 0
  maximumKd : ℚ := 0
  maximumAbsFeedforwardTorque : ℚ := 0
  maximumAbsEstimatedTorque : ℚ := 0
  maximumAbsUnsaturatedTorque : ℚ := 0

/-- The part of `Motor` that a run changes. -/
structure MotorState where
  lastPosition : ℚ := 0
  lastVelocity : ℚ := 0
  temperature : TemperatureMonitor := {}
  txCount : ℕ := 0
  rxCount : ℕ := 0
  seen : Bool := false
  previewMaxima : PreviewMaxima := {}
  policyTorqueSaturationCount : ℕ := 0
  preview : MitCommand := {}
  previewInitialized : Bool := false
  capturedPosition : ℚ := 0
  maximumAbsPositionDrift : ℚ := 0
  maximumAbsSpeed : ℚ := 0
  maximumAbsCommandedTorque : ℚ := 0
  maximumAbsFeedbackTorque : ℚ := 0
  torqueRms : TorqueRmsMonitor := {}
  finalDisabled : Bool := false
  lastStatusCode : ℤ := -1

end SpriteRuntime
