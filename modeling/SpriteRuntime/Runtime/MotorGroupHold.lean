import SpriteRuntime.Foundation.Dictionary
import SpriteRuntime.Runtime.PoweredGate

/-!
# Holding a group of motors

The motors of a group on one bus are held at their measured positions for two seconds with low
gains: every motor must start disabled and within its soft limits, and its feedback must stay
within the guards.
-/

namespace SpriteRuntime

open Foundation

/-- A dictionary with one value for every name. -/
def byName {α : Type} (names : List String) (value : String → α) : Dictionary α :=
  names.map fun name => (name, value name)

/-- `set(left) == set(right)`. -/
def SameNames (left right : List String) : Prop :=
  (∀ name ∈ left, name ∈ right) ∧ ∀ name ∈ right, name ∈ left

instance (left right : List String) : Decidable (SameNames left right) := by
  unfold SameNames
  infer_instance

/-- A condition on all of `values()`. -/
def AllValues {α : Type} (dictionary : Dictionary α) (holds : α → Prop) : Prop :=
  ∀ name ∈ dictionary.keys, ∀ value ∈ dictionary.get? name, holds value

instance {α : Type} (dictionary : Dictionary α) (holds : α → Prop) [DecidablePred holds] :
    Decidable (AllValues dictionary holds) := by
  unfold AllValues
  infer_instance

theorem AllValues.join_get? {α : Type} {dictionary : Dictionary (Option α)} {value : α}
    (all : AllValues dictionary fun entry => entry = some value) {name : String}
    (member : name ∈ dictionary.keys) : (dictionary.get? name).join = some value := by
  obtain ⟨entry, found⟩ := Dictionary.exists_get? member
  rw [found, all name member entry found, Option.join_some]

theorem get?_byName {α : Type} {names : List String} {value : String → α} {name : String}
    (member : name ∈ names) : (byName names value).get? name = some (value name) := by
  have found : ∀ rest : List String, name ∈ rest →
      (rest.map fun name => (name, value name)).lookup name = some (value name) := by
    intro rest
    induction rest with
    | nil => simp
    | cons first rest induction =>
        intro among
        by_cases same : name = first
        · simp [same]
        · have later : name ∈ rest := by simpa [same] using among
          simpa [List.lookup_cons, beq_false_of_ne same] using induction later
  rw [Dictionary.get?, byName, ← List.map_reverse]
  exact found _ (List.mem_reverse.mpr member)

/-- A condition on the values of a dictionary with one value for every name. -/
theorem AllValues.of_byName {α : Type} {names : List String} {value : String → α}
    {holds : α → Prop} (all : AllValues (byName names value) holds) {name : String}
    (member : name ∈ names) : holds (value name) := by
  have key : name ∈ (byName names value).keys := by
    simpa [byName, Dictionary.keys] using member
  exact all name key (value name) (get?_byName member)

def DamiaoFeedbackEndpoint.identity (endpoint : DamiaoFeedbackEndpoint) :
    String × String × ℤ × ℤ :=
  (endpoint.motorName, endpoint.interface, endpoint.canId, endpoint.masterId)

structure MotorGroupHoldReport where
  interface : String
  motorNames : List String
  initialPositionRad : Dictionary ℚ
  targetPositionRad : Dictionary ℚ
  durationS : ℚ
  rateHz : ℚ
  commandCount : Dictionary ℕ
  feedbackCount : Dictionary ℕ
  enableAttempts : Dictionary ℕ
  disableAttempts : Dictionary ℕ
  maximumAbsPositionErrorRad : Dictionary ℚ
  maximumAbsVelocityRadS : Dictionary ℚ
  maximumAbsCommandedTorqueNm : Dictionary ℚ
  maximumAbsEstimatedTorqueNm : Dictionary ℚ
  maximumMosTemperatureC : Dictionary ℕ
  maximumRotorTemperatureC : Dictionary ℕ
  finalStatus : Dictionary (Option String)
  errors : List String

/-- `passed`. -/
structure MotorGroupHoldReport.Passed (report : MotorGroupHoldReport) : Prop where
  errors : report.errors = []
  commands : AllValues report.commandCount fun value => 0 < value
  feedback : AllValues report.feedbackCount fun value => 0 < value
  enables : AllValues report.enableAttempts fun value => value = 1
  disables : AllValues report.disableAttempts fun value => 3 ≤ value
  disabled : AllValues report.finalStatus fun value => value = some "disabled"

/-- The local variables of a hold. -/
structure HoldLocals where
  initialPositions : Dictionary ℚ := []
  targets : Dictionary ℚ := []
  latest : Dictionary DamiaoFeedback := []
  commandCount : String → ℕ := fun _ => 0
  feedbackCount : String → ℕ := fun _ => 0
  maxError : String → ℚ := fun _ => 0
  maxVelocity : String → ℚ := fun _ => 0
  maxCommandedTorque : String → ℚ := fun _ => 0
  maxTorque : String → ℚ := fun _ => 0
  maxMos : String → ℕ := fun _ => 0
  maxRotor : String → ℕ := fun _ => 0
  nextCycle : ℚ := 0

/-- `maxima[name] = max(maxima[name], value)`. -/
def raiseTo {α : Type} [Max α] (name : String) (value : α) (maxima : String → α) : String → α :=
  Function.update maxima name (max (maxima name) value)

/-- `counts[name] += 1`. -/
def countUp (name : String) (counts : String → ℕ) : String → ℕ :=
  Function.update counts name (counts name + 1)

/-- The arguments of `_run_fixed_group_low_gain_hold` beside the writer and the clock. -/
structure GroupHold where
  endpoints : List DamiaoFeedbackEndpoint
  softPositionRad : Dictionary (ℚ × ℚ)
  maximumTorqueNm : Dictionary ℚ
  maximumFeedbackTorqueNm : Option (Dictionary ℚ) := none
  expectedIdentity : List (String × String × ℤ × ℤ)
  expectedInterface : String

namespace GroupHold

variable (hold : GroupHold) (world : GateWorld) (fuel : ℕ)

def names : List String := hold.endpoints.map DamiaoFeedbackEndpoint.motorName

def feedbackTorqueGuard : Dictionary ℚ := hold.maximumFeedbackTorqueNm.getD hold.maximumTorqueNm

/-- The checks of the arguments. -/
def validate : Except String Unit := do
  raiseIf (hold.endpoints.map DamiaoFeedbackEndpoint.identity ≠ hold.expectedIdentity)
    "powered group hold does not match the frozen ordered group"
  raiseIf (¬SameNames hold.softPositionRad.keys hold.names)
    "soft limits must exactly cover the frozen motor group"
  raiseIf (¬SameNames hold.maximumTorqueNm.keys hold.names ∨
      ¬AllValues hold.maximumTorqueNm fun value => 0 < value ∧ value ≤ 1 / 2)
    "torque guards must exactly cover the group and be in (0, 0.5] Nm"
  raiseIf (¬SameNames hold.feedbackTorqueGuard.keys hold.names ∨
      ¬AllValues hold.feedbackTorqueGuard fun value => 0 < value ∧ value ≤ 3)
    "feedback torque guards must exactly cover the group and be in (0, 3.0] Nm"
  raiseIf (world.interface ≠ hold.expectedInterface)
    ("motor-group writer must use " ++ hold.expectedInterface)

def durationS : ℚ := 2

def rateHz : ℚ := 50

def kp : ℚ := 1 / 5

def kd : ℚ := 1 / 20

def maximumPositionErrorRad : ℚ := 1 / 20

def maximumVelocityRadS : ℚ := 1 / 5

def feedbackTimeoutS : ℚ := 1 / 10

def mosTemperatureLimitC : ℕ := 100

def rotorTemperatureLimitC : ℕ := 80

def period : ℚ := 1 / rateHz

def feedback (endpoint : DamiaoFeedbackEndpoint) : Gate HoldLocals DamiaoFeedback :=
  receiveEndpoint world fuel endpoint feedbackTimeoutS

/-- One motor of the first loop: it must be disabled and have room on both sides. -/
def recordInitial (endpoint : DamiaoFeedbackEndpoint) : Gate HoldLocals Unit := do
  let name := endpoint.motorName
  sendEcho world endpoint 0
  let feedback ← feedback world fuel endpoint
  Program.throwIf (feedback.statusName ≠ "disabled") (name ++ " must start disabled")
  changeLocals fun locals =>
    { locals with initialPositions := locals.initialPositions ++ [(name, feedback.positionRad)] }
  let limits ← Program.ofExcept (hold.softPositionRad.item name)
  Program.throwIf
    (¬(limits.1 + 1 / 20 ≤ feedback.positionRad ∧ feedback.positionRad ≤ limits.2 - 1 / 20))
    (name ++ " lacks soft-limit margin")
  changeLocals fun locals =>
    { locals with
      targets := locals.targets ++ [(name, feedback.positionRad)]
      latest := locals.latest ++ [(name, feedback)] }

/-- One motor of the second loop: it gets its own target with zero gains. -/
def prepareMotor (endpoint : DamiaoFeedbackEndpoint) : Gate HoldLocals Unit := do
  let name := endpoint.motorName
  let state ← Program.get
  let target ← Program.ofExcept (state.locals.targets.item name)
  sendEcho world endpoint target
  let prepared ← feedback world fuel endpoint
  Program.throwIf (prepared.statusName ≠ "disabled") (name ++ " changed status during preparation")
  changeLocals fun locals => { locals with latest := locals.latest ++ [(name, prepared)] }

/-- `accept`. -/
def accept (feedback : DamiaoFeedback) : Gate HoldLocals Unit := do
  let name := feedback.motorName
  changeLocals fun locals => { locals with feedbackCount := countUp name locals.feedbackCount }
  Program.throwIf (feedback.statusName ≠ "enabled")
    (name ++ " status must be enabled, observed " ++ feedback.statusName)
  let state ← Program.get
  let target ← Program.ofExcept (state.locals.targets.item name)
  let error := target - feedback.positionRad
  changeLocals fun locals =>
    { locals with
      maxError := raiseTo name |error| locals.maxError
      maxVelocity := raiseTo name |feedback.velocityRadS| locals.maxVelocity
      maxTorque := raiseTo name |feedback.estimatedOutputTorqueNm| locals.maxTorque
      maxMos := raiseTo name feedback.mosTemperatureC locals.maxMos
      maxRotor := raiseTo name feedback.rotorTemperatureC locals.maxRotor }
  Program.throwIf (maximumPositionErrorRad < |error|) (name ++ " position-error guard tripped")
  Program.throwIf (maximumVelocityRadS < |feedback.velocityRadS|)
    (name ++ " velocity guard tripped")
  let guard ← Program.ofExcept (hold.feedbackTorqueGuard.item name)
  Program.throwIf (guard < |feedback.estimatedOutputTorqueNm|) (name ++ " torque guard tripped")
  Program.throwIf (mosTemperatureLimitC ≤ feedback.mosTemperatureC)
    (name ++ " MOS-temperature guard tripped")
  Program.throwIf (rotorTemperatureLimitC ≤ feedback.rotorTemperatureC)
    (name ++ " rotor-temperature guard tripped")

/-- One motor of a cycle: a command for its target, and its feedback. -/
def holdMotor (endpoint : DamiaoFeedbackEndpoint) : Gate HoldLocals Unit := do
  let name := endpoint.motorName
  let limits ← Program.ofExcept (hold.softPositionRad.item name)
  let maximumTorque ← Program.ofExcept (hold.maximumTorqueNm.item name)
  let envelope ← Program.ofExcept ((DamiaoMitCommandEnvelope.make limits maximumVelocityRadS
    maximumTorque maximumTorque).mapError world.encodeErrorText)
  let state ← Program.get
  let latest ← Program.ofExcept (state.locals.latest.item name)
  let measured : DamiaoMitState := ⟨latest.positionRad, latest.velocityRadS⟩
  let target ← Program.ofExcept (state.locals.targets.item name)
  let mitCommand : DamiaoMitCommand := ⟨target, 0, kp, kd, 0⟩
  let command ← Program.ofExcept ((encodeDamiaoMitCommand endpoint mitCommand measured
    envelope).mapError world.encodeErrorText)
  let commandedTorque := estimatedOutputTorqueNm mitCommand measured
  changeLocals fun locals =>
    { locals with maxCommandedTorque := raiseTo name |commandedTorque| locals.maxCommandedTorque }
  sendGateCommand world command
  changeLocals fun locals => { locals with commandCount := countUp name locals.commandCount }
  let feedback ← feedback world fuel endpoint
  hold.accept feedback
  changeLocals fun locals => { locals with latest := locals.latest ++ [(name, feedback)] }

/-- The next cycle; one that is already due is put off. -/
def scheduleNext : Gate HoldLocals Unit := do
  changeLocals fun locals => { locals with nextCycle := locals.nextCycle + period }
  let now ← monotonic world
  let state ← Program.get
  Program.runIf (state.locals.nextCycle ≤ now) do
    let later ← monotonic world
    changeLocals fun locals => { locals with nextCycle := later + period }

/-- One round of the hold, given the reading that the loop tests. -/
def holdBefore (start tested : ℚ) : Gate HoldLocals (Option Unit) :=
  if durationS ≤ tested - start then return some ()
  else do
    let now ← monotonic world
    let state ← Program.get
    Program.runIf (state.locals.nextCycle ≤ now) do
      Program.forEach hold.endpoints (hold.holdMotor world fuel)
      scheduleNext world
    return none

def holdRound (start : ℚ) : Gate HoldLocals (Option Unit) := do
  let tested ← monotonic world
  hold.holdBefore world fuel start tested

/-- The `try` of the hold. -/
def body : Gate HoldLocals Unit := do
  Program.forEach hold.endpoints (hold.recordInitial world fuel)
  Program.forEach hold.endpoints (prepareMotor world fuel)
  Program.forEach hold.endpoints fun endpoint => sendEnable world endpoint.motorName
  let start ← monotonic world
  changeLocals fun locals => { locals with nextCycle := start }
  Program.repeatUntil fuel (hold.holdRound world fuel start)

/-- `targets.get(name, 0.0)`. -/
def pollPosition (locals : HoldLocals) (name : String) : ℚ := (locals.targets.get? name).getD 0

def report (state : GateState HoldLocals) : MotorGroupHoldReport where
  interface := world.interface
  motorNames := hold.names
  initialPositionRad := state.locals.initialPositions
  targetPositionRad := state.locals.targets
  durationS := durationS
  rateHz := rateHz
  commandCount := byName hold.names state.locals.commandCount
  feedbackCount := byName hold.names state.locals.feedbackCount
  enableAttempts := byName world.attemptNames state.enableAttempts
  disableAttempts := byName world.attemptNames state.disableAttempts
  maximumAbsPositionErrorRad := byName hold.names state.locals.maxError
  maximumAbsVelocityRadS := byName hold.names state.locals.maxVelocity
  maximumAbsCommandedTorqueNm := byName hold.names state.locals.maxCommandedTorque
  maximumAbsEstimatedTorqueNm := byName hold.names state.locals.maxTorque
  maximumMosTemperatureC := byName hold.names state.locals.maxMos
  maximumRotorTemperatureC := byName hold.names state.locals.maxRotor
  finalStatus := byName hold.names state.finalStatus
  errors := state.errors

/-- `_run_fixed_group_low_gain_hold`. -/
def run : Gate HoldLocals MotorGroupHoldReport := do
  Program.ofExcept (hold.validate world)
  poweredGate (hold.body world fuel)
    (groupCleanup world fuel feedbackTimeoutS pollPosition hold.endpoints) (hold.report world)

end GroupHold

/-! ## The groups -/

section Groups

def rightWristGroup : List (String × String × ℤ × ℤ) :=
  [("right_wrist_yaw_motor", "kcan4", 5, 0x15), ("right_wrist_pitch_motor", "kcan4", 6, 0x16),
    ("right_wrist_roll_motor", "kcan4", 7, 0x17)]

def rightArmGroup : List (String × String × ℤ × ℤ) :=
  [("right_shoulder_pitch_motor", "kcan4", 1, 0x11),
    ("right_shoulder_roll_motor", "kcan4", 2, 0x12),
    ("right_shoulder_yaw_motor", "kcan4", 3, 0x13), ("right_elbow_motor", "kcan4", 4, 0x14)] ++
    rightWristGroup

def leftArmGroup : List (String × String × ℤ × ℤ) :=
  [("left_shoulder_pitch_motor", "kcan3", 1, 0x11), ("left_shoulder_roll_motor", "kcan3", 2, 0x12),
    ("left_shoulder_yaw_motor", "kcan3", 3, 0x13), ("left_elbow_motor", "kcan3", 4, 0x14),
    ("left_wrist_yaw_motor", "kcan3", 5, 0x15), ("left_wrist_pitch_motor", "kcan3", 6, 0x16),
    ("left_wrist_roll_motor", "kcan3", 7, 0x17)]

def leftProximalLegGroup : List (String × String × ℤ × ℤ) :=
  [("left_hip_pitch_motor", "kcan1", 1, 0x11), ("left_hip_roll_motor", "kcan1", 2, 0x12),
    ("left_hip_yaw_motor", "kcan1", 3, 0x13), ("left_knee_motor", "kcan1", 4, 0x14)]

def rightProximalLegGroup : List (String × String × ℤ × ℤ) :=
  [("right_hip_pitch_motor", "kcan2", 1, 0x11), ("right_hip_roll_motor", "kcan2", 2, 0x12),
    ("right_hip_yaw_motor", "kcan2", 3, 0x13), ("right_knee_motor", "kcan2", 4, 0x14)]

def waistGroup : List (String × String × ℤ × ℤ) :=
  [("waist_yaw_motor", "kcan1", 7, 0x17), ("waist_roll_motor", "kcan1", 8, 0x18)]

variable (endpoints : List DamiaoFeedbackEndpoint) (softPositionRad : Dictionary (ℚ × ℚ))

/-- `{item.motor_name: .. for item in endpoints}`. -/
def torqueByMotor (torque : String → ℚ) : Dictionary ℚ :=
  byName (endpoints.map DamiaoFeedbackEndpoint.motorName) torque

/-- `run_right_wrist_group_low_gain_hold`. -/
def rightWristGroupLowGainHold : GroupHold where
  endpoints := endpoints
  softPositionRad := softPositionRad
  maximumTorqueNm := torqueByMotor endpoints fun _ => 1 / 10
  expectedIdentity := rightWristGroup
  expectedInterface := "kcan4"

/-- `run_right_arm_group_low_gain_hold`. -/
def rightArmGroupLowGainHold : GroupHold where
  endpoints := endpoints
  softPositionRad := softPositionRad
  maximumTorqueNm := torqueByMotor endpoints fun name =>
    if name ∈ ["right_shoulder_pitch_motor", "right_shoulder_roll_motor"] then 1 / 2 else 1 / 10
  expectedIdentity := rightArmGroup
  expectedInterface := "kcan4"

/-- `run_left_arm_group_low_gain_hold`. -/
def leftArmGroupLowGainHold : GroupHold where
  endpoints := endpoints
  softPositionRad := softPositionRad
  maximumTorqueNm := torqueByMotor endpoints fun name =>
    if name ∈ ["left_shoulder_pitch_motor", "left_shoulder_roll_motor"] then 1 / 2 else 1 / 10
  expectedIdentity := leftArmGroup
  expectedInterface := "kcan3"

/-- `run_proximal_leg_group_low_gain_hold`. -/
def proximalLegGroupLowGainHold (side : String) : Except String GroupHold :=
  let onSide := fun (group : List (String × String × ℤ × ℤ)) (interface : String) =>
    { endpoints := endpoints
      softPositionRad := softPositionRad
      maximumTorqueNm := torqueByMotor endpoints fun _ => 1 / 2
      expectedIdentity := group
      expectedInterface := interface : GroupHold }
  if side = "left" then .ok (onSide leftProximalLegGroup "kcan1")
  else if side = "right" then .ok (onSide rightProximalLegGroup "kcan2")
  else .error "proximal leg side must be left or right"

/-- `run_waist_group_low_gain_hold`. -/
def waistGroupLowGainHold : GroupHold where
  endpoints := endpoints
  softPositionRad := softPositionRad
  maximumTorqueNm := torqueByMotor endpoints fun _ => 1 / 2
  maximumFeedbackTorqueNm := some [("waist_yaw_motor", 1 / 2), ("waist_roll_motor", 5 / 2)]
  expectedIdentity := waistGroup
  expectedInterface := "kcan1"

end Groups

/-! ## What a hold does -/

namespace GroupHold

section Gate

variable {world : GateWorld} (advances : world.Advances)

open Program

theorem tame_accept (hold : GroupHold) (feedback : DamiaoFeedback)
    {allowed : GateEvent → Prop} :
    Tame (GateState.Later allowed) fun _ => hold.accept feedback := by
  refine .bind (tame_changeLocals _) fun _ => .bind (.throwIf _) fun _ => .bind .get fun state => ?_
  refine .bind (.ofExcept _) fun target => .bind (tame_changeLocals _) fun _ => ?_
  refine .bind (.throwIf _) fun _ => .bind (.throwIf _) fun _ => .bind (.ofExcept _) fun guard => ?_
  exact .bind (.throwIf _) fun _ => .bind (.throwIf _) fun _ => .throwIf _

theorem tame_scheduleNext {allowed : GateEvent → Prop} :
    Tame (GateState.Later allowed) fun _ => scheduleNext world := by
  refine .bind (tame_changeLocals _) fun _ => .bind tame_monotonic fun now => ?_
  exact .bind .get fun state => .runIf (.bind tame_monotonic fun later => tame_changeLocals _)

include advances

variable {allowed : GateEvent → Prop} (polling : AllowsPolling allowed)

include polling

theorem tame_recordInitial (hold : GroupHold) (endpoint : DamiaoFeedbackEndpoint) :
    Tame (GateState.Later allowed) fun fuel => hold.recordInitial world fuel endpoint := by
  refine .bind (tame_sendEcho polling endpoint 0) fun _ => ?_
  refine .bind (tame_receiveEndpoint advances polling endpoint _) fun feedback => ?_
  refine .bind (.throwIf _) fun _ => .bind (tame_changeLocals _) fun _ => ?_
  exact .bind (.ofExcept _) fun limits => .bind (.throwIf _) fun _ => tame_changeLocals _

theorem tame_prepareMotor (endpoint : DamiaoFeedbackEndpoint) :
    Tame (GateState.Later allowed) fun fuel => prepareMotor world fuel endpoint := by
  refine .bind .get fun state => .bind (.ofExcept _) fun target => ?_
  refine .bind (tame_sendEcho polling endpoint target) fun _ => ?_
  refine .bind (tame_receiveEndpoint advances polling endpoint _) fun prepared => ?_
  exact .bind (.throwIf _) fun _ => tame_changeLocals _

theorem tame_holdMotor (hold : GroupHold) (endpoint : DamiaoFeedbackEndpoint) :
    Tame (GateState.Later allowed) fun fuel => hold.holdMotor world fuel endpoint := by
  refine .bind (.ofExcept _) fun limits => .bind (.ofExcept _) fun maximumTorque => ?_
  refine .bind (.ofExcept _) fun envelope => .bind .get fun state => ?_
  refine .bind (.ofExcept _) fun latest => .bind (.ofExcept _) fun target => ?_
  refine .bind (.ofExcept _) fun command => .bind (tame_changeLocals _) fun _ => ?_
  refine .bind (tame_sendGateCommand polling command) fun _ => ?_
  refine .bind (tame_changeLocals _) fun _ => ?_
  refine .bind (tame_receiveEndpoint advances polling endpoint _) fun feedback => ?_
  exact .bind (tame_accept hold feedback) fun _ => tame_changeLocals _

theorem tame_holdBefore (hold : GroupHold) (start tested : ℚ) :
    Tame (GateState.Later allowed) fun fuel => hold.holdBefore world fuel start tested := by
  by_cases late : durationS ≤ tested - start
  · simp only [holdBefore, if_pos late]
    exact .pure (some ())
  · simp only [holdBefore, if_neg late]
    refine .bind tame_monotonic fun now => .bind .get fun state => .bind (.runIf ?_) fun _ =>
      .pure none
    exact .bind (.forEach fun endpoint => tame_holdMotor advances polling hold endpoint) fun _ =>
      tame_scheduleNext

/-- The body may enable, and ends on every advancing clock. -/
theorem tame_body (hold : GroupHold) (enabling : ∀ motorName, allowed (.enable motorName)) :
    Tame (GateState.Later allowed) fun fuel => hold.body world fuel := by
  refine .bind (.forEach fun endpoint => tame_recordInitial advances polling hold endpoint)
    fun _ => ?_
  refine .bind (.forEach fun endpoint => tame_prepareMotor advances polling endpoint) fun _ => ?_
  refine .bind (.forEach fun endpoint => tame_sendEnable (enabling _)) fun _ => ?_
  refine .bind tame_monotonic fun start => .bind (tame_changeLocals _) fun _ => ?_
  have rest (tested : ℚ) := tame_holdBefore advances polling hold start tested
  apply tame_until advances (start + durationS) (.bind tame_monotonic rest)
  intro fuel state final again
  refine ⟨?_, clockCalls_lt rest fuel again⟩
  rw [monotonic_bind, holdBefore] at again
  split at again
  · cases again
  · linarith

end Gate

/-- A hold with valid arguments is contained. -/
theorem run_contained {hold : GroupHold} {world : GateWorld} (advances : world.Advances)
    (valid : hold.validate world = .ok ()) :
    Contained (hold.run world) (.start {}) hold.names MotorGroupHoldReport.Passed
      MotorGroupHoldReport.errors
      fun report name => (report.finalStatus.get? name).join := by
  obtain ⟨final, settles, shuts⟩ := groupGate_settles advances valid
    (tame_body advances polling_undisabling hold fun _ => not_false) feedbackTimeoutS pollPosition
    hold.endpoints (hold.report world) {}
  refine ⟨hold.report world final, final, settles, shuts, fun passed => ⟨passed.errors, ?_⟩⟩
  intro name member
  exact passed.disabled.join_get? (by simpa [report, byName, Dictionary.keys] using member)

end GroupHold

end SpriteRuntime
