import SpriteRuntime.Runtime.MotorGroupHold
import SpriteRuntime.Runtime.MotorMapping

/-!
# The joint PD gate of a differential pair

The measured pose of the two joints of a pair is held by torques that the host computes at
500 Hz from the feedback of the two motors.
-/

namespace SpriteRuntime

open Foundation

structure AnkleJointPdReport where
  side : String
  interface : String
  motorNames : List String
  targetJointPositionRad : Dictionary ℚ
  durationS : ℚ
  rateHzPerMotor : ℚ
  jointKpNmRad : ℚ
  jointKdNmSRad : ℚ
  maximumJointTorqueNm : ℚ
  commandCount : Dictionary ℕ
  feedbackCount : Dictionary ℕ
  enableAttempts : Dictionary ℕ
  disableAttempts : Dictionary ℕ
  maximumAbsJointPositionErrorRad : Dictionary ℚ
  maximumAbsJointVelocityRadS : Dictionary ℚ
  maximumAbsJointTorqueCommandNm : Dictionary ℚ
  maximumAbsMotorTorqueCommandNm : Dictionary ℚ
  maximumAbsEstimatedMotorTorqueNm : Dictionary ℚ
  finalStatus : Dictionary (Option String)
  errors : List String

/-- `minimum_count`. -/
def AnkleJointPdReport.minimumCount (report : AnkleJointPdReport) : ℤ :=
  ⌊report.durationS * report.rateHzPerMotor * (95 / 100)⌋

/-- `passed`. -/
structure AnkleJointPdReport.Passed (report : AnkleJointPdReport) : Prop where
  errors : report.errors = []
  commands : AllValues report.commandCount fun value => report.minimumCount ≤ value
  feedback : AllValues report.feedbackCount fun value => report.minimumCount ≤ value
  enables : AllValues report.enableAttempts fun value => value = 1
  disables : AllValues report.disableAttempts fun value => 3 ≤ value
  disabled : AllValues report.finalStatus fun value => value = some "disabled"

/-- The local variables of a gate. -/
structure PairLocals where
  initialMotor : Dictionary ℚ := []
  latest : Dictionary DamiaoFeedback := []
  targetJoint : Dictionary ℚ := []
  commandCount : String → ℕ := fun _ => 0
  feedbackCount : String → ℕ := fun _ => 0
  maxJointError : String → ℚ := fun _ => 0
  maxJointVelocity : String → ℚ := fun _ => 0
  maxJointTorque : String → ℚ := fun _ => 0
  maxMotorCommand : String → ℚ := fun _ => 0
  maxMotorEstimated : String → ℚ := fun _ => 0
  nextCycle : ℚ := 0

/-- The two values of a list. -/
def pairOfList (values : List ℚ) (side : Fin 2) : ℚ := values.getD side 0

/-- The arguments of `_run_differential_pair_joint_pd_gate` beside the writer and the clock. -/
structure PairGate where
  endpoints : List DamiaoFeedbackEndpoint
  pair : DifferentialPairDriveMap ℚ
  mechanism : String
  expected : (String × String × ℤ × ℤ) × (String × String × ℤ × ℤ)
  softPositionRad : Dictionary (ℚ × ℚ)
  jointKp : ℚ
  jointKd : ℚ
  maximumJointTorque : ℚ
  maximumMotorTorque : ℚ
  maximumMotorVelocity : ℚ
  maximumMotorPositionDrift : ℚ
  maximumJointPositionError : ℚ

namespace PairGate

variable (gate : PairGate) (world : GateWorld) (fuel : ℕ)

def names : List String := gate.endpoints.map DamiaoFeedbackEndpoint.motorName

def interface : String := gate.expected.1.2.1

def numericLimits : List ℚ :=
  [gate.jointKp, gate.jointKd, gate.maximumJointTorque, gate.maximumMotorTorque,
    gate.maximumMotorVelocity, gate.maximumMotorPositionDrift, gate.maximumJointPositionError]

/-- The checks of the arguments. -/
def validate : Except String Unit := do
  raiseIf (gate.endpoints.map DamiaoFeedbackEndpoint.identity ≠ [gate.expected.1, gate.expected.2] ∨
      List.ofFn gate.pair.motorNames ≠ [gate.expected.1.1, gate.expected.2.1])
    (gate.mechanism ++ " PD gate does not match the frozen ordered differential pair")
  raiseIf (world.interface ≠ gate.interface ∨ ¬SameNames gate.softPositionRad.keys gate.names)
    (gate.mechanism ++ " writer or soft-limit coverage mismatch")
  raiseIf (¬∀ value ∈ gate.numericLimits, 0 < value)
    (gate.mechanism ++ " PD limits must be finite and positive")

def durationS : ℚ := 2

def rateHz : ℚ := 500

def period : ℚ := 1 / rateHz

def feedbackTimeoutS : ℚ := 1 / 50

def feedback (endpoint : DamiaoFeedbackEndpoint) : Gate PairLocals DamiaoFeedback :=
  receiveEndpoint world fuel endpoint feedbackTimeoutS

/-- One motor of the first loop: it must be disabled and have room on both sides. -/
def recordInitial (endpoint : DamiaoFeedbackEndpoint) : Gate PairLocals Unit := do
  let name := endpoint.motorName
  sendEcho world endpoint 0
  let feedback ← feedback world fuel endpoint
  Program.throwIf (feedback.statusName ≠ "disabled") (name ++ " must start disabled")
  let limits ← Program.ofExcept (gate.softPositionRad.item name)
  Program.throwIf
    (¬(limits.1 + 1 / 20 ≤ feedback.positionRad ∧ feedback.positionRad ≤ limits.2 - 1 / 20))
    (name ++ " lacks soft-limit margin")
  changeLocals fun locals =>
    { locals with
      initialMotor := locals.initialMotor ++ [(name, feedback.positionRad)]
      latest := locals.latest ++ [(name, feedback)] }

/-- The measured pose of the joints; exact arithmetic leaves no value that is not finite. -/
def recordTarget : Gate PairLocals Unit := do
  let state ← Program.get
  let values ← Program.ofExcept (gate.names.mapM state.locals.initialMotor.item)
  let targetValues := gate.pair.driveToJoint .position (pairOfList values)
  let targetJoint := List.ofFn fun side => (gate.pair.jointNames side, targetValues side)
  changeLocals fun locals => { locals with targetJoint := targetJoint }

/-- One motor of the second loop: it gets its own position with zero gains. -/
def prepareMotor (endpoint : DamiaoFeedbackEndpoint) : Gate PairLocals Unit := do
  let name := endpoint.motorName
  let state ← Program.get
  let position ← Program.ofExcept (state.locals.initialMotor.item name)
  sendEcho world endpoint position
  let prepared ← feedback world fuel endpoint
  Program.throwIf (prepared.statusName ≠ "disabled") (name ++ " changed status during preparation")
  changeLocals fun locals => { locals with latest := locals.latest ++ [(name, prepared)] }

/-- The torque of one joint. -/
def jointTorque (jointPosition jointVelocity : Fin 2 → ℚ) (side : Fin 2) : Gate PairLocals ℚ := do
  let name := gate.pair.jointNames side
  let state ← Program.get
  let target ← Program.ofExcept (state.locals.targetJoint.item name)
  let error := target - jointPosition side
  let velocity := jointVelocity side
  let unlimited := gate.jointKp * error - gate.jointKd * velocity
  let torque := max (-gate.maximumJointTorque) (min gate.maximumJointTorque unlimited)
  changeLocals fun locals =>
    { locals with
      maxJointError := raiseTo name |error| locals.maxJointError
      maxJointVelocity := raiseTo name |velocity| locals.maxJointVelocity
      maxJointTorque := raiseTo name |torque| locals.maxJointTorque }
  Program.throwIf (gate.maximumJointPositionError < |error|)
    (name ++ " position-error guard tripped")
  return torque

/-- The torques of the two motors, from the last feedback of both. -/
def motorTorque : Gate PairLocals (Fin 2 → ℚ) := do
  let state ← Program.get
  let latest ← Program.ofExcept (gate.names.mapM state.locals.latest.item)
  let jointPosition :=
    gate.pair.driveToJoint .position (pairOfList (latest.map DamiaoFeedback.positionRad))
  let jointVelocity :=
    gate.pair.driveToJoint .velocity (pairOfList (latest.map DamiaoFeedback.velocityRadS))
  let first ← gate.jointTorque jointPosition jointVelocity 0
  let second ← gate.jointTorque jointPosition jointVelocity 1
  let torque := gate.pair.jointToDrive .torque ![first, second]
  Program.throwIf (∃ side, gate.maximumMotorTorque < |torque side|)
    ("mapped " ++ gate.mechanism ++ " motor torque guard tripped")
  return torque

/-- The checks of the feedback on a command. -/
def accept (name : String) (feedback : DamiaoFeedback) : Gate PairLocals Unit := do
  changeLocals fun locals => { locals with feedbackCount := countUp name locals.feedbackCount }
  Program.throwIf (feedback.statusName ≠ "enabled") (name ++ " status must be enabled")
  let state ← Program.get
  let initial ← Program.ofExcept (state.locals.initialMotor.item name)
  Program.throwIf (gate.maximumMotorPositionDrift < |feedback.positionRad - initial|)
    (name ++ " position-drift guard tripped")
  Program.throwIf (gate.maximumMotorVelocity < |feedback.velocityRadS|)
    (name ++ " velocity guard tripped")
  let estimated := |feedback.estimatedOutputTorqueNm|
  changeLocals fun locals =>
    { locals with maxMotorEstimated := raiseTo name estimated locals.maxMotorEstimated }
  Program.throwIf (gate.maximumMotorTorque < estimated) (name ++ " estimated-torque guard tripped")

/-- One motor of a cycle: its torque, and its feedback. -/
def driveMotor (endpoint : DamiaoFeedbackEndpoint) (torque : ℚ) : Gate PairLocals Unit := do
  let name := endpoint.motorName
  let limits ← Program.ofExcept (gate.softPositionRad.item name)
  let state ← Program.get
  let latest ← Program.ofExcept (state.locals.latest.item name)
  let envelope ← Program.ofExcept ((DamiaoMitCommandEnvelope.make limits gate.maximumMotorVelocity
    gate.maximumMotorTorque gate.maximumMotorTorque).mapError world.encodeErrorText)
  let command ← Program.ofExcept ((encodeDamiaoMitCommand endpoint
    ⟨latest.positionRad, 0, 0, 0, torque⟩ ⟨latest.positionRad, latest.velocityRadS⟩
    envelope).mapError world.encodeErrorText)
  sendGateCommand world command
  changeLocals fun locals =>
    { locals with
      commandCount := countUp name locals.commandCount
      maxMotorCommand := raiseTo name |torque| locals.maxMotorCommand }
  let feedback ← feedback world fuel endpoint
  gate.accept name feedback
  changeLocals fun locals => { locals with latest := locals.latest ++ [(name, feedback)] }

/-- The next cycle; one that is already due is put off. -/
def scheduleNext : Gate PairLocals Unit := do
  changeLocals fun locals => { locals with nextCycle := locals.nextCycle + period }
  let now ← monotonic world
  let state ← Program.get
  Program.runIf (state.locals.nextCycle ≤ now) do
    let later ← monotonic world
    changeLocals fun locals => { locals with nextCycle := later + period }

/-- A cycle that is due. -/
def cycle : Gate PairLocals Unit := do
  let torque ← gate.motorTorque
  Program.forEach (gate.endpoints.zip (List.ofFn torque)) fun motor =>
    gate.driveMotor world fuel motor.1 motor.2
  scheduleNext world

/-- One round of the hold, given the reading that the loop tests. -/
def holdBefore (start tested : ℚ) : Gate PairLocals (Option Unit) :=
  if durationS ≤ tested - start then return some ()
  else do
    let now ← monotonic world
    let state ← Program.get
    Program.runIf (state.locals.nextCycle ≤ now) (gate.cycle world fuel)
    return none

def holdRound (start : ℚ) : Gate PairLocals (Option Unit) := do
  let tested ← monotonic world
  gate.holdBefore world fuel start tested

/-- The `try` of the gate. -/
def body : Gate PairLocals Unit := do
  Program.forEach gate.endpoints (gate.recordInitial world fuel)
  gate.recordTarget
  Program.forEach gate.endpoints (prepareMotor world fuel)
  Program.forEach gate.endpoints fun endpoint => sendEnable world endpoint.motorName
  let start ← monotonic world
  changeLocals fun locals => { locals with nextCycle := start }
  Program.repeatUntil fuel (gate.holdRound world fuel start)

/-- `initial_motor.get(name, 0.0)`. -/
def pollPosition (locals : PairLocals) (name : String) : ℚ :=
  (locals.initialMotor.get? name).getD 0

/-- A dictionary with one value for every joint. -/
def byJoint (value : String → ℚ) : Dictionary ℚ := byName (List.ofFn gate.pair.jointNames) value

def report (state : GateState PairLocals) : AnkleJointPdReport where
  side := gate.mechanism
  interface := gate.interface
  motorNames := gate.names
  targetJointPositionRad := state.locals.targetJoint
  durationS := durationS
  rateHzPerMotor := rateHz
  jointKpNmRad := gate.jointKp
  jointKdNmSRad := gate.jointKd
  maximumJointTorqueNm := gate.maximumJointTorque
  commandCount := byName gate.names state.locals.commandCount
  feedbackCount := byName gate.names state.locals.feedbackCount
  enableAttempts := byName world.attemptNames state.enableAttempts
  disableAttempts := byName world.attemptNames state.disableAttempts
  maximumAbsJointPositionErrorRad := gate.byJoint state.locals.maxJointError
  maximumAbsJointVelocityRadS := gate.byJoint state.locals.maxJointVelocity
  maximumAbsJointTorqueCommandNm := gate.byJoint state.locals.maxJointTorque
  maximumAbsMotorTorqueCommandNm := byName gate.names state.locals.maxMotorCommand
  maximumAbsEstimatedMotorTorqueNm := byName gate.names state.locals.maxMotorEstimated
  finalStatus := byName gate.names state.finalStatus
  errors := state.errors

/-- `_run_differential_pair_joint_pd_gate`. -/
def run : Gate PairLocals AnkleJointPdReport := do
  Program.ofExcept (gate.validate world)
  poweredGate (gate.body world fuel)
    (groupCleanup world fuel feedbackTimeoutS pollPosition gate.endpoints) (gate.report world)

end PairGate

/-! ## The pairs -/

section Pairs

def leftAnkleGroup : (String × String × ℤ × ℤ) × (String × String × ℤ × ℤ) :=
  (("left_ankle_motor_a", "kcan1", 5, 0x15), ("left_ankle_motor_b", "kcan1", 6, 0x16))

def rightAnkleGroup : (String × String × ℤ × ℤ) × (String × String × ℤ × ℤ) :=
  (("right_ankle_motor_a", "kcan2", 5, 0x15), ("right_ankle_motor_b", "kcan2", 6, 0x16))

def headGroup : (String × String × ℤ × ℤ) × (String × String × ℤ × ℤ) :=
  (("head_motor_a", "kcan2", 7, 0x17), ("head_motor_b", "kcan2", 8, 0x18))

variable (endpoints : List DamiaoFeedbackEndpoint) (pair : DifferentialPairDriveMap ℚ)
  (softPositionRad : Dictionary (ℚ × ℚ))

/-- `run_ankle_pair_joint_pd_gate`. -/
def anklePairJointPdGate (side : String) : Except String PairGate :=
  let onSide := fun expected =>
    { endpoints := endpoints
      pair := pair
      mechanism := side
      expected := expected
      softPositionRad := softPositionRad
      jointKp := 1 / 2
      jointKd := 1 / 20
      maximumJointTorque := 15 / 100
      maximumMotorTorque := 1 / 4
      maximumMotorVelocity := 3 / 10
      maximumMotorPositionDrift := 8 / 100
      maximumJointPositionError := 8 / 100 : PairGate }
  if side = "left" then .ok (onSide leftAnkleGroup)
  else if side = "right" then .ok (onSide rightAnkleGroup)
  else .error "ankle side must be left or right"

/-- `run_head_pair_joint_pd_gate`. -/
def headPairJointPdGate : PairGate where
  endpoints := endpoints
  pair := pair
  mechanism := "head"
  expected := headGroup
  softPositionRad := softPositionRad
  jointKp := 1 / 5
  jointKd := 3 / 100
  maximumJointTorque := 1 / 20
  maximumMotorTorque := 1 / 10
  maximumMotorVelocity := 1 / 5
  maximumMotorPositionDrift := 1 / 20
  maximumJointPositionError := 1 / 20

end Pairs

/-! ## What a gate does -/

namespace PairGate

section Gate

variable {world : GateWorld} {allowed : GateEvent → Prop} (gate : PairGate)

open Program

theorem tame_recordTarget : Tame (GateState.Later allowed) fun _ => gate.recordTarget :=
  .bind .get fun state => .bind (.ofExcept _) fun values => tame_changeLocals _

theorem tame_jointTorque (jointPosition jointVelocity : Fin 2 → ℚ) (side : Fin 2) :
    Tame (GateState.Later allowed) fun _ => gate.jointTorque jointPosition jointVelocity side := by
  refine .bind .get fun state => .bind (.ofExcept _) fun target => ?_
  exact .bind (tame_changeLocals _) fun _ => .bind (.throwIf _) fun _ => .pure _

theorem tame_motorTorque : Tame (GateState.Later allowed) fun _ => gate.motorTorque := by
  refine .bind .get fun state => .bind (.ofExcept _) fun latest => ?_
  refine .bind (tame_jointTorque gate _ _ 0) fun first => ?_
  refine .bind (tame_jointTorque gate _ _ 1) fun second => ?_
  exact .bind (.throwIf _) fun _ => .pure _

theorem tame_accept (name : String) (feedback : DamiaoFeedback) :
    Tame (GateState.Later allowed) fun _ => gate.accept name feedback := by
  refine .bind (tame_changeLocals _) fun _ => .bind (.throwIf _) fun _ => .bind .get fun state => ?_
  refine .bind (.ofExcept _) fun initial => .bind (.throwIf _) fun _ => .bind (.throwIf _) fun _ => ?_
  exact .bind (tame_changeLocals _) fun _ => .throwIf _

theorem tame_scheduleNext : Tame (GateState.Later allowed) fun _ => scheduleNext world := by
  refine .bind (tame_changeLocals _) fun _ => .bind tame_monotonic fun now => ?_
  exact .bind .get fun state => .runIf (.bind tame_monotonic fun later => tame_changeLocals _)

variable (advances : world.Advances) (polling : AllowsPolling allowed)

include advances polling

theorem tame_recordInitial (endpoint : DamiaoFeedbackEndpoint) :
    Tame (GateState.Later allowed) fun fuel => gate.recordInitial world fuel endpoint := by
  refine .bind (tame_sendEcho polling endpoint 0) fun _ => ?_
  refine .bind (tame_receiveEndpoint advances polling endpoint _) fun feedback => ?_
  refine .bind (.throwIf _) fun _ => .bind (.ofExcept _) fun limits => ?_
  exact .bind (.throwIf _) fun _ => tame_changeLocals _

omit gate in
theorem tame_prepareMotor (endpoint : DamiaoFeedbackEndpoint) :
    Tame (GateState.Later allowed) fun fuel => prepareMotor world fuel endpoint := by
  refine .bind .get fun state => .bind (.ofExcept _) fun position => ?_
  refine .bind (tame_sendEcho polling endpoint position) fun _ => ?_
  refine .bind (tame_receiveEndpoint advances polling endpoint _) fun prepared => ?_
  exact .bind (.throwIf _) fun _ => tame_changeLocals _

theorem tame_driveMotor (endpoint : DamiaoFeedbackEndpoint) (torque : ℚ) :
    Tame (GateState.Later allowed) fun fuel => gate.driveMotor world fuel endpoint torque := by
  refine .bind (.ofExcept _) fun limits => .bind .get fun state => ?_
  refine .bind (.ofExcept _) fun latest => .bind (.ofExcept _) fun envelope => ?_
  refine .bind (.ofExcept _) fun command => .bind (tame_sendGateCommand polling command) fun _ => ?_
  refine .bind (tame_changeLocals _) fun _ => ?_
  refine .bind (tame_receiveEndpoint advances polling endpoint _) fun feedback => ?_
  exact .bind (tame_accept gate _ feedback) fun _ => tame_changeLocals _

theorem tame_holdBefore (start tested : ℚ) :
    Tame (GateState.Later allowed) fun fuel => gate.holdBefore world fuel start tested := by
  by_cases late : durationS ≤ tested - start
  · simp only [holdBefore, if_pos late]
    exact .pure (some ())
  · simp only [holdBefore, if_neg late]
    refine .bind tame_monotonic fun now => .bind .get fun state => .bind (.runIf ?_) fun _ =>
      .pure none
    refine .bind (tame_motorTorque gate) fun torque => .bind (.forEach fun motor => ?_) fun _ =>
      tame_scheduleNext
    exact tame_driveMotor gate advances polling motor.1 motor.2

/-- The body may enable, and ends on every advancing clock. -/
theorem tame_body (enabling : ∀ motorName, allowed (.enable motorName)) :
    Tame (GateState.Later allowed) fun fuel => gate.body world fuel := by
  refine .bind (.forEach fun endpoint => tame_recordInitial gate advances polling endpoint)
    fun _ => .bind (tame_recordTarget gate) fun _ => ?_
  refine .bind (.forEach fun endpoint => tame_prepareMotor advances polling endpoint) fun _ => ?_
  refine .bind (.forEach fun endpoint => tame_sendEnable (enabling _)) fun _ => ?_
  refine .bind tame_monotonic fun start => .bind (tame_changeLocals _) fun _ => ?_
  have rest (tested : ℚ) := tame_holdBefore gate advances polling start tested
  apply tame_until advances (start + durationS) (.bind tame_monotonic rest)
  intro fuel state final again
  refine ⟨?_, clockCalls_lt rest fuel again⟩
  rw [monotonic_bind, holdBefore] at again
  split at again
  · cases again
  · linarith

end Gate

/-- A gate with valid arguments is contained. -/
theorem run_contained {gate : PairGate} {world : GateWorld} (advances : world.Advances)
    (valid : gate.validate world = .ok ()) :
    Contained (gate.run world) (.start {}) gate.names AnkleJointPdReport.Passed
      AnkleJointPdReport.errors
      fun report name => (report.finalStatus.get? name).join := by
  obtain ⟨final, settles, shuts⟩ := groupGate_settles advances valid
    (tame_body gate advances polling_undisabling fun _ => not_false) feedbackTimeoutS pollPosition
    gate.endpoints (gate.report world) {}
  refine ⟨gate.report world final, final, settles, shuts, fun passed => ⟨passed.errors, ?_⟩⟩
  intro name member
  exact passed.disabled.join_get? (by simpa [report, byName, Dictionary.keys] using member)

end PairGate

end SpriteRuntime
