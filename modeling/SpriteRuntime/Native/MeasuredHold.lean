import SpriteRuntime.Native.Shutdown

/-!
# The measured-pose hold

`run_native_measured_pose_hold` captures the pose of the disabled robot, enables
the drives and holds that pose with small gains: the ankles and the head by joint
torques, every other motor by its own position.
-/

namespace SpriteRuntime

open Foundation

/-- `joint_index`. -/
def jointIndex (kinematics : NativeKinematics) (name : String) : Except String Index :=
  match (List.finRange kJointCount).find? fun joint => kinematics.jointNames joint == name with
  | some joint => .ok joint
  | none => .error ("missing measured-hold joint: " ++ name)

/-- The names behind `controlled_joints`, with whether the joint is of the head. -/
def controlledJointNames : List (String × Bool) :=
  [("left_ankle_pitch_joint", false), ("left_ankle_roll_joint", false),
    ("right_ankle_pitch_joint", false), ("right_ankle_roll_joint", false),
    ("head_pitch_joint", true), ("head_roll_joint", true)]

def controlledJoints (kinematics : NativeKinematics) :
    List (String × Bool) → Except String (List (Index × Bool))
  | [] => .ok []
  | (name, head) :: rest => do
      let joint ← jointIndex kinematics name
      let joints ← controlledJoints kinematics rest
      return (joint, head) :: joints

/-- The torque that holds one joint. -/
def holdTorque (head : Bool) (error velocity : ℚ) : ℚ :=
  let kp : ℚ := if head then 1 / 5 else 1 / 2
  let kd : ℚ := if head then 3 / 100 else 1 / 20
  let cap : ℚ := if head then 1 / 20 else 3 / 20
  stdClamp (kp * error - kd * velocity) (-cap) cap

/-- The joint torques of a control tick; joints that are not controlled have none. -/
def holdJointTorques (kinematics : NativeKinematics) (targetJoint : Index → ℚ)
    (motors : Index → MotorState) :
    List (Index × Bool) → (Index → ℚ) → Except String (Index → ℚ)
  | [], torques => .ok torques
  | (joint, head) :: rest, torques =>
      let error := targetJoint joint - measuredJointPosition kinematics motors joint
      if 1 / 20 < |error| then
        .error ("measured-hold joint error failed for " ++ kinematics.jointNames joint)
      else
        holdJointTorques kinematics targetJoint motors rest
          (Function.update torques joint
            (holdTorque head error (measuredJointVelocity kinematics motors joint)))

/-- What a motor must have shown while the drives were disabled. -/
def DisabledCaptureFailure (descriptor : MotorDescriptor) (motor : MotorState) : Prop :=
  motor.seen = false ∨ motor.rxCount = 0 ∨
    motor.lastPosition < descriptor.softPositionMin + 1 / 20 ∨
    descriptor.softPositionMax - 1 / 20 < motor.lastPosition ∨
    1 / 5 < |motor.lastVelocity|

instance (descriptor : MotorDescriptor) (motor : MotorState) :
    Decidable (DisabledCaptureFailure descriptor motor) := by
  unfold DisabledCaptureFailure
  infer_instance

/-- Capture the pose of a motor and reset its counters. -/
def captureMotor (descriptor : MotorDescriptor) : Program MotorState String Unit := do
  let motor ← Program.get
  Program.throwIf (DisabledCaptureFailure descriptor motor)
    ("disabled capture invariant failed for " ++ descriptor.name)
  Program.modify fun motor =>
    { resetTorqueRmsMonitor motor with
      capturedPosition := motor.lastPosition
      txCount := 0
      rxCount := 0
      seen := false
      maximumAbsPositionDrift := 0
      maximumAbsSpeed := 0
      maximumAbsCommandedTorque := 0
      maximumAbsFeedbackTorque := 0
      finalDisabled := false }

section Hold

variable (setup : Setup) (world : World)

def warmupSlots : ℕ := 400

def warmupSlot (slot : ℕ) : Native Unit := do
  emit (.slot .preparation slot)
  sleepUntil world
  pollDue setup world slot
  drainHoldFeedback setup world 0 false

def capturePose : Native Unit := do
  let _ ← monotonicNs world
  Program.forEach (List.range warmupSlots) (warmupSlot setup world)
  drainHoldFeedback setup world 0 false
  forEachMotor fun index =>
    onMachineMotor index (captureMotor (setup.loaded.descriptor index))

def enableHold : Native Unit := do
  forEachMotor fun index => sendSpecial setup world index enableOpcode
  forEachMotor fun index =>
    onMachineMotor index (Program.modify fun motor => { motor with txCount := 0 })

/-- `target_joint`: the joint positions of the captured pose. -/
def capturedJoint (motors : Index → MotorState) (joint : Index) : ℚ :=
  ∑ motor, setup.kinematics.motorToJoint joint motor *
    ((motors motor).capturedPosition - setup.kinematics.motorOffset motor)

/-- The payload of one motor: ankle and head motors get a torque, the others
their captured position. -/
def holdMotorPayload (jointTorque : Index → ℚ) (index : Index) :
    Program MotorState String CanData := do
  let descriptor := setup.loaded.descriptor index
  let feedforward :=
    ∑ joint, setup.kinematics.motorToJoint joint index * jointTorque joint
  let motor ← Program.get
  if isDifferential descriptor then do
    Program.throwIf (1 / 10 < |feedforward|)
      ("differential motor torque cap failed for " ++ descriptor.name)
    holdPayload descriptor motor.lastPosition 0 0 feedforward (1 / 10)
  else holdPayload descriptor motor.capturedPosition (1 / 5) (1 / 20) 0 (1 / 2)

def commandHoldMotor (index : Index) : Native Unit := do
  let machine ← Program.get
  let data ← onMachineMotor index (holdMotorPayload setup machine.jointTorque index)
  sendPayload setup world (.payload (machine.motors index)) index data

def updateJointTorques (controlled : List (Index × Bool)) (targetJoint : Index → ℚ) :
    Native Unit := do
  let machine ← Program.get
  let torques ← Program.ofExcept (holdJointTorques setup.kinematics targetJoint
    machine.motors controlled fun _ => 0)
  Program.modify fun machine => { machine with jointTorque := torques }

def holdSlot (controlled : List (Index × Bool)) (targetJoint : Index → ℚ)
    (startNs : ℤ) (slot : ℕ) : Native Unit := do
  emit (.slot .active slot)
  let deadlineNs := startNs + slot * kTransportPeriodNs
  sleepUntil world
  let wokeNs ← monotonicNs world
  Program.runIf (slot % 4 = 0) do
    recordLateness wokeNs deadlineNs
    updateJointTorques setup controlled targetJoint
  forEachMotor fun index =>
    Program.runIf ((setup.loaded.descriptor index).due slot = true)
      (commandHoldMotor setup world index)
  drainHoldFeedback setup world 1 true

def checkHoldCoverage : Native Unit := do
  let machine ← Program.get
  forEachMotor fun index =>
    Program.throwIf (coverage (machine.motors index) < 95 / 100)
      ("measured-hold coverage failed for " ++ (setup.loaded.descriptor index).name)
  Program.throwIf (machine.deadlineMisses ≠ 0 ∨ 2 ≤ machine.maximumLatenessMs)
    "measured-hold realtime deadline gate failed"

def holdLoop (controlled : List (Index × Bool)) (targetJoint : Index → ℚ) :
    Native Unit := do
  let now ← monotonicNs world
  Program.forEach (List.range setup.transportSlots)
    (holdSlot setup world controlled targetJoint (now + 20000000))
  drainHoldFeedback setup world 1 true
  checkHoldCoverage setup

def measuredPoseHoldBody (controlled : List (Index × Bool)) : Native Unit := do
  capturePose setup world
  let machine ← Program.get
  let targetJoint := capturedJoint setup machine.motors
  enableHold setup world
  holdLoop setup world controlled targetJoint

def runNativeMeasuredPoseHold : Native RunReport := do
  let controlled ← Program.ofExcept
    (controlledJoints setup.kinematics controlledJointNames)
  poweredRun setup world (measuredPoseHoldBody setup world controlled)
    (drainHoldFeedback setup world (-1) false)
    "cannot open measured-hold report output"

/-- The run before its shutdown disables no drive. -/
theorem EmitsOnly.measuredPoseHoldBody (controlled : List (Index × Bool)) :
    EmitsOnly [.slot, .poll, .read, .enable, .payload]
      (SpriteRuntime.measuredPoseHoldBody setup world controlled) := by
  have reads := fun expectedStatus enforceGuards =>
    (drainHoldFeedback setup world expectedStatus enforceGuards).widen
      (by simp : [Kind.read] ⊆ [.slot, .poll, .read, .enable, .payload])
  refine .bind (.bind (monotonicNs world) fun _ => ?_) fun _ => .bind .get fun machine =>
    .bind (.bind ?_ fun _ => ?_) fun _ => .bind (monotonicNs world) fun now =>
      .bind (.forEach fun slot _ => ?_) fun _ => .bind (reads 1 true) fun _ =>
        .bind .get fun _ => .bind (forEachMotor fun _ => .throwIf _) fun _ => .throwIf _
  · refine .bind (.forEach fun slot _ => ?_) fun _ => .bind (reads 0 false) fun _ =>
      forEachMotor fun _ => onMachineMotor _ _
    refine .bind (emit (by simp [Event.kind])) fun _ => .bind (sleepUntil world) fun _ => ?_
    exact .bind ((pollDue setup world slot).widen (by simp)) fun _ => reads 0 false
  · exact forEachMotor fun index => (sendEnable setup world index).widen (by simp)
  · exact forEachMotor fun _ => onMachineMotor _ _
  · refine .bind (emit (by simp [Event.kind])) fun _ => .bind (sleepUntil world) fun _ => ?_
    refine .bind (monotonicNs world) fun wokeNs => .bind (.runIf ?_) fun _ => ?_
    · refine .bind (.modify fun _ => .of_eq rfl) fun _ => .bind .get fun _ => ?_
      exact .bind (.ofExcept _) fun _ => .modify fun _ => .of_eq rfl
    refine .bind (forEachMotor fun index => .runIf (.bind .get fun _ => ?_)) fun _ =>
      reads 1 true
    refine .bind (onMachineMotor _ _) fun data => ?_
    exact sendPayload setup world fun _ _ _ => by simp [Event.kind]

end Hold

end SpriteRuntime
