import SpriteRuntime.Foundation.Impedance
import SpriteRuntime.Native.Preview

/-!
# The joint PD law behind the motor commands

A refreshed, unsaturated command asks its motor for the torque that the joint PD
law, carried through `motor_to_joint`, asks of it; the coupling between motors
is in the feedforward.
-/

namespace SpriteRuntime

open Foundation Matrix

section JointPdLaw

variable {kinematics : NativeKinematics}

private theorem desired_error_position
    (inverse : kinematics.motorToJoint * kinematics.jointToMotor = 1)
    (target : TargetPacket) (motors : Index → MotorState) (joint : Index) :
    (kinematics.motorToJoint *ᵥ fun motor =>
        desiredMotorPosition kinematics target motor - (motors motor).lastPosition)
        joint =
      (target.positionRad joint).value - measuredJointPosition kinematics motors joint :=
  congrFun (mulVec_affine_error inverse (fun joint => (target.positionRad joint).value)
    (fun motor => (motors motor).lastPosition) kinematics.motorOffset) joint

private theorem desired_error_velocity
    (inverse : kinematics.motorToJoint * kinematics.jointToMotor = 1)
    (target : TargetPacket) (motors : Index → MotorState) (joint : Index) :
    (kinematics.motorToJoint *ᵥ fun motor =>
        desiredMotorVelocity kinematics target motor - (motors motor).lastVelocity)
        joint =
      (target.velocityRadS joint).value - measuredJointVelocity kinematics motors joint := by
  have error := congrFun (mulVec_affine_error inverse
    (fun joint => (target.velocityRadS joint).value)
    (fun motor => (motors motor).lastVelocity) 0) joint
  simpa [desiredMotorVelocity, measuredJointVelocity, mulVec, dotProduct,
    Pi.add_def, Pi.sub_def] using error

/-- The command of a motor that is not an ankle motor produces the joint PD
torque that `motor_to_joint` assigns to the motor. -/
theorem coupledCommand_torqueAt
    (inverse : kinematics.motorToJoint * kinematics.jointToMotor = 1)
    (target : TargetPacket) (motors : Index → MotorState) (motor : Index) :
    (coupledCommand kinematics target motors motor).torqueAt
        (motors motor).lastPosition (motors motor).lastVelocity =
      ∑ joint, kinematics.motorToJoint joint motor *
        rawJointTorque kinematics target motors joint := by
  let positionError := fun other =>
    desiredMotorPosition kinematics target other - (motors other).lastPosition
  let velocityError := fun other =>
    desiredMotorVelocity kinematics target other - (motors other).lastVelocity
  let kp := fun joint => (target.kp joint).value
  let kd := fun joint => (target.kd joint).value
  let summand := fun other =>
    congruentGain kinematics.motorToJoint kp motor other * positionError other +
      congruentGain kinematics.motorToJoint kd motor other * velocityError other
  let feedforward := ∑ joint, kinematics.motorToJoint joint motor *
    (target.feedforwardTorqueNm joint).value
  have collected :
      (coupledCommand kinematics target motors motor).torqueAt
          (motors motor).lastPosition (motors motor).lastVelocity =
        (summand motor + ∑ other, if other = motor then 0 else summand other) +
          feedforward := by
    simp only [coupledCommand, MitCommand.torqueAt, summand, feedforward]
    change congruentGain kinematics.motorToJoint kp motor motor * positionError motor +
        congruentGain kinematics.motorToJoint kd motor motor * velocityError motor +
        (feedforward + ∑ other, if other = motor then 0 else summand other) = _
    ring
  rw [collected, add_sum_hole, Finset.sum_add_distrib, sum_congruentGain_mul,
    sum_congruentGain_mul, ← Finset.sum_add_distrib, ← Finset.sum_add_distrib]
  apply Finset.sum_congr rfl
  intro joint _
  rw [desired_error_position inverse, desired_error_velocity inverse, rawJointTorque]
  ring

end JointPdLaw

/-- The joint PD law behind every refreshed, unsaturated command: a motor that is
not an ankle motor is asked for its share of the joint torques, an ankle motor
for its share of the limited torques of the ankle joints. -/
theorem previewFinalMotorCommands_jointTorque
    {descriptors : Index → MotorDescriptor} {kinematics : NativeKinematics}
    {saturate : Bool} {before after : ControlState}
    (inverse : kinematics.motorToJoint * kinematics.jointToMotor = 1)
    (hasTarget : before.ipc.hasTarget = true)
    (returned : previewFinalMotorCommands descriptors kinematics saturate before =
      (.done (), after)) (motor : Index)
    (refreshed :
      refreshes (descriptors motor) before.ipc.motorPreviewCount = true)
    (unsaturated : (after.motors motor).policyTorqueSaturationCount =
      (before.motors motor).policyTorqueSaturationCount) :
    let target := before.ipc.latestTarget
    let measured := before.motors motor
    let command := (after.motors motor).preview
    let torque : Index → ℚ := fun joint =>
      (target.kp joint).value *
          ((target.positionRad joint).value -
            measuredJointPosition kinematics before.motors joint) +
        (target.kd joint).value *
          ((target.velocityRadS joint).value -
            measuredJointVelocity kinematics before.motors joint) +
        (target.feedforwardTorqueNm joint).value
    if (descriptors motor).isAnkleMotor then
      command.kp = 0 ∧ command.kd = 0 ∧ command.velocity = 0 ∧
        command.position = measured.lastPosition ∧
        command.feedforwardTorque =
          ∑ joint with kinematics.isAnkleJoint joint,
            kinematics.motorToJoint joint motor *
              stdClamp (torque joint) (-kinematics.jointEffortLimit joint)
                (kinematics.jointEffortLimit joint)
    else
      command.kp * (command.position - measured.lastPosition) +
          command.kd * (command.velocity - measured.lastVelocity) +
          command.feedforwardTorque =
        ∑ joint, kinematics.motorToJoint joint motor * torque joint := by
  intro target measured command torque
  have fresh := previewFinalMotorCommands_unsaturated hasTarget returned refreshed
    unsaturated
  unfold freshCommand at fresh
  split
  next ankle =>
      rw [if_pos ankle] at fresh
      have held : ankleCommand kinematics target before.motors motor = command :=
        Option.some.inj fresh
      rw [← held]
      refine ⟨rfl, rfl, rfl, rfl, ?_⟩
      rw [Finset.sum_filter]
      rfl
  next other =>
      have phase : before.ipc.motorPreviewCount % 10 = 0 := by
        simpa [refreshes, other] using refreshed
      rw [if_neg other, if_pos phase] at fresh
      have held : coupledCommand kinematics target before.motors motor = command :=
        Option.some.inj fresh
      rw [← held]
      exact coupledCommand_torqueAt inverse target before.motors motor

/-- Decoupled joints, the first of them an ankle joint on an ankle motor. -/
theorem previewFinalMotorCommands_jointTorque_decoupled :
    let descriptors : Index → MotorDescriptor := fun motor =>
      if motor = 0 then { MotorDescriptor.testMotor with name := "left_ankle_motor_a" }
      else MotorDescriptor.testMotor
    let target : TargetPacket :=
      { TargetPacket.zero with
        positionRad := fun _ => .finite (1 / 10)
        kp := fun _ => .finite 40 }
    let before : ControlState :=
      { motors := fun _ => {}
        ipc := { latestTarget := target, hasTarget := true } }
    ∃ after, previewFinalMotorCommands descriptors decoupledKinematics false before =
        (.done (), after) ∧
      (after.motors 0).preview.feedforwardTorque = 3 ∧
      (after.motors 1).preview.torqueAt 0 0 = 4 := by
  intro descriptors target before
  have ankle : freshCommand (descriptors 0) decoupledKinematics before 0 =
      some { feedforwardTorque := 3 } := by
    have name : (descriptors 0).isAnkleMotor = true := by decide +kernel
    have joints : ∀ joint, decoupledKinematics.isAnkleJoint joint = decide (joint = 0) := by
      decide +kernel
    simp [freshCommand, name, ankleCommand, joints, Matrix.one_apply,
      jointTorque, rawJointTorque, measuredJointPosition, measuredJointVelocity,
      before, target, stdClamp, Double.value, TargetPacket.zero]
    norm_num
  have other : ∀ motor, motor ≠ 0 →
      freshCommand (descriptors motor) decoupledKinematics before motor =
        some { position := 1 / 10, kp := 40 } := by
    intro motor different
    have name : (descriptors motor).isAnkleMotor = false := by
      simp only [descriptors, different, if_false]
      decide +kernel
    have coupling : (∑ joint, if joint = motor then (0 : ℚ)
        else if joint = motor then 40 * 10⁻¹ else 0) = 0 :=
      Finset.sum_eq_zero fun joint _ => by split <;> rfl
    simpa [freshCommand, name, coupledCommand, coupledGain,
      Matrix.one_apply, desiredMotorPosition, desiredMotorVelocity, before, target,
      Double.value, TargetPacket.zero] using coupling
  have returns : ∀ motor, (previewMotor (descriptors motor) false
      (freshCommand (descriptors motor) decoupledKinematics before motor)
      {}).1.isDone = true := by
    intro motor
    by_cases first : motor = 0
    · rw [first, ankle]
      decide +kernel
    · rw [other motor first]
      simp only [descriptors, first, if_false]
      decide +kernel
  obtain ⟨after, returned⟩ := previewFinalMotorCommands_isDone returns
  have unsaturated := previewFinalMotorCommands_saturationCount rfl returned
  have inverse : decoupledKinematics.motorToJoint * decoupledKinematics.jointToMotor = 1 := by
    simp
  refine ⟨after, returned, ?_, ?_⟩
  · have law := previewFinalMotorCommands_jointTorque inverse rfl returned 0
      (by decide +kernel) (unsaturated 0)
    have ankleMotor : (descriptors 0).isAnkleMotor = true := by decide +kernel
    have joints : ∀ joint, decoupledKinematics.isAnkleJoint joint = decide (joint = 0) := by
      decide +kernel
    simp only [ankleMotor, if_true, joints, decide_eq_true_eq] at law
    rw [law.2.2.2.2, Finset.sum_filter]
    simp [Matrix.one_apply, measuredJointPosition, measuredJointVelocity,
      before, target, stdClamp, Double.value, TargetPacket.zero]
    norm_num
  · have law := previewFinalMotorCommands_jointTorque inverse rfl returned 1
      (by decide +kernel) (unsaturated 1)
    have otherMotor : (descriptors 1).isAnkleMotor = false := by decide +kernel
    simp only [otherMotor, if_false] at law
    refine law.trans ?_
    simp [Matrix.one_apply, measuredJointPosition, measuredJointVelocity,
      before, target, Double.value, TargetPacket.zero]
    norm_num

end SpriteRuntime
