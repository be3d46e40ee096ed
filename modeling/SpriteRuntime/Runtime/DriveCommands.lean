import SpriteRuntime.Native.JointImpedance
import SpriteRuntime.Runtime.KinematicsExport
import SpriteRuntime.Runtime.MultiRateControl

/-!
# Motor commands from matrices and from drives

The native side computes with the exported matrices what the Python side computes drive by
drive: the torque of a motor, the commands of its impedance, and the torque of an ankle.
-/

namespace SpriteRuntime

open Foundation Matrix SpriteMultiRateController

/-! ## The columns of `motor_to_joint` -/

section Columns

variable {K : Type} [Field K] [LinearOrder K] [IsStrictOrderedRing K] {map : SpriteMotorMap K}
  {order : NativeMotorOrder} {matrices : NativeMatrices K} {drive : Drive K}

namespace DifferentialPairDriveMap

variable (pair : DifferentialPairDriveMap K)

omit [IsStrictOrderedRing K] in
theorem driveToJointMatrix_mulVec (velocity : Fin 2 → K) :
    pair.driveToJointMatrix *ᵥ velocity = pair.driveToJoint .velocity velocity := by
  rw [driveToJointMatrix, ← mulVec_mulVec]
  congr 1
  funext side
  rw [mulVec_diagonal]
  rfl

omit [IsStrictOrderedRing K] in
/-- The torques of a pair go by the transposed inverse of its matrix. -/
theorem driveToJointMatrix_transpose_mulVec (torque : Fin 2 → K) :
    pair.driveToJointMatrixᵀ *ᵥ torque = pair.jointToDrive .torque torque := by
  rw [driveToJointMatrix, transpose_mul, diagonal_transpose, ← cramerInverse_transpose,
    ← mulVec_mulVec]
  funext side
  rw [mulVec_diagonal]
  rfl

end DifferentialPairDriveMap

namespace SpriteMotorMap.MatricesOf

variable (matricesOf : map.MatricesOf order matrices) (motor : Index)

include matricesOf

omit [IsStrictOrderedRing K] in
/-- The joint velocities in a column turn its own motor and no other. -/
theorem toMotor_column (member : drive ∈ map.drives) :
    map.toMotor .velocity (fun joint => matrices.motorToJoint joint motor) drive =
      if map.motorName drive = order.names motor then 1 else 0 := by
  obtain ⟨own, same⟩ :=
    (matricesOf.inOrder _).mp (mem_physicalMotorNames.mpr ⟨drive, member, rfl⟩)
  have product := mul_eq_one_comm.mp matricesOf.inverse
  calc map.toMotor .velocity (fun joint => matrices.motorToJoint joint motor) drive
      = (matrices.jointToMotor *ᵥ fun joint => matrices.motorToJoint joint motor) own :=
        (mulVec_eq_toMotor (matricesOf.entry drive member own same) _).symm
    _ = (1 : Matrix Index Index K) own motor := by
        rw [← product]
        rfl
    _ = if map.motorName drive = order.names motor then 1 else 0 := by
        simp only [one_apply, ← same, order.distinct.eq_iff]

theorem motorToJoint_entry (member : drive ∈ map.drives) :
    matrices.motorToJoint (map.joint (map.jointName drive)) motor =
      map.toJoint .velocity (fun name => if name = order.names motor then 1 else 0) drive := by
  have column := @toJoint_toMotor _ _ _ _ map .velocity
    (fun joint => matrices.motorToJoint joint motor)
    (fun name => if name = order.names motor then 1 else 0)
    (fun _ inDrives => (matricesOf.toMotor_column motor inDrives).symm) _ member
  exact column.symm

variable {motor}

/-- The column of a motor of a pair is in the inverse of the matrix of the pair. -/
theorem motorToJoint_paired {pair : PairName} {side : Fin 2}
    (same : map.motorName (.paired pair side) = order.names motor) (other : Fin 2) :
    matrices.motorToJoint (map.pairJoints pair other) motor =
      (map.differentials pair).driveToJointMatrix other side := by
  have unit : (fun place => if (map.differentials pair).motorNames place = order.names motor
      then (1 : K) else 0) = Pi.single side 1 := by
    funext place
    have named : (map.differentials pair).motorNames side = order.names motor := same
    rw [← named, Pi.single_apply]
    by_cases own : place = side
    · rw [if_pos own, if_pos (congrArg _ own)]
    · rw [if_neg own, if_neg]
      intro sameName
      have drives := matricesOf.complete.drive_eq (mem_drives_paired pair place)
        (mem_drives_paired pair side) sameName
      cases drives
      exact own rfl
  calc matrices.motorToJoint (map.pairJoints pair other) motor
      = (map.differentials pair).driveToJoint .velocity
          (fun place => if (map.differentials pair).motorNames place = order.names motor
            then 1 else 0) other :=
        matricesOf.motorToJoint_entry motor (mem_drives_paired pair other)
    _ = (map.differentials pair).driveToJoint .velocity (Pi.single side 1) other := by rw [unit]
    _ = ((map.differentials pair).driveToJointMatrix *ᵥ Pi.single side 1) other := by
        rw [DifferentialPairDriveMap.driveToJointMatrix_mulVec]
    _ = (map.differentials pair).driveToJointMatrix other side := by
        rw [mulVec_single_one]
        rfl

/-- The transposed matrix takes joint torques to motor torques. -/
theorem sum_column (member : drive ∈ map.drives) (same : map.motorName drive = order.names motor)
    (torque : Index → K) :
    ∑ joint, matrices.motorToJoint joint motor * torque joint =
      map.toMotor .torque torque drive := by
  have distinct := matricesOf.complete.motors
  rw [← motorName_drives] at distinct
  calc ∑ joint, matrices.motorToJoint joint motor * torque joint
      = (map.drives.map fun other => torque (map.joint (map.jointName other)) *
          matrices.motorToJoint (map.joint (map.jointName other)) motor).sum := by
        simp only [mul_comm (matrices.motorToJoint _ _)]
        rw [matricesOf.complete.sum_joints]
    _ = (map.drives.map fun other => map.toMotor .torque torque other *
          map.toMotor .velocity (fun joint => matrices.motorToJoint joint motor) other).sum :=
        (sum_toMotor torque fun joint => matrices.motorToJoint joint motor).symm
    _ = (map.drives.map fun other => if map.motorName other = map.motorName drive
          then map.toMotor .torque torque other else 0).sum := by
        apply congrArg
        apply List.map_congr_left
        intro other inDrives
        rw [matricesOf.toMotor_column motor inDrives, ← same, mul_ite, mul_one, mul_zero]
    _ = map.toMotor .torque torque drive := sum_map_ite_key distinct member _

end SpriteMotorMap.MatricesOf

end Columns

/-! ## The impedance of a drive -/

section Impedance

variable {map : SpriteMotorMap ℚ}

theorem DirectMotorMap.jointImpedanceToDriveCommand_torqueAt (direct : DirectMotorMap ℚ)
    (vectors : ImpedanceVectors Unit) :
    (direct.jointImpedanceToDriveCommand vectors).torqueAt
        (direct.jointToDrive .position (vectors.measuredPosition ()))
        (direct.jointToDrive .velocity (vectors.measuredVelocity ())) =
      direct.jointToDrive .torque (rawTorque vectors ()) := by
  have square := direct.signedRatio_mul_self
  have regular := direct.signedRatio_ne_zero
  simp only [MitCommand.torqueAt, DirectMotorMap.jointImpedanceToDriveCommand,
    DirectMotorMap.jointToDrive, DirectMotorMap.jointToDriveGain, rawTorque, ← square]
  field_simp
  ring

/-- The velocities of a pair go by its matrix, the positions up to an offset. -/
theorem DifferentialPairDriveMap.jointToDrive_error (pair : DifferentialPairDriveMap ℚ)
    (desired measured : Fin 2 → ℚ) :
    pair.jointToDrive .position desired - pair.jointToDrive .position measured =
        pair.jointToDriveMatrix *ᵥ (desired - measured) ∧
      pair.jointToDrive .velocity desired - pair.jointToDrive .velocity measured =
        pair.jointToDriveMatrix *ᵥ (desired - measured) := by
  constructor
  · funext side
    simp only [jointToDrive, DifferentialPair.jointToMotor, jointToDriveMatrix, ← mulVec_mulVec,
      mulVec_diagonal, mulVec_sub, Pi.sub_apply, Pi.add_apply, Pi.mul_apply]
    ring
  · funext side
    simp only [jointToDrive, DifferentialPair.jointToMotor, jointToDriveMatrix, ← mulVec_mulVec,
      mulVec_diagonal, mulVec_sub, Pi.sub_apply, Pi.mul_apply]

/-- A gain of the pair asks its motors for the torque of the joint gain. -/
theorem DifferentialPairDriveMap.driveGain_mulVec (pair : DifferentialPairDriveMap ℚ)
    (gain error : Fin 2 → ℚ) :
    driveGain pair.driveToJointMatrix gain *ᵥ (pair.jointToDriveMatrix *ᵥ error) =
      pair.driveToJointMatrixᵀ *ᵥ (gain * error) := by
  rw [driveGain, mulVec_mulVec, Matrix.mul_assoc, pair.driveToJointMatrix_mul, Matrix.mul_one,
    ← mulVec_mulVec]
  congr 1
  funext side
  rw [mulVec_diagonal, Pi.mul_apply]

theorem DifferentialPairDriveMap.driveCommands_torqueAt (pair : DifferentialPairDriveMap ℚ)
    (vectors : ImpedanceVectors (Fin 2)) (side : Fin 2) :
    (pair.driveCommands pair.driveToJointMatrix vectors side).torqueAt
        (pair.jointToDrive .position vectors.measuredPosition side)
        (pair.jointToDrive .velocity vectors.measuredVelocity side) =
      pair.jointToDrive .torque (rawTorque vectors) side := by
  obtain ⟨position, _⟩ := pair.jointToDrive_error vectors.desiredPosition vectors.measuredPosition
  obtain ⟨_, velocity⟩ := pair.jointToDrive_error vectors.desiredVelocity vectors.measuredVelocity
  have law : rawTorque vectors =
      vectors.kp * (vectors.desiredPosition - vectors.measuredPosition) +
        vectors.kd * (vectors.desiredVelocity - vectors.measuredVelocity) +
        vectors.feedforward := rfl
  rw [law, ← driveToJointMatrix_transpose_mulVec, mulVec_add, mulVec_add, ← driveGain_mulVec,
    ← driveGain_mulVec, ← position, ← velocity]
  -- The diagonal gains that the split moves out of the feedforward are those of the command.
  simp only [MitCommand.torqueAt, driveCommands, sub_mulVec, mulVec_diagonal, Pi.add_apply,
    Pi.sub_apply, diag_apply]
  ring

/-- The command of a motor asks it for its share of the joint torques. -/
theorem SpriteMotorMap.command_torqueAt (vectors : ImpedanceVectors Index) (drive : Drive ℚ) :
    (map.command vectors drive).torqueAt
        (map.toMotor .position vectors.measuredPosition drive)
        (map.toMotor .velocity vectors.measuredVelocity drive) =
      map.toMotor .torque (rawTorque vectors) drive := by
  cases drive with
  | direct entry => exact entry.2.jointImpedanceToDriveCommand_torqueAt _
  | paired pair side => exact (map.differentials pair).driveCommands_torqueAt _ side

/-- A gain of the joints as a motor has it. -/
def SpriteMotorMap.ownGain (map : SpriteMotorMap ℚ) (gain : Index → ℚ) : Drive ℚ → ℚ
  | .direct entry => entry.2.jointToDriveGain (gain (map.joint entry.1))
  | .paired pair side =>
      DifferentialPairDriveMap.driveGain (map.differentials pair).driveToJointMatrix
        (fun side => gain (map.pairJoints pair side)) side side

theorem SpriteMotorMap.command_gains (vectors : ImpedanceVectors Index) (drive : Drive ℚ) :
    (map.command vectors drive).kp = map.ownGain vectors.kp drive ∧
      (map.command vectors drive).kd = map.ownGain vectors.kd drive := by
  cases drive with
  | direct entry => exact ⟨rfl, rfl⟩
  | paired pair side => exact ⟨rfl, rfl⟩

theorem SpriteMotorMap.command_desired (vectors : ImpedanceVectors Index) (drive : Drive ℚ) :
    (map.command vectors drive).position = map.toMotor .position vectors.desiredPosition drive ∧
      (map.command vectors drive).velocity =
        map.toMotor .velocity vectors.desiredVelocity drive := by
  cases drive with
  | direct entry => exact ⟨rfl, rfl⟩
  | paired pair side => exact ⟨rfl, rfl⟩

end Impedance

/-! ## The commands of the native side -/

section NativeCommands

/-- The matrices that the native side has loaded. -/
def NativeKinematics.matrices (kinematics : NativeKinematics) : NativeMatrices ℚ :=
  { motorOffset := kinematics.motorOffset
    jointToMotor := kinematics.jointToMotor
    motorToJoint := kinematics.motorToJoint }

/-- The target in exact numbers. -/
def TargetPacket.impedanceTarget (packet : TargetPacket) : ImpedanceTarget ℚ :=
  { position := fun joint => (packet.positionRad joint).value
    velocity := fun joint => (packet.velocityRadS joint).value
    kp := fun joint => (packet.kp joint).value
    kd := fun joint => (packet.kd joint).value
    feedforward := fun joint => (packet.feedforwardTorqueNm joint).value }

variable {map : SpriteMotorMap ℚ} {order : NativeMotorOrder} {kinematics : NativeKinematics}

theorem exportKinematics_spec {effort : Index → ℚ}
    (exported : map.exportKinematics order effort = .ok kinematics) :
    map.MatricesOf order kinematics.matrices ∧ kinematics.jointEffortLimit = effort ∧
      kinematics.jointNames = map.policyJointNames := by
  obtain ⟨matrices, computed, rest⟩ := except_bind_eq_ok.mp exported
  obtain ⟨_, _, returned⟩ := except_bind_eq_ok.mp rest
  cases returned
  exact ⟨SpriteMotorMap.nativeMatrices_spec computed, rfl, rfl⟩

variable (matricesOf : map.MatricesOf order kinematics.matrices) {drive : Drive ℚ} {motor : Index}
  (member : drive ∈ map.drives) (same : map.motorName drive = order.names motor)
  (target : TargetPacket) (motors : Index → MotorState)

include matricesOf member same

theorem desiredMotorPosition_eq : desiredMotorPosition kinematics target motor =
    map.toMotor .position target.impedanceTarget.position drive := by
  have offset := matricesOf.offset drive member motor same.symm
  have linear := SpriteMotorMap.mulVec_eq_toMotor
    (matricesOf.entry drive member motor same.symm) target.impedanceTarget.position
  rw [SpriteMotorMap.toMotor_position, ← offset, ← linear]
  rfl

theorem desiredMotorVelocity_eq : desiredMotorVelocity kinematics target motor =
    map.toMotor .velocity target.impedanceTarget.velocity drive := by
  rw [← SpriteMotorMap.mulVec_eq_toMotor (matricesOf.entry drive member motor same.symm)]
  rfl

/-- The measured joints put a motor where it was measured. -/
theorem toMotor_measured :
    map.toMotor .position (measuredJointPosition kinematics motors) drive =
        (motors motor).lastPosition ∧
      map.toMotor .velocity (measuredJointVelocity kinematics motors) drive =
        (motors motor).lastVelocity := by
  have product : kinematics.jointToMotor * kinematics.motorToJoint = 1 :=
    mul_eq_one_comm.mp matricesOf.inverse
  have linear (values : Index → ℚ) :
      map.toMotor .velocity (kinematics.motorToJoint *ᵥ values) drive = values motor := by
    rw [← SpriteMotorMap.mulVec_eq_toMotor (matricesOf.entry drive member motor same.symm)]
    change (kinematics.jointToMotor *ᵥ (kinematics.motorToJoint *ᵥ values)) motor = values motor
    rw [mulVec_mulVec, product, one_mulVec]
  have offset := matricesOf.offset drive member motor same.symm
  constructor
  · rw [SpriteMotorMap.toMotor_position, ← offset]
    refine (congrArg _ (linear fun other =>
      (motors other).lastPosition - kinematics.motorOffset other)).trans ?_
    exact add_sub_cancel _ _
  · exact linear fun other => (motors other).lastVelocity

theorem coupledGain_eq (gain : Index → ℚ) :
    coupledGain kinematics gain motor motor = map.ownGain gain drive := by
  have torque := matricesOf.sum_column member same
    fun joint => gain joint * kinematics.motorToJoint joint motor
  have swapped : coupledGain kinematics gain motor motor = ∑ joint,
      kinematics.matrices.motorToJoint joint motor *
        (gain joint * kinematics.motorToJoint joint motor) := by
    apply Finset.sum_congr rfl
    intro joint _
    exact mul_comm _ _
  rw [swapped, torque]
  cases drive with
  | direct entry =>
      have own : kinematics.motorToJoint (map.joint entry.1) motor = 1 / entry.2.signedRatio := by
        have named : entry.2.motorName = order.names motor := same
        have column := matricesOf.motorToJoint_entry motor member
        simp only [SpriteMotorMap.toJoint, DirectMotorMap.driveToJoint, if_pos named] at column
        exact column
      have regular := entry.2.signedRatio_ne_zero
      simp only [SpriteMotorMap.toMotor, DirectMotorMap.jointToDrive, SpriteMotorMap.ownGain,
        DirectMotorMap.jointToDriveGain, own, ← entry.2.signedRatio_mul_self]
      field_simp
  | paired pair side =>
      have own (other : Fin 2) : kinematics.motorToJoint (map.pairJoints pair other) motor =
          (map.differentials pair).driveToJointMatrix other side :=
        matricesOf.motorToJoint_paired same other
      simp only [SpriteMotorMap.toMotor, SpriteMotorMap.ownGain, own,
        ← DifferentialPairDriveMap.driveToJointMatrix_transpose_mulVec,
        DifferentialPairDriveMap.driveGain, Matrix.mul_assoc]
      rw [mul_apply]
      simp only [diagonal_mul]
      rfl

/-- What the native side computes for a motor is the command of its drive. -/
theorem coupledCommand_eq : coupledCommand kinematics target motors motor =
    map.command (impedance target.impedanceTarget (measuredJointPosition kinematics motors)
      (measuredJointVelocity kinematics motors)) drive := by
  let vectors := impedance target.impedanceTarget (measuredJointPosition kinematics motors)
    (measuredJointVelocity kinematics motors)
  have native := coupledCommand_torqueAt matricesOf.inverse target motors motor
  have python := map.command_torqueAt vectors drive
  have atPosition : map.toMotor .position vectors.measuredPosition drive =
      (motors motor).lastPosition := (toMotor_measured matricesOf member same motors).1
  have atVelocity : map.toMotor .velocity vectors.measuredVelocity drive =
      (motors motor).lastVelocity := (toMotor_measured matricesOf member same motors).2
  obtain ⟨kp, kd⟩ := map.command_gains vectors drive
  obtain ⟨position, velocity⟩ := map.command_desired vectors drive
  have torque : (coupledCommand kinematics target motors motor).torqueAt
      (motors motor).lastPosition (motors motor).lastVelocity =
        (map.command vectors drive).torqueAt (motors motor).lastPosition
          (motors motor).lastVelocity := by
    rw [native, ← atPosition, ← atVelocity, python]
    exact matricesOf.sum_column member same _
  have samePosition : (coupledCommand kinematics target motors motor).position =
      (map.command vectors drive).position :=
    (desiredMotorPosition_eq matricesOf member same target).trans position.symm
  have sameVelocity : (coupledCommand kinematics target motors motor).velocity =
      (map.command vectors drive).velocity :=
    (desiredMotorVelocity_eq matricesOf member same target).trans velocity.symm
  have sameKp : (coupledCommand kinematics target motors motor).kp =
      (map.command vectors drive).kp :=
    (coupledGain_eq matricesOf member same _).trans kp.symm
  have sameKd : (coupledCommand kinematics target motors motor).kd =
      (map.command vectors drive).kd :=
    (coupledGain_eq matricesOf member same _).trans kd.symm
  -- The feedforward is what the torque leaves when the gains and errors agree.
  simp only [MitCommand.torqueAt, samePosition, sameVelocity, sameKp, sameKd,
    add_right_inj] at torque
  change MitCommand.mk _ _ _ _ _ = MitCommand.mk _ _ _ _ _
  rw [MitCommand.mk.injEq]
  exact ⟨samePosition, sameVelocity, sameKp, sameKd, torque⟩

omit matricesOf member same in
theorem stdClamp_eq_npClip (value : ℚ) {limit : ℚ} (positive : 0 < limit) :
    stdClamp value (-limit) limit = npClip value (-limit) limit := by
  unfold stdClamp npClip
  by_cases low : value < -limit
  · rw [if_pos low, max_eq_right low.le, min_eq_left (by linarith)]
  · rw [if_neg low, max_eq_left (not_lt.mp low)]
    by_cases high : limit < value
    · rw [if_pos high, min_eq_right high.le]
    · rw [if_neg high, min_eq_left (not_lt.mp high)]

/-- The measurement of a motor as the Python side reads it. -/
def MotorState.reading (motor : MotorState) : MotorReading :=
  { position := motor.lastPosition
    velocity := motor.lastVelocity }

end NativeCommands

/-- An ankle motor gets its share of the limited torques of its pair. -/
theorem ankleCommand_eq {map : SpriteMotorMap ℚ} {order : NativeMotorOrder}
    {kinematics : NativeKinematics} (matricesOf : map.MatricesOf order kinematics.matrices)
    {pair : PairName} {side : Fin 2} {motor : Index}
    (same : map.motorName (.paired pair side) = order.names motor)
    (positive : ∀ joint, 0 < kinematics.jointEffortLimit joint)
    (ankles : ∀ side, kinematics.isAnkleJoint (map.pairJoints pair side) = true)
    (target : TargetPacket) (motors : Index → MotorState) :
    ankleCommand kinematics target motors motor =
      torqueCommand (motors motor).reading ((map.differentials pair).jointToDrive .torque
        (limitedTorque (fun side => kinematics.jointEffortLimit (map.pairJoints pair side))
          ((impedance target.impedanceTarget (measuredJointPosition kinematics motors)
            (measuredJointVelocity kinematics motors)).select (map.pairJoints pair))) side) := by
  let torque := fun joint => if kinematics.isAnkleJoint joint then
    jointTorque kinematics target motors joint else 0
  have feedforward : (∑ joint, if kinematics.isAnkleJoint joint then
      kinematics.motorToJoint joint motor * jointTorque kinematics target motors joint else 0) =
        map.toMotor .torque torque (.paired pair side) := by
    rw [← matricesOf.sum_column (SpriteMotorMap.mem_drives_paired pair side) same]
    apply Finset.sum_congr rfl
    intro joint _
    rw [mul_ite, mul_zero]
    rfl
  have limited : (fun side => torque (map.pairJoints pair side)) =
      limitedTorque (fun side => kinematics.jointEffortLimit (map.pairJoints pair side))
        ((impedance target.impedanceTarget (measuredJointPosition kinematics motors)
          (measuredJointVelocity kinematics motors)).select (map.pairJoints pair)) := by
    funext side
    simp only [torque, if_pos (ankles side)]
    exact stdClamp_eq_npClip _ (positive _)
  rw [ankleCommand, feedforward, SpriteMotorMap.toMotor, limited]
  rfl

end SpriteRuntime
