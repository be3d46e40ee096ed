import SpriteRuntime.Runtime.MotorDrives

/-!
# Joint and motor spaces

The maps between the joints and the motors are inverse to each other, and a torque does the
same work at a velocity in both spaces.
-/

namespace SpriteRuntime

open Foundation Matrix

variable {K : Type} [Field K] [LinearOrder K] [IsStrictOrderedRing K]

/-! ## One drive -/

namespace DirectMotorMap

variable (direct : DirectMotorMap K) (kind : DriveKind) (value : K)

@[simp] theorem driveToJoint_jointToDrive :
    direct.driveToJoint kind (direct.jointToDrive kind value) = value := by
  have regular := direct.signedRatio_ne_zero
  cases kind with
  | position => simp [driveToJoint, jointToDrive, regular]
  | velocity => simp [driveToJoint, jointToDrive, regular]
  | torque => simp [driveToJoint, jointToDrive, mul_div_cancel₀, regular]

@[simp] theorem jointToDrive_driveToJoint :
    direct.jointToDrive kind (direct.driveToJoint kind value) = value := by
  have regular := direct.signedRatio_ne_zero
  cases kind with
  | position => simp [driveToJoint, jointToDrive, mul_div_cancel₀, regular]
  | velocity => simp [driveToJoint, jointToDrive, mul_div_cancel₀, regular]
  | torque => simp [driveToJoint, jointToDrive, regular]

theorem power (torque velocity : K) :
    direct.jointToDrive .torque torque * direct.jointToDrive .velocity velocity =
      torque * velocity := by
  have regular := direct.signedRatio_ne_zero
  simp only [jointToDrive]
  field_simp

end DirectMotorMap

namespace DifferentialPair

variable (pair : DifferentialPair K) (kind : DriveKind) (values : Fin 2 → K)

theorem solve_mulVec : pair.solve (pair.jointToMotorMatrix *ᵥ values) = values := by
  rw [solve, mulVec_mulVec, cramerInverse_mul pair.det_ne_zero, one_mulVec]

theorem mulVec_solve : pair.jointToMotorMatrix *ᵥ pair.solve values = values := by
  rw [solve, mulVec_mulVec, mul_cramerInverse pair.det_ne_zero, one_mulVec]

theorem transpose_det_ne_zero : pair.jointToMotorMatrixᵀ.det ≠ 0 := by
  rw [det_transpose]
  exact pair.det_ne_zero

theorem solveTransposed_mulVec :
    pair.solveTransposed (pair.jointToMotorMatrixᵀ *ᵥ values) = values := by
  rw [solveTransposed, mulVec_mulVec, cramerInverse_mul pair.transpose_det_ne_zero, one_mulVec]

theorem mulVec_solveTransposed :
    pair.jointToMotorMatrixᵀ *ᵥ pair.solveTransposed values = values := by
  rw [solveTransposed, mulVec_mulVec, mul_cramerInverse pair.transpose_det_ne_zero, one_mulVec]

@[simp] theorem motorToJoint_jointToMotor :
    pair.motorToJoint kind (pair.jointToMotor kind values) = values := by
  cases kind with
  | position =>
      simp only [motorToJoint, jointToMotor, add_sub_cancel_right, solve_mulVec]
  | velocity => simp only [motorToJoint, jointToMotor, solve_mulVec]
  | torque => simp only [motorToJoint, jointToMotor, mulVec_solveTransposed]

@[simp] theorem jointToMotor_motorToJoint :
    pair.jointToMotor kind (pair.motorToJoint kind values) = values := by
  cases kind with
  | position =>
      simp only [motorToJoint, jointToMotor, mulVec_solve, sub_add_cancel]
  | velocity => simp only [motorToJoint, jointToMotor, mulVec_solve]
  | torque => simp only [motorToJoint, jointToMotor, solveTransposed_mulVec]

/-- The torques go with the inverse of the transposed matrix of the velocities. -/
theorem power (torque velocity : Fin 2 → K) :
    pair.jointToMotor .torque torque ⬝ᵥ pair.jointToMotor .velocity velocity =
      torque ⬝ᵥ velocity := by
  calc pair.solveTransposed torque ⬝ᵥ (pair.jointToMotorMatrix *ᵥ velocity)
      = (pair.jointToMotorMatrixᵀ *ᵥ pair.solveTransposed torque) ⬝ᵥ velocity := by
        rw [dotProduct_mulVec, mulVec_transpose]
    _ = torque ⬝ᵥ velocity := by rw [mulVec_solveTransposed]

end DifferentialPair

namespace DifferentialPairDriveMap

variable (pair : DifferentialPairDriveMap K) (kind : DriveKind) (values : Fin 2 → K)

omit [IsStrictOrderedRing K] in
/-- The sign of a drive applied twice. -/
theorem encoderSign_mul : pair.encoderSign * (pair.encoderSign * values) = values := by
  funext side
  rw [Pi.mul_apply, Pi.mul_apply, ← mul_assoc, (pair.encoder side).mul_self, one_mul]

@[simp] theorem driveToJoint_jointToDrive :
    pair.driveToJoint kind (pair.jointToDrive kind values) = values := by
  cases kind <;> simp [driveToJoint, jointToDrive, encoderSign_mul]

@[simp] theorem jointToDrive_driveToJoint :
    pair.jointToDrive kind (pair.driveToJoint kind values) = values := by
  cases kind <;> simp [driveToJoint, jointToDrive, encoderSign_mul]

theorem power (torque velocity : Fin 2 → K) :
    pair.jointToDrive .torque torque ⬝ᵥ pair.jointToDrive .velocity velocity =
      torque ⬝ᵥ velocity := by
  rw [← pair.coupling.power torque velocity]
  apply Finset.sum_congr rfl
  intro side _
  have sign := (pair.encoder side).mul_self
  calc pair.encoderSign side * pair.coupling.jointToMotor .torque torque side *
        (pair.encoderSign side * pair.coupling.jointToMotor .velocity velocity side)
      = (pair.encoderSign side * pair.encoderSign side) *
          (pair.coupling.jointToMotor .torque torque side *
            pair.coupling.jointToMotor .velocity velocity side) := by ring
    _ = _ := by rw [sign, one_mul]

end DifferentialPairDriveMap

namespace SpriteMotorMap

variable {map : SpriteMotorMap K}

/-! ## All drives -/

/-- The values that a dictionary has for the motors; zero for other names. -/
def motorValue (motor : Dictionary K) (name : String) : K := (motor.get? name).getD 0

/-- The mechanical power of the motors. -/
def motorPower (map : SpriteMotorMap K) (torque velocity : Dictionary K) : K :=
  (map.physicalMotorNames.map fun name =>
    motorValue torque name * motorValue velocity name).sum

omit [IsStrictOrderedRing K] in
/-- The power depends on what the dictionaries have, not on how they were made. -/
theorem motorPower_congr {torque velocity otherTorque otherVelocity : Dictionary K}
    (sameTorque : ∀ name, torque.get? name = otherTorque.get? name)
    (sameVelocity : ∀ name, velocity.get? name = otherVelocity.get? name) :
    map.motorPower torque velocity = map.motorPower otherTorque otherVelocity := by
  simp only [motorPower, motorValue, sameTorque, sameVelocity]

/-- The mechanical power of the joints. -/
def jointPower (torque velocity : Index → K) : K := ∑ joint, torque joint * velocity joint

omit [IsStrictOrderedRing K] in
/-- A sum over the joints, drive by drive. -/
theorem Complete.sum_joints (complete : map.Complete) (value : Index → K) :
    ∑ joint, value joint =
      (map.drives.map fun drive => value (map.joint (map.jointName drive))).sum := by
  have distinct : (map.drives.map fun drive => map.joint (map.jointName drive)).Nodup := by
    have names := @jointName_nodup _ _ _ map
    rw [List.nodup_map_iff_inj_on names.of_map]
    intro left inLeft right inRight same
    apply List.inj_on_of_nodup_map names inLeft inRight
    rw [← complete.joints.policyJointNames_joint inLeft, same,
      complete.joints.policyJointNames_joint inRight]
  have all : (map.drives.map fun drive => map.joint (map.jointName drive)).toFinset =
      Finset.univ := by
    apply Finset.eq_univ_of_forall
    intro joint
    obtain ⟨drive, member, same⟩ := @exists_drive _ _ _ map joint
    rw [List.mem_toFinset, List.mem_map]
    exact ⟨drive, member, by rw [same, joint_policyJointNames]⟩
  rw [← all, List.sum_toFinset _ distinct, List.map_map]
  rfl

omit [IsStrictOrderedRing K] in
theorem sum_drives (value : Drive K → K) : (map.drives.map value).sum =
    (map.direct.map fun entry => value (.direct entry)).sum +
      (PairName.all.map fun pair => ∑ side, value (.paired pair side)).sum := by
  rw [drives_map, List.sum_append, List.sum_flatten, List.map_map]
  simp only [Function.comp_def, List.sum_ofFn]

theorem sum_toMotor (torque velocity : Index → K) :
    (map.drives.map fun drive =>
      map.toMotor .torque torque drive * map.toMotor .velocity velocity drive).sum =
    (map.drives.map fun drive => torque (map.joint (map.jointName drive)) *
      velocity (map.joint (map.jointName drive))).sum := by
  rw [sum_drives, sum_drives]
  congr 1
  · simp only [toMotor, DirectMotorMap.power, jointName]
  · congr 1
    apply List.map_congr_left
    intro pair _
    exact (map.differentials pair).power (fun side => torque (map.pairJoints pair side))
      fun side => velocity (map.pairJoints pair side)

theorem toJoint_toMotor {kind : DriveKind} {vector : Index → K} {motor : String → K}
    (assigned : ∀ drive ∈ map.drives, motor (map.motorName drive) = map.toMotor kind vector drive)
    {drive : Drive K} (member : drive ∈ map.drives) :
    map.toJoint kind motor drive = vector (map.joint (map.jointName drive)) := by
  cases drive with
  | direct entry =>
      have here := assigned _ member
      simp only [motorName, toMotor] at here
      rw [toJoint, here, DirectMotorMap.driveToJoint_jointToDrive]
      rfl
  | paired pair side =>
      have here : (fun side => motor ((map.differentials pair).motorNames side)) =
          (map.differentials pair).jointToDrive kind
            fun side => vector (map.pairJoints pair side) :=
        funext fun side => assigned _ (mem_drives_paired pair side)
      rw [toJoint, here, DifferentialPairDriveMap.driveToJoint_jointToDrive]
      rfl

theorem toMotor_toJoint {kind : DriveKind} {vector : Index → K} {motor : String → K}
    (assigned : ∀ drive ∈ map.drives,
      vector (map.joint (map.jointName drive)) = map.toJoint kind motor drive)
    {drive : Drive K} (member : drive ∈ map.drives) :
    map.toMotor kind vector drive = motor (map.motorName drive) := by
  cases drive with
  | direct entry =>
      have here := assigned _ member
      simp only [jointName, toJoint] at here
      rw [toMotor, here, DirectMotorMap.jointToDrive_driveToJoint]
      rfl
  | paired pair side =>
      have here : (fun side => vector (map.pairJoints pair side)) =
          (map.differentials pair).driveToJoint kind
            fun side => motor ((map.differentials pair).motorNames side) :=
        funext fun side => assigned _ (mem_drives_paired pair side)
      rw [toMotor, here, DifferentialPairDriveMap.jointToDrive_driveToJoint]
      rfl

section Complete

variable (complete : map.Complete)

include complete

theorem Complete.motorValue_motorEntries {value : Drive K → K} {drive : Drive K}
    (member : drive ∈ map.drives) :
    motorValue (map.motorEntries value) (map.motorName drive) = value drive := by
  rw [motorValue, complete.get?_motorEntries member]
  rfl

theorem Complete.motorToJoint_motorEntries (kind : DriveKind) (vector : Index → K) :
    map.motorToJoint kind (map.motorEntries (map.toMotor kind vector)) = .ok vector := by
  have read (name : String) (member : name ∈ map.physicalMotorNames) :
      (map.motorEntries (map.toMotor kind vector)).get? name =
        some (motorValue (map.motorEntries (map.toMotor kind vector)) name) := by
    obtain ⟨drive, inDrives, rfl⟩ := mem_physicalMotorNames.mp member
    rw [complete.motorValue_motorEntries inDrives, complete.get?_motorEntries inDrives]
  obtain ⟨result, found, joints⟩ := @Complete.motorToJoint_eq _ _ _ _ complete kind _ _
    covers_motorEntries read
  have same : result = vector := by
    funext joint
    obtain ⟨drive, member, name⟩ := @exists_drive _ _ _ map joint
    have here := joints drive member
    have back : map.toJoint kind _ drive = vector (map.joint (map.jointName drive)) :=
      toJoint_toMotor (fun _ => complete.motorValue_motorEntries) member
    rw [back, name, joint_policyJointNames] at here
    exact here
  rw [found, same]

/-- A motor vector read as joints gives the same motor vector again. -/
theorem Complete.motorToJoint_jointToMotor {kind : DriveKind} {motor : Dictionary K}
    (covers : Covers map.physicalMotorNames motor) :
    ∃ vector again, map.motorToJoint kind motor = .ok vector ∧
      map.jointToMotor kind vector = .ok again ∧
      ∀ name, again.get? name = motor.get? name := by
  have read (name : String) (member : name ∈ map.physicalMotorNames) :
      motor.get? name = some (motorValue motor name) := by
    obtain ⟨value, found⟩ := Dictionary.exists_get? (covers.2 name member)
    rw [motorValue, found]
    rfl
  obtain ⟨vector, found, joints⟩ := complete.motorToJoint_eq covers read
  refine ⟨vector, _, found, complete.jointToMotor_eq kind vector, ?_⟩
  intro name
  by_cases member : name ∈ map.physicalMotorNames
  · rw [read name member]
    obtain ⟨drive, inDrives, rfl⟩ := mem_physicalMotorNames.mp member
    rw [complete.get?_motorEntries inDrives, toMotor_toJoint joints inDrives]
  · rw [Dictionary.get?_eq_none fun inKeys => member (covers.1 name inKeys),
      Dictionary.get?_eq_none]
    rw [keys_motorEntries]
    exact member

theorem Complete.motorPower_motorEntries (torque velocity : Index → K) :
    map.motorPower (map.motorEntries (map.toMotor .torque torque))
      (map.motorEntries (map.toMotor .velocity velocity)) = jointPower torque velocity := by
  calc map.motorPower (map.motorEntries (map.toMotor .torque torque))
        (map.motorEntries (map.toMotor .velocity velocity))
      = (map.drives.map fun drive =>
          map.toMotor .torque torque drive * map.toMotor .velocity velocity drive).sum := by
        rw [motorPower, ← motorName_drives, List.map_map]
        apply congrArg
        apply List.map_congr_left
        intro drive member
        rw [Function.comp_apply, complete.motorValue_motorEntries member,
          complete.motorValue_motorEntries member]
    _ = jointPower torque velocity := by
        rw [sum_toMotor, jointPower,
          complete.sum_joints fun joint => torque joint * velocity joint]

end Complete

end SpriteMotorMap

end SpriteRuntime
