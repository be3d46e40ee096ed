import Mathlib.LinearAlgebra.Matrix.ToLinearEquiv
import SpriteRuntime.Native.Kinematics
import SpriteRuntime.Runtime.MotorPower

/-!
# The kinematics that the native side loads

A motor map is written as offsets and two matrices, whose rows and columns go by the order
that the native side has for the motors.  The numbers of the file read back as they were
written.
-/

namespace SpriteRuntime

open Foundation Matrix

/-- The motors in the order of their buses and ids; the names are keys of a dictionary. -/
structure NativeMotorOrder where
  names : Index → String
  distinct : Function.Injective names

structure NativeMatrices (K : Type) where
  motorOffset : Index → K
  jointToMotor : Matrix Index Index K
  motorToJoint : Matrix Index Index K

variable {K : Type} [Field K] [LinearOrder K]

namespace SpriteMotorMap

section Export

variable (map : SpriteMotorMap K) (order : NativeMotorOrder)

/-- The motor positions for joint positions, in the native order. -/
def nativePositions (vector : Index → K) : Except String (Index → K) := do
  let values ← map.jointToMotor .position vector
  collect fun index => values.item (order.names index)

/-- The columns of `joint_to_motor`. -/
def nativeColumns (offset : Index → K) : Except String (Index → Index → K) :=
  collect fun column => do
    let values ← map.nativePositions order (Pi.single column 1)
    return fun row => values row - offset row

/-- The matrices as `export_native_kinematics_config` and `verify_native_policy_chain` compute
them. -/
def nativeMatrices : Except String (NativeMatrices K) := do
  let offset ← map.nativePositions order 0
  let columns ← map.nativeColumns order offset
  let jointToMotor : Matrix Index Index K := fun row column => columns column row
  let motorToJoint ← linalgInv jointToMotor
  return { motorOffset := offset
           jointToMotor
           motorToJoint }

end Export

/-- `np.allclose` to the identity. -/
def CloseToOne (matrix : Matrix Index Index ℚ) : Prop :=
  ∀ row column, |matrix row column - (1 : Matrix Index Index ℚ) row column| ≤
    1 / 1000000000000 + 1 / 100000 * |(1 : Matrix Index Index ℚ) row column|

instance (matrix : Matrix Index Index ℚ) : Decidable (CloseToOne matrix) :=
  inferInstanceAs (Decidable (∀ _ _, _ ≤ _))

/-- `main` of `export_native_kinematics_config`. -/
def exportKinematics (map : SpriteMotorMap ℚ) (order : NativeMotorOrder) (effort : Index → ℚ) :
    Except String NativeKinematics := do
  let matrices ← map.nativeMatrices order
  raiseIf (¬CloseToOne (matrices.motorToJoint * matrices.jointToMotor))
    "native kinematics matrices are not inverse"
  return { jointNames := map.policyJointNames
           motorOffset := matrices.motorOffset
           jointEffortLimit := effort
           jointToMotor := matrices.jointToMotor
           motorToJoint := matrices.motorToJoint }

/-! ## What is exported -/

section Exported

variable {map : SpriteMotorMap K} {order : NativeMotorOrder}

/-- The order has every motor of the map and no other. -/
def InOrder (map : SpriteMotorMap K) (order : NativeMotorOrder) : Prop :=
  ∀ name, name ∈ map.physicalMotorNames ↔ ∃ motor, order.names motor = name

/-- Thirty-one motors of a map with thirty-one motors are all of them. -/
theorem Complete.inOrder (complete : map.Complete)
    (members : ∀ motor, order.names motor ∈ map.physicalMotorNames) : map.InOrder order := by
  let ordered := Finset.univ.image order.names
  have orderedCard : ordered.card = 31 := by
    rw [Finset.card_image_of_injective _ order.distinct, Finset.card_univ, Fintype.card_fin]
    rfl
  have within : ordered ⊆ map.physicalMotorNames.toFinset := by
    intro name member
    obtain ⟨motor, _, rfl⟩ := Finset.mem_image.mp member
    exact List.mem_toFinset.mpr (members motor)
  have all : ordered = map.physicalMotorNames.toFinset := by
    apply Finset.eq_of_subset_of_card_le within
    rw [List.toFinset_card_of_nodup complete.motors,
      length_physicalMotorNames.mpr complete.joints, orderedCard]
  intro name
  rw [← List.mem_toFinset, ← all]
  simp [ordered]

/-- The drive of a motor. -/
theorem InOrder.exists_drive (inOrder : map.InOrder order) (motor : Index) :
    ∃ drive ∈ map.drives, map.motorName drive = order.names motor :=
  mem_physicalMotorNames.mp ((inOrder _).mpr ⟨motor, rfl⟩)

/-- The velocities of the motors are linear in those of the joints. -/
theorem toMotor_velocity_linear (drive : Drive K) :
    IsLinearMap K fun vector => map.toMotor .velocity vector drive := by
  cases drive with
  | direct entry =>
      constructor
      · intro left right
        simp only [toMotor, DirectMotorMap.jointToDrive, Pi.add_apply, mul_add]
      · intro factor vector
        simp only [toMotor, DirectMotorMap.jointToDrive, Pi.smul_apply, smul_eq_mul]
        ring
  | paired pair side =>
      constructor
      · intro left right
        simp only [toMotor, DifferentialPairDriveMap.jointToDrive, DifferentialPair.jointToMotor,
          mulVec, dotProduct, Fin.sum_univ_two, Pi.mul_apply, Pi.add_apply]
        ring
      · intro factor vector
        simp only [toMotor, DifferentialPairDriveMap.jointToDrive, DifferentialPair.jointToMotor,
          mulVec, dotProduct, Fin.sum_univ_two, Pi.mul_apply, Pi.smul_apply, smul_eq_mul]
        ring

theorem toMotor_velocity_eq_sum (drive : Drive K) (vector : Index → K) :
    map.toMotor .velocity vector drive =
      ∑ joint, map.toMotor .velocity (Pi.single joint 1) drive * vector joint := by
  have sum := LinearMap.pi_apply_eq_sum_univ ((@toMotor_velocity_linear _ _ _ map drive).mk' _)
    vector
  rw [IsLinearMap.mk'_apply] at sum
  rw [sum]
  apply Finset.sum_congr rfl
  intro joint _
  have unit : (fun other => if joint = other then (1 : K) else 0) = Pi.single joint 1 := by
    funext other
    simp [Pi.single_apply, eq_comm]
  rw [IsLinearMap.mk'_apply, unit, smul_eq_mul, mul_comm]

/-- The position of a motor is that of the zero pose and what the joints add. -/
theorem toMotor_position (drive : Drive K) (vector : Index → K) :
    map.toMotor .position vector drive =
      map.toMotor .position 0 drive + map.toMotor .velocity vector drive := by
  cases drive with
  | direct entry => simp [toMotor, DirectMotorMap.jointToDrive]
  | paired pair side =>
      simp only [toMotor, DifferentialPairDriveMap.jointToDrive, DifferentialPair.jointToMotor,
        mulVec, dotProduct, Fin.sum_univ_two, Pi.mul_apply, Pi.add_apply, Pi.zero_apply]
      ring

theorem nativePositions_spec {vector positions : Index → K}
    (found : map.nativePositions order vector = .ok positions) :
    map.Complete ∧ map.InOrder order ∧ ∀ drive ∈ map.drives, ∀ motor,
      order.names motor = map.motorName drive →
        positions motor = map.toMotor .position vector drive := by
  obtain ⟨values, mapped, read⟩ := except_bind_eq_ok.mp found
  have complete := jointToMotor_complete mapped
  rw [complete.jointToMotor_eq, Except.ok.injEq] at mapped
  subst mapped
  rw [collect_eq_ok] at read
  refine ⟨complete, complete.inOrder ?_, ?_⟩
  · intro motor
    by_contra absent
    have here := Dictionary.item_eq_ok_iff.mp (read motor)
    rw [Dictionary.get?_eq_none] at here
    · cases here
    · rwa [keys_motorEntries]
  · intro drive member motor same
    have here := Dictionary.item_eq_ok_iff.mp (read motor)
    rw [same, complete.get?_motorEntries member, Option.some.injEq] at here
    exact here.symm

theorem exists_nativePositions (complete : map.Complete) (inOrder : map.InOrder order)
    (vector : Index → K) : ∃ positions, map.nativePositions order vector = .ok positions := by
  have entry (motor : Index) : ∃ value,
      (map.motorEntries (map.toMotor .position vector)).item (order.names motor) = .ok value := by
    obtain ⟨drive, member, same⟩ := inOrder.exists_drive motor
    refine ⟨map.toMotor .position vector drive, Dictionary.item_eq_ok_iff.mpr ?_⟩
    rw [← same, complete.get?_motorEntries member]
  choose positions found using entry
  exact ⟨positions, except_bind_eq_ok.mpr
    ⟨_, complete.jointToMotor_eq .position vector, collect_eq_ok.mpr found⟩⟩

/-- The matrices of a map. -/
structure MatricesOf (map : SpriteMotorMap K) (order : NativeMotorOrder)
    (matrices : NativeMatrices K) : Prop where
  complete : map.Complete
  inOrder : map.InOrder order
  offset : ∀ drive ∈ map.drives, ∀ motor, order.names motor = map.motorName drive →
    matrices.motorOffset motor = map.toMotor .position 0 drive
  entry : ∀ drive ∈ map.drives, ∀ motor, order.names motor = map.motorName drive →
    ∀ joint, matrices.jointToMotor motor joint =
      map.toMotor .velocity (Pi.single joint 1) drive
  inverse : matrices.motorToJoint * matrices.jointToMotor = 1

/-- The columns that were subtracted from are those of the velocities. -/
theorem nativeColumns_spec {offset : Index → K} {columns : Index → Index → K}
    (offsets : map.nativePositions order 0 = .ok offset)
    (found : map.nativeColumns order offset = .ok columns) {drive : Drive K}
    (member : drive ∈ map.drives) {motor : Index}
    (same : order.names motor = map.motorName drive) (joint : Index) :
    columns joint motor = map.toMotor .velocity (Pi.single joint 1) drive := by
  obtain ⟨positions, mapped, column⟩ := except_bind_eq_ok.mp (collect_eq_ok.mp found joint)
  have column := congrFun (Except.ok.inj column) motor
  have position := (nativePositions_spec mapped).2.2 drive member motor same
  have zero := (nativePositions_spec offsets).2.2 drive member motor same
  rw [toMotor_position] at position
  rw [← column, position, zero, add_sub_cancel_left]

theorem nativeMatrices_spec {matrices : NativeMatrices K}
    (exported : map.nativeMatrices order = .ok matrices) : map.MatricesOf order matrices := by
  obtain ⟨offset, offsets, rest⟩ := except_bind_eq_ok.mp exported
  obtain ⟨columns, found, rest⟩ := except_bind_eq_ok.mp rest
  obtain ⟨motorToJoint, inverted, returned⟩ := except_bind_eq_ok.mp rest
  cases returned
  obtain ⟨complete, inOrder, zero⟩ := nativePositions_spec offsets
  exact
    { complete
      inOrder
      offset := zero
      entry := fun drive member motor same joint =>
        nativeColumns_spec offsets found member same joint
      inverse := linalgInv_eq_ok.mp inverted }

/-- A matrix with these entries maps joint velocities to motor velocities. -/
theorem mulVec_eq_toMotor {matrix : Matrix Index Index K} {drive : Drive K} {motor : Index}
    (entry : ∀ joint, matrix motor joint = map.toMotor .velocity (Pi.single joint 1) drive)
    (vector : Index → K) : (matrix *ᵥ vector) motor = map.toMotor .velocity vector drive := by
  rw [toMotor_velocity_eq_sum, mulVec, dotProduct]
  apply Finset.sum_congr rfl
  intro joint _
  rw [entry]

variable [IsStrictOrderedRing K]

/-- Joint velocities that move no motor are zero. -/
theorem eq_zero_of_toMotor {vector : Index → K}
    (still : ∀ drive ∈ map.drives, map.toMotor .velocity vector drive = 0) : vector = 0 := by
  funext joint
  obtain ⟨drive, member, name⟩ := @SpriteMotorMap.exists_drive _ _ _ map joint
  have moved : map.toJoint .velocity 0 drive = vector (map.joint (map.jointName drive)) :=
    toJoint_toMotor (fun other inDrives => (still other inDrives).symm) member
  have zero : map.toJoint .velocity 0 drive = 0 := by
    have none : map.toJoint .velocity 0 drive =
        (0 : Index → K) (map.joint (map.jointName drive)) := by
      apply toJoint_toMotor _ member
      intro other _
      rw [toMotor_velocity_eq_sum]
      simp
    exact none
  rw [name, joint_policyJointNames, zero] at moved
  exact moved.symm

/-- A complete map can be exported in any order that has its motors. -/
theorem exists_nativeMatrices (complete : map.Complete) (inOrder : map.InOrder order) :
    ∃ matrices, map.nativeMatrices order = .ok matrices := by
  obtain ⟨offset, offsets⟩ := exists_nativePositions complete inOrder 0
  have column (joint : Index) := exists_nativePositions complete inOrder (Pi.single joint 1)
  choose positions mapped using column
  let columns : Index → Index → K := fun joint row => positions joint row - offset row
  have found : map.nativeColumns order offset = .ok columns := by
    rw [nativeColumns, collect_eq_ok]
    intro joint
    exact except_bind_eq_ok.mpr ⟨_, mapped joint, rfl⟩
  let matrix : Matrix Index Index K := fun row column => columns column row
  have regular : matrix.det ≠ 0 := by
    intro singular
    obtain ⟨vector, nonzero, still⟩ := exists_mulVec_eq_zero_iff.mpr singular
    apply nonzero
    apply eq_zero_of_toMotor
    intro drive member
    obtain ⟨motor, same⟩ :=
      (inOrder _).mp (mem_physicalMotorNames.mpr ⟨drive, member, rfl⟩)
    have moved : (matrix *ᵥ vector) motor = map.toMotor .velocity vector drive :=
      mulVec_eq_toMotor (fun joint => nativeColumns_spec offsets found member same joint) vector
    rw [← moved, still, Pi.zero_apply]
  have inverted : linalgInv matrix = .ok (cramerInverse matrix) :=
    linalgInv_eq_ok.mpr (cramerInverse_mul regular)
  exact ⟨_, except_bind_eq_ok.mpr ⟨_, offsets, except_bind_eq_ok.mpr ⟨_, found,
    except_bind_eq_ok.mpr ⟨_, inverted, rfl⟩⟩⟩⟩

namespace MatricesOf

variable {matrices : NativeMatrices K} (matricesOf : map.MatricesOf order matrices)

include matricesOf

/-- What the matrices make of motor values is what `_motor_to_joint` makes of them. -/
theorem motorToJoint_eq {motor : Dictionary K} {values : Index → K}
    (covers : Covers map.physicalMotorNames motor)
    (read : ∀ index, motor.get? (order.names index) = some (values index)) :
    map.motorToJoint .position motor =
      .ok (matrices.motorToJoint *ᵥ (values - matrices.motorOffset)) ∧
    map.motorToJoint .velocity motor = .ok (matrices.motorToJoint *ᵥ values) := by
  have value (name : String) (member : name ∈ map.physicalMotorNames) :
      motor.get? name = some (motorValue motor name) := by
    obtain ⟨index, rfl⟩ := (matricesOf.inOrder name).mp member
    rw [motorValue, read]
    rfl
  have named (index : Index) : motorValue motor (order.names index) = values index := by
    rw [motorValue, read]
    rfl
  -- The joint vector of a kind is the one that the matrix takes back to the motor values.
  have invert {vector image : Index → K}
      (image_eq : matrices.jointToMotor *ᵥ vector = image) :
      matrices.motorToJoint *ᵥ image = vector := by
    rw [← image_eq, mulVec_mulVec, matricesOf.inverse, one_mulVec]
  constructor
  · obtain ⟨vector, found, joints⟩ :=
      @Complete.motorToJoint_eq _ _ _ _ matricesOf.complete .position _ _ covers value
    rw [found, invert]
    funext index
    obtain ⟨drive, member, same⟩ := matricesOf.inOrder.exists_drive index
    rw [mulVec_eq_toMotor (matricesOf.entry drive member index same.symm), Pi.sub_apply,
      matricesOf.offset drive member index same.symm, ← named, ← same,
      ← toMotor_toJoint joints member, toMotor_position, add_sub_cancel_left]
  · obtain ⟨vector, found, joints⟩ :=
      @Complete.motorToJoint_eq _ _ _ _ matricesOf.complete .velocity _ _ covers value
    rw [found, invert]
    funext index
    obtain ⟨drive, member, same⟩ := matricesOf.inOrder.exists_drive index
    rw [mulVec_eq_toMotor (matricesOf.entry drive member index same.symm), ← named, ← same,
      ← toMotor_toJoint joints member]

end MatricesOf

end Exported

/-- The matrices of a complete map are inverse, so they are written. -/
theorem exists_exportKinematics {map : SpriteMotorMap ℚ} {order : NativeMotorOrder}
    (complete : map.Complete) (inOrder : map.InOrder order) (effort : Index → ℚ) :
    ∃ kinematics, map.exportKinematics order effort = .ok kinematics := by
  obtain ⟨matrices, computed⟩ := exists_nativeMatrices complete inOrder
  have close : CloseToOne (matrices.motorToJoint * matrices.jointToMotor) := by
    rw [(nativeMatrices_spec computed).inverse]
    intro row column
    rw [sub_self, abs_zero]
    positivity
  exact ⟨_, except_bind_eq_ok.mpr ⟨_, computed, except_bind_eq_ok.mpr
    ⟨(), raiseIf_eq_ok.mpr (not_not.mpr close), rfl⟩⟩⟩

end SpriteMotorMap

/-- The motors of the uncoupled robot in their own order. -/
def uncoupledOrder : NativeMotorOrder where
  names motor := uncoupledMotors.get (Fin.cast uncoupledMotors_length motor)
  distinct :=
    (List.nodup_iff_injective_get.mp uncoupledMotors_nodup).comp (Fin.cast_injective _)

theorem uncoupledOrder_mem (K : Type) [Field K] [LinearOrder K] [IsStrictOrderedRing K]
    (motor : Index) :
    uncoupledOrder.names motor ∈ (uncoupledMotorMap K).physicalMotorNames := by
  rw [uncoupledMotorMap_motors]
  exact List.get_mem _ _

theorem uncoupledMotorMap_complete (K : Type) [Field K] [LinearOrder K]
    [IsStrictOrderedRing K] : (uncoupledMotorMap K).Complete :=
  ⟨SpriteMotorMap.length_physicalMotorNames.mp (uncoupledMotorMap_length K),
    uncoupledMotorMap_nodup K⟩

theorem exists_uncoupledKinematics (effort : Index → ℚ) : ∃ kinematics,
    (uncoupledMotorMap ℚ).exportKinematics uncoupledOrder effort = .ok kinematics := by
  have complete := uncoupledMotorMap_complete ℚ
  exact SpriteMotorMap.exists_exportKinematics complete
    (complete.inOrder (uncoupledOrder_mem ℚ)) effort

end SpriteRuntime
