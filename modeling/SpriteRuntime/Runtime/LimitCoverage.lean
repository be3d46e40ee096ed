import SpriteRuntime.Native.Preview
import SpriteRuntime.Runtime.KinematicsExport
import SpriteRuntime.Runtime.LimitDerivation

/-!
# The candidates cover the joint limits

The position of a motor is an affine form of the joints, whose corners are what
`derive_limit_candidates` goes through.  The candidates of a motor are therefore the image of
the joint limits, and a target within the soft limits desires no position outside them.
-/

namespace SpriteRuntime

open Foundation

/-- The joint positions within limits. -/
def poses (limits : Index → ℚ × ℚ) : Set (Index → ℚ) :=
  Set.Icc (fun joint => (limits joint).1) fun joint => (limits joint).2

namespace SpriteMotorMap

variable (map : SpriteMotorMap ℚ)

/-- How far a motor moves with each joint. -/
def weight (drive : Drive ℚ) (joint : Index) : ℚ :=
  map.toMotor .velocity (Pi.single joint 1) drive

theorem toMotor_position_eq_affine (drive : Drive ℚ) (pose : Index → ℚ) :
    map.toMotor .position pose drive =
      affine (map.toMotor .position 0 drive) (map.weight drive) pose := by
  rw [toMotor_position, toMotor_velocity_eq_sum]
  rfl

/-- The candidate interval of a drive, from limits of the joints. -/
def driveBounds (limits : Index → ℚ × ℚ) : Drive ℚ → ℚ × ℚ
  | .direct entry => directBounds entry.2 (limits (map.joint entry.1))
  | .paired pair side =>
      pairBounds (map.differentials pair) (fun side => limits (map.pairJoints pair side)) side

/-- All candidates of a drive. -/
def driveLimits (hard soft : Index → ℚ × ℚ) (drive : Drive ℚ) : MotorLimits :=
  { topology :=
      match drive with
      | .direct _ => .direct
      | .paired _ _ => .differential
    differentialPair :=
      match drive with
      | .direct _ => none
      | .paired pair _ => some (map.differentials pair).name
    policyJoints :=
      match drive with
      | .direct entry => [map.policyJointNames (map.joint entry.1)]
      | .paired pair _ => List.ofFn (map.differentials pair).jointNames
    hardLimitRadCandidate := map.driveBounds hard drive
    softLimitRadCandidate := map.driveBounds soft drive }

variable {map} {hard soft limits : Index → ℚ × ℚ}

theorem HasPairs.motorLimits_eq (joints : map.HasPairs) :
    map.motorLimits hard soft = .ok (map.motorEntries (map.driveLimits hard soft)) := by
  apply joints.assembleMotors_eq
  · exact fun entry => rfl
  · exact fun pair => rfl

/-! ## The corners of a drive -/

/-- At both ends of its joint a direct motor has its corner values. -/
theorem cornerValues_direct (entry : String × DirectMotorMap ℚ) :
    CornerValues (map.toMotor .position 0 (.direct entry)) (map.weight (.direct entry))
      (fun joint => (limits joint).1) (fun joint => (limits joint).2)
      [entry.2.jointToDrive .position (limits (map.joint entry.1)).1,
        entry.2.jointToDrive .position (limits (map.joint entry.1)).2] := by
  intro value
  simp only [← toMotor_position_eq_affine, List.mem_cons, List.not_mem_nil, or_false]
  constructor
  · rintro (rfl | rfl)
    · exact ⟨_, fun _ => .inl rfl, rfl⟩
    · exact ⟨_, fun _ => .inr rfl, rfl⟩
  · rintro ⟨corner, isCorner, rfl⟩
    rcases isCorner (map.joint entry.1) with same | same
    · exact .inl (congrArg (entry.2.jointToDrive .position) same)
    · exact .inr (congrArg (entry.2.jointToDrive .position) same)

theorem HasPairs.pairJoints_ne (joints : map.HasPairs) (pair : PairName) :
    map.pairJoints pair 0 ≠ map.pairJoints pair 1 := by
  intro same
  have left := policyIndex_eq_ok.mp (joints.policyIndex_pair pair 0)
  have right := policyIndex_eq_ok.mp (joints.policyIndex_pair pair 1)
  rw [same, right] at left
  exact absurd (jointNames_injective left).2 (by decide)

/-- The position of a motor of a pair goes by the two joints. -/
theorem toMotor_paired (pair : PairName) (side : Fin 2) (pose : Index → ℚ) :
    map.toMotor .position pose (.paired pair side) =
      (map.differentials pair).jointToDrive .position
        ![pose (map.pairJoints pair 0), pose (map.pairJoints pair 1)] side := by
  have entries : (fun side => pose (map.pairJoints pair side)) =
      ![pose (map.pairJoints pair 0), pose (map.pairJoints pair 1)] := by
    funext other
    fin_cases other
    · rfl
    · rfl
  rw [toMotor, entries]

theorem HasPairs.cornerValues_paired (joints : map.HasPairs) (pair : PairName) (side : Fin 2) :
    CornerValues (map.toMotor .position 0 (.paired pair side)) (map.weight (.paired pair side))
      (fun joint => (limits joint).1) (fun joint => (limits joint).2)
      [(map.differentials pair).jointToDrive .position
          ![(limits (map.pairJoints pair 0)).1, (limits (map.pairJoints pair 1)).1] side,
        (map.differentials pair).jointToDrive .position
          ![(limits (map.pairJoints pair 0)).1, (limits (map.pairJoints pair 1)).2] side,
        (map.differentials pair).jointToDrive .position
          ![(limits (map.pairJoints pair 0)).2, (limits (map.pairJoints pair 1)).1] side,
        (map.differentials pair).jointToDrive .position
          ![(limits (map.pairJoints pair 0)).2, (limits (map.pairJoints pair 1)).2] side] := by
  have apart := joints.pairJoints_ne pair
  -- One joint at its upper limit and all others at their lower ones.
  have mixed (joint : Index) : IsCorner (fun joint => (limits joint).1)
      (fun joint => (limits joint).2)
      (Function.update (fun joint => (limits joint).1) joint (limits joint).2) := by
    intro other
    by_cases same : other = joint
    · subst same
      exact .inr (Function.update_self _ _ _)
    · exact .inl (Function.update_of_ne same _ _)
  intro value
  simp only [← toMotor_position_eq_affine]
  simp only [toMotor_paired, List.mem_cons, List.not_mem_nil, or_false]
  constructor
  · rintro (rfl | rfl | rfl | rfl)
    · exact ⟨_, fun _ => .inl rfl, rfl⟩
    · refine ⟨_, mixed (map.pairJoints pair 1), ?_⟩
      rw [Function.update_of_ne apart, Function.update_self]
    · refine ⟨_, mixed (map.pairJoints pair 0), ?_⟩
      rw [Function.update_of_ne apart.symm, Function.update_self]
    · exact ⟨_, fun _ => .inr rfl, rfl⟩
  · rintro ⟨corner, isCorner, rfl⟩
    rcases isCorner (map.pairJoints pair 0) with first | first <;>
      rcases isCorner (map.pairJoints pair 1) with second | second <;>
        simp [first, second]

/-- The candidates of a drive are the bounds of its corner values. -/
theorem HasPairs.exists_cornerValues (joints : map.HasPairs) (limits : Index → ℚ × ℚ)
    (drive : Drive ℚ) : ∃ first rest, map.driveBounds limits drive = bounds first rest ∧
      CornerValues (map.toMotor .position 0 drive) (map.weight drive)
        (fun joint => (limits joint).1) (fun joint => (limits joint).2) (first :: rest) := by
  cases drive with
  | direct entry => exact ⟨_, _, rfl, cornerValues_direct entry⟩
  | paired pair side => exact ⟨_, _, rfl, joints.cornerValues_paired pair side⟩

/-- Every motor moves with some joint. -/
theorem Complete.exists_weight_ne_zero (complete : map.Complete) {drive : Drive ℚ}
    (member : drive ∈ map.drives) : ∃ joint, map.weight drive joint ≠ 0 := by
  by_contra still
  push Not at still
  have read : ∀ name ∈ map.physicalMotorNames,
      (map.motorEntries fun _ => (1 : ℚ)).get? name = some 1 := by
    intro name inNames
    obtain ⟨other, inDrives, rfl⟩ := mem_physicalMotorNames.mp inNames
    exact complete.get?_motorEntries inDrives
  obtain ⟨speeds, _, assigned⟩ :=
    @Complete.motorToJoint_eq _ _ _ _ complete .velocity _ (fun _ => 1) covers_motorEntries read
  have moves : map.toMotor .velocity speeds drive = 1 := toMotor_toJoint assigned member
  rw [toMotor_velocity_eq_sum] at moves
  have rests : ∑ joint, map.toMotor .velocity (Pi.single joint 1) drive * speeds joint = 0 := by
    apply Finset.sum_eq_zero
    intro joint _
    have zero : map.toMotor .velocity (Pi.single joint 1) drive = 0 := still joint
    rw [zero, zero_mul]
  rw [rests] at moves
  exact zero_ne_one moves

/-! ## The image of the limits -/

/-- The positions of a motor in some poses. -/
def motorImage (map : SpriteMotorMap ℚ) (name : String) (poses : Set (Index → ℚ)) : Set ℚ :=
  {position | ∃ pose ∈ poses, ∃ positions,
    map.jointToMotor .position pose = .ok positions ∧ positions.get? name = some position}

theorem Complete.motorImage_eq (complete : map.Complete) {drive : Drive ℚ}
    (member : drive ∈ map.drives) (poses : Set (Index → ℚ)) :
    map.motorImage (map.motorName drive) poses =
      affine (map.toMotor .position 0 drive) (map.weight drive) '' poses := by
  ext position
  constructor
  · rintro ⟨pose, inside, positions, mapped, found⟩
    rw [complete.jointToMotor_eq, Except.ok.injEq] at mapped
    subst mapped
    rw [complete.get?_motorEntries member, Option.some.injEq] at found
    exact ⟨pose, inside, by rw [← toMotor_position_eq_affine, found]⟩
  · rintro ⟨pose, inside, rfl⟩
    refine ⟨pose, inside, _, complete.jointToMotor_eq .position pose, ?_⟩
    rw [complete.get?_motorEntries member, toMotor_position_eq_affine]

theorem Complete.motorImage_poses (complete : map.Complete) {drive : Drive ℚ}
    (member : drive ∈ map.drives) (ordered : ∀ joint, (limits joint).1 ≤ (limits joint).2) :
    map.motorImage (map.motorName drive) (poses limits) =
      Set.Icc (map.driveBounds limits drive).1 (map.driveBounds limits drive).2 := by
  obtain ⟨first, rest, same, corners⟩ := complete.joints.exists_cornerValues limits drive
  rw [complete.motorImage_eq member, same]
  exact corners.image_eq ordered

theorem Complete.driveBounds_inside (complete : map.Complete) {drive : Drive ℚ}
    (member : drive ∈ map.drives) (inside : ∀ joint, StrictlyInside (soft joint) (hard joint)) :
    (map.driveBounds hard drive).1 < (map.driveBounds soft drive).1 ∧
      (map.driveBounds soft drive).2 < (map.driveBounds hard drive).2 := by
  obtain ⟨first, rest, same, corners⟩ := complete.joints.exists_cornerValues hard drive
  obtain ⟨inFirst, inRest, inSame, inner⟩ := complete.joints.exists_cornerValues soft drive
  rw [same, inSame]
  exact corners.strictly_inside inner (complete.exists_weight_ne_zero member) inside

end SpriteMotorMap

/-! ## The native guards -/

section Guards

/-- The part of the check of a preview that is about its position. -/
def PositionGuardFailure (descriptor : MotorDescriptor) (position : ℚ) : Prop :=
  position < descriptor.softPositionMin - tolerance ∨
    descriptor.softPositionMax + tolerance < position ∨
    position < descriptor.hardPositionMin - tolerance ∨
    descriptor.hardPositionMax + tolerance < position ∨
    position < descriptor.positionMin - tolerance ∨
    descriptor.positionMax + tolerance < position

/-- The soft limits of an accepted motor are inside all others. -/
theorem not_positionGuardFailure {descriptor : MotorDescriptor} {position : ℚ}
    (accepted : descriptor.Accepted)
    (inside : position ∈ Set.Icc descriptor.softPositionMin descriptor.softPositionMax) :
    ¬PositionGuardFailure descriptor position := by
  simp only [MotorDescriptor.Accepted, MotorDescriptor.EndpointRateFailure, not_or, not_le,
    not_lt] at accepted
  obtain ⟨_, _, _, protocolLow, _, protocolHigh, hardLow, hardHigh, _⟩ := accepted
  obtain ⟨above, below⟩ := inside
  have positive : 0 < tolerance := by decide +kernel
  simp only [PositionGuardFailure, not_or, not_lt]
  refine ⟨?_, ?_, ?_, ?_, ?_, ?_⟩ <;> linarith

/-- The soft and hard limits of the loaded motors are the candidates of the report. -/
def DerivedLimits.InstalledIn (report : DerivedLimits) (loaded : LoadedMotors) : Prop :=
  ∀ motor, (report.motorLimits.get? (loaded.descriptor motor).name).map
      (fun limits => (limits.softLimitRadCandidate, limits.hardLimitRadCandidate)) =
    some (((loaded.descriptor motor).softPositionMin, (loaded.descriptor motor).softPositionMax),
      ((loaded.descriptor motor).hardPositionMin, (loaded.descriptor motor).hardPositionMax))

instance (report : DerivedLimits) (loaded : LoadedMotors) :
    Decidable (report.InstalledIn loaded) :=
  inferInstanceAs (Decidable (∀ _, _ = _))

/-- The joint positions of a target. -/
def TargetPacket.pose (target : TargetPacket) (joint : Index) : ℚ :=
  (target.positionRad joint).value

/-- The desired position of a motor is where its drive puts it. -/
theorem exists_drive_desiredMotorPosition {map : SpriteMotorMap ℚ} {order : NativeMotorOrder}
    {effort : Index → ℚ} {kinematics : NativeKinematics}
    (exported : map.exportKinematics order effort = .ok kinematics) (motor : Index) :
    ∃ drive ∈ map.drives, map.motorName drive = order.names motor ∧ ∀ target,
      desiredMotorPosition kinematics target motor =
        affine (map.toMotor .position 0 drive) (map.weight drive) target.pose := by
  obtain ⟨matrices, computed, rest⟩ := except_bind_eq_ok.mp exported
  obtain ⟨_, _, returned⟩ := except_bind_eq_ok.mp rest
  cases returned
  have matricesOf := SpriteMotorMap.nativeMatrices_spec computed
  obtain ⟨drive, member, same⟩ := matricesOf.inOrder.exists_drive motor
  refine ⟨drive, member, same, ?_⟩
  intro target
  simp only [desiredMotorPosition, matricesOf.offset drive member motor same.symm,
    matricesOf.entry drive member motor same.symm]
  rfl

end Guards

/-- What the report says of a motor is right: its candidates are the image of the joint limits,
and the soft ones are strictly inside the hard ones. -/
def DerivedLimits.Covers (report : DerivedLimits) (map : SpriteMotorMap ℚ) (name : String) :
    Prop :=
  ∃ limits, report.motorLimits.get? name = some limits ∧
    map.motorImage name (poses report.hardJoint) =
      Set.Icc limits.hardLimitRadCandidate.1 limits.hardLimitRadCandidate.2 ∧
    map.motorImage name (poses report.softJoint) =
      Set.Icc limits.softLimitRadCandidate.1 limits.softLimitRadCandidate.2 ∧
    limits.hardLimitRadCandidate.1 < limits.softLimitRadCandidate.1 ∧
    limits.softLimitRadCandidate.2 < limits.hardLimitRadCandidate.2

section Derived

variable {hardware : HardwareConfig} {expectedSha256 : String} {urdf : UrdfFile}
  {softMarginRad : Double} {overrides : Dictionary (List Double)} {report : DerivedLimits}

/-- What an accepted report has been made from. -/
theorem deriveLimitCandidates_spec
    (derived : deriveLimitCandidates hardware expectedSha256 urdf softMarginRad overrides =
      .ok report) :
    hardware.built.Complete ∧
      (∀ joint, StrictlyInside (report.softJoint joint) (report.hardJoint joint)) ∧
      report.motorLimits = hardware.built.motorEntries
        (hardware.built.driveLimits report.hardJoint report.softJoint) := by
  obtain ⟨_, _, derived⟩ := except_bind_eq_ok.mp derived
  obtain ⟨hard, _, derived⟩ := except_bind_eq_ok.mp derived
  obtain ⟨soft, softened, derived⟩ := except_bind_eq_ok.mp derived
  obtain ⟨map, mapped, derived⟩ := except_bind_eq_ok.mp derived
  obtain ⟨motors, assembled, derived⟩ := except_bind_eq_ok.mp derived
  obtain ⟨_, _, returned⟩ := except_bind_eq_ok.mp derived
  cases returned
  have joints : map.HasPairs := SpriteMotorMap.hasPairs_of_assembleMotors assembled
  obtain ⟨rfl, complete⟩ := motorMapFromHardwareConfig_complete mapped joints
  rw [joints.motorLimits_eq, Except.ok.injEq] at assembled
  exact ⟨complete, SpriteMotorMap.softJointLimits_inside softened, assembled.symm⟩

theorem get?_motorLimits
    (derived : deriveLimitCandidates hardware expectedSha256 urdf softMarginRad overrides =
      .ok report) {drive : Drive ℚ} (member : drive ∈ hardware.built.drives) :
    report.motorLimits.get? (hardware.built.motorName drive) =
      some (hardware.built.driveLimits report.hardJoint report.softJoint drive) := by
  obtain ⟨complete, _, motors⟩ := deriveLimitCandidates_spec derived
  rw [motors, complete.get?_motorEntries member]

/-- **The candidates of the motors.**  They are the image of the joint limits, soft strictly
inside hard; and with native motors and matrices made from the same report and map, a target
within the soft limits desires no position that the guards refuse. -/
theorem deriveLimitCandidates_covers
    (derived : deriveLimitCandidates hardware expectedSha256 urdf softMarginRad overrides =
      .ok report) :
    (∀ name ∈ hardware.built.physicalMotorNames, report.Covers hardware.built name) ∧
    ∀ (loaded : LoadedMotors) (order : NativeMotorOrder) (effort : Index → ℚ)
      (kinematics : NativeKinematics),
      report.InstalledIn loaded →
      (∀ motor, (loaded.descriptor motor).name = order.names motor) →
      hardware.built.exportKinematics order effort = .ok kinematics →
      ∀ (state : ControlState) (motor : Index) (command : MitCommand),
        state.ipc.latestTarget.pose ∈ poses report.softJoint →
        (loaded.descriptor motor).isAnkleMotor = false →
        freshCommand (loaded.descriptor motor) kinematics state motor = some command →
          ¬PositionGuardFailure (loaded.descriptor motor) command.position := by
  obtain ⟨complete, inside, _⟩ := deriveLimitCandidates_spec derived
  have softOrdered (joint : Index) : (report.softJoint joint).1 ≤ (report.softJoint joint).2 :=
    (inside joint).2.1.le
  have hardOrdered (joint : Index) : (report.hardJoint joint).1 ≤ (report.hardJoint joint).2 := by
    obtain ⟨above, between, below⟩ := inside joint
    exact (above.trans (between.trans below)).le
  constructor
  · intro name member
    obtain ⟨drive, inDrives, rfl⟩ := SpriteMotorMap.mem_physicalMotorNames.mp member
    exact ⟨_, get?_motorLimits derived inDrives, complete.motorImage_poses inDrives hardOrdered,
      complete.motorImage_poses inDrives softOrdered, complete.driveBounds_inside inDrives inside⟩
  · intro loaded order effort kinematics installed named exported state motor command target
      other fresh
    have position : command.position =
        desiredMotorPosition kinematics state.ipc.latestTarget motor := by
      rw [freshCommand, if_neg (by simp [other])] at fresh
      split at fresh
      · cases fresh
        rfl
      · cases fresh
    obtain ⟨drive, inDrives, name, desired⟩ := exists_drive_desiredMotorPosition exported motor
    obtain ⟨limits, found, same⟩ := Option.map_eq_some_iff.mp (installed motor)
    rw [named, ← name, get?_motorLimits derived inDrives, Option.some.injEq] at found
    subst found
    apply not_positionGuardFailure (loaded.accepted motor)
    have image : affine (hardware.built.toMotor .position 0 drive) (hardware.built.weight drive)
        state.ipc.latestTarget.pose ∈ hardware.built.motorImage
          (hardware.built.motorName drive) (poses report.softJoint) := by
      rw [complete.motorImage_eq inDrives]
      exact ⟨_, target, rfl⟩
    rw [complete.motorImage_poses inDrives softOrdered] at image
    have soft := congrArg Prod.fst same
    have low : (hardware.built.driveBounds report.softJoint drive).1 =
        (loaded.descriptor motor).softPositionMin := congrArg Prod.fst soft
    have high : (hardware.built.driveBounds report.softJoint drive).2 =
        (loaded.descriptor motor).softPositionMax := congrArg Prod.snd soft
    rw [position, desired, ← low, ← high]
    exact image

end Derived

/-! ## A robot with these limits -/

section Bench

def limitHardware : HardwareConfig :=
  { motorMap := uncoupledMotors.toFinset
    built := uncoupledMotorMap ℚ }

/-- One radian to both sides for every joint. -/
def limitUrdf : UrdfFile :=
  { sha256 := "urdf"
    joints := policyJoints.map fun name =>
      { name, limit := some (.finite (-1), .finite 1) } }

def limitMotors : LoadedMotors where
  descriptor index :=
    { benchMotors.descriptor index with
      name := uncoupledOrder.names index
      softPositionMin := -19 / 20
      softPositionMax := 19 / 20
      hardPositionMin := -1
      hardPositionMax := 1 }
  accepted := by decide +kernel
  phased := by rfl

/-- The report for a margin of 0.05 rad can be installed, and allows the zero pose. -/
theorem exists_limitReport : ∃ report,
    deriveLimitCandidates limitHardware "urdf" limitUrdf (.finite (1 / 20)) [] = .ok report ∧
      report.InstalledIn limitMotors ∧
      ∀ joint, (report.softJoint joint).1 ≤ 0 ∧ 0 ≤ (report.softJoint joint).2 :=
  exists_ok_of_any (by decide +kernel)

theorem deriveLimitCandidates_covers_uncoupled : ∃ report kinematics,
    deriveLimitCandidates limitHardware "urdf" limitUrdf (.finite (1 / 20)) [] = .ok report ∧
      report.Covers (uncoupledMotorMap ℚ) (uncoupledOrder.names 0) ∧
      (uncoupledMotorMap ℚ).exportKinematics uncoupledOrder (fun _ => 1) = .ok kinematics ∧
      ¬PositionGuardFailure (limitMotors.descriptor 0)
        (coupledCommand kinematics .zero (fun _ => {}) 0).position := by
  obtain ⟨report, derived, installed, around⟩ := exists_limitReport
  obtain ⟨kinematics, exported⟩ := exists_uncoupledKinematics fun _ => 1
  obtain ⟨covers, guards⟩ := deriveLimitCandidates_covers derived
  refine ⟨report, kinematics, derived, covers _ (uncoupledOrder_mem ℚ 0), exported, ?_⟩
  have other : (limitMotors.descriptor 0).isAnkleMotor = false := by decide +kernel
  apply guards limitMotors uncoupledOrder (fun _ => 1) kinematics installed (fun _ => rfl)
    exported { motors := fun _ => {}, ipc := {} } 0 _ _ other
  · rw [freshCommand, if_neg (by simp [other])]
    rfl
  · exact ⟨fun joint => (around joint).1, fun joint => (around joint).2⟩

end Bench

end SpriteRuntime
