import SpriteRuntime.Runtime.MotorMapping

/-!
# What the maps of all joints and motors return

A map is complete when its loops assign every motor once.  Every motor then belongs to one
drive: to a direct motor, or to one side of a differential pair.
-/

namespace SpriteRuntime

open Foundation Matrix

variable {K : Type} [Field K] [LinearOrder K]

/-- A motor with its joint: a direct one, or one side of a pair. -/
inductive Drive (K : Type) [Field K] [LinearOrder K] where
  | direct (entry : String × DirectMotorMap K)
  | paired (pair : PairName) (side : Fin 2)

/-- Names that tell the sides of all pairs apart stand once each in the list of the pairs. -/
theorem PairName.nodup_flatMap {names : PairName → Fin 2 → String}
    (distinct : ∀ left right side other, names left side = names right other →
      left = right ∧ side = other) :
    (PairName.all.flatMap fun pair => List.ofFn (names pair)).Nodup := by
  rw [List.nodup_flatMap]
  constructor
  · intro pair _
    apply List.nodup_ofFn.mpr
    intro side other same
    exact (distinct pair pair side other same).2
  · have listed : PairName.all.Nodup := by decide
    apply listed.imp
    intro left right different name inLeft inRight
    obtain ⟨side, rfl⟩ := List.mem_ofFn.mp inLeft
    obtain ⟨other, same⟩ := List.mem_ofFn.mp inRight
    exact different (distinct right left other side same).1.symm

namespace SpriteMotorMap

variable {map : SpriteMotorMap K}

/-- Every joint of a pair is a policy joint. -/
def HasPairs (map : SpriteMotorMap K) : Prop :=
  ∀ pair side, ∃ joint, map.policyJointNames joint = (map.differentials pair).jointNames side

/-- No motor moves two joints or pairs either. -/
structure Complete (map : SpriteMotorMap K) : Prop where
  joints : map.HasPairs
  motors : map.physicalMotorNames.Nodup

/-- The index of a policy joint; zero for any other name. -/
def joint (map : SpriteMotorMap K) (name : String) : Index :=
  ((List.finRange kJointCount).find? fun joint => map.policyJointNames joint = name).getD 0

/-- The indices of the joints of a pair. -/
def pairJoints (map : SpriteMotorMap K) (pair : PairName) (side : Fin 2) : Index :=
  map.joint ((map.differentials pair).jointNames side)

/-! ## The drives of a map -/

section Drives

def drives (map : SpriteMotorMap K) : List (Drive K) :=
  map.direct.map Drive.direct ++ PairName.all.flatMap fun pair => List.ofFn (Drive.paired pair)

def motorName (map : SpriteMotorMap K) : Drive K → String
  | .direct entry => entry.2.motorName
  | .paired pair side => (map.differentials pair).motorNames side

def jointName (map : SpriteMotorMap K) : Drive K → String
  | .direct entry => entry.1
  | .paired pair side => (map.differentials pair).jointNames side

/-- Every pair is there. -/
theorem exists_pair (name : PairName) : ∃ pair, (map.differentials pair).name = name :=
  Finite.surjective_of_injective map.pairs name

/-- No joint is in two pairs or twice in one. -/
theorem jointNames_injective {left right : PairName} {side other : Fin 2}
    (same : (map.differentials left).jointNames side = (map.differentials right).jointNames other) :
    left = right ∧ side = other := by
  obtain ⟨pair, place⟩ := PairName.joints_injective same
  exact ⟨map.pairs pair, place⟩

theorem mem_drives_direct {entry : String × DirectMotorMap K} :
    Drive.direct entry ∈ map.drives ↔ entry ∈ map.direct := by
  simp [drives]

theorem mem_drives_paired (pair : PairName) (side : Fin 2) :
    Drive.paired pair side ∈ map.drives := by
  simp only [drives, List.mem_append, List.mem_flatMap, List.mem_ofFn]
  exact .inr ⟨pair, pair.mem_all, side, rfl⟩

theorem motorName_drives : map.drives.map map.motorName = map.physicalMotorNames := by
  simp [drives, physicalMotorNames, List.map_flatMap, motorName, Function.comp_def]

theorem mem_physicalMotorNames {name : String} :
    name ∈ map.physicalMotorNames ↔ ∃ drive ∈ map.drives, map.motorName drive = name := by
  rw [← motorName_drives, List.mem_map]

/-- Two drives of one motor are the same. -/
theorem Complete.drive_eq (complete : map.Complete) {left right : Drive K}
    (inLeft : left ∈ map.drives) (inRight : right ∈ map.drives)
    (same : map.motorName left = map.motorName right) : left = right := by
  have distinct := complete.motors
  rw [← motorName_drives] at distinct
  exact List.inj_on_of_nodup_map distinct inLeft inRight same

/-- No joint has two drives. -/
theorem jointName_nodup : (map.drives.map map.jointName).Nodup := by
  have split : map.drives.map map.jointName = map.direct.keys ++
      PairName.all.flatMap fun pair => List.ofFn (map.differentials pair).jointNames := by
    simp [drives, Dictionary.keys, List.map_flatMap, jointName, Function.comp_def]
  rw [split, List.nodup_append]
  refine ⟨map.distinct, ?_, ?_⟩
  · exact PairName.nodup_flatMap fun _ _ _ _ => jointNames_injective
  · rintro name inDirect other inPairs rfl
    simp only [List.mem_flatMap, List.mem_ofFn] at inPairs
    obtain ⟨pair, _, side, same⟩ := inPairs
    exact ((map.covers name).mp inDirect).2 _ side same

/-- Every policy joint has a drive. -/
theorem exists_drive (joint : Index) :
    ∃ drive ∈ map.drives, map.jointName drive = map.policyJointNames joint := by
  by_cases paired : ∃ pair side, PairName.joints pair side = map.policyJointNames joint
  · obtain ⟨name, side, same⟩ := paired
    obtain ⟨pair, rfl⟩ := @exists_pair _ _ _ map name
    exact ⟨.paired pair side, mem_drives_paired pair side, same⟩
  · have direct : map.policyJointNames joint ∈ map.direct.keys := by
      rw [map.covers]
      exact ⟨⟨joint, rfl⟩, fun pair side same => paired ⟨pair, side, same⟩⟩
    obtain ⟨drive, member⟩ := Dictionary.mem_keys.mp direct
    exact ⟨.direct _, mem_drives_direct.mpr member, rfl⟩

/-- The direct joints are the policy joints outside the pairs: 25 if the pairs are all
policy joints, and more if not. -/
theorem length_physicalMotorNames : map.physicalMotorNames.length = 31 ↔ map.HasPairs := by
  let policy := Finset.univ.image map.policyJointNames
  let paired := (PairName.all.flatMap fun pair => List.ofFn pair.joints).toFinset
  have inPairs {name : String} : name ∈ paired ↔ ∃ pair side, PairName.joints pair side = name := by
    simp only [paired, List.mem_toFinset, List.mem_flatMap, List.mem_ofFn, PairName.mem_all,
      true_and]
  have policyCard : policy.card = 31 := by
    rw [Finset.card_image_of_injective _ map.unique, Finset.card_univ, Fintype.card_fin]
    rfl
  have pairedCard : paired.card = 6 :=
    List.toFinset_card_of_nodup (PairName.nodup_flatMap fun _ _ _ _ => PairName.joints_injective)
  have keys : map.direct.keys.toFinset = policy \ paired := by
    ext name
    rw [List.mem_toFinset, map.covers, Finset.mem_sdiff, inPairs]
    simp [policy]
  have direct : map.direct.length = (policy \ paired).card := by
    rw [← keys, List.toFinset_card_of_nodup map.distinct, Dictionary.keys, List.length_map]
  have length : map.physicalMotorNames.length = (policy \ paired).card + 6 := by
    simp [physicalMotorNames, PairName.all, direct]
  have within : map.HasPairs ↔ paired ⊆ policy := by
    constructor
    · intro joints name member
      obtain ⟨name, side, rfl⟩ := inPairs.mp member
      obtain ⟨pair, rfl⟩ := @exists_pair _ _ _ map name
      obtain ⟨joint, same⟩ := joints pair side
      exact Finset.mem_image.mpr ⟨joint, Finset.mem_univ joint, same⟩
    · intro contained pair side
      have member := contained (inPairs.mpr ⟨(map.differentials pair).name, side, rfl⟩)
      obtain ⟨joint, _, same⟩ := Finset.mem_image.mp member
      exact ⟨joint, same⟩
  have parts := Finset.card_sdiff_add_card_inter policy paired
  rw [length, within]
  constructor
  · intro counted
    have all : (policy ∩ paired).card = paired.card := by omega
    exact (Finset.inter_eq_right.mp (Finset.eq_of_subset_of_card_le Finset.inter_subset_right
      all.ge))
  · intro contained
    rw [Finset.inter_eq_right.mpr contained] at parts
    omega

end Drives

/-! ## Names and indices of joints -/

section Joints

theorem find?_policyJointNames (joint : Index) :
    ((List.finRange kJointCount).find? fun other =>
      map.policyJointNames other = map.policyJointNames joint) = some joint := by
  cases here : (List.finRange kJointCount).find? fun other =>
      map.policyJointNames other = map.policyJointNames joint with
  | none =>
      have absent := List.find?_eq_none.mp here joint (List.mem_finRange joint)
      simp at absent
  | some other =>
      have same := List.find?_some here
      exact congrArg some (map.unique (of_decide_eq_true same))

theorem joint_policyJointNames (joint : Index) :
    map.joint (map.policyJointNames joint) = joint := by
  rw [SpriteMotorMap.joint, find?_policyJointNames]
  rfl

theorem policyIndex_eq_ok {name : String} {joint : Index} :
    map.policyIndex name = .ok joint ↔ map.policyJointNames joint = name := by
  unfold policyIndex
  constructor
  · intro found
    split at found
    next other here =>
        cases found
        have same := List.find?_some here
        exact of_decide_eq_true same
    · cases found
  · rintro rfl
    rw [find?_policyJointNames]

theorem policyIndex_direct {entry : String × DirectMotorMap K} (member : entry ∈ map.direct) :
    map.policyIndex entry.1 = .ok (map.joint entry.1) := by
  obtain ⟨joint, same⟩ :=
    ((map.covers entry.1).mp (Dictionary.mem_keys.mpr ⟨entry.2, member⟩)).1
  rw [policyIndex_eq_ok, ← same, joint_policyJointNames]

theorem HasPairs.policyIndex_pair (joints : map.HasPairs) (pair : PairName) (side : Fin 2) :
    map.policyIndex ((map.differentials pair).jointNames side) =
      .ok (map.pairJoints pair side) := by
  obtain ⟨joint, same⟩ := joints pair side
  rw [policyIndex_eq_ok, pairJoints, ← same, joint_policyJointNames]

theorem HasPairs.pairIndices_eq (joints : map.HasPairs) (pair : PairName) :
    map.pairIndices pair = .ok (map.pairJoints pair) := by
  rw [pairIndices, collect_eq_ok]
  exact joints.policyIndex_pair pair

/-- The joints of the drives are the policy joints. -/
theorem HasPairs.policyJointNames_joint (joints : map.HasPairs) {drive : Drive K}
    (member : drive ∈ map.drives) :
    map.policyJointNames (map.joint (map.jointName drive)) = map.jointName drive := by
  cases drive with
  | direct entry => exact policyIndex_eq_ok.mp (policyIndex_direct (mem_drives_direct.mp member))
  | paired pair side => exact policyIndex_eq_ok.mp (joints.policyIndex_pair pair side)

end Joints

/-! ## What the loops assign -/

section Entries

variable {α : Type}

/-- The assignments of a loop over the motors. -/
def motorEntries (map : SpriteMotorMap K) (value : Drive K → α) : Dictionary α :=
  map.drives.map fun drive => (map.motorName drive, value drive)

/-- The assignments of a loop over the joints. -/
def jointEntries (map : SpriteMotorMap K) (value : Drive K → α) : Dictionary α :=
  map.drives.map fun drive => (map.jointName drive, value drive)

/-- The entries as the loop over the pairs leaves them, after those of the direct motors. -/
theorem drives_map (entry : Drive K → β) : map.drives.map entry =
    map.direct.map (fun direct => entry (.direct direct)) ++
      (PairName.all.map fun pair => List.ofFn fun side => entry (.paired pair side)).flatten := by
  simp [drives, List.flatMap, Function.comp_def]

variable {value : Drive K → α}

theorem keys_motorEntries : (map.motorEntries value).keys = map.physicalMotorNames := by
  rw [← motorName_drives, motorEntries, Dictionary.keys, List.map_map]
  rfl

theorem covers_motorEntries : Covers map.physicalMotorNames (map.motorEntries value) := by
  rw [Covers, keys_motorEntries]
  exact ⟨fun _ => id, fun _ => id⟩

theorem Complete.get?_motorEntries (complete : map.Complete) {drive : Drive K}
    (member : drive ∈ map.drives) :
    (map.motorEntries value).get? (map.motorName drive) = some (value drive) := by
  apply Dictionary.get?_eq_some
  · rw [keys_motorEntries]
    exact complete.motors
  · exact List.mem_map.mpr ⟨drive, member, rfl⟩

theorem get?_jointEntries {drive : Drive K} (member : drive ∈ map.drives) :
    (map.jointEntries value).get? (map.jointName drive) = some (value drive) := by
  apply Dictionary.get?_eq_some
  · rw [jointEntries, Dictionary.keys, List.map_map]
    exact jointName_nodup
  · exact List.mem_map.mpr ⟨drive, member, rfl⟩

/-- The loop over the pairs looks up all their joints. -/
theorem hasPairs_of_assembleMotors {direct : DirectMotorMap K → Index → α}
    {paired : DifferentialPairDriveMap K → (Fin 2 → Index) → Except String (Fin 2 → α)}
    {result : Dictionary α} (found : map.assembleMotors direct paired = .ok result) :
    map.HasPairs := by
  obtain ⟨_, _, rest⟩ := except_bind_eq_ok.mp found
  obtain ⟨_, entries, _⟩ := except_bind_eq_ok.mp rest
  intro pair side
  obtain ⟨_, entry⟩ := exists_of_mapM_eq_ok entries pair.mem_all
  obtain ⟨indices, here, _⟩ := except_bind_eq_ok.mp entry
  exact ⟨indices side, policyIndex_eq_ok.mp (collect_eq_ok.mp here side)⟩

/-- A loop over the motors in which no round fails. -/
theorem HasPairs.assembleMotors_eq (joints : map.HasPairs)
    {direct : DirectMotorMap K → Index → α}
    {paired : DifferentialPairDriveMap K → (Fin 2 → Index) → Except String (Fin 2 → α)}
    (directValue : ∀ entry, value (.direct entry) = direct entry.2 (map.joint entry.1))
    (pairValue : ∀ pair, paired (map.differentials pair) (map.pairJoints pair) =
      .ok fun side => value (.paired pair side)) :
    map.assembleMotors direct paired = .ok (map.motorEntries value) := by
  have first : map.direct.mapM (fun entry => do
      let joint ← map.policyIndex entry.1
      return (entry.2.motorName, direct entry.2 joint)) =
        .ok (map.direct.map fun entry => (entry.2.motorName, value (.direct entry))) := by
    apply mapM_eq_ok
    intro entry member
    rw [policyIndex_direct member, directValue]
    rfl
  have second : PairName.all.mapM (fun pair => do
      let joints ← map.pairIndices pair
      let values ← paired (map.differentials pair) joints
      return List.ofFn fun side => ((map.differentials pair).motorNames side, values side)) =
        .ok (PairName.all.map fun pair => List.ofFn fun side =>
          ((map.differentials pair).motorNames side, value (.paired pair side))) := by
    apply mapM_eq_ok
    intro pair _
    rw [joints.pairIndices_eq]
    exact except_bind_eq_ok.mpr ⟨_, rfl, except_bind_eq_ok.mpr ⟨_, pairValue pair, rfl⟩⟩
  refine except_bind_eq_ok.mpr ⟨_, first, except_bind_eq_ok.mpr ⟨_, second, ?_⟩⟩
  rw [motorEntries, drives_map]
  rfl

end Entries

/-! ## The maps of values -/

section Values

/-- The value of a motor for values of the joints. -/
def toMotor (map : SpriteMotorMap K) (kind : DriveKind) (vector : Index → K) : Drive K → K
  | .direct entry => entry.2.jointToDrive kind (vector (map.joint entry.1))
  | .paired pair side =>
      (map.differentials pair).jointToDrive kind (fun side => vector (map.pairJoints pair side))
        side

/-- The value of a joint for values of the motors. -/
def toJoint (map : SpriteMotorMap K) (kind : DriveKind) (motor : String → K) : Drive K → K
  | .direct entry => entry.2.driveToJoint kind (motor entry.2.motorName)
  | .paired pair side =>
      (map.differentials pair).driveToJoint kind
        (fun side => motor ((map.differentials pair).motorNames side)) side

theorem HasPairs.assembleMotors_toMotor (joints : map.HasPairs) (kind : DriveKind)
    (vector : Index → K) :
    map.assembleMotors (fun direct joint => direct.jointToDrive kind (vector joint))
      (fun pair joints => .ok (pair.jointToDrive kind fun side => vector (joints side))) =
        .ok (map.motorEntries (map.toMotor kind vector)) := by
  apply joints.assembleMotors_eq
  · exact fun entry => rfl
  · exact fun pair => rfl

/-- A map that assigns all motors is complete. -/
theorem jointToMotor_complete {kind : DriveKind} {vector : Index → K} {result : Dictionary K}
    (mapped : map.jointToMotor kind vector = .ok result) : map.Complete := by
  obtain ⟨assembled, found, checked⟩ := except_bind_eq_ok.mp mapped
  obtain ⟨_, size, _⟩ := except_bind_eq_ok.mp checked
  rw [raiseIf_eq_ok, not_not] at size
  have joints := hasPairs_of_assembleMotors found
  rw [joints.assembleMotors_toMotor, Except.ok.injEq] at found
  subst found
  have length : (map.motorEntries (map.toMotor kind vector)).length = 31 := by
    rw [← length_physicalMotorNames.mpr joints, ← motorName_drives, motorEntries,
      List.length_map, List.length_map]
  refine ⟨joints, ?_⟩
  rw [← keys_motorEntries]
  exact Dictionary.size_eq_length_iff.mp (size.trans length.symm)

variable (complete : map.Complete)

include complete

theorem Complete.jointToMotor_eq (kind : DriveKind) (vector : Index → K) :
    map.jointToMotor kind vector = .ok (map.motorEntries (map.toMotor kind vector)) := by
  refine except_bind_eq_ok.mpr ⟨_, complete.joints.assembleMotors_toMotor kind vector,
    except_bind_eq_ok.mpr ⟨(), raiseIf_eq_ok.mpr (not_not.mpr ?_), rfl⟩⟩
  rw [Dictionary.size, keys_motorEntries, complete.motors.dedup,
    length_physicalMotorNames.mpr complete.joints]

/-- What `_motor_to_joint` returns for the values of the motors. -/
theorem Complete.motorToJoint_eq {kind : DriveKind} {motor : Dictionary K} {value : String → K}
    (covers : Covers map.physicalMotorNames motor)
    (read : ∀ name ∈ map.physicalMotorNames, motor.get? name = some (value name)) :
    ∃ result, map.motorToJoint kind motor = .ok result ∧
      ∀ drive ∈ map.drives, result (map.joint (map.jointName drive)) =
        map.toJoint kind value drive := by
  have total (joint : Index) : ∃ here,
      (map.jointEntries (map.toJoint kind value)).get? (map.policyJointNames joint) =
        some here := by
    obtain ⟨drive, member, same⟩ := @exists_drive _ _ _ map joint
    rw [← same, get?_jointEntries member]
    exact ⟨_, rfl⟩
  choose result found using total
  refine ⟨result, ?_, ?_⟩
  · unfold motorToJoint
    refine except_bind_eq_ok.mpr ⟨(), raiseIf_eq_ok.mpr (not_not.mpr covers), ?_⟩
    have first : map.direct.mapM (fun entry => do
        let value ← motor.item entry.2.motorName
        return (entry.1, entry.2.driveToJoint kind value)) =
          .ok (map.direct.map fun entry => (entry.1, map.toJoint kind value (.direct entry))) := by
      apply mapM_eq_ok
      intro entry member
      have here := read entry.2.motorName
        (mem_physicalMotorNames.mpr ⟨.direct entry, mem_drives_direct.mpr member, rfl⟩)
      rw [Dictionary.item_eq_ok_iff.mpr here]
      rfl
    have second : PairName.all.mapM (fun pair => do
        let values ← collect fun side => motor.item ((map.differentials pair).motorNames side)
        return List.ofFn fun side => ((map.differentials pair).jointNames side,
          (map.differentials pair).driveToJoint kind values side)) =
          .ok (PairName.all.map fun pair => List.ofFn fun side =>
            ((map.differentials pair).jointNames side,
              map.toJoint kind value (.paired pair side))) := by
      apply mapM_eq_ok
      intro pair _
      have here : (collect fun side => motor.item ((map.differentials pair).motorNames side)) =
          .ok fun side => value ((map.differentials pair).motorNames side) := by
        rw [collect_eq_ok]
        intro side
        rw [Dictionary.item_eq_ok_iff]
        exact read _
          (mem_physicalMotorNames.mpr ⟨.paired pair side, mem_drives_paired pair side, rfl⟩)
      rw [here]
      rfl
    refine except_bind_eq_ok.mpr ⟨_, first, except_bind_eq_ok.mpr ⟨_, second, ?_⟩⟩
    rw [collect_eq_ok]
    intro joint
    rw [Dictionary.item_eq_ok_iff, ← found joint, jointEntries, drives_map]
    rfl
  · intro drive member
    have here := found (map.joint (map.jointName drive))
    rw [complete.joints.policyJointNames_joint member, get?_jointEntries member,
      Option.some.injEq] at here
    exact here.symm

end Values

/-! ## The commands of an impedance -/

section Commands

variable {map : SpriteMotorMap ℚ}

/-- The command of a motor for an impedance of the joints. -/
def command (map : SpriteMotorMap ℚ) (vectors : ImpedanceVectors Index) : Drive ℚ → MitCommand
  | .direct entry =>
      entry.2.jointImpedanceToDriveCommand (vectors.select fun _ => map.joint entry.1)
  | .paired pair side =>
      (map.differentials pair).driveCommands (map.differentials pair).driveToJointMatrix
        (vectors.select (map.pairJoints pair)) side

theorem Complete.jointImpedanceToMotorCommands_eq (complete : map.Complete)
    {vectors : ImpedanceVectors Index} (gains : ¬vectors.NegativeGain) :
    map.jointImpedanceToMotorCommands vectors = .ok (map.motorEntries (map.command vectors)) := by
  have commands (pair : PairName) :
      (map.differentials pair).jointImpedanceToDriveCommands
        (vectors.select (map.pairJoints pair)) =
          .ok fun side => map.command vectors (.paired pair side) := by
    apply DifferentialPairDriveMap.jointImpedanceToDriveCommands_eq
    rintro (⟨side, negative⟩ | ⟨side, negative⟩)
    · exact gains (.inl ⟨_, negative⟩)
    · exact gains (.inr ⟨_, negative⟩)
  exact except_bind_eq_ok.mpr ⟨(), raiseIf_eq_ok.mpr gains, except_bind_eq_ok.mpr ⟨_,
    complete.joints.assembleMotors_eq (fun entry => rfl) commands, except_bind_eq_ok.mpr
      ⟨(), raiseIf_eq_ok.mpr (not_not.mpr covers_motorEntries), rfl⟩⟩⟩

end Commands

end SpriteMotorMap

/-! ## A robot without coupling -/

section Uncoupled

/-- The joints of the hardware, in the order of the policy. -/
def policyJoints : List String :=
  ["left_hip_pitch_joint", "right_hip_pitch_joint", "waist_roll_joint",
    "left_hip_roll_joint", "right_hip_roll_joint", "waist_yaw_joint",
    "left_hip_yaw_joint", "right_hip_yaw_joint", "head_pitch_joint",
    "left_shoulder_pitch_joint", "right_shoulder_pitch_joint", "left_knee_joint",
    "right_knee_joint", "head_roll_joint", "left_shoulder_roll_joint",
    "right_shoulder_roll_joint", "left_ankle_pitch_joint", "right_ankle_pitch_joint",
    "head_yaw_joint", "left_shoulder_yaw_joint", "right_shoulder_yaw_joint",
    "left_ankle_roll_joint", "right_ankle_roll_joint", "left_elbow_joint",
    "right_elbow_joint", "left_wrist_yaw_joint", "right_wrist_yaw_joint",
    "left_wrist_pitch_joint", "right_wrist_pitch_joint", "left_wrist_roll_joint",
    "right_wrist_roll_joint"]

def pairMotors : PairName → Fin 2 → String
  | .leftAnkle => !["left_ankle_motor_a", "left_ankle_motor_b"]
  | .rightAnkle => !["right_ankle_motor_a", "right_ankle_motor_b"]
  | .head => !["head_motor_a", "head_motor_b"]

theorem policyJoints_nodup : policyJoints.Nodup := by simp [policyJoints]

theorem policyJoints_length : kJointCount = policyJoints.length := by rfl

def policyJoint (joint : Index) : String := policyJoints.get (Fin.cast policyJoints_length joint)

theorem policyJoint_injective : Function.Injective policyJoint :=
  (List.nodup_iff_injective_get.mp policyJoints_nodup).comp (Fin.cast_injective _)

theorem exists_policyJoint {name : String} :
    (∃ joint, policyJoint joint = name) ↔ name ∈ policyJoints := by
  rw [List.mem_iff_get]
  constructor
  · rintro ⟨joint, same⟩
    exact ⟨_, same⟩
  · rintro ⟨place, same⟩
    exact ⟨Fin.cast policyJoints_length.symm place, same⟩

/-- The motors, those of the pairs last. -/
def uncoupledMotors : List String :=
  (policyJoints.filter fun name => ∀ pair side, PairName.joints pair side ≠ name).map
      (fun name => name ++ "_motor") ++
    PairName.all.flatMap fun pair => List.ofFn (pairMotors pair)

theorem uncoupledMotors_length : kJointCount = uncoupledMotors.length := by rfl

set_option maxRecDepth 2000 in
theorem uncoupledMotors_nodup : uncoupledMotors.Nodup := by decide

variable (K) [IsStrictOrderedRing K]

/-- Every motor moves its joint one to one. -/
def uncoupledMotorMap : SpriteMotorMap K where
  policyJointNames := policyJoint
  direct := (policyJoints.filter fun name => ∀ pair side, PairName.joints pair side ≠ name).map
    fun name => (name,
      { motorName := name ++ "_motor"
        driveZeroRad := 0
        encoderSign := 1
        policyToMotorSign := 1
        totalRatio := 1
        encoder := .inr rfl
        policyToMotor := .inr rfl
        positive := zero_lt_one })
  differentials pair :=
    { name := pair
      motorNames := pairMotors pair
      driveZeroRad := 0
      encoderSign := 1
      coupling :=
        { jointToMotorMatrix := 1
          motorZeroRad := 0
          regular := by rw [det_one]; norm_num }
      distinct := by cases pair <;> decide
      encoder := fun _ => .inr rfl }
  unique := policyJoint_injective
  distinct := by
    simp only [Dictionary.keys, List.map_map, Function.comp_def, List.map_id']
    exact policyJoints_nodup.filter _
  pairs := fun _ _ => id
  covers name := by
    rw [exists_policyJoint]
    simp only [Dictionary.keys, List.map_map, Function.comp_def, List.map_id', List.mem_filter,
      decide_eq_true_eq]

theorem uncoupledMotorMap_motors :
    (uncoupledMotorMap K).physicalMotorNames = uncoupledMotors := by
  simp only [SpriteMotorMap.physicalMotorNames, uncoupledMotorMap, uncoupledMotors,
    List.map_map, Function.comp_def]

theorem uncoupledMotorMap_length : (uncoupledMotorMap K).physicalMotorNames.length = 31 := by
  rw [uncoupledMotorMap_motors, ← uncoupledMotors_length]
  rfl

theorem uncoupledMotorMap_nodup : (uncoupledMotorMap K).physicalMotorNames.Nodup := by
  rw [uncoupledMotorMap_motors]
  exact uncoupledMotors_nodup

end Uncoupled

end SpriteRuntime
