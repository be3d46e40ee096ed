import SpriteRuntime.Runtime.InventoryEndpoints
import SpriteRuntime.Runtime.InventoryMap
import SpriteRuntime.Runtime.MotorDrives

/-!
# Is a valid inventory usable?

A valid inventory should give the map of the motors and the endpoints of the decoder.  It does so
exactly if no motor of a pair borrows the name of a joint that has a motor of its own, and if the
ratios of every direct motor have a product that is a positive double.
-/

namespace SpriteRuntime

open Foundation

variable {strings : PythonStrings} {hardware : List (String × Value)} {policyOrder : List String}
  {motors : List InventoryMotor}

/-- The labels of the motors of the inventory. -/
def motorLabels (hardware : List (String × Value)) : List String :=
  ((part hardware "motor_map").getD []).map Prod.fst

/-- The drives of the map are one to one with the joints of the policy and with the motors of the
inventory. -/
structure ServesEveryJoint (policyOrder labels : List String) (map : SpriteMotorMap ℚ) : Prop where
  order : List.ofFn map.policyJointNames = policyOrder
  count : map.physicalMotorNames.length = 31
  distinct : map.physicalMotorNames.Nodup
  motors : (map.drives.map map.motorName).Perm labels
  joints : (map.drives.map map.jointName).Perm policyOrder
  single : ∀ joint ∈ directJoints policyOrder, ∃! entry, entry ∈ map.direct ∧ entry.1 = joint
  pairs : ∀ pair, (map.differentials pair).name = pair ∧
    (map.differentials pair).motorNames 0 ≠ (map.differentials pair).motorNames 1 ∧
    (map.differentials pair).coupling.jointToMotorMatrix.det ≠ 0

/-! ## The roles of the motors -/

namespace InventoryMotor

variable {motor : InventoryMotor}

/-- A motor of a pair has no joint of its own. -/
theorem Checked.direct_eq_none {pair : PairName} (checked : motor.Checked strings policyOrder)
    (coupled : motor.coupled = some pair) : motor.direct = none := by
  cases checked.role with
  | direct joint known joins alone =>
      rw [InventoryMotor.coupled, coupledOf, alone] at coupled
      cases coupled
  | coupled other joins among =>
      rw [direct, directOf, joins]
      rfl

/-- A motor without a joint of its own is one of a pair. -/
theorem Checked.exists_pair (checked : motor.Checked strings policyOrder)
    (indirect : motor.direct = none) : ∃ pair, motor.coupled = some pair := by
  cases checked.role with
  | direct joint known joins alone =>
      rw [direct, directOf, joins] at indirect
      cases indirect
  | coupled pair joins among => exact ⟨pair, among⟩

end InventoryMotor

theorem motor_eq (labels : (motors.map Prod.fst).Nodup) {left right : InventoryMotor}
    (inLeft : left ∈ motors) (inRight : right ∈ motors) (same : left.1 = right.1) :
    left = right :=
  List.inj_on_of_nodup_map labels inLeft inRight same

theorem mem_membersOf {pair : PairName} {label : String} :
    label ∈ membersOf motors pair ↔ ∃ motor ∈ motors, motor.coupled = some pair ∧
      motor.1 = label := by
  simp only [membersOf, List.mem_map, List.mem_filter, decide_eq_true_eq, and_assoc]

theorem mem_labelsOfJoints {joint label : String} :
    (joint, label) ∈ labelsOfJoints motors ↔ ∃ motor ∈ motors, motor.direct = some joint ∧
      motor.1 = label := by
  simp only [labelsOfJoints, List.mem_filterMap, Option.map_eq_some_iff, Prod.mk.injEq,
    exists_eq_left, and_left_comm]

/-! ## The motors of the map -/

/-- The names of the motors of the map: those of the direct motors, then those of the pairs. -/
structure NamesMotors (motors : List InventoryMotor) (map : SpriteMotorMap ℚ) : Prop where
  direct : map.direct.map (fun entry => (entry.1, entry.2.motorName)) = labelsOfJoints motors
  paired : ∀ pair label, label ∈ List.ofFn (map.differentials pair).motorNames ↔
    label ∈ membersOf motors pair

namespace NamesMotors

variable {map : SpriteMotorMap ℚ}

theorem motorNames_eq (names : NamesMotors motors map) :
    map.physicalMotorNames = (labelsOfJoints motors).map Prod.snd ++
      PairName.all.flatMap fun pair => List.ofFn (map.differentials pair).motorNames := by
  rw [SpriteMotorMap.physicalMotorNames, ← names.direct, List.map_map]
  rfl

/-- The motors of the map are those of the inventory. -/
theorem mem_iff (names : NamesMotors motors map)
    (checked : ∀ motor ∈ motors, motor.Checked strings policyOrder) {label : String} :
    label ∈ map.physicalMotorNames ↔ label ∈ motors.map Prod.fst := by
  rw [names.motorNames_eq, List.mem_append, List.mem_flatMap, List.mem_map]
  constructor
  · rintro (⟨⟨joint, other⟩, listed, rfl⟩ | ⟨pair, _, listed⟩)
    · obtain ⟨motor, member, _, rfl⟩ := mem_labelsOfJoints.mp listed
      exact List.mem_map_of_mem member
    · obtain ⟨motor, member, _, rfl⟩ := mem_membersOf.mp ((names.paired pair label).mp listed)
      exact List.mem_map_of_mem member
  · intro labelled
    obtain ⟨motor, member, rfl⟩ := List.mem_map.mp labelled
    cases direct : InventoryMotor.direct motor with
    | some joint =>
        exact .inl ⟨(joint, motor.1), mem_labelsOfJoints.mpr ⟨motor, member, direct, rfl⟩, rfl⟩
    | none =>
        obtain ⟨pair, coupled⟩ := (checked motor member).exists_pair direct
        exact .inr ⟨pair, pair.mem_all, (names.paired pair motor.1).mpr
          (mem_membersOf.mpr ⟨motor, member, coupled, rfl⟩)⟩

/-- The labels of the direct motors are labels of the inventory, in order. -/
theorem sublist_labels (motors : List InventoryMotor) :
    ((labelsOfJoints motors).map Prod.snd).Sublist (motors.map Prod.fst) := by
  induction motors with
  | nil => exact List.Sublist.slnil
  | cons motor rest induction =>
      cases direct : motor.direct with
      | none =>
          rw [labelsOfJoints_cons_none direct]
          exact induction.cons _
      | some joint =>
          rw [labelsOfJoints_cons_some direct]
          exact induction.cons_cons _

/-- No motor has two places in the map. -/
theorem nodup (names : NamesMotors motors map) (labels : (motors.map Prod.fst).Nodup)
    (checked : ∀ motor ∈ motors, motor.Checked strings policyOrder) :
    map.physicalMotorNames.Nodup := by
  rw [names.motorNames_eq, List.nodup_append]
  refine ⟨labels.sublist (sublist_labels motors), ?_, ?_⟩
  · rw [List.nodup_flatMap]
    constructor
    · intro pair _
      have distinct := (map.differentials pair).distinct
      simpa [List.ofFn_succ] using distinct
    · have distinct : PairName.all.Nodup := by decide
      refine distinct.imp fun {left right} different label inLeft inRight => ?_
      obtain ⟨first, member, coupled, same⟩ := mem_membersOf.mp ((names.paired left _).mp inLeft)
      obtain ⟨second, other, paired, rfl⟩ := mem_membersOf.mp ((names.paired right _).mp inRight)
      cases motor_eq labels member other same
      rw [coupled] at paired
      exact different (Option.some.inj paired)
  · rintro label inDirect other inPairs rfl
    obtain ⟨⟨joint, _⟩, listed, rfl⟩ := List.mem_map.mp inDirect
    obtain ⟨pair, _, paired⟩ := List.mem_flatMap.mp inPairs
    obtain ⟨first, member, direct, same⟩ := mem_labelsOfJoints.mp listed
    obtain ⟨second, among, coupled, again⟩ := mem_membersOf.mp ((names.paired pair _).mp paired)
    cases motor_eq labels member among (same.trans again.symm)
    rw [(checked first member).direct_eq_none coupled] at direct
    cases direct

/-- A map of these motors serves every joint of the policy. -/
theorem serves (names : NamesMotors motors map) (labels : (motors.map Prod.fst).Nodup)
    (checked : ∀ motor ∈ motors, motor.Checked strings policyOrder) (count : motors.length = 31)
    (order : List.ofFn map.policyJointNames = policyOrder)
    (pairs : ∀ pair, (map.differentials pair).name = pair) :
    ServesEveryJoint policyOrder (motors.map Prod.fst) map := by
  have distinct := names.nodup labels checked
  have same : map.physicalMotorNames.Perm (motors.map Prod.fst) :=
    (List.perm_ext_iff_of_nodup distinct labels).mpr fun label => names.mem_iff checked
  have length : map.physicalMotorNames.length = 31 := by
    rw [same.length_eq, List.length_map, count]
  constructor
  · exact order
  · exact length
  · exact distinct
  · rw [SpriteMotorMap.motorName_drives]
    exact same
  · subst order
    apply (List.perm_ext_iff_of_nodup SpriteMotorMap.jointName_nodup
      (List.nodup_ofFn.mpr map.unique)).mpr
    intro name
    rw [List.mem_map, List.mem_ofFn]
    constructor
    · rintro ⟨drive, member, rfl⟩
      have paired := SpriteMotorMap.length_physicalMotorNames.mp length
      exact ⟨_, paired.policyJointNames_joint member⟩
    · rintro ⟨joint, rfl⟩
      exact SpriteMotorMap.exists_drive joint
  · subst order
    intro joint direct
    rw [mem_directJoints, List.mem_ofFn] at direct
    obtain ⟨entry, member⟩ := Dictionary.mem_keys.mp ((map.covers joint).mpr direct)
    refine ⟨(joint, entry), ⟨member, rfl⟩, ?_⟩
    rintro other ⟨among, named⟩
    exact List.inj_on_of_nodup_map map.distinct among member named
  · intro pair
    exact ⟨pairs pair, (map.differentials pair).distinct,
      (map.differentials pair).coupling.det_ne_zero⟩

end NamesMotors

/-! ## The map of the inventory -/

theorem spriteMotorMap_make {direct : Assigned (DirectMotorMap ℚ)}
    (differentials : (name : PairName) →
      { map : DifferentialPairDriveMap ℚ // map.name = name })
    (unique : policyOrder.length = 31 ∧ policyOrder.Nodup)
    (covers : sameNames direct.entries.keys (directJoints policyOrder) = true) :
    ∃ map, SpriteMotorMap.make policyOrder direct differentials = .ok map ∧
      List.ofFn map.policyJointNames = policyOrder ∧ map.direct = direct.entries ∧
      ∀ pair, map.differentials pair = (differentials pair).1 := by
  refine ⟨_, (dif_pos unique).trans (dif_pos covers), ?_, rfl, fun pair => rfl⟩
  apply List.ext_getElem
  · rw [List.length_ofFn, unique.1]
    rfl
  · intro index inside _
    rw [List.getElem_ofFn]
    rfl

theorem item_motorMap (inventory : CheckedInventory strings hardware policyOrder motors) :
    item hardware "motor_map" = .ok (.dict (motors.map InventoryMotor.toItem)) := by
  have found := Value.dict?_eq_some.mp inventory.motorMap
  rw [item_of_field (by simp [found]), found]

/-- The map is built when the ratios of every direct motor are in range. -/
theorem armableMotorMap_eq_ok {report : HardwareInventoryReport}
    (configured : isConfigured hardware = true)
    (validated : validateHardwareInventory strings hardware policyOrder = .ok report)
    (valid : report.Valid) (inventory : CheckedInventory strings hardware policyOrder motors)
    (labels : (motors.map Prod.fst).Nodup) (named : "" ∉ motors.map Prod.fst)
    (inRange : ∀ motor ∈ motors, motor.direct ≠ none → motor.RatioInRange strings) :
    ∃ map, armableMotorMapFromHardwareConfig strings hardware policyOrder = .ok map ∧
      ServesEveryJoint policyOrder (motors.map Prod.fst) map := by
  have records := item_motorMap inventory
  have labelled : ∀ motor ∈ motors, motor.1 ≠ "" := by
    intro motor member empty
    exact named (empty ▸ List.mem_map_of_mem member)
  obtain ⟨direct, folded, joints⟩ :=
    foldlM_addDirect Assigned.empty inventory.checked labelled inRange inventory.cover.once
  have made (pair : PairName) := differentialMap_eq_ok inventory labels pair
  choose differentials built members using made
  have keys : direct.entries.keys = directsOf motors := by
    have mapped := congrArg (List.map Prod.fst) joints
    rw [motorsOfJoints, List.map_map, List.map_append, map_fst_labelsOfJoints] at mapped
    exact mapped
  have covers : sameNames direct.entries.keys (directJoints policyOrder) = true := by
    rw [keys, sameNames_iff]
    exact inventory.cover.exact
  obtain ⟨map, constructed, order, directs, pairs⟩ :=
    spriteMotorMap_make differentials inventory.policy covers
  have names : NamesMotors motors map := by
    constructor
    · rw [directs]
      exact joints
    · intro pair label
      rw [pairs]
      exact members pair label
  have serves := names.serves labels inventory.checked inventory.cover.count order fun pair => by
    rw [pairs]
    exact (differentials pair).2
  refine ⟨map, ?_, serves⟩
  have exactly : ¬sameNames map.physicalMotorNames
      ((motors.map InventoryMotor.toItem).map Prod.fst) = false := by
    rw [Bool.not_eq_false, sameNames_iff, map_fst_toItem]
    exact fun label => names.mem_iff inventory.checked
  simp only [armableMotorMapFromHardwareConfig, configured, validated, valid, records,
    except_ok_bind, asRecord, Value.dict?, folded, built, raiseIf, Bool.true_eq_false, not_true,
    if_false]
  refine except_bind_eq_ok.mpr ⟨map, ?_, ?_⟩
  · rw [← constructed]
    congr 1
    funext pair
    cases pair <;> rfl
  · rw [if_neg exactly]
    rfl

/-- The map is not built when the ratios of a direct motor are out of range. -/
theorem ratioInRange_of_armableMotorMap {map : SpriteMotorMap ℚ}
    (inventory : CheckedInventory strings hardware policyOrder motors)
    (built : armableMotorMapFromHardwareConfig strings hardware policyOrder = .ok map) :
    ∀ motor ∈ motors, motor.direct ≠ none → motor.RatioInRange strings := by
  obtain ⟨_, _, built⟩ := except_bind_eq_ok.mp built
  obtain ⟨_, _, built⟩ := except_bind_eq_ok.mp built
  obtain ⟨_, _, built⟩ := except_bind_eq_ok.mp built
  obtain ⟨value, found, built⟩ := except_bind_eq_ok.mp built
  obtain ⟨records, object, built⟩ := except_bind_eq_ok.mp built
  obtain ⟨direct, folded, _⟩ := except_bind_eq_ok.mp built
  rw [item_motorMap inventory] at found
  cases found
  cases object
  exact ratioInRange_of_foldlM inventory.checked folded

/-! ## The inventory -/

/-- The records of the inventory under their labels. -/
def inventoryMotors (hardware : List (String × Value)) : List InventoryMotor :=
  ((part hardware "motor_map").getD []).map fun entry => (entry.1, entry.2.dict?.getD [])

theorem inventoryMotors_eq (inventory : CheckedInventory strings hardware policyOrder motors) :
    inventoryMotors hardware = motors := by
  rw [inventoryMotors, inventory.motorMap, Option.getD_some, List.map_map]
  exact List.map_id motors

theorem motorLabels_eq (inventory : CheckedInventory strings hardware policyOrder motors) :
    motorLabels hardware = motors.map Prod.fst := by
  rw [motorLabels, inventory.motorMap, Option.getD_some, map_fst_toItem]

/-- What is built from the inventory: a map that serves every joint, and endpoints of the same
motors with distinct keys. -/
structure InventorySound (strings : PythonStrings) (hardware : List (String × Value))
    (policyOrder : List String) : Prop where
  map : ∃ map, armableMotorMapFromHardwareConfig strings hardware policyOrder = .ok map ∧
    ServesEveryJoint policyOrder (motorLabels hardware) map
  endpoints : ∃ endpoints, endpointsFromHardwareConfig strings hardware = .ok endpoints ∧
    endpoints.map DamiaoFeedbackEndpoint.motorName = motorLabels hardware ∧
    DistinctKeys endpoints

section Example

/-- The functions on strings, for texts of ASCII letters without outer blanks; numbers do not
stand in texts. -/
def plainStrings : PythonStrings where
  parseFloat _ := none
  parseInt _ := none
  strip text := text
  upper text := String.ofList (text.toList.map Char.toUpper)
  str _ := ""
  reprSorted _ := ""

def symmetricRange (bound : ℚ) : Value :=
  .list [.float (.finite (-bound)), .float (.finite bound)]

/-- Two torques and two speeds that the checks of the model admit. -/
def exampleRatings (model : String) : ℚ × ℚ × ℚ × ℚ :=
  if model = j4340p then (14, 40, 15 / 4, 149 / 16)
  else if model = j4310p then (7 / 2, 25 / 2, 201 / 16, 2317 / 64)
  else (1, 3, 4, 20)

def exampleRecord (role : List (String × Value)) (channel : Value) (canId : ℤ) (model : String)
    (ratio : ℤ) : Value :=
  .dict (role ++
    [("model", .str model), ("firmware", .str "1.0"), ("can_channel", channel),
      ("can_id", .int canId), ("master_id", .int (canId + 0x10)), ("motor_zero_rad", .int 0),
      ("encoder_sign", .int 1), ("policy_to_motor_sign", .int 1), ("reduction_ratio", .int ratio),
      ("linkage_ratio", .int ratio), ("soft_limit_rad", symmetricRange 1),
      ("hard_limit_rad", symmetricRange 2),
      ("rated_torque_nm", .float (.finite (exampleRatings model).1)),
      ("peak_torque_nm", .float (.finite (exampleRatings model).2.1)),
      ("rated_speed_rad_s", .float (.finite (exampleRatings model).2.2.1)),
      ("max_speed_rad_s", .float (.finite (exampleRatings model).2.2.2)),
      ("rated_current_a", .int 1), ("peak_current_a", .int 2), ("temperature_limit_c", .int 100),
      ("mit_ranges", .dict [("position_rad", symmetricRange 12),
        ("velocity_rad_s", symmetricRange 30), ("kp", symmetricRange 500),
        ("kd", symmetricRange 5), ("torque_nm", symmetricRange 40),
        ("source", .str "motor_register_readback")])])

/-- The joint or the pair of a role. -/
def exampleRole (role : String) : List (String × Value) :=
  match PairName.all.find? fun pair => pairMotors pair 0 = role ∨ pairMotors pair 1 = role with
  | some pair => [("coupled_joints", .list [.str (pair.joints 0), .str (pair.joints 1)])]
  | none => [("policy_joint", .str role)]

/-- Every motor under its role, at the address of the tables. -/
def exampleMotors : List (String × Value) :=
  confirmedCanEndpoints.map fun (role, channel, canId) =>
    (role, exampleRecord (exampleRole role) (.int channel) canId
      ((confirmedMotorModels.lookup role).getD "") 1)

/-- A motor of the head has the name of the joint of the left hip, and with it the address.  The
motor of the left hip has the channel `false` and two ratios of `1e200`. -/
def faultyMotors : List (String × Value) :=
  exampleMotors.map fun (label, record) =>
    if label = "left_hip_pitch_joint" then
      ("left_hip_pitch_motor", exampleRecord (exampleRole label) (.bool false) 1 j4340p (10 ^ 200))
    else if label = "head_motor_a" then
      ("left_hip_pitch_joint", exampleRecord (exampleRole label) (.int 0) 1 j4340p 1)
    else (label, record)

def examplePair (left right : String) : Value :=
  .dict [("calibrated", .bool true), ("motor_names", .list [.str left, .str right]),
    ("joint_to_motor_matrix", .list [.list [.int 1, .int 1], .list [.int 1, .int (-1)]]),
    ("motor_zero_rad", .list [.int 0, .int 0]), ("source", .str "bench")]

def SpecValue.toValue : SpecValue → Value
  | number value => .float (.finite value)
  | text value => .str value

/-- An inventory of these motors; the label of one motor of the head is given. -/
def exampleHardware (motors : List (String × Value)) (headMotor : String) :
    List (String × Value) :=
  [("configured", .bool true),
    ("can_adapter", .dict
      [("backend", .str "socketcan"), ("vendor", .str "vendor"), ("sdk_version", .str "1"),
        ("logical_bus_names",
          .list [.str "CANFD1", .str "CANFD2", .str "CANFD3", .str "CANFD4"]),
        ("interfaces", .list [.str "can0", .str "can1", .str "can2", .str "can3"]),
        ("commissioning_shadow", .dict
          [("required_before_arm", .bool true), ("completed", .bool true),
            ("all_motors_disabled", .bool true), ("method", .str "active_zero_gain_position_echo"),
            ("payload", .str "position_echo_v0_kp0_kd0_tau0"), ("evidence_report", .str "report"),
            ("duration_s", .int 120), ("minimum_motor_sample_coverage", .int 1),
            ("deadline_misses", .int 0), ("can_error_delta", .int 0), ("can_drop_delta", .int 0),
            ("nonzero_gain_or_torque_tx_attempts", .int 0), ("automatic_enable_attempts", .int 0),
            ("automatic_mode_switch_attempts", .int 0)])]),
    ("motor_model_specs", .dict (damiaoModelSpecs.map fun (model, figures) =>
      (model, .dict (figures.entry.map fun (name, value) => (name, value.toValue))))),
    ("controller", .dict [("nominal_bus_voltage_v", .int 38), ("damiao_embedded_kd_max", .int 3)]),
    ("motor_map", .dict motors),
    ("imu", .dict (("configured", .bool true) :: imuFields.map fun name => (name, .int 1))),
    ("estop", .dict [("configured", .bool true), ("hardware_chain", .str "relay")]),
    ("differentials", .dict
      [("left_ankle", examplePair "left_ankle_motor_a" "left_ankle_motor_b"),
        ("right_ankle", examplePair "right_ankle_motor_a" "right_ankle_motor_b"),
        ("head", examplePair headMotor "head_motor_b")])]

instance (motors : List InventoryMotor) : Decidable (Unborrowed motors) :=
  inferInstanceAs (Decidable (∀ motor ∈ motors, ∀ other ∈ motors, motor.direct = none → _))

end Example

end SpriteRuntime
