import SpriteRuntime.Runtime.HardwareConfig
import SpriteRuntime.Runtime.InventoryFacts

/-!
# A checked inventory

The checks of an inventory without an error, taken together: what every motor has, that the
joints with a motor of their own have exactly one, and that every pair has two motors and a
calibration.
-/

namespace SpriteRuntime

open Foundation

variable {strings : PythonStrings}

/-- A motor of the inventory: its label and its record. -/
abbrev InventoryMotor : Type := String × List (String × Value)

namespace InventoryMotor

variable (motor : InventoryMotor)

/-- The joint of a direct motor. -/
def direct : Option String := directOf motor.2

/-- The pair of a coupled motor. -/
def coupled : Option PairName := coupledOf motor.2

/-- The name under which the tables have the motor. -/
def role : String := motor.direct.getD motor.1

/-- What the loop over the motors keeps of one that has been checked. -/
def entry : MotorEntry where
  label := motor.1
  direct := motor.direct
  coupled := motor.coupled
  endpoint := endpointText (field motor.2 "can_channel") (field motor.2 "can_id")
  feedback := endpointText (field motor.2 "can_channel") (field motor.2 "master_id")

/-- The entry of the dictionary. -/
def toItem : String × Value := (motor.1, .dict motor.2)

/-- What the checks of one motor establish. -/
structure Checked (strings : PythonStrings) (policyOrder : List String)
    (motor : InventoryMotor) : Prop where
  role : HasRole policyOrder motor.2
  present : ∀ name ∈ motorRequiredFields, field motor.2 name ≠ .none
  address : ∃ channel canId, confirmedCanEndpoints.lookup motor.role = some (channel, canId) ∧
    HasAddress motor.2 channel canId
  signs : HasSigns strings motor.2
  reduction : IsPositive strings motor.2 "reduction_ratio"
  linkage : IsPositive strings motor.2 "linkage_ratio"
  mitRanges : ∃ mit, HasMitRanges strings motor.2 mit

end InventoryMotor

/-! ## One motor -/

/-- The address that the tables have for the role is that of the record. -/
theorem confirmed_of_clean {label role : String} {record : List (String × Value)} {result : Unit}
    {channel canId : ℤ} (clean : (checkConfirmed label role record).Clean result)
    (address : HasAddress record channel canId) :
    confirmedCanEndpoints.lookup role = some (channel, canId) := by
  cases found : confirmedCanEndpoints.lookup role with
  | none =>
      simp only [checkConfirmed, found, Audit.clean_bind_iff] at clean
      obtain ⟨_, noted, _⟩ := clean
      exact absurd noted Audit.not_clean_note
  | some confirmed =>
      simp only [checkConfirmed, found, Audit.clean_bind_iff] at clean
      obtain ⟨_, same, _⟩ := clean
      have matching := Bool.not_eq_false _ ▸ Audit.clean_noteIf_iff.mp same
      obtain ⟨channelSame, idSame⟩ := (Bool.and_eq_true _ _).mp matching
      rw [Value.int?_of_isNumber channelSame address.channelInt,
        Value.int?_of_isNumber idSame address.canIdInt]

theorem motor_of_clean {policyOrder : List String} {item : String × Value} {entry : MotorEntry}
    (clean : (validateMotor strings policyOrder item).Clean entry) :
    ∃ motor : InventoryMotor, item = motor.toItem ∧ entry = motor.entry ∧
      motor.Checked strings policyOrder := by
  obtain ⟨label, value⟩ := item
  obtain ⟨roles, checked, rest⟩ := Audit.clean_bind_iff.mp clean
  unfold validateMotorRecord at checked
  split at checked
  · obtain ⟨_, noted, _⟩ := Audit.clean_bind_iff.mp checked
    exact absurd noted Audit.not_clean_note
  · rename_i record object
    simp only [Audit.clean_bind_iff, Audit.clean_pure_iff] at checked
    obtain ⟨_, role, _, fields, _, address, _, signs, _, numbers, _, mitRanges, rfl⟩ := checked
    simp only [object, Audit.clean_bind_iff] at rest
    obtain ⟨_, _, _, confirmed, _, fed, _, _, made⟩ := rest
    cases Audit.clean_pure_iff.mp fed
    obtain ⟨present, signed⟩ := present_of_clean fields
    obtain ⟨channel, canId, hasAddress⟩ := hasAddress_of_clean address present
    refine ⟨(label, record), ?_, ?_, ?_⟩
    · rw [InventoryMotor.toItem, Value.dict?_eq_some.mp object]
    · exact Audit.clean_pure_iff.mp made
    · constructor
      · exact hasRole_of_clean role
      · exact present
      · exact ⟨channel, canId, confirmed_of_clean confirmed hasAddress, hasAddress⟩
      · exact hasSigns_of_clean signs present signed
      · exact isPositive_of_clean numbers (by decide) (present _ (by decide))
      · exact isPositive_of_clean numbers (by decide) (present _ (by decide))
      · exact hasMitRanges_of_clean mitRanges (present _ (by decide))

/-- The items are those of checked motors, one by one. -/
theorem motors_of_clean {policyOrder : List String} {items : List (String × Value)}
    {entries : List MotorEntry}
    (clean : (Audit.mapEach items (validateMotor strings policyOrder)).Clean entries) :
    ∃ motors : List InventoryMotor, items = motors.map InventoryMotor.toItem ∧
      entries = motors.map InventoryMotor.entry ∧
      ∀ motor ∈ motors, motor.Checked strings policyOrder := by
  replace clean := Audit.clean_mapEach_iff.mp clean
  induction clean with
  | nil => exact ⟨[], rfl, rfl, fun _ member => absurd member List.not_mem_nil⟩
  | cons first _ induction =>
      obtain ⟨motor, rfl, rfl, checked⟩ := motor_of_clean first
      obtain ⟨motors, rfl, rfl, others⟩ := induction
      exact ⟨motor :: motors, rfl, rfl, List.forall_mem_cons.mpr ⟨checked, others⟩⟩

/-! ## The motors together -/

theorem sortedNames_eq_nil_iff {names : List String} : sortedNames names = [] ↔ names = [] := by
  constructor
  · intro sorted
    have same := List.perm_insertionSort (· ≤ ·) names
    rw [← sortedNames, sorted] at same
    exact same.nil_eq.symm
  · rintro rfl
    rfl

/-- Nothing is repeated in a list without duplicates. -/
theorem repeated_eq_nil_iff {names : List String} : repeated names = [] ↔ names.Nodup := by
  rw [repeated, sortedNames_eq_nil_iff, List.filter_eq_nil_iff, List.nodup_iff_count_le_one]
  simp only [List.mem_dedup, decide_eq_true_eq, not_lt]
  constructor
  · intro few name
    by_cases member : name ∈ names
    · exact few name member
    · rw [List.count_eq_zero_of_not_mem member]
      exact Nat.zero_le 1
  · intro few name _
    exact few name

/-- The labels of the motors of a pair. -/
def membersOf (motors : List InventoryMotor) (pair : PairName) : List String :=
  (motors.filter fun motor => motor.coupled = some pair).map Prod.fst

theorem coupledLabels_entries (motors : List InventoryMotor) (pair : PairName) :
    coupledLabels (motors.map InventoryMotor.entry) pair = membersOf motors pair := by
  rw [coupledLabels, membersOf, List.filter_map, List.map_map]
  rfl

/-- The motors that move one joint, and the joints. -/
def directsOf (motors : List InventoryMotor) : List String :=
  motors.filterMap InventoryMotor.direct

structure MotorsCover (policyOrder : List String) (motors : List InventoryMotor) : Prop where
  once : (directsOf motors).Nodup
  exact : ∀ joint, joint ∈ directsOf motors ↔ joint ∈ directJoints policyOrder
  count : motors.length = 31

theorem motorsCover_of_clean {policyOrder : List String} {motors : List InventoryMotor}
    {result : Unit}
    (clean : (checkMotorCoverage policyOrder (motors.map InventoryMotor.entry)).Clean result)
    (checked : ∀ motor ∈ motors, motor.Checked strings policyOrder) :
    MotorsCover policyOrder motors := by
  have directs : (motors.map InventoryMotor.entry).filterMap MotorEntry.direct =
      directsOf motors := by
    rw [List.filterMap_map]
    rfl
  simp only [checkMotorCoverage, Audit.clean_bind_iff, Audit.clean_noteIf_iff, not_not, directs,
    sortedNames_eq_nil_iff, repeated_eq_nil_iff, List.filter_eq_nil_iff, List.mem_filter,
    List.mem_dedup, decide_eq_true_eq, List.length_map] at clean
  obtain ⟨_, missing, _, once, _, unexpected, _, _, _, _, _, _, _, _, count⟩ := clean
  constructor
  · exact once
  · intro joint
    rw [directJoints, List.mem_filter, decide_eq_true_eq]
    constructor
    · intro member
      refine ⟨?_, unexpected joint member⟩
      obtain ⟨motor, among, direct⟩ := List.mem_filterMap.mp member
      cases (checked motor among).role with
      | direct other known joins alone =>
          have same : motor.direct = some other := Value.text?_eq_some.mpr joins
          rw [direct] at same
          cases same
          exact known
      | coupled pair joins _ =>
          rw [InventoryMotor.direct, directOf, joins] at direct
          cases direct
    · exact missing joint
  · exact count

/-! ## The interfaces -/

theorem length_of_mapM_eq_some {α β : Type} {entry : α → Option β} {items : List α}
    {values : List β} (mapped : items.mapM entry = some values) :
    values.length = items.length := by
  induction items generalizing values with
  | nil =>
      cases mapped
      rfl
  | cons item rest induction =>
      rw [List.mapM_cons] at mapped
      obtain ⟨first, _, mapped⟩ := Option.bind_eq_some_iff.mp mapped
      obtain ⟨others, rested, made⟩ := Option.bind_eq_some_iff.mp mapped
      cases made
      rw [List.length_cons, List.length_cons, induction rested]

theorem interfaces_of_clean {interfaces : Value} {result : Unit}
    (clean : (checkInterfaces interfaces).Clean result) :
    ∃ items names, interfaces = .list items ∧ items.length = 4 ∧
      items.mapM Value.text? = some names ∧ names.length = 4 ∧ names.Nodup ∧ "" ∉ names := by
  unfold checkInterfaces at clean
  split at clean
  · rename_i first second third fourth listed
    split at clean
    · rename_i names texts
      split at clean
      · rename_i wellFormed
        have distinct := not_not.mp (Audit.clean_noteIf_iff.mp clean)
        refine ⟨_, names, Value.list?_eq_some.mp listed, rfl, texts,
          length_of_mapM_eq_some texts, distinct, ?_⟩
        intro empty
        have name := List.all_eq_true.mp wellFormed _ empty
        simp [isInterfaceName] at name
      · exact absurd clean Audit.not_clean_note
    · exact absurd clean Audit.not_clean_note
  · exact absurd clean Audit.not_clean_note

/-! ## The pairs -/

/-- The calibration of a pair, and its two motors. -/
structure PairChecked (strings : PythonStrings) (config : List (String × Value))
    (members : List String) (left right : String) (matrix zeros : List ℚ) : Prop where
  names : field config "motor_names" = .list [.str left, .str right]
  distinct : left ≠ right
  members : ∀ label, label ∈ members ↔ label = left ∨ label = right
  calibration : pairCalibration strings config = .ok (matrix, zeros)
  regular : ¬|determinant2 matrix| < 1 / 1000000

theorem motorNames?_eq_some {value : Value} {left right : String}
    (named : motorNames? value = some (left, right)) :
    value = .list [.str left, .str right] ∧ left ≠ right := by
  unfold motorNames? at named
  split at named
  · rename_i first second listed
    split at named
    · rename_i firstText secondText firstSome secondSome
      split at named
      · rename_i unlike
        cases named
        rw [Value.list?_eq_some.mp listed, Value.text?_eq_some.mp firstSome,
          Value.text?_eq_some.mp secondSome]
        exact ⟨rfl, unlike.2.2⟩
      · cases named
    · cases named
  · cases named

theorem pairChecked_of_clean {hardware : List (String × Value)} {motors : List InventoryMotor}
    {pair : PairName} {result : Unit}
    (clean : (validateDifferential strings hardware (motors.map InventoryMotor.entry) pair).Clean
      result) :
    ∃ differentials config left right matrix zeros,
      field hardware "differentials" = .dict differentials ∧
      field differentials pair.text = .dict config ∧
      PairChecked strings config (membersOf motors pair) left right matrix zeros := by
  simp only [validateDifferential] at clean
  split at clean
  · exact absurd clean Audit.not_clean_note
  · rename_i config found
    obtain ⟨differentials, here, there⟩ := Option.bind_eq_some_iff.mp found
    split at clean
    · cases named : motorNames? (field config "motor_names") with
      | none =>
          simp only [named, Audit.clean_bind_iff] at clean
          obtain ⟨_, noted, _⟩ := clean
          exact absurd noted Audit.not_clean_note
      | some labels =>
          obtain ⟨left, right⟩ := labels
          simp only [named, Audit.clean_bind_iff, Audit.clean_noteIf_iff,
            Audit.clean_orNote_iff, coupledLabels_entries] at clean
          obtain ⟨_, same, _, ⟨⟨matrix, zeros⟩, calibration, rfl⟩, _, regular, _⟩ := clean
          obtain ⟨names, distinct⟩ := motorNames?_eq_some named
          refine ⟨differentials, config, left, right, matrix, zeros,
            Value.dict?_eq_some.mp here, Value.dict?_eq_some.mp there, ?_⟩
          constructor
          · exact names
          · exact distinct
          · intro label
            rw [← sameNames_iff.mp (Bool.not_eq_false _ ▸ same) label]
            simp
          · exact calibration
          · simpa using regular
    · exact absurd clean Audit.not_clean_note

/-! ## The inventory -/

/-- What the checks of an inventory establish about its motors. -/
structure CheckedInventory (strings : PythonStrings) (hardware : List (String × Value))
    (policyOrder : List String) (motors : List InventoryMotor) : Prop where
  motorMap : part hardware "motor_map" = some (motors.map InventoryMotor.toItem)
  policy : policyOrder.length = 31 ∧ policyOrder.Nodup
  checked : ∀ motor ∈ motors, motor.Checked strings policyOrder
  cover : MotorsCover policyOrder motors
  interfaces : ∃ names, interfacesOf hardware = .ok names ∧ names.length = 4 ∧ names.Nodup ∧
    "" ∉ names
  pairs : ∀ pair, ∃ differentials config left right matrix zeros,
    field hardware "differentials" = .dict differentials ∧
    field differentials pair.text = .dict config ∧
    PairChecked strings config (membersOf motors pair) left right matrix zeros

theorem interfacesOf_of_clean {hardware : List (String × Value)} {result : Unit}
    (clean : (validateCanAdapter strings hardware).Clean result) :
    ∃ names, interfacesOf hardware = .ok names ∧ names.length = 4 ∧ names.Nodup ∧
      "" ∉ names := by
  unfold validateCanAdapter at clean
  split at clean
  · exact absurd clean Audit.not_clean_note
  · rename_i adapter found
    simp only [Audit.clean_bind_iff] at clean
    obtain ⟨_, _, _, _, _, _, _, _, _, checked, _⟩ := clean
    obtain ⟨items, names, listed, length, texts, four, distinct, named⟩ :=
      interfaces_of_clean checked
    refine ⟨names, ?_, four, distinct, named⟩
    simp [interfacesOf, found, listed, Value.list?, length, texts, raiseIf, named]
    rfl

theorem checkedInventory_of_clean {hardware : List (String × Value)} {policyOrder : List String}
    {entries : List MotorEntry}
    (clean : (auditInventory strings hardware policyOrder).Clean entries) :
    ∃ motors, CheckedInventory strings hardware policyOrder motors := by
  simp only [auditInventory, Audit.clean_bind_iff, Audit.clean_noteIf_iff] at clean
  obtain ⟨_, policy, _, adapter, _, _, _, _, _, object, _, looped, _, covered, _, _, _, _, _,
    pairs, _⟩ := clean
  obtain ⟨items, found⟩ := Option.ne_none_iff_exists'.mp object
  rw [found, Option.getD_some] at looped
  obtain ⟨motors, rfl, rfl, checked⟩ := motors_of_clean looped
  push Not at policy
  refine ⟨motors, ?_⟩
  constructor
  · exact found
  · refine ⟨policy.1, ?_⟩
    rw [← List.dedup_eq_self]
    exact (List.dedup_sublist policyOrder).eq_of_length (policy.2.trans policy.1.symm)
  · exact checked
  · exact motorsCover_of_clean covered checked
  · exact interfacesOf_of_clean adapter
  · intro pair
    exact pairChecked_of_clean (Audit.clean_forEach_iff.mp pairs pair pair.mem_all)

end SpriteRuntime
