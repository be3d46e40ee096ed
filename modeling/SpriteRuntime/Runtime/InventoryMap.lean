import SpriteRuntime.Runtime.CheckedInventory

/-!
# The coordinate map of a checked inventory

The constructors of the map read fields that have been checked one by one.  Only the product of
the two ratios of a motor has not been, and it need not be a positive double.
-/

namespace SpriteRuntime

open Foundation

variable {strings : PythonStrings}

/-- The product of the two ratios of a motor stays positive and finite. -/
def InventoryMotor.RatioInRange (strings : PythonStrings) (motor : InventoryMotor) : Prop :=
  ∀ reduction linkage : ℚ,
    (field motor.2 "reduction_ratio").toFloat strings = .ok (.finite reduction) →
    (field motor.2 "linkage_ratio").toFloat strings = .ok (.finite linkage) →
    InDoubleRange (reduction * linkage)

/-! ## The constructor of a direct motor -/

theorem finiteScalar_eq_ok {value : Value} {number : ℚ} {name : String}
    (converted : value.toFloat strings = .ok (.finite number)) :
    finiteScalar strings value name = .ok number := by
  rw [finiteScalar, converted]
  rfl

theorem signOf_eq_ok {value : Value} (sign : value.isSign = true) (name : String) :
    ∃ result, signOf value name = .ok result := by
  unfold signOf
  by_cases negative : value.isNumber (-1) = true
  · exact ⟨_, if_pos negative⟩
  · have one : value.isNumber 1 = true := by
      rw [Value.isSign, Bool.or_eq_true] at sign
      exact sign.resolve_left negative
    exact ⟨_, (if_neg negative).trans (if_pos one)⟩

theorem ratioOf_eq_ok {ratio : PyFloat} {result : { ratio : ℚ // 0 < ratio }}
    (made : ratioOf ratio = .ok result) : ∃ number, ratio = .finite number ∧ 0 < number := by
  unfold ratioOf at made
  split at made
  · rename_i number
    split at made
    · rename_i positive
      exact ⟨number, rfl, positive⟩
    · cases made
  · cases made

/-- Given a name, a joint, a zero and signs, a positive ratio is enough. -/
theorem directMotorMap_make {motorName policyJoint : String} {zero encoder policy : Value}
    {number ratio : ℚ} (named : motorName ≠ "") (joint : policyJoint ≠ "")
    (finite : zero.toFloat strings = .ok (.finite number)) (encoderSign : encoder.isSign = true)
    (policySign : policy.isSign = true) (positive : 0 < ratio) :
    ∃ map, DirectMotorMap.make strings motorName policyJoint zero encoder policy (.finite ratio) =
      .ok map ∧ map.motorName = motorName := by
  obtain ⟨encoded, encoderOk⟩ := signOf_eq_ok encoderSign "encoder_sign"
  obtain ⟨applied, policyOk⟩ := signOf_eq_ok policySign "policy_to_motor_sign"
  have unnamed : ¬(motorName = "" ∨ policyJoint = "") := by tauto
  rw [DirectMotorMap.make, raiseIf, if_neg unnamed, finiteScalar_eq_ok finite, encoderOk,
    policyOk, ratioOf, dif_pos positive]
  exact ⟨_, rfl, rfl⟩

theorem ratio_of_make {motorName policyJoint : String} {zero encoder policy : Value}
    {ratio : PyFloat} {map : DirectMotorMap ℚ}
    (made : DirectMotorMap.make strings motorName policyJoint zero encoder policy ratio =
      .ok map) :
    ∃ number, ratio = .finite number ∧ 0 < number := by
  obtain ⟨_, _, made⟩ := except_bind_eq_ok.mp made
  obtain ⟨_, _, made⟩ := except_bind_eq_ok.mp made
  obtain ⟨_, _, made⟩ := except_bind_eq_ok.mp made
  obtain ⟨_, _, made⟩ := except_bind_eq_ok.mp made
  obtain ⟨_, converted, _⟩ := except_bind_eq_ok.mp made
  exact ratioOf_eq_ok converted

/-! ## The loop over the records -/

theorem role_ne_empty {role : String} {endpoint : ℤ × ℤ}
    (confirmed : confirmedCanEndpoints.lookup role = some endpoint) : role ≠ "" := by
  rintro rfl
  have absent : confirmedCanEndpoints.lookup "" = none := by decide +kernel
  rw [absent] at confirmed
  cases confirmed

namespace InventoryMotor

variable {policyOrder : List String} {motor : InventoryMotor} {joint : String}
  {assigned : Assigned (DirectMotorMap ℚ)}

theorem policyJoint_of_direct (direct : motor.direct = some joint) :
    field motor.2 "policy_joint" = .str joint :=
  Value.text?_eq_some.mp direct

/-- A motor without a joint of its own has none in its record. -/
theorem Checked.policyJoint_none (checked : motor.Checked strings policyOrder)
    (indirect : motor.direct = none) : field motor.2 "policy_joint" = .none := by
  cases checked.role with
  | direct joint known joins alone =>
      rw [direct, directOf, joins] at indirect
      cases indirect
  | coupled pair joins among => exact joins

theorem addDirect_of_coupled (checked : motor.Checked strings policyOrder)
    (indirect : motor.direct = none) :
    addDirect strings assigned motor.toItem = .ok assigned := by
  simp only [addDirect, asRecord, toItem, Value.dict?, except_ok_bind,
    checked.policyJoint_none indirect]
  rfl

/-- What the loop does with the record of a direct motor. -/
theorem addDirect_of_direct {reduction linkage : ℚ} (checked : motor.Checked strings policyOrder)
    (direct : motor.direct = some joint)
    (reduced : (field motor.2 "reduction_ratio").toFloat strings = .ok (.finite reduction))
    (linked : (field motor.2 "linkage_ratio").toFloat strings = .ok (.finite linkage)) :
    addDirect strings assigned motor.toItem = do
      let map ← DirectMotorMap.make strings motor.1 joint (field motor.2 "motor_zero_rad")
        (field motor.2 "encoder_sign") (field motor.2 "policy_to_motor_sign")
        (PyFloat.times (.finite reduction) (.finite linkage))
      return assigned.set joint map := by
  have joins := policyJoint_of_direct direct
  have zero := item_of_field (checked.present "motor_zero_rad" (by decide))
  have encoder := item_of_field (checked.present "encoder_sign" (by decide))
  have reduction := item_of_field (checked.present "reduction_ratio" (by decide))
  have linkage := item_of_field (checked.present "linkage_ratio" (by decide))
  have policySign : field motor.2 "policy_to_motor_sign" ≠ .none := by
    have sign := checked.signs.policy (by simp [joins])
    intro absent
    rw [absent] at sign
    cases sign
  simp only [addDirect, asRecord, toItem, Value.dict?, except_ok_bind, joins, Value.isNone,
    Value.text?, zero, encoder, item_of_field policySign, reduction, linkage, reduced, linked,
    Bool.false_eq_true, if_false]

theorem addDirect_eq_ok (assigned : Assigned (DirectMotorMap ℚ))
    (checked : motor.Checked strings policyOrder) (named : motor.1 ≠ "")
    (direct : motor.direct = some joint) (inRange : motor.RatioInRange strings) :
    ∃ map, addDirect strings assigned motor.toItem = .ok (assigned.set joint map) ∧
      map.motorName = motor.1 := by
  obtain ⟨reduction, reduced, reductionPositive⟩ := checked.reduction
  obtain ⟨linkage, linked, linkagePositive⟩ := checked.linkage
  obtain ⟨product, multiplied, positive⟩ :=
    (PyFloat.times_positive reductionPositive linkagePositive).mpr
      (inRange reduction linkage reduced linked)
  obtain ⟨channel, canId, confirmed, _⟩ := checked.address
  rw [role, direct, Option.getD_some] at confirmed
  obtain ⟨zero, finite⟩ := checked.signs.zero
  have joins := policyJoint_of_direct direct
  obtain ⟨map, made, name⟩ := directMotorMap_make named (role_ne_empty confirmed) finite
    checked.signs.encoder (checked.signs.policy (by simp [joins])) positive
  refine ⟨map, ?_, name⟩
  rw [addDirect_of_direct checked direct reduced linked, multiplied, made]
  rfl

theorem ratioInRange_of_addDirect {next : Assigned (DirectMotorMap ℚ)}
    (checked : motor.Checked strings policyOrder) (direct : motor.direct = some joint)
    (added : addDirect strings assigned motor.toItem = .ok next) :
    motor.RatioInRange strings := by
  intro reduction linkage reduced linked
  rw [addDirect_of_direct checked direct reduced linked] at added
  obtain ⟨map, made, _⟩ := except_bind_eq_ok.mp added
  have positive {name : String} {number : ℚ} (known : IsPositive strings motor.2 name)
      (converted : (field motor.2 name).toFloat strings = .ok (.finite number)) : 0 < number := by
    obtain ⟨other, found, positive⟩ := known
    rw [converted] at found
    cases found
    exact positive
  exact (PyFloat.times_positive (positive checked.reduction reduced)
    (positive checked.linkage linked)).mp (ratio_of_make made)

end InventoryMotor

/-- The joints of an assignment with the names of their motors. -/
def motorsOfJoints (assigned : Assigned (DirectMotorMap ℚ)) : List (String × String) :=
  assigned.entries.map fun entry => (entry.1, entry.2.motorName)

/-- The joints of the direct motors with the labels of these. -/
def labelsOfJoints (motors : List InventoryMotor) : List (String × String) :=
  motors.filterMap fun motor => motor.direct.map fun joint => (joint, motor.1)

section Loop

variable {policyOrder : List String} {motors : List InventoryMotor}
  {assigned : Assigned (DirectMotorMap ℚ)}

theorem map_fst_labelsOfJoints (motors : List InventoryMotor) :
    (labelsOfJoints motors).map Prod.fst = directsOf motors := by
  rw [labelsOfJoints, List.map_filterMap, directsOf]
  congr 1
  funext motor
  cases motor.direct <;> rfl

theorem labelsOfJoints_cons_none {motor : InventoryMotor} (indirect : motor.direct = none) :
    labelsOfJoints (motor :: motors) = labelsOfJoints motors := by
  simp [labelsOfJoints, indirect]

theorem labelsOfJoints_cons_some {motor : InventoryMotor} {joint : String}
    (direct : motor.direct = some joint) :
    labelsOfJoints (motor :: motors) = (joint, motor.1) :: labelsOfJoints motors := by
  simp [labelsOfJoints, direct]

/-- A joint that has no entry yet gets the last one. -/
theorem motorsOfJoints_set {joint : String} (map : DirectMotorMap ℚ)
    (fresh : joint ∉ (motorsOfJoints assigned).map Prod.fst) :
    motorsOfJoints (assigned.set joint map) =
      motorsOfJoints assigned ++ [(joint, map.motorName)] := by
  rw [motorsOfJoints, List.map_map] at fresh
  have appended : (assigned.set joint map).entries = assigned.entries ++ [(joint, map)] :=
    keys_setItem_of_fresh fresh
  rw [motorsOfJoints, appended, List.map_append]
  rfl

/-- The loop over the records gives every direct motor its entry. -/
theorem foldlM_addDirect (assigned : Assigned (DirectMotorMap ℚ))
    (checked : ∀ motor ∈ motors, motor.Checked strings policyOrder)
    (named : ∀ motor ∈ motors, motor.1 ≠ "")
    (inRange : ∀ motor ∈ motors, motor.direct ≠ none → motor.RatioInRange strings)
    (fresh : ((motorsOfJoints assigned).map Prod.fst ++ directsOf motors).Nodup) :
    ∃ result, (motors.map InventoryMotor.toItem).foldlM (addDirect strings) assigned =
        .ok result ∧
      motorsOfJoints result = motorsOfJoints assigned ++ labelsOfJoints motors := by
  induction motors generalizing assigned with
  | nil => exact ⟨assigned, rfl, (List.append_nil _).symm⟩
  | cons motor rest induction =>
      obtain ⟨here, others⟩ := List.forall_mem_cons.mp checked
      obtain ⟨label, labels⟩ := List.forall_mem_cons.mp named
      obtain ⟨ratio, ratios⟩ := List.forall_mem_cons.mp inRange
      rw [List.map_cons, List.foldlM_cons]
      cases direct : motor.direct with
      | none =>
          rw [directsOf, List.filterMap_cons_none direct] at fresh
          rw [InventoryMotor.addDirect_of_coupled here direct]
          obtain ⟨result, folded, made⟩ := induction _ others labels ratios fresh
          refine ⟨result, folded, ?_⟩
          rw [made, labelsOfJoints_cons_none direct]
      | some joint =>
          have ratio := ratio (by simp [direct])
          obtain ⟨map, added, name⟩ :=
            InventoryMotor.addDirect_eq_ok assigned here label direct ratio
          rw [directsOf, List.filterMap_cons_some direct, List.append_cons] at fresh
          have unassigned : joint ∉ (motorsOfJoints assigned).map Prod.fst := by
            have first := (List.nodup_append.mp fresh).1
            exact fun member => (List.nodup_append.mp first).2.2 _ member _
              (List.mem_singleton_self joint) rfl
          have extended := motorsOfJoints_set map unassigned
          rw [added]
          have stillFresh : ((motorsOfJoints (assigned.set joint map)).map Prod.fst ++
              directsOf rest).Nodup := by
            rw [extended, List.map_append]
            exact fresh
          obtain ⟨result, folded, made⟩ := induction _ others labels ratios stillFresh
          refine ⟨result, folded, ?_⟩
          rw [made, extended, name, labelsOfJoints_cons_some direct, List.append_assoc]
          rfl

/-- The loop fails unless the ratios of all direct motors are in range. -/
theorem ratioInRange_of_foldlM {result : Assigned (DirectMotorMap ℚ)}
    (checked : ∀ motor ∈ motors, motor.Checked strings policyOrder)
    (folded : (motors.map InventoryMotor.toItem).foldlM (addDirect strings) assigned =
      .ok result) :
    ∀ motor ∈ motors, motor.direct ≠ none → motor.RatioInRange strings := by
  induction motors generalizing assigned with
  | nil =>
      intro motor member
      cases member
  | cons motor rest induction =>
      obtain ⟨here, others⟩ := List.forall_mem_cons.mp checked
      rw [List.map_cons, List.foldlM_cons] at folded
      obtain ⟨next, added, folded⟩ := except_bind_eq_ok.mp folded
      refine List.forall_mem_cons.mpr ⟨?_, ?_⟩
      · intro direct
        obtain ⟨joint, direct⟩ := Option.ne_none_iff_exists'.mp direct
        exact InventoryMotor.ratioInRange_of_addDirect here direct added
      · exact induction others folded

end Loop

/-! ## The pairs -/

theorem lookup_of_mem {α : Type} {entries : List (String × α)} {key : String} {value : α}
    (distinct : (entries.map Prod.fst).Nodup) (member : (key, value) ∈ entries) :
    entries.lookup key = some value := by
  induction entries with
  | nil => cases member
  | cons entry rest induction =>
      rw [List.map_cons, List.nodup_cons] at distinct
      rcases List.mem_cons.mp member with rfl | later
      · exact List.lookup_cons_self
      · have unlike : (key == entry.1) = false := by
          rw [beq_eq_false_iff_ne]
          rintro rfl
          exact distinct.1 (List.mem_map.mpr ⟨_, later, rfl⟩)
        rw [List.lookup_cons, unlike]
        exact induction distinct.2 later

section Pairs

variable {policyOrder : List String} {motors : List InventoryMotor}

/-- The items have the labels of the motors for their keys. -/
theorem map_fst_toItem (motors : List InventoryMotor) :
    (motors.map InventoryMotor.toItem).map Prod.fst = motors.map Prod.fst := by
  rw [List.map_map]
  rfl

/-- The record of a motor is found under its label. -/
theorem item_of_motor {motor : InventoryMotor} (labels : (motors.map Prod.fst).Nodup)
    (member : motor ∈ motors) :
    item (motors.map InventoryMotor.toItem) motor.1 = .ok (.dict motor.2) := by
  rw [← map_fst_toItem] at labels
  have found := lookup_of_mem labels (List.mem_map.mpr ⟨motor, member, rfl⟩)
  rw [item, found]

/-- The fields of two motors make a list. -/
theorem recordFields_eq_ok {first second : InventoryMotor} {name : String}
    (labels : (motors.map Prod.fst).Nodup) (firstMember : first ∈ motors)
    (secondMember : second ∈ motors) (firstPresent : field first.2 name ≠ .none)
    (secondPresent : field second.2 name ≠ .none) :
    recordFields (motors.map InventoryMotor.toItem) name [first.1, second.1] =
      .ok (.list [field first.2 name, field second.2 name]) := by
  simp only [recordFields, List.mapM_cons, List.mapM_nil, item_of_motor labels firstMember,
    item_of_motor labels secondMember, except_ok_bind, asRecord, Value.dict?,
    item_of_field firstPresent, item_of_field secondPresent]
  rfl

/-- What has been checked of the matrix and the zeros is what the coupling needs. -/
theorem differentialPair_make {config : List (String × Value)} {matrix zeros : List ℚ}
    (calibration : pairCalibration strings config = .ok (matrix, zeros))
    (regular : ¬|determinant2 matrix| < 1 / 1000000) :
    ∃ matrixValue zerosValue matrixArray zerosArray coupling,
      item config "joint_to_motor_matrix" = .ok matrixValue ∧
      asArray strings matrixValue = .ok matrixArray ∧
      item config "motor_zero_rad" = .ok zerosValue ∧ asArray strings zerosValue = .ok zerosArray ∧
      DifferentialPair.make matrixArray zerosArray = .ok coupling := by
  obtain ⟨matrixValue, matrixFound, rest⟩ := except_bind_eq_ok.mp calibration
  obtain ⟨matrixArray, matrixMade, rest⟩ := except_bind_eq_ok.mp rest
  obtain ⟨zerosValue, zerosFound, rest⟩ := except_bind_eq_ok.mp rest
  obtain ⟨zerosArray, zerosMade, rest⟩ := except_bind_eq_ok.mp rest
  split at rest
  · cases rest
  · rename_i shapes
    push Not at shapes
    split at rest
    · rename_i matrixNumbers zerosNumbers matrixFinite zerosFinite
      cases rest
      have coarser : ¬|determinant2 matrix| < 1 / 100000000 := by
        intro small
        exact regular (small.trans (by norm_num))
      refine ⟨matrixValue, zerosValue, matrixArray, zerosArray, ?_⟩
      simp only [DifferentialPair.make, shapes, raiseIf, matrixFinite, zerosFinite, coarser,
        not_true, if_false, ne_eq]
      exact ⟨_, matrixFound, matrixMade, zerosFound, zerosMade, rfl⟩
    · cases rest

theorem toFloat_of_isSign (strings : PythonStrings) {value : Value}
    (sign : value.isSign = true) :
    ∃ number, value.toFloat strings = .ok (.finite number) ∧ (number = -1 ∨ number = 1) := by
  have small : (1 : ℚ) < doubleLimit := by decide +kernel
  rw [Value.isSign, Bool.or_eq_true] at sign
  rcases sign with negative | positive
  · refine ⟨_, Value.toFloat_of_isNumber ?_ negative, .inl (by norm_num)⟩
    simpa using small
  · refine ⟨_, Value.toFloat_of_isNumber ?_ positive, .inr (by norm_num)⟩
    simpa using small

theorem driveMap_make (name : PairName) (coupling : DifferentialPair ℚ) {left right : String}
    (zeros signs : Fin 2 → ℚ) (distinct : left ≠ right)
    (sign : ∀ side, signs side = -1 ∨ signs side = 1) :
    ∃ map, DifferentialPairDriveMap.make name [left, right]
        { shape := [2], data := [.finite (zeros 0), .finite (zeros 1)] }
        { shape := [2], data := [.finite (signs 0), .finite (signs 1)] } coupling = .ok map ∧
      map.1.motorNames = ![left, right] := by
  have encoder : True ∧
      ∀ sign ∈ [PyFloat.finite (signs 0), PyFloat.finite (signs 1)],
        sign = .finite (-1) ∨ sign = .finite 1 := by
    simpa using And.intro (sign 0) (sign 1)
  have finite : NdArray.finite?
      { shape := [2], data := [.finite (zeros 0), .finite (zeros 1)] } =
      some [zeros 0, zeros 1] := rfl
  simp only [DifferentialPairDriveMap.make, distinct, finite, ne_eq, not_false_eq_true,
    dif_pos, if_true]
  exact ⟨_, dif_pos encoder, rfl⟩

/-- The map of a pair is made from its two motors. -/
theorem differentialMap_eq_ok {hardware : List (String × Value)}
    (inventory : CheckedInventory strings hardware policyOrder motors)
    (labels : (motors.map Prod.fst).Nodup) (pair : PairName) :
    ∃ map, differentialMap strings hardware (motors.map InventoryMotor.toItem) pair = .ok map ∧
      ∀ label, label ∈ List.ofFn map.1.motorNames ↔ label ∈ membersOf motors pair := by
  obtain ⟨differentials, config, left, right, matrix, zeros, top, inner, checked⟩ :=
    inventory.pairs pair
  have motorOf {label : String} (known : label = left ∨ label = right) :
      ∃ record, ((label, record) : InventoryMotor) ∈ motors := by
    have member := (checked.members label).mpr known
    obtain ⟨motor, among, rfl⟩ := List.mem_map.mp member
    exact ⟨motor.2, (List.mem_filter.mp among).1⟩
  obtain ⟨leftRecord, leftMember⟩ := motorOf (.inl rfl)
  obtain ⟨rightRecord, rightMember⟩ := motorOf (.inr rfl)
  have leftChecked := inventory.checked _ leftMember
  have rightChecked := inventory.checked _ rightMember
  have recorded (name : String) (required : name ∈ motorRequiredFields) :=
    recordFields_eq_ok labels leftMember rightMember (leftChecked.present name required)
      (rightChecked.present name required)
  obtain ⟨leftZero, leftFinite⟩ := leftChecked.signs.zero
  obtain ⟨rightZero, rightFinite⟩ := rightChecked.signs.zero
  obtain ⟨leftSign, leftEncoder, leftOne⟩ :=
    toFloat_of_isSign strings leftChecked.signs.encoder
  obtain ⟨rightSign, rightEncoder, rightOne⟩ :=
    toFloat_of_isSign strings rightChecked.signs.encoder
  obtain ⟨matrixValue, zerosValue, matrixArray, zerosArray, coupling, matrixFound, matrixMade,
    zerosFound, zerosMade, coupled⟩ := differentialPair_make checked.calibration checked.regular
  obtain ⟨map, made, names⟩ := driveMap_make pair coupling ![leftZero, rightZero]
    ![leftSign, rightSign] checked.distinct (Fin.forall_fin_two.mpr ⟨leftOne, rightOne⟩)
  refine ⟨map, ?_, ?_⟩
  · have topItem : item hardware "differentials" = .ok (.dict differentials) := by
      rw [item_of_field (by simp [top]), top]
    have innerItem : item differentials pair.text = .ok (.dict config) := by
      rw [item_of_field (by simp [inner]), inner]
    have namesItem : item config "motor_names" = .ok (.list [.str left, .str right]) := by
      rw [item_of_field (by simp [checked.names]), checked.names]
    have listed : labelsOf (.list [.str left, .str right]) = .ok [left, right] := rfl
    simp only [differentialMap, topItem, innerItem, namesItem, except_ok_bind, asRecord,
      Value.dict?, listed, recorded "motor_zero_rad" (by decide),
      recorded "encoder_sign" (by decide), asArray_pair leftFinite rightFinite,
      asArray_pair leftEncoder rightEncoder, matrixFound, matrixMade, zerosFound, zerosMade,
      coupled]
    exact made
  · intro label
    rw [names, checked.members label]
    simp

end Pairs

end SpriteRuntime
