import SpriteRuntime.Runtime.HardwareConfig

/-!
# What a clean record has

A record without an error has one role, an address on the bus, numbers that can be used and
ranges for the protocol.  These facts are what the constructors rely on.
-/

namespace SpriteRuntime

open Foundation

variable {strings : PythonStrings}

/-! ## Values -/

namespace Value

variable {value : Value}

theorem text?_eq_some {text : String} : value.text? = some text ↔ value = .str text := by
  cases value <;> simp [text?]

theorem list?_eq_some {items : List Value} : value.list? = some items ↔ value = .list items := by
  cases value <;> simp [list?]

theorem dict?_eq_some {entries : List (String × Value)} :
    value.dict? = some entries ↔ value = .dict entries := by
  cases value <;> simp [dict?]

theorem isText_iff {text : String} : value.isText text = true ↔ value = .str text := by
  cases value <;> simp [isText]

theorem isNone_eq_false : value.isNone = false ↔ value ≠ .none := by
  cases value <;> simp [isNone]

theorem isNone_eq_true : value.isNone = true ↔ value = .none := by
  cases value <;> simp [isNone]

/-- A value that is equal to a small number is that number for `float`. -/
theorem toFloat_of_isNumber {number : ℤ} (small : |(number : ℚ)| < doubleLimit)
    (same : value.isNumber number = true) :
    value.toFloat strings = .ok (.finite number) := by
  cases value with
  | bool flag =>
      rw [isNumber, decide_eq_true_eq] at same
      rw [toFloat, ← same]
      cases flag <;> simp
  | int other =>
      rw [isNumber, decide_eq_true_eq] at same
      subst same
      rw [toFloat, if_neg (not_le.mpr small)]
  | float other =>
      cases other with
      | finite other =>
          rw [isNumber, decide_eq_true_eq] at same
          subst same
          rfl
      | infinite negative => cases same
      | nan => cases same
  | none => cases same
  | str text => cases same
  | list items => cases same
  | dict entries => cases same

/-- An integer that is equal to a number is that number. -/
theorem int?_of_isNumber {number other : ℤ} (same : value.isNumber number = true)
    (integer : value.int? = some other) : other = number := by
  cases value with
  | bool flag =>
      rw [isNumber, decide_eq_true_eq] at same
      rw [int?, Option.some.injEq] at integer
      rw [← integer, same]
  | int found =>
      rw [isNumber, decide_eq_true_eq] at same
      rw [int?, Option.some.injEq] at integer
      rw [← integer, same]
  | none => cases integer
  | float found => cases integer
  | str text => cases integer
  | list items => cases integer
  | dict entries => cases integer

theorem toInt_of_int? {number : ℤ} (integer : value.int? = some number) :
    value.toInt strings = .ok number := by
  cases value with
  | bool flag =>
      rw [int?, Option.some.injEq] at integer
      rw [toInt, integer]
  | int found =>
      rw [int?, Option.some.injEq] at integer
      rw [toInt, integer]
  | none => cases integer
  | float found => cases integer
  | str text => cases integer
  | list items => cases integer
  | dict entries => cases integer

/-- A value that `float` takes is a single entry of an array. -/
theorem leaves_of_toFloat {number : PyFloat} (converted : value.toFloat strings = .ok number) :
    value.shape = some [] ∧ value.leaves = [value] ∧ value.element strings = .ok number := by
  cases value with
  | none => cases converted
  | list items => cases converted
  | dict entries => cases converted
  | bool flag => exact ⟨rfl, rfl, converted⟩
  | int found => exact ⟨rfl, rfl, converted⟩
  | float found => exact ⟨rfl, rfl, converted⟩
  | str text => exact ⟨rfl, rfl, converted⟩

end Value

/-- Two values that `float` takes make a vector of two entries. -/
theorem asArray_pair {left right : Value} {first second : PyFloat}
    (leftFloat : left.toFloat strings = .ok first)
    (rightFloat : right.toFloat strings = .ok second) :
    asArray strings (.list [left, right]) = .ok { shape := [2], data := [first, second] } := by
  obtain ⟨leftShape, leftLeaves, leftElement⟩ := Value.leaves_of_toFloat leftFloat
  obtain ⟨rightShape, rightLeaves, rightElement⟩ := Value.leaves_of_toFloat rightFloat
  have shape : (Value.list [left, right]).shape = some [2] := by
    simp [Value.shape, Value.shapes, leftShape, rightShape]
  have leaves : (Value.list [left, right]).leaves = [left, right] := by
    simp [Value.leaves, Value.leavesOf, leftLeaves, rightLeaves]
  rw [asArray, shape, leaves]
  simp only [List.mapM_cons, List.mapM_nil, leftElement, rightElement]
  rfl

theorem item_of_field {record : List (String × Value)} {name : String}
    (present : field record name ≠ .none) : item record name = .ok (field record name) := by
  rw [field] at present ⊢
  rw [item]
  cases found : record.lookup name with
  | none => simp [found] at present
  | some value => rfl

theorem finiteFloat_eq_ok {value : Value} {number : ℚ}
    (finite : finiteFloat strings value = .ok number) :
    value.toFloat strings = .ok (.finite number) := by
  obtain ⟨converted, same, rest⟩ := except_bind_eq_ok.mp finite
  cases converted with
  | finite other =>
      cases rest
      exact same
  | infinite negative => cases rest
  | nan => cases rest

/-! ## The checks of single fields -/

/-- Two bounds that `float` takes, the lower one first. -/
structure IsPair (strings : PythonStrings) (value : Value) : Prop where
  bounds : ∃ first second low high, value = .list [first, second] ∧
    first.toFloat strings = .ok (.finite low) ∧ second.toFloat strings = .ok (.finite high) ∧
    low < high

theorem isPair_of_clean {value : Value} {name : String} {bounds : Option (ℚ × ℚ)}
    (clean : (pair strings value name).Clean bounds) : IsPair strings value := by
  unfold pair at clean
  split at clean
  · rename_i first second listed
    obtain ⟨found, converted, rest⟩ := Audit.clean_bind_iff.mp clean
    obtain ⟨⟨low, high⟩, floats, rfl⟩ := Audit.clean_orNote_iff.mp converted
    obtain ⟨_, lowFloat, others⟩ := except_bind_eq_ok.mp floats
    obtain ⟨_, highFloat, made⟩ := except_bind_eq_ok.mp others
    cases made
    have noted (text : String) {result : Option (ℚ × ℚ)} :
        ¬Audit.Clean (do
          Audit.note text
          return none : Check (Option (ℚ × ℚ))) result := by
      intro clean
      obtain ⟨_, noted, _⟩ := Audit.clean_bind_iff.mp clean
      exact Audit.not_clean_note noted
    split at rest
    · rename_i unfound
      cases unfound
    · rename_i lower upper same
      cases same
      split at rest
      · rename_i ordered
        exact ⟨first, second, lower, upper, Value.list?_eq_some.mp listed, lowFloat, highFloat,
          ordered⟩
      · exact absurd rest (noted _)
    · exact absurd rest (noted _)
  · obtain ⟨_, noted, _⟩ := Audit.clean_bind_iff.mp clean
    exact absurd noted Audit.not_clean_note

/-- `_positive` passes only what is a positive number. -/
theorem positive_of_clean {record : List (String × Value)} {name label : String} {result : Unit}
    (clean : (positive strings record name label).Clean result) :
    ∃ number, (field record name).toFloat strings = .ok (.finite number) ∧ 0 < number := by
  obtain ⟨found, converted, rest⟩ := Audit.clean_bind_iff.mp clean
  obtain ⟨number, floats, rfl⟩ := Audit.clean_orNote_iff.mp converted
  obtain ⟨value, present, floats⟩ := except_bind_eq_ok.mp floats
  have here : field record name = value := by
    rw [item] at present
    rw [field]
    split at present
    · rename_i other found
      cases present
      rw [found]
      rfl
    · cases present
  cases number with
  | finite number =>
      rw [here]
      exact ⟨number, floats, not_le.mp (Audit.clean_noteIf_iff.mp rest)⟩
  | infinite negative => exact absurd rest Audit.not_clean_note
  | nan => exact absurd rest Audit.not_clean_note

/-! ## The facts of a record -/

section Record

variable {label : String} {record : List (String × Value)} {policyJoints : List String}
  {result : Unit}

/-- The joint of a direct motor. -/
def directOf (record : List (String × Value)) : Option String :=
  (field record "policy_joint").text?

/-- The pair of a coupled motor. -/
def coupledOf (record : List (String × Value)) : Option PairName :=
  (field record "coupled_joints").list?.bind PairName.ofCoupled

/-- A motor moves one joint or a pair, and not both. -/
inductive HasRole (policyJoints : List String) (record : List (String × Value)) : Prop where
  | direct (joint : String) (known : joint ∈ policyJoints)
      (joins : field record "policy_joint" = .str joint)
      (alone : (field record "coupled_joints").list? = none)
  | coupled (pair : PairName) (joins : field record "policy_joint" = .none)
      (among : coupledOf record = some pair)

theorem hasRole_of_clean (clean : (checkRole label record policyJoints).Clean result) :
    HasRole policyJoints record := by
  simp only [checkRole, Audit.clean_bind_iff, Audit.clean_noteIf_iff, Audit.clean_runIf_iff,
    Audit.not_clean_raise] at clean
  obtain ⟨_, one, _, joint, pairs⟩ := clean
  cases listed : (field record "coupled_joints").list? with
  | none =>
      rw [listed] at one
      have present : (field record "policy_joint").isNone = false := by
        rw [← Bool.not_eq_true]
        exact one
      obtain ⟨_, _, known⟩ := joint present
      obtain ⟨name, text, member⟩ := (Option.any_eq_true _ _).mp (Bool.not_eq_false _ ▸ known)
      exact .direct name (of_decide_eq_true member) (Value.text?_eq_some.mp text) listed
  | some joints =>
      rw [listed] at one pairs
      have absent : (field record "policy_joint").isNone = true := by
        rw [← Bool.not_eq_false]
        exact one
      cases found : PairName.ofCoupled joints with
      | none => simp [found] at pairs
      | some pair =>
          have among : coupledOf record = some pair := by
            rw [coupledOf, listed]
            exact found
          exact .coupled pair (Value.isNone_eq_true.mp absent) among

/-- A field that is required is there. -/
theorem present_of_clean (clean : (checkFields strings label record).Clean result) :
    (∀ name ∈ motorRequiredFields, field record name ≠ .none) ∧
      (field record "policy_joint" ≠ .none → field record "policy_to_motor_sign" ≠ .none) := by
  obtain ⟨_, unset, _⟩ := Audit.clean_bind_iff.mp clean
  have none_ := not_not.mp (Audit.clean_noteIf_iff.mp unset)
  rw [unsetFields, List.filter_eq_nil_iff] at none_
  constructor
  · intro name member
    have set := none_ name (List.mem_append_left _ member)
    exact Value.isNone_eq_false.mp (Bool.not_eq_true _ ▸ set)
  · intro direct
    have listed : "policy_to_motor_sign" ∈ motorRequiredFields ++
        if (field record "policy_joint").isNone then [] else ["policy_to_motor_sign"] := by
      rw [Value.isNone_eq_false.mpr direct]
      simp
    have set := none_ _ listed
    exact Value.isNone_eq_false.mp (Bool.not_eq_true _ ▸ set)

/-- The channel, the id and the master id are integers in their ranges. -/
structure HasAddress (record : List (String × Value)) (channel canId : ℤ) : Prop where
  channelInt : (field record "can_channel").int? = some channel
  canIdInt : (field record "can_id").int? = some canId
  masterIdInt : (field record "master_id").int? = some (canId + 0x10)
  channelRange : 0 ≤ channel ∧ channel < 4
  canIdRange : 0 ≤ canId ∧ canId ≤ 0xF

theorem isIn_iff {value : Value} {low high : ℤ} :
    value.isIn low high = true ↔
      ∃ number, value.int? = some number ∧ low ≤ number ∧ number < high := by
  rw [Value.isIn, Option.any_eq_true]
  simp only [decide_eq_true_eq]

theorem hasAddress_of_clean (clean : (checkAddress label record).Clean result)
    (present : ∀ name ∈ motorRequiredFields, field record name ≠ .none) :
    ∃ channel canId, HasAddress record channel canId := by
  have channelPresent := Value.isNone_eq_false.mpr (present "can_channel" (by decide))
  have canIdPresent := Value.isNone_eq_false.mpr (present "can_id" (by decide))
  have masterPresent := Value.isNone_eq_false.mpr (present "master_id" (by decide))
  simp only [checkAddress, Audit.clean_bind_iff, Audit.clean_noteIf_iff, channelPresent,
    canIdPresent, masterPresent, true_and, Bool.not_eq_false] at clean
  obtain ⟨_, channelIn, canIdChecked⟩ := clean
  obtain ⟨channel, channelInt, channelRange⟩ := isIn_iff.mp channelIn
  split at canIdChecked
  · obtain ⟨_, noted, _⟩ := Audit.clean_bind_iff.mp canIdChecked
    exact absurd noted Audit.not_clean_note
  · rename_i canIdIn
    obtain ⟨canId, canIdInt, canIdRange⟩ := isIn_iff.mp (Bool.not_eq_false _ ▸ canIdIn)
    obtain ⟨_, nibble, masterChecked⟩ := Audit.clean_bind_iff.mp canIdChecked
    split at masterChecked
    · exact absurd masterChecked Audit.not_clean_note
    · rename_i masterIn
      obtain ⟨masterId, masterIdInt, _⟩ := isIn_iff.mp (Bool.not_eq_false _ ▸ masterIn)
      simp only [Audit.clean_noteIf_iff, canIdInt, masterIdInt, Option.any_some,
        decide_eq_true_eq, not_not, not_lt] at nibble masterChecked
      rw [masterChecked] at masterIdInt
      exact ⟨channel, canId,
        { channelInt
          canIdInt
          masterIdInt
          channelRange
          canIdRange := ⟨canIdRange.1, nibble⟩ }⟩

/-- The zero and the signs can be used. -/
structure HasSigns (strings : PythonStrings) (record : List (String × Value)) : Prop where
  zero : ∃ number, (field record "motor_zero_rad").toFloat strings = .ok (.finite number)
  encoder : (field record "encoder_sign").isSign = true
  policy : field record "policy_joint" ≠ .none →
    (field record "policy_to_motor_sign").isSign = true

theorem hasSigns_of_clean (clean : (checkSigns strings label record).Clean result)
    (present : ∀ name ∈ motorRequiredFields, field record name ≠ .none)
    (signed : field record "policy_joint" ≠ .none →
      field record "policy_to_motor_sign" ≠ .none) :
    HasSigns strings record := by
  have zeroPresent := Value.isNone_eq_false.mpr (present "motor_zero_rad" (by decide))
  have encoderPresent := Value.isNone_eq_false.mpr (present "encoder_sign" (by decide))
  simp only [checkSigns, Audit.clean_bind_iff, Audit.clean_noteIf_iff, Audit.clean_runIf_iff,
    Audit.clean_orNote_iff, zeroPresent, encoderPresent, true_and, Bool.not_eq_false] at clean
  obtain ⟨_, zero, _, encoder, policy⟩ := clean
  constructor
  · obtain ⟨_, ⟨number, finite, _⟩, _⟩ := zero trivial
    exact ⟨number, finiteFloat_eq_ok finite⟩
  · exact encoder
  · intro direct
    by_contra unsigned
    exact policy ⟨Value.isNone_eq_false.mpr direct, Value.isNone_eq_false.mpr (signed direct),
      Bool.not_eq_true _ ▸ unsigned⟩

/-- A field that is a positive number. -/
def IsPositive (strings : PythonStrings) (record : List (String × Value)) (name : String) : Prop :=
  ∃ number, (field record name).toFloat strings = .ok (.finite number) ∧ 0 < number

theorem isPositive_of_clean (clean : (checkNumbers strings label record).Clean result)
    {name : String} (member : name ∈ positiveFields) (present : field record name ≠ .none) :
    IsPositive strings record name := by
  obtain ⟨_, numbers, _⟩ := Audit.clean_bind_iff.mp clean
  have checked := Audit.clean_forEach_iff.mp numbers name member
  exact positive_of_clean
    (Audit.clean_runIf_iff.mp checked (Value.isNone_eq_false.mpr present))

/-- The ranges of the protocol, as they were read back from the motor. -/
structure HasMitRanges (strings : PythonStrings) (record : List (String × Value))
    (mit : List (String × Value)) : Prop where
  object : field record "mit_ranges" = .dict mit
  ranges : ∀ name ∈ ["position_rad", "velocity_rad_s", "kp", "kd", "torque_nm"],
    IsPair strings (field mit name)
  source : field mit "source" = .str "motor_register_readback"

theorem hasMitRanges_of_clean (clean : (checkMitRanges strings label record).Clean result)
    (present : field record "mit_ranges" ≠ .none) :
    ∃ mit, HasMitRanges strings record mit := by
  simp only [checkMitRanges] at clean
  split at clean
  · exact absurd (Value.isNone_eq_false.mpr present) (Audit.clean_noteIf_iff.mp clean)
  · rename_i mit object
    simp only [Audit.clean_bind_iff, Audit.clean_noteIf_iff, Audit.clean_forEach_iff,
      Audit.clean_runIf_iff, Audit.clean_pure_iff] at clean
    obtain ⟨_, unset, _, ranges, source⟩ := clean
    have set {name : String}
        (member : name ∈ ["position_rad", "velocity_rad_s", "kp", "kd", "torque_nm", "source"]) :
        (field mit name).isNone = false := by
      have all := List.filter_eq_nil_iff.mp (not_not.mp unset) name member
      exact Bool.not_eq_true _ ▸ all
    refine ⟨mit, Value.dict?_eq_some.mp object, ?_, ?_⟩
    · intro name member
      have known : name ∈
          ["position_rad", "velocity_rad_s", "kp", "kd", "torque_nm", "source"] := by
        simp only [List.mem_cons, List.not_mem_nil, or_false] at member ⊢
        tauto
      obtain ⟨_, bounds, _⟩ := ranges name member (set known)
      exact isPair_of_clean bounds
    · by_contra other
      apply source
      refine ⟨set (by decide), ?_⟩
      rw [← Bool.not_eq_true, Value.isText_iff]
      exact other

end Record

end SpriteRuntime
