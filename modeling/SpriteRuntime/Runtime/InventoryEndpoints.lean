import Mathlib.Data.List.GetD
import SpriteRuntime.Runtime.CheckedInventory

/-!
# The endpoints of a checked inventory

Every checked motor has an endpoint, whose address is the one that the tables have for its role.
The addresses are distinct if the roles are.
-/

namespace SpriteRuntime

open Foundation

variable {strings : PythonStrings}

/-- A loop whose every round succeeds makes related values. -/
theorem exists_mapM_eq_ok {ε α β : Type} {items : List α} {entry : α → Except ε β}
    {related : α → β → Prop}
    (each : ∀ item ∈ items, ∃ value, entry item = .ok value ∧ related item value) :
    ∃ values, items.mapM entry = .ok values ∧ List.Forall₂ related items values := by
  induction items with
  | nil => exact ⟨[], rfl, .nil⟩
  | cons item rest induction =>
      obtain ⟨here, others⟩ := List.forall_mem_cons.mp each
      obtain ⟨value, made, relation⟩ := here
      obtain ⟨values, mapped, relations⟩ := induction others
      refine ⟨value :: values, ?_, .cons relation relations⟩
      rw [List.mapM_cons, made, mapped]
      rfl

theorem map_eq_map_of_forall₂ {α β γ : Type} {items : List α} {values : List β} {left : α → γ}
    {right : β → γ} (related : List.Forall₂ (fun item value => right value = left item) items values) :
    values.map right = items.map left := by
  induction related with
  | nil => rfl
  | cons same _ induction => rw [List.map_cons, List.map_cons, same, induction]

/-! ## One endpoint -/

theorem validateRange_eq_ok {first second : Value} {low high : ℚ} (name : String)
    (lowFloat : first.toFloat strings = .ok (.finite low))
    (highFloat : second.toFloat strings = .ok (.finite high)) (ordered : low < high) :
    ∃ range, validateRange strings name [first, second] = .ok range := by
  simp only [validateRange, lowFloat, highFloat, except_ok_bind, ordered, dif_pos]
  exact ⟨_, rfl⟩

/-- Ranges that have been checked are those of a motor. -/
theorem damiaoMitRanges_make {mit : List (String × Value)}
    (ranges : ∀ name ∈ ["position_rad", "velocity_rad_s", "kp", "kd", "torque_nm"],
      IsPair strings (field mit name))
    (source : field mit "source" = .str "motor_register_readback") :
    ∃ position velocity torque made,
      (field mit "position_rad").toTuple = .ok position ∧
      (field mit "velocity_rad_s").toTuple = .ok velocity ∧
      (field mit "torque_nm").toTuple = .ok torque ∧
      DamiaoMitRanges.make strings position velocity torque (field mit "source") = .ok made := by
  obtain ⟨p₁, p₂, _, _, position, positionLow, positionHigh, positionOrdered⟩ :=
    (ranges "position_rad" (by decide)).bounds
  obtain ⟨v₁, v₂, _, _, velocity, velocityLow, velocityHigh, velocityOrdered⟩ :=
    (ranges "velocity_rad_s" (by decide)).bounds
  obtain ⟨t₁, t₂, _, _, torque, torqueLow, torqueHigh, torqueOrdered⟩ :=
    (ranges "torque_nm" (by decide)).bounds
  obtain ⟨positionRange, positionMade⟩ :=
    validateRange_eq_ok "position_rad" positionLow positionHigh positionOrdered
  obtain ⟨velocityRange, velocityMade⟩ :=
    validateRange_eq_ok "velocity_rad_s" velocityLow velocityHigh velocityOrdered
  obtain ⟨torqueRange, torqueMade⟩ :=
    validateRange_eq_ok "torque_nm" torqueLow torqueHigh torqueOrdered
  have readBack : rangeSource (.str "motor_register_readback") = .ok .motorRegisterReadback := rfl
  have made : ∃ made, DamiaoMitRanges.make strings [p₁, p₂] [v₁, v₂] [t₁, t₂]
      (.str "motor_register_readback") = .ok made := by
    rw [DamiaoMitRanges.make, positionMade, velocityMade, torqueMade, readBack]
    exact ⟨_, rfl⟩
  obtain ⟨made, same⟩ := made
  rw [position, velocity, torque, source]
  exact ⟨_, _, _, made, rfl, rfl, rfl, same⟩

/-- The interface and the id of a role, from the tables. -/
def addressOf (interfaces : List String) (role : String) : String × ℤ :=
  match confirmedCanEndpoints.lookup role with
  | some (channel, canId) => (interfaces.getD channel.toNat "", canId)
  | none => ("", 0)

/-- The key of the feedback of a role. -/
def feedbackOf (interfaces : List String) (role : String) : String × ℤ :=
  ((addressOf interfaces role).1, (addressOf interfaces role).2 + 0x10)

/-- An endpoint of this motor, with the address of its role. -/
structure EndpointOf (interfaces : List String) (motor : InventoryMotor)
    (endpoint : DamiaoFeedbackEndpoint) : Prop where
  motorName : endpoint.motorName = motor.1
  command : endpoint.commandKey = addressOf interfaces motor.role
  feedback : endpoint.feedbackKey = feedbackOf interfaces motor.role

theorem interfaceAt_eq_ok {interfaces : List String} {channel : ℤ} (four : interfaces.length = 4)
    (range : 0 ≤ channel ∧ channel < 4) :
    interfaceAt interfaces channel = .ok (interfaces.getD channel.toNat "") := by
  have inside : channel.toNat < interfaces.length := by omega
  have forward : ¬channel < 0 := by omega
  rw [interfaceAt]
  simp only [forward, if_false, List.getElem?_eq_getElem inside, List.getD_eq_getElem?_getD,
    Option.getD_some]

theorem damiaoFeedbackEndpoint_make {motorName interface : String} {canIdValue masterValue : Value}
    {canId : ℤ} (ranges : DamiaoMitRanges) (named : motorName ≠ "") (wired : interface ≠ "")
    (canIdInt : canIdValue.int? = some canId) (masterInt : masterValue.int? = some (canId + 0x10))
    (range : 0 ≤ canId ∧ canId ≤ 0xF) :
    ∃ endpoint, DamiaoFeedbackEndpoint.make motorName interface canIdValue masterValue ranges =
        .ok endpoint ∧ endpoint.motorName = motorName ∧
      endpoint.commandKey = (interface, canId) ∧
      endpoint.feedbackKey = (interface, canId + 0x10) := by
  have canRange : 0 ≤ canId ∧ canId ≤ 0x7FF := by omega
  have masterRange : 0 ≤ canId + 0x10 ∧ canId + 0x10 ≤ 0x7FF := by omega
  simp only [DamiaoFeedbackEndpoint.make, canIdInt, masterInt]
  rw [dif_pos ⟨named, wired⟩, dif_pos canRange, dif_pos masterRange, dif_pos range.2]
  exact ⟨_, rfl, rfl, rfl, rfl⟩

/-- A checked motor has an endpoint. -/
theorem endpointOf_eq_ok {policyOrder interfaces : List String} {motor : InventoryMotor}
    (checked : motor.Checked strings policyOrder) (named : motor.1 ≠ "")
    (four : interfaces.length = 4) (wired : "" ∉ interfaces) :
    ∃ endpoint, endpointOf strings interfaces motor.toItem = .ok endpoint ∧
      EndpointOf interfaces motor endpoint := by
  obtain ⟨channel, canId, confirmed, address⟩ := checked.address
  obtain ⟨mit, mitRanges⟩ := checked.mitRanges
  obtain ⟨position, velocity, torque, ranges, positionTuple, velocityTuple, torqueTuple, made⟩ :=
    damiaoMitRanges_make mitRanges.ranges mitRanges.source
  have inside : channel.toNat < interfaces.length := by
    have range := address.channelRange
    omega
  have interface : interfaces.getD channel.toNat "" ≠ "" := by
    rw [List.getD_eq_getElem _ _ inside]
    intro empty
    exact wired (empty ▸ List.getElem_mem inside)
  obtain ⟨endpoint, endpointMade, name, command, feedback⟩ := damiaoFeedbackEndpoint_make ranges
    named interface address.canIdInt address.masterIdInt address.canIdRange
  have own : addressOf interfaces motor.role = (interfaces.getD channel.toNat "", canId) := by
    rw [addressOf, confirmed]
  have ranged (name : String)
      (member : name ∈ ["position_rad", "velocity_rad_s", "kp", "kd", "torque_nm"]) :
      item mit name = .ok (field mit name) := by
    apply item_of_field
    obtain ⟨_, _, _, _, listed, _⟩ := (mitRanges.ranges name member).bounds
    rw [listed]
    exact nofun
  have sourced : item mit "source" = .ok (field mit "source") := by
    apply item_of_field
    rw [mitRanges.source]
    exact nofun
  have present (name : String) (member : name ∈ motorRequiredFields) :=
    item_of_field (checked.present name member)
  have parts : endpointParts strings interfaces motor.2 =
      .ok (field motor.2 "can_id", field motor.2 "master_id", ranges,
        interfaces.getD channel.toNat "") := by
    simp only [endpointParts, present "can_channel" (by decide), present "can_id" (by decide),
      present "master_id" (by decide), present "mit_ranges" (by decide), except_ok_bind,
      Value.toInt_of_int? address.channelInt, mitRanges.object, Value.dict?,
      ranged "position_rad" (by decide), ranged "velocity_rad_s" (by decide),
      ranged "torque_nm" (by decide), sourced, positionTuple, velocityTuple, torqueTuple, made,
      interfaceAt_eq_ok four address.channelRange]
    rfl
  refine ⟨endpoint, ?_, ?_⟩
  · simp only [endpointOf, InventoryMotor.toItem, Value.dict?, parts]
    exact endpointMade
  · constructor
    · exact name
    · rw [own, command]
    · rw [feedbackOf, own, feedback]

/-! ## Distinct addresses -/

/-- The channel and the id of a role are in their ranges. -/
theorem confirmedCanEndpoints_range {role : String} {channel canId : ℤ}
    (confirmed : confirmedCanEndpoints.lookup role = some (channel, canId)) :
    (0 ≤ channel ∧ channel < 4) ∧ 0 ≤ canId ∧ canId ≤ 0xF := by
  have ranges : ∀ entry ∈ confirmedCanEndpoints,
      (0 ≤ entry.2.1 ∧ entry.2.1 < 4) ∧ 0 ≤ entry.2.2 ∧ entry.2.2 ≤ 0xF := by
    decide +kernel
  exact ranges _ (mem_of_lookup confirmed)

/-- Two confirmed roles of one address are the same. -/
theorem role_eq_of_address {interfaces : List String} {role other : String} {first second : ℤ × ℤ}
    (four : interfaces.length = 4) (distinct : interfaces.Nodup)
    (confirmed : confirmedCanEndpoints.lookup role = some first)
    (known : confirmedCanEndpoints.lookup other = some second)
    (same : addressOf interfaces role = addressOf interfaces other) : role = other := by
  obtain ⟨channel, canId⟩ := first
  obtain ⟨otherChannel, otherId⟩ := second
  have range := (confirmedCanEndpoints_range confirmed).1
  have otherRange := (confirmedCanEndpoints_range known).1
  have inside : channel.toNat < interfaces.length := by omega
  have otherInside : otherChannel.toNat < interfaces.length := by omega
  simp only [addressOf, confirmed, known, Prod.mk.injEq] at same
  obtain ⟨interface, rfl⟩ := same
  rw [List.getD_eq_getElem _ _ inside, List.getD_eq_getElem _ _ otherInside] at interface
  have index := (List.Nodup.getElem_inj_iff distinct).mp interface
  have channels : channel = otherChannel := by omega
  subst channels
  exact confirmedCanEndpoints_injective confirmed known

/-- The keys of the endpoints: no two motors share one, and none is used both ways. -/
structure DistinctKeys (endpoints : List DamiaoFeedbackEndpoint) : Prop where
  command : (endpoints.map DamiaoFeedbackEndpoint.commandKey).Nodup
  feedback : (endpoints.map DamiaoFeedbackEndpoint.feedbackKey).Nodup
  apart : ∀ key ∈ endpoints.map DamiaoFeedbackEndpoint.commandKey,
    key ∉ endpoints.map DamiaoFeedbackEndpoint.feedbackKey

/-- No motor of a pair has the name of a joint that another motor moves on its own. -/
def Unborrowed (motors : List InventoryMotor) : Prop :=
  ∀ motor ∈ motors, ∀ other ∈ motors, motor.direct = none → other.direct ≠ some motor.1

section Endpoints

variable {hardware : List (String × Value)} {policyOrder : List String}
  {motors : List InventoryMotor} {endpoints : List DamiaoFeedbackEndpoint}

/-- A joint is that of one motor. -/
theorem motor_eq_of_direct {joint : String} (once : (directsOf motors).Nodup)
    {left right : InventoryMotor} (inLeft : left ∈ motors) (inRight : right ∈ motors)
    (first : left.direct = some joint) (second : right.direct = some joint) : left = right := by
  by_contra different
  have apart := List.pairwise_filterMap.mp once
  have symmetric : Std.Symm fun left right : InventoryMotor =>
      ∀ joint, left.direct = some joint → ∀ other, right.direct = some other → joint ≠ other := by
    constructor
    intro left right unlike joint first other second
    exact (unlike other second joint first).symm
  exact apart.forall inLeft inRight different joint first joint second rfl

/-- Two motors of one role are the same. -/
theorem motor_eq_of_role (labels : (motors.map Prod.fst).Nodup)
    (once : (directsOf motors).Nodup) (unborrowed : Unborrowed motors)
    {left right : InventoryMotor} (inLeft : left ∈ motors) (inRight : right ∈ motors)
    (same : left.role = right.role) : left = right := by
  unfold InventoryMotor.role at same
  cases first : left.direct with
  | some joint =>
      cases second : right.direct with
      | some other =>
          rw [first, second] at same
          cases same
          exact motor_eq_of_direct once inLeft inRight first second
      | none =>
          rw [first, second] at same
          cases same
          exact absurd first (unborrowed right inRight left inLeft second)
  | none =>
      cases second : right.direct with
      | some other =>
          rw [first, second] at same
          cases same
          exact absurd second (unborrowed left inLeft right inRight first)
      | none =>
          rw [first, second] at same
          exact List.inj_on_of_nodup_map labels inLeft inRight same

/-- The endpoints of the motors, in order. -/
structure EndpointsOf (interfaces : List String) (motors : List InventoryMotor)
    (endpoints : List DamiaoFeedbackEndpoint) : Prop where
  names : endpoints.map DamiaoFeedbackEndpoint.motorName = motors.map Prod.fst
  command : endpoints.map DamiaoFeedbackEndpoint.commandKey =
    motors.map fun motor => addressOf interfaces motor.role
  feedback : endpoints.map DamiaoFeedbackEndpoint.feedbackKey =
    motors.map fun motor => feedbackOf interfaces motor.role

theorem mapM_endpointOf {interfaces : List String}
    (checked : ∀ motor ∈ motors, motor.Checked strings policyOrder)
    (named : "" ∉ motors.map Prod.fst) (four : interfaces.length = 4)
    (wired : "" ∉ interfaces) :
    ∃ endpoints, (motors.map InventoryMotor.toItem).mapM (endpointOf strings interfaces) =
      .ok endpoints ∧ EndpointsOf interfaces motors endpoints := by
  rw [List.mapM_map]
  obtain ⟨endpoints, mapped, related⟩ := exists_mapM_eq_ok fun motor member =>
    endpointOf_eq_ok (checked motor member)
      (fun empty => named (empty ▸ List.mem_map_of_mem member)) four wired
  refine ⟨endpoints, mapped, ?_⟩
  constructor
  · exact map_eq_map_of_forall₂ (related.imp fun _ _ endpoint => endpoint.motorName)
  · exact map_eq_map_of_forall₂ (related.imp fun _ _ endpoint => endpoint.command)
  · exact map_eq_map_of_forall₂ (related.imp fun _ _ endpoint => endpoint.feedback)

/-- The endpoints are built when no name is borrowed. -/
theorem endpointsFromHardwareConfig_eq_ok
    (inventory : CheckedInventory strings hardware policyOrder motors)
    (labels : (motors.map Prod.fst).Nodup) (named : "" ∉ motors.map Prod.fst)
    (unborrowed : Unborrowed motors) :
    ∃ endpoints, endpointsFromHardwareConfig strings hardware = .ok endpoints ∧
      endpoints.map DamiaoFeedbackEndpoint.motorName = motors.map Prod.fst ∧
      DistinctKeys endpoints := by
  obtain ⟨interfaces, wires, four, distinct, wired⟩ := inventory.interfaces
  obtain ⟨endpoints, mapped, belong⟩ := mapM_endpointOf inventory.checked named four wired
  have unlike {left right : InventoryMotor} (inLeft : left ∈ motors) (inRight : right ∈ motors)
      (same : addressOf interfaces left.role = addressOf interfaces right.role) : left = right := by
    obtain ⟨_, _, confirmed, _⟩ := (inventory.checked left inLeft).address
    obtain ⟨_, _, known, _⟩ := (inventory.checked right inRight).address
    exact motor_eq_of_role labels inventory.cover.once unborrowed inLeft inRight
      (role_eq_of_address four distinct confirmed known same)
  have once := List.Nodup.of_map _ labels
  have keys : DistinctKeys endpoints := by
    constructor
    · rw [belong.command]
      exact once.map_on fun left inLeft right inRight same => unlike inLeft inRight same
    · rw [belong.feedback]
      refine once.map_on fun left inLeft right inRight same => unlike inLeft inRight ?_
      obtain ⟨interface, number⟩ := Prod.mk.inj same
      exact Prod.ext interface (add_right_cancel number)
    · rw [belong.command, belong.feedback]
      intro key command feedback
      obtain ⟨left, inLeft, rfl⟩ := List.mem_map.mp command
      obtain ⟨right, inRight, same⟩ := List.mem_map.mp feedback
      obtain ⟨_, _, confirmed, address⟩ := (inventory.checked left inLeft).address
      obtain ⟨_, _, known, other⟩ := (inventory.checked right inRight).address
      have numbers := congrArg Prod.snd same
      simp only [feedbackOf, addressOf, confirmed, known] at numbers
      have low := address.canIdRange
      have high := other.canIdRange
      omega
  refine ⟨endpoints, ?_, belong.names, keys⟩
  have length : (motors.map InventoryMotor.toItem).length = 31 := by
    rw [List.length_map, inventory.cover.count]
  have filled : motors.map InventoryMotor.toItem ≠ [] := by
    rw [← List.length_pos_iff, length]
    decide
  have count : endpoints.length = 31 := by
    have same := congrArg List.length belong.names
    rw [List.length_map, List.length_map, inventory.cover.count] at same
    exact same
  have nonempty : endpoints ≠ [] := by
    rw [← List.length_pos_iff, count]
    decide
  have decoder : DamiaoFeedbackDecoder.make endpoints =
      .ok { endpoints, distinct := keys.feedback, nonempty } := by
    rw [DamiaoFeedbackDecoder.make, dif_pos keys.feedback, dif_pos nonempty]
  have apart : (endpoints.map DamiaoFeedbackEndpoint.commandKey).dedup.filter
      (· ∈ endpoints.map DamiaoFeedbackEndpoint.feedbackKey) = [] := by
    rw [List.filter_eq_nil_iff]
    intro key member
    rw [decide_eq_true_eq]
    exact keys.apart key (List.mem_dedup.mp member)
  simp only [endpointsFromHardwareConfig, wires, inventory.motorMap, except_ok_bind, raiseIf,
    filled, length, mapped, decoder, apart, keys.command, Except.mapError, ne_eq, not_true,
    if_false]
  rfl

/-- The endpoints are not built when a name is borrowed. -/
theorem unborrowed_of_endpointsFromHardwareConfig
    (inventory : CheckedInventory strings hardware policyOrder motors)
    (named : "" ∉ motors.map Prod.fst)
    (built : endpointsFromHardwareConfig strings hardware = .ok endpoints)
    (keys : (endpoints.map DamiaoFeedbackEndpoint.commandKey).Nodup) : Unborrowed motors := by
  obtain ⟨interfaces, wires, four, distinct, wired⟩ := inventory.interfaces
  obtain ⟨others, mapped, belong⟩ := mapM_endpointOf inventory.checked named four wired
  have same : others = endpoints := by
    simp only [endpointsFromHardwareConfig, wires, inventory.motorMap, except_ok_bind,
      mapped] at built
    obtain ⟨_, _, built⟩ := except_bind_eq_ok.mp built
    obtain ⟨_, _, built⟩ := except_bind_eq_ok.mp built
    obtain ⟨_, _, built⟩ := except_bind_eq_ok.mp built
    obtain ⟨_, _, built⟩ := except_bind_eq_ok.mp built
    obtain ⟨_, _, built⟩ := except_bind_eq_ok.mp built
    exact Except.ok.inj built
  subst same
  intro motor member other among indirect direct
  rw [belong.command] at keys
  have equal : motor = other := by
    apply List.inj_on_of_nodup_map keys member among
    rw [InventoryMotor.role, InventoryMotor.role, indirect, direct]
    rfl
  rw [← equal, indirect] at direct
  cases direct

end Endpoints

end SpriteRuntime
