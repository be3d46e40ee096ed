import SpriteRuntime.Foundation.Boxes
import SpriteRuntime.Foundation.Wire
import SpriteRuntime.Runtime.MotorPower

/-!
# Motor limits from joint limits

`derive_limit_candidates` reads the hard limits of the joints, insets or overrides them, and
takes for each motor the least and the greatest position at a corner of its joints' limits.
-/

namespace SpriteRuntime

open Foundation

/-- A joint of the asset with its limits, if it has both. -/
structure UrdfJoint where
  name : String
  limit : Option (Double × Double)

structure UrdfFile where
  sha256 : String
  joints : List UrdfJoint

/-- The names of the motor records, and the map that the records make. -/
structure HardwareConfig where
  motorMap : Finset String
  built : SpriteMotorMap ℚ

inductive MotorTopology where
  | direct
  | differential

/-- The candidates of one motor. -/
structure MotorLimits where
  topology : MotorTopology
  differentialPair : Option PairName
  policyJoints : List String
  hardLimitRadCandidate : ℚ × ℚ
  softLimitRadCandidate : ℚ × ℚ

/-- The report of `derive_limit_candidates`. -/
structure DerivedLimits where
  assetUrdfSha256 : String
  softMarginRad : ℚ
  hardJoint : Index → ℚ × ℚ
  softJoint : Index → ℚ × ℚ
  motorLimits : Dictionary MotorLimits

/-! ## The limits of the joints -/

section Joints

variable (names : Index → String)

/-- One round of `_urdf_joint_limits`. -/
def readUrdfJoint (limits : Index → Option (ℚ × ℚ)) (joint : UrdfJoint) :
    Except String (Index → Option (ℚ × ℚ)) :=
  match (List.finRange kJointCount).find? fun index => names index = joint.name with
  | none => .ok limits
  | some index =>
      match joint.limit with
      | none => .error ("URDF joint " ++ joint.name ++ " has no finite lower/upper limit")
      | some (low, high) => do
          raiseIf (¬(low.isFinite = true ∧ high.isFinite = true ∧ low.value < high.value))
            ("URDF joint " ++ joint.name ++ " has invalid lower/upper limit")
          return Function.update limits index (some (low.value, high.value))

/-- `_urdf_joint_limits`. -/
def urdfJointLimits (joints : List UrdfJoint) : Except String (Index → ℚ × ℚ) := do
  let limits ← joints.foldlM (readUrdfJoint names) fun _ => none
  let missing := ((List.finRange kJointCount).filter fun joint => limits joint = none).map names
  raiseIf (missing ≠ [])
    ("URDF is missing policy joint limits: " ++ ", ".intercalate missing.mergeSort)
  return fun joint => (limits joint).getD (0, 0)

/-- `_inset`. -/
def inset (marginRad : Double) (bounds : ℚ × ℚ) : Except String (ℚ × ℚ) := do
  raiseIf (¬marginRad.isFinite = true ∨ marginRad.value ≤ 0)
    "soft margin must be finite and positive"
  raiseIf (bounds.2 - bounds.1 ≤ 2 * marginRad.value) "soft margin leaves no usable range"
  return (bounds.1 + marginRad.value, bounds.2 - marginRad.value)

/-- The soft limits of a joint are strictly inside its hard limits. -/
def StrictlyInside (soft hard : ℚ × ℚ) : Prop :=
  hard.1 < soft.1 ∧ soft.1 < soft.2 ∧ soft.2 < hard.2

instance (soft hard : ℚ × ℚ) : Decidable (StrictlyInside soft hard) :=
  inferInstanceAs (Decidable (_ ∧ _))

end Joints

namespace SpriteMotorMap

variable (map : SpriteMotorMap ℚ)

/-- One override of the soft limits of a joint. -/
def overrideSoft (hard soft : Index → ℚ × ℚ) (entry : String × List Double) :
    Except String (Index → ℚ × ℚ) :=
  match entry.2 with
  | [low, high] => do
      let joint ← map.policyIndex entry.1
      raiseIf (¬(low.isFinite = true ∧ high.isFinite = true ∧
          StrictlyInside (low.value, high.value) (hard joint)))
        ("soft-limit override for " ++ entry.1 ++
          " must be finite and strictly inside URDF hard limits")
      return Function.update soft joint (low.value, high.value)
  | _ => .error ("soft-limit override for " ++ entry.1 ++ " must contain lower and upper")

/-- The overrides that name no joint. -/
def unknownOverrides (overrides : Dictionary (List Double)) : List String :=
  overrides.keys.filter fun name => ∀ joint, map.policyJointNames joint ≠ name

/-- The soft limits of all joints. -/
def softJointLimits (hard : Index → ℚ × ℚ) (softMarginRad : Double)
    (overrides : Dictionary (List Double)) : Except String (Index → ℚ × ℚ) := do
  let soft ← collect fun joint => inset softMarginRad (hard joint)
  let unknown := map.unknownOverrides overrides
  raiseIf (unknown ≠ [])
    ("unknown joint soft-limit overrides: " ++ ", ".intercalate unknown.mergeSort)
  overrides.foldlM (map.overrideSoft hard) soft

end SpriteMotorMap

/-! ## The limits of the motors -/

section Motors

/-- The bounds of a direct motor at both limits of its joint. -/
def directBounds (direct : DirectMotorMap ℚ) (limits : ℚ × ℚ) : ℚ × ℚ :=
  bounds (direct.jointToDrive .position limits.1) [direct.jointToDrive .position limits.2]

/-- The bounds of a motor of a pair at the four corners of the limits of its joints. -/
def pairBounds (pair : DifferentialPairDriveMap ℚ) (limits : Fin 2 → ℚ × ℚ) (side : Fin 2) :
    ℚ × ℚ :=
  bounds (pair.jointToDrive .position ![(limits 0).1, (limits 1).1] side)
    [pair.jointToDrive .position ![(limits 0).1, (limits 1).2] side,
      pair.jointToDrive .position ![(limits 0).2, (limits 1).1] side,
      pair.jointToDrive .position ![(limits 0).2, (limits 1).2] side]

/-- `motor_map_from_hardware_config` without the demand that the robot can be armed. -/
def motorMapFromHardwareConfig (hardware : HardwareConfig) :
    Except String (SpriteMotorMap ℚ) := do
  raiseIf (hardware.motorMap.card ≠ 31)
    "receive-only motor map requires exactly 31 physical motors"
  raiseIf (hardware.built.physicalMotorNames.toFinset ≠ hardware.motorMap)
    "coordinate map does not exactly cover hardware motor_map"
  return hardware.built

/-- The loops of `derive_limit_candidates` over the direct motors and over the pairs. -/
def SpriteMotorMap.motorLimits (map : SpriteMotorMap ℚ) (hard soft : Index → ℚ × ℚ) :
    Except String (Dictionary MotorLimits) :=
  map.assembleMotors
    (fun direct joint =>
      { topology := .direct
        differentialPair := none
        policyJoints := [map.policyJointNames joint]
        hardLimitRadCandidate := directBounds direct (hard joint)
        softLimitRadCandidate := directBounds direct (soft joint) })
    fun pair joints => .ok fun side =>
      { topology := .differential
        differentialPair := some pair.name
        policyJoints := List.ofFn pair.jointNames
        hardLimitRadCandidate := pairBounds pair (fun side => hard (joints side)) side
        softLimitRadCandidate := pairBounds pair (fun side => soft (joints side)) side }

/-- `derive_limit_candidates`. -/
def deriveLimitCandidates (hardware : HardwareConfig) (expectedSha256 : String) (urdf : UrdfFile)
    (softMarginRad : Double) (overrides : Dictionary (List Double)) :
    Except String DerivedLimits := do
  raiseIf (expectedSha256 = "" ∨ urdf.sha256 ≠ expectedSha256)
    ("URDF SHA256 mismatch: expected " ++
      (if expectedSha256 = "" then "<missing>" else expectedSha256) ++ ", got " ++ urdf.sha256)
  let hard ← urdfJointLimits hardware.built.policyJointNames urdf.joints
  let soft ← hardware.built.softJointLimits hard softMarginRad overrides
  let map ← motorMapFromHardwareConfig hardware
  let motors ← map.motorLimits hard soft
  raiseIf (¬SpriteMotorMap.Covers map.physicalMotorNames motors)
    "derived motor limits do not exactly cover the 31-motor map"
  return { assetUrdfSha256 := urdf.sha256
           softMarginRad := softMarginRad.value
           hardJoint := hard
           softJoint := soft
           motorLimits := motors }

end Motors

/-! ## What is accepted -/

section Accepted

/-- Every joint that has been read has its limits in order. -/
theorem readUrdfJoint_ordered {names : Index → String} {joint : UrdfJoint}
    {limits next : Index → Option (ℚ × ℚ)}
    (ordered : ∀ index bounds, limits index = some bounds → bounds.1 < bounds.2)
    (read : readUrdfJoint names limits joint = .ok next) :
    ∀ index bounds, next index = some bounds → bounds.1 < bounds.2 := by
  unfold readUrdfJoint at read
  split at read
  · cases read
    exact ordered
  next here _ =>
      split at read
      · cases read
      next low high _ =>
          obtain ⟨_, checked, same⟩ := except_bind_eq_ok.mp read
          cases same
          rw [raiseIf_eq_ok, not_not] at checked
          intro index bounds found
          by_cases same : index = here
          · subst same
            rw [Function.update_self, Option.some.injEq] at found
            rw [← found]
            exact checked.2.2
          · rw [Function.update_of_ne same] at found
            exact ordered index bounds found

theorem urdfJointLimits_ordered {names : Index → String} {joints : List UrdfJoint}
    {hard : Index → ℚ × ℚ} (read : urdfJointLimits names joints = .ok hard) (joint : Index) :
    (hard joint).1 < (hard joint).2 := by
  obtain ⟨limits, loop, rest⟩ := except_bind_eq_ok.mp read
  obtain ⟨_, none, same⟩ := except_bind_eq_ok.mp rest
  cases same
  have ordered : ∀ index bounds, limits index = some bounds → bounds.1 < bounds.2 :=
    foldlM_keeps (fun _ _ _ => readUrdfJoint_ordered) (by simp) loop
  rw [raiseIf_eq_ok, not_not, List.map_eq_nil_iff, List.filter_eq_nil_iff] at none
  have here := none joint (List.mem_finRange joint)
  cases found : limits joint with
  | none => exact absurd (decide_eq_true found) here
  | some bounds =>
      simpa [found] using ordered joint bounds found

theorem inset_inside {marginRad : Double} {limits soft : ℚ × ℚ}
    (accepted : inset marginRad limits = .ok soft) : StrictlyInside soft limits := by
  obtain ⟨_, positive, rest⟩ := except_bind_eq_ok.mp accepted
  obtain ⟨_, room, same⟩ := except_bind_eq_ok.mp rest
  cases same
  rw [raiseIf_eq_ok, not_or, not_le] at positive
  rw [raiseIf_eq_ok, not_le] at room
  refine ⟨?_, ?_, ?_⟩
  · linarith [positive.2]
  · linarith
  · linarith [positive.2]

namespace SpriteMotorMap

variable {map : SpriteMotorMap ℚ} {hard soft : Index → ℚ × ℚ}

theorem overrideSoft_inside {entry : String × List Double} {next : Index → ℚ × ℚ}
    (inside : ∀ joint, StrictlyInside (soft joint) (hard joint))
    (accepted : map.overrideSoft hard soft entry = .ok next) :
    ∀ joint, StrictlyInside (next joint) (hard joint) := by
  unfold overrideSoft at accepted
  split at accepted
  next low high _ =>
      obtain ⟨here, _, rest⟩ := except_bind_eq_ok.mp accepted
      obtain ⟨_, checked, same⟩ := except_bind_eq_ok.mp rest
      cases same
      rw [raiseIf_eq_ok, not_not] at checked
      intro joint
      by_cases same : joint = here
      · subst same
        rw [Function.update_self]
        exact checked.2.2
      · rw [Function.update_of_ne same]
        exact inside joint
  · cases accepted

theorem softJointLimits_inside {softMarginRad : Double} {overrides : Dictionary (List Double)}
    (accepted : map.softJointLimits hard softMarginRad overrides = .ok soft) (joint : Index) :
    StrictlyInside (soft joint) (hard joint) := by
  obtain ⟨start, insets, rest⟩ := except_bind_eq_ok.mp accepted
  obtain ⟨_, _, loop⟩ := except_bind_eq_ok.mp rest
  have inside : ∀ joint, StrictlyInside (start joint) (hard joint) :=
    fun joint => inset_inside (collect_eq_ok.mp insets joint)
  exact foldlM_keeps (fun _ _ _ => overrideSoft_inside) inside loop joint

end SpriteMotorMap

/-- Thirty-one records make a complete map, if the pairs have policy joints. -/
theorem motorMapFromHardwareConfig_complete {hardware : HardwareConfig} {map : SpriteMotorMap ℚ}
    (accepted : motorMapFromHardwareConfig hardware = .ok map) (joints : map.HasPairs) :
    map = hardware.built ∧ map.Complete := by
  obtain ⟨_, counted, rest⟩ := except_bind_eq_ok.mp accepted
  obtain ⟨_, covered, same⟩ := except_bind_eq_ok.mp rest
  cases same
  rw [raiseIf_eq_ok, not_not] at counted covered
  refine ⟨rfl, joints, ?_⟩
  have length := SpriteMotorMap.length_physicalMotorNames.mpr joints
  rw [← covered, List.card_toFinset, ← length] at counted
  exact List.dedup_eq_self.mp ((List.dedup_sublist _).eq_of_length counted)

end Accepted

end SpriteRuntime
