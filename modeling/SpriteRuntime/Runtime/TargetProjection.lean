import SpriteRuntime.Native.PolicyProtection

/-!
# The projector of the Python side

`ProtectedTargetProjector` clamps, scales and checks whole vectors, and keeps its clamp
counts in a dictionary by joint name.
-/

namespace SpriteRuntime

open Foundation

/-- `_joint_vector`. -/
def jointVector (value : Index → Double) (name : String) : Except String (Index → ℚ) :=
  requireFinite (name ++ " must be a finite 31-vector") value

/-- The constructor of `JointImpedanceTarget`. -/
def JointImpedanceTarget.make (raw : ImpedanceTarget Double) :
    Except String (ImpedanceTarget ℚ) := do
  let position ← jointVector raw.position "position_rad"
  let velocity ← jointVector raw.velocity "velocity_rad_s"
  let kp ← jointVector raw.kp "kp"
  let kd ← jointVector raw.kd "kd"
  let feedforward ← jointVector raw.feedforward "feedforward_torque_nm"
  if (∃ joint, kp joint < 0) ∨ ∃ joint, kd joint < 0 then
    .error "joint impedance gains must be non-negative"
  else .ok { position, velocity, kp, kd, feedforward }

/-- Both sides admit the same targets. -/
theorem JointImpedanceTarget.make_eq_ok {raw : ImpedanceTarget Double}
    {target : ImpedanceTarget ℚ} :
    make raw = .ok target ↔ raw = target.doubles ∧ target.GainsNonneg := by
  unfold make jointVector
  simp only [except_bind_eq_ok, requireFinite_eq_ok]
  constructor
  · rintro ⟨position, samePosition, velocity, sameVelocity, kp, sameKp, kd, sameKd, feedforward,
      sameFeedforward, checked⟩
    split at checked
    · cases checked
    next gains =>
        cases checked
        constructor
        · exact ImpedanceTarget.ext samePosition sameVelocity sameKp sameKd sameFeedforward
        · simp only [not_or, not_exists, not_lt] at gains
          exact fun joint => ⟨gains.1 joint, gains.2 joint⟩
  · rintro ⟨rfl, gains⟩
    refine ⟨_, rfl, _, rfl, _, rfl, _, rfl, _, rfl, if_neg ?_⟩
    rintro (⟨joint, kp⟩ | ⟨joint, kd⟩)
    · exact absurd kp (not_lt.mpr (gains joint).1)
    · exact absurd kd (not_lt.mpr (gains joint).2)

/-- `np.clip`. -/
def npClip (value low high : ℚ) : ℚ := min (max value low) high

/-- `np.max` of a vector of 31 numbers. -/
@[irreducible] def npMax (vector : Index → ℚ) : ℚ := Finset.univ.sup' Finset.univ_nonempty vector

theorem npMax_le_iff {vector : Index → ℚ} {bound : ℚ} :
    npMax vector ≤ bound ↔ ∀ joint, vector joint ≤ bound := by
  unfold npMax
  simp [Finset.sup'_le_iff]

structure ProtectedTargetProjector where
  jointNames : Index → String
  lowerRad : Index → ℚ
  upperRad : Index → ℚ
  gainScale : ℚ
  maximumEmbeddedKd : ℚ
  jointGainMultipliers : Index → ℚ
  jointDampingMultipliers : Index → ℚ
  clampCountByJoint : String → ℕ := fun _ => 0
  maximumRawPositionOvershootRad : ℚ := 0

namespace ProtectedTargetProjector

/-- A multiplier vector of `__post_init__`; without one all multipliers are one. -/
def multipliers (upper : ℚ) (what : String) : Option (Index → Double) →
    Except String (Index → ℚ)
  | none => .ok fun _ => 1
  | some vector => do
      let values ← requireFinite what vector
      raiseIf ((∃ joint, values joint ≤ 0) ∨ ∃ joint, upper < values joint) what
      return values

/-- `__post_init__`. -/
def make (jointNames : Index → String) (lowerRad upperRad : Index → Double)
    (gainScale maximumEmbeddedKd : Double)
    (jointGainMultipliers jointDampingMultipliers : Option (Index → Double)) :
    Except String ProtectedTargetProjector := do
  raiseIf (¬Function.Injective jointNames) "joint_names must contain 31 unique joints"
  let limitText := "joint soft limits must be finite ordered 31-vectors"
  let lower ← requireFinite limitText lowerRad
  let upper ← requireFinite limitText upperRad
  raiseIf (∃ joint, upper joint ≤ lower joint) limitText
  raiseIf (¬gainScale.isFinite = true ∨ ¬(0 < gainScale.value ∧ gainScale.value ≤ 1))
    "gain_scale must be finite and in (0, 1]"
  raiseIf (¬maximumEmbeddedKd.isFinite = true ∨ maximumEmbeddedKd.value ≤ 0)
    "maximum_embedded_kd must be finite and positive"
  let gain ← multipliers 1 "joint_gain_multipliers must be a finite (0, 1] 31-vector"
    jointGainMultipliers
  let damping ← multipliers 4 "joint_damping_multipliers must be a finite (0, 4] 31-vector"
    jointDampingMultipliers
  return { jointNames, lowerRad := lower, upperRad := upper, gainScale := gainScale.value,
           maximumEmbeddedKd := maximumEmbeddedKd.value, jointGainMultipliers := gain,
           jointDampingMultipliers := damping }

theorem multipliers_spec {upper : ℚ} {what : String} {vector : Option (Index → Double)}
    {values : Index → ℚ} (one : 1 ≤ upper) (accepted : multipliers upper what vector = .ok values) :
    (vector.getD fun _ => .finite 1) = (fun joint => .finite (values joint)) ∧
      ∀ joint, 0 < values joint ∧ values joint ≤ upper := by
  cases vector with
  | none =>
      cases accepted
      exact ⟨rfl, fun joint => ⟨one_pos, one⟩⟩
  | some entries =>
      simp only [multipliers, except_bind_eq_ok, requireFinite_eq_ok, raiseIf_eq_ok, not_or,
        not_exists, not_le, not_lt] at accepted
      obtain ⟨numbers, rfl, _, range, same⟩ := accepted
      cases same
      exact ⟨rfl, fun joint => ⟨range.1 joint, range.2 joint⟩⟩

/-- The projector that the constructor makes of numbers that it accepts. -/
structure Made (jointNames : Index → String) (lowerRad upperRad : Index → Double)
    (gainScale maximumEmbeddedKd : Double)
    (jointGainMultipliers jointDampingMultipliers : Option (Index → Double))
    (projector : ProtectedTargetProjector) : Prop where
  names : projector.jointNames = jointNames
  unique : Function.Injective jointNames
  lower : lowerRad = fun joint => .finite (projector.lowerRad joint)
  upper : upperRad = fun joint => .finite (projector.upperRad joint)
  ordered : ∀ joint, projector.lowerRad joint < projector.upperRad joint
  scale : gainScale = .finite projector.gainScale
  scaleRange : 0 < projector.gainScale ∧ projector.gainScale ≤ 1
  maximumKd : maximumEmbeddedKd = .finite projector.maximumEmbeddedKd
  gain : (jointGainMultipliers.getD fun _ => .finite 1) =
    fun joint => .finite (projector.jointGainMultipliers joint)
  gainRange : ∀ joint, 0 < projector.jointGainMultipliers joint ∧
    projector.jointGainMultipliers joint ≤ 1
  damping : (jointDampingMultipliers.getD fun _ => .finite 1) =
    fun joint => .finite (projector.jointDampingMultipliers joint)
  dampingRange : ∀ joint, 0 < projector.jointDampingMultipliers joint ∧
    projector.jointDampingMultipliers joint ≤ 4
  unclamped : projector.clampCountByJoint = fun _ => 0
  within : projector.maximumRawPositionOvershootRad = 0

theorem make_spec {jointNames : Index → String} {lowerRad upperRad : Index → Double}
    {gainScale maximumEmbeddedKd : Double}
    {jointGainMultipliers jointDampingMultipliers : Option (Index → Double)}
    {projector : ProtectedTargetProjector}
    (made : make jointNames lowerRad upperRad gainScale maximumEmbeddedKd jointGainMultipliers
      jointDampingMultipliers = .ok projector) :
    Made jointNames lowerRad upperRad gainScale maximumEmbeddedKd jointGainMultipliers
      jointDampingMultipliers projector := by
  simp only [make, except_bind_eq_ok, requireFinite_eq_ok, raiseIf_eq_ok, not_or, not_not,
    not_exists, not_le] at made
  obtain ⟨_, unique, lower, rfl, upper, rfl, _, ordered, _, ⟨finiteScale, scaleRange⟩, _,
    ⟨finiteKd, _⟩, gain, gainAccepted, damping, dampingAccepted, same⟩ := made
  obtain ⟨sameGain, gainRange⟩ := multipliers_spec le_rfl gainAccepted
  obtain ⟨sameDamping, dampingRange⟩ := multipliers_spec (by norm_num) dampingAccepted
  cases same
  exact ⟨rfl, unique, rfl, rfl, ordered, Double.eq_finite finiteScale, scaleRange,
    Double.eq_finite finiteKd, sameGain, gainRange, sameDamping, dampingRange, rfl, rfl⟩

variable (projector : ProtectedTargetProjector) (target : ImpedanceTarget ℚ)

/-- The vectors of the target that `project` returns. -/
def projected : ImpedanceTarget ℚ :=
  { position := fun joint =>
      npClip (target.position joint) (projector.lowerRad joint) (projector.upperRad joint)
    velocity := target.velocity
    kp := fun joint =>
      projector.gainScale * projector.jointGainMultipliers joint * target.kp joint
    kd := fun joint =>
      projector.gainScale * projector.jointGainMultipliers joint *
        projector.jointDampingMultipliers joint * target.kd joint
    feedforward := fun joint =>
      projector.gainScale * projector.jointGainMultipliers joint * target.feedforward joint }

def overshoot (joint : Index) : ℚ :=
  max (projector.lowerRad joint - target.position joint)
    (target.position joint - projector.upperRad joint)

/-- The joints that the projection moves, `np.flatnonzero(bounded != position)`. -/
def clamped : List Index :=
  (List.finRange kJointCount).filter fun joint =>
    (projector.projected target).position joint ≠ target.position joint

def recordOvershoot : ProtectedTargetProjector :=
  { projector with
    maximumRawPositionOvershootRad :=
      max projector.maximumRawPositionOvershootRad
        (npMax fun joint => max (projector.overshoot target joint) 0) }

/-- Count one clamp under the name of the joint. -/
def countClamp (joint : Index) : ProtectedTargetProjector :=
  { projector with
    clampCountByJoint :=
      Function.update projector.clampCountByJoint (projector.jointNames joint)
        (projector.clampCountByJoint (projector.jointNames joint) + 1) }

/-- `project`.  The vectors of a `JointImpedanceTarget` are finite already. -/
def project : Program ProtectedTargetProjector String (ImpedanceTarget ℚ) := do
  Program.throwIf ((∃ joint, target.kp joint < 0) ∨ ∃ joint, target.kd joint < 0)
    "protected target Kp/Kd must be non-negative"
  let projector ← Program.get
  let result := projector.projected target
  Program.modify fun projector => projector.recordOvershoot target
  Program.forEach (projector.clamped target) fun joint =>
    Program.modify fun projector => projector.countClamp joint
  Program.throwIf (∃ joint, projector.maximumEmbeddedKd < result.kd joint)
    "projected Kd exceeds the qualified Damiao limit"
  Program.ofExcept (JointImpedanceTarget.make result.doubles)

/-- The projector after a call of `project`. -/
def counted : ProtectedTargetProjector :=
  (projector.clamped target).foldl (fun projector joint => projector.countClamp joint)
    (projector.recordOvershoot target)

variable {projector target} in
/-- When `project` returns, and with what. -/
theorem project_eq_done_iff {result : ImpedanceTarget ℚ} {final : ProtectedTargetProjector} :
    project target projector = (.done result, final) ↔
      target.GainsNonneg ∧
        (∀ joint, (projector.projected target).kd joint ≤ projector.maximumEmbeddedKd) ∧
        (projector.projected target = result ∧ result.GainsNonneg) ∧
        final = projector.counted target := by
  have gains : ¬((∃ joint, target.kp joint < 0) ∨ ∃ joint, target.kd joint < 0) ↔
      target.GainsNonneg := by
    simp [ImpedanceTarget.GainsNonneg, forall_and]
  unfold project counted
  simp only [Program.bind_eq_done_iff, Program.ofExcept_eq_done_iff, Program.get_eq_done_iff,
    Program.throwIf_eq_done_iff, Program.modify_eq_done_iff, Program.forEach_modify,
    JointImpedanceTarget.make_eq_ok, ImpedanceTarget.doubles_inj, Prod.mk.injEq, true_and,
    gains, not_exists, not_lt]
  constructor
  · rintro ⟨_, _, ⟨valid, rfl⟩, _, _, ⟨rfl, rfl⟩, _, _, rfl, _, _, rfl, _, _, ⟨within, rfl⟩,
      checked, rfl⟩
    exact ⟨valid, within, checked, rfl⟩
  · rintro ⟨valid, within, checked, rfl⟩
    exact ⟨(), _, ⟨valid, rfl⟩, _, _, ⟨rfl, rfl⟩, (), _, rfl, (), _, rfl, (), _, ⟨within, rfl⟩,
      checked, rfl⟩

end ProtectedTargetProjector

end SpriteRuntime
