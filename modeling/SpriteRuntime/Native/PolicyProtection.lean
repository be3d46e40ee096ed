import SpriteRuntime.Foundation.Ramp
import SpriteRuntime.Foundation.Ticks
import SpriteRuntime.Native.Preview

/-!
# The protection of the policy targets

`TargetProjector` clamps a joint target into the reviewed limits and scales its gains
down; `StartupRamp` holds the captured pose and then blends the projected targets in.
Arithmetic is exact: a number that is not finite can only come from outside, and every
entry point rejects it.
-/

namespace SpriteRuntime

open Foundation

/-- `ImpedanceTarget`, and `JointImpedanceTarget` on the Python side. -/
@[ext] structure ImpedanceTarget (α : Type) where
  position : Index → α
  velocity : Index → α
  kp : Index → α
  kd : Index → α
  feedforward : Index → α

namespace ImpedanceTarget

/-- The target as it is handed on: its numbers are finite. -/
def doubles (target : ImpedanceTarget ℚ) : ImpedanceTarget Double :=
  { position := fun joint => .finite (target.position joint)
    velocity := fun joint => .finite (target.velocity joint)
    kp := fun joint => .finite (target.kp joint)
    kd := fun joint => .finite (target.kd joint)
    feedforward := fun joint => .finite (target.feedforward joint) }

/-- No gain is negative. -/
def GainsNonneg (target : ImpedanceTarget ℚ) : Prop :=
  ∀ joint, 0 ≤ target.kp joint ∧ 0 ≤ target.kd joint

end ImpedanceTarget

/-- `require_finite`, with the numbers that it lets pass. -/
def requireFinite (what : String) (vector : Index → Double) : Except String (Index → ℚ) :=
  if ∀ joint, (vector joint).isFinite = true then .ok fun joint => (vector joint).value
  else .error what

/-- `validate_target`. -/
def validateTarget (target : ImpedanceTarget Double) : Except String (ImpedanceTarget ℚ) := do
  let position ← requireFinite "nonfinite target" target.position
  let velocity ← requireFinite "nonfinite target" target.velocity
  let kp ← requireFinite "nonfinite target" target.kp
  let kd ← requireFinite "nonfinite target" target.kd
  let feedforward ← requireFinite "nonfinite target" target.feedforward
  if ∃ joint, kp joint < 0 ∨ kd joint < 0 then .error "negative gain"
  else .ok { position, velocity, kp, kd, feedforward }

/-- What passes `require_finite` is a vector of numbers. -/
theorem requireFinite_eq_ok {what : String} {vector : Index → Double} {values : Index → ℚ} :
    requireFinite what vector = .ok values ↔ vector = fun joint => .finite (values joint) := by
  unfold requireFinite
  constructor
  · intro passed
    split at passed
    next finite =>
        cases passed
        funext joint
        exact Double.eq_finite (finite joint)
    · cases passed
  · rintro rfl
    exact if_pos fun joint => rfl

theorem validateTarget_eq_ok {raw : ImpedanceTarget Double} {target : ImpedanceTarget ℚ} :
    validateTarget raw = .ok target ↔ raw = target.doubles ∧ target.GainsNonneg := by
  unfold validateTarget
  simp only [except_bind_eq_ok, requireFinite_eq_ok]
  constructor
  · rintro ⟨position, samePosition, velocity, sameVelocity, kp, sameKp, kd, sameKd, feedforward,
      sameFeedforward, checked⟩
    split at checked
    · cases checked
    next gains =>
        cases checked
        constructor
        · exact ImpedanceTarget.ext samePosition sameVelocity sameKp sameKd sameFeedforward
        · intro joint
          simp only [not_exists, not_or, not_lt] at gains
          exact gains joint
  · rintro ⟨rfl, gains⟩
    refine ⟨_, rfl, _, rfl, _, rfl, _, rfl, _, rfl, if_neg ?_⟩
    rintro ⟨joint, kp | kd⟩
    · exact absurd kp (not_lt.mpr (gains joint).1)
    · exact absurd kd (not_lt.mpr (gains joint).2)

theorem ImpedanceTarget.doubles_inj {left right : ImpedanceTarget ℚ} :
    left.doubles = right.doubles ↔ left = right := by
  constructor
  · intro same
    simp only [ImpedanceTarget.doubles, ImpedanceTarget.mk.injEq, funext_iff,
      Double.finite.injEq] at same
    obtain ⟨position, velocity, kp, kd, feedforward⟩ := same
    apply ImpedanceTarget.ext
    · exact funext position
    · exact funext velocity
    · exact funext kp
    · exact funext kd
    · exact funext feedforward
  · exact congrArg _

/-- The counters are 64 bits wide in the source and grow by at most one a tick. -/
structure TargetProjector where
  lower : Index → ℚ
  upper : Index → ℚ
  gain : Index → ℚ
  damping : Index → ℚ
  scale : ℚ
  maximumKd : ℚ
  clampCount : Index → ℕ := fun _ => 0
  maximumOvershoot : ℚ := 0

namespace TargetProjector

/-- The constructor. -/
def make (lower upper gain damping : Index → Double) (scale maximumKd : Double) :
    Except String TargetProjector := do
  let lower ← requireFinite "nonfinite target" lower
  let upper ← requireFinite "nonfinite target" upper
  let gain ← requireFinite "nonfinite target" gain
  let damping ← requireFinite "nonfinite target" damping
  if ¬scale.isFinite = true ∨ scale.value ≤ 0 ∨ 1 < scale.value ∨
      ¬maximumKd.isFinite = true ∨ maximumKd.value ≤ 0 then
    .error "invalid gain envelope"
  else if ∃ joint, upper joint ≤ lower joint ∨ gain joint ≤ 0 ∨ 1 < gain joint ∨
      damping joint ≤ 0 ∨ 4 < damping joint then
    .error "invalid projection configuration"
  else
    .ok { lower, upper, gain, damping, scale := scale.value, maximumKd := maximumKd.value }

/-- The projector that the constructor makes of numbers that it accepts. -/
structure Made (lower upper gain damping : Index → Double) (scale maximumKd : Double)
    (projector : TargetProjector) : Prop where
  lower : lower = fun joint => .finite (projector.lower joint)
  upper : upper = fun joint => .finite (projector.upper joint)
  gain : gain = fun joint => .finite (projector.gain joint)
  damping : damping = fun joint => .finite (projector.damping joint)
  scale : scale = .finite projector.scale
  maximumKd : maximumKd = .finite projector.maximumKd
  scaleRange : 0 < projector.scale ∧ projector.scale ≤ 1
  joints : ∀ joint, projector.lower joint < projector.upper joint ∧ 0 < projector.gain joint ∧
    projector.gain joint ≤ 1 ∧ 0 < projector.damping joint ∧ projector.damping joint ≤ 4
  unclamped : projector.clampCount = fun _ => 0
  within : projector.maximumOvershoot = 0

theorem make_spec {lower upper gain damping : Index → Double} {scale maximumKd : Double}
    {projector : TargetProjector}
    (made : make lower upper gain damping scale maximumKd = .ok projector) :
    Made lower upper gain damping scale maximumKd projector := by
  unfold make at made
  simp only [except_bind_eq_ok, requireFinite_eq_ok] at made
  obtain ⟨lower, rfl, upper, rfl, gain, rfl, damping, rfl, checked⟩ := made
  split at checked
  · cases checked
  next envelope =>
      simp only [not_or, not_not, not_le, not_lt] at envelope
      obtain ⟨finiteScale, positive, atMost, finiteKd, _⟩ := envelope
      split at checked
      · cases checked
      next configuration =>
          simp only [not_exists, not_or, not_le, not_lt] at configuration
          cases checked
          exact ⟨rfl, rfl, rfl, rfl, Double.eq_finite finiteScale, Double.eq_finite finiteKd,
            ⟨positive, atMost⟩, configuration, rfl, rfl⟩

variable (projector : TargetProjector) (target : ImpedanceTarget ℚ)

def jointScale (joint : Index) : ℚ := projector.scale * projector.gain joint

/-- `result` at the end of the loop of `project`. -/
def projected : ImpedanceTarget ℚ :=
  { position := fun joint =>
      stdClamp (target.position joint) (projector.lower joint) (projector.upper joint)
    velocity := target.velocity
    kp := fun joint => projector.jointScale joint * target.kp joint
    kd := fun joint => projector.jointScale joint * projector.damping joint * target.kd joint
    feedforward := fun joint => projector.jointScale joint * target.feedforward joint }

def overshoot (joint : Index) : ℚ :=
  max (projector.lower joint - target.position joint)
    (target.position joint - projector.upper joint)

/-- What the loop body of `project` counts. -/
def countClamp (joint : Index) : TargetProjector :=
  { projector with
    clampCount :=
      if (projector.projected target).position joint ≠ target.position joint then
        Function.update projector.clampCount joint (projector.clampCount joint + 1)
      else projector.clampCount
    maximumOvershoot := max projector.maximumOvershoot (projector.overshoot target joint) }

/-- `project`. -/
def project (raw : ImpedanceTarget Double) :
    Program TargetProjector String (ImpedanceTarget ℚ) := do
  let target ← Program.ofExcept (validateTarget raw)
  let projector ← Program.get
  let result := projector.projected target
  Program.forEach (List.finRange kJointCount) fun joint => do
    Program.modify fun projector => projector.countClamp target joint
    Program.throwIf (projector.maximumKd < result.kd joint)
      "projected Kd exceeds qualified limit"
  Program.ofExcept (validateTarget result.doubles)

/-- The projector at the end of the loop of `project`. -/
def counted : TargetProjector :=
  (List.finRange kJointCount).foldl (fun projector joint => projector.countClamp target joint)
    projector

variable {projector target} in
/-- When `project` returns, and with what. -/
theorem project_eq_done_iff {raw : ImpedanceTarget Double} {result : ImpedanceTarget ℚ}
    {final : TargetProjector} :
    project raw projector = (.done result, final) ↔
      ∃ target : ImpedanceTarget ℚ, (raw = target.doubles ∧ target.GainsNonneg) ∧
        (∀ joint, (projector.projected target).kd joint ≤ projector.maximumKd) ∧
        (projector.projected target = result ∧ result.GainsNonneg) ∧
        final = projector.counted target := by
  simp only [project, Program.bind_eq_done_iff, Program.ofExcept_eq_done_iff,
    Program.get_eq_done_iff, Program.forEach_checked_eq_done_iff, validateTarget_eq_ok,
    ImpedanceTarget.doubles_inj, List.mem_finRange, forall_true_left, not_lt]
  constructor
  · rintro ⟨target, _, ⟨valid, rfl⟩, _, _, ⟨rfl, rfl⟩, _, _, ⟨within, rfl⟩, checked, rfl⟩
    exact ⟨target, valid, within, checked, rfl⟩
  · rintro ⟨target, valid, within, checked, rfl⟩
    exact ⟨target, _, ⟨valid, rfl⟩, _, _, ⟨rfl, rfl⟩, (), _, ⟨within, rfl⟩, checked, rfl⟩

/-- `require_position`. -/
def requirePosition (position : Index → Double) : Except String (Index → ℚ) := do
  let position ← requireFinite "nonfinite target" position
  if ∃ joint, position joint < projector.lower joint ∨ projector.upper joint < position joint then
    .error "startup pose outside limits"
  else .ok position

end TargetProjector

structure StartupRamp where
  hold : ℕ
  ramp : ℕ
  completed : ℕ := 0
  initial : Option (Index → ℚ) := none
  previous : Option (Index → ℚ) := none
  lastAlpha : ℚ := 0
  maximumPositionDelta : ℚ := 0

namespace StartupRamp

/-- The constructor. -/
def make (hz holdSeconds rampSeconds : Double) : Except String StartupRamp :=
  if ¬hz.isFinite = true ∨ hz.value ≤ 0 ∨
      ¬holdSeconds.isFinite = true ∨ holdSeconds.value < 0 ∨
      ¬rampSeconds.isFinite = true ∨ rampSeconds.value ≤ 0 then
    .error "invalid startup timing"
  else
    let hold := ⌈hz.value * holdSeconds.value⌉
    let ramp := ⌈hz.value * rampSeconds.value⌉
    if 1000000000 < hold ∨ 1000000000 < ramp then .error "startup duration too large"
    else .ok { hold := hold.toNat, ramp := max 1 ramp.toNat }

theorem make_spec {hz holdSeconds rampSeconds : Double} {startup : StartupRamp}
    (made : make hz holdSeconds rampSeconds = .ok startup) :
    startup =
      { hold := ⌈hz.value * holdSeconds.value⌉.toNat
        ramp := max 1 ⌈hz.value * rampSeconds.value⌉.toNat } := by
  unfold make at made
  split at made
  · cases made
  · dsimp only at made
    split at made
    · cases made
    · cases made
      rfl

def complete (startup : StartupRamp) : Bool := startup.hold + startup.ramp ≤ startup.completed

/-- The weight `a` of a call. -/
def alpha (startup : StartupRamp) : ℚ :=
  if startup.hold ≤ startup.completed then
    smoothstep (min 1 ((startup.completed - startup.hold + 1 : ℕ) / startup.ramp))
  else 0

theorem alpha_eq_rampWeight (startup : StartupRamp) :
    startup.alpha = rampWeight startup.hold startup.ramp startup.completed := by
  unfold alpha rampWeight
  by_cases held : startup.completed < startup.hold
  · rw [if_pos held, if_neg (not_le.mpr held)]
  · rw [if_neg held, if_pos (not_lt.mp held)]

/-- `result` at the end of the loop of `apply`. -/
def ramped (weight : ℚ) (initial : Index → ℚ) (target : ImpedanceTarget ℚ) : ImpedanceTarget ℚ :=
  { position := fun joint => (1 - weight) * initial joint + weight * target.position joint
    velocity := fun joint => weight * target.velocity joint
    kp := fun joint => weight * target.kp joint
    kd := fun joint => weight * target.kd joint
    feedforward := fun joint => weight * target.feedforward joint }

/-- The first call captures the measured pose. -/
def capture (measured : Index → ℚ) (startup : StartupRamp) : StartupRamp :=
  { startup with initial := startup.initial.or (some measured) }

/-- What the loop body of `apply` records. -/
def recordDelta (position : Index → ℚ) (joint : Index) (startup : StartupRamp) : StartupRamp :=
  match startup.previous with
  | some previous =>
      { startup with
        maximumPositionDelta :=
          max startup.maximumPositionDelta |position joint - previous joint| }
  | none => startup

/-- What the end of `apply` records. -/
def finish (position : Index → ℚ) (weight : ℚ) (startup : StartupRamp) : StartupRamp :=
  { startup with
    previous := some position
    lastAlpha := weight
    completed := startup.completed + 1 }

/-- `apply`. -/
def apply (raw : ImpedanceTarget Double) (measured : Index → Double) :
    Program StartupRamp String (ImpedanceTarget ℚ) := do
  let measured ← Program.ofExcept (requireFinite "nonfinite target" measured)
  let target ← Program.ofExcept (validateTarget raw)
  Program.modify (capture measured)
  let startup ← Program.get
  let weight := startup.alpha
  let result := ramped weight (startup.initial.getD measured) target
  Program.forEach (List.finRange kJointCount) fun joint =>
    Program.modify (recordDelta result.position joint)
  let validated ← Program.ofExcept (validateTarget result.doubles)
  Program.modify (finish validated.position weight)
  return validated

/-- The ramp after a call. -/
def advanced (startup : StartupRamp) (measured position : Index → ℚ) : StartupRamp :=
  finish position startup.alpha
    ((List.finRange kJointCount).foldl (fun startup joint => recordDelta position joint startup)
      (capture measured startup))

/-- When `apply` returns, and with what. -/
theorem apply_eq_done_iff {raw : ImpedanceTarget Double} {measured : Index → Double}
    {startup final : StartupRamp} {result : ImpedanceTarget ℚ} :
    apply raw measured startup = (.done result, final) ↔
      ∃ (pose : Index → ℚ) (target : ImpedanceTarget ℚ),
        measured = (fun joint => .finite (pose joint)) ∧
        (raw = target.doubles ∧ target.GainsNonneg) ∧
        (ramped startup.alpha ((startup.initial.or (some pose)).getD pose) target = result ∧
          result.GainsNonneg) ∧
        final = startup.advanced pose result.position := by
  unfold apply advanced
  generalize List.finRange kJointCount = joints
  simp only [Program.bind_eq_done_iff, Program.ofExcept_eq_done_iff,
    Program.modify_eq_done_iff, Program.get_eq_done_iff, Program.forEach_modify,
    Program.pure_eq_done_iff, requireFinite_eq_ok, validateTarget_eq_ok,
    ImpedanceTarget.doubles_inj, Prod.mk.injEq, true_and]
  constructor
  · rintro ⟨pose, _, ⟨measuredPose, rfl⟩, target, _, ⟨valid, rfl⟩, _, _, rfl, _, _, ⟨rfl, rfl⟩,
      _, _, rfl, _, _, ⟨⟨rfl, gains⟩, rfl⟩, _, _, rfl, rfl, rfl⟩
    exact ⟨pose, target, measuredPose, valid, ⟨rfl, gains⟩, rfl⟩
  · rintro ⟨pose, target, measuredPose, valid, ⟨rfl, gains⟩, rfl⟩
    exact ⟨pose, _, ⟨measuredPose, rfl⟩, target, _, ⟨valid, rfl⟩, (), _, rfl, _, _, ⟨rfl, rfl⟩,
      (), _, rfl, _, _, ⟨⟨rfl, gains⟩, rfl⟩, (), _, rfl, rfl, rfl⟩

end StartupRamp

end SpriteRuntime
