import SpriteRuntime.Runtime.TargetProjection

/-!
# The startup ramp of the Python side
-/

namespace SpriteRuntime

open Foundation

structure PhysicalStartupRamp where
  holdSteps : ℕ
  rampSteps : ℕ
  completedSteps : ℕ := 0
  initialPositionRad : Option (Index → ℚ) := none
  lastAlpha : ℚ := 0
  maximumOutputPositionDeltaRad : ℚ := 0
  previousOutput : Option (Index → ℚ) := none

namespace PhysicalStartupRamp

/-- `__post_init__`. -/
def make (policyHz holdSeconds rampSeconds : Double) : Except String PhysicalStartupRamp := do
  raiseIf (¬policyHz.isFinite = true) "policy_hz must be finite"
  raiseIf (¬holdSeconds.isFinite = true) "hold_seconds must be finite"
  raiseIf (¬rampSeconds.isFinite = true) "ramp_seconds must be finite"
  raiseIf (policyHz.value ≤ 0) "policy_hz must be positive"
  raiseIf (holdSeconds.value < 0 ∨ rampSeconds.value ≤ 0)
    "hold_seconds must be non-negative and ramp_seconds positive"
  return { holdSteps := ⌈holdSeconds.value * policyHz.value⌉.toNat
           rampSteps := max 1 ⌈rampSeconds.value * policyHz.value⌉.toNat }

theorem make_spec {policyHz holdSeconds rampSeconds : Double} {startup : PhysicalStartupRamp}
    (made : make policyHz holdSeconds rampSeconds = .ok startup) :
    startup =
      { holdSteps := ⌈holdSeconds.value * policyHz.value⌉.toNat
        rampSteps := max 1 ⌈rampSeconds.value * policyHz.value⌉.toNat } := by
  simp only [make, except_bind_eq_ok] at made
  obtain ⟨_, _, _, _, _, _, _, _, _, _, same⟩ := made
  cases same
  rfl

/-- `_alpha`. -/
def alpha (startup : PhysicalStartupRamp) : ℚ :=
  if startup.completedSteps < startup.holdSteps then 0
  else
    let rampStep := startup.completedSteps - startup.holdSteps + 1
    smoothstep (min 1 ((rampStep : ℚ) / startup.rampSteps))

theorem alpha_eq_rampWeight (startup : PhysicalStartupRamp) :
    startup.alpha = rampWeight startup.holdSteps startup.rampSteps startup.completedSteps :=
  rfl

def complete (startup : PhysicalStartupRamp) : Bool :=
  startup.holdSteps + startup.rampSteps ≤ startup.completedSteps

/-- The update of `maximum_output_position_delta_rad`. -/
def recordDelta (position : Index → ℚ) (startup : PhysicalStartupRamp) : PhysicalStartupRamp :=
  match startup.previousOutput with
  | some previous =>
      { startup with
        maximumOutputPositionDeltaRad := max startup.maximumOutputPositionDeltaRad
          (npMax fun joint => |position joint - previous joint|) }
  | none => startup

/-- What is recorded, and what bounds the maximum after it. -/
theorem recordDelta_eq (position : Index → ℚ) (startup : PhysicalStartupRamp) :
    ∃ maximum, startup.recordDelta position =
        { startup with maximumOutputPositionDeltaRad := maximum } ∧
      ∀ bound, maximum ≤ bound ↔ startup.maximumOutputPositionDeltaRad ≤ bound ∧
        ∀ joint, ∀ previous, startup.previousOutput = some previous →
          |position joint - previous joint| ≤ bound := by
  cases recorded : startup.previousOutput with
  | none =>
      refine ⟨startup.maximumOutputPositionDeltaRad, ?_, by simp⟩
      simp only [recordDelta, recorded]
      rw [← recorded]
  | some previous =>
      refine ⟨max startup.maximumOutputPositionDeltaRad
        (npMax fun joint => |position joint - previous joint|), ?_, fun bound => ?_⟩
      · simp [recordDelta, recorded]
      · rw [max_le_iff, npMax_le_iff]
        simp

/-- The first call captures the measured pose. -/
def capture (measured : Index → ℚ) (startup : PhysicalStartupRamp) : PhysicalStartupRamp :=
  { startup with initialPositionRad := startup.initialPositionRad.or (some measured) }

/-- What `apply` records besides. -/
def finish (position : Index → ℚ) (weight : ℚ) (startup : PhysicalStartupRamp) :
    PhysicalStartupRamp :=
  { startup with
    previousOutput := some position
    lastAlpha := weight
    completedSteps := startup.completedSteps + 1 }

/-- The vectors of the target that `apply` returns. -/
def ramped (weight : ℚ) (initial : Index → ℚ) (target : ImpedanceTarget ℚ) : ImpedanceTarget ℚ :=
  { position := fun joint => (1 - weight) * initial joint + weight * target.position joint
    velocity := fun joint => weight * target.velocity joint
    kp := fun joint => weight * target.kp joint
    kd := fun joint => weight * target.kd joint
    feedforward := fun joint => weight * target.feedforward joint }

/-- `apply`. -/
def apply (target : ImpedanceTarget ℚ) (measuredPositionRad : Index → Double) :
    Program PhysicalStartupRamp String (ImpedanceTarget ℚ) := do
  let measured ← Program.ofExcept (jointVector measuredPositionRad "measured_position_rad")
  Program.modify (capture measured)
  let startup ← Program.get
  let weight := startup.alpha
  let result := ramped weight (startup.initialPositionRad.getD measured) target
  Program.modify (recordDelta result.position)
  Program.modify (finish result.position weight)
  Program.ofExcept (JointImpedanceTarget.make result.doubles)

/-- The ramp after a call. -/
def advanced (startup : PhysicalStartupRamp) (measured position : Index → ℚ) :
    PhysicalStartupRamp :=
  finish position startup.alpha (recordDelta position (capture measured startup))

/-- When `apply` returns, and with what. -/
theorem apply_eq_done_iff {target : ImpedanceTarget ℚ} {measured : Index → Double}
    {startup final : PhysicalStartupRamp} {result : ImpedanceTarget ℚ} :
    apply target measured startup = (.done result, final) ↔
      ∃ pose : Index → ℚ, measured = (fun joint => .finite (pose joint)) ∧
        (ramped startup.alpha ((startup.initialPositionRad.or (some pose)).getD pose) target =
          result ∧ result.GainsNonneg) ∧
        final = startup.advanced pose result.position := by
  unfold apply advanced jointVector
  simp only [Program.bind_eq_done_iff, Program.ofExcept_eq_done_iff, Program.get_eq_done_iff,
    Program.modify_eq_done_iff, requireFinite_eq_ok, JointImpedanceTarget.make_eq_ok,
    ImpedanceTarget.doubles_inj]
  constructor
  · rintro ⟨pose, _, ⟨measuredPose, rfl⟩, _, _, rfl, _, _, ⟨rfl, rfl⟩, _, _, rfl, _, _, rfl,
      ⟨rfl, gains⟩, rfl⟩
    exact ⟨pose, measuredPose, ⟨rfl, gains⟩, rfl⟩
  · rintro ⟨pose, measuredPose, ⟨rfl, gains⟩, rfl⟩
    exact ⟨pose, _, ⟨measuredPose, rfl⟩, (), _, rfl, _, _, ⟨rfl, rfl⟩, (), _, rfl, (), _, rfl,
      ⟨rfl, gains⟩, rfl⟩

end PhysicalStartupRamp

end SpriteRuntime
