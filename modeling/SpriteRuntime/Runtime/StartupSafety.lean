import SpriteRuntime.Native.ProtectedPolicy
import SpriteRuntime.Runtime.ProtectionAgreement

/-!
# The startup ramp over a whole run

For the first `hold` calls the ramp gives out the captured pose without gains, which is
what the native gate asks of a first target.  Then its weight rises, and from call number
`hold + ramp` on the targets pass unchanged.
-/

namespace SpriteRuntime

open Foundation

/-- A projected target and the measured pose that comes with it. -/
abbrev RampInput : Type := ImpedanceTarget ℚ × (Index → Double)

/-- A call of the native ramp: the target that it gives out, and its weight. -/
def nativeRamp (input : RampInput) : Program StartupRamp String (ImpedanceTarget ℚ × ℚ) := do
  let target ← StartupRamp.apply input.1.doubles input.2
  let startup ← Program.get
  return (target, startup.lastAlpha)

/-- A call of the Python ramp. -/
def pythonRamp (input : RampInput) :
    Program PhysicalStartupRamp String (ImpedanceTarget ℚ × ℚ) := do
  let target ← Program.ofExcept (JointImpedanceTarget.make input.1.doubles)
  let ramped ← PhysicalStartupRamp.apply target input.2
  let startup ← Program.get
  return (ramped, startup.lastAlpha)

/-- The joint vectors of a packet. -/
def TargetPacket.target (packet : TargetPacket) : ImpedanceTarget Double :=
  { position := packet.positionRad
    velocity := packet.velocityRadS
    kp := packet.kp
    kd := packet.kd
    feedforward := packet.feedforwardTorqueNm }

/-- The pose without velocity, gains and torque. -/
def heldPose (pose : Index → ℚ) : ImpedanceTarget ℚ :=
  { position := pose
    velocity := fun _ => 0
    kp := fun _ => 0
    kd := fun _ => 0
    feedforward := fun _ => 0 }

/-- The native gate on the first target objects to nothing but a distance from the measured
pose. -/
def PassesGainGate (target : ImpedanceTarget ℚ) : Prop :=
  ∀ (setup : Setup) (control : ControlState) (joint : Index),
    control.ipc.latestTarget.target = target.doubles →
    |target.position joint - measuredJointPosition setup.kinematics control.motors joint| ≤
        3 / 100 →
      startupFailure setup control joint = none

/-- What a ramp owes for the answer to one call; `calls` counts the calls before it and
`pose` is the captured pose. -/
structure RampAnswer (hold ramp : ℕ) (pose : Index → ℚ) (calls : ℕ) (target : ImpedanceTarget ℚ)
    (output : ImpedanceTarget ℚ) (weight : ℚ) : Prop where
  range : 0 ≤ weight ∧ weight ≤ 1
  held : calls < hold → output = heldPose pose ∧ PassesGainGate output ∧ weight = 0
  reached : weight = 1 ↔ hold + ramp ≤ calls + 1
  passed : hold + ramp ≤ calls + 1 → output = target
  convex : ∀ joint, output.position joint = blend weight (pose joint) (target.position joint)
  inside : ∀ low high : Index → ℚ,
    (∀ joint, low joint ≤ pose joint ∧ pose joint ≤ high joint) →
    (∀ joint, low joint ≤ target.position joint ∧ target.position joint ≤ high joint) →
      ∀ joint, low joint ≤ output.position joint ∧ output.position joint ≤ high joint

/-- What a ramp owes in a whole run. -/
structure RampLaw (hold ramp : ℕ) (inputs : List RampInput)
    (answers : List (ImpedanceTarget ℚ × ℚ) × Bool) : Prop where
  accepts : (∀ input ∈ inputs, input.1.GainsNonneg ∧
      ∃ pose : Index → ℚ, input.2 = fun joint => .finite (pose joint)) →
    answers.1.length = inputs.length ∧ answers.2 = true
  answer : ∀ calls output weight, answers.1[calls]? = some (output, weight) →
    ∃ (first : RampInput) (target : ImpedanceTarget ℚ) (pose : Index → ℚ),
      inputs.head? = some first ∧ (first.2 = fun joint => .finite (pose joint)) ∧
      inputs[calls]?.map Prod.fst = some target ∧
      RampAnswer hold ramp pose calls target output weight
  rising : ∀ (earlier later : ℕ) first last weight weight', earlier ≤ later →
    answers.1[earlier]? = some (first, weight) → answers.1[later]? = some (last, weight') →
      weight ≤ weight'

theorem heldPose_passes (pose : Index → ℚ) : PassesGainGate (heldPose pose) := by
  intro setup control joint carried near
  have fields := congrArg (fun target => (target.position joint, target.velocity joint,
    target.kp joint, target.kd joint, target.feedforward joint)) carried
  simp only [TargetPacket.target, ImpedanceTarget.doubles, heldPose, Prod.mk.injEq] at fields
  obtain ⟨position, velocity, kp, kd, feedforward⟩ := fields
  dsimp only [startupFailure]
  rw [position, velocity, kp, kd, feedforward]
  simp only [heldPose] at near
  have tiny : ¬tolerance < 0 := by norm_num [tolerance]
  simp [Double.value, not_lt.mpr near, tiny]

/-- The weight of a call and the blend with it answer the call as they should. -/
theorem rampAnswer {hold ramp : ℕ} (some : 0 < ramp) (pose : Index → ℚ) (calls : ℕ)
    (target : ImpedanceTarget ℚ) :
    RampAnswer hold ramp pose calls target
      (StartupRamp.ramped (rampWeight hold ramp calls) pose target)
      (rampWeight hold ramp calls) := by
  have range : 0 ≤ (rampWeight hold ramp calls : ℚ) ∧ (rampWeight hold ramp calls : ℚ) ≤ 1 :=
    ⟨rampWeight_nonneg, rampWeight_le_one⟩
  constructor
  · exact range
  · intro early
    have weight : (rampWeight hold ramp calls : ℚ) = 0 := rampWeight_hold early
    have held : StartupRamp.ramped 0 pose target = heldPose pose := by
      simp [StartupRamp.ramped, heldPose]
    rw [weight, held]
    exact ⟨rfl, heldPose_passes pose, rfl⟩
  · exact rampWeight_eq_one some
  · intro late
    rw [(rampWeight_eq_one some).mpr late]
    simp [StartupRamp.ramped]
  · exact fun joint => rfl
  · intro low high poseInside targetInside joint
    exact blend_mem range.1 range.2 (poseInside joint) (targetInside joint)

section Captured

variable {α : Type}

/-- The pose that came with the first of some inputs. -/
def FirstPose (inputs : List (α × (Index → Double))) (pose : Index → ℚ) : Prop :=
  ∃ first, inputs.head? = some first ∧ first.2 = fun joint => .finite (pose joint)

/-- What a ramp has captured after some calls of a run. -/
def Captured (inputs : List (α × (Index → Double))) (calls : ℕ) (initial : Option (Index → ℚ)) :
    Prop :=
  (calls = 0 → initial = none) ∧ (calls ≠ 0 → ∃ pose, initial = some pose ∧ FirstPose inputs pose)

/-- In every call the ramp works from the first pose. -/
theorem Captured.call {inputs : List (α × (Index → Double))} {calls : ℕ}
    {initial : Option (Index → ℚ)} (captured : Captured inputs calls initial)
    {input : α × (Index → Double)} (there : inputs[calls]? = some input) {own : Index → ℚ}
    (measured : input.2 = fun joint => .finite (own joint)) :
    ∃ pose, initial.or (some own) = some pose ∧ FirstPose inputs pose := by
  by_cases start : calls = 0
  · subst start
    rw [captured.1 rfl]
    exact ⟨own, rfl, input, by rw [List.head?_eq_getElem?, there], measured⟩
  · obtain ⟨pose, same, first⟩ := captured.2 start
    rw [same]
    exact ⟨pose, rfl, first⟩

theorem captured_succ {inputs : List (α × (Index → Double))} {calls : ℕ} {pose : Index → ℚ}
    (first : FirstPose inputs pose) : Captured inputs (calls + 1) (some pose) :=
  ⟨fun impossible => absurd impossible (Nat.succ_ne_zero calls), fun _ => ⟨pose, rfl, first⟩⟩

end Captured

section Run

/-- When the native ramp answers a call, and with what. -/
theorem nativeRamp_eq_done_iff {input : RampInput} {startup next : StartupRamp}
    {answer : ImpedanceTarget ℚ × ℚ} :
    nativeRamp input startup = (.done answer, next) ↔
      ∃ (pose : Index → ℚ) (target : ImpedanceTarget ℚ),
        (input.2 = fun joint => .finite (pose joint)) ∧ input.1.GainsNonneg ∧
        (StartupRamp.ramped startup.alpha ((startup.initial.or (some pose)).getD pose) input.1 =
          target ∧ target.GainsNonneg) ∧
        next = startup.advanced pose target.position ∧ answer = (target, next.lastAlpha) := by
  unfold nativeRamp
  simp only [Program.bind_eq_done_iff, Program.get_eq_done_iff, Program.pure_eq_done_iff,
    StartupRamp.apply_eq_done_iff, ImpedanceTarget.doubles_inj]
  constructor
  · rintro ⟨target, _, ⟨pose, _, measured, ⟨rfl, gains⟩, ramped, rfl⟩, _, _, ⟨rfl, rfl⟩, rfl, rfl⟩
    exact ⟨pose, target, measured, gains, ramped, rfl, rfl⟩
  · rintro ⟨pose, target, measured, gains, ramped, rfl, rfl⟩
    exact ⟨target, _, ⟨pose, _, measured, ⟨rfl, gains⟩, ramped, rfl⟩, _, _, ⟨rfl, rfl⟩, rfl, rfl⟩

theorem pythonRamp_eq_done_iff {input : RampInput} {startup next : PhysicalStartupRamp}
    {answer : ImpedanceTarget ℚ × ℚ} :
    pythonRamp input startup = (.done answer, next) ↔
      ∃ (pose : Index → ℚ) (target : ImpedanceTarget ℚ),
        (input.2 = fun joint => .finite (pose joint)) ∧ input.1.GainsNonneg ∧
        (StartupRamp.ramped startup.alpha
            ((startup.initialPositionRad.or (some pose)).getD pose) input.1 = target ∧
          target.GainsNonneg) ∧
        next = startup.advanced pose target.position ∧ answer = (target, next.lastAlpha) := by
  unfold pythonRamp
  simp only [Program.bind_eq_done_iff, Program.get_eq_done_iff, Program.pure_eq_done_iff,
    Program.ofExcept_eq_done_iff, JointImpedanceTarget.make_eq_ok,
    PhysicalStartupRamp.apply_eq_done_iff, ImpedanceTarget.doubles_inj]
  constructor
  · rintro ⟨_, _, ⟨⟨rfl, gains⟩, rfl⟩, target, _, ⟨pose, measured, ramped, rfl⟩, _, _,
      ⟨rfl, rfl⟩, rfl, rfl⟩
    exact ⟨pose, target, measured, gains, ramped, rfl, rfl⟩
  · rintro ⟨pose, target, measured, gains, ramped, rfl, rfl⟩
    exact ⟨_, _, ⟨⟨rfl, gains⟩, rfl⟩, target, _, ⟨pose, measured, ramped, rfl⟩, _, _,
      ⟨rfl, rfl⟩, rfl, rfl⟩

/-- The two ramps answer alike. -/
theorem RampsMatch.call {native : StartupRamp} {python : PhysicalStartupRamp} (input : RampInput)
    (same : RampsMatch native python) :
    Program.Agree RampsMatch (nativeRamp input native) (pythonRamp input python) := by
  apply Program.Agree.of_returns
  · intro answer state returned
    obtain ⟨pose, target, measured, gains, ramped, rfl, rfl⟩ :=
      nativeRamp_eq_done_iff.mp returned
    have kept := same.advanced pose target.position
    rw [← same.alpha, ← same.initial] at ramped
    refine ⟨_, pythonRamp_eq_done_iff.mpr ⟨pose, target, measured, gains, ramped, rfl, ?_⟩, kept⟩
    rw [kept.lastAlpha]
  · intro answer state returned
    obtain ⟨pose, target, measured, gains, ramped, rfl, rfl⟩ :=
      pythonRamp_eq_done_iff.mp returned
    have kept := same.advanced pose target.position
    rw [same.alpha, same.initial] at ramped
    refine ⟨_, nativeRamp_eq_done_iff.mpr ⟨pose, target, measured, gains, ramped, rfl, ?_⟩⟩
    rw [kept.lastAlpha]

/-- The native ramp after some calls of a run. -/
structure Ramping (hold ramp : ℕ) (inputs : List RampInput) (calls : ℕ) (startup : StartupRamp) :
    Prop where
  hold : startup.hold = hold
  ramp : startup.ramp = ramp
  completed : startup.completed = calls
  captured : Captured inputs calls startup.initial

theorem advanced_fields (startup : StartupRamp) (pose position : Index → ℚ) :
    let next := startup.advanced pose position
    next.hold = startup.hold ∧ next.ramp = startup.ramp ∧
      next.completed = startup.completed + 1 ∧ next.initial = startup.initial.or (some pose) ∧
      next.lastAlpha = startup.alpha := by
  unfold StartupRamp.advanced
  generalize List.finRange kJointCount = joints
  obtain ⟨maximum, folded, _⟩ := recordDelta_fold position joints (startup.capture pose)
  rw [folded]
  exact ⟨rfl, rfl, rfl, rfl, rfl⟩

/-- One call, from the captured pose. -/
theorem Ramping.step {hold ramp : ℕ} {inputs : List RampInput} {calls : ℕ}
    {startup next : StartupRamp} {input : RampInput} {answer : ImpedanceTarget ℚ × ℚ}
    (there : inputs[calls]? = some input) (ramping : Ramping hold ramp inputs calls startup)
    (returned : nativeRamp input startup = (.done answer, next)) :
    (∃ pose, FirstPose inputs pose ∧
        answer = (StartupRamp.ramped (rampWeight hold ramp calls) pose input.1,
          rampWeight hold ramp calls)) ∧
      Ramping hold ramp inputs (calls + 1) next := by
  obtain ⟨own, target, measured, gains, ⟨ramped, _⟩, rfl, rfl⟩ :=
    nativeRamp_eq_done_iff.mp returned
  obtain ⟨sameHold, sameRamp, completed, initial, weight⟩ :=
    advanced_fields startup own target.position
  obtain ⟨pose, captured, first⟩ := ramping.captured.call there measured
  have alpha : startup.alpha = rampWeight hold ramp calls := by
    rw [startup.alpha_eq_rampWeight, ramping.hold, ramping.ramp, ramping.completed]
  rw [captured, alpha] at ramped
  constructor
  · refine ⟨pose, first, ?_⟩
    rw [weight, alpha, ← ramped]
    rfl
  · constructor
    · rw [sameHold, ramping.hold]
    · rw [sameRamp, ramping.ramp]
    · rw [completed, ramping.completed]
    · rw [initial, captured]
      exact captured_succ first

/-- A call on numbers is always answered. -/
theorem nativeRamp_accepts {startup : StartupRamp} {input : RampInput}
    (gains : input.1.GainsNonneg) {own : Index → ℚ}
    (measured : input.2 = fun joint => .finite (own joint)) :
    ∃ answer next, nativeRamp input startup = (.done answer, next) := by
  have kept : (StartupRamp.ramped startup.alpha ((startup.initial.or (some own)).getD own)
      input.1).GainsNonneg := by
    intro joint
    rw [startup.alpha_eq_rampWeight]
    exact ⟨mul_nonneg rampWeight_nonneg (gains joint).1,
      mul_nonneg rampWeight_nonneg (gains joint).2⟩
  exact ⟨_, _, nativeRamp_eq_done_iff.mpr ⟨own, _, measured, gains, ⟨rfl, kept⟩, rfl, rfl⟩⟩

/-- A ramp that has not been called yet. -/
structure Fresh (startup : StartupRamp) : Prop where
  positive : 0 < startup.ramp
  uncalled : startup.completed = 0
  uncaptured : startup.initial = none

/-- The weight and the blend of every call in a run. -/
theorem Fresh.answers {startup : StartupRamp} (fresh : Fresh startup) {inputs : List RampInput}
    {calls : ℕ} {answer : ImpedanceTarget ℚ × ℚ}
    (answered : (Program.follow nativeRamp inputs startup).1[calls]? = some answer) :
    ∃ input, inputs[calls]? = some input ∧ ∃ pose, FirstPose inputs pose ∧
      answer = (StartupRamp.ramped (rampWeight startup.hold startup.ramp calls) pose input.1,
        rampWeight startup.hold startup.ramp calls) := by
  have start : Ramping startup.hold startup.ramp inputs 0 startup :=
    ⟨rfl, rfl, fresh.uncalled, fun _ => fresh.uncaptured, fun called => absurd rfl called⟩
  exact Program.follow_law
    (fun _ _ _ _ _ there ramping returned => Ramping.step there ramping returned) start answered

/-- The law of the native ramp. -/
theorem Fresh.rampLaw {startup : StartupRamp} (fresh : Fresh startup) (inputs : List RampInput) :
    RampLaw startup.hold startup.ramp inputs (Program.follow nativeRamp inputs startup) := by
  constructor
  · intro fine
    let accepted := fun input : RampInput => input.1.GainsNonneg ∧
      ∃ pose : Index → ℚ, input.2 = fun joint => .finite (pose joint)
    have step : ∀ (state : StartupRamp) (input : RampInput), True → accepted input →
        ∃ result next, nativeRamp input state = (.done result, next) ∧ True := by
      rintro state input _ ⟨gains, own, measured⟩
      obtain ⟨answer, next, called⟩ := @nativeRamp_accepts state input gains own measured
      exact ⟨answer, next, called, trivial⟩
    exact Program.follow_all step trivial fine
  · intro calls output weight answered
    obtain ⟨input, there, pose, ⟨first, head, measured⟩, same⟩ := fresh.answers answered
    cases same
    exact ⟨first, input.1, pose, head, measured, by rw [there]; rfl,
      rampAnswer fresh.positive pose calls input.1⟩
  · intro earlier later first last weight weight' ordered firstAnswer lastAnswer
    obtain ⟨_, _, _, _, firstSame⟩ := fresh.answers firstAnswer
    obtain ⟨_, _, _, _, lastSame⟩ := fresh.answers lastAnswer
    cases firstSame
    cases lastSame
    exact rampWeight_mono ordered

end Run

section Configurations

variable {hz holdSeconds rampSeconds : Double}

theorem nativeRamp_law {startup : StartupRamp}
    (made : StartupRamp.make hz holdSeconds rampSeconds = .ok startup) (inputs : List RampInput) :
    RampLaw startup.hold startup.ramp inputs (Program.follow nativeRamp inputs startup) := by
  apply Fresh.rampLaw
  rw [StartupRamp.make_spec made]
  constructor
  · exact lt_max_of_lt_left one_pos
  · rfl
  · rfl

/-- The Python ramp follows the native one step by step, whatever its step counts. -/
theorem pythonRamp_law {startup : PhysicalStartupRamp}
    (made : PhysicalStartupRamp.make hz holdSeconds rampSeconds = .ok startup)
    (inputs : List RampInput) :
    RampLaw startup.holdSteps startup.rampSteps inputs
      (Program.follow pythonRamp inputs startup) := by
  rw [PhysicalStartupRamp.make_spec made]
  generalize ⌈holdSeconds.value * hz.value⌉.toNat = hold
  generalize ⌈rampSeconds.value * hz.value⌉.toNat = ramp
  have same : RampsMatch { hold, ramp := max 1 ramp }
      { holdSteps := hold, rampSteps := max 1 ramp } := by
    constructor <;> rfl
  have fresh : Fresh { hold, ramp := max 1 ramp } := by
    constructor
    · exact lt_max_of_lt_left one_pos
    · rfl
    · rfl
  have law := fresh.rampLaw inputs
  rwa [Program.follow_congr (fun _ _ input same => RampsMatch.call input same) same] at law

end Configurations

end SpriteRuntime
