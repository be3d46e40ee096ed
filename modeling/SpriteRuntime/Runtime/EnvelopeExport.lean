import SpriteRuntime.Native.Ipc
import SpriteRuntime.Runtime.StartupSafety

/-!
# The exported joint envelope

`export_native_joint_safety_config` writes the limits that the native controller checks
the targets against; the projector of the Python side bounds the targets from the same
contract and limit report.  What passes the projector and the ramp stays inside what was
exported.
-/

namespace SpriteRuntime

open Foundation

/-- The arrays of the policy contract that the envelope is made of. -/
structure PolicyArrays where
  jointNames : Index → String
  velocityLimit : Index → Double
  stiffness : Index → Double
  damping : Index → Double
  effortLimit : Index → Double

structure LimitCandidate where
  softLimitRadCandidate : Double × Double
  hardLimitRadCandidate : Double × Double

/-- The dictionary `joint_limits` of a limit report. -/
structure LimitReport where
  names : Finset String
  candidate : String → LimitCandidate

/-- What the exporter and the projector are called with. -/
structure EnvelopeArguments where
  contract : PolicyArrays
  limits : LimitReport
  gainScale : Double
  maximumEmbeddedKd : Double
  jointGainMultiplier : List String
  jointDampingMultiplier : List String

/-- The soft limits of a joint in the report. -/
def EnvelopeArguments.soft (arguments : EnvelopeArguments) (joint : Index) : Double × Double :=
  (arguments.limits.candidate (arguments.contract.jointNames joint)).softLimitRadCandidate

section Overrides

/-- `text.partition("=")`, with whether there is a separator. -/
def partitionEquals (text : String) : String × Bool × String :=
  let name := text.toList.takeWhile (· ≠ '=')
  let rest := text.toList.dropWhile (· ≠ '=')
  (String.ofList name, !rest.isEmpty, String.ofList (rest.drop 1))

/-- The index of a joint, when it has one; of several the last. -/
def indexOf (jointNames : Index → String) (name : String) : Option Index :=
  (List.finRange kJointCount).reverse.find? fun joint => jointNames joint = name

/-- The multipliers that have been read so far, and the joints that they were given for. -/
structure Overrides where
  result : Index → ℚ := fun _ => 1
  seen : List String := []

-- `float` reads a number as Python does, or raises.
variable (float : String → Except String Double)

/-- One specification `joint=factor` of the given kind, with a factor up to `upper`. -/
def parseMultiplierOverride (kind : String) (upper : ℚ) (range : String)
    (jointNames : Index → String) (overrides : Overrides) (specification : String) :
    Except String Overrides :=
  match partitionEquals specification with
  | (name, separator, rawValue) =>
      match if separator then indexOf jointNames name else none with
      | none => .error ("invalid joint " ++ kind ++ " multiplier: " ++ specification)
      | some joint => do
          raiseIf (name ∈ overrides.seen) ("duplicate joint " ++ kind ++ " multiplier: " ++ name)
          let value ← float rawValue
          raiseIf (¬value.isFinite = true ∨ ¬(0 < value.value ∧ value.value ≤ upper))
            ("joint " ++ kind ++ " multiplier for " ++ name ++ " must be in " ++ range)
          return { result := Function.update overrides.result joint value.value
                   seen := name :: overrides.seen }

def parseMultiplierOverrides (kind : String) (upper : ℚ) (range : String)
    (jointNames : Index → String) (specifications : List String) : Except String (Index → ℚ) := do
  let overrides ← specifications.foldlM
    (parseMultiplierOverride float kind upper range jointNames) {}
  return overrides.result

/-- `parse_joint_gain_multiplier_overrides`. -/
def parseJointGainMultiplierOverrides :
    (Index → String) → List String → Except String (Index → ℚ) :=
  parseMultiplierOverrides float "gain" 1 "(0, 1]"

/-- `parse_joint_damping_multiplier_overrides`. -/
def parseJointDampingMultiplierOverrides :
    (Index → String) → List String → Except String (Index → ℚ) :=
  parseMultiplierOverrides float "damping" 4 "(0, 4]"

end Overrides

section Export

/-- The error of `main` at the limits of a joint. -/
def limitFailure (name : String) (limits : LimitCandidate) : Option String :=
  let (low, high) := limits.softLimitRadCandidate
  let (hardLow, hardHigh) := limits.hardLimitRadCandidate
  if ¬low.isFinite = true ∨ ¬high.isFinite = true ∨ high.value ≤ low.value then
    some ("invalid soft-limit candidate for " ++ name)
  else if ¬hardLow.isFinite = true ∨ ¬hardHigh.isFinite = true ∨
      hardHigh.value ≤ hardLow.value ∨ low.value < hardLow.value ∨
      hardHigh.value < high.value then
    some ("soft-limit candidate for " ++ name ++ " must remain inside its hard limits")
  else none

variable (float : String → Except String Double) (arguments : EnvelopeArguments)

/-- `main` of `export_native_joint_safety_config`, with the rows that it writes. -/
def exportJointSafety : Except String (Index → JointSafety) := do
  raiseIf (¬arguments.gainScale.isFinite = true ∨
    ¬(0 < arguments.gainScale.value ∧ arguments.gainScale.value ≤ 1))
    "gain scale must be in (0, 1]"
  raiseIf (¬arguments.maximumEmbeddedKd.isFinite = true ∨
    ¬(0 < arguments.maximumEmbeddedKd.value ∧ arguments.maximumEmbeddedKd.value ≤ 5))
    "maximum embedded Kd must be finite and in (0, 5]"
  let names := arguments.contract.jointNames
  let arraysText := "contract safety arrays must contain 31 finite values"
  let velocityLimit ← requireFinite arraysText arguments.contract.velocityLimit
  let stiffness ← requireFinite arraysText arguments.contract.stiffness
  let damping ← requireFinite arraysText arguments.contract.damping
  let effortLimit ← requireFinite arraysText arguments.contract.effortLimit
  raiseIf ((∃ joint, velocityLimit joint ≤ 0) ∨ (∃ joint, stiffness joint < 0) ∨
    (∃ joint, damping joint < 0) ∨ ∃ joint, effortLimit joint < 0)
    "contract safety arrays contain invalid limits or gains"
  raiseIf (¬Function.Injective names) "contract joint_names must contain 31 unique joints"
  raiseIf (arguments.limits.names ≠ Finset.univ.image names)
    "joint limit report does not exactly cover contract joints"
  let gain ← parseJointGainMultiplierOverrides float names arguments.jointGainMultiplier
  let dampingMultiplier ←
    parseJointDampingMultiplierOverrides float names arguments.jointDampingMultiplier
  match (List.finRange kJointCount).findSome? fun joint =>
      limitFailure (names joint) (arguments.limits.candidate (names joint)) with
  | some what => .error what
  | none => return fun joint =>
      { name := names joint
        positionMin := (arguments.soft joint).1.value
        positionMax := (arguments.soft joint).2.value
        velocityMax := |velocityLimit joint|
        kpMax := arguments.gainScale.value * gain joint * stiffness joint
        kdMax := arguments.gainScale.value * gain joint * dampingMultiplier joint *
          min (damping joint) arguments.maximumEmbeddedKd.value
        feedforwardTorqueMax := arguments.gainScale.value * gain joint * effortLimit joint }

/-- `from_limit_report`, called with the same arguments. -/
def EnvelopeArguments.projector : Except String ProtectedTargetProjector := do
  let names := arguments.contract.jointNames
  let gain ← parseJointGainMultiplierOverrides float names arguments.jointGainMultiplier
  let damping ←
    parseJointDampingMultiplierOverrides float names arguments.jointDampingMultiplier
  raiseIf (arguments.limits.names ≠ Finset.univ.image names)
    "limit report must exactly cover the policy joint order"
  ProtectedTargetProjector.make names
    (fun joint => (arguments.soft joint).1) (fun joint => (arguments.soft joint).2)
    arguments.gainScale arguments.maximumEmbeddedKd
    (some fun joint => .finite (gain joint)) (some fun joint => .finite (damping joint))

/-- The row checks of `load_joint_safety`. -/
def loadJointSafety (rows : Index → JointSafety) : Except String (Index → JointSafety) := do
  raiseIf (∃ joint, (rows joint).name = "" ∨ (rows joint).positionMax ≤ (rows joint).positionMin ∨
    (rows joint).velocityMax ≤ 0 ∨ (rows joint).kpMax < 0 ∨ (rows joint).kdMax < 0 ∨
    5 < (rows joint).kdMax ∨ (rows joint).feedforwardTorqueMax < 0)
    "native joint safety limit invariant failed"
  raiseIf (¬Function.Injective fun joint => (rows joint).name)
    "native joint safety names must be unique"
  return rows

end Export

section Envelope

/-- A target that keeps to the limits of a joint. -/
structure InsideEnvelope (limit : JointSafety) (joint : Index) (target : ImpedanceTarget ℚ) :
    Prop where
  position : limit.positionMin ≤ target.position joint ∧ target.position joint ≤ limit.positionMax
  velocity : |target.velocity joint| ≤ limit.velocityMax
  kp : 0 ≤ target.kp joint ∧ target.kp joint ≤ limit.kpMax
  kd : 0 ≤ target.kd joint ∧ target.kd joint ≤ limit.kdMax
  feedforward : |target.feedforward joint| ≤ limit.feedforwardTorqueMax

variable {limit : JointSafety} {joint : Index} {target : ImpedanceTarget ℚ} {weight : ℚ}

theorem scaled_mem {value bound : ℚ} (lower : 0 ≤ weight) (upper : weight ≤ 1)
    (range : 0 ≤ value ∧ value ≤ bound) : 0 ≤ weight * value ∧ weight * value ≤ bound :=
  ⟨mul_nonneg lower range.1, (mul_le_of_le_one_left range.1 upper).trans range.2⟩

theorem abs_scaled_le {value bound : ℚ} (lower : 0 ≤ weight) (upper : weight ≤ 1)
    (range : |value| ≤ bound) : |weight * value| ≤ bound := by
  rw [abs_mul, abs_of_nonneg lower]
  exact (mul_le_of_le_one_left (abs_nonneg value) upper).trans range

/-- The ramp from a pose inside the limits does not leave them. -/
theorem InsideEnvelope.ramped (inside : InsideEnvelope limit joint target) (lower : 0 ≤ weight)
    (upper : weight ≤ 1) {pose : Index → ℚ}
    (posed : limit.positionMin ≤ pose joint ∧ pose joint ≤ limit.positionMax) :
    InsideEnvelope limit joint (StartupRamp.ramped weight pose target) := by
  constructor
  · exact blend_mem lower upper posed inside.position
  · exact abs_scaled_le lower upper inside.velocity
  · exact scaled_mem lower upper inside.kp
  · exact scaled_mem lower upper inside.kd
  · exact abs_scaled_le lower upper inside.feedforward

/-- The native checks of a joint pass for a target inside its limits. -/
theorem InsideEnvelope.passes {table : Index → JointSafety}
    (inside : InsideEnvelope (table joint) joint target) (qualified : (table joint).kdMax ≤ 5)
    {packet : TargetPacket} (carried : packet.target = target.doubles) :
    jointFailure (some table) packet joint = none := by
  have fields := congrArg (fun target => (target.position joint, target.velocity joint,
    target.kp joint, target.kd joint, target.feedforward joint)) carried
  simp only [TargetPacket.target, ImpedanceTarget.doubles, Prod.mk.injEq] at fields
  obtain ⟨position, velocity, kp, kd, feedforward⟩ := fields
  have slack : (0 : ℚ) < tolerance := by norm_num [tolerance]
  have numeric : ¬packet.NumericGainFailure joint := by
    unfold TargetPacket.NumericGainFailure TargetPacket.AllFinite
    rw [position, velocity, kp, kd, feedforward]
    simp only [Double.isFinite, Double.value, and_self, not_true_eq_false, false_or, not_or,
      not_lt]
    exact ⟨inside.kp.1, inside.kd.1, inside.kd.2.trans qualified⟩
  have envelope : ¬packet.EnvelopeFailure joint (table joint) := by
    unfold TargetPacket.EnvelopeFailure
    rw [position, velocity, kp, kd, feedforward]
    simp only [Double.value, not_or, not_lt]
    refine ⟨?_, ?_, ?_, ?_, ?_, ?_⟩
    · linarith [inside.position.1]
    · linarith [inside.position.2]
    · linarith [inside.velocity]
    · linarith [inside.kp.2]
    · linarith [inside.kd.2]
    · linarith [inside.feedforward]
  simp only [jointFailure, if_neg numeric, if_neg envelope]

end Envelope

section Agreement

variable {float : String → Except String Double} {arguments : EnvelopeArguments}
  {rows table : Index → JointSafety} {projector : ProtectedTargetProjector}

/-- What the exporter writes about a joint that it accepts, with the multipliers that it has
read. -/
structure Exported (arguments : EnvelopeArguments) (gain damping : Index → ℚ) (joint : Index)
    (row : JointSafety) : Prop where
  position : row.positionMin = (arguments.soft joint).1.value ∧
    row.positionMax = (arguments.soft joint).2.value
  velocity : 0 ≤ row.velocityMax
  kp : 0 ≤ (arguments.contract.stiffness joint).value ∧
    row.kpMax = arguments.gainScale.value * gain joint *
      (arguments.contract.stiffness joint).value
  kd : 0 ≤ min (arguments.contract.damping joint).value arguments.maximumEmbeddedKd.value ∧
    row.kdMax = arguments.gainScale.value * gain joint * damping joint *
      min (arguments.contract.damping joint).value arguments.maximumEmbeddedKd.value
  feedforward : ∃ effort, 0 ≤ effort ∧
    row.feedforwardTorqueMax = arguments.gainScale.value * gain joint * effort

theorem exportJointSafety_spec (exported : exportJointSafety float arguments = .ok rows) :
    ∃ gain damping,
      parseJointGainMultiplierOverrides float arguments.contract.jointNames
        arguments.jointGainMultiplier = .ok gain ∧
      parseJointDampingMultiplierOverrides float arguments.contract.jointNames
        arguments.jointDampingMultiplier = .ok damping ∧
      ∀ joint, Exported arguments gain damping joint (rows joint) := by
  simp only [exportJointSafety, except_bind_eq_ok, raiseIf_eq_ok, requireFinite_eq_ok, not_or,
    not_not, not_exists, not_le, not_lt] at exported
  obtain ⟨_, _, _, ⟨_, kdPositive, _⟩, velocityLimit, _, stiffness, sameStiffness, dampings,
    sameDampings, effortLimit, _, _, ⟨_, stiffnessNonneg, dampingNonneg, effortNonneg⟩, _, _, _, _,
    gain, readGain, damping, readDamping, checked⟩ := exported
  refine ⟨gain, damping, readGain, readDamping, fun joint => ?_⟩
  have stiffnessValue : (arguments.contract.stiffness joint).value = stiffness joint := by
    rw [sameStiffness]
    rfl
  have dampingValue : (arguments.contract.damping joint).value = dampings joint := by
    rw [sameDampings]
    rfl
  split at checked
  · cases checked
  · cases checked
    constructor
    · exact ⟨rfl, rfl⟩
    · exact abs_nonneg _
    · rw [stiffnessValue]
      exact ⟨stiffnessNonneg joint, rfl⟩
    · rw [dampingValue]
      exact ⟨le_min (dampingNonneg joint) kdPositive.le, rfl⟩
    · exact ⟨effortLimit joint, effortNonneg joint, rfl⟩

/-- The rows and the projector come from the same numbers. -/
structure Covers (arguments : EnvelopeArguments) (projector : ProtectedTargetProjector)
    (joint : Index) (row : JointSafety) : Prop where
  position : row.positionMin = projector.lowerRad joint ∧ row.positionMax = projector.upperRad joint
  ordered : projector.lowerRad joint ≤ projector.upperRad joint
  velocity : 0 ≤ row.velocityMax
  kp : 0 ≤ row.kpMax ∧
    row.kpMax = projector.gainScale * projector.jointGainMultipliers joint *
      (arguments.contract.stiffness joint).value
  kd : 0 ≤ row.kdMax ∧
    row.kdMax = projector.gainScale * projector.jointGainMultipliers joint *
      projector.jointDampingMultipliers joint *
      min (arguments.contract.damping joint).value arguments.maximumEmbeddedKd.value
  feedforward : 0 ≤ row.feedforwardTorqueMax

theorem exported_covers (exported : exportJointSafety float arguments = .ok rows)
    (built : arguments.projector float = .ok projector) (joint : Index) :
    Covers arguments projector joint (rows joint) := by
  obtain ⟨gain, damping, readGain, readDamping, written⟩ := exportJointSafety_spec exported
  have row := written joint
  simp only [EnvelopeArguments.projector, readGain, readDamping, except_bind_eq_ok,
    Except.ok.injEq] at built
  obtain ⟨_, rfl, _, rfl, _, _, made⟩ := built
  have projected := ProtectedTargetProjector.make_spec made
  have low : (arguments.soft joint).1 = .finite (projector.lowerRad joint) :=
    congrFun projected.lower joint
  have high : (arguments.soft joint).2 = .finite (projector.upperRad joint) :=
    congrFun projected.upper joint
  have sameGain : gain joint = projector.jointGainMultipliers joint :=
    Double.finite.inj (congrFun projected.gain joint)
  have sameDamping : damping joint = projector.jointDampingMultipliers joint :=
    Double.finite.inj (congrFun projected.damping joint)
  have scale := congrArg Double.value projected.scale
  have gainFactor : 0 ≤ projector.gainScale * projector.jointGainMultipliers joint :=
    mul_nonneg projected.scaleRange.1.le (projected.gainRange joint).1.le
  obtain ⟨effort, effortNonneg, torque⟩ := row.feedforward
  obtain ⟨stiffnessNonneg, kp⟩ := row.kp
  obtain ⟨dampingNonneg, kd⟩ := row.kd
  rw [scale, sameGain] at kp kd torque
  rw [sameDamping] at kd
  constructor
  · rw [row.position.1, row.position.2, low, high]
    exact ⟨rfl, rfl⟩
  · exact (projected.ordered joint).le
  · exact row.velocity
  · refine ⟨?_, kp⟩
    rw [kp]
    exact mul_nonneg gainFactor stiffnessNonneg
  · refine ⟨?_, kd⟩
    rw [kd]
    exact mul_nonneg (mul_nonneg gainFactor (projected.dampingRange joint).1.le) dampingNonneg
  · rw [torque]
    exact mul_nonneg gainFactor effortNonneg

/-- A raw target of the policy: the gains of the contract, the damping cut to what a motor
takes, and nothing besides a position. -/
structure RawPolicyTarget (arguments : EnvelopeArguments) (raw : ImpedanceTarget Double) :
    Prop where
  kp : ∀ joint, raw.kp joint = .finite (arguments.contract.stiffness joint).value
  kd : ∀ joint, raw.kd joint =
    .finite (min (arguments.contract.damping joint).value arguments.maximumEmbeddedKd.value)
  velocity : ∀ joint, raw.velocity joint = .finite 0
  feedforward : ∀ joint, raw.feedforward joint = .finite 0

theorem Covers.projected {joint : Index} {row : JointSafety}
    (covers : Covers arguments projector joint row) {raw : ImpedanceTarget ℚ}
    (policy : RawPolicyTarget arguments raw.doubles) :
    InsideEnvelope row joint (projector.projected raw) := by
  have kp : raw.kp joint = (arguments.contract.stiffness joint).value :=
    Double.finite.inj (policy.kp joint)
  have kd : raw.kd joint =
      min (arguments.contract.damping joint).value arguments.maximumEmbeddedKd.value :=
    Double.finite.inj (policy.kd joint)
  have velocity : raw.velocity joint = 0 := Double.finite.inj (policy.velocity joint)
  have feedforward : raw.feedforward joint = 0 := Double.finite.inj (policy.feedforward joint)
  obtain ⟨sameLow, sameHigh⟩ := covers.position
  constructor
  · rw [sameLow, sameHigh]
    exact ⟨le_min (le_max_right _ _) covers.ordered, min_le_right _ _⟩
  · simp only [ProtectedTargetProjector.projected, velocity, abs_zero]
    exact covers.velocity
  · simp only [ProtectedTargetProjector.projected, kp, ← covers.kp.2]
    exact ⟨covers.kp.1, le_rfl⟩
  · simp only [ProtectedTargetProjector.projected, kd, ← covers.kd.2]
    exact ⟨covers.kd.1, le_rfl⟩
  · simp only [ProtectedTargetProjector.projected, feedforward, mul_zero, abs_zero]
    exact covers.feedforward

end Agreement

section Run

variable {arguments : EnvelopeArguments} {projector : ProtectedTargetProjector}
  {inputs : List ProtectionInput}

/-- Counting clamps changes nothing that the projection depends on. -/
theorem counted_projected (projector : ProtectedTargetProjector) (target : ImpedanceTarget ℚ) :
    (projector.counted target).projected = projector.projected := by
  have fold (joints : List Index) (projector : ProtectedTargetProjector) :
      (joints.foldl (fun projector joint => projector.countClamp joint) projector).projected =
        projector.projected := by
    induction joints generalizing projector with
    | nil => rfl
    | cons joint rest induction => exact induction _
  exact fold _ _

/-- The state of the protection after some ticks of a run. -/
structure Protecting (projector : ProtectedTargetProjector) (inputs : List ProtectionInput)
    (ticks : ℕ) (state : ProtectedTargetProjector × PhysicalStartupRamp) : Prop where
  projects : state.1.projected = projector.projected
  captured : Captured inputs ticks state.2.initialPositionRad

/-- A tick gives out a blend of the captured pose and the projected target. -/
theorem Protecting.step {ticks : ℕ} {input : ProtectionInput}
    {state next : ProtectedTargetProjector × PhysicalStartupRamp} {tick : ProtectedTick}
    (there : inputs[ticks]? = some input) (protecting : Protecting projector inputs ticks state)
    (returned : pythonProtection input state = (.done tick, next)) :
    (∃ pose raw weight, FirstPose inputs pose ∧ input.1 = raw.doubles ∧
        (0 ≤ weight ∧ weight ≤ 1) ∧
        tick.target = StartupRamp.ramped weight pose (projector.projected raw)) ∧
      Protecting projector inputs (ticks + 1) next := by
  obtain ⟨raw, own, target, admitted, rfl, rfl⟩ := pythonProtection_eq_done_iff.mp returned
  obtain ⟨pose, captured, first⟩ := protecting.captured.call there admitted.samePose
  have ramped := admitted.sameTarget
  rw [captured, protecting.projects] at ramped
  constructor
  · refine ⟨pose, raw, state.2.alpha, first, admitted.sameRaw, ?_, ramped.symm⟩
    rw [state.2.alpha_eq_rampWeight]
    exact ⟨rampWeight_nonneg, rampWeight_le_one⟩
  · constructor
    · rw [counted_projected, protecting.projects]
    · obtain ⟨maximum, recorded, _⟩ := (state.2.capture own).recordDelta_eq target.position
      have initial : (state.2.advanced own target.position).initialPositionRad =
          state.2.initialPositionRad.or (some own) := by
        unfold PhysicalStartupRamp.advanced
        rw [recorded]
        rfl
      rw [initial, captured]
      exact captured_succ first

/-- Every target of a protected run passes the checks of every joint against the exported
table. -/
theorem exported_envelope_admits {float : String → Except String Double}
    {rows table : Index → JointSafety} {hz holdSeconds rampSeconds : Double}
    {startup : PhysicalStartupRamp} (exported : exportJointSafety float arguments = .ok rows)
    (loaded : loadJointSafety rows = .ok table)
    (built : arguments.projector float = .ok projector)
    (started : PhysicalStartupRamp.make hz holdSeconds rampSeconds = .ok startup)
    (policy : ∀ input ∈ inputs, RawPolicyTarget arguments input.1)
    (posed : ∀ pose, FirstPose inputs pose → ∀ joint,
      projector.lowerRad joint ≤ pose joint ∧ pose joint ≤ projector.upperRad joint) :
    ∀ tick ∈ (Program.follow pythonProtection inputs (projector, startup)).1,
      ∀ (packet : TargetPacket) (joint : Index), packet.target = tick.target.doubles →
        jointFailure (some table) packet joint = none := by
  intro tick member packet joint carried
  simp only [loadJointSafety, except_bind_eq_ok, raiseIf_eq_ok, not_exists, not_or,
    not_lt] at loaded
  obtain ⟨_, sound, _, _, same⟩ := loaded
  cases same
  have start : Protecting projector inputs 0 (projector, startup) := by
    rw [PhysicalStartupRamp.make_spec started]
    exact ⟨rfl, fun _ => rfl, fun called => absurd rfl called⟩
  obtain ⟨index, answered⟩ := List.mem_iff_getElem?.mp member
  obtain ⟨input, there, pose, raw, weight, first, sameRaw, range, output⟩ :=
    Program.follow_law
      (fun _ _ _ _ _ there protecting returned => Protecting.step there protecting returned)
      start answered
  have covers := exported_covers exported built joint
  have inside := covers.projected (sameRaw ▸ policy input (List.mem_of_getElem? there))
  have captured : (rows joint).positionMin ≤ pose joint ∧
      pose joint ≤ (rows joint).positionMax := by
    rw [covers.position.1, covers.position.2]
    exact posed pose first joint
  rw [output] at carried
  exact (inside.ramped range.1 range.2 captured).passes (sound joint).2.2.2.2.2.1 carried

/-- All joints alike, the gains of joint `j` halved and its damping doubled. -/
def benchEnvelope : EnvelopeArguments :=
  { contract :=
      { jointNames := fun joint => String.ofList (List.replicate (joint.val + 1) 'j')
        velocityLimit := fun _ => .finite 20
        stiffness := fun _ => .finite 100
        damping := fun _ => .finite 4
        effortLimit := fun _ => .finite 30 }
    limits :=
      { names := Finset.univ.image fun joint : Index =>
          String.ofList (List.replicate (joint.val + 1) 'j')
        candidate := fun _ => ⟨(.finite (-1), .finite 1), (.finite (-2), .finite 2)⟩ }
    gainScale := .finite (1 / 10)
    maximumEmbeddedKd := .finite 3
    jointGainMultiplier := ["j=0.5"]
    jointDampingMultiplier := ["j=2.0"] }

/-- `float`, on the factors of `benchEnvelope`. -/
def benchFloat (text : String) : Except String Double :=
  if text = "0.5" then .ok (.finite (1 / 2))
  else if text = "2.0" then .ok (.finite 2)
  else .error ("could not convert string to float: " ++ text)

/-- A target beyond the limits, from a pose in the middle. -/
def benchInput : ProtectionInput :=
  ({ position := fun _ => .finite 5
     velocity := fun _ => .finite 0
     kp := fun _ => .finite 100
     kd := fun _ => .finite 3
     feedforward := fun _ => .finite 0 }, fun _ => .finite 0)

theorem exported_envelope_admits_bench :
    ∃ table projector startup,
      (exportJointSafety benchFloat benchEnvelope >>= loadJointSafety) = .ok table ∧
      benchEnvelope.projector benchFloat = .ok projector ∧
      PhysicalStartupRamp.make (.finite 50) (.finite 1) (.finite 4) = .ok startup ∧
      ∀ tick ∈ (Program.follow pythonProtection [benchInput, benchInput] (projector, startup)).1,
        ∀ (packet : TargetPacket) (joint : Index), packet.target = tick.target.doubles →
          jointFailure (some table) packet joint = none := by
  have accepted : (exportJointSafety benchFloat benchEnvelope >>= loadJointSafety).isOk = true ∧
      (benchEnvelope.projector benchFloat).isOk = true ∧
      (PhysicalStartupRamp.make (.finite 50) (.finite 1) (.finite 4)).isOk = true := by
    decide +kernel
  obtain ⟨table, loaded⟩ := exists_ok_of_isOk accepted.1
  obtain ⟨projector, built⟩ := exists_ok_of_isOk accepted.2.1
  obtain ⟨startup, started⟩ := exists_ok_of_isOk accepted.2.2
  obtain ⟨rows, exported, checked⟩ := except_bind_eq_ok.mp loaded
  refine ⟨table, projector, startup, loaded, built, started, ?_⟩
  apply exported_envelope_admits exported checked built started
  · intro input member
    have same : input = benchInput := by simpa using member
    rw [same]
    constructor
    · exact fun _ => rfl
    · intro joint
      exact congrArg Double.finite (by norm_num [benchEnvelope, Double.value])
    · exact fun _ => rfl
    · exact fun _ => rfl
  · rintro pose ⟨first, head, measured⟩ joint
    cases head
    have middle : pose joint = 0 := (Double.finite.inj (congrFun measured joint)).symm
    simp only [EnvelopeArguments.projector, except_bind_eq_ok] at built
    obtain ⟨_, _, _, _, _, _, made⟩ := built
    have projected := ProtectedTargetProjector.make_spec made
    have low : -1 = projector.lowerRad joint :=
      Double.finite.inj (congrFun projected.lower joint)
    have high : 1 = projector.upperRad joint :=
      Double.finite.inj (congrFun projected.upper joint)
    rw [middle, ← low, ← high]
    norm_num

end Run

end SpriteRuntime
