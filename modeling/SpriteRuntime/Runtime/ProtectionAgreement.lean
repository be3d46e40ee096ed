import SpriteRuntime.Runtime.PhysicalStartup

/-!
# The two protections agree

The native projector walks over the joints and counts as it goes; the Python projector
works on whole vectors and counts by name.  Tick by tick they accept the same inputs and
report the same numbers.
-/

namespace SpriteRuntime

open Foundation

/-- A raw target and the measured pose that comes with it. -/
abbrev ProtectionInput : Type := ImpedanceTarget Double × (Index → Double)

/-- What a tick of the protection shows: the target it hands on and its records. -/
structure ProtectedTick where
  target : ImpedanceTarget ℚ
  alpha : ℚ
  completedSteps : ℕ
  complete : Bool
  maximumPositionDelta : ℚ
  clampCount : Index → ℕ
  maximumOvershoot : ℚ

/-- What the native side shows after a tick. -/
def nativeReport (target : ImpedanceTarget ℚ) (state : TargetProjector × StartupRamp) :
    ProtectedTick :=
  { target
    alpha := state.2.lastAlpha
    completedSteps := state.2.completed
    complete := state.2.complete
    maximumPositionDelta := state.2.maximumPositionDelta
    clampCount := state.1.clampCount
    maximumOvershoot := state.1.maximumOvershoot }

/-- What the Python side shows after a tick. -/
def pythonReport (target : ImpedanceTarget ℚ)
    (state : ProtectedTargetProjector × PhysicalStartupRamp) : ProtectedTick :=
  { target
    alpha := state.2.lastAlpha
    completedSteps := state.2.completedSteps
    complete := state.2.complete
    maximumPositionDelta := state.2.maximumOutputPositionDeltaRad
    clampCount := fun joint => state.1.clampCountByJoint (state.1.jointNames joint)
    maximumOvershoot := state.1.maximumRawPositionOvershootRad }

/-- A tick of the native protection. -/
def nativeProtection (input : ProtectionInput) :
    Program (TargetProjector × StartupRamp) String ProtectedTick := do
  let projected ← Program.zoom Prod.fst (fun projector state => (projector, state.2))
    (TargetProjector.project input.1)
  let target ← Program.zoom Prod.snd (fun startup state => (state.1, startup))
    (StartupRamp.apply projected.doubles input.2)
  let state ← Program.get
  return nativeReport target state

/-- A tick of the Python protection. -/
def pythonProtection (input : ProtectionInput) :
    Program (ProtectedTargetProjector × PhysicalStartupRamp) String ProtectedTick := do
  let raw ← Program.ofExcept (JointImpedanceTarget.make input.1)
  let projected ← Program.zoom Prod.fst (fun projector state => (projector, state.2))
    (ProtectedTargetProjector.project raw)
  let target ← Program.zoom Prod.snd (fun startup state => (state.1, startup))
    (PhysicalStartupRamp.apply projected input.2)
  let state ← Program.get
  return pythonReport target state

section Projectors

/-- The same limits and scales on both sides. -/
structure SameEnvelope (native : TargetProjector) (python : ProtectedTargetProjector) : Prop where
  names : Function.Injective python.jointNames
  ordered : ∀ joint, native.lower joint ≤ native.upper joint
  lower : python.lowerRad = native.lower
  upper : python.upperRad = native.upper
  gain : python.jointGainMultipliers = native.gain
  damping : python.jointDampingMultipliers = native.damping
  scale : python.gainScale = native.scale
  maximumKd : python.maximumEmbeddedKd = native.maximumKd

/-- The clamp counts agree as well. -/
structure SameCounts (native : TargetProjector) (python : ProtectedTargetProjector) : Prop
    extends SameEnvelope native python where
  counts : ∀ joint, python.clampCountByJoint (python.jointNames joint) = native.clampCount joint

/-- And so do the maxima. -/
structure ProjectorsMatch (native : TargetProjector) (python : ProtectedTargetProjector) : Prop
    extends SameCounts native python where
  overshoot : python.maximumRawPositionOvershootRad = native.maximumOvershoot
  nonneg : 0 ≤ native.maximumOvershoot

variable {native : TargetProjector} {python : ProtectedTargetProjector}
  {target : ImpedanceTarget ℚ}

/-- Between ordered limits both sides clamp alike. -/
theorem npClip_eq_stdClamp {value low high : ℚ} (ordered : low ≤ high) :
    npClip value low high = stdClamp value low high := by
  unfold npClip stdClamp
  split
  next below => rw [max_eq_right below.le, min_eq_left ordered]
  next notBelow =>
      rw [max_eq_left (not_lt.mp notBelow)]
      split
      next above => exact min_eq_right above.le
      next notAbove => exact min_eq_left (not_lt.mp notAbove)

theorem SameEnvelope.projected (same : SameEnvelope native python) (target : ImpedanceTarget ℚ) :
    python.projected target = native.projected target := by
  apply ImpedanceTarget.ext
  · funext joint
    simp only [ProtectedTargetProjector.projected, TargetProjector.projected, same.lower,
      same.upper]
    exact npClip_eq_stdClamp (same.ordered joint)
  · rfl
  · simp [ProtectedTargetProjector.projected, TargetProjector.projected,
      TargetProjector.jointScale, same.gain, same.scale]
  · simp [ProtectedTargetProjector.projected, TargetProjector.projected,
      TargetProjector.jointScale, same.gain, same.damping, same.scale]
  · simp [ProtectedTargetProjector.projected, TargetProjector.projected,
      TargetProjector.jointScale, same.gain, same.scale]

/-- Counting one joint on both sides. -/
theorem SameCounts.countClamp (same : SameCounts native python) (joint : Index)
    (moved : (native.projected target).position joint ≠ target.position joint) :
    SameCounts (native.countClamp target joint) (python.countClamp joint) := by
  refine { same with counts := fun other => ?_ }
  simp only [TargetProjector.countClamp, ProtectedTargetProjector.countClamp, if_pos moved]
  by_cases here : other = joint
  · subst here
    simp [same.counts]
  · rw [Function.update_of_ne here, Function.update_of_ne (same.names.ne here), same.counts]

/-- A joint that stays where it is changes no count. -/
theorem SameCounts.countStill (same : SameCounts native python) (joint : Index)
    (still : ¬(native.projected target).position joint ≠ target.position joint) :
    SameCounts (native.countClamp target joint) python := by
  refine { same with counts := fun other => ?_ }
  simp only [TargetProjector.countClamp, if_neg still]
  exact same.counts other

theorem SameCounts.fold (same : SameCounts native python) (joints : List Index) :
    SameCounts
      (joints.foldl (fun projector joint => projector.countClamp target joint) native)
      ((joints.filter fun joint =>
          (native.projected target).position joint ≠ target.position joint).foldl
        (fun projector joint => projector.countClamp joint) python) := by
  induction joints generalizing native python with
  | nil => exact same
  | cons joint rest induction =>
      by_cases moved : (native.projected target).position joint ≠ target.position joint
      · rw [List.filter_cons_of_pos (by simpa using moved)]
        exact induction (same.countClamp joint moved)
      · rw [List.filter_cons_of_neg (by simpa using moved)]
        exact induction (same.countStill joint moved)

/-- What bounds the native maximum after a walk over some joints. -/
theorem maximumOvershoot_fold_le_iff (joints : List Index) {bound : ℚ} :
    (joints.foldl (fun projector joint => projector.countClamp target joint)
        native).maximumOvershoot ≤ bound ↔
      native.maximumOvershoot ≤ bound ∧ ∀ joint ∈ joints, native.overshoot target joint ≤ bound := by
  induction joints generalizing native with
  | nil => simp
  | cons joint rest induction =>
      rw [List.foldl_cons, induction, List.forall_mem_cons, ← and_assoc]
      exact and_congr_left' max_le_iff

/-- The Python counts leave the maximum alone. -/
theorem countClamp_fold_overshoot (joints : List Index) (python : ProtectedTargetProjector) :
    (joints.foldl (fun projector joint => projector.countClamp joint)
      python).maximumRawPositionOvershootRad = python.maximumRawPositionOvershootRad := by
  induction joints generalizing python with
  | nil => rfl
  | cons joint rest induction => exact induction _

theorem ProjectorsMatch.fold (same : ProjectorsMatch native python) {joints : List Index}
    (all : ∀ joint, joint ∈ joints) :
    ProjectorsMatch
      (joints.foldl (fun projector joint => projector.countClamp target joint) native)
      ((joints.filter fun joint =>
          (native.projected target).position joint ≠ target.position joint).foldl
        (fun projector joint => projector.countClamp joint) (python.recordOvershoot target)) := by
  have recorded : SameCounts native (python.recordOvershoot target) :=
    ⟨⟨same.names, same.ordered, same.lower, same.upper, same.gain, same.damping, same.scale,
      same.maximumKd⟩, same.counts⟩
  have bounds (bound : ℚ) := @maximumOvershoot_fold_le_iff native target joints bound
  have overshoots : python.overshoot target = native.overshoot target := by
    funext joint
    simp [ProtectedTargetProjector.overshoot, TargetProjector.overshoot, same.lower, same.upper]
  have nonneg : 0 ≤ (joints.foldl (fun projector joint => projector.countClamp target joint)
      native).maximumOvershoot :=
    same.nonneg.trans ((bounds _).mp le_rfl).1
  refine { recorded.fold joints with overshoot := ?_, nonneg := nonneg }
  rw [countClamp_fold_overshoot]
  apply eq_of_forall_ge_iff
  intro bound
  rw [bounds]
  simp only [ProtectedTargetProjector.recordOvershoot, max_le_iff, npMax_le_iff, overshoots,
    same.overshoot]
  constructor
  · rintro ⟨before, now⟩
    exact ⟨before, fun joint _ => (now joint).1⟩
  · rintro ⟨before, now⟩
    exact ⟨before, fun joint => ⟨now joint (all joint), same.nonneg.trans before⟩⟩

theorem ProjectorsMatch.counted (same : ProjectorsMatch native python)
    (target : ImpedanceTarget ℚ) :
    ProjectorsMatch (native.counted target) (python.counted target) := by
  unfold TargetProjector.counted ProtectedTargetProjector.counted ProtectedTargetProjector.clamped
  rw [same.projected]
  exact same.fold List.mem_finRange

end Projectors

section Ramps

/-- The two ramps are in the same state. -/
structure RampsMatch (native : StartupRamp) (python : PhysicalStartupRamp) : Prop where
  hold : python.holdSteps = native.hold
  ramp : python.rampSteps = native.ramp
  completed : python.completedSteps = native.completed
  initial : python.initialPositionRad = native.initial
  previous : python.previousOutput = native.previous
  lastAlpha : python.lastAlpha = native.lastAlpha
  delta : python.maximumOutputPositionDeltaRad = native.maximumPositionDelta

variable {native : StartupRamp} {python : PhysicalStartupRamp}

theorem RampsMatch.alpha (same : RampsMatch native python) : python.alpha = native.alpha := by
  rw [native.alpha_eq_rampWeight, python.alpha_eq_rampWeight, same.hold, same.ramp,
    same.completed]

/-- What a walk over some joints records, and what bounds the maximum after it. -/
theorem recordDelta_fold (position : Index → ℚ) (joints : List Index) (native : StartupRamp) :
    ∃ maximum, joints.foldl (fun startup joint => startup.recordDelta position joint) native =
        { native with maximumPositionDelta := maximum } ∧
      ∀ bound, maximum ≤ bound ↔ native.maximumPositionDelta ≤ bound ∧
        ∀ joint ∈ joints, ∀ previous, native.previous = some previous →
          |position joint - previous joint| ≤ bound := by
  induction joints generalizing native with
  | nil => exact ⟨native.maximumPositionDelta, rfl, by simp⟩
  | cons joint rest induction =>
      obtain ⟨maximum, same, bounds⟩ := induction (native.recordDelta position joint)
      rw [List.foldl_cons, same]
      cases recorded : native.previous with
      | none =>
          have kept : native.recordDelta position joint = native := by
            simp [StartupRamp.recordDelta, recorded]
          rw [kept] at bounds ⊢
          exact ⟨maximum, by rw [recorded], fun bound => by simp [bounds, recorded]⟩
      | some previous =>
          simp only [StartupRamp.recordDelta, recorded] at bounds ⊢
          refine ⟨maximum, rfl, fun bound => ?_⟩
          simp [bounds, and_assoc]

theorem RampsMatch.advanced (same : RampsMatch native python) (measured position : Index → ℚ) :
    RampsMatch (native.advanced measured position) (python.advanced measured position) := by
  unfold StartupRamp.advanced PhysicalStartupRamp.advanced
  have all := List.mem_finRange (n := kJointCount)
  generalize List.finRange kJointCount = joints at all ⊢
  obtain ⟨maximum, folded, bounds⟩ :=
    recordDelta_fold position joints (native.capture measured)
  obtain ⟨other, recorded, otherBounds⟩ := (python.capture measured).recordDelta_eq position
  have maxima : other = maximum := by
    apply eq_of_forall_ge_iff
    intro bound
    rw [bounds, otherBounds]
    change python.maximumOutputPositionDeltaRad ≤ bound ∧ (∀ joint previous,
      python.previousOutput = some previous → _) ↔ _
    rw [same.delta, same.previous]
    exact and_congr_right fun _ => ⟨fun within joint _ => within joint,
      fun within joint => within joint (all joint)⟩
  rw [folded, recorded, maxima, same.alpha]
  constructor
  · exact same.hold
  · exact same.ramp
  · exact congrArg (· + 1) same.completed
  · change python.initialPositionRad.or _ = native.initial.or _
    rw [same.initial]
  · rfl
  · rfl
  · rfl

end Ramps

section Ticks

/-- An input that a tick admits, with the numbers in it and the target it leads to. -/
structure InputAdmitted (projected : ImpedanceTarget ℚ → ImpedanceTarget ℚ) (maximumKd weight : ℚ)
    (initial : Option (Index → ℚ)) (input : ProtectionInput) (raw : ImpedanceTarget ℚ)
    (pose : Index → ℚ) (target : ImpedanceTarget ℚ) : Prop where
  sameRaw : input.1 = raw.doubles
  samePose : input.2 = fun joint => .finite (pose joint)
  gains : raw.GainsNonneg
  kd : ∀ joint, (projected raw).kd joint ≤ maximumKd
  projectedGains : (projected raw).GainsNonneg
  sameTarget : StartupRamp.ramped weight ((initial.or (some pose)).getD pose) (projected raw) =
    target
  targetGains : target.GainsNonneg

theorem nativeProtection_eq_done_iff {input : ProtectionInput}
    {state next : TargetProjector × StartupRamp} {tick : ProtectedTick} :
    nativeProtection input state = (.done tick, next) ↔
      ∃ raw pose target,
        InputAdmitted state.1.projected state.1.maximumKd state.2.alpha state.2.initial input raw pose
          target ∧
        next = (state.1.counted raw, state.2.advanced pose target.position) ∧
        tick = nativeReport target next := by
  unfold nativeProtection
  simp only [Program.bind_eq_done_iff, Program.zoom_eq_done_iff, Program.get_eq_done_iff,
    Program.pure_eq_done_iff, TargetProjector.project_eq_done_iff, StartupRamp.apply_eq_done_iff,
    ImpedanceTarget.doubles_inj]
  constructor
  · rintro ⟨_, _, ⟨_, ⟨raw, ⟨same, gains⟩, kd, ⟨rfl, projectedGains⟩, rfl⟩, rfl⟩, target, _,
      ⟨_, ⟨pose, _, measured, ⟨rfl, _⟩, ⟨ramped, targetGains⟩, rfl⟩, rfl⟩, _, _, ⟨rfl, rfl⟩,
      rfl, rfl⟩
    exact ⟨raw, pose, target, ⟨same, measured, gains, kd, projectedGains, ramped, targetGains⟩,
      rfl, rfl⟩
  · rintro ⟨raw, pose, target, admitted, rfl, rfl⟩
    exact ⟨_, _, ⟨_, ⟨raw, ⟨admitted.sameRaw, admitted.gains⟩, admitted.kd,
      ⟨rfl, admitted.projectedGains⟩, rfl⟩, rfl⟩, target, _,
      ⟨_, ⟨pose, _, admitted.samePose, ⟨rfl, admitted.projectedGains⟩,
        ⟨admitted.sameTarget, admitted.targetGains⟩, rfl⟩, rfl⟩, _, _, ⟨rfl, rfl⟩, rfl, rfl⟩

theorem pythonProtection_eq_done_iff {input : ProtectionInput}
    {state next : ProtectedTargetProjector × PhysicalStartupRamp} {tick : ProtectedTick} :
    pythonProtection input state = (.done tick, next) ↔
      ∃ raw pose target,
        InputAdmitted state.1.projected state.1.maximumEmbeddedKd state.2.alpha
          state.2.initialPositionRad input raw pose target ∧
        next = (state.1.counted raw, state.2.advanced pose target.position) ∧
        tick = pythonReport target next := by
  unfold pythonProtection
  simp only [Program.bind_eq_done_iff, Program.zoom_eq_done_iff, Program.get_eq_done_iff,
    Program.pure_eq_done_iff, Program.ofExcept_eq_done_iff, JointImpedanceTarget.make_eq_ok,
    ProtectedTargetProjector.project_eq_done_iff, PhysicalStartupRamp.apply_eq_done_iff]
  constructor
  · rintro ⟨raw, _, ⟨⟨same, gains⟩, rfl⟩, _, _, ⟨_, ⟨_, kd, ⟨rfl, projectedGains⟩, rfl⟩, rfl⟩,
      target, _, ⟨_, ⟨pose, measured, ⟨ramped, targetGains⟩, rfl⟩, rfl⟩, _, _, ⟨rfl, rfl⟩,
      rfl, rfl⟩
    exact ⟨raw, pose, target, ⟨same, measured, gains, kd, projectedGains, ramped, targetGains⟩,
      rfl, rfl⟩
  · rintro ⟨raw, pose, target, admitted, rfl, rfl⟩
    exact ⟨raw, _, ⟨⟨admitted.sameRaw, admitted.gains⟩, rfl⟩, _, _,
      ⟨_, ⟨admitted.gains, admitted.kd, ⟨rfl, admitted.projectedGains⟩, rfl⟩, rfl⟩, target, _,
      ⟨_, ⟨pose, admitted.samePose, ⟨admitted.sameTarget, admitted.targetGains⟩, rfl⟩, rfl⟩, _, _,
      ⟨rfl, rfl⟩, rfl, rfl⟩

/-- The two protections are in the same state. -/
def ProtectionsMatch (native : TargetProjector × StartupRamp)
    (python : ProtectedTargetProjector × PhysicalStartupRamp) : Prop :=
  ProjectorsMatch native.1 python.1 ∧ RampsMatch native.2 python.2

theorem ProtectionsMatch.report {native : TargetProjector × StartupRamp}
    {python : ProtectedTargetProjector × PhysicalStartupRamp}
    (same : ProtectionsMatch native python) (target : ImpedanceTarget ℚ) :
    pythonReport target python = nativeReport target native := by
  obtain ⟨projectors, ramps⟩ := same
  have counts : (fun joint => python.1.clampCountByJoint (python.1.jointNames joint)) =
      native.1.clampCount := funext projectors.counts
  simp only [pythonReport, nativeReport, counts, ramps.lastAlpha, ramps.completed, ramps.delta,
    projectors.overshoot, PhysicalStartupRamp.complete, StartupRamp.complete, ramps.hold,
    ramps.ramp]

/-- A tick keeps the two protections in the same state, or both reject the input. -/
theorem ProtectionsMatch.tick {native : TargetProjector × StartupRamp}
    {python : ProtectedTargetProjector × PhysicalStartupRamp} (input : ProtectionInput)
    (same : ProtectionsMatch native python) :
    Program.Agree ProtectionsMatch (nativeProtection input native)
      (pythonProtection input python) := by
  obtain ⟨projectors, ramps⟩ := same
  have projected : python.1.projected = native.1.projected := funext projectors.projected
  have next (raw : ImpedanceTarget ℚ) (pose position : Index → ℚ) :
      ProtectionsMatch (native.1.counted raw, native.2.advanced pose position)
        (python.1.counted raw, python.2.advanced pose position) :=
    ⟨projectors.counted raw, ramps.advanced pose position⟩
  have admits (raw : ImpedanceTarget ℚ) (pose : Index → ℚ) (target : ImpedanceTarget ℚ) :
      InputAdmitted python.1.projected python.1.maximumEmbeddedKd python.2.alpha
          python.2.initialPositionRad input raw pose target ↔
        InputAdmitted native.1.projected native.1.maximumKd native.2.alpha native.2.initial input raw
          pose target := by
    rw [projected, projectors.maximumKd, ramps.alpha, ramps.initial]
  apply Program.Agree.of_returns
  · intro tick state returned
    obtain ⟨raw, pose, target, admitted, rfl, rfl⟩ := nativeProtection_eq_done_iff.mp returned
    have kept := next raw pose target.position
    refine ⟨_, pythonProtection_eq_done_iff.mpr ⟨raw, pose, target,
      (admits raw pose target).mpr admitted, rfl, ?_⟩, kept⟩
    exact (kept.report target).symm
  · intro tick state returned
    obtain ⟨raw, pose, target, admitted, rfl, rfl⟩ := pythonProtection_eq_done_iff.mp returned
    refine ⟨_, nativeProtection_eq_done_iff.mpr ⟨raw, pose, target,
      (admits raw pose target).mp admitted, rfl, ?_⟩⟩
    exact (next raw pose target.position).report target

end Ticks

section Settings

/-- What both protections are configured with.  The native side is handed all
multipliers. -/
structure ProtectionSettings where
  jointNames : Index → String
  lower : Index → Double
  upper : Index → Double
  gain : Option (Index → Double)
  damping : Option (Index → Double)
  scale : Double
  maximumKd : Double
  hz : Double
  holdSeconds : Double
  rampSeconds : Double

variable (settings : ProtectionSettings)

def ProtectionSettings.native : Except String (TargetProjector × StartupRamp) := do
  let projector ← TargetProjector.make settings.lower settings.upper
    (settings.gain.getD fun _ => .finite 1) (settings.damping.getD fun _ => .finite 1)
    settings.scale settings.maximumKd
  let startup ← StartupRamp.make settings.hz settings.holdSeconds settings.rampSeconds
  return (projector, startup)

def ProtectionSettings.python :
    Except String (ProtectedTargetProjector × PhysicalStartupRamp) := do
  let projector ← ProtectedTargetProjector.make settings.jointNames settings.lower settings.upper
    settings.scale settings.maximumKd settings.gain settings.damping
  let startup ← PhysicalStartupRamp.make settings.hz settings.holdSeconds settings.rampSeconds
  return (projector, startup)

variable {settings} {native : TargetProjector × StartupRamp}
  {python : ProtectedTargetProjector × PhysicalStartupRamp}

theorem ProtectionSettings.start (acceptedNative : settings.native = .ok native)
    (acceptedPython : settings.python = .ok python) : ProtectionsMatch native python := by
  simp only [ProtectionSettings.native, except_bind_eq_ok] at acceptedNative
  simp only [ProtectionSettings.python, except_bind_eq_ok] at acceptedPython
  obtain ⟨nativeProjector, madeNative, nativeStartup, startedNative, same⟩ := acceptedNative
  cases same
  obtain ⟨pythonProjector, madePython, pythonStartup, startedPython, same⟩ := acceptedPython
  cases same
  obtain ⟨lower, upper, gain, damping, scale, maximumKd, _, joints, unclamped, within⟩ :=
    TargetProjector.make_spec madeNative
  obtain ⟨names, unique, lower', upper', _, scale', _, maximumKd', gain', _, damping', _,
    unclamped', within'⟩ := ProtectedTargetProjector.make_spec madePython
  have vector {left right : Index → ℚ} {entries : Index → Double}
      (one : entries = fun joint => .finite (left joint))
      (other : entries = fun joint => .finite (right joint)) : left = right := by
    funext joint
    have same := congrFun (one.symm.trans other) joint
    exact Double.finite.inj same
  have number {left right : ℚ} {entry : Double} (one : entry = .finite left)
      (other : entry = .finite right) : left = right :=
    Double.finite.inj (one.symm.trans other)
  constructor
  · have envelope : SameEnvelope nativeProjector pythonProjector :=
      { names := names ▸ unique
        ordered := fun joint => (joints joint).1.le
        lower := vector lower' lower
        upper := vector upper' upper
        gain := vector gain' gain
        damping := vector damping' damping
        scale := number scale' scale
        maximumKd := number maximumKd' maximumKd }
    refine ⟨⟨envelope, fun joint => ?_⟩, ?_, ?_⟩
    · rw [unclamped, unclamped']
    · rw [within, within']
    · exact within.ge
  · rw [StartupRamp.make_spec startedNative, PhysicalStartupRamp.make_spec startedPython]
    constructor
    · rw [mul_comm]
    · rw [mul_comm settings.rampSeconds.value]
    · rfl
    · rfl
    · rfl
    · rfl
    · rfl

/-- In every run the two protections accept the same inputs up to the first one that is
rejected, and report the same numbers for each of them. -/
theorem protections_agree {settings : ProtectionSettings}
    {native : TargetProjector × StartupRamp}
    {python : ProtectedTargetProjector × PhysicalStartupRamp}
    (acceptedNative : settings.native = .ok native)
    (acceptedPython : settings.python = .ok python) (inputs : List ProtectionInput) :
    Program.follow nativeProtection inputs native =
      Program.follow pythonProtection inputs python := by
  apply Program.follow_congr
  · exact fun _ _ input same => ProtectionsMatch.tick input same
  · exact ProtectionSettings.start acceptedNative acceptedPython

/-- A tenth of the policy gains, a second of hold and four seconds of ramp. -/
def benchProtection : ProtectionSettings :=
  { jointNames := fun joint => String.ofList (List.replicate joint.val 'j')
    lower := fun _ => .finite (-1)
    upper := fun _ => .finite 1
    gain := none
    damping := some fun _ => .finite 2
    scale := .finite (1 / 10)
    maximumKd := .finite 3
    hz := .finite 50
    holdSeconds := .finite 1
    rampSeconds := .finite 4 }

theorem protections_agree_bench :
    ∃ native python, benchProtection.native = .ok native ∧ benchProtection.python = .ok python ∧
      ∀ inputs, Program.follow nativeProtection inputs native =
        Program.follow pythonProtection inputs python := by
  have accepted : benchProtection.native.isOk = true ∧ benchProtection.python.isOk = true := by
    decide +kernel
  obtain ⟨native, acceptedNative⟩ := exists_ok_of_isOk accepted.1
  obtain ⟨python, acceptedPython⟩ := exists_ok_of_isOk accepted.2
  exact ⟨native, python, acceptedNative, acceptedPython,
    protections_agree acceptedNative acceptedPython⟩

end Settings

end SpriteRuntime
