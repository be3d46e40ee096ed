import Mathlib.Algebra.Order.Ring.Rat
import Mathlib.Data.Finset.Sort
import Mathlib.Data.Fintype.Basic
import Mathlib.Data.String.Basic
import SpriteRuntime.Foundation.Latch
import SpriteRuntime.Foundation.Program

/-!
# The safety supervisor

`SafetySupervisor` decides from the checks of one moment, and from the faults that were
latched before, whether the hardware may transmit.
-/

namespace SpriteRuntime

open Foundation

/-- A float of the Python side. -/
inductive PythonFloat where
  | finite (value : ℚ)
  | infinite (negative : Bool)
  | nan
  deriving DecidableEq

/-- `<=`, false for a NaN. -/
def PythonFloat.le : PythonFloat → PythonFloat → Bool
  | .nan, _ => false
  | _, .nan => false
  | .infinite true, _ => true
  | _, .infinite false => true
  | .finite left, .finite right => decide (left ≤ right)
  | .infinite false, .finite _ => false
  | .finite _, .infinite true => false
  | .infinite false, .infinite true => false

inductive RuntimeMode where
  | dryRun
  | shadow
  | armed
  deriving DecidableEq

def RuntimeMode.text : RuntimeMode → String
  | dryRun => "dry_run"
  | shadow => "shadow"
  | armed => "armed"

/-- `SafetyLimits`, after `validate`. -/
structure SafetyLimits where
  maximumStateAgeMs : PythonFloat := .finite 6
  maximumCommandAgeMs : PythonFloat := .finite 100
  maximumPolicyOverrunMs : PythonFloat := .finite 2
  stateAge : maximumStateAgeMs.le (.finite 0) = false := by decide +kernel
  commandAge : maximumCommandAgeMs.le (.finite 0) = false := by decide +kernel
  policyOverrun : maximumPolicyOverrunMs.le (.finite 0) = false := by decide +kernel

structure SafetyInputs where
  nowNs : ℤ
  stateTimestampNs : ℤ
  commandTimestampNs : ℤ
  policyOverrunMs : PythonFloat
  allowHardwareTx : Bool
  hardwareConfigured : Bool
  leftAnkleCalibrated : Bool
  rightAnkleCalibrated : Bool
  headDifferentialCalibrated : Bool
  imuValid : Bool
  estopHealthy : Bool
  motorTelemetryHealthy : Bool := false
  commandEnvelopeHealthy : Bool := false

/-- The checks of `evaluate`, each with the fault that it finds. -/
inductive SafetyFault where
  | allowHardwareTx
  | hardwareConfigured
  | leftAnkleCalibrated
  | rightAnkleCalibrated
  | headDifferentialCalibrated
  | imuInvalid
  | estopUnhealthy
  | motorLimit
  | commandLimit
  | stateStale
  | commandStale
  | policyOverrun
  deriving DecidableEq

namespace SafetyFault

def all : List SafetyFault :=
  [allowHardwareTx, hardwareConfigured, leftAnkleCalibrated, rightAnkleCalibrated,
    headDifferentialCalibrated, imuInvalid, estopUnhealthy, motorLimit, commandLimit,
    stateStale, commandStale, policyOverrun]

instance : Fintype SafetyFault :=
  ⟨⟨all, by decide⟩, fun fault => by cases fault <;> decide⟩

def text : SafetyFault → String
  | allowHardwareTx => "allow_hardware_tx"
  | hardwareConfigured => "hardware_configured"
  | leftAnkleCalibrated => "left_ankle_calibrated"
  | rightAnkleCalibrated => "right_ankle_calibrated"
  | headDifferentialCalibrated => "head_differential_calibrated"
  | imuInvalid => "imu_invalid"
  | estopUnhealthy => "estop_unhealthy"
  | motorLimit => "motor_limit"
  | commandLimit => "command_limit"
  | stateStale => "state_stale"
  | commandStale => "command_stale"
  | policyOverrun => "policy_overrun"

/-- `_LATCHING_FAULTS`. -/
def latching : Finset SafetyFault :=
  {estopUnhealthy, stateStale, policyOverrun, motorLimit, commandLimit}

end SafetyFault

namespace SafetyInputs

variable (inputs : SafetyInputs)

/-- A timestamp is in the future. -/
def Future : Prop :=
  inputs.nowNs < inputs.stateTimestampNs ∨ inputs.nowNs < inputs.commandTimestampNs

instance : Decidable inputs.Future := inferInstanceAs (Decidable (_ ∨ _))

def stateAgeMs : ℚ := (inputs.nowNs - inputs.stateTimestampNs : ℤ) / 1000000

def commandAgeMs : ℚ := (inputs.nowNs - inputs.commandTimestampNs : ℤ) / 1000000

/-- The check that finds a fault passes. -/
def ready (limits : SafetyLimits) : SafetyFault → Bool
  | .allowHardwareTx => inputs.allowHardwareTx
  | .hardwareConfigured => inputs.hardwareConfigured
  | .leftAnkleCalibrated => inputs.leftAnkleCalibrated
  | .rightAnkleCalibrated => inputs.rightAnkleCalibrated
  | .headDifferentialCalibrated => inputs.headDifferentialCalibrated
  | .imuInvalid => inputs.imuValid
  | .estopUnhealthy => inputs.estopHealthy
  | .motorLimit => inputs.motorTelemetryHealthy
  | .commandLimit => inputs.commandEnvelopeHealthy
  | .stateStale => (PythonFloat.finite inputs.stateAgeMs).le limits.maximumStateAgeMs
  | .commandStale => (PythonFloat.finite inputs.commandAgeMs).le limits.maximumCommandAgeMs
  | .policyOverrun => inputs.policyOverrunMs.le limits.maximumPolicyOverrunMs

/-- `dynamic`, as a set. -/
def dynamic (limits : SafetyLimits) : Finset SafetyFault :=
  Finset.univ.filter fun fault => inputs.ready limits fault = false

end SafetyInputs

structure SafetyDecision where
  mode : RuntimeMode
  hardwareTxPermitted : Bool
  safeHoldRequired : Bool
  blockers : List String
  latchedFaults : List String
  stateAgeMs : ℚ
  commandAgeMs : ℚ

structure SafetySupervisor where
  mode : RuntimeMode
  limits : SafetyLimits
  latched : Finset SafetyFault := ∅

namespace SafetySupervisor

/-- `latched_faults`. -/
def latchedFaults (supervisor : SafetySupervisor) : List String :=
  (supervisor.latched.image SafetyFault.text).sort

/-- The faults that are named and may be cleared. -/
def cleared (healthyFaults : List String) : Finset SafetyFault :=
  SafetyFault.latching.filter fun fault => fault.text ∈ healthyFaults

/-- `clear_latched_faults`. -/
def clearLatchedFaults (healthyFaults : List String) : Program SafetySupervisor String Unit :=
  Program.modify fun supervisor =>
    { supervisor with latched := supervisor.latched \ cleared healthyFaults }

/-- The blockers of a decision. -/
def blockers (supervisor : SafetySupervisor) (inputs : SafetyInputs) : Finset String :=
  (inputs.dynamic supervisor.limits ∪ supervisor.latched).image SafetyFault.text ∪
    if supervisor.mode = .armed then ∅
    else {"mode_" ++ supervisor.mode.text ++ "_no_tx"}

/-- What `evaluate` returns once the faults are latched. -/
def decision (supervisor : SafetySupervisor) (inputs : SafetyInputs) : SafetyDecision :=
  let blockers := supervisor.blockers inputs
  let permitted := decide (supervisor.mode = .armed ∧ blockers = ∅)
  { mode := supervisor.mode
    hardwareTxPermitted := permitted
    safeHoldRequired := !permitted
    blockers := blockers.sort
    latchedFaults := supervisor.latchedFaults
    stateAgeMs := inputs.stateAgeMs
    commandAgeMs := inputs.commandAgeMs }

/-- `evaluate`. -/
def evaluate (inputs : SafetyInputs) : Program SafetySupervisor String SafetyDecision := do
  Program.throwIf inputs.Future "timestamps cannot be in the future"
  Program.modify fun supervisor =>
    { supervisor with
      latched := supervisor.latched ∪ (inputs.dynamic supervisor.limits ∩ SafetyFault.latching) }
  let supervisor ← Program.get
  return supervisor.decision inputs

/-! ## Sequences of calls -/

/-- A call of the supervisor. -/
inductive Call where
  | evaluate (inputs : SafetyInputs)
  | clear (healthyFaults : List String)

/-- The supervisor after a call; a call that raises leaves what it has done before. -/
def call (supervisor : SafetySupervisor) : Call → SafetySupervisor
  | .evaluate inputs => (SafetySupervisor.evaluate inputs supervisor).2
  | .clear healthyFaults => (clearLatchedFaults healthyFaults supervisor).2

def runCalls (supervisor : SafetySupervisor) (calls : List Call) : SafetySupervisor :=
  calls.foldl call supervisor

/-- The supervisor that the constructor makes. -/
def create (mode : RuntimeMode) (limits : SafetyLimits) : SafetySupervisor := { mode, limits }

namespace Call

/-- The latching faults that a call detects. -/
def detects (limits : SafetyLimits) : Call → Finset SafetyFault
  | evaluate inputs =>
      if inputs.Future then ∅ else inputs.dynamic limits ∩ SafetyFault.latching
  | clear _ => ∅

/-- The latching faults that a call clears. -/
def clears : Call → Finset SafetyFault
  | evaluate _ => ∅
  | clear healthyFaults => cleared healthyFaults

end Call

/-! ## What the calls leave -/

section Results

variable {supervisor : SafetySupervisor} {inputs : SafetyInputs}

/-- The supervisor after an evaluation that does not raise. -/
def afterEvaluate (supervisor : SafetySupervisor) (inputs : SafetyInputs) : SafetySupervisor :=
  { supervisor with
    latched := supervisor.latched ∪ (inputs.dynamic supervisor.limits ∩ SafetyFault.latching) }

theorem evaluate_future (future : inputs.Future) :
    evaluate inputs supervisor =
      (.thrown "timestamps cannot be in the future", supervisor) := by
  rw [evaluate, Program.throwIf, if_pos future]
  rfl

/-- The hardware may transmit when nothing blocks it. -/
theorem blockers_eq_empty : supervisor.mode = .armed ∧ supervisor.blockers inputs = ∅ ↔
    supervisor.mode = .armed ∧ inputs.dynamic supervisor.limits = ∅ ∧
      supervisor.latched = ∅ := by
  unfold blockers
  constructor
  · rintro ⟨armed, none⟩
    rw [Finset.union_eq_empty, Finset.image_eq_empty, Finset.union_eq_empty] at none
    exact ⟨armed, none.1⟩
  · rintro ⟨armed, none, unlatched⟩
    simp [armed, none, unlatched]

theorem dynamic_eq_empty {limits : SafetyLimits} :
    inputs.dynamic limits = ∅ ↔ ∀ fault, inputs.ready limits fault = true := by
  simp [SafetyInputs.dynamic, Finset.filter_eq_empty_iff]

theorem evaluate_present (present : ¬inputs.Future) :
    evaluate inputs supervisor =
      (.done ((supervisor.afterEvaluate inputs).decision inputs),
        supervisor.afterEvaluate inputs) := by
  rw [evaluate, Program.throwIf, if_neg present]
  rfl

theorem permitted_iff : (supervisor.decision inputs).hardwareTxPermitted = true ↔
    supervisor.mode = .armed ∧ (∀ fault, inputs.ready supervisor.limits fault = true) ∧
      supervisor.latched = ∅ := by
  rw [decision, decide_eq_true_eq, blockers_eq_empty, dynamic_eq_empty]

/-- A call takes away the faults that it clears and adds those that it detects. -/
theorem latched_call (call : Call) :
    (supervisor.call call).latched =
      supervisor.latched \ call.clears ∪ call.detects supervisor.limits ∧
    (supervisor.call call).limits = supervisor.limits := by
  cases call with
  | clear healthyFaults =>
      constructor
      · exact (Finset.union_empty _).symm
      · rfl
  | evaluate inputs =>
      by_cases future : inputs.Future
      · simp [SafetySupervisor.call, evaluate_future future, Call.clears, Call.detects, future]
      · simp [SafetySupervisor.call, evaluate_present future, Call.clears, Call.detects, future,
          afterEvaluate]

theorem latched_runCalls (calls : List Call) :
    (supervisor.runCalls calls).latched =
      Foundation.latched (Call.detects supervisor.limits) Call.clears supervisor.latched calls ∧
    (supervisor.runCalls calls).limits = supervisor.limits := by
  induction calls generalizing supervisor with
  | nil => exact ⟨rfl, rfl⟩
  | cons call calls induction =>
      obtain ⟨faults, limits⟩ := @latched_call supervisor call
      obtain ⟨rest, same⟩ := @induction (supervisor.call call)
      rw [faults, limits] at rest
      rw [limits] at same
      exact ⟨rest, same⟩

theorem mode_runCalls (calls : List Call) : (supervisor.runCalls calls).mode = supervisor.mode := by
  induction calls generalizing supervisor with
  | nil => rfl
  | cons call calls induction =>
      have kept : (supervisor.call call).mode = supervisor.mode := by
        cases call with
        | clear healthyFaults => rfl
        | evaluate inputs =>
            by_cases future : inputs.Future
            · simp [SafetySupervisor.call, evaluate_future future]
            · simp [SafetySupervisor.call, evaluate_present future, afterEvaluate]
      exact (@induction (supervisor.call call)).trans kept

theorem mem_detects {limits : SafetyLimits} {call : Call} {fault : SafetyFault} :
    fault ∈ call.detects limits ↔ fault ∈ SafetyFault.latching ∧ ∃ inputs,
      call = .evaluate inputs ∧ ¬inputs.Future ∧ inputs.ready limits fault = false := by
  cases call with
  | clear healthyFaults => simp [Call.detects]
  | evaluate inputs =>
      by_cases future : inputs.Future
      · simp [Call.detects, future]
      · simp [Call.detects, future, SafetyInputs.dynamic, and_comm]

theorem mem_clears {call : Call} {fault : SafetyFault} (latches : fault ∈ SafetyFault.latching) :
    fault ∈ call.clears ↔ ∃ names, call = .clear names ∧ fault.text ∈ names := by
  cases call with
  | clear healthyFaults => simp [Call.clears, cleared, latches]
  | evaluate inputs => simp [Call.clears]

/-- What is latched after a sequence of calls. -/
theorem mem_latched_runCalls {mode : RuntimeMode} {limits : SafetyLimits} {calls : List Call}
    {fault : SafetyFault} : fault ∈ ((create mode limits).runCalls calls).latched ↔
      fault ∈ SafetyFault.latching ∧ ∃ before inputs after,
        calls = before ++ .evaluate inputs :: after ∧ ¬inputs.Future ∧
          inputs.ready limits fault = false ∧
          ∀ names, .clear names ∈ after → fault.text ∉ names := by
  rw [(latched_runCalls _).1, mem_latched]
  have empty : (create mode limits).latched = ∅ := rfl
  have same : (create mode limits).limits = limits := rfl
  rw [empty, same]
  constructor
  · rintro (⟨none, _⟩ | ⟨before, call, after, split, detected, kept⟩)
    · simp at none
    · obtain ⟨latches, inputs, rfl, present, failed⟩ := mem_detects.mp detected
      refine ⟨latches, before, inputs, after, split, present, failed, ?_⟩
      intro names member named
      exact kept _ member ((mem_clears latches).mpr ⟨names, rfl, named⟩)
  · rintro ⟨latches, before, inputs, after, split, present, failed, kept⟩
    refine .inr ⟨before, _, after, split, mem_detects.mpr ⟨latches, inputs, rfl, present, failed⟩, ?_⟩
    intro call member cleared
    obtain ⟨names, rfl, named⟩ := (mem_clears latches).mp cleared
    exact kept names member named

/-- Evaluations alone take no fault away. -/
theorem latched_subset_of_evaluate (evaluations : List SafetyInputs) :
    supervisor.latched ⊆ (supervisor.runCalls (evaluations.map .evaluate)).latched := by
  intro fault member
  rw [(latched_runCalls _).1, mem_latched]
  refine .inl ⟨member, ?_⟩
  intro call inCalls
  obtain ⟨inputs, _, rfl⟩ := List.mem_map.mp inCalls
  simp [Call.clears]

end Results

/-- The law of the latch, over all sequences of calls. -/
theorem latch_law (mode : RuntimeMode) (limits : SafetyLimits) (calls : List Call) :
    (∀ fault, fault ∈ ((create mode limits).runCalls calls).latched ↔
      fault ∈ SafetyFault.latching ∧ ∃ before inputs after,
        calls = before ++ .evaluate inputs :: after ∧ ¬inputs.Future ∧
          inputs.ready limits fault = false ∧
          ∀ names, .clear names ∈ after → fault.text ∉ names) ∧
    (∀ inputs, ¬inputs.Future → ∃ decision final,
      evaluate inputs ((create mode limits).runCalls calls) = (.done decision, final) ∧
      (decision.hardwareTxPermitted = true ↔ mode = .armed ∧
        (∀ fault, inputs.ready limits fault = true) ∧ final.latched = ∅) ∧
      decision.safeHoldRequired = !decision.hardwareTxPermitted) ∧
    (∀ inputs, inputs.Future → evaluate inputs ((create mode limits).runCalls calls) =
      (.thrown "timestamps cannot be in the future", (create mode limits).runCalls calls)) ∧
    ∀ evaluations : List SafetyInputs, ((create mode limits).runCalls calls).latched ⊆
      (((create mode limits).runCalls calls).runCalls (evaluations.map .evaluate)).latched := by
  refine ⟨fun fault => mem_latched_runCalls, ?_, fun inputs => evaluate_future,
    latched_subset_of_evaluate⟩
  intro inputs present
  refine ⟨_, _, evaluate_present present, ?_, rfl⟩
  rw [permitted_iff, afterEvaluate, mode_runCalls, (latched_runCalls calls).2]
  rfl

/-- Inputs on which all checks pass. -/
def healthyInputs : SafetyInputs :=
  { nowNs := 1000000000
    stateTimestampNs := 998000000
    commandTimestampNs := 980000000
    policyOverrunMs := .finite (1 / 5)
    allowHardwareTx := true
    hardwareConfigured := true
    leftAnkleCalibrated := true
    rightAnkleCalibrated := true
    headDifferentialCalibrated := true
    imuValid := true
    estopHealthy := true
    motorTelemetryHealthy := true
    commandEnvelopeHealthy := true }

theorem latch_law_healthy : ∃ decision final,
    evaluate healthyInputs ((create .armed {}).runCalls []) = (.done decision, final) ∧
      (decision.hardwareTxPermitted = true ↔ RuntimeMode.armed = .armed ∧
        (∀ fault, healthyInputs.ready {} fault = true) ∧ final.latched = ∅) ∧
      decision.safeHoldRequired = !decision.hardwareTxPermitted :=
  (latch_law .armed {} []).2.1 healthyInputs (by decide)

end SafetySupervisor

end SpriteRuntime
