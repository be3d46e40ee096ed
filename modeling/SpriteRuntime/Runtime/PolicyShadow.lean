import Mathlib.Algebra.Order.Round
import SpriteRuntime.Native.PolicyCore
import SpriteRuntime.Runtime.TargetProjection

/-!
# The policy tick of the Python side

`PolicyObservationHistory` keeps a bounded queue of frames for each term of the
observation, `MeasuredPoseActionHandoff` blends from the measured pose to the actions of
the network, and `LivePolicyShadow` runs the two once a tick.
-/

namespace SpriteRuntime

open Foundation

/-- The difference of two numbers, if both are finite. -/
def Double.minus : Double → Double → Double
  | .finite left, .finite right => .finite (left - right)
  | _, _ => .nonfinite

/-- `round`: to the nearest integer, from the middle to the even one. -/
def pyRound (value : ℚ) : ℤ :=
  let rest := value - ⌊value⌋
  if rest < 1 / 2 then ⌊value⌋
  else if 1 / 2 < rest then ⌊value⌋ + 1
  else if ⌊value⌋ % 2 = 0 then ⌊value⌋ else ⌊value⌋ + 1

/-- What the policy tick takes from a contract; `policyHz` is the property of that name. -/
structure PolicyContract where
  defaultJointPos : Index → Double
  actionOffset : Index → Double
  actionScale : Index → Double
  observationTerms : List (String × ℕ)
  actorObservationDim : ℕ
  policyHz : ℤ
  deploymentHandoffMode : Option String
  deploymentInitialVelocityMode : Option String
  deploymentHandoffSeconds : Option Double

section History

def HistoryTerm.name : HistoryTerm → String
  | jointPos => "joint_pos"
  | jointVel => "joint_vel"
  | actions => "actions"
  | baseAngVel => "base_ang_vel"
  | projectedGravity => "projected_gravity"

structure PolicyObservationHistory where
  defaultJointPos : Index → Double
  maxlen : HistoryTerm → ℕ
  actorObservationDim : ℕ
  history : HistoryTerm → List (List ℚ) := fun _ => []

namespace PolicyObservationHistory

/-- `self._terms[name]["history_length"]`. -/
def historyLength (contract : PolicyContract) (term : HistoryTerm) : Except String ℕ :=
  match contract.observationTerms.reverse.lookup term.name with
  | some length => .ok length
  | none => .error ("'" ++ term.name ++ "'")

/-- `__init__`. -/
def make (contract : PolicyContract) : Except String PolicyObservationHistory := do
  let jointPos ← historyLength contract .jointPos
  let jointVel ← historyLength contract .jointVel
  let actions ← historyLength contract .actions
  let baseAngVel ← historyLength contract .baseAngVel
  let projectedGravity ← historyLength contract .projectedGravity
  return {
    defaultJointPos := contract.defaultJointPos
    actorObservationDim := contract.actorObservationDim
    maxlen := fun
      | .jointPos => jointPos
      | .jointVel => jointVel
      | .actions => actions
      | .baseAngVel => baseAngVel
      | .projectedGravity => projectedGravity }

/-- The frame of a term, `np.isfinite` checked. -/
def checkedFrame {width : ℕ} (term : HistoryTerm) (value : Fin width → Double) :
    Except String (List ℚ) := do
  let values ← finiteArray (term.name ++ " must be a finite " ++ toString width ++ "-vector") value
  return List.ofFn values

variable (history : PolicyObservationHistory)

/-- `_frame_values`. -/
def frameValues (input : PolicyInput Double) (previousAction : Index → ℚ) :
    Except String (HistoryTerm → List ℚ) := do
  let jointPos ← checkedFrame .jointPos fun joint =>
    Double.minus (input.jointPosition joint) (history.defaultJointPos joint)
  let jointVel ← checkedFrame .jointVel input.jointVelocity
  let actions ← checkedFrame .actions fun joint => .finite (previousAction joint)
  let baseAngVel ← checkedFrame .baseAngVel input.angularVelocity
  let projectedGravity ← checkedFrame .projectedGravity input.projectedGravity
  return fun
    | .jointPos => jointPos
    | .jointVel => jointVel
    | .actions => actions
    | .baseAngVel => baseAngVel
    | .projectedGravity => projectedGravity

/-- The queues with one more frame each; the first frame fills its queue. -/
def extended (values : HistoryTerm → List ℚ) : PolicyObservationHistory :=
  { history with
    history := fun term =>
      if history.history term = [] then List.replicate (history.maxlen term) (values term)
      else pushBounded (history.maxlen term) (history.history term) (values term) }

/-- `append`. -/
def append (input : PolicyInput Double) (previousAction : Index → ℚ) :
    Program PolicyObservationHistory String Unit := do
  let history ← Program.get
  let values ← Program.ofExcept (history.frameValues input previousAction)
  Program.modify fun history => history.extended values

/-- The observation that `observation` assembles. -/
def assembled (command : Fin 3 → ℚ) : List ℚ :=
  (HistoryTerm.all.flatMap fun term => (history.history term).flatten) ++ List.ofFn command

/-- `observation`. -/
def observation (command : Fin 3 → Double) : Program PolicyObservationHistory String (List ℚ) := do
  let command ← Program.ofExcept
    (finiteArray "velocity command must be a finite [vx, vy, yaw_rate] vector" command)
  let history ← Program.get
  Program.throwIf (∃ term ∈ HistoryTerm.all, history.history term = [])
    "observation history is not initialized"
  Program.throwIf ((history.assembled command).length ≠ history.actorObservationDim)
    ("assembled observation has shape (" ++ toString (history.assembled command).length ++
      ",), expected " ++ toString history.actorObservationDim)
  return history.assembled command

end PolicyObservationHistory

end History

section Handoff

structure MeasuredPoseActionHandoff where
  offset : Index → ℚ
  scale : Index → ℚ
  totalSteps : ℕ
  completedSteps : ℕ := 0
  initialAction : Option (Index → ℚ) := none

namespace MeasuredPoseActionHandoff

/-- `__init__`; the message about the mode also shows the mode. -/
def make (contract : PolicyContract) : Except String MeasuredPoseActionHandoff := do
  raiseIf (contract.deploymentHandoffMode ≠ some "smoothstep_from_pose_equivalent_action")
    "unsupported deployment handoff mode"
  raiseIf (contract.deploymentInitialVelocityMode ≠ some "zero")
    "deployment initial velocity mode must be zero"
  let seconds := contract.deploymentHandoffSeconds.getD .nonfinite
  raiseIf (¬seconds.isFinite = true ∨ seconds.value < 0)
    "deployment_handoff_seconds must be finite and non-negative"
  let offset ← jointVector contract.actionOffset "action_offset"
  let scale ← jointVector contract.actionScale "action_scale"
  raiseIf (∃ joint, |scale joint| ≤ 1 / 1000000000000)
    "action_scale values must be non-zero for measured-pose handoff"
  return { offset, scale, totalSteps := (pyRound (seconds.value * contract.policyHz)).toNat }

variable (handoff : MeasuredPoseActionHandoff)

def complete : Bool := handoff.totalSteps ≤ handoff.completedSteps

def progress : ℚ :=
  if handoff.totalSteps = 0 then 1
  else smoothstep (min 1 ((handoff.completedSteps : ℚ) / handoff.totalSteps))

/-- The first call captures the action that would hold the measured pose. -/
def capture (measured : Index → ℚ) : MeasuredPoseActionHandoff :=
  { handoff with
    initialAction := handoff.initialAction.or
      (some fun joint => (measured joint - handoff.offset joint) / handoff.scale joint) }

def advance : MeasuredPoseActionHandoff :=
  { handoff with completedSteps := handoff.completedSteps + 1 }

/-- `blend`. -/
def blend (policyAction measuredJointPosition : Index → Double) :
    Program MeasuredPoseActionHandoff String (Index → ℚ) := do
  let action ← Program.ofExcept (jointVector policyAction "policy_action")
  let measured ← Program.ofExcept (jointVector measuredJointPosition "measured_joint_position")
  Program.modify fun handoff => handoff.capture measured
  let handoff ← Program.get
  if handoff.totalSteps = 0 ∨ handoff.complete = true then
    return action
  else
    Program.modify advance
    let handoff ← Program.get
    let weight := handoff.progress
    return fun joint =>
      (1 - weight) * (handoff.initialAction.getD action) joint + weight * action joint

end MeasuredPoseActionHandoff

end Handoff

structure LivePolicyShadow where
  history : PolicyObservationHistory
  handoff : MeasuredPoseActionHandoff
  actionOffset : Index → ℚ
  actionScale : Index → ℚ
  previousAction : Index → ℚ := fun _ => 0

/-- What a tick of the policy shows. -/
structure PolicyTick where
  observation : List ℚ
  action : Index → ℚ
  target : Index → ℚ

namespace LivePolicyShadow

/-- `__init__`. -/
def make (contract : PolicyContract) : Except String LivePolicyShadow := do
  let history ← PolicyObservationHistory.make contract
  let handoff ← MeasuredPoseActionHandoff.make contract
  return { history, handoff
           actionOffset := fun joint => (contract.actionOffset joint).value
           actionScale := fun joint => (contract.actionScale joint).value }

/-- `_run_policy`, with the sensing of the tick and the action of the network. -/
def runPolicy (input : PolicyInput Double) (rawAction : Index → Double) :
    Program LivePolicyShadow String PolicyTick := do
  let shadow ← Program.get
  Program.zoom history (fun history shadow => { shadow with history })
    (PolicyObservationHistory.append input shadow.previousAction)
  let observation ← Program.zoom history (fun history shadow => { shadow with history })
    (PolicyObservationHistory.observation input.command)
  let action ← Program.zoom handoff (fun handoff shadow => { shadow with handoff })
    (MeasuredPoseActionHandoff.blend rawAction input.jointPosition)
  let target := fun joint => shadow.actionOffset joint + shadow.actionScale joint * action joint
  Program.modify fun shadow => { shadow with previousAction := action }
  return { observation, action, target }

end LivePolicyShadow

end SpriteRuntime
