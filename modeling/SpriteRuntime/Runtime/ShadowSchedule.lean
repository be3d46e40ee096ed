import SpriteRuntime.Foundation.CatchUp
import SpriteRuntime.Runtime.DamiaoFeedback
import SpriteRuntime.Runtime.MultiRateControl
import SpriteRuntime.Runtime.PolicyShadow
import SpriteRuntime.Runtime.YahboomImu

/-!
# The schedule of the live shadow

The shadow runs the controller every 2 ms and the policy on every tenth tick.  It is called
whenever its owner has time, and catches up with at most twenty ticks a call.
-/

namespace SpriteRuntime

open Foundation

/-- What the shadow has from its contract and inventory, and what it calls.  The network and the
statistics are functions, and so is the transform of the IMU sample, whose square roots are not
rational. -/
structure ShadowSetup where
  policy : LivePolicyShadow
  mapping : SpriteMotorMap ℚ
  effortLimit : Index → ℚ
  positive : ∀ joint, 0 < effortLimit joint
  stiffness : Index → ℚ
  damping : Index → ℚ
  embeddedKdMax : ℚ
  command : Fin 3 → Double
  transformPelvisSample : (Fin 9 → ℤ) → (Fin 4 → ℕ) → ℤ →
    Except String ((Fin 3 → Double) × (Fin 3 → Double))
  actor : List ℚ → Except String (Index → Double)
  auditCommandFrame : MultiRateCommandFrame → Dictionary MotorReading → Except String Unit

/-- A run of the policy, and the time it is stamped with. -/
structure PolicyInference where
  stampNs : ℤ
  target : {target : ImpedanceTarget ℚ // target.GainsNonneg}

/-- A state tick that went through. -/
structure ShadowTick where
  deadlineNs : ℤ
  nowNs : ℤ
  inference : Option PolicyInference
  measured : Dictionary MotorReading
  frame : MultiRateCommandFrame

/-- What a call of `tick` has done. -/
structure ShadowCall where
  nowNs : ℤ
  ready : Bool
  ticks : List ShadowTick
  raised : Bool
  behind : Bool

/-- A call of a shadow that is not ready. -/
def ShadowCall.skipped (nowNs : ℤ) : ShadowCall :=
  { nowNs, ready := false, ticks := [], raised := false, behind := false }

/-- The state of `LivePolicyShadow` around its policy. -/
structure LiveShadow where
  policy : LivePolicyShadow
  controller : SpriteMultiRateController
  motorStates : Dictionary MotorReading := []
  latestRawImu : Option (Fin 9 → ℤ) := none
  latestQuaternion : Option (Fin 4 → ℕ) := none
  nextStateTickNs : Option ℤ := none
  policyTicks : ℕ := 0
  stateTicks : ℕ := 0
  stateLatenessMs : List ℚ := []
  stateDeadlineMisses : ℕ := 0
  errors : List String := []

namespace LiveShadow

/-- `update_feedback`. -/
def updateFeedback (feedback : DamiaoFeedback) (shadow : LiveShadow) : LiveShadow :=
  { shadow with
    motorStates := shadow.motorStates ++
      [(feedback.motorName, ⟨feedback.positionRad, feedback.velocityRadS⟩)] }

/-- `update_imu`. -/
def updateImu (packet : YahboomPacket) (shadow : LiveShadow) : LiveShadow :=
  match packet with
  | .rawImu counts => { shadow with latestRawImu := some counts }
  | .quaternion wxyz => { shadow with latestQuaternion := some wxyz }
  | .euler _ => shadow

/-- A tick is due. -/
def Due (nowNs : ℤ) (shadow : LiveShadow) : Prop :=
  ∃ deadline ∈ shadow.nextStateTickNs, deadline ≤ nowNs

instance (nowNs : ℤ) (shadow : LiveShadow) : Decidable (shadow.Due nowNs) :=
  match h : shadow.nextStateTickNs with
  | none => isFalse (by simp [Due, h])
  | some deadline => decidable_of_iff (deadline ≤ nowNs) (by simp [Due, h])

/-- The lateness of the tick that is due. -/
def arrive (nowNs : ℤ) (shadow : LiveShadow) : LiveShadow :=
  let latenessMs : ℚ := (nowNs - shadow.nextStateTickNs.getD nowNs : ℤ) / 1000000
  { shadow with
    stateLatenessMs := shadow.stateLatenessMs ++ [latenessMs]
    stateDeadlineMisses := shadow.stateDeadlineMisses + if 2 < latenessMs then 1 else 0 }

def advance (shadow : LiveShadow) : LiveShadow :=
  { shadow with
    stateTicks := shadow.stateTicks + 1
    nextStateTickNs := shadow.nextStateTickNs.map (· + 2000000) }

def fail (error : String) (shadow : LiveShadow) : LiveShadow :=
  { shadow with errors := shadow.errors ++ [error] }

/-- The first ready call sets the deadline of the first tick. -/
def start (nowNs : ℤ) (shadow : LiveShadow) : LiveShadow :=
  { shadow with nextStateTickNs := shadow.nextStateTickNs.or (some nowNs) }

end LiveShadow

/-- `self.actor.run` in its place within `_run_policy`, up to the target. -/
def LivePolicyShadow.runActor (actor : List ℚ → Except String (Index → Double))
    (input : PolicyInput Double) : Program LivePolicyShadow String PolicyTick := do
  let shadow ← Program.get
  Program.zoom history (fun history shadow => { shadow with history })
    (PolicyObservationHistory.append input shadow.previousAction)
  let observation ← Program.zoom history (fun history shadow => { shadow with history })
    (PolicyObservationHistory.observation input.command)
  let rawAction ← Program.ofExcept (actor observation)
  let action ← Program.zoom handoff (fun handoff shadow => { shadow with handoff })
    (MeasuredPoseActionHandoff.blend rawAction input.jointPosition)
  let target := fun joint => shadow.actionOffset joint + shadow.actionScale joint * action joint
  return { observation, action, target }

namespace ShadowSetup

variable (setup : ShadowSetup)

/-- The controller before its first target. -/
def controller : SpriteMultiRateController :=
  { mapping := setup.mapping
    jointEffortLimitNm := setup.effortLimit
    positive := setup.positive }

/-- The shadow after `__init__`. -/
def initial : LiveShadow := { policy := setup.policy, controller := setup.controller }

/-- `ready`. -/
def ready (shadow : LiveShadow) : Bool :=
  decide (SpriteMotorMap.Covers setup.mapping.physicalMotorNames shadow.motorStates) &&
    shadow.latestRawImu.isSome && shadow.latestQuaternion.isSome

/-- `_joint_and_imu_state`; the assertion holds once the shadow is ready. -/
def jointAndImuState (nowNs : ℤ) (shadow : LiveShadow) : Except String (PolicyInput Double) := do
  let position ← setup.mapping.motorToJoint .position (shadow.motorStates.mapValues (·.position))
  let velocity ← setup.mapping.motorToJoint .velocity (shadow.motorStates.mapValues (·.velocity))
  match shadow.latestRawImu, shadow.latestQuaternion with
  | some raw, some quaternion => do
      let (angularVelocity, projectedGravity) ←
        setup.transformPelvisSample raw quaternion nowNs
      return { jointPosition := fun joint => .finite (position joint)
               jointVelocity := fun joint => .finite (velocity joint)
               angularVelocity
               projectedGravity
               command := setup.command }
  | _, _ => throw ""

/-- The target that the controller is given. -/
def impedanceTarget (position : Index → ℚ) : ImpedanceTarget ℚ :=
  { position
    velocity := fun _ => 0
    kp := setup.stiffness
    kd := fun joint => min (setup.damping joint) setup.embeddedKdMax
    feedforward := fun _ => 0 }

/-- `JointImpedanceTarget(...)`, with what its constructor has checked. -/
def checkedTarget (raw : ImpedanceTarget Double) :
    Except String {target : ImpedanceTarget ℚ // target.GainsNonneg} :=
  match made : JointImpedanceTarget.make raw with
  | .ok target => .ok ⟨target, (JointImpedanceTarget.make_eq_ok.mp made).2⟩
  | .error error => .error error

/-- `_run_policy`. -/
def runPolicy (nowNs : ℤ) : Program LiveShadow String PolicyInference := do
  let shadow ← Program.get
  let input ← Program.ofExcept (setup.jointAndImuState nowNs shadow)
  let tick ← Program.zoom LiveShadow.policy (fun policy shadow => { shadow with policy })
    (LivePolicyShadow.runActor setup.actor input)
  let target ← Program.ofExcept (checkedTarget (setup.impedanceTarget tick.target).doubles)
  Program.modify fun shadow => { shadow with
    controller := shadow.controller.latchPolicyTarget target
    policy := { shadow.policy with previousAction := tick.action }
    policyTicks := shadow.policyTicks + 1 }
  return { stampNs := nowNs, target }

/-- The policy on every tenth tick. -/
def inferWhenDue (deadlineNs : ℤ) : Program LiveShadow String (Option PolicyInference) := do
  let shadow ← Program.get
  if shadow.stateTicks % 10 = 0 then
    let inference ← setup.runPolicy deadlineNs
    return some inference
  else return none

/-- What `tick` tries for a tick that is due. -/
def stateTick (nowNs : ℤ) : Program LiveShadow String ShadowTick := do
  let shadow ← Program.get
  let deadlineNs := shadow.nextStateTickNs.getD nowNs
  let inference ← setup.inferWhenDue deadlineNs
  let frame ← Program.zoom LiveShadow.controller
    (fun controller shadow => { shadow with controller })
    (SpriteMultiRateController.step shadow.motorStates)
  Program.ofExcept (setup.auditCommandFrame frame shadow.motorStates)
  return { deadlineNs, nowNs, inference, measured := shadow.motorStates, frame }

/-- The loop of `tick`. -/
def catchUp (nowNs : ℤ) : Program LiveShadow String (Program.Caught ShadowTick) :=
  Program.catchUp (LiveShadow.Due nowNs) (LiveShadow.arrive nowNs) LiveShadow.advance
    LiveShadow.fail (setup.stateTick nowNs) 20

/-- The text of the error about ticks that are left. -/
def behindText : String := "500 Hz shadow calculation fell more than 20 ticks behind"

/-- `tick`. -/
def tick (nowNs : ℤ) : Program LiveShadow String ShadowCall := do
  let shadow ← Program.get
  if setup.ready shadow = true then
    Program.modify (LiveShadow.start nowNs)
    let caught ← setup.catchUp nowNs
    let shadow ← Program.get
    let behind := decide (caught.raised = false ∧ caught.items.length = 20 ∧ shadow.Due nowNs)
    Program.modify fun shadow => if behind then shadow.fail behindText else shadow
    return { nowNs, ready := true, ticks := caught.items, raised := caught.raised, behind }
  else return .skipped nowNs

end ShadowSetup

/-- What happens to a shadow. -/
inductive ShadowEvent where
  | feedback (feedback : DamiaoFeedback)
  | imu (packet : YahboomPacket)
  | tick (nowNs : ℤ)

namespace ShadowSetup

variable (setup : ShadowSetup)

def handle : ShadowEvent → Program LiveShadow String (List ShadowCall)
  | .feedback feedback => do
      Program.modify (LiveShadow.updateFeedback feedback)
      return []
  | .imu packet => do
      Program.modify (LiveShadow.updateImu packet)
      return []
  | .tick nowNs => do
      let call ← setup.tick nowNs
      return [call]

/-- The calls of `tick` while the events happen. -/
def run : List ShadowEvent → Program LiveShadow String (List ShadowCall)
  | [] => pure []
  | event :: rest => do
      let call ← setup.handle event
      let calls ← run rest
      return call ++ calls

end ShadowSetup

/-! ## The programs return or raise -/

section Finishes

open Program

theorem finishes_ofExcept {σ ε α : Type} {result : Except ε α} :
    Finishes (ofExcept result : Program σ ε α) := by
  cases result with
  | ok value => exact Finishes.pure value
  | error error => exact Finishes.throw error

theorem finishes_append {input : PolicyInput Double} {previousAction : Index → ℚ} :
    Finishes (PolicyObservationHistory.append input previousAction) := by
  apply Finishes.bind Finishes.get
  intro history
  apply Finishes.bind finishes_ofExcept
  intro values
  exact Finishes.modify _

theorem finishes_observation {command : Fin 3 → Double} :
    Finishes (PolicyObservationHistory.observation command) := by
  apply Finishes.bind finishes_ofExcept
  intro command
  apply Finishes.bind Finishes.get
  intro history
  apply Finishes.bind (Finishes.throwIf _)
  intro _
  apply Finishes.bind (Finishes.throwIf _)
  intro _
  exact Finishes.pure _

theorem finishes_blend {policyAction measuredJointPosition : Index → Double} :
    Finishes (MeasuredPoseActionHandoff.blend policyAction measuredJointPosition) := by
  apply Finishes.bind finishes_ofExcept
  intro action
  apply Finishes.bind finishes_ofExcept
  intro measured
  apply Finishes.bind (Finishes.modify _)
  intro _
  apply Finishes.bind Finishes.get
  intro handoff
  split
  · exact Finishes.pure _
  · apply Finishes.bind (Finishes.modify _)
    intro _
    apply Finishes.bind Finishes.get
    intro handoff
    exact Finishes.pure _

theorem finishes_runActor {actor : List ℚ → Except String (Index → Double)}
    {input : PolicyInput Double} : Finishes (LivePolicyShadow.runActor actor input) := by
  apply Finishes.bind Finishes.get
  intro shadow
  apply Finishes.bind (Finishes.zoom finishes_append)
  intro _
  apply Finishes.bind (Finishes.zoom finishes_observation)
  intro observation
  apply Finishes.bind finishes_ofExcept
  intro rawAction
  apply Finishes.bind (Finishes.zoom finishes_blend)
  intro action
  exact Finishes.pure _

theorem finishes_step {measured : Dictionary MotorReading} :
    Finishes (SpriteMultiRateController.step measured) := by
  apply Finishes.bind Finishes.get
  intro controller
  cases controller.target with
  | none => exact Finishes.throw _
  | some target =>
      apply Finishes.bind finishes_ofExcept
      intro frame
      apply Finishes.bind (Finishes.modify _)
      intro _
      exact Finishes.pure _

variable {setup : ShadowSetup} {nowNs : ℤ}

theorem finishes_runPolicy : Finishes (setup.runPolicy nowNs) := by
  apply Finishes.bind Finishes.get
  intro shadow
  apply Finishes.bind finishes_ofExcept
  intro input
  apply Finishes.bind (Finishes.zoom finishes_runActor)
  intro tick
  apply Finishes.bind finishes_ofExcept
  intro target
  apply Finishes.bind (Finishes.modify _)
  intro _
  exact Finishes.pure _

theorem finishes_stateTick : Finishes (setup.stateTick nowNs) := by
  apply Finishes.bind Finishes.get
  intro shadow
  apply Finishes.bind
  · apply Finishes.bind Finishes.get
    intro shadow
    split
    · apply Finishes.bind finishes_runPolicy
      intro inference
      exact Finishes.pure _
    · exact Finishes.pure _
  · intro inference
    apply Finishes.bind (Finishes.zoom finishes_step)
    intro frame
    apply Finishes.bind finishes_ofExcept
    intro _
    exact Finishes.pure _

end Finishes

/-! ## What a tick does -/

section Effects

open Program

variable {setup : ShadowSetup} {shadow final : LiveShadow} {nowNs : ℤ}

theorem step_eq_done {controller after : SpriteMultiRateController}
    {measured : Dictionary MotorReading} {frame : MultiRateCommandFrame}
    (ran : SpriteMultiRateController.step measured controller = (.done frame, after)) :
    ∃ target, controller.target = some target ∧
      controller.frame target.1 measured = .ok frame ∧
      after = { controller with stateTick := controller.stateTick + 1 } := by
  rw [SpriteMultiRateController.step, bind_apply_done (get_apply controller)] at ran
  cases latched : controller.target with
  | none =>
      rw [latched] at ran
      cases ran
  | some target =>
      rw [latched] at ran
      obtain ⟨value, middle, framed, counted⟩ := bind_eq_done ran
      obtain ⟨ok, rfl⟩ := ofExcept_eq_done_iff.mp framed
      cases counted
      refine ⟨target, rfl, ok, ?_⟩
      rw [← latched]

/-- A run of the policy latches its target and is counted. -/
theorem runPolicy_eq_done {inference : PolicyInference}
    (ran : setup.runPolicy nowNs shadow = (.done inference, final)) :
    inference.stampNs = nowNs ∧ ∃ policy, final = { shadow with
      policy
      controller := shadow.controller.latchPolicyTarget inference.target
      policyTicks := shadow.policyTicks + 1 } := by
  rw [ShadowSetup.runPolicy, bind_apply_done (get_apply shadow)] at ran
  obtain ⟨input, middle, sensed, acting⟩ := bind_eq_done ran
  obtain ⟨-, rfl⟩ := ofExcept_eq_done_iff.mp sensed
  obtain ⟨tick, reached, acted, latching⟩ := bind_eq_done acting
  obtain ⟨policy, -, rfl⟩ := zoom_eq_done_iff.mp acted
  obtain ⟨target, checked, made, returned⟩ := bind_eq_done latching
  obtain ⟨-, rfl⟩ := ofExcept_eq_done_iff.mp made
  cases returned
  exact ⟨rfl, _, rfl⟩

theorem inferWhenDue_eq_done {inference : Option PolicyInference}
    (ran : setup.inferWhenDue nowNs shadow = (.done inference, final)) :
    (inference.isSome ↔ shadow.stateTicks % 10 = 0) ∧
      (∀ run ∈ inference, run.stampNs = nowNs) ∧ ∃ policy, final = { shadow with
        policy
        controller := { shadow.controller with
          target := (inference.map (·.target)).or shadow.controller.target }
        policyTicks := shadow.policyTicks + inference.toList.length } := by
  rw [ShadowSetup.inferWhenDue, bind_apply_done (get_apply shadow)] at ran
  split at ran
  · rename_i turn
    obtain ⟨run, middle, inferred, returned⟩ := bind_eq_done ran
    obtain ⟨stamp, policy, rfl⟩ := runPolicy_eq_done inferred
    cases returned
    refine ⟨by simp [turn], ?_, policy, rfl⟩
    intro other same
    cases same
    exact stamp
  · rename_i turn
    cases ran
    refine ⟨by simp [turn], ?_, shadow.policy, rfl⟩
    intro other same
    cases same

/-- A tick that goes through. -/
structure TickEffect (setup : ShadowSetup) (shadow : LiveShadow) (nowNs : ℤ) (tick : ShadowTick)
    (final : LiveShadow) : Prop where
  deadline : tick.deadlineNs = shadow.nextStateTickNs.getD nowNs
  now : tick.nowNs = nowNs
  turn : tick.inference.isSome ↔ shadow.stateTicks % 10 = 0
  stamp : ∀ inference ∈ tick.inference, inference.stampNs = tick.deadlineNs
  effect : ∃ policy target,
    (tick.inference.map (·.target)).or shadow.controller.target = some target ∧
      shadow.controller.frame target.1 tick.measured = .ok tick.frame ∧
      final = { shadow with
        policy
        controller := { shadow.controller with
          target := some target
          stateTick := shadow.controller.stateTick + 1 }
        policyTicks := shadow.policyTicks + tick.inference.toList.length }

theorem stateTick_eq_done {tick : ShadowTick}
    (ran : setup.stateTick nowNs shadow = (.done tick, final)) :
    TickEffect setup shadow nowNs tick final := by
  rw [ShadowSetup.stateTick, bind_apply_done (get_apply shadow)] at ran
  obtain ⟨inference, inferring, inferred, stepping⟩ := bind_eq_done ran
  obtain ⟨turn, stamp, policy, rfl⟩ := inferWhenDue_eq_done inferred
  obtain ⟨frame, reached, stepped, auditing⟩ := bind_eq_done stepping
  obtain ⟨controller, controlled, rfl⟩ := zoom_eq_done_iff.mp stepped
  obtain ⟨target, latched, framed, rfl⟩ := step_eq_done controlled
  obtain ⟨_, checked, audited, returned⟩ := bind_eq_done auditing
  obtain ⟨-, rfl⟩ := ofExcept_eq_done_iff.mp audited
  cases returned
  refine ⟨rfl, rfl, turn, stamp, policy, target, latched, framed, ?_⟩
  dsimp only at latched ⊢
  rw [latched]

end Effects

/-! ## On schedule -/

/-- The runs of the policy within some ticks. -/
def inferencesOf (ticks : List ShadowTick) : List PolicyInference :=
  ticks.filterMap ShadowTick.inference

/-- State tick `n` belongs to the deadline `start + 2 ms * n`, inference `k` to the state tick
`10 * k`, and a state tick uses the last inference. -/
structure OnSchedule (setup : ShadowSetup) (start : ℤ) (ticks : List ShadowTick) : Prop where
  deadline : ∀ (n : ℕ) tick, ticks[n]? = some tick → tick.deadlineNs = start + 2000000 * n
  notBefore : ∀ tick ∈ ticks, tick.deadlineNs ≤ tick.nowNs
  turn : EveryNth 10 ShadowTick.inference ticks
  stamp : ∀ (k : ℕ) inference, (inferencesOf ticks)[k]? = some inference →
    inference.stampNs = start + 20000000 * k
  target : ∀ (n : ℕ) tick, ticks[n]? = some tick → ∃ inference,
    (inferencesOf ticks)[n / 10]? = some inference ∧
      { setup.controller with stateTick := n }.frame inference.target.1 tick.measured =
        .ok tick.frame

/-- Where a shadow is in its schedule. -/
structure ShadowPhase (setup : ShadowSetup) (start : ℤ) (known : List String) (ticks : List ShadowTick)
    (shadow : LiveShadow) : Prop where
  next : shadow.nextStateTickNs = some (start + 2000000 * ticks.length)
  stateTicks : shadow.stateTicks = ticks.length
  policyTicks : shadow.policyTicks = (inferencesOf ticks).length
  controller : shadow.controller = { setup.controller with
    target := (inferencesOf ticks).getLast?.map (·.target)
    stateTick := ticks.length }
  errors : shadow.errors = known
  schedule : OnSchedule setup start ticks

section Schedule

variable {setup : ShadowSetup} {start nowNs : ℤ} {ticks : List ShadowTick} {tick : ShadowTick}
  {shadow final : LiveShadow} {known : List String}

theorem onSchedule_nil : OnSchedule setup start [] := by
  constructor
  · intro n tick found
    cases found
  · intro tick member
    cases member
  · exact EveryNth.nil
  · intro k inference found
    cases found
  · intro n tick found
    cases found

theorem inferencesOf_snoc :
    inferencesOf (ticks ++ [tick]) = inferencesOf ticks ++ tick.inference.toList := by
  rw [inferencesOf, List.filterMap_append]
  cases inference : tick.inference <;> simp [inferencesOf, inference]

/-- The inferences so far reach up to the next tick. -/
theorem OnSchedule.bounds (schedule : OnSchedule setup start ticks) :
    ticks.length ≤ 10 * (inferencesOf ticks).length ∧
      10 * (inferencesOf ticks).length < ticks.length + 10 :=
  schedule.turn.bounds (by decide)

/-- One more tick in its place. -/
theorem OnSchedule.snoc (schedule : OnSchedule setup start ticks)
    (deadline : tick.deadlineNs = start + 2000000 * ticks.length)
    (late : tick.deadlineNs ≤ tick.nowNs)
    (turn : tick.inference.isSome ↔ ticks.length % 10 = 0)
    (stamp : ∀ inference ∈ tick.inference, inference.stampNs = tick.deadlineNs)
    {target : {target : ImpedanceTarget ℚ // target.GainsNonneg}}
    (latched : (tick.inference.map (·.target)).or
      ((inferencesOf ticks).getLast?.map (·.target)) = some target)
    (framed : { setup.controller with stateTick := ticks.length }.frame target.1 tick.measured =
      .ok tick.frame) : OnSchedule setup start (ticks ++ [tick]) := by
  obtain ⟨enough, least⟩ := schedule.bounds
  constructor
  · intro n other found
    rcases getElem?_append_singleton.mp found with earlier | ⟨rfl, rfl⟩
    · exact schedule.deadline n other earlier
    · exact deadline
  · intro other member
    rcases List.mem_append.mp member with earlier | here
    · exact schedule.notBefore other earlier
    · rw [List.mem_singleton.mp here]
      exact late
  · exact everyNth_snoc.mpr ⟨schedule.turn, turn⟩
  · intro k inference found
    rw [inferencesOf_snoc] at found
    cases own : tick.inference with
    | none =>
        rw [own, Option.toList_none, List.append_nil] at found
        exact schedule.stamp k inference found
    | some run =>
        rw [own] at found turn stamp
        rcases getElem?_append_singleton.mp found with earlier | ⟨rfl, rfl⟩
        · exact schedule.stamp k inference earlier
        · have aligned : ticks.length % 10 = 0 := turn.mp rfl
          rw [stamp inference rfl, deadline]
          omega
  · intro n other found
    rw [inferencesOf_snoc]
    rcases getElem?_append_singleton.mp found with earlier | ⟨rfl, rfl⟩
    · obtain ⟨inference, inPlace, frames⟩ := schedule.target n other earlier
      obtain ⟨inside, -⟩ := List.getElem?_eq_some_iff.mp inPlace
      exact ⟨inference, (List.getElem?_append_left inside).trans inPlace, frames⟩
    · cases own : other.inference with
      | none =>
          rw [own] at turn latched
          have within : ticks.length % 10 ≠ 0 := fun aligned => absurd (turn.mpr aligned) (by simp)
          have index : ticks.length / 10 = (inferencesOf ticks).length - 1 := by omega
          obtain ⟨inference, last, rfl⟩ := Option.map_eq_some_iff.mp latched
          refine ⟨inference, ?_, framed⟩
          rw [Option.toList_none, List.append_nil, index, ← List.getLast?_eq_getElem?]
          exact last
      | some run =>
          rw [own] at turn latched
          cases latched
          have aligned : ticks.length % 10 = 0 := turn.mp rfl
          have index : ticks.length / 10 = (inferencesOf ticks).length := by omega
          refine ⟨run, ?_, framed⟩
          rw [index]
          exact getElem?_append_singleton.mpr (.inr ⟨rfl, rfl⟩)

/-- A tick that goes through is the next one of the schedule. -/
theorem ShadowPhase.advance (phase : ShadowPhase setup start known ticks shadow) (due : shadow.Due nowNs)
    (ran : setup.stateTick nowNs (shadow.arrive nowNs) = (.done tick, final)) :
    ShadowPhase setup start known (ticks ++ [tick]) final.advance := by
  obtain ⟨deadlineNs, isNext, late⟩ := due
  rw [phase.next] at isNext
  cases isNext
  obtain ⟨deadline, now, turn, stamp, policy, target, latched, framed, rfl⟩ := stateTick_eq_done ran
  have arrived : (shadow.arrive nowNs).nextStateTickNs = some (start + 2000000 * ticks.length) :=
    phase.next
  have controlled : (shadow.arrive nowNs).controller = _ := phase.controller
  have counted : (shadow.arrive nowNs).stateTicks = ticks.length := phase.stateTicks
  rw [arrived, Option.getD_some] at deadline
  rw [counted] at turn
  rw [controlled] at latched framed
  have schedule := phase.schedule.snoc deadline (by rw [deadline, now]; exact late) turn stamp
    latched framed
  constructor
  · have moved : some (start + 2000000 * (ticks.length : ℤ) + 2000000) =
        some (start + 2000000 * ((ticks ++ [tick]).length : ℤ)) := by
      rw [List.length_append, List.length_singleton]
      congr 1
      push_cast
      ring
    rw [← moved]
    exact congrArg (Option.map (· + 2000000)) arrived
  · rw [List.length_append, ← phase.stateTicks]
    rfl
  · rw [inferencesOf_snoc, List.length_append, ← phase.policyTicks]
    rfl
  · rw [LiveShadow.advance]
    dsimp only
    rw [controlled]
    have last : some target = (inferencesOf (ticks ++ [tick])).getLast?.map (·.target) := by
      rw [inferencesOf_snoc, ← latched]
      cases tick.inference <;> simp
    rw [last, List.length_append, List.length_singleton]
  · exact phase.errors
  · exact schedule

end Schedule

/-! ## Calls -/

/-- The state ticks of some calls. -/
def ticksOf (calls : List ShadowCall) : List ShadowTick := calls.flatMap (·.ticks)

/-- The time of the first ready call. -/
def firstReadyNs (calls : List ShadowCall) : Option ℤ :=
  (calls.find? (·.ready)).map (·.nowNs)

/-- The texts of the calls that have left something due. -/
def behindTexts (calls : List ShadowCall) : List String :=
  (calls.filter (·.behind)).map fun _ => ShadowSetup.behindText

/-- What a call after some others does: at most twenty ticks, each at its own time, and an error
when something is left that is due. -/
structure CallLaw (before : List ShadowCall) (call : ShadowCall) : Prop where
  short : call.ticks.length ≤ 20
  now : ∀ tick ∈ call.ticks, tick.nowNs = call.nowNs
  behind : call.behind = true ↔ call.ready = true ∧ ∀ start ∈ firstReadyNs (before ++ [call]),
    start + 2000000 * (ticksOf (before ++ [call])).length ≤ call.nowNs

/-- A shadow that has not been ready yet. -/
structure Idle (setup : ShadowSetup) (known : List String) (shadow : LiveShadow) : Prop where
  next : shadow.nextStateTickNs = none
  stateTicks : shadow.stateTicks = 0
  policyTicks : shadow.policyTicks = 0
  controller : shadow.controller = setup.controller
  errors : shadow.errors = known

/-- What calls without an error have made of a shadow. -/
structure Tracks (setup : ShadowSetup) (calls : List ShadowCall) (shadow : LiveShadow) : Prop where
  idle : firstReadyNs calls = none → Idle setup (behindTexts calls) shadow ∧ ticksOf calls = []
  phase : ∀ start ∈ firstReadyNs calls,
    ShadowPhase setup start (behindTexts calls) (ticksOf calls) shadow
  law : ∀ before call, before ++ [call] <+: calls → CallLaw before call

section Calls

open Program

variable {setup : ShadowSetup} {start nowNs : ℤ} {calls before : List ShadowCall}
  {call : ShadowCall} {shadow final : LiveShadow} {known : List String}

theorem ticksOf_snoc : ticksOf (calls ++ [call]) = ticksOf calls ++ call.ticks := by
  simp [ticksOf]

theorem firstReadyNs_snoc : firstReadyNs (calls ++ [call]) =
    (firstReadyNs calls).or (if call.ready = true then some call.nowNs else none) := by
  rw [firstReadyNs, List.find?_append]
  cases found : calls.find? (·.ready) with
  | none =>
      cases ready : call.ready <;> simp [firstReadyNs, found, ready]
  | some first => simp [firstReadyNs, found]

theorem behindTexts_snoc : behindTexts (calls ++ [call]) =
    behindTexts calls ++ if call.behind = true then [ShadowSetup.behindText] else [] := by
  rw [behindTexts, List.filter_append]
  cases behind : call.behind <;> simp [behindTexts, behind]

theorem tracks_initial : Tracks setup [] setup.initial := by
  constructor
  · intro _
    exact ⟨⟨rfl, rfl, rfl, rfl, rfl⟩, rfl⟩
  · intro start none
    cases none
  · intro before call isPrefix
    have empty := List.prefix_nil.mp isPrefix
    simp at empty

/-- The first ready call starts the schedule, and a later one leaves the deadline alone. -/
theorem Tracks.exists_start (tracks : Tracks setup calls shadow) : ∃ start,
    (firstReadyNs calls).or (some nowNs) = some start ∧
      ShadowPhase setup start (behindTexts calls) (ticksOf calls) (shadow.start nowNs) := by
  cases first : firstReadyNs calls with
  | none =>
      obtain ⟨idle, noTicks⟩ := tracks.idle first
      refine ⟨nowNs, rfl, ?_⟩
      rw [noTicks]
      constructor
      · rw [LiveShadow.start, idle.next]
        simp
      · exact idle.stateTicks
      · exact idle.policyTicks
      · exact idle.controller
      · exact idle.errors
      · exact onSchedule_nil
  | some start =>
      have phase := tracks.phase start first
      refine ⟨start, rfl, ?_⟩
      have unchanged : shadow.start nowNs = shadow := by
        rw [LiveShadow.start, phase.next, Option.some_or, ← phase.next]
      rw [unchanged]
      exact phase

/-- Everything but what the schedule is about may change. -/
theorem Tracks.congr (tracks : Tracks setup calls shadow)
    (next : final.nextStateTickNs = shadow.nextStateTickNs)
    (stateTicks : final.stateTicks = shadow.stateTicks)
    (policyTicks : final.policyTicks = shadow.policyTicks)
    (controller : final.controller = shadow.controller) (errors : final.errors = shadow.errors) :
    Tracks setup calls final := by
  constructor
  · intro none
    obtain ⟨idle, noTicks⟩ := tracks.idle none
    exact ⟨⟨next.trans idle.next, stateTicks.trans idle.stateTicks,
      policyTicks.trans idle.policyTicks, controller.trans idle.controller,
      errors.trans idle.errors⟩, noTicks⟩
  · intro start first
    have phase := tracks.phase start first
    exact ⟨next.trans phase.next, stateTicks.trans phase.stateTicks,
      policyTicks.trans phase.policyTicks, controller.trans phase.controller,
      errors.trans phase.errors, phase.schedule⟩
  · exact tracks.law

theorem law_snoc (law : ∀ before call, before ++ [call] <+: calls → CallLaw before call)
    (last : CallLaw calls call) :
    ∀ before other, before ++ [other] <+: calls ++ [call] → CallLaw before other := by
  intro before other isPrefix
  rcases List.prefix_concat_iff.mp isPrefix with whole | earlier
  · obtain ⟨rfl, same⟩ := List.append_inj' whole rfl
    cases same
    exact last
  · exact law before other earlier

/-- A call that is not ready does nothing. -/
theorem Tracks.skip (tracks : Tracks setup calls shadow) :
    Tracks setup (calls ++ [.skipped nowNs]) shadow := by
  have first : firstReadyNs (calls ++ [.skipped nowNs]) = firstReadyNs calls := by
    rw [firstReadyNs_snoc]
    exact Option.or_none
  have texts : behindTexts (calls ++ [.skipped nowNs]) = behindTexts calls := by
    rw [behindTexts_snoc]
    exact List.append_nil _
  have ticks : ticksOf (calls ++ [.skipped nowNs]) = ticksOf calls := by
    rw [ticksOf_snoc]
    exact List.append_nil _
  constructor
  · rw [first, texts, ticks]
    exact tracks.idle
  · rw [first, texts, ticks]
    exact tracks.phase
  · apply law_snoc tracks.law
    constructor
    · exact Nat.zero_le _
    · intro tick member
      cases member
    · exact iff_of_false Bool.false_ne_true fun both => Bool.false_ne_true both.1

theorem ShadowPhase.due_iff {ticks : List ShadowTick} (phase : ShadowPhase setup start known ticks shadow) :
    shadow.Due nowNs ↔ start + 2000000 * ticks.length ≤ nowNs := by
  simp [LiveShadow.Due, phase.next]

/-- A call on its way. -/
structure CatchingUp (setup : ShadowSetup) (start nowNs : ℤ) (known : List String)
    (ticks items : List ShadowTick) (shadow : LiveShadow) : Prop where
  phase : ShadowPhase setup start known (ticks ++ items) shadow
  now : ∀ tick ∈ items, tick.nowNs = nowNs

theorem CatchingUp.step {ticks items : List ShadowTick} {tick : ShadowTick}
    (before : CatchingUp setup start nowNs known ticks items shadow) (due : shadow.Due nowNs)
    (ran : setup.stateTick nowNs (shadow.arrive nowNs) = (.done tick, final)) :
    CatchingUp setup start nowNs known ticks (items ++ [tick]) final.advance := by
  constructor
  · rw [← List.append_assoc]
    exact before.phase.advance due ran
  · intro other member
    rcases List.mem_append.mp member with earlier | here
    · exact before.now other earlier
    · rw [List.mem_singleton.mp here]
      exact (stateTick_eq_done ran).now

/-- What a ready call adds when no error has ended it. -/
theorem Tracks.ready (tracks : Tracks setup calls shadow)
    (first : (firstReadyNs calls).or (some nowNs) = some start) {items : List ShadowTick}
    (phase : ShadowPhase setup start (behindTexts calls) (ticksOf calls ++ items) final)
    (now : ∀ tick ∈ items, tick.nowNs = nowNs) (short : items.length ≤ 20)
    (empty : items.length < 20 → ¬final.Due nowNs) {behind : Bool}
    (noticed : behind = true ↔ items.length = 20 ∧ final.Due nowNs) :
    Tracks setup (calls ++ [⟨nowNs, true, items, false, behind⟩])
      (if behind then final.fail ShadowSetup.behindText else final) := by
  have started : firstReadyNs (calls ++ [⟨nowNs, true, items, false, behind⟩]) = some start := by
    rw [firstReadyNs_snoc]
    exact first
  have ticks : ticksOf (calls ++ [⟨nowNs, true, items, false, behind⟩]) = ticksOf calls ++ items :=
    ticksOf_snoc
  constructor
  · intro none
    rw [started] at none
    cases none
  · intro other same
    rw [started] at same
    cases same
    rw [ticks, behindTexts_snoc]
    cases behind with
    | false =>
        rw [if_neg Bool.false_ne_true, if_neg Bool.false_ne_true, List.append_nil]
        exact phase
    | true =>
        rw [if_pos rfl, if_pos rfl]
        exact ⟨phase.next, phase.stateTicks, phase.policyTicks, phase.controller,
          congrArg (· ++ [ShadowSetup.behindText]) phase.errors, phase.schedule⟩
  · apply law_snoc tracks.law
    refine ⟨short, now, ?_⟩
    rw [started, ticks]
    dsimp only
    rw [noticed, phase.due_iff]
    constructor
    · rintro ⟨-, due⟩
      refine ⟨rfl, ?_⟩
      intro other same
      cases same
      exact due
    · rintro ⟨-, due⟩
      have left := due start rfl
      refine ⟨?_, left⟩
      by_contra fewer
      exact empty (lt_of_le_of_ne short fewer) (phase.due_iff.mpr left)

theorem tick_of_ready (isReady : setup.ready shadow = true) {caught : Caught ShadowTick}
    {after : LiveShadow} (run : setup.catchUp nowNs (shadow.start nowNs) = (.done caught, after)) :
    setup.tick nowNs shadow = (.done ⟨nowNs, true, caught.items, caught.raised,
      decide (caught.raised = false ∧ caught.items.length = 20 ∧ after.Due nowNs)⟩,
      if decide (caught.raised = false ∧ caught.items.length = 20 ∧ after.Due nowNs) then
        after.fail ShadowSetup.behindText else after) := by
  simp only [ShadowSetup.tick, bind_apply, get_apply, if_pos isReady, modify_apply, run, pure_apply]

theorem tick_of_not_ready (notReady : ¬setup.ready shadow = true) :
    setup.tick nowNs shadow = (.done (.skipped nowNs), shadow) := by
  simp only [ShadowSetup.tick, bind_apply, get_apply, if_neg notReady, pure_apply]

theorem tick_returns : ∃ call final, setup.tick nowNs shadow = (.done call, final) := by
  by_cases isReady : setup.ready shadow = true
  · obtain ⟨caught, after, run⟩ : ∃ caught after,
        setup.catchUp nowNs (shadow.start nowNs) = (.done caught, after) :=
      catchUp_returns finishes_stateTick 20 _
    exact ⟨_, _, tick_of_ready isReady run⟩
  · exact ⟨_, _, tick_of_not_ready isReady⟩

theorem Tracks.tick (tracks : Tracks setup calls shadow) : ∃ call final,
    setup.tick nowNs shadow = (.done call, final) ∧
      (call.raised = false → Tracks setup (calls ++ [call]) final) := by
  by_cases isReady : setup.ready shadow = true
  · obtain ⟨start, first, phase⟩ : ∃ start, (firstReadyNs calls).or (some nowNs) = some start ∧ _ :=
      tracks.exists_start
    have begins : CatchingUp setup start nowNs (behindTexts calls) (ticksOf calls) []
        (shadow.start nowNs) := by
      constructor
      · rw [List.append_nil]
        exact phase
      · intro tick member
        cases member
    obtain ⟨caught, after, run, fine⟩ : ∃ caught after,
        setup.catchUp nowNs (shadow.start nowNs) = (.done caught, after) ∧ _ :=
      catchUp_law finishes_stateTick CatchingUp.step 20 begins
    have ran := tick_of_ready isReady run
    refine ⟨_, _, ran, ?_⟩
    intro quiet
    dsimp only at quiet
    obtain ⟨⟨reached, now⟩, short, empty⟩ := fine quiet
    rw [quiet]
    apply tracks.ready first reached now short empty
    simp
  · exact ⟨.skipped nowNs, shadow, tick_of_not_ready isReady, fun _ => tracks.skip⟩

/-- Every event keeps the shadow in its schedule. -/
theorem Tracks.handle (tracks : Tracks setup calls shadow) (event : ShadowEvent) :
    ∃ more final, setup.handle event shadow = (.done more, final) ∧
      ((∀ call ∈ more, call.raised = false) → Tracks setup (calls ++ more) final) := by
  cases event with
  | feedback feedback =>
      refine ⟨[], shadow.updateFeedback feedback, rfl, fun _ => ?_⟩
      rw [List.append_nil]
      exact tracks.congr rfl rfl rfl rfl rfl
  | imu packet =>
      refine ⟨[], shadow.updateImu packet, rfl, fun _ => ?_⟩
      rw [List.append_nil]
      cases packet with
      | rawImu counts => exact tracks.congr rfl rfl rfl rfl rfl
      | quaternion wxyz => exact tracks.congr rfl rfl rfl rfl rfl
      | euler rollPitchYaw => exact tracks
  | tick nowNs =>
      obtain ⟨call, final, ran, fine⟩ : ∃ call final,
          setup.tick nowNs shadow = (.done call, final) ∧ _ := tracks.tick
      refine ⟨[call], final, ?_, fun quiet => fine (quiet call List.mem_cons_self)⟩
      rw [ShadowSetup.handle, bind_apply_done ran]
      rfl

theorem handle_returns {event : ShadowEvent} :
    ∃ more final, setup.handle event shadow = (.done more, final) := by
  cases event with
  | feedback feedback => exact ⟨[], _, rfl⟩
  | imu packet => exact ⟨[], _, rfl⟩
  | tick nowNs =>
      obtain ⟨call, final, ran⟩ : ∃ call final, setup.tick nowNs shadow = (.done call, final) :=
        tick_returns
      refine ⟨[call], final, ?_⟩
      rw [ShadowSetup.handle, bind_apply_done ran]
      rfl

theorem run_cons {event : ShadowEvent} {rest : List ShadowEvent} {here later : List ShadowCall}
    {middle : LiveShadow} (handled : setup.handle event shadow = (.done here, middle))
    (others : setup.run rest middle = (.done later, final)) :
    setup.run (event :: rest) shadow = (.done (here ++ later), final) := by
  rw [ShadowSetup.run, bind_apply_done handled, bind_apply_done others]
  rfl

/-- A run never raises, whatever its calls have caught. -/
theorem run_returns {events : List ShadowEvent} :
    ∀ {shadow}, ∃ calls final, setup.run events shadow = (.done calls, final) := by
  induction events with
  | nil =>
      intro shadow
      exact ⟨[], shadow, rfl⟩
  | cons event rest ih =>
      intro shadow
      obtain ⟨here, middle, handled⟩ : ∃ here middle,
          setup.handle event shadow = (.done here, middle) := handle_returns
      obtain ⟨later, final, others⟩ := @ih middle
      exact ⟨here ++ later, final, run_cons handled others⟩

theorem Tracks.run {events : List ShadowEvent} :
    ∀ {calls more shadow final}, Tracks setup calls shadow →
      setup.run events shadow = (.done more, final) → (∀ call ∈ more, call.raised = false) →
        Tracks setup (calls ++ more) final := by
  induction events with
  | nil =>
      intro calls more shadow final tracks ran quiet
      cases ran
      rwa [List.append_nil]
  | cons event rest ih =>
      intro calls more shadow final tracks ran quiet
      obtain ⟨here, middle, handled, kept⟩ := tracks.handle event
      obtain ⟨later, reached, others⟩ : ∃ later reached,
          setup.run rest middle = (.done later, reached) := run_returns
      cases (run_cons handled others).symm.trans ran
      have quietHere : ∀ call ∈ here, call.raised = false :=
        fun call member => quiet call (List.mem_append_left _ member)
      have quietLater : ∀ call ∈ later, call.raised = false :=
        fun call member => quiet call (List.mem_append_right _ member)
      rw [← List.append_assoc]
      exact ih (kept quietHere) others quietLater

end Calls

end SpriteRuntime
