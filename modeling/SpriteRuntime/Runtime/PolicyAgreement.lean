import SpriteRuntime.Runtime.PolicyShadow

/-!
# The native policy core agrees with the Python tick

One keeps its frames in a flat array and the other in a queue for each term; both feed the
blended action back.
-/

namespace SpriteRuntime

open Foundation

/-- A tick of the native core, with the sensing of the tick and the action of the network. -/
def nativePolicy (input : PolicyInput Double × (Index → Double)) :
    Program Core String PolicyTick := do
  let observation ← Core.observe input.1.array
  let target ← Core.latch input.2 input.1.array
  let core ← Program.get
  return { observation, action := core.previous, target }

/-- A tick of the Python side. -/
def pythonPolicy (input : PolicyInput Double × (Index → Double)) :
    Program LivePolicyShadow String PolicyTick :=
  LivePolicyShadow.runPolicy input.1 input.2

section Inputs

variable {α : Type} (input : PolicyInput α)

theorem PolicyInput.array_jointPosition (joint : Index) :
    input.array (joint.castLE (by decide)) = input.jointPosition joint := by
  have here : joint.val < 31 := joint.isLt
  simp [array, here]

theorem PolicyInput.array_jointVelocity (joint : Index) :
    input.array ⟨31 + joint, by have := joint.isLt; simp only [kJointCount] at this; omega⟩ =
      input.jointVelocity joint := by
  have here : joint.val < 31 := joint.isLt
  have inside : 31 + joint.val < 62 := by omega
  simp [array, inside]

theorem PolicyInput.array_angularVelocity (axis : Fin 3) :
    input.array ⟨62 + axis, by omega⟩ = input.angularVelocity axis := by
  have beyond : ¬62 + axis.val < 31 := by omega
  have inside : 62 + axis.val < 65 := by omega
  simp [array, beyond, inside]

theorem PolicyInput.array_projectedGravity (axis : Fin 3) :
    input.array ⟨65 + axis, by omega⟩ = input.projectedGravity axis := by
  have beyond : ¬65 + axis.val < 31 ∧ ¬65 + axis.val < 62 := by omega
  have inside : 65 + axis.val < 68 := by omega
  simp [array, beyond, inside]

theorem PolicyInput.array_command (axis : Fin 3) :
    input.array ⟨68 + axis, by omega⟩ = input.command axis := by
  have beyond : ¬68 + axis.val < 31 ∧ ¬68 + axis.val < 62 ∧ ¬68 + axis.val < 65 := by omega
  simp [array, beyond]

/-- The input with its numbers as they come from outside. -/
def PolicyInput.doubles (numbers : PolicyInput ℚ) : PolicyInput Double :=
  { jointPosition := fun joint => .finite (numbers.jointPosition joint)
    jointVelocity := fun joint => .finite (numbers.jointVelocity joint)
    angularVelocity := fun axis => .finite (numbers.angularVelocity axis)
    projectedGravity := fun axis => .finite (numbers.projectedGravity axis)
    command := fun axis => .finite (numbers.command axis) }

theorem PolicyInput.doubles_array (numbers : PolicyInput ℚ) :
    numbers.doubles.array = fun index => .finite (numbers.array index) := by
  funext index
  simp only [array, doubles]
  split_ifs <;> rfl

/-- An array of numbers is that of an input of numbers. -/
theorem PolicyInput.array_eq_finite_iff {input : PolicyInput Double} {values : PolicyArray ℚ} :
    (input.array = fun index => .finite (values index)) ↔
      ∃ numbers : PolicyInput ℚ, input = numbers.doubles ∧ values = numbers.array := by
  constructor
  · intro same
    have numbers (index : Fin 71) : input.array index = .finite (values index) :=
      congrFun same index
    let read : PolicyInput ℚ :=
      { jointPosition := fun joint => values (joint.castLE (by decide))
        jointVelocity := fun joint =>
          values ⟨31 + joint, by have := joint.isLt; simp only [kJointCount] at this; omega⟩
        angularVelocity := fun axis => values ⟨62 + axis, by omega⟩
        projectedGravity := fun axis => values ⟨65 + axis, by omega⟩
        command := fun axis => values ⟨68 + axis, by omega⟩ }
    have sameInput : input = read.doubles := by
      apply PolicyInput.ext
      · funext joint
        rw [← input.array_jointPosition, numbers]
        rfl
      · funext joint
        rw [← input.array_jointVelocity, numbers]
        rfl
      · funext axis
        rw [← input.array_angularVelocity, numbers]
        rfl
      · funext axis
        rw [← input.array_projectedGravity, numbers]
        rfl
      · funext axis
        rw [← input.array_command, numbers]
        rfl
    refine ⟨read, sameInput, funext fun index => ?_⟩
    have own := numbers index
    rw [sameInput, read.doubles_array] at own
    exact (Double.finite.inj own).symm
  · rintro ⟨numbers, rfl, rfl⟩
    exact numbers.doubles_array

end Inputs

section Frames

/-- The newest frame of a term. -/
def sensedFrame (defaults previous : Index → ℚ) (numbers : PolicyInput ℚ) : HistoryTerm → List ℚ
  | .jointPos => List.ofFn fun joint => numbers.jointPosition joint - defaults joint
  | .jointVel => List.ofFn numbers.jointVelocity
  | .actions => List.ofFn previous
  | .baseAngVel => List.ofFn numbers.angularVelocity
  | .projectedGravity => List.ofFn numbers.projectedGravity

theorem range_map_eq_ofFn {α : Type} {n : ℕ} {entries : ℕ → α} {vector : Fin n → α}
    (same : ∀ index : Fin n, entries index = vector index) :
    (List.range n).map entries = List.ofFn vector := by
  apply List.ext_getElem
  · simp
  · intro index inside _
    simp only [List.getElem_map, List.getElem_range, List.getElem_ofFn]
    exact same ⟨index, by simpa using inside⟩

theorem entry_val {n : ℕ} (array : Fin n → ℚ) (index : Fin n) : entry array index = array index :=
  dif_pos index.isLt

/-- The native frames. -/
theorem Core.frame_eq (core : Core) (numbers : PolicyInput ℚ) (term : HistoryTerm) :
    core.frame numbers.array term = sensedFrame core.defaults core.previous numbers term := by
  cases term with
  | jointPos =>
      have position (joint : Index) : entry numbers.array joint = numbers.jointPosition joint :=
        (entry_val numbers.array (joint.castLE (by decide))).trans
          (numbers.array_jointPosition joint)
      apply range_map_eq_ofFn
      intro joint
      exact congrArg₂ (· - ·) (position joint) (entry_val core.defaults joint)
  | jointVel =>
      have velocity (joint : Index) :
          entry numbers.array (31 + joint) = numbers.jointVelocity joint :=
        (entry_val numbers.array _).trans (numbers.array_jointVelocity joint)
      exact range_map_eq_ofFn velocity
  | actions => exact range_map_eq_ofFn (entry_val core.previous)
  | baseAngVel =>
      have angular (axis : Fin 3) :
          entry numbers.array (62 + axis) = numbers.angularVelocity axis :=
        (entry_val numbers.array _).trans (numbers.array_angularVelocity axis)
      exact range_map_eq_ofFn angular
  | projectedGravity =>
      have gravity (axis : Fin 3) :
          entry numbers.array (65 + axis) = numbers.projectedGravity axis :=
        (entry_val numbers.array _).trans (numbers.array_projectedGravity axis)
      exact range_map_eq_ofFn gravity

theorem checkedFrame_eq_ok {width : ℕ} {term : HistoryTerm} {value : Fin width → Double}
    {frame : List ℚ} :
    PolicyObservationHistory.checkedFrame term value = .ok frame ↔
      ∃ values : Fin width → ℚ, value = (fun index => .finite (values index)) ∧
        frame = List.ofFn values := by
  simp only [PolicyObservationHistory.checkedFrame, except_bind_eq_ok, finiteArray_eq_ok]
  constructor
  · rintro ⟨values, same, made⟩
    cases made
    exact ⟨values, same, rfl⟩
  · rintro ⟨values, same, rfl⟩
    exact ⟨values, same, rfl⟩

theorem minus_eq_finite {left right : Double} {difference : ℚ} :
    Double.minus left right = .finite difference ↔
      ∃ first second, left = .finite first ∧ right = .finite second ∧
        difference = first - second := by
  cases left <;> cases right <;> simp [Double.minus, eq_comm]

/-- The Python frames. -/
theorem frameValues_eq_ok {history : PolicyObservationHistory} {defaults : Index → ℚ}
    (known : history.defaultJointPos = fun joint => .finite (defaults joint))
    {input : PolicyInput Double} {previous : Index → ℚ} {values : HistoryTerm → List ℚ} :
    history.frameValues input previous = .ok values ↔
      ∃ position velocity angular gravity,
        input.jointPosition = (fun joint => .finite (position joint)) ∧
        input.jointVelocity = (fun joint => .finite (velocity joint)) ∧
        input.angularVelocity = (fun axis => .finite (angular axis)) ∧
        input.projectedGravity = (fun axis => .finite (gravity axis)) ∧
        ∀ command, values =
          sensedFrame defaults previous ⟨position, velocity, angular, gravity, command⟩ := by
  simp only [PolicyObservationHistory.frameValues, except_bind_eq_ok, checkedFrame_eq_ok]
  constructor
  · rintro ⟨_, ⟨differences, samePosition, rfl⟩, _, ⟨velocity, sameVelocity, rfl⟩, _,
      ⟨actions, sameActions, rfl⟩, _, ⟨angular, sameAngular, rfl⟩, _,
      ⟨gravity, sameGravity, rfl⟩, made⟩
    cases made
    have sensed (joint : Index) : ∃ position : ℚ, input.jointPosition joint = .finite position ∧
        differences joint = position - defaults joint := by
      obtain ⟨first, second, position, reference, difference⟩ :=
        minus_eq_finite.mp (congrFun samePosition joint)
      rw [known] at reference
      rw [difference, Double.finite.inj reference]
      exact ⟨first, position, rfl⟩
    choose position samePosition difference using sensed
    have sameDifferences : differences = fun joint => position joint - defaults joint :=
      funext difference
    have previousActions : previous = actions := by
      funext joint
      exact Double.finite.inj (congrFun sameActions joint)
    refine ⟨position, velocity, angular, gravity, funext samePosition, sameVelocity, sameAngular,
      sameGravity, fun command => ?_⟩
    rw [sameDifferences, previousActions]
    funext term
    cases term <;> rfl
  · rintro ⟨position, velocity, angular, gravity, samePosition, sameVelocity, sameAngular,
      sameGravity, made⟩
    refine ⟨_, ⟨fun joint => position joint - defaults joint, ?_, rfl⟩, _,
      ⟨velocity, sameVelocity, rfl⟩, _, ⟨previous, rfl, rfl⟩, _, ⟨angular, sameAngular, rfl⟩, _,
      ⟨gravity, sameGravity, rfl⟩, ?_⟩
    · rw [samePosition, known]
      rfl
    · rw [made fun _ => 0]
      apply congrArg Except.ok
      funext term
      cases term <;> rfl

end Frames

section Handoff

variable (handoff : MeasuredPoseActionHandoff) (action pose : Index → ℚ)

/-- There is nothing left to blend. -/
def MeasuredPoseActionHandoff.idle : Prop :=
  handoff.totalSteps = 0 ∨ handoff.complete = true

instance : Decidable handoff.idle := by
  unfold MeasuredPoseActionHandoff.idle
  infer_instance

/-- The handoff after a call of `blend`. -/
def MeasuredPoseActionHandoff.called : MeasuredPoseActionHandoff :=
  if handoff.idle then handoff.capture pose else (handoff.capture pose).advance

/-- The action that a call of `blend` returns. -/
def MeasuredPoseActionHandoff.blended : Index → ℚ :=
  if handoff.idle then action
  else fun joint =>
    (1 - handoff.advance.progress) * ((handoff.capture pose).initialAction.getD action) joint +
      handoff.advance.progress * action joint

variable {handoff} in
theorem blend_eq_done_iff {raw measured : Index → Double} {final : MeasuredPoseActionHandoff}
    {result : Index → ℚ} :
    MeasuredPoseActionHandoff.blend raw measured handoff = (.done result, final) ↔
      ∃ action pose : Index → ℚ, raw = (fun joint => .finite (action joint)) ∧
        measured = (fun joint => .finite (pose joint)) ∧
        final = handoff.called pose ∧ result = handoff.blended action pose := by
  unfold MeasuredPoseActionHandoff.blend MeasuredPoseActionHandoff.called
    MeasuredPoseActionHandoff.blended jointVector
  have branch (pose : Index → ℚ) : ((handoff.capture pose).totalSteps = 0 ∨
      (handoff.capture pose).complete = true) = handoff.idle := rfl
  simp only [Program.bind_eq_done_iff, Program.ofExcept_eq_done_iff, Program.modify_eq_done_iff,
    Program.get_eq_done_iff, requireFinite_eq_ok, and_assoc, exists_and_left, exists_eq_left,
    exists_const, branch]
  by_cases idle : handoff.idle
  · simp only [if_pos idle, Program.pure_eq_done_iff]
    constructor
    · rintro ⟨_, sameAction, pose, samePose, rfl, rfl⟩
      exact ⟨_, sameAction, pose, samePose, rfl, rfl⟩
    · rintro ⟨_, sameAction, pose, samePose, rfl, rfl⟩
      exact ⟨_, sameAction, pose, samePose, rfl, rfl⟩
  · simp only [if_neg idle, Program.bind_eq_done_iff, Program.modify_eq_done_iff,
      Program.get_eq_done_iff, Program.pure_eq_done_iff, and_assoc, exists_and_left,
      exists_eq_left, exists_const]
    constructor
    · rintro ⟨action, sameAction, pose, samePose, rfl, rfl⟩
      exact ⟨action, sameAction, pose, samePose, rfl, rfl⟩
    · rintro ⟨action, sameAction, pose, samePose, rfl, rfl⟩
      exact ⟨action, sameAction, pose, samePose, rfl, rfl⟩

end Handoff

section Ticks

theorem nativePolicy_eq_done_iff {input : PolicyInput Double × (Index → Double)} {core next : Core}
    {tick : PolicyTick} :
    nativePolicy input core = (.done tick, next) ↔
      ∃ (numbers : PolicyInput ℚ) (action : Index → ℚ), input.1 = numbers.doubles ∧
        input.2 = (fun joint => .finite (action joint)) ∧
        (core.ready = false → ∀ joint, ¬|core.scale joint| ≤ 1 / 1000000000000) ∧
        next = { core with history := core.observed numbers.array }.latched action
          numbers.jointPosition ∧
        tick =
          { observation := (List.range 792).map next.history ++ List.ofFn numbers.command
            action := next.previous
            target := next.target } := by
  have position (numbers : PolicyInput ℚ) :
      numbers.doubles.array.position = numbers.jointPosition := by
    funext joint
    rw [PolicyArray.position, PolicyInput.array_jointPosition]
    rfl
  have command (numbers : PolicyInput ℚ) :
      (List.range 3).map (fun index => entry numbers.array (68 + index)) =
        List.ofFn numbers.command := by
    apply range_map_eq_ofFn
    intro axis
    exact (entry_val numbers.array _).trans (numbers.array_command axis)
  unfold nativePolicy Core.observe
  generalize List.range 792 = indices
  simp only [Program.bind_eq_done_iff, Program.ofExcept_eq_done_iff, Program.modify_eq_done_iff,
    Program.get_eq_done_iff, Program.pure_eq_done_iff, finiteArray_eq_ok,
    PolicyInput.array_eq_finite_iff, Core.latch_eq_done_iff, and_assoc, exists_and_left,
    exists_eq_left, exists_const]
  constructor
  · rintro ⟨_, _, ⟨_, ⟨numbers, same, rfl⟩, rfl, rfl⟩, usable, _, _, ⟨action, sameAction, rfl, rfl⟩,
      rfl, rfl⟩
    refine ⟨numbers, same, action, sameAction, usable, ?_, ?_⟩
    · rw [same, position]
    · rw [command]
      rfl
  · rintro ⟨numbers, same, action, sameAction, usable, rfl, rfl⟩
    refine ⟨_, _, ⟨_, ⟨numbers, same, rfl⟩, rfl, rfl⟩, usable, _, _, ⟨action, sameAction, rfl, rfl⟩,
      ?_, ?_⟩
    · rw [same, position, command]
      rfl
    · rw [same, position]

/-- When a tick of the Python side returns, and with what. -/
theorem pythonPolicy_eq_done_iff {input : PolicyInput Double × (Index → Double)}
    {shadow next : LivePolicyShadow} {tick : PolicyTick} {defaults : Index → ℚ}
    (known : shadow.history.defaultJointPos = fun joint => .finite (defaults joint)) :
    pythonPolicy input shadow = (.done tick, next) ↔
      ∃ (numbers : PolicyInput ℚ) (action : Index → ℚ) (history : PolicyObservationHistory),
        input.1 = numbers.doubles ∧ input.2 = (fun joint => .finite (action joint)) ∧
        history = shadow.history.extended
          (sensedFrame defaults shadow.previousAction numbers) ∧
        (∀ term ∈ HistoryTerm.all, history.history term ≠ []) ∧
        (history.assembled numbers.command).length = history.actorObservationDim ∧
        next =
          { shadow with
            history
            handoff := shadow.handoff.called numbers.jointPosition
            previousAction := shadow.handoff.blended action numbers.jointPosition } ∧
        tick =
          { observation := history.assembled numbers.command
            action := next.previousAction
            target := fun joint =>
              next.actionOffset joint + next.actionScale joint * next.previousAction joint } := by
  unfold pythonPolicy LivePolicyShadow.runPolicy PolicyObservationHistory.append
    PolicyObservationHistory.observation
  simp only [Program.bind_eq_done_iff, Program.zoom_eq_done_iff, Program.ofExcept_eq_done_iff,
    Program.modify_eq_done_iff, Program.get_eq_done_iff, Program.pure_eq_done_iff,
    Program.throwIf_eq_done_iff, finiteArray_eq_ok, blend_eq_done_iff, frameValues_eq_ok known,
    and_assoc, exists_and_left, exists_eq_left, exists_const, not_exists, not_and, not_not]
  constructor
  · rintro ⟨_, ⟨_, ⟨_, ⟨position, samePosition, velocity, sameVelocity, angular, sameAngular, gravity,
      sameGravity, sensed⟩, rfl⟩, rfl⟩, _, _, ⟨_, ⟨command, sameCommand, filled, length, rfl, rfl⟩,
      rfl⟩, _, _, ⟨_, ⟨action, sameAction, pose, samePose, rfl, rfl⟩, rfl⟩, rfl, rfl⟩
    obtain rfl := sensed command
    have samePoses : pose = position := by
      funext joint
      exact Double.finite.inj (congrFun (samePose.symm.trans samePosition) joint)
    subst samePoses
    refine ⟨⟨pose, velocity, angular, gravity, command⟩, ?_, action, sameAction, filled, length,
      rfl, rfl⟩
    exact PolicyInput.ext samePosition sameVelocity sameAngular sameGravity sameCommand
  · rintro ⟨numbers, same, action, sameAction, filled, length, rfl, rfl⟩
    rw [same]
    exact ⟨_, ⟨_, ⟨_, ⟨numbers.jointPosition, rfl, numbers.jointVelocity, rfl,
      numbers.angularVelocity, rfl, numbers.projectedGravity, rfl, fun _ => rfl⟩, rfl⟩, rfl⟩, _, _,
      ⟨_, ⟨numbers.command, rfl, filled, length, rfl, rfl⟩, rfl⟩, _, _,
      ⟨_, ⟨action, sameAction, numbers.jointPosition, rfl, rfl, rfl⟩, rfl⟩, rfl, rfl⟩

end Ticks

section Agreement

/-- The two sides are in the same state. -/
structure CoresMatch (core : Core) (shadow : LivePolicyShadow) : Prop where
  defaults : shadow.history.defaultJointPos = fun joint => .finite (core.defaults joint)
  maxlen : ∀ term, shadow.history.maxlen term = kFrames
  dimension : shadow.history.actorObservationDim = 795
  history : ∀ term, shadow.history.history term =
    if core.ready then Core.window core.history term else []
  previous : shadow.previousAction = core.previous
  offset : shadow.handoff.offset = core.offset ∧ shadow.actionOffset = core.offset
  scale : shadow.handoff.scale = core.scale ∧ shadow.actionScale = core.scale
  usable : ∀ joint, ¬|core.scale joint| ≤ 1 / 1000000000000
  steps : shadow.handoff.totalSteps = core.steps
  completed : shadow.handoff.completedSteps = core.completed
  initial : shadow.handoff.initialAction = if core.ready then some core.initial else none

variable {core : Core} {shadow : LivePolicyShadow}

theorem window_length (history : ℕ → ℚ) (term : HistoryTerm) :
    (Core.window history term).length = kFrames := by
  simp [Core.window, frames]

/-- The queues and the array take the new frames alike. -/
theorem CoresMatch.extended (same : CoresMatch core shadow) (numbers : PolicyInput ℚ)
    (term : HistoryTerm) :
    (shadow.history.extended (sensedFrame core.defaults shadow.previousAction numbers)).history
        term = Core.window (core.observed numbers.array) term := by
  rw [Core.window_observed, Core.frame_eq, same.previous]
  simp only [PolicyObservationHistory.extended, same.history, same.maxlen]
  cases core.ready with
  | false => rfl
  | true =>
      have full := window_length core.history term
      have some : Core.window core.history term ≠ [] := by
        intro empty
        rw [empty] at full
        cases full
      simp only [if_true, if_neg some]
      exact pushBounded_full (by decide) full _

/-- Both sides hand the same observation to the network. -/
theorem CoresMatch.assembled (same : CoresMatch core shadow) (numbers : PolicyInput ℚ) :
    (shadow.history.extended (sensedFrame core.defaults shadow.previousAction numbers)).assembled
        numbers.command =
      (List.range 792).map (core.observed numbers.array) ++ List.ofFn numbers.command := by
  rw [Core.history_flatten]
  unfold PolicyObservationHistory.assembled
  congr 2
  funext term
  rw [same.extended]

/-- Both sides start from the action that holds the first measured pose. -/
theorem CoresMatch.capture (same : CoresMatch core shadow) (pose : Index → ℚ) :
    (shadow.handoff.capture pose).initialAction = some (core.captured pose).initial := by
  simp only [MeasuredPoseActionHandoff.capture, Core.captured, same.initial, same.offset.1,
    same.scale.1]
  cases core.ready <;> rfl

theorem CoresMatch.idle (same : CoresMatch core shadow) :
    shadow.handoff.idle ↔ ¬core.completed < core.steps := by
  simp only [MeasuredPoseActionHandoff.idle, MeasuredPoseActionHandoff.complete, same.steps,
    same.completed, decide_eq_true_eq]
  omega

/-- Both sides blend the action with the same weight. -/
theorem CoresMatch.blended (same : CoresMatch core shadow) (action pose : Index → ℚ) :
    shadow.handoff.blended action pose = (core.latched action pose).previous := by
  unfold MeasuredPoseActionHandoff.blended
  simp only [Core.latched, same.capture, Option.getD_some]
  by_cases idle : shadow.handoff.idle
  · have weight : core.alpha = 1 := if_neg (same.idle.mp idle)
    rw [if_pos idle, weight]
    simp
  · have going : core.completed < core.steps := not_not.mp (mt same.idle.mpr idle)
    have positive : (0 : ℚ) < core.steps := by exact_mod_cast (by omega : 0 < core.steps)
    have within : ((core.completed + 1 : ℕ) : ℚ) / core.steps ≤ 1 := by
      rw [div_le_one positive]
      exact_mod_cast going
    have weight : shadow.handoff.advance.progress = core.alpha := by
      simp only [MeasuredPoseActionHandoff.progress, MeasuredPoseActionHandoff.advance, same.steps,
        same.completed, Core.alpha, if_pos going, min_eq_right within]
      exact if_neg (by omega)
    rw [if_neg idle, weight]

theorem CoresMatch.called (same : CoresMatch core shadow) (action pose : Index → ℚ) :
    (shadow.handoff.called pose).totalSteps = core.steps ∧
      (shadow.handoff.called pose).completedSteps = (core.latched action pose).completed ∧
      (shadow.handoff.called pose).offset = core.offset ∧
      (shadow.handoff.called pose).scale = core.scale ∧
      (shadow.handoff.called pose).initialAction = some (core.latched action pose).initial := by
  have captured := same.capture pose
  unfold MeasuredPoseActionHandoff.called
  by_cases idle : shadow.handoff.idle
  · have done := same.idle.mp idle
    rw [if_pos idle]
    refine ⟨same.steps, ?_, same.offset.1, same.scale.1, captured⟩
    simp only [MeasuredPoseActionHandoff.capture, Core.latched, Core.advance, Core.captured,
      same.completed]
    exact (if_neg done).symm
  · have going : core.completed < core.steps := not_not.mp (mt same.idle.mpr idle)
    rw [if_neg idle]
    refine ⟨same.steps, ?_, same.offset.1, same.scale.1, captured⟩
    simp only [MeasuredPoseActionHandoff.advance, MeasuredPoseActionHandoff.capture, Core.latched,
      Core.advance, Core.captured, same.completed]
    exact (if_pos going).symm

/-- The native core after a tick. -/
def Core.ticked (core : Core) (numbers : PolicyInput ℚ) (action : Index → ℚ) : Core :=
  { core with history := core.observed numbers.array }.latched action numbers.jointPosition

/-- The Python side after a tick. -/
def LivePolicyShadow.ticked (shadow : LivePolicyShadow) (defaults : Index → ℚ)
    (numbers : PolicyInput ℚ) (action : Index → ℚ) : LivePolicyShadow :=
  { shadow with
    history := shadow.history.extended (sensedFrame defaults shadow.previousAction numbers)
    handoff := shadow.handoff.called numbers.jointPosition
    previousAction := shadow.handoff.blended action numbers.jointPosition }

theorem CoresMatch.ticked (same : CoresMatch core shadow) (numbers : PolicyInput ℚ)
    (action : Index → ℚ) :
    CoresMatch (core.ticked numbers action) (shadow.ticked core.defaults numbers action) := by
  obtain ⟨steps, completed, offset, scale, initial⟩ := same.called action numbers.jointPosition
  constructor
  · exact same.defaults
  · exact same.maxlen
  · exact same.dimension
  · exact same.extended numbers
  · exact same.blended action numbers.jointPosition
  · exact ⟨offset, same.offset.2⟩
  · exact ⟨scale, same.scale.2⟩
  · exact same.usable
  · exact steps
  · exact completed
  · exact initial

/-- A tick shows the same on both sides and keeps them in the same state, or both reject
the input. -/
theorem CoresMatch.tick (input : PolicyInput Double × (Index → Double))
    (same : CoresMatch core shadow) :
    Program.Agree CoresMatch (nativePolicy input core) (pythonPolicy input shadow) := by
  have shown (numbers : PolicyInput ℚ) (action : Index → ℚ) :
      (⟨(List.range 792).map (core.ticked numbers action).history ++ List.ofFn numbers.command,
          (core.ticked numbers action).previous, (core.ticked numbers action).target⟩ :
        PolicyTick) =
      ⟨(shadow.ticked core.defaults numbers action).history.assembled numbers.command,
        (shadow.ticked core.defaults numbers action).previousAction, fun joint =>
          (shadow.ticked core.defaults numbers action).actionOffset joint +
            (shadow.ticked core.defaults numbers action).actionScale joint *
              (shadow.ticked core.defaults numbers action).previousAction joint⟩ := by
    have kept := same.ticked numbers action
    have observed : (core.ticked numbers action).history = core.observed numbers.array := rfl
    rw [kept.previous, kept.offset.2, kept.scale.2, observed, ← same.assembled]
    rfl
  apply Program.Agree.of_returns
  · intro tick state returned
    obtain ⟨numbers, action, sameInput, sameAction, _, rfl, rfl⟩ :=
      nativePolicy_eq_done_iff.mp returned
    refine ⟨shadow.ticked core.defaults numbers action, ?_, same.ticked numbers action⟩
    rw [pythonPolicy_eq_done_iff same.defaults]
    refine ⟨numbers, action, _, sameInput, sameAction, rfl, ?_, ?_, rfl, shown numbers action⟩
    · intro term _ empty
      have full := window_length (core.observed numbers.array) term
      rw [← same.extended, empty] at full
      cases full
    · rw [same.assembled]
      simp [PolicyObservationHistory.extended, same.dimension]
  · intro tick state returned
    obtain ⟨numbers, action, _, sameInput, sameAction, rfl, _, _, rfl, rfl⟩ :=
      (pythonPolicy_eq_done_iff same.defaults).mp returned
    refine ⟨core.ticked numbers action, ?_⟩
    rw [nativePolicy_eq_done_iff]
    exact ⟨numbers, action, sameInput, sameAction, fun _ => same.usable, rfl,
      (shown numbers action).symm⟩

end Agreement

section Contracts

/-- The observation that `validate_for_hardware` expects of a contract. -/
structure PolicyContract.ExpectedObservation (contract : PolicyContract) : Prop where
  terms : contract.observationTerms =
    [("joint_pos", 8), ("joint_vel", 8), ("actions", 8), ("base_ang_vel", 8),
      ("projected_gravity", 8), ("velocity_commands", 0)]
  dimension : contract.actorObservationDim = 795

variable {contract : PolicyContract} {core : Core} {shadow : LivePolicyShadow}

theorem history_made (expected : contract.ExpectedObservation)
    {history : PolicyObservationHistory}
    (made : PolicyObservationHistory.make contract = .ok history) :
    history.defaultJointPos = contract.defaultJointPos ∧ (∀ term, history.maxlen term = kFrames) ∧
      history.actorObservationDim = 795 ∧ history.history = fun _ => [] := by
  have length (term : HistoryTerm) :
      PolicyObservationHistory.historyLength contract term = .ok 8 := by
    unfold PolicyObservationHistory.historyLength
    rw [expected.terms]
    cases term <;> rfl
  simp only [PolicyObservationHistory.make, length, except_bind_eq_ok, Except.ok.injEq] at made
  obtain ⟨_, rfl, _, rfl, _, rfl, _, rfl, _, rfl, same⟩ := made
  cases same
  refine ⟨rfl, fun term => ?_, expected.dimension, rfl⟩
  cases term <;> rfl

/-- Both sides start in the same state. -/
theorem CoresMatch.start (expected : contract.ExpectedObservation)
    (madePython : LivePolicyShadow.make contract = .ok shadow)
    (madeNative : Core.make shadow.handoff.totalSteps contract.defaultJointPos
      contract.actionOffset contract.actionScale = .ok core) : CoresMatch core shadow := by
  simp only [LivePolicyShadow.make, MeasuredPoseActionHandoff.make, jointVector,
    except_bind_eq_ok, raiseIf_eq_ok, requireFinite_eq_ok] at madePython
  obtain ⟨history, madeHistory, _, ⟨_, _, _, _, _, _, offset, sameOffset, scale, sameScale, _,
    usable, madeHandoff⟩, madeShadow⟩ := madePython
  cases madeHandoff
  cases madeShadow
  obtain ⟨defaults, maxlen, dimension, empty⟩ := history_made expected madeHistory
  simp only [Core.make, except_bind_eq_ok, raiseIf_eq_ok, finiteArray_eq_ok] at madeNative
  obtain ⟨_, _, nativeDefaults, sameDefaults, nativeOffset, sameNativeOffset, nativeScale,
    sameNativeScale, _, _, madeCore⟩ := madeNative
  cases madeCore
  have offsets : nativeOffset = offset := by
    funext joint
    exact Double.finite.inj (congrFun (sameNativeOffset.symm.trans sameOffset) joint)
  have scales : nativeScale = scale := by
    funext joint
    exact Double.finite.inj (congrFun (sameNativeScale.symm.trans sameScale) joint)
  subst offsets
  subst scales
  constructor
  · exact defaults.trans sameDefaults
  · exact maxlen
  · exact dimension
  · intro term
    exact congrFun empty term
  · rfl
  · rw [sameNativeOffset]
    exact ⟨rfl, rfl⟩
  · rw [sameNativeScale]
    exact ⟨rfl, rfl⟩
  · exact not_exists.mp usable
  · rfl
  · rfl
  · rfl

/-- In every run the native core and the Python side show the same observations, blended
actions and targets, up to the first input that both reject. -/
theorem policies_agree (expected : contract.ExpectedObservation)
    (madePython : LivePolicyShadow.make contract = .ok shadow)
    (madeNative : Core.make shadow.handoff.totalSteps contract.defaultJointPos
      contract.actionOffset contract.actionScale = .ok core)
    (inputs : List (PolicyInput Double × (Index → Double))) :
    Program.follow nativePolicy inputs core = Program.follow pythonPolicy inputs shadow := by
  apply Program.follow_congr
  · exact fun _ _ input same => CoresMatch.tick input same
  · exact CoresMatch.start expected madePython madeNative

/-- A contract with a handoff of two seconds. -/
def benchContract : PolicyContract :=
  { defaultJointPos := fun _ => .finite (1 / 10)
    actionOffset := fun _ => .finite (1 / 10)
    actionScale := fun _ => .finite (1 / 4)
    observationTerms :=
      [("joint_pos", 8), ("joint_vel", 8), ("actions", 8), ("base_ang_vel", 8),
        ("projected_gravity", 8), ("velocity_commands", 0)]
    actorObservationDim := 795
    policyHz := 50
    deploymentHandoffMode := some "smoothstep_from_pose_equivalent_action"
    deploymentInitialVelocityMode := some "zero"
    deploymentHandoffSeconds := some (.finite 2) }

theorem policies_agree_bench :
    ∃ shadow core, LivePolicyShadow.make benchContract = .ok shadow ∧
      shadow.handoff.totalSteps = 100 ∧
      Core.make 100 benchContract.defaultJointPos benchContract.actionOffset
        benchContract.actionScale = .ok core ∧
      ∀ inputs, Program.follow nativePolicy inputs core =
        Program.follow pythonPolicy inputs shadow := by
  have accepted : ((LivePolicyShadow.make benchContract).map
        fun shadow => shadow.handoff.totalSteps) = .ok 100 ∧
      (Core.make 100 benchContract.defaultJointPos benchContract.actionOffset
        benchContract.actionScale).isOk = true := by
    decide +kernel
  obtain ⟨core, madeNative⟩ := exists_ok_of_isOk accepted.2
  cases madePython : LivePolicyShadow.make benchContract with
  | error what =>
      rw [madePython] at accepted
      cases accepted.1
  | ok shadow =>
      have steps : shadow.handoff.totalSteps = 100 := by
        rw [madePython] at accepted
        exact Except.ok.inj accepted.1
      refine ⟨shadow, core, rfl, steps, madeNative, ?_⟩
      apply policies_agree ⟨rfl, rfl⟩ madePython
      rw [steps]
      exact madeNative

end Contracts

end SpriteRuntime
