import SpriteRuntime.Foundation.Window
import SpriteRuntime.Native.PolicyProtection

/-!
# The policy core

`Core` makes the observation of the policy network from the newest inputs and the frames
before, and turns an action of the network into a joint target.  A single-precision number
is its exact value here, so a conversion neither rounds nor overflows.
-/

namespace SpriteRuntime

open Foundation

/-- `frames`. -/
def kFrames : ℕ := 8

/-- The terms of an observation that keep a history, in their order. -/
inductive HistoryTerm where
  | jointPos
  | jointVel
  | actions
  | baseAngVel
  | projectedGravity
  deriving DecidableEq

namespace HistoryTerm

def all : List HistoryTerm := [jointPos, jointVel, actions, baseAngVel, projectedGravity]

/-- `widths`. -/
def width : HistoryTerm → ℕ
  | jointPos | jointVel | actions => 31
  | baseAngVel | projectedGravity => 3

/-- Where the frames of a term start in the history. -/
def base : HistoryTerm → ℕ
  | jointPos => 0
  | jointVel => 248
  | actions => 496
  | baseAngVel => 744
  | projectedGravity => 768

end HistoryTerm

/-- The sensing and the command of a tick. -/
@[ext] structure PolicyInput (α : Type) where
  jointPosition : Index → α
  jointVelocity : Index → α
  angularVelocity : Fin 3 → α
  projectedGravity : Fin 3 → α
  command : Fin 3 → α

abbrev PolicyArray (α : Type) : Type := Fin 71 → α

/-- The input as the core takes it, one vector after the other. -/
def PolicyInput.array {α : Type} (input : PolicyInput α) : PolicyArray α := fun index =>
  if here : index.val < 31 then input.jointPosition ⟨index, here⟩
  else if here : index.val < 62 then
    input.jointVelocity ⟨index - 31, (by omega : index.val - 31 < 31)⟩
  else if here : index.val < 65 then input.angularVelocity ⟨index - 62, by omega⟩
  else if here : index.val < 68 then input.projectedGravity ⟨index - 65, by omega⟩
  else input.command ⟨index - 68, by omega⟩

/-- The measured position of a joint in the input. -/
def PolicyArray.position (input : PolicyArray Double) (joint : Index) : ℚ :=
  (input (joint.castLE (by decide))).value

/-- An entry of an array; zero beyond its end. -/
def entry {n : ℕ} (array : Fin n → ℚ) (index : ℕ) : ℚ :=
  if inside : index < n then array ⟨index, inside⟩ else 0

/-- The numbers of an array in which every entry is finite. -/
def finiteArray {n : ℕ} (what : String) (array : Fin n → Double) : Except String (Fin n → ℚ) :=
  if ∀ index, (array index).isFinite = true then .ok fun index => (array index).value
  else .error what

theorem finiteArray_eq_ok {n : ℕ} {what : String} {array : Fin n → Double} {values : Fin n → ℚ} :
    finiteArray what array = .ok values ↔ array = fun index => .finite (values index) := by
  unfold finiteArray
  constructor
  · intro passed
    split at passed
    next finite =>
        cases passed
        funext index
        exact Double.eq_finite (finite index)
    · cases passed
  · rintro rfl
    exact if_pos fun index => rfl

structure Core where
  defaults : Index → ℚ
  offset : Index → ℚ
  scale : Index → ℚ
  previous : Index → ℚ := fun _ => 0
  initial : Index → ℚ := fun _ => 0
  history : ℕ → ℚ := fun _ => 0
  steps : ℕ
  completed : ℕ := 0
  ready : Bool := false

namespace Core

/-- How `main` sets up the core. -/
def make (steps : ℕ) (defaults offset scale : Index → Double) : Except String Core := do
  raiseIf (100000 < steps) "invalid handoff steps"
  let what := "invalid affine configuration"
  let defaults ← finiteArray what defaults
  let offset ← finiteArray what offset
  let scale ← finiteArray what scale
  raiseIf (∃ joint, |scale joint| ≤ 1 / 1000000000000) what
  return { defaults, offset, scale, steps }

variable (core : Core)

section Observe

/-- `value` in the loop over the terms. -/
def termValue (input : PolicyArray ℚ) (term : HistoryTerm) (index : ℕ) : ℚ :=
  match term with
  | .jointPos => entry input index - entry core.defaults index
  | .jointVel => entry input (31 + index)
  | .actions => entry core.previous index
  | .baseAngVel => entry input (62 + index)
  | .projectedGravity => entry input (65 + index)

/-- The round of that loop for a term of the given width. -/
def observeTerm (ready : Bool) (base width : ℕ) (value : ℕ → ℚ) (history : ℕ → ℚ) : ℕ → ℚ :=
  fillFrames base width ((List.range kFrames).drop (if ready then 7 else 0)) value
    (if ready then moveDown base width (width * 7) history else history)

/-- The history after the loop. -/
def observed (input : PolicyArray ℚ) : ℕ → ℚ :=
  (HistoryTerm.all.foldl (fun state term =>
    (state.1 + term.width * kFrames,
      observeTerm core.ready state.1 term.width (core.termValue input term) state.2))
    (0, core.history)).2

/-- `observe`. -/
def observe (input : PolicyArray Double) : Program Core String (List ℚ) := do
  let input ← Program.ofExcept (finiteArray "nonfinite input" input)
  Program.modify fun core => { core with history := core.observed input }
  let core ← Program.get
  return (List.range 792).map core.history ++
    (List.range 3).map fun index => entry input (68 + index)

/-- The frames of a term after its round. -/
theorem observeTerm_frames {ready : Bool} {base width : ℕ} {value history : ℕ → ℚ}
    (some : 0 < width) :
    frames (observeTerm ready base width value history) base width kFrames =
      if ready then (frames history base width kFrames).tail ++ [(List.range width).map value]
      else List.replicate kFrames ((List.range width).map value) := by
  cases ready with
  | true => exact frames_slide some
  | false => exact frames_fill

/-- The round of a term leaves the others alone. -/
theorem observeTerm_others {ready : Bool} {base width other otherWidth : ℕ}
    {value history : ℕ → ℚ}
    (apart : other + kFrames * otherWidth ≤ base ∨ base + kFrames * width ≤ other) :
    frames (observeTerm ready base width value history) other otherWidth kFrames =
      frames history other otherWidth kFrames := by
  apply frames_congr
  intro offset inside
  have within : ∀ frame ∈ (List.range kFrames).drop (if ready then 7 else 0), frame < kFrames :=
    fun frame member => List.mem_range.mp (List.mem_of_mem_drop member)
  unfold observeTerm
  rw [fillFrames_beside within (by omega)]
  cases ready with
  | false => rfl
  | true =>
      by_cases empty : width = 0
      · subst empty
        rfl
      · simp only [kFrames] at apart inside
        rw [if_pos rfl, moveDown_apply (Nat.pos_of_ne_zero empty), if_neg (by omega)]

/-- The frames of a term in the history. -/
def window (history : ℕ → ℚ) (term : HistoryTerm) : List (List ℚ) :=
  frames history term.base term.width kFrames

/-- The newest frame of a term. -/
def frame (input : PolicyArray ℚ) (term : HistoryTerm) : List ℚ :=
  (List.range term.width).map (core.termValue input term)

/-- What the loop leaves in the window of every term. -/
theorem window_observed (input : PolicyArray ℚ) (term : HistoryTerm) :
    window (core.observed input) term =
      if core.ready then (window core.history term).tail ++ [core.frame input term]
      else List.replicate kFrames (core.frame input term) := by
  have rounds : core.observed input =
      observeTerm core.ready 768 3 (core.termValue input .projectedGravity)
        (observeTerm core.ready 744 3 (core.termValue input .baseAngVel)
          (observeTerm core.ready 496 31 (core.termValue input .actions)
            (observeTerm core.ready 248 31 (core.termValue input .jointVel)
              (observeTerm core.ready 0 31 (core.termValue input .jointPos) core.history)))) :=
    rfl
  rw [rounds]
  unfold window frame
  cases term with
  | jointPos =>
      simp only [HistoryTerm.base, HistoryTerm.width]
      rw [observeTerm_others (by decide), observeTerm_others (by decide),
        observeTerm_others (by decide), observeTerm_others (by decide),
        observeTerm_frames (by decide)]
  | jointVel =>
      simp only [HistoryTerm.base, HistoryTerm.width]
      rw [observeTerm_others (by decide), observeTerm_others (by decide),
        observeTerm_others (by decide), observeTerm_frames (by decide),
        observeTerm_others (by decide)]
  | actions =>
      simp only [HistoryTerm.base, HistoryTerm.width]
      rw [observeTerm_others (by decide), observeTerm_others (by decide),
        observeTerm_frames (by decide), observeTerm_others (by decide),
        observeTerm_others (by decide)]
  | baseAngVel =>
      simp only [HistoryTerm.base, HistoryTerm.width]
      rw [observeTerm_others (by decide), observeTerm_frames (by decide),
        observeTerm_others (by decide), observeTerm_others (by decide),
        observeTerm_others (by decide)]
  | projectedGravity =>
      simp only [HistoryTerm.base, HistoryTerm.width]
      rw [observeTerm_frames (by decide), observeTerm_others (by decide),
        observeTerm_others (by decide), observeTerm_others (by decide),
        observeTerm_others (by decide)]

/-- The history is the windows of the terms, one after the other. -/
theorem history_flatten (history : ℕ → ℚ) :
    (List.range 792).map history =
      HistoryTerm.all.flatMap fun term => (window history term).flatten := by
  have split : List.range 792 = List.range (248 + (248 + (248 + (24 + 24)))) := rfl
  rw [split, List.range_add, List.range_add, List.range_add, List.range_add]
  simp only [HistoryTerm.all, List.flatMap_cons, List.flatMap_nil, window, flatten_frames,
    HistoryTerm.base, HistoryTerm.width, kFrames, List.map_append, List.map_map,
    Function.comp_def, List.append_nil]
  simp only [Nat.reduceMul, Nat.zero_add, ← Nat.add_assoc, Nat.reduceAdd]

end Observe

section Latch

/-- The action that would hold the measured pose of a joint. -/
def captureInitial (input : PolicyArray Double) (joint : Index) : Core :=
  { core with
    initial := Function.update core.initial joint
      ((input.position joint - core.offset joint) / core.scale joint) }

/-- `alpha`. -/
def alpha : ℚ :=
  if core.completed < core.steps then smoothstep (((core.completed + 1 : ℕ) : ℚ) / core.steps)
  else 1

/-- The count of handoff steps after a call. -/
def advance : Core :=
  { core with
    completed := if core.completed < core.steps then core.completed + 1 else core.completed }

/-- The blended action of a joint. -/
def blendAction (alpha : ℚ) (raw : Index → Double) (joint : Index) : Core :=
  { core with
    previous := Function.update core.previous joint
      ((1 - alpha) * core.initial joint + alpha * (raw joint).value) }

def target (joint : Index) : ℚ := core.offset joint + core.scale joint * core.previous joint

/-- `latch`. -/
def latch (raw : Index → Double) (input : PolicyArray Double) :
    Program Core String (Index → ℚ) := do
  let core ← Program.get
  Program.forEach (if core.ready then [] else List.finRange kJointCount) fun joint => do
    Program.throwIf (|core.scale joint| ≤ 1 / 1000000000000) "invalid action scale"
    Program.modify fun core => core.captureInitial input joint
  let alpha := core.alpha
  Program.modify advance
  Program.forEach (List.finRange kJointCount) fun joint => do
    Program.throwIf (¬(raw joint).isFinite = true) "nonfinite actor output"
    Program.modify fun core => core.blendAction alpha raw joint
  Program.modify fun core => { core with ready := true }
  let core ← Program.get
  return core.target

/-- The core with the actions that would hold the measured pose. -/
def captured (position : Index → ℚ) : Core :=
  { core with
    initial := if core.ready then core.initial
      else fun joint => (position joint - core.offset joint) / core.scale joint }

/-- The core after a call of `latch` with an action of the network. -/
def latched (action position : Index → ℚ) : Core :=
  { (core.captured position).advance with
    previous := fun joint =>
      (1 - core.alpha) * (core.captured position).initial joint + core.alpha * action joint
    ready := true }

/-- A loop over all joints assigns every entry. -/
theorem assign_all (value vector : Index → ℚ) :
    (List.finRange kJointCount).foldl
      (fun vector joint => Function.update vector joint (value joint)) vector = value := by
  funext joint
  have consistent : ∀ other ∈ List.finRange kJointCount, other = joint →
      value other = value joint := by
    rintro other _ rfl
    rfl
  rw [foldl_update_apply consistent, if_pos ⟨joint, List.mem_finRange joint, rfl⟩]

theorem captureInitial_fold (input : PolicyArray Double) :
    (if core.ready then [] else List.finRange kJointCount).foldl
      (fun core joint => core.captureInitial input joint) core = core.captured input.position := by
  have fold (joints : List Index) (core : Core) :
      joints.foldl (fun core joint => core.captureInitial input joint) core =
        { core with
          initial := joints.foldl
            (fun initial joint => Function.update initial joint
              ((input.position joint - core.offset joint) / core.scale joint)) core.initial } := by
    induction joints generalizing core with
    | nil => rfl
    | cons joint rest induction => exact induction _
  rw [fold]
  unfold captured
  split
  · rfl
  · rw [assign_all]

theorem blendAction_fold (alpha : ℚ) (raw : Index → Double) :
    (List.finRange kJointCount).foldl (fun core joint => core.blendAction alpha raw joint) core =
      { core with
        previous := fun joint =>
          (1 - alpha) * core.initial joint + alpha * (raw joint).value } := by
  have fold (joints : List Index) (core : Core) :
      joints.foldl (fun core joint => core.blendAction alpha raw joint) core =
        { core with
          previous := joints.foldl
            (fun previous joint => Function.update previous joint
              ((1 - alpha) * core.initial joint + alpha * (raw joint).value)) core.previous } := by
    induction joints generalizing core with
    | nil => rfl
    | cons joint rest induction => exact induction _
  rw [fold, assign_all]

variable {core} in
/-- When `latch` returns, and with what. -/
theorem latch_eq_done_iff {raw : Index → Double} {input : PolicyArray Double} {final : Core}
    {result : Index → ℚ} :
    latch raw input core = (.done result, final) ↔
      (core.ready = false → ∀ joint, ¬|core.scale joint| ≤ 1 / 1000000000000) ∧
        ∃ action : Index → ℚ, raw = (fun joint => .finite (action joint)) ∧
          final = core.latched action input.position ∧ result = final.target := by
  have finite : (∀ joint ∈ List.finRange kJointCount, ¬¬(raw joint).isFinite = true) ↔
      ∃ action : Index → ℚ, raw = fun joint => .finite (action joint) := by
    constructor
    · intro checked
      refine ⟨fun joint => (raw joint).value, funext fun joint => ?_⟩
      exact Double.eq_finite (not_not.mp (checked joint (List.mem_finRange joint)))
    · rintro ⟨action, rfl⟩ joint _
      exact not_not.mpr rfl
  unfold latch
  simp only [Program.bind_eq_done_iff, Program.get_eq_done_iff, Program.modify_eq_done_iff,
    Program.pure_eq_done_iff, Program.forEach_guarded_eq_done_iff, finite, blendAction_fold,
    and_assoc, exists_and_left, exists_eq_left, exists_const, captureInitial_fold]
  apply and_congr
  · cases core.ready <;> simp
  · constructor
    · rintro ⟨⟨action, rfl⟩, rfl, rfl⟩
      exact ⟨action, rfl, rfl, rfl⟩
    · rintro ⟨action, rfl, rfl, rfl⟩
      exact ⟨⟨action, rfl⟩, rfl, rfl⟩

end Latch

end Core

end SpriteRuntime
