import Mathlib.Analysis.Real.Pi.Bounds
import SpriteRuntime.Foundation.Latch
import SpriteRuntime.Foundation.Program
import SpriteRuntime.Foundation.Wrap

/-!
# The heading controller

The controller turns the measured yaw and the request of the operator into a yaw rate.  It holds
a heading that resets, standing and manual turns replace.  Numbers are those of a field with a
given `pi`; the results are about real numbers.
-/

namespace SpriteRuntime

open Foundation

variable {K : Type} [Field K] [LinearOrder K]

/-- A configuration that `validate` accepts. -/
structure HeadingControllerConfig (K : Type) [Field K] [LinearOrder K] where
  stiffness : K
  yawRateLimitRadS : K
  manualYawDeadbandRadS : K
  stiffnessPositive : 0 < stiffness
  limitPositive : 0 < yawRateLimitRadS
  deadbandRange : 0 ≤ manualYawDeadbandRadS ∧ manualYawDeadbandRadS < yawRateLimitRadS

/-- The checks of `validate`. -/
def HeadingControllerConfig.make (stiffness yawRateLimitRadS manualYawDeadbandRadS : K) :
    Except String (HeadingControllerConfig K) :=
  if stiffnessPositive : 0 < stiffness then
    if limitPositive : 0 < yawRateLimitRadS then
      if deadbandRange : 0 ≤ manualYawDeadbandRadS ∧
          manualYawDeadbandRadS < yawRateLimitRadS then
        .ok
          { stiffness
            yawRateLimitRadS
            manualYawDeadbandRadS
            stiffnessPositive
            limitPositive
            deadbandRange }
      else .error "manual yaw deadband must be non-negative and below the limit"
    else .error "yaw-rate limit must be positive"
  else .error "heading stiffness must be positive"

/-- A call of the controller. -/
inductive HeadingCall (K : Type) where
  | reset (currentYaw : K)
  | update (currentYaw requestedYawRateRadS : K) (standing : Bool)

namespace HeadingCall

def currentYaw : HeadingCall K → K
  | reset currentYaw => currentYaw
  | update currentYaw _ _ => currentYaw

def isUpdate : HeadingCall K → Bool
  | reset _ => false
  | update _ _ _ => true

end HeadingCall

namespace HeadingCommandController

variable [FloorRing K] (pi : K) (config : HeadingControllerConfig K)

/-- `wrap_to_pi`. -/
def wrapToPi (angle : K) : K := floorMod (angle + pi) (2 * pi) - pi

/-- `reset`: the new `_target_yaw`. -/
def reset (currentYaw : K) : Option K := some (wrapToPi pi currentYaw)

/-- `max(-limit, min(limit, value))`. -/
def limited (value : K) : K :=
  max (-config.yawRateLimitRadS) (min config.yawRateLimitRadS value)

/-- `update`: the command and the new `_target_yaw`. -/
def update (currentYaw requestedYawRateRadS : K) (standing : Bool) (targetYaw : Option K) :
    K × Option K :=
  let currentYaw := wrapToPi pi currentYaw
  let targetYaw := if targetYaw.isNone then reset pi currentYaw else targetYaw
  if standing then (0, reset pi currentYaw)
  else if config.manualYawDeadbandRadS < |requestedYawRateRadS| then
    (limited config requestedYawRateRadS, reset pi currentYaw)
  else
    let error := wrapToPi pi (targetYaw.getD 0 - currentYaw)
    (limited config (config.stiffness * error), targetYaw)

/-- A call: what it returns, if it returns a number, and the new `_target_yaw`. -/
def call (targetYaw : Option K) : HeadingCall K → Option K × Option K
  | .reset currentYaw => (none, reset pi currentYaw)
  | .update currentYaw requestedYawRateRadS standing =>
      let answer := update pi config currentYaw requestedYawRateRadS standing targetYaw
      (some answer.1, answer.2)

/-- The `_target_yaw` after some calls of a new controller. -/
def targetAfter (calls : List (HeadingCall K)) : Option K :=
  calls.foldl (fun targetYaw next => (call pi config targetYaw next).2) none

/-- What some calls return, each with the `_target_yaw` after it. -/
def run : List (HeadingCall K) → Option K → List (Option K × Option K)
  | [], _ => []
  | next :: rest, targetYaw =>
      call pi config targetYaw next :: run rest (call pi config targetYaw next).2

/-- What an update returns after some calls. -/
def command (before : List (HeadingCall K)) (currentYaw requestedYawRateRadS : K)
    (standing : Bool) : K :=
  (update pi config currentYaw requestedYawRateRadS standing (targetAfter pi config before)).1

/-! ## The held heading -/

omit [FloorRing K] in
/-- A call takes its yaw as the heading: a reset, an update that opens the run, standing, and a
manual turn. -/
def Takes (opens : List (HeadingCall K) → Prop) (before : List (HeadingCall K)) :
    HeadingCall K → Prop
  | .reset _ => True
  | .update _ requestedYawRateRadS standing =>
      opens before ∨ standing = true ∨ config.manualYawDeadbandRadS < |requestedYawRateRadS|

/-- The last call that took its yaw, when only the first call of all opens the run. -/
def HeldCall (calls : List (HeadingCall K)) (held : HeadingCall K) : Prop :=
  LastTaking (Takes config (· = [])) calls held

section Law

variable [IsStrictOrderedRing K] {pi} (positive : 0 < pi) {config}
  {targetYaw : Option K} {next : HeadingCall K} {before calls : List (HeadingCall K)}

include positive

theorem reset_wrapToPi (currentYaw : K) :
    reset pi (wrapToPi pi currentYaw) = some (wrapToPi pi currentYaw) :=
  congrArg some (wrap_wrap positive currentYaw)

/-- A call that takes its yaw leaves it wrapped as the target. -/
theorem call_snd_taken (opening : before = [] → targetYaw = none)
    (taken : Takes config (· = []) before next) :
    (call pi config targetYaw next).2 = some (wrapToPi pi next.currentYaw) := by
  cases next with
  | reset currentYaw => rfl
  | update currentYaw requested standing =>
      have again := reset_wrapToPi positive currentYaw
      simp only [call, update, HeadingCall.currentYaw]
      split_ifs with stands manual unset
      · exact again
      · exact again
      · exact again
      · exfalso
        rcases taken with first | stands' | manual'
        · exact unset (by rw [opening first]; rfl)
        · exact stands stands'
        · exact manual manual'

omit positive [IsStrictOrderedRing K] in
/-- The other calls leave the target. -/
theorem call_snd_untaken (known : targetYaw.isNone = false)
    (untaken : ¬Takes config (· = []) before next) :
    (call pi config targetYaw next).2 = targetYaw := by
  cases next with
  | reset currentYaw => exact absurd trivial untaken
  | update currentYaw requested standing =>
      simp only [Takes, not_or] at untaken
      simp only [call, update, if_neg untaken.2.1, if_neg untaken.2.2, known, Bool.false_eq_true,
        if_false]

omit positive [IsStrictOrderedRing K] in
theorem targetAfter_snoc :
    targetAfter pi config (before ++ [next]) =
      (call pi config (targetAfter pi config before) next).2 := by
  rw [targetAfter, List.foldl_append]
  rfl

/-- After some calls there is a held one, and the target is its yaw. -/
theorem targetAfter_held (some_ : calls ≠ []) :
    (∃ held, HeldCall config calls held) ∧
      ∀ held, HeldCall config calls held →
        targetAfter pi config calls = some (wrapToPi pi held.currentYaw) := by
  induction calls using List.reverseRecOn with
  | nil => exact absurd rfl some_
  | append_singleton before next induction =>
      rw [targetAfter_snoc]
      by_cases taken : Takes config (· = []) before next
      · have opening : before = [] → targetAfter pi config before = none := by
          rintro rfl
          rfl
        rw [call_snd_taken positive opening taken]
        refine ⟨⟨next, (lastTaking_snoc_taken taken).mpr rfl⟩, ?_⟩
        intro held last
        rw [(lastTaking_snoc_taken taken).mp last]
      · have later : before ≠ [] := by
          rintro rfl
          apply taken
          cases next with
          | reset currentYaw => trivial
          | update currentYaw requested standing => exact .inl rfl
        obtain ⟨⟨held, last⟩, target⟩ := induction later
        have known : (targetAfter pi config before).isNone = false := by
          rw [target held last]
          rfl
        rw [call_snd_untaken known taken]
        refine ⟨⟨held, (lastTaking_snoc_untaken taken).mpr last⟩, ?_⟩
        intro other otherLast
        exact target other ((lastTaking_snoc_untaken taken).mp otherLast)

/-- A quiet update corrects toward the held heading. -/
theorem command_quiet {currentYaw requested : K}
    (quiet : ¬config.manualYawDeadbandRadS < |requested|) {held : HeadingCall K}
    (last : HeldCall config (before ++ [.update currentYaw requested false]) held) :
    command pi config before currentYaw requested false =
      limited config (config.stiffness * wrapToPi pi (held.currentYaw - currentYaw)) := by
  have target := (targetAfter_held positive (by simp)).2 held last
  rw [targetAfter_snoc] at target
  simp only [call, update, Bool.false_eq_true, if_false, if_neg quiet] at target
  simp only [command, update, Bool.false_eq_true, if_false, if_neg quiet, target,
    Option.getD_some]
  congr 2
  exact wrap_wrap_sub_wrap positive held.currentYaw currentYaw

omit positive [FloorRing K] in
theorem abs_limited_le (value : K) : |limited config value| ≤ config.yawRateLimitRadS := by
  have limitPositive := config.limitPositive
  rw [abs_le, limited]
  constructor
  · exact le_max_left _ _
  · exact max_le (by linarith) (min_le_left _ _)

omit positive in
theorem abs_command_le (currentYaw requested : K) (standing : Bool) :
    |command pi config before currentYaw requested standing| ≤ config.yawRateLimitRadS := by
  simp only [command, update]
  split_ifs
  · rw [abs_zero]
    exact config.limitPositive.le
  all_goals exact abs_limited_le _

end Law

/-! ## Whole turns -/

/-- The second call is the first with whole turns added to its yaw. -/
inductive Turned : HeadingCall K → HeadingCall K → Prop where
  | reset (currentYaw : K) (turns : ℤ) :
      Turned (.reset currentYaw) (.reset (currentYaw + turns * (2 * pi)))
  | update (currentYaw requested : K) (standing : Bool) (turns : ℤ) :
      Turned (.update currentYaw requested standing)
        (.update (currentYaw + turns * (2 * pi)) requested standing)

section Turns

variable [IsStrictOrderedRing K] {pi} (positive : 0 < pi) {config}

include positive

theorem call_turned {first second : HeadingCall K} (turned : Turned pi first second)
    (targetYaw : Option K) :
    call pi config targetYaw second = call pi config targetYaw first := by
  cases turned with
  | reset currentYaw turns =>
      have same : wrapToPi pi (currentYaw + turns * (2 * pi)) = wrapToPi pi currentYaw :=
        wrap_add_turns positive currentYaw turns
      simp only [call, reset, same]
  | update currentYaw requested standing turns =>
      have same : wrapToPi pi (currentYaw + turns * (2 * pi)) = wrapToPi pi currentYaw :=
        wrap_add_turns positive currentYaw turns
      simp only [call, update, same]

theorem run_turned {calls others : List (HeadingCall K)}
    (turned : List.Forall₂ (Turned pi) calls others) (targetYaw : Option K) :
    run pi config others targetYaw = run pi config calls targetYaw := by
  induction turned generalizing targetYaw with
  | nil => rfl
  | cons first rest induction => rw [run, run, call_turned positive first, induction]

end Turns

end HeadingCommandController

section Real

open HeadingCommandController

/-- **The heading law.**  An update stays within the limit; standing it is zero, in a manual turn
the limited request, and otherwise it corrects toward the yaw of the last call that was a reset,
the first call, standing or a manual turn.  Whole turns on the inputs change nothing. -/
theorem headingController_law (config : HeadingControllerConfig ℝ) :
    (∀ before currentYaw requested standing,
      |command Real.pi config before currentYaw requested standing| ≤ config.yawRateLimitRadS ∧
      (standing = true → command Real.pi config before currentYaw requested standing = 0) ∧
      (standing = false → config.manualYawDeadbandRadS < |requested| →
        command Real.pi config before currentYaw requested standing = limited config requested) ∧
      (standing = false → ¬config.manualYawDeadbandRadS < |requested| →
        (∃ held, HeldCall config (before ++ [.update currentYaw requested standing]) held) ∧
        ∀ held, HeldCall config (before ++ [.update currentYaw requested standing]) held →
          command Real.pi config before currentYaw requested standing =
            limited config
              (config.stiffness * wrapToPi Real.pi (held.currentYaw - currentYaw)))) ∧
    ∀ calls others, List.Forall₂ (Turned Real.pi) calls others →
      run Real.pi config others none = run Real.pi config calls none := by
  refine ⟨?_, ?_⟩
  · intro before currentYaw requested standing
    refine ⟨abs_command_le currentYaw requested standing, ?_, ?_, ?_⟩
    · rintro rfl
      rfl
    · rintro rfl manual
      simp only [command, update, Bool.false_eq_true, if_false, if_pos manual]
    · rintro rfl quiet
      refine ⟨(targetAfter_held Real.pi_pos (by simp)).1, ?_⟩
      intro held last
      exact command_quiet Real.pi_pos quiet last
  · intro calls others turned
    exact run_turned Real.pi_pos turned none

/-- No update came before. -/
def NoUpdate (before : List (HeadingCall ℝ)) : Prop :=
  ∀ earlier ∈ before, earlier.isUpdate = false

/-- A first update after a reset does not take its yaw: it turns back to the reset. -/
theorem firstUpdate_not_held :
    ¬∀ (config : HeadingControllerConfig ℝ) before currentYaw requested held,
      ¬config.manualYawDeadbandRadS < |requested| →
      LastTaking (Takes config NoUpdate) (before ++ [.update currentYaw requested false]) held →
        command Real.pi config before currentYaw requested false =
          limited config
            (config.stiffness * wrapToPi Real.pi (held.currentYaw - currentYaw)) := by
  intro law
  let config : HeadingControllerConfig ℝ :=
    { stiffness := 1 / 2
      yawRateLimitRadS := 1 / 5
      manualYawDeadbandRadS := 1 / 100
      stiffnessPositive := by norm_num
      limitPositive := by norm_num
      deadbandRange := by norm_num }
  have quiet : ¬config.manualYawDeadbandRadS < |(0 : ℝ)| := by norm_num [config]
  have opens : NoUpdate [.reset (0 : ℝ)] := by
    intro earlier member
    rw [List.mem_singleton.mp member]
    rfl
  have literal := law config [.reset 0] 1 0 (.update 1 0 false) quiet
    ((lastTaking_snoc_taken (.inl opens)).mpr rfl)
  have opened : ¬Takes config (· = []) [.reset (0 : ℝ)] (.update 1 0 false) := by
    rintro (none | stands | manual)
    · cases none
    · cases stands
    · exact quiet manual
  have held : HeldCall config ([.reset 0] ++ [.update 1 0 false]) (.reset 0) := by
    apply (lastTaking_snoc_untaken opened).mpr
    have taken : Takes config (· = []) [] (.reset (0 : ℝ)) := trivial
    exact (lastTaking_snoc_taken taken).mpr rfl
  have actual := command_quiet Real.pi_pos quiet held
  have three := Real.pi_gt_three
  have back : wrapToPi Real.pi ((0 : ℝ) - 1) = 0 - 1 :=
    wrap_of_mem (by linarith) (by linarith)
  have none : wrapToPi Real.pi ((1 : ℝ) - 1) = 1 - 1 :=
    wrap_of_mem (by linarith) (by linarith)
  rw [literal] at actual
  simp only [HeadingCall.currentYaw, back, none, limited, config] at actual
  norm_num at actual

end Real

end SpriteRuntime
