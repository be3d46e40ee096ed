import Mathlib.Analysis.Calculus.Deriv.Pow
import Mathlib.Tactic.Positivity
import SpriteRuntime.Foundation.Motion
import SpriteRuntime.Runtime.Damiao
import SpriteRuntime.Runtime.HardwareInventory

/-!
# The powered motion of a single joint

The joint goes to one side, to the other side and back, with a pause after each way.  A way is a
quintic blend, and only the frozen profiles and signs are accepted.  Arithmetic is exact.
-/

namespace SpriteRuntime

open Foundation

section Motion

variable {K : Type} [Field K] [LinearOrder K]

/-- `_quintic_smoothstep`. -/
def quinticSmoothstep (fraction : K) : K × K :=
  let x := min (max fraction 0) 1
  (6 * x ^ 5 - 15 * x ^ 4 + 10 * x ^ 3, 30 * x ^ 4 - 60 * x ^ 3 + 30 * x ^ 2)

/-- `requested_profile`. -/
structure MotionProfile (K : Type) where
  excursionRad : K
  transitionS : K
  dwellS : K
  rateHz : K
  kp : K
  kd : K
  maximumPositionErrorRad : K
  maximumVelocityRadS : K
  maximumTorqueNm : K
  mosTemperatureLimitC : ℤ
  rotorTemperatureLimitC : ℤ
  deriving DecidableEq

/-- `math.radians`. -/
def radians (degrees : K) : K := degrees * ((mathPi : ℚ) : K) / 180

def microProfile : MotionProfile K :=
  ⟨2 / 100, 1, 5 / 10, 50, 1, 2 / 10, 5 / 100, 2 / 10, 1 / 10, 100, 80⟩

def visibleProfile : MotionProfile K :=
  ⟨radians 10, 4, 1, 50, 2, 2 / 10, 8 / 100, 8 / 10, 25 / 100, 100, 80⟩

def wristProfile : MotionProfile K :=
  ⟨radians 5, 4, 1, 50, 2, 2 / 10, 8 / 100, 6 / 10, 2 / 10, 100, 80⟩

def hipYawProfile : MotionProfile K :=
  ⟨radians 5, 4, 1, 50, 8, 3 / 10, 12 / 100, 6 / 10, 1, 100, 80⟩

def hipYawMediumProfile : MotionProfile K :=
  ⟨radians 5, 4, 1, 50, 20, 5 / 10, 15 / 100, 8 / 10, 25 / 10, 100, 80⟩

def acceptedProfiles : List (MotionProfile K) :=
  [microProfile, visibleProfile, wristProfile, hipYawProfile, hipYawMediumProfile]

/-- A motion that has passed the checks of the arguments. -/
structure AcceptedMotion (K : Type) [Field K] [LinearOrder K] where
  profile : MotionProfile K
  jointToMotorSign : K
  accepted : profile ∈ acceptedProfiles
  signed : jointToMotorSign = -1 ∨ jointToMotorSign = 1

/-- The checks at the beginning of `run_head_yaw_low_gain_motion`. -/
def acceptMotion (endpoint : DamiaoFeedbackEndpoint) (expected : String × String × ℤ)
    (profile : MotionProfile K) (jointToMotorSign : K) (softPositionRad : K × K) :
    Except String (AcceptedMotion K) := do
  raiseIf ((endpoint.motorName, endpoint.interface, endpoint.canId) ≠ expected)
    (s!"powered motion is restricted to {expected.2.1} ID " ++ hexId expected.2.2.toNat ++
      s!" {expected.1}")
  if signed : jointToMotorSign = -1 ∨ jointToMotorSign = 1 then
    if accepted : profile ∈ acceptedProfiles then
      raiseIf (softPositionRad.2 ≤ softPositionRad.1)
        s!"{endpoint.motorName} soft position range is invalid"
      return { profile, jointToMotorSign, accepted, signed }
    else throw "single-joint powered-motion trajectory, gains, and guards are frozen"
  else throw "joint-to-motor sign must be -1 or +1"

/-- The motion that is accepted is the requested one. -/
theorem requested_of_acceptMotion {endpoint : DamiaoFeedbackEndpoint}
    {expected : String × String × ℤ} {profile : MotionProfile K} {jointToMotorSign : K}
    {softPositionRad : K × K} {motion : AcceptedMotion K}
    (accept : acceptMotion endpoint expected profile jointToMotorSign softPositionRad =
      .ok motion) :
    motion.profile = profile ∧ motion.jointToMotorSign = jointToMotorSign := by
  rw [acceptMotion] at accept
  obtain ⟨-, -, accept⟩ := except_bind_eq_ok.mp accept
  split at accept
  · split at accept
    · obtain ⟨-, -, accept⟩ := except_bind_eq_ok.mp accept
      cases accept
      exact ⟨rfl, rfl⟩
    · cases accept
  · cases accept

/-- A phase of the motion. -/
structure MotionPhase (K : Type) where
  duration : K
  start : K
  stop : K

namespace MotionPhase

/-- The target of a phase some time after its start. -/
def target (phase : MotionPhase K) (remaining : K) : K × K :=
  if phase.start = phase.stop then (phase.start, 0)
  else
    let blend := quinticSmoothstep (remaining / phase.duration)
    let delta := phase.stop - phase.start
    (phase.start + delta * blend.1, delta * blend.2 / phase.duration)

/-- The loop over the phases, with the target after the last one. -/
def walk (last : K) : List (MotionPhase K) → K → K × K
  | [], _ => (last, 0)
  | phase :: rest, remaining =>
      if remaining ≤ phase.duration then phase.target remaining
      else walk last rest (remaining - phase.duration)

end MotionPhase

namespace AcceptedMotion

variable (motion : AcceptedMotion K)

/-- `duration_s`. -/
def durationS : K := 3 * motion.profile.transitionS + 3 * motion.profile.dwellS

def signedExcursion : K := motion.jointToMotorSign * motion.profile.excursionRad

/-- `phases`. -/
def phases (initialPosition : K) : List (MotionPhase K) :=
  let signedExcursion := motion.signedExcursion
  [⟨motion.profile.transitionS, initialPosition, initialPosition + signedExcursion⟩,
    ⟨motion.profile.dwellS, initialPosition + signedExcursion, initialPosition + signedExcursion⟩,
    ⟨motion.profile.transitionS, initialPosition + signedExcursion,
      initialPosition - signedExcursion⟩,
    ⟨motion.profile.dwellS, initialPosition - signedExcursion, initialPosition - signedExcursion⟩,
    ⟨motion.profile.transitionS, initialPosition - signedExcursion, initialPosition⟩,
    ⟨motion.profile.dwellS, initialPosition, initialPosition⟩]

/-- `target_at`. -/
def targetAt (initialPosition elapsed : K) : K × K :=
  MotionPhase.walk initialPosition (motion.phases initialPosition)
    (min (max elapsed 0) motion.durationS)

end AcceptedMotion

end Motion

/-! ## The blend -/

section Blend

/-- The two polynomials of the blend. -/
def quintic (x : ℝ) : ℝ × ℝ :=
  (6 * x ^ 5 - 15 * x ^ 4 + 10 * x ^ 3, 30 * x ^ 4 - 60 * x ^ 3 + 30 * x ^ 2)

theorem quinticSmoothstep_before {fraction : ℝ} (before : fraction ≤ 0) :
    quinticSmoothstep fraction = (0, 0) := by
  simp [quinticSmoothstep, max_eq_right before]

theorem quinticSmoothstep_after {fraction : ℝ} (after : 1 ≤ fraction) :
    quinticSmoothstep fraction = (1, 0) := by
  have positive : 0 ≤ fraction := zero_le_one.trans after
  simp only [quinticSmoothstep, max_eq_left positive, min_eq_right after]
  norm_num

theorem quinticSmoothstep_inside {fraction : ℝ} (low : 0 ≤ fraction) (high : fraction ≤ 1) :
    quinticSmoothstep fraction = quintic fraction := by
  simp only [quinticSmoothstep, max_eq_left low, min_eq_left high]
  rfl

theorem smooth_quintic : Motion.Smooth quintic := by
  constructor
  · intro x
    have fifth := (hasDerivAt_pow 5 x).const_mul 6
    have fourth := (hasDerivAt_pow 4 x).const_mul 15
    have third := (hasDerivAt_pow 3 x).const_mul 10
    refine ((fifth.sub fourth).add third).congr_deriv ?_
    simp only [quintic]
    push_cast
    ring
  · have polynomial : (fun x => (quintic x).2) =
        fun x : ℝ => 30 * x ^ 4 - 60 * x ^ 3 + 30 * x ^ 2 := rfl
    rw [polynomial]
    fun_prop

/-- The polynomials rest at both ends, so that the clamped blend is smooth. -/
theorem smooth_quinticSmoothstep : Motion.Smooth quinticSmoothstep := by
  have pieces : (quinticSmoothstep : ℝ → ℝ × ℝ) = fun x =>
      if x ≤ 0 then (0, 0) else if x ≤ 1 then quintic x else (1, 0) := by
    funext x
    by_cases before : x ≤ 0
    · rw [if_pos before, quinticSmoothstep_before before]
    · rw [if_neg before]
      by_cases inside : x ≤ 1
      · rw [if_pos inside, quinticSmoothstep_inside (not_le.mp before).le inside]
      · rw [if_neg inside, quinticSmoothstep_after (not_le.mp inside).le]
  rw [pieces]
  apply (Motion.smooth_rest 0).glue
  · apply smooth_quintic.glue (Motion.smooth_rest 1)
    norm_num [quintic]
  · norm_num [quintic]

/-- The blend stays between its ends, and its speed is greatest in the middle. -/
theorem quinticSmoothstep_bounds (fraction : ℝ) :
    (0 ≤ (quinticSmoothstep fraction).1 ∧ (quinticSmoothstep fraction).1 ≤ 1) ∧
      0 ≤ (quinticSmoothstep fraction).2 ∧ (quinticSmoothstep fraction).2 ≤ 1875 / 1000 := by
  rcases le_total fraction 0 with before | low
  · rw [quinticSmoothstep_before before]
    norm_num
  · rcases le_total 1 fraction with after | high
    · rw [quinticSmoothstep_after after]
      norm_num
    · rw [quinticSmoothstep_inside low high, quintic]
      have rest : 0 ≤ 1 - fraction := sub_nonneg.mpr high
      refine ⟨⟨?_, ?_⟩, ?_, ?_⟩
      · have product : 0 ≤ fraction ^ 3 * (6 * (1 - fraction) ^ 2 + 3 * (1 - fraction) + 1) := by
          positivity
        linarith [show 6 * fraction ^ 5 - 15 * fraction ^ 4 + 10 * fraction ^ 3 =
          fraction ^ 3 * (6 * (1 - fraction) ^ 2 + 3 * (1 - fraction) + 1) by ring]
      · have product : 0 ≤ (1 - fraction) ^ 3 * (6 * fraction ^ 2 + 3 * fraction + 1) := by
          positivity
        linarith [show 1 - (6 * fraction ^ 5 - 15 * fraction ^ 4 + 10 * fraction ^ 3) =
          (1 - fraction) ^ 3 * (6 * fraction ^ 2 + 3 * fraction + 1) by ring]
      · have square : 0 ≤ 30 * (fraction * (1 - fraction)) ^ 2 := by positivity
        linarith [show 30 * fraction ^ 4 - 60 * fraction ^ 3 + 30 * fraction ^ 2 =
          30 * (fraction * (1 - fraction)) ^ 2 by ring]
      · have middle : fraction * (1 - fraction) ≤ 1 / 4 := by
          nlinarith [sq_nonneg (2 * fraction - 1)]
        have square : (fraction * (1 - fraction)) ^ 2 ≤ (1 / 4) ^ 2 :=
          pow_le_pow_left₀ (mul_nonneg low rest) middle 2
        linarith [show 30 * fraction ^ 4 - 60 * fraction ^ 3 + 30 * fraction ^ 2 =
          30 * (fraction * (1 - fraction)) ^ 2 by ring]

end Blend

/-! ## The phases -/

namespace MotionPhase

section Target

variable (phase : MotionPhase ℝ)

theorem smooth_target : Motion.Smooth phase.target := by
  by_cases still : phase.start = phase.stop
  · have rest : phase.target = fun _ => (phase.start, 0) := by
      funext remaining
      rw [target, if_pos still]
    rw [rest]
    exact Motion.smooth_rest phase.start
  · have moving : phase.target = fun remaining =>
        (phase.start + (phase.stop - phase.start) *
            (quinticSmoothstep (remaining / phase.duration)).1,
          (phase.stop - phase.start) * (quinticSmoothstep (remaining / phase.duration)).2 /
            phase.duration) := by
      funext remaining
      rw [target, if_neg still]
    rw [moving]
    exact smooth_quinticSmoothstep.scale phase.start (phase.stop - phase.start) phase.duration

variable {phase} {remaining : ℝ}

theorem target_before (lasting : 0 < phase.duration) (before : remaining ≤ 0) :
    phase.target remaining = (phase.start, 0) := by
  have fraction : remaining / phase.duration ≤ 0 :=
    div_nonpos_of_nonpos_of_nonneg before lasting.le
  simp [target, quinticSmoothstep_before fraction]

theorem target_after (lasting : 0 < phase.duration) (after : phase.duration ≤ remaining) :
    phase.target remaining = (phase.stop, 0) := by
  by_cases still : phase.start = phase.stop
  · rw [target, if_pos still, still]
  · have fraction : 1 ≤ remaining / phase.duration := (one_le_div lasting).mpr after
    rw [target, if_neg still, quinticSmoothstep_after fraction]
    simp

/-- The target stays between the ends of the phase. -/
theorem target_within {low high : ℝ} (start : low ≤ phase.start ∧ phase.start ≤ high)
    (stop : low ≤ phase.stop ∧ phase.stop ≤ high) :
    low ≤ (phase.target remaining).1 ∧ (phase.target remaining).1 ≤ high := by
  by_cases still : phase.start = phase.stop
  · rw [target, if_pos still]
    exact start
  · rw [target, if_neg still]
    obtain ⟨⟨atLeast, atMost⟩, -⟩ := quinticSmoothstep_bounds (remaining / phase.duration)
    constructor <;> nlinarith

theorem target_speed (lasting : 0 < phase.duration) :
    |(phase.target remaining).2| ≤ 1875 / 1000 * |phase.stop - phase.start| / phase.duration := by
  by_cases still : phase.start = phase.stop
  · rw [target, if_pos still, abs_zero]
    positivity
  · rw [target, if_neg still, abs_div, abs_mul, abs_of_pos lasting]
    obtain ⟨-, atLeast, atMost⟩ := quinticSmoothstep_bounds (remaining / phase.duration)
    rw [abs_of_nonneg atLeast, mul_comm]
    gcongr

end Target

/-- Every phase starts where the one before it has stopped, and the last one stops at `last`. -/
def Chained (last : ℝ) : ℝ → List (MotionPhase ℝ) → Prop
  | start, [] => start = last
  | start, phase :: rest =>
      phase.start = start ∧ 0 < phase.duration ∧ Chained last phase.stop rest

section Walk

variable {last : ℝ}

theorem walk_before {phases : List (MotionPhase ℝ)} {start remaining : ℝ}
    (chained : Chained last start phases) (before : remaining ≤ 0) :
    walk last phases remaining = (start, 0) := by
  cases phases with
  | nil => rw [walk, show start = last from chained]
  | cons phase rest =>
      obtain ⟨here, lasting, -⟩ := chained
      rw [walk, if_pos (before.trans lasting.le), target_before lasting before, here]

theorem sum_duration_nonneg {phases : List (MotionPhase ℝ)} :
    ∀ {start : ℝ}, Chained last start phases → 0 ≤ (phases.map duration).sum := by
  induction phases with
  | nil =>
      intro start chained
      exact le_rfl
  | cons phase rest ih =>
      intro start chained
      obtain ⟨-, lasting, following⟩ := chained
      exact add_nonneg lasting.le (ih following)

theorem walk_after {phases : List (MotionPhase ℝ)} :
    ∀ {start remaining : ℝ}, Chained last start phases →
      (phases.map duration).sum ≤ remaining → walk last phases remaining = (last, 0) := by
  induction phases with
  | nil =>
      intro start remaining chained after
      rfl
  | cons phase rest ih =>
      intro start remaining chained after
      obtain ⟨-, lasting, following⟩ := chained
      rw [List.map_cons, List.sum_cons] at after
      by_cases inside : remaining ≤ phase.duration
      · have rest_lasts := sum_duration_nonneg following
        have finished : walk last rest 0 = (last, 0) := ih following (by linarith)
        have arrived : ((last, 0) : ℝ × ℝ) = (phase.stop, 0) :=
          finished.symm.trans (walk_before following le_rfl)
        rw [walk, if_pos inside, target_after lasting (by linarith), arrived]
      · rw [walk, if_neg inside]
        exact ih following (by linarith)

/-- One phase after the other is smooth, since every one ends at rest where the next begins. -/
theorem smooth_walk {phases : List (MotionPhase ℝ)} :
    ∀ {start : ℝ}, Chained last start phases → Motion.Smooth (walk last phases) := by
  induction phases with
  | nil =>
      intro start chained
      exact Motion.smooth_rest last
  | cons phase rest ih =>
      intro start chained
      obtain ⟨-, lasting, following⟩ := chained
      apply phase.smooth_target.glue ((ih following).delay phase.duration)
      rw [target_after lasting le_rfl, walk_before following (sub_self _).le]

theorem walk_within {low high : ℝ} (final : low ≤ last ∧ last ≤ high)
    {phases : List (MotionPhase ℝ)}
    (within : ∀ phase ∈ phases, (low ≤ phase.start ∧ phase.start ≤ high) ∧
      low ≤ phase.stop ∧ phase.stop ≤ high) (remaining : ℝ) :
    low ≤ (walk last phases remaining).1 ∧ (walk last phases remaining).1 ≤ high := by
  induction phases generalizing remaining with
  | nil => exact final
  | cons phase rest ih =>
      obtain ⟨⟨start, stop⟩, following⟩ := List.forall_mem_cons.mp within
      rw [walk]
      by_cases inside : remaining ≤ phase.duration
      · rw [if_pos inside]
        exact target_within start stop
      · rw [if_neg inside]
        exact ih following (remaining - phase.duration)

theorem walk_speed {bound : ℝ} (low : 0 ≤ bound) {phases : List (MotionPhase ℝ)}
    (slow : ∀ phase ∈ phases, 0 < phase.duration ∧
      1875 / 1000 * |phase.stop - phase.start| / phase.duration ≤ bound) (remaining : ℝ) :
    |(walk last phases remaining).2| ≤ bound := by
  induction phases generalizing remaining with
  | nil => rwa [walk, abs_zero]
  | cons phase rest ih =>
      obtain ⟨⟨lasting, here⟩, following⟩ := List.forall_mem_cons.mp slow
      rw [walk]
      by_cases inside : remaining ≤ phase.duration
      · rw [if_pos inside]
        exact (target_speed lasting).trans here
      · rw [if_neg inside]
        exact ih following (remaining - phase.duration)

end Walk

end MotionPhase

/-! ## The accepted profiles -/

/-- What the motion needs of a profile. -/
structure GentleProfile (profile : MotionProfile ℝ) : Prop where
  excursion : 0 < profile.excursionRad
  transition : 0 < profile.transitionS
  dwell : 0 < profile.dwellS
  speed : 1875 / 1000 * 2 * profile.excursionRad / profile.transitionS <
    profile.maximumVelocityRadS

theorem gentleProfile_of_accepted {profile : MotionProfile ℝ}
    (accepted : profile ∈ acceptedProfiles) : GentleProfile profile := by
  simp only [acceptedProfiles, List.mem_cons, List.not_mem_nil, or_false] at accepted
  rcases accepted with rfl | rfl | rfl | rfl | rfl <;>
    constructor <;>
    norm_num [microProfile, visibleProfile, wristProfile, hipYawProfile, hipYawMediumProfile,
      radians, mathPi]

namespace AcceptedMotion

variable (motion : AcceptedMotion ℝ) (initialPosition : ℝ)

theorem gentleProfile : GentleProfile motion.profile :=
  gentleProfile_of_accepted motion.accepted

theorem abs_signedExcursion : |motion.signedExcursion| = motion.profile.excursionRad := by
  have positive := motion.gentleProfile.excursion
  rcases motion.signed with sign | sign <;>
    rw [signedExcursion, sign] <;>
    simp [abs_of_pos positive]

theorem chained_phases :
    MotionPhase.Chained initialPosition initialPosition (motion.phases initialPosition) := by
  have transition := motion.gentleProfile.transition
  have dwell := motion.gentleProfile.dwell
  exact ⟨rfl, transition, rfl, dwell, rfl, transition, rfl, dwell, rfl, transition, rfl, dwell,
    rfl⟩

theorem sum_durations :
    ((motion.phases initialPosition).map MotionPhase.duration).sum = motion.durationS := by
  simp only [phases, durationS, List.map_cons, List.map_nil, List.sum_cons, List.sum_nil]
  ring

/-- The clamp of the elapsed time changes nothing, since the walk rests at both ends. -/
theorem targetAt_eq_walk (elapsed : ℝ) :
    motion.targetAt initialPosition elapsed =
      MotionPhase.walk initialPosition (motion.phases initialPosition) elapsed := by
  have chained := motion.chained_phases initialPosition
  have total := motion.sum_durations initialPosition
  have lasting : 0 ≤ motion.durationS := total ▸ MotionPhase.sum_duration_nonneg chained
  rw [targetAt]
  rcases le_total elapsed 0 with before | started
  · rw [max_eq_right before, min_eq_left lasting, MotionPhase.walk_before chained le_rfl,
      MotionPhase.walk_before chained before]
  · rw [max_eq_left started]
    rcases le_total elapsed motion.durationS with during | after
    · rw [min_eq_left during]
    · rw [min_eq_right after, MotionPhase.walk_after chained total.le,
        MotionPhase.walk_after chained (total.trans_le after)]

theorem phases_within : ∀ phase ∈ motion.phases initialPosition,
    (initialPosition - motion.profile.excursionRad ≤ phase.start ∧
        phase.start ≤ initialPosition + motion.profile.excursionRad) ∧
      initialPosition - motion.profile.excursionRad ≤ phase.stop ∧
        phase.stop ≤ initialPosition + motion.profile.excursionRad := by
  have excursion := motion.gentleProfile.excursion
  obtain ⟨lower, upper⟩ := abs_le.mp motion.abs_signedExcursion.le
  simp only [phases, List.forall_mem_cons, List.not_mem_nil, false_implies, implies_true, and_true]
  refine ⟨⟨⟨?_, ?_⟩, ?_, ?_⟩, ⟨⟨?_, ?_⟩, ?_, ?_⟩, ⟨⟨?_, ?_⟩, ?_, ?_⟩, ⟨⟨?_, ?_⟩, ?_, ?_⟩,
    ⟨⟨?_, ?_⟩, ?_, ?_⟩, ⟨?_, ?_⟩, ?_, ?_⟩ <;> linarith

/-- The way from one side to the other is twice as long as the others. -/
theorem phases_slow : ∀ phase ∈ motion.phases initialPosition, 0 < phase.duration ∧
    1875 / 1000 * |phase.stop - phase.start| / phase.duration ≤
      1875 / 1000 * 2 * motion.profile.excursionRad / motion.profile.transitionS := by
  have excursion := motion.gentleProfile.excursion
  have transition := motion.gentleProfile.transition
  have dwell := motion.gentleProfile.dwell
  have moving : ∀ stroke, |stroke| ≤ 2 * |motion.signedExcursion| →
      1875 / 1000 * |stroke| / motion.profile.transitionS ≤
        1875 / 1000 * 2 * motion.profile.excursionRad / motion.profile.transitionS := by
    intro stroke short
    rw [motion.abs_signedExcursion] at short
    apply div_le_div_of_nonneg_right _ transition.le
    linarith
  have still : ∀ position : ℝ, 1875 / 1000 * |position - position| / motion.profile.dwellS ≤
      1875 / 1000 * 2 * motion.profile.excursionRad / motion.profile.transitionS := by
    intro position
    rw [sub_self, abs_zero, mul_zero, zero_div]
    positivity
  simp only [phases, List.forall_mem_cons, List.not_mem_nil, false_implies, implies_true, and_true]
  refine ⟨⟨transition, moving _ ?_⟩, ⟨dwell, still _⟩, ⟨transition, moving _ ?_⟩,
    ⟨dwell, still _⟩, ⟨transition, moving _ ?_⟩, dwell, still _⟩
  · rw [add_sub_cancel_left]
    linarith [abs_nonneg motion.signedExcursion]
  · rw [show initialPosition - motion.signedExcursion -
      (initialPosition + motion.signedExcursion) = -(2 * motion.signedExcursion) by ring,
      abs_neg, abs_mul, abs_two]
  · rw [sub_sub_cancel]
    linarith [abs_nonneg motion.signedExcursion]

end AcceptedMotion

/-- Nothing jumps, the joint stays near its initial position, stays slower than the guard, and comes
back to rest. -/
theorem targetAt_smooth_and_bounded (motion : AcceptedMotion ℝ) (initialPosition : ℝ) :
    (Continuous fun elapsed => (motion.targetAt initialPosition elapsed).1) ∧
      (Continuous fun elapsed => (motion.targetAt initialPosition elapsed).2) ∧
      (∀ elapsed, HasDerivAt (fun elapsed => (motion.targetAt initialPosition elapsed).1)
        (motion.targetAt initialPosition elapsed).2 elapsed) ∧
      (∀ elapsed, |(motion.targetAt initialPosition elapsed).1 - initialPosition| ≤
        motion.profile.excursionRad) ∧
      (∀ elapsed, |(motion.targetAt initialPosition elapsed).2| ≤
        1875 / 1000 * 2 * motion.profile.excursionRad / motion.profile.transitionS) ∧
      1875 / 1000 * 2 * motion.profile.excursionRad / motion.profile.transitionS <
        motion.profile.maximumVelocityRadS ∧
      ∀ elapsed, motion.durationS ≤ elapsed →
        motion.targetAt initialPosition elapsed = (initialPosition, 0) := by
  have gentle := motion.gentleProfile
  have excursion := gentle.excursion
  have walked : motion.targetAt initialPosition =
      MotionPhase.walk initialPosition (motion.phases initialPosition) :=
    funext (motion.targetAt_eq_walk initialPosition)
  have chained := motion.chained_phases initialPosition
  have smooth : Motion.Smooth (motion.targetAt initialPosition) := by
    rw [walked]
    exact MotionPhase.smooth_walk chained
  refine ⟨smooth.position, smooth.velocity, smooth.derivative, ?_, ?_, gentle.speed, ?_⟩
  · intro elapsed
    have middle : initialPosition - motion.profile.excursionRad ≤ initialPosition ∧
        initialPosition ≤ initialPosition + motion.profile.excursionRad := by
      constructor <;> linarith
    have within := MotionPhase.walk_within middle (motion.phases_within initialPosition) elapsed
    rw [walked, abs_le]
    constructor <;> linarith
  · intro elapsed
    rw [walked]
    apply MotionPhase.walk_speed
    · have transition := gentle.transition
      positivity
    · exact motion.phases_slow initialPosition
  · intro elapsed after
    rw [walked]
    exact MotionPhase.walk_after chained ((motion.sum_durations initialPosition).trans_le after)

/-- Half way through the second way the joint is back in the middle, at its greatest speed. -/
example : (AcceptedMotion.mk (microProfile (K := ℚ)) 1 (by decide +kernel) (.inr rfl)).targetAt
    3 2 = (3, -(1875 / 1000 * 2 * (2 / 100))) := by
  decide +kernel

end SpriteRuntime
