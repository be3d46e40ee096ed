import Mathlib.Analysis.Calculus.Deriv.Add
import Mathlib.Analysis.Calculus.Deriv.Comp
import Mathlib.Analysis.Calculus.Deriv.Mul
import Mathlib.Analysis.Calculus.Deriv.Shift
import Mathlib.Topology.Algebra.Module.ModuleTopology
import Mathlib.Topology.Order.OrderClosed
import SpriteRuntime.Foundation.Numerals

/-!
# Motions along a line

A motion gives a position and a velocity at every time.  It is smooth when the velocity is the
derivative of the position and continuous.  Smooth motions may be scaled and delayed, and two that
meet may be glued together.
-/

namespace Foundation

/-- A position and a velocity at every time. -/
abbrev Motion : Type := ℝ → ℝ × ℝ

namespace Motion

/-- The velocity is the derivative of the position, and continuous. -/
structure Smooth (motion : Motion) : Prop where
  derivative : ∀ time, HasDerivAt (fun time => (motion time).1) (motion time).2 time
  velocity : Continuous fun time => (motion time).2

variable {motion front back : Motion}

theorem Smooth.position (smooth : Smooth motion) : Continuous fun time => (motion time).1 :=
  continuous_iff_continuousAt.mpr fun time => (smooth.derivative time).continuousAt

theorem smooth_rest (position : ℝ) : Smooth fun _ => (position, 0) := by
  constructor
  · intro time
    exact hasDerivAt_const time position
  · exact continuous_const

/-- A motion that starts later. -/
theorem Smooth.delay (smooth : Smooth motion) (start : ℝ) :
    Smooth fun time => motion (time - start) := by
  constructor
  · intro time
    exact HasDerivAt.comp_sub_const time start (smooth.derivative (time - start))
  · exact smooth.velocity.comp (continuous_id.sub continuous_const)

/-- A motion of unit length and duration, moved to another place, length and duration. -/
theorem Smooth.scale (smooth : Smooth motion) (start length duration : ℝ) :
    Smooth fun time => (start + length * (motion (time / duration)).1,
      length * (motion (time / duration)).2 / duration) := by
  constructor
  · intro time
    have inner : HasDerivAt (fun time => time / duration) (1 / duration) time :=
      (hasDerivAt_id time).div_const duration
    have outer := (smooth.derivative (time / duration)).comp time inner
    have scaled := (outer.const_mul length).const_add start
    refine scaled.congr_deriv ?_
    ring
  · exact (continuous_const.mul
      (smooth.velocity.comp (continuous_id.div_const duration))).div_const duration

/-- One motion up to a time and another one after it. -/
theorem Smooth.glue {switch : ℝ} (first : Smooth front) (second : Smooth back)
    (meet : front switch = back switch) :
    Smooth fun time => if time ≤ switch then front time else back time := by
  constructor
  · intro time
    rcases lt_trichotomy time switch with before | rfl | after
    · rw [if_pos before.le]
      apply (first.derivative time).congr_of_eventuallyEq
      filter_upwards [Iio_mem_nhds before] with other earlier
      rw [if_pos (Set.mem_Iio.mp earlier).le]
    · rw [if_pos le_rfl]
      have left : HasDerivWithinAt
          (fun other => (if other ≤ time then front other else back other).1) (front time).2
          (Set.Iic time) time := by
        apply (first.derivative time).hasDerivWithinAt.congr
        · intro other earlier
          rw [if_pos (Set.mem_Iic.mp earlier)]
        · rw [if_pos le_rfl]
      have right : HasDerivWithinAt
          (fun other => (if other ≤ time then front other else back other).1) (front time).2
          (Set.Ici time) time := by
        rw [meet]
        apply (second.derivative time).hasDerivWithinAt.congr
        · intro other later
          rcases (Set.mem_Ici.mp later).eq_or_lt with rfl | after
          · rw [if_pos le_rfl, meet]
          · rw [if_neg (not_le.mpr after)]
        · rw [if_pos le_rfl, meet]
      have both := left.union right
      rw [Set.Iic_union_Ici, hasDerivWithinAt_univ] at both
      exact both
    · rw [if_neg (not_le.mpr after)]
      apply (second.derivative time).congr_of_eventuallyEq
      filter_upwards [Ioi_mem_nhds after] with other later
      rw [if_neg (not_le.mpr (Set.mem_Ioi.mp later))]
  · have velocity : (fun time => (if time ≤ switch then front time else back time).2) =
        fun time => if time ≤ switch then (front time).2 else (back time).2 := by
      funext time
      split <;> rfl
    rw [velocity]
    apply Continuous.if_le first.velocity second.velocity continuous_id continuous_const
    intro time here
    rw [show time = switch from here, meet]

end Motion

end Foundation
