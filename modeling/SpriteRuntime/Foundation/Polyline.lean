import Mathlib.Algebra.Order.Field.Basic
import Mathlib.Tactic.Linarith
import SpriteRuntime.Foundation.Numerals

/-!
# Falling polylines

A polyline is read at any abscissa: before its first point and after its last one it is
constant.  A polyline whose points do not rise does not rise anywhere.
-/

namespace Foundation

variable {K : Type*} [Field K] [LinearOrder K]

/-- The value between two points. -/
def between (left right : K × K) (x : K) : K :=
  (right.2 - left.2) / (right.1 - left.1) * (x - left.1) + left.2

/-- The value of a polyline. -/
def interpolate (x : K) : List (K × K) → K
  | [] => 0
  | [point] => point.2
  | left :: right :: rest =>
      if x ≤ left.1 then left.2
      else if x < right.1 then between left right x
      else interpolate x (right :: rest)

/-- The points go to the right and do not rise. -/
def Falling (points : List (K × K)) : Prop :=
  points.IsChain fun left right => left.1 < right.1 ∧ right.2 ≤ left.2

instance (points : List (K × K)) : Decidable (Falling points) :=
  inferInstanceAs (Decidable (List.IsChain _ _))

variable [IsStrictOrderedRing K]

section Between

variable {left right : K × K} {x y : K}

/-- The line between two points falls. -/
theorem between_antitone (width : left.1 < right.1) (falls : right.2 ≤ left.2) (before : x ≤ y) :
    between left right y ≤ between left right x := by
  have slope : (right.2 - left.2) / (right.1 - left.1) ≤ 0 :=
    div_nonpos_of_nonpos_of_nonneg (sub_nonpos.mpr falls) (sub_nonneg.mpr width.le)
  have moved := mul_le_mul_of_nonpos_left (sub_le_sub_right before left.1) slope
  unfold between
  linarith

omit [LinearOrder K] [IsStrictOrderedRing K] in
theorem between_left : between left right left.1 = left.2 := by simp [between]

theorem between_right (width : left.1 < right.1) : between left right right.1 = right.2 := by
  have positive : right.1 - left.1 ≠ 0 := (sub_pos.mpr width).ne'
  rw [between, div_mul_cancel₀ _ positive, sub_add_cancel]

end Between

/-- No value of a polyline is above its first point. -/
theorem interpolate_le_head {x : K} {point : K × K} {rest : List (K × K)}
    (falling : Falling (point :: rest)) : interpolate x (point :: rest) ≤ point.2 := by
  induction rest generalizing point with
  | nil => exact le_refl _
  | cons next rest induction =>
      obtain ⟨⟨width, falls⟩, others⟩ := List.isChain_cons_cons.mp falling
      rw [interpolate]
      split
      · exact le_refl _
      next after =>
          split
          · have below := between_antitone width falls (not_le.mp after).le
            rwa [between_left] at below
          · exact (induction others).trans falls

/-- A polyline stays above whatever its points stay above. -/
theorem le_interpolate {x bound : K} {point : K × K} {rest : List (K × K)}
    (falling : Falling (point :: rest)) (above : ∀ other ∈ point :: rest, bound ≤ other.2) :
    bound ≤ interpolate x (point :: rest) := by
  induction rest generalizing point with
  | nil => exact above point List.mem_cons_self
  | cons next rest induction =>
      obtain ⟨⟨width, falls⟩, others⟩ := List.isChain_cons_cons.mp falling
      rw [interpolate]
      split
      · exact above point List.mem_cons_self
      · split
        next inside =>
            have below := between_antitone width falls inside.le
            rw [between_right width] at below
            exact (above next (by simp)).trans below
        · exact induction others fun other member => above other (List.mem_cons_of_mem _ member)

/-- A falling polyline falls. -/
theorem interpolate_antitone {x y : K} {points : List (K × K)} (falling : Falling points)
    (before : x ≤ y) : interpolate y points ≤ interpolate x points := by
  induction points with
  | nil => exact le_refl _
  | cons point rest induction =>
      cases rest with
      | nil => exact le_refl _
      | cons next rest =>
          obtain ⟨⟨width, falls⟩, others⟩ := List.isChain_cons_cons.mp falling
          by_cases first : x ≤ point.1
          · have here : interpolate x (point :: next :: rest) = point.2 := by
              rw [interpolate, if_pos first]
            rw [here]
            exact interpolate_le_head falling
          · by_cases last : next.1 ≤ x
            · rw [interpolate, interpolate, if_neg first, if_neg (not_lt.mpr last),
                if_neg fun early => first (before.trans early),
                if_neg (not_lt.mpr (last.trans before))]
              exact induction others
            · have inside : interpolate x (point :: next :: rest) = between point next x := by
                rw [interpolate, if_neg first, if_pos (not_le.mp last)]
              rw [inside, interpolate, if_neg fun early => first (before.trans early)]
              split
              · exact between_antitone width falls before
              · have end_le := between_antitone width falls (not_le.mp last).le
                rw [between_right width] at end_le
                exact (interpolate_le_head others).trans end_le

end Foundation
