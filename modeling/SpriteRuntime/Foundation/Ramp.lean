import Mathlib.Algebra.Order.Field.Basic
import Mathlib.Tactic.FieldSimp
import Mathlib.Tactic.Linarith
import Mathlib.Tactic.Ring
import SpriteRuntime.Foundation.Numerals

/-!
# Ramps and blends

A blend moves from one value to another while its weight goes from zero to one.  The
weights here are those of a hold that is followed by a smooth ramp.
-/

namespace Foundation

variable {K : Type*} [Field K]

section Smoothstep

def smoothstep (x : K) : K := x * x * (3 - 2 * x)

@[simp] theorem smoothstep_one : smoothstep (1 : K) = 1 := by
  unfold smoothstep
  ring

/-- What is missing to one is a square times a positive factor. -/
theorem one_sub_smoothstep (x : K) : 1 - smoothstep x = (1 - x) * (1 - x) * (1 + 2 * x) := by
  unfold smoothstep
  ring

variable [LinearOrder K] [IsStrictOrderedRing K] {x y : K}

theorem smoothstep_nonneg (upper : x ≤ 1) : 0 ≤ smoothstep x := by
  apply mul_nonneg (mul_self_nonneg x)
  linarith

theorem smoothstep_le_one (lower : 0 ≤ x) : smoothstep x ≤ 1 := by
  have missing : 0 ≤ 1 - smoothstep x := by
    rw [one_sub_smoothstep]
    apply mul_nonneg (mul_self_nonneg _)
    linarith
  linarith

theorem smoothstep_eq_one (lower : 0 ≤ x) (reached : smoothstep x = 1) : x = 1 := by
  have missing := one_sub_smoothstep x
  rw [reached, sub_self] at missing
  have positive : (1 + 2 * x : K) ≠ 0 := by
    have : 0 < 1 + 2 * x := by linarith
    exact this.ne'
  have square := (mul_eq_zero.mp missing.symm).resolve_right positive
  have gap := mul_self_eq_zero.mp square
  linarith

theorem smoothstep_mono (lower : 0 ≤ x) (ordered : x ≤ y) (upper : y ≤ 1) :
    smoothstep x ≤ smoothstep y := by
  have factored : smoothstep y - smoothstep x =
      (y - x) * (2 * (x * (1 - x)) + 2 * (y * (1 - y)) + (x * (1 - y) + y * (1 - x))) := by
    unfold smoothstep
    ring
  have xRest : 0 ≤ 1 - x := by linarith
  have yRest : 0 ≤ 1 - y := by linarith
  have yLower : 0 ≤ y := lower.trans ordered
  have difference : 0 ≤ smoothstep y - smoothstep x := by
    rw [factored]
    apply mul_nonneg (by linarith)
    positivity
  linarith

/-- The steepest slope is that of the middle. -/
theorem smoothstep_sub_le (ordered : x ≤ y) :
    smoothstep y - smoothstep x ≤ 3 / 2 * (y - x) := by
  have missing : 3 / 2 * (y - x) - (smoothstep y - smoothstep x) =
      (y - x) * (3 / 2 * ((1 - x - y) * (1 - x - y)) + (y - x) * (y - x) / 2) := by
    unfold smoothstep
    ring
  have width : 0 ≤ y - x := sub_nonneg.mpr ordered
  have slack : 0 ≤ 3 / 2 * (y - x) - (smoothstep y - smoothstep x) := by
    rw [missing]
    have square := mul_self_nonneg (1 - x - y)
    positivity
  linarith

end Smoothstep

section Rise

variable [LinearOrder K]

/-- The smooth step from zero to one, constant outside the unit interval. -/
def rise (x : K) : K := smoothstep (max 0 (min 1 x))

variable {x y : K}

theorem rise_of_nonpos (early : x ≤ 0) : rise x = 0 := by
  rw [rise, max_eq_left ((min_le_right 1 x).trans early)]
  simp [smoothstep]

theorem rise_of_mem (lower : 0 ≤ x) (upper : x ≤ 1) : rise x = smoothstep x := by
  rw [rise, min_eq_right upper, max_eq_right lower]

variable [IsStrictOrderedRing K]

theorem rise_of_one_le (late : 1 ≤ x) : rise x = 1 := by
  rw [rise, min_eq_left late, max_eq_right zero_le_one, smoothstep_one]

theorem riseProgress_mem (x : K) : 0 ≤ max 0 (min 1 x) ∧ max 0 (min 1 x) ≤ 1 :=
  ⟨le_max_left _ _, max_le zero_le_one (min_le_left _ _)⟩

theorem rise_nonneg (x : K) : 0 ≤ rise x := smoothstep_nonneg (riseProgress_mem x).2

theorem rise_le_one (x : K) : rise x ≤ 1 := smoothstep_le_one (riseProgress_mem x).1

theorem rise_mono (ordered : x ≤ y) : rise x ≤ rise y := by
  apply smoothstep_mono (riseProgress_mem x).1 _ (riseProgress_mem y).2
  exact max_le_max_left 0 (min_le_min_left 1 ordered)

theorem rise_sub_le (ordered : x ≤ y) : rise y - rise x ≤ 3 / 2 * (y - x) := by
  have progress : max 0 (min 1 x) ≤ max 0 (min 1 y) :=
    max_le_max_left 0 (min_le_min_left 1 ordered)
  have short : max 0 (min 1 y) - max 0 (min 1 x) ≤ y - x := by
    rcases le_total 1 y with late | inside
    · rw [min_eq_left late, max_eq_right zero_le_one]
      have reached : min 1 x ≤ max 0 (min 1 x) := le_max_right _ _
      rcases le_total 1 x with xLate | xInside
      · rw [min_eq_left xLate] at reached ⊢
        linarith
      · rw [min_eq_right xInside] at reached ⊢
        linarith
    · rw [min_eq_right inside, min_eq_right (ordered.trans inside)]
      rcases le_total 0 y with positive | negative
      · rw [max_eq_right positive]
        have := le_max_right 0 x
        linarith
      · rw [max_eq_left negative]
        have := le_max_left 0 x
        linarith
  have steep := smoothstep_sub_le progress
  unfold rise
  linarith

end Rise

section Blend

/-- The value between `first` and `last` with the given weight of `last`. -/
def blend (weight first last : K) : K := (1 - weight) * first + weight * last

@[simp] theorem blend_zero (first last : K) : blend 0 first last = first := by
  simp [blend]

@[simp] theorem blend_one (first last : K) : blend 1 first last = last := by
  simp [blend]

variable [LinearOrder K] [IsStrictOrderedRing K] {weight first last low high : K}

/-- A blend stays in an interval that holds both of its ends. -/
theorem blend_mem (lower : 0 ≤ weight) (upper : weight ≤ 1)
    (firstIn : low ≤ first ∧ first ≤ high) (lastIn : low ≤ last ∧ last ≤ high) :
    low ≤ blend weight first last ∧ blend weight first last ≤ high := by
  have rest : 0 ≤ 1 - weight := by linarith
  have above := add_le_add (mul_le_mul_of_nonneg_left firstIn.1 rest)
    (mul_le_mul_of_nonneg_left lastIn.1 lower)
  have below := add_le_add (mul_le_mul_of_nonneg_left firstIn.2 rest)
    (mul_le_mul_of_nonneg_left lastIn.2 lower)
  unfold blend
  constructor
  · linarith
  · linarith

end Blend

section HeldRamp

variable [LinearOrder K]

/-- The weight in a call, by the number of calls before it: zero for `hold` calls, then a
smooth ramp of `ramp` calls, then one. -/
def rampWeight (hold ramp calls : ℕ) : K :=
  if calls < hold then 0 else smoothstep (min 1 (((calls - hold + 1 : ℕ) : K) / ramp))

variable {hold ramp calls later : ℕ}

theorem rampWeight_hold (held : calls < hold) : rampWeight hold ramp calls = (0 : K) :=
  if_pos held

variable [IsStrictOrderedRing K]

theorem rampProgress_mem (calls ramp : ℕ) :
    0 ≤ min 1 ((calls : K) / ramp) ∧ min 1 ((calls : K) / ramp) ≤ 1 := by
  constructor
  · exact le_min zero_le_one (by positivity)
  · exact min_le_left _ _

theorem rampWeight_nonneg : (0 : K) ≤ rampWeight hold ramp calls := by
  unfold rampWeight
  split
  · exact le_rfl
  · exact smoothstep_nonneg (rampProgress_mem _ _).2

theorem rampWeight_le_one : rampWeight hold ramp calls ≤ (1 : K) := by
  unfold rampWeight
  split
  · exact zero_le_one
  · exact smoothstep_le_one (rampProgress_mem _ _).1

/-- The weights never fall. -/
theorem rampWeight_mono (ordered : calls ≤ later) :
    (rampWeight hold ramp calls : K) ≤ rampWeight hold ramp later := by
  by_cases held : calls < hold
  · rw [rampWeight_hold held]
    exact rampWeight_nonneg
  · have released : ¬later < hold := by omega
    unfold rampWeight
    rw [if_neg held, if_neg released]
    apply smoothstep_mono (rampProgress_mem _ _).1 _ (rampProgress_mem _ _).2
    apply min_le_min_left
    apply div_le_div_of_nonneg_right _ (Nat.cast_nonneg ramp)
    exact_mod_cast (by omega : calls - hold + 1 ≤ later - hold + 1)

/-- The weight is one from the call on that completes the hold and the ramp. -/
theorem rampWeight_eq_one (some : 0 < ramp) :
    rampWeight hold ramp calls = (1 : K) ↔ hold + ramp ≤ calls + 1 := by
  have positive : (0 : K) < ramp := Nat.cast_pos.mpr some
  constructor
  · intro reached
    by_cases held : calls < hold
    · rw [rampWeight_hold held] at reached
      exact absurd reached zero_ne_one
    · unfold rampWeight at reached
      rw [if_neg held] at reached
      have full := smoothstep_eq_one (rampProgress_mem _ _).1 reached
      have enough : (1 : K) ≤ ((calls - hold + 1 : ℕ) : K) / ramp := min_eq_left_iff.mp full
      rw [le_div_iff₀ positive, one_mul] at enough
      have count : ramp ≤ calls - hold + 1 := by exact_mod_cast enough
      omega
  · intro late
    have released : ¬calls < hold := by omega
    have enough : (1 : K) ≤ ((calls - hold + 1 : ℕ) : K) / ramp := by
      rw [le_div_iff₀ positive, one_mul]
      exact_mod_cast (by omega : ramp ≤ calls - hold + 1)
    unfold rampWeight
    rw [if_neg released, min_eq_left enough, smoothstep_one]

end HeldRamp

end Foundation
