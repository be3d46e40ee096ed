import Mathlib.Algebra.Order.ToIntervalMod
import Mathlib.Tactic.Linarith
import Mathlib.Tactic.FieldSimp
import Mathlib.Tactic.Ring
import SpriteRuntime.Foundation.Numerals

/-!
# Wrapping into a symmetric interval

A number is wrapped into `[-half, half)` by whole turns of `2 * half`.  Wrapping parts of a
difference before wrapping the difference changes nothing.
-/

namespace Foundation

variable {K : Type} [Field K] [LinearOrder K] [FloorRing K]

/-- The remainder of a floored division, as `%` computes it for a positive period. -/
def floorMod (x period : K) : K := x - period * ⌊x / period⌋

def wrap (half x : K) : K := floorMod (x + half) (2 * half) - half

variable [IsStrictOrderedRing K] {half x y : K}

theorem wrap_eq_toIcoMod (positive : 0 < 2 * half) (x : K) :
    wrap half x = toIcoMod positive (-half) x := by
  rw [toIcoMod, toIcoDiv_eq_floor, wrap, floorMod, sub_neg_eq_add, zsmul_eq_mul]
  ring

theorem wrap_mem (positive : 0 < half) (x : K) : -half ≤ wrap half x ∧ wrap half x < half := by
  have turn : 0 < 2 * half := by linarith
  have range := toIcoMod_mem_Ico turn (-half) x
  rw [← wrap_eq_toIcoMod turn] at range
  constructor
  · exact range.1
  · have upper := range.2
    linarith

/-- A number in the interval stays. -/
theorem wrap_of_mem (lower : -half ≤ x) (upper : x < half) : wrap half x = x := by
  have turn : 0 < 2 * half := by linarith
  rw [wrap_eq_toIcoMod turn, toIcoMod_eq_iff]
  exact ⟨⟨lower, by linarith⟩, 0, by simp⟩

/-- Whole turns do not matter. -/
theorem wrap_add_turns (positive : 0 < half) (x : K) (turns : ℤ) :
    wrap half (x + turns * (2 * half)) = wrap half x := by
  have turn : 0 < 2 * half := by linarith
  rw [wrap_eq_toIcoMod turn, wrap_eq_toIcoMod turn, ← zsmul_eq_mul, toIcoMod_add_zsmul]

omit [IsStrictOrderedRing K] in
/-- A wrapped number differs by whole turns. -/
theorem exists_turns (half x : K) : ∃ turns : ℤ, wrap half x = x + turns * (2 * half) := by
  refine ⟨-⌊(x + half) / (2 * half)⌋, ?_⟩
  rw [wrap, floorMod]
  push_cast
  ring

theorem wrap_wrap (positive : 0 < half) (x : K) : wrap half (wrap half x) = wrap half x := by
  obtain ⟨lower, upper⟩ := wrap_mem positive x
  exact wrap_of_mem lower upper

theorem wrap_wrap_sub_wrap (positive : 0 < half) (x y : K) :
    wrap half (wrap half x - wrap half y) = wrap half (x - y) := by
  obtain ⟨xTurns, xWrapped⟩ := exists_turns half x
  obtain ⟨yTurns, yWrapped⟩ := exists_turns half y
  have difference : wrap half x - wrap half y =
      x - y + ((xTurns - yTurns : ℤ) : K) * (2 * half) := by
    rw [xWrapped, yWrapped]
    push_cast
    ring
  rw [difference, wrap_add_turns positive]

end Foundation
