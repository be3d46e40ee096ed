import Mathlib.Algebra.BigOperators.Group.List.Lemmas
import Mathlib.Algebra.CharZero.Defs
import Mathlib.Algebra.Order.Field.Basic
import Mathlib.Algebra.Order.BigOperators.Group.List
import Mathlib.Tactic.FieldSimp
import Mathlib.Tactic.Ring
import SpriteRuntime.Foundation.Numerals

/-!
# Running moments

The mean and the squared deviations of a list can be kept up to date with one step for each
item.  The step for the deviations uses the mean before the item and the mean after it.
-/

namespace Foundation

variable {K : Type} [Field K]

def mean (items : List K) : K := items.sum / items.length

/-- The sum of the squared deviations from the mean. -/
def deviations (items : List K) : K :=
  (items.map fun item => (item - mean items) * (item - mean items)).sum

@[simp] theorem mean_nil : mean ([] : List K) = 0 := by simp [mean]

@[simp] theorem deviations_nil : deviations ([] : List K) = 0 := rfl

/-- Expand the squares and collect. -/
theorem sum_squares_about (items : List K) (center : K) :
    (items.map fun item => (item - center) * (item - center)).sum =
      (items.map fun item => item * item).sum - 2 * center * items.sum +
        items.length * (center * center) := by
  induction items with
  | nil => simp
  | cons item rest induction =>
      simp only [List.map_cons, List.sum_cons, List.length_cons, induction]
      push_cast
      ring

section CharZero

variable [CharZero K]

theorem length_mul_mean (items : List K) : items.length * mean items = items.sum := by
  cases items with
  | nil => simp
  | cons item rest =>
      have positive : ((item :: rest).length : K) ≠ 0 := by
        rw [List.length_cons, Nat.cast_succ]
        exact Nat.cast_add_one_ne_zero rest.length
      rw [mean, mul_div_cancel₀ _ positive]

theorem mean_snoc (items : List K) (item : K) :
    mean (items ++ [item]) = mean items + (item - mean items) / (items.length + 1) := by
  have positive : (items.length + 1 : K) ≠ 0 := Nat.cast_add_one_ne_zero items.length
  have total := length_mul_mean items
  rw [mean, List.sum_append, List.sum_singleton, List.length_append, List.length_singleton,
    ← total]
  push_cast
  field_simp
  ring

/-- The deviations grow by the product of the old and the new deviation of the item. -/
theorem deviations_snoc (items : List K) (item : K) :
    deviations (items ++ [item]) =
      deviations items + (item - mean items) * (item - mean (items ++ [item])) := by
  have positive : (items.length + 1 : K) ≠ 0 := Nat.cast_add_one_ne_zero items.length
  have total := length_mul_mean items
  rw [deviations, deviations, sum_squares_about, sum_squares_about, mean_snoc, List.map_append,
    List.sum_append, List.sum_append, List.map_singleton, List.sum_singleton, List.sum_singleton,
    List.length_append, List.length_singleton, ← total]
  push_cast
  field_simp
  ring

end CharZero

/-- Equal items do not deviate. -/
theorem deviations_replicate [CharZero K] (count : ℕ) (item : K) :
    deviations (List.replicate count item) = 0 := by
  induction count with
  | zero => rfl
  | succ count induction =>
      have mean_eq : mean (List.replicate (count + 1) item) = item := by
        have positive : (count + 1 : K) ≠ 0 := Nat.cast_add_one_ne_zero count
        rw [mean, List.sum_replicate, List.length_replicate, nsmul_eq_mul, Nat.cast_succ,
          mul_div_cancel_left₀ _ positive]
      rw [List.replicate_succ'] at mean_eq ⊢
      rw [deviations_snoc, induction, mean_eq, sub_self, mul_zero, add_zero]

theorem deviations_nonneg [LinearOrder K] [IsStrictOrderedRing K] (items : List K) :
    0 ≤ deviations items := by
  apply List.sum_nonneg
  intro square member
  obtain ⟨item, _, rfl⟩ := List.mem_map.mp member
  exact mul_self_nonneg _

end Foundation
