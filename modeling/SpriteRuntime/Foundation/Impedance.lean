import Mathlib.Data.Matrix.Mul
import Mathlib.Tactic.Abel
import Mathlib.Tactic.Ring
import SpriteRuntime.Foundation.Numerals

/-!
# Impedances under a change of coordinates

A diagonal joint gain, seen through a linear map `M` from actuators to joints,
is the full matrix `Mᵀ G M`.  The results say that the torque of that matrix is
the joint torque carried back, and that the actuator error is the joint error
when actuator targets are computed with a right inverse of `M`.
-/

namespace Foundation

open Matrix

variable {K I J : Type*} [CommRing K] [Fintype I] [Fintype J]

/-- The entry of `Mᵀ G M` at two actuators, for a diagonal gain `G`. -/
def congruentGain (M : Matrix J I K) (gain : J → K) (left right : I) : K :=
  ∑ joint, gain joint * M joint left * M joint right

theorem sum_congruentGain_mul (M : Matrix J I K) (gain : J → K) (left : I)
    (error : I → K) :
    ∑ right, congruentGain M gain left right * error right =
      ∑ joint, M joint left * (gain joint * (M *ᵥ error) joint) := by
  simp only [congruentGain, Finset.sum_mul]
  rw [Finset.sum_comm]
  apply Finset.sum_congr rfl
  intro joint _
  rw [mulVec, dotProduct, Finset.mul_sum, Finset.mul_sum]
  apply Finset.sum_congr rfl
  intro right _
  ring

theorem mulVec_affine_error [DecidableEq J] {M : Matrix J I K} {N : Matrix I J K}
    (inverse : M * N = 1) (target : J → K) (measured offset : I → K) :
    M *ᵥ (offset + N *ᵥ target - measured) = target - M *ᵥ (measured - offset) := by
  rw [mulVec_sub, mulVec_add, mulVec_mulVec, inverse, one_mulVec, mulVec_sub]
  abel

/-- Splitting off one summand leaves the sum with a hole. -/
theorem add_sum_hole [DecidableEq I] (index : I) (summand : I → K) :
    summand index + ∑ other, (if other = index then 0 else summand other) =
      ∑ other, summand other := by
  rw [← Finset.add_sum_erase _ summand (Finset.mem_univ index)]
  congr 1
  rw [← Finset.add_sum_erase _ _ (Finset.mem_univ index), if_pos rfl, zero_add]
  apply Finset.sum_congr rfl
  intro other member
  rw [if_neg (Finset.ne_of_mem_erase member)]

end Foundation
