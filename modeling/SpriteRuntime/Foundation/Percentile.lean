import Mathlib.Algebra.Order.Floor.Ring
import Mathlib.Algebra.Order.Field.Rat
import Mathlib.Data.List.Sort
import Mathlib.Data.Rat.Floor
import SpriteRuntime.Foundation.Numerals

/-!
# Percentiles

The element at some rank of a list, in order.  It is within a limit exactly when more elements than
its rank are, so that a percentile says which share of the list is within a limit.
-/

namespace Foundation

section Rank

variable {α : Type} [LinearOrder α] {values : List α} {value limit : α} {rank : ℕ}

/-- Of a sorted list those within the limit come first. -/
theorem sorted_le_iff_lt_countP (sorted : values.Pairwise (· ≤ ·))
    (found : values[rank]? = some value) :
    value ≤ limit ↔ rank < values.countP (· ≤ limit) := by
  induction values generalizing rank with
  | nil => simp at found
  | cons first rest ih =>
      obtain ⟨least, others⟩ := List.pairwise_cons.mp sorted
      by_cases within : first ≤ limit
      · rw [List.countP_cons_of_pos (by simpa using within)]
        cases rank with
        | zero =>
            cases found
            simp [within]
        | succ rank =>
            rw [List.getElem?_cons_succ] at found
            rw [ih others found]
            omega
      · have beyond : ∀ other ∈ first :: rest, ¬other ≤ limit := by
          intro other member small
          rcases List.mem_cons.mp member with rfl | later
          · exact within small
          · exact within ((least other later).trans small)
        have none : (first :: rest).countP (· ≤ limit) = 0 := by
          rw [List.countP_eq_zero]
          intro other member
          simpa using beyond other member
        rw [none]
        exact iff_of_false (beyond value (List.mem_of_getElem? found)) (Nat.not_lt_zero rank)

/-- The element that has `rank` elements before it in the sorted list. -/
def orderStatistic (values : List α) (rank : ℕ) : Option α :=
  (values.insertionSort (· ≤ ·))[rank]?

theorem exists_orderStatistic (inside : rank < values.length) :
    ∃ value, orderStatistic values rank = some value := by
  rw [orderStatistic]
  rw [← List.length_insertionSort (· ≤ ·) values] at inside
  exact ⟨_, List.getElem?_eq_getElem inside⟩

theorem orderStatistic_le_iff (found : orderStatistic values rank = some value) :
    value ≤ limit ↔ rank < values.countP (· ≤ limit) := by
  rw [sorted_le_iff_lt_countP (List.pairwise_insertionSort (· ≤ ·) values) found,
    (List.perm_insertionSort (· ≤ ·) values).countP_eq]

end Rank

/-- The rank of a share of a list: so many elements, rounded up, are at or before it. -/
def shareRank (share : ℚ) (length : ℕ) : ℕ := (⌈share * length⌉ - 1).toNat

section Share

variable {share : ℚ} {length count : ℕ}

theorem shareRank_lt (positive : 0 < share) (whole : share ≤ 1) (nonempty : 0 < length) :
    shareRank share length < length := by
  have ceil : ⌈share * length⌉ ≤ (length : ℤ) := by
    rw [Int.ceil_le]
    have size : (0 : ℚ) ≤ length := Nat.cast_nonneg length
    push_cast
    nlinarith
  rw [shareRank]
  omega

/-- More elements than the rank are at least that share. -/
theorem shareRank_lt_iff (positive : 0 < share) (nonempty : 0 < length) :
    shareRank share length < count ↔ share * length ≤ count := by
  have size : (0 : ℚ) < length := Nat.cast_pos.mpr nonempty
  have ceil : 0 < ⌈share * length⌉ := Int.ceil_pos.mpr (mul_pos positive size)
  have rounded : share * length ≤ count ↔ ⌈share * length⌉ ≤ (count : ℤ) := by
    rw [Int.ceil_le, Int.cast_natCast]
  rw [rounded, shareRank]
  omega

end Share

/-- A percentile is within a limit exactly when that share of the values is. -/
theorem percentile_le_iff {α : Type} [LinearOrder α] {values : List α} {value limit : α} {share : ℚ}
    (positive : 0 < share) (nonempty : values ≠ [])
    (found : orderStatistic values (shareRank share values.length) = some value) :
    value ≤ limit ↔ share * values.length ≤ values.countP (· ≤ limit) := by
  rw [orderStatistic_le_iff found, shareRank_lt_iff positive (List.length_pos_iff.mpr nonempty)]

end Foundation
