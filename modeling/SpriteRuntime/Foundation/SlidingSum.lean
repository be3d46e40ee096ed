import Mathlib.Algebra.BigOperators.Group.List.Basic
import Mathlib.Algebra.Order.Ring.Rat
import Mathlib.Data.List.DropRight

/-!
# Sums and maxima over sliding windows

A window of the last items of a growing sequence is kept in a queue, with a running
sum.  This file relates the queue to the sequence, and lists the full windows that
the sequence has gone through.
-/

namespace Foundation

variable {α : Type}

section Windows

/-- All pieces of `size` consecutive items, the oldest first. -/
def windows (size : ℕ) (items : List α) : List (List α) :=
  (List.range (items.length + 1 - size)).map fun start => (items.drop start).take size

theorem rtake_append_singleton (size : ℕ) (items : List α) (item : α) :
    (items.rtake size ++ [item]).rtake size = (items ++ [item]).rtake size := by
  cases size with
  | zero => rw [List.rtake_zero, List.rtake_zero]
  | succ size =>
      have inner : (items.rtake (size + 1)).rtake size = items.rtake size := by
        simp [List.rtake_eq_reverse_take_reverse, List.take_take]
      rw [List.rtake_concat_succ, List.rtake_concat_succ, inner]

theorem length_rtake (size : ℕ) (items : List α) :
    (items.rtake size).length = min items.length size := by
  rw [List.rtake, List.length_drop]
  omega

theorem windows_eq_nil {size : ℕ} {items : List α} (short : items.length < size) :
    windows size items = [] := by
  have none : items.length + 1 - size = 0 := by omega
  rw [windows, none, List.range_zero, List.map_nil]

/-- One more item completes one more window, the queue of the last items. -/
theorem windows_append_singleton {size : ℕ} {items : List α} {item : α}
    (full : size ≤ items.length + 1) :
    windows size (items ++ [item]) = windows size items ++ [(items ++ [item]).rtake size] := by
  have count : (items ++ [item]).length + 1 - size = (items.length + 1 - size) + 1 := by
    rw [List.length_append, List.length_singleton]
    omega
  rw [windows, count, List.range_succ, List.map_append, List.map_singleton]
  congr 1
  · apply List.map_congr_left
    intro start member
    rw [List.mem_range] at member
    have inside : size ≤ (items.drop start).length := by
      rw [List.length_drop]
      omega
    rw [List.drop_append_of_le_length (by omega), List.take_append_of_le_length inside]
  · rw [List.rtake, List.length_append, List.length_singleton]
    congr 1
    rw [List.take_of_length_le]
    rw [List.length_drop, List.length_append, List.length_singleton]
    omega

end Windows

section Sum

variable {K : Type} [AddCommGroup K]

/-- Dropping the oldest items of a queue takes their sum off its sum. -/
theorem sum_drop (count : ℕ) (items : List K) :
    (items.drop count).sum = items.sum - (items.take count).sum := by
  rw [eq_sub_iff_add_eq', List.sum_take_add_sum_drop]

end Sum

section Maximum

variable {K : Type} [LinearOrder K] [Zero K]

/-- A maximum that starts at zero and takes in nonnegative values only. -/
theorem max?_append_singleton_getD {values : List K} {value : K} (nonneg : 0 ≤ value) :
    (values ++ [value]).max?.getD 0 = max (values.max?.getD 0) value := by
  cases values with
  | nil => simp [nonneg]
  | cons first rest =>
      rw [List.cons_append, List.max?_cons', List.max?_cons', List.foldl_append]
      rfl

end Maximum

end Foundation
