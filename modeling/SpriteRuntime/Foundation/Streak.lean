import Mathlib.Data.List.Induction
import Mathlib.Order.Lattice

/-!
# Streaks

A counter that grows while a condition holds and falls to zero otherwise counts the run of items
at the end of what it has seen.  Its greatest value so far is the longest run anywhere.
-/

namespace Foundation

variable {α : Type} (holds : α → Prop) [DecidablePred holds]

/-- The counter after one more item. -/
def streakStep (count : ℕ) (item : α) : ℕ := if holds item then count + 1 else 0

/-- The counter after some items. -/
def streak (items : List α) : ℕ := items.foldl (streakStep holds) 0

variable {holds}

@[simp] theorem streak_nil : streak holds [] = 0 := rfl

@[simp] theorem streak_append_singleton (items : List α) (item : α) :
    streak holds (items ++ [item]) = streakStep holds (streak holds items) item := by
  rw [streak, List.foldl_append]
  rfl

/-- The end of the items is a run of the given length. -/
def EndsInRun (holds : α → Prop) (length : ℕ) (items : List α) : Prop :=
  ∃ before run, items = before ++ run ∧ run.length = length ∧ ∀ item ∈ run, holds item

omit [DecidablePred holds] in
theorem endsInRun_succ {length : ℕ} {items : List α} {item : α} :
    EndsInRun holds (length + 1) (items ++ [item]) ↔
      holds item ∧ EndsInRun holds length items := by
  constructor
  · rintro ⟨before, run, split, size, all⟩
    cases run using List.reverseRecOn with
    | nil => cases size
    | append_singleton run last =>
        rw [← List.append_assoc] at split
        obtain ⟨front, back⟩ := List.append_inj' split rfl
        cases back
        refine ⟨all item (by simp), before, run, front, by simpa using size, ?_⟩
        intro other member
        exact all other (List.mem_append_left _ member)
  · rintro ⟨last, before, run, rfl, rfl, all⟩
    refine ⟨before, run ++ [item], by simp, by simp, ?_⟩
    intro other member
    rcases List.mem_append.mp member with old | new
    · exact all other old
    · rw [List.mem_singleton.mp new]
      exact last

/-- The counter reaches a number exactly when the items end in a run of that length. -/
theorem le_streak_iff {length : ℕ} {items : List α} :
    length ≤ streak holds items ↔ EndsInRun holds length items := by
  induction items using List.reverseRecOn generalizing length with
  | nil =>
      constructor
      · intro small
        exact ⟨[], [], rfl, (Nat.le_zero.mp small).symm, by simp⟩
      · rintro ⟨before, run, split, rfl, _⟩
        obtain ⟨_, rfl⟩ := List.append_eq_nil_iff.mp split.symm
        exact Nat.le_refl 0
  | append_singleton items item induction =>
      rw [streak_append_singleton, streakStep]
      cases length with
      | zero =>
          have none : EndsInRun holds 0 (items ++ [item]) :=
            ⟨items ++ [item], [], by simp, rfl, by simp⟩
          simp [none]
      | succ length =>
          rw [endsInRun_succ]
          by_cases last : holds item
          · rw [if_pos last, Nat.add_le_add_iff_right, induction]
            simp [last]
          · rw [if_neg last]
            simp [last]

/-- The length of the longest run of neighbouring items. -/
structure IsLongestRun (holds : α → Prop) (items : List α) (length : ℕ) : Prop where
  reached : ∃ before run after, items = before ++ run ++ after ∧ run.length = length ∧
    ∀ item ∈ run, holds item
  greatest : ∀ before run after, items = before ++ run ++ after → (∀ item ∈ run, holds item) →
    run.length ≤ length

namespace IsLongestRun

omit [DecidablePred holds] in
theorem nil : IsLongestRun holds [] 0 := by
  constructor
  · exact ⟨[], [], [], rfl, rfl, by simp⟩
  · intro before run after split _
    have empty := List.append_eq_nil_iff.mp split.symm
    rw [(List.append_eq_nil_iff.mp empty.1).2]
    exact Nat.le_refl 0

/-- One more item: the longest run is the old one, or the run at the end. -/
theorem snoc {items : List α} {length : ℕ} (longest : IsLongestRun holds items length) (item : α) :
    IsLongestRun holds (items ++ [item]) (max length (streak holds (items ++ [item]))) := by
  obtain ⟨before, run, after, split, size, all⟩ := longest.reached
  obtain ⟨front, last, lastSplit, lastSize, lastAll⟩ :=
    le_streak_iff.mp (Nat.le_refl (streak holds (items ++ [item])))
  constructor
  · rcases Nat.le_total length (streak holds (items ++ [item])) with longer | shorter
    · refine ⟨front, last, [], by simpa using lastSplit, ?_, lastAll⟩
      rw [lastSize, max_eq_right longer]
    · refine ⟨before, run, after ++ [item], by simp [split], ?_, all⟩
      rw [size, max_eq_left shorter]
  · intro otherBefore other otherAfter otherSplit otherAll
    cases otherAfter using List.reverseRecOn with
    | nil =>
        have atEnd : EndsInRun holds other.length (items ++ [item]) :=
          ⟨otherBefore, other, by simpa using otherSplit, rfl, otherAll⟩
        exact (le_streak_iff.mpr atEnd).trans (le_max_right _ _)
    | append_singleton otherAfter final =>
        rw [← List.append_assoc] at otherSplit
        have inside := (List.append_inj' otherSplit rfl).1
        exact (longest.greatest _ _ _ inside otherAll).trans (le_max_left _ _)

end IsLongestRun

end Foundation
