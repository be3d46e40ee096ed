import Mathlib.Order.Lattice
import Mathlib.Data.List.Basic

/-!
# The latest sample at a time

Samples are recorded in one order and carry times that may repeat or run back.  A reader who
asks at a time gets the sample with the greatest time that is not after it, of several with
that time the one recorded last.  A stable sort followed by a search for the insertion point
finds it.
-/

namespace Foundation

variable {α T : Type} [LinearOrder T]

/-- A stable sort by a key. -/
def sortedBy (key : α → T) (items : List α) : List α :=
  items.mergeSort fun left right => decide (key left ≤ key right)

/-- `searchsorted` with `side="right"`: the first place at which a sorted list has a value
after the target. -/
def searchSortedRight (values : List T) (target : T) : ℕ :=
  (values.takeWhile (· ≤ target)).length

/-- No sample at or before the target is later; one of the same time was recorded earlier. -/
def IsLatest (time : α → T) (samples : List α) (target : T) (sample : α) : Prop :=
  time sample ≤ target ∧ ∃ before after, samples = before ++ sample :: after ∧
    (∀ other ∈ before, time other ≤ target → time other ≤ time sample) ∧
    ∀ other ∈ after, time other ≤ target → time other < time sample

section Sorting

variable (time : α → T) (samples : List α)

private theorem keyOrder_trans (left middle right : α)
    (first : decide (time left ≤ time middle) = true)
    (second : decide (time middle ≤ time right) = true) :
    decide (time left ≤ time right) = true := by
  simp only [decide_eq_true_eq] at first second ⊢
  exact first.trans second

private theorem keyOrder_total (left right : α) :
    (decide (time left ≤ time right) || decide (time right ≤ time left)) = true := by
  simpa using le_total (time left) (time right)

theorem pairwise_sortedBy :
    (sortedBy time samples).Pairwise fun left right => time left ≤ time right := by
  have sorted : (sortedBy time samples).Pairwise
      fun left right => decide (time left ≤ time right) = true :=
    List.pairwise_mergeSort (keyOrder_trans time) (keyOrder_total time) samples
  exact sorted.imp fun ordered => of_decide_eq_true ordered

theorem perm_sortedBy : (sortedBy time samples).Perm samples :=
  List.mergeSort_perm samples _

@[simp] theorem mem_sortedBy {sample : α} :
    sample ∈ sortedBy time samples ↔ sample ∈ samples :=
  (perm_sortedBy time samples).mem_iff

@[simp] theorem sortedBy_eq_nil : sortedBy time samples = [] ↔ samples = [] := by
  constructor
  · intro none
    exact (none ▸ perm_sortedBy time samples).symm.eq_nil
  · intro none
    simp [none, sortedBy]

/-- The sort keeps the samples of one time in the order in which they were recorded. -/
theorem filter_sortedBy (moment : T) :
    (sortedBy time samples).filter (time · = moment) =
      samples.filter (time · = moment) := by
  have tied : (samples.filter (time · = moment)).Pairwise
      fun left right => decide (time left ≤ time right) = true := by
    apply List.pairwise_of_forall_mem_list
    intro left leftMem right rightMem
    simp only [List.mem_filter, decide_eq_true_eq] at leftMem rightMem ⊢
    exact (leftMem.2.trans rightMem.2.symm).le
  have kept : (samples.filter (time · = moment)).Sublist (sortedBy time samples) :=
    List.sublist_mergeSort (keyOrder_trans time) (keyOrder_total time) tied
      List.filter_sublist
  have filtered := kept.filter (time · = moment)
  rw [List.filter_filter] at filtered
  simp only [Bool.and_self] at filtered
  exact (filtered.eq_of_length
    ((perm_sortedBy time samples).filter _).length_eq.symm).symm

end Sorting

section Searching

variable {time : α → T} {samples : List α} {target : T}

/-- In a sorted list the values up to the target are the first ones. -/
theorem takeWhile_eq_filter
    (sorted : samples.Pairwise fun left right => time left ≤ time right) :
    samples.takeWhile (time · ≤ target) = samples.filter (time · ≤ target) := by
  induction sorted with
  | nil => rfl
  | @cons first rest later _ induction =>
      by_cases early : time first ≤ target
      · simp [early, induction]
      · have none : ∀ sample ∈ rest, ¬time sample ≤ target := fun sample member reached =>
          early ((later sample member).trans reached)
        simpa [early] using none

theorem searchSortedRight_map :
    searchSortedRight ((sortedBy time samples).map time) target =
      ((sortedBy time samples).filter (time · ≤ target)).length := by
  rw [← takeWhile_eq_filter (pairwise_sortedBy time samples), searchSortedRight,
    List.takeWhile_map, List.length_map]
  rfl

theorem searchSortedRight_eq_zero :
    searchSortedRight ((sortedBy time samples).map time) target = 0 ↔
      ∀ sample ∈ samples, target < time sample := by
  simp [searchSortedRight_map]

/-- The last of the samples at or before the target in the sorted list is the latest one. -/
theorem isLatest_of_filter {front : List α} {sample : α}
    (early : (sortedBy time samples).filter (time · ≤ target) = front ++ [sample]) :
    IsLatest time samples target sample := by
  have sorted := (pairwise_sortedBy time samples).filter (time · ≤ target)
  rw [early, List.pairwise_append] at sorted
  have member : sample ∈ (sortedBy time samples).filter (time · ≤ target) := by
    simp [early]
  have reached : time sample ≤ target := by simpa using (List.mem_filter.mp member).2
  have maximal : ∀ other ∈ samples, time other ≤ target → time other ≤ time sample := by
    intro other recorded before
    have found : other ∈ front ++ [sample] := by
      rw [← early]
      simpa using ⟨recorded, before⟩
    rcases List.mem_append.mp found with first | last
    · exact sorted.2.2 other first sample (List.mem_singleton_self _)
    · rw [List.mem_singleton.mp last]
  -- of the samples with the greatest time the sort leaves the last recorded one last
  have tied : samples.filter (time · = time sample) =
      front.filter (time · = time sample) ++ [sample] := by
    have restricted : (sortedBy time samples).filter (time · = time sample) =
        ((sortedBy time samples).filter (time · ≤ target)).filter
          (time · = time sample) := by
      rw [List.filter_filter]
      apply List.filter_congr
      intro other _
      by_cases same : time other = time sample
      · simp [same, reached]
      · simp [same]
    rw [← filter_sortedBy, restricted, early, List.filter_append]
    simp
  obtain ⟨first, second, split, _, last⟩ := List.filter_eq_append_iff.mp tied
  obtain ⟨middle, after, rest, _, _, none⟩ := List.filter_eq_cons_iff.mp last
  refine ⟨reached, first ++ middle, after, by simp [split, rest], ?_, ?_⟩
  · intro other recorded before
    apply maximal other _ before
    simp only [split, rest, List.mem_append, List.mem_cons] at recorded ⊢
    tauto
  · intro other recorded before
    have bounded := maximal other (by simp [split, rest, recorded]) before
    have different : time other ≠ time sample := by
      have excluded := List.filter_eq_nil_iff.mp none other recorded
      simpa using excluded
    exact lt_of_le_of_ne bounded different

/-- The sample before the insertion point is the latest one. -/
theorem isLatest_of_searchSortedRight {index : ℕ}
    (found : searchSortedRight ((sortedBy time samples).map time) target = index + 1) :
    ∃ sample, (sortedBy time samples)[index]? = some sample ∧
      IsLatest time samples target sample := by
  have sorted := pairwise_sortedBy time samples
  rw [searchSortedRight_map] at found
  rcases List.eq_nil_or_concat ((sortedBy time samples).filter (time · ≤ target)) with
    none | ⟨front, sample, split⟩
  · simp [none] at found
  · rw [List.concat_eq_append] at split
    refine ⟨sample, ?_, isLatest_of_filter split⟩
    have length : front.length = index := by simpa [split] using found
    have start : front ++ [sample] <+: sortedBy time samples := by
      rw [← split, ← takeWhile_eq_filter sorted]
      exact List.takeWhile_prefix _
    obtain ⟨rest, whole⟩ := start
    rw [← whole, ← length]
    simp

/-- There is one latest sample at most. -/
theorem IsLatest.unique {left right : α} (first : IsLatest time samples target left)
    (second : IsLatest time samples target right) : left = right := by
  obtain ⟨leftReached, leftBefore, leftAfter, leftSplit, leftEarlier, leftLater⟩ := first
  obtain ⟨rightReached, rightBefore, rightAfter, rightSplit, rightEarlier, rightLater⟩ := second
  rw [leftSplit] at rightSplit
  rcases List.append_eq_append_iff.mp rightSplit with
    ⟨gap, before, after⟩ | ⟨gap, before, after⟩
  · cases gap with
    | nil => exact (List.cons.inj after).1
    | cons head gap =>
        obtain ⟨rfl, rest⟩ := List.cons.inj after
        have lower := leftLater right (by simp [rest]) rightReached
        have upper := rightEarlier left (by simp [before]) leftReached
        exact absurd lower (not_lt.mpr upper)
  · cases gap with
    | nil => exact (List.cons.inj after).1.symm
    | cons head gap =>
        obtain ⟨rfl, rest⟩ := List.cons.inj after
        have lower := rightLater left (by simp [rest]) leftReached
        have upper := leftEarlier right (by simp [before]) rightReached
        exact absurd lower (not_lt.mpr upper)

end Searching

end Foundation
