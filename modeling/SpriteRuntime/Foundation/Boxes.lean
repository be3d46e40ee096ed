import Mathlib.Algebra.BigOperators.Group.Finset.Basic
import Mathlib.Algebra.Order.BigOperators.Group.Finset
import Mathlib.Algebra.Order.Module.Field
import Mathlib.Algebra.Order.Pi
import Mathlib.Analysis.Convex.Basic
import Mathlib.Tactic.LinearCombination
import Mathlib.Tactic.Linarith

/-!
# Affine forms on boxes

An affine form takes its values on a box between those at two corners: at every coordinate the
sign of the weight decides which end is the smaller one.  The form then maps the box onto the
interval between its least and its greatest value at a corner, and those are what the bounds of
a list of all corner values are.
-/

namespace Foundation

variable {ι K : Type}

/-! ## Affine forms -/

section Forms

variable [Fintype ι] [Field K]

/-- An affine form by its value at zero and its weights. -/
def affine (offset : K) (weight : ι → K) (point : ι → K) : K :=
  offset + ∑ index, weight index * point index

variable (offset : K) (weight : ι → K)

theorem affine_neg (point : ι → K) :
    affine (-offset) (-weight) point = -affine offset weight point := by
  simp only [affine, Pi.neg_apply, neg_mul, Finset.sum_neg_distrib, neg_add]

/-- Along a segment the form is linear. -/
theorem affine_segment (start stop : ι → K) {left right : K} (one : left + right = 1) :
    affine offset weight (left • start + right • stop) =
      left * affine offset weight start + right * affine offset weight stop := by
  have sums : ∑ index, weight index * (left • start + right • stop) index =
      left * ∑ index, weight index * start index +
        right * ∑ index, weight index * stop index := by
    rw [Finset.mul_sum, Finset.mul_sum, ← Finset.sum_add_distrib]
    apply Finset.sum_congr rfl
    intro index _
    simp only [Pi.add_apply, Pi.smul_apply, smul_eq_mul]
    ring
  rw [affine, affine, affine, sums]
  linear_combination (-offset) * one

end Forms

/-! ## Corners -/

section Corners

variable [LinearOrder K]

/-- Every coordinate is at an end. -/
def IsCorner (low high point : ι → K) : Prop :=
  ∀ index, point index = low index ∨ point index = high index

theorem IsCorner.mem_Icc {low high point : ι → K} (corner : IsCorner low high point)
    (ordered : low ≤ high) : point ∈ Set.Icc low high := by
  constructor
  · intro index
    rcases corner index with same | same
    · exact same.ge
    · rw [same]
      exact ordered index
  · intro index
    rcases corner index with same | same
    · rw [same]
      exact ordered index
    · exact same.le

/-- The corner where the form is least.  Where the opposite form is least, the form is
greatest. -/
def lowestCorner [Zero K] (weight low high : ι → K) (index : ι) : K :=
  if 0 ≤ weight index then low index else high index

theorem lowestCorner_isCorner [Zero K] (weight low high : ι → K) :
    IsCorner low high (lowestCorner weight low high) := by
  intro index
  unfold lowestCorner
  split
  · exact .inl rfl
  · exact .inr rfl

end Corners

/-! ## The image of a box -/

section Image

variable [Fintype ι] [Field K] [LinearOrder K] [IsStrictOrderedRing K]
  {offset : K} {weight low high point : ι → K}

omit [Fintype ι] in
theorem mul_lowestCorner_le (inside : point ∈ Set.Icc low high) (index : ι) :
    weight index * lowestCorner weight low high index ≤ weight index * point index := by
  unfold lowestCorner
  split
  next nonneg => exact mul_le_mul_of_nonneg_left (inside.1 index) nonneg
  next negative => exact mul_le_mul_of_nonpos_left (inside.2 index) (not_le.mp negative).le

theorem affine_lowestCorner_le (inside : point ∈ Set.Icc low high) :
    affine offset weight (lowestCorner weight low high) ≤ affine offset weight point := by
  have sums : ∑ index, weight index * lowestCorner weight low high index ≤
      ∑ index, weight index * point index :=
    Finset.sum_le_sum fun index _ => mul_lowestCorner_le inside index
  unfold affine
  linarith

theorem affine_le_highestCorner (inside : point ∈ Set.Icc low high) :
    affine offset weight point ≤ affine offset weight (lowestCorner (-weight) low high) := by
  have least : affine (-offset) (-weight) (lowestCorner (-weight) low high) ≤
      affine (-offset) (-weight) point := affine_lowestCorner_le inside
  rw [affine_neg, affine_neg] at least
  exact neg_le_neg_iff.mp least

/-- The values at two points of a box have all values between them for company. -/
theorem Icc_subset_image {start stop : ι → K} (inStart : start ∈ Set.Icc low high)
    (inStop : stop ∈ Set.Icc low high) :
    Set.Icc (affine offset weight start) (affine offset weight stop) ⊆
      affine offset weight '' Set.Icc low high := by
  rintro value ⟨above, below⟩
  rcases (above.trans below).eq_or_lt with same | apart
  · exact ⟨start, inStart, le_antisymm above (below.trans same.ge)⟩
  · let width := affine offset weight stop - affine offset weight start
    have positive : 0 < width := sub_pos.mpr apart
    let right := (value - affine offset weight start) / width
    have nonneg : 0 ≤ right := div_nonneg (sub_nonneg.mpr above) positive.le
    have atMost : right ≤ 1 := by
      rw [div_le_one positive]
      exact sub_le_sub_right below _
    have one : (1 - right) + right = 1 := sub_add_cancel 1 right
    refine ⟨(1 - right) • start + right • stop,
      convex_Icc low high inStart inStop (sub_nonneg.mpr atMost) nonneg one, ?_⟩
    rw [affine_segment offset weight start stop one]
    have share : right * width = value - affine offset weight start :=
      div_mul_cancel₀ _ positive.ne'
    linear_combination share

/-- An interval between values at corners that contains the value at every corner is the image
of the box. -/
theorem image_affine_Icc (ordered : low ≤ high) {least greatest : K}
    (least_corner : ∃ corner, IsCorner low high corner ∧ affine offset weight corner = least)
    (greatest_corner : ∃ corner, IsCorner low high corner ∧
      affine offset weight corner = greatest)
    (between : ∀ corner, IsCorner low high corner →
      least ≤ affine offset weight corner ∧ affine offset weight corner ≤ greatest) :
    affine offset weight '' Set.Icc low high = Set.Icc least greatest := by
  obtain ⟨start, startCorner, rfl⟩ := least_corner
  obtain ⟨stop, stopCorner, rfl⟩ := greatest_corner
  apply Set.Subset.antisymm
  · rintro _ ⟨point, inside, rfl⟩
    constructor
    · exact (between _ (lowestCorner_isCorner _ _ _)).1.trans (affine_lowestCorner_le inside)
    · exact (affine_le_highestCorner inside).trans (between _ (lowestCorner_isCorner _ _ _)).2
  · exact Icc_subset_image (startCorner.mem_Icc ordered) (stopCorner.mem_Icc ordered)

/-- Away from the ends of a box the form is above its least value. -/
theorem affine_lowestCorner_lt (matters : ∃ index, weight index ≠ 0)
    (inside : ∀ index, low index < point index ∧ point index < high index) :
    affine offset weight (lowestCorner weight low high) < affine offset weight point := by
  obtain ⟨index, nonzero⟩ := matters
  have box : point ∈ Set.Icc low high :=
    ⟨fun index => (inside index).1.le, fun index => (inside index).2.le⟩
  have here : weight index * lowestCorner weight low high index <
      weight index * point index := by
    unfold lowestCorner
    split
    next nonneg =>
        exact mul_lt_mul_of_pos_left (inside index).1 (lt_of_le_of_ne nonneg nonzero.symm)
    next negative => exact mul_lt_mul_of_neg_left (inside index).2 (not_le.mp negative)
  have sums : ∑ index, weight index * lowestCorner weight low high index <
      ∑ index, weight index * point index :=
    Finset.sum_lt_sum (fun index _ => mul_lowestCorner_le box index)
      ⟨index, Finset.mem_univ index, here⟩
  unfold affine
  linarith

theorem affine_lt_highestCorner (matters : ∃ index, weight index ≠ 0)
    (inside : ∀ index, low index < point index ∧ point index < high index) :
    affine offset weight point < affine offset weight (lowestCorner (-weight) low high) := by
  have opposite : ∃ index, (-weight) index ≠ 0 := by
    obtain ⟨index, nonzero⟩ := matters
    exact ⟨index, neg_ne_zero.mpr nonzero⟩
  have least : affine (-offset) (-weight) (lowestCorner (-weight) low high) <
      affine (-offset) (-weight) point := affine_lowestCorner_lt opposite inside
  rw [affine_neg, affine_neg] at least
  exact neg_lt_neg_iff.mp least

end Image

/-! ## The bounds of a list -/

section Bounds

variable [LinearOrder K]

/-- The least and the greatest entry of a list that has one. -/
def bounds (first : K) (rest : List K) : K × K := (rest.foldl min first, rest.foldl max first)

variable (first : K) (rest : List K)

theorem bounds_mem :
    (bounds first rest).1 ∈ first :: rest ∧ (bounds first rest).2 ∈ first :: rest := by
  have least : (first :: rest).min? = some (bounds first rest).1 := List.min?_cons'
  have greatest : (first :: rest).max? = some (bounds first rest).2 := List.max?_cons'
  exact ⟨List.min?_mem least, List.max?_mem greatest⟩

theorem bounds_between {value : K} (member : value ∈ first :: rest) :
    (bounds first rest).1 ≤ value ∧ value ≤ (bounds first rest).2 := by
  have least : (first :: rest).min? = some (bounds first rest).1 := List.min?_cons'
  have greatest : (first :: rest).max? = some (bounds first rest).2 := List.max?_cons'
  exact ⟨(List.min?_eq_some_iff.mp least).2 value member,
    (List.max?_eq_some_iff.mp greatest).2 value member⟩

end Bounds

section CornerBounds

variable [Fintype ι] [Field K] [LinearOrder K] [IsStrictOrderedRing K]
  {offset : K} {weight low high : ι → K} {first : K} {rest : List K}

/-- The entries of the list are the values at the corners. -/
def CornerValues (offset : K) (weight low high : ι → K) (values : List K) : Prop :=
  ∀ value, value ∈ values ↔
    ∃ corner, IsCorner low high corner ∧ affine offset weight corner = value

theorem CornerValues.image_eq (corners : CornerValues offset weight low high (first :: rest))
    (ordered : low ≤ high) :
    affine offset weight '' Set.Icc low high =
      Set.Icc (bounds first rest).1 (bounds first rest).2 := by
  obtain ⟨least, greatest⟩ := bounds_mem first rest
  apply image_affine_Icc ordered
  · exact (corners _).mp least
  · exact (corners _).mp greatest
  · intro corner isCorner
    exact bounds_between first rest ((corners _).mpr ⟨corner, isCorner, rfl⟩)

/-- The bounds of a box are outside those of a box in its interior. -/
theorem CornerValues.strictly_inside {inLow inHigh : ι → K} {inFirst : K} {inRest : List K}
    (corners : CornerValues offset weight low high (first :: rest))
    (inner : CornerValues offset weight inLow inHigh (inFirst :: inRest))
    (matters : ∃ index, weight index ≠ 0)
    (inside : ∀ index, low index < inLow index ∧ inLow index < inHigh index ∧
      inHigh index < high index) :
    (bounds first rest).1 < (bounds inFirst inRest).1 ∧
      (bounds inFirst inRest).2 < (bounds first rest).2 := by
  have within {corner : ι → K} (isCorner : IsCorner inLow inHigh corner) (index : ι) :
      low index < corner index ∧ corner index < high index := by
    obtain ⟨above, between, below⟩ := inside index
    rcases isCorner index with same | same
    · rw [same]
      exact ⟨above, between.trans below⟩
    · rw [same]
      exact ⟨above.trans between, below⟩
  obtain ⟨least, greatest⟩ := bounds_mem inFirst inRest
  constructor
  · obtain ⟨corner, isCorner, same⟩ := (inner _).mp least
    rw [← same]
    have outer := (corners _).mpr ⟨_, lowestCorner_isCorner weight low high, rfl⟩
    exact (bounds_between first rest outer).1.trans_lt
      (affine_lowestCorner_lt matters (within isCorner))
  · obtain ⟨corner, isCorner, same⟩ := (inner _).mp greatest
    rw [← same]
    have outer := (corners _).mpr ⟨_, lowestCorner_isCorner (-weight) low high, rfl⟩
    exact (affine_lt_highestCorner matters (within isCorner)).trans_le
      (bounds_between first rest outer).2

end CornerBounds

end Foundation
