import Mathlib.Data.List.Basic
import Mathlib.Logic.Function.Basic
import Mathlib.Tactic.Ring

/-!
# A window of frames in a flat array

A window holds the last frames of a sequence.  As a queue it takes a new frame at its end
and drops the oldest; in a flat array, indexed by natural numbers, everything moves down
by one frame.  This file relates the two.
-/

namespace Foundation

variable {α ι κ : Type}

section Assignments

/-- An entry after a loop of assignments that agree about it. -/
theorem foldl_update_apply [DecidableEq κ] {address : ι → κ} {value : ι → α} {index : κ}
    {result : α} {items : List ι}
    (consistent : ∀ item ∈ items, address item = index → value item = result) (array : κ → α) :
    items.foldl (fun array item => Function.update array (address item) (value item)) array index =
      if ∃ item ∈ items, address item = index then result else array index := by
  induction items generalizing array with
  | nil => simp
  | cons item rest induction =>
      have others : ∀ other ∈ rest, address other = index → value other = result := by
        intro other member
        exact consistent other (by simp [member])
      rw [List.foldl_cons, induction others]
      by_cases later : ∃ other ∈ rest, address other = index
      · obtain ⟨other, member, here⟩ := later
        rw [if_pos ⟨other, member, here⟩, if_pos ⟨other, by simp [member], here⟩]
      · rw [if_neg later]
        by_cases here : address item = index
        · rw [if_pos ⟨item, by simp, here⟩, ← here, Function.update_self]
          exact consistent item (by simp) here
        · have nowhere : ¬∃ other ∈ item :: rest, address other = index := by
            simpa [here] using later
          rw [if_neg nowhere, Function.update_of_ne (Ne.symm here)]

/-- Move `count` entries from `base + width` on down to `base`, one after the other. -/
def moveDown (base width count : ℕ) (array : ℕ → α) : ℕ → α :=
  (List.range count).foldl
    (fun array offset => Function.update array (base + offset) (array (base + width + offset)))
    array

/-- No entry is overwritten before it has been read. -/
theorem moveDown_apply {base width count : ℕ} (some : 0 < width) (array : ℕ → α) (index : ℕ) :
    moveDown base width count array index =
      if base ≤ index ∧ index < base + count then array (index + width) else array index := by
  induction count generalizing index with
  | zero =>
      have nothing : ¬(base ≤ index ∧ index < base + 0) := by omega
      rw [if_neg nothing]
      rfl
  | succ count induction =>
      have unread : moveDown base width count array (base + width + count) =
          array (base + width + count) := by
        rw [induction, if_neg (by omega)]
      rw [moveDown, List.range_succ, List.foldl_append, List.foldl_cons, List.foldl_nil]
      change Function.update (moveDown base width count array) (base + count)
        (moveDown base width count array (base + width + count)) index = _
      rw [unread]
      by_cases here : index = base + count
      · subst here
        rw [Function.update_self, if_pos ⟨by omega, by omega⟩]
        congr 1
        omega
      · rw [Function.update_of_ne here, induction]
        have same : (base ≤ index ∧ index < base + count) ↔
            (base ≤ index ∧ index < base + (count + 1)) := by omega
        simp only [same]

end Assignments

section Frames

/-- The frames of `width` entries that an array holds from `base` on. -/
def frames (array : ℕ → α) (base width count : ℕ) : List (List α) :=
  (List.range count).map fun frame =>
    (List.range width).map fun entry => array (base + frame * width + entry)

theorem frames_succ (array : ℕ → α) (base width count : ℕ) :
    frames array base width (count + 1) = frames array base width count ++
      [(List.range width).map fun entry => array (base + count * width + entry)] := by
  simp [frames, List.range_succ]

/-- One frame after the other, the frames are a piece of the array. -/
theorem flatten_frames (array : ℕ → α) (base width count : ℕ) :
    (frames array base width count).flatten =
      (List.range (count * width)).map fun offset => array (base + offset) := by
  induction count with
  | zero => simp [frames]
  | succ count induction =>
      rw [frames_succ, List.flatten_append, induction, Nat.succ_mul, List.range_add]
      simp [Nat.add_assoc, Function.comp_def]

/-- Frames depend on their piece of the array only. -/
theorem frames_congr {array other : ℕ → α} {base width count : ℕ}
    (same : ∀ offset < count * width, array (base + offset) = other (base + offset)) :
    frames array base width count = frames other base width count := by
  apply List.map_congr_left
  intro frame frameMember
  apply List.map_congr_left
  intro entry entryMember
  rw [List.mem_range] at frameMember entryMember
  have inside : frame * width + entry < count * width := by
    calc frame * width + entry < frame * width + width := by omega
      _ = (frame + 1) * width := by ring
      _ ≤ count * width := Nat.mul_le_mul_right width frameMember
  rw [Nat.add_assoc]
  exact same _ inside

/-- An array that has moved down by one frame, with a new frame at the end. -/
theorem frames_moved {array moved : ℕ → α} {base width count : ℕ} {value : ℕ → α}
    (kept : ∀ frame < count, ∀ entry < width,
      moved (base + frame * width + entry) = array (base + (frame + 1) * width + entry))
    (new : ∀ entry < width, moved (base + count * width + entry) = value entry) :
    frames moved base width (count + 1) =
      (frames array base width (count + 1)).tail ++ [(List.range width).map value] := by
  rw [frames_succ]
  congr 1
  · rw [frames, frames, List.range_succ_eq_map, List.map_cons, List.tail_cons, List.map_map]
    apply List.map_congr_left
    intro frame frameMember
    apply List.map_congr_left
    intro entry entryMember
    exact kept frame (List.mem_range.mp frameMember) entry (List.mem_range.mp entryMember)
  · congr 1
    apply List.map_congr_left
    intro entry member
    exact new entry (List.mem_range.mp member)

/-- An array that has been filled with one frame. -/
theorem frames_filled {array : ℕ → α} {base width count : ℕ} {value : ℕ → α}
    (filled : ∀ frame < count, ∀ entry < width,
      array (base + frame * width + entry) = value entry) :
    frames array base width count = List.replicate count ((List.range width).map value) := by
  rw [List.eq_replicate_iff]
  constructor
  · simp [frames]
  · intro frame member
    obtain ⟨index, indexMember, rfl⟩ := List.mem_map.mp member
    apply List.map_congr_left
    intro entry entryMember
    exact filled index (List.mem_range.mp indexMember) entry (List.mem_range.mp entryMember)

end Frames

section Loops

variable {base width : ℕ} {value array : ℕ → α}

/-- Write one frame to some places of a window, entry by entry. -/
def fillFrames (base width : ℕ) (places : List ℕ) (value array : ℕ → α) : ℕ → α :=
  (List.range width).foldl (fun array entry =>
    places.foldl
      (fun array frame => Function.update array (base + frame * width + entry) (value entry)) array)
    array

/-- The two loops as one loop of assignments. -/
theorem fillFrames_eq (places : List ℕ) :
    fillFrames base width places value array =
      ((List.range width).flatMap fun entry => places.map fun frame => (frame, entry)).foldl
        (fun array item =>
          Function.update array (base + item.1 * width + item.2) (value item.2)) array := by
  rw [List.foldl_flatMap]
  simp only [List.foldl_map]
  rfl

theorem fillFrames_apply {places : List ℕ} {frame entry : ℕ} (inside : entry < width) :
    fillFrames base width places value array (base + frame * width + entry) =
      if frame ∈ places then value entry else array (base + frame * width + entry) := by
  have place : ∀ item ∈ (List.range width).flatMap fun entry =>
      places.map fun frame => (frame, entry),
      base + item.1 * width + item.2 = base + frame * width + entry →
        item.1 = frame ∧ item.2 = entry ∧ item.1 ∈ places := by
    rintro ⟨frame', entry'⟩ member same
    obtain ⟨_, entryMember, pair⟩ := List.mem_flatMap.mp member
    obtain ⟨_, frameMember, shape⟩ := List.mem_map.mp pair
    cases shape
    have sum : frame' * width + entry' = frame * width + entry := by
      dsimp only at same
      omega
    have entries : entry' = entry := by
      have remainder := congrArg (· % width) sum
      simpa [Nat.mul_add_mod_self_right, Nat.mod_eq_of_lt (List.mem_range.mp entryMember),
        Nat.mod_eq_of_lt inside] using remainder
    subst entries
    have rows : frame' * width = frame * width := by omega
    exact ⟨Nat.eq_of_mul_eq_mul_right (by omega) rows, rfl, frameMember⟩
  rw [fillFrames_eq, foldl_update_apply fun item member same => by
    rw [(place item member same).2.1]]
  by_cases chosen : frame ∈ places
  · rw [if_pos chosen, if_pos]
    refine ⟨(frame, entry), ?_, rfl⟩
    exact List.mem_flatMap.mpr ⟨entry, List.mem_range.mpr inside,
      List.mem_map.mpr ⟨frame, chosen, rfl⟩⟩
  · rw [if_neg chosen, if_neg]
    rintro ⟨item, member, same⟩
    obtain ⟨rfl, _, there⟩ := place item member same
    exact chosen there

/-- Nothing is written beside the window. -/
theorem fillFrames_beside {places : List ℕ} {count index : ℕ}
    (within : ∀ frame ∈ places, frame < count)
    (beside : index < base ∨ base + count * width ≤ index) :
    fillFrames base width places value array index = array index := by
  rw [fillFrames_eq, @foldl_update_apply _ _ _ _ _ _ index (array index), ite_self]
  rintro ⟨frame, entry⟩ member rfl
  obtain ⟨_, entryMember, pair⟩ := List.mem_flatMap.mp member
  obtain ⟨_, frameMember, shape⟩ := List.mem_map.mp pair
  cases shape
  have inside : (frame + 1) * width ≤ count * width :=
    Nat.mul_le_mul_right width (within frame frameMember)
  rw [List.mem_range] at entryMember
  rw [Nat.succ_mul] at inside
  dsimp only at beside
  omega

/-- Everything moves down by a frame and the new frame takes the last place. -/
theorem frames_slide {count : ℕ} (some : 0 < width) :
    frames (fillFrames base width [count] value (moveDown base width (width * count) array))
        base width (count + 1) =
      (frames array base width (count + 1)).tail ++ [(List.range width).map value] := by
  apply frames_moved
  · intro frame before entry inside
    have below : frame * width + entry < width * count := by
      calc frame * width + entry < (frame + 1) * width := by rw [Nat.succ_mul]; omega
        _ ≤ count * width := Nat.mul_le_mul_right width before
        _ = width * count := Nat.mul_comm count width
    have early : frame ∉ [count] := by
      simpa using before.ne
    rw [fillFrames_apply inside, if_neg early, moveDown_apply some, if_pos ⟨by omega, by omega⟩]
    congr 1
    ring
  · intro entry inside
    rw [fillFrames_apply inside, if_pos (by simp)]

/-- All places take the new frame. -/
theorem frames_fill {count : ℕ} :
    frames (fillFrames base width (List.range count) value array) base width count =
      List.replicate count ((List.range width).map value) := by
  apply frames_filled
  intro frame within entry inside
  rw [fillFrames_apply inside, if_pos (List.mem_range.mpr within)]

end Loops

section Queue

/-- A queue of at most `maxlen` items takes one more. -/
def pushBounded (maxlen : ℕ) (queue : List α) (item : α) : List α :=
  (queue ++ [item]).drop (queue.length + 1 - maxlen)

/-- A full queue drops its oldest item. -/
theorem pushBounded_full {maxlen : ℕ} (some : 0 < maxlen) {queue : List α}
    (full : queue.length = maxlen) (item : α) :
    pushBounded maxlen queue item = queue.tail ++ [item] := by
  cases queue with
  | nil =>
      subst full
      cases some
  | cons first rest =>
      subst full
      simp [pushBounded]

end Queue

end Foundation
