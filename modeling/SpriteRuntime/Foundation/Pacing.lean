import Mathlib.Algebra.Order.Floor.Ring
import Mathlib.Data.Int.CardIntervalMod
import Mathlib.Data.List.Count
import Mathlib.Data.List.Nodup

/-!
# Pacing and turns

A sender with a deadline that moves by at least one slot for every item that it sends is held
to a rate, however late it is called and whatever it does about a backlog.  A sender that
serves its clients in turn has served any two of them equally often, up to one.
-/

namespace Foundation

/-! ## Deadlines -/

section Deadlines

variable {K : Type} [Field K] [LinearOrder K]

/-- No item leaves before the slot of its number. -/
def Spaced (start slot : K) (stamps : List K) : Prop :=
  ∀ index (inside : index < stamps.length), start + index * slot ≤ stamps[index]

/-- The deadline of the next item is not before its slot either. -/
structure Paced (start slot deadline : K) (stamps : List K) : Prop where
  spaced : Spaced start slot stamps
  due : start + stamps.length * slot ≤ deadline

variable {start slot deadline now : K} {stamps : List K}

theorem Paced.nil : Paced start slot start [] := by
  constructor
  · intro index inside
    cases inside
  · simp

/-- An item left at its deadline or later, and the deadline moves. -/
theorem Paced.send [IsStrictOrderedRing K] (paced : Paced start slot deadline stamps)
    (late : deadline ≤ now) : Paced start slot (deadline + slot) (stamps ++ [now]) := by
  constructor
  · intro index inside
    by_cases earlier : index < stamps.length
    · rw [List.getElem_append_left earlier]
      exact paced.spaced index earlier
    · have last : index = stamps.length := by
        rw [List.length_append, List.length_singleton] at inside
        omega
      subst last
      rw [List.getElem_concat_length rfl]
      exact paced.due.trans late
  · rw [List.length_append, List.length_singleton, Nat.cast_succ, add_one_mul, ← add_assoc]
    exact add_le_add_left paced.due slot

/-- A deadline may be put off. -/
theorem Paced.postpone {later : K} (paced : Paced start slot deadline stamps)
    (puts : deadline ≤ later) : Paced start slot later stamps :=
  ⟨paced.spaced, paced.due.trans puts⟩

/-- Up to any time no more items have left than slots have begun. -/
theorem Spaced.countP_le [IsStrictOrderedRing K] [FloorRing K]
    (spaced : Spaced start slot stamps) (positive : 0 < slot) {time : K}
    (begun : start ≤ time) :
    ((stamps.countP fun stamp => stamp ≤ time : ℕ) : ℤ) ≤ ⌊(time - start) / slot⌋ + 1 := by
  have elapsed : 0 ≤ ⌊(time - start) / slot⌋ :=
    Int.floor_nonneg.mpr (div_nonneg (sub_nonneg.mpr begun) positive.le)
  obtain ⟨slots, counted⟩ := Int.eq_ofNat_of_zero_le elapsed
  have none : (stamps.drop (slots + 1)).countP (fun stamp => stamp ≤ time) = 0 := by
    rw [List.countP_eq_zero]
    intro stamp member
    obtain ⟨index, inside, rfl⟩ := List.mem_iff_getElem.mp member
    rw [List.length_drop] at inside
    have released := spaced (slots + 1 + index) (by omega)
    have after : time < start + ((slots + 1 + index : ℕ) : K) * slot := by
      have floor := Int.lt_floor_add_one ((time - start) / slot)
      rw [counted, div_lt_iff₀ positive] at floor
      have rest : 0 ≤ (index : K) * slot := mul_nonneg index.cast_nonneg positive.le
      push_cast at floor ⊢
      linarith
    rw [List.getElem_drop, decide_eq_true_eq, not_le]
    exact after.trans_le released
  have front : (stamps.take (slots + 1)).countP (fun stamp => stamp ≤ time) ≤ slots + 1 :=
    List.countP_le_length.trans (List.length_take_le _ _)
  have split : stamps.countP (fun stamp => stamp ≤ time) ≤ slots + 1 := by
    rw [← List.take_append_drop (slots + 1) stamps, List.countP_append, none]
    exact front
  rw [counted]
  exact_mod_cast split

end Deadlines

/-! ## Turns -/

section Turns

variable {α : Type}

/-- The items are served one after the other, and from the first one again. -/
def Cycles (items served : List α) : Prop :=
  ∀ index (inside : index < served.length),
    items[index % items.length]? = some served[index]

variable {items served : List α} {item : α}

theorem Cycles.nil : Cycles items [] := by
  intro index inside
  cases inside

theorem Cycles.snoc (cycles : Cycles items served)
    (next : items[served.length % items.length]? = some item) :
    Cycles items (served ++ [item]) := by
  intro index inside
  by_cases earlier : index < served.length
  · rw [List.getElem_append_left earlier]
    exact cycles index earlier
  · have last : index = served.length := by
      rw [List.length_append, List.length_singleton] at inside
      omega
    subst last
    rw [List.getElem_concat_length rfl]
    exact next

theorem Cycles.of_prefix {earlier : List α} (cycles : Cycles items served)
    (front : earlier <+: served) : Cycles items earlier := by
  intro index inside
  have reaches := front.length_le
  rw [cycles index (by omega), front.getElem inside]

variable [DecidableEq α]

/-- An item has been served once in every full cycle, and once more when its turn has come in
the one that is under way. -/
theorem Cycles.count_eq (cycles : Cycles items served) (distinct : items.Nodup) {turn : ℕ}
    (place : items[turn]? = some item) :
    served.count item = Nat.count (· ≡ turn [MOD items.length]) served.length := by
  obtain ⟨inside, here⟩ := List.getElem?_eq_some_iff.mp place
  induction served using List.reverseRecOn with
  | nil => rfl
  | append_singleton served last induction =>
      have before := induction (cycles.of_prefix (List.prefix_append _ _))
      have newest := cycles served.length (by simp)
      rw [List.getElem_concat_length rfl] at newest
      obtain ⟨within, there⟩ := List.getElem?_eq_some_iff.mp newest
      have same : last = item ↔ served.length ≡ turn [MOD items.length] := by
        rw [Nat.ModEq, Nat.mod_eq_of_lt inside, ← there, ← here]
        exact distinct.getElem_inj_iff
      rw [List.count_append, before, List.length_append, List.length_singleton, Nat.count_succ]
      simp [same, List.count_singleton]

/-- Nobody is more than one turn ahead. -/
theorem Cycles.count_le (cycles : Cycles items served) (distinct : items.Nodup)
    {other : α} (client : item ∈ items) (another : other ∈ items) :
    served.count item ≤ served.count other + 1 := by
  obtain ⟨turn, place⟩ := List.mem_iff_getElem?.mp client
  obtain ⟨turn', place'⟩ := List.mem_iff_getElem?.mp another
  have clients : 0 < items.length := List.length_pos_of_mem client
  rw [cycles.count_eq distinct place, cycles.count_eq distinct place',
    Nat.count_modEq_card _ clients, Nat.count_modEq_card _ clients]
  split_ifs <;> omega

end Turns

end Foundation
