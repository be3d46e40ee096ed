import Mathlib.Algebra.Order.Group.Nat
import Mathlib.Data.List.Induction
import SpriteRuntime.Foundation.Program

/-!
# Catching up

A loop that does what is due, a limited number of times a call, and a list in which every so many
items carry a value.  Together they are a schedule with a divided rate.
-/

namespace Foundation

/-! ## A divided rate -/

section Divided

variable {α β : Type} {carried : α → Option β} {divisor : ℕ} {items : List α} {item : α}

/-- The first item carries a value, and after it every item at a multiple of the divisor does. -/
def EveryNth (divisor : ℕ) (carried : α → Option β) (items : List α) : Prop :=
  ∀ index item, items[index]? = some item → ((carried item).isSome ↔ index % divisor = 0)

theorem EveryNth.nil : EveryNth divisor carried [] := by
  intro index item found
  cases found

theorem getElem?_append_singleton {index : ℕ} {found : α} :
    (items ++ [item])[index]? = some found ↔
      items[index]? = some found ∨ index = items.length ∧ found = item := by
  by_cases earlier : index < items.length
  · rw [List.getElem?_append_left earlier]
    have different : index ≠ items.length := ne_of_lt earlier
    simp [different]
  · have beyond : items[index]? = none := List.getElem?_eq_none (not_lt.mp earlier)
    rw [List.getElem?_append_right (not_lt.mp earlier), beyond]
    by_cases last : index = items.length
    · simp [last, eq_comm]
    · have far : 0 < index - items.length := by omega
      have outside : [item][index - items.length]? = none := by
        apply List.getElem?_eq_none
        rw [List.length_singleton]
        exact far
      simp [last, outside]

theorem everyNth_snoc : EveryNth divisor carried (items ++ [item]) ↔
    EveryNth divisor carried items ∧ ((carried item).isSome ↔ items.length % divisor = 0) := by
  constructor
  · intro every
    constructor
    · intro index other found
      exact every index other (getElem?_append_singleton.mpr (.inl found))
    · exact every items.length item (getElem?_append_singleton.mpr (.inr ⟨rfl, rfl⟩))
  · rintro ⟨before, last⟩ index other found
    rcases getElem?_append_singleton.mp found with earlier | ⟨rfl, rfl⟩
    · exact before index other earlier
    · exact last

/-- The values so far would be enough for so many items, and one value less would not. -/
theorem EveryNth.bounds (positive : 0 < divisor) :
    ∀ {items : List α}, EveryNth divisor carried items →
      items.length ≤ divisor * (items.filterMap carried).length ∧
        divisor * (items.filterMap carried).length < items.length + divisor := by
  intro items
  induction items using List.reverseRecOn with
  | nil =>
      intro every
      simpa using positive
  | append_singleton items item ih =>
      intro every
      obtain ⟨before, last⟩ := everyNth_snoc.mp every
      obtain ⟨enough, least⟩ := ih before
      rw [List.filterMap_append, List.length_append, List.length_append, List.length_singleton,
        Nat.mul_add]
      cases value : carried item with
      | none =>
          rw [value] at last
          have within : items.length ≠ divisor * (items.filterMap carried).length := by
            intro full
            have start : items.length % divisor = 0 := by rw [full, Nat.mul_mod_right]
            exact absurd (last.mpr start) Bool.false_ne_true
          have nothing : ([item].filterMap carried).length = 0 := by simp [value]
          rw [nothing]
          omega
      | some carriedValue =>
          rw [value] at last
          have multiple : divisor ∣ divisor * (items.filterMap carried).length - items.length :=
            Nat.dvd_sub (Nat.dvd_mul_right _ _) (Nat.dvd_of_mod_eq_zero (last.mp rfl))
          have full : divisor * (items.filterMap carried).length - items.length = 0 :=
            Nat.eq_zero_of_dvd_of_lt multiple (by omega)
          have one : ([item].filterMap carried).length = 1 := by simp [value]
          rw [one]
          omega

/-- The number of values is the number of items by the divisor, rounded up. -/
theorem EveryNth.length_filterMap (positive : 0 < divisor)
    (every : EveryNth divisor carried items) :
    (items.filterMap carried).length = (items.length + (divisor - 1)) / divisor := by
  obtain ⟨enough, least⟩ := every.bounds positive
  symm
  apply Nat.div_eq_of_lt_le
  · rw [Nat.mul_comm]
    omega
  · rw [Nat.add_mul, Nat.one_mul, Nat.mul_comm]
    omega

/-- The values come from the items at the multiples of the divisor. -/
theorem EveryNth.getElem?_filterMap (positive : 0 < divisor) {turn : ℕ} :
    ∀ {items : List α}, EveryNth divisor carried items →
      (items.filterMap carried)[turn]? = (items[divisor * turn]?).bind carried := by
  intro items
  induction items using List.reverseRecOn with
  | nil =>
      intro every
      rfl
  | append_singleton items item ih =>
      intro every
      obtain ⟨before, last⟩ := everyNth_snoc.mp every
      obtain ⟨enough, least⟩ := before.bounds positive
      rw [List.filterMap_append]
      rcases Nat.lt_trichotomy (divisor * turn) items.length with earlier | here | later
      · have behind : turn < (items.filterMap carried).length :=
          Nat.lt_of_mul_lt_mul_left (earlier.trans_le enough)
        rw [List.getElem?_append_left earlier, List.getElem?_append_left behind, ih before]
      · have start : items.length % divisor = 0 := by rw [← here, Nat.mul_mod_right]
        obtain ⟨value, found⟩ := Option.isSome_iff_exists.mp (last.mpr start)
        have full : turn = (items.filterMap carried).length := by
          rw [← here] at enough least
          rw [← Nat.mul_succ] at least
          have atMost := Nat.le_of_mul_le_mul_left enough positive
          have below := Nat.lt_of_mul_lt_mul_left least
          omega
        rw [here, List.getElem?_append_right le_rfl, Nat.sub_self,
          List.getElem?_append_right full.ge, full, Nat.sub_self]
        simp [found]
      · have beyond : (items.filterMap carried ++ [item].filterMap carried).length ≤ turn := by
          rw [← List.filterMap_append]
          have bounds := every.bounds positive
          rw [List.length_append, List.length_singleton] at bounds
          by_contra short
          have fits : divisor * (turn + 1) ≤
              divisor * ((items ++ [item]).filterMap carried).length :=
            Nat.mul_le_mul_left divisor (by omega)
          rw [Nat.mul_succ] at fits
          omega
        have outside : (items ++ [item])[divisor * turn]? = none := by
          apply List.getElem?_eq_none
          rw [List.length_append, List.length_singleton]
          omega
        rw [outside, List.getElem?_eq_none beyond]
        rfl

end Divided

/-! ## The loop -/

namespace Program

variable {σ ε α τ : Type}

/-- Run a program and keep its error as a value. -/
def attempt (program : Program σ ε α) : Program σ ε (Except ε α) := fun state =>
  match program state with
  | (.done value, middle) => (.done (.ok value), middle)
  | (.thrown error, middle) => (.done (.error error), middle)
  | (.unfinished, middle) => (.unfinished, middle)

/-- What a call of the loop has done, and whether an error ended it. -/
structure Caught (τ : Type) where
  items : List τ
  raised : Bool

section Loop

variable (due : σ → Prop) [DecidablePred due] (arrive advance : σ → σ) (fail : ε → σ → σ)
  (body : Program σ ε τ)

/-- Do what is due, at most so many times. -/
def catchUp : ℕ → Program σ ε (Caught τ)
  | 0 => pure ⟨[], false⟩
  | rounds + 1 => do
      let state ← get
      if due state then
        modify arrive
        match ← attempt body with
        | .error error => do
            modify (fail error)
            return ⟨[], true⟩
        | .ok item => do
            modify advance
            let later ← catchUp rounds
            return ⟨item :: later.items, later.raised⟩
      else return ⟨[], false⟩

variable {due arrive advance fail body}

/-- A round that goes well keeps the invariant.  Without an error the loop keeps it too, and it
only leaves something due when it has used up its rounds. -/
theorem catchUp_law {invariant : List τ → σ → Prop} (finishes : Finishes body)
    (step : ∀ {items state item final}, invariant items state → due state →
      body (arrive state) = (.done item, final) → invariant (items ++ [item]) (advance final)) :
    ∀ (rounds : ℕ) {items state}, invariant items state → ∃ caught final,
      catchUp due arrive advance fail body rounds state = (.done caught, final) ∧
        (caught.raised = false → invariant (items ++ caught.items) final ∧
          caught.items.length ≤ rounds ∧ (caught.items.length < rounds → ¬due final)) := by
  intro rounds
  induction rounds with
  | zero =>
      intro items state holds
      refine ⟨⟨[], false⟩, state, rfl, ?_⟩
      intro _
      simpa using holds
  | succ rounds ih =>
      intro items state holds
      by_cases ready : due state
      · cases run : body (arrive state) with
        | mk outcome middle =>
          cases outcome with
          | done item =>
              obtain ⟨caught, final, others, fine⟩ := ih (step holds ready run)
              refine ⟨⟨item :: caught.items, caught.raised⟩, final, ?_, ?_⟩
              · simp only [catchUp, bind_apply, get_apply, if_pos ready, modify_apply, attempt, run,
                  others, pure_apply]
              · intro quiet
                obtain ⟨kept, short, empty⟩ := fine quiet
                refine ⟨?_, ?_, ?_⟩
                · rwa [List.append_assoc] at kept
                · exact Nat.succ_le_succ short
                · intro fewer
                  exact empty (Nat.lt_of_succ_lt_succ fewer)
          | thrown error =>
              refine ⟨⟨[], true⟩, fail error middle, ?_, ?_⟩
              · simp only [catchUp, bind_apply, get_apply, if_pos ready, modify_apply, attempt, run,
                  pure_apply]
              · intro quiet
                cases quiet
          | unfinished => exact absurd (congrArg Prod.fst run) (finishes (arrive state))
      · refine ⟨⟨[], false⟩, state, ?_, ?_⟩
        · simp only [catchUp, bind_apply, get_apply, if_neg ready, pure_apply]
        · intro _
          refine ⟨?_, Nat.zero_le _, fun _ => ready⟩
          simpa using holds

/-- The loop itself raises nothing. -/
theorem catchUp_returns (finishes : Finishes body) (rounds : ℕ) (state : σ) :
    ∃ caught final, catchUp due arrive advance fail body rounds state = (.done caught, final) := by
  obtain ⟨caught, final, run, -⟩ := @catchUp_law σ ε τ due _ arrive advance fail body
    (fun _ _ => True) finishes (fun _ _ _ => trivial) rounds [] state trivial
  exact ⟨caught, final, run⟩

end Loop

end Program

end Foundation
