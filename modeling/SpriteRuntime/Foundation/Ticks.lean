import SpriteRuntime.Foundation.Program

/-!
# Programs that run once a tick

A component that is called once a tick keeps a state between the calls and may reject
an input.  `follow` is what it answers to a list of inputs, up to the first one that it
rejects; `answers` is what it answers when the caller goes on after a rejected input.
-/

namespace Foundation

namespace Program

variable {σ τ ε ε' ι ρ : Type}

/-- The results of the ticks up to the first one that does not return, and whether all
of them returned. -/
def follow (tick : ι → Program σ ε ρ) : List ι → σ → List ρ × Bool
  | [], _ => ([], true)
  | input :: rest, state =>
      match tick input state with
      | (.done result, next) =>
          (result :: (follow tick rest next).1, (follow tick rest next).2)
      | _ => ([], false)

section Steps

variable {tick : ι → Program σ ε ρ} {input : ι} {rest : List ι} {state next : σ} {result : ρ}

theorem follow_cons_done (ran : tick input state = (.done result, next)) :
    follow tick (input :: rest) state =
      (result :: (follow tick rest next).1, (follow tick rest next).2) := by
  rw [follow, ran]

theorem follow_cons_rejected (rejected : (tick input state).1.isDone = false) :
    follow tick (input :: rest) state = ([], false) := by
  rw [follow]
  rcases ran : tick input state with ⟨outcome, next⟩
  rw [ran] at rejected
  cases outcome with
  | done value => cases rejected
  | thrown error => rfl
  | unfinished => rfl

end Steps

section Invariant

variable {tick : ι → Program σ ε ρ}

/-- The rule for the results: the step knows the place of its input in the run. -/
theorem follow_law {invariant : ℕ → σ → Prop} {law : ℕ → ι → ρ → Prop} {inputs : List ι}
    (step : ∀ count state input result next, inputs[count]? = some input →
      invariant count state → tick input state = (.done result, next) →
        law count input result ∧ invariant (count + 1) next)
    {state : σ} (holds : invariant 0 state)
    {index : ℕ} {result : ρ} (answered : (follow tick inputs state).1[index]? = some result) :
    ∃ input, inputs[index]? = some input ∧ law index input result := by
  induction inputs generalizing invariant law state index with
  | nil => cases answered
  | cons input rest induction =>
      cases returned : (tick input state).1.isDone with
      | false =>
          rw [follow_cons_rejected returned] at answered
          cases answered
      | true =>
          obtain ⟨value, next, ran⟩ := exists_eq_done returned
          obtain ⟨lawful, kept⟩ := step 0 state input value next rfl holds ran
          rw [follow_cons_done ran] at answered
          cases index with
          | zero =>
              cases answered
              exact ⟨input, rfl, lawful⟩
          | succ index =>
              have later : ∀ count state input result next, rest[count]? = some input →
                  invariant (count + 1) state → tick input state = (.done result, next) →
                    law (count + 1) input result ∧ invariant (count + 1 + 1) next :=
                fun count => step (count + 1)
              exact induction later kept answered

/-- Inputs that no state in the invariant rejects are all answered. -/
theorem follow_all {invariant : σ → Prop} {accepted : ι → Prop}
    (step : ∀ state input, invariant state → accepted input →
      ∃ result next, tick input state = (.done result, next) ∧ invariant next)
    {inputs : List ι} {state : σ} (holds : invariant state)
    (fine : ∀ input ∈ inputs, accepted input) :
    (follow tick inputs state).1.length = inputs.length ∧
      (follow tick inputs state).2 = true := by
  induction inputs generalizing state with
  | nil => exact ⟨rfl, rfl⟩
  | cons input rest induction =>
      obtain ⟨result, next, ran, kept⟩ := step state input holds (fine input (by simp))
      obtain ⟨length, finished⟩ := induction kept fun other member => fine other (by simp [member])
      rw [follow_cons_done ran]
      exact ⟨congrArg (· + 1) length, finished⟩

end Invariant

section Answers

/-- The outcomes of all the ticks, rejected inputs included. -/
def answers (tick : ι → Program σ ε ρ) : List ι → σ → List (Outcome ε ρ)
  | [], _ => []
  | input :: rest, state => (tick input state).1 :: answers tick rest (tick input state).2

variable {tick : ι → Program σ ε ρ}

/-- The rule for the outcomes: the step knows the inputs before its own. -/
theorem answers_law {invariant : List ι → σ → Prop} {law : List ι → ι → Outcome ε ρ → Prop}
    (step : ∀ before state input, invariant before state →
      law before input (tick input state).1 ∧
        invariant (before ++ [input]) (tick input state).2)
    {before inputs : List ι} {state : σ} (holds : invariant before state)
    {index : ℕ} {input : ι} (given : inputs[index]? = some input) :
    ∃ outcome, (answers tick inputs state)[index]? = some outcome ∧
      law (before ++ inputs.take index) input outcome := by
  induction inputs generalizing before state index with
  | nil => cases given
  | cons first rest induction =>
      obtain ⟨lawful, kept⟩ := step before state first holds
      cases index with
      | zero =>
          cases given
          exact ⟨_, rfl, by simpa using lawful⟩
      | succ index =>
          obtain ⟨outcome, answered, later⟩ := induction kept given
          exact ⟨outcome, answered, by simpa using later⟩

end Answers

section Agreement

/-- Two runs both return, with the same result and in related states, or neither
returns. -/
def Agree (related : σ → τ → Prop) (left : Outcome ε ρ × σ) (right : Outcome ε' ρ × τ) : Prop :=
  (∃ result first second, left = (.done result, first) ∧ right = (.done result, second) ∧
    related first second) ∨ left.1.isDone = false ∧ right.1.isDone = false

/-- Runs agree when each returns whenever the other does, with the same result. -/
theorem Agree.of_returns {related : σ → τ → Prop} {left : Outcome ε ρ × σ}
    {right : Outcome ε' ρ × τ}
    (forward : ∀ result first, left = (.done result, first) →
      ∃ second, right = (.done result, second) ∧ related first second)
    (backward : ∀ result second, right = (.done result, second) →
      ∃ first, left = (.done result, first)) : Agree related left right := by
  cases returned : left.1.isDone with
  | true =>
      obtain ⟨result, done⟩ := Outcome.exists_of_isDone returned
      obtain ⟨second, same, kept⟩ := forward result left.2 (Prod.ext done rfl)
      exact .inl ⟨result, left.2, second, Prod.ext done rfl, same, kept⟩
  | false =>
      refine .inr ⟨returned, ?_⟩
      by_contra answered
      obtain ⟨result, done⟩ := Outcome.exists_of_isDone (by simpa using answered)
      obtain ⟨first, same⟩ := backward result right.2 (Prod.ext done rfl)
      rw [same] at returned
      cases returned

/-- Two components that agree tick by tick give the same answers. -/
theorem follow_congr {tick : ι → Program σ ε ρ} {other : ι → Program τ ε' ρ}
    {related : σ → τ → Prop}
    (step : ∀ first second input, related first second →
      Agree related (tick input first) (other input second))
    {inputs : List ι} {first : σ} {second : τ} (start : related first second) :
    follow tick inputs first = follow other inputs second := by
  induction inputs generalizing first second with
  | nil => rfl
  | cons input rest induction =>
      rcases step first second input start with
        ⟨result, next, otherNext, left, right, kept⟩ | ⟨left, right⟩
      · rw [follow_cons_done left, follow_cons_done right, induction kept]
      · rw [follow_cons_rejected left, follow_cons_rejected right]

end Agreement

end Program

end Foundation
