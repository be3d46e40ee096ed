import SpriteRuntime.Foundation.Program

/-!
# Loops that settle

An unbounded loop is a family of programs, one for every number of rounds it is given.  The
family settles when every run ends once it has rounds enough, and then ends in the same way
whatever it is given.  `Tame` adds a relation that no member of the family breaks, and the
loops it admits are those that bring a measure of the state down.
-/

namespace Foundation

namespace Program

variable {σ ε α β ι : Type}

/-- An unbounded loop that leaves with a value, run for at most `fuel` rounds. -/
def repeatUntil : ℕ → Program σ ε (Option α) → Program σ ε α
  | 0, _ => fun state => (.unfinished, state)
  | fuel + 1, body => do
      let answer ← body
      match answer with
      | some value => pure value
      | none => repeatUntil fuel body

/-- After a round: the invariant, or the postcondition of the loop. -/
def Round (invariant : σ → Prop) (post : α → σ → Prop) : Option α → σ → Prop
  | none => invariant
  | some value => post value

/-- The rule for a loop that leaves with a value: every round keeps the invariant or
establishes the postcondition. -/
theorem Triple.repeatUntil {fuel : ℕ} {body : Program σ ε (Option α)} {invariant escape : σ → Prop}
    {post : α → σ → Prop} (step : Triple invariant body (Round invariant post) escape)
    (cut : ∀ state, invariant state → escape state) :
    Triple invariant (Program.repeatUntil fuel body) post escape := by
  induction fuel with
  | zero => exact fun state before => Ends.unfinished_iff.mpr (cut state before)
  | succ fuel induction =>
      refine bind step fun answer => ?_
      cases answer with
      | some value => exact pure value fun _ => id
      | none => exact induction

theorem Respects.repeatUntil {related : σ → σ → Prop} [IsPreorder σ related] {fuel : ℕ}
    {body : Program σ ε (Option α)} (step : Respects related body) :
    Respects related (Program.repeatUntil fuel body) := by
  induction fuel with
  | zero => exact fun state => refl state
  | succ fuel induction =>
      refine bind step fun answer => ?_
      cases answer with
      | some value => exact pure value
      | none => exact induction

/-- Only the handler throws. -/
theorem Raises.tryCatch {allowed : ε → Prop} {body : Program σ ε α} {handler : ε → Program σ ε α}
    (handled : ∀ error, Raises allowed (handler error)) :
    Raises allowed (Program.tryCatch body handler) := by
  intro state error
  unfold Program.tryCatch
  rcases body state with ⟨outcome, middle⟩
  cases outcome with
  | done value =>
      intro thrown
      cases thrown
  | thrown other => exact handled other middle error
  | unfinished =>
      intro thrown
      cases thrown

theorem Raises.repeatUntil {allowed : ε → Prop} {fuel : ℕ} {body : Program σ ε (Option α)}
    (step : Raises allowed body) : Raises allowed (Program.repeatUntil fuel body) := by
  induction fuel with
  | zero =>
      intro state error thrown
      cases thrown
  | succ fuel induction =>
      refine bind step fun answer => ?_
      cases answer with
      | some value => exact pure value
      | none => exact induction

/-- With fuel enough the run ends, always in the same way. -/
def Settles (family : ℕ → Program σ ε α) (state : σ) (run : Outcome ε α × σ) : Prop :=
  run.1 ≠ .unfinished ∧ ∃ enough, ∀ fuel ≥ enough, family fuel state = run

namespace Settles

variable {family : ℕ → Program σ ε α} {state middle : σ}

theorem of_finishes {program : Program σ ε α} (finishes : Finishes program) :
    Settles (fun _ => program) state (program state) :=
  ⟨finishes state, 0, fun _ _ => rfl⟩

/-- A program that throws nothing settles on a value. -/
theorem done_of_raises {run : Outcome ε α × σ} (settles : Settles family state run)
    (quiet : ∀ fuel, Raises (fun _ => False) (family fuel)) :
    ∃ value final fuel, run = (.done value, final) ∧ family fuel state = (.done value, final) := by
  obtain ⟨ended, enough, same⟩ := settles
  have reached := same enough (Nat.le_refl _)
  rcases run with ⟨outcome, final⟩
  cases outcome with
  | done value => exact ⟨value, final, enough, rfl, reached⟩
  | thrown error => exact absurd (quiet enough state error (congrArg Prod.fst reached)) id
  | unfinished => exact absurd rfl ended

/-- The rest of a composition decides. -/
theorem bind_done {next : ℕ → α → Program σ ε β} {value : α} {run : Outcome ε β × σ}
    (first : Settles family state (.done value, middle))
    (second : Settles (fun fuel => next fuel value) middle run) :
    Settles (fun fuel => family fuel >>= next fuel) state run := by
  obtain ⟨_, enough, same⟩ := first
  obtain ⟨ended, more, sameAgain⟩ := second
  refine ⟨ended, max enough more, fun fuel large => ?_⟩
  dsimp only
  rw [bind_apply_done (same fuel (by omega))]
  exact sameAgain fuel (by omega)

theorem bind_thrown {next : ℕ → α → Program σ ε β} {error : ε}
    (first : Settles family state (.thrown error, middle)) :
    Settles (fun fuel => family fuel >>= next fuel) state (.thrown error, middle) := by
  obtain ⟨_, enough, same⟩ := first
  refine ⟨by simp, enough, fun fuel large => ?_⟩
  dsimp only
  rw [bind_apply, same fuel large]

theorem tryCatch_done {handler : ℕ → ε → Program σ ε α} {value : α}
    (body : Settles family state (.done value, middle)) :
    Settles (fun fuel => tryCatch (family fuel) (handler fuel)) state (.done value, middle) := by
  obtain ⟨_, enough, same⟩ := body
  refine ⟨by simp, enough, fun fuel large => ?_⟩
  dsimp only
  unfold tryCatch
  rw [same fuel large]

theorem tryCatch_thrown {handler : ℕ → ε → Program σ ε α} {error : ε}
    {run : Outcome ε α × σ} (body : Settles family state (.thrown error, middle))
    (handled : Settles (fun fuel => handler fuel error) middle run) :
    Settles (fun fuel => tryCatch (family fuel) (handler fuel)) state run := by
  obtain ⟨_, enough, same⟩ := body
  obtain ⟨ended, more, sameAgain⟩ := handled
  refine ⟨ended, max enough more, fun fuel large => ?_⟩
  dsimp only
  unfold tryCatch
  rw [same fuel (by omega)]
  exact sameAgain fuel (by omega)

end Settles

/-- Every run settles. -/
def Converges (family : ℕ → Program σ ε α) : Prop := ∀ state, ∃ run, Settles family state run

namespace Converges

variable {family : ℕ → Program σ ε α}

theorem of_finishes {program : Program σ ε α} (finishes : Finishes program) :
    Converges fun _ => program :=
  fun _ => ⟨_, Settles.of_finishes finishes⟩

theorem bind {next : ℕ → α → Program σ ε β} (first : Converges family)
    (second : ∀ value, Converges fun fuel => next fuel value) :
    Converges fun fuel => family fuel >>= next fuel := by
  intro state
  obtain ⟨⟨outcome, middle⟩, settles⟩ := first state
  cases outcome with
  | done value =>
      obtain ⟨run, rest⟩ := second value middle
      exact ⟨run, settles.bind_done rest⟩
  | thrown error => exact ⟨_, settles.bind_thrown⟩
  | unfinished => exact absurd rfl settles.1

theorem tryCatch {handler : ℕ → ε → Program σ ε α} (body : Converges family)
    (handled : ∀ error, Converges fun fuel => handler fuel error) :
    Converges fun fuel => Program.tryCatch (family fuel) (handler fuel) := by
  intro state
  obtain ⟨⟨outcome, middle⟩, settles⟩ := body state
  cases outcome with
  | done value => exact ⟨_, settles.tryCatch_done⟩
  | thrown error =>
      obtain ⟨run, rest⟩ := handled error middle
      exact ⟨run, settles.tryCatch_thrown rest⟩
  | unfinished => exact absurd rfl settles.1

theorem forEach {items : List ι} {body : ℕ → ι → Program σ ε Unit}
    (step : ∀ item, Converges fun fuel => body fuel item) :
    Converges fun fuel => Program.forEach items (body fuel) := by
  induction items with
  | nil => exact of_finishes (Finishes.pure ())
  | cons item rest induction => exact bind (step item) fun _ => induction

/-- A loop settles when every round that asks for another one brings the measure down. -/
theorem repeatUntil {body : ℕ → Program σ ε (Option α)} (round : Converges body) (rank : σ → ℕ)
    (descends : ∀ fuel state final, body fuel state = (.done none, final) →
      rank final < rank state) :
    Converges fun fuel => Program.repeatUntil fuel (body fuel) := by
  -- The rounds and the fuel of the body are counted apart: the loop hands on all its fuel.
  have counted : ∀ bound state, rank state < bound → ∃ run : Outcome ε α × σ,
      run.1 ≠ .unfinished ∧ ∃ enough, ∀ count ≥ enough, ∀ fuel ≥ enough,
        Program.repeatUntil count (body fuel) state = run := by
    intro bound
    induction bound with
    | zero => exact fun state small => absurd small (Nat.not_lt_zero _)
    | succ bound induction =>
        intro state small
        obtain ⟨⟨outcome, middle⟩, ended, enough, same⟩ := round state
        cases outcome with
        | unfinished => exact absurd rfl ended
        | thrown error =>
            refine ⟨(.thrown error, middle), by simp, enough + 1, fun count many fuel large => ?_⟩
            obtain ⟨others, rfl⟩ : ∃ others, count = others + 1 := ⟨count - 1, by omega⟩
            rw [Program.repeatUntil, bind_apply, same fuel (by omega)]
        | done answer =>
            cases answer with
            | some value =>
                refine ⟨(.done value, middle), by simp, enough + 1, fun count many fuel large => ?_⟩
                obtain ⟨others, rfl⟩ : ∃ others, count = others + 1 := ⟨count - 1, by omega⟩
                rw [Program.repeatUntil, bind_apply_done (same fuel (by omega))]
                rfl
            | none =>
                have lower := descends enough state middle (same enough (Nat.le_refl _))
                obtain ⟨run, endedLater, more, sameLater⟩ := induction middle (by omega)
                refine ⟨run, endedLater, max enough more + 1, fun count many fuel large => ?_⟩
                obtain ⟨others, rfl⟩ : ∃ others, count = others + 1 := ⟨count - 1, by omega⟩
                rw [Program.repeatUntil, bind_apply_done (same fuel (by omega))]
                exact sameLater others (by omega) fuel (by omega)
  intro state
  obtain ⟨run, ended, enough, same⟩ := counted (rank state + 1) state (Nat.lt_succ_self _)
  exact ⟨run, ended, enough, fun fuel large => same fuel large fuel large⟩

end Converges

/-- Every run settles, and no run breaks the relation between the first state and the last. -/
structure Tame (related : σ → σ → Prop) (family : ℕ → Program σ ε α) : Prop where
  converges : Converges family
  respects : ∀ fuel, Respects related (family fuel)

namespace Tame

variable {related related' : σ → σ → Prop} {family : ℕ → Program σ ε α}

theorem mono (tame : Tame related family)
    (weaker : ∀ first last, related first last → related' first last) : Tame related' family :=
  ⟨tame.converges, fun fuel => (tame.respects fuel).mono weaker⟩

theorem of_finishes {program : Program σ ε α} (finishes : Finishes program)
    (respects : Respects related program) : Tame related fun _ => program :=
  ⟨Converges.of_finishes finishes, fun _ => respects⟩

theorem modify {change : σ → σ} (changes : ∀ state, related state (change state)) :
    Tame (ε := ε) related fun _ => Program.modify change :=
  of_finishes (Finishes.modify change) (Respects.modify changes)

variable [IsPreorder σ related]

theorem pure (value : α) : Tame (ε := ε) related fun _ => Pure.pure value :=
  of_finishes (Finishes.pure value) (Respects.pure value)

theorem throw (error : ε) : Tame (α := α) related fun _ => Program.throw error :=
  of_finishes (Finishes.throw error) (Respects.throw error)

theorem get : Tame (ε := ε) related fun _ => Program.get :=
  of_finishes Finishes.get Respects.get

theorem throwIf {condition : Prop} [Decidable condition] (error : ε) :
    Tame related fun _ => Program.throwIf condition error :=
  of_finishes (Finishes.throwIf error) (Respects.throwIf error)

theorem ofExcept (result : Except ε α) : Tame related fun _ => Program.ofExcept result := by
  cases result with
  | ok value => exact pure value
  | error error => exact throw error

theorem bind {next : ℕ → α → Program σ ε β} (first : Tame related family)
    (second : ∀ value, Tame related fun fuel => next fuel value) :
    Tame related fun fuel => family fuel >>= next fuel :=
  ⟨first.converges.bind fun value => (second value).converges,
    fun fuel => (first.respects fuel).bind fun value => (second value).respects fuel⟩

theorem runIf {condition : Prop} [Decidable condition] {body : ℕ → Program σ ε Unit}
    (runs : Tame related body) : Tame related fun fuel => Program.runIf condition (body fuel) := by
  by_cases holds : condition
  · simpa only [Program.runIf, if_pos holds] using runs
  · simpa only [Program.runIf, if_neg holds] using pure ()

theorem tryCatch {handler : ℕ → ε → Program σ ε α} (body : Tame related family)
    (handled : ∀ error, Tame related fun fuel => handler fuel error) :
    Tame related fun fuel => Program.tryCatch (family fuel) (handler fuel) :=
  ⟨body.converges.tryCatch fun error => (handled error).converges,
    fun fuel => (body.respects fuel).tryCatch fun error => (handled error).respects fuel⟩

theorem forEach {items : List ι} {body : ℕ → ι → Program σ ε Unit}
    (step : ∀ item, Tame related fun fuel => body fuel item) :
    Tame related fun fuel => Program.forEach items (body fuel) :=
  ⟨Converges.forEach fun item => (step item).converges,
    fun fuel => Respects.forEach fun item _ => (step item).respects fuel⟩

/-- A loop is tame when its rounds are and those that ask for more bring a measure down. -/
theorem repeatUntil {body : ℕ → Program σ ε (Option α)} (round : Tame related body) (rank : σ → ℕ)
    (descends : ∀ fuel state final, body fuel state = (.done none, final) →
      rank final < rank state) :
    Tame related fun fuel => Program.repeatUntil fuel (body fuel) :=
  ⟨round.converges.repeatUntil rank descends, fun fuel => (round.respects fuel).repeatUntil⟩

end Tame

end Program

end Foundation
