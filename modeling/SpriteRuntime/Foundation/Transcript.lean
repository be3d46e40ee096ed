import SpriteRuntime.Foundation.ProgramSteps

/-!
# Transcripts

A program may keep in its state a list of what it has done.  `Adds` says what a program adds to
the list: all that is expected of it if it returns, and otherwise a beginning of that, as far as
a key of the entries tells.  Rounds that are completed one after the other then add what is
expected of each.
-/

namespace Foundation.Program

variable {σ ε α β ι τ κ : Type}

/-- The entries that the program adds have the keys of the expected ones, up to where the program
is cut short; a program that returns has added just the expected entries. -/
def Adds (entries : σ → List τ) (key : τ → κ) (expected : List τ) (program : Program σ ε α) :
    Prop :=
  ∀ state, ∃ added, entries (program state).2 = entries state ++ added ∧
    added.map key <+: expected.map key ∧
    ∀ value, (program state).1 = .done value → added = expected

namespace Adds

variable {entries : σ → List τ} {key : τ → κ} {expected later : List τ}

/-- A program that leaves the list alone. -/
theorem nothing {program : Program σ ε α}
    (leaves : ∀ state, entries (program state).2 = entries state) :
    Adds entries key [] program := by
  intro state
  exact ⟨[], by rw [leaves, List.append_nil], List.prefix_rfl, fun _ _ => rfl⟩

theorem bind {program : Program σ ε α} {next : α → Program σ ε β}
    (first : Adds entries key expected program)
    (second : ∀ value, Adds entries key later (next value)) :
    Adds entries key (expected ++ later) (program >>= next) := by
  intro state
  obtain ⟨added, grown, begins, all⟩ := first state
  rw [bind_apply]
  revert grown all
  rcases program state with ⟨outcome, middle⟩
  intro grown all
  have begun : added.map key <+: (expected ++ later).map key := by
    rw [List.map_append]
    exact begins.trans (List.prefix_append _ _)
  cases outcome with
  | done value =>
      obtain ⟨more, grownAgain, beginsAgain, allAgain⟩ := second value middle
      have same := all value rfl
      subst same
      refine ⟨added ++ more, ?_, ?_, ?_⟩
      · rw [grownAgain, grown, List.append_assoc]
      · rw [List.map_append, List.map_append]
        exact (List.prefix_append_right_inj _).mpr beginsAgain
      · intro answer returned
        rw [allAgain answer returned]
  | thrown error =>
      refine ⟨added, grown, begun, ?_⟩
      intro answer returned
      cases returned
  | unfinished =>
      refine ⟨added, grown, begun, ?_⟩
      intro answer returned
      cases returned

/-- What comes before the entries adds none. -/
theorem after {program : Program σ ε α} {next : α → Program σ ε β}
    (first : Adds entries key [] program)
    (second : ∀ value, Adds entries key expected (next value)) :
    Adds entries key expected (program >>= next) :=
  bind first second

/-- What comes behind the entries adds none. -/
theorem before {program : Program σ ε α} {next : α → Program σ ε β}
    (first : Adds entries key expected program)
    (second : ∀ value, Adds entries key [] (next value)) :
    Adds entries key expected (program >>= next) := by
  have both := bind first second
  rwa [List.append_nil] at both

theorem runIf {condition : Prop} [Decidable condition] {body : Program σ ε Unit}
    (runs : Adds entries key expected body) :
    Adds entries key (if condition then expected else []) (Program.runIf condition body) := by
  unfold Program.runIf
  split
  · exact runs
  · exact nothing fun _ => rfl

theorem forEach {items : List ι} {body : ι → Program σ ε Unit} {expected : ι → List τ}
    (step : ∀ item, Adds entries key (expected item) (body item)) :
    Adds entries key (items.flatMap expected) (Program.forEach items body) := by
  induction items with
  | nil => exact nothing fun _ => rfl
  | cons item rest induction =>
      rw [List.flatMap_cons]
      exact bind (step item) fun _ => induction

end Adds

/-! ## Rounds -/

/-- The first rounds of a loop that counts are completed, one after the other. -/
inductive Rounds (body : ℕ → Program σ ε α) (first : σ) : ℕ → σ → Prop
  | none : Rounds body first 0 first
  | next {count : ℕ} {middle last : σ} {value : α} :
      Rounds body first count middle → body count middle = (.done value, last) →
        Rounds body first (count + 1) last

namespace Rounds

variable {count : ℕ} {first last : σ}

/-- A loop over a range that returns has completed its rounds. -/
theorem of_forEach {body : ℕ → Program σ ε Unit}
    (returned : Program.forEach (List.range count) body first = (.done (), last)) :
    Rounds body first count last := by
  induction count generalizing last with
  | zero =>
      cases returned
      exact none
  | succ count induction =>
      rw [List.range_succ, forEach_append] at returned
      obtain ⟨_, middle, ran, lastRound⟩ := bind_eq_done_iff.mp returned
      obtain ⟨_, reached, round, nothing⟩ := bind_eq_done_iff.mp lastRound
      cases nothing
      exact next (induction ran) round

theorem added {body : ℕ → Program σ ε α} {entries : σ → List τ} {key : τ → κ}
    {expected : ℕ → List τ} (adds : ∀ round, Adds entries key (expected round) (body round))
    (rounds : Rounds body first count last) :
    entries last = entries first ++ (List.range count).flatMap expected := by
  induction rounds with
  | none => simp
  | next before round induction =>
      rename_i count middle last value
      obtain ⟨added, grown, -, all⟩ := adds count middle
      rw [round] at grown all
      rw [grown, all value rfl, induction, List.range_succ, List.flatMap_append,
        List.append_assoc]
      simp

end Rounds

end Foundation.Program
