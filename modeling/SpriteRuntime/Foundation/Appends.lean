import SpriteRuntime.Foundation.ProgramSteps
import Mathlib.Algebra.BigOperators.Group.List.Basic
import Mathlib.Algebra.GroupWithZero.Nat

/-!
# What a program appends to a log

A bound on how many entries a program can append to a log that it never shortens, however it
ends.  The bounds of the parts add up: over a composition, and over the rounds of a loop.
-/

namespace Foundation.Program

variable {σ τ ε α β ι υ : Type}

/-- The log goes on by no more than the limit. -/
def GoesOn (log : σ → List υ) (limit : ℕ) (first last : σ) : Prop :=
  ∃ more, log last = log first ++ more ∧ more.length ≤ limit

/-- The program appends no more entries than the limit. -/
def Appends (log : σ → List υ) (limit : ℕ) (program : Program σ ε α) : Prop :=
  Respects (GoesOn log limit) program

variable {log : σ → List υ} {limit limit' : ℕ} {first middle last : σ}

theorem GoesOn.of_eq (same : log last = log first) : GoesOn log limit first last :=
  ⟨[], by rw [List.append_nil, same], Nat.zero_le limit⟩

theorem GoesOn.mono (goesOn : GoesOn log limit first last) (more : limit ≤ limit') :
    GoesOn log limit' first last := by
  obtain ⟨entries, appended, bound⟩ := goesOn
  exact ⟨entries, appended, Nat.le_trans bound more⟩

theorem GoesOn.trans (goesOn : GoesOn log limit first middle)
    (further : GoesOn log limit' middle last) : GoesOn log (limit + limit') first last := by
  obtain ⟨entries, appended, bound⟩ := goesOn
  obtain ⟨others, appended', bound'⟩ := further
  refine ⟨entries ++ others, ?_, ?_⟩
  · rw [appended', appended, List.append_assoc]
  · rw [List.length_append]
    exact Nat.add_le_add bound bound'

namespace Appends

theorem mono {program : Program σ ε α} (appends : Appends log limit program)
    (more : limit ≤ limit') : Appends log limit' program :=
  fun state => (appends state).mono more

/-- A program that leaves the log alone appends nothing. -/
theorem of_leaves {program : Program σ ε α} (leaves : program.Leaves log) :
    Appends log limit program :=
  fun state => .of_eq (leaves state)

theorem pure (value : α) : Appends (ε := ε) log limit (Pure.pure value) :=
  fun _ => .of_eq rfl

theorem throw (error : ε) : Appends (α := α) log limit (Program.throw error) :=
  fun _ => .of_eq rfl

theorem bind {program : Program σ ε α} {next : α → Program σ ε β}
    (first : Appends log limit program) (second : ∀ value, Appends log limit' (next value)) :
    Appends log (limit + limit') (program >>= next) := by
  intro state
  have reached := first state
  rw [bind_apply]
  revert reached
  rcases program state with ⟨outcome, middle⟩
  intro reached
  cases outcome with
  | done value => exact reached.trans (second value middle)
  | thrown error => exact reached.mono (Nat.le_add_right _ _)
  | unfinished => exact reached.mono (Nat.le_add_right _ _)

/-- The first half is free. -/
theorem leaves_bind {program : Program σ ε α} {next : α → Program σ ε β}
    (first : program.Leaves log) (second : ∀ value, Appends log limit (next value)) :
    Appends log limit (program >>= next) := by
  have free : Appends log 0 program := of_leaves first
  exact (bind free second).mono (by omega)

/-- The second half is free. -/
theorem bind_leaves {program : Program σ ε α} {next : α → Program σ ε β}
    (first : Appends log limit program) (second : ∀ value, (next value).Leaves log) :
    Appends log limit (program >>= next) := by
  have free (value : α) : Appends log 0 (next value) := of_leaves (second value)
  exact bind first free

theorem runIf {condition : Prop} [Decidable condition] {body : Program σ ε Unit}
    (runs : Appends log limit body) : Appends log limit (Program.runIf condition body) := by
  unfold Program.runIf
  split
  · exact runs
  · exact pure ()

theorem tryCatch {body : Program σ ε α} {handler : ε → Program σ ε α}
    (first : Appends log limit body) (second : ∀ error, (handler error).Leaves log) :
    Appends log limit (Program.tryCatch body handler) := by
  intro state
  have reached := first state
  unfold Program.tryCatch
  revert reached
  rcases body state with ⟨outcome, middle⟩
  intro reached
  cases outcome with
  | done value => exact reached
  | thrown error =>
      have kept : GoesOn log 0 middle (handler error middle).2 := .of_eq (second error middle)
      exact (reached.trans kept).mono (by omega)
  | unfinished => exact reached

theorem zoom {view : σ → τ} {update : τ → σ → σ} {program : Program τ ε α} {log : τ → List υ}
    (part : Appends log limit program) (sees : ∀ part state, view (update part state) = part) :
    Appends (fun state => log (view state)) limit (Program.zoom view update program) := by
  intro state
  obtain ⟨more, appended, bound⟩ := part (view state)
  refine ⟨more, ?_, bound⟩
  rw [← appended]
  exact congrArg log (sees _ state)

/-- The rounds of a loop append what each of them may. -/
theorem forEach {items : List ι} {body : ι → Program σ ε Unit} {cost : ι → ℕ}
    (step : ∀ item ∈ items, Appends log (cost item) (body item)) :
    Appends log (items.map cost).sum (Program.forEach items body) := by
  induction items with
  | nil => exact pure ()
  | cons item rest induction =>
      rw [List.map_cons, List.sum_cons]
      apply bind (step item (by simp))
      intro _
      exact induction fun other member => step other (by simp [member])

/-- Of distinct items only one appends anything. -/
theorem forEach_only [DecidableEq ι] {items : List ι} {body : ι → Program σ ε Unit} {chosen : ι}
    (distinct : items.Nodup)
    (step : ∀ item ∈ items, Appends log (if item = chosen then limit else 0) (body item)) :
    Appends log limit (Program.forEach items body) := by
  apply (forEach step).mono
  induction items with
  | nil => simp
  | cons item rest induction =>
      obtain ⟨fresh, distinct⟩ := List.nodup_cons.mp distinct
      have others := induction distinct fun other member => step other (by simp [member])
      rw [List.map_cons, List.sum_cons]
      by_cases here : item = chosen
      · subst here
        have none : (rest.map fun other => if other = item then limit else 0).sum = 0 := by
          rw [List.sum_eq_zero]
          intro cost member
          obtain ⟨other, listed, rfl⟩ := List.mem_map.mp member
          have another : other ≠ item := by
            rintro rfl
            exact fresh listed
          exact if_neg another
        rw [if_pos rfl, none]
        exact Nat.le_refl limit
      · rw [if_neg here, Nat.zero_add]
        exact others

theorem anyEach {items : List ι} {body : ι → Program σ ε Bool}
    (step : ∀ item ∈ items, Appends log limit (body item)) :
    Appends log (items.length * limit) (Program.anyEach items body) := by
  induction items with
  | nil => exact pure false
  | cons item rest induction =>
      rw [List.length_cons, Nat.succ_mul, Nat.add_comm]
      apply bind (step item (by simp))
      intro answer
      cases answer with
      | true => exact pure true
      | false => exact induction fun other member => step other (by simp [member])

/-- One round more goes on from where the others came to. -/
theorem forEach_concat {items : List ι} {item : ι} {body : ι → Program σ ε Unit}
    (step : Appends log limit (body item)) (state : σ) :
    GoesOn log limit (Program.forEach items body state).2
      (Program.forEach (items ++ [item]) body state).2 := by
  have single : Appends log limit (Program.forEach [item] body) :=
    step.bind_leaves fun _ => Respects.pure ()
  rw [forEach_append, bind_apply]
  rcases Program.forEach items body state with ⟨outcome, middle⟩
  cases outcome with
  | done value => exact single middle
  | thrown error => exact .of_eq rfl
  | unfinished => exact .of_eq rfl

end Appends

end Foundation.Program
