import Mathlib.Data.List.Basic
import Mathlib.Order.Defs.Unbundled

/-!
# Programs with exceptions over an explicit state

A program is a function of the state it starts in.  It ends with a value, with
an exception that a handler may catch, or cut off when a loop has used up the
rounds it was given.  The state reached so far survives in all three cases,
as it does when an exception leaves an imperative function.

`Triple` is the partial-correctness judgement for these programs, and `Respects`
the judgement that relates the last state to the first.
-/

namespace Foundation

/-- A fallible composition succeeds when both halves do. -/
theorem except_ok_bind {ε α β : Type} (value : α) (next : α → Except ε β) :
    (Except.ok value >>= next) = next value := rfl

theorem except_bind_eq_ok {ε α β : Type} {first : Except ε α}
    {next : α → Except ε β} {result : β} :
    first >>= next = .ok result ↔
      ∃ value, first = .ok value ∧ next value = .ok result := by
  cases first with
  | error error => simp [bind, Except.bind]
  | ok value => simp [bind, Except.bind]

theorem except_bind_eq_error {ε α β : Type} {first : Except ε α}
    {next : α → Except ε β} {error : ε} :
    first >>= next = .error error ↔
      first = .error error ∨ ∃ value, first = .ok value ∧ next value = .error error := by
  cases first with
  | error error => simp [bind, Except.bind]
  | ok value => simp [bind, Except.bind]

theorem exists_ok_of_isOk {ε α : Type} {result : Except ε α} (accepted : result.isOk = true) :
    ∃ value, result = .ok value := by
  cases result with
  | error error => cases accepted
  | ok value => exact ⟨value, rfl⟩

/-- An error that is renamed stays an error. -/
theorem mapError_eq_ok {ε ε' α : Type} {rename : ε → ε'} {outcome : Except ε α} {value : α} :
    outcome.mapError rename = .ok value ↔ outcome = .ok value := by
  cases outcome <;> simp [Except.mapError]

/-- Fail when the condition holds. -/
def raiseIf {ε : Type} (condition : Prop) [Decidable condition] (error : ε) : Except ε Unit :=
  if condition then .error error else .ok ()

theorem raiseIf_eq_ok {ε : Type} {condition : Prop} [Decidable condition] {error : ε}
    {result : Unit} : raiseIf condition error = .ok result ↔ ¬condition := by
  unfold raiseIf
  split <;> simp_all

theorem raiseIf_eq_error {ε : Type} {condition : Prop} [Decidable condition] {error raised : ε} :
    raiseIf condition error = .error raised ↔ condition ∧ error = raised := by
  unfold raiseIf
  split <;> simp_all

/-- A text that begins with some words is not empty. -/
theorem text_ne_empty {left right : String} (begins : left ≠ "") : left ++ right ≠ "" := by
  intro empty
  exact begins (String.append_eq_empty_iff.mp empty).1

/-- The three ways in which a program ends. -/
inductive Outcome (ε α : Type) where
  | done (value : α)
  | thrown (error : ε)
  | unfinished

namespace Outcome

/-- The program returned a value. -/
def isDone {ε α : Type} : Outcome ε α → Bool
  | .done _ => true
  | _ => false

theorem exists_of_isDone {ε α : Type} {outcome : Outcome ε α}
    (returned : outcome.isDone = true) : ∃ value, outcome = .done value := by
  cases outcome with
  | done value => exact ⟨value, rfl⟩
  | thrown error => simp [isDone] at returned
  | unfinished => simp [isDone] at returned

end Outcome

/-- A program over the state `σ` with exceptions `ε` and result `α`. -/
def Program (σ ε α : Type) : Type := σ → Outcome ε α × σ

namespace Program

variable {σ ε α β ι τ : Type}

instance : Monad (Program σ ε) where
  pure value := fun state => (.done value, state)
  bind program next := fun state =>
    match program state with
    | (.done value, middle) => next value middle
    | (.thrown error, middle) => (.thrown error, middle)
    | (.unfinished, middle) => (.unfinished, middle)

def throw (error : ε) : Program σ ε α := fun state => (.thrown error, state)

/-- Leave with an exception when the condition holds. -/
def throwIf (condition : Prop) [Decidable condition] (error : ε) :
    Program σ ε Unit :=
  if condition then throw error else pure ()

/-- Run the body only when the condition holds. -/
def runIf (condition : Prop) [Decidable condition] (body : Program σ ε Unit) :
    Program σ ε Unit :=
  if condition then body else pure ()

def get : Program σ ε σ := fun state => (.done state, state)

def modify (change : σ → σ) : Program σ ε Unit :=
  fun state => (.done (), change state)

/-- Run a program on a part of the state. -/
def zoom (view : σ → τ) (update : τ → σ → σ) (program : Program τ ε α) :
    Program σ ε α := fun state =>
  match program (view state) with
  | (outcome, part) => (outcome, update part state)

/-- Raise the error of a pure fallible computation as an exception. -/
def ofExcept : Except ε α → Program σ ε α
  | .ok value => pure value
  | .error error => throw error

def tryCatch (body : Program σ ε α) (handler : ε → Program σ ε α) :
    Program σ ε α := fun state =>
  match body state with
  | (.thrown error, middle) => handler error middle
  | other => other

/-- Run the body for every item, in order. -/
def forEach : List ι → (ι → Program σ ε Unit) → Program σ ε Unit
  | [], _ => pure ()
  | item :: rest, body => do
      body item
      forEach rest body

/-- Run the body for the items in order until it answers `true`; the result
says whether it did.  This is a loop with a `break`. -/
def anyEach : List ι → (ι → Program σ ε Bool) → Program σ ε Bool
  | [], _ => pure false
  | item :: rest, body => do
      let found ← body item
      if found then pure true else anyEach rest body

/-- An unbounded loop, run for at most `fuel` rounds: the body answers whether
the loop goes on. -/
def loop : ℕ → Program σ ε Bool → Program σ ε Unit
  | 0, _ => fun state => (.unfinished, state)
  | fuel + 1, body => do
      let again ← body
      if again then loop fuel body else pure ()

@[simp] theorem pure_apply (value : α) (state : σ) :
    (pure value : Program σ ε α) state = (.done value, state) := rfl

theorem bind_apply (program : Program σ ε α) (next : α → Program σ ε β)
    (state : σ) :
    (program >>= next) state =
      match program state with
      | (.done value, middle) => next value middle
      | (.thrown error, middle) => (.thrown error, middle)
      | (.unfinished, middle) => (.unfinished, middle) := rfl

theorem bind_apply_done {program : Program σ ε α} {state middle : σ} {value : α}
    (result : program state = (.done value, middle))
    (next : α → Program σ ε β) :
    (program >>= next) state = next value middle := by
  rw [bind_apply, result]

theorem bind_assoc (program : Program σ ε α) (next : α → Program σ ε β)
    (last : β → Program σ ε τ) :
    program >>= next >>= last = program >>= fun value => next value >>= last := by
  funext state
  simp only [bind_apply]
  rcases program state with ⟨outcome, middle⟩
  cases outcome <;> rfl

@[simp] theorem throw_apply (error : ε) (state : σ) :
    (throw error : Program σ ε α) state = (.thrown error, state) := rfl

@[simp] theorem get_apply (state : σ) :
    (get : Program σ ε σ) state = (.done state, state) := rfl

@[simp] theorem modify_apply (change : σ → σ) (state : σ) :
    (modify change : Program σ ε Unit) state = (.done (), change state) := rfl

theorem exists_eq_done {program : Program σ ε α} {state : σ}
    (returned : (program state).1.isDone = true) :
    ∃ value final, program state = (.done value, final) := by
  obtain ⟨value, done⟩ := Outcome.exists_of_isDone returned
  exact ⟨value, (program state).2, Prod.ext done rfl⟩

/-- What a composition that returned has done: both halves returned. -/
theorem bind_eq_done {program : Program σ ε α} {next : α → Program σ ε β}
    {state final : σ} {result : β}
    (run : (program >>= next) state = (.done result, final)) :
    ∃ value middle, program state = (.done value, middle) ∧
      next value middle = (.done result, final) := by
  rw [bind_apply] at run
  split at run
  · rename_i value middle first
    exact ⟨value, middle, first, run⟩
  · simp at run
  · simp at run

/-- The same as a rule for rewriting. -/
theorem bind_eq_done_iff {program : Program σ ε α} {next : α → Program σ ε β}
    {state final : σ} {result : β} :
    (program >>= next) state = (.done result, final) ↔
      ∃ value middle, program state = (.done value, middle) ∧
        next value middle = (.done result, final) := by
  constructor
  · exact bind_eq_done
  · rintro ⟨value, middle, first, second⟩
    rw [bind_apply_done first]
    exact second

theorem throwIf_eq_done {condition : Prop} [Decidable condition] {error : ε}
    {state final : σ} {value : Unit}
    (run : throwIf condition error state = (.done value, final)) :
    final = state ∧ ¬condition := by
  unfold throwIf at run
  split at run
  · cases run
  next fails =>
      cases run
      exact ⟨rfl, fails⟩

theorem ofExcept_eq_done {result : Except ε α} {state final : σ} {value : α}
    (run : ofExcept result state = (.done value, final)) :
    final = state ∧ result = .ok value := by
  cases result with
  | ok other =>
      cases run
      exact ⟨rfl, rfl⟩
  | error error => cases run

/-! ## When a program returns -/

theorem pure_eq_done_iff {value result : α} {state final : σ} :
    (pure value : Program σ ε α) state = (.done result, final) ↔
      result = value ∧ final = state := by
  rw [pure_apply, Prod.mk.injEq, Outcome.done.injEq, eq_comm, @eq_comm _ final]

theorem get_eq_done_iff {state result final : σ} :
    (get : Program σ ε σ) state = (.done result, final) ↔ result = state ∧ final = state := by
  rw [get_apply, Prod.mk.injEq, Outcome.done.injEq, eq_comm, @eq_comm _ final]

theorem modify_eq_done_iff {change : σ → σ} {state final : σ} {value : Unit} :
    (modify change : Program σ ε Unit) state = (.done value, final) ↔
      final = change state := by
  rw [modify_apply, Prod.mk.injEq, @eq_comm _ final]
  simp

theorem throwIf_eq_done_iff {condition : Prop} [Decidable condition] {error : ε}
    {state final : σ} {value : Unit} :
    throwIf condition error state = (.done value, final) ↔ ¬condition ∧ final = state := by
  constructor
  · intro run
    obtain ⟨same, passed⟩ := throwIf_eq_done run
    exact ⟨passed, same⟩
  · rintro ⟨passed, rfl⟩
    rw [throwIf, if_neg passed]
    rfl

theorem ofExcept_eq_done_iff {result : Except ε α} {state final : σ} {value : α} :
    ofExcept result state = (.done value, final) ↔ result = .ok value ∧ final = state := by
  constructor
  · intro run
    obtain ⟨same, ok⟩ := ofExcept_eq_done run
    exact ⟨ok, same⟩
  · rintro ⟨rfl, rfl⟩
    rfl

theorem zoom_eq_done_iff {view : σ → τ} {update : τ → σ → σ} {program : Program τ ε α}
    {state final : σ} {value : α} :
    zoom view update program state = (.done value, final) ↔
      ∃ part, program (view state) = (.done value, part) ∧ final = update part state := by
  unfold zoom
  rcases program (view state) with ⟨outcome, part⟩
  simp only [Prod.mk.injEq]
  constructor
  · rintro ⟨rfl, rfl⟩
    exact ⟨part, ⟨rfl, rfl⟩, rfl⟩
  · rintro ⟨_, ⟨rfl, rfl⟩, rfl⟩
    exact ⟨rfl, rfl⟩

/-- A loop that only changes the state. -/
theorem forEach_modify (items : List ι) (change : ι → σ → σ) (state : σ) :
    forEach (ε := ε) items (fun item => modify (change item)) state =
      (.done (), items.foldl (fun state item => change item state) state) := by
  induction items generalizing state with
  | nil => rfl
  | cons item rest induction =>
      rw [forEach, bind_apply_done (modify_apply (change item) state), induction]
      rfl

/-- A loop that changes the state and leaves at the first item that fails a check. -/
theorem forEach_checked_eq_done_iff {items : List ι} {change : ι → σ → σ} {fails : ι → Prop}
    [DecidablePred fails] {error : ε} {state final : σ} {value : Unit} :
    forEach items (fun item => do
        modify (change item)
        throwIf (fails item) error) state = (.done value, final) ↔
      (∀ item ∈ items, ¬fails item) ∧
        final = items.foldl (fun state item => change item state) state := by
  induction items generalizing state with
  | nil =>
      rw [forEach, pure_eq_done_iff]
      simp
  | cons item rest induction =>
      simp only [forEach, bind_eq_done_iff, modify_eq_done_iff, throwIf_eq_done_iff, induction,
        List.forall_mem_cons, List.foldl_cons]
      constructor
      · rintro ⟨_, _, ⟨_, _, rfl, passed, rfl⟩, others, rfl⟩
        exact ⟨⟨passed, others⟩, rfl⟩
      · rintro ⟨⟨passed, others⟩, rfl⟩
        exact ⟨(), _, ⟨(), _, rfl, passed, rfl⟩, others, rfl⟩

/-- The same with the check before the change. -/
theorem forEach_guarded_eq_done_iff {items : List ι} {change : ι → σ → σ} {fails : ι → Prop}
    [DecidablePred fails] {error : ε} {state final : σ} {value : Unit} :
    forEach items (fun item => do
        throwIf (fails item) error
        modify (change item)) state = (.done value, final) ↔
      (∀ item ∈ items, ¬fails item) ∧
        final = items.foldl (fun state item => change item state) state := by
  induction items generalizing state with
  | nil =>
      rw [forEach, pure_eq_done_iff]
      simp
  | cons item rest induction =>
      simp only [forEach, bind_eq_done_iff, modify_eq_done_iff, throwIf_eq_done_iff, induction,
        List.forall_mem_cons, List.foldl_cons]
      constructor
      · rintro ⟨_, _, ⟨_, _, ⟨passed, rfl⟩, rfl⟩, others, rfl⟩
        exact ⟨⟨passed, others⟩, rfl⟩
      · rintro ⟨⟨passed, others⟩, rfl⟩
        exact ⟨(), _, ⟨(), _, ⟨passed, rfl⟩, rfl⟩, others, rfl⟩

/-! ## Partial correctness -/

/-- A run that returned has reached `post`, and one that ended in any other way
`escape`. -/
structure Ends (post : α → σ → Prop) (escape : σ → Prop) (run : Outcome ε α × σ) :
    Prop where
  returned : ∀ value, run.1 = .done value → post value run.2
  left : run.1.isDone = false → escape run.2

/-- From a state in `pre`, the program returns only into `post` and leaves in
any other way only into `escape`. -/
def Triple (pre : σ → Prop) (program : Program σ ε α)
    (post : α → σ → Prop) (escape : σ → Prop) : Prop :=
  ∀ state, pre state → Ends post escape (program state)

namespace Ends

variable {post : α → σ → Prop} {escape : σ → Prop} {state : σ}

@[simp] theorem done_iff {value : α} :
    Ends (ε := ε) post escape (.done value, state) ↔ post value state :=
  ⟨fun ends => ends.returned value rfl,
    fun holds => ⟨fun _ same => Outcome.done.inj same ▸ holds, by simp [Outcome.isDone]⟩⟩

@[simp] theorem thrown_iff {error : ε} :
    Ends post escape (.thrown error, state) ↔ escape state :=
  ⟨fun ends => ends.left rfl, fun holds => ⟨fun _ same => (by cases same), fun _ => holds⟩⟩

@[simp] theorem unfinished_iff :
    Ends (ε := ε) post escape (.unfinished, state) ↔ escape state :=
  ⟨fun ends => ends.left rfl, fun holds => ⟨fun _ same => (by cases same), fun _ => holds⟩⟩

theorem mono {post' : α → σ → Prop} {escape' : σ → Prop} {run : Outcome ε α × σ}
    (ends : Ends post escape run) (after : ∀ value, post value run.2 → post' value run.2)
    (leave : escape run.2 → escape' run.2) : Ends post' escape' run :=
  ⟨fun value same => after value (ends.returned value same),
    fun away => leave (ends.left away)⟩

end Ends

namespace Triple

variable {pre pre' : σ → Prop} {post post' : α → σ → Prop}
  {escape escape' : σ → Prop}

theorem consequence {program : Program σ ε α}
    (triple : Triple pre program post escape)
    (before : ∀ state, pre' state → pre state)
    (after : ∀ value state, post value state → post' value state)
    (leave : ∀ state, escape state → escape' state) :
    Triple pre' program post' escape' := by
  intro state holds
  exact (triple state (before state holds)).mono (fun value => after value _) (leave _)

/-- What the precondition says beside the state may be taken as given. -/
theorem assuming {program : Program σ ε α} {fact : Prop}
    (triple : fact → Triple pre program post escape) :
    Triple (fun state => pre state ∧ fact) program post escape :=
  fun state before => triple before.2 state before.1

/-- Only the runs that return matter when nothing is asked of the others. -/
theorem of_done {program : Program σ ε α}
    (returns : ∀ state value final, pre state →
      program state = (.done value, final) → post value final) :
    Triple pre program post fun _ => True := by
  intro state before
  constructor
  · intro value same
    exact returns state value _ before (Prod.ext same rfl)
  · exact fun _ => trivial

/-- What the judgement says of a run that returned. -/
theorem of_eq_done {program : Program σ ε α} (triple : Triple pre program post escape)
    {state final : σ} {value : α} (before : pre state)
    (returned : program state = (.done value, final)) : post value final := by
  have ends := triple state before
  rw [returned] at ends
  exact Ends.done_iff.mp ends

/-- A judgement that does not ask how the program ends is about its last state. -/
theorem last_iff {program : Program σ ε α} {last : σ → Prop} :
    Triple pre program (fun _ => last) last ↔
      ∀ state, pre state → last (program state).2 := by
  constructor
  · intro triple state before
    have ends := triple state before
    revert ends
    rcases program state with ⟨outcome, final⟩
    cases outcome <;> simp
  · exact fun holds state before =>
      ⟨fun _ _ => holds state before, fun _ => holds state before⟩

theorem pure (value : α) (holds : ∀ state, pre state → post value state) :
    Triple (ε := ε) pre (Pure.pure value) post escape :=
  fun state before => Ends.done_iff.mpr (holds state before)

theorem throw (error : ε) (holds : ∀ state, pre state → escape state) :
    Triple (α := α) pre (Program.throw error) post escape :=
  fun state before => Ends.thrown_iff.mpr (holds state before)

theorem bind {program : Program σ ε α} {next : α → Program σ ε β}
    {middle : α → σ → Prop} {post : β → σ → Prop}
    (first : Triple pre program middle escape)
    (second : ∀ value, Triple (middle value) (next value) post escape) :
    Triple pre (program >>= next) post escape := by
  intro state before
  have reached := first state before
  rw [bind_apply]
  revert reached
  rcases program state with ⟨outcome, halfway⟩
  intro reached
  cases outcome with
  | done value => exact second value halfway (Ends.done_iff.mp reached)
  | thrown error => simpa using reached
  | unfinished => simpa using reached

theorem get {post : σ → σ → Prop} (holds : ∀ state, pre state → post state state) :
    Triple (ε := ε) pre Program.get post escape :=
  fun state before => Ends.done_iff.mpr (holds state before)

theorem modify {post : Unit → σ → Prop} (change : σ → σ)
    (holds : ∀ state, pre state → post () (change state)) :
    Triple (ε := ε) pre (Program.modify change) post escape :=
  fun state before => Ends.done_iff.mpr (holds state before)

theorem throwIf {post : Unit → σ → Prop} {condition : Prop}
    [Decidable condition] (error : ε)
    (leaves : condition → ∀ state, pre state → escape state)
    (passes : ¬condition → ∀ state, pre state → post () state) :
    Triple pre (Program.throwIf condition error) post escape := by
  unfold Program.throwIf
  split
  next holds => exact throw error (leaves holds)
  next fails => exact pure () (passes fails)

theorem runIf {post : Unit → σ → Prop} {condition : Prop}
    [Decidable condition] {body : Program σ ε Unit}
    (runs : condition → Triple pre body post escape)
    (skips : ¬condition → ∀ state, pre state → post () state) :
    Triple pre (Program.runIf condition body) post escape := by
  unfold Program.runIf
  split
  next holds => exact runs holds
  next fails => exact pure () (skips fails)

theorem ofExcept {result : Except ε α}
    (returns : ∀ value, result = .ok value →
      ∀ state, pre state → post value state)
    (raises : ∀ error, result = .error error →
      ∀ state, pre state → escape state) :
    Triple pre (Program.ofExcept result) post escape := by
  cases result with
  | ok value => exact pure value (returns value rfl)
  | error error => exact throw error (raises error rfl)

/-- The handler runs from wherever the body threw; a body that was cut off is
not caught. -/
theorem tryCatch {body : Program σ ε α} {handler : ε → Program σ ε α}
    {thrown : σ → Prop}
    (first : Triple pre body post thrown)
    (second : ∀ error, Triple thrown (handler error) post escape)
    (leave : ∀ state, thrown state → escape state) :
    Triple pre (Program.tryCatch body handler) post escape := by
  intro state before
  have reached := first state before
  unfold Program.tryCatch
  revert reached
  rcases body state with ⟨outcome, halfway⟩
  intro reached
  cases outcome with
  | done value => simpa using reached
  | thrown error => exact second error halfway (Ends.thrown_iff.mp reached)
  | unfinished => exact Ends.unfinished_iff.mpr (leave halfway (by simpa using reached))

theorem both {program : Program σ ε α}
    (left : Triple pre program post escape) (right : Triple pre' program post' escape') :
    Triple (fun state => pre state ∧ pre' state) program
      (fun value state => post value state ∧ post' value state)
      (fun state => escape state ∧ escape' state) := by
  rintro state ⟨before, before'⟩
  have first := left state before
  have second := right state before'
  exact ⟨fun value same => ⟨first.returned value same, second.returned value same⟩,
    fun away => ⟨first.left away, second.left away⟩⟩

/-- The loop rule: `invariant` speaks about the items already handled. -/
theorem forEach {items : List ι} {body : ι → Program σ ε Unit}
    {invariant : List ι → σ → Prop}
    (step : ∀ handled item rest, items = handled ++ item :: rest →
      Triple (invariant handled) (body item)
        (fun _ => invariant (handled ++ [item])) escape) :
    Triple (invariant []) (Program.forEach items body)
      (fun _ => invariant items) escape := by
  suffices remaining : ∀ handled rest, items = handled ++ rest →
      Triple (invariant handled) (Program.forEach rest body)
        (fun _ => invariant items) escape from remaining [] items rfl
  intro handled rest split
  induction rest generalizing handled with
  | nil =>
      rw [List.append_nil] at split
      subst split
      exact pure () (fun _ => id)
  | cons item rest induction =>
      refine bind (step handled item rest split) (fun _ => ?_)
      exact induction (handled ++ [item]) (by simp [split])

/-- The rule for a loop that counts: `invariant` speaks about the rounds already run. -/
theorem forEach_range {count : ℕ} {body : ℕ → Program σ ε Unit}
    {invariant : ℕ → σ → Prop}
    (step : ∀ index < count, Triple (invariant index) (body index)
      (fun _ => invariant (index + 1)) escape) :
    Triple (invariant 0) (Program.forEach (List.range count) body)
      (fun _ => invariant count) escape := by
  let sofar := fun handled : List ℕ => invariant handled.length
  have counted : Triple (sofar []) (Program.forEach (List.range count) body)
      (fun _ => sofar (List.range count)) escape := by
    apply forEach
    intro handled index rest split
    have here : (List.range count)[handled.length]? = some index := by
      simp [split]
    obtain ⟨bound, rfl⟩ := List.getElem?_eq_some_iff.mp here
    rw [List.length_range] at bound
    simpa [sofar] using step handled.length bound
  simpa [sofar] using counted

/-- A loop keeps what every round keeps. -/
theorem forEach_keeps {items : List ι} {body : ι → Program σ ε Unit}
    {invariant : σ → Prop}
    (step : ∀ item, Triple invariant (body item) (fun _ => invariant) escape) :
    Triple invariant (Program.forEach items body) (fun _ => invariant) escape := by
  induction items with
  | nil => exact pure () fun _ => id
  | cons item rest induction => exact bind (step item) fun _ => induction

/-- The rule for a loop with a `break`: every round keeps the invariant or finds what
the loop is after. -/
theorem anyEach {items : List ι} {body : ι → Program σ ε Bool}
    {invariant found : σ → Prop}
    (step : ∀ item, Triple invariant (body item)
      (fun answer state => if answer then found state else invariant state) escape) :
    Triple invariant (Program.anyEach items body)
      (fun answer state => if answer then found state else invariant state) escape := by
  induction items with
  | nil => exact pure false fun _ before => by simpa using before
  | cons item rest induction =>
      refine bind (step item) fun answer => ?_
      cases answer with
      | true => exact pure true fun _ => by simp
      | false => exact induction.consequence (by simp) (fun _ _ => id) fun _ => id

/-- The rule for an unbounded loop: every round keeps the invariant and the
last one establishes the postcondition. -/
theorem loop {fuel : ℕ} {body : Program σ ε Bool} {invariant post : σ → Prop}
    (step : Triple invariant body
      (fun again state => if again then invariant state else post state) escape)
    (cut : ∀ state, invariant state → escape state) :
    Triple invariant (Program.loop fuel body) (fun _ => post) escape := by
  induction fuel with
  | zero => exact fun state before => Ends.unfinished_iff.mpr (cut state before)
  | succ fuel induction =>
      refine bind step (fun again => ?_)
      cases again with
      | true => exact induction.consequence (by simp) (fun _ _ => id) (fun _ => id)
      | false => exact pure () (fun _ => by simp)

end Triple

/-! ## Being cut off -/

/-- The program returns or throws: none of its loops is cut off. -/
def Finishes (program : Program σ ε α) : Prop :=
  ∀ state, (program state).1 ≠ .unfinished

namespace Finishes

theorem pure (value : α) : Finishes (Pure.pure value : Program σ ε α) := by
  intro state cut
  cases cut

theorem throw (error : ε) : Finishes (Program.throw error : Program σ ε α) := by
  intro state cut
  cases cut

theorem get : Finishes (Program.get : Program σ ε σ) := by
  intro state cut
  cases cut

theorem modify (change : σ → σ) : Finishes (Program.modify change : Program σ ε Unit) := by
  intro state cut
  cases cut

theorem bind {program : Program σ ε α} {next : α → Program σ ε β}
    (first : Finishes program) (second : ∀ value, Finishes (next value)) :
    Finishes (program >>= next) := by
  intro state
  have finished := first state
  rw [bind_apply]
  revert finished
  rcases program state with ⟨outcome, middle⟩
  intro finished
  cases outcome with
  | done value => exact second value middle
  | thrown error =>
      intro cut
      cases cut
  | unfinished => exact absurd rfl finished

theorem throwIf {condition : Prop} [Decidable condition] (error : ε) :
    Finishes (Program.throwIf condition error : Program σ ε Unit) := by
  unfold Program.throwIf
  split
  · exact throw error
  · exact pure ()

theorem runIf {condition : Prop} [Decidable condition] {body : Program σ ε Unit}
    (runs : Finishes body) : Finishes (Program.runIf condition body) := by
  unfold Program.runIf
  split
  · exact runs
  · exact pure ()

theorem zoom {view : σ → τ} {update : τ → σ → σ} {program : Program τ ε α}
    (part : Finishes program) : Finishes (Program.zoom view update program) :=
  fun state => part (view state)

end Finishes

/-- A loop whose first round is the last one. -/
theorem loop_once {fuel : ℕ} {body : Program σ ε Bool} {state final : σ}
    (ends : body state = (.done false, final)) :
    loop (fuel + 1) body state = (.done (), final) := by
  rw [loop, bind_apply_done ends]
  rfl

/-- A loop whose every round asks for another one is cut off, however many rounds it
is given. -/
theorem loop_unfinished {fuel : ℕ} {body : Program σ ε Bool} {invariant : σ → Prop}
    (step : ∀ state, invariant state →
      ∃ next, body state = (.done true, next) ∧ invariant next)
    {state : σ} (holds : invariant state) : (loop fuel body state).1 = .unfinished := by
  induction fuel generalizing state with
  | zero => rfl
  | succ fuel induction =>
      obtain ⟨next, round, kept⟩ := step state holds
      rw [loop, bind_apply_done round]
      exact induction kept

/-! ## What may be thrown -/

/-- Every exception that leaves the program is an allowed one. -/
def Raises (allowed : ε → Prop) (program : Program σ ε α) : Prop :=
  ∀ state error, (program state).1 = .thrown error → allowed error

namespace Raises

variable {allowed : ε → Prop}

theorem pure (value : α) : Raises allowed (Pure.pure value : Program σ ε α) := by
  intro state error thrown
  cases thrown

theorem throw {error : ε} (reason : allowed error) :
    Raises allowed (Program.throw error : Program σ ε α) := by
  intro state other thrown
  cases thrown
  exact reason

theorem get : Raises allowed (Program.get : Program σ ε σ) := by
  intro state error thrown
  cases thrown

theorem modify (change : σ → σ) :
    Raises allowed (Program.modify change : Program σ ε Unit) := by
  intro state error thrown
  cases thrown

theorem bind {program : Program σ ε α} {next : α → Program σ ε β}
    (first : Raises allowed program) (second : ∀ value, Raises allowed (next value)) :
    Raises allowed (program >>= next) := by
  intro state error
  have raised := first state
  rw [bind_apply]
  revert raised
  rcases program state with ⟨outcome, middle⟩
  intro raised
  cases outcome with
  | done value => exact second value middle error
  | thrown other =>
      intro thrown
      cases thrown
      exact raised error rfl
  | unfinished =>
      intro thrown
      cases thrown

theorem throwIf {condition : Prop} [Decidable condition] {error : ε}
    (reason : allowed error) :
    Raises allowed (Program.throwIf condition error : Program σ ε Unit) := by
  unfold Program.throwIf
  split
  · exact throw reason
  · exact pure ()

theorem runIf {condition : Prop} [Decidable condition] {body : Program σ ε Unit}
    (runs : Raises allowed body) : Raises allowed (Program.runIf condition body) := by
  unfold Program.runIf
  split
  · exact runs
  · exact pure ()

theorem ofExcept {result : Except ε α}
    (reason : ∀ error, result = .error error → allowed error) :
    Raises allowed (Program.ofExcept result : Program σ ε α) := by
  cases result with
  | ok value => exact pure value
  | error error => exact throw (reason error rfl)

theorem zoom {view : σ → τ} {update : τ → σ → σ} {program : Program τ ε α}
    (part : Raises allowed program) : Raises allowed (Program.zoom view update program) :=
  fun state => part (view state)

theorem forEach {items : List ι} {body : ι → Program σ ε Unit}
    (step : ∀ item ∈ items, Raises allowed (body item)) :
    Raises allowed (Program.forEach items body) := by
  induction items with
  | nil => exact pure ()
  | cons item rest induction =>
      apply bind (step item (by simp))
      intro _
      exact induction fun other member => step other (by simp [member])

theorem anyEach {items : List ι} {body : ι → Program σ ε Bool}
    (step : ∀ item ∈ items, Raises allowed (body item)) :
    Raises allowed (Program.anyEach items body) := by
  induction items with
  | nil => exact pure false
  | cons item rest induction =>
      apply bind (step item (by simp))
      intro answer
      cases answer with
      | true => exact pure true
      | false => exact induction fun other member => step other (by simp [member])

theorem loop {fuel : ℕ} {body : Program σ ε Bool} (step : Raises allowed body) :
    Raises allowed (Program.loop fuel body) := by
  induction fuel with
  | zero =>
      intro state error thrown
      cases thrown
  | succ fuel induction =>
      apply bind step
      intro again
      cases again with
      | true => exact induction
      | false => exact pure ()

end Raises

/-! ## Relations between the first state and the last -/

/-- However the program ends, its last state is related to its first. -/
def Respects (related : σ → σ → Prop) (program : Program σ ε α) : Prop :=
  ∀ state, related state (program state).2

namespace Respects

variable {related related' : σ → σ → Prop}

theorem mono {program : Program σ ε α} (respects : Respects related program)
    (weaker : ∀ first last, related first last → related' first last) :
    Respects related' program :=
  fun state => weaker _ _ (respects state)

/-- What a relation carries from the first state to the last. -/
theorem triple {program : Program σ ε α} (respects : Respects related program)
    {pre post escape : σ → Prop}
    (carries : ∀ first last, related first last → pre first → post last)
    (leaves : ∀ first last, related first last → pre first → escape last) :
    Triple pre program (fun _ => post) escape :=
  fun state before =>
    ⟨fun _ _ => carries _ _ (respects state) before,
      fun _ => leaves _ _ (respects state) before⟩

theorem modify {change : σ → σ} (changes : ∀ state, related state (change state)) :
    Respects (ε := ε) related (Program.modify change) :=
  changes

theorem both {program : Program σ ε α}
    (left : Respects related program) (right : Respects related' program) :
    Respects (fun first last => related first last ∧ related' first last) program :=
  fun state => ⟨left state, right state⟩

variable [IsPreorder σ related]

theorem pure (value : α) : Respects (ε := ε) related (Pure.pure value) :=
  fun state => refl state

theorem throw (error : ε) : Respects (α := α) related (Program.throw error) :=
  fun state => refl state

theorem get : Respects (ε := ε) related Program.get :=
  fun state => refl state

theorem ofExcept (result : Except ε α) : Respects related (Program.ofExcept result) := by
  cases result with
  | ok value => exact pure value
  | error error => exact throw error

theorem bind {program : Program σ ε α} {next : α → Program σ ε β}
    (first : Respects related program)
    (second : ∀ value, Respects related (next value)) :
    Respects related (program >>= next) := by
  intro state
  have reached := first state
  rw [bind_apply]
  revert reached
  rcases program state with ⟨outcome, middle⟩
  intro reached
  cases outcome with
  | done value => exact trans_of related reached (second value middle)
  | thrown error => exact reached
  | unfinished => exact reached

theorem throwIf {condition : Prop} [Decidable condition] (error : ε) :
    Respects related (Program.throwIf condition error) := by
  unfold Program.throwIf
  split
  · exact throw error
  · exact pure ()

theorem runIf {condition : Prop} [Decidable condition]
    {body : Program σ ε Unit} (runs : Respects related body) :
    Respects related (Program.runIf condition body) := by
  unfold Program.runIf
  split
  · exact runs
  · exact pure ()

theorem tryCatch {body : Program σ ε α} {handler : ε → Program σ ε α}
    (first : Respects related body)
    (second : ∀ error, Respects related (handler error)) :
    Respects related (Program.tryCatch body handler) := by
  intro state
  have reached := first state
  unfold Program.tryCatch
  revert reached
  rcases body state with ⟨outcome, middle⟩
  intro reached
  cases outcome with
  | done value => exact reached
  | thrown error => exact trans_of related reached (second error middle)
  | unfinished => exact reached

theorem forEach {items : List ι} {body : ι → Program σ ε Unit}
    (step : ∀ item ∈ items, Respects related (body item)) :
    Respects related (Program.forEach items body) := by
  induction items with
  | nil => exact pure ()
  | cons item rest induction =>
      apply bind (step item (by simp))
      intro _
      exact induction fun other member => step other (by simp [member])

theorem anyEach {items : List ι} {body : ι → Program σ ε Bool}
    (step : ∀ item ∈ items, Respects related (body item)) :
    Respects related (Program.anyEach items body) := by
  induction items with
  | nil => exact pure false
  | cons item rest induction =>
      apply bind (step item (by simp))
      intro answer
      cases answer with
      | true => exact pure true
      | false => exact induction fun other member => step other (by simp [member])

theorem loop {fuel : ℕ} {body : Program σ ε Bool} (step : Respects related body) :
    Respects related (Program.loop fuel body) := by
  induction fuel with
  | zero => exact fun state => refl state
  | succ fuel induction =>
      apply bind step
      intro again
      cases again with
      | true => exact induction
      | false => exact pure ()

end Respects

end Program

/-- A part of the state is as it was. -/
def Keeps {σ τ : Type} (view : σ → τ) (first last : σ) : Prop := view last = view first

instance {σ τ : Type} (view : σ → τ) : IsPreorder σ (Keeps view) where
  refl _ := rfl
  trans _ _ _ left right := Eq.trans right left

/-- The program leaves a part of the state as it is. -/
abbrev Program.Leaves {σ ε α τ : Type} (view : σ → τ) (program : Program σ ε α) : Prop :=
  Program.Respects (Keeps view) program

/-- What is computed from a part that is left alone is left alone. -/
theorem Program.Leaves.map {σ ε α τ υ : Type} {view : σ → τ} {program : Program σ ε α}
    (leaves : program.Leaves view) (derive : τ → υ) :
    program.Leaves fun state => derive (view state) :=
  fun state => congrArg derive (leaves state)

/-- A condition that holds stays. -/
def Stays {σ : Type} (holds : σ → Prop) (first last : σ) : Prop := holds first → holds last

instance {σ : Type} (holds : σ → Prop) : IsPreorder σ (Stays holds) where
  refl _ := id
  trans _ _ _ left right before := right (left before)

/-- The program keeps a condition on the state, however it ends. -/
abbrev Program.Preserves {σ ε α : Type} (invariant : σ → Prop) (program : Program σ ε α) :
    Prop :=
  Program.Respects (Stays invariant) program

theorem Program.Preserves.triple {σ ε α : Type} {invariant : σ → Prop}
    {program : Program σ ε α} (preserves : program.Preserves invariant) :
    Program.Triple invariant program (fun _ => invariant) invariant :=
  Program.Respects.triple preserves (fun _ _ => id) fun _ _ => id

end Foundation
