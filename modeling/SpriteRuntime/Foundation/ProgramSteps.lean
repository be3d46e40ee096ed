import SpriteRuntime.Foundation.Program

/-!
# One step and the rest

Rules of partial correctness for a program that begins with a read of the state, a check or a
change of the state, and rules that a loop over a list is never cut off.  A second judgement
says which errors a program may throw from the states of a precondition.
-/

namespace Foundation.Program

variable {σ ε α ι : Type}

namespace Triple

variable {pre middle : σ → Prop} {post : α → σ → Prop} {escape : σ → Prop}

/-- The rest knows the state that was read. -/
theorem get_bind {next : σ → Program σ ε α}
    (rest : ∀ known, Triple (fun state => pre state ∧ state = known) (next known) post escape) :
    Triple pre (Program.get >>= next) post escape := by
  have read : Triple (ε := ε) pre Program.get
      (fun known state => pre state ∧ state = known) escape :=
    get fun _ holds => ⟨holds, rfl⟩
  exact bind read rest

/-- The rest may take it that the check did not apply. -/
theorem throwIf_bind {condition : Prop} [Decidable condition] {error : ε}
    {next : Unit → Program σ ε α}
    (leaves : condition → ∀ state, pre state → escape state)
    (rest : ¬condition → Triple pre (next ()) post escape) :
    Triple pre (Program.throwIf condition error >>= next) post escape := by
  have checked : Triple pre (Program.throwIf condition error)
      (fun _ state => pre state ∧ ¬condition) escape :=
    throwIf error leaves fun passed _ holds => ⟨holds, passed⟩
  exact bind checked fun _ => assuming rest

theorem modify_bind {change : σ → σ} {next : Unit → Program σ ε α}
    (changes : ∀ state, pre state → middle (change state))
    (rest : Triple middle (next ()) post escape) :
    Triple pre (Program.modify change >>= next) post escape := by
  have changed : Triple (ε := ε) pre (Program.modify change) (fun _ => middle) escape :=
    modify change changes
  exact bind changed fun _ => rest

/-- A loop of checks returns only if all of them passed. -/
theorem forEach_throwIf {items : List ι} {fails : ι → Prop} [DecidablePred fails]
    {error : ι → ε} :
    Triple pre (Program.forEach items fun item => Program.throwIf (fails item) (error item))
      (fun _ state => pre state ∧ ∀ item ∈ items, ¬fails item) fun _ => True := by
  let passed := fun (handled : List ι) (state : σ) => pre state ∧ ∀ item ∈ handled, ¬fails item
  have round (handled : List ι) (item : ι) : Triple (passed handled)
      (Program.throwIf (fails item) (error item)) (fun _ => passed (handled ++ [item]))
      fun _ => True := by
    refine throwIf _ (fun _ _ _ => trivial) fun passes state before => ⟨before.1, ?_⟩
    intro other member
    rcases List.mem_append.mp member with earlier | last
    · exact before.2 other earlier
    · exact List.mem_singleton.mp last ▸ passes
  apply (forEach fun handled item _ _ => round handled item).consequence
  · exact fun state before => ⟨before, by simp⟩
  · exact fun _ _ => id
  · exact fun _ => id

/-- A loop keeps what the rounds of its own items keep. -/
theorem forEach_keeps_mem {items : List ι} {body : ι → Program σ ε Unit} {invariant : σ → Prop}
    (step : ∀ item ∈ items, Triple invariant (body item) (fun _ => invariant) escape) :
    Triple invariant (Program.forEach items body) (fun _ => invariant) escape := by
  induction items with
  | nil => exact pure () fun _ => id
  | cons item rest induction =>
      refine bind (step item List.mem_cons_self) fun _ => induction fun other member => ?_
      exact step other (List.mem_cons_of_mem item member)

/-- What is known of a part of the state after a program that ran on that part. -/
theorem zoom {τ : Type} {view : σ → τ} {update : τ → σ → σ} {program : Program τ ε α}
    {pre : τ → Prop} {post : α → τ → Prop} {escape : τ → Prop}
    (part : Triple pre program post escape) (sees : ∀ part state, view (update part state) = part) :
    Triple (fun state => pre (view state)) (Program.zoom view update program)
      (fun value state => post value (view state)) (fun state => escape (view state)) := by
  intro state before
  have ends := part (view state) before
  unfold Program.zoom
  revert ends
  rcases program (view state) with ⟨outcome, final⟩
  intro ends
  dsimp only
  constructor
  · intro value same
    rw [sees]
    exact ends.returned value same
  · intro away
    rw [sees]
    exact ends.left away

/-- What does not look at a part stays, and a value that was returned comes from a run on that
part. -/
theorem zoom_aside {τ : Type} {view : σ → τ} {update : τ → σ → σ} {program : Program τ ε α}
    (aside : ∀ part state, pre state → pre (update part state)) :
    Triple pre (Program.zoom view update program)
      (fun value state => pre state ∧ ∃ first last, program first = (.done value, last)) pre := by
  intro state before
  unfold Program.zoom
  rcases ran : program (view state) with ⟨outcome, final⟩
  cases outcome with
  | done value => exact Ends.done_iff.mpr ⟨aside final state before, view state, final, ran⟩
  | thrown error => exact Ends.thrown_iff.mpr (aside final state before)
  | unfinished => exact Ends.unfinished_iff.mpr (aside final state before)

/-- A run that returned can be recalled later. -/
theorem remembering {program : Program σ ε α} {last : σ → Prop}
    (triple : Triple pre program (fun _ => last) escape) :
    Triple pre program
      (fun value state => last state ∧ ∃ first, pre first ∧ program first = (.done value, state))
      escape := by
  intro state before
  have ends := triple state before
  constructor
  · exact fun value same => ⟨ends.returned value same, state, before, Prod.ext same rfl⟩
  · exact ends.left

/-- A program that leaves in no other way returns. -/
theorem returns {program : Program σ ε α} (triple : Triple pre program post fun _ => False)
    {state : σ} (before : pre state) :
    ∃ value final, program state = (.done value, final) ∧ post value final := by
  have ends := triple state before
  rcases ran : program state with ⟨outcome, final⟩
  rw [ran] at ends
  cases outcome with
  | done value => exact ⟨value, final, rfl, Ends.done_iff.mp ends⟩
  | thrown error => exact absurd (Ends.thrown_iff.mp ends) id
  | unfinished => exact absurd (Ends.unfinished_iff.mp ends) id

end Triple

/-- A program on one part leaves the others. -/
theorem Leaves.zoom {τ υ : Type} {view : σ → τ} {update : τ → σ → σ} {program : Program τ ε α}
    {other : σ → υ} (aside : ∀ part state, other (update part state) = other state) :
    (Program.zoom view update program).Leaves other :=
  fun state => aside _ state

namespace Finishes

theorem forEach {items : List ι} {body : ι → Program σ ε Unit}
    (step : ∀ item, Finishes (body item)) : Finishes (Program.forEach items body) := by
  induction items with
  | nil => exact pure ()
  | cons item rest induction => exact bind (step item) fun _ => induction

theorem anyEach {items : List ι} {body : ι → Program σ ε Bool}
    (step : ∀ item, Finishes (body item)) : Finishes (Program.anyEach items body) := by
  induction items with
  | nil => exact pure false
  | cons item rest induction =>
      refine bind (step item) fun answer => ?_
      cases answer with
      | true => exact pure true
      | false => exact induction

end Finishes

theorem forEach_append (front back : List ι) (body : ι → Program σ ε Unit) :
    Program.forEach (front ++ back) body =
      (Program.forEach front body >>= fun _ => Program.forEach back body) := by
  induction front with
  | nil => rfl
  | cons item rest induction =>
      rw [List.cons_append, forEach, forEach, induction, bind_assoc]

/-- From a state in `pre`, the program returns only into `post` and throws only errors that
are allowed. -/
def Guards (pre : σ → Prop) (program : Program σ ε α) (post : α → σ → Prop)
    (allowed : ε → Prop) : Prop :=
  ∀ state, pre state →
    (∀ value final, program state = (.done value, final) → post value final) ∧
      ∀ error final, program state = (.thrown error, final) → allowed error

namespace Guards

variable {β : Type} {pre : σ → Prop} {post : α → σ → Prop} {allowed : ε → Prop}

theorem of_raises {program : Program σ ε α}
    (triple : Triple pre program post fun _ => True) (raises : Raises allowed program) :
    Guards pre program post allowed := by
  intro state before
  constructor
  · intro value final returned
    exact triple.of_eq_done before returned
  · intro error final thrown
    exact raises state error (congrArg Prod.fst thrown)

theorem pure (value : α) (holds : ∀ state, pre state → post value state) :
    Guards (ε := ε) pre (Pure.pure value) post allowed := by
  intro state before
  constructor
  · rintro _ _ ⟨⟩
    exact holds state before
  · rintro _ _ ⟨⟩

theorem bind {program : Program σ ε α} {next : α → Program σ ε β} {middle : α → σ → Prop}
    {post : β → σ → Prop} (first : Guards pre program middle allowed)
    (second : ∀ value, Guards (middle value) (next value) post allowed) :
    Guards pre (program >>= next) post allowed := by
  intro state before
  have reached := first state before
  rw [bind_apply]
  revert reached
  rcases program state with ⟨outcome, halfway⟩
  intro reached
  cases outcome with
  | done value => exact second value halfway (reached.1 value halfway rfl)
  | thrown error =>
      constructor
      · rintro _ _ ⟨⟩
      · rintro _ _ ⟨⟩
        exact reached.2 error halfway rfl
  | unfinished =>
      constructor
      · rintro _ _ ⟨⟩
      · rintro _ _ ⟨⟩

/-- The rule for a loop that counts. -/
theorem forEach_range {count : ℕ} {body : ℕ → Program σ ε Unit} {invariant : ℕ → σ → Prop}
    (step : ∀ index < count, Guards (invariant index) (body index)
      (fun _ => invariant (index + 1)) allowed) :
    Guards (invariant 0) (Program.forEach (List.range count) body)
      (fun _ => invariant count) allowed := by
  induction count with
  | zero => exact pure () fun _ holds => holds
  | succ count induction =>
      rw [List.range_succ, forEach_append]
      refine bind (induction fun index before => step index (by omega)) fun _ => ?_
      exact bind (step count (by omega)) fun _ => pure () fun _ holds => holds

end Guards

end Foundation.Program
