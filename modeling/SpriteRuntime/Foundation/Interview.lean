import Mathlib.Order.Lattice
import Mathlib.Order.Monotone.Basic
import Mathlib.Order.Nat
import SpriteRuntime.Foundation.Appends
import SpriteRuntime.Foundation.Settling

/-!
# Interviews

Questions are put one after the other over a channel that may lose the question or the answer.
Each is put again until an answer comes or a limit is reached, and what else arrives meanwhile is
passed over.  `Completed` is the shape of the log of such an interview, and `Records` the judgement
that gives the log of a program that returns.
-/

namespace Foundation

/-- What puts a question, what is passed over while its answer is awaited, and what answers it. -/
structure Interviewer (Question Answer Event : Type) where
  puts : Question → Event → Prop
  passes : Question → Event → Prop
  answers : Question → Event → Answer → Prop

namespace Interviewer

variable {Question Answer Event : Type} (interviewer : Interviewer Question Answer Event)

/-- What follows when a question was put once. -/
inductive Attempt (question : Question) : Option Answer → List Event → Prop
  | silent {put : Event} {passed : List Event} (puts : interviewer.puts question put)
      (passes : ∀ event ∈ passed, interviewer.passes question event) :
      Attempt question none (put :: passed)
  | answered {put reply : Event} {passed : List Event} {answer : Answer}
      (puts : interviewer.puts question put)
      (passes : ∀ event ∈ passed, interviewer.passes question event)
      (answers : interviewer.answers question reply answer) :
      Attempt question (some answer) (put :: (passed ++ [reply]))

/-- A question is put until it is answered; the number says how often. -/
inductive Asked (question : Question) : ℕ → List Event → Answer → Prop
  | answered {events : List Event} {answer : Answer}
      (attempt : interviewer.Attempt question (some answer) events) :
      Asked question 1 events answer
  | again {events rest : List Event} {count : ℕ} {answer : Answer}
      (attempt : interviewer.Attempt question none events)
      (later : Asked question count rest answer) : Asked question (count + 1) (events ++ rest) answer

/-- The questions are answered in order, and none is put more often than the limit says. -/
inductive Completed (limit : ℕ) : List (Question × Answer) → List Event → Prop
  | nil : Completed limit [] []
  | cons {question : Question} {answer : Answer} {count : ℕ} {block rest : List Event}
      {answered : List (Question × Answer)} (asked : interviewer.Asked question count block answer)
      (few : count ≤ limit) (later : Completed limit answered rest) :
      Completed limit ((question, answer) :: answered) (block ++ rest)

/-- Questions can be told from what is passed over and from answers. -/
structure Distinguishes (isPut : Event → Bool) : Prop where
  puts : ∀ question event, interviewer.puts question event → isPut event = true
  passes : ∀ question event, interviewer.passes question event → isPut event = false
  answers : ∀ question event answer, interviewer.answers question event answer →
    isPut event = false

variable {interviewer} {question : Question} {count limit : ℕ} {events rest : List Event}
  {answer : Answer} {answered later : List (Question × Answer)} {isPut : Event → Bool}

theorem Attempt.countP (distinguishes : interviewer.Distinguishes isPut) {answer : Option Answer}
    (attempt : interviewer.Attempt question answer events) : events.countP isPut = 1 := by
  cases attempt with
  | silent puts passes =>
      rw [List.countP_cons_of_pos (distinguishes.puts _ _ puts), List.countP_eq_zero.mpr]
      intro event member
      rw [distinguishes.passes _ _ (passes event member)]
      exact Bool.false_ne_true
  | answered puts passes answers =>
      rw [List.countP_cons_of_pos (distinguishes.puts _ _ puts), List.countP_eq_zero.mpr]
      intro event member
      rcases List.mem_append.mp member with earlier | last
      · rw [distinguishes.passes _ _ (passes event earlier)]
        exact Bool.false_ne_true
      · rw [List.mem_singleton.mp last, distinguishes.answers _ _ _ answers]
        exact Bool.false_ne_true

theorem Asked.countP (distinguishes : interviewer.Distinguishes isPut)
    (asked : interviewer.Asked question count events answer) :
    events.countP isPut = count ∧ 1 ≤ count := by
  induction asked with
  | answered attempt => exact ⟨attempt.countP distinguishes, Nat.le_refl 1⟩
  | again attempt later induction =>
      rw [List.countP_append, attempt.countP distinguishes, induction.1]
      omega

theorem Asked.exists_answer (asked : interviewer.Asked question count events answer) :
    ∃ event ∈ events, interviewer.answers question event answer := by
  induction asked with
  | answered attempt =>
      cases attempt with
      | answered puts passes answers => exact ⟨_, by simp, answers⟩
  | again attempt later induction =>
      obtain ⟨event, member, answers⟩ := induction
      exact ⟨event, List.mem_append_right _ member, answers⟩

namespace Completed

theorem append (first : interviewer.Completed limit answered events)
    (second : interviewer.Completed limit later rest) :
    interviewer.Completed limit (answered ++ later) (events ++ rest) := by
  induction first with
  | nil => exact second
  | cons asked few _ induction =>
      rw [List.append_assoc]
      exact cons asked few induction

/-- Every question was put, and none more often than the limit. -/
theorem countP_bounds (distinguishes : interviewer.Distinguishes isPut)
    (completed : interviewer.Completed limit answered events) :
    answered.length ≤ events.countP isPut ∧ events.countP isPut ≤ limit * answered.length := by
  induction completed with
  | nil => simp
  | cons asked few later induction =>
      obtain ⟨counted, put⟩ := asked.countP distinguishes
      rw [List.countP_append, counted, List.length_cons, Nat.mul_succ]
      omega

/-- Every answer is in the log. -/
theorem exists_answer (completed : interviewer.Completed limit answered events) :
    ∀ entry ∈ answered, ∃ event ∈ events, interviewer.answers entry.1 event entry.2 := by
  induction completed with
  | nil => simp
  | cons asked few later induction =>
      intro entry member
      rcases List.mem_cons.mp member with rfl | member
      · obtain ⟨event, inBlock, answers⟩ := asked.exists_answer
        exact ⟨event, List.mem_append_left _ inBlock, answers⟩
      · obtain ⟨event, inRest, answers⟩ := induction entry member
        exact ⟨event, List.mem_append_right _ inRest, answers⟩

end Completed

end Interviewer

/-! ## Programs -/

namespace Program

variable {σ ε α β ι τ : Type}

/-- A few attempts, the first that succeeds being the last. -/
def tryTimes (attempt : Program σ ε (Option α)) : ℕ → Program σ ε (Option α)
  | 0 => pure none
  | count + 1 => do
      let answer ← attempt
      match answer with
      | some value => pure (some value)
      | none => tryTimes attempt count

/-- The results of the body for every item, in order. -/
def gather (body : ι → Program σ ε β) : List ι → Program σ ε (List β)
  | [] => pure []
  | item :: rest => do
      let first ← body item
      let others ← gather body rest
      pure (first :: others)

/-- What a program that returns has added to a log. -/
def Records (entries : σ → List τ) (recorded : α → List τ → Prop) (program : Program σ ε α) :
    Prop :=
  ∀ state value final, program state = (.done value, final) →
    ∃ added, entries final = entries state ++ added ∧ recorded value added

namespace Records

variable {entries : σ → List τ} {recorded : α → List τ → Prop} {further : α → β → List τ → Prop}
  {program : Program σ ε α}

theorem mono {weaker : α → List τ → Prop} (records : Records entries recorded program)
    (weakened : ∀ value added, recorded value added → weaker value added) :
    Records entries weaker program := by
  intro state value final returned
  obtain ⟨added, grown, holds⟩ := records state value final returned
  exact ⟨added, grown, weakened value added holds⟩

/-- A program that leaves the log alone. -/
theorem of_leaves (leaves : program.Leaves entries) :
    Records entries (fun _ added => added = []) program := by
  intro state value final returned
  have same := leaves state
  rw [returned] at same
  exact ⟨[], by rw [List.append_nil, same], rfl⟩

theorem pure {value : α} (holds : recorded value []) :
    Records (ε := ε) entries recorded (Pure.pure value) := by
  intro state result final returned
  obtain ⟨rfl, rfl⟩ := pure_eq_done_iff.mp returned
  exact ⟨[], (List.append_nil _).symm, holds⟩

theorem throw (error : ε) : Records (α := α) entries recorded (Program.throw error) := by
  intro state value final returned
  cases returned

/-- The log of the rest follows the log of the first part. -/
theorem bind {next : α → Program σ ε β} (first : Records entries recorded program)
    (second : ∀ value, Records entries (further value) (next value)) :
    Records entries (fun result added => ∃ value front back,
      added = front ++ back ∧ recorded value front ∧ further value result back)
      (program >>= next) := by
  intro state result final returned
  obtain ⟨value, middle, ran, rest⟩ := bind_eq_done_iff.mp returned
  obtain ⟨front, grown, holds⟩ := first state value middle ran
  obtain ⟨back, grownAgain, holdsAgain⟩ := second value middle result final rest
  exact ⟨front ++ back, by rw [grownAgain, grown, List.append_assoc], value, front, back, rfl,
    holds, holdsAgain⟩

/-- A first part that leaves the log alone. -/
theorem after {next : α → Program σ ε β} {recorded : β → List τ → Prop}
    (leaves : program.Leaves entries) (second : ∀ value, Records entries recorded (next value)) :
    Records entries recorded (program >>= next) := by
  intro state result final returned
  obtain ⟨value, middle, ran, rest⟩ := bind_eq_done_iff.mp returned
  have same := leaves state
  rw [ran] at same
  obtain ⟨added, grown, holds⟩ := second value middle result final rest
  exact ⟨added, by rw [grown, same], holds⟩

/-- What the rounds that ask for another one pass over comes before the last round. -/
theorem repeatUntil {body : Program σ ε (Option α)} {passes : τ → Prop} {fuel : ℕ}
    (round : Records entries (fun answer added =>
      match answer with
      | none => ∀ entry ∈ added, passes entry
      | some value => recorded value added) body) :
    Records entries (fun value added => ∃ passed last,
      added = passed ++ last ∧ (∀ entry ∈ passed, passes entry) ∧ recorded value last)
      (Program.repeatUntil fuel body) := by
  induction fuel with
  | zero =>
      intro state value final returned
      cases returned
  | succ fuel induction =>
      intro state value final returned
      obtain ⟨answer, middle, ran, rest⟩ := bind_eq_done_iff.mp returned
      obtain ⟨front, grown, holds⟩ := round state answer middle ran
      cases answer with
      | some result =>
          obtain ⟨rfl, rfl⟩ := pure_eq_done_iff.mp rest
          exact ⟨front, grown, [], front, rfl, by simp, holds⟩
      | none =>
          obtain ⟨_, grownAgain, passed, last, rfl, passing, ends⟩ :=
            induction middle value final rest
          refine ⟨front ++ (passed ++ last), ?_, front ++ passed, last, ?_, ?_, ends⟩
          · rw [grownAgain, grown, List.append_assoc]
          · rw [List.append_assoc]
          · intro entry member
            rcases List.mem_append.mp member with inFront | inPassed
            · exact holds entry inFront
            · exact passing entry inPassed

/-- Attempts that put a question put it until it is answered. -/
theorem tryTimes {Question : Type} {interviewer : Interviewer Question α τ} {question : Question}
    {attempt : Program σ ε (Option α)}
    (once : Records entries (interviewer.Attempt question) attempt) (limit : ℕ) :
    Records entries (fun answer added => ∀ value, answer = some value →
      ∃ count ≤ limit, interviewer.Asked question count added value)
      (Program.tryTimes attempt limit) := by
  induction limit with
  | zero => exact pure nofun
  | succ limit induction =>
      intro state answer final returned
      obtain ⟨first, middle, ran, rest⟩ := bind_eq_done_iff.mp returned
      obtain ⟨front, grown, put⟩ := once state first middle ran
      cases first with
      | some value =>
          obtain ⟨rfl, rfl⟩ := pure_eq_done_iff.mp rest
          refine ⟨front, grown, fun other same => ?_⟩
          cases same
          exact ⟨1, Nat.succ_pos limit, .answered put⟩
      | none =>
          obtain ⟨back, grownAgain, later⟩ := induction middle answer final rest
          refine ⟨front ++ back, by rw [grownAgain, grown, List.append_assoc], fun value same => ?_⟩
          obtain ⟨count, few, asked⟩ := later value same
          exact ⟨count + 1, Nat.succ_le_succ few, .again put asked⟩

/-- What is recorded of all items is built up from what is recorded of each. -/
theorem gather {items : List ι} {body : ι → Program σ ε β} {each : ι → β → List τ → Prop}
    {all : List ι → List β → List τ → Prop}
    (step : ∀ item, Records entries (each item) (body item)) (nil : all [] [] [])
    (cons : ∀ item rest value values front back, each item value front → all rest values back →
      all (item :: rest) (value :: values) (front ++ back)) :
    Records entries (all items) (Program.gather body items) := by
  induction items with
  | nil => exact pure nil
  | cons item rest induction =>
      intro state values final returned
      obtain ⟨first, middle, ran, later⟩ := bind_eq_done_iff.mp returned
      obtain ⟨others, last, ranLater, made⟩ := bind_eq_done_iff.mp later
      obtain ⟨rfl, rfl⟩ := pure_eq_done_iff.mp made
      obtain ⟨front, grown, holds⟩ := step item state first middle ran
      obtain ⟨back, grownAgain, holdsLater⟩ := induction middle others _ ranLater
      exact ⟨front ++ back, by rw [grownAgain, grown, List.append_assoc],
        cons item rest first others front back holds holdsLater⟩

end Records

/-! ### Other judgements -/

theorem Triple.tryTimes {attempt : Program σ ε (Option α)} {invariant escape : σ → Prop}
    (once : Triple invariant attempt (fun _ => invariant) escape) (limit : ℕ) :
    Triple invariant (Program.tryTimes attempt limit) (fun _ => invariant) escape := by
  induction limit with
  | zero => exact .pure none fun _ => id
  | succ limit induction =>
      refine .bind once fun answer => ?_
      cases answer with
      | some value => exact .pure (some value) fun _ => id
      | none => exact induction

theorem Triple.gather {items : List ι} {body : ι → Program σ ε β} {invariant escape : σ → Prop}
    (step : ∀ item ∈ items, Triple invariant (body item) (fun _ => invariant) escape) :
    Triple invariant (Program.gather body items) (fun _ => invariant) escape := by
  induction items with
  | nil => exact .pure [] fun _ => id
  | cons item rest induction =>
      refine .bind (step item List.mem_cons_self) fun first => ?_
      refine .bind (induction fun other member => step other (List.mem_cons_of_mem item member)) ?_
      exact fun others => .pure (first :: others) fun _ => id

theorem Appends.tryTimes {log : σ → List τ} {attempt : Program σ ε (Option α)} {cost : ℕ}
    (once : Appends log cost attempt) (limit : ℕ) :
    Appends log (limit * cost) (Program.tryTimes attempt limit) := by
  induction limit with
  | zero => exact .pure none
  | succ limit induction =>
      have bounded : Appends log (cost + limit * cost) (Program.tryTimes attempt (limit + 1)) := by
        refine .bind once fun answer => ?_
        cases answer with
        | some value => exact .pure (some value)
        | none => exact induction
      exact bounded.mono (Nat.le_of_eq (by rw [Nat.succ_mul, Nat.add_comm]))

theorem Appends.gather {log : σ → List τ} {items : List ι} {body : ι → Program σ ε β} {cost : ℕ}
    (step : ∀ item, Appends log cost (body item)) :
    Appends log (items.length * cost) (Program.gather body items) := by
  induction items with
  | nil => exact .pure []
  | cons item rest induction =>
      have bounded : Appends log (cost + rest.length * cost) (Program.gather body (item :: rest)) :=
        .bind (step item) fun first => induction.bind_leaves fun others => .pure _
      exact bounded.mono (Nat.le_of_eq (by rw [List.length_cons, Nat.succ_mul, Nat.add_comm]))

section Tameness

variable {related : σ → σ → Prop} [IsPreorder σ related]

theorem Tame.tryTimes {attempt : ℕ → Program σ ε (Option α)} (once : Tame related attempt)
    (limit : ℕ) : Tame related fun fuel => Program.tryTimes (attempt fuel) limit := by
  induction limit with
  | zero => exact .pure none
  | succ limit induction =>
      refine .bind once fun answer => ?_
      cases answer with
      | some value => exact .pure (some value)
      | none => exact induction

theorem Tame.gather {items : List ι} {body : ℕ → ι → Program σ ε β}
    (step : ∀ item ∈ items, Tame related fun fuel => body fuel item) :
    Tame related fun fuel => Program.gather (body fuel) items := by
  induction items with
  | nil => exact .pure []
  | cons item rest induction =>
      have others := induction fun other member => step other (List.mem_cons_of_mem item member)
      exact .bind (step item List.mem_cons_self) fun first => .bind others fun others =>
        .pure (first :: others)

/-- A loop that asks for another round only before a deadline ends when the clock has passed it. -/
theorem Tame.repeatBefore {κ : Type} [LinearOrder κ] {clock : ℕ → κ} {calls : σ → ℕ} {deadline : κ}
    (monotone : Monotone clock) (passes : ∃ call, deadline ≤ clock call)
    {body : ℕ → Program σ ε (Option α)} (round : Tame related body)
    (early : ∀ fuel state final, body fuel state = (.done none, final) →
      clock (calls state) < deadline ∧ calls state < calls final) :
    Tame related fun fuel => Program.repeatUntil fuel (body fuel) := by
  obtain ⟨call, passed⟩ := passes
  apply round.repeatUntil fun state => call - calls state
  intro fuel state final again
  obtain ⟨before, more⟩ := early fuel state final again
  have below : calls state < call := by
    by_contra beyond
    exact absurd (passed.trans (monotone (not_lt.mp beyond))) (not_le.mpr before)
  omega

end Tameness

end Program

end Foundation
