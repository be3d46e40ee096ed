import Mathlib.Data.List.Induction
import SpriteRuntime.Foundation.Program

/-!
# Append-only logs

A program that keeps a log in its state explains itself entry by entry:
`Justified` says that every entry of a log has its reason in the entries before
it, and `Emits` that a program only appends entries of some kind.
-/

namespace Foundation

section Logs

variable {τ α : Type}

/-- Every entry has its reason in what was logged before it. -/
def Justified (reason : List τ → τ → Prop) (log : List τ) : Prop :=
  ∀ before entry after, log = before ++ entry :: after → reason before entry

namespace Justified

variable {reason : List τ → τ → Prop} {log : List τ}

theorem nil : Justified reason [] := by
  intro before entry after split
  cases before <;> cases split

theorem concat {entry : τ} (justified : Justified reason log)
    (reasoned : reason log entry) : Justified reason (log ++ [entry]) := by
  intro before other after split
  rcases List.eq_nil_or_concat after with rfl | ⟨middle, last, rfl⟩
  · obtain ⟨rfl, same⟩ := List.append_inj' split rfl
    cases same
    exact reasoned
  · have regrouped : log ++ [entry] = (before ++ other :: middle) ++ [last] := by
      simpa using split
    obtain ⟨rfl, _⟩ := List.append_inj' regrouped rfl
    exact justified before other middle rfl

/-- A justified log may grow by entries that have their reasons in turn. -/
theorem append {suffix : List τ} (justified : Justified reason log)
    (reasoned : ∀ before entry after, suffix = before ++ entry :: after →
      reason (log ++ before) entry) :
    Justified reason (log ++ suffix) := by
  induction suffix using List.reverseRecOn with
  | nil => simpa using justified
  | append_singleton suffix entry induction =>
      rw [← List.append_assoc]
      apply concat
      · apply induction
        intro before other after split
        exact reasoned before other (after ++ [entry]) (by simp [split])
      · exact reasoned suffix entry [] rfl

/-- Entries that need no reason may follow. -/
theorem append_unreasoned {suffix : List τ} (justified : Justified reason log)
    (unreasoned : ∀ entry ∈ suffix, ∀ before, reason before entry) :
    Justified reason (log ++ suffix) :=
  justified.append fun before entry after split =>
    unreasoned entry (by simp [split]) (log ++ before)

end Justified

/-- The entries of a kind, with what they carry. -/
def picked (select : τ → Option α) (log : List τ) : List α := log.filterMap select

section Picked

variable (select : τ → Option α) (entry : τ) (log other : List τ)

@[simp] theorem picked_nil : picked select [] = [] := rfl

@[simp] theorem picked_cons :
    picked select (entry :: log) = (select entry).toList ++ picked select log := by
  unfold picked
  cases chosen : select entry <;> simp [chosen]

@[simp] theorem picked_append :
    picked select (log ++ other) = picked select log ++ picked select other :=
  List.filterMap_append

theorem mem_picked {value : α} :
    value ∈ picked select log ↔ ∃ entry ∈ log, select entry = some value :=
  List.mem_filterMap

end Picked

/-- The last entry of a kind. -/
def latest (select : τ → Option α) (log : List τ) : Option α :=
  (log.filterMap select).getLast?

@[simp] theorem latest_concat (select : τ → Option α) (log : List τ) (entry : τ) :
    latest select (log ++ [entry]) = (select entry).or (latest select log) := by
  unfold latest
  cases chosen : select entry <;> simp [chosen]

theorem latest_append_of_none {select : τ → Option α} (log : List τ) {suffix : List τ}
    (absent : ∀ entry ∈ suffix, select entry = none) :
    latest select (log ++ suffix) = latest select log := by
  unfold latest
  rw [List.filterMap_append, List.filterMap_eq_nil_iff.mpr absent, List.append_nil]

theorem mem_of_latest {select : τ → Option α} {log : List τ} {value : α}
    (found : latest select log = some value) :
    ∃ entry ∈ log, select entry = some value := by
  have member := List.mem_of_getLast? found
  exact List.mem_filterMap.mp member

theorem latest_isSome {select : τ → Option α} {log : List τ} {entry : τ} {value : α}
    (member : entry ∈ log) (chosen : select entry = some value) :
    ∃ last, latest select log = some last := by
  have some : log.filterMap select ≠ [] :=
    List.ne_nil_of_mem (List.mem_filterMap.mpr ⟨entry, member, chosen⟩)
  exact ⟨_, List.getLast?_eq_some_getLast some⟩

/-- What was logged since the last entry that starts a section. -/
def since (starts : τ → Bool) (log : List τ) : List τ :=
  (log.reverse.takeWhile fun entry => !starts entry).reverse

theorem since_concat (starts : τ → Bool) (log : List τ) (entry : τ) :
    since starts (log ++ [entry]) =
      if starts entry then [] else since starts log ++ [entry] := by
  unfold since
  cases first : starts entry <;> simp [first]

/-- Entries that start nothing belong to the section before them. -/
theorem since_append {starts : τ → Bool} (log : List τ) {suffix : List τ}
    (continues : ∀ entry ∈ suffix, starts entry = false) :
    since starts (log ++ suffix) = since starts log ++ suffix := by
  induction suffix using List.reverseRecOn with
  | nil => simp
  | append_singleton suffix entry induction =>
      rw [← List.append_assoc, since_concat, if_neg (by simp [continues entry]),
        induction fun other member => continues other (by simp [member]), List.append_assoc]

end Logs

/-- The log only grows, and only by allowed entries. -/
def Extends {σ τ : Type} (log : σ → List τ) (allowed : τ → Prop)
    (first last : σ) : Prop :=
  ∃ suffix, log last = log first ++ suffix ∧ ∀ entry ∈ suffix, allowed entry

theorem Extends.of_eq {σ τ : Type} {log : σ → List τ} {allowed : τ → Prop}
    {first last : σ} (same : log last = log first) : Extends log allowed first last :=
  ⟨[], by simp [same], by simp⟩

theorem Extends.mono {σ τ : Type} {log : σ → List τ} {allowed allowed' : τ → Prop} {first last : σ}
    (extended : Extends log allowed first last)
    (weaker : ∀ entry, allowed entry → allowed' entry) : Extends log allowed' first last := by
  obtain ⟨suffix, grown, entries⟩ := extended
  exact ⟨suffix, grown, fun entry member => weaker entry (entries entry member)⟩

instance {σ τ : Type} (log : σ → List τ) (allowed : τ → Prop) :
    IsPreorder σ (Extends log allowed) where
  refl state := ⟨[], by simp, by simp⟩
  trans first middle last := by
    rintro ⟨left, grown, leftAllowed⟩ ⟨right, grownAgain, rightAllowed⟩
    refine ⟨left ++ right, ?_, ?_⟩
    · rw [grownAgain, grown, List.append_assoc]
    · intro entry member
      rcases List.mem_append.mp member with inLeft | inRight
      · exact leftAllowed entry inLeft
      · exact rightAllowed entry inRight

/-- The program only appends to the log, and only allowed entries. -/
abbrev Program.Emits {σ ε α τ : Type} (log : σ → List τ) (allowed : τ → Prop)
    (program : Program σ ε α) : Prop :=
  Program.Respects (Extends log allowed) program

namespace Program.Emits

variable {σ ε α τ : Type} {log : σ → List τ} {allowed allowed' : τ → Prop}

theorem mono {program : Program σ ε α} (emits : Emits log allowed program)
    (weaker : ∀ entry, allowed entry → allowed' entry) :
    Emits log allowed' program :=
  fun state => (emits state).mono weaker

end Program.Emits

end Foundation
