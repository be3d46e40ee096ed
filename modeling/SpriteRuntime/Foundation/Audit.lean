import Mathlib.Data.List.Forall2
import SpriteRuntime.Foundation.Program

/-!
# Audits

A validator goes on after a finding, so that it reports all of them, and may still be cut short
by an exception.  An audit that ends with a value and without a finding is clean, and then so
were all of its parts.
-/

namespace Foundation

/-- A computation that may raise, and the findings that it has noted. -/
def Audit (ε ν α : Type) : Type := Except ε (α × List ν)

namespace Audit

variable {ε ν α β ι : Type}

/-- The findings of both halves, in order. -/
def andThen (audit : Audit ε ν α) (next : α → Audit ε ν β) : Audit ε ν β :=
  match audit with
  | .error error => .error error
  | .ok (value, findings) =>
      match next value with
      | .error error => .error error
      | .ok (result, more) => .ok (result, findings ++ more)

instance : Monad (Audit ε ν) where
  pure value := Except.ok (value, [])
  bind := andThen

def note (finding : ν) : Audit ε ν Unit := Except.ok ((), [finding])

/-- Note a finding when the condition holds. -/
def noteIf (condition : Prop) [Decidable condition] (finding : ν) : Audit ε ν Unit :=
  if condition then note finding else pure ()

def raise (error : ε) : Audit ε ν α := Except.error error

/-- Run the body only when the condition holds. -/
def runIf (condition : Prop) [Decidable condition] (body : Audit ε ν Unit) : Audit ε ν Unit :=
  if condition then body else pure ()

/-- A computation whose errors are not caught. -/
def ofExcept : Except ε α → Audit ε ν α
  | .ok value => pure value
  | .error error => raise error

/-- A block whose errors of some kinds become a finding. -/
def orNote (caught : ε → Bool) (finding : ν) : Except ε α → Audit ε ν (Option α)
  | .ok value => pure (some value)
  | .error error =>
      if caught error then do
        note finding
        return none
      else raise error

/-- Run the body for every item, in order, and collect the results. -/
def mapEach : List ι → (ι → Audit ε ν α) → Audit ε ν (List α)
  | [], _ => pure []
  | item :: rest, body => do
      let first ← body item
      let others ← mapEach rest body
      return first :: others

/-- Run the body for every item, in order. -/
def forEach : List ι → (ι → Audit ε ν Unit) → Audit ε ν Unit
  | [], _ => pure ()
  | item :: rest, body => do
      body item
      forEach rest body

/-- The audit ends with this value and without a finding. -/
def Clean (audit : Audit ε ν α) (value : α) : Prop := audit = Except.ok (value, [])

variable {audit : Audit ε ν α} {next : α → Audit ε ν β} {value : α} {result : β}

@[simp] theorem clean_pure_iff {other : α} :
    Clean (pure value : Audit ε ν α) other ↔ other = value := by
  constructor
  · intro clean
    cases clean
    rfl
  · rintro rfl
    rfl

theorem clean_bind_iff :
    Clean (audit >>= next) result ↔ ∃ value, Clean audit value ∧ Clean (next value) result := by
  change andThen audit next = Except.ok (result, []) ↔ _
  unfold andThen
  split
  · constructor
    · intro clean
      cases clean
    · rintro ⟨value, first, _⟩
      cases first
  · rename_i value findings
    constructor
    · intro clean
      split at clean
      · cases clean
      · rename_i other more later
        obtain ⟨rfl, empty⟩ := Prod.mk.inj (Except.ok.inj clean)
        obtain ⟨rfl, rfl⟩ := List.append_eq_nil_iff.mp empty
        exact ⟨value, rfl, later⟩
    · rintro ⟨other, first, second⟩
      cases first
      rw [Clean] at second
      rw [second]
      rfl

@[simp] theorem not_clean_note {finding : ν} {other : Unit} :
    ¬Clean (note finding : Audit ε ν Unit) other := by
  intro clean
  cases clean

@[simp] theorem not_clean_raise {error : ε} : ¬Clean (raise error : Audit ε ν α) value := by
  intro clean
  cases clean

@[simp] theorem clean_noteIf_iff {condition : Prop} [Decidable condition] {finding : ν}
    {other : Unit} : Clean (noteIf condition finding : Audit ε ν Unit) other ↔ ¬condition := by
  unfold noteIf
  split <;> simp_all

@[simp] theorem clean_runIf_iff {condition : Prop} [Decidable condition]
    {body : Audit ε ν Unit} {other : Unit} :
    Clean (runIf condition body) other ↔ (condition → Clean body ()) := by
  unfold runIf
  split <;> simp_all

@[simp] theorem clean_ofExcept_iff {computed : Except ε α} :
    Clean (ofExcept computed : Audit ε ν α) value ↔ computed = .ok value := by
  cases computed with
  | ok other => simp [ofExcept, eq_comm]
  | error error => simp [ofExcept]

/-- No error has been caught. -/
@[simp] theorem clean_orNote_iff {caught : ε → Bool} {finding : ν} {computed : Except ε α}
    {found : Option α} :
    Clean (orNote caught finding computed) found ↔
      ∃ value, computed = .ok value ∧ found = some value := by
  cases computed with
  | ok other => simp [orNote]
  | error error =>
      rw [orNote]
      split <;> simp [clean_bind_iff]

theorem clean_forEach_iff {items : List ι} {body : ι → Audit ε ν Unit} {other : Unit} :
    Clean (forEach items body) other ↔ ∀ item ∈ items, Clean (body item) () := by
  induction items with
  | nil => simp [forEach]
  | cons item rest induction =>
      rw [forEach, clean_bind_iff, List.forall_mem_cons, ← induction]
      constructor
      · rintro ⟨_, first, others⟩
        exact ⟨first, others⟩
      · rintro ⟨first, others⟩
        exact ⟨(), first, others⟩

/-- The results belong to the items, one by one. -/
theorem clean_mapEach_iff {items : List ι} {body : ι → Audit ε ν α} {results : List α} :
    Clean (mapEach items body) results ↔
      List.Forall₂ (fun item result => Clean (body item) result) items results := by
  induction items generalizing results with
  | nil => rw [mapEach, clean_pure_iff, List.forall₂_nil_left_iff]
  | cons item rest induction =>
      simp only [mapEach, clean_bind_iff, clean_pure_iff, List.forall₂_cons_left_iff, induction]
      constructor
      · rintro ⟨first, clean, others, rest, rfl⟩
        exact ⟨first, others, clean, rest, rfl⟩
      · rintro ⟨first, others, clean, rest, rfl⟩
        exact ⟨first, clean, others, rest, rfl⟩

end Audit

end Foundation
