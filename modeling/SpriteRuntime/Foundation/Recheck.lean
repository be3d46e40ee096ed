import SpriteRuntime.Foundation.Log

/-!
# Checks between a computation and a commitment

A loop computes a value, measures again whether the value may still be used, and commits to
it.  The log of the loop tells the three apart.
-/

namespace Foundation

/-- How the entries of a log are read. -/
structure Recheck (τ α ρ β : Type) where
  computed? : τ → Option α
  measured? : τ → Option ρ
  committed? : τ → Option β

namespace Recheck

variable {τ α ρ β : Type} (recheck : Recheck τ α ρ β)

/-- A computation starts a section of the log. -/
def starts (entry : τ) : Bool := (recheck.computed? entry).isSome

/-- The last value that was computed; nothing was committed to since. -/
structure Pending (log : List τ) (value : α) : Prop where
  computed : latest recheck.computed? log = some value
  uncommitted : ∀ entry ∈ since recheck.starts log, recheck.committed? entry = none

/-- A pending value with the last measure since it was computed. -/
structure Measured (log : List τ) (value : α) (measure : ρ) : Prop
    extends Pending recheck log value where
  measured : latest recheck.measured? (since recheck.starts log) = some measure

/-- A commitment comes from the pending value and what was measured since. -/
def Reason (allows : α → ρ → β → Prop) (before : List τ) (item : β) : Prop :=
  ∃ value measure, recheck.Measured before value measure ∧ allows value measure item

/-- Neither a computation nor a commitment. -/
structure Continues (entry : τ) : Prop where
  computed : recheck.computed? entry = none
  committed : recheck.committed? entry = none

variable {recheck} {log suffix : List τ} {entry : τ} {value : α} {measure : ρ}

theorem Continues.starts (continues : recheck.Continues entry) : recheck.starts entry = false := by
  rw [Recheck.starts, continues.computed]
  rfl

theorem pending_concat (computed : recheck.computed? entry = some value) :
    recheck.Pending (log ++ [entry]) value := by
  have first : recheck.starts entry = true := by
    rw [Recheck.starts, computed]
    rfl
  constructor
  · rw [latest_concat, computed]
    rfl
  · rw [since_concat, if_pos first]
    intro other member
    cases member

/-- What follows leaves a value pending. -/
theorem Pending.append (pending : recheck.Pending log value)
    (continues : ∀ entry ∈ suffix, recheck.Continues entry) :
    recheck.Pending (log ++ suffix) value := by
  constructor
  · rw [latest_append_of_none log fun entry member => (continues entry member).computed]
    exact pending.computed
  · rw [since_append log fun entry member => (continues entry member).starts]
    intro entry member
    rcases List.mem_append.mp member with earlier | later
    · exact pending.uncommitted entry earlier
    · exact (continues entry later).committed

theorem Pending.measured (pending : recheck.Pending log value)
    (continues : recheck.Continues entry) (found : recheck.measured? entry = some measure) :
    recheck.Measured (log ++ [entry]) value measure := by
  have follows : ∀ other ∈ [entry], recheck.Continues other := by
    intro other member
    rw [List.mem_singleton.mp member]
    exact continues
  refine { pending.append follows with measured := ?_ }
  rw [since_append log fun other member => (follows other member).starts, latest_concat, found]
  rfl

end Recheck

end Foundation
