import Mathlib.Tactic.Ring
import SpriteRuntime.Foundation.Numerals
import SpriteRuntime.Foundation.Program

/-!
# Updates in place

A loop changes the records of a list one after the other, and an exception leaves those that it
has already changed as they are.  Such a loop is all or nothing only when what it did before the
exception changed nothing.
-/

namespace Foundation

namespace Program

variable {κ ρ ε : Type}

/-- Run the body on every record in its place, and count. -/
def updateEach (increment : ℤ) (body : κ → Program ρ ε Unit) :
    ℤ → List (κ × ρ) → Outcome ε ℤ × List (κ × ρ)
  | updated, [] => (.done updated, [])
  | updated, (key, record) :: rest =>
      match body key record with
      | (.done (), changed) =>
          let (outcome, others) := updateEach increment body (updated + increment) rest
          (outcome, (key, changed) :: others)
      | (.thrown error, changed) => (.thrown error, (key, changed) :: rest)
      | (.unfinished, changed) => (.unfinished, (key, changed) :: rest)

end Program

variable {κ ρ ε : Type}

/-- What a body does to a record: it goes through on the admissible ones, and the others end in an
exception.  A record that already holds the new values stays as it is, and so does a record that
the body leaves alone before the exception. -/
structure UpdateLaw (body : κ → Program ρ ε Unit) (written : κ → ρ → ρ)
    (Admissible Held Kept : κ × ρ → Prop) : Prop where
  through : ∀ entry, Admissible entry →
    body entry.1 entry.2 = (.done (), written entry.1 entry.2)
  held : ∀ entry, Admissible entry → (written entry.1 entry.2 = entry.2 ↔ Held entry)
  stops : ∀ entry, ¬Admissible entry → ∃ error changed,
    body entry.1 entry.2 = (.thrown error, changed) ∧ (changed = entry.2 ↔ Kept entry)

/-- The first record that stops the loop comes after records that hold their new values. -/
def StopsUnchanged (Admissible Held Kept : κ × ρ → Prop) (entries : List (κ × ρ)) : Prop :=
  ∃ before stopping after, entries = before ++ stopping :: after ∧
    (∀ entry ∈ before, Admissible entry ∧ Held entry) ∧ ¬Admissible stopping ∧ Kept stopping

section Loop

variable {Admissible Held Kept : κ × ρ → Prop} {entry : κ × ρ} {rest entries : List (κ × ρ)}

theorem stopsUnchanged_of_stop (stop : ¬Admissible entry) :
    StopsUnchanged Admissible Held Kept (entry :: rest) ↔ Kept entry := by
  constructor
  · rintro ⟨before, stopping, after, split, fine, -, kept⟩
    cases before with
    | nil =>
        cases split
        exact kept
    | cons first others =>
        cases split
        exact absurd (fine entry List.mem_cons_self).1 stop
  · intro kept
    exact ⟨[], entry, rest, rfl, by simp, stop, kept⟩

theorem stopsUnchanged_of_through (through : Admissible entry) :
    StopsUnchanged Admissible Held Kept (entry :: rest) ↔
      Held entry ∧ StopsUnchanged Admissible Held Kept rest := by
  constructor
  · rintro ⟨before, stopping, after, split, fine, stop, kept⟩
    cases before with
    | nil =>
        cases split
        exact absurd through stop
    | cons first others =>
        cases split
        obtain ⟨here, later⟩ := List.forall_mem_cons.mp fine
        exact ⟨here.2, others, stopping, after, rfl, later, stop, kept⟩
  · rintro ⟨held, before, stopping, after, rfl, fine, stop, kept⟩
    exact ⟨entry :: before, stopping, after, rfl,
      List.forall_mem_cons.mpr ⟨⟨through, held⟩, fine⟩, stop, kept⟩

namespace UpdateLaw

variable {increment updated : ℤ} {body : κ → Program ρ ε Unit} {written : κ → ρ → ρ}

/-- When every record is admissible, all of them are written and counted. -/
theorem updateEach_done (law : UpdateLaw body written Admissible Held Kept)
    (admissible : ∀ entry ∈ entries, Admissible entry) :
    Program.updateEach increment body updated entries =
      (.done (updated + increment * entries.length),
        entries.map fun entry => (entry.1, written entry.1 entry.2)) := by
  induction entries generalizing updated with
  | nil => simp [Program.updateEach]
  | cons entry rest ih =>
      obtain ⟨here, later⟩ := List.forall_mem_cons.mp admissible
      have count : updated + increment + increment * rest.length =
          updated + increment * (entry :: rest).length := by
        rw [List.length_cons]
        push_cast
        ring
      rw [Program.updateEach, law.through entry here]
      simp only [ih later, count, List.map_cons]

/-- Otherwise an exception leaves the records as they were when it stops unchanged. -/
theorem updateEach_thrown (law : UpdateLaw body written Admissible Held Kept)
    (stuck : ¬∀ entry ∈ entries, Admissible entry) :
    ∃ error final, Program.updateEach increment body updated entries = (.thrown error, final) ∧
      (final = entries ↔ StopsUnchanged Admissible Held Kept entries) := by
  induction entries generalizing updated with
  | nil => exact absurd (by simp) stuck
  | cons entry rest ih =>
      obtain ⟨key, record⟩ := entry
      rw [Program.updateEach]
      by_cases here : Admissible (key, record)
      · have later : ¬∀ entry ∈ rest, Admissible entry :=
          fun others => stuck (List.forall_mem_cons.mpr ⟨here, others⟩)
        obtain ⟨error, final, run, same⟩ := @ih (updated + increment) later
        refine ⟨error, (key, written key record) :: final, ?_, ?_⟩
        · rw [law.through (key, record) here]
          simp only [run]
        · rw [stopsUnchanged_of_through here, ← same, ← law.held (key, record) here]
          simp
      · obtain ⟨error, changed, run, same⟩ := law.stops (key, record) here
        refine ⟨error, (key, changed) :: rest, ?_, ?_⟩
        · rw [run]
        · rw [stopsUnchanged_of_stop here, ← same]
          simp

end UpdateLaw

end Loop

end Foundation
