import Mathlib.Data.Finset.Basic
import Mathlib.Data.List.Induction

/-!
# Sets that events add to and take from

What is in such a set was added by some event and by none after it taken away.  A single value
that some events replace is that of the last event that did.
-/

namespace Foundation

variable {ε α : Type}

/-- The set after some events, each of which clears some elements and sets others. -/
def latched [DecidableEq α] (sets clears : ε → Finset α) (initial : Finset α) (events : List ε) : Finset α :=
  events.foldl (fun elements event => elements \ clears event ∪ sets event) initial

/-- An event of the list holds, and nothing after it clears the element. -/
def SetSince (sets clears : ε → Finset α) (events : List ε) (element : α) : Prop :=
  ∃ before event after, events = before ++ event :: after ∧ element ∈ sets event ∧
    ∀ later ∈ after, element ∉ clears later

variable {sets clears : ε → Finset α} {element : α}

theorem setSince_cons {event : ε} {events : List ε} :
    SetSince sets clears (event :: events) element ↔
      (element ∈ sets event ∧ ∀ later ∈ events, element ∉ clears later) ∨
        SetSince sets clears events element := by
  constructor
  · rintro ⟨before, other, after, split, added, kept⟩
    cases before with
    | nil =>
        cases split
        exact .inl ⟨added, kept⟩
    | cons first before =>
        cases split
        exact .inr ⟨before, other, after, rfl, added, kept⟩
  · rintro (⟨added, kept⟩ | ⟨before, other, after, rfl, added, kept⟩)
    · exact ⟨[], event, events, rfl, added, kept⟩
    · exact ⟨event :: before, other, after, rfl, added, kept⟩

theorem mem_latched [DecidableEq α] {initial : Finset α} {events : List ε} :
    element ∈ latched sets clears initial events ↔
      (element ∈ initial ∧ ∀ event ∈ events, element ∉ clears event) ∨
        SetSince sets clears events element := by
  induction events generalizing initial with
  | nil =>
      simp [latched, SetSince]
  | cons event events induction =>
      have step : latched sets clears initial (event :: events) =
          latched sets clears (initial \ clears event ∪ sets event) events := rfl
      rw [step, induction, setSince_cons, List.forall_mem_cons, Finset.mem_union,
        Finset.mem_sdiff]
      tauto

section LastTaking

variable {takes : List α → α → Prop} {items : List α} {item next : α}

/-- The item was taken, given the items before it, and none after it was. -/
def LastTaking (takes : List α → α → Prop) (items : List α) (item : α) : Prop :=
  ∃ before after, items = before ++ item :: after ∧ takes before item ∧
    ∀ middle later rest, after = middle ++ later :: rest → ¬takes (before ++ item :: middle) later

theorem not_lastTaking_nil : ¬LastTaking takes [] item := by
  rintro ⟨before, after, split, _⟩
  cases before with
  | nil => cases split
  | cons first before => cases split

theorem lastTaking_snoc_taken (taken : takes items next) :
    LastTaking takes (items ++ [next]) item ↔ item = next := by
  constructor
  · rintro ⟨before, after, split, _, untaken⟩
    cases after using List.reverseRecOn with
    | nil => exact (List.singleton_inj.mp (List.append_inj' split rfl).2).symm
    | append_singleton middle last =>
        have parts : items ++ [next] = (before ++ item :: middle) ++ [last] := by simp [split]
        obtain ⟨front, back⟩ := List.append_inj' parts rfl
        cases back
        exact absurd (front ▸ taken) (untaken middle next [] rfl)
  · rintro rfl
    refine ⟨items, [], rfl, taken, ?_⟩
    intro middle later rest split
    cases middle with
    | nil => cases split
    | cons first middle => cases split

theorem lastTaking_snoc_untaken (untaken : ¬takes items next) :
    LastTaking takes (items ++ [next]) item ↔ LastTaking takes items item := by
  constructor
  · rintro ⟨before, after, split, taken, quiet⟩
    cases after using List.reverseRecOn with
    | nil =>
        obtain ⟨rfl, back⟩ := List.append_inj' split rfl
        cases back
        exact absurd taken untaken
    | append_singleton middle last =>
        have parts : items ++ [next] = (before ++ item :: middle) ++ [last] := by simp [split]
        obtain ⟨front, back⟩ := List.append_inj' parts rfl
        refine ⟨before, middle, front, taken, ?_⟩
        intro inner later rest inside
        exact quiet inner later (rest ++ [last]) (by simp [inside])
  · rintro ⟨before, after, rfl, taken, quiet⟩
    refine ⟨before, after ++ [next], by simp, taken, ?_⟩
    intro middle later rest split
    cases rest using List.reverseRecOn with
    | nil =>
        obtain ⟨rfl, back⟩ := List.append_inj' split rfl
        cases back
        exact untaken
    | append_singleton rest last =>
        have parts : after ++ [next] = (middle ++ later :: rest) ++ [last] := by simp [split]
        obtain ⟨front, _⟩ := List.append_inj' parts rfl
        exact quiet middle later rest front

end LastTaking

end Foundation
