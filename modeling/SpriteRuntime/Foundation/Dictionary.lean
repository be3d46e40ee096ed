import Mathlib.Algebra.BigOperators.Group.List.Basic
import Mathlib.Data.Fin.VecNotation
import Mathlib.Data.List.Dedup
import SpriteRuntime.Foundation.Program

/-!
# Dictionaries and vectors of fallible entries

A dictionary is the list of the assignments that made it; of several assignments to one
key the last one counts.
-/

namespace Foundation

variable {ε α β : Type}

/-! ## Fallible entries -/

/-- All entries of a vector, or the error of the first one that has none. -/
def collect : {n : ℕ} → (Fin n → Except ε α) → Except ε (Fin n → α)
  | 0, _ => .ok Fin.elim0
  | _ + 1, entry => do
      let first ← entry 0
      let rest ← collect fun index => entry index.succ
      return Fin.cons first rest

theorem collect_eq_ok {n : ℕ} {entry : Fin n → Except ε α} {vector : Fin n → α} :
    collect entry = .ok vector ↔ ∀ index, entry index = .ok (vector index) := by
  induction n with
  | zero =>
      constructor
      · exact fun _ index => index.elim0
      · exact fun _ => congrArg Except.ok (funext fun index => index.elim0)
  | succ n induction =>
      simp only [collect, except_bind_eq_ok, induction, Fin.forall_fin_succ]
      constructor
      · rintro ⟨first, found, rest, others, same⟩
        cases same
        exact ⟨found, others⟩
      · rintro ⟨found, others⟩
        refine ⟨vector 0, found, fun index => vector index.succ, others, ?_⟩
        exact congrArg Except.ok (Fin.cons_self_tail vector)

/-- A list of fallible entries none of which fails. -/
theorem mapM_eq_ok {items : List β} {entry : β → Except ε α} {value : β → α}
    (found : ∀ item ∈ items, entry item = .ok (value item)) :
    items.mapM entry = .ok (items.map value) := by
  induction items with
  | nil => rfl
  | cons item rest induction =>
      have others := induction fun other member => found other (by simp [member])
      rw [List.mapM_cons, found item (by simp), others]
      rfl

theorem exists_of_mapM_eq_ok {items : List β} {entry : β → Except ε α} {values : List α}
    (found : items.mapM entry = .ok values) {item : β} (member : item ∈ items) :
    ∃ value, entry item = .ok value := by
  induction items generalizing values with
  | nil => cases member
  | cons first rest induction =>
      rw [List.mapM_cons] at found
      obtain ⟨value, here, others⟩ := except_bind_eq_ok.mp found
      obtain ⟨remaining, later, _⟩ := except_bind_eq_ok.mp others
      rcases List.mem_cons.mp member with rfl | inRest
      · exact ⟨value, here⟩
      · exact induction later inRest

theorem mem_of_mapM_eq_ok {items : List β} {entry : β → Except ε α} {values : List α}
    (found : items.mapM entry = .ok values) {value : α} :
    value ∈ values ↔ ∃ item ∈ items, entry item = .ok value := by
  induction items generalizing values with
  | nil =>
      obtain rfl : [] = values := Except.ok.inj found
      simp
  | cons first rest induction =>
      rw [List.mapM_cons] at found
      obtain ⟨head, here, others⟩ := except_bind_eq_ok.mp found
      obtain ⟨remaining, later, made⟩ := except_bind_eq_ok.mp others
      obtain rfl : head :: remaining = values := Except.ok.inj made
      simp only [List.mem_cons, induction later, exists_eq_or_imp, here, Except.ok.injEq,
        eq_comm (a := value)]

/-- What every round of a loop keeps holds at its end. -/
theorem foldlM_keeps {items : List α} {step : β → α → Except ε β} {invariant : β → Prop}
    (keeps : ∀ state item next, invariant state → step state item = .ok next → invariant next)
    {start final : β} (holds : invariant start) (ran : items.foldlM step start = .ok final) :
    invariant final := by
  induction items generalizing start with
  | nil =>
      cases ran
      exact holds
  | cons item rest induction =>
      rw [List.foldlM_cons] at ran
      obtain ⟨next, round, others⟩ := except_bind_eq_ok.mp ran
      exact induction (keeps start item next holds round) others

/-- A result that passes a test is there and has the property tested. -/
theorem exists_ok_of_any {result : Except ε α} {holds : α → Prop} [DecidablePred holds]
    (tested : (result.toOption.any fun value => holds value) = true) :
    ∃ value, result = .ok value ∧ holds value := by
  cases result with
  | error error => cases tested
  | ok value => exact ⟨value, rfl, of_decide_eq_true tested⟩

/-- In a list with every key once, a sum over one key is one entry. -/
theorem sum_map_ite_key {κ γ : Type} [DecidableEq κ] [AddMonoid γ] {items : List β} {key : β → κ}
    (distinct : (items.map key).Nodup) {item : β} (member : item ∈ items) (value : β → γ) :
    (items.map fun other => if key other = key item then value other else 0).sum =
      value item := by
  induction items with
  | nil => cases member
  | cons first rest induction =>
      obtain ⟨fresh, others⟩ := List.nodup_cons.mp distinct
      rw [List.map_cons, List.sum_cons]
      rcases List.mem_cons.mp member with rfl | inRest
      · have none : (rest.map fun other => if key other = key item then value other else 0).sum =
            0 := by
          apply List.sum_eq_zero
          intro summand inSum
          obtain ⟨other, here, rfl⟩ := List.mem_map.mp inSum
          rw [if_neg]
          intro same
          exact fresh (same ▸ List.mem_map_of_mem here)
        rw [if_pos rfl, none, add_zero]
      · have different : key first ≠ key item :=
          fun same => fresh (same ▸ List.mem_map_of_mem inRest)
        rw [if_neg different, zero_add, induction others inRest]

/-! ## Dictionaries -/

/-- The assignments that made a dictionary. -/
abbrev Dictionary (α : Type) : Type := List (String × α)

namespace Dictionary

variable (dictionary : Dictionary α) {key : String} {value : α}

def keys : List String := dictionary.map Prod.fst

/-- `len`. -/
def size : ℕ := dictionary.keys.dedup.length

/-- The last assignment to a key. -/
def get? (key : String) : Option α := dictionary.reverse.lookup key

/-- `dictionary[key]`, with the text of a `KeyError`. -/
def item (key : String) : Except String α :=
  match dictionary.get? key with
  | some value => .ok value
  | none => .error ("'" ++ key ++ "'")

/-- The same keys with other values. -/
def mapValues (change : α → β) : Dictionary β :=
  dictionary.map fun entry => (entry.1, change entry.2)

variable {dictionary}

@[simp] theorem keys_mapValues (change : α → β) :
    (dictionary.mapValues change).keys = dictionary.keys := by
  simp [mapValues, keys]

theorem get?_mapValues (change : α → β) (key : String) :
    (dictionary.mapValues change).get? key = (dictionary.get? key).map change := by
  unfold get? mapValues
  rw [← List.map_reverse]
  induction dictionary.reverse with
  | nil => rfl
  | cons entry rest induction =>
      rw [List.map_cons, List.lookup_cons, List.lookup_cons, induction]
      split <;> rfl

/-- A dictionary that is as long as the list of its assignments has no key twice. -/
theorem size_eq_length_iff : dictionary.size = dictionary.length ↔ dictionary.keys.Nodup := by
  have length : dictionary.length = dictionary.keys.length := by simp [keys]
  rw [size, length]
  constructor
  · intro same
    have unchanged := (List.dedup_sublist dictionary.keys).eq_of_length same
    exact List.dedup_eq_self.mp unchanged
  · intro distinct
    rw [distinct.dedup]

theorem get?_eq_none (absent : key ∉ dictionary.keys) : dictionary.get? key = none := by
  unfold get?
  rw [List.lookup_eq_none_iff]
  rintro ⟨other, value⟩ member
  rw [List.mem_reverse] at member
  have different : key ≠ other := by
    rintro rfl
    exact absent (List.mem_map_of_mem (f := Prod.fst) member)
  simpa using different

theorem exists_get? (present : key ∈ dictionary.keys) : ∃ value, dictionary.get? key = some value := by
  cases found : dictionary.get? key with
  | some value => exact ⟨value, rfl⟩
  | none =>
      unfold get? at found
      rw [List.lookup_eq_none_iff] at found
      obtain ⟨⟨other, value⟩, member, rfl⟩ := List.mem_map.mp present
      have different := found _ (List.mem_reverse.mpr member)
      simp at different

/-- What a key without a second assignment is assigned. -/
theorem get?_eq_some (distinct : dictionary.keys.Nodup) (member : (key, value) ∈ dictionary) :
    dictionary.get? key = some value := by
  unfold get?
  rw [List.lookup_eq_some_iff]
  obtain ⟨before, after, rfl⟩ := List.append_of_mem member
  refine ⟨after.reverse, before.reverse, by simp, ?_⟩
  rintro ⟨other, found⟩ later
  rw [List.mem_reverse] at later
  have different : key ≠ other := by
    rintro rfl
    simp only [keys, List.map_append, List.map_cons] at distinct
    have apart := (List.nodup_cons.mp (List.nodup_append.mp distinct).2.1).1
    exact apart (List.mem_map_of_mem (f := Prod.fst) later)
  simpa using different

theorem item_eq_ok_iff {key : String} : dictionary.item key = .ok value ↔
    dictionary.get? key = some value := by
  unfold item
  cases dictionary.get? key <;> simp

/-- The entries with some keys. -/
theorem get?_filter (keep : String → Prop) [DecidablePred keep] (key : String) :
    get? (dictionary.filter fun entry => keep entry.1) key =
      if keep key then dictionary.get? key else none := by
  unfold get?
  rw [← List.filter_reverse]
  induction dictionary.reverse with
  | nil => simp
  | cons entry rest induction =>
      obtain ⟨name, value⟩ := entry
      rw [List.filter_cons, List.lookup_cons]
      by_cases same : key = name
      · by_cases kept : keep key
        · simp [← same, kept]
        · simp [← same, kept, induction]
      · by_cases kept : keep name
        · simp [kept, List.lookup_cons, beq_false_of_ne same, induction]
        · simp [kept, beq_false_of_ne same, induction]

theorem mem_keys : key ∈ dictionary.keys ↔ ∃ value, (key, value) ∈ dictionary := by
  simp [keys]

end Dictionary

end Foundation
