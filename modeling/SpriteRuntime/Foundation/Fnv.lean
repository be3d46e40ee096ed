import Mathlib.Algebra.Group.Nat.Defs
import Mathlib.Data.List.Basic

/-!
# The FNV-1a hash

The hash folds bytes into a word of 64 bits.  It is written here on machine words and on natural
numbers modulo `2 ^ 64`.  A list of byte strings is hashed as one stream, with a terminator
behind each of them, and the stream determines the list.
-/

namespace Foundation

def fnvOffset : UInt64 := 0xCBF29CE484222325

def fnvPrime : UInt64 := 0x100000001B3

def fnvStep (hash : UInt64) (byte : UInt8) : UInt64 := (hash ^^^ byte.toUInt64) * fnvPrime

/-- The hash goes on from a value over some bytes. -/
def fnvFrom (hash : UInt64) (bytes : List UInt8) : UInt64 := bytes.foldl fnvStep hash

/-- FNV-1a modulo `2 ^ 64`, in natural numbers. -/
def fnv1a (bytes : List UInt8) : ℕ :=
  bytes.foldl (fun hash byte => ((hash ^^^ byte.toNat) * 0x100000001B3) % 2 ^ 64)
    0xCBF29CE484222325

theorem fnvFrom_append (hash : UInt64) (front back : List UInt8) :
    fnvFrom hash (front ++ back) = fnvFrom (fnvFrom hash front) back :=
  List.foldl_append

/-- A zero byte only multiplies. -/
theorem fnvStep_zero (hash : UInt64) : fnvStep hash 0 = hash * fnvPrime := by
  simp [fnvStep]

theorem toNat_fnvStep (hash : UInt64) (byte : UInt8) :
    (fnvStep hash byte).toNat = ((hash.toNat ^^^ byte.toNat) * 0x100000001B3) % 2 ^ 64 := by
  rw [fnvStep, UInt64.toNat_mul, UInt64.toNat_xor]
  rfl

theorem toNat_fnvFrom (hash : UInt64) (bytes : List UInt8) :
    (fnvFrom hash bytes).toNat =
      bytes.foldl (fun hash byte => ((hash ^^^ byte.toNat) * 0x100000001B3) % 2 ^ 64)
        hash.toNat := by
  induction bytes generalizing hash with
  | nil => rfl
  | cons byte rest induction =>
      rw [List.foldl_cons, ← toNat_fnvStep]
      exact induction (fnvStep hash byte)

/-- Words and natural numbers give the same hash. -/
theorem toNat_fnvFrom_offset (bytes : List UInt8) :
    (fnvFrom fnvOffset bytes).toNat = fnv1a bytes :=
  toNat_fnvFrom fnvOffset bytes

section Terminated

variable {α : Type} {terminator : α}

/-- The strings behind each other, each with the terminator. -/
def terminated (terminator : α) (strings : List (List α)) : List α :=
  strings.flatMap fun string => string ++ [terminator]

@[simp] theorem terminated_cons (string : List α) (rest : List (List α)) :
    terminated terminator (string :: rest) =
      string ++ terminator :: terminated terminator rest := by
  simp [terminated]

/-- The first terminator ends the first string. -/
theorem append_terminator_inj {front other back otherBack : List α}
    (frontFree : terminator ∉ front) (otherFree : terminator ∉ other)
    (same : front ++ terminator :: back = other ++ terminator :: otherBack) :
    front = other ∧ back = otherBack := by
  induction front generalizing other with
  | nil =>
      cases other with
      | nil => exact ⟨rfl, (List.cons.inj same).2⟩
      | cons item other => exact absurd (List.cons.inj same).1 fun first => otherFree (by simp [first])
  | cons item front induction =>
      cases other with
      | nil => exact absurd (List.cons.inj same).1 fun first => frontFree (by simp [first])
      | cons otherItem other =>
          obtain ⟨rfl, rest⟩ := List.cons.inj same
          obtain ⟨rfl, after⟩ := induction (fun member => frontFree (List.mem_cons_of_mem _ member))
            (fun member => otherFree (List.mem_cons_of_mem _ member)) rest
          exact ⟨rfl, after⟩

/-- The stream determines the strings, if none holds the terminator. -/
theorem terminated_injective {first second : List (List α)}
    (firstFree : ∀ string ∈ first, terminator ∉ string)
    (secondFree : ∀ string ∈ second, terminator ∉ string)
    (same : terminated terminator first = terminated terminator second) : first = second := by
  induction first generalizing second with
  | nil =>
      cases second with
      | nil => rfl
      | cons string rest =>
          rw [terminated_cons] at same
          exact absurd same.symm (by simp [terminated])
  | cons string rest induction =>
      cases second with
      | nil =>
          rw [terminated_cons] at same
          exact absurd same (by simp [terminated])
      | cons other otherRest =>
          rw [terminated_cons, terminated_cons] at same
          obtain ⟨rfl, after⟩ := append_terminator_inj (firstFree string (by simp))
            (secondFree other (by simp)) same
          have tails := induction (fun item member => firstFree item (by simp [member]))
            (fun item member => secondFree item (by simp [member])) after
          rw [tails]

end Terminated

end Foundation
