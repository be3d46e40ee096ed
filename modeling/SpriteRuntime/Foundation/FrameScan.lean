import Mathlib.Data.List.Basic
import Mathlib.Tactic.Common

/-!
# Scanning a stream for frames

A frame begins with two fixed symbols and a third one that gives its length.  `scan` takes
the frames out of a stream from left to right: a header whose frame is refused is passed
over by one symbol, and the scan stops at a header whose frame is not complete.
-/

namespace Foundation

/-- How frames look and which of them are accepted. -/
structure FrameFormat (β α : Type) where
  first : β
  second : β
  lengthOf : β → ℕ
  minimum : ℕ
  maximum : ℕ
  accept : List β → Option α
  header_le : 3 ≤ minimum
  minimum_le : minimum ≤ maximum

/-- The accepted frames, each with the number of symbols from its first one to the end of the
stream, the number of refused headers, and what is left of the stream. -/
@[ext] structure ScanResult (β α : Type) where
  found : List (ℕ × α)
  rejected : ℕ
  rest : List β

namespace ScanResult

variable {β α : Type} (result : ScanResult β α)

def stop (rest : List β) : ScanResult β α := ⟨[], 0, rest⟩

def reject : ScanResult β α := ⟨result.found, result.rejected + 1, result.rest⟩

def accept (place : ℕ) (packet : α) : ScanResult β α :=
  ⟨(place, packet) :: result.found, result.rejected, result.rest⟩

/-- The result on a stream, with `count` symbols behind it, and on what follows. -/
def append (count : ℕ) (next : ScanResult β α) : ScanResult β α :=
  ⟨result.found.map (fun entry => (entry.1 + count, entry.2)) ++ next.found,
    result.rejected + next.rejected, next.rest⟩

variable (count : ℕ) (next : ScanResult β α)

@[simp] theorem stop_append (rest : List β) : (stop rest).append count next = next := by
  simp [stop, append]

@[simp] theorem stop_rest (rest : List β) : (stop rest : ScanResult β α).rest = rest := rfl

@[simp] theorem reject_rest : result.reject.rest = result.rest := rfl

@[simp] theorem accept_rest (place : ℕ) (packet : α) :
    (result.accept place packet).rest = result.rest := rfl

@[simp] theorem reject_append : result.reject.append count next =
    (result.append count next).reject := by
  simp [reject, append, Nat.add_right_comm]

@[simp] theorem accept_append (place : ℕ) (packet : α) :
    (result.accept place packet).append count next =
      (result.append count next).accept (place + count) packet := by
  simp [accept, append]

end ScanResult

namespace FrameFormat

variable {β α : Type} (format : FrameFormat β α)

/-- The length is that of a frame. -/
def Admissible (length : ℕ) : Prop := format.minimum ≤ length ∧ length ≤ format.maximum

instance (length : ℕ) : Decidable (format.Admissible length) :=
  inferInstanceAs (Decidable (_ ∧ _))

/-- What becomes of the frame that a header begins. -/
inductive Verdict (α : Type) where
  | incomplete
  | refused
  | accepted (length : ℕ) (packet : α)

/-- The frame at the front of the stream is the one of the length that the header gives. -/
def verdict : List β → Verdict α
  | first :: second :: third :: tail =>
      let length := format.lengthOf third
      if ¬format.Admissible length then .refused
      else if tail.length + 3 < length then .incomplete
      else
        match format.accept ((first :: second :: third :: tail).take length) with
        | some packet => .accepted length packet
        | none => .refused
  | _ => .incomplete

section Verdicts

variable {format} {first second third : β} {tail : List β}

theorem verdict_of_not_admissible (outside : ¬format.Admissible (format.lengthOf third)) :
    format.verdict (first :: second :: third :: tail) = .refused := by
  simp [verdict, outside]

theorem verdict_of_short (admissible : format.Admissible (format.lengthOf third))
    (short : tail.length + 3 < format.lengthOf third) :
    format.verdict (first :: second :: third :: tail) = .incomplete := by
  simp [verdict, admissible, short]

variable (admissible : format.Admissible (format.lengthOf third))
  (complete : ¬tail.length + 3 < format.lengthOf third)

include admissible complete

theorem verdict_of_some {packet : α} (accepted : format.accept
    ((first :: second :: third :: tail).take (format.lengthOf third)) = some packet) :
    format.verdict (first :: second :: third :: tail) =
      .accepted (format.lengthOf third) packet := by
  simp [verdict, admissible, complete, accepted]

theorem verdict_of_none (refused : format.accept
    ((first :: second :: third :: tail).take (format.lengthOf third)) = none) :
    format.verdict (first :: second :: third :: tail) = .refused := by
  simp [verdict, admissible, complete, refused]

end Verdicts

variable {format} in
/-- An accepted frame is as long as the format asks, and all of it is there. -/
theorem length_of_accepted {stream : List β} {length : ℕ} {packet : α}
    (accepted : format.verdict stream = .accepted length packet) :
    format.Admissible length ∧ length ≤ stream.length := by
  unfold verdict at accepted
  split at accepted
  next first second third tail =>
      dsimp only at accepted
      split at accepted
      · cases accepted
      next admissible =>
          split at accepted
          · cases accepted
          next complete =>
              split at accepted
              · cases accepted
                simp only [List.length_cons]
                exact ⟨not_not.mp admissible, by omega⟩
              · cases accepted
  · cases accepted

def scan [DecidableEq β] : List β → ScanResult β α
  | [] => .stop []
  | [symbol] => if symbol = format.first then .stop [symbol] else .stop []
  | symbol :: next :: tail =>
      if symbol = format.first ∧ next = format.second then
        match judged : format.verdict (symbol :: next :: tail) with
        | .incomplete => .stop (symbol :: next :: tail)
        | .refused => (scan (next :: tail)).reject
        | .accepted length packet =>
            (scan ((symbol :: next :: tail).drop length)).accept (tail.length + 2) packet
      else scan (next :: tail)
  termination_by stream => stream.length
  decreasing_by
    · simp only [List.length_cons, Nat.lt_add_one]
    · have admissible := (length_of_accepted judged).1.1
      have positive := format.header_le
      simp only [List.length_drop, List.length_cons]
      omega
    · simp only [List.length_cons, Nat.lt_add_one]

variable {format}

/-- What follows a complete frame does not matter. -/
theorem verdict_append {stream : List β} (complete : format.verdict stream ≠ .incomplete)
    (more : List β) : format.verdict (stream ++ more) = format.verdict stream := by
  unfold verdict at *
  split at complete
  next first second third tail =>
      simp only [List.cons_append, List.length_append]
      dsimp only at complete
      split at complete
      next refused => rw [if_pos refused, if_pos refused]
      next admissible =>
          rw [if_neg admissible, if_neg admissible]
          split at complete
          · contradiction
          next whole =>
              have prefixed : (first :: second :: third :: (tail ++ more)).take
                  (format.lengthOf third) =
                    (first :: second :: third :: tail).take (format.lengthOf third) := by
                rw [← List.cons_append, ← List.cons_append, ← List.cons_append]
                apply List.take_append_of_le_length
                simp only [List.length_cons]
                omega
              rw [if_neg (by omega), if_neg whole, prefixed]
  · contradiction

/-! ## The steps of a scan -/

variable [DecidableEq β]

section Steps

variable {symbol next : β} {tail : List β}

theorem scan_skip (none : ¬(symbol = format.first ∧ next = format.second)) :
    format.scan (symbol :: next :: tail) = format.scan (next :: tail) := by
  rw [scan, if_neg none]

theorem scan_incomplete
    (incomplete : format.verdict (format.first :: format.second :: tail) = .incomplete) :
    format.scan (format.first :: format.second :: tail) =
      .stop (format.first :: format.second :: tail) := by
  rw [scan, if_pos ⟨rfl, rfl⟩]
  split <;> simp_all

theorem scan_refused
    (refused : format.verdict (format.first :: format.second :: tail) = .refused) :
    format.scan (format.first :: format.second :: tail) =
      (format.scan (format.second :: tail)).reject := by
  rw [scan, if_pos ⟨rfl, rfl⟩]
  split <;> simp_all

theorem scan_accepted {length : ℕ} {packet : α}
    (accepted : format.verdict (format.first :: format.second :: tail) =
      .accepted length packet) :
    format.scan (format.first :: format.second :: tail) =
      (format.scan ((format.first :: format.second :: tail).drop length)).accept
        (tail.length + 2) packet := by
  rw [scan, if_pos ⟨rfl, rfl⟩]
  split <;> simp_all

end Steps

/-- The scan of a longer stream goes on where that of the shorter one stopped. -/
theorem scan_append (stream more : List β) : format.scan (stream ++ more) =
    (format.scan stream).append more.length (format.scan ((format.scan stream).rest ++ more)) := by
  fun_induction format.scan stream with
  | case1 => simp
  | case2 => simp
  | case3 symbol other =>
      have passed : format.scan (symbol :: more) = format.scan more := by
        cases more with
        | nil => simp [scan, other]
        | cons next tail => exact scan_skip fun header => other header.1
      simpa using passed
  | case4 symbol next tail header incomplete => simp
  | case5 symbol next tail header refused induction =>
      obtain ⟨rfl, rfl⟩ := header
      have same := verdict_append (by rw [refused]; simp) more
      rw [refused] at same
      rw [ScanResult.reject_append, ScanResult.reject_rest, ← induction]
      exact scan_refused same
  | case6 symbol next tail header length packet accepted induction =>
      obtain ⟨rfl, rfl⟩ := header
      have same := verdict_append (by rw [accepted]; simp) more
      rw [accepted] at same
      have enough := (length_of_accepted accepted).2
      have longer : format.scan (format.first :: format.second :: tail ++ more) =
          (format.scan ((format.first :: format.second :: tail ++ more).drop length)).accept
            ((tail ++ more).length + 2) packet := scan_accepted same
      rw [List.drop_append_of_le_length enough, List.length_append, Nat.add_right_comm] at longer
      rw [ScanResult.accept_append, ScanResult.accept_rest, ← induction]
      exact longer
  | case7 symbol next tail none induction =>
      rw [← induction]
      exact scan_skip none

theorem length_of_incomplete {stream : List β}
    (incomplete : format.verdict stream = .incomplete) : stream.length < format.maximum := by
  have header := format.header_le
  have minimum := format.minimum_le
  unfold verdict at incomplete
  split at incomplete
  next first second third tail =>
      dsimp only at incomplete
      split at incomplete
      · cases incomplete
      next admissible =>
          have bounds := not_not.mp admissible
          split at incomplete
          next short =>
              have upper := bounds.2
              simp only [List.length_cons]
              omega
          · split at incomplete <;> cases incomplete
  next few =>
      match stream, few with
      | [], _ | [_], _ | [_, _], _ =>
          simp only [List.length_nil, List.length_cons]
          omega
      | first :: second :: third :: tail, few => exact absurd rfl (few first second third tail)

/-- What is left is shorter than the longest frame. -/
theorem length_rest_lt (stream : List β) :
    (format.scan stream).rest.length < format.maximum := by
  have header := format.header_le
  have minimum := format.minimum_le
  fun_induction format.scan stream with
  | case1 =>
      simp only [ScanResult.stop_rest, List.length_nil]
      omega
  | case2 =>
      simp only [ScanResult.stop_rest, List.length_singleton]
      omega
  | case3 =>
      simp only [ScanResult.stop_rest, List.length_nil]
      omega
  | case4 symbol next tail header incomplete => exact length_of_incomplete incomplete
  | case5 symbol next tail header refused induction => exact induction
  | case6 symbol next tail header length packet accepted induction => exact induction
  | case7 symbol next tail none induction => exact induction

/-- What is left is the end of the stream. -/
theorem rest_suffix (stream : List β) : (format.scan stream).rest <:+ stream := by
  fun_induction format.scan stream with
  | case1 => exact List.suffix_rfl
  | case2 => exact List.suffix_rfl
  | case3 => exact List.nil_suffix
  | case4 symbol next tail header incomplete => exact List.suffix_rfl
  | case5 symbol next tail header refused induction =>
      exact induction.trans (List.suffix_cons symbol _)
  | case6 symbol next tail header length packet accepted induction =>
      exact induction.trans (List.drop_suffix length _)
  | case7 symbol next tail none induction => exact induction.trans (List.suffix_cons symbol _)

/-- The frames begin in the stream. -/
theorem place_bounds (stream : List β) : ∀ entry ∈ (format.scan stream).found,
    0 < entry.1 ∧ entry.1 ≤ stream.length := by
  fun_induction format.scan stream with
  | case1 => simp [ScanResult.stop]
  | case2 => simp [ScanResult.stop]
  | case3 => simp [ScanResult.stop]
  | case4 symbol next tail header incomplete => simp [ScanResult.stop]
  | case5 symbol next tail header refused induction =>
      intro entry member
      have bounds := induction entry member
      rw [List.length_cons]
      omega
  | case6 symbol next tail header length packet accepted induction =>
      intro entry member
      rcases List.mem_cons.mp member with rfl | later
      · simp
      · have bounds := induction entry later
        rw [List.length_drop] at bounds
        omega
  | case7 symbol next tail none induction =>
      intro entry member
      have bounds := induction entry member
      rw [List.length_cons]
      omega

end FrameFormat

end Foundation
