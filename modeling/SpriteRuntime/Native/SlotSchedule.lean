import Mathlib.Algebra.Order.Floor.Div
import Mathlib.Data.Int.CardIntervalMod
import SpriteRuntime.Native.Motor

/-!
# The slot schedule of the CAN buses

`load_motors` hands out the phases of a bus by two counters: even ones below 4 to the 500 Hz
motors and odd ones below 40 to the others.  No slot is therefore due for two motors of a bus,
and every motor is due once in each of its periods.
-/

namespace SpriteRuntime

open Foundation

/-! ## Phases -/

namespace MotorDescriptor

/-- How many slots lie between two frames for the motor. -/
def period (motor : MotorDescriptor) : ℕ := if motor.pollRateHz = 500 then 4 else 40

/-- The motor has a phase that is still free when the counters of its bus are at these
values. -/
def Placed (nextAnklePhase nextOtherPhase : String → ℕ) (motor : MotorDescriptor) : Prop :=
  if motor.pollRateHz = 500 then
    ∃ turn < 2, nextAnklePhase motor.interface ≤ turn ∧ motor.pollPhase = 2 * turn
  else
    ∃ turn < 20, nextOtherPhase motor.interface ≤ turn ∧ motor.pollPhase = 1 + 2 * turn

/-- No slot of their bus is due for both motors. -/
def Apart (left right : MotorDescriptor) : Prop :=
  left.interface = right.interface →
    ∀ slot, left.due slot = true → right.due slot = true → False

theorem due_iff (motor : MotorDescriptor) (slot : ℕ) :
    motor.due slot = true ↔ slot % motor.period = motor.pollPhase := by
  unfold due period
  split <;> exact beq_iff_eq

theorem period_pos (motor : MotorDescriptor) : 0 < motor.period := by
  unfold period
  split <;> decide

theorem Placed.phase_lt {nextAnklePhase nextOtherPhase : String → ℕ} {motor : MotorDescriptor}
    (placed : motor.Placed nextAnklePhase nextOtherPhase) : motor.pollPhase < motor.period := by
  unfold Placed at placed
  split at placed
  next fast =>
      obtain ⟨turn, small, _, phase⟩ := placed
      rw [phase, period, if_pos fast]
      omega
  next slow =>
      obtain ⟨turn, small, _, phase⟩ := placed
      rw [phase, period, if_neg slow]
      omega

theorem Placed.mono {nextAnklePhase nextOtherPhase : String → ℕ} {motor : MotorDescriptor}
    {anklePhase otherPhase : String → ℕ}
    (placed : motor.Placed nextAnklePhase nextOtherPhase)
    (ankle : anklePhase motor.interface ≤ nextAnklePhase motor.interface)
    (other : otherPhase motor.interface ≤ nextOtherPhase motor.interface) :
    motor.Placed anklePhase otherPhase := by
  unfold Placed at placed ⊢
  split at placed
  next fast =>
      obtain ⟨turn, small, free, phase⟩ := placed
      rw [if_pos fast]
      exact ⟨turn, small, ankle.trans free, phase⟩
  next slow =>
      obtain ⟨turn, small, free, phase⟩ := placed
      rw [if_neg slow]
      exact ⟨turn, small, other.trans free, phase⟩

theorem Apart.symm {left right : MotorDescriptor} (apart : left.Apart right) :
    right.Apart left := by
  intro same slot dueRight dueLeft
  exact apart same.symm slot dueLeft dueRight

/-- The rates never meet: one has the even slots of four and the other the odd ones of forty. -/
theorem apart_of_rates {left right : MotorDescriptor} {even odd : ℕ}
    (fast : left.pollRateHz = 500) (slow : ¬right.pollRateHz = 500)
    (leftPhase : left.pollPhase = 2 * even) (rightPhase : right.pollPhase = 1 + 2 * odd) :
    left.Apart right := by
  intro _ slot dueLeft dueRight
  rw [due_iff, period, if_pos fast, leftPhase] at dueLeft
  rw [due_iff, period, if_neg slow, rightPhase] at dueRight
  omega

theorem apart_of_phases {left right : MotorDescriptor} (same : left.period = right.period)
    (different : left.interface = right.interface → left.pollPhase ≠ right.pollPhase) :
    left.Apart right := by
  intro bus slot dueLeft dueRight
  rw [due_iff] at dueLeft dueRight
  apply different bus
  rw [← dueLeft, ← dueRight, same]

variable {nextAnklePhase nextOtherPhase : String → ℕ} {motor other : MotorDescriptor}

/-- A motor behind a 500 Hz motor is apart from it. -/
theorem Placed.apart_fast (fast : motor.pollRateHz = 500)
    (phase : motor.pollPhase = 2 * nextAnklePhase motor.interface)
    (placed : other.Placed (Function.update nextAnklePhase motor.interface
      (nextAnklePhase motor.interface + 1)) nextOtherPhase) : motor.Apart other := by
  unfold Placed at placed
  split at placed
  next otherFast =>
      obtain ⟨turn, _, free, otherPhase⟩ := placed
      apply apart_of_phases
      · rw [period, period, if_pos fast, if_pos otherFast]
      · intro bus
        rw [← bus, Function.update_self] at free
        omega
  next otherSlow =>
      obtain ⟨turn, _, _, otherPhase⟩ := placed
      exact apart_of_rates fast otherSlow phase otherPhase

/-- A motor behind a 50 Hz motor is apart from it. -/
theorem Placed.apart_slow (slow : ¬motor.pollRateHz = 500)
    (phase : motor.pollPhase = 1 + 2 * nextOtherPhase motor.interface)
    (placed : other.Placed nextAnklePhase (Function.update nextOtherPhase motor.interface
      (nextOtherPhase motor.interface + 1))) : motor.Apart other := by
  unfold Placed at placed
  split at placed
  next otherFast =>
      obtain ⟨turn, _, _, otherPhase⟩ := placed
      exact (apart_of_rates otherFast slow otherPhase phase).symm
  next otherSlow =>
      obtain ⟨turn, _, free, otherPhase⟩ := placed
      apply apart_of_phases
      · rw [period, period, if_neg slow, if_neg otherSlow]
      · intro bus
        rw [← bus, Function.update_self] at free
        omega

end MotorDescriptor

section Assignment

variable {nextAnklePhase nextOtherPhase : String → ℕ}

/-- One more motor of a bus is counted. -/
theorem le_counted (next : String → ℕ) (counted interface : String) :
    next interface ≤ Function.update next counted (next counted + 1) interface := by
  by_cases same : interface = counted
  · rw [same, Function.update_self]
    omega
  · rw [Function.update_of_ne same]

/-- How the first motor of a list that the assignment leaves alone has its phase. -/
theorem assignPhases_cons {motor : MotorDescriptor} {motors : List MotorDescriptor}
    (fixed : assignPhases (motor :: motors) nextAnklePhase nextOtherPhase =
      .ok (motor :: motors)) :
    (motor.pollRateHz = 500 ∧ nextAnklePhase motor.interface < 2 ∧
      motor.pollPhase = 2 * nextAnklePhase motor.interface ∧
      assignPhases motors (Function.update nextAnklePhase motor.interface
        (nextAnklePhase motor.interface + 1)) nextOtherPhase = .ok motors) ∨
    (motor.pollRateHz ≠ 500 ∧ nextOtherPhase motor.interface < 20 ∧
      motor.pollPhase = 1 + 2 * nextOtherPhase motor.interface ∧
      assignPhases motors nextAnklePhase (Function.update nextOtherPhase motor.interface
        (nextOtherPhase motor.interface + 1)) = .ok motors) := by
  rw [assignPhases] at fixed
  split at fixed
  next fast =>
      dsimp only at fixed
      split at fixed
      · cases fixed
      next fits =>
          obtain ⟨others, rest, same⟩ := except_bind_eq_ok.mp fixed
          injection same with same
          obtain ⟨own, tail⟩ := List.cons.inj same
          subst tail
          exact .inl ⟨fast, by omega, by rw [← own], rest⟩
  next slow =>
      dsimp only at fixed
      split at fixed
      · cases fixed
      next fits =>
          obtain ⟨others, rest, same⟩ := except_bind_eq_ok.mp fixed
          injection same with same
          obtain ⟨own, tail⟩ := List.cons.inj same
          subst tail
          exact .inr ⟨slow, by omega, by rw [← own], rest⟩

open MotorDescriptor in
/-- Every motor has a free phase, and the phases of a bus are apart. -/
theorem assignPhases_placed {motors : List MotorDescriptor}
    (fixed : assignPhases motors nextAnklePhase nextOtherPhase = .ok motors) :
    (∀ motor ∈ motors, motor.Placed nextAnklePhase nextOtherPhase) ∧ motors.Pairwise Apart := by
  induction motors generalizing nextAnklePhase nextOtherPhase with
  | nil => simp
  | cons motor motors induction =>
      rcases assignPhases_cons fixed with ⟨fast, room, phase, rest⟩ | ⟨slow, room, phase, rest⟩
      · obtain ⟨placed, apart⟩ := induction rest
        constructor
        · intro other member
          rcases List.mem_cons.mp member with head | later
          · subst head
            rw [Placed, if_pos fast]
            exact ⟨_, room, le_rfl, phase⟩
          · exact (placed other later).mono (le_counted _ _ _) le_rfl
        · refine List.pairwise_cons.mpr ⟨?_, apart⟩
          exact fun other later => (placed other later).apart_fast fast phase
      · obtain ⟨placed, apart⟩ := induction rest
        constructor
        · intro other member
          rcases List.mem_cons.mp member with head | later
          · subst head
            rw [Placed, if_neg slow]
            exact ⟨_, room, le_rfl, phase⟩
          · exact (placed other later).mono le_rfl (le_counted _ _ _)
        · refine List.pairwise_cons.mpr ⟨?_, apart⟩
          exact fun other later => (placed other later).apart_slow slow phase

end Assignment

/-! ## The motors of a slot -/

namespace LoadedMotors

variable (loaded : LoadedMotors)

/-- The motors that are due in a slot, in their order. -/
def dueMotors (slot : ℕ) : List Index :=
  (List.finRange kJointCount).filter fun index => (loaded.descriptor index).due slot

/-- The motors of a bus that are due in a slot. -/
def dueOn (interface : String) (slot : ℕ) : List Index :=
  (loaded.dueMotors slot).filter fun index => (loaded.descriptor index).interface = interface

theorem phase_lt (index : Index) :
    (loaded.descriptor index).pollPhase < (loaded.descriptor index).period :=
  ((assignPhases_placed loaded.phased).1 _ (List.mem_ofFn.mpr ⟨index, rfl⟩)).phase_lt

/-- A bus has no slot for two motors. -/
theorem eq_of_due {left right : Index} {slot : ℕ}
    (bus : (loaded.descriptor left).interface = (loaded.descriptor right).interface)
    (dueLeft : (loaded.descriptor left).due slot = true)
    (dueRight : (loaded.descriptor right).due slot = true) : left = right := by
  have apart := List.pairwise_ofFn.mp (assignPhases_placed loaded.phased).2
  rcases lt_trichotomy left right with before | same | behind
  · exact (apart before bus slot dueLeft dueRight).elim
  · exact same
  · exact (apart behind bus.symm slot dueRight dueLeft).elim

theorem length_dueOn (interface : String) (slot : ℕ) : (loaded.dueOn interface slot).length ≤ 1 := by
  have distinct : (loaded.dueOn interface slot).Nodup :=
    ((List.nodup_finRange _).filter _).filter _
  have same : ∀ left ∈ loaded.dueOn interface slot, ∀ right ∈ loaded.dueOn interface slot,
      left = right := by
    intro left inLeft right inRight
    obtain ⟨leftDue, leftBus⟩ := List.mem_filter.mp inLeft
    obtain ⟨rightDue, rightBus⟩ := List.mem_filter.mp inRight
    apply loaded.eq_of_due
    · exact (of_decide_eq_true leftBus).trans (of_decide_eq_true rightBus).symm
    · exact (List.mem_filter.mp leftDue).2
    · exact (List.mem_filter.mp rightDue).2
  rw [← List.toFinset_card_of_nodup distinct, Finset.card_le_one]
  intro left inLeft right inRight
  exact same left (List.mem_toFinset.mp inLeft) right (List.mem_toFinset.mp inRight)

/-- In a period that begins anywhere, a motor is due just once. -/
theorem existsUnique_due (index : Index) (start : ℕ) :
    ∃! slot, (start ≤ slot ∧ slot < start + (loaded.descriptor index).period) ∧
      (loaded.descriptor index).due slot = true := by
  have early := loaded.phase_lt index
  simp only [MotorDescriptor.due_iff]
  revert early
  generalize (loaded.descriptor index).pollPhase = phase
  intro early
  unfold MotorDescriptor.period at early ⊢
  split at early
  next fast =>
      rw [if_pos fast]
      refine ⟨start + (phase + 4 - start % 4) % 4, ?_, ?_⟩
      · dsimp only
        omega
      · intro slot
        omega
  next slow =>
      rw [if_neg slow]
      refine ⟨start + (phase + 40 - start % 40) % 40, ?_, ?_⟩
      · dsimp only
        omega
      · intro slot
        omega

/-- How many of the first slots are due for a motor. -/
def dueCount (index : Index) (count : ℕ) : ℕ :=
  count.count fun slot => (loaded.descriptor index).due slot = true

theorem dueCount_eq (index : Index) (count : ℕ) :
    loaded.dueCount index count = count / (loaded.descriptor index).period +
      if (loaded.descriptor index).pollPhase < count % (loaded.descriptor index).period then 1
      else 0 := by
  have early := loaded.phase_lt index
  have slots : ∀ slot, (loaded.descriptor index).due slot = true ↔
      slot ≡ (loaded.descriptor index).pollPhase [MOD (loaded.descriptor index).period] := by
    intro slot
    rw [MotorDescriptor.due_iff, Nat.ModEq, Nat.mod_eq_of_lt early]
  rw [dueCount]
  simp only [slots]
  rw [Nat.count_modEq_card _ (MotorDescriptor.period_pos _), Nat.mod_eq_of_lt early]

theorem div_le_dueCount (index : Index) (count : ℕ) :
    count / (loaded.descriptor index).period ≤ loaded.dueCount index count := by
  rw [dueCount_eq]
  omega

theorem dueCount_le (index : Index) (count : ℕ) :
    loaded.dueCount index count ≤ count ⌈/⌉ (loaded.descriptor index).period := by
  have positive := MotorDescriptor.period_pos (loaded.descriptor index)
  have early := loaded.phase_lt index
  rw [dueCount_eq, Nat.ceilDiv_eq_add_pred_div]
  generalize (loaded.descriptor index).period = period at positive early
  split
  next within =>
      have whole := Nat.div_add_mod count period
      rw [Nat.le_div_iff_mul_le positive, Nat.add_mul, Nat.mul_comm, Nat.one_mul]
      omega
  next => exact Nat.div_le_div_right (by omega)

end LoadedMotors

end SpriteRuntime
