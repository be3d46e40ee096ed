import SpriteRuntime.Native.MeasuredHold
import SpriteRuntime.Native.ProtectedPolicy

/-!
# Which motors a shutdown reaches

The `try` of the shutdown stands around the whole of its loops, so the first
disable frame that cannot be written ends all of them.  In the first pass that
leaves every later motor, on every bus, without a disable frame.
-/

namespace SpriteRuntime

open Foundation

/-- The attempt to write a motor's disable frame on the motor's own interface. -/
def disableEvent (setup : Setup) (index : Index) (accepted : Bool) : Event :=
  .wrote (.special disableOpcode) index (setup.loaded.descriptor index).interface
    { canId := (setup.loaded.descriptor index).canId.toNat
      length := 8
      flags := canfdBrs
      data := specialData disableOpcode } accepted

/-- The trace has an attempt to disable the motor. -/
def DisableAttempted (setup : Setup) (trace : List Event) (index : Index) : Prop :=
  ∃ accepted, disableEvent setup index accepted ∈ trace

section Pass

variable (setup : Setup) (world : World)

/-- One disable frame: the attempt is made in any case, and its failure thrown. -/
theorem sendSpecial_disable (index : Index) (machine : Machine) :
    let result := sendSpecial setup world index disableOpcode machine
    let written := (world.write machine.calls.write).isOk
    result.2.trace = machine.trace ++ [disableEvent setup index written] ∧
      result.2.calls.write = machine.calls.write + 1 ∧
      (written = true ∧ result.1 = .done () ∨
        written = false ∧ ∃ what, result.1 = .thrown what) := by
  have opcode : ¬(disableOpcode ≠ enableOpcode ∧ disableOpcode ≠ disableOpcode) := by
    simp
  cases outcome : world.write machine.calls.write with
  | ok value =>
      simp [sendSpecial, Program.throwIf, sendPayload, writeFrame, answer, emit,
        Program.bind_apply, outcome, countTx, onMachineMotor, Program.zoom,
        disableEvent, Except.isOk, Except.toBool]
  | error what =>
      simp [sendSpecial, Program.throwIf, sendPayload, writeFrame, answer, emit,
        Program.bind_apply, outcome, disableEvent, Except.isOk, Except.toBool]

private theorem disableAttempted_concat {trace : List Event} {index motor : Index}
    {written : Bool} :
    DisableAttempted setup (trace ++ [disableEvent setup index written]) motor ↔
      DisableAttempted setup trace motor ∨ motor = index := by
  constructor
  · rintro ⟨accepted, member⟩
    rcases List.mem_append.mp member with earlier | last
    · exact .inl ⟨accepted, earlier⟩
    · right
      have same := List.mem_singleton.mp last
      simp only [disableEvent, Event.wrote.injEq] at same
      exact same.2.1
  · rintro (⟨accepted, earlier⟩ | rfl)
    · exact ⟨accepted, List.mem_append_left _ earlier⟩
    · exact ⟨written, by simp⟩

/-- A pass attempts a motor if all the frames before the motor's own are written,
and ends early as soon as one is not. -/
theorem forEach_disable (indices : List Index) (machine : Machine) :
    let result := Program.forEach indices
      (fun index => sendSpecial setup world index disableOpcode) machine
    let written := fun earlier => (world.write (machine.calls.write + earlier)).isOk
    (∀ motor, DisableAttempted setup result.2.trace motor ↔
      DisableAttempted setup machine.trace motor ∨
        ∃ position, indices[position]? = some motor ∧
          ∀ earlier < position, written earlier = true) ∧
      ((∀ earlier < indices.length, written earlier = true) ∧ result.1 = .done () ∨
        (¬∀ earlier < indices.length, written earlier = true) ∧
          ∃ what, result.1 = .thrown what) := by
  induction indices generalizing machine with
  | nil =>
      constructor
      · intro motor
        simp [Program.forEach]
      · exact .inl ⟨by simp, rfl⟩
  | cons index rest induction =>
      obtain ⟨trace, counted, outcome⟩ := sendSpecial_disable setup world index machine
      rcases first : sendSpecial setup world index disableOpcode machine with ⟨_, middle⟩
      rw [first] at trace counted outcome
      dsimp only at trace counted outcome
      rcases outcome with ⟨written, rfl⟩ | ⟨lost, what, rfl⟩
      · obtain ⟨attempts, ends⟩ := induction middle
        have shift : ∀ bound,
            (∀ earlier < bound + 1,
              (world.write (machine.calls.write + earlier)).isOk = true) ↔
            ∀ earlier < bound, (world.write (middle.calls.write + earlier)).isOk = true := by
          intro bound
          rw [Nat.forall_lt_succ_left, counted]
          simp only [Nat.add_zero, written, true_and, Nat.add_right_comm _ 1]
          rfl
        rw [Program.forEach, Program.bind_apply_done first]
        constructor
        · intro motor
          rw [attempts motor, trace, disableAttempted_concat, or_assoc]
          apply or_congr_right
          constructor
          · rintro (rfl | ⟨position, found, reached⟩)
            · exact ⟨0, rfl, by simp⟩
            · exact ⟨position + 1, found, (shift position).mpr reached⟩
          · rintro ⟨position, found, reached⟩
            cases position with
            | zero => exact .inl (Option.some.inj found).symm
            | succ position => exact .inr ⟨position, found, (shift position).mp reached⟩
        · rw [List.length_cons, shift]
          exact ends
      · have stopped : ¬∀ earlier < (index :: rest).length,
            (world.write (machine.calls.write + earlier)).isOk = true := by
          intro all
          have head := all 0 (by simp)
          rw [Nat.add_zero, lost] at head
          cases head
        rw [Program.forEach, Program.bind_apply, first]
        constructor
        · intro motor
          rw [trace, disableAttempted_concat]
          apply or_congr_right
          constructor
          · rintro rfl
            exact ⟨0, rfl, by simp⟩
          · rintro ⟨position, found, reached⟩
            cases position with
            | zero => exact (Option.some.inj found).symm
            | succ position =>
                have head : (world.write machine.calls.write).isOk = true :=
                  reached 0 (Nat.succ_pos position)
                rw [lost] at head
                cases head
        · exact .inr ⟨stopped, what, rfl⟩

/-- The motors that the first pass attempts. -/
theorem disablePass_spec (machine : Machine) :
    let result := disablePass setup world machine
    let written := fun earlier => (world.write (machine.calls.write + earlier)).isOk
    (∀ motor : Index, DisableAttempted setup result.2.trace motor ↔
      DisableAttempted setup machine.trace motor ∨
        ∀ earlier < motor.val, written earlier = true) ∧
      ((∀ earlier < kJointCount, written earlier = true) ∧ result.1 = .done () ∨
        (¬∀ earlier < kJointCount, written earlier = true) ∧
          ∃ what, result.1 = .thrown what) := by
  obtain ⟨attempts, ends⟩ :=
    forEach_disable setup world (List.finRange kJointCount) machine
  rw [List.length_finRange] at ends
  refine ⟨fun motor => (attempts motor).trans (or_congr_right ?_), ends⟩
  constructor
  · rintro ⟨position, found, reached⟩
    obtain ⟨bound, rfl⟩ := List.getElem?_eq_some_iff.mp found
    simpa using reached
  · intro reached
    exact ⟨motor.val, by simp [motor.isLt], reached⟩

theorem DisableAttempted.append {trace : List Event} {index : Index}
    (attempted : DisableAttempted setup trace index) (suffix : List Event) :
    DisableAttempted setup (trace ++ suffix) index := by
  obtain ⟨accepted, member⟩ := attempted
  exact ⟨accepted, List.mem_append_left _ member⟩

/-- A pass that fails ends the shutdown where it stands. -/
theorem shutdown_of_thrown {drain : Native Unit} {failure what : String}
    {machine stopped : Machine}
    (pass : disablePass setup world machine = (.thrown what, stopped)) :
    shutdown setup world drain failure machine =
      (.done (appendFailure failure what), stopped) := by
  have passes : Program.forEach (List.range 3) (fun _ => disablePass setup world) machine =
      (.thrown what, stopped) := by
    change (disablePass setup world >>= fun _ => _) machine = _
    rw [Program.bind_apply, pass]
  simp [shutdown, Program.tryCatch, shutdownBody, Program.bind_apply, passes]

/-- After a pass that succeeds the shutdown only adds to the trace. -/
theorem shutdown_of_done {drain : Native Unit} (drains : EmitsOnly [.read] drain)
    (failure : String) {machine middle : Machine}
    (pass : disablePass setup world machine = (.done (), middle)) :
    ∃ suffix, (shutdown setup world drain failure machine).2.trace =
      middle.trace ++ suffix := by
  let rest : Native String := Program.tryCatch
    ((Program.forEach [1, 2] (fun _ => disablePass setup world) >>= fun _ =>
      verifyDisabled setup world drain) >>= fun _ => pure failure)
    fun what => pure (appendFailure failure what)
  have emits : EmitsOnly [.disable, .slot, .poll, .read] rest := by
    refine .tryCatch (.bind (.bind (.forEach fun _ _ => ?_) fun _ => ?_) fun _ =>
      .pure failure) fun what => .pure _
    · exact (EmitsOnly.disablePass setup world).widen (by simp)
    · exact (EmitsOnly.verifyDisabled setup world drains).widen (by simp)
  have passes : Program.forEach (List.range 3) (fun _ => disablePass setup world) machine =
      Program.forEach [1, 2] (fun _ => disablePass setup world) middle :=
    Program.bind_apply_done pass _
  have same : shutdown setup world drain failure machine = rest middle := by
    simp only [shutdown, rest, Program.tryCatch, shutdownBody, Program.bind_apply, passes]
  obtain ⟨suffix, extended, _⟩ := emits.trace_eq middle
  exact ⟨suffix, same ▸ extended⟩

/-- A shutdown attempts every motor exactly when the frames before the last
motor's are written in the first pass. -/
theorem shutdown_attempts {drain : Native Unit} (drains : EmitsOnly [.read] drain)
    (failure : String) {machine : Machine}
    (untouched : ∀ motor, ¬DisableAttempted setup machine.trace motor) :
    (∀ motor, DisableAttempted setup
        (shutdown setup world drain failure machine).2.trace motor) ↔
      ∀ earlier < 30, (world.write (machine.calls.write + earlier)).isOk = true := by
  obtain ⟨attempts, ends⟩ := disablePass_spec setup world machine
  simp only [untouched, false_or] at attempts
  rcases pass : disablePass setup world machine with ⟨outcome, stopped⟩
  rw [pass] at attempts ends
  dsimp only at attempts ends
  rcases ends with ⟨written, rfl⟩ | ⟨_, what, rfl⟩
  · obtain ⟨suffix, extended⟩ := shutdown_of_done setup world drains failure pass
    constructor
    · exact fun _ earlier bound => written earlier (bound.trans (by decide))
    · intro _ motor
      rw [extended]
      apply DisableAttempted.append
      exact (attempts motor).mpr fun earlier bound => written earlier (bound.trans motor.isLt)
  · rw [shutdown_of_thrown setup world pass]
    constructor
    · exact fun all => (attempts 30).mp (all 30)
    · intro written motor
      exact (attempts motor).mpr fun earlier bound =>
        written earlier (bound.trans_le (Nat.lt_succ_iff.mp motor.isLt))

/-- However a shutdown goes on, it starts with the disable frame of the first motor. -/
theorem shutdown_attempts_first {drain : Native Unit} (drains : EmitsOnly [.read] drain)
    (failure : String) (machine : Machine) :
    DisableAttempted setup (shutdown setup world drain failure machine).2.trace 0 := by
  obtain ⟨attempts, ends⟩ := disablePass_spec setup world machine
  have first := (attempts 0).mpr (.inr fun earlier below => absurd below (Nat.not_lt_zero _))
  rcases pass : disablePass setup world machine with ⟨outcome, stopped⟩
  rw [pass] at first ends
  dsimp only at first ends
  rcases ends with ⟨_, rfl⟩ | ⟨_, what, rfl⟩
  · obtain ⟨suffix, extended⟩ := shutdown_of_done setup world drains failure pass
    rw [extended]
    exact first.append setup suffix
  · rw [shutdown_of_thrown setup world pass]
    exact first

/-- A powered run whose body throws goes on with the shutdown. -/
theorem poweredRun_of_thrown {body drain : Native Unit} {cannotOpen what : String}
    {start stopped : Machine} (threw : body start = (.thrown what, stopped)) :
    (poweredRun setup world body drain cannotOpen start).2 =
      (shutdown setup world drain what stopped).2 := by
  simp only [poweredRun, Program.tryCatch, Program.bind_apply, threw, Program.pure_apply,
    Program.get_apply]
  rcases shutdown setup world drain what stopped with ⟨outcome, final⟩
  cases outcome with
  | done errors =>
      by_cases opens : world.reportOpens = false
      · simp [Program.throwIf, opens]
      · simp [Program.throwIf, opens]
  | thrown error => rfl
  | unfinished => rfl

/-- A powered run that returns ends with the shutdown that follows its body. -/
theorem poweredRun_eq_done {body drain : Native Unit} {cannotOpen : String}
    {report : RunReport} {start final : Machine}
    (returned : poweredRun setup world body drain cannotOpen start = (.done report, final)) :
    ∃ failure, final = (shutdown setup world drain failure (body start).2).2 := by
  obtain ⟨failure, stopped, ended, afterBody⟩ := Program.bind_eq_done returned
  obtain ⟨_, _, read, afterRead⟩ := Program.bind_eq_done afterBody
  cases read
  obtain ⟨errors, reached, disabled, afterShutdown⟩ := Program.bind_eq_done afterRead
  obtain ⟨_, _, opened, reported⟩ := Program.bind_eq_done afterShutdown
  obtain ⟨rfl, _⟩ := Program.throwIf_eq_done opened
  cases reported
  refine ⟨failure, ?_⟩
  have same : stopped = (body start).2 := by
    rcases stop : body start with ⟨outcome, reached⟩
    simp only [Program.tryCatch, Program.bind_apply, stop] at ended
    cases outcome <;> cases ended <;> rfl
  rw [← same, disabled]

end Pass

/-- The two runs that power the drives. -/
inductive PoweredRun where
  | protectedPolicy
  | measuredPoseHold

namespace PoweredRun

variable (setup : Setup) (world : World)

def program : PoweredRun → Native RunReport
  | protectedPolicy => runNativeProtectedPolicy setup world
  | measuredPoseHold => runNativeMeasuredPoseHold setup world

/-- The run up to its shutdown. -/
def body : PoweredRun → Native Unit
  | protectedPolicy => protectedPolicyBody setup world
  | measuredPoseHold => do
      let controlled ← Program.ofExcept
        (controlledJoints setup.kinematics controlledJointNames)
      measuredPoseHoldBody setup world controlled

/-- Before its shutdown a run disables nothing. -/
theorem body_untouched (run : PoweredRun) (motor : Index) :
    ¬DisableAttempted setup (run.body setup world Machine.initial).2.trace motor := by
  have emits : EmitsOnly [.slot, .poll, .read, .drained, .accepted, .published, .enable,
      .previewed, .payload] (run.body setup world) := by
    cases run with
    | protectedPolicy =>
        refine .bind ((EmitsOnly.prepare setup world).widen (by simp)) fun _ => ?_
        refine .bind ((EmitsOnly.enable setup world).widen (by simp)) fun _ => ?_
        exact (EmitsOnly.activeLoop setup world).widen (by simp)
    | measuredPoseHold =>
        refine .bind (.ofExcept _) fun controlled => ?_
        exact (EmitsOnly.measuredPoseHoldBody setup world controlled).widen (by simp)
  obtain ⟨suffix, extended, kinds⟩ := emits.trace_eq Machine.initial
  rintro ⟨accepted, member⟩
  rw [extended] at member
  have kind := kinds _ (by simpa [Machine.initial] using member)
  simp [disableEvent, Event.kind, disableOpcode, enableOpcode] at kind

variable {setup world}

/-- A run that returns its report has attempted a disable frame for every motor if
and only if the first 30 writes of its shutdown succeeded. -/
theorem disables_every_motor_iff (run : PoweredRun) {report : RunReport}
    {final : Machine}
    (returned : run.program setup world Machine.initial = (.done report, final)) :
    (∀ motor, DisableAttempted setup final.trace motor) ↔
      ∀ earlier < 30, (world.write
        ((run.body setup world Machine.initial).2.calls.write + earlier)).isOk = true := by
  have untouched := body_untouched setup world run
  cases run with
  | protectedPolicy =>
      obtain ⟨failure, rfl⟩ := poweredRun_eq_done setup world returned
      exact shutdown_attempts setup world
        (EmitsOnly.drainPolicyFeedback setup world (-1) false) failure untouched
  | measuredPoseHold =>
      obtain ⟨controlled, _, found, afterFound⟩ := Program.bind_eq_done returned
      obtain ⟨rfl, joints⟩ := Program.ofExcept_eq_done found
      obtain ⟨failure, rfl⟩ := poweredRun_eq_done setup world afterFound
      simp only [body, joints, Program.ofExcept] at untouched ⊢
      exact shutdown_attempts setup world
        (EmitsOnly.drainHoldFeedback setup world (-1) false) failure untouched

/-- A run without a clock on healthy buses: every motor is disabled. -/
theorem disables_every_motor_iff_healthy :
    ∃ report final,
      PoweredRun.protectedPolicy.program benchSetup { quietWorld with clock := fun _ => none }
        Machine.initial = (.done report, final) ∧
      ∀ motor, DisableAttempted benchSetup final.trace motor := by
  have returns : (PoweredRun.protectedPolicy.program benchSetup
      { quietWorld with clock := fun _ => none } Machine.initial).1.isDone = true := by
    decide +kernel
  obtain ⟨report, final, returned⟩ := Program.exists_eq_done returns
  refine ⟨report, final, returned, ?_⟩
  exact (disables_every_motor_iff .protectedPolicy returned).mpr fun _ _ => rfl

/-- The same run on a bus that fails: the first lost frame is the only one tried. -/
theorem disables_no_motor_after_failure :
    ∃ report final,
      PoweredRun.protectedPolicy.program benchSetup
        { quietWorld with
          clock := fun _ => none
          write := fun _ => .error "No buffer space available" }
        Machine.initial = (.done report, final) ∧
      ¬∀ motor, DisableAttempted benchSetup final.trace motor := by
  let world : World :=
    { quietWorld with
      clock := fun _ => none
      write := fun _ => .error "No buffer space available" }
  have returns : (PoweredRun.protectedPolicy.program benchSetup world
      Machine.initial).1.isDone = true := by
    decide +kernel
  have trace : (PoweredRun.protectedPolicy.program benchSetup world
      Machine.initial).2.trace = [disableEvent benchSetup 0 false] := by
    rfl
  obtain ⟨report, final, returned⟩ := Program.exists_eq_done returns
  rw [returned] at trace
  refine ⟨report, final, returned, ?_⟩
  intro all
  obtain ⟨accepted, member⟩ := all 1
  rw [trace] at member
  simp [disableEvent, kJointCount] at member

end PoweredRun

end SpriteRuntime
