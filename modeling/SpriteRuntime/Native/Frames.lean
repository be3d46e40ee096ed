import SpriteRuntime.Native.ProtectedPolicy

/-!
# What the steps of a run leave alone

Most steps of a slot touch neither the IPC bookkeeping nor anything of a motor but
its transmit counter.  Reading feedback also leaves the previews alone, and the
IPC steps leave the motors alone.  What needs a reason in the trace of a run can
therefore be followed to the few steps that may add it.
-/

namespace SpriteRuntime

open Foundation

/-- The controller's state but for the transmit counters. -/
def Machine.core (machine : Machine) : IpcSocket × (Index → MotorState) :=
  (machine.ipc, fun index => { machine.motors index with txCount := 0 })

/-- The IPC bookkeeping and the previews. -/
def Machine.commands (machine : Machine) : IpcSocket × (Index → MitCommand × Bool) :=
  (machine.ipc, fun index =>
    ((machine.motors index).preview, (machine.motors index).previewInitialized))

/-- What the targets have no part in: the motors and the two counters. -/
def Machine.untargeted (machine : Machine) : (Index → MotorState) × ℕ × ℕ :=
  (machine.motors, machine.ipc.stateSequence, machine.ipc.motorPreviewCount)

/-- The controller's state but for the count of the states it has sent. -/
def Machine.unsent (machine : Machine) : (Index → MotorState) × IpcSocket :=
  (machine.motors, { machine.ipc with stateSequence := 0 })

variable (setup : Setup) (world : World)

section Views

variable {α τ : Type} {view : MotorState → τ} {program : Program MotorState String α}

/-- A program on one motor leaves a part of every motor alone that it leaves alone
of its own. -/
theorem onMachineMotor_leaves (index : Index) (leaves : program.Leaves view) :
    (onMachineMotor index program).Leaves fun machine =>
      (machine.ipc, fun index => view (machine.motors index)) := by
  intro machine
  apply Prod.ext
  · rfl
  · funext other
    by_cases same : other = index
    · subst same
      have own : view (program (machine.motors other)).2 = view (machine.motors other) :=
        leaves (machine.motors other)
      simpa [onMachineMotor, Program.zoom] using own
    · simp [onMachineMotor, Program.zoom, same]

theorem commands_of_core {program : Native α} (leaves : program.Leaves Machine.core) :
    program.Leaves Machine.commands :=
  leaves.map fun core => (core.1, fun index => ((core.2 index).preview,
    (core.2 index).previewInitialized))

end Views

section Core

variable {α : Type}

theorem emit_core (event : Event) : (emit event).Leaves Machine.core :=
  .modify fun _ => rfl

theorem answer_core (script : ℕ → α) (count : Calls → ℕ) (counted : Calls → Calls) :
    (answer script count counted).Leaves Machine.core :=
  .bind .get fun _ => .bind (.modify fun _ => rfl) fun _ => .pure _

theorem monotonicNs_core : (monotonicNs world).Leaves Machine.core := by
  refine .bind (answer_core _ _ _) fun reading => ?_
  cases reading with
  | none => exact .throw _
  | some now => exact .pure now

theorem sleepUntil_core : (sleepUntil world).Leaves Machine.core :=
  .bind (answer_core _ _ _) fun _ => .throwIf _

theorem checkShutdownRequest_core (what : String) :
    (checkShutdownRequest world what).Leaves Machine.core :=
  .bind (answer_core _ _ _) fun _ => .throwIf _

theorem countTx_core (index : Index) : (countTx index).Leaves Machine.core := by
  have own : (Program.modify fun motor : MotorState =>
      { motor with txCount := motor.txCount + 1 } : Program MotorState String Unit).Leaves
        fun motor => { motor with txCount := 0 } :=
    .modify fun _ => rfl
  exact onMachineMotor_leaves index own

theorem writeFrame_core (sender : Sender) (index : Index) (data : CanData) :
    (writeFrame setup world sender index data).Leaves Machine.core :=
  .bind (answer_core _ _ _) fun _ => .bind (emit_core _) fun _ => .pure _

theorem sendPayload_core (sender : Sender) (index : Index) (data : CanData) :
    (sendPayload setup world sender index data).Leaves Machine.core := by
  refine .bind (writeFrame_core setup world sender index data) fun result => ?_
  cases result with
  | ok _ => exact countTx_core index
  | error _ => exact .throw _

theorem sendPoll_core (index : Index) : (sendPoll setup world index).Leaves Machine.core := by
  refine .bind .get fun machine => .bind (.ofExcept _) fun data => ?_
  refine .bind (writeFrame_core setup world .poll index data) fun result => ?_
  cases result with
  | ok _ => exact countTx_core index
  | error _ => exact .throw _

theorem pollDue_core (slot : ℕ) : (pollDue setup world slot).Leaves Machine.core :=
  .forEach fun index _ => .runIf (sendPoll_core setup world index)

theorem recordLateness_core (wokeNs deadlineNs : ℤ) :
    (recordLateness wokeNs deadlineNs).Leaves Machine.core :=
  .modify fun _ => rfl

end Core

section Commands

theorem absorbPolicyFeedback_commands (descriptor : MotorDescriptor) (expectedStatus : ℤ)
    (enforceDynamicGuards : Bool) (feedback : Feedback) :
    (absorbPolicyFeedback world descriptor expectedStatus enforceDynamicGuards
      feedback).Leaves fun motor => (motor.preview, motor.previewInitialized) := by
  refine .bind (.modify fun _ => rfl) fun _ => ?_
  refine .bind (.runIf (.modify fun _ => rfl)) fun _ => ?_
  refine .bind (.modify fun _ => rfl) fun _ => .bind (.throwIf _) fun _ => ?_
  refine .bind .get fun motor => .bind (.throwIf _) fun _ => .bind (.throwIf _) fun _ => ?_
  exact .modify fun _ => rfl

/-- Reading feedback leaves the previews and the IPC bookkeeping alone. -/
theorem drainPolicyFeedback_commands (expectedStatus : ℤ) (enforceGuards : Bool) :
    (drainPolicyFeedback setup world expectedStatus enforceGuards).Leaves
      Machine.commands := by
  apply drainPolicyFeedback_respects
  · intro interface
    apply Program.Respects.bind (commands_of_core (answer_core _ _ _))
    intro result
    exact .bind (commands_of_core (emit_core _)) fun _ => .pure result
  · intro index feedback
    exact onMachineMotor_leaves index (absorbPolicyFeedback_commands world _ _ _ feedback)

theorem protectedPolicyPayload_commands (descriptor : MotorDescriptor) (bounded : Bool) :
    (protectedPolicyPayload descriptor bounded).Leaves fun motor =>
      (motor.preview, motor.previewInitialized) := by
  refine .bind .get fun motor => .bind (.throwIf _) fun _ => .bind (.ofExcept _) fun _ => ?_
  refine .bind (.bind .get fun _ => ?_) fun _ => ?_
  · split
    · exact .bind (.ofExcept _) fun _ => .bind (.modify fun _ => rfl) fun _ => .pure _
    · exact .pure _
  · exact .bind (.throwIf _) fun _ => .bind (.modify fun _ => rfl) fun _ => .pure _

theorem commandMotor_commands (index : Index) :
    (commandMotor setup world index).Leaves Machine.commands := by
  refine .bind .get fun machine => .bind ?_ fun data => ?_
  · exact onMachineMotor_leaves index (protectedPolicyPayload_commands _ _)
  · exact commands_of_core (sendPayload_core setup world _ index data)

end Commands

section Ipc

/-- Draining the targets leaves the motors and the two counters alone. -/
theorem drainTargetPackets_untargeted (nowNs : ℤ) :
    (drainTargetPackets world setup.policyJointHash (some setup.jointSafety) nowNs).Leaves
      Machine.untargeted := by
  refine .bind (.modify fun _ => rfl) fun _ => .loop ?_
  intro machine
  cases arrived : world.recv machine.calls.recv with
  | again => simp [drainTargetRound, answer, Program.bind_apply, arrived, Keeps,
      Machine.untargeted]
  | failed what => simp [drainTargetRound, answer, Program.bind_apply, arrived, Keeps,
      Machine.untargeted]
  | message bytes =>
      rw [drainTargetRound_of_message arrived]
      cases taken : receiveTarget setup.policyJointHash (some setup.jointSafety) nowNs bytes
          machine.ipc with
      | error what => rfl
      | ok ipc =>
          obtain ⟨_, rfl⟩ := receiveTarget_eq_ok.mp taken
          rfl

/-- Publishing a state changes nothing of the controller but the state counter. -/
theorem publishState_unsent (slot : ℕ) :
    (publishState setup world slot).Leaves Machine.unsent := by
  have answering {α : Type} (script : ℕ → α) (count : Calls → ℕ)
      (counted : Calls → Calls) : (answer script count counted).Leaves Machine.unsent :=
    .bind .get fun _ => .bind (.modify fun _ => rfl) fun _ => .pure _
  refine .bind .get fun _ => .runIf (.bind (.bind (answering _ _ _) fun reading => ?_)
    fun now => ?_)
  · cases reading with
    | none => exact .throw _
    | some now => exact .pure now
  · refine .bind .get fun _ => .bind (.modify fun _ => rfl) fun _ => ?_
    exact .bind (answering _ _ _) fun _ => .bind (.modify fun _ => rfl) fun _ => .throwIf _

end Ipc

section Justified

variable {setup world} {reason : List Event → Event → Prop}

/-- A program that adds only events that need no reason keeps a trace justified. -/
theorem justified_kept {α : Type} {program : Native α} {kinds : List Kind}
    (emits : EmitsOnly kinds program)
    (unreasoned : ∀ before entry, entry.kind ∈ kinds → reason before entry) :
    program.Preserves fun machine => Justified reason machine.trace := by
  intro machine justified
  obtain ⟨suffix, grown, allowed⟩ := emits.trace_eq machine
  rw [grown]
  apply justified.append_unreasoned
  exact fun entry member before => unreasoned before entry (allowed entry member)

/-- A run goes on from its body with what closes it. -/
theorem protectedPolicyTrace_eq (setup : Setup) (world : World) :
    ∃ suffix, protectedPolicyTrace setup world =
        (protectedPolicyBody setup world Machine.initial).2.trace ++ suffix ∧
      ∀ event ∈ suffix, event.Closing := by
  let closed := fun machine : Machine => Extends (fun machine : Machine => machine.trace)
    Event.Closing (protectedPolicyBody setup world Machine.initial).2 machine
  have body : Program.Triple (fun machine => machine = Machine.initial)
      (protectedPolicyBody setup world) (fun _ => closed) closed := by
    apply Program.Triple.last_iff.mpr
    rintro _ rfl
    exact .of_eq rfl
  have stopping (failure : String) : Program.Triple closed
      (shutdown setup world (drainPolicyFeedback setup world (-1) false) failure)
      (fun _ => closed) closed := by
    have kept : ∀ first last, Extends (fun machine : Machine => machine.trace) Event.Closing
        first last → closed first → closed last :=
      fun _ _ grown before => trans_of (Extends _ Event.Closing) before grown
    exact (shutdown_closes setup world
      (EmitsOnly.drainPolicyFeedback setup world (-1) false) failure).triple kept kept
  have run : Program.Triple (fun machine => machine = Machine.initial)
      (runNativeProtectedPolicy setup world) (fun _ => closed) closed := by
    refine .bind (.tryCatch (body.bind fun _ => .pure "" fun _ => id)
      (fun what => .pure what fun _ => id) fun _ => id) fun failure => ?_
    refine .bind (.get fun _ => id) fun machine => .bind (stopping failure) fun errors => ?_
    exact .bind (.throwIf _ (fun _ _ => id) fun _ _ => id) fun _ => .pure _ fun _ => id
  exact Program.Triple.last_iff.mp run Machine.initial rfl

/-- The trace of a run is justified when its body keeps it so and the shutdown needs no
reasons. -/
theorem protectedPolicyTrace_justified
    (unreasoned : ∀ before entry, entry.Closing → reason before entry)
    (body : Program.Triple (fun machine => machine = Machine.initial)
      (protectedPolicyBody setup world) (fun _ machine => Justified reason machine.trace)
      (fun machine => Justified reason machine.trace)) :
    Justified reason (protectedPolicyTrace setup world) := by
  obtain ⟨suffix, grown, closing⟩ := protectedPolicyTrace_eq setup world
  have justified := Program.Triple.last_iff.mp body Machine.initial rfl
  rw [grown]
  apply justified.append_unreasoned
  exact fun entry member before => unreasoned before entry (closing entry member)

end Justified

end SpriteRuntime
