import SpriteRuntime.Native.Frames

/-!
# A slot of the active loop

A slot first follows the targets and commands the motors, then reads the feedback,
and then may publish the state.  Only the reading changes what a motor has reported;
everything else is followed by what it adds to the trace.
-/

namespace SpriteRuntime

open Foundation

/-- The slot that an event begins. -/
def Event.slotOf : Event → Option (Phase × ℕ)
  | .slot phase index => some (phase, index)
  | _ => none

/-- The slot in which a run is after a trace. -/
def currentSlot (trace : List Event) : Option (Phase × ℕ) := latest Event.slotOf trace

theorem slotOf_of_kind {event : Event} (other : event.kind ≠ .slot) :
    event.slotOf = none := by
  cases event with
  | slot phase index => exact absurd rfl other
  | _ => rfl

/-- Within a slot the slot stays. -/
theorem currentSlot_append {trace suffix : List Event} {kinds : List Kind}
    (within : .slot ∉ kinds) (allowed : ∀ event ∈ suffix, event.kind ∈ kinds) :
    currentSlot (trace ++ suffix) = currentSlot trace := by
  apply latest_append_of_none
  intro event member
  apply slotOf_of_kind
  intro same
  exact within (same ▸ allowed event member)

section Slot

variable (setup : Setup) (world : World)

/-- The part of a slot before the feedback is read. -/
def commandSlot (startNs : ℤ) (slot : ℕ) : Native Unit := do
  checkShutdownRequest world "protected-policy shutdown signal received"
  let deadlineNs := startNs + slot * kTransportPeriodNs
  sleepUntil world
  let wokeNs ← monotonicNs world
  Program.runIf (slot % 4 = 0) (recordLateness wokeNs deadlineNs)
  drainTargetPackets world setup.policyJointHash (some setup.jointSafety) wokeNs
  let machine ← Program.get
  Program.throwIf (WatchdogExpired wokeNs machine.ipc)
    "protected-policy target watchdog expired"
  Program.runIf (slot % 4 = 0) (previewCommands setup)
  commandDue setup world slot

/-- The part of a slot from the reading of the feedback on. -/
def feedbackSlot (slot : ℕ) : Native Unit := do
  drainPolicyFeedback setup world (if slot < 200 then -1 else 1) true
  Program.runIf (slot = 200) (verifyEnabled setup)
  publishState setup world slot

theorem activeSlot_eq (startNs : ℤ) (slot : ℕ) :
    activeSlot setup world startNs slot =
      (do
        emit (.slot .active slot)
        commandSlot setup world startNs slot
        feedbackSlot setup world slot) := by
  simp only [activeSlot, commandSlot, feedbackSlot, Program.bind_assoc]

end Slot

section Reports

variable {setup : Setup} {world : World}

theorem reports_of_motors {α : Type} {program : Native α}
    (leaves : program.Leaves fun machine => machine.motors) :
    program.Leaves Machine.reports :=
  leaves.map fun motors index => (motors index).report

theorem reports_of_core {α : Type} {program : Native α} (leaves : program.Leaves Machine.core) :
    program.Leaves Machine.reports :=
  leaves.map fun core index => (core.2 index).report

theorem onMachineMotor_reports {α : Type} {program : Program MotorState String α}
    (index : Index) (leaves : program.Leaves MotorState.report) :
    (onMachineMotor index program).Leaves Machine.reports :=
  (onMachineMotor_leaves index leaves).map fun views => views.2

theorem previewMotor_report (descriptor : MotorDescriptor) (saturate : Bool)
    (fresh : Option MitCommand) :
    (previewMotor descriptor saturate fresh).Leaves MotorState.report := by
  refine .bind (.modify fun motor => ?_) fun _ => .bind .get fun motor => .runIf ?_
  · cases fresh <;> rfl
  · refine .bind (.modify fun motor => ?_) fun _ => .bind .get fun saturated => ?_
    · unfold saturatePreview Keeps
      dsimp only
      split <;> rfl
    · exact .bind (.throwIf _) fun _ => .modify fun _ => rfl

theorem previewCommands_reports : (previewCommands setup).Leaves Machine.reports := by
  refine .bind .get fun before => .bind ?_ fun _ => .bind .get fun after => .modify fun _ => rfl
  have calls : (previewFinalMotorCommands setup.loaded.descriptor setup.kinematics
      setup.saturatePolicyTorque).Leaves
        fun control index => (control.motors index).report := by
    refine .bind .get fun start => .runIf (.bind (.forEach fun index _ => ?_) fun _ =>
      .modify fun _ => rfl)
    intro control
    funext other
    by_cases same : other = index
    · subst same
      have own : (previewMotor (setup.loaded.descriptor other) setup.saturatePolicyTorque
          (freshCommand (setup.loaded.descriptor other) setup.kinematics start other)
          (control.motors other)).2.report = (control.motors other).report :=
        previewMotor_report _ _ _ (control.motors other)
      simpa [onMotor, Program.zoom] using own
    · simp [onMotor, Program.zoom, same]
  intro machine
  exact calls machine.toControlState

theorem protectedPolicyPayload_report (descriptor : MotorDescriptor) (bounded : Bool) :
    (protectedPolicyPayload descriptor bounded).Leaves MotorState.report := by
  refine .bind .get fun motor => .bind (.throwIf _) fun _ => .bind (.ofExcept _) fun _ => ?_
  refine .bind (.bind .get fun _ => ?_) fun _ => ?_
  · split
    · exact .bind (.ofExcept _) fun _ => .bind (.modify fun _ => rfl) fun _ => .pure _
    · exact .pure _
  · exact .bind (.throwIf _) fun _ => .bind (.modify fun _ => rfl) fun _ => .pure _

/-- Nothing before the reading of the feedback changes what a motor has reported. -/
theorem commandSlot_reports (startNs : ℤ) (slot : ℕ) :
    (commandSlot setup world startNs slot).Leaves Machine.reports := by
  refine .bind (reports_of_core (checkShutdownRequest_core world _)) fun _ => ?_
  refine .bind (reports_of_core (sleepUntil_core world)) fun _ => ?_
  refine .bind (reports_of_core (monotonicNs_core world)) fun wokeNs => ?_
  refine .bind (.runIf (reports_of_core (recordLateness_core _ _))) fun _ => ?_
  refine .bind ((drainTargetPackets_untargeted setup world wokeNs).map fun view index =>
    (view.1 index).report) fun _ => ?_
  refine .bind .get fun machine => .bind (.throwIf _) fun _ => ?_
  refine .bind (.runIf previewCommands_reports) fun _ => .forEach fun index _ => .runIf ?_
  refine .bind .get fun machine => .bind ?_ fun data => ?_
  · exact onMachineMotor_reports index (protectedPolicyPayload_report _ _)
  · exact reports_of_core (sendPayload_core setup world _ index data)

theorem publishState_reports (slot : ℕ) :
    (publishState setup world slot).Leaves Machine.reports :=
  (publishState_unsent setup world slot).map fun view index => (view.1 index).report

theorem EmitsOnly.commandSlot (startNs : ℤ) (slot : ℕ) :
    EmitsOnly [.drained, .accepted, .previewed, .payload]
      (SpriteRuntime.commandSlot setup world startNs slot) := by
  refine .bind (checkShutdownRequest world _) fun _ => ?_
  refine .bind (sleepUntil world) fun _ => .bind (monotonicNs world) fun wokeNs => ?_
  refine .bind (.runIf (.modify fun _ => .of_eq rfl)) fun _ => ?_
  refine .bind ((drainTargetPackets _ _ _ wokeNs).widen (by simp)) fun _ => ?_
  refine .bind .get fun machine => .bind (.throwIf _) fun _ => ?_
  refine .bind (.runIf (.bind .get fun before => .bind (onControl _) fun _ => ?_)) fun _ => ?_
  · exact .bind .get fun after => emit (by simp [Event.kind])
  · exact forEachMotor fun index => .runIf ((commandMotor setup world index).widen (by simp))

/-- What a step that reads nothing and begins no slot carries over, given the reports it
leaves alone. -/
theorem unread_triple {α : Type} {program : Native α} {kinds : List Kind}
    (leaves : program.Leaves Machine.reports) (emits : EmitsOnly kinds program)
    {pre post : Machine → Prop}
    (carries : ∀ first last suffix, last.reports = first.reports →
      last.trace = first.trace ++ suffix → (∀ event ∈ suffix, event.kind ∈ kinds) →
      pre first → post last) :
    Program.Triple pre program (fun _ => post) post := by
  apply (leaves.both emits).triple
  · rintro first last ⟨same, suffix, grown, allowed⟩
    exact carries first last suffix same grown allowed
  · rintro first last ⟨same, suffix, grown, allowed⟩
    exact carries first last suffix same grown allowed

end Reports

section Reading

variable {setup : Setup} {world : World} {expectedStatus : ℤ} {enforceGuards : Bool}

/-- The rule for draining: a read and what is done with it keep the invariant. -/
theorem drainPolicyFeedback_triple {invariant escape : Machine → Prop}
    (step : ∀ interface result machine, invariant machine →
      Program.Ends (fun _ => invariant) escape
        (policyRead setup world expectedStatus enforceGuards interface result
          (afterRead result interface machine)))
    (cut : ∀ machine, invariant machine → escape machine) :
    Program.Triple invariant
      (drainPolicyFeedback setup world expectedStatus enforceGuards) (fun _ => invariant)
      escape := by
  apply Program.Triple.forEach_keeps
  intro interface
  apply Program.Triple.loop _ cut
  intro machine holds
  rw [drainPolicyRound_apply]
  have round := step interface (world.read machine.calls.read) machine holds
  exact round.mono (fun again after => by simpa using after) id

end Reading

section Rule

variable {setup : Setup} {world : World} {startNs : ℤ} {slot : ℕ}
  {before within after leaving : Machine → Prop}

/-- The rule for a slot: `within` holds from the slot's beginning to its publication. -/
theorem activeSlot_triple
    (entering : Program.Triple before (emit (.slot .active slot)) (fun _ => within) leaving)
    (commanding : Program.Triple within (commandSlot setup world startNs slot)
      (fun _ => within) leaving)
    (reading : Program.Triple within
      (drainPolicyFeedback setup world (if slot < 200 then -1 else 1) true)
      (fun _ => within) leaving)
    (verifying : ∀ machine, within machine → leaving machine)
    (publishing : Program.Triple within (publishState setup world slot) (fun _ => after)
      leaving) :
    Program.Triple before (activeSlot setup world startNs slot) (fun _ => after) leaving := by
  have verified : Program.Triple within
      (Program.runIf (slot = 200) (verifyEnabled setup)) (fun _ => within) leaving := by
    refine .runIf (fun _ => .bind (.get fun _ => id) fun machine => ?_) fun _ _ => id
    exact .forEach_keeps fun index => .throwIf _ (fun _ => verifying) fun _ _ => id
  rw [activeSlot_eq]
  refine .bind entering fun _ => .bind commanding fun _ => .bind reading fun _ => ?_
  exact .bind verified fun _ => publishing

end Rule

end SpriteRuntime
