import SpriteRuntime.Native.Preparation

/-!
# How fresh a commanded target is

The preview runs in every fourth slot of the active loop and counts its calls; an
ankle motor gets a new command from every call and every other motor from every
tenth.  A payload is encoded from the preview of its motor, so its age in slots is
the distance to the last slot that refreshed the motor, whatever slots the phase
assignment has given the motor to be polled in.
-/

namespace SpriteRuntime

open Foundation

/-- The slot of the active loop. -/
def Event.activeSlot : Event → Option ℕ
  | .slot .active index => some index
  | _ => none

/-- The number of slots between two refreshes of a motor. -/
def refreshPeriod (descriptor : MotorDescriptor) : ℕ :=
  if descriptor.isAnkleMotor then 4 else 40

/-- The last slot up to the given one that refreshes the motor. -/
def refreshSlot (descriptor : MotorDescriptor) (slot : ℕ) : ℕ :=
  refreshPeriod descriptor * (slot / refreshPeriod descriptor)

section Record

variable (setup : Setup) (world : World)

/-- The preview of a motor goes back to a refresh in the given slot, from the target
that was the latest one then and timely, and has only been held since. -/
def RefreshedAt (trace : List Event) (index : Index) (slot : ℕ) (preview : MitCommand) :
    Prop :=
  ∃ earlier before after since held,
    trace = earlier ++ .previewed before after :: since ∧
      latest Event.activeSlot earlier = some slot ∧
      latest Event.target earlier = some before.ipc.latestTarget ∧
      Timely earlier before.ipc.latestTarget ∧
      refreshes (setup.loaded.descriptor index) before.ipc.motorPreviewCount = true ∧
      previewFinalMotorCommands setup.loaded.descriptor setup.kinematics
        setup.saturatePolicyTorque before = (.done (), after) ∧
      Relation.ReflTransGen (HeldTick setup.loaded.descriptor setup.kinematics
        setup.saturatePolicyTorque index) after held ∧
      (held.motors index).previewInitialized = true ∧
      (held.motors index).preview = preview

theorem RefreshedAt.append {setup : Setup} {trace : List Event} {index : Index} {slot : ℕ}
    {preview : MitCommand} (refreshed : RefreshedAt setup trace index slot preview)
    (suffix : List Event) : RefreshedAt setup (trace ++ suffix) index slot preview := by
  obtain ⟨earlier, before, after, since, held, rfl, rest⟩ := refreshed
  exact ⟨earlier, before, after, since ++ suffix, held, by simp, rest⟩

/-- Why a payload may be written after a trace: it encodes an initialised preview
that was refreshed at most three slots ago for an ankle motor and at most 39 slots ago
for another, and the latest target is timely, now and when it was refreshed from. -/
def PayloadFresh (before : List Event) (entry : Event) : Prop :=
  ∀ commanded index interface frame accepted,
    entry = .wrote (.payload commanded) index interface frame accepted →
      ∃ slot refreshed target,
        latest Event.activeSlot before = some slot ∧
          latest Event.target before = some target ∧ Timely before target ∧
          commanded.previewInitialized = true ∧
          (∃ after, protectedPolicyPayload (setup.loaded.descriptor index)
            setup.saturatePolicyTorque commanded = (.done frame.data, after)) ∧
          refreshed ≤ slot ∧
          slot - refreshed ≤ (if (setup.loaded.descriptor index).isAnkleMotor then 3 else 39) ∧
          RefreshedAt setup before index refreshed commanded.preview

theorem payloadFresh_of_other (kinds : List Kind) (others : .payload ∉ kinds)
    (before : List Event) (entry : Event) (kind : entry.kind ∈ kinds) :
    PayloadFresh setup before entry := by
  rintro commanded index interface frame accepted rfl
  exact absurd kind others

/-- The previews after `done` slots of the active loop. -/
structure PreviewRecord (done : ℕ) (machine : Machine) : Prop where
  count : machine.ipc.motorPreviewCount = (done + 3) / 4
  held : ∀ slot, slot + 1 = done → ∀ index,
    (machine.motors index).previewInitialized = true ∧
      RefreshedAt setup machine.trace index
        (refreshSlot (setup.loaded.descriptor index) slot) (machine.motors index).preview

/-- The state in a slot of the active loop, with the previews of `done` slots. -/
structure SlotRecord (slot done : ℕ) (machine : Machine) : Prop where
  targets : TargetRecord world machine
  previews : PreviewRecord setup done machine
  current : latest Event.activeSlot machine.trace = some slot

def Machine.previews (machine : Machine) : ℕ × (Index → MitCommand × Bool) :=
  (machine.ipc.motorPreviewCount, fun index =>
    ((machine.motors index).preview, (machine.motors index).previewInitialized))

end Record

section Arithmetic

variable {descriptor : MotorDescriptor} {slot : ℕ}

theorem refreshSlot_le : refreshSlot descriptor slot ≤ slot :=
  Nat.mul_div_le slot (refreshPeriod descriptor)

theorem sub_refreshSlot :
    slot - refreshSlot descriptor slot ≤ if descriptor.isAnkleMotor then 3 else 39 := by
  unfold refreshSlot refreshPeriod
  by_cases ankle : descriptor.isAnkleMotor = true
  · simp only [ankle, if_true]
    omega
  · simp only [ankle, if_false, Bool.false_eq_true]
    omega

/-- A preview that refreshes the motor runs in the motor's refresh slot. -/
theorem refreshSlot_of_refreshes (aligned : slot % 4 = 0)
    (refreshed : refreshes descriptor ((slot + 3) / 4) = true) :
    refreshSlot descriptor slot = slot := by
  unfold refreshes at refreshed
  unfold refreshSlot refreshPeriod
  by_cases ankle : descriptor.isAnkleMotor = true
  · simp only [ankle, if_true]
    omega
  · simp only [ankle, if_false, Bool.false_eq_true, Bool.false_or, beq_iff_eq] at refreshed ⊢
    omega

/-- A slot that does not refresh the motor belongs to the slot before it. -/
theorem refreshSlot_succ
    (held : (slot + 1) % 4 ≠ 0 ∨ refreshes descriptor ((slot + 1 + 3) / 4) = false) :
    refreshSlot descriptor (slot + 1) = refreshSlot descriptor slot := by
  unfold refreshes at held
  unfold refreshSlot refreshPeriod
  by_cases ankle : descriptor.isAnkleMotor = true
  · simp only [ankle, if_true, Bool.true_or, Bool.true_eq_false, or_false] at held ⊢
    omega
  · simp only [ankle, if_false, Bool.false_eq_true, Bool.false_or, beq_eq_false_iff_ne]
      at held ⊢
    omega

end Arithmetic

section Quiet

variable {setup : Setup} {world : World}

/-- Steps that run no preview keep the record of the previews. -/
theorem PreviewRecord.of_kept {done : ℕ} {first last : Machine}
    (record : PreviewRecord setup done first) (same : Keeps Machine.previews first last)
    {suffix : List Event} (grown : last.trace = first.trace ++ suffix) :
    PreviewRecord setup done last := by
  obtain ⟨count, held⟩ := record
  simp only [Keeps, Machine.previews, Prod.mk.injEq] at same
  obtain ⟨sameCount, samePreview⟩ := same
  constructor
  · rw [sameCount, count]
  · intro slot last index
    have own := congrFun samePreview index
    simp only [Prod.mk.injEq] at own
    obtain ⟨initialized, refreshed⟩ := held slot last index
    rw [own.1, own.2, grown]
    exact ⟨initialized, refreshed.append suffix⟩

/-- Within a slot, everything but the preview keeps the record. -/
theorem slotRecord_kept {α : Type} {program : Native α} {kinds : List Kind} {slot done : ℕ}
    (targets : Program.Triple (TargetRecord world) program (fun _ => TargetRecord world)
      (fun _ => True))
    (previews : program.Leaves Machine.previews) (emits : EmitsOnly kinds program)
    (noSlot : .slot ∉ kinds) :
    Program.Triple (SlotRecord setup world slot done) program
      (fun _ => SlotRecord setup world slot done) (fun _ => True) := by
  have rest : Program.Triple
      (fun machine => PreviewRecord setup done machine ∧
        latest Event.activeSlot machine.trace = some slot)
      program
      (fun _ machine => PreviewRecord setup done machine ∧
        latest Event.activeSlot machine.trace = some slot) (fun _ => True) := by
    apply (previews.both emits).triple _ fun _ _ _ _ => trivial
    rintro first last ⟨same, suffix, grown, allowed⟩ ⟨record, current⟩
    have silent : ∀ event ∈ suffix, event.activeSlot = none := by
      intro event member
      have kind := allowed event member
      cases event with
      | slot phase index => exact absurd kind noSlot
      | _ => rfl
    dsimp only at grown
    refine ⟨record.of_kept same grown, ?_⟩
    rw [grown, latest_append_of_none _ silent]
    exact current
  apply (targets.both rest).consequence
  · exact fun _ record => ⟨record.targets, record.previews, record.current⟩
  · exact fun _ _ record => ⟨record.1, record.2.1, record.2.2⟩
  · exact fun _ _ => trivial

theorem previews_of_commands {α : Type} {program : Native α}
    (leaves : program.Leaves Machine.commands) : program.Leaves Machine.previews :=
  leaves.map fun commands => (commands.1.motorPreviewCount, commands.2)

theorem previews_of_untargeted {α : Type} {program : Native α}
    (leaves : program.Leaves Machine.untargeted) : program.Leaves Machine.previews :=
  leaves.map fun untargeted => (untargeted.2.2, fun index =>
    ((untargeted.1 index).preview, (untargeted.1 index).previewInitialized))

theorem previews_of_unsent {α : Type} {program : Native α}
    (leaves : program.Leaves Machine.unsent) : program.Leaves Machine.previews :=
  leaves.map fun unsent => (unsent.2.motorPreviewCount, fun index =>
    ((unsent.1 index).preview, (unsent.1 index).previewInitialized))

end Quiet

section Preview

variable {setup : Setup} {world : World} {slot : ℕ}

/-- A target that may be commanded from: it is there and it is timely. -/
def Commandable (machine : Machine) : Prop :=
  machine.ipc.hasTarget = true ∧ Timely machine.trace machine.ipc.latestTarget

/-- A slot that is not a multiple of four runs no preview and refreshes nothing. -/
theorem PreviewRecord.skip {machine : Machine} (record : PreviewRecord setup slot machine)
    (unaligned : slot % 4 ≠ 0) : PreviewRecord setup (slot + 1) machine := by
  obtain ⟨count, held⟩ := record
  constructor
  · rw [count]
    omega
  · intro last same index
    obtain rfl : last = slot := Nat.succ.inj same
    have later : last ≠ 0 := by
      rintro rfl
      exact unaligned rfl
    obtain ⟨before, rfl⟩ := Nat.exists_eq_succ_of_ne_zero later
    obtain ⟨initialized, refreshed⟩ := held before rfl index
    rw [Nat.succ_eq_add_one, refreshSlot_succ (.inl unaligned)]
    exact ⟨initialized, refreshed⟩

/-- A preview refreshes the motors whose turn it is and holds the others. -/
theorem PreviewRecord.preview {machine : Machine} {after : ControlState}
    (record : PreviewRecord setup slot machine) (aligned : slot % 4 = 0)
    (current : latest Event.activeSlot machine.trace = some slot)
    (latestTarget : latest Event.target machine.trace = some machine.ipc.latestTarget)
    (commandable : Commandable machine)
    (returned : previewFinalMotorCommands setup.loaded.descriptor setup.kinematics
      setup.saturatePolicyTorque machine.toControlState = (.done (), after)) :
    PreviewRecord setup (slot + 1)
      { machine with
        toControlState := after
        trace := machine.trace ++ [.previewed machine.toControlState after] } := by
  obtain ⟨count, held⟩ := record
  obtain ⟨hasTarget, timely⟩ := commandable
  obtain ⟨ipc, steps⟩ := previewFinalMotorCommands_spec hasTarget returned
  constructor
  · rw [ipc]
    dsimp only
    rw [count]
    omega
  · intro last same index
    obtain rfl : last = slot := Nat.succ.inj same
    have step := steps index
    have initialized := previewMotor_previewInitialized step
    cases turn : refreshes (setup.loaded.descriptor index) machine.ipc.motorPreviewCount with
    | true =>
        have fresh := freshCommand_isSome (setup.loaded.descriptor index) setup.kinematics
          machine.toControlState index
        rw [turn] at fresh
        obtain ⟨command, isFresh⟩ := Option.isSome_iff_exists.mp fresh
        rw [isFresh] at initialized
        rw [refreshSlot_of_refreshes aligned (count ▸ turn)]
        exact ⟨initialized, machine.trace, machine.toControlState, after, [], after, rfl,
          current, latestTarget, timely, turn, returned, .refl, initialized, rfl⟩
    | false =>
        rw [freshCommand_eq_none turn] at initialized
        have later : last ≠ 0 := by
          rintro rfl
          rw [count] at turn
          simp [refreshes] at turn
        obtain ⟨before, rfl⟩ := Nat.exists_eq_succ_of_ne_zero later
        obtain ⟨wasInitialized, refreshed⟩ := held before rfl index
        rw [count] at turn
        rw [Nat.succ_eq_add_one, refreshSlot_succ (.inr turn)]
        refine ⟨initialized.trans wasInitialized, ?_⟩
        obtain ⟨earlier, first, next, since, last, grown, inSlot, target, wasTimely, refreshes,
          call, ticks, lastInitialized, lastPreview⟩ := refreshed
        refine ⟨earlier, first, next,
          since ++ [.previewed machine.toControlState after], after, by simp [grown], inSlot,
          target, wasTimely, refreshes, call, ticks.tail ?_, ?_, rfl⟩
        · refine ⟨machine.toControlState, lastPreview.symm, ?_, count ▸ turn, returned⟩
          rw [lastInitialized, wasInitialized]
        · exact initialized.trans wasInitialized

/-- What the trace of the active loop owes to its payloads. -/
abbrev PayloadsFresh (setup : Setup) (machine : Machine) : Prop :=
  Justified (PayloadFresh setup) machine.trace

theorem previewCommands_record (aligned : slot % 4 = 0) :
    Program.Triple
      (fun machine =>
        (SlotRecord setup world slot slot machine ∧ PayloadsFresh setup machine) ∧
          Commandable machine)
      (previewCommands setup)
      (fun _ machine =>
        (SlotRecord setup world slot (slot + 1) machine ∧ PayloadsFresh setup machine) ∧
          Commandable machine)
      (PayloadsFresh setup) := by
  rintro machine ⟨⟨record, fresh⟩, commandable⟩
  have unfolded : previewCommands setup machine =
      match previewFinalMotorCommands setup.loaded.descriptor setup.kinematics
        setup.saturatePolicyTorque machine.toControlState with
      | (.done _, after) => (.done (), { machine with
          toControlState := after
          trace := machine.trace ++ [.previewed machine.toControlState after] })
      | (.thrown what, after) => (.thrown what, { machine with toControlState := after })
      | (.unfinished, after) => (.unfinished, { machine with toControlState := after }) := by
    simp only [previewCommands, onControl, Program.zoom, Program.bind_apply,
      Program.get_apply, emit, Program.modify_apply]
    rcases previewFinalMotorCommands setup.loaded.descriptor setup.kinematics
      setup.saturatePolicyTorque machine.toControlState with ⟨outcome, after⟩
    cases outcome <;> rfl
  rw [unfolded]
  rcases call : previewFinalMotorCommands setup.loaded.descriptor setup.kinematics
    setup.saturatePolicyTorque machine.toControlState with ⟨outcome, after⟩
  cases outcome with
  | thrown what => exact Program.Ends.thrown_iff.mpr fresh
  | unfinished => exact Program.Ends.unfinished_iff.mpr fresh
  | done _ =>
      obtain ⟨ipc, _⟩ := previewFinalMotorCommands_spec commandable.1 call
      have latestTarget := (record.targets.latest commandable.1).1
      have previews := record.previews.preview aligned record.current latestTarget
        commandable call
      refine Program.Ends.done_iff.mpr ⟨⟨⟨?_, previews, ?_⟩, ?_⟩, ?_, ?_⟩
      · apply record.targets.of_quiet
        · simp [Keeps, Machine.targets, ipc]
        · exact ⟨[.previewed machine.toControlState after], rfl, by
            simp [Event.kind, quietKinds]⟩
      · simpa [Event.activeSlot] using record.current
      · apply fresh.concat
        exact payloadFresh_of_other setup [.previewed] (by simp) _ _ (by simp [Event.kind])
      · simpa [ipc] using commandable.1
      · simpa [Timely, Event.wake, ipc] using commandable.2

end Preview

section Command

variable {setup : Setup} {world : World} {slot : ℕ}

/-- What a command adds to the trace: nothing, or the payload of the motor's preview. -/
theorem commandMotor_trace (index : Index) (machine : Machine) :
    let final := (commandMotor setup world index machine).2
    final.trace = machine.trace ∨
      ∃ data after interface frame accepted,
        protectedPolicyPayload (setup.loaded.descriptor index) setup.saturatePolicyTorque
          (machine.motors index) = (.done data, after) ∧ frame.data = data ∧
        final.trace = machine.trace ++
          [.wrote (.payload (machine.motors index)) index interface frame accepted] := by
  rcases payload : protectedPolicyPayload (setup.loaded.descriptor index)
    setup.saturatePolicyTorque (machine.motors index) with ⟨outcome, after⟩
  cases outcome with
  | thrown what =>
      simp [commandMotor, onMachineMotor, Program.zoom, Program.bind_apply, payload]
  | unfinished =>
      simp [commandMotor, onMachineMotor, Program.zoom, Program.bind_apply, payload]
  | done data =>
      refine .inr ⟨data, after, (setup.loaded.descriptor index).interface,
        { canId := (setup.loaded.descriptor index).canId.toNat
          length := 8
          flags := canfdBrs
          data := data }, (world.write machine.calls.write).isOk, rfl, rfl, ?_⟩
      cases written : world.write machine.calls.write with
      | ok value =>
          simp [commandMotor, onMachineMotor, Program.zoom, Program.bind_apply, payload,
            sendPayload, writeFrame, answer, emit, countTx, written]
      | error what =>
          simp [commandMotor, onMachineMotor, Program.zoom, Program.bind_apply, payload,
            sendPayload, writeFrame, answer, emit, written]

theorem commandMotor_fresh {index : Index} {machine : Machine}
    (record : SlotRecord setup world slot (slot + 1) machine)
    (fresh : PayloadsFresh setup machine) (commandable : Commandable machine) :
    PayloadsFresh setup (commandMotor setup world index machine).2 := by
  unfold PayloadsFresh
  rcases commandMotor_trace index machine with
    same | ⟨data, after, interface, frame, accepted, payload, carried, grown⟩
  · rw [same]
    exact fresh
  · rw [grown]
    apply fresh.concat
    rintro commanded other _ wroteFrame _ wrote
    cases wrote
    obtain ⟨initialized, refreshed⟩ := record.previews.held slot rfl index
    have latestTarget := (record.targets.latest commandable.1).1
    exact ⟨slot, _, machine.ipc.latestTarget, record.current, latestTarget, commandable.2,
      initialized, ⟨after, carried ▸ payload⟩, refreshSlot_le, sub_refreshSlot, refreshed⟩

/-- A program that leaves the bookkeeping alone and drains nothing keeps the target
commandable. -/
theorem commandable_kept {α : Type} {program : Native α} {kinds : List Kind}
    (leaves : program.Leaves Machine.commands) (emits : EmitsOnly kinds program)
    (noDrain : .drained ∉ kinds) :
    Program.Triple Commandable program (fun _ => Commandable) (fun _ => True) := by
  apply (leaves.both emits).triple _ fun _ _ _ _ => trivial
  rintro first last ⟨same, suffix, grown, allowed⟩ ⟨hasTarget, timely⟩
  have ipc : last.ipc = first.ipc := congrArg Prod.fst same
  have silent : ∀ event ∈ suffix, event.wake = none := by
    intro event member
    have kind := allowed event member
    cases event with
    | drained now => exact absurd kind noDrain
    | _ => rfl
  dsimp only at grown
  unfold Commandable Timely
  rw [ipc, grown, latest_append_of_none _ silent]
  exact ⟨hasTarget, timely⟩

/-- The commands of a slot. -/
theorem commandDue_record :
    Program.Triple
      (fun machine =>
        (SlotRecord setup world slot (slot + 1) machine ∧ PayloadsFresh setup machine) ∧
          Commandable machine)
      (commandDue setup world slot)
      (fun _ machine =>
        SlotRecord setup world slot (slot + 1) machine ∧ PayloadsFresh setup machine)
      (PayloadsFresh setup) := by
  let commanding := fun machine : Machine =>
    (SlotRecord setup world slot (slot + 1) machine ∧ PayloadsFresh setup machine) ∧
      Commandable machine
  have command (index : Index) : Program.Triple commanding (commandMotor setup world index)
      (fun _ => commanding) (PayloadsFresh setup) := by
    have commands := commandMotor_commands setup world index
    have emits := EmitsOnly.commandMotor setup world index
    have kept : Program.Triple (SlotRecord setup world slot (slot + 1))
        (commandMotor setup world index)
        (fun _ => SlotRecord setup world slot (slot + 1)) (fun _ => True) :=
      slotRecord_kept (TargetRecord.triple (targets_of_commands commands)
        (emits.widen (by simp [quietKinds]))) (previews_of_commands commands) emits (by simp)
    have fresh : Program.Triple commanding (commandMotor setup world index)
        (fun _ => PayloadsFresh setup) (PayloadsFresh setup) :=
      Program.Triple.last_iff.mpr fun machine before =>
        commandMotor_fresh before.1.1 before.1.2 before.2
    apply ((kept.both fresh).both (commandable_kept commands emits (by simp))).consequence
    · exact fun _ before => ⟨⟨before.1.1, before⟩, before.2⟩
    · exact fun _ _ after => after
    · exact fun _ away => away.1.2
  have loop : Program.Triple commanding (commandDue setup world slot) (fun _ => commanding)
      (PayloadsFresh setup) :=
    .forEach_keeps fun index => .runIf (fun _ => command index) fun _ _ => id
  exact loop.consequence (fun _ => id) (fun _ _ => And.left) fun _ => id

end Command

section Loop

variable (setup : Setup) (world : World)

/-- Between two slots of the active loop. -/
structure LoopRecord (done : ℕ) (machine : Machine) : Prop where
  targets : TargetRecord world machine
  previews : PreviewRecord setup done machine
  fresh : PayloadsFresh setup machine

variable {setup world}

/-- A step of a slot that writes no payload. -/
theorem slotStep {α : Type} {program : Native α} {kinds : List Kind} {slot done : ℕ}
    (targets : Program.Triple (TargetRecord world) program (fun _ => TargetRecord world)
      (fun _ => True))
    (previews : program.Leaves Machine.previews) (emits : EmitsOnly kinds program)
    (noSlot : .slot ∉ kinds) (noPayload : .payload ∉ kinds) :
    Program.Triple
      (fun machine => SlotRecord setup world slot done machine ∧ PayloadsFresh setup machine)
      program
      (fun _ machine =>
        SlotRecord setup world slot done machine ∧ PayloadsFresh setup machine)
      (PayloadsFresh setup) := by
  have kept : Program.Triple (SlotRecord setup world slot done) program
      (fun _ => SlotRecord setup world slot done) (fun _ => True) :=
    slotRecord_kept targets previews emits noSlot
  have fresh : program.Preserves (PayloadsFresh setup) :=
    justified_kept emits (payloadFresh_of_other setup kinds noPayload)
  exact (kept.both fresh.triple).consequence (fun _ => id) (fun _ _ => id) fun _ => And.right

/-- The watchdog lets only a commandable target pass. -/
theorem commandable_of_watchdog (clock : world.ClockInRange) {now : ℤ} {call : ℕ}
    (reading : world.clock call = some now) {machine : Machine}
    (record : TargetRecord world machine)
    (wake : latest Event.wake machine.trace = some now)
    (alive : ¬WatchdogExpired now machine.ipc) : Commandable machine := by
  simp only [WatchdogExpired, not_or, Bool.not_eq_false, not_lt] at alive
  obtain ⟨hasTarget, timely⟩ := alive
  obtain ⟨nonneg, early⟩ := clock call now reading
  obtain ⟨_, upper, recent⟩ := record.stamp hasTarget
  have notOld := recent clock
  have exactDifference : wrap64 (now - machine.ipc.lastTargetNs) =
      now - machine.ipc.lastTargetNs := by
    apply wrap64_eq_self
    · omega
    · norm_num [kTargetTimeoutNs] at notOld
      omega
  rw [exactDifference, (record.latest hasTarget).2] at timely
  exact ⟨hasTarget, now, wake, timely⟩

/-- One slot of the active loop. -/
theorem activeSlot_record (clock : world.ClockInRange) (startNs : ℤ) (slot : ℕ) :
    Program.Triple (LoopRecord setup world slot) (activeSlot setup world startNs slot)
      (fun _ => LoopRecord setup world (slot + 1)) (PayloadsFresh setup) := by
  let inSlot := fun (done : ℕ) (machine : Machine) =>
    SlotRecord setup world slot done machine ∧ PayloadsFresh setup machine
  have entering : Program.Triple (LoopRecord setup world slot) (emit (.slot .active slot))
      (fun _ => inSlot slot) (PayloadsFresh setup) := by
    apply Program.Triple.modify
    intro machine record
    refine ⟨⟨?_, ?_, ?_⟩, ?_⟩
    · exact record.targets.of_quiet rfl ⟨_, rfl, by simp [Event.kind, quietKinds]⟩
    · exact record.previews.of_kept rfl rfl
    · simp [Event.activeSlot]
    · apply record.fresh.concat
      exact payloadFresh_of_other setup [.slot] (by simp) _ _ (by simp [Event.kind])
  have silent {α : Type} {program : Native α} (core : program.Leaves Machine.core)
      (emits : EmitsOnly [] program) :
      Program.Triple (inSlot slot) program (fun _ => inSlot slot) (PayloadsFresh setup) :=
    slotStep (TargetRecord.triple (targets_of_commands (commands_of_core core))
      (emits.widen (by simp))) (previews_of_commands (commands_of_core core)) emits
      (by simp) (by simp)
  have waking : Program.Triple (inSlot slot) (monotonicNs world)
      (fun now machine => inSlot slot machine ∧ ∃ call, world.clock call = some now)
      (PayloadsFresh setup) :=
    monotonicNs_reading world (silent (monotonicNs_core world) (.monotonicNs world))
  have draining {now : ℤ} {call : ℕ} (reading : world.clock call = some now) :
      Program.Triple (inSlot slot)
        (drainTargetPackets world setup.policyJointHash (some setup.jointSafety) now)
        (fun _ machine => inSlot slot machine ∧
          latest Event.wake machine.trace = some now) (PayloadsFresh setup) := by
    have record := drainTargetPackets_record setup world fun range => range call now reading
    have step : Program.Triple (inSlot slot)
        (drainTargetPackets world setup.policyJointHash (some setup.jointSafety) now)
        (fun _ => inSlot slot) (PayloadsFresh setup) :=
      slotStep (record.consequence (fun _ => id) (fun _ _ => And.left) fun _ => id)
        (previews_of_untargeted (drainTargetPackets_untargeted setup world now))
        (EmitsOnly.drainTargetPackets _ _ _ now) (by simp) (by simp)
    apply (step.both record).consequence
    · exact fun _ before => ⟨before, before.1.targets⟩
    · exact fun _ _ after => ⟨after.1, after.2.2⟩
    · exact fun _ => And.left
  have observing {now : ℤ} : Program.Triple
      (fun machine => inSlot slot machine ∧ latest Event.wake machine.trace = some now)
      (Program.get : Native Machine)
      (fun observed machine => observed = machine ∧ inSlot slot machine ∧
        latest Event.wake machine.trace = some now) (PayloadsFresh setup) :=
    .get fun _ before => ⟨rfl, before⟩
  have watching {now : ℤ} {call : ℕ} (reading : world.clock call = some now)
      (observed : Machine) : Program.Triple
        (fun machine => observed = machine ∧ inSlot slot machine ∧
          latest Event.wake machine.trace = some now)
        (Program.throwIf (WatchdogExpired now observed.ipc)
          "protected-policy target watchdog expired")
        (fun _ machine => inSlot slot machine ∧ Commandable machine)
        (PayloadsFresh setup) := by
    apply Program.Triple.throwIf
    · exact fun _ _ before => before.2.1.2
    · rintro alive machine ⟨rfl, before, wake⟩
      exact ⟨before, commandable_of_watchdog clock reading before.1.targets wake alive⟩
  have previewing : Program.Triple
      (fun machine => inSlot slot machine ∧ Commandable machine)
      (Program.runIf (slot % 4 = 0) (previewCommands setup))
      (fun _ machine => inSlot (slot + 1) machine ∧ Commandable machine)
      (PayloadsFresh setup) := by
    apply Program.Triple.runIf
    · exact fun aligned => previewCommands_record aligned
    · rintro unaligned machine ⟨⟨⟨targets, previews, current⟩, fresh⟩, commandable⟩
      exact ⟨⟨⟨targets, previews.skip unaligned, current⟩, fresh⟩, commandable⟩
  have reading (expectedStatus : ℤ) : Program.Triple (inSlot (slot + 1))
      (drainPolicyFeedback setup world expectedStatus true) (fun _ => inSlot (slot + 1))
      (PayloadsFresh setup) := by
    have commands := drainPolicyFeedback_commands setup world expectedStatus true
    have emits := EmitsOnly.drainPolicyFeedback setup world expectedStatus true
    exact slotStep (TargetRecord.triple (targets_of_commands commands)
      (emits.widen (by simp [quietKinds]))) (previews_of_commands commands) emits
      (by simp) (by simp)
  have verifying : Program.Triple (inSlot (slot + 1))
      (Program.runIf (slot = 200) (verifyEnabled setup)) (fun _ => inSlot (slot + 1))
      (PayloadsFresh setup) := by
    refine .runIf (fun _ => ?_) fun _ _ => id
    refine .bind (.get fun _ => id) fun machine => .forEach_keeps fun index => ?_
    exact .throwIf _ (fun _ _ => And.right) fun _ _ => id
  have publishing : Program.Triple (inSlot (slot + 1)) (publishState setup world slot)
      (fun _ => inSlot (slot + 1)) (PayloadsFresh setup) :=
    slotStep (publishState_record setup world slot)
      (previews_of_unsent (publishState_unsent setup world slot))
      (EmitsOnly.publishState setup world slot) (by simp) (by simp)
  refine .bind entering fun _ => ?_
  refine .bind (silent (checkShutdownRequest_core world _) (.checkShutdownRequest world _))
    fun _ => ?_
  refine .bind (silent (sleepUntil_core world) (.sleepUntil world)) fun _ => ?_
  refine .bind waking fun now => .assuming fun known => ?_
  obtain ⟨call, clockReading⟩ := known
  refine .bind (.runIf (fun _ => silent (recordLateness_core _ _)
    (.modify fun _ => .of_eq rfl)) fun _ _ => id) fun _ => ?_
  refine .bind (draining clockReading) fun _ => .bind observing fun observed => ?_
  refine .bind (watching clockReading observed) fun _ => .bind previewing fun _ => ?_
  refine .bind commandDue_record fun _ => .bind (reading _) fun _ => ?_
  refine .bind verifying fun _ => publishing.consequence (fun _ => id) ?_ fun _ => id
  exact fun _ _ after => ⟨after.1.targets, after.1.previews, after.2⟩

/-- Every payload of the active loop is fresh. -/
theorem activeLoop_record (clock : world.ClockInRange) :
    Program.Triple (LoopRecord setup world 0) (activeLoop setup world)
      (fun _ => PayloadsFresh setup) (PayloadsFresh setup) := by
  have unpaid {α : Type} {program : Native α} {kinds : List Kind}
      (emits : EmitsOnly kinds program) (noPayload : .payload ∉ kinds) :
      Program.Triple (PayloadsFresh setup) program (fun _ => PayloadsFresh setup)
        (PayloadsFresh setup) :=
    (justified_kept emits (payloadFresh_of_other setup kinds noPayload)).triple
  have starting : Program.Triple (LoopRecord setup world 0) (monotonicNs world)
      (fun _ => LoopRecord setup world 0) (PayloadsFresh setup) := by
    have core := monotonicNs_core world
    have emits : EmitsOnly [] (monotonicNs world) := .monotonicNs world
    have previews : Program.Triple (PreviewRecord setup 0) (monotonicNs world)
        (fun _ => PreviewRecord setup 0) (fun _ => True) := by
      apply ((previews_of_commands (commands_of_core core)).both emits).triple _
        fun _ _ _ _ => trivial
      rintro first last ⟨same, suffix, grown, _⟩ record
      exact record.of_kept same grown
    have targets : Program.Triple (TargetRecord world) (monotonicNs world)
        (fun _ => TargetRecord world) (fun _ => True) :=
      TargetRecord.triple (targets_of_commands (commands_of_core core))
        (emits.widen (by simp))
    apply ((targets.both previews).both (unpaid emits (by simp))).consequence
    · exact fun _ record => ⟨⟨record.targets, record.previews⟩, record.fresh⟩
    · exact fun _ _ record => ⟨record.1.1, record.1.2, record.2⟩
    · exact fun _ => And.right
  refine .bind starting fun now => .bind
    (.forEach_range fun slot _ => activeSlot_record clock (now + 20000000) slot) fun _ => ?_
  refine .bind ((unpaid (EmitsOnly.drainPolicyFeedback setup world 1 true)
    (by simp)).consequence (fun _ record => record.fresh) (fun _ _ => id) fun _ => id)
    fun _ => ?_
  refine .bind (.get fun _ => id) fun machine => .bind (.forEach_keeps fun index => ?_)
    fun _ => ?_
  · exact .throwIf _ (fun _ _ => id) fun _ _ => id
  · exact .throwIf _ (fun _ _ => id) fun _ _ => id

/-- Enabling starts the active loop without previews. -/
theorem enable_record :
    Program.Triple (fun machine => TargetRecord world machine ∧ PayloadsFresh setup machine)
      (enable setup world) (fun _ => LoopRecord setup world 0) (PayloadsFresh setup) := by
  have emits := EmitsOnly.enable setup world
  have sending (index : Index) :
      (sendSpecial setup world index enableOpcode).Leaves Machine.core :=
    .bind (.throwIf _) fun _ => sendPayload_core setup world _ index _
  have leaves : (enable setup world).Leaves Machine.targets := by
    refine .bind (.forEach fun _ _ _ => rfl) fun _ => .bind (.modify fun _ => rfl) fun _ => ?_
    refine .bind (.forEach fun index _ => ?_) fun _ => .forEach fun _ _ _ => rfl
    exact targets_of_commands (commands_of_core (sending index))
  have count : Program.Triple (fun _ => True) (enable setup world)
      (fun _ machine => machine.ipc.motorPreviewCount = 0) (fun _ => True) := by
    have zeroed : Program.Triple (fun _ => True)
        (Program.modify fun machine : Machine =>
          { machine with ipc := { machine.ipc with motorPreviewCount := 0 } } : Native Unit)
        (fun _ machine => machine.ipc.motorPreviewCount = 0) (fun _ => True) :=
      .modify _ fun _ _ => rfl
    have kept : (Program.forEach (List.finRange kJointCount) fun index =>
        sendSpecial setup world index enableOpcode).Leaves
          fun machine => machine.ipc.motorPreviewCount :=
      .forEach fun index _ => (sending index).map fun core => core.1.motorPreviewCount
    have last : (Program.forEach (List.finRange kJointCount) fun index =>
        onMachineMotor index (Program.modify fun motor =>
          { motor with txCount := 0 })).Leaves fun machine => machine.ipc.motorPreviewCount :=
      .forEach fun _ _ _ => rfl
    refine .bind (.of_done fun _ _ _ _ _ => trivial) fun _ => .bind zeroed fun _ => ?_
    refine .bind (kept.triple (fun _ _ same zero => same.trans zero) fun _ _ _ _ => trivial)
      fun _ => ?_
    exact last.triple (fun _ _ same zero => same.trans zero) fun _ _ _ _ => trivial
  have targets : Program.Triple (TargetRecord world) (enable setup world)
      (fun _ => TargetRecord world) (fun _ => True) :=
    TargetRecord.triple leaves (emits.widen (by simp [quietKinds]))
  have fresh : (enable setup world).Preserves (PayloadsFresh setup) :=
    justified_kept emits (payloadFresh_of_other setup _ (by simp))
  apply ((targets.both count).both fresh.triple).consequence
  · exact fun _ before => ⟨⟨before.1, trivial⟩, before.2⟩
  · rintro _ machine ⟨⟨record, zero⟩, payloads⟩
    exact ⟨record, ⟨zero, fun _ same => absurd same (Nat.succ_ne_zero _)⟩, payloads⟩
  · exact fun _ => And.right

end Loop

/-- Every payload that a run writes is fresh: the motor's preview goes back to a
refresh that is at most three slots old for an ankle motor and at most 39 for another,
and the latest target is at most 100 ms old in the slot and was so in the slot of the
refresh. -/
theorem protectedPolicyTrace_payloadsFresh (setup : Setup) (world : World)
    (clock : world.ClockInRange) :
    Justified (PayloadFresh setup) (protectedPolicyTrace setup world) := by
  have preparing : Program.Triple (fun machine => machine = Machine.initial)
      (prepare setup world)
      (fun _ machine => TargetRecord world machine ∧ PayloadsFresh setup machine)
      (PayloadsFresh setup) := by
    have targets : Program.Triple (fun machine => machine = Machine.initial)
        (prepare setup world) (fun _ => TargetRecord world) (fun _ => True) := by
      apply Program.Triple.of_done
      rintro _ _ final rfl returned
      exact (prepare_ready setup world returned).record.targets
    have fresh : (prepare setup world).Preserves (PayloadsFresh setup) :=
      justified_kept (EmitsOnly.prepare setup world) (payloadFresh_of_other setup _ (by simp))
    apply (targets.both fresh.triple).consequence
    · rintro _ rfl
      exact ⟨rfl, Justified.nil⟩
    · exact fun _ _ => id
    · exact fun _ => And.right
  apply protectedPolicyTrace_justified
  · exact fun before entry closing =>
      payloadFresh_of_other setup _ (by simp) before entry closing.kind
  · exact preparing.bind fun _ => enable_record.bind fun _ => activeLoop_record clock

/-- Motors and a peer that are there at once, and a clock that stands still for two
slots of the active loop and then fails. -/
def steadyWorld : World :=
  { quietWorld with
    clock := fun call => if call < 5 then some 0 else none
    read := fun call => benchReads.getD call .again
    recv := fun call => if call = 0 then .message statelessTarget else .again
    patience := 9 }

theorem steadyWorld_clockInRange : steadyWorld.ClockInRange := by
  intro call now reading
  simp only [steadyWorld] at reading
  split at reading
  · cases reading
    decide
  · cases reading

/-- The steady run writes payloads, and they are fresh. -/
theorem protectedPolicyTrace_payloadsFresh_steady :
    ∃ before entry after,
      protectedPolicyTrace ankleSetup steadyWorld = before ++ entry :: after ∧
        entry.kind = .payload ∧ PayloadFresh ankleSetup before entry := by
  have writes : .payload ∈ (protectedPolicyTrace ankleSetup steadyWorld).map Event.kind := by
    decide +kernel
  obtain ⟨entry, member, kind⟩ := List.mem_map.mp writes
  obtain ⟨before, after, split⟩ := List.append_of_mem member
  have fresh := protectedPolicyTrace_payloadsFresh ankleSetup steadyWorld
    steadyWorld_clockInRange
  exact ⟨before, entry, after, split, kind, fresh before entry after split⟩

end SpriteRuntime
