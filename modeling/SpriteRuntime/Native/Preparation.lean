import SpriteRuntime.Native.TargetRecord

/-!
# What the preparation establishes

During the preparation the measured state of the motors agrees with the feedback in
the trace, every reply so far is from a disabled drive, and a state is published
only once all motors have replied.  A target that names a published state is
therefore admitted in the slot that accepts it, or never.
-/

namespace SpriteRuntime

open Foundation

/-- The measured state and the health of the motors agree with the trace. -/
structure FeedbackRecord (setup : Setup) (machine : Machine) : Prop where
  measured : ∀ index, (machine.motors index).seen = true →
    ∃ feedback, latest (Event.replyOf setup index) machine.trace = some feedback ∧
      (machine.motors index).lastPosition =
        feedback.position (setup.loaded.descriptor index)
  healthy : ∀ event ∈ machine.trace, ∀ index feedback,
    event.reply setup = some (index, feedback) →
      IdentityValid (setup.loaded.descriptor index) 0 feedback

def Machine.measured (machine : Machine) (index : Index) : Bool × ℚ :=
  ((machine.motors index).seen, (machine.motors index).lastPosition)

/-- All kinds of event but the reading of feedback. -/
def unreadKinds : List Kind :=
  [.slot, .poll, .payload, .enable, .disable, .drained, .accepted, .published,
    .previewed]

theorem reply_of_unread {setup : Setup} {event : Event} (unread : event.kind ∈ unreadKinds) :
    event.reply setup = none := by
  cases event <;> simp_all [Event.reply, Event.kind, unreadKinds]

theorem replyOf_of_reply_eq_none {setup : Setup} {event : Event} {index : Index}
    (silent : event.reply setup = none) : event.replyOf setup index = none := by
  simp [Event.replyOf, silent]

theorem FeedbackRecord.of_unread {setup : Setup} {first last : Machine}
    (record : FeedbackRecord setup first) (same : Keeps Machine.measured first last)
    (grown : Extends (fun machine : Machine => machine.trace)
      (fun event => event.kind ∈ unreadKinds) first last) :
    FeedbackRecord setup last := by
  obtain ⟨suffix, grown, unread⟩ := grown
  dsimp only at grown
  have silent : ∀ event ∈ suffix, event.reply setup = none :=
    fun event member => reply_of_unread (unread event member)
  constructor
  · intro index seen
    have own : (last.measured index) = first.measured index := congrFun same index
    simp only [Machine.measured, Prod.mk.injEq] at own
    rw [own.1] at seen
    rw [own.2, grown, latest_append_of_none _ fun event member =>
      replyOf_of_reply_eq_none (silent event member)]
    exact record.measured index seen
  · intro event member index feedback reply
    rw [grown] at member
    rcases List.mem_append.mp member with earlier | later
    · exact record.healthy event earlier index feedback reply
    · rw [silent event later] at reply
      cases reply

theorem FeedbackRecord.triple (setup : Setup) {α : Type} {program : Native α}
    (leaves : program.Leaves Machine.measured) (emits : EmitsOnly unreadKinds program) :
    Program.Triple (FeedbackRecord setup) program (fun _ => FeedbackRecord setup)
      (fun _ => True) :=
  (leaves.both emits).triple (fun _ _ both record => record.of_unread both.1 both.2)
    fun _ _ _ _ => trivial

theorem measured_of_motors {α : Type} {program : Native α}
    (leaves : program.Leaves fun machine => machine.motors) :
    program.Leaves Machine.measured :=
  leaves.map fun motors index => ((motors index).seen, (motors index).lastPosition)

/-- A reply that was taken over is the latest one of its motor. -/
theorem FeedbackRecord.absorb {setup : Setup} {machine : Machine}
    (record : FeedbackRecord setup machine) {event : Event} {index : Index}
    {feedback : Feedback} (reply : event.reply setup = some (index, feedback))
    (valid : IdentityValid (setup.loaded.descriptor index) 0 feedback)
    {motor : MotorState}
    (position : motor.lastPosition = feedback.position (setup.loaded.descriptor index)) :
    FeedbackRecord setup
      { machine with
        motors := Function.update machine.motors index motor
        trace := machine.trace ++ [event] } := by
  constructor
  · intro other seen
    by_cases same : other = index
    · subst same
      exact ⟨feedback, by simp [Event.replyOf, reply], by simpa using position⟩
    · have silent : event.replyOf setup other = none := by
        simp [Event.replyOf, reply, Ne.symm same]
      simp only [Function.update_of_ne same] at seen ⊢
      rw [latest_concat, silent]
      exact record.measured other seen
  · intro other member motorIndex motorFeedback otherReply
    rcases List.mem_append.mp member with earlier | last
    · exact record.healthy other earlier motorIndex motorFeedback otherReply
    · rw [List.mem_singleton.mp last, reply] at otherReply
      cases otherReply
      exact valid

/-- An event that brings no reply keeps the record. -/
theorem FeedbackRecord.silent {setup : Setup} {machine : Machine}
    (record : FeedbackRecord setup machine) {event : Event}
    (silent : event.reply setup = none) :
    FeedbackRecord setup { machine with trace := machine.trace ++ [event] } := by
  constructor
  · intro index seen
    rw [latest_concat, replyOf_of_reply_eq_none silent]
    exact record.measured index seen
  · intro other member index feedback reply
    rcases List.mem_append.mp member with earlier | last
    · exact record.healthy other earlier index feedback reply
    · rw [List.mem_singleton.mp last, silent] at reply
      cases reply

/-- A reply that passes all checks leaves its position behind. -/
theorem absorbPolicyFeedback_eq_done {world : World} {descriptor : MotorDescriptor}
    {expectedStatus : ℤ} {enforceDynamicGuards : Bool} {feedback : Feedback}
    {before after : MotorState}
    (returned : absorbPolicyFeedback world descriptor expectedStatus enforceDynamicGuards
      feedback before = (.done (), after)) :
    after.lastPosition = feedback.position descriptor :=
  congrArg Report.position (absorbPolicyFeedback_report returned)

section Preparation

variable (setup : Setup) (world : World)

/-- Reading feedback from disabled drives keeps the record. -/
theorem drainPolicyRound_record (interface : String) :
    Program.Triple (FeedbackRecord setup)
      (drainPolicyRound setup world 0 false interface)
      (fun _ => FeedbackRecord setup) (fun _ => True) := by
  apply Program.Triple.of_done
  intro machine again final record returned
  have asked : FeedbackRecord setup
      { machine with calls := { machine.calls with read := machine.calls.read + 1 } } :=
    record.of_unread rfl (.of_eq rfl)
  obtain ⟨result, middle, read, rest⟩ := Program.bind_eq_done returned
  have reached : middle =
      { machine with
        calls := { machine.calls with read := machine.calls.read + 1 }
        trace := machine.trace ++ [.read interface result] } := by
    cases read
    rfl
  subst reached
  cases result with
  | again =>
      cases rest
      exact asked.silent rfl
  | failed => cases rest
  | received size frame =>
      dsimp only at rest
      split at rest
      · cases rest
      next wellFormed =>
          cases mapped : setup.feedbackMap interface (frameId frame) with
          | none =>
              simp only [policyReply, mapped] at rest
              cases rest
              exact asked.silent (by simp [Event.reply, wellFormed, mapped])
          | some index =>
              simp only [policyReply, mapped] at rest
              split at rest
              next valid =>
                  obtain ⟨_, absorbed, absorb, continued⟩ := Program.bind_eq_done rest
                  cases continued
                  obtain ⟨motor, taken, rfl⟩ := onMachineMotor_eq_done absorb
                  exact asked.absorb (by simp [Event.reply, wellFormed, mapped]) valid
                    (absorbPolicyFeedback_eq_done taken)
              · cases rest

theorem drainPolicyFeedback_record :
    Program.Triple (FeedbackRecord setup) (drainPolicyFeedback setup world 0 false)
      (fun _ => FeedbackRecord setup) (fun _ => True) := by
  apply Program.Triple.forEach_keeps
  intro interface
  apply Program.Triple.loop _ fun _ _ => trivial
  exact (drainPolicyRound_record setup world interface).consequence (fun _ => id)
    (fun again _ record => by simpa using record) (fun _ => id)

/-- Reading feedback never makes a motor unseen. -/
theorem drainPolicyFeedback_allSeen (expectedStatus : ℤ) (enforceGuards : Bool) :
    (drainPolicyFeedback setup world expectedStatus enforceGuards).Preserves allSeen := by
  apply drainPolicyFeedback_respects
  · exact fun interface machine seen => seen
  · intro index feedback machine seen other
    have own : Program.Preserves (fun motor : MotorState => motor.seen = true)
        (absorbPolicyFeedback world (setup.loaded.descriptor index) expectedStatus
          enforceGuards feedback) := by
      refine .bind (fun _ => id) fun _ => .bind (.runIf fun _ => id) fun _ => ?_
      refine .bind (fun _ => id) fun _ => .bind (.throwIf _) fun _ => ?_
      refine .bind .get fun motor => .bind (.throwIf _) fun _ => .bind (.throwIf _) fun _ => ?_
      exact fun _ _ => rfl
    by_cases same : other = index
    · subst same
      simpa [onMachineMotor, Program.zoom] using own (machine.motors other) (seen other)
    · simpa [onMachineMotor, Program.zoom, same] using seen other

/-- A state is published only once every motor has replied. -/
def Announced (machine : Machine) : Prop :=
  0 < machine.ipc.stateSequence → allSeen machine

/-- What the preparation keeps up in every step. -/
structure Preparing (machine : Machine) : Prop where
  targets : TargetRecord world machine
  feedback : FeedbackRecord setup machine
  announced : Announced machine

/-- The parts of the record are kept separately. -/
theorem Preparing.triple {α : Type} {program : Native α}
    (targets : Program.Triple (TargetRecord world) program (fun _ => TargetRecord world)
      (fun _ => True))
    (feedback : Program.Triple (FeedbackRecord setup) program
      (fun _ => FeedbackRecord setup) (fun _ => True))
    (announced : Program.Triple Announced program (fun _ => Announced) (fun _ => True)) :
    Program.Triple (Preparing setup world) program (fun _ => Preparing setup world)
      (fun _ => True) := by
  apply ((targets.both feedback).both announced).consequence
  · exact fun _ record => ⟨⟨record.targets, record.feedback⟩, record.announced⟩
  · exact fun _ _ record => ⟨record.1.1, record.1.2, record.2⟩
  · exact fun _ _ => trivial

/-- Steps that only poll keep the record. -/
theorem polling_record {α : Type} {program : Native α}
    (core : program.Leaves Machine.core) (emits : EmitsOnly [.slot, .poll] program) :
    Program.Triple (Preparing setup world) program (fun _ => Preparing setup world)
      (fun _ => True) := by
  have measured : program.Leaves Machine.measured :=
    core.map fun core index => ((core.2 index).seen, (core.2 index).lastPosition)
  have announced : program.Leaves fun machine =>
      (machine.ipc.stateSequence, fun index => (machine.motors index).seen) :=
    core.map fun core => (core.1.stateSequence, fun index => (core.2 index).seen)
  apply Preparing.triple
  · exact TargetRecord.triple (targets_of_commands (commands_of_core core))
      (emits.widen (by simp [quietKinds]))
  · exact FeedbackRecord.triple setup measured (emits.widen (by simp [unreadKinds]))
  · apply announced.triple _ fun _ _ _ _ => trivial
    intro first last same before published index
    simp only [Keeps, Prod.mk.injEq] at same
    rw [same.1] at published
    exact (congrFun same.2 index).trans (before published index)

/-- Reading feedback keeps the record. -/
theorem reading_record :
    Program.Triple (Preparing setup world) (drainPolicyFeedback setup world 0 false)
      (fun _ => Preparing setup world) (fun _ => True) := by
  have commands := drainPolicyFeedback_commands setup world 0 false
  have emits := EmitsOnly.drainPolicyFeedback setup world 0 false
  apply Preparing.triple
  · exact TargetRecord.triple (targets_of_commands commands)
      (emits.widen (by simp [quietKinds]))
  · exact drainPolicyFeedback_record setup world
  · apply (commands.both (drainPolicyFeedback_allSeen setup world 0 false)).triple _
      fun _ _ _ _ => trivial
    rintro first last ⟨same, seen⟩ before published
    have ipc : last.ipc = first.ipc := congrArg Prod.fst same
    rw [ipc] at published
    exact seen (before published)

/-- Draining the targets keeps the record. -/
theorem draining_record {now : ℤ} (inRange : world.ClockInRange → 0 ≤ now ∧ now < 2 ^ 62) :
    Program.Triple (Preparing setup world)
      (drainTargetPackets world setup.policyJointHash (some setup.jointSafety) now)
      (fun _ => Preparing setup world) (fun _ => True) := by
  have emits := EmitsOnly.drainTargetPackets world setup.policyJointHash
    (some setup.jointSafety) now
  have untargeted := drainTargetPackets_untargeted setup world now
  apply Preparing.triple
  · exact (drainTargetPackets_record setup world inRange).consequence (fun _ => id)
      (fun _ _ record => record.1) fun _ => id
  · exact FeedbackRecord.triple setup (measured_of_motors (untargeted.map Prod.fst))
      (emits.widen (by simp [unreadKinds]))
  · apply untargeted.triple _ fun _ _ _ _ => trivial
    intro first last same announced published index
    simp only [Keeps, Machine.untargeted, Prod.mk.injEq] at same
    rw [same.2.1] at published
    rw [same.1]
    exact announced published index

/-- Publishing a state keeps the record. -/
theorem publishing_record (slot : ℕ) :
    Program.Triple (Preparing setup world) (publishState setup world slot)
      (fun _ => Preparing setup world) (fun _ => True) := by
  have motors := (publishState_unsent setup world slot).map Prod.fst
  apply Preparing.triple
  · exact publishState_record setup world slot
  · exact FeedbackRecord.triple setup (measured_of_motors motors)
      ((EmitsOnly.publishState setup world slot).widen (by simp [unreadKinds]))
  · intro machine announced
    by_cases seen : allSeen machine
    · have kept : Program.Triple allSeen (publishState setup world slot)
          (fun _ => Announced) (fun _ => True) := by
        apply motors.triple _ fun _ _ _ _ => trivial
        intro first last same seen _ index
        have own : last.motors index = first.motors index := congrFun same index
        rw [own]
        exact seen index
      exact kept machine seen
    · have idle : publishState setup world slot machine = (.done (), machine) := by
        simp [publishState, Program.bind_apply, Program.runIf, seen]
      rw [idle]
      exact Program.Ends.done_iff.mpr announced

/-- A target that is carried into a slot names no published state. -/
def Unsourced (machine : Machine) : Prop :=
  machine.ipc.hasTarget = true → machine.ipc.latestTarget.sourceStateSequence = 0

/-- A target that names a published state was accepted in the slot's own drain. -/
def Current (machine : Machine) : Prop :=
  machine.ipc.hasTarget = true → 0 < machine.ipc.latestTarget.sourceStateSequence →
    latest Event.inbound machine.trace = some (some machine.ipc.latestTarget)

theorem unsourced_of_commands {α : Type} {program : Native α}
    (leaves : program.Leaves Machine.commands) :
    Program.Triple Unsourced program (fun _ => Unsourced) (fun _ => True) := by
  apply leaves.triple _ fun _ _ _ _ => trivial
  intro first last same unsourced
  have ipc : last.ipc = first.ipc := congrArg Prod.fst same
  unfold Unsourced
  rw [ipc]
  exact unsourced

theorem drainTargetPackets_current (now : ℤ) :
    Program.Triple Unsourced
      (drainTargetPackets world setup.policyJointHash (some setup.jointSafety) now)
      (fun _ => Current) (fun _ => True) := by
  have started : Program.Triple Unsourced (emit (.drained now)) (fun _ => Current)
      (fun _ => True) := by
    apply Program.Triple.modify
    intro machine unsourced hasTarget sourced
    exact absurd (unsourced hasTarget) (Nat.pos_iff_ne_zero.mp sourced)
  refine .bind started fun _ => .loop (.of_done ?_) fun _ _ => trivial
  intro machine again final current returned
  rcases drainTargetRound_eq_done world returned with
    ⟨rfl, rfl⟩ | ⟨rfl, bytes, _, rfl⟩
  · exact current
  · intro _ _
    simp [Event.inbound, IpcSocket.latch]

theorem publishState_current (slot : ℕ) :
    Program.Triple Current (publishState setup world slot) (fun _ => Current)
      (fun _ => True) := by
  have leaves : (publishState setup world slot).Leaves fun machine =>
      (machine.ipc.hasTarget, machine.ipc.latestTarget) :=
    (publishState_unsent setup world slot).map fun unsent =>
      (unsent.2.hasTarget, unsent.2.latestTarget)
  apply (leaves.both (EmitsOnly.publishState setup world slot)).triple _
    fun _ _ _ _ => trivial
  rintro first last ⟨same, suffix, grown, published⟩ current
  simp only [Keeps, Prod.mk.injEq] at same
  dsimp only at grown
  have silent : ∀ event ∈ suffix, event.inbound = none := by
    intro event member
    have kind := published event member
    cases event <;> simp_all [Event.inbound, Event.kind]
  unfold Current
  rw [same.1, same.2, grown, latest_append_of_none _ silent]
  exact current

/-- What `prepare` returns in: a state in which every motor has replied and the
latest target has passed the startup checks. -/
structure Ready (machine : Machine) : Prop where
  record : Preparing setup world machine
  current : Current machine
  hasTarget : machine.ipc.hasTarget = true
  seen : allSeen machine
  wake : ∃ now, latest Event.wake machine.trace = some now
  startup : ∀ joint, startupFailure setup machine.toControlState joint = none

theorem admitTarget_eq_done {admitted : Bool} {machine final : Machine}
    (returned : admitTarget setup machine = (.done admitted, final)) :
    final = machine ∧
      (admitted = false ∧ ¬(machine.ipc.hasTarget = true ∧ allSeen machine) ∨
        admitted = true ∧ machine.ipc.hasTarget = true ∧ allSeen machine ∧
          ∀ joint, startupFailure setup machine.toControlState joint = none) := by
  obtain ⟨_, _, read, rest⟩ := Program.bind_eq_done returned
  cases read
  split at rest
  next candidate =>
      cases checked : (List.finRange kJointCount).findSome?
          (startupFailure setup machine.toControlState) with
      | some what =>
          simp only [checked] at rest
          cases rest
      | none =>
          simp only [checked] at rest
          cases rest
          exact ⟨rfl, .inr ⟨rfl, candidate.1, candidate.2, by simpa using checked⟩⟩
  next waiting =>
      cases rest
      exact ⟨rfl, .inl ⟨rfl, waiting⟩⟩

/-- A slot of the preparation ends ready, or goes on with no target that names a
published state. -/
theorem preparationSlot_record (slot : ℕ) :
    Program.Triple (fun machine => Preparing setup world machine ∧ Unsourced machine)
      (preparationSlot setup world slot)
      (fun admitted machine =>
        if admitted then Ready setup world machine
        else Preparing setup world machine ∧ Unsourced machine)
      (fun _ => True) := by
  let waiting := fun machine : Machine => Preparing setup world machine ∧ Unsourced machine
  let drained := fun machine : Machine =>
    (Preparing setup world machine ∧ Current machine) ∧
      ∃ now, latest Event.wake machine.trace = some now
  have polling {α : Type} {program : Native α} (core : program.Leaves Machine.core)
      (emits : EmitsOnly [.slot, .poll] program) :
      Program.Triple waiting program (fun _ => waiting) (fun _ => True) :=
    ((polling_record setup world core emits).both
      (unsourced_of_commands (commands_of_core core))).consequence (fun _ => id)
      (fun _ _ => id) (fun _ _ => trivial)
  have reading : Program.Triple waiting (drainPolicyFeedback setup world 0 false)
      (fun _ => waiting) (fun _ => True) :=
    ((reading_record setup world).both
      (unsourced_of_commands (drainPolicyFeedback_commands setup world 0 false))).consequence
      (fun _ => id) (fun _ _ => id) (fun _ _ => trivial)
  have clock : Program.Triple waiting (monotonicNs world)
      (fun now machine => waiting machine ∧ ∃ call, world.clock call = some now)
      (fun _ => True) :=
    monotonicNs_reading world (polling (monotonicNs_core world) (.monotonicNs world))
  have draining (now : ℤ) : Program.Triple
      (fun machine => waiting machine ∧ ∃ call, world.clock call = some now)
      (drainTargetPackets world setup.policyJointHash (some setup.jointSafety) now)
      (fun _ => drained) (fun _ => True) := by
    rintro machine ⟨⟨record, unsourced⟩, call, reading⟩
    have inRange : world.ClockInRange → 0 ≤ now ∧ now < 2 ^ 62 :=
      fun clock => clock call now reading
    have all := ((draining_record setup world inRange).both
      (drainTargetPackets_current setup world now)).both
        (drainTargetPackets_record setup world inRange)
    apply all.consequence (fun _ => id) _ (fun _ _ => trivial) machine
      ⟨⟨record, unsourced⟩, record.targets⟩
    exact fun _ _ after => ⟨after.1, now, after.2.2⟩
  have publishing : Program.Triple drained (publishState setup world slot)
      (fun _ => drained) (fun _ => True) := by
    rintro machine ⟨before, now, wake⟩
    have all := ((publishing_record setup world slot).both
      (publishState_current setup world slot)).both
        (wake_kept (EmitsOnly.publishState setup world slot) (by simp) now)
    apply all.consequence (fun _ => id) _ (fun _ _ => trivial) machine ⟨before, wake⟩
    exact fun _ _ after => ⟨after.1, now, after.2⟩
  refine .bind (polling (emit_core _) (.emit (by simp [Event.kind]))) fun _ => ?_
  refine .bind (polling (checkShutdownRequest_core world _)
    (.checkShutdownRequest world _)) fun _ => ?_
  refine .bind (polling (sleepUntil_core world) (.sleepUntil world)) fun _ => ?_
  refine .bind (polling (pollDue_core setup world slot)
    ((EmitsOnly.pollDue setup world slot).widen (by simp))) fun _ => ?_
  refine .bind reading fun _ => .bind clock fun now => .bind (draining now) fun _ => ?_
  refine .bind publishing fun _ => .of_done ?_
  rintro machine admitted final ⟨⟨record, current⟩, wake⟩ returned
  obtain ⟨rfl, ⟨rfl, waits⟩ | ⟨rfl, hasTarget, seen, startup⟩⟩ :=
    admitTarget_eq_done setup returned
  · refine ⟨record, fun hasTarget => ?_⟩
    -- A published state would mean that all motors are seen, and the slot would
    -- have ended one way or the other.
    by_contra sourced
    have source := record.targets.source hasTarget
    exact waits ⟨hasTarget, record.announced (by omega)⟩
  · exact ⟨record, current, hasTarget, seen, wake, startup⟩

/-- A preparation that returns is ready. -/
theorem prepare_ready {final : Machine}
    (returned : prepare setup world Machine.initial = (.done (), final)) :
    Ready setup world final := by
  let waiting := fun machine : Machine => Preparing setup world machine ∧ Unsourced machine
  have started : Preparing setup world Machine.initial := by
    constructor
    · constructor <;> simp [Machine.initial, Published, Foundation.latest]
      omega
    · constructor <;> simp [Machine.initial]
    · simp [Announced, Machine.initial]
  have core := monotonicNs_core world
  have clock : Program.Triple waiting (monotonicNs world) (fun _ => waiting) (fun _ => True) :=
    ((polling_record setup world core (.monotonicNs world)).both
      (unsourced_of_commands (commands_of_core core))).consequence (fun _ => id)
      (fun _ _ => id) (fun _ _ => trivial)
  have spec : Program.Triple waiting (prepare setup world) (fun _ => Ready setup world)
      (fun _ => True) := by
    unfold prepare
    generalize List.range preparationSlots = slots
    refine .bind clock fun _ => .bind (.anyEach (preparationSlot_record setup world)) ?_
    intro prepared
    cases prepared with
    | true => exact .throwIf _ (fun _ _ _ => trivial) fun _ _ ready => ready
    | false => exact .throwIf _ (fun _ _ _ => trivial) fun passed => absurd rfl passed
  exact spec.of_eq_done ⟨started, by simp [Unsourced, Machine.initial]⟩ returned

end Preparation

end SpriteRuntime
