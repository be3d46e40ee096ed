import SpriteRuntime.Foundation.LossyBus
import SpriteRuntime.Foundation.ProgramSteps
import SpriteRuntime.Native.ActiveSlot
import SpriteRuntime.Native.ErrorTexts

/-!
# The drives behind a run

A drive is enabled or disabled, changes its status only on the frames that `sendSpecial` writes
for it, and answers with the status it has.  What the controller keeps of its replies is therefore
knowledge about the drives: a last status of one says that a drive has been enabled since the
start, and `finalDisabled` that it is disabled and stays so.
-/

namespace SpriteRuntime

open Foundation

/-- A frame on its way to the drives, with the function that wrote it. -/
abbrev MotorCommand : Type := Sender × CanFrame

/-- A frame on its way to the controller, with its size. -/
abbrev MotorReply : Type := ℕ × CanFrame

/-- The status that a frame gives the drive it is for. -/
def Sender.status : Sender → Option Bool
  | .special opcode =>
      if opcode = enableOpcode then some true
      else if opcode = disableOpcode then some false
      else none
  | _ => none

/-- The status that a status code stands for. -/
def statusOfCode : ℕ → Option Bool
  | 0 => some false
  | 1 => some true
  | _ => none

/-- The event as an action of the controller on a bus; a write that was refused may still have
reached the bus. -/
def Event.busAction : Event → Option (BusAction String MotorCommand MotorReply)
  | .wrote sender _ interface frame _ => some (.send interface (sender, frame))
  | .read interface (.received size frame) => some (.receive interface (size, frame))
  | _ => none

namespace Setup

variable (setup : Setup)

/-- The reply is a well-formed one of the motor. -/
def RepliesFor (index : Index) (reply : MotorReply) : Prop :=
  ¬reply.2.Malformed reply.1 ∧ (setup.loaded.descriptor index).masterId = frameId reply.2 ∧
    ((Feedback.ofData reply.2.data).controllerId : ℤ) = (setup.loaded.descriptor index).canId

instance (index : Index) (reply : MotorReply) : Decidable (setup.RepliesFor index reply) := by
  unfold RepliesFor
  infer_instance

/-- The drives on the buses of the robot. -/
def motorBus : SwitchBus String Index MotorCommand MotorReply where
  home index := (setup.loaded.descriptor index).interface
  effect index command :=
    if (command.2.canId : ℤ) = (setup.loaded.descriptor index).canId then command.1.status
    else none
  tells index reply :=
    if setup.RepliesFor index reply then statusOfCode (Feedback.ofData reply.2.data).statusCode
    else none
  distinct := by
    intro left right reply together first second
    split at first
    next fromLeft =>
        split at second
        next fromRight =>
            exact setup.distinctEndpoints left right together
              (fromLeft.2.1.trans fromRight.2.1.symm)
        · cases second
    · cases first

/-- What the trace of a run lets know of a drive. -/
def Knows (index : Index) (machine : Machine) (holds : List Bool → Prop) : Prop :=
  setup.motorBus.KnowsFrom Event.busAction index machine.trace holds

end Setup

/-- The frames that give a drive a status. -/
def commandKind (status : Bool) : Kind := if status then .enable else .disable

section Frames

variable {setup : Setup} {index : Index} {event : Event}

/-- A drive is only commanded by the special frames. -/
theorem kind_of_commands {action : BusAction String MotorCommand MotorReply} {status : Bool}
    (acted : action ∈ event.busAction) (commands : setup.motorBus.Commands index action status) :
    event.kind = commandKind status := by
  obtain ⟨command, rfl, taken⟩ := commands
  cases event with
  | wrote sender motor interface frame accepted =>
      cases acted
      have gives : sender.status = some status := by
        simp only [Setup.motorBus] at taken
        split at taken
        · exact taken
        · cases taken
      cases sender with
      | special opcode =>
          simp only [Sender.status] at gives
          split at gives
          next enables =>
              cases gives
              simp [Event.kind, commandKind, enables]
          next other =>
              split at gives
              · cases gives
                simp [Event.kind, commandKind, other]
              · cases gives
      | _ => cases gives
  | read interface result => cases result <;> cases acted
  | _ => cases acted

/-- What a read brings in, if it is a reply of the motor's own controller. -/
theorem busAction_read {interface : String} {result : ReadResult} {feedback : Feedback}
    (brought : (Event.read interface result).reply setup = some (index, feedback))
    (own : (feedback.controllerId : ℤ) = (setup.loaded.descriptor index).canId) :
    ∃ reply, (Event.read interface result).busAction =
        some (.receive (setup.motorBus.home index) reply) ∧
      setup.motorBus.tells index reply = statusOfCode feedback.statusCode := by
  cases result with
  | again => cases brought
  | failed => cases brought
  | received size frame =>
      simp only [Event.reply] at brought
      split at brought
      · cases brought
      next wellFormed =>
          obtain ⟨other, mapped, same⟩ := Option.map_eq_some_iff.mp brought
          cases same
          have found := List.find?_some mapped
          simp only [decide_eq_true_eq] at found
          refine ⟨(size, frame), ?_, ?_⟩
          · simp only [Event.busAction, Setup.motorBus, found.1]
          · exact if_pos ⟨wellFormed, found.2, own⟩

end Frames

/-- What is known of a drive stays known as long as it is not commanded to the other status. -/
theorem Setup.Knows.append {setup : Setup} {index : Index} {first last : Machine}
    {suffix : List Event} {kinds : List Kind} {status : Bool} {holds : List Bool → Prop}
    (known : setup.Knows index first holds) (tends : TendsTo status holds)
    (grown : last.trace = first.trace ++ suffix) (allowed : ∀ event ∈ suffix, event.kind ∈ kinds)
    (never : commandKind (!status) ∉ kinds) : setup.Knows index last holds := by
  unfold Setup.Knows
  rw [grown]
  refine SwitchBus.KnowsFrom.append known tends fun event member action acted commands => ?_
  have kind : event.kind = commandKind (!status) := kind_of_commands acted commands
  exact never (kind ▸ allowed event member)

/-! ## What the flags of the controller know -/

/-- The statuses of every drive are bound in some way, and a flag in what a motor has reported
says that its drive has one status only. -/
structure Tracked (setup : Setup) (status : Bool) (bound : List Bool → Prop)
    (flag : Report → Prop) (machine : Machine) : Prop where
  bounded : ∀ index, setup.Knows index machine bound
  flagged : ∀ index, flag (machine.reports index) → setup.Knows index machine (Only status)

section Tracking

variable {setup : Setup} {world : World} {status : Bool} {bound : List Bool → Prop}
  {flag : Report → Prop}

/-- A step that reads nothing and does not command the other status. -/
theorem Tracked.quiet (tends : TendsTo status bound) {α : Type} {program : Native α}
    {kinds : List Kind} (leaves : program.Leaves Machine.reports) (emits : EmitsOnly kinds program)
    (never : commandKind (!status) ∉ kinds) :
    Program.Triple (Tracked setup status bound flag) program
      (fun _ => Tracked setup status bound flag) fun _ => True := by
  refine (unread_triple leaves emits ?_).consequence (fun _ => id) (fun _ _ => id)
    fun _ _ => trivial
  intro first last suffix same grown allowed tracked
  constructor
  · exact fun index => (tracked.bounded index).append tends grown allowed never
  · intro index flagged
    rw [same] at flagged
    exact (tracked.flagged index flagged).append (only_tendsTo status) grown allowed never

/-- Reading keeps track if the flag is raised by replies with the status only. -/
theorem Tracked.drain (tends : TendsTo status bound) {expectedStatus : ℤ} (enforceGuards : Bool)
    (raised : ∀ descriptor (feedback : Feedback) before,
      flag (feedback.reported descriptor expectedStatus before) →
        statusOfCode feedback.statusCode = some status) :
    Program.Triple (Tracked setup status bound flag)
      (drainPolicyFeedback setup world expectedStatus enforceGuards)
      (fun _ => Tracked setup status bound flag) fun _ => True := by
  apply drainPolicyFeedback_triple _ fun _ _ => trivial
  intro interface result machine tracked
  refine ⟨fun again returned => ?_, fun _ => trivial⟩
  have never : commandKind (!status) ∉ [Kind.read] := by
    cases status <;> simp [commandKind]
  have reading : ∀ event ∈ [Event.read interface result], event.kind ∈ [Kind.read] := by
    simp [Event.kind]
  have trace := @policyRead_trace setup world expectedStatus enforceGuards interface result
    (afterRead result interface machine)
  generalize final : (policyRead setup world expectedStatus enforceGuards interface result
    (afterRead result interface machine)).2 = after at trace ⊢
  have grown : after.trace = machine.trace ++ [.read interface result] := trace
  refine ⟨fun index => (tracked.bounded index).append tends grown reading never,
    fun index flagged => ?_⟩
  rcases policyRead_eq_done (Prod.ext returned final) with
    ⟨same, _⟩ | ⟨heard, feedback, brought, valid, _, reports⟩
  · rw [same] at flagged
    exact (tracked.flagged index flagged).append (only_tendsTo status) grown reading never
  · rw [reports] at flagged
    by_cases mine : index = heard
    · subst mine
      rw [Function.update_self] at flagged
      obtain ⟨reply, acted, said⟩ := busAction_read brought valid.1
      unfold Setup.Knows
      rw [grown]
      exact SwitchBus.KnowsFrom.hear (tracked.bounded index) tends acted
        (said.trans (raised _ _ _ flagged))
    · rw [Function.update_of_ne mine] at flagged
      exact (tracked.flagged index flagged).append (only_tendsTo status) grown reading never

/-- A change of every motor. -/
theorem forEachMotor_modify_triple {before : List Event → Prop} {after : MotorState → Prop}
    {change : MotorState → MotorState} (changed : ∀ motor, after (change motor)) :
    Program.Triple (fun machine => before machine.trace)
      (forEachMotor fun index => onMachineMotor index (Program.modify change))
      (fun _ machine => before machine.trace ∧ ∀ index, after (machine.motors index))
      fun _ => True := by
  let sofar := fun (handled : List Index) (machine : Machine) =>
    before machine.trace ∧ ∀ index ∈ handled, after (machine.motors index)
  have round (handled : List Index) (index : Index) : Program.Triple (sofar handled)
      (onMachineMotor index (Program.modify change)) (fun _ => sofar (handled ++ [index]))
      fun _ => True := by
    rintro machine ⟨kept, done⟩
    refine Program.Ends.done_iff.mpr ⟨kept, fun other member => ?_⟩
    by_cases same : other = index
    · subst same
      simpa using changed (machine.motors other)
    · have earlier : other ∈ handled := by simpa [same] using member
      simpa [same] using done other earlier
  apply (Program.Triple.forEach fun handled index _ _ => round handled index).consequence
  · exact fun machine kept => ⟨kept, by simp⟩
  · exact fun _ machine after => ⟨after.1, fun index => after.2 index (List.mem_finRange index)⟩
  · exact fun _ => id

end Tracking

section Body

variable {setup : Setup} {world : World}

/-- The last status is that of an enabled drive. -/
def Report.Enabled (report : Report) : Prop := report.statusCode = 1

/-- Before the shutdown: the drives go on only, and one whose last status is one has been
enabled. -/
abbrev Watched (setup : Setup) (bound : List Bool → Prop) (machine : Machine) : Prop :=
  Tracked setup true bound Report.Enabled machine

theorem Watched.drain {bound : List Bool → Prop} (tends : TendsTo true bound)
    (expectedStatus : ℤ) (enforceGuards : Bool) :
    Program.Triple (Watched setup bound)
      (drainPolicyFeedback setup world expectedStatus enforceGuards)
      (fun _ => Watched setup bound) fun _ => True := by
  apply Tracked.drain tends
  intro descriptor feedback before enabled
  have code : (feedback.statusCode : ℤ) = 1 := enabled
  rw [Nat.cast_eq_one.mp code]
  rfl

/-- Enabling starts the watch: no motor has a status yet. -/
theorem Watched.enable :
    Program.Triple (fun machine => ∀ index, setup.Knows index machine OnlyRises)
      (enable setup world) (fun _ => Watched setup OnlyRises) fun _ => True := by
  have resetting : Program.Triple (fun machine => ∀ index, setup.Knows index machine OnlyRises)
      (forEachMotor fun index => onMachineMotor index (Program.modify resetForEnable))
      (fun _ => Watched setup OnlyRises) fun _ => True := by
    let rising := fun trace : List Event => ∀ index,
      setup.motorBus.KnowsFrom Event.busAction index trace OnlyRises
    let fresh := fun motor : MotorState => motor.lastStatusCode = 0
    refine (@forEachMotor_modify_triple rising fresh resetForEnable fun _ => rfl).consequence
      (fun _ => id) ?_ fun _ => id
    rintro _ machine ⟨known, reset⟩
    refine ⟨known, fun index enabled => ?_⟩
    have none : (machine.reports index).statusCode = 0 := reset index
    rw [Report.Enabled, none] at enabled
    cases enabled
  have previews : EmitsOnly [] (Program.modify fun machine : Machine =>
      { machine with ipc := { machine.ipc with motorPreviewCount := 0 } }) :=
    .modify fun _ => .of_eq rfl
  have counting : EmitsOnly [] (forEachMotor fun index => onMachineMotor index
      (Program.modify fun motor => { motor with txCount := 0 })) :=
    .forEachMotor fun _ => .onMachineMotor _ _
  have enabling : EmitsOnly [.enable] (forEachMotor fun index =>
      sendSpecial setup world index enableOpcode) :=
    .forEachMotor fun index => .sendEnable setup world index
  refine .bind resetting fun _ => ?_
  refine .bind (Tracked.quiet onlyRises_tendsTo (.modify fun _ => rfl) previews (by simp))
    fun _ => .bind (Tracked.quiet onlyRises_tendsTo (.forEach fun index _ => ?_) enabling
      (by simp [commandKind])) fun _ => ?_
  · exact reports_of_core (.bind (.throwIf _) fun _ => sendPayload_core setup world _ index _)
  · exact Tracked.quiet onlyRises_tendsTo
      (.forEach fun index _ => onMachineMotor_reports index (.modify fun _ => rfl)) counting
      (by simp)

/-- What is known of the drives when a slot begins: from slot 201 on all have been enabled. -/
def slotBound (slot : ℕ) : List Bool → Prop := if 200 < slot then Only true else OnlyRises

theorem slotBound_tendsTo (slot : ℕ) : TendsTo true (slotBound slot) := by
  unfold slotBound
  split
  · exact only_tendsTo true
  · exact onlyRises_tendsTo

/-- In slot 200 every drive is known to have been enabled, or the run is left. -/
theorem Watched.activeSlot (startNs : ℤ) (slot : ℕ) :
    Program.Triple (Watched setup (slotBound slot)) (activeSlot setup world startNs slot)
      (fun _ => Watched setup (slotBound (slot + 1))) fun _ => True := by
  have tends := slotBound_tendsTo slot
  have entering : EmitsOnly [.slot] (emit (.slot .active slot)) := .emit (by simp [Event.kind])
  have verifying : Program.Triple (Watched setup (slotBound slot))
      (Program.runIf (slot = 200) (verifyEnabled setup))
      (fun _ => Watched setup (slotBound (slot + 1))) fun _ => True := by
    refine .runIf (fun last => .get_bind fun known => ?_) fun other machine watched => ?_
    · refine Program.Triple.forEach_throwIf.consequence (fun _ => id) ?_ fun _ => id
      rintro _ machine ⟨⟨watched, rfl⟩, passed⟩
      refine ⟨fun index => ?_, watched.flagged⟩
      rw [slotBound, if_pos (by omega)]
      exact watched.flagged index (not_not.mp (passed index (List.mem_finRange index)))
    · have same : slotBound (slot + 1) = slotBound slot := by
        simp only [slotBound, show 200 < slot + 1 ↔ 200 < slot by omega]
      exact same ▸ watched
  rw [activeSlot_eq]
  refine .bind (Tracked.quiet tends (.modify fun _ => rfl) entering (by simp [commandKind]))
    fun _ => ?_
  refine .bind (Tracked.quiet tends (commandSlot_reports startNs slot)
    (.commandSlot startNs slot) (by simp [commandKind])) fun _ => ?_
  refine .bind (Watched.drain tends _ true) fun _ => .bind verifying fun _ => ?_
  exact Tracked.quiet (slotBound_tendsTo _) (publishState_reports slot)
    (.publishState setup world slot) (by simp [commandKind])

theorem Watched.activeLoop :
    Program.Triple (Watched setup OnlyRises) (activeLoop setup world)
      (fun _ => Watched setup (slotBound setup.transportSlots)) fun _ => True := by
  have tends := slotBound_tendsTo setup.transportSlots
  have clock : EmitsOnly [] (monotonicNs world) := .monotonicNs world
  have checking : EmitsOnly [] (checkCoverage setup) :=
    .bind .get fun _ => .bind (.forEach fun _ _ => .throwIf _) fun _ => .throwIf _
  refine .bind (Tracked.quiet onlyRises_tendsTo (reports_of_core (monotonicNs_core world)) clock
    (by simp)) fun now => ?_
  refine .bind (Program.Triple.forEach_range fun slot _ =>
    Watched.activeSlot (now + 20000000) slot) fun _ => ?_
  refine .bind (Watched.drain tends 1 true) fun _ => Tracked.quiet tends ?_ checking (by simp)
  exact .bind .get fun _ => .bind (.forEach fun _ _ => .throwIf _) fun _ => .throwIf _

/-- A body of more than 200 active slots returns only once all drives have been enabled. -/
theorem protectedPolicyBody_enabled (long : 200 < setup.transportSlots) :
    Program.Triple (fun machine => machine = Machine.initial) (protectedPolicyBody setup world)
      (fun _ machine => ∀ index, setup.Knows index machine (Only true)) fun _ => True := by
  have preparing : Program.Triple (fun machine => machine = Machine.initial)
      (prepare setup world) (fun _ machine => ∀ index, setup.Knows index machine OnlyRises)
      fun _ => True := by
    apply Program.Triple.of_done
    rintro _ _ prepared rfl returned index
    obtain ⟨suffix, grown, allowed⟩ := (EmitsOnly.prepare setup world).trace_eq Machine.initial
    rw [returned] at grown
    have nothing : setup.Knows index Machine.initial OnlyRises := SwitchBus.KnowsFrom.nil
    exact nothing.append onlyRises_tendsTo grown allowed (by simp [commandKind])
  refine .bind preparing fun _ => .bind Watched.enable fun _ => ?_
  refine Watched.activeLoop.consequence (fun _ => id) (fun _ machine watched index => ?_) fun _ => id
  have bounded := watched.bounded index
  rwa [slotBound, if_pos long] at bounded

end Body

section Ending

variable {setup : Setup} {world : World}

/-- The flag of the final verification. -/
def Report.Verified (report : Report) : Prop := report.finalDisabled = true

/-- In the shutdown: the drives go off only, and one that is verified is off. -/
abbrev Stopping (setup : Setup) (machine : Machine) : Prop :=
  Tracked setup false OnlyFalls Report.Verified machine

theorem Stopping.drain :
    Program.Triple (Stopping setup) (drainPolicyFeedback setup world (-1) false)
      (fun _ => Stopping setup) fun _ => True := by
  apply Tracked.drain onlyFalls_tendsTo
  intro descriptor feedback before verified
  have code : (feedback.statusCode == 0) = true := verified
  rw [beq_iff_eq.mp code]
  rfl

theorem Stopping.verificationSlot (slot : ℕ) :
    Program.Triple (Stopping setup)
      (verificationSlot setup world (drainPolicyFeedback setup world (-1) false) slot)
      (fun _ => Stopping setup) fun _ => True := by
  have entering : EmitsOnly [.slot] (emit (.slot .verification slot)) :=
    .emit (by simp [Event.kind])
  have sleeping : EmitsOnly [] (sleepUntil world) := .sleepUntil world
  refine .bind (Tracked.quiet onlyFalls_tendsTo (.modify fun _ => rfl) entering
    (by simp [commandKind])) fun _ => ?_
  refine .bind (Tracked.quiet onlyFalls_tendsTo (reports_of_core (sleepUntil_core world)) sleeping
    (by simp)) fun _ => ?_
  refine .bind (Tracked.quiet onlyFalls_tendsTo (reports_of_core (pollDue_core setup world slot))
    (.pollDue setup world slot) (by simp [commandKind])) fun _ => ?_
  exact Stopping.drain

/-- A shutdown that returns knows all drives to be off. -/
theorem shutdownBody_disabled :
    Program.Triple (fun machine => ∀ index, setup.Knows index machine OnlyFalls)
      (shutdownBody setup world (drainPolicyFeedback setup world (-1) false))
      (fun _ machine => ∀ index, setup.Knows index machine (Only false)) fun _ => True := by
  let falling := fun machine => ∀ index, setup.Knows index machine OnlyFalls
  have disabling : Program.Triple falling (disablePass setup world) (fun _ => falling)
      fun _ => True := by
    refine ((EmitsOnly.disablePass setup world).triple ?_ fun _ _ _ _ => trivial)
    rintro first last ⟨suffix, grown, allowed⟩ known index
    exact (known index).append onlyFalls_tendsTo grown allowed (by simp [commandKind])
  have resetting : Program.Triple falling
      (forEachMotor fun index => onMachineMotor index (Program.modify fun motor =>
        { motor with seen := false, finalDisabled := false })) (fun _ => Stopping setup)
      fun _ => True := by
    let bound := fun trace : List Event => ∀ index,
      setup.motorBus.KnowsFrom Event.busAction index trace OnlyFalls
    let unverified := fun motor : MotorState => motor.finalDisabled = false
    refine (@forEachMotor_modify_triple bound unverified _ fun _ => rfl).consequence
      (fun _ => id) ?_ fun _ => id
    rintro _ machine ⟨known, reset⟩
    refine ⟨known, fun index verified => ?_⟩
    have none : (machine.reports index).finalDisabled = false := reset index
    rw [Report.Verified, none] at verified
    cases verified
  have clock : EmitsOnly [] (monotonicNs world) := .monotonicNs world
  unfold shutdownBody verifyDisabled
  generalize List.range 3 = passes
  refine .bind (.forEach_keeps fun _ => disabling) fun _ => .bind resetting fun _ => ?_
  refine .bind (Tracked.quiet onlyFalls_tendsTo (reports_of_core (monotonicNs_core world)) clock
    (by simp)) fun _ => ?_
  refine .bind (.forEach_keeps fun slot => Stopping.verificationSlot slot) fun _ => ?_
  refine .bind Stopping.drain fun _ => Program.Triple.get_bind fun known => ?_
  refine Program.Triple.forEach_throwIf.consequence (fun _ => id) ?_ fun _ => id
  rintro _ machine ⟨⟨stopping, rfl⟩, passed⟩ index
  have verified : (machine.motors index).finalDisabled = true := by
    simpa using passed index (List.mem_finRange index)
  exact stopping.flagged index verified

/-- A run of more than 200 active slots that passes knows all drives to be off. -/
theorem runNativeProtectedPolicy_knows (long : 200 < setup.transportSlots) {report : RunReport}
    {final : Machine}
    (returned : runNativeProtectedPolicy setup world Machine.initial = (.done report, final))
    (passed : report.passed = true) (index : Index) : setup.Knows index final (Only false) := by
  obtain ⟨middle, body, stop⟩ := poweredRun_passed setup world
    (protectedPolicyBody_explains setup world)
    (drainPolicyFeedback_explains setup world (-1) false) returned passed
  have enabled := (protectedPolicyBody_enabled long).of_eq_done rfl body
  exact shutdownBody_disabled.of_eq_done
    (fun index => (enabled index).mono fun _ only => only.falling) stop index

end Ending

end SpriteRuntime
