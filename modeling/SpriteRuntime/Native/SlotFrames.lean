import SpriteRuntime.Foundation.Transcript
import SpriteRuntime.Native.MeasuredHold
import SpriteRuntime.Native.ShadowLoop
import SpriteRuntime.Native.SlotSchedule

/-!
# The command frames of a slot

A slot of any of the loops writes one command frame for every motor that is due, in the order of
the motors, until a write fails.  What the phases say of the due motors then holds of the frames.
-/

namespace SpriteRuntime

open Foundation

/-- A frame that commands a motor: a poll with zero gains, or a command of a powered run. -/
structure CommandFrame where
  motor : Index
  interface : String
  accepted : Bool

def CommandFrame.target (frame : CommandFrame) : Index × String := (frame.motor, frame.interface)

def Event.commandFrame : Event → Option CommandFrame
  | .wrote .poll motor interface _ taken => some { motor, interface, accepted := taken }
  | .wrote (.payload _) motor interface _ taken => some { motor, interface, accepted := taken }
  | _ => none

/-- The command frames that a run has written. -/
def Machine.commandFrames (machine : Machine) : List CommandFrame :=
  picked Event.commandFrame machine.trace

/-- The frame for a motor in a slot, once it is written. -/
def Setup.commandFrame (setup : Setup) (index : Index) : CommandFrame :=
  { motor := index
    interface := (setup.loaded.descriptor index).interface
    accepted := true }

/-- The program writes a frame for each of these motors. -/
abbrev Commands {α : Type} (setup : Setup) (motors : List Index) (program : Native α) : Prop :=
  Program.Adds Machine.commandFrames CommandFrame.target (motors.map setup.commandFrame) program

theorem commandFrame_of_kind {event : Event} (poll : event.kind ≠ .poll)
    (payload : event.kind ≠ .payload) : event.commandFrame = none := by
  cases event with
  | wrote sender motor interface frame accepted =>
      cases sender with
      | poll => exact absurd rfl poll
      | payload commanded => exact absurd rfl payload
      | special opcode => rfl
  | _ => rfl

namespace Commands

variable {α : Type} (setup : Setup)

/-- A step that commands no motor. -/
theorem nothing {program : Native α} {kinds : List Kind} (emits : EmitsOnly kinds program)
    (others : ∀ kind ∈ kinds, kind ≠ .poll ∧ kind ≠ .payload) :
    Commands setup [] program := by
  apply Program.Adds.nothing
  intro machine
  obtain ⟨suffix, grown, among⟩ := emits.trace_eq machine
  have silent : picked Event.commandFrame suffix = [] := by
    apply List.filterMap_eq_nil_iff.mpr
    intro event member
    obtain ⟨poll, payload⟩ := others _ (among event member)
    exact commandFrame_of_kind poll payload
  rw [Machine.commandFrames, grown, picked_append, silent, List.append_nil]
  rfl

variable (world : World)

/-- A written frame is counted if it was accepted; otherwise the run is left. -/
theorem written {sender : Sender} {index : Index} {data : CanData} {what : String → String}
    (commands : ∀ interface frame accepted,
      (Event.wrote sender index interface frame accepted).commandFrame =
        some { motor := index, interface, accepted }) :
    Commands setup [index] (do
      match ← writeFrame setup world sender index data with
      | .ok _ => countTx index
      | .error text => Program.throw (what text)) := by
  intro machine
  cases result : world.write machine.calls.write with
  | ok done =>
      refine ⟨[setup.commandFrame index], ?_, List.prefix_rfl, fun _ _ => rfl⟩
      simp [writeFrame, answer, emit, Program.bind_apply, result, Machine.commandFrames,
        countTx, onMachineMotor, Program.zoom, commands, Setup.commandFrame, Except.isOk,
        Except.toBool]
  | error text =>
      refine ⟨[{ setup.commandFrame index with accepted := false }], ?_, List.prefix_rfl, ?_⟩
      · simp [writeFrame, answer, emit, Program.bind_apply, result, Machine.commandFrames,
          commands, Setup.commandFrame, Except.isOk, Except.toBool]
      · intro value returned
        simp [writeFrame, answer, emit, Program.bind_apply, result] at returned

theorem sendPoll (index : Index) :
    Commands setup [index] (SpriteRuntime.sendPoll setup world index) := by
  refine .after (.nothing fun _ => rfl) fun machine => ?_
  refine .after (.nothing fun _ => ?_) fun data => ?_
  · cases zeroGainPayload (setup.loaded.descriptor index) (machine.motors index) with
    | ok _ => rfl
    | error _ => rfl
  · exact written setup world fun _ _ _ => rfl

theorem commandMotor (index : Index) :
    Commands setup [index] (SpriteRuntime.commandMotor setup world index) := by
  refine .after (.nothing fun _ => rfl) fun machine => ?_
  refine .after (.nothing fun _ => rfl) fun data => ?_
  exact written setup world fun _ _ _ => rfl

theorem commandHoldMotor (index : Index) :
    Commands setup [index] (SpriteRuntime.commandHoldMotor setup world index) := by
  refine .after (.nothing fun _ => rfl) fun machine => ?_
  refine .after (.nothing fun _ => rfl) fun data => ?_
  exact written setup world fun _ _ _ => rfl

/-- One step for each motor that is due. -/
theorem forDue (slot : ℕ) {body : Index → Native Unit}
    (step : ∀ index, Commands setup [index] (body index)) :
    Commands setup (setup.loaded.dueMotors slot) (forEachMotor fun index =>
      Program.runIf ((setup.loaded.descriptor index).due slot = true) (body index)) := by
  have all : Program.Adds Machine.commandFrames CommandFrame.target
      ((List.finRange kJointCount).flatMap fun index =>
        if (setup.loaded.descriptor index).due slot = true then [index].map setup.commandFrame
        else [])
      (forEachMotor fun index =>
        Program.runIf ((setup.loaded.descriptor index).due slot = true) (body index)) :=
    Program.Adds.forEach fun index => (step index).runIf
  have frames : ((List.finRange kJointCount).flatMap fun index =>
      if (setup.loaded.descriptor index).due slot = true then [index].map setup.commandFrame
      else []) = (setup.loaded.dueMotors slot).map setup.commandFrame := by
    rw [LoadedMotors.dueMotors]
    induction List.finRange kJointCount with
    | nil => rfl
    | cons index rest induction =>
        rw [List.flatMap_cons, induction, List.filter_cons]
        split <;> rfl
  rwa [frames] at all

theorem pollDue (slot : ℕ) :
    Commands setup (setup.loaded.dueMotors slot) (SpriteRuntime.pollDue setup world slot) :=
  forDue setup slot fun index => sendPoll setup world index

theorem commandDue (slot : ℕ) :
    Commands setup (setup.loaded.dueMotors slot) (SpriteRuntime.commandDue setup world slot) :=
  forDue setup slot fun index => commandMotor setup world index

end Commands

/-! ## The slots of the loops -/

section Slots

variable (setup : Setup) (world : World)

/-- A step that leaves the trace alone, or begins a slot, or records a preview. -/
theorem Commands.still {α : Type} {program : Native α}
    (emits : EmitsOnly [.slot, .previewed] program) : Commands setup [] program :=
  .nothing setup emits (by decide)

theorem preparationSlot_commands (slot : ℕ) :
    Commands setup (setup.loaded.dueMotors slot) (preparationSlot setup world slot) := by
  refine .after (Commands.still setup (.emit (by simp [Event.kind]))) fun _ => ?_
  refine .after (Commands.still setup (.checkShutdownRequest world _)) fun _ => ?_
  refine .after (Commands.still setup (.sleepUntil world)) fun _ => ?_
  refine .before (Commands.pollDue setup world slot) fun _ => ?_
  refine .after (Commands.nothing setup (EmitsOnly.drainPolicyFeedback setup world 0 false)
    (by decide)) fun _ => ?_
  refine .after (Commands.still setup (.monotonicNs world)) fun now => ?_
  refine .after (Commands.nothing setup (EmitsOnly.drainTargetPackets world _ _ now)
    (by decide)) fun _ => ?_
  refine .after (Commands.nothing setup (EmitsOnly.publishState setup world slot) (by decide))
    fun _ => ?_
  exact Commands.still setup (.admitTarget setup)

theorem previewCommands_emits : EmitsOnly [.slot, .previewed] (previewCommands setup) := by
  refine .bind .get fun before => .bind (EmitsOnly.onControl _) fun _ => ?_
  exact .bind .get fun after => EmitsOnly.emit (by simp [Event.kind])

theorem verifyEnabled_emits : EmitsOnly [.slot, .previewed] (verifyEnabled setup) :=
  .bind .get fun _ => EmitsOnly.forEachMotor fun _ => .throwIf _

theorem activeSlot_commands (startNs : ℤ) (slot : ℕ) :
    Commands setup (setup.loaded.dueMotors slot) (activeSlot setup world startNs slot) := by
  refine .after (Commands.still setup (.emit (by simp [Event.kind]))) fun _ => ?_
  refine .after (Commands.still setup (.checkShutdownRequest world _)) fun _ => ?_
  refine .after (Commands.still setup (.sleepUntil world)) fun _ => ?_
  refine .after (Commands.still setup (.monotonicNs world)) fun wokeNs => ?_
  refine .after (Commands.still setup (.runIf (.modify fun _ => .of_eq rfl))) fun _ => ?_
  refine .after (Commands.nothing setup (EmitsOnly.drainTargetPackets world _ _ wokeNs)
    (by decide)) fun _ => ?_
  refine .after (Commands.still setup .get) fun machine => ?_
  refine .after (Commands.still setup (.throwIf _)) fun _ => ?_
  refine .after (Commands.still setup (.runIf (previewCommands_emits setup))) fun _ => ?_
  refine .before (Commands.commandDue setup world slot) fun _ => ?_
  refine .after (Commands.nothing setup (EmitsOnly.drainPolicyFeedback setup world _ true)
    (by decide)) fun _ => ?_
  refine .after (Commands.still setup (.runIf (verifyEnabled_emits setup))) fun _ => ?_
  exact Commands.nothing setup (EmitsOnly.publishState setup world slot) (by decide)

theorem verificationSlot_commands {drain : Native Unit} (reads : EmitsOnly [.read] drain)
    (slot : ℕ) :
    Commands setup (setup.loaded.dueMotors slot) (verificationSlot setup world drain slot) := by
  refine .after (Commands.still setup (.emit (by simp [Event.kind]))) fun _ => ?_
  refine .after (Commands.still setup (.sleepUntil world)) fun _ => ?_
  refine .before (Commands.pollDue setup world slot) fun _ => ?_
  exact Commands.nothing setup reads (by decide)

theorem warmupSlot_commands (slot : ℕ) :
    Commands setup (setup.loaded.dueMotors slot) (warmupSlot setup world slot) := by
  refine .after (Commands.still setup (.emit (by simp [Event.kind]))) fun _ => ?_
  refine .after (Commands.still setup (.sleepUntil world)) fun _ => ?_
  refine .before (Commands.pollDue setup world slot) fun _ => ?_
  exact Commands.nothing setup (EmitsOnly.drainHoldFeedback setup world 0 false) (by decide)

theorem holdSlot_commands (controlled : List (Index × Bool)) (targetJoint : Index → ℚ)
    (startNs : ℤ) (slot : ℕ) :
    Commands setup (setup.loaded.dueMotors slot)
      (holdSlot setup world controlled targetJoint startNs slot) := by
  have torques : EmitsOnly [.slot, .previewed]
      (updateJointTorques setup controlled targetJoint) := by
    refine .bind .get fun machine => .bind (.ofExcept _) fun torques => ?_
    exact .modify fun _ => .of_eq rfl
  refine .after (Commands.still setup (.emit (by simp [Event.kind]))) fun _ => ?_
  refine .after (Commands.still setup (.sleepUntil world)) fun _ => ?_
  refine .after (Commands.still setup (.monotonicNs world)) fun wokeNs => ?_
  refine .after (Commands.still setup (.runIf ?_)) fun _ => ?_
  · exact .bind (.modify fun _ => .of_eq rfl) fun _ => torques
  refine .before (Commands.forDue setup slot (Commands.commandHoldMotor setup world))
    fun _ => ?_
  exact Commands.nothing setup (EmitsOnly.drainHoldFeedback setup world 1 true) (by decide)

/-! ### The shadow run -/

variable (options : ShadowOptions)

def ShadowState.commandFrames (state : ShadowState) : List CommandFrame :=
  state.toMachine.commandFrames

/-- What a part of the shadow run writes, the machine has written. -/
theorem onMachine_adds {α : Type} {program : Native α} {motors : List Index}
    (commands : Commands setup motors program) :
    Program.Adds ShadowState.commandFrames CommandFrame.target (motors.map setup.commandFrame)
      (onMachine program) := by
  intro state
  obtain ⟨added, grown, begins, all⟩ := commands state.toMachine
  have same : (onMachine program state).2.toMachine = (program state.toMachine).2 := by
    unfold onMachine
    split
    all_goals
      next ran => rw [ran]
  refine ⟨added, ?_, begins, ?_⟩
  · rw [ShadowState.commandFrames, same, grown]
    rfl
  · intro value returned
    unfold onMachine at returned
    split at returned
    next ran =>
        cases returned
        exact all value (by rw [ran])
    next => cases returned
    next => cases returned

theorem drainShadowFeedback_emits (final : Bool) :
    EmitsOnly [.read] (drainShadowFeedback setup world final) := by
  refine .forEach fun interface _ => .loop ?_
  refine .bind (EmitsOnly.readFrame world interface) fun result => ?_
  cases result with
  | again => exact .pure false
  | failed => exact .throw _
  | received size frame =>
      refine .bind (.throwIf _) fun _ => ?_
      unfold shadowReply
      split
      · exact .pure true
      · exact .bind (.throwIf _) fun _ => .bind (EmitsOnly.onMachineMotor _ _) fun _ =>
          .pure true

theorem shadowPreview_emits :
    EmitsOnly [.drained, .accepted, .published] (shadowPreview setup options) := by
  refine .bind (EmitsOnly.onControl _) fun _ => .bind .get fun machine => .runIf ?_
  exact EmitsOnly.forEachMotor fun index =>
    .bind (EmitsOnly.onMachineMotor _ _) fun _ => .pure _

theorem shadowPublish_emits :
    EmitsOnly [.drained, .accepted, .published] (shadowPublish setup world) := by
  refine .bind (EmitsOnly.monotonicNs world) fun now => ?_
  refine .bind ((EmitsOnly.sendStatePacket setup world now).widen (by simp)) fun _ => ?_
  refine .bind .get fun machine => .bind (.throwIf _) fun _ => .runIf ?_
  exact .bind (EmitsOnly.monotonicNs world) fun later => .throwIf _

theorem shadowIpc_emits (slot : ℕ) :
    EmitsOnly [.drained, .accepted, .published] (shadowIpc setup world options slot) := by
  refine .bind (EmitsOnly.monotonicNs world) fun now => ?_
  refine .bind ((EmitsOnly.drainTargetPackets world _ _ now).widen (by simp)) fun _ => ?_
  refine .bind .get fun machine => .bind (.runIf (shadowPreview_emits setup options)) fun _ => ?_
  exact .bind .get fun machine => .runIf (shadowPublish_emits setup world)

theorem storeLateness_frames (wokeNs deadlineNs : ℤ) :
    (storeLateness wokeNs deadlineNs).Leaves ShadowState.commandFrames :=
  .bind .get fun _ => .bind (.throwIf _) fun _ => .modify fun _ => rfl

theorem shadowSlot_adds (startNs : ℤ) (slot : ℕ) :
    Program.Adds ShadowState.commandFrames CommandFrame.target
      ((setup.loaded.dueMotors slot).map setup.commandFrame)
      (shadowSlot setup world options startNs slot) := by
  refine .after (onMachine_adds setup (Commands.still setup (.bind (EmitsOnly.sleepUntil world)
    fun _ => EmitsOnly.monotonicNs world))) fun wokeNs => ?_
  have stored : (Program.runIf (slot % 4 = 0) (storeLateness wokeNs
      (startNs + slot * kTransportPeriodNs))).Leaves ShadowState.commandFrames :=
    .runIf (storeLateness_frames _ _)
  refine .after (.nothing stored) fun _ => onMachine_adds setup ?_
  refine .before (Commands.pollDue setup world slot) fun _ => ?_
  refine .after (Commands.nothing setup (drainShadowFeedback_emits setup world false)
    (by decide)) fun _ => ?_
  exact Commands.nothing setup (.runIf (shadowIpc_emits setup world options slot)) (by decide)

end Slots

/-! ## Counting the frames -/

section Counts

variable {σ ε α : Type} (loaded : LoadedMotors) (frames : σ → List CommandFrame)

/-- The frames that were written between two states. -/
def newFrames (first last : σ) : List CommandFrame := (frames last).drop (frames first).length

/-- The frames for a motor. -/
def attempts (index : Index) (written : List CommandFrame) : ℕ :=
  written.countP fun frame => frame.motor = index

/-- The frames for a motor that the bus took. -/
def deliveries (index : Index) (written : List CommandFrame) : ℕ :=
  written.countP fun frame => frame.motor = index ∧ frame.accepted = true

/-- The slots of a loop send no bus two frames in one slot, and each motor its share: the whole
periods of a run are served, and a period that is begun is served at most once.  This holds as
well if the slot behind the last complete one is left halfway. -/
structure SendsFairly (slots : ℕ → Program σ ε α) : Prop where
  oneFrame : ∀ slot state interface,
    (newFrames frames state (slots slot state).2).countP
      (fun frame => frame.interface = interface) ≤ 1
  atLeast : ∀ count first last index, Program.Rounds slots first count last →
    count / (loaded.descriptor index).period ≤
      deliveries index (newFrames frames first last)
  atMost : ∀ count first last index, Program.Rounds slots first count last →
    attempts index (newFrames frames first last) ≤
      count ⌈/⌉ (loaded.descriptor index).period
  interrupted : ∀ count first last index, Program.Rounds slots first count last →
    attempts index (newFrames frames first (slots count last).2) ≤
      (count + 1) ⌈/⌉ (loaded.descriptor index).period

end Counts

section Fair

variable {σ ε α : Type} {setup : Setup} {frames : σ → List CommandFrame}
  {slots : ℕ → Program σ ε α}

theorem newFrames_eq {first last : σ} {added : List CommandFrame}
    (grown : frames last = frames first ++ added) : newFrames frames first last = added := by
  rw [newFrames, grown, List.drop_left]

/-- What is true of so many targets of a beginning is true of at most so many of the due
motors. -/
theorem countP_targets_le {added : List CommandFrame} {motors : List Index}
    (begins : added.map CommandFrame.target <+:
      (motors.map setup.commandFrame).map CommandFrame.target)
    (holds : Index × String → Bool) :
    added.countP (fun frame => holds frame.target) ≤
      motors.countP fun index => holds (setup.commandFrame index).target := by
  have fewer := begins.sublist.countP_le (p := holds)
  rwa [List.countP_map, List.countP_map, List.countP_map] at fewer

theorem countP_dueMotors (loaded : LoadedMotors) (index : Index) (slot : ℕ) :
    (loaded.dueMotors slot).countP (fun motor => motor = index) =
      if (loaded.descriptor index).due slot = true then 1 else 0 := by
  have once : (loaded.dueMotors slot).Nodup := (List.nodup_finRange _).filter _
  have counted : (loaded.dueMotors slot).countP (fun motor => motor = index) =
      (loaded.dueMotors slot).count index := rfl
  rw [counted]
  split
  next due =>
      apply List.count_eq_one_of_mem once
      exact List.mem_filter.mpr ⟨List.mem_finRange index, due⟩
  next idle =>
      apply List.count_eq_zero.mpr
      intro member
      exact idle (List.mem_filter.mp member).2

theorem countP_rounds (loaded : LoadedMotors) (index : Index) (count : ℕ) :
    ((List.range count).flatMap loaded.dueMotors).countP (fun motor => motor = index) =
      loaded.dueCount index count := by
  induction count with
  | zero => rfl
  | succ count induction =>
      rw [List.range_succ, List.flatMap_append, List.countP_append, induction,
        List.flatMap_singleton, countP_dueMotors, LoadedMotors.dueCount,
        LoadedMotors.dueCount, Nat.count_succ]

/-- Slots that write a frame for every motor that is due are fair. -/
theorem sendsFairly_of_adds
    (adds : ∀ slot, Program.Adds frames CommandFrame.target
      ((setup.loaded.dueMotors slot).map setup.commandFrame) (slots slot)) :
    SendsFairly setup.loaded frames slots := by
  have shares {count : ℕ} {first last : σ} (rounds : Program.Rounds slots first count last) :
      frames last = frames first ++
        ((List.range count).flatMap setup.loaded.dueMotors).map setup.commandFrame := by
    rw [rounds.added adds, List.map_flatMap]
  have served (index : Index) (count : ℕ) :
      attempts index (((List.range count).flatMap setup.loaded.dueMotors).map
        setup.commandFrame) = setup.loaded.dueCount index count := by
    rw [← countP_rounds, attempts, List.countP_map]
    rfl
  constructor
  · intro slot state interface
    obtain ⟨added, grown, begins, _⟩ := adds slot state
    rw [newFrames_eq grown]
    have fewer := countP_targets_le begins fun target => decide (target.2 = interface)
    apply fewer.trans
    rw [List.countP_eq_length_filter]
    exact setup.loaded.length_dueOn interface slot
  · intro count first last index rounds
    rw [newFrames_eq (shares rounds)]
    have all : deliveries index (((List.range count).flatMap setup.loaded.dueMotors).map
        setup.commandFrame) = setup.loaded.dueCount index count := by
      rw [← served, deliveries, attempts, List.countP_map, List.countP_map]
      simp [Setup.commandFrame, Function.comp_def]
    rw [all]
    exact setup.loaded.div_le_dueCount index count
  · intro count first last index rounds
    rw [newFrames_eq (shares rounds), served]
    exact setup.loaded.dueCount_le index count
  · intro count first last index rounds
    obtain ⟨added, grown, begins, _⟩ := adds count last
    rw [shares rounds, List.append_assoc] at grown
    have fewer := countP_targets_le begins fun target => decide (target.1 = index)
    have one : attempts index added ≤
        if (setup.loaded.descriptor index).due count = true then 1 else 0 := by
      rw [← countP_dueMotors]
      exact fewer
    have begun : attempts index (newFrames frames first (slots count last).2) ≤
        setup.loaded.dueCount index (count + 1) := by
      rw [newFrames_eq grown, attempts, List.countP_append, LoadedMotors.dueCount,
        Nat.count_succ]
      have before := served index count
      rw [attempts, LoadedMotors.dueCount] at before
      rw [attempts] at one
      omega
    exact begun.trans (setup.loaded.dueCount_le index (count + 1))

/-- A shadow loop that is completed has sent every motor its share. -/
theorem shadowLoop_fair {world : World} {options : ShadowOptions} {state final : ShadowState}
    {startNs : ℤ}
    (returned : shadowLoop setup world options state = (.done startNs, final)) (index : Index) :
    setup.transportSlots / (setup.loaded.descriptor index).period ≤
        deliveries index (newFrames ShadowState.commandFrames state final) ∧
      attempts index (newFrames ShadowState.commandFrames state final) ≤
        setup.transportSlots ⌈/⌉ (setup.loaded.descriptor index).period := by
  obtain ⟨now, started, read, ran⟩ := Program.bind_eq_done_iff.mp returned
  obtain ⟨_, reached, loop, same⟩ := Program.bind_eq_done_iff.mp ran
  cases same
  have fair := sendsFairly_of_adds
    (shadowSlot_adds setup world options (now + 100000000))
  have begun : started.commandFrames = state.commandFrames := by
    obtain ⟨added, grown, _, all⟩ := onMachine_adds setup
      (Commands.still setup (EmitsOnly.monotonicNs world)) state
    rw [read] at grown all
    rw [all now rfl] at grown
    rw [grown]
    exact List.append_nil _
  have frames : newFrames ShadowState.commandFrames state final =
      newFrames ShadowState.commandFrames started final := by
    rw [newFrames, newFrames, begun]
  have rounds := Program.Rounds.of_forEach loop
  rw [frames]
  exact ⟨fair.atLeast _ _ _ index rounds, fair.atMost _ _ _ index rounds⟩

end Fair

/-- **The slot schedule.**  On every bus at most one motor is due in a slot, every motor is due
just once in any of its periods, and the slots of every loop send accordingly: those of the
shadow run, and the preparing, active and verifying ones of the two powered runs. -/
theorem slotSchedule_fair :
    (∀ loaded : LoadedMotors,
      (∀ interface slot, (loaded.dueOn interface slot).length ≤ 1) ∧
        ∀ index start, ∃! slot,
          (start ≤ slot ∧ slot < start + (loaded.descriptor index).period) ∧
            (loaded.descriptor index).due slot = true) ∧
    ∀ (setup : Setup) (world : World) (startNs : ℤ),
      (∀ options, SendsFairly setup.loaded ShadowState.commandFrames
        (shadowSlot setup world options startNs)) ∧
      SendsFairly setup.loaded Machine.commandFrames (preparationSlot setup world) ∧
      SendsFairly setup.loaded Machine.commandFrames (activeSlot setup world startNs) ∧
      SendsFairly setup.loaded Machine.commandFrames
        (verificationSlot setup world (drainPolicyFeedback setup world (-1) false)) ∧
      SendsFairly setup.loaded Machine.commandFrames (warmupSlot setup world) ∧
      (∀ controlled targetJoint, SendsFairly setup.loaded Machine.commandFrames
        (holdSlot setup world controlled targetJoint startNs)) ∧
      SendsFairly setup.loaded Machine.commandFrames
        (verificationSlot setup world (drainHoldFeedback setup world (-1) false)) := by
  constructor
  · exact fun loaded => ⟨loaded.length_dueOn, loaded.existsUnique_due⟩
  · intro setup world startNs
    refine ⟨fun options => ?_, ?_, ?_, ?_, ?_, fun controlled targetJoint => ?_, ?_⟩
    · exact sendsFairly_of_adds (shadowSlot_adds setup world options startNs)
    · exact sendsFairly_of_adds (preparationSlot_commands setup world)
    · exact sendsFairly_of_adds (activeSlot_commands setup world startNs)
    · exact sendsFairly_of_adds (verificationSlot_commands setup world
        (EmitsOnly.drainPolicyFeedback setup world (-1) false))
    · exact sendsFairly_of_adds (warmupSlot_commands setup world)
    · exact sendsFairly_of_adds (holdSlot_commands setup world controlled targetJoint startNs)
    · exact sendsFairly_of_adds (verificationSlot_commands setup world
        (EmitsOnly.drainHoldFeedback setup world (-1) false))

end SpriteRuntime
