import SpriteRuntime.Native.Shutdown

/-!
# The protected policy run

`run_native_protected_policy` first prepares: with every drive disabled it waits
for a reply from every motor and for a startup target close to the measured pose.
It then enables the drives and follows the policy's targets, slot by slot, until
the duration is over or a guard fails.
-/

namespace SpriteRuntime

open Foundation

variable (setup : Setup) (world : World)

def allSeen (machine : Machine) : Prop := ∀ index, (machine.motors index).seen = true

instance (machine : Machine) : Decidable (allSeen machine) := by
  unfold allSeen
  infer_instance

section Preparation

/-- `startup_error`. -/
def startupErrorText (name field : String) : String :=
  "first protected-policy target failed for " ++ name ++ " field=" ++ field

/-- The checks on one joint of the startup target. -/
def startupFailure (control : ControlState) (joint : Index) : Option String :=
  let target := control.ipc.latestTarget
  let name := (setup.jointSafety joint).name
  if 3 / 100 < |(target.positionRad joint).value -
      measuredJointPosition setup.kinematics control.motors joint| then
    some (startupErrorText name "position_delta_rad")
  else if tolerance < |(target.velocityRadS joint).value| then
    some (startupErrorText name "velocity_rad_s")
  else if tolerance < |(target.kp joint).value| then some (startupErrorText name "kp")
  else if tolerance < |(target.kd joint).value| then some (startupErrorText name "kd")
  else if tolerance < |(target.feedforwardTorqueNm joint).value| then
    some (startupErrorText name "feedforward_torque_nm")
  else none

/-- The end of a preparation slot: is there a target to start from? -/
def admitTarget : Native Bool := do
  let machine ← Program.get
  if machine.ipc.hasTarget = true ∧ allSeen machine then do
    match (List.finRange kJointCount).findSome? (startupFailure setup machine.toControlState) with
    | some what => Program.throw what
    | none => return true
  else return false

/-- Publish the measured state in every fortieth slot, once all motors are seen. -/
def publishState (slot : ℕ) : Native Unit := do
  let machine ← Program.get
  Program.runIf (slot % 40 = 39 ∧ allSeen machine) do
    let now ← monotonicNs world
    sendStatePacket setup world now

/-- Leave when a shutdown signal has arrived. -/
def checkShutdownRequest (what : String) : Native Unit := do
  let requested ← answer world.shutdownRequested (·.shutdownRequested)
    fun calls => { calls with shutdownRequested := calls.shutdownRequested + 1 }
  Program.throwIf (requested = true) what

def preparationSlot (slot : ℕ) : Native Bool := do
  emit (.slot .preparation slot)
  checkShutdownRequest world
    "protected-policy shutdown signal received during preparation"
  sleepUntil world
  pollDue setup world slot
  drainPolicyFeedback setup world 0 false
  let now ← monotonicNs world
  drainTargetPackets world setup.policyJointHash (some setup.jointSafety) now
  publishState setup world slot
  admitTarget setup

def preparationSlots : ℕ := 4000

def prepare : Native Unit := do
  let _ ← monotonicNs world
  let prepared ← Program.anyEach (List.range preparationSlots) (preparationSlot setup world)
  Program.throwIf (prepared = false)
    "protected-policy startup target was not ready within 2 seconds"

end Preparation

section Active

/-- The reset of a motor between preparation and enabling. -/
def resetForEnable (motor : MotorState) : MotorState :=
  { resetTorqueRmsMonitor motor with
    capturedPosition := motor.lastPosition
    txCount := 0
    rxCount := 0
    seen := false
    previewInitialized := false
    maximumAbsSpeed := 0
    maximumAbsCommandedTorque := 0
    maximumAbsFeedbackTorque := 0
    finalDisabled := false
    lastStatusCode := 0 }

def enable : Native Unit := do
  forEachMotor fun index => onMachineMotor index (Program.modify resetForEnable)
  Program.modify fun machine =>
    { machine with ipc := { machine.ipc with motorPreviewCount := 0 } }
  forEachMotor fun index => sendSpecial setup world index enableOpcode
  forEachMotor fun index =>
    onMachineMotor index (Program.modify fun motor => { motor with txCount := 0 })

/-- The target watchdog of the active loop. -/
def WatchdogExpired (wokeNs : ℤ) (ipc : IpcSocket) : Prop :=
  ipc.hasTarget = false ∨ kTargetTimeoutNs < wrap64 (wokeNs - ipc.lastTargetNs)

instance (wokeNs : ℤ) (ipc : IpcSocket) : Decidable (WatchdogExpired wokeNs ipc) := by
  unfold WatchdogExpired
  infer_instance

/-- The preview of a slot, with its states before and after on record. -/
def previewCommands : Native Unit := do
  let before ← Program.get
  onControl (previewFinalMotorCommands setup.loaded.descriptor setup.kinematics
    setup.saturatePolicyTorque)
  let after ← Program.get
  emit (.previewed before.toControlState after.toControlState)

variable {setup} in
theorem previewCommands_apply {machine : Machine} {after : ControlState}
    (returned : previewFinalMotorCommands setup.loaded.descriptor setup.kinematics
      setup.saturatePolicyTorque machine.toControlState = (.done (), after)) :
    previewCommands setup machine = (.done (), { machine with
      toControlState := after
      trace := machine.trace ++ [.previewed machine.toControlState after] }) := by
  simp [previewCommands, onControl, Program.zoom, Program.bind_apply, returned, emit]

/-- Command one motor from its preview. -/
def commandMotor (index : Index) : Native Unit := do
  let machine ← Program.get
  let data ← onMachineMotor index (protectedPolicyPayload
    (setup.loaded.descriptor index) setup.saturatePolicyTorque)
  sendPayload setup world (.payload (machine.motors index)) index data

def commandDue (slot : ℕ) : Native Unit :=
  forEachMotor fun index =>
    Program.runIf ((setup.loaded.descriptor index).due slot = true)
      (commandMotor setup world index)

/-- In slot 200 every drive must have reported itself enabled. -/
def verifyEnabled : Native Unit := do
  let machine ← Program.get
  forEachMotor fun index =>
    Program.throwIf ((machine.motors index).lastStatusCode ≠ 1)
      ("protected-policy enable verification failed for " ++
        (setup.loaded.descriptor index).name)

def activeSlot (startNs : ℤ) (slot : ℕ) : Native Unit := do
  emit (.slot .active slot)
  checkShutdownRequest world "protected-policy shutdown signal received"
  let deadlineNs := startNs + slot * kTransportPeriodNs
  sleepUntil world
  let wokeNs ← monotonicNs world
  Program.runIf (slot % 4 = 0) (recordLateness wokeNs deadlineNs)
  drainTargetPackets world setup.policyJointHash (some setup.jointSafety) wokeNs
  let machine ← Program.get
  Program.throwIf (WatchdogExpired wokeNs machine.ipc)
    "protected-policy target watchdog expired"
  Program.runIf (slot % 4 = 0) (previewCommands setup)
  commandDue setup world slot
  drainPolicyFeedback setup world (if slot < 200 then -1 else 1) true
  Program.runIf (slot = 200) (verifyEnabled setup)
  publishState setup world slot

def checkCoverage : Native Unit := do
  let machine ← Program.get
  forEachMotor fun index =>
    Program.throwIf (coverage (machine.motors index) < 95 / 100)
      ("protected-policy coverage failed for " ++ (setup.loaded.descriptor index).name)
  Program.throwIf (machine.deadlineMisses ≠ 0 ∨ 2 ≤ machine.maximumLatenessMs)
    "protected-policy realtime deadline gate failed"

def activeLoop : Native Unit := do
  let now ← monotonicNs world
  Program.forEach (List.range setup.transportSlots)
    (activeSlot setup world (now + 20000000))
  drainPolicyFeedback setup world 1 true
  checkCoverage setup

end Active

def protectedPolicyBody : Native Unit := do
  prepare setup world
  enable setup world
  activeLoop setup world

def runNativeProtectedPolicy : Native RunReport :=
  poweredRun setup world (protectedPolicyBody setup world)
    (drainPolicyFeedback setup world (-1) false)
    "cannot open protected-policy report output"

/-- What a run does at its boundary, from the state that `main` hands over. -/
def protectedPolicyTrace : List Event :=
  (runNativeProtectedPolicy setup world Machine.initial).2.trace

/-! ## What the run leaves in the trace -/

namespace EmitsOnly

theorem checkShutdownRequest {kinds : List Kind} (what : String) :
    EmitsOnly kinds (SpriteRuntime.checkShutdownRequest world what) :=
  .bind (answer _ _ _) fun _ => .throwIf _

theorem publishState (slot : ℕ) :
    EmitsOnly [.published] (SpriteRuntime.publishState setup world slot) := by
  refine .bind .get fun machine => .runIf ?_
  exact .bind (monotonicNs world) fun now => sendStatePacket setup world now

theorem admitTarget {kinds : List Kind} :
    EmitsOnly kinds (SpriteRuntime.admitTarget setup) := by
  refine .bind .get fun machine => ?_
  split
  · split
    · exact .throw _
    · exact .pure true
  · exact .pure false

/-- Of the slots a preparation begins only its own. -/
theorem prepare_begins :
    Program.Emits (fun machine : Machine => machine.trace)
      (fun event => event.kind ∈ [Kind.poll, .read, .drained, .accepted, .published] ∨
        ∃ index, event = .slot .preparation index)
      (SpriteRuntime.prepare setup world) := by
  have opening {α : Type} {program : Native α} {kinds : List Kind}
      (emits : EmitsOnly kinds program)
      (subset : kinds ⊆ [.poll, .read, .drained, .accepted, .published]) :
      Program.Emits (fun machine : Machine => machine.trace)
        (fun event => event.kind ∈ [Kind.poll, .read, .drained, .accepted, .published] ∨
          ∃ index, event = .slot .preparation index) program :=
    emits.mono fun _ member => .inl (subset member)
  have still {α : Type} {program : Native α} (emits : EmitsOnly [] program) :=
    opening emits (by simp)
  refine .bind (still (monotonicNs world)) fun _ => .bind (.anyEach fun slot _ => ?_) fun _ =>
    .throwIf _
  refine .bind (fun machine => ⟨_, rfl, by simp⟩) fun _ => ?_
  refine .bind (still (checkShutdownRequest world _)) fun _ => ?_
  refine .bind (still (sleepUntil world)) fun _ => ?_
  refine .bind (opening (pollDue setup world slot) (by simp)) fun _ => ?_
  refine .bind (opening (drainPolicyFeedback setup world 0 false) (by simp)) fun _ => ?_
  refine .bind (still (monotonicNs world)) fun now => ?_
  refine .bind (opening (drainTargetPackets _ _ _ now) (by simp)) fun _ => ?_
  refine .bind (opening (publishState setup world slot) (by simp)) fun _ => ?_
  exact still (admitTarget setup)

theorem prepare :
    EmitsOnly [.slot, .poll, .read, .drained, .accepted, .published]
      (SpriteRuntime.prepare setup world) := by
  apply (prepare_begins setup world).mono
  rintro event (among | ⟨index, rfl⟩)
  · exact List.mem_cons_of_mem _ among
  · simp [Event.kind]

theorem enable : EmitsOnly [.enable] (SpriteRuntime.enable setup world) := by
  refine .bind (forEachMotor fun _ => onMachineMotor _ _) fun _ => ?_
  refine .bind (.modify fun _ => .of_eq rfl) fun _ => ?_
  refine .bind (forEachMotor fun index => sendEnable setup world index) fun _ => ?_
  exact forEachMotor fun _ => onMachineMotor _ _

theorem commandMotor (index : Index) :
    EmitsOnly [.payload] (SpriteRuntime.commandMotor setup world index) := by
  refine .bind .get fun machine => .bind (onMachineMotor _ _) fun data => ?_
  exact sendPayload setup world fun _ _ _ => by simp [Event.kind]

theorem activeLoop :
    EmitsOnly [.slot, .drained, .accepted, .previewed, .payload, .read, .published]
      (SpriteRuntime.activeLoop setup world) := by
  refine .bind (monotonicNs world) fun now => .bind (.forEach fun slot _ => ?_) fun _ => ?_
  · refine .bind (emit (by simp [Event.kind])) fun _ => ?_
    refine .bind (checkShutdownRequest world _) fun _ => ?_
    refine .bind (sleepUntil world) fun _ => .bind (monotonicNs world) fun wokeNs => ?_
    refine .bind (.runIf (.modify fun _ => .of_eq rfl)) fun _ => ?_
    refine .bind ((drainTargetPackets _ _ _ wokeNs).widen (by simp)) fun _ => ?_
    refine .bind .get fun machine => .bind (.throwIf _) fun _ => ?_
    refine .bind (.runIf ?_) fun _ => .bind ?_ fun _ => ?_
    · refine .bind .get fun before => .bind (onControl _) fun _ => ?_
      exact .bind .get fun after => emit (by simp [Event.kind])
    · exact forEachMotor fun index => .runIf ((commandMotor setup world index).widen (by simp))
    refine .bind ((drainPolicyFeedback setup world _ true).widen (by simp)) fun _ => ?_
    refine .bind (.runIf (.bind .get fun _ => forEachMotor fun _ => .throwIf _)) fun _ => ?_
    exact (publishState setup world slot).widen (by simp)
  · refine .bind ((drainPolicyFeedback setup world _ true).widen (by simp)) fun _ => ?_
    exact .bind .get fun _ => .bind (forEachMotor fun _ => .throwIf _) fun _ => .throwIf _

end EmitsOnly

end SpriteRuntime
