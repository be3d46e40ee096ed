import SpriteRuntime.Foundation.ProgramSteps
import SpriteRuntime.Native.ProtectedPolicy

/-!
# The zero-gain shadow run

Without a powered run `main` polls the motors with zero gains, slot by slot, and writes a
report.  The lateness of every fourth slot goes into a vector that is allocated beforehand.
An entry that has not been written is `none`; the `double` there is zero.
-/

namespace SpriteRuntime

open Foundation

/-- How a shadow run can end early: with an exception, or with an access outside the vector. -/
inductive ShadowFault where
  | raised (what : String)
  | overrun (index size : ℕ)

/-- The state of a run together with the vector of `main` and the next index in it. -/
structure ShadowState extends Machine where
  lateness : List (Option ℚ)
  stateTick : ℕ := 0

abbrev Shadow (α : Type) : Type := Program ShadowState ShadowFault α

/-- The options of a shadow run; without a client there is no IPC. -/
structure ShadowOptions where
  client : Bool
  jointSafety : JointSafetyTable
  boundedShadowPreview : Bool

/-- A part of the run that has nothing to do with the vector. -/
def onMachine {α : Type} (program : Native α) : Shadow α := fun state =>
  match program state.toMachine with
  | (.done value, machine) => (.done value, { state with toMachine := machine })
  | (.thrown what, machine) => (.thrown (.raised what), { state with toMachine := machine })
  | (.unfinished, machine) => (.unfinished, { state with toMachine := machine })

/-- The vector as `main` allocates it. -/
def Setup.shadowStart (setup : Setup) : ShadowState :=
  { Machine.initial with lateness := List.replicate (setup.transportSlots / 4) none }

section Feedback

variable (setup : Setup) (world : World)

/-- `final` in the texts of the last drain. -/
def finalWord (final : Bool) : String := if final then "final " else ""

def invalidFrameText (final : Bool) : String :=
  if final then "invalid final CAN-FD feedback frame" else "invalid CAN-FD feedback frame"

/-- What the shadow run does with a reply once its identity is checked. -/
def absorbShadowFeedback (final : Bool) (descriptor : MotorDescriptor) (feedback : Feedback) :
    Program MotorState String Unit := do
  Program.modify fun motor =>
    { motor with
      lastPosition := feedback.position descriptor
      lastVelocity := feedback.velocity descriptor
      temperature :=
        { motor.temperature with
          maximumMosTemperature :=
            max motor.temperature.maximumMosTemperature feedback.mosTemperature
          maximumRotorTemperature :=
            max motor.temperature.maximumRotorTemperature feedback.rotorTemperature } }
  Program.throwIf (feedback.TooHot descriptor)
    (finalWord final ++ "motor temperature invariant failed for " ++ descriptor.name)
  Program.modify fun motor => { motor with rxCount := motor.rxCount + 1, seen := true }

def shadowReply (final : Bool) (interface : String) (frame : CanFrame) : Native Bool := do
  match setup.feedbackMap interface (frameId frame) with
  | none => return true
  | some index => do
      let descriptor := setup.loaded.descriptor index
      let feedback := Feedback.ofData frame.data
      Program.throwIf (¬IdentityValid descriptor 0 feedback)
        (finalWord final ++ "motor identity/status invariant failed for " ++ descriptor.name)
      onMachineMotor index (absorbShadowFeedback final descriptor feedback)
      return true

def drainShadowRound (final : Bool) (interface : String) : Native Bool := do
  match ← readFrame world interface with
  | .again => return false
  | .failed => Program.throw (invalidFrameText final)
  | .received size frame => do
      Program.throwIf (frame.Malformed size) (invalidFrameText final)
      shadowReply setup final interface frame

def drainShadowFeedback (final : Bool) : Native Unit :=
  Program.forEach setup.interfaces fun interface =>
    Program.loop world.patience (drainShadowRound setup world final interface)

end Feedback

section Slots

variable (setup : Setup) (world : World) (options : ShadowOptions)

/-- The preview of a slot; with the bounded option the same quantized command as for actuation
is computed, and never sent. -/
def shadowPreview : Native Unit := do
  onControl (previewFinalMotorCommands setup.loaded.descriptor setup.kinematics
    options.boundedShadowPreview)
  let machine ← Program.get
  Program.runIf (options.boundedShadowPreview = true ∧ machine.ipc.hasTarget = true)
    (forEachMotor fun index => do
      let _ ← onMachineMotor index
        (protectedPolicyPayload (setup.loaded.descriptor index) true)
      return ())

/-- The state packet of a slot and the watchdogs behind it. -/
def shadowPublish : Native Unit := do
  let now ← monotonicNs world
  sendStatePacket setup world now
  let machine ← Program.get
  Program.throwIf (machine.ipc.targetCount = 0 ∧ 5 ≤ machine.ipc.stateSequence)
    "policy IPC initial target watchdog expired"
  Program.runIf (0 < machine.ipc.lastTargetNs) do
    let later ← monotonicNs world
    Program.throwIf (kTargetTimeoutNs < wrap64 (later - machine.ipc.lastTargetNs))
      "policy IPC target watchdog expired"

/-- The IPC of a slot. -/
def shadowIpc (slot : ℕ) : Native Unit := do
  let now ← monotonicNs world
  drainTargetPackets world setup.policyJointHash options.jointSafety now
  let machine ← Program.get
  Program.runIf (slot % 4 = 0 ∧ allSeen machine) (shadowPreview setup options)
  let machine ← Program.get
  Program.runIf (slot % 40 = 39 ∧ allSeen machine) (shadowPublish setup world)

/-- `lateness[state_tick++] = ...`, and the deadline misses. -/
def storeLateness (wokeNs deadlineNs : ℤ) : Shadow Unit := do
  let state ← Program.get
  Program.throwIf (state.lateness.length ≤ state.stateTick)
    (.overrun state.stateTick state.lateness.length)
  Program.modify fun state =>
    { state with
      lateness := state.lateness.set state.stateTick
        (some (max 0 ((wokeNs - deadlineNs : ℤ) / 1000000 : ℚ)))
      stateTick := state.stateTick + 1
      deadlineMisses := state.deadlineMisses + if 2000000 ≤ wokeNs - deadlineNs then 1 else 0 }

/-- What a slot does after its lateness is stored. -/
def shadowExchange (slot : ℕ) : Native Unit := do
  pollDue setup world slot
  drainShadowFeedback setup world false
  Program.runIf (options.client = true) (shadowIpc setup world options slot)

def shadowSlot (startNs : ℤ) (slot : ℕ) : Shadow Unit := do
  let deadlineNs := startNs + slot * kTransportPeriodNs
  let wokeNs ← onMachine do
    sleepUntil world
    monotonicNs world
  Program.runIf (slot % 4 = 0) (storeLateness wokeNs deadlineNs)
  onMachine (shadowExchange setup world options slot)

/-- The loop of `main` over the slots; it returns the start of the run. -/
def shadowLoop : Shadow ℤ := do
  let now ← onMachine (monotonicNs world)
  let startNs := now + 100000000
  Program.forEach (List.range setup.transportSlots) (shadowSlot setup world options startNs)
  return startNs

end Slots

section Report

/-- `percentile`; an empty vector has no entry to return. -/
def percentile (values : List ℚ) (fraction : ℚ) : Option ℚ :=
  let sorted := values.mergeSort
  let index := min (values.length - 1) (⌈fraction * values.length⌉.toNat - 1)
  sorted[index]?

/-- `*std::max_element`. -/
def maxElement (values : List ℚ) : Option ℚ := values.max?

/-- The figures of the report that its verdict is about. -/
structure ShadowReport where
  p99Ms : ℚ
  maximumMs : ℚ
  coveragePassed : Bool
  ipcPassed : Bool
  passed : Bool

def shadowCoveragePassed (machine : Machine) : Bool :=
  (List.finRange kJointCount).all fun index =>
    (machine.motors index).seen && decide (95 / 100 ≤ coverage (machine.motors index))

/-- The verdict on the IPC, as `json_report` computes it for a client. -/
def shadowIpcPassed (client : Bool) (ipc : IpcSocket) (finishedNs : ℤ) : Bool :=
  !client || decide (0 < ipc.stateSequence ∧
    90 / 100 ≤ (ipc.targetCount : ℚ) / ipc.stateSequence ∧ 0 < ipc.lastTargetNs ∧
    ((finishedNs - ipc.lastTargetNs : ℤ) : ℚ) / 1000000 ≤ 100 ∧ 0 < ipc.motorPreviewCount)

/-- The figures of `json_report`. -/
def jsonReport (client : Bool) (finishedNs : ℤ) : Shadow ShadowReport := do
  let state ← Program.get
  let values := state.lateness.map fun entry => entry.getD 0
  match percentile values (99 / 100), maxElement values with
  | some p99, some maximum => do
      let coveragePassed := shadowCoveragePassed state.toMachine
      let ipcPassed := shadowIpcPassed client state.ipc finishedNs
      return {
        p99Ms := p99
        maximumMs := maximum
        coveragePassed
        ipcPassed
        passed := decide (state.deadlineMisses = 0 ∧ p99 ≤ 1 / 2 ∧ maximum ≤ 2) &&
          coveragePassed && ipcPassed }
  | _, _ => Program.throw (.overrun 0 0)

variable (setup : Setup) (world : World) (options : ShadowOptions)

/-- What `main` does once the last slot is over: the last replies, the last targets and the
report. -/
def shadowFinish : Shadow ShadowReport := do
  let finishedNs ← onMachine do
    drainShadowFeedback setup world true
    let finishedNs ← monotonicNs world
    Program.runIf (options.client = true)
      (drainTargetPackets world setup.policyJointHash options.jointSafety finishedNs)
    return finishedNs
  jsonReport options.client finishedNs

/-- The shadow run of `main`. -/
def shadowRun : Shadow ShadowReport := do
  let _ ← shadowLoop setup world options
  let report ← shadowFinish setup world options
  onMachine (Program.throwIf (world.reportOpens = false) "cannot open report output")
  return report

end Report

end SpriteRuntime
