import SpriteRuntime.Native.Feedback

/-!
# Shutdown

Both powered runs end in the same block: three passes of disable frames over all
motors, then 400 slots of polling until every drive has reported itself disabled.
They differ in the reader that the polling uses.
-/

namespace SpriteRuntime

open Foundation

def kTransportPeriodNs : ℤ := 500000

def kTransportRateHz : ℕ := 2000

/-- `std::llround`. -/
def llround (value : ℚ) : ℤ :=
  if 0 ≤ value then ⌊value + 1 / 2⌋ else -⌊-value + 1 / 2⌋

def Setup.transportSlots (setup : Setup) : ℕ :=
  (llround (setup.durationS * kTransportRateHz)).toNat

/-- The lateness bookkeeping of the active loops. -/
def recordLateness (wokeNs deadlineNs : ℤ) : Native Unit :=
  Program.modify fun machine =>
    let latenessMs := max 0 ((wokeNs - deadlineNs : ℤ) / 1000000 : ℚ)
    { machine with
      maximumLatenessMs := max machine.maximumLatenessMs latenessMs
      deadlineMisses := machine.deadlineMisses + if 2 ≤ latenessMs then 1 else 0 }

/-- The coverage of the active loop, as its end computes it. -/
def coverage (motor : MotorState) : ℚ :=
  if 0 < motor.txCount then motor.rxCount / motor.txCount else 0

section Shutdown

variable (setup : Setup) (world : World) (drain : Native Unit)

/-- Poll the motors that are due in a slot. -/
def pollDue (slot : ℕ) : Native Unit :=
  forEachMotor fun index =>
    Program.runIf ((setup.loaded.descriptor index).due slot = true)
      (sendPoll setup world index)

def disablePass : Native Unit :=
  forEachMotor fun index => sendSpecial setup world index disableOpcode

def verificationSlot (slot : ℕ) : Native Unit := do
  emit (.slot .verification slot)
  sleepUntil world
  pollDue setup world slot
  drain

/-- Poll until the last replies are in, then require every drive disabled. -/
def verifyDisabled : Native Unit := do
  forEachMotor fun index =>
    onMachineMotor index (Program.modify fun motor =>
      { motor with seen := false, finalDisabled := false })
  let _ ← monotonicNs world
  Program.forEach (List.range 400) (verificationSlot setup world drain)
  drain
  let machine ← Program.get
  forEachMotor fun index =>
    Program.throwIf ((machine.motors index).finalDisabled = false)
      ("final disabled verification failed for " ++ (setup.loaded.descriptor index).name)

/-- The body of the shutdown `try`, with the reader as a parameter. -/
def shutdownBody : Native Unit := do
  Program.forEach (List.range 3) fun _ => disablePass setup world
  verifyDisabled setup world drain

/-- The end of `failure` when the shutdown block has caught an error. -/
def appendFailure (failure what : String) : String :=
  if failure.isEmpty then what else failure ++ "; " ++ what

/-- The `try` and `catch` of a shutdown, with the failure of the run before it. -/
def shutdown (failure : String) : Native String :=
  Program.tryCatch
    (do
      shutdownBody setup world drain
      return failure)
    (fun what => return appendFailure failure what)

theorem EmitsOnly.pollDue (slot : ℕ) :
    EmitsOnly [.poll] (SpriteRuntime.pollDue setup world slot) :=
  forEachMotor fun index => .runIf (sendPoll setup world index)

theorem EmitsOnly.disablePass :
    EmitsOnly [.disable] (SpriteRuntime.disablePass setup world) :=
  forEachMotor fun index => sendDisable setup world index

theorem EmitsOnly.verifyDisabled {drain : Native Unit} (drains : EmitsOnly [.read] drain) :
    EmitsOnly [.slot, .poll, .read] (SpriteRuntime.verifyDisabled setup world drain) := by
  refine .bind (forEachMotor fun index => onMachineMotor _ _) fun _ => ?_
  refine .bind (monotonicNs world) fun _ => .bind (.forEach fun slot _ => ?_) fun _ => ?_
  · refine .bind (emit (by simp [Event.kind])) fun _ => .bind (sleepUntil world) fun _ => ?_
    exact .bind ((pollDue setup world slot).widen (by simp)) fun _ =>
      drains.widen (by simp)
  · refine .bind (drains.widen (by simp)) fun _ => .bind .get fun machine => ?_
    exact forEachMotor fun index => .throwIf _

/-- What a shutdown may add to the trace: of the slots only those of the
verification. -/
def Event.Closing (event : Event) : Prop :=
  event.kind ∈ [Kind.disable, .poll, .read] ∨ ∃ index, event = .slot .verification index

theorem Event.Closing.kind {event : Event} (closing : event.Closing) :
    event.kind ∈ [Kind.disable, .slot, .poll, .read] := by
  rcases closing with among | ⟨index, rfl⟩
  · simp only [List.mem_cons, List.not_mem_nil, or_false] at among ⊢
    tauto
  · simp [Event.kind]

/-- A shutdown, whatever failed before it, closes the run. -/
theorem shutdown_closes {drain : Native Unit} (drains : EmitsOnly [.read] drain)
    (failure : String) :
    Program.Emits (fun machine : Machine => machine.trace) Event.Closing
      (SpriteRuntime.shutdown setup world drain failure) := by
  have closing {α : Type} {program : Native α} {kinds : List Kind}
      (emits : EmitsOnly kinds program) (subset : kinds ⊆ [.disable, .poll, .read]) :
      Program.Emits (fun machine : Machine => machine.trace) Event.Closing program :=
    emits.mono fun _ member => .inl (subset member)
  have entering (index : ℕ) : Program.Emits (fun machine : Machine => machine.trace)
      Event.Closing (emit (.slot .verification index)) :=
    fun machine => ⟨_, rfl, by simp [Event.Closing]⟩
  have still {α : Type} {program : Native α} (emits : EmitsOnly [] program) :
      Program.Emits (fun machine : Machine => machine.trace) Event.Closing program :=
    closing emits (by simp)
  refine .tryCatch (.bind (.bind (.forEach fun _ _ => ?_) fun _ => ?_) fun _ => .pure failure)
    fun what => .pure _
  · exact closing (EmitsOnly.disablePass setup world) (by simp)
  refine .bind (still (.forEachMotor fun index => .onMachineMotor _ _)) fun _ => ?_
  refine .bind (still (.monotonicNs world)) fun _ => .bind (.forEach fun slot _ => ?_) fun _ => ?_
  · refine .bind (entering slot) fun _ => .bind (still (.sleepUntil world)) fun _ => ?_
    exact .bind (closing (EmitsOnly.pollDue setup world slot) (by simp)) fun _ =>
      closing drains (by simp)
  · refine .bind (closing drains (by simp)) fun _ => .bind .get fun machine => ?_
    exact .forEach fun index _ => .throwIf _

theorem EmitsOnly.shutdown {drain : Native Unit} (drains : EmitsOnly [.read] drain)
    (failure : String) :
    EmitsOnly [.disable, .slot, .poll, .read]
      (SpriteRuntime.shutdown setup world drain failure) :=
  (shutdown_closes setup world drains failure).mono fun _ closing => closing.kind

end Shutdown

/-- What a run returns and reports; the rest of its report is the final state of
the motors. -/
structure RunReport where
  activeTx : Index → ℕ
  activeRx : Index → ℕ
  errors : String

namespace RunReport

def passed (report : RunReport) : Bool := report.errors.isEmpty

/-- The return value of the run. -/
def exitCode (report : RunReport) : ℕ := if report.passed then 0 else 2

end RunReport

/-- A powered run around its body: whatever way the body ends, the shutdown
follows, and then the report. -/
def poweredRun (setup : Setup) (world : World) (body drain : Native Unit)
    (cannotOpen : String) : Native RunReport := do
  let failure ← Program.tryCatch
    (do
      body
      return "")
    (fun what => return what)
  let machine ← Program.get
  let errors ← shutdown setup world drain failure
  Program.throwIf (world.reportOpens = false) cannotOpen
  return {
    activeTx := fun index => (machine.motors index).txCount
    activeRx := fun index => (machine.motors index).rxCount
    errors := errors }

end SpriteRuntime
