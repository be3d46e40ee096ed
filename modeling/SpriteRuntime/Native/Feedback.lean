import SpriteRuntime.Native.World

/-!
# Feedback

Between two slots the controller reads every feedback frame that has arrived,
checks its identity and status and takes over its measurements.  The protected
policy and the measured-pose hold have a reader each; they share the frame format
and differ in the guards.
-/

namespace SpriteRuntime

open Foundation

/-- The fields of a feedback frame. -/
structure Feedback where
  controllerId : ℕ
  statusCode : ℕ
  rawPosition : ℕ
  rawVelocity : ℕ
  rawTorque : ℕ
  mosTemperature : ℕ
  rotorTemperature : ℕ

def Feedback.ofData (data : CanData) : Feedback :=
  { controllerId := (data 0).toNat &&& 0x0F
    statusCode := (data 0).toNat >>> 4 &&& 0x0F
    rawPosition := (data 1).toNat <<< 8 ||| (data 2).toNat
    rawVelocity := (data 3).toNat <<< 4 ||| (data 4).toNat >>> 4
    rawTorque := ((data 4).toNat &&& 0x0F) <<< 8 ||| (data 5).toNat
    mosTemperature := (data 6).toNat
    rotorTemperature := (data 7).toNat }

/-- A frame that the readers reject whatever it carries. -/
def CanFrame.Malformed (size : ℕ) (frame : CanFrame) : Prop :=
  size ≠ canfdMtu ∨ frame.length ≠ 8 ∨ frame.flags &&& canfdBrs = 0

instance (size : ℕ) (frame : CanFrame) : Decidable (frame.Malformed size) := by
  unfold CanFrame.Malformed
  infer_instance

/-- A negative expected status admits disabled and enabled replies. -/
def StatusValid (expectedStatus : ℤ) (statusCode : ℕ) : Prop :=
  if 0 ≤ expectedStatus then (statusCode : ℤ) = expectedStatus
  else statusCode = 0 ∨ statusCode = 1

instance (expectedStatus : ℤ) (statusCode : ℕ) :
    Decidable (StatusValid expectedStatus statusCode) := by
  unfold StatusValid
  infer_instance

/-- The reply is from the motor's own controller and has an expected status. -/
def IdentityValid (descriptor : MotorDescriptor) (expectedStatus : ℤ)
    (feedback : Feedback) : Prop :=
  (feedback.controllerId : ℤ) = descriptor.canId ∧
    StatusValid expectedStatus feedback.statusCode

instance (descriptor : MotorDescriptor) (expectedStatus : ℤ) (feedback : Feedback) :
    Decidable (IdentityValid descriptor expectedStatus feedback) := by
  unfold IdentityValid
  infer_instance

namespace Feedback

variable (descriptor : MotorDescriptor) (feedback : Feedback)

def position : ℚ :=
  decodeUint feedback.rawPosition descriptor.positionMin descriptor.positionMax 16

def velocity : ℚ :=
  decodeUint feedback.rawVelocity descriptor.velocityMin descriptor.velocityMax 12

def torque : ℚ :=
  decodeUint feedback.rawTorque descriptor.torqueMin descriptor.torqueMax 12

/-- The raw temperature check of both readers. -/
def TooHot : Prop :=
  descriptor.mosTemperatureLimit ≤ feedback.mosTemperature ∨
    descriptor.rotorTemperatureLimit ≤ feedback.rotorTemperature

instance : Decidable (feedback.TooHot descriptor) := by
  unfold TooHot
  infer_instance

/-- The measurements and maxima that both readers take over. -/
def record (motor : MotorState) : MotorState :=
  { motor with
    lastPosition := feedback.position descriptor
    lastVelocity := feedback.velocity descriptor
    maximumAbsSpeed := max motor.maximumAbsSpeed |feedback.velocity descriptor|
    maximumAbsFeedbackTorque :=
      max motor.maximumAbsFeedbackTorque |feedback.torque descriptor|
    temperature :=
      { motor.temperature with
        maximumMosTemperature :=
          max motor.temperature.maximumMosTemperature feedback.mosTemperature
        maximumRotorTemperature :=
          max motor.temperature.maximumRotorTemperature feedback.rotorTemperature } }

/-- The bookkeeping after the last check. -/
def count (expectedStatus : ℤ) (motor : MotorState) : MotorState :=
  { motor with
    rxCount := motor.rxCount + 1
    seen := true
    finalDisabled :=
      if expectedStatus = 0 then true
      else if expectedStatus < 0 then feedback.statusCode == 0
      else motor.finalDisabled }

end Feedback

def resetTorqueRmsMonitor (motor : MotorState) : MotorState :=
  { motor with torqueRms := {} }

/-- One window of `update_torque_rms_monitor`: the samples and their sum, with the
oldest samples dropped down to the window's size. -/
def updateWindow (squared : ℚ) (maximumSamples : ℕ) (samples : List ℚ) (sum : ℚ) :
    List ℚ × ℚ :=
  let pushed := samples ++ [squared]
  let excess := pushed.length - maximumSamples
  (pushed.drop excess, sum + squared - (pushed.take excess).sum)

def windowRms (squareRoot : ℚ → ℚ) (window : List ℚ × ℚ) : ℚ :=
  squareRoot (max 0 window.2 / window.1.length)

def updateTorqueRmsMonitor (squareRoot : ℚ → ℚ) (descriptor : MotorDescriptor)
    (torque : ℚ) (motor : MotorState) : MotorState :=
  let monitor := motor.torqueRms
  let squared := torque * torque
  let rate := descriptor.pollRateHz.toNat
  let short := updateWindow squared rate monitor.shortTorqueSquaredSamples
    monitor.shortTorqueSquaredSum
  let long := updateWindow squared (10 * rate) monitor.longTorqueSquaredSamples
    monitor.longTorqueSquaredSum
  { motor with
    torqueRms :=
      { shortTorqueSquaredSamples := short.1
        shortTorqueSquaredSum := short.2
        longTorqueSquaredSamples := long.1
        longTorqueSquaredSum := long.2
        maximumShortTorqueRms :=
          if short.1.length = rate then
            max monitor.maximumShortTorqueRms (windowRms squareRoot short)
          else monitor.maximumShortTorqueRms
        maximumLongTorqueRms :=
          if long.1.length = 10 * rate then
            max monitor.maximumLongTorqueRms (windowRms squareRoot long)
          else monitor.maximumLongTorqueRms } }

def updateTemperatureFilter (exponential : ℚ → ℚ) (descriptor : MotorDescriptor)
    (feedback : Feedback) (motor : MotorState) : MotorState :=
  let monitor := motor.temperature
  let samplePeriodS := 1 / (descriptor.pollRateHz : ℚ)
  let alpha := 1 - exponential (-samplePeriodS / descriptor.temperatureFilterTimeConstantS)
  let filter := fun (filtered : ℚ) (sample : ℕ) =>
    if monitor.temperatureFilterInitialized then filtered + alpha * (sample - filtered)
    else sample
  let mos := filter monitor.filteredMosTemperature feedback.mosTemperature
  let rotor := filter monitor.filteredRotorTemperature feedback.rotorTemperature
  { motor with
    temperature :=
      { monitor with
        filteredMosTemperature := mos
        filteredRotorTemperature := rotor
        temperatureFilterInitialized := true
        maximumFilteredMosTemperature := max monitor.maximumFilteredMosTemperature mos
        maximumFilteredRotorTemperature :=
          max monitor.maximumFilteredRotorTemperature rotor } }

/-- The dynamic guard of `drain_policy_feedback`. -/
def DynamicGuardFailure (descriptor : MotorDescriptor) (feedback : Feedback)
    (motor : MotorState) : Prop :=
  motor.lastPosition < descriptor.hardPositionMin ∨
    descriptor.hardPositionMax < motor.lastPosition ∨
    descriptor.deploymentVelocityMax < |motor.lastVelocity| ∨
    descriptor.feedbackTorqueCap < |feedback.torque descriptor|

instance (descriptor : MotorDescriptor) (feedback : Feedback) (motor : MotorState) :
    Decidable (DynamicGuardFailure descriptor feedback motor) := by
  unfold DynamicGuardFailure
  infer_instance

def FilteredTemperatureFailure (descriptor : MotorDescriptor) (motor : MotorState) :
    Prop :=
  descriptor.filteredMosTemperatureLimit ≤ motor.temperature.filteredMosTemperature ∨
    descriptor.filteredRotorTemperatureLimit ≤ motor.temperature.filteredRotorTemperature

instance (descriptor : MotorDescriptor) (motor : MotorState) :
    Decidable (FilteredTemperatureFailure descriptor motor) := by
  unfold FilteredTemperatureFailure
  infer_instance

/-- What `drain_policy_feedback` does with a reply once its identity is checked. -/
def absorbPolicyFeedback (world : World) (descriptor : MotorDescriptor)
    (expectedStatus : ℤ) (enforceDynamicGuards : Bool) (feedback : Feedback) :
    Program MotorState String Unit := do
  Program.modify fun motor =>
    { feedback.record descriptor motor with lastStatusCode := feedback.statusCode }
  Program.runIf (enforceDynamicGuards = true ∧ feedback.statusCode = 1)
    (Program.modify
      (updateTorqueRmsMonitor world.squareRoot descriptor (feedback.torque descriptor)))
  Program.modify (updateTemperatureFilter world.exponential descriptor feedback)
  Program.throwIf (feedback.TooHot descriptor)
    ("protected-policy temperature failed for " ++ descriptor.name)
  let motor ← Program.get
  Program.throwIf (enforceDynamicGuards = true ∧ FilteredTemperatureFailure descriptor motor)
    ("protected-policy filtered temperature guard failed for " ++ descriptor.name)
  Program.throwIf (enforceDynamicGuards = true ∧ DynamicGuardFailure descriptor feedback motor)
    ("protected-policy dynamic guard failed for " ++ descriptor.name)
  Program.modify (feedback.count expectedStatus)

/-- What a motor has last reported. -/
structure Report where
  seen : Bool
  position : ℚ
  velocity : ℚ
  statusCode : ℤ
  finalDisabled : Bool

def MotorState.report (motor : MotorState) : Report :=
  { seen := motor.seen
    position := motor.lastPosition
    velocity := motor.lastVelocity
    statusCode := motor.lastStatusCode
    finalDisabled := motor.finalDisabled }

/-- What the motors have last reported. -/
def Machine.reports (machine : Machine) (index : Index) : Report :=
  (machine.motors index).report

/-- What a motor has reported once a reply has passed all checks. -/
def Feedback.reported (descriptor : MotorDescriptor) (expectedStatus : ℤ) (feedback : Feedback)
    (before : Report) : Report :=
  { seen := true
    position := feedback.position descriptor
    velocity := feedback.velocity descriptor
    statusCode := feedback.statusCode
    finalDisabled :=
      if expectedStatus = 0 then true
      else if expectedStatus < 0 then feedback.statusCode == 0
      else before.finalDisabled }

/-- A reply that passes all checks leaves its report behind. -/
theorem absorbPolicyFeedback_report {world : World} {descriptor : MotorDescriptor}
    {expectedStatus : ℤ} {enforceDynamicGuards : Bool} {feedback : Feedback}
    {before after : MotorState}
    (returned : absorbPolicyFeedback world descriptor expectedStatus enforceDynamicGuards
      feedback before = (.done (), after)) :
    after.report = feedback.reported descriptor expectedStatus before.report := by
  obtain ⟨_, recorded, record, afterRecord⟩ := Program.bind_eq_done returned
  obtain ⟨_, monitored, rms, afterRms⟩ := Program.bind_eq_done afterRecord
  have kept : monitored.report = recorded.report := by
    rcases runIf_eq_done rms with ⟨_, updated⟩ | ⟨_, same⟩
    · cases updated
      rfl
    · rw [same]
  obtain ⟨_, filtered, filter, afterFilter⟩ := Program.bind_eq_done afterRms
  obtain ⟨_, cooled, cool, afterCool⟩ := Program.bind_eq_done afterFilter
  obtain ⟨sameCooled, _⟩ := Program.throwIf_eq_done cool
  rw [sameCooled] at afterCool
  obtain ⟨_, _, read, afterRead⟩ := Program.bind_eq_done afterCool
  cases read
  obtain ⟨_, guarded, filterGuard, afterGuard⟩ := Program.bind_eq_done afterRead
  obtain ⟨sameGuarded, _⟩ := Program.throwIf_eq_done filterGuard
  rw [sameGuarded] at afterGuard
  obtain ⟨_, passed, dynamicGuard, counted⟩ := Program.bind_eq_done afterGuard
  obtain ⟨samePassed, _⟩ := Program.throwIf_eq_done dynamicGuard
  rw [samePassed] at counted
  have measured : filtered.report =
      { before.report with
        position := feedback.position descriptor
        velocity := feedback.velocity descriptor
        statusCode := feedback.statusCode } := by
    cases filter
    cases record
    exact kept
  cases counted
  simp only [MotorState.report, Report.mk.injEq] at measured
  obtain ⟨_, position, velocity, status, disabled⟩ := measured
  simp only [MotorState.report, Feedback.count, Feedback.reported, Report.mk.injEq, true_and]
  exact ⟨position, velocity, status, by rw [disabled]⟩

/-- `differential` of the measured-pose hold. -/
def isDifferential (descriptor : MotorDescriptor) : Bool :=
  descriptor.isAnkleMotor || descriptor.name == "head_motor_a" ||
    descriptor.name == "head_motor_b"

def torqueGuard (descriptor : MotorDescriptor) : ℚ :=
  if descriptor.name = "waist_roll_motor" then 5 / 2
  else if isDifferential descriptor then 1 / 10 else 1 / 2

/-- What `drain_hold_feedback` does with a reply once its identity is checked. -/
def absorbHoldFeedback (descriptor : MotorDescriptor) (expectedStatus : ℤ)
    (enforceMotionGuards : Bool) (feedback : Feedback) :
    Program MotorState String Unit := do
  Program.modify fun motor =>
    { feedback.record descriptor motor with
      maximumAbsPositionDrift := max motor.maximumAbsPositionDrift
        |feedback.position descriptor - motor.capturedPosition| }
  Program.throwIf (feedback.TooHot descriptor)
    ("measured-hold temperature failed for " ++ descriptor.name)
  let motor ← Program.get
  Program.throwIf
    (enforceMotionGuards = true ∧
      (1 / 20 < motor.maximumAbsPositionDrift ∨ 1 / 5 < motor.maximumAbsSpeed ∨
        torqueGuard descriptor < |feedback.torque descriptor|))
    ("measured-hold motion/torque guard failed for " ++ descriptor.name)
  Program.modify (feedback.count expectedStatus)

section Drains

variable (setup : Setup) (world : World) (expectedStatus : ℤ) (enforceGuards : Bool)

/-- Read one frame from a socket. -/
def readFrame (interface : String) : Native ReadResult := do
  let result ← answer world.read (·.read) fun calls => { calls with read := calls.read + 1 }
  emit (.read interface result)
  return result

def frameId (frame : CanFrame) : ℕ := frame.canId &&& canSffMask

/-- The error text for a reply with a wrong identity or status. -/
def policyIdentityText (descriptor : MotorDescriptor) (interface : String) (id : ℕ)
    (feedback : Feedback) : String :=
  "protected-policy identity/status failed for " ++ descriptor.name ++
    " interface=" ++ interface ++
    " feedback_id=0x" ++ String.ofList (Nat.toDigits 16 id) ++
    " controller_id=" ++ toString feedback.controllerId ++
    " expected_controller_id=" ++ toString descriptor.canId ++
    " status_code=" ++ toString feedback.statusCode ++
    " expected_status=" ++ toString expectedStatus

/-- A failure of `drain_policy_feedback` that a shutdown passes over. -/
def unlessStopping (what : String) : Native Bool :=
  if expectedStatus < 0 then return true else Program.throw what

/-- `drain_policy_feedback` on a well-formed frame. -/
def policyReply (interface : String) (frame : CanFrame) : Native Bool := do
  match setup.feedbackMap interface (frameId frame) with
  | none => return true
  | some index => do
      let descriptor := setup.loaded.descriptor index
      let feedback := Feedback.ofData frame.data
      if IdentityValid descriptor expectedStatus feedback then do
        onMachineMotor index
          (absorbPolicyFeedback world descriptor expectedStatus enforceGuards feedback)
        return true
      else
        unlessStopping expectedStatus
          (policyIdentityText expectedStatus descriptor interface (frameId frame) feedback)

/-- One round of the inner loop of `drain_policy_feedback`; the answer says whether
the loop goes on. -/
def drainPolicyRound (interface : String) : Native Bool := do
  match ← readFrame world interface with
  | .again => return false
  | .failed =>
      unlessStopping expectedStatus "invalid protected-policy CAN-FD feedback frame"
  | .received size frame =>
      if frame.Malformed size then
        unlessStopping expectedStatus "invalid protected-policy CAN-FD feedback frame"
      else policyReply setup world expectedStatus enforceGuards interface frame

def drainPolicyFeedback : Native Unit :=
  Program.forEach setup.interfaces fun interface =>
    Program.loop world.patience
      (drainPolicyRound setup world expectedStatus enforceGuards interface)

/-- `drain_hold_feedback` on a well-formed frame. -/
def holdReply (interface : String) (frame : CanFrame) : Native Bool := do
  match setup.feedbackMap interface (frameId frame) with
  | none => return true
  | some index => do
      let descriptor := setup.loaded.descriptor index
      let feedback := Feedback.ofData frame.data
      Program.throwIf (¬IdentityValid descriptor expectedStatus feedback)
        ("measured-hold identity/status failed for " ++ descriptor.name)
      onMachineMotor index
        (absorbHoldFeedback descriptor expectedStatus enforceGuards feedback)
      return true

def drainHoldRound (interface : String) : Native Bool := do
  match ← readFrame world interface with
  | .again => return false
  | .failed => Program.throw "invalid measured-hold CAN-FD feedback frame"
  | .received size frame => do
      Program.throwIf (frame.Malformed size)
        "invalid measured-hold CAN-FD feedback frame"
      holdReply setup expectedStatus enforceGuards interface frame

def drainHoldFeedback : Native Unit :=
  Program.forEach setup.interfaces fun interface =>
    Program.loop world.patience
      (drainHoldRound setup world expectedStatus enforceGuards interface)

theorem EmitsOnly.readFrame (interface : String) :
    EmitsOnly [.read] (SpriteRuntime.readFrame world interface) :=
  .bind (answer _ _ _) fun _ => .bind (emit (by simp [Event.kind])) fun _ => .pure _

theorem EmitsOnly.drainHoldFeedback :
    EmitsOnly [.read] (SpriteRuntime.drainHoldFeedback setup world expectedStatus
      enforceGuards) := by
  refine .forEach fun interface _ => .loop ?_
  refine .bind (readFrame world interface) fun result => ?_
  cases result with
  | again => exact .pure false
  | failed => exact .throw _
  | received size frame =>
      refine .bind (.throwIf _) fun _ => ?_
      unfold holdReply
      split
      · exact .pure true
      · exact .bind (.throwIf _) fun _ => .bind (onMachineMotor _ _) fun _ => .pure true

end Drains

/-- The reply of a configured motor that an event brings in. -/
def Event.reply (setup : Setup) : Event → Option (Index × Feedback)
  | .read interface (.received size frame) =>
      if frame.Malformed size then none
      else
        (setup.feedbackMap interface (frameId frame)).map fun index =>
          (index, Feedback.ofData frame.data)
  | _ => none

/-- The reply of one motor. -/
def Event.replyOf (setup : Setup) (index : Index) (event : Event) : Option Feedback :=
  match event.reply setup with
  | some (motor, feedback) => if motor = index then some feedback else none
  | none => none

section Policy

variable (setup : Setup) (world : World) (expectedStatus : ℤ) (enforceGuards : Bool)

/-- What a round of `drain_policy_feedback` does once it has read. -/
def policyRead (interface : String) : ReadResult → Native Bool
  | .again => return false
  | .failed =>
      unlessStopping expectedStatus "invalid protected-policy CAN-FD feedback frame"
  | .received size frame =>
      if frame.Malformed size then
        unlessStopping expectedStatus "invalid protected-policy CAN-FD feedback frame"
      else policyReply setup world expectedStatus enforceGuards interface frame

/-- `drain_policy_feedback` on a reply of a motor. -/
def takeReply (index : Index) (feedback : Feedback) : Native Bool := do
  onMachineMotor index
    (absorbPolicyFeedback world (setup.loaded.descriptor index) expectedStatus
      enforceGuards feedback)
  return true

theorem drainPolicyRound_eq (interface : String) :
    drainPolicyRound setup world expectedStatus enforceGuards interface =
      readFrame world interface >>=
        policyRead setup world expectedStatus enforceGuards interface := by
  unfold drainPolicyRound
  congr 1

/-- The machine after a read. -/
def afterRead (result : ReadResult) (interface : String) (machine : Machine) : Machine :=
  { machine with
    calls := { machine.calls with read := machine.calls.read + 1 }
    trace := machine.trace ++ [.read interface result] }

theorem drainPolicyRound_apply (interface : String) (machine : Machine) :
    drainPolicyRound setup world expectedStatus enforceGuards interface machine =
      policyRead setup world expectedStatus enforceGuards interface
        (world.read machine.calls.read)
        (afterRead (world.read machine.calls.read) interface machine) := by
  rw [drainPolicyRound_eq]
  rfl

variable {setup world expectedStatus enforceGuards}

theorem policyIdentityText_ne_empty (expectedStatus : ℤ) (descriptor : MotorDescriptor)
    (interface : String) (id : ℕ) (feedback : Feedback) :
    policyIdentityText expectedStatus descriptor interface id feedback ≠ "" := by
  unfold policyIdentityText
  repeat apply text_ne_empty
  decide

/-- The four things a round can do with what it has read: it ends at an empty socket,
passes over it, leaves with an error or takes a reply over. -/
theorem policyRead_cases (interface : String) (result : ReadResult) :
    let round := policyRead setup world expectedStatus enforceGuards interface result
    let reply := (Event.read interface result).reply setup
    (result = .again ∧ round = return false) ∨
      (reply = none ∧ round = return true) ∨
      ((∀ index feedback, reply = some (index, feedback) →
          ¬IdentityValid (setup.loaded.descriptor index) expectedStatus feedback) ∧
        ∃ what, what ≠ "" ∧ round = unlessStopping expectedStatus what) ∨
      ∃ index feedback, reply = some (index, feedback) ∧
        IdentityValid (setup.loaded.descriptor index) expectedStatus feedback ∧
        round = takeReply setup world expectedStatus enforceGuards index feedback := by
  cases result with
  | again => exact .inl ⟨rfl, rfl⟩
  | failed =>
      right; right; left
      constructor
      · intro index feedback reply
        cases reply
      · exact ⟨_, by decide, rfl⟩
  | received size frame =>
      by_cases malformed : frame.Malformed size
      · right; right; left
        constructor
        · intro index feedback reply
          simp [Event.reply, malformed] at reply
        · exact ⟨"invalid protected-policy CAN-FD feedback frame", by decide,
            by simp [policyRead, malformed]⟩
      · cases mapped : setup.feedbackMap interface (frameId frame) with
        | none =>
            right; left
            constructor
            · simp [Event.reply, malformed, mapped]
            · simp [policyRead, policyReply, malformed, mapped]
        | some index =>
            have reply : (Event.read interface (.received size frame)).reply setup =
                some (index, Feedback.ofData frame.data) := by
              simp [Event.reply, malformed, mapped]
            by_cases valid : IdentityValid (setup.loaded.descriptor index) expectedStatus
                (Feedback.ofData frame.data)
            · right; right; right
              refine ⟨index, Feedback.ofData frame.data, reply, valid, ?_⟩
              simp [policyRead, policyReply, takeReply, malformed, mapped, valid]
            · right; right; left
              constructor
              · intro other feedback same
                rw [reply] at same
                cases same
                exact valid
              · refine ⟨policyIdentityText expectedStatus (setup.loaded.descriptor index)
                  interface (frameId frame) (Feedback.ofData frame.data), ?_, ?_⟩
                · exact policyIdentityText_ne_empty _ _ _ _ _
                · simp [policyRead, policyReply, malformed, mapped, valid]

/-- What a reply changes when it is taken over. -/
theorem takeReply_eq_done {index : Index} {feedback : Feedback} {again : Bool}
    {machine final : Machine}
    (returned : takeReply setup world expectedStatus enforceGuards index feedback machine =
      (.done again, final)) :
    final.trace = machine.trace ∧
      final.reports = Function.update machine.reports index
        (feedback.reported (setup.loaded.descriptor index) expectedStatus
          (machine.reports index)) := by
  obtain ⟨_, absorbed, absorb, continued⟩ := Program.bind_eq_done returned
  cases continued
  obtain ⟨motor, taken, rfl⟩ := onMachineMotor_eq_done absorb
  constructor
  · rfl
  · funext other
    by_cases same : other = index
    · subst same
      simpa [Machine.reports] using absorbPolicyFeedback_report taken
    · simp [Machine.reports, same]

/-- What a round that returns has done with what it has read: it has passed over it, or
taken a reply over. -/
theorem policyRead_eq_done {interface : String} {result : ReadResult} {again : Bool}
    {machine final : Machine}
    (returned : policyRead setup world expectedStatus enforceGuards interface result machine =
      (.done again, final)) :
    (final = machine ∧ ∀ index feedback,
        (Event.read interface result).reply setup = some (index, feedback) →
          expectedStatus < 0 ∧
            ¬IdentityValid (setup.loaded.descriptor index) expectedStatus feedback) ∨
      ∃ index feedback, (Event.read interface result).reply setup = some (index, feedback) ∧
        IdentityValid (setup.loaded.descriptor index) expectedStatus feedback ∧
        final.trace = machine.trace ∧
        final.reports = Function.update machine.reports index
          (feedback.reported (setup.loaded.descriptor index) expectedStatus
            (machine.reports index)) := by
  rcases @policyRead_cases setup world expectedStatus enforceGuards interface result with
    ⟨rfl, round⟩ | ⟨silent, round⟩ | ⟨invalid, what, _, round⟩ |
      ⟨index, feedback, reply, valid, round⟩
  · left
    rw [round] at returned
    cases returned
    exact ⟨rfl, fun _ _ reply => by cases reply⟩
  · left
    rw [round] at returned
    cases returned
    exact ⟨rfl, fun _ _ reply => by rw [silent] at reply; cases reply⟩
  · left
    rw [round] at returned
    unfold unlessStopping at returned
    split at returned
    next tolerant =>
        cases returned
        exact ⟨rfl, fun index feedback reply => ⟨tolerant, invalid index feedback reply⟩⟩
    · cases returned
  · right
    rw [round] at returned
    exact ⟨index, feedback, reply, valid, takeReply_eq_done returned⟩

/-- A property of programs holds of a round when it holds of the ways to end it and of
taking a reply over. -/
theorem policyRead_rule {holds : Native Bool → Prop} (interface : String)
    (result : ReadResult) (returns : ∀ again, holds (return again))
    (leaves : ∀ what, holds (Program.throw what))
    (takes : ∀ index feedback,
      holds (takeReply setup world expectedStatus enforceGuards index feedback)) :
    holds (policyRead setup world expectedStatus enforceGuards interface result) := by
  rcases policyRead_cases interface result with
    ⟨_, round⟩ | ⟨_, round⟩ | ⟨_, what, _, round⟩ | ⟨index, feedback, _, _, round⟩
  · exact round ▸ returns false
  · exact round ▸ returns true
  · rw [round]
    unfold unlessStopping
    split
    · exact returns true
    · exact leaves what
  · exact round ▸ takes index feedback

/-- What is done with a frame adds nothing to the trace. -/
theorem policyRead_trace (interface : String) (result : ReadResult) (machine : Machine) :
    (policyRead setup world expectedStatus enforceGuards interface result machine).2.trace =
      machine.trace := by
  have leaves : Program.Leaves (fun machine : Machine => machine.trace)
      (policyRead setup world expectedStatus enforceGuards interface result) := by
    apply policyRead_rule
    · exact fun again => .pure again
    · exact fun what => .throw what
    · exact fun index feedback => .bind (fun _ => rfl) fun _ => .pure true
  exact leaves machine

variable (setup world expectedStatus enforceGuards)

/-- What reading a frame and taking over a reply do to the state, a whole drain
does. -/
theorem drainPolicyFeedback_respects {related : Machine → Machine → Prop}
    [IsPreorder Machine related]
    (reads : ∀ interface, Program.Respects related (readFrame world interface))
    (absorbs : ∀ index feedback, Program.Respects related
      (onMachineMotor index (absorbPolicyFeedback world (setup.loaded.descriptor index)
        expectedStatus enforceGuards feedback))) :
    Program.Respects related
      (drainPolicyFeedback setup world expectedStatus enforceGuards) := by
  refine .forEach fun interface _ => .loop ?_
  rw [drainPolicyRound_eq]
  refine .bind (reads interface) fun result => ?_
  apply policyRead_rule
  · exact fun again => .pure again
  · exact fun what => .throw what
  · exact fun index feedback => .bind (absorbs index feedback) fun _ => .pure true

theorem EmitsOnly.drainPolicyFeedback :
    EmitsOnly [.read] (SpriteRuntime.drainPolicyFeedback setup world expectedStatus
      enforceGuards) := by
  apply drainPolicyFeedback_respects
  · exact fun interface => readFrame world interface
  · exact fun index _ => onMachineMotor index _

end Policy

end SpriteRuntime
