import SpriteRuntime.Runtime.HardwareInventory
import SpriteRuntime.Runtime.PoweredGate

/-!
# Holding a single joint

One allowlisted motor is held at its measured position.  The cleanup has a loop of its own: at
least three attempts to disable, and more while no reply says that the motor is disabled and half
a second has not passed.
-/

namespace SpriteRuntime

open Foundation

structure SingleJointHoldReport where
  motorName : String
  targetPositionRad : Option ℚ
  durationS : ℚ
  rateHz : ℚ
  kp : ℚ
  kd : ℚ
  commandCount : ℕ
  feedbackCount : ℕ
  enableAttempts : ℕ
  disableAttempts : ℕ
  maximumAbsPositionErrorRad : ℚ
  maximumAbsVelocityRadS : ℚ
  maximumAbsEstimatedTorqueNm : ℚ
  maximumMosTemperatureC : ℕ
  maximumRotorTemperatureC : ℕ
  finalStatus : Option String
  errors : List String

/-- `passed`. -/
structure SingleJointHoldReport.Passed (report : SingleJointHoldReport) : Prop where
  errors : report.errors = []
  commands : 0 < report.commandCount
  feedback : 0 < report.feedbackCount
  disabled : report.finalStatus = some "disabled"
  enables : report.enableAttempts = 1
  disables : 3 ≤ report.disableAttempts

/-- The local variables of a hold; `prepared` is what the last feedback measured. -/
structure SingleJointLocals where
  targetPosition : Option ℚ := none
  prepared : DamiaoMitState := ⟨0, 0⟩
  feedbackCount : ℕ := 0
  commandCount : ℕ := 0
  maxError : ℚ := 0
  maxVelocity : ℚ := 0
  maxTorque : ℚ := 0
  maxMos : ℕ := 0
  maxRotor : ℕ := 0
  nextSend : ℚ := 0

/-- The arguments of `run_head_yaw_low_gain_hold` beside the writer and the clock. -/
structure SingleJointHold where
  endpoint : DamiaoFeedbackEndpoint
  softPositionRad : ℚ × ℚ
  durationS : ℚ := 2
  rateHz : ℚ := 50
  kp : ℚ := 1 / 5
  kd : ℚ := 1 / 20
  maximumPositionErrorRad : ℚ := 1 / 20
  maximumVelocityRadS : ℚ := 1 / 5
  maximumTorqueNm : ℚ := 1 / 10
  mosTemperatureLimitC : ℤ := 100
  rotorTemperatureLimitC : ℤ := 80
  feedbackTimeoutS : ℚ := 1 / 10
  expectedEndpoint : String × String × ℤ := ("head_yaw_motor", "kcan3", 8)

/-- `run_right_wrist_roll_low_gain_hold`. -/
def rightWristRollLowGainHold (endpoint : DamiaoFeedbackEndpoint) (softPositionRad : ℚ × ℚ) :
    SingleJointHold where
  endpoint := endpoint
  softPositionRad := softPositionRad
  expectedEndpoint := ("right_wrist_roll_motor", "kcan4", 7)

/-- What the last feedback measured. -/
def DamiaoFeedback.measured (feedback : DamiaoFeedback) : DamiaoMitState :=
  ⟨feedback.positionRad, feedback.velocityRadS⟩

namespace SingleJointHold

variable (hold : SingleJointHold) (world : GateWorld) (fuel : ℕ)

def motorName : String := hold.endpoint.motorName

/-- The checks of the arguments. -/
def validate : Except String Unit := do
  raiseIf ((hold.endpoint.motorName, hold.endpoint.interface, hold.endpoint.canId) ≠
      hold.expectedEndpoint)
    ("powered hold is restricted to " ++ hold.expectedEndpoint.2.1 ++ " ID " ++
      hexId hold.expectedEndpoint.2.2.toNat ++ " " ++ hold.expectedEndpoint.1)
  raiseIf ((hold.durationS, hold.rateHz, hold.kp, hold.kd) ≠ (2, 50, 1 / 5, 1 / 20))
    "first powered hold duration/rate/gains are frozen"
  raiseIf (1 / 10 < hold.maximumTorqueNm ∨ 1 / 5 < hold.maximumVelocityRadS)
    "first powered hold safety envelope cannot be widened"
  raiseIf (hold.softPositionRad.2 ≤ hold.softPositionRad.1)
    "head-yaw soft position range is invalid"

def period : ℚ := 1 / hold.rateHz

def feedback : Gate SingleJointLocals DamiaoFeedback :=
  receiveEndpoint world fuel hold.endpoint hold.feedbackTimeoutS

/-- `accept`. -/
def accept (feedback : DamiaoFeedback) (requireStatus : String) : Gate SingleJointLocals Unit := do
  changeLocals fun locals => { locals with feedbackCount := locals.feedbackCount + 1 }
  Program.throwIf (feedback.statusName ≠ requireStatus)
    (hold.motorName ++ " status must be " ++ requireStatus ++ ", observed " ++ feedback.statusName)
  let state ← Program.get
  let error := match state.locals.targetPosition with
    | none => 0
    | some target => target - feedback.positionRad
  changeLocals fun locals =>
    { locals with
      maxError := max locals.maxError |error|
      maxVelocity := max locals.maxVelocity |feedback.velocityRadS|
      maxTorque := max locals.maxTorque |feedback.estimatedOutputTorqueNm|
      maxMos := max locals.maxMos feedback.mosTemperatureC
      maxRotor := max locals.maxRotor feedback.rotorTemperatureC }
  Program.throwIf (hold.maximumPositionErrorRad < |error|)
    (hold.motorName ++ " position-error guard tripped")
  Program.throwIf (hold.maximumVelocityRadS < |feedback.velocityRadS|)
    (hold.motorName ++ " velocity guard tripped")
  Program.throwIf (hold.maximumTorqueNm < |feedback.estimatedOutputTorqueNm|)
    (hold.motorName ++ " torque guard tripped")
  Program.throwIf (hold.mosTemperatureLimitC ≤ feedback.mosTemperatureC)
    (hold.motorName ++ " MOS-temperature guard tripped")
  Program.throwIf (hold.rotorTemperatureLimitC ≤ feedback.rotorTemperatureC)
    (hold.motorName ++ " rotor-temperature guard tripped")

/-- Up to the envelope: the motor must be disabled and have room on both sides. -/
def prepare : Gate SingleJointLocals ℚ := do
  sendEcho world hold.endpoint 0
  let initial ← hold.feedback world fuel
  Program.throwIf (initial.statusName ≠ "disabled")
    (hold.motorName ++ " must be disabled before powered hold")
  let target := initial.positionRad
  changeLocals fun locals => { locals with targetPosition := some target }
  Program.throwIf
    (¬(hold.softPositionRad.1 + 1 / 20 ≤ target ∧ target ≤ hold.softPositionRad.2 - 1 / 20))
    (hold.motorName ++ " measured position lacks 0.05 rad soft-limit margin")
  sendEcho world hold.endpoint target
  let prepared ← hold.feedback world fuel
  Program.throwIf (prepared.statusName ≠ "disabled")
    (hold.motorName ++ " changed status during zero-gain preparation")
  changeLocals fun locals => { locals with prepared := prepared.measured }
  return target

/-- One command for the target, and its feedback. -/
def sendTarget (target : ℚ) (envelope : DamiaoMitCommandEnvelope) :
    Gate SingleJointLocals Unit := do
  let state ← Program.get
  let encoded ← Program.ofExcept ((encodeDamiaoMitCommand hold.endpoint
    ⟨target, 0, hold.kp, hold.kd, 0⟩ state.locals.prepared envelope).mapError world.encodeErrorText)
  sendGateCommand world encoded
  changeLocals fun locals => { locals with commandCount := locals.commandCount + 1 }
  let prepared ← hold.feedback world fuel
  changeLocals fun locals => { locals with prepared := prepared.measured }
  hold.accept prepared "enabled"
  changeLocals fun locals => { locals with nextSend := locals.nextSend + hold.period }

/-- One round of the hold, given the reading that the loop tests. -/
def holdBefore (target : ℚ) (envelope : DamiaoMitCommandEnvelope) (start tested : ℚ) :
    Gate SingleJointLocals (Option Unit) :=
  if hold.durationS ≤ tested - start then return some ()
  else do
    let now ← monotonic world
    let state ← Program.get
    Program.runIf (state.locals.nextSend ≤ now) (hold.sendTarget world fuel target envelope)
    return none

def holdRound (target : ℚ) (envelope : DamiaoMitCommandEnvelope) (start : ℚ) :
    Gate SingleJointLocals (Option Unit) := do
  let tested ← monotonic world
  hold.holdBefore world fuel target envelope start tested

/-- The `try` of the hold. -/
def body : Gate SingleJointLocals Unit := do
  let target ← hold.prepare world fuel
  let envelope ← Program.ofExcept ((DamiaoMitCommandEnvelope.make hold.softPositionRad
    hold.maximumVelocityRadS hold.maximumTorqueNm hold.maximumTorqueNm).mapError
    world.encodeErrorText)
  sendEnable world hold.motorName
  let start ← monotonic world
  changeLocals fun locals => { locals with nextSend := start }
  Program.repeatUntil fuel (hold.holdRound world fuel target envelope start)

/-- `poll_position`. -/
def pollPosition (locals : SingleJointLocals) (_ : String) : ℚ := locals.targetPosition.getD 0

/-- The `try` of the cleanup: it leaves the loop when the writer has counted three attempts and
the motor is disabled. -/
def disableAndPoll : Gate SingleJointLocals (Option Unit) := do
  verificationPoll world fuel hold.feedbackTimeoutS pollPosition hold.endpoint
  let state ← Program.get
  return if 3 ≤ state.disableAttempts hold.motorName ∧
    state.finalStatus hold.motorName = some "disabled" then some () else none

def noteShutdownError (text : String) : Gate SingleJointLocals (Option Unit) := do
  noteLastError text
  return none

/-- The body of the loop of the cleanup. -/
def shutdownAttempt : Gate SingleJointLocals (Option Unit) := do
  Program.modify fun state => { state with shutdownAttempts := state.shutdownAttempts + 1 }
  Program.tryCatch (hold.disableAndPoll world fuel) noteShutdownError

/-- The loop asks the clock only after three attempts without a reply that says disabled. -/
def attemptBefore (deadline now : ℚ) : Gate SingleJointLocals (Option Unit) :=
  if deadline ≤ now then return some () else hold.shutdownAttempt world fuel

def shutdownRound (deadline : ℚ) : Gate SingleJointLocals (Option Unit) := do
  let state ← Program.get
  if state.shutdownAttempts < 3 then hold.shutdownAttempt world fuel
  else if state.finalStatus hold.motorName = some "disabled" then return some ()
  else do
    let now ← monotonic world
    hold.attemptBefore world fuel deadline now

/-- `f"{final_status}"`. -/
def statusText : Option String → String
  | none => "None"
  | some status => status

/-- The `finally` of the hold. -/
def cleanup : Gate SingleJointLocals Unit := do
  let now ← monotonic world
  Program.repeatUntil fuel (hold.shutdownRound world fuel (now + 1 / 2))
  let state ← Program.get
  Program.runIf (state.finalStatus hold.motorName ≠ some "disabled")
    (addGateError ("final disabled verification timed out at status " ++
      statusText (state.finalStatus hold.motorName) ++ errorDetail state.lastError))

def report (state : GateState SingleJointLocals) : SingleJointHoldReport where
  motorName := hold.motorName
  targetPositionRad := state.locals.targetPosition
  durationS := hold.durationS
  rateHz := hold.rateHz
  kp := hold.kp
  kd := hold.kd
  commandCount := state.locals.commandCount
  feedbackCount := state.locals.feedbackCount
  enableAttempts := state.enableAttempts hold.motorName
  disableAttempts := state.disableAttempts hold.motorName
  maximumAbsPositionErrorRad := state.locals.maxError
  maximumAbsVelocityRadS := state.locals.maxVelocity
  maximumAbsEstimatedTorqueNm := state.locals.maxTorque
  maximumMosTemperatureC := state.locals.maxMos
  maximumRotorTemperatureC := state.locals.maxRotor
  finalStatus := state.finalStatus hold.motorName
  errors := state.errors

/-- `run_head_yaw_low_gain_hold`. -/
def run : Gate SingleJointLocals SingleJointHoldReport := do
  Program.ofExcept hold.validate
  poweredGate (hold.body world fuel) (hold.cleanup world fuel) hold.report

/-! ## What a hold does -/

section Gate

variable {hold : SingleJointHold} {world : GateWorld}

open Program

section Body

variable (hold) (advances : world.Advances) {allowed : GateEvent → Prop}
  (polling : AllowsPolling allowed)

omit advances polling in
theorem tame_accept (feedback : DamiaoFeedback) (requireStatus : String) :
    Tame (GateState.Later allowed) fun _ => hold.accept feedback requireStatus := by
  refine .bind (tame_changeLocals _) fun _ => .bind (.throwIf _) fun _ => .bind .get fun state => ?_
  refine .bind (tame_changeLocals _) fun _ => .bind (.throwIf _) fun _ => .bind (.throwIf _)
    fun _ => .bind (.throwIf _) fun _ => .bind (.throwIf _) fun _ => .throwIf _

include advances polling

theorem tame_prepare : Tame (GateState.Later allowed) fun fuel => hold.prepare world fuel := by
  refine .bind (tame_sendEcho polling _ 0) fun _ => ?_
  refine .bind (tame_receiveEndpoint advances polling _ _) fun initial => ?_
  refine .bind (.throwIf _) fun _ => .bind (tame_changeLocals _) fun _ => ?_
  refine .bind (.throwIf _) fun _ => .bind (tame_sendEcho polling _ _) fun _ => ?_
  refine .bind (tame_receiveEndpoint advances polling _ _) fun prepared => ?_
  exact .bind (.throwIf _) fun _ => .bind (tame_changeLocals _) fun _ => .pure _

theorem tame_sendTarget (target : ℚ) (envelope : DamiaoMitCommandEnvelope) :
    Tame (GateState.Later allowed) fun fuel => hold.sendTarget world fuel target envelope := by
  refine .bind .get fun state => .bind (.ofExcept _) fun encoded => ?_
  refine .bind (tame_sendGateCommand polling encoded) fun _ => .bind (tame_changeLocals _) fun _ => ?_
  refine .bind (tame_receiveEndpoint advances polling _ _) fun prepared => ?_
  refine .bind (tame_changeLocals _) fun _ => ?_
  exact .bind (tame_accept hold prepared "enabled") fun _ => tame_changeLocals _

theorem tame_holdBefore (target : ℚ) (envelope : DamiaoMitCommandEnvelope) (start tested : ℚ) :
    Tame (GateState.Later allowed) fun fuel =>
      hold.holdBefore world fuel target envelope start tested := by
  by_cases late : hold.durationS ≤ tested - start
  · simp only [holdBefore, if_pos late]
    exact .pure (some ())
  · simp only [holdBefore, if_neg late]
    refine .bind tame_monotonic fun now => .bind .get fun state => .bind (.runIf ?_) fun _ =>
      .pure none
    exact tame_sendTarget hold advances polling target envelope

/-- The body may enable, and ends on every advancing clock. -/
theorem tame_body (enabling : ∀ motorName, allowed (.enable motorName)) :
    Tame (GateState.Later allowed) fun fuel => hold.body world fuel := by
  refine .bind (tame_prepare hold advances polling) fun target => .bind (.ofExcept _) fun envelope => ?_
  refine .bind (tame_sendEnable (enabling _)) fun _ => .bind tame_monotonic fun start => ?_
  refine .bind (tame_changeLocals _) fun _ => ?_
  have rest (tested : ℚ) := tame_holdBefore hold advances polling target envelope start tested
  apply tame_until advances (start + hold.durationS) (.bind tame_monotonic rest)
  intro fuel state final again
  refine ⟨?_, clockCalls_lt rest fuel again⟩
  rw [monotonic_bind, holdBefore] at again
  split at again
  · cases again
  · linarith

end Body

/-! ## The cleanup -/

/-- What a round of the cleanup may change. -/
structure Closer (first last : GateState SingleJointLocals) : Prop where
  clock : first.clockCalls ≤ last.clockCalls
  attempts : first.shutdownAttempts ≤ last.shutdownAttempts
  log : Extends GateState.log (fun event => ¬event.Enables) first last

instance : IsPreorder (GateState SingleJointLocals) Closer where
  refl state := ⟨le_rfl, le_rfl, refl state⟩
  trans _ _ _ left right :=
    ⟨left.clock.trans right.clock, left.attempts.trans right.attempts,
      trans_of (Extends GateState.log fun event => ¬event.Enables) left.log right.log⟩

theorem closer_of_later {first last : GateState SingleJointLocals}
    (later : first.Later (fun event => ¬event.Enables) last) : Closer first last :=
  ⟨later.clock, later.attempts.ge, later.log⟩

theorem tame_disableAndPoll (hold : SingleJointHold) (advances : world.Advances) :
    Tame (GateState.Later fun event => ¬event.Enables) fun fuel =>
      hold.disableAndPoll world fuel := by
  refine .bind (tame_verificationPoll advances polling_unenabling (fun _ => not_false) _ _ _)
    fun _ => .bind .get fun state => .pure _

theorem tame_noteShutdownError {allowed : GateEvent → Prop} (text : String) :
    Tame (GateState.Later allowed) fun _ => noteShutdownError text :=
  .bind (tame_noteLastError text) fun _ => .pure none

theorem tame_guardedPoll (hold : SingleJointHold) (advances : world.Advances) :
    Tame (GateState.Later fun event => ¬event.Enables) fun fuel =>
      tryCatch (hold.disableAndPoll world fuel) noteShutdownError :=
  (tame_disableAndPoll hold advances).tryCatch tame_noteShutdownError

theorem tame_shutdownAttempt (hold : SingleJointHold) (advances : world.Advances) :
    Tame Closer fun fuel => hold.shutdownAttempt world fuel :=
  .bind (.modify fun _ => ⟨le_rfl, Nat.le_succ _, .of_eq rfl⟩) fun _ =>
    (tame_guardedPoll hold advances).mono fun _ _ => closer_of_later

/-- An attempt is counted. -/
theorem shutdownAttempts_lt (advances : world.Advances) (fuel : ℕ)
    {state final : GateState SingleJointLocals} {answer : Option Unit}
    (returned : hold.shutdownAttempt world fuel state = (.done answer, final)) :
    state.shutdownAttempts < final.shutdownAttempts ∧ state.clockCalls ≤ final.clockCalls := by
  have later := (tame_guardedPoll hold advances).respects fuel
    { state with shutdownAttempts := state.shutdownAttempts + 1 }
  rw [shutdownAttempt, Program.bind_apply_done (Program.modify_apply _ state)] at returned
  rw [returned] at later
  exact ⟨later.attempts.ge, later.clock⟩

theorem tame_shutdownRound (hold : SingleJointHold) (advances : world.Advances) (deadline : ℚ) :
    Tame Closer fun fuel => hold.shutdownRound world fuel deadline := by
  refine .bind .get fun state => ?_
  by_cases few : state.shutdownAttempts < 3
  · simp only [if_pos few]
    exact tame_shutdownAttempt hold advances
  by_cases verified : state.finalStatus hold.motorName = some "disabled"
  · simp only [if_neg few, if_pos verified]
    exact .pure (some ())
  · simp only [if_neg few, if_neg verified]
    refine .bind (tame_monotonic.mono fun _ _ => closer_of_later) fun now => ?_
    by_cases late : deadline ≤ now
    · simp only [attemptBefore, if_pos late]
      exact .pure (some ())
    · simp only [attemptBefore, if_neg late]
      exact tame_shutdownAttempt hold advances

/-- Another round is one of the first three or begins before the deadline. -/
theorem shutdownRound_again (advances : world.Advances) (fuel : ℕ) {deadline : ℚ}
    {state final : GateState SingleJointLocals}
    (again : hold.shutdownRound world fuel deadline state = (.done none, final)) :
    state.clockCalls ≤ final.clockCalls ∧ state.shutdownAttempts < final.shutdownAttempts ∧
      (state.shutdownAttempts < 3 ∨
        world.clock state.clockCalls < deadline ∧ state.clockCalls < final.clockCalls) := by
  rw [shutdownRound, Program.bind_apply_done (Program.get_apply state)] at again
  split at again
  next few =>
      obtain ⟨attempted, clock⟩ := shutdownAttempts_lt advances fuel again
      exact ⟨clock, attempted, .inl few⟩
  · split at again
    · cases again
    · rw [monotonic_bind, attemptBefore] at again
      split at again
      · cases again
      next early =>
          obtain ⟨attempted, clock⟩ := shutdownAttempts_lt advances fuel again
          exact ⟨Nat.le_of_succ_le clock, attempted, .inr ⟨not_le.mp early, clock⟩⟩

/-- The cleanup ends on every advancing clock. -/
theorem tame_cleanup (hold : SingleJointHold) (advances : world.Advances) :
    Tame Closer fun fuel => hold.cleanup world fuel := by
  refine .bind (tame_monotonic.mono fun _ _ => closer_of_later) fun now => ?_
  refine .bind ?_ fun _ => .bind .get fun state =>
    .runIf ((tame_addGateError _).mono fun _ _ => closer_of_later)
  obtain ⟨call, reached⟩ := advances.unbounded (now + 1 / 2)
  apply (tame_shutdownRound hold advances _).repeatUntil fun state =>
    (3 - state.shutdownAttempts) + (call - state.clockCalls)
  intro fuel state final again
  obtain ⟨clock, attempted, few | ⟨early, advanced⟩⟩ := shutdownRound_again advances fuel again
  · omega
  · have below : state.clockCalls < call := by
      by_contra beyond
      exact absurd (reached.trans (advances.monotone (not_lt.mp beyond))) (not_le.mpr early)
    omega

theorem raises_shutdownAttempt (fuel : ℕ) :
    Raises (fun _ => False) (hold.shutdownAttempt world fuel) :=
  .bind (.modify _) fun _ => .tryCatch fun _ => .bind (.modify _) fun _ => .pure none

/-- No exception leaves the cleanup. -/
theorem raises_cleanup (fuel : ℕ) : Raises (fun _ => False) (hold.cleanup world fuel) := by
  refine .bind raises_monotonic fun now => .bind (.repeatUntil (.bind .get fun state => ?_)) fun _ =>
    .bind .get fun state => .runIf (.modify _)
  split
  · exact raises_shutdownAttempt fuel
  · split
    · exact .pure _
    · refine .bind raises_monotonic fun now' => ?_
      unfold attemptBefore
      split
      · exact .pure _
      · exact raises_shutdownAttempt fuel

/-- The rounds of the cleanup have each made an attempt, and the writer has not counted more. -/
structure Attempting (hold : SingleJointHold) (state : GateState SingleJointLocals) : Prop where
  counted : state.Counted
  attempted : state.shutdownAttempts ≤ disableCalls hold.motorName state.log

theorem Attempting.later {allowed : GateEvent → Prop} {first last : GateState SingleJointLocals}
    (attempting : hold.Attempting first) (later : first.Later allowed last) :
    hold.Attempting last := by
  refine ⟨later.counted attempting.counted, ?_⟩
  obtain ⟨suffix, grown, _⟩ := later.log
  rw [later.attempts, grown, disableCalls_append]
  exact attempting.attempted.trans (Nat.le_add_right _ _)

theorem Attempting.triple (hold : SingleJointHold) {α : Type}
    {program : Gate SingleJointLocals α} {allowed : GateEvent → Prop} (respects : Respects (GateState.Later allowed) program) :
    Triple hold.Attempting program (fun _ => hold.Attempting) hold.Attempting :=
  respects.triple (fun _ _ later attempting => attempting.later later)
    fun _ _ later attempting => attempting.later later

theorem Attempting.kept (hold : SingleJointHold) {α : Type}
    {program : ℕ → Gate SingleJointLocals α}
    (tame : Tame (GateState.Later fun _ => True) program) (fuel : ℕ) :
    Triple hold.Attempting (program fuel) (fun _ => hold.Attempting) fun _ => True :=
  (Attempting.triple hold (tame.respects fuel)).consequence (fun _ => id) (fun _ _ => id)
    fun _ _ => trivial

/-- After three attempts. -/
def Attempted (hold : SingleJointHold) (state : GateState SingleJointLocals) : Prop :=
  3 ≤ disableCalls hold.motorName state.log

/-- An attempt makes its call before anything else can raise. -/
theorem shutdownAttempt_triple (advances : world.Advances) (fuel : ℕ) :
    Triple hold.Attempting (hold.shutdownAttempt world fuel)
      (Round hold.Attempting fun _ => hold.Attempted) fun _ => True := by
  let owing := fun state : GateState SingleJointLocals =>
    state.Counted ∧ state.shutdownAttempts ≤ disableCalls hold.motorName state.log + 1
  have sent : Triple owing (sendDisable world hold.motorName) (fun _ => hold.Attempting)
      hold.Attempting := by
    rw [Triple.last_iff]
    rintro state ⟨counted, attempted⟩
    have later := (@tame_sendDisable _ world (fun _ => True) hold.motorName trivial).respects
      fuel state
    refine ⟨later.counted counted, ?_⟩
    rw [later.attempts, sendDisable_calls, if_pos rfl]
    exact attempted
  have heard := Attempting.triple hold ((tame_hearStatus advances polling_unenabling
    hold.feedbackTimeoutS pollPosition hold.endpoint).respects fuel)
  have polled : Triple owing (hold.disableAndPoll world fuel)
      (Round hold.Attempting fun _ => hold.Attempted) hold.Attempting := by
    refine .bind (.bind sent fun _ => heard) fun _ => Triple.get_bind fun known => ?_
    refine .pure _ ?_
    rintro state ⟨attempting, rfl⟩
    by_cases enough : 3 ≤ state.disableAttempts hold.motorName ∧
        state.finalStatus hold.motorName = some "disabled"
    · rw [if_pos enough]
      exact enough.1.trans (attempting.counted _)
    · rw [if_neg enough]
      exact attempting
  refine Triple.modify_bind (fun state attempting => ?_) (polled.tryCatch (fun text => ?_)
    fun _ _ => trivial)
  · exact ⟨attempting.counted, Nat.succ_le_succ attempting.attempted⟩
  · exact .bind (Attempting.kept hold (tame_noteLastError text) fuel) fun _ =>
      .pure none fun _ => id

theorem shutdownRound_triple (advances : world.Advances) (fuel : ℕ) (deadline : ℚ) :
    Triple hold.Attempting (hold.shutdownRound world fuel deadline)
      (Round hold.Attempting fun _ => hold.Attempted) fun _ => True := by
  refine Triple.get_bind fun known => ?_
  split
  · exact (shutdownAttempt_triple advances fuel).consequence (fun _ => And.left) (fun _ _ => id)
      fun _ => id
  next many =>
      have enough : ∀ state, hold.Attempting state ∧ state = known → hold.Attempted state := by
        rintro state ⟨attempting, rfl⟩
        exact (not_lt.mp many).trans attempting.attempted
      split
      · exact .pure _ enough
      · let both := fun state : GateState SingleJointLocals =>
          hold.Attempting state ∧ hold.Attempted state
        have read : Triple (fun state => hold.Attempting state ∧ state = known) (monotonic world)
            (fun _ => both) both := by
          rw [Triple.last_iff]
          intro state before
          have later := (@tame_monotonic _ world fun _ => True).respects fuel state
          exact ⟨before.1.later later, enough state before⟩
        refine .bind (read.consequence (fun _ => id) (fun _ _ => id) fun _ _ => trivial)
          fun now => ?_
        unfold attemptBefore
        split
        · exact .pure _ fun _ => And.right
        · exact (shutdownAttempt_triple advances fuel).consequence (fun _ => And.left)
            (fun _ _ => id) fun _ => id

/-- When the loop is left there have been three attempts. -/
theorem cleanup_triple (advances : world.Advances) (fuel : ℕ) :
    Triple hold.Attempting (hold.cleanup world fuel) (fun _ => hold.Attempted) fun _ => True := by
  refine .bind (Attempting.kept hold tame_monotonic fuel) fun now => ?_
  refine .bind (.repeatUntil (shutdownRound_triple advances fuel _) fun _ _ => trivial) fun _ => ?_
  refine Triple.get_bind fun known => .runIf (fun _ => ?_) fun _ _ => And.left
  exact .modify _ fun _ => And.left

end Gate

/-- A hold with valid arguments is contained. -/
theorem run_contained {hold : SingleJointHold} {world : GateWorld} (advances : world.Advances)
    (valid : hold.validate = .ok ()) :
    Contained (hold.run world) (.start {}) [hold.motorName] SingleJointHoldReport.Passed
      SingleJointHoldReport.errors fun report _ => report.finalStatus := by
  have opening := tame_body hold advances polling_undisabling fun _ => not_false
  have noted := opening.tryCatch fun text => tame_addGateError text
  have fresh : hold.Attempting (.start {}) := ⟨fun _ => Nat.zero_le _, Nat.zero_le _⟩
  have disables : ∀ fuel, ∀ name ∈ [hold.motorName], Program.Triple hold.Attempting
      (hold.cleanup world fuel) (fun _ state => 3 ≤ disableCalls name state.log) fun _ => True := by
    intro fuel name member
    obtain rfl := List.mem_singleton.mp member
    exact cleanup_triple advances fuel
  obtain ⟨final, settles, shuts⟩ := poweredGate_settles hold.report rfl opening
    ((tame_cleanup hold advances).mono fun _ _ => Closer.log) raises_cleanup
    (fun fuel => fresh.later (noted.respects fuel (.start {}))) disables
  refine ⟨hold.report final, final, settles_checked valid settles, shuts, fun passed => ?_⟩
  exact ⟨passed.errors, fun _ _ => passed.disabled⟩

end SingleJointHold

end SpriteRuntime
