import Mathlib.Order.Monotone.Defs
import Mathlib.Tactic.Linarith
import SpriteRuntime.Foundation.Appends
import SpriteRuntime.Foundation.Log
import SpriteRuntime.Foundation.Settling
import SpriteRuntime.Runtime.DamiaoFeedback

/-!
# Powered gates

The powered gates of the commissioning share a writer, a clock and a way to end: whatever was
raised before, the selected motors are sent disable frames and are polled until they report
themselves disabled or half a second has passed.  The answers of the writer and the readings of
the clock are scripts, and every call of the writer may raise.
-/

namespace SpriteRuntime

open Foundation

/-- A call of the writer, and what it took off the bus. -/
inductive GateEvent where
  | command (command : EncodedDamiaoMitCommand)
  | enable (motorName : String)
  | disable (motorName : String)
  | received (frame : ReceivedCanFrame)

def GateEvent.Enables : GateEvent → Prop
  | .enable _ => True
  | _ => False

def GateEvent.Disables : GateEvent → Prop
  | .disable _ => True
  | _ => False

/-- A call that is to disable one motor. -/
def GateEvent.disablesMotor (motorName : String) : GateEvent → Bool
  | .disable other => other = motorName
  | _ => false

/-- How a call that sends a frame ends; a call that raises may have been counted or not. -/
inductive TransmitAnswer where
  | sent
  | raised (text : String) (counted : Bool)

/-- How `writer.receive` ends; `blocking` is a `BlockingIOError`. -/
inductive ReceiveAnswer where
  | frame (frame : ReceivedCanFrame)
  | blocking
  | raised (text : String)

/-- The writer and the clock: the answers by how many calls of the kind came before, the motors
with counters of attempts, and the texts of what the encoder raises. -/
structure GateWorld where
  interface : String
  attemptNames : List String
  clock : ℕ → ℚ
  send : ℕ → TransmitAnswer
  receive : ℕ → ReceiveAnswer
  encodeErrorText : DamiaoError → String

/-- Monotonic time advances. -/
structure GateWorld.Advances (world : GateWorld) : Prop where
  monotone : Monotone world.clock
  unbounded : ∀ bound, ∃ call, bound ≤ world.clock call

/-- The state of a gate: the calls made, what the writer counts, the errors, the final status of
the motors, the rounds and the last error of the verification, and the other variables. -/
structure GateState (V : Type) where
  clockCalls : ℕ := 0
  sendCalls : ℕ := 0
  receiveCalls : ℕ := 0
  enableAttempts : String → ℕ := fun _ => 0
  disableAttempts : String → ℕ := fun _ => 0
  log : List GateEvent := []
  errors : List String := []
  finalStatus : String → Option String := fun _ => none
  shutdownAttempts : ℕ := 0
  lastError : Option String := none
  locals : V

/-- The state in which a gate is called. -/
def GateState.start {V : Type} (locals : V) : GateState V := { locals }

/-- A part of a gate; an exception is its text. -/
abbrev Gate (V α : Type) : Type := Program (GateState V) String α

section Calls

variable {V : Type} (world : GateWorld)

def changeLocals (change : V → V) : Gate V Unit :=
  Program.modify fun state => { state with locals := change state.locals }

def addGateError (text : String) : Gate V Unit :=
  Program.modify fun state => { state with errors := state.errors ++ [text] }

/-- `monotonic`. -/
def monotonic : Gate V ℚ := do
  let state ← Program.get
  Program.modify fun state => { state with clockCalls := state.clockCalls + 1 }
  return world.clock state.clockCalls

/-- A call of the writer that sends one frame. -/
def sendFrame (event : GateEvent) (count : GateState V → GateState V) : Gate V Unit := do
  let state ← Program.get
  let called := fun state : GateState V =>
    { state with sendCalls := state.sendCalls + 1, log := state.log ++ [event] }
  match world.send state.sendCalls with
  | .sent => Program.modify fun state => count (called state)
  | .raised text counted => do
      Program.modify fun state => if counted then count (called state) else called state
      Program.throw text

def sendGateCommand (command : EncodedDamiaoMitCommand) : Gate V Unit :=
  sendFrame world (.command command) id

def sendEnable (motorName : String) : Gate V Unit :=
  sendFrame world (.enable motorName) fun state =>
    { state with enableAttempts :=
        Function.update state.enableAttempts motorName (state.enableAttempts motorName + 1) }

def sendDisable (motorName : String) : Gate V Unit :=
  sendFrame world (.disable motorName) fun state =>
    { state with disableAttempts :=
        Function.update state.disableAttempts motorName (state.disableAttempts motorName + 1) }

/-- `writer.receive`, with a `BlockingIOError` as `none`. -/
def receiveFrame : Gate V (Option ReceivedCanFrame) := do
  let state ← Program.get
  Program.modify fun state => { state with receiveCalls := state.receiveCalls + 1 }
  match world.receive state.receiveCalls with
  | .frame frame => do
      Program.modify fun state => { state with log := state.log ++ [.received frame] }
      return some frame
  | .blocking => return none
  | .raised text => Program.throw text

/-- `writer.send_command(encode_zero_gain_position_echo(endpoint, position_rad))`. -/
def sendEcho (endpoint : DamiaoFeedbackEndpoint) (positionRad : ℚ) : Gate V Unit := do
  let command ← Program.ofExcept
    ((encodeZeroGainPositionEcho endpoint positionRad).mapError world.encodeErrorText)
  sendGateCommand world command

/-- Decode a frame of the motor, and pass over the others. -/
def acceptFrame (endpoint : DamiaoFeedbackEndpoint) :
    Option ReceivedCanFrame → Gate V (Option DamiaoFeedback)
  | none => return none
  | some frame =>
      if frame.interface = endpoint.interface ∧ (frame.canId : ℤ) = endpoint.masterId then do
        let feedback ← Program.ofExcept (decodeDamiaoFeedback frame endpoint)
        return some feedback
      else return none

/-- One round of the receive loop, given the reading of the clock. -/
def receiveBefore (endpoint : DamiaoFeedbackEndpoint) (deadline now : ℚ) :
    Gate V (Option DamiaoFeedback) := do
  Program.throwIf (deadline ≤ now) (endpoint.motorName ++ " feedback watchdog expired")
  let frame ← receiveFrame world
  acceptFrame endpoint frame

def receiveRound (endpoint : DamiaoFeedbackEndpoint) (deadline : ℚ) :
    Gate V (Option DamiaoFeedback) := do
  let now ← monotonic world
  receiveBefore world endpoint deadline now

/-- `_receive_endpoint`, `_receive` and `_receive_selected`, which differ in the length of a
sleep. -/
def receiveEndpoint (fuel : ℕ) (endpoint : DamiaoFeedbackEndpoint) (timeoutS : ℚ) :
    Gate V DamiaoFeedback := do
  let now ← monotonic world
  Program.repeatUntil fuel (receiveRound world endpoint (now + timeoutS))

/-- An exception of the body is noted, and the cleanup follows. -/
def noteException (body : Gate V Unit) : Gate V Unit := Program.tryCatch body addGateError

/-- A gate: the body, the cleanup whatever became of the body, and the report. -/
def poweredGate {R : Type} (body cleanup : Gate V Unit) (report : GateState V → R) : Gate V R := do
  noteException body
  cleanup
  let state ← Program.get
  return report state

/-! ## The cleanup of a group -/

/-- Three passes of disable frames; a motor whose frame fails does not keep the others from
theirs. -/
def disablePasses (selected : List DamiaoFeedbackEndpoint) : Gate V Unit :=
  Program.forEach (List.range 3) fun _ =>
    Program.forEach selected fun endpoint =>
      Program.tryCatch (sendDisable world endpoint.motorName) fun text =>
        addGateError (endpoint.motorName ++ " disable failed: " ++ text)

/-- `detail`. -/
def errorDetail : Option String → String
  | none => ""
  | some text => if text = "" then "" else ": " ++ text

section Verification

variable (fuel : ℕ) (timeoutS : ℚ) (pollPosition : V → String → ℚ)
  (endpoint : DamiaoFeedbackEndpoint)

/-- Poll and hear what the motor reports. -/
def hearStatus : Gate V Unit := do
  let state ← Program.get
  sendEcho world endpoint (pollPosition state.locals endpoint.motorName)
  let feedback ← receiveEndpoint world fuel endpoint timeoutS
  Program.modify fun state =>
    { state with finalStatus :=
        Function.update state.finalStatus endpoint.motorName (some feedback.statusName) }

/-- The `try` of a verification: disable, and hear what the motor reports. -/
def verificationPoll : Gate V Unit := do
  sendDisable world endpoint.motorName
  hearStatus world fuel timeoutS pollPosition endpoint

def noteLastError (text : String) : Gate V Unit :=
  Program.modify fun state => { state with lastError := some text }

/-- One round of the verification, given the reading of the clock. -/
def verifyBefore (deadline now : ℚ) : Gate V (Option Unit) :=
  if deadline ≤ now then return some ()
  else do
    Program.tryCatch (verificationPoll world fuel timeoutS pollPosition endpoint) noteLastError
    return none

def verificationRound (deadline : ℚ) : Gate V (Option Unit) := do
  let state ← Program.get
  if state.finalStatus endpoint.motorName = some "disabled" then return some ()
  else do
    let now ← monotonic world
    verifyBefore world fuel timeoutS pollPosition endpoint deadline now

/-- The verification of one motor. -/
def verifyMotor : Gate V Unit := do
  let now ← monotonic world
  Program.modify fun state => { state with lastError := none }
  Program.repeatUntil fuel
    (verificationRound world fuel timeoutS pollPosition endpoint (now + 1 / 2))
  let state ← Program.get
  Program.runIf (state.finalStatus endpoint.motorName ≠ some "disabled")
    (addGateError (endpoint.motorName ++ " final disabled verification failed" ++
      errorDetail state.lastError))

/-- The `finally` of the gates that power several motors. -/
def groupCleanup (selected : List DamiaoFeedbackEndpoint) : Gate V Unit := do
  disablePasses world selected
  Program.forEach selected (verifyMotor world fuel timeoutS pollPosition)

end Verification

end Calls

/-- The calls that are to disable one motor. -/
def disableCalls (motorName : String) (log : List GateEvent) : ℕ :=
  log.countP (GateEvent.disablesMotor motorName)

/-- A run in two parts: nothing is disabled in the first and nothing enabled in the second, which
has at least three attempts to disable every motor. -/
def ShutsDown (motorNames : List String) (log : List GateEvent) : Prop :=
  ∃ before after, log = before ++ after ∧ (∀ event ∈ before, ¬event.Disables) ∧
    (∀ event ∈ after, ¬event.Enables) ∧ ∀ name ∈ motorNames, 3 ≤ disableCalls name after

/-- A gate whose run returns a report, whatever raised on the way: the run shuts the motors down,
and the report passes only without an error and with every motor reported disabled. -/
def Contained {V R : Type} (run : ℕ → Gate V R) (start : GateState V) (motorNames : List String)
    (passed : R → Prop) (errors : R → List String) (finalStatus : R → String → Option String) :
    Prop :=
  ∃ report final, Program.Settles run start (.done report, final) ∧
    ShutsDown motorNames final.log ∧
    (passed report → errors report = [] ∧
      ∀ name ∈ motorNames, finalStatus report name = some "disabled")

/-! ## What a part of a gate may do -/

/-- The counters of the writer count no more than the calls. -/
def GateState.Counted {V : Type} (state : GateState V) : Prop :=
  ∀ name, state.disableAttempts name ≤ disableCalls name state.log

/-- The clock has not been turned back, and the calls of the writer were allowed ones. -/
structure GateState.Later {V : Type} (allowed : GateEvent → Prop) (first last : GateState V) :
    Prop where
  clock : first.clockCalls ≤ last.clockCalls
  attempts : last.shutdownAttempts = first.shutdownAttempts
  log : Extends GateState.log allowed first last
  counted : first.Counted → last.Counted

instance {V : Type} (allowed : GateEvent → Prop) :
    IsPreorder (GateState V) (GateState.Later allowed) where
  refl state := ⟨le_rfl, rfl, refl state, id⟩
  trans _ _ _ left right :=
    ⟨left.clock.trans right.clock, right.attempts.trans left.attempts,
      trans_of (Extends GateState.log allowed) left.log right.log, right.counted ∘ left.counted⟩

/-- Commands are allowed, and so is receiving. -/
structure AllowsPolling (allowed : GateEvent → Prop) : Prop where
  command : ∀ command, allowed (.command command)
  received : ∀ frame, allowed (.received frame)

theorem polling_undisabling : AllowsPolling fun event => ¬event.Disables :=
  ⟨fun _ => not_false, fun _ => not_false⟩

theorem polling_unenabling : AllowsPolling fun event => ¬event.Enables :=
  ⟨fun _ => not_false, fun _ => not_false⟩

section Tameness

variable {V : Type} {world : GateWorld} {allowed : GateEvent → Prop}

open Program

theorem disableCalls_append (motorName : String) (log suffix : List GateEvent) :
    disableCalls motorName (log ++ suffix) =
      disableCalls motorName log + disableCalls motorName suffix :=
  List.countP_append

theorem disableCalls_concat (motorName other : String) (log : List GateEvent) :
    disableCalls motorName (log ++ [.disable other]) =
      disableCalls motorName log + if other = motorName then 1 else 0 := by
  rw [disableCalls_append]
  by_cases same : other = motorName
  · simp [disableCalls, GateEvent.disablesMotor, same]
  · simp [disableCalls, GateEvent.disablesMotor, same]

/-- A change that neither sends nor receives. -/
theorem GateState.Later.of_eq {first last : GateState V} (clock : last.clockCalls = first.clockCalls)
    (rounds : last.shutdownAttempts = first.shutdownAttempts) (log : last.log = first.log)
    (attempts : last.disableAttempts = first.disableAttempts) : GateState.Later allowed first last :=
  ⟨clock.ge, rounds, .of_eq log, fun counted name => by
    rw [attempts, log]
    exact counted name⟩

/-- A call that is logged. -/
theorem GateState.Later.logged {first last : GateState V} {event : GateEvent}
    (permitted : allowed event) (clock : last.clockCalls = first.clockCalls)
    (rounds : last.shutdownAttempts = first.shutdownAttempts)
    (log : last.log = first.log ++ [event])
    (attempts : last.disableAttempts = first.disableAttempts) :
    GateState.Later allowed first last := by
  refine ⟨clock.ge, rounds, ⟨[event], log, by simpa using permitted⟩, fun counted name => ?_⟩
  rw [attempts, log, disableCalls_append]
  exact (counted name).trans (Nat.le_add_right _ _)

theorem tame_changeLocals (change : V → V) :
    Tame (GateState.Later allowed) fun _ => changeLocals change :=
  .modify fun _ => .of_eq rfl rfl rfl rfl

theorem tame_addGateError (text : String) :
    Tame (GateState.Later (V := V) allowed) fun _ => addGateError text :=
  .modify fun _ => .of_eq rfl rfl rfl rfl

theorem tame_noteLastError (text : String) :
    Tame (GateState.Later (V := V) allowed) fun _ => noteLastError text :=
  .modify fun _ => .of_eq rfl rfl rfl rfl

theorem tame_monotonic : Tame (GateState.Later (V := V) allowed) fun _ => monotonic world :=
  .bind .get fun _ => .bind (.modify fun _ => ⟨Nat.le_succ _, rfl, .of_eq rfl, id⟩) fun _ =>
    .pure _

theorem tame_sendFrame {event : GateEvent} {count : GateState V → GateState V}
    (called : ∀ state : GateState V, GateState.Later allowed state
      { state with sendCalls := state.sendCalls + 1, log := state.log ++ [event] })
    (counts : ∀ state : GateState V, GateState.Later allowed state
      (count { state with sendCalls := state.sendCalls + 1, log := state.log ++ [event] })) :
    Tame (GateState.Later allowed) fun _ => sendFrame world event count := by
  refine .bind .get fun state => ?_
  cases world.send state.sendCalls with
  | sent => exact .modify counts
  | raised text counted =>
      refine .bind (.modify fun state => ?_) fun _ => .throw text
      cases counted with
      | false => exact called state
      | true => exact counts state

theorem tame_sendGateCommand (polling : AllowsPolling allowed)
    (command : EncodedDamiaoMitCommand) :
    Tame (GateState.Later (V := V) allowed) fun _ => sendGateCommand world command :=
  tame_sendFrame (fun _ => .logged (polling.command command) rfl rfl rfl rfl)
    fun _ => .logged (polling.command command) rfl rfl rfl rfl

theorem tame_sendEnable {motorName : String} (permitted : allowed (.enable motorName)) :
    Tame (GateState.Later (V := V) allowed) fun _ => sendEnable world motorName :=
  tame_sendFrame (fun _ => .logged permitted rfl rfl rfl rfl)
    fun _ => .logged permitted rfl rfl rfl rfl

theorem tame_sendDisable {motorName : String} (permitted : allowed (.disable motorName)) :
    Tame (GateState.Later (V := V) allowed) fun _ => sendDisable world motorName := by
  refine tame_sendFrame (fun _ => .logged permitted rfl rfl rfl rfl) fun state => ?_
  refine ⟨le_rfl, rfl, ⟨[.disable motorName], rfl, by simpa using permitted⟩,
    fun counted name => ?_⟩
  dsimp only
  rw [disableCalls_concat]
  by_cases same : motorName = name
  · subst same
    simpa using counted motorName
  · rw [Function.update_of_ne (Ne.symm same), if_neg same]
    exact counted name

theorem tame_receiveFrame (polling : AllowsPolling allowed) :
    Tame (GateState.Later (V := V) allowed) fun _ => receiveFrame world := by
  refine .bind .get fun state => .bind (.modify fun _ => .of_eq rfl rfl rfl rfl) fun _ => ?_
  cases world.receive state.receiveCalls with
  | frame frame =>
      exact .bind (.modify fun _ => .logged (polling.received frame) rfl rfl rfl rfl) fun _ =>
        .pure _
  | blocking => exact .pure none
  | raised text => exact .throw text

theorem tame_sendEcho (polling : AllowsPolling allowed) (endpoint : DamiaoFeedbackEndpoint)
    (positionRad : ℚ) :
    Tame (GateState.Later (V := V) allowed) fun _ => sendEcho world endpoint positionRad :=
  .bind (.ofExcept _) fun command => tame_sendGateCommand polling command

theorem tame_acceptFrame (endpoint : DamiaoFeedbackEndpoint) (frame : Option ReceivedCanFrame) :
    Tame (GateState.Later (V := V) allowed) fun _ => acceptFrame endpoint frame := by
  cases frame with
  | none => exact .pure none
  | some frame =>
      by_cases mine : frame.interface = endpoint.interface ∧ (frame.canId : ℤ) = endpoint.masterId
      · simp only [acceptFrame, if_pos mine]
        exact .bind (.ofExcept _) fun feedback => .pure _
      · simp only [acceptFrame, if_neg mine]
        exact .pure none

theorem tame_receiveBefore (polling : AllowsPolling allowed) (endpoint : DamiaoFeedbackEndpoint)
    (deadline now : ℚ) :
    Tame (GateState.Later (V := V) allowed) fun _ => receiveBefore world endpoint deadline now :=
  .bind (.throwIf _) fun _ =>
    .bind (tame_receiveFrame polling) fun frame => tame_acceptFrame endpoint frame

theorem monotonic_bind {α : Type} (next : ℚ → Gate V α) (state : GateState V) :
    (monotonic world >>= next) state = next (world.clock state.clockCalls)
      { state with clockCalls := state.clockCalls + 1 } := rfl

/-- A loop that asks for another round only before a deadline ends when the clock has passed it. -/
theorem tame_until {α : Type} (advances : world.Advances) (deadline : ℚ)
    {body : ℕ → Gate V (Option α)} (round : Tame (GateState.Later allowed) body)
    (early : ∀ fuel state final, body fuel state = (.done none, final) →
      world.clock state.clockCalls < deadline ∧ state.clockCalls < final.clockCalls) :
    Tame (GateState.Later allowed) fun fuel => Program.repeatUntil fuel (body fuel) := by
  obtain ⟨call, reached⟩ := advances.unbounded deadline
  apply round.repeatUntil fun state => call - state.clockCalls
  intro fuel state final again
  obtain ⟨before, more⟩ := early fuel state final again
  have below : state.clockCalls < call := by
    by_contra beyond
    exact absurd (reached.trans (advances.monotone (not_lt.mp beyond))) (not_le.mpr before)
  omega

/-- A round that begins with a reading of the clock has the clock advance. -/
theorem clockCalls_lt {α : Type} {next : ℕ → ℚ → Gate V α}
    (rest : ∀ now, Tame (GateState.Later allowed) fun fuel => next fuel now) (fuel : ℕ)
    {state final : GateState V} {value : α}
    (returned : (monotonic world >>= next fuel) state = (.done value, final)) :
    state.clockCalls < final.clockCalls := by
  have later := (rest (world.clock state.clockCalls)).respects fuel
    { state with clockCalls := state.clockCalls + 1 }
  rw [monotonic_bind] at returned
  rw [returned] at later
  exact later.clock

theorem tame_receiveEndpoint (advances : world.Advances) (polling : AllowsPolling allowed)
    (endpoint : DamiaoFeedbackEndpoint) (timeoutS : ℚ) :
    Tame (GateState.Later (V := V) allowed) fun fuel =>
      receiveEndpoint world fuel endpoint timeoutS := by
  refine .bind tame_monotonic fun now => ?_
  have rest (now' : ℚ) := @tame_receiveBefore V world allowed polling endpoint (now + timeoutS) now'
  apply tame_until advances (now + timeoutS) (.bind tame_monotonic rest)
  intro fuel state final again
  refine ⟨?_, clockCalls_lt rest fuel again⟩
  rw [monotonic_bind] at again
  obtain ⟨_, _, checked, _⟩ := Program.bind_eq_done again
  exact not_le.mp (Program.throwIf_eq_done checked).2

/-! ## The cleanup -/

section Cleanup

variable (advances : world.Advances) (polling : AllowsPolling allowed)
  (disabling : ∀ motorName, allowed (.disable motorName))

include disabling in
theorem tame_disablePasses (selected : List DamiaoFeedbackEndpoint) :
    Tame (GateState.Later (V := V) allowed) fun _ => disablePasses world selected :=
  .forEach fun _ => .forEach fun endpoint =>
    .tryCatch (tame_sendDisable (disabling _)) fun text => tame_addGateError _

variable (timeoutS : ℚ) (pollPosition : V → String → ℚ) (endpoint : DamiaoFeedbackEndpoint)

include advances polling in
theorem tame_hearStatus :
    Tame (GateState.Later allowed) fun fuel =>
      hearStatus world fuel timeoutS pollPosition endpoint := by
  refine .bind .get fun state => .bind (tame_sendEcho polling endpoint _) fun _ => ?_
  refine .bind (tame_receiveEndpoint advances polling endpoint timeoutS) fun feedback => ?_
  exact .modify fun _ => .of_eq rfl rfl rfl rfl

include advances polling disabling

theorem tame_verificationPoll :
    Tame (GateState.Later allowed) fun fuel =>
      verificationPoll world fuel timeoutS pollPosition endpoint :=
  .bind (tame_sendDisable (disabling _)) fun _ =>
    tame_hearStatus advances polling timeoutS pollPosition endpoint

theorem tame_verifyBefore (deadline now : ℚ) :
    Tame (GateState.Later allowed) fun fuel =>
      verifyBefore world fuel timeoutS pollPosition endpoint deadline now := by
  by_cases late : deadline ≤ now
  · simp only [verifyBefore, if_pos late]
    exact .pure (some ())
  · simp only [verifyBefore, if_neg late]
    refine .bind (.tryCatch ?_ fun text => tame_noteLastError text) fun _ => .pure none
    exact tame_verificationPoll advances polling disabling timeoutS pollPosition endpoint

theorem tame_verificationRound (deadline : ℚ) :
    Tame (GateState.Later allowed) fun fuel =>
      verificationRound world fuel timeoutS pollPosition endpoint deadline := by
  refine .bind .get fun state => ?_
  by_cases verified : state.finalStatus endpoint.motorName = some "disabled"
  · simp only [if_pos verified]
    exact .pure (some ())
  · simp only [if_neg verified]
    exact .bind tame_monotonic fun now =>
      tame_verifyBefore advances polling disabling timeoutS pollPosition endpoint deadline now

theorem tame_verifyMotor :
    Tame (GateState.Later allowed) fun fuel =>
      verifyMotor world fuel timeoutS pollPosition endpoint := by
  refine .bind tame_monotonic fun now => .bind (.modify fun _ => .of_eq rfl rfl rfl rfl) fun _ => ?_
  refine .bind ?_ fun _ => .bind .get fun state => .runIf (tame_addGateError _)
  have rest (now' : ℚ) := tame_verifyBefore advances polling disabling timeoutS pollPosition
    endpoint (now + 1 / 2) now'
  apply tame_until advances (now + 1 / 2)
    (tame_verificationRound advances polling disabling timeoutS pollPosition endpoint _)
  intro fuel state final again
  rw [verificationRound, Program.bind_apply_done (Program.get_apply state)] at again
  split at again
  · cases again
  · refine ⟨?_, clockCalls_lt rest fuel again⟩
    rw [monotonic_bind, verifyBefore] at again
    split at again
    · cases again
    · exact not_le.mp ‹_›

theorem tame_groupCleanup (selected : List DamiaoFeedbackEndpoint) :
    Tame (GateState.Later allowed) fun fuel =>
      groupCleanup world fuel timeoutS pollPosition selected :=
  .bind (tame_disablePasses disabling selected) fun _ =>
    .forEach fun endpoint =>
      tame_verifyMotor advances polling disabling timeoutS pollPosition endpoint

end Cleanup

end Tameness

/-! ## The end of a gate -/

section Ending

variable {V : Type} {world : GateWorld}

open Program

theorem raises_monotonic {allowed : String → Prop} :
    Raises allowed (monotonic world : Gate V ℚ) :=
  .bind .get fun _ => .bind (.modify _) fun _ => .pure _

/-- No exception leaves the cleanup. -/
theorem raises_groupCleanup (fuel : ℕ) (timeoutS : ℚ) (pollPosition : V → String → ℚ)
    (selected : List DamiaoFeedbackEndpoint) :
    Raises (fun _ => False) (groupCleanup world fuel timeoutS pollPosition selected) := by
  refine .bind (.forEach fun _ _ => .forEach fun endpoint _ => .tryCatch fun text => .modify _)
    fun _ => .forEach fun endpoint _ => ?_
  refine .bind raises_monotonic fun now => .bind (.modify _) fun _ => .bind ?_ fun _ =>
    .bind .get fun state => .runIf (.modify _)
  refine .repeatUntil (.bind .get fun state => ?_)
  split
  · exact .pure _
  · refine .bind raises_monotonic fun now' => ?_
    unfold verifyBefore
    split
    · exact .pure _
    · exact .bind (.tryCatch fun text => .modify _) fun _ => .pure none

theorem sendFrame_log {event : GateEvent} {count : GateState V → GateState V}
    (keeps : ∀ state, (count state).log = state.log) (state : GateState V) :
    (sendFrame world event count state).2.log = state.log ++ [event] := by
  simp only [sendFrame, bind_apply, get_apply, modify_apply]
  cases world.send state.sendCalls with
  | sent => exact keeps _
  | raised text counted =>
      cases counted with
      | false => rfl
      | true => exact keeps _

/-- An attempt counts, whether or not the call raises. -/
theorem sendDisable_calls (motorName other : String) (state : GateState V) :
    disableCalls motorName (sendDisable world other state).2.log =
      disableCalls motorName state.log + if other = motorName then 1 else 0 := by
  have grown : (sendDisable world other state).2.log = state.log ++ [.disable other] := by
    unfold sendDisable
    exact sendFrame_log (fun _ => by rfl) state
  rw [grown, disableCalls_concat]

/-- A pass has an attempt for every selected motor. -/
theorem disablePasses_triple {selected : List DamiaoFeedbackEndpoint} {motorName : String}
    (member : motorName ∈ selected.map DamiaoFeedbackEndpoint.motorName) :
    Triple (fun _ : GateState V => True) (disablePasses world selected)
      (fun _ state => 3 ≤ disableCalls motorName state.log) fun _ => True := by
  have attempt (endpoint : DamiaoFeedbackEndpoint) (bound : ℕ) :
      Triple (fun state : GateState V => bound ≤ disableCalls motorName state.log)
        (tryCatch (sendDisable world endpoint.motorName) fun text =>
          addGateError (endpoint.motorName ++ " disable failed: " ++ text))
        (fun _ state => bound + (if endpoint.motorName = motorName then 1 else 0) ≤
          disableCalls motorName state.log) fun _ => True := by
    have sent : Triple (fun state : GateState V => bound ≤ disableCalls motorName state.log)
        (sendDisable world endpoint.motorName)
        (fun _ state => bound + (if endpoint.motorName = motorName then 1 else 0) ≤
          disableCalls motorName state.log)
        fun state => bound + (if endpoint.motorName = motorName then 1 else 0) ≤
          disableCalls motorName state.log := by
      rw [Triple.last_iff]
      intro state holds
      rw [sendDisable_calls]
      exact Nat.add_le_add_right holds _
    exact sent.tryCatch (fun text => .modify _ fun _ => id) fun _ _ => trivial
  have pass (bound : ℕ) :
      Triple (fun state : GateState V => bound ≤ disableCalls motorName state.log)
        (Program.forEach selected fun endpoint =>
          tryCatch (sendDisable world endpoint.motorName) fun text =>
            addGateError (endpoint.motorName ++ " disable failed: " ++ text))
        (fun _ state => bound + 1 ≤ disableCalls motorName state.log) fun _ => True := by
    let attempted := fun (handled : List DamiaoFeedbackEndpoint) (state : GateState V) =>
      bound + (handled.map DamiaoFeedbackEndpoint.motorName).count motorName ≤
        disableCalls motorName state.log
    have counted : Triple (attempted [])
        (Program.forEach selected fun endpoint =>
          tryCatch (sendDisable world endpoint.motorName) fun text =>
            addGateError (endpoint.motorName ++ " disable failed: " ++ text))
        (fun _ => attempted selected) fun _ => True := by
      apply Triple.forEach
      intro handled endpoint rest _
      refine (attempt endpoint _).consequence (fun _ => id) (fun _ state holds => ?_) fun _ => id
      simpa [attempted, List.count_singleton, Nat.add_assoc] using holds
    refine counted.consequence (fun _ holds => by simpa [attempted] using holds)
      (fun _ state holds => ?_) fun _ => id
    have some := List.count_pos_iff.mpr member
    dsimp only [attempted] at holds
    omega
  exact (Triple.forEach_range fun index _ => pass index).consequence (fun _ _ => Nat.zero_le _)
    (fun _ _ => id) fun _ => id

theorem groupCleanup_calls (advances : world.Advances) (fuel : ℕ) (timeoutS : ℚ)
    (pollPosition : V → String → ℚ) {selected : List DamiaoFeedbackEndpoint} {motorName : String}
    (member : motorName ∈ selected.map DamiaoFeedbackEndpoint.motorName) :
    Triple (fun _ : GateState V => True) (groupCleanup world fuel timeoutS pollPosition selected)
      (fun _ state => 3 ≤ disableCalls motorName state.log) fun _ => True := by
  refine .bind (disablePasses_triple member) fun _ => .forEach_keeps fun endpoint => ?_
  have grows := (@tame_verifyMotor V world (fun _ => True) advances
    ⟨fun _ => trivial, fun _ => trivial⟩ (fun _ => trivial) timeoutS pollPosition
    endpoint).respects fuel
  refine grows.triple (fun first last later holds => ?_) fun _ _ _ _ => trivial
  obtain ⟨suffix, grown, _⟩ := later.log
  rw [grown, disableCalls_append]
  omega

/-- A gate whose cleanup raises nothing returns its report, and its run is one that shuts down. -/
theorem poweredGate_settles {R : Type} {body cleanup : ℕ → Gate V Unit} {motorNames : List String}
    {start : GateState V} {ready : GateState V → Prop} (report : GateState V → R)
    (fresh : start.log = [])
    (opening : Tame (GateState.Later fun event => ¬event.Disables) body)
    (closing : Tame (Extends GateState.log fun event => ¬event.Enables) cleanup)
    (quiet : ∀ fuel, Raises (fun _ => False) (cleanup fuel))
    (readied : ∀ fuel, ready (noteException (body fuel) start).2)
    (disables : ∀ fuel, ∀ name ∈ motorNames, Triple ready (cleanup fuel)
      (fun _ state => 3 ≤ disableCalls name state.log) fun _ => True) :
    ∃ final, Settles (fun fuel => poweredGate (body fuel) (cleanup fuel) report) start
        (.done (report final), final) ∧ ShutsDown motorNames final.log := by
  have noted : Tame (GateState.Later fun event => ¬event.Disables)
      fun fuel => noteException (body fuel) := opening.tryCatch fun text => tame_addGateError text
  obtain ⟨run, settled⟩ := noted.converges start
  obtain ⟨_, middle, fuel, rfl, opened⟩ :=
    settled.done_of_raises fun fuel => .tryCatch fun text => .modify _
  obtain ⟨run, settledLater⟩ := closing.converges middle
  obtain ⟨_, final, fuelLater, rfl, closed⟩ := settledLater.done_of_raises quiet
  refine ⟨final, settled.bind_done (settledLater.bind_done ?_), ?_⟩
  · exact Settles.of_finishes (.bind .get fun state => .pure (report state))
  · have first := noted.respects fuel start
    have second := closing.respects fuelLater middle
    have prepared := readied fuel
    rw [opened] at first prepared
    rw [closed] at second
    obtain ⟨before, grown, undisabled⟩ := first.log
    obtain ⟨after, grownLater, unenabled⟩ := second
    rw [fresh, List.nil_append] at grown
    refine ⟨before, after, by rw [grownLater, grown], undisabled, unenabled, fun name member => ?_⟩
    have enough := (disables fuelLater name member).of_eq_done prepared closed
    have none : disableCalls name before = 0 := by
      rw [disableCalls, List.countP_eq_zero]
      intro event inside
      cases event with
      | disable other => exact absurd trivial (undisabled _ inside)
      | _ => simp [GateEvent.disablesMotor]
    rw [grownLater, grown, disableCalls_append, none] at enough
    omega

/-- The checks of the arguments passed. -/
theorem settles_checked {R : Type} {check : Except String Unit} {gate : ℕ → Gate V R}
    {start : GateState V} {run : Outcome String R × GateState V} (valid : check = .ok ())
    (settles : Settles gate start run) :
    Settles (fun fuel => Program.ofExcept check >>= fun _ => gate fuel) start run := by
  have checked : Settles (fun _ => Program.ofExcept check) start (.done (), start) := by
    rw [valid]
    exact Settles.of_finishes (.pure ())
  exact checked.bind_done settles

/-- A gate for several motors whose body disables nothing. -/
theorem groupGate_settles {R : Type} (advances : world.Advances) {check : Except String Unit}
    (valid : check = .ok ()) {body : ℕ → Gate V Unit}
    (opening : Tame (GateState.Later fun event => ¬event.Disables) body) (timeoutS : ℚ)
    (pollPosition : V → String → ℚ) (selected : List DamiaoFeedbackEndpoint)
    (report : GateState V → R) (locals : V) :
    ∃ final, Settles (fun fuel => Program.ofExcept check >>= fun _ =>
        poweredGate (body fuel) (groupCleanup world fuel timeoutS pollPosition selected) report)
        (.start locals) (.done (report final), final) ∧
      ShutsDown (selected.map DamiaoFeedbackEndpoint.motorName) final.log := by
  have settled := @poweredGate_settles V R body
    (fun fuel => groupCleanup world fuel timeoutS pollPosition selected)
    (selected.map DamiaoFeedbackEndpoint.motorName) (.start locals) (fun _ => True) report rfl
    opening
    ((tame_groupCleanup advances polling_unenabling (fun _ => not_false) timeoutS pollPosition
      selected).mono fun _ _ => GateState.Later.log)
    (fun fuel => raises_groupCleanup fuel timeoutS pollPosition selected) (fun _ => trivial)
    fun fuel name member => groupCleanup_calls advances fuel timeoutS pollPosition member
  obtain ⟨final, settles, shuts⟩ := settled
  exact ⟨final, settles_checked valid settles, shuts⟩

end Ending

end SpriteRuntime
