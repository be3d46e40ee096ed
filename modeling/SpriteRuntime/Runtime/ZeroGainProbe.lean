import SpriteRuntime.Foundation.Pacing
import SpriteRuntime.Foundation.ProgramSteps
import SpriteRuntime.Foundation.Appends
import SpriteRuntime.Runtime.DamiaoFeedback

/-!
# The zero-gain group probe

The probe polls the motors of one bus in turn, one frame per slot, and listens for their
feedback.  A stall is not made up for: a deadline that has passed after a poll is put off to
one slot from now.  What the full-body probe shares with this one stands first.
-/

namespace SpriteRuntime

open Foundation

/-! ## Polling a bus -/

/-- How a probe stops: a `break` of its loop, or an exception. -/
inductive ProbeExit where
  | broken
  | osError (text : String)
  | raised (text : String)
  | refused (error : DamiaoError)
  deriving DecidableEq

/-- A frame that was handed to the socket, and the reading of the clock that released it. -/
structure Poll where
  released : ℚ
  motorName : String
  frame : CanFdFrame
  deriving DecidableEq

/-- What `socket.send` does with a frame. -/
inductive SocketSend where
  | wrote (count : ℕ)
  | osError (text : String)

/-- One bus: the poller and the place of the probe in its round of the motors. -/
structure PollBus where
  nextSend : ℚ
  nextMotorIndex : ℕ := 0
  hardwareTxAttempts : ℕ := 0
  polls : List Poll := []
  deriving DecidableEq

/-- A deadline that has passed is put off; a backlog is never replayed. -/
def PollBus.postpone (slot now : ℚ) (bus : PollBus) : PollBus :=
  if bus.nextSend ≤ now then { bus with nextSend := now + slot } else bus

/-- `SocketCanZeroGainPoller.send_zero_gain_poll`.  A frame that the socket does not take is
entered as well. -/
def sendZeroGainPoll (released : ℚ) (command : EncodedDamiaoMitCommand) (socket : SocketSend) :
    Program PollBus ProbeExit Unit := do
  Program.throwIf (command.canId < 0 ∨ 0x7FF < command.canId)
    (.raised "zero-gain poll requires an 11-bit standard CAN ID")
  Program.ofExcept ((validateZeroGainMitPayload (List.ofFn command.data)).mapError .raised)
  let frame : CanFdFrame := ⟨command.canId, 8, 0x01, framePayload command.data⟩
  Program.modify fun bus =>
    { bus with polls := bus.polls ++ [⟨released, command.motorName, frame⟩] }
  match socket with
  | .osError text => Program.throw (.osError text)
  | .wrote count => do
      Program.modify fun bus => { bus with hardwareTxAttempts := bus.hardwareTxAttempts + 1 }
      Program.throwIf (count ≠ 72) (.raised s!"short CAN-FD write: {count}/72 bytes")

/-- An entry of `errors`: a text, or one with the timeout between two pieces of it. -/
inductive ProbeError where
  | text (text : String)
  | within (before : String) (timeout : ℚ) (after : String)

/-- What the probes have heard of the selected motors, under their names. -/
structure Listening where
  targets : String → ℚ
  lastFeedback : String → ℚ
  feedbackValues : String → List DamiaoFeedback
  discardedTimestampFrames : ℕ
  errors : List ProbeError

def Listening.begin (start : ℚ) : Listening where
  targets _ := 0
  lastFeedback _ := start
  feedbackValues _ := []
  discardedTimestampFrames := 0
  errors := []

def addError (error : ProbeError) : Program Listening ProbeExit Unit :=
  Program.modify fun listening => { listening with errors := listening.errors ++ [error] }

/-- A bus and what is heard. -/
abbrev Polling : Type := PollBus × Listening

def onBus {α : Type} (program : Program PollBus ProbeExit α) : Program Polling ProbeExit α :=
  program.zoom Prod.fst fun bus polling => (bus, polling.2)

def onListening {α : Type} (program : Program Listening ProbeExit α) :
    Program Polling ProbeExit α :=
  program.zoom Prod.snd fun listening polling => (polling.1, listening)

/-- `except OSError`: the probe notes the error and leaves its loop. -/
def onOsError (report : String → String) : ProbeExit → Program Polling ProbeExit Unit
  | .osError text => do
      onListening (addError (.text (report text)))
      Program.throw .broken
  | other => Program.throw other

/-- One poll of the motor whose turn it is, and the next deadline. -/
def pollNext (motors : List DamiaoFeedbackEndpoint)
    (transmitFailed : DamiaoFeedbackEndpoint → String → String) (slot now : ℚ)
    (socket : SocketSend) : Program Polling ProbeExit Unit := do
  let (bus, listening) ← Program.get
  match motors[bus.nextMotorIndex]? with
  | none => Program.throw (.raised "tuple index out of range")
  | some endpoint => do
      let command ← Program.ofExcept
        ((encodeZeroGainPositionEcho endpoint (listening.targets endpoint.motorName)).mapError
          .refused)
      Program.tryCatch (onBus (sendZeroGainPoll now command socket))
        (onOsError (transmitFailed endpoint))
      onBus (Program.modify fun bus =>
        { bus with
          nextMotorIndex := (bus.nextMotorIndex + 1) % motors.length
          nextSend := bus.nextSend + slot })

def motorNames (motors : List DamiaoFeedbackEndpoint) : List String :=
  motors.map DamiaoFeedbackEndpoint.motorName

/-! ## What a poll does to a bus -/

/-- The polls of a bus keep to their slots and go round the motors. -/
structure PollBus.Fair (start slot : ℚ) (names : List String) (bus : PollBus) : Prop where
  spaced : Spaced start slot (bus.polls.map Poll.released)
  cycles : Cycles names (bus.polls.map Poll.motorName)

/-- The deadline and the place in the round are those of the next poll. -/
structure PollBus.InTurn (start slot : ℚ) (names : List String) (bus : PollBus) : Prop where
  paced : Paced start slot bus.nextSend (bus.polls.map Poll.released)
  cycles : Cycles names (bus.polls.map Poll.motorName)
  turn : bus.nextMotorIndex = bus.polls.length % names.length

namespace PollBus

variable {start slot now : ℚ} {names : List String} {bus known : PollBus}

theorem InTurn.fair (inTurn : bus.InTurn start slot names) : bus.Fair start slot names :=
  ⟨inTurn.paced.spaced, inTurn.cycles⟩

theorem InTurn.first (start slot : ℚ) (names : List String) :
    InTurn start slot names { nextSend := start } :=
  ⟨Paced.nil, Cycles.nil, by simp⟩

/-- One more poll, due now, of the motor whose turn it is. -/
structure Polled (now : ℚ) (motorName : String) (bus known : PollBus) : Prop where
  polls : ∃ frame, bus.polls = known.polls ++ [⟨now, motorName, frame⟩]
  nextSend : bus.nextSend = known.nextSend
  nextMotorIndex : bus.nextMotorIndex = known.nextMotorIndex

section Polled

variable {motorName : String} (inTurn : known.InTurn start slot names)
  (due : known.nextSend ≤ now) (place : names[known.nextMotorIndex]? = some motorName)
  (polled : bus.Polled now motorName known)

include inTurn place polled

theorem Polled.cycles : Cycles names (bus.polls.map Poll.motorName) := by
  obtain ⟨frame, polls⟩ := polled.polls
  rw [polls, List.map_append]
  apply inTurn.cycles.snoc
  rw [List.length_map, ← inTurn.turn]
  exact place

include due

theorem Polled.fair : bus.Fair start slot names := by
  constructor
  · obtain ⟨frame, polls⟩ := polled.polls
    rw [polls, List.map_append]
    exact (inTurn.paced.send due).spaced
  · exact polled.cycles inTurn place

/-- The place and the deadline go on to the next motor. -/
theorem Polled.advance :
    InTurn start slot names
      { bus with
        nextMotorIndex := (bus.nextMotorIndex + 1) % names.length
        nextSend := bus.nextSend + slot } := by
  obtain ⟨frame, polls⟩ := polled.polls
  have served := polled.cycles inTurn place
  constructor
  · dsimp only
    rw [polls, List.map_append, polled.nextSend]
    exact inTurn.paced.send due
  · exact served
  · dsimp only
    rw [polled.nextMotorIndex, inTurn.turn, polls, List.length_append, List.length_singleton,
      Nat.mod_add_mod]

end Polled

/-- How many frames have been released by a reading of the clock up to the given time. -/
def sentUntil (bus : PollBus) (time : ℚ) : ℕ := bus.polls.countP fun poll => poll.released ≤ time

/-- How many of the first polls went to a motor. -/
def sentTo (bus : PollBus) (count : ℕ) (motorName : String) : ℕ :=
  (bus.polls.take count).countP fun poll => poll.motorName = motorName

/-- The budget of a bus: no more than one frame for every slot that has begun, and at any time
no motor is more than one frame ahead of another. -/
structure WithinBudget (start slot : ℚ) (names : List String) (bus : PollBus) : Prop where
  rate : ∀ time, start ≤ time → (bus.sentUntil time : ℤ) ≤ ⌊(time - start) / slot⌋ + 1
  balance : ∀ count, ∀ name ∈ names, ∀ other ∈ names,
    bus.sentTo count name ≤ bus.sentTo count other + 1

theorem Fair.withinBudget (fair : bus.Fair start slot names) (positive : 0 < slot)
    (distinct : names.Nodup) : bus.WithinBudget start slot names := by
  constructor
  · intro time begun
    have bound := fair.spaced.countP_le positive begun
    rw [List.countP_map] at bound
    exact bound
  · intro count name client other another
    have cycles := fair.cycles.of_prefix ((List.take_prefix count bus.polls).map Poll.motorName)
    have bound := cycles.count_le distinct client another
    rw [List.count, List.count, List.countP_map, List.countP_map] at bound
    exact bound

@[simp] theorem polls_postpone (slot now : ℚ) (bus : PollBus) :
    (bus.postpone slot now).polls = bus.polls := by
  unfold PollBus.postpone
  split <;> rfl

theorem InTurn.postpone (inTurn : bus.InTurn start slot names) (positive : 0 ≤ slot) (now : ℚ) :
    (bus.postpone slot now).InTurn start slot names := by
  unfold PollBus.postpone
  split
  · rename_i passed
    have later : bus.nextSend ≤ now + slot := by linarith
    exact ⟨inTurn.paced.postpone later, inTurn.cycles, inTurn.turn⟩
  · exact inTurn

end PollBus

/-- A frame goes to the socket at most once. -/
theorem sendZeroGainPoll_polled (now : ℚ) (command : EncodedDamiaoMitCommand)
    (socket : SocketSend) (known : PollBus) :
    Program.Triple (fun bus => bus = known) (sendZeroGainPoll now command socket)
      (fun _ bus => bus.Polled now command.motorName known)
      (fun bus => bus = known ∨ bus.Polled now command.motorName known) := by
  let entered : PollBus → Prop := fun bus => bus.Polled now command.motorName known
  unfold sendZeroGainPoll
  apply Program.Triple.throwIf_bind
  · exact fun _ _ same => .inl same
  intro _
  have checked : Program.Triple (fun bus => bus = known)
      (Program.ofExcept
        ((validateZeroGainMitPayload (List.ofFn command.data)).mapError ProbeExit.raised))
      (fun _ bus => bus = known) (fun bus => bus = known ∨ entered bus) :=
    Program.Triple.ofExcept (fun _ _ _ same => same) fun _ _ _ same => .inl same
  apply checked.bind
  intro _
  have writes : ∀ bus, bus = known → entered
      { bus with
        polls := bus.polls ++ [⟨now, command.motorName,
          ⟨command.canId, 8, 0x01, framePayload command.data⟩⟩] } := by
    rintro bus rfl
    exact ⟨⟨_, rfl⟩, rfl, rfl⟩
  apply Program.Triple.modify_bind writes
  cases socket with
  | osError text => exact Program.Triple.throw _ fun _ sent => .inr sent
  | wrote count =>
      have counts : ∀ bus, entered bus →
          entered { bus with hardwareTxAttempts := bus.hardwareTxAttempts + 1 } :=
        fun _ sent => ⟨sent.polls, sent.nextSend, sent.nextMotorIndex⟩
      apply Program.Triple.modify_bind counts
      exact Program.Triple.throwIf _ (fun _ _ sent => .inr sent) fun _ _ sent => sent

theorem encodeZeroGainPositionEcho_motorName {endpoint : DamiaoFeedbackEndpoint} {positionRad : ℚ}
    {command : EncodedDamiaoMitCommand}
    (encoded : encodeZeroGainPositionEcho endpoint positionRad = .ok command) :
    command.motorName = endpoint.motorName := by
  obtain ⟨envelope, _, packed⟩ := except_bind_eq_ok.mp encoded
  obtain ⟨_, _, rfl⟩ := encodeDamiaoMitCommand_eq_ok_iff.mp packed
  rfl

section PollNext

variable {names : List String} {motorName : String} {known : PollBus} {start slot now : ℚ}
  {command : EncodedDamiaoMitCommand}

/-- The send of a poll with the handler of its failure. -/
theorem sendCaught_polled (inTurn : known.InTurn start slot names) (due : known.nextSend ≤ now)
    (place : names[known.nextMotorIndex]? = some command.motorName) (socket : SocketSend)
    (report : String → String) :
    Program.Triple (fun polling => polling.1 = known)
      (Program.tryCatch (onBus (sendZeroGainPoll now command socket)) (onOsError report))
      (fun _ polling => polling.1.Polled now command.motorName known)
      (fun polling => polling.1.Fair start slot names) := by
  have sent : Program.Triple (fun polling : Polling => polling.1 = known)
      (onBus (sendZeroGainPoll now command socket))
      (fun _ polling => polling.1.Polled now command.motorName known)
      (fun polling => polling.1 = known ∨ polling.1.Polled now command.motorName known) :=
    (sendZeroGainPoll_polled now command socket known).zoom fun _ _ => rfl
  have caught : Program.Triple (fun polling : Polling => polling.1 = known)
      (onBus (sendZeroGainPoll now command socket))
      (fun _ polling => polling.1.Polled now command.motorName known)
      (fun polling => polling.1.Fair start slot names) := by
    apply sent.consequence (fun _ same => same) (fun _ _ polled => polled)
    rintro polling (same | polled)
    · rw [same]
      exact inTurn.fair
    · exact polled.fair inTurn due place
  apply Program.Triple.tryCatch caught
  · intro error state before
    cases error with
    | osError text => exact Program.Ends.thrown_iff.mpr before
    | broken => exact Program.Ends.thrown_iff.mpr before
    | raised text => exact Program.Ends.thrown_iff.mpr before
    | refused error => exact Program.Ends.thrown_iff.mpr before
  · exact fun _ same => same

/-- **The step.**  A poll that is due keeps the bus in turn, and a poll that ends the probe
leaves it fair. -/
theorem pollNext_inTurn (motors : List DamiaoFeedbackEndpoint)
    (transmitFailed : DamiaoFeedbackEndpoint → String → String) (socket : SocketSend) :
    Program.Triple
      (fun polling => polling.1.InTurn start slot (motorNames motors) ∧ polling.1.nextSend ≤ now)
      (pollNext motors transmitFailed slot now socket)
      (fun _ polling => polling.1.InTurn start slot (motorNames motors))
      (fun polling => polling.1.Fair start slot (motorNames motors)) := by
  apply Program.Triple.get_bind
  rintro ⟨known, listening⟩
  dsimp only
  cases motor : motors[known.nextMotorIndex]? with
  | none =>
      apply Program.Triple.throw
      rintro _ ⟨⟨inTurn, _⟩, rfl⟩
      exact inTurn.fair
  | some endpoint =>
      dsimp only
      have place : (motorNames motors)[known.nextMotorIndex]? = some endpoint.motorName := by
        rw [motorNames, List.getElem?_map, motor]
        rfl
      have encoded : Program.Triple
          (fun polling => (polling.1.InTurn start slot (motorNames motors) ∧
            polling.1.nextSend ≤ now) ∧ polling = (known, listening))
          (Program.ofExcept
            ((encodeZeroGainPositionEcho endpoint (listening.targets endpoint.motorName)).mapError
              ProbeExit.refused))
          (fun command polling => polling.1 = known ∧ known.InTurn start slot (motorNames motors) ∧
            known.nextSend ≤ now ∧ command.motorName = endpoint.motorName)
          (fun polling => polling.1.Fair start slot (motorNames motors)) := by
        apply Program.Triple.ofExcept
        · rintro command made _ ⟨⟨inTurn, due⟩, rfl⟩
          have named := encodeZeroGainPositionEcho_motorName (mapError_eq_ok.mp made)
          exact ⟨rfl, inTurn, due, named⟩
        · rintro _ _ _ ⟨⟨inTurn, _⟩, rfl⟩
          exact inTurn.fair
      apply encoded.bind
      intro command
      apply Program.Triple.assuming
      rintro ⟨inTurn, due, named⟩
      have turn : (motorNames motors)[known.nextMotorIndex]? = some command.motorName := by
        rw [place, named]
      apply (sendCaught_polled inTurn due turn socket (transmitFailed endpoint)).bind
      intro _ polling polled
      have advanced := polled.advance inTurn due turn
      rw [motorNames, List.length_map] at advanced
      exact Program.Ends.done_iff.mpr advanced

end PollNext

/-! ## Programs that keep a bus in turn -/

/-- The program keeps a bus in turn, and leaves it fair when it does not return. -/
def KeepsTurn {σ α : Type} (bus : σ → PollBus) (start slot : ℚ) (names : List String)
    (program : Program σ ProbeExit α) : Prop :=
  Program.Triple (fun state => (bus state).InTurn start slot names) program
    (fun _ state => (bus state).InTurn start slot names)
    (fun state => (bus state).Fair start slot names)

namespace KeepsTurn

variable {σ α β ι : Type} {bus : σ → PollBus} {start slot : ℚ} {names : List String}

theorem of_leaves {program : Program σ ProbeExit α} (leaves : program.Leaves bus) :
    KeepsTurn bus start slot names program := by
  apply Program.Respects.triple leaves
  · intro first last same inTurn
    have same : bus last = bus first := same
    rw [same]
    exact inTurn
  · intro first last same inTurn
    have same : bus last = bus first := same
    rw [same]
    exact inTurn.fair

theorem bind {program : Program σ ProbeExit α} {next : α → Program σ ProbeExit β}
    (first : KeepsTurn bus start slot names program)
    (second : ∀ value, KeepsTurn bus start slot names (next value)) :
    KeepsTurn bus start slot names (program >>= next) :=
  Program.Triple.bind first second

theorem modify {change : σ → σ}
    (keeps : ∀ state, (bus state).InTurn start slot names →
      (bus (change state)).InTurn start slot names) :
    KeepsTurn bus start slot names (Program.modify change) :=
  Program.Triple.modify change keeps

theorem forEach {items : List ι} {body : ι → Program σ ProbeExit Unit}
    (step : ∀ item, KeepsTurn bus start slot names (body item)) :
    KeepsTurn bus start slot names (Program.forEach items body) :=
  Program.Triple.forEach_keeps step

theorem anyEach {items : List ι} {body : ι → Program σ ProbeExit Bool}
    (step : ∀ item, KeepsTurn bus start slot names (body item)) :
    KeepsTurn bus start slot names (Program.anyEach items body) := by
  induction items with
  | nil => exact of_leaves (Program.Respects.pure false)
  | cons item rest induction =>
      apply bind (step item)
      intro answer
      cases answer with
      | true => exact of_leaves (Program.Respects.pure true)
      | false => exact induction

/-- However the program ends, the bus is fair. -/
theorem fair {program : Program σ ProbeExit α} (keeps : KeepsTurn bus start slot names program)
    {state : σ} (inTurn : (bus state).InTurn start slot names) :
    (bus (program state).2).Fair start slot names := by
  have ends := Program.Triple.consequence keeps (fun _ before => before)
    (fun _ _ inTurn => inTurn.fair) fun _ fair => fair
  exact Program.Triple.last_iff.mp ends state inTurn

end KeepsTurn

/-- What is heard does not touch the bus. -/
theorem onListening_leaves {α : Type} (program : Program Listening ProbeExit α) :
    (onListening program).Leaves Prod.fst :=
  Program.Leaves.zoom fun _ _ => rfl

/-- A send enters one frame at most. -/
theorem sendZeroGainPoll_appends (now : ℚ) (command : EncodedDamiaoMitCommand)
    (socket : SocketSend) :
    Program.Appends PollBus.polls 1 (sendZeroGainPoll now command socket) := by
  intro known
  have entered : ∀ bus : PollBus, bus.Polled now command.motorName known →
      Program.GoesOn PollBus.polls 1 known bus := by
    intro bus polled
    obtain ⟨frame, polls⟩ := polled.polls
    exact ⟨_, polls, Nat.le_refl 1⟩
  have goesOn : Program.Triple (fun bus => bus = known) (sendZeroGainPoll now command socket)
      (fun _ => Program.GoesOn PollBus.polls 1 known)
      (Program.GoesOn PollBus.polls 1 known) := by
    apply (sendZeroGainPoll_polled now command socket known).consequence (fun _ same => same)
    · exact fun _ => entered
    · rintro bus (rfl | polled)
      · exact .of_eq rfl
      · exact entered bus polled
  exact Program.Triple.last_iff.mp goesOn known rfl

theorem onOsError_leaves (report : String → String) (error : ProbeExit) :
    (onOsError report error).Leaves Prod.fst := by
  cases error with
  | osError text =>
      exact Program.Respects.bind (onListening_leaves _) fun _ => Program.Respects.throw _
  | broken => exact Program.Respects.throw _
  | raised text => exact Program.Respects.throw _
  | refused error => exact Program.Respects.throw _

theorem pollNext_appends (motors : List DamiaoFeedbackEndpoint)
    (transmitFailed : DamiaoFeedbackEndpoint → String → String) (slot now : ℚ)
    (socket : SocketSend) :
    Program.Appends (fun polling => polling.1.polls) 1
      (pollNext motors transmitFailed slot now socket) := by
  have free {α : Type} {program : Program Polling ProbeExit α} (leaves : program.Leaves Prod.fst) :
      program.Leaves fun polling => polling.1.polls := leaves.map PollBus.polls
  unfold pollNext
  apply Program.Appends.leaves_bind (free Program.Respects.get)
  rintro ⟨bus, listening⟩
  dsimp only
  cases motors[bus.nextMotorIndex]? with
  | none => exact Program.Appends.throw _
  | some endpoint =>
      apply Program.Appends.leaves_bind (free (Program.Respects.ofExcept _))
      intro command
      have sent : (onBus (sendZeroGainPoll now command socket)).Appends
          (fun polling => polling.1.polls) 1 :=
        (sendZeroGainPoll_appends now command socket).zoom fun _ _ => rfl
      exact (sent.tryCatch fun error => free (onOsError_leaves _ error)).bind_leaves
        fun _ _ => rfl

/-- A poll that is made only when it is due. -/
theorem pollNext_keepsTurn {start slot now : ℚ} (motors : List DamiaoFeedbackEndpoint)
    (transmitFailed : DamiaoFeedbackEndpoint → String → String) (socket : SocketSend)
    {known : Polling} (due : known.1.nextSend ≤ now) :
    Program.Triple
      (fun polling => polling.1.InTurn start slot (motorNames motors) ∧ polling = known)
      (pollNext motors transmitFailed slot now socket)
      (fun _ polling => polling.1.InTurn start slot (motorNames motors))
      (fun polling => polling.1.Fair start slot (motorNames motors)) := by
  apply (pollNext_inTurn motors transmitFailed socket).consequence
  · rintro _ ⟨inTurn, rfl⟩
    exact ⟨inTurn, due⟩
  · exact fun _ _ inTurn => inTurn
  · exact fun _ fair => fair

/-! ## Listening -/

/-- What a call of `receive` does. -/
inductive ReceiveOutcome where
  | frame (frame : ReceivedCanFrame)
  | timestampError
  | blocking (text : String)
  | raised (text : String)

/-- A call of `receive`, the clock after a feedback and what `on_feedback` does. -/
structure Reception where
  outcome : ReceiveOutcome
  seen : ℚ
  onFeedback : Except String Unit

/-- Where the two probes listen differently. -/
structure ListenRules where
  decoder : DamiaoFeedbackDecoder
  selectedNames : List String
  blocking : String → Program Listening ProbeExit Bool
  notFd : String → String
  acceptedStatus : List ℕ
  badStatus : String → String → String

/-- `{value:#x}`. -/
def hexText (value : ℕ) : String := "0x" ++ String.ofList (Nat.toDigits 16 value)

/-- One call of `receive` and what is made of the frame; the answer is whether the loop over
the frames is left. -/
def ListenRules.listen (rules : ListenRules) (reception : Reception) :
    Program Listening ProbeExit Bool :=
  match reception.outcome with
  | .timestampError => do
      Program.modify fun listening =>
        { listening with discardedTimestampFrames := listening.discardedTimestampFrames + 1 }
      return false
  | .blocking text => rules.blocking text
  | .raised text => Program.throw (.raised text)
  | .frame frame =>
      if frame.key ∈ rules.decoder.endpoints.map DamiaoFeedbackEndpoint.commandKey then
        return false
      else if frame.key ∉ rules.decoder.endpoints.map DamiaoFeedbackEndpoint.feedbackKey then do
        addError (.text s!"unexpected CAN endpoint: {frame.interface}:{hexText frame.canId}")
        return false
      else do
        let feedback ← Program.ofExcept ((rules.decoder.decode frame).mapError .raised)
        let name := feedback.motorName
        if name ∉ rules.selectedNames then
          return false
        else if ¬frame.isFd ∨ ¬frame.bitRateSwitch then do
          addError (.text (rules.notFd name))
          return true
        else do
          Program.modify fun listening =>
            { listening with
              feedbackValues := Function.update listening.feedbackValues name
                (listening.feedbackValues name ++ [feedback])
              targets := Function.update listening.targets name feedback.positionRad
              lastFeedback := Function.update listening.lastFeedback name reception.seen }
          if feedback.statusCode ∉ rules.acceptedStatus then do
            addError (.text (rules.badStatus name feedback.statusName))
            return true
          else do
            Program.ofExcept (reception.onFeedback.mapError .raised)
            return false

/-- `if errors: break`. -/
def breakOnErrors : Program Listening ProbeExit Unit := do
  let listening ← Program.get
  Program.throwIf (listening.errors ≠ []) .broken

/-- The selected motors that have been silent for longer than the timeout, sorted. -/
def Listening.stale (listening : Listening) (names : List String) (now timeout : ℚ) :
    List String :=
  (names.filter fun name => timeout < now - listening.lastFeedback name).mergeSort (· ≤ ·)

/-- `errors.append(..); break`. -/
def breakWith (error : ProbeError) : Program Listening ProbeExit Unit := do
  addError error
  Program.throw .broken

/-! ## The group -/

/-- The arguments of `collect_zero_gain_group_position_echo`. -/
structure GroupArguments where
  pollerInterface : String
  selected : List DamiaoFeedbackEndpoint
  configured : List DamiaoFeedbackEndpoint
  durationS : ℚ
  rateHzPerMotor : ℚ
  feedbackTimeoutS : ℚ := 1 / 5
  maximumDurationS : ℚ := 10
  minimumSampleCoverage : ℚ := 19 / 20

/-- Why an argument is rejected: a text, or the one that has the longest duration in it. -/
inductive ArgumentError where
  | text (text : String)
  | durationOutside (maximum : ℚ)
  deriving DecidableEq

/-- What the probe runs on once its arguments have been checked. -/
structure ZeroGainGroup where
  interface : String
  motors : List DamiaoFeedbackEndpoint
  decoder : DamiaoFeedbackDecoder
  durationS : ℚ
  rateHzPerMotor : ℚ
  feedbackTimeoutS : ℚ
  someMotors : 1 ≤ motors.length ∧ motors.length ≤ 8
  distinctNames : (motors.map DamiaoFeedbackEndpoint.motorName).Nodup
  distinctIds : (motors.map DamiaoFeedbackEndpoint.canId).Nodup
  sameInterface : ∀ motor ∈ motors, motor.interface = interface
  rateRange : 0 < rateHzPerMotor ∧ rateHzPerMotor ≤ 500

namespace ZeroGainGroup

/-- The checks of the arguments, in their order. -/
def make (arguments : GroupArguments) : Except ArgumentError ZeroGainGroup :=
  if someMotors : 1 ≤ arguments.selected.length ∧ arguments.selected.length ≤ 8 then
    if distinctNames : (arguments.selected.map DamiaoFeedbackEndpoint.motorName).Nodup then
      if distinctIds : (arguments.selected.map DamiaoFeedbackEndpoint.canId).Nodup then
        if sameInterface :
            ∀ motor ∈ arguments.selected, motor.interface = arguments.pollerInterface then do
          raiseIf (¬(0 < arguments.maximumDurationS ∧ arguments.maximumDurationS ≤ 120))
            (.text "maximum_duration_s must be finite and in (0, 120]")
          raiseIf (¬(0 < arguments.durationS ∧ arguments.durationS ≤ arguments.maximumDurationS))
            (.durationOutside arguments.maximumDurationS)
          if rateRange : 0 < arguments.rateHzPerMotor ∧ arguments.rateHzPerMotor ≤ 500 then do
            raiseIf (¬(0 < arguments.feedbackTimeoutS ∧ arguments.feedbackTimeoutS ≤ 1))
              (.text "feedback_timeout_s must be finite and in (0, 1]")
            raiseIf (¬(0 < arguments.minimumSampleCoverage ∧ arguments.minimumSampleCoverage ≤ 1))
              (.text "minimum_sample_coverage must be finite and in (0, 1]")
            let decoder ← (DamiaoFeedbackDecoder.make arguments.configured).mapError .text
            return {
              interface := arguments.pollerInterface
              motors := arguments.selected
              decoder
              durationS := arguments.durationS
              rateHzPerMotor := arguments.rateHzPerMotor
              feedbackTimeoutS := arguments.feedbackTimeoutS
              someMotors
              distinctNames
              distinctIds
              sameInterface
              rateRange }
          else .error (.text "rate_hz_per_motor must be finite and in (0, 500]")
        else .error (.text "all selected motors must use the poller interface")
      else .error (.text "zero-gain group contains duplicate command CAN IDs")
    else .error (.text "zero-gain group contains duplicate motor names")
  else .error (.text "zero-gain group must contain between one and eight motors")

variable (group : ZeroGainGroup)

def names : List String := motorNames group.motors

/-- `send_slot_s`. -/
def slot : ℚ := 1 / (group.rateHzPerMotor * group.motors.length)

def rules : ListenRules where
  decoder := group.decoder
  selectedNames := group.names
  blocking text := Program.throw (.osError text)
  notFd name := s!"{name} feedback was not CAN-FD with bit-rate switching"
  acceptedStatus := [0x0, 0x1]
  badStatus name status := s!"{name} motor fault: {status}"

/-- What the world does in one round of the loop: the clock, the callback, the socket, what
the selector finds and the clock after it. -/
structure Round where
  now : ℚ
  keepRunning : Except String Bool
  socket : SocketSend
  selected : Except String (List Reception)
  after : ℚ

/-- The block of `if now >= next_send`. -/
def pollWhenDue (now : ℚ) (socket : SocketSend) : Program Polling ProbeExit Unit := do
  let (bus, _) ← Program.get
  Program.runIf (bus.nextSend ≤ now) do
    pollNext group.motors
      (fun endpoint text => s!"SocketCAN transmit failed for {endpoint.motorName}: {text}")
      group.slot now socket
    onBus (Program.modify (PollBus.postpone group.slot now))

/-- One round of `while True`. -/
def step (start : ℚ) (round : Round) : Program Polling ProbeExit Unit := do
  let goesOn ← Program.ofExcept (round.keepRunning.mapError .raised)
  Program.throwIf (goesOn = false) .broken
  Program.throwIf (group.durationS ≤ round.now - start) .broken
  group.pollWhenDue round.now round.socket
  onListening do
    breakOnErrors
    let receptions ← Program.ofExcept (round.selected.mapError .raised)
    let _ ← Program.anyEach receptions group.rules.listen
    breakOnErrors
    let listening ← Program.get
    let stale := listening.stale group.names round.after group.feedbackTimeoutS
    Program.runIf (stale ≠ []) do
      breakWith (.within "no feedback within " group.feedbackTimeoutS
        (" s from: " ++ ", ".intercalate stale))

/-- The loop after the given rounds. -/
def run (start : ℚ) (rounds : List Round) : Outcome ProbeExit Unit × Polling :=
  Program.forEach rounds (group.step start) ({ nextSend := start }, Listening.begin start)

/-- The bus after the given rounds. -/
def bus (start : ℚ) (rounds : List Round) : PollBus := (group.run start rounds).2.1

theorem slot_pos : 0 < group.slot := by
  have motors : (0 : ℚ) < group.motors.length := Nat.cast_pos.mpr group.someMotors.1
  exact one_div_pos.mpr (mul_pos group.rateRange.1 motors)

theorem pollWhenDue_keepsTurn (start now : ℚ) (socket : SocketSend) :
    KeepsTurn Prod.fst start group.slot group.names (group.pollWhenDue now socket) := by
  apply Program.Triple.get_bind
  rintro ⟨bus, listening⟩
  apply Program.Triple.runIf
  · intro due
    apply (pollNext_keepsTurn group.motors _ socket due).bind
    intro _ polling inTurn
    exact Program.Ends.done_iff.mpr (inTurn.postpone group.slot_pos.le now)
  · rintro _ _ ⟨inTurn, _⟩
    exact inTurn

/-- **A round keeps the bus in turn.** -/
theorem step_keepsTurn (start : ℚ) (round : Round) :
    KeepsTurn Prod.fst start group.slot group.names (group.step start round) := by
  apply KeepsTurn.bind (KeepsTurn.of_leaves (Program.Respects.ofExcept _))
  intro goesOn
  apply KeepsTurn.bind (KeepsTurn.of_leaves (Program.Respects.throwIf _))
  intro _
  apply KeepsTurn.bind (KeepsTurn.of_leaves (Program.Respects.throwIf _))
  intro _
  apply KeepsTurn.bind (group.pollWhenDue_keepsTurn start round.now round.socket)
  intro _
  exact KeepsTurn.of_leaves (onListening_leaves _)

theorem bus_fair (start : ℚ) (rounds : List Round) :
    (group.bus start rounds).Fair start group.slot group.names :=
  (KeepsTurn.forEach (group.step_keepsTurn start)).fair (PollBus.InTurn.first _ _ _)

theorem bus_withinBudget (start : ℚ) (rounds : List Round) :
    (group.bus start rounds).WithinBudget start group.slot group.names :=
  (group.bus_fair start rounds).withinBudget group.slot_pos group.distinctNames

end ZeroGainGroup

end SpriteRuntime
