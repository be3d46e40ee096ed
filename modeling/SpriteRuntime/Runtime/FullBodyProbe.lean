import SpriteRuntime.Runtime.YahboomImu
import SpriteRuntime.Runtime.ZeroGainProbe

/-!
# The full-body probe

The probe polls four buses and reads the IMU in one loop.  A wake-up of the selector may come
late, so it sends the slots that have become due, up to sixteen for each bus, and puts the
deadline off when that does not catch up.
-/

namespace SpriteRuntime

open Foundation

/-- A loop over checks passes when every check does. -/
theorem forM_eq_ok {ε α : Type} {items : List α} {check : α → Except ε Unit} {result : Unit}
    (passed : items.forM check = .ok result) : ∀ item ∈ items, check item = .ok () := by
  induction items with
  | nil => simp
  | cons item rest induction =>
      obtain ⟨_, first, others⟩ := except_bind_eq_ok.mp passed
      rw [List.forall_mem_cons]
      exact ⟨first, induction others⟩

/-- The arguments of `collect_full_body_shadow`.  The pollers are a dictionary from interfaces
to pollers, which have an interface of their own. -/
structure FullBodyArguments where
  pollers : List (String × String)
  distinctPollers : (pollers.map Prod.fst).Nodup
  endpoints : List DamiaoFeedbackEndpoint
  durationS : ℚ
  rateHzPerMotor : ℚ
  feedbackTimeoutS : ℚ := 1 / 5
  minimumMotorSampleCoverage : ℚ := 9 / 10
  minimumImuRateHz : ℚ := 80

/-- `by_interface[interface]`. -/
def motorsOn (endpoints : List DamiaoFeedbackEndpoint) (interface : String) :
    List DamiaoFeedbackEndpoint :=
  endpoints.filter fun endpoint => endpoint.interface = interface

/-- What the probe runs on once its arguments have been checked. -/
structure FullBodyProbe where
  interfaces : List String
  endpoints : List DamiaoFeedbackEndpoint
  decoder : DamiaoFeedbackDecoder
  durationS : ℚ
  rateHzPerMotor : ℚ
  feedbackTimeoutS : ℚ
  allMotors : endpoints.length = 31
  distinctNames : (motorNames endpoints).Nodup
  distinctInterfaces : interfaces.Nodup
  fourInterfaces : interfaces.length = 4
  busSize : ∀ interface ∈ interfaces,
    1 ≤ (motorsOn endpoints interface).length ∧ (motorsOn endpoints interface).length ≤ 8
  covered : ∀ endpoint ∈ endpoints, endpoint.interface ∈ interfaces
  rateRange : 0 < rateHzPerMotor ∧ rateHzPerMotor ≤ 100

namespace FullBodyProbe

/-- The checks of one poller. -/
def checkPoller (endpoints : List DamiaoFeedbackEndpoint) (poller : String × String) :
    Except String Unit := do
  let count := (motorsOn endpoints poller.1).length
  raiseIf (¬(1 ≤ count ∧ count ≤ 8))
    s!"{poller.1} must contain between one and eight motors"
  raiseIf (poller.2 ≠ poller.1) s!"poller interface mismatch for {poller.1}"

theorem checkPoller_eq_ok {endpoints : List DamiaoFeedbackEndpoint} {poller : String × String}
    {result : Unit} (passed : checkPoller endpoints poller = .ok result) :
    1 ≤ (motorsOn endpoints poller.1).length ∧ (motorsOn endpoints poller.1).length ≤ 8 := by
  obtain ⟨_, sized, _⟩ := except_bind_eq_ok.mp passed
  exact not_not.mp (raiseIf_eq_ok.mp sized)

theorem busSize_of_checked {endpoints : List DamiaoFeedbackEndpoint}
    {pollers : List (String × String)} {result : Unit}
    (checked : pollers.forM (checkPoller endpoints) = .ok result) :
    ∀ interface ∈ pollers.map Prod.fst, 1 ≤ (motorsOn endpoints interface).length ∧
      (motorsOn endpoints interface).length ≤ 8 := by
  intro interface member
  obtain ⟨poller, listed, rfl⟩ := List.mem_map.mp member
  exact checkPoller_eq_ok (forM_eq_ok checked poller listed)

/-- The checks of the arguments, in their order. -/
def make (arguments : FullBodyArguments) : Except String FullBodyProbe :=
  let endpoints := arguments.endpoints
  if allMotors : endpoints.length = 31 then
    if distinctNames : (motorNames endpoints).Nodup then do
      raiseIf (¬(0 < arguments.durationS ∧ arguments.durationS ≤ 120))
        "duration_s must be finite and in (0, 120]"
      if rateRange : 0 < arguments.rateHzPerMotor ∧ arguments.rateHzPerMotor ≤ 100 then do
        raiseIf (¬(0 < arguments.feedbackTimeoutS ∧ arguments.feedbackTimeoutS ≤ 1))
          "feedback_timeout_s must be finite and in (0, 1]"
        raiseIf (¬(0 < arguments.minimumMotorSampleCoverage ∧
            arguments.minimumMotorSampleCoverage ≤ 1))
          "minimum_motor_sample_coverage must be in (0, 1]"
        raiseIf (arguments.minimumImuRateHz ≤ 0) "minimum_imu_rate_hz must be finite and positive"
        match checked : arguments.pollers.forM (checkPoller endpoints) with
        | .error text => .error text
        | .ok () => do
            let interfaces := arguments.pollers.map Prod.fst
            -- Every bus that passed has a motor, so this compares the two sets.
            if covered : (∀ endpoint ∈ endpoints, endpoint.interface ∈ interfaces) ∧
                interfaces.length = 4 then do
              let decoder ← DamiaoFeedbackDecoder.make endpoints
              return {
                interfaces
                endpoints
                decoder
                durationS := arguments.durationS
                rateHzPerMotor := arguments.rateHzPerMotor
                feedbackTimeoutS := arguments.feedbackTimeoutS
                allMotors
                distinctNames
                distinctInterfaces := arguments.distinctPollers
                fourInterfaces := covered.2
                busSize := busSize_of_checked checked
                covered := covered.1
                rateRange }
            else .error "full-body probe requires exactly the four configured interfaces"
      else .error "rate_hz_per_motor must be finite and in (0, 100]"
    else .error "full-body probe contains duplicate motor names"
  else .error s!"full-body probe requires 31 motors, got {endpoints.length}"

/-! ## The loop -/

/-- The variables of the loop. -/
structure State where
  buses : String → PollBus
  listening : Listening
  imuDecoder : YahboomStreamDecoder
  lastImu : ℚ
  imuRawCount : ℕ := 0
  imuQuaternionCount : ℕ := 0

variable (probe : FullBodyProbe)

def motors (interface : String) : List DamiaoFeedbackEndpoint := motorsOn probe.endpoints interface

def names (interface : String) : List String := motorNames (probe.motors interface)

/-- `slot_s[interface]`. -/
def slot (interface : String) : ℚ := 1 / (probe.rateHzPerMotor * (probe.motors interface).length)

def rules : ListenRules where
  decoder := probe.decoder
  selectedNames := motorNames probe.endpoints
  blocking _ := return true
  notFd name := s!"{name} feedback was not CAN-FD with BRS"
  acceptedStatus := [0x0]
  badStatus name status := s!"{name} is not disabled: {status}"

/-- One bus and what is heard. -/
def State.polling (interface : String) (state : State) : Polling :=
  (state.buses interface, state.listening)

def State.withPolling (interface : String) (polling : Polling) (state : State) : State :=
  { state with
    buses := Function.update state.buses interface polling.1
    listening := polling.2 }

@[simp] theorem State.polling_withPolling (interface : String) (polling : Polling) (state : State) :
    (state.withPolling interface polling).polling interface = polling := by
  simp [State.polling, State.withPolling]

theorem State.buses_withPolling {interface other : String} (different : interface ≠ other)
    (polling : Polling) (state : State) :
    (state.withPolling other polling).buses interface = state.buses interface :=
  Function.update_of_ne different _ _

/-- A program on one bus. -/
def onPolling {α : Type} (interface : String) (program : Program Polling ProbeExit α) :
    Program State ProbeExit α :=
  program.zoom (State.polling interface) fun polling => State.withPolling interface polling

def onHeard {α : Type} (program : Program Listening ProbeExit α) : Program State ProbeExit α :=
  program.zoom State.listening fun listening state => { state with listening }

/-- What a callback without a result does. -/
abbrev Callback : Type := Except String Unit

def call {σ : Type} (callback : Callback) : Program σ ProbeExit Unit :=
  Program.ofExcept (callback.mapError .raised)

/-- What happens at one send: the socket, and `on_loop` after it. -/
structure SendEvent where
  socket : SocketSend
  onLoop : Callback

/-- `while now >= next_send[interface] and sends < 16`; the answer is whether the loop ended
because nothing was due. -/
def sendDue (interface : String) (now : ℚ) (events : ℕ → SendEvent) :
    Program State ProbeExit Bool :=
  Program.anyEach (List.range 16) fun sends => do
    let state ← Program.get
    if now < (state.buses interface).nextSend then return true
    else do
      onPolling interface <| pollNext (probe.motors interface)
        (fun endpoint text =>
          s!"SocketCAN transmit failed on {interface} for {endpoint.motorName}: {text}")
        (probe.slot interface) now (events sends).socket
      Program.runIf ((sends + 1) % 4 = 0) (call (events sends).onLoop)
      return false

/-- The sends of one bus. -/
def serveBus (now : ℚ) (events : String → ℕ → SendEvent) (onLoop : String → Callback)
    (interface : String) : Program State ProbeExit Unit := do
  let caughtUp ← probe.sendDue interface now (events interface)
  Program.runIf (caughtUp = false) do
    onPolling interface (onBus (Program.modify (PollBus.postpone (probe.slot interface) now)))
  call (onLoop interface)

/-- A packet of the IMU: the clock after it and what `on_imu_packet` does. -/
structure PacketEvent where
  seen : ℚ
  onImuPacket : Callback

/-- `drain_index` of a CAN source: `on_loop` before the call of `receive`, and the call. -/
structure DrainEvent where
  onLoop : Callback
  reception : Reception

/-- A source that the selector finds ready. -/
inductive Ready where
  | imu (payload : Except String (List UInt8)) (events : ℕ → PacketEvent)
  | can (events : ℕ → DrainEvent) (onLoop : Callback)

/-- What is done about a packet of the IMU. -/
def takeImuPacket (events : ℕ → PacketEvent) (entry : YahboomPacket × ℕ) :
    Program State ProbeExit Unit := do
  Program.modify fun state =>
    match entry.1 with
    | .rawImu .. => { state with imuRawCount := state.imuRawCount + 1 }
    | .quaternion .. => { state with imuQuaternionCount := state.imuQuaternionCount + 1 }
    | _ => state
  Program.modify fun state => { state with lastImu := (events entry.2).seen }
  call (events entry.2).onImuPacket

/-- The body of the loop over the ready sources. -/
def hear : Ready → Program State ProbeExit Unit
  | .imu payload events => do
      let data ← Program.ofExcept (payload.mapError .raised)
      let state ← Program.get
      let (packets, decoder) := state.imuDecoder.feed data
      Program.modify fun state => { state with imuDecoder := decoder }
      Program.forEach (packets.map Prod.snd).zipIdx (takeImuPacket events)
  | .can events onLoop => do
      let _ ← Program.anyEach (List.range 64) fun index => do
        Program.runIf (index % 8 = 0) (call (events index).onLoop)
        onHeard (probe.rules.listen (events index).reception)
      call onLoop

/-- What the world does in one round of the loop. -/
structure Round where
  now : ℚ
  keepRunning : Except String Bool
  sends : String → ℕ → SendEvent
  afterBus : String → Callback
  beforeSelect : Callback
  ready : Except String (List Ready)
  after : ℚ

/-- The checks at the end of a round. -/
def checkSilence (after : ℚ) : Program State ProbeExit Unit := do
  let state ← Program.get
  let stale := state.listening.stale (motorNames probe.endpoints) after probe.feedbackTimeoutS
  onHeard do
    Program.runIf (stale ≠ []) do
      breakWith (.within "no feedback within " probe.feedbackTimeoutS
        ("s from: " ++ ", ".intercalate stale))
    Program.runIf (probe.feedbackTimeoutS < after - state.lastImu) do
      breakWith (.within "no IMU packet within " probe.feedbackTimeoutS "s")

/-- One round of `while True`. -/
def step (start : ℚ) (round : Round) : Program State ProbeExit Unit := do
  let goesOn ← Program.ofExcept (round.keepRunning.mapError .raised)
  Program.throwIf (goesOn = false) .broken
  Program.throwIf (probe.durationS ≤ round.now - start) .broken
  Program.forEach probe.interfaces (probe.serveBus round.now round.sends round.afterBus)
  call round.beforeSelect
  let ready ← Program.ofExcept (round.ready.mapError .raised)
  Program.forEach ready probe.hear
  onHeard breakOnErrors
  probe.checkSilence round.after

/-- The variables before the first round. -/
def begin (start : ℚ) : State where
  buses _ := { nextSend := start }
  listening := Listening.begin start
  imuDecoder := {}
  lastImu := start

/-- The loop after the given rounds. -/
def run (start : ℚ) (rounds : List Round) : Outcome ProbeExit Unit × State :=
  Program.forEach rounds (probe.step start) (begin start)

/-- A bus after the given rounds. -/
def bus (start : ℚ) (rounds : List Round) (interface : String) : PollBus :=
  (probe.run start rounds).2.buses interface

/-! ## One bus in the loop -/

section Bus

variable {interface other : String} {start now : ℚ}

theorem slot_nonneg (interface : String) : 0 ≤ probe.slot interface :=
  one_div_nonneg.mpr (mul_nonneg probe.rateRange.1.le (Nat.cast_nonneg _))

theorem slot_pos (served : interface ∈ probe.interfaces) : 0 < probe.slot interface := by
  have motors : (0 : ℚ) < (probe.motors interface).length :=
    Nat.cast_pos.mpr (probe.busSize interface served).1
  exact one_div_pos.mpr (mul_pos probe.rateRange.1 motors)

theorem names_nodup (interface : String) : (probe.names interface).Nodup :=
  probe.distinctNames.sublist (List.filter_sublist.map _)

/-- What is done on one bus leaves the others. -/
theorem onPolling_leaves {α : Type} (different : interface ≠ other)
    (program : Program Polling ProbeExit α) :
    (onPolling other program).Leaves fun state => state.buses interface :=
  Program.Leaves.zoom (State.buses_withPolling different)

theorem onHeard_leaves {α : Type} (program : Program Listening ProbeExit α) :
    (onHeard program).Leaves State.buses :=
  Program.Leaves.zoom fun _ _ => rfl

theorem call_leaves {σ τ : Type} {view : σ → τ} (callback : Callback) :
    (call callback).Leaves view :=
  Program.Respects.ofExcept _

/-- A program on a bus keeps it in turn when it does so beside what is heard. -/
theorem onPolling_keepsTurn {α : Type} {program : Program Polling ProbeExit α} {slot : ℚ}
    {names : List String} (keeps : KeepsTurn Prod.fst start slot names program) :
    KeepsTurn (fun state => state.buses interface) start slot names
      (onPolling interface program) :=
  Program.Triple.zoom keeps (State.polling_withPolling interface)

/-- What a program does on its own bus. -/
theorem onPolling_appends {α : Type} {program : Program Polling ProbeExit α} {limit : ℕ}
    (appends : program.Appends (fun polling => polling.1.polls) limit) :
    (onPolling interface program).Appends (fun state => (state.buses interface).polls) limit :=
  appends.zoom (State.polling_withPolling interface)

/-- A send of a bus that is due. -/
theorem onPolling_pollNext (socket : SocketSend)
    (transmitFailed : DamiaoFeedbackEndpoint → String → String) {known : State}
    (due : (known.buses interface).nextSend ≤ now) :
    Program.Triple
      (fun state => (state.buses interface).InTurn start (probe.slot interface)
        (probe.names interface) ∧ state = known)
      (onPolling interface
        (pollNext (probe.motors interface) transmitFailed (probe.slot interface) now socket))
      (fun _ state => (state.buses interface).InTurn start (probe.slot interface)
        (probe.names interface))
      (fun state => (state.buses interface).Fair start (probe.slot interface)
        (probe.names interface)) := by
  have due : (known.polling interface).1.nextSend ≤ now := due
  have polled : Program.Triple
      (fun polling : Polling => polling.1.InTurn start (probe.slot interface)
        (probe.names interface) ∧ polling = known.polling interface)
      (pollNext (probe.motors interface) transmitFailed (probe.slot interface) now socket)
      (fun _ polling => polling.1.InTurn start (probe.slot interface) (probe.names interface))
      (fun polling => polling.1.Fair start (probe.slot interface) (probe.names interface)) :=
    pollNext_keepsTurn (probe.motors interface) transmitFailed socket due
  apply (polled.zoom (State.polling_withPolling interface)).consequence
  · rintro _ ⟨inTurn, rfl⟩
    exact ⟨inTurn, rfl⟩
  · exact fun _ _ inTurn => inTurn
  · exact fun _ fair => fair

/-- The sends of a bus: nothing that is not due is sent. -/
theorem sendDue_keepsTurn (events : ℕ → SendEvent) :
    KeepsTurn (fun state => state.buses interface) start (probe.slot interface)
      (probe.names interface) (probe.sendDue interface now events) := by
  apply KeepsTurn.anyEach
  intro sends
  apply Program.Triple.get_bind
  intro known
  by_cases early : now < (known.buses interface).nextSend
  · rw [if_pos early]
    apply Program.Triple.pure
    rintro _ ⟨inTurn, _⟩
    exact inTurn
  · rw [if_neg early]
    apply (probe.onPolling_pollNext (events sends).socket _ (not_lt.mp early)).bind
    intro _
    apply KeepsTurn.bind (KeepsTurn.of_leaves (Program.Respects.runIf (call_leaves _)))
    intro _
    exact KeepsTurn.of_leaves (Program.Respects.pure false)

/-- What another bus sends leaves this one. -/
theorem sendDue_leaves (different : interface ≠ other) (events : ℕ → SendEvent) :
    (probe.sendDue other now events).Leaves fun state => state.buses interface := by
  apply Program.Respects.anyEach
  intro sends _
  refine Program.Respects.bind Program.Respects.get fun known => ?_
  by_cases early : now < (known.buses other).nextSend
  · rw [if_pos early]
    exact Program.Respects.pure true
  · rw [if_neg early]
    apply Program.Respects.bind (onPolling_leaves different _)
    intro _
    apply Program.Respects.bind (Program.Respects.runIf (call_leaves _))
    intro _
    exact Program.Respects.pure false

theorem serveBus_leaves (different : interface ≠ other) (events : String → ℕ → SendEvent)
    (onLoop : String → Callback) :
    (probe.serveBus now events onLoop other).Leaves fun state => state.buses interface := by
  refine Program.Respects.bind (probe.sendDue_leaves different (events other)) fun caughtUp => ?_
  have put : (Program.runIf (caughtUp = false) do
      onPolling other (onBus (Program.modify (PollBus.postpone (probe.slot other) now)))).Leaves
      fun state => state.buses interface :=
    Program.Respects.runIf (onPolling_leaves different _)
  exact Program.Respects.bind put fun _ => call_leaves _

/-- One wake-up sends sixteen frames at most. -/
theorem sendDue_appends (events : ℕ → SendEvent) :
    (probe.sendDue interface now events).Appends (fun state => (state.buses interface).polls)
      16 := by
  have free {α : Type} {program : Program State ProbeExit α}
      (leaves : program.Leaves fun state => state.buses interface) :
      program.Leaves fun state => (state.buses interface).polls := leaves.map PollBus.polls
  have each : (probe.sendDue interface now events).Appends
      (fun state => (state.buses interface).polls) ((List.range 16).length * 1) := by
    apply Program.Appends.anyEach
    intro sends _
    apply Program.Appends.leaves_bind (free Program.Respects.get)
    intro known
    by_cases early : now < (known.buses interface).nextSend
    · rw [if_pos early]
      exact Program.Appends.pure true
    · rw [if_neg early]
      apply (onPolling_appends (pollNext_appends _ _ _ _ _)).bind_leaves
      intro _
      refine Program.Respects.bind (free (Program.Respects.runIf (call_leaves _))) fun _ => ?_
      exact Program.Respects.pure false
  exact each.mono (by simp)

theorem serveBus_keepsTurn (events : String → ℕ → SendEvent) (onLoop : String → Callback) :
    KeepsTurn (fun state => state.buses interface) start (probe.slot interface)
      (probe.names interface) (probe.serveBus now events onLoop other) := by
  by_cases different : interface ≠ other
  · exact KeepsTurn.of_leaves (probe.serveBus_leaves different events onLoop)
  · rw [not_not] at different
    subst different
    apply KeepsTurn.bind (probe.sendDue_keepsTurn (events interface))
    intro caughtUp
    have put : KeepsTurn (fun state => state.buses interface) start (probe.slot interface)
        (probe.names interface) (onPolling interface
          (onBus (Program.modify (PollBus.postpone (probe.slot interface) now)))) := by
      apply onPolling_keepsTurn
      intro polling inTurn
      exact Program.Ends.done_iff.mpr (inTurn.postpone (probe.slot_nonneg interface) now)
    apply KeepsTurn.bind (Program.Triple.runIf (fun _ => put) fun _ _ inTurn => inTurn)
    intro _
    exact KeepsTurn.of_leaves (call_leaves _)

theorem serveBus_appends (events : String → ℕ → SendEvent) (onLoop : String → Callback) :
    (probe.serveBus now events onLoop other).Appends (fun state => (state.buses interface).polls)
      (if other = interface then 16 else 0) := by
  by_cases different : interface ≠ other
  · rw [if_neg different.symm]
    exact Program.Appends.of_leaves
      ((probe.serveBus_leaves different events onLoop).map PollBus.polls)
  · rw [not_not] at different
    subst different
    rw [if_pos rfl]
    have put : (onPolling interface
        (onBus (Program.modify (PollBus.postpone (probe.slot interface) now)))).Appends
        (fun state => (state.buses interface).polls) 0 := by
      apply onPolling_appends
      intro polling
      exact .of_eq (PollBus.polls_postpone _ _ _)
    have both : (probe.serveBus now events onLoop interface).Appends
        (fun state => (state.buses interface).polls) (16 + 0) :=
      Program.Appends.bind (probe.sendDue_appends (events interface)) fun _ =>
        put.runIf.bind_leaves fun _ => call_leaves _
    exact both

/-- All that a round does after the sends. -/
theorem hear_leaves (ready : Ready) : (probe.hear ready).Leaves State.buses := by
  cases ready with
  | imu payload events =>
      refine Program.Respects.bind (Program.Respects.ofExcept _) fun data => ?_
      refine Program.Respects.bind Program.Respects.get fun state => ?_
      refine Program.Respects.bind (Program.Respects.modify fun _ => rfl) fun _ => ?_
      apply Program.Respects.forEach
      intro entry _
      refine Program.Respects.bind (Program.Respects.modify fun state => ?_) fun _ => ?_
      · cases entry.1 <;> rfl
      · refine Program.Respects.bind (Program.Respects.modify fun _ => rfl) fun _ => ?_
        exact call_leaves _
  | can events onLoop =>
      have drained : (Program.anyEach (List.range 64) fun index => do
          Program.runIf (index % 8 = 0) (call (events index).onLoop)
          onHeard (probe.rules.listen (events index).reception)).Leaves State.buses := by
        apply Program.Respects.anyEach
        intro index _
        refine Program.Respects.bind (Program.Respects.runIf (call_leaves _)) fun _ => ?_
        exact onHeard_leaves _
      exact Program.Respects.bind drained fun _ => call_leaves _

theorem checkSilence_leaves (after : ℚ) : (probe.checkSilence after).Leaves State.buses :=
  Program.Respects.bind Program.Respects.get fun _ => onHeard_leaves _

/-- What follows the sends in a round leaves the buses. -/
theorem rest_leaves (round : Round) :
    (do
      call round.beforeSelect
      let ready ← Program.ofExcept (round.ready.mapError .raised)
      Program.forEach ready probe.hear
      onHeard breakOnErrors
      probe.checkSilence round.after).Leaves State.buses := by
  refine Program.Respects.bind (call_leaves _) fun _ => ?_
  refine Program.Respects.bind (Program.Respects.ofExcept _) fun ready => ?_
  refine Program.Respects.bind (Program.Respects.forEach fun source _ => ?_) fun _ => ?_
  · exact probe.hear_leaves source
  · exact Program.Respects.bind (onHeard_leaves _) fun _ => probe.checkSilence_leaves _

/-- **A round keeps every bus in turn.** -/
theorem step_keepsTurn (round : Round) :
    KeepsTurn (fun state => state.buses interface) start (probe.slot interface)
      (probe.names interface) (probe.step start round) := by
  apply KeepsTurn.bind (KeepsTurn.of_leaves (Program.Respects.ofExcept _))
  intro goesOn
  apply KeepsTurn.bind (KeepsTurn.of_leaves (Program.Respects.throwIf _))
  intro _
  apply KeepsTurn.bind (KeepsTurn.of_leaves (Program.Respects.throwIf _))
  intro _
  apply KeepsTurn.bind
  · exact KeepsTurn.forEach fun _ => probe.serveBus_keepsTurn round.sends round.afterBus
  · intro _
    exact KeepsTurn.of_leaves ((probe.rest_leaves round).map fun buses => buses interface)

/-- A round sends sixteen frames at most on each bus. -/
theorem step_appends (round : Round) :
    (probe.step start round).Appends (fun state => (state.buses interface).polls) 16 := by
  apply Program.Appends.leaves_bind (Program.Respects.ofExcept _)
  intro goesOn
  apply Program.Appends.leaves_bind (Program.Respects.throwIf _)
  intro _
  apply Program.Appends.leaves_bind (Program.Respects.throwIf _)
  intro _
  apply Program.Appends.bind_leaves
  · apply Program.Appends.forEach_only probe.distinctInterfaces
    exact fun _ _ => probe.serveBus_appends round.sends round.afterBus
  · intro _
    exact (probe.rest_leaves round).map fun buses => (buses interface).polls

theorem bus_fair (start : ℚ) (rounds : List Round) (interface : String) :
    (probe.bus start rounds interface).Fair start (probe.slot interface)
      (probe.names interface) :=
  (KeepsTurn.forEach fun round => probe.step_keepsTurn round).fair (PollBus.InTurn.first _ _ _)

end Bus

end FullBodyProbe

/-- **The zero-gain pollers keep to the budgets of their buses.**  Up to any time no more frames
have left than slots have begun, no motor is ever more than one frame ahead of another on its
bus, and a bus of the full-body probe gets sixteen frames at most before the next wait. -/
theorem zeroGainProbes_withinBudget :
    (∀ (group : ZeroGainGroup) (start : ℚ) (rounds : List ZeroGainGroup.Round),
      (group.bus start rounds).WithinBudget start group.slot group.names) ∧
    ∀ (probe : FullBodyProbe) (start : ℚ) (rounds : List FullBodyProbe.Round),
      ∀ interface ∈ probe.interfaces,
        (probe.bus start rounds interface).WithinBudget start (probe.slot interface)
          (probe.names interface) ∧
        ∀ round, ∃ sent,
          (probe.bus start (rounds ++ [round]) interface).polls =
            (probe.bus start rounds interface).polls ++ sent ∧ sent.length ≤ 16 := by
  constructor
  · intro group start rounds
    exact group.bus_withinBudget start rounds
  · intro probe start rounds interface served
    constructor
    · exact (probe.bus_fair start rounds interface).withinBudget (probe.slot_pos served)
        (probe.names_nodup interface)
    · intro round
      exact Program.Appends.forEach_concat (probe.step_appends round) _

end SpriteRuntime
