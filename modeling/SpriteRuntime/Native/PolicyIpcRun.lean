import Mathlib.Data.List.Range
import SpriteRuntime.Foundation.Log
import SpriteRuntime.Native.PolicyStateChannel

/-!
# The two ends of the policy IPC together

The controller publishes states and drains targets; the policy receives and sends.  Between
them are two queues that keep the order of the messages and lose none.  The calls of the two
ends interleave in any order, and a call may come to nothing: a wait may time out, a socket
may refuse a message.  The log records what happened.
-/

namespace SpriteRuntime

open Foundation

/-- What happens in a run of the two ends. -/
inductive IpcEvent where
  /-- The controller puts a state into the queue. -/
  | published (packet : StatePacket)
  /-- The policy takes a message out of the queue. -/
  | taken (packet : StatePacket)
  /-- `receive` returns. -/
  | received (state : PolicyState)
  /-- `send` puts a target into the queue and returns. -/
  | sent (packet : TargetPacket)
  /-- The controller drains a target and accepts it. -/
  | accepted (packet : TargetPacket)
  /-- The controller drains a target and leaves with an error. -/
  | rejected (packet : TargetPacket) (what : String)
  /-- `receive` or `send` raises an exception and latches the fault. -/
  | faulted

namespace IpcEvent

@[simp] def published? : IpcEvent → Option StatePacket
  | published packet => some packet
  | _ => none

@[simp] def taken? : IpcEvent → Option StatePacket
  | taken packet => some packet
  | _ => none

@[simp] def received? : IpcEvent → Option PolicyState
  | received state => some state
  | _ => none

@[simp] def sent? : IpcEvent → Option TargetPacket
  | sent packet => some packet
  | _ => none

@[simp] def accepted? : IpcEvent → Option TargetPacket
  | accepted packet => some packet
  | _ => none

end IpcEvent

/-- Both ends, the messages on their way, and the log. -/
structure PolicyIpc where
  server : IpcSocket := {}
  stopped : Bool := false
  channel : PolicyStateChannel
  states : List StatePacket := []
  targets : List TargetPacket := []
  log : List IpcEvent := []

/-- The settings of the controller and those of the policy. -/
structure IpcSettings where
  motorHash : ℕ
  policyJointHash : ℕ
  jointSafety : JointSafetyTable
  channelMotorHash : ℕ
  channelJointHash : ℕ
  maxAge : ℕ

/-- A call of one of the ends, with what the clock and the socket answer. -/
inductive IpcCall where
  | publish (motors : Index → MotorState) (now : ℤ) (delivered : Bool)
  | drain (now : ℤ)
  | stop
  | receive (arrives connected : Bool) (now : ℕ)
  | send (target : ImpedanceTarget Double) (state : PolicyState) (now : ℕ) (delivered : Bool)

namespace PolicyIpc

variable (ipc : PolicyIpc)

/-- `send_state_packet`; the controller leaves when the socket refuses the message. -/
def publish (settings : IpcSettings) (motors : Index → MotorState) (now : ℤ)
    (delivered : Bool) : PolicyIpc :=
  let packet := statePacket ipc.server motors settings.motorHash now
  let server := { ipc.server with stateSequence := packet.sequence }
  if delivered then
    { ipc with
      server
      states := ipc.states ++ [packet]
      log := ipc.log ++ [.published packet] }
  else { ipc with server, stopped := true }

/-- A round of `drain_target_packets`. -/
def drain (settings : IpcSettings) (now : ℤ) : PolicyIpc :=
  match ipc.targets with
  | [] => ipc
  | packet :: rest =>
      match acceptTarget settings.policyJointHash settings.jointSafety now targetPacketSize packet
          ipc.server with
      | .ok server =>
          { ipc with server, targets := rest, log := ipc.log ++ [.accepted packet] }
      | .error what =>
          { ipc with stopped := true, targets := rest, log := ipc.log ++ [.rejected packet what] }

/-- What the policy finds at its end of the states. -/
def arrival (arrives connected : Bool) : Arrival :=
  if connected then
    match arrives, ipc.states with
    | true, packet :: _ => .message packet
    | _, _ => .timeout
  else .disconnected

/-- The message that a call of `receive` takes: none once the fault is latched. -/
def takes (arrival : Arrival) : List IpcEvent :=
  match ipc.channel.failed, arrival with
  | false, .message packet => [.taken packet]
  | _, _ => []

/-- What the log says about a call that does not return. -/
def faults : List IpcEvent := if ipc.channel.failed then [] else [.faulted]

/-- `PolicyStateChannel::receive`. -/
def receive (arrives connected : Bool) (now : ℕ) : PolicyIpc :=
  let arrival := ipc.arrival arrives connected
  let taken := ipc.takes arrival
  let ipc := { ipc with states := ipc.states.drop taken.length, log := ipc.log ++ taken }
  match PolicyStateChannel.receive arrival now ipc.channel with
  | (.done state, channel) => { ipc with channel, log := ipc.log ++ [.received state] }
  | (_, channel) => { ipc with channel, log := ipc.log ++ ipc.faults }

/-- `PolicyStateChannel::send`. -/
def send (target : ImpedanceTarget Double) (state : PolicyState) (now : ℕ) (delivered : Bool) :
    PolicyIpc :=
  match PolicyStateChannel.send target state now delivered ipc.channel with
  | (.done packet, channel) =>
      { ipc with
        channel
        targets := ipc.targets ++ [packet]
        log := ipc.log ++ [.sent packet] }
  | (_, channel) => { ipc with channel, log := ipc.log ++ ipc.faults }

/-- One call.  A controller that has left neither publishes nor drains. -/
def step (settings : IpcSettings) (call : IpcCall) : PolicyIpc :=
  match call with
  | .publish motors now delivered =>
      if ipc.stopped then ipc else ipc.publish settings motors now delivered
  | .drain now => if ipc.stopped then ipc else ipc.drain settings now
  | .stop => { ipc with stopped := true }
  | .receive arrives connected now => ipc.receive arrives connected now
  | .send target state now delivered => ipc.send target state now delivered

/-- Both ends before the first message. -/
def initial (settings : IpcSettings) : PolicyIpc :=
  { channel :=
      { motorHash := settings.channelMotorHash
        jointHash := settings.channelJointHash
        maxAge := settings.maxAge } }

def run (settings : IpcSettings) (calls : List IpcCall) : PolicyIpc :=
  calls.foldl (fun ipc call => ipc.step settings call) (initial settings)

end PolicyIpc

section Safety

/-- The states that have been published. -/
abbrev publishedStates (log : List IpcEvent) : List StatePacket := picked IpcEvent.published? log

abbrev receivedStates (log : List IpcEvent) : List PolicyState := picked IpcEvent.received? log

abbrev sentTargets (log : List IpcEvent) : List TargetPacket := picked IpcEvent.sent? log

abbrev acceptedTargets (log : List IpcEvent) : List TargetPacket := picked IpcEvent.accepted? log

/-- The states that the policy has taken out of the queue. -/
abbrev takenStates (log : List IpcEvent) : List StatePacket := picked IpcEvent.taken? log

/-- The source state of a target was published, then received, and only then the target
was sent. -/
def Sourced (log : List IpcEvent) (packet : TargetPacket) : Prop :=
  ∃ (start between last rest : List IpcEvent) (published : StatePacket) (received : PolicyState),
    log = start ++ .published published ::
      (between ++ .received received :: (last ++ .sent packet :: rest)) ∧
    published.sequence = packet.sourceStateSequence ∧
    received.sequence = packet.sourceStateSequence

/-- What must have happened before an event. -/
def IpcReason (before : List IpcEvent) : IpcEvent → Prop
  | .accepted packet => Sourced before packet ∧
      ∀ published ∈ publishedStates before,
        published.sequence ≤ packet.sourceStateSequence + 5
  | .rejected packet what => what = sequenceFailureText →
      5 < (publishedStates before).countP fun published =>
        packet.sourceStateSequence < published.sequence
  | .taken _ | .received _ | .sent _ => ∀ event ∈ before, event ≠ .faulted
  | .published _ | .faulted => True

/-- What holds of every run of the two ends. -/
structure IpcSafe (log : List IpcEvent) : Prop where
  reasons : Justified IpcReason log
  increasing : (acceptedTargets log).Pairwise fun earlier later =>
    earlier.sequence < later.sequence
  inOrder : acceptedTargets log <+: sentTargets log
  sources : (acceptedTargets log).Pairwise fun earlier later =>
    earlier.sourceStateSequence ≤ later.sourceStateSequence

end Safety

section Transitions

/-- What a call can do to the two ends. -/
inductive IpcTransition (settings : IpcSettings) : PolicyIpc → PolicyIpc → Prop where
  | idle (ipc : PolicyIpc) : IpcTransition settings ipc ipc
  | stopped (ipc : PolicyIpc) (server : IpcSocket) :
      IpcTransition settings ipc { ipc with server, stopped := true }
  | published (ipc : PolicyIpc) (packet : StatePacket) (alive : ipc.stopped = false)
      (next : packet.sequence = ipc.server.stateSequence + 1) :
      IpcTransition settings ipc
        { ipc with
          server := { ipc.server with stateSequence := packet.sequence }
          states := ipc.states ++ [packet]
          log := ipc.log ++ [.published packet] }
  | accepted (ipc : PolicyIpc) (packet : TargetPacket) (rest : List TargetPacket) (now age : ℤ)
      (alive : ipc.stopped = false) (queue : ipc.targets = packet :: rest)
      (acceptable : Acceptable settings.policyJointHash settings.jointSafety now targetPacketSize
        packet ipc.server) :
      IpcTransition settings ipc
        { ipc with
          server := ipc.server.latch packet age
          targets := rest
          log := ipc.log ++ [.accepted packet] }
  | rejected (ipc : PolicyIpc) (packet : TargetPacket) (rest : List TargetPacket) (what : String)
      (alive : ipc.stopped = false) (queue : ipc.targets = packet :: rest)
      (reason : what = sequenceFailureText →
        packet.sequence ≤ ipc.server.lastTargetSequence ∨
        ipc.server.stateSequence < packet.sourceStateSequence ∨
        5 < ipc.server.stateSequence - packet.sourceStateSequence) :
      IpcTransition settings ipc
        { ipc with
          stopped := true
          targets := rest
          log := ipc.log ++ [.rejected packet what] }
  | received (ipc : PolicyIpc) (packet : StatePacket) (rest : List StatePacket)
      (state : PolicyState) (healthy : ipc.channel.failed = false)
      (queue : ipc.states = packet :: rest) (same : state.sequence = packet.sequence)
      (newer : ipc.channel.lastState < state.sequence) :
      IpcTransition settings ipc
        { ipc with
          channel := { ipc.channel with lastState := state.sequence }
          states := rest
          log := ipc.log ++ [.taken packet] ++ [.received state] }
  | spoiled (ipc : PolicyIpc) (packet : StatePacket) (rest : List StatePacket)
      (healthy : ipc.channel.failed = false) (queue : ipc.states = packet :: rest) :
      IpcTransition settings ipc
        { ipc with
          channel := { ipc.channel with failed := true }
          states := rest
          log := ipc.log ++ [.taken packet] ++ [.faulted] }
  | faulted (ipc : PolicyIpc) (healthy : ipc.channel.failed = false) :
      IpcTransition settings ipc
        { ipc with
          channel := { ipc.channel with failed := true }
          log := ipc.log ++ [.faulted] }
  | sent (ipc : PolicyIpc) (packet : TargetPacket) (healthy : ipc.channel.failed = false)
      (source : packet.sourceStateSequence = ipc.channel.lastState)
      (some : packet.sourceStateSequence ≠ 0)
      (next : packet.sequence = ipc.channel.lastTarget + 1) :
      IpcTransition settings ipc
        { ipc with
          channel := { ipc.channel with lastTarget := ipc.channel.lastTarget + 1 }
          targets := ipc.targets ++ [packet]
          log := ipc.log ++ [.sent packet] }

variable {settings : IpcSettings}

theorem decodeState_sequence {packet : StatePacket} {hash previous now age : ℕ}
    {state : PolicyState} (decoded : decodeState packet hash previous now age = .ok state) :
    state.sequence = packet.sequence ∧ previous < state.sequence := by
  simp only [decodeState, except_bind_eq_ok, raiseIf_eq_ok, not_le] at decoded
  obtain ⟨_, _, _, newer, _, _, same⟩ := decoded
  cases same
  exact ⟨rfl, newer⟩

theorem encodeTarget_header {target : ImpedanceTarget Double} {sequence stamp hash source : ℕ}
    {packet : TargetPacket}
    (encoded : encodeTarget target sequence stamp hash source = .ok packet) :
    packet.sequence = sequence ∧ packet.sourceStateSequence = source ∧ source ≠ 0 := by
  simp only [encodeTarget, except_bind_eq_ok, raiseIf_eq_ok, not_or] at encoded
  obtain ⟨_, _, _, ⟨_, _, _, some⟩, same⟩ := encoded
  cases same
  exact ⟨rfl, rfl, some⟩

/-- The text of the sequence check comes from no other check. -/
theorem acceptTarget_sequenceFailure {settings : IpcSettings} {now : ℤ} {packet : TargetPacket}
    {server : IpcSocket}
    (rejected : acceptTarget settings.policyJointHash settings.jointSafety now targetPacketSize
      packet server = .error sequenceFailureText) :
    packet.sequence ≤ server.lastTargetSequence ∨
      server.stateSequence < packet.sourceStateSequence ∨
      5 < server.stateSequence - packet.sourceStateSequence := by
  unfold acceptTarget at rejected
  split at rejected
  · exact absurd (Except.error.inj rejected) (by decide)
  · split at rejected
    next fails => exact fails
    next passes =>
        dsimp only at rejected
        split at rejected
        · exact absurd (Except.error.inj rejected) (by decide)
        · split at rejected
          next what found =>
              rw [Except.error.inj rejected] at found
              obtain ⟨joint, _, failed⟩ := List.exists_of_findSome?_eq_some found
              unfold jointFailure at failed
              split at failed
              · exact absurd (Option.some.inj failed) (by decide)
              · split at failed
                · cases failed
                · split at failed
                  · have text := congrArg (fun text => text.toList.take 12) (Option.some.inj failed)
                    rw [String.toList_append, List.take_append_of_le_length (by decide)] at text
                    exact absurd text (by decide)
                  · cases failed
          next => cases rejected

theorem PolicyIpc.publish_transition (ipc : PolicyIpc) (alive : ipc.stopped = false)
    (motors : Index → MotorState) (now : ℤ) (delivered : Bool) :
    IpcTransition settings ipc (ipc.publish settings motors now delivered) := by
  cases delivered with
  | true => exact .published ipc (statePacket ipc.server motors settings.motorHash now) alive rfl
  | false => exact .stopped ipc _

theorem PolicyIpc.drain_transition (ipc : PolicyIpc) (alive : ipc.stopped = false) (now : ℤ) :
    IpcTransition settings ipc (ipc.drain settings now) := by
  unfold PolicyIpc.drain
  cases queue : ipc.targets with
  | nil => exact .idle ipc
  | cons packet rest =>
      cases drained : acceptTarget settings.policyJointHash settings.jointSafety now
          targetPacketSize packet ipc.server with
      | ok server =>
          obtain ⟨acceptable, rfl⟩ := acceptTarget_eq_ok.mp drained
          simp only [drained]
          exact .accepted ipc packet rest now _ alive queue acceptable
      | error what =>
          simp only [drained]
          apply IpcTransition.rejected ipc packet rest what alive queue
          rintro rfl
          exact acceptTarget_sequenceFailure drained

/-- A message that arrives is the first in the queue. -/
theorem PolicyIpc.arrival_message {ipc : PolicyIpc} {arrives connected : Bool}
    {packet : StatePacket} (arrived : ipc.arrival arrives connected = .message packet) :
    ∃ rest, ipc.states = packet :: rest := by
  unfold PolicyIpc.arrival at arrived
  split at arrived
  · split at arrived
    next there =>
        cases arrived
        exact ⟨_, there⟩
    next => cases arrived
  · cases arrived

/-- A call of `receive` that does not return. -/
theorem PolicyIpc.receive_rejected {ipc : PolicyIpc} {arrives connected : Bool} {now : ℕ}
    (rejected : (PolicyStateChannel.receive (ipc.arrival arrives connected) now
      ipc.channel).1.isDone = false) :
    ipc.receive arrives connected now =
      { ipc with
        channel := { ipc.channel with failed := true }
        states := ipc.states.drop (ipc.takes (ipc.arrival arrives connected)).length
        log := ipc.log ++ (ipc.takes (ipc.arrival arrives connected) ++ ipc.faults) } := by
  have left := PolicyStateChannel.receive_faults rejected
  dsimp only [PolicyIpc.receive]
  generalize PolicyStateChannel.receive (ipc.arrival arrives connected) now ipc.channel = run
    at rejected left
  obtain ⟨outcome, channel⟩ := run
  cases left
  rw [← List.append_assoc]
  cases outcome with
  | done state => cases rejected
  | thrown what => rfl
  | unfinished => rfl

theorem PolicyIpc.receive_transition (ipc : PolicyIpc) (arrives connected : Bool) (now : ℕ) :
    IpcTransition settings ipc (ipc.receive arrives connected now) := by
  cases returned : (PolicyStateChannel.receive (ipc.arrival arrives connected) now
      ipc.channel).1.isDone with
  | true =>
      obtain ⟨state, channel, ran⟩ := Program.exists_eq_done returned
      obtain ⟨healthy, packet, arrived, decoded, rfl⟩ :=
        PolicyStateChannel.receive_eq_done_iff.mp ran
      obtain ⟨same, newer⟩ := decodeState_sequence decoded
      obtain ⟨rest, queue⟩ := PolicyIpc.arrival_message arrived
      rw [arrived] at ran
      have next : ipc.receive arrives connected now =
          { ipc with
            channel := { ipc.channel with lastState := state.sequence }
            states := rest
            log := ipc.log ++ [.taken packet] ++ [.received state] } := by
        simp only [PolicyIpc.receive, PolicyIpc.takes, arrived, healthy, queue, ran]
        simp
      rw [next]
      exact .received ipc packet rest state healthy queue same newer
  | false =>
      rw [PolicyIpc.receive_rejected returned]
      unfold PolicyIpc.takes PolicyIpc.faults
      cases faulted : ipc.channel.failed with
      | true =>
          have same : { ipc.channel with failed := true } = ipc.channel := by rw [← faulted]
          simp only [same, List.length_nil, List.drop_zero, List.append_nil, if_true]
          exact .idle ipc
      | false =>
          cases arrived : ipc.arrival arrives connected with
          | timeout => exact .faulted ipc faulted
          | disconnected => exact .faulted ipc faulted
          | message packet =>
              obtain ⟨rest, queue⟩ := PolicyIpc.arrival_message arrived
              simp only [queue, ← List.append_assoc]
              exact .spoiled ipc packet rest faulted queue

theorem PolicyIpc.send_transition (ipc : PolicyIpc) (target : ImpedanceTarget Double)
    (state : PolicyState) (now : ℕ) (delivered : Bool) :
    IpcTransition settings ipc (ipc.send target state now delivered) := by
  unfold PolicyIpc.send
  cases returned : (PolicyStateChannel.send target state now delivered
      ipc.channel).1.isDone with
  | true =>
      obtain ⟨packet, channel, ran⟩ := Program.exists_eq_done returned
      obtain ⟨healthy, source, _, encoded, _, rfl⟩ := PolicyStateChannel.send_eq_done_iff.mp ran
      obtain ⟨next, same, some⟩ := encodeTarget_header encoded
      rw [ran]
      exact .sent ipc packet healthy (same.trans source) (same ▸ some) next
  | false =>
      have left := PolicyStateChannel.send_faults returned
      generalize PolicyStateChannel.send target state now delivered ipc.channel = run
        at returned left
      obtain ⟨outcome, channel⟩ := run
      cases left
      have refused : IpcTransition settings ipc
          { ipc with
            channel := { ipc.channel with failed := true }
            log := ipc.log ++ ipc.faults } := by
        unfold PolicyIpc.faults
        cases faulted : ipc.channel.failed with
        | true =>
            have same : { ipc.channel with failed := true } = ipc.channel := by rw [← faulted]
            simp only [same, if_true, List.append_nil]
            exact .idle ipc
        | false => exact .faulted ipc faulted
      cases outcome with
      | done packet => cases returned
      | thrown what => exact refused
      | unfinished => exact refused

/-- Every call is one of the transitions. -/
theorem PolicyIpc.step_transition (ipc : PolicyIpc) (call : IpcCall) :
    IpcTransition settings ipc (ipc.step settings call) := by
  cases call with
  | publish motors now delivered =>
      cases alive : ipc.stopped with
      | true => simpa [PolicyIpc.step, alive] using IpcTransition.idle ipc
      | false =>
          simpa [PolicyIpc.step, alive] using ipc.publish_transition alive motors now delivered
  | drain now =>
      cases alive : ipc.stopped with
      | true => simpa [PolicyIpc.step, alive] using IpcTransition.idle ipc
      | false => simpa [PolicyIpc.step, alive] using ipc.drain_transition alive now
  | stop => exact .stopped ipc ipc.server
  | receive arrives connected now => exact ipc.receive_transition arrives connected now
  | send target state now delivered => exact ipc.send_transition target state now delivered

end Transitions

section Invariants

variable {settings : IpcSettings} {ipc next : PolicyIpc}

/-- In a list that is numbered from one, an item has the number of its place. -/
theorem number_of_split {α : Type} {number : α → ℕ} {before after : List α} {item : α} {count : ℕ}
    (numbered : (before ++ item :: after).map number = List.range' 1 count) :
    number item = before.length + 1 := by
  have here := congrArg (fun numbers => numbers[before.length]?) numbered
  have within : before.length < count := by
    have lengths := congrArg List.length numbered
    simp only [List.length_map, List.length_append, List.length_cons, List.length_range']
      at lengths
    omega
  simp [within] at here
  omega

theorem number_of_concat {α : Type} {number : α → ℕ} {items : List α} {item : α} {count : ℕ}
    (numbered : items.map number = List.range' 1 count) (next : number item = count + 1) :
    (items ++ [item]).map number = List.range' 1 (count + 1) := by
  rw [List.map_append, numbered, List.range'_concat, List.map_singleton, next]
  simp [Nat.add_comm]

/-- How many items of such a list have a number above a bound. -/
theorem countP_above {α : Type} {number : α → ℕ} {items : List α} {count : ℕ}
    (numbered : items.map number = List.range' 1 count) (bound : ℕ) :
    items.countP (fun item => bound < number item) = count - bound := by
  have range : (List.range' 1 count).countP (fun value => bound < value) = count - bound := by
    clear numbered
    induction count with
    | zero => simp
    | succ count induction =>
        rw [List.range'_concat, List.countP_append, induction]
        by_cases above : bound < 1 + count
        · simp only [Nat.one_mul, List.countP_singleton, decide_eq_true_eq, if_pos above]
          omega
        · simp only [Nat.one_mul, List.countP_singleton, decide_eq_true_eq, if_neg above]
          omega
  rw [← range, ← numbered, List.countP_map]
  rfl

/-- The states are numbered from one and reach the policy in order. -/
structure StatesLinked (ipc : PolicyIpc) : Prop where
  numbered : (publishedStates ipc.log).map StatePacket.sequence =
    List.range' 1 (publishedStates ipc.log).length
  alive : ipc.stopped = false → ipc.server.stateSequence = (publishedStates ipc.log).length
  queue : takenStates ipc.log ++ ipc.states = publishedStates ipc.log

theorem StatesLinked.step (linked : StatesLinked ipc) (transition : IpcTransition settings ipc next) :
    StatesLinked next := by
  obtain ⟨numbered, alive, queue⟩ := linked
  cases transition with
  | idle => exact ⟨numbered, alive, queue⟩
  | stopped server => exact ⟨numbered, (fun running => nomatch running), queue⟩
  | published packet running following =>
      have fresh : packet.sequence = (publishedStates ipc.log).length + 1 := by
        rw [following, alive running]
      constructor
      · simpa using number_of_concat numbered fresh
      · simp [fresh]
      · simp [← queue]
  | accepted packet rest now age running inQueue acceptable =>
      exact ⟨by simpa using numbered, by simpa [IpcSocket.latch] using alive, by simpa using queue⟩
  | rejected packet rest what running inQueue reason =>
      exact ⟨by simpa using numbered, by simp, by simpa using queue⟩
  | received packet rest state healthy inQueue same newer =>
      rw [inQueue] at queue
      exact ⟨by simpa using numbered, by simpa using alive, by simpa using queue⟩
  | spoiled packet rest healthy inQueue =>
      rw [inQueue] at queue
      exact ⟨by simpa using numbered, by simpa using alive, by simpa using queue⟩
  | faulted healthy =>
      exact ⟨by simpa using numbered, by simpa using alive, by simpa using queue⟩
  | sent packet healthy source some following =>
      exact ⟨by simpa using numbered, by simpa using alive, by simpa using queue⟩

/-- The targets are numbered from one and reach the controller in order. -/
structure TargetsLinked (ipc : PolicyIpc) : Prop where
  numbered : (sentTargets ipc.log).map TargetPacket.sequence =
    List.range' 1 ipc.channel.lastTarget
  inOrder : acceptedTargets ipc.log <+: sentTargets ipc.log
  queue : ipc.stopped = false → acceptedTargets ipc.log ++ ipc.targets = sentTargets ipc.log
  last : ipc.stopped = false →
    ipc.server.lastTargetSequence = (acceptedTargets ipc.log).length

/-- The first target in the queue is the one that the controller counts on. -/
theorem TargetsLinked.first (linked : TargetsLinked ipc) (running : ipc.stopped = false)
    {packet : TargetPacket} {rest : List TargetPacket} (inQueue : ipc.targets = packet :: rest) :
    packet.sequence = ipc.server.lastTargetSequence + 1 := by
  have numbered := linked.numbered
  rw [← linked.queue running, inQueue] at numbered
  rw [linked.last running]
  exact number_of_split numbered

theorem TargetsLinked.step (linked : TargetsLinked ipc)
    (transition : IpcTransition settings ipc next) : TargetsLinked next := by
  have first := @linked.first
  obtain ⟨numbered, inOrder, queue, last⟩ := linked
  cases transition with
  | idle => exact ⟨numbered, inOrder, queue, last⟩
  | stopped server =>
      exact ⟨numbered, inOrder, (fun running => nomatch running), (fun running => nomatch running)⟩
  | published packet running following =>
      exact ⟨by simpa using numbered, by simpa using inOrder, by simpa using queue,
        by simpa using last⟩
  | accepted packet rest now age running inQueue acceptable =>
      have whole := queue running
      rw [inQueue] at whole
      constructor
      · simpa using numbered
      · refine ⟨rest, ?_⟩
        simpa using whole
      · intro _
        simpa using whole
      · intro _
        simp [IpcSocket.latch, first running inQueue, last running]
  | rejected packet rest what running inQueue reason =>
      exact ⟨by simpa using numbered, by simpa using inOrder, by simp, by simp⟩
  | received packet rest state healthy inQueue same newer =>
      exact ⟨by simpa using numbered, by simpa using inOrder, by simpa using queue,
        by simpa using last⟩
  | spoiled packet rest healthy inQueue =>
      exact ⟨by simpa using numbered, by simpa using inOrder, by simpa using queue,
        by simpa using last⟩
  | faulted healthy =>
      exact ⟨by simpa using numbered, by simpa using inOrder, by simpa using queue,
        by simpa using last⟩
  | sent packet healthy source some following =>
      constructor
      · simpa using number_of_concat numbered following
      · simpa using inOrder.trans (List.prefix_append _ [packet])
      · intro running
        simp [← queue running]
      · simpa using last

/-- A state has been published and then received. -/
def Held (log : List IpcEvent) (sequence : ℕ) : Prop :=
  ∃ (start between rest : List IpcEvent) (published : StatePacket) (received : PolicyState),
    log = start ++ .published published :: (between ++ .received received :: rest) ∧
    published.sequence = sequence ∧ received.sequence = sequence

theorem Held.append {log : List IpcEvent} {sequence : ℕ} (held : Held log sequence)
    (suffix : List IpcEvent) : Held (log ++ suffix) sequence := by
  obtain ⟨start, between, rest, published, received, rfl, samePublished, sameReceived⟩ := held
  exact ⟨start, between, rest ++ suffix, published, received, by simp, samePublished,
    sameReceived⟩

theorem Sourced.append {log : List IpcEvent} {packet : TargetPacket} (sourced : Sourced log packet)
    (suffix : List IpcEvent) : Sourced (log ++ suffix) packet := by
  obtain ⟨start, between, last, rest, published, received, rfl, samePublished, sameReceived⟩ :=
    sourced
  exact ⟨start, between, last, rest ++ suffix, published, received, by simp, samePublished,
    sameReceived⟩

/-- A target that is sent for a state that is held has its source. -/
theorem Held.sourced {log : List IpcEvent} {packet : TargetPacket}
    (held : Held log packet.sourceStateSequence) : Sourced (log ++ [.sent packet]) packet := by
  obtain ⟨start, between, rest, published, received, rfl, samePublished, sameReceived⟩ := held
  exact ⟨start, between, rest, [], published, received, by simp, samePublished, sameReceived⟩

/-- The policy sends a target for the newest state that it holds. -/
structure ClientLinked (ipc : PolicyIpc) : Prop where
  held : ipc.channel.lastState ≠ 0 → Held ipc.log ipc.channel.lastState
  sourced : ∀ packet ∈ sentTargets ipc.log, Sourced ipc.log packet
  bounded : ∀ packet ∈ sentTargets ipc.log,
    packet.sourceStateSequence ≤ ipc.channel.lastState
  monotone : (sentTargets ipc.log).Pairwise fun earlier later =>
    earlier.sourceStateSequence ≤ later.sourceStateSequence
  sound : ipc.channel.failed = false → ∀ event ∈ ipc.log, event ≠ .faulted

/-- What is kept while the policy sends nothing. -/
theorem ClientLinked.keep (linked : ClientLinked ipc) {suffix : List IpcEvent}
    (quiet : sentTargets suffix = []) {channel : PolicyStateChannel}
    (newer : ipc.channel.lastState ≤ channel.lastState)
    (held : channel.lastState ≠ 0 → Held (ipc.log ++ suffix) channel.lastState)
    (sound : channel.failed = false → ∀ event ∈ ipc.log ++ suffix, event ≠ .faulted)
    {server : IpcSocket} {stopped : Bool} {states : List StatePacket}
    {targets : List TargetPacket} :
    ClientLinked ⟨server, stopped, channel, states, targets, ipc.log ++ suffix⟩ := by
  have same : sentTargets (ipc.log ++ suffix) = sentTargets ipc.log := by
    simp [quiet]
  constructor
  · exact held
  · intro packet member
    rw [same] at member
    exact (linked.sourced packet member).append suffix
  · intro packet member
    rw [same] at member
    exact (linked.bounded packet member).trans newer
  · rw [same]
    exact linked.monotone
  · exact sound

/-- The same with the channel as it was. -/
theorem ClientLinked.quiet (linked : ClientLinked ipc) {event : IpcEvent}
    (unsent : event.sent? = none) (harmless : event ≠ .faulted)
    {server : IpcSocket} {stopped : Bool} {states : List StatePacket}
    {targets : List TargetPacket} :
    ClientLinked ⟨server, stopped, ipc.channel, states, targets, ipc.log ++ [event]⟩ := by
  apply linked.keep
  · rw [sentTargets, picked_cons, unsent]
    rfl
  · exact le_rfl
  · intro some
    exact (linked.held some).append [event]
  · intro healthy other member
    rcases List.mem_append.mp member with before | here
    · exact linked.sound healthy other before
    · rw [List.mem_singleton.mp here]
      exact harmless

/-- A message that is taken was published. -/
theorem StatesLinked.taken (linked : StatesLinked ipc) {packet : StatePacket}
    {rest : List StatePacket} (inQueue : ipc.states = packet :: rest) :
    ∃ start after, ipc.log = start ++ .published packet :: after := by
  have member : packet ∈ publishedStates ipc.log := by
    rw [← linked.queue, inQueue]
    simp
  obtain ⟨event, inLog, selected⟩ := (mem_picked _ _).mp member
  have same : event = .published packet := by
    cases event <;> simp_all
  exact List.append_of_mem (same ▸ inLog)

theorem ClientLinked.step (linked : ClientLinked ipc) (states : StatesLinked ipc)
    (transition : IpcTransition settings ipc next) : ClientLinked next := by
  cases transition with
  | idle => exact linked
  | stopped server =>
      exact ⟨linked.held, linked.sourced, linked.bounded, linked.monotone, linked.sound⟩
  | published packet running following =>
      apply linked.quiet rfl
      exact nofun
  | accepted packet rest now age running inQueue acceptable =>
      apply linked.quiet rfl
      exact nofun
  | rejected packet rest what running inQueue reason =>
      apply linked.quiet rfl
      exact nofun
  | received packet rest state healthy inQueue same newer =>
      rw [List.append_assoc]
      apply linked.keep
      · rfl
      · exact newer.le
      · intro _
        obtain ⟨start, after, split⟩ := states.taken inQueue
        refine ⟨start, after ++ [.taken packet], [], packet, state, ?_, same.symm, rfl⟩
        simp [split]
      · intro _ event member
        rcases List.mem_append.mp member with before | here
        · exact linked.sound healthy event before
        · rintro rfl
          simp at here
  | spoiled packet rest healthy inQueue =>
      rw [List.append_assoc]
      apply linked.keep
      · rfl
      · exact le_rfl
      · intro some
        exact (linked.held some).append _
      · exact fun failed => nomatch failed
  | faulted healthy =>
      apply linked.keep
      · rfl
      · exact le_rfl
      · intro some
        exact (linked.held some).append _
      · exact fun failed => nomatch failed
  | sent packet healthy source some following =>
      have older : ∀ earlier ∈ sentTargets ipc.log,
          earlier.sourceStateSequence ≤ packet.sourceStateSequence := by
        intro earlier member
        rw [source]
        exact linked.bounded earlier member
      have sent : sentTargets (ipc.log ++ [.sent packet]) = sentTargets ipc.log ++ [packet] := by
        simp
      constructor
      · intro received
        exact (linked.held received).append _
      · intro other member
        rw [sent] at member
        rcases List.mem_append.mp member with before | here
        · exact (linked.sourced other before).append _
        · rw [List.mem_singleton.mp here]
          apply Held.sourced
          rw [source]
          exact linked.held (source ▸ some)
      · intro other member
        rw [sent] at member
        rcases List.mem_append.mp member with before | here
        · exact linked.bounded other before
        · rw [List.mem_singleton.mp here]
          exact source.le
      · rw [sent, List.pairwise_append]
        refine ⟨linked.monotone, List.pairwise_singleton _ _, ?_⟩
        intro earlier member later here
        rw [List.mem_singleton.mp here]
        exact older earlier member
      · intro _ event member
        rcases List.mem_append.mp member with before | here
        · exact linked.sound healthy event before
        · rw [List.mem_singleton.mp here]
          exact nofun

/-- No published state has a number beyond the controller's counter. -/
theorem StatesLinked.bounded (linked : StatesLinked ipc) (running : ipc.stopped = false)
    {published : StatePacket} (member : published ∈ publishedStates ipc.log) :
    published.sequence ≤ ipc.server.stateSequence := by
  have numbered : published.sequence ∈ (publishedStates ipc.log).map StatePacket.sequence :=
    List.mem_map.mpr ⟨published, member, rfl⟩
  rw [linked.numbered, List.mem_range'_1] at numbered
  rw [linked.alive running]
  omega

/-- The source of a target does not run ahead of the controller. -/
theorem Sourced.published {log : List IpcEvent} {packet : TargetPacket}
    (sourced : Sourced log packet) :
    ∃ published ∈ publishedStates log, published.sequence = packet.sourceStateSequence := by
  obtain ⟨start, between, last, rest, published, received, rfl, same, _⟩ := sourced
  exact ⟨published, by simp, same⟩

/-- Everything that links the two ends, with the reasons of the log. -/
structure IpcLinked (ipc : PolicyIpc) : Prop where
  reasons : Justified IpcReason ipc.log
  states : StatesLinked ipc
  targets : TargetsLinked ipc
  client : ClientLinked ipc

/-- A target in the queue has its source. -/
theorem IpcLinked.sourced (linked : IpcLinked ipc) (running : ipc.stopped = false)
    {packet : TargetPacket} {rest : List TargetPacket} (inQueue : ipc.targets = packet :: rest) :
    Sourced ipc.log packet := by
  apply linked.client.sourced
  rw [← linked.targets.queue running, inQueue]
  simp

/-- A target fails the sequence check only when it is too old. -/
theorem IpcLinked.outdated (linked : IpcLinked ipc) (running : ipc.stopped = false)
    {packet : TargetPacket} {rest : List TargetPacket} (inQueue : ipc.targets = packet :: rest)
    (fails : packet.sequence ≤ ipc.server.lastTargetSequence ∨
      ipc.server.stateSequence < packet.sourceStateSequence ∨
      5 < ipc.server.stateSequence - packet.sourceStateSequence) :
    5 < (publishedStates ipc.log).countP fun published =>
      packet.sourceStateSequence < published.sequence := by
  have following := linked.targets.first running inQueue
  obtain ⟨published, member, same⟩ := (linked.sourced running inQueue).published
  have known := linked.states.bounded running member
  rw [countP_above linked.states.numbered, ← linked.states.alive running]
  omega

theorem IpcLinked.step (linked : IpcLinked ipc) (transition : IpcTransition settings ipc next) :
    IpcLinked next := by
  have states := linked.states.step transition
  have targets := linked.targets.step transition
  have client := linked.client.step linked.states transition
  refine ⟨?_, states, targets, client⟩
  have sound := linked.client.sound
  cases transition with
  | idle => exact linked.reasons
  | stopped server => exact linked.reasons
  | published packet running following => exact linked.reasons.concat trivial
  | accepted packet rest now age running inQueue acceptable =>
      apply linked.reasons.concat
      refine ⟨linked.sourced running inQueue, fun published member => ?_⟩
      have known := linked.states.bounded running member
      have recent := acceptable.recent
      omega
  | rejected packet rest what running inQueue reason =>
      apply linked.reasons.concat
      intro text
      exact linked.outdated running inQueue (reason text)
  | received packet rest state healthy inQueue same newer =>
      have taken : Justified IpcReason (ipc.log ++ [.taken packet]) :=
        linked.reasons.concat (sound healthy)
      apply taken.concat
      intro event member
      rcases List.mem_append.mp member with before | here
      · exact sound healthy event before
      · rw [List.mem_singleton.mp here]
        exact nofun
  | spoiled packet rest healthy inQueue =>
      have taken : Justified IpcReason (ipc.log ++ [.taken packet]) :=
        linked.reasons.concat (sound healthy)
      exact taken.concat trivial
  | faulted healthy => exact linked.reasons.concat trivial
  | sent packet healthy source some following => exact linked.reasons.concat (sound healthy)

theorem IpcLinked.start : IpcLinked (PolicyIpc.initial settings) := by
  constructor
  · exact Justified.nil
  · exact ⟨rfl, fun _ => rfl, rfl⟩
  · exact ⟨rfl, List.prefix_rfl, fun _ => rfl, fun _ => rfl⟩
  · exact ⟨fun received => absurd rfl received, nofun, nofun, List.Pairwise.nil, fun _ => nofun⟩

theorem IpcLinked.run (calls : List IpcCall) : IpcLinked (PolicyIpc.run settings calls) := by
  induction calls using List.reverseRecOn with
  | nil => exact IpcLinked.start
  | append_singleton calls call induction =>
      unfold PolicyIpc.run at induction ⊢
      rw [List.foldl_append]
      exact induction.step (PolicyIpc.step_transition _ call)

theorem IpcLinked.safe (linked : IpcLinked ipc) : IpcSafe ipc.log := by
  have increasing : (sentTargets ipc.log).Pairwise fun earlier later =>
      earlier.sequence < later.sequence := by
    rw [← List.pairwise_map, linked.targets.numbered]
    exact List.pairwise_lt_range'
  have subset := linked.targets.inOrder.sublist
  constructor
  · exact linked.reasons
  · exact increasing.sublist subset
  · exact linked.targets.inOrder
  · exact linked.client.monotone.sublist subset

end Invariants

/-- However the calls of the two ends interleave, with whatever delays, timeouts and refusals:
targets are accepted in the order in which they were sent, each for a state that the policy had
received, and none is turned down for its sequence before it is more than five states old. -/
theorem policy_ipc_safe (settings : IpcSettings) (calls : List IpcCall) :
    IpcSafe (PolicyIpc.run settings calls).log :=
  (IpcLinked.run calls).safe

end SpriteRuntime
