import SpriteRuntime.Foundation.Log
import SpriteRuntime.Native.Preview

/-!
# The world around a powered run

What the kernel answers to a run is a script for each kind of call: the clock
readings, the outcome of every CAN write, and so on.  A script is arbitrary, so
a result about every `World` is a result about every interleaving of feedback,
IPC packets, failures and signals.  A run leaves a trace of what it did at this
boundary; nothing of the program reads the trace.
-/

namespace SpriteRuntime

open Foundation

/-- The part of a `canfd_frame` that the controller reads or writes. -/
structure CanFrame where
  canId : ℕ
  length : ℕ
  flags : ℕ
  data : CanData
  deriving DecidableEq

/-- `CANFD_MTU`. -/
def canfdMtu : ℕ := 72

/-- `CANFD_BRS`. -/
def canfdBrs : ℕ := 1

/-- `CAN_SFF_MASK`. -/
def canSffMask : ℕ := 0x7FF

/-- What `read` on a CAN socket answers; `again` is `EAGAIN` and `EWOULDBLOCK`. -/
inductive ReadResult where
  | again
  | failed
  | received (size : ℕ) (frame : CanFrame)

/-- What `recv` on the IPC socket answers; a failure comes with its description. -/
inductive RecvResult where
  | again
  | failed (what : String)
  | message (bytes : List UInt8)

/-- The answers to the calls of a run, by how many calls of the kind came before.
A write that fails comes with the text of its `errno`.  `patience` bounds the
rounds of a receive loop that are followed. -/
structure World where
  clock : ℕ → Option ℤ
  sleep : ℕ → Bool
  write : ℕ → Except String Unit
  read : ℕ → ReadResult
  recv : ℕ → RecvResult
  send : ℕ → Bool
  shutdownRequested : ℕ → Bool
  reportOpens : Bool
  squareRoot : ℚ → ℚ
  exponential : ℚ → ℚ
  patience : ℕ

/-- How many calls of each kind a run has made. -/
structure Calls where
  clock : ℕ := 0
  sleep : ℕ := 0
  write : ℕ := 0
  read : ℕ := 0
  recv : ℕ := 0
  send : ℕ := 0
  shutdownRequested : ℕ := 0

/-- The opcode that enables a drive. -/
def enableOpcode : UInt8 := 0xFC

/-- The opcode that disables a drive; it never sets a zero. -/
def disableOpcode : UInt8 := 0xFD

/-- Which function of the controller wrote a CAN frame. -/
inductive Sender where
  | poll
  | payload (commanded : MotorState)
  | special (opcode : UInt8)

/-- The slot loops of a run. -/
inductive Phase where
  | preparation
  | active
  | verification
  deriving DecidableEq

/-- What a run does at its boundary.  `previewed` records the states between which a
preview was computed. -/
inductive Event where
  | slot (phase : Phase) (slot : ℕ)
  | wrote (sender : Sender) (motor : Index) (interface : String) (frame : CanFrame)
      (accepted : Bool)
  | read (interface : String) (result : ReadResult)
  | drained (nowNs : ℤ)
  | accepted (packet : TargetPacket)
  | published (packet : StatePacket) (sent : Bool)
  | previewed (before after : ControlState)

/-- The kinds of event. -/
inductive Kind where
  | slot | poll | payload | enable | disable | read | drained | accepted | published
  | previewed
  deriving DecidableEq

def Event.kind : Event → Kind
  | .slot .. => .slot
  | .wrote .poll .. => .poll
  | .wrote (.payload _) .. => .payload
  | .wrote (.special opcode) .. => if opcode = enableOpcode then .enable else .disable
  | .read .. => .read
  | .drained _ => .drained
  | .accepted _ => .accepted
  | .published .. => .published
  | .previewed .. => .previewed

/-- The state of a run: what the controller keeps, the local variables of the run
that outlive one slot, and the trace so far. -/
structure Machine extends ControlState where
  deadlineMisses : ℕ := 0
  maximumLatenessMs : ℚ := 0
  jointTorque : Index → ℚ := fun _ => 0
  calls : Calls := {}
  trace : List Event := []

/-- The state in which `main` hands over to a run. -/
def Machine.initial : Machine := { motors := fun _ => {}, ipc := {} }

abbrev Native (α : Type) : Type := Program Machine String α

/-- What `main` has loaded and checked before it hands over to a run. -/
structure Setup where
  loaded : LoadedMotors
  kinematics : NativeKinematics
  jointSafety : Index → JointSafety
  policyJointHash : ℕ
  motorHash : ℕ
  durationS : ℚ
  saturatePolicyTorque : Bool
  distinctEndpoints : ∀ left right,
    (loaded.descriptor left).interface = (loaded.descriptor right).interface →
      (loaded.descriptor left).masterId = (loaded.descriptor right).masterId →
      left = right

namespace Setup

/-- The interfaces in the order in which `main` opens their sockets. -/
def interfaces (setup : Setup) : List String :=
  (List.ofFn fun index => (setup.loaded.descriptor index).interface).eraseDups

/-- `feedback_map`. -/
def feedbackMap (setup : Setup) (interface : String) (frameId : ℕ) : Option Index :=
  (List.finRange kJointCount).find? fun index =>
    decide ((setup.loaded.descriptor index).interface = interface ∧
      (setup.loaded.descriptor index).masterId = frameId)

end Setup

/-- A run on the bench motors. -/
def benchSetup : Setup where
  loaded := benchMotors
  kinematics := decoupledKinematics
  jointSafety _ :=
    { name := "waist_yaw_joint"
      positionMin := -1
      positionMax := 1
      velocityMax := 10
      kpMax := 100
      kdMax := 5
      feedforwardTorqueMax := 20 }
  policyJointHash := 1
  motorHash := 2
  durationS := 1
  saturatePolicyTorque := false
  distinctEndpoints := by decide +kernel

/-- A bench whose motors are all ankle motors. -/
def ankleSetup : Setup :=
  { benchSetup with
    loaded :=
      { descriptor := fun index =>
          { benchMotors.descriptor index with name := "left_ankle_motor_a" }
        accepted := by decide +kernel
        phased := by rfl }
    distinctEndpoints := benchSetup.distinctEndpoints }

/-- A world in which every call succeeds and nothing ever arrives. -/
def quietWorld : World where
  clock call := some (500000 * call)
  sleep _ := true
  write _ := .ok ()
  read _ := .again
  recv _ := .again
  send _ := true
  shutdownRequested _ := false
  reportOpens := true
  squareRoot := id
  exponential := id
  patience := 1

/-- The reply of a disabled bench motor at rest. -/
def benchReply (index : ℕ) : ReadResult :=
  .received canfdMtu
    { canId := index % 8 + 0x11
      length := 8
      flags := canfdBrs
      data := ![UInt8.ofNat (index % 8 + 1), 0x80, 0, 0x7F, 0xF7, 0xFF, 25, 25] }

/-- The replies of all bench motors, socket by socket. -/
def benchReads : List ReadResult :=
  (List.range kJointCount).flatMap fun index =>
    if index % 8 = 7 then [benchReply index, .again] else [benchReply index]

/-- A zero target that names no state. -/
def statelessTarget : List UInt8 :=
  magicBytes ++ [1, 0, 2, 0, 1, 0, 0, 0, 0, 0, 0, 0] ++ List.replicate 8 0 ++
    [1, 0, 0, 0, 0, 0, 0, 0] ++ List.replicate 1248 0

/-! ## Calls -/

/-- Record what the run does. -/
def emit (event : Event) : Native Unit :=
  Program.modify fun machine => { machine with trace := machine.trace ++ [event] }

/-- Look up the answer to the next call of a kind, and count the call. -/
def answer {α : Type} (script : ℕ → α) (count : Calls → ℕ) (counted : Calls → Calls) :
    Native α := do
  let machine ← Program.get
  Program.modify fun machine => { machine with calls := counted machine.calls }
  return script (count machine.calls)

/-- `monotonic_ns`. -/
def monotonicNs (world : World) : Native ℤ := do
  match ← answer world.clock (·.clock) fun calls => { calls with clock := calls.clock + 1 } with
  | some now => return now
  | none => Program.throw "clock_gettime failed"

/-- `sleep_until`; an interrupted sleep is resumed, so only its end counts. -/
def sleepUntil (world : World) : Native Unit := do
  let slept ← answer world.sleep (·.sleep) fun calls => { calls with sleep := calls.sleep + 1 }
  Program.throwIf (slept = false) "clock_nanosleep failed"

/-- Run a program on one motor. -/
def onMachineMotor {α : Type} (index : Index) (program : Program MotorState String α) :
    Native α :=
  Program.zoom (fun machine => machine.motors index)
    (fun motor machine =>
      { machine with motors := Function.update machine.motors index motor })
    program

theorem onMachineMotor_eq_done {α : Type} {index : Index}
    {program : Program MotorState String α} {machine final : Machine} {value : α}
    (returned : onMachineMotor index program machine = (.done value, final)) :
    ∃ motor, program (machine.motors index) = (.done value, motor) ∧
      final = { machine with motors := Function.update machine.motors index motor } := by
  unfold onMachineMotor Program.zoom at returned
  rcases result : program (machine.motors index) with ⟨outcome, motor⟩
  rw [result] at returned
  cases returned
  exact ⟨motor, rfl, rfl⟩

/-- Run a program on the motors and the IPC bookkeeping. -/
def onControl {α : Type} (program : Program ControlState String α) : Native α :=
  Program.zoom (fun machine => machine.toControlState)
    (fun control machine => { machine with toControlState := control })
    program

/-- A loop over the motors in order. -/
def forEachMotor (body : Index → Native Unit) : Native Unit :=
  Program.forEach (List.finRange kJointCount) body

section Frames

variable (setup : Setup) (world : World)

/-- `write` one frame with a motor's own id on the motor's own interface. -/
def writeFrame (sender : Sender) (index : Index) (data : CanData) :
    Native (Except String Unit) := do
  let descriptor := setup.loaded.descriptor index
  let result ← answer world.write (·.write) fun calls => { calls with write := calls.write + 1 }
  emit (.wrote sender index descriptor.interface
    { canId := descriptor.canId.toNat, length := 8, flags := canfdBrs, data := data }
    result.isOk)
  return result

def countTx (index : Index) : Native Unit :=
  onMachineMotor index (Program.modify fun motor =>
    { motor with txCount := motor.txCount + 1 })

def sendPoll (index : Index) : Native Unit := do
  let descriptor := setup.loaded.descriptor index
  let machine ← Program.get
  let data ← Program.ofExcept (zeroGainPayload descriptor (machine.motors index))
  match ← writeFrame setup world .poll index data with
  | .ok _ => countTx index
  | .error what =>
      Program.throw ("CAN-FD zero-gain write failed for " ++ descriptor.name ++ ": " ++ what)

def sendPayload (sender : Sender) (index : Index) (data : CanData) : Native Unit := do
  let descriptor := setup.loaded.descriptor index
  match ← writeFrame setup world sender index data with
  | .ok _ => countTx index
  | .error _ => Program.throw ("CAN-FD hold write failed for " ++ descriptor.name)

/-- The bytes of a special frame. -/
def specialData (opcode : UInt8) : CanData :=
  ![0xFF, 0xFF, 0xFF, 0xFF, 0xFF, 0xFF, 0xFF, opcode]

def sendSpecial (index : Index) (opcode : UInt8) : Native Unit := do
  Program.throwIf (opcode ≠ enableOpcode ∧ opcode ≠ disableOpcode)
    "native hold special opcode is not enable/disable"
  sendPayload setup world (.special opcode) index (specialData opcode)

/-- `send_state_packet`. -/
def sendStatePacket (nowNs : ℤ) : Native Unit := do
  let machine ← Program.get
  let packet := statePacket machine.ipc machine.motors setup.motorHash nowNs
  Program.modify fun machine =>
    { machine with ipc := { machine.ipc with stateSequence := packet.sequence } }
  let sent ← answer world.send (·.send) fun calls => { calls with send := calls.send + 1 }
  emit (.published packet sent)
  Program.throwIf (sent = false) "failed to publish native state IPC packet"

end Frames

section Targets

variable (world : World) (policyJointHash : ℕ) (jointSafety : JointSafetyTable) (nowNs : ℤ)

/-- One round of the loop of `drain_target_packets`; the answer says whether the
loop goes on. -/
def drainTargetRound : Native Bool := do
  match ← answer world.recv (·.recv) fun calls => { calls with recv := calls.recv + 1 } with
  | .again => return false
  | .failed what => Program.throw ("policy IPC receive failed: " ++ what)
  | .message bytes => do
      let machine ← Program.get
      let ipc ← Program.ofExcept
        (receiveTarget policyJointHash jointSafety nowNs bytes machine.ipc)
      Program.modify fun machine => { machine with ipc := ipc }
      emit (.accepted ipc.latestTarget)
      return true

def drainTargetPackets : Native Unit := do
  emit (.drained nowNs)
  Program.loop world.patience (drainTargetRound world policyJointHash jointSafety nowNs)

variable {world policyJointHash jointSafety nowNs}

/-- A round that receives a message accepts it or leaves with an error. -/
theorem drainTargetRound_of_message {machine : Machine} {bytes : List UInt8}
    (arrived : world.recv machine.calls.recv = .message bytes) :
    drainTargetRound world policyJointHash jointSafety nowNs machine =
      let asked : Machine :=
        { machine with calls := { machine.calls with recv := machine.calls.recv + 1 } }
      match receiveTarget policyJointHash jointSafety nowNs bytes machine.ipc with
      | .ok ipc => (.done true,
          { asked with ipc := ipc, trace := machine.trace ++ [.accepted ipc.latestTarget] })
      | .error what => (.thrown what, asked) := by
  cases taken : receiveTarget policyJointHash jointSafety nowNs bytes machine.ipc with
  | error what =>
      simp [drainTargetRound, answer, Program.bind_apply, arrived, taken, Program.ofExcept]
  | ok ipc =>
      simp [drainTargetRound, answer, Program.bind_apply, arrived, taken, Program.ofExcept,
        emit]

end Targets

/-! ## What the calls leave in the trace -/

/-- The program adds only events of the given kinds to the trace. -/
abbrev EmitsOnly {α : Type} (kinds : List Kind) (program : Native α) : Prop :=
  Program.Emits (fun machine => machine.trace) (fun event => event.kind ∈ kinds) program

namespace EmitsOnly

variable {α : Type} {kinds : List Kind}

theorem widen {fewer : List Kind} {program : Native α} (emits : EmitsOnly fewer program)
    (subset : fewer ⊆ kinds) : EmitsOnly kinds program :=
  emits.mono fun _ member => subset member

/-- The trace after a program. -/
theorem trace_eq {program : Native α} (emits : EmitsOnly kinds program)
    (machine : Machine) :
    ∃ suffix, (program machine).2.trace = machine.trace ++ suffix ∧
      ∀ event ∈ suffix, event.kind ∈ kinds :=
  emits machine

theorem emit {event : Event} (allowed : event.kind ∈ kinds) :
    EmitsOnly kinds (SpriteRuntime.emit event) := by
  intro machine
  exact ⟨[event], rfl, by simpa using allowed⟩

theorem answer (script : ℕ → α) (count : Calls → ℕ) (counted : Calls → Calls) :
    EmitsOnly kinds (SpriteRuntime.answer script count counted) :=
  fun _ => .of_eq rfl

theorem monotonicNs (world : World) : EmitsOnly kinds (SpriteRuntime.monotonicNs world) := by
  refine .bind (answer _ _ _) fun reading => ?_
  cases reading with
  | none => exact .throw _
  | some now => exact .pure now

theorem sleepUntil (world : World) : EmitsOnly kinds (SpriteRuntime.sleepUntil world) :=
  .bind (answer _ _ _) fun _ => .throwIf _

theorem onMachineMotor (index : Index) (program : Program MotorState String α) :
    EmitsOnly kinds (SpriteRuntime.onMachineMotor index program) :=
  fun _ => .of_eq rfl

theorem onControl (program : Program ControlState String α) :
    EmitsOnly kinds (SpriteRuntime.onControl program) :=
  fun _ => .of_eq rfl

theorem forEachMotor {body : Index → Native Unit}
    (step : ∀ index, EmitsOnly kinds (body index)) :
    EmitsOnly kinds (SpriteRuntime.forEachMotor body) :=
  .forEach fun index _ => step index

section Frames

variable (setup : Setup) (world : World)

theorem writeFrame {sender : Sender} {index : Index} {data : CanData}
    (allowed : ∀ interface frame accepted,
      (Event.wrote sender index interface frame accepted).kind ∈ kinds) :
    EmitsOnly kinds (SpriteRuntime.writeFrame setup world sender index data) := by
  refine .bind (answer _ _ _) fun result => ?_
  exact .bind (emit (allowed _ _ _)) fun _ => .pure _

theorem sendPayload {sender : Sender} {index : Index} {data : CanData}
    (allowed : ∀ interface frame accepted,
      (Event.wrote sender index interface frame accepted).kind ∈ kinds) :
    EmitsOnly kinds (SpriteRuntime.sendPayload setup world sender index data) := by
  refine .bind (writeFrame setup world allowed) fun result => ?_
  cases result with
  | ok _ => exact onMachineMotor _ _
  | error _ => exact .throw _

theorem sendPoll (index : Index) :
    EmitsOnly [.poll] (SpriteRuntime.sendPoll setup world index) := by
  refine .bind .get fun machine => .bind (.ofExcept _) fun data => ?_
  refine .bind (writeFrame setup world fun _ _ _ => by simp [Event.kind]) fun result => ?_
  cases result with
  | ok _ => exact onMachineMotor _ _
  | error _ => exact .throw _

theorem sendEnable (index : Index) :
    EmitsOnly [.enable] (sendSpecial setup world index enableOpcode) :=
  .bind (.throwIf _) fun _ => sendPayload setup world fun _ _ _ => by simp [Event.kind]

theorem sendDisable (index : Index) :
    EmitsOnly [.disable] (sendSpecial setup world index disableOpcode) :=
  .bind (.throwIf _) fun _ => sendPayload setup world fun _ _ _ => by
    simp [Event.kind, enableOpcode, disableOpcode]

theorem sendStatePacket (nowNs : ℤ) :
    EmitsOnly [.published] (SpriteRuntime.sendStatePacket setup world nowNs) := by
  refine .bind .get fun machine => .bind (.modify fun _ => .of_eq rfl) fun _ => ?_
  refine .bind (answer _ _ _) fun sent => ?_
  exact .bind (emit (by simp [Event.kind])) fun _ => .throwIf _

end Frames

theorem drainTargetPackets (world : World) (policyJointHash : ℕ)
    (jointSafety : JointSafetyTable) (nowNs : ℤ) :
    EmitsOnly [.drained, .accepted]
      (SpriteRuntime.drainTargetPackets world policyJointHash jointSafety nowNs) := by
  refine .bind (emit (by simp [Event.kind])) fun _ => .loop ?_
  refine .bind (answer _ _ _) fun result => ?_
  cases result with
  | again => exact .pure false
  | failed what => exact .throw _
  | message bytes =>
      refine .bind .get fun machine => .bind (.ofExcept _) fun ipc => ?_
      refine .bind (.modify fun _ => .of_eq rfl) fun _ => ?_
      exact .bind (emit (by simp [Event.kind])) fun _ => .pure true

end EmitsOnly

end SpriteRuntime
