import SpriteRuntime.Foundation.Recheck
import SpriteRuntime.Native.ImuValidation
import SpriteRuntime.Native.PolicyCore
import SpriteRuntime.Native.PolicyFeedback
import SpriteRuntime.Native.PolicyStateChannel
import SpriteRuntime.Runtime.CommandSchedule

/-!
# The live policy loop

`sprite_policy_replay` receives a state, looks at the IMU, computes a target and sends it.  The
thread of the IMU client shares its latest sample with the loop under a lock, so its rounds
happen between the moments at which the loop holds the lock.
-/

namespace SpriteRuntime

open Foundation

variable {K : Type} [Field K] [LinearOrder K]

/-! ## The computation -/

/-- What a build and its model fix.  `toDouble` rounds the numbers of the IMU, which have square
roots, and `session` runs the network. -/
structure ReplaySettings (K : Type) where
  pi : K
  softwareFusion : Bool
  icm : Bool
  feedback : FeedbackMap K
  toDouble : K → Double
  session : List ℚ → Except String (Index → Double)
  kp : Index → Double
  kd : Index → Double
  /-- `SPRITE_SHADOW_LOOP`. -/
  shadowLoop : Bool

/-- The objects of the computation, and the commands in the rest of the input file. -/
structure PolicyPipeline where
  core : Core
  projector : TargetProjector
  startup : StartupRamp
  schedule : Option CommandSchedule
  frames : List (Fin 3 → Double)

namespace PolicyPipeline

/-- `read(in, sensors)` and `read(in, command)`; all sensors are overwritten. -/
def readFrame : Program PolicyPipeline String (Fin 3 → Double) := do
  let pipeline ← Program.get
  match pipeline.frames with
  | [] => Program.throw "truncated input"
  | command :: rest => do
      Program.modify fun pipeline => { pipeline with frames := rest }
      return command

/-- The command of a round. -/
def command (recorded : Fin 3 → Double) (stamp : ℕ) :
    Program PolicyPipeline String (Fin 3 → Double) := do
  let pipeline ← Program.get
  match pipeline.schedule with
  | none => return recorded
  | some schedule => do
      let scheduled ← Program.zoom (fun _ => schedule)
        (fun schedule pipeline => { pipeline with schedule := some schedule })
        (CommandSchedule.sample (UInt64.ofNat stamp))
      return ![.finite scheduled.vx, .finite 0, .finite 0]

/-- The pose that the startup ramp is given. -/
def measuredPose (position : Index → Double) : Program PolicyPipeline String (Index → Double) := do
  let pipeline ← Program.get
  if pipeline.startup.initial.isSome then return position
  else do
    let checked ← Program.ofExcept (pipeline.projector.requirePosition position)
    return fun joint => .finite (checked joint)

end PolicyPipeline

namespace ReplaySettings

variable (settings : ReplaySettings K)

/-- The sensors of a round. -/
def sensors (state : PolicyState) (sample : ImuSnapshot K) : FeedbackInput K where
  motorPosition motor := (state.position motor : K)
  motorVelocity motor := (state.velocity motor : K)
  angularVelocity := sample.values.gyro
  quaternion := sample.values.quaternion

/-- The input of the core. -/
def policyInput (feedback : PolicyFeedback K) (command : Fin 3 → Double) : PolicyInput Double where
  jointPosition joint := settings.toDouble (feedback.jointPosition joint)
  jointVelocity joint := settings.toDouble (feedback.jointVelocity joint)
  angularVelocity axis := settings.toDouble (feedback.angularVelocity axis)
  projectedGravity axis := settings.toDouble (feedback.projectedGravity axis)
  command

/-- What the projector is given. -/
def unprotectedTarget (position : Index → ℚ) : ImpedanceTarget Double where
  position joint := .finite (position joint)
  velocity _ := .finite 0
  kp := settings.kp
  kd := settings.kd
  feedforward _ := .finite 0

variable [SquareRoots K]

/-- The part of a round that computes `protected_target`. -/
def computeTarget (state : PolicyState) (sample : ImuSnapshot K) :
    Program PolicyPipeline String (ImpedanceTarget ℚ) := do
  let recorded ← PolicyPipeline.readFrame
  let command ← PolicyPipeline.command recorded state.stamp
  let feedback ← Program.ofExcept (settings.feedback.convert (sensors state sample))
  let input := settings.policyInput feedback command
  let observation ← Program.zoom PolicyPipeline.core
    (fun core pipeline => { pipeline with core }) (Core.observe input.array)
  let raw ← Program.ofExcept (settings.session observation)
  let target ← Program.zoom PolicyPipeline.core
    (fun core pipeline => { pipeline with core }) (Core.latch raw input.array)
  let projected ← Program.zoom PolicyPipeline.projector
    (fun projector pipeline => { pipeline with projector })
    (TargetProjector.project (settings.unprotectedTarget target))
  let measured ← PolicyPipeline.measuredPose input.jointPosition
  Program.zoom PolicyPipeline.startup (fun startup pipeline => { pipeline with startup })
    (StartupRamp.apply projected.doubles measured)

/-- What is sent for a target; the shadow build sends no gains and no torque. -/
def outgoing (target : ImpedanceTarget ℚ) : ImpedanceTarget ℚ :=
  if settings.shadowLoop then
    { position := target.position
      velocity := fun _ => 0
      kp := fun _ => 0
      kd := fun _ => 0
      feedforward := fun _ => 0 }
  else target

end ReplaySettings

/-! ## The IMU client -/

/-- What a request of the worker comes to; `now` is the reading that the message is checked
against. -/
inductive ImuReply (K : Type) where
  | failed (what : String)
  | message (packet : ImuPacket K) (now : ℕ)

/-- `NativeImuClient`; `previous` is the variable of its worker, which ends with the first
error. -/
structure NativeImuClient (K : Type) where
  latest : ImuSnapshot K
  error : Option String := none
  previous : ℕ := 0

/-- A round of the worker. -/
def NativeImuClient.work [SquareRoots K] (settings : ReplaySettings K)
    (client : NativeImuClient K) (reply : ImuReply K) : NativeImuClient K :=
  match client.error, reply with
  | some _, _ => client
  | none, .failed what => { client with error := some what }
  | none, .message packet now =>
      match validateImuPacket settings.pi packet now client.previous settings.softwareFusion
          settings.icm with
      | .ok sample => { client with latest := sample, previous := sample.sequence }
      | .error what => { client with error := some what }

/-! ## The loop -/

/-- What happens in a run. -/
inductive ReplayEvent (K : Type) where
  | reading (now : ℕ)
  | received (state : PolicyState)
  | sampled (sample : ImuSnapshot K)
  | computed (state : PolicyState) (sample : ImuSnapshot K) (target : ImpedanceTarget ℚ)
  | sent (packet : TargetPacket)

/-- What a target was computed from, and the target. -/
structure Computation (K : Type) where
  state : PolicyState
  sample : ImuSnapshot K
  target : ImpedanceTarget ℚ

namespace ReplayEvent

def received? : ReplayEvent K → Option PolicyState
  | .received state => some state
  | _ => none

def sampled? : ReplayEvent K → Option (ImuSnapshot K)
  | .sampled sample => some sample
  | _ => none

/-- How the log of the loop is read. -/
def recheck : Recheck (ReplayEvent K) (Computation K) ℕ TargetPacket where
  computed?
    | .computed state sample target => some ⟨state, sample, target⟩
    | _ => none
  measured?
    | .reading now => some now
    | _ => none
  committed?
    | .sent packet => some packet
    | _ => none

end ReplayEvent

/-- The world around the loop: the clock, the messages, the worker up to each look at its
sample, and whether sending and recording succeed. -/
structure ReplayWorld (K : Type) where
  clock : ℕ → ℕ
  arrival : ℕ → Arrival
  worker : ℕ → List (ImuReply K)
  delivered : ℕ → Bool
  evidence : ℕ → Option String

/-- The state of the loop, with the number of times that the world was asked. -/
structure ReplayState (K : Type) where
  channel : PolicyStateChannel
  imu : NativeImuClient K
  pipeline : PolicyPipeline
  readings : ℕ := 0
  receives : ℕ := 0
  looks : ℕ := 0
  sends : ℕ := 0
  log : List (ReplayEvent K) := []

namespace ReplayState

/-- The loop at its start: the channel is new, and the IMU client has already worked. -/
def initial (motorHash jointHash : ℕ) (imu : NativeImuClient K) (pipeline : PolicyPipeline) :
    ReplayState K :=
  { channel := { motorHash, jointHash, maxAge := 100000000 }
    imu
    pipeline }

/-- The state after a reading of the clock. -/
def read (world : ReplayWorld K) (replay : ReplayState K) : ReplayState K :=
  { replay with
    readings := replay.readings + 1
    log := replay.log ++ [.reading (world.clock replay.readings)] }

def record (event : ReplayEvent K) (replay : ReplayState K) : ReplayState K :=
  { replay with log := replay.log ++ [event] }

def onChannel {α : Type} :
    Program PolicyStateChannel String α → Program (ReplayState K) String α :=
  Program.zoom channel fun channel replay => { replay with channel }

def onPipeline {α : Type} :
    Program PolicyPipeline String α → Program (ReplayState K) String α :=
  Program.zoom pipeline fun pipeline replay => { replay with pipeline }

end ReplayState

namespace ReplayWorld

variable (world : ReplayWorld K)

/-- `monotonic_ns`. -/
def monotonicNs : Program (ReplayState K) String ℕ := do
  let replay ← Program.get
  Program.modify (ReplayState.read world)
  return world.clock replay.readings

/-- The clock is read for a message only. -/
def arrivalNs : Arrival → Program (ReplayState K) String ℕ
  | .message _ => world.monotonicNs
  | _ => return 0

/-- `channel.receive(monotonic_ns)`. -/
def receiveState : Program (ReplayState K) String PolicyState := do
  let replay ← Program.get
  Program.modify fun replay => { replay with receives := replay.receives + 1 }
  let now ← world.arrivalNs (world.arrival replay.receives)
  let state ← ReplayState.onChannel
    (PolicyStateChannel.receive (world.arrival replay.receives) now)
  Program.modify (ReplayState.record (.received state))
  return state

/-- `channel.send`. -/
def sendTarget (target : ImpedanceTarget ℚ) (state : PolicyState) (now : ℕ) :
    Program (ReplayState K) String Unit := do
  let replay ← Program.get
  Program.modify fun replay => { replay with sends := replay.sends + 1 }
  let packet ← ReplayState.onChannel
    (PolicyStateChannel.send target.doubles state now (world.delivered replay.sends))
  Program.modify (ReplayState.record (.sent packet))

variable [SquareRoots K] (settings : ReplaySettings K)

/-- `imu.snapshot`. -/
def snapshot : Program (ReplayState K) String (Option (ImuSnapshot K)) := do
  Program.modify fun replay =>
    { replay with
      imu := (world.worker replay.looks).foldl (NativeImuClient.work settings) replay.imu
      looks := replay.looks + 1 }
  let replay ← Program.get
  match replay.imu.error with
  | some what => Program.throw what
  | none =>
      if replay.imu.latest.sequence = 0 then return none
      else do
        let now ← world.monotonicNs
        let latest := replay.imu.latest
        Program.throwIf (now < latest.start ∨ 30000000 < now - latest.start) "IMU snapshot stale"
        Program.modify (ReplayState.record (.sampled latest))
        return some latest

/-- A look at the IMU that must find a sample. -/
def requireSnapshot (missing : String) : Program (ReplayState K) String (ImuSnapshot K) := do
  let found ← world.snapshot settings
  match found with
  | some sample => return sample
  | none => Program.throw missing

/-- The part of a round before the check. -/
def compute : Program (ReplayState K) String (Computation K) := do
  let state ← world.receiveState
  let sample ← world.requireSnapshot settings "IMU missing"
  let target ← ReplayState.onPipeline (settings.computeTarget state sample)
  Program.modify (ReplayState.record (.computed state sample target))
  return ⟨state, sample, target⟩

/-- A round of the loop. -/
def round (index : ℕ) : Program (ReplayState K) String Unit := do
  let computation ← world.compute settings
  let _ ← world.requireSnapshot settings "IMU missing before send"
  let now ← world.monotonicNs
  Program.throwIf (now < computation.sample.start ∨ 30000000 < now - computation.sample.start)
    "consumed IMU stale before send"
  world.sendTarget (settings.outgoing computation.target) computation.state now
  match world.evidence index with
  | none => return ()
  | some what => Program.throw what

/-- The loop with its handler. -/
def run (count : ℕ) : Program (ReplayState K) String Unit :=
  Program.tryCatch (Program.forEach (List.range count) (world.round settings)) fun error => do
    Program.modify fun replay => { replay with channel := { replay.channel with failed := true } }
    Program.throw error

end ReplayWorld

end SpriteRuntime
