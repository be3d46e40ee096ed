import SpriteRuntime.Foundation.Recheck
import SpriteRuntime.Runtime.ClampWatchdog
import SpriteRuntime.Runtime.CommandSchedule
import SpriteRuntime.Runtime.ImuReceive
import SpriteRuntime.Runtime.NativeIpc
import SpriteRuntime.Runtime.PhysicalStartup
import SpriteRuntime.Runtime.ShadowSchedule

/-!
# The Python policy client

The client waits for states of the controller and for the IMU.  A state makes it drain the IMU,
compute a target, look at the clock again and send the target.  Times that only end up in a
report are left out.
-/

namespace SpriteRuntime

open Foundation

/-! ## The IMU -/

/-- What is wrong with a stamp, but for the age in the text. -/
def requireFreshStamp (name : String) (timestampNs nowNs : ℤ) : Except String Unit := do
  raiseIf (timestampNs ≤ 0 ∨ nowNs < timestampNs) ("IMU " ++ name ++ " receipt timestamp invalid")
  raiseIf (30000000 < nowNs - timestampNs) ("IMU " ++ name ++ " stale")

/-- `require_fresh_imu`. -/
def requireFreshImu (rawNs quaternionNs nowNs : ℤ) : Except String Unit := do
  requireFreshStamp "raw" rawNs nowNs
  requireFreshStamp "quaternion" quaternionNs nowNs

/-- A sample of a BNO055 source, as the packets that it is turned into. -/
structure BnoSample where
  readStartNs : ℤ
  packets : List YahboomPacket

/-- What the source of the IMU answers when it is drained. -/
inductive ImuAnswer where
  | serial (input : DrainInput)
  | bno (error : Option String) (sample : Option BnoSample)

/-! ## The client -/

/-- What the client has from its arguments.  The offsets of a replayed trace are a function of
the tick, `toFloat` rounds to a double, and `clampText` renders the error of the watchdog. -/
structure ClientSetup where
  shadow : ShadowSetup
  motorNames : List String
  motorHash : ℤ
  jointHash : ℤ
  commandProfile : Option String
  actionReplay : Option (ℕ → Index → ℚ)
  clampWatchdog : Option ConsecutiveClampWatchdog
  clampText : ClampError → String
  toFloat : ℚ → Binary64

/-- The startup ramp needs the projector. -/
structure ClientProtection where
  projector : ProtectedTargetProjector
  startup : Option PhysicalStartupRamp

/-- A target with the stages that it went through. -/
structure ProcessedTarget where
  raw : ImpedanceTarget ℚ
  projected : ImpedanceTarget ℚ
  target : ImpedanceTarget ℚ

/-- What a target was computed from. -/
structure PolicyComputation where
  state : NativeStatePacket
  raw : Fin 9 → ℤ
  rawNs : ℤ
  quaternion : Fin 4 → ℕ
  quaternionNs : ℤ
  processed : ProcessedTarget

/-- What happens in a run. -/
inductive ClientEvent where
  | reading (nowNs : ℤ)
  | received (state : NativeStatePacket)
  | accepted (packet : YahboomPacket) (receivedNs : ℤ)
  | computed (computation : PolicyComputation)
  | sent (packet : PolicyTargetPacket)

structure ClientState where
  shadow : LiveShadow
  command : Fin 3 → Double
  protection : Option ClientProtection
  receive : ReceiveState
  deliveredNs : ℤ := 0
  lastRawImuNs : ℤ := 0
  lastQuaternionNs : ℤ := 0
  lastStateSequence : ℤ := 0
  stateCount : ℕ := 0
  targetCount : ℕ := 0
  targetSequence : ℤ := 0
  profileStartNs : Option ℤ := none
  replayCenter : Option (Index → ℚ) := none
  clamps : ClampCounters := ConsecutiveClampWatchdog.initial
  errors : List String := []
  /-- How often the clock was read. -/
  readings : ℕ := 0
  log : List ClientEvent := []

namespace ClientState

def record (event : ClientEvent) (client : ClientState) : ClientState :=
  { client with log := client.log ++ [event] }

/-- `accept_imu`. -/
def acceptImu (packet : YahboomPacket) (receivedNs : ℤ) (client : ClientState) : ClientState :=
  let taken := (client.record (.accepted packet receivedNs))
  match packet with
  | .rawImu _ =>
      { taken with
        shadow := taken.shadow.updateImu packet
        lastRawImuNs := receivedNs }
  | .quaternion _ =>
      { taken with
        shadow := taken.shadow.updateImu packet
        lastQuaternionNs := receivedNs }
  | .euler _ => taken

/-- The packets that a drain has handed on go to `accept_imu`. -/
def acceptSince (before : ℕ) (client : ClientState) : ClientState :=
  (client.receive.accepted.drop before).foldl
    (fun client delivery => client.acceptImu delivery.packet delivery.receivedNs) client

def onShadow {α : Type} : Program LiveShadow String α → Program ClientState String α :=
  Program.zoom shadow fun shadow client => { client with shadow }

end ClientState

/-- What `recv` answers. -/
inductive StateMessage where
  | reset
  | failed (error : String)
  | payload (bytes : List UInt8)

/-- What `sendall` answers. -/
inductive SendAnswer where
  | sent
  | brokenPipe
  | failed (error : String)

/-- What the selector reports, with the answers to the calls that follow. -/
inductive ClientInput where
  | imu (answer : ImuAnswer)
  | state (message : StateMessage) (answer : ImuAnswer) (send : SendAnswer)

/-- A run with its settings; `clock` has the readings of the clock. -/
structure ClientRun extends ClientSetup where
  clock : ℕ → ℤ

namespace ClientRun

variable (run : ClientRun)

/-- `time.monotonic_ns`. -/
def monotonicNs : Program ClientState String ℤ := do
  let client ← Program.get
  Program.modify fun client =>
    { client.record (.reading (run.clock client.readings)) with readings := client.readings + 1 }
  return run.clock client.readings

/-- `drain_imu` with `accept_imu`. -/
def drainSerial (input : DrainInput) : Program ClientState String Unit := do
  let client ← Program.get
  let accept := Program.modify (ClientState.acceptSince client.receive.accepted.length)
  let drain := Program.zoom ClientState.receive (fun receive client => { client with receive })
    (drainImu input)
  Program.tryCatch drain fun error => do
    accept
    Program.throw error
  accept

/-- `drain` of the BNO055 sources. -/
def drainBno (error : Option String) (sample : Option BnoSample) :
    Program ClientState String Unit :=
  match error, sample with
  | some error, _ => Program.throw error
  | none, none => return ()
  | none, some sample => do
      let nowNs ← run.monotonicNs
      Program.ofExcept (requireFreshImu sample.readStartNs sample.readStartNs nowNs)
      let client ← Program.get
      Program.runIf (sample.readStartNs ≠ client.deliveredNs) do
        Program.forEach sample.packets fun packet =>
          Program.modify (ClientState.acceptImu packet sample.readStartNs)
        Program.modify fun client => { client with deliveredNs := sample.readStartNs }

/-- `update_imu`. -/
def updateImu : ImuAnswer → Program ClientState String Unit
  | .serial input => drainSerial input
  | .bno error sample => run.drainBno error sample

/-- The states of the motors in a packet. -/
def motorStates (state : NativeStatePacket) : Except String (Dictionary MotorReading) := do
  raiseIf (run.motorNames.length ≠ state.positionRad.length ∨
    run.motorNames.length ≠ state.velocityRadS.length) "zip() arguments differ in length"
  return run.motorNames.zip ((state.positionRad.zip state.velocityRadS).map fun reading =>
    ⟨(Binary64.number reading.1).value, (Binary64.number reading.2).value⟩)

/-- The part of the loop that takes a state from its bytes. -/
def takeState (payload : List UInt8) : Program ClientState String NativeStatePacket := do
  let state ← Program.ofExcept (NativeStatePacket.unpack payload)
  Program.throwIf (state.motorOrderHash ≠ run.motorHash) "native state motor-order hash mismatch"
  let client ← Program.get
  Program.throwIf (state.sequence ≤ client.lastStateSequence)
    "native state sequence did not increase"
  Program.modify fun client =>
    { client with
      lastStateSequence := state.sequence
      stateCount := client.stateCount + 1 }
  let motorStates ← Program.ofExcept (run.motorStates state)
  Program.modify fun client =>
    { client with shadow := { client.shadow with motorStates } }
  Program.modify (ClientState.record (.received state))
  return state

/-- The stamps of the last packets are checked against a new reading of the clock. -/
def requireFresh : Program ClientState String Unit := do
  let nowNs ← run.monotonicNs
  let client ← Program.get
  Program.ofExcept (requireFreshImu client.lastRawImuNs client.lastQuaternionNs nowNs)

/-! ## The computation -/

/-- The command of the profile. -/
def profileCommand (stampNs : ℤ) : Program ClientState String Unit :=
  match run.commandProfile with
  | none => return ()
  | some profile => do
      Program.modify fun client =>
        { client with profileStartNs := client.profileStartNs.or (some stampNs) }
      let client ← Program.get
      let elapsedS : ℚ := (stampNs - client.profileStartNs.getD stampNs : ℤ) / 10 ^ 9
      let (vx, _) ← Program.ofExcept (sampleStandWalkStop elapsedS profile)
      Program.modify fun client =>
        { client with command := ![.finite vx, .finite 0, .finite 0] }

/-- `infer_policy_target`. -/
def inferPolicyTarget (setup : ShadowSetup) (nowNs : ℤ) :
    Program LiveShadow String (ImpedanceTarget ℚ) := do
  let shadow ← Program.get
  Program.throwIf (setup.ready shadow = false)
    "complete motor and IMU state is required for policy inference"
  let inference ← setup.runPolicy nowNs
  return inference.target

/-- The target of a replayed trace around the first measured pose. -/
def replayTarget (target : ImpedanceTarget ℚ) (measured : Index → Double) :
    Program ClientState String (ImpedanceTarget ℚ) :=
  match run.actionReplay with
  | none => return target
  | some positionDelta => do
      Program.modify fun client =>
        { client with
          replayCenter := client.replayCenter.or (some fun joint => (measured joint).value) }
      let client ← Program.get
      let center := client.replayCenter.getD fun _ => 0
      let moved : ImpedanceTarget ℚ :=
        { position := fun joint => center joint + positionDelta client.targetCount joint
          velocity := fun _ => 0
          kp := target.kp
          kd := target.kd
          feedforward := fun _ => 0 }
      Program.ofExcept (JointImpedanceTarget.make moved.doubles)

/-- `require_position_within_limits`, without the details in the text. -/
def requirePositionWithinLimits (projector : ProtectedTargetProjector)
    (position : Index → Double) : Except String Unit := do
  raiseIf (∃ joint, (position joint).isFinite = false)
    "physical startup measured pose must be a finite 31-vector"
  raiseIf (∃ joint, (position joint).value < projector.lowerRad joint ∨
      projector.upperRad joint < (position joint).value)
    "physical startup measured pose is outside reviewed soft limits"

/-- `startup.apply` with `_startup_measured_position`. -/
def applyStartup (projected : ImpedanceTarget ℚ) (measured : Index → Double) :
    Program ClientProtection String (ImpedanceTarget ℚ) := do
  let protection ← Program.get
  match protection.startup with
  | none => return projected
  | some startup => do
      if startup.initialPositionRad.isNone then
        Program.ofExcept (requirePositionWithinLimits protection.projector measured)
      Program.zoom (fun _ => startup)
        (fun startup protection => { protection with startup := some startup })
        (PhysicalStartupRamp.apply projected measured)

/-- The projector and the startup ramp. -/
def protect (raw : ImpedanceTarget ℚ) (measured : Index → Double) :
    Program ClientState String ProcessedTarget := do
  let client ← Program.get
  match client.protection with
  | none => return { raw, projected := raw, target := raw }
  | some protection =>
      Program.zoom (fun _ => protection)
        (fun protection client => { client with protection := some protection }) do
          let projected ← Program.zoom ClientProtection.projector
            (fun projector protection => { protection with projector })
            (ProtectedTargetProjector.project raw)
          let target ← applyStartup projected measured
          return { raw, projected, target }

/-- The computation of a target. -/
def computeTarget (state : NativeStatePacket) : Program ClientState String ProcessedTarget := do
  let client ← Program.get
  let setup := { run.shadow with command := client.command }
  let input ← Program.ofExcept (setup.jointAndImuState state.monotonicNs client.shadow)
  let inferred ← ClientState.onShadow (inferPolicyTarget setup state.monotonicNs)
  let raw ← run.replayTarget inferred input.jointPosition
  protect raw input.jointPosition

/-- The packet of a target. -/
def targetPacket (sequence stampNs : ℤ) (state : NativeStatePacket) (target : ImpedanceTarget ℚ) :
    PolicyTargetPacket :=
  let floats := fun vector : Index → ℚ => List.ofFn fun joint => run.toFloat (vector joint)
  { sequence
    monotonicNs := stampNs
    jointOrderHash := run.jointHash
    sourceStateSequence := state.sequence
    positionRad := floats target.position
    velocityRadS := floats target.velocity
    kp := floats target.kp
    kd := floats target.kd
    feedforwardTorqueNm := floats target.feedforward }

/-- The watchdog looks at the positions before and after the projection. -/
def checkClamps (processed : ProcessedTarget) : Program ClientState String Unit :=
  match run.clampWatchdog with
  | none => return ()
  | some watchdog => fun client =>
      let tick : ClampTick :=
        { rawPositionRad := List.ofFn processed.raw.position
          projectedPositionRad := List.ofFn processed.projected.position }
      match watchdog.update tick client.clamps with
      | (.done (), clamps) => (.done (), { client with clamps })
      | (.thrown error, clamps) => (.thrown (run.clampText error), { client with clamps })
      | (.unfinished, clamps) => (.unfinished, { client with clamps })

/-! ## The loop -/

/-- The computation of a round, in the log with the packets it used. -/
def compute (state : NativeStatePacket) : Program ClientState String PolicyComputation := do
  let client ← Program.get
  let processed ← run.computeTarget state
  let computation : PolicyComputation :=
    { state
      raw := client.shadow.latestRawImu.getD 0
      rawNs := client.lastRawImuNs
      quaternion := client.shadow.latestQuaternion.getD 0
      quaternionNs := client.lastQuaternionNs
      processed }
  Program.modify (ClientState.record (.computed computation))
  return computation

/-- The end of a round; the answer says whether the client goes on. -/
def sendTarget (packet : PolicyTargetPacket) (send : SendAnswer) :
    Program ClientState String Bool := do
  run.requireFresh
  let _ ← Program.ofExcept packet.pack
  match send with
  | .sent => do
      Program.modify (ClientState.record (.sent packet))
      Program.modify fun client => { client with targetCount := client.targetCount + 1 }
      return true
  | .brokenPipe => do
      let client ← Program.get
      Program.throwIf (client.targetCount = 0)
        "native IPC disconnected before accepting a target"
      return false
  | .failed error => Program.throw error

/-- What follows a state once the shadow is ready. -/
def answerState (state : NativeStatePacket) (send : SendAnswer) :
    Program ClientState String Bool := do
  run.requireFresh
  run.profileCommand state.monotonicNs
  let computation ← run.compute state
  Program.modify fun client => { client with targetSequence := client.targetSequence + 1 }
  let client ← Program.get
  let stampNs ← run.monotonicNs
  let packet := run.targetPacket client.targetSequence stampNs state computation.processed.target
  run.requireFresh
  run.checkClamps computation.processed
  run.sendTarget packet send

/-- What the loop does with a state message. -/
def handleState (payload : List UInt8) (answer : ImuAnswer) (send : SendAnswer) :
    Program ClientState String Bool := do
  let state ← run.takeState payload
  run.updateImu answer
  let client ← Program.get
  if run.shadow.ready client.shadow = true then run.answerState state send
  else return true

/-- A round of the loop. -/
def handle : ClientInput → Program ClientState String Bool
  | .imu answer => do
      run.updateImu answer
      return true
  | .state .reset _ _ => do
      let client ← Program.get
      Program.throwIf (client.stateCount = 0) "native IPC disconnected before publishing a state"
      return false
  | .state (.failed error) _ _ => Program.throw error
  | .state (.payload []) _ _ => return false
  | .state (.payload bytes) answer send => run.handleState bytes answer send

/-- The loop over what the selector reports. -/
def loop : List ClientInput → Program ClientState String Unit
  | [] => return ()
  | input :: rest => do
      let running ← run.handle input
      if running = true then loop rest else return ()

/-- The session with `_capture_runtime_errors`. -/
def session (inputs : List ClientInput) : Program ClientState String Unit :=
  Program.tryCatch (run.loop inputs) fun error =>
    Program.modify fun client => { client with errors := client.errors ++ [error] }

/-- The client before its first message. -/
def initial (protection : Option ClientProtection) (decoder : YahboomStreamDecoder) : ClientState :=
  { shadow := run.shadow.initial
    command := run.shadow.command
    protection
    receive := { decoder } }

end ClientRun

end SpriteRuntime
