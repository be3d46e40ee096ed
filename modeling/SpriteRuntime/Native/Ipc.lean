import SpriteRuntime.Foundation.Wire
import SpriteRuntime.Native.Kinematics
import SpriteRuntime.Native.Mit

/-!
# The policy IPC of the controller

State packets go to the policy, target packets come back.  A target is accepted
by `acceptTarget`, the body of the loop of `drain_target_packets` after its
`recv`; nothing of the socket's bookkeeping changes before the last check has
passed.
-/

namespace SpriteRuntime

open Foundation

/-- The four bytes `SPRT`. -/
def magicBytes : List UInt8 := [0x53, 0x50, 0x52, 0x54]

def kIpcVersion : ℕ := 1

def kStateKind : ℕ := 1

def kTargetKind : ℕ := 2

def kTargetTimeoutNs : ℤ := 100000000

/-- `sizeof(TargetPacket)`. -/
def targetPacketSize : ℕ := 1280

structure StatePacket where
  magic : List UInt8
  version : ℕ
  kind : ℕ
  sequence : ℕ
  monotonicNs : ℤ
  motorOrderHash : ℕ
  positionRad : Index → ℚ
  velocityRadS : Index → ℚ

structure TargetPacket where
  magic : List UInt8
  version : ℕ
  kind : ℕ
  sequence : ℕ
  monotonicNs : ℤ
  jointOrderHash : ℕ
  sourceStateSequence : ℕ
  positionRad : Index → Double
  velocityRadS : Index → Double
  kp : Index → Double
  kd : Index → Double
  feedforwardTorqueNm : Index → Double

namespace TargetPacket

/-- The packet `TargetPacket packet{}`. -/
def zero : TargetPacket :=
  { magic := [0, 0, 0, 0]
    version := 0
    kind := 0
    sequence := 0
    monotonicNs := 0
    jointOrderHash := 0
    sourceStateSequence := 0
    positionRad := fun _ => .finite 0
    velocityRadS := fun _ => .finite 0
    kp := fun _ => .finite 0
    kd := fun _ => .finite 0
    feedforwardTorqueNm := fun _ => .finite 0 }

/-- The packed structure that the bytes of a buffer hold. -/
def ofBytes (buffer : List UInt8) : TargetPacket :=
  { magic := buffer.take 4
    version := unsignedField buffer 4 2
    kind := unsignedField buffer 6 2
    sequence := unsignedField buffer 8 8
    monotonicNs := signedField buffer 16
    jointOrderHash := unsignedField buffer 24 8
    sourceStateSequence := unsignedField buffer 32 8
    positionRad := fun joint => doubleField buffer (40 + 8 * joint)
    velocityRadS := fun joint => doubleField buffer (40 + 8 * (31 + joint))
    kp := fun joint => doubleField buffer (40 + 8 * (62 + joint))
    kd := fun joint => doubleField buffer (40 + 8 * (93 + joint))
    feedforwardTorqueNm := fun joint =>
      doubleField buffer (40 + 8 * (124 + joint)) }

/-- The five values of a joint are finite. -/
def AllFinite (packet : TargetPacket) (joint : Index) : Prop :=
  (packet.positionRad joint).isFinite ∧ (packet.velocityRadS joint).isFinite ∧
    (packet.kp joint).isFinite ∧ (packet.kd joint).isFinite ∧
    (packet.feedforwardTorqueNm joint).isFinite

instance (packet : TargetPacket) (joint : Index) : Decidable (packet.AllFinite joint) := by
  unfold AllFinite
  infer_instance

/-- The numeric and gain check of one joint. -/
def NumericGainFailure (packet : TargetPacket) (joint : Index) : Prop :=
  ¬packet.AllFinite joint ∨
    (packet.kp joint).value < 0 ∨ (packet.kd joint).value < 0 ∨
    5 < (packet.kd joint).value

instance (packet : TargetPacket) (joint : Index) :
    Decidable (packet.NumericGainFailure joint) := by
  unfold NumericGainFailure
  infer_instance

/-- The envelope check of one joint against its row of the safety table. -/
def EnvelopeFailure (packet : TargetPacket) (joint : Index) (limit : JointSafety) :
    Prop :=
  (packet.positionRad joint).value < limit.positionMin - tolerance ∨
    limit.positionMax + tolerance < (packet.positionRad joint).value ∨
    limit.velocityMax + tolerance < |(packet.velocityRadS joint).value| ∨
    limit.kpMax + tolerance < (packet.kp joint).value ∨
    limit.kdMax + tolerance < (packet.kd joint).value ∨
    limit.feedforwardTorqueMax + tolerance <
      |(packet.feedforwardTorqueNm joint).value|

instance (packet : TargetPacket) (joint : Index) (limit : JointSafety) :
    Decidable (packet.EnvelopeFailure joint limit) := by
  unfold EnvelopeFailure
  infer_instance

end TargetPacket

/-- The fields of `IpcSocket` other than its path and descriptors.  The
sequence counters are 64 bits wide in the source; a run publishes at most one
state for every 40 slots and ends after 120 seconds, so they never wrap. -/
structure IpcSocket where
  stateSequence : ℕ := 0
  lastTargetSequence : ℕ := 0
  lastTargetNs : ℤ := 0
  targetCount : ℕ := 0
  maximumTargetAgeMs : ℚ := 0
  latestTarget : TargetPacket := .zero
  hasTarget : Bool := false
  motorPreviewCount : ℕ := 0

/-- A joint safety table, or none when no file was given. -/
abbrev JointSafetyTable := Option (Index → JointSafety)

/-- The error that the joint loop of `drain_target_packets` throws at a joint. -/
def jointFailure (jointSafety : JointSafetyTable) (packet : TargetPacket)
    (joint : Index) : Option String :=
  if packet.NumericGainFailure joint then
    some "policy IPC target numeric/gain invariant failed"
  else
    match jointSafety with
    | none => none
    | some table =>
        if packet.EnvelopeFailure joint (table joint) then
          some ("policy IPC protected target envelope failed at joint " ++
            (table joint).name)
        else none

def abiFailureText : String := "policy IPC target ABI/order invariant failed"

def sequenceFailureText : String := "policy IPC target sequence invariant failed"

def timestampFailureText : String :=
  "policy IPC target timestamp is future or stale"

/-- The bookkeeping for an accepted packet. -/
def IpcSocket.latch (ipc : IpcSocket) (packet : TargetPacket) (ageNs : ℤ) : IpcSocket :=
  { ipc with
    lastTargetSequence := packet.sequence
    lastTargetNs := packet.monotonicNs
    latestTarget := packet
    hasTarget := true
    targetCount := ipc.targetCount + 1
    maximumTargetAgeMs := max ipc.maximumTargetAgeMs (ageNs / 1000000) }

/-- The checks on a received packet, in the order of the source, and the update
of the bookkeeping after the last of them.  `received` is what `recv`
returned. -/
def acceptTarget (policyJointHash : ℕ) (jointSafety : JointSafetyTable)
    (now : ℤ) (received : ℕ) (packet : TargetPacket) (ipc : IpcSocket) :
    Except String IpcSocket :=
  if received ≠ targetPacketSize ∨ packet.magic ≠ magicBytes ∨
      packet.version ≠ kIpcVersion ∨ packet.kind ≠ kTargetKind ∨
      packet.jointOrderHash ≠ policyJointHash then
    .error abiFailureText
  else if packet.sequence ≤ ipc.lastTargetSequence ∨
      ipc.stateSequence < packet.sourceStateSequence ∨
      5 < ipc.stateSequence - packet.sourceStateSequence then
    .error sequenceFailureText
  else
    let ageNs := wrap64 (now - packet.monotonicNs)
    if ageNs < -5000000 ∨ kTargetTimeoutNs < ageNs then
      .error timestampFailureText
    else
      match (List.finRange kJointCount).findSome? (jointFailure jointSafety packet) with
      | some what => .error what
      | none => .ok (ipc.latch packet ageNs)

/-- What a packet that passes all checks satisfies. -/
structure Acceptable (policyJointHash : ℕ) (jointSafety : JointSafetyTable) (now : ℤ)
    (received : ℕ) (packet : TargetPacket) (ipc : IpcSocket) : Prop where
  size : received = targetPacketSize
  magic : packet.magic = magicBytes
  version : packet.version = kIpcVersion
  kind : packet.kind = kTargetKind
  hash : packet.jointOrderHash = policyJointHash
  sequence : ipc.lastTargetSequence < packet.sequence
  published : packet.sourceStateSequence ≤ ipc.stateSequence
  recent : ipc.stateSequence - packet.sourceStateSequence ≤ 5
  notFuture : -5000000 ≤ wrap64 (now - packet.monotonicNs)
  notStale : wrap64 (now - packet.monotonicNs) ≤ kTargetTimeoutNs
  joints : ∀ joint, jointFailure jointSafety packet joint = none

theorem Acceptable.allFinite {policyJointHash : ℕ} {jointSafety : JointSafetyTable} {now : ℤ}
    {received : ℕ} {packet : TargetPacket} {ipc : IpcSocket}
    (acceptable : Acceptable policyJointHash jointSafety now received packet ipc)
    (joint : Index) : packet.AllFinite joint := by
  have passed := acceptable.joints joint
  unfold jointFailure at passed
  split at passed
  · cases passed
  next numeric =>
      by_contra infinite
      exact numeric (.inl infinite)

theorem acceptTarget_eq_ok {policyJointHash : ℕ} {jointSafety : JointSafetyTable}
    {now : ℤ} {received : ℕ} {packet : TargetPacket} {ipc result : IpcSocket} :
    acceptTarget policyJointHash jointSafety now received packet ipc = .ok result ↔
      Acceptable policyJointHash jointSafety now received packet ipc ∧
        ipc.latch packet (wrap64 (now - packet.monotonicNs)) = result := by
  unfold acceptTarget
  constructor
  · intro accepted
    split at accepted
    · cases accepted
    next abi =>
        split at accepted
        · cases accepted
        next sequence =>
            dsimp only at accepted
            split at accepted
            · cases accepted
            next timestamp =>
                split at accepted
                · cases accepted
                next joints =>
                    simp only [not_or, not_not] at abi
                    simp only [not_or, not_le, not_lt] at sequence timestamp
                    simp only [List.findSome?_eq_none_iff, List.mem_finRange,
                      forall_const] at joints
                    obtain ⟨size, magic, version, kind, hash⟩ := abi
                    exact ⟨⟨size, magic, version, kind, hash, sequence.1, sequence.2.1,
                      sequence.2.2, timestamp.1, timestamp.2, joints⟩,
                      Except.ok.inj accepted⟩
  · rintro ⟨acceptable, rfl⟩
    have joints : (List.finRange kJointCount).findSome? (jointFailure jointSafety packet) =
        none := by
      simp [acceptable.joints]
    rw [if_neg (by simp [acceptable.size, acceptable.magic, acceptable.version,
        acceptable.kind, acceptable.hash]),
      if_neg (by simp [acceptable.sequence, acceptable.published, acceptable.recent])]
    dsimp only
    rw [if_neg (by simp [acceptable.notFuture, acceptable.notStale]), joints]

/-- The round of `drain_target_packets` for a message: `recv` copies the bytes that
fit the packet, returns their number, and the rest of the message is lost. -/
def receiveTarget (policyJointHash : ℕ) (jointSafety : JointSafetyTable) (now : ℤ)
    (message : List UInt8) (ipc : IpcSocket) : Except String IpcSocket :=
  let received := min targetPacketSize message.length
  if received = 0 then .error "policy IPC client disconnected"
  else
    acceptTarget policyJointHash jointSafety now received
      (.ofBytes (message.take targetPacketSize)) ipc

theorem receiveTarget_eq_ok {policyJointHash : ℕ} {jointSafety : JointSafetyTable}
    {now : ℤ} {message : List UInt8} {ipc result : IpcSocket} :
    receiveTarget policyJointHash jointSafety now message ipc = .ok result ↔
      let packet := TargetPacket.ofBytes (message.take targetPacketSize)
      Acceptable policyJointHash jointSafety now (min targetPacketSize message.length)
          packet ipc ∧
        ipc.latch packet (wrap64 (now - packet.monotonicNs)) = result := by
  unfold receiveTarget
  dsimp only
  split
  next empty =>
      constructor
      · intro accepted
        cases accepted
      · rintro ⟨acceptable, _⟩
        have size := acceptable.size
        rw [empty] at size
        cases size
  next some => exact acceptTarget_eq_ok

/-- The packet that `send_state_packet` publishes. -/
def statePacket (ipc : IpcSocket) (motors : Index → MotorState) (motorHash : ℕ)
    (now : ℤ) : StatePacket :=
  { magic := magicBytes
    version := kIpcVersion
    kind := kStateKind
    sequence := ipc.stateSequence + 1
    monotonicNs := now
    motorOrderHash := motorHash
    positionRad := fun motor => (motors motor).lastPosition
    velocityRadS := fun motor => (motors motor).lastVelocity }

end SpriteRuntime
