import SpriteRuntime.Native.TargetRecord

/-!
# Which messages are accepted

`ValidMessage` says what a target message has to be, without the checks of
`drain_target_packets`.  The checks are exact on messages that fit the receive
buffer.  The buffer has the size of a packet, so the rest of a longer message is cut
off before anything could notice it.
-/

namespace SpriteRuntime

open Foundation

/-- The five values of a joint are within the joint's envelope. -/
structure TargetPacket.Within (packet : TargetPacket) (joint : Index) (limit : JointSafety) :
    Prop where
  position : limit.positionMin - tolerance ≤ (packet.positionRad joint).value ∧
    (packet.positionRad joint).value ≤ limit.positionMax + tolerance
  velocity : |(packet.velocityRadS joint).value| ≤ limit.velocityMax + tolerance
  kp : (packet.kp joint).value ≤ limit.kpMax + tolerance
  kd : (packet.kd joint).value ≤ limit.kdMax + tolerance
  feedforwardTorque : |(packet.feedforwardTorqueNm joint).value| ≤
    limit.feedforwardTorqueMax + tolerance

/-- A packet that may become the latest target; its age is an integer. -/
structure ValidTarget (policyJointHash : ℕ) (jointSafety : JointSafetyTable) (now : ℤ)
    (packet : TargetPacket) (ipc : IpcSocket) : Prop where
  magic : packet.magic = magicBytes
  version : packet.version = 1
  kind : packet.kind = 2
  hash : packet.jointOrderHash = policyJointHash
  newer : ipc.lastTargetSequence < packet.sequence
  notAhead : packet.sourceStateSequence ≤ ipc.stateSequence
  atMostFiveBehind : ipc.stateSequence ≤ packet.sourceStateSequence + 5
  notFuture : -5000000 ≤ now - packet.monotonicNs
  notStale : now - packet.monotonicNs ≤ 100000000
  finite : ∀ joint, packet.AllFinite joint
  gains : ∀ joint, 0 ≤ (packet.kp joint).value ∧ 0 ≤ (packet.kd joint).value ∧
    (packet.kd joint).value ≤ 5
  envelope : ∀ table, jointSafety = some table → ∀ joint, packet.Within joint (table joint)

/-- A message that is exactly one valid packet. -/
def ValidMessage (policyJointHash : ℕ) (jointSafety : JointSafetyTable) (now : ℤ)
    (message : List UInt8) (ipc : IpcSocket) : Prop :=
  message.length = targetPacketSize ∧
    ValidTarget policyJointHash jointSafety now (.ofBytes message) ipc

section Checks

variable {policyJointHash : ℕ} {jointSafety : JointSafetyTable} {now : ℤ}
  {packet : TargetPacket} {ipc : IpcSocket}

theorem within_iff {joint : Index} {limit : JointSafety} :
    ¬packet.EnvelopeFailure joint limit ↔ packet.Within joint limit := by
  unfold TargetPacket.EnvelopeFailure
  simp only [not_or, not_lt]
  constructor
  · rintro ⟨lower, upper, velocity, kp, kd, torque⟩
    exact ⟨⟨lower, upper⟩, velocity, kp, kd, torque⟩
  · rintro ⟨⟨lower, upper⟩, velocity, kp, kd, torque⟩
    exact ⟨lower, upper, velocity, kp, kd, torque⟩

/-- The joint loop finds nothing exactly when the values are in range. -/
theorem jointFailure_eq_none {joint : Index} :
    jointFailure jointSafety packet joint = none ↔
      packet.AllFinite joint ∧
        (0 ≤ (packet.kp joint).value ∧ 0 ≤ (packet.kd joint).value ∧
          (packet.kd joint).value ≤ 5) ∧
        ∀ table, jointSafety = some table → packet.Within joint (table joint) := by
  have numeric : ¬packet.NumericGainFailure joint ↔
      packet.AllFinite joint ∧ 0 ≤ (packet.kp joint).value ∧
        0 ≤ (packet.kd joint).value ∧ (packet.kd joint).value ≤ 5 := by
    simp only [TargetPacket.NumericGainFailure, not_or, not_not, not_lt]
  unfold jointFailure
  by_cases failure : packet.NumericGainFailure joint
  · have excluded := mt numeric.mpr (not_not.mpr failure)
    simp only [failure, if_true]
    constructor
    · intro impossible
      cases impossible
    · rintro ⟨finite, gains, _⟩
      exact absurd ⟨finite, gains⟩ excluded
  · obtain ⟨finite, gains⟩ := numeric.mp failure
    simp only [failure, if_false]
    cases jointSafety with
    | none => simp [finite, gains]
    | some table =>
        by_cases outside : packet.EnvelopeFailure joint (table joint)
        · have excluded := mt within_iff.mpr (not_not.mpr outside)
          simp [outside, excluded]
        · have within := within_iff.mp outside
          simp [outside, finite, gains, within]

/-- The checks of the loop are exact for a clock that is not about to wrap. -/
theorem acceptable_iff (nonneg : 0 ≤ now) (early : now < 2 ^ 62)
    (lower : -2 ^ 63 ≤ packet.monotonicNs) (upper : packet.monotonicNs < 2 ^ 63)
    {received : ℕ} :
    Acceptable policyJointHash jointSafety now received packet ipc ↔
      received = targetPacketSize ∧
        ValidTarget policyJointHash jointSafety now packet ipc := by
  constructor
  · intro acceptable
    have age := wrap64_sub_eq nonneg early lower upper
      ((by norm_num : (-2 ^ 62 : ℤ) ≤ -5000000).trans acceptable.notFuture)
    have joints joint := jointFailure_eq_none.mp (acceptable.joints joint)
    have recent := acceptable.recent
    refine ⟨acceptable.size, ?_⟩
    constructor
    · exact acceptable.magic
    · exact acceptable.version
    · exact acceptable.kind
    · exact acceptable.hash
    · exact acceptable.sequence
    · exact acceptable.published
    · omega
    · exact age ▸ acceptable.notFuture
    · exact age ▸ acceptable.notStale
    · exact fun joint => (joints joint).1
    · exact fun joint => (joints joint).2.1
    · exact fun table loaded joint => (joints joint).2.2 table loaded
  · rintro ⟨size, valid⟩
    have notFuture := valid.notFuture
    have notStale := valid.notStale
    have recent := valid.atMostFiveBehind
    have age : wrap64 (now - packet.monotonicNs) = now - packet.monotonicNs := by
      apply wrap64_eq_self
      · omega
      · omega
    constructor
    · exact size
    · exact valid.magic
    · exact valid.version
    · exact valid.kind
    · exact valid.hash
    · exact valid.newer
    · exact valid.notAhead
    · omega
    · rw [age]
      exact notFuture
    · rw [age]
      exact notStale
    · intro joint
      apply jointFailure_eq_none.mpr
      exact ⟨valid.finite joint, valid.gains joint, fun table loaded =>
        valid.envelope table loaded joint⟩

/-- A message is accepted when the part of it that fits the buffer is valid. -/
theorem receiveTarget_isOk_iff (nonneg : 0 ≤ now) (early : now < 2 ^ 62)
    {message : List UInt8} :
    (∃ result, receiveTarget policyJointHash jointSafety now message ipc = .ok result) ↔
      ValidMessage policyJointHash jointSafety now (message.take targetPacketSize) ipc := by
  obtain ⟨lower, upper⟩ := ofBytes_stamp (message.take targetPacketSize)
  unfold ValidMessage
  rw [List.length_take, ← acceptable_iff nonneg early lower upper]
  constructor
  · rintro ⟨result, accepted⟩
    exact (receiveTarget_eq_ok.mp accepted).1
  · exact fun acceptable => ⟨_, receiveTarget_eq_ok.mpr ⟨acceptable, rfl⟩⟩

end Checks

section Round

variable {world : World} {policyJointHash : ℕ} {jointSafety : JointSafetyTable} {now : ℤ}
  {machine : Machine} {message : List UInt8}

/-- A round that receives a message accepts it when its buffer holds a valid packet, and
otherwise leaves the bookkeeping as it was. -/
theorem drainTargetRound_accepts_iff (nonneg : 0 ≤ now) (early : now < 2 ^ 62)
    (arrived : world.recv machine.calls.recv = .message message) :
    let run := drainTargetRound world policyJointHash jointSafety now machine
    (run.1.isDone = true ↔ ValidMessage policyJointHash jointSafety now
        (message.take targetPacketSize) machine.ipc) ∧
      (run.1.isDone = false → run.2.ipc = machine.ipc) := by
  rw [← receiveTarget_isOk_iff nonneg early, drainTargetRound_of_message arrived]
  cases taken : receiveTarget policyJointHash jointSafety now message machine.ipc with
  | error what => simp [Outcome.isDone]
  | ok ipc => simp [Outcome.isDone]

/-- Acceptance is exact and atomic for a message if and only if the message does not hide
more bytes behind a valid packet. -/
theorem drainTargetRound_exact_iff (nonneg : 0 ≤ now) (early : now < 2 ^ 62)
    (arrived : world.recv machine.calls.recv = .message message) :
    (((drainTargetRound world policyJointHash jointSafety now machine).1.isDone = true ↔
          ValidMessage policyJointHash jointSafety now message machine.ipc) ∧
        ((drainTargetRound world policyJointHash jointSafety now machine).1.isDone = false →
          (drainTargetRound world policyJointHash jointSafety now machine).2.ipc =
            machine.ipc)) ↔
      ¬(targetPacketSize < message.length ∧ ValidMessage policyJointHash jointSafety now
        (message.take targetPacketSize) machine.ipc) := by
  have round := @drainTargetRound_accepts_iff world policyJointHash jointSafety now machine
    message nonneg early arrived
  obtain ⟨accepts, atomic⟩ := round
  rw [accepts]
  by_cases long : targetPacketSize < message.length
  · have invalid : ¬ValidMessage policyJointHash jointSafety now message machine.ipc :=
      fun valid => long.ne' valid.1
    constructor
    · intro exact hidden
      exact invalid (exact.1.mp hidden.2)
    · intro clean
      have notHidden := fun hidden => clean ⟨long, hidden⟩
      constructor
      · constructor
        · exact fun hidden => absurd hidden notHidden
        · exact fun valid => absurd valid invalid
      · exact atomic
  · rw [List.take_of_length_le (not_lt.mp long)]
    constructor
    · exact fun _ hidden => long hidden.1
    · exact fun _ => ⟨Iff.rfl, atomic⟩

end Round

/-- A world whose peer sends one message over and over. -/
def repeatingWorld (message : List UInt8) : World :=
  { quietWorld with recv := fun _ => .message message }

/-- A packet of exactly the right size is judged as a whole. -/
theorem drainTargetRound_exact_iff_stateless :
    (((drainTargetRound (repeatingWorld statelessTarget) 1 none 0
            Machine.initial).1.isDone = true ↔
          ValidMessage 1 none 0 statelessTarget Machine.initial.ipc) ∧
        ((drainTargetRound (repeatingWorld statelessTarget) 1 none 0
            Machine.initial).1.isDone = false →
          (drainTargetRound (repeatingWorld statelessTarget) 1 none 0
            Machine.initial).2.ipc = Machine.initial.ipc)) := by
  apply (drainTargetRound_exact_iff (le_refl 0) (by norm_num) rfl).mpr
  intro hidden
  have fits : ¬targetPacketSize < statelessTarget.length := by decide +kernel
  exact fits hidden.1

/-- One more byte behind a valid packet is not noticed. -/
theorem drainTargetRound_accepts_overlong :
    (drainTargetRound (repeatingWorld (statelessTarget ++ [0])) 1 none 0
        Machine.initial).1.isDone = true ∧
      ¬ValidMessage 1 none 0 (statelessTarget ++ [0]) Machine.initial.ipc := by
  constructor
  · decide +kernel
  · intro valid
    have size := valid.1
    revert size
    decide +kernel

end SpriteRuntime
