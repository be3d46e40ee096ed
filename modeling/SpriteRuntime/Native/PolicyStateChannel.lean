import SpriteRuntime.Native.Ipc
import SpriteRuntime.Native.PolicyProtection

/-!
# The policy end of the IPC

`PolicyStateChannel` receives the states of the controller and sends targets back.  A
message is the packed structure in its bytes, and its numbers are finite because the
controller publishes no others.  What the socket does is an argument of each call.
-/

namespace SpriteRuntime

open Foundation

structure PolicyState where
  sequence : ℕ
  stamp : ℕ
  position : Index → ℚ
  velocity : Index → ℚ

/-- The unsigned 64-bit number with the bits of a signed one. -/
def unsigned64 (value : ℤ) : ℕ := (value % 2 ^ 64).toNat

/-- `state_fresh`. -/
def stateFresh (state : PolicyState) (now maximumAge : ℕ) : Except String Unit :=
  raiseIf (maximumAge = 0 ∨ state.stamp = 0 ∨ now < state.stamp ∨ maximumAge < now - state.stamp)
    "state timestamp stale/future"

/-- `decode_state`. -/
def decodeState (packet : StatePacket) (hash previous now age : ℕ) : Except String PolicyState := do
  raiseIf (packet.magic ≠ magicBytes ∨ packet.version ≠ kIpcVersion ∨ packet.kind ≠ kStateKind ∨
    packet.motorOrderHash ≠ hash) "state ABI/order mismatch"
  let state : PolicyState :=
    { sequence := packet.sequence
      stamp := unsigned64 packet.monotonicNs
      position := packet.positionRad
      velocity := packet.velocityRadS }
  raiseIf (state.sequence ≤ previous) "state sequence did not increase"
  stateFresh state now age
  return state

/-- `encode_target`. -/
def encodeTarget (target : ImpedanceTarget Double) (sequence stamp hash source : ℕ) :
    Except String TargetPacket := do
  let target ← validateTarget target
  raiseIf (sequence = 0 ∨ stamp = 0 ∨ 2 ^ 63 ≤ stamp ∨ source = 0) "invalid target metadata"
  let numbers := target.doubles
  return { magic := magicBytes
           version := kIpcVersion
           kind := kTargetKind
           sequence
           monotonicNs := stamp
           jointOrderHash := hash
           sourceStateSequence := source
           positionRad := numbers.position
           velocityRadS := numbers.velocity
           kp := numbers.kp
           kd := numbers.kd
           feedforwardTorqueNm := numbers.feedforward }

/-- The sequence counters are 64 bits wide in the source and grow by one a message. -/
structure PolicyStateChannel where
  motorHash : ℕ
  jointHash : ℕ
  maxAge : ℕ
  lastState : ℕ := 0
  lastTarget : ℕ := 0
  failed : Bool := false

/-- What waiting for a message comes to. -/
inductive Arrival where
  | timeout
  | disconnected
  | message (packet : StatePacket)

namespace PolicyStateChannel

/-- An exception in the body latches the fault. -/
def latching {α : Type} (body : Program PolicyStateChannel String α) :
    Program PolicyStateChannel String α :=
  Program.tryCatch body fun error => do
    Program.modify fun channel => { channel with failed := true }
    Program.throw error

/-- `receive`. -/
def receive (arrival : Arrival) (now : ℕ) : Program PolicyStateChannel String PolicyState := do
  let channel ← Program.get
  Program.throwIf (channel.failed = true) "state channel fault latched"
  latching <| match arrival with
    | .timeout => Program.throw "state receive timeout/error"
    | .disconnected => Program.throw "state disconnected/receive failed"
    | .message packet => do
        let state ← Program.ofExcept
          (decodeState packet channel.motorHash channel.lastState now channel.maxAge)
        Program.modify fun channel => { channel with lastState := state.sequence }
        return state

/-- `send`, with the packet that it writes; `delivered` is the answer of the socket. -/
def send (target : ImpedanceTarget Double) (state : PolicyState) (now : ℕ) (delivered : Bool) :
    Program PolicyStateChannel String TargetPacket := do
  let channel ← Program.get
  Program.throwIf (channel.failed = true) "state channel fault latched"
  latching do
    Program.throwIf (state.sequence ≠ channel.lastState) "target source state mismatch"
    Program.ofExcept (stateFresh state now channel.maxAge)
    let packet ← Program.ofExcept
      (encodeTarget target (channel.lastTarget + 1) now channel.jointHash state.sequence)
    Program.throwIf (delivered = false) "target send failed/backpressure"
    Program.modify fun channel => { channel with lastTarget := channel.lastTarget + 1 }
    return packet

variable {channel next : PolicyStateChannel}

/-- When a latching body returns. -/
theorem latching_eq_done_iff {α : Type} {body : Program PolicyStateChannel String α} {value : α} :
    latching body channel = (.done value, next) ↔ body channel = (.done value, next) := by
  unfold latching Program.tryCatch
  rcases body channel with ⟨outcome, middle⟩
  cases outcome with
  | done result => simp
  | thrown error => simp [Program.bind_apply, Program.modify, Program.throw]
  | unfinished => simp

/-- When `receive` returns, and with what. -/
theorem receive_eq_done_iff {arrival : Arrival} {now : ℕ} {state : PolicyState} :
    receive arrival now channel = (.done state, next) ↔
      channel.failed = false ∧ ∃ packet, arrival = .message packet ∧
        decodeState packet channel.motorHash channel.lastState now channel.maxAge = .ok state ∧
        next = { channel with lastState := state.sequence } := by
  unfold receive
  simp only [Program.bind_eq_done_iff, Program.get_eq_done_iff, Program.throwIf_eq_done_iff,
    and_assoc, exists_and_left, exists_eq_left, exists_const, latching_eq_done_iff,
    Bool.not_eq_true]
  apply and_congr_right
  intro _
  cases arrival with
  | timeout => simp [Program.throw]
  | disconnected => simp [Program.throw]
  | message packet =>
      simp only [Program.bind_eq_done_iff, Program.ofExcept_eq_done_iff,
        Program.modify_eq_done_iff, Program.pure_eq_done_iff, Arrival.message.injEq, exists_eq_left',
        and_assoc, exists_and_left, exists_eq_left, exists_const]
      constructor
      · rintro ⟨_, decoded, rfl, rfl⟩
        exact ⟨decoded, rfl⟩
      · rintro ⟨decoded, rfl⟩
        exact ⟨state, decoded, rfl, rfl⟩

/-- When `send` returns, and with what. -/
theorem send_eq_done_iff {target : ImpedanceTarget Double} {state : PolicyState} {now : ℕ}
    {delivered : Bool} {packet : TargetPacket} :
    send target state now delivered channel = (.done packet, next) ↔
      channel.failed = false ∧ state.sequence = channel.lastState ∧
        stateFresh state now channel.maxAge = .ok () ∧
        encodeTarget target (channel.lastTarget + 1) now channel.jointHash state.sequence =
          .ok packet ∧
        delivered = true ∧ next = { channel with lastTarget := channel.lastTarget + 1 } := by
  unfold send
  simp only [Program.bind_eq_done_iff, Program.get_eq_done_iff, Program.throwIf_eq_done_iff,
    and_assoc, exists_and_left, exists_eq_left, exists_const, latching_eq_done_iff,
    Bool.not_eq_true, Program.ofExcept_eq_done_iff, Program.modify_eq_done_iff,
    Program.pure_eq_done_iff, not_not, Bool.not_eq_false]
  constructor
  · rintro ⟨healthy, source, ⟨⟩, fresh, _, encoded, sent, rfl, rfl⟩
    exact ⟨healthy, source, fresh, encoded, sent, rfl⟩
  · rintro ⟨healthy, source, fresh, encoded, sent, rfl⟩
    exact ⟨healthy, source, (), fresh, packet, encoded, sent, rfl, rfl⟩

/-- A call of `receive` that does not return leaves nothing but the fault. -/
theorem receive_faults {arrival : Arrival} {now : ℕ}
    (rejected : (receive arrival now channel).1.isDone = false) :
    (receive arrival now channel).2 = { channel with failed := true } := by
  cases faulted : channel.failed with
  | true =>
      simp only [receive, Program.bind_apply, Program.get_apply, Program.throwIf, faulted, if_true,
        Program.throw_apply]
      rw [← faulted]
  | false =>
      cases arrival with
      | timeout =>
          simp [receive, latching, Program.tryCatch, Program.bind_apply, Program.throwIf, faulted]
      | disconnected =>
          simp [receive, latching, Program.tryCatch, Program.bind_apply, Program.throwIf, faulted]
      | message packet =>
          cases decoded : decodeState packet channel.motorHash channel.lastState now
              channel.maxAge with
          | error what =>
              simp [receive, latching, Program.tryCatch, Program.bind_apply, Program.throwIf,
                faulted, decoded, Program.ofExcept]
          | ok state =>
              have returned := receive_eq_done_iff.mpr ⟨faulted, packet, rfl, decoded, rfl⟩
              rw [returned] at rejected
              cases rejected

/-- A call of `send` that does not return leaves nothing but the fault. -/
theorem send_faults {target : ImpedanceTarget Double} {state : PolicyState} {now : ℕ}
    {delivered : Bool} (rejected : (send target state now delivered channel).1.isDone = false) :
    (send target state now delivered channel).2 = { channel with failed := true } := by
  cases faulted : channel.failed with
  | true =>
      simp only [send, Program.bind_apply, Program.get_apply, Program.throwIf, faulted, if_true,
        Program.throw_apply]
      rw [← faulted]
  | false =>
      by_cases source : state.sequence = channel.lastState
      · cases fresh : stateFresh state now channel.maxAge with
        | error what =>
            simp [send, latching, Program.tryCatch, Program.bind_apply, Program.throwIf, faulted,
              source, fresh, Program.ofExcept]
        | ok _ =>
            cases encoded : encodeTarget target (channel.lastTarget + 1) now channel.jointHash
                state.sequence with
            | error what =>
                rw [source] at encoded
                simp [send, latching, Program.tryCatch, Program.bind_apply, Program.throwIf,
                  faulted, source, fresh, encoded, Program.ofExcept]
            | ok packet =>
                cases delivered with
                | false =>
                    rw [source] at encoded
                    simp [send, latching, Program.tryCatch, Program.bind_apply, Program.throwIf,
                      faulted, source, fresh, encoded, Program.ofExcept]
                | true =>
                    have returned := send_eq_done_iff.mpr
                      ⟨faulted, source, fresh, encoded, rfl, rfl⟩
                    rw [returned] at rejected
                    cases rejected
      · simp [send, latching, Program.tryCatch, Program.bind_apply, Program.throwIf, faulted,
          source]

end PolicyStateChannel

end SpriteRuntime
