import SpriteRuntime.Native.Frames

/-!
# What the trace says about the latest target

The IPC bookkeeping of the controller is a summary of its trace: the latest target
is the last one accepted, and the states that were published are the ones up to the
state sequence.  The summary holds in both loops of a run.
-/

namespace SpriteRuntime

open Foundation

/-- The target of an acceptance. -/
def Event.target : Event → Option TargetPacket
  | .accepted packet => some packet
  | _ => none

/-- The clock reading with which a slot drains its targets. -/
def Event.wake : Event → Option ℤ
  | .drained nowNs => some nowNs
  | _ => none

/-- The drains and the acceptances: `some none` for the start of a drain. -/
def Event.inbound : Event → Option (Option TargetPacket)
  | .drained _ => some none
  | .accepted packet => some (some packet)
  | _ => none

/-- The monotonic clock counts nanoseconds from zero, for less than 146 years. -/
def World.ClockInRange (world : World) : Prop :=
  ∀ call now, world.clock call = some now → 0 ≤ now ∧ now < 2 ^ 62

/-- The state `sequence` was published. -/
def Published (trace : List Event) (sequence : ℕ) : Prop :=
  ∃ packet : StatePacket, .published packet true ∈ trace ∧ packet.sequence = sequence

/-- The target is at most 100 ms older than the clock reading of the last drain. -/
def Timely (trace : List Event) (target : TargetPacket) : Prop :=
  ∃ now, latest Event.wake trace = some now ∧ now - target.monotonicNs ≤ kTargetTimeoutNs

/-- The IPC bookkeeping agrees with the trace. -/
structure TargetRecord (world : World) (machine : Machine) : Prop where
  latest : machine.ipc.hasTarget = true →
    latest Event.target machine.trace = some machine.ipc.latestTarget ∧
      machine.ipc.lastTargetNs = machine.ipc.latestTarget.monotonicNs
  stamp : machine.ipc.hasTarget = true →
    -2 ^ 63 ≤ machine.ipc.lastTargetNs ∧ machine.ipc.lastTargetNs < 2 ^ 63 ∧
      (world.ClockInRange → -kTargetTimeoutNs ≤ machine.ipc.lastTargetNs)
  finite : machine.ipc.hasTarget = true →
    ∀ joint, machine.ipc.latestTarget.AllFinite joint
  source : machine.ipc.hasTarget = true →
    machine.ipc.latestTarget.sourceStateSequence ≤ machine.ipc.stateSequence
  published : ∀ sequence, 0 < sequence → sequence ≤ machine.ipc.stateSequence →
    Published machine.trace sequence
  positive : ∀ sequence, Published machine.trace sequence → 0 < sequence
  fresh : world.ClockInRange → ∀ packet,
    Foundation.latest Event.inbound machine.trace = some (some packet) →
      Timely machine.trace packet

/-- The part of the bookkeeping that the record is about. -/
def Machine.targets (machine : Machine) : Bool × TargetPacket × ℤ × ℕ :=
  (machine.ipc.hasTarget, machine.ipc.latestTarget, machine.ipc.lastTargetNs,
    machine.ipc.stateSequence)

/-- The kinds of event that the record is not about. -/
def quietKinds : List Kind :=
  [.slot, .poll, .payload, .enable, .disable, .read, .previewed]

theorem Published.append {trace : List Event} {sequence : ℕ}
    (published : Published trace sequence) (suffix : List Event) :
    Published (trace ++ suffix) sequence := by
  obtain ⟨packet, member, same⟩ := published
  exact ⟨packet, List.mem_append_left _ member, same⟩

section Quiet

variable {event : Event} (quiet : event.kind ∈ quietKinds)

include quiet

theorem target_of_quiet : event.target = none := by
  cases event <;> simp_all [Event.target, Event.kind, quietKinds]

theorem inbound_of_quiet : event.inbound = none := by
  cases event <;> simp_all [Event.inbound, Event.kind, quietKinds]

theorem wake_of_quiet : event.wake = none := by
  cases event <;> simp_all [Event.wake, Event.kind, quietKinds]

theorem ne_published_of_quiet (packet : StatePacket) (sent : Bool) :
    event ≠ .published packet sent := by
  rintro rfl
  simp [Event.kind, quietKinds] at quiet

end Quiet

/-- Steps that leave the targets alone keep the record. -/
theorem TargetRecord.of_quiet {world : World} {first last : Machine}
    (record : TargetRecord world first) (same : Keeps Machine.targets first last)
    (grown : Extends (fun machine : Machine => machine.trace)
      (fun event => event.kind ∈ quietKinds) first last) :
    TargetRecord world last := by
  obtain ⟨suffix, grown, quiet⟩ := grown
  dsimp only at grown
  have noTarget : ∀ event ∈ suffix, event.target = none :=
    fun event member => target_of_quiet (quiet event member)
  have noInbound : ∀ event ∈ suffix, event.inbound = none :=
    fun event member => inbound_of_quiet (quiet event member)
  have noWake : ∀ event ∈ suffix, event.wake = none :=
    fun event member => wake_of_quiet (quiet event member)
  simp only [Keeps, Machine.targets, Prod.mk.injEq] at same
  obtain ⟨hasTarget, latestTarget, lastTargetNs, stateSequence⟩ := same
  obtain ⟨latest, stamp, finite, source, published, positive, fresh⟩ := record
  constructor
  · rw [hasTarget, latestTarget, lastTargetNs, grown, latest_append_of_none _ noTarget]
    exact latest
  · rw [hasTarget, lastTargetNs]
    exact stamp
  · rw [hasTarget, latestTarget]
    exact finite
  · rw [hasTarget, latestTarget, stateSequence]
    exact source
  · rw [stateSequence, grown]
    exact fun sequence above below => (published sequence above below).append _
  · rintro sequence ⟨packet, member, rfl⟩
    rw [grown] at member
    rcases List.mem_append.mp member with earlier | later
    · exact positive packet.sequence ⟨packet, earlier, rfl⟩
    · exact absurd rfl (ne_published_of_quiet (quiet _ later) packet true)
  · unfold Timely
    rw [grown, latest_append_of_none _ noInbound, latest_append_of_none _ noWake]
    exact fresh

theorem TargetRecord.triple {α : Type} {world : World} {program : Native α}
    (leaves : program.Leaves Machine.targets) (emits : EmitsOnly quietKinds program) :
    Program.Triple (TargetRecord world) program (fun _ => TargetRecord world)
      (fun _ => True) :=
  (leaves.both emits).triple (fun _ _ both record => record.of_quiet both.1 both.2)
    fun _ _ _ _ => trivial

theorem targets_of_commands {α : Type} {program : Native α}
    (leaves : program.Leaves Machine.commands) : program.Leaves Machine.targets :=
  leaves.map fun commands => (commands.1.hasTarget, commands.1.latestTarget,
    commands.1.lastTargetNs, commands.1.stateSequence)

/-- Accepting a packet keeps the record. -/
theorem TargetRecord.accept {world : World} {machine : Machine} {now : ℤ}
    (record : TargetRecord world machine)
    (wake : Foundation.latest Event.wake machine.trace = some now)
    (inRange : world.ClockInRange → 0 ≤ now ∧ now < 2 ^ 62)
    {policyJointHash : ℕ} {jointSafety : JointSafetyTable} {received : ℕ}
    {packet : TargetPacket}
    (stamp : -2 ^ 63 ≤ packet.monotonicNs ∧ packet.monotonicNs < 2 ^ 63)
    (acceptable : Acceptable policyJointHash jointSafety now received packet machine.ipc) :
    TargetRecord world
      { machine with
        ipc := machine.ipc.latch packet (wrap64 (now - packet.monotonicNs))
        trace := machine.trace ++ [.accepted packet] } := by
  have timely : world.ClockInRange →
      -5000000 ≤ now - packet.monotonicNs ∧ now - packet.monotonicNs ≤ kTargetTimeoutNs := by
    intro clock
    obtain ⟨nonneg, early⟩ := inRange clock
    have notFuture := acceptable.notFuture
    have exact := wrap64_sub_eq nonneg early stamp.1 stamp.2 (by omega)
    rw [← exact]
    exact ⟨notFuture, acceptable.notStale⟩
  obtain ⟨_, _, _, _, published, positive, _⟩ := record
  constructor
  · intro _
    exact ⟨by simp [Event.target, IpcSocket.latch], rfl⟩
  · intro _
    refine ⟨stamp.1, stamp.2, fun clock => ?_⟩
    have nonneg := (inRange clock).1
    have recent := (timely clock).2
    change -kTargetTimeoutNs ≤ packet.monotonicNs
    omega
  · exact fun _ => acceptable.allFinite
  · exact fun _ => acceptable.published
  · exact fun sequence above below => (published sequence above below).append _
  · rintro sequence ⟨packet, member, rfl⟩
    rcases List.mem_append.mp member with earlier | last
    · exact positive packet.sequence ⟨packet, earlier, rfl⟩
    · simp at last
  · intro clock other accepted
    have same : packet = other := by simpa [Event.inbound] using accepted
    refine ⟨now, by simpa [Event.wake] using wake, ?_⟩
    rw [← same]
    exact (timely clock).2

/-- Publishing the next state keeps the record. -/
theorem TargetRecord.publish {world : World} {machine : Machine}
    (record : TargetRecord world machine) {packet : StatePacket}
    (next : packet.sequence = machine.ipc.stateSequence + 1) :
    TargetRecord world
      { machine with
        ipc := { machine.ipc with stateSequence := packet.sequence }
        trace := machine.trace ++ [.published packet true] } := by
  obtain ⟨latest, stamp, finite, source, published, positive, fresh⟩ := record
  constructor
  · simpa [Event.target] using latest
  · exact stamp
  · exact finite
  · intro has
    exact (source has).trans (next ▸ Nat.le_succ _)
  · intro sequence above below
    rcases Nat.lt_or_eq_of_le below with earlier | same
    · rw [next] at earlier
      exact (published sequence above (Nat.lt_succ_iff.mp earlier)).append _
    · exact ⟨packet, by simp, same.symm⟩
  · rintro sequence ⟨other, member, rfl⟩
    rcases List.mem_append.mp member with earlier | last
    · exact positive other.sequence ⟨other, earlier, rfl⟩
    · simp only [List.mem_singleton, Event.published.injEq, and_true] at last
      rw [last, next]
      exact Nat.succ_pos _
  · simpa [Event.inbound, Timely, Event.wake] using fresh

section Programs

variable (setup : Setup) (world : World)

theorem ofBytes_stamp (buffer : List UInt8) :
    -2 ^ 63 ≤ (TargetPacket.ofBytes buffer).monotonicNs ∧
      (TargetPacket.ofBytes buffer).monotonicNs < 2 ^ 63 := by
  have stamp : (TargetPacket.ofBytes buffer).monotonicNs =
      wrap64 (unsignedField buffer 16 8) := by
    simp only [TargetPacket.ofBytes, signedField]
  rw [stamp]
  exact wrap64_mem _

/-- What a round of the drain does: the socket is empty, or a message is accepted. -/
theorem drainTargetRound_eq_done {policyJointHash : ℕ} {jointSafety : JointSafetyTable}
    {nowNs : ℤ} {again : Bool} {machine final : Machine}
    (returned : drainTargetRound world policyJointHash jointSafety nowNs machine =
      (.done again, final)) :
    again = false ∧
        final = { machine with
          calls := { machine.calls with recv := machine.calls.recv + 1 } } ∨
      again = true ∧ ∃ bytes : List UInt8,
        let packet := TargetPacket.ofBytes (bytes.take targetPacketSize)
        Acceptable policyJointHash jointSafety nowNs
            (min targetPacketSize bytes.length) packet machine.ipc ∧
          final = { machine with
            ipc := machine.ipc.latch packet (wrap64 (nowNs - packet.monotonicNs))
            calls := { machine.calls with recv := machine.calls.recv + 1 }
            trace := machine.trace ++ [.accepted packet] } := by
  cases arrived : world.recv machine.calls.recv with
  | again =>
      simp only [drainTargetRound, answer, Program.bind_apply, Program.get_apply,
        Program.modify_apply, Program.pure_apply, arrived] at returned
      cases returned
      exact .inl ⟨rfl, rfl⟩
  | failed what =>
      simp [drainTargetRound, answer, Program.bind_apply, arrived] at returned
  | message bytes =>
      rw [drainTargetRound_of_message arrived] at returned
      cases taken : receiveTarget policyJointHash jointSafety nowNs bytes machine.ipc with
      | error what =>
          rw [taken] at returned
          cases returned
      | ok ipc =>
          rw [taken] at returned
          cases returned
          obtain ⟨acceptable, rfl⟩ := receiveTarget_eq_ok.mp taken
          exact .inr ⟨rfl, bytes, acceptable, rfl⟩

theorem drainTargetPackets_record {nowNs : ℤ}
    (inRange : world.ClockInRange → 0 ≤ nowNs ∧ nowNs < 2 ^ 62) :
    Program.Triple (TargetRecord world)
      (drainTargetPackets world setup.policyJointHash (some setup.jointSafety) nowNs)
      (fun _ machine => TargetRecord world machine ∧
        Foundation.latest Event.wake machine.trace = some nowNs) (fun _ => True) := by
  let draining := fun machine : Machine => TargetRecord world machine ∧
    Foundation.latest Event.wake machine.trace = some nowNs
  have started : Program.Triple (TargetRecord world) (emit (.drained nowNs))
      (fun _ => draining) (fun _ => True) := by
    apply Program.Triple.modify
    rintro machine ⟨latest, stamp, finite, source, published, positive, _⟩
    refine ⟨⟨?_, stamp, finite, source, ?_, ?_, ?_⟩, by simp [Event.wake]⟩
    · simpa [Event.target] using latest
    · exact fun sequence above below => (published sequence above below).append _
    · rintro sequence ⟨packet, member, rfl⟩
      exact positive packet.sequence ⟨packet, by simpa using member, rfl⟩
    · intro _ packet accepted
      simp [Event.inbound] at accepted
  refine .bind started fun _ => .loop (.of_done ?_) fun _ _ => trivial
  rintro machine again final ⟨record, wake⟩ returned
  rcases drainTargetRound_eq_done world returned with
    ⟨rfl, rfl⟩ | ⟨rfl, bytes, acceptable, rfl⟩
  · exact ⟨record.of_quiet rfl (.of_eq rfl), wake⟩
  · have asked : TargetRecord world
        { machine with
          calls := { machine.calls with recv := machine.calls.recv + 1 } } :=
      record.of_quiet rfl (.of_eq rfl)
    have accepted := asked.accept wake inRange (ofBytes_stamp _) acceptable
    exact ⟨accepted, by simpa [Event.wake] using wake⟩

theorem sendStatePacket_record (nowNs : ℤ) :
    Program.Triple (TargetRecord world) (sendStatePacket setup world nowNs)
      (fun _ => TargetRecord world) (fun _ => True) := by
  intro machine record
  cases sent : world.send machine.calls.send with
  | false =>
      simp [sendStatePacket, answer, emit, Program.bind_apply, Program.throwIf, sent]
  | true =>
      have asked : TargetRecord world
          { machine with
            calls := { machine.calls with send := machine.calls.send + 1 } } :=
        record.of_quiet rfl (.of_eq rfl)
      simp only [sendStatePacket, answer, emit, Program.bind_apply, Program.get_apply,
        Program.modify_apply, Program.pure_apply, Program.throwIf, sent]
      exact Program.Ends.done_iff.mpr (asked.publish rfl)

/-- A reading of the clock comes from the clock. -/
theorem monotonicNs_reading {pre escape : Machine → Prop}
    (keeps : Program.Triple pre (monotonicNs world) (fun _ => pre) escape) :
    Program.Triple pre (monotonicNs world)
      (fun now machine => pre machine ∧ ∃ call, world.clock call = some now) escape := by
  intro machine before
  have after := keeps machine before
  cases reading : world.clock machine.calls.clock with
  | none =>
      simp only [monotonicNs, answer, Program.bind_apply, Program.get_apply,
        Program.modify_apply, Program.pure_apply, Program.throw_apply, reading,
        Program.Ends.thrown_iff] at after ⊢
      exact after
  | some now =>
      simp only [monotonicNs, answer, Program.bind_apply, Program.get_apply,
        Program.modify_apply, Program.pure_apply, reading,
        Program.Ends.done_iff] at after ⊢
      exact ⟨after, _, reading⟩

theorem publishState_record (slot : ℕ) :
    Program.Triple (TargetRecord world) (publishState setup world slot)
      (fun _ => TargetRecord world) (fun _ => True) := by
  refine .bind (.get fun _ => id) fun machine => ?_
  refine .runIf (fun _ => ?_) fun _ _ => id
  refine .bind (TargetRecord.triple ?_ (.monotonicNs world)) fun now =>
    sendStatePacket_record setup world now
  exact targets_of_commands (commands_of_core (monotonicNs_core world))

/-- A program that drains no targets keeps the reading of the last drain. -/
theorem wake_kept {α : Type} {program : Native α} {kinds : List Kind}
    (emits : EmitsOnly kinds program) (quiet : .drained ∉ kinds) (now : ℤ) :
    Program.Triple (fun machine => Foundation.latest Event.wake machine.trace = some now)
      program (fun _ machine => Foundation.latest Event.wake machine.trace = some now)
      (fun _ => True) := by
  refine Program.Respects.triple emits ?_ fun _ _ _ _ => trivial
  rintro first last ⟨suffix, grown, kept⟩ before
  dsimp only at grown
  rw [grown, latest_append_of_none]
  · exact before
  · intro event member
    have kind := kept event member
    cases event with
    | drained now => exact absurd kind quiet
    | _ => rfl

end Programs

end SpriteRuntime
