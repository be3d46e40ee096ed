import SpriteRuntime.Native.Preparation
import SpriteRuntime.Native.ShutdownReach

/-!
# Who may be enabled

Enable frames are written in one place, right after the preparation has returned and
before anything else is read, received or sent.  What the preparation has checked
is therefore still the state of things when the first drive is enabled.
-/

namespace SpriteRuntime

open Foundation

variable (setup : Setup) (world : World)

/-- Why an enable frame may follow a trace: the preparation has returned, and since
then only enable frames were written. -/
def AfterPreparation (before : List Event) (entry : Event) : Prop :=
  entry.kind = .enable →
    ∃ prepared since, prepare setup world Machine.initial = (.done (), prepared) ∧
      before = prepared.trace ++ since ∧ ∀ event ∈ since, event.kind = .enable

/-- Events of other kinds follow anything. -/
theorem afterPreparation_of_harmless {kinds : List Kind} (harmless : .enable ∉ kinds)
    (before : List Event) (entry : Event) (kind : entry.kind ∈ kinds) :
    AfterPreparation setup world before entry := by
  intro enabled
  rw [enabled] at kind
  exact absurd kind harmless

/-- Every enable frame of a run comes right after its preparation. -/
theorem enables_afterPreparation :
    Justified (AfterPreparation setup world) (protectedPolicyTrace setup world) := by
  let justified := fun machine : Machine =>
    Justified (AfterPreparation setup world) machine.trace
  have returning : Program.Triple (fun machine => machine = Machine.initial)
      (prepare setup world)
      (fun _ machine => prepare setup world Machine.initial = (.done (), machine))
      (fun _ => True) := by
    apply Program.Triple.of_done
    rintro _ _ final rfl returned
    exact returned
  have preparing : Program.Triple (fun machine => machine = Machine.initial)
      (prepare setup world) (fun _ => justified) justified := by
    have kept : (prepare setup world).Preserves justified :=
      justified_kept (EmitsOnly.prepare setup world)
        (afterPreparation_of_harmless setup world (by simp))
    apply kept.triple.consequence _ (fun _ _ => id) fun _ => id
    rintro _ rfl
    exact Justified.nil
  have prepared := (returning.both preparing).consequence
    (fun _ same => ⟨same, same⟩) (fun _ _ => id) (fun _ => And.right)
  have enabling : Program.Triple
      (fun machine =>
        prepare setup world Machine.initial = (.done (), machine) ∧ justified machine)
      (enable setup world) (fun _ => justified) justified := by
    refine Program.Triple.last_iff.mpr ?_
    rintro machine ⟨returned, before⟩
    obtain ⟨suffix, grown, enables⟩ := (EmitsOnly.enable setup world).trace_eq machine
    unfold justified
    rw [grown]
    apply before.append
    intro earlier entry after split _
    refine ⟨machine, earlier, returned, rfl, fun event member => ?_⟩
    simpa using enables event (by simp [split, member])
  have following : Program.Triple justified (activeLoop setup world)
      (fun _ => justified) justified :=
    (justified_kept (EmitsOnly.activeLoop setup world)
      (afterPreparation_of_harmless setup world (by simp))).triple
  apply protectedPolicyTrace_justified
  · exact fun before entry closing =>
      afterPreparation_of_harmless setup world (by simp) before entry closing.kind
  · exact prepared.bind fun _ => enabling.bind fun _ => following

/-- What holds of the state in which the first drive is enabled. -/
structure Admitted (machine : Machine) : Prop where
  replied : ∀ index, ∃ feedback,
    latest (Event.replyOf setup index) machine.trace = some feedback ∧
      (machine.motors index).lastPosition =
        feedback.position (setup.loaded.descriptor index)
  disabled : ∀ event ∈ machine.trace, ∀ index feedback,
    event.reply setup = some (index, feedback) →
      (feedback.controllerId : ℤ) = (setup.loaded.descriptor index).canId ∧
        feedback.statusCode = 0
  target : latest Event.target machine.trace = some machine.ipc.latestTarget
  finite : ∀ joint, machine.ipc.latestTarget.AllFinite joint
  close : ∀ joint, |(machine.ipc.latestTarget.positionRad joint).value -
    measuredJointPosition setup.kinematics machine.motors joint| ≤ 3 / 100
  atRest : ∀ joint, |(machine.ipc.latestTarget.velocityRadS joint).value| ≤ tolerance
  limp : ∀ joint, |(machine.ipc.latestTarget.kp joint).value| ≤ tolerance ∧
    |(machine.ipc.latestTarget.kd joint).value| ≤ tolerance ∧
    |(machine.ipc.latestTarget.feedforwardTorqueNm joint).value| ≤ tolerance

theorem startupFailure_eq_none {control : ControlState} {joint : Index}
    (passed : startupFailure setup control joint = none) :
    |(control.ipc.latestTarget.positionRad joint).value -
        measuredJointPosition setup.kinematics control.motors joint| ≤ 3 / 100 ∧
      |(control.ipc.latestTarget.velocityRadS joint).value| ≤ tolerance ∧
      |(control.ipc.latestTarget.kp joint).value| ≤ tolerance ∧
      |(control.ipc.latestTarget.kd joint).value| ≤ tolerance ∧
      |(control.ipc.latestTarget.feedforwardTorqueNm joint).value| ≤ tolerance := by
  unfold startupFailure at passed
  dsimp only at passed
  split at passed
  · cases passed
  next position =>
    split at passed
    · cases passed
    next velocity =>
      split at passed
      · cases passed
      next kp =>
        split at passed
        · cases passed
        next kd =>
          split at passed
          · cases passed
          next torque =>
            exact ⟨not_lt.mp position, not_lt.mp velocity, not_lt.mp kp, not_lt.mp kd,
              not_lt.mp torque⟩

theorem Ready.admitted {machine : Machine} (ready : Ready setup world machine) :
    Admitted setup machine := by
  have startup joint := startupFailure_eq_none setup (ready.startup joint)
  constructor
  · exact fun index => ready.record.feedback.measured index (ready.seen index)
  · intro event member index feedback reply
    have valid := ready.record.feedback.healthy event member index feedback reply
    exact ⟨valid.1, by simpa [StatusValid] using valid.2⟩
  · exact (ready.record.targets.latest ready.hasTarget).1
  · exact ready.record.targets.finite ready.hasTarget
  · exact fun joint => (startup joint).1
  · exact fun joint => (startup joint).2.1
  · exact fun joint => (startup joint).2.2

/-- Whoever is enabled was admitted: an enable frame is only written right after a
preparation that has returned, in a state that is still the admitted one, and never
after a disable frame.  A preparation that fails goes to the shutdown and enables
nothing. -/
theorem runNativeProtectedPolicy_enables :
    (∀ before entry after, protectedPolicyTrace setup world = before ++ entry :: after →
      entry.kind = .enable →
      (∀ event ∈ before, event.kind ≠ .disable) ∧
        ∃ prepared since,
          prepare setup world Machine.initial = (.done (), prepared) ∧
            before = prepared.trace ++ since ∧
            (∀ event ∈ since, event.kind = .enable) ∧ Admitted setup prepared) ∧
      ∀ what stopped, prepare setup world Machine.initial = (.thrown what, stopped) →
        (∀ event ∈ protectedPolicyTrace setup world, event.kind ≠ .enable) ∧
          DisableAttempted setup (protectedPolicyTrace setup world) 0 := by
  have justified := enables_afterPreparation setup world
  constructor
  · intro before entry after split enabled
    obtain ⟨prepared, since, returned, rfl, enables⟩ :=
      justified before entry after split enabled
    refine ⟨?_, prepared, since, returned, rfl, enables,
      (prepare_ready setup world returned).admitted⟩
    obtain ⟨suffix, grown, allowed⟩ :=
      (EmitsOnly.prepare setup world).trace_eq Machine.initial
    have same : prepared.trace = suffix := by
      rw [returned] at grown
      exact grown
    intro event member disabled
    rcases List.mem_append.mp member with earlier | later
    · have kind := allowed event (same ▸ earlier)
      rw [disabled] at kind
      simp at kind
    · have kind := enables event later
      rw [disabled] at kind
      cases kind
  · intro what stopped threw
    constructor
    · intro event member enabled
      obtain ⟨before, after, split⟩ := List.append_of_mem member
      obtain ⟨prepared, _, returned, _⟩ := justified before event after split enabled
      rw [threw] at returned
      cases returned
    · have body : protectedPolicyBody setup world Machine.initial =
          (.thrown what, stopped) := by
        simp [protectedPolicyBody, Program.bind_apply, threw]
      unfold protectedPolicyTrace runNativeProtectedPolicy
      rw [poweredRun_of_thrown setup world body]
      exact shutdown_attempts_first setup world
        (EmitsOnly.drainPolicyFeedback setup world (-1) false) what stopped

/-! ## How old an admitted target is -/

/-- The target is at most 100 ms older than the last drain's clock reading and names
a state that was published. -/
def TargetFresh (trace : List Event) (target : TargetPacket) : Prop :=
  Timely trace target ∧ 1 ≤ target.sourceStateSequence ∧
    Published trace target.sourceStateSequence

theorem Ready.fresh_iff {machine : Machine} (ready : Ready setup world machine)
    (clock : world.ClockInRange) :
    TargetFresh machine.trace machine.ipc.latestTarget ↔
      1 ≤ machine.ipc.latestTarget.sourceStateSequence := by
  obtain ⟨record, current, hasTarget, _, _, _⟩ := ready
  constructor
  · exact fun fresh => fresh.2.1
  · intro sourced
    have accepted := current hasTarget sourced
    refine ⟨record.targets.fresh clock _ accepted, sourced, ?_⟩
    exact record.targets.published _ sourced (record.targets.source hasTarget)

/-- When a drive is enabled, the latest target is fresh exactly when it names a state
at all: a target that names none may have been accepted long before the last motor
replied. -/
theorem runNativeProtectedPolicy_enables_fresh_iff (clock : world.ClockInRange)
    {before after : List Event} {entry : Event}
    (split : protectedPolicyTrace setup world = before ++ entry :: after)
    (enabled : entry.kind = .enable) :
    ∃ target, latest Event.target before = some target ∧
      (TargetFresh before target ↔ 1 ≤ target.sourceStateSequence) := by
  obtain ⟨prepared, since, returned, rfl, enables⟩ :=
    enables_afterPreparation setup world before entry after split enabled
  have ready := prepare_ready setup world returned
  have quiet : ∀ event ∈ since, event.kind ∈ quietKinds := by
    intro event member
    rw [enables event member]
    simp [quietKinds]
  have sameTarget := latest_append_of_none prepared.trace fun event member =>
    target_of_quiet (quiet event member)
  have sameWake := latest_append_of_none prepared.trace fun event member =>
    wake_of_quiet (quiet event member)
  have samePublished (sequence : ℕ) :
      Published (prepared.trace ++ since) sequence ↔ Published prepared.trace sequence := by
    constructor
    · rintro ⟨packet, member, same⟩
      rcases List.mem_append.mp member with earlier | later
      · exact ⟨packet, earlier, same⟩
      · exact absurd rfl (ne_published_of_quiet (quiet _ later) packet true)
    · exact fun published => published.append since
  refine ⟨prepared.ipc.latestTarget, ?_, ?_⟩
  · rw [sameTarget]
    exact (ready.record.targets.latest ready.hasTarget).1
  · unfold TargetFresh Timely
    rw [sameWake, samePublished]
    exact ready.fresh_iff setup world clock

/-- A peer that sends a target at once, and motors that reply a second later. -/
def eagerWorld : World :=
  { quietWorld with
    clock := fun call => [0, 0, 1000000000][call]?
    read := fun call => (List.replicate 4 ReadResult.again ++ benchReads).getD call .again
    recv := fun call => if call = 0 then .message statelessTarget else .again
    patience := 9 }

/-- The eager peer's target is still the latest one at the first enable frame, one
second after its stamp. -/
theorem eagerWorld_enables :
    ∃ before entry after target,
      protectedPolicyTrace benchSetup eagerWorld = before ++ entry :: after ∧
      entry.kind = .enable ∧ latest Event.wake before = some 1000000000 ∧
      latest Event.target before = some target ∧
      target.sourceStateSequence = 0 ∧ target.monotonicNs = 0 := by
  have run : let trace := protectedPolicyTrace benchSetup eagerWorld
      let before := trace.takeWhile fun event => event.kind ≠ .enable
      (trace.dropWhile fun event => event.kind ≠ .enable).head?.map Event.kind =
          some .enable ∧
        latest Event.wake before = some 1000000000 ∧
        (latest Event.target before).map (fun target =>
          (target.sourceStateSequence, target.monotonicNs)) = some (0, 0) := by
    decide +kernel
  generalize protectedPolicyTrace benchSetup eagerWorld = trace at run ⊢
  obtain ⟨first, wake, latestTarget⟩ := run
  obtain ⟨entry, head, enabled⟩ := Option.map_eq_some_iff.mp first
  obtain ⟨target, accepted, fields⟩ := Option.map_eq_some_iff.mp latestTarget
  obtain ⟨after, rest⟩ := List.head?_eq_some_iff.mp head
  refine ⟨_, entry, after, target, ?_, enabled, wake, accepted, ?_⟩
  · rw [← rest, List.takeWhile_append_dropWhile]
  · simpa using fields

theorem eagerWorld_clockInRange : eagerWorld.ClockInRange := by
  intro call now reading
  have member := List.mem_of_getElem? reading
  simp only [List.mem_cons, List.not_mem_nil, or_false] at member
  rcases member with rfl | rfl | rfl <;> decide

/-- The criterion at the first enable frame of the eager peer's run. -/
theorem runNativeProtectedPolicy_enables_fresh_iff_eager :
    ∃ before entry after,
      protectedPolicyTrace benchSetup eagerWorld = before ++ entry :: after ∧
      entry.kind = .enable ∧
      ∃ target, latest Event.target before = some target ∧
        (TargetFresh before target ↔ 1 ≤ target.sourceStateSequence) := by
  obtain ⟨before, entry, after, _, split, enabled, _⟩ := eagerWorld_enables
  exact ⟨before, entry, after, split, enabled,
    runNativeProtectedPolicy_enables_fresh_iff benchSetup eagerWorld eagerWorld_clockInRange
      split enabled⟩

/-- Drives are enabled on a target that names no state and is a second old. -/
theorem runNativeProtectedPolicy_enables_stale :
    ∃ before entry after target,
      protectedPolicyTrace benchSetup eagerWorld = before ++ entry :: after ∧
      entry.kind = .enable ∧ latest Event.target before = some target ∧
      ¬TargetFresh before target ∧ ¬Timely before target := by
  obtain ⟨before, entry, after, target, split, enabled, wake, accepted, stateless, stamp⟩ :=
    eagerWorld_enables
  refine ⟨before, entry, after, target, split, enabled, accepted, ?_, ?_⟩
  · rintro ⟨_, sourced, _⟩
    omega
  · rintro ⟨now, reading, timely⟩
    rw [wake] at reading
    cases reading
    rw [stamp] at timely
    norm_num [kTargetTimeoutNs] at timely

end SpriteRuntime
