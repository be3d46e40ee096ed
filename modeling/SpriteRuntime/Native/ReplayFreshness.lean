import SpriteRuntime.Foundation.ProgramSteps
import SpriteRuntime.Native.PolicyReplay

/-!
# Freshness in the live policy loop

The loop reads the clock once more between computing a target and sending it.  A target that
is sent has passed the check of that reading, and names the state that it was computed from.
-/

namespace SpriteRuntime

open Foundation

variable {K : Type}

/-- The sample and the state of a computation are fresh enough at a reading of the clock. -/
structure Computation.FreshAt (computation : Computation K) (now : ℕ) : Prop where
  sampleStart : computation.sample.start ≤ now
  sampleAge : now - computation.sample.start ≤ 30000000
  stateStamp : computation.state.stamp ≤ now
  stateAge : now - computation.state.stamp ≤ 100000000

/-- What a packet has from its target, and from the state and the reading it is sent for. -/
structure TargetPacket.Carries (packet : TargetPacket) (target : ImpedanceTarget ℚ)
    (source now : ℕ) : Prop where
  sourceStateSequence : packet.sourceStateSequence = source
  monotonicNs : packet.monotonicNs = now
  position : packet.positionRad = target.doubles.position
  velocity : packet.velocityRadS = target.doubles.velocity
  kp : packet.kp = target.doubles.kp
  kd : packet.kd = target.doubles.kd
  feedforward : packet.feedforwardTorqueNm = target.doubles.feedforward

namespace ReplaySettings

variable [Field K] [LinearOrder K] [SquareRoots K] (settings : ReplaySettings K)

/-- The conditions on a packet that is sent for a computation after a reading of the clock. -/
structure Allows (computation : Computation K) (now : ℕ) (packet : TargetPacket) : Prop where
  fresh : computation.FreshAt now
  carries : packet.Carries (settings.outgoing computation.target) computation.state.sequence now

/-- Why an event of the loop may happen. -/
def Reason (before : List (ReplayEvent K)) : ReplayEvent K → Prop
  | .computed state sample target =>
      latest ReplayEvent.received? before = some state ∧
        latest ReplayEvent.sampled? before = some sample ∧
        ∃ pipeline final, settings.computeTarget state sample pipeline = (.done target, final)
  | .sent packet => ReplayEvent.recheck.Reason settings.Allows before packet
  | _ => True

/-- The invariant between the steps of the loop. -/
structure Steady (replay : ReplayState K) : Prop where
  justified : Justified settings.Reason replay.log
  maxAge : replay.channel.maxAge = 100000000

end ReplaySettings

/-! ## The channel -/

namespace PolicyStateChannel

theorem latching_leaves {α : Type} {body : Program PolicyStateChannel String α}
    (leaves : body.Leaves maxAge) : (latching body).Leaves maxAge := by
  refine Program.Respects.tryCatch leaves fun error => ?_
  refine Program.Respects.bind (Program.Respects.modify fun _ => rfl) fun _ => ?_
  exact Program.Respects.throw error

theorem receive_leaves (arrival : Arrival) (now : ℕ) : (receive arrival now).Leaves maxAge := by
  refine Program.Respects.bind Program.Respects.get fun channel => ?_
  refine Program.Respects.bind (Program.Respects.throwIf _) fun _ => ?_
  apply latching_leaves
  cases arrival with
  | timeout => exact Program.Respects.throw _
  | disconnected => exact Program.Respects.throw _
  | message packet =>
      refine Program.Respects.bind (Program.Respects.ofExcept _) fun state => ?_
      refine Program.Respects.bind (Program.Respects.modify fun _ => rfl) fun _ => ?_
      exact Program.Respects.pure state

theorem send_leaves (target : ImpedanceTarget Double) (state : PolicyState) (now : ℕ)
    (delivered : Bool) : (send target state now delivered).Leaves maxAge := by
  refine Program.Respects.bind Program.Respects.get fun channel => ?_
  refine Program.Respects.bind (Program.Respects.throwIf _) fun _ => ?_
  apply latching_leaves
  refine Program.Respects.bind (Program.Respects.throwIf _) fun _ => ?_
  refine Program.Respects.bind (Program.Respects.ofExcept _) fun _ => ?_
  refine Program.Respects.bind (Program.Respects.ofExcept _) fun packet => ?_
  refine Program.Respects.bind (Program.Respects.throwIf _) fun _ => ?_
  refine Program.Respects.bind (Program.Respects.modify fun _ => rfl) fun _ => ?_
  exact Program.Respects.pure packet

end PolicyStateChannel

theorem encodeTarget_carries {target : ImpedanceTarget ℚ} {sequence stamp hash source : ℕ}
    {packet : TargetPacket}
    (encoded : encodeTarget target.doubles sequence stamp hash source = .ok packet) :
    packet.Carries target source stamp := by
  simp only [encodeTarget, except_bind_eq_ok, raiseIf_eq_ok, validateTarget_eq_ok,
    ImpedanceTarget.doubles_inj] at encoded
  obtain ⟨_, ⟨rfl, _⟩, _, _, same⟩ := encoded
  cases same
  exact ⟨rfl, rfl, rfl, rfl, rfl, rfl, rfl⟩

theorem stateFresh_eq_ok {state : PolicyState} {now maximumAge : ℕ} :
    stateFresh state now maximumAge = .ok () ↔
      maximumAge ≠ 0 ∧ state.stamp ≠ 0 ∧ state.stamp ≤ now ∧ now - state.stamp ≤ maximumAge := by
  simp only [stateFresh, raiseIf_eq_ok, not_or, not_lt, ne_eq]


/-- What is known of a packet that the channel has sent. -/
theorem PolicyStateChannel.send_triple {target : ImpedanceTarget ℚ} {state : PolicyState}
    {now age : ℕ} {delivered : Bool} :
    Program.Triple (fun channel => channel.maxAge = age)
      (PolicyStateChannel.send target.doubles state now delivered)
      (fun packet _ => state.stamp ≤ now ∧ now - state.stamp ≤ age ∧
        packet.Carries target state.sequence now)
      fun _ => True := by
  apply Program.Triple.of_done
  rintro channel packet final rfl returned
  obtain ⟨_, _, fresh, encoded, _, _⟩ := PolicyStateChannel.send_eq_done_iff.mp returned
  obtain ⟨_, _, stamped, aged⟩ := stateFresh_eq_ok.mp fresh
  exact ⟨stamped, aged, encodeTarget_carries encoded⟩

/-! ## What the steps log -/

/-- Only events of a kind are logged, and the channel keeps its age limit. -/
structure Observes (allowed : ReplayEvent K → Prop) (first last : ReplayState K) : Prop where
  log : Extends ReplayState.log allowed first last
  maxAge : last.channel.maxAge = first.channel.maxAge

instance (allowed : ReplayEvent K → Prop) : IsPreorder (ReplayState K) (Observes allowed) where
  refl state := ⟨refl state, rfl⟩
  trans _ _ _ left right := ⟨trans_of _ left.log right.log, right.maxAge.trans left.maxAge⟩

namespace ReplayEvent

/-- A reading or a sample. -/
def IsLook : ReplayEvent K → Prop
  | .reading _ => True
  | .sampled _ => True
  | _ => False

/-- Neither a computation nor a target that is sent. -/
def IsInput : ReplayEvent K → Prop
  | .computed _ _ _ => False
  | .sent _ => False
  | _ => True

theorem IsLook.isInput {event : ReplayEvent K} (look : event.IsLook) : event.IsInput := by
  cases event with
  | reading now => trivial
  | sampled sample => trivial
  | received state => exact look.elim
  | computed state sample target => exact look.elim
  | sent packet => exact look.elim

theorem IsLook.received?_eq {event : ReplayEvent K} (look : event.IsLook) :
    event.received? = none := by
  cases event with
  | received state => exact look.elim
  | _ => rfl

theorem IsInput.continues {event : ReplayEvent K} (input : event.IsInput) :
    recheck.Continues event := by
  cases event with
  | computed state sample target => exact input.elim
  | sent packet => exact input.elim
  | _ => exact ⟨rfl, rfl⟩

theorem IsInput.reason [Field K] [LinearOrder K] [SquareRoots K] (settings : ReplaySettings K)
    {event : ReplayEvent K} (input : event.IsInput) (before : List (ReplayEvent K)) :
    settings.Reason before event := by
  cases event with
  | computed state sample target => exact input.elim
  | sent packet => exact input.elim
  | _ => trivial

end ReplayEvent

theorem Observes.input {first last : ReplayState K}
    (observed : Observes ReplayEvent.IsLook first last) :
    Observes ReplayEvent.IsInput first last :=
  ⟨observed.log.mono fun _ => ReplayEvent.IsLook.isInput, observed.maxAge⟩

section Steps

variable [Field K] [LinearOrder K] [SquareRoots K] {settings : ReplaySettings K} {first last replay : ReplayState K}

namespace ReplaySettings.Steady

/-- Inputs keep the invariant. -/
theorem observes (steady : settings.Steady first)
    (observed : Observes ReplayEvent.IsInput first last) : settings.Steady last := by
  obtain ⟨suffix, grown, inputs⟩ := observed.log
  constructor
  · rw [grown]
    exact steady.justified.append_unreasoned fun event member =>
      (inputs event member).reason settings
  · exact observed.maxAge.trans steady.maxAge

theorem record (steady : settings.Steady replay) {event : ReplayEvent K}
    (reason : settings.Reason replay.log event) : settings.Steady (replay.record event) :=
  ⟨steady.justified.concat reason, steady.maxAge⟩

end ReplaySettings.Steady

variable (settings) in
theorem steady_triple {α : Type} {program : Program (ReplayState K) String α}
    (observes : program.Respects (Observes ReplayEvent.IsInput)) :
    Program.Triple settings.Steady program (fun _ => settings.Steady) settings.Steady :=
  Program.Respects.triple observes (fun _ _ observed steady => steady.observes observed)
    fun _ _ observed steady => steady.observes observed

end Steps

namespace ReplayWorld

variable (world : ReplayWorld K)

theorem monotonicNs_apply (replay : ReplayState K) :
    world.monotonicNs replay = (.done (world.clock replay.readings), replay.read world) := rfl

theorem observes_read (replay : ReplayState K) :
    Observes ReplayEvent.IsLook replay (replay.read world) where
  log := by
    refine ⟨[.reading (world.clock replay.readings)], rfl, ?_⟩
    intro event member
    rw [List.mem_singleton.mp member]
    trivial
  maxAge := rfl

theorem observes_record {allowed : ReplayEvent K → Prop} (replay : ReplayState K)
    {event : ReplayEvent K} (fits : allowed event) :
    Observes allowed replay (replay.record event) where
  log := by
    refine ⟨[event], rfl, ?_⟩
    intro other member
    rw [List.mem_singleton.mp member]
    exact fits
  maxAge := rfl

theorem observes_of_eq {allowed : ReplayEvent K → Prop} {first last : ReplayState K}
    (log : last.log = first.log) (maxAge : last.channel.maxAge = first.channel.maxAge) :
    Observes allowed first last :=
  ⟨Extends.of_eq log, maxAge⟩

theorem monotonicNs_observes : world.monotonicNs.Respects (Observes ReplayEvent.IsLook) :=
  world.observes_read

theorem arrivalNs_observes (arrival : Arrival) :
    (world.arrivalNs arrival).Respects (Observes ReplayEvent.IsInput) := by
  cases arrival with
  | timeout => exact Program.Respects.pure 0
  | disconnected => exact Program.Respects.pure 0
  | message packet =>
      exact Program.Respects.mono world.monotonicNs_observes fun _ _ => Observes.input

theorem receiveState_observes : world.receiveState.Respects (Observes ReplayEvent.IsInput) := by
  refine Program.Respects.bind Program.Respects.get fun replay => ?_
  refine Program.Respects.bind (Program.Respects.modify fun _ => observes_of_eq rfl rfl) fun _ => ?_
  refine Program.Respects.bind (world.arrivalNs_observes _) fun now => ?_
  have received := PolicyStateChannel.receive_leaves (world.arrival replay.receives) now
  refine Program.Respects.bind (fun first => observes_of_eq rfl (received first.channel))
    fun state => ?_
  refine Program.Respects.bind (Program.Respects.modify fun first => ?_) fun _ => ?_
  · exact observes_record first trivial
  · exact Program.Respects.pure state

/-- The state that is received is the last one in the log. -/
theorem receiveState_triple :
    Program.Triple (fun _ => True) world.receiveState
      (fun state replay => latest ReplayEvent.received? replay.log = some state)
      fun _ => True := by
  apply Program.Triple.of_done
  intro first state last _ returned
  simp only [receiveState, Program.bind_eq_done_iff, Program.modify_eq_done_iff,
    Program.pure_eq_done_iff] at returned
  obtain ⟨_, _, _, _, _, _, _, _, _, _, _, _, _, _, rfl, rfl, rfl⟩ := returned
  exact latest_concat _ _ _

variable [Field K] [LinearOrder K] [SquareRoots K] (settings : ReplaySettings K)

theorem snapshot_observes : (world.snapshot settings).Respects (Observes ReplayEvent.IsLook) := by
  refine Program.Respects.bind (Program.Respects.modify fun _ => observes_of_eq rfl rfl) fun _ => ?_
  refine Program.Respects.bind Program.Respects.get fun replay => ?_
  cases replay.imu.error with
  | some what => exact Program.Respects.throw what
  | none =>
      dsimp only
      split
      · exact Program.Respects.pure none
      · refine Program.Respects.bind world.monotonicNs_observes fun now => ?_
        refine Program.Respects.bind (Program.Respects.throwIf _) fun _ => ?_
        refine Program.Respects.bind (Program.Respects.modify fun first => ?_) fun _ => ?_
        · exact observes_record first trivial
        · exact Program.Respects.pure _

theorem requireSnapshot_observes (missing : String) :
    (world.requireSnapshot settings missing).Respects (Observes ReplayEvent.IsLook) := by
  refine Program.Respects.bind (world.snapshot_observes settings) fun found => ?_
  cases found with
  | some sample => exact Program.Respects.pure sample
  | none => exact Program.Respects.throw missing

/-- The sample that is found is the last one in the log. -/
theorem snapshot_triple :
    Program.Triple (fun _ => True) (world.snapshot settings)
      (fun found replay => ∀ sample ∈ found,
        latest ReplayEvent.sampled? replay.log = some sample)
      fun _ => True := by
  apply Program.Triple.of_done
  intro first found last _ returned
  unfold snapshot at returned
  obtain ⟨_, _, _, looked⟩ := Program.bind_eq_done_iff.mp returned
  obtain ⟨replay, _, _, answered⟩ := Program.bind_eq_done_iff.mp looked
  cases failed : replay.imu.error with
  | some what =>
      rw [failed] at answered
      cases answered
  | none =>
      simp only [failed] at answered
      split at answered
      · cases answered
        intro sample member
        cases member
      · simp only [Program.bind_eq_done_iff, Program.modify_eq_done_iff,
          Program.pure_eq_done_iff] at answered
        obtain ⟨_, _, _, _, _, _, _, _, rfl, rfl, rfl⟩ := answered
        intro sample member
        cases member
        exact latest_concat _ _ _

theorem requireSnapshot_triple (missing : String) :
    Program.Triple (fun _ => True) (world.requireSnapshot settings missing)
      (fun sample replay => latest ReplayEvent.sampled? replay.log = some sample)
      fun _ => True := by
  refine Program.Triple.bind (world.snapshot_triple settings) fun found => ?_
  cases found with
  | some sample => exact Program.Triple.pure sample fun _ known => known sample rfl
  | none => exact Program.Triple.throw missing fun _ _ => trivial

/-! ## A round -/

/-- The state of a round is the last one that was received. -/
structure Received (state : PolicyState) (replay : ReplayState K) : Prop where
  steady : settings.Steady replay
  received : latest ReplayEvent.received? replay.log = some state

/-- The state and the sample of a round are the last ones in the log. -/
structure Sensed (state : PolicyState) (sample : ImuSnapshot K) (replay : ReplayState K) : Prop
    extends Received settings state replay where
  sampled : latest ReplayEvent.sampled? replay.log = some sample

/-- A target that was computed and not yet sent. -/
structure Holding (computation : Computation K) (replay : ReplayState K) : Prop where
  steady : settings.Steady replay
  pending : ReplayEvent.recheck.Pending replay.log computation

/-- A computation with the last reading since. -/
structure Checked (computation : Computation K) (now : ℕ) (replay : ReplayState K) : Prop where
  steady : settings.Steady replay
  measured : ReplayEvent.recheck.Measured replay.log computation now

variable {settings} {state : PolicyState} {sample : ImuSnapshot K} {computation : Computation K}
  {first last : ReplayState K}

theorem Received.looks (known : Received settings state first)
    (observed : Observes ReplayEvent.IsLook first last) : Received settings state last := by
  constructor
  · exact known.steady.observes observed.input
  · obtain ⟨suffix, grown, looks⟩ := observed.log
    rw [grown, latest_append_of_none _ fun event member => (looks event member).received?_eq]
    exact known.received

theorem Holding.looks (holding : Holding settings computation first)
    (observed : Observes ReplayEvent.IsLook first last) : Holding settings computation last := by
  constructor
  · exact holding.steady.observes observed.input
  · obtain ⟨suffix, grown, looks⟩ := observed.log
    rw [grown]
    exact holding.pending.append fun event member => (looks event member).isInput.continues

theorem receiveState_received :
    Program.Triple settings.Steady world.receiveState (Received settings) settings.Steady := by
  have receives := (steady_triple settings world.receiveState_observes).both
    world.receiveState_triple
  apply receives.consequence
  · exact fun _ steady => ⟨steady, trivial⟩
  · exact fun _ _ ⟨steady, received⟩ => ⟨steady, received⟩
  · exact fun _ ends => ends.1

theorem requireSnapshot_sensed (missing : String) :
    Program.Triple (Received settings state) (world.requireSnapshot settings missing)
      (fun sample => Sensed settings state sample) settings.Steady := by
  have keeps : Program.Triple (Received settings state) (world.requireSnapshot settings missing)
      (fun _ => Received settings state) settings.Steady :=
    Program.Respects.triple (world.requireSnapshot_observes settings missing)
      (fun _ _ observed known => known.looks observed)
      fun _ _ observed known => (known.looks observed).steady
  have finds := keeps.both (world.requireSnapshot_triple settings missing)
  apply finds.consequence
  · exact fun _ known => ⟨known, trivial⟩
  · exact fun _ _ ⟨known, sampled⟩ => { known with sampled }
  · exact fun _ ends => ends.1

/-- A computation is logged with what it was made from. -/
theorem compute_triple :
    Program.Triple settings.Steady (world.compute settings) (Holding settings)
      settings.Steady := by
  refine Program.Triple.bind world.receiveState_received fun state => ?_
  refine Program.Triple.bind (world.requireSnapshot_sensed "IMU missing") fun sample => ?_
  have computes : Program.Triple (Sensed settings state sample)
      (ReplayState.onPipeline (settings.computeTarget state sample))
      (fun target replay => Sensed settings state sample replay ∧ ∃ pipeline final,
        settings.computeTarget state sample pipeline = (.done target, final))
      (Sensed settings state sample) := by
    apply Program.Triple.zoom_aside
    intro pipeline replay ⟨⟨⟨justified, maxAge⟩, received⟩, sampled⟩
    exact ⟨⟨⟨justified, maxAge⟩, received⟩, sampled⟩
  refine Program.Triple.bind (computes.consequence (fun _ => id) (fun _ _ => id)
    fun _ known => known.steady) fun target => ?_
  refine Program.Triple.bind (Program.Triple.modify _ fun replay ⟨known, computed⟩ => ?_)
    fun _ => Program.Triple.pure _ fun _ => id
  constructor
  · exact known.steady.record ⟨known.received, known.sampled, computed⟩
  · exact Recheck.pending_concat rfl

/-- The channel lets a checked target through only if its state is fresh enough. -/
theorem onChannel_send_triple {target : ImpedanceTarget ℚ} {now : ℕ} {delivered : Bool} :
    Program.Triple (Checked settings computation now)
      (ReplayState.onChannel
        (PolicyStateChannel.send target.doubles computation.state now delivered))
      (fun packet replay => Checked settings computation now replay ∧
        computation.state.stamp ≤ now ∧ now - computation.state.stamp ≤ 100000000 ∧
        packet.Carries target computation.state.sequence now)
      settings.Steady := by
  have keeps : (ReplayState.onChannel (K := K)
      (PolicyStateChannel.send target.doubles computation.state now delivered)).Respects
        fun first last => last.log = first.log ∧ last.channel.maxAge = first.channel.maxAge :=
    fun first => ⟨rfl, PolicyStateChannel.send_leaves _ _ _ _ first.channel⟩
  have keeping : Program.Triple (Checked settings computation now)
      (ReplayState.onChannel
        (PolicyStateChannel.send target.doubles computation.state now delivered))
      (fun _ => Checked settings computation now) (Checked settings computation now) := by
    have carries : ∀ first last : ReplayState K,
        last.log = first.log ∧ last.channel.maxAge = first.channel.maxAge →
        Checked settings computation now first → Checked settings computation now last := by
      intro first last ⟨log, maxAge⟩ ⟨steady, measured⟩
      constructor
      · exact steady.observes (observes_of_eq log maxAge)
      · rw [log]
        exact measured
    exact Program.Respects.triple keeps carries carries
  have sends : Program.Triple (fun replay : ReplayState K => replay.channel.maxAge = 100000000)
      (ReplayState.onChannel
        (PolicyStateChannel.send target.doubles computation.state now delivered))
      (fun packet _ => computation.state.stamp ≤ now ∧
        now - computation.state.stamp ≤ 100000000 ∧
        packet.Carries target computation.state.sequence now) fun _ => True :=
    Program.Triple.zoom PolicyStateChannel.send_triple fun _ _ => rfl
  apply (keeping.both sends).consequence
  · exact fun _ checked => ⟨checked, checked.steady.maxAge⟩
  · exact fun _ _ => id
  · exact fun _ ends => ends.1.steady

/-- What the check after a reading lets through is sent with its reason. -/
theorem sendTarget_triple {now : ℕ} (started : computation.sample.start ≤ now)
    (aged : now - computation.sample.start ≤ 30000000) :
    Program.Triple (Checked settings computation now)
      (world.sendTarget (settings.outgoing computation.target) computation.state now)
      (fun _ => settings.Steady) settings.Steady := by
  refine Program.Triple.get_bind fun asked => ?_
  have counted : Program.Triple (ε := String)
      (fun replay => Checked settings computation now replay ∧ replay = asked)
      (Program.modify fun replay => { replay with sends := replay.sends + 1 })
      (fun _ => Checked settings computation now) settings.Steady :=
    Program.Triple.modify _ fun _ ⟨⟨⟨justified, maxAge⟩, measured⟩, _⟩ =>
      ⟨⟨justified, maxAge⟩, measured⟩
  refine Program.Triple.bind counted fun _ => ?_
  refine Program.Triple.bind onChannel_send_triple fun packet => ?_
  apply Program.Triple.modify
  intro replay ⟨checked, stamped, fresh, carries⟩
  exact checked.steady.record ⟨computation, now, checked.measured,
    ⟨started, aged, stamped, fresh⟩, carries⟩

theorem round_triple (index : ℕ) :
    Program.Triple settings.Steady (world.round settings index) (fun _ => settings.Steady)
      settings.Steady := by
  refine Program.Triple.bind world.compute_triple fun computation => ?_
  have looks : Program.Triple (Holding settings computation)
      (world.requireSnapshot settings "IMU missing before send")
      (fun _ => Holding settings computation) settings.Steady :=
    Program.Respects.triple (world.requireSnapshot_observes settings _)
      (fun _ _ observed holding => holding.looks observed)
      fun _ _ observed holding => (holding.looks observed).steady
  refine Program.Triple.bind looks fun _ => ?_
  have reads : Program.Triple (Holding settings computation) world.monotonicNs
      (fun now => Checked settings computation now) settings.Steady := by
    intro replay holding
    rw [monotonicNs_apply, Program.Ends.done_iff]
    constructor
    · exact holding.steady.observes (world.observes_read replay).input
    · exact holding.pending.measured ⟨rfl, rfl⟩ rfl
  refine Program.Triple.bind reads fun now => ?_
  refine Program.Triple.throwIf_bind (fun _ _ known => known.steady) fun passed => ?_
  obtain ⟨started, aged⟩ := not_or.mp passed
  refine Program.Triple.bind
    (world.sendTarget_triple (not_lt.mp started) (not_lt.mp aged)) fun _ => ?_
  cases world.evidence index with
  | none => exact Program.Triple.pure () fun _ => id
  | some what => exact Program.Triple.throw what fun _ => id

/-- Every run keeps the invariant, however it ends. -/
theorem run_steady (count : ℕ) {replay : ReplayState K} (steady : settings.Steady replay) :
    settings.Steady (world.run settings count replay).2 := by
  have rounds : Program.Triple settings.Steady
      (Program.forEach (List.range count) (world.round settings))
      (fun _ => settings.Steady) settings.Steady :=
    Program.Triple.forEach_keeps world.round_triple
  have handled : Program.Triple settings.Steady (world.run settings count)
      (fun _ => settings.Steady) settings.Steady := by
    refine Program.Triple.tryCatch rounds (fun error => ?_) fun _ => id
    refine Program.Triple.bind (Program.Triple.modify _ fun _ known => ?_)
      fun _ => Program.Triple.throw error fun _ => id
    exact ⟨known.justified, known.maxAge⟩
  exact Program.Triple.last_iff.mp handled replay steady

end ReplayWorld

end SpriteRuntime
