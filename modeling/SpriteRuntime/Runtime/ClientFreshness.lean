import SpriteRuntime.Foundation.ProgramSteps
import SpriteRuntime.Native.ReplayFreshness
import SpriteRuntime.Runtime.NativePolicyClient

/-!
# Freshness in the policy clients

The Python client checks the stamps of the packets that its shadow holds against a new reading
of the clock, as the native loop does with its sample.  A target that either of them sends has
passed its last check.
-/

namespace SpriteRuntime

open Foundation

namespace ClientEvent

def received? : ClientEvent → Option NativeStatePacket
  | .received state => some state
  | _ => none

def raw? : ClientEvent → Option ((Fin 9 → ℤ) × ℤ)
  | .accepted (.rawImu counts) receivedNs => some (counts, receivedNs)
  | _ => none

def quaternion? : ClientEvent → Option ((Fin 4 → ℕ) × ℤ)
  | .accepted (.quaternion wxyz) receivedNs => some (wxyz, receivedNs)
  | _ => none

/-- How the log of the client is read. -/
def recheck : Recheck ClientEvent PolicyComputation ℤ PolicyTargetPacket where
  computed?
    | .computed computation => some computation
    | _ => none
  measured?
    | .reading nowNs => some nowNs
    | _ => none
  committed?
    | .sent packet => some packet
    | _ => none

def IsReading : ClientEvent → Prop
  | .reading _ => True
  | _ => False

/-- A reading or a packet of the IMU. -/
def IsLook : ClientEvent → Prop
  | .reading _ => True
  | .accepted _ _ => True
  | _ => False

end ClientEvent

/-- A stamp that is neither in the future nor old. -/
structure FreshStamp (stampNs nowNs : ℤ) : Prop where
  positive : 0 < stampNs
  past : stampNs ≤ nowNs
  age : nowNs - stampNs ≤ 30000000

/-- Both packets of a computation are fresh at a reading of the clock. -/
structure PolicyComputation.FreshAt (computation : PolicyComputation) (nowNs : ℤ) : Prop where
  raw : FreshStamp computation.rawNs nowNs
  quaternion : FreshStamp computation.quaternionNs nowNs

namespace ClientRun

variable (run : ClientRun)

/-- The conditions on a packet that is sent for a computation after a reading of the clock. -/
structure Allows (computation : PolicyComputation) (nowNs : ℤ) (packet : PolicyTargetPacket) :
    Prop where
  fresh : computation.FreshAt nowNs
  source : packet.sourceStateSequence = computation.state.sequence
  carries : ∃ sequence stampNs, packet =
    run.targetPacket sequence stampNs computation.state computation.processed.target

/-- What a computation was made from: the last state and the last packets in the log. -/
structure Computed (before : List ClientEvent) (computation : PolicyComputation) : Prop where
  received : latest ClientEvent.received? before = some computation.state
  raw : latest ClientEvent.raw? before = some (computation.raw, computation.rawNs)
  quaternion : latest ClientEvent.quaternion? before =
    some (computation.quaternion, computation.quaternionNs)
  inferred : ∃ client final,
    client.shadow.latestRawImu = some computation.raw ∧
      client.shadow.latestQuaternion = some computation.quaternion ∧
      run.motorStates computation.state = .ok client.shadow.motorStates ∧
      run.computeTarget computation.state client = (.done computation.processed, final)

/-- Why an event of the client may happen. -/
def Reason (before : List ClientEvent) : ClientEvent → Prop
  | .computed computation => run.Computed before computation
  | .sent packet => ClientEvent.recheck.Reason run.Allows before packet
  | _ => True

end ClientRun

/-! ## What the steps log -/

/-- The stamps of the client belong to the packets that its shadow holds. -/
structure Linked (client : ClientState) : Prop where
  raw : latest ClientEvent.raw? client.log =
    client.shadow.latestRawImu.map fun counts => (counts, client.lastRawImuNs)
  quaternion : latest ClientEvent.quaternion? client.log =
    client.shadow.latestQuaternion.map fun wxyz => (wxyz, client.lastQuaternionNs)

/-- The packets and states that the client holds. -/
def ClientState.sensed (client : ClientState) :
    Option (Fin 9 → ℤ) × Option (Fin 4 → ℕ) × Dictionary MotorReading × ℤ × ℤ :=
  (client.shadow.latestRawImu, client.shadow.latestQuaternion, client.shadow.motorStates,
    client.lastRawImuNs, client.lastQuaternionNs)

/-- The clock may be read; what the client holds stays. -/
structure Reads (first last : ClientState) : Prop where
  log : Extends ClientState.log ClientEvent.IsReading first last
  sensed : last.sensed = first.sensed

/-- The IMU may be drained too. -/
structure Looks (first last : ClientState) : Prop where
  log : Extends ClientState.log ClientEvent.IsLook first last
  linked : Linked first → Linked last
  motorStates : last.shadow.motorStates = first.shadow.motorStates

instance : IsPreorder ClientState Reads where
  refl client := ⟨refl client, rfl⟩
  trans _ _ _ left right := ⟨trans_of _ left.log right.log, right.sensed.trans left.sensed⟩

instance : IsPreorder ClientState Looks where
  refl client := ⟨refl client, id, rfl⟩
  trans _ _ _ left right :=
    ⟨trans_of _ left.log right.log, right.linked ∘ left.linked,
      right.motorStates.trans left.motorStates⟩

namespace ClientEvent

variable {event : ClientEvent}

theorem IsReading.isLook (reading : event.IsReading) : event.IsLook := by
  cases event with
  | reading nowNs => trivial
  | _ => exact reading.elim

theorem IsReading.raw?_eq (reading : event.IsReading) : event.raw? = none := by
  cases event with
  | reading nowNs => rfl
  | _ => exact reading.elim

theorem IsReading.quaternion?_eq (reading : event.IsReading) : event.quaternion? = none := by
  cases event with
  | reading nowNs => rfl
  | _ => exact reading.elim

theorem IsReading.continues (reading : event.IsReading) : recheck.Continues event := by
  cases event with
  | reading nowNs => exact ⟨rfl, rfl⟩
  | _ => exact reading.elim

theorem IsLook.received?_eq (look : event.IsLook) : event.received? = none := by
  cases event with
  | reading nowNs => rfl
  | accepted packet receivedNs => rfl
  | _ => exact look.elim

theorem IsLook.reason (look : event.IsLook) (run : ClientRun) (before : List ClientEvent) :
    run.Reason before event := by
  cases event with
  | reading nowNs => trivial
  | accepted packet receivedNs => trivial
  | _ => exact look.elim

end ClientEvent

section Relations

variable {first last client : ClientState}

theorem Reads.linked (reads : Reads first last) (linked : Linked first) : Linked last := by
  obtain ⟨suffix, grown, readings⟩ := reads.log
  have same := reads.sensed
  simp only [ClientState.sensed, Prod.mk.injEq] at same
  obtain ⟨raw, quaternion, _, rawNs, quaternionNs⟩ := same
  constructor
  · rw [grown, latest_append_of_none _ fun event member => (readings event member).raw?_eq,
      linked.raw, raw, rawNs]
  · rw [grown, latest_append_of_none _ fun event member => (readings event member).quaternion?_eq,
      linked.quaternion, quaternion, quaternionNs]

theorem Reads.looks (reads : Reads first last) : Looks first last where
  log := reads.log.mono fun _ => ClientEvent.IsReading.isLook
  linked := reads.linked
  motorStates := congrArg (fun sensed => sensed.2.2.1) reads.sensed

theorem Reads.of_eq (log : last.log = first.log) (sensed : last.sensed = first.sensed) :
    Reads first last :=
  ⟨Extends.of_eq log, sensed⟩

theorem Looks.of_eq (log : last.log = first.log) (sensed : last.sensed = first.sensed) :
    Looks first last :=
  (Reads.of_eq log sensed).looks

/-- A packet is taken with its stamp. -/
theorem looks_acceptImu (packet : YahboomPacket) (receivedNs : ℤ) (client : ClientState) :
    Looks client (client.acceptImu packet receivedNs) where
  log := by
    refine ⟨[.accepted packet receivedNs], ?_, ?_⟩
    · cases packet <;> rfl
    · intro event member
      rw [List.mem_singleton.mp member]
      trivial
  linked linked := by
    cases packet with
    | rawImu counts =>
        constructor
        · exact latest_concat _ _ _
        · exact (latest_concat _ _ _).trans linked.quaternion
    | quaternion wxyz =>
        constructor
        · exact (latest_concat _ _ _).trans linked.raw
        · exact latest_concat _ _ _
    | euler rollPitchYaw =>
        constructor
        · exact (latest_concat _ _ _).trans linked.raw
        · exact (latest_concat _ _ _).trans linked.quaternion
  motorStates := by cases packet <;> rfl

theorem looks_acceptAll (deliveries : List Delivery) (client : ClientState) :
    Looks client (deliveries.foldl
      (fun client delivery => client.acceptImu delivery.packet delivery.receivedNs) client) := by
  induction deliveries generalizing client with
  | nil => exact refl client
  | cons delivery rest induction =>
      have head := looks_acceptImu delivery.packet delivery.receivedNs client
      exact trans_of Looks head (induction _)

end Relations

namespace ClientRun

variable (run : ClientRun)

/-! ## The programs -/

section Programs

open Program

theorem monotonicNs_reads : run.monotonicNs.Respects Reads := by
  refine Respects.bind Respects.get fun client => ?_
  refine Respects.bind (Respects.modify fun first => ?_) fun _ => Respects.pure _
  refine ⟨⟨[.reading (run.clock first.readings)], rfl, ?_⟩, rfl⟩
  intro event member
  rw [List.mem_singleton.mp member]
  trivial

theorem looks_of_reads {α : Type} {program : Program ClientState String α}
    (reads : program.Respects Reads) : program.Respects Looks :=
  fun client => (reads client).looks

theorem drainSerial_looks (input : DrainInput) : (drainSerial input).Respects Looks := by
  have accepts : ∀ before, (Program.modify (ε := String)
      (ClientState.acceptSince before)).Respects Looks :=
    fun before client => looks_acceptAll (client.receive.accepted.drop before) client
  refine Respects.bind Respects.get fun client => ?_
  refine Respects.bind (Respects.tryCatch ?_ fun error => ?_) fun _ => accepts _
  · intro first
    exact Looks.of_eq rfl rfl
  · exact Respects.bind (accepts _) fun _ => Respects.throw error

theorem drainBno_looks (error : Option String) (sample : Option BnoSample) :
    (run.drainBno error sample).Respects Looks := by
  cases error with
  | some error => exact Respects.throw error
  | none =>
      cases sample with
      | none => exact Respects.pure ()
      | some sample =>
          refine Respects.bind (looks_of_reads run.monotonicNs_reads) fun nowNs => ?_
          refine Respects.bind (Respects.ofExcept _) fun _ => ?_
          refine Respects.bind Respects.get fun client => ?_
          apply Respects.runIf
          refine Respects.bind (Respects.forEach fun packet _ => ?_) fun _ => ?_
          · exact Respects.modify (looks_acceptImu packet sample.readStartNs)
          · exact Respects.modify fun first => Looks.of_eq rfl rfl

theorem updateImu_looks (answer : ImuAnswer) : (run.updateImu answer).Respects Looks := by
  cases answer with
  | serial input => exact drainSerial_looks input
  | bno error sample => exact run.drainBno_looks error sample

theorem requireFresh_reads : run.requireFresh.Respects Reads := by
  refine Respects.bind run.monotonicNs_reads fun nowNs => ?_
  exact Respects.bind Respects.get fun client => Respects.ofExcept _

theorem profileCommand_reads (stampNs : ℤ) : (run.profileCommand stampNs).Respects Reads := by
  unfold profileCommand
  cases run.commandProfile with
  | none => exact Respects.pure ()
  | some profile =>
      refine Respects.bind (Respects.modify fun _ => Reads.of_eq rfl rfl) fun _ => ?_
      refine Respects.bind Respects.get fun client => ?_
      refine Respects.bind (Respects.ofExcept _) fun scheduled => ?_
      exact Respects.modify fun _ => Reads.of_eq rfl rfl

/-- What the shadow holds of its sensors. -/
def sensors (shadow : LiveShadow) :
    Option (Fin 9 → ℤ) × Option (Fin 4 → ℕ) × Dictionary MotorReading :=
  (shadow.latestRawImu, shadow.latestQuaternion, shadow.motorStates)

theorem inferPolicyTarget_leaves (setup : ShadowSetup) (nowNs : ℤ) :
    (inferPolicyTarget setup nowNs).Leaves sensors := by
  have runs : (setup.runPolicy nowNs).Leaves sensors := by
    refine Respects.bind Respects.get fun shadow => ?_
    refine Respects.bind (Respects.ofExcept _) fun input => ?_
    refine Respects.bind (Leaves.zoom fun _ _ => rfl) fun tick => ?_
    refine Respects.bind (Respects.ofExcept _) fun target => ?_
    refine Respects.bind (Respects.modify fun _ => rfl) fun _ => ?_
    exact Respects.pure _
  refine Respects.bind Respects.get fun shadow => ?_
  refine Respects.bind (Respects.throwIf _) fun _ => ?_
  exact Respects.bind runs fun inference => Respects.pure _

theorem replayTarget_reads (target : ImpedanceTarget ℚ) (measured : Index → Double) :
    (run.replayTarget target measured).Respects Reads := by
  unfold replayTarget
  cases run.actionReplay with
  | none => exact Respects.pure target
  | some positionDelta =>
      refine Respects.bind (Respects.modify fun _ => Reads.of_eq rfl rfl) fun _ => ?_
      exact Respects.bind Respects.get fun client => Respects.ofExcept _

theorem protect_reads (raw : ImpedanceTarget ℚ) (measured : Index → Double) :
    (protect raw measured).Respects Reads := by
  refine Respects.bind Respects.get fun client => ?_
  cases client.protection with
  | none => exact Respects.pure _
  | some protection => exact fun first => Reads.of_eq rfl rfl

theorem computeTarget_reads (state : NativeStatePacket) :
    (run.computeTarget state).Respects Reads := by
  refine Respects.bind Respects.get fun client => ?_
  refine Respects.bind (Respects.ofExcept _) fun input => ?_
  refine Respects.bind (fun first => ?_) fun inferred => ?_
  · have kept := inferPolicyTarget_leaves { run.shadow with command := client.command }
      state.monotonicNs first.shadow
    refine Reads.of_eq rfl ?_
    exact congrArg (fun known => (known.1, known.2.1, known.2.2,
      first.lastRawImuNs, first.lastQuaternionNs)) kept
  · refine Respects.bind (run.replayTarget_reads _ _) fun raw => ?_
    exact protect_reads raw _

theorem checkClamps_reads (processed : ProcessedTarget) :
    (run.checkClamps processed).Respects Reads := by
  unfold checkClamps
  cases run.clampWatchdog with
  | none => exact Respects.pure ()
  | some watchdog =>
      intro client
      dsimp only
      split <;> exact Reads.of_eq rfl rfl

end Programs

/-! ## A round -/

/-- The invariant between the rounds. -/
structure Steady (client : ClientState) : Prop where
  justified : Justified run.Reason client.log
  linked : Linked client

/-- The state of a round has been taken. -/
structure Taken (state : NativeStatePacket) (client : ClientState) : Prop where
  steady : run.Steady client
  received : latest ClientEvent.received? client.log = some state
  motorStates : run.motorStates state = .ok client.shadow.motorStates

/-- A target that was computed and not yet sent. -/
structure Holding (computation : PolicyComputation) (client : ClientState) : Prop where
  steady : run.Steady client
  pending : ClientEvent.recheck.Pending client.log computation
  rawNs : client.lastRawImuNs = computation.rawNs
  quaternionNs : client.lastQuaternionNs = computation.quaternionNs

/-- A computation with the last reading since, which its packets have passed. -/
structure Checked (computation : PolicyComputation) (client : ClientState) : Prop where
  steady : run.Steady client
  passed : ∃ nowNs, ClientEvent.recheck.Measured client.log computation nowNs ∧
    computation.FreshAt nowNs

variable {run} {state : NativeStatePacket} {computation : PolicyComputation}
  {first last client : ClientState}

theorem Steady.looks (steady : run.Steady first) (looks : Looks first last) : run.Steady last := by
  obtain ⟨suffix, grown, entries⟩ := looks.log
  constructor
  · rw [grown]
    exact steady.justified.append_unreasoned fun event member => (entries event member).reason run
  · exact looks.linked steady.linked

theorem Taken.looks (taken : run.Taken state first) (looks : Looks first last) :
    run.Taken state last := by
  refine ⟨taken.steady.looks looks, ?_, ?_⟩
  · obtain ⟨suffix, grown, entries⟩ := looks.log
    rw [grown, latest_append_of_none _ fun event member => (entries event member).received?_eq]
    exact taken.received
  · rw [looks.motorStates]
    exact taken.motorStates

theorem Holding.reads (holding : run.Holding computation first) (reads : Reads first last) :
    run.Holding computation last := by
  have same := reads.sensed
  simp only [ClientState.sensed, Prod.mk.injEq] at same
  obtain ⟨_, _, _, rawNs, quaternionNs⟩ := same
  refine ⟨holding.steady.looks reads.looks, ?_, rawNs.trans holding.rawNs,
    quaternionNs.trans holding.quaternionNs⟩
  obtain ⟨suffix, grown, readings⟩ := reads.log
  rw [grown]
  exact holding.pending.append fun event member => (readings event member).continues

theorem requireFreshStamp_eq_ok {name : String} {timestampNs nowNs : ℤ} :
    requireFreshStamp name timestampNs nowNs = .ok () ↔ FreshStamp timestampNs nowNs := by
  simp only [requireFreshStamp, except_bind_eq_ok, raiseIf_eq_ok, not_or, not_le, not_lt]
  constructor
  · rintro ⟨_, ⟨positive, past⟩, age⟩
    exact ⟨positive, past, age⟩
  · rintro ⟨positive, past, age⟩
    exact ⟨(), ⟨positive, past⟩, age⟩

theorem requireFreshImu_eq_ok {rawNs quaternionNs nowNs : ℤ} :
    requireFreshImu rawNs quaternionNs nowNs = .ok () ↔
      FreshStamp rawNs nowNs ∧ FreshStamp quaternionNs nowNs := by
  simp only [requireFreshImu, except_bind_eq_ok, requireFreshStamp_eq_ok]
  constructor
  · intro ⟨_, raw, quaternion⟩
    exact ⟨requireFreshStamp_eq_ok.mp raw, quaternion⟩
  · intro ⟨raw, quaternion⟩
    exact ⟨(), requireFreshStamp_eq_ok.mpr raw, quaternion⟩

open Program

/-- What reads the clock or drains the IMU keeps what is known of the state. -/
theorem taken_triple {α : Type} {program : Program ClientState String α}
    (looks : program.Respects Looks) :
    Triple (run.Taken state) program (fun _ => run.Taken state) run.Steady :=
  Respects.triple looks (fun _ _ looked taken => taken.looks looked)
    fun _ _ looked taken => (taken.looks looked).steady

theorem holding_triple {α : Type} {program : Program ClientState String α}
    (reads : program.Respects Reads) :
    Triple (run.Holding computation) program (fun _ => run.Holding computation) run.Steady :=
  Respects.triple reads (fun _ _ reading holding => holding.reads reading)
    fun _ _ reading holding => (holding.reads reading).steady

theorem steady_triple {α : Type} {program : Program ClientState String α}
    (looks : program.Respects Looks) :
    Triple run.Steady program (fun _ => run.Steady) run.Steady :=
  Respects.triple looks (fun _ _ looked steady => steady.looks looked)
    fun _ _ looked steady => steady.looks looked

theorem takeState_triple (payload : List UInt8) :
    Triple run.Steady (run.takeState payload) run.Taken run.Steady := by
  refine Triple.bind (Triple.ofExcept (fun _ _ _ => id) fun _ _ _ => id) fun state => ?_
  refine Triple.throwIf_bind (fun _ _ => id) fun _ => ?_
  refine Triple.get_bind fun known => ?_
  refine Triple.throwIf_bind (fun _ _ before => before.1) fun _ => ?_
  have counted : Triple (ε := String) (fun client => run.Steady client ∧ client = known)
      (Program.modify fun client => { client with
        lastStateSequence := state.sequence
        stateCount := client.stateCount + 1 })
      (fun _ => run.Steady) run.Steady :=
    Triple.modify _ fun _ ⟨steady, _⟩ => steady.looks (Looks.of_eq rfl rfl)
  refine Triple.bind counted fun _ => ?_
  have converted : Triple run.Steady (Program.ofExcept (run.motorStates state))
      (fun motors client => run.Steady client ∧ run.motorStates state = .ok motors) run.Steady :=
    Triple.ofExcept (fun _ same _ steady => ⟨steady, same⟩) fun _ _ _ => id
  refine Triple.bind converted fun motors => ?_
  have stored : Triple (ε := String)
      (fun client => run.Steady client ∧ run.motorStates state = .ok motors)
      (Program.modify fun client =>
        { client with shadow := { client.shadow with motorStates := motors } })
      (fun _ client => run.Steady client ∧ run.motorStates state = .ok client.shadow.motorStates)
      run.Steady :=
    Triple.modify _ fun _ ⟨⟨justified, raw, quaternion⟩, same⟩ =>
      ⟨⟨justified, raw, quaternion⟩, same⟩
  refine Triple.bind stored fun _ => ?_
  refine Triple.bind (Triple.modify _ fun client ⟨steady, same⟩ => ?_)
    fun _ => Triple.pure state fun _ => id
  refine ⟨⟨steady.justified.concat trivial, ?_, ?_⟩, latest_concat _ _ _, same⟩
  · exact (latest_concat _ _ _).trans steady.linked.raw
  · exact (latest_concat _ _ _).trans steady.linked.quaternion

/-- A computation needs both packets. -/
theorem exists_packets {final : ClientState} {processed : ProcessedTarget}
    (computed : run.computeTarget state client = (.done processed, final)) :
    ∃ raw quaternion, client.shadow.latestRawImu = some raw ∧
      client.shadow.latestQuaternion = some quaternion := by
  obtain ⟨_, _, got, rest⟩ := bind_eq_done_iff.mp computed
  obtain ⟨rfl, rfl⟩ := get_eq_done_iff.mp got
  obtain ⟨input, _, sensed, _⟩ := bind_eq_done_iff.mp rest
  have returned := (ofExcept_eq_done_iff.mp sensed).1
  simp only [ShadowSetup.jointAndImuState, except_bind_eq_ok] at returned
  obtain ⟨_, _, _, _, matched⟩ := returned
  split at matched
  next raw quaternion hasRaw hasQuaternion => exact ⟨raw, quaternion, hasRaw, hasQuaternion⟩
  next => cases matched

theorem compute_triple :
    Triple (run.Taken state) (run.compute state)
      (fun computation client => run.Holding computation client ∧ computation.state = state)
      run.Steady := by
  refine Triple.get_bind fun known => ?_
  have computes : Triple (fun client => run.Taken state client ∧ client = known)
      (run.computeTarget state)
      (fun _ client => run.Taken state client ∧ client.sensed = known.sensed) run.Steady := by
    apply Respects.triple (run.computeTarget_reads state)
    · intro first last reads ⟨taken, same⟩
      exact ⟨taken.looks reads.looks, same ▸ reads.sensed⟩
    · intro first last reads ⟨taken, _⟩
      exact (taken.looks reads.looks).steady
  refine Triple.bind computes.remembering fun processed => ?_
  refine Triple.bind (Triple.modify _ ?_) fun _ => Triple.pure _ fun _ => id
  intro client ⟨⟨taken, same⟩, first, began, computed⟩
  obtain ⟨before, rfl⟩ := began
  obtain ⟨raw, quaternion, hasRaw, hasQuaternion⟩ := exists_packets computed
  simp only [ClientState.sensed, Prod.mk.injEq] at same
  obtain ⟨rawSame, quaternionSame, _, rawNs, quaternionNs⟩ := same
  have reason : run.Computed client.log
      { state
        raw := first.shadow.latestRawImu.getD 0
        rawNs := first.lastRawImuNs
        quaternion := first.shadow.latestQuaternion.getD 0
        quaternionNs := first.lastQuaternionNs
        processed } := by
    constructor
    · exact taken.received
    · rw [taken.steady.linked.raw, rawSame, rawNs, hasRaw]
      rfl
    · rw [taken.steady.linked.quaternion, quaternionSame, quaternionNs, hasQuaternion]
      rfl
    · refine ⟨first, client, ?_, ?_, before.motorStates, computed⟩
      · rw [hasRaw]
        rfl
      · rw [hasQuaternion]
        rfl
  refine ⟨⟨⟨taken.steady.justified.concat reason, ?_, ?_⟩, Recheck.pending_concat rfl, rawNs,
    quaternionNs⟩, rfl⟩
  · exact (latest_concat _ _ _).trans taken.steady.linked.raw
  · exact (latest_concat _ _ _).trans taken.steady.linked.quaternion

/-- The check of the stamps passes only at a reading at which the packets are fresh. -/
theorem requireFresh_checked :
    Triple (run.Holding computation) run.requireFresh (fun _ => run.Checked computation)
      run.Steady := by
  have reads : Triple (run.Holding computation) run.monotonicNs
      (fun nowNs client => run.Holding computation client ∧
        ClientEvent.recheck.Measured client.log computation nowNs) run.Steady := by
    intro client holding
    have after := holding.reads (run.monotonicNs_reads client)
    exact Ends.done_iff.mpr ⟨after, holding.pending.measured ⟨rfl, rfl⟩ rfl⟩
  refine Triple.bind reads fun nowNs => ?_
  refine Triple.get_bind fun known => ?_
  apply Triple.ofExcept
  · intro _ passed client ⟨⟨holding, measured⟩, same⟩
    obtain ⟨raw, quaternion⟩ := requireFreshImu_eq_ok.mp passed
    subst same
    rw [holding.rawNs] at raw
    rw [holding.quaternionNs] at quaternion
    exact ⟨holding.steady, nowNs, measured, raw, quaternion⟩
  · exact fun _ _ _ before => before.1.1.steady

theorem sendTarget_triple {packet : PolicyTargetPacket} {sequence stampNs : ℤ}
    (carries : packet =
      run.targetPacket sequence stampNs computation.state computation.processed.target)
    (send : SendAnswer) :
    Triple (run.Holding computation) (run.sendTarget packet send) (fun _ => run.Steady)
      run.Steady := by
  refine Triple.bind requireFresh_checked fun _ => ?_
  refine Triple.bind (Triple.ofExcept (fun _ _ _ => id) fun _ _ _ checked => checked.steady)
    fun payload => ?_
  cases send with
  | sent =>
      have commits : Triple (ε := String) (run.Checked computation)
          (Program.modify (ClientState.record (.sent packet))) (fun _ => run.Steady)
          run.Steady := by
        apply Triple.modify
        intro client ⟨steady, nowNs, measured, fresh⟩
        have allowed : run.Allows computation nowNs packet :=
          { fresh
            source := congrArg PolicyTargetPacket.sourceStateSequence carries
            carries := ⟨sequence, stampNs, carries⟩ }
        refine ⟨steady.justified.concat ⟨computation, nowNs, measured, allowed⟩, ?_, ?_⟩
        · exact (latest_concat _ _ _).trans steady.linked.raw
        · exact (latest_concat _ _ _).trans steady.linked.quaternion
      refine Triple.bind commits fun _ => ?_
      refine Triple.bind (steady_triple (Respects.modify fun _ => Looks.of_eq rfl rfl)) fun _ => ?_
      exact Triple.pure true fun _ => id
  | brokenPipe =>
      refine Triple.get_bind fun known => ?_
      refine Triple.throwIf_bind (fun _ _ before => before.1.steady) fun _ => ?_
      exact Triple.pure false fun _ before => before.1.steady
  | failed error => exact Triple.throw error fun _ checked => checked.steady

theorem answerState_triple (state : NativeStatePacket) (send : SendAnswer) :
    Triple (run.Taken state) (run.answerState state send) (fun _ => run.Steady) run.Steady := by
  refine Triple.bind (taken_triple (looks_of_reads run.requireFresh_reads)) fun _ => ?_
  refine Triple.bind (taken_triple (looks_of_reads (run.profileCommand_reads _))) fun _ => ?_
  refine Triple.bind compute_triple fun computation => ?_
  refine Triple.assuming fun same => ?_
  refine Triple.bind (holding_triple (Respects.modify fun _ => Reads.of_eq rfl rfl)) fun _ => ?_
  refine Triple.get_bind fun known => ?_
  have stamps : Triple (run.Holding computation) run.monotonicNs
      (fun _ => run.Holding computation) run.Steady :=
    holding_triple run.monotonicNs_reads
  refine Triple.bind (stamps.consequence (fun _ before => before.1) (fun _ _ => id) fun _ => id)
    fun stampNs => ?_
  refine Triple.bind (holding_triple run.requireFresh_reads) fun _ => ?_
  refine Triple.bind (holding_triple (run.checkClamps_reads _)) fun _ => ?_
  rw [← same]
  exact sendTarget_triple rfl send

theorem handle_triple (input : ClientInput) :
    Triple run.Steady (run.handle input) (fun _ => run.Steady) run.Steady := by
  cases input with
  | imu answer =>
      exact Triple.bind (steady_triple (run.updateImu_looks answer)) fun _ =>
        Triple.pure true fun _ => id
  | state message answer send =>
      cases message with
      | reset =>
          refine Triple.get_bind fun known => ?_
          refine Triple.throwIf_bind (fun _ _ before => before.1) fun _ => ?_
          exact Triple.pure false fun _ before => before.1
      | failed error => exact Triple.throw error fun _ => id
      | payload bytes =>
          cases bytes with
          | nil => exact Triple.pure false fun _ => id
          | cons first rest =>
              refine Triple.bind (takeState_triple _) fun state => ?_
              refine Triple.bind (taken_triple (run.updateImu_looks answer)) fun _ => ?_
              refine Triple.get_bind fun known => ?_
              by_cases ready : run.shadow.ready known.shadow = true
              · simp only [if_pos ready]
                exact (answerState_triple state send).consequence (fun _ before => before.1)
                  (fun _ _ => id) fun _ => id
              · simp only [if_neg ready]
                exact Triple.pure true fun _ before => before.1.steady

theorem loop_triple (inputs : List ClientInput) :
    Triple run.Steady (run.loop inputs) (fun _ => run.Steady) run.Steady := by
  induction inputs with
  | nil => exact Triple.pure () fun _ => id
  | cons input rest induction =>
      refine Triple.bind (handle_triple input) fun running => ?_
      cases running with
      | true => exact induction
      | false => exact Triple.pure () fun _ => id

/-- A session keeps the invariant, however it ends. -/
theorem session_steady (inputs : List ClientInput) (steady : run.Steady client) :
    run.Steady (run.session inputs client).2 := by
  have captured : Triple run.Steady (run.session inputs) (fun _ => run.Steady) run.Steady :=
    Triple.tryCatch (loop_triple inputs)
      (fun _ => steady_triple (Respects.modify fun _ => Looks.of_eq rfl rfl)) fun _ => id
  exact Triple.last_iff.mp captured client steady

theorem initial_steady (protection : Option ClientProtection) (decoder : YahboomStreamDecoder) :
    run.Steady (run.initial protection decoder) :=
  ⟨Justified.nil, rfl, rfl⟩

end ClientRun

/-- Whatever the clocks read, the sensors deliver and the computations take: a target that the
native loop or the Python client sends has its reason. -/
theorem policy_targets_fresh :
    (∀ (K : Type) [Field K] [LinearOrder K] [SquareRoots K] (settings : ReplaySettings K)
      (world : ReplayWorld K) (motorHash jointHash : ℕ) (imu : NativeImuClient K)
      (pipeline : PolicyPipeline) (count : ℕ),
      Justified settings.Reason
        (world.run settings count (.initial motorHash jointHash imu pipeline)).2.log) ∧
    ∀ (run : ClientRun) (protection : Option ClientProtection) (decoder : YahboomStreamDecoder)
      (inputs : List ClientInput),
      Justified run.Reason (run.session inputs (run.initial protection decoder)).2.log := by
  constructor
  · intro K _ _ _ settings world motorHash jointHash imu pipeline count
    have started : settings.Steady (.initial motorHash jointHash imu pipeline) :=
      ⟨Justified.nil, rfl⟩
    exact (world.run_steady count started).justified
  · intro run protection decoder inputs
    exact (ClientRun.session_steady inputs (ClientRun.initial_steady protection decoder)).justified

end SpriteRuntime
