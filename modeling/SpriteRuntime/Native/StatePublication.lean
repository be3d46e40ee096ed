import SpriteRuntime.Native.ActiveSlot

/-!
# How fresh a published state is

A state is published in every fortieth slot once every motor has been seen since the
drives were enabled.  The published position and velocity of a motor are those of its
latest reply.  Whether that reply is from the state period that the publication ends
depends on the motor: its `seen` is never reset.
-/

namespace SpriteRuntime

open Foundation

/-- The event begins a state period of the active loop. -/
def Event.startsPeriod : Event → Bool
  | .slot .active index => index % 40 == 0
  | _ => false

/-- The reply of a motor under its own controller id that reports no fault. -/
def Event.soundReply (setup : Setup) (index : Index) (event : Event) : Option Feedback :=
  (event.replyOf setup index).filter fun feedback =>
    decide (IdentityValid (setup.loaded.descriptor index) (-1) feedback)

/-- The events of the current state period. -/
def currentPeriod (trace : List Event) : List Event := since Event.startsPeriod trace

/-- Every motor has replied in the current state period. -/
def Answered (setup : Setup) (trace : List Event) : Prop :=
  ∀ index, ∃ event ∈ currentPeriod trace, ∃ feedback,
    event.soundReply setup index = some feedback

/-- What the packet says of each motor was decoded from a reply of the current state
period. -/
def FreshlyMeasured (setup : Setup) (trace : List Event) (packet : StatePacket) : Prop :=
  ∀ index, ∃ event ∈ currentPeriod trace, ∃ feedback,
    event.soundReply setup index = some feedback ∧
      packet.positionRad index = feedback.position (setup.loaded.descriptor index) ∧
      packet.velocityRadS index = feedback.velocity (setup.loaded.descriptor index)

/-- The law holds of every state that the active loop publishes. -/
def Publishes (law : List Event → StatePacket → Prop) (before : List Event) (event : Event) :
    Prop :=
  ∀ packet sent, event = .published packet sent →
    (∃ slot, currentSlot before = some (.active, slot)) → law before packet

/-- A state that the active loop publishes is freshly measured exactly when every motor
has replied in the state period. -/
def PublishedFresh (setup : Setup) : List Event → Event → Prop :=
  Publishes fun before packet => FreshlyMeasured setup before packet ↔ Answered setup before

section Record

variable {setup : Setup}

/-- The reports of the motors are the latest replies of the state period. -/
def PeriodRecord (setup : Setup) (machine : Machine) : Prop :=
  ∀ index feedback,
    latest (Event.soundReply setup index) (currentPeriod machine.trace) = some feedback →
      (machine.reports index).position = feedback.position (setup.loaded.descriptor index) ∧
        (machine.reports index).velocity = feedback.velocity (setup.loaded.descriptor index)

theorem soundReply_eq_some {index : Index} {event : Event} {feedback : Feedback} :
    event.soundReply setup index = some feedback ↔
      event.reply setup = some (index, feedback) ∧
        IdentityValid (setup.loaded.descriptor index) (-1) feedback := by
  unfold Event.soundReply Event.replyOf
  cases event.reply setup with
  | none => simp
  | some reply =>
      obtain ⟨other, brought⟩ := reply
      by_cases same : other = index
      · subst same
        simp [Option.filter_eq_some_iff]
      · simp [same]

theorem soundReply_of_unread {index : Index} {event : Event} (unread : event.kind ≠ .read) :
    event.soundReply setup index = none := by
  rw [Option.eq_none_iff_forall_not_mem]
  intro feedback sound
  obtain ⟨reply, _⟩ := soundReply_eq_some.mp sound
  cases event with
  | read interface result => exact unread rfl
  | _ => cases reply

theorem startsPeriod_of_kind {event : Event} (other : event.kind ≠ .slot) :
    event.startsPeriod = false := by
  cases event with
  | slot phase index => exact absurd rfl other
  | _ => rfl

/-- A packet made from the reports of the motors is freshly measured exactly when all
motors have replied. -/
theorem PeriodRecord.fresh_iff {machine : Machine} (record : PeriodRecord setup machine)
    {packet : StatePacket}
    (position : ∀ index, packet.positionRad index = (machine.reports index).position)
    (velocity : ∀ index, packet.velocityRadS index = (machine.reports index).velocity) :
    FreshlyMeasured setup machine.trace packet ↔ Answered setup machine.trace := by
  constructor
  · intro fresh index
    obtain ⟨event, member, feedback, sound, _⟩ := fresh index
    exact ⟨event, member, feedback, sound⟩
  · intro answered index
    obtain ⟨event, member, feedback, sound⟩ := answered index
    obtain ⟨last, found⟩ := latest_isSome member sound
    obtain ⟨latestEvent, inPeriod, chosen⟩ := mem_of_latest found
    obtain ⟨samePosition, sameVelocity⟩ := record index last found
    refine ⟨latestEvent, inPeriod, last, chosen, ?_, ?_⟩
    · rw [position, samePosition]
    · rw [velocity, sameVelocity]

/-- What reads nothing and stays in the slot keeps the record. -/
theorem PeriodRecord.append {first last : Machine} (record : PeriodRecord setup first)
    {suffix : List Event} (same : last.reports = first.reports)
    (grown : last.trace = first.trace ++ suffix)
    (unread : ∀ event ∈ suffix, event.kind ≠ .read)
    (continues : ∀ event ∈ suffix, event.startsPeriod = false) :
    PeriodRecord setup last := by
  intro index feedback found
  rw [same]
  apply record index feedback
  rw [← found, grown]
  unfold currentPeriod
  rw [since_append _ continues, latest_append_of_none]
  exact fun event member => soundReply_of_unread (unread event member)

/-- At the beginning of a state period nothing has been reported. -/
theorem PeriodRecord.start {machine : Machine} {slot : ℕ} (aligned : slot % 40 = 0) :
    PeriodRecord setup { machine with trace := machine.trace ++ [.slot .active slot] } := by
  intro index feedback found
  have empty : currentPeriod (machine.trace ++ [.slot .active slot]) = [] := by
    unfold currentPeriod
    rw [since_concat, if_pos (by simp [Event.startsPeriod, aligned])]
  simp [empty, latest] at found

end Record

section Reading

variable {setup : Setup} {world : World}

/-- A reply that a reader takes over reports no fault. -/
theorem sound_of_valid {descriptor : MotorDescriptor} {expectedStatus : ℤ}
    {feedback : Feedback} (expected : expectedStatus ≤ 1)
    (valid : IdentityValid descriptor expectedStatus feedback) :
    IdentityValid descriptor (-1) feedback := by
  obtain ⟨identity, status⟩ := valid
  refine ⟨identity, ?_⟩
  unfold StatusValid at status ⊢
  rw [if_neg (by decide)]
  split at status
  · omega
  · exact status

/-- A tolerant reader takes over every reply that reports no fault. -/
theorem valid_of_sound {descriptor : MotorDescriptor} {expectedStatus : ℤ}
    {feedback : Feedback} (tolerant : expectedStatus < 0)
    (sound : IdentityValid descriptor (-1) feedback) :
    IdentityValid descriptor expectedStatus feedback := by
  obtain ⟨identity, status⟩ := sound
  refine ⟨identity, ?_⟩
  unfold StatusValid at status ⊢
  rw [if_neg (by decide)] at status
  rw [if_neg (not_le.mpr tolerant)]
  exact status

/-- The state period after a read. -/
theorem currentPeriod_read (interface : String) (result : ReadResult) (machine : Machine) :
    currentPeriod (afterRead result interface machine).trace =
      currentPeriod machine.trace ++ [.read interface result] := by
  unfold afterRead currentPeriod
  rw [since_concat]
  rfl

/-- A round of the reader keeps the record. -/
theorem PeriodRecord.read {expectedStatus : ℤ} (expected : expectedStatus ≤ 1)
    {enforceGuards again : Bool} {interface : String} {result : ReadResult}
    {machine final : Machine} (record : PeriodRecord setup machine)
    (returned : policyRead setup world expectedStatus enforceGuards interface result
      (afterRead result interface machine) = (.done again, final)) :
    PeriodRecord setup final := by
  intro index feedback found
  rcases policyRead_eq_done returned with
    ⟨rfl, passed⟩ | ⟨other, brought, reply, valid, sameTrace, reports⟩
  · have silent : (Event.read interface result).soundReply setup index = none := by
      rw [Option.eq_none_iff_forall_not_mem]
      intro brought sound
      obtain ⟨reply, valid⟩ := soundReply_eq_some.mp sound
      obtain ⟨tolerant, invalid⟩ := passed index brought reply
      exact invalid (valid_of_sound tolerant valid)
    rw [currentPeriod_read, latest_concat, silent] at found
    exact record index feedback found
  · have sound : (Event.read interface result).soundReply setup other = some brought :=
      soundReply_eq_some.mpr ⟨reply, sound_of_valid expected valid⟩
    rw [sameTrace, currentPeriod_read, latest_concat] at found
    rw [reports]
    by_cases same : index = other
    · subst same
      rw [sound] at found
      cases found
      simp [Feedback.reported]
    · have silent : (Event.read interface result).soundReply setup index = none := by
        rw [Option.eq_none_iff_forall_not_mem]
        intro otherFeedback otherSound
        obtain ⟨otherReply, _⟩ := soundReply_eq_some.mp otherSound
        rw [reply] at otherReply
        cases otherReply
        exact same rfl
      rw [silent] at found
      rw [Function.update_of_ne same]
      exact record index feedback found

end Reading

section Loop

variable {setup : Setup} {world : World}

/-- The states published so far are as fresh as the replies. -/
abbrev PublicationsFresh (setup : Setup) (machine : Machine) : Prop :=
  Justified (PublishedFresh setup) machine.trace

theorem publishedFresh_of_kind {kinds : List Kind} (unpublished : .published ∉ kinds)
    (before : List Event) (entry : Event) (kind : entry.kind ∈ kinds) :
    PublishedFresh setup before entry := by
  rintro packet sent rfl
  exact absurd kind unpublished

/-- The record inside a slot. -/
def PeriodKept (setup : Setup) (machine : Machine) : Prop :=
  PeriodRecord setup machine ∧ PublicationsFresh setup machine

theorem PeriodKept.drain {expectedStatus : ℤ} (expected : expectedStatus ≤ 1) :
    Program.Triple (PeriodKept setup)
      (drainPolicyFeedback setup world expectedStatus true) (fun _ => PeriodKept setup)
      (PublicationsFresh setup) := by
  apply drainPolicyFeedback_triple _ fun _ => And.right
  rintro interface result machine ⟨record, fresh⟩
  have same := @policyRead_trace setup world expectedStatus true interface result
    (afterRead result interface machine)
  have freshAfter : PublicationsFresh setup (afterRead result interface machine) := by
    apply fresh.concat
    exact publishedFresh_of_kind (by simp) _ _ (List.mem_singleton_self Kind.read)
  constructor
  · intro again returned
    constructor
    · exact record.read expected (Prod.ext returned rfl)
    · unfold PublicationsFresh
      rw [same]
      exact freshAfter
  · intro _
    unfold PublicationsFresh
    rw [same]
    exact freshAfter

/-- What neither reads, begins a slot nor publishes keeps the record. -/
theorem PeriodKept.quiet {α : Type} {program : Native α} {kinds : List Kind}
    (leaves : program.Leaves Machine.reports) (emits : EmitsOnly kinds program)
    (unread : .read ∉ kinds) (unslotted : .slot ∉ kinds) (unpublished : .published ∉ kinds) :
    Program.Triple (PeriodKept setup) program (fun _ => PeriodKept setup)
      (PublicationsFresh setup) := by
  have kept : ∀ first last suffix, last.reports = first.reports →
      last.trace = first.trace ++ suffix → (∀ event ∈ suffix, event.kind ∈ kinds) →
        PeriodKept setup first → PeriodKept setup last := by
    rintro first last suffix same grown allowed ⟨record, fresh⟩
    constructor
    · apply record.append same grown
      · exact fun event member isRead => unread (isRead ▸ allowed event member)
      · intro event member
        exact startsPeriod_of_kind fun isSlot => unslotted (isSlot ▸ allowed event member)
    · unfold PublicationsFresh
      rw [grown]
      apply fresh.append_unreasoned
      intro event member before
      exact publishedFresh_of_kind unpublished before event (allowed event member)
  exact (unread_triple leaves emits kept).consequence (fun _ => id) (fun _ _ => id)
    fun _ => And.right

/-- What sending a state leaves behind, whether or not the socket takes it. -/
theorem sendStatePacket_eq {nowNs : ℤ} {machine : Machine} :
    (sendStatePacket setup world nowNs machine).2.trace = machine.trace ++
        [.published (statePacket machine.ipc machine.motors setup.motorHash nowNs)
          (world.send machine.calls.send)] ∧
      (sendStatePacket setup world nowNs machine).2.reports = machine.reports := by
  cases sent : world.send machine.calls.send with
  | false =>
      simp [sendStatePacket, Program.bind_apply, answer, emit, Program.throwIf, sent]
      rfl
  | true =>
      simp [sendStatePacket, Program.bind_apply, answer, emit, Program.throwIf, sent]
      rfl

/-- Publishing a state keeps the record, and the published state is as fresh as the
replies of its period. -/
theorem PeriodKept.publish (slot : ℕ) :
    Program.Triple (PeriodKept setup) (publishState setup world slot)
      (fun _ => PeriodKept setup) (PublicationsFresh setup) := by
  have clock : Program.Triple (PeriodKept setup) (monotonicNs world)
      (fun _ => PeriodKept setup) (PublicationsFresh setup) := by
    have emits : EmitsOnly [] (monotonicNs world) := .monotonicNs world
    exact PeriodKept.quiet (reports_of_core (monotonicNs_core world)) emits (by simp) (by simp)
      (by simp)
  have sending (now : ℤ) : Program.Triple (PeriodKept setup) (sendStatePacket setup world now)
      (fun _ => PeriodKept setup) (PeriodKept setup) := by
    apply Program.Triple.last_iff.mpr
    rintro machine ⟨record, fresh⟩
    let packet := statePacket machine.ipc machine.motors setup.motorHash now
    obtain ⟨grown, same⟩ := @sendStatePacket_eq setup world now machine
    constructor
    · exact record.append same grown (by simp [Event.kind]) (by simp [Event.startsPeriod])
    · unfold PublicationsFresh
      rw [grown]
      apply fresh.concat
      rintro other sent published _
      cases published
      exact record.fresh_iff (fun index => rfl) fun index => rfl
  refine .bind (.get fun _ => id) fun machine => .runIf (fun _ => ?_) fun _ _ => id
  refine .bind clock fun now => (sending now).consequence (fun _ => id) (fun _ _ => id) ?_
  exact fun _ => And.right

/-- A slot of the active loop keeps the record; the first one establishes it. -/
theorem PeriodKept.activeSlot (startNs : ℤ) (slot : ℕ) :
    Program.Triple
      (fun machine => (slot ≠ 0 → PeriodRecord setup machine) ∧ PublicationsFresh setup machine)
      (activeSlot setup world startNs slot)
      (fun _ machine =>
        (slot + 1 ≠ 0 → PeriodRecord setup machine) ∧ PublicationsFresh setup machine)
      (PublicationsFresh setup) := by
  have entering : Program.Triple
      (fun machine => (slot ≠ 0 → PeriodRecord setup machine) ∧ PublicationsFresh setup machine)
      (emit (.slot .active slot)) (fun _ => PeriodKept setup) (PublicationsFresh setup) := by
    apply Program.Triple.modify
    rintro machine ⟨record, fresh⟩
    constructor
    · by_cases aligned : slot % 40 = 0
      · exact .start aligned
      · have kept := record fun first => aligned (by simp [first])
        let last : Machine := { machine with trace := machine.trace ++ [.slot .active slot] }
        have same : last.reports = machine.reports := rfl
        apply kept.append same rfl
        · simp [Event.kind]
        · simp [Event.startsPeriod, aligned]
    · apply Justified.concat fresh
      exact publishedFresh_of_kind (by simp) _ _ (List.mem_singleton_self Kind.slot)
  have commanding : Program.Triple (PeriodKept setup) (commandSlot setup world startNs slot)
      (fun _ => PeriodKept setup) (PublicationsFresh setup) :=
    PeriodKept.quiet (commandSlot_reports startNs slot) (EmitsOnly.commandSlot startNs slot)
      (by simp) (by simp) (by simp)
  have reading : Program.Triple (PeriodKept setup)
      (drainPolicyFeedback setup world (if slot < 200 then -1 else 1) true)
      (fun _ => PeriodKept setup) (PublicationsFresh setup) := by
    apply PeriodKept.drain
    split <;> decide
  have publishing : Program.Triple (PeriodKept setup) (publishState setup world slot)
      (fun _ machine =>
        (slot + 1 ≠ 0 → PeriodRecord setup machine) ∧ PublicationsFresh setup machine)
      (PublicationsFresh setup) :=
    (PeriodKept.publish slot).consequence (fun _ => id)
      (fun _ _ kept => ⟨fun _ => kept.1, kept.2⟩) fun _ => id
  exact activeSlot_triple entering commanding reading (fun _ => And.right) publishing

/-- The slots of the active loop keep the record, whatever was recorded before them. -/
theorem publicationsFresh_activeLoop :
    Program.Triple (PublicationsFresh setup) (activeLoop setup world)
      (fun _ => PublicationsFresh setup) (PublicationsFresh setup) := by
  have clock : Program.Triple (PublicationsFresh setup) (monotonicNs world)
      (fun _ => PublicationsFresh setup) (PublicationsFresh setup) := by
    have emits : EmitsOnly [] (monotonicNs world) := .monotonicNs world
    exact (justified_kept emits (publishedFresh_of_kind (by simp))).triple
  have draining : Program.Triple (PublicationsFresh setup)
      (drainPolicyFeedback setup world 1 true) (fun _ => PublicationsFresh setup)
      (PublicationsFresh setup) :=
    (justified_kept (EmitsOnly.drainPolicyFeedback setup world 1 true)
      (publishedFresh_of_kind (by simp))).triple
  have slots (startNs : ℤ) : Program.Triple (PublicationsFresh setup)
      (Program.forEach (List.range setup.transportSlots) (activeSlot setup world startNs))
      (fun _ => PublicationsFresh setup) (PublicationsFresh setup) := by
    apply (Program.Triple.forEach_range fun slot _ =>
      PeriodKept.activeSlot startNs slot).consequence
    · exact fun _ fresh => ⟨fun wrong => absurd rfl wrong, fresh⟩
    · exact fun _ _ => And.right
    · exact fun _ => id
  refine .bind clock fun now => .bind (slots (now + 20000000)) fun _ => ?_
  refine .bind draining fun _ => .bind (.get fun _ => id) fun machine => ?_
  refine .bind (.forEach_keeps fun index => ?_) fun _ => ?_
  · exact .throwIf _ (fun _ _ => id) fun _ _ => id
  · exact .throwIf _ (fun _ _ => id) fun _ _ => id

/-- The preparation begins no slot of the active loop, so its publications need no
reason. -/
theorem publicationsFresh_prepare :
    Program.Triple (fun machine => machine = Machine.initial) (prepare setup world)
      (fun _ => PublicationsFresh setup) (PublicationsFresh setup) := by
  apply Program.Triple.last_iff.mpr
  rintro _ rfl
  obtain ⟨suffix, grown, begun⟩ := EmitsOnly.prepare_begins setup world Machine.initial
  have own : ∀ event ∈ suffix, ∀ slot, event.slotOf ≠ some (.active, slot) := by
    intro event member slot active
    rcases begun event member with among | ⟨index, rfl⟩
    · rw [slotOf_of_kind fun same => by simp [same] at among] at active
      cases active
    · cases active
  rintro before entry after split packet sent rfl ⟨slot, current⟩
  obtain ⟨event, member, active⟩ := mem_of_latest current
  refine absurd active (own event ?_ slot)
  have all : (prepare setup world Machine.initial).2.trace = suffix := grown
  rw [← all, split]
  exact List.mem_append_left _ member

/-- In every run, what the active loop publishes is freshly measured exactly when every
motor has replied since the last publication slot: nothing else stops a publication once
all motors have been seen. -/
theorem protectedPolicyTrace_publishedFresh (setup : Setup) (world : World) :
    Justified (PublishedFresh setup) (protectedPolicyTrace setup world) := by
  apply protectedPolicyTrace_justified
  · intro before entry closing packet sent published
    subst published
    have kinds := closing.kind
    simp [Event.kind] at kinds
  · have enabling : Program.Triple (PublicationsFresh setup) (enable setup world)
        (fun _ => PublicationsFresh setup) (PublicationsFresh setup) :=
      (justified_kept (EmitsOnly.enable setup world) (publishedFresh_of_kind (by simp))).triple
    refine .bind publicationsFresh_prepare fun _ => .bind enabling fun _ => ?_
    exact publicationsFresh_activeLoop

end Loop

section Silence

/-- The ankle motors, commanded for eighty slots. -/
def briefSetup : Setup :=
  { ankleSetup with
    durationS := 1 / 25
    distinctEndpoints := ankleSetup.distinctEndpoints }

/-- Every motor replies once before and once after the drives are enabled, and then never
again. -/
def silencedWorld : World :=
  { quietWorld with
    clock := fun _ => some 0
    read := fun call => if call < 70 then benchReads.getD (call % 35) .again else .again
    recv := fun call => if call = 0 then .message statelessTarget else .again
    patience := 9 }

/-- The motor that those replies leave behind, commanded without gains. -/
def restMotor : MotorState :=
  { lastPosition := decodeUint 0x8000 (-25 / 2) (25 / 2) 16
    lastVelocity := decodeUint 0x7FF (-20) 20 12
    seen := true
    preview := { position := decodeUint 0x8000 (-25 / 2) (25 / 2) 16 }
    previewInitialized := true }

/-- The motor is seen and commanded as `restMotor` is. -/
def AtRest (motor : MotorState) : Prop :=
  motor.seen = restMotor.seen ∧ motor.lastPosition = restMotor.lastPosition ∧
    motor.lastVelocity = restMotor.lastVelocity ∧ motor.preview = restMotor.preview ∧
    motor.previewInitialized = restMotor.previewInitialized

/-- Everything has arrived that will arrive. -/
def Silent (machine : Machine) : Prop :=
  (70 ≤ machine.calls.read ∧ 0 < machine.calls.recv) ∧
    (machine.ipc.hasTarget = true ∧ machine.ipc.lastTargetNs = 0) ∧
    (∀ joint, (machine.ipc.latestTarget.kp joint).value = 0 ∧
      (machine.ipc.latestTarget.kd joint).value = 0 ∧
      (machine.ipc.latestTarget.feedforwardTorqueNm joint).value = 0) ∧
    ∀ index, AtRest (machine.motors index)

instance (machine : Machine) : Decidable (Silent machine) := by
  unfold Silent AtRest
  infer_instance

/-- A run up to the end of the first slot of its active loop. -/
def opening (setup : Setup) (world : World) : Native Unit := do
  prepare setup world
  enable setup world
  let now ← monotonicNs world
  activeSlot setup world (now + 20000000) 0

theorem opening_eq_done {setup : Setup} {world : World} {initial first : Machine}
    (run : opening setup world initial = (.done (), first)) :
    ∃ prepared enabled now start,
      prepare setup world initial = (.done (), prepared) ∧
        enable setup world prepared = (.done (), enabled) ∧
        monotonicNs world enabled = (.done now, start) ∧
        activeSlot setup world (now + 20000000) 0 start = (.done (), first) := by
  unfold opening at run
  simp only [Program.bind_eq_done_iff] at run
  obtain ⟨_, prepared, preparing, _, enabled, enabling, now, start, clock, slot⟩ := run
  exact ⟨prepared, enabled, now, start, preparing, enabling, clock, slot⟩

theorem opening_silent :
    (opening briefSetup silencedWorld Machine.initial).1.isDone = true ∧ Silent (opening briefSetup silencedWorld Machine.initial).2 ∧
      currentSlot (opening briefSetup silencedWorld Machine.initial).2.trace = some (.active, 0) := by
  decide +kernel

theorem restMotor_passes : ∀ index : Index,
    ¬PreviewInvariantFailure (briefSetup.loaded.descriptor index) restMotor ∧
      ¬protectedEnvelopeFailure (briefSetup.loaded.descriptor index) restMotor ∧
      ((encodePreview (briefSetup.loaded.descriptor index) restMotor.preview).toOption.any
        fun fields => decide (|wireTorque (briefSetup.loaded.descriptor index) restMotor fields| ≤
          (briefSetup.loaded.descriptor index).commissioningTorqueCap + tolerance)) = true := by
  decide +kernel

theorem AtRest.previewPasses {motor : MotorState} (rest : AtRest motor) (index : Index) :
    ¬PreviewInvariantFailure (briefSetup.loaded.descriptor index) motor := by
  obtain ⟨_, position, velocity, preview, _⟩ := rest
  have passes := (restMotor_passes index).1
  simp only [PreviewInvariantFailure] at passes ⊢
  rwa [position, velocity, preview]

/-- A motor at rest can be commanded. -/
theorem AtRest.payload {motor : MotorState} (rest : AtRest motor) (index : Index) :
    ∃ data after, protectedPolicyPayload (briefSetup.loaded.descriptor index) false motor =
      (.done data, after) ∧ AtRest after := by
  obtain ⟨_, position, velocity, preview, initialized⟩ := id rest
  obtain ⟨_, envelope, wire⟩ := restMotor_passes index
  obtain ⟨fields, encoded, within⟩ := (Option.any_eq_true _ _).mp wire
  have passes : ¬protectedEnvelopeFailure (briefSetup.loaded.descriptor index) motor := by
    unfold protectedEnvelopeFailure at envelope ⊢
    rwa [preview, initialized]
  have same : encodePreview (briefSetup.loaded.descriptor index) motor.preview = .ok fields := by
    rw [preview]
    cases result : encodePreview (briefSetup.loaded.descriptor index) restMotor.preview with
    | error what => simp [result, Except.toOption] at encoded
    | ok other =>
        simp only [result, Except.toOption, Option.some.injEq] at encoded
        rw [encoded]
  have bounded : |wireTorque (briefSetup.loaded.descriptor index) motor fields| ≤
      (briefSetup.loaded.descriptor index).commissioningTorqueCap + tolerance := by
    unfold wireTorque at within ⊢
    rw [position, velocity]
    simpa using within
  let after : MotorState :=
    { motor with
      maximumAbsCommandedTorque := max motor.maximumAbsCommandedTorque
        |wireTorque (briefSetup.loaded.descriptor index) motor fields| }
  refine ⟨fields.pack, after, ?_, rest⟩
  simp [protectedPolicyPayload, boundWireTorque, Program.bind_apply, Program.throwIf, passes,
    same, Program.ofExcept, not_lt.mpr bounded, after]

theorem Silent.of_eq {first last : Machine} (silent : Silent first)
    (read : first.calls.read ≤ last.calls.read) (recv : first.calls.recv ≤ last.calls.recv)
    (ipc : last.ipc = first.ipc)
    (motors : ∀ index, AtRest (first.motors index) → AtRest (last.motors index)) :
    Silent last := by
  obtain ⟨⟨enoughReads, received⟩, target, free, rest⟩ := silent
  refine ⟨⟨enoughReads.trans read, received.trans_le recv⟩, ?_, ?_, fun index => ?_⟩
  · rwa [ipc]
  · rwa [ipc]
  · exact motors index (rest index)

/-- The preview leaves a motor at rest where it is. -/
theorem AtRest.preview {before after : MotorState} (rest : AtRest before) {index : Index}
    (returned : previewMotor (briefSetup.loaded.descriptor index)
      briefSetup.saturatePolicyTorque (some restMotor.preview) before = (.done (), after)) :
    AtRest after := by
  obtain ⟨seen, position, velocity, _⟩ := rest
  rcases previewMotor_spec returned with ⟨uninitialized, _⟩ | ⟨initialized, _, recorded⟩
  · cases uninitialized
  · rw [recorded]
    exact ⟨seen, position, velocity, rfl, rfl⟩

/-- The preview at rest keeps every motor at rest. -/
theorem silent_previewCommands :
    Program.Triple Silent (previewCommands briefSetup) (fun _ => Silent) fun _ => False := by
  rintro machine ⟨calls, ⟨hasTarget, targetNs⟩, free, rest⟩
  have fresh (index : Index) : freshCommand (briefSetup.loaded.descriptor index)
      briefSetup.kinematics machine.toControlState index = some restMotor.preview := by
    have ankle : (briefSetup.loaded.descriptor index).isAnkleMotor = true := by
      revert index
      decide +kernel
    have limited (joint : Index) : 0 ≤ briefSetup.kinematics.jointEffortLimit joint := by
      change (0 : ℚ) ≤ 3
      norm_num
    have stays := @ankleCommand_rest briefSetup.kinematics _ machine.motors limited free index
    unfold freshCommand
    rw [if_pos ankle, stays, (rest index).2.1]
    rfl
  have returns (index : Index) : (previewMotor (briefSetup.loaded.descriptor index)
      briefSetup.saturatePolicyTorque (freshCommand (briefSetup.loaded.descriptor index)
        briefSetup.kinematics machine.toControlState index)
      (machine.motors index)).1.isDone = true := by
    rw [fresh index]
    apply previewMotor_isDone
    apply AtRest.previewPasses
    obtain ⟨seen, position, velocity, _⟩ := rest index
    exact ⟨seen, position, velocity, rfl, rfl⟩
  obtain ⟨after, call⟩ := previewFinalMotorCommands_isDone returns
  obtain ⟨ipc, steps⟩ := previewFinalMotorCommands_spec hasTarget call
  rw [previewCommands_apply call]
  apply Program.Ends.done_iff.mpr
  refine ⟨calls, ?_, ?_, fun index => ?_⟩
  · change after.ipc.hasTarget = true ∧ after.ipc.lastTargetNs = 0
    rw [ipc]
    exact ⟨hasTarget, targetNs⟩
  · change ∀ joint, (after.ipc.latestTarget.kp joint).value = 0 ∧ _
    rw [ipc]
    exact free
  · exact (rest index).preview (fresh index ▸ steps index)

/-- A program on one motor that returns at rest. -/
theorem silent_onMachineMotor {α : Type} {index : Index} {program : Program MotorState String α}
    (returns : ∀ motor, AtRest motor →
      ∃ value after, program motor = (.done value, after) ∧ AtRest after) :
    Program.Triple Silent (onMachineMotor index program) (fun _ => Silent) fun _ => False := by
  intro machine silent
  obtain ⟨value, after, returned, still⟩ := returns _ (silent.2.2.2 index)
  rw [onMachineMotor, Program.zoom, returned]
  apply Program.Ends.done_iff.mpr
  obtain ⟨calls, target, free, rest⟩ := silent
  refine ⟨calls, target, free, fun other => ?_⟩
  by_cases same : other = index
  · subst same
    simpa using still
  · simpa [same] using rest other

/-- Commanding leaves every motor at rest. -/
theorem silent_commandMotor (index : Index) :
    Program.Triple Silent (commandMotor briefSetup silencedWorld index) (fun _ => Silent)
      fun _ => False := by
  have payload : Program.Triple Silent (onMachineMotor index (protectedPolicyPayload
      (briefSetup.loaded.descriptor index) briefSetup.saturatePolicyTorque)) (fun _ => Silent)
      fun _ => False :=
    silent_onMachineMotor fun motor rest => rest.payload index
  refine .bind (.get fun _ => id) fun machine => .bind payload fun data => ?_
  · have writing : Program.Triple Silent
        (writeFrame briefSetup silencedWorld (.payload (machine.motors index)) index data)
        (fun result state => result = .ok () ∧ Silent state) fun _ => False :=
      fun state silent => Program.Ends.done_iff.mpr ⟨rfl, silent⟩
    refine .bind writing fun result => ?_
    rintro state ⟨rfl, silent⟩
    refine silent_onMachineMotor (fun motor rest => ?_) state silent
    exact ⟨(), { motor with txCount := motor.txCount + 1 }, rfl, rest⟩

theorem silent_commandSlot (startNs : ℤ) (slot : ℕ) :
    Program.Triple Silent (commandSlot briefSetup silencedWorld startNs slot) (fun _ => Silent)
      fun _ => False := by
  have shutdown : Program.Triple Silent
      (checkShutdownRequest silencedWorld "protected-policy shutdown signal received")
      (fun _ => Silent) fun _ => False :=
    fun machine silent => Program.Ends.done_iff.mpr silent
  have sleeping : Program.Triple Silent (sleepUntil silencedWorld) (fun _ => Silent)
      fun _ => False :=
    fun machine silent => Program.Ends.done_iff.mpr silent
  have clock : Program.Triple Silent (monotonicNs silencedWorld)
      (fun now machine => Silent machine ∧ now = 0) fun _ => False :=
    fun machine silent => Program.Ends.done_iff.mpr ⟨silent, rfl⟩
  have draining : Program.Triple Silent (drainTargetPackets silencedWorld
      briefSetup.policyJointHash (some briefSetup.jointSafety) 0) (fun _ => Silent)
      fun _ => False := by
    have round : ∀ machine, Silent machine → drainTargetRound silencedWorld
        briefSetup.policyJointHash (some briefSetup.jointSafety) 0 machine =
          (.done false, { machine with
            calls := { machine.calls with recv := machine.calls.recv + 1 } }) := by
      intro machine silent
      have again : silencedWorld.recv machine.calls.recv = .again :=
        if_neg (Nat.ne_of_gt silent.1.2)
      simp [drainTargetRound, answer, Program.bind_apply, again]
    have entering : Program.Triple Silent (emit (.drained 0)) (fun _ => Silent) fun _ => False :=
      .modify _ fun _ => id
    refine .bind entering fun _ machine silent => ?_
    rw [show silencedWorld.patience = 8 + 1 from rfl, Program.loop_once (round machine silent)]
    exact Program.Ends.done_iff.mpr (silent.of_eq le_rfl (Nat.le_succ _) rfl fun _ => id)
  have lateness (deadlineNs : ℤ) : Program.Triple Silent
      (Program.runIf (slot % 4 = 0) (recordLateness 0 deadlineNs)) (fun _ => Silent)
      fun _ => False :=
    .runIf (fun _ => .modify _ fun _ => id) fun _ _ => id
  have looking : Program.Triple Silent (Program.get : Native Machine)
      (fun machine state => Silent state ∧ ¬WatchdogExpired 0 machine.ipc) fun _ => False := by
    refine .get fun machine silent => ⟨silent, ?_⟩
    obtain ⟨_, ⟨hasTarget, targetNs⟩, _⟩ := silent
    simp [WatchdogExpired, hasTarget, targetNs, wrap64, kTargetTimeoutNs]
  have commanding : Program.Triple Silent (commandDue briefSetup silencedWorld slot)
      (fun _ => Silent) fun _ => False :=
    .forEach_keeps fun index => .runIf (fun _ => silent_commandMotor index) fun _ _ => id
  refine .bind shutdown fun _ => .bind sleeping fun _ => .bind clock fun now => ?_
  apply Program.Triple.assuming
  rintro rfl
  refine .bind (lateness _) fun _ => .bind draining fun _ => .bind looking fun machine => ?_
  apply Program.Triple.assuming
  intro timely
  have watching : Program.Triple Silent
      (Program.throwIf (WatchdogExpired 0 machine.ipc) "protected-policy target watchdog expired")
      (fun _ => Silent) fun _ => False :=
    .throwIf _ (fun expired => absurd expired timely) fun _ _ => id
  have previewing : Program.Triple Silent
      (Program.runIf (slot % 4 = 0) (previewCommands briefSetup)) (fun _ => Silent)
      fun _ => False :=
    .runIf (fun _ => silent_previewCommands) fun _ _ => id
  exact .bind watching fun _ => .bind previewing fun _ => commanding

/-- No motor has replied in the state period. -/
def Unanswered (trace : List Event) : Prop :=
  ∀ event ∈ currentPeriod trace, event.reply briefSetup = none

theorem Unanswered.append {trace suffix : List Event} (unanswered : Unanswered trace)
    (continues : ∀ event ∈ suffix, event.startsPeriod = false)
    (silent : ∀ event ∈ suffix, event.reply briefSetup = none) :
    Unanswered (trace ++ suffix) := by
  intro event member
  unfold currentPeriod at member
  rw [since_append _ continues] at member
  rcases List.mem_append.mp member with earlier | later
  · exact unanswered event earlier
  · exact silent event later

/-- The silence within a slot. -/
def Unheard (slot : ℕ) (machine : Machine) : Prop :=
  Silent machine ∧ currentSlot machine.trace = some (.active, slot) ∧
    (40 ≤ slot → Unanswered machine.trace)

theorem Unheard.commandSlot (startNs : ℤ) (slot : ℕ) :
    Program.Triple (Unheard slot) (commandSlot briefSetup silencedWorld startNs slot)
      (fun _ => Unheard slot) fun _ => False := by
  let within := fun machine : Machine => currentSlot machine.trace = some (.active, slot) ∧
    (40 ≤ slot → Unanswered machine.trace)
  have trace : Program.Triple within (SpriteRuntime.commandSlot briefSetup silencedWorld startNs
      slot) (fun _ => within) within := by
    have kept : ∀ first last suffix, last.trace = first.trace ++ suffix →
        (∀ event ∈ suffix, event.kind ∈ [Kind.drained, .accepted, .previewed, .payload]) →
        within first → within last := by
      rintro first last suffix grown allowed ⟨current, unanswered⟩
      dsimp only [within]
      rw [grown]
      constructor
      · rw [currentSlot_append (by simp) allowed]
        exact current
      · intro late
        apply (unanswered late).append
        · intro event member
          apply startsPeriod_of_kind
          intro same
          have kind := allowed event member
          simp [same] at kind
        · intro event member
          have kind := allowed event member
          cases event with
          | read interface result => simp [Event.kind] at kind
          | _ => rfl
    apply (EmitsOnly.commandSlot startNs slot).triple
    · rintro first last ⟨suffix, grown, allowed⟩
      exact kept first last suffix grown allowed
    · rintro first last ⟨suffix, grown, allowed⟩
      exact kept first last suffix grown allowed
  exact ((silent_commandSlot startNs slot).both trace).consequence (fun _ => id)
    (fun _ _ => id) fun _ => And.left

theorem Unheard.drain (expectedStatus : ℤ) (slot : ℕ) :
    Program.Triple (Unheard slot)
      (drainPolicyFeedback briefSetup silencedWorld expectedStatus true)
      (fun _ => Unheard slot) fun _ => False := by
  apply Program.Triple.forEach_keeps
  rintro interface machine ⟨silent, current, unanswered⟩
  have again : silencedWorld.read machine.calls.read = .again :=
    if_neg (Nat.not_lt.mpr silent.1.1)
  have round : drainPolicyRound briefSetup silencedWorld expectedStatus true interface machine =
      (.done false, afterRead .again interface machine) := by
    rw [drainPolicyRound_apply, again]
    rfl
  rw [show silencedWorld.patience = 8 + 1 from rfl, Program.loop_once round]
  apply Program.Ends.done_iff.mpr
  refine ⟨silent.of_eq (Nat.le_succ _) le_rfl rfl fun _ => id, ?_, fun late => ?_⟩
  · unfold afterRead currentSlot
    rw [latest_concat]
    exact current
  · exact (unanswered late).append (by simp [Event.startsPeriod]) (by simp [Event.reply])

/-- A state was published in a state period without replies. -/
def StalePublished (trace : List Event) : Prop :=
  ∃ before packet sent after, trace = before ++ .published packet sent :: after ∧
    (∃ slot, currentSlot before = some (.active, slot)) ∧ Unanswered before

theorem StalePublished.append {trace : List Event} (stale : StalePublished trace)
    (suffix : List Event) : StalePublished (trace ++ suffix) := by
  obtain ⟨before, packet, sent, after, rfl, rest⟩ := stale
  exact ⟨before, packet, sent, after ++ suffix, by simp, rest⟩

theorem StalePublished.kept {α : Type} {program : Native α} {kinds : List Kind}
    (emits : EmitsOnly kinds program) :
    program.Preserves fun machine => StalePublished machine.trace := by
  intro machine stale
  obtain ⟨suffix, grown, _⟩ := emits.trace_eq machine
  rw [grown]
  exact stale.append suffix

theorem Unheard.publish (slot : ℕ) :
    Program.Triple (Unheard slot) (publishState briefSetup silencedWorld slot)
      (fun _ machine => Unheard slot machine ∧ (slot = 79 → StalePublished machine.trace))
      fun _ => False := by
  rintro machine ⟨silent, current, unanswered⟩
  by_cases last : slot % 40 = 39
  · have seen : allSeen machine := fun index => (silent.2.2.2 index).1
    let packet := statePacket machine.ipc machine.motors briefSetup.motorHash 0
    have sent : publishState briefSetup silencedWorld slot machine = (.done (),
        { machine with
          ipc := { machine.ipc with stateSequence := packet.sequence }
          calls := { machine.calls with
            clock := machine.calls.clock + 1
            send := machine.calls.send + 1 }
          trace := machine.trace ++ [.published packet true] }) := by
      simp [publishState, Program.bind_apply, Program.runIf, last, seen, monotonicNs, answer,
        silencedWorld, quietWorld, sendStatePacket, emit, Program.throwIf, packet]
    rw [sent]
    apply Program.Ends.done_iff.mpr
    refine ⟨⟨silent, ?_, fun late => ?_⟩, ?_⟩
    · unfold currentSlot
      rw [latest_concat]
      exact current
    · exact (unanswered late).append (by simp [Event.startsPeriod]) (by simp [Event.reply])
    · rintro rfl
      exact ⟨machine.trace, packet, true, [], rfl, ⟨79, current⟩, unanswered (by decide)⟩
  · have skipped : publishState briefSetup silencedWorld slot machine = (.done (), machine) := by
      simp [publishState, Program.bind_apply, Program.runIf, last]
    rw [skipped]
    apply Program.Ends.done_iff.mpr
    refine ⟨⟨silent, current, unanswered⟩, ?_⟩
    rintro rfl
    exact absurd rfl last

/-- A silent slot of the active loop after the first one. -/
theorem Unheard.activeSlot (startNs : ℤ) (slot : ℕ) (early : slot + 1 < 80) :
    Program.Triple (Unheard slot)
      (SpriteRuntime.activeSlot briefSetup silencedWorld startNs (slot + 1))
      (fun _ machine => Unheard (slot + 1) machine ∧
        (slot + 1 = 79 → StalePublished machine.trace)) fun _ => False := by
  have entering : Program.Triple (Unheard slot) (emit (.slot .active (slot + 1)))
      (fun _ => Unheard (slot + 1)) fun _ => False := by
    apply Program.Triple.modify
    rintro machine ⟨silent, current, unanswered⟩
    refine ⟨silent, ?_, fun late => ?_⟩
    · simp [currentSlot, Event.slotOf]
    · by_cases aligned : (slot + 1) % 40 = 0
      · intro event member
        simp [currentPeriod, since_concat, Event.startsPeriod, aligned] at member
      · apply (unanswered (by omega)).append
        · simp [Event.startsPeriod, aligned]
        · simp [Event.reply]
  have verifying : Program.Triple (Unheard (slot + 1))
      (Program.runIf (slot + 1 = 200) (verifyEnabled briefSetup)) (fun _ => Unheard (slot + 1))
      fun _ => False :=
    .runIf (fun late => absurd late (by omega)) fun _ _ => id
  rw [activeSlot_eq]
  refine .bind entering fun _ => .bind (Unheard.commandSlot startNs (slot + 1)) fun _ => ?_
  refine .bind (Unheard.drain _ (slot + 1)) fun _ => .bind verifying fun _ => ?_
  exact Unheard.publish (slot + 1)

/-- The run after `slots` slots of the active loop. -/
def Underway (start : Machine) : ℕ → Machine → Prop
  | 0, machine => machine = start
  | slot + 1, machine => Unheard slot machine ∧ (slot = 79 → StalePublished machine.trace)

/-- With all motors silent from the second slot on, the run still publishes a state in
slot 79. -/
theorem protectedPolicyBody_stale :
    StalePublished (protectedPolicyBody briefSetup silencedWorld Machine.initial).2.trace := by
  obtain ⟨returned, silent, current⟩ := opening_silent
  obtain ⟨_, first, run⟩ := Program.exists_eq_done returned
  rw [run] at silent current
  generalize Machine.initial = initial at run ⊢
  obtain ⟨prepared, enabled, now, start, preparing, enabling, clock, slot⟩ :=
    opening_eq_done run
  let stale := fun machine : Machine => StalePublished machine.trace
  have slots : Program.Triple (Underway start 0)
      (Program.forEach (List.range 80)
        (activeSlot briefSetup silencedWorld (now + 20000000)))
      (fun _ => Underway start 80) stale := by
    apply Program.Triple.forEach_range
    intro index early
    cases index with
    | zero =>
        rintro _ rfl
        rw [slot]
        apply Program.Ends.done_iff.mpr
        exact ⟨⟨silent, current, fun late => absurd late (by decide)⟩, fun last => by cases last⟩
    | succ index =>
        apply (Unheard.activeSlot (now + 20000000) index early).consequence
        · exact fun _ => And.left
        · exact fun _ _ => id
        · exact fun _ => False.elim
  have body : Program.Triple (fun machine => machine = initial)
      (protectedPolicyBody briefSetup silencedWorld) (fun _ => stale) stale := by
    have duration : briefSetup.transportSlots = 80 := by decide +kernel
    have draining := (StalePublished.kept
      (EmitsOnly.drainPolicyFeedback briefSetup silencedWorld 1 true)).triple
    have returns {α : Type} {program : Native α} {before after : Machine} {value : α}
        (result : program before = (.done value, after)) :
        Program.Triple (fun machine => machine = before) program
          (fun answer machine => machine = after ∧ answer = value) stale := by
      rintro _ rfl
      rw [result]
      exact Program.Ends.done_iff.mpr ⟨rfl, rfl⟩
    refine .bind (returns preparing) fun _ => .assuming fun _ => ?_
    refine .bind (returns enabling) fun _ => .assuming fun _ => ?_
    refine .bind (returns clock) fun answer => .assuming fun same => ?_
    rw [same, duration]
    have published : ∀ machine, Underway start 80 machine → stale machine :=
      fun machine underway => underway.2 rfl
    refine .bind (slots.consequence (fun _ => id) (fun _ => published) fun _ => id) fun _ => ?_
    have checking : Program.Triple stale (checkCoverage briefSetup) (fun _ => stale) stale := by
      refine .bind (.get fun _ => id) fun machine => .bind (.forEach_keeps fun index => ?_) fun _ => ?_
      · exact .throwIf _ (fun _ _ => id) fun _ _ => id
      · exact .throwIf _ (fun _ _ => id) fun _ _ => id
    exact .bind draining fun _ => checking
  exact Program.Triple.last_iff.mp body initial rfl

/-- The active loop publishes positions and velocities that are older than a state
period. -/
theorem protectedPolicyTrace_publishes_stale :
    ¬Justified (Publishes (FreshlyMeasured briefSetup))
      (protectedPolicyTrace briefSetup silencedWorld) := by
  intro fresh
  obtain ⟨suffix, grown, _⟩ := protectedPolicyTrace_eq briefSetup silencedWorld
  obtain ⟨before, packet, sent, after, split, active, unanswered⟩ :=
    protectedPolicyBody_stale.append suffix
  rw [← grown] at split
  obtain ⟨event, member, feedback, sound, _⟩ := fresh before _ after split packet sent rfl active 0
  obtain ⟨reply, _⟩ := soundReply_eq_some.mp sound
  rw [unanswered event member] at reply
  cases reply

end Silence

end SpriteRuntime
