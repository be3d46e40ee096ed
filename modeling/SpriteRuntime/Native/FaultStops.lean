import SpriteRuntime.Native.ActiveSlot
import SpriteRuntime.Native.ErrorTexts
import SpriteRuntime.Native.Preparation

/-!
# Motor faults and the run

A reply with a foreign controller id or a status other than disabled and enabled
reports a fault.  From slot 200 of the active loop on such a reply ends the run.  In
the first 200 slots the reader is the tolerant one of the shutdown, and the reply is
passed over.
-/

namespace SpriteRuntime

open Foundation

/-- The event brings in a reply that reports a fault. -/
def Faulty (setup : Setup) (event : Event) : Prop :=
  ∃ reply ∈ event.reply setup,
    (reply.2.controllerId : ℤ) ≠ (setup.loaded.descriptor reply.1).canId ∨
      (reply.2.statusCode ≠ 0 ∧ reply.2.statusCode ≠ 1)

instance (setup : Setup) (event : Event) : Decidable (Faulty setup event) := by
  unfold Faulty
  infer_instance

/-- The event belongs to the commanding of motors in the active loop: it writes an MIT
payload or begins a slot. -/
def Commanding (event : Event) : Prop :=
  event.kind = .payload ∨ ∃ slot, event = .slot .active slot

/-- What has to follow on a fault: nothing is commanded any more, and the run does not
pass. -/
def Stopped (outcome : Outcome String RunReport) (after : List Event) : Prop :=
  (∀ event ∈ after, ¬Commanding event) ∧
    ∀ report, outcome = .done report → report.passed = false

/-- Every fault consumed in a slot of the active loop that counts stops the run. -/
def FaultsStop (setup : Setup) (counts : ℕ → Prop)
    (run : Outcome String RunReport × Machine) : Prop :=
  ∀ before fault after slot, run.2.trace = before ++ fault :: after →
    currentSlot before = some (.active, slot) → counts slot → Faulty setup fault →
      Stopped run.1 after

section Record

variable (setup : Setup)

/-- The event brings in a fault in slot 200 or later. -/
def LateFault (before : List Event) (event : Event) : Prop :=
  Faulty setup event ∧ ∃ slot, currentSlot before = some (.active, slot) ∧ 200 ≤ slot

abbrev NoLateFault (trace : List Event) : Prop :=
  Justified (fun before event => ¬LateFault setup before event) trace

/-- Motors are commanded only while there has been no late fault. -/
abbrev CommandedSafely (trace : List Event) : Prop :=
  Justified (fun before event => Commanding event → NoLateFault setup before) trace

/-- What the active loop keeps up: no late fault so far. -/
structure FaultRecord (machine : Machine) : Prop where
  clear : NoLateFault setup machine.trace
  safe : CommandedSafely setup machine.trace

variable {setup}

theorem not_faulty_of_unread {event : Event} (unread : event.kind ≠ .read) :
    ¬Faulty setup event := by
  rintro ⟨reply, brought, _⟩
  cases event with
  | read interface result => exact unread rfl
  | _ => cases brought

/-- Without reading nothing changes for the worse. -/
theorem FaultRecord.append {first last : Machine} (record : FaultRecord setup first)
    {suffix : List Event} (grown : last.trace = first.trace ++ suffix)
    (unread : ∀ event ∈ suffix, event.kind ≠ .read) : FaultRecord setup last := by
  have harmless (before : List Event) {event : Event} (member : event ∈ suffix) :
      ¬LateFault setup before event :=
    fun late => not_faulty_of_unread (unread event member) late.1
  constructor
  · rw [grown]
    exact record.clear.append_unreasoned fun event member before => harmless before member
  · rw [grown]
    apply record.safe.append
    intro before event after split _
    apply record.clear.append_unreasoned
    intro earlier member
    exact fun other => harmless other (by simp [split, member])

end Record

section Loop

variable {setup : Setup} {world : World}

/-- Whatever reads nothing keeps the record. -/
theorem FaultRecord.triple {α : Type} {program : Native α} {kinds : List Kind}
    (emits : EmitsOnly kinds program) (unread : .read ∉ kinds) :
    Program.Triple (FaultRecord setup) program (fun _ => FaultRecord setup)
      fun machine => CommandedSafely setup machine.trace := by
  have kept : ∀ first last, Extends (fun machine : Machine => machine.trace)
      (fun event => event.kind ∈ kinds) first last → FaultRecord setup first →
        FaultRecord setup last := by
    rintro first last ⟨suffix, grown, allowed⟩ record
    exact record.append grown fun event member same =>
      unread (same ▸ allowed event member)
  exact emits.triple kept fun first last grown record => (kept first last grown record).safe

/-- A read that is not a late fault keeps the record. -/
theorem FaultRecord.read {machine : Machine} (record : FaultRecord setup machine)
    {result : ReadResult} {interface : String}
    (harmless : ¬LateFault setup machine.trace (.read interface result)) :
    FaultRecord setup (afterRead result interface machine) := by
  constructor
  · exact record.clear.concat harmless
  · apply record.safe.concat
    rintro (payload | ⟨slot, same⟩)
    · cases payload
    · cases same

/-- Reading never commands. -/
theorem commandedSafely_read {machine : Machine} (record : FaultRecord setup machine)
    (result : ReadResult) (interface : String) :
    CommandedSafely setup (afterRead result interface machine).trace := by
  apply record.safe.concat
  rintro (payload | ⟨slot, same⟩)
  · cases payload
  · cases same

/-- No reader takes a fault over. -/
theorem not_valid_of_faulty {event : Event} (faulty : Faulty setup event) {index : Index}
    {feedback : Feedback} (reply : event.reply setup = some (index, feedback))
    {expectedStatus : ℤ} (expected : expectedStatus ≤ 1) :
    ¬IdentityValid (setup.loaded.descriptor index) expectedStatus feedback := by
  obtain ⟨⟨other, otherFeedback⟩, brought, fault⟩ := faulty
  have same : (other, otherFeedback) = (index, feedback) :=
    Option.some.inj (brought.symm.trans reply)
  cases same
  rintro ⟨identity, status⟩
  rcases fault with foreign | ⟨notDisabled, notEnabled⟩
  · exact foreign identity
  · unfold StatusValid at status
    dsimp only at notDisabled notEnabled
    split at status
    · omega
    · tauto

theorem FaultRecord.of_trace {first last : Machine} (record : FaultRecord setup first)
    (same : last.trace = first.trace) : FaultRecord setup last := by
  obtain ⟨clear, safe⟩ := record
  rw [← same] at clear safe
  exact ⟨clear, safe⟩

/-- A strict drain leaves on a fault. -/
theorem FaultRecord.drain_strict (enforceGuards : Bool) :
    Program.Triple (FaultRecord setup)
      (drainPolicyFeedback setup world 1 enforceGuards) (fun _ => FaultRecord setup)
      fun machine => CommandedSafely setup machine.trace := by
  apply drainPolicyFeedback_triple _ fun _ record => record.safe
  intro interface result machine record
  have same := @policyRead_trace setup world 1 enforceGuards interface result
    (afterRead result interface machine)
  have safe := commandedSafely_read record result interface
  by_cases faulty : Faulty setup (.read interface result)
  · constructor
    · intro again returned
      exfalso
      rcases @policyRead_cases setup world 1 enforceGuards interface result with
        ⟨rfl, _⟩ | ⟨silent, _⟩ | ⟨_, what, _, round⟩ | ⟨index, feedback, reply, valid, _⟩
      · obtain ⟨reply, brought, _⟩ := faulty
        cases brought
      · obtain ⟨reply, brought, _⟩ := faulty
        rw [silent] at brought
        cases brought
      · rw [round] at returned
        cases returned
      · exact not_valid_of_faulty faulty reply le_rfl valid
    · intro _
      rw [same]
      exact safe
  · have clear := record.read fun late => faulty late.1
    constructor
    · exact fun _ _ => clear.of_trace same
    · intro _
      rw [same]
      exact safe

/-- Before slot 200 no fault is a late one. -/
theorem FaultRecord.drain_early {slot : ℕ} (early : slot < 200) (expectedStatus : ℤ)
    (enforceGuards : Bool) :
    Program.Triple
      (fun machine => FaultRecord setup machine ∧
        currentSlot machine.trace = some (.active, slot))
      (drainPolicyFeedback setup world expectedStatus enforceGuards)
      (fun _ machine => FaultRecord setup machine ∧
        currentSlot machine.trace = some (.active, slot))
      fun machine => CommandedSafely setup machine.trace := by
  apply drainPolicyFeedback_triple _ fun _ record => record.1.safe
  rintro interface result machine ⟨record, current⟩
  have same := @policyRead_trace setup world expectedStatus enforceGuards interface result
    (afterRead result interface machine)
  have clear : FaultRecord setup (afterRead result interface machine) := by
    apply record.read
    rintro ⟨_, other, here, late⟩
    rw [current] at here
    cases here
    exact absurd late (not_le.mpr early)
  have slotKept : currentSlot (afterRead result interface machine).trace =
      some (.active, slot) := by
    unfold afterRead currentSlot
    rw [latest_concat]
    exact current
  constructor
  · intro _ _
    rw [same]
    exact ⟨clear.of_trace same, slotKept⟩
  · intro _
    rw [same]
    exact clear.safe

/-- Reading stays in the slot. -/
theorem currentSlot_drain (expectedStatus : ℤ) (enforceGuards : Bool)
    (current : Option (Phase × ℕ)) :
    Program.Triple (fun machine => currentSlot machine.trace = current)
      (drainPolicyFeedback setup world expectedStatus enforceGuards)
      (fun _ machine => currentSlot machine.trace = current)
      fun machine => currentSlot machine.trace = current := by
  have emits := EmitsOnly.drainPolicyFeedback setup world expectedStatus enforceGuards
  have kept : ∀ first last : Machine, Extends (fun machine : Machine => machine.trace)
      (fun event => event.kind ∈ [Kind.read]) first last →
        currentSlot first.trace = current → currentSlot last.trace = current := by
    rintro first last ⟨suffix, grown, allowed⟩ here
    dsimp only at grown
    rw [grown, currentSlot_append (by simp) allowed]
    exact here
  exact emits.triple kept kept

/-- A slot of the active loop keeps the record. -/
theorem FaultRecord.activeSlot (startNs : ℤ) (slot : ℕ) :
    Program.Triple (FaultRecord setup) (activeSlot setup world startNs slot)
      (fun _ => FaultRecord setup) fun machine => CommandedSafely setup machine.trace := by
  let here := fun machine : Machine =>
    FaultRecord setup machine ∧ currentSlot machine.trace = some (.active, slot)
  have entering : Program.Triple (FaultRecord setup)
      (emit (.slot .active slot)) (fun _ => here)
      fun machine => CommandedSafely setup machine.trace := by
    apply Program.Triple.modify
    intro machine record
    constructor
    · have grown : ({ machine with trace := machine.trace ++ [.slot .active slot] } :
          Machine).trace = machine.trace ++ [.slot .active slot] := rfl
      exact record.append grown (by simp [Event.kind])
    · simp [currentSlot, Event.slotOf]
  have commanding : Program.Triple here (commandSlot setup world startNs slot)
      (fun _ => here) fun machine => CommandedSafely setup machine.trace := by
    have emits := @EmitsOnly.commandSlot setup world startNs slot
    have kept : ∀ first last, Extends (fun machine : Machine => machine.trace)
        (fun event => event.kind ∈ [Kind.drained, .accepted, .previewed, .payload])
        first last → here first → here last := by
      rintro first last ⟨suffix, grown, allowed⟩ ⟨record, current⟩
      dsimp only at grown
      constructor
      · apply record.append grown
        intro event member unread
        simpa [unread] using allowed event member
      · rw [grown, currentSlot_append (by simp) allowed]
        exact current
    exact emits.triple kept fun first last grown before => (kept first last grown before).1.safe
  have reading : Program.Triple here
      (drainPolicyFeedback setup world (if slot < 200 then -1 else 1) true)
      (fun _ => here) fun machine => CommandedSafely setup machine.trace := by
    by_cases early : slot < 200
    · rw [if_pos early]
      exact FaultRecord.drain_early early (-1) true
    · rw [if_neg early]
      apply ((FaultRecord.drain_strict true).both
        (currentSlot_drain 1 true (some (.active, slot)))).consequence
      · exact fun _ => id
      · exact fun _ _ => id
      · exact fun _ => And.left
  apply activeSlot_triple entering commanding reading
  · exact fun machine inside => inside.1.safe
  · exact (FaultRecord.triple (EmitsOnly.publishState setup world slot) (by simp)).consequence
      (fun _ => And.left) (fun _ _ => id) fun _ => id

/-- Commanding ends with the first late fault. -/
theorem FaultRecord.activeLoop :
    Program.Triple (FaultRecord setup) (activeLoop setup world)
      (fun _ => FaultRecord setup) fun machine => CommandedSafely setup machine.trace := by
  have starting : EmitsOnly [] (monotonicNs world) := .monotonicNs world
  refine .bind (FaultRecord.triple starting (by simp)) fun now => ?_
  refine .bind (.forEach_keeps fun slot => FaultRecord.activeSlot _ slot) fun _ => ?_
  refine .bind (FaultRecord.drain_strict true) fun _ => .bind (.get fun _ => id) fun machine => ?_
  refine .bind (.forEach_keeps fun index => ?_) fun _ => ?_
  · exact .throwIf _ (fun _ _ record => record.safe) fun _ _ => id
  · exact .throwIf _ (fun _ _ record => record.safe) fun _ _ => id

end Loop

section Run

variable {setup : Setup} {world : World}

/-- Neither a preparation nor a shutdown commands. -/
theorem not_commanding {event : Event} {kinds : List Kind} {phase : Phase}
    (uncommanding : .payload ∉ kinds) (unslotted : .slot ∉ kinds) (inactive : phase ≠ .active)
    (among : event.kind ∈ kinds ∨ ∃ index, event = .slot phase index) : ¬Commanding event := by
  rintro (payload | ⟨slot, rfl⟩)
  · rcases among with member | ⟨index, rfl⟩
    · exact uncommanding (payload ▸ member)
    · cases payload
  · rcases among with member | ⟨index, same⟩
    · exact unslotted member
    · cases same
      exact inactive rfl

/-- A preparation hands over without a fault. -/
theorem FaultRecord.prepare :
    Program.Triple (fun machine => machine = Machine.initial) (prepare setup world)
      (fun _ => FaultRecord setup) fun machine => CommandedSafely setup machine.trace := by
  have uncommanded : ∀ event, (event.kind ∈ [Kind.poll, .read, .drained, .accepted, .published] ∨
      ∃ index, event = .slot .preparation index) → ¬Commanding event :=
    fun event => not_commanding (by simp) (by simp) (by simp)
  have safe : CommandedSafely setup (SpriteRuntime.prepare setup world Machine.initial).2.trace := by
    obtain ⟨suffix, grown, opening⟩ := EmitsOnly.prepare_begins setup world Machine.initial
    dsimp only at grown
    rw [grown]
    have none : CommandedSafely setup Machine.initial.trace := Justified.nil
    apply none.append_unreasoned
    intro event member before commanding
    exact absurd commanding (uncommanded event (opening event member))
  rintro _ rfl
  constructor
  · intro value returned
    have ready := prepare_ready setup world (Prod.ext returned rfl)
    constructor
    · intro before fault after split late
      obtain ⟨⟨index, feedback⟩, brought, _⟩ := late.1
      have valid := ready.record.feedback.healthy _ (by simp [split]) index feedback brought
      exact not_valid_of_faulty late.1 brought (by decide) valid
    · exact safe
  · exact fun _ => safe

/-- A body that returns has met no late fault, and however it ends it has commanded
nothing after one. -/
theorem FaultRecord.body :
    Program.Triple (fun machine => machine = Machine.initial)
      (protectedPolicyBody setup world) (fun _ => FaultRecord setup)
      fun machine => CommandedSafely setup machine.trace := by
  refine .bind FaultRecord.prepare fun _ => ?_
  refine .bind (FaultRecord.triple (EmitsOnly.enable setup world) (by simp)) fun _ => ?_
  exact FaultRecord.activeLoop

/-- The run is in a slot of its verification, and there was no late fault. -/
def Verifying (setup : Setup) (machine : Machine) : Prop :=
  NoLateFault setup machine.trace ∧
    ∃ slot, currentSlot machine.trace = some (.verification, slot)

/-- Whatever reads nothing brings no late fault and stays in its slot. -/
theorem verifying_kept {first last : Machine} {suffix : List Event} {kinds : List Kind}
    (grown : last.trace = first.trace ++ suffix)
    (allowed : ∀ event ∈ suffix, event.kind ∈ kinds) (unread : .read ∉ kinds) :
    (NoLateFault setup first.trace → NoLateFault setup last.trace) ∧
      (.slot ∉ kinds → Verifying setup first → Verifying setup last) := by
  have clear : NoLateFault setup first.trace → NoLateFault setup last.trace := by
    intro before
    rw [grown]
    apply before.append_unreasoned
    intro event member earlier late
    exact not_faulty_of_unread (fun same => unread (same ▸ allowed event member)) late.1
  constructor
  · exact clear
  · rintro unslotted ⟨before, slot, current⟩
    refine ⟨clear before, slot, ?_⟩
    rw [grown, currentSlot_append unslotted allowed]
    exact current

/-- A drain during the verification brings no late fault. -/
theorem verifying_drain :
    Program.Triple (Verifying setup) (drainPolicyFeedback setup world (-1) false)
      (fun _ => Verifying setup) fun _ => True := by
  apply drainPolicyFeedback_triple _ fun _ _ => trivial
  rintro interface result machine ⟨before, slot, current⟩
  have same := @policyRead_trace setup world (-1) false interface result
    (afterRead result interface machine)
  constructor
  · intro _ _
    unfold Verifying
    rw [same]
    constructor
    · apply before.concat
      rintro ⟨_, other, here, _⟩
      rw [current] at here
      cases here
    · refine ⟨slot, ?_⟩
      unfold afterRead currentSlot
      rw [latest_concat]
      exact current
  · exact fun _ => trivial

/-- A shutdown reads nothing outside its verification slots. -/
theorem shutdownBody_clear :
    Program.Triple (fun machine => NoLateFault setup machine.trace)
      (shutdownBody setup world (drainPolicyFeedback setup world (-1) false))
      (fun _ machine => NoLateFault setup machine.trace) fun _ => True := by
  let clear := fun machine : Machine => NoLateFault setup machine.trace
  have unread {α : Type} {program : Native α} {kinds : List Kind}
      (emits : EmitsOnly kinds program) (unread : .read ∉ kinds) :
      Program.Triple clear program (fun _ => clear) fun _ => True := by
    apply emits.triple _ fun _ _ _ _ => trivial
    rintro first last ⟨suffix, grown, allowed⟩
    exact (verifying_kept grown allowed unread).1
  have within {α : Type} {program : Native α} {kinds : List Kind}
      (emits : EmitsOnly kinds program) (unread : .read ∉ kinds) (unslotted : .slot ∉ kinds) :
      Program.Triple (Verifying setup) program (fun _ => Verifying setup) fun _ => True := by
    apply emits.triple _ fun _ _ _ _ => trivial
    rintro first last ⟨suffix, grown, allowed⟩
    exact (verifying_kept grown allowed unread).2 unslotted
  have entering (slot : ℕ) : Program.Triple clear (emit (.slot .verification slot))
      (fun _ => Verifying setup) fun _ => True := by
    apply Program.Triple.modify
    intro machine before
    have grown : ({ machine with trace := machine.trace ++ [.slot .verification slot] } :
        Machine).trace = machine.trace ++ [.slot .verification slot] := rfl
    have among : ∀ event ∈ [Event.slot .verification slot], event.kind ∈ [Kind.slot] := by
      simp [Event.kind]
    constructor
    · exact (verifying_kept grown among (by simp)).1 before
    · exact ⟨slot, by simp [currentSlot, Event.slotOf]⟩
  have slots (slot : ℕ) : Program.Triple
      (fun machine => clear machine ∧ (slot ≠ 0 → Verifying setup machine))
      (verificationSlot setup world (drainPolicyFeedback setup world (-1) false) slot)
      (fun _ machine => clear machine ∧ (slot + 1 ≠ 0 → Verifying setup machine))
      fun _ => True := by
    have sleeping : EmitsOnly [] (sleepUntil world) := .sleepUntil world
    have slotwise : Program.Triple clear
        (verificationSlot setup world (drainPolicyFeedback setup world (-1) false) slot)
        (fun _ => Verifying setup) fun _ => True := by
      refine .bind (entering slot) fun _ => ?_
      refine .bind (within sleeping (by simp) (by simp)) fun _ => ?_
      refine .bind (within (EmitsOnly.pollDue setup world slot) (by simp) (by simp)) fun _ => ?_
      exact verifying_drain
    exact slotwise.consequence (fun _ => And.left) (fun _ _ after => ⟨after.1, fun _ => after⟩)
      fun _ => id
  have still : EmitsOnly [] (forEachMotor fun index => onMachineMotor index
      (Program.modify fun motor => { motor with seen := false, finalDisabled := false })) :=
    .forEachMotor fun index => .onMachineMotor index _
  have clock : EmitsOnly [] (monotonicNs world) := .monotonicNs world
  have looping : Program.Triple clear
      (Program.forEach (List.range 400)
        (verificationSlot setup world (drainPolicyFeedback setup world (-1) false)))
      (fun _ => Verifying setup) fun _ => True := by
    apply (Program.Triple.forEach_range fun slot _ => slots slot).consequence
    · exact fun _ before => ⟨before, fun wrong => absurd rfl wrong⟩
    · exact fun _ _ after => after.2 (by decide)
    · exact fun _ => id
  unfold shutdownBody
  generalize List.range 3 = passes
  refine .bind (.forEach_keeps fun _ => ?_) fun _ => ?_
  · exact unread (EmitsOnly.disablePass setup world) (by simp)
  refine .bind (unread still (by simp)) fun _ => .bind (unread clock (by simp)) fun _ => ?_
  refine .bind looping fun _ => .bind verifying_drain fun _ => ?_
  refine .bind (.get fun _ => And.left) fun machine => .forEach_keeps fun index => ?_
  exact .throwIf _ (fun _ _ _ => trivial) fun _ _ => id

/-- From slot 200 of the active loop on every fault stops the run: nothing is commanded
any more, and the run does not pass.  In an earlier slot a fault is passed over, and
nothing but the trace knows of it. -/
theorem runNativeProtectedPolicy_faults_stop (setup : Setup) (world : World) :
    FaultsStop setup (fun slot => 200 ≤ slot)
        (runNativeProtectedPolicy setup world Machine.initial) ∧
      ∀ interface result machine, Faulty setup (.read interface result) →
        policyRead setup world (-1) true interface result (afterRead result interface machine) =
          (.done true, afterRead result interface machine) := by
  constructor
  · intro before fault after slot split current late faulty
    have isLate : LateFault setup before fault := ⟨faulty, slot, current, late⟩
    constructor
    · have safe : CommandedSafely setup (protectedPolicyTrace setup world) := by
        apply protectedPolicyTrace_justified
        · intro earlier event closing commanding
          exact absurd commanding (not_commanding (by simp) (by simp) (by simp) closing)
        · exact FaultRecord.body.consequence (fun _ => id) (fun _ _ record => record.safe)
            fun _ => id
      intro event member commanding
      obtain ⟨between, rest, parts⟩ := List.append_of_mem member
      have clear := safe (before ++ fault :: between) event rest
        (by unfold protectedPolicyTrace; rw [split, parts]; simp) commanding
      exact clear before fault between rfl isLate
    · intro report returned
      by_contra passed
      obtain ⟨middle, body, closed⟩ := poweredRun_passed setup world
        (protectedPolicyBody_explains setup world)
        (drainPolicyFeedback_explains setup world (-1) false)
        (Prod.ext returned rfl) (by simpa using passed)
      have record : FaultRecord setup middle := FaultRecord.body.of_eq_done rfl body
      exact shutdownBody_clear.of_eq_done record.clear closed before fault after split isLate
  · intro interface result machine faulty
    obtain ⟨⟨other, otherFeedback⟩, brought, _⟩ := id faulty
    rcases @policyRead_cases setup world (-1) true interface result with
      ⟨rfl, _⟩ | ⟨silent, _⟩ | ⟨_, what, _, round⟩ | ⟨index, feedback, reply, valid, _⟩
    · cases brought
    · rw [silent] at brought
      cases brought
    · rw [round]
      rfl
    · exact absurd valid (not_valid_of_faulty faulty reply (by decide))

end Run

/-- The steady motors, but the first of them reports an undervoltage in the first slot of
the active loop. -/
def faultyWorld : World :=
  { quietWorld with
    clock := fun call => if call < 5 then some 0 else none
    read := fun call =>
      if call = 35 then
        .received canfdMtu
          { canId := 0x11
            length := 8
            flags := canfdBrs
            data := ![0x91, 0x80, 0, 0x7F, 0xF7, 0xFF, 25, 25] }
      else benchReads.getD call .again
    recv := fun call => if call = 0 then .message statelessTarget else .again
    patience := 9 }

/-- The run with the early fault goes on to command motors. -/
theorem runNativeProtectedPolicy_passes_over_fault :
    ¬FaultsStop ankleSetup (fun _ => True)
      (runNativeProtectedPolicy ankleSetup faultyWorld Machine.initial) := by
  intro stops
  let passes := fun event => !decide (Faulty ankleSetup event)
  have run : currentSlot ((protectedPolicyTrace ankleSetup faultyWorld).takeWhile passes) =
        some (.active, 0) ∧
      ((protectedPolicyTrace ankleSetup faultyWorld).dropWhile passes).tail.any
        (fun event => decide (event.kind = .payload)) = true := by
    decide +kernel
  have parts := List.takeWhile_append_dropWhile (p := passes)
    (l := protectedPolicyTrace ankleSetup faultyWorld)
  obtain ⟨current, commanded⟩ := run
  cases rest : (protectedPolicyTrace ankleSetup faultyWorld).dropWhile passes with
  | nil => simp [rest] at commanded
  | cons fault after =>
      rw [rest] at parts commanded
      have faulty : passes fault = false := by
        have some : (protectedPolicyTrace ankleSetup faultyWorld).dropWhile passes ≠ [] := by
          simp [rest]
        simpa [rest] using List.head_dropWhile_not passes some
      obtain ⟨event, member, payload⟩ := List.any_eq_true.mp commanded
      apply (stops _ fault after 0 parts.symm current trivial (by simpa [passes] using faulty)).1
        event member
      exact .inl (by simpa using payload)

end SpriteRuntime
