import Mathlib.Algebra.Order.Archimedean.Basic
import SpriteRuntime.Runtime.RegisterAudit

/-!
# The transcript of a register audit

An audit that returns has held an interview: every register of every motor was asked for, in order
and no more often than `retries` says, and each was answered by a frame that decodes to the value in
the report.  However an audit ends, it has sent nothing but read requests.
-/

namespace SpriteRuntime

open Foundation

/-! ## The interview -/

/-- A register of a motor. -/
abbrev RegisterQuestion : Type := DamiaoFeedbackEndpoint × ℤ × String

section Interviews

variable {V : Type} (table : RegisterTable V)

/-- Requests, the frames that are passed over, and the frames that answer. -/
def registerInterviewer : Interviewer RegisterQuestion V RegisterEvent where
  puts question event :=
    event = .request question.1.interface question.1.canId question.2.1
  passes question event := event = .discarded question.1.interface ∨
    ∃ frame : ReceivedCanFrame, event = .received question.1.interface frame ∧
      (frame.canId = 0x7FF ∨ (frame.canId : ℤ) ≠ question.1.masterId)
  answers question event value :=
    ∃ (frame : ReceivedCanFrame) (decoded : DamiaoRegisterValue V),
      event = .received question.1.interface frame ∧
        table.decode frame question.1.canId question.1.masterId question.2.1 = .ok decoded ∧
        decoded.value = value

variable {table}

theorem registerInterviewer_distinguishes :
    (registerInterviewer table).Distinguishes RegisterEvent.isRequest where
  puts question event put := by
    rw [show event = _ from put]
    rfl
  passes question event pass := by
    obtain rfl | ⟨frame, rfl, _⟩ := pass
    · rfl
    · rfl
  answers question event answer answered := by
    obtain ⟨frame, decoded, rfl, _⟩ := answered
    rfl

/-- What one round of listening adds to the log. -/
inductive Heard (table : RegisterTable V) (question : RegisterQuestion) :
    Option (Option V) → List RegisterEvent → Prop
  | again {added : List RegisterEvent}
      (passes : ∀ event ∈ added, (registerInterviewer table).passes question event) :
      Heard table question none added
  | late : Heard table question (some none) []
  | answered {event : RegisterEvent} {value : V}
      (answers : (registerInterviewer table).answers question event value) :
      Heard table question (some (some value)) [event]

end Interviews

section Recording

variable {V : Type} {table : RegisterTable V} {world : RegisterWorld}
  {reader : SocketCanDamiaoRegisterReader} {endpoint : DamiaoFeedbackEndpoint} {fuel : ℕ}
  {timeoutS : ℚ} {retries : ℤ} {readers : RegisterReaders}

open Program

theorem auditClock_leaves : (auditClock world).Leaves AuditState.log :=
  .bind .get fun _ => .bind (.modify fun _ => rfl) fun _ => .pure _

/-- A request that was sent is logged and counted by the reader. -/
theorem sendReadRequest_eq_done {interface : String} {motorCanId registerId : ℤ} {value : Unit}
    {state final : AuditState}
    (returned : sendReadRequest world reader interface motorCanId registerId state =
      (.done value, final)) :
    final = AuditState.counted interface { state with
      sendCalls := state.sendCalls + 1
      log := state.log ++ [.request interface motorCanId registerId] } := by
  obtain ⟨_, first, allowed, opened⟩ := bind_eq_done_iff.mp returned
  rw [(ofExcept_eq_done_iff.mp allowed).2] at opened
  obtain ⟨known, second, looked, calling⟩ := bind_eq_done_iff.mp opened
  rw [(get_eq_done_iff.mp looked).2] at calling
  obtain ⟨_, third, called, answered⟩ := bind_eq_done_iff.mp calling
  rw [modify_eq_done_iff.mp called] at answered
  cases answer : world.send known.sendCalls with
  | sent =>
      rw [answer] at answered
      exact modify_eq_done_iff.mp answered
  | raised text counted =>
      rw [answer] at answered
      obtain ⟨_, _, _, raised⟩ := bind_eq_done_iff.mp answered
      cases raised

theorem records_sendReadRequest (interface : String) (motorCanId registerId : ℤ) :
    Records AuditState.log
      (fun _ added => added = [RegisterEvent.request interface motorCanId registerId])
      (sendReadRequest world reader interface motorCanId registerId) := by
  intro state value final returned
  exact ⟨_, congrArg AuditState.log (sendReadRequest_eq_done returned), rfl⟩

theorem records_judgeFrame (register : ℤ × String) (frame : ReceivedCanFrame) :
    Records AuditState.log (fun answer added => added = [] ∧
        Heard table (endpoint, register) answer [.received endpoint.interface frame])
      (judgeFrame table endpoint register.1 frame) := by
  unfold judgeFrame
  split
  next foreign =>
      refine .pure ⟨rfl, .again fun event member => ?_⟩
      rw [List.mem_singleton.mp member]
      exact .inr ⟨frame, rfl, foreign⟩
  · intro state answer final returned
    obtain ⟨decoded, middle, ran, made⟩ := bind_eq_done_iff.mp returned
    obtain ⟨accepted, rfl⟩ := ofExcept_eq_done_iff.mp ran
    obtain ⟨rfl, rfl⟩ := pure_eq_done_iff.mp made
    exact ⟨[], (List.append_nil _).symm, rfl, .answered ⟨frame, decoded, rfl, accepted, rfl⟩⟩

theorem records_heardFrame (register : ℤ × String)
    (outcome : Except SocketCanError ReceivedSocketFrame) :
    Records AuditState.log (Heard table (endpoint, register))
      (heardFrame table endpoint register.1 outcome) := by
  cases outcome with
  | error error =>
      cases error with
      | wouldBlock => exact .pure (.again nofun)
      | timestamp text =>
          intro state answer final returned
          obtain ⟨_, middle, noted, made⟩ := bind_eq_done_iff.mp returned
          obtain ⟨rfl, rfl⟩ := pure_eq_done_iff.mp made
          rw [modify_eq_done_iff.mp noted]
          refine ⟨_, rfl, .again fun event member => ?_⟩
          exact .inl (List.mem_singleton.mp member)
      | runtime text => exact .throw text
  | ok frame =>
      intro state answer final returned
      obtain ⟨_, middle, noted, judged⟩ := bind_eq_done_iff.mp returned
      obtain ⟨_, grown, rfl, heard⟩ := records_judgeFrame register _ middle answer final judged
      rw [modify_eq_done_iff.mp noted, List.append_nil] at grown
      exact ⟨_, grown, heard⟩

theorem records_listenRound (register : ℤ × String) (deadline : ℚ) :
    Records AuditState.log (Heard table (endpoint, register))
      (listenRound table world reader endpoint register.1 deadline) := by
  refine .after auditClock_leaves fun now => ?_
  unfold listenBefore
  split
  · exact .after .get fun state => .after (.modify fun _ => rfl) fun _ =>
      records_heardFrame register _
  · exact .pure .late

theorem records_awaitRegister (register : ℤ × String) :
    Records AuditState.log (fun answer added => ∃ passed last, added = passed ++ last ∧
        (∀ event ∈ passed, (registerInterviewer table).passes (endpoint, register) event) ∧
        Heard table (endpoint, register) (some answer) last)
      (awaitRegister table world reader endpoint fuel timeoutS register.1) := by
  refine .after (.modify fun _ => rfl) fun _ => .after auditClock_leaves fun now => ?_
  apply Records.repeatUntil
  apply (records_listenRound register _).mono
  intro answer added heard
  cases heard with
  | again passes => exact passes
  | late => exact .late
  | answered answers => exact .answered answers

theorem records_requestRegister (register : ℤ × String) :
    Records AuditState.log ((registerInterviewer table).Attempt (endpoint, register))
      (requestRegister table world reader endpoint fuel timeoutS register.1) := by
  apply (Records.bind (records_sendReadRequest _ _ _) fun _ => records_awaitRegister register).mono
  rintro answer _ ⟨_, _, _, rfl, rfl, passed, last, rfl, passes, heard⟩
  cases heard with
  | late =>
      rw [List.append_nil]
      exact .silent rfl passes
  | answered answers => exact .answered rfl passes answers

/-- A register that was read was asked for until it was answered. -/
theorem records_readRegister (register : ℤ × String) :
    Records AuditState.log (fun (entry : String × V) added => entry.1 = register.2 ∧
        ∃ count ≤ retries.toNat, (registerInterviewer table).Asked (endpoint, register) count added
          entry.2)
      (readRegister table world reader endpoint fuel timeoutS retries register) := by
  intro state entry final returned
  obtain ⟨decoded, middle, ran, made⟩ := bind_eq_done_iff.mp returned
  obtain ⟨added, grown, asked⟩ := Records.tryTimes (records_requestRegister register) _ _ _ _ ran
  cases decoded with
  | none => cases made
  | some value =>
      obtain ⟨rfl, rfl⟩ := pure_eq_done_iff.mp made
      exact ⟨added, grown, rfl, asked value rfl⟩

variable (table) in
/-- The questions with the answers that a report gives them. -/
def answeredBy (selected : List DamiaoFeedbackEndpoint)
    (motors : List (String × List (String × V))) : List (RegisterQuestion × V) :=
  (selected.zip motors).flatMap fun motor =>
    (table.registers.zip motor.2.2).map fun entry => ((motor.1, entry.1), entry.2.2)

/-- The report lists the motors and their registers in order. -/
structure MotorsListed (table : RegisterTable V) (selected : List DamiaoFeedbackEndpoint)
    (motors : List (String × List (String × V))) : Prop where
  names : motors.map Prod.fst = selected.map DamiaoFeedbackEndpoint.motorName
  registers : ∀ motor ∈ motors, motor.2.map Prod.fst = table.registers.map Prod.snd

variable (table endpoint) in
/-- Some registers of a motor, with their values, in the log. -/
structure RegistersRead (limit : ℕ) (registers : List (ℤ × String)) (values : List (String × V))
    (added : List RegisterEvent) : Prop where
  named : values.map Prod.fst = registers.map Prod.snd
  completed : (registerInterviewer table).Completed limit
    ((registers.zip values).map fun entry => ((endpoint, entry.1), entry.2.2)) added

theorem records_registers :
    Records AuditState.log (RegistersRead table endpoint retries.toNat table.registers)
      (gather (readRegister table world reader endpoint fuel timeoutS retries)
        table.registers) := by
  apply Records.gather fun register => records_readRegister register
  · exact ⟨rfl, .nil⟩
  · rintro register rest value values front back ⟨named, count, few, asked⟩ ⟨others, later⟩
    refine ⟨by simp [named, others], ?_⟩
    rw [List.zip_cons_cons, List.map_cons]
    exact .cons asked few later

theorem records_readMotor :
    Records AuditState.log (fun (motor : String × List (String × V)) added =>
        motor.1 = endpoint.motorName ∧ motor.2.map Prod.fst = table.registers.map Prod.snd ∧
          (registerInterviewer table).Completed retries.toNat
            ((table.registers.zip motor.2).map fun entry => ((endpoint, entry.1), entry.2.2)) added)
      (readMotor table world fuel timeoutS retries readers endpoint) := by
  unfold readMotor
  cases readers.entries.lookup endpoint.interface with
  | none => exact .throw _
  | some reader =>
      intro state motor final returned
      obtain ⟨values, middle, ran, made⟩ := bind_eq_done_iff.mp returned
      obtain ⟨rfl, rfl⟩ := pure_eq_done_iff.mp made
      obtain ⟨added, grown, listed, completed⟩ := records_registers _ _ _ ran
      exact ⟨added, grown, rfl, listed, completed⟩

theorem records_motors {selected : List DamiaoFeedbackEndpoint} :
    Records AuditState.log (fun motors added => MotorsListed table selected motors ∧
        (registerInterviewer table).Completed retries.toNat (answeredBy table selected motors)
          added)
      (gather (readMotor table world fuel timeoutS retries readers) selected) := by
  apply Records.gather fun _ => records_readMotor
  · exact ⟨⟨rfl, by simp⟩, .nil⟩
  · rintro endpoint rest motor motors front back ⟨named, listed, asked⟩ ⟨others, later⟩
    refine ⟨⟨by simp [named, others.names], ?_⟩, asked.append later⟩
    rintro other member
    rcases List.mem_cons.mp member with rfl | member
    · exact listed
    · exact others.registers other member

/-- A report answers every register of every motor. -/
theorem MotorsListed.questions {selected : List DamiaoFeedbackEndpoint}
    {motors : List (String × List (String × V))} (listed : MotorsListed table selected motors) :
    (answeredBy table selected motors).map Prod.fst =
      selected.flatMap fun endpoint => table.registers.map fun register => (endpoint, register) := by
  obtain ⟨names, registers⟩ := listed
  induction selected generalizing motors with
  | nil => rfl
  | cons endpoint rest induction =>
      cases motors with
      | nil => cases names
      | cons motor motors =>
          have same := registers motor List.mem_cons_self
          have length : table.registers.length ≤ motor.2.length := by
            rw [← List.length_map (f := Prod.snd), ← same, List.length_map]
          have others := induction (List.cons.inj names).2 fun other member =>
            registers other (List.mem_cons_of_mem motor member)
          rw [answeredBy] at others ⊢
          rw [List.zip_cons_cons, List.flatMap_cons, List.map_append, List.map_map, others,
            List.flatMap_cons]
          congr 1
          calc (table.registers.zip motor.2).map (Prod.fst ∘ fun entry =>
                  ((endpoint, entry.1), entry.2.2))
              = ((table.registers.zip motor.2).map Prod.fst).map fun register =>
                  (endpoint, register) := by rw [List.map_map]; rfl
            _ = table.registers.map fun register => (endpoint, register) := by
                rw [List.map_fst_zip length]

end Recording

/-! ## Counting -/

section Counting

variable {V : Type} {table : RegisterTable V} {world : RegisterWorld}
  {reader : SocketCanDamiaoRegisterReader} {endpoint : DamiaoFeedbackEndpoint} {fuel : ℕ}
  {timeoutS : ℚ} {retries : ℤ} {readers : RegisterReaders} {initial : ℕ}

open Program

/-- What has been counted is in the log; some requests may not have been counted yet. -/
structure Accounted (readers : RegisterReaders) (initial uncounted : ℕ) (state : AuditState) :
    Prop where
  attempts : state.attempts + uncounted = state.log.countP RegisterEvent.isRequest
  tx : txCount readers state = initial + state.log.countP RegisterEvent.isRequest
  discarded : state.discardedTimestampFrames = state.log.countP RegisterEvent.isDiscarded

/-- Every reader has its own counter. -/
theorem txCount_counted {interface : String} (known : interface ∈ readers.entries.map Prod.fst)
    (state : AuditState) : txCount readers (state.counted interface) = txCount readers state + 1 := by
  obtain ⟨reader, member, rfl⟩ := List.mem_map.mp known
  have one := sum_map_ite_key readers.distinct member fun _ => 1
  have each : (readers.entries.map fun other => (state.counted reader.1).hardwareTxAttempts other.1)
      = readers.entries.map fun other => state.hardwareTxAttempts other.1 +
        if other.1 = reader.1 then 1 else 0 := by
    apply List.map_congr_left
    intro other _
    by_cases same : other.1 = reader.1
    · simp [AuditState.counted, same]
    · simp [AuditState.counted, same]
  rw [txCount, each, List.sum_map_add, one]
  rfl

/-- An entry of the log that is counted, unless it is a request that is not counted yet. -/
theorem Accounted.logged {uncounted later : ℕ} {before after : AuditState}
    (counted : Accounted readers initial uncounted before) (event : RegisterEvent)
    (more : later = uncounted + if event.isRequest then 1 else 0)
    (log : after.log = before.log ++ [event]) (attempts : after.attempts = before.attempts)
    (tx : txCount readers after = txCount readers before + if event.isRequest then 1 else 0)
    (discarded : after.discardedTimestampFrames =
      before.discardedTimestampFrames + if event.isDiscarded then 1 else 0) :
    Accounted readers initial later after := by
  have grown (holds : RegisterEvent → Bool) : after.log.countP holds =
      before.log.countP holds + if holds event then 1 else 0 := by
    rw [log, List.countP_append, List.countP_singleton]
  refine ⟨?_, ?_, ?_⟩
  · rw [attempts, grown, more, ← Nat.add_assoc, counted.attempts]
  · rw [tx, grown, counted.tx, Nat.add_assoc]
  · rw [discarded, grown, counted.discarded]

theorem accounted_auditClock {uncounted : ℕ} :
    Triple (Accounted readers initial uncounted) (auditClock world)
      (fun _ => Accounted readers initial uncounted) fun _ => True := by
  apply Triple.of_done
  intro state value final counted returned
  cases returned
  exact ⟨counted.attempts, counted.tx, counted.discarded⟩

theorem accounted_sendReadRequest {interface : String}
    (known : interface ∈ readers.entries.map Prod.fst) (motorCanId registerId : ℤ) :
    Triple (Accounted readers initial 0)
      (sendReadRequest world reader interface motorCanId registerId)
      (fun _ => Accounted readers initial 1) fun _ => True := by
  apply Triple.of_done
  intro state value final counted returned
  rw [sendReadRequest_eq_done returned]
  exact counted.logged (.request interface motorCanId registerId) rfl rfl rfl
    (txCount_counted known _) rfl

theorem accounted_heardFrame (register : ℤ × String)
    (outcome : Except SocketCanError ReceivedSocketFrame) :
    Triple (Accounted readers initial 0) (heardFrame table endpoint register.1 outcome)
      (fun _ => Accounted readers initial 0) fun _ => True := by
  cases outcome with
  | error error =>
      cases error with
      | wouldBlock => exact .pure _ fun _ => id
      | timestamp text =>
          refine .bind (.modify _ fun state counted => ?_) fun _ => .pure _ fun _ => id
          exact counted.logged (.discarded endpoint.interface) rfl rfl rfl rfl rfl
      | runtime text => exact .throw _ fun _ _ => trivial
  | ok frame =>
      have noted (before : AuditState) (counted : Accounted readers initial 0 before) :
          Accounted readers initial 0 { before with
            log := before.log ++ [.received endpoint.interface frame.toReceivedCanFrame] } :=
        counted.logged (.received _ _) rfl rfl rfl rfl rfl
      refine .modify_bind noted ?_
      unfold judgeFrame
      split
      · exact .pure _ fun _ => id
      · exact .bind (.ofExcept (fun _ _ _ => id) fun _ _ _ _ => trivial) fun _ =>
          .pure _ fun _ => id

theorem accounted_listenRound (register : ℤ × String) (deadline : ℚ) :
    Triple (Accounted readers initial 0)
      (listenRound table world reader endpoint register.1 deadline)
      (fun _ => Accounted readers initial 0) fun _ => True := by
  refine .bind accounted_auditClock fun now => ?_
  unfold listenBefore
  split
  · exact .bind (.get fun _ => id) fun state => .bind (.modify _ fun _ counted =>
      ⟨counted.attempts, counted.tx, counted.discarded⟩) fun _ => accounted_heardFrame register _
  · exact .pure _ fun _ => id

theorem accounted_requestRegister (known : endpoint.interface ∈ readers.entries.map Prod.fst)
    (register : ℤ × String) :
    Triple (Accounted readers initial 0)
      (requestRegister table world reader endpoint fuel timeoutS register.1)
      (fun _ => Accounted readers initial 0) fun _ => True := by
  have counting (before : AuditState) (sent : Accounted readers initial 1 before) :
      Accounted readers initial 0 { before with attempts := before.attempts + 1 } :=
    ⟨sent.attempts, sent.tx, sent.discarded⟩
  refine .bind (accounted_sendReadRequest known _ _) fun _ => ?_
  refine .modify_bind counting (.bind accounted_auditClock fun now => ?_)
  apply Triple.repeatUntil
  · apply (accounted_listenRound register _).consequence (fun _ => id) _ fun _ => id
    intro answer state counted
    cases answer with
    | none => exact counted
    | some answer => exact counted
  · exact fun _ _ => trivial

theorem accounted_motors {selected : List DamiaoFeedbackEndpoint}
    (known : ∀ endpoint ∈ selected, endpoint.interface ∈ readers.entries.map Prod.fst) :
    Triple (Accounted readers initial 0)
      (gather (readMotor table world fuel timeoutS retries readers) selected)
      (fun _ => Accounted readers initial 0) fun _ => True := by
  apply Triple.gather
  intro endpoint member
  unfold readMotor
  cases readers.entries.lookup endpoint.interface with
  | none => exact .throw _ fun _ _ => trivial
  | some reader =>
      refine .bind (.gather fun register _ => ?_) fun values => .pure _ fun _ => id
      refine .bind (.tryTimes (accounted_requestRegister (known endpoint member) register) _) ?_
      intro decoded
      cases decoded with
      | none => exact .throw _ fun _ _ => trivial
      | some value => exact .pure _ fun _ => id

end Counting

/-! ## Audits that return -/

/-- The readers have counted what they sent before; nothing else has happened. -/
def AuditState.start (hardwareTxAttempts : String → ℕ) : AuditState := { hardwareTxAttempts }

section Returned

variable {V : Type} {table : RegisterTable V} {world : RegisterWorld} {fuel : ℕ} {timeoutS : ℚ}
  {retries : ℤ} {readers : RegisterReaders} {selected : List DamiaoFeedbackEndpoint}

open Program

theorem MotorsListed.length {motors : List (String × List (String × V))}
    (listed : MotorsListed table selected motors) :
    motors.length = selected.length ∧
      (answeredBy table selected motors).length = selected.length * table.registers.length := by
  constructor
  · rw [← List.length_map (f := Prod.fst), listed.names, List.length_map]
  · rw [← List.length_map (f := Prod.fst), listed.questions, List.length_flatMap]
    simp

/-- What an audit has done when it returns. -/
structure AuditCompleted (table : RegisterTable V) (retries : ℤ)
    (selected : List DamiaoFeedbackEndpoint) (report : RegisterReport V) (final : AuditState) :
    Prop where
  listed : MotorsListed table selected report.motors
  interview : (registerInterviewer table).Completed retries.toNat
    (answeredBy table selected report.motors) final.log
  counted : report.txCount = final.log.countP RegisterEvent.isRequest
  discarded : report.discardedTimestampFrames = final.log.countP RegisterEvent.isDiscarded
  enough : selected.length * table.registers.length ≤ report.txCount
  few : report.txCount ≤ retries.toNat * (selected.length * table.registers.length)
  mode : report.mode = table.mode
  passed : report.passed = true

theorem collectRegisters_completed {counters : String → ℕ} {report : RegisterReport V}
    {final : AuditState}
    (returned : collectRegisters table world fuel timeoutS retries readers selected
      (.start counters) = (.done report, final)) :
    AuditCompleted table retries selected report final := by
  simp only [collectRegisters, bind_eq_done_iff, throwIf_eq_done_iff, get_eq_done_iff,
    pure_eq_done_iff, not_not] at returned
  obtain ⟨_, _, ⟨_, rfl⟩, _, _, ⟨_, rfl⟩, _, _, ⟨_, rfl⟩, _, _, ⟨_, rfl⟩, _, _, ⟨known, rfl⟩,
    motors, middle, ran, _, _, ⟨rfl, rfl⟩, _, _, ⟨same, rfl⟩, rfl, rfl⟩ := returned
  have present : ∀ endpoint ∈ selected, endpoint.interface ∈ readers.entries.map Prod.fst := by
    intro endpoint member
    by_contra absent
    exact known ⟨endpoint, member, absent⟩
  obtain ⟨added, grown, listed, interview⟩ := records_motors _ _ _ ran
  have empty : (AuditState.start counters).log = [] := rfl
  have logged : added = final.log := by rw [grown, empty, List.nil_append]
  subst logged
  have accounted : Accounted readers (txCount readers (.start counters)) 0 final :=
    (accounted_motors present).of_eq_done ⟨rfl, rfl, rfl⟩ ran
  have counted : txCount readers final = final.log.countP RegisterEvent.isRequest :=
    same.trans accounted.attempts
  obtain ⟨enough, few⟩ := interview.countP_bounds registerInterviewer_distinguishes
  rw [listed.length.2] at enough few
  exact {
    listed
    interview
    counted
    discarded := accounted.discarded
    enough := enough.trans_eq counted.symm
    few := counted.trans_le few
    mode := rfl
    passed := decide_eq_true listed.length.1 }

end Returned

/-! ## Audits however they end -/

section Contained

variable {V : Type} (table : RegisterTable V) (readers : RegisterReaders)
  (selected : List DamiaoFeedbackEndpoint)

/-- Requests are for registers of the table and for selected motors, and the reader allows them. -/
def Permitted : RegisterEvent → Prop
  | .request interface motorCanId registerId =>
      (∃ endpoint ∈ selected, endpoint.interface = interface ∧ endpoint.canId = motorCanId) ∧
        registerId ∈ table.registers.map Prod.fst ∧
        ∃ reader, readers.entries.lookup interface = some reader ∧
          reader.readRequestFrame motorCanId registerId =
            .ok (writtenFrame 0x7FF (readRequestData motorCanId registerId))
  | _ => True

/-- The clock has gone on, and the log by what is permitted. -/
structure AuditLater (allowed : RegisterEvent → Prop) (first last : AuditState) : Prop where
  clock : first.clockCalls ≤ last.clockCalls
  log : Extends AuditState.log allowed first last

instance (allowed : RegisterEvent → Prop) : IsPreorder AuditState (AuditLater allowed) where
  refl state := ⟨le_rfl, refl state⟩
  trans _ _ _ left right :=
    ⟨left.clock.trans right.clock, trans_of (Extends AuditState.log allowed) left.log right.log⟩

variable {table readers selected} {world : RegisterWorld} {reader : SocketCanDamiaoRegisterReader}
  {endpoint : DamiaoFeedbackEndpoint} {timeoutS : ℚ} {retries : ℤ}

open Program

theorem AuditLater.of_eq {allowed : RegisterEvent → Prop} {first last : AuditState}
    (clock : last.clockCalls = first.clockCalls) (log : last.log = first.log) :
    AuditLater allowed first last :=
  ⟨clock.ge, .of_eq log⟩

theorem AuditLater.logged {allowed : RegisterEvent → Prop} {first last : AuditState}
    {event : RegisterEvent} (permitted : allowed event)
    (clock : last.clockCalls = first.clockCalls) (log : last.log = first.log ++ [event]) :
    AuditLater allowed first last :=
  ⟨clock.ge, [event], log, by simpa using permitted⟩

theorem tame_auditClock {allowed : RegisterEvent → Prop} :
    Tame (AuditLater allowed) fun _ => auditClock world :=
  .bind .get fun _ => .bind (.modify fun _ => ⟨Nat.le_succ _, .of_eq rfl⟩) fun _ => .pure _

theorem readRequestFrame_eq_ok {motorCanId registerId : ℤ} {frame : CanFdFrame}
    (allowed : reader.readRequestFrame motorCanId registerId = .ok frame) :
    frame = writtenFrame 0x7FF (readRequestData motorCanId registerId) := by
  simp only [SocketCanDamiaoRegisterReader.readRequestFrame, except_bind_eq_ok] at allowed
  obtain ⟨_, _, _, _, made⟩ := allowed
  exact (Except.ok.inj made).symm

theorem tame_sendReadRequest (chosen : endpoint ∈ selected)
    (known : readers.entries.lookup endpoint.interface = some reader) {register : ℤ × String}
    (listed : register ∈ table.registers) :
    Tame (AuditLater (Permitted table readers selected)) fun _ =>
      sendReadRequest world reader endpoint.interface endpoint.canId register.1 := by
  cases allowed : reader.readRequestFrame endpoint.canId register.1 with
  | error text =>
      have refused : sendReadRequest world reader endpoint.interface endpoint.canId register.1 =
          Program.throw text := by
        rw [sendReadRequest, allowed]
        rfl
      rw [refused]
      exact .throw text
  | ok frame =>
      have permitted : Permitted table readers selected
          (.request endpoint.interface endpoint.canId register.1) :=
        ⟨⟨endpoint, chosen, rfl, rfl⟩, List.mem_map_of_mem listed, reader, known,
          readRequestFrame_eq_ok allowed ▸ allowed⟩
      refine .bind (.ofExcept _) fun _ => .bind .get fun state => ?_
      refine .bind (.modify fun _ => .logged permitted rfl rfl) fun _ => ?_
      cases world.send state.sendCalls with
      | sent => exact .modify fun _ => .of_eq rfl rfl
      | raised text counted =>
          refine .bind (.modify fun state => ?_) fun _ => .throw text
          cases counted with
          | false => exact refl state
          | true => exact .of_eq rfl rfl

theorem tame_heardFrame (register : ℤ × String)
    (outcome : Except SocketCanError ReceivedSocketFrame) :
    Tame (AuditLater (Permitted table readers selected)) fun _ =>
      heardFrame table endpoint register.1 outcome := by
  cases outcome with
  | error error =>
      cases error with
      | wouldBlock => exact .pure none
      | timestamp text =>
          exact .bind (.modify fun _ => .logged (show Permitted _ _ _ (.discarded _) from trivial)
            rfl rfl) fun _ => .pure none
      | runtime text => exact .throw text
  | ok frame =>
      refine .bind (.modify fun _ => .logged
        (show Permitted _ _ _ (.received endpoint.interface frame.toReceivedCanFrame) from trivial)
        rfl rfl) fun _ => ?_
      unfold judgeFrame
      by_cases foreign : frame.canId = 0x7FF ∨ (frame.canId : ℤ) ≠ endpoint.masterId
      · simp only [if_pos foreign]
        exact .pure none
      · simp only [if_neg foreign]
        exact .bind (.ofExcept _) fun decoded => .pure _

theorem tame_listenBefore (register : ℤ × String) (deadline now : ℚ) :
    Tame (AuditLater (Permitted table readers selected)) fun _ =>
      listenBefore table world reader endpoint register.1 deadline now := by
  unfold listenBefore
  by_cases early : now < deadline
  · simp only [if_pos early]
    exact .bind .get fun state => .bind (.modify fun _ => .of_eq rfl rfl) fun _ =>
      tame_heardFrame register _
  · simp only [if_neg early]
    exact .pure _

theorem tame_awaitRegister (advances : world.Advances) (register : ℤ × String) :
    Tame (AuditLater (Permitted table readers selected)) fun fuel =>
      awaitRegister table world reader endpoint fuel timeoutS register.1 := by
  refine .bind (.modify fun _ => .of_eq rfl rfl) fun _ => .bind tame_auditClock fun now => ?_
  have rest (read : ℚ) : Tame (AuditLater (Permitted table readers selected)) fun _ : ℕ =>
      listenBefore table world reader endpoint register.1 (now + timeoutS) read :=
    tame_listenBefore register _ read
  apply Tame.repeatBefore advances.monotone (advances.unbounded (now + timeoutS))
    (.bind tame_auditClock rest)
  intro fuel state final again
  obtain ⟨read, middle, clock, listened⟩ := bind_eq_done_iff.mp again
  cases clock
  have later := (rest (world.monotonic state.clockCalls)).respects fuel
    { state with clockCalls := state.clockCalls + 1 }
  rw [listened] at later
  refine ⟨?_, later.clock⟩
  unfold listenBefore at listened
  split at listened
  next early => exact early
  · cases listened

theorem tame_readMotor (advances : world.Advances) (chosen : endpoint ∈ selected) :
    Tame (AuditLater (Permitted table readers selected)) fun fuel =>
      readMotor table world fuel timeoutS retries readers endpoint := by
  unfold readMotor
  cases known : readers.entries.lookup endpoint.interface with
  | none => exact .throw _
  | some reader =>
      refine .bind (.gather fun register listed => ?_) fun values => .pure _
      refine .bind (.tryTimes ?_ _) fun decoded => ?_
      · exact .bind (tame_sendReadRequest chosen known listed) fun _ =>
          tame_awaitRegister advances register
      · cases decoded with
        | none => exact .throw _
        | some value => exact .pure _

theorem tame_collectRegisters (advances : world.Advances) :
    Tame (AuditLater (Permitted table readers selected)) fun fuel =>
      collectRegisters table world fuel timeoutS retries readers selected := by
  refine .bind (.throwIf _) fun _ => .bind (.throwIf _) fun _ => .bind (.throwIf _) fun _ => ?_
  refine .bind (.throwIf _) fun _ => .bind (.throwIf _) fun _ => ?_
  refine .bind (.gather fun endpoint chosen => tame_readMotor advances chosen) fun motors => ?_
  exact .bind .get fun state => .bind (.throwIf _) fun _ => .pure _

/-! ### How many requests -/

/-- The requests of a log. -/
def AuditState.requests (state : AuditState) : List RegisterEvent :=
  state.log.filter RegisterEvent.isRequest

theorem requests_logged {before after : AuditState} {event : RegisterEvent}
    (log : after.log = before.log ++ [event]) (other : event.isRequest = false) :
    after.requests = before.requests := by
  simp [AuditState.requests, log, other]

theorem leaves_listenRound (register : ℤ × String) (deadline : ℚ) :
    (listenRound table world reader endpoint register.1 deadline).Leaves AuditState.requests := by
  refine .bind (.bind .get fun _ => .bind (.modify fun _ => rfl) fun _ => .pure _) fun now => ?_
  unfold listenBefore
  split
  · refine .bind .get fun state => .bind (.modify fun _ => rfl) fun _ => ?_
    unfold heardFrame
    split
    · exact .pure _
    · exact .bind (.modify fun _ => requests_logged rfl rfl) fun _ => .pure _
    · exact .throw _
    · refine .bind (.modify fun _ => requests_logged rfl rfl) fun _ => ?_
      unfold judgeFrame
      split
      · exact .pure _
      · exact .bind (.ofExcept _) fun _ => .pure _
  · exact .pure _

theorem appends_sendReadRequest (interface : String) (motorCanId registerId : ℤ) :
    Appends AuditState.requests 1
      (sendReadRequest world reader interface motorCanId registerId) := by
  refine .leaves_bind (.ofExcept _) fun _ => .leaves_bind .get fun state => ?_
  have once : Appends (ε := String) AuditState.requests 1 (Program.modify fun state =>
      { state with
        sendCalls := state.sendCalls + 1
        log := state.log ++ [.request interface motorCanId registerId] }) :=
    Respects.modify fun state => ⟨[.request interface motorCanId registerId],
      by simp [AuditState.requests, RegisterEvent.isRequest], le_rfl⟩
  refine once.bind_leaves fun _ => ?_
  cases world.send state.sendCalls with
  | sent => exact .modify fun _ => rfl
  | raised text counted =>
      refine .bind (.modify fun state => ?_) fun _ => .throw _
      cases counted with
      | false => rfl
      | true => rfl

theorem appends_readMotor (fuel : ℕ) :
    Appends AuditState.requests (table.registers.length * (retries.toNat * 1))
      (readMotor table world fuel timeoutS retries readers endpoint) := by
  unfold readMotor
  cases readers.entries.lookup endpoint.interface with
  | none => exact .throw _
  | some reader =>
      refine Appends.bind_leaves (.gather fun register => ?_) fun values => .pure _
      refine Appends.bind_leaves (.tryTimes ?_ _) fun decoded => ?_
      · refine (appends_sendReadRequest _ _ _).bind_leaves fun _ => ?_
        refine .bind (.modify fun _ => rfl) fun _ => ?_
        refine .bind (.bind .get fun _ => .bind (.modify fun _ => rfl) fun _ => .pure _) ?_
        exact fun now => .repeatUntil (leaves_listenRound register _)
      · cases decoded with
        | none => exact .throw _
        | some value => exact .pure _

theorem appends_collectRegisters (fuel : ℕ) :
    Appends AuditState.requests (selected.length * (table.registers.length * (retries.toNat * 1)))
      (collectRegisters table world fuel timeoutS retries readers selected) := by
  refine .leaves_bind (.throwIf _) fun _ => .leaves_bind (.throwIf _) fun _ => ?_
  refine .leaves_bind (.throwIf _) fun _ => .leaves_bind (.throwIf _) fun _ => ?_
  refine .leaves_bind (.throwIf _) fun _ => ?_
  refine Appends.bind_leaves (.gather fun endpoint => appends_readMotor fuel) fun motors => ?_
  exact .bind .get fun state => .bind (.throwIf _) fun _ => .pure _

end Contained

/-! ### The registers of one motor -/

/-- The messages of a motor that reads back 12.5 for the registers from `PMAX` on. -/
def rangeMessage (index : ℕ) : SocketMessage where
  payload := [17, 0, 0, 0, 8, 1, 0, 0] ++ [1, 0, 0x33, UInt8.ofNat (21 + index), 0, 0, 0x48, 0x41] ++
    List.replicate 56 0
  ancillary := [⟨1, 37, (1 :: List.replicate 31 0) ++ (1 :: List.replicate 15 0)⟩]
  clockNs := 2000000000

def answeringWorld : RegisterWorld where
  monotonic call := call / 1000
  send _ := .sent
  receive _ index := if index < 3 then some (rangeMessage index) else none

def hipReader : SocketCanDamiaoRegisterReader where
  allowlist := mitRangeAllowlist
  interface := "kcan1"
  allowedMotorCanIds := [1]
  nonempty := by decide
  standard := by decide

def hipReaders : RegisterReaders where
  entries := [("kcan1", hipReader)]
  distinct := by decide

theorem answeringWorld_advances : answeringWorld.Advances where
  monotone first second before := by
    have cast : (first : ℚ) ≤ second := Nat.cast_le.mpr before
    exact div_le_div_of_nonneg_right cast (by norm_num)
  unbounded bound := by
    obtain ⟨call, above⟩ := exists_nat_ge (bound * 1000)
    exact ⟨call, (le_div_iff₀ (by norm_num)).mpr above⟩

end SpriteRuntime
