import SpriteRuntime.Native.Feedback

/-!
# When draining feedback ends

A socket has finitely many frames queued and then gives one answer for good: that it
is empty, or that its interface is down.  The strict reader leaves at the first
error.  The tolerant reader passes over errors, and so stays at an interface that is
down for as long as it is let.
-/

namespace SpriteRuntime

open Foundation

/-- A socket's queued frames with their sizes, and whether its reads fail once these
are gone. -/
structure SocketQueue where
  frames : List (ℕ × CanFrame)
  down : Bool

/-- The answers to reading sockets one after the other, each until it is empty: some
reads, and then one answer for good. -/
def answers : List SocketQueue → List ReadResult × ReadResult
  | [] => ([], .again)
  | socket :: rest =>
      let frames := socket.frames.map fun (size, frame) => ReadResult.received size frame
      if socket.down then (frames, .failed)
      else (frames ++ .again :: (answers rest).1, (answers rest).2)

/-- From the next read on the world gives these answers. -/
def Serves (world : World) (machine : Machine) (script : List ReadResult × ReadResult) :
    Prop :=
  ∀ call, world.read (machine.calls.read + call) = script.1.getD call script.2

/-- The drain returns or throws, given enough rounds for each socket. -/
def DrainEnds (setup : Setup) (world : World) (expectedStatus : ℤ) (enforceGuards : Bool)
    (machine : Machine) : Prop :=
  ∃ enough, ∀ patience, enough ≤ patience →
    (drainPolicyFeedback setup { world with patience := patience } expectedStatus
      enforceGuards machine).1 ≠ .unfinished

section Reads

variable {world : World} {machine next : Machine} {result last : ReadResult}
  {reads : List ReadResult}

theorem Serves.first (serves : Serves world machine (result :: reads, last)) :
    world.read machine.calls.read = result := by
  simpa using serves 0

theorem Serves.later (serves : Serves world machine (result :: reads, last))
    (counted : next.calls.read = machine.calls.read + 1) :
    Serves world next (reads, last) := by
  intro call
  have shifted := serves (call + 1)
  rw [counted, Nat.add_assoc, Nat.add_comm 1 call]
  simpa using shifted

theorem Serves.final (serves : Serves world machine ([], last)) :
    world.read machine.calls.read = last := by
  simpa using serves 0

theorem Serves.stays (serves : Serves world machine ([], last))
    (counted : next.calls.read = machine.calls.read + 1) :
    Serves world next ([], last) := by
  intro call
  have shifted := serves (call + 1)
  rw [counted, Nat.add_assoc, Nat.add_comm 1 call]
  simpa using shifted

end Reads

section Rounds

variable {setup : Setup} {world : World} {expectedStatus : ℤ} {enforceGuards : Bool}
  {interface : String} {machine : Machine}

theorem absorbPolicyFeedback_finishes (descriptor : MotorDescriptor) (feedback : Feedback) :
    Program.Finishes (absorbPolicyFeedback world descriptor expectedStatus enforceGuards
      feedback) := by
  refine .bind (.modify _) fun _ => .bind (.runIf (.modify _)) fun _ => ?_
  refine .bind (.modify _) fun _ => .bind (.throwIf _) fun _ => .bind .get fun _ => ?_
  exact .bind (.throwIf _) fun _ => .bind (.throwIf _) fun _ => .modify _

theorem drainPolicyRound_finishes :
    Program.Finishes
      (drainPolicyRound setup world expectedStatus enforceGuards interface) := by
  intro machine
  rw [drainPolicyRound_apply]
  have finishes : Program.Finishes (policyRead setup world expectedStatus enforceGuards
      interface (world.read machine.calls.read)) := by
    apply policyRead_rule
    · exact fun again => .pure again
    · exact fun what => .throw what
    · intro index feedback
      exact .bind (.zoom (absorbPolicyFeedback_finishes _ _)) fun _ => .pure true
  exact finishes (afterRead (world.read machine.calls.read) interface machine)

/-- A round reads once. -/
theorem drainPolicyRound_reads {outcome : Outcome String Bool} {next : Machine}
    (round : drainPolicyRound setup world expectedStatus enforceGuards interface machine =
      (outcome, next)) : next.calls.read = machine.calls.read + 1 := by
  have kept : Program.Leaves (fun machine : Machine => machine.calls.read)
      (policyRead setup world expectedStatus enforceGuards interface
        (world.read machine.calls.read)) := by
    apply policyRead_rule
    · exact fun again => .pure again
    · exact fun what => .throw what
    · exact fun index feedback => .bind (fun _ => rfl) fun _ => .pure true
  have counted := kept (afterRead (world.read machine.calls.read) interface machine)
  rw [← drainPolicyRound_apply, round] at counted
  exact counted

theorem drainPolicyRound_of_again (empty : world.read machine.calls.read = .again) :
    drainPolicyRound setup world expectedStatus enforceGuards interface machine =
      (.done false, afterRead (world.read machine.calls.read) interface machine) := by
  rw [drainPolicyRound_apply, empty]
  rfl

/-- A tolerant round passes over a read error. -/
theorem drainPolicyRound_of_failed (tolerant : expectedStatus < 0)
    (down : world.read machine.calls.read = .failed) :
    drainPolicyRound setup world expectedStatus enforceGuards interface machine =
      (.done true, afterRead (world.read machine.calls.read) interface machine) := by
  rw [drainPolicyRound_apply, down]
  simp [policyRead, unlessStopping, tolerant]

/-- A strict round leaves on a read error. -/
theorem drainPolicyRound_of_failed_strict (strict : 0 ≤ expectedStatus)
    (down : world.read machine.calls.read = .failed) :
    drainPolicyRound setup world expectedStatus enforceGuards interface machine =
      (.thrown "invalid protected-policy CAN-FD feedback frame",
        afterRead (world.read machine.calls.read) interface machine) := by
  rw [drainPolicyRound_apply, down]
  simp [policyRead, unlessStopping, not_lt.mpr strict]

end Rounds

section Ending

variable {setup : Setup} {world : World} {expectedStatus : ℤ} {enforceGuards : Bool}

/-- A round that returns goes on unless the socket was empty. -/
theorem drainPolicyRound_again {interface : String} {machine next : Machine} {again : Bool}
    (some : world.read machine.calls.read ≠ .again)
    (round : drainPolicyRound setup world expectedStatus enforceGuards interface machine =
      (.done again, next)) : again = true := by
  rw [drainPolicyRound_apply] at round
  rcases policyRead_cases interface (world.read machine.calls.read) with
    ⟨empty, _⟩ | ⟨_, passes⟩ | ⟨_, what, _, leaves⟩ | ⟨index, feedback, _, _, takes⟩
  · exact absurd empty some
  · rw [passes] at round
    cases round
    rfl
  · rw [leaves] at round
    unfold unlessStopping at round
    split at round
    · cases round
      rfl
    · cases round
  · rw [takes] at round
    obtain ⟨_, _, _, continued⟩ := Program.bind_eq_done round
    cases continued
    rfl

variable (setup expectedStatus enforceGuards) in
/-- A socket's queued frames are read one after the other, unless one of them makes the
round leave. -/
theorem drainSocket_frames (interface : String) (more : ℕ) {machine : Machine}
    {frames : List (ℕ × CanFrame)} {reads : List ReadResult} {last : ReadResult}
    (serves : Serves world machine
      (frames.map (fun (size, frame) => ReadResult.received size frame) ++ reads, last)) :
    (∃ what final, Program.loop (frames.length + more) (drainPolicyRound setup world
        expectedStatus enforceGuards interface) machine = (.thrown what, final)) ∨
      ∃ next, Serves world next (reads, last) ∧
        Program.loop (frames.length + more) (drainPolicyRound setup world expectedStatus
            enforceGuards interface) machine =
          Program.loop more (drainPolicyRound setup world expectedStatus enforceGuards
            interface) next := by
  induction frames generalizing machine with
  | nil => exact .inr ⟨machine, serves, by simp⟩
  | cons head frames induction =>
      obtain ⟨size, frame⟩ := head
      have counted : (frames.length + 1) + more = (frames.length + more) + 1 := by omega
      have arrived : world.read machine.calls.read ≠ .again := by
        rw [serves.first]
        intro empty
        cases empty
      rw [List.length_cons, counted, Program.loop]
      rcases round : drainPolicyRound setup world expectedStatus enforceGuards interface
        machine with ⟨outcome, next⟩
      cases outcome with
      | done again =>
          rw [Program.bind_apply_done round, drainPolicyRound_again arrived round]
          exact induction (serves.later (drainPolicyRound_reads round))
      | thrown what =>
          left
          exact ⟨what, next, by rw [Program.bind_apply, round]⟩
      | unfinished => exact absurd (congrArg Prod.fst round) (drainPolicyRound_finishes _)

/-- With enough rounds the drain ends when the reader is strict or no interface is
down. -/
theorem drainSockets_end {frames : String → List (ℕ × CanFrame)} {down : String → Bool}
    {patience : ℕ} {interfaces : List String} {machine : Machine}
    (enough : ∀ interface ∈ interfaces, (frames interface).length < patience)
    (ends : 0 ≤ expectedStatus ∨ ∀ interface ∈ interfaces, down interface = false)
    (serves : Serves world machine
      (answers (interfaces.map fun interface => ⟨frames interface, down interface⟩))) :
    (Program.forEach interfaces (fun interface => Program.loop patience
      (drainPolicyRound setup world expectedStatus enforceGuards interface))
        machine).1 ≠ .unfinished := by
  induction interfaces generalizing machine with
  | nil =>
      intro cut
      cases cut
  | cons interface rest induction =>
      obtain ⟨more, split⟩ := Nat.exists_eq_add_of_lt (enough interface (by simp))
      have later {next : Machine} := @induction next
        (fun other member => enough other (by simp [member]))
        (ends.imp id fun up other member => up other (by simp [member]))
      rw [split, Nat.add_assoc] at later ⊢
      rw [Program.forEach, Program.bind_apply]
      cases state : down interface with
      | true =>
          have strict : 0 ≤ expectedStatus := by
            rcases ends with strict | up
            · exact strict
            · simp [up interface] at state
          have served : Serves world machine ((frames interface).map
              (fun (size, frame) => ReadResult.received size frame) ++ [], .failed) := by
            simpa [answers, state] using serves
          rcases drainSocket_frames setup expectedStatus enforceGuards interface (more + 1)
            served with ⟨what, final, left⟩ | ⟨next, tail, run⟩
          · simp [left]
          · rw [run, Program.loop, Program.bind_apply,
              drainPolicyRound_of_failed_strict strict tail.final]
            simp
      | false =>
          have served : Serves world machine ((frames interface).map
              (fun (size, frame) => ReadResult.received size frame) ++
              .again :: (answers (rest.map fun interface =>
                ⟨frames interface, down interface⟩)).1, (answers (rest.map fun interface =>
                ⟨frames interface, down interface⟩)).2) := by
            simpa [answers, state] using serves
          rcases drainSocket_frames setup expectedStatus enforceGuards interface (more + 1)
            served with ⟨what, final, left⟩ | ⟨next, tail, run⟩
          · simp [left]
          · rw [run, Program.loop, Program.bind_apply_done
              (drainPolicyRound_of_again tail.first)]
            apply later
            exact tail.later rfl

/-- A tolerant reader never leaves the first interface that is down. -/
theorem drainSockets_stuck (tolerant : expectedStatus < 0) {down : String → Bool}
    {patience : ℕ} {interfaces : List String} {machine : Machine}
    (broken : ∃ interface ∈ interfaces, down interface = true)
    (serves : Serves world machine
      (answers (interfaces.map fun interface => ⟨[], down interface⟩))) :
    (Program.forEach interfaces (fun interface => Program.loop patience
      (drainPolicyRound setup world expectedStatus enforceGuards interface))
        machine).1 = .unfinished := by
  induction interfaces generalizing machine with
  | nil => simp at broken
  | cons interface rest induction =>
      rw [Program.forEach, Program.bind_apply]
      cases state : down interface with
      | true =>
          have failing : Serves world machine ([], .failed) := by
            simpa [answers, state] using serves
          have stuck : (Program.loop patience (drainPolicyRound setup world expectedStatus
              enforceGuards interface) machine).1 = .unfinished := by
            have round (here : Machine) (failing : Serves world here ([], .failed)) :
                ∃ next, drainPolicyRound setup world expectedStatus enforceGuards interface
                  here = (.done true, next) ∧ Serves world next ([], .failed) :=
              ⟨_, drainPolicyRound_of_failed tolerant failing.final, failing.stays rfl⟩
            exact Program.loop_unfinished round failing
          rcases run : Program.loop patience (drainPolicyRound setup world expectedStatus
            enforceGuards interface) machine with ⟨outcome, final⟩
          rw [run] at stuck
          cases stuck
          rfl
      | false =>
          have empty : Serves world machine (.again :: (answers (rest.map fun interface =>
              ⟨[], down interface⟩)).1, (answers (rest.map fun interface =>
              ⟨[], down interface⟩)).2) := by
            simpa [answers, state] using serves
          have brokenLater : ∃ interface ∈ rest, down interface = true := by
            obtain ⟨other, member, isDown⟩ := broken
            rcases List.mem_cons.mp member with rfl | later
            · rw [state] at isDown
              cases isDown
            · exact ⟨other, later, isDown⟩
          cases patience with
          | zero => rfl
          | succ patience =>
              rw [Program.loop, Program.bind_apply_done (drainPolicyRound_of_again empty.first)]
              apply induction brokenLater
              exact empty.later rfl

end Ending

section Drain

variable (setup : Setup) (expectedStatus : ℤ) (enforceGuards : Bool)

/-- A drain ends whatever its sockets hold exactly when it is strict or no interface is
down. -/
theorem drainPolicyFeedback_ends_iff (down : String → Bool) :
    (∀ (world : World) (machine : Machine) (frames : String → List (ℕ × CanFrame)),
      Serves world machine
          (answers (setup.interfaces.map fun interface => ⟨frames interface, down interface⟩)) →
        DrainEnds setup world expectedStatus enforceGuards machine) ↔
      0 ≤ expectedStatus ∨ ∀ interface ∈ setup.interfaces, down interface = false := by
  constructor
  · intro ends
    by_contra stuck
    simp only [not_or, not_le, not_forall, Bool.not_eq_false] at stuck
    obtain ⟨tolerant, interface, member, isDown⟩ := stuck
    let script := answers (setup.interfaces.map fun interface => ⟨[], down interface⟩)
    let world : World := { quietWorld with read := fun call => script.1.getD call script.2 }
    have serves : Serves world Machine.initial script := fun call => by
      simp [world, Machine.initial]
    obtain ⟨enough, finished⟩ := ends world Machine.initial (fun _ => []) serves
    apply finished enough le_rfl
    exact drainSockets_stuck tolerant ⟨interface, member, isDown⟩ serves
  · intro ends world machine frames serves
    refine ⟨(setup.interfaces.map fun interface => (frames interface).length).sum + 1,
      fun patience enough => drainSockets_end ?_ ends serves⟩
    intro interface member
    have bounded : (frames interface).length ≤
        (setup.interfaces.map fun interface => (frames interface).length).sum :=
      List.le_sum_of_mem (List.mem_map_of_mem member)
    exact (Nat.lt_succ_of_le bounded).trans_le enough

/-- A tolerant drain stays at an interface that is down. -/
theorem drainPolicyFeedback_stuck :
    ¬DrainEnds benchSetup { quietWorld with read := fun _ => .failed } (-1) false
      Machine.initial := by
  rintro ⟨enough, finished⟩
  apply finished enough le_rfl
  have serves : Serves { quietWorld with read := fun _ => .failed } Machine.initial
      (answers (benchSetup.interfaces.map fun _ => ⟨[], true⟩)) := by
    intro call
    have first : benchSetup.interfaces = "can0" :: benchSetup.interfaces.tail := by
      decide +kernel
    rw [first]
    simp [answers]
  have some : ∃ interface ∈ benchSetup.interfaces, true = true := by
    exact ⟨"can0", by decide +kernel, rfl⟩
  exact drainSockets_stuck (by decide) some serves

end Drain

end SpriteRuntime
