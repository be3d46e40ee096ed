import SpriteRuntime.Native.ProtectedPolicy

/-!
# Every error has a text

A run passes when it has collected no error text.  That is the same as having met no
error, because no text of the controller is empty.
-/

namespace SpriteRuntime

open Foundation

/-- A failure of the computation comes with a text. -/
def Explained {α : Type} (result : Except String α) : Prop :=
  ∀ what, result = .error what → what ≠ ""

/-- Whatever the program throws comes with a text. -/
abbrev Explains {σ α : Type} (program : Program σ String α) : Prop :=
  Program.Raises (fun what => what ≠ "") program

namespace Explained

variable {α β : Type}

theorem ok (value : α) : Explained (.ok value) := by
  intro what failed
  cases failed

theorem error {what : String} (some : what ≠ "") : Explained (.error what : Except String α) := by
  intro other failed
  cases failed
  exact some

theorem bind {first : Except String α} {next : α → Except String β}
    (left : Explained first) (right : ∀ value, Explained (next value)) :
    Explained (first >>= next) := by
  cases first with
  | error what => exact error (left what rfl)
  | ok value => exact right value

end Explained

section Commands

theorem encodeUint_explained (value low high : ℚ) (bits : ℕ) :
    Explained (encodeUint value low high bits) := by
  unfold encodeUint
  split
  · exact .error (by decide)
  · exact .ok _

theorem zeroGainPayload_explained (descriptor : MotorDescriptor) (motor : MotorState) :
    Explained (zeroGainPayload descriptor motor) := by
  refine .bind (encodeUint_explained _ _ _ _) fun p => ?_
  refine .bind (encodeUint_explained _ _ _ _) fun v => ?_
  refine .bind (encodeUint_explained _ _ _ _) fun torque => ?_
  dsimp only
  split
  · exact .error (by decide)
  · exact .ok _

theorem encodePreview_explained (descriptor : MotorDescriptor) (command : MitCommand) :
    Explained (encodePreview descriptor command) := by
  refine .bind (encodeUint_explained _ _ _ _) fun p => ?_
  refine .bind (encodeUint_explained _ _ _ _) fun v => ?_
  refine .bind (encodeUint_explained _ _ _ _) fun kp => ?_
  refine .bind (encodeUint_explained _ _ _ _) fun kd => ?_
  exact .bind (encodeUint_explained _ _ _ _) fun torque => .ok _

theorem rescaleToCap_explained (descriptor : MotorDescriptor) (motor : MotorState)
    (attempts : ℕ) (scale : ℚ) (fields : MitFields) :
    Explained (rescaleToCap descriptor motor attempts scale fields) := by
  induction attempts generalizing scale fields with
  | zero => exact .ok fields
  | succ attempts induction =>
      unfold rescaleToCap
      dsimp only
      split
      · exact .ok fields
      · refine .bind (encodeUint_explained _ _ _ _) fun kp => ?_
        refine .bind (encodeUint_explained _ _ _ _) fun kd => ?_
        exact .bind (encodeUint_explained _ _ _ _) fun torque => induction _ _

theorem protectedPolicyPayload_explains (descriptor : MotorDescriptor) (bounded : Bool) :
    Explains (protectedPolicyPayload descriptor bounded) := by
  refine .bind .get fun motor => .bind (.throwIf (text_ne_empty (by decide))) fun _ => ?_
  refine .bind (.ofExcept (encodePreview_explained _ _)) fun encoded => .bind ?_ fun fields => ?_
  · refine .bind .get fun motor => ?_
    split
    · refine .bind (.ofExcept (rescaleToCap_explained _ _ _ _ _)) fun scaled => ?_
      exact .bind (.modify _) fun _ => .pure scaled
    · exact .pure encoded
  · refine .bind (.throwIf (text_ne_empty (by decide))) fun _ => ?_
    exact .bind (.modify _) fun _ => .pure _

theorem previewMotor_explains (descriptor : MotorDescriptor) (saturate : Bool)
    (fresh : Option MitCommand) : Explains (previewMotor descriptor saturate fresh) := by
  refine .bind (.modify _) fun _ => .bind .get fun motor => .runIf ?_
  refine .bind (.modify _) fun _ => .bind .get fun saturated => ?_
  exact .bind (.throwIf (text_ne_empty (by decide))) fun _ => .modify _

theorem previewFinalMotorCommands_explains (descriptors : Index → MotorDescriptor)
    (kinematics : NativeKinematics) (saturate : Bool) :
    Explains (previewFinalMotorCommands descriptors kinematics saturate) := by
  refine .bind .get fun start => .runIf (.bind (.forEach fun index _ => ?_) fun _ => .modify _)
  exact .zoom (previewMotor_explains _ _ _)

end Commands

section Targets

theorem jointFailure_ne_empty {jointSafety : JointSafetyTable} {packet : TargetPacket}
    {joint : Index} {what : String} (failed : jointFailure jointSafety packet joint = some what) :
    what ≠ "" := by
  unfold jointFailure at failed
  split at failed
  · cases failed
    decide
  · split at failed
    · cases failed
    · split at failed
      · cases failed
        exact text_ne_empty (by decide)
      · cases failed

theorem receiveTarget_explained (policyJointHash : ℕ) (jointSafety : JointSafetyTable)
    (now : ℤ) (message : List UInt8) (ipc : IpcSocket) :
    Explained (receiveTarget policyJointHash jointSafety now message ipc) := by
  unfold receiveTarget
  dsimp only
  split
  · exact .error (by decide)
  · unfold acceptTarget
    split
    · exact .error (by decide)
    · split
      · exact .error (by decide)
      · dsimp only
        split
        · exact .error (by decide)
        · cases failed : (List.finRange kJointCount).findSome? (jointFailure jointSafety
            (.ofBytes (message.take targetPacketSize))) with
          | some what =>
              obtain ⟨joint, _, found⟩ := List.exists_of_findSome?_eq_some failed
              exact .error (jointFailure_ne_empty found)
          | none => exact .ok _

end Targets

section Calls

variable (setup : Setup) (world : World)

theorem answer_explains {α : Type} (script : ℕ → α) (count : Calls → ℕ)
    (counted : Calls → Calls) : Explains (answer script count counted) :=
  .bind .get fun _ => .bind (.modify _) fun _ => .pure _

theorem monotonicNs_explains : Explains (monotonicNs world) := by
  refine .bind (answer_explains _ _ _) fun reading => ?_
  cases reading with
  | some now => exact .pure now
  | none => exact .throw (by decide)

theorem sleepUntil_explains : Explains (sleepUntil world) :=
  .bind (answer_explains _ _ _) fun _ => .throwIf (by decide)

theorem checkShutdownRequest_explains {what : String} (some : what ≠ "") :
    Explains (checkShutdownRequest world what) :=
  .bind (answer_explains _ _ _) fun _ => .throwIf some

theorem writeFrame_explains (sender : Sender) (index : Index) (data : CanData) :
    Explains (writeFrame setup world sender index data) :=
  .bind (answer_explains _ _ _) fun _ => .bind (.modify _) fun _ => .pure _

theorem sendPoll_explains (index : Index) : Explains (sendPoll setup world index) := by
  refine .bind .get fun machine => ?_
  refine .bind (.ofExcept (zeroGainPayload_explained _ _)) fun data => ?_
  refine .bind (writeFrame_explains setup world .poll index data) fun result => ?_
  cases result with
  | ok _ => exact .zoom (.modify _)
  | error what =>
      apply Program.Raises.throw
      repeat apply text_ne_empty
      decide

theorem sendPayload_explains (sender : Sender) (index : Index) (data : CanData) :
    Explains (sendPayload setup world sender index data) := by
  refine .bind (writeFrame_explains setup world sender index data) fun result => ?_
  cases result with
  | ok _ => exact .zoom (.modify _)
  | error what => exact .throw (text_ne_empty (by decide))

theorem sendSpecial_explains (index : Index) (opcode : UInt8) :
    Explains (sendSpecial setup world index opcode) :=
  .bind (.throwIf (by decide)) fun _ => sendPayload_explains setup world _ index _

theorem sendStatePacket_explains (nowNs : ℤ) :
    Explains (sendStatePacket setup world nowNs) := by
  refine .bind .get fun machine => .bind (.modify _) fun _ => ?_
  exact .bind (answer_explains _ _ _) fun sent => .bind (.modify _) fun _ =>
    .throwIf (by decide)

theorem drainTargetPackets_explains (policyJointHash : ℕ) (jointSafety : JointSafetyTable)
    (nowNs : ℤ) : Explains (drainTargetPackets world policyJointHash jointSafety nowNs) := by
  refine .bind (.modify _) fun _ => .loop (.bind (answer_explains _ _ _) fun result => ?_)
  cases result with
  | again => exact .pure false
  | failed what => exact .throw (text_ne_empty (by decide))
  | message bytes =>
      refine .bind .get fun machine => ?_
      refine .bind (.ofExcept (receiveTarget_explained _ _ _ _ _)) fun ipc => ?_
      exact .bind (.modify _) fun _ => .bind (.modify _) fun _ => .pure true

theorem absorbPolicyFeedback_explains (descriptor : MotorDescriptor) (expectedStatus : ℤ)
    (enforceGuards : Bool) (feedback : Feedback) :
    Explains (absorbPolicyFeedback world descriptor expectedStatus enforceGuards
      feedback) := by
  refine .bind (.modify _) fun _ => .bind (.runIf (.modify _)) fun _ => ?_
  refine .bind (.modify _) fun _ => .bind (.throwIf (text_ne_empty (by decide))) fun _ => ?_
  refine .bind .get fun motor => .bind (.throwIf (text_ne_empty (by decide))) fun _ => ?_
  exact .bind (.throwIf (text_ne_empty (by decide))) fun _ => .modify _

theorem drainPolicyFeedback_explains (expectedStatus : ℤ) (enforceGuards : Bool) :
    Explains (drainPolicyFeedback setup world expectedStatus enforceGuards) := by
  refine .forEach fun interface _ => .loop ?_
  rw [drainPolicyRound_eq]
  refine .bind (.bind (answer_explains _ _ _) fun _ => .bind (.modify _) fun _ => .pure _)
    fun result => ?_
  rcases policyRead_cases interface result with
    ⟨_, round⟩ | ⟨_, round⟩ | ⟨_, what, some, round⟩ | ⟨index, feedback, _, _, round⟩
  · exact round ▸ .pure false
  · exact round ▸ .pure true
  · rw [round]
    unfold unlessStopping
    split
    · exact .pure true
    · exact .throw some
  · rw [round]
    exact .bind (.zoom (absorbPolicyFeedback_explains world _ _ _ _)) fun _ => .pure true

end Calls

section Run

variable (setup : Setup) (world : World)

theorem pollDue_explains (slot : ℕ) : Explains (pollDue setup world slot) :=
  .forEach fun index _ => .runIf (sendPoll_explains setup world index)

theorem publishState_explains (slot : ℕ) : Explains (publishState setup world slot) :=
  .bind .get fun _ => .runIf (.bind (monotonicNs_explains world) fun now =>
    sendStatePacket_explains setup world now)

theorem startupFailure_ne_empty {control : ControlState} {joint : Index} {what : String}
    (failed : startupFailure setup control joint = some what) : what ≠ "" := by
  have named (name field : String) : startupErrorText name field ≠ "" := by
    unfold startupErrorText
    repeat apply text_ne_empty
    decide
  unfold startupFailure at failed
  dsimp only at failed
  split at failed
  · cases failed
    exact named _ _
  · split at failed
    · cases failed
      exact named _ _
    · split at failed
      · cases failed
        exact named _ _
      · split at failed
        · cases failed
          exact named _ _
        · split at failed
          · cases failed
            exact named _ _
          · cases failed

theorem prepare_explains : Explains (prepare setup world) := by
  refine .bind (monotonicNs_explains world) fun _ => .bind (.anyEach fun slot _ => ?_)
    fun prepared => .throwIf (by decide)
  refine .bind (.modify _) fun _ => ?_
  refine .bind (checkShutdownRequest_explains world (by decide)) fun _ => ?_
  refine .bind (sleepUntil_explains world) fun _ => ?_
  refine .bind (pollDue_explains setup world slot) fun _ => ?_
  refine .bind (drainPolicyFeedback_explains setup world 0 false) fun _ => ?_
  refine .bind (monotonicNs_explains world) fun now => ?_
  refine .bind (drainTargetPackets_explains world _ _ now) fun _ => ?_
  refine .bind (publishState_explains setup world slot) fun _ => .bind .get fun machine => ?_
  split
  · cases failed : (List.finRange kJointCount).findSome?
      (startupFailure setup machine.toControlState) with
    | some what =>
        obtain ⟨joint, _, found⟩ := List.exists_of_findSome?_eq_some failed
        exact .throw (startupFailure_ne_empty setup found)
    | none => exact .pure true
  · exact .pure false

theorem enable_explains : Explains (enable setup world) := by
  refine .bind (.forEach fun index _ => .zoom (.modify _)) fun _ => ?_
  refine .bind (.modify _) fun _ => ?_
  refine .bind (.forEach fun index _ => sendSpecial_explains setup world index _) fun _ => ?_
  exact .forEach fun index _ => .zoom (.modify _)

theorem activeSlot_explains (startNs : ℤ) (slot : ℕ) :
    Explains (activeSlot setup world startNs slot) := by
  refine .bind (.modify _) fun _ => ?_
  refine .bind (checkShutdownRequest_explains world (by decide)) fun _ => ?_
  refine .bind (sleepUntil_explains world) fun _ => ?_
  refine .bind (monotonicNs_explains world) fun wokeNs => ?_
  refine .bind (.runIf (.modify _)) fun _ => ?_
  refine .bind (drainTargetPackets_explains world _ _ wokeNs) fun _ => ?_
  refine .bind .get fun machine => .bind (.throwIf (by decide)) fun _ => ?_
  refine .bind (.runIf (.bind .get fun before => .bind (.zoom ?_) fun _ => ?_)) fun _ => ?_
  · exact previewFinalMotorCommands_explains _ _ _
  · exact .bind .get fun after => .modify _
  refine .bind (.forEach fun index _ => .runIf (.bind .get fun _ => .bind (.zoom ?_)
    fun data => sendPayload_explains setup world _ index data)) fun _ => ?_
  · exact protectedPolicyPayload_explains _ _
  refine .bind (drainPolicyFeedback_explains setup world _ true) fun _ => ?_
  refine .bind (.runIf (.bind .get fun machine => ?_)) fun _ => ?_
  · exact .forEach fun index _ => .throwIf (text_ne_empty (by decide))
  · exact publishState_explains setup world slot

theorem protectedPolicyBody_explains : Explains (protectedPolicyBody setup world) := by
  refine .bind (prepare_explains setup world) fun _ => ?_
  refine .bind (enable_explains setup world) fun _ => ?_
  refine .bind (monotonicNs_explains world) fun now => ?_
  refine .bind (.forEach fun slot _ => activeSlot_explains setup world _ slot) fun _ => ?_
  refine .bind (drainPolicyFeedback_explains setup world 1 true) fun _ => ?_
  refine .bind .get fun machine => .bind ?_ fun _ => .throwIf (by decide)
  exact .forEach fun index _ => .throwIf (text_ne_empty (by decide))

theorem shutdownBody_explains {drain : Native Unit} (drains : Explains drain) :
    Explains (shutdownBody setup world drain) := by
  refine .bind (.forEach fun _ _ => .forEach fun index _ =>
    sendSpecial_explains setup world index _) fun _ => ?_
  refine .bind (.forEach fun index _ => .zoom (.modify _)) fun _ => ?_
  refine .bind (monotonicNs_explains world) fun _ => .bind (.forEach fun slot _ => ?_)
    fun _ => .bind drains fun _ => .bind .get fun machine => ?_
  · exact .bind (.modify _) fun _ => .bind (sleepUntil_explains world) fun _ =>
      .bind (pollDue_explains setup world slot) fun _ => drains
  · exact .forEach fun index _ => .throwIf (text_ne_empty (by decide))

/-- A run that passes has met no error, neither in its body nor in its shutdown. -/
theorem poweredRun_passed {body drain : Native Unit} (explains : Explains body)
    (drains : Explains drain) {cannotOpen : String} {report : RunReport}
    {start final : Machine}
    (returned : poweredRun setup world body drain cannotOpen start = (.done report, final))
    (passed : report.passed = true) :
    ∃ middle, body start = (.done (), middle) ∧
      shutdownBody setup world drain middle = (.done (), final) := by
  obtain ⟨failure, middle, ended, afterBody⟩ := Program.bind_eq_done returned
  obtain ⟨_, _, read, afterRead⟩ := Program.bind_eq_done afterBody
  cases read
  obtain ⟨errors, reached, disabled, afterShutdown⟩ := Program.bind_eq_done afterRead
  obtain ⟨_, _, opened, reported⟩ := Program.bind_eq_done afterShutdown
  obtain ⟨rfl, _⟩ := Program.throwIf_eq_done opened
  cases reported
  have clean : errors = "" := String.isEmpty_iff.mp passed
  have stopped : failure = "" ∧
      shutdownBody setup world drain middle = (.done (), final) := by
    have raised := shutdownBody_explains setup world drains middle
    simp only [shutdown, Program.tryCatch, Program.bind_apply] at disabled
    rcases stop : shutdownBody setup world drain middle with ⟨outcome, last⟩
    rw [stop] at disabled raised
    cases outcome with
    | done _ =>
        cases disabled
        exact ⟨clean, rfl⟩
    | thrown what =>
        have appended : appendFailure failure what = "" := by
          cases disabled
          exact clean
        have some : what ≠ "" := raised what rfl
        unfold appendFailure at appended
        split at appended
        · exact absurd appended some
        · exact absurd (String.append_eq_empty_iff.mp appended).2 some
    | unfinished => cases disabled
  obtain ⟨quiet, stop⟩ := stopped
  have raised := explains start
  simp only [Program.tryCatch, Program.bind_apply] at ended
  rcases run : body start with ⟨outcome, last⟩
  rw [run] at ended raised
  cases outcome with
  | done _ =>
      cases ended
      exact ⟨middle, rfl, stop⟩
  | thrown what =>
      have same : what = failure := by
        cases ended
        rfl
      exact absurd (same.trans quiet) (raised what rfl)
  | unfinished => cases ended

end Run

end SpriteRuntime
