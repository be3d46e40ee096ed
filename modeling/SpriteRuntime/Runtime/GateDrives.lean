import SpriteRuntime.Foundation.LossyBus
import SpriteRuntime.Foundation.ProgramSteps
import SpriteRuntime.Native.MotorBus
import SpriteRuntime.Runtime.MotorGroupHold

/-!
# The drives behind a gate

The drives that a gate commands through its writer are nodes of a lossy bus.  A gate knows of
them what its calls of the writer say: as long as no error was noted, a motor that has given
feedback in a hold has been enabled, and one whose final status is disabled is disabled and stays
so.
-/

namespace SpriteRuntime

open Foundation

/-- The status that a call of the writer is to give a motor. -/
def GateEvent.statusFor (motorName : String) : GateEvent → Option Bool
  | .enable other => if other = motorName then some true else none
  | .disable other => if other = motorName then some false else none
  | _ => none

/-- The call as an action on the buses; the writer sends to its own interface only. -/
def GateEvent.busAction (interface : String) :
    GateEvent → Option (BusAction String GateEvent ReceivedCanFrame)
  | .received frame => some (.receive frame.interface frame)
  | event => some (.send interface event)

/-- What a frame says of the motor of an endpoint. -/
def DamiaoFeedbackEndpoint.statusIn (endpoint : DamiaoFeedbackEndpoint)
    (frame : ReceivedCanFrame) : Option Bool :=
  match decodeDamiaoFeedback frame endpoint with
  | .ok feedback => statusOfCode feedback.statusCode
  | .error _ => none

/-- What an accepted frame has in common with its endpoint. -/
theorem decodeDamiaoFeedback_source {frame : ReceivedCanFrame} {endpoint : DamiaoFeedbackEndpoint}
    {feedback : DamiaoFeedback} (decoded : decodeDamiaoFeedback frame endpoint = .ok feedback) :
    frame.interface = endpoint.interface ∧ (frame.canId : ℤ) = endpoint.masterId ∧
      feedback.motorName = endpoint.motorName ∧
      feedback.statusName = statusName feedback.statusCode := by
  simp only [decodeDamiaoFeedback, except_bind_eq_ok, raiseIf_eq_ok, exists_const, not_not]
    at decoded
  obtain ⟨interface, master, _, _, _, same⟩ := decoded
  cases same
  exact ⟨interface, master, rfl, rfl⟩

/-- The installed drives.  Every one has its own name, and its own key for its feedback. -/
structure InstalledDrives (Drive : Type) where
  endpoint : Drive → DamiaoFeedbackEndpoint
  named : ∀ left right, (endpoint left).motorName = (endpoint right).motorName → left = right
  distinct : ∀ left right, (endpoint left).feedbackKey = (endpoint right).feedbackKey →
    left = right

namespace InstalledDrives

variable {Drive : Type} (drives : InstalledDrives Drive)

/-- The drives on their buses. -/
def bus : SwitchBus String Drive GateEvent ReceivedCanFrame where
  home drive := (drives.endpoint drive).interface
  effect drive event := event.statusFor (drives.endpoint drive).motorName
  tells drive frame := (drives.endpoint drive).statusIn frame
  distinct := by
    intro left right frame _ first second
    unfold DamiaoFeedbackEndpoint.statusIn at first second
    cases fromLeft : decodeDamiaoFeedback frame (drives.endpoint left) with
    | error text => simp [fromLeft] at first
    | ok _ =>
        cases fromRight : decodeDamiaoFeedback frame (drives.endpoint right) with
        | error text => simp [fromRight] at second
        | ok _ =>
            have leftSource := decodeDamiaoFeedback_source fromLeft
            have rightSource := decodeDamiaoFeedback_source fromRight
            apply drives.distinct
            exact Prod.ext (leftSource.1.symm.trans rightSource.1)
              (leftSource.2.1.symm.trans rightSource.2.1)

/-- What the calls of a gate let know of a drive. -/
def Knows {V : Type} (world : GateWorld) (drive : Drive) (state : GateState V)
    (holds : List Bool → Prop) : Prop :=
  drives.bus.KnowsFrom (GateEvent.busAction world.interface) drive state.log holds

end InstalledDrives

/-- What part of a gate looks out for: the statuses of the watched motors are bound in some way,
and a raised flag says that a motor has one status only.  Something may also be known of the final
statuses that were noted. -/
structure Outlook (V : Type) where
  status : Bool
  bound : List Bool → Prop
  noted : (String → Option String) → Prop
  watched : V → String → Prop
  flagged : V → (String → Option String) → String → Prop
  tends : TendsTo status bound

section Outlooks

variable {V : Type} (outlook : Outlook V)

/-- A step that neither commands the other status nor changes the outlook. -/
structure Outlook.Steady (first last : GateState V) : Prop where
  log : Extends GateState.log
    (fun event => ∀ name, event.statusFor name ≠ some (!outlook.status)) first last
  errors : last.errors = [] → first.errors = []
  noted : outlook.noted first.finalStatus → outlook.noted last.finalStatus
  watched : outlook.watched last.locals = outlook.watched first.locals
  flagged : outlook.flagged last.locals last.finalStatus =
    outlook.flagged first.locals first.finalStatus

instance : IsPreorder (GateState V) outlook.Steady where
  refl state := ⟨refl state, id, id, rfl, rfl⟩
  trans _ _ _ left right :=
    ⟨trans_of (Extends GateState.log _) left.log right.log, left.errors ∘ right.errors,
      right.noted ∘ left.noted, right.watched.trans left.watched, right.flagged.trans left.flagged⟩

variable {Drive : Type} (drives : InstalledDrives Drive) (world : GateWorld)

/-- As long as no error was noted, the outlook is right. -/
def Outlook.Right (state : GateState V) : Prop :=
  state.errors = [] → outlook.noted state.finalStatus ∧
    ∀ drive, outlook.watched state.locals (drives.endpoint drive).motorName →
      drives.Knows world drive state outlook.bound ∧
        (outlook.flagged state.locals state.finalStatus (drives.endpoint drive).motorName →
          drives.Knows world drive state (Only outlook.status))

/-- The drive of an endpoint has reported the status, as feedback says. -/
def Outlook.Heard (endpoint : DamiaoFeedbackEndpoint) (feedback : DamiaoFeedback)
    (state : GateState V) : Prop :=
  feedback.motorName = endpoint.motorName ∧
    feedback.statusName = statusName feedback.statusCode ∧
    (statusOfCode feedback.statusCode = some outlook.status → state.errors = [] →
      ∀ drive, drives.endpoint drive = endpoint →
        outlook.watched state.locals endpoint.motorName →
          drives.Knows world drive state (Only outlook.status))

variable {outlook drives world}

theorem not_commands {status : Bool} {event : GateEvent} {drive : Drive}
    (never : ∀ name, event.statusFor name ≠ some status)
    {action : BusAction String GateEvent ReceivedCanFrame}
    (acted : action ∈ event.busAction world.interface) :
    ¬drives.bus.Commands drive action status := by
  rintro ⟨command, rfl, taken⟩
  cases event with
  | received frame => cases acted
  | _ =>
      obtain ⟨_, rfl⟩ := by simpa [GateEvent.busAction] using acted
      exact never (drives.endpoint drive).motorName taken

theorem InstalledDrives.Knows.append {drive : Drive} {first last : GateState V}
    {status : Bool} {holds : List Bool → Prop}
    (known : drives.Knows world drive first holds) (tends : TendsTo status holds)
    (grown : Extends GateState.log (fun event => ∀ name, event.statusFor name ≠ some (!status))
      first last) : drives.Knows world drive last holds := by
  obtain ⟨suffix, grown, never⟩ := grown
  unfold InstalledDrives.Knows
  rw [grown]
  exact SwitchBus.KnowsFrom.append known tends fun event member action acted =>
    not_commands (never event member) acted

/-- A steady step keeps the outlook right. -/
theorem Outlook.Right.steady {first last : GateState V} (right : outlook.Right drives world first)
    (steady : outlook.Steady first last) : outlook.Right drives world last := by
  intro clean
  obtain ⟨noted, known⟩ := right (steady.errors clean)
  refine ⟨steady.noted noted, fun drive watched => ?_⟩
  rw [steady.watched] at watched
  obtain ⟨bounded, settled⟩ := known drive watched
  refine ⟨bounded.append outlook.tends steady.log, fun flagged => ?_⟩
  rw [steady.flagged] at flagged
  exact (settled flagged).append (only_tendsTo _) steady.log

theorem Outlook.Heard.steady {endpoint : DamiaoFeedbackEndpoint} {feedback : DamiaoFeedback}
    {first last : GateState V} (heard : outlook.Heard drives world endpoint feedback first)
    (steady : outlook.Steady first last) : outlook.Heard drives world endpoint feedback last := by
  refine ⟨heard.1, heard.2.1, fun status clean drive same watched => ?_⟩
  rw [steady.watched] at watched
  exact (heard.2.2 status (steady.errors clean) drive same watched).append (only_tendsTo _)
    steady.log

end Outlooks

/-! ## Steady steps -/

section Steps

variable {V : Type} {outlook : Outlook V} {world : GateWorld}

open Program

/-- A step that neither calls the writer nor changes what the outlook is about. -/
theorem Outlook.Steady.of_eq {first last : GateState V} (log : last.log = first.log)
    (errors : last.errors = [] → first.errors = []) (locals : last.locals = first.locals)
    (finalStatus : last.finalStatus = first.finalStatus) : outlook.Steady first last :=
  ⟨.of_eq log, errors, fun noted => finalStatus ▸ noted, by rw [locals],
    by rw [locals, finalStatus]⟩

/-- A call of the writer. -/
theorem Outlook.Steady.logged {first last : GateState V} {event : GateEvent}
    (never : ∀ name, event.statusFor name ≠ some (!outlook.status))
    (log : last.log = first.log ++ [event]) (errors : last.errors = first.errors)
    (locals : last.locals = first.locals) (finalStatus : last.finalStatus = first.finalStatus) :
    outlook.Steady first last :=
  ⟨⟨[event], log, by simpa using never⟩, fun clean => errors ▸ clean,
    fun noted => finalStatus ▸ noted, by rw [locals], by rw [locals, finalStatus]⟩

theorem steady_addGateError (text : String) :
    Respects outlook.Steady (addGateError text : Gate V Unit) :=
  .modify fun _ => .of_eq rfl (by simp) rfl rfl

theorem steady_noteLastError (text : String) :
    Respects outlook.Steady (noteLastError text : Gate V Unit) :=
  .modify fun _ => .of_eq rfl id rfl rfl

theorem steady_monotonic : Respects outlook.Steady (monotonic world : Gate V ℚ) :=
  .bind .get fun _ => .bind (.modify fun _ => .of_eq rfl id rfl rfl) fun _ => .pure _

theorem steady_sendFrame {event : GateEvent} {count : GateState V → GateState V}
    (never : ∀ name, event.statusFor name ≠ some (!outlook.status))
    (counts : ∀ state, outlook.Steady state (count state)) :
    Respects outlook.Steady (sendFrame world event count) := by
  have called (state : GateState V) : outlook.Steady state
      { state with sendCalls := state.sendCalls + 1, log := state.log ++ [event] } :=
    .logged never rfl rfl rfl rfl
  refine .bind .get fun state => ?_
  cases world.send state.sendCalls with
  | sent => exact .modify fun state => trans_of outlook.Steady (called state) (counts _)
  | raised text counted =>
      refine .bind (.modify fun state => ?_) fun _ => .throw text
      cases counted with
      | false => exact called state
      | true => exact trans_of outlook.Steady (called state) (counts _)

theorem steady_sendGateCommand (command : EncodedDamiaoMitCommand) :
    Respects outlook.Steady (sendGateCommand world command : Gate V Unit) :=
  steady_sendFrame (by simp [GateEvent.statusFor]) fun state => refl state

theorem steady_sendEnable (motorName : String) (enabling : outlook.status = true) :
    Respects outlook.Steady (sendEnable world motorName : Gate V Unit) := by
  refine steady_sendFrame (fun name => ?_) fun _ => .of_eq rfl id rfl rfl
  simp only [GateEvent.statusFor, enabling]
  split <;> simp

theorem steady_sendDisable (motorName : String) (disabling : outlook.status = false) :
    Respects outlook.Steady (sendDisable world motorName : Gate V Unit) := by
  refine steady_sendFrame (fun name => ?_) fun _ => .of_eq rfl id rfl rfl
  simp only [GateEvent.statusFor, disabling]
  split <;> simp

theorem steady_sendEcho (endpoint : DamiaoFeedbackEndpoint) (positionRad : ℚ) :
    Respects outlook.Steady (sendEcho world endpoint positionRad : Gate V Unit) :=
  .bind (.ofExcept _) fun command => steady_sendGateCommand command

/-- A change of the variables that the outlook is not about. -/
theorem steady_changeLocals {change : V → V}
    (watched : ∀ locals, outlook.watched (change locals) = outlook.watched locals)
    (flagged : ∀ locals, outlook.flagged (change locals) = outlook.flagged locals) :
    Respects outlook.Steady (changeLocals change) :=
  .modify fun state => ⟨.of_eq rfl, id, id, watched state.locals, by rw [flagged]⟩

end Steps

/-! ## Receiving -/

section Receiving

variable {V : Type} {outlook : Outlook V} {Drive : Type} {drives : InstalledDrives Drive}
  {world : GateWorld}

open Program

/-- What a steady step does to a right outlook. -/
theorem right_of_steady {α : Type} {program : Gate V α}
    (steady : Respects outlook.Steady program) :
    Triple (outlook.Right drives world) program (fun _ => outlook.Right drives world)
      (outlook.Right drives world) :=
  steady.triple (fun _ _ step right => right.steady step) fun _ _ step right => right.steady step

/-- What a received frame says of the drives. -/
theorem receiveFrame_triple :
    Triple (outlook.Right drives world) (receiveFrame world)
      (fun answer state => outlook.Right drives world state ∧ ∀ frame ∈ answer, ∀ drive,
        frame.interface = (drives.endpoint drive).interface →
          (drives.endpoint drive).statusIn frame = some outlook.status → state.errors = [] →
            outlook.watched state.locals (drives.endpoint drive).motorName →
              drives.Knows world drive state (Only outlook.status))
      (outlook.Right drives world) := by
  refine .get_bind fun known => ?_
  have counted : Triple (fun state => outlook.Right drives world state ∧ state = known)
      (modify fun state => { state with receiveCalls := state.receiveCalls + 1 } : Gate V Unit)
      (fun _ => outlook.Right drives world) (outlook.Right drives world) := by
    refine .modify _ ?_
    rintro state ⟨right, _⟩
    exact right.steady (.of_eq rfl id rfl rfl)
  refine .bind counted fun _ => ?_
  cases world.receive known.receiveCalls with
  | frame frame =>
      refine .bind (.modify _ fun state right => ?_) fun _ => .pure _ fun _ => id
      refine ⟨right.steady (.logged (by simp [GateEvent.statusFor]) rfl rfl rfl rfl), ?_⟩
      intro other member drive same said clean watched
      obtain rfl := Option.mem_some_iff.mp member
      have heard : GateEvent.busAction world.interface (.received frame) =
          some (.receive (drives.bus.home drive) frame) := by
        simp [GateEvent.busAction, same, InstalledDrives.bus]
      exact SwitchBus.KnowsFrom.hear ((right clean).2 drive watched).1 outlook.tends heard said
  | blocking => exact .pure _ fun _ right => ⟨right, by simp⟩
  | raised text => exact .throw _ fun _ => id

/-- What is heard of the motor of an endpoint comes from a frame of its drive. -/
theorem receiveEndpoint_triple (fuel : ℕ) (endpoint : DamiaoFeedbackEndpoint) (timeoutS : ℚ) :
    Triple (outlook.Right drives world) (receiveEndpoint world fuel endpoint timeoutS)
      (fun feedback state => outlook.Right drives world state ∧
        outlook.Heard drives world endpoint feedback state) (outlook.Right drives world) := by
  refine .bind (right_of_steady steady_monotonic) fun deadline => ?_
  refine .repeatUntil (.bind (right_of_steady steady_monotonic) fun now => ?_) fun _ => id
  refine .bind (right_of_steady (.throwIf _)) fun _ => ?_
  refine .bind receiveFrame_triple fun answer => ?_
  cases answer with
  | none => exact .pure none fun _ => And.left
  | some frame =>
      by_cases mine : frame.interface = endpoint.interface ∧ (frame.canId : ℤ) = endpoint.masterId
      · simp only [acceptFrame, if_pos mine]
        refine .bind (.ofExcept (fun feedback decoded state received => ?_)
          fun _ _ _ => And.left) fun feedback => .pure (some feedback) fun _ => id
        obtain ⟨right, said⟩ := received
        obtain ⟨interface, _, named, status⟩ := decodeDamiaoFeedback_source decoded
        refine ⟨right, named, status, fun code clean drive same watched => ?_⟩
        subst same
        refine said frame rfl drive interface ?_ clean watched
        rw [DamiaoFeedbackEndpoint.statusIn, decoded]
        exact code
      · simp only [acceptFrame, if_neg mine]
        exact .pure none fun _ => And.left

end Receiving

/-! ## The cleanup -/

section Cleanup

variable {V : Type} {Drive : Type} {drives : InstalledDrives Drive} {world : GateWorld}

open Program

/-- In the cleanup the watched motors go off only, and one whose final status is disabled is off. -/
def closingOutlook (watched : V → String → Prop) : Outlook V where
  status := false
  bound := OnlyFalls
  noted _ := True
  watched := watched
  flagged _ finalStatus name := finalStatus name = some "disabled"
  tends := onlyFalls_tendsTo

theorem statusOfCode_of_disabled {code : ℕ} (disabled : statusName code = "disabled") :
    statusOfCode code = some false := by
  unfold statusName at disabled
  split at disabled
  · rfl
  all_goals exact absurd disabled (by decide)

theorem statusOfCode_of_enabled {code : ℕ} (enabled : statusName code = "enabled") :
    statusOfCode code = some true := by
  unfold statusName at enabled
  split at enabled
  all_goals first | rfl | exact absurd enabled (by decide)

variable {watched : V → String → Prop} (fuel : ℕ) (timeoutS : ℚ)
  (pollPosition : V → String → ℚ)

section Motor

variable {endpoint : DamiaoFeedbackEndpoint} {own : Drive}
  (installed : drives.endpoint own = endpoint)

include installed

/-- Hearing the status of a motor keeps the outlook right. -/
theorem hearStatus_right :
    Triple ((closingOutlook watched).Right drives world)
      (hearStatus world fuel timeoutS pollPosition endpoint)
      (fun _ => (closingOutlook watched).Right drives world)
      ((closingOutlook watched).Right drives world) := by
  refine .bind (right_of_steady .get) fun state => ?_
  refine .bind (right_of_steady (steady_sendEcho endpoint _)) fun _ => ?_
  refine .bind (receiveEndpoint_triple fuel endpoint timeoutS) fun feedback => .modify _ ?_
  rintro state ⟨right, named, status, heard⟩ clean
  refine ⟨trivial, fun drive watches => ?_⟩
  obtain ⟨bounded, settled⟩ := (right clean).2 drive watches
  refine ⟨bounded, fun flagged => ?_⟩
  by_cases mine : (drives.endpoint drive).motorName = endpoint.motorName
  · have same := drives.named drive own (mine.trans (congrArg _ installed.symm))
    subst same
    have disabled : statusName feedback.statusCode = "disabled" := by
      simpa [closingOutlook, mine, status] using flagged
    exact heard (statusOfCode_of_disabled disabled) clean drive installed (mine ▸ watches)
  · refine settled ?_
    simpa [closingOutlook, Function.update_of_ne mine] using flagged

theorem verificationRound_right (deadline : ℚ) :
    Triple ((closingOutlook watched).Right drives world)
      (verificationRound world fuel timeoutS pollPosition endpoint deadline)
      (fun _ => (closingOutlook watched).Right drives world)
      ((closingOutlook watched).Right drives world) := by
  refine .bind (right_of_steady .get) fun state => ?_
  split
  · exact .pure _ fun _ => id
  · refine .bind (right_of_steady steady_monotonic) fun now => ?_
    unfold verifyBefore
    split
    · exact .pure _ fun _ => id
    · refine .bind (.tryCatch ?_ (fun text => right_of_steady (steady_noteLastError text))
        fun _ => id) fun _ => .pure _ fun _ => id
      refine .bind (right_of_steady (steady_sendDisable _ rfl)) fun _ => ?_
      exact hearStatus_right fuel timeoutS pollPosition installed

theorem verifyMotor_right :
    Triple ((closingOutlook watched).Right drives world)
      (verifyMotor world fuel timeoutS pollPosition endpoint)
      (fun _ => (closingOutlook watched).Right drives world)
      ((closingOutlook watched).Right drives world) := by
  refine .bind (right_of_steady steady_monotonic) fun now => ?_
  refine .bind (right_of_steady (.modify fun _ => .of_eq rfl id rfl rfl)) fun _ => ?_
  let right := (closingOutlook watched).Right drives world
  have round : Triple right
      (verificationRound world fuel timeoutS pollPosition endpoint (now + 1 / 2))
      (Round right fun _ => right) right := by
    refine (verificationRound_right fuel timeoutS pollPosition installed _).consequence
      (fun _ => id) (fun answer _ kept => ?_) fun _ => id
    cases answer <;> exact kept
  have rounds : Triple right
      (repeatUntil fuel (verificationRound world fuel timeoutS pollPosition endpoint (now + 1 / 2)))
      (fun _ => right) right := .repeatUntil round fun _ => id
  refine .bind rounds fun _ => .bind (right_of_steady .get) fun state => ?_
  exact right_of_steady (.runIf (steady_addGateError _))

end Motor

/-- The cleanup of a group keeps the outlook right. -/
theorem groupCleanup_right {selected : List DamiaoFeedbackEndpoint}
    (installed : ∀ endpoint ∈ selected, ∃ drive, drives.endpoint drive = endpoint) :
    Triple ((closingOutlook watched).Right drives world)
      (groupCleanup world fuel timeoutS pollPosition selected)
      (fun _ => (closingOutlook watched).Right drives world)
      ((closingOutlook watched).Right drives world) := by
  refine .bind (right_of_steady (.forEach fun _ _ => .forEach fun endpoint _ => ?_)) fun _ => ?_
  · exact .tryCatch (steady_sendDisable _ rfl) fun text => steady_addGateError _
  · refine .forEach_keeps_mem fun endpoint member => ?_
    obtain ⟨drive, same⟩ := installed endpoint member
    exact verifyMotor_right fuel timeoutS pollPosition same

end Cleanup

/-! ## A hold -/

namespace GroupHold

section Body

variable {Drive : Type} {drives : InstalledDrives Drive} {world : GateWorld} (hold : GroupHold)
  (fuel : ℕ)

open Program

/-- In the body the motors go on only, one that has given feedback has been enabled, and no final
status is noted. -/
def openingOutlook : Outlook HoldLocals where
  status := true
  bound := OnlyRises
  noted finalStatus := ∀ name, finalStatus name = none
  watched _ _ := True
  flagged locals _ name := 0 < locals.feedbackCount name
  tends := onlyRises_tendsTo

/-- A change of the variables other than the feedback count. -/
theorem steady_locals {change : HoldLocals → HoldLocals}
    (counts : ∀ locals, (change locals).feedbackCount = locals.feedbackCount) :
    Respects openingOutlook.Steady (changeLocals change) :=
  steady_changeLocals (fun _ => rfl) fun locals => by
    simp only [openingOutlook, counts]

theorem recordInitial_right (endpoint : DamiaoFeedbackEndpoint) :
    Triple (openingOutlook.Right drives world) (hold.recordInitial world fuel endpoint)
      (fun _ => openingOutlook.Right drives world) (openingOutlook.Right drives world) := by
  refine .bind (right_of_steady (steady_sendEcho endpoint 0)) fun _ => ?_
  refine .bind (receiveEndpoint_triple fuel endpoint _) fun feedback => ?_
  refine (right_of_steady ?_).consequence (fun _ => And.left) (fun _ _ => id) fun _ => id
  refine .bind (.throwIf _) fun _ => .bind (steady_locals fun _ => rfl) fun _ => ?_
  exact .bind (.ofExcept _) fun limits => .bind (.throwIf _) fun _ => steady_locals fun _ => rfl

theorem prepareMotor_right (endpoint : DamiaoFeedbackEndpoint) :
    Triple (openingOutlook.Right drives world) (prepareMotor world fuel endpoint)
      (fun _ => openingOutlook.Right drives world) (openingOutlook.Right drives world) := by
  refine .bind (right_of_steady .get) fun state => .bind (right_of_steady (.ofExcept _))
    fun target => .bind (right_of_steady (steady_sendEcho endpoint target)) fun _ => ?_
  refine .bind (receiveEndpoint_triple fuel endpoint _) fun prepared => ?_
  refine (right_of_steady ?_).consequence (fun _ => And.left) (fun _ _ => id) fun _ => id
  exact .bind (.throwIf _) fun _ => steady_locals fun _ => rfl

section Motor

variable {endpoint : DamiaoFeedbackEndpoint} {own : Drive}
  (installed : drives.endpoint own = endpoint)

include installed

/-- Feedback is counted, and accepted only from a drive that is enabled. -/
theorem accept_right (feedback : DamiaoFeedback) :
    Triple (fun state => openingOutlook.Right drives world state ∧
        openingOutlook.Heard drives world endpoint feedback state) (hold.accept feedback)
      (fun _ => openingOutlook.Right drives world) fun _ => True := by
  have counting : Triple (fun state => openingOutlook.Right drives world state ∧
        openingOutlook.Heard drives world endpoint feedback state)
      (changeLocals fun locals =>
        { locals with feedbackCount := countUp feedback.motorName locals.feedbackCount })
      (fun _ state => feedback.statusName = "enabled" → openingOutlook.Right drives world state)
      fun _ => True := by
    refine .modify _ ?_
    rintro state ⟨right, named, status, heard⟩ enabled clean
    obtain ⟨noted, known⟩ := right clean
    refine ⟨noted, fun drive _ => ?_⟩
    obtain ⟨bounded, settled⟩ := known drive trivial
    refine ⟨bounded, fun flagged => ?_⟩
    by_cases mine : (drives.endpoint drive).motorName = endpoint.motorName
    · have same := drives.named drive own (mine.trans (congrArg _ installed.symm))
      subst same
      exact heard (statusOfCode_of_enabled (status.symm.trans enabled)) clean drive installed
        trivial
    · refine settled ?_
      simpa [openingOutlook, countUp, named, Function.update_of_ne mine] using flagged
  have enabling : Triple
      (fun state => feedback.statusName = "enabled" → openingOutlook.Right drives world state)
      (throwIf (feedback.statusName ≠ "enabled") (feedback.motorName ++
        " status must be enabled, observed " ++ feedback.statusName))
      (fun _ => openingOutlook.Right drives world) fun _ => True :=
    .throwIf _ (fun _ _ _ => trivial) fun enabled _ right => right (not_not.mp enabled)
  refine .bind counting fun _ => .bind enabling fun _ => ?_
  refine (right_of_steady ?_).consequence (fun _ => id) (fun _ _ => id) fun _ _ => trivial
  refine .bind .get fun state => .bind (.ofExcept _) fun target => ?_
  refine .bind (steady_locals fun _ => rfl) fun _ => .bind (.throwIf _) fun _ => ?_
  refine .bind (.throwIf _) fun _ => .bind (.ofExcept _) fun guard => .bind (.throwIf _) fun _ => ?_
  exact .bind (.throwIf _) fun _ => .throwIf _

theorem holdMotor_right :
    Triple (openingOutlook.Right drives world) (hold.holdMotor world fuel endpoint)
      (fun _ => openingOutlook.Right drives world) fun _ => True := by
  have away {α : Type} {program : Gate HoldLocals α}
      (steady : Respects openingOutlook.Steady program) :
      Triple (openingOutlook.Right drives world) program
        (fun _ => openingOutlook.Right drives world) fun _ => True :=
    (right_of_steady steady).consequence (fun _ => id) (fun _ _ => id) fun _ _ => trivial
  refine .bind (away (.ofExcept _)) fun limits => .bind (away (.ofExcept _)) fun torque => ?_
  refine .bind (away (.ofExcept _)) fun envelope => .bind (away .get) fun state => ?_
  refine .bind (away (.ofExcept _)) fun latest => .bind (away (.ofExcept _)) fun target => ?_
  refine .bind (away (.ofExcept _)) fun command => ?_
  refine .bind (away (steady_locals fun _ => rfl)) fun _ => ?_
  refine .bind (away (steady_sendGateCommand command)) fun _ => ?_
  refine .bind (away (steady_locals fun _ => rfl)) fun _ => ?_
  refine .bind ((receiveEndpoint_triple fuel endpoint _).consequence (fun _ => id) (fun _ _ => id)
    fun _ _ => trivial) fun feedback => ?_
  exact .bind (hold.accept_right installed feedback) fun _ => away (steady_locals fun _ => rfl)

end Motor

/-- The body leaves the outlook right, or leaves with an exception. -/
theorem body_right
    (installed : ∀ endpoint ∈ hold.endpoints, ∃ drive, drives.endpoint drive = endpoint) :
    Triple (openingOutlook.Right drives world) (hold.body world fuel)
      (fun _ => openingOutlook.Right drives world) fun _ => True := by
  let right := openingOutlook.Right drives world
  have away {α : Type} {program : Gate HoldLocals α}
      (keeps : Triple right program (fun _ => right) right) :
      Triple right program (fun _ => right) fun _ => True :=
    keeps.consequence (fun _ => id) (fun _ _ => id) fun _ _ => trivial
  have scheduling : Respects openingOutlook.Steady (scheduleNext world) := by
    refine .bind (steady_locals fun _ => rfl) fun _ => .bind steady_monotonic fun now => ?_
    exact .bind .get fun state => .runIf (.bind steady_monotonic fun later =>
      steady_locals fun _ => rfl)
  have round (start : ℚ) : Triple right (hold.holdRound world fuel start)
      (Round right fun _ => right) fun _ => True := by
    refine .bind (away (right_of_steady steady_monotonic)) fun tested => ?_
    unfold holdBefore
    split
    · exact .pure _ fun _ => id
    · refine .bind (away (right_of_steady steady_monotonic)) fun now => ?_
      refine .bind (away (right_of_steady .get)) fun state => ?_
      have cycling : Triple right (do
          Program.forEach hold.endpoints (hold.holdMotor world fuel)
          scheduleNext world) (fun _ => right) fun _ => True := by
        refine .bind (.forEach_keeps_mem fun endpoint member => ?_) fun _ =>
          away (right_of_steady scheduling)
        obtain ⟨drive, same⟩ := installed endpoint member
        exact hold.holdMotor_right fuel same
      have cycled : Triple right (Program.runIf (state.locals.nextCycle ≤ now) do
          Program.forEach hold.endpoints (hold.holdMotor world fuel)
          scheduleNext world) (fun _ => right) fun _ => True :=
        .runIf (fun _ => cycling) fun _ _ => id
      exact .bind cycled fun _ => .pure none fun _ => id
  refine .bind (away (.forEach_keeps fun endpoint => hold.recordInitial_right fuel endpoint))
    fun _ => ?_
  refine .bind (away (.forEach_keeps fun endpoint => prepareMotor_right fuel endpoint)) fun _ => ?_
  refine .bind (away (right_of_steady (.forEach fun _ _ => steady_sendEnable _ rfl))) fun _ => ?_
  refine .bind (away (right_of_steady steady_monotonic)) fun start => ?_
  refine .bind (away (right_of_steady (steady_locals fun _ => rfl))) fun _ => ?_
  exact .repeatUntil (round start) fun _ _ => trivial

/-- A hold that passes knows every motor that it selected to be off. -/
theorem run_knows
    (installed : ∀ endpoint ∈ hold.endpoints, ∃ drive, drives.endpoint drive = endpoint)
    {report : MotorGroupHoldReport} {final : GateState HoldLocals}
    (returned : hold.run world fuel (.start {}) = (.done report, final)) (passed : report.Passed)
    {drive : Drive} (selected : drives.endpoint drive ∈ hold.endpoints) :
    drives.Knows world drive final (Only false) := by
  let watched := fun (locals : HoldLocals) (name : String) => 0 < locals.feedbackCount name
  have noting : Triple (openingOutlook.Right drives world)
      (noteException (hold.body world fuel)) (fun _ => openingOutlook.Right drives world)
      fun _ => True := by
    refine (hold.body_right fuel installed).tryCatch (fun text => .modify _ fun state _ => ?_)
      fun _ _ => trivial
    intro clean
    simp at clean
  have opening : openingOutlook.Right drives world (.start {}) :=
    fun _ => ⟨fun _ => rfl, fun drive _ =>
      ⟨SwitchBus.KnowsFrom.nil, fun counted => absurd counted (lt_irrefl 0)⟩⟩
  obtain ⟨_, start, valid, gate⟩ := Program.bind_eq_done returned
  obtain ⟨rfl, _⟩ := Program.ofExcept_eq_done valid
  obtain ⟨_, middle, noted, afterBody⟩ := Program.bind_eq_done gate
  obtain ⟨_, last, cleaned, reported⟩ := Program.bind_eq_done afterBody
  cases reported
  have opened := noting.of_eq_done opening noted
  have closing : (closingOutlook watched).Right drives world middle := by
    intro clean
    obtain ⟨unnoted, known⟩ := opened clean
    refine ⟨trivial, fun drive counted => ⟨?_, fun disabled => ?_⟩⟩
    · exact ((known drive trivial).2 counted).mono fun _ only => only.falling
    · exact absurd ((unnoted _).symm.trans disabled) (by simp)
  have closed := (groupCleanup_right fuel _ _ installed).of_eq_done closing cleaned
  have name : (drives.endpoint drive).motorName ∈ hold.names := List.mem_map_of_mem selected
  exact ((closed passed.errors).2 drive (passed.feedback.of_byName name)).2
    (passed.disabled.of_byName name)

end Body

end GroupHold

end SpriteRuntime
