import SpriteRuntime.Foundation.Percentile
import SpriteRuntime.Runtime.DamiaoFeedback

/-!
# The audit of what is received

Frames of all buses are counted motor by motor.  Some errors are noticed while the frames come in
and the others in the report, and a trace passes when there are none.
-/

namespace SpriteRuntime

open Foundation

/-- `_percentile_99`, infinite when there are no values. -/
def percentile99 (values : List ℚ) : WithTop ℚ :=
  match orderStatistic values (shareRank (99 / 100) values.length) with
  | some value => value
  | none => ⊤

def DamiaoFeedback.userspaceQueueAgeNs (feedback : DamiaoFeedback) : ℤ :=
  feedback.userspaceReceiveTimestampNs - feedback.softwareTimestampNs

structure DamiaoMotorRxStats where
  samples : ℕ
  feedbackHz : ℚ
  maximumHardwareGapMs : ℚ
  userspaceQueueAgeP99Ms : WithTop ℚ
  maximumMosTemperatureC : Option ℕ
  maximumRotorTemperatureC : Option ℕ

structure DamiaoRxAuditReport where
  expectedMotorCount : ℕ
  seenMotorCount : ℕ
  missingMotors : List String
  motorStats : List (String × DamiaoMotorRxStats)
  errors : List String
  observedControlFrameCount : ℕ
  decodedFeedbackFrameCount : ℕ
  unexpectedFrameCount : ℕ

def DamiaoRxAuditReport.passed (report : DamiaoRxAuditReport) : Prop := report.errors = []

/-- The endpoints and limits of an audit. -/
structure DamiaoRxAudit where
  decoder : DamiaoFeedbackDecoder
  minimumSamplesPerMotor : ℤ
  minimumFeedbackHz : ℚ
  maximumHardwareGapMs : ℚ
  maximumUserspaceQueueAgeP99Ms : ℚ
  apart : ∀ fed ∈ decoder.endpoints, ∀ commanded ∈ decoder.endpoints,
    fed.feedbackKey ≠ commanded.commandKey
  samplesPositive : 0 < minimumSamplesPerMotor
  limitsPositive : 0 < minimumFeedbackHz ∧ 0 < maximumHardwareGapMs ∧
    0 < maximumUserspaceQueueAgeP99Ms

/-- What an audit has collected. -/
structure RxTrace where
  samples : String → List DamiaoFeedback
  errors : List String
  unexpectedKeys : List (String × ℤ)
  observedControlFrames : ℕ
  decodedFeedbackFrames : ℕ

namespace RxTrace

def empty : RxTrace :=
  { samples := fun _ => []
    errors := []
    unexpectedKeys := []
    observedControlFrames := 0
    decodedFeedbackFrames := 0 }

/-- What `ingest` does with a decoded frame. -/
def record (feedback : DamiaoFeedback) (trace : RxTrace) : RxTrace :=
  let samples := trace.samples feedback.motorName
  let regressed := match samples.getLast? with
    | some last => decide (feedback.hardwareTimestampNs ≤ last.hardwareTimestampNs)
    | none => false
  { trace with
    samples := Function.update trace.samples feedback.motorName (samples ++ [feedback])
    errors := trace.errors ++
      (if regressed then [s!"{feedback.motorName}: raw hardware timestamp regressed"] else []) ++
      (if feedback.statusCode = 0 ∨ feedback.statusCode = 1 then []
        else [s!"{feedback.motorName}: motor fault {feedback.statusName}"])
    decodedFeedbackFrames := trace.decodedFeedbackFrames + 1 }

end RxTrace

namespace DamiaoRxAudit

/-- The constructor. -/
def make (endpoints : List DamiaoFeedbackEndpoint) (minimumSamplesPerMotor : ℤ)
    (minimumFeedbackHz maximumHardwareGapMs maximumUserspaceQueueAgeP99Ms : ℚ) :
    Except String DamiaoRxAudit := do
  let decoder ← DamiaoFeedbackDecoder.make endpoints
  if apart : ∀ fed ∈ decoder.endpoints, ∀ commanded ∈ decoder.endpoints,
      fed.feedbackKey ≠ commanded.commandKey then
    if samplesPositive : 0 < minimumSamplesPerMotor then
      raiseIf (minimumFeedbackHz ≤ 0) "minimum_feedback_hz must be finite and positive"
      raiseIf (maximumHardwareGapMs ≤ 0) "maximum_hardware_gap_ms must be finite and positive"
      if limitsPositive : 0 < minimumFeedbackHz ∧ 0 < maximumHardwareGapMs ∧
          0 < maximumUserspaceQueueAgeP99Ms then
        return { decoder, minimumSamplesPerMotor, minimumFeedbackHz, maximumHardwareGapMs,
                 maximumUserspaceQueueAgeP99Ms, apart, samplesPositive, limitsPositive }
      else throw "maximum_userspace_queue_age_p99_ms must be finite and positive"
    else throw "minimum_samples_per_motor must be positive"
  else throw "Damiao command and feedback endpoints overlap"

variable (audit : DamiaoRxAudit)

/-- `_feedback_keys`. -/
def feedbackKeys : List (String × ℤ) :=
  audit.decoder.endpoints.map DamiaoFeedbackEndpoint.feedbackKey

/-- `_command_keys`. -/
def commandKeys : List (String × ℤ) :=
  audit.decoder.endpoints.map DamiaoFeedbackEndpoint.commandKey

/-- `sorted(_expected)`. -/
def expected : List String :=
  (audit.decoder.endpoints.map DamiaoFeedbackEndpoint.motorName).dedup.insertionSort (· ≤ ·)

def ingest (frame : ReceivedCanFrame) : Program RxTrace String DamiaoFeedback := do
  let feedback ← Program.ofExcept (audit.decoder.decode frame)
  Program.modify (RxTrace.record feedback)
  return feedback

def ingestBusFrame (frame : ReceivedCanFrame) : Program RxTrace String (Option DamiaoFeedback) := do
  if frame.key ∈ audit.feedbackKeys then
    let feedback ← audit.ingest frame
    return some feedback
  else if frame.key ∈ audit.commandKeys then
    Program.modify fun trace =>
      { trace with observedControlFrames := trace.observedControlFrames + 1 }
    return none
  else
    Program.modify fun trace => { trace with unexpectedKeys := trace.unexpectedKeys.insert frame.key }
    return none

/-- The frames of a run, one after the other. -/
def ingestAll (frames : List ReceivedCanFrame) : Program RxTrace String Unit :=
  Program.forEach frames fun frame => do
    let _ ← audit.ingestBusFrame frame
    return ()

/-! ## The report -/

/-- Consecutive samples. -/
def consecutive (samples : List DamiaoFeedback) : List (DamiaoFeedback × DamiaoFeedback) :=
  samples.zip samples.tail

/-- `gaps_ns`. -/
def gapsNs (samples : List DamiaoFeedback) : List ℤ :=
  ((consecutive samples).filter fun pair =>
      pair.1.hardwareTimestampNs < pair.2.hardwareTimestampNs).map
    fun pair => pair.2.hardwareTimestampNs - pair.1.hardwareTimestampNs

/-- `elapsed_ns`. -/
def elapsedNs (samples : List DamiaoFeedback) : ℤ :=
  match samples.head?, samples.getLast? with
  | some first, some last => last.hardwareTimestampNs - first.hardwareTimestampNs
  | _, _ => 0

/-- `feedback_hz`. -/
def feedbackHz (samples : List DamiaoFeedback) : ℚ :=
  if 1 < samples.length ∧ 0 < elapsedNs samples then
    (samples.length - 1) * 1000000000 / elapsedNs samples
  else 0

/-- `maximum_gap_ms`. -/
def maximumGapMs (samples : List DamiaoFeedback) : ℚ :=
  ((gapsNs samples).max?.getD 0 : ℤ) / 1000000

/-- `queue_ages_ms`. -/
def queueAgesMs (samples : List DamiaoFeedback) : List ℚ :=
  samples.map fun sample => sample.userspaceQueueAgeNs / 1000000

def motorStats (samples : List DamiaoFeedback) : DamiaoMotorRxStats :=
  { samples := samples.length
    feedbackHz := feedbackHz samples
    maximumHardwareGapMs := maximumGapMs samples
    userspaceQueueAgeP99Ms := percentile99 (queueAgesMs samples)
    maximumMosTemperatureC := (samples.map DamiaoFeedback.mosTemperatureC).max?
    maximumRotorTemperatureC := (samples.map DamiaoFeedback.rotorTemperatureC).max? }

/-- A text when the condition holds. -/
def errorIf (condition : Prop) [Decidable condition] (text : String) : List String :=
  if condition then [text] else []

@[simp] theorem errorIf_eq_nil {condition : Prop} [Decidable condition] {text : String} :
    errorIf condition text = [] ↔ ¬condition := by
  rw [errorIf]
  split <;> simp_all

variable (fixed : WithTop ℚ → String)

/-- The errors of a motor that has samples. -/
def motorErrors (name : String) (samples : List DamiaoFeedback) : List String :=
  let stats := motorStats samples
  errorIf ((samples.length : ℤ) < audit.minimumSamplesPerMotor)
      s!"{name}: received {samples.length} samples; minimum is {audit.minimumSamplesPerMotor}" ++
    errorIf (stats.feedbackHz < audit.minimumFeedbackHz)
      s!"{name}: feedback rate {fixed stats.feedbackHz} Hz is too low" ++
    errorIf (audit.maximumHardwareGapMs < stats.maximumHardwareGapMs)
      s!"{name}: hardware timestamp gap {fixed stats.maximumHardwareGapMs} ms is too large" ++
    errorIf ((audit.maximumUserspaceQueueAgeP99Ms : WithTop ℚ) < stats.userspaceQueueAgeP99Ms)
      s!"{name}: userspace queue age P99 {fixed stats.userspaceQueueAgeP99Ms} ms is too large"

/-- The order of tuples. -/
def keyLe (left right : String × ℤ) : Prop :=
  left.1 < right.1 ∨ (left.1 = right.1 ∧ left.2 ≤ right.2)

instance : DecidableRel keyLe := fun _ _ => inferInstanceAs (Decidable (_ ∨ _))

/-- `report`. -/
def report (trace : RxTrace) : DamiaoRxAuditReport :=
  let missing := audit.expected.filter fun name => (trace.samples name).isEmpty
  let seen := audit.expected.filter fun name => !(trace.samples name).isEmpty
  { expectedMotorCount := audit.expected.length
    seenMotorCount := audit.expected.length - missing.length
    missingMotors := missing
    motorStats := seen.map fun name => (name, motorStats (trace.samples name))
    errors := trace.errors ++
      (trace.unexpectedKeys.insertionSort keyLe).map
        (fun key => s!"unexpected CAN endpoint: {key.1}:0x" ++
          String.ofList (Nat.toDigits 16 key.2.toNat)) ++
      seen.flatMap (fun name => audit.motorErrors fixed name (trace.samples name)) ++
      errorIf (missing ≠ []) ("missing motor feedback: " ++ ", ".intercalate missing)
    observedControlFrameCount := trace.observedControlFrames
    decodedFeedbackFrameCount := trace.decodedFeedbackFrames
    unexpectedFrameCount := trace.unexpectedKeys.length }

/-! ## The figures of a motor -/

section Figures

variable {samples : List DamiaoFeedback} {limit : ℚ}

/-- The timestamps of the hardware increase in the order of arrival. -/
def Increasing (samples : List DamiaoFeedback) : Prop :=
  samples.Pairwise fun earlier later => earlier.hardwareTimestampNs < later.hardwareTimestampNs

theorem percentile99_le_iff {values : List ℚ} (nonempty : values ≠ []) :
    percentile99 values ≤ limit ↔ 99 / 100 * values.length ≤ (values.countP (· ≤ limit) : ℚ) := by
  have share : (0 : ℚ) < 99 / 100 := by norm_num
  have inside := shareRank_lt share (by norm_num) (List.length_pos_iff.mpr nonempty)
  obtain ⟨value, found⟩ := exists_orderStatistic inside
  rw [percentile99, found, ← percentile_le_iff share nonempty found]
  exact WithTop.coe_le_coe

/-- A gap that goes back is no gap, so only the ones that go forward count. -/
theorem maximumGapMs_le_iff (positive : 0 < limit) :
    maximumGapMs samples ≤ limit ↔ ∀ pair ∈ consecutive samples,
      ((pair.2.hardwareTimestampNs - pair.1.hardwareTimestampNs : ℤ) : ℚ) / 1000000 ≤ limit := by
  have forward : maximumGapMs samples ≤ limit ↔
      ∀ gap ∈ gapsNs samples, ((gap : ℤ) : ℚ) / 1000000 ≤ limit := by
    rw [maximumGapMs]
    cases largest : (gapsNs samples).max? with
    | none =>
        rw [List.max?_eq_none_iff] at largest
        simp [largest, positive.le]
    | some gap =>
        rw [Option.getD_some]
        constructor
        · intro within other member
          have atMost : other ≤ gap := (List.max?_le_iff largest).mp le_rfl other member
          have scaled : (other : ℚ) / 1000000 ≤ gap / 1000000 := by gcongr
          exact scaled.trans within
        · intro within
          exact within gap (List.max?_mem largest)
  rw [forward]
  constructor
  · intro within pair member
    by_cases later : pair.1.hardwareTimestampNs < pair.2.hardwareTimestampNs
    · apply within
      exact List.mem_map.mpr ⟨pair, List.mem_filter.mpr ⟨member, decide_eq_true later⟩, rfl⟩
    · have back : ((pair.2.hardwareTimestampNs - pair.1.hardwareTimestampNs : ℤ) : ℚ) ≤ 0 := by
        rw [Int.cast_nonpos]
        omega
      linarith
  · intro within gap member
    obtain ⟨pair, inGaps, rfl⟩ := List.mem_map.mp member
    exact within pair (List.mem_filter.mp inGaps).1

theorem elapsedNs_pos (increasing : Increasing samples) (several : 1 < samples.length) :
    0 < elapsedNs samples := by
  cases samples with
  | nil => simp at several
  | cons first rest =>
      have nonempty : rest ≠ [] := by
        rintro rfl
        simp at several
      have later := (List.pairwise_cons.mp increasing).1 _ (List.getLast_mem nonempty)
      rw [elapsedNs, List.head?_cons, List.getLast?_cons, List.getLast?_eq_some_getLast nonempty]
      dsimp only [Option.getD_some]
      omega

/-- The rate is high enough when so many intervals fit into the time. -/
theorem le_feedbackHz_iff (increasing : Increasing samples) (positive : 0 < limit) :
    limit ≤ feedbackHz samples ↔ 1 < samples.length ∧
      limit * (elapsedNs samples / 1000000000) ≤ samples.length - 1 := by
  by_cases several : 1 < samples.length
  · have elapsed := elapsedNs_pos increasing several
    have time : (0 : ℚ) < elapsedNs samples := Int.cast_pos.mpr elapsed
    rw [feedbackHz, if_pos ⟨several, elapsed⟩, le_div_iff₀ time, and_iff_right several]
    constructor <;> intro bound <;> linarith
  · rw [feedbackHz, if_neg fun both => several both.1]
    exact iff_of_false (not_le.mpr positive) fun both => several both.1

end Figures

/-- What a motor must have received. -/
structure MotorPasses (samples : List DamiaoFeedback) : Prop where
  enough : audit.minimumSamplesPerMotor ≤ samples.length
  increasing : Increasing samples
  rate : 1 < samples.length ∧
    audit.minimumFeedbackHz * (elapsedNs samples / 1000000000) ≤ samples.length - 1
  gap : ∀ pair ∈ consecutive samples,
    ((pair.2.hardwareTimestampNs - pair.1.hardwareTimestampNs : ℤ) : ℚ) / 1000000 ≤
      audit.maximumHardwareGapMs
  queueAge : 99 / 100 * samples.length ≤ ((queueAgesMs samples).countP
    (· ≤ audit.maximumUserspaceQueueAgeP99Ms) : ℚ)
  healthy : ∀ sample ∈ samples, sample.statusCode = 0 ∨ sample.statusCode = 1

variable {audit fixed}

theorem motorErrors_eq_nil_iff {name : String} {samples : List DamiaoFeedback}
    (increasing : Increasing samples) (nonempty : samples ≠ []) :
    audit.motorErrors fixed name samples = [] ↔
      audit.minimumSamplesPerMotor ≤ samples.length ∧
        (1 < samples.length ∧
          audit.minimumFeedbackHz * (elapsedNs samples / 1000000000) ≤ samples.length - 1) ∧
        (∀ pair ∈ consecutive samples,
          ((pair.2.hardwareTimestampNs - pair.1.hardwareTimestampNs : ℤ) : ℚ) / 1000000 ≤
            audit.maximumHardwareGapMs) ∧
        99 / 100 * samples.length ≤ ((queueAgesMs samples).countP
          (· ≤ audit.maximumUserspaceQueueAgeP99Ms) : ℚ) := by
  obtain ⟨rate, gap, -⟩ := audit.limitsPositive
  have ages : queueAgesMs samples ≠ [] := by
    rw [queueAgesMs, Ne, List.map_eq_nil_iff]
    exact nonempty
  have percentile : percentile99 (queueAgesMs samples) ≤ audit.maximumUserspaceQueueAgeP99Ms ↔ _ :=
    percentile99_le_iff ages
  rw [queueAgesMs, List.length_map, ← queueAgesMs] at percentile
  rw [← le_feedbackHz_iff increasing rate, ← maximumGapMs_le_iff gap, ← percentile]
  simp only [motorErrors, List.append_eq_nil_iff, errorIf_eq_nil, not_lt, and_assoc]
  exact Iff.rfl

/-! ## What has been received -/

section Received

variable (audit) (frames : List ReceivedCanFrame)

/-- The samples of the feedback frames, in the order of arrival. -/
def feedbackOf : List DamiaoFeedback :=
  frames.filterMap fun frame => (audit.decoder.decode frame).toOption

/-- The samples of one motor. -/
def received (name : String) : List DamiaoFeedback :=
  (audit.feedbackOf frames).filter fun feedback => feedback.motorName = name

/-- The frames of an endpoint that is neither commanded nor fed back. -/
def Known (frame : ReceivedCanFrame) : Prop :=
  frame.key ∈ audit.feedbackKeys ∨ frame.key ∈ audit.commandKeys

/-- What a trace must be like to pass. -/
def Clean : Prop :=
  (∀ name ∈ audit.expected, audit.MotorPasses (audit.received frames name)) ∧
    ∀ frame ∈ frames, audit.Known frame

variable {audit frames} {frame : ReceivedCanFrame} {feedback : DamiaoFeedback} {name : String}

theorem feedbackOf_cons_ok (decoded : audit.decoder.decode frame = .ok feedback) :
    audit.feedbackOf (frame :: frames) = feedback :: audit.feedbackOf frames := by
  rw [feedbackOf, List.filterMap_cons, decoded]
  rfl

theorem feedbackOf_cons_error {error : String}
    (decoded : audit.decoder.decode frame = .error error) :
    audit.feedbackOf (frame :: frames) = audit.feedbackOf frames := by
  rw [feedbackOf, List.filterMap_cons, decoded]
  rfl

/-- A decoded frame belongs to the endpoint whose key it has. -/
theorem exists_endpoint_of_decode (decoded : audit.decoder.decode frame = .ok feedback) :
    ∃ endpoint ∈ audit.decoder.endpoints, endpoint.feedbackKey = frame.key ∧
      feedback.motorName = endpoint.motorName := by
  rw [DamiaoFeedbackDecoder.decode] at decoded
  cases found : audit.decoder.endpoints.find? fun endpoint => endpoint.feedbackKey = frame.key with
  | none =>
      rw [found] at decoded
      cases decoded
  | some endpoint =>
      rw [found] at decoded
      refine ⟨endpoint, List.mem_of_find?_eq_some found, ?_, ?_⟩
      · simpa using List.find?_some found
      · dsimp only at decoded
        rw [decodeDamiaoFeedback] at decoded
        obtain ⟨-, -, decoded⟩ := except_bind_eq_ok.mp decoded
        obtain ⟨-, -, decoded⟩ := except_bind_eq_ok.mp decoded
        obtain ⟨-, -, decoded⟩ := except_bind_eq_ok.mp decoded
        obtain ⟨-, -, decoded⟩ := except_bind_eq_ok.mp decoded
        obtain ⟨-, -, decoded⟩ := except_bind_eq_ok.mp decoded
        cases decoded
        rfl

theorem mem_expected : name ∈ audit.expected ↔
    ∃ endpoint ∈ audit.decoder.endpoints, endpoint.motorName = name := by
  rw [expected, List.mem_insertionSort, List.mem_dedup, List.mem_map]

theorem received_eq_nil (unknown : name ∉ audit.expected) : audit.received frames name = [] := by
  rw [received, List.filter_eq_nil_iff]
  intro feedback member
  obtain ⟨frame, -, decoded⟩ := List.mem_filterMap.mp member
  cases outcome : audit.decoder.decode frame with
  | error error =>
      rw [outcome] at decoded
      cases decoded
  | ok other =>
      rw [outcome] at decoded
      cases decoded
      obtain ⟨endpoint, inEndpoints, -, named⟩ := exists_endpoint_of_decode outcome
      rw [decide_eq_true_eq]
      rintro rfl
      exact unknown (mem_expected.mpr ⟨endpoint, inEndpoints, named.symm⟩)

theorem received_append_feedback (decoded : audit.decoder.decode frame = .ok feedback) :
    audit.received (frames ++ [frame]) name =
      if feedback.motorName = name then audit.received frames name ++ [feedback]
      else audit.received frames name := by
  have last : audit.feedbackOf (frames ++ [frame]) = audit.feedbackOf frames ++ [feedback] := by
    simp [feedbackOf, decoded, Except.toOption]
  rw [received, last, List.filter_append]
  by_cases own : feedback.motorName = name
  · simp [own, received]
  · simp [own, received]

theorem received_append_other (other : frame.key ∉ audit.feedbackKeys) :
    audit.received (frames ++ [frame]) name = audit.received frames name := by
  have last : audit.feedbackOf (frames ++ [frame]) = audit.feedbackOf frames := by
    rw [feedbackOf, List.filterMap_append]
    cases decoded : audit.decoder.decode frame with
    | error error => simp [decoded, Except.toOption, feedbackOf]
    | ok feedback =>
        obtain ⟨endpoint, member, key, -⟩ := exists_endpoint_of_decode decoded
        exact absurd (key ▸ List.mem_map_of_mem member) other
  rw [received, last, received]

theorem increasing_append_singleton {samples : List DamiaoFeedback} :
    Increasing (samples ++ [feedback]) ↔ Increasing samples ∧
      ∀ last ∈ samples.getLast?, last.hardwareTimestampNs < feedback.hardwareTimestampNs := by
  rw [Increasing, List.pairwise_append]
  simp only [List.pairwise_singleton, List.mem_singleton, forall_eq, true_and]
  apply and_congr_right
  intro increasing
  constructor
  · intro before last isLast
    exact before last (List.mem_of_getLast? isLast)
  · intro after sample member
    rcases List.eq_nil_or_concat samples with rfl | ⟨front, last, rfl⟩
    · cases member
    · rw [List.concat_eq_append] at increasing after member
      have bound := after last (by simp)
      rcases List.mem_append.mp member with earlier | here
      · have order := (List.pairwise_append.mp increasing).2.2 sample earlier last (by simp)
        exact order.trans bound
      · rw [List.mem_singleton.mp here]
        exact bound

end Received

/-! ## A run -/

section Run

/-- Every feedback frame can be decoded. -/
def Decodes (audit : DamiaoRxAudit) (frame : ReceivedCanFrame) : Prop :=
  frame.key ∈ audit.feedbackKeys → ∃ feedback, audit.decoder.decode frame = .ok feedback

/-- What the trace of some frames tells about them. -/
structure Recorded (audit : DamiaoRxAudit) (frames : List ReceivedCanFrame) (trace : RxTrace) :
    Prop where
  samples : ∀ name, trace.samples name = audit.received frames name
  errors : trace.errors = [] ↔ ∀ name, Increasing (audit.received frames name) ∧
    ∀ sample ∈ audit.received frames name, sample.statusCode = 0 ∨ sample.statusCode = 1
  unexpected : trace.unexpectedKeys = [] ↔ ∀ frame ∈ frames, audit.Known frame

variable {frames rest : List ReceivedCanFrame} {frame : ReceivedCanFrame}
  {feedback : DamiaoFeedback} {trace : RxTrace}

theorem recorded_empty : Recorded audit [] RxTrace.empty := by
  constructor
  · intro name
    rfl
  · simp [RxTrace.empty, received, feedbackOf, Increasing]
  · simp [RxTrace.empty]

/-- A sample adds no error when it is later than the one before and healthy. -/
theorem record_errors_eq_nil : (trace.record feedback).errors = [] ↔ trace.errors = [] ∧
    (∀ last ∈ (trace.samples feedback.motorName).getLast?,
      last.hardwareTimestampNs < feedback.hardwareTimestampNs) ∧
    (feedback.statusCode = 0 ∨ feedback.statusCode = 1) := by
  rw [RxTrace.record]
  cases (trace.samples feedback.motorName).getLast? with
  | none => simp [or_iff_not_imp_left]
  | some last => simp [or_iff_not_imp_left]

theorem Recorded.record (recorded : Recorded audit frames trace)
    (decoded : audit.decoder.decode frame = .ok feedback) :
    Recorded audit (frames ++ [frame]) (trace.record feedback) := by
  constructor
  · intro name
    rw [received_append_feedback decoded, RxTrace.record]
    by_cases own : feedback.motorName = name
    · subst own
      rw [if_pos rfl, ← recorded.samples]
      exact Function.update_self ..
    · rw [if_neg own, ← recorded.samples]
      exact Function.update_of_ne (Ne.symm own) ..
  · rw [record_errors_eq_nil, recorded.errors, recorded.samples]
    constructor
    · rintro ⟨before, later, healthy⟩ name
      rw [received_append_feedback decoded]
      obtain ⟨increasing, fine⟩ := before name
      by_cases own : feedback.motorName = name
      · subst own
        rw [if_pos rfl, increasing_append_singleton]
        refine ⟨⟨increasing, later⟩, ?_⟩
        intro sample member
        rcases List.mem_append.mp member with earlier | here
        · exact fine sample earlier
        · rw [List.mem_singleton.mp here]
          exact healthy
      · rw [if_neg own]
        exact ⟨increasing, fine⟩
    · intro after
      refine ⟨?_, ?_⟩
      · intro name
        have here := after name
        rw [received_append_feedback decoded] at here
        by_cases own : feedback.motorName = name
        · rw [if_pos own, increasing_append_singleton] at here
          exact ⟨here.1.1, fun sample member => here.2 sample (List.mem_append_left _ member)⟩
        · rwa [if_neg own] at here
      · have here := after feedback.motorName
        rw [received_append_feedback decoded, if_pos rfl, increasing_append_singleton] at here
        exact ⟨here.1.2, here.2 feedback (by simp)⟩
  · obtain ⟨endpoint, member, key, -⟩ := exists_endpoint_of_decode decoded
    have known : audit.Known frame := .inl (key ▸ List.mem_map_of_mem member)
    have kept : (trace.record feedback).unexpectedKeys = trace.unexpectedKeys := rfl
    rw [kept, recorded.unexpected, List.forall_mem_append]
    simp [known]

theorem Recorded.other (recorded : Recorded audit frames trace)
    (other : frame.key ∉ audit.feedbackKeys) {final : RxTrace}
    (samples : final.samples = trace.samples) (errors : final.errors = trace.errors)
    (keys : final.unexpectedKeys = [] ↔ trace.unexpectedKeys = [] ∧ audit.Known frame) :
    Recorded audit (frames ++ [frame]) final := by
  constructor
  · intro name
    rw [samples, received_append_other other, recorded.samples]
  · rw [errors, recorded.errors]
    simp only [received_append_other other]
  · rw [keys, recorded.unexpected, List.forall_mem_append]
    simp

theorem Recorded.ingestBusFrame (recorded : Recorded audit frames trace)
    (decodes : audit.Decodes frame) :
    ∃ result final, audit.ingestBusFrame frame trace = (.done result, final) ∧
      Recorded audit (frames ++ [frame]) final := by
  by_cases fed : frame.key ∈ audit.feedbackKeys
  · obtain ⟨feedback, decoded⟩ := decodes fed
    refine ⟨some feedback, trace.record feedback, ?_, recorded.record decoded⟩
    rw [DamiaoRxAudit.ingestBusFrame, if_pos fed, ingest, decoded]
    rfl
  · by_cases commanded : frame.key ∈ audit.commandKeys
    · refine ⟨none, { trace with observedControlFrames := trace.observedControlFrames + 1 }, ?_,
        recorded.other fed rfl rfl ?_⟩
      · rw [DamiaoRxAudit.ingestBusFrame, if_neg fed, if_pos commanded]
        rfl
      · simp [Known, commanded]
    · refine ⟨none, { trace with unexpectedKeys := trace.unexpectedKeys.insert frame.key }, ?_,
        recorded.other fed rfl rfl ?_⟩
      · rw [DamiaoRxAudit.ingestBusFrame, if_neg fed, if_neg commanded]
        rfl
      · have inserted : frame.key ∈ trace.unexpectedKeys.insert frame.key := List.mem_insert_self
        have unknown : ¬audit.Known frame := not_or.mpr ⟨fed, commanded⟩
        refine iff_of_false ?_ fun both => unknown both.2
        intro empty
        have none : trace.unexpectedKeys.insert frame.key = [] := empty
        rw [none] at inserted
        cases inserted

/-- The frames are recorded one after the other. -/
theorem Recorded.ingestAll (decodes : ∀ frame ∈ rest, audit.Decodes frame) :
    ∀ {frames trace}, Recorded audit frames trace →
      ∃ final, audit.ingestAll rest trace = (.done (), final) ∧
        Recorded audit (frames ++ rest) final := by
  induction rest with
  | nil =>
      intro frames trace recorded
      refine ⟨trace, rfl, ?_⟩
      rwa [List.append_nil]
  | cons frame rest ih =>
      intro frames trace recorded
      obtain ⟨here, later⟩ := List.forall_mem_cons.mp decodes
      obtain ⟨result, middle, first, known⟩ := recorded.ingestBusFrame here
      obtain ⟨final, others, all⟩ := ih later known
      refine ⟨final, ?_, ?_⟩
      · rw [DamiaoRxAudit.ingestAll, Program.forEach, Program.bind_assoc,
          Program.bind_apply_done first]
        exact others
      · rwa [List.append_assoc] at all

end Run

/-! ## The verdict -/

section Verdict

variable {frames reordered : List ReceivedCanFrame} {trace other : RxTrace}

theorem passed_iff : (audit.report fixed trace).passed ↔ trace.errors = [] ∧
    trace.unexpectedKeys = [] ∧ (∀ name ∈ audit.expected, trace.samples name ≠ []) ∧
    ∀ name ∈ audit.expected, trace.samples name ≠ [] →
      audit.motorErrors fixed name (trace.samples name) = [] := by
  have sorted : trace.unexpectedKeys.insertionSort keyLe = [] ↔ trace.unexpectedKeys = [] := by
    rw [← List.length_eq_zero_iff, List.length_insertionSort, List.length_eq_zero_iff]
  simp only [DamiaoRxAuditReport.passed, report, List.append_eq_nil_iff, List.map_eq_nil_iff, sorted,
    List.flatMap_eq_nil_iff, errorIf_eq_nil, not_not, List.filter_eq_nil_iff, List.mem_filter,
    List.isEmpty_iff, Bool.not_eq_true', List.isEmpty_eq_false_iff, and_imp, and_assoc]
  tauto

/-- Every condition is noticed while the frames come in or in the report. -/
theorem Recorded.passed_iff_clean (recorded : Recorded audit frames trace) :
    (audit.report fixed trace).passed ↔ audit.Clean frames := by
  rw [passed_iff, recorded.errors, recorded.unexpected, Clean]
  simp only [recorded.samples]
  constructor
  · rintro ⟨noticed, known, present, reported⟩
    refine ⟨?_, known⟩
    intro name member
    obtain ⟨increasing, healthy⟩ := noticed name
    have nonempty := present name member
    obtain ⟨enough, rate, gap, queueAge⟩ :=
      (motorErrors_eq_nil_iff increasing nonempty).mp (reported name member nonempty)
    exact { enough, increasing, rate, gap, queueAge, healthy }
  · rintro ⟨passes, known⟩
    refine ⟨?_, known, ?_, ?_⟩
    · intro name
      by_cases member : name ∈ audit.expected
      · exact ⟨(passes name member).increasing, (passes name member).healthy⟩
      · rw [received_eq_nil member]
        exact ⟨List.Pairwise.nil, by simp⟩
    · intro name member empty
      have enough := (passes name member).enough
      have positive := audit.samplesPositive
      rw [empty, List.length_nil] at enough
      omega
    · intro name member nonempty
      obtain ⟨enough, increasing, rate, gap, queueAge, -⟩ := passes name member
      exact (motorErrors_eq_nil_iff increasing nonempty).mpr ⟨enough, rate, gap, queueAge⟩

/-- Among distinct names the samples of a motor come from the frames of its endpoint. -/
theorem received_eq_feedbackOf_own
    (names : (audit.decoder.endpoints.map DamiaoFeedbackEndpoint.motorName).Nodup)
    {endpoint : DamiaoFeedbackEndpoint} (member : endpoint ∈ audit.decoder.endpoints) :
    audit.received frames endpoint.motorName =
      audit.feedbackOf (frames.filter fun frame => frame.key = endpoint.feedbackKey) := by
  induction frames with
  | nil => rfl
  | cons frame rest ih =>
      rw [received] at ih ⊢
      cases decoded : audit.decoder.decode frame with
      | error error =>
          rw [feedbackOf_cons_error decoded, ih]
          by_cases own : frame.key = endpoint.feedbackKey
          · rw [List.filter_cons_of_pos (by simpa using own), feedbackOf_cons_error decoded]
          · rw [List.filter_cons_of_neg (by simpa using own)]
      | ok feedback =>
          obtain ⟨source, inEndpoints, key, named⟩ := exists_endpoint_of_decode decoded
          have same : feedback.motorName = endpoint.motorName ↔
              frame.key = endpoint.feedbackKey := by
            rw [named, ← key]
            constructor
            · intro sameName
              rw [List.inj_on_of_nodup_map names inEndpoints member sameName]
            · intro sameKey
              rw [List.inj_on_of_nodup_map audit.decoder.distinct inEndpoints member sameKey]
          rw [feedbackOf_cons_ok decoded]
          by_cases own : frame.key = endpoint.feedbackKey
          · rw [List.filter_cons_of_pos (by simpa using same.mpr own),
              List.filter_cons_of_pos (by simpa using own), feedbackOf_cons_ok decoded, ih]
          · rw [List.filter_cons_of_neg (by simpa [same] using own),
              List.filter_cons_of_neg (by simpa using own), ih]

/-- Only the order of each motor's own frames counts. -/
theorem received_eq_of_own
    (names : (audit.decoder.endpoints.map DamiaoFeedbackEndpoint.motorName).Nodup)
    (own : ∀ endpoint ∈ audit.decoder.endpoints,
      reordered.filter (fun frame => frame.key = endpoint.feedbackKey) =
        frames.filter fun frame => frame.key = endpoint.feedbackKey) (name : String) :
    audit.received reordered name = audit.received frames name := by
  by_cases member : name ∈ audit.expected
  · obtain ⟨endpoint, inEndpoints, rfl⟩ := mem_expected.mp member
    rw [received_eq_feedbackOf_own names inEndpoints, own endpoint inEndpoints,
      received_eq_feedbackOf_own names inEndpoints]
  · rw [received_eq_nil member, received_eq_nil member]

theorem report_motorStats_eq (same : ∀ name, other.samples name = trace.samples name) :
    (audit.report fixed other).motorStats = (audit.report fixed trace).motorStats := by
  simp only [report, same]

end Verdict

end DamiaoRxAudit

/-- The verdict on a trace says what it should, and it does not depend on how the frames of
different motors are interleaved. -/
theorem rxAudit_exact (audit : DamiaoRxAudit) (fixed : WithTop ℚ → String)
    (names : (audit.decoder.endpoints.map DamiaoFeedbackEndpoint.motorName).Nodup)
    (frames : List ReceivedCanFrame) (decodes : ∀ frame ∈ frames, audit.Decodes frame) :
    ∃ trace, audit.ingestAll frames RxTrace.empty = (.done (), trace) ∧
      ((audit.report fixed trace).passed ↔ audit.Clean frames) ∧
      ∀ reordered : List ReceivedCanFrame, reordered.Perm frames →
        (∀ endpoint ∈ audit.decoder.endpoints,
          reordered.filter (fun frame => frame.key = endpoint.feedbackKey) =
            frames.filter fun frame => frame.key = endpoint.feedbackKey) →
        ∃ other, audit.ingestAll reordered RxTrace.empty = (.done (), other) ∧
          ((audit.report fixed other).passed ↔ (audit.report fixed trace).passed) ∧
          (audit.report fixed other).motorStats = (audit.report fixed trace).motorStats := by
  obtain ⟨trace, run, recorded⟩ := DamiaoRxAudit.recorded_empty.ingestAll decodes
  rw [List.nil_append] at recorded
  refine ⟨trace, run, recorded.passed_iff_clean, ?_⟩
  intro reordered permuted own
  have decodesToo : ∀ frame ∈ reordered, audit.Decodes frame :=
    fun frame member => decodes frame (permuted.mem_iff.mp member)
  obtain ⟨other, otherRun, otherRecorded⟩ := DamiaoRxAudit.recorded_empty.ingestAll decodesToo
  rw [List.nil_append] at otherRecorded
  have received := DamiaoRxAudit.received_eq_of_own names own
  refine ⟨other, otherRun, ?_, ?_⟩
  · rw [otherRecorded.passed_iff_clean, recorded.passed_iff_clean, DamiaoRxAudit.Clean,
      DamiaoRxAudit.Clean]
    simp only [received, permuted.mem_iff]
  · apply DamiaoRxAudit.report_motorStats_eq
    intro name
    rw [otherRecorded.samples, recorded.samples, received]

/-! ## Two motors on two buses -/

def auditedRanges : DamiaoMitRanges where
  positionRad := (-12, 12)
  velocityRadS := (-30, 30)
  torqueNm := (-10, 10)
  source := .motorRegisterReadback
  positionOrdered := by decide +kernel
  velocityOrdered := by decide +kernel
  torqueOrdered := by decide +kernel

def headYawEndpoint : DamiaoFeedbackEndpoint where
  motorName := "head_yaw_motor"
  interface := "kcan3"
  canId := 8
  masterId := 24
  ranges := auditedRanges
  named := by decide
  canIdRange := by decide
  masterIdRange := by decide

def wristRollEndpoint : DamiaoFeedbackEndpoint where
  motorName := "right_wrist_roll_motor"
  interface := "kcan4"
  canId := 7
  masterId := 23
  ranges := auditedRanges
  named := by decide
  canIdRange := by decide
  masterIdRange := by decide

def twoMotorAudit : DamiaoRxAudit where
  decoder := ⟨[headYawEndpoint, wristRollEndpoint], by decide, by decide⟩
  minimumSamplesPerMotor := 2
  minimumFeedbackHz := 475
  maximumHardwareGapMs := 6
  maximumUserspaceQueueAgeP99Ms := 6
  apart := by decide
  samplesPositive := by decide
  limitsPositive := by decide +kernel

/-- A frame of a motor that stands still, in the middle of its ranges. -/
def restingFrame (interface : String) (canId : ℕ) (state : UInt8) (timestampNs : ℤ) :
    ReceivedCanFrame :=
  { interface, canId, data := [state, 0x80, 0, 0x80, 8, 0, 30, 30]
    isExtended := false, isRemote := false, isError := false, isFd := false
    bitRateSwitch := false
    softwareTimestampNs := timestampNs
    hardwareTimestampNs := timestampNs
    userspaceReceiveTimestampNs := timestampNs + 100000 }

def twoMotorFrames : List ReceivedCanFrame :=
  [restingFrame "kcan3" 24 0x18 1000000, restingFrame "kcan4" 23 0x17 1100000,
    restingFrame "kcan3" 24 0x18 3000000, restingFrame "kcan3" 8 0xFF 3050000,
    restingFrame "kcan4" 23 0x17 3100000]

theorem twoMotorFrames_decode : ∀ frame ∈ twoMotorFrames, twoMotorAudit.Decodes frame := by
  have accepted : ∀ frame ∈ twoMotorFrames, frame.key ∈ twoMotorAudit.feedbackKeys →
      (twoMotorAudit.decoder.decode frame).isOk = true := by
    decide +kernel
  intro frame member fed
  exact exists_ok_of_isOk (accepted frame member fed)

theorem rxAudit_exact_twoMotors : ∃ trace,
    twoMotorAudit.ingestAll twoMotorFrames RxTrace.empty = (.done (), trace) ∧
      ((twoMotorAudit.report (fun _ => "") trace).passed ↔ twoMotorAudit.Clean twoMotorFrames) := by
  obtain ⟨trace, run, verdict, -⟩ := rxAudit_exact twoMotorAudit (fun _ => "") (by decide)
    twoMotorFrames twoMotorFrames_decode
  exact ⟨trace, run, verdict⟩

end SpriteRuntime
