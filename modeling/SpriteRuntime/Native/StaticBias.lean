import SpriteRuntime.Foundation.ProgramSteps
import SpriteRuntime.Foundation.RunningMoments
import SpriteRuntime.Native.ImuPacket

/-!
# The startup bias

`StaticBias` keeps the means and the squared deviations of the samples at rest while they come
in.  Numbers are exact, so the samples pass the check for infinities and NaNs; only a division by
a counter that has wrapped to zero gives none.
-/

namespace SpriteRuntime

open Foundation

variable {K : Type} [Field K]

/-- `length`. -/
def vectorLength [LinearOrder K] [SquareRoots K] (v : Fin 3 → K) : K :=
  SquareRoots.sqrt (v 0 * v 0 + v 1 * v 1 + v 2 * v 2)

/-- A sample at rest. -/
structure BiasSample (K : Type) where
  a : Fin 3 → K
  w : Fin 3 → K
  timestamp : UInt64

/-- A number, or none for an infinity or a NaN. -/
abbrev Accumulated (K : Type) : Type := Option K

structure StaticBias (K : Type) where
  aMean : Fin 3 → Accumulated K
  wMean : Fin 3 → Accumulated K
  aM2 : Fin 3 → Accumulated K
  wM2 : Fin 3 → Accumulated K
  first : UInt64
  last : UInt64
  n : UInt32

namespace StaticBias

/-- A new object. -/
def initial : StaticBias K :=
  ⟨fun _ => some 0, fun _ => some 0, fun _ => some 0, fun _ => some 0, 0, 0, 0⟩

/-- A quotient by a counter. -/
def quotient (x : K) (n : UInt32) : Accumulated K :=
  if n = 0 then none else some (x / (n.toNat : K))

/-- `mean += (x - mean) / n`. -/
def meanStep (n : UInt32) (x : K) (mean : Accumulated K) : Accumulated K := do
  let old ← mean
  let change ← quotient (x - old) n
  return old + change

/-- `m2 += (x - old) * (x - new)`. -/
def momentStep (x : K) (oldMean newMean m2 : Accumulated K) : Accumulated K := do
  let old ← oldMean
  let new ← newMean
  let sum ← m2
  return sum + (x - old) * (x - new)

/-- The loop over the three axes, which do not touch each other. -/
def accumulate (sample : BiasSample K) (bias : StaticBias K) : StaticBias K :=
  let aMean := fun axis => meanStep bias.n (sample.a axis) (bias.aMean axis)
  let wMean := fun axis => meanStep bias.n (sample.w axis) (bias.wMean axis)
  { bias with
    aMean
    wMean
    aM2 := fun axis => momentStep (sample.a axis) (bias.aMean axis) (aMean axis) (bias.aM2 axis)
    wM2 := fun axis => momentStep (sample.w axis) (bias.wMean axis) (wMean axis) (bias.wM2 axis) }

theorem meanStep_some {n : UInt32} (counted : n ≠ 0) (x old : K) :
    meanStep n x (some old) = some (old + (x - old) / (n.toNat : K)) := by
  simp [meanStep, quotient, counted]

/-- Where the counter has wrapped to zero, the mean is lost. -/
theorem meanStep_zero (x : K) (mean : Accumulated K) : meanStep 0 x mean = none := by
  cases mean with
  | none => rfl
  | some old => rfl

/-- The check of the time stamps. -/
def GapFailure (bias : StaticBias K) (timestamp : UInt64) : Prop :=
  timestamp = 0 ∨ bias.last ≠ 0 ∧ (timestamp ≤ bias.last ∨ 30000000 < timestamp - bias.last)

instance (bias : StaticBias K) (timestamp : UInt64) : Decidable (bias.GapFailure timestamp) := by
  unfold GapFailure
  infer_instance

/-- `ready`. -/
def ready (bias : StaticBias K) : Bool :=
  1400 ≤ bias.n && 15000000000 ≤ bias.last - bias.first

/-- The object after a sample. -/
def after (sample : BiasSample K) (bias : StaticBias K) : StaticBias K :=
  accumulate sample
    { bias with
      first := if bias.n = 0 then sample.timestamp else bias.first
      last := sample.timestamp
      n := bias.n + 1 }

variable {sample : BiasSample K} {bias next : StaticBias K} {samples : List (BiasSample K)}

/-! ## The samples so far -/

/-- What the object knows of the stamps and the number of its samples. -/
structure Counted (samples : List (BiasSample K)) (bias : StaticBias K) : Prop where
  n : bias.n.toNat = samples.length % 2 ^ 32
  empty : samples = [] → bias.last = 0
  last : ∀ sample, samples.getLast? = some sample → bias.last = sample.timestamp
  nonzero : ∀ sample ∈ samples, sample.timestamp ≠ 0
  gaps : samples.IsChain fun left right =>
    left.timestamp.toNat < right.timestamp.toNat ∧
      right.timestamp.toNat - left.timestamp.toNat ≤ 30000000

/-- The accumulators hold the batch statistics. -/
structure Moments (samples : List (BiasSample K)) (bias : StaticBias K) : Prop where
  aMean : ∀ axis, bias.aMean axis = some (mean (samples.map fun sample => sample.a axis))
  wMean : ∀ axis, bias.wMean axis = some (mean (samples.map fun sample => sample.w axis))
  aM2 : ∀ axis, bias.aM2 axis = some (deviations (samples.map fun sample => sample.a axis))
  wM2 : ∀ axis, bias.wM2 axis = some (deviations (samples.map fun sample => sample.w axis))
  first : ∀ sample, samples.head? = some sample → bias.first = sample.timestamp
  ordered : bias.first.toNat ≤ bias.last.toNat

theorem counted_initial : Counted [] (initial : StaticBias K) := by
  constructor <;> simp [initial]

theorem moments_initial : Moments [] (initial : StaticBias K) := by
  constructor <;> simp [initial]

omit [Field K] in
/-- Past the check of the stamps, a stamp is above the last one and not far. -/
theorem Counted.gap (counted : Counted samples bias) {timestamp : UInt64}
    (fresh : ¬bias.GapFailure timestamp) {latest : BiasSample K}
    (atEnd : samples.getLast? = some latest) :
    latest.timestamp.toNat < timestamp.toNat ∧
      timestamp.toNat - latest.timestamp.toNat ≤ 30000000 := by
  have lastEq := counted.last latest atEnd
  have known : bias.last ≠ 0 := by
    rw [lastEq]
    exact counted.nonzero latest (List.mem_of_getLast? atEnd)
  have inside : ¬(timestamp ≤ latest.timestamp ∨ 30000000 < timestamp - latest.timestamp) := by
    rw [← lastEq]
    exact fun outside => fresh (.inr ⟨known, outside⟩)
  obtain ⟨notBefore, notFar⟩ := not_or.mp inside
  have above := UInt64.not_le.mp notBefore
  have near := UInt64.le_iff_toNat_le.mp (UInt64.not_lt.mp notFar)
  rw [UInt64.toNat_sub_of_le _ _ (UInt64.le_of_lt above)] at near
  exact ⟨UInt64.lt_iff_toNat_lt.mp above, near⟩

theorem Counted.step (counted : Counted samples bias)
    (fresh : ¬bias.GapFailure sample.timestamp) :
    Counted (samples ++ [sample]) (after sample bias) := by
  constructor
  · have size : (bias.n + 1).toNat = (samples.length + 1) % 2 ^ 32 := by
      rw [UInt32.toNat_add, counted.n]
      simp
    simpa [after, accumulate] using size
  · intro none
    exact absurd none (by simp)
  · intro other atEnd
    rw [List.getLast?_append_of_ne_nil _ (by simp)] at atEnd
    cases atEnd
    rfl
  · intro other member
    rcases List.mem_append.mp member with old | new
    · exact counted.nonzero other old
    · rw [List.mem_singleton.mp new]
      exact fun zero => fresh (.inl zero)
  · rw [List.isChain_append]
    refine ⟨counted.gaps, List.isChain_singleton sample, ?_⟩
    intro latest atEnd other head
    cases head
    exact counted.gap fresh atEnd

/-- Below the range of the counter the steps keep the batch statistics. -/
theorem Moments.step [CharZero K] (counted : Counted samples bias) (moments : Moments samples bias)
    (small : samples.length + 1 < 2 ^ 32) (fresh : ¬bias.GapFailure sample.timestamp) :
    Moments (samples ++ [sample]) (after sample bias) := by
  have size : (bias.n + 1).toNat = samples.length + 1 := by
    rw [UInt32.toNat_add, counted.n]
    simp
    omega
  have running : bias.n + 1 ≠ 0 := by
    intro zero
    rw [zero] at size
    exact absurd size (by simp)
  have empty_iff : bias.n = 0 ↔ samples = [] := by
    have old : bias.n.toNat = samples.length := by
      rw [counted.n]
      exact Nat.mod_eq_of_lt (by omega)
    rw [← List.length_eq_zero_iff, ← old]
    exact UInt32.toNat_inj.symm
  have meanAfter (part : BiasSample K → Fin 3 → K) (axis : Fin 3) :
      meanStep (bias.n + 1) (part sample axis)
          (some (mean (samples.map fun sample => part sample axis))) =
        some (mean ((samples ++ [sample]).map fun sample => part sample axis)) := by
    rw [meanStep_some running, size, List.map_append, List.map_singleton, mean_snoc,
      List.length_map]
    push_cast
    rfl
  have momentAfter (part : BiasSample K → Fin 3 → K) (axis : Fin 3) :
      momentStep (part sample axis)
          (some (mean (samples.map fun sample => part sample axis)))
          (some (mean ((samples ++ [sample]).map fun sample => part sample axis)))
          (some (deviations (samples.map fun sample => part sample axis))) =
        some (deviations ((samples ++ [sample]).map fun sample => part sample axis)) := by
    rw [List.map_append, List.map_singleton, deviations_snoc]
    rfl
  constructor
  · intro axis
    rw [← meanAfter BiasSample.a axis, ← moments.aMean axis]
    rfl
  · intro axis
    rw [← meanAfter BiasSample.w axis, ← moments.wMean axis]
    rfl
  · intro axis
    rw [← momentAfter BiasSample.a axis, ← meanAfter BiasSample.a axis, ← moments.aMean axis,
      ← moments.aM2 axis]
    rfl
  · intro axis
    rw [← momentAfter BiasSample.w axis, ← meanAfter BiasSample.w axis, ← moments.wMean axis,
      ← moments.wM2 axis]
    rfl
  · intro other head
    by_cases empty : samples = []
    · subst empty
      cases head
      exact if_pos (empty_iff.mpr rfl)
    · have inside : samples.head? = some other := by
        rw [← head, List.head?_append_of_ne_nil _ empty]
      rw [← moments.first other inside]
      exact if_neg fun zero => empty (empty_iff.mp zero)
  · by_cases empty : samples = []
    · have first : (after sample bias).first = sample.timestamp := if_pos (empty_iff.mpr empty)
      rw [first]
      exact Nat.le_refl _
    · have first : (after sample bias).first = bias.first :=
        if_neg fun zero => empty (empty_iff.mp zero)
      have atEnd := List.getLast?_eq_some_getLast empty
      have above := (counted.gap fresh atEnd).1
      rw [← counted.last _ atEnd] at above
      rw [first]
      exact moments.ordered.trans above.le

/-! ## The checks -/

variable [LinearOrder K] [SquareRoots K]

/-- `std::sqrt(m2 / (n - 1)) > bound`, which no comparison with a NaN satisfies. -/
def Scatters (bound : K) (n : UInt32) (m2 : Accumulated K) : Prop :=
  ∃ sum, m2 = some sum ∧ bound < SquareRoots.sqrt (sum / ((n - 1).toNat : K))

instance (bound : K) (n : UInt32) : DecidablePred (Scatters bound n)
  | none => .isFalse fun ⟨_, same, _⟩ => nomatch same
  | some sum => decidable_of_iff (bound < SquareRoots.sqrt (sum / ((n - 1).toNat : K)))
      ⟨fun above => ⟨sum, rfl, above⟩, fun ⟨_, same, above⟩ => Option.some.inj same ▸ above⟩

/-- The check that the sensor is at rest. -/
def Moves (sample : BiasSample K) : Prop :=
  1 / 10 * standardGravity < |vectorLength sample.a - standardGravity| ∨
    1 / 10 < vectorLength sample.w

instance (sample : BiasSample K) : Decidable (Moves sample) := by
  unfold Moves
  infer_instance

/-- The check of the scatter. -/
def Restless (bias : StaticBias K) : Prop :=
  ∃ axis, Scatters (15 / 100) bias.n (bias.aM2 axis) ∨ Scatters (5 / 1000) bias.n (bias.wM2 axis)

instance (bias : StaticBias K) : Decidable bias.Restless := by
  unfold Restless
  infer_instance

def add (sample : BiasSample K) : Program (StaticBias K) String Unit := do
  let bias ← Program.get
  Program.throwIf (bias.GapFailure sample.timestamp) "bias sampling timestamp/gap"
  Program.throwIf (Moves sample) "keep IMU still for startup bias calibration"
  Program.runIf (bias.n = 0)
    (Program.modify fun bias => { bias with first := sample.timestamp })
  Program.modify fun bias => { bias with last := sample.timestamp, n := bias.n + 1 }
  Program.modify (accumulate sample)
  let bias ← Program.get
  Program.runIf (50 < bias.n)
    (Program.throwIf bias.Restless "startup bias window is not stationary")

theorem add_eq_done_iff :
    add sample bias = (.done (), next) ↔
      ¬bias.GapFailure sample.timestamp ∧ ¬Moves sample ∧
        ¬(50 < (after sample bias).n ∧ (after sample bias).Restless) ∧
        next = after sample bias := by
  have stamping : Program.runIf (ε := String) (bias.n = 0)
      (Program.modify fun bias => { bias with first := sample.timestamp }) bias =
        (.done (),
          { bias with first := if bias.n = 0 then sample.timestamp else bias.first }) := by
    rw [Program.runIf]
    split
    · rfl
    · rfl
  have checking : Program.runIf (50 < (after sample bias).n)
      (Program.throwIf (after sample bias).Restless "startup bias window is not stationary")
        (after sample bias) = (.done (), next) ↔
      ¬(50 < (after sample bias).n ∧ (after sample bias).Restless) ∧
        next = after sample bias := by
    rw [Program.runIf]
    split
    next many => rw [Program.throwIf_eq_done_iff]; simp only [many, true_and]
    next few =>
        rw [Program.pure_eq_done_iff]
        simp only [few, false_and, not_false_eq_true, true_and]
  unfold add
  rw [Program.bind_apply_done (Program.get_apply bias), Program.bind_eq_done_iff]
  constructor
  · rintro ⟨_, _, first, rest⟩
    obtain ⟨fresh, rfl⟩ := Program.throwIf_eq_done_iff.mp first
    obtain ⟨_, _, second, rest⟩ := Program.bind_eq_done_iff.mp rest
    obtain ⟨still, rfl⟩ := Program.throwIf_eq_done_iff.mp second
    rw [Program.bind_apply_done stamping, Program.bind_apply_done (Program.modify_apply _ _),
      Program.bind_apply_done (Program.modify_apply _ _),
      Program.bind_apply_done (Program.get_apply _)] at rest
    exact ⟨fresh, still, checking.mp rest⟩
  · rintro ⟨fresh, still, last⟩
    refine ⟨(), bias, Program.throwIf_eq_done_iff.mpr ⟨fresh, rfl⟩,
      Program.bind_eq_done_iff.mpr ⟨(), bias, Program.throwIf_eq_done_iff.mpr ⟨still, rfl⟩, ?_⟩⟩
    rw [Program.bind_apply_done stamping, Program.bind_apply_done (Program.modify_apply _ _),
      Program.bind_apply_done (Program.modify_apply _ _),
      Program.bind_apply_done (Program.get_apply _)]
    exact checking.mpr last

/-! ## A run -/

/-- Samples that were all accepted: the counter and the stamps, and, while the counter has not
wrapped, the statistics and the last check of the scatter.  Once it has wrapped, no mean is left. -/
theorem run_accepted [CharZero K]
    (accepted : Program.forEach samples add (initial : StaticBias K) = (.done (), bias)) :
    Counted samples bias ∧
      (samples.length < 2 ^ 32 → Moments samples bias ∧ ¬(50 < bias.n ∧ bias.Restless)) ∧
      (2 ^ 32 ≤ samples.length → ∀ axis, bias.aMean axis = none) := by
  induction samples using List.reverseRecOn generalizing bias with
  | nil =>
      cases accepted
      have few : ¬(50 : UInt32) < 0 := by decide
      refine ⟨counted_initial, fun _ => ⟨moments_initial, ?_⟩, fun large => absurd large (by simp)⟩
      exact fun ⟨many, _⟩ => few many
  | append_singleton samples sample induction =>
      rw [Program.forEach_append] at accepted
      obtain ⟨_, middle, first, last⟩ := Program.bind_eq_done accepted
      obtain ⟨_, final, ran, nothing⟩ := Program.bind_eq_done last
      cases nothing
      obtain ⟨counted, below, lost⟩ := induction first
      obtain ⟨fresh, _, still, rfl⟩ := add_eq_done_iff.mp ran
      refine ⟨counted.step fresh, ?_, ?_⟩
      · intro small
        rw [List.length_append, List.length_singleton] at small
        exact ⟨(below (Nat.lt_of_succ_lt small)).1.step counted small fresh, still⟩
      · intro large axis
        rw [List.length_append, List.length_singleton] at large
        by_cases already : 2 ^ 32 ≤ samples.length
        · have old := lost already axis
          change meanStep (middle.n + 1) (sample.a axis) (middle.aMean axis) = none
          rw [old]
          rfl
        · have wrapped : middle.n + 1 = 0 := by
            apply UInt32.toNat_inj.mp
            rw [UInt32.toNat_add, counted.n]
            simp
            omega
          change meanStep (middle.n + 1) (sample.a axis) (middle.aMean axis) = none
          rw [wrapped, meanStep_zero]

/-- The time from the first sample to the last. -/
def span (samples : List (BiasSample K)) : ℕ :=
  match samples.head?, samples.getLast? with
  | some first, some last => last.timestamp.toNat - first.timestamp.toNat
  | _, _ => 0

/-- The object holds the statistics of its samples as a batch. -/
structure BatchStatistics (samples : List (BiasSample K)) (bias : StaticBias K) : Prop where
  aMean : ∀ axis, bias.aMean axis = some (mean (samples.map fun sample => sample.a axis))
  wMean : ∀ axis, bias.wMean axis = some (mean (samples.map fun sample => sample.w axis))
  aM2 : ∀ axis, bias.aM2 axis = some (deviations (samples.map fun sample => sample.a axis))
  wM2 : ∀ axis, bias.wM2 axis = some (deviations (samples.map fun sample => sample.w axis))
  ready : bias.ready = true ↔ 1400 ≤ samples.length ∧ 15000000000 ≤ span samples
  gaps : samples.IsChain fun left right =>
    left.timestamp.toNat < right.timestamp.toNat ∧
      right.timestamp.toNat - left.timestamp.toNat ≤ 30000000
  scatter : 50 < samples.length → ∀ axis,
    SquareRoots.sqrt (deviations (samples.map fun sample => sample.a axis) /
        ((samples.length - 1 : ℕ) : K)) ≤ 15 / 100 ∧
      SquareRoots.sqrt (deviations (samples.map fun sample => sample.w axis) /
        ((samples.length - 1 : ℕ) : K)) ≤ 5 / 1000

theorem batchStatistics (small : samples.length < 2 ^ 32) (counted : Counted samples bias)
    (moments : Moments samples bias) (still : ¬(50 < bias.n ∧ bias.Restless)) :
    BatchStatistics samples bias := by
  have size : bias.n.toNat = samples.length := by
    rw [counted.n]
    exact Nat.mod_eq_of_lt small
  refine ⟨moments.aMean, moments.wMean, moments.aM2, moments.wM2, ?_, counted.gaps, ?_⟩
  · have enough : 1400 ≤ bias.n ↔ 1400 ≤ samples.length := by
      rw [UInt32.le_iff_toNat_le, size]
      rfl
    have distance : (bias.last - bias.first).toNat = span samples := by
      rw [UInt64.toNat_sub_of_le _ _ (UInt64.le_iff_toNat_le.mpr moments.ordered)]
      by_cases empty : samples = []
      · subst empty
        rw [counted.empty rfl]
        exact Nat.zero_sub _
      · have atStart := List.head?_eq_some_head empty
        have atEnd := List.getLast?_eq_some_getLast empty
        rw [span, atStart, atEnd, counted.last _ atEnd, moments.first _ atStart]
    have long : 15000000000 ≤ bias.last - bias.first ↔ 15000000000 ≤ span samples := by
      rw [UInt64.le_iff_toNat_le, distance]
      rfl
    rw [ready, Bool.and_eq_true, decide_eq_true_iff, decide_eq_true_iff, enough, long]
  · intro many axis
    have calm : ¬bias.Restless := by
      apply not_and.mp still
      rw [UInt32.lt_iff_toNat_lt, size]
      exact many
    have degrees : (bias.n - 1).toNat = samples.length - 1 := by
      have some : 1 ≤ bias.n := by
        rw [UInt32.le_iff_toNat_le, size]
        exact Nat.one_le_of_lt many
      rw [UInt32.toNat_sub_of_le _ _ some, size]
      rfl
    have bounded {bound : K} {m2 : Accumulated K} {sum : K} (held : m2 = some sum)
        (low : ¬Scatters bound bias.n m2) :
        SquareRoots.sqrt (sum / ((samples.length - 1 : ℕ) : K)) ≤ bound := by
      rw [← degrees]
      exact not_lt.mp fun above => low ⟨sum, held, above⟩
    constructor
    · exact bounded (moments.aM2 axis) fun high => calm ⟨axis, .inl high⟩
    · exact bounded (moments.wM2 axis) fun high => calm ⟨axis, .inr high⟩

end StaticBias

namespace StaticBias

/-- A sample of a sensor that does not move, a nanosecond after the last one. -/
noncomputable def restingSample (index : ℕ) : BiasSample ℝ :=
  ⟨![0, 0, standardGravity], fun _ => 0, UInt64.ofNat (index + 1)⟩

noncomputable def resting (count : ℕ) : List (BiasSample ℝ) :=
  (List.range count).map restingSample

theorem resting_succ (count : ℕ) :
    resting (count + 1) = resting count ++ [restingSample count] := by
  simp [resting, List.range_succ]

theorem length_resting (count : ℕ) : (resting count).length = count := by simp [resting]

theorem deviations_resting (part : BiasSample ℝ → Fin 3 → ℝ) (axis : Fin 3)
    (same : ∀ index, part (restingSample index) = part (restingSample 0)) (count : ℕ) :
    deviations ((resting count).map fun sample => part sample axis) = 0 := by
  have constant : (resting count).map (fun sample => part sample axis) =
      List.replicate count (part (restingSample 0) axis) := by
    simp [resting, Function.comp_def, same, List.map_const']
  rw [constant, deviations_replicate]

theorem not_moves_resting (index : ℕ) : ¬Moves (restingSample index) := by
  have positive : (0 : ℝ) ≤ standardGravity := by
    rw [standardGravity]
    norm_num
  have upright : vectorLength (restingSample index).a = standardGravity := by
    have square : vectorLength (restingSample index).a =
        SquareRoots.sqrt (standardGravity * standardGravity) := by
      simp [vectorLength, restingSample]
    rw [square, SquareRoots.sqrt_mul_self positive]
  have quiet : vectorLength (restingSample index).w = 0 := by
    have square : vectorLength (restingSample index).w = SquareRoots.sqrt (0 * 0) := by
      simp [vectorLength, restingSample]
    rw [square, SquareRoots.sqrt_mul_self (le_refl 0)]
  rw [Moves, upright, quiet, sub_self, abs_zero]
  rintro (off | turning)
  · linarith
  · norm_num at turning

theorem not_gapFailure_resting {count : ℕ} (small : count < 2 ^ 32) {bias : StaticBias ℝ}
    (counted : Counted (resting count) bias) :
    ¬bias.GapFailure (restingSample count).timestamp := by
  have stamp {index : ℕ} (bound : index < 2 ^ 32) :
      (UInt64.ofNat (index + 1)).toNat = index + 1 := by
    rw [UInt64.toNat_ofNat_of_lt']
    exact Nat.lt_trans (Nat.succ_lt_succ bound) (by decide)
  rintro (zero | ⟨known, outside⟩)
  · have number := congrArg UInt64.toNat zero
    rw [restingSample, stamp small] at number
    cases number
  · cases count with
    | zero => exact known (counted.empty rfl)
    | succ count =>
        have before : count < 2 ^ 32 := Nat.lt_of_succ_lt small
        have last : bias.last = UInt64.ofNat (count + 1) := by
          apply counted.last (restingSample count)
          rw [resting_succ, List.getLast?_append_of_ne_nil _ (by simp)]
          rfl
        rw [last, restingSample] at outside
        have above : UInt64.ofNat (count + 1) < UInt64.ofNat (count + 1 + 1) := by
          rw [UInt64.lt_iff_toNat_lt, stamp before, stamp small]
          exact Nat.lt_succ_self _
        rcases outside with early | far
        · exact absurd above (UInt64.not_lt.mpr early)
        · rw [UInt64.lt_iff_toNat_lt, UInt64.toNat_sub_of_le _ _ (UInt64.le_of_lt above),
            stamp before, stamp small, Nat.add_sub_cancel_left] at far
          exact absurd far (by decide)

/-- A sensor at rest is accepted up to the wrap of the counter. -/
theorem resting_accepted {count : ℕ} (small : count ≤ 2 ^ 32) :
    ∃ bias, Program.forEach (resting count) add initial = (.done (), bias) := by
  induction count with
  | zero => exact ⟨initial, rfl⟩
  | succ count induction =>
      have before : count < 2 ^ 32 := small
      obtain ⟨bias, accepted⟩ := induction before.le
      obtain ⟨counted, below, _⟩ := run_accepted accepted
      have fresh := not_gapFailure_resting before counted
      have next := counted.step fresh
      have calm : ¬(50 < (after (restingSample count) bias).n ∧
          (after (restingSample count) bias).Restless) := by
        rintro ⟨many, axis, scattered⟩
        rw [UInt32.lt_iff_toNat_lt, next.n, ← resting_succ, length_resting] at many
        have inside : count + 1 < 2 ^ 32 := by
          rcases Nat.lt_or_eq_of_le small with inside | wrapped
          · exact inside
          · rw [wrapped, Nat.mod_self] at many
            exact absurd many (by decide)
        have moments := (below (by rwa [length_resting])).1.step counted
          (by rwa [length_resting]) fresh
        rw [← resting_succ] at moments
        have quiet {bound : ℝ} {n : UInt32} {m2 : Accumulated ℝ} (nonneg : 0 ≤ bound)
            (none : m2 = some 0) : ¬Scatters bound n m2 := by
          rintro ⟨sum, held, above⟩
          rw [none] at held
          cases held
          have root : SquareRoots.sqrt (0 : ℝ) = 0 := Real.sqrt_zero
          rw [zero_div, root] at above
          linarith
        have aZero := moments.aM2 axis
        rw [deviations_resting BiasSample.a axis fun _ => rfl] at aZero
        have wZero := moments.wM2 axis
        rw [deviations_resting BiasSample.w axis fun _ => rfl] at wZero
        rcases scattered with rough | turning
        · exact quiet (by norm_num) aZero rough
        · exact quiet (by norm_num) wZero turning
      have ran := add_eq_done_iff.mpr ⟨fresh, not_moves_resting count, calm, rfl⟩
      refine ⟨after (restingSample count) bias, ?_⟩
      rw [resting_succ, Program.forEach_append, Program.bind_apply_done accepted, Program.forEach,
        Program.bind_apply_done ran]
      rfl

end StaticBias

end SpriteRuntime
