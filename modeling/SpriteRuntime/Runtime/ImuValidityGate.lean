import SpriteRuntime.Foundation.Program
import SpriteRuntime.Foundation.SquareRoots

/-!
# The IMU validity gate

`ImuValidityGate.check` compares the time of a sample with the time of the sample before it,
whether that one was valid or not.  After a sample that goes back in time, an older sample
than one that was valid can therefore be valid again.
-/

namespace SpriteRuntime

open Foundation

/-- A `RawImuSample` before its arrays have been looked at: they may have any length, and a
number that is not finite is `none`. -/
structure UncheckedImuSample (K : Type) where
  monotonicNs : ℤ
  angularVelocitySensor : List (Option K)
  linearAccelerationSensor : List (Option K)
  orientationSensorToWorld : List (Option K)

/-- One call of `check`: the sample and the reading of the clock. -/
structure ImuCheck (K : Type) where
  sample : UncheckedImuSample K
  nowNs : ℤ

section Gate

variable {K : Type} [Field K] [LinearOrder K]

/-- `ImuValidityLimits`, with what `validate` has checked. -/
structure ImuValidityLimits (K : Type) [Field K] [LinearOrder K] where
  expectedUpdateHz : K
  maximumAgeMs : K
  maximumGapMs : K
  quaternionNormTolerance : K
  maximumAngularSpeedRadS : K
  maximumAccelerationMS2 : K
  valid : 0 < expectedUpdateHz ∧ 0 < maximumAgeMs ∧ 0 < maximumGapMs ∧
    0 < quaternionNormTolerance ∧ 0 < maximumAngularSpeedRadS ∧ 0 < maximumAccelerationMS2

/-- The limits of a gate that is given none; the speed is the `double` of
`math.radians(2000.0)`. -/
def ImuValidityLimits.default [IsStrictOrderedRing K] : ImuValidityLimits K where
  expectedUpdateHz := 100
  maximumAgeMs := 30
  maximumGapMs := 30
  quaternionNormTolerance := 5 / 100
  maximumAngularSpeedRadS := 2456332552787653 / 70368744177664
  maximumAccelerationMS2 := 16 * (980665 / 100000)
  valid := by norm_num

/-- The numbers of an array that has the given shape and is finite. -/
def shapedArray (count : ℕ) (values : List (Option K)) : Option (List K) :=
  if values.length = count then values.mapM id else none

def nsToMs (nanoseconds : ℤ) : K := nanoseconds / 10 ^ 6

variable [SquareRoots K]

/-- `np.linalg.norm`. -/
def arrayNorm (values : List K) : K :=
  SquareRoots.sqrt (values.map fun value => value * value).sum

structure ImuValidityGate (K : Type) [Field K] [LinearOrder K] where
  limits : ImuValidityLimits K
  previousTimestampNs : Option ℤ := none

namespace ImuValidityGate

variable (gate : ImuValidityGate K) (call : ImuCheck K)

def timestampErrors : List String :=
  if call.sample.monotonicNs ≤ 0 ∨ call.nowNs < call.sample.monotonicNs then
    ["invalid_timestamp"] else []

def ageErrors : List String :=
  if gate.limits.maximumAgeMs < nsToMs (call.nowNs - call.sample.monotonicNs) then
    ["stale_sample"] else []

def orderErrors : List String :=
  match gate.previousTimestampNs with
  | none => []
  | some previous =>
      let gapMs : K := nsToMs (call.sample.monotonicNs - previous)
      if gapMs ≤ 0 then ["non_monotonic_timestamp"]
      else if gate.limits.maximumGapMs < gapMs then ["sample_gap"] else []

def quaternionErrors : List String :=
  match shapedArray 4 call.sample.orientationSensorToWorld with
  | none => ["invalid_quaternion"]
  | some quaternion =>
      if gate.limits.quaternionNormTolerance < |arrayNorm quaternion - 1| then
        ["quaternion_norm"] else []

def vectorErrors : List String :=
  match shapedArray 3 call.sample.angularVelocitySensor,
      shapedArray 3 call.sample.linearAccelerationSensor with
  | some angularVelocity, some acceleration =>
      (if gate.limits.maximumAngularSpeedRadS < arrayNorm angularVelocity then
        ["angular_speed_range"] else []) ++
      (if gate.limits.maximumAccelerationMS2 < arrayNorm acceleration then
        ["acceleration_range"] else [])
  | _, _ => ["invalid_vector"]

/-- `check`: the verdict and its errors, and the gate afterwards. -/
def check : (Bool × List String) × ImuValidityGate K :=
  let errors := timestampErrors call ++ gate.ageErrors call ++ gate.orderErrors call ++
    gate.quaternionErrors call ++ gate.vectorErrors call
  ((errors.isEmpty, errors),
    if 0 < call.sample.monotonicNs then
      { gate with previousTimestampNs := some call.sample.monotonicNs }
    else gate)

end ImuValidityGate

end Gate

section Order

variable {K : Type} [Field K] [LinearOrder K] [IsStrictOrderedRing K]

theorem nsToMs_nonpos_iff {nanoseconds : ℤ} : (nsToMs nanoseconds : K) ≤ 0 ↔ nanoseconds ≤ 0 := by
  rw [nsToMs, div_le_iff₀ (by positivity), zero_mul, Int.cast_nonpos]

end Order

section Verdict

variable {K : Type} [Field K] [LinearOrder K] [IsStrictOrderedRing K] [SquareRoots K]

/-- All tests of the gate but the one that the sample is newer than the one before it. -/
structure PassesOtherTests (limits : ImuValidityLimits K) (previous : Option ℤ)
    (call : ImuCheck K) : Prop where
  positive : 0 < call.sample.monotonicNs
  past : call.sample.monotonicNs ≤ call.nowNs
  fresh : ImuValidityGate.ageErrors ⟨limits, none⟩ call = []
  gap : ∀ base ∈ previous, nsToMs (call.sample.monotonicNs - base) ≤ limits.maximumGapMs
  quaternion : ImuValidityGate.quaternionErrors ⟨limits, none⟩ call = []
  vectors : ImuValidityGate.vectorErrors ⟨limits, none⟩ call = []

namespace ImuValidityGate

variable {limits : ImuValidityLimits K} {previous : Option ℤ} {call : ImuCheck K}

omit [SquareRoots K] in
theorem orderErrors_eq_nil : orderErrors ⟨limits, previous⟩ call = [] ↔
    (∀ base ∈ previous, base < call.sample.monotonicNs) ∧
      ∀ base ∈ previous, nsToMs (call.sample.monotonicNs - base) ≤ limits.maximumGapMs := by
  cases previous with
  | none => simp [orderErrors]
  | some base =>
      simp only [orderErrors, Option.mem_some_iff, forall_eq']
      by_cases back : (nsToMs (call.sample.monotonicNs - base) : K) ≤ 0
      · have older := nsToMs_nonpos_iff.mp back
        simp only [if_pos back, List.cons_ne_nil, false_iff, not_and_or]
        left
        omega
      · have newer := (not_congr nsToMs_nonpos_iff).mp back
        have later : base < call.sample.monotonicNs := by omega
        simp [back, later]

/-- What a valid sample has passed. -/
theorem check_valid_iff : (check ⟨limits, previous⟩ call).1.1 = true ↔
    PassesOtherTests limits previous call ∧
      ∀ base ∈ previous, base < call.sample.monotonicNs := by
  have stamp : timestampErrors call = [] ↔
      0 < call.sample.monotonicNs ∧ call.sample.monotonicNs ≤ call.nowNs := by
    unfold timestampErrors
    split
    next bad =>
        simp only [List.cons_ne_nil, false_iff]
        omega
    next good =>
        simp only [true_iff]
        omega
  simp only [check, List.isEmpty_iff, List.append_eq_nil_iff, stamp, orderErrors_eq_nil]
  constructor
  · rintro ⟨⟨⟨⟨⟨positive, past⟩, fresh⟩, newer, gap⟩, quaternion⟩, vectors⟩
    exact ⟨⟨positive, past, fresh, gap, quaternion, vectors⟩, newer⟩
  · rintro ⟨⟨positive, past, fresh, gap, quaternion, vectors⟩, newer⟩
    exact ⟨⟨⟨⟨⟨positive, past⟩, fresh⟩, newer, gap⟩, quaternion⟩, vectors⟩

end ImuValidityGate

end Verdict

/-! ## Runs -/

section Runs

variable {K : Type} [Field K] [LinearOrder K] [SquareRoots K]

/-- A call of `check` on a gate, with the times of the samples found valid so far. -/
def checkStep (state : ImuValidityGate K × List ℤ) (call : ImuCheck K) :
    ImuValidityGate K × List ℤ :=
  let result := state.1.check call
  (result.2, if result.1.1 then state.2 ++ [call.sample.monotonicNs] else state.2)

def checkRun (limits : ImuValidityLimits K) (calls : List (ImuCheck K)) :
    ImuValidityGate K × List ℤ :=
  calls.foldl checkStep (⟨limits, none⟩, [])

/-- The times of the samples that were found valid. -/
def acceptedTimes (limits : ImuValidityLimits K) (calls : List (ImuCheck K)) : List ℤ :=
  (checkRun limits calls).2

/-- The time of the last sample with a positive time, valid or not. -/
def lastCheckedTime (calls : List (ImuCheck K)) : Option ℤ :=
  ((calls.map fun call => call.sample.monotonicNs).filter fun time => 0 < time).getLast?

theorem checkRun_append_singleton (limits : ImuValidityLimits K) (calls : List (ImuCheck K))
    (call : ImuCheck K) :
    checkRun limits (calls ++ [call]) = checkStep (checkRun limits calls) call := by
  rw [checkRun, List.foldl_append]
  rfl

omit [Field K] [LinearOrder K] [SquareRoots K] in
theorem lastCheckedTime_append_singleton (calls : List (ImuCheck K)) (call : ImuCheck K) :
    lastCheckedTime (calls ++ [call]) =
      if 0 < call.sample.monotonicNs then some call.sample.monotonicNs
      else lastCheckedTime calls := by
  by_cases positive : 0 < call.sample.monotonicNs
  · simp [lastCheckedTime, positive]
  · simp [lastCheckedTime, positive]

/-- The gate compares with the last sample that had a positive time. -/
theorem checkRun_gate (limits : ImuValidityLimits K) (calls : List (ImuCheck K)) :
    (checkRun limits calls).1 = ⟨limits, lastCheckedTime calls⟩ := by
  induction calls using List.reverseRecOn with
  | nil => rfl
  | append_singleton calls call induction =>
      rw [checkRun_append_singleton, lastCheckedTime_append_singleton]
      simp only [checkStep, ImuValidityGate.check, induction]
      split <;> rfl

variable [IsStrictOrderedRing K]

theorem acceptedTimes_append_singleton (limits : ImuValidityLimits K)
    (calls : List (ImuCheck K)) (call : ImuCheck K)
    [Decidable (PassesOtherTests limits (lastCheckedTime calls) call)] :
    acceptedTimes limits (calls ++ [call]) =
      if PassesOtherTests limits (lastCheckedTime calls) call ∧
          ∀ base ∈ lastCheckedTime calls, base < call.sample.monotonicNs then
        acceptedTimes limits calls ++ [call.sample.monotonicNs]
      else acceptedTimes limits calls := by
  have verdict : (ImuValidityGate.check ⟨limits, lastCheckedTime calls⟩ call).1.1 = true ↔
      PassesOtherTests limits (lastCheckedTime calls) call ∧
        ∀ base ∈ lastCheckedTime calls, base < call.sample.monotonicNs :=
    ImuValidityGate.check_valid_iff
  rw [← checkRun_gate] at verdict
  rw [acceptedTimes, checkRun_append_singleton, checkStep]
  simp only [verdict]
  rfl

/-- A sample that passes the other tests, but is no newer than a valid one, is checked after
a sample that is at least as new. -/
def FollowsNewer (limits : ImuValidityLimits K) (earlier : List (ImuCheck K))
    (call : ImuCheck K) : Prop :=
  PassesOtherTests limits (lastCheckedTime earlier) call →
    ∀ accepted ∈ acceptedTimes limits earlier, call.sample.monotonicNs ≤ accepted →
      ∃ base ∈ lastCheckedTime earlier, call.sample.monotonicNs ≤ base

/-- One call keeps the order exactly if its sample follows a newer one. -/
theorem acceptedTimes_step (limits : ImuValidityLimits K) (calls : List (ImuCheck K))
    (call : ImuCheck K) :
    (acceptedTimes limits (calls ++ [call])).Pairwise (· < ·) ↔
      (acceptedTimes limits calls).Pairwise (· < ·) ∧ FollowsNewer limits calls call := by
  classical
  rw [acceptedTimes_append_singleton]
  by_cases valid : PassesOtherTests limits (lastCheckedTime calls) call ∧
      ∀ base ∈ lastCheckedTime calls, base < call.sample.monotonicNs
  · rw [if_pos valid, List.pairwise_append]
    have unguarded : ¬∃ base ∈ lastCheckedTime calls, call.sample.monotonicNs ≤ base := by
      rintro ⟨base, member, newer⟩
      exact absurd (valid.2 base member) (not_lt.mpr newer)
    have good := valid.1
    simp only [FollowsNewer, good, unguarded, true_imp_iff, imp_false, not_le,
      List.pairwise_singleton, List.mem_singleton, forall_eq, true_and]
  · rw [if_neg valid]
    have follows : FollowsNewer limits calls call := by
      intro passes accepted member older
      by_contra unguarded
      refine valid ⟨passes, ?_⟩
      intro base known
      by_contra newer
      exact unguarded ⟨base, known, not_lt.mp newer⟩
    simp only [follows, and_true]

end Runs

section Rest

/-- A sensor at rest. -/
def restSample (time : ℤ) : UncheckedImuSample ℝ :=
  { monotonicNs := time
    angularVelocitySensor := [some 0, some 0, some 0]
    linearAccelerationSensor := [some 0, some 0, some 0]
    orientationSensorToWorld := [some 1, some 0, some 0, some 0] }

theorem restSample_passes {previous : Option ℤ} {time now : ℤ} (positive : 0 < time)
    (past : time ≤ now) (fresh : now - time ≤ 30000000)
    (gap : ∀ base ∈ previous, time - base ≤ 30000000) :
    PassesOtherTests ImuValidityLimits.default previous ⟨restSample time, now⟩ where
  positive := positive
  past := past
  fresh := by
    have bounded : ((now - time : ℤ) : ℝ) ≤ 30000000 := by exact_mod_cast fresh
    have age : ¬(30 : ℝ) < nsToMs (now - time) := by
      rw [nsToMs, not_lt, div_le_iff₀ (by positivity)]
      linarith
    exact if_neg age
  gap := by
    intro base member
    have bounded : ((time - base : ℤ) : ℝ) ≤ 30000000 := by exact_mod_cast gap base member
    change nsToMs (time - base) ≤ (30 : ℝ)
    rw [nsToMs, div_le_iff₀ (by positivity)]
    linarith
  quaternion := by
    have unit : arrayNorm [(1 : ℝ), 0, 0, 0] = 1 := by
      simp [arrayNorm, SquareRoots.sqrt_one]
    have error : ¬(5 / 100 : ℝ) < |arrayNorm [(1 : ℝ), 0, 0, 0] - 1| := by
      rw [unit, sub_self, abs_zero]
      norm_num
    exact if_neg error
  vectors := by
    have still : arrayNorm [(0 : ℝ), 0, 0] = 0 := by
      have root := SquareRoots.sqrt_mul_self (le_refl (0 : ℝ))
      simpa [arrayNorm] using root
    have slow : ¬(2456332552787653 / 70368744177664 : ℝ) < arrayNorm [(0 : ℝ), 0, 0] := by
      rw [still]
      norm_num
    have light : ¬(16 * (980665 / 100000) : ℝ) < arrayNorm [(0 : ℝ), 0, 0] := by
      rw [still]
      norm_num
    have none : (if (2456332552787653 / 70368744177664 : ℝ) < arrayNorm [(0 : ℝ), 0, 0] then
        ["angular_speed_range"] else []) ++
        (if (16 * (980665 / 100000) : ℝ) < arrayNorm [(0 : ℝ), 0, 0] then
          ["acceleration_range"] else []) = [] := by
      rw [if_neg slow, if_neg light, List.append_nil]
    exact none

/-- A valid sample, one that goes back in time, and one between the two, which is valid. -/
def regressedCalls : List (ImuCheck ℝ) :=
  [⟨restSample 100000000, 100000000⟩, ⟨restSample 90000000, 100000000⟩,
    ⟨restSample 95000000, 100000000⟩]

end Rest

end SpriteRuntime
