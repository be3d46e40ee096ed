import SpriteRuntime.Foundation.Trigonometry
import SpriteRuntime.Native.StaticBias

/-!
# The attitude filter

`SixAxis` starts from a measured acceleration and then turns with the angular rate, corrected
toward the acceleration.  Whatever the samples are, its quaternion stays on the unit sphere.
Numbers are exact, so the checks for infinities and NaNs pass.
-/

namespace SpriteRuntime

open Foundation

variable {K : Type} [Field K]

/-- The filter with the stamp of its last sample. -/
structure AttitudeFilter (K : Type) extends SixAxis K where
  last : UInt64

/-- `cross`. -/
def cross (a b : Fin 3 → K) : Fin 3 → K :=
  ![a 1 * b 2 - a 2 * b 1, a 2 * b 0 - a 0 * b 2, a 0 * b 1 - a 1 * b 0]

variable [LinearOrder K]

/-- `std::clamp` to the unit interval. -/
def clampUnit (value : K) : K := if value < 0 then 0 else if 1 < value then 1 else value

namespace AttitudeFilter

/-- A new filter. -/
def initial : AttitudeFilter K := ⟨⟨![1, 0, 0, 0], fun _ => 0⟩, 0⟩

open Trigonometry

variable [Trigonometry K]

/-- The quaternion of a roll and a pitch. -/
def poseQuaternion (roll pitch : K) : Fin 4 → K :=
  let cr := cos (roll / 2)
  let sr := sin (roll / 2)
  let cp := cos (pitch / 2)
  let sp := sin (pitch / 2)
  ![cr * cp, sr * cp, cr * sp, -sr * sp]

/-- `SixAxis::initialize`. -/
def initializeFilter (a bias : Fin 3 → K) (timestamp : UInt64) :
    Program (AttitudeFilter K) String Unit := do
  Program.throwIf
    (timestamp = 0 ∨ 1 / 10 * standardGravity < |vectorLength a - standardGravity| ∨
      1 / 10 < vectorLength bias)
    "invalid six-axis initialization"
  let roll := atan2 (a 1) (a 2)
  let pitch := atan2 (-a 0) (SquareRoots.sqrt (a 1 * a 1 + a 2 * a 2))
  Program.modify fun _ => ⟨⟨poseQuaternion roll pitch, bias⟩, timestamp⟩

/-- The weight of the accelerometer. -/
def trustOf (a : Fin 3 → K) : K :=
  clampUnit ((25 / 100 - |vectorLength a / standardGravity - 1|) / (20 / 100))

variable (filter : AttitudeFilter K)

/-- The rate with the correction toward the measured up vector. -/
def omega (a w : Fin 3 → K) : Fin 3 → K :=
  let trust := trustOf a
  let magnitude := vectorLength a
  let rate := filter.correctedGyro w
  if 0 < trust ∧ 1 / 10 ^ 9 < magnitude then
    fun axis => rate axis + trust * cross (fun axis => a axis / magnitude) filter.up axis
  else rate

/-- The rotation of a rate over a time: a half angle about its axis. -/
def turn (rate : Fin 3 → K) (dt : K) : Fin 4 → K :=
  let speed := vectorLength rate
  let half := 1 / 2 * speed * dt
  let scale := if 1 / 10 ^ 12 < speed then sin half / speed else 1 / 2 * dt
  ![cos half, scale * rate 0, scale * rate 1, scale * rate 2]

/-- The time since the last sample in seconds. -/
def elapsed (timestamp : UInt64) : K := ((timestamp - filter.last).toNat : K) / 10 ^ 9

/-- The quaternion before it is scaled to length one. -/
def turned (a w : Fin 3 → K) (timestamp : UInt64) : Fin 4 → K :=
  hamilton filter.quaternion (turn (filter.omega a w) (filter.elapsed timestamp))

/-- The check of the time stamps. -/
def GapFailure (timestamp : UInt64) : Prop :=
  filter.last = 0 ∨ timestamp ≤ filter.last ∨ 30000000 < timestamp - filter.last

instance (timestamp : UInt64) : Decidable (filter.GapFailure timestamp) := by
  unfold GapFailure
  infer_instance

def update (a w : Fin 3 → K) (timestamp : UInt64) : Program (AttitudeFilter K) String K := do
  let filter ← Program.get
  Program.throwIf (filter.GapFailure timestamp)
    "six-axis timestamp gap/regression; restart required"
  let q := filter.turned a w timestamp
  Program.modify fun filter => { filter with quaternion := q }
  let norm := normSquared q
  Program.throwIf (norm < 1 / 10 ^ 12) "invalid software attitude"
  Program.modify fun filter =>
    { filter with
      quaternion := fun index => filter.quaternion index / SquareRoots.sqrt norm
      last := timestamp }
  return trustOf a

/-! ## The start -/

section Start

variable [IsStrictOrderedRing K]

theorem sin_eq (angle : K) : sin angle = 2 * (sin (angle / 2) * cos (angle / 2)) := by
  rw [← sin_double, mul_div_cancel₀ _ two_ne_zero]

theorem cos_eq (angle : K) : cos angle = 1 - 2 * (sin (angle / 2) * sin (angle / 2)) := by
  rw [← cos_double, mul_div_cancel₀ _ two_ne_zero]

omit [IsStrictOrderedRing K] in
theorem normSquared_poseQuaternion (roll pitch : K) :
    normSquared (poseQuaternion roll pitch) = 1 := by
  have rollUnit := sin_sq_add_cos_sq (roll / 2)
  have pitchUnit := sin_sq_add_cos_sq (pitch / 2)
  simp only [normSquared, poseQuaternion, Matrix.cons_val]
  linear_combination
    (sin (pitch / 2) * sin (pitch / 2) + cos (pitch / 2) * cos (pitch / 2)) * rollUnit + pitchUnit

/-- The half angles multiply out to the whole ones. -/
theorem upVector_poseQuaternion (roll pitch : K) :
    upVector (poseQuaternion roll pitch) =
      ![-sin pitch, sin roll * cos pitch, cos roll * cos pitch] := by
  have rollUnit := sin_sq_add_cos_sq (roll / 2)
  have pitchUnit := sin_sq_add_cos_sq (pitch / 2)
  rw [sin_eq pitch, sin_eq roll, cos_eq pitch, cos_eq roll]
  simp only [upVector, poseQuaternion, Matrix.cons_val]
  congr 1
  · linear_combination (-2 * cos (pitch / 2) * sin (pitch / 2)) * rollUnit
  · congr 1
    · linear_combination (2 * cos (roll / 2) * sin (roll / 2)) * pitchUnit
    · congr 1
      linear_combination (-2 * sin (roll / 2) * sin (roll / 2)) * pitchUnit +
        (-2 * sin (pitch / 2) * sin (pitch / 2)) * rollUnit

/-- The pose of an acceleration points up along it: all three cases of the arctangents are in
the laws of `atan2`, which hold at the origin too. -/
theorem length_mul_up (a : Fin 3 → K) (axis : Fin 3) :
    vectorLength a *
        upVector (poseQuaternion (atan2 (a 1) (a 2))
          (atan2 (-a 0) (SquareRoots.sqrt (a 1 * a 1 + a 2 * a 2)))) axis =
      a axis := by
  have side : 0 ≤ a 1 * a 1 + a 2 * a 2 := add_nonneg (mul_self_nonneg _) (mul_self_nonneg _)
  have radicand : SquareRoots.sqrt (a 1 * a 1 + a 2 * a 2) *
      SquareRoots.sqrt (a 1 * a 1 + a 2 * a 2) + -a 0 * -a 0 =
        a 0 * a 0 + a 1 * a 1 + a 2 * a 2 := by
    rw [SquareRoots.mul_self_sqrt side]
    ring
  have sinPitch := mul_sin_atan2 (-a 0) (SquareRoots.sqrt (a 1 * a 1 + a 2 * a 2))
  have cosPitch := mul_cos_atan2 (-a 0) (SquareRoots.sqrt (a 1 * a 1 + a 2 * a 2))
  rw [radicand] at sinPitch cosPitch
  have swapped : a 2 * a 2 + a 1 * a 1 = a 1 * a 1 + a 2 * a 2 := add_comm _ _
  have sinRoll := mul_sin_atan2 (a 1) (a 2)
  have cosRoll := mul_cos_atan2 (a 1) (a 2)
  rw [swapped, ← cosPitch] at sinRoll cosRoll
  rw [upVector_poseQuaternion, vectorLength]
  fin_cases axis
  · simp only [Fin.zero_eta, Matrix.cons_val]
    linear_combination -sinPitch
  · simp only [Fin.mk_one, Matrix.cons_val]
    linear_combination sinRoll
  · simp only [Fin.reduceFinMk, Matrix.cons_val]
    linear_combination cosRoll

omit [Trigonometry K] in
theorem standardGravity_pos : (0 : K) < standardGravity := by
  rw [standardGravity]
  norm_num

/-- An accepted start stands upright along its acceleration. -/
theorem initializeFilter_upright {a bias : Fin 3 → K} {timestamp : UInt64}
    {filter next : AttitudeFilter K}
    (accepted : initializeFilter a bias timestamp filter = (.done (), next)) :
    normSquared next.quaternion = 1 ∧ ∀ axis, next.up axis = a axis / vectorLength a := by
  obtain ⟨_, middle, checked, changed⟩ := Program.bind_eq_done accepted
  obtain ⟨fine, rfl⟩ := Program.throwIf_eq_done_iff.mp checked
  cases changed
  have near : ¬1 / 10 * standardGravity < |vectorLength a - standardGravity| :=
    fun far => fine (.inr (.inl far))
  have gravity := standardGravity_pos (K := K)
  have bounds := abs_le.mp (not_lt.mp near)
  have long : vectorLength a ≠ 0 := by
    have : 0 < vectorLength a := by linarith
    exact this.ne'
  refine ⟨normSquared_poseQuaternion _ _, ?_⟩
  intro axis
  rw [eq_div_iff long, mul_comm]
  exact length_mul_up a axis

end Start

/-! ## One sample -/

section Sample

variable [IsStrictOrderedRing K] {filter} {a w : Fin 3 → K} {timestamp : UInt64}

omit [Trigonometry K] in
theorem clampUnit_mem (value : K) : 0 ≤ clampUnit value ∧ clampUnit value ≤ 1 := by
  unfold clampUnit
  split_ifs with low high
  · exact ⟨le_refl 0, zero_le_one⟩
  · exact ⟨zero_le_one, le_refl 1⟩
  · exact ⟨not_lt.mp low, not_lt.mp high⟩

theorem vectorLength_mul_self (v : Fin 3 → K) :
    vectorLength v * vectorLength v = squaredLength v := by
  apply SquareRoots.mul_self_sqrt
  have first := mul_self_nonneg (v 0)
  have second := mul_self_nonneg (v 1)
  have third := mul_self_nonneg (v 2)
  linarith

/-- A turn has length one, and more where the angle stands for its sine. -/
theorem one_le_normSquared_turn (rate : Fin 3 → K) (dt : K) : 1 ≤ normSquared (turn rate dt) := by
  have speed := vectorLength_mul_self rate
  have parts (half scale : K) :
      normSquared ![cos half, scale * rate 0, scale * rate 1, scale * rate 2] =
        cos half * cos half + scale * vectorLength rate * (scale * vectorLength rate) := by
    have square : scale * vectorLength rate * (scale * vectorLength rate) =
        scale * scale * squaredLength rate := by
      rw [← speed]
      ring
    rw [square]
    simp only [normSquared, squaredLength, Matrix.cons_val]
    ring
  rw [turn, parts]
  split_ifs with fast
  · have moving : vectorLength rate ≠ 0 := by
      have : 0 < vectorLength rate := lt_trans (by positivity) fast
      exact this.ne'
    rw [div_mul_cancel₀ _ moving, add_comm, sin_sq_add_cos_sq]
  · have half : 1 / 2 * dt * vectorLength rate = 1 / 2 * vectorLength rate * dt := by ring
    rw [half]
    exact one_le_cos_sq_add_sq _

theorem one_le_normSquared_turned (unit : normSquared filter.quaternion = 1)
    (a w : Fin 3 → K) (timestamp : UInt64) :
    1 ≤ normSquared (filter.turned a w timestamp) := by
  rw [turned, normSquared_hamilton, unit, one_mul]
  exact one_le_normSquared_turn _ _

/-- The filter after a sample. -/
def advanced (filter : AttitudeFilter K) (a w : Fin 3 → K) (timestamp : UInt64) :
    AttitudeFilter K :=
  { filter with
    quaternion := fun index =>
      filter.turned a w timestamp index /
        SquareRoots.sqrt (normSquared (filter.turned a w timestamp))
    last := timestamp }

theorem normSquared_advanced (unit : normSquared filter.quaternion = 1) :
    normSquared (filter.advanced a w timestamp).quaternion = 1 := by
  have long := one_le_normSquared_turned unit a w timestamp
  rw [advanced, normSquared_div, SquareRoots.mul_self_sqrt (zero_le_one.trans long)]
  exact div_self (zero_lt_one.trans_le long).ne'

/-- A sample is refused for its stamp alone. -/
theorem update_apply (unit : normSquared filter.quaternion = 1) (a w : Fin 3 → K)
    (timestamp : UInt64) :
    update a w timestamp filter =
      if filter.GapFailure timestamp then
        (.thrown "six-axis timestamp gap/regression; restart required", filter)
      else (.done (trustOf a), filter.advanced a w timestamp) := by
  have long := one_le_normSquared_turned unit a w timestamp
  have regular : ¬normSquared (filter.turned a w timestamp) < 1 / 10 ^ 12 := by
    have tiny : (1 : K) / 10 ^ 12 ≤ 1 := by norm_num
    exact not_lt.mpr (tiny.trans long)
  unfold update
  rw [Program.bind_apply_done (Program.get_apply filter)]
  by_cases late : filter.GapFailure timestamp
  · rw [if_pos late, Program.throwIf, if_pos late]
    rfl
  · have timely : Program.throwIf (filter.GapFailure timestamp)
        "six-axis timestamp gap/regression; restart required" filter = (.done (), filter) :=
      Program.throwIf_eq_done_iff.mpr ⟨late, rfl⟩
    have passes (state : AttitudeFilter K) :
        Program.throwIf (normSquared (filter.turned a w timestamp) < 1 / 10 ^ 12)
          "invalid software attitude" state = (.done (), state) :=
      Program.throwIf_eq_done_iff.mpr ⟨regular, rfl⟩
    rw [if_neg late, Program.bind_apply_done timely]
    dsimp only
    rw [Program.bind_apply_done (Program.modify_apply _ _), Program.bind_apply_done (passes _)]
    rfl

/-- Without a corrected rate and with a measurement along the up vector, nothing turns. -/
theorem advanced_still (unit : normSquared filter.quaternion = 1)
    (still : ∀ axis, filter.correctedGyro w axis = 0) {factor : K}
    (along : ∀ axis, a axis = factor * filter.up axis) :
    (filter.advanced a w timestamp).quaternion = filter.quaternion := by
  have parallel : cross (fun axis => a axis / vectorLength a) filter.up = fun _ => 0 := by
    funext axis
    fin_cases axis <;> simp [cross, along] <;> ring
  have rest : filter.omega a w = fun _ => 0 := by
    funext axis
    simp only [omega, parallel]
    split
    · change filter.correctedGyro w axis + trustOf a * 0 = 0
      rw [still axis, mul_zero, add_zero]
    · exact still axis
  have speed : vectorLength (fun _ => (0 : K)) = 0 := by
    have square : vectorLength (fun _ => (0 : K)) = SquareRoots.sqrt (0 * 0) := by
      simp [vectorLength]
    rw [square, SquareRoots.sqrt_mul_self (le_refl 0)]
  have none (dt : K) : turn (fun _ => (0 : K)) dt = ![1, 0, 0, 0] := by
    simp [turn, speed, cos_zero]
  have same : filter.turned a w timestamp = filter.quaternion := by
    rw [turned, rest, none, hamilton_one]
  funext index
  simp only [advanced, same, unit, SquareRoots.sqrt_one, div_one]

end Sample

/-! ## A run -/

end AttitudeFilter

/-- A call of the filter. -/
inductive FilterCall (K : Type) where
  | start (a bias : Fin 3 → K) (timestamp : UInt64)
  | sample (a w : Fin 3 → K) (timestamp : UInt64)

namespace AttitudeFilter

open Trigonometry

variable [Trigonometry K]

/-- The filter after a call, accepted or refused. -/
def call (filter : AttitudeFilter K) : FilterCall K → AttitudeFilter K
  | .start a bias timestamp => (initializeFilter a bias timestamp filter).2
  | .sample a w timestamp => (update a w timestamp filter).2

/-- The filter after some calls. -/
def reached (calls : List (FilterCall K)) : AttitudeFilter K := calls.foldl call initial

variable [IsStrictOrderedRing K]

theorem call_unit {filter : AttitudeFilter K} (unit : normSquared filter.quaternion = 1)
    (next : FilterCall K) : normSquared (filter.call next).quaternion = 1 := by
  cases next with
  | start a bias timestamp =>
      rw [call, initializeFilter, Program.throwIf]
      split
      · exact unit
      · exact normSquared_poseQuaternion _ _
  | sample a w timestamp =>
      rw [call, update_apply unit]
      split
      · exact unit
      · exact normSquared_advanced unit

theorem reached_unit (calls : List (FilterCall K)) :
    normSquared (reached calls).quaternion = 1 := by
  induction calls using List.reverseRecOn with
  | nil => simp [reached, initial, normSquared]
  | append_singleton calls next induction =>
      rw [reached, List.foldl_append]
      exact call_unit induction next

end AttitudeFilter

section Real

open AttitudeFilter

/-- **The attitude filter keeps a proper orientation.**  A start stands upright along its
acceleration; after any calls the quaternion and the up vector have length one, the next sample
is never degenerate, its trust is a weight, and at rest it changes nothing. -/
theorem attitudeFilter_proper :
    (∀ (filter next : AttitudeFilter ℝ) (a bias : Fin 3 → ℝ) (timestamp : UInt64),
      initializeFilter a bias timestamp filter = (.done (), next) →
        normSquared next.quaternion = 1 ∧ ∀ axis, next.up axis = a axis / vectorLength a) ∧
    ∀ calls : List (FilterCall ℝ),
      normSquared (reached calls).quaternion = 1 ∧ squaredLength (reached calls).up = 1 ∧
      ∀ (a w : Fin 3 → ℝ) (timestamp : UInt64),
        1 ≤ normSquared ((reached calls).turned a w timestamp) ∧
        (update a w timestamp (reached calls)).1 ≠ .thrown "invalid software attitude" ∧
        ∀ trust next, update a w timestamp (reached calls) = (.done trust, next) →
          (0 ≤ trust ∧ trust ≤ 1) ∧
          ((∀ axis, (reached calls).correctedGyro w axis = 0) →
            (∃ factor, ∀ axis, a axis = factor * (reached calls).up axis) →
              next.quaternion = (reached calls).quaternion) := by
  refine ⟨fun filter next a bias timestamp accepted => initializeFilter_upright accepted, ?_⟩
  intro calls
  have unit := reached_unit calls
  refine ⟨unit, squaredLength_thirdRow unit, ?_⟩
  intro a w timestamp
  have run := update_apply unit a w timestamp
  refine ⟨one_le_normSquared_turned unit a w timestamp, ?_, ?_⟩
  · rw [run]
    split
    · intro same
      exact absurd (Outcome.thrown.inj same) (by decide)
    · intro same
      cases same
  · intro trust next accepted
    rw [run] at accepted
    split at accepted
    · cases accepted
    · cases accepted
      refine ⟨clampUnit_mem _, ?_⟩
      rintro still ⟨factor, along⟩
      exact advanced_still unit still along

end Real

end SpriteRuntime
