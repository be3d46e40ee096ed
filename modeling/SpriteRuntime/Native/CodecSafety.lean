import SpriteRuntime.Native.Mit

/-!
# What the codec needs of a motor

The codec divides by the width of a range and expects zero near its middle.  `load_motors` bounds
the position range on both sides, but compares neither the lower end of the velocity range nor
the torque range with anything, so that a motor may pass whose polls are never sent.
-/

namespace SpriteRuntime

open Foundation

/-- The codec works for a range whose fields have the given number of bits. -/
structure RangeSafe (low high : ℚ) (bits : ℕ) : Prop where
  ordered : low < high
  divisor : high - low ≠ 0
  decodes : ∀ raw ≤ 2 ^ bits - 1,
    low ≤ decodeUint raw low high bits ∧ decodeUint raw low high bits ≤ high

theorem rangeSafe_iff {low high : ℚ} {bits : ℕ} : RangeSafe low high bits ↔ low < high := by
  constructor
  · exact RangeSafe.ordered
  · intro ordered
    constructor
    · exact ordered
    · exact (sub_pos.mpr ordered).ne'
    · intro raw bounded
      exact ⟨le_dequantize ordered.le raw, dequantize_le ordered.le bounded⟩

/-- What the codec relies on: three ranges, zero inside those of velocity and torque, and a poll at
every position that a frame can report. -/
structure CodecSafe (motor : MotorDescriptor) : Prop where
  position : RangeSafe motor.positionMin motor.positionMax 16
  velocity : RangeSafe motor.velocityMin motor.velocityMax 12
  torque : RangeSafe motor.torqueMin motor.torqueMax 12
  zeroVelocity : motor.velocityMin ≤ 0 ∧ 0 ≤ motor.velocityMax
  zeroTorque : motor.torqueMin ≤ 0 ∧ 0 ≤ motor.torqueMax
  polls : ∀ raw ≤ 2 ^ 16 - 1, ∀ state : MotorState,
    state.lastPosition = decodeUint raw motor.positionMin motor.positionMax 16 →
      ∃ data, zeroGainPayload motor state = .ok data

/-- Zero is one of the two middle codes of 12 bits. -/
def NearlySymmetric (low high : ℚ) : Prop :=
  2047 * high ≤ -2048 * low ∧ -2046 * low < 2049 * high

instance (low high : ℚ) : Decidable (NearlySymmetric low high) := by
  unfold NearlySymmetric
  infer_instance

namespace NearlySymmetric

variable {low high : ℚ}

theorem signs (symmetric : NearlySymmetric low high) : low < 0 ∧ 0 < high := by
  obtain ⟨below, above⟩ := symmetric
  constructor <;> linarith

/-- The code of zero. -/
theorem iff_quantize (ordered : low < high) (zero : low ≤ 0) :
    NearlySymmetric low high ↔
      quantize low high (2 ^ 12 - 1) 0 = 2047 ∨ quantize low high (2 ^ 12 - 1) 0 = 2048 := by
  have reached (code : ℕ) : code ≤ quantize low high (2 ^ 12 - 1) 0 ↔ _ :=
    le_quantize_iff (by decide) ordered zero
  have first : 2047 ≤ quantize low high (2 ^ 12 - 1) 0 ↔ 2047 * high ≤ -2048 * low := by
    rw [reached, dequantize, ← le_sub_iff_add_le, div_le_iff₀ (by norm_num)]
    norm_num
    constructor <;> intro small <;> linarith
  have second : 2049 ≤ quantize low high (2 ^ 12 - 1) 0 ↔ 2049 * high ≤ -2046 * low := by
    rw [reached, dequantize, ← le_sub_iff_add_le, div_le_iff₀ (by norm_num)]
    norm_num
    constructor <;> intro small <;> linarith
  rw [NearlySymmetric, ← first, ← not_le, ← second]
  omega

end NearlySymmetric

section Poll

variable {motor : MotorDescriptor} {state : MotorState}

/-- The fields of a poll. -/
def zeroGainFields (motor : MotorDescriptor) (position : ℚ) : MitFields :=
  { position := quantize motor.positionMin motor.positionMax (2 ^ 16 - 1) position
    velocity := quantize motor.velocityMin motor.velocityMax (2 ^ 12 - 1) 0
    kp := 0
    kd := 0
    torque := quantize motor.torqueMin motor.torqueMax (2 ^ 12 - 1) 0 }

/-- When a poll is sent: its position lies in the range and zero has a middle code. -/
theorem zeroGainPayload_isOk_iff (velocity : motor.velocityMin < motor.velocityMax)
    (torque : motor.torqueMin < motor.torqueMax)
    (zeroVelocity : motor.velocityMin ≤ 0 ∧ 0 ≤ motor.velocityMax)
    (zeroTorque : motor.torqueMin ≤ 0 ∧ 0 ≤ motor.torqueMax)
    (ordered : motor.positionMin < motor.positionMax)
    (inside : motor.positionMin ≤ state.lastPosition ∧ state.lastPosition ≤ motor.positionMax) :
    (∃ data, zeroGainPayload motor state = .ok data) ↔
      NearlySymmetric motor.velocityMin motor.velocityMax ∧
        NearlySymmetric motor.torqueMin motor.torqueMax := by
  have fields : (zeroGainFields motor state.lastPosition).InRange := by
    constructor
    · exact quantize_le ordered inside.2
    · exact quantize_le velocity zeroVelocity.2
    · exact Nat.zero_le _
    · exact Nat.zero_le _
    · exact quantize_le torque zeroTorque.2
  have read := MitFields.unpack_pack fields
  simp only [zeroGainFields] at read
  rw [NearlySymmetric.iff_quantize velocity zeroVelocity.1,
    NearlySymmetric.iff_quantize torque zeroTorque.1]
  simp only [zeroGainPayload, except_bind_eq_ok, encodeUint_eq_ok]
  constructor
  · rintro ⟨data, _, ⟨_, rfl⟩, _, ⟨_, rfl⟩, _, ⟨_, rfl⟩, checked⟩
    rw [read] at checked
    split at checked
    · cases checked
    next passed =>
        simp only at passed
        omega
  · intro middle
    refine ⟨(zeroGainFields motor state.lastPosition).pack, _, ⟨inside, rfl⟩, _,
      ⟨zeroVelocity, rfl⟩, _, ⟨zeroTorque, rfl⟩, ?_⟩
    rw [read]
    apply if_neg
    simp only
    omega

/-- The codec is safe for an accepted motor if both ranges are nearly symmetric. -/
theorem codecSafe_iff (accepted : motor.Accepted) :
    CodecSafe motor ↔ NearlySymmetric motor.velocityMin motor.velocityMax ∧
      NearlySymmetric motor.torqueMin motor.torqueMax := by
  have ordered := accepted.positionMin_lt_positionMax
  have decoded (raw : ℕ) (bounded : raw ≤ 2 ^ 16 - 1) :=
    (rangeSafe_iff.mpr ordered : RangeSafe motor.positionMin motor.positionMax 16).decodes raw bounded
  constructor
  · intro safe
    have sent := safe.polls 0 (Nat.zero_le _)
      { lastPosition := decodeUint 0 motor.positionMin motor.positionMax 16 } rfl
    exact (zeroGainPayload_isOk_iff safe.velocity.ordered safe.torque.ordered safe.zeroVelocity
      safe.zeroTorque ordered (decoded 0 (Nat.zero_le _))).mp sent
  · rintro ⟨velocity, torque⟩
    obtain ⟨velocityLow, velocityHigh⟩ := velocity.signs
    obtain ⟨torqueLow, torqueHigh⟩ := torque.signs
    have velocityOrdered := velocityLow.trans velocityHigh
    have torqueOrdered := torqueLow.trans torqueHigh
    constructor
    · exact rangeSafe_iff.mpr ordered
    · exact rangeSafe_iff.mpr velocityOrdered
    · exact rangeSafe_iff.mpr torqueOrdered
    · exact ⟨velocityLow.le, velocityHigh.le⟩
    · exact ⟨torqueLow.le, torqueHigh.le⟩
    · intro raw bounded state reported
      apply (zeroGainPayload_isOk_iff velocityOrdered torqueOrdered ⟨velocityLow.le, velocityHigh.le⟩
        ⟨torqueLow.le, torqueHigh.le⟩ ordered (reported ▸ decoded raw bounded)).mpr
      exact ⟨velocity, torque⟩

end Poll

/-! ## The motor file -/

/-- A row of the test motor with the given lower end of the velocity range. -/
def testRow (velocityMin : ℚ) (index : Index) : MotorRow :=
  { motorName := "test_motor_0"
    interface := #["can0", "can1", "can2", "can3"].getD (index.val / 8) ""
    canId := (index.val % 8 : ℕ) + 1
    masterId := (index.val % 8 : ℕ) + 0x11
    positionMinRad := -25 / 2
    positionMaxRad := 25 / 2
    velocityMinRadS := velocityMin
    velocityMaxRadS := 20
    torqueMinNm := -28
    torqueMaxNm := 28
    softPositionMinRad := -1
    softPositionMaxRad := 1
    hardPositionMinRad := -6 / 5
    hardPositionMaxRad := 6 / 5
    deploymentVelocityMaxRadS := 10
    ratedTorqueNm := 20
    mechanicalPeakTorqueNm := 40
    commissioningTorqueCapNm := 28
    feedbackTorqueCapNm := 40
    mosTemperatureLimitC := 100
    rotorTemperatureLimitC := 100
    filteredMosTemperatureLimitC := 90
    filteredRotorTemperatureLimitC := 90
    temperatureFilterTimeConstantS := 2
    pollRateHz := 50 }

/-- The motors of these rows. -/
def testMotors (velocityMin : ℚ) : List MotorDescriptor :=
  List.ofFn fun index => { benchMotors.descriptor index with velocityMin }

theorem loadMotorList_bench :
    loadMotorList (List.ofFn (testRow (-20))) = .ok (testMotors (-20)) := by
  decide +kernel

end SpriteRuntime
