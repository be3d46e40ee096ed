import SpriteRuntime.Native.ImuPacket

/-!
# The validation of IMU packets

`validate_imu_packet` of the policy client accepts packets of one of the three versions.
-/

namespace SpriteRuntime

open Foundation

variable {K : Type} [Field K] [LinearOrder K]

structure ImuSnapshot (K : Type) where
  sequence : ℕ
  start : ℕ
  stop : ℕ
  values : ImuValues K

/-- The numbers of both differ by a tolerance at most. -/
structure ImuValues.Within (tolerance : K) (left right : ImuValues K) : Prop where
  acceleration : ∀ index, |left.acceleration index - right.acceleration index| ≤ tolerance
  gyro : ∀ index, |left.gyro index - right.gyro index| ≤ tolerance
  quaternion : ∀ index, |left.quaternion index - right.quaternion index| ≤ tolerance
  gravity : ∀ index, |left.gravity index - right.gravity index| ≤ tolerance

instance (tolerance : K) (left right : ImuValues K) :
    Decidable (left.Within tolerance right) :=
  decidable_of_iff
    ((∀ index, |left.acceleration index - right.acceleration index| ≤ tolerance) ∧
      (∀ index, |left.gyro index - right.gyro index| ≤ tolerance) ∧
      (∀ index, |left.quaternion index - right.quaternion index| ≤ tolerance) ∧
      ∀ index, |left.gravity index - right.gravity index| ≤ tolerance)
    ⟨fun ⟨acceleration, gyro, quaternion, gravity⟩ => ⟨acceleration, gyro, quaternion, gravity⟩,
      fun within => ⟨within.acceleration, within.gyro, within.quaternion, within.gravity⟩⟩

/-- The acceleration that the registers stand for. -/
def expectedAcceleration (icm : Bool) (raw : List UInt8) (index : Fin 3) : K :=
  if icm then (signed16 raw (2 * index) : K) * icmAccelerationScale
  else (signed16 raw (2 * index) : K) / 100

/-- The angular velocity that the registers stand for, before the bias. -/
def expectedGyro (pi : K) (icm : Bool) (raw : List UInt8) (index : Fin 3) : K :=
  if icm then (signed16 raw (6 + 2 * index) : K) * icmGyroScale pi
  else (signed16 raw (12 + 2 * index) : K) / 900

/-- The checks of a packet whose values were computed by a filter. -/
def validateSoftware (pi : K) (packet : ImuPacket K) (icm : Bool) : Except String Unit := do
  raiseIf (∃ index ∈ List.range' (if icm then 44 else 50) (if icm then 12 else 6),
    packet.byte index ≠ 0) "software IMU reserved bytes"
  let _ ← collect fun index : Fin 3 => do
    raiseIf ((packet.number (56 + 8 * index)).isSome = false) "nonfinite gyro bias"
    raiseIf (1 / 10 ^ 12 < |packet.values.acceleration index -
          expectedAcceleration icm packet.raw index| ∨
        1 / 10 ^ 12 < |packet.values.gyro index -
          (expectedGyro pi icm packet.raw index - packet.bias index)|)
      "software IMU raw/bias disagreement"
  raiseIf (1 / 100 < ∑ index, packet.bias index * packet.bias index)
    "software IMU excessive gyro bias"
  let q := packet.values.quaternion
  raiseIf (1 / 10 ^ 6 < |q 0 * q 0 + q 1 * q 1 + q 2 * q 2 + q 3 * q 3 - 1|)
    "software quaternion norm"
  raiseIf (∃ index, 1 / 10 ^ 9 <
      |packet.values.gravity index - standardGravity * upVector q index|)
    "software gravity/quaternion disagreement"

variable [SquareRoots K]

/-- `validate_imu_packet`. -/
def validateImuPacket (pi : K) (packet : ImuPacket K) (now previous : ℕ)
    (softwareFusion icm : Bool) : Except String (ImuSnapshot K) := do
  let software := softwareFusion || icm
  raiseIf (packet.size ≠ 192 ∨ packet.slice 0 8 ≠
      imuMagic (if icm then 0x33 else if software then 0x32 else 0x31))
    "IMU packet size/version"
  raiseIf ((software = false ∧ (packet.byte 78 ≠ 0 ∨ packet.byte 79 ≠ 0)) ∨
    packet.readU64 184 ≠ 0) "IMU reserved bytes"
  let sequence := packet.readU64 8
  let start := packet.readU64 16
  let stop := packet.readU64 24
  raiseIf (sequence = 0 ∨ sequence < previous) "IMU sequence regression"
  raiseIf (start = 0 ∨ stop < start ∨ now < stop ∨ 30000000 < now - start)
    "IMU stale/future timestamp"
  if software then do
    raiseIf (¬packet.ValuesFinite) "IMU raw/decoded disagreement"
    validateSoftware pi packet icm
    return ⟨sequence, start, stop, packet.values⟩
  else do
    let values ← decodeRegisters packet.raw
    raiseIf (¬packet.ValuesFinite ∨ ¬packet.values.Within (1 / 10 ^ 12) values)
      "IMU raw/decoded disagreement"
    return ⟨sequence, start, stop, values⟩

/-! ## What is accepted -/

/-- The conditions on the header and the end of a packet of any version. -/
structure FreshPacket (packet : ImuPacket K) (magic : List UInt8) (now previous : ℕ) : Prop where
  size : packet.size = 192
  magic : packet.slice 0 8 = magic
  trailing : packet.readU64 184 = 0
  numbered : packet.readU64 8 ≠ 0
  ordered : previous ≤ packet.readU64 8
  started : packet.readU64 16 ≠ 0
  read : packet.readU64 16 ≤ packet.readU64 24
  past : packet.readU64 24 ≤ now
  fresh : now - packet.readU64 16 ≤ 30000000

/-- The conditions on the values of a hardware packet. -/
structure HardwareValues (packet : ImuPacket K) : Prop where
  reserved : packet.byte 78 = 0 ∧ packet.byte 79 = 0
  norm : |SquareRoots.sqrt (∑ index, (registerValues packet.raw : ImuValues K).quaternion index *
    (registerValues packet.raw : ImuValues K).quaternion index) - 1| ≤ 1 / 20
  finite : packet.ValuesFinite
  within : packet.values.Within (1 / 10 ^ 12) (registerValues packet.raw)

omit [SquareRoots K] in
/-- The conditions on the values of a software or ICM packet. -/
structure SoftwareValues (pi : K) (packet : ImuPacket K) (icm : Bool) : Prop where
  reserved : ∀ index ∈ List.range' (if icm then 44 else 50) (if icm then 12 else 6),
    packet.byte index = 0
  finite : packet.ValuesFinite
  biasFinite : ∀ index : Fin 3, (packet.number (56 + 8 * index)).isSome = true
  acceleration : ∀ index, |packet.values.acceleration index -
    expectedAcceleration icm packet.raw index| ≤ 1 / 10 ^ 12
  gyro : ∀ index, |packet.values.gyro index -
    (expectedGyro pi icm packet.raw index - packet.bias index)| ≤ 1 / 10 ^ 12
  bias : ∑ index, packet.bias index * packet.bias index ≤ 1 / 100
  norm : |packet.values.quaternion 0 * packet.values.quaternion 0 +
    packet.values.quaternion 1 * packet.values.quaternion 1 +
    packet.values.quaternion 2 * packet.values.quaternion 2 +
    packet.values.quaternion 3 * packet.values.quaternion 3 - 1| ≤ 1 / 10 ^ 6
  gravity : ∀ index, |packet.values.gravity index -
    standardGravity * upVector packet.values.quaternion index| ≤ 1 / 10 ^ 9

section Acceptance

variable {pi : K} {packet : ImuPacket K} {now previous : ℕ} {snapshot : ImuSnapshot K}

omit [SquareRoots K] in
theorem validateSoftware_eq_ok {icm : Bool} :
    (packet.ValuesFinite ∧ validateSoftware pi packet icm = .ok ()) ↔
      SoftwareValues pi packet icm := by
  simp only [validateSoftware, except_bind_eq_ok, raiseIf_eq_ok, collect_eq_ok, not_or, not_lt,
    not_exists, not_and, ne_eq, not_not, Bool.not_eq_false]
  constructor
  · rintro ⟨finite, _, reserved, _, biased, _, bias, _, norm, gravity⟩
    have biasFinite (index : Fin 3) : (packet.number (56 + 8 * index)).isSome = true :=
      (biased index).choose_spec.1
    have raw (index : Fin 3) := (biased index).choose_spec.2
    exact ⟨reserved, finite, biasFinite, fun index => (raw index).1, fun index => (raw index).2,
      bias, norm, gravity⟩
  · rintro ⟨reserved, finite, biasFinite, acceleration, gyro, bias, norm, gravity⟩
    exact ⟨finite, (), reserved, fun _ => (),
      fun index => ⟨(), biasFinite index, acceleration index, gyro index⟩, (), bias, (), norm,
      gravity⟩

theorem decodeRegisters_eq_ok {raw : List UInt8} {values : ImuValues K} :
    decodeRegisters raw = .ok values ↔
      |SquareRoots.sqrt (∑ index, (registerValues raw : ImuValues K).quaternion index *
        (registerValues raw : ImuValues K).quaternion index) - 1| ≤ 1 / 20 ∧
      registerValues raw = values := by
  simp only [decodeRegisters, except_bind_eq_ok, raiseIf_eq_ok, not_lt, exists_const]
  exact and_congr_right fun _ => ⟨Except.ok.inj, congrArg _⟩

/-- When a hardware packet is accepted. -/
theorem validateImuPacket_hardware :
    validateImuPacket pi packet now previous false false = .ok snapshot ↔
      FreshPacket packet (imuMagic 0x31) now previous ∧ HardwareValues packet ∧
        snapshot = ⟨packet.readU64 8, packet.readU64 16, packet.readU64 24,
          registerValues packet.raw⟩ := by
  simp only [validateImuPacket, Bool.or_false, Bool.false_eq_true, if_false, except_bind_eq_ok,
    raiseIf_eq_ok, decodeRegisters_eq_ok, not_or, not_not, not_lt, true_and, ne_eq]
  constructor
  · rintro ⟨_, ⟨size, magic⟩, _, ⟨reserved, trailing⟩, _, ⟨numbered, ordered⟩, _,
      ⟨started, read, past, fresh⟩, values, ⟨norm, rfl⟩, _, ⟨finite, within⟩, made⟩
    exact ⟨⟨size, magic, trailing, numbered, ordered, started, read, past, fresh⟩,
      ⟨reserved, norm, finite, within⟩, (Except.ok.inj made).symm⟩
  · rintro ⟨⟨size, magic, trailing, numbered, ordered, started, read, past, fresh⟩,
      ⟨reserved, norm, finite, within⟩, rfl⟩
    exact ⟨(), ⟨size, magic⟩, (), ⟨reserved, trailing⟩, (), ⟨numbered, ordered⟩, (),
      ⟨started, read, past, fresh⟩, _, ⟨norm, rfl⟩, (), ⟨finite, within⟩, rfl⟩

/-- When a software or ICM packet is accepted. -/
theorem validateImuPacket_software {softwareFusion icm : Bool}
    (software : (softwareFusion || icm) = true) :
    validateImuPacket pi packet now previous softwareFusion icm = .ok snapshot ↔
      FreshPacket packet (imuMagic (if icm then 0x33 else 0x32)) now previous ∧
        SoftwareValues pi packet icm ∧
        snapshot = ⟨packet.readU64 8, packet.readU64 16, packet.readU64 24, packet.values⟩ := by
  simp only [validateImuPacket, software, if_true, except_bind_eq_ok, raiseIf_eq_ok, not_or,
    not_not, not_lt, Bool.true_eq_false, false_and, not_false_eq_true, true_and, ne_eq,
    ← validateSoftware_eq_ok]
  constructor
  · rintro ⟨_, ⟨size, magic⟩, _, trailing, _, ⟨numbered, ordered⟩, _,
      ⟨started, read, past, fresh⟩, _, finite, _, checked, made⟩
    exact ⟨⟨size, magic, trailing, numbered, ordered, started, read, past, fresh⟩,
      ⟨finite, checked⟩, (Except.ok.inj made).symm⟩
  · rintro ⟨⟨size, magic, trailing, numbered, ordered, started, read, past, fresh⟩,
      ⟨finite, checked⟩, rfl⟩
    exact ⟨(), ⟨size, magic⟩, (), trailing, (), ⟨numbered, ordered⟩, (),
      ⟨started, read, past, fresh⟩, (), finite, (), checked, rfl⟩

end Acceptance

end SpriteRuntime
