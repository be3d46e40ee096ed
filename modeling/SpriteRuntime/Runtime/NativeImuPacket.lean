import SpriteRuntime.Native.ImuEncoding

/-!
# The IMU packets on the Python side

`decode_packet` reads packets of version 1 and `decode_software_packet` those of version 2.
-/

namespace SpriteRuntime

open Foundation ImuPacket

variable {K : Type} [Field K] [LinearOrder K]

/-- `Sample`, with its registers as bytes. -/
structure ImuSample (K : Type) where
  readStartNs : ℕ
  readEndNs : ℕ
  values : ImuValues K
  temperatureC : Option ℤ
  calibration : Dictionary ℕ
  raw : List UInt8

structure NativeImuPacket (K : Type) where
  sequence : ℕ
  sample : ImuSample K

/-- `struct.unpack_from` of shorts. -/
def shorts (data : List UInt8) (offset : ℕ) (divisor : K) {count : ℕ} (index : Fin count) : K :=
  (signed16Field data (offset + 2 * index) : K) / divisor

/-- The four fields of the calibration byte. -/
def calibrationFields (calibration : UInt8) : Dictionary ℕ :=
  [("system", 6), ("gyro", 4), ("accel", 2), ("mag", 0)].map fun field =>
    (field.1, calibration.toNat >>> field.2 &&& 3)

/-- The signed byte at an offset. -/
def signed8 (data : List UInt8) (offset : ℕ) : ℤ :=
  ((data.getD offset 0).toNat : ℤ).bmod (2 ^ 8)

section Decode

variable [SquareRoots K]

/-- `decode_sample`. -/
def decodeSample (data : List UInt8) (startNs endNs : ℕ) : Except String (ImuSample K) := do
  raiseIf (data.length ≠ 46) "Expected 46-byte register burst"
  raiseIf (endNs < startNs ∨ 30000000 < (endNs : ℤ) - startNs)
    "I2C sample read invalid or older than 30ms"
  let quat : Fin 4 → K := shorts data 24 16384
  raiseIf (1 / 20 < |SquareRoots.sqrt (∑ index, quat index * quat index) - 1|)
    "Invalid quaternion norm; fusion not ready or bad sample"
  return { readStartNs := startNs
           readEndNs := endNs
           values := ⟨shorts data 0 100, shorts data 12 900, quat, shorts data 38 100⟩
           temperatureC := some (signed8 data 44)
           calibration := calibrationFields (data.getD 45 0)
           raw := data }

/-- `decode_packet`. -/
def decodePacket (payload : ImuPacket K) (nowNs previousSequence : ℕ) :
    Except String (NativeImuPacket K) := do
  raiseIf (payload.size ≠ 192 ∨ payload.slice 0 8 ≠ imuMagic 0x31)
    "native IMU packet size/version mismatch"
  raiseIf (payload.slice 78 2 ≠ List.replicate 2 0 ∨ payload.slice 184 8 ≠ List.replicate 8 0)
    "native IMU reserved bytes nonzero"
  let sequence := littleEndian (payload.slice 8 8)
  let start := littleEndian (payload.slice 16 8)
  let stop := littleEndian (payload.slice 24 8)
  raiseIf (sequence = 0 ∨ sequence < previousSequence) "native IMU sequence regression"
  raiseIf (start ≤ 0 ∨ nowNs < stop ∨ 30000000 < (nowNs : ℤ) - start)
    "native IMU stale/future timestamp"
  let sample ← decodeSample (payload.slice 32 46) start stop
  raiseIf (¬payload.ValuesFinite ∨ ¬payload.values.Within (1 / 10 ^ 12) sample.values)
    "native IMU decoded values disagree with raw registers"
  return ⟨sequence, sample⟩

end Decode

/-- `decode_software_packet`. -/
def decodeSoftwarePacket (payload : ImuPacket K) (nowNs previousSequence : ℕ) :
    Except String (NativeImuPacket K) := do
  raiseIf (payload.size ≠ 192 ∨ payload.slice 0 8 ≠ imuMagic 0x32)
    "software IMU packet size/version mismatch"
  raiseIf (payload.slice 50 6 ≠ List.replicate 6 0 ∨ payload.slice 184 8 ≠ List.replicate 8 0)
    "software IMU reserved bytes nonzero"
  let sequence := littleEndian (payload.slice 8 8)
  let start := littleEndian (payload.slice 16 8)
  let stop := littleEndian (payload.slice 24 8)
  raiseIf (sequence = 0 ∨ sequence < previousSequence) "software IMU sequence regression"
  raiseIf (¬(0 < start ∧ start ≤ stop ∧ stop ≤ nowNs) ∨ 30000000 < (nowNs : ℤ) - start)
    "software IMU stale/future timestamp"
  raiseIf (¬((∀ index : Fin 3, (payload.number (56 + 8 * index)).isSome = true) ∧
      payload.ValuesFinite) ∨ 1 / 100 < ∑ index, payload.bias index * payload.bias index)
    "invalid software IMU values/bias"
  let accel : Fin 3 → K := shorts (payload.slice 32 6) 0 100
  let gyro : Fin 3 → K := fun index => shorts (payload.slice 44 6) 0 900 index - payload.bias index
  raiseIf ((∃ index, 1 / 10 ^ 12 < |payload.values.acceleration index - accel index|) ∨
      ∃ index, 1 / 10 ^ 12 < |payload.values.gyro index - gyro index|)
    "software IMU raw/bias mismatch"
  let q := payload.values.quaternion
  raiseIf (1 / 10 ^ 6 < |q 0 * q 0 + q 1 * q 1 + q 2 * q 2 + q 3 * q 3 - 1|)
    "software IMU quaternion norm"
  raiseIf (∃ index, 1 / 10 ^ 9 < |payload.values.gravity index - standardGravity * upVector q index|)
    "software IMU gravity mismatch"
  return { sequence
           sample :=
             { readStartNs := start
               readEndNs := stop
               values := ⟨accel, gyro, q, payload.values.gravity⟩
               temperatureC := none
               calibration := []
               raw := payload.slice 32 18 } }

/-! ## Fields of a slice -/

/-- The two's complement value of a word of 16 bits. -/
theorem bmod_word {word : ℕ} (small : word < 65536) :
    (word : ℤ).bmod (2 ^ 16) = if 32768 ≤ word then (word : ℤ) - 65536 else word := by
  simp only [Int.bmod_def, Nat.reducePow, Nat.cast_ofNat]
  omega

theorem signed16Field_of_word {data : List UInt8} {index word : ℕ}
    (field : unsignedField data index 2 = word) (small : word < 65536) :
    signed16Field data index = if 32768 ≤ word then (word : ℤ) - 65536 else word := by
  subst field
  exact bmod_word small

/-- Python and C++ read the same short. -/
theorem signed16Field_eq {data : List UInt8} {index : ℕ} (inside : index + 2 ≤ data.length) :
    signed16Field data index = signed16 data index := by
  have first : index < data.length := by omega
  have second : index + 1 < data.length := by omega
  have bytes : (data.drop index).take 2 = [data[index], data[index + 1]] := by
    rw [List.drop_eq_getElem_cons first, List.drop_eq_getElem_cons second]
    rfl
  have lower : data.getD index 0 = data[index] := by
    rw [List.getD_eq_getElem?_getD, List.getElem?_eq_getElem first]
    rfl
  have upper : data.getD (index + 1) 0 = data[index + 1] := by
    rw [List.getD_eq_getElem?_getD, List.getElem?_eq_getElem second]
    rfl
  have small := data[index].toNat_lt
  have other := data[index + 1].toNat_lt
  have joined : (data.getD index 0).toNat ||| (data.getD (index + 1) 0).toNat <<< 8 =
      data[index].toNat + 256 * data[index + 1].toNat := by
    have power : (256 : ℕ) = 2 ^ 8 := by norm_num
    rw [lower, upper, Nat.or_comm, ← Nat.shiftLeft_add_eq_or_of_lt small, Nat.shiftLeft_eq, power,
      mul_comm, add_comm]
  have value : unsignedField data index 2 = data[index].toNat + 256 * data[index + 1].toNat := by
    rw [unsignedField, bytes]
    simp [littleEndian]
  have bounded : data[index].toNat + 256 * data[index + 1].toNat < 65536 := by
    norm_num at small other
    omega
  rw [signed16Field_of_word value bounded, signed16_of_word joined]

/-! ## What is accepted -/

section Acceptance

variable {payload : ImuPacket K} {nowNs previousSequence : ℕ} {packet : NativeImuPacket K}

/-- The times that both versions check. -/
theorem fresh_iff (start stop now : ℕ) :
    (¬start ≤ 0 ∧ stop ≤ now ∧ (now : ℤ) - start ≤ 30000000) ∧
        start ≤ stop ∧ (stop : ℤ) - start ≤ 30000000 ↔
      start ≠ 0 ∧ start ≤ stop ∧ stop ≤ now ∧ now - start ≤ 30000000 := by
  omega

omit [LinearOrder K] in
theorem shorts_slice {offset start : ℕ} {divisor : K} {count : ℕ} (index : Fin count)
    {size : ℕ} (inside : offset + 2 * count ≤ size) :
    shorts (payload.slice start size) offset divisor index =
      (signed16 (payload.slice start size) (offset + 2 * index) : K) / divisor := by
  have bounded := index.isLt
  rw [shorts, signed16Field_eq (by rw [length_slice]; omega)]

omit [LinearOrder K] in
/-- The values of a sample are those of its registers. -/
theorem shorts_raw : (⟨shorts payload.raw 0 100, shorts payload.raw 12 900,
    shorts payload.raw 24 16384, shorts payload.raw 38 100⟩ : ImuValues K) =
      registerValues payload.raw := by
  apply ImuValues.ext <;> funext index
  · exact (shorts_slice index (by omega)).trans (by rw [zero_add]; rfl)
  · exact shorts_slice index (by omega)
  · exact shorts_slice index (by omega)
  · exact shorts_slice index (by omega)

/-- The sample of a packet of the sensor. -/
def ImuPacket.hardwareSample (payload : ImuPacket K) : ImuSample K :=
  { readStartNs := payload.readU64 16
    readEndNs := payload.readU64 24
    values := registerValues payload.raw
    temperatureC := some (signed8 payload.raw 44)
    calibration := calibrationFields (payload.raw.getD 45 0)
    raw := payload.raw }

theorem decodeSample_eq_ok [SquareRoots K] {sample : ImuSample K} :
    decodeSample payload.raw (payload.readU64 16) (payload.readU64 24) = .ok sample ↔
      (payload.readU64 16 ≤ payload.readU64 24 ∧
        (payload.readU64 24 : ℤ) - payload.readU64 16 ≤ 30000000) ∧
      |SquareRoots.sqrt (∑ index, (registerValues payload.raw : ImuValues K).quaternion index *
          (registerValues payload.raw : ImuValues K).quaternion index) - 1| ≤ 1 / 20 ∧
      payload.hardwareSample = sample := by
  have length : payload.raw.length = 46 := length_slice ..
  have quaternion : (shorts payload.raw 24 16384 : Fin 4 → K) =
      (registerValues payload.raw : ImuValues K).quaternion := by
    rw [← shorts_raw]
  have made : (⟨payload.readU64 16, payload.readU64 24, ⟨shorts payload.raw 0 100,
      shorts payload.raw 12 900, (registerValues payload.raw).quaternion,
      shorts payload.raw 38 100⟩, some (signed8 payload.raw 44),
      calibrationFields (payload.raw.getD 45 0), payload.raw⟩ : ImuSample K) =
        payload.hardwareSample := by
    rw [← quaternion, shorts_raw]
    rfl
  simp only [decodeSample, quaternion, made, except_bind_eq_ok, raiseIf_eq_ok, length, ne_eq,
    not_true_eq_false, not_false_eq_true, not_or, not_lt, exists_const, true_and]
  exact and_congr_right fun _ => and_congr_right fun _ => ⟨Except.ok.inj, congrArg _⟩

/-- When `decode_packet` accepts a packet. -/
theorem decodePacket_eq_ok [SquareRoots K] :
    decodePacket payload nowNs previousSequence = .ok packet ↔
      FreshPacket payload (imuMagic 0x31) nowNs previousSequence ∧ HardwareValues payload ∧
        packet = ⟨payload.readU64 8, payload.hardwareSample⟩ := by
  have reserved : payload.slice 78 2 = List.replicate 2 0 ↔
      payload.byte 78 = 0 ∧ payload.byte 79 = 0 := by
    rw [slice_eq_replicate_iff]
    constructor
    · intro zero
      exact ⟨zero 0 (by omega), zero 1 (by omega)⟩
    · rintro ⟨first, second⟩ index inside
      obtain rfl | rfl : index = 0 ∨ index = 1 := by omega
      · exact first
      · exact second
  simp only [decodePacket, littleEndian_slice, slice_raw, except_bind_eq_ok, raiseIf_eq_ok,
    decodeSample_eq_ok, not_or, not_not, ne_eq, reserved, ← readU64_eq_zero_iff, not_lt]
  constructor
  · rintro ⟨_, ⟨size, magic⟩, _, ⟨reserved, trailing⟩, _, ⟨numbered, ordered⟩, _,
      ⟨started, past, fresh⟩, sample, ⟨⟨read, brief⟩, norm, rfl⟩, _, ⟨finite, within⟩, made⟩
    obtain ⟨started, read, past, fresh⟩ := (fresh_iff _ _ _).mp ⟨⟨started, past, fresh⟩, read, brief⟩
    exact ⟨⟨size, magic, trailing, numbered, ordered, started, read, past, fresh⟩,
      ⟨reserved, norm, finite, within⟩, (Except.ok.inj made).symm⟩
  · rintro ⟨⟨size, magic, trailing, numbered, ordered, started, read, past, fresh⟩,
      ⟨reserved, norm, finite, within⟩, rfl⟩
    obtain ⟨⟨started, past, fresh⟩, read, brief⟩ :=
      (fresh_iff _ _ _).mpr ⟨started, read, past, fresh⟩
    exact ⟨(), ⟨size, magic⟩, (), ⟨reserved, trailing⟩, (), ⟨numbered, ordered⟩, (),
      ⟨started, past, fresh⟩, _, ⟨⟨read, brief⟩, norm, rfl⟩, (), ⟨finite, within⟩, rfl⟩

/-- The sample of a packet of a filter. -/
def ImuPacket.softwareSample (payload : ImuPacket K) : ImuSample K :=
  { readStartNs := payload.readU64 16
    readEndNs := payload.readU64 24
    values :=
      { acceleration := expectedAcceleration false payload.raw
        gyro := fun index => expectedGyro 0 false payload.raw index - payload.bias index
        quaternion := payload.values.quaternion
        gravity := payload.values.gravity }
    temperatureC := none
    calibration := []
    raw := payload.slice 32 18 }

omit [LinearOrder K] in
/-- The accelerations of a slice of the packet are those of the registers. -/
theorem shorts_acceleration (index : Fin 3) :
    (shorts (payload.slice 32 6) 0 100 index : K) =
      expectedAcceleration false payload.raw index := by
  have short : signed16 (payload.slice 32 6) (0 + 2 * index) =
      signed16 payload.raw (2 * index) := by
    apply signed16_slice_eq <;> omega
  rw [shorts_slice index (by omega), short]
  rfl

omit [LinearOrder K] in
/-- The angular velocities of a slice of the packet are those of the registers. -/
theorem shorts_gyro {pi : K} (index : Fin 3) :
    (shorts (payload.slice 44 6) 0 900 index : K) = expectedGyro pi false payload.raw index := by
  have short : signed16 (payload.slice 44 6) (0 + 2 * index) =
      signed16 payload.raw (12 + 2 * index) := by
    apply signed16_slice_eq <;> omega
  rw [shorts_slice index (by omega), short]
  rfl

/-- When `decode_software_packet` accepts a packet. -/
theorem decodeSoftwarePacket_eq_ok {pi : K} :
    decodeSoftwarePacket payload nowNs previousSequence = .ok packet ↔
      FreshPacket payload (imuMagic 0x32) nowNs previousSequence ∧
        SoftwareValues pi payload false ∧
        packet = ⟨payload.readU64 8, payload.softwareSample⟩ := by
  have reserved : payload.slice 50 6 = List.replicate 6 0 ↔
      ∀ index ∈ List.range' 50 6, payload.byte index = 0 := by
    rw [slice_eq_replicate_iff]
    constructor
    · intro zero index member
      obtain ⟨place, inside, rfl⟩ := List.mem_range'.mp member
      rw [one_mul]
      exact zero place inside
    · intro zero index inside
      exact zero _ (List.mem_range'.mpr ⟨index, inside, by rw [one_mul]⟩)
  have times (start stop : ℕ) : ((0 < start ∧ start ≤ stop ∧ stop ≤ nowNs) ∧
      (nowNs : ℤ) - start ≤ 30000000) ↔
        start ≠ 0 ∧ start ≤ stop ∧ stop ≤ nowNs ∧ nowNs - start ≤ 30000000 := by
    omega
  have acceleration : (shorts (payload.slice 32 6) 0 100 : Fin 3 → K) =
      expectedAcceleration false payload.raw := funext shorts_acceleration
  have gyro (index : Fin 3) : (shorts (payload.slice 44 6) 0 900 index : K) =
      expectedGyro pi false payload.raw index := shorts_gyro index
  simp only [decodeSoftwarePacket, littleEndian_slice, acceleration, gyro, except_bind_eq_ok,
    raiseIf_eq_ok, not_or, not_not, ne_eq, reserved, ← readU64_eq_zero_iff, not_lt, not_exists,
    times]
  constructor
  · rintro ⟨_, ⟨size, magic⟩, _, ⟨reserved, trailing⟩, _, ⟨numbered, ordered⟩, _,
      ⟨started, read, past, fresh⟩, _, ⟨⟨biasFinite, finite⟩, bias⟩, _, ⟨acceleration, gyro⟩, _,
      norm, _, gravity, made⟩
    exact ⟨⟨size, magic, trailing, numbered, ordered, started, read, past, fresh⟩,
      ⟨reserved, finite, biasFinite, acceleration, gyro, bias, norm, gravity⟩,
      (Except.ok.inj made).symm⟩
  · rintro ⟨⟨size, magic, trailing, numbered, ordered, started, read, past, fresh⟩,
      ⟨reserved, finite, biasFinite, acceleration, gyro, bias, norm, gravity⟩, rfl⟩
    exact ⟨(), ⟨size, magic⟩, (), ⟨reserved, trailing⟩, (), ⟨numbered, ordered⟩, (),
      ⟨started, read, past, fresh⟩, (), ⟨⟨biasFinite, finite⟩, bias⟩, (), ⟨acceleration, gyro⟩, (),
      norm, (), gravity, rfl⟩

end Acceptance

end SpriteRuntime
