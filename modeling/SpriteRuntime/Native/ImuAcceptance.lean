import SpriteRuntime.Native.ImuEncoding

/-!
# What the encoders write is accepted

Each encoder writes packets that pass the checks of its version, with the values that were encoded.
-/

namespace SpriteRuntime

open Foundation ImuPacket

variable {K : Type} [Field K] [LinearOrder K]

section Packets

variable {packet : ImuPacket K} {offset : ℕ} {numbers : List K} {magic : List UInt8}
  {now previous : ℕ}

omit [Field K] [LinearOrder K] in
/-- The doubles do not count for the header. -/
theorem FreshPacket.putDoubles (fresh : FreshPacket packet magic now previous) :
    FreshPacket (packet.putDoubles offset numbers) magic now previous :=
  ⟨fresh.size, fresh.magic, fresh.trailing, fresh.numbered, fresh.ordered, fresh.started,
    fresh.read, fresh.past, fresh.fresh⟩

variable [IsStrictOrderedRing K]

theorem ImuValues.Within.refl (values : ImuValues K) {tolerance : K} (nonneg : 0 ≤ tolerance) :
    values.Within tolerance values := by
  constructor <;> intro index <;> rwa [sub_self, abs_zero]

end Packets

/-! ## Hardware packets -/

section Hardware

variable [SquareRoots K] {raw : Fin 46 → UInt8} {sequence start stop : UInt64}
  {packet : ImuPacket K}

/-- The packet of hardware samples. -/
def hardwarePacket (raw : Fin 46 → UInt8) (sequence start stop : UInt64) : ImuPacket K :=
  (written 0x31 sequence start stop (List.ofFn raw)).putDoubles 80
    (registerValues (List.ofFn raw)).list

theorem encodeHardware_eq_ok : encodeHardware raw sequence start stop = .ok packet ↔
    ¬StampFailure sequence start stop ∧
      (∃ values : ImuValues K, decodeRegisters (List.ofFn raw) = .ok values) ∧
      hardwarePacket raw sequence start stop = packet := by
  simp only [encodeHardware, except_bind_eq_ok, raiseIf_eq_ok, exists_const]
  refine and_congr_right fun _ => ?_
  constructor
  · rintro ⟨values, decoded, made⟩
    obtain ⟨_, rfl⟩ := decodeRegisters_eq_ok.mp decoded
    exact ⟨⟨_, decoded⟩, Except.ok.inj made⟩
  · rintro ⟨⟨values, decoded⟩, rfl⟩
    obtain ⟨_, rfl⟩ := decodeRegisters_eq_ok.mp decoded
    exact ⟨_, decoded, rfl⟩

omit [LinearOrder K] [SquareRoots K] in
theorem raw_hardwarePacket :
    (hardwarePacket raw sequence start stop : ImuPacket K).raw = List.ofFn raw :=
  raw_written List.length_ofFn

theorem hardwareValues_hardwarePacket [IsStrictOrderedRing K] {values : ImuValues K}
    (decoded : decodeRegisters (List.ofFn raw) = .ok values) :
    HardwareValues (hardwarePacket raw sequence start stop : ImuPacket K) := by
  obtain ⟨norm, rfl⟩ := decodeRegisters_eq_ok.mp decoded
  have length : (List.ofFn raw).length = 46 := List.length_ofFn
  have zero (index : ℕ) (after : 78 ≤ index) :
      (written 0x31 sequence start stop (List.ofFn raw) : ImuPacket K).byte index = 0 :=
    byte_written (by omega)
  constructor
  · exact ⟨zero 78 le_rfl, zero 79 (by omega)⟩
  · rwa [raw_hardwarePacket]
  · exact valuesFinite_putDoubles
  · rw [raw_hardwarePacket, hardwarePacket, values_putDoubles]
    exact ImuValues.Within.refl _ (by positivity)

end Hardware

/-! ## Packets of a filter -/

section Bias

variable {packet : ImuPacket K} {numbers : Fin 3 → K} {values : ImuValues K}

omit [Field K] [LinearOrder K] in
theorem number_bias (index : Fin 3) :
    ((packet.putDoubles 56 (List.ofFn numbers)).putDoubles 80 values.list).number
      (56 + 8 * index) = some (numbers index) := by
  have bounded := index.isLt
  rw [number_putDoubles_of_disjoint (by omega), number_putDoubles (by simp), List.getElem?_ofFn,
    dif_pos bounded]

omit [LinearOrder K] in
theorem bias_putDoubles :
    ((packet.putDoubles 56 (List.ofFn numbers)).putDoubles 80 values.list).bias = numbers := by
  funext index
  rw [bias, double, number_bias]
  rfl

/-- The bound of the norm of a bias, in the form in which it is checked. -/
theorem sum_bias_le [IsStrictOrderedRing K] [SquareRoots K]
    (small : SquareRoots.sqrt (∑ index, numbers index * numbers index) ≤ 1 / 10) :
    ∑ index, numbers index * numbers index ≤ 1 / 100 := by
  have nonneg : 0 ≤ ∑ index, numbers index * numbers index :=
    Finset.sum_nonneg fun index _ => mul_self_nonneg _
  calc ∑ index, numbers index * numbers index ≤ 1 / 10 * (1 / 10) :=
        SquareRoots.le_mul_self_of_sqrt_le nonneg small
    _ = 1 / 100 := by norm_num

end Bias

section Software

variable {pi : K} {raw : Fin 46 → UInt8} {filter : SixAxis K} {sequence start stop : UInt64}
  {packet : ImuPacket K}

/-- The packet of software samples. -/
def softwarePacket (raw : Fin 46 → UInt8) (filter : SixAxis K) (sequence start stop : UInt64) :
    ImuPacket K :=
  ((written 0x32 sequence start stop ((List.ofFn raw).take 18)).putDoubles 56
    (List.ofFn filter.bias)).putDoubles 80 (softwareValues (List.ofFn raw) filter).list

omit [LinearOrder K] in
theorem encodeSoftware_eq_ok : encodeSoftware raw filter sequence start stop = .ok packet ↔
    ¬StampFailure sequence start stop ∧ softwarePacket raw filter sequence start stop = packet := by
  simp only [encodeSoftware, except_bind_eq_ok, raiseIf_eq_ok, exists_const]
  exact and_congr_right fun _ => ⟨Except.ok.inj, congrArg _⟩

omit [LinearOrder K] in
/-- The shorts among the first 18 registers are those of the sensor. -/
theorem signed16_softwarePacket {place : ℕ} (inside : place + 2 ≤ 18) :
    signed16 (softwarePacket raw filter sequence start stop).raw place =
      signed16 (List.ofFn raw) place := by
  have length : ((List.ofFn raw).take 18).length = 18 := by simp
  have taken {index : ℕ} (within : index < 18) :
      ((List.ofFn raw).take 18).getD index 0 = (List.ofFn raw).getD index 0 := by
    rw [List.getD_eq_getElem?_getD, List.getD_eq_getElem?_getD, List.getElem?_take_of_lt within]
  have shorts : signed16 ((List.ofFn raw).take 18) place = signed16 (List.ofFn raw) place := by
    rw [signed16, taken (by omega), taken (by omega), signed16]
  rw [softwarePacket, raw_putDoubles, raw_putDoubles, signed16_written (by omega) (by omega),
    shorts]

omit [LinearOrder K] in
theorem acceleration_softwarePacket (index : Fin 3) :
    expectedAcceleration false (softwarePacket raw filter sequence start stop).raw index =
      (softwareValues (List.ofFn raw) filter).acceleration index := by
  have bounded := index.isLt
  have inside : 2 * (index : ℕ) + 2 ≤ 18 := by omega
  simp only [expectedAcceleration, Bool.false_eq_true, if_false, signed16_softwarePacket inside,
    softwareValues, rawAccel]

omit [LinearOrder K] in
theorem gyro_softwarePacket (index : Fin 3) :
    expectedGyro pi false (softwarePacket raw filter sequence start stop).raw index -
        (softwarePacket raw filter sequence start stop).bias index =
      (softwareValues (List.ofFn raw) filter).gyro index := by
  have bounded := index.isLt
  have inside : 12 + 2 * (index : ℕ) + 2 ≤ 18 := by omega
  have bias : (softwarePacket raw filter sequence start stop).bias = filter.bias :=
    bias_putDoubles
  simp only [expectedGyro, Bool.false_eq_true, if_false, signed16_softwarePacket inside, bias,
    softwareValues, rawGyro, SixAxis.correctedGyro, Pi.sub_apply]

theorem softwareValues_softwarePacket [IsStrictOrderedRing K]
    (unit : filter.quaternion 0 * filter.quaternion 0 +
      filter.quaternion 1 * filter.quaternion 1 + filter.quaternion 2 * filter.quaternion 2 +
      filter.quaternion 3 * filter.quaternion 3 = 1)
    (small : ∑ index, filter.bias index * filter.bias index ≤ 1 / 100) :
    SoftwareValues pi (softwarePacket raw filter sequence start stop) false := by
  have values : (softwarePacket raw filter sequence start stop).values =
      softwareValues (List.ofFn raw) filter := values_putDoubles
  have length : ((List.ofFn raw).take 18).length = 18 := by simp
  constructor
  · intro index member
    obtain ⟨place, _, rfl⟩ := List.mem_range'.mp member
    have zero : (written 0x32 sequence start stop ((List.ofFn raw).take 18) : ImuPacket K).byte
        (50 + 1 * place) = 0 := byte_written (by omega)
    exact zero
  · exact valuesFinite_putDoubles
  · intro index
    rw [softwarePacket, number_bias]
    rfl
  · intro index
    rw [values, acceleration_softwarePacket, sub_self, abs_zero]
    positivity
  · intro index
    rw [values, gyro_softwarePacket, sub_self, abs_zero]
    positivity
  · rwa [softwarePacket, bias_putDoubles]
  · rw [values, softwareValues, unit, sub_self, abs_zero]
    positivity
  · intro index
    rw [values, softwareValues, SixAxis.up, sub_self, abs_zero]
    positivity

end Software

end SpriteRuntime
