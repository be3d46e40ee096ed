import Mathlib.Analysis.SpecialFunctions.Trigonometric.Basic
import SpriteRuntime.Native.ImuAcceptance
import SpriteRuntime.Runtime.NativeImuPacket

/-!
# Both sides accept the same IMU packets

The Python decoders and the validation of the policy client accept the same packets of versions 1
and 2, among them all that the encoders write.
-/

namespace SpriteRuntime

open Foundation ImuPacket

variable {K : Type} [Field K] [LinearOrder K]

omit [Field K] [LinearOrder K] in
/-- What the other side calls a snapshot. -/
def NativeImuPacket.snapshot (packet : NativeImuPacket K) : ImuSnapshot K :=
  ⟨packet.sequence, packet.sample.readStartNs, packet.sample.readEndNs, packet.sample.values⟩

/-- The same sample up to a tolerance of its values. -/
structure ImuSnapshot.Agrees (tolerance : K) (left right : ImuSnapshot K) : Prop where
  sequence : left.sequence = right.sequence
  start : left.start = right.start
  stop : left.stop = right.stop
  values : left.values.Within tolerance right.values

/-- Both sides accept, or neither does, and what they accept agrees. -/
def DecodersAgree (native : Except String (ImuSnapshot K))
    (python : Except String (NativeImuPacket K)) : Prop :=
  ((∃ snapshot, native = .ok snapshot) ↔ ∃ packet, python = .ok packet) ∧
    ∀ snapshot packet, native = .ok snapshot → python = .ok packet →
      snapshot.Agrees (1 / 10 ^ 12) packet.snapshot

/-- Both sides accept and give the sample. -/
def BothDecode (native : Except String (ImuSnapshot K))
    (python : Except String (NativeImuPacket K)) (snapshot : ImuSnapshot K) : Prop :=
  native = .ok snapshot ∧ ∃ packet, python = .ok packet ∧ packet.snapshot = snapshot

variable [IsStrictOrderedRing K] [SquareRoots K] {pi : K} {packet : ImuPacket K}
  {now previous : ℕ}

theorem hardware_agree : DecodersAgree (validateImuPacket pi packet now previous false false)
    (decodePacket packet now previous) := by
  constructor
  · constructor
    · rintro ⟨snapshot, accepted⟩
      obtain ⟨fresh, values, rfl⟩ := validateImuPacket_hardware.mp accepted
      exact ⟨_, decodePacket_eq_ok.mpr ⟨fresh, values, rfl⟩⟩
    · rintro ⟨decoded, accepted⟩
      obtain ⟨fresh, values, rfl⟩ := decodePacket_eq_ok.mp accepted
      exact ⟨_, validateImuPacket_hardware.mpr ⟨fresh, values, rfl⟩⟩
  · intro snapshot decoded native python
    obtain ⟨_, _, rfl⟩ := validateImuPacket_hardware.mp native
    obtain ⟨_, _, rfl⟩ := decodePacket_eq_ok.mp python
    exact ⟨rfl, rfl, rfl, ImuValues.Within.refl _ (by positivity)⟩

theorem software_agree : DecodersAgree (validateImuPacket pi packet now previous true false)
    (decodeSoftwarePacket packet now previous) := by
  constructor
  · constructor
    · rintro ⟨snapshot, accepted⟩
      obtain ⟨fresh, values, rfl⟩ := (validateImuPacket_software rfl).mp accepted
      exact ⟨_, decodeSoftwarePacket_eq_ok.mpr ⟨fresh, values, rfl⟩⟩
    · rintro ⟨decoded, accepted⟩
      obtain ⟨fresh, values, rfl⟩ := decodeSoftwarePacket_eq_ok.mp accepted
      exact ⟨_, (validateImuPacket_software rfl).mpr ⟨fresh, values, rfl⟩⟩
  · intro snapshot decoded native python
    obtain ⟨_, values, rfl⟩ := (validateImuPacket_software rfl).mp native
    obtain ⟨_, (_ : SoftwareValues pi packet false), rfl⟩ := decodeSoftwarePacket_eq_ok.mp python
    have nonneg : (0 : K) ≤ 1 / 10 ^ 12 := by positivity
    refine ⟨rfl, rfl, rfl, values.acceleration, values.gyro, ?_, ?_⟩
    · exact (ImuValues.Within.refl packet.values nonneg).quaternion
    · exact (ImuValues.Within.refl packet.values nonneg).gravity

/-! ## Encoded packets -/

section Encoded

variable {raw : Fin 46 → UInt8} {sequence start stop : UInt64}

theorem hardware_decode (encoded : encodeHardware raw sequence start stop = .ok packet)
    (past : stop.toNat ≤ now) (fresh : now ≤ start.toNat + 30000000)
    (ordered : previous ≤ sequence.toNat) :
    BothDecode (validateImuPacket pi packet now previous false false)
      (decodePacket packet now previous)
      ⟨sequence.toNat, start.toNat, stop.toNat, registerValues (List.ofFn raw)⟩ := by
  obtain ⟨valid, ⟨values, decoded⟩, rfl⟩ := encodeHardware_eq_ok.mp encoded
  have header : FreshPacket (hardwarePacket raw sequence start stop : ImuPacket K)
      (imuMagic 0x31) now previous :=
    (fresh_written (by simp) valid ordered past fresh).putDoubles
  have checked : HardwareValues (hardwarePacket raw sequence start stop : ImuPacket K) :=
    hardwareValues_hardwarePacket decoded
  have numbered : (hardwarePacket raw sequence start stop : ImuPacket K).readU64 8 =
      sequence.toNat := sequence_written
  have started : (hardwarePacket raw sequence start stop : ImuPacket K).readU64 16 =
      start.toNat := start_written
  have stopped : (hardwarePacket raw sequence start stop : ImuPacket K).readU64 24 =
      stop.toNat := stop_written
  constructor
  · apply validateImuPacket_hardware.mpr
    rw [numbered, started, stopped, raw_hardwarePacket]
    exact ⟨header, checked, rfl⟩
  · refine ⟨_, decodePacket_eq_ok.mpr ⟨header, checked, rfl⟩, ?_⟩
    rw [NativeImuPacket.snapshot, hardwareSample, numbered, started, stopped, raw_hardwarePacket]

theorem software_decode {filter : SixAxis K}
    (unit : filter.quaternion 0 * filter.quaternion 0 +
      filter.quaternion 1 * filter.quaternion 1 + filter.quaternion 2 * filter.quaternion 2 +
      filter.quaternion 3 * filter.quaternion 3 = 1)
    (small : SquareRoots.sqrt (∑ index, filter.bias index * filter.bias index) ≤ 1 / 10)
    (encoded : encodeSoftware raw filter sequence start stop = .ok packet)
    (past : stop.toNat ≤ now) (fresh : now ≤ start.toNat + 30000000)
    (ordered : previous ≤ sequence.toNat) :
    BothDecode (validateImuPacket pi packet now previous true false)
      (decodeSoftwarePacket packet now previous)
      ⟨sequence.toNat, start.toNat, stop.toNat, softwareValues (List.ofFn raw) filter⟩ := by
  obtain ⟨valid, rfl⟩ := encodeSoftware_eq_ok.mp encoded
  have header : FreshPacket (softwarePacket raw filter sequence start stop) (imuMagic 0x32) now
      previous :=
    (fresh_written (by simp) valid ordered past fresh).putDoubles.putDoubles
  have checked : SoftwareValues pi (softwarePacket raw filter sequence start stop) false :=
    softwareValues_softwarePacket unit (sum_bias_le small)
  have numbered : (softwarePacket raw filter sequence start stop).readU64 8 =
      sequence.toNat := sequence_written
  have started : (softwarePacket raw filter sequence start stop).readU64 16 =
      start.toNat := start_written
  have stopped : (softwarePacket raw filter sequence start stop).readU64 24 =
      stop.toNat := stop_written
  have values : (softwarePacket raw filter sequence start stop).values =
      softwareValues (List.ofFn raw) filter := values_putDoubles
  constructor
  · apply (validateImuPacket_software rfl).mpr
    rw [numbered, started, stopped, values]
    exact ⟨header, checked, rfl⟩
  · have sample : (softwarePacket raw filter sequence start stop).softwareSample.values =
        softwareValues (List.ofFn raw) filter := by
      apply ImuValues.ext <;> funext index
      · exact acceleration_softwarePacket index
      · exact gyro_softwarePacket index
      · exact congrFun (congrArg ImuValues.quaternion values) index
      · exact congrFun (congrArg ImuValues.gravity values) index
    refine ⟨_, decodeSoftwarePacket_eq_ok.mpr ⟨header, checked, rfl⟩, ?_⟩
    rw [NativeImuPacket.snapshot, sample, softwareSample, numbered, started, stopped]

end Encoded

/-! ## The result -/

/-- The decoders of both sides agree on every byte string and decode what the encoders write. -/
theorem imuDecoders_agree (pi : K) :
    (∀ (message : List UInt8) (now previous : ℕ),
      DecodersAgree (validateImuPacket pi (.ofBytes message) now previous false false)
          (decodePacket (.ofBytes message) now previous) ∧
        DecodersAgree (validateImuPacket pi (.ofBytes message) now previous true false)
          (decodeSoftwarePacket (.ofBytes message) now previous)) ∧
    (∀ (raw : Fin 46 → UInt8) (sequence start stop : UInt64) (packet : ImuPacket K)
        (now previous : ℕ), encodeHardware raw sequence start stop = .ok packet →
      stop.toNat ≤ now → now ≤ start.toNat + 30000000 → previous ≤ sequence.toNat →
        BothDecode (validateImuPacket pi packet now previous false false)
          (decodePacket packet now previous)
          ⟨sequence.toNat, start.toNat, stop.toNat, registerValues (List.ofFn raw)⟩) ∧
    ∀ (raw : Fin 46 → UInt8) (filter : SixAxis K) (sequence start stop : UInt64)
        (packet : ImuPacket K) (now previous : ℕ),
      filter.quaternion 0 * filter.quaternion 0 + filter.quaternion 1 * filter.quaternion 1 +
        filter.quaternion 2 * filter.quaternion 2 + filter.quaternion 3 * filter.quaternion 3 = 1 →
      SquareRoots.sqrt (∑ index, filter.bias index * filter.bias index) ≤ 1 / 10 →
      encodeSoftware raw filter sequence start stop = .ok packet →
      stop.toNat ≤ now → now ≤ start.toNat + 30000000 → previous ≤ sequence.toNat →
        BothDecode (validateImuPacket pi packet now previous true false)
          (decodeSoftwarePacket packet now previous)
          ⟨sequence.toNat, start.toNat, stop.toNat, softwareValues (List.ofFn raw) filter⟩ := by
  refine ⟨fun message now previous => ⟨hardware_agree, software_agree⟩, ?_, ?_⟩
  · intro raw sequence start stop packet now previous encoded past fresh ordered
    exact hardware_decode encoded past fresh ordered
  · intro raw filter sequence start stop packet now previous unit small encoded past fresh ordered
    exact software_decode unit small encoded past fresh ordered

/-- Registers of a sensor that lies level: only the first number of its quaternion is not zero. -/
def levelRegisters (index : Fin 46) : UInt8 := if index = 25 then 0x40 else 0

/-- A filter that has found the sensor to lie level. -/
def levelFilter : SixAxis ℝ := ⟨![1, 0, 0, 0], 0⟩

theorem quaternion_levelRegisters :
    (registerValues (List.ofFn levelRegisters) : ImuValues ℝ).quaternion = ![1, 0, 0, 0] := by
  have shorts : ∀ index : Fin 4, signed16 (List.ofFn levelRegisters) (24 + 2 * index) =
      ![16384, 0, 0, 0] index := by decide
  funext index
  simp only [registerValues, shorts]
  fin_cases index <;> simp

theorem decodeRegisters_level : decodeRegisters (List.ofFn levelRegisters) =
    .ok (registerValues (List.ofFn levelRegisters) : ImuValues ℝ) := by
  apply decodeRegisters_eq_ok.mpr
  rw [quaternion_levelRegisters]
  constructor
  · have sum : ∑ index, (![1, 0, 0, 0] : Fin 4 → ℝ) index * ![1, 0, 0, 0] index = 1 := by
      simp [Fin.sum_univ_four]
    rw [sum, SquareRoots.sqrt_one, sub_self, abs_zero]
    positivity
  · rfl

/-- Packets of a level sensor, received a millisecond later. -/
theorem imuDecoders_agree_level :
    BothDecode (validateImuPacket Real.pi (hardwarePacket levelRegisters 1 1000 2000) 1002000 1
        false false) (decodePacket (hardwarePacket levelRegisters 1 1000 2000) 1002000 1)
      ⟨1, 1000, 2000, registerValues (List.ofFn levelRegisters)⟩ ∧
    BothDecode (validateImuPacket Real.pi (softwarePacket levelRegisters levelFilter 1 1000 2000)
        1002000 1 true false)
      (decodeSoftwarePacket (softwarePacket levelRegisters levelFilter 1 1000 2000) 1002000 1)
      ⟨1, 1000, 2000, softwareValues (List.ofFn levelRegisters) levelFilter⟩ := by
  have valid : ¬StampFailure 1 1000 2000 := by decide
  have small : SquareRoots.sqrt (∑ index, levelFilter.bias index * levelFilter.bias index) ≤
      (1 / 10 : ℝ) := by
    simp [levelFilter, SquareRoots.sqrt]
  have unit : levelFilter.quaternion 0 * levelFilter.quaternion 0 +
      levelFilter.quaternion 1 * levelFilter.quaternion 1 +
      levelFilter.quaternion 2 * levelFilter.quaternion 2 +
      levelFilter.quaternion 3 * levelFilter.quaternion 3 = 1 := by
    simp [levelFilter]
  have encoded := encodeHardware_eq_ok.mpr ⟨valid, ⟨_, decodeRegisters_level⟩, rfl⟩
  have filtered : encodeSoftware levelRegisters levelFilter 1 1000 2000 = .ok _ :=
    encodeSoftware_eq_ok.mpr ⟨valid, rfl⟩
  constructor
  · exact (imuDecoders_agree Real.pi).2.1 levelRegisters 1 1000 2000 _ 1002000 1 encoded
      (by decide) (by decide) (by decide)
  · exact (imuDecoders_agree Real.pi).2.2 levelRegisters levelFilter 1 1000 2000 _ 1002000 1 unit
      small filtered (by decide) (by decide) (by decide)

end SpriteRuntime
