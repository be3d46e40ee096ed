import SpriteRuntime.Runtime.MitCodec
import SpriteRuntime.Runtime.MitEnvelope

/-!
# The zero-gain poll

A poll sends the position of the last feedback back to the motor, with zeros for everything
else.  With symmetric ranges of velocity and torque the position comes out as the code that was
read, and the Python encoder, the restricted writer and the controller agree on the bytes.
-/

namespace SpriteRuntime

open Foundation

/-- `_uint_to_float`. -/
def uintToFloat (value : ℕ) (limits : ℚ × ℚ) (bits : ℕ) : ℚ :=
  value * (limits.2 - limits.1) / ((1 <<< bits - 1 : ℕ) : ℚ) + limits.1

theorem uintToFloat_eq (value : ℕ) (limits : ℚ × ℚ) (bits : ℕ) :
    uintToFloat value limits bits = dequantize limits.1 limits.2 (2 ^ bits - 1) value := by
  rw [uintToFloat, Nat.one_shiftLeft, dequantize]

/-- `encode_zero_gain_position_echo`. -/
def encodeZeroGainPositionEcho (endpoint : DamiaoFeedbackEndpoint) (positionRad : ℚ) :
    Except DamiaoError EncodedDamiaoMitCommand := do
  let protocol := endpoint.ranges
  let maximumVelocity := minimumAbs protocol.velocityRadS
  let maximumTorque := minimumAbs protocol.torqueNm
  let envelope ← DamiaoMitCommandEnvelope.make protocol.positionRad maximumVelocity maximumTorque
    maximumTorque
  encodeDamiaoMitCommand endpoint ⟨positionRad, 0, 0, 0, 0⟩ ⟨positionRad, 0⟩ envelope

/-- `_validate_zero_gain_mit_payload`. -/
def validateZeroGainMitPayload (data : List UInt8) : Except String Unit := do
  raiseIf (data.length ≠ 8) "zero-gain MIT poll must contain exactly eight bytes"
  let byte := fun index => (data.getD index 0).toNat
  let velocityRaw := byte 2 <<< 4 ||| byte 3 >>> 4
  let kpRaw := (byte 3 &&& 0x0F) <<< 8 ||| byte 4
  let kdRaw := byte 5 <<< 4 ||| byte 6 >>> 4
  let torqueRaw := (byte 6 &&& 0x0F) <<< 8 ||| byte 7
  raiseIf (kpRaw ≠ 0 ∨ kdRaw ≠ 0) "zero-gain MIT poll requires raw Kp=Kd=0"
  raiseIf ((velocityRaw ≠ 2047 ∧ velocityRaw ≠ 2048) ∨ (torqueRaw ≠ 2047 ∧ torqueRaw ≠ 2048))
    "zero-gain MIT poll requires encoded velocity=torque=0"

/-- The writer reads the fields where the drive reads them. -/
theorem validateZeroGainMitPayload_ofFn {data : CanData} :
    validateZeroGainMitPayload (List.ofFn data) = .ok () ↔
      ((MitFields.unpack data).kp = 0 ∧ (MitFields.unpack data).kd = 0) ∧
        ((MitFields.unpack data).velocity = 2047 ∨ (MitFields.unpack data).velocity = 2048) ∧
        ((MitFields.unpack data).torque = 2047 ∨ (MitFields.unpack data).torque = 2048) := by
  have byte (index : Fin 8) : (List.ofFn data).getD index 0 = data index := by
    have inside : (index : ℕ) < (List.ofFn data).length := by simp
    rw [List.getD_eq_getElem?_getD, List.getElem?_eq_getElem inside, List.getElem_ofFn]
    rfl
  have byte2 : (List.ofFn data).getD 2 0 = data 2 := byte 2
  have byte3 : (List.ofFn data).getD 3 0 = data 3 := byte 3
  have byte4 : (List.ofFn data).getD 4 0 = data 4 := byte 4
  have byte5 : (List.ofFn data).getD 5 0 = data 5 := byte 5
  have byte6 : (List.ofFn data).getD 6 0 = data 6 := byte 6
  have byte7 : (List.ofFn data).getD 7 0 = data 7 := byte 7
  simp only [validateZeroGainMitPayload, except_bind_eq_ok, raiseIf_eq_ok, MitFields.unpack,
    byte2, byte3, byte4, byte5, byte6, byte7, List.length_ofFn, not_true_eq_false,
    not_false_eq_true, true_and, exists_const, not_or, not_and, not_not, ne_eq]
  tauto

/-! ## Symmetric ranges -/

/-- The range is as long below zero as above. -/
def IsSymmetric (limits : ℚ × ℚ) : Prop := limits.1 = -limits.2

theorem IsSymmetric.positive {limits : ℚ × ℚ} (symmetric : IsSymmetric limits)
    (ordered : limits.1 < limits.2) : 0 < limits.2 := by
  rw [symmetric] at ordered
  linarith

theorem IsSymmetric.minimumAbs {limits : ℚ × ℚ} (symmetric : IsSymmetric limits)
    (ordered : limits.1 < limits.2) : minimumAbs limits = limits.2 := by
  have positive := symmetric.positive ordered
  rw [SpriteRuntime.minimumAbs, symmetric, abs_neg, abs_of_pos positive, min_self]

/-- Zero stands between the two middle codes. -/
theorem IsSymmetric.quantize_zero {limits : ℚ × ℚ} (symmetric : IsSymmetric limits)
    (ordered : limits.1 < limits.2) : quantize limits.1 limits.2 (2 ^ 12 - 1) 0 = 2047 := by
  have positive := symmetric.positive ordered
  have middle : (0 - limits.1) / (limits.2 - limits.1) * ((2 ^ 12 - 1 : ℕ) : ℚ) = 4095 / 2 := by
    rw [symmetric]
    field_simp
    norm_num
    ring
  rw [quantize, middle, Nat.floor_eq_iff (by norm_num)]
  norm_num

section Symmetric

variable {endpoint : DamiaoFeedbackEndpoint}
  (velocitySymmetric : IsSymmetric endpoint.ranges.velocityRadS)
  (torqueSymmetric : IsSymmetric endpoint.ranges.torqueNm)

/-- The poll for a position that the motor has reported. -/
def echoCommand (endpoint : DamiaoFeedbackEndpoint) (raw : ℕ) : DamiaoMitCommand :=
  ⟨uintToFloat raw endpoint.ranges.positionRad 16, 0, 0, 0, 0⟩

include velocitySymmetric torqueSymmetric

theorem echoCommand_fields (raw : ℕ) :
    commandFields endpoint.ranges.toMitRanges (echoCommand endpoint raw) =
      ⟨raw, 2047, 0, 0, 2047⟩ := by
  have position : quantize endpoint.ranges.positionRad.1 endpoint.ranges.positionRad.2
      (2 ^ 16 - 1) (uintToFloat raw endpoint.ranges.positionRad 16) = raw := by
    rw [uintToFloat_eq]
    exact quantize_dequantize (by norm_num) endpoint.ranges.positionOrdered raw
  simp only [commandFields, echoCommand, position,
    velocitySymmetric.quantize_zero endpoint.ranges.velocityOrdered,
    torqueSymmetric.quantize_zero endpoint.ranges.torqueOrdered]
  simp [quantize]

theorem echoCommand_inside (raw : UInt16) :
    FieldsInside endpoint.ranges.toMitRanges (echoCommand endpoint raw.toNat) := by
  have velocityPositive := velocitySymmetric.positive endpoint.ranges.velocityOrdered
  have torquePositive := torqueSymmetric.positive endpoint.ranges.torqueOrdered
  have code : raw.toNat ≤ 2 ^ 16 - 1 := Nat.le_pred_of_lt raw.toNat_lt
  constructor
  · rw [echoCommand, uintToFloat_eq]
    exact ⟨le_dequantize endpoint.ranges.positionOrdered.le _,
      dequantize_le endpoint.ranges.positionOrdered.le code⟩
  · rw [velocitySymmetric]
    exact ⟨neg_nonpos.mpr velocityPositive.le, velocityPositive.le⟩
  · exact ⟨le_refl 0, by norm_num [echoCommand]⟩
  · exact ⟨le_refl 0, by norm_num [echoCommand]⟩
  · rw [torqueSymmetric]
    exact ⟨neg_nonpos.mpr torquePositive.le, torquePositive.le⟩

/-- The encoder accepts the poll. -/
theorem exists_echo (raw : UInt16) :
    ∃ encoded, encodeZeroGainPositionEcho endpoint
        (uintToFloat raw.toNat endpoint.ranges.positionRad 16) = .ok encoded ∧
      encoded.data = MitFields.pack ⟨raw.toNat, 2047, 0, 0, 2047⟩ := by
  have velocity := velocitySymmetric.minimumAbs endpoint.ranges.velocityOrdered
  have torque := torqueSymmetric.minimumAbs endpoint.ranges.torqueOrdered
  have velocityPositive := velocitySymmetric.positive endpoint.ranges.velocityOrdered
  have torquePositive := torqueSymmetric.positive endpoint.ranges.torqueOrdered
  let envelope : DamiaoMitCommandEnvelope :=
    { positionRad := endpoint.ranges.positionRad
      maximumVelocityRadS := minimumAbs endpoint.ranges.velocityRadS
      maximumFeedforwardTorqueNm := minimumAbs endpoint.ranges.torqueNm
      maximumOutputTorqueNm := minimumAbs endpoint.ranges.torqueNm
      positionOrdered := endpoint.ranges.positionOrdered
      velocityPositive := velocity ▸ velocityPositive
      feedforwardPositive := torque ▸ torquePositive
      outputPositive := torque ▸ torquePositive }
  have inside := echoCommand_inside velocitySymmetric torqueSymmetric raw
  have allows : EnvelopeAllows endpoint (echoCommand endpoint raw.toNat)
      ⟨uintToFloat raw.toNat endpoint.ranges.positionRad 16, 0⟩ envelope := by
    have noTorque : estimatedOutputTorqueNm (echoCommand endpoint raw.toNat)
        ⟨uintToFloat raw.toNat endpoint.ranges.positionRad 16, 0⟩ = 0 := by
      simp [estimatedOutputTorqueNm, echoCommand]
    constructor
    · exact le_refl _
    · exact le_refl _
    · exact minimumAbs_le_maximumAbs _
    · exact minimumAbs_le_maximumAbs _
    · exact minimumAbs_le_maximumAbs _
    · exact inside.position
    · exact abs_zero.trans_le envelope.velocityPositive.le
    · exact abs_zero.trans_le envelope.feedforwardPositive.le
    · rw [noTorque, abs_zero]
      exact envelope.outputPositive.le
  refine ⟨_, except_bind_eq_ok.mpr ⟨envelope,
    DamiaoMitCommandEnvelope.make_eq_ok_iff.mpr ⟨rfl, rfl, rfl, rfl⟩,
    encodeDamiaoMitCommand_eq_ok_iff.mpr ⟨allows, inside, rfl⟩⟩, ?_⟩
  have fields := echoCommand_fields velocitySymmetric torqueSymmetric raw.toNat
  exact (mitBytes_eq_pack (commandFields_inRange inside)).trans (congrArg MitFields.pack fields)

end Symmetric

/-- **The zero-gain poll is a fixed point.**  The position that was read goes back as the same
code among zeros, and the writer and the controller take the same eight bytes. -/
theorem encodeZeroGainPositionEcho_fixedPoint (endpoint : DamiaoFeedbackEndpoint)
    (velocitySymmetric : IsSymmetric endpoint.ranges.velocityRadS)
    (torqueSymmetric : IsSymmetric endpoint.ranges.torqueNm) (raw : UInt16) :
    ∃ encoded, encodeZeroGainPositionEcho endpoint
        (uintToFloat raw.toNat endpoint.ranges.positionRad 16) = .ok encoded ∧
      MitFields.unpack encoded.data = ⟨raw.toNat, 2047, 0, 0, 2047⟩ ∧
      validateZeroGainMitPayload (List.ofFn encoded.data) = .ok () ∧
      ∀ (descriptor : MotorDescriptor) (motor : MotorState),
        HasRanges descriptor endpoint.ranges.toMitRanges →
        motor.lastPosition = uintToFloat raw.toNat endpoint.ranges.positionRad 16 →
          zeroGainPayload descriptor motor = .ok encoded.data := by
  obtain ⟨encoded, ok, data⟩ := exists_echo velocitySymmetric torqueSymmetric raw
  have inside := echoCommand_inside velocitySymmetric torqueSymmetric raw
  have fields := echoCommand_fields velocitySymmetric torqueSymmetric raw.toNat
  have inRange := commandFields_inRange inside
  rw [fields] at inRange
  have unpacked : MitFields.unpack encoded.data = ⟨raw.toNat, 2047, 0, 0, 2047⟩ := by
    rw [data, MitFields.unpack_pack inRange]
  refine ⟨encoded, ok, unpacked, ?_, ?_⟩
  · rw [validateZeroGainMitPayload_ofFn, unpacked]
    exact ⟨⟨rfl, rfl⟩, .inl rfl, .inl rfl⟩
  · intro descriptor motor has measured
    obtain ⟨positionRange, velocityRange, torqueRange⟩ := has
    obtain ⟨low, high⟩ := Prod.mk.inj positionRange
    obtain ⟨velocityLow, velocityHigh⟩ := Prod.mk.inj velocityRange
    obtain ⟨torqueLow, torqueHigh⟩ := Prod.mk.inj torqueRange
    have position : encodeUint motor.lastPosition descriptor.positionMin descriptor.positionMax 16 =
        .ok raw.toNat := by
      rw [measured, low, high]
      exact encodeUint_eq_ok.mpr ⟨inside.position, congrArg MitFields.position fields⟩
    have velocity : encodeUint 0 descriptor.velocityMin descriptor.velocityMax 12 = .ok 2047 := by
      rw [velocityLow, velocityHigh]
      exact encodeUint_eq_ok.mpr ⟨inside.velocity, congrArg MitFields.velocity fields⟩
    have torque : encodeUint 0 descriptor.torqueMin descriptor.torqueMax 12 = .ok 2047 := by
      rw [torqueLow, torqueHigh]
      exact encodeUint_eq_ok.mpr ⟨inside.torque, congrArg MitFields.torque fields⟩
    refine except_bind_eq_ok.mpr ⟨_, position, except_bind_eq_ok.mpr ⟨_, velocity,
      except_bind_eq_ok.mpr ⟨_, torque, ?_⟩⟩⟩
    dsimp only
    rw [MitFields.unpack_pack inRange, data]
    rfl

/-- The poll of the hip after it has reported the last code. -/
theorem encodeZeroGainPositionEcho_fixedPoint_hip :
    ∃ encoded, encodeZeroGainPositionEcho hipEndpoint
        (uintToFloat (0xFFFF : UInt16).toNat hipRanges.positionRad 16) = .ok encoded ∧
      MitFields.unpack encoded.data = ⟨0xFFFF, 2047, 0, 0, 2047⟩ := by
  obtain ⟨encoded, ok, unpacked, _⟩ := encodeZeroGainPositionEcho_fixedPoint hipEndpoint
    (by unfold IsSymmetric; decide +kernel) (by unfold IsSymmetric; decide +kernel) 0xFFFF
  exact ⟨encoded, ok, unpacked⟩

end SpriteRuntime
