import SpriteRuntime.Foundation.Quantizer
import SpriteRuntime.Native.Motor
import Mathlib.Data.Fin.VecNotation
import Mathlib.Algebra.Order.Ring.Abs

/-!
# MIT frames

The five fields of an impedance command are quantized to 16 or 12 bits and
packed into the eight data bytes of a CAN frame.  `protected_policy_payload` is
the last gate in front of the powered motors: it checks the torque that the
quantized fields, not the command they came from, ask for.
-/

namespace SpriteRuntime

open Foundation

/-- The slack of the comparisons between floating-point numbers. -/
def tolerance : ℚ := 1 / 1000000000

/-- The data bytes of a classic-length CAN frame. -/
abbrev CanData := Fin 8 → UInt8

def encodeUint (value low high : ℚ) (bits : ℕ) : Except String ℕ :=
  if ¬(low ≤ value ∧ value ≤ high) then
    .error "MIT value outside configured range"
  else .ok (quantize low high (2 ^ bits - 1) value)

def decodeUint (value : ℕ) (low high : ℚ) (bits : ℕ) : ℚ :=
  dequantize low high (2 ^ bits - 1) value

theorem encodeUint_eq_ok {value low high : ℚ} {bits code : ℕ} :
    encodeUint value low high bits = .ok code ↔
      (low ≤ value ∧ value ≤ high) ∧ quantize low high (2 ^ bits - 1) value = code := by
  unfold encodeUint
  split <;> simp_all

theorem encodeUint_le {value low high : ℚ} {bits code : ℕ}
    (encoded : encodeUint value low high bits = .ok code) (ordered : low < high) :
    code ≤ 2 ^ bits - 1 := by
  obtain ⟨⟨_, upper⟩, rfl⟩ := encodeUint_eq_ok.mp encoded
  exact quantize_le ordered upper

/-- The five unsigned fields of an MIT frame: 16 bits of position and 12 bits
of each of the others. -/
structure MitFields where
  position : ℕ
  velocity : ℕ
  kp : ℕ
  kd : ℕ
  torque : ℕ
  deriving DecidableEq

namespace MitFields

/-- Every field fits its width. -/
structure InRange (fields : MitFields) : Prop where
  position : fields.position ≤ 2 ^ 16 - 1
  velocity : fields.velocity ≤ 2 ^ 12 - 1
  kp : fields.kp ≤ 2 ^ 12 - 1
  kd : fields.kd ≤ 2 ^ 12 - 1
  torque : fields.torque ≤ 2 ^ 12 - 1

/-- The byte list that the payload functions of the source return. -/
def pack (fields : MitFields) : CanData :=
  ![UInt8.ofNat (fields.position >>> 8), UInt8.ofNat fields.position,
    UInt8.ofNat (fields.velocity >>> 4),
    UInt8.ofNat ((fields.velocity &&& 0xF) <<< 4 ||| fields.kp >>> 8),
    UInt8.ofNat fields.kp, UInt8.ofNat (fields.kd >>> 4),
    UInt8.ofNat ((fields.kd &&& 0xF) <<< 4 ||| fields.torque >>> 8),
    UInt8.ofNat fields.torque]

/-- The fields as the drive reads them from the data bytes. -/
def unpack (data : CanData) : MitFields :=
  { position := (data 0).toNat <<< 8 ||| (data 1).toNat
    velocity := (data 2).toNat <<< 4 ||| (data 3).toNat >>> 4
    kp := ((data 3).toNat &&& 0xF) <<< 8 ||| (data 4).toNat
    kd := (data 5).toNat <<< 4 ||| (data 6).toNat >>> 4
    torque := ((data 6).toNat &&& 0xF) <<< 8 ||| (data 7).toNat }

private theorem join_bytes {value : ℕ} (bounded : value ≤ 2 ^ 16 - 1) :
    (value >>> 8 % 256) <<< 8 ||| value % 256 = value := by
  rw [← Nat.shiftLeft_add_eq_or_of_lt (by omega : value % 256 < 2 ^ 8)]
  simp only [Nat.shiftRight_eq_div_pow, Nat.shiftLeft_eq]
  omega

private theorem nibble (value : ℕ) : value &&& 0xF = value % 16 :=
  Nat.and_two_pow_sub_one_eq_mod value 4

/-- The shared byte holds the low nibble of one field and the high nibble of
the next. -/
private theorem shared_byte {left right : ℕ} (bounded : right ≤ 2 ^ 12 - 1) :
    ((left &&& 0xF) <<< 4 ||| right >>> 8) % 256 =
      left % 16 * 16 + right / 256 := by
  have high : right >>> 8 < 2 ^ 4 := by
    simp only [Nat.shiftRight_eq_div_pow]
    omega
  rw [← Nat.shiftLeft_add_eq_or_of_lt high, nibble]
  simp only [Nat.shiftRight_eq_div_pow, Nat.shiftLeft_eq]
  omega

private theorem join_high {left right : ℕ} (leftBounded : left ≤ 2 ^ 12 - 1)
    (rightBounded : right ≤ 2 ^ 12 - 1) :
    (left >>> 4 % 256) <<< 4 ||| (left % 16 * 16 + right / 256) >>> 4 = left := by
  have low : (left % 16 * 16 + right / 256) >>> 4 < 2 ^ 4 := by
    simp only [Nat.shiftRight_eq_div_pow]
    omega
  rw [← Nat.shiftLeft_add_eq_or_of_lt low]
  simp only [Nat.shiftRight_eq_div_pow, Nat.shiftLeft_eq]
  omega

private theorem join_low {left right : ℕ} (rightBounded : right ≤ 2 ^ 12 - 1) :
    ((left % 16 * 16 + right / 256) &&& 0xF) <<< 8 ||| right % 256 = right := by
  rw [← Nat.shiftLeft_add_eq_or_of_lt (by omega : right % 256 < 2 ^ 8), nibble]
  simp only [Nat.shiftLeft_eq]
  omega

/-- The wire carries exactly the fields that were packed. -/
theorem unpack_pack {fields : MitFields} (inRange : fields.InRange) :
    unpack (pack fields) = fields := by
  obtain ⟨positionBound, velocityBound, kpBound, kdBound, torqueBound⟩ := inRange
  rcases fields with ⟨position, velocity, kp, kd, torque⟩
  simp only at positionBound velocityBound kpBound kdBound torqueBound
  simp only [unpack, pack, mk.injEq, Matrix.cons_val, UInt8.toNat_ofNat',
    Nat.reducePow]
  refine ⟨join_bytes positionBound, ?_, ?_, ?_, ?_⟩
  · rw [shared_byte kpBound]
    exact join_high velocityBound kpBound
  · rw [shared_byte kpBound]
    exact join_low kpBound
  · rw [shared_byte torqueBound]
    exact join_high kdBound torqueBound
  · rw [shared_byte torqueBound]
    exact join_low torqueBound

/-- The command that the fields stand for, in the motor's own ranges. -/
def decode (motor : MotorDescriptor) (fields : MitFields) : MitCommand :=
  { position := decodeUint fields.position motor.positionMin motor.positionMax 16
    velocity := decodeUint fields.velocity motor.velocityMin motor.velocityMax 12
    kp := decodeUint fields.kp 0 500 12
    kd := decodeUint fields.kd 0 5 12
    feedforwardTorque := decodeUint fields.torque motor.torqueMin motor.torqueMax 12 }

end MitFields

/-- The zero-gain poll, with the restricted writer's check of its own bytes. -/
def zeroGainPayload (descriptor : MotorDescriptor) (motor : MotorState) :
    Except String CanData := do
  let p ← encodeUint motor.lastPosition descriptor.positionMin descriptor.positionMax 16
  let v ← encodeUint 0 descriptor.velocityMin descriptor.velocityMax 12
  let torque ← encodeUint 0 descriptor.torqueMin descriptor.torqueMax 12
  let data := MitFields.pack ⟨p, v, 0, 0, torque⟩
  let decoded := MitFields.unpack data
  if (decoded.velocity ≠ 2047 ∧ decoded.velocity ≠ 2048) ∨ decoded.kp ≠ 0 ∨
      decoded.kd ≠ 0 ∨ (decoded.torque ≠ 2047 ∧ decoded.torque ≠ 2048) then
    .error "restricted writer rejected nonzero v/Kp/Kd/torque payload"
  else .ok data

/-- The command of the measured-pose hold.  Exact arithmetic leaves no estimate
that is not finite. -/
def holdPayload (descriptor : MotorDescriptor)
    (position kp kd feedforward maximumOutputTorque : ℚ) :
    Program MotorState String CanData := do
  Program.throwIf
    (position < descriptor.softPositionMin ∨ descriptor.softPositionMax < position ∨
      maximumOutputTorque < |feedforward| ∨ kp < 0 ∨ 1 / 5 < kp ∨
      kd < 0 ∨ 1 / 20 < kd)
    ("measured-hold command envelope failed for " ++ descriptor.name)
  let motor ← Program.get
  let estimated := kp * (position - motor.lastPosition) -
    kd * motor.lastVelocity + feedforward
  Program.throwIf (maximumOutputTorque < |estimated|)
    ("measured-hold torque guard failed for " ++ descriptor.name)
  Program.modify fun motor =>
    { motor with
      maximumAbsCommandedTorque := max motor.maximumAbsCommandedTorque |estimated| }
  let p ← Program.ofExcept
    (encodeUint position descriptor.positionMin descriptor.positionMax 16)
  let v ← Program.ofExcept
    (encodeUint 0 descriptor.velocityMin descriptor.velocityMax 12)
  let kpRaw ← Program.ofExcept (encodeUint kp 0 500 12)
  let kdRaw ← Program.ofExcept (encodeUint kd 0 5 12)
  let torque ← Program.ofExcept
    (encodeUint feedforward descriptor.torqueMin descriptor.torqueMax 12)
  return MitFields.pack ⟨p, v, kpRaw, kdRaw, torque⟩

/-- `estimate` of the source: the torque that the wire fields ask for at the
latest feedback. -/
def wireTorque (descriptor : MotorDescriptor) (motor : MotorState)
    (fields : MitFields) : ℚ :=
  (fields.decode descriptor).torqueAt motor.lastPosition motor.lastVelocity

/-- The retry loop of `protected_policy_payload`, with the attempts left and the
scale reached. -/
def rescaleToCap (descriptor : MotorDescriptor) (motor : MotorState) :
    ℕ → ℚ → MitFields → Except String MitFields
  | 0, _, fields => .ok fields
  | attempts + 1, scale, fields =>
      let estimated := wireTorque descriptor motor fields
      if |estimated| ≤ descriptor.commissioningTorqueCap + tolerance then .ok fields
      else do
        let scale := scale *
          min (9 / 10) (95 / 100 * descriptor.commissioningTorqueCap / |estimated|)
        let kpRaw ← encodeUint (motor.preview.kp * scale) 0 500 12
        let kdRaw ← encodeUint (motor.preview.kd * scale) 0 5 12
        let torque ← encodeUint (motor.preview.feedforwardTorque * scale)
          descriptor.torqueMin descriptor.torqueMax 12
        rescaleToCap descriptor motor attempts scale
          { fields with kp := kpRaw, kd := kdRaw, torque := torque }

/-- The first check of `protected_policy_payload`. -/
def protectedEnvelopeFailure (descriptor : MotorDescriptor) (motor : MotorState) :
    Prop :=
  ¬motor.previewInitialized ∨
    motor.preview.position < descriptor.softPositionMin - tolerance ∨
    descriptor.softPositionMax + tolerance < motor.preview.position ∨
    motor.preview.position < descriptor.hardPositionMin - tolerance ∨
    descriptor.hardPositionMax + tolerance < motor.preview.position ∨
    motor.preview.position < descriptor.positionMin - tolerance ∨
    descriptor.positionMax + tolerance < motor.preview.position ∨
    descriptor.deploymentVelocityMax + tolerance < |motor.preview.velocity| ∨
    motor.preview.kp < 0 ∨ 500 < motor.preview.kp ∨
    motor.preview.kd < 0 ∨ 5 < motor.preview.kd

instance (descriptor : MotorDescriptor) (motor : MotorState) :
    Decidable (protectedEnvelopeFailure descriptor motor) := by
  unfold protectedEnvelopeFailure
  infer_instance

/-- The five encodings of `protected_policy_payload`, before any retry. -/
def encodePreview (descriptor : MotorDescriptor) (command : MitCommand) :
    Except String MitFields := do
  let p ← encodeUint command.position descriptor.positionMin descriptor.positionMax 16
  let v ← encodeUint command.velocity descriptor.velocityMin descriptor.velocityMax 12
  let kpRaw ← encodeUint command.kp 0 500 12
  let kdRaw ← encodeUint command.kd 0 5 12
  let torque ← encodeUint command.feedforwardTorque
    descriptor.torqueMin descriptor.torqueMax 12
  return ⟨p, v, kpRaw, kdRaw, torque⟩

/-- The bounded option of `protected_policy_payload`: scale the impedance and the
feedforward down until the wire torque is inside the cap. -/
def boundWireTorque (descriptor : MotorDescriptor) (bounded : Bool)
    (fields : MitFields) : Program MotorState String MitFields := do
  let motor ← Program.get
  if bounded ∧ descriptor.commissioningTorqueCap + tolerance <
      |wireTorque descriptor motor fields| then do
    let scaled ← Program.ofExcept (rescaleToCap descriptor motor 32 1 fields)
    Program.modify fun motor =>
      { motor with
        policyTorqueSaturationCount := motor.policyTorqueSaturationCount + 1 }
    return scaled
  else return fields

/-- `protected_policy_payload`.  Exact arithmetic leaves no value that is not
finite, so the finiteness checks always pass. -/
def protectedPolicyPayload (descriptor : MotorDescriptor) (bounded : Bool) :
    Program MotorState String CanData := do
  let motor ← Program.get
  Program.throwIf (protectedEnvelopeFailure descriptor motor)
    ("protected policy command envelope failed for " ++ descriptor.name)
  let encoded ← Program.ofExcept (encodePreview descriptor motor.preview)
  let fields ← boundWireTorque descriptor bounded encoded
  let estimated := wireTorque descriptor motor fields
  Program.throwIf
    (descriptor.commissioningTorqueCap + tolerance < |estimated|)
    ("protected policy torque cap failed for " ++ descriptor.name)
  Program.modify fun motor =>
    { motor with
      maximumAbsCommandedTorque := max motor.maximumAbsCommandedTorque |estimated| }
  return fields.pack

end SpriteRuntime
