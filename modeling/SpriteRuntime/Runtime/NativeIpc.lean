import SpriteRuntime.Foundation.StructFormat
import SpriteRuntime.Native.PacketBytes

/-!
# The packets of the Python side

`NativeStatePacket` and `PolicyTargetPacket` with their struct formats.
-/

namespace SpriteRuntime

open Foundation

namespace NativeIpc

/-- `MAGIC`. -/
def magic : List UInt8 := [0x53, 0x50, 0x52, 0x54]

/-- `VERSION`. -/
def version : ℤ := 1

/-- `STATE_KIND`. -/
def stateKind : ℤ := 1

/-- `TARGET_KIND`. -/
def targetKind : ℤ := 2

/-- `<4sHHQqQ62d`. -/
def stateFormat : List StructField :=
  [.bytes 4, .unsigned 2, .unsigned 2, .unsigned 8, .signed64, .unsigned 8] ++
    List.replicate 62 .binary64

/-- `<4sHHQqQQ155d`. -/
def targetFormat : List StructField :=
  [.bytes 4, .unsigned 2, .unsigned 2, .unsigned 8, .signed64, .unsigned 8, .unsigned 8] ++
    List.replicate 155 .binary64

/-- 31 finite values. -/
def FiniteVector (values : List Binary64) : Prop :=
  values.length = 31 ∧ ∀ value ∈ values, value.number.isFinite = true

instance (values : List Binary64) : Decidable (FiniteVector values) :=
  @instDecidableAnd _ _ _ (List.decidableBAll _ _)

/-- `_vector`. -/
def vector (values : List Binary64) (label : String) : Except String (List Binary64) :=
  if FiniteVector values then .ok values
  else .error (label ++ " must contain 31 finite values")

/-- The values that are unpacked behind the header. -/
def numbers (values : List StructValue) : List Binary64 :=
  values.filterMap fun value =>
    match value with
    | .number bits => some bits
    | _ => none

theorem vector_eq_ok {values result : List Binary64} {label : String} :
    vector values label = .ok result ↔ FiniteVector values ∧ values = result := by
  unfold vector
  split <;> simp_all

theorem numbers_map (values : List Binary64) : numbers (values.map .number) = values := by
  simp [numbers, List.filterMap_map]

/-- `any(value < 0.0 for value in values)`. -/
def AnyNegative (values : List Binary64) : Prop := ∃ value ∈ values, value.number.value < 0

instance (values : List Binary64) : Decidable (AnyNegative values) := by
  unfold AnyNegative
  infer_instance

end NativeIpc

open NativeIpc

/-! ## States -/

@[ext] structure NativeStatePacket where
  sequence : ℤ
  monotonicNs : ℤ
  motorOrderHash : ℤ
  positionRad : List Binary64
  velocityRadS : List Binary64
  deriving DecidableEq

namespace NativeStatePacket

def values (packet : NativeStatePacket) : List StructValue :=
  [.bytes magic, .integer version, .integer stateKind, .integer packet.sequence,
    .integer packet.monotonicNs, .integer packet.motorOrderHash] ++
    (packet.positionRad ++ packet.velocityRadS).map .number

def pack (packet : NativeStatePacket) : Except String (List UInt8) := do
  let position ← vector packet.positionRad "position_rad"
  let velocity ← vector packet.velocityRadS "velocity_rad_s"
  packStruct stateFormat
    { packet with positionRad := position, velocityRadS := velocity }.values

/-- The part of `unpack` after `_STATE.unpack`. -/
def ofValues : List StructValue → Except String NativeStatePacket
  | .bytes found :: .integer versionFound :: .integer kind :: .integer sequence ::
      .integer timestamp :: .integer nameHash :: rest => do
      raiseIf (¬(found = magic ∧ versionFound = version ∧ kind = stateKind))
        "native state packet header mismatch"
      let position ← vector ((numbers rest).take 31) "position_rad"
      let velocity ← vector ((numbers rest).drop 31) "velocity_rad_s"
      return ⟨sequence, timestamp, nameHash, position, velocity⟩
  | _ => .error "not enough values to unpack"

def unpack (payload : List UInt8) : Except String NativeStatePacket := do
  raiseIf (payload.length ≠ structSize stateFormat)
    ("native state packet must be " ++ toString (structSize stateFormat) ++ " bytes")
  let values ← unpackStruct stateFormat payload
  ofValues values

variable {packet : NativeStatePacket} {payload : List UInt8}

theorem pack_eq_ok : packet.pack = .ok payload ↔
    FiniteVector packet.positionRad ∧ FiniteVector packet.velocityRadS ∧
      packStruct stateFormat packet.values = .ok payload := by
  simp only [pack, except_bind_eq_ok, vector_eq_ok]
  constructor
  · rintro ⟨position, ⟨finite, rfl⟩, velocity, ⟨others, rfl⟩, packed⟩
    exact ⟨finite, others, packed⟩
  · rintro ⟨finite, others, packed⟩
    exact ⟨_, ⟨finite, rfl⟩, _, ⟨others, rfl⟩, packed⟩

theorem values_fits (packet : NativeStatePacket) (length : packet.positionRad.length = 31)
    (other : packet.velocityRadS.length = 31) :
    List.Forall₂ StructField.Fits stateFormat packet.values := by
  have numbers := fits_binary64 (packet.positionRad ++ packet.velocityRadS)
  rw [List.length_append, length, other] at numbers
  exact .cons rfl (.cons trivial (.cons trivial (.cons trivial (.cons trivial (.cons trivial
    numbers)))))

/-- What is read of a message of the right size. -/
theorem unpackFields_stateFormat (length : payload.length = 528) :
    unpackFields stateFormat payload =
      [.bytes (payload.take 4), .integer (unsignedField payload 4 2),
        .integer (unsignedField payload 6 2), .integer (unsignedField payload 8 8),
        .integer (signedField payload 16), .integer (unsignedField payload 24 8)] ++
        (wordsFrom payload 32 62).map .number := by
  have numbers : unpackFields (List.replicate 62 .binary64) (payload.drop 32) = _ :=
    unpackFields_binary64 (by rw [List.length_drop, length])
  rw [stateFormat, unpackFields_append, structSize]
  simp only [List.map_cons, List.map_nil, StructField.width, List.sum_cons, List.sum_nil,
    Nat.reduceAdd, numbers, wordsFrom_drop, unpackFields, StructField.unpack, List.drop_drop]
  rfl

theorem ofValues_eq_ok {header : List UInt8} {versionFound kind sequence stamp hash : ℤ}
    {words : List UInt64} :
    ofValues ([.bytes header, .integer versionFound, .integer kind, .integer sequence,
      .integer stamp, .integer hash] ++ words.map .number) = .ok packet ↔
      (header = magic ∧ versionFound = version ∧ kind = stateKind) ∧
        FiniteVector (words.take 31) ∧ FiniteVector (words.drop 31) ∧
        packet = ⟨sequence, stamp, hash, words.take 31, words.drop 31⟩ := by
  simp only [List.cons_append, List.nil_append, ofValues, except_bind_eq_ok, raiseIf_eq_ok,
    not_not, vector_eq_ok, numbers_map]
  constructor
  · rintro ⟨_, same, _, ⟨position, rfl⟩, _, ⟨velocity, rfl⟩, made⟩
    exact ⟨same, position, velocity, (Except.ok.inj made).symm⟩
  · rintro ⟨same, position, velocity, rfl⟩
    exact ⟨(), same, _, ⟨position, rfl⟩, _, ⟨velocity, rfl⟩, rfl⟩

theorem unpack_eq_ofValues (length : payload.length = 528) :
    unpack payload = ofValues (unpackFields stateFormat payload) := by
  have size : structSize stateFormat = 528 := by decide
  have right : ¬payload.length ≠ structSize stateFormat := not_not.mpr (length.trans size.symm)
  rw [unpack, raiseIf, if_neg right, unpackStruct, if_neg right, except_ok_bind, except_ok_bind]

/-- When `unpack` accepts a message. -/
theorem unpack_eq_ok : unpack payload = .ok packet ↔
    FiniteVector packet.positionRad ∧ FiniteVector packet.velocityRadS ∧
      payload.length = 528 ∧ unpackFields stateFormat payload = packet.values := by
  have size : structSize stateFormat = 528 := by decide
  constructor
  · intro accepted
    have length : payload.length = 528 := by
      obtain ⟨_, checked, _⟩ := except_bind_eq_ok.mp accepted
      exact (not_not.mp (raiseIf_eq_ok.mp checked)).trans size
    have fields := unpackFields_stateFormat length
    rw [unpack_eq_ofValues length, fields, ofValues_eq_ok] at accepted
    obtain ⟨⟨header, versionFound, kind⟩, position, velocity, rfl⟩ := accepted
    refine ⟨position, velocity, length, ?_⟩
    rw [fields, values, header, versionFound, kind, List.take_append_drop]
  · rintro ⟨position, velocity, length, fields⟩
    rw [unpack_eq_ofValues length, fields, values, ofValues_eq_ok,
      List.take_left' position.1, List.drop_left' position.1]
    exact ⟨⟨rfl, rfl, rfl⟩, position, velocity, rfl⟩

/-- Unpacking and packing are inverse to each other. -/
theorem unpack_eq_ok_iff_pack : unpack payload = .ok packet ↔ packet.pack = .ok payload := by
  rw [unpack_eq_ok, pack_eq_ok]
  apply and_congr_right
  intro position
  apply and_congr_right
  intro velocity
  exact (packStruct_eq_ok_iff (values_fits packet position.1 velocity.1)).symm

end NativeStatePacket

/-! ## Targets -/

@[ext] structure PolicyTargetPacket where
  sequence : ℤ
  monotonicNs : ℤ
  jointOrderHash : ℤ
  sourceStateSequence : ℤ
  positionRad : List Binary64
  velocityRadS : List Binary64
  kp : List Binary64
  kd : List Binary64
  feedforwardTorqueNm : List Binary64
  deriving DecidableEq

namespace PolicyTargetPacket

def values (packet : PolicyTargetPacket) : List StructValue :=
  [.bytes magic, .integer version, .integer targetKind, .integer packet.sequence,
    .integer packet.monotonicNs, .integer packet.jointOrderHash,
    .integer packet.sourceStateSequence] ++
    (packet.positionRad ++ packet.velocityRadS ++ packet.kp ++ packet.kd ++
      packet.feedforwardTorqueNm).map .number

def pack (packet : PolicyTargetPacket) : Except String (List UInt8) := do
  let position ← vector packet.positionRad "position_rad"
  let velocity ← vector packet.velocityRadS "velocity_rad_s"
  let kp ← vector packet.kp "kp"
  let kd ← vector packet.kd "kd"
  let feedforward ← vector packet.feedforwardTorqueNm "feedforward_torque_nm"
  raiseIf (AnyNegative kp ∨ AnyNegative kd) "policy target Kp/Kd must be non-negative"
  packStruct targetFormat
    { packet with
      positionRad := position
      velocityRadS := velocity
      kp
      kd
      feedforwardTorqueNm := feedforward }.values

/-- `values[index * JOINT_COUNT : (index + 1) * JOINT_COUNT]`. -/
def slice (values : List Binary64) (index : ℕ) : List Binary64 :=
  (values.drop (index * 31)).take 31

/-- The part of `unpack` after `_TARGET.unpack`. -/
def ofValues : List StructValue → Except String PolicyTargetPacket
  | .bytes found :: .integer versionFound :: .integer kind :: .integer sequence ::
      .integer timestamp :: .integer nameHash :: .integer sourceSequence :: rest => do
      raiseIf (¬(found = magic ∧ versionFound = version ∧ kind = targetKind))
        "policy target packet header mismatch"
      let position ← vector (slice (numbers rest) 0) "position_rad"
      let velocity ← vector (slice (numbers rest) 1) "velocity_rad_s"
      let kp ← vector (slice (numbers rest) 2) "kp"
      let kd ← vector (slice (numbers rest) 3) "kd"
      let feedforward ← vector (slice (numbers rest) 4) "feedforward_torque_nm"
      raiseIf (AnyNegative kp ∨ AnyNegative kd) "policy target Kp/Kd must be non-negative"
      return ⟨sequence, timestamp, nameHash, sourceSequence, position, velocity, kp, kd,
        feedforward⟩
  | _ => .error "not enough values to unpack"

def unpack (payload : List UInt8) : Except String PolicyTargetPacket := do
  raiseIf (payload.length ≠ structSize targetFormat)
    ("policy target packet must be " ++ toString (structSize targetFormat) ++ " bytes")
  let values ← unpackStruct targetFormat payload
  ofValues values

/-- What both directions check of the vectors. -/
structure ValidVectors (packet : PolicyTargetPacket) : Prop where
  position : FiniteVector packet.positionRad
  velocity : FiniteVector packet.velocityRadS
  kp : FiniteVector packet.kp
  kd : FiniteVector packet.kd
  feedforward : FiniteVector packet.feedforwardTorqueNm
  gains : ¬(AnyNegative packet.kp ∨ AnyNegative packet.kd)

variable {packet : PolicyTargetPacket} {payload : List UInt8}

theorem pack_eq_ok : packet.pack = .ok payload ↔
    packet.ValidVectors ∧ packStruct targetFormat packet.values = .ok payload := by
  simp only [pack, except_bind_eq_ok, vector_eq_ok, raiseIf_eq_ok]
  constructor
  · rintro ⟨_, ⟨position, rfl⟩, _, ⟨velocity, rfl⟩, _, ⟨kp, rfl⟩, _, ⟨kd, rfl⟩, _,
      ⟨feedforward, rfl⟩, _, gains, packed⟩
    exact ⟨⟨position, velocity, kp, kd, feedforward, gains⟩, packed⟩
  · rintro ⟨⟨position, velocity, kp, kd, feedforward, gains⟩, packed⟩
    exact ⟨_, ⟨position, rfl⟩, _, ⟨velocity, rfl⟩, _, ⟨kp, rfl⟩, _, ⟨kd, rfl⟩, _,
      ⟨feedforward, rfl⟩, (), gains, packed⟩

theorem values_fits (valid : packet.ValidVectors) :
    List.Forall₂ StructField.Fits targetFormat packet.values := by
  have numbers := fits_binary64 (packet.positionRad ++ packet.velocityRadS ++ packet.kp ++
    packet.kd ++ packet.feedforwardTorqueNm)
  simp only [List.length_append, valid.position.1, valid.velocity.1, valid.kp.1, valid.kd.1,
    valid.feedforward.1] at numbers
  exact .cons rfl (.cons trivial (.cons trivial (.cons trivial (.cons trivial (.cons trivial
    (.cons trivial numbers))))))

/-- What is read of a message of the right size. -/
theorem unpackFields_targetFormat (length : payload.length = targetPacketSize) :
    unpackFields targetFormat payload =
      [.bytes (payload.take 4), .integer (unsignedField payload 4 2),
        .integer (unsignedField payload 6 2), .integer (unsignedField payload 8 8),
        .integer (signedField payload 16), .integer (unsignedField payload 24 8),
        .integer (unsignedField payload 32 8)] ++
        (wordsFrom payload 40 155).map .number := by
  have numbers : unpackFields (List.replicate 155 .binary64) (payload.drop 40) = _ :=
    unpackFields_binary64 (by rw [List.length_drop, length]; rfl)
  rw [targetFormat, unpackFields_append, structSize]
  simp only [List.map_cons, List.map_nil, StructField.width, List.sum_cons, List.sum_nil,
    Nat.reduceAdd, numbers, wordsFrom_drop, unpackFields, StructField.unpack, List.drop_drop]
  rfl

theorem ofValues_eq_ok {header : List UInt8} {versionFound kind sequence stamp hash source : ℤ}
    {words : List UInt64} :
    ofValues ([.bytes header, .integer versionFound, .integer kind, .integer sequence,
      .integer stamp, .integer hash, .integer source] ++ words.map .number) = .ok packet ↔
      (header = magic ∧ versionFound = version ∧ kind = targetKind) ∧ packet.ValidVectors ∧
        packet = ⟨sequence, stamp, hash, source, slice words 0, slice words 1, slice words 2,
          slice words 3, slice words 4⟩ := by
  simp only [List.cons_append, List.nil_append, ofValues, except_bind_eq_ok, raiseIf_eq_ok,
    not_not, vector_eq_ok, numbers_map]
  constructor
  · rintro ⟨_, same, _, ⟨position, rfl⟩, _, ⟨velocity, rfl⟩, _, ⟨kp, rfl⟩, _, ⟨kd, rfl⟩, _,
      ⟨feedforward, rfl⟩, _, gains, made⟩
    obtain rfl := Except.ok.inj made
    exact ⟨same, ⟨position, velocity, kp, kd, feedforward, gains⟩, rfl⟩
  · rintro ⟨same, ⟨position, velocity, kp, kd, feedforward, gains⟩, rfl⟩
    exact ⟨(), same, _, ⟨position, rfl⟩, _, ⟨velocity, rfl⟩, _, ⟨kp, rfl⟩, _, ⟨kd, rfl⟩, _,
      ⟨feedforward, rfl⟩, (), gains, rfl⟩

theorem unpack_eq_ofValues (length : payload.length = targetPacketSize) :
    unpack payload = ofValues (unpackFields targetFormat payload) := by
  have size : structSize targetFormat = targetPacketSize := by decide +kernel
  have right : ¬payload.length ≠ structSize targetFormat := not_not.mpr (length.trans size.symm)
  rw [unpack, raiseIf, if_neg right, unpackStruct, if_neg right, except_ok_bind, except_ok_bind]

/-- Five slices of 31 numbers. -/
theorem slices_append {words : List Binary64} (length : words.length = 155) :
    slice words 0 ++ slice words 1 ++ slice words 2 ++ slice words 3 ++ slice words 4 = words := by
  simp only [slice, zero_mul, List.drop_zero, Nat.reduceMul, ← List.take_add, Nat.reduceAdd]
  exact List.take_of_length_le length.le

theorem slice_of_append {front vector rest : List Binary64} {index : ℕ}
    (before : front.length = index * 31) (length : vector.length = 31) :
    slice (front ++ (vector ++ rest)) index = vector := by
  rw [slice, List.drop_left' before, List.take_left' length]

theorem slice_values (valid : packet.ValidVectors) {words : List Binary64}
    (same : words = packet.positionRad ++ packet.velocityRadS ++ packet.kp ++ packet.kd ++
      packet.feedforwardTorqueNm) :
    slice words 0 = packet.positionRad ∧ slice words 1 = packet.velocityRadS ∧
      slice words 2 = packet.kp ∧ slice words 3 = packet.kd ∧
      slice words 4 = packet.feedforwardTorqueNm := by
  obtain ⟨⟨position, _⟩, ⟨velocity, _⟩, ⟨kp, _⟩, ⟨kd, _⟩, ⟨feedforward, _⟩, _⟩ := valid
  subst same
  refine ⟨?_, ?_, ?_, ?_, ?_⟩
  · simp only [List.append_assoc]
    rw [slice, zero_mul, List.drop_zero, List.take_left' position]
  · simp only [List.append_assoc]
    exact slice_of_append position velocity
  · simp only [List.append_assoc]
    rw [← List.append_assoc]
    exact slice_of_append (by rw [List.length_append, position, velocity]) kp
  · rw [List.append_assoc]
    exact slice_of_append (by simp only [List.length_append, position, velocity, kp]) kd
  · rw [slice, List.drop_left' (by simp only [List.length_append, position, velocity, kp, kd]),
      List.take_of_length_le feedforward.le]

/-- When `unpack` accepts a message. -/
theorem unpack_eq_ok : unpack payload = .ok packet ↔
    packet.ValidVectors ∧ payload.length = targetPacketSize ∧
      unpackFields targetFormat payload = packet.values := by
  have size : structSize targetFormat = targetPacketSize := by decide +kernel
  constructor
  · intro accepted
    have length : payload.length = targetPacketSize := by
      obtain ⟨_, checked, _⟩ := except_bind_eq_ok.mp accepted
      exact (not_not.mp (raiseIf_eq_ok.mp checked)).trans size
    have fields := unpackFields_targetFormat length
    rw [unpack_eq_ofValues length, fields, ofValues_eq_ok] at accepted
    obtain ⟨⟨header, versionFound, kind⟩, valid, rfl⟩ := accepted
    refine ⟨valid, length, ?_⟩
    rw [fields, values, header, versionFound, kind, slices_append (length_wordsFrom _ _ _)]
  · rintro ⟨valid, length, fields⟩
    obtain ⟨position, velocity, kp, kd, feedforward⟩ := slice_values valid rfl
    rw [unpack_eq_ofValues length, fields, values, ofValues_eq_ok, position, velocity, kp, kd,
      feedforward]
    exact ⟨⟨rfl, rfl, rfl⟩, valid, rfl⟩

/-- Unpacking and packing are inverse to each other. -/
theorem unpack_eq_ok_iff_pack : unpack payload = .ok packet ↔ packet.pack = .ok payload := by
  have size : structSize targetFormat = targetPacketSize := by decide +kernel
  rw [unpack_eq_ok, pack_eq_ok]
  apply and_congr_right
  intro valid
  rw [packStruct_eq_ok_iff (values_fits valid), size]

end PolicyTargetPacket

end SpriteRuntime
