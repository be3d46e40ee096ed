import SpriteRuntime.Runtime.NativeIpc

/-!
# The packet codecs agree

The struct formats of the Python side, the packed structures of the controller and the offset
code of the policy client describe the same bytes.
-/

namespace SpriteRuntime

open Foundation NativeIpc

/-! ## Headers -/

section Header

variable {message : List UInt8}

private theorem header_eq_iff (length : 8 ≤ message.length) {version kind : UInt16} :
    PacketHeader.ofBytes message = ⟨![0x53, 0x50, 0x52, 0x54], version, kind⟩ ↔
      message.take 4 = magic ∧ unsignedField message 4 2 = version.toNat ∧
        unsignedField message 6 2 = kind.toNat := by
  have first : List.ofFn (PacketHeader.ofBytes message).magic = message.take 4 :=
    PacketHeader.ofFn_magic (by omega)
  have second : (PacketHeader.ofBytes message).version.toNat = unsignedField message 4 2 :=
    PacketHeader.toNat_field16 message 4
  have third : (PacketHeader.ofBytes message).kind.toNat = unsignedField message 6 2 :=
    PacketHeader.toNat_field16 message 6
  rw [← first, ← second, ← third, PacketHeader.ext_iff]
  have bytes : magic = List.ofFn ![0x53, 0x50, 0x52, 0x54] := by decide
  rw [bytes, List.ofFn_injective.eq_iff, UInt16.toNat_inj, UInt16.toNat_inj]

theorem stateHeader_iff (length : 8 ≤ message.length) :
    PacketHeader.ofBytes message = stateHeader ↔
      message.take 4 = magic ∧ (unsignedField message 4 2 : ℤ) = version ∧
        (unsignedField message 6 2 : ℤ) = stateKind := by
  rw [stateHeader, header_eq_iff length, version, stateKind]
  norm_cast

theorem targetHeader_iff (length : 8 ≤ message.length) :
    PacketHeader.ofBytes message = targetHeader ↔
      message.take 4 = magic ∧ (unsignedField message 4 2 : ℤ) = version ∧
        (unsignedField message 6 2 : ℤ) = targetKind := by
  rw [targetHeader, header_eq_iff length, version, targetKind]
  norm_cast

end Header

/-! ## States -/

namespace PackedStatePacket

/-- The fields of a structure as Python reads them. -/
def fields (record : PackedStatePacket) : NativeStatePacket :=
  { sequence := record.sequence.toNat
    monotonicNs := record.monotonicNs.toInt
    motorOrderHash := record.motorOrderHash.toNat
    positionRad := List.ofFn record.positionRad
    velocityRadS := List.ofFn record.velocityRadS }

variable {payload : List UInt8} {packet : NativeStatePacket}

theorem finiteVector_ofFn {vector : Index → Binary64} :
    FiniteVector (List.ofFn vector) ↔ ∀ bits ∈ List.ofFn vector, bits.number.isFinite = true :=
  ⟨fun finite => finite.2, fun finite => ⟨List.length_ofFn, finite⟩⟩

theorem fields_ofBytes (payload : List UInt8) : (ofBytes payload).fields =
    { sequence := unsignedField payload 8 8
      monotonicNs := signedField payload 16
      motorOrderHash := unsignedField payload 24 8
      positionRad := List.ofFn (ofBytes payload).positionRad
      velocityRadS := List.ofFn (ofBytes payload).velocityRadS } := by
  simp only [fields, ofBytes, toNat_wordField, toInt_wordField]

theorem allFinite_iff {record : PackedStatePacket} : record.AllFinite ↔
    FiniteVector (List.ofFn record.positionRad) ∧
      FiniteVector (List.ofFn record.velocityRadS) := by
  rw [finiteVector_ofFn, finiteVector_ofFn, AllFinite, List.forall_mem_append]

/-- The messages that Python unpacks are those of a structure with the header of a state and
finite numbers. -/
theorem unpack_eq_ok_iff : NativeStatePacket.unpack payload = .ok packet ↔
    payload.length = 528 ∧ (ofBytes payload).toPacketHeader = stateHeader ∧
      (ofBytes payload).AllFinite ∧ packet = (ofBytes payload).fields := by
  rw [NativeStatePacket.unpack_eq_ok]
  by_cases length : payload.length = 528
  · have arrays : wordsFrom payload 32 62 = List.ofFn (ofBytes payload).positionRad ++
        List.ofFn (ofBytes payload).velocityRadS := wordsFrom_add payload 32 31 31
    have header : (ofBytes payload).toPacketHeader = stateHeader ↔ _ :=
      stateHeader_iff (by omega)
    rw [NativeStatePacket.unpackFields_stateFormat length, header, arrays, allFinite_iff,
      fields_ofBytes]
    constructor
    · rintro ⟨position, velocity, _, same⟩
      simp only [NativeStatePacket.values, List.cons_append, List.nil_append, List.cons.injEq,
        StructValue.bytes.injEq, StructValue.integer.injEq] at same
      obtain ⟨found, version, kind, sequence, stamp, hash, numbers⟩ := same
      have injective : Function.Injective StructValue.number := fun _ _ => StructValue.number.inj
      obtain ⟨samePosition, sameVelocity⟩ := List.append_inj
        (List.map_injective_iff.mpr injective numbers)
        (List.length_ofFn.trans position.1.symm)
      rw [← samePosition] at position
      rw [← sameVelocity] at velocity
      refine ⟨length, ⟨found, version, kind⟩, ⟨position, velocity⟩, ?_⟩
      rw [sequence, stamp, hash, samePosition, sameVelocity]
    · rintro ⟨_, ⟨found, version, kind⟩, ⟨position, velocity⟩, rfl⟩
      refine ⟨position, velocity, length, ?_⟩
      rw [found, version, kind, NativeStatePacket.values]
  · simp [length]

/-- Python packs a packet into the bytes of the structure with its fields. -/
theorem pack_eq_ok_iff : packet.pack = .ok payload ↔
    ∃ record : PackedStatePacket, record.toBytes = payload ∧
      record.toPacketHeader = stateHeader ∧ record.AllFinite ∧ packet = record.fields := by
  rw [← NativeStatePacket.unpack_eq_ok_iff_pack, unpack_eq_ok_iff]
  constructor
  · rintro ⟨length, rest⟩
    exact ⟨ofBytes payload, toBytes_ofBytes length, rest⟩
  · rintro ⟨record, rfl, rest⟩
    rw [ofBytes_toBytes]
    exact ⟨length_toBytes record, rest⟩

end PackedStatePacket

/-- `decode_state` accepts what Python unpacks, if order, sequence and stamp pass its checks, and
reads the same fields. -/
theorem decodeStateMessage_iff_unpack {payload : List UInt8} {hash previous now age : ℕ}
    {decoded : DecodedState} :
    decodeStateMessage payload hash previous now age = .ok decoded ↔
      ∃ packet, NativeStatePacket.unpack payload = .ok packet ∧
        packet.motorOrderHash = hash ∧ previous < packet.sequence ∧
        (age ≠ 0 ∧ unsigned64 packet.monotonicNs ≠ 0 ∧ unsigned64 packet.monotonicNs ≤ now ∧
          now - unsigned64 packet.monotonicNs ≤ age) ∧
        packet.sequence = decoded.sequence ∧ unsigned64 packet.monotonicNs = decoded.stamp ∧
        packet.positionRad = List.ofFn decoded.position ∧
        packet.velocityRadS = List.ofFn decoded.velocity := by
  rw [decodeStateMessage_eq_ok]
  simp only [PackedStatePacket.unpack_eq_ok_iff]
  constructor
  · rintro ⟨length, header, order, later, fresh, finite, rfl⟩
    refine ⟨_, ⟨length, header, finite, rfl⟩, ?_⟩
    have stamp := unsigned64_toInt (PackedStatePacket.ofBytes payload).monotonicNs
    rw [← stamp] at fresh
    exact ⟨congrArg _ order, Int.ofNat_lt.mpr later, fresh, rfl, stamp, rfl, rfl⟩
  · rintro ⟨_, ⟨length, header, finite, rfl⟩, order, later, fresh, sequence, stamp, position,
      velocity⟩
    simp only [PackedStatePacket.fields, unsigned64_toInt] at order later fresh
    simp only [PackedStatePacket.fields, unsigned64_toInt] at sequence stamp position velocity
    have orderFound := Int.natCast_inj.mp order
    have laterFound := Int.ofNat_lt.mp later
    refine ⟨length, header, orderFound, laterFound, fresh, finite, ?_⟩
    rcases decoded with ⟨sequenceFound, stampFound, positionFound, velocityFound⟩
    rw [DecodedState.mk.injEq]
    exact ⟨(Int.natCast_inj.mp sequence).symm, stamp.symm,
      List.ofFn_injective position.symm, List.ofFn_injective velocity.symm⟩

/-- At the times that a signed clock shows, the stamp of an accepted state is the packet's. -/
theorem stamp_eq_of_le {stamp : ℤ} {now : ℕ} (signed : -2 ^ 63 ≤ stamp ∧ stamp < 2 ^ 63)
    (past : unsigned64 stamp ≤ now) (clock : now < 2 ^ 63) : stamp = unsigned64 stamp := by
  unfold unsigned64 at *
  omega

/-! ## Targets -/

namespace PackedTargetPacket

/-- The fields of a structure as Python reads them. -/
def fields (record : PackedTargetPacket) : PolicyTargetPacket :=
  { sequence := record.sequence.toNat
    monotonicNs := record.monotonicNs.toInt
    jointOrderHash := record.jointOrderHash.toNat
    sourceStateSequence := record.sourceStateSequence.toNat
    positionRad := List.ofFn record.positionRad
    velocityRadS := List.ofFn record.velocityRadS
    kp := List.ofFn record.kp
    kd := List.ofFn record.kd
    feedforwardTorqueNm := List.ofFn record.feedforwardTorqueNm }

variable {payload : List UInt8} {packet : PolicyTargetPacket}

theorem fields_ofBytes (payload : List UInt8) : (ofBytes payload).fields =
    { sequence := unsignedField payload 8 8
      monotonicNs := signedField payload 16
      jointOrderHash := unsignedField payload 24 8
      sourceStateSequence := unsignedField payload 32 8
      positionRad := List.ofFn (ofBytes payload).positionRad
      velocityRadS := List.ofFn (ofBytes payload).velocityRadS
      kp := List.ofFn (ofBytes payload).kp
      kd := List.ofFn (ofBytes payload).kd
      feedforwardTorqueNm := List.ofFn (ofBytes payload).feedforwardTorqueNm } := by
  simp only [fields, ofBytes, toNat_wordField, toInt_wordField]

theorem not_anyNegative_ofFn {vector : Index → Binary64} :
    ¬AnyNegative (List.ofFn vector) ↔ ∀ joint, 0 ≤ (vector joint).number.value := by
  simp only [AnyNegative, List.mem_ofFn, not_exists, not_and, not_lt, forall_exists_index,
    forall_apply_eq_imp_iff]

theorem valid_iff {record : PackedTargetPacket} : record.Valid ↔ record.fields.ValidVectors := by
  have gains : ¬(AnyNegative record.fields.kp ∨ AnyNegative record.fields.kd) ↔
      (∀ joint, 0 ≤ (record.kp joint).number.value) ∧
        ∀ joint, 0 ≤ (record.kd joint).number.value := by
    rw [not_or]
    exact and_congr not_anyNegative_ofFn not_anyNegative_ofFn
  constructor
  · rintro ⟨finite, kp, kd⟩
    simp only [numbers, List.forall_mem_append, ← PackedStatePacket.finiteVector_ofFn] at finite
    obtain ⟨⟨⟨⟨position, velocity⟩, finiteKp⟩, finiteKd⟩, feedforward⟩ := finite
    exact ⟨position, velocity, finiteKp, finiteKd, feedforward, gains.mpr ⟨kp, kd⟩⟩
  · rintro ⟨position, velocity, finiteKp, finiteKd, feedforward, nonnegative⟩
    constructor
    · simp only [numbers, List.forall_mem_append, ← PackedStatePacket.finiteVector_ofFn]
      exact ⟨⟨⟨⟨position, velocity⟩, finiteKp⟩, finiteKd⟩, feedforward⟩
    · exact (gains.mp nonnegative).1
    · exact (gains.mp nonnegative).2

/-- The messages that Python unpacks are those of a structure with the header of a target and
valid numbers. -/
theorem unpack_eq_ok_iff : PolicyTargetPacket.unpack payload = .ok packet ↔
    payload.length = targetPacketSize ∧ (ofBytes payload).toPacketHeader = targetHeader ∧
      (ofBytes payload).Valid ∧ packet = (ofBytes payload).fields := by
  rw [PolicyTargetPacket.unpack_eq_ok]
  by_cases length : payload.length = targetPacketSize
  · have arrays : wordsFrom payload 40 155 = (ofBytes payload).numbers := by
      rw [show 155 = 31 + 31 + 31 + 31 + 31 by rfl, wordsFrom_add, wordsFrom_add, wordsFrom_add,
        wordsFrom_add]
      rfl
    have eight : 8 ≤ payload.length := length.symm ▸ (by decide)
    have header : (ofBytes payload).toPacketHeader = targetHeader ↔ _ := targetHeader_iff eight
    rw [PolicyTargetPacket.unpackFields_targetFormat length, header, arrays, valid_iff]
    constructor
    · rintro ⟨valid, _, same⟩
      simp only [PolicyTargetPacket.values, List.cons_append, List.nil_append, List.cons.injEq,
        StructValue.bytes.injEq, StructValue.integer.injEq] at same
      obtain ⟨found, version, kind, sequence, stamp, hash, source, arrays⟩ := same
      have injective : Function.Injective StructValue.number := fun _ _ => StructValue.number.inj
      have whole := List.map_injective_iff.mpr injective arrays
      rw [numbers] at whole
      obtain ⟨whole, feedforward⟩ := List.append_inj' whole
        (List.length_ofFn.trans valid.feedforward.1.symm)
      obtain ⟨whole, kd⟩ := List.append_inj' whole (List.length_ofFn.trans valid.kd.1.symm)
      obtain ⟨whole, kp⟩ := List.append_inj' whole (List.length_ofFn.trans valid.kp.1.symm)
      obtain ⟨position, velocity⟩ := List.append_inj' whole
        (List.length_ofFn.trans valid.velocity.1.symm)
      have read : packet = (ofBytes payload).fields := by
        rw [fields_ofBytes, sequence, stamp, hash, source, position, velocity, kp, kd,
          feedforward]
      exact ⟨length, ⟨found, version, kind⟩, read ▸ valid, read⟩
    · rintro ⟨_, ⟨found, version, kind⟩, valid, rfl⟩
      refine ⟨valid, length, ?_⟩
      rw [found, version, kind, fields_ofBytes, PolicyTargetPacket.values, numbers]
  · simp [length]

/-- Python packs a packet into the bytes of the structure with its fields. -/
theorem pack_eq_ok_iff : packet.pack = .ok payload ↔
    ∃ record : PackedTargetPacket, record.toBytes = payload ∧
      record.toPacketHeader = targetHeader ∧ record.Valid ∧ packet = record.fields := by
  rw [← PolicyTargetPacket.unpack_eq_ok_iff_pack, unpack_eq_ok_iff]
  constructor
  · rintro ⟨length, rest⟩
    exact ⟨ofBytes payload, toBytes_ofBytes length, rest⟩
  · rintro ⟨record, rfl, rest⟩
    rw [ofBytes_toBytes]
    exact ⟨length_toBytes record, rest⟩

end PackedTargetPacket

/-- `encode_target` writes what Python unpacks as a packet with the given fields. -/
theorem encodeTargetMessage_iff_unpack {target : ImpedanceTarget Binary64}
    {sequence stamp hash source : UInt64} {payload : List UInt8} :
    encodeTargetMessage target sequence stamp hash source = .ok payload ↔
      (sequence ≠ 0 ∧ stamp ≠ 0 ∧ source ≠ 0) ∧
        PolicyTargetPacket.unpack payload = .ok
          { sequence := sequence.toNat
            monotonicNs := stamp.toNat
            jointOrderHash := hash.toNat
            sourceStateSequence := source.toNat
            positionRad := List.ofFn target.position
            velocityRadS := List.ofFn target.velocity
            kp := List.ofFn target.kp
            kd := List.ofFn target.kd
            feedforwardTorqueNm := List.ofFn target.feedforward } := by
  rw [encodeTargetMessage_eq_ok, PackedTargetPacket.unpack_eq_ok_iff]
  constructor
  · rintro ⟨valid, ⟨some, stamped, early, sourced⟩, rfl⟩
    rw [PackedTargetPacket.ofBytes_toBytes]
    refine ⟨⟨some, stamped, sourced⟩, PackedTargetPacket.length_toBytes _, rfl, valid, ?_⟩
    simp only [PackedTargetPacket.fields, encodedTarget, toInt64_toInt early]
  · rintro ⟨⟨some, stamped, sourced⟩, length, header, valid, same⟩
    rw [PackedTargetPacket.fields, PolicyTargetPacket.mk.injEq] at same
    obtain ⟨sameSequence, sameStamp, sameHash, sameSource, position, velocity, kp, kd,
      feedforward⟩ := same
    have early : stamp.toNat < 2 ^ 63 := by
      have upper := (PackedTargetPacket.ofBytes payload).monotonicNs.toInt_lt
      omega
    have whole : encodedTarget target sequence stamp hash source =
        PackedTargetPacket.ofBytes payload := by
      apply PackedTargetPacket.ext
      · exact (congrArg PacketHeader.magic header).symm
      · exact (congrArg PacketHeader.version header).symm
      · exact (congrArg PacketHeader.kind header).symm
      · exact UInt64.toNat.inj (Int.natCast_inj.mp sameSequence)
      · exact Int64.toInt.inj ((toInt64_toInt early).trans sameStamp)
      · exact UInt64.toNat.inj (Int.natCast_inj.mp sameHash)
      · exact UInt64.toNat.inj (Int.natCast_inj.mp sameSource)
      · exact List.ofFn_injective position
      · exact List.ofFn_injective velocity
      · exact List.ofFn_injective kp
      · exact List.ofFn_injective kd
      · exact List.ofFn_injective feedforward
    rw [whole]
    exact ⟨valid, ⟨some, stamped, early, sourced⟩,
      (PackedTargetPacket.toBytes_ofBytes length).symm⟩

/-! ## All codecs -/

/-- Packing and unpacking are inverse to each other, a packed message is the bytes of the
structure of the controller, and the policy client reads and writes the same fields. -/
theorem ipcCodecs_agree :
    (∀ (packet : NativeStatePacket) payload,
      NativeStatePacket.unpack payload = .ok packet ↔ packet.pack = .ok payload) ∧
    (∀ (packet : NativeStatePacket) payload, packet.pack = .ok payload ↔
      ∃ record : PackedStatePacket, record.toBytes = payload ∧
        record.toPacketHeader = stateHeader ∧ record.AllFinite ∧ packet = record.fields) ∧
    (∀ record, PackedStatePacket.ofBytes record.toBytes = record) ∧
    (∀ payload hash previous now age decoded,
      decodeStateMessage payload hash previous now age = .ok decoded ↔
      ∃ packet, NativeStatePacket.unpack payload = .ok packet ∧
        packet.motorOrderHash = hash ∧ previous < packet.sequence ∧
        (age ≠ 0 ∧ unsigned64 packet.monotonicNs ≠ 0 ∧ unsigned64 packet.monotonicNs ≤ now ∧
          now - unsigned64 packet.monotonicNs ≤ age) ∧
        packet.sequence = decoded.sequence ∧ unsigned64 packet.monotonicNs = decoded.stamp ∧
        (now < 2 ^ 63 → packet.monotonicNs = decoded.stamp) ∧
        packet.positionRad = List.ofFn decoded.position ∧
        packet.velocityRadS = List.ofFn decoded.velocity) ∧
    (∀ (packet : PolicyTargetPacket) payload,
      PolicyTargetPacket.unpack payload = .ok packet ↔ packet.pack = .ok payload) ∧
    (∀ (packet : PolicyTargetPacket) payload, packet.pack = .ok payload ↔
      ∃ record : PackedTargetPacket, record.toBytes = payload ∧
        record.toPacketHeader = targetHeader ∧ record.Valid ∧ packet = record.fields) ∧
    (∀ record, PackedTargetPacket.ofBytes record.toBytes = record) ∧
    (∀ target sequence stamp hash source payload,
      encodeTargetMessage target sequence stamp hash source = .ok payload ↔
      (sequence ≠ 0 ∧ stamp ≠ 0 ∧ source ≠ 0) ∧
        PolicyTargetPacket.unpack payload = .ok
          { sequence := sequence.toNat
            monotonicNs := stamp.toNat
            jointOrderHash := hash.toNat
            sourceStateSequence := source.toNat
            positionRad := List.ofFn target.position
            velocityRadS := List.ofFn target.velocity
            kp := List.ofFn target.kp
            kd := List.ofFn target.kd
            feedforwardTorqueNm := List.ofFn target.feedforward }) := by
  refine ⟨fun _ _ => NativeStatePacket.unpack_eq_ok_iff_pack,
    fun _ _ => PackedStatePacket.pack_eq_ok_iff, PackedStatePacket.ofBytes_toBytes,
    fun payload hash previous now age decoded => ?_,
    fun _ _ => PolicyTargetPacket.unpack_eq_ok_iff_pack,
    fun _ _ => PackedTargetPacket.pack_eq_ok_iff, PackedTargetPacket.ofBytes_toBytes,
    fun _ _ _ _ _ _ => encodeTargetMessage_iff_unpack⟩
  rw [decodeStateMessage_iff_unpack]
  apply exists_congr
  intro packet
  constructor
  · rintro ⟨unpacked, order, later, fresh, sequence, stamp, position, velocity⟩
    refine ⟨unpacked, order, later, fresh, sequence, stamp, fun clock => ?_, position, velocity⟩
    obtain ⟨_, _, _, rfl⟩ := PackedStatePacket.unpack_eq_ok_iff.mp unpacked
    rw [← stamp]
    exact stamp_eq_of_le ⟨Int64.le_toInt _, Int64.toInt_lt _⟩ fresh.2.2.1 clock
  · rintro ⟨unpacked, order, later, fresh, sequence, stamp, _, position, velocity⟩
    exact ⟨unpacked, order, later, fresh, sequence, stamp, position, velocity⟩

end SpriteRuntime
