import SpriteRuntime.Foundation.Words
import SpriteRuntime.Native.PolicyStateChannel

/-!
# The bytes of the IPC packets

The packed structures of the controller and the offset code of the policy client, on the bytes
themselves: a double is its 64 bits here.
-/

namespace SpriteRuntime

open Foundation

/-- A `double` by its bits. -/
abbrev Binary64 : Type := UInt64

def Binary64.number (bits : Binary64) : Double := .ofBits bits.toNat

/-! ## The packed structures -/

/-- The fields that both packets begin with. -/
@[ext] structure PacketHeader where
  magic : Fin 4 → UInt8
  version : UInt16
  kind : UInt16

namespace PacketHeader

def toBytes (header : PacketHeader) : List UInt8 :=
  List.ofFn header.magic ++ bytesOf 2 header.version.toNat ++ bytesOf 2 header.kind.toNat

def ofBytes (message : List UInt8) : PacketHeader :=
  { magic := fun index => message.getD index 0
    version := UInt16.ofNat (unsignedField message 4 2)
    kind := UInt16.ofNat (unsignedField message 6 2) }

@[simp] theorem length_toBytes (header : PacketHeader) : header.toBytes.length = 8 := by
  simp [toBytes]

theorem ofBytes_append (header : PacketHeader) (rest : List UInt8) :
    ofBytes (header.toBytes ++ rest) = header := by
  have version : header.version.toNat < 256 ^ 2 := header.version.toNat_lt
  have kind : header.kind.toNat < 256 ^ 2 := header.kind.toNat_lt
  have first : (List.ofFn header.magic).length = 4 := List.length_ofFn
  have second : (List.ofFn header.magic ++ bytesOf 2 header.version.toNat).length = 6 := by
    simp
  apply PacketHeader.ext
  · funext index
    have inside : (index : ℕ) < (List.ofFn header.magic).length := by simp
    simp only [ofBytes, toBytes, List.append_assoc]
    rw [List.getD_eq_getElem?_getD, List.getElem?_append_left inside,
      List.getElem?_eq_getElem inside, List.getElem_ofFn]
    rfl
  · have shifted := unsignedField_append_right (List.ofFn header.magic)
      (bytesOf 2 header.version.toNat ++ (bytesOf 2 header.kind.toNat ++ rest)) 0 2
    rw [first, unsignedField_bytesOf _ version] at shifted
    simp only [ofBytes, toBytes, List.append_assoc]
    rw [shifted, UInt16.ofNat_toNat]
  · have shifted := unsignedField_append_right
      (List.ofFn header.magic ++ bytesOf 2 header.version.toNat)
      (bytesOf 2 header.kind.toNat ++ rest) 0 2
    rw [second, unsignedField_bytesOf _ kind] at shifted
    simp only [ofBytes, toBytes]
    rw [List.append_assoc, shifted, UInt16.ofNat_toNat]

theorem toNat_field16 (message : List UInt8) (offset : ℕ) :
    (UInt16.ofNat (unsignedField message offset 2)).toNat = unsignedField message offset 2 := by
  rw [UInt16.toNat_ofNat']
  exact Nat.mod_eq_of_lt (unsignedField_lt message offset 2)

theorem ofFn_magic {message : List UInt8} (length : 4 ≤ message.length) :
    List.ofFn (fun index : Fin 4 => message.getD index 0) = message.take 4 := by
  apply List.ext_getElem
  · rw [List.length_ofFn, List.length_take]
    omega
  · intro index first _
    rw [List.length_ofFn] at first
    simp only [List.getElem_ofFn, List.getElem_take]
    rw [List.getD_eq_getElem?_getD,
      List.getElem?_eq_getElem (by omega : index < message.length)]
    rfl

theorem toBytes_ofBytes {message : List UInt8} (length : 8 ≤ message.length) :
    (ofBytes message).toBytes = message.take 8 := by
  simp only [toBytes, ofBytes, ofFn_magic (by omega : 4 ≤ message.length)]
  rw [toNat_field16, toNat_field16, bytesOf_unsignedField (by omega),
    bytesOf_unsignedField (by omega), ← List.take_add, ← List.take_add]

/-- The comparison of the first eight bytes. -/
theorem take_eq_toBytes_iff {message : List UInt8} (length : 8 ≤ message.length)
    (header : PacketHeader) : message.take 8 = header.toBytes ↔ ofBytes message = header := by
  rw [← toBytes_ofBytes length]
  constructor
  · intro same
    have left := ofBytes_append (ofBytes message) []
    have right := ofBytes_append header []
    rw [← left, ← right, same]
  · exact congrArg toBytes

end PacketHeader

/-- `SPRT`, version 1 and the kind of a state. -/
def stateHeader : PacketHeader := ⟨![0x53, 0x50, 0x52, 0x54], 1, 1⟩

/-- `SPRT`, version 1 and the kind of a target. -/
def targetHeader : PacketHeader := ⟨![0x53, 0x50, 0x52, 0x54], 1, 2⟩

/-- The structure `StatePacket`. -/
@[ext] structure PackedStatePacket extends PacketHeader where
  sequence : UInt64
  monotonicNs : Int64
  motorOrderHash : UInt64
  positionRad : Index → Binary64
  velocityRadS : Index → Binary64

namespace PackedStatePacket

/-- The object representation. -/
def toBytes (packet : PackedStatePacket) : List UInt8 :=
  packet.toPacketHeader.toBytes ++ wordBytes packet.sequence ++
    wordBytes packet.monotonicNs.toUInt64 ++ wordBytes packet.motorOrderHash ++
    wordsBytes (List.ofFn packet.positionRad) ++ wordsBytes (List.ofFn packet.velocityRadS)

def ofBytes (message : List UInt8) : PackedStatePacket :=
  { PacketHeader.ofBytes message with
    sequence := wordField message 8
    monotonicNs := (wordField message 16).toInt64
    motorOrderHash := wordField message 24
    positionRad := fun joint => wordField message (32 + 8 * joint)
    velocityRadS := fun joint => wordField message (280 + 8 * joint) }

/-- The words behind the header. -/
def words (packet : PackedStatePacket) : List UInt64 :=
  [packet.sequence, packet.monotonicNs.toUInt64, packet.motorOrderHash] ++
    List.ofFn packet.positionRad ++ List.ofFn packet.velocityRadS

/-- The numbers of both arrays are finite. -/
def AllFinite (packet : PackedStatePacket) : Prop :=
  ∀ bits ∈ List.ofFn packet.positionRad ++ List.ofFn packet.velocityRadS,
    bits.number.isFinite = true

variable {packet other : PackedStatePacket}

theorem toBytes_eq : packet.toBytes = packet.toPacketHeader.toBytes ++ wordsBytes packet.words := by
  simp [toBytes, words]

@[simp] theorem length_words (packet : PackedStatePacket) : packet.words.length = 65 := by
  simp only [words, List.length_append, List.length_cons, List.length_nil, List.length_ofFn]
  rfl

theorem words_ofBytes (message : List UInt8) : (ofBytes message).words = wordsFrom message 8 65 := by
  rw [show 65 = 3 + 31 + 31 by rfl, wordsFrom_add, wordsFrom_add]
  rfl

theorem allFinite_ofBytes (message : List UInt8) : (ofBytes message).AllFinite ↔
    ∀ index < 62, (Binary64.number (wordField message (32 + 8 * index))).isFinite = true := by
  have arrays : List.ofFn (ofBytes message).positionRad ++
      List.ofFn (ofBytes message).velocityRadS = wordsFrom message 32 62 :=
    (wordsFrom_add message 32 31 31).symm
  rw [AllFinite, arrays]
  exact forall_mem_wordsFrom

theorem ext_words (header : packet.toPacketHeader = other.toPacketHeader)
    (same : packet.words = other.words) : packet = other := by
  simp only [words] at same
  obtain ⟨front, velocity⟩ := List.append_inj' same (by simp)
  obtain ⟨numbers, position⟩ := List.append_inj' front (by simp)
  simp only [List.cons.injEq, and_true] at numbers
  obtain ⟨sequence, stamp, hash⟩ := numbers
  have monotonicNs := congrArg UInt64.toInt64 stamp
  simp only [Int64.toInt64_toUInt64] at monotonicNs
  exact PackedStatePacket.ext (congrArg PacketHeader.magic header)
    (congrArg PacketHeader.version header) (congrArg PacketHeader.kind header) sequence
    monotonicNs hash (List.ofFn_injective position) (List.ofFn_injective velocity)

theorem ofBytes_toBytes (packet : PackedStatePacket) : ofBytes packet.toBytes = packet := by
  rw [toBytes_eq]
  apply ext_words
  · exact PacketHeader.ofBytes_append _ _
  · rw [words_ofBytes, wordsFrom_append (PacketHeader.length_toBytes _) (length_words packet)]

theorem toBytes_ofBytes {message : List UInt8} (length : message.length = 528) :
    (ofBytes message).toBytes = message := by
  rw [toBytes_eq, words_ofBytes, wordsBytes_wordsFrom length]
  have header : (ofBytes message).toPacketHeader.toBytes = message.take 8 :=
    PacketHeader.toBytes_ofBytes (by omega)
  rw [header, List.take_append_drop]

theorem length_toBytes (packet : PackedStatePacket) : packet.toBytes.length = 528 := by
  rw [toBytes_eq, List.length_append, PacketHeader.length_toBytes, length_wordsBytes,
    length_words]

end PackedStatePacket

/-- The structure `TargetPacket`. -/
@[ext] structure PackedTargetPacket extends PacketHeader where
  sequence : UInt64
  monotonicNs : Int64
  jointOrderHash : UInt64
  sourceStateSequence : UInt64
  positionRad : Index → Binary64
  velocityRadS : Index → Binary64
  kp : Index → Binary64
  kd : Index → Binary64
  feedforwardTorqueNm : Index → Binary64

namespace PackedTargetPacket

/-- The object representation. -/
def toBytes (packet : PackedTargetPacket) : List UInt8 :=
  packet.toPacketHeader.toBytes ++ wordBytes packet.sequence ++
    wordBytes packet.monotonicNs.toUInt64 ++ wordBytes packet.jointOrderHash ++
    wordBytes packet.sourceStateSequence ++
    wordsBytes (List.ofFn packet.positionRad) ++ wordsBytes (List.ofFn packet.velocityRadS) ++
    wordsBytes (List.ofFn packet.kp) ++ wordsBytes (List.ofFn packet.kd) ++
    wordsBytes (List.ofFn packet.feedforwardTorqueNm)

def ofBytes (message : List UInt8) : PackedTargetPacket :=
  { PacketHeader.ofBytes message with
    sequence := wordField message 8
    monotonicNs := (wordField message 16).toInt64
    jointOrderHash := wordField message 24
    sourceStateSequence := wordField message 32
    positionRad := fun joint => wordField message (40 + 8 * joint)
    velocityRadS := fun joint => wordField message (288 + 8 * joint)
    kp := fun joint => wordField message (536 + 8 * joint)
    kd := fun joint => wordField message (784 + 8 * joint)
    feedforwardTorqueNm := fun joint => wordField message (1032 + 8 * joint) }

/-- The words of the five arrays. -/
def numbers (packet : PackedTargetPacket) : List Binary64 :=
  List.ofFn packet.positionRad ++ List.ofFn packet.velocityRadS ++ List.ofFn packet.kp ++
    List.ofFn packet.kd ++ List.ofFn packet.feedforwardTorqueNm

/-- The words behind the header. -/
def words (packet : PackedTargetPacket) : List UInt64 :=
  [packet.sequence, packet.monotonicNs.toUInt64, packet.jointOrderHash,
    packet.sourceStateSequence] ++ packet.numbers

/-- The numbers are finite and the gains not negative. -/
structure Valid (packet : PackedTargetPacket) : Prop where
  finite : ∀ bits ∈ packet.numbers, bits.number.isFinite = true
  kp : ∀ joint, 0 ≤ (packet.kp joint).number.value
  kd : ∀ joint, 0 ≤ (packet.kd joint).number.value

variable {packet other : PackedTargetPacket}

theorem toBytes_eq : packet.toBytes = packet.toPacketHeader.toBytes ++ wordsBytes packet.words := by
  simp [toBytes, words, numbers]

@[simp] theorem length_words (packet : PackedTargetPacket) : packet.words.length = 159 := by
  simp only [words, numbers, List.length_append, List.length_cons, List.length_nil,
    List.length_ofFn]
  rfl

theorem words_ofBytes (message : List UInt8) :
    (ofBytes message).words = wordsFrom message 8 159 := by
  rw [show 159 = 4 + (31 + 31 + 31 + 31 + 31) by rfl, wordsFrom_add, wordsFrom_add,
    wordsFrom_add, wordsFrom_add, wordsFrom_add]
  rfl

theorem ext_words (header : packet.toPacketHeader = other.toPacketHeader)
    (same : packet.words = other.words) : packet = other := by
  simp only [words, numbers] at same
  obtain ⟨front, arrays⟩ := List.append_inj same (by simp)
  obtain ⟨arrays, feedforward⟩ := List.append_inj' arrays (by simp)
  obtain ⟨arrays, kd⟩ := List.append_inj' arrays (by simp)
  obtain ⟨arrays, kp⟩ := List.append_inj' arrays (by simp)
  obtain ⟨position, velocity⟩ := List.append_inj' arrays (by simp)
  simp only [List.cons.injEq, and_true] at front
  obtain ⟨sequence, stamp, hash, source⟩ := front
  have monotonicNs := congrArg UInt64.toInt64 stamp
  simp only [Int64.toInt64_toUInt64] at monotonicNs
  exact PackedTargetPacket.ext (congrArg PacketHeader.magic header)
    (congrArg PacketHeader.version header) (congrArg PacketHeader.kind header) sequence
    monotonicNs hash source (List.ofFn_injective position) (List.ofFn_injective velocity)
    (List.ofFn_injective kp) (List.ofFn_injective kd) (List.ofFn_injective feedforward)

theorem ofBytes_toBytes (packet : PackedTargetPacket) : ofBytes packet.toBytes = packet := by
  rw [toBytes_eq]
  apply ext_words
  · exact PacketHeader.ofBytes_append _ _
  · rw [words_ofBytes, wordsFrom_append (PacketHeader.length_toBytes _) (length_words packet)]

theorem toBytes_ofBytes {message : List UInt8} (length : message.length = targetPacketSize) :
    (ofBytes message).toBytes = message := by
  rw [toBytes_eq, words_ofBytes, wordsBytes_wordsFrom length]
  have eight : 8 ≤ message.length := length.symm ▸ (by decide)
  have header : (ofBytes message).toPacketHeader.toBytes = message.take 8 :=
    PacketHeader.toBytes_ofBytes eight
  rw [header, List.take_append_drop]

theorem length_toBytes (packet : PackedTargetPacket) :
    packet.toBytes.length = targetPacketSize := by
  rw [toBytes_eq, List.length_append, PacketHeader.length_toBytes, length_wordsBytes,
    length_words]
  rfl

end PackedTargetPacket

/-! ## The policy client -/

/-- `ipc_u64`, with its loop over the eight bytes. -/
def ipcU64 (message : List UInt8) (offset : ℕ) : ℕ :=
  (List.range 8).foldl
    (fun value index => value ||| (message.getD (offset + index) 0).toNat <<< (8 * index)) 0

/-- `ipc_put64`. -/
def ipcPut64 (buffer : List UInt8) (offset : ℕ) (value : UInt64) : List UInt8 :=
  writeAt buffer offset
    ((List.range 8).map fun index => UInt8.ofNat (value.toNat >>> (8 * index)))

/-- What `decode_state` returns, with its doubles by their bits. -/
structure DecodedState where
  sequence : ℕ
  stamp : ℕ
  position : Index → Binary64
  velocity : Index → Binary64

/-- `decode_state`. -/
def decodeStateMessage (message : List UInt8) (hash previous now age : ℕ) :
    Except String DecodedState := do
  raiseIf (message.length ≠ 528 ∨
    message.take 8 ≠ [0x53, 0x50, 0x52, 0x54, 1, 0, 1, 0] ∨ ipcU64 message 24 ≠ hash)
    "state ABI/order mismatch"
  let sequence := ipcU64 message 8
  let stamp := ipcU64 message 16
  raiseIf (sequence ≤ previous) "state sequence did not increase"
  stateFresh ⟨sequence, stamp, fun _ => 0, fun _ => 0⟩ now age
  let bits (index : ℕ) : Binary64 := UInt64.ofNat (ipcU64 message (32 + 8 * index))
  raiseIf (∃ index ∈ List.range 62, (bits index).number.isFinite = false) "state nonfinite value"
  return ⟨sequence, stamp, fun joint => bits joint, fun joint => bits (31 + joint)⟩

/-- The loop of `encode_target` over the five vectors. -/
def putNumbers (buffer : List UInt8) (offset : ℕ) (numbers : List Binary64) : List UInt8 × ℕ :=
  numbers.foldl (fun state bits => (ipcPut64 state.1 state.2 bits, state.2 + 8))
    (buffer, offset)

/-- The numbers of a target with its doubles by their bits. -/
def targetNumbers (target : ImpedanceTarget Binary64) : ImpedanceTarget Double :=
  { position := fun joint => (target.position joint).number
    velocity := fun joint => (target.velocity joint).number
    kp := fun joint => (target.kp joint).number
    kd := fun joint => (target.kd joint).number
    feedforward := fun joint => (target.feedforward joint).number }

/-- `encode_target`. -/
def encodeTargetMessage (target : ImpedanceTarget Binary64)
    (sequence stamp hash source : UInt64) : Except String (List UInt8) := do
  let _ ← validateTarget (targetNumbers target)
  raiseIf (sequence = 0 ∨ stamp = 0 ∨ 2 ^ 63 ≤ stamp.toNat ∨ source = 0) "invalid target metadata"
  let buffer := List.replicate 1280 0
  let buffer := writeAt buffer 0 [0x53, 0x50, 0x52, 0x54, 1, 0, 2, 0]
  let buffer := ipcPut64 buffer 8 sequence
  let buffer := ipcPut64 buffer 16 stamp
  let buffer := ipcPut64 buffer 24 hash
  let buffer := ipcPut64 buffer 32 source
  return (putNumbers buffer 40
    ([target.position, target.velocity, target.kp, target.kd, target.feedforward].flatMap
      List.ofFn)).1

section Client

variable {message : List UInt8} {offset : ℕ}

/-- The bytes that the loop has joined so far. -/
private theorem foldl_join {count : ℕ} (inside : offset + count ≤ message.length) :
    (List.range count).foldl
        (fun value index => value ||| (message.getD (offset + index) 0).toNat <<< (8 * index)) 0 =
      littleEndian ((message.drop offset).take count) := by
  induction count with
  | zero => rfl
  | succ count induction =>
      have there : count < (message.drop offset).length := by
        rw [List.length_drop]
        omega
      have length : ((message.drop offset).take count).length = count := by
        rw [List.length_take]
        omega
      have bounded : littleEndian ((message.drop offset).take count) < 2 ^ (8 * count) := by
        have small := littleEndian_lt ((message.drop offset).take count)
        rwa [length, show 256 = 2 ^ 8 by rfl, ← pow_mul] at small
      have byte : message.getD (offset + count) 0 = (message.drop offset)[count] := by
        rw [List.getElem_drop, List.getD_eq_getElem?_getD, List.getElem?_eq_getElem]
        rfl
      rw [List.range_succ, List.foldl_append, List.foldl_cons, List.foldl_nil,
        induction (by omega), byte, Nat.or_comm, ← Nat.shiftLeft_add_eq_or_of_lt bounded,
        List.take_succ_eq_append_getElem there, littleEndian_concat, length,
        Nat.shiftLeft_eq, pow_mul]
      ring

theorem ipcU64_eq (inside : offset + 8 ≤ message.length) :
    ipcU64 message offset = unsignedField message offset 8 :=
  foldl_join inside

private theorem map_shift_eq_bytesOf (width value : ℕ) :
    ((List.range width).map fun index => UInt8.ofNat (value >>> (8 * index))) =
      bytesOf width value := by
  induction width generalizing value with
  | zero => rfl
  | succ width induction =>
      rw [List.range_succ_eq_map, List.map_cons, List.map_map, bytesOf, ← induction]
      congr 1
      apply List.map_congr_left
      intro index _
      rw [Function.comp_apply, Nat.shiftRight_eq_div_pow, Nat.shiftRight_eq_div_pow,
        Nat.div_div_eq_div_mul, Nat.succ_eq_add_one, mul_add, pow_add, mul_comm]
      rfl

theorem ipcPut64_append {done rest : List UInt8} (length : done.length = offset)
    (value : UInt64) :
    ipcPut64 (done ++ rest) offset value = (done ++ wordBytes value) ++ rest.drop 8 := by
  rw [ipcPut64, map_shift_eq_bytesOf, writeAt_append length, length_bytesOf]
  rfl

theorem putNumbers_append {numbers : List Binary64} {done : List UInt8} {rest : ℕ}
    (length : done.length = offset) :
    (putNumbers (done ++ List.replicate rest 0) offset numbers).1 =
      done ++ wordsBytes numbers ++ List.replicate (rest - 8 * numbers.length) 0 := by
  induction numbers generalizing done offset rest with
  | nil => simp [putNumbers]
  | cons number numbers induction =>
      have step : putNumbers (done ++ List.replicate rest 0) offset (number :: numbers) =
          putNumbers (done ++ wordBytes number ++ List.replicate (rest - 8) 0) (offset + 8)
            numbers := by
        rw [putNumbers, List.foldl_cons, ipcPut64_append length, List.drop_replicate, putNumbers]
      have longer : (done ++ wordBytes number).length = offset + 8 := by
        rw [List.length_append, length, length_wordBytes]
      rw [step, induction longer, wordsBytes_cons, List.append_assoc done, List.length_cons,
        Nat.sub_sub, mul_add, mul_one, Nat.add_comm 8]

/-- When `decode_state` accepts a message, and what it reads. -/
theorem decodeStateMessage_eq_ok {hash previous now age : ℕ} {decoded : DecodedState} :
    decodeStateMessage message hash previous now age = .ok decoded ↔
      let packet := PackedStatePacket.ofBytes message
      message.length = 528 ∧ packet.toPacketHeader = stateHeader ∧
        packet.motorOrderHash.toNat = hash ∧ previous < packet.sequence.toNat ∧
        (age ≠ 0 ∧ packet.monotonicNs.toUInt64.toNat ≠ 0 ∧
          packet.monotonicNs.toUInt64.toNat ≤ now ∧
          now - packet.monotonicNs.toUInt64.toNat ≤ age) ∧
        packet.AllFinite ∧
        decoded = ⟨packet.sequence.toNat, packet.monotonicNs.toUInt64.toNat,
          packet.positionRad, packet.velocityRadS⟩ := by
  have header : stateHeader.toBytes = [0x53, 0x50, 0x52, 0x54, 1, 0, 1, 0] := by decide
  by_cases length : message.length = 528
  · have word {index : ℕ} (inside : index + 8 ≤ 528) :
        ipcU64 message index = (wordField message index).toNat := by
      rw [ipcU64_eq (by omega), toNat_wordField]
    have bits {index : ℕ} (inside : index < 62) :
        UInt64.ofNat (ipcU64 message (32 + 8 * index)) = wordField message (32 + 8 * index) := by
      rw [word (by omega), UInt64.ofNat_toNat]
    have parity : message.take 8 = [0x53, 0x50, 0x52, 0x54, 1, 0, 1, 0] ↔
        (PackedStatePacket.ofBytes message).toPacketHeader = stateHeader := by
      rw [← header]
      exact PacketHeader.take_eq_toBytes_iff (by omega) stateHeader
    have finite : (¬∃ index ∈ List.range 62,
        (Binary64.number (UInt64.ofNat (ipcU64 message (32 + 8 * index)))).isFinite = false) ↔
        (PackedStatePacket.ofBytes message).AllFinite := by
      rw [PackedStatePacket.allFinite_ofBytes]
      push Not
      constructor
      · intro all index inside
        have here := all index (List.mem_range.mpr inside)
        rw [bits inside] at here
        simpa using here
      · intro all index member
        rw [bits (List.mem_range.mp member), all index (List.mem_range.mp member)]
        simp
    have order : ipcU64 message 24 =
        (PackedStatePacket.ofBytes message).motorOrderHash.toNat := word (by omega)
    have sequence : ipcU64 message 8 =
        (PackedStatePacket.ofBytes message).sequence.toNat := word (by omega)
    have stamp : ipcU64 message 16 =
        (PackedStatePacket.ofBytes message).monotonicNs.toUInt64.toNat := word (by omega)
    have position : (fun joint : Index => UInt64.ofNat (ipcU64 message (32 + 8 * joint))) =
        (PackedStatePacket.ofBytes message).positionRad := by
      funext joint
      exact bits (lt_trans joint.isLt (by decide))
    have velocity :
        (fun joint : Index => UInt64.ofNat (ipcU64 message (32 + 8 * (31 + joint)))) =
          (PackedStatePacket.ofBytes message).velocityRadS := by
      funext joint
      rw [bits (Nat.add_lt_add_left joint.isLt 31), mul_add, ← add_assoc]
      rfl
    simp only [decodeStateMessage, except_bind_eq_ok, raiseIf_eq_ok, stateFresh, finite,
      not_or, not_not, parity, length, true_and, order, sequence, stamp, position, velocity,
      not_le, not_lt]
    constructor
    · rintro ⟨_, ⟨same, ordered⟩, _, later, _, fresh, _, numbers, made⟩
      exact ⟨same, ordered, later, fresh, numbers, (Except.ok.inj made).symm⟩
    · rintro ⟨same, ordered, later, fresh, numbers, rfl⟩
      exact ⟨(), ⟨same, ordered⟩, (), later, (), fresh, (), numbers, rfl⟩
  · simp [decodeStateMessage, except_bind_eq_ok, raiseIf_eq_ok, length]

/-- The packet that `encode_target` fills in. -/
def encodedTarget (target : ImpedanceTarget Binary64) (sequence stamp hash source : UInt64) :
    PackedTargetPacket :=
  { targetHeader with
    sequence
    monotonicNs := stamp.toInt64
    jointOrderHash := hash
    sourceStateSequence := source
    positionRad := target.position
    velocityRadS := target.velocity
    kp := target.kp
    kd := target.kd
    feedforwardTorqueNm := target.feedforward }

private theorem length_flatMap_ofFn (vectors : List (Index → Binary64)) :
    (vectors.flatMap List.ofFn).length = 31 * vectors.length := by
  induction vectors with
  | nil => rfl
  | cons vector vectors induction =>
      rw [List.flatMap_cons, List.length_append, List.length_ofFn, induction, List.length_cons,
        mul_add, Nat.add_comm]
      rfl

/-- The buffer at the end of `encode_target`. -/
theorem putNumbers_eq_toBytes (target : ImpedanceTarget Binary64)
    (sequence stamp hash source : UInt64) :
    (putNumbers
      (ipcPut64 (ipcPut64 (ipcPut64 (ipcPut64
        (writeAt (List.replicate 1280 0) 0 [0x53, 0x50, 0x52, 0x54, 1, 0, 2, 0])
        8 sequence) 16 stamp) 24 hash) 32 source) 40
      ([target.position, target.velocity, target.kp, target.kd, target.feedforward].flatMap
        List.ofFn)).1 = (encodedTarget target sequence stamp hash source).toBytes := by
  have header : targetHeader.toBytes = [0x53, 0x50, 0x52, 0x54, 1, 0, 2, 0] := by decide
  have start : writeAt (List.replicate 1280 0) 0 targetHeader.toBytes =
      targetHeader.toBytes ++ List.replicate 1272 0 := by
    have written : writeAt ([] ++ List.replicate 1280 0) 0 targetHeader.toBytes = _ :=
      writeAt_append rfl _
    rwa [List.nil_append, List.nil_append, List.drop_replicate,
      PacketHeader.length_toBytes] at written
  rw [← header, start, ipcPut64_append (by simp), ipcPut64_append (by simp),
    ipcPut64_append (by simp), ipcPut64_append (by simp), List.drop_replicate,
    List.drop_replicate, List.drop_replicate, List.drop_replicate,
    putNumbers_append (by simp), length_flatMap_ofFn]
  simp [PackedTargetPacket.toBytes, encodedTarget]

theorem encodedTarget_finite {target : ImpedanceTarget Binary64}
    {sequence stamp hash source : UInt64} :
    (∀ bits ∈ (encodedTarget target sequence stamp hash source).numbers,
        bits.number.isFinite = true) ↔
      ∀ joint, (target.position joint).number.isFinite = true ∧
        (target.velocity joint).number.isFinite = true ∧
        (target.kp joint).number.isFinite = true ∧
        (target.kd joint).number.isFinite = true ∧
        (target.feedforward joint).number.isFinite = true := by
  simp only [PackedTargetPacket.numbers, encodedTarget, List.mem_append, List.mem_ofFn, or_imp,
    forall_and, forall_exists_index, forall_apply_eq_imp_iff, and_assoc]

theorem validateTarget_numbers {target : ImpedanceTarget Binary64}
    {sequence stamp hash source : UInt64} :
    (∃ values, validateTarget (targetNumbers target) = .ok values) ↔
      (encodedTarget target sequence stamp hash source).Valid := by
  constructor
  · rintro ⟨values, passed⟩
    obtain ⟨same, gains⟩ := validateTarget_eq_ok.mp passed
    have position (joint : Index) : (target.position joint).number = _ :=
      congrFun (congrArg ImpedanceTarget.position same) joint
    have velocity (joint : Index) : (target.velocity joint).number = _ :=
      congrFun (congrArg ImpedanceTarget.velocity same) joint
    have kp (joint : Index) : (target.kp joint).number = _ :=
      congrFun (congrArg ImpedanceTarget.kp same) joint
    have kd (joint : Index) : (target.kd joint).number = _ :=
      congrFun (congrArg ImpedanceTarget.kd same) joint
    have feedforward (joint : Index) : (target.feedforward joint).number = _ :=
      congrFun (congrArg ImpedanceTarget.feedforward same) joint
    constructor
    · rw [encodedTarget_finite]
      intro joint
      rw [position, velocity, kp, kd, feedforward]
      exact ⟨rfl, rfl, rfl, rfl, rfl⟩
    · intro joint
      simp only [encodedTarget, kp]
      exact (gains joint).1
    · intro joint
      simp only [encodedTarget, kd]
      exact (gains joint).2
  · intro valid
    have finite := encodedTarget_finite.mp valid.finite
    refine ⟨⟨fun joint => (target.position joint).number.value,
      fun joint => (target.velocity joint).number.value,
      fun joint => (target.kp joint).number.value, fun joint => (target.kd joint).number.value,
      fun joint => (target.feedforward joint).number.value⟩, validateTarget_eq_ok.mpr ⟨?_, ?_⟩⟩
    · apply ImpedanceTarget.ext <;> funext joint
      · exact Double.eq_finite (finite joint).1
      · exact Double.eq_finite (finite joint).2.1
      · exact Double.eq_finite (finite joint).2.2.1
      · exact Double.eq_finite (finite joint).2.2.2.1
      · exact Double.eq_finite (finite joint).2.2.2.2
    · exact fun joint => ⟨valid.kp joint, valid.kd joint⟩

/-- When `encode_target` returns, and with which bytes. -/
theorem encodeTargetMessage_eq_ok {target : ImpedanceTarget Binary64}
    {sequence stamp hash source : UInt64} :
    encodeTargetMessage target sequence stamp hash source = .ok message ↔
      (encodedTarget target sequence stamp hash source).Valid ∧
        (sequence ≠ 0 ∧ stamp ≠ 0 ∧ stamp.toNat < 2 ^ 63 ∧ source ≠ 0) ∧
        message = (encodedTarget target sequence stamp hash source).toBytes := by
  simp only [encodeTargetMessage, except_bind_eq_ok, raiseIf_eq_ok, putNumbers_eq_toBytes,
    not_or, not_le]
  constructor
  · rintro ⟨values, passed, _, metadata, made⟩
    exact ⟨validateTarget_numbers.mp ⟨values, passed⟩, metadata, (Except.ok.inj made).symm⟩
  · rintro ⟨valid, metadata, rfl⟩
    obtain ⟨values, passed⟩ := validateTarget_numbers.mpr valid
    exact ⟨values, passed, (), metadata, rfl⟩

end Client

/-! ## The packets as values -/

section Values

variable {message : List UInt8}

theorem wordField_number (message : List UInt8) (offset : ℕ) :
    Binary64.number (wordField message offset) = doubleField message offset := by
  rw [Binary64.number, toNat_wordField, doubleField]

theorem toInt_wordField (message : List UInt8) (offset : ℕ) :
    (wordField message offset).toInt64.toInt = signedField message offset := by
  rw [signedField, wrap64, ← toNat_wordField]
  exact BitVec.toInt_eq_toNat_bmod _

/-- The values of a state packet; the controller publishes finite ones. -/
def PackedStatePacket.value (packet : PackedStatePacket) : StatePacket :=
  { magic := List.ofFn packet.magic
    version := packet.version.toNat
    kind := packet.kind.toNat
    sequence := packet.sequence.toNat
    monotonicNs := packet.monotonicNs.toInt
    motorOrderHash := packet.motorOrderHash.toNat
    positionRad := fun joint => (packet.positionRad joint).number.value
    velocityRadS := fun joint => (packet.velocityRadS joint).number.value }

def DecodedState.value (decoded : DecodedState) : PolicyState :=
  { sequence := decoded.sequence
    stamp := decoded.stamp
    position := fun joint => (decoded.position joint).number.value
    velocity := fun joint => (decoded.velocity joint).number.value }

/-- What the controller makes of the structure that it receives. -/
def PackedTargetPacket.value (packet : PackedTargetPacket) : TargetPacket :=
  { magic := List.ofFn packet.magic
    version := packet.version.toNat
    kind := packet.kind.toNat
    sequence := packet.sequence.toNat
    monotonicNs := packet.monotonicNs.toInt
    jointOrderHash := packet.jointOrderHash.toNat
    sourceStateSequence := packet.sourceStateSequence.toNat
    positionRad := fun joint => (packet.positionRad joint).number
    velocityRadS := fun joint => (packet.velocityRadS joint).number
    kp := fun joint => (packet.kp joint).number
    kd := fun joint => (packet.kd joint).number
    feedforwardTorqueNm := fun joint => (packet.feedforwardTorqueNm joint).number }

/-- What the controller reads in a message is the structure in its bytes. -/
theorem TargetPacket.ofBytes_eq (length : 8 ≤ message.length) :
    TargetPacket.ofBytes message = (PackedTargetPacket.ofBytes message).value := by
  have array (start : ℕ) :
      (fun joint : Index => Binary64.number (wordField message (start + 8 * joint))) =
        fun joint : Index => doubleField message (start + 8 * joint) :=
    funext fun joint => wordField_number message _
  simp only [TargetPacket.ofBytes, PackedTargetPacket.value, PackedTargetPacket.ofBytes,
    PacketHeader.ofBytes, PacketHeader.ofFn_magic (by omega : 4 ≤ message.length),
    PacketHeader.toNat_field16, toNat_wordField, toInt_wordField, array, mul_add, ← add_assoc,
    Nat.reduceMul, Nat.reduceAdd]

theorem toInt64_toInt {word : UInt64} (bounded : word.toNat < 2 ^ 63) :
    word.toInt64.toInt = word.toNat := by
  have signed : word.toInt64.toInt = wrap64 word.toNat := BitVec.toInt_eq_toNat_bmod _
  rw [signed]
  exact wrap64_eq_self (by omega) (by omega)

theorem unsigned64_toInt (stamp : Int64) : unsigned64 stamp.toInt = stamp.toUInt64.toNat := by
  have signed : stamp.toInt = wrap64 stamp.toUInt64.toNat := BitVec.toInt_eq_toNat_bmod _
  have bounded : stamp.toUInt64.toNat < 2 ^ 64 := stamp.toUInt64.toNat_lt
  have modulus : (2 ^ 64 : ℤ) = ((2 ^ 64 : ℕ) : ℤ) := by norm_num
  rw [unsigned64, signed, wrap64, modulus, Int.bmod_emod]
  omega

theorem toNat_eq_zero {word : UInt64} : word.toNat = 0 ↔ word = 0 :=
  ⟨fun zero => UInt64.toNat.inj zero, fun zero => zero ▸ rfl⟩

/-- A target that `encode_target` writes is the packet that the controller reads. -/
theorem encodeTargetMessage_ofBytes {target : ImpedanceTarget Binary64}
    {sequence stamp hash source : UInt64}
    (ok : encodeTargetMessage target sequence stamp hash source = .ok message) :
    encodeTarget (targetNumbers target) sequence.toNat stamp.toNat hash.toNat source.toNat =
      .ok (TargetPacket.ofBytes message) := by
  obtain ⟨valid, ⟨some, stamped, early, sourced⟩, rfl⟩ := encodeTargetMessage_eq_ok.mp ok
  obtain ⟨values, passed⟩ := validateTarget_numbers.mpr valid
  have read : TargetPacket.ofBytes
      (encodedTarget target sequence stamp hash source).toBytes = _ :=
    TargetPacket.ofBytes_eq (by rw [PackedTargetPacket.length_toBytes]; decide)
  have numbers := (validateTarget_eq_ok.mp passed).1
  rw [read, PackedTargetPacket.ofBytes_toBytes, encodeTarget]
  refine except_bind_eq_ok.mpr ⟨values, passed, except_bind_eq_ok.mpr ⟨(), ?_, ?_⟩⟩
  · rw [raiseIf_eq_ok]
    simp only [toNat_eq_zero, not_or, not_le]
    exact ⟨some, stamped, early, sourced⟩
  · simp only [← numbers]
    refine congrArg Except.ok ?_
    simp only [PackedTargetPacket.value, encodedTarget, targetNumbers, toInt64_toInt early]
    rfl

/-- A state that `decode_state` reads is the one that the packet holds. -/
theorem decodeStateMessage_value {hash previous now age : ℕ} {decoded : DecodedState}
    (ok : decodeStateMessage message hash previous now age = .ok decoded) :
    decodeState (PackedStatePacket.ofBytes message).value hash previous now age =
      .ok decoded.value := by
  obtain ⟨_, header, order, later, ⟨aged, stamped, past, fresh⟩, _, rfl⟩ :=
    decodeStateMessage_eq_ok.mp ok
  have magic := congrArg (fun header : PacketHeader => List.ofFn header.magic) header
  have version := congrArg (fun header : PacketHeader => header.version.toNat) header
  have kind := congrArg (fun header : PacketHeader => header.kind.toNat) header
  refine except_bind_eq_ok.mpr ⟨(), ?_, except_bind_eq_ok.mpr ⟨(), ?_,
    except_bind_eq_ok.mpr ⟨(), ?_, ?_⟩⟩⟩
  · rw [raiseIf_eq_ok]
    simp only [not_or, not_not]
    exact ⟨magic, version, kind, order⟩
  · rw [raiseIf_eq_ok]
    exact not_le.mpr later
  · rw [stateFresh, raiseIf_eq_ok]
    simp only [PackedStatePacket.value, unsigned64_toInt, not_or, not_lt]
    exact ⟨aged, stamped, past, fresh⟩
  · simp only [PackedStatePacket.value, unsigned64_toInt]
    rfl

end Values

end SpriteRuntime
