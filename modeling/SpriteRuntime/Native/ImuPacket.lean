import Mathlib.Data.Fin.VecNotation
import SpriteRuntime.Foundation.Dictionary
import SpriteRuntime.Foundation.SquareRoots
import SpriteRuntime.Foundation.Words

/-!
# IMU packets

The packets of 192 bytes in which the sensor processes publish a sample, and their encoders.
Arithmetic is exact, so a packet has, beside its bytes, the number that is stored at each offset
of a double; no offset is read both ways.
-/

namespace SpriteRuntime

open Foundation

/-- A packet: its bytes and the doubles at its offsets, with none for one that is not finite. -/
structure ImuPacket (K : Type) where
  size : ℕ
  byte : ℕ → UInt8
  number : ℕ → Option K

/-- The 13 doubles of a packet. -/
@[ext] structure ImuValues (K : Type) where
  acceleration : Fin 3 → K
  gyro : Fin 3 → K
  quaternion : Fin 4 → K
  gravity : Fin 3 → K

variable {K : Type} [Field K] [LinearOrder K]

namespace ImuPacket

/-- The packet in a byte string. -/
def ofBytes (message : List UInt8) : ImuPacket K :=
  { size := message.length
    byte := fun index => message.getD index 0
    number := fun offset =>
      match doubleField message offset with
      | .finite value => some (value : K)
      | .nonfinite => none }

section Read

variable (packet : ImuPacket K)

def slice (offset count : ℕ) : List UInt8 :=
  (List.range count).map fun index => packet.byte (offset + index)

/-- `read_u64`. -/
def readU64 (offset : ℕ) : ℕ := littleEndian (packet.slice offset 8)

/-- The registers that the sensor was read from. -/
def raw : List UInt8 := packet.slice 32 46

/-- Every one of the 13 doubles is finite. -/
def ValuesFinite : Prop := ∀ index : Fin 13, (packet.number (80 + 8 * index)).isSome = true

instance : Decidable packet.ValuesFinite := by
  unfold ValuesFinite
  infer_instance

/-- The double at an offset, if it is finite. -/
def double (offset : ℕ) : K := (packet.number offset).getD 0

def values : ImuValues K :=
  { acceleration := fun index => packet.double (80 + 8 * index)
    gyro := fun index => packet.double (104 + 8 * index)
    quaternion := fun index => packet.double (128 + 8 * index)
    gravity := fun index => packet.double (160 + 8 * index) }

/-- The doubles of the bias. -/
def bias (index : Fin 3) : K := packet.double (56 + 8 * index)

end Read

section Write

/-- `Packet p{}`. -/
def zero : ImuPacket K := ⟨192, fun _ => 0, fun _ => some 0⟩

/-- `memcpy` to an offset. -/
def copy (packet : ImuPacket K) (offset : ℕ) (bytes : List UInt8) : ImuPacket K :=
  { packet with
    byte := fun index =>
      if offset ≤ index ∧ index < offset + bytes.length then bytes.getD (index - offset) 0
      else packet.byte index }

/-- `put64`. -/
def put64 (packet : ImuPacket K) (offset : ℕ) (value : UInt64) : ImuPacket K :=
  packet.copy offset (wordBytes value)

/-- Doubles one after the other from an offset on. -/
def putDoubles (packet : ImuPacket K) (offset : ℕ) (numbers : List K) : ImuPacket K :=
  { packet with
    number := fun index =>
      if offset ≤ index ∧ index < offset + 8 * numbers.length then numbers[(index - offset) / 8]?
      else packet.number index }

end Write

end ImuPacket

/-- The 13 doubles in the order of the packet. -/
def ImuValues.list (values : ImuValues K) : List K :=
  List.ofFn values.acceleration ++ List.ofFn values.gyro ++ List.ofFn values.quaternion ++
    List.ofFn values.gravity

/-- `signed16`. -/
def signed16 (raw : List UInt8) (index : ℕ) : ℤ :=
  let u := (raw.getD index 0).toNat ||| (raw.getD (index + 1) 0).toNat <<< 8
  if 32768 ≤ u then (u : ℤ) - 65536 else u

/-- The magics `SPIMU001`, `SPIMU002` and `SPIMU003`. -/
def imuMagic (digit : UInt8) : List UInt8 := [0x53, 0x50, 0x49, 0x4D, 0x55, 0x30, 0x30, digit]

/-! ## The encoder of hardware samples -/

/-- The numbers that `decode` computes of the registers. -/
def registerValues (raw : List UInt8) : ImuValues K :=
  { acceleration := fun index => (signed16 raw (2 * index) : K) / 100
    gyro := fun index => (signed16 raw (12 + 2 * index) : K) / 900
    quaternion := fun index => (signed16 raw (24 + 2 * index) : K) / 16384
    gravity := fun index => (signed16 raw (38 + 2 * index) : K) / 100 }

/-- The check of the four time stamps that every encoder makes. -/
def StampFailure (sequence start stop : UInt64) : Prop :=
  sequence = 0 ∨ start = 0 ∨ stop < start ∨ 30000000 < stop - start

instance (sequence start stop : UInt64) : Decidable (StampFailure sequence start stop) := by
  unfold StampFailure
  infer_instance

/-- The bytes of a packet before its registers. -/
def ImuPacket.stamped (digit : UInt8) (sequence start stop : UInt64) : ImuPacket K :=
  (((ImuPacket.zero.copy 0 (imuMagic digit)).put64 8 sequence).put64 16 start).put64 24 stop

section Encoders

variable [SquareRoots K]

/-- `decode`. -/
def decodeRegisters (raw : List UInt8) : Except String (ImuValues K) := do
  let values : ImuValues K := registerValues raw
  let norm := ∑ index, values.quaternion index * values.quaternion index
  raiseIf (1 / 20 < |SquareRoots.sqrt norm - 1|) "invalid quaternion norm"
  return values

/-- `encode`. -/
def encodeHardware (raw : Fin 46 → UInt8) (sequence start stop : UInt64) :
    Except String (ImuPacket K) := do
  raiseIf (StampFailure sequence start stop) "invalid sample timestamp or read exceeds30ms"
  let values ← decodeRegisters (List.ofFn raw)
  return ((ImuPacket.stamped 0x31 sequence start stop).copy 32 (List.ofFn raw)).putDoubles 80
    values.list

end Encoders

/-! ## The encoder of software samples -/

/-- The attitude filter, as far as the encoder reads it. -/
structure SixAxis (K : Type) where
  quaternion : Fin 4 → K
  bias : Fin 3 → K

/-- `gravity`. -/
def standardGravity : K := 980665 / 100000

/-- The up vector for a quaternion. -/
def upVector (q : Fin 4 → K) : Fin 3 → K :=
  ![2 * (q 1 * q 3 - q 0 * q 2), 2 * (q 2 * q 3 + q 0 * q 1), 1 - 2 * (q 1 * q 1 + q 2 * q 2)]

namespace SixAxis

variable (filter : SixAxis K)

/-- `up`. -/
def up : Fin 3 → K := upVector filter.quaternion

/-- `corrected_gyro`. -/
def correctedGyro (w : Fin 3 → K) : Fin 3 → K := w - filter.bias

end SixAxis

/-- `raw_accel`. -/
def rawAccel (raw : List UInt8) : Fin 3 → K := fun index => (signed16 raw (2 * index) : K) / 100

/-- `raw_gyro`. -/
def rawGyro (raw : List UInt8) : Fin 3 → K :=
  fun index => (signed16 raw (12 + 2 * index) : K) / 900

/-- The values of `encode_software`. -/
def softwareValues (registers : List UInt8) (filter : SixAxis K) : ImuValues K :=
  { acceleration := rawAccel registers
    gyro := filter.correctedGyro (rawGyro registers)
    quaternion := filter.quaternion
    gravity := fun index => standardGravity * filter.up index }

/-- `encode_software`. -/
def encodeSoftware (raw : Fin 46 → UInt8) (filter : SixAxis K) (sequence start stop : UInt64) :
    Except String (ImuPacket K) := do
  raiseIf (StampFailure sequence start stop) "invalid software IMU timestamp"
  let registers := List.ofFn raw
  return (((ImuPacket.stamped 0x32 sequence start stop).copy 32 (registers.take 18)).putDoubles 56
    (List.ofFn filter.bias)).putDoubles 80 (softwareValues registers filter).list

/-! ## The encoder of ICM samples -/

/-- The scale of the accelerometer counts. -/
def icmAccelerationScale : K := 4 * standardGravity / 32768

/-- The scale of the gyro counts, for the number that `std::acos(-1.0)` stands for. -/
def icmGyroScale (pi : K) : K := 2000 * pi / 180 / 32768

/-- The two bytes of a count. -/
def countBytes (count : Int16) : List UInt8 := bytesOf 2 count.toUInt16.toNat

/-- The quaternion from the sensor to the world. -/
def sensorQuaternion [SquareRoots K] (q : Fin 4 → K) : Fin 4 → K :=
  let h := SquareRoots.sqrt (1 / 2)
  ![h * (q 3 - q 1), h * (q 0 - q 2), h * (q 3 + q 1), -h * (q 0 + q 2)]

/-- The values of `encode_icm`. -/
def icmValues [SquareRoots K] (pi : K) (raw : Fin 6 → Int16) (sensorBias : Fin 3 → K)
    (bodyQ : Fin 4 → K) : ImuValues K :=
  let q := sensorQuaternion bodyQ
  { acceleration := fun index => ((raw (index.castLE (by decide))).toInt : K) *
      icmAccelerationScale
    gyro := fun index => ((raw (index.natAdd 3)).toInt : K) * icmGyroScale pi - sensorBias index
    quaternion := q
    gravity := ![standardGravity * 2 * (q 1 * q 3 - q 0 * q 2),
      standardGravity * 2 * (q 2 * q 3 + q 0 * q 1),
      standardGravity * (1 - 2 * (q 1 * q 1 + q 2 * q 2))] }

/-- `encode_icm`. -/
def encodeIcm [SquareRoots K] (pi : K) (raw : Fin 6 → Int16) (sensorBias : Fin 3 → K)
    (bodyQ : Fin 4 → K) (sequence start stop : UInt64) : Except String (ImuPacket K) := do
  raiseIf (StampFailure sequence start stop) "invalid ICM timestamps"
  raiseIf (1 / 10 ^ 6 < |bodyQ 0 * bodyQ 0 + bodyQ 1 * bodyQ 1 + bodyQ 2 * bodyQ 2 +
    bodyQ 3 * bodyQ 3 - 1|) "ICM quaternion norm"
  return (((ImuPacket.stamped 0x33 sequence start stop).copy 32
    ((List.ofFn raw).flatMap countBytes)).putDoubles 56 (List.ofFn sensorBias)).putDoubles 80
    (icmValues pi raw sensorBias bodyQ).list

end SpriteRuntime
