import Mathlib.Data.Fintype.Pi
import SpriteRuntime.Foundation.FrameScan
import SpriteRuntime.Foundation.Program
import SpriteRuntime.Foundation.Wire

/-!
# The serial protocol of the Yahboom IMU

`YahboomStreamDecoder` keeps the bytes that no frame has taken yet.  What a frame carries is
kept as it was sent: signed counts, and the bit patterns of binary32 numbers.
-/

namespace SpriteRuntime

open Foundation

/-- `YahboomRawImu`, `YahboomQuaternion` and `YahboomEuler`. -/
inductive YahboomPacket where
  | rawImu (counts : Fin 9 → ℤ)
  | quaternion (wxyz : Fin 4 → ℕ)
  | euler (rollPitchYaw : Fin 3 → ℕ)
  deriving DecidableEq

/-- `FRAME_HEADER`. -/
def frameHeader : List UInt8 := [0x7e, 0x23]

/-- `f"{value:02x}"`. -/
def hexByte (value : UInt8) : String :=
  String.ofList [Nat.digitChar (value.toNat / 16), Nat.digitChar (value.toNat % 16)]

/-- `decode_frame`. -/
def decodeFrame (frame : List UInt8) : Except String YahboomPacket := do
  raiseIf (frame.length < 5 ∨ frame.take 2 ≠ frameHeader) "invalid Yahboom frame header"
  raiseIf ((frame.getD 2 0).toNat ≠ frame.length) "Yahboom frame length mismatch"
  raiseIf ((frame.dropLast.map UInt8.toNat).sum % 256 ≠ (frame.getLastD 0).toNat)
    "Yahboom frame checksum mismatch"
  let function := frame.getD 3 0
  let payload := (frame.drop 4).dropLast
  if function = 0x04 ∧ payload.length = 18 then
    return .rawImu fun index => signed16Field payload (2 * index)
  else if function = 0x16 ∧ payload.length = 16 then
    return .quaternion fun index => unsignedField payload (4 * index) 4
  else if function = 0x26 ∧ payload.length = 12 then
    return .euler fun index => unsignedField payload (4 * index) 4
  else
    throw ("unsupported Yahboom frame function 0x" ++ hexByte function ++ " with " ++
      toString payload.length ++ " payload bytes")

/-- `bytearray.find` with the header. -/
def findHeader : List UInt8 → Option ℕ
  | first :: second :: tail =>
      if first = 0x7e ∧ second = 0x23 then some 0
      else (findHeader (second :: tail)).map (· + 1)
  | _ => none

structure YahboomStreamDecoder where
  maximumFrameLength : ℕ := 64
  bounds : 5 ≤ maximumFrameLength ∧ maximumFrameLength ≤ 255 := by decide
  buffer : List UInt8 := []
  rejectedFrameCount : ℕ := 0

/-- The variables of `feed`.  A packet has the number of bytes that were buffered when it was
taken, its own first one and those behind it. -/
structure FeedState where
  buffer : List UInt8
  rejectedFrameCount : ℕ
  packets : List (ℕ × YahboomPacket) := []

/-- A header is passed over. -/
def FeedState.reject (state : FeedState) : FeedState :=
  { state with
    buffer := state.buffer.drop 1
    rejectedFrameCount := state.rejectedFrameCount + 1 }

/-- The rest of a round, with a header at the front of the buffer. -/
def feedAtHeader (maximumFrameLength : ℕ) : Program FeedState String Bool := do
  let state ← Program.get
  let length := (state.buffer.getD 2 0).toNat
  if state.buffer.length < 3 then return false
  else if length < 5 ∨ maximumFrameLength < length then do
    Program.modify FeedState.reject
    return true
  else if state.buffer.length < length then return false
  else
    match decodeFrame (state.buffer.take length) with
    | .ok packet => do
        Program.modify fun state =>
          { state with
            buffer := state.buffer.drop length
            packets := state.packets ++ [(state.buffer.length, packet)] }
        return true
    | .error _ => do
        Program.modify FeedState.reject
        return true

/-- A round of the loop of `feed`, and whether there is another one. -/
def feedRound (maximumFrameLength : ℕ) : Program FeedState String Bool := do
  let state ← Program.get
  match findHeader state.buffer with
  | none => do
      Program.modify fun state =>
        { state with buffer := if state.buffer.getLast? = some 0x7e then [0x7e] else [] }
      return false
  | some start => do
      Program.modify fun state => { state with buffer := state.buffer.drop start }
      feedAtHeader maximumFrameLength

namespace YahboomStreamDecoder

variable (decoder : YahboomStreamDecoder)

/-- The variables when `feed` enters its loop. -/
def feedState (data : List UInt8) : FeedState :=
  { buffer := decoder.buffer ++ data
    rejectedFrameCount := decoder.rejectedFrameCount }

/-- `feed`; every round but the last takes a byte, so that the loop has rounds enough. -/
def feed (data : List UInt8) : List (ℕ × YahboomPacket) × YahboomStreamDecoder :=
  let start := decoder.feedState data
  let final := (Program.loop (start.buffer.length + 1)
    (feedRound decoder.maximumFrameLength) start).2
  (final.packets, { decoder with
    buffer := final.buffer
    rejectedFrameCount := final.rejectedFrameCount })

/-- The chunks one after another, with the packets of all of them. -/
def feedAll : YahboomStreamDecoder → List (List UInt8) → List YahboomPacket × YahboomStreamDecoder
  | decoder, [] => ([], decoder)
  | decoder, chunk :: chunks =>
      let (packets, next) := decoder.feed chunk
      let (others, final) := next.feedAll chunks
      (packets.map Prod.snd ++ others, final)

end YahboomStreamDecoder

end SpriteRuntime
