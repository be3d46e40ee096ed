import SpriteRuntime.Runtime.YahboomScan

/-!
# Receiving from the IMU

`drain_imu` reads what the serial port has, decodes it and hands on the packets, each with
the time that it is said to be received at.  Beside the variables of the code the state has
the times at which the buffered bytes were really read, which no check looks at.
-/

namespace SpriteRuntime

open Foundation

/-- A packet, the time it is given, and the start of the drain that read its first byte. -/
structure Delivery where
  packet : YahboomPacket
  receivedNs : ℤ
  firstByteNs : ℤ
  deriving DecidableEq

/-- What the port and the clock answer in a round of the loop over the reads.  The port may
also fail, when it is asked how much there is to read or when it is read. -/
structure SerialRound where
  pending : ℕ
  clock : ℤ
  payload : List UInt8
  waitingError : Option String := none
  readError : Option String := none

/-- What the port, the clock and the receiver of the packets answer during a drain. -/
structure DrainInput where
  started : ℤ
  rounds : ℕ → SerialRound
  finished : ℤ
  commitClock : ℕ → ℤ
  refusal : ℕ → Option String

/-- A call of `feed`: the bytes left over with the times of their drains, the new bytes, and the
start of the drain. -/
structure FeedRecord where
  decoder : YahboomStreamDecoder
  stamps : List ℤ
  payload : List UInt8
  started : ℤ

structure ReceiveState where
  decoder : YahboomStreamDecoder
  /-- `_partial_received_ns`. -/
  partialReceivedNs : Option ℤ := none
  /-- The start of the drain that read each buffered byte. -/
  stamps : List ℤ := []
  accepted : List Delivery := []
  feeds : List FeedRecord := []
  partialSince : Option ℤ := none
  total : ℕ := 0
  packets : List Delivery := []
  rawFrames : ℕ := 0
  quaternionFrames : ℕ := 0

namespace FeedRecord

variable (record : FeedRecord)

/-- The start of the drain that read each byte that is scanned. -/
def allStamps : List ℤ :=
  record.stamps ++ List.replicate record.payload.length record.started

/-- The start of the drain that read the byte with so many bytes to the end, itself among
them. -/
def stampAt (place : ℕ) : ℤ := record.allStamps.getD (record.allStamps.length - place) 0

/-- The stamps of the last bytes. -/
def lastStamps (count : ℕ) : List ℤ :=
  record.allStamps.drop (record.allStamps.length - count)

end FeedRecord

/-- The count of the packets of a kind in the batch; other kinds are not counted. -/
def ReceiveState.count (state : ReceiveState) : YahboomPacket → ReceiveState
  | .rawImu _ => { state with rawFrames := state.rawFrames + 1 }
  | .quaternion _ => { state with quaternionFrames := state.quaternionFrames + 1 }
  | .euler _ => state

/-- A packet of a feed enters the batch. -/
def takePacket (record : FeedRecord) (packetTime : ℤ) (entry : (ℕ × YahboomPacket) × ℕ) :
    Program ReceiveState String Unit := do
  let ((place, packet), index) := entry
  Program.modify fun state => state.count packet
  let state ← Program.get
  Program.throwIf (2 < state.rawFrames ∨ 2 < state.quaternionFrames)
    "IMU backlog contains more than two report cycles"
  Program.modify fun state =>
    { state with
      packets := state.packets ++
        [{ packet
           receivedNs := if index = 0 then packetTime else record.started
           firstByteNs := record.stampAt place }] }

/-- The time of a first packet that may have begun in the leftover bytes. -/
def packetTimeNs (started : ℤ) : Option ℤ → ℤ
  | some since => min started since
  | none => started

def pythonBool (condition : Prop) [Decidable condition] : String :=
  if condition then "True" else "False"

/-- The text of the error of a large queue, without the elapsed time. -/
def backlogText (state : ReceiveState) (round : SerialRound) (elapsedNs : ℤ)
    (iteration : ℕ) : String :=
  "IMU receive backlog exceeds bounded drain: " ++
    "byte_limit=" ++ pythonBool (256 < state.total + round.pending) ++
    " time_limit=" ++ pythonBool (30000000 < elapsedNs) ++
    " read_bytes=" ++ toString state.total ++ " pending_bytes=" ++ toString round.pending ++
    " iteration=" ++ toString iteration ++ " raw_frames=" ++ toString state.rawFrames ++
    " quaternion_frames=" ++ toString state.quaternionFrames

/-- The bytes of a read go to the decoder, and its packets into the batch. -/
def takePayload (started : ℤ) (payload : List UInt8) : Program ReceiveState String Unit := do
  let state ← Program.get
  let packetTime := packetTimeNs started state.partialSince
  let record : FeedRecord :=
    { decoder := state.decoder
      stamps := state.stamps
      payload
      started }
  let (decoded, decoder) := state.decoder.feed payload
  let partialSince :=
    if decoder.buffer = [] then none
    else some (if decoded = [] then packetTime else started)
  Program.modify fun state =>
    { state with
      total := state.total + payload.length
      decoder
      partialSince
      partialReceivedNs := partialSince
      stamps := record.lastStamps decoder.buffer.length
      feeds := state.feeds ++ [record] }
  Program.forEach decoded.zipIdx (takePacket record packetTime)

/-- The error of a call that may have failed. -/
def raiseAny : Option String → Program ReceiveState String Unit
  | some error => Program.throw error
  | none => return ()

/-- A round of the loop over the reads, and whether it leaves the loop. -/
def drainRound (input : DrainInput) (iteration : ℕ) : Program ReceiveState String Bool := do
  let round := input.rounds iteration
  raiseAny round.waitingError
  if round.pending = 0 then return true
  else do
    let state ← Program.get
    let elapsedNs := round.clock - input.started
    Program.throwIf (256 < state.total + round.pending ∨ 30000000 < elapsedNs)
      (backlogText state round elapsedNs iteration)
    raiseAny round.readError
    if round.payload = [] then return true
    else do
      takePayload input.started round.payload
      return false

/-- A packet of the batch is handed on. -/
def commitPacket (input : DrainInput) (entry : Delivery × ℕ) :
    Program ReceiveState String Unit := do
  let (delivery, index) := entry
  Program.throwIf (30000000 < input.commitClock index - delivery.receivedNs)
    "IMU decoded packet stale before commit"
  Program.modify fun state => { state with accepted := state.accepted ++ [delivery] }
  raiseAny (input.refusal index)

/-- The leftover bytes of an earlier drain are too old. -/
def stalePartial (state : ReceiveState) (started : ℤ) : Prop :=
  state.decoder.buffer ≠ [] ∧ ∃ since ∈ state.partialReceivedNs, 30000000 < started - since

instance (state : ReceiveState) (started : ℤ) : Decidable (stalePartial state started) := by
  unfold stalePartial
  infer_instance

/-- `drain_imu`. -/
def drainImu (input : DrainInput) : Program ReceiveState String Unit := do
  let state ← Program.get
  Program.throwIf (stalePartial state input.started) "IMU partial frame stale"
  Program.modify fun state =>
    { state with
      partialSince := state.partialReceivedNs
      total := 0
      packets := []
      rawFrames := 0
      quaternionFrames := 0 }
  let drained ← Program.anyEach (List.range 8) (drainRound input)
  Program.throwIf (drained = false) "IMU receive queue did not drain"
  Program.throwIf (30000000 < input.finished - input.started)
    "IMU receive batch stale before commit"
  let state ← Program.get
  Program.forEach state.packets.zipIdx (commitPacket input)

/-- Drains one after another; what a failed one leaves is what the next one finds. -/
def runDrains (state : ReceiveState) (inputs : List DrainInput) : ReceiveState :=
  inputs.foldl (fun state input => (drainImu input state).2) state

end SpriteRuntime
