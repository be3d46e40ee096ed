import SpriteRuntime.Runtime.ImuReceive

/-!
# When the packets of the IMU were received

The first packet of a read gets the time of the leftover bytes, and every other one the time
of the drain.  That is right as long as nothing behind the first packet begins in bytes of an
earlier drain, which a false header in the leftover bytes may bring about.
-/

namespace SpriteRuntime

open Foundation FrameFormat

namespace FeedRecord

variable (record : FeedRecord)

/-- What the scan of the leftover bytes and the new ones finds. -/
def result : ScanResult UInt8 YahboomPacket :=
  record.decoder.format.scan (record.decoder.buffer ++ record.payload)

/-- Behind the first frame that the scan accepts, no frame begins in bytes of an earlier drain
and none of them is left over. -/
def Orderly : Prop :=
  record.result.found ≠ [] →
    (∀ entry ∈ record.result.found.tail, record.started ≤ record.stampAt entry.1) ∧
    ∀ stamp ∈ record.lastStamps record.result.rest.length, record.started ≤ stamp

/-- The same with what `feed` computes. -/
theorem orderly_iff : record.Orderly ↔
    ((record.decoder.feed record.payload).1 ≠ [] →
      (∀ entry ∈ (record.decoder.feed record.payload).1.tail,
        record.started ≤ record.stampAt entry.1) ∧
      ∀ stamp ∈ record.lastStamps (record.decoder.feed record.payload).2.buffer.length,
        record.started ≤ stamp) := by
  rw [YahboomStreamDecoder.feed_eq]
  rfl

instance : Decidable record.Orderly := decidable_of_iff _ record.orderly_iff.symm

/-- Every byte that is scanned has a stamp. -/
def Stamped : Prop := record.stamps.length = record.decoder.buffer.length

variable {record}

theorem Stamped.length_allStamps (stamped : record.Stamped) :
    record.allStamps.length = (record.decoder.buffer ++ record.payload).length := by
  rw [allStamps, List.length_append, List.length_replicate, List.length_append, stamped]

theorem Stamped.length_lastStamps (stamped : record.Stamped) :
    (record.lastStamps record.result.rest.length).length = record.result.rest.length := by
  have shorter := (@rest_suffix _ _ record.decoder.format _
    (record.decoder.buffer ++ record.payload)).length_le
  rw [lastStamps, List.length_drop, stamped.length_allStamps]
  unfold result
  omega

theorem Stamped.stampAt_mem (stamped : record.Stamped) {entry : ℕ × YahboomPacket}
    (found : entry ∈ record.result.found) : record.stampAt entry.1 ∈ record.allStamps := by
  have bounds := place_bounds _ entry found
  rw [← stamped.length_allStamps] at bounds
  have inside : record.allStamps.length - entry.1 < record.allStamps.length := by omega
  rw [stampAt, List.getD_eq_getElem?_getD, List.getElem?_eq_getElem inside]
  exact List.getElem_mem inside

theorem mem_allStamps_of_mem_lastStamps {stamp : ℤ} {count : ℕ}
    (member : stamp ∈ record.lastStamps count) : stamp ∈ record.allStamps :=
  List.mem_of_mem_drop member

end FeedRecord

/-- The packets have no later time than their first bytes. -/
def Conservative (deliveries : List Delivery) : Prop :=
  ∀ delivery ∈ deliveries, delivery.receivedNs ≤ delivery.firstByteNs

/-- The times of the state are not later than the bytes and packets that they stand for. -/
structure Truthful (state : ReceiveState) : Prop where
  stamped : state.stamps.length = state.decoder.buffer.length
  since : state.partialSince = state.partialReceivedNs
  early : ∀ stamp ∈ state.stamps, ∃ since ∈ state.partialReceivedNs, since ≤ stamp
  packets : Conservative state.packets
  accepted : Conservative state.accepted

/-- The state is truthful if all feeds so far were orderly. -/
def TruthfulIfOrderly (state : ReceiveState) : Prop :=
  (∀ record ∈ state.feeds, record.Orderly) → Truthful state

theorem Conservative.concat {deliveries : List Delivery} (conservative : Conservative deliveries)
    {delivery : Delivery} (early : delivery.receivedNs ≤ delivery.firstByteNs) :
    Conservative (deliveries ++ [delivery]) := by
  intro other member
  rcases List.mem_append.mp member with before | last
  · exact conservative other before
  · rw [List.mem_singleton.mp last]
    exact early

section Feed

variable {state : ReceiveState} {payload : List UInt8} {started : ℤ}

/-- The feed of a read. -/
def ReceiveState.record (state : ReceiveState) (payload : List UInt8) (started : ℤ) : FeedRecord :=
  { decoder := state.decoder
    stamps := state.stamps
    payload
    started }

/-- The time of the first packet is not later than any byte that is scanned. -/
theorem Truthful.packetTime_le (truthful : Truthful state) {stamp : ℤ}
    (member : stamp ∈ (state.record payload started).allStamps) :
    packetTimeNs started state.partialSince ≤ stamp := by
  have upper : packetTimeNs started state.partialSince ≤ started := by
    unfold packetTimeNs
    split
    · exact min_le_left _ _
    · exact le_rfl
  rcases List.mem_append.mp member with old | new
  · obtain ⟨since, known, le⟩ := truthful.early stamp old
    rw [truthful.since, Option.mem_def.mp known]
    exact (min_le_right started since).trans le
  · rw [(List.mem_replicate.mp new).2]
    exact upper

/-- The times that the packets of a read get. -/
theorem Truthful.time_le (truthful : Truthful state)
    (orderly : (state.record payload started).Orderly)
    {entry : (ℕ × YahboomPacket) × ℕ}
    (member : entry ∈ (state.record payload started).result.found.zipIdx) :
    (if entry.2 = 0 then packetTimeNs started state.partialSince else started) ≤
      (state.record payload started).stampAt entry.1.1 := by
  obtain ⟨⟨place, packet⟩, index⟩ := entry
  have found := List.mem_zipIdx' member
  split
  · apply truthful.packetTime_le
    have stamped : (state.record payload started).Stamped := truthful.stamped
    apply stamped.stampAt_mem
    rw [found.2]
    exact List.getElem_mem found.1
  next later =>
      cases index with
      | zero => exact absurd rfl later
      | succ index =>
          have nonempty : (state.record payload started).result.found ≠ [] := by
            exact List.ne_nil_of_length_pos (by omega)
          have inTail : (place, packet) ∈ (state.record payload started).result.found.tail := by
            rw [List.mem_iff_getElem]
            refine ⟨index, ?_, ?_⟩
            · rw [List.length_tail]
              omega
            · rw [List.getElem_tail, found.2]
          exact (orderly nonempty).1 _ inTail

/-- The state once the bytes are fed to the decoder, with the packets still to be taken. -/
def ReceiveState.fed (state : ReceiveState) (payload : List UInt8) (started : ℤ) :
    ReceiveState :=
  let record := state.record payload started
  let partialSince :=
    if record.result.rest = [] then none
    else some (if record.result.found = [] then packetTimeNs started state.partialSince
      else started)
  { state with
    total := state.total + payload.length
    decoder := (state.decoder.feed payload).2
    partialSince
    partialReceivedNs := partialSince
    stamps := record.lastStamps record.result.rest.length
    feeds := state.feeds ++ [record] }

theorem Truthful.fed (truthful : Truthful state)
    (orderly : (state.record payload started).Orderly) :
    Truthful (state.fed payload started) := by
  have stamped : (state.record payload started).Stamped := truthful.stamped
  have length := stamped.length_lastStamps
  have buffer : (state.decoder.feed payload).2.buffer =
      (state.record payload started).result.rest := by
    rw [YahboomStreamDecoder.feed_eq]
    rfl
  constructor
  · rw [ReceiveState.fed, buffer]
    exact length
  · rfl
  · intro stamp member
    have left : (state.record payload started).result.rest ≠ [] := by
      intro none
      rw [none] at length
      have inside : stamp ∈ (state.record payload started).lastStamps
        (state.record payload started).result.rest.length := member
      rw [none, List.length_eq_zero_iff.mp length] at inside
      cases inside
    simp only [ReceiveState.fed, if_neg left]
    refine ⟨_, rfl, ?_⟩
    split
    · exact truthful.packetTime_le (FeedRecord.mem_allStamps_of_mem_lastStamps member)
    next decoded => exact (orderly decoded).2 stamp member
  · exact truthful.packets
  · exact truthful.accepted

end Feed

/-! ## Steps and runs -/

section Steps

variable {input : DrainInput}

/-- What a packet of a read leaves of the feeds, and of the truth of the times. -/
theorem takePacket_preserves {record : FeedRecord} {packetTime : ℤ}
    {entry : (ℕ × YahboomPacket) × ℕ} {feeds : List FeedRecord}
    (early : (∀ record ∈ feeds, record.Orderly) →
      (if entry.2 = 0 then packetTime else record.started) ≤ record.stampAt entry.1.1) :
    (takePacket record packetTime entry).Preserves fun state =>
      state.feeds = feeds ∧ TruthfulIfOrderly state := by
  obtain ⟨⟨place, packet⟩, index⟩ := entry
  apply Program.Respects.bind
  · apply Program.Respects.modify
    rintro state ⟨same, truthful⟩
    refine ⟨by cases packet <;> exact same, fun orderly => ?_⟩
    have before : Truthful state := truthful (by cases packet <;> exact orderly)
    cases packet <;>
      exact ⟨before.stamped, before.since, before.early, before.packets, before.accepted⟩
  intro _
  refine Program.Respects.bind Program.Respects.get fun _ => ?_
  refine Program.Respects.bind (Program.Respects.throwIf _) fun _ => ?_
  apply Program.Respects.modify
  rintro state ⟨same, truthful⟩
  refine ⟨same, fun orderly => ?_⟩
  have before : Truthful state := truthful orderly
  exact
    { stamped := before.stamped
      since := before.since
      early := before.early
      packets := before.packets.concat (early (same ▸ orderly))
      accepted := before.accepted }

/-- The feed, and the loop over its packets. -/
theorem takePayload_apply (started : ℤ) (payload : List UInt8) (state : ReceiveState) :
    takePayload started payload state =
      Program.forEach (state.record payload started).result.found.zipIdx
        (takePacket (state.record payload started) (packetTimeNs started state.partialSince))
        (state.fed payload started) := by
  simp only [takePayload, Program.bind_apply, Program.get_apply, Program.modify_apply,
    ReceiveState.fed, YahboomStreamDecoder.feed_eq]
  rfl

theorem takePayload_preserves (started : ℤ) (payload : List UInt8) :
    (takePayload started payload).Preserves TruthfulIfOrderly := by
  intro state truthful
  let feeds := state.feeds ++ [state.record payload started]
  have kept : TruthfulIfOrderly (state.fed payload started) := by
    intro orderly
    have earlier : Truthful state := truthful fun record member =>
      orderly record (List.mem_append_left _ member)
    exact earlier.fed (orderly _ (List.mem_append_right _ (List.mem_singleton_self _)))
  have loop : (Program.forEach (state.record payload started).result.found.zipIdx
      (takePacket (state.record payload started)
        (packetTimeNs started state.partialSince))).Preserves fun state =>
          state.feeds = feeds ∧ TruthfulIfOrderly state := by
    apply Program.Respects.forEach
    intro entry member
    apply takePacket_preserves
    intro orderly
    have earlier : Truthful state := truthful fun record inFeeds =>
      orderly record (List.mem_append_left _ inFeeds)
    exact earlier.time_le
      (orderly _ (List.mem_append_right _ (List.mem_singleton_self _))) member
  rw [takePayload_apply]
  exact (loop _ ⟨rfl, kept⟩).2

theorem raiseAny_respects {related : ReceiveState → ReceiveState → Prop}
    [IsPreorder ReceiveState related] (error : Option String) :
    Program.Respects related (raiseAny error) := by
  cases error with
  | some text => exact Program.Respects.throw text
  | none => exact Program.Respects.pure ()

theorem drainRound_preserves (iteration : ℕ) :
    (drainRound input iteration).Preserves TruthfulIfOrderly := by
  refine Program.Respects.bind (raiseAny_respects _) fun _ => ?_
  split
  · exact Program.Respects.pure true
  refine Program.Respects.bind Program.Respects.get fun _ => ?_
  refine Program.Respects.bind (Program.Respects.throwIf _) fun _ => ?_
  refine Program.Respects.bind (raiseAny_respects _) fun _ => ?_
  split
  · exact Program.Respects.pure true
  · exact Program.Respects.bind (takePayload_preserves _ _) fun _ => Program.Respects.pure false

/-- Handing on a packet of the batch. -/
theorem commitPacket_preserves {entry : Delivery × ℕ} {feeds : List FeedRecord}
    (early : (∀ record ∈ feeds, record.Orderly) → entry.1.receivedNs ≤ entry.1.firstByteNs) :
    (commitPacket input entry).Preserves fun state =>
      state.feeds = feeds ∧ TruthfulIfOrderly state := by
  obtain ⟨delivery, index⟩ := entry
  refine Program.Respects.bind (Program.Respects.throwIf _) fun _ => ?_
  refine Program.Respects.bind ?_ fun _ => ?_
  · apply Program.Respects.modify
    rintro state ⟨same, truthful⟩
    refine ⟨same, fun orderly => ?_⟩
    have before : Truthful state := truthful orderly
    exact
      { stamped := before.stamped
        since := before.since
        early := before.early
        packets := before.packets
        accepted := before.accepted.concat (early (same ▸ orderly)) }
  · exact raiseAny_respects _

/-- The batch is handed on with the times it has. -/
theorem commit_preserves : Program.Preserves TruthfulIfOrderly (do
    let state ← Program.get
    Program.forEach state.packets.zipIdx (commitPacket input)) := by
  intro state truthful
  have loop : (Program.forEach state.packets.zipIdx (commitPacket input)).Preserves fun last =>
      last.feeds = state.feeds ∧ TruthfulIfOrderly last := by
    apply Program.Respects.forEach
    intro entry member
    apply commitPacket_preserves
    intro orderly
    exact (truthful orderly).packets _ (List.fst_mem_of_mem_zipIdx member)
  exact (loop state ⟨rfl, truthful⟩).2

theorem drainImu_preserves : (drainImu input).Preserves TruthfulIfOrderly := by
  unfold drainImu
  refine Program.Respects.bind Program.Respects.get fun _ => ?_
  refine Program.Respects.bind (Program.Respects.throwIf _) fun _ => ?_
  refine Program.Respects.bind ?_ fun _ => ?_
  · apply Program.Respects.modify
    intro state truthful orderly
    have before : Truthful state := truthful orderly
    exact
      { stamped := before.stamped
        since := rfl
        early := before.early
        packets := by
          intro delivery member
          cases member
        accepted := before.accepted }
  refine Program.Respects.bind ?_ fun _ => ?_
  · exact Program.Respects.anyEach fun iteration _ => drainRound_preserves iteration
  refine Program.Respects.bind (Program.Respects.throwIf _) fun _ => ?_
  exact Program.Respects.bind (Program.Respects.throwIf _) fun _ => commit_preserves

end Steps

/-- A decoder that has not been given anything, and nothing received. -/
def ReceiveState.initial (decoder : YahboomStreamDecoder) : ReceiveState :=
  { decoder := decoder.fresh }

theorem truthful_initial (decoder : YahboomStreamDecoder) :
    Truthful (ReceiveState.initial decoder) where
  stamped := rfl
  since := rfl
  early := by
    intro stamp member
    cases member
  packets := by
    intro delivery member
    cases member
  accepted := by
    intro delivery member
    cases member

theorem runDrains_truthful {state : ReceiveState} (truthful : TruthfulIfOrderly state)
    (inputs : List DrainInput) : TruthfulIfOrderly (runDrains state inputs) := by
  induction inputs generalizing state with
  | nil => exact truthful
  | cons input inputs induction => exact induction (drainImu_preserves state truthful)

/-- In a run whose feeds are all orderly no packet has a later time than the drain that read
its first byte. -/
theorem runDrains_conservative (decoder : YahboomStreamDecoder) (inputs : List DrainInput)
    (orderly : ∀ record ∈ (runDrains (ReceiveState.initial decoder) inputs).feeds,
      record.Orderly) :
    Conservative (runDrains (ReceiveState.initial decoder) inputs).accepted :=
  (runDrains_truthful (fun _ => truthful_initial decoder) inputs orderly).accepted

/-! ## Reads that split frames -/

section Reads

/-- A drain with one read. -/
def singleRead (started : ℤ) (payload : List UInt8) : DrainInput :=
  { started
    rounds := fun iteration =>
      { pending := if iteration = 0 then payload.length else 0
        clock := started
        payload }
    finished := started
    commitClock := fun _ => started
    refusal := fun _ => none }

def rawFrameBytes : List UInt8 := [0x7e, 0x23, 0x17, 0x04] ++ List.replicate 18 0 ++ [0xbc]

def quaternionFrameBytes : List UInt8 :=
  [0x7e, 0x23, 0x15, 0x16] ++ List.replicate 16 0 ++ [0xcc]

/-- A frame that comes in two drains has the time of the first one. -/
theorem splitFrame_conservative :
    Conservative (runDrains (ReceiveState.initial {})
      [singleRead 1000000000 (rawFrameBytes.take 8),
        singleRead 1010000000 (rawFrameBytes.drop 8 ++ quaternionFrameBytes)]).accepted :=
  runDrains_conservative {} _ (by decide +kernel)

/-- The header of a frame of 60 bytes before the two frames. -/
def falseHeaderBytes : List UInt8 := [0x7e, 0x23, 0x3c] ++ rawFrameBytes ++ quaternionFrameBytes

/-- Ten milliseconds later the frame of the false header is complete, and refused.  Both frames
behind it are taken from the leftover bytes, and the second one gets the time of the drain. -/
theorem falseHeader_not_conservative :
    ¬Conservative (runDrains (ReceiveState.initial {})
      [singleRead 1000000000 falseHeaderBytes,
        singleRead 1010000000 (List.replicate 13 0)]).accepted := by
  unfold Conservative
  decide +kernel

end Reads

end SpriteRuntime
