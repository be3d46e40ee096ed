import Mathlib
import SpriteRuntime.Foundation.ProgramSteps
import SpriteRuntime.Runtime.ReceiveTimes

/-!
# The commit of a batch

`drain_imu` first collects the packets of all reads, under checks of their age and number, and
then hands them on.  While it hands them on it reads the clock again, so that a packet can
turn out too old when others are already handed on.
-/

namespace SpriteRuntime

open Foundation

/-- `drain_imu` up to the commit, which returns the batch. -/
def collectImu (input : DrainInput) : Program ReceiveState String (List Delivery) := do
  let state ← Program.get
  Program.throwIf (stalePartial state input.started) "IMU partial frame stale"
  Program.modify fun state =>
    { state with
      partialSince := state.partialReceivedNs
      total := 0
      packets := []
      rawFrames := 0
      quaternionFrames := 0 }
  let drained ← Program.anyEach (List.range 8) (drainRound input)
  Program.throwIf (drained = false) "IMU receive queue did not drain"
  Program.throwIf (30000000 < input.finished - input.started)
    "IMU receive batch stale before commit"
  let state ← Program.get
  return state.packets

def commitBatch (input : DrainInput) (batch : List Delivery) :
    Program ReceiveState String Unit :=
  Program.forEach batch.zipIdx (commitPacket input)

theorem drainImu_eq (input : DrainInput) :
    drainImu input = collectImu input >>= commitBatch input := by
  simp only [drainImu, collectImu, Program.bind_assoc]
  rfl

/-- The packets that the feeds decode. -/
def decodedPackets (feeds : List FeedRecord) : List YahboomPacket :=
  feeds.flatMap fun record => (record.decoder.feed record.payload).1.map Prod.snd

/-- A drain hands on every packet that it decodes, in order, and returns, or it raises and has
handed on none. -/
def AllOrNothing (state : ReceiveState) (result : Outcome String Unit × ReceiveState) : Prop :=
  ∃ feeds accepted, result.2.feeds = state.feeds ++ feeds ∧
    result.2.accepted = state.accepted ++ accepted ∧
    ((result.1 = .done () ∧ accepted.map Delivery.packet = decodedPackets feeds) ∨
      ((∃ error, result.1 = .thrown error) ∧ accepted = []))

/-! ## The collection -/

section Collection

variable {start : ReceiveState} {input : DrainInput}

/-- The batch so far is what the feeds of this drain have decoded. -/
structure Collecting (start state : ReceiveState) : Prop where
  accepted : state.accepted = start.accepted
  packets : ∃ feeds, state.feeds = start.feeds ++ feeds ∧
    state.packets.map Delivery.packet = decodedPackets feeds

/-- Nothing is handed on. -/
structure Untouched (start state : ReceiveState) : Prop where
  accepted : state.accepted = start.accepted
  feeds : start.feeds <+: state.feeds

theorem Collecting.untouched {state : ReceiveState} (collecting : Collecting start state) :
    Untouched start state := by
  obtain ⟨feeds, extended, _⟩ := collecting.packets
  exact ⟨collecting.accepted, ⟨feeds, extended.symm⟩⟩

/-- What is handed on, the feeds and the packets of the batch. -/
structure Holding (accepted : List Delivery) (feeds : List FeedRecord)
    (packets : List YahboomPacket) (state : ReceiveState) : Prop where
  accepted : state.accepted = accepted
  feeds : state.feeds = feeds
  packets : state.packets.map Delivery.packet = packets

/-- A packet of a feed is appended to the batch. -/
theorem takePacket_triple {record : FeedRecord} {packetTime : ℤ}
    {entry : (ℕ × YahboomPacket) × ℕ} {accepted : List Delivery} {feeds : List FeedRecord}
    {packets : List YahboomPacket} :
    Program.Triple (Holding accepted feeds packets) (takePacket record packetTime entry)
      (fun _ => Holding accepted feeds (packets ++ [entry.1.2]))
      (fun state => state.accepted = accepted ∧ state.feeds = feeds) := by
  obtain ⟨⟨place, packet⟩, index⟩ := entry
  have counts : ∀ state, Holding accepted feeds packets state →
      Holding accepted feeds packets (state.count packet) := by
    intro state holding
    cases packet <;> exact ⟨holding.accepted, holding.feeds, holding.packets⟩
  refine Program.Triple.modify_bind counts ?_
  refine Program.Triple.get_bind fun known => ?_
  refine Program.Triple.throwIf_bind (fun _ state holding => ?_) fun _ => ?_
  · exact ⟨holding.1.accepted, holding.1.feeds⟩
  · apply Program.Triple.modify
    intro state holding
    refine ⟨holding.1.accepted, holding.1.feeds, ?_⟩
    rw [List.map_append, holding.1.packets]
    rfl

theorem decodedPackets_append_singleton (feeds : List FeedRecord) (record : FeedRecord) :
    decodedPackets (feeds ++ [record]) =
      decodedPackets feeds ++ record.result.found.map Prod.snd := by
  rw [decodedPackets, List.flatMap_append, List.flatMap_singleton, YahboomStreamDecoder.feed_eq]
  rfl

/-- A read hands on nothing, and what its feed decodes goes to the batch. -/
theorem takePayload_triple (started : ℤ) (payload : List UInt8) :
    Program.Triple (Collecting start) (takePayload started payload)
      (fun _ => Collecting start) (Untouched start) := by
  intro state collecting
  obtain ⟨feeds, extended, collected⟩ := collecting.packets
  let record := state.record payload started
  let taken := fun handled : List ((ℕ × YahboomPacket) × ℕ) =>
    Holding start.accepted (start.feeds ++ (feeds ++ [record]))
      (decodedPackets feeds ++ handled.map fun entry => entry.1.2)
  have fed : taken [] (state.fed payload started) := by
    refine ⟨collecting.accepted, ?_, ?_⟩
    · rw [← List.append_assoc, ← extended]
      rfl
    · rw [List.map_nil, List.append_nil, ← collected]
      rfl
  have loop : Program.Triple (taken [])
      (Program.forEach record.result.found.zipIdx
        (takePacket record (packetTimeNs started state.partialSince)))
      (fun _ => taken record.result.found.zipIdx)
      (fun state => state.accepted = start.accepted ∧
        state.feeds = start.feeds ++ (feeds ++ [record])) := by
    apply Program.Triple.forEach
    intro handled entry rest _
    simp only [taken, List.map_append, List.map_singleton, ← List.append_assoc]
    exact takePacket_triple
  rw [takePayload_apply]
  refine (loop _ fed).mono (fun _ holding => ?_) fun left => ?_
  · refine ⟨holding.accepted, _, holding.feeds, ?_⟩
    have packets : record.result.found.zipIdx.map (fun entry => entry.1.2) =
        record.result.found.map Prod.snd := by
      calc record.result.found.zipIdx.map (fun entry => entry.1.2)
          = (record.result.found.zipIdx.map Prod.fst).map Prod.snd := List.map_map.symm
        _ = record.result.found.map Prod.snd := by rw [List.zipIdx_map_fst]
    rw [holding.packets, decodedPackets_append_singleton, packets]
  · exact ⟨left.1, ⟨_, left.2.symm⟩⟩

theorem drainRound_triple (iteration : ℕ) :
    Program.Triple (Collecting start) (drainRound input iteration)
      (fun _ => Collecting start) (Untouched start) := by
  have raise (error : Option String) : Program.Triple (Collecting start) (raiseAny error)
      (fun _ => Collecting start) (Untouched start) := by
    cases error with
    | some text => exact Program.Triple.throw _ fun _ holds => holds.untouched
    | none => exact Program.Triple.pure () fun _ holds => holds
  refine Program.Triple.bind (raise _) fun _ => ?_
  split
  · exact Program.Triple.pure true fun _ holds => holds
  refine Program.Triple.get_bind fun known => ?_
  refine Program.Triple.throwIf_bind (fun _ _ holds => holds.1.untouched) fun _ => ?_
  have read : Program.Triple (fun state => Collecting start state ∧ state = known)
      (raiseAny (input.rounds iteration).readError) (fun _ => Collecting start)
      (Untouched start) :=
    (raise _).consequence (fun _ holds => holds.1) (fun _ _ holds => holds) fun _ left => left
  refine Program.Triple.bind read fun _ => ?_
  split
  · exact Program.Triple.pure true fun _ holds => holds
  · refine Program.Triple.bind (takePayload_triple _ _) fun _ => ?_
    exact Program.Triple.pure false fun _ holds => holds

/-- The collection returns the batch, or hands on nothing. -/
theorem collectImu_triple (start : ReceiveState) :
    Program.Triple (fun state => state = start) (collectImu input)
      (fun batch state => Collecting start state ∧ state.packets = batch) (Untouched start) := by
  have untouched : Untouched start start := ⟨rfl, List.prefix_rfl⟩
  refine Program.Triple.get_bind fun known => ?_
  refine Program.Triple.throwIf_bind (fun _ state same => same.1 ▸ untouched) fun _ => ?_
  have cleared : ∀ state, state = start ∧ state = known → Collecting start
      { state with
        partialSince := state.partialReceivedNs
        total := 0
        packets := []
        rawFrames := 0
        quaternionFrames := 0 } := by
    rintro state ⟨rfl, _⟩
    exact ⟨rfl, [], (List.append_nil _).symm, rfl⟩
  refine Program.Triple.modify_bind cleared ?_
  have drained : Program.Triple (Collecting start)
      (Program.anyEach (List.range 8) (drainRound input))
      (fun _ => Collecting start) (Untouched start) := by
    have rounds : Program.Triple (Collecting start)
        (Program.anyEach (List.range 8) (drainRound input))
        (fun answer state => if answer then Collecting start state else Collecting start state)
        (Untouched start) := by
      apply Program.Triple.anyEach
      intro iteration
      simp only [ite_self]
      exact drainRound_triple iteration
    simpa only [ite_self] using rounds
  refine Program.Triple.bind drained fun _ => ?_
  refine Program.Triple.throwIf_bind (fun _ _ holds => holds.untouched) fun _ => ?_
  refine Program.Triple.throwIf_bind (fun _ _ holds => holds.untouched) fun _ => ?_
  refine Program.Triple.get_bind fun last => ?_
  apply Program.Triple.pure
  rintro state ⟨collecting, rfl⟩
  exact ⟨collecting, rfl⟩

/-- None of the loops is cut off. -/
theorem collectImu_finishes : Program.Finishes (collectImu input) := by
  have raise (error : Option String) : Program.Finishes (raiseAny error) := by
    cases error with
    | some text => exact Program.Finishes.throw text
    | none => exact Program.Finishes.pure ()
  have take (record : FeedRecord) (packetTime : ℤ) (entry : (ℕ × YahboomPacket) × ℕ) :
      Program.Finishes (takePacket record packetTime entry) := by
    refine Program.Finishes.bind (Program.Finishes.modify _) fun _ => ?_
    refine Program.Finishes.bind Program.Finishes.get fun _ => ?_
    refine Program.Finishes.bind (Program.Finishes.throwIf _) fun _ => ?_
    exact Program.Finishes.modify _
  have read (started : ℤ) (payload : List UInt8) :
      Program.Finishes (takePayload started payload) := by
    intro state
    rw [takePayload_apply]
    exact Program.Finishes.forEach (fun entry => take _ _ entry) _
  have round (iteration : ℕ) : Program.Finishes (drainRound input iteration) := by
    refine Program.Finishes.bind (raise _) fun _ => ?_
    split
    · exact Program.Finishes.pure true
    refine Program.Finishes.bind Program.Finishes.get fun _ => ?_
    refine Program.Finishes.bind (Program.Finishes.throwIf _) fun _ => ?_
    refine Program.Finishes.bind (raise _) fun _ => ?_
    split
    · exact Program.Finishes.pure true
    · exact Program.Finishes.bind (read _ _) fun _ => Program.Finishes.pure false
  refine Program.Finishes.bind Program.Finishes.get fun _ => ?_
  refine Program.Finishes.bind (Program.Finishes.throwIf _) fun _ => ?_
  refine Program.Finishes.bind (Program.Finishes.modify _) fun _ => ?_
  refine Program.Finishes.bind (Program.Finishes.anyEach round) fun _ => ?_
  refine Program.Finishes.bind (Program.Finishes.throwIf _) fun _ => ?_
  refine Program.Finishes.bind (Program.Finishes.throwIf _) fun _ => ?_
  exact Program.Finishes.bind Program.Finishes.get fun _ => Program.Finishes.pure _

end Collection

/-! ## The commit -/

section Commit

variable {input : DrainInput}

/-- The packet is not too old when the clock is read for it. -/
def CommitFresh (input : DrainInput) (entry : Delivery × ℕ) : Prop :=
  input.commitClock entry.2 - entry.1.receivedNs ≤ 30000000

/-- Once the first packet of the batch is fresh, so is every other when its turn comes. -/
def StaysFresh (input : DrainInput) (batch : List Delivery) : Prop :=
  (∀ first ∈ batch.head?, CommitFresh input (first, 0)) →
    ∀ entry ∈ batch.zipIdx, CommitFresh input entry

variable (willing : ∀ index, input.refusal index = none)

include willing in
theorem commitPacket_fresh {entry : Delivery × ℕ} (fresh : CommitFresh input entry)
    (state : ReceiveState) :
    commitPacket input entry state =
      (.done (), { state with accepted := state.accepted ++ [entry.1] }) := by
  have young : ¬30000000 < input.commitClock entry.2 - entry.1.receivedNs := not_lt.mpr fresh
  simp only [commitPacket, Program.bind_apply, Program.throwIf, if_neg young, willing]
  rfl

theorem commitPacket_stale {entry : Delivery × ℕ} (stale : ¬CommitFresh input entry)
    (state : ReceiveState) :
    commitPacket input entry state = (.thrown "IMU decoded packet stale before commit", state) := by
  have old : 30000000 < input.commitClock entry.2 - entry.1.receivedNs := not_le.mp stale
  simp only [commitPacket, Program.bind_apply, Program.throwIf, if_pos old]
  rfl

include willing in
/-- The loop hands on the packets up to the first stale one. -/
theorem commitLoop (entries : List (Delivery × ℕ)) (state : ReceiveState) :
    ((∀ entry ∈ entries, CommitFresh input entry) →
      Program.forEach entries (commitPacket input) state =
        (.done (), { state with accepted := state.accepted ++ entries.map Prod.fst })) ∧
    ((∃ entry ∈ entries, ¬CommitFresh input entry) →
      ∃ error handed, Program.forEach entries (commitPacket input) state =
        (.thrown error, { state with accepted := state.accepted ++ handed })) := by
  induction entries generalizing state with
  | nil => simp [Program.forEach]
  | cons entry rest induction =>
      constructor
      · intro fresh
        have first : CommitFresh input entry := fresh entry List.mem_cons_self
        have others : ∀ other ∈ rest, CommitFresh input other := fun other member =>
          fresh other (List.mem_cons_of_mem entry member)
        rw [Program.forEach, Program.bind_apply_done (commitPacket_fresh willing first state),
          (induction _).1 others]
        simp
      · rintro ⟨late, member, stale⟩
        by_cases first : CommitFresh input entry
        · have others : ∃ other ∈ rest, ¬CommitFresh input other := by
            rcases List.mem_cons.mp member with rfl | inside
            · exact absurd first stale
            · exact ⟨late, inside, stale⟩
          obtain ⟨error, handed, ran⟩ := (induction _).2 others
          refine ⟨error, entry.1 :: handed, ?_⟩
          rw [Program.forEach, Program.bind_apply_done (commitPacket_fresh willing first state),
            ran]
          simp
        · refine ⟨"IMU decoded packet stale before commit", [], ?_⟩
          rw [Program.forEach, Program.bind_apply, commitPacket_stale first]
          simp

include willing in
/-- A batch that is collected is handed on as a whole or not at all exactly if it stays
fresh. -/
theorem commitBatch_allOrNothing_iff {start middle : ReceiveState} {batch : List Delivery}
    (collecting : Collecting start middle) (packets : middle.packets = batch) :
    AllOrNothing start (commitBatch input batch middle) ↔ StaysFresh input batch := by
  obtain ⟨feeds, extended, collected⟩ := collecting.packets
  rw [packets] at collected
  have everything := (commitLoop willing batch.zipIdx middle).1
  have notAll := (commitLoop willing batch.zipIdx middle).2
  rw [List.zipIdx_map_fst] at everything
  by_cases all : ∀ entry ∈ batch.zipIdx, CommitFresh input entry
  · have whole : AllOrNothing start (commitBatch input batch middle) := by
      rw [commitBatch, everything all]
      exact ⟨feeds, batch, extended, by rw [collecting.accepted], Or.inl ⟨rfl, collected⟩⟩
    exact iff_of_true whole fun _ => all
  · cases batch with
    | nil => simp at all
    | cons first rest =>
        have head : (first, 0) ∈ (first :: rest).zipIdx := by simp
        by_cases fresh : CommitFresh input (first, 0)
        · have late : ∃ entry ∈ rest.zipIdx 1, ¬CommitFresh input entry := by
            push Not at all
            obtain ⟨entry, member, stale⟩ := all
            rw [List.zipIdx_cons, List.mem_cons] at member
            rcases member with rfl | inside
            · exact absurd fresh stale
            · exact ⟨entry, inside, stale⟩
          obtain ⟨error, handed, ran⟩ := (commitLoop willing _ _).2 late
          have partly : ¬AllOrNothing start (commitBatch input (first :: rest) middle) := by
            rw [commitBatch, List.zipIdx_cons, Program.forEach,
              Program.bind_apply_done (commitPacket_fresh willing fresh middle), ran]
            rintro ⟨_, accepted, _, same, ended⟩
            rcases ended with ⟨returned, _⟩ | ⟨_, none⟩
            · cases returned
            · rw [none, collecting.accepted] at same
              simp at same
          refine iff_of_false partly fun stays => all (stays ?_)
          simpa using fresh
        · have nothing : AllOrNothing start (commitBatch input (first :: rest) middle) := by
            rw [commitBatch, List.zipIdx_cons, Program.forEach, Program.bind_apply,
              commitPacket_stale fresh]
            refine ⟨feeds, [], extended, ?_, Or.inr ⟨⟨_, rfl⟩, rfl⟩⟩
            rw [List.append_nil]
            exact collecting.accepted
          refine iff_of_true nothing fun stays => ?_
          exact absurd (stays first (by simp)) fresh

end Commit

/-- The readings of the clock during a drain do not go back. -/
structure ClockForward (input : DrainInput) : Prop where
  started : input.started ≤ (input.rounds 0).clock
  rounds : Monotone fun iteration => (input.rounds iteration).clock
  finished : ∀ iteration, (input.rounds iteration).clock ≤ input.finished
  commit : input.finished ≤ input.commitClock 0
  commits : Monotone input.commitClock

section Delayed

/-- A drain of two frames; from the second packet on the clock is read so much later. -/
def delayedCommit (delayNs : ℕ) : DrainInput :=
  { singleRead 1000000000 (rawFrameBytes ++ quaternionFrameBytes) with
    commitClock := fun index => 1000000000 + if index = 0 then (0 : ℤ) else delayNs }

theorem delayedCommit_clockForward (delayNs : ℕ) : ClockForward (delayedCommit delayNs) where
  started := le_rfl
  rounds := monotone_const
  finished _ := le_rfl
  commit := le_rfl
  commits := by
    intro first last before
    change (1000000000 + if first = 0 then 0 else (delayNs : ℤ)) ≤
      1000000000 + if last = 0 then 0 else (delayNs : ℤ)
    split <;> split <;> omega

end Delayed

end SpriteRuntime
