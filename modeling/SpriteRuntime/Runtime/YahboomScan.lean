import SpriteRuntime.Runtime.YahboomImu

/-!
# The stream decoder is a scan

`feed` takes out of the buffered bytes what a scan from left to right finds, so that the
result does not depend on the chunks in which a stream arrives.
-/

namespace SpriteRuntime

open Foundation FrameFormat

/-- The frames that a decoder with this bound looks for. -/
def yahboomFormat (maximumFrameLength : ℕ) (bounds : 5 ≤ maximumFrameLength) :
    FrameFormat UInt8 YahboomPacket :=
  { first := 0x7e
    second := 0x23
    lengthOf := UInt8.toNat
    minimum := 5
    maximum := maximumFrameLength
    accept := fun frame => (decodeFrame frame).toOption
    header_le := by decide
    minimum_le := bounds }

/-- What the loop leaves when it takes all that a scan finds. -/
def FeedState.after (state : FeedState) (result : ScanResult UInt8 YahboomPacket) : FeedState :=
  { buffer := result.rest
    rejectedFrameCount := state.rejectedFrameCount + result.rejected
    packets := state.packets ++ result.found }

section Scan

variable {maximum : ℕ} {bounds : 5 ≤ maximum}

/-- Without a header only a first half of one can be left. -/
theorem scan_of_findHeader_eq_none {buffer : List UInt8} (none : findHeader buffer = none) :
    (yahboomFormat maximum bounds).scan buffer =
      .stop (if buffer.getLast? = some 0x7e then [0x7e] else []) := by
  fun_induction findHeader buffer with
  | case1 first second tail header => cases none
  | case2 first second tail header induction =>
      rw [scan_skip header, induction (Option.map_eq_none_iff.mp none)]
      rfl
  | case3 buffer few =>
      match buffer, few with
      | [], _ => simp [scan]
      | [first], _ =>
          by_cases half : first = 0x7e
          · subst half
            simp [scan, yahboomFormat]
          · simp [scan, yahboomFormat, half]
      | first :: second :: tail, few => exact absurd rfl (few first second tail)

/-- The bytes before a header are passed over. -/
theorem scan_of_findHeader_eq_some {buffer : List UInt8} {start : ℕ}
    (found : findHeader buffer = some start) :
    (yahboomFormat maximum bounds).scan buffer =
      (yahboomFormat maximum bounds).scan (buffer.drop start) ∧
    ∃ tail, buffer.drop start = 0x7e :: 0x23 :: tail := by
  fun_induction findHeader buffer generalizing start with
  | case1 first second tail header =>
      cases found
      obtain ⟨rfl, rfl⟩ := header
      exact ⟨rfl, tail, rfl⟩
  | case2 first second tail header induction =>
      obtain ⟨before, here, rfl⟩ := Option.map_eq_some_iff.mp found
      obtain ⟨same, begins⟩ := induction here
      rw [scan_skip header, same]
      exact ⟨rfl, begins⟩
  | case3 buffer few => cases found

/-- The scan goes on, or this was the last round. -/
structure Continues (maximum : ℕ) (bounds : 5 ≤ maximum) (state : FeedState)
    (round : Outcome String Bool × FeedState) : Prop where
  ends : round = (.done false, state.after ((yahboomFormat maximum bounds).scan state.buffer)) ∨
    ∃ next, round = (.done true, next) ∧ next.buffer.length < state.buffer.length ∧
      next.after ((yahboomFormat maximum bounds).scan next.buffer) =
        state.after ((yahboomFormat maximum bounds).scan state.buffer)

theorem continues_of_stop {state : FeedState} {rest : List UInt8}
    (stops : (yahboomFormat maximum bounds).scan state.buffer = .stop rest) :
    Continues maximum bounds state (.done false, { state with buffer := rest }) := by
  refine ⟨.inl ?_⟩
  rw [stops]
  simp [FeedState.after, ScanResult.stop]

theorem continues_of_reject {state : FeedState} {tail : List UInt8}
    (begins : state.buffer = 0x7e :: 0x23 :: tail)
    (refused : (yahboomFormat maximum bounds).verdict state.buffer = .refused) :
    Continues maximum bounds state (.done true, state.reject) := by
  refine ⟨.inr ⟨_, rfl, ?_, ?_⟩⟩
  · simp [FeedState.reject, begins]
  · rw [begins] at refused
    have step : (yahboomFormat maximum bounds).scan (0x7e :: 0x23 :: tail) =
        ((yahboomFormat maximum bounds).scan (0x23 :: tail)).reject := scan_refused refused
    rw [begins, step]
    simp [FeedState.reject, FeedState.after, ScanResult.reject, begins, Nat.add_assoc,
      Nat.add_comm]

theorem continues_of_accept {state : FeedState} {tail : List UInt8} {length : ℕ}
    {packet : YahboomPacket} (begins : state.buffer = 0x7e :: 0x23 :: tail)
    (accepted : (yahboomFormat maximum bounds).verdict state.buffer = .accepted length packet) :
    Continues maximum bounds state (.done true,
      { state with
        buffer := state.buffer.drop length
        packets := state.packets ++ [(state.buffer.length, packet)] }) := by
  have bounded := length_of_accepted accepted
  have positive : 5 ≤ length := bounded.1.1
  refine ⟨.inr ⟨_, rfl, ?_, ?_⟩⟩
  · rw [List.length_drop]
    omega
  · rw [begins] at accepted
    have step : (yahboomFormat maximum bounds).scan (0x7e :: 0x23 :: tail) =
        ((yahboomFormat maximum bounds).scan ((0x7e :: 0x23 :: tail).drop length)).accept
          (tail.length + 2) packet := scan_accepted accepted
    rw [begins, step]
    simp [FeedState.after, ScanResult.accept]

/-- At a header the loop does what the verdict on the frame says. -/
theorem feedAtHeader_spec {state : FeedState} {tail : List UInt8}
    (begins : state.buffer = 0x7e :: 0x23 :: tail) :
    Continues maximum bounds state (feedAtHeader maximum state) := by
  have incomplete (short : (yahboomFormat maximum bounds).verdict state.buffer = .incomplete) :
      Continues maximum bounds state (.done false, state) := by
    apply continues_of_stop
    rw [begins] at short ⊢
    exact scan_incomplete short
  cases tail with
  | nil =>
      have last : feedAtHeader maximum state = (.done false, state) := by
        simp [feedAtHeader, Program.bind_apply, begins]
      rw [last]
      exact incomplete (by rw [begins]; rfl)
  | cons third tail =>
      have long : ¬state.buffer.length < 3 := by simp [begins]
      have length : (state.buffer.getD 2 0).toNat = third.toNat := by simp [begins]
      have size : state.buffer.length = tail.length + 3 := by simp [begins]
      simp only [feedAtHeader, Program.bind_apply, Program.get_apply, length, if_neg long]
      by_cases outside : third.toNat < 5 ∨ maximum < third.toNat
      · rw [if_pos outside]
        apply continues_of_reject begins
        rw [begins]
        apply verdict_of_not_admissible
        simp only [Admissible, yahboomFormat]
        omega
      · have admissible : (yahboomFormat maximum bounds).Admissible third.toNat := by
          simp only [Admissible, yahboomFormat]
          omega
        rw [if_neg outside]
        by_cases short : state.buffer.length < third.toNat
        · rw [if_pos short]
          apply incomplete
          rw [begins]
          exact verdict_of_short admissible (by rwa [size] at short)
        · rw [if_neg short]
          have complete : ¬tail.length + 3 < third.toNat := by rwa [size] at short
          cases decoded : decodeFrame (state.buffer.take third.toNat) with
          | ok packet =>
              apply continues_of_accept begins
              rw [begins] at decoded ⊢
              exact verdict_of_some admissible complete
                (congrArg Except.toOption decoded)
          | error reason =>
              apply continues_of_reject begins
              rw [begins] at decoded ⊢
              exact verdict_of_none admissible complete
                (congrArg Except.toOption decoded)

/-- A round of the loop is a step of the scan. -/
theorem feedRound_spec (state : FeedState) :
    Continues maximum bounds state (feedRound maximum state) := by
  cases found : findHeader state.buffer with
  | none =>
      have last : feedRound maximum state = (.done false,
          { state with
            buffer := if state.buffer.getLast? = some 0x7e then [0x7e] else [] }) := by
        simp [feedRound, Program.bind_apply, found]
      rw [last]
      exact continues_of_stop (scan_of_findHeader_eq_none found)
  | some start =>
      obtain ⟨same, tail, begins⟩ :=
        @scan_of_findHeader_eq_some maximum bounds _ _ found
      have round : feedRound maximum state =
          feedAtHeader maximum { state with buffer := state.buffer.drop start } := by
        simp [feedRound, Program.bind_apply, found]
      rw [round]
      obtain ⟨last | ⟨next, ran, shorter, goes⟩⟩ :=
        @feedAtHeader_spec maximum bounds
          { state with buffer := state.buffer.drop start } tail begins
      · refine ⟨.inl ?_⟩
        rw [last, same]
        rfl
      · refine ⟨.inr ⟨next, ran, ?_, ?_⟩⟩
        · have dropped : (state.buffer.drop start).length ≤ state.buffer.length := by
            rw [List.length_drop]
            omega
          exact shorter.trans_le dropped
        · rw [goes, same]
          rfl

/-- With more rounds than bytes the loop ends and has done the whole scan. -/
theorem loop_feedRound (bounds : 5 ≤ maximum) {fuel : ℕ} {state : FeedState}
    (enough : state.buffer.length < fuel) :
    Program.loop fuel (feedRound maximum) state =
      (.done (), state.after ((yahboomFormat maximum bounds).scan state.buffer)) := by
  induction fuel generalizing state with
  | zero => omega
  | succ fuel induction =>
      obtain ⟨last | ⟨next, ran, shorter, goes⟩⟩ := @feedRound_spec maximum bounds state
      · rw [Program.loop, Program.bind_apply_done last]
        rfl
      · rw [Program.loop, Program.bind_apply_done ran, ← goes]
        exact induction (by omega)

end Scan

namespace YahboomStreamDecoder

variable (decoder : YahboomStreamDecoder)

def format : FrameFormat UInt8 YahboomPacket :=
  yahboomFormat decoder.maximumFrameLength decoder.bounds.1

/-- `feed` takes what the scan of all buffered bytes finds. -/
theorem feed_eq (data : List UInt8) : decoder.feed data =
    ((decoder.format.scan (decoder.buffer ++ data)).found,
      { decoder with
        buffer := (decoder.format.scan (decoder.buffer ++ data)).rest
        rejectedFrameCount := decoder.rejectedFrameCount +
          (decoder.format.scan (decoder.buffer ++ data)).rejected }) := by
  have ran := @loop_feedRound _ decoder.bounds.1 _ (decoder.feedState data)
    (Nat.lt_add_one _)
  rw [feed, ran]
  simp [FeedState.after, feedState, format]

/-- The loop of `feed` ends, however many rounds more it is given. -/
theorem feed_ends (data : List UInt8) (extra : ℕ) :
    Program.loop ((decoder.buffer ++ data).length + 1 + extra)
      (feedRound decoder.maximumFrameLength) (decoder.feedState data) =
        (.done (),
          { buffer := (decoder.feed data).2.buffer
            rejectedFrameCount := (decoder.feed data).2.rejectedFrameCount
            packets := (decoder.feed data).1 }) := by
  have enough : (decoder.feedState data).buffer.length <
      (decoder.buffer ++ data).length + 1 + extra := by
    simp only [feedState]
    omega
  rw [loop_feedRound decoder.bounds.1 enough, feed_eq]
  simp [FeedState.after, feedState, format]

/-- The decoder as its constructor leaves it. -/
def fresh : YahboomStreamDecoder := { decoder with buffer := [], rejectedFrameCount := 0 }

/-- The decoder after it has been given a stream. -/
def scanned (stream : List UInt8) : YahboomStreamDecoder :=
  { decoder with
    buffer := (decoder.format.scan stream).rest
    rejectedFrameCount := (decoder.format.scan stream).rejected }

theorem scanned_nil : decoder.scanned [] = decoder.fresh := by
  simp [scanned, fresh, scan, ScanResult.stop]

/-- A chunk more. -/
theorem scanned_feed (stream data : List UInt8) :
    (decoder.format.scan (stream ++ data)).found.map Prod.snd =
      (decoder.format.scan stream).found.map Prod.snd ++
        ((decoder.scanned stream).feed data).1.map Prod.snd ∧
    ((decoder.scanned stream).feed data).2 = decoder.scanned (stream ++ data) := by
  have longer := @scan_append _ _ decoder.format _ stream data
  have same : (decoder.scanned stream).format = decoder.format := rfl
  rw [feed_eq, same, scanned, scanned, longer]
  simp [ScanResult.append, Function.comp_def]

theorem scanned_feedAll (stream : List UInt8) (chunks : List (List UInt8)) :
    (decoder.format.scan (stream ++ chunks.flatten)).found.map Prod.snd =
      (decoder.format.scan stream).found.map Prod.snd ++
        ((decoder.scanned stream).feedAll chunks).1 ∧
    ((decoder.scanned stream).feedAll chunks).2 = decoder.scanned (stream ++ chunks.flatten) := by
  induction chunks generalizing stream with
  | nil => simp [feedAll]
  | cons chunk chunks induction =>
      obtain ⟨packets, next⟩ := decoder.scanned_feed stream chunk
      obtain ⟨others, last⟩ := induction (stream ++ chunk)
      rw [List.append_assoc] at others last
      simp only [feedAll, next, List.flatten_cons]
      constructor
      · rw [others, packets, List.append_assoc]
      · exact last

/-- However a stream is split, the decoder finds what the scan of the whole stream finds. -/
theorem feedAll_eq_scan (chunks : List (List UInt8)) :
    decoder.fresh.feedAll chunks =
      ((decoder.format.scan chunks.flatten).found.map Prod.snd,
        decoder.scanned chunks.flatten) ∧
    decoder.fresh.feedAll chunks =
      ((decoder.fresh.feed chunks.flatten).1.map Prod.snd,
        (decoder.fresh.feed chunks.flatten).2) ∧
    (decoder.fresh.feedAll chunks).2.buffer.length < decoder.maximumFrameLength ∧
    ∀ data extra, Program.loop ((decoder.buffer ++ data).length + 1 + extra)
      (feedRound decoder.maximumFrameLength) (decoder.feedState data) =
        (.done (),
          { buffer := (decoder.feed data).2.buffer
            rejectedFrameCount := (decoder.feed data).2.rejectedFrameCount
            packets := (decoder.feed data).1 }) := by
  have nothing : (decoder.format.scan []).found = [] := by simp [scan, ScanResult.stop]
  obtain ⟨packets, last⟩ := decoder.scanned_feedAll [] chunks
  obtain ⟨whole, final⟩ := decoder.scanned_feed [] chunks.flatten
  rw [scanned_nil, nothing, List.map_nil, List.nil_append, List.nil_append] at *
  refine ⟨Prod.ext packets.symm last, Prod.ext ?_ ?_, ?_, decoder.feed_ends⟩
  · rw [← packets, whole]
  · rw [last, final]
  · rw [last]
    exact length_rest_lt chunks.flatten

end YahboomStreamDecoder

end SpriteRuntime
